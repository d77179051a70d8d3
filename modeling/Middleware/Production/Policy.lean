/-
The policy of a tenant for production e-mail (`app/email_production_control.py`): the record with the checks of its model, the
requests that change it, and what keeps it from being activated.

`lower` stands for `str.lower()`; a body has passed the checks of its own model before the service sees it.
-/
import Middleware.Incidents.Alerts
import Middleware.Data.Json
import Middleware.Postgres.Outbox

namespace Middleware.Production

open Ledger
open Platform (strip)
open Incidents (Moment)

structure Library where
  lower : String → String
  isoformat : Moment → String
  jsonTime : Moment → String

/-! ## Exceptions -/

def blocked (message : String) : Exc := .other "EmailProductionBlocked" message

def unavailable (message : String) : Exc := .other "EmailProductionUnavailable" message

def rateLimited (message : String) : Exc := .other "EmailProductionRateLimited" message

def conflict (message : String) : Exc := .other "CommunicationsConflict" message

def invalid (message : String) : Exc := .other "RequestValidationError" message

/-- `ValidationError` of the policy's model. -/
def validationError (message : String) : Exc := .other "ValidationError" message

/-! ## The record -/

inductive ProductionMode where
  | safe
  | transactionalCanary
  | transactionalProduction
  | campaignProduction
  deriving DecidableEq

def ProductionMode.value : ProductionMode → String
  | safe => "SAFE"
  | transactionalCanary => "TRANSACTIONAL_CANARY"
  | transactionalProduction => "TRANSACTIONAL_PRODUCTION"
  | campaignProduction => "CAMPAIGN_PRODUCTION"

inductive AuthorizationState where
  | notAuthorized
  | authorizedNotActive
  | active
  | revoked
  deriving DecidableEq

def AuthorizationState.value : AuthorizationState → String
  | notAuthorized => "NOT_AUTHORIZED"
  | authorizedNotActive => "AUTHORIZED_NOT_ACTIVE"
  | active => "ACTIVE"
  | revoked => "REVOKED"

inductive RecipientScope where
  | denyAll
  | allowlist
  | domainAllowlist
  | transactionalAny
  | consentedMarketing
  deriving DecidableEq

def RecipientScope.value : RecipientScope → String
  | denyAll => "DENY_ALL"
  | allowlist => "ALLOWLIST"
  | domainAllowlist => "DOMAIN_ALLOWLIST"
  | transactionalAny => "TRANSACTIONAL_ANY"
  | consentedMarketing => "CONSENTED_MARKETING"

structure EmailProductionPolicy where
  tenantId : String
  enabled : Bool := false
  mode : ProductionMode := .safe
  authorizationState : AuthorizationState := .notAuthorized
  approvedDomains : List String := []
  approvedSenders : List String := []
  recipientScope : RecipientScope := .denyAll
  approvedRecipients : List String := []
  approvedRecipientDomains : List String := []
  approvedCategories : List String := []
  perMinuteLimit : Int := 0
  perHourLimit : Int := 0
  perDayLimit : Int := 0
  validFrom : Option Moment := none
  validUntil : Option Moment := none
  changeId : Option String := none
  approvedBy : Option String := none
  activatedBy : Option String := none
  productionOwner : Option String := none
  monitoringOwner : Option String := none
  escalationOwner : Option String := none
  rollbackOwner : Option String := none
  killSwitchProcedure : Option String := none
  provider : Option String := none
  environment : Option String := none
  approvedReleaseSha : Option String := none
  authorizationTimestamp : Option Moment := none
  activationTimestamp : Option Moment := none
  killSwitchOpen : Bool := false
  version : Int := 1
  updatedAt : Moment
  deriving DecidableEq

def given (text : Option String) : Bool := text.any (· ≠ "")

/-- `re.fullmatch(r"[0-9a-f]{40}", text)`. -/
def isSha1 (text : String) : Bool := decide (text.length = 40) && text.toList.all fun c => c.isDigit || ('a' ≤ c && c ≤ 'f')

namespace EmailProductionPolicy

variable (lib : Library) (p : EmailProductionPolicy)

/-- `normalize_domains`, of one value. -/
def normalizeDomain (value : String) : Option String :=
  let domain := String.ofList ((lib.lower (strip value)).toList.rdropWhile (· = '.'))
  if domain = "" ∨ 253 < domain.length ∨ '@' ∈ domain.toList ∨ domain.toList.head? = some '.' ∨ domain.toList.getLast? = some '.' then
    none
  else some domain

/-- `normalize_addresses`, of one value. -/
def normalizeAddress (value : String) : Option String :=
  let address := lib.lower (strip value)
  if address = "" ∨ address.toList.count '@' ≠ 1 then none else some address

/-- The values in their normal form, which are to be different. -/
def normalizeAll (normalize : String → Option String) (values : List String) : Option (List String) :=
  (values.mapM normalize).filter fun normalized => decide normalized.Nodup

def bounded : Bool :=
  decide (p.approvedDomains.length ≤ 100 ∧ p.approvedSenders.length ≤ 500 ∧ p.approvedRecipients.length ≤ 500 ∧
    p.approvedRecipientDomains.length ≤ 100 ∧ p.approvedCategories.length ≤ 100) &&
  decide (0 ≤ p.perMinuteLimit ∧ p.perMinuteLimit ≤ 100000 ∧ 0 ≤ p.perHourLimit ∧ p.perHourLimit ≤ 1000000 ∧ 0 ≤ p.perDayLimit ∧
    p.perDayLimit ≤ 10000000 ∧ 1 ≤ p.version) &&
  [(p.changeId, 200), (p.approvedBy, 300), (p.activatedBy, 300), (p.productionOwner, 300), (p.monitoringOwner, 300),
    (p.escalationOwner, 300), (p.rollbackOwner, 300), (p.killSwitchProcedure, 4000), (p.provider, 100), (p.environment, 32),
    (p.approvedReleaseSha, 64)].all fun (text, limit) => text.all fun text => decide (text.length ≤ limit)

/-- `validate_window`. -/
def windowed : Bool :=
  (match p.validFrom, p.validUntil with
    | some start, some stop => decide (start.instant < stop.instant)
    | _, _ => true) &&
  (!given p.approvedReleaseSha || p.approvedReleaseSha.all isSha1)

/-- `EmailProductionPolicy.model_validate`. -/
def modelValidate : Except Exc EmailProductionPolicy :=
  match normalizeAll (normalizeDomain lib) p.approvedDomains, normalizeAll (normalizeDomain lib) p.approvedRecipientDomains,
    normalizeAll (normalizeAddress lib) p.approvedSenders, normalizeAll (normalizeAddress lib) p.approvedRecipients with
  | some approvedDomains, some approvedRecipientDomains, some approvedSenders, some approvedRecipients =>
    if p.bounded && p.windowed then
      .ok { p with approvedDomains, approvedRecipientDomains, approvedSenders, approvedRecipients }
    else .error (validationError "policy is out of bounds")
  | _, _, _, _ => .error (validationError "invalid or repeated domain or address")

end EmailProductionPolicy

/-! ## Requests -/

structure AuthorizeEmailProduction where
  expectedVersion : Int
  mode : ProductionMode
  approvedDomains : List String
  approvedSenders : List String
  recipientScope : RecipientScope
  approvedRecipients : List String := []
  approvedRecipientDomains : List String := []
  approvedCategories : List String
  perMinuteLimit : Int
  perHourLimit : Int
  perDayLimit : Int
  validFrom : Moment
  validUntil : Moment
  changeId : String
  productionOwner : String
  monitoringOwner : String
  escalationOwner : String
  rollbackOwner : String
  killSwitchProcedure : String
  provider : String
  environment : String
  approvedReleaseSha : String
  reason : String

structure ControlMutation where
  expectedVersion : Int
  reason : String

/-- The body of a call, by the operation. -/
inductive ControlBody where
  | authorize (body : AuthorizeEmailProduction)
  | activate (body : ControlMutation)
  | revoke (body : ControlMutation)
  | killSwitch (body : ControlMutation) (opened : Bool)

namespace ControlBody

def expectedVersion : ControlBody → Int
  | authorize body => body.expectedVersion
  | activate body => body.expectedVersion
  | revoke body => body.expectedVersion
  | killSwitch body _ => body.expectedVersion

def reason : ControlBody → String
  | authorize body => body.reason
  | activate body => body.reason
  | revoke body => body.reason
  | killSwitch body _ => body.reason

def action : ControlBody → String
  | authorize _ => "authorize"
  | activate _ => "activate"
  | revoke _ => "revoke"
  | killSwitch _ true => "kill-switch-open"
  | killSwitch _ false => "kill-switch-close"

def texts (values : List String) : Json := .arr (values.map .str)

def modelDump (lib : Library) : ControlBody → Json
  | authorize b =>
    .obj [("expectedVersion", .int b.expectedVersion), ("mode", .str b.mode.value), ("approvedDomains", texts b.approvedDomains),
      ("approvedSenders", texts b.approvedSenders), ("recipientScope", .str b.recipientScope.value),
      ("approvedRecipients", texts b.approvedRecipients), ("approvedRecipientDomains", texts b.approvedRecipientDomains),
      ("approvedCategories", texts b.approvedCategories), ("perMinuteLimit", .int b.perMinuteLimit),
      ("perHourLimit", .int b.perHourLimit), ("perDayLimit", .int b.perDayLimit), ("validFrom", .str (lib.jsonTime b.validFrom)),
      ("validUntil", .str (lib.jsonTime b.validUntil)), ("changeId", .str b.changeId), ("productionOwner", .str b.productionOwner),
      ("monitoringOwner", .str b.monitoringOwner), ("escalationOwner", .str b.escalationOwner),
      ("rollbackOwner", .str b.rollbackOwner), ("killSwitchProcedure", .str b.killSwitchProcedure), ("provider", .str b.provider),
      ("environment", .str b.environment), ("approvedReleaseSha", .str b.approvedReleaseSha), ("reason", .str b.reason)]
  | activate b => .obj [("expectedVersion", .int b.expectedVersion), ("reason", .str b.reason)]
  | revoke b => .obj [("expectedVersion", .int b.expectedVersion), ("reason", .str b.reason)]
  | killSwitch b opened => .obj [("expectedVersion", .int b.expectedVersion), ("reason", .str b.reason), ("open", .bool opened)]

/-- `_request_digest`. -/
def requestDigest (lib : Library) (body : ControlBody) : String := Sha256.hexdigest (dumps true (body.modelDump lib))

end ControlBody

/-! ## Activation -/

/-- A record of the domain registry, as far as it is looked at. -/
structure DomainRecord where
  postalDnsPass : Bool
  dkimRotationRequired : Bool
  postRotationRecheckRequired : Bool
  middlewareSendEligible : Bool
  productionReady : Bool

structure Settings where
  productionActivationId : Option String
  emailDeliveryEnabled : Bool
  appEnv : String
  sourceSha : String
  /-- `_domain_registry()`, or why it is not available. -/
  domainRegistry : Except String (List (String × DomainRecord))

def domainBlockers (registry : List (String × DomainRecord)) (domain : String) : List String :=
  match registry.lookup domain with
  | none => ["domain_not_registered:" ++ domain]
  | some record =>
    (if record.postalDnsPass then [] else ["postal_dns_not_pass:" ++ domain]) ++
    (if record.dkimRotationRequired then ["dkim_rotation_incomplete:" ++ domain] else []) ++
    (if record.postRotationRecheckRequired then ["post_rotation_recheck_incomplete:" ++ domain] else []) ++
    (if record.middlewareSendEligible then [] else ["middleware_send_not_eligible:" ++ domain]) ++
    (if record.productionReady then [] else ["domain_not_production_ready:" ++ domain])

namespace EmailProductionPolicy

variable (p : EmailProductionPolicy) (settings : Settings) (now : Time)

def transactional : Bool := decide (p.mode = .transactionalCanary ∨ p.mode = .transactionalProduction)

/-- The fields that an authorization has to fill. -/
def complete : Bool :=
  [p.productionOwner, p.monitoringOwner, p.escalationOwner, p.rollbackOwner, p.killSwitchProcedure, p.approvedBy].all given &&
    p.authorizationTimestamp.isSome && p.validFrom.isSome && p.validUntil.isSome

/-- The conditions of a policy and of the settings, each with its name. -/
def policyBlockers : List (Bool × String) :=
  [(decide (p.authorizationState ≠ .authorizedNotActive ∧ p.authorizationState ≠ .active), "production_authorization_missing"),
    (!p.enabled, "production_policy_disabled"),
    (decide (p.mode = .safe), "production_mode_safe"),
    (decide (p.mode = .campaignProduction), "campaign_compliance_gate_not_certified"),
    (!given settings.productionActivationId, "production_activation_id_missing"),
    (given settings.productionActivationId && decide (p.changeId ≠ settings.productionActivationId),
      "production_activation_id_mismatch"),
    (!settings.emailDeliveryEnabled, "email_delivery_runtime_gate_closed"),
    (p.validFrom.any fun m => decide (now < m.instant), "authorization_not_yet_valid"),
    (p.validUntil.any fun m => decide (m.instant ≤ now), "authorization_expired"),
    (p.approvedDomains.isEmpty, "approved_domains_empty"),
    (p.approvedSenders.isEmpty, "approved_senders_empty"),
    (p.approvedCategories.isEmpty, "approved_categories_empty"),
    (decide ("marketing" ∈ p.approvedCategories), "campaign_category_not_certified"),
    (p.transactional && decide (p.recipientScope ≠ .allowlist ∧ p.recipientScope ≠ .domainAllowlist), "recipient_scope_unbounded"),
    (decide (p.recipientScope = .allowlist) && p.approvedRecipients.isEmpty, "approved_recipients_empty"),
    (decide (p.recipientScope = .domainAllowlist) && p.approvedRecipientDomains.isEmpty, "approved_recipient_domains_empty"),
    (decide (p.provider ≠ some "klyrow-postal"), "provider_authority_mismatch"),
    (decide (p.environment ≠ some settings.appEnv), "policy_environment_mismatch"),
    (decide (p.approvedReleaseSha ≠ some settings.sourceSha), "release_source_mismatch"),
    (!p.complete, "authorization_record_incomplete"),
    (decide (min p.perMinuteLimit (min p.perHourLimit p.perDayLimit) ≤ 0), "quota_not_configured")]

/-- `activation_blockers`. -/
def activationBlockers : Except Exc (List String) :=
  match settings.domainRegistry with
  | .error message => .error (unavailable message)
  | .ok registry =>
    .ok (((p.policyBlockers settings now).filter (·.1)).map (·.2) ++ p.approvedDomains.flatMap (domainBlockers registry))

end EmailProductionPolicy

/-! ## Changes of the policy -/

/-- `value.rsplit("@", 1)[-1]`. -/
def lastPart (value : String) : String := String.ofList (value.toList.rtakeWhile (· ≠ '@'))

namespace AuthorizeEmailProduction

variable (lib : Library) (b : AuthorizeEmailProduction)

def domains : List String :=
  b.approvedDomains.map fun value => String.ofList ((lib.lower (strip value)).toList.rdropWhile (· = '.'))

def senders : List String := b.approvedSenders.map lib.lower

def sendersCovered : Bool := (b.senders lib).all fun sender => decide (lastPart sender ∈ b.domains lib)

end AuthorizeEmailProduction

/-- What an operation makes of the policy. -/
def ControlBody.transform (lib : Library) (actor : String) (now : Time) (p : EmailProductionPolicy) : ControlBody → EmailProductionPolicy
  | .authorize b =>
    { p with
      enabled := true
      mode := b.mode
      authorizationState := .authorizedNotActive
      approvedDomains := b.domains lib
      approvedSenders := b.senders lib
      recipientScope := b.recipientScope
      approvedRecipients := b.approvedRecipients.map lib.lower
      approvedRecipientDomains := b.approvedRecipientDomains
      approvedCategories := b.approvedCategories
      perMinuteLimit := b.perMinuteLimit
      perHourLimit := b.perHourLimit
      perDayLimit := b.perDayLimit
      validFrom := some b.validFrom
      validUntil := some b.validUntil
      changeId := some b.changeId
      approvedBy := some actor
      activatedBy := none
      productionOwner := some b.productionOwner
      monitoringOwner := some b.monitoringOwner
      escalationOwner := some b.escalationOwner
      rollbackOwner := some b.rollbackOwner
      killSwitchProcedure := some b.killSwitchProcedure
      provider := some b.provider
      environment := some b.environment
      approvedReleaseSha := some b.approvedReleaseSha
      authorizationTimestamp := some (.utc now)
      activationTimestamp := none
      killSwitchOpen := false }
  | .activate _ =>
    { p with
      authorizationState := .active, activatedBy := some actor, activationTimestamp := some (.utc now), killSwitchOpen := true }
  | .revoke _ => { p with enabled := false, authorizationState := .revoked, mode := .safe, killSwitchOpen := false }
  | .killSwitch _ opened => { p with killSwitchOpen := opened }

end Middleware.Production
