/-
`ProductionGatedCommunicationsService` (`app/email_production_control.py`): an e-mail passes the policy of its tenant and reserves its
recipients before the shared part of `submit_message` runs. Of what is read first, the gated path leaves out `load_tenant`.
-/
import Middleware.Communications.Hydration
import Middleware.Production.Store

namespace Middleware.Production

open Ledger
open Communications (Submit Durable Store CreateMessageRequest CommunicationMessage)
open Incidents (Moment)

/-! ## The policy's checks of a message -/

/-- The exception of the first check that applies. -/
def refusal (checks : List (Bool × Exc)) : Option Exc := (checks.find? (·.1)).map (·.2)

def optional (text : Option String) : Json := (text.map Json.str).getD .null

def Library.optionalTime (lib : Library) (moment : Option Moment) : Json := optional (moment.map lib.isoformat)

namespace EmailProductionPolicy

variable (lib : Library) (settings : Settings) (p : EmailProductionPolicy)

/-- The policy and the gate of the runtime are open. -/
def openChecks (now : Time) : List (Bool × Exc) :=
  [(!settings.emailDeliveryEnabled, unavailable "email delivery runtime gate is closed"),
    (decide (p.authorizationState ≠ .active), blocked "email production is not active"),
    (!p.enabled, blocked "email production policy is disabled"),
    (!p.killSwitchOpen, blocked "email production kill switch is closed"),
    (p.validFrom.any fun m => decide (now < m.instant), blocked "email production authorization is not yet valid"),
    (p.validUntil.any fun m => decide (m.instant ≤ now), blocked "email production authorization has expired")]

def senderChecks (sender : String) : List (Bool × Exc) :=
  [(decide (lastPart (lib.lower sender) ∉ p.approvedDomains), blocked "sender domain is outside production authorization"),
    (decide (lib.lower sender ∉ p.approvedSenders), blocked "sender identity is outside production authorization")]

/-- The domain of a recipient is one of the policy's. -/
def coversDomain (recipient : String) : Bool :=
  decide ('@' ∈ recipient.toList ∧ lastPart recipient ∈ p.approvedRecipientDomains)

def scopeCheck (recipients : List String) : Bool × Exc :=
  match p.recipientScope with
  | .allowlist =>
    (recipients.any fun recipient => decide (lib.lower recipient ∉ p.approvedRecipients), blocked "recipient is outside production allowlist")
  | .domainAllowlist =>
    (recipients.any fun recipient => !p.coversDomain (lib.lower recipient),
      blocked "recipient domain is outside production authorization")
  | _ => (true, blocked "recipient scope is not bounded")

def contentChecks (category : String) (recipients : List String) : List (Bool × Exc) :=
  if category = "marketing" then
    [(decide (p.mode ≠ .campaignProduction), blocked "campaign email is not authorized"),
      (decide (p.recipientScope ≠ .consentedMarketing), blocked "campaign recipient scope is not authorized")]
  else
    [(decide (category ∉ p.approvedCategories), blocked "message category is outside production authorization"),
      (!p.transactional, blocked "transactional email is not authorized"),
      p.scopeCheck lib recipients,
      (decide (p.mode = .transactionalCanary ∧ p.recipientScope ≠ .allowlist), blocked "canary mode requires recipient allowlist"),
      (decide (p.recipientScope = .denyAll), blocked "recipient scope denies delivery")]

/-- The checks of `guard_request`, in their order. -/
def guardChecks (now : Time) (sender category : String) (recipients : List String) : List (Bool × Exc) :=
  p.openChecks settings now ++ p.senderChecks lib sender ++ p.contentChecks lib category recipients

/-- `governed_metadata`. -/
def governedMetadata (tenantId category : String) : Obj :=
  [("productionAuthorization", .obj
    [("schemaVersion", .str "1.0"), ("tenantId", .str tenantId), ("policyVersion", .int p.version), ("mode", .str p.mode.value),
      ("authorizationState", .str p.authorizationState.value), ("killSwitchOpen", .bool p.killSwitchOpen),
      ("changeId", optional p.changeId), ("category", .str category), ("validFrom", lib.optionalTime p.validFrom),
      ("validUntil", lib.optionalTime p.validUntil), ("provider", optional p.provider),
      ("environment", optional p.environment), ("approvedReleaseSha", optional p.approvedReleaseSha),
      ("authorizationTimestamp", lib.optionalTime p.authorizationTimestamp),
      ("activationTimestamp", lib.optionalTime p.activationTimestamp)])]

end EmailProductionPolicy

/-! ## The service -/

structure GatedService extends Communications.Service where
  control : Library
  /-- The settings of `production_control`, if there is one. -/
  productionControl : Option Settings
  enforceProductionPolicy : Bool

/-- What the gate draws and reads of the clocks: for `guard_request`, for the reservation, and in the ledger. -/
structure Readings where
  reservationId : String
  now : Time
  reservedAt : Time
  recordedAt : Time
  releasedAt : Time

namespace GatedService

variable (svc : GatedService) {σ : Type} [PolicyStore svc.control σ]

/-- The sender that the policy is asked about. -/
def claimedSender (s : Store) (tenantId : String) (r : CreateMessageRequest) : String :=
  match r.sender, r.senderIdentityId with
  | some sender, _ => sender
  | none, some identity => (s.senderIdentities.get (tenantId, identity)).getD ""
  | none, none => ""

/-- `guard_request`. -/
def guardRequest (settings : Settings) (c : Submit svc.library) (sender : String) (g : Readings) (s : σ) :
    Except Exc (EmailProductionPolicy × QuotaReservation) × σ :=
  match get svc.control c.tenantId g.now s with
  | .error e => (.error e, s)
  | .ok policy =>
    let r := c.request.request
    match refusal (policy.guardChecks svc.control settings g.now sender (svc.category r.metadata) r.recipients) with
    | some e => (.error e, s)
    | none =>
      match reserveQuota svc.control c.tenantId g.reservationId r.recipients.length policy g.reservedAt g.recordedAt s with
      | (.error e, s) => (.error e, s)
      | (.ok reservation, s) => (.ok (policy, reservation), s)

/-- The submission with the metadata of the policy that it has passed. -/
def governed (c : Submit svc.library) (policy : EmailProductionPolicy) : Submit svc.library :=
  { c with
    governedMetadata := policy.governedMetadata svc.control c.tenantId (svc.category c.request.request.metadata) }

/-- `_submit_production_email_unlocked` up to the shared part: the submission that it is called with, and the reservation. -/
def pass (c : Submit svc.library) (g : Readings) (cache : Store) (s : σ) :
    Except Exc (Submit svc.library × Option QuotaReservation) × σ :=
  match cache.idempotency.get (c.tenantId, Communications.route, c.idempotencyKey) with
  | some _ => (.ok (c, none), s)
  | none =>
    let r := c.request.request
    if (r.metadata.lookup "productionAuthorization").isSome then
      (.error (invalid "productionAuthorization metadata is reserved for Middleware"), s)
    else
      match svc.productionControl with
      | none => (.error (unavailable "email production control service is unavailable"), s)
      | some settings =>
        if claimedSender cache c.tenantId r = "" then (.error (invalid "sender identity is required"), s)
        else
          match svc.guardRequest settings c (claimedSender cache c.tenantId r) g s with
          | (.error e, s) => (.error e, s)
          | (.ok (policy, reservation), s) => (.ok (svc.governed c policy, some reservation), s)

/-- The answer of a submission that has sent nothing. -/
def unsent : Except Exc (CommunicationMessage × Bool) → Bool
  | .ok (message, duplicate) => duplicate || decide (message.status = .suppressed)
  | .error _ => false

/-- The reservation of a message that was not sent is released. -/
def settle (reservation : Option QuotaReservation) (answer : Except Exc (CommunicationMessage × Bool)) (g : Readings) (s : σ) : σ :=
  match reservation with
  | some r => if unsent answer then PolicyStore.release svc.control r g.releasedAt s else s
  | none => s

/-- `submit_message`. -/
def submitGated (c : Submit svc.library) (g : Readings) (d : Durable) (w : Communications.World) (s : σ) :
    Except Exc (CommunicationMessage × Bool) × Communications.World × σ :=
  if c.request.request.channel ≠ .email ∨ svc.enforceProductionPolicy = false then
    let (answer, w) := svc.submitDurable c d w
    (answer, w, s)
  else
    match d.refreshIdempotency c.tenantId c.idempotencyKey w.store with
    | .error e => (.error e, w, s)
    | .ok cache =>
      match svc.pass c g cache s with
      | (.error e, s) => (.error e, { w with store := cache }, s)
      | (.ok (c', reservation), s) =>
        let (answer, w) := svc.submitMessage c' { w with store := cache }
        (answer, w, svc.settle reservation answer g s)

end GatedService

end Middleware.Production
