/-
The stored telephony commands (`app/core/telephony_commands.py`) and the policy check before their dispatch
(`_validate_policy_for_dispatch` of `app/workers/telephony_commands.py`). A command is stored as the dump of a
validated request and validated again whenever it is claimed: `forbid_application_selected_resources` compares its
expiry with the clock of that moment.

`Library` is what the worker takes from libraries: pydantic's reading of the declared fields, and
`datetime.fromisoformat`.
-/
import Middleware.Data.Json
import Middleware.Ledger.Types

namespace Middleware.Telephony

open Ledger

/-- A `datetime`: its instant in seconds, and whether it carries a time zone. -/
structure Timestamp where
  instant : Time
  aware : Bool

inductive TelephonyCommandType where
  | userApply | userDisable | phoneApply | phoneDisable | endpointApply | endpointDisable | contactRevoke
  | contactsRevokeAll | targetReconcile | agentReconcile | campaignReconcile
  deriving DecidableEq

def TelephonyCommandType.value : TelephonyCommandType → String
  | .userApply => "telephony.vicidial.user.apply"
  | .userDisable => "telephony.vicidial.user.disable"
  | .phoneApply => "telephony.vicidial.phone.apply"
  | .phoneDisable => "telephony.vicidial.phone.disable"
  | .endpointApply => "telephony.asterisk.endpoint.apply"
  | .endpointDisable => "telephony.asterisk.endpoint.disable"
  | .contactRevoke => "telephony.asterisk.contact.revoke"
  | .contactsRevokeAll => "telephony.asterisk.contacts.revoke_all"
  | .targetReconcile => "telephony.target.reconcile"
  | .agentReconcile => "telephony.agent.reconcile"
  | .campaignReconcile => "telephony.campaign.reconcile"

/-- A `TelephonyCommandPayload`; `others` holds the set fields that no function below reads by name. -/
structure TelephonyCommandPayload where
  endpointPublicId : Option String := none
  agentPublicId : Option String := none
  phonePublicId : Option String := none
  contactId : Option String := none
  desiredStateVersion : Nat
  others : Obj := []

/-- A `TelephonyCommandRequest`, as far as the worker reads it. `policy_decision_id` is stored as the text of a UUID or
as null. -/
structure TelephonyCommandRequest where
  commandPublicId : Option String := none
  commandType : TelephonyCommandType
  aggregatePublicId : String
  environment : String
  businessUnitPublicId : String
  campaignPublicId : String
  correlationId : String
  policyDecisionId : Option Uuid := none
  policyDecisionHash : String
  requestedAt : Option Timestamp := none
  expiresAt : Option Timestamp := none
  payload : TelephonyCommandPayload

/-- What the worker takes from libraries. -/
structure Library where
  readFields : Json → Except String TelephonyCommandRequest
  fromisoformat : String → Option Timestamp

/-- `canonical_json`, hashed. -/
def payloadHash (value : Json) : String := Sha256.hexdigest (dumps true value)

/-- Python's `a or b or ...` on texts: the first that is set and not empty. -/
def firstSet (texts : List (Option String)) (default : String) : String :=
  (texts.filterMap id).find? (· ≠ "") |>.getD default

/-- `FORBIDDEN_PAYLOAD_KEYS`. -/
def forbiddenPayloadKeys : List String :=
  ["extension", "server_b_ip", "adapter_base_url", "ami_address", "vicidial_database_host", "pjsip_context",
    "context_name", "trunk", "trunk_name", "telephone_number", "customer_number", "destination_number"]

namespace TelephonyCommandPayload

def field (p : TelephonyCommandPayload) : String → Option String
  | "endpoint_public_id" => p.endpointPublicId
  | "agent_public_id" => p.agentPublicId
  | "phone_public_id" => p.phonePublicId
  | "contact_id" => p.contactId
  | _ => none

/-- The keys of `model_dump(exclude_none=True)`. -/
def dumpKeys (p : TelephonyCommandPayload) : List String :=
  ["endpoint_public_id", "agent_public_id", "phone_public_id", "contact_id"].filter (fun key => (p.field key).isSome) ++
    ["desired_state_version"] ++ p.others.map (·.1)

end TelephonyCommandPayload

namespace TelephonyCommandRequest

/-- The payload fields a command type requires, in the order they are reported. -/
def requirements : TelephonyCommandType → List String
  | .userApply | .userDisable => ["agent_public_id"]
  | .phoneApply | .phoneDisable => ["phone_public_id"]
  | .endpointApply | .endpointDisable | .contactsRevokeAll => ["endpoint_public_id"]
  | .contactRevoke => ["contact_id", "endpoint_public_id"]
  | .targetReconcile | .agentReconcile | .campaignReconcile => []

/-- The check of the timestamps; a command without one of them is not checked. -/
def checkTimes (r : TelephonyCommandRequest) (now : Time) : Except String Unit :=
  match r.requestedAt, r.expiresAt with
  | some requestedAt, some expiresAt =>
    if !requestedAt.aware || !expiresAt.aware then .error "command timestamps must be timezone-aware"
    else if expiresAt.instant ≤ requestedAt.instant then .error "command expiry must follow request time"
    else if expiresAt.instant ≤ now then .error "command is expired"
    else .ok ()
  | _, _ => .ok ()

def missing (r : TelephonyCommandRequest) : List String :=
  (requirements r.commandType).filter fun field => (r.payload.field field).all (· == "")

def forbidApplicationSelectedResources (r : TelephonyCommandRequest) (now : Time) : Except String Unit :=
  match r.checkTimes now with
  | .error message => .error message
  | .ok _ =>
    if r.payload.dumpKeys.any forbiddenPayloadKeys.contains then
      .error "application-selected telephony resource is prohibited"
    else if r.missing ≠ [] then
      .error (r.commandType.value ++ " requires " ++ ", ".intercalate r.missing)
    else .ok ()

/-- `model_validate`. -/
def modelValidate (lib : Library) (now : Time) (raw : Json) : Except String TelephonyCommandRequest :=
  match lib.readFields raw with
  | .error message => .error message
  | .ok r => (r.forbidApplicationSelectedResources now).map fun _ => r

def policyScope (r : TelephonyCommandRequest) : List (String × String) :=
  [("action", "sync"), ("subject", r.aggregatePublicId), ("resource", r.commandType.value),
    ("environment", r.environment), ("business_unit", r.businessUnitPublicId), ("campaign", r.campaignPublicId),
    ("agent", firstSet [r.payload.agentPublicId] "")]

def targetSystem (r : TelephonyCommandRequest) : String :=
  if "telephony.asterisk.".isPrefixOf r.commandType.value then "ASTERISK" else "VICIDIAL"

def targetResourceType (r : TelephonyCommandRequest) : String :=
  if firstSet [r.payload.endpointPublicId] "" ≠ "" then "ENDPOINT"
  else if firstSet [r.payload.phonePublicId] "" ≠ "" then "PHONE"
  else "USER"

def targetPublicId (r : TelephonyCommandRequest) : String :=
  firstSet [r.payload.endpointPublicId, r.payload.phonePublicId, r.payload.agentPublicId] r.aggregatePublicId

end TelephonyCommandRequest

/-! ## Exceptions -/

/-- What can be raised in a run of the worker. -/
inductive Raised where
  | clientError (message : String)
  | readbackPending
  | httpStatus (status : Nat)
  | runtimeError (message : String)
  | validationError (message : String)
  | typeError
  | keyError (key : String)
  | database
  | other
  | cancelled
  deriving DecidableEq

namespace Raised

/-- Whether `except Exception` catches it; a cancelled task raises a `BaseException`. -/
def isException : Raised → Bool
  | .cancelled => false
  | _ => true

/-- `_permanent`. -/
def permanent : Raised → Bool
  | .readbackPending => false
  | .clientError _ => true
  | .httpStatus status => decide (400 ≤ status ∧ status < 500 ∧ status ∉ [408, 409, 425, 429])
  | _ => false

end Raised

/-! ## The policy decision -/

structure PolicyDecision where
  correlationId : String
  allowed : Bool
  context : Obj

/-- Whether a member of the context equals a mapping of texts. -/
def sameScope (stored : Option Json) (scope : List (String × String)) : Bool :=
  match stored with
  | some (.obj members) =>
    members.length == scope.length && scope.all fun m =>
      match members.lookup m.1 with
      | some (.str text) => text == m.2
      | _ => false
  | _ => false

def isTrue : Option Json → Bool
  | some (.bool b) => b
  | _ => false

/-- `_validate_policy_for_dispatch`. -/
def validatePolicyForDispatch (lib : Library) (now : Time) (command : TelephonyCommandRequest) :
    Option PolicyDecision → Except Raised Unit
  | none => .error (.clientError "telephony policy decision is unavailable")
  | some decision =>
    if decision.correlationId ≠ command.correlationId then
      .error (.clientError "telephony policy correlation changed")
    else if payloadHash (.obj decision.context) ≠ command.policyDecisionHash then
      .error (.clientError "telephony policy decision changed")
    else if !sameScope (decision.context.lookup "authorization_scope") command.policyScope then
      .error (.clientError "telephony policy scope changed")
    else if !decision.allowed || !isTrue (decision.context.lookup "enforced") then
      .error (.clientError "telephony policy no longer authorizes dispatch")
    else
      match decision.context.lookup "expiration" with
      | some (.str expiration) =>
        match lib.fromisoformat expiration with
        | none => .error (.clientError "telephony policy expiration is invalid")
        | some expiresAt =>
          if !expiresAt.aware || decide (expiresAt.instant ≤ now) then
            .error (.clientError "telephony policy authorization expired")
          else .ok ()
      | _ => .error (.clientError "telephony policy expiration is invalid")

end Middleware.Telephony
