/-
The campaign-control saga of `app/odoo_campaign_saga.py`: its rows, enrolment, claims, lease recovery, the synthetic adapter
and the writes of a dispatch, with the calls of `app/adapters/odoo/campaign_control.py` and the catalog of
`contracts/odoo/campaign-control.v1.json`.

The audit events and the headers of requests are left out. Evidence is a JSON object and an instant is a number, so what the
database returns of them is what was stored.
-/
import Middleware.Lib.Updates
import Middleware.Policy.Engine
import Middleware.Telephony.Journal

namespace Middleware.Campaign

open Ledger Lib Policy

/-! ## Catalog -/

inductive Operation where
  | provision
  | syntheticTest
  | activate
  | disable
  | reconcile
deriving DecidableEq, Repr

def Operation.value : Operation → String
  | .provision => "provision"
  | .syntheticTest => "synthetic_test"
  | .activate => "activate"
  | .disable => "disable"
  | .reconcile => "reconcile"

inductive EffectiveState where
  | unknown
  | absent
  | provisionedDisabled
  | syntheticTested
  | active
  | disabled
deriving DecidableEq, Repr

def EffectiveState.value : EffectiveState → String
  | .unknown => "unknown"
  | .absent => "absent"
  | .provisionedDisabled => "provisioned_disabled"
  | .syntheticTested => "synthetic_tested"
  | .active => "active"
  | .disabled => "disabled"

/-- `OPERATION_BY_EVENT_TYPE`; its keys are `ALLOWED_EVENT_TYPES`. -/
def operationByEventType : List (String × Operation) :=
  [("campaign.provision.requested.v1", .provision), ("campaign.synthetic_test.requested.v1", .syntheticTest),
    ("campaign.activate.requested.v1", .activate), ("campaign.disable.requested.v1", .disable),
    ("campaign.reconcile.requested.v1", .reconcile)]

/-- `RESULT_STATE_BY_OPERATION`. -/
def resultState : Operation → Option EffectiveState
  | .provision => some .provisionedDisabled
  | .syntheticTest => some .syntheticTested
  | .activate => some .active
  | .disable => some .disabled
  | .reconcile => none

/-- `WRITE_BINDING_BY_ENVIRONMENT`. -/
def writeBinding : String → Option (String × String × String)
  | "staging" => some ("TEST_SYN_TENANT", "TEST_SYN", "TEST_SYN")
  | _ => none

/-! ## Rows -/

/-- A row of `integration_event`. -/
structure IntegrationEvent where
  id : Nat
  sourceSystem : String
  eventType : String
  state : String
  originalEventId : String
  correlationId : String
  payloadJson : Json

/-- `CampaignControlEvent`. -/
structure CampaignControlEvent where
  commandId : String
  organizationPublicId : String
  businessUnitPublicId : String
  campaignPublicId : String
  configurationVersion : Nat
  manifestRef : String
  manifestHash : String

inductive Status where
  | pending
  | reserved
  | retry
  | completed
  | deadLetter
deriving DecidableEq, Repr

/-- `CLAIMABLE_STATUSES`. -/
def Status.claimable : Status → Bool
  | .pending | .retry => true
  | _ => false

/-- COMPLETED or DEAD_LETTER. -/
def Status.terminal : Status → Bool
  | .completed | .deadLetter => true
  | _ => false

/-- A row of `odoo_campaign_saga`. -/
structure OdooCampaignSaga where
  sagaId : Uuid
  integrationEventId : Nat
  eventUuid : String
  eventType : String
  operation : Operation
  commandId : String
  organizationPublicId : String
  businessUnitPublicId : String
  campaignPublicId : String
  configurationVersion : Nat
  manifestRef : String
  manifestHash : String
  correlationId : String
  status : Status
  attempts : Nat := 0
  reservedAt : Option Time := none
  leaseExpiresAt : Option Time := none
  nextAttemptAt : Option Time := none
  lastErrorClass : Option String := none
  effectiveState : Option EffectiveState := none
  evidenceJson : Option Obj := none
  observedAt : Option Time := none
  readbackIdempotencyKey : Option String := none
  readbackAttempt : Nat := 0
  readbackId : Option String := none
  completedAt : Option Time := none

/-- `DesiredState`. -/
structure DesiredState where
  campaignPublicId : String
  configurationVersion : Nat
  desiredState : EffectiveState
  manifestRef : String
  manifestHash : String

/-- The settings of the worker, which `validate_worker_settings` checked, and the library functions it rests on. -/
structure Library where
  environment : String
  leaseSeconds : Nat
  retryLimit : Nat
  retryLimit_pos : 1 ≤ retryLimit
  -- the model validation of pydantic
  validateControl : Json → Option CampaignControlEvent
  validateDesired : Obj → Option DesiredState
  -- `str` of a JSON value
  str : Json → String

/-! ## Enrolment -/

/-- `_text`. -/
def text (lib : Library) (payload : Obj) (field : String) (limit : Nat) : String :=
  match payload.lookup field with
  | none | some .null => ""
  | some value => String.ofList ((lib.str value).toList.take limit)

/-- `_version`. -/
def version (payload : Obj) : Nat :=
  match payload.lookup "configuration_version" with
  | some (.int n) => n.toNat
  | _ => 0

/-- `pending_events_statement`: accepted events of the allowlist with no saga, in the order of their ids. -/
def pendingEvents (limit : Nat) (events : List IntegrationEvent) (sagas : List OdooCampaignSaga) : List IntegrationEvent :=
  ((events.filter fun e =>
    e.sourceSystem == "odoo" && (operationByEventType.map (·.1)).contains e.eventType && e.state == "accepted" &&
      !(sagas.map (·.integrationEventId)).contains e.id).insertionSort fun a b => a.id ≤ b.id).take limit

/-- `saga_for_event`, or none where it raises. -/
def sagaForEvent (lib : Library) (sagaId : Uuid) (event : IntegrationEvent) : Option OdooCampaignSaga :=
  (operationByEventType.lookup event.eventType).map fun operation =>
    match lib.validateControl event.payloadJson with
    | none =>
      let raw := match event.payloadJson with
        | .obj members => members
        | _ => []
      { sagaId := sagaId, integrationEventId := event.id, eventUuid := event.originalEventId, eventType := event.eventType,
        operation := operation, commandId := text lib raw "command_id" 128,
        organizationPublicId := text lib raw "organization_public_id" 128,
        businessUnitPublicId := text lib raw "business_unit_public_id" 128,
        campaignPublicId := text lib raw "campaign_public_id" 128, configurationVersion := version raw,
        manifestRef := text lib raw "manifest_ref" 256, manifestHash := text lib raw "manifest_hash" 80,
        correlationId := event.correlationId, status := .deadLetter, lastErrorClass := some "INVALID_CONTROL_EVENT" }
    | some control =>
      let scope := (control.organizationPublicId, control.businessUnitPublicId, control.campaignPublicId)
      let allowed := (writeBinding lib.environment).all (· == scope)
      { sagaId := sagaId, integrationEventId := event.id, eventUuid := event.originalEventId, eventType := event.eventType,
        operation := operation, commandId := control.commandId, organizationPublicId := control.organizationPublicId,
        businessUnitPublicId := control.businessUnitPublicId, campaignPublicId := control.campaignPublicId,
        configurationVersion := control.configurationVersion, manifestRef := control.manifestRef,
        manifestHash := control.manifestHash, correlationId := event.correlationId,
        status := if allowed then .pending else .deadLetter,
        lastErrorClass := if allowed then none else some "SCOPE_NOT_ALLOWED" }

/-- The unique constraints of the sagas. -/
def unused (saga : OdooCampaignSaga) (sagas : List OdooCampaignSaga) : Bool :=
  !(sagas.map (·.sagaId)).contains saga.sagaId && !(sagas.map (·.integrationEventId)).contains saga.integrationEventId

/-! ## Claims and leases -/

/-- The condition of `claimable_saga_statement`. -/
def OdooCampaignSaga.claimable (now : Time) (saga : OdooCampaignSaga) : Bool :=
  saga.status.claimable && saga.nextAttemptAt.all fun t => decide (t ≤ now)

/-- The row after `claim_saga`. -/
def OdooCampaignSaga.claimed (lib : Library) (now : Time) (saga : OdooCampaignSaga) : OdooCampaignSaga :=
  { saga with
    status := .reserved
    attempts := saga.attempts + 1
    reservedAt := some now
    leaseExpiresAt := some (now + seconds lib.leaseSeconds)
    nextAttemptAt := none }

def OdooCampaignSaga.expired (now : Time) (saga : OdooCampaignSaga) : Bool :=
  saga.status == .reserved && saga.leaseExpiresAt.any fun t => decide (t ≤ now)

/-- The row after `recover_expired_leases`, where its lease expired. -/
def OdooCampaignSaga.recovered (lib : Library) (now : Time) (saga : OdooCampaignSaga) : OdooCampaignSaga :=
  if lib.retryLimit ≤ saga.attempts then
    { saga with
      status := .deadLetter, nextAttemptAt := none, lastErrorClass := some "LEASE_EXPIRED", reservedAt := none
      leaseExpiresAt := none }
  else
    { saga with
      status := .retry, nextAttemptAt := some now, lastErrorClass := some "LEASE_EXPIRED_RECOVERED", reservedAt := none
      leaseExpiresAt := none }

/-! ## Calls to Odoo -/

/-- What a request to Odoo comes to; a response has no body where it is no JSON. -/
inductive Answer where
  | response (statusCode : Nat) (body : Option Json)
  | transportError
  | routeUnresolved

inductive Failure where
  | staleVersion
  | unavailable
  | adapterError
  | transportError
  | routeUnresolved
deriving DecidableEq, Repr

/-- `_decode`. -/
def decode : Answer → Except Failure Obj
  | .transportError => .error .transportError
  | .routeUnresolved => .error .routeUnresolved
  | .response statusCode body =>
    if 500 ≤ statusCode then .error .unavailable
    else if 400 ≤ statusCode then .error .adapterError
    else
      match body with
      | some (.obj members) => .ok members
      | _ => .error .adapterError

/-- `ActualStateReadback`. -/
structure ActualStateReadback where
  eventUuid : String
  commandId : String
  idempotencyKey : String
  attempt : Nat
  organizationPublicId : String
  businessUnitPublicId : String
  campaignPublicId : String
  configurationVersion : Nat
  operation : Operation
  effectiveState : EffectiveState
  manifestRef : String
  manifestHash : String
  evidence : Obj
  observedAt : Time
  correlationId : String
  causationId : String

/-- `value == n` in Python, for a value of a JSON body. -/
def equalsNat (n : Nat) : Json → Bool
  | .int m => m == n
  | .bool b => b.toNat == n
  | .float repr => repr == toString n ++ ".0"
  | _ => false

def equalsStr (s : String) : Json → Bool
  | .str t => t == s
  | _ => false

/-- The response binding of `report_actual_state`. -/
def bound (readback : ActualStateReadback) (body : Obj) : Bool :=
  let holds (key : String) (test : Json → Bool) := (body.lookup key).any test
  holds "status" (equalsStr "APPLIED") && holds "event_uuid" (equalsStr readback.eventUuid) &&
    holds "command_id" (equalsStr readback.commandId) &&
    holds "configuration_version" (equalsNat readback.configurationVersion) &&
    holds "effective_state" (equalsStr readback.effectiveState.value) &&
    holds "correlation_id" (equalsStr readback.correlationId)

/-- `report_actual_state`, once the request was answered: the receipt. -/
def reportActualState (lib : Library) (readback : ActualStateReadback) (answer : Answer) : Except Failure String :=
  match answer, decode answer with
  | .response 409 _, _ => .error .staleVersion
  | _, .error e => .error e
  | _, .ok body =>
    if !bound readback body then .error .adapterError
    else
      match body.lookup "readback_id" with
      | some receipt => if Telephony.truthy receipt then .ok (lib.str receipt) else .error .adapterError
      | none => .error .adapterError

/-! ## Dispatches -/

/-- `AdapterObservation`. -/
structure AdapterObservation where
  effectiveState : EffectiveState
  evidence : Obj
  observedAt : Time

/-- `SyntheticCampaignAdapter.apply`. -/
def apply (now : Time) (saga : OdooCampaignSaga) (desired : DesiredState) : AdapterObservation where
  effectiveState := (resultState saga.operation).getD desired.desiredState
  evidence :=
    [("adapter", .str "synthetic"), ("operation", .str saga.operation.value), ("manifest_ref", .str saga.manifestRef),
      ("manifest_hash", .str saga.manifestHash), ("configuration_version", .int saga.configurationVersion),
      ("provider_writes", .str "disabled")]
  observedAt := now

/-- `TRANSPORT_RETRY_ERROR_CLASSES`. -/
def transportRetryErrorClasses : List String :=
  ["ODOO_TRANSPORT_ERROR", "ODOO_UPSTREAM_UNAVAILABLE", "ODOO_ROUTE_UNRESOLVED"]

/-- `_has_reusable_observation`. -/
def OdooCampaignSaga.hasReusableObservation (saga : OdooCampaignSaga) : Bool :=
  (saga.readbackIdempotencyKey.any fun key => !key.isEmpty) && saga.effectiveState.isSome && saga.observedAt.isSome &&
    saga.lastErrorClass.any transportRetryErrorClasses.contains

/-- How a dispatch ends: the values of `_terminate`. -/
structure Outcome where
  status : Status
  errorClass : Option String
  nextAttemptAt : Option Time := none
  readbackId : Option String := none

def deadLettered (errorClass : String) : Outcome where
  status := .deadLetter
  errorClass := some errorClass

/-- `_retry_or_dead_letter`. -/
def retryOrDeadLetter (lib : Library) (now : Time) (saga : OdooCampaignSaga) (errorClass : String) : Outcome :=
  if lib.retryLimit ≤ saga.attempts then deadLettered errorClass
  else
    { status := .retry, errorClass := some errorClass,
      nextAttemptAt := some (now + seconds (5 * 2 ^ (saga.attempts - 1))) }

/-- `_retryable_error_class`. -/
def Failure.retryableErrorClass : Failure → Option String
  | .unavailable => some "ODOO_UPSTREAM_UNAVAILABLE"
  | .transportError => some "ODOO_TRANSPORT_ERROR"
  | .routeUnresolved => some "ODOO_ROUTE_UNRESOLVED"
  | .staleVersion | .adapterError => none

/-- `_fail`. -/
def fail (lib : Library) (now : Time) (saga : OdooCampaignSaga) (failure : Failure) (rejectedClass : String) : Outcome :=
  if failure = .staleVersion then deadLettered "STALE_CONFIGURATION_VERSION"
  else
    match failure.retryableErrorClass with
    | some errorClass => retryOrDeadLetter lib now saga errorClass
    | none => deadLettered rejectedClass

/-- What a dispatch does after the desired state was read. -/
inductive Verdict where
  | terminate (outcome : Outcome)
  | proceed (desired : DesiredState)

/-- The stale-command protection of `_dispatch`. -/
def verdict (lib : Library) (now : Time) (saga : OdooCampaignSaga) (answer : Answer) : Verdict :=
  match decode answer with
  | .error failure => .terminate (fail lib now saga failure "DESIRED_STATE_REJECTED")
  | .ok body =>
    match lib.validateDesired body with
    | none => .terminate (deadLettered "DESIRED_STATE_REJECTED")
    | some desired =>
      if desired.campaignPublicId ≠ saga.campaignPublicId then .terminate (deadLettered "DESIRED_STATE_REJECTED")
      else if saga.configurationVersion < desired.configurationVersion then
        .terminate (deadLettered "STALE_CONFIGURATION_VERSION")
      else if desired.configurationVersion < saga.configurationVersion ∨ saga.manifestHash ≠ desired.manifestHash then
        .terminate (deadLettered "CONFIGURATION_VERSION_MISMATCH")
      else .proceed desired

/-- The row after its lease was renewed. -/
def OdooCampaignSaga.renewed (lib : Library) (now : Time) (saga : OdooCampaignSaga) : OdooCampaignSaga :=
  { saga with leaseExpiresAt := some (now + seconds lib.leaseSeconds) }

/-- The row after an observation; `attempts` is the one in memory. -/
def OdooCampaignSaga.observed (observation : AdapterObservation) (key : String) (attempts : Nat) (saga : OdooCampaignSaga) :
    OdooCampaignSaga :=
  { saga with
    effectiveState := some observation.effectiveState
    evidenceJson := some observation.evidence
    observedAt := some observation.observedAt
    readbackIdempotencyKey := some key
    readbackAttempt := attempts }

/-- The row after `_terminate`. -/
def OdooCampaignSaga.terminated (now : Time) (outcome : Outcome) (saga : OdooCampaignSaga) : OdooCampaignSaga :=
  { saga with
    status := outcome.status
    lastErrorClass := outcome.errorClass
    reservedAt := none
    leaseExpiresAt := none
    nextAttemptAt := outcome.nextAttemptAt
    readbackId := if outcome.status = .completed then outcome.readbackId else saga.readbackId
    completedAt := if outcome.status = .completed then some now else saga.completedAt }

/-- The body of the readback, once an observation is there. -/
def OdooCampaignSaga.readback (saga : OdooCampaignSaga) : Option ActualStateReadback :=
  match saga.readbackIdempotencyKey, saga.effectiveState, saga.observedAt with
  | some key, some effectiveState, some observedAt =>
    some
      { eventUuid := saga.eventUuid, commandId := saga.commandId, idempotencyKey := key, attempt := saga.readbackAttempt,
        organizationPublicId := saga.organizationPublicId, businessUnitPublicId := saga.businessUnitPublicId,
        campaignPublicId := saga.campaignPublicId, configurationVersion := saga.configurationVersion,
        operation := saga.operation, effectiveState := effectiveState, manifestRef := saga.manifestRef,
        manifestHash := saga.manifestHash, evidence := saga.evidenceJson.getD [], observedAt := observedAt,
        correlationId := saga.correlationId, causationId := saga.eventUuid }
  | _, _, _ => none

/-- The field constraints of `ActualStateReadback`. -/
def ActualStateReadback.accepted (readback : ActualStateReadback) : Bool :=
  let within (limit : Nat) (s : String) := decide (1 ≤ s.length ∧ s.length ≤ limit)
  [readback.eventUuid, readback.commandId, readback.organizationPublicId, readback.businessUnitPublicId,
      readback.campaignPublicId, readback.correlationId, readback.causationId].all (within 128) &&
    within 160 readback.idempotencyKey && decide (1 ≤ readback.attempt) && within 256 readback.manifestRef &&
    within 80 readback.manifestHash

/-- The reservation `_guarded_update` asks for: the row is reserved by the claim in memory. -/
def OdooCampaignSaga.heldBy (saga row : OdooCampaignSaga) : Bool :=
  row.status == .reserved && row.attempts == saga.attempts && row.reservedAt.isSome && row.reservedAt == saga.reservedAt

def OdooCampaignSaga.fits (saga : OdooCampaignSaga) : Bool :=
  (saga.readbackId.all fun s => decide (s.length ≤ 128)) && saga.readbackIdempotencyKey.all fun s => decide (s.length ≤ 160)

def readbackKey (saga : OdooCampaignSaga) (uuid : String) : String := "actual-state:" ++ saga.eventUuid ++ ":" ++ uuid

def readbackOutcome (lib : Library) (now : Time) (saga : OdooCampaignSaga) (readback : ActualStateReadback) (answer : Answer) :
    Outcome :=
  match reportActualState lib readback answer with
  | .error failure => fail lib now saga failure "READBACK_REJECTED"
  | .ok receipt => { status := .completed, errorClass := none, readbackId := some receipt }

end Middleware.Campaign
