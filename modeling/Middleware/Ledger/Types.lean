/-
The data of the command ledger (`app/commands.py`): operation states and their allowed
transitions, the command envelope, the operation with its events and attempts, the outbox intent,
dead letters and replays, and the exceptions the platform code raises and catches.

A UUID is its canonical text. Instants are readings of a clock in ticks; the ledger only records
them, and the outbox only compares them.
-/
import Middleware.Data.Json

namespace Middleware.Ledger

abbrev Uuid := String
abbrev Time := Int

/-- A Python dictionary. Insertion order is not modelled: no modelled function reads it. -/
abbrev Dict (K V : Type) := AList fun _ : K => V

/-! ## States -/

inductive CommandState where
  | persisted
  | queued
  | dispatching
  | accepted
  | readbackPending
  | completed
  | failed
  | reconciliationRequired
  | deadLettered
  | cancelled
deriving DecidableEq, Repr

namespace CommandState

def value : CommandState → String
  | persisted => "persisted"
  | queued => "queued"
  | dispatching => "dispatching"
  | accepted => "accepted"
  | readbackPending => "readback_pending"
  | completed => "completed"
  | failed => "failed"
  | reconciliationRequired => "reconciliation_required"
  | deadLettered => "dead_lettered"
  | cancelled => "cancelled"

/-- `ALLOWED_COMMAND_TRANSITIONS`. -/
def allowedTransitions : CommandState → List CommandState
  | persisted => [queued, cancelled]
  | queued => [dispatching, deadLettered, cancelled]
  | dispatching => [accepted, failed, reconciliationRequired]
  | accepted => [readbackPending, reconciliationRequired]
  | readbackPending => [completed, failed, reconciliationRequired]
  | reconciliationRequired => [queued, deadLettered]
  | failed => [queued, deadLettered]
  | completed => []
  | deadLettered => []
  | cancelled => []

/-- The states no ledger call leaves. -/
def absorbing : CommandState → Bool
  | completed | deadLettered | cancelled => true
  | _ => false

/-- `ACTIVE_COMMAND_STATES`. -/
def active : CommandState → Bool
  | persisted | queued | dispatching | accepted | readbackPending => true
  | _ => false

/-- The states in which the bus and the reconciler leave a command alone. -/
def terminal : CommandState → Bool
  | completed | failed | deadLettered | cancelled => true
  | _ => false

end CommandState

/-! ## Exceptions -/

/-- The exceptions the modelled code raises or tells apart; `other` is any further class of
`Exception`, named by its type. -/
inductive Exc where
  | commandConflict (message : String)
  | commandNotFound (message : String)
  | keyError
  | knownSafeRetry (message : String)
  | unknownOutcome (message : String)
  | bulkheadFull (message : String)
  | circuitOpen (message : String)
  | timeout
  | runtimeError (message : String)
  | valueError (message : String)
  | other (name message : String)
deriving DecidableEq, Repr

namespace Exc

/-- `type(exc).__name__`. -/
def typeName : Exc → String
  | commandConflict _ => "CommandConflict"
  | commandNotFound _ => "CommandNotFound"
  | keyError => "KeyError"
  | knownSafeRetry _ => "KnownSafeRetryError"
  | unknownOutcome _ => "UnknownOutcomeError"
  | bulkheadFull _ => "BulkheadFull"
  | circuitOpen _ => "CircuitOpen"
  | timeout => "TimeoutError"
  | runtimeError _ => "RuntimeError"
  | valueError _ => "ValueError"
  | other name _ => name

/-- `str(exc)`. -/
def text : Exc → String
  | commandConflict m | commandNotFound m | knownSafeRetry m | unknownOutcome m => m
  | bulkheadFull m | circuitOpen m | runtimeError m | valueError m | other _ m => m
  | keyError | timeout => ""

end Exc

/-! ## Records -/

structure CommandEnvelope where
  commandId : Uuid
  commandType : String
  commandVersion : String
  target : String
  tenantId : String
  requestedBy : String
  correlationId : String
  idempotencyKey : String
  capability : String
  payload : Obj

/-- `model_dump(mode="json")`. -/
def CommandEnvelope.modelDump (c : CommandEnvelope) : Obj :=
  [("command_id", .str c.commandId), ("command_type", .str c.commandType),
    ("command_version", .str c.commandVersion), ("target", .str c.target),
    ("tenant_id", .str c.tenantId), ("requested_by", .str c.requestedBy),
    ("correlation_id", .str c.correlationId), ("idempotency_key", .str c.idempotencyKey),
    ("capability", .str c.capability), ("payload", .obj c.payload)]

structure CommandOperation where
  commandId : Uuid
  tenantId : String
  commandType : String
  commandVersion : String
  target : String
  requestedBy : String
  correlationId : String
  idempotencyKey : String
  capability : String
  state : CommandState
  providerOperationId : Option String := none
  readbackEvidence : Option Obj := none
  readbackEvidenceSha256 : Option String := none
  lastError : Option String := none
  createdAt : Time
  updatedAt : Time
  resourceVersion : Nat := 1
  cancelledAt : Option Time := none
  cancellationReason : Option String := none
  reconciliationRequestedAt : Option Time := none
  reconciliationReason : Option String := none
  duplicate : Bool := false

structure OperationEvent where
  eventId : Nat
  operationId : Uuid
  previousState : Option CommandState
  newState : CommandState
  actorId : String
  reason : String
  safeMetadata : Obj
  createdAt : Time

structure OperationAttempt where
  attemptId : Nat
  operationId : Uuid
  attemptNumber : Nat
  state : CommandState
  providerOperationId : Option String := none
  safeErrorCode : Option String := none
  startedAt : Time
  finishedAt : Option Time := none

structure DeadLetterRecord where
  deadLetterId : Nat
  tenantId : String
  commandId : Uuid
  attemptNumber : Nat
  reasonCode : String
  errorClass : String
  terminalReason : String
  correlationId : String
  principalId : String
  capability : String
  poisoned : Bool
  retryExhausted : Bool
  createdAt : Time

inductive ReplayState where
  | requested
  | scheduled
  | submitted
  | cancelled
deriving DecidableEq, Repr

structure ReplayRecord where
  replayId : Uuid
  tenantId : String
  originalCommandId : Uuid
  replayCommandId : Option Uuid := none
  requestedBy : String
  idempotencyKey : String
  reason : String
  state : ReplayState
  createdAt : Time
  scheduledAt : Option Time := none
  cancelledAt : Option Time := none

/-- What the code reads of an intent's payload: the command id, the authenticated envelope
(absent only from the payload a retry makes up when there is no intent to copy) and `_trace`. -/
structure IntentPayload where
  commandId : Uuid
  envelope : Option (CommandEnvelope × String) := none
  trace : Option Obj := none

structure MemoryOutboxIntent where
  id : Nat
  tenantId : String
  commandId : Uuid
  destination : String
  eventType : String
  idempotencyKey : String
  payload : IntentPayload
  attemptCount : Nat := 0
  nextAttemptAt : Time := 0
  leaseOwner : Option String := none
  leaseUntil : Option Time := none
  completedAt : Option Time := none
  deadLetteredAt : Option Time := none
  cancelledAt : Option Time := none
  reconciliationRequiredAt : Option Time := none
  reconciliationAttempts : Nat := 0
  lastError : Option String := none

/-- Neither completed, dead-lettered nor cancelled. -/
def MemoryOutboxIntent.isOpen (i : MemoryOutboxIntent) : Bool :=
  i.completedAt.isNone && i.deadLetteredAt.isNone && i.cancelledAt.isNone

/-! ## Constants -/

def temporalCommandDestination : String := "temporal-command"
def odooCommandDestination : String := "odoo-command"
def adapterCommandDestination : String := "adapter-command"

def commandDestinations : List String :=
  [temporalCommandDestination, odooCommandDestination, adapterCommandDestination]

/-- Python's `a or b` on optional strings: the empty string is false. -/
def orElse (a b : Option String) : Option String :=
  match a with
  | some s => if s = "" then b else some s
  | none => b

/-! ## Digests -/

def commandDigest (c : CommandEnvelope) : String := Sha256.hexdigest (dumps false (.obj c.modelDump))

/-- `authenticated_command_payload`. -/
def authenticatedCommandPayload (c : CommandEnvelope) (clientId : String) : Obj :=
  Obj.set c.modelDump "_authenticated_client_id" (.str clientId)

def authenticatedCommandDigest (c : CommandEnvelope) (clientId : String) : String :=
  Sha256.hexdigest (dumps false (.obj (authenticatedCommandPayload c clientId)))

def commandDigestMatches (persistedDigest : String) (c : CommandEnvelope) (clientId : String) : Bool :=
  persistedDigest == authenticatedCommandDigest c clientId || persistedDigest == commandDigest c

/-- The digest `mutate_operation` stores with its idempotency key. -/
def mutationDigest (expectedVersion : Int) (reason : String) : String :=
  Sha256.hexdigest
    (dumps true (.obj [("expected_version", .int expectedVersion), ("reason", .str reason)]))

end Middleware.Ledger
