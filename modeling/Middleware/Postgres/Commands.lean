/-
`PostgresCommandStore` of `app/commands.py`: the rows of `middleware_commands`, `middleware_command_attempts`,
`middleware_command_audit` and `middleware_operation_mutations` as `submit`, `transition`, `mutate_operation` and
`reconcile` write them, and `get`.

A table is listed in the order of its ids; a command is locked while it is written, so the order of the ids is the
order of the calls. A call that raises inside its transaction is rolled back. A `jsonb` column is PostgreSQL's:
what reading gives back for an object, or that it is refused, is the parameter `jsonb`. It matters for evidence
only, whose digest is computed from the object that was written.
-/
import Middleware.Postgres.Outbox

namespace Middleware.Postgres

open Ledger Platform

/-! ## Rows -/

/-- A row of `middleware_commands`. -/
structure CommandRow where
  commandId : Uuid
  tenantId : String
  commandType : String
  commandVersion : String
  target : String
  requestedBy : String
  correlationId : String
  idempotencyKey : String
  capability : String
  payload : CommandEnvelope × String
  payloadSha256 : String
  state : CommandState
  providerOperationId : Option String := none
  lastError : Option String := none
  createdAt : Time
  updatedAt : Time
  queuedAt : Option Time := none
  acceptedAt : Option Time := none
  completedAt : Option Time := none
  failedAt : Option Time := none
  resourceVersion : Nat := 1
  cancelledAt : Option Time := none
  cancellationReason : Option String := none
  reconciliationRequestedAt : Option Time := none
  reconciliationReason : Option String := none

/-- A row of `middleware_command_attempts`. -/
structure AttemptRow where
  tenantId : String
  commandId : Uuid
  attemptNumber : Nat
  state : CommandState
  providerOperationId : Option String := none
  resultPayload : Option Obj := none
  errorCode : Option String := none
  errorDetail : Option String := none
  startedAt : Time
  finishedAt : Option Time := none

/-- A row of `middleware_command_audit`. -/
structure AuditRow where
  tenantId : String
  commandId : Uuid
  previousState : Option CommandState
  newState : CommandState
  actorId : String
  reason : String
  metadata : Obj
  createdAt : Time

/-- A row of `middleware_operation_mutations`. -/
structure MutationRow where
  tenantId : String
  commandId : Uuid
  action : MutationAction
  actorId : String
  idempotencyKey : String
  requestSha256 : String
  responsePayload : CommandOperation

abbrev CommandRow.key (r : CommandRow) : Key := (r.tenantId, r.commandId)
abbrev AttemptRow.key (r : AttemptRow) : Key := (r.tenantId, r.commandId)
abbrev AuditRow.key (r : AuditRow) : Key := (r.tenantId, r.commandId)

structure Tables where
  commands : List CommandRow := []
  attempts : List AttemptRow := []
  audit : List AuditRow := []
  mutations : List MutationRow := []
  outbox : OutboxTable := []

/-! ## Queries -/

/-- `metadata->>'...'` of a member. -/
def asText : Json → Option String
  | .null => none
  | .str text => some text
  | value => some (dumps false value)

namespace Tables

/-- `SELECT * FROM middleware_commands WHERE tenant_id=$1 AND command_id=$2`. -/
def command (s : Tables) (k : Key) : Option CommandRow := s.commands.find? (·.key = k)

/-- `ORDER BY attempt_number DESC LIMIT 1`. -/
def newestAttempt (s : Tables) (k : Key) : Option AttemptRow :=
  (s.attempts.filter (·.key = k)).argmax (·.attemptNumber)

/-- `COALESCE(max(attempt_number), 0)`. -/
def maxAttempt (s : Tables) (k : Key) : Nat := ((s.newestAttempt k).map (·.attemptNumber)).getD 0

/-- `UPDATE middleware_command_attempts ... WHERE id=(SELECT id ... ORDER BY attempt_number DESC LIMIT 1)`. -/
def updateNewest (s : Tables) (k : Key) (f : AttemptRow → AttemptRow) : List AttemptRow :=
  match s.newestAttempt k with
  | some newest => s.attempts.map fun r => if r.key = k ∧ r.attemptNumber = newest.attemptNumber then f r else r
  | none => s.attempts

def updateCommand (s : Tables) (k : Key) (f : CommandRow → CommandRow) : List CommandRow :=
  s.commands.map fun r => if r.key = k then f r else r

end Tables

/-- `new_state IN ('completed','reconciliation_required') AND metadata ? 'readback_evidence_sha256'`. -/
def AuditRow.carriesDigest (a : AuditRow) : Bool :=
  decide (a.newState ∈ [CommandState.completed, .reconciliationRequired]) &&
    (a.metadata.lookup "readback_evidence_sha256").isSome

/-- `metadata->>'readback_evidence_sha256'`. -/
def AuditRow.digest (a : AuditRow) : Option String := (a.metadata.lookup "readback_evidence_sha256").bind asText

/-- The digest `get` finds in the audit. -/
def Tables.persistedDigest (s : Tables) (k : Key) : Option String :=
  (s.audit.filter fun a => a.key = k ∧ a.carriesDigest).getLast?.bind AuditRow.digest

/-- The evidence `get` finds in the attempts. -/
def Tables.resultPayload (s : Tables) (k : Key) : Option Obj := (s.newestAttempt k).bind (·.resultPayload)

/-! ## Reading -/

/-- `verify_readback_evidence_digest` on the decoded column. -/
def verifyReadbackEvidenceDigest (value : Option Obj) (persistedDigest : Option String) :
    Except Exc (Option Obj × Option String) :=
  match value, persistedDigest with
  | none, none => .ok (none, none)
  | none, some _ => .error (.runtimeError "read-back evidence digest has no evidence payload")
  | some evidence, none => .ok (some evidence, none)
  | some evidence, some digest =>
    if providerEvidenceDigest evidence ≠ digest then
      .error (.runtimeError "persisted read-back evidence digest does not match payload")
    else .ok (some evidence, some digest)

/-- `_operation`. -/
def CommandRow.operation (r : CommandRow) (evidence : Option Obj := none) (digest : Option String := none)
    (duplicate : Bool := false) : Except Exc CommandOperation := do
  let (evidence, digest) ← verifyReadbackEvidenceDigest evidence digest
  return {
    commandId := r.commandId, tenantId := r.tenantId, commandType := r.commandType
    commandVersion := r.commandVersion, target := r.target, requestedBy := r.requestedBy
    correlationId := r.correlationId, idempotencyKey := r.idempotencyKey, capability := r.capability
    state := r.state, providerOperationId := r.providerOperationId, readbackEvidence := evidence
    readbackEvidenceSha256 := digest, lastError := r.lastError, createdAt := r.createdAt, updatedAt := r.updatedAt
    resourceVersion := r.resourceVersion, cancelledAt := r.cancelledAt, cancellationReason := r.cancellationReason
    reconciliationRequestedAt := r.reconciliationRequestedAt, reconciliationReason := r.reconciliationReason
    duplicate := duplicate }

namespace PostgresCommandStore

def get (k : Key) (s : Tables) : Except Exc CommandOperation :=
  match s.command k with
  | none => .error (.commandNotFound "command operation was not found")
  | some row => row.operation (s.resultPayload k) (s.persistedDigest k)

/-! ## Submit -/

def insertOutbox (row : OutboxRow) (t : OutboxTable) : Option OutboxTable :=
  if t.any fun r => r.tenantId == row.tenantId && r.destination == row.destination &&
      r.idempotencyKey == row.idempotencyKey then none
  else some (t ++ [{ row with id := (t.map fun r => r.id).foldr max 0 + 1 }])

def submittedRow (r : Submission) (now : Time) : CommandRow where
  commandId := r.command.commandId
  tenantId := r.command.tenantId
  commandType := r.command.commandType
  commandVersion := r.command.commandVersion
  target := r.command.target
  requestedBy := r.command.requestedBy
  correlationId := r.command.correlationId
  idempotencyKey := r.command.idempotencyKey
  capability := r.command.capability
  payload := (r.command, r.authenticatedClientId)
  payloadSha256 := authenticatedCommandDigest r.command r.authenticatedClientId
  state := .persisted
  createdAt := now
  updatedAt := now

def submittedAudit (r : Submission) (now : Time) : AuditRow where
  tenantId := r.command.tenantId
  commandId := r.command.commandId
  previousState := none
  newState := .persisted
  actorId := r.command.requestedBy
  reason := "validated command and persisted delivery intent"
  metadata := Obj.merge [("authenticated_client_id", .str r.authenticatedClientId)]
    (redactMetadata (r.decisionEvidence.getD []))
  createdAt := now

def existingRows (r : Submission) (s : Tables) : List CommandRow :=
  (s.commands.filter fun c => c.key = r.key ∨
    (c.tenantId = r.command.tenantId ∧ c.idempotencyKey = r.command.idempotencyKey)).insertionSort
      (·.createdAt ≤ ·.createdAt)

def submit (r : Submission) (nextAttemptAt : Option Time) (now : Time) (s : Tables) :
    Except Exc CommandOperation × Tables :=
  if r.destination ∉ commandDestinations then
    (.error (.commandConflict ("unsupported command destination " ++ r.destination)), s)
  else
    match existingRows r s with
    | [] =>
      match insertOutbox { r.intent 0 with nextAttemptAt := nextAttemptAt.getD now } s.outbox with
      | none => (.error (.other "UniqueViolationError" "middleware_outbox"), s)
      | some outbox =>
        ((submittedRow r now).operation,
          { s with
            commands := s.commands ++ [submittedRow r now]
            audit := s.audit ++ [submittedAudit r now]
            outbox := outbox })
    | existing :: rest =>
      if (∃ other ∈ rest, (other.commandId, other.idempotencyKey) ≠ (existing.commandId, existing.idempotencyKey)) ∨
          !commandDigestMatches existing.payloadSha256 r.command r.authenticatedClientId then
        (.error (.commandConflict "command identity was reused with different content"), s)
      else (existing.operation none none true, s)

/-! ## Transition -/

/-- What `transition` checks; the command's row. -/
def transitionChecks (t : Transition) (s : Tables) : Except Exc CommandRow :=
  if t.readbackEvidence.isSome ∧ t.newState ∉ [CommandState.completed, .reconciliationRequired] then
    .error (.commandConflict "read-back evidence may be persisted only on completion or reconciliation")
  else
    match s.command t.key with
    | none => .error (.commandNotFound "command operation was not found")
    | some current =>
      if t.newState ≠ .dispatching ∧ t.expectedAttempt.any (fun n => decide ((s.maxAttempt t.key : Int) ≠ n)) then
        .error (.commandConflict "stale attempt fencing token")
      else if t.newState ∉ current.state.allowedTransitions then
        .error (.commandConflict
          ("invalid command transition " ++ current.state.value ++ " -> " ++ t.newState.value))
      else .ok current

def transitionedRow (t : Transition) (now : Time) (r : CommandRow) : CommandRow :=
  { r with
    state := t.newState
    providerOperationId := t.providerOperationId.or r.providerOperationId
    lastError :=
      if t.newState ∈ [CommandState.failed, .reconciliationRequired] then some (clip 2048 t.reason) else none
    updatedAt := now
    queuedAt := if t.newState = .queued then some now else r.queuedAt
    acceptedAt := if t.newState = .accepted then some now else r.acceptedAt
    completedAt := if t.newState = .completed then some now else r.completedAt
    failedAt := if t.newState = .failed then some now else r.failedAt }

def transitionAudit (t : Transition) (current : CommandRow) (now : Time) : AuditRow where
  tenantId := t.tenantId
  commandId := t.commandId
  previousState := some current.state
  newState := t.newState
  actorId := t.actorId
  reason := clip 2048 t.reason
  metadata := [("provider_operation_id", optStr t.providerOperationId),
    ("readback_evidence_sha256", optStr (t.readbackEvidence.map providerEvidenceDigest))]
  createdAt := now

def openedAttempt (t : Transition) (number : Nat) (now : Time) : AttemptRow where
  tenantId := t.tenantId
  commandId := t.commandId
  attemptNumber := number
  state := .dispatching
  startedAt := now

def transitionedAttempt (t : Transition) (stored : Option Obj) (now : Time) (r : AttemptRow) : AttemptRow :=
  { r with
    state := t.newState
    providerOperationId := t.providerOperationId.or r.providerOperationId
    resultPayload := stored.or r.resultPayload
    errorDetail :=
      if t.newState ∈ [CommandState.failed, .reconciliationRequired] then some (clip 2048 t.reason) else r.errorDetail
    finishedAt :=
      if t.newState ∈ [CommandState.completed, .failed, .reconciliationRequired] then some now else r.finishedAt }

def transitionAttempts (t : Transition) (stored : Option Obj) (now : Time) (s : Tables) : List AttemptRow :=
  if t.newState = .dispatching then s.attempts ++ [openedAttempt t (s.maxAttempt t.key + 1) now]
  else if t.newState ∈ [CommandState.accepted, .readbackPending, .completed, .failed, .reconciliationRequired] then
    s.updateNewest t.key (transitionedAttempt t stored now)
  else s.attempts

/-- What the transaction of `transition` writes. -/
def transitioned (t : Transition) (current : CommandRow) (stored : Option Obj) (now : Time) (s : Tables) : Tables :=
  { s with
    commands := s.updateCommand t.key (transitionedRow t now)
    audit := s.audit ++ [transitionAudit t current now]
    attempts := transitionAttempts t stored now s }

/-- The digest `transition` reads back when it was given no evidence. -/
def completedDigest (k : Key) (s : Tables) : Option String :=
  (s.audit.filter fun a => a.key = k ∧ a.newState = .completed).getLast?.bind AuditRow.digest

/-- PostgreSQL refuses a text that is no `jsonb`. -/
def invalidJson : Exc := .other "DataError" "invalid input for query argument"

def transition (jsonb : Obj → Option Obj) (t : Transition) (now : Time) (s : Tables) :
    Except Exc CommandOperation × Tables :=
  match transitionChecks t s with
  | .error e => (.error e, s)
  | .ok current =>
    match t.readbackEvidence with
    | none =>
      let s' := transitioned t current none now s
      ((transitionedRow t now current).operation (s'.resultPayload t.key) (completedDigest t.key s'), s')
    | some evidence =>
      match jsonb evidence with
      | none => (.error invalidJson, s)
      | some stored =>
        ((transitionedRow t now current).operation (some evidence) (some (providerEvidenceDigest evidence)),
          transitioned t current (some stored) now s)

/-! ## Reconcile -/

def reconcileChecks (r : Reconciliation) (s : Tables) : Except Exc CommandRow :=
  match s.command r.key with
  | none => .error (.commandNotFound "command operation was not found")
  | some current =>
    if current.state ≠ .reconciliationRequired then
      .error (.commandConflict "operation is no longer awaiting reconciliation")
    else if r.expectedVersion.any fun v => decide ((current.resourceVersion : Int) ≠ v) then
      .error (.commandConflict "expected_version is stale")
    else .ok current

def reconciledState (r : Reconciliation) : CommandState :=
  if r.matched then .completed else .reconciliationRequired

def reconciledRow (r : Reconciliation) (now : Time) (c : CommandRow) : CommandRow :=
  if r.matched then
    { c with
      state := .completed, providerOperationId := r.providerOperationId.or c.providerOperationId, lastError := none
      completedAt := some now, updatedAt := now, resourceVersion := c.resourceVersion + 1 }
  else
    { c with
      providerOperationId := r.providerOperationId.or c.providerOperationId, lastError := some (clip 2048 r.reason)
      reconciliationReason := some (clip 2048 r.reason), updatedAt := now
      resourceVersion := c.resourceVersion + 1 }

def reconcileAudit (r : Reconciliation) (now : Time) : AuditRow where
  tenantId := r.tenantId
  commandId := r.commandId
  previousState := some .reconciliationRequired
  newState := reconciledState r
  actorId := r.actorId
  reason := clip 2048 r.reason
  metadata := [("provider_operation_id", optStr r.providerOperationId),
    ("readback_evidence_sha256", .str (providerEvidenceDigest r.evidence)),
    ("reconciliation_status", .str (if r.matched then "matched" else "mismatch"))]
  createdAt := now

def reconciledAttempt (r : Reconciliation) (stored : Obj) (now : Time) (a : AttemptRow) : AttemptRow :=
  { a with
    state := reconciledState r
    providerOperationId := r.providerOperationId.or a.providerOperationId
    resultPayload := some stored
    errorCode := if r.matched then none else some "provider_readback_mismatch"
    errorDetail := if r.matched then none else some (clip 2048 r.reason)
    finishedAt := some now }

def reconciled (r : Reconciliation) (stored : Obj) (now : Time) (s : Tables) : Tables :=
  { s with
    commands := s.updateCommand r.key (reconciledRow r now)
    audit := s.audit ++ [reconcileAudit r now]
    attempts := s.updateNewest r.key (reconciledAttempt r stored now) }

def reconcile (jsonb : Obj → Option Obj) (r : Reconciliation) (now : Time) (s : Tables) :
    Except Exc CommandOperation × Tables :=
  match reconcileChecks r s with
  | .error e => (.error e, s)
  | .ok current =>
    match jsonb r.evidence with
    | none => (.error invalidJson, s)
    | some stored =>
      ((reconciledRow r now current).operation (some r.evidence) (some (providerEvidenceDigest r.evidence)),
        reconciled r stored now s)

/-! ## Operator mutations -/

def ofCommand (k : Key) (r : OutboxRow) : Bool := decide ((r.tenantId, r.commandId) = k)

/-- A row of the command is leased now. -/
def activeLease (k : Key) (now : Time) (t : OutboxTable) : Bool :=
  t.any fun r => ofCommand k r && r.leaseOwner.isSome && PostgresOutboxStore.leaseActive now r && r.completedAt.isNone

def cancelRows (k : Key) (now : Time) (t : OutboxTable) : OutboxTable :=
  t.map fun r =>
    if ofCommand k r && r.completedAt.isNone && r.leaseOwner.isNone then
      { r with cancelledAt := some now, leaseOwner := none, leaseUntil := none }
    else r

def isAdapterRow (k : Key) (r : OutboxRow) : Bool :=
  ofCommand k r && r.destination == adapterCommandDestination && r.isOpen

/-- The open adapter rows are quarantined; a lease that is active stays. -/
def parkRows (k : Key) (now : Time) (t : OutboxTable) : OutboxTable :=
  t.map fun r =>
    if isAdapterRow k r then
      { r with
        reconciliationRequiredAt := some (r.reconciliationRequiredAt.getD now)
        leaseOwner := if PostgresOutboxStore.leaseActive now r then r.leaseOwner else none
        leaseUntil := if PostgresOutboxStore.leaseActive now r then r.leaseUntil else none }
    else r

/-- `operation-reconcile:` and `operation-retry:` keys. -/
def workKey (m : Mutation) : String :=
  "operation-" ++ m.action.value ++ ":" ++ Sha256.hexdigest
    (m.tenantId ++ ":" ++ m.commandId ++ ":" ++ m.actorId ++ ":" ++ m.idempotencyKey)

/-- `INSERT ... ON CONFLICT DO NOTHING`. -/
def insertWork (m : Mutation) (destination eventType : String) (payload : IntentPayload) (now : Time)
    (t : OutboxTable) : OutboxTable :=
  (insertOutbox
    { id := 0, tenantId := m.tenantId, commandId := m.commandId, destination := destination, eventType := eventType
      idempotencyKey := workKey m, payload := payload, nextAttemptAt := now } t).getD t

/-- The destination of the command's newest row that has one of the two. -/
def retryDestination (k : Key) (t : OutboxTable) : String :=
  ((t.filter fun r => ofCommand k r &&
    (r.destination == temporalCommandDestination || r.destination == adapterCommandDestination)).getLast?.map
      (·.destination)).getD temporalCommandDestination

/-- The branches of `mutate_operation`: the command's row after it, and the outbox. -/
def mutatedRow (m : Mutation) (now : Time) (current : CommandRow) (t : OutboxTable) :
    Except Exc (CommandRow × OutboxTable) :=
  let next := { current with resourceVersion := current.resourceVersion + 1, updatedAt := now }
  match m.action with
  | .cancel =>
    if current.state ∈ MemoryCommandStore.notCancellable then
      .error (.commandConflict "operation is not cancellable")
    else if current.state ∈ [CommandState.persisted, .queued] ∧ !activeLease m.key now t then
      .ok ({ next with state := .cancelled, cancelledAt := some now, cancellationReason := some m.reason },
        cancelRows m.key now t)
    else .ok ({ next with state := .reconciliationRequired, cancellationReason := some m.reason }, t)
  | .reconcile =>
    if current.state ∉ MemoryCommandStore.reconcilable then
      .error (.commandConflict "operation is not reconcilable")
    else
      .ok ({ next with
          state := .reconciliationRequired, reconciliationRequestedAt := some now
          reconciliationReason := some m.reason },
        if t.any (isAdapterRow m.key) then parkRows m.key now t
        else insertWork m temporalCommandDestination "operation.reconcile.v1" { commandId := m.commandId } now t)
  | .retry =>
    if current.state ≠ .failed then .error (.commandConflict "operation is not safely retryable")
    else
      .ok ({ next with state := .queued, lastError := none, queuedAt := some now },
        insertWork m (retryDestination m.key t) current.commandType
          { commandId := m.commandId
            envelope := some ({ current.payload.1 with idempotencyKey := workKey m }, current.payload.2) } now t)

def mutationAudit (m : Mutation) (current updated : CommandRow) (now : Time) : AuditRow where
  tenantId := m.tenantId
  commandId := m.commandId
  previousState := some current.state
  newState := updated.state
  actorId := m.actorId
  reason := m.reason
  metadata := Obj.merge [("action", .str m.action.value), ("resource_version", .int updated.resourceVersion)]
    (mutationEvidence m.mutationCorrelationId)
  createdAt := now

/-- The row of an earlier request under the same key. -/
def replayed (m : Mutation) (s : Tables) : Option MutationRow :=
  s.mutations.find? fun r => (r.tenantId, r.commandId, r.action, r.actorId, r.idempotencyKey) =
    (m.tenantId, m.commandId, m.action, m.actorId, m.idempotencyKey)

def mutateOperation (m : Mutation) (now : Time) (s : Tables) : Except Exc CommandOperation × Tables :=
  match s.command m.key with
  | none => (.error (.commandNotFound "command operation was not found"), s)
  | some current =>
    match replayed m s with
    | some replay =>
      if replay.requestSha256 ≠ mutationDigest m.expectedVersion m.reason then
        (.error (.commandConflict "idempotency key was reused with different mutation content"), s)
      else (.ok { replay.responsePayload with duplicate := true }, s)
    | none =>
      if (current.resourceVersion : Int) ≠ m.expectedVersion then
        (.error (.commandConflict "expected_version is stale"), s)
      else
        match mutatedRow m now current s.outbox with
        | .error e => (.error e, s)
        | .ok (updated, outbox) =>
          match updated.operation with
          | .error e => (.error e, s)
          | .ok operation =>
            (.ok operation,
              { s with
                commands := s.updateCommand m.key fun _ => updated
                audit := s.audit ++ [mutationAudit m current updated now]
                mutations := s.mutations ++
                  [⟨m.tenantId, m.commandId, m.action, m.actorId, m.idempotencyKey,
                    mutationDigest m.expectedVersion m.reason, operation⟩]
                outbox := outbox })

end PostgresCommandStore

end Middleware.Postgres
