/-
`MemoryCommandStore` of `app/commands.py`: the store's dictionaries and its calls, each as the source
computes it. A call runs in `LedgerM`, where the store survives an exception as it does in Python:
that a call which raises leaves the store alone is a theorem and not a matter of typing.
-/
import Middleware.Ledger.Types

namespace Middleware.Ledger

/-- The tenant and the command id. -/
abbrev Key := String × Uuid

inductive MutationAction where
  | cancel
  | reconcile
  | retry
deriving DecidableEq, Repr

def MutationAction.value : MutationAction → String
  | cancel => "cancel"
  | reconcile => "reconcile"
  | retry => "retry"

structure MemoryCommandStore where
  commands : Dict Key (String × CommandOperation) := ∅
  idempotency : Dict (String × String) (String × CommandOperation) := ∅
  events : Dict Key (List OperationEvent) := ∅
  attempts : Dict Key (List OperationAttempt) := ∅
  mutations : Dict (String × Uuid × MutationAction × String × String) (String × CommandOperation) := ∅
  payloads : Dict Key (CommandEnvelope × String) := ∅
  outbox : List MemoryOutboxIntent := []
  deadLetters : Dict Key DeadLetterRecord := ∅
  replays : Dict (String × Uuid) ReplayRecord := ∅
  replayKeys : Dict (String × Uuid × String) Uuid := ∅

abbrev LedgerM := ExceptT Exc (StateM MemoryCommandStore)

/-- Run a call on a store: its reply, and the store it leaves. -/
def perform {α : Type} (m : LedgerM α) (s : MemoryCommandStore) : Except Exc α × MemoryCommandStore :=
  m.run s

/-- `d[key]`: a missing key raises. -/
def item {K V : Type} [DecidableEq K] (d : Dict K V) (key : K) : LedgerM V :=
  match d.lookup key with
  | some v => pure v
  | none => throw .keyError

/-! ## Arguments -/

structure Submission where
  command : CommandEnvelope
  authenticatedClientId : String
  destination : String := temporalCommandDestination
  decisionEvidence : Option Obj := none
  trace : Option Obj := none

structure Transition where
  tenantId : String
  commandId : Uuid
  newState : CommandState
  actorId : String
  reason : String
  providerOperationId : Option String := none
  readbackEvidence : Option Obj := none
  expectedAttempt : Option Int := none

structure Reconciliation where
  tenantId : String
  commandId : Uuid
  matched : Bool
  actorId : String
  reason : String
  providerOperationId : Option String
  evidence : Obj
  expectedVersion : Option Int := none

structure Mutation where
  tenantId : String
  commandId : Uuid
  action : MutationAction
  actorId : String
  idempotencyKey : String
  expectedVersion : Int
  reason : String
  mutationCorrelationId : Option String := none

structure DeadLetter where
  tenantId : String
  commandId : Uuid
  actorId : String
  reasonCode : String
  errorClass : String
  terminalReason : String
  poisoned : Bool := false
  retryExhausted : Bool := false

structure ReplayRequest where
  tenantId : String
  commandId : Uuid
  replayId : Uuid
  actorId : String
  idempotencyKey : String
  reason : String
  scheduledAt : Option Time := none

abbrev Transition.key (t : Transition) : Key := (t.tenantId, t.commandId)
abbrev Reconciliation.key (r : Reconciliation) : Key := (r.tenantId, r.commandId)
abbrev Mutation.key (m : Mutation) : Key := (m.tenantId, m.commandId)
abbrev Submission.key (r : Submission) : Key := (r.command.tenantId, r.command.commandId)

/-- The key under which `mutate_operation` remembers a call. -/
abbrev Mutation.mutationKey (m : Mutation) : String × Uuid × MutationAction × String × String :=
  (m.tenantId, m.commandId, m.action, m.actorId, m.idempotencyKey)

/-- `_mutation_evidence`. -/
def mutationEvidence (mutationCorrelationId : Option String) : Obj :=
  match orElse mutationCorrelationId none with
  | some id => [("mutation_correlation_id", .str (clip 180 id))]
  | none => []

def optStr : Option String → Json
  | some s => .str s
  | none => .null

/-! ## Records a call writes -/

def Submission.operation (r : Submission) (now : Time) : CommandOperation :=
  { commandId := r.command.commandId, tenantId := r.command.tenantId, commandType := r.command.commandType,
    commandVersion := r.command.commandVersion, target := r.command.target,
    requestedBy := r.command.requestedBy, correlationId := r.command.correlationId,
    idempotencyKey := r.command.idempotencyKey, capability := r.command.capability,
    state := .persisted, createdAt := now, updatedAt := now }

def Submission.event (r : Submission) (now : Time) : OperationEvent :=
  { eventId := 1, operationId := r.command.commandId, previousState := none, newState := .persisted,
    actorId := r.command.requestedBy, reason := "validated command and persisted delivery intent",
    safeMetadata := Obj.merge [("authenticated_client_id", .str r.authenticatedClientId)]
      (redactMetadata (r.decisionEvidence.getD [])),
    createdAt := now }

/-- The delivery intent of a new command; an empty trace is not stored. -/
def Submission.intent (r : Submission) (id : Nat) : MemoryOutboxIntent :=
  { id := id, tenantId := r.command.tenantId, commandId := r.command.commandId,
    destination := r.destination, eventType := r.command.commandType,
    idempotencyKey := r.command.idempotencyKey,
    payload :=
      { commandId := r.command.commandId
        envelope := some (r.command, r.authenticatedClientId)
        trace := match r.trace with
          | some [] => none
          | trace => trace } }

def Transition.updated (t : Transition) (operation : CommandOperation) (now : Time) : CommandOperation :=
  { operation with
    state := t.newState
    providerOperationId := orElse t.providerOperationId operation.providerOperationId
    readbackEvidence :=
      match t.readbackEvidence with
      | some evidence => some evidence
      | none => operation.readbackEvidence
    readbackEvidenceSha256 :=
      match t.readbackEvidence with
      | some evidence => some (providerEvidenceDigest evidence)
      | none => operation.readbackEvidenceSha256
    lastError := if t.newState ∈ [CommandState.failed, .reconciliationRequired] then some t.reason else none
    updatedAt := now }

def Transition.event (t : Transition) (operation : CommandOperation) (now : Time) (eventId : Nat) :
    OperationEvent :=
  { eventId := eventId, operationId := t.commandId, previousState := some operation.state,
    newState := t.newState, actorId := t.actorId, reason := clip 2048 t.reason,
    safeMetadata := [("provider_operation_id", optStr t.providerOperationId)], createdAt := now }

/-- The attempt a transition to `dispatching` opens. -/
def Transition.openAttempt (t : Transition) (now : Time) (number : Nat) : OperationAttempt :=
  { attemptId := number, operationId := t.commandId, attemptNumber := number, state := t.newState,
    providerOperationId := t.providerOperationId, startedAt := now }

def Transition.closeAttempt (t : Transition) (now : Time) (last : OperationAttempt) : OperationAttempt :=
  { last with
    state := t.newState
    providerOperationId := orElse t.providerOperationId last.providerOperationId
    safeErrorCode :=
      if t.newState ∈ [CommandState.failed, .reconciliationRequired] then some "operation_failed" else none
    finishedAt :=
      if t.newState ∈ [CommandState.completed, .failed, .reconciliationRequired] then some now else none }

def Reconciliation.updated (r : Reconciliation) (operation : CommandOperation) (now : Time) : CommandOperation :=
  { operation with
    state := if r.matched then .completed else .reconciliationRequired
    providerOperationId := orElse r.providerOperationId operation.providerOperationId
    readbackEvidence := some r.evidence
    readbackEvidenceSha256 := some (providerEvidenceDigest r.evidence)
    lastError := if r.matched then none else some (clip 2048 r.reason)
    reconciliationReason := if r.matched then operation.reconciliationReason else some (clip 2048 r.reason)
    resourceVersion := operation.resourceVersion + 1
    updatedAt := now }

def Reconciliation.event (r : Reconciliation) (now : Time) (eventId : Nat) : OperationEvent :=
  { eventId := eventId, operationId := r.commandId, previousState := some .reconciliationRequired,
    newState := if r.matched then .completed else .reconciliationRequired,
    actorId := r.actorId, reason := clip 2048 r.reason,
    safeMetadata := [("provider_operation_id", optStr r.providerOperationId),
      ("readback_evidence_sha256", .str (providerEvidenceDigest r.evidence)),
      ("reconciliation_status", .str (if r.matched then "matched" else "mismatch"))],
    createdAt := now }

def Reconciliation.closeAttempt (r : Reconciliation) (now : Time) (last : OperationAttempt) : OperationAttempt :=
  { last with
    state := if r.matched then .completed else .reconciliationRequired
    providerOperationId := orElse r.providerOperationId last.providerOperationId
    safeErrorCode := if r.matched then none else some "provider_readback_mismatch"
    finishedAt := some now }

/-- The operation a mutation stores: the branch's changes under the next version. -/
def Mutation.updated (operation changed : CommandOperation) (now : Time) : CommandOperation :=
  { changed with resourceVersion := operation.resourceVersion + 1, updatedAt := now }

def Mutation.event (m : Mutation) (operation updated : CommandOperation) (now : Time) (eventId : Nat) :
    OperationEvent :=
  { eventId := eventId, operationId := m.commandId, previousState := some operation.state,
    newState := updated.state, actorId := m.actorId, reason := m.reason,
    safeMetadata := Obj.merge
      [("action", .str m.action.value), ("resource_version", .int updated.resourceVersion)]
      (mutationEvidence m.mutationCorrelationId),
    createdAt := now }

namespace MemoryCommandStore

/-- `_adapter_intents`. -/
def adapterIntents (s : MemoryCommandStore) (tenantId : String) (commandId : Uuid) :
    List MemoryOutboxIntent :=
  s.outbox.filter fun i => i.tenantId = tenantId ∧ i.commandId = commandId

/-! ## Reads -/

def get (tenantId : String) (commandId : Uuid) : LedgerM CommandOperation := do
  match (← MonadState.get).commands.lookup (tenantId, commandId) with
  | none => throw (.commandNotFound "command operation was not found")
  | some entry => pure entry.2

def latestAttempt (tenantId : String) (commandId : Uuid) : LedgerM Nat := do
  let _ ← get tenantId commandId
  pure (((← MonadState.get).attempts.lookup (tenantId, commandId)).getD []).length

def loadEnvelope (tenantId : String) (commandId : Uuid) : LedgerM CommandEnvelope := do
  let _ ← get tenantId commandId
  let payload ← item (← MonadState.get).payloads (tenantId, commandId)
  pure payload.1

def backlog (s : MemoryCommandStore) (tenantId : String) : Nat × Nat :=
  let active := (s.commands.entries.map fun e => e.2.2).filter (·.state.active)
  ((active.filter (·.tenantId = tenantId)).length, active.length)

/-- `list_events`; the position of a page is a creation time and an event id. -/
def listEvents (tenantId : String) (commandId : Uuid) (limit : Nat) (position : Option (Time × Nat) := none) :
    LedgerM (List OperationEvent) := do
  let _ ← get tenantId commandId
  let rows := ((← MonadState.get).events.lookup (tenantId, commandId)).getD []
  let rows : List OperationEvent := match position with
    | some p => rows.filter fun row => p.1 < row.createdAt ∨ (p.1 = row.createdAt ∧ p.2 < row.eventId)
    | none => rows
  pure ((rows.take limit).map fun row => { row with safeMetadata := redactMetadata row.safeMetadata })

/-! ## Mutating calls -/

def submit (r : Submission) (now : Time) : LedgerM CommandOperation := do
  let c := r.command
  if r.destination ∉ commandDestinations then
    throw (.commandConflict ("unsupported command destination " ++ r.destination))
  let digest := authenticatedCommandDigest c r.authenticatedClientId
  let s ← MonadState.get
  let existingById := s.commands.lookup r.key
  let existingByIdempotency := s.idempotency.lookup (c.tenantId, c.idempotencyKey)
  if let (some byId, some byKey) := (existingById, existingByIdempotency) then
    if byId.2.commandId ≠ byKey.2.commandId then
      throw (.commandConflict "command and idempotency identities refer to different operations")
  match existingById <|> existingByIdempotency with
  | some existing =>
    if !commandDigestMatches existing.1 c r.authenticatedClientId then
      throw (.commandConflict "command identity was reused with different content")
    pure { existing.2 with duplicate := true }
  | none =>
    modify fun s =>
      { s with
        commands := s.commands.insert r.key (digest, r.operation now)
        idempotency := s.idempotency.insert (c.tenantId, c.idempotencyKey) (digest, r.operation now)
        events := s.events.insert r.key [r.event now]
        attempts := s.attempts.insert r.key []
        payloads := s.payloads.insert r.key (c, r.authenticatedClientId)
        outbox := s.outbox ++ [r.intent (s.outbox.length + 1)] }
    pure (r.operation now)

/-- `events.append(...)` on the list the dictionary holds. -/
def appendEvent (key : Key) (event : Nat → OperationEvent) : LedgerM Unit := do
  let events ← item (← MonadState.get).events key
  modify fun s => { s with events := s.events.insert key (events ++ [event (events.length + 1)]) }

/-- `attempts[-1] = attempts[-1].model_copy(...)` when there is one. -/
def updateLastAttempt (key : Key) (f : OperationAttempt → OperationAttempt) (attempts : List OperationAttempt) :
    LedgerM Unit := do
  match attempts.getLast? with
  | some last =>
    modify fun s => { s with attempts := s.attempts.insert key (attempts.dropLast ++ [f last]) }
  | none => pure ()

def reconcile (r : Reconciliation) (now : Time) : LedgerM CommandOperation := do
  match (← MonadState.get).commands.lookup r.key with
  | none => throw (.commandNotFound "command operation was not found")
  | some (digest, operation) =>
    if operation.state ≠ .reconciliationRequired then
      throw (.commandConflict "operation is no longer awaiting reconciliation")
    if r.expectedVersion.any fun v => decide ((operation.resourceVersion : Int) ≠ v) then
      throw (.commandConflict "expected_version is stale")
    let updated := r.updated operation now
    modify fun s => { s with commands := s.commands.insert r.key (digest, updated) }
    modify fun s =>
      { s with idempotency := s.idempotency.insert (r.tenantId, updated.idempotencyKey) (digest, updated) }
    appendEvent r.key (r.event now)
    let attempts ← item (← MonadState.get).attempts r.key
    updateLastAttempt r.key (r.closeAttempt now) attempts
    pure updated

def transition (t : Transition) (now : Time) : LedgerM CommandOperation := do
  if t.readbackEvidence.isSome ∧ t.newState ∉ [CommandState.completed, .reconciliationRequired] then
    throw (.commandConflict "read-back evidence may be persisted only on completion or reconciliation")
  let s ← MonadState.get
  match s.commands.lookup t.key with
  | none => throw (.commandNotFound "command operation was not found")
  | some (digest, operation) =>
    if t.newState ≠ .dispatching ∧
        t.expectedAttempt.any (fun n => decide ((((s.attempts.lookup t.key).getD []).length : Int) ≠ n)) then
      throw (.commandConflict "stale attempt fencing token")
    if t.newState ∉ operation.state.allowedTransitions then
      throw (.commandConflict
        ("invalid command transition " ++ operation.state.value ++ " -> " ++ t.newState.value))
    let updated := t.updated operation now
    modify fun s => { s with commands := s.commands.insert t.key (digest, updated) }
    modify fun s =>
      { s with idempotency := s.idempotency.insert (t.tenantId, updated.idempotencyKey) (digest, updated) }
    appendEvent t.key (t.event operation now)
    let attempts ← item (← MonadState.get).attempts t.key
    if t.newState = .dispatching then
      modify fun s =>
        { s with attempts := s.attempts.insert t.key (attempts ++ [t.openAttempt now (attempts.length + 1)]) }
    else
      updateLastAttempt t.key (t.closeAttempt now) attempts
    pure updated

/-! ### Operator mutations -/

def notCancellable : List CommandState :=
  [.completed, .failed, .reconciliationRequired, .deadLettered, .cancelled]

def reconcilable : List CommandState :=
  [.dispatching, .accepted, .readbackPending, .reconciliationRequired]

/-- The intents after a cancellation that takes effect at once. -/
def cancelIntent (i : MemoryOutboxIntent) : MemoryOutboxIntent :=
  if i.completedAt.isNone ∧ i.leaseOwner.isNone ∧ i.cancelledAt.isNone then
    { i with cancelledAt := some 0 }
  else i

/-- The intents after an operator's reconcile: quarantined, and no lease left on them. -/
def parkIntent (i : MemoryOutboxIntent) : MemoryOutboxIntent :=
  if i.isOpen then
    { i with
      reconciliationRequiredAt := some (i.reconciliationRequiredAt.getD 0)
      leaseOwner := none
      leaseUntil := none }
  else i

/-- Update the intents of one command in place. -/
def mapIntents (tenantId : String) (commandId : Uuid) (f : MemoryOutboxIntent → MemoryOutboxIntent)
    (outbox : List MemoryOutboxIntent) : List MemoryOutboxIntent :=
  outbox.map fun i => if i.tenantId = tenantId ∧ i.commandId = commandId then f i else i

/-- The intent a retry appends, a copy of the command's last one. -/
def retryIntent (s : MemoryCommandStore) (m : Mutation) (operation : CommandOperation) : MemoryOutboxIntent :=
  let source := (s.adapterIntents m.tenantId m.commandId).getLast?
  { id := s.outbox.length + 1
    tenantId := m.tenantId
    commandId := m.commandId
    destination := match source with
      | some i => i.destination
      | none => temporalCommandDestination
    eventType := operation.commandType
    idempotencyKey := "operation-retry:" ++ Sha256.hexdigest
      (m.tenantId ++ ":" ++ m.commandId ++ ":" ++ m.actorId ++ ":" ++ m.idempotencyKey)
    payload := match source with
      | some i => i.payload
      | none => { commandId := m.commandId } }

/-- The state a cancellation leads to: a leased or running command is parked for reconciliation. -/
def cancelState (s : MemoryCommandStore) (m : Mutation) (operation : CommandOperation) : CommandState :=
  let activeLease := (s.adapterIntents m.tenantId m.commandId).any
    fun i => i.leaseOwner.isSome && i.completedAt.isNone
  if operation.state ∈ [CommandState.persisted, .queued] ∧ !activeLease then .cancelled
  else .reconciliationRequired

/-- The updates of `mutate_operation`, with what it does to the intents. -/
def mutationUpdates (m : Mutation) (operation : CommandOperation) (now : Time) : LedgerM CommandOperation := do
  let s ← MonadState.get
  match m.action with
  | .cancel =>
    if operation.state ∈ notCancellable then
      throw (.commandConflict "operation is not cancellable")
    let state := cancelState s m operation
    if state = .cancelled then
      modify fun s => { s with outbox := mapIntents m.tenantId m.commandId cancelIntent s.outbox }
    pure { operation with
      state := state
      cancelledAt := if state = .cancelled then some now else none
      cancellationReason := some m.reason }
  | .reconcile =>
    if operation.state ∉ reconcilable then
      throw (.commandConflict "operation is not reconcilable")
    modify fun s => { s with outbox := mapIntents m.tenantId m.commandId parkIntent s.outbox }
    pure { operation with
      state := .reconciliationRequired
      reconciliationRequestedAt := some now
      reconciliationReason := some m.reason }
  | .retry =>
    if operation.state ≠ .failed then
      throw (.commandConflict "operation is not safely retryable")
    modify fun s => { s with outbox := s.outbox ++ [retryIntent s m operation] }
    pure { operation with state := .queued, lastError := none }

def mutateOperation (m : Mutation) (now : Time) : LedgerM CommandOperation := do
  let s ← MonadState.get
  match s.commands.lookup m.key with
  | none => throw (.commandNotFound "command operation was not found")
  | some (digest, operation) =>
    let requestDigest := mutationDigest m.expectedVersion m.reason
    let mutationKey := (m.tenantId, m.commandId, m.action, m.actorId, m.idempotencyKey)
    match s.mutations.lookup mutationKey with
    | some replay =>
      if replay.1 ≠ requestDigest then
        throw (.commandConflict "idempotency key was reused with different mutation content")
      pure { replay.2 with duplicate := true }
    | none =>
      if (operation.resourceVersion : Int) ≠ m.expectedVersion then
        throw (.commandConflict "expected_version is stale")
      let changed ← mutationUpdates m operation now
      let updated := Mutation.updated operation changed now
      modify fun s => { s with commands := s.commands.insert m.key (digest, updated) }
      appendEvent m.key (m.event operation updated now)
      modify fun s => { s with mutations := s.mutations.insert mutationKey (requestDigest, updated) }
      pure updated

/-! ### Dead letters and replays -/

def recordDeadLetter (d : DeadLetter) (now : Time) : LedgerM DeadLetterRecord := do
  let operation ← get d.tenantId d.commandId
  match (← MonadState.get).deadLetters.lookup (d.tenantId, d.commandId) with
  | some existing => pure existing
  | none =>
    let deadLetterId := (← MonadState.get).deadLetters.entries.length + 1
    let attemptNumber ← latestAttempt d.tenantId d.commandId
    let record : DeadLetterRecord :=
      { deadLetterId := deadLetterId, tenantId := d.tenantId, commandId := d.commandId,
        attemptNumber := attemptNumber, reasonCode := d.reasonCode, errorClass := d.errorClass,
        terminalReason := clip 2048 d.terminalReason, correlationId := operation.correlationId,
        principalId := operation.requestedBy, capability := operation.capability,
        poisoned := d.poisoned, retryExhausted := d.retryExhausted, createdAt := now }
    modify fun s => { s with deadLetters := s.deadLetters.insert (d.tenantId, d.commandId) record }
    pure record

def getDeadLetter (tenantId : String) (commandId : Uuid) : LedgerM DeadLetterRecord := do
  match (← MonadState.get).deadLetters.lookup (tenantId, commandId) with
  | none => throw (.commandNotFound "dead-letter record was not found")
  | some row => pure row

def createReplay (r : ReplayRequest) (now : Time) : LedgerM ReplayRecord := do
  let _ ← getDeadLetter r.tenantId r.commandId
  let key := (r.tenantId, r.commandId, r.idempotencyKey)
  match (← MonadState.get).replayKeys.lookup key with
  | some existingId =>
    let existing ← item (← MonadState.get).replays (r.tenantId, existingId)
    if existing.reason ≠ r.reason then
      throw (.commandConflict "replay idempotency key was reused with different content")
    pure existing
  | none =>
    let record : ReplayRecord :=
      { replayId := r.replayId, tenantId := r.tenantId, originalCommandId := r.commandId,
        requestedBy := r.actorId, idempotencyKey := r.idempotencyKey, reason := r.reason,
        state := if r.scheduledAt.isSome then .scheduled else .requested,
        scheduledAt := r.scheduledAt, createdAt := now }
    modify fun s => { s with replays := s.replays.insert (r.tenantId, r.replayId) record }
    modify fun s => { s with replayKeys := s.replayKeys.insert key r.replayId }
    pure record

def completeReplay (tenantId : String) (replayId replayCommandId : Uuid) : LedgerM ReplayRecord := do
  match (← MonadState.get).replays.lookup (tenantId, replayId) with
  | none => throw (.commandNotFound "replay request was not found")
  | some row =>
    if row.state = .cancelled then
      throw (.commandConflict "cancelled replay cannot execute")
    let updated : ReplayRecord := { row with state := .submitted, replayCommandId := some replayCommandId }
    modify fun s => { s with replays := s.replays.insert (tenantId, replayId) updated }
    pure updated

def cancelReplay (tenantId : String) (replayId : Uuid) (now : Time) : LedgerM ReplayRecord := do
  match (← MonadState.get).replays.lookup (tenantId, replayId) with
  | none => throw (.commandNotFound "replay request was not found")
  | some row =>
    if row.state ≠ .requested ∧ row.state ≠ .scheduled then
      throw (.commandConflict "replay can only be cancelled before execution")
    let updated : ReplayRecord := { row with state := .cancelled, cancelledAt := some now }
    modify fun s => { s with replays := s.replays.insert (tenantId, replayId) updated }
    pure updated

end MemoryCommandStore

end Middleware.Ledger
