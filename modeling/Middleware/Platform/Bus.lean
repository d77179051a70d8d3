/-
The execution bus (`app/platform/bus.py` and `MemoryExecutionBus.run_once` of `app/platform/memory.py`):
`AdapterDispatch.dispatch` with its helpers, as coroutines over the platform's calls. Metrics and logging
are left out; the recorded `DispatchOutcome` is returned.
-/
import Middleware.Platform.Calls

namespace Middleware.Platform

open Ledger Lib

/-- The parameters of an `AdapterDispatch`. -/
structure AdapterDispatch where
  appEnv : String
  sourceSha : String
  syntheticTenants : List String
  registry : AdapterRegistry
  maxAttempts : Nat := 8
  workerId : String

structure DispatchOutcome where
  commandId : Uuid
  attempt : Option Nat
  finalState : String
  effectAttempted : Bool
  result : Option AdapterResult := none
  readback : Option ReadbackResult := none

/-- `registry.adapter(adapter_id)`. -/
def registeredAdapter (registry : AdapterRegistry) (adapterId : String) : Coro AdapterCapabilities :=
  match registry.advertised.lookup adapterId with
  | some capabilities => pure capabilities
  | none => throw (.other "AdapterRegistryError" ("adapter '" ++ adapterId ++ "' is not registered"))

/-- The evidence of a read-back as it is stored: the adapter's own evidence is merged last. -/
def readbackEvidence (readback : ReadbackResult) (operation : CommandOperation) : Obj :=
  Obj.merge
    [("schema_version", .str "1.0"), ("status", .str readback.status.lower),
      ("provider_operation_id", optStr (orElse readback.providerOperationId operation.providerOperationId))]
    (redactMetadata readback.evidence)

/-- `status_readback`: ask the provider's status surface first when it has one. -/
def statusReadback (adapterId : String) (operation : CommandOperation) (context : AdapterContext)
    (pendingIsUnavailable : Bool) : Coro (Option ReadbackResult) := do
  let capabilities ← ask (.capabilities adapterId)
  if !(capabilities.supportsStatus && (orElse operation.providerOperationId none).isSome) then
    return none
  else
    let status ← ask (.status adapterId operation context)
    let reference := orElse status.providerOperationId operation.providerOperationId
    if (orElse status.providerOperationId none).isSome ∧
        status.providerOperationId ≠ operation.providerOperationId then
      return some
        { status := .mismatch, providerOperationId := status.providerOperationId,
          safeErrorCode := some "provider_reference_mismatch" }
    else if pendingIsUnavailable ∧ status.outcome = .accepted then
      return some
        { status := .unavailable, providerOperationId := reference,
          evidence := [("provider_state", .str "pending"), ("retry_hint", .str "reconcile")],
          safeErrorCode := some "provider_operation_pending" }
    else if status.outcome = .rejected ∨ status.outcome = .cancelled then
      return some
        { status := .mismatch, providerOperationId := reference,
          evidence := [("provider_state", .str status.outcome.lower)],
          safeErrorCode := orElse status.safeErrorCode (some "provider_operation_failed") }
    else
      return none

namespace AdapterDispatch

def context (d : AdapterDispatch) (operation : CommandOperation) (attempt : Nat) (trace : Option Obj)
    (payload : Obj) : AdapterContext :=
  { tenantId := operation.tenantId, commandId := operation.commandId, correlationId := operation.correlationId,
    attempt := attempt, environment := d.appEnv, deploymentSha := d.sourceSha,
    traceContext := trace.getD [], testSyn := d.syntheticTenants.contains operation.tenantId,
    payload := payload }

/-- `_safe_reason`. -/
def safeReason (result : AdapterResult) : String :=
  match orElse result.safeErrorCode none, result.errorClass with
  | some code, some klass => code ++ ":" ++ klass.value
  | some code, none => code
  | none, some klass => klass.value
  | none, none => result.outcome.lower

/-! ## Ledger writes of the dispatcher -/

def transition (d : AdapterDispatch) (tenantId : String) (commandId : Uuid) (newState : CommandState)
    (reason : String) (expectedAttempt : Option Nat := none) (providerOperationId : Option String := none)
    (readbackEvidence : Option Obj := none) : Transition :=
  { tenantId := tenantId, commandId := commandId, newState := newState, actorId := d.workerId,
    reason := reason, providerOperationId := providerOperationId, readbackEvidence := readbackEvidence,
    expectedAttempt := expectedAttempt.map fun n => (n : Int) }

/-- The dead letter of a permanent refusal. -/
def terminalFailure (d : AdapterDispatch) (tenantId : String) (commandId : Uuid) (reason : String) : DeadLetter :=
  { tenantId := tenantId, commandId := commandId, actorId := d.workerId, reasonCode := "terminal_failure",
    errorClass := "non_retryable", terminalReason := reason,
    poisoned := decide ("poison".toList <:+: lower reason) }

/-- `_fail`. -/
def fail (d : AdapterDispatch) (operation : CommandOperation) (reason : String) (attempt : Option Nat)
    (retryable : Bool := false) : Coro Unit := do
  let tenantId := operation.tenantId
  let commandId := operation.commandId
  let current ← ask (.get tenantId commandId)
  if current.state ∈ [CommandState.persisted, .queued] then
    -- no attempt was opened: leave it queued when retryable, else queued → dead_lettered
    if retryable then
      return ()
    else
      if current.state = .persisted then
        let _ ← ask (.transition (d.transition tenantId commandId .queued "claimed by execution bus"))
      let _ ← ask (.transition (d.transition tenantId commandId .deadLettered reason))
      let _ ← ask (.recordDeadLetter (d.terminalFailure tenantId commandId reason))
      return ()
  else
    let _ ← ask (.transition (d.transition tenantId commandId .failed reason attempt))
    if retryable then
      let _ ← ask (.transition (d.transition tenantId commandId .queued "scheduled for a known-safe retry"))
      return ()
    else
      let _ ← ask (.recordDeadLetter (d.terminalFailure tenantId commandId reason))
      return ()

/-! ## Read-back and recovery -/

/-- The read-back of `_readback`: the status surface, then the adapter; an exception is no answer. -/
def observe (adapterId : String) (operation : CommandOperation) (context : AdapterContext) : Coro ReadbackResult := do
  let answer ← outcomeOf (do
    match ← statusReadback adapterId operation context true with
    | some readback => return readback
    | none => ask (.readback adapterId operation context))
  match answer with
  | .ok readback => return readback
  | .error e => return { status := .unavailable, safeErrorCode := some e.typeName }

/-- `_readback`. -/
def readback (d : AdapterDispatch) (operation : CommandOperation) (adapterId : String) (context : AdapterContext)
    (attempt : Nat) : Coro (String × ReadbackResult) := do
  let tenantId := operation.tenantId
  let commandId := operation.commandId
  let operation ← ask (.transition
    (d.transition tenantId commandId .readbackPending "reading provider state back" attempt))
  let readback ← observe adapterId operation context
  let evidence := readbackEvidence readback operation
  match readback.status with
  | .matched =>
    let _ ← ask (.transition (d.transition tenantId commandId .completed "provider read-back matched" attempt
      readback.providerOperationId (some evidence)))
    return ("completed", readback)
  | .mismatch =>
    let _ ← ask (.transition (d.transition tenantId commandId .failed "provider read-back mismatch" attempt))
    return ("failed", readback)
  | status =>
    let _ ← ask (.transition (d.transition tenantId commandId .reconciliationRequired
      ("provider read-back " ++ status.lower) attempt none (some evidence)))
    throw (.unknownOutcome ("readback " ++ status.value))

/-- `_recover`: an earlier attempt may have reached the provider, so its state is read back. -/
def recover (d : AdapterDispatch) (operation : CommandOperation) (envelope : CommandEnvelope) (adapterId : String)
    (trace : Option Obj) : Coro DispatchOutcome := do
  let attempt : Nat ← ask (.latestAttempt operation.tenantId operation.commandId)
  let context := d.context operation attempt trace envelope.payload
  let operation : CommandOperation ←
    if operation.state = .dispatching then
      ask (.transition (d.transition operation.tenantId operation.commandId .accepted
        "recovering an expired dispatch lease: reading provider state back" attempt))
    else pure operation
  let answer ← d.readback operation adapterId context attempt
  return ⟨operation.commandId, attempt, answer.1, false, none, answer.2⟩

/-! ## Execution -/

/-- `_finalize`. -/
def finalize (d : AdapterDispatch) (operation : CommandOperation) (adapterId : String) (attempt : Nat)
    (context : AdapterContext) (result : AdapterResult) : Coro DispatchOutcome := do
  let tenantId := operation.tenantId
  let commandId := operation.commandId
  let safe := safeReason result
  match result.outcome with
  | .accepted | .completed =>
    let operation ← ask (.transition (d.transition tenantId commandId .accepted
      ("provider acknowledged (" ++ result.outcome.value ++ ")") attempt result.providerOperationId))
    let answer ← d.readback operation adapterId context attempt
    return ⟨commandId, attempt, answer.1, true, result, answer.2⟩
  | .rejected =>
    d.fail operation safe attempt
    return ⟨commandId, attempt, "failed", false, result, none⟩
  | .transient =>
    if d.maxAttempts ≤ context.attempt then
      let _ ← ask (.transition (d.transition tenantId commandId .failed safe attempt))
      let _ ← ask (.transition (d.transition tenantId commandId .deadLettered "retry budget exhausted"))
      let _ ← ask (.recordDeadLetter
        { tenantId := tenantId, commandId := commandId, actorId := d.workerId, reasonCode := "retry_exhausted",
          errorClass := (result.errorClass.map ErrorClass.value).getD "retryable", terminalReason := safe,
          retryExhausted := true })
      throw (.knownSafeRetry ("retry budget exhausted: " ++ safe))
    else
      d.fail operation safe attempt true
      throw (.knownSafeRetry safe)
  | .unsupported =>
    d.fail operation "adapter does not support execute for this command" attempt
    return ⟨commandId, attempt, "failed", false, result, none⟩
  | .unknown | .cancelled =>
    -- the effect may exist: park for reconciliation
    let reason := if safe = "" then "provider outcome unknown" else safe
    let _ ← ask (.transition (d.transition tenantId commandId .reconciliationRequired reason attempt
      result.providerOperationId))
    throw (.unknownOutcome reason)

/-- The result an exception of `adapter.execute` stands for, by the adapter's classification. -/
def classified (error : Exc) : ErrorClass → AdapterResult
  | .retryableBeforeEffect =>
    { outcome := .transient, errorClass := some .retryableBeforeEffect, safeErrorCode := some error.typeName }
  | .nonRetryable =>
    { outcome := .rejected, errorClass := some .nonRetryable, safeErrorCode := some error.typeName }
  | .unsupported =>
    { outcome := .rejected, errorClass := some .unsupported, safeErrorCode := some error.typeName }
  | .providerAuth =>
    { outcome := .rejected, errorClass := some .providerAuth, safeErrorCode := some "provider_auth_failed" }
  | .providerRateLimited =>
    { outcome := .transient, errorClass := some .providerRateLimited, safeErrorCode := some "provider_rate_limited" }
  | .ambiguous =>
    { outcome := .unknown, errorClass := some .ambiguous, safeErrorCode := some error.typeName }

/-- The `except` clauses around the execution, then `_finalize`. -/
def conclude (d : AdapterDispatch) (operation : CommandOperation) (adapterId : String) (attempt : Nat)
    (context : AdapterContext) : Except Exc AdapterResult → Coro DispatchOutcome
  | .ok result => d.finalize operation adapterId attempt context result
  | .error (.bulkheadFull message) => do
    -- nothing was sent: close the attempt as failed and retry safely
    d.fail operation ("bulkhead saturated: " ++ message) attempt true
    throw (.knownSafeRetry message)
  | .error .timeout =>
    d.finalize operation adapterId attempt context
      { outcome := .unknown, errorClass := some .ambiguous, safeErrorCode := some "adapter_timeout" }
  | .error e => do
    let klass ← ask (.classifyError adapterId e)
    d.finalize operation adapterId attempt context (classified e klass)

/-- The attempt a worker opened: read its number, execute under the bulkhead, finalize. -/
def executeAttempt (d : AdapterDispatch) (operation : CommandOperation) (envelope : CommandEnvelope)
    (adapterId : String) (trace : Option Obj) : Coro DispatchOutcome := do
  let attempt : Nat ← ask (.latestAttempt operation.tenantId operation.commandId)
  let context := d.context operation attempt trace envelope.payload
  let answer ← outcomeOf (do
    ask (.acquire adapterId)
    ask (.execute adapterId envelope context)
    ask (.executed adapterId context))
  d.conclude operation adapterId attempt context answer

/-- The checks before an attempt is opened: readiness, the safety gate, the breaker; `false` when the
command was refused for good. -/
def admitted (d : AdapterDispatch) (operation : CommandOperation) (envelope : CommandEnvelope) (adapterId : String)
    (outboxAttempt : Nat) (trace : Option Obj) : Coro Bool := do
  match ← outcomeOf (ask (.readiness adapterId (d.context operation outboxAttempt trace envelope.payload))) with
  | .error e => throw (.knownSafeRetry ("adapter readiness unavailable: " ++ e.typeName))
  | .ok readiness =>
    let decision ← ask (.evaluate (dispatchSubject operation envelope) (dispatchContext readiness) false)
    if !decision.allow then
      if decision.reasonCode = "adapter_not_ready" then
        throw (.knownSafeRetry "adapter not ready")
      else
        d.fail operation ("safety denied at execution: " ++ decision.reasonCode) none
        return false
    else
      match ← outcomeOf (ask (.breakerAdmit adapterId)) with
      | .error (.circuitOpen message) => throw (.knownSafeRetry message)
      | .error e => throw e
      | .ok _ => return true

def openAttempt (d : AdapterDispatch) (tenantId : String) (commandId : Uuid) (operation : CommandOperation)
    (envelope : CommandEnvelope) (adapterId : String) (trace : Option Obj) : Coro DispatchOutcome := do
  if operation.state = .persisted then
    let _ ← ask (.transition (d.transition tenantId commandId .queued "claimed by execution bus"))
  let operation ← ask (.transition (d.transition tenantId commandId .dispatching
    ("attempt via adapter " ++ adapterId)))
  d.executeAttempt operation envelope adapterId trace

/-- `dispatch` once the operation is known and not terminal. -/
def dispatchLive (d : AdapterDispatch) (tenantId : String) (commandId : Uuid) (operation : CommandOperation)
    (outboxAttempt : Nat) (trace : Option Obj) : Coro DispatchOutcome := do
  let envelope ← ask (.loadEnvelope tenantId commandId)
  match d.registry.ownership envelope.commandType with
  | none =>
    d.fail operation "no adapter owns this command" none
    return ⟨commandId, none, "failed", false, none, none⟩
  | some ownership =>
    let _ ← registeredAdapter d.registry ownership.adapterId
    let capabilities ← ask (.capabilities ownership.adapterId)
    if !capabilities.connectorIds.contains envelope.target then
      d.fail operation "connector unavailable for adapter" none
      return ⟨commandId, none, "failed", false, none, none⟩
    else if operation.state ∈ [CommandState.dispatching, .accepted, .readbackPending] then
      d.recover operation envelope ownership.adapterId trace
    else if ← d.admitted operation envelope ownership.adapterId outboxAttempt trace then
      d.openAttempt tenantId commandId operation envelope ownership.adapterId trace
    else
      return ⟨commandId, none, "failed", false, none, none⟩

/-- `dispatch`. -/
def dispatch (d : AdapterDispatch) (tenantId : String) (commandId : Uuid) (outboxAttempt : Nat := 1)
    (trace : Option Obj := none) : Coro DispatchOutcome := do
  match ← outcomeOf (ask (.get tenantId commandId)) with
  | .error (.commandNotFound _) => return ⟨commandId, none, "missing", false, none, none⟩
  | .error e => throw e
  | .ok operation =>
    if operation.state ∈ [CommandState.completed, .failed, .deadLettered, .cancelled] then
      return ⟨commandId, none, operation.state.value, false, none, none⟩
    else
      d.dispatchLive tenantId commandId operation outboxAttempt trace

/-- `__call__`: the handler of an outbox record. -/
def handle (d : AdapterDispatch) (record : OutboxRecord) : Coro Unit := do
  if record.destination ≠ adapterCommandDestination then
    throw (.knownSafeRetry ("unexpected destination " ++ record.destination))
  else
    discard (d.dispatch record.tenantId record.payload.commandId record.attemptCount record.payload.trace)

end AdapterDispatch

/-- How `run_once` settles a row after its handler. -/
def settlement : Except Exc Unit → Settlement
  | .ok _ => .completed
  | .error (.knownSafeRetry message) => .retry message
  | .error (.unknownOutcome message) => .quarantined message
  | .error e => .quarantined (e.typeName ++ ": " ++ e.text)

/-- `MemoryExecutionBus.run_once`. -/
def MemoryExecutionBus.runOnce (b : MemoryExecutionBus) (d : AdapterDispatch) : Coro Bool := do
  match ← ask (.busClaim b) with
  | none => return false
  | some record =>
    let answer ← outcomeOf (d.handle record)
    ask (.busSettle b record.id (settlement answer))
    return true

end Middleware.Platform
