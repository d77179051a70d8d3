/-
The reconciler (`app/platform/reconciler.py`): `run_once`, `_reconcile` and `_fenced_reconcile` as
coroutines over the platform's calls. The decision is returned; the backlog gauge is left out.
-/
import Middleware.Platform.Bus

namespace Middleware.Platform

open Ledger Lib

/-- The parameters of a `Reconciler`. -/
structure Reconciler where
  appEnv : String
  sourceSha : String
  registry : AdapterRegistry
  budget : Nat := 6
  leaseSeconds : Time := 60
  reconcilerId : String

structure ReconciliationDecision where
  commandId : Uuid
  adapterId : Option String
  readback : Option ReadbackResult
  action : String
  finalState : String
  driftClass : Option String := none

namespace Reconciler

def context (r : Reconciler) (operation : CommandOperation) (attempt : Nat) (payload : Obj) : AdapterContext :=
  { tenantId := operation.tenantId, commandId := operation.commandId, correlationId := operation.correlationId,
    attempt := attempt, environment := r.appEnv, deploymentSha := r.sourceSha, payload := payload }

def transition (r : Reconciler) (claim : ReconciliationClaim) (newState : CommandState) (reason : String)
    (expectedAttempt : Option Nat := none) : Transition :=
  { tenantId := claim.tenantId, commandId := claim.commandId, newState := newState, actorId := r.reconcilerId,
    reason := reason, expectedAttempt := expectedAttempt.map fun n => (n : Int) }

def resolve (r : Reconciler) (claim : ReconciliationClaim) (action : Resolution) (reason : String) : Coro Unit :=
  ask (.sourceResolve claim r.reconcilerId action reason)

def release (r : Reconciler) (claim : ReconciliationClaim) (reason : String) : Coro Unit :=
  ask (.sourceRelease claim r.reconcilerId reason)

/-- `_fenced_reconcile`: record a verdict against the version that was read, or release the claim. -/
def fencedReconcile (r : Reconciler) (claim : ReconciliationClaim) (operation : CommandOperation) (matched : Bool)
    (reason : String) (providerOperationId : Option String) (evidence : Obj) : Coro Bool := do
  match ← outcomeOf (ask (.reconcile
      { tenantId := claim.tenantId, commandId := claim.commandId, matched := matched, actorId := r.reconcilerId,
        reason := reason, providerOperationId := providerOperationId, evidence := evidence,
        expectedVersion := some (operation.resourceVersion : Int) })) with
  | .ok _ => return true
  | .error (.commandConflict _) =>
    r.release claim "operation changed during read-back; verdict discarded"
    return false
  | .error e => throw e

/-- The read-back of `_reconcile`: the status surface, then the connector's reconcile hook; an exception
counts as unavailable. -/
def observe (adapterId : String) (operation : CommandOperation) (context : AdapterContext) : Coro ReadbackResult := do
  let answer ← outcomeOf (do
    match ← statusReadback adapterId operation context false with
    | some readback => return readback
    | none => ask (.reconcileHook adapterId operation context))
  match answer with
  | .ok readback => return readback
  | .error e =>
    return { status := .unavailable, providerOperationId := operation.providerOperationId,
             evidence := [("retry_hint", .str "reconcile")], safeErrorCode := some e.typeName }

def exhaustedReason (readback : ReadbackResult) : String :=
  if readback.status = .unsupported then
    "provider read-back unsupported (" ++ (orElse readback.safeErrorCode (some "no read surface")).getD "" ++
      "); operator verification required"
  else "reconciliation budget exhausted after " ++ readback.status.lower

def exhaustedLetter (r : Reconciler) (claim : ReconciliationClaim) (readback : ReadbackResult) : DeadLetter :=
  { tenantId := claim.tenantId, commandId := claim.commandId, actorId := r.reconcilerId,
    reasonCode := if readback.status ≠ .unsupported then "reconciliation_exhausted" else "readback_unsupported",
    errorClass := readback.status.lower, terminalReason := exhaustedReason readback,
    retryExhausted := decide (readback.status ≠ .unsupported) }

/-- The tail of `_reconcile` for an answer that decides nothing yet: dead-letter when the budget is
used up, else release. -/
def retryOrGiveUp (r : Reconciler) (claim : ReconciliationClaim) (adapterId : String) (readback : ReadbackResult)
    (exhausted : Bool) : Coro ReconciliationDecision := do
  if exhausted then
    let _ ← ask (.transition (r.transition claim .deadLettered (exhaustedReason readback)))
    let _ ← ask (.recordDeadLetter (r.exhaustedLetter claim readback))
    r.resolve claim .deadLetter (exhaustedReason readback)
    return ⟨claim.commandId, adapterId, readback, "dead_letter", "dead_lettered", none⟩
  else
    r.release claim ("read-back " ++ readback.status.lower ++ "; will retry")
    return ⟨claim.commandId, adapterId, readback, "release", "reconciliation_required", none⟩

/-- The decision of `_reconcile` on a read-back. -/
def conclude (r : Reconciler) (claim : ReconciliationClaim) (operation : CommandOperation) (adapterId : String)
    (advertised : AdapterCapabilities) (attempt : Nat) (readback : ReadbackResult) :
    Coro ReconciliationDecision := do
  let evidence := readbackEvidence readback operation
  let exhausted := decide (r.budget ≤ claim.reconciliationAttempts) || readback.status == .unsupported
  let discarded : ReconciliationDecision :=
    ⟨claim.commandId, adapterId, readback, "release", operation.state.value,
      some "operation_changed_during_readback"⟩
  match readback.status with
  | .matched =>
    if ← r.fencedReconcile claim operation true "reconciliation read-back matched"
        readback.providerOperationId evidence then
      r.resolve claim .complete "reconciliation read-back matched"
      return ⟨claim.commandId, adapterId, readback, "complete", "completed", none⟩
    else
      return discarded
  | .notFound =>
    if !advertised.safeReexecution then
      if ← r.fencedReconcile claim operation false "provider state missing; automatic repair is not safe"
          readback.providerOperationId evidence then
        let reason := "provider state missing and adapter does not permit safe automatic re-execution"
        let _ ← ask (.transition (r.transition claim .deadLettered reason))
        r.resolve claim .deadLetter reason
        return ⟨claim.commandId, adapterId, readback, "dead_letter", "dead_lettered",
          some "provider_missing_manual_repair"⟩
      else
        return discarded
    else if !exhausted then
      let _ ← ask (.transition (r.transition claim .queued
        "reconciliation proved no provider effect; re-queued" attempt))
      r.resolve claim .retry "reconciliation proved no provider effect"
      return ⟨claim.commandId, adapterId, readback, "retry", "queued", some "provider_missing_repairable"⟩
    else
      r.retryOrGiveUp claim adapterId readback exhausted
  | .mismatch =>
    if ← r.fencedReconcile claim operation false "reconciliation read-back mismatch"
        readback.providerOperationId evidence then
      r.retryOrGiveUp claim adapterId readback exhausted
    else
      return discarded
  | .unavailable | .unsupported => r.retryOrGiveUp claim adapterId readback exhausted

/-- `_reconcile` of an operation that awaits reconciliation. -/
def reconcileParked (r : Reconciler) (claim : ReconciliationClaim) (operation : CommandOperation) :
    Coro ReconciliationDecision := do
  match r.registry.ownership operation.commandType with
  | none =>
    r.release claim "no adapter owns this command in this process"
    return ⟨claim.commandId, none, none, "release", operation.state.value, none⟩
  | some ownership =>
    let advertised ← registeredAdapter r.registry ownership.adapterId
    let attempt : Nat ← ask (.latestAttempt claim.tenantId claim.commandId)
    let envelope ← ask (.loadEnvelope claim.tenantId claim.commandId)
    let capabilities ← ask (.capabilities ownership.adapterId)
    if !capabilities.connectorIds.contains envelope.target then
      let reason := "connector unavailable during reconciliation"
      let _ ← ask (.transition (r.transition claim .deadLettered reason))
      r.resolve claim .deadLetter reason
      return ⟨claim.commandId, ownership.adapterId, none, "dead_letter", "dead_lettered", none⟩
    else
      let context := r.context operation attempt envelope.payload
      let readback ← observe ownership.adapterId operation context
      r.conclude claim operation ownership.adapterId advertised attempt readback

/-- `_reconcile`. -/
def reconcile (r : Reconciler) (claim : ReconciliationClaim) : Coro ReconciliationDecision := do
  match ← outcomeOf (ask (.get claim.tenantId claim.commandId)) with
  | .error (.commandNotFound _) =>
    r.resolve claim .deadLetter "command row missing"
    return ⟨claim.commandId, none, none, "dead_letter", "missing", none⟩
  | .error e => throw e
  | .ok operation =>
    match operation.state with
    | .completed =>
      r.resolve claim .complete "operation already completed"
      return ⟨claim.commandId, none, none, "complete", "completed", none⟩
    | .failed | .deadLettered | .cancelled =>
      r.resolve claim .deadLetter ("operation is terminal (" ++ operation.state.value ++ ")")
      return ⟨claim.commandId, none, none, "dead_letter", operation.state.value, none⟩
    | .reconciliationRequired => r.reconcileParked claim operation
    | .persisted | .queued | .dispatching | .accepted | .readbackPending =>
      r.release claim ("operation is " ++ operation.state.value ++ "; not awaiting reconciliation")
      return ⟨claim.commandId, none, none, "release", operation.state.value, none⟩

/-- `run_once`. -/
def runOnce (r : Reconciler) : Coro (Option ReconciliationDecision) := do
  match ← ask (.sourceClaim r.reconcilerId r.leaseSeconds) with
  | none => return none
  | some claim => return some (← r.reconcile claim)

end Reconciler

end Middleware.Platform
