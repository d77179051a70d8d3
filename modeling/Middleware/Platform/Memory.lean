/-
The rows of the in-memory queue (`app/platform/memory.py`): how `MemoryExecutionBus` claims and
settles an intent and how `MemoryReconciliationSource` claims, resolves and releases one. The rows are
the outbox of the command store, and a row is named by its id.
-/
import Middleware.Ledger.Memory

namespace Middleware.Platform

open Ledger

/-- What the queue hands to the handler. -/
structure OutboxRecord where
  id : Nat
  tenantId : String
  destination : String
  eventType : String
  idempotencyKey : String
  payload : IntentPayload
  attemptCount : Nat

structure ReconciliationClaim where
  outboxId : Nat
  tenantId : String
  commandId : Uuid
  reconciliationAttempts : Nat

/-- The parameters of a `MemoryExecutionBus`. -/
structure MemoryExecutionBus where
  maxAttempts : Nat := 8
  leaseSeconds : Time := 60
  workerId : String := "memory-bus"

def updateRow (id : Nat) (f : MemoryOutboxIntent → MemoryOutboxIntent) (s : MemoryCommandStore) :
    MemoryCommandStore :=
  { s with outbox := s.outbox.map fun i => if i.id = id then f i else i }

def leaseFree (now : Time) (i : MemoryOutboxIntent) : Bool := i.leaseUntil.all fun t => decide (t < now)

/-! ## The execution bus -/

namespace MemoryExecutionBus

/-- `_claimable`. -/
def claimable (b : MemoryExecutionBus) (now : Time) (i : MemoryOutboxIntent) : Bool :=
  i.destination == adapterCommandDestination && i.isOpen && i.reconciliationRequiredAt.isNone &&
    decide (i.attemptCount < b.maxAttempts) && decide (i.nextAttemptAt ≤ now) && leaseFree now i

/-- A claim leases the row and quarantines it before any provider code. -/
def claimRow (b : MemoryExecutionBus) (now : Time) (i : MemoryOutboxIntent) : MemoryOutboxIntent :=
  { i with
    attemptCount := i.attemptCount + 1
    leaseOwner := some b.workerId
    leaseUntil := some (now + b.leaseSeconds)
    reconciliationRequiredAt := some now }

/-- The head of `run_once`: the first claimable row. -/
def claim (b : MemoryExecutionBus) (now : Time) (s : MemoryCommandStore) :
    Option OutboxRecord × MemoryCommandStore :=
  match s.outbox.find? (b.claimable now) with
  | none => (none, s)
  | some i =>
    (some
      { id := i.id, tenantId := i.tenantId, destination := i.destination, eventType := i.eventType,
        idempotencyKey := i.idempotencyKey, payload := i.payload, attemptCount := i.attemptCount + 1 },
      updateRow i.id (b.claimRow now) s)

end MemoryExecutionBus

/-- How the handler of a claimed row ended. -/
inductive Settlement where
  | completed
  | retry (error : String)
  | quarantined (error : String)

/-- `min(3600.0, float(2 ** min(attempt_count, 10)))`. -/
def backoff (attemptCount : Nat) : Time := min 3600 (2 ^ min attemptCount 10)

/-- The tail of `run_once` on the claimed row. -/
def MemoryExecutionBus.settleRow (b : MemoryExecutionBus) (now : Time) (outcome : Settlement) (i : MemoryOutboxIntent) :
    MemoryOutboxIntent :=
  match outcome with
  | .completed =>
    { i with reconciliationRequiredAt := none, leaseOwner := none, leaseUntil := none, completedAt := some now }
  | .retry error =>
    let i :=
      { i with
        reconciliationRequiredAt := none, leaseOwner := none, leaseUntil := none
        lastError := some (clip 2048 error) }
    if b.maxAttempts ≤ i.attemptCount then { i with deadLetteredAt := some now }
    else { i with nextAttemptAt := now + backoff i.attemptCount }
  | .quarantined error => { i with lastError := some (clip 2048 error) }

/-! ## The reconciliation source -/

inductive Resolution where
  | complete
  | deadLetter
  | retry
deriving DecidableEq, Repr

namespace MemoryReconciliationSource

/-- What `claim` looks for: a quarantined row that is neither completed nor dead-lettered and whose
lease ran out. -/
def claimable (now : Time) (i : MemoryOutboxIntent) : Bool :=
  i.destination == adapterCommandDestination && i.reconciliationRequiredAt.isSome &&
    i.completedAt.isNone && i.deadLetteredAt.isNone && leaseFree now i

def claimRow (reconcilerId : String) (leaseSeconds now : Time) (i : MemoryOutboxIntent) : MemoryOutboxIntent :=
  { i with
    leaseOwner := some reconcilerId
    leaseUntil := some (now + leaseSeconds)
    reconciliationAttempts := i.reconciliationAttempts + 1 }

def claim (reconcilerId : String) (leaseSeconds now : Time) (s : MemoryCommandStore) :
    Option ReconciliationClaim × MemoryCommandStore :=
  match s.outbox.find? (claimable now) with
  | none => (none, s)
  | some i =>
    (some
      { outboxId := i.id, tenantId := i.tenantId, commandId := i.payload.commandId,
        reconciliationAttempts := i.reconciliationAttempts + 1 },
      updateRow i.id (claimRow reconcilerId leaseSeconds now) s)

/-- `_item`: the row of a claim, refused when another reconciler leased it meanwhile. -/
def item (claim : ReconciliationClaim) (reconcilerId : String) (s : MemoryCommandStore) :
    Except Exc MemoryOutboxIntent :=
  match s.outbox.find? (·.id = claim.outboxId) with
  | none => .error (.runtimeError "outbox intent does not exist")
  | some i =>
    if i.leaseOwner ≠ some reconcilerId then
      .error (.runtimeError "reconciliation lease is owned by another reconciler")
    else .ok i

def resolveRow (action : Resolution) (reason : String) (now : Time) (i : MemoryOutboxIntent) :
    MemoryOutboxIntent :=
  let i :=
    { i with
      leaseOwner := none, leaseUntil := none, reconciliationRequiredAt := none
      lastError := some (clip 2048 reason) }
  match action with
  | .complete => { i with completedAt := some now }
  | .deadLetter => { i with deadLetteredAt := some now }
  | .retry => { i with nextAttemptAt := now }

def resolve (claim : ReconciliationClaim) (reconcilerId : String) (action : Resolution) (reason : String)
    (now : Time) (s : MemoryCommandStore) : Except Exc Unit × MemoryCommandStore :=
  match item claim reconcilerId s with
  | .error e => (.error e, s)
  | .ok i => (.ok (), updateRow i.id (resolveRow action reason now) s)

def releaseRow (reason : String) (i : MemoryOutboxIntent) : MemoryOutboxIntent :=
  { i with leaseOwner := none, leaseUntil := none, lastError := some (clip 2048 reason) }

def release (claim : ReconciliationClaim) (reconcilerId : String) (reason : String)
    (s : MemoryCommandStore) : Except Exc Unit × MemoryCommandStore :=
  match item claim reconcilerId s with
  | .error e => (.error e, s)
  | .ok i => (.ok (), updateRow i.id (releaseRow reason) s)

end MemoryReconciliationSource

end Middleware.Platform
