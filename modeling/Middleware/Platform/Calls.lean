/-
The calls the platform's coroutines make, with their answers: the ledger, the adapter, the safety gate,
the circuit breaker and bulkhead, and the queue. A coroutine of the platform is a program over these
calls (`Coro`), so its text below follows the source line by line and every `await` of the source is one
call. `suspends` tells the awaited calls from the ones that run without giving up control.

`adapter.execute` is two calls: the call itself, made at once when the bulkhead admits, and its
answer, which arrives later or never.
-/
import Middleware.Lib.Pool
import Middleware.Platform.Memory
import Middleware.Platform.Safety

namespace Middleware.Platform

open Ledger Lib

/-- What the kernel reads of a `CommandPolicyDecision`. -/
structure CommandPolicyDecision where
  decisionId : String
  policyVersion : String
  allow : Bool
  reasonCode : String

inductive Call where
  -- the ledger
  | get (tenantId : String) (commandId : Uuid)
  | loadEnvelope (tenantId : String) (commandId : Uuid)
  | latestAttempt (tenantId : String) (commandId : Uuid)
  | backlog (tenantId : String)
  | submit (r : Submission)
  | transition (t : Transition)
  | reconcile (r : Reconciliation)
  | recordDeadLetter (d : DeadLetter)
  | mutateOperation (m : Mutation)
  -- the adapter
  | capabilities (adapterId : String)
  | readiness (adapterId : String) (context : AdapterContext)
  | execute (adapterId : String) (command : CommandEnvelope) (context : AdapterContext)
  | executed (adapterId : String) (context : AdapterContext)
  | classifyError (adapterId : String) (error : Exc)
  | status (adapterId : String) (operation : CommandOperation) (context : AdapterContext)
  | readback (adapterId : String) (operation : CommandOperation) (context : AdapterContext)
  | reconcileHook (adapterId : String) (operation : CommandOperation) (context : AdapterContext)
  -- policy, safety and resilience
  | evaluateCommand (command : CommandEnvelope) (requiredScope : String)
  | evaluate (subject : SafetySubject) (context : SafetyContext) (consumeBudget : Bool)
  | breakerAdmit (adapterId : String)
  | acquire (adapterId : String)
  -- the queue
  | busClaim (b : MemoryExecutionBus)
  | busSettle (b : MemoryExecutionBus) (id : Nat) (outcome : Settlement)
  | sourceClaim (reconcilerId : String) (leaseSeconds : Time)
  | sourceResolve (claim : ReconciliationClaim) (reconcilerId : String) (action : Resolution) (reason : String)
  | sourceRelease (claim : ReconciliationClaim) (reconcilerId : String) (reason : String)

@[reducible] def Call.Answer : Call → Type
  | .get .. | .submit _ | .transition _ | .reconcile _ | .mutateOperation _ => CommandOperation
  | .loadEnvelope .. => CommandEnvelope
  | .latestAttempt .. => Nat
  | .backlog _ => Nat × Nat
  | .recordDeadLetter _ => DeadLetterRecord
  | .capabilities _ => AdapterCapabilities
  | .readiness .. => AdapterReadiness
  | .execute .. | .breakerAdmit _ | .acquire _ | .busSettle .. | .sourceResolve .. | .sourceRelease .. => Unit
  | .executed .. | .status .. => AdapterResult
  | .classifyError .. => ErrorClass
  | .readback .. | .reconcileHook .. => ReadbackResult
  | .evaluateCommand .. => CommandPolicyDecision
  | .evaluate .. => SafetyDecision
  | .busClaim _ => Option OutboxRecord
  | .sourceClaim .. => Option ReconciliationClaim

/-- Whether the source awaits the call. -/
def Call.suspends : Call → Bool
  | .capabilities _ | .execute .. | .classifyError .. | .evaluateCommand .. | .evaluate .. | .breakerAdmit _
  | .busClaim _ | .busSettle .. => false
  | _ => true

abbrev Coro (α : Type) := Prog Call.Answer Exc α

abbrev Answered := Ev Call.Answer Exc

abbrev ask (c : Call) : Coro c.Answer := Prog.ask c

/-- Run a coroutine and return its exception instead of raising it. -/
def outcomeOf {α : Type} (p : Coro α) : Coro (Except Exc α) :=
  tryCatch (do return .ok (← p)) fun e => return .error e

/-! ## What the environment answers -/

/-- The answers of everything outside the ledger for one uninterrupted stretch of a coroutine, with the
reading of the clock. -/
structure Input where
  now : Time
  capabilities : AdapterCapabilities
  readiness : Except Exc AdapterReadiness
  executed : Except Exc AdapterResult
  classified : Except Exc ErrorClass
  status : Except Exc AdapterResult
  readback : Except Exc ReadbackResult
  policy : CommandPolicyDecision
  gate : SafetyGate
  budgetAdmits : Bool
  decisionId : String
  circuitOpen : Option String
  bulkheadFull : Option String

def exec (i : Input) : (c : Call) → MemoryCommandStore → Except Exc c.Answer × MemoryCommandStore
  | .get t c, s => perform (MemoryCommandStore.get t c) s
  | .loadEnvelope t c, s => perform (MemoryCommandStore.loadEnvelope t c) s
  | .latestAttempt t c, s => perform (MemoryCommandStore.latestAttempt t c) s
  | .backlog t, s => (.ok (s.backlog t), s)
  | .submit r, s => perform (MemoryCommandStore.submit r i.now) s
  | .transition t, s => perform (MemoryCommandStore.transition t i.now) s
  | .reconcile r, s => perform (MemoryCommandStore.reconcile r i.now) s
  | .recordDeadLetter d, s => perform (MemoryCommandStore.recordDeadLetter d i.now) s
  | .mutateOperation m, s => perform (MemoryCommandStore.mutateOperation m i.now) s
  | .capabilities _, s => (.ok i.capabilities, s)
  | .readiness .., s => (i.readiness, s)
  | .execute .., s => (.ok (), s)
  | .executed .., s => (i.executed, s)
  | .classifyError .., s => (i.classified, s)
  | .status .., s => (i.status, s)
  | .readback .., s => (i.readback, s)
  | .reconcileHook .., s => (i.readback, s)
  | .evaluateCommand .., s => (.ok i.policy, s)
  | .evaluate subject context consume, s =>
    (.ok (i.gate.evaluate subject context consume i.budgetAdmits i.decisionId), s)
  | .breakerAdmit _, s =>
    (match i.circuitOpen with
      | some message => .error (.circuitOpen message)
      | none => .ok (), s)
  | .acquire _, s =>
    (match i.bulkheadFull with
      | some message => .error (.bulkheadFull message)
      | none => .ok (), s)
  | .busClaim b, s => (.ok (b.claim i.now s).1, (b.claim i.now s).2)
  | .busSettle b id outcome, s => (.ok (), updateRow id (b.settleRow i.now outcome) s)
  | .sourceClaim r lease, s =>
    (.ok (MemoryReconciliationSource.claim r lease i.now s).1, (MemoryReconciliationSource.claim r lease i.now s).2)
  | .sourceResolve claim r action reason, s => MemoryReconciliationSource.resolve claim r action reason i.now s
  | .sourceRelease claim r reason, s => MemoryReconciliationSource.release claim r reason s

end Middleware.Platform
