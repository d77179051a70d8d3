/-
The call activities of `app/temporal_activities.py` (`CommandLedgerWorkflowActivities`): `execute_command` and
`record_call_pre_dispatch_rejection` over the tables of `PostgresCommandStore`, as coroutines, and the pool of everything
that runs over one ledger: executions of the activities, submissions, transitions and reconciliations, interleaved at
every `await` and killed anywhere.

A statement or a transaction is one call. It runs, is rolled back, or commits with its answer lost. `adapter.execute` is
two calls: the call itself, and its answer, which arrives later or never. The other provider adapters are told apart from
the calling adapter only by the request's target.
-/
import Middleware.Lib.Pool
import Middleware.Postgres.Commands

namespace Middleware.Temporal

open Ledger Postgres Lib

/-- `TARGET`, `ORIGINATE` and `HANGUP` of `app/calling_contract.py`. -/
def callTarget : String := "vicidial-restricted"
def originate : String := "telephony-internal.calls.originate"
def hangup : String := "telephony-internal.calls.hangup"

structure CommandExecutionRequest where
  command : CommandEnvelope
  authenticatedClientId : String := ""
  resumeFromQueued : Bool := false

structure ActivityResult where
  status : String
  detail : String
  providerOperationId : Option String := none
  readbackEvidence : Option Obj := none

abbrev CommandExecutionRequest.key (r : CommandExecutionRequest) : Key := (r.command.tenantId, r.command.commandId)

/-! ## Exceptions -/

/-- What can be raised in an activity. -/
inductive Failure where
  | preDispatchRejected
  | outcomeUnknown (message : String)
  | adapter (message : String)
  | application (type message : String)
  | connection
  | ledger (e : Exc)
  | other
  deriving DecidableEq

def executionRejected (message : String) : Failure := .application "CommandExecutionRejected" message

/-- The failures after which the rejection is persisted again. -/
def Failure.transient : Failure → Bool
  | .connection => true
  | _ => false

/-! ## Statements and transactions -/

/-- `durable == request`, and the digests that are compared after it: the canonical texts agree. -/
def sameRequest (durable : CommandEnvelope × String) (r : CommandExecutionRequest) : Bool :=
  !r.resumeFromQueued && dumps false (.obj (authenticatedCommandPayload durable.1 durable.2)) ==
    dumps false (.obj (authenticatedCommandPayload r.command r.authenticatedClientId))

/-- `_load_durable_execution_request`, whose answer equals the request. -/
def loadDurableExecutionRequest (r : CommandExecutionRequest) (s : Tables) : Except Failure Unit :=
  match s.command r.key with
  | none => .error (executionRejected "durable command was not found")
  | some row =>
    if row.payload.2 = "" then
      .error (.application "ReconciliationRejected" "durable command is missing authenticated client provenance")
    else if row.payload.1.commandId ≠ r.command.commandId ∨ row.payload.1.tenantId ≠ r.command.tenantId then
      .error (.application "ReconciliationRejected" "reconciliation identity does not match the durable command")
    else if row.payloadSha256 ≠ authenticatedCommandDigest row.payload.1 row.payload.2 then
      .error (.application "ReconciliationRejected" "durable command payload digest does not match submission evidence")
    else if !sameRequest row.payload r then .error (executionRejected "Temporal command differs from durable intent")
    else .ok ()

def dispatchClaim : Obj := [("dispatch_claimed", .bool true)]

/-- `_is_dispatch_claim`: Python's `True` equals 1. -/
def isDispatchClaim : Option Obj → Bool
  | some [(key, .bool true)] => key == "dispatch_claimed"
  | some [(key, .int n)] => key == "dispatch_claimed" && n == 1
  | some [(key, .float r)] => key == "dispatch_claimed" && r == "1.0"
  | _ => false

def claimedAttempt (a : AttemptRow) : AttemptRow := { a with resultPayload := some dispatchClaim }

/-- `_claim_call_dispatch`: the attempt it claimed. -/
def claimCallDispatch (k : Key) (s : Tables) : Option Nat × Tables :=
  match s.newestAttempt k with
  | some a =>
    if a.state = .dispatching ∧ a.resultPayload = none then
      (some a.attemptNumber, { s with attempts := s.updateNewest k claimedAttempt })
    else (none, s)
  | none => (none, s)

def cancelledResult : ActivityResult := ⟨"cancelled", "bounded originate rejected before transport", none, none⟩

/-- The newest attempt was rejected before its dispatch. -/
def AttemptRow.rejected (a : AttemptRow) : Bool :=
  a.state == .failed && a.errorCode == some "pre_dispatch_rejected" && isDispatchClaim a.resultPayload

/-- `_load_committed_call_cancellation`. -/
def loadCommittedCallCancellation (k : Key) (s : Tables) : Option ActivityResult :=
  match s.command k, s.newestAttempt k with
  | some row, some a => if row.state == .cancelled && AttemptRow.rejected a then some cancelledResult else none
  | _, _ => none

def rejectedCommand (now : Time) (r : CommandRow) : CommandRow :=
  { r with
    state := .cancelled, resourceVersion := r.resourceVersion + 1, cancelledAt := some now,
    cancellationReason := some "bounded originate rejected before transport", updatedAt := now }

def rejectedAttempt (now : Time) (a : AttemptRow) : AttemptRow :=
  { a with
    state := .failed, errorCode := some "pre_dispatch_rejected",
    errorDetail := some "bounded originate rejected before transport", finishedAt := some now }

def rejectionAudit (k : Key) (now : Time) : AuditRow where
  tenantId := k.1
  commandId := k.2
  previousState := some .dispatching
  newState := .cancelled
  actorId := "temporal:codestra.calling-dispatch.v1"
  reason := "bounded originate rejected before transport"
  metadata := [("external_effect", .bool false)]
  createdAt := now

/-- What the transaction of `record_call_pre_dispatch_rejection` writes. -/
def rejected (k : Key) (now : Time) (s : Tables) : Tables :=
  { s with
    commands := s.updateCommand k (rejectedCommand now)
    attempts := s.updateNewest k (rejectedAttempt now)
    audit := s.audit ++ [rejectionAudit k now] }

/-- A dispatching command whose newest attempt is claimed. -/
def Rejectable (s : Tables) (k : Key) : Prop :=
  ∃ row a, s.command k = some row ∧ s.newestAttempt k = some a ∧ row.state = .dispatching ∧
    isDispatchClaim a.resultPayload = true

/-- The transaction of `record_call_pre_dispatch_rejection`. -/
def rejectDispatch (k : Key) (now : Time) (s : Tables) : Except Failure ActivityResult × Tables :=
  match s.command k, s.newestAttempt k with
  | some row, some a =>
    if row.state == .cancelled && AttemptRow.rejected a then (.ok cancelledResult, s)
    else if row.state == .dispatching && isDispatchClaim a.resultPayload then (.ok cancelledResult, rejected k now s)
    else (.error (executionRejected "pre-dispatch rejection does not own the durable dispatch claim"), s)
  | _, _ => (.error (executionRejected "pre-dispatch rejection does not own the durable dispatch claim"), s)

/-! ## Calls -/

inductive Call where
  -- statements and transactions
  | load (r : CommandExecutionRequest)
  | claim (r : CommandExecutionRequest)
  | cancellation (r : CommandExecutionRequest)
  | reject (r : CommandExecutionRequest)
  | submit (r : Submission)
  | transition (t : Transition)
  | reconcile (r : Reconciliation)
  -- the adapter, and the pause before the rejection is persisted again
  | execute (r : CommandExecutionRequest)
  | executed (r : CommandExecutionRequest)
  | readback (r : CommandExecutionRequest)
  | sleep

@[reducible] def Call.Answer : Call → Type
  | .load _ | .execute _ | .sleep => Unit
  | .claim _ => Option Nat
  | .cancellation _ => Option ActivityResult
  | .reject _ | .executed _ | .readback _ => ActivityResult
  | .submit _ | .transition _ | .reconcile _ => CommandOperation

abbrev Coro (α : Type) := Prog Call.Answer Failure α
abbrev Answered := Ev Call.Answer Failure
abbrev ask (c : Call) : Coro c.Answer := Prog.ask c

/-! ## The activities -/

/-- `_adapter`: the targets whose adapter is activated. -/
def activated (targets : List String) (r : CommandExecutionRequest) : Bool :=
  targets.contains r.command.target &&
    (r.command.target != callTarget || [originate, hangup].contains r.command.commandType)

/-- `record_call_pre_dispatch_rejection`. -/
def recordCallPreDispatchRejection (r : CommandExecutionRequest) : Coro ActivityResult := do
  ask (.load r)
  if r.command.commandType ≠ originate ∨ r.command.target ≠ callTarget then
    throw (executionRejected "pre-dispatch rejection is restricted to bounded originate")
  else ask (.reject r)

/-- The loop of `execute_command` that persists a rejection. -/
def persistRejection (r : CommandExecutionRequest) : Nat → Coro ActivityResult
  | 0 => throw .other
  | n + 1 => tryCatch (recordCallPreDispatchRejection r) fun e =>
    if e.transient && n != 0 then do
      ask .sleep
      persistRejection r n
    else throw e

/-- `adapter.execute` and what becomes of its exceptions. -/
def executeAdapter (r : CommandExecutionRequest) : Coro ActivityResult :=
  tryCatch
    (do
      ask (.execute r)
      ask (.executed r))
    fun
    | .preDispatchRejected => persistRejection r 3
    | .outcomeUnknown message => throw (.application "ProviderOutcomeUnknown" message)
    | .adapter message => throw (.application "ProviderAdapterError" message)
    | e => throw e

/-- `execute_command`. -/
def executeCommand (targets : List String) (r : CommandExecutionRequest) : Coro ActivityResult := do
  if r.command.target = callTarget then
    ask (.load r)
    if !activated targets r then
      throw (.application "CapabilityDisabled" "no production provider adapter is activated for this command")
    else
      match ← ask (.claim r) with
      | some _ => executeAdapter r
      | none =>
        match ← ask (.cancellation r) with
        | some cancelled => return cancelled
        | none => ask (.readback r)
  else if !activated targets r then
    throw (.application "CapabilityDisabled" "no production provider adapter is activated for this command")
  else executeAdapter r

/-! ## The pool -/

/-- How a statement or a transaction fails: rolled back, or committed with its answer lost. -/
inductive Fault where
  | rolledBack (e : Failure)
  | lost (e : Failure)

/-- The answers of everything outside the ledger. -/
structure Input where
  now : Time
  fault : Option Fault := none
  executed : Except Failure ActivityResult := .error .other
  readback : Except Failure ActivityResult := .error .other

def Input.transaction {α : Type} (i : Input) (tx : Tables → Except Failure α × Tables) (s : Tables) :
    Except Failure α × Tables :=
  match i.fault with
  | some (.rolledBack e) => (.error e, s)
  | some (.lost e) => (.error e, (tx s).2)
  | none => tx s

def ledgerCall {α : Type} (r : Except Exc α × Tables) : Except Failure α × Tables :=
  (match r.1 with
    | .ok a => .ok a
    | .error e => .error (.ledger e), r.2)

def exec (jsonb : Obj → Option Obj) (i : Input) : (c : Call) → Tables → Except Failure c.Answer × Tables
  | .load r, s => i.transaction (fun s => (loadDurableExecutionRequest r s, s)) s
  | .claim r, s => i.transaction (fun s => (.ok (claimCallDispatch r.key s).1, (claimCallDispatch r.key s).2)) s
  | .cancellation r, s => i.transaction (fun s => (.ok (loadCommittedCallCancellation r.key s), s)) s
  | .reject r, s => i.transaction (rejectDispatch r.key i.now) s
  | .submit r, s => i.transaction (fun s => ledgerCall (PostgresCommandStore.submit r none i.now s)) s
  | .transition t, s => i.transaction (fun s => ledgerCall (PostgresCommandStore.transition jsonb t i.now s)) s
  | .reconcile r, s => i.transaction (fun s => ledgerCall (PostgresCommandStore.reconcile jsonb r i.now s)) s
  | .execute _, s => (.ok (), s)
  | .executed _, s => (i.executed, s)
  | .readback _, s => (i.readback, s)
  | .sleep, s => (.ok (), s)

/-- What may run over a ledger. -/
inductive Job where
  | executeCommand (targets : List String) (r : CommandExecutionRequest)
  | recordCallPreDispatchRejection (r : CommandExecutionRequest)
  | submit (r : Submission)
  | transition (t : Transition)
  | reconcile (r : Reconciliation)

def Job.coroutine : Job → Coro Unit
  | .executeCommand targets r => discard (Temporal.executeCommand targets r)
  | .recordCallPreDispatchRejection r => discard (Temporal.recordCallPreDispatchRejection r)
  | .submit r => discard (ask (.submit r))
  | .transition t => discard (ask (.transition t))
  | .reconcile r => discard (ask (.reconcile r))

/-- The activities over one ledger; every call is awaited. -/
def activities (jsonb : Obj → Option Obj) : System Call.Answer Failure Unit Tables Input Job where
  exec := exec jsonb
  sync _ := false
  prog := Job.coroutine

abbrev Run := Pool Call.Answer Failure Unit Tables Job
abbrev Step := Action Input Job
abbrev LogEntry := Entry Call.Answer Failure Tables

/-- The activities after a list of actions over an empty ledger. -/
def run (jsonb : Obj → Option Obj) (actions : List Step) : Run := (activities jsonb).run ⟨{}, [], []⟩ actions

end Middleware.Temporal
