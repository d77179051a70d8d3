/-
`dispatch_one` (`app/workers/telephony_commands.py`) as a coroutine, and the pool of everything that runs over one
journal: workers, beats of their heartbeats, and arriving commands, interleaved at every `await` and killed anywhere.

A call that the source makes for a claimed row carries its claim. What the adapter, the client and the database answer
is input; `dispatch` and `readback` are the adapter's calls inside `_run_while_lease`, whose own exception when the
lease renewal stops is one of their answers. A heartbeat may beat for any claim at any time, which allows more runs than
the source.
-/
import Middleware.Lib.Pool
import Middleware.Telephony.Journal

namespace Middleware.Telephony

open Ledger Lib

inductive Call where
  -- the clock, and the rows that other transactions have locked
  | now
  | locks
  -- transactions on the journal
  | claim (environment : String) (now : Time) (locked : List Nat)
  | load (c : Claim) (now : Time)
  | persist (c : Claim) (command : TelephonyCommandRequest) (operation : Obj)
  | recordFailure (c : Claim) (exc : Raised)
  | finalize (c : Claim) (matched : Bool) (readback : Obj)
  | beat (c : Claim)
  | insert (commandId : Nat) (environment : String) (requestJson : Json) (allowed : Bool) (now : Time)
  -- the client
  | clientFactory (c : Claim)
  | dispatch (c : Claim) (command : TelephonyCommandRequest)
  | readback (c : Claim) (command : TelephonyCommandRequest) (operation : Obj)
  | cleanup (c : Claim)

@[reducible] def Call.Answer : Call → Type
  | .now => Time
  | .locks => List Nat
  | .claim .. => Option Claim
  | .load .. => Loaded
  | .dispatch .. | .readback .. => Obj
  | .beat _ => Bool
  | .persist .. | .recordFailure .. | .finalize .. | .insert .. | .clientFactory _ | .cleanup _ => Unit

/-- Whether the source awaits the call. -/
def Call.suspends : Call → Bool
  | .now | .locks | .clientFactory _ => false
  | _ => true

/-- The claim that a call of `dispatch_one` is made for. -/
def Call.claimOf : Call → Option Claim
  | .load c _ | .persist c .. | .recordFailure c _ | .finalize c .. | .clientFactory c | .dispatch c _ | .readback c ..
  | .cleanup c => some c
  | .now | .locks | .claim .. | .beat _ | .insert .. => none

abbrev Coro (α : Type) := Prog Call.Answer Raised α
abbrev Answered := Ev Call.Answer Raised
abbrev ask (c : Call) : Coro c.Answer := Prog.ask c

def raise {α : Type} : Except Raised α → Coro α
  | .ok a => pure a
  | .error e => throw e

/-- `try: p finally: c`. -/
def ensuring {α : Type} (p : Coro α) (c : Coro Unit) : Coro α := do
  let a ← tryCatch p fun e => do
    c
    throw e
  c
  return a

/-- The operation of the `try` block: that of an earlier attempt, or a new one, dispatched and persisted. -/
def operationOf (lib : Library) (c : Claim) (loaded : Loaded) : Coro Obj :=
  match loaded.operation with
  | some operation => pure operation
  | none => do
    let now ← ask .now
    raise (validatePolicyForDispatch lib now loaded.command loaded.decision)
    let operation ← ask (.dispatch c loaded.command)
    ask (.persist c loaded.command operation)
    return operation

/-- The `try` block of `dispatch_one`. -/
def submitAndRead (lib : Library) (c : Claim) (loaded : Loaded) : Coro (Obj × Obj) := do
  let operation ← operationOf lib c loaded
  let readback ← ask (.readback c loaded.command operation)
  return (operation, readback)

/-- What `dispatch_one` returns for a claimed row. -/
structure DispatchResult where
  commandId : Nat
  operationId : Json
  state : TelephonyCommandState

/-- `dispatch_one` after its claim. -/
def dispatchClaimed (lib : Library) (c : Claim) : Coro DispatchResult := do
  let now ← ask .now
  let loaded ← ask (.load c now)
  ask (.clientFactory c)
  let done ← ensuring
    (tryCatch (submitAndRead lib c loaded) fun exc =>
      -- a cancelled task is not caught here
      if exc.isException then do
        ask (.recordFailure c exc)
        throw exc
      else throw exc)
    (ask (.cleanup c))
  let readbackMatches ← raise (member done.2 "readback_matches")
  ask (.finalize c (truthy readbackMatches) done.2)
  let operationId ← raise (member done.1 "operation_id")
  return ⟨c.commandId, operationId, readbackState (truthy readbackMatches)⟩

/-- `dispatch_one`; without a claimable row it returns at once. -/
def dispatchOne (lib : Library) (environment : String) : Coro (Option DispatchResult) := do
  let now ← ask .now
  let locked ← ask .locks
  match ← ask (.claim environment now locked) with
  | none => return none
  | some c => some <$> dispatchClaimed lib c

/-! ## The pool -/

/-- How a transaction or a call to the client fails from outside. -/
inductive Fault where
  | database
  | cancelled

def Fault.raised : Fault → Raised
  | .database => .database
  | .cancelled => .cancelled

/-- The answers of everything outside the journal. -/
structure Input where
  now : Time
  locked : List Nat := []
  fault : Option Fault := none
  decisions : Uuid → Option PolicyDecision := fun _ => none
  client : Except Raised Unit := .ok ()
  dispatched : Except Raised Obj := .error .other
  readback : Except Raised Obj := .error .other
  closed : Except Raised Unit := .ok ()

/-- A transaction that the database fails is rolled back. -/
def Input.transaction {α : Type} (i : Input) (tx : Journal → Except Raised α × Journal) (j : Journal) :
    Except Raised α × Journal :=
  match i.fault with
  | some fault => (.error fault.raised, j)
  | none => tx j

def exec (lib : Library) (i : Input) : (c : Call) → Journal → Except Raised c.Answer × Journal
  | .now, j => (.ok i.now, j)
  | .locks, j => (.ok i.locked, j)
  | .claim environment now locked, j => i.transaction (claimAuthorized environment now locked) j
  | .load c now, j => i.transaction (fun j => (loadClaimed lib i.decisions c.commandId now j, j)) j
  | .persist c command operation, j => i.transaction (persistSubmission c command operation i.now) j
  | .recordFailure c exc, j => i.transaction (recordFailure c exc i.now) j
  | .finalize c matched readback, j => i.transaction (finalize c matched readback i.now) j
  | .beat c, j => i.transaction (renewLease c i.now) j
  | .insert id environment requestJson allowed now, j =>
    i.transaction (insertCommand (newCommandRecord id environment requestJson allowed now)) j
  | .clientFactory _, j => (i.client, j)
  | .dispatch .., j => (i.dispatched, j)
  | .readback .., j => (i.readback, j)
  | .cleanup _, j => (i.closed, j)

/-- What may run over a journal. -/
inductive Job where
  | dispatchOne (environment : String)
  | heartbeat (c : Claim)
  | create (commandId : Nat) (environment : String) (requestJson : Json) (allowed : Bool) (now : Time)

def Job.coroutine (lib : Library) : Job → Coro Unit
  | .dispatchOne environment => discard (Telephony.dispatchOne lib environment)
  | .heartbeat c => discard (ask (.beat c))
  | .create commandId environment requestJson allowed now =>
    ask (.insert commandId environment requestJson allowed now)

def telephony (lib : Library) : System Call.Answer Raised Unit Journal Input Job where
  exec := exec lib
  sync c := !c.suspends
  prog := Job.coroutine lib

abbrev Run := Pool Call.Answer Raised Unit Journal Job
abbrev Step := Action Input Job
abbrev LogEntry := Entry Call.Answer Raised Journal

/-- The workers after a list of actions over an empty journal. -/
def run (lib : Library) (actions : List Step) : Run := (telephony lib).run ⟨{}, [], []⟩ actions

end Middleware.Telephony
