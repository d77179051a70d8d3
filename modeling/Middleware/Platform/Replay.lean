/-
`CommandKernel.replay` (`app/platform/kernel.py`) as a coroutine: a re-execution is three calls of the store
(`create_replay`, `submit`, `complete_replay`) with nothing around them, so other replays run between them and a crash
may fall between them. The pool runs any number of replays, of any operations and callers, beside any other calls of
the store. What `uuid4` draws is input.
-/
import Middleware.Platform.Idempotency
import Middleware.Platform.Kernel

namespace Middleware.Platform

open Ledger Lib MemoryCommandStore Store

inductive ReplayMode where
  | reprocess
  | reexecute
deriving DecidableEq, Repr

def platformOperatorRole : String := "platform-operator"
def scopeCommandReplay : String := "platform.command.replay"

/-- A call of `replay`, with the ids `uuid4` will draw in it. -/
structure ReplayCommand where
  tenantId : String
  operationId : Uuid
  principal : KernelPrincipal
  roles : List String
  mode : ReplayMode
  idempotencyKey : String
  expectedVersion : Int
  reason : String
  newIdempotencyKey : Option String := none
  mutationCorrelationId : Option String := none
  replayId : Uuid
  replayCommandId : Uuid

/-- What the replays call, and what anybody else does to the store. -/
inductive KernelCall where
  | platform (c : Call)
  | getDeadLetter (tenantId : String) (commandId : Uuid)
  | createReplay (r : ReplayRequest)
  | completeReplay (tenantId : String) (replayId replayCommandId : Uuid)
  | other (c : StoreCall)

@[reducible] def KernelCall.Answer : KernelCall → Type
  | .platform c => c.Answer
  | .getDeadLetter .. => DeadLetterRecord
  | .createReplay _ | .completeReplay .. => ReplayRecord
  | .other _ => Unit

def KernelCall.suspends : KernelCall → Bool
  | .platform c => c.suspends
  | _ => true

abbrev KernelCoro (α : Type) := Prog KernelCall.Answer Exc α

abbrev request (c : KernelCall) : KernelCoro c.Answer := Prog.ask c

namespace CommandKernel

def notAllowed (message : String) : Exc := .other "ReplayNotAllowed" message

def reraise : Except Exc Unit → KernelCoro Unit
  | .ok _ => pure ()
  | .error e => throw e

/-- `submit` from the safety gate on. -/
def submitGated (k : CommandKernel) (c : CommandEnvelope) (p : KernelPrincipal) (replayOf : Uuid)
    (decision : CommandPolicyDecision) (backlog : Option (Nat × Nat)) : KernelCoro CommandOperation := do
  let safety ← request (.platform (.evaluate (kernelSubject c)
    (kernelContext k.registry c (backlog.map fun n => (n.1 : Int)) (backlog.map fun n => (n.2 : Int))) true))
  if !safety.allow then
    if safety.saturated then
      throw (.other "KernelSaturated" ("kernel saturated: " ++ safety.reasonCode))
    else
      throw (.other "SafetyDenied" ("safety denied: " ++ safety.reasonCode))
  else
    reraise (validateSubmission k.policies c p)
    request (.platform (.submit
      { command := c, authenticatedClientId := p.clientId, destination := kernelDestination k.registry c,
        decisionEvidence := some (Obj.set (Obj.set (k.evidence c decision safety) "replay_mode" (.str "REEXECUTE"))
          "replay_of" (.str replayOf)) }))

/-- `submit` of a command that re-executes another one. -/
def submitReplay (k : CommandKernel) (c : CommandEnvelope) (p : KernelPrincipal) (replayOf : Uuid) :
    KernelCoro CommandOperation := do
  match k.policies.resolve c.commandType with
  | none => throw (disabled "command type, target and capability do not name one registered policy")
  | some policy =>
    if policy.target ≠ c.target ∨ policy.capability ≠ c.capability then
      throw (disabled "command type, target and capability do not name one registered policy")
    else
      let decision ← request (.platform (.evaluateCommand c scopeCommandReplay))
      if !decision.allow then
        throw (.other "PolicyDenied" ("policy denied: " ++ decision.reasonCode))
      else
        let backlog ← tryCatch (some <$> request (.platform (.backlog c.tenantId))) fun _ => pure none
        k.submitGated c p replayOf decision backlog

/-- The command a re-execution submits. -/
def replayed (q : ReplayCommand) (newKey : String) (envelope : CommandEnvelope) : CommandEnvelope :=
  { envelope with
    commandId := q.replayCommandId, idempotencyKey := newKey, requestedBy := q.principal.subject }

/-- The three calls of a re-execution. -/
def reexecute (k : CommandKernel) (q : ReplayCommand) (newKey : String) : KernelCoro CommandOperation := do
  let _ ← request (.getDeadLetter q.tenantId q.operationId)
  let replayRequest ← request (.createReplay
    { tenantId := q.tenantId, commandId := q.operationId, replayId := q.replayId, actorId := q.principal.subject,
      idempotencyKey := q.idempotencyKey, reason := q.reason })
  match replayRequest.replayCommandId with
  | some replayCommandId => request (.platform (.get q.tenantId replayCommandId))
  | none =>
    let envelope ← request (.platform (.loadEnvelope q.tenantId q.operationId))
    let operation ← k.submitReplay (replayed q newKey envelope) q.principal q.operationId
    let _ ← request (.completeReplay q.tenantId replayRequest.replayId operation.commandId)
    return operation

def replay (k : CommandKernel) (q : ReplayCommand) : KernelCoro CommandOperation := do
  if platformOperatorRole ∉ q.roles then throw (notAllowed "replay requires the platform-operator role")
  else
    let original ← request (.platform (.get q.tenantId q.operationId))
    match q.mode with
    | .reprocess =>
      if original.state ∉ [CommandState.dispatching, .accepted, .readbackPending, .reconciliationRequired] then
        throw (notAllowed "REPROCESS is only meaningful for an operation with an unknown provider outcome")
      else
        request (.platform (.mutateOperation
          { tenantId := q.tenantId, commandId := q.operationId, action := .reconcile, actorId := q.principal.subject,
            idempotencyKey := q.idempotencyKey, expectedVersion := q.expectedVersion,
            reason := "REPROCESS: " ++ q.reason, mutationCorrelationId := q.mutationCorrelationId }))
    | .reexecute =>
      if original.state ∉ [CommandState.failed, .deadLettered, .cancelled] then
        throw (notAllowed "REEXECUTE requires a terminal failed, dead-lettered or cancelled operation")
      else
        let newKey := q.newIdempotencyKey.getD ""
        if newKey = "" ∨ newKey = original.idempotencyKey then
          throw (notAllowed "REEXECUTE requires a new idempotency key")
        else
          match k.registry.ownership original.commandType with
          | none => k.reexecute q newKey
          | some ownership =>
            match k.registry.advertised.lookup ownership.adapterId with
            | none => throw .keyError
            | some advertised =>
              if !advertised.safeReexecution then
                throw (notAllowed ("adapter " ++ ownership.adapterId ++ " does not support safe re-execution"))
              else k.reexecute q newKey

end CommandKernel

/-! ## The pool -/

/-- Only `replay` requests and completes replays. -/
def Store.StoreCall.outsider : StoreCall → Bool
  | .ledger (.createReplay _) | .ledger (.completeReplay ..) => false
  | _ => true

inductive ReplayJob where
  | replay (k : CommandKernel) (q : ReplayCommand)
  | other (c : StoreCall) (outsider : c.outsider = true)

def ReplayJob.coroutine : ReplayJob → KernelCoro Unit
  | .replay k q => discard (k.replay q)
  | .other c _ => request (.other c)

def KernelCall.exec (i : Input) : (c : KernelCall) → MemoryCommandStore → Except Exc c.Answer × MemoryCommandStore
  | .platform c, s => Platform.exec i c s
  | .getDeadLetter t c, s => perform (MemoryCommandStore.getDeadLetter t c) s
  | .createReplay r, s => perform (MemoryCommandStore.createReplay r i.now) s
  | .completeReplay t id c, s => perform (MemoryCommandStore.completeReplay t id c) s
  | .other c, s => (.ok (), StoreStep.exec ⟨c, i.now⟩ s)

def replays : System KernelCall.Answer Exc Unit MemoryCommandStore Input ReplayJob where
  exec := KernelCall.exec
  sync c := !c.suspends
  prog := ReplayJob.coroutine

abbrev ReplayRun := Pool KernelCall.Answer Exc Unit MemoryCommandStore ReplayJob
abbrev ReplayStep := Action Input ReplayJob
abbrev ReplayEntry := Entry KernelCall.Answer Exc MemoryCommandStore

/-- The store and the replays after a list of actions. -/
def runReplays (actions : List ReplayStep) : ReplayRun := replays.run ⟨{}, [], []⟩ actions

end Middleware.Platform
