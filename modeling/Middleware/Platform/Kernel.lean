/-
`CommandKernel.submit` (`app/platform/kernel.py`) as a coroutine, and the pool of everything that runs
over one command store: submissions, dispatches, passes of the execution bus and of the reconciler,
and operators' mutations, interleaved at every `await` and killed anywhere.

The policy engine's decision is input. The backlog cache is left out: it only replaces the figures of
a submission by older ones, and nothing below depends on them.
-/
import Middleware.Platform.Reconciler

namespace Middleware.Platform

open Ledger Lib

structure CommandKernel where
  policies : CommandPolicyRegistry
  registry : AdapterRegistry

structure KernelPrincipal where
  subject : String
  clientId : String

/-- `[a-z0-9]+(?:-[a-z0-9]+)*` of at most 100 characters. -/
def validClientId (id : String) : Bool :=
  decide (id.toList.length ≤ 100) &&
    (id.toList.splitOn '-').all fun part => !part.isEmpty && part.all fun c => c.isLower || c.isDigit

namespace CommandKernel

def disabled (message : String) : Exc := .other "CommandCapabilityDisabled" message

/-- `CommandPolicyRegistry.authorize`. -/
def authorize (policies : CommandPolicyRegistry) (c : CommandEnvelope) : Except Exc Unit :=
  match policies.matching c.commandType with
  | [policy] =>
    if c.target ≠ policy.target then .error (disabled "command target does not own the command type")
    else if c.capability ≠ policy.capability then
      .error (disabled "command capability does not match the owning policy")
    else if policies.capabilities.lookup policy.capability ≠ some true then
      .error (disabled ("capability " ++ policy.capability ++ " is disabled"))
    else if !policy.readbackRequired then
      .error (disabled "effectful command policy must require provider read-back")
    else .ok ()
  | _ => .error (disabled "command type does not have exactly one owning policy")

/-- `CommandService.validate_submission`. -/
def validateSubmission (policies : CommandPolicyRegistry) (c : CommandEnvelope) (p : KernelPrincipal) :
    Except Exc Unit :=
  if c.requestedBy ≠ p.subject then
    .error (disabled "requested_by must equal the authenticated token subject")
  else if !validClientId p.clientId then .error (disabled "authenticated client ID is invalid")
  else authorize policies c

def raise : Except Exc Unit → Coro Unit
  | .ok _ => pure ()
  | .error e => throw e

/-- The evidence stored with a submission. -/
def evidence (k : CommandKernel) (c : CommandEnvelope) (policy : CommandPolicyDecision) (safety : SafetyDecision) : Obj :=
  let base : Obj :=
    [("policy_decision_id", .str policy.decisionId), ("policy_version", .str policy.policyVersion),
      ("policy_allow", .bool policy.allow), ("policy_reason_code", .str policy.reasonCode),
      ("safety_decision_id", .str safety.decisionId), ("safety_version", .str safety.safetyVersion),
      ("safety_allow", .bool safety.allow), ("safety_reason_code", .str safety.reasonCode),
      ("destination", .str (kernelDestination k.registry c))]
  match k.registry.ownership c.commandType with
  | some ownership => Obj.set base "adapter_id" (.str ownership.adapterId)
  | none => base

/-- `submit` of a fresh command. -/
def submit (k : CommandKernel) (c : CommandEnvelope) (p : KernelPrincipal) (requiredScope : String)
    (trace : Option Obj) : Coro CommandOperation := do
  match k.policies.resolve c.commandType with
  | none => throw (disabled "command type, target and capability do not name one registered policy")
  | some policy =>
    if policy.target ≠ c.target ∨ policy.capability ≠ c.capability then
      throw (disabled "command type, target and capability do not name one registered policy")
    else
      let decision ← ask (.evaluateCommand c requiredScope)
      if !decision.allow then
        throw (.other "PolicyDenied" ("policy denied: " ++ decision.reasonCode))
      else
        let figures ← outcomeOf (ask (.backlog c.tenantId))
        let backlog : Option (Nat × Nat) := match figures with
          | .ok n => some n
          | .error _ => none
        let safety ← ask (.evaluate (kernelSubject c)
          (kernelContext k.registry c (backlog.map fun n => (n.1 : Int)) (backlog.map fun n => (n.2 : Int))) true)
        if !safety.allow then
          if safety.saturated then
            throw (.other "KernelSaturated" ("kernel saturated: " ++ safety.reasonCode))
          else
            throw (.other "SafetyDenied" ("safety denied: " ++ safety.reasonCode))
        else
          raise (validateSubmission k.policies c p)
          ask (.submit
            { command := c, authenticatedClientId := p.clientId, destination := kernelDestination k.registry c,
              decisionEvidence := some (k.evidence c decision safety), trace := trace })

end CommandKernel

/-! ## The pool -/

/-- What may run over a command store. -/
inductive Job where
  | submit (k : CommandKernel) (c : CommandEnvelope) (p : KernelPrincipal) (requiredScope : String) (trace : Option Obj)
  | dispatch (d : AdapterDispatch) (tenantId : String) (commandId : Uuid) (outboxAttempt : Nat) (trace : Option Obj)
  | bus (b : MemoryExecutionBus) (d : AdapterDispatch)
  | reconciler (r : Reconciler)
  | mutate (m : Mutation)

def Job.coroutine : Job → Coro Unit
  | .submit k c p scope trace => discard (k.submit c p scope trace)
  | .dispatch d tenantId commandId outboxAttempt trace => discard (d.dispatch tenantId commandId outboxAttempt trace)
  | .bus b d => discard (b.runOnce d)
  | .reconciler r => discard r.runOnce
  | .mutate m => discard (ask (.mutateOperation m))

/-- The platform over one `MemoryCommandStore`. -/
def platform : System Call.Answer Exc Unit MemoryCommandStore Input Job where
  exec := exec
  sync c := !c.suspends
  prog := Job.coroutine

abbrev Run := Pool Call.Answer Exc Unit MemoryCommandStore Job
abbrev Step := Action Input Job
abbrev Log := List (Entry Call.Answer Exc MemoryCommandStore)

/-- The platform after a list of actions from an empty store. -/
def run (actions : List Step) : Run := platform.run ⟨{}, [], []⟩ actions

/-! ## The synthetic deployment

The command, the registry and the gate of the source's kernel tests, for concrete runs. -/

namespace Synthetic

def policies : CommandPolicyRegistry :=
  { policies := [⟨"test.syn.", "test-syn", "TEST_SYN_EXECUTE", true⟩]
    capabilities := AList.insert "TEST_SYN_EXECUTE" true ∅ }

def capabilities : AdapterCapabilities := { connectorIds := ["test-syn"] }

def registry : AdapterRegistry :=
  { policies := policies
    owners := AList.insert "test.syn." "test-syn" ∅
    advertised := AList.insert "test-syn" capabilities ∅ }

def envelope : CommandEnvelope :=
  { commandId := "7d0f", commandType := "test.syn.execute.v1", commandVersion := "1.0", target := "test-syn",
    tenantId := "TEST_SYN", requestedBy := "user-1", correlationId := "corr-1", idempotencyKey := "idem-1",
    capability := "TEST_SYN_EXECUTE", payload := [("probe", .bool true)] }

def key : Key := (envelope.tenantId, envelope.commandId)

def gate : SafetyGate :=
  { settings := ⟨"test", ∅, ∅⟩
    capabilities := AList.insert "TEST_SYN_EXECUTE" true ∅
    switches :=
      { safetyVersion := "1", globalKillSwitch := false, providerKillSwitches := ∅, syntheticTenants := ["TEST_SYN"]
        gates := AList.insert "TEST_SYN_EXECUTE"
          { classification := .synthetic, environments := ["test"], syntheticTenantRequired := true } ∅
        limits := ⟨100, 1000⟩ } }

/-- A ready adapter that accepts and whose read-back matches. -/
def input : Input :=
  { now := 0, capabilities := capabilities, readiness := .ok ⟨true⟩, executed := .ok { outcome := .accepted },
    classified := .ok .ambiguous, status := .ok { outcome := .completed }, readback := .ok { status := .matched },
    policy := ⟨"p-1", "1", true, "allowed"⟩, gate := gate, budgetAdmits := true, decisionId := "s-1",
    circuitOpen := none, bulkheadFull := none }

def submit : Job := .submit ⟨policies, registry⟩ envelope ⟨"user-1", "middleware-api"⟩ "platform.command" none

def worker (workerId : String) : AdapterDispatch :=
  { appEnv := "test", sourceSha := "0", syntheticTenants := ["TEST_SYN"], registry := registry, workerId := workerId }

/-- One call of `dispatch` on the command. -/
def dispatch (workerId : String) : Job := .dispatch (worker workerId) key.1 key.2 1 none

def bus (workerId : String) (maxAttempts : Nat := 8) : Job :=
  .bus { maxAttempts := maxAttempts, workerId := workerId } (worker workerId)

/-- A pass of a reconciler that knows the adapter to execute safely again. -/
def reconciler (safeReexecution : Bool := true) : Job :=
  .reconciler
    { appEnv := "test", sourceSha := "0", reconcilerId := "reconciler"
      registry :=
        { registry with
          advertised := AList.insert "test-syn" { capabilities with safeReexecution := safeReexecution } ∅ } }

/-- An operator's mutation of the command. -/
def operator (action : MutationAction) (expectedVersion : Int) : Job :=
  .mutate
    { tenantId := key.1, commandId := key.2, action := action, actorId := "operator", idempotencyKey := "op-1",
      expectedVersion := expectedVersion, reason := "operator request" }

def later (now : Time) (i : Input := input) : Input := { i with now := now }

def start (job : Job) (now : Time := 0) : Step := .spawn job (later now)

/-- Resume a process `n` times. -/
def drive (pid : Nat) (i : Input) (n : Nat) : List Step := List.replicate n (.resume pid i)

end Synthetic

end Middleware.Platform
