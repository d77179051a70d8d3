/-
The safety gate (`app/platform/safety.py`), and the two places that ask it: the kernel when it admits
a command and the dispatcher before it executes one.

The gate fails closed: `evaluate` collects reasons and allows when there is none. The rate budget is a
token bucket over a clock, so whether it admits is input, as is the id of the decision.
-/
import Middleware.Ledger.Memory
import Middleware.Platform.Adapter

namespace Middleware.Platform

open Ledger

inductive Classification where
  | externalEffect
  | internal
  | synthetic
deriving DecidableEq, Repr

def Classification.value : Classification → String
  | externalEffect => "external_effect"
  | internal => "internal"
  | synthetic => "synthetic"

structure CapabilityGate where
  classification : Classification
  effectFlags : List String := []
  umbrellaControls : List String := []
  environments : List String
  campaignScoped : Bool := false
  syntheticTenantRequired : Bool := false

structure SafetyLimits where
  tenantBacklogBound : Int
  globalBacklogBound : Int

structure SafetySwitches where
  safetyVersion : String
  globalKillSwitch : Bool
  providerKillSwitches : Dict String Bool
  syntheticTenants : List String
  gates : Dict String CapabilityGate
  limits : SafetyLimits

structure Settings where
  appEnv : String
  externalEffects : Dict String Bool
  umbrellaControls : Dict String Bool

structure SafetySubject where
  tenantId : String
  commandType : String
  target : String
  capability : String
  campaignId : Option String := none
  correlationId : String := ""

/-- Runtime facts the gate cannot know by itself. -/
structure SafetyContext where
  adapterRegistered : Bool
  adapterReady : Option Bool
  tenantBacklog : Option Int := none
  globalBacklog : Option Int := none

structure SafetyDecision where
  decisionId : String
  safetyVersion : String
  correlationId : String
  allow : Bool
  reasonCode : String
  reasonCodes : List String
  classification : Classification
  saturated : Bool := false
  safeMetadata : Obj := []

structure SafetyGate where
  settings : Settings
  capabilities : Dict String Bool
  switches : SafetySwitches
  trippedGlobal : Bool := false
  trippedProviders : List String := []

namespace SafetyGate

def globalKill (g : SafetyGate) : Bool := g.switches.globalKillSwitch || g.trippedGlobal

def providerKill (g : SafetyGate) (provider : String) : Bool :=
  (g.switches.providerKillSwitches.lookup provider).getD false || g.trippedProviders.contains provider

def gate (g : SafetyGate) (capability : String) : Option CapabilityGate := g.switches.gates.lookup capability

/-- An unknown capability is the most dangerous class until listed. -/
def classification (g : SafetyGate) (capability : String) : Classification :=
  match g.gate capability with
  | some gate => gate.classification
  | none => .externalEffect

/-- `if cond: reasons.append(reason)`. -/
def reasonIf (cond : Bool) (reason : String) : List String := if cond then [reason] else []

/-- `mapping.get(name) is not True`. -/
def isOff (d : Dict String Bool) (name : String) : Bool := d.lookup name != some true

/-- The reasons of the capability's gate. -/
def gateReasons (g : SafetyGate) (subject : SafetySubject) : List String :=
  match g.gate subject.capability with
  | none => ["capability_without_safety_gate"]
  | some gate =>
    reasonIf (!gate.environments.contains g.settings.appEnv) "environment_not_authorized" ++
    reasonIf (gate.campaignScoped && (orElse subject.campaignId none).isNone) "campaign_scope_required" ++
    reasonIf (gate.syntheticTenantRequired && !g.switches.syntheticTenants.contains subject.tenantId)
      "synthetic_tenant_required" ++
    match gate.classification with
    | .externalEffect =>
      reasonIf (isOff g.capabilities subject.capability) "capability_disabled" ++
      gate.effectFlags.flatMap (fun flag =>
        reasonIf (isOff g.settings.externalEffects flag) ("effect_gate_off:" ++ flag)) ++
      gate.umbrellaControls.flatMap (fun control =>
        reasonIf (isOff g.settings.umbrellaControls control) ("umbrella_control_off:" ++ control))
    | .synthetic => reasonIf (isOff g.capabilities subject.capability) "capability_disabled"
    | .internal => []

def adapterReasons (context : SafetyContext) : List String :=
  if !context.adapterRegistered then ["adapter_not_registered"]
  else reasonIf (context.adapterReady == some false) "adapter_not_ready"

/-- An external effect needs its backlog figures; a figure that is there must be below its bound. -/
def backlogReasons (g : SafetyGate) (classification : Classification) (context : SafetyContext) : List String :=
  reasonIf (classification == .externalEffect && context.globalBacklog.isNone) "global_backlog_unavailable" ++
  reasonIf (classification == .externalEffect && context.tenantBacklog.isNone) "tenant_backlog_unavailable" ++
  reasonIf (context.globalBacklog.any fun n => g.switches.limits.globalBacklogBound ≤ n) "global_backlog_saturated" ++
  reasonIf (context.tenantBacklog.any fun n => g.switches.limits.tenantBacklogBound ≤ n) "tenant_backlog_saturated"

/-- The reasons before the rate budget is asked. -/
def reasons (g : SafetyGate) (subject : SafetySubject) (context : SafetyContext) : List String :=
  reasonIf g.globalKill "global_kill_switch" ++
  reasonIf (g.providerKill subject.target) "provider_kill_switch" ++
  g.gateReasons subject ++
  adapterReasons context ++
  g.backlogReasons (g.classification subject.capability) context

/-- `evaluate`; `admits` is the answer of the rate budget when it is asked. -/
def evaluate (g : SafetyGate) (subject : SafetySubject) (context : SafetyContext) (consumeBudget : Bool)
    (admits : Bool) (decisionId : String) : SafetyDecision :=
  let reasons := g.reasons subject context
  let limited := consumeBudget && reasons.isEmpty && !admits
  let all := reasons ++ reasonIf limited "tenant_rate_limited"
  { decisionId := decisionId
    safetyVersion := g.switches.safetyVersion
    correlationId := subject.correlationId
    allow := all.isEmpty
    reasonCode := all.headD "allowed"
    reasonCodes := if all.isEmpty then ["allowed"] else all
    classification := g.classification subject.capability
    saturated :=
      (context.globalBacklog.any fun n => g.switches.limits.globalBacklogBound ≤ n) ||
        (context.tenantBacklog.any fun n => g.switches.limits.tenantBacklogBound ≤ n) || limited
    safeMetadata :=
      [("environment", .str g.settings.appEnv), ("capability", .str subject.capability),
        ("target", .str subject.target), ("classification", .str (g.classification subject.capability).value),
        ("global_kill_switch", .bool g.globalKill)] }

end SafetyGate

/-! ## The two askers -/

/-- `_campaign_id`. -/
def campaignId (payload : Obj) : Option String :=
  match payload.lookup "campaign_id" with
  | some (.str s) => if s = "" then none else some s
  | _ => none

/-- The subject `CommandKernel.submit` asks about. -/
def kernelSubject (c : CommandEnvelope) : SafetySubject :=
  { tenantId := c.tenantId, commandType := c.commandType, target := c.target, capability := c.capability,
    campaignId := campaignId c.payload, correlationId := c.correlationId }

/-- The destination of a command, and whether an adapter is registered for it: a command no adapter
owns is Temporal's. -/
def kernelDestination (registry : AdapterRegistry) (c : CommandEnvelope) : String :=
  if (registry.ownership c.commandType).isSome then adapterCommandDestination else temporalCommandDestination

/-- The context `CommandKernel.submit` asks with. -/
def kernelContext (registry : AdapterRegistry) (c : CommandEnvelope) (tenantBacklog globalBacklog : Option Int) :
    SafetyContext :=
  { adapterRegistered := (registry.ownership c.commandType).isSome ||
      kernelDestination registry c == temporalCommandDestination
    adapterReady := none
    tenantBacklog := tenantBacklog
    globalBacklog := globalBacklog }

/-- The subject `AdapterDispatch.dispatch` asks about. -/
def dispatchSubject (operation : CommandOperation) (envelope : CommandEnvelope) : SafetySubject :=
  { tenantId := operation.tenantId, commandType := operation.commandType, target := operation.target,
    capability := operation.capability, campaignId := campaignId envelope.payload,
    correlationId := operation.correlationId }

/-- The context `AdapterDispatch.dispatch` asks with: it carries no backlog figures. -/
def dispatchContext (readiness : AdapterReadiness) : SafetyContext :=
  { adapterRegistered := true, adapterReady := some readiness.ready }

end Middleware.Platform
