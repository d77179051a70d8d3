/-
The safety gate is asked twice about a command: when the kernel admits it, and again before the
dispatcher executes it. Both ask the same gate about the same subject, but the dispatcher's context carries no
backlog figures, which the gate requires of an external effect. So the second answer agrees with the
first exactly for the other classes.
-/
import Middleware.Ledger.History
import Middleware.Platform.Kernel

namespace Middleware.Platform

open Ledger

namespace SafetyGate

variable (g : SafetyGate) (subject : SafetySubject) (context : SafetyContext)

theorem reasonIf_eq_nil {cond : Bool} {reason : String} : reasonIf cond reason = [] ↔ cond = false := by
  cases cond <;> simp [reasonIf]

/-- The gate allows when it has no reason and the budget, if asked, admits. -/
theorem evaluate_allow {consume admits : Bool} {decisionId : String} :
    (g.evaluate subject context consume admits decisionId).allow = true ↔
      g.reasons subject context = [] ∧ (consume = true → admits = true) := by
  cases h : g.reasons subject context with
  | nil => cases consume <;> cases admits <;> simp [evaluate, h, reasonIf]
  | cons r rs => simp [evaluate, h]

/-- The gate's reasons that do not depend on the context. -/
def standing : Prop :=
  g.globalKill = false ∧ g.providerKill subject.target = false ∧ g.gateReasons subject = []

theorem reasons_eq_nil : g.reasons subject context = [] ↔ g.standing subject ∧ adapterReasons context = [] ∧
    g.backlogReasons (g.classification subject.capability) context = [] := by
  simp only [reasons, standing, List.append_eq_nil_iff, reasonIf_eq_nil]
  tauto

theorem backlogReasons_without_figures {classification : Classification} {ready : Bool} :
    g.backlogReasons classification (dispatchContext ⟨ready⟩) = [] ↔ classification ≠ .externalEffect := by
  cases classification <;> simp [backlogReasons, dispatchContext, reasonIf]

theorem adapterReasons_ready : adapterReasons (dispatchContext ⟨true⟩) = [] := rfl

end SafetyGate

/-- The two askers ask about the same subject, up to the correlation id. -/
theorem standing_dispatch {g : SafetyGate} {r : Submission} {now : Time} {o : CommandOperation}
    (ho : o.identity = (r.operation now).identity) :
    g.standing (dispatchSubject o r.command) ↔ g.standing (kernelSubject r.command) := by
  simp only [CommandOperation.identity, Submission.operation, Prod.mk.injEq] at ho
  simp only [SafetyGate.standing, SafetyGate.gateReasons, dispatchSubject, kernelSubject, *]

/-- A command the kernel admitted, asked about again with nothing changed and the adapter ready, is allowed
exactly when it is not an external effect. -/
theorem reevaluation_allows_iff (g : SafetyGate) (registry : AdapterRegistry) (r : Submission) (now : Time)
    (o : CommandOperation) (same : o.identity = (r.operation now).identity) (tenantBacklog globalBacklog : Option Int)
    (admits : Bool) (decisionId : String)
    (admitted : (g.evaluate (kernelSubject r.command) (kernelContext registry r.command tenantBacklog globalBacklog)
      true admits decisionId).allow = true) (admits' : Bool) (decisionId' : String) :
    (g.evaluate (dispatchSubject o r.command) (dispatchContext ⟨true⟩) false admits' decisionId').allow = true ↔
      g.classification r.command.capability ≠ .externalEffect := by
  rw [SafetyGate.evaluate_allow, SafetyGate.reasons_eq_nil] at admitted
  rw [SafetyGate.evaluate_allow, SafetyGate.reasons_eq_nil, standing_dispatch same,
    SafetyGate.backlogReasons_without_figures]
  have hcap : (dispatchSubject o r.command).capability = r.command.capability := by
    simp only [CommandOperation.identity, Submission.operation, Prod.mk.injEq] at same
    exact same.2.2.2.2.2
  rw [hcap]
  constructor
  · rintro ⟨⟨-, -, h⟩, -⟩
    exact h
  · intro h
    exact ⟨⟨admitted.1.1, SafetyGate.adapterReasons_ready, h⟩, (by simp)⟩

/-! ## An external effect and a synthetic one -/

/-- A gate with one capability of a class, switched on throughout. -/
def openGate (classification : Classification) : SafetyGate :=
  { settings := ⟨"production", AList.insert "crm" true ∅, ∅⟩
    capabilities := AList.insert "CRM_WRITE" true ∅
    switches :=
      { safetyVersion := "1", globalKillSwitch := false, providerKillSwitches := ∅, syntheticTenants := []
        gates := AList.insert "CRM_WRITE"
          { classification := classification, effectFlags := ["crm"], environments := ["production"] } ∅
        limits := ⟨100, 1000⟩ } }

def crmCommand : CommandEnvelope :=
  { commandId := "5a1c", commandType := "crm.write.v1", commandVersion := "1.0", target := "odoo-19",
    tenantId := "tenant-a", requestedBy := "user-1", correlationId := "corr-1", idempotencyKey := "idem-1",
    capability := "CRM_WRITE", payload := [] }

def crmRegistry : AdapterRegistry :=
  { policies :=
      { policies := [⟨"crm.", "odoo-19", "CRM_WRITE", true⟩], capabilities := AList.insert "CRM_WRITE" true ∅ }
    owners := AList.insert "crm." "odoo" ∅
    advertised := AList.insert "odoo" { connectorIds := ["odoo-19"] } ∅ }

def crmSubmission : Submission :=
  { command := crmCommand, authenticatedClientId := "middleware-api", destination := adapterCommandDestination,
    decisionEvidence := none, trace := none }

/-- An external effect is admitted, and then refused at execution by the same gate. -/
theorem external_effect_refused_at_execution :
    kernelDestination crmRegistry crmCommand = adapterCommandDestination ∧
    ((openGate .externalEffect).evaluate (kernelSubject crmCommand)
      (kernelContext crmRegistry crmCommand (some 0) (some 0)) true true "s-1").allow = true ∧
    ((openGate .externalEffect).evaluate (dispatchSubject (crmSubmission.operation 0) crmCommand)
      (dispatchContext ⟨true⟩) false true "s-2").allow = false ∧
    ((openGate .externalEffect).evaluate (dispatchSubject (crmSubmission.operation 0) crmCommand)
      (dispatchContext ⟨true⟩) false true "s-2").reasonCode = "global_backlog_unavailable" := by
  decide +kernel

theorem internal_allowed_at_execution :
    ((openGate .internal).evaluate (dispatchSubject (crmSubmission.operation 0) crmCommand)
      (dispatchContext ⟨true⟩) false true "s-2").allow = true :=
  (reevaluation_allows_iff (openGate .internal) crmRegistry crmSubmission 0 _ rfl (some 0) (some 0) true "s-1"
    (by decide +kernel) true "s-2").2 (by decide +kernel)

end Middleware.Platform
