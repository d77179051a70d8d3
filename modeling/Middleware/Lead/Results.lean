/-
The refusals of `receive_result` that are no conflict (`app/core/lead_automation.py`). A result that comes before its event is
acknowledged has its workflow execution recorded and its first transition refused, so it is a duplicate of itself when it comes
again. Every other such refusal leaves the service as it was.
-/
import Middleware.Lead.Events

namespace Middleware.Lead

open Lib

/-- A result that passes every check of `receive_result` before the event it names is in N8N_ACKNOWLEDGED. -/
structure Premature (lib : Library) (s : LeadAutomationService) (payload : Obj) (scope : TenantScope) (key : ScopedKey)
    (event : Event) (workflow : Key × Key) : Prop where
  inScope : scope = TenantScope.fromPayload lib payload
  found : s.find lib (getText payload "event_id") scope = some (key, event)
  first : event.resultHash = none
  enabled : s.resultProcessingEnabled = true
  checked : checkResult lib payload = .ok ()
  bound : bound lib payload event.payload = true
  inside : ∃ allowed fields, allowedFields lib s event.payload = .ok allowed ∧ resultFields lib payload = .ok fields ∧
    fieldsOutside fields allowed = false
  named : workflowKey lib payload = .ok workflow
  unique : workflow ∉ s.workflowIds
  early : event.state ≠ .n8nAcknowledged

/-- A refusal that is no conflict leaves the service as it was, and the same result meets the same answer after any further
calls. -/
def Harmless (lib : Library) (s : LeadAutomationService) (payload : Obj) (scope : TenantScope) : Prop :=
  ∀ message, (receiveResult lib payload scope s).1 = .error (.leadAutomation message) →
    (receiveResult lib payload scope s).2 = s ∧
      ∀ calls, receiveResult lib payload scope (runFrom (call lib) (receiveResult lib payload scope s).2 calls) =
        receiveResult lib payload scope (runFrom (call lib) s calls)

section Refusals

variable {lib : Library} {s : LeadAutomationService} {payload : Obj} {scope : TenantScope} {key : ScopedKey} {event : Event}
  {workflow : Key × Key} {message : String}

theorem walk_resultSteps_early (h : event.state ≠ .n8nAcknowledged) :
    ∃ message, event.walk resultSteps = (.error (.leadAutomation message), event) := by
  have hmem : event.state.transitions.contains .resultReceived = false := by
    cases hs : event.state with
    | n8nAcknowledged => exact absurd hs h
    | _ => rfl
  unfold resultSteps Event.walk
  rw [hmem]
  exact ⟨_, rfl⟩

theorem walk_resultSteps (h : event.state = .n8nAcknowledged) : (event.walk resultSteps).1 = .ok () := by
  unfold resultSteps
  rw [Event.walk_cons_of_mem (by rw [h]; decide)]
  simp [Event.walk, Event.moved, State.transitions]

theorem acceptResult_refused (h : (acceptResult lib payload key event s).1 = .error (.leadAutomation message)) :
    (acceptResult lib payload key event s).2 = s ∨
      bound lib payload event.payload = true ∧
      (∃ allowed fields, allowedFields lib s event.payload = .ok allowed ∧ resultFields lib payload = .ok fields ∧
        fieldsOutside fields allowed = false) ∧
      ∃ workflow, workflowKey lib payload = .ok workflow ∧ workflow ∉ s.workflowIds ∧ event.state ≠ .n8nAcknowledged := by
  unfold acceptResult at h ⊢
  split at h
  · cases h
  rename_i hbound
  rw [if_neg hbound]
  cases hallowed : allowedFields lib s event.payload with
  | error e => exact .inl rfl
  | ok allowed =>
    cases hfields : resultFields lib payload with
    | error e => exact .inl rfl
    | ok fields =>
      rw [hallowed, hfields] at h
      dsimp only at h ⊢
      split at h
      · cases h
      rename_i hinside
      rw [if_neg hinside]
      cases hworkflow : workflowKey lib payload with
      | error e => exact .inl rfl
      | ok workflow =>
        rw [hworkflow] at h
        dsimp only at h ⊢
        split at h
        · cases h
        rename_i hunique
        refine .inr ⟨by simpa using hbound, ⟨allowed, fields, rfl, rfl, by simpa using hinside⟩, workflow, rfl,
          by simpa using hunique, fun hs => ?_⟩
        -- an acknowledged event takes the result
        have hwalk := walk_resultSteps hs
        rcases hw : event.walk resultSteps with ⟨reply, event'⟩
        rw [hw] at hwalk h
        cases hwalk
        cases h

theorem receiveResult_refused (h : (receiveResult lib payload scope s).1 = .error (.leadAutomation message)) :
    (receiveResult lib payload scope s).2 = s ∨ ∃ key event workflow, Premature lib s payload scope key event workflow := by
  unfold receiveResult at h ⊢
  split at h
  · rename_i hscope
    rw [if_pos hscope]
    exact .inl rfl
  rename_i hscope
  rw [if_neg hscope]
  rw [not_ne_iff] at hscope
  cases hfound : s.find lib (getText payload "event_id") scope with
  | none => exact .inl rfl
  | some m =>
    obtain ⟨key, event⟩ := m
    rw [hfound] at h
    dsimp only at h ⊢
    cases hfirst : event.resultHash with
    | some hash =>
      rw [hfirst] at h
      dsimp only at h
      split at h <;> cases h
    | none =>
      rw [hfirst] at h
      dsimp only at h ⊢
      split at h
      · rename_i hdisabled
        rw [if_pos hdisabled]
        exact .inl rfl
      rename_i henabled
      rw [if_neg henabled]
      cases hchecked : checkResult lib payload with
      | error e => exact .inl rfl
      | ok u =>
        rw [hchecked] at h
        rcases acceptResult_refused h with hsame | ⟨hbound, hinside, workflow, hnamed, hunique, hearly⟩
        · exact .inl hsame
        · exact .inr ⟨key, event, workflow, hscope, hfound, hfirst, by simpa using henabled, hchecked, hbound, hinside,
            hnamed, hunique, hearly⟩

theorem Premature.refused (h : Premature lib s payload scope key event workflow) :
    ∃ message, (receiveResult lib payload scope s).1 = .error (.leadAutomation message) ∧
      (receiveResult lib payload scope s).2.workflowIds = s.workflowIds ++ [workflow] := by
  obtain ⟨allowed, fields, hallowed, hfields, hinside⟩ := h.inside
  obtain ⟨message, hwalk⟩ := walk_resultSteps_early h.early
  have hcontains : s.workflowIds.contains workflow = false := by simpa using h.unique
  refine ⟨message, ?_⟩
  unfold receiveResult
  rw [if_neg (not_not_intro h.inScope), h.found]
  dsimp only
  rw [h.first]
  rw [h.enabled, h.checked]
  unfold acceptResult
  rw [h.bound, hallowed, hfields]
  dsimp only
  rw [if_neg (by decide), hinside, if_neg Bool.false_ne_true, h.named]
  dsimp only
  rw [hcontains, if_neg Bool.false_ne_true, hwalk]
  exact ⟨rfl, rfl⟩

/-- A refused result does no harm exactly if it is not premature. -/
theorem harmless_iff (lib : Library) (s : LeadAutomationService) (payload : Obj) (scope : TenantScope) :
    Harmless lib s payload scope ↔ ¬ ∃ key event workflow, Premature lib s payload scope key event workflow := by
  constructor
  · rintro h ⟨key, event, workflow, hpremature⟩
    obtain ⟨message, hrefused, hids⟩ := hpremature.refused
    rw [(h message hrefused).1] at hids
    have hlength := congrArg List.length hids
    rw [List.length_append, List.length_singleton] at hlength
    omega
  · intro h message hrefused
    have hsame : (receiveResult lib payload scope s).2 = s := (receiveResult_refused hrefused).resolve_right h
    exact ⟨hsame, fun calls => by rw [hsame]⟩

end Refusals

/-! ## A result that overtakes the acknowledgement -/

namespace Synthetic

/-- An allowed lead up to its dispatch. -/
def dispatchedLead : List Call :=
  [.switch true true true true, .switchAction "CREATE_LEAD" true,
    .addPolicy
      { environment := "test"
        businessUnitKey := "farming"
        campaignKey := "spring"
        eventType := "lead.created"
        action := "CREATE_LEAD"
        policyVersion := "p1"
        allow := true
        enabled := true },
    .receive (lead "e-1" "i-1") "1" "t1", .reserveDispatch "e-1" scope, .markDispatched "e-1" scope]

def result : Obj :=
  [("contract_version", .str "1.1"), ("event_id", .str "e-1"), ("workflow_execution_id", .str "w-1"),
    ("binding_key", .str "n8n.leads.ingest"), ("environment", .str "test"), ("company_key", .str "COMPANY-1"),
    ("business_unit_key", .str "farming"), ("campaign_key", .str "spring"), ("automation_action", .str "CREATE_LEAD"),
    ("result_status", .str "SUCCEEDED"), ("result_code", .str "OK"), ("result_payload", .obj []),
    ("occurred_at", .str "t2"), ("idempotency_key", .str "r-1")]

end Synthetic

def refusal {α : Type} (x : Result α) : Option Error :=
  match x.1 with
  | .error e => some e
  | .ok _ => none

theorem refusal_eq_some {α : Type} {x : Result α} {e : Error} : refusal x = some e ↔ x.1 = .error e := by
  unfold refusal
  cases x.1 <;> simp

/-- The result comes while the event is DISPATCHED; once it is acknowledged, the same result is a duplicate. -/
theorem premature_result_poisons :
    ¬ Harmless Synthetic.lib (after Synthetic.lib Synthetic.dispatchedLead) Synthetic.result Synthetic.scope := by
  intro h
  have hrefused : refusal (receiveResult Synthetic.lib Synthetic.result Synthetic.scope
      (after Synthetic.lib Synthetic.dispatchedLead)) =
      some (.leadAutomation "invalid transition DISPATCHED->RESULT_RECEIVED") := by decide +kernel
  have hagain := congrArg refusal ((h _ (refusal_eq_some.1 hrefused)).2 [.acknowledgeN8n "e-1" Synthetic.scope])
  cases hagain

end Middleware.Lead
