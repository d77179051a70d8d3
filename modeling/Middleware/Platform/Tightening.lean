/-
The trips of the safety gate (`SafetyGate.trip` of `app/platform/safety.py`): a trip only adds a reason to deny, so that what the
gate has denied stays denied, but for the rate and the backlog.
-/
import Middleware.Platform.Admission

namespace Middleware.Platform

namespace SafetyGate

/-- `trip`. -/
def trip (g : SafetyGate) : Option String → SafetyGate
  | none => { g with trippedGlobal := true }
  | some provider => { g with trippedProviders := g.trippedProviders.insert provider }

/-- The reasons that pass with the rate and the backlog. -/
def passingReasons : List String :=
  ["tenant_rate_limited", "global_backlog_unavailable", "tenant_backlog_unavailable", "global_backlog_saturated",
    "tenant_backlog_saturated"]

def adapterCodes : List String := ["adapter_not_registered", "adapter_not_ready"]

variable {g : SafetyGate} {subject : SafetySubject} {context : SafetyContext} {reason : String}

/-- What stands after a trip stood before it. -/
theorem standing_of_trip {provider : Option String} (h : (g.trip provider).standing subject) : g.standing subject := by
  obtain ⟨hglobal, hprovider, hgate⟩ := h
  unfold globalKill at hglobal
  unfold providerKill at hprovider
  cases provider with
  | none =>
    rw [trip, Bool.or_true] at hglobal
    cases hglobal
  | some provider =>
    refine ⟨hglobal, ?_, hgate⟩
    unfold providerKill
    rw [Bool.or_eq_false_iff] at hprovider ⊢
    refine ⟨hprovider.1, ?_⟩
    have hnot : subject.target ∉ g.trippedProviders.insert provider := by simpa [trip] using hprovider.2
    simpa using fun hmem => hnot (List.mem_insert_of_mem hmem)

theorem standing_of_trips {trips : List (Option String)} (h : (trips.foldl trip g).standing subject) : g.standing subject := by
  induction trips generalizing g with
  | nil => exact h
  | cons provider rest ih => exact standing_of_trip (ih h)

theorem mem_reasonIf {cond : Bool} {code : String} (h : reason ∈ reasonIf cond code) : reason = code := by
  unfold reasonIf at h
  split at h
  · exact List.mem_singleton.1 h
  · cases h

theorem backlogReasons_passing {classification : Classification} (h : reason ∈ g.backlogReasons classification context) :
    reason ∈ passingReasons := by
  unfold backlogReasons at h
  simp only [List.mem_append] at h
  rcases h with ((h | h) | h) | h <;> rw [mem_reasonIf h] <;> decide

theorem adapterReasons_codes (h : reason ∈ adapterReasons context) : reason ∈ adapterCodes := by
  unfold adapterReasons at h
  split at h
  · rw [List.mem_singleton.1 h]
    decide
  · rw [mem_reasonIf h]
    decide

/-- A denial stands after any trips, at any later rate and backlog; one for the adapter while the adapter is the same. -/
theorem denial_stands (g : SafetyGate) (subject : SafetySubject) (context context' : SafetyContext) (consume admits : Bool)
    (decisionId reason : String) (denied : (g.evaluate subject context consume admits decisionId).allow = false)
    (hreason : reason ∈ (g.evaluate subject context consume admits decisionId).reasonCodes) (hpassing : reason ∉ passingReasons)
    (hadapter : reason ∈ adapterCodes → adapterReasons context' = adapterReasons context) (trips : List (Option String))
    (consume' admits' : Bool) (decisionId' : String) :
    ((trips.foldl trip g).evaluate subject context' consume' admits' decisionId').allow = false := by
  by_contra hallow
  rw [Bool.not_eq_false, evaluate_allow, reasons_eq_nil] at hallow
  obtain ⟨⟨hstanding, hready, -⟩, -⟩ := hallow
  obtain ⟨hglobal, hprovider, hgate⟩ := standing_of_trips hstanding
  have hmem : reason ∈ g.reasons subject context := by
    unfold evaluate at denied hreason
    dsimp only at denied hreason
    rw [denied, if_neg Bool.false_ne_true] at hreason
    rcases List.mem_append.1 hreason with hmem | hrate
    · exact hmem
    · rw [mem_reasonIf hrate] at hpassing
      exact absurd (by decide) hpassing
  unfold reasons at hmem
  rw [hglobal, hprovider, hgate] at hmem
  simp only [reasonIf, Bool.false_eq_true, if_false, List.nil_append, List.mem_append] at hmem
  rcases hmem with hmem | hmem
  · rw [← hadapter (adapterReasons_codes hmem), hready] at hmem
    cases hmem
  · exact hpassing (backlogReasons_passing hmem)

/-- A command denied for its provider stays denied when everything is tripped. -/
theorem tripped_provider_denied :
    ((([some "odoo-19"].foldl trip (openGate .internal)).evaluate (kernelSubject crmCommand)
      (kernelContext crmRegistry crmCommand none none) true true "s-1").allow = false) ∧
    ((([none, some "n8n"].foldl trip ([some "odoo-19"].foldl trip (openGate .internal))).evaluate (kernelSubject crmCommand)
      (kernelContext crmRegistry crmCommand none none) true true "s-2").allow = false) := by
  have hdenied : (([some "odoo-19"].foldl trip (openGate .internal)).evaluate (kernelSubject crmCommand)
      (kernelContext crmRegistry crmCommand none none) true true "s-1").allow = false := by decide +kernel
  exact ⟨hdenied, denial_stands _ _ _ _ true true "s-1" "provider_kill_switch" hdenied (by decide +kernel) (by decide)
    (fun _ => rfl) [none, some "n8n"] true true "s-2"⟩

end SafetyGate

end Middleware.Platform
