/-
The history of the incidents over whole runs: each timeline leads from nothing to the incident's state, each call that changes
an incident takes its version one step on, and the instants of the record say its state. `ingest_status` alone keeps what an
acknowledgement wrote when it moves the incident on.
-/
import Middleware.Incidents.Redelivery

namespace Middleware.Incidents

open Ledger Lib

/-! ## Timelines and records -/

/-- The events lead from one state to another, each from where the one before led. -/
def Chain : Option IncidentState → List IncidentTimelineEvent → Option IncidentState → Prop
  | state, [], last => state = last
  | state, event :: rest, last => event.previousState = state ∧ Chain (some event.newState) rest last

/-- The instants of a record say its state. -/
structure Consistent (r : IncidentRecord) : Prop where
  resolved : r.resolvedAt.isSome ↔ r.state = .resolved
  acknowledgedAt : r.acknowledgedAt.isSome ↔ r.state = .acknowledged
  acknowledgedBy : r.acknowledgedBy.isSome ↔ r.state = .acknowledged

/-- How a call may leave an incident: as it was, or changed, with the next version and no earlier occurrence. -/
def Evolves : Option IncidentRecord → Option IncidentRecord → Prop
  | none, none => True
  | none, some r => r.resourceVersion = 1
  | some r, some r' => r' = r ∨ (r'.resourceVersion = r.resourceVersion + 1 ∧ r.startsAt.instant ≤ r'.startsAt.instant)
  | some _, none => False

/-- The call raised, or its answer is marked as a duplicate. -/
def Quiet : Except Exc Reply → Prop
  | .error _ => True
  | .ok reply => reply.duplicate = true

/-- The histories of the incidents over a run. -/
structure KeepsHistory (lib : Library) (calls : List Call) : Prop where
  timelines : ∀ before, before <+: calls → ∀ key,
    Chain none ((after lib before).store.timeline key) (((after lib before).store.incidents.get key).map (·.state))
  records : ∀ before, before <+: calls → ∀ key r, (after lib before).store.incidents.get key = some r → Consistent r
  steps : ∀ before c rest, calls = before ++ c :: rest → ∀ key,
    Evolves ((after lib before).store.incidents.get key) ((call lib c (after lib before)).store.incidents.get key)
  quiet : ∀ before c rest, calls = before ++ c :: rest → Quiet (perform lib c (after lib before)).1 →
    (call lib c (after lib before)).store.incidents = (after lib before).store.incidents

/-- An observation is taken that moves an acknowledged incident on. -/
def Forgets (lib : Library) (w : World) : Call → Prop
  | .ingestStatus a => a.item.state ≠ .firing ∧ ∃ previous ledger, a.Taken lib w previous ledger ∧ previous.state = .acknowledged
  | _ => False

section Steps

variable {lib : Library} {w : World} {key : Key} {events : List IncidentTimelineEvent}

theorem chain_append {state last : Option IncidentState} {event : IncidentTimelineEvent}
    (h : Chain state events last) (hevent : event.previousState = last) : Chain state (events ++ [event]) (some event.newState) := by
  induction events generalizing state with
  | nil =>
    rw [← h] at hevent
    exact ⟨hevent, rfl⟩
  | cons e rest ih => exact ⟨h.1, ih h.2⟩

/-- What holds of every incident of a store. -/
structure Sound (s : Store) : Prop where
  timelines : ∀ key, Chain none (s.timeline key) ((s.incidents.get key).map (·.state))
  records : ∀ key r, s.incidents.get key = some r → Consistent r

theorem timeline_set {s s' : Store} {key : Key} (h : s'.events = s.events.set key events)
    (k : Key) : s'.timeline k = if k = key then events else s.timeline k := by
  unfold Store.timeline
  rw [h, OrderedDict.get_set]
  split <;> rfl

variable {incident : IncidentRecord} {added : List Notification}

theorem Written.sound {s s' : Store}
    (h : Written s s' key incident ((s.incidents.get key).map (·.state)) added) (hs : Sound s) (hincident : Consistent incident) :
    Sound s' := by
  obtain ⟨event, hprevious, hnext, hevents⟩ := h.timeline
  constructor
  · intro k
    rw [timeline_set hevents, h.incidents, OrderedDict.get_set]
    split
    · rename_i hk
      subst hk
      rw [Option.map_some, ← hnext]
      exact chain_append (hs.timelines k) hprevious
    · exact hs.timelines k
  · intro k r hget
    rw [h.incidents, OrderedDict.get_set] at hget
    split at hget
    · cases hget
      exact hincident
    · exact hs.records k r hget

variable {previous : Option IncidentState}

theorem Written.evolves {s s' : Store}
    (h : Written s s' key incident previous added) (hincident : Evolves (s.incidents.get key) (some incident)) (k : Key) :
    Evolves (s.incidents.get k) (s'.incidents.get k) := by
  rw [h.incidents, OrderedDict.get_set]
  split
  · rename_i hk
    rw [hk]
    exact hincident
  · rcases s.incidents.get k with _ | r
    · trivial
    · exact .inl rfl

theorem evolves_same {s s' : Store} (h : s'.incidents = s.incidents) (k : Key) : Evolves (s.incidents.get k) (s'.incidents.get k) := by
  rw [h]
  rcases s.incidents.get k with _ | r
  · trivial
  · exact .inl rfl

/-! ### The records that the calls write -/

variable (a : Ingest) {current : IncidentRecord}

theorem renewed_state (firing : a.alert.status = .firing) (burning : current.state = .firing) :
    (a.renewed current).state = .firing := by
  unfold Ingest.renewed
  rw [firing, burning]
  rfl

theorem renewed_consistent (firing : a.alert.status = .firing)
    (burning : current.state = .firing) (h : Consistent current) : Consistent (a.renewed current) := by
  have hstate := renewed_state a firing burning
  constructor
  · rw [hstate, ← burning]
    exact h.resolved
  · rw [hstate, ← burning]
    exact h.acknowledgedAt
  · rw [hstate, ← burning]
    exact h.acknowledgedBy

/-- An alert leaves an incident acknowledged only if it found it so. -/
theorem next_acknowledged {incoming : StatusState}
    (h : (nextIncidentState previous incoming).1 = .acknowledged) : previous = some .acknowledged ∧ incoming = .firing := by
  cases incoming with
  | firing =>
    refine ⟨?_, rfl⟩
    rcases previous with _ | state
    · cases h
    · cases state with
      | acknowledged => rfl
      | _ => cases h
  | resolved => cases h
  | inhibited => cases h
  | silenced => cases h

theorem incident_consistent {previous : Option IncidentRecord} (h : ∀ r, previous = some r → Consistent r) :
    Consistent (a.incident lib previous) := by
  have hack : (nextIncidentState (previous.map (·.state)) a.alert.status.state).1 = .acknowledged →
      ∃ r, previous = some r ∧ r.state = .acknowledged := by
    intro hstate
    obtain ⟨hprevious, -⟩ := next_acknowledged hstate
    exact Option.map_eq_some_iff.1 hprevious
  unfold Ingest.incident
  constructor
  · split <;> simp
  · dsimp only
    split
    · rename_i hstate
      obtain ⟨r, rfl, hr⟩ := hack hstate
      exact iff_of_true ((h r rfl).acknowledgedAt.2 hr) hstate
    · rename_i hstate
      simp [hstate]
  · dsimp only
    split
    · rename_i hstate
      obtain ⟨r, rfl, hr⟩ := hack hstate
      exact iff_of_true ((h r rfl).acknowledgedBy.2 hr) hstate
    · rename_i hstate
      simp [hstate]

theorem mutated_consistent (a : Mutate) (previous : IncidentRecord) : Consistent (a.incident previous) := by
  unfold Mutate.incident
  cases haction : a.action <;> constructor <;> simp [Mutate.target]

variable {previous : IncidentRecord}

theorem observed_consistent_iff (a : IngestStatus) (h : Consistent previous) :
    Consistent (a.incident previous) ↔ ¬ (a.item.state ≠ .firing ∧ previous.state = .acknowledged) := by
  have hresolved : (a.incident previous).resolvedAt.isSome ↔ (a.incident previous).state = .resolved := by
    unfold IngestStatus.incident
    split <;> simp
  have hkept : Consistent (a.incident previous) ↔ (previous.state = .acknowledged ↔ (a.incident previous).state = .acknowledged) := by
    constructor
    · intro hc
      exact h.acknowledgedAt.symm.trans hc.acknowledgedAt
    · intro hiff
      exact ⟨hresolved, h.acknowledgedAt.trans hiff, h.acknowledgedBy.trans hiff⟩
  rw [hkept]
  unfold IngestStatus.incident
  cases hprevious : previous.state <;> cases hitem : a.item.state <;> simp [nextIncidentState]

/-! ### Steps -/

theorem incident_evolves (hnew : a.New lib w.store) :
    Evolves (w.store.incidents.get (a.key lib)) (some (a.incident lib (w.store.incidents.get (a.key lib)))) := by
  have hcurrent := hnew.current
  unfold Ingest.Current at hcurrent
  rcases hprevious : w.store.incidents.get (a.key lib) with _ | r
  · rfl
  · refine .inr ⟨rfl, ?_⟩
    rw [hprevious] at hcurrent
    unfold webhookTransitionPredatesProjection at hcurrent
    simp only [Option.any_some, Bool.or_eq_false_iff, decide_eq_false_iff_not, not_lt] at hcurrent
    exact hcurrent.1

theorem keyed_mapped {s : Store} (found : s.incidents.get key = some previous) :
    some previous.state = (s.incidents.get key).map (·.state) := by
  rw [found]
  rfl

variable (c : Call)

theorem sound_call (hkeyed : w.store.Keyed) (hs : Sound w.store) (hc : ¬ Forgets lib w c) :
    Sound (call lib c w).store := by
  have heffect := perform_effect lib c hkeyed
  unfold call
  generalize perform lib c w = x at heffect ⊢
  cases heffect with
  | refused => exact hs
  | dispatched => exact hs
  | repeated => exact hs
  | suppressed a current value s duplicate found incidents timeline =>
    obtain ⟨event, hprevious, hnext, hevents⟩ := timeline
    constructor
    · intro k
      rw [timeline_set hevents, incidents]
      split
      · rename_i hk
        subst hk
        have hstate : (w.store.incidents.get (a.key lib)).map (·.state) = some current.state := by
          rw [found]
          rfl
        have hchain := hs.timelines (a.key lib)
        rw [hstate] at hchain ⊢
        rw [← hnext]
        exact chain_append hchain hprevious
      · exact hs.timelines k
    · intro k r hget
      rw [incidents] at hget
      exact hs.records k r hget
  | renewed a current value operation added scheduledAt s ledger passes unknown found firing burning spaced notifies written =>
    rw [keyed_mapped found] at written
    exact written.sound hs (renewed_consistent a firing burning (hs.records _ _ found))
  | arrived a value operation added s settled ledger new cancelled announced notifies written =>
    exact written.sound hs (incident_consistent a fun r hr => hs.records _ r hr)
  | observed a previous s ledger taken written =>
    rw [keyed_mapped taken.found] at written
    refine written.sound hs ((observed_consistent_iff a (hs.records _ _ taken.found)).2 ?_)
    rintro ⟨hitem, hstate⟩
    exact hc ⟨hitem, previous, ledger, taken, hstate⟩
  | mutated a previous s ledger found allowed cancelled written =>
    rw [keyed_mapped found] at written
    exact written.sound hs (mutated_consistent a previous)

/-- Every call leaves each incident as it was, or takes its version one step on. -/
theorem evolves_call (hkeyed : w.store.Keyed) (k : Key) :
    Evolves (w.store.incidents.get k) ((call lib c w).store.incidents.get k) := by
  have heffect := perform_effect lib c hkeyed
  unfold call
  generalize perform lib c w = x at heffect ⊢
  cases heffect with
  | refused => exact evolves_same rfl k
  | dispatched => exact evolves_same rfl k
  | repeated => exact evolves_same rfl k
  | suppressed a current value s duplicate found incidents timeline => exact evolves_same incidents k
  | renewed a current value operation added scheduledAt s ledger passes unknown found firing burning spaced notifies written =>
    refine written.evolves ?_ k
    rw [found]
    exact .inr ⟨rfl, le_refl _⟩
  | arrived a value operation added s settled ledger new cancelled announced notifies written =>
    exact written.evolves (incident_evolves a new) k
  | observed a previous s ledger taken written =>
    refine written.evolves ?_ k
    rw [taken.found]
    exact .inr ⟨rfl, le_refl _⟩
  | mutated a previous s ledger found allowed cancelled written =>
    refine written.evolves ?_ k
    rw [found]
    exact .inr ⟨rfl, le_refl _⟩

theorem quiet_call (hkeyed : w.store.Keyed) (hquiet : Quiet (perform lib c w).1) :
    (call lib c w).store.incidents = w.store.incidents := by
  have heffect := perform_effect lib c hkeyed
  unfold call
  generalize perform lib c w = x at heffect hquiet ⊢
  cases heffect with
  | refused => rfl
  | dispatched => rfl
  | repeated => rfl
  | suppressed a current value s duplicate found incidents timeline => exact incidents
  | renewed a current value operation added scheduledAt s ledger passes unknown found firing burning spaced notifies written records =>
    have hduplicate : value.duplicate = true := hquiet
    rw [records.fresh] at hduplicate
    cases hduplicate
  | arrived a value operation added s settled ledger new cancelled announced notifies written records =>
    have hduplicate : value.duplicate = true := hquiet
    rw [records.fresh] at hduplicate
    cases hduplicate
  | observed a previous s ledger taken written => cases hquiet
  | mutated a previous s ledger found allowed cancelled written => cases hquiet

end Steps

/-! ## Runs -/

theorem after_concat (lib : Library) (before : List Call) (c : Call) :
    after lib (before ++ [c]) = call lib c (after lib before) := runFrom_concat

/-- The histories of a run are kept exactly if no observation moves an acknowledged incident on. -/
theorem history_iff (lib : Library) (calls : List Call) :
    KeepsHistory lib calls ↔ Always (call lib) (fun w c => ¬ Forgets lib w c) {} calls := by
  constructor
  · intro hkeeps
    rw [always_iff]
    rintro before c rest rfl hforgets
    cases c with
    | ingestStatus a =>
      obtain ⟨hitem, previous, ledger, taken, hstate⟩ := hforgets
      have hupto : before ++ [Call.ingestStatus a] <+: before ++ Call.ingestStatus a :: rest := ⟨rest, by simp⟩
      have hbefore : before <+: before ++ Call.ingestStatus a :: rest := List.prefix_append _ _
      obtain ⟨s, hobserve, hwritten⟩ := observe_effect (keyed_after lib before) taken
      have hget : (after lib (before ++ [Call.ingestStatus a])).store.incidents.get (a.key lib) = some (a.incident previous) := by
        have hcall : call lib (.ingestStatus a) (after lib before) = (ingestStatus lib a (after lib before)).2 := rfl
        rw [after_concat, hcall, ingestStatus_taken taken, hobserve]
        rw [hwritten.incidents, OrderedDict.get_set_self]
      have hconsistent := hkeeps.records _ hupto _ _ hget
      exact (observed_consistent_iff a (hkeeps.records _ hbefore _ _ taken.found)).1 hconsistent ⟨hitem, hstate⟩
    | ingest a => exact hforgets
    | mutate a => exact hforgets
    | dispatch t now => exact hforgets
  · intro halways
    have hsound : ∀ before, before <+: calls → Sound (after lib before).store := by
      intro before hbefore
      have hinvariant : (after lib before).store.Keyed ∧ Sound (after lib before).store := by
        refine (halways.take hbefore).invariant (I := fun w : World => w.store.Keyed ∧ Sound w.store) ?_ ?_
        · refine ⟨?_, ⟨?_, ?_⟩⟩
          · intro key r hget
            cases hget
          · intro key
            rfl
          · intro key r hget
            cases hget
        · rintro w c ⟨hkeyed, hs⟩ hc
          exact ⟨keyed_call lib c hkeyed, sound_call c hkeyed hs hc⟩
      exact hinvariant.2
    refine ⟨?_, ?_, ?_, ?_⟩
    · intro before hbefore
      exact (hsound before hbefore).timelines
    · intro before hbefore
      exact (hsound before hbefore).records
    · intro before c rest _ key
      exact evolves_call c (keyed_after lib before) key
    · intro before c rest _ hquiet
      exact quiet_call c (keyed_after lib before) hquiet

/-! ## An acknowledged incident that is silenced -/

/-- An alert fires, an operator acknowledges the incident, and Alertmanager reports it as silenced. -/
def silencedRun : List Call :=
  [.ingest (sampleDelivery .firing "k" 2),
    .mutate
      { tenantId := "codestra-platform"
        incidentId := incidentIdentity sampleLibrary "codestra-platform" "f"
        action := .acknowledge
        actorId := "operator"
        correlationId := "c"
        idempotencyKey := "m"
        expectedVersion := 1
        reason := "seen"
        now := 3
        clock := fun _ => 3 },
    .ingestStatus
      { policy := samplePolicy
        item := ⟨"g", "f", ⟨0, 0⟩, .silenced, ["silence-1"], []⟩
        actorId := "alertmanager"
        correlationId := "c"
        sourceDeployment := "d"
        requestIdempotencyKey := "s"
        observedAt := ⟨1, 0⟩
        now := 4
        clock := fun _ => 4 }]

theorem silenced_record : ((after sampleLibrary silencedRun).store.incidents.get
    ("codestra-platform", incidentIdentity sampleLibrary "codestra-platform" "f")).map (fun r => (r.state, r.acknowledgedBy)) =
      some (.silenced, some "operator") := by decide +kernel

/-- The silenced incident still carries the acknowledgement. -/
theorem silenced_keeps_acknowledgement : ¬ KeepsHistory sampleLibrary silencedRun := by
  intro h
  obtain ⟨r, hget, hr⟩ := Option.map_eq_some_iff.1 silenced_record
  have hstate := ((h.records _ (List.prefix_refl _) _ r hget).acknowledgedBy.1 (by rw [(Prod.mk.inj hr).2]; rfl)).symm.trans
    (Prod.mk.inj hr).1
  cases hstate

end Middleware.Incidents
