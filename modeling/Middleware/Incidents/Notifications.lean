/-
The notifications of incidents over whole runs: an incident that leaves its firing state takes its pending notifications with
it, two notifications of one transition are an interval apart, and a firing episode that an alert leads into is announced.
An episode that a status snapshot or an operator reopened stays unannounced while the alert's transition counts as notified.
-/
import Middleware.Incidents.Cancellations

namespace Middleware.Incidents

open Ledger Lib

/-! ## The notifications that a call adds -/

/-- The notifications that a call adds to an incident. -/
def added (lib : Library) (w : World) (c : Call) (key : Key) : List Notification :=
  ((call lib c w).store.notificationsOf key).drop (w.store.notificationsOf key).length

structure Ingest.SameTransition (lib : Library) (a a' : Ingest) : Prop where
  tenant : a'.policy.tenantId = a.policy.tenantId
  group : a'.groupKey = a.groupKey
  fingerprint : a'.alert.fingerprint = a.alert.fingerprint
  status : a'.alert.status = a.alert.status
  startsAt : lib.isoformat a'.alert.startsAt = lib.isoformat a.alert.startsAt

section Adding

variable {lib : Library} {w : World}

theorem written_added {s s' : Store} {key : Key} {incident : IncidentRecord} {previous : Option IncidentState}
    {added : List Notification} (h : Written s s' key incident previous added) (k : Key) :
    s.notificationsOf k <+: s'.notificationsOf k := by
  rw [h.notifications]
  split
  · exact List.prefix_append _ _
  · exact List.prefix_refl _

theorem grows_call (c : Call) (hkeyed : w.store.Keyed) (key : Key) :
    w.store.notificationsOf key <+: (call lib c w).store.notificationsOf key := by
  have heffect := perform_effect lib c hkeyed
  unfold call
  generalize perform lib c w = x at heffect ⊢
  cases heffect with
  | refused => exact List.prefix_refl _
  | dispatched => exact List.prefix_refl _
  | repeated => exact List.prefix_refl _
  | suppressed a current value s duplicate found incidents timeline notifications =>
    unfold Store.notificationsOf
    rw [notifications]
  | renewed a current value operation added scheduledAt s ledger passes unknown found firing burning spaced notifies written =>
    exact written_added written key
  | arrived a value operation added s settled ledger new cancelled announced notifies written => exact written_added written key
  | observed a previous s ledger taken written => exact written_added written key
  | mutated a previous s ledger found allowed cancelled written => exact written_added written key

theorem grows_run (calls : List Call) (hkeyed : w.store.Keyed) (key : Key) :
    w.store.notificationsOf key <+: (runFrom (call lib) w calls).store.notificationsOf key := by
  induction calls generalizing w with
  | nil => exact List.prefix_refl _
  | cons c rest ih => exact (grows_call c hkeyed key).trans (ih (keyed_call lib c hkeyed))

theorem call_notifications (c : Call) (hkeyed : w.store.Keyed) (key : Key) :
    (call lib c w).store.notificationsOf key = w.store.notificationsOf key ++ added lib w c key :=
  List.prefix_append_drop (grows_call c hkeyed key)

theorem written_drop {s s' : Store} {key : Key} {incident : IncidentRecord} {previous : Option IncidentState}
    {added : List Notification} (h : Written s s' key incident previous added) :
    (s'.notificationsOf key).drop (s.notificationsOf key).length = added := by
  rw [h.notifications, if_pos rfl, List.drop_left]

/-- A notification is added for a transition that is on record from then on; it was new, or the notification is an interval
after all earlier ones. -/
theorem added_spec (hkeyed : w.store.Keyed) {a : Ingest} {n : Notification} (hn : n ∈ added lib w (.ingest a) (a.key lib)) :
    ((call lib (.ingest a) w).store.eventReplays.get (replayKey a.policy.tenantId (a.eventKey lib))).isSome ∧
    (w.store.eventReplays.get (replayKey a.policy.tenantId (a.eventKey lib)) = none ∨
      ∀ m ∈ w.store.notificationsOf (a.key lib), m.scheduledAt + seconds a.policy.warningRepeatIntervalSeconds ≤ n.scheduledAt) := by
  have heffect := perform_effect lib (.ingest a) hkeyed
  unfold added at hn
  unfold call at hn ⊢
  generalize perform lib (.ingest a) w = x at heffect hn ⊢
  cases heffect with
  | refused => simp at hn
  | repeated => simp at hn
  | suppressed _ current value s duplicate found incidents timeline notifications =>
    unfold Store.notificationsOf at hn
    rw [notifications] at hn
    simp at hn
  | renewed _ current value operation added scheduledAt s ledger passes unknown found firing burning spaced notifies written records =>
    rw [written_drop written, List.mem_singleton] at hn
    subst hn
    refine ⟨records.transition, .inr ?_⟩
    rw [notifies.scheduledAt]
    exact spaced
  | arrived _ value operation added s settled ledger new cancelled announced notifies written records =>
    exact ⟨records.transition, .inl new.transition⟩

theorem Ingest.SameTransition.eventKey {a a' : Ingest} (h : a.SameTransition lib a') : a'.eventKey lib = a.eventKey lib := by
  unfold Ingest.eventKey transitionIdentity
  rw [h.group, h.fingerprint, h.status, h.startsAt]

theorem Ingest.SameTransition.key {a a' : Ingest} (h : a.SameTransition lib a') : a'.key lib = a.key lib := by
  unfold Ingest.key Ingest.incidentId
  rw [h.tenant, h.fingerprint]

theorem spaced_added (hkeyed : w.store.Keyed) (middle : List Call) {a a' : Ingest} (hsame : a.SameTransition lib a')
    {n n' : Notification} (hn : n ∈ added lib w (.ingest a) (a.key lib))
    (hn' : n' ∈ added lib (runFrom (call lib) (call lib (.ingest a) w) middle) (.ingest a') (a'.key lib)) :
    n.scheduledAt + seconds a'.policy.warningRepeatIntervalSeconds ≤ n'.scheduledAt := by
  have hkeyed' := keyed_call lib (.ingest a) hkeyed
  have hkeyed'' : (runFrom (call lib) (call lib (.ingest a) w) middle).store.Keyed :=
    runFrom_invariant (I := fun w : World => w.store.Keyed) hkeyed' fun w c h => keyed_call lib c h
  obtain ⟨hrecorded, -⟩ := added_spec hkeyed hn
  have hstays := (keeps_run lib middle hkeyed').recorded _ hrecorded
  obtain ⟨-, hnew | hspaced⟩ := added_spec hkeyed'' hn'
  · -- the transition is on record since the earlier call
    rw [hsame.tenant, hsame.eventKey] at hnew
    rw [hnew] at hstays
    cases hstays
  · refine hspaced n ?_
    rw [hsame.key]
    refine (grows_run middle hkeyed' (a.key lib)).subset ?_
    rw [call_notifications (.ingest a) hkeyed]
    exact List.mem_append_right _ hn

theorem announced_some {a : Ingest} (hcommand : a.command.isSome) {previous : Option IncidentRecord} {reading : Nat}
    {s ledger : MemoryCommandStore} {operation : Option CommandOperation}
    (h : a.announce lib previous reading s = (.ok operation, ledger)) : operation.isSome := by
  unfold Ingest.announce at h
  split at h
  · rename_i hnone
    rw [Option.isNone_iff_eq_none] at hnone
    rw [hnone] at hcommand
    cases hcommand
  split at h
  · cases h
  split at h
  · cases h
  · cases h
    rfl

theorem notified_ne {a : Ingest} {operation : Option CommandOperation} {added : List Notification} {scheduledAt : Time}
    (hnotifies : List.Forall₂ (fun operation n => a.Notifies operation n scheduledAt) operation.toList added)
    (hoperation : operation.isSome) : added ≠ [] := by
  rintro rfl
  obtain ⟨o, rfl⟩ := Option.isSome_iff_exists.1 hoperation
  cases hnotifies

/-- An alert with a command that leads an incident into its firing state is notified. -/
theorem entered_added (hkeyed : w.store.Keyed) {a : Ingest} (hcommand : a.command.isSome)
    (hbefore : stateOf w (a.key lib) ≠ some .firing) (hafter : stateOf (call lib (.ingest a) w) (a.key lib) = some .firing) :
    added lib w (.ingest a) (a.key lib) ≠ [] := by
  have heffect := perform_effect lib (.ingest a) hkeyed
  unfold added
  unfold call at hafter ⊢
  generalize perform lib (.ingest a) w = x at heffect hafter ⊢
  cases heffect with
  | refused => exact absurd hafter hbefore
  | repeated => exact absurd hafter hbefore
  | suppressed _ current value s duplicate found incidents =>
    unfold stateOf at hafter hbefore
    rw [incidents] at hafter
    exact absurd hafter hbefore
  | renewed _ current value operation added scheduledAt s ledger passes unknown found firing burning =>
    refine absurd ?_ hbefore
    unfold stateOf
    rw [found, Option.map_some, burning]
  | arrived _ value operation added s settled ledger new cancelled announced notifies written =>
    rw [written_drop written]
    exact notified_ne notifies (announced_some hcommand announced)

end Adding

/-! ## Firing episodes -/

/-- The call leads the incident into its firing state, and it stays there during the calls that follow. -/
structure Episode (lib : Library) (before : List Call) (c : Call) (during : List Call) (key : Key) : Prop where
  entered : stateOf (after lib before) key ≠ some .firing
  firing : ∀ first, first <+: during → stateOf (after lib (before ++ c :: first)) key = some .firing

/-- A new delivery of a firing alert with a command is accepted. -/
structure Ingest.Delivered (lib : Library) (a : Ingest) (w : World) : Prop where
  firing : a.alert.status = .firing
  command : a.command.isSome
  kind : a.notificationKind = "grouped" ∨ a.notificationKind = "immediate"
  request : w.store.eventReplays.get (replayKey a.policy.tenantId a.requestKey) = none
  accepted : ∃ value, (ingest lib a w).1 = .ok value

/-- The alert's transition counts as notified, and no repeat is due. -/
structure Ingest.Quieted (lib : Library) (a : Ingest) (s : Store) : Prop where
  transition : (s.eventReplays.get (replayKey a.policy.tenantId (a.eventKey lib))).isSome
  notified : s.notificationsOf (a.key lib) ≠ []
  undue : ¬ (a.notificationKind = "grouped" ∧ a.due (s.notificationsOf (a.key lib)) = true)

section Episodes

variable {lib : Library} {w : World}

theorem activate_fresh {a : Ingest} {current : IncidentRecord} {value : IncidentIngestionResult}
    (h : (a.activate lib current w).1 = .ok value) : value.duplicate = false := by
  unfold Ingest.activate at h
  split at h
  · cases h
  split at h
  · cases h
  · cases h
    rfl

theorem notifyAgain_fresh {a : Ingest} {current : IncidentRecord} {value : IncidentIngestionResult}
    (h : (a.notifyAgain lib current w).1 = .ok value) : value.duplicate = false := by
  unfold Ingest.notifyAgain at h
  split at h
  · cases h
  split at h
  · cases h
  split at h
  · cases h
  · cases h
    rfl

theorem transition_fresh {a : Ingest} {value : IncidentIngestionResult} (h : (a.transition lib w).1 = .ok value) :
    value.duplicate = false := by
  unfold Ingest.transition at h
  dsimp only at h
  split at h
  · cases h
  split at h
  · cases h
  · cases h
    rfl

/-- A delivery for a firing incident is a duplicate exactly if its transition counts as notified and no repeat is due. -/
theorem duplicate_iff {a : Ingest} (h : a.Delivered lib w) (hfiring : stateOf w (a.key lib) = some .firing)
    {value : IncidentIngestionResult} (hvalue : (ingest lib a w).1 = .ok value) :
    value.duplicate = true ↔ a.Quieted lib w.store := by
  unfold ingest at hvalue
  dsimp only at hvalue
  split at hvalue
  · cases hvalue
  rw [h.request] at hvalue
  dsimp only at hvalue
  split at hvalue
  · cases hvalue
  · rename_i digest first htransition
    split at hvalue
    · cases hvalue
    unfold Ingest.known at hvalue
    split at hvalue
    · cases hvalue
    rename_i current hfound
    have hburning : current.state = .firing := by
      unfold stateOf at hfiring
      rw [hfound] at hfiring
      exact Option.some.inj hfiring
    dsimp only at hvalue
    split at hvalue
    · -- the first notification of the incident
      rename_i hcondition
      have hempty : w.store.notificationsOf (a.key lib) = [] := List.isEmpty_iff.1 hcondition.2.2.1
      rw [activate_fresh hvalue]
      refine iff_of_false Bool.false_ne_true ?_
      intro hquieted
      exact hquieted.notified hempty
    rename_i hcondition
    have hnotified : w.store.notificationsOf (a.key lib) ≠ [] := by
      intro hempty
      exact hcondition ⟨h.firing, h.command, List.isEmpty_iff.2 hempty, hburning⟩
    split at hvalue
    · -- another one is due
      rename_i hdue
      rw [notifyAgain_fresh hvalue]
      refine iff_of_false Bool.false_ne_true ?_
      intro hquieted
      exact hquieted.undue ⟨hdue.2.1, hdue.2.2.2.2⟩
    rename_i hundue
    have hquieted : a.Quieted lib w.store := by
      refine ⟨by rw [htransition]; rfl, hnotified, ?_⟩
      rintro ⟨hkind, hdue⟩
      exact hundue ⟨h.firing, hkind, h.command, hburning, hdue⟩
    split at hvalue
    · cases hvalue
      exact iff_of_true rfl hquieted
    · cases hvalue
      exact iff_of_true rfl hquieted
  · rename_i hunknown
    rw [transition_fresh hvalue]
    refine iff_of_false Bool.false_ne_true ?_
    intro hquieted
    have hknown := hquieted.transition
    rw [hunknown] at hknown
    cases hknown

/-- A delivery adds a notification exactly if it is answered as no duplicate. -/
theorem delivered_added_iff (hkeyed : w.store.Keyed) {a : Ingest} (h : a.Delivered lib w) {value : IncidentIngestionResult}
    (hvalue : (ingest lib a w).1 = .ok value) : added lib w (.ingest a) (a.key lib) = [] ↔ value.duplicate = true := by
  have heffect := perform_effect lib (.ingest a) hkeyed
  have hreply : (perform lib (.ingest a) w).1 = .ok (.result value) := by
    show (ingest lib a w).1.map Reply.result = _
    rw [hvalue]
    rfl
  unfold added call
  generalize perform lib (.ingest a) w = x at heffect hreply ⊢
  cases heffect with
  | refused => cases hreply
  | repeated _ reply duplicate =>
    cases hreply
    exact iff_of_true (by simp) duplicate
  | suppressed _ current value' s duplicate found incidents timeline notifications =>
    cases hreply
    refine iff_of_true ?_ duplicate
    unfold Store.notificationsOf
    rw [notifications]
    simp
  | renewed _ current value' operation added scheduledAt s ledger passes unknown found firing burning spaced notifies written records =>
    cases hreply
    rw [written_drop written, records.fresh]
    exact iff_of_false (by simp) Bool.false_ne_true
  | arrived _ value' operation added s settled ledger new cancelled announced notifies written records =>
    cases hreply
    rw [written_drop written, records.fresh]
    exact iff_of_false (notified_ne notifies (announced_some h.command announced)) Bool.false_ne_true

/-- The delivery announces the episode, unless nothing was announced before it and its transition counts as notified. -/
theorem episode_announced_iff (hkeyed : w.store.Keyed) {a : Ingest} (h : a.Delivered lib w)
    (hfiring : stateOf w (a.key lib) = some .firing) {earlier : List Notification}
    (hearlier : earlier <+: w.store.notificationsOf (a.key lib)) :
    (call lib (.ingest a) w).store.notificationsOf (a.key lib) ≠ earlier ↔
      ¬ (a.Quieted lib w.store ∧ w.store.notificationsOf (a.key lib) = earlier) := by
  obtain ⟨value, hvalue⟩ := h.accepted
  rw [← duplicate_iff h hfiring hvalue, ← delivered_added_iff hkeyed h hvalue, call_notifications (.ingest a) hkeyed]
  obtain ⟨some_of_them, hsplit⟩ := hearlier
  rw [← hsplit, not_iff_not]
  constructor
  · intro heq
    have hnil : some_of_them ++ added lib w (.ingest a) (a.key lib) = [] := by
      rw [List.append_assoc] at heq
      exact List.append_right_eq_self.1 heq
    obtain ⟨hsome, hadded⟩ := List.append_eq_nil_iff.1 hnil
    exact ⟨hadded, by rw [hsome, List.append_nil]⟩
  · rintro ⟨hadded, hsome⟩
    rw [hadded, List.append_nil, hsome]

end Episodes

/-! ## Runs -/

/-- The notifications of a run follow the incidents. -/
structure Follows (lib : Library) (calls : List Call) : Prop where
  /-- An incident that leaves its firing state takes its pending notifications with it. -/
  cancelled : ∀ (before : List Call) c (rest : List Call), calls = before ++ c :: rest → Cancels lib (after lib before) c
  /-- Two notifications of one firing transition are an interval apart. -/
  spaced : ∀ (before : List Call) a (middle : List Call) a' (rest : List Call),
    calls = before ++ Call.ingest a :: (middle ++ Call.ingest a' :: rest) → a.alert.status = .firing →
    a.SameTransition lib a' → ∀ n ∈ added lib (after lib before) (.ingest a) (a.key lib),
      ∀ n' ∈ added lib (after lib (before ++ Call.ingest a :: middle)) (.ingest a') (a'.key lib),
        n.scheduledAt + seconds a'.policy.warningRepeatIntervalSeconds ≤ n'.scheduledAt
  /-- An alert with a command that leads an incident into its firing state is notified. -/
  entered : ∀ (before : List Call) a (rest : List Call), calls = before ++ Call.ingest a :: rest → a.command.isSome →
    (a.notificationKind = "grouped" ∨ a.notificationKind = "immediate") → stateOf (after lib before) (a.key lib) ≠ some .firing →
      stateOf (after lib (before ++ [Call.ingest a])) (a.key lib) = some .firing →
        added lib (after lib before) (.ingest a) (a.key lib) ≠ []

/-- With the first delivery of an alert in a firing episode the episode has a notification, however it began. -/
def Announces (lib : Library) (calls : List Call) : Prop :=
  ∀ before c during a rest, calls = before ++ c :: (during ++ Call.ingest a :: rest) → Episode lib before c during (a.key lib) →
    a.Delivered lib (after lib (before ++ c :: during)) →
      (call lib (.ingest a) (after lib (before ++ c :: during))).store.notificationsOf (a.key lib) ≠
        (after lib before).store.notificationsOf (a.key lib)

/-- Notifications follow the incidents exactly if no alert that is not grouped resolves an incident with a pending notification.
The episodes are announced exactly if no delivery for an episode that was not announced yet is of a transition that counts as
notified. -/
theorem notifications_iff (lib : Library) (calls : List Call) :
    (Follows lib calls ↔ Always (call lib) (fun w c => ¬ Leaves lib w c) {} calls) ∧
    (Announces lib calls ↔ ∀ before c during a rest, calls = before ++ c :: (during ++ .ingest a :: rest) →
      Episode lib before c during (a.key lib) → a.Delivered lib (after lib (before ++ c :: during)) →
        ¬ (a.Quieted lib (after lib (before ++ c :: during)).store ∧
          (after lib (before ++ c :: during)).store.notificationsOf (a.key lib) =
            (after lib before).store.notificationsOf (a.key lib))) := by
  constructor
  · rw [always_iff]
    constructor
    · intro h before c rest hcalls
      exact (cancels_iff (keyed_after lib before) (settles_after lib before) c).1 (h.cancelled before c rest hcalls)
    · intro h
      refine ⟨?_, ?_, ?_⟩
      · intro before c rest hcalls
        exact (cancels_iff (keyed_after lib before) (settles_after lib before) c).2 (h before c rest hcalls)
      · intro before a middle a' rest _ _ hsame n hn n' hn'
        have hrun : after lib (before ++ Call.ingest a :: middle) = runFrom (call lib) (call lib (.ingest a) (after lib before)) middle := by
          unfold after
          rw [runFrom_append]
          rfl
        rw [hrun] at hn'
        exact spaced_added (keyed_after lib before) middle hsame hn hn'
      · intro before a rest _ hcommand _ hbefore hafter
        rw [after_concat] at hafter
        exact entered_added (keyed_after lib before) hcommand hbefore hafter
  · refine forall₅_congr ?_
    intro before c during a rest
    refine imp_congr_right fun _ => imp_congr_right fun hepisode => imp_congr_right fun hdelivered => ?_
    have hrun : after lib (before ++ c :: during) = runFrom (call lib) (after lib before) (c :: during) := runFrom_append
    refine episode_announced_iff (keyed_after lib _) hdelivered (hepisode.firing during (List.prefix_refl _)) ?_
    rw [hrun]
    exact grows_run (c :: during) (keyed_after lib before) (a.key lib)

/-! ## A resolution of another severity -/

/-- A delivery of the warning that wants a notification. -/
def notifiedDelivery (requestIdempotencyKey : String) (now : Time) : Ingest :=
  { sampleDelivery .firing requestIdempotencyKey now with
    command := some (commandOf sampleLibrary samplePolicy (sampleAlert .firing) "g" "klyrow" "alertmanager" "c" "i" ⟨0, 0⟩) }

/-- The alert is resolved when it has become critical. -/
def criticalResolution : Ingest :=
  { sampleDelivery .resolved "l" 3 with
    alert :=
      { sampleAlert .resolved with
        labels := [("alertname", "DiskFull"), ("severity", "critical"), ("service", "db"), ("environment", "prod"), ("host", "h"),
          ("codestra_business", "b"), ("owner", "o")]
        labelled := by decide }
    notificationKind := "immediate" }

def escalatedRun : List Call := [.ingest (notifiedDelivery "k" 2), .ingest criticalResolution]

theorem escalated_new : criticalResolution.New sampleLibrary (after sampleLibrary [.ingest (notifiedDelivery "k" 2)]).store := by
  have hnone : ((after sampleLibrary [.ingest (notifiedDelivery "k" 2)]).store.eventReplays.get
      (replayKey criticalResolution.policy.tenantId criticalResolution.requestKey)).isNone = true ∧
      ((after sampleLibrary [.ingest (notifiedDelivery "k" 2)]).store.eventReplays.get
      (replayKey criticalResolution.policy.tenantId (criticalResolution.eventKey sampleLibrary))).isNone = true := by
    decide +kernel
  refine ⟨?_, Option.isNone_iff_eq_none.1 hnone.1, Option.isNone_iff_eq_none.1 hnone.2⟩
  unfold Ingest.Current
  decide +kernel

theorem escalated_pending : ∃ n, Pending (after sampleLibrary [.ingest (notifiedDelivery "k" 2)]) 3
    (criticalResolution.key sampleLibrary) n := by
  have hany : (((after sampleLibrary [.ingest (notifiedDelivery "k" 2)]).store.notificationsOf
      (criticalResolution.key sampleLibrary)).any fun n => decide (n.kind = "grouped" ∧
        announcedState (after sampleLibrary [.ingest (notifiedDelivery "k" 2)]).ledger "codestra-platform" n.operationId =
          some "firing" ∧ 3 < n.scheduledAt ∧
        commandState (after sampleLibrary [.ingest (notifiedDelivery "k" 2)]).ledger "codestra-platform" n.operationId =
          some .persisted)) = true := by
    decide +kernel
  obtain ⟨n, hlisted, hn⟩ := List.any_eq_true.1 hany
  obtain ⟨hkind, hannounces, hlater, hwaiting⟩ := of_decide_eq_true hn
  exact ⟨n, hlisted, hkind, hannounces, hlater, .inl hwaiting⟩

theorem escalated_leaves : criticalResolution.Leaves sampleLibrary (after sampleLibrary [.ingest (notifiedDelivery "k" 2)]) := by
  refine ⟨rfl, by decide, escalated_new, ⟨none, _, rfl⟩, ?_, escalated_pending⟩
  decide +kernel

/-- The critical resolution leaves the warning pending. -/
theorem escalated_left_pending : ¬ Follows sampleLibrary escalatedRun := by
  intro h
  exact leaves_not_cancels escalated_leaves (h.cancelled [.ingest (notifiedDelivery "k" 2)] _ [] rfl)

end Middleware.Incidents
