/-
The popup reminders of upcoming callbacks. A reminder is queued for a version and a mutation makes the next one, so in runs
where no mutation leaves an upcoming callback with a schedule that is far ahead, each of these keeps its reminder; and the
popups of a version can be rendered, but for the agent reminder of a callback that is claimed.
-/
import Middleware.Callbacks.Mutations

namespace Middleware.Callbacks

open Ledger Lib Policy

/-- SCHEDULED, SNOOZED or RESCHEDULED. -/
def State.upcoming : State → Bool
  | .scheduled | .snoozed | .rescheduled => true
  | _ => false

/-- A callback whose reminder is still to come: popups enabled, upcoming, and more than 15 minutes ahead. -/
def CallbackRecord.awaits (now : Time) (r : CallbackRecord) : Bool :=
  r.reminderPopupEnabled && r.state.upcoming && decide (now + minutes 15 < r.scheduledAt)

/-- A live popup of the row's version. -/
def CallbackDelivery.remindsOf (d : CallbackDelivery) (r : CallbackRecord) : Prop :=
  d.callbackId = r.id ∧ d.callbackVersion = r.version ∧ d.channel = .popup ∧ d.status.live = true

instance (d : CallbackDelivery) (r : CallbackRecord) : Decidable (d.remindsOf r) := inferInstanceAs (Decidable (_ ∧ _))

/-- Every callback whose reminder is to come has a popup due no later than its schedule. -/
def Reminded (w : World) : Prop :=
  ∀ r ∈ w.db.records, r.awaits w.clock = true →
    ∃ d ∈ w.db.deliveries, d.remindsOf r ∧ (d.nextAttemptAt.any fun t => decide (t ≤ r.scheduledAt)) = true

def CallbackRecord.reachable (r : CallbackRecord) : Bool := !falsy r.assignedUserId && !falsy r.assignedAgentId

/-- The popups a step adds for the version of a callback with an agent and a user have a document. -/
def Rendered (lib : Library) (w : World) (s : Step) : Prop :=
  ∀ d ∈ (s.next lib w).db.deliveries, d.idempotencyKey ∉ w.db.deliveries.map (·.idempotencyKey) → d.channel = .popup →
    ∀ r ∈ (s.next lib w).db.records, r.id = d.callbackId → r.version = d.callbackVersion → r.reachable = true →
      (document d r).isSome = true

/-! ## Conditions -/

/-- A mutation that leaves a callback to come, far ahead: its next version has no reminder. -/
def lapses (now : Time) (target : Target) (body : Change) (row : CallbackRecord) : Bool :=
  row.reminderPopupEnabled &&
    match target with
    | .updated | .reassigned => row.state.upcoming && decide (now + minutes 15 < row.scheduledAt)
    | .snoozed => decide (15 < body.snoozeMinutes.getD 5)
    | .rescheduled => body.scheduledAt.any fun value => decide (now + minutes 15 < value.instant)
    | .cancelled | .completed | .inProgress => false

/-- A mutating call that passes the checks on its callback does not let its reminder lapse. -/
def KeepsReminder (w : World) (s : Step) : Prop :=
  ∀ p id target body key correlation row, s.act = .mutate p id target body key correlation → load p id w.db = .ok row →
    w.db.eventFor p.tenant key = none → permitted target body p row = .ok () → transition target row = .ok () →
      lapses (s.now w) target body row = false

/-- No callback with popups, an agent and a user is claimed. -/
def ClaimsUnreachable (w : World) (s : Step) : Prop :=
  ∀ workerId tenant campaign limit locked, s.act = .claimDue workerId tenant campaign limit locked →
    ∀ r ∈ dueRows workerId tenant campaign limit (s.now w) locked w.db, r.reminderPopupEnabled = true → r.reachable = false

/-! ## Popups of the worker -/

section Popups

variable {lib : Library} {now : Time} {db : Db} {d : CallbackDelivery} {r : CallbackRecord}

theorem mapM_mem {A B : Type} {f : A → Option B} {l : List A} {l' : List B} (h : l.mapM f = some l') {y : B} (hy : y ∈ l') :
    ∃ x ∈ l, f x = some y := by
  induction l generalizing l' with
  | nil =>
    cases h
    cases hy
  | cons x l ih =>
    rw [List.mapM_cons] at h
    obtain ⟨y₀, hx, h⟩ := Option.bind_eq_some_iff.1 h
    obtain ⟨ys, hys, h⟩ := Option.bind_eq_some_iff.1 h
    cases h
    rcases List.mem_cons.1 hy with rfl | hy
    · exact ⟨x, List.mem_cons_self, hx⟩
    · obtain ⟨x', hx', hf⟩ := ih hys hy
      exact ⟨x', List.mem_cons_of_mem _ hx', hf⟩

variable {gateway : CallbackDelivery → Gateway}

theorem deliverOne_key {d' : CallbackDelivery} (h : deliverOne now gateway d r = some d') :
    d'.idempotencyKey = d.idempotencyKey := by
  unfold deliverOne at h
  split at h
  · cases h
    rfl
  · split at h <;> cases h <;> rfl

/-- A popup without a document is never delivered: it is retried as often as it is due. -/
theorem deliverOne_undocumented {gateway : CallbackDelivery → Gateway} (hversion : d.callbackVersion = r.version)
    (h : document d r = none) : ∃ d', deliverOne now gateway d r = some d' ∧ d'.status = .retryPending ∧
      d'.nextAttemptAt.isSome = true := by
  unfold deliverOne
  rw [if_neg (not_not.2 hversion), h]
  exact ⟨_, rfl, rfl, rfl⟩

variable {ctx : Context} {locked : List String}

theorem duePopups_mem {tenant campaign : String} {limit : Nat}
    {x : CallbackDelivery × CallbackRecord} (h : x ∈ duePopups ctx tenant campaign limit now locked db) :
    x.1 ∈ db.deliveries ∧ ∃ t ≤ now, x.1.nextAttemptAt = some t := by
  obtain ⟨d, hd, hx⟩ := List.mem_filterMap.1 ((List.mem_insertionSort _).1 (List.mem_of_mem_take h))
  split at hx
  · rename_i hcond
    obtain ⟨r, -, rfl⟩ := Option.map_eq_some_iff.1 hx
    obtain ⟨t, ht, hle⟩ := (Option.any_eq_true _ _).1 hcond.2.2.1
    exact ⟨hd, t, by simpa using hle, ht⟩
  · cases hx

theorem popups_leave {tenant campaign : String} {limit : Nat}
    {written : List CallbackDelivery} (hkeys : (db.deliveries.map (·.idempotencyKey)).Nodup)
    (hwritten : (duePopups ctx tenant campaign limit now locked db).mapM (fun x => deliverOne now gateway x.1 x.2) = some written)
    (hd : d ∈ db.deliveries) {t : Time} (ht : d.nextAttemptAt = some t) (hlate : now < t) :
    (written.find? fun x => x.idempotencyKey == d.idempotencyKey) = none := by
  rw [List.find?_eq_none]
  intro x hx hkey
  obtain ⟨y, hy, hone⟩ := mapM_mem hwritten hx
  obtain ⟨hmem, t', hle, ht'⟩ := duePopups_mem hy
  have hsame : y.1 = d := by
    refine List.inj_on_of_nodup_map hkeys hmem hd ?_
    rw [← deliverOne_key hone]
    simpa using hkey
  rw [hsame, ht] at ht'
  cases ht'
  exact absurd hle (not_le.2 hlate)

theorem reconcile_leaves {tenant campaign : String} (hkeys : (db.records.map (·.id)).Nodup)
    (hr : r ∈ db.records) (hd : d.remindsOf r) (hstate : r.state.upcoming = true) : outdated ctx tenant campaign db d = false := by
  obtain ⟨hid, hversion, -, -⟩ := hd
  have hrow : db.record d.callbackId = some r := by
    rw [hid]
    exact rowAt_of_mem hkeys hr
  unfold outdated joined
  rw [hrow, hversion]
  cases hsees : ctx.sees r with
  | false => simp [Option.filter, hsees]
  | true =>
    cases hs : r.state <;> simp_all [State.upcoming, Option.filter]

end Popups

/-! ## Reminders -/

/-- A callback whose reminder is to come has it queued for 15 minutes before its schedule. -/
structure Promised (w : World) : Prop where
  keys : (w.db.deliveries.map (·.idempotencyKey)).Nodup
  reminder : ∀ r ∈ w.db.records, r.awaits w.clock = true →
    ∃ d ∈ w.db.deliveries, d.remindsOf r ∧ d.nextAttemptAt = some (r.scheduledAt - minutes 15)

section Reminders

variable {lib : Library} {now : Time} {w : World} {s : Step} {p : Principal} {row row' : CallbackRecord}
variable {r : CallbackRecord}

theorem awaits_iff : r.awaits now = true ↔
    r.reminderPopupEnabled = true ∧ r.state.upcoming = true ∧ now + minutes 15 < r.scheduledAt := by
  simp [CallbackRecord.awaits, and_assoc]

theorem minutes_lt {m n : Nat} (h : minutes m < minutes n) : m < n := by
  have hlt : (m : Int) * 60 * 1000000 < (n : Int) * 60 * 1000000 := h
  omega

theorem awaits_earlier (h : r.awaits (s.now w) = true) : r.awaits w.clock = true := by
  rw [awaits_iff] at h ⊢
  obtain ⟨henabled, hstate, hfar⟩ := h
  refine ⟨henabled, hstate, ?_⟩
  unfold Step.now at hfar
  linarith [Int.natCast_nonneg s.elapsed]

theorem wrote_deliveryKeys {act : Act} {db db' : Db} (hw : Wrote lib now act db db')
    (h : (db.deliveries.map (·.idempotencyKey)).Nodup) : (db'.deliveries.map (·.idempotencyKey)).Nodup := by
  have valid_deliveries (h : db'.valid = true) : (db'.deliveries.map (·.idempotencyKey)).Nodup := by
    simp only [Db.valid, Bool.and_eq_true, decide_eq_true_eq] at h
    exact h.1.2
  cases hw with
  | same _ heq => exact heq ▸ h
  | created _ p body row ev emails heq _ _ _ hvalid => exact valid_deliveries hvalid
  | mutated p id target body key correlation row row' _ _ _ _ _ _ hvalid => exact valid_deliveries hvalid
  | advanced _ a states workerId selected _ _ _ _ _ hvalid => exact valid_deliveries hvalid
  | delivered _ f heq hkey _ =>
    have hkeys : (db.deliveries.map f).map (·.idempotencyKey) = db.deliveries.map (·.idempotencyKey) := by
      rw [List.map_map]
      exact List.map_congr_left fun d _ => hkey d
    rw [heq, hkeys]
    exact h

/-- What the reminders of a mutated row depend on: the time that was set, and the state. -/
theorem finish_fields (target : Target) (body : Change) (timed : CallbackRecord) :
    (finish now target body (assign target body timed)).reminderPopupEnabled = timed.reminderPopupEnabled ∧
      (finish now target body (assign target body timed)).scheduledAt = timed.scheduledAt ∧
      (finish now target body (assign target body timed)).state = target.state.getD timed.state := by
  obtain ⟨agent, team, heq⟩ := assign_eq target body timed
  rw [heq]
  exact ⟨rfl, rfl, rfl⟩

theorem canonicalTime_instant {value : Stamp} {timezone : String} {t : Time} (h : canonicalTime lib value timezone = .ok t) :
    t = value.instant := by
  unfold canonicalTime at h
  split at h
  · cases h
  · cases h
  split at h
  · cases h
  split at h
  · cases h
  · cases h
    rfl

theorem rescheduled_instant {body : Change} (h : schedule lib now .rescheduled body row = .ok row') :
    body.scheduledAt.map (·.instant) = some row'.scheduledAt := by
  unfold schedule at h
  dsimp only at h
  split at h
  · rename_i value timezone hvalue htimezone
    split at h
    · cases h
    split at h
    · cases h
    · rename_i t ht
      cases h
      rw [hvalue, canonicalTime_instant ht]
      rfl
  · cases h

/-- The row after a mutation that does not let its reminder lapse has none to come. -/
theorem mutated_awaits {target : Target} {body : Change} (hrow : mutated lib now target body p row = .ok row')
    (h : lapses now target body row = false) : row'.awaits now = false := by
  obtain ⟨-, -, timed, htimed, -, rfl⟩ := mutated_ok hrow
  rw [Bool.eq_false_iff] at h ⊢
  intro hawaits
  apply h
  obtain ⟨henabled, hstate, hfar⟩ := awaits_iff.1 hawaits
  obtain ⟨hpopup, hat, hst⟩ := finish_fields  target body timed
  rw [hpopup] at henabled
  rw [hat] at hfar
  rw [hst] at hstate
  have hrowPopup : row.reminderPopupEnabled = true := by
    obtain ⟨t, timezone, rfl⟩ := schedule_ok htimed
    exact henabled
  unfold lapses
  rw [hrowPopup, Bool.true_and]
  cases target with
  | updated | reassigned =>
    cases htimed
    exact Bool.and_eq_true_iff.2 ⟨hstate, decide_eq_true hfar⟩
  | snoozed =>
    cases htimed
    exact decide_eq_true (minutes_lt (lt_of_add_lt_add_left hfar))
  | rescheduled =>
    obtain ⟨value, hvalue, hinstant⟩ := Option.map_eq_some_iff.1 (rescheduled_instant htimed)
    rw [hvalue, Option.any_some, hinstant]
    exact decide_eq_true hfar
  | cancelled | completed | inProgress => cases hstate

theorem Promised.step (hv : Versioned w.db) (h : Promised w) (hkeep : KeepsReminder w s) : Promised (s.next lib w) := by
  have hw : Wrote lib (s.now w) s.act w.db (s.next lib w).db := run_wrote
  refine ⟨wrote_deliveryKeys hw h.keys, fun r hr hawaits => ?_⟩
  replace hawaits : r.awaits (s.now w) = true := hawaits
  obtain ⟨henabled, hstate, hfar⟩ := awaits_iff.1 hawaits
  cases hw with
  | same _ heq =>
    rw [heq] at hr ⊢
    exact h.reminder r hr (awaits_earlier hawaits)
  | created _ p body row ev emails heq hrow =>
    rw [heq] at hr ⊢
    rcases List.mem_append.1 hr with hr | hr
    · obtain ⟨d, hd, hreminds⟩ := h.reminder r hr (awaits_earlier hawaits)
      exact ⟨d, List.mem_append_left _ (List.mem_append_left _ hd), hreminds⟩
    · have hsame : r = row := List.mem_singleton.1 hr
      subst hsame
      have hpopup : r.popupReminderAt = r.scheduledAt - minutes 15 := by
        obtain ⟨id, scheduled, phone, key, correlation, rfl⟩ := hrow
        rfl
      refine ⟨delivery r .popup "WARNING_15M" "popup:warning-15m" r.popupReminderAt, List.mem_append_right _ ?_,
        ⟨rfl, rfl, rfl, rfl⟩, congrArg some hpopup⟩
      unfold popupDeliveries
      rw [if_pos henabled]
      exact List.mem_singleton_self _
  | mutated p id target body key correlation row row' hact _ hload hfresh hrow heq _ =>
    have b := bumps_mutated key correlation hload hrow
    rcases b.backward hv.keys (heq ▸ hr) with ⟨x, -, rfl⟩ | ⟨hmem, hsel⟩
    · obtain ⟨hpermitted, hedge, -⟩ := mutated_ok hrow
      have hno := mutated_awaits hrow (hkeep p id target body key correlation row hact hload hfresh hpermitted hedge)
      rw [hno] at hawaits
      cases hawaits
    · obtain ⟨d, hd, hreminds, hnext⟩ := h.reminder r hmem (awaits_earlier hawaits)
      -- the mutation cancels popups of its own callback alone
      have hne : d.callbackId ≠ row.id := by
        intro hid
        have hsame : r = row := List.inj_on_of_nodup_map hv.keys hmem (rowAt_mem (load_ok hload).1) (by rw [← hreminds.1, hid])
        exact hsel (List.mem_singleton.2 hsame)
      refine ⟨d, ?_, hreminds, hnext⟩
      rw [heq]
      refine List.mem_map.2 ⟨d, hd, ?_⟩
      simp [hne]
  | advanced _ a states workerId selected hpasses hsub _ hnodup heq _ =>
    have b := bumps_advance workerId hpasses hsub (hnodup hv.keys)
    rcases b.backward hv.keys (heq ▸ hr) with ⟨x, -, rfl⟩ | ⟨hmem, -⟩
    · cases hpasses <;> cases hstate
    · obtain ⟨d, hd, hreminds⟩ := h.reminder r hmem (awaits_earlier hawaits)
      rw [heq]
      exact ⟨d, List.mem_append_left _ hd, hreminds⟩
  | delivered _ f heq _ hf =>
    rw [heq] at hr ⊢
    obtain ⟨d, hd, hreminds, hnext⟩ := h.reminder r hr (awaits_earlier hawaits)
    refine ⟨d, List.mem_map.2 ⟨d, hd, ?_⟩, hreminds, hnext⟩
    rcases hf with ⟨tenant, campaign, -, rfl⟩ | ⟨tenant, campaign, limit, gateway, locked, written, -, hwritten, rfl⟩
    · dsimp only
      rw [reconcile_leaves hv.keys hr hreminds hstate]
      rfl
    · have hnone := popups_leave h.keys hwritten hd hnext (lt_sub_iff_add_lt.2 hfar)
      simp only [hnone, Option.getD_none]

theorem Promised.reminded (h : Promised w) : Reminded w := by
  intro r hr hawaits
  obtain ⟨d, hd, hreminds, hnext⟩ := h.reminder r hr hawaits
  refine ⟨d, hd, hreminds, ?_⟩
  rw [hnext, Option.any_some]
  refine decide_eq_true (sub_le_self _ ?_)
  decide

end Reminders

/-! ## Documents -/

section Documents

variable {lib : Library} {now : Time} {w : World} {s : Step} {d : CallbackDelivery} {r : CallbackRecord}

/-- A callback with an agent and a user has a document for every stage the worker knows. -/
theorem document_isSome (hstage : (stageEvent d.stage).isSome = true) (hr : r.reachable = true) : (document d r).isSome = true := by
  obtain ⟨eventType, hstage⟩ := Option.isSome_iff_exists.1 hstage
  obtain ⟨huser, hagent⟩ := Bool.and_eq_true_iff.1 hr
  unfold document
  rw [hstage]
  dsimp only
  rw [if_neg (by simp_all)]
  rfl

/-- The popups of the passes after the first have stages the worker knows. -/
theorem passes_stage {states : List State} {a : Advance} (h : Passes now states a) (hdue : a.target ≠ .due) :
    ∀ popup ∈ a.popups, (stageEvent popup.1).isSome = true := by
  cases h with
  | due => exact absurd rfl hdue
  | missed graceMinutes =>
    intro popup hp
    rw [List.mem_singleton.1 hp]
    show (stageEvent "MISSED").isSome = true
    decide +kernel
  | escalated escalationMinutes =>
    intro popup hp
    rw [List.mem_singleton.1 hp]
    show (stageEvent "ESCALATED").isSome = true
    decide +kernel

theorem cancelStale_keys (target : Target) (row : CallbackRecord) (expectedVersion : Nat) (l : List CallbackDelivery) :
    (cancelStale target row expectedVersion l).map (·.idempotencyKey) = l.map (·.idempotencyKey) := by
  unfold cancelStale
  rw [List.map_map]
  refine List.map_congr_left fun d _ => ?_
  simp only [Function.comp]
  split <;> rfl

theorem rendered_step (hv : Versioned w.db) (h : ClaimsUnreachable w s) : Rendered lib w s := by
  intro d hd hnew hchannel r hr hid hversion hreach
  have hw : Wrote lib (s.now w) s.act w.db (s.next lib w).db := run_wrote
  cases hw with
  | same _ heq =>
    rw [heq] at hd
    exact absurd (List.mem_map_of_mem hd) hnew
  | created _ p body row ev emails heq _ _ hemail =>
    rw [heq] at hd
    rcases List.mem_append.1 hd with hd | hd
    · rcases List.mem_append.1 hd with hd | hd
      · exact absurd (List.mem_map_of_mem hd) hnew
      · rw [hemail d hd] at hchannel
        cases hchannel
    · unfold popupDeliveries at hd
      split at hd
      · rw [List.mem_singleton.1 hd]
        have hstage : (stageEvent "WARNING_15M").isSome = true := by decide +kernel
        exact document_isSome hstage hreach
      · cases hd
  | mutated p id target body key correlation row row' _ _ _ _ _ heq _ =>
    have hkey : d.idempotencyKey ∈ (cancelStale target row body.expectedVersion w.db.deliveries).map (·.idempotencyKey) := by
      rw [heq] at hd
      exact List.mem_map_of_mem hd
    rw [cancelStale_keys] at hkey
    exact absurd hkey hnew
  | advanced _ a states workerId selected hpasses hsub hdue hnodup heq _ =>
    rw [heq] at hd
    rcases List.mem_append.1 hd with hd | hd
    · exact absurd (List.mem_map_of_mem hd) hnew
    obtain ⟨x, hx, hd⟩ := List.mem_flatMap.1 hd
    unfold Advance.deliveries at hd
    split at hd
    swap
    · cases hd
    rename_i henabled
    obtain ⟨⟨stage, suffix, t⟩, hpopup, rfl⟩ := List.mem_map.1 hd
    by_cases htarget : a.target = .due
    · obtain ⟨tenant, campaign, limit, locked, hact, rfl⟩ := hdue htarget
      -- the callback of the popup is the row that was claimed
      have hrow : r = a.row x := by
        have b := bumps_advance workerId hpasses hsub (hnodup hv.keys)
        rcases b.forward hv.keys (hsub x hx).1 with ⟨-, hf⟩ | ⟨hno, -⟩
        · exact List.inj_on_of_nodup_map hv.step.keys hr (heq ▸ hf) hid
        · exact absurd hx hno
      have hno := h workerId tenant campaign limit locked hact x hx henabled
      rw [hrow] at hreach
      exact absurd hreach (by rw [show (a.row x).reachable = x.reachable from rfl, hno]; simp)
    · exact document_isSome (passes_stage hpasses htarget _ hpopup) hreach
  | delivered _ f heq hkey _ =>
    rw [heq] at hd
    obtain ⟨d₀, hd₀, rfl⟩ := List.mem_map.1 hd
    rw [hkey d₀] at hnew
    exact absurd (List.mem_map_of_mem hd₀) hnew

end Documents

/-- What holds of reminders in runs whose calls keep to their conditions. -/
theorem reminders_kept (lib : Library) (clock : Time) (steps : List Step) :
    (Always (Step.next lib) KeepsReminder (World.start clock) steps →
      Reminded (runFrom (Step.next lib) (World.start clock) steps)) ∧
    (Always (Step.next lib) ClaimsUnreachable (World.start clock) steps →
      Always (Step.next lib) (Rendered lib) (World.start clock) steps) := by
  constructor
  · intro h
    have hstart : Versioned (World.start clock).db ∧ Promised (World.start clock) :=
      ⟨(reached_sound lib clock []).1, List.nodup_nil, by simp [World.start]⟩
    have hrun := h.invariant (I := fun w => Versioned w.db ∧ Promised w) hstart
      fun w s hI hkeep => ⟨hI.1.step, hI.2.step hI.1 hkeep⟩
    exact hrun.2.reminded
  · intro h
    exact always_iff.2 fun before s after heq => rendered_step (reached_sound lib clock before).1 (always_iff.1 h before s after heq)

/-! Two callbacks of one agent: notes are added to the first, and the second is due. -/

namespace Edited

def body (at_ : Time) : CreateCallback :=
  { Shared.body with assignedAgentId := some "agent-1", assignedUserId := some "user-1", scheduledAt := ⟨at_, some 0⟩ }

def steps : List Step :=
  [⟨0, .create Shared.agent "first" (body (minutes 2880)) "create-1" "correlation"⟩,
    ⟨1, .mutate Shared.agent "first" .updated { expectedVersion := 1, notes := some "calls back" } "change-1" "correlation"⟩,
    ⟨1, .create Shared.agent "second" (body 0) "create-2" "correlation"⟩,
    ⟨1, .claimDue "worker" "tenant" "campaign" 100 []⟩]

end Edited

/-- The first callback has no reminder for its second version, and the second has a popup that is retried for ever. -/
theorem update_drops_reminder : ¬Reminded (runFrom (Step.next Shared.lib) (World.start 0) (Edited.steps.take 2)) ∧
    ¬Always (Step.next Shared.lib) (Rendered Shared.lib) (World.start 0) Edited.steps ∧
    ∃ d ∈ (runFrom (Step.next Shared.lib) (World.start 0) Edited.steps).db.deliveries,
      ∃ r ∈ (runFrom (Step.next Shared.lib) (World.start 0) Edited.steps).db.records, d.remindsOf r ∧ r.reachable = true ∧
        ∀ now gateway, ∃ d', deliverOne now gateway d r = some d' ∧ d'.status = .retryPending := by
  refine ⟨?_, ?_, ?_⟩
  · unfold Reminded
    decide +kernel
  · rintro ⟨-, -, -, h, -⟩
    revert h
    unfold Rendered
    decide +kernel
  · obtain ⟨d, hd, r, hr, hreminds, hreach, hnone⟩ :
        ∃ d ∈ (runFrom (Step.next Shared.lib) (World.start 0) Edited.steps).db.deliveries,
          ∃ r ∈ (runFrom (Step.next Shared.lib) (World.start 0) Edited.steps).db.records,
            d.remindsOf r ∧ r.reachable = true ∧ document d r = none := by
      decide +kernel
    refine ⟨d, hd, r, hr, hreminds, hreach, fun now gateway => ?_⟩
    obtain ⟨d', hd', hstatus, -⟩ := @deliverOne_undocumented now d r gateway hreminds.2.1 hnone
    exact ⟨d', hd', hstatus⟩

end Middleware.Callbacks
