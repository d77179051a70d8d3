/-
The quota of a tenant over runs of its submissions. What the stores count is what is handed over and what is under way, unless a
submission breaks off between its reservation and its command, or hands its command over in a later minute than it has reserved in.
-/
import Middleware.Production.Moves
import Middleware.Production.Operators

namespace Middleware.Production

open Ledger Lib QuotaStore
open Communications (Submit Durable Store Service CommunicationMessage HandsOver Admitted)

/-! ## What is expected of the quota -/

section Statements

variable (svc : GatedService) (draws : Draws) {σ : Type} [PolicyStore svc.control σ] [QuotaStore svc.control σ]

/-- The traffic over the policies that the operators have left. -/
def Traffic.start (caches : Nat → Store) (ledger : MemoryCommandStore) (control : List Action) : Traffic svc σ :=
  { caches, ledger, store := (run svc.control (σ := σ) control).store }

namespace Traffic

variable {svc}

/-- The recipients of the commands that were handed over in the window of an instant. -/
def handedIn (t : Traffic svc σ) (window : Window) (now : Time) : Int := (t.submissions.map (·.handedIn window now)).sum

/-- The reserved units of the submissions that are under way. -/
def pending (t : Traffic svc σ) (cutoff : Time) : Int := (t.submissions.map (·.pending cutoff)).sum

end Traffic

/-- The events lie before an instant. -/
def Reached (events : List (Event svc)) (now : Time) : Prop := ∀ event ∈ events, event.now ≤ now

/-- E-mail submissions of one tenant, by a clock that does not go back. -/
structure Clocked (tenantId : String) (events : List (Event svc)) : Prop where
  ordered : (events.map Event.now).Pairwise (· ≤ ·)
  begun : ∀ process c d g now, .begin process c d g now ∈ events → c.tenantId = tenantId ∧ c.request.request.channel = .email ∧
    g.reservedAt ≤ g.recordedAt ∧ g.recordedAt ≤ now

/-- The limits hold for the commands that are handed over, and the usage that is reported is theirs and that of the submissions under
way. -/
structure Exact (t : Traffic svc σ) (tenantId : String) (events : List (Event svc)) : Prop where
  limited : ∀ before, before <+: events → ∀ now p, get svc.control tenantId now t.store = .ok p → ∀ window ∈ windows, ∀ moment,
    (t.after svc draws before).handedIn window moment ≤ window.limit p
  reported : ∀ before, before <+: events → ∀ now, Reached svc before now →
    quotaStatus svc.control tenantId now (t.after svc draws before).store = windows.map fun window =>
      (window.name, (t.after svc draws before).handedIn window now + (t.after svc draws before).pending (window.cutoff now))

/-- A reservation is followed by its command in the same minute, and not by an exception on the same day. -/
def Accounted (t : Traffic svc σ) : Event svc → Prop
  | .submit pid now => ∀ process c held, t.submissions[pid]? = some (.waiting process c (some held)) →
      ((∃ command, HandsOver svc.toService c (t.caches process) command) → minute.cutoff held.since = minute.cutoff now) ∧
        (Fails svc c (t.caches process) → held.since < day.cutoff now)
  | .begin _ _ _ _ _ => True
  | .release _ _ => True

end Statements

/-! ## Sums over submissions -/

section Sums

variable {A : Type} {l : List A} {i : Nat} {x y : A} {f : A → Int} {hold : A → Option Hold}

theorem sum_set (h : l[i]? = some x) : ((l.set i y).map f).sum = (l.map f).sum - f x + f y := by
  induction l generalizing i with
  | nil => cases h
  | cons a rest ih =>
    cases i with
    | zero =>
      rw [List.set_cons_zero, List.map_cons, List.map_cons, List.sum_cons, List.sum_cons, Option.some.inj h]
      omega
    | succ i =>
      rw [List.set_cons_succ, List.map_cons, List.map_cons, List.sum_cons, List.sum_cons, ih h]
      omega

/-- What a change of one element leaves alone. -/
theorem filterMap_set (h : l[i]? = some x) (hxy : hold y = hold x) : (l.set i y).filterMap hold = l.filterMap hold := by
  induction l generalizing i with
  | nil => cases h
  | cons a rest ih =>
    cases i with
    | zero =>
      rw [List.set_cons_zero, List.filterMap_cons, List.filterMap_cons, hxy, Option.some.inj h]
    | succ i =>
      rw [List.set_cons_succ, List.filterMap_cons, List.filterMap_cons, ih h]

/-- An element whose reservation goes takes away the one with its identifier. -/
theorem filterMap_drop {r : Hold} (h : l[i]? = some x) (hx : hold x = some r) (hy : hold y = none)
    (hnodup : ((l.filterMap hold).map (·.reservationId)).Nodup) : (l.set i y).filterMap hold =
      (l.filterMap hold).filter fun r' => decide (r'.reservationId ≠ r.reservationId) := by
  induction l generalizing i with
  | nil => cases h
  | cons a rest ih =>
    cases i with
    | zero =>
      have ha : hold a = some r := by rw [Option.some.inj h, hx]
      rw [List.filterMap_cons, ha, List.map_cons, List.nodup_cons] at hnodup
      rw [List.set_cons_zero, List.filterMap_cons, List.filterMap_cons, hy, ha]
      rw [List.filter_cons_of_neg (by simp), eq_comm, List.filter_eq_self]
      intro r' hr'
      refine decide_eq_true fun heq => hnodup.1 ?_
      rw [← heq]
      exact List.mem_map_of_mem hr'
    | succ i =>
      rw [List.set_cons_succ, List.filterMap_cons, List.filterMap_cons]
      rw [List.filterMap_cons] at hnodup
      rcases ha : hold a with _ | r'
      · rw [ha] at hnodup
        exact ih h hnodup
      · rw [ha, List.map_cons, List.nodup_cons] at hnodup
        have hne : r'.reservationId ≠ r.reservationId := by
          intro heq
          refine hnodup.1 ?_
          rw [heq]
          exact List.mem_map_of_mem (List.mem_filterMap.2 ⟨x, List.mem_of_getElem? h, hx⟩)
        rw [List.filter_cons, if_pos (decide_eq_true hne), ih h hnodup.2]

theorem sum_filterMap (g : Hold → Int) (l : List A) :
    ((l.filterMap hold).map g).sum = (l.map fun a => ((hold a).map g).getD 0).sum := by
  induction l with
  | nil => rfl
  | cons a rest ih =>
    rw [List.filterMap_cons, List.map_cons, List.sum_cons, ← ih]
    rcases hold a with _ | r
    · exact (zero_add _).symm
    · rfl

theorem sum_le_sum {g : A → Int} (h : ∀ a ∈ l, f a ≤ g a) : (l.map f).sum ≤ (l.map g).sum := by
  induction l with
  | nil => exact le_refl _
  | cons a rest ih =>
    rw [List.map_cons, List.map_cons, List.sum_cons, List.sum_cons]
    have hfirst := h a List.mem_cons_self
    have hrest := ih fun a ha => h a (List.mem_cons_of_mem _ ha)
    omega

end Sums

/-! ## What a run keeps -/

/-- The units of a reservation, if it is made in the window of an instant. -/
def Hold.within (window : Window) (moment : Time) (h : Hold) : Int :=
  if window.cutoff h.since = window.cutoff moment then h.units else 0

structure QuotaInv (svc : GatedService) (draws : Draws) {σ : Type} [PolicyStore svc.control σ] [QuotaStore svc.control σ]
    (tenantId : String) (s₀ : σ) (events : List (Event svc)) (t : Traffic svc σ) : Prop where
  holds : holds svc.control t.store tenantId = t.submissions.filterMap Submission.hold
  ids : ∀ id ∈ ids svc.control t.store, ∃ i < t.drawn, id = draws.uuid4 i
  distinct : ((t.submissions.filterMap Submission.hold).map (·.reservationId)).Nodup
  sound : ∀ x ∈ t.submissions, ∀ h ∈ x.held, h.reservation.tenantId = tenantId ∧ h.reservation.units = x.recipients ∧ 1 ≤ x.recipients
  reached : ∀ now, Reached svc events now → ∀ x ∈ t.submissions,
    (∀ h ∈ x.held, h.since ≤ now) ∧ ∀ handed ∈ x.handedAt, handed ≤ now
  known : ∀ x ∈ t.submissions, ∀ process c, x = .waiting process c none → Known (t.caches process) c
  handed : ∀ x ∈ t.submissions, x.held = none → x.handedAt = none
  stored : stored svc.control t.store tenantId = stored svc.control s₀ tenantId
  limited : ∀ now p, get svc.control tenantId now s₀ = .ok p → ∀ window ∈ windows, ∀ moment,
    ((QuotaStore.holds svc.control t.store tenantId).map (·.within window moment)).sum ≤ window.limit p

variable {answer : Except Exc (CommunicationMessage × Bool)} {held : Held} {handedAt : Option Time}
variable {process : Nat} {window : Window}

section Invariant

variable {svc : GatedService} {draws : Draws} {σ : Type} [PolicyStore svc.control σ] [QuotaStore svc.control σ] {tenantId : String}
  {s₀ : σ} {events : List (Event svc)} {event : Event svc} {t : Traffic svc σ} {x y : Submission svc} {caches : Nat → Store}
  {ledger : MemoryCommandStore} {drawn pid : Nat}

theorem reached_concat {now : Time} (h : Reached svc (events ++ [event]) now) : Reached svc events now ∧ event.now ≤ now :=
  ⟨fun e he => h e (List.mem_append_left _ he), h event (List.mem_append_right _ (List.mem_singleton_self _))⟩

theorem hold_of_held {h : Held} (hx : x.held = some h) :
    x.hold = some ⟨h.reservation.reservationId, h.reservation.units, h.since⟩ := by
  unfold Submission.hold
  rw [hx]
  rfl

theorem hold_none (hx : x.held = none) : x.hold = none := by
  unfold Submission.hold
  rw [hx]
  rfl

theorem refused_ne {e : Exc} {c : Submit svc.library} {held : Option Held} :
    (.refused e : Submission svc) ≠ .waiting process c held := by
  intro h
  cases h

theorem releasing_ne {c c' : Submit svc.library} {held' : Option Held}
    : (.releasing c held answer : Submission svc) ≠ .waiting process c' held' := by
  intro h
  cases h

theorem done_ne {c c' : Submit svc.library} {held held' : Option Held} :
    (.done c held handedAt answer : Submission svc) ≠ .waiting process c' held' := by
  intro h
  cases h

theorem QuotaInv.join (h : QuotaInv svc draws tenantId s₀ events t) (hgrows : CachesGrow t.caches caches) (hdrawn : t.drawn ≤ drawn)
    (hx : x.held = none) (hhanded : x.handedAt = none) (hknown : ∀ process c, x = .waiting process c none → Known (caches process) c) :
    QuotaInv svc draws tenantId s₀ (events ++ [event]) { t with caches, drawn, submissions := t.submissions ++ [x] } := by
  have hsame : (t.submissions ++ [x]).filterMap Submission.hold = t.submissions.filterMap Submission.hold := by
    rw [List.filterMap_append, List.filterMap_cons, hold_none hx]
    exact List.append_nil _
  refine ⟨?_, ?_, ?_, ?_, ?_, ?_, ?_, h.stored, h.limited⟩
  · rw [hsame]
    exact h.holds
  · intro id hid
    obtain ⟨i, hi, heq⟩ := h.ids id hid
    exact ⟨i, lt_of_lt_of_le hi hdrawn, heq⟩
  · rw [hsame]
    exact h.distinct
  · intro x' hx'
    rcases List.mem_append.1 hx' with hx' | hx'
    · exact h.sound x' hx'
    · rw [List.mem_singleton.1 hx', hx]
      exact nofun
  · intro now hnow x' hx'
    rcases List.mem_append.1 hx' with hx' | hx'
    · exact h.reached now (reached_concat hnow).1 x' hx'
    · rw [List.mem_singleton.1 hx', hx, hhanded]
      exact ⟨nofun, nofun⟩
  · intro x' hx' process c heq
    rcases List.mem_append.1 hx' with hx' | hx'
    · exact hgrows process _ (h.known x' hx' process c heq)
    · rw [List.mem_singleton.1 hx'] at heq
      exact hknown process c heq
  · intro x' hx' hheld
    rcases List.mem_append.1 hx' with hx' | hx'
    · exact h.handed x' hx' hheld
    · rw [List.mem_singleton.1 hx']
      exact hhanded

theorem QuotaInv.goOn (h : QuotaInv svc draws tenantId s₀ events t) (hgrows : CachesGrow t.caches caches)
    (hpid : t.submissions[pid]? = some x) (hheld : y.held = x.held) (hrecipients : y.recipients = x.recipients)
    (hhanded : ∀ handed ∈ y.handedAt, handed = event.now) (hnone : y.held = none → y.handedAt = none)
    (hwaiting : ∀ process c, y ≠ .waiting process c none) :
    QuotaInv svc draws tenantId s₀ (events ++ [event]) { t with caches, ledger, submissions := t.submissions.set pid y } := by
  have hmem : x ∈ t.submissions := List.mem_of_getElem? hpid
  have hhold : y.hold = x.hold := by
    unfold Submission.hold
    rw [hheld]
  refine ⟨?_, h.ids, ?_, ?_, ?_, ?_, ?_, h.stored, h.limited⟩
  · rw [filterMap_set hpid hhold]
    exact h.holds
  · rw [filterMap_set hpid hhold]
    exact h.distinct
  · intro x' hx'
    rcases List.mem_or_eq_of_mem_set hx' with hx' | rfl
    · exact h.sound x' hx'
    · rw [hheld, hrecipients]
      exact h.sound x hmem
  · intro now hnow x' hx'
    obtain ⟨hold, hnew⟩ := reached_concat hnow
    rcases List.mem_or_eq_of_mem_set hx' with hx' | rfl
    · exact h.reached now hold x' hx'
    · refine ⟨?_, fun handed hmem' => ?_⟩
      · rw [hheld]
        exact (h.reached now hold x hmem).1
      · rw [hhanded handed hmem']
        exact hnew
  · intro x' hx' process c heq
    rcases List.mem_or_eq_of_mem_set hx' with hx' | rfl
    · exact hgrows process _ (h.known x' hx' process c heq)
    · exact absurd heq (hwaiting process c)
  · intro x' hx' hnone'
    rcases List.mem_or_eq_of_mem_set hx' with hx' | rfl
    · exact h.handed x' hx' hnone'
    · exact hnone hnone'

theorem QuotaInv.reserve (h : QuotaInv svc draws tenantId s₀ events t) (now : Time) (p : EmailProductionPolicy)
    (hgrows : CachesGrow t.caches caches) {r : QuotaReservation} {recordedAt : Time} (hheld : x.held = some
      ⟨r, QuotaStore.since svc.control σ r recordedAt⟩) (hhanded : x.handedAt = none) (hunits : r.units = x.recipients)
    (hpos : 1 ≤ x.recipients) (htenant : r.tenantId = tenantId) (hid : r.reservationId = draws.uuid4 t.drawn)
    (hrecorded : r.reservedAt ≤ recordedAt) (hevent : recordedAt ≤ event.now)
    (hget : get svc.control tenantId now t.store = .ok p)
    (hquota : ∀ window ∈ windows, used svc.control t.store tenantId (window.cutoff r.reservedAt) + r.units ≤ window.limit p)
    (hlimits : ∀ now p, get svc.control tenantId now s₀ = .ok p → ∀ now' p', get svc.control tenantId now' t.store = .ok p' →
      ∀ window ∈ windows, window.limit p' = window.limit p) :
    QuotaInv svc draws tenantId s₀ (events ++ [event])
      { t with
        caches
        drawn := t.drawn + 1
        store := PolicyStore.reserve svc.control r recordedAt t.store
        submissions := t.submissions ++ [x] } := by
  have hfresh : r.reservationId ∉ QuotaStore.ids svc.control t.store := by
    intro hmem
    obtain ⟨i, hi, heq⟩ := h.ids _ hmem
    rw [hid] at heq
    exact absurd (draws.distinct _ _ heq) (by omega)
  have hsince : r.reservedAt ≤ since svc.control σ r recordedAt := since_ge r recordedAt hrecorded
  have hsince' : since svc.control σ r recordedAt ≤ recordedAt := since_le r recordedAt hrecorded
  have hholds : QuotaStore.holds svc.control (PolicyStore.reserve svc.control r recordedAt t.store) tenantId =
      t.submissions.filterMap Submission.hold ++ [⟨r.reservationId, r.units, since svc.control σ r recordedAt⟩] := by
    rw [← htenant, holds_reserve t.store r recordedAt hfresh, htenant, h.holds]
  have hlast : (t.submissions ++ [x]).filterMap Submission.hold =
      t.submissions.filterMap Submission.hold ++ [⟨r.reservationId, r.units, since svc.control σ r recordedAt⟩] := by
    rw [List.filterMap_append, List.filterMap_cons, hold_of_held hheld]
    rfl
  refine ⟨?_, ?_, ?_, ?_, ?_, ?_, ?_, ?_, ?_⟩
  · rw [hlast]
    exact hholds
  · intro id hmem
    rcases ids_reserve t.store r recordedAt id hmem with rfl | hmem
    · exact ⟨t.drawn, Nat.lt_succ_self _, hid⟩
    · obtain ⟨i, hi, heq⟩ := h.ids id hmem
      exact ⟨i, Nat.lt_succ_of_lt hi, heq⟩
  · rw [hlast, List.map_append, List.nodup_append]
    refine ⟨h.distinct, List.nodup_singleton _, ?_⟩
    intro id hmem id' hmem' heq
    rw [List.map_singleton, List.mem_singleton] at hmem'
    obtain ⟨hold, hhold, rfl⟩ := List.mem_map.1 hmem
    rw [hmem'] at heq
    rw [← h.holds] at hhold
    have hid' : hold.reservationId = r.reservationId := heq
    refine hfresh ?_
    rw [← hid']
    exact ids_holds t.store tenantId hold hhold
  · intro x' hx'
    rcases List.mem_append.1 hx' with hx' | hx'
    · exact h.sound x' hx'
    · rw [List.mem_singleton.1 hx', hheld]
      intro h' hh'
      rw [← Option.some.inj hh']
      exact ⟨htenant, hunits, hpos⟩
  · intro now' hnow x' hx'
    obtain ⟨hold, hnew⟩ := reached_concat hnow
    rcases List.mem_append.1 hx' with hx' | hx'
    · exact h.reached now' hold x' hx'
    · rw [List.mem_singleton.1 hx', hheld, hhanded]
      refine ⟨fun h' hh' => ?_, nofun⟩
      rw [← Option.some.inj hh']
      exact hsince'.trans (hevent.trans hnew)
  · intro x' hx' process c heq
    rcases List.mem_append.1 hx' with hx' | hx'
    · exact hgrows process _ (h.known x' hx' process c heq)
    · rw [List.mem_singleton.1 hx'] at heq
      rw [heq] at hheld
      cases hheld
  · intro x' hx' hnone
    rcases List.mem_append.1 hx' with hx' | hx'
    · exact h.handed x' hx' hnone
    · rw [List.mem_singleton.1 hx'] at hnone ⊢
      exact hhanded
  · exact (stored_reserve t.store r recordedAt tenantId).trans h.stored
  · intro now' p' hget' window hwindow moment
    have hold := h.limited now' p' hget' window hwindow moment
    rw [hholds, ← h.holds, List.map_append, List.sum_append, List.map_singleton, List.sum_singleton]
    by_cases hin : window.cutoff (since svc.control σ r recordedAt) = window.cutoff moment
    · -- the reservations of the window lie behind the cutoff that the limit was checked with
      have hsum : ((QuotaStore.holds svc.control t.store tenantId).map (·.within window moment)).sum ≤
          used svc.control t.store tenantId (window.cutoff r.reservedAt) := by
        rw [used_holds]
        refine sum_le_sum fun hold hmem => ?_
        rw [h.holds] at hmem
        obtain ⟨x', hx', hhold⟩ := List.mem_filterMap.1 hmem
        have hunits' : 0 ≤ hold.units := by
          obtain ⟨h', hh', rfl⟩ := Option.map_eq_some_iff.1 hhold
          obtain ⟨-, hu, hp⟩ := h.sound x' hx' h' hh'
          show 0 ≤ h'.reservation.units
          omega
        unfold Hold.within Hold.behind
        by_cases hwithin : window.cutoff hold.since = window.cutoff moment
        · have hle : window.cutoff r.reservedAt ≤ hold.since := by
            have h1 := cutoff_mono hwindow hsince
            rw [hin, ← hwithin] at h1
            exact h1.trans (cutoff_le hwindow)
          rw [if_pos hwithin, if_pos hle]
        · rw [if_neg hwithin]
          split
          · exact hunits'
          · exact le_refl _
      have hlimit := hquota window hwindow
      rw [hlimits now' p' hget' now p hget window hwindow] at hlimit
      unfold Hold.within at hsum ⊢
      dsimp only
      omega
    · have hzero : Hold.within window moment ⟨r.reservationId, r.units, since svc.control σ r recordedAt⟩ = 0 :=
        if_neg hin
      rw [hzero, add_zero]
      exact hold

theorem QuotaInv.release (h : QuotaInv svc draws tenantId s₀ events t) {now : Time}
    (hpid : t.submissions[pid]? = some x) (hx : x.held = some held) (hy : y.held = none) (hhanded : y.handedAt = none)
    (hwaiting : ∀ process c, y ≠ .waiting process c none) :
    QuotaInv svc draws tenantId s₀ (events ++ [event])
      { t with
        store := PolicyStore.release svc.control held.reservation now t.store
        submissions := t.submissions.set pid y } := by
  have hmem : x ∈ t.submissions := List.mem_of_getElem? hpid
  have htenant := (h.sound x hmem held hx).1
  have hid := ids_holds t.store tenantId ⟨held.reservation.reservationId, held.reservation.units, held.since⟩
    (by rw [h.holds]; exact List.mem_filterMap.2 ⟨x, hmem, hold_of_held hx⟩)
  have hholds : QuotaStore.holds svc.control (PolicyStore.release svc.control held.reservation now t.store) tenantId =
      (t.submissions.filterMap Submission.hold).filter fun r => decide (r.reservationId ≠ held.reservation.reservationId) := by
    rw [← htenant, holds_release, htenant, h.holds]
  have hset : (t.submissions.set pid y).filterMap Submission.hold =
      (t.submissions.filterMap Submission.hold).filter fun r => decide (r.reservationId ≠ held.reservation.reservationId) :=
    filterMap_drop hpid (hold_of_held hx) (hold_none hy) h.distinct
  refine ⟨?_, ?_, ?_, ?_, ?_, ?_, ?_, ?_, ?_⟩
  · rw [hset]
    exact hholds
  · intro id hmem'
    rcases ids_release t.store held.reservation now id hmem' with rfl | hmem'
    · exact h.ids _ hid
    · exact h.ids id hmem'
  · rw [hset]
    exact h.distinct.sublist (List.filter_sublist.map _)
  · intro x' hx'
    rcases List.mem_or_eq_of_mem_set hx' with hx' | rfl
    · exact h.sound x' hx'
    · rw [hy]
      exact nofun
  · intro now' hnow x' hx'
    rcases List.mem_or_eq_of_mem_set hx' with hx' | rfl
    · exact h.reached now' (reached_concat hnow).1 x' hx'
    · rw [hy, hhanded]
      exact ⟨nofun, nofun⟩
  · intro x' hx' process c heq
    rcases List.mem_or_eq_of_mem_set hx' with hx' | rfl
    · exact h.known x' hx' process c heq
    · exact absurd heq (hwaiting process c)
  · intro x' hx' hnone
    rcases List.mem_or_eq_of_mem_set hx' with hx' | rfl
    · exact h.handed x' hx' hnone
    · exact hhanded
  · exact (stored_release t.store held.reservation now tenantId).trans h.stored
  · intro now' p hget window hwindow moment
    refine le_trans ?_ (h.limited now' p hget window hwindow moment)
    rw [hholds, ← hset, h.holds, sum_filterMap, sum_filterMap, sum_set hpid, hold_none hy, hold_of_held hx]
    have hunits : 0 ≤ Hold.within window moment ⟨held.reservation.reservationId, held.reservation.units, held.since⟩ := by
      obtain ⟨-, hu, hp⟩ := h.sound x hmem held hx
      unfold Hold.within
      split
      · show 0 ≤ held.reservation.units
        omega
      · exact le_refl _
    rw [Option.map_none, Option.getD_none, Option.map_some, Option.getD_some]
    omega

omit [QuotaStore svc.control σ] in
theorem limits_of_stored {s s' : σ} (h : Production.stored svc.control s tenantId = Production.stored svc.control s' tenantId)
    {now now' : Time} {p p' : EmailProductionPolicy} (hget : get svc.control tenantId now s = .ok p)
    (hget' : get svc.control tenantId now' s' = .ok p') (hwindow : window ∈ windows) :
    window.limit p = window.limit p' := by
  rcases hstored : Production.stored svc.control s tenantId with _ | q
  · rw [get_none hstored] at hget
    rw [get_none (h.symm.trans hstored)] at hget'
    rw [← Except.ok.inj hget, ← Except.ok.inj hget']
    unfold windows at hwindow
    simp only [List.mem_cons, List.not_mem_nil, or_false] at hwindow
    rcases hwindow with rfl | rfl | rfl <;> rfl
  · rw [get_some hstored] at hget
    rw [get_some (h.symm.trans hstored)] at hget'
    rw [Except.ok.inj (hget.symm.trans hget')]

theorem QuotaInv.step (h : QuotaInv svc draws tenantId s₀ events t) (hclock : Clocked svc tenantId (events ++ [event])) :
    QuotaInv svc draws tenantId s₀ (events ++ [event]) (t.step svc draws event) := by
  have hidle : QuotaInv svc draws tenantId s₀ (events ++ [event]) t :=
    ⟨h.holds, h.ids, h.distinct, h.sound, fun now hnow => h.reached now (reached_concat hnow).1, h.known, h.handed, h.stored, h.limited⟩
  cases event with
  | begin process c d g now =>
    obtain ⟨htenant, hchannel, hreserved, hrecorded⟩ :=
      hclock.begun process c d g now (List.mem_append_right _ (List.mem_singleton_self _))
    have hbegins := begins draws t process c d g now
    generalize t.step svc draws (.begin process c d g now) = t' at hbegins ⊢
    cases hbegins with
    | waits => exact hidle
    | refused caches drawn e hgrows hdrawn => exact h.join hgrows hdrawn rfl rfl fun _ _ heq => absurd heq refused_ne
    | known caches hgrows hkey =>
      refine h.join hgrows (Nat.le_succ _) rfl rfl ?_
      rintro process' c' heq
      obtain ⟨rfl, rfl, -⟩ := Submission.waiting.inj heq
      exact hkey
    | reserved caches p r hgrows hget hquota hr =>
      subst hr
      refine h.reserve g.now p hgrows rfl rfl rfl ?_ htenant rfl hreserved hrecorded ?_ ?_ ?_
      · show (1 : Int) ≤ (c.request.request.recipients.length : Int)
        exact_mod_cast recipients_pos hchannel
      · rw [← htenant]
        exact hget
      · rw [← htenant]
        exact hquota
      · intro now₀ p₀ hget₀ now' p' hget' window hwindow
        exact limits_of_stored h.stored hget' hget₀ hwindow
  | submit pid now =>
    by_cases hwaits : ∃ process c held, t.submissions[pid]? = some (.waiting process c held)
    · obtain ⟨process, c, held, hpid⟩ := hwaits
      obtain ⟨caches, ledger, hgrows, heq⟩ := step_submit draws now hpid
      rw [heq]
      have hmem := List.mem_of_getElem? hpid
      cases held with
      | none =>
        have hkey := h.known _ hmem process c rfl
        have hhanding : handing svc.toService c (t.caches process) now = none := by
          rcases handing_eq svc c (t.caches process) now with ⟨hnone, -⟩ | ⟨-, hhands⟩
          · exact hnone
          · exact absurd hhands (not_handsOver_of_known hkey)
        rw [hhanding]
        exact h.goOn hgrows hpid rfl rfl (fun handed hhanded => absurd hhanded (Option.not_mem_none _)) (fun _ => rfl) fun _ _ => done_ne
      | some held =>
        rcases answered_cases svc c held (t.caches process) t.ledger now with
          ⟨-, -, answer, hanswered⟩ | ⟨-, -, answer, hanswered⟩ | ⟨-, -, answer, hanswered⟩
        · rw [hanswered]
          refine h.goOn hgrows hpid rfl rfl ?_ ?_ fun _ _ => releasing_ne
          · exact fun handed hhanded => absurd hhanded (Option.not_mem_none _)
          · exact fun hnone => absurd hnone (Option.some_ne_none _)
        · rw [hanswered]
          refine h.goOn hgrows hpid rfl rfl ?_ ?_ fun _ _ => done_ne
          · exact fun handed hhanded => (Option.some.inj hhanded).symm
          · exact fun hnone => absurd hnone (Option.some_ne_none _)
        · rw [hanswered]
          refine h.goOn hgrows hpid rfl rfl ?_ ?_ fun _ _ => done_ne
          · exact fun handed hhanded => absurd hhanded (Option.not_mem_none _)
          · exact fun hnone => absurd hnone (Option.some_ne_none _)
    · rw [step_submit_idle fun process c held heq => hwaits ⟨process, c, held, heq⟩]
      exact hidle
  | release pid now =>
    by_cases hreleases : ∃ c held answer, t.submissions[pid]? = some (.releasing c held answer)
    · obtain ⟨c, held, answer, hpid⟩ := hreleases
      rw [step_release hpid]
      exact h.release hpid rfl rfl rfl fun _ _ => done_ne
    · rw [step_release_idle fun c held answer heq => hreleases ⟨c, held, answer, heq⟩]
      exact hidle

end Invariant

/-! ## The start -/

section Start

variable {svc : GatedService} {draws : Draws} {σ : Type} [PolicyStore svc.control σ]

theorem modelValidate_limits {lib : Library} {p p' : EmailProductionPolicy} (h : p.modelValidate lib = .ok p')
    (hwindow : window ∈ windows) : 0 ≤ window.limit p' := by
  unfold EmailProductionPolicy.modelValidate at h
  split at h
  · split at h
    · rename_i hvalid
      have hbounded := (Bool.and_eq_true_iff.1 hvalid).1
      obtain ⟨hminute, -, hhour, -, hday, -⟩ :=
        of_decide_eq_true (Bool.and_eq_true_iff.1 (Bool.and_eq_true_iff.1 hbounded).1).2
      rw [← Except.ok.inj h]
      unfold windows at hwindow
      simp only [List.mem_cons, List.not_mem_nil, or_false] at hwindow
      rcases hwindow with rfl | rfl | rfl
      · exact hminute
      · exact hhour
      · exact hday
    · cases h
  · cases h

theorem run_limits (control : List Action) (tenantId : String) {p : EmailProductionPolicy} [LawfulStore svc.control σ]
    (hp : stored svc.control (run svc.control (σ := σ) control).store tenantId = some p)
    (hwindow : window ∈ windows) : 0 ≤ window.limit p := by
  have hall : ∀ tenantId p, stored svc.control (run svc.control (σ := σ) control).store tenantId = some p →
      0 ≤ window.limit p := by
    refine runFrom_invariant (I := fun w : World σ => ∀ tenantId p, stored svc.control w.store tenantId = some p →
      0 ≤ window.limit p) ?_ ?_
    · intro tenantId p hp
      rw [LawfulStore.stored_start] at hp
      cases hp
    · intro w act hw tenantId p hp
      rcases step_store svc.control act w with hidle | ⟨pid, now, c, m, -, -, hm, hstore⟩
      · rw [hidle] at hp
        exact hw tenantId p hp
      · rw [hstore, LawfulStore.stored_append] at hp
        split at hp
        · rw [← Option.some.inj hp]
          exact modelValidate_limits hm.changed hwindow
        · exact hw tenantId p hp
  exact hall tenantId p hp

variable [QuotaStore svc.control σ]

theorem run_holds (svc : GatedService) {σ : Type} [PolicyStore svc.control σ] [QuotaStore svc.control σ] (control : List Action) :
    (∀ tenantId, holds svc.control (run svc.control (σ := σ) control).store tenantId = []) ∧ ids svc.control (run svc.control (σ := σ) control).store = [] := by
  refine runFrom_invariant (I := fun w : World σ => (∀ tenantId, holds svc.control w.store tenantId = []) ∧
    ids svc.control w.store = []) ?_ ?_
  · exact ⟨holds_start, ids_start⟩
  · intro w act hw
    rcases step_store svc.control act w with hidle | ⟨pid, now, c, m, -, -, -, hstore⟩
    · rw [hidle]
      exact hw
    · rw [hstore]
      refine ⟨fun tenantId => ?_, ?_⟩
      · rw [holds_append]
        exact hw.1 tenantId
      · rw [ids_append]
        exact hw.2

theorem quotaInv_start [LawfulStore svc.control σ] (draws : Draws) (caches : Nat → Store) (ledger : MemoryCommandStore) (control : List Action)
    (tenantId : String) : QuotaInv svc draws tenantId (run svc.control (σ := σ) control).store []
      (Traffic.start svc (σ := σ) caches ledger control) := by
  obtain ⟨hholds, hids⟩ := run_holds svc (σ := σ) control
  refine ⟨hholds tenantId, ?_, List.nodup_nil, ?_, ?_, ?_, ?_, rfl, ?_⟩
  · intro id hmem
    have hmem' : id ∈ QuotaStore.ids svc.control (run svc.control (σ := σ) control).store := hmem
    rw [hids] at hmem'
    cases hmem'
  · intro x hx
    cases hx
  · intro now hnow x hx
    cases hx
  · intro x hx
    cases hx
  · intro x hx
    cases hx
  · intro now p hget window hwindow moment
    show ((holds svc.control (run svc.control (σ := σ) control).store tenantId).map _).sum ≤ _
    rw [hholds tenantId]
    rcases hstored : stored svc.control (run svc.control (σ := σ) control).store tenantId with _ | q
    · rw [get_none hstored] at hget
      rw [← Except.ok.inj hget]
      unfold windows at hwindow
      simp only [List.mem_cons, List.not_mem_nil, or_false] at hwindow
      rcases hwindow with rfl | rfl | rfl <;> exact le_refl _
    · rw [get_some hstored] at hget
      rcases LawfulStore.read_ok q p hget with rfl | hvalid
      · exact run_limits control tenantId hstored hwindow
      · exact modelValidate_limits hvalid hwindow

end Start

/-! ## Exact runs -/

section Runs

variable {svc : GatedService} {draws : Draws} {σ : Type} [PolicyStore svc.control σ] [QuotaStore svc.control σ] {tenantId : String}
  {s₀ : σ} {events : List (Event svc)} {event : Event svc} {t : Traffic svc σ} {now : Time} {window : Window}

/-- A command was handed over in the minute of its reservation, or the reservation without one is of an earlier day. -/
def Settled (events : List (Event svc)) (held : Held) : Option Time → Prop
  | some handed => minute.cutoff held.since = minute.cutoff handed
  | none => ∀ now, Reached svc events now → held.since < day.cutoff now

def Kept (events : List (Event svc)) (t : Traffic svc σ) : Prop :=
  ∀ x ∈ t.submissions, ∀ c held handedAt answer, x = .done c (some held) handedAt answer → Settled events held handedAt

omit [PolicyStore svc.control σ] [QuotaStore svc.control σ] in
theorem Settled.later (h : Settled events held handedAt) (event : Event svc) :
    Settled (events ++ [event]) held handedAt := by
  cases handedAt with
  | some handed => exact h
  | none => exact fun now hnow => h now (reached_concat hnow).1

variable {c : Submit svc.library} {x : Submission svc}

omit [PolicyStore svc.control σ] [QuotaStore svc.control σ] in
theorem Kept.old (h : Kept events t) (hx : x ∈ t.submissions)
    (heq : x = .done c (some held) handedAt answer)
    (event : Event svc) : Settled (events ++ [event]) held handedAt :=
  (h x hx c held handedAt answer heq).later event

theorem Kept.step (h : Kept events t) (hevent : Accounted svc t event) : Kept (events ++ [event]) (t.step svc draws event) := by
  cases event with
  | begin process c d g now =>
    have hbegins := begins draws t process c d g now
    generalize t.step svc draws (.begin process c d g now) = t' at hbegins ⊢
    intro x hx c' held handedAt answer heq
    cases hbegins with
    | waits => exact h.old hx heq _
    | refused caches drawn e hgrows hdrawn =>
      rcases List.mem_append.1 hx with hx | hx
      · exact h.old hx heq _
      · rw [List.mem_singleton.1 hx] at heq
        cases heq
    | known caches hgrows hkey =>
      rcases List.mem_append.1 hx with hx | hx
      · exact h.old hx heq _
      · rw [List.mem_singleton.1 hx] at heq
        cases heq
    | reserved caches p r hgrows hget hquota hr =>
      rcases List.mem_append.1 hx with hx | hx
      · exact h.old hx heq _
      · rw [List.mem_singleton.1 hx] at heq
        cases heq
  | submit pid now =>
    by_cases hwaits : ∃ process c held, t.submissions[pid]? = some (.waiting process c held)
    · obtain ⟨process, c, held, hpid⟩ := hwaits
      obtain ⟨caches, ledger, hgrows, hstep⟩ := step_submit draws now hpid
      rw [hstep]
      intro x hx c' held' handedAt answer heq
      rcases List.mem_or_eq_of_mem_set hx with hx | rfl
      · exact h.old hx heq _
      · cases held with
        | none =>
          obtain ⟨-, hheld, -⟩ := Submission.done.inj heq
          cases hheld
        | some held =>
          obtain ⟨hhanded, hfailed⟩ := hevent process c held hpid
          rcases answered_cases svc c held (t.caches process) t.ledger now with
            ⟨-, -, answer', hanswered⟩ | ⟨hhands, -, answer', hanswered⟩ | ⟨-, hfails, answer', hanswered⟩
          · rw [hanswered] at heq
            cases heq
          · rw [hanswered] at heq
            obtain ⟨-, hheld, rfl, -⟩ := Submission.done.inj heq
            rw [← Option.some.inj hheld]
            exact hhanded hhands
          · rw [hanswered] at heq
            obtain ⟨-, hheld, rfl, -⟩ := Submission.done.inj heq
            rw [← Option.some.inj hheld]
            intro now' hnow
            exact lt_of_lt_of_le (hfailed hfails) (cutoff_mono day_mem (reached_concat hnow).2)
    · rw [step_submit_idle fun process c held heq => hwaits ⟨process, c, held, heq⟩]
      exact fun x hx c held handedAt answer heq => h.old hx heq _
  | release pid now =>
    by_cases hreleases : ∃ c held answer, t.submissions[pid]? = some (.releasing c held answer)
    · obtain ⟨c, held, answer, hpid⟩ := hreleases
      rw [step_release hpid]
      intro x hx c' held' handedAt answer' heq
      rcases List.mem_or_eq_of_mem_set hx with hx | rfl
      · exact h.old hx heq _
      · obtain ⟨-, hheld, -⟩ := Submission.done.inj heq
        cases hheld
    · rw [step_release_idle fun c held answer heq => hreleases ⟨c, held, answer, heq⟩]
      exact fun x hx c held handedAt answer heq => h.old hx heq _

theorem behind_held {x : Submission svc} {held : Held} (h : x.held = some held) (cutoff : Time) :
    x.behind cutoff = if cutoff ≤ held.since then held.reservation.units else 0 := by
  unfold Submission.behind
  rw [hold_of_held h]
  rfl

theorem QuotaInv.account (h : QuotaInv svc draws tenantId s₀ events t) (hkept : Kept events t) (hnow : Reached svc events now)
    (hwindow : window ∈ windows) {x : Submission svc} (hx : x ∈ t.submissions) :
    x.behind (window.cutoff now) = x.handedIn window now + x.pending (window.cutoff now) := by
  cases x with
  | refused e => rfl
  | waiting process c held => exact (zero_add _).symm
  | releasing c held answer => exact (zero_add _).symm
  | done c held handedAt answer =>
    show _ = _ + 0
    rw [add_zero]
    cases held with
    | none =>
      have hnone : handedAt = none := h.handed _ hx rfl
      rw [hnone]
      rfl
    | some held =>
      rw [behind_held rfl]
      obtain ⟨hsince, hhanded⟩ := h.reached now hnow _ hx
      have hsince' : held.since ≤ now := hsince held rfl
      obtain ⟨-, hunits, -⟩ := h.sound _ hx held rfl
      have haccount := hkept _ hx c held handedAt answer rfl
      cases handedAt with
      | none =>
        have hlt : held.since < day.cutoff now := haccount now hnow
        rw [if_neg (not_le.2 (lt_of_lt_of_le hlt (day_le hwindow)))]
        rfl
      | some handed =>
        have hsame : window.cutoff held.since = window.cutoff handed := cutoff_minute hwindow haccount
        show _ = if window.cutoff handed = window.cutoff now then _ else 0
        rw [← hsame]
        by_cases hcut : window.cutoff now ≤ held.since
        · rw [if_pos hcut, if_pos (cutoff_of_le hwindow hcut hsince')]
          exact hunits
        · rw [if_neg hcut, if_neg]
          intro heq
          rw [← heq] at hcut
          exact hcut (cutoff_le hwindow)

/-- A command that was handed over in a window was reserved in it. -/
theorem QuotaInv.handedIn_le (h : QuotaInv svc draws tenantId s₀ events t) (hkept : Kept events t) (hwindow : window ∈ windows)
    (hx : x ∈ t.submissions) : x.handedIn window now ≤ ((x.hold.map (·.within window now)).getD 0) := by
  have hnonneg : 0 ≤ ((x.hold.map (·.within window now)).getD 0) := by
    rcases hheld : x.held with _ | held
    · rw [hold_none hheld]
      exact le_refl _
    · obtain ⟨-, hunits, hpos⟩ := h.sound x hx held hheld
      rw [hold_of_held hheld]
      show 0 ≤ Hold.within window now ⟨_, held.reservation.units, _⟩
      unfold Hold.within
      split
      · show 0 ≤ held.reservation.units
        omega
      · exact le_refl _
  rcases hhanded : x.handedAt with _ | handed
  · unfold Submission.handedIn
    rw [hhanded]
    exact hnonneg
  · cases x with
    | refused e => cases hhanded
    | waiting process c held => cases hhanded
    | releasing c held answer => cases hhanded
    | done c held handedAt answer =>
      cases held with
      | none => exact absurd ((h.handed _ hx rfl).symm.trans hhanded) nofun
      | some held =>
        have hat : handedAt = some handed := hhanded
        subst hat
        have haccount := hkept _ hx c held _ answer rfl
        obtain ⟨-, hunits, -⟩ := h.sound _ hx held rfl
        show (if window.cutoff handed = window.cutoff now then _ else 0) ≤ Hold.within window now ⟨_, held.reservation.units, held.since⟩
        unfold Hold.within
        rw [cutoff_minute hwindow haccount, hunits]

theorem Clocked.take {before after : List (Event svc)} (h : Clocked svc tenantId (before ++ after)) : Clocked svc tenantId before where
  ordered := by
    have hordered := h.ordered
    rw [List.map_append, List.pairwise_append] at hordered
    exact hordered.1
  begun process c d g now hmem := h.begun process c d g now (List.mem_append_left _ hmem)

theorem Clocked.reached {before after : List (Event svc)} (h : Clocked svc tenantId (before ++ event :: after)) :
    Reached svc before event.now := by
  have hordered := h.ordered
  rw [List.map_append, List.map_cons, List.pairwise_append] at hordered
  exact fun e he => hordered.2.2 _ (List.mem_map_of_mem he) _ List.mem_cons_self

theorem QuotaInv.run (h : QuotaInv svc draws tenantId s₀ [] t) (hclock : Clocked svc tenantId events) :
    QuotaInv svc draws tenantId s₀ events (t.after svc draws events) := by
  induction events using List.reverseRecOn with
  | nil => exact h
  | append_singleton before event ih =>
    unfold Traffic.after
    rw [runFrom_concat]
    exact (ih hclock.take).step hclock

omit [PolicyStore svc.control σ] [QuotaStore svc.control σ] in
theorem sum_handedIn_pending (t : Traffic svc σ) (now : Time) (window : Window) : t.handedIn window now + t.pending (window.cutoff now) =
    (t.submissions.map fun x => x.handedIn window now + x.pending (window.cutoff now)).sum :=
  (List.sum_map_add ..).symm

/-- What the reservations of the submissions count behind a cutoff is what the store counts. -/
theorem QuotaInv.used_eq (h : QuotaInv svc draws tenantId s₀ events t) (cutoff : Time) :
    used svc.control t.store tenantId cutoff = (t.submissions.map (·.behind cutoff)).sum := by
  rw [QuotaStore.used_holds, h.holds, sum_filterMap]
  rfl

theorem QuotaInv.reported_iff (h : QuotaInv svc draws tenantId s₀ events t) (now : Time) :
    (quotaStatus svc.control tenantId now t.store = windows.map fun window =>
        (window.name, t.handedIn window now + t.pending (window.cutoff now))) ↔
      ∀ window ∈ windows, (t.submissions.map (·.behind (window.cutoff now))).sum =
        (t.submissions.map fun x => x.handedIn window now + x.pending (window.cutoff now)).sum := by
  unfold quotaStatus
  rw [List.map_inj_left]
  refine forall₂_congr fun window hwindow => ?_
  rw [Prod.mk.injEq, h.used_eq, sum_handedIn_pending]
  exact ⟨fun heq => heq.2, fun heq => ⟨rfl, heq⟩⟩

theorem exact_of_always (h : QuotaInv svc draws tenantId t.store [] t) (hkept : Kept [] t) (hclock : Clocked svc tenantId events)
    (haccounted : Always (Traffic.step svc draws) (Accounted svc) t events) : Exact svc draws t tenantId events := by
  have hall : ∀ before, before <+: events →
      QuotaInv svc draws tenantId t.store before (t.after svc draws before) ∧ Kept before (t.after svc draws before) := by
    intro before hbefore
    refine ⟨?_, (haccounted.take hbefore).induction (I := Kept) hkept fun _ _ _ hI hevent => hI.step hevent⟩
    obtain ⟨after, rfl⟩ := hbefore
    exact h.run hclock.take
  constructor
  · intro before hbefore now p hget window hwindow moment
    obtain ⟨hinv, hsettled⟩ := hall before hbefore
    calc (t.after svc draws before).handedIn window moment
      _ ≤ ((t.after svc draws before).submissions.map fun x => (x.hold.map (·.within window moment)).getD 0).sum :=
        sum_le_sum fun x hx => hinv.handedIn_le hsettled hwindow hx
      _ = ((QuotaStore.holds svc.control (t.after svc draws before).store tenantId).map (·.within window moment)).sum := by
        rw [hinv.holds, sum_filterMap]
      _ ≤ window.limit p := hinv.limited now p hget window hwindow moment
  · intro before hbefore now hnow
    obtain ⟨hinv, hsettled⟩ := hall before hbefore
    refine (hinv.reported_iff now).2 fun window hwindow => ?_
    exact congrArg List.sum (List.map_congr_left fun x hx => hinv.account hsettled hnow hwindow hx)

theorem submit_balanced (hexact : Exact svc draws t tenantId events) (h : QuotaInv svc draws tenantId t.store [] t)
    (hclock : Clocked svc tenantId events) {before after : List (Event svc)} {pid : Nat}
    (heq : events = before ++ Event.submit pid now :: after)
    (hpid : (t.after svc draws before).submissions[pid]? = some (.waiting process c (some held))) (hwindow : window ∈ windows)
    {y : Submission svc} (hy : answered svc c (some held) (handing svc.toService c ((t.after svc draws before).caches process) now)
      (svc.submitMessage c ⟨(t.after svc draws before).caches process, (t.after svc draws before).ledger⟩).1 = y) :
    y.handedIn window now + y.pending (window.cutoff now) = if window.cutoff now ≤ held.since then held.reservation.units else 0 := by
  subst heq
  have hreached : Reached svc before now := hclock.reached
  have hinv : QuotaInv svc draws tenantId t.store before (t.after svc draws before) := h.run hclock.take
  have hold := (hinv.reported_iff now).1 (hexact.reported before (List.prefix_append _ _) now hreached) window hwindow
  have hnext : before ++ [Event.submit pid now] <+: before ++ Event.submit pid now :: after := ⟨after, by simp⟩
  have hnew := hexact.reported _ hnext now fun e he => (List.mem_append.1 he).elim (hreached e) fun he => by
    rw [List.mem_singleton.1 he]
    exact le_refl _
  have hinv' : QuotaInv svc draws tenantId t.store (before ++ [Event.submit pid now]) (t.after svc draws (before ++ [Event.submit pid now])) := by
    have hclock' := hclock
    rw [List.append_cons] at hclock'
    exact h.run hclock'.take
  have hnew := (hinv'.reported_iff now).1 hnew window hwindow
  obtain ⟨caches, ledger, -, hstep⟩ := step_submit draws now hpid
  have hafter : t.after svc draws (before ++ [Event.submit pid now]) = (t.after svc draws before).step svc draws (.submit pid now) :=
    runFrom_concat
  rw [hafter, hstep, hy] at hnew
  have hbehind : y.behind (window.cutoff now) = if window.cutoff now ≤ held.since then held.reservation.units else 0 := by
    rw [← hy]
    unfold answered
    dsimp only
    split
    · exact behind_held rfl _
    · exact behind_held rfl _
  have hwaiting : (Submission.waiting process c (some held)).behind (window.cutoff now) = y.behind (window.cutoff now) := by
    rw [hbehind]
    exact behind_held rfl _
  have hpending : (Submission.waiting process c (some held)).handedIn window now +
      (Submission.waiting process c (some held)).pending (window.cutoff now) = y.behind (window.cutoff now) := by
    rw [← hwaiting]
    exact zero_add _
  rw [sum_set hpid, sum_set hpid, hold, hwaiting, hpending] at hnew
  omega

theorem always_of_exact (hexact : Exact svc draws t tenantId events) (h : QuotaInv svc draws tenantId t.store [] t)
    (hclock : Clocked svc tenantId events) : Always (Traffic.step svc draws) (Accounted svc) t events := by
  rw [always_iff]
  rintro before event after heq
  cases event with
  | begin process c d g now => trivial
  | release pid now => trivial
  | submit pid now =>
    intro process c held hpid
    have hbalanced := fun window (hwindow : window ∈ windows) => submit_balanced hexact h hclock heq hpid hwindow rfl
    subst heq
    have hinv : QuotaInv svc draws tenantId t.store before (t.after svc draws before) := h.run hclock.take
    have hmem := List.mem_of_getElem? hpid
    have hsince : held.since ≤ now := (hinv.reached now hclock.reached _ hmem).1 held rfl
    obtain ⟨-, hunits, hpos⟩ := hinv.sound _ hmem held rfl
    rcases answered_cases svc c held ((t.after svc draws before).caches process) (t.after svc draws before).ledger now with
      ⟨hnone, hfine, answer, hanswered⟩ | ⟨hhands, hfine, answer, hanswered⟩ | ⟨hnone, hfails, answer, hanswered⟩
    · exact ⟨fun hhands => absurd hhands hnone, fun hfails => absurd hfails hfine⟩
    · refine ⟨fun _ => ?_, fun hfails => absurd hfails hfine⟩
      -- the recipients count in the minute they are handed over in, so the reservation counts in it too
      have hbalance := hbalanced minute minute_mem
      rw [hanswered] at hbalance
      refine cutoff_of_le minute_mem (le_of_not_gt fun hlt => ?_) hsince
      rw [if_neg (not_le.2 hlt)] at hbalance
      have hcount : (if minute.cutoff now = minute.cutoff now then (c.request.request.recipients.length : Int) else 0) + 0 = 0 := hbalance
      rw [if_pos rfl] at hcount
      have hlength : held.reservation.units = c.request.request.recipients.length := hunits
      omega
    · refine ⟨fun hhands => absurd hhands hnone, fun _ => ?_⟩
      have hbalance := hbalanced day day_mem
      rw [hanswered] at hbalance
      refine lt_of_not_ge fun hle => ?_
      rw [if_pos hle] at hbalance
      have hcount : (0 : Int) + 0 = held.reservation.units := hbalance
      omega

theorem exact_iff [LawfulStore svc.control σ] (caches : Nat → Store) (ledger : MemoryCommandStore) (control : List Action)
    (hclock : Clocked svc tenantId events) : Exact svc draws (Traffic.start svc (σ := σ) caches ledger control) tenantId events ↔
      Always (Traffic.step svc draws) (Accounted svc) (Traffic.start svc (σ := σ) caches ledger control) events :=
  have hstart := quotaInv_start draws caches ledger control tenantId
  ⟨fun hexact => always_of_exact hexact hstart hclock, fun haccounted => exact_of_always hstart (fun _ hx => nomatch hx) hclock haccounted⟩

end Runs

/-- The domain of the sender is in order. -/
def domainSettings : Settings :=
  { sampleSettings with domainRegistry := .ok [("x.co", ⟨true, false, false, true, true⟩)] }

def domainAuthorize : AuthorizeEmailProduction :=
  { sampleAuthorize with
    approvedDomains := ["x.co"], approvedSenders := ["desk@x.co"], approvedRecipients := ["b@y.co"], perMinuteLimit := 5
    perHourLimit := 5, perDayLimit := 5 }

def domainCall (idempotencyKey : String) (body : ControlBody) : Call := { sampleCall idempotencyKey body with tenantId := "t" }

/-- The policy is authorized, active, and its switch is open. -/
def opening : List Action :=
  [.begin domainSettings (domainCall "key-1" (.authorize domainAuthorize)) 1, .commit 0 1,
    .begin domainSettings (domainCall "key-2" (.activate ⟨2, "start"⟩)) 2, .commit 1 2]

def sampleDraws : Draws where
  uuid4 i := String.ofList (List.replicate i 'u')
  distinct i j h := by
    have hlist := congrArg (·.toList.length) h
    simpa using hlist

/-- The cache has no sender identity, so the shared part refuses the submission behind its reservation. -/
def unknownSender : List (Event sampleGate) :=
  [.begin 0 Communications.firstSubmit { sampleTables with suppressions := [] } ⟨"", 3, 3, 3, 3⟩ 3, .submit 0 3]

theorem unknownSender_clocked : Clocked sampleGate "t" unknownSender where
  ordered := by decide
  begun process c d g now hmem := by
    rcases List.mem_cons.1 hmem with heq | hmem
    · obtain ⟨rfl, rfl, rfl, rfl, rfl⟩ := Event.begin.inj heq
      exact ⟨rfl, rfl, by decide, by decide⟩
    · rcases List.mem_singleton.1 hmem with heq
      cases heq

end Middleware.Production
