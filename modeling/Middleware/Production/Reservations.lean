/-
The reservations of a tenant's quota, as both stores keep them: a reservation counts from one instant on, until it is released.
-/
import Middleware.Production.Control

namespace Middleware.Production

open Ledger Lib

/-! ## Windows -/

section Windows

variable {window : Window} {x y : Int}

/-- The windows are minutes, hours and days: a minute lies in one of each. -/
theorem window_lengths (h : window ∈ windows) :
    window.length = 60000000 ∨ window.length = 3600000000 ∨ window.length = 86400000000 := by
  rcases List.mem_cons.1 h with rfl | h
  · exact .inl rfl
  · rcases List.mem_cons.1 h with rfl | h
    · exact .inr (.inl rfl)
    · rw [List.mem_singleton.1 h]
      exact .inr (.inr rfl)

def minute : Window := ⟨"minute", (·.perMinuteLimit), 60000000⟩

def day : Window := ⟨"day", (·.perDayLimit), 86400000000⟩

theorem minute_mem : minute ∈ windows := List.mem_cons_self

theorem day_mem : day ∈ windows := List.mem_cons_of_mem _ (List.mem_cons_of_mem _ List.mem_cons_self)

theorem cutoff_le (h : window ∈ windows) : window.cutoff x ≤ x := by
  show (x - x % window.length : Int) ≤ (x : Int)
  rcases window_lengths h with hl | hl | hl <;> rw [hl] <;> omega

theorem cutoff_mono (h : window ∈ windows) (hle : x ≤ y) : window.cutoff x ≤ window.cutoff y := by
  show (x - x % window.length : Int) ≤ (y - y % window.length : Int)
  rcases window_lengths h with hl | hl | hl <;> rw [hl] <;> omega

/-- What lies behind the cutoff of a later instant lies in its window. -/
theorem cutoff_of_le (h : window ∈ windows) (hcut : window.cutoff y ≤ x) (hle : x ≤ y) : window.cutoff x = window.cutoff y := by
  have hcut' : (y - y % window.length : Int) ≤ (x : Int) := hcut
  show (x - x % window.length : Int) = (y - y % window.length : Int)
  rcases window_lengths h with hl | hl | hl <;> rw [hl] at hcut' ⊢ <;> omega

theorem cutoff_minute (h : window ∈ windows) (hminute : minute.cutoff x = minute.cutoff y) : window.cutoff x = window.cutoff y := by
  have hminute' : (x - x % 60000000 : Int) = (y - y % 60000000 : Int) := hminute
  show (x - x % window.length : Int) = (y - y % window.length : Int)
  rcases window_lengths h with hl | hl | hl <;> rw [hl] <;> omega

theorem day_le (h : window ∈ windows) : day.cutoff x ≤ window.cutoff x := by
  show (x - x % 86400000000 : Int) ≤ (x - x % window.length : Int)
  rcases window_lengths h with hl | hl | hl <;> rw [hl] <;> omega

end Windows

/-! ## Reservations -/

/-- A reservation that is not released, and the instant that it counts from. -/
structure Hold where
  reservationId : String
  units : Int
  since : Time

/-- The units of a reservation, if they count behind a cutoff. -/
def Hold.behind (cutoff : Time) (h : Hold) : Int := if cutoff ≤ h.since then h.units else 0

/-- How a store keeps its reservations. -/
class QuotaStore (lib : Library) (σ : Type) [PolicyStore lib σ] where
  holds : σ → String → List Hold
  /-- The identifiers of the reservations that the store has seen. -/
  ids : σ → List String
  /-- A reservation counts from its own instant, or from the one in which it is recorded. -/
  since : QuotaReservation → Time → Time
  since_ge : ∀ r recordedAt, r.reservedAt ≤ recordedAt → r.reservedAt ≤ since r recordedAt
  since_le : ∀ r recordedAt, r.reservedAt ≤ recordedAt → since r recordedAt ≤ recordedAt
  holds_start : ∀ tenantId, holds (PolicyStore.start lib) tenantId = []
  ids_start : ids (PolicyStore.start lib) = []
  holds_append : ∀ (s : σ) m tenantId, holds (append lib m s) tenantId = holds s tenantId
  ids_append : ∀ (s : σ) m, ids (append lib m s) = ids s
  used_holds : ∀ (s : σ) tenantId cutoff, used lib s tenantId cutoff = ((holds s tenantId).map (·.behind cutoff)).sum
  holds_reserve : ∀ (s : σ) r recordedAt, r.reservationId ∉ ids s → holds (PolicyStore.reserve lib r recordedAt s) r.tenantId =
    holds s r.tenantId ++ [⟨r.reservationId, r.units, since r recordedAt⟩]
  holds_release : ∀ (s : σ) r now, holds (PolicyStore.release lib r now s) r.tenantId =
    (holds s r.tenantId).filter fun h => decide (h.reservationId ≠ r.reservationId)
  ids_holds : ∀ (s : σ) tenantId, ∀ h ∈ holds s tenantId, h.reservationId ∈ ids s
  ids_reserve : ∀ (s : σ) r recordedAt, ∀ id ∈ ids (PolicyStore.reserve lib r recordedAt s), id = r.reservationId ∨ id ∈ ids s
  ids_release : ∀ (s : σ) r now, ∀ id ∈ ids (PolicyStore.release lib r now s), id = r.reservationId ∨ id ∈ ids s
  stored_reserve : ∀ (s : σ) r recordedAt tenantId, stored lib (PolicyStore.reserve lib r recordedAt s) tenantId = stored lib s tenantId
  stored_release : ∀ (s : σ) r now tenantId, stored lib (PolicyStore.release lib r now s) tenantId = stored lib s tenantId

theorem sum_behind (cutoff : Time) (l : List Hold) :
    ((l.filter fun h => decide (cutoff ≤ h.since)).map (·.units)).sum = (l.map (·.behind cutoff)).sum := by
  induction l with
  | nil => rfl
  | cons h rest ih =>
    rw [List.map_cons, List.sum_cons, ← ih, List.filter_cons]
    unfold Hold.behind
    by_cases hcut : cutoff ≤ h.since
    · rw [if_pos (decide_eq_true hcut), if_pos hcut, List.map_cons, List.sum_cons]
    · rw [if_neg fun hdecide => hcut (of_decide_eq_true hdecide), if_neg hcut, zero_add]

namespace MemoryEmailProductionPolicyStore

variable (s : MemoryEmailProductionPolicyStore)

/-- The reservation is one of the tenant's that are not released. -/
def isOpen (tenantId : String) (m : String × QuotaReservation) : Bool :=
  decide (m.2.tenantId = tenantId) && decide (m.2.reservationId ∉ s.quotaReleases)

def hold (m : String × QuotaReservation) : Hold := ⟨m.2.reservationId, m.2.units, m.2.reservedAt⟩

def holds (tenantId : String) : List Hold := (s.quotaReservations.filter (s.isOpen tenantId)).map hold

def ids : List String := s.quotaReservations.keys ++ s.quotaReservations.map (·.2.reservationId) ++ s.quotaReleases

theorem used_holds (tenantId : String) (cutoff : Time) : s.used tenantId cutoff = ((s.holds tenantId).map (·.behind cutoff)).sum := by
  rw [← sum_behind]
  unfold used holds
  rw [List.filter_map, List.filter_filter, List.map_map]
  congr 2
  refine List.filter_congr fun m _ => ?_
  unfold isOpen
  rw [Bool.eq_iff_iff]
  simp only [Function.comp, hold, Bool.and_eq_true, decide_eq_true_iff]
  constructor
  · rintro ⟨htenant, hheld, hcut⟩
    exact ⟨decide_eq_true hcut, htenant, hheld⟩
  · rintro ⟨hcut, htenant, hheld⟩
    exact ⟨htenant, hheld, of_decide_eq_true hcut⟩

end MemoryEmailProductionPolicyStore

instance (lib : Library) : QuotaStore lib MemoryEmailProductionPolicyStore where
  holds s tenantId := s.holds tenantId
  ids s := s.ids
  since r _ := r.reservedAt
  since_ge _ _ _ := le_refl _
  since_le _ _ h := h
  holds_start _ := rfl
  ids_start := rfl
  holds_append _ _ _ := rfl
  ids_append _ _ := rfl
  used_holds s tenantId cutoff := s.used_holds tenantId cutoff
  holds_reserve s r recordedAt hnew := by
    have hkeys : r.reservationId ∉ s.quotaReservations.keys := fun h => hnew (List.mem_append_left _ (List.mem_append_left _ h))
    have hreleases : r.reservationId ∉ s.quotaReleases := fun h => hnew (List.mem_append_right _ h)
    have hopen : s.isOpen r.tenantId (r.reservationId, r) = true :=
      Bool.and_eq_true_iff.2 ⟨decide_eq_true rfl, decide_eq_true hreleases⟩
    show ((s.quotaReservations.set r.reservationId r).filter (s.isOpen r.tenantId)).map MemoryEmailProductionPolicyStore.hold = _
    rw [OrderedDict.set_new (OrderedDict.get_eq_none.2 hkeys), List.filter_append, List.map_append,
      List.filter_cons_of_pos hopen]
    rfl
  holds_release s r now := by
    show (s.quotaReservations.filter _).map MemoryEmailProductionPolicyStore.hold =
      ((s.quotaReservations.filter _).map MemoryEmailProductionPolicyStore.hold).filter _
    rw [List.filter_map, List.filter_filter]
    congr 1
    refine List.filter_congr fun m _ => ?_
    rw [Bool.eq_iff_iff]
    simp only [MemoryEmailProductionPolicyStore.isOpen, MemoryEmailProductionPolicyStore.hold, Function.comp, Bool.and_eq_true,
      decide_eq_true_iff]
    show _ ∧ m.2.reservationId ∉ s.quotaReleases.insert r.reservationId ↔ _
    rw [List.mem_insert_iff, not_or]
    constructor
    · rintro ⟨htenant, hne, hheld⟩
      exact ⟨decide_eq_true hne, htenant, hheld⟩
    · rintro ⟨hne, htenant, hheld⟩
      exact ⟨htenant, of_decide_eq_true hne, hheld⟩
  ids_holds s tenantId h hh := by
    obtain ⟨m, hm, rfl⟩ := List.mem_map.1 hh
    exact List.mem_append_left _ (List.mem_append_right _ (List.mem_map.2 ⟨m, (List.mem_filter.1 hm).1, rfl⟩))
  ids_reserve s r recordedAt id hid := by
    rcases List.mem_append.1 hid with hid | hid
    · rcases List.mem_append.1 hid with hid | hid
      · obtain ⟨m, hm, rfl⟩ := List.mem_map.1 hid
        rcases OrderedDict.mem_set hm with rfl | hm
        · exact .inl rfl
        · exact .inr (List.mem_append_left _ (List.mem_append_left _ (List.mem_map.2 ⟨m, hm, rfl⟩)))
      · obtain ⟨m, hm, rfl⟩ := List.mem_map.1 hid
        rcases OrderedDict.mem_set hm with rfl | hm
        · exact .inl rfl
        · exact .inr (List.mem_append_left _ (List.mem_append_right _ (List.mem_map.2 ⟨m, hm, rfl⟩)))
    · exact .inr (List.mem_append_right _ hid)
  ids_release s r now id hid := by
    rcases List.mem_append.1 hid with hid | hid
    · exact .inr (List.mem_append_left _ hid)
    · rcases List.mem_insert_iff.1 hid with rfl | hid
      · exact .inl rfl
      · exact .inr (List.mem_append_right _ hid)
  stored_reserve _ _ _ _ := rfl
  stored_release _ _ _ _ := rfl

namespace PostgresEmailProductionPolicyStore

variable (s : PostgresEmailProductionPolicyStore)

def isRelease (reservationId : String) (e : LedgerEvent) : Bool := e.released.any fun r => decide (r.reservationId = reservationId)

/-- The reservation of an event, unless one of the events releases it. -/
def hold (events : List LedgerEvent) (e : LedgerEvent) : Option Hold :=
  e.reserved.bind fun r => if events.any (isRelease r.reservationId) then none else some ⟨r.reservationId, r.units, e.recordedAt⟩

def holds (tenantId : String) : List Hold := (s.ofTenant tenantId).filterMap (hold (s.ofTenant tenantId))

/-- The identifiers of the reservations that are made or released. -/
def ids : List String :=
  s.ledger.filterMap fun e => match e.payload with
    | .policyChanged _ => none
    | .quotaReserved r => some r.reservationId
    | .quotaReleased r => some r.reservationId

variable (tenantId : String)

theorem used_holds (cutoff : Time) : s.used tenantId cutoff = ((s.holds tenantId).map (·.behind cutoff)).sum := by
  rw [← sum_behind]
  unfold used holds
  generalize s.ofTenant tenantId = events
  have hall : ∀ l : List LedgerEvent,
      (((l.filter fun e => decide (cutoff ≤ e.recordedAt) && e.reserved.any fun r =>
        !events.any fun x => x.released.any fun r' => decide (r'.reservationId = r.reservationId)).filterMap (·.reserved)).map
          (·.units)).sum =
        (((l.filterMap (hold events)).filter fun h => decide (cutoff ≤ h.since)).map (·.units)).sum := by
    intro l
    induction l with
    | nil => rfl
    | cons e rest ih =>
      rw [List.filter_cons, List.filterMap_cons]
      rcases hreserved : e.reserved with _ | r
      · have hnone : hold events e = none := by
          unfold hold
          rw [hreserved]
          rfl
        rw [hnone, Option.any_none, Bool.and_false]
        exact ih
      · rw [Option.any_some]
        by_cases hreleased : events.any (isRelease r.reservationId) = true
        · have hnone : hold events e = none := by
            unfold hold
            rw [hreserved, Option.bind_some, if_pos hreleased]
          have hany : (events.any fun x => x.released.any fun r' => decide (r'.reservationId = r.reservationId)) = true := hreleased
          rw [hnone, hany, Bool.not_true, Bool.and_false]
          exact ih
        · have hsome : hold events e = some ⟨r.reservationId, r.units, e.recordedAt⟩ := by
            unfold hold
            rw [hreserved, Option.bind_some, if_neg hreleased]
          have hany : (events.any fun x => x.released.any fun r' => decide (r'.reservationId = r.reservationId)) = false :=
            Bool.not_eq_true _ ▸ hreleased
          rw [hsome, hany, Bool.not_false, Bool.and_true]
          rw [List.filter_cons]
          by_cases hcut : cutoff ≤ e.recordedAt
          · rw [if_pos (decide_eq_true hcut), List.filterMap_cons, hreserved]
            rw [if_pos (decide_eq_true hcut), List.map_cons, List.sum_cons, List.map_cons, List.sum_cons, ih]
          · rw [if_neg fun h => hcut (of_decide_eq_true h), if_neg fun h => hcut (of_decide_eq_true h), ih]
  exact hall events

variable {e : LedgerEvent} {reservationId : String}

theorem isRelease_of_key
    (h : e.payload.idempotencyKey = "email-quota-release:" ++ reservationId) : isRelease reservationId e = true := by
  unfold LedgerPayload.idempotencyKey at h
  unfold isRelease LedgerEvent.released
  cases hpayload : e.payload with
  | policyChanged m =>
    rw [hpayload] at h
    unfold controlIdempotency at h
    generalize Sha256.hexdigest _ = digest at h
    have hlist := congrArg (fun text : String => text.toList.take 8) h
    simp at hlist
  | quotaReserved r =>
    rw [hpayload] at h
    have hlist := congrArg (fun text : String => text.toList.take 20) h
    simp at hlist
  | quotaReleased r =>
    rw [hpayload] at h
    have hlist := congrArg String.toList h
    simp only [String.toList_append] at hlist
    have hid : r.reservationId = reservationId := String.toList_inj.1 (List.append_cancel_left hlist)
    exact decide_eq_true hid

variable {r : QuotaReservation}

theorem mem_ids (he : e ∈ s.ledger)
    (h : e.payload = .quotaReserved r ∨ e.payload = .quotaReleased r) : r.reservationId ∈ s.ids := by
  refine List.mem_filterMap.2 ⟨e, he, ?_⟩
  rcases h with h | h <;> rw [h]

theorem ids_append (now : Time) (payload : LedgerPayload) : (s.append tenantId now payload).ids =
    s.ids ++ match payload with
      | .policyChanged _ => []
      | .quotaReserved r => [r.reservationId]
      | .quotaReleased r => [r.reservationId] := by
  show List.filterMap _ (s.ledger ++ [_]) = _
  rw [List.filterMap_append]
  congr 1
  cases payload <;> rfl

/-- Events that release nothing known leave the reservations alone. -/
theorem hold_append {events more : List LedgerEvent}
    (h : ∀ r, e.reserved = some r → more.any (isRelease r.reservationId) = false) : hold (events ++ more) e = hold events e := by
  unfold hold
  rcases hreserved : e.reserved with _ | r
  · rfl
  · rw [Option.bind_some, Option.bind_some, List.any_append, h r hreserved, Bool.or_false]

theorem mem_ofTenant {tenantId : String} (h : e ∈ s.ofTenant tenantId) : e ∈ s.ledger :=
  (List.mem_filter.1 h).1

theorem payload_of_reserved (h : e.reserved = some r) : e.payload = .quotaReserved r := by
  unfold LedgerEvent.reserved at h
  split at h
  · rename_i r' hpayload
    rw [hpayload, Option.some.inj h]
  · cases h

theorem payload_of_isRelease (h : isRelease reservationId e = true) :
    ∃ r, e.payload = .quotaReleased r ∧ r.reservationId = reservationId := by
  unfold isRelease LedgerEvent.released at h
  split at h
  · rename_i r hpayload
    exact ⟨r, hpayload, of_decide_eq_true h⟩
  · cases h

theorem holds_policyChanged (m : Mutation) (tenantId : String) :
    (s.append m.slot.tenantId m.createdAt (.policyChanged m)).holds tenantId = s.holds tenantId := by
  unfold holds
  rw [ofTenant_append]
  split
  · rw [List.filterMap_append]
    have hsame : ∀ e ∈ s.ofTenant tenantId,
        hold (s.ofTenant tenantId ++ [{ tenantId := m.slot.tenantId, recordedAt := m.createdAt, payload := .policyChanged m }]) e =
          hold (s.ofTenant tenantId) e := fun e _ => hold_append fun _ _ => rfl
    rw [List.filterMap_congr hsame]
    exact List.append_nil _
  · rw [List.append_nil]

variable (r : QuotaReservation)

theorem holds_reserve (now : Time) (hnew : r.reservationId ∉ s.ids) :
    (s.append r.tenantId now (.quotaReserved r)).holds r.tenantId =
      s.holds r.tenantId ++ [⟨r.reservationId, r.units, now⟩] := by
  unfold holds
  rw [ofTenant_append, if_pos rfl, List.filterMap_append]
  have hsame : ∀ e ∈ s.ofTenant r.tenantId,
      hold (s.ofTenant r.tenantId ++ [{ tenantId := r.tenantId, recordedAt := now, payload := .quotaReserved r }]) e =
        hold (s.ofTenant r.tenantId) e := fun e _ => hold_append fun _ _ => rfl
  rw [List.filterMap_congr hsame]
  congr 1
  -- nobody has released it yet
  have hheld : List.any (s.ofTenant r.tenantId ++ [⟨r.tenantId, now, .quotaReserved r⟩]) (isRelease r.reservationId) = false := by
    rw [List.any_eq_false]
    intro e he hrelease
    obtain ⟨r', hpayload, hid⟩ := payload_of_isRelease hrelease
    rcases List.mem_append.1 he with he | he
    · exact hnew (hid ▸ s.mem_ids (s.mem_ofTenant he) (.inr hpayload))
    · rw [List.mem_singleton.1 he] at hpayload
      cases hpayload
  have hself : hold (s.ofTenant r.tenantId ++ [{ tenantId := r.tenantId, recordedAt := now, payload := .quotaReserved r }])
      { tenantId := r.tenantId, recordedAt := now, payload := .quotaReserved r } = some ⟨r.reservationId, r.units, now⟩ := by
    unfold hold
    have hreserved : LedgerEvent.reserved ⟨r.tenantId, now, .quotaReserved r⟩ = some r := rfl
    rw [hreserved, Option.bind_some, hheld]
    rfl
  rw [List.filterMap_cons, hself]
  rfl

theorem holds_release (now : Time) :
    (s.release r now).holds r.tenantId = (s.holds r.tenantId).filter fun h => decide (h.reservationId ≠ r.reservationId) := by
  unfold release
  split
  · rename_i hknown
    obtain ⟨x, hx, hkey⟩ := List.any_eq_true.1 hknown
    have hreleased : (s.ofTenant r.tenantId).any (isRelease r.reservationId) = true :=
      List.any_eq_true.2 ⟨x, hx, isRelease_of_key (of_decide_eq_true hkey)⟩
    symm
    rw [List.filter_eq_self]
    intro h hh
    obtain ⟨e, he, hhold⟩ := List.mem_filterMap.1 hh
    refine decide_eq_true ?_
    rintro hid
    obtain ⟨r', hreserved, hopen⟩ := Option.bind_eq_some_iff.1 hhold
    split at hopen
    · cases hopen
    · rename_i hheld
      rw [← Option.some.inj hopen] at hid
      exact hheld (by rw [show r'.reservationId = r.reservationId from hid]; exact hreleased)
  · unfold holds
    rw [ofTenant_append, if_pos rfl, List.filterMap_append]
    have hlast : List.filterMap (hold (s.ofTenant r.tenantId ++
        [{ tenantId := r.tenantId, recordedAt := now, payload := .quotaReleased r }]))
          [{ tenantId := r.tenantId, recordedAt := now, payload := .quotaReleased r }] = [] := rfl
    rw [hlast, List.append_nil, List.filter_filterMap]
    refine List.filterMap_congr fun e _ => ?_
    unfold hold
    rcases hreserved : e.reserved with _ | r'
    · rfl
    · rw [Option.bind_some, Option.bind_some, List.any_append]
      by_cases hreleased : (s.ofTenant r.tenantId).any (isRelease r'.reservationId) = true
      · rw [hreleased, Bool.true_or, if_pos rfl]
        rfl
      · have hfalse : (s.ofTenant r.tenantId).any (isRelease r'.reservationId) = false := Bool.not_eq_true _ ▸ hreleased
        rw [hfalse, Bool.false_or]
        by_cases hid : r.reservationId = r'.reservationId
        · have hrelease : List.any [({ tenantId := r.tenantId, recordedAt := now, payload := .quotaReleased r } : LedgerEvent)]
              (isRelease r'.reservationId) = true := by
            simp [isRelease, LedgerEvent.released, hid]
          rw [hrelease, if_pos rfl, if_neg Bool.false_ne_true, Option.filter_some, if_neg]
          simp [hid]
        · have hrelease : List.any [({ tenantId := r.tenantId, recordedAt := now, payload := .quotaReleased r } : LedgerEvent)]
              (isRelease r'.reservationId) = false := by
            simp [isRelease, LedgerEvent.released, hid]
          rw [hrelease, if_neg Bool.false_ne_true, Option.filter_some, if_pos]
          simp [Ne.symm hid]

theorem mutations_quota (now : Time) (payload : LedgerPayload) (other : String)
    (h : LedgerEvent.mutation { tenantId, recordedAt := now, payload } = none) :
    (s.append tenantId now payload).mutations other = s.mutations other := by
  unfold mutations
  rw [ofTenant_append, List.filterMap_append]
  split
  · rw [List.filterMap_cons, h]
    exact List.append_nil _
  · exact List.append_nil _

end PostgresEmailProductionPolicyStore

instance (lib : Library) : QuotaStore lib PostgresEmailProductionPolicyStore where
  holds s tenantId := s.holds tenantId
  ids s := s.ids
  since _ recordedAt := recordedAt
  since_ge _ _ h := h
  since_le _ _ _ := le_refl _
  holds_start _ := rfl
  ids_start := rfl
  holds_append s m tenantId := s.holds_policyChanged m tenantId
  ids_append s m := by
    show (s.append _ _ _).ids = _
    rw [s.ids_append]
    exact List.append_nil _
  used_holds s tenantId cutoff := s.used_holds tenantId cutoff
  holds_reserve s r recordedAt hnew := s.holds_reserve r recordedAt hnew
  holds_release s r now := s.holds_release r now
  ids_holds s tenantId h hh := by
    obtain ⟨e, he, hhold⟩ := List.mem_filterMap.1 hh
    obtain ⟨r, hreserved, hopen⟩ := Option.bind_eq_some_iff.1 hhold
    split at hopen
    · cases hopen
    · rw [← Option.some.inj hopen]
      exact s.mem_ids (s.mem_ofTenant he) (.inl (PostgresEmailProductionPolicyStore.payload_of_reserved hreserved))
  ids_reserve s r recordedAt id hid := by
    have hid' : id ∈ (s.append r.tenantId recordedAt (.quotaReserved r)).ids := hid
    rw [s.ids_append, List.mem_append, List.mem_singleton] at hid'
    exact hid'.symm
  ids_release s r now id hid := by
    have hid' : id ∈ (s.release r now).ids := hid
    unfold PostgresEmailProductionPolicyStore.release at hid'
    split at hid'
    · exact .inr hid'
    · rw [s.ids_append, List.mem_append, List.mem_singleton] at hid'
      exact hid'.symm
  stored_reserve s r recordedAt tenantId := by
    show ((s.append _ _ _).mutations tenantId).getLast?.map _ = _
    rw [s.mutations_quota _ _ _ _ rfl]
    rfl
  stored_release s r now tenantId := by
    show ((s.release r now).mutations tenantId).getLast?.map _ = _
    unfold PostgresEmailProductionPolicyStore.release
    split
    · rfl
    · rw [s.mutations_quota _ _ _ _ rfl]
      rfl

end Middleware.Production
