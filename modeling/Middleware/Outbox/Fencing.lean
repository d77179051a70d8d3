/-
Fencing and counting over the runs of the outbox. `ACK_SQL` and `FAIL_SQL` look for a row in processing, not for the
claim of the worker that runs them, and a recovered lease is not counted as an attempt. So a worker that is still alive
when its row is claimed again settles the later claim; and while no row is claimed again before its earlier workers are
done, a row was claimed as often as it failed and was recovered.
-/
import Middleware.Lib.Runs
import Middleware.Outbox.Items

namespace Middleware.Outbox

open Ledger Lib

/-! ## What is promised -/

def World.row (w : World) (id : Uuid) : Option Item := rowAt Item.id id w.items

/-- The worker's claim is the latest one of its row. -/
def World.Latest (w : World) (worker : Nat) : Prop :=
  ∃ x, w.workers[worker]? = some x ∧ ∀ m y, worker < m → w.workers[m]? = some y → y.item ≠ x.item

/-- The worker that a step is a settling call of. -/
def Step.settler : Step → Option Nat
  | .acknowledge worker | .recordFailure worker .. => some worker
  | _ => none

/-- A worker changes its row only while its claim is the latest one. -/
def Fenced (redact : String → String) (policy : RetryPolicy) (w : World) (s : Step) : Prop :=
  ∀ worker, s.settler = some worker → (s.next redact policy w).items ≠ w.items → w.Latest worker

/-- Attempts go down with a replay only. -/
def AttemptsKept (redact : String → String) (policy : RetryPolicy) (w : World) (s : Step) : Prop :=
  (∀ id, s ≠ .replayDeadLetter id) → ∀ id i, w.row id = some i →
    ∃ i', (s.next redact policy w).row id = some i' ∧ i.attempts ≤ i'.attempts

/-- How often a row was claimed since its creation or last replay. -/
def claims (id : Uuid) : List Event → Nat
  | [] => 0
  | .created id' :: log | .replayed id' :: log => if id' = id then 0 else claims id log
  | .claimed id' :: log => if id' = id then claims id log + 1 else claims id log
  | .recovered _ :: log => claims id log

/-- How often its lease was recovered since then. -/
def recoveries (id : Uuid) : List Event → Nat
  | [] => 0
  | .created id' :: log | .replayed id' :: log => if id' = id then 0 else recoveries id log
  | .recovered id' :: log => if id' = id then recoveries id log + 1 else recoveries id log
  | .claimed _ :: log => recoveries id log

/-- A row that was claimed as often as the policy allows is delivered or a dead letter, unless its last attempt is still
running; it is not claimed more often. -/
def Bounded (policy : RetryPolicy) (w : World) (i : Item) : Prop :=
  (claims i.id w.log : Int) ≤ policy.maxAttempts ∧
    ((claims i.id w.log : Int) = policy.maxAttempts → i.status = .delivered ∨ i.status = .deadLetter ∨
      i.status = .processing ∧ i.attempts + 1 = policy.maxAttempts)

/-! ## The condition -/

def Step.takes (w : World) : Step → List Item
  | .claimBatch limit _ now locked =>
    if limit < 1 ∨ 100 < limit then [] else claimable none limit.toNat now locked w.items
  | .claimLeads limit _ now locked => claimable (some "sales.lead.odoo.apply") limit now locked w.items
  | _ => []

/-- A claim takes no row of a worker that is still alive. -/
def ClaimsAlone (w : World) (s : Step) : Prop :=
  ∀ i ∈ s.takes w, ∀ (n : Nat) x, w.workers[n]? = some x → x.alive = true → x.item ≠ i.id

/-! ## Steps -/

section Steps

variable {redact : String → String} {policy : RetryPolicy} {w : World} {s : Step} {id : Uuid} {items : List Item}
  {i i' : Item} {rows : List Item} {ids : List Uuid} {log : List Event}

variable {topic : Option String} {now : Time} {locked : List Uuid} {limit : Nat}

theorem claimable_perm
    (h : i ∈ claimable topic limit now locked items) : i ∈ items ∧ (i.status = .pending ∨ i.status = .retry) := by
  have hmem := (List.mem_insertionSort _).1 (List.mem_of_mem_take h)
  obtain ⟨hi, hclaim⟩ := List.mem_filter.1 hmem
  refine ⟨hi, ?_⟩
  simp only [Item.claimable, Bool.and_eq_true, List.contains_eq_mem, decide_eq_true_eq] at hclaim
  simpa using hclaim.1.1.2

theorem claimable_nodup
    (hn : (items.map (·.id)).Nodup) : ((claimable topic limit now locked items).map (·.id)).Nodup := by
  refine List.Nodup.sublist ((List.take_sublist _ _).map _) ?_
  rw [((List.perm_insertionSort claimOrder _).map _).nodup_iff]
  exact hn.sublist (List.filter_sublist.map _)

variable {f : Item → Item}

theorem row_writeRows (hf : ∀ i, (f i).id = i.id) (ids : List Uuid) (items : List Item) :
    rowAt Item.id id (writeRows ids f items) = (rowAt Item.id id items).map fun i => if ids.contains id then f i else i :=
  rowAt_map_in hf ids items

theorem writeRows_ids (hf : ∀ i, (f i).id = i.id) :
    (writeRows ids f items).map (·.id) = items.map (·.id) :=
  keys_map_in hf ids items

/-! ## Counts -/

theorem claims_claimed : claims id (ids.map Event.claimed ++ log) = ids.count id + claims id log := by
  induction ids with
  | nil => simp
  | cons id' ids ih =>
    rw [List.map_cons, List.cons_append, claims, ih, List.count_cons]
    by_cases h : id' = id
    · simp only [h, if_true, BEq.rfl]
      omega
    · simp [h]

theorem recoveries_claimed : recoveries id (ids.map Event.claimed ++ log) = recoveries id log := by
  induction ids with
  | nil => rfl
  | cons id' ids ih => rw [List.map_cons, List.cons_append, recoveries, ih]

theorem recoveries_recovered : recoveries id (ids.map Event.recovered ++ log) = ids.count id + recoveries id log := by
  induction ids with
  | nil => simp
  | cons id' ids ih =>
    rw [List.map_cons, List.cons_append, recoveries, ih, List.count_cons]
    by_cases h : id' = id
    · simp only [h, if_true, BEq.rfl]
      omega
    · simp [h]

theorem claims_recovered : claims id (ids.map Event.recovered ++ log) = claims id log := by
  induction ids with
  | nil => rfl
  | cons id' ids ih => rw [List.map_cons, List.cons_append, claims, ih]

/-! ## The invariant -/

/-- A row counts its attempts: one for each claim that failed. -/
structure RowOk (policy : RetryPolicy) (log : List Event) (i : Item) : Prop where
  counted : (claims i.id log : Int) = i.attempts + recoveries i.id log +
    if i.status = .processing ∨ i.status = .delivered then 1 else 0
  cap : 1 ≤ policy.maxAttempts → i.attempts ≤ policy.maxAttempts
  room : 1 ≤ policy.maxAttempts → i.status ≠ .deadLetter → i.attempts < policy.maxAttempts
  nonneg : 0 ≤ i.attempts

/-- A worker that is alive has the latest claim of its row; while the row is in processing it has the worker's attempts. -/
structure WorkerOk (w : World) (n : Nat) (x : Worker) : Prop where
  latest : ∀ m y, n < m → w.workers[m]? = some y → y.item ≠ x.item
  attempts : ∀ i, w.row x.item = some i → i.status = .processing → i.attempts = x.attempts

structure Inv (policy : RetryPolicy) (w : World) : Prop where
  ids : (w.items.map (·.id)).Nodup
  rows : ∀ i ∈ w.items, RowOk policy w.log i
  workers : ∀ (n : Nat) x, w.workers[n]? = some x → x.alive = true → WorkerOk w n x

theorem Inv.row (h : Inv policy w) (hi : w.row id = some i) : RowOk policy w.log i := h.rows i (rowAt_mem hi)

variable {log' : List Event}

theorem RowOk.congr (h : RowOk policy log i) (hc : claims i.id log' = claims i.id log)
    (hr : recoveries i.id log' = recoveries i.id log) : RowOk policy log' i :=
  ⟨by rw [hc, hr]; exact h.counted, h.cap, h.room, h.nonneg⟩

/-- Rows of the same ids, with the workers as they were. -/
theorem Inv.write (h : Inv policy w) (hf : ∀ i, (f i).id = i.id)
    (hrows : ∀ i ∈ w.items, RowOk policy log' (f i))
    (hkept : ∀ i ∈ w.items, (f i).status = .processing → i.status = .processing ∧ (f i).attempts = i.attempts) :
    Inv policy { w with items := w.items.map f, log := log' } := by
  refine ⟨?_, ?_, ?_⟩
  · rw [List.map_map]
    have hsame : (Item.id ∘ f) = Item.id := funext hf
    rw [hsame]
    exact h.ids
  · intro i' hi'
    obtain ⟨i, hi, rfl⟩ := List.mem_map.1 hi'
    exact hrows i hi
  · intro n x hx halive
    obtain ⟨hlatest, hattempts⟩ := h.workers n x hx halive
    refine ⟨hlatest, fun i' hi hs => ?_⟩
    have hmem' : i' ∈ w.items.map f := rowAt_mem hi
    obtain ⟨i, hmem, rfl⟩ := List.mem_map.1 hmem'
    obtain ⟨hprocessing, heq⟩ := hkept i hmem hs
    have hid : i.id = x.item := (hf i).symm.trans (key_of_rowAt hi)
    rw [heq]
    exact hattempts i (by rw [← hid]; exact rowAt_of_mem h.ids hmem) hprocessing

theorem create_inv {topic : String} {payload : Obj} {correlationId : Option String} {createdAt : Time}
    (h : Inv policy w) : Inv policy ((Step.create id topic payload correlationId createdAt).next redact policy w) := by
  unfold Step.next addItem
  dsimp only
  split
  · exact h
  rename_i hitems
  split at hitems
  · cases hitems
  rename_i hnone
  cases hitems
  have hnone : rowAt Item.id id w.items = none := by simpa using hnone
  have hother : ∀ i ∈ w.items, id ≠ i.id := by
    rintro i hi rfl
    rw [rowAt_of_mem h.ids hi] at hnone
    cases hnone
  refine ⟨nodup_keys_append h.ids hnone, ?_, ?_⟩
  · intro i hi
    rcases List.mem_append.1 hi with hi | hi
    · exact (h.rows i hi).congr (by simp [claims, hother i hi]) (by simp [recoveries, hother i hi])
    · cases List.mem_singleton.1 hi
      refine ⟨by simp [claims, recoveries], fun hmax => ?_, fun hmax _ => ?_, le_refl 0⟩
      · exact le_trans Int.one_nonneg hmax
      · exact lt_of_lt_of_le Int.zero_lt_one hmax
  · intro n x hx halive
    obtain ⟨hlatest, hattempts⟩ := h.workers n x hx halive
    refine ⟨hlatest, fun i hi hs => ?_⟩
    have hrow : rowAt Item.id x.item (w.items ++ [_]) = some i := hi
    rw [rowAt_append_row] at hrow
    cases hold : rowAt Item.id x.item w.items with
    | some i₀ =>
      rw [hold, Option.some_or] at hrow
      cases hrow
      exact hattempts i hold hs
    | none =>
      rw [hold, Option.none_or] at hrow
      split at hrow
      · cases hrow
        cases hs
      · cases hrow

variable {leaseSeconds : Int}

theorem claim_eq :
    w.claim (.ok (claimRows topic limit leaseSeconds now locked w.items).1,
      (claimRows topic limit leaseSeconds now locked w.items).2) =
      { items := writeRows ((claimable topic limit now locked w.items).map (·.id))
          (·.claimed now (now + seconds leaseSeconds)) w.items
        workers := w.workers ++ (claimable topic limit now locked w.items).map fun i => ⟨i.id, i.attempts, true⟩
        log := ((claimable topic limit now locked w.items).map (·.id)).map Event.claimed ++ w.log } := by
  unfold World.claim claimRows
  simp only [List.map_map]
  rfl

theorem claimRows_inv
    (h : Inv policy w) (halone : ∀ i ∈ claimable topic limit now locked w.items, ∀ (n : Nat) x, w.workers[n]? = some x →
      x.alive = true → x.item ≠ i.id) :
    Inv policy (w.claim (.ok (claimRows topic limit leaseSeconds now locked w.items).1,
      (claimRows topic limit leaseSeconds now locked w.items).2)) := by
  obtain ⟨sel, hsel⟩ : ∃ sel, claimable topic limit now locked w.items = sel := ⟨_, rfl⟩
  obtain ⟨leaseUntil, hlease⟩ : ∃ t, now + seconds leaseSeconds = t := ⟨_, rfl⟩
  have hnodup : (sel.map (·.id)).Nodup := hsel ▸ claimable_nodup h.ids
  have hmem : ∀ i ∈ sel, i ∈ w.items ∧ (i.status = .pending ∨ i.status = .retry) := fun i hi => claimable_perm (hsel ▸ hi)
  -- a row is taken when its id is
  have htaken : ∀ i ∈ w.items, i.id ∈ sel.map (·.id) → i ∈ sel := by
    intro i hi hid
    obtain ⟨i', hi', heq⟩ := List.mem_map.1 hid
    have hrow := rowAt_of_mem h.ids (hmem i' hi').1
    rw [heq, rowAt_of_mem h.ids hi] at hrow
    cases hrow
    exact hi'
  rw [claim_eq, hsel, hlease]
  refine ⟨?_, ?_, ?_⟩
  · rw [writeRows_ids (f := (·.claimed now leaseUntil)) fun _ => rfl]
    exact h.ids
  · intro i' hi'
    obtain ⟨i, hi, rfl⟩ := List.mem_map.1 hi'
    have hok := h.rows i hi
    split
    · rename_i hid
      have hid : i.id ∈ sel.map (·.id) := by simpa using hid
      have hcount : (sel.map (·.id)).count i.id = 1 := List.count_eq_one_of_mem hnodup hid
      obtain ⟨-, hstatus⟩ := hmem i (htaken i hi hid)
      refine ⟨?_, hok.cap, fun hmax _ => ?_, hok.nonneg⟩
      · have hcounted := hok.counted
        rw [if_neg (by rcases hstatus with hs | hs <;> simp [hs])] at hcounted
        simp only [claims_claimed, recoveries_claimed, Item.claimed, hcount, Nat.cast_add, hcounted]
        simp only [true_or, if_true]
        omega
      · exact hok.room hmax (by rcases hstatus with hs | hs <;> simp [hs])
    · rename_i hid
      have hid : i.id ∉ sel.map (·.id) := by simpa using hid
      exact hok.congr (by rw [claims_claimed, List.count_eq_zero_of_not_mem hid, Nat.zero_add]) recoveries_claimed
  · intro n x hx halive
    have hrow : ∀ id', rowAt Item.id id' (writeRows (sel.map (·.id)) (·.claimed now leaseUntil) w.items) =
        (w.row id').map fun i => if (sel.map (·.id)).contains id' then i.claimed now leaseUntil else i :=
      fun _ => row_writeRows (f := (·.claimed now leaseUntil)) (fun _ => rfl) _ _
    by_cases hn : n < w.workers.length
    · -- an older worker is still alive, so its row was not taken
      have hx' : w.workers[n]? = some x := by rwa [List.getElem?_append_left hn] at hx
      obtain ⟨hlatest, hattempts⟩ := h.workers n x hx' halive
      have hother : ∀ i ∈ sel, x.item ≠ i.id := fun i hi => halone i (hsel ▸ hi) n x hx' halive
      refine ⟨fun m y hm hy => ?_, fun i hi hs => ?_⟩
      · by_cases hm' : m < w.workers.length
        · exact hlatest m y hm (by rwa [List.getElem?_append_left hm'] at hy)
        · rw [List.getElem?_append_right (Nat.le_of_not_lt hm')] at hy
          obtain ⟨i, hi, rfl⟩ := List.mem_map.1 (List.mem_of_getElem? hy)
          exact (hother i hi).symm
      · have hnot : (sel.map (·.id)).contains x.item = false := by
          simp only [List.contains_eq_mem, decide_eq_false_iff_not, List.mem_map, not_exists, not_and]
          exact fun i hi heq => hother i hi heq.symm
        have hi' := (hrow x.item).symm.trans hi
        rw [hnot] at hi'
        obtain ⟨i₀, hi₀, rfl⟩ := Option.map_eq_some_iff.1 hi'
        exact hattempts i₀ hi₀ hs
    · -- a new worker has the attempts of its row
      have hn := Nat.le_of_not_lt hn
      rw [List.getElem?_append_right hn, List.getElem?_map, Option.map_eq_some_iff] at hx
      obtain ⟨i, hi, rfl⟩ := hx
      refine ⟨fun m y hm hy => ?_, fun i' hi' _ => ?_⟩
      · rw [List.getElem?_append_right (by omega), List.getElem?_map, Option.map_eq_some_iff] at hy
        obtain ⟨i', hi', rfl⟩ := hy
        intro heq
        have hlt : m - w.workers.length < (sel.map (·.id)).length := by
          rw [List.length_map]
          exact (List.getElem?_eq_some_iff.1 hi').1
        have hsame := (List.nodup_iff_getElem?_ne_getElem?.1 hnodup) (n - w.workers.length) (m - w.workers.length) (by omega)
          hlt
        rw [List.getElem?_map, List.getElem?_map, hi, hi', Option.map_some, Option.map_some] at hsame
        exact hsame (congrArg some heq.symm)
      · have hmem' : i ∈ sel := List.mem_of_getElem? hi
        have hi'' := (hrow i.id).symm.trans hi'
        have hold : w.row i.id = some i := rowAt_of_mem h.ids (hmem i hmem').1
        rw [hold, Option.map_some] at hi''
        cases hi''
        split <;> rfl

theorem Inv.writeRow (h : Inv policy w) (hf : ∀ i, (f i).id = i.id)
    (hi : w.row id = some i) (hother : ∀ id', id' ≠ id → claims id' log' = claims id' w.log ∧
      recoveries id' log' = recoveries id' w.log) (hrow : RowOk policy log' (f i))
    (hkept : (f i).status = .processing → i.status = .processing ∧ (f i).attempts = i.attempts) :
    Inv policy { w with items := w.items.map fun x => if x.id = id then f x else x, log := log' } := by
  have hself : ∀ x ∈ w.items, x.id = id → x = i := by
    rintro x hx rfl
    exact Option.some.inj ((rowAt_of_mem h.ids hx).symm.trans hi)
  refine h.write (fun x => ?_) (fun x hx => ?_) (fun x hx => ?_)
  · split
    · exact hf x
    · rfl
  · split
    · rename_i hid
      rw [hself x hx hid]
      exact hrow
    · rename_i hid
      obtain ⟨hc, hr⟩ := hother x.id hid
      exact (h.rows x hx).congr hc hr
  · split
    · rename_i hid
      rw [hself x hx hid]
      exact hkept
    · exact fun hs => ⟨hs, rfl⟩

variable {worker : Nat}

theorem settle_cases {act : Worker → List Item} : w.settle worker act = w ∨
    ∃ x, w.workers[worker]? = some x ∧ x.alive = true ∧ w.settle worker act = { w with items := act x } := by
  unfold World.settle
  split
  · rename_i x hx
    split
    · rename_i halive
      exact .inr ⟨x, hx, halive, rfl⟩
    · exact .inl rfl
  · exact .inl rfl

theorem acknowledge_write : (acknowledge id items).2 = items ∨ ∃ i, rowAt Item.id id items = some i ∧
    i.status = .processing ∧ (acknowledge id items).2 = items.map fun x => if x.id = id then x.acknowledged else x := by
  rcases @updateOne_write Item Uuid Raised _ Item.id .integrity Item.valid Item.isProcessing id Item.acknowledged items with
    ⟨-, h⟩ | ⟨i, hi, hguard, -, h⟩
  · exact .inl h
  · exact .inr ⟨i, hi, by simpa [Item.isProcessing] using hguard, h⟩

theorem acknowledge_processing (hi : rowAt Item.id id items = some i) (hs : i.status = .processing) (hn : 0 ≤ i.attempts) :
    (acknowledge id items).2 = items.map fun x => if x.id = id then x.acknowledged else x := by
  unfold acknowledge updateOne
  simp [hi, Item.isProcessing, hs, Item.valid, Item.acknowledged, hn]

theorem recordFailure_write {currentAttempts : Int} {error : String} {permanent : Bool} :
    (recordFailure redact policy id currentAttempts error permanent now items).2 = items ∨
    ∃ i nextAttemptAt, rowAt Item.id id items = some i ∧ i.status = .processing ∧
      (recordFailure redact policy id currentAttempts error permanent now items).2 = items.map fun x =>
        if x.id = id then x.failed (currentAttempts + 1) (isDead policy (currentAttempts + 1) permanent) (redact error)
          nextAttemptAt now else x := by
  unfold recordFailure
  dsimp only
  split
  · exact .inl rfl
  rename_i nextAttemptAt _
  rcases @updateOne_write Item Uuid Raised _ Item.id .integrity Item.valid Item.isProcessing id
    (·.failed (currentAttempts + 1) (isDead policy (currentAttempts + 1) permanent) (redact error) nextAttemptAt now) items with
    ⟨hnone, h⟩ | ⟨i, hi, hguard, hreply, h⟩
  · left
    split
    · rename_i heq
      rw [heq] at h
      exact h
    · rename_i heq
      rw [heq] at h
      exact h
    · rename_i heq
      rw [heq] at h
      exact h
  · right
    refine ⟨i, nextAttemptAt, hi, by simpa [Item.isProcessing] using hguard, ?_⟩
    split
    · rename_i heq
      rw [heq] at hreply
      cases hreply
    · rename_i heq
      rw [heq] at hreply
      cases hreply
    · rename_i heq
      rw [heq] at h
      exact h

theorem acknowledge_inv (h : Inv policy w) :
    Inv policy ((Step.acknowledge worker).next redact policy w) := by
  show Inv policy (w.settle worker fun x => (acknowledge x.item w.items).2)
  rcases settle_cases with heq | ⟨x, -, -, heq⟩
  · rw [heq]
    exact h
  rw [heq]
  rcases acknowledge_write with hsame | ⟨i, hi, hs, hwrite⟩
  · rw [hsame]
    exact h
  rw [hwrite]
  have hok := h.row hi
  refine h.writeRow (f := Item.acknowledged) (fun _ => rfl) hi (fun _ _ => ⟨rfl, rfl⟩) ⟨?_, hok.cap, ?_, hok.nonneg⟩ ?_
  · have hcounted := hok.counted
    simpa [hs, Item.acknowledged] using hcounted
  · intro hmax _
    exact hok.room hmax (by simp [hs])
  · rintro ⟨⟩

theorem recordFailure_inv {error : String} {permanent : Bool} (h : Inv policy w) :
    Inv policy ((Step.recordFailure worker error permanent now).next redact policy w) := by
  show Inv policy (w.settle worker fun x => (recordFailure redact policy x.item x.attempts error permanent now w.items).2)
  rcases settle_cases with heq | ⟨x, hx, halive, heq⟩
  · rw [heq]
    exact h
  rw [heq]
  rcases recordFailure_write with hsame | ⟨i, nextAttemptAt, hi, hs, hwrite⟩
  · rw [hsame]
    exact h
  rw [hwrite]
  -- the worker read the attempts of the row in its claim, which is the latest one
  have hattempts : i.attempts = x.attempts := (h.workers worker x hx halive).attempts i hi hs
  obtain ⟨hcounted, -, hroom, hnonneg⟩ := h.row hi
  rw [if_pos (.inl hs)] at hcounted
  refine h.writeRow (f := (·.failed (x.attempts + 1) (isDead policy (x.attempts + 1) permanent) (redact error)
    nextAttemptAt now)) (fun _ => rfl) hi (fun _ _ => ⟨rfl, rfl⟩) ⟨?_, ?_, ?_, ?_⟩ ?_
  · cases isDead policy (x.attempts + 1) permanent <;> simp [Item.failed] <;> omega
  · intro hmax
    have hlt := hroom hmax (by simp [hs])
    show x.attempts + 1 ≤ policy.maxAttempts
    omega
  · intro _ hdead
    cases hd : isDead policy (x.attempts + 1) permanent with
    | true => simp [Item.failed, hd] at hdead
    | false =>
      have hlt : ¬policy.maxAttempts ≤ x.attempts + 1 := by
        simp only [isDead, Bool.or_eq_false_iff, decide_eq_false_iff_not] at hd
        exact hd.2
      simpa [Item.failed] using hlt
  · show 0 ≤ x.attempts + 1
    omega
  · cases isDead policy (x.attempts + 1) permanent <;> simp [Item.failed]

theorem finish_inv (h : Inv policy w) : Inv policy ((Step.finish worker).next redact policy w) := by
  have hworkers : ∀ (m : Nat) y, (w.workers.modify worker fun x => { x with alive := false })[m]? = some y →
      ∃ y₀, w.workers[m]? = some y₀ ∧ y.item = y₀.item ∧ y.attempts = y₀.attempts ∧ (y.alive = true → y₀.alive = true) := by
    intro m y hy
    rw [List.getElem?_modify, Option.map_eq_map, Option.map_eq_some_iff] at hy
    obtain ⟨y₀, hy₀, rfl⟩ := hy
    refine ⟨y₀, hy₀, ?_⟩
    split <;> simp
  refine ⟨h.ids, h.rows, fun n x hx halive => ?_⟩
  obtain ⟨x₀, hx₀, hitem, hattempts, halive'⟩ := hworkers n x hx
  have hok := h.workers n x₀ hx₀ (halive' halive)
  refine ⟨fun m y hm hy => ?_, fun i hi hs => ?_⟩
  · obtain ⟨y₀, hy₀, hitem', -, -⟩ := hworkers m y hy
    rw [hitem, hitem']
    exact hok.latest m y₀ hm hy₀
  · rw [hattempts]
    rw [hitem] at hi
    exact hok.attempts i hi hs

theorem recover_inv (h : Inv policy w) : Inv policy ((Step.recoverExpiredLeases now).next redact policy w) := by
  obtain ⟨ids, hids⟩ : ∃ ids, (w.items.filter (·.expired now)).map (·.id) = ids := ⟨_, rfl⟩
  have hnodup : ids.Nodup := hids ▸ h.ids.sublist (List.filter_sublist.map _)
  have hexpired : ∀ i ∈ w.items, i.id ∈ ids → i.status = .processing := by
    intro i hi hid
    rw [← hids] at hid
    obtain ⟨i', hi', heq⟩ := List.mem_map.1 hid
    obtain ⟨hmem, hexpired⟩ := List.mem_filter.1 hi'
    have hrow := rowAt_of_mem h.ids hmem
    rw [heq, rowAt_of_mem h.ids hi] at hrow
    cases hrow
    simp only [Item.expired, Item.isProcessing, Bool.and_eq_true, decide_eq_true_eq] at hexpired
    exact hexpired.1
  show Inv policy { w with
    items := writeRows ((w.items.filter (·.expired now)).map (·.id)) (·.recovered now) w.items
    log := ((w.items.filter (·.expired now)).map (·.id)).map Event.recovered ++ w.log }
  rw [hids]
  refine h.write (f := fun i => if ids.contains i.id then i.recovered now else i) (fun i => ?_) (fun i hi => ?_)
    (fun i hi => ?_)
  · split <;> rfl
  · have hok := h.rows i hi
    split
    · rename_i hid
      have hid : i.id ∈ ids := by simpa using hid
      have hs := hexpired i hi hid
      have hcounted := hok.counted
      rw [if_pos (.inl hs)] at hcounted
      refine ⟨?_, hok.cap, fun hmax _ => hok.room hmax (by simp [hs]), hok.nonneg⟩
      simp only [Item.recovered, claims_recovered, recoveries_recovered, List.count_eq_one_of_mem hnodup hid]
      simp
      omega
    · rename_i hid
      have hid : i.id ∉ ids := by simpa using hid
      exact hok.congr claims_recovered (by rw [recoveries_recovered, List.count_eq_zero_of_not_mem hid, Nat.zero_add])
  · split
    · rintro ⟨⟩
    · exact fun hs => ⟨hs, rfl⟩

theorem replayDeadLetter_write : (replayDeadLetter id items).1 ≠ .ok true ∨
    ∃ i, rowAt Item.id id items = some i ∧ i.status = .deadLetter ∧
      replayDeadLetter id items = (.ok true, items.map fun x => if x.id = id then x.replayed else x) := by
  rcases @updateOne_write Item Uuid Raised _ Item.id .integrity Item.valid (fun i => decide (i.status = .deadLetter)) id
    Item.replayed items with ⟨hnone, -⟩ | ⟨i, hi, hguard, hreply, h⟩
  · left
    unfold replayDeadLetter
    dsimp only
    intro heq
    generalize (updateOne Item.id Raised.integrity Item.valid id (fun i => decide (i.status = .deadLetter)) Item.replayed
      items).1 = reply at hnone heq
    cases reply with
    | error e => cases heq
    | ok row =>
      cases row with
      | none => cases heq
      | some i => exact hnone i rfl
  · right
    refine ⟨i, hi, by simpa using hguard, ?_⟩
    unfold replayDeadLetter
    dsimp only
    rw [hreply, h]
    rfl

theorem replay_inv (h : Inv policy w) : Inv policy ((Step.replayDeadLetter id).next redact policy w) := by
  unfold Step.next
  dsimp only
  rcases @replayDeadLetter_write id w.items with hne | ⟨i, hi, hs, hok⟩
  · split
    · rename_i heq
      rw [heq] at hne
      exact absurd rfl hne
    · exact h
  rw [hok]
  have hid : i.id = id := key_of_rowAt hi
  refine h.writeRow (f := Item.replayed) (fun _ => rfl) hi (fun id' hne => ?_) ⟨?_, ?_, ?_, le_refl 0⟩ ?_
  · simp [claims, recoveries, Ne.symm hne]
  · simp [Item.replayed, claims, recoveries, hid]
  · exact fun hmax => le_trans Int.one_nonneg hmax
  · exact fun hmax _ => lt_of_lt_of_le Int.zero_lt_one hmax
  · rintro ⟨⟩

/-- Every step keeps the invariant while claims take no row of a living worker. -/
theorem next_inv (h : Inv policy w) (halone : ClaimsAlone w s) : Inv policy (s.next redact policy w) := by
  cases s with
  | create id topic payload correlationId createdAt => exact create_inv h
  | claimBatch limit leaseSeconds now locked =>
    show Inv policy (w.claim (claimBatch limit leaseSeconds now locked w.items))
    unfold claimBatch
    split
    · exact h
    · rename_i hlimit
      refine claimRows_inv h fun i hi => halone i ?_
      simp only [Step.takes, if_neg hlimit]
      exact hi
  | claimLeads limit leaseSeconds now locked => exact claimRows_inv h halone
  | acknowledge worker => exact acknowledge_inv h
  | recordFailure worker error permanent now => exact recordFailure_inv h
  | finish worker => exact finish_inv h
  | recoverExpiredLeases now => exact recover_inv h
  | replayDeadLetter id => exact replay_inv h

/-! ## The promises -/

theorem fenced (h : Inv policy w) : Fenced redact policy w s := by
  intro worker hsettler hchanged
  have hlatest : ∀ act, (w.settle worker act).items ≠ w.items → w.Latest worker := by
    intro act hne
    rcases settle_cases with heq | ⟨x, hx, halive, -⟩
    · exact absurd (congrArg World.items heq) hne
    · exact ⟨x, hx, (h.workers worker x hx halive).latest⟩
  cases s with
  | acknowledge n =>
    cases hsettler
    exact hlatest _ hchanged
  | recordFailure n error permanent now =>
    cases hsettler
    exact hlatest _ hchanged
  | _ => cases hsettler

theorem row_map (hf : ∀ i, (f i).id = i.id) (hi : rowAt Item.id id items = some i) (id' : Uuid) :
    rowAt Item.id id (items.map fun x => if x.id = id' then f x else x) = some (if id = id' then f i else i) := by
  have hrow := @find_map_at Item Uuid _ Item.id id f id' (fun x hx => (hf x).trans hx) items
  have hi' : items.find? (fun x => decide (x.id = id)) = some i := hi
  rw [hi', Option.map_some] at hrow
  exact hrow

theorem claim_attempts
    (hi : rowAt Item.id id items = some i) :
    ∃ i', rowAt Item.id id (claimRows topic limit leaseSeconds now locked items).2 = some i' ∧ i.attempts ≤ i'.attempts := by
  refine ⟨_, (row_writeRows (f := (·.claimed now (now + seconds leaseSeconds))) (fun _ => rfl) _ items).trans
    (by rw [hi, Option.map_some]), ?_⟩
  split <;> exact le_refl _

theorem attempts_kept (h : Inv policy w) : AttemptsKept redact policy w s := by
  intro hreplay id i hi
  have hsame : ∃ i', w.row id = some i' ∧ i.attempts ≤ i'.attempts := ⟨i, hi, le_refl _⟩
  cases s with
  | create id' topic payload correlationId createdAt =>
    unfold Step.next addItem
    dsimp only
    split
    · exact hsame
    rename_i hitems
    split at hitems
    · cases hitems
    · cases hitems
      exact ⟨i, rowAt_append hi _, le_refl _⟩
  | claimBatch limit leaseSeconds now locked =>
    show ∃ i', (w.claim (claimBatch limit leaseSeconds now locked w.items)).row id = some i' ∧ _
    unfold claimBatch
    split
    · exact hsame
    · exact claim_attempts hi
  | claimLeads limit leaseSeconds now locked => exact claim_attempts hi
  | acknowledge worker =>
    show ∃ i', (w.settle worker fun x => (acknowledge x.item w.items).2).row id = some i' ∧ _
    rcases settle_cases with heq | ⟨x, -, -, heq⟩
    · rw [heq]
      exact hsame
    rw [heq]
    rcases acknowledge_write with hkept | ⟨i₀, -, -, hwrite⟩
    · rw [hkept]
      exact hsame
    rw [hwrite]
    refine ⟨_, row_map (f := Item.acknowledged) (fun _ => rfl) hi x.item, ?_⟩
    split <;> exact le_refl _
  | recordFailure worker error permanent now =>
    show ∃ i', (w.settle worker fun x =>
      (recordFailure redact policy x.item x.attempts error permanent now w.items).2).row id = some i' ∧ _
    rcases settle_cases with heq | ⟨x, hx, halive, heq⟩
    · rw [heq]
      exact hsame
    rw [heq]
    rcases recordFailure_write with hkept | ⟨i₀, nextAttemptAt, hi₀, hs, hwrite⟩
    · rw [hkept]
      exact hsame
    rw [hwrite]
    refine ⟨_, row_map (f := (·.failed (x.attempts + 1) (isDead policy (x.attempts + 1) permanent) (redact error)
      nextAttemptAt now)) (fun _ => rfl) hi x.item, ?_⟩
    split
    · rename_i hid
      subst hid
      cases hi₀.symm.trans hi
      have hattempts := (h.workers worker x hx halive).attempts i hi hs
      show i.attempts ≤ x.attempts + 1
      omega
    · exact le_refl _
  | finish worker => exact hsame
  | recoverExpiredLeases now =>
    refine ⟨_, (row_writeRows (f := (·.recovered now)) (fun _ => rfl) _ w.items).trans
      (by rw [show rowAt Item.id id w.items = some i from hi, Option.map_some]), ?_⟩
    split <;> exact le_refl _
  | replayDeadLetter id' => exact absurd rfl (hreplay id')

theorem bounded (h : Inv policy w) (hmax : 1 ≤ policy.maxAttempts) (hi : i ∈ w.items)
    (hrecovered : recoveries i.id w.log = 0) : Bounded policy w i := by
  obtain ⟨hcounted, hcap, hroom, -⟩ := h.rows i hi
  unfold Bounded
  cases hs : i.status <;> simp [hs] at hcounted hroom ⊢ <;> omega

/-- A claim that takes the row of a living worker lets that worker settle the new claim. -/
theorem stale_settles (h : Inv policy w) (hs : ¬ClaimsAlone w s) :
    ∃ worker, ¬Fenced redact policy (s.next redact policy w) (.acknowledge worker) := by
  simp only [ClaimsAlone, not_forall, not_not] at hs
  obtain ⟨i, hi, n, x, hx, halive, hitem⟩ := hs
  have hclaim : ∃ topic limit leaseSeconds now locked, i ∈ claimable topic limit now locked w.items ∧
      s.next redact policy w = w.claim (.ok (claimRows topic limit leaseSeconds now locked w.items).1,
        (claimRows topic limit leaseSeconds now locked w.items).2) := by
    cases s with
    | claimBatch limit leaseSeconds now locked =>
      simp only [Step.takes] at hi
      split at hi
      · cases hi
      · rename_i hlimit
        refine ⟨none, limit.toNat, leaseSeconds, now, locked, hi, ?_⟩
        simp only [Step.next, claimBatch, if_neg hlimit]
    | claimLeads limit leaseSeconds now locked => exact ⟨_, limit, leaseSeconds, now, locked, hi, rfl⟩
    | _ => cases hi
  obtain ⟨topic, limit, leaseSeconds, now, locked, hi, heq⟩ := hclaim
  have hmem := (claimable_perm hi).1
  have hnonneg := (h.rows i hmem).nonneg
  rw [heq, claim_eq]
  generalize claimable topic limit now locked w.items = sel at hi
  generalize now + seconds leaseSeconds = leaseUntil
  refine ⟨n, fun hfenced => ?_⟩
  have hn : n < w.workers.length := (List.getElem?_eq_some_iff.1 hx).1
  have hx' : (w.workers ++ sel.map fun i => (⟨i.id, i.attempts, true⟩ : Worker))[n]? = some x := by
    rwa [List.getElem?_append_left hn]
  -- the row is in processing under its new claim, and the old worker acknowledges it
  have hrow : rowAt Item.id x.item (writeRows (sel.map (·.id)) (·.claimed now leaseUntil) w.items) =
      some (i.claimed now leaseUntil) := by
    have hcontains : (sel.map (·.id)).contains i.id = true := by simpa using ⟨i, hi, rfl⟩
    rw [row_writeRows (f := (·.claimed now leaseUntil)) (fun _ => rfl), hitem, rowAt_of_mem h.ids hmem, Option.map_some,
      if_pos hcontains]
  have hlatest := hfenced n rfl (by
    intro hsame
    simp only [Step.next, World.settle, hx', halive, if_true] at hsame
    rw [acknowledge_processing hrow rfl hnonneg] at hsame
    have hafter := row_map (f := Item.acknowledged) (fun _ => rfl) hrow x.item
    rw [hsame, hrow, if_pos rfl] at hafter
    have hstatus := congrArg (fun r : Option Item => r.map (·.status)) hafter
    cases hstatus)
  obtain ⟨x₁, hx₁, hlast⟩ := hlatest
  cases hx'.symm.trans hx₁
  obtain ⟨k, hk⟩ := List.getElem?_of_mem hi
  refine hlast (w.workers.length + k) ⟨i.id, i.attempts, true⟩ (by omega) ?_ hitem.symm
  rw [List.getElem?_append_right (Nat.le_add_right _ _), Nat.add_sub_cancel_left, List.getElem?_map, hk]
  rfl

end Steps

/-- In every run in which a claim takes no row of a worker that is still alive, workers change a row only under its latest
claim and attempts go down with a replay only; and a row whose lease was not recovered since its creation or last replay
is claimed at most as often as the policy allows, and then delivered or dead. A claim that takes the row of a living
worker lets this worker settle the claim of another one. -/
theorem outbox_fenced (redact : String → String) (policy : RetryPolicy) (steps : List Step)
    (h : Always (Step.next redact policy) ClaimsAlone {} steps) :
    Always (Step.next redact policy) (Fenced redact policy) {} steps ∧
    Always (Step.next redact policy) (AttemptsKept redact policy) {} steps ∧
    (1 ≤ policy.maxAttempts → ∀ i ∈ (runFrom (Step.next redact policy) {} steps).items,
      recoveries i.id (runFrom (Step.next redact policy) {} steps).log = 0 →
      Bounded policy (runFrom (Step.next redact policy) {} steps) i) ∧
    ∀ s, ¬ClaimsAlone (runFrom (Step.next redact policy) {} steps) s →
      ∃ worker, ¬Fenced redact policy (s.next redact policy (runFrom (Step.next redact policy) {} steps))
        (.acknowledge worker) := by
  have h0 : Inv policy {} := ⟨List.nodup_nil, by simp, by simp⟩
  have hstep : ∀ w s, Inv policy w → ClaimsAlone w s → Inv policy (s.next redact policy w) := fun _ _ => next_inv
  have hinv : Inv policy (runFrom (Step.next redact policy) {} steps) := h.invariant h0 hstep
  refine ⟨h.of_invariant h0 hstep fun _ _ hw _ => fenced hw, h.of_invariant h0 hstep fun _ _ hw _ => attempts_kept hw, ?_, ?_⟩
  · exact fun hmax i hi hrecovered => bounded hinv hmax hi hrecovered
  · exact fun s hs => stale_settles hinv hs

/-! ## A recovered lease -/

namespace Recovered

/-- One row, claimed by a worker whose lease of 30 seconds is recovered, and claimed again. -/
def steps : List Step :=
  [.create "a" "test.synthetic" [] none 0, .claimBatch 10 30 0 [], .recoverExpiredLeases (seconds 31),
    .claimBatch 10 30 (seconds 32) []]

/-- The later claims fail twice, and a third one is made. -/
def failures : List Step :=
  steps ++ [Step.recordFailure 1 "down" false (seconds 33), .claimBatch 10 30 (seconds 100) [],
    .recordFailure 2 "down" false (seconds 101), .claimBatch 10 30 (seconds 1000) []]

def crashes : List Step := steps ++ [Step.finish 0, .finish 1, .recoverExpiredLeases (seconds 63)]

def after (policy : RetryPolicy) (steps : List Step) : World := runFrom (Step.next id policy) {} steps

end Recovered

/-- The worker whose lease was recovered acknowledges the claim of another one; its failure takes the attempts of the row
back from two to one; and under a policy of one attempt a row is claimed twice by workers that crash, and may be claimed
again. -/
theorem recovered_not_fenced :
    ¬Fenced id {} (Recovered.after {} Recovered.steps) (.acknowledge 0) ∧
    ¬AttemptsKept id {} (Recovered.after {} Recovered.failures) (.recordFailure 0 "late" false (seconds 1001)) ∧
    (∃ i ∈ (Recovered.after ⟨1, 5, 300⟩ Recovered.crashes).items,
      ¬Bounded ⟨1, 5, 300⟩ (Recovered.after ⟨1, 5, 300⟩ Recovered.crashes) i ∧
      i.claimable none (seconds 63) = true) := by
  refine ⟨?_, ?_, ?_⟩
  · intro h
    have hchanged : ((Step.acknowledge 0).next id {} (Recovered.after {} Recovered.steps)).items.map (·.status) ≠
        (Recovered.after {} Recovered.steps).items.map (·.status) := by decide
    obtain ⟨x, hx, hlast⟩ := h 0 rfl fun heq => hchanged (by rw [heq])
    have hx' : (Recovered.after {} Recovered.steps).workers[0]? = some ⟨"a", 0, true⟩ := by rfl
    cases hx'.symm.trans hx
    exact hlast 1 ⟨"a", 0, true⟩ (by decide) (by rfl) rfl
  · intro h
    have hbefore : ((Recovered.after {} Recovered.failures).row "a").map (·.attempts) = some 2 := by decide
    have hafter : (((Step.recordFailure 0 "late" false (seconds 1001)).next id {}
        (Recovered.after {} Recovered.failures)).row "a").map (·.attempts) = some 1 := by decide
    obtain ⟨i, hi, htwo⟩ := Option.map_eq_some_iff.1 hbefore
    obtain ⟨i', hi', hle⟩ := h (by simp) "a" i hi
    rw [hi', Option.map_some] at hafter
    have hone := Option.some.inj hafter
    omega
  · refine ⟨_, List.mem_cons_self, fun h => ?_, by decide⟩
    exact absurd h.1 (by decide)

/-- A row that fails and is then delivered. -/
theorem outbox_fenced_delivered :
    Always (Step.next id {}) (Fenced id {}) {}
      [.create "a" "test.synthetic" [] none 0, .claimBatch 10 30 0 [], .acknowledge 0] :=
  (outbox_fenced id {} _ (by
    refine ⟨?_, ?_, ?_, trivial⟩
    · intro i hi
      cases hi
    · intro i _ n x hx
      cases hx
    · intro i hi
      cases hi)).1

end Middleware.Outbox
