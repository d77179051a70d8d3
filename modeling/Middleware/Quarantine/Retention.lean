/-
Retention over repeated passes of `cleanup_expired`. A pass takes the first rows by deadline, and a resolved or rejected
row that it cleaned is taken again by the next one: its status does not change. So the passes come to an end exactly when
every due row is still pending review; a pending row leaves the selection with its first pass.
-/
import Middleware.Quarantine.Records

namespace Middleware.Quarantine

open Ledger Lib

/-! ## Passes -/

def sweep (limit : Nat) (now : Time) (db : Db) : Db := (cleanupExpired limit now db).2

/-- Passes at the given readings of the clock. -/
def passes (limit : Nat) (nows : List Time) (db : Db) : Db := nows.foldl (fun db now => sweep limit now db) db

def due (now : Time) (db : Db) : List Record := db.records.rows.filter (·.due now)

/-- No deadline passes between `now` and the readings. -/
def Frozen (now : Time) (nows : List Time) (db : Db) : Prop :=
  ∀ now' ∈ nows, ∀ r ∈ db.records.rows, r.retentionDeadline ≤ now' ↔ r.retentionDeadline ≤ now

def Record.Destroyed (r : Record) : Prop :=
  r.encryptedPayload = none ∧ r.encryptionNonce = none ∧ r.encryptionKeyVersion = none

/-- After `⌈n / limit⌉` passes over `n` due rows each of them is destroyed, the rows under legal hold or not yet due are as
they were, and another pass changes nothing. -/
def Progress (limit : Nat) (now : Time) (db : Db) : Prop :=
  ∀ nows later, nows.length = ((due now db).length + limit - 1) / limit → Frozen now (later :: nows) db →
    (∀ r ∈ due now db, ∃ r', (passes limit nows db).records.row r.id = some r' ∧ r'.Destroyed) ∧
    (∀ r ∈ db.records.rows, r.legalHold = true ∨ now < r.retentionDeadline →
      (passes limit nows db).records.row r.id = some r) ∧
    sweep limit later (passes limit nows db) = passes limit nows db

section Passes

variable {limit : Nat} {now later : Time} {nows : List Time} {db : Db} {r r' : Record} {id : Uuid}

/-! ## One pass -/

theorem mem_due : r ∈ due now db ↔ r ∈ db.records.rows ∧ r.due now = true := by
  simp [due]

theorem due_iff : r.due now = true ↔ r.legalHold = false ∧ r.retentionDeadline ≤ now ∧ r.status.cleanable = true := by
  simp [Record.due, and_assoc]

/-- The ids of the rows a pass selects. -/
def selectedIds (limit : Nat) (now : Time) (db : Db) : List Uuid := (expiring limit now db.records).map (·.id)

theorem sorted_perm : ((due now db).insertionSort dueFirst).Perm (due now db) := List.perm_insertionSort _ _

theorem expiring_eq : expiring limit now db.records = ((due now db).insertionSort dueFirst).take limit := rfl

theorem selected_due (h : r ∈ expiring limit now db.records) : r ∈ due now db := by
  exact sorted_perm.mem_iff.1 (List.mem_of_mem_take h)

theorem due_of_selected (hr : db.records.row id = some r) (hs : id ∈ selectedIds limit now db) : r ∈ due now db := by
  obtain ⟨r₀, hr₀, rfl⟩ := List.mem_map.1 hs
  have hdue := selected_due hr₀
  have hrow : db.records.row r₀.id = some r₀ := Records.row_of_mem (mem_due.1 hdue).1
  cases hr.symm.trans hrow
  exact hdue

theorem sweep_row : (sweep limit now db).records.row id =
    (db.records.row id).map fun r => if id ∈ selectedIds limit now db then r.cleaned else r := by
  show (db.records.rows.map fun r => if (selectedIds limit now db).contains r.id then r.cleaned else r).find?
    (fun r => decide (r.id = id)) = _
  rw [find_map_row]
  · unfold Records.row rowAt
    cases h : db.records.rows.find? fun r => decide (r.id = id) with
    | none => rfl
    | some r =>
      have hid : r.id = id := Records.row_id h
      simp [hid]
  · intro r
    split <;> rfl

theorem cleaned_due_iff (hs : r.status ≠ .pendingReview) : r.cleaned.due now = r.due now := by
  simp [Record.due, Record.cleaned, hs]

theorem cleaned_not_due (hs : r.status = .pendingReview) : r.cleaned.due now = false := by
  simp [Record.due, Record.cleaned, hs, Status.cleanable]

/-- The rows behind the first `n` of a list without duplicate keys are those whose keys are not among the first. -/
theorem filter_drop {K : Type} [DecidableEq K] {key : Record → K} {l : List Record} (hn : (l.map key).Nodup) (n : Nat) :
    l.filter (fun r => !((l.take n).map key).contains (key r)) = l.drop n := by
  conv_lhs => rw [← List.take_append_drop n l]
  rw [List.filter_append, List.take_append_drop]
  rw [← List.take_append_drop n l, List.map_append, List.nodup_append] at hn
  obtain ⟨-, -, hdisjoint⟩ := hn
  have hfirst : (l.take n).filter (fun r => !((l.take n).map key).contains (key r)) = [] := by
    rw [List.filter_eq_nil_iff]
    intro r hr
    have hmem : key r ∈ (l.take n).map key := List.mem_map_of_mem hr
    simpa using hmem
  have hrest : (l.drop n).filter (fun r => !((l.take n).map key).contains (key r)) = l.drop n := by
    rw [List.filter_eq_self]
    intro r hr
    have hnot : key r ∉ (l.take n).map key := fun hmem =>
      hdisjoint (key r) hmem (key r) (List.mem_map_of_mem hr) rfl
    simpa using hnot
  rw [hfirst, hrest, List.nil_append]

/-- A pass over pending rows takes `limit` of the due rows away. -/
theorem sweep_due (hp : ∀ r ∈ due now db, r.status = .pendingReview) :
    (due now (sweep limit now db)).length = (due now db).length - limit := by
  have hkeep : ∀ r ∈ db.records.rows,
      (if (selectedIds limit now db).contains r.id then r.cleaned else r).due now = true ↔
        (r.due now && !(selectedIds limit now db).contains r.id) = true := by
    intro r hr
    by_cases hs : (selectedIds limit now db).contains r.id = true
    · have hdue : r ∈ due now db := due_of_selected (Records.row_of_mem hr) (by simpa using hs)
      rw [if_pos hs, cleaned_not_due (hp r hdue), hs]
      simp
    · simp only [Bool.not_eq_true] at hs
      rw [hs]
      simp
  have hids : (((due now db).insertionSort dueFirst).map (·.id)).Nodup := by
    rw [(sorted_perm.map _).nodup_iff]
    exact db.records.ids.sublist (List.filter_sublist.map _)
  calc (due now (sweep limit now db)).length
      = db.records.rows.countP fun r => r.due now && !(selectedIds limit now db).contains r.id := by
        show ((db.records.rows.map fun r => if (selectedIds limit now db).contains r.id then r.cleaned else r).filter
          (·.due now)).length = _
        rw [← List.countP_eq_length_filter, List.countP_map]
        exact List.countP_congr hkeep
    _ = ((due now db).filter fun r => !(selectedIds limit now db).contains r.id).length := by
        rw [List.countP_eq_length_filter]
        unfold due
        rw [List.filter_filter]
        simp only [Bool.and_comm]
    _ = (((due now db).insertionSort dueFirst).filter fun r => !(selectedIds limit now db).contains r.id).length :=
        (sorted_perm.symm.filter _).length_eq
    _ = (((due now db).insertionSort dueFirst).drop limit).length := by
        unfold selectedIds
        rw [expiring_eq, filter_drop hids]
    _ = (due now db).length - limit := by rw [List.length_drop, sorted_perm.length_eq]

/-! ## Every pass -/

/-- A row is as it was, or due and cleaned once. -/
def Swept (now : Time) (db db' : Db) : Prop :=
  ∀ id r, db.records.row id = some r → ∃ r', db'.records.row id = some r' ∧ (r' = r ∨ r.due now = true ∧ r' = r.cleaned)

/-- While only pending rows are due, a pass keeps it so. -/
theorem sweep_pending (hp : ∀ r ∈ due now db, r.status = .pendingReview) :
    ∀ r ∈ due now (sweep limit now db), r.status = .pendingReview := by
  intro r hr
  obtain ⟨hmem, hdue⟩ := mem_due.1 hr
  have hrow : (sweep limit now db).records.row r.id = some r := Records.row_of_mem hmem
  rw [sweep_row] at hrow
  obtain ⟨r₀, hr₀, heq⟩ := Option.map_eq_some_iff.1 hrow
  have hmem₀ : r₀ ∈ db.records.rows := Records.mem_of_row hr₀
  split at heq
  · rename_i hs
    subst heq
    rw [cleaned_not_due (hp r₀ (due_of_selected hr₀ hs))] at hdue
    cases hdue
  · subst heq
    exact hp r₀ (mem_due.2 ⟨hmem₀, hdue⟩)

theorem sweep_swept {db₀ : Db} (hp₀ : ∀ r ∈ due now db₀, r.status = .pendingReview) (h : Swept now db₀ db) :
    Swept now db₀ (sweep limit now db) := by
  intro id r hr
  obtain ⟨r', hr', hcase⟩ := h id r hr
  rw [sweep_row, hr']
  refine ⟨_, rfl, ?_⟩
  split
  · rename_i hs
    obtain ⟨-, hdue⟩ := mem_due.1 (due_of_selected hr' hs)
    rcases hcase with rfl | ⟨hdue', rfl⟩
    · exact .inr ⟨hdue, rfl⟩
    · -- a cleaned row is not selected again
      rw [cleaned_not_due (hp₀ r (mem_due.2 ⟨Records.mem_of_row hr, hdue'⟩))] at hdue
      cases hdue
  · exact hcase

theorem sweep_frozen {now' : Time} (h : ∀ r ∈ db.records.rows, r.retentionDeadline ≤ now' ↔ r.retentionDeadline ≤ now) :
    sweep limit now' db = sweep limit now db := by
  have hsame : due now' db = due now db := by
    apply List.filter_congr
    intro r hr
    simp only [Record.due, h r hr]
  unfold sweep cleanupExpired
  rw [expiring_eq, expiring_eq, hsame]

theorem Frozen.sweep (h : Frozen now nows db) : Frozen now nows (sweep limit now db) := by
  intro now' hnow r hr
  obtain ⟨r₀, hr₀, rfl⟩ := List.mem_map.1 hr
  have := h now' hnow r₀ hr₀
  split <;> exact this

theorem passes_induction {P : Db → Prop} (hstep : ∀ db, P db → P (sweep limit now db)) :
    ∀ {nows : List Time} {db : Db}, Frozen now nows db → P db → P (passes limit nows db)
  | [], _, _, h => h
  | now' :: nows, db, hf, h => by
    have heq : sweep limit now' db = sweep limit now db := sweep_frozen (hf now' List.mem_cons_self)
    show P (passes limit nows (sweep limit now' db))
    rw [heq]
    exact passes_induction hstep (fun t ht => hf.sweep t (List.mem_cons_of_mem _ ht)) (hstep db h)

theorem passes_frozen (hf : Frozen now (later :: nows) db) : Frozen now [later] (passes limit nows db) := by
  refine passes_induction (P := Frozen now [later]) (fun db h => h.sweep) (fun t ht => hf t (List.mem_cons_of_mem _ ht)) ?_
  intro t ht
  rw [List.mem_singleton] at ht
  subst ht
  exact hf t List.mem_cons_self

/-- Passes over pending rows leave `limit` fewer due rows each. -/
theorem passes_due : ∀ {nows : List Time} {db : Db}, Frozen now nows db → (∀ r ∈ due now db, r.status = .pendingReview) →
    (due now (passes limit nows db)).length = (due now db).length - nows.length * limit
  | [], _, _, _ => by simp [passes]
  | now' :: nows, db, hf, hp => by
    have heq : sweep limit now' db = sweep limit now db := sweep_frozen (hf now' List.mem_cons_self)
    show (due now (passes limit nows (sweep limit now' db))).length = _
    rw [heq, passes_due (fun t ht => hf.sweep t (List.mem_cons_of_mem _ ht)) (sweep_pending hp), sweep_due hp,
      List.length_cons, Nat.add_mul]
    omega

theorem ceil_mul_le {n limit : Nat} (h : 1 ≤ limit) : n ≤ (n + limit - 1) / limit * limit := by
  have hdiv := Nat.div_add_mod (n + limit - 1) limit
  have hmod := Nat.mod_lt (n + limit - 1) h
  rw [Nat.mul_comm] at hdiv
  omega

theorem sweep_idle (h : due now db = []) : sweep limit now db = db := by
  have hnone : expiring limit now db.records = [] := by
    rw [expiring_eq, h]
    simp
  unfold sweep cleanupExpired
  simp only [hnone, List.map_nil, List.append_nil]
  simp [Records.write]

theorem sweep_changes (hl : 1 ≤ limit) (h : due now db ≠ []) : sweep limit now db ≠ db := by
  intro heq
  have hlen : 0 < ((due now db).insertionSort dueFirst).length := by
    rw [sorted_perm.length_eq]
    exact List.length_pos_iff.2 h
  obtain ⟨r, hr⟩ : ∃ r, r ∈ expiring limit now db.records := by
    rw [expiring_eq]
    apply List.exists_mem_of_length_pos
    rw [List.length_take]
    omega
  have hrow : db.records.row r.id = some r := Records.row_of_mem (mem_due.1 (selected_due hr)).1
  have hs : r.id ∈ selectedIds limit now db := List.mem_map_of_mem hr
  have hafter : (sweep limit now db).records.row r.id = some r.cleaned := by
    rw [sweep_row, hrow, Option.map_some, if_pos hs]
  rw [heq, hrow] at hafter
  have hversion := congrArg (fun x : Option Record => x.map (·.recordVersion)) hafter
  simp [Record.cleaned] at hversion

theorem stays_due (hf : Frozen now nows db) (hr : r ∈ due now db) (hs : r.status ≠ .pendingReview) :
    due now (passes limit nows db) ≠ [] := by
  have hkept : ∃ r' ∈ due now (passes limit nows db), r'.status ≠ .pendingReview := by
    refine passes_induction (P := fun db => ∃ r' ∈ due now db, r'.status ≠ .pendingReview) ?_ hf ⟨r, hr, hs⟩
    rintro db ⟨r, hr, hs⟩
    obtain ⟨hmem, hdue⟩ := mem_due.1 hr
    have hrow : (sweep limit now db).records.row r.id = _ := sweep_row
    rw [Records.row_of_mem hmem, Option.map_some] at hrow
    split at hrow
    · refine ⟨r.cleaned, mem_due.2 ⟨Records.mem_of_row hrow, ?_⟩, ?_⟩
      · rw [cleaned_due_iff hs]
        exact hdue
      · simp [Record.cleaned, hs]
    · exact ⟨r, mem_due.2 ⟨Records.mem_of_row hrow, hdue⟩, hs⟩
  obtain ⟨r', hr', -⟩ := hkept
  exact List.ne_nil_of_mem hr'

end Passes

/-- Retention makes progress exactly when every due row is still pending review. -/
theorem progress_iff (limit : Nat) (now : Time) (db : Db) (hl : 1 ≤ limit) :
    Progress limit now db ↔ ∀ r ∈ due now db, r.status = .pendingReview := by
  constructor
  · intro h r hr
    by_contra hs
    -- at one reading of the clock, which is frozen
    have hfrozen : ∀ n : Nat, Frozen now (now :: List.replicate n now) db := by
      intro n now' hnow r hr
      have hnow' : now' = now := by
        rcases List.mem_cons.1 hnow with h | h
        · exact h
        · exact List.eq_of_mem_replicate h
      rw [hnow']
    obtain ⟨-, -, hidle⟩ := h (List.replicate (((due now db).length + limit - 1) / limit) now) now (by simp) (hfrozen _)
    exact sweep_changes hl (stays_due (fun t ht => hfrozen _ t (List.mem_cons_of_mem _ ht)) hr hs) hidle
  · intro hp nows later hlen hf
    have hf' : Frozen now nows db := fun t ht => hf t (List.mem_cons_of_mem _ ht)
    have hempty : due now (passes limit nows db) = [] := by
      rw [← List.length_eq_zero_iff, passes_due hf' hp, hlen]
      exact Nat.sub_eq_zero_of_le (ceil_mul_le hl)
    have hswept : Swept now db (passes limit nows db) := by
      refine passes_induction (P := Swept now db) (fun db' h => sweep_swept hp h) hf' ?_
      intro id r hr
      exact ⟨r, hr, .inl rfl⟩
    refine ⟨?_, ?_, ?_⟩
    · intro r hr
      obtain ⟨r', hr', hcase⟩ := hswept r.id r (Records.row_of_mem (mem_due.1 hr).1)
      refine ⟨r', hr', ?_⟩
      rcases hcase with rfl | ⟨-, rfl⟩
      · have hstill : r' ∈ due now (passes limit nows db) := mem_due.2 ⟨Records.mem_of_row hr', (mem_due.1 hr).2⟩
        rw [hempty] at hstill
        cases hstill
      · exact ⟨rfl, rfl, rfl⟩
    · intro r hr hnot
      obtain ⟨r', hr', hcase⟩ := hswept r.id r (Records.row_of_mem hr)
      rcases hcase with rfl | ⟨hdue, -⟩
      · exact hr'
      · obtain ⟨hhold, hdeadline, -⟩ := due_iff.1 hdue
        rcases hnot with h | h
        · rw [hhold] at h
          cases h
        · exact absurd hdeadline (not_le.2 h)
    · have hlater : ∀ r ∈ (passes limit nows db).records.rows, r.retentionDeadline ≤ later ↔ r.retentionDeadline ≤ now :=
        passes_frozen hf later List.mem_cons_self
      rw [sweep_frozen hlater]
      exact sweep_idle hempty

/-! ## A resolved record -/

namespace Resolved

def record (id : Uuid) (status : Status) (deadline : Time) : Record :=
  { id := id, serverCorrelationId := "corr", authenticatedPublisherId := "publisher-test", payloadFingerprint := "f",
    sanitizedPreview := .obj [], reasonCode := "schema_rejected", status := status, receivedAt := 0,
    retentionDeadline := deadline, retentionPolicyVersion := "v1", encryptedPayload := some [1],
    encryptionNonce := some [2], encryptionKeyVersion := some "k1" }

/-- A rejected record, and a pending one that fell due after it. -/
def db : Db := { records := ⟨[record "a" .rejected 5, record "b" .pendingReview 6], by decide⟩ }

end Resolved

/-- Two passes of one row each over two due records destroy the rejected one twice and never reach the pending one; a third
one changes the rejected one again. -/
theorem rejected_swept_again : ¬Progress 1 10 Resolved.db ∧
    ((passes 1 [10, 10] Resolved.db).records.rows.map fun r => (r.id, r.encryptedPayload.isSome, r.recordVersion)) =
      [("a", false, 3), ("b", true, 1)] ∧
    ((passes 1 [10, 10] Resolved.db).audit.map fun e => (e.action, e.subject)) =
      [("quarantine.encrypted_payload_destroyed", "a"), ("quarantine.encrypted_payload_destroyed", "a")] ∧
    ((passes 1 [10, 10, 10] Resolved.db).records.rows.map fun r => (r.id, r.encryptedPayload.isSome, r.recordVersion)) =
      [("a", false, 4), ("b", true, 1)] := by
  refine ⟨?_, by decide, by decide, by decide⟩
  intro h
  have hfrozen : Frozen 10 [10, 10, 10] Resolved.db := by
    intro now' hnow r _
    have hnow' : now' = 10 := by simpa using hnow
    rw [hnow']
  obtain ⟨hdestroyed, -, -⟩ := h [10, 10] 10 (by decide) hfrozen
  obtain ⟨r, hr, hgone, -, -⟩ := hdestroyed (Resolved.record "b" .pendingReview 6) (mem_due.2 ⟨by simp [Resolved.db], by decide⟩)
  have hpayload := congrArg (fun x : Option Record => x.map (·.encryptedPayload)) hr
  rw [Option.map_some, hgone] at hpayload
  revert hpayload
  decide

/-- Two pending records are gone after two passes of one row. -/
theorem progress_pending : Progress 1 10
    { records := ⟨[Resolved.record "a" .pendingReview 5, Resolved.record "b" .pendingReview 6], by decide⟩ } :=
  (progress_iff 1 10 _ (by decide)).2 (by decide)

end Middleware.Quarantine
