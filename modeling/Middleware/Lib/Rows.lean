/-
Tables as lists of rows with a key: reading the row under a key after an update that keeps the keys, after an
append, and in a table whose keys are distinct; rows that are inserted only under a free key; and two tables that agree
row by row.
-/
import Mathlib

namespace Middleware.Lib

variable {R K : Type} [DecidableEq K] {key : R → K} {t : List R} {k : K} {r : R}

theorem key_of_find (h : t.find? (fun r => decide (key r = k)) = some r) : key r = k := by
  simpa using List.find?_some h

/-- An update that keeps the keys is applied to the row read. -/
theorem find_map_row {f : R → R} (hf : ∀ r, key (f r) = key r) (t : List R) :
    (t.map f).find? (fun r => decide (key r = k)) = (t.find? fun r => decide (key r = k)).map f := by
  rw [List.find?_map]
  congr 2
  funext r
  simp [hf]

theorem find_map_at {f : R → R} {i : K} (hf : ∀ r, key r = i → key (f r) = i) (t : List R) :
    (t.map fun r => if key r = i then f r else r).find? (fun r => decide (key r = k)) =
      (t.find? fun r => decide (key r = k)).map fun r => if k = i then f r else r := by
  rw [find_map_row]
  · cases h : t.find? fun r => decide (key r = k) with
    | none => rfl
    | some r => simp [key_of_find h]
  · intro r
    split
    · rename_i hr
      rw [hf r hr, hr]
    · rfl

theorem keys_map_at {f : R → R} {i : K} (hf : ∀ r, key r = i → key (f r) = i) (t : List R) :
    (t.map fun r => if key r = i then f r else r).map key = t.map key := by
  rw [List.map_map]
  refine List.map_congr_left fun r _ => ?_
  simp only [Function.comp]
  split
  · rename_i hr
    rw [hf r hr, hr]
  · rfl

theorem filter_map_at (key : R → K) {i : K} (f : R → R) (hf : ∀ r, key r = i → key (f r) = i) (t : List R) (k : K) :
    (t.map fun r => if key r = i then f r else r).filter (fun r => decide (key r = k)) =
      if k = i then (t.filter fun r => decide (key r = k)).map f else t.filter fun r => decide (key r = k) := by
  induction t with
  | nil => simp
  | cons r rest ih =>
    rw [List.map_cons, List.filter_cons, List.filter_cons, ih]
    by_cases hr : key r = i
    · have hfr := hf r hr
      by_cases hk : k = i
      · simp [hr, hk, hfr]
      · simp [hr, hk, hfr, Ne.symm hk]
    · by_cases hk : k = i
      · simp [hr, hk]
      · simp [hr, hk]

theorem find_of_mem (hn : (t.map key).Nodup) (hr : r ∈ t) : t.find? (fun x => decide (key x = key r)) = some r := by
  induction t with
  | nil => cases hr
  | cons x rest ih =>
    rw [List.map_cons, List.nodup_cons] at hn
    rcases List.mem_cons.1 hr with rfl | hr
    · simp
    · have hne : key x ≠ key r := fun h => hn.1 (h ▸ List.mem_map_of_mem hr)
      simp [hne, ih hn.2 hr]

theorem find_append_row (t : List R) (r : R) : (t ++ [r]).find? (fun x => decide (key x = k)) =
    (t.find? fun x => decide (key x = k)).or (if key r = k then some r else none) := by
  by_cases h : key r = k
  · simp [h]
  · simp [h]

theorem not_mem_keys (h : t.find? (fun x => decide (key x = k)) = none) : k ∉ t.map key := by
  intro hk
  obtain ⟨r, hr, rfl⟩ := List.mem_map.1 hk
  exact absurd (List.find?_eq_none.1 h r hr) (by simp)

theorem nodup_keys_append (hn : (t.map key).Nodup) (h : t.find? (fun x => decide (key x = key r)) = none) :
    ((t ++ [r]).map key).Nodup := by
  rw [List.map_append, List.nodup_append]
  refine ⟨hn, by simp, fun a ha b hb => ?_⟩
  rw [List.map_singleton, List.mem_singleton] at hb
  subst hb
  rintro rfl
  exact not_mem_keys h ha

theorem filter_key (hn : (t.map key).Nodup) (k : K) :
    (t.filter fun r => decide (key r = k)) = (t.find? fun r => decide (key r = k)).toList := by
  induction t with
  | nil => rfl
  | cons x rest ih =>
    rw [List.map_cons, List.nodup_cons] at hn
    by_cases hx : key x = k
    · have hrest : (rest.filter fun r => decide (key r = k)) = [] := by
        refine List.filter_eq_nil_iff.2 fun r hr hk => hn.1 ?_
        rw [hx, ← of_decide_eq_true hk]
        exact List.mem_map_of_mem hr
      simp [hx, hrest]
    · simp [hx, ih hn.2]

theorem countP_key_le (hn : (t.map key).Nodup) (k : K) : t.countP (fun r => decide (key r = k)) ≤ 1 := by
  rw [List.countP_eq_length_filter, filter_key hn]
  cases t.find? fun r => decide (key r = k) <;> simp

theorem countP_le_add {p q o : R → Bool} (h : ∀ r ∈ t, p r = true → q r = true ∨ o r = true) :
    t.countP p ≤ t.countP q + t.countP o := by
  induction t with
  | nil => simp
  | cons r rest ih =>
    have hrest := ih fun x hx => h x (List.mem_cons_of_mem _ hx)
    have hr := h r List.mem_cons_self
    rw [List.countP_cons, List.countP_cons, List.countP_cons]
    cases hp : p r with
    | false => simp; omega
    | true =>
      rcases hr hp with hq | hq <;> simp [hq] <;> omega

/-! ## Rows inserted once -/

/-- `ON CONFLICT (key) DO NOTHING`. -/
def insertNew (key : R → K) (t : List R) (r : R) : List R :=
  if t.any fun x => decide (key x = key r) then t else t ++ [r]

variable {x : R} {rs : List R}

theorem sub_insertNew (h : x ∈ t) : x ∈ insertNew key t r := by
  unfold insertNew
  split
  · exact h
  · exact List.mem_append_left _ h

theorem mem_inserted (h : x ∈ rs.foldl (insertNew key) t) : x ∈ t ∨ x ∈ rs := by
  induction rs generalizing t with
  | nil => exact .inl h
  | cons r rs ih =>
    rcases ih h with h | h
    · unfold insertNew at h
      split at h
      · exact .inl h
      · rcases List.mem_append.1 h with h | h
        · exact .inl h
        · exact .inr (by simp [List.mem_singleton.1 h])
    · exact .inr (List.mem_cons_of_mem _ h)

theorem sub_inserted (h : x ∈ t) : x ∈ rs.foldl (insertNew key) t := by
  induction rs generalizing t with
  | nil => exact h
  | cons r rs ih => exact ih (sub_insertNew h)

/-- There is a row under the key of every insertion. -/
theorem inserted_of_mem (key : R → K) (h : r ∈ rs) : ∃ x ∈ rs.foldl (insertNew key) t, key x = key r := by
  induction rs generalizing t with
  | nil => cases h
  | cons d rs ih =>
    rcases List.mem_cons.1 h with rfl | h
    · have hrow : ∃ x ∈ insertNew key t r, key x = key r := by
        unfold insertNew
        split
        · rename_i hany
          obtain ⟨x, hx, hk⟩ := List.any_eq_true.1 hany
          exact ⟨x, hx, of_decide_eq_true hk⟩
        · exact ⟨r, by simp, rfl⟩
      obtain ⟨x, hx, hk⟩ := hrow
      refine ⟨x, ?_, hk⟩
      rw [List.foldl_cons]
      exact sub_inserted hx
    · exact ih h

section Part

variable {A : Type} [DecidableEq A]

theorem insertNew_filter (key : R → K) (part : K → A) (t : List R) (r : R) (a : A) :
    (insertNew key t r).filter (fun x => decide (part (key x) = a)) =
      if part (key r) = a then insertNew key (t.filter fun x => decide (part (key x) = a)) r
      else t.filter fun x => decide (part (key x) = a) := by
  by_cases ha : part (key r) = a
  · have hany : ((t.filter fun x => decide (part (key x) = a)).any fun x => decide (key x = key r)) =
        t.any fun x => decide (key x = key r) := by
      rw [List.any_filter]
      congr 1
      funext x
      by_cases hx : key x = key r
      · simp [hx, ha]
      · simp [hx]
    unfold insertNew
    rw [hany]
    split
    · rfl
    · simp [List.filter_append, ha]
  · unfold insertNew
    split
    · rfl
    · simp [List.filter_append, ha]

/-- The rows of one part of the keys are the insertions of that part. -/
theorem inserted_filter (key : R → K) (part : K → A) (rs t : List R) (a : A) :
    (rs.foldl (insertNew key) t).filter (fun x => decide (part (key x) = a)) =
      (rs.filter fun x => decide (part (key x) = a)).foldl (insertNew key) (t.filter fun x => decide (part (key x) = a)) := by
  induction rs generalizing t with
  | nil => rfl
  | cons r rs ih =>
    rw [List.foldl_cons, ih, insertNew_filter]
    by_cases ha : part (key r) = a
    · simp [ha]
    · simp [ha]

end Part

omit [DecidableEq K] in
/-- With distinct keys, a condition on the row under one key filters what is found there. -/
theorem find_and {p q : R → Bool} (hn : (t.map key).Nodup) (hp : ∀ r, p r = true → key r = k) :
    t.find? (fun r => p r && q r) = (t.find? p).filter q := by
  induction t with
  | nil => rfl
  | cons r rest ih =>
    rw [List.map_cons, List.nodup_cons] at hn
    cases hpr : p r with
    | false => simp only [List.find?_cons, hpr, Bool.false_and, ih hn.2]
    | true =>
      cases hqr : q r with
      | true => simp [hpr, hqr, Option.filter]
      | false =>
        have hrest : rest.find? (fun r => p r && q r) = none := by
          refine List.find?_eq_none.2 fun r' hr' hb => hn.1 ?_
          rw [Bool.and_eq_true] at hb
          rw [hp r hpr, ← hp r' hb.1]
          exact List.mem_map_of_mem hr'
        simp [hpr, hqr, hrest, Option.filter]

/-! ## Two tables row by row -/

section Agree

variable {A B A' B' : Type} {rel : A → B → Prop} {rel' : A' → B' → Prop} {l : List A} {l' : List B}

/-- After an update of both tables the rows agree exactly when each update agrees. -/
theorem forall₂_map_iff {f : A → A'} {g : B → B'} {p : A → Prop} (h : List.Forall₂ rel l l')
    (hp : ∀ a b, rel a b → (rel' (f a) (g b) ↔ p a)) : List.Forall₂ rel' (l.map f) (l'.map g) ↔ ∀ a ∈ l, p a := by
  induction h with
  | nil => simp
  | @cons a b l l' hab _ ih =>
    rw [List.map_cons, List.map_cons, List.forall₂_cons, ih, hp a b hab, List.forall_mem_cons]

theorem forall₂_exists {p : A → Prop} {q : B → Prop} (h : List.Forall₂ rel l l') (hpq : ∀ a b, rel a b → (p a ↔ q b)) :
    (∃ a ∈ l, p a) ↔ ∃ b ∈ l', q b := by
  induction h with
  | nil => simp
  | @cons a b l l' hab _ ih =>
    simp only [List.exists_mem_cons_iff]
    rw [ih, hpq a b hab]

end Agree

end Middleware.Lib
