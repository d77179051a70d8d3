/-
One statement on one row of a keyed table: `UPDATE ... WHERE key = k AND guard RETURNING`. The row is read under its
key, and written only where the guard holds; a row that breaks a constraint of the table fails the statement and leaves
the table as it was.
-/
import Middleware.Lib.Rows

namespace Middleware.Lib

variable {R K ε : Type} [DecidableEq K]

def rowAt (key : R → K) (k : K) (t : List R) : Option R := t.find? fun r => decide (key r = k)

/-- Write the row under a key where the guard holds and return it. -/
def updateOne (key : R → K) (e : ε) (valid : R → Bool) (k : K) (guard : R → Bool) (f : R → R) (t : List R) :
    Except ε (Option R) × List R :=
  match rowAt key k t with
  | none => (.ok none, t)
  | some r =>
    if !guard r then (.ok none, t)
    else if !valid (f r) then (.error e, t)
    else (.ok (some (f r)), t.map fun x => if key x = k then f x else x)

variable {key : R → K} {e : ε} {valid guard : R → Bool} {k k' : K} {f : R → R} {t : List R} {r : R}

theorem key_of_rowAt (h : rowAt key k t = some r) : key r = k := key_of_find h

theorem rowAt_mem (h : rowAt key k t = some r) : r ∈ t := List.mem_of_find?_eq_some h

theorem rowAt_of_mem (hn : (t.map key).Nodup) (h : r ∈ t) : rowAt key (key r) t = some r := find_of_mem hn h

theorem rowAt_append_row (t : List R) (r : R) :
    rowAt key k (t ++ [r]) = (rowAt key k t).or (if key r = k then some r else none) := find_append_row t r

theorem rowAt_append (h : rowAt key k t = some r) (t' : List R) : rowAt key k (t ++ t') = some r := by
  unfold rowAt at h ⊢
  rw [List.find?_append, h]
  rfl

theorem rowAt_map_at (hf : ∀ r, key (f r) = key r) :
    rowAt key k' (t.map fun x => if key x = k then f x else x) =
      if k' = k then (rowAt key k' t).map f else rowAt key k' t := by
  unfold rowAt
  rw [find_map_at fun r hr => (hf r).trans hr]
  by_cases h : k' = k
  · simp [h]
  · simp [h]

/-- `UPDATE ... WHERE key IN ks`: the rows under these keys change. -/
theorem rowAt_map_in (hf : ∀ r, key (f r) = key r) (ks : List K) (t : List R) :
    rowAt key k (t.map fun x => if ks.contains (key x) then f x else x) =
      (rowAt key k t).map fun r => if ks.contains k then f r else r := by
  unfold rowAt
  rw [find_map_row]
  · cases h : t.find? fun r => decide (key r = k) with
    | none => rfl
    | some r => rw [Option.map_some, Option.map_some, key_of_find h]
  · intro r
    split
    · exact hf r
    · rfl

theorem keys_map_in (hf : ∀ r, key (f r) = key r) (ks : List K) (t : List R) :
    (t.map fun x => if ks.contains (key x) then f x else x).map key = t.map key := by
  rw [List.map_map]
  refine List.map_congr_left fun r _ => ?_
  simp only [Function.comp]
  split
  · exact hf r
  · rfl

/-- A statement writes nothing and returns no row, or it writes the rows under its key. -/
theorem updateOne_write : ((∀ r, (updateOne key e valid k guard f t).1 ≠ .ok (some r)) ∧ (updateOne key e valid k guard f t).2 = t) ∨
    ∃ r, rowAt key k t = some r ∧ guard r = true ∧ (updateOne key e valid k guard f t).1 = .ok (some (f r)) ∧
      (updateOne key e valid k guard f t).2 = t.map fun x => if key x = k then f x else x := by
  unfold updateOne
  split
  · exact .inl ⟨by simp, rfl⟩
  rename_i r hr
  split
  · exact .inl ⟨by simp, rfl⟩
  rename_i hguard
  split
  · exact .inl ⟨by simp, rfl⟩
  · exact .inr ⟨r, hr, by simpa using hguard, rfl, rfl⟩

/-- A statement writes the row its guard holds of and returns it, or writes nothing and returns no row. -/
theorem updateOne_cases (hf : ∀ r, key (f r) = key r) :
    ((∀ r, (updateOne key e valid k guard f t).1 ≠ .ok (some r)) ∧ (updateOne key e valid k guard f t).2 = t) ∨
    ∃ r, rowAt key k t = some r ∧ guard r = true ∧ (updateOne key e valid k guard f t).1 = .ok (some (f r)) ∧
      ∀ k', rowAt key k' (updateOne key e valid k guard f t).2 = if k' = k then some (f r) else rowAt key k' t := by
  rcases @updateOne_write R K ε _ key e valid guard k f t with h | ⟨r, hr, hguard, hreply, hwrite⟩
  · exact .inl h
  refine .inr ⟨r, hr, hguard, hreply, fun k' => ?_⟩
  rw [hwrite, rowAt_map_at hf]
  by_cases h : k' = k
  · subst h
    simp [hr]
  · simp [h]

end Middleware.Lib
