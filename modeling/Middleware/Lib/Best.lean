/-
The best of a list: the first of its highest elements by a key, or a default. Its key is the least bound of the keys, so it
depends on which elements there are and neither on their order nor on their number.
-/
import Mathlib

namespace Middleware.Lib

variable {A K : Type} [LinearOrder K] (key : A → K)

/-- The first of the highest, beginning with one. -/
def bestFrom : A → List A → A
  | a, [] => a
  | a, b :: rest => bestFrom (if key a < key b then b else a) rest

/-- `max(values, key=key, default=default)`. -/
def best (default : A) : List A → A
  | [] => default
  | a :: rest => bestFrom key a rest

variable {key} {default : A} {l l' : List A} {k : K}

theorem bestFrom_le_iff {a : A} : key (bestFrom key a l) ≤ k ↔ key a ≤ k ∧ ∀ b ∈ l, key b ≤ k := by
  induction l generalizing a with
  | nil => simp [bestFrom]
  | cons b rest ih =>
    unfold bestFrom
    rw [ih, List.forall_mem_cons]
    split
    · rename_i hlt
      constructor
      · rintro ⟨hb, hrest⟩
        exact ⟨le_trans hlt.le hb, hb, hrest⟩
      · rintro ⟨-, hb, hrest⟩
        exact ⟨hb, hrest⟩
    · rename_i hge
      constructor
      · rintro ⟨ha, hrest⟩
        exact ⟨ha, le_trans (not_lt.1 hge) ha, hrest⟩
      · rintro ⟨ha, -, hrest⟩
        exact ⟨ha, hrest⟩

/-- A bound of the best is a bound of all, where nothing is below the default. -/
theorem best_le_iff (hdefault : ∀ a ∈ l, key default ≤ key a) :
    key (best key default l) ≤ k ↔ key default ≤ k ∧ ∀ a ∈ l, key a ≤ k := by
  cases l with
  | nil => simp [best]
  | cons a rest =>
    have hfirst : key default ≤ key a := hdefault a List.mem_cons_self
    unfold best
    rw [bestFrom_le_iff, List.forall_mem_cons]
    constructor
    · rintro ⟨ha, hrest⟩
      exact ⟨le_trans hfirst ha, ha, hrest⟩
    · rintro ⟨-, ha, hrest⟩
      exact ⟨ha, hrest⟩

end Middleware.Lib
