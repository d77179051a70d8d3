/-
Packing a sequence in order into parts of one capacity, with no item split: placing each item at the end of what is placed,
or at the next boundary where it would go across it, takes the least number of parts.
-/
import Mathlib.Algebra.Order.BigOperators.Group.List
import Mathlib.Data.List.Induction
import Mathlib.Tactic.Ring

namespace Middleware.Lib.Packing

variable {A : Type*} (cap : Nat) (size : A → Nat)

/-- The end of an item placed after `pos`. -/
def place (pos : Nat) (x : A) : Nat := if pos % cap + size x ≤ cap then pos + size x else (pos / cap + 1) * cap + size x

/-- The end of the last item when the first one is placed at `0`. -/
def finish (items : List A) : Nat := items.foldl (place cap size) 0

/-- `n` parts carry the items. -/
def Packs (n : Nat) (items : List A) : Prop :=
  ∃ parts : List (List A), parts.flatten = items ∧ parts.length = n ∧ ∀ p ∈ parts, (p.map size).sum ≤ cap

variable {cap size} {items : List A} {n : Nat}

theorem Packs.sum_le (h : Packs cap size n items) : (items.map size).sum ≤ n * cap := by
  obtain ⟨parts, rfl, rfl, hle⟩ := h
  have hsum := List.sum_le_card_nsmul (parts.map fun p => (p.map size).sum) cap (by simpa using hle)
  simpa [List.map_flatten, List.sum_flatten, Function.comp_def] using hsum

/-- An item that fits after `k` parts and `u` units ends within them and itself. -/
theorem place_le {k u pos : Nat} {x : A} (hpos : pos ≤ k * cap + u) (hfits : u + size x ≤ cap) :
    place cap size pos x ≤ k * cap + (u + size x) := by
  unfold place
  split
  · omega
  · rename_i h
    have hlt : pos / cap < k := by
      by_contra hge
      have hmod := Nat.div_add_mod pos cap
      have hmul : k * cap ≤ cap * (pos / cap) := by
        rw [Nat.mul_comm]
        exact Nat.mul_le_mul_left cap (by omega)
      omega
    have hmul : (pos / cap + 1) * cap ≤ k * cap := Nat.mul_le_mul_right cap hlt
    omega

theorem foldl_le {k u pos : Nat} (hpos : pos ≤ k * cap + u) (hfits : u + (items.map size).sum ≤ cap) :
    items.foldl (place cap size) pos ≤ k * cap + (u + (items.map size).sum) := by
  induction items generalizing u pos with
  | nil => simpa using hpos
  | cons x items ih =>
    simp only [List.map_cons, List.sum_cons] at hfits
    have hrest := ih (u := u + size x) (place_le hpos (by omega)) (by omega)
    simp only [List.map_cons, List.sum_cons, List.foldl_cons]
    omega

theorem flatten_le {parts : List (List A)} {k pos : Nat} (hpos : pos ≤ k * cap) (h : ∀ p ∈ parts, (p.map size).sum ≤ cap) :
    parts.flatten.foldl (place cap size) pos ≤ (k + parts.length) * cap := by
  induction parts generalizing k pos with
  | nil => simpa using hpos
  | cons p parts ih =>
    obtain ⟨hp, hparts⟩ := List.forall_mem_cons.1 h
    have hpart := foldl_le (u := 0) (by simpa using hpos) (by simpa using hp)
    have hnext : p.foldl (place cap size) pos ≤ (k + 1) * cap := by
      rw [Nat.add_mul]
      omega
    have hrest := ih hnext hparts
    simpa [Nat.add_assoc, Nat.add_comm 1] using hrest

/-- Placing the items fills the parts `filled` and has begun `last`. -/
structure Filled (cap : Nat) (size : A → Nat) (items : List A) (filled : List (List A)) (last : List A) : Prop where
  flatten : filled.flatten ++ last = items
  le : ∀ p ∈ filled ++ [last], (p.map size).sum ≤ cap
  pos : items ≠ [] → 0 < (last.map size).sum
  finish : finish cap size items = filled.length * cap + (last.map size).sum

theorem exists_filled (h : ∀ x ∈ items, 0 < size x ∧ size x ≤ cap) : ∃ filled last, Filled cap size items filled last := by
  induction items using List.reverseRecOn with
  | nil => exact ⟨[], [], by simp, by simp, by simp, by simp [Packing.finish]⟩
  | append_singleton items x ih =>
    obtain ⟨filled, last, hflatten, hle, -, hfinish⟩ := ih fun y hy => h y (by simp [hy])
    obtain ⟨hpos, hx⟩ := h x (by simp)
    have hlast : (last.map size).sum ≤ cap := hle last (by simp)
    have hstep : Packing.finish cap size (items ++ [x]) = place cap size (filled.length * cap + (last.map size).sum) x := by
      rw [← hfinish]
      simp [Packing.finish]
    -- the item begins a part where the last one is full or has no room for it
    have hnew (hend : place cap size (filled.length * cap + (last.map size).sum) x = (filled.length + 1) * cap + size x) :
        Filled cap size (items ++ [x]) (filled ++ [last]) [x] := by
      refine ⟨by simp [← hflatten], ?_, by simpa using hpos, by simpa using hstep.trans hend⟩
      intro p hp
      rcases List.mem_append.1 hp with hp | hp
      · exact hle p hp
      · simpa [List.mem_singleton.1 hp] using hx
    rcases hlast.eq_or_lt with hfull | hroom
    · refine ⟨_, _, hnew ?_⟩
      rw [hfull, place, if_pos (by simpa using hx)]
      ring
    · have hmod : (filled.length * cap + (last.map size).sum) % cap = (last.map size).sum := by
        rw [Nat.mul_add_mod_self_right, Nat.mod_eq_of_lt hroom]
      by_cases hfits : (last.map size).sum + size x ≤ cap
      · refine ⟨filled, last ++ [x], by simp [← hflatten], ?_, fun _ => by simp; omega, ?_⟩
        · intro p hp
          rcases List.mem_append.1 hp with hp | hp
          · exact hle p (by simp [hp])
          · simpa [List.mem_singleton.1 hp] using hfits
        · rw [hstep, place, if_pos (by rwa [hmod])]
          simp [Nat.add_assoc]
      · refine ⟨_, _, hnew ?_⟩
        rw [place, if_neg (by rwa [hmod]), Nat.add_comm (filled.length * cap), Nat.add_mul_div_right _ _ (by omega),
          Nat.div_eq_of_lt hroom]
        ring

/-- **Placing in order is least.** `n` parts carry the items exactly if the items end within them. -/
theorem packs_iff (h : ∀ x ∈ items, 0 < size x ∧ size x ≤ cap) : Packs cap size n items ↔ finish cap size items ≤ n * cap := by
  constructor
  · rintro ⟨parts, rfl, rfl, hle⟩
    simpa [finish] using flatten_le (Nat.zero_le (0 * cap)) hle
  · intro hend
    obtain ⟨filled, last, hitems, hle, hlast, hfinish⟩ := exists_filled h
    by_cases hnil : items = []
    · subst hnil
      exact ⟨List.replicate n [], by simp, by simp, by simp +contextual⟩
    · have hlt : filled.length < n := by
        have hpos := hlast hnil
        exact Nat.lt_of_mul_lt_mul_right (a := cap) (by omega)
      -- parts that are left over carry nothing
      refine ⟨filled ++ [last] ++ List.replicate (n - filled.length - 1) [], by simpa using hitems, by simp; omega, ?_⟩
      intro p hp
      rcases List.mem_append.1 hp with hp | hp
      · exact hle p hp
      · simp [List.eq_of_mem_replicate hp]

end Middleware.Lib.Packing
