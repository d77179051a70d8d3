/-
Dictionaries that keep the order in which their keys came in: an entry that is written again keeps its place, a new one
goes to the end.
-/
import Mathlib

namespace Middleware.Lib

/-- A dictionary as its items, in the order in which their keys came in. -/
abbrev OrderedDict (K V : Type) := List (K × V)

namespace OrderedDict

variable {K V : Type} [DecidableEq K] {d : OrderedDict K V} {k k' : K} {v v' : V}

/-- `d.get(key)`. -/
def get : OrderedDict K V → K → Option V
  | [], _ => none
  | (k, v) :: rest, key => if k = key then some v else get rest key

/-- `d[key] = value`. -/
def set : OrderedDict K V → K → V → OrderedDict K V
  | [], key, value => [(key, value)]
  | (k, v) :: rest, key, value => if k = key then (k, value) :: rest else (k, v) :: set rest key value

def keys (d : OrderedDict K V) : List K := d.map (·.1)

@[simp] theorem get_nil : get ([] : OrderedDict K V) k = none := rfl

theorem get_set : (set d k v).get k' = if k' = k then some v else d.get k' := by
  induction d with
  | nil =>
    unfold set get
    by_cases h : k' = k
    · rw [if_pos h.symm, if_pos h]
    · rw [if_neg (Ne.symm h), if_neg h]
      rfl
  | cons m rest ih =>
    obtain ⟨key, value⟩ := m
    unfold set
    split
    · rename_i hk
      subst hk
      unfold get
      by_cases h : k' = key
      · rw [if_pos h.symm, if_pos h]
      · rw [if_neg (Ne.symm h), if_neg (Ne.symm h), if_neg h]
    · rename_i hk
      unfold get
      by_cases h : key = k'
      · rw [if_pos h, if_pos h, if_neg fun h' => hk (h.trans h')]
      · rw [if_neg h, if_neg h, ih]

@[simp] theorem get_set_self : (set d k v).get k = some v := by
  rw [get_set, if_pos rfl]

theorem get_set_ne (h : k' ≠ k) : (set d k v).get k' = d.get k' := by
  rw [get_set, if_neg h]

theorem mem_of_get (h : d.get k = some v) : (k, v) ∈ d := by
  induction d with
  | nil => cases h
  | cons m rest ih =>
    unfold get at h
    split at h
    · rename_i hk
      cases h
      rw [← hk]
      exact List.mem_cons_self
    · exact List.mem_cons_of_mem _ (ih h)

theorem keys_set : (set d k v).keys = if k ∈ d.keys then d.keys else d.keys ++ [k] := by
  induction d with
  | nil => rfl
  | cons m rest ih =>
    obtain ⟨key, value⟩ := m
    unfold set
    split
    · rename_i hk
      subst hk
      simp [keys]
    · rename_i hk
      have hkeys : keys ((key, value) :: rest) = key :: keys rest := rfl
      have hcons : keys ((key, value) :: set rest k v) = key :: keys (set rest k v) := rfl
      rw [hcons, ih, hkeys]
      by_cases h : k ∈ keys rest
      · rw [if_pos h, if_pos (List.mem_cons_of_mem _ h)]
      · rw [if_neg h, if_neg (by simp [Ne.symm hk, h])]
        rfl

theorem nodup_keys_set (h : d.keys.Nodup) : (set d k v).keys.Nodup := by
  rw [keys_set]
  split
  · exact h
  · rename_i hk
    rw [List.nodup_append]
    refine ⟨h, List.nodup_singleton k, fun a ha b hb heq => ?_⟩
    rw [List.mem_singleton.1 hb] at heq
    exact hk (heq ▸ ha)

theorem get_of_mem (hn : d.keys.Nodup) (h : (k, v) ∈ d) : d.get k = some v := by
  induction d with
  | nil => cases h
  | cons m rest ih =>
    obtain ⟨key, value⟩ := m
    obtain ⟨hnew, hrest⟩ := List.nodup_cons.1 hn
    unfold get
    rcases List.mem_cons.1 h with heq | hmem
    · cases heq
      rw [if_pos rfl]
    · have hne : key ≠ k := by
        intro heq
        exact hnew (by rw [heq]; exact List.mem_map.2 ⟨(k, v), hmem, rfl⟩)
      rw [if_neg hne]
      exact ih hrest hmem

omit [DecidableEq K] in
theorem mem_keys_of_mem (h : (k, v) ∈ d) : k ∈ d.keys := List.mem_map.2 ⟨(k, v), h, rfl⟩

theorem mem_keys_of_get (h : d.get k = some v) : k ∈ d.keys := mem_keys_of_mem (mem_of_get h)

theorem get_eq_none : d.get k = none ↔ k ∉ d.keys := by
  induction d with
  | nil => simp [get, keys]
  | cons m rest ih =>
    obtain ⟨key, value⟩ := m
    unfold get
    have hkeys : keys ((key, value) :: rest) = key :: keys rest := rfl
    rw [hkeys, List.mem_cons, not_or]
    split
    · rename_i hk
      simp [hk]
    · rename_i hk
      rw [ih]
      exact ⟨fun h => ⟨Ne.symm hk, h⟩, fun h => h.2⟩

theorem set_get (h : d.get k = some v) : set d k v = d := by
  induction d with
  | nil => cases h
  | cons m rest ih =>
    unfold get at h
    unfold set
    split at h
    · rename_i hk
      cases h
      rw [if_pos hk]
    · rename_i hk
      rw [if_neg hk, ih h]

theorem set_cons (key : K) (value : V) (rest : OrderedDict K V) :
    set ((key, value) :: rest) k v = if key = k then (key, v) :: rest else (key, value) :: set rest k v := rfl

theorem set_set : set (set d k v) k v' = set d k v' := by
  induction d with
  | nil => simp [set]
  | cons m rest ih =>
    obtain ⟨key, value⟩ := m
    rw [set_cons, set_cons]
    by_cases h : key = k
    · rw [if_pos h, if_pos h, set_cons, if_pos h]
    · rw [if_neg h, if_neg h, set_cons, if_neg h, ih]

theorem set_new (h : d.get k = none) : set d k v = d ++ [(k, v)] := by
  induction d with
  | nil => rfl
  | cons m rest ih =>
    unfold get at h
    split at h
    · cases h
    · rename_i hk
      unfold set
      rw [if_neg hk, ih h]
      rfl

theorem mem_set {m : K × V} (h : m ∈ set d k v) : m = (k, v) ∨ m ∈ d := by
  induction d with
  | nil => exact .inl (List.mem_singleton.1 h)
  | cons m' rest ih =>
    rw [set_cons] at h
    split at h
    · rename_i hk
      subst hk
      rcases List.mem_cons.1 h with rfl | hrest
      · exact .inl rfl
      · exact .inr (List.mem_cons_of_mem _ hrest)
    · rcases List.mem_cons.1 h with rfl | hrest
      · exact .inr List.mem_cons_self
      · rcases ih hrest with heq | hmem
        · exact .inl heq
        · exact .inr (List.mem_cons_of_mem _ hmem)

/-- The first item of a kind, after a new item came in. -/
theorem find?_set_new {p : K × V → Bool} (h : d.get k = none) :
    (set d k v).find? p = (d.find? p).or (if p (k, v) then some (k, v) else none) := by
  rw [set_new h, List.find?_append]
  congr 1
  rw [List.find?_singleton]

/-- The first item of a kind, after an item was written again and stayed of its kind. -/
theorem find?_set {p : K × V → Bool} (hn : d.keys.Nodup) (h : d.get k = some v) (hp : p (k, v') = p (k, v)) :
    (set d k v').find? p = (d.find? p).map fun m => if m.1 = k then (k, v') else m := by
  induction d with
  | nil => cases h
  | cons m rest ih =>
    obtain ⟨key, value⟩ := m
    obtain ⟨hnew, hrest⟩ := List.nodup_cons.1 hn
    unfold get at h
    rw [set_cons]
    split at h
    · rename_i hk
      subst hk
      cases h
      rw [if_pos rfl, List.find?_cons, List.find?_cons, hp]
      cases hpk : p (key, v) with
      | true => simp
      | false =>
        -- no later item has the key
        rcases hf : rest.find? p with _ | m
        · rfl
        · have hne : m.1 ≠ key := by
            intro heq
            exact hnew (List.mem_map.2 ⟨m, List.mem_of_find?_eq_some hf, heq⟩)
          simp [hne]
    · rename_i hk
      rw [if_neg hk, List.find?_cons, List.find?_cons]
      cases p (key, value) with
      | true => simp [hk]
      | false => exact ih hrest h

section Tally

variable {α : Type} (f : α → K)

/-- The number of the items of each kind. -/
theorem get_tally (l : List α) (counts : OrderedDict K Nat) (key : K) :
    (l.foldl (fun counts x => set counts (f x) ((counts.get (f x)).getD 0 + 1)) counts).get key =
      if l.countP (fun x => decide (f x = key)) = 0 then counts.get key
      else some ((counts.get key).getD 0 + l.countP fun x => decide (f x = key)) := by
  induction l generalizing counts with
  | nil => rfl
  | cons x rest ih =>
    rw [List.foldl_cons, ih, List.countP_cons, get_set]
    by_cases hx : f x = key
    · subst hx
      simp only [decide_true, ↓reduceIte, Option.getD_some, Nat.add_eq_zero_iff, one_ne_zero, and_false]
      split
      · rename_i hzero
        rw [hzero]
      · congr 1
        omega
    · rw [if_neg (Ne.symm hx)]
      simp [hx]

theorem get_tally_perm {l l' : List α} (h : l.Perm l') (counts : OrderedDict K Nat) (key : K) :
    (l.foldl (fun counts x => set counts (f x) ((counts.get (f x)).getD 0 + 1)) counts).get key =
      (l'.foldl (fun counts x => set counts (f x) ((counts.get (f x)).getD 0 + 1)) counts).get key := by
  rw [get_tally, get_tally, h.countP_eq]

end Tally
end OrderedDict

end Middleware.Lib
