/-
Ordered dictionaries as caches: an entry that is used goes to the end, and a dictionary that is too long loses the entries
at its front.
-/
import Middleware.Lib.OrderedDict

namespace Middleware.Lib.OrderedDict

variable {K V : Type} [DecidableEq K] {d : OrderedDict K V} {k k' : K} {v : V}

/-- `d.pop(key, None)`. -/
def pop (d : OrderedDict K V) (key : K) : OrderedDict K V := d.filter fun m => m.1 ≠ key

/-- `d.move_to_end(key)`. -/
def moveToEnd (d : OrderedDict K V) (key : K) : OrderedDict K V :=
  match d.get key with
  | some v => d.pop key ++ [(key, v)]
  | none => d

/-- `while len(d) > n: d.popitem(last=False)`. -/
def keepLast (n : Nat) (d : OrderedDict K V) : OrderedDict K V := d.drop (d.length - n)

/-- The keys that `keepLast` loses. -/
def lost (n : Nat) (d : OrderedDict K V) : List K := keys (d.take (d.length - n))

theorem get_pop : (d.pop k).get k' = if k' = k then none else d.get k' := by
  induction d with
  | nil => simp [pop]
  | cons m rest ih =>
    obtain ⟨key, value⟩ := m
    unfold pop at ih ⊢
    rw [List.filter_cons]
    by_cases hkey : key = k
    · subst hkey
      simp only [ne_eq, not_true_eq_false, decide_false, Bool.false_eq_true, if_false]
      rw [ih]
      by_cases h : k' = key
      · rw [if_pos h, if_pos h]
      · rw [if_neg h, if_neg h]
        exact (if_neg (Ne.symm h)).symm
    · simp only [ne_eq, hkey, not_false_eq_true, decide_true, if_true]
      unfold get
      by_cases h : key = k'
      · subst h
        rw [if_pos rfl, if_pos rfl, if_neg hkey]
      · rw [if_neg h, if_neg h, ih]

theorem keys_pop : (d.pop k).keys = d.keys.filter (· ≠ k) := by
  unfold pop keys
  rw [List.filter_map]
  rfl

theorem nodup_keys_pop (h : d.keys.Nodup) (k : K) : (d.pop k).keys.Nodup := by
  rw [keys_pop]
  exact h.filter _

theorem get_append (d d' : OrderedDict K V) (k : K) : get (d ++ d') k = (get d k).or (get d' k) := by
  induction d with
  | nil => rfl
  | cons m rest ih =>
    obtain ⟨key, value⟩ := m
    have hcons : ∀ rest : OrderedDict K V, get ((key, value) :: rest) k = if key = k then some value else get rest k := fun _ => rfl
    rw [List.cons_append, hcons, hcons, ih]
    by_cases h : key = k
    · rw [if_pos h, if_pos h]
      rfl
    · rw [if_neg h, if_neg h]

@[simp] theorem get_moveToEnd (d : OrderedDict K V) (k k' : K) : (d.moveToEnd k).get k' = d.get k' := by
  unfold moveToEnd
  split
  · rename_i v hv
    rw [get_append, get_pop]
    by_cases h : k' = k
    · subst h
      simp [hv, get]
    · simp [h, get, Ne.symm h]
  · rfl

theorem nodup_keys_moveToEnd (h : d.keys.Nodup) (k : K) : (d.moveToEnd k).keys.Nodup := by
  unfold moveToEnd
  split
  · rename_i v hv
    have hkeys : keys (d.pop k ++ [(k, v)]) = (d.pop k).keys ++ [k] := by simp [keys]
    rw [hkeys, List.nodup_append]
    refine ⟨nodup_keys_pop h k, List.nodup_singleton k, fun a ha b hb => ?_⟩
    rw [keys_pop, List.mem_filter] at ha
    rw [List.mem_singleton.1 hb]
    simpa using ha.2
  · exact h

omit [DecidableEq K] in
theorem nodup_keys_keepLast (h : d.keys.Nodup) (n : Nat) : (keepLast n d).keys.Nodup := by
  unfold keepLast keys at *
  rw [List.map_drop]
  exact h.sublist (List.drop_sublist _ _)

/-- A key is lost or keeps what it reads. -/
theorem get_keepLast (h : d.keys.Nodup) (n : Nat) (k : K) :
    (keepLast n d).get k = if k ∈ lost n d then none else d.get k := by
  have hsplit := List.take_append_drop (d.length - n) d
  have hread : d.get k = (get (d.take (d.length - n)) k).or ((keepLast n d).get k) := by
    conv_lhs => rw [← hsplit]
    exact get_append _ _ k
  split
  · rename_i hlost
    rw [get_eq_none]
    intro hkept
    have hkeys : d.keys = lost n d ++ (keepLast n d).keys := by
      unfold lost keepLast keys
      rw [← List.map_append, hsplit]
    rw [hkeys, List.nodup_append] at h
    exact h.2.2 k hlost k hkept rfl
  · rename_i hlost
    have hnone : get (d.take (d.length - n)) k = none := get_eq_none.2 hlost
    rw [hread, hnone]
    rfl

end Middleware.Lib.OrderedDict
