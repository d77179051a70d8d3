/-
Ownership by prefix: every item has a key, and an item owns the texts that its key is a prefix of. A text that has exactly
one owner keeps it when items are added unless a new key is a prefix of it; whether some text loses its owner that way can
be read off the keys.
-/
import Mathlib

namespace Middleware.Lib

variable {P C : Type} [DecidableEq C] (key : P → List C)

/-- The items whose key is a prefix of the text. -/
def owners (ps : List P) (t : List C) : List P := ps.filter fun p => (key p).isPrefixOf t

/-- Exactly one item owns the text. -/
def Sole (ps : List P) (t : List C) : Prop := (owners key ps t).length = 1

variable {key} {ps qs : List P} {t u : List C} {p q : P}

theorem mem_owners : p ∈ owners key ps t ↔ p ∈ ps ∧ key p <+: t := by
  simp [owners, List.isPrefixOf_iff_prefix]

/-- A longer text has more owners. -/
theorem owners_sublist (h : u <+: t) : (owners key ps u).Sublist (owners key ps t) := by
  apply List.monotone_filter_right
  intro p hp
  rw [List.isPrefixOf_iff_prefix] at hp ⊢
  exact hp.trans h

theorem sole_of_owner (h : owners key ps t = [p]) (hu : u <+: t) (hp : key p <+: u) : Sole key ps u := by
  have hmem : p ∈ ps ∧ key p <+: t := mem_owners.1 (by simp [h])
  have hsub : (owners key ps u).Sublist (owners key ps t) := owners_sublist hu
  rw [h] at hsub
  have hle := hsub.length_le
  have hpos : 0 < (owners key ps u).length := List.length_pos_of_mem (mem_owners.2 ⟨hmem.1, hp⟩)
  simp only [List.length_singleton] at hle
  unfold Sole
  omega

/-- No text with one owner begins with a new key exactly when neither the new keys nor the old keys that extend them have
one owner. -/
theorem sole_kept_iff : (∀ t p, owners key ps t = [p] → ∀ q ∈ qs, ¬key q <+: t) ↔
    (∀ q ∈ qs, ¬Sole key ps (key q)) ∧ ∀ q ∈ qs, ∀ p ∈ ps, key q <+: key p → ¬Sole key ps (key p) := by
  constructor
  · intro h
    refine ⟨?_, ?_⟩
    · intro q hq hsole
      obtain ⟨p, hp⟩ := List.length_eq_one_iff.1 hsole
      exact h _ p hp q hq (List.prefix_refl _)
    · intro q hq p _ hqp hsole
      obtain ⟨p', hp'⟩ := List.length_eq_one_iff.1 hsole
      exact h _ p' hp' q hq hqp
  · rintro ⟨hnew, hold⟩ t p ht q hq hqt
    obtain ⟨hp, hpt⟩ := mem_owners.1 (show p ∈ owners key ps t by simp [ht])
    -- both keys are prefixes of the text, so one of them is a prefix of the other
    rcases List.prefix_or_prefix_of_prefix hpt hqt with hpq | hqp
    · exact hnew q hq (sole_of_owner ht hqt hpq)
    · exact hold q hq p hp hqp (sole_of_owner ht hpt (List.prefix_refl _))

theorem owners_append : owners key (ps ++ qs) t = owners key ps t ++ owners key qs t := List.filter_append ..

theorem owners_perm (h : ps.Perm qs) : (owners key ps t).Perm (owners key qs t) := h.filter _

/-- With more items a sole owner stays the sole owner unless a new key is a prefix of the text. -/
theorem owner_kept_iff {rs : List P} (hrs : rs.Perm (ps ++ qs)) (h : owners key ps t = [p]) :
    owners key rs t = [p] ↔ ∀ q ∈ qs, ¬key q <+: t := by
  have hperm : (owners key rs t).Perm (owners key (ps ++ qs) t) := owners_perm hrs
  rw [owners_append, h] at hperm
  constructor
  · intro hrs q hq hqt
    have hlen := hperm.length_eq
    have hpos : 0 < (owners key qs t).length := List.length_pos_of_mem (mem_owners.2 ⟨hq, hqt⟩)
    rw [hrs, List.length_append] at hlen
    omega
  · intro hno
    have hnil : owners key qs t = [] := by
      apply List.eq_nil_iff_forall_not_mem.2
      intro q hq
      obtain ⟨hq, hqt⟩ := mem_owners.1 hq
      exact hno q hq hqt
    rw [hnil, List.append_nil] at hperm
    exact List.perm_singleton.1 hperm

end Middleware.Lib
