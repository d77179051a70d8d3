/-
Numbered hash chains, several of them in one list. A chain of records starts at a number and a hash; each record carries
the next number and is bound to the hash of the record before it. A list that mixes the chains of several keys is read
chain by chain: what a record has to be bound to depends only on the earlier records under its key, and a stable sort
by key and number keeps every chain.
-/
import Mathlib

namespace Middleware.Lib

variable {R H K : Type}

/-! ## One chain -/

/-- `l` continues a chain whose last hash is `p` and whose next number is `n`; `ok p n r` binds a record. -/
def Linked (hash : R → H) (ok : H → Nat → R → Prop) : H → Nat → List R → Prop
  | _, _, [] => True
  | p, n, r :: rest => ok p n r ∧ Linked hash ok (hash r) (n + 1) rest

/-- The hash the next record is bound to. -/
def lastHash (hash : R → H) (p : H) (l : List R) : H := (l.getLast?.map hash).getD p

@[simp] theorem lastHash_nil (hash : R → H) (p : H) : lastHash hash p [] = p := rfl

@[simp] theorem lastHash_concat (hash : R → H) (p : H) (l : List R) (r : R) : lastHash hash p (l ++ [r]) = hash r := by
  simp [lastHash]

theorem lastHash_cons (hash : R → H) (p : H) (r : R) (l : List R) : lastHash hash p (r :: l) = lastHash hash (hash r) l := by
  cases l using List.reverseRecOn with
  | nil => rfl
  | append_singleton l x => rw [← List.cons_append, lastHash_concat, lastHash_concat]

section Linked

variable {hash : R → H} {ok : H → Nat → R → Prop} {p : H} {n : Nat}

theorem linked_append {l l' : List R} : Linked hash ok p n (l ++ l') ↔
    Linked hash ok p n l ∧ Linked hash ok (lastHash hash p l) (n + l.length) l' := by
  induction l generalizing p n with
  | nil => simp [Linked]
  | cons r l ih =>
    rw [List.cons_append, Linked, Linked, ih, lastHash_cons, List.length_cons]
    have hn : n + 1 + l.length = n + (l.length + 1) := by omega
    rw [hn, and_assoc]

theorem linked_concat {l : List R} {r : R} : Linked hash ok p n (l ++ [r]) ↔
    Linked hash ok p n l ∧ ok (lastHash hash p l) (n + l.length) r := by
  rw [linked_append, Linked, Linked, and_true]

/-- Numbers go up along a chain that binds them. -/
theorem Linked.numbers (number : R → Nat) (hnum : ∀ {p n r}, ok p n r → number r = n) {l : List R}
    (h : Linked hash ok p n l) : l.map number = (List.range l.length).map (n + ·) := by
  induction l using List.reverseRecOn with
  | nil => rfl
  | append_singleton l r ih =>
    obtain ⟨hl, hr⟩ := linked_concat.1 h
    rw [List.map_append, ih hl, List.length_append, List.length_singleton, List.range_succ, List.map_append]
    simp [hnum hr]

/-- Two chains of one length with one last hash agree record by record, where a hash fixes its record and what that is bound to. -/
theorem Linked.agree {S : R → R → Prop} {l l' : List R} (hl : Linked hash ok p n l) (hl' : Linked hash ok p n l')
    (hlength : l.length = l'.length) (hlast : lastHash hash p l = lastHash hash p l')
    (hfix : ∀ {r r' q q' m}, r ∈ l → r' ∈ l' → ok q m r → ok q' m r' → hash r = hash r' → S r r' ∧ q = q') :
    List.Forall₂ S l l' := by
  induction l using List.reverseRecOn generalizing l' with
  | nil =>
    rw [List.eq_nil_of_length_eq_zero hlength.symm]
    exact .nil
  | append_singleton l r ih =>
    rcases l'.eq_nil_or_concat with rfl | ⟨l', r', rfl⟩
    · simp at hlength
    rw [List.concat_eq_append] at *
    rw [lastHash_concat, lastHash_concat] at hlast
    have hlength : l.length = l'.length := by simpa using hlength
    obtain ⟨hl, hr⟩ := linked_concat.1 hl
    obtain ⟨hl', hr'⟩ := linked_concat.1 hl'
    rw [← hlength] at hr'
    obtain ⟨hsame, hbound⟩ := hfix (by simp) (by simp) hr hr' hlast
    have hfirst := ih hl hl' hlength hbound fun hr hr' => hfix (by simp [hr]) (by simp [hr'])
    exact List.rel_append hfirst (.cons hsame .nil)

end Linked

/-! ## The chains of a list -/

section Keyed

variable [DecidableEq K] {key : R → K} {hash : R → H} {ok : H → Nat → R → Prop} {p : H}

abbrev under (key : R → K) (k : K) (l : List R) : List R := l.filter fun r => decide (key r = k)

theorem under_concat_self (key : R → K) (l : List R) (r : R) : under key (key r) (l ++ [r]) = under key (key r) l ++ [r] := by
  simp [under, List.filter_append]

theorem under_concat_ne {l : List R} {r : R} {k : K} (h : key r ≠ k) : under key k (l ++ [r]) = under key k l := by
  simp [under, List.filter_append, h]

/-- In a list of chains a record is bound to what was under its key before it. -/
theorem linked_at {done rest : List R} {r : R} (h : Linked hash ok p 1 (under key (key r) (done ++ r :: rest))) :
    ok (lastHash hash p (under key (key r) done)) (1 + (under key (key r) done).length) r := by
  have hsplit : under key (key r) (done ++ r :: rest) = under key (key r) done ++ r :: under key (key r) rest := by
    simp [under, List.filter_append]
  rw [hsplit, linked_append] at h
  exact h.2.1

/-- A stable sort keeps the records that are in order as they were. -/
theorem filter_insertionSort {le : R → R → Prop} [DecidableRel le] (q : R → Bool) {l : List R}
    (hsorted : (l.filter q).Pairwise le) : (l.insertionSort le).filter q = l.filter q := by
  have hsub : (l.filter q).Sublist ((l.insertionSort le).filter q) := by
    have h := (List.sublist_insertionSort hsorted List.filter_sublist).filter q
    rwa [List.filter_filter, show (fun a => q a && q a) = q by simp] at h
  have hlen : (l.filter q).length = ((l.insertionSort le).filter q).length :=
    ((List.perm_insertionSort le l).filter q).length_eq.symm
  exact (hsub.eq_of_length hlen).symm

end Keyed

end Middleware.Lib
