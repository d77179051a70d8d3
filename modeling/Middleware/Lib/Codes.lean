/-
Texts that end where they were written: a code in which what is read of a text determines both the value and the
rest. Tokens end at the first stop character, strings at a quote that no character's code begins with, and lists of
elements at their closing character.
-/
import Mathlib

namespace Middleware.Lib

variable {A C : Type}

/-- The text of `a` is told from the text of every `b` with `ok b`, whatever follows that satisfies `stop`. -/
def Reads (enc : A → List C) (ok : A → Prop) (stop : List C → Prop) (a : A) : Prop :=
  ∀ b x y, ok b → stop x → stop y → enc a ++ x = enc b ++ y → a = b ∧ x = y

/-- A token ends at the first character of the class `p`. -/
theorem token_reads {p : C → Prop} {u v x y : List C} (hu : ∀ c ∈ u, ¬p c) (hv : ∀ c ∈ v, ¬p c)
    (hx : ∀ c ∈ x.head?, p c) (hy : ∀ c ∈ y.head?, p c) (h : u ++ x = v ++ y) : u = v ∧ x = y := by
  induction u generalizing v with
  | nil =>
    cases v with
    | nil => exact ⟨rfl, h⟩
    | cons d v =>
      rw [List.nil_append] at h
      exact absurd (hx d (by rw [h]; rfl)) (hv d List.mem_cons_self)
  | cons c u ih =>
    cases v with
    | nil =>
      rw [List.nil_append] at h
      exact absurd (hy c (by rw [← h]; rfl)) (hu c List.mem_cons_self)
    | cons d v =>
      rw [List.cons_append, List.cons_append, List.cons.injEq] at h
      obtain ⟨rfl, h⟩ := h
      obtain ⟨rfl, hxy⟩ := ih (fun c hc => hu c (List.mem_cons_of_mem _ hc)) (fun c hc => hv c (List.mem_cons_of_mem _ hc)) h
      exact ⟨rfl, hxy⟩

/-- A string ends at the quote `q`, with which no character's code begins. -/
theorem flatMap_reads {e : A → List C} {q : C} (hq : ∀ a x y, e a ++ x ≠ q :: y)
    (he : ∀ a b x y, e a ++ x = e b ++ y → a = b ∧ x = y) {as bs : List A} {x y : List C}
    (h : as.flatMap e ++ q :: x = bs.flatMap e ++ q :: y) : as = bs ∧ x = y := by
  induction as generalizing bs with
  | nil =>
    cases bs with
    | nil => exact ⟨rfl, (List.cons.inj h).2⟩
    | cons b bs =>
      rw [List.flatMap_nil, List.nil_append, List.flatMap_cons, List.append_assoc] at h
      exact absurd h.symm (hq _ _ _)
  | cons a as ih =>
    cases bs with
    | nil =>
      rw [List.flatMap_nil, List.nil_append, List.flatMap_cons, List.append_assoc] at h
      exact absurd h (hq _ _ _)
    | cons b bs =>
      rw [List.flatMap_cons, List.flatMap_cons, List.append_assoc, List.append_assoc] at h
      obtain ⟨rfl, hrest⟩ := he _ _ _ _ h
      obtain ⟨rfl, hxy⟩ := ih hrest
      exact ⟨rfl, hxy⟩

section Sequence

variable {enc : A → List C} {ok : A → Prop} {stop : List C → Prop} {sep close : C}

/-- The elements behind the first one: each after a separator, then the closing character. -/
theorem rest_reads (hsep : ∀ x, stop (sep :: x)) (hclose : ∀ x, stop (close :: x)) (hne : sep ≠ close) {as bs : List A}
    {x y : List C} (hr : ∀ a ∈ as, Reads enc ok stop a) (hb : ∀ b ∈ bs, ok b)
    (h : as.flatMap (fun a => sep :: enc a) ++ close :: x = bs.flatMap (fun b => sep :: enc b) ++ close :: y) :
    as = bs ∧ x = y := by
  have hstop : ∀ (cs : List A) (z : List C), stop (cs.flatMap (fun a => sep :: enc a) ++ close :: z) := by
    intro cs z
    cases cs with
    | nil => exact hclose z
    | cons c cs => exact hsep _
  induction as generalizing bs with
  | nil =>
    cases bs with
    | nil => exact ⟨rfl, (List.cons.inj h).2⟩
    | cons b bs => exact absurd (List.cons.inj h).1.symm hne
  | cons a as ih =>
    cases bs with
    | nil => exact absurd (List.cons.inj h).1 hne
    | cons b bs =>
      rw [List.flatMap_cons, List.flatMap_cons, List.cons_append, List.cons_append, List.cons_append, List.cons_append,
        List.append_assoc, List.append_assoc] at h
      obtain ⟨rfl, hrest⟩ := hr a List.mem_cons_self b _ _ (hb b List.mem_cons_self) (hstop as x) (hstop bs y)
        (List.cons.inj h).2
      obtain ⟨rfl, hxy⟩ := ih (fun a ha => hr a (List.mem_cons_of_mem _ ha))
        (fun b hm => hb b (List.mem_cons_of_mem _ hm)) hrest
      exact ⟨rfl, hxy⟩

theorem intercalate_cons (a : A) (as : List A) :
    [sep].intercalate ((a :: as).map enc) = enc a ++ as.flatMap fun a => sep :: enc a := by
  induction as generalizing a with
  | nil => simp [List.intercalate]
  | cons b as ih =>
    have h := ih b
    rw [List.map_cons] at h
    rw [List.map_cons, List.map_cons, List.intercalate_cons_cons, h]
    simp

/-- A sequence of elements is determined by its text. -/
theorem intercalate_reads (hsep : ∀ x, stop (sep :: x)) (hclose : ∀ x, stop (close :: x)) (hne : sep ≠ close)
    (hhead : ∀ b x y, ok b → enc b ++ x ≠ close :: y) {as bs : List A} {x y : List C}
    (hr : ∀ a ∈ as, Reads enc ok stop a) (ha : ∀ a ∈ as, ok a) (hb : ∀ b ∈ bs, ok b)
    (h : [sep].intercalate (as.map enc) ++ close :: x = [sep].intercalate (bs.map enc) ++ close :: y) :
    as = bs ∧ x = y := by
  have hstop : ∀ (cs : List A) (z : List C), stop (cs.flatMap (fun a => sep :: enc a) ++ close :: z) := by
    intro cs z
    cases cs with
    | nil => exact hclose z
    | cons c cs => exact hsep _
  cases as with
  | nil =>
    cases bs with
    | nil => exact ⟨rfl, (List.cons.inj h).2⟩
    | cons b bs =>
      rw [intercalate_cons, List.append_assoc] at h
      exact absurd h.symm (hhead b _ _ (hb b List.mem_cons_self))
  | cons a as =>
    cases bs with
    | nil =>
      rw [intercalate_cons, List.append_assoc] at h
      exact absurd h (hhead a _ _ (ha a List.mem_cons_self))
    | cons b bs =>
      rw [intercalate_cons, intercalate_cons, List.append_assoc, List.append_assoc] at h
      obtain ⟨rfl, hrest⟩ := hr a List.mem_cons_self b _ _ (hb b List.mem_cons_self) (hstop as x) (hstop bs y) h
      obtain ⟨rfl, hxy⟩ := rest_reads hsep hclose hne (fun a ha => hr a (List.mem_cons_of_mem _ ha))
        (fun b hm => hb b (List.mem_cons_of_mem _ hm)) hrest
      exact ⟨rfl, hxy⟩

end Sequence

end Middleware.Lib
