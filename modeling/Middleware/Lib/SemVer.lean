/-
The precedence of semantic versions as a linear order: the three numbers first, a release above all its pre-releases,
and pre-releases by their identifiers from left to right, where a number is below a word and a prefix is below what it
is a prefix of.

A numeric identifier has no leading zeros, so that its text is determined by its value.
-/
import Mathlib

namespace Middleware.Lib

/-! ## Decimal numbers -/

/-- The value of a text of digits. -/
def decimal (l : List Char) : Nat := Nat.ofDigits 10 (l.reverse.map fun c => c.toNat - 48)

/-- Digits without leading zeros. -/
def Numeral (l : List Char) : Prop := (∀ c ∈ l, c.isDigit = true) ∧ l ≠ [] ∧ (l.length = 1 ∨ l.head? ≠ some '0')

theorem isDigit_range {c : Char} (h : c.isDigit = true) : 48 ≤ c.toNat ∧ c.toNat ≤ 57 := by
  simp only [Char.isDigit, Bool.and_eq_true, decide_eq_true_eq] at h
  exact ⟨h.1, h.2⟩

theorem digit_inj {c d : Char} (hc : c.isDigit = true) (hd : d.isDigit = true) (h : c.toNat - 48 = d.toNat - 48) :
    c = d := by
  have hc := isDigit_range hc
  have hd := isDigit_range hd
  apply Char.toNat_inj.1
  omega

theorem digits_inj {l l' : List Char} (h : ∀ c ∈ l, c.isDigit = true) (h' : ∀ c ∈ l', c.isDigit = true)
    (he : l.map (fun c => c.toNat - 48) = l'.map fun c => c.toNat - 48) : l = l' := by
  induction l generalizing l' with
  | nil => simpa using he.symm
  | cons c l ih =>
    rcases l' with _ | ⟨d, l'⟩
    · simp at he
    · simp only [List.map_cons, List.cons.injEq] at he
      rw [digit_inj (h c (by simp)) (h' d (by simp)) he.1]
      rw [ih (fun c hc => h c (by simp [hc])) (fun d hd => h' d (by simp [hd])) he.2]

/-- A numeral that is not zero is read back from its value. -/
theorem digits_decimal {l : List Char} (h : Numeral l) (h0 : l.head? ≠ some '0') :
    Nat.digits 10 (decimal l) = l.reverse.map fun c => c.toNat - 48 := by
  apply Nat.digits_ofDigits 10 (by omega)
  · intro n hn
    obtain ⟨c, hc, rfl⟩ := List.mem_map.1 hn
    have := isDigit_range (h.1 c (List.mem_reverse.1 hc))
    omega
  · intro hne
    rcases l with _ | ⟨c, l⟩
    · simp at hne
    · have hlast : ((c :: l).reverse.map fun c => c.toNat - 48).getLast hne = c.toNat - 48 := by
        simp
      intro hz
      have hc : c = '0' := digit_inj (h.1 c (by simp)) (by decide) (by simpa using hz)
      exact h0 (by simp [hc])

theorem numeral_zero {l : List Char} (h : Numeral l) (h0 : l.head? = some '0') : l = ['0'] := by
  rcases l with _ | ⟨c, l⟩
  · simp at h0
  · have hl : l = [] := by
      rcases h.2.2 with h1 | h1
      · exact List.length_eq_zero_iff.1 (by simpa using h1)
      · exact absurd h0 h1
    simp only [List.head?_cons, Option.some.injEq] at h0
    rw [hl, h0]

theorem decimal_ne_zero {l : List Char} (h : Numeral l) (h0 : l.head? ≠ some '0') : decimal l ≠ 0 := by
  intro hz
  have hd := digits_decimal h h0
  rw [hz, Nat.digits_zero] at hd
  apply h.2.1
  simpa using hd.symm

theorem decimal_inj {l l' : List Char} (h : Numeral l) (h' : Numeral l') (he : decimal l = decimal l') : l = l' := by
  by_cases h0 : l.head? = some '0'
  · by_cases h0' : l'.head? = some '0'
    · rw [numeral_zero h h0, numeral_zero h' h0']
    · rw [numeral_zero h h0] at he
      exact absurd he.symm (decimal_ne_zero h' h0')
  · by_cases h0' : l'.head? = some '0'
    · rw [numeral_zero h' h0'] at he
      exact absurd he (decimal_ne_zero h h0)
    · have hd : l.reverse.map (fun c => c.toNat - 48) = l'.reverse.map fun c => c.toNat - 48 := by
        rw [← digits_decimal h h0, ← digits_decimal h' h0', he]
      apply List.reverse_injective
      apply digits_inj (fun c hc => h.1 c (List.mem_reverse.1 hc)) (fun d hd => h'.1 d (List.mem_reverse.1 hd)) hd

/-! ## The order -/

/-- A pre-release identifier: numbers by value and below words, words by their characters. -/
abbrev Identifier := Nat ⊕ₗ String

abbrev Identifier.number (n : Nat) : Identifier := toLex (Sum.inl n)
abbrev Identifier.word (s : String) : Identifier := toLex (Sum.inr s)

/-- Major, minor, patch, and the pre-release; a release has none and is on top. -/
abbrev Precedence := Nat ×ₗ Nat ×ₗ Nat ×ₗ WithTop (List Identifier)

def precedence (major minor patch : Nat) (prerelease : WithTop (List Identifier)) : Precedence :=
  toLex (major, toLex (minor, toLex (patch, prerelease)))

theorem precedence_inj {a b c a' b' c' : Nat} {p p' : WithTop (List Identifier)} :
    precedence a b c p = precedence a' b' c' p' ↔ (a, b, c) = (a', b', c') ∧ p = p' := by
  simp [precedence, and_assoc]

/-- The numbers decide unless they are the same. -/
theorem precedence_lt {a b c a' b' c' : Nat} {p p' : WithTop (List Identifier)} :
    precedence a b c p < precedence a' b' c' p' ↔
      (a < a' ∨ a = a' ∧ (b < b' ∨ b = b' ∧ c < c')) ∨ (a, b, c) = (a', b', c') ∧ p < p' := by
  simp only [precedence, Prod.Lex.toLex_lt_toLex, Prod.mk.injEq]
  tauto

end Middleware.Lib
