/-
When the segments that `sms_segments` counts are the least number of parts that carry a text.
-/
import Middleware.Communications.Sms
import Middleware.Lib.Packing
import Mathlib.Algebra.Order.Floor.Div
import Mathlib.Order.Bounds.Basic

namespace Middleware.Communications.Segments

open Lib.Packing

/-- An encoding: the units of a character, those of a message in one part, and those of a part of several. -/
structure Alphabet where
  encoding : String
  size : Char → Nat
  single : Nat
  part : Nat

/-- Septets; a character of the extension takes two. -/
def gsm7 : Alphabet := ⟨"GSM-7", fun c => if gsmExtension.contains c then 2 else 1, 160, 153⟩

/-- Units of UTF-16; a character beyond the basic plane takes two. -/
def ucs2 : Alphabet := ⟨"UCS-2", utf16Units, 70, 67⟩

def alphabet (text : String) : Alphabet :=
  if text.toList.all fun c => gsmBasic.contains c || gsmExtension.contains c then gsm7 else ucs2

def Alphabet.units (a : Alphabet) (text : String) : Nat := (text.toList.map a.size).sum

abbrev Alphabet.count (a : Alphabet) (units : Nat) : Nat := segmentCount a.single a.part units

/-! ## The parts of a message -/

/-- `n` parts carry the message: one that fits whole, or parts between which no character is split. -/
def Alphabet.Carries (a : Alphabet) (text : String) (n : Nat) : Prop :=
  (n = 1 ∧ a.units text ≤ a.single) ∨ Packs a.part a.size n text.toList

/-- The message fits whole, or its characters, each that would lie across two parts put into the second, end within the
parts that its units fill. -/
def Alphabet.Fits (a : Alphabet) (text : String) : Prop :=
  a.units text ≤ a.single ∨ finish a.part a.size text.toList ≤ (a.units text ⌈/⌉ a.part) * a.part

structure Alphabet.Sound (a : Alphabet) : Prop where
  size : ∀ c, 0 < a.size c ∧ a.size c ≤ a.part
  part : 0 < a.part
  single : a.part ≤ a.single

theorem gsm7_sound : gsm7.Sound := by
  refine ⟨fun c => ?_, by decide, by decide⟩
  simp only [gsm7]
  split <;> omega

theorem ucs2_sound : ucs2.Sound := by
  refine ⟨fun c => ?_, by decide, by decide⟩
  simp only [ucs2, utf16Units]
  split <;> omega

theorem alphabet_sound (text : String) : (alphabet text).Sound := by
  unfold alphabet
  split
  · exact gsm7_sound
  · exact ucs2_sound

namespace Alphabet

variable {a : Alphabet} {text : String}

theorem carries_pos {n : Nat} (htext : text ≠ "") (h : a.Carries text n) : 0 < n := by
  rcases h with ⟨rfl, -⟩ | ⟨parts, hparts, rfl, -⟩
  · exact Nat.one_pos
  · refine List.length_pos_iff.2 ?_
    rintro rfl
    exact htext (String.toList_eq_nil_iff.1 hparts.symm)

theorem Sound.isLeast_iff (h : a.Sound) (htext : text ≠ "") :
    IsLeast {n | a.Carries text n} (a.count (a.units text)) ↔ a.Fits text := by
  have hcount : a.count (a.units text) = if a.units text ≤ a.single then 1 else a.units text ⌈/⌉ a.part := rfl
  have hpacks (n : Nat) : Packs a.part a.size n text.toList ↔ finish a.part a.size text.toList ≤ n * a.part :=
    packs_iff fun c _ => h.size c
  by_cases hsingle : a.units text ≤ a.single
  · rw [hcount, if_pos hsingle]
    exact iff_of_true ⟨.inl ⟨rfl, hsingle⟩, fun n hn => carries_pos htext hn⟩ (.inl hsingle)
  · rw [hcount, if_neg hsingle]
    constructor
    · rintro ⟨⟨-, hfits⟩ | hparts, -⟩
      · exact absurd hfits hsingle
      · exact .inr ((hpacks _).1 hparts)
    · rintro (hfits | hfits)
      · exact absurd hfits hsingle
      · refine ⟨.inr ((hpacks _).2 hfits), fun n hn => ?_⟩
        rcases hn with ⟨-, hone⟩ | hparts
        · exact absurd hone hsingle
        · rw [ceilDiv_le_iff_le_mul h.part, Nat.mul_comm]
          exact hparts.sum_le

/-- More units of one alphabet never count as fewer segments. -/
theorem Sound.count_mono (h : a.Sound) {units units' : Nat} (hle : units ≤ units') : a.count units ≤ a.count units' := by
  have hceil : units' ≤ a.part * (units' ⌈/⌉ a.part) := le_smul_ceilDiv h.part
  show (if units ≤ a.single then 1 else units ⌈/⌉ a.part) ≤ if units' ≤ a.single then 1 else units' ⌈/⌉ a.part
  split
  · split
    · exact le_rfl
    · rcases Nat.eq_zero_or_pos (units' ⌈/⌉ a.part) with hzero | hpos
      · rw [hzero] at hceil
        omega
      · exact hpos
  · rw [if_neg (by omega), ceilDiv_le_iff_le_mul h.part]
    exact hle.trans hceil

end Alphabet

theorem smsSegments_ok {text : String} {s : SmsSegments} : smsSegments text = .ok s ↔
    (text ≠ "" ∧ text.length ≤ 5000) ∧
      s = ⟨(alphabet text).encoding, text.length, (alphabet text).count ((alphabet text).units text), (alphabet text).units text⟩ := by
  unfold smsSegments
  dsimp only
  simp only [List.isEmpty_iff, String.toList_eq_nil_iff, String.length_toList]
  by_cases htext : text = ""
  · simp [htext]
  rw [if_neg htext]
  by_cases hlong : 5000 < text.length
  · rw [if_pos hlong]
    simp [hlong]
  rw [if_neg hlong]
  unfold alphabet
  split <;> simp [htext, Nat.not_lt.1 hlong, eq_comm, gsm7, ucs2, Alphabet.units]

theorem alphabet_eq {text text' : String} (h : (alphabet text).encoding = (alphabet text').encoding) : alphabet text = alphabet text' := by
  unfold alphabet at h ⊢
  split_ifs at h ⊢
  · rfl
  · exact absurd h (by decide)
  · exact absurd h (by decide)
  · rfl

/-- **When the count of segments is exact.** It is the least number of parts exactly if the message fits; and a message
that is continued in its alphabet never counts fewer. -/
theorem segments_exact_iff (text : String) (h : 1 ≤ text.length) (hlong : text.length ≤ 5000) : ∃ s, smsSegments text = .ok s ∧
    (IsLeast {n | (alphabet text).Carries text n} s.segments ↔ (alphabet text).Fits text) ∧
    ∀ more s', smsSegments (text ++ more) = .ok s' → s'.encoding = s.encoding → s.segments ≤ s'.segments := by
  have htext : text ≠ "" := by
    rintro rfl
    simp at h
  refine ⟨_, smsSegments_ok.2 ⟨⟨htext, hlong⟩, rfl⟩, (alphabet_sound text).isLeast_iff htext, fun more s' hs' hencoding => ?_⟩
  obtain ⟨-, rfl⟩ := smsSegments_ok.1 hs'
  simp only at hencoding ⊢
  rw [alphabet_eq hencoding]
  refine (alphabet_sound text).count_mono ?_
  simp [Alphabet.units]

/-- A sign of two units after and before `n` characters of one: with 152 of them it lies across the end of a part. -/
def straddling (n : Nat) : String := String.ofList (List.replicate n '@' ++ '€' :: List.replicate n '@')

theorem smsSegments_straddling {n : Nat} (h : 2 * n + 1 ≤ 5000) :
    smsSegments (straddling n) = .ok ⟨"GSM-7", 2 * n + 1, gsm7.count (2 * n + 2), 2 * n + 2⟩ ∧ alphabet (straddling n) = gsm7 := by
  have hletter : '@' ∈ gsmBasic := List.contains_iff_mem.1 (by decide +kernel)
  have hsign : '€' ∈ gsmExtension := by decide
  have hgsm : alphabet (straddling n) = gsm7 := if_pos (by simp [straddling, hletter, hsign])
  have hlength : (straddling n).length = 2 * n + 1 := by
    rw [straddling, String.length_ofList, List.length_append, List.length_cons, List.length_replicate]
    omega
  have hunits : gsm7.units (straddling n) = 2 * n + 2 := by
    have hone : '@' ∉ gsmExtension := by decide
    simp [Alphabet.units, straddling, gsm7, hone, hsign]
    omega
  have hne : straddling n ≠ "" := by simp [straddling, ← String.toList_inj]
  exact ⟨smsSegments_ok.2 ⟨⟨hne, by omega⟩, by rw [hgsm, hlength, hunits]; rfl⟩, hgsm⟩

theorem straddling_short : ∃ s, smsSegments (straddling 152) = .ok s ∧ s.segments = 2 ∧
    ¬ IsLeast {n | (alphabet (straddling 152)).Carries (straddling 152) n} s.segments := by
  obtain ⟨hok, hgsm⟩ := smsSegments_straddling (n := 152) (by decide)
  have hcount : gsm7.count (2 * 152 + 2) = 2 := by decide
  refine ⟨_, hok, hcount, ?_⟩
  rintro ⟨hmem, -⟩
  rw [hgsm] at hmem
  simp only [hcount] at hmem
  rcases hmem with ⟨htwo, -⟩ | hparts
  · cases htwo
  · -- the sign begins the second part, so that one unit is left over
    have hend := (packs_iff fun c _ => gsm7_sound.size c).1 hparts
    rw [straddling, String.toList_ofList] at hend
    exact absurd hend (by decide +kernel)

theorem euro_segments : ∃ s, smsSegments "€" = .ok s ∧ (IsLeast {n | (alphabet "€").Carries "€" n} s.segments ↔ (alphabet "€").Fits "€") ∧
    ∀ more s', smsSegments ("€" ++ more) = .ok s' → s'.encoding = s.encoding → s.segments ≤ s'.segments :=
  segments_exact_iff "€" (by decide) (by decide)

end Middleware.Communications.Segments
