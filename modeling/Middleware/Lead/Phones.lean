/-
`normalize_phone` of `app/core/lead_reconciliation.py`: which telephone numbers it brings into the form of E.164, that the
form is stable, and which ways of writing one number it tells apart.
-/
import Middleware.Postgres.Outbox

namespace Middleware.Lead.Phone

open Platform (isSpace strip)

/-- The decimal digits of Unicode, `\d`. -/
structure Decimals where
  isDecimal : Char → Bool
  ascii : ∀ c : Char, c.toNat < 128 → isDecimal c = c.isDigit
  not_space : ∀ c, isDecimal c = true → isSpace c = false

/-- What can follow `ext\.?|x|#`, in any case, at the start of a text. -/
def afterMark (s : List Char) : List (List Char) :=
  (match s with
    | e :: x :: t :: rest =>
      if (e = 'e' ∨ e = 'E') ∧ (x = 'x' ∨ x = 'X') ∧ (t = 't' ∨ t = 'T') then
        [rest, if rest.head? = some '.' then rest.tail else rest]
      else []
    | _ => []) ++
  (match s with
    | x :: rest => if x = 'x' ∨ x = 'X' ∨ x = '#' then [rest] else []
    | [] => [])

/-- `main.lstrip().startswith("+")`. -/
def hasPlus (main : List Char) : Bool := (main.dropWhile isSpace).head? == some '+'

/-- The check of the length and of the first digit. -/
def Accepts (digits : List Char) : Prop := 8 ≤ digits.length ∧ digits.length ≤ 15 ∧ digits.head? ≠ some '0'

instance (digits : List Char) : Decidable (Accepts digits) := inferInstanceAs (Decidable (_ ∧ _ ∧ _))

def e164 (digits : List Char) : Option String := if Accepts digits then some (String.ofList ('+' :: digits)) else none

namespace Decimals

variable (lib : Decimals)

/-- `\s*\d+\s*$`. -/
def endsInDigits (rest : List Char) : Bool :=
  let number := rest.dropWhile isSpace
  (number.head?.any lib.isDecimal) && (number.dropWhile lib.isDecimal).all isSpace

/-- The text before the first extension. -/
def withoutExtension : List Char → List Char
  | [] => []
  | c :: s => if (afterMark (c :: s)).any lib.endsInDigits then [] else c :: withoutExtension s

/-- A number without its `+` is dialled in the default country, if there is one. -/
def national (digits : List Char) (defaultCountryCode : Option String) : Option (List Char) :=
  (defaultCountryCode.filter (· ≠ "")).map fun code =>
    code.toList.filter lib.isDecimal ++ digits.dropWhile (· == '0')

def dialled (raw defaultCountryCode : Option String) : Option (List Char) :=
  match raw.filter (· ≠ "") with
  | none => none
  | some raw =>
    let main := lib.withoutExtension (strip raw).toList
    let digits := main.filter lib.isDecimal
    if hasPlus main then some digits else lib.national digits defaultCountryCode

def normalizePhone (raw : Option String) (defaultCountryCode : Option String := none) : Option String :=
  (lib.dialled raw defaultCountryCode).bind e164

end Decimals

/-! ## The form of a result -/

/-- `+`, a digit `1` to `9` and 7 to 14 more digits of ASCII. -/
def E164 (s : String) : Prop := ∃ c ds, s = String.ofList ('+' :: c :: ds) ∧ c.isDigit ∧ c ≠ '0' ∧
  7 ≤ ds.length ∧ ds.length ≤ 14 ∧ ∀ d ∈ ds, d.isDigit

theorem e164_eq_some {digits : List Char} {result : String} :
    e164 digits = some result ↔ Accepts digits ∧ result = String.ofList ('+' :: digits) := by
  unfold e164
  split <;> simp_all [eq_comm]

theorem Accepts.e164_iff {digits : List Char} (h : Accepts digits) :
    E164 (String.ofList ('+' :: digits)) ↔ ∀ c ∈ digits, c.isDigit := by
  obtain ⟨hlow, hhigh, hzero⟩ := h
  constructor
  · rintro ⟨c, ds, heq, hc, -, -, -, hds⟩
    obtain rfl : digits = c :: ds := (List.cons.inj (String.ofList_injective heq)).2
    exact List.forall_mem_cons.2 ⟨hc, hds⟩
  · intro hall
    obtain ⟨c, ds, rfl⟩ := List.exists_cons_of_length_pos (by omega : 0 < digits.length)
    obtain ⟨hc, hds⟩ := List.forall_mem_cons.1 hall
    simp only [List.length_cons] at hlow hhigh
    exact ⟨c, ds, rfl, hc, by simpa using hzero, by omega, by omega, hds⟩

/-! ## Texts without an extension -/

/-- No extension begins with the character. -/
def Plain (c : Char) : Prop := c ∉ ['e', 'E', 'x', 'X', '#']

theorem strip_split (s : String) : ∃ v w, s.toList = v ++ (strip s).toList ++ w ∧ (∀ c ∈ v, isSpace c) ∧ ∀ c ∈ w, isSpace c := by
  refine ⟨s.toList.takeWhile isSpace, ((s.toList.dropWhile isSpace).reverse.takeWhile isSpace).reverse, ?_,
    fun c hc => List.mem_takeWhile_imp hc, fun c hc => List.mem_takeWhile_imp (List.mem_reverse.1 hc)⟩
  rw [strip, String.toList_ofList, List.append_assoc, ← List.reverse_append, List.takeWhile_append_dropWhile, List.reverse_reverse,
    List.takeWhile_append_dropWhile]

theorem hasPlus_append_left {v s : List Char} (h : ∀ c ∈ v, isSpace c) : hasPlus (v ++ s) = hasPlus s := by
  rw [hasPlus, List.dropWhile_append_of_pos h, hasPlus]

theorem hasPlus_append_right {s w : List Char} (h : ∀ c ∈ w, isSpace c) : hasPlus (s ++ w) = hasPlus s := by
  unfold hasPlus
  induction s with
  | nil => simp [List.dropWhile_eq_nil_iff.2 h]
  | cons c s ih =>
    rw [List.cons_append, List.dropWhile_cons, List.dropWhile_cons]
    split
    · exact ih
    · rfl

theorem hasPlus_iff {s : List Char} : hasPlus s = true ↔ '+' ∈ s ∧ ∀ c ∈ s.takeWhile (· ≠ '+'), isSpace c := by
  induction s with
  | nil => simp [hasPlus]
  | cons c s ih =>
    by_cases hplus : c = '+'
    · subst hplus
      simp [hasPlus, isSpace]
    · by_cases hspace : isSpace c = true
      · rw [← List.singleton_append, hasPlus_append_left (by simpa using hspace), ih]
        simp [hplus, hspace, Ne.symm hplus]
      · simp [hasPlus, hplus, hspace]

namespace Decimals

variable (lib : Decimals)

theorem withoutExtension_plain {s : List Char} (h : ∀ c ∈ s, Plain c) : lib.withoutExtension s = s := by
  induction s with
  | nil => rfl
  | cons c s ih =>
    obtain ⟨hc, hs⟩ := List.forall_mem_cons.1 h
    have hnone : afterMark (c :: s) = [] := by
      simp only [Plain, List.mem_cons, List.not_mem_nil, or_false, not_or] at hc
      unfold afterMark
      split <;> simp_all
    rw [withoutExtension, hnone, ih hs]
    rfl

theorem filter_strip (s : String) : (strip s).toList.filter lib.isDecimal = s.toList.filter lib.isDecimal := by
  obtain ⟨v, w, hsplit, hv, hw⟩ := strip_split s
  have hnone {l : List Char} (h : ∀ c ∈ l, isSpace c) : l.filter lib.isDecimal = [] := by
    refine List.filter_eq_nil_iff.2 fun c hc hdecimal => ?_
    have hspace := lib.not_space c hdecimal
    simp [h c hc] at hspace
  rw [hsplit, List.filter_append, List.filter_append, hnone hv, hnone hw, List.nil_append, List.append_nil]

theorem dialled_plain {text : String} {country : Option String} (htext : text ≠ "") (h : ∀ c ∈ text.toList, Plain c) :
    lib.dialled text country = if hasPlus text.toList then some (text.toList.filter lib.isDecimal)
      else lib.national (text.toList.filter lib.isDecimal) country := by
  obtain ⟨v, w, hsplit, hv, hw⟩ := strip_split text
  have hplus : hasPlus (strip text).toList = hasPlus text.toList := by
    rw [hsplit, hasPlus_append_right hw, hasPlus_append_left hv]
  have hplain : lib.withoutExtension (strip text).toList = (strip text).toList :=
    lib.withoutExtension_plain fun c hc => h c (by rw [hsplit]; simp [hc])
  simp only [dialled, Option.filter_some, htext, ne_eq, not_false_eq_true, decide_true, if_true, hplain, hplus, filter_strip]

theorem plain_of_decimal {c : Char} (h : lib.isDecimal c = true) : Plain c := by
  intro hc
  simp only [List.mem_cons, List.not_mem_nil, or_false] at hc
  rcases hc with rfl | rfl | rfl | rfl | rfl <;> rw [lib.ascii _ (by decide)] at h <;> exact absurd h (by decide)

/-! ## Settling the three parts -/

/-- Punctuation that people write between digits. -/
def marks : List Char := [' ', '-', '.', '(', ')']

/-- `text` is the number with marks put in. -/
def Inserts (number text : List Char) : Prop := text.filter (fun c => !marks.contains c) = number

/-- A number of digits, with a `+` or without. -/
def numeral (plus : Bool) (digits : List Char) : List Char := if plus then '+' :: digits else digits

variable {lib}

theorem normalizePhone_eq_some {raw country : Option String} {result : String} : lib.normalizePhone raw country = some result ↔
    ∃ digits, lib.dialled raw country = some digits ∧ Accepts digits ∧ result = String.ofList ('+' :: digits) := by
  simp [normalizePhone, Option.bind_eq_some_iff, e164_eq_some]

theorem dialled_decimal {raw country : Option String} {digits : List Char} (h : lib.dialled raw country = some digits) :
    ∀ c ∈ digits, lib.isDecimal c = true := by
  intro c hc
  unfold dialled at h
  split at h
  · cases h
  · simp only at h
    split at h
    · obtain rfl := Option.some.inj h
      exact (List.mem_filter.1 hc).2
    · obtain ⟨code, -, rfl⟩ := Option.map_eq_some_iff.1 h
      rcases List.mem_append.1 hc with hc | hc
      · exact (List.mem_filter.1 hc).2
      · exact (List.mem_filter.1 ((List.dropWhile_sublist _).subset hc)).2

theorem filter_digits {ds : List Char} (h : ∀ c ∈ ds, lib.isDecimal c = true) : ('+' :: ds).filter lib.isDecimal = ds := by
  rw [List.filter_cons_of_neg (by rw [lib.ascii _ (by decide)]; decide), List.filter_eq_self.2 h]

theorem normalizePhone_idempotent {raw country country' : Option String} {result : String}
    (h : lib.normalizePhone raw country = some result) : lib.normalizePhone result country' = some result := by
  obtain ⟨digits, hdialled, haccepts, rfl⟩ := normalizePhone_eq_some.1 h
  have hdecimal := dialled_decimal hdialled
  refine normalizePhone_eq_some.2 ⟨digits, ?_, haccepts, rfl⟩
  rw [lib.dialled_plain (by simp [← String.toList_inj]), String.toList_ofList, filter_digits hdecimal]
  · exact if_pos (by simp [hasPlus, isSpace])
  · rw [String.toList_ofList]
    exact List.forall_mem_cons.2 ⟨by simp [Plain], fun c hc => lib.plain_of_decimal (hdecimal c hc)⟩

theorem isDecimal_of_isDigit {c : Char} (h : c.isDigit = true) : lib.isDecimal c = true := by
  rw [lib.ascii c ?_, h]
  simp only [Char.isDigit, Bool.and_eq_true, decide_eq_true_eq, UInt32.le_iff_toNat_le] at h
  exact Nat.lt_of_le_of_lt h.2 (by decide)

theorem mem_numeral {plus : Bool} {ds : List Char} {c : Char} (h : c ∈ numeral plus ds) : c = '+' ∨ c ∈ ds := by
  cases plus with
  | true => exact List.mem_cons.1 h
  | false => exact .inr h

theorem not_mark {c : Char} (h : c = '+' ∨ c.isDigit = true) : c ∉ marks := by
  intro hc
  simp only [marks, List.mem_cons, List.not_mem_nil, or_false] at hc
  rcases hc with rfl | rfl | rfl | rfl | rfl <;> exact absurd h (by decide)

section Inserts

variable {plus : Bool} {ds : List Char} {text : String} {country : Option String} (hds : ∀ c ∈ ds, c.isDigit)
  (h : Inserts (numeral plus ds) text.toList)
include h

theorem mem_text {c : Char} (hc : c ∈ text.toList) : c ∈ marks ∨ c = '+' ∨ c ∈ ds := by
  by_cases hmark : c ∈ marks
  · exact .inl hmark
  · have hnumeral : c ∈ numeral plus ds := h ▸ List.mem_filter.2 ⟨hc, by simpa using hmark⟩
    exact .inr (mem_numeral hnumeral)

include hds

theorem plus_mem_text : '+' ∈ text.toList ↔ plus = true := by
  have hmem : '+' ∈ text.toList ↔ '+' ∈ numeral plus ds := by
    rw [← h, List.mem_filter]
    simp [marks]
  have hnot : '+' ∉ ds := fun hc => absurd (hds _ hc) (by decide)
  rw [hmem]
  cases plus <;> simp [numeral, hnot]

theorem filter_text : text.toList.filter lib.isDecimal = ds := by
  have hmarks : ∀ c ∈ marks, lib.isDecimal c = false := by
    intro c hc
    simp only [marks, List.mem_cons, List.not_mem_nil, or_false] at hc
    rcases hc with rfl | rfl | rfl | rfl | rfl <;> (rw [lib.ascii _ (by decide)]; rfl)
  have hfilter : text.toList.filter lib.isDecimal = (numeral plus ds).filter lib.isDecimal := by
    rw [← h, List.filter_filter]
    refine List.filter_congr fun c _ => ?_
    by_cases hc : c ∈ marks
    · simp [hmarks c hc]
    · simp [hc]
  rw [hfilter]
  have hdecimal (c) (hc : c ∈ ds) : lib.isDecimal c = true := isDecimal_of_isDigit (hds c hc)
  cases plus with
  | true => exact filter_digits hdecimal
  | false => exact List.filter_eq_self.2 hdecimal

theorem space_text (lib : Decimals) {c : Char} (hc : c ∈ text.toList) : isSpace c = true ↔ c = ' ' := by
  rcases mem_text h hc with hc | rfl | hc
  · simp only [marks, List.mem_cons, List.not_mem_nil, or_false] at hc
    rcases hc with rfl | rfl | rfl | rfl | rfl <;> decide
  · decide
  · refine iff_of_false (by simp [lib.not_space c (isDecimal_of_isDigit (hds c hc))]) ?_
    rintro rfl
    exact absurd (hds _ hc) (by decide)

/-- How a number with marks is dialled: its `+` counts when nothing but spaces comes before it. -/
theorem dialled_text (lib : Decimals) (hne : ds ≠ []) : lib.dialled text country =
    if plus ∧ (text.toList.takeWhile (· ≠ '+')).all (· == ' ') then some ds else lib.national ds country := by
  have htext : text ≠ "" := by
    rintro rfl
    have hnil : [] = numeral plus ds := h
    cases plus <;> simp_all [numeral]
  have hplain (c) (hc : c ∈ text.toList) : Plain c := by
    rcases mem_text h hc with hc | rfl | hc
    · simp only [marks, List.mem_cons, List.not_mem_nil, or_false] at hc
      rcases hc with rfl | rfl | rfl | rfl | rfl <;> simp [Plain]
    · simp [Plain]
    · exact lib.plain_of_decimal (isDecimal_of_isDigit (hds c hc))
  rw [lib.dialled_plain htext hplain, filter_text hds h]
  refine if_congr ?_ rfl rfl
  rw [hasPlus_iff, plus_mem_text hds h, List.all_eq_true]
  refine and_congr_right fun _ => forall₂_congr fun c hc => ?_
  rw [space_text hds h lib ((List.takeWhile_prefix _).subset hc), beq_iff_eq]

end Inserts

end Decimals

/-- A library with the digits of two scripts. -/
def arabicIndic : Decimals where
  isDecimal c := c.isDigit || decide (0x660 ≤ c.toNat ∧ c.toNat ≤ 0x669)
  ascii c h := by
    have hnot : ¬ (0x660 ≤ c.toNat ∧ c.toNat ≤ 0x669) := by omega
    simp [hnot]
  not_space c h := by
    have hrange : 48 ≤ c.toNat ∧ c.toNat ≤ 57 ∨ 0x660 ≤ c.toNat ∧ c.toNat ≤ 0x669 := by
      simpa [Char.isDigit, UInt32.le_iff_toNat_le] using h
    simp only [isSpace, Bool.or_eq_false_iff, Bool.and_eq_false_iff, decide_eq_false_iff_not, beq_eq_false_iff_ne]
    omega

end Middleware.Lead.Phone
