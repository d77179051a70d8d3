/-
The canonical text of a JSON value determines the value up to the order of the members of its objects: two payloads
with the same text are the same dictionary. `canon` sorts the members, `print` writes a value without sorting, and
`dumps` prints the canonical form; `print` is then read back from left to right.

A float is carried by its `repr` text; `valid` says that it is one.
-/
import Middleware.Data.Json
import Middleware.Lib.Codes

namespace Middleware

open Lib

/-- The text of a Python float, also in JSON's spelling of the special ones. -/
def floatRepr (r : String) : Bool :=
  ["NaN", "Infinity", "-Infinity"].contains r ||
    (r.toList.all (fun c => c.isDigit || ['+', '-', '.', 'e'].contains c) && r.toList.any fun c => ['.', 'e'].contains c)

mutual

/-- Floats are written as Python writes them. -/
def Json.valid : Json → Bool
  | .null | .bool _ | .int _ | .str _ => true
  | .float r => floatRepr r
  | .arr items => validItems items
  | .obj members => validMembers members

def validItems : List Json → Bool
  | [] => true
  | item :: rest => item.valid && validItems rest

def validMembers : Obj → Bool
  | [] => true
  | (_, value) :: rest => value.valid && validMembers rest

end

mutual

/-- The value with the members of its objects in the order of their keys. -/
def Json.canon : Json → Json
  | .null => .null
  | .bool b => .bool b
  | .int n => .int n
  | .float r => .float r
  | .str s => .str s
  | .arr items => .arr (canonItems items)
  | .obj members => .obj ((canonMembers members).insertionSort fun a b => a.1 ≤ b.1)

def canonItems : List Json → List Json
  | [] => []
  | item :: rest => item.canon :: canonItems rest

def canonMembers : Obj → Obj
  | [] => []
  | (key, value) :: rest => (key, value.canon) :: canonMembers rest

end

def quoted (ascii : Bool) (s : String) : List Char := '"' :: (s.toList.flatMap (escapeChar ascii) ++ ['"'])

mutual

/-- The text of a value, its members as they stand. -/
def Json.print (ascii : Bool) : Json → List Char
  | .null => "null".toList
  | .bool true => "true".toList
  | .bool false => "false".toList
  | .int n => (toString n).toList
  | .float r => r.toList
  | .str s => quoted ascii s
  | .arr items => '[' :: ([','].intercalate (printItems ascii items) ++ [']'])
  | .obj members => '\x7b' :: ([','].intercalate (printMembers ascii members) ++ ['\x7d'])

def printItems (ascii : Bool) : List Json → List (List Char)
  | [] => []
  | item :: rest => item.print ascii :: printItems ascii rest

def printMembers (ascii : Bool) : Obj → List (List Char)
  | [] => []
  | (key, value) :: rest => (quoted ascii key ++ ':' :: value.print ascii) :: printMembers ascii rest

end

def printMember (ascii : Bool) (m : String × Json) : List Char := quoted ascii m.1 ++ ':' :: m.2.print ascii

/-- Induction on values, through the items of arrays and the values of objects. -/
theorem Json.induction {P : Json → Prop} (null : P .null) (bool : ∀ b, P (.bool b)) (int : ∀ n, P (.int n))
    (float : ∀ r, P (.float r)) (str : ∀ s, P (.str s)) (arr : ∀ items, (∀ v ∈ items, P v) → P (.arr items))
    (obj : ∀ members, (∀ m ∈ members, P m.2) → P (.obj members)) : ∀ v, P v
  | .null => null
  | .bool b => bool b
  | .int n => int n
  | .float r => float r
  | .str s => str s
  | .arr items => arr items fun v hv =>
    have := List.sizeOf_lt_of_mem hv
    Json.induction null bool int float str arr obj v
  | .obj members => obj members fun m hm =>
    have := List.sizeOf_lt_of_mem hm
    have : sizeOf m.2 < sizeOf m := by
      cases m
      simp
    Json.induction null bool int float str arr obj m.2
termination_by v => sizeOf v
decreasing_by all_goals simp_wf; omega

theorem validItems_iff {items : List Json} : validItems items = true ↔ ∀ v ∈ items, v.valid = true := by
  induction items with
  | nil => simp [validItems]
  | cons v rest ih => simp [validItems, ih]

theorem validMembers_iff {members : Obj} : validMembers members = true ↔ ∀ m ∈ members, m.2.valid = true := by
  induction members with
  | nil => simp [validMembers]
  | cons m rest ih => simp [validMembers, ih]

theorem canonItems_eq (items : List Json) : canonItems items = items.map Json.canon := by
  induction items with
  | nil => rfl
  | cons v rest ih => rw [canonItems, ih, List.map_cons]

theorem canonMembers_eq (members : Obj) : canonMembers members = members.map fun m => (m.1, m.2.canon) := by
  induction members with
  | nil => rfl
  | cons m rest ih => rw [canonMembers, ih, List.map_cons]

variable (ascii : Bool)

theorem printItems_eq (items : List Json) : printItems ascii items = items.map (Json.print ascii) := by
  induction items with
  | nil => rfl
  | cons v rest ih => rw [printItems, ih, List.map_cons]

theorem printMembers_eq (members : Obj) : printMembers ascii members = members.map (printMember ascii) := by
  induction members with
  | nil => rfl
  | cons m rest ih =>
    rw [printMembers, ih, List.map_cons]
    rfl

theorem dumpsItems_eq (items : List Json) : dumpsItems ascii items = items.map (dumps ascii) := by
  induction items with
  | nil => rfl
  | cons v rest ih => rw [dumpsItems, ih, List.map_cons]

theorem dumpsMembers_eq (members : Obj) :
    dumpsMembers ascii members = members.map fun m => (m.1, dumps ascii m.2) := by
  induction members with
  | nil => rfl
  | cons m rest ih => rw [dumpsMembers, ih, List.map_cons]

variable (v : Json)

theorem valid_canon (h : v.valid = true) : v.canon.valid = true := by
  induction v using Json.induction with
  | arr items ih =>
    simp only [Json.canon, Json.valid, validItems_iff, canonItems_eq, List.mem_map] at h ⊢
    rintro _ ⟨v, hv, rfl⟩
    exact ih v hv (h v hv)
  | obj members ih =>
    simp only [Json.canon, Json.valid, validMembers_iff, canonMembers_eq, List.mem_insertionSort, List.mem_map] at h ⊢
    rintro _ ⟨m, hm, rfl⟩
    exact ih m hm (h m hm)
  | _ => simpa [Json.canon] using h

theorem sort_map_values {B : Type} (f : Json → B) (members : Obj) :
    (members.map fun m => (m.1, f m.2)).insertionSort (fun a b => a.1 ≤ b.1) =
      (members.insertionSort fun a b => a.1 ≤ b.1).map fun m => (m.1, f m.2) :=
  (List.map_insertionSort (fun a b => a.1 ≤ b.1) (fun a b => a.1 ≤ b.1) (fun m : String × Json => (m.1, f m.2)) members
    fun _ _ _ _ => Iff.rfl).symm

theorem dumps_eq_print : (dumps ascii v).toList = v.canon.print ascii := by
  induction v using Json.induction with
  | bool b => cases b <;> simp [dumps, Json.canon, Json.print]
  | str s => simp [dumps, Json.canon, Json.print, quote, quoted]
  | arr items ih =>
    simp only [dumps, Json.canon, Json.print, dumpsItems_eq, printItems_eq, canonItems_eq, String.toList_append,
      String.toList_intercalate, List.map_map]
    rw [List.map_congr_left (f := String.toList ∘ dumps ascii) (g := Json.print ascii ∘ Json.canon) ih]
    rfl
  | obj members ih =>
    simp only [dumps, Json.canon, Json.print, dumpsMembers_eq, printMembers_eq, canonMembers_eq, String.toList_append,
      String.toList_intercalate, sort_map_values, List.map_map]
    rw [List.map_congr_left (g := printMember ascii ∘ fun m => (m.1, m.2.canon))]
    · rfl
    · intro m hm
      have := ih m ((List.mem_insertionSort _).1 hm)
      simp [printMember, quote, quoted, this]
  | _ => simp [dumps, Json.canon, Json.print]

theorem dumps_of_canon {ascii : Bool} {v w : Json} (h : v.canon = w.canon) : dumps ascii v = dumps ascii w := by
  rw [← String.toList_inj, dumps_eq_print, dumps_eq_print, h]

/-! ## Strings -/

theorem hexDigit_inj : ∀ a < 16, ∀ b < 16, Sha256.hexDigit a = Sha256.hexDigit b → a = b := by
  decide

theorem hexEscape_reads {n m : Nat} (hn : n < 65536) (hm : m < 65536) {x y : List Char}
    (h : hexEscape n ++ x = hexEscape m ++ y) : n = m ∧ x = y := by
  simp only [hexEscape, List.map_cons, List.map_nil, List.cons_append, List.nil_append, List.cons.injEq, true_and] at h
  obtain ⟨h₁, h₂, h₃, h₄, hxy⟩ := h
  have h₁ := hexDigit_inj _ (Nat.mod_lt _ (by decide)) _ (Nat.mod_lt _ (by decide)) h₁
  have h₂ := hexDigit_inj _ (Nat.mod_lt _ (by decide)) _ (Nat.mod_lt _ (by decide)) h₂
  have h₃ := hexDigit_inj _ (Nat.mod_lt _ (by decide)) _ (Nat.mod_lt _ (by decide)) h₃
  have h₄ := hexDigit_inj _ (Nat.mod_lt _ (by decide)) _ (Nat.mod_lt _ (by decide)) h₄
  exact ⟨by omega, hxy⟩

/-- The escapes of one letter, with what they stand for. -/
def shortEscapes : List (Char × Char) :=
  [('"', '"'), ('\\', '\\'), ('n', '\n'), ('r', '\r'), ('t', '\t'), ('b', '\x08'), ('f', '\x0c')]

inductive Escape (c : Char) : List Char → Prop
  | plain (quote : c ≠ '"') (backslash : c ≠ '\\') : Escape c [c]
  | short (k : Char) (h : (k, c) ∈ shortEscapes) : Escape c ['\\', k]
  | unit (h : c.toNat < 65536) : Escape c (hexEscape c.toNat)
  | pair (h : 65536 ≤ c.toNat) :
      Escape c (hexEscape (55296 + (c.toNat - 65536) / 1024) ++ hexEscape (56320 + (c.toNat - 65536) % 1024))

theorem escapeChar_form (ascii : Bool) (c : Char) : Escape c (escapeChar ascii c) := by
  unfold escapeChar
  refine iteInduction (motive := Escape c) (fun h => ?_) fun hquote => ?_
  · subst h
    exact .short _ (by decide)
  refine iteInduction (motive := Escape c) (fun h => ?_) fun hbackslash => ?_
  · subst h
    exact .short _ (by decide)
  refine iteInduction (motive := Escape c) (fun h => ?_) fun _ => ?_
  · subst h
    exact .short _ (by decide)
  refine iteInduction (motive := Escape c) (fun h => ?_) fun _ => ?_
  · subst h
    exact .short _ (by decide)
  refine iteInduction (motive := Escape c) (fun h => ?_) fun _ => ?_
  · subst h
    exact .short _ (by decide)
  refine iteInduction (motive := Escape c) (fun h => ?_) fun _ => ?_
  · obtain rfl : c = '\x08' := Char.toNat_inj.1 h
    exact .short _ (by decide)
  refine iteInduction (motive := Escape c) (fun h => ?_) fun _ => ?_
  · obtain rfl : c = '\x0c' := Char.toNat_inj.1 h
    exact .short _ (by decide)
  refine iteInduction (motive := Escape c) (fun _ => .unit (by omega)) fun _ => ?_
  refine iteInduction (motive := Escape c) (fun _ => ?_) fun _ => .plain hquote hbackslash
  exact iteInduction (motive := Escape c) .unit fun _ => .pair (by omega)

/-- A one-letter escape is none of a code unit, and its letter tells what it stands for. -/
theorem short_reads {k c d : Char} (hc : (k, c) ∈ shortEscapes) : k ≠ 'u' ∧ ((k, d) ∈ shortEscapes → c = d) := by
  simp only [shortEscapes, List.mem_cons, Prod.mk.injEq, List.not_mem_nil, or_false] at hc ⊢
  rcases hc with ⟨rfl, rfl⟩ | ⟨rfl, rfl⟩ | ⟨rfl, rfl⟩ | ⟨rfl, rfl⟩ | ⟨rfl, rfl⟩ | ⟨rfl, rfl⟩ | ⟨rfl, rfl⟩ <;>
    simp [eq_comm]

/-- The code points of a character leave out the surrogates. -/
theorem char_range (c : Char) : c.toNat < 55296 ∨ 57343 < c.toNat ∧ c.toNat < 1114112 := c.valid

theorem escape_reads {c d : Char} {p q x y : List Char} (hp : Escape c p) (hq : Escape d q) (h : p ++ x = q ++ y) :
    c = d ∧ x = y := by
  have hc := char_range c
  have hd := char_range d
  cases hp with
  | plain _ hback =>
    cases hq with
    | plain => simpa using h
    | _ => exact absurd (List.cons.inj h).1 hback
  | short k hk =>
    cases hq with
    | plain _ hback => exact absurd (List.cons.inj h).1.symm hback
    | short k' hk' =>
      simp only [List.cons_append, List.nil_append, List.cons.injEq, true_and] at h
      obtain ⟨rfl, hxy⟩ := h
      exact ⟨(short_reads hk).2 hk', hxy⟩
    | _ => exact absurd (List.cons.inj (List.cons.inj h).2).1 (short_reads (d := c) hk).1
  | unit hlt =>
    cases hq with
    | plain _ hback => exact absurd (List.cons.inj h).1.symm hback
    | short k hk => exact absurd (List.cons.inj (List.cons.inj h).2).1.symm (short_reads (d := d) hk).1
    | unit hlt' =>
      obtain ⟨hn, hxy⟩ := hexEscape_reads hlt hlt' h
      exact ⟨Char.toNat_inj.1 hn, hxy⟩
    | pair hle =>
      obtain ⟨hn, -⟩ := hexEscape_reads hlt (by omega) h
      omega
  | pair hle =>
    cases hq with
    | plain _ hback => exact absurd (List.cons.inj h).1.symm hback
    | short k hk => exact absurd (List.cons.inj (List.cons.inj h).2).1.symm (short_reads (d := d) hk).1
    | unit hlt =>
      obtain ⟨hn, -⟩ := hexEscape_reads (by omega) hlt h
      omega
    | pair hle' =>
      obtain ⟨hn, h⟩ := hexEscape_reads (by omega) (by omega) h
      obtain ⟨hm, hxy⟩ := hexEscape_reads (by omega) (by omega) h
      exact ⟨Char.toNat_inj.1 (by omega), hxy⟩

theorem escape_head {c : Char} {p x y : List Char} (hp : Escape c p) : p ++ x ≠ '"' :: y := by
  intro h
  cases hp with
  | plain hquote => exact hquote (List.cons.inj h).1
  | _ => exact absurd (List.cons.inj h).1 (by decide)

theorem quoted_reads {ascii : Bool} {s t : String} {x y : List Char} (h : quoted ascii s ++ x = quoted ascii t ++ y) :
    s = t ∧ x = y := by
  simp only [quoted, List.cons_append, List.append_assoc, List.nil_append, List.cons.injEq, true_and] at h
  obtain ⟨hs, hxy⟩ := flatMap_reads (fun c _ _ => escape_head (escapeChar_form ascii c))
    (fun c d _ _ => escape_reads (escapeChar_form ascii c) (escapeChar_form ascii d)) h
  exact ⟨String.toList_inj.1 hs, hxy⟩

/-! ## Values -/

/-- The characters at which the text of a number or a constant ends or cannot begin. -/
def special : List Char := ['"', '[', ']', '\x7b', '\x7d', ',']

/-- What may follow a value inside an array or an object, or at the end. -/
def Stop (x : List Char) : Prop := ∀ c ∈ x.head?, c ∈ special

def Json.scalar : Json → Bool
  | .null | .bool _ | .int _ | .float _ => true
  | _ => false

def Json.scalarText : Json → String
  | .null => "null"
  | .bool true => "true"
  | .bool false => "false"
  | .int n => toString n
  | .float r => r
  | _ => ""

theorem int_chars {n : Int} {c : Char} (h : c ∈ (toString n).toList) : c.isDigit = true ∨ c = '-' := by
  have hrepr : ∀ (m : Nat) (c : Char), c ∈ m.repr.toList → c.isDigit = true := by
    intro m c hc
    rw [Nat.toList_repr] at hc
    exact Nat.isDigit_of_mem_toDigits (by decide) (by decide) hc
  cases n with
  | ofNat m => exact .inl (hrepr m c h)
  | negSucc m =>
    have hc : c ∈ ("-" ++ (m + 1).repr).toList := h
    rw [String.toList_append, List.mem_append] at hc
    rcases hc with hc | hc
    · exact .inr (by simpa using hc)
    · exact .inl (hrepr _ c hc)

theorem int_ne_nil (n : Int) : (toString n).toList ≠ [] := by
  cases n with
  | ofNat m =>
    show m.repr.toList ≠ []
    rw [Nat.toList_repr]
    exact Nat.toDigits_ne_nil
  | negSucc m =>
    show ("-" ++ (m + 1).repr).toList ≠ []
    simp

theorem isDigit_not_special {c : Char} (h : c.isDigit = true) : c ∉ special := by
  intro hc
  simp only [special, List.mem_cons, List.not_mem_nil, or_false] at hc
  rcases hc with rfl | rfl | rfl | rfl | rfl | rfl <;> exact absurd h (by decide)

theorem floatRepr_chars {r : String} (h : floatRepr r = true) : r.toList ≠ [] ∧ ∀ c ∈ r.toList, c ∉ special := by
  simp only [floatRepr, Bool.or_eq_true, Bool.and_eq_true, List.contains_iff_mem] at h
  rcases h with h | ⟨hall, hany⟩
  · simp only [List.mem_cons, List.not_mem_nil, or_false] at h
    rcases h with rfl | rfl | rfl <;> exact ⟨by simp, by simp [special]⟩
  · refine ⟨fun hnil => by simp [hnil] at hany, fun c hc => ?_⟩
    have := List.all_eq_true.1 hall c hc
    simp only [Bool.or_eq_true, List.contains_iff_mem] at this
    rcases this with hd | hm
    · exact isDigit_not_special hd
    · simp only [List.mem_cons, List.not_mem_nil, or_false] at hm
      rcases hm with rfl | rfl | rfl | rfl <;> decide

theorem floatRepr_int (n : Int) : floatRepr (toString n) = false := by
  have hno : ∀ c ∈ (toString n).toList, c ≠ '.' ∧ c ≠ 'e' ∧ c ≠ 'N' ∧ c ≠ 'I' := by
    intro c hc
    rcases int_chars hc with hd | rfl
    · exact ⟨by rintro rfl; exact absurd hd (by decide), by rintro rfl; exact absurd hd (by decide),
        by rintro rfl; exact absurd hd (by decide), by rintro rfl; exact absurd hd (by decide)⟩
    · decide
  by_contra h
  rw [Bool.not_eq_false] at h
  simp only [floatRepr, Bool.or_eq_true, Bool.and_eq_true, List.contains_iff_mem] at h
  rcases h with h | ⟨-, hany⟩
  · simp only [List.mem_cons, List.not_mem_nil, or_false] at h
    rcases h with h | h | h
    · exact (hno 'N' (by rw [h]; decide)).2.2.1 rfl
    · exact (hno 'I' (by rw [h]; decide)).2.2.2 rfl
    · exact (hno 'I' (by rw [h]; decide)).2.2.2 rfl
  · obtain ⟨c, hc, hm⟩ := List.any_eq_true.1 hany
    simp only [List.contains_iff_mem, List.mem_cons, List.not_mem_nil, or_false] at hm
    rcases hm with rfl | rfl
    · exact (hno '.' hc).1 rfl
    · exact (hno 'e' hc).2.1 rfl

section Values

variable {ascii : Bool}

theorem print_scalar {v : Json} (h : v.scalar = true) : v.print ascii = v.scalarText.toList := by
  cases v with
  | bool b => cases b <;> rfl
  | null | int | float => rfl
  | str | arr | obj => cases h

theorem scalar_chars {v : Json} (hs : v.scalar = true) (hv : v.valid = true) :
    v.print ascii ≠ [] ∧ ∀ c ∈ v.print ascii, c ∉ special := by
  rw [print_scalar hs]
  cases v with
  | null => exact ⟨by simp [Json.scalarText], by simp [Json.scalarText, special]⟩
  | bool b => cases b <;> exact ⟨by simp [Json.scalarText], by simp [Json.scalarText, special]⟩
  | int n =>
    refine ⟨int_ne_nil n, fun c hc => ?_⟩
    rcases int_chars hc with hd | rfl
    · exact isDigit_not_special hd
    · decide
  | float r => exact floatRepr_chars hv
  | str | arr | obj => cases hs

theorem constant_not_number {s : String} (hs : s ∈ ["null", "true", "false"]) :
    floatRepr s = false ∧ ∀ n : Int, toString n ≠ s := by
  have hno : ∀ n : Int, 'l' ∉ (toString n).toList ∧ 't' ∉ (toString n).toList := by
    intro n
    refine ⟨fun hc => ?_, fun hc => ?_⟩
    · rcases int_chars hc with h | h <;> exact absurd h (by decide)
    · rcases int_chars hc with h | h <;> exact absurd h (by decide)
  simp only [List.mem_cons, List.not_mem_nil, or_false] at hs
  rcases hs with rfl | rfl | rfl
  · exact ⟨by decide +kernel, fun n h => (hno n).1 (by rw [h]; decide)⟩
  · exact ⟨by decide +kernel, fun n h => (hno n).2 (by rw [h]; decide)⟩
  · exact ⟨by decide +kernel, fun n h => (hno n).1 (by rw [h]; decide)⟩

theorem scalar_inj {v w : Json} (hv : v.scalar = true) (hw : w.scalar = true) (hv' : v.valid = true)
    (hw' : w.valid = true) (h : v.scalarText = w.scalarText) : v = w := by
  have hbool : ∀ b : Bool, (Json.bool b).scalarText ∈ ["null", "true", "false"] := by
    intro b
    cases b <;> simp [Json.scalarText]
  have hfloat : ∀ {r s : String}, floatRepr r = true → s ∈ ["null", "true", "false"] → r ≠ s := by
    rintro r s hr hs rfl
    rw [(constant_not_number hs).1] at hr
    cases hr
  cases v with
  | null =>
    cases w with
    | null => rfl
    | bool b => cases b <;> simp [Json.scalarText] at h
    | int n => exact absurd h.symm ((constant_not_number (by decide)).2 n)
    | float r => exact absurd h.symm (hfloat hw' (by decide))
    | str | arr | obj => cases hw
  | bool b =>
    cases w with
    | null => cases b <;> simp [Json.scalarText] at h
    | bool b' => cases b <;> cases b' <;> simp [Json.scalarText] at h ⊢
    | int n => exact absurd h.symm ((constant_not_number (hbool b)).2 n)
    | float r => exact absurd h.symm (hfloat hw' (hbool b))
    | str | arr | obj => cases hw
  | int n =>
    cases w with
    | null => exact absurd h ((constant_not_number (by decide)).2 n)
    | bool b => exact absurd h ((constant_not_number (hbool b)).2 n)
    | int m => rw [Int.repr_injective h]
    | float r =>
      have hr : toString n = r := h
      rw [Json.valid, ← hr, floatRepr_int] at hw'
      cases hw'
    | str | arr | obj => cases hw
  | float r =>
    cases w with
    | null => exact absurd h (hfloat hv' (by decide))
    | bool b => exact absurd h (hfloat hv' (hbool b))
    | int n =>
      have hr : r = toString n := h
      rw [Json.valid, hr, floatRepr_int] at hv'
      cases hv'
    | float r' => exact congrArg Json.float h
    | str | arr | obj => cases hw
  | str | arr | obj => cases hv

/-- The first character of a string, an array or an object. -/
def Json.opener : Json → Char
  | .arr _ => '['
  | .obj _ => '\x7b'
  | _ => '"'

theorem print_opener {v : Json} (hs : v.scalar = false) : ∃ p, v.print ascii = v.opener :: p := by
  cases v with
  | str | arr | obj => exact ⟨_, rfl⟩
  | null | bool | int | float => cases hs

theorem opener_special {v : Json} : v.opener ∈ special := by cases v <;> simp [Json.opener, special]

theorem print_head (hv : v.valid = true) {x y : List Char} {c : Char} (hc : c ∈ [']', '\x7d']) :
    v.print ascii ++ x ≠ c :: y := by
  intro h
  have hspecial : c ∈ special := by
    simp only [List.mem_cons, List.not_mem_nil, or_false] at hc
    rcases hc with rfl | rfl <;> decide
  cases hs : v.scalar with
  | true =>
    obtain ⟨hne, hno⟩ := @scalar_chars ascii v hs hv
    obtain ⟨d, p, hp⟩ := List.exists_cons_of_ne_nil hne
    rw [hp] at h hno
    exact hno d List.mem_cons_self ((List.cons.inj h).1 ▸ hspecial)
  | false =>
    obtain ⟨p, hp⟩ := @print_opener ascii v hs
    rw [hp] at h
    have : v.opener ∈ [']', '\x7d'] := (List.cons.inj h).1 ▸ hc
    cases v <;> simp [Json.opener] at this

/-- The text of a value is told from that of every other, whatever follows. -/
theorem print_reads (hv : v.valid = true) :
    Reads (Json.print ascii) (fun w => w.valid = true) Stop v := by
  have hstop : ∀ {c : Char} {x : List Char}, c ∈ special → Stop (c :: x) := by
    intro c x hc d hd
    rw [List.head?_cons, Option.mem_def, Option.some.injEq] at hd
    exact hd ▸ hc
  have hcomma : ∀ x : List Char, Stop (',' :: x) := fun x => hstop (by decide)
  have hscalar : ∀ {v w : Json} {x y : List Char}, v.scalar = true → v.valid = true → w.scalar = false →
      v.print ascii ++ x ≠ w.print ascii ++ y := by
    intro v w x y hs hv hw h
    obtain ⟨hne, hno⟩ := @scalar_chars ascii v hs hv
    obtain ⟨d, p, hp⟩ := List.exists_cons_of_ne_nil hne
    obtain ⟨q, hq⟩ := @print_opener ascii w hw
    rw [hp, hq] at h
    rw [hp] at hno
    exact hno d List.mem_cons_self ((List.cons.inj h).1 ▸ opener_special)
  have hscalars : ∀ v : Json, v.scalar = true → v.valid = true →
      Reads (Json.print ascii) (fun w => w.valid = true) Stop v := by
    intro v hs hv w x y hw hx hy h
    cases hs' : w.scalar with
    | false => exact absurd h (hscalar hs hv hs')
    | true =>
      obtain ⟨ht, hxy⟩ := token_reads (p := (· ∈ special)) (scalar_chars hs hv).2 (scalar_chars hs' hw).2 hx hy h
      rw [print_scalar hs, print_scalar hs', String.toList_inj] at ht
      exact ⟨scalar_inj hs hs' hv hw ht, hxy⟩
  induction v using Json.induction with
  | str s =>
    intro w x y hw hx hy h
    cases w with
    | str t =>
      obtain ⟨rfl, hxy⟩ := quoted_reads h
      exact ⟨rfl, hxy⟩
    | arr | obj => exact absurd (List.cons.inj h).1 (by decide)
    | null | bool | int | float => exact absurd h.symm (hscalar rfl hw rfl)
  | arr items ih =>
    intro w x y hw hx hy h
    cases w with
    | arr items' =>
      simp only [Json.valid, validItems_iff] at hv hw
      simp only [Json.print, printItems_eq, List.cons_append, List.append_assoc, List.nil_append, List.cons.injEq,
        true_and] at h
      obtain ⟨rfl, hxy⟩ := intercalate_reads hcomma (fun x => hstop (by decide)) (by decide)
        (fun w _ _ hw => print_head w hw (by decide)) (fun v hm => ih v hm (hv v hm)) hv hw h
      exact ⟨rfl, hxy⟩
    | str | obj => exact absurd (List.cons.inj h).1 (by decide)
    | null | bool | int | float => exact absurd h.symm (hscalar rfl hw rfl)
  | obj members ih =>
    intro w x y hw hx hy h
    cases w with
    | obj members' =>
      simp only [Json.valid, validMembers_iff] at hv hw
      simp only [Json.print, printMembers_eq, List.cons_append, List.append_assoc, List.nil_append, List.cons.injEq,
        true_and] at h
      have hmember : ∀ m ∈ members, Reads (printMember ascii) (fun m => m.2.valid = true) Stop m := by
        intro m hm m' x y hm' hx hy h
        simp only [printMember, List.append_assoc, List.cons_append] at h
        obtain ⟨hk, h⟩ := quoted_reads h
        obtain ⟨hval, hxy⟩ := ih m hm (hv m hm) m'.2 x y hm' hx hy (List.cons.inj h).2
        exact ⟨Prod.ext hk hval, hxy⟩
      obtain ⟨rfl, hxy⟩ := intercalate_reads hcomma (fun x => hstop (by decide)) (by decide)
        (fun m _ _ _ h => absurd (List.cons.inj h).1 (by decide)) hmember hv hw h
      exact ⟨rfl, hxy⟩
    | str | arr => exact absurd (List.cons.inj h).1 (by decide)
    | null | bool | int | float => exact absurd h.symm (hscalar rfl hw rfl)
  | _ => exact hscalars _ rfl hv

theorem dumps_inj {v w : Json} (hv : v.valid = true) (hw : w.valid = true) (h : dumps ascii v = dumps ascii w) :
    v.canon = w.canon := by
  have hprint : v.canon.print ascii ++ [] = w.canon.print ascii ++ [] := by
    rw [← dumps_eq_print, ← dumps_eq_print, h]
  have hstop : Stop [] := by
    intro c hc
    cases hc
  exact (print_reads v.canon (valid_canon v hv) w.canon [] [] (valid_canon w hw) hstop hstop hprint).1

/-- The canonical text of a value is its own, however its members are ordered, and fixes the value up to that order. -/
theorem dumps_eq_iff {v w : Json} (hv : v.valid = true) (hw : w.valid = true) :
    dumps ascii v = dumps ascii w ↔ v.canon = w.canon := by
  exact ⟨dumps_inj hv hw, dumps_of_canon⟩

theorem reordered_text_same : dumps true (.obj [("b", .int 1), ("a", .str "é")]) = dumps true (.obj [("a", .str "é"), ("b", .int 1)]) :=
  (dumps_eq_iff rfl rfl).2 (by simp [Json.canon, canonMembers])

end Values

/-! ## Members -/

theorem canon_obj_mem {a b : Obj} (h : (Json.obj a).canon = (Json.obj b).canon) {m : String × Json} (hm : m ∈ a) :
    ∃ m' ∈ b, m'.1 = m.1 ∧ m'.2.canon = m.2.canon := by
  simp only [Json.canon, Json.obj.injEq] at h
  have hmem : (m.1, m.2.canon) ∈ (canonMembers a).insertionSort fun a b => a.1 ≤ b.1 := by
    rw [List.mem_insertionSort, canonMembers_eq]
    exact List.mem_map_of_mem (f := fun m : String × Json => (m.1, m.2.canon)) hm
  rw [h, List.mem_insertionSort, canonMembers_eq] at hmem
  obtain ⟨m', hm', heq⟩ := List.mem_map.1 hmem
  rw [Prod.mk.injEq] at heq
  exact ⟨m', hm', heq.1, heq.2⟩

theorem lookup_of_mem {d : Obj} (hd : (d.map Prod.fst).Nodup) {m : String × Json} (hm : m ∈ d) :
    d.lookup m.1 = some m.2 := by
  induction d with
  | nil => cases hm
  | cons x rest ih =>
    rw [List.map_cons, List.nodup_cons] at hd
    rw [Obj.lookup_cons_ite]
    rcases List.mem_cons.1 hm with rfl | hm
    · exact if_pos rfl
    · rw [if_neg]
      · exact ih hd.2 hm
      · intro hk
        apply hd.1
        have hmem : m.1 ∈ rest.map Prod.fst := List.mem_map_of_mem hm
        exact hk ▸ hmem

theorem canon_lookup {a b : Obj} (h : (Json.obj a).canon = (Json.obj b).canon) (hb : (b.map Prod.fst).Nodup)
    {k : String} {v w : Json} (hv : a.lookup k = some v) (hw : b.lookup k = some w) : v.canon = w.canon := by
  obtain ⟨l₁, l₂, hl, -⟩ := List.lookup_eq_some_iff.1 hv
  obtain ⟨⟨k', v'⟩, hm, hk, hc⟩ := canon_obj_mem h (show (k, v) ∈ a by rw [hl]; simp)
  subst hk
  have hl' := lookup_of_mem hb hm
  rw [hw] at hl'
  cases hl'
  exact hc.symm

end Middleware
