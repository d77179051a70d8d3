/-
`SemanticVersion` of `middleware/connector_sdk/standards.py`: its parser, its comparison, and that the comparison is the
precedence of semantic versions.
-/
import Middleware.Lib.SemVer

namespace Middleware.Connector

open Lib

/-- An entry of a `ManifestValidationError`; `version` is the text of a version that does not parse. -/
inductive Problem where
  | text (message : String)
  | version (value : String)
deriving DecidableEq, Repr

inductive Error where
  | standards (value : String)
  | value
  | json
  | manifest (errors : List Problem)
  | versionConflict (message : String)
  | state (message : String)
  | notFound (connectorId : String)
deriving DecidableEq, Repr

theorem bind_ok {ε A B : Type} {x : Except ε A} {f : A → Except ε B} {b : B} (h : (x >>= f) = .ok b) :
    ∃ a, x = .ok a ∧ f a = .ok b := by
  cases x with
  | error e => cases h
  | ok a => exact ⟨a, rfl, h⟩

/-! ## Text -/

/-- `s.partition(sep)`: before the separator, whether there is one, after it. -/
def partition (sep : Char) (s : List Char) : List Char × Bool × List Char :=
  (s.takeWhile (· != sep), s.contains sep, (s.dropWhile (· != sep)).drop 1)

/-- `s.split(sep)`. -/
def split (sep : Char) (s : List Char) : List String := (s.splitOn sep).map String.ofList

/-- `int(s)` on ASCII digits; the interpreter refuses more than 4300 of them. -/
def int (s : String) : Except Error Nat := if s.toList.length ≤ 4300 then .ok (decimal s.toList) else .error .value

/-- `str.isdigit` on ASCII text. -/
def isdigit (s : String) : Bool := !s.toList.isEmpty && s.toList.all Char.isDigit

/-! ## Versions -/

def validSemverIdentifier (identifier : String) (prerelease : Bool) : Bool :=
  !identifier.toList.isEmpty &&
    identifier.toList.all (fun char => char.isDigit || char == '-' || char.isLower || char.isUpper) &&
    !(prerelease && identifier.toList.all Char.isDigit && decide (1 < identifier.toList.length) &&
      identifier.toList.head? == some '0')

def validSemverCoreIdentifier (identifier : String) : Bool :=
  !identifier.toList.isEmpty && identifier.toList.all Char.isDigit &&
    (identifier.toList.length == 1 || identifier.toList.head? != some '0')

structure SemanticVersion where
  major : Nat
  minor : Nat
  patch : Nat
  prerelease : List String := []
  build : List String := []
deriving DecidableEq, Repr

namespace SemanticVersion

/-- The identifiers after a `+` or a `-`, all of them valid. -/
def identifiers (value : String) (separator : Bool) (raw : List Char) (prerelease : Bool) : Except Error (List String) :=
  let identifiers := if separator then split '.' raw else []
  if separator && identifiers.any (fun identifier => !validSemverIdentifier identifier prerelease) then
    .error (.standards value)
  else .ok identifiers

def parse (value : String) : Except Error SemanticVersion :=
  if 1 < value.toList.count '+' then .error (.standards value)
  else do
    let (coreAndPrerelease, plus, buildRaw) := partition '+' value.toList
    let build ← identifiers value plus buildRaw false
    let (coreRaw, dash, prereleaseRaw) := partition '-' coreAndPrerelease
    let prerelease ← identifiers value dash prereleaseRaw true
    match split '.' coreRaw with
    | [major, minor, patch] =>
      if [major, minor, patch].any (fun identifier => !validSemverCoreIdentifier identifier) then
        .error (.standards value)
      else do
        let major ← int major
        let minor ← int minor
        let patch ← int patch
        return { major := major, minor := minor, patch := patch, prerelease := prerelease, build := build }
    | _ => .error (.standards value)

/-- The loop of `_compare_prerelease`, and the lengths where it runs out. -/
def compareIdentifiers : List String → List String → Except Error Int
  | left :: lefts, right :: rights =>
    if left = right then compareIdentifiers lefts rights
    else if isdigit left && isdigit right then do
      return if (← int left) < (← int right) then -1 else 1
    else if isdigit left != isdigit right then .ok (if isdigit left then -1 else 1)
    else .ok (if left < right then -1 else 1)
  | [], [] => .ok 0
  | [], _ :: _ => .ok (-1)
  | _ :: _, [] => .ok 1

/-- `_compare_prerelease`. -/
def comparePrerelease (self other : SemanticVersion) : Except Error Int :=
  if self.prerelease.isEmpty && other.prerelease.isEmpty then .ok 0
  else if self.prerelease.isEmpty then .ok 1
  else if other.prerelease.isEmpty then .ok (-1)
  else compareIdentifiers self.prerelease other.prerelease

def core (self : SemanticVersion) : Nat × Nat × Nat := (self.major, self.minor, self.patch)

/-- `__lt__`. -/
def lt (self other : SemanticVersion) : Except Error Bool :=
  if self.core ≠ other.core then
    .ok (decide (self.major < other.major ∨ self.major = other.major ∧
      (self.minor < other.minor ∨ self.minor = other.minor ∧ self.patch < other.patch)))
  else do
    return decide ((← self.comparePrerelease other) < 0)

/-- `__eq__`. -/
def eq (self other : SemanticVersion) : Bool := decide (self.core = other.core ∧ self.prerelease = other.prerelease)

/-! ## Precedence -/

/-- Where an identifier, a pre-release and a version stand in the order of semantic versions. -/
def identifier (s : String) : Identifier := if isdigit s then .number (decimal s.toList) else .word s

def prereleaseRank (prerelease : List String) : WithTop (List Identifier) :=
  if prerelease = [] then ⊤ else WithTop.some (prerelease.map identifier)

def rank (self : SemanticVersion) : Precedence :=
  precedence self.major self.minor self.patch (prereleaseRank self.prerelease)

/-- What `parse` guarantees of the identifiers. -/
def Valid (self : SemanticVersion) : Prop := ∀ i ∈ self.prerelease, validSemverIdentifier i true = true

theorem int_ok {s : String} {n : Nat} (h : int s = .ok n) : n = decimal s.toList := by
  unfold int at h
  split at h
  · simpa using h.symm
  · cases h

theorem numeral_of_isdigit {s : String} (hv : validSemverIdentifier s true = true) (hd : isdigit s = true) :
    Numeral s.toList := by
  simp only [isdigit, Bool.and_eq_true, Bool.not_eq_true', List.isEmpty_eq_false_iff, List.all_eq_true] at hd
  refine ⟨hd.2, hd.1, ?_⟩
  simp only [validSemverIdentifier, Bool.and_eq_true, Bool.not_eq_true', Bool.true_and, Bool.and_eq_false_iff] at hv
  rcases hv.2 with (h | h) | h
  · exact absurd (List.all_eq_true.2 hd.2) (by simp [h])
  · left
    have := List.length_pos_iff.2 hd.1
    have := of_decide_eq_false h
    omega
  · right
    simpa using h

theorem identifier_inj {s t : String} (hs : validSemverIdentifier s true = true) (ht : validSemverIdentifier t true = true)
    (h : identifier s = identifier t) : s = t := by
  unfold identifier at h
  split at h
  · rename_i hds
    split at h
    · rename_i hdt
      have hn : decimal s.toList = decimal t.toList := by simpa using h
      exact String.toList_inj.1 (decimal_inj (numeral_of_isdigit hs hds) (numeral_of_isdigit ht hdt) hn)
    · simp at h
  · split at h
    · simp at h
    · simpa using h

theorem identifiers_inj {l r : List String} (hl : ∀ i ∈ l, validSemverIdentifier i true = true)
    (hr : ∀ i ∈ r, validSemverIdentifier i true = true) (h : l.map identifier = r.map identifier) : l = r := by
  induction l generalizing r with
  | nil => simpa using h.symm
  | cons i l ih =>
    rcases r with _ | ⟨j, r⟩
    · simp at h
    · simp only [List.map_cons, List.cons.injEq] at h
      rw [identifier_inj (hl i (by simp)) (hr j (by simp)) h.1]
      rw [ih (fun i hi => hl i (by simp [hi])) (fun j hj => hr j (by simp [hj])) h.2]

/-- Two different identifiers as the loop compares them. -/
theorem identifier_lt {s t : String} : identifier s < identifier t ↔
    isdigit s = true ∧ isdigit t = true ∧ decimal s.toList < decimal t.toList ∨
      isdigit s = true ∧ isdigit t = false ∨ isdigit s = false ∧ isdigit t = false ∧ s < t := by
  unfold identifier
  cases hs : isdigit s <;> cases ht : isdigit t <;> simp

theorem head_lt {i j : String} {l r : List Identifier} (hi : validSemverIdentifier i true = true)
    (hj : validSemverIdentifier j true = true) (hne : i ≠ j) :
    identifier i :: l < identifier j :: r ↔ identifier i < identifier j := by
  rw [List.cons_lt_cons_iff]
  constructor
  · rintro (h | ⟨h, -⟩)
    · exact h
    · exact absurd (identifier_inj hi hj h) hne
  · exact Or.inl

theorem ite_neg {p : Prop} [Decidable p] : (if p then (-1 : Int) else 1) < 0 ↔ p := by
  by_cases hp : p <;> simp [hp]

theorem compareIdentifiers_neg {l r : List String} (hl : ∀ i ∈ l, validSemverIdentifier i true = true)
    (hr : ∀ i ∈ r, validSemverIdentifier i true = true) {c : Int} (h : compareIdentifiers l r = .ok c) :
    c < 0 ↔ l.map identifier < r.map identifier := by
  induction l, r using compareIdentifiers.induct with
  | case1 i l r ih =>
    rw [compareIdentifiers, if_pos rfl] at h
    rw [ih (fun i hi => hl i (by simp [hi])) (fun j hj => hr j (by simp [hj])) h]
    simp
  | case2 i l j r hne hd =>
    rw [compareIdentifiers, if_neg hne, if_pos hd] at h
    simp only [Bool.and_eq_true] at hd
    rw [List.map_cons, List.map_cons, head_lt (hl i (by simp)) (hr j (by simp)) hne, identifier_lt]
    obtain ⟨m, hi, h⟩ := bind_ok h
    obtain ⟨n, hj, h⟩ := bind_ok h
    cases h
    rw [ite_neg, int_ok hi, int_ok hj]
    simp [hd.1, hd.2]
  | case3 i l j r hne hd hx =>
    rw [compareIdentifiers, if_neg hne, if_neg hd, if_pos hx] at h
    rw [List.map_cons, List.map_cons, head_lt (hl i (by simp)) (hr j (by simp)) hne, identifier_lt]
    simp only [Except.ok.injEq] at h
    subst h
    cases hi : isdigit i <;> cases hj : isdigit j <;> simp_all
  | case4 i l j r hne hd hx =>
    rw [compareIdentifiers, if_neg hne, if_neg hd, if_neg hx] at h
    rw [List.map_cons, List.map_cons, head_lt (hl i (by simp)) (hr j (by simp)) hne, identifier_lt]
    simp only [Except.ok.injEq] at h
    subst h
    rw [ite_neg]
    cases hi : isdigit i <;> cases hj : isdigit j <;> simp_all
  | case5 =>
    simp only [compareIdentifiers, Except.ok.injEq] at h
    subst h
    simp
  | case6 j r =>
    simp only [compareIdentifiers, Except.ok.injEq] at h
    subst h
    simp
  | case7 i l =>
    simp only [compareIdentifiers, Except.ok.injEq] at h
    subst h
    simp

theorem comparePrerelease_neg {a b : SemanticVersion} (ha : a.Valid) (hb : b.Valid) {c : Int}
    (h : comparePrerelease a b = .ok c) (hcore : a.core = b.core) : c < 0 ↔ a.rank < b.rank := by
  rw [rank, rank, precedence_lt]
  have hsame : (a.major, a.minor, a.patch) = (b.major, b.minor, b.patch) := hcore
  have hnot : ¬(a.major < b.major ∨ a.major = b.major ∧
      (a.minor < b.minor ∨ a.minor = b.minor ∧ a.patch < b.patch)) := by
    simp only [Prod.mk.injEq] at hsame
    omega
  simp only [hnot, hsame, true_and, false_or]
  unfold comparePrerelease at h
  unfold prereleaseRank
  by_cases hpa : a.prerelease = []
  · by_cases hpb : b.prerelease = [] <;> simp [hpa, hpb] at h ⊢ <;> omega
  · by_cases hpb : b.prerelease = []
    · simp [hpa, hpb] at h ⊢
      omega
    · have hne : ¬((a.prerelease.isEmpty && b.prerelease.isEmpty) = true) := by simp [hpa]
      rw [if_neg hne, if_neg (by simpa using hpa), if_neg (by simpa using hpb)] at h
      simp only [hpa, hpb, if_false, WithTop.coe_lt_coe]
      exact compareIdentifiers_neg ha hb h

/-- `__lt__` is the order of semantic versions, whenever it answers. -/
theorem lt_iff {a b : SemanticVersion} (ha : a.Valid) (hb : b.Valid) {r : Bool} (h : a.lt b = .ok r) :
    r = true ↔ a.rank < b.rank := by
  unfold lt at h
  split at h
  · rename_i hne
    simp only [Except.ok.injEq] at h
    subst h
    rw [rank, rank, precedence_lt]
    have hne : ¬(a.major, a.minor, a.patch) = (b.major, b.minor, b.patch) := hne
    simp [hne]
  · rename_i hcore
    obtain ⟨c, hc, h⟩ := bind_ok h
    cases h
    rw [decide_eq_true_eq]
    exact comparePrerelease_neg ha hb hc (by simpa using hcore)

theorem prereleaseRank_inj {p q : List String} (hp : ∀ i ∈ p, validSemverIdentifier i true = true)
    (hq : ∀ i ∈ q, validSemverIdentifier i true = true) (h : prereleaseRank p = prereleaseRank q) : p = q := by
  unfold prereleaseRank at h
  by_cases hpn : p = []
  · by_cases hqn : q = []
    · rw [hpn, hqn]
    · simp [hpn, hqn] at h
  · by_cases hqn : q = []
    · simp [hpn, hqn] at h
    · simp only [hpn, hqn, if_false, WithTop.coe_inj] at h
      exact identifiers_inj hp hq h

/-- `__eq__` is sameness in the order: build metadata does not count. -/
theorem eq_iff {a b : SemanticVersion} (ha : a.Valid) (hb : b.Valid) : a.eq b = true ↔ a.rank = b.rank := by
  rw [eq, decide_eq_true_eq, rank, rank, precedence_inj]
  constructor
  · rintro ⟨hcore, hpre⟩
    exact ⟨hcore, by rw [hpre]⟩
  · rintro ⟨hcore, hpre⟩
    exact ⟨hcore, prereleaseRank_inj ha hb hpre⟩

theorem identifiers_valid {value : String} {separator prerelease : Bool} {raw : List Char} {ids : List String}
    (h : identifiers value separator raw prerelease = .ok ids) : ∀ i ∈ ids, validSemverIdentifier i prerelease = true := by
  cases separator with
  | false =>
    cases h
    simp
  | true =>
    simp only [identifiers, if_true, Bool.true_and] at h
    split at h
    · cases h
    · rename_i hids
      cases h
      intro i hi
      by_contra hv
      apply hids
      exact List.any_eq_true.2 ⟨i, hi, by simpa using hv⟩

theorem parse_valid {value : String} {v : SemanticVersion} (h : parse value = .ok v) : v.Valid := by
  unfold parse at h
  split at h
  · cases h
  · obtain ⟨build, -, h⟩ := bind_ok h
    obtain ⟨prerelease, hpre, h⟩ := bind_ok h
    split at h
    · split at h
      · cases h
      · obtain ⟨major, -, h⟩ := bind_ok h
        obtain ⟨minor, -, h⟩ := bind_ok h
        obtain ⟨patch, -, h⟩ := bind_ok h
        cases h
        exact identifiers_valid hpre
    · cases h

/-- `__lt__` orders the versions that are read, and `__eq__` is its sameness, as far as the comparisons answer. -/
theorem parsed_ordered {s t u : String} {a b c : SemanticVersion} (hs : parse s = .ok a) (ht : parse t = .ok b) (hu : parse u = .ok c) :
    (∀ r r', a.lt b = .ok r → b.lt a = .ok r' →
      (r, a.eq b, r') ∈ [(true, false, false), (false, true, false), (false, false, true)]) ∧
    ∀ r, a.lt b = .ok true → b.lt c = .ok true → a.lt c = .ok r → r = true := by
  have ha := parse_valid hs
  have hb := parse_valid ht
  have hc := parse_valid hu
  refine ⟨fun r r' h h' => ?_, fun r h h' h'' => ?_⟩
  · have hlt := lt_iff ha hb h
    have hgt := lt_iff hb ha h'
    have heq := eq_iff ha hb
    rcases lt_trichotomy a.rank b.rank with hr | hr | hr
    · simp_all [hr.not_gt, hr.ne]
    · simp_all
    · simp_all [hr.not_gt, hr.ne']
  · exact (lt_iff ha hc h'').2 (((lt_iff ha hb h).1 rfl).trans ((lt_iff hb hc h').1 rfl))

theorem prereleases_ordered : ∃ r, lt ⟨1, 0, 0, ["alpha"], []⟩ ⟨1, 0, 0, [], []⟩ = .ok r ∧ r = true := by
  have hs : parse "1.0.0-alpha" = .ok ⟨1, 0, 0, ["alpha"], []⟩ := by decide +kernel
  have ht : parse "1.0.0-rc.1" = .ok ⟨1, 0, 0, ["rc", "1"], []⟩ := by decide +kernel
  have hu : parse "1.0.0" = .ok ⟨1, 0, 0, [], []⟩ := by decide +kernel
  have hr : lt ⟨1, 0, 0, ["alpha"], []⟩ ⟨1, 0, 0, [], []⟩ = .ok true := by decide +kernel
  exact ⟨true, hr, (parsed_ordered hs ht hu).2 true (by decide +kernel) (by decide +kernel) hr⟩

end SemanticVersion

end Middleware.Connector
