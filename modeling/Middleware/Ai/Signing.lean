/-
The strings `qwen_auth_verifier.py` signs: the checks of the verifier on the fields, the two formats, and that a signed
string has one reading.
-/
import Middleware.Lead.Contract

namespace Middleware.Ai.Signing

open Lead (Pattern)

/-! ## The fields -/

def HEX_64 : Pattern := ⟨"", fun c => c.isDigit || ('a' ≤ c && c ≤ 'f'), 64, 64⟩

def DECIMAL_TIMESTAMP : Pattern := ⟨"", Char.isDigit, 10, 11⟩

def SAFE_NONCE : Pattern := ⟨"", fun c => c.isAlphanum || c == '.' || c == '_' || c == '~' || c == '-', 16, 128⟩

def SAFE_CORRELATION : Pattern := ⟨"", fun c => c.isAlphanum || c == '.' || c == '_' || c == ':' || c == '-', 8, 128⟩

/-- A text the verifier accepts for a field. -/
abbrev Matching (p : Pattern) := {value : String // p.fullmatch value = true}

/-- What the request line and the fields of a header carry: no line of theirs breaks. -/
abbrev Line := {value : String // '\n' ∉ value.toList}

/-- The fields of a request signed as `v1`. -/
structure V1 where
  method : Line
  path : Line
  serviceId : Line
  timestamp : Matching DECIMAL_TIMESTAMP
  nonce : Matching SAFE_NONCE
  bodyDigest : Matching HEX_64

/-- The fields of a request signed as `v2`; an absent tenant or workspace is `""`. -/
structure V2 where
  method : Line
  path : Line
  timestamp : Matching DECIMAL_TIMESTAMP
  nonce : Matching SAFE_NONCE
  bodyDigest : Matching HEX_64
  requestId : Matching SAFE_CORRELATION
  correlationId : Matching SAFE_CORRELATION
  workerId : Matching SAFE_CORRELATION
  tenantId : Line
  workspaceId : Line

/-! ## The signed strings -/

/-- `value.encode("ascii")`, which raises for any other character. -/
def encodeAscii (value : String) : Option (List Nat) :=
  if value.toList.all fun c => c.toNat < 128 then some (value.toList.map Char.toNat) else none

def canonicalSigningString (method path serviceId timestamp nonce bodyDigest : String) : Option (List Nat) :=
  encodeAscii (method ++ "\n" ++ path ++ "\n" ++ serviceId ++ "\n" ++ timestamp ++ "\n" ++ nonce ++ "\n" ++ bodyDigest)

def canonicalSigningStringV2 (method path timestamp nonce bodyDigest requestId correlationId workerId : String)
    (tenantId workspaceId : String := "") : Option (List Nat) :=
  let fields := [method, path, timestamp, nonce, bodyDigest, requestId, correlationId, workerId]
  encodeAscii ("\n".intercalate (if tenantId ≠ "" ∨ workspaceId ≠ "" then fields ++ [tenantId, workspaceId] else fields))

/-- A request under the version its header names. -/
inductive Signed where
  | v1 (r : V1)
  | v2 (r : V2)

namespace Signed

def canonical : Signed → Option (List Nat)
  | v1 r => canonicalSigningString r.method r.path r.serviceId r.timestamp r.nonce r.bodyDigest
  | v2 r => canonicalSigningStringV2 r.method r.path r.timestamp r.nonce r.bodyDigest r.requestId r.correlationId r.workerId
      r.tenantId r.workspaceId

/-- What `verify_authentication` compares: the signature is the code of the string under the key. -/
def Verifies (mac : List Nat → List Nat → String) (key : List Nat) (signature : String) (r : Signed) : Prop :=
  ∃ text, r.canonical = some text ∧ mac key text = signature

/-! ## One reading -/

def lines : Signed → List String
  | v1 r => [r.method, r.path, r.serviceId, r.timestamp, r.nonce, r.bodyDigest]
  | v2 r => ([r.method, r.path, r.timestamp, r.nonce, r.bodyDigest, r.requestId, r.correlationId, r.workerId] : List String) ++
      if r.tenantId.1 ≠ "" ∨ r.workspaceId.1 ≠ "" then [r.tenantId.1, r.workspaceId.1] else []

theorem canonical_eq (r : Signed) : r.canonical = encodeAscii ("\n".intercalate r.lines) := by
  cases r with
  | v1 r =>
    simp only [canonical, canonicalSigningString, lines]
    rfl
  | v2 r =>
    simp only [canonical, canonicalSigningStringV2, lines]
    split <;> simp

end Signed

/-- No class of the verifier takes a line break in. -/
theorem Matching.line {p : Pattern} (hp : p.letters '\n' = false) (hl : p.lead = "") (value : Matching p) :
    '\n' ∉ value.1.toList := by
  intro hmem
  have h := value.2
  simp only [Pattern.fullmatch, hl, Bool.and_eq_true, List.all_eq_true] at h
  simpa [hp] using h.2.1.1 '\n' hmem

theorem encodeAscii_inj {s t : String} {bytes : List Nat} (hs : encodeAscii s = some bytes) (ht : encodeAscii t = some bytes) :
    s = t := by
  simp only [encodeAscii] at hs ht
  split at hs <;> cases hs
  split at ht <;> simp only [Option.some.injEq, reduceCtorEq] at ht
  exact String.toList_inj.1 (List.map_injective_iff.2 (fun _ _ h => Char.toNat_inj.1 h) ht).symm

/-- Lines that do not break are read back from their join. -/
theorem intercalate_inj {ls ks : List String} (hl : ∀ l ∈ ls, '\n' ∉ l.toList) (hk : ∀ k ∈ ks, '\n' ∉ k.toList) (hls : ls ≠ [])
    (hks : ks ≠ []) (h : "\n".intercalate ls = "\n".intercalate ks) : ls = ks := by
  have hjoin := congrArg (fun s => s.toList.splitOn '\n') h
  simp only [String.toList_intercalate] at hjoin
  rw [show "\n".toList = ['\n'] from rfl, List.splitOn_intercalate _ (by simpa using hl) (by simpa using hls),
    List.splitOn_intercalate _ (by simpa using hk) (by simpa using hks)] at hjoin
  exact List.map_injective_iff.2 (fun _ _ h => String.toList_inj.1 h) hjoin

namespace Signed

variable {r r' : Signed}

theorem lines_ne_nil (r : Signed) : r.lines ≠ [] := by
  cases r <;> simp [lines]

theorem lines_line (r : Signed) : ∀ l ∈ r.lines, '\n' ∉ l.toList := by
  have hcode (value : Matching HEX_64) := value.line (by decide) rfl
  have htime (value : Matching DECIMAL_TIMESTAMP) := value.line (by decide) rfl
  have hnonce (value : Matching SAFE_NONCE) := value.line (by decide) rfl
  have hid (value : Matching SAFE_CORRELATION) := value.line (by decide) rfl
  cases r with
  | v1 r => simp [lines, r.method.2, r.path.2, r.serviceId.2, htime, hnonce, hcode]
  | v2 r =>
    simp only [lines]
    split <;> simp [r.method.2, r.path.2, r.tenantId.2, r.workspaceId.2, htime, hnonce, hcode, hid]

/-- The number of lines tells the formats apart: six, eight, or ten with a tenant and a workspace. -/
theorem lines_inj (h : r.lines = r'.lines) : r = r' := by
  have hlength := congrArg List.length h
  cases r with
  | v1 r =>
    cases r' with
    | v1 r' => cases r; cases r'; simp_all [lines, Subtype.ext_iff]
    | v2 r' =>
      simp only [lines] at hlength
      split at hlength <;> simp at hlength
  | v2 r =>
    cases r' with
    | v1 r' =>
      simp only [lines] at hlength
      split at hlength <;> simp at hlength
    | v2 r' =>
      cases r; cases r'
      simp only [lines] at h hlength
      split at h <;> split at h <;> simp_all [Subtype.ext_iff]

/-- **Signing strings are unambiguous.** Two accepted requests with one signed string are one request of one version, and
with or without a tenant alike; so a signature verified for two of them is a collision of the code under the key. -/
theorem canonical_unambiguous (r r' : Signed) :
    (∀ text, r.canonical = some text → r'.canonical = some text → r = r') ∧
      ∀ mac key signature, r.Verifies mac key signature → r'.Verifies mac key signature →
        r = r' ∨ ∃ text text', text ≠ text' ∧ mac key text = mac key text' := by
  have hinj (text) (h : r.canonical = some text) (h' : r'.canonical = some text) : r = r' := by
    rw [canonical_eq] at h h'
    exact lines_inj (intercalate_inj r.lines_line r'.lines_line r.lines_ne_nil r'.lines_ne_nil (encodeAscii_inj h h'))
  refine ⟨hinj, fun mac key signature hr hr' => ?_⟩
  obtain ⟨text, htext, hmac⟩ := hr
  obtain ⟨text', htext', hmac'⟩ := hr'
  by_cases h : text = text'
  · subst h
    exact .inl (hinj _ htext htext')
  · exact .inr ⟨text, text', h, hmac.trans hmac'.symm⟩

end Signed

end Middleware.Ai.Signing
