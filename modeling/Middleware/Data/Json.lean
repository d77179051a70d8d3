/-
JSON values as the ledger handles them: evidence mappings, command payloads and the canonical text
that is hashed (`json.dumps` with sorted keys and without blanks), and
`redact_metadata` of `app/commands.py` on a mapping.

An object is its list of members in insertion order with Python's dictionary semantics: `set`
replaces in place or appends, and in `merge` (`{**a, **b}`) the later member wins. A float is
carried by its `repr` text, so nothing here depends on floating point.
-/
import Middleware.Data.Sha256

namespace Middleware

inductive Json where
  | null
  | bool (b : Bool)
  | int (n : Int)
  | float (repr : String)
  | str (s : String)
  | arr (items : List Json)
  | obj (members : List (String × Json))

/-- A JSON object, or a Python dictionary with string keys. -/
abbrev Obj := List (String × Json)

namespace Obj

/-- `d[key] = value`. -/
def set : Obj → String → Json → Obj
  | [], key, value => [(key, value)]
  | (k, v) :: rest, key, value =>
    if k = key then (k, value) :: rest else (k, v) :: set rest key value

/-- `{**a, **b}`. -/
def merge (a b : Obj) : Obj := b.foldl (fun d m => set d m.1 m.2) a

theorem lookup_cons_ite (key k : String) (v : Json) (rest : Obj) :
    List.lookup key ((k, v) :: rest) = if key = k then some v else rest.lookup key := by
  rw [List.lookup_cons]
  by_cases h : key = k
  · simp [h]
  · have hb : (key == k) = false := by simpa using h
    simp [h, hb]

theorem lookup_set (key key' : String) (value : Json) : ∀ d : Obj,
    (set d key value).lookup key' = if key' = key then some value else d.lookup key'
  | [] => by simp [set, lookup_cons_ite]
  | (k, v) :: rest => by
    unfold set
    split
    · rename_i hk
      subst hk
      by_cases h : key' = k <;> simp [lookup_cons_ite, h]
    · rename_i hk
      rw [lookup_cons_ite, lookup_cons_ite, lookup_set key key' value rest]
      by_cases h : key' = k
      · subst h; simp [hk]
      · simp [h]

/-- A member of the right mapping, the last one under its key, wins over the left mapping. -/
theorem lookup_merge (key : String) : ∀ (b a : Obj),
    (merge a b).lookup key = (b.reverse.lookup key).or (a.lookup key)
  | [], a => by simp [merge]
  | (k, v) :: b, a => by
    have ih := lookup_merge key b (set a k v)
    simp only [merge, List.foldl_cons] at ih ⊢
    rw [ih, lookup_set, List.reverse_cons, List.lookup_append]
    rw [lookup_cons_ite]
    by_cases h : key = k <;> cases b.reverse.lookup key <;> simp [h]

end Obj

/-! ## Redaction -/

/-- `str.lower()` as far as its ASCII letters go: the two other characters whose lower case has an
ASCII letter are the Kelvin sign and the dotted capital I. -/
def lowerChars (c : Char) : List Char :=
  if c.isUpper then [c.toLower]
  else if c = '\u212a' then ['k']
  else if c = '\u0130' then ['i', '\u0307']
  else [c]

def lower (s : String) : List Char := s.toList.flatMap lowerChars

/-- `_SENSITIVE_METADATA_PARTS`. -/
def sensitiveMetadataParts : List String :=
  ["authorization", "token", "password", "secret", "credential", "private_key", "api_key",
    "access_token", "refresh_token"]

def sensitiveKey (key : String) : Bool :=
  sensitiveMetadataParts.any fun part => decide (part.toList <:+: lower key)

mutual

/-- The inner `clean` of `redact_metadata`. -/
def clean : Json → Json
  | .obj members => .obj (redactMetadata members)
  | .arr items => .arr (cleanItems items)
  | .null => .null
  | .bool b => .bool b
  | .int n => .int n
  | .float r => .float r
  | .str s => .str s

def cleanItems : List Json → List Json
  | [] => []
  | item :: rest => clean item :: cleanItems rest

/-- `redact_metadata` on a mapping. -/
def redactMetadata : Obj → Obj
  | [] => []
  | (key, child) :: rest =>
    (key, if sensitiveKey key then .str "[REDACTED]" else clean child) :: redactMetadata rest

end

theorem redactMetadata_eq_map : ∀ o : Obj, redactMetadata o =
    o.map fun m => (m.1, if sensitiveKey m.1 then .str "[REDACTED]" else clean m.2)
  | [] => by rw [redactMetadata]; rfl
  | (key, child) :: rest => by
    rw [redactMetadata, redactMetadata_eq_map rest]; rfl

theorem redactMetadata_reverse (o : Obj) : (redactMetadata o).reverse = redactMetadata o.reverse := by
  simp [redactMetadata_eq_map]

theorem lookup_redactMetadata (key : String) : ∀ o : Obj,
    (redactMetadata o).lookup key =
      (o.lookup key).map fun v => if sensitiveKey key then .str "[REDACTED]" else clean v
  | [] => by rw [redactMetadata]; rfl
  | (k, v) :: rest => by
    rw [redactMetadata, Obj.lookup_cons_ite, Obj.lookup_cons_ite, lookup_redactMetadata key rest]
    by_cases h : key = k
    · subst h; simp
    · simp [h]

/-! ## Canonical text -/

def hexEscape (n : Nat) : List Char :=
  ['\\', 'u'] ++ [n / 4096 % 16, n / 256 % 16, n / 16 % 16, n % 16].map Sha256.hexDigit

/-- A character of a JSON string; `ascii` is `ensure_ascii`. -/
def escapeChar (ascii : Bool) (c : Char) : List Char :=
  if c = '"' then ['\\', '"']
  else if c = '\\' then ['\\', '\\']
  else if c = '\n' then ['\\', 'n']
  else if c = '\r' then ['\\', 'r']
  else if c = '\t' then ['\\', 't']
  else if c.toNat = 8 then ['\\', 'b']
  else if c.toNat = 12 then ['\\', 'f']
  else if c.toNat < 32 then hexEscape c.toNat
  else if ascii && 127 ≤ c.toNat then
    if c.toNat < 65536 then hexEscape c.toNat
    else hexEscape (55296 + (c.toNat - 65536) / 1024) ++ hexEscape (56320 + (c.toNat - 65536) % 1024)
  else [c]

def quote (ascii : Bool) (s : String) : String :=
  String.ofList (['"'] ++ s.toList.flatMap (escapeChar ascii) ++ ['"'])

mutual

/-- `json.dumps(value, ensure_ascii=ascii, separators=(",", ":"), sort_keys=True)`. -/
def dumps (ascii : Bool) : Json → String
  | .null => "null"
  | .bool true => "true"
  | .bool false => "false"
  | .int n => toString n
  | .float r => r
  | .str s => quote ascii s
  | .arr items => "[" ++ ",".intercalate (dumpsItems ascii items) ++ "]"
  | .obj members =>
    "\x7b" ++ ",".intercalate (((dumpsMembers ascii members).insertionSort (fun a b => a.1 ≤ b.1)).map
      fun m => quote ascii m.1 ++ ":" ++ m.2) ++ "\x7d"

def dumpsItems (ascii : Bool) : List Json → List String
  | [] => []
  | item :: rest => dumps ascii item :: dumpsItems ascii rest

def dumpsMembers (ascii : Bool) : Obj → List (String × String)
  | [] => []
  | (key, value) :: rest => (key, dumps ascii value) :: dumpsMembers ascii rest

end

/-- `canonical_fingerprint` of `app/provider_canary.py`. -/
def canonicalFingerprint (value : Json) : String :=
  "sha256:" ++ Sha256.hexdigest (dumps false value)

/-- `provider_evidence_digest`. -/
def providerEvidenceDigest (evidence : Obj) : String := canonicalFingerprint (.obj evidence)

/-- `text[:n]`. -/
def clip (n : Nat) (text : String) : String := String.ofList (text.toList.take n)

end Middleware
