/-
SHA-256 of a text, as `hashlib.sha256(text.encode("utf-8")).hexdigest()` computes it: the digests of
commands, mutations and evidence. Words are natural numbers below `2 ^ 32`. The proofs about the
ledger look at no more of a digest than its length and its digits.
-/
import Mathlib

namespace Middleware.Sha256

def add (a b : Nat) : Nat := (a + b) % 2 ^ 32

def rotr (n x : Nat) : Nat := (x >>> n) ||| ((x <<< (32 - n)) % 2 ^ 32)

def bigSigma0 (x : Nat) : Nat := (rotr 2 x).xor ((rotr 13 x).xor (rotr 22 x))
def bigSigma1 (x : Nat) : Nat := (rotr 6 x).xor ((rotr 11 x).xor (rotr 25 x))
def smallSigma0 (x : Nat) : Nat := (rotr 7 x).xor ((rotr 18 x).xor (x >>> 3))
def smallSigma1 (x : Nat) : Nat := (rotr 17 x).xor ((rotr 19 x).xor (x >>> 10))
def ch (x y z : Nat) : Nat := (x.land y).xor ((2 ^ 32 - 1 - x).land z)
def maj (x y z : Nat) : Nat := (x.land y).xor ((x.land z).xor (y.land z))

def roundConstants : List Nat :=
  [0x428a2f98, 0x71374491, 0xb5c0fbcf, 0xe9b5dba5, 0x3956c25b, 0x59f111f1, 0x923f82a4, 0xab1c5ed5,
    0xd807aa98, 0x12835b01, 0x243185be, 0x550c7dc3, 0x72be5d74, 0x80deb1fe, 0x9bdc06a7, 0xc19bf174,
    0xe49b69c1, 0xefbe4786, 0x0fc19dc6, 0x240ca1cc, 0x2de92c6f, 0x4a7484aa, 0x5cb0a9dc, 0x76f988da,
    0x983e5152, 0xa831c66d, 0xb00327c8, 0xbf597fc7, 0xc6e00bf3, 0xd5a79147, 0x06ca6351, 0x14292967,
    0x27b70a85, 0x2e1b2138, 0x4d2c6dfc, 0x53380d13, 0x650a7354, 0x766a0abb, 0x81c2c92e, 0x92722c85,
    0xa2bfe8a1, 0xa81a664b, 0xc24b8b70, 0xc76c51a3, 0xd192e819, 0xd6990624, 0xf40e3585, 0x106aa070,
    0x19a4c116, 0x1e376c08, 0x2748774c, 0x34b0bcb5, 0x391c0cb3, 0x4ed8aa4a, 0x5b9cca4f, 0x682e6ff3,
    0x748f82ee, 0x78a5636f, 0x84c87814, 0x8cc70208, 0x90befffa, 0xa4506ceb, 0xbef9a3f7, 0xc67178f2]

def initialHash : List Nat :=
  [0x6a09e667, 0xbb67ae85, 0x3c6ef372, 0xa54ff53a, 0x510e527f, 0x9b05688c, 0x1f83d9ab, 0x5be0cd19]

/-- The bytes of a message, padded to a multiple of 64 with its length in bits. -/
def pad (bytes : List Nat) : List Nat :=
  bytes ++ [0x80] ++ List.replicate ((119 - bytes.length % 64) % 64) 0 ++
    (List.range 8).map fun i => (bytes.length * 8) >>> (8 * (7 - i)) % 256

def toWords : List Nat → List Nat
  | a :: b :: c :: d :: rest => (((a * 256 + b) * 256 + c) * 256 + d) :: toWords rest
  | _ => []

/-- The message schedule, newest word first: `n` more words after the ones already there. -/
def schedule : Nat → List Nat → List Nat
  | 0, w => w
  | n + 1, w =>
    schedule n (add (add (smallSigma1 (w.getD 1 0)) (w.getD 6 0)) (add (smallSigma0 (w.getD 14 0)) (w.getD 15 0)) :: w)

def round (v : List Nat) (kw : Nat × Nat) : List Nat :=
  match v with
  | [a, b, c, d, e, f, g, h] =>
    let t1 := add (add h (bigSigma1 e)) (add (ch e f g) (add kw.1 kw.2))
    let t2 := add (bigSigma0 a) (maj a b c)
    [add t1 t2, a, b, c, add d t1, e, f, g]
  | v => v

def compress (hash block : List Nat) : List Nat :=
  let w := (schedule 48 block.reverse).reverse
  List.zipWith add hash ((roundConstants.zip w).foldl round hash)

/-- Hash the first `n` blocks of sixteen words. -/
def hashBlocks : Nat → List Nat → List Nat → List Nat
  | 0, _, hash => hash
  | n + 1, words, hash => hashBlocks n (words.drop 16) (compress hash (words.take 16))

def hexDigit (n : Nat) : Char := "0123456789abcdef".toList.getD n '0'

def hexWord (x : Nat) : List Char := (List.range 8).map fun i => hexDigit (x >>> (4 * (7 - i)) % 16)

/-- `hashlib.sha256(text.encode("utf-8")).hexdigest()`. -/
def hexdigest (text : String) : String :=
  let words := toWords (pad ((text.toList.flatMap String.utf8EncodeChar).map UInt8.toNat))
  String.ofList ((hashBlocks (words.length / 16) words initialHash).flatMap hexWord)

example : hexdigest "abc" = "ba7816bf8f01cfea414140de5dae2223b00361a396177a9cb410ff61f20015ad" := by
  decide +kernel

/-! ## Digests -/

theorem round_length {v : List Nat} (h : v.length = 8) (kw : Nat × Nat) : (round v kw).length = 8 := by
  unfold round
  split
  · rfl
  · exact h

theorem rounds_length {v : List Nat} (h : v.length = 8) (l : List (Nat × Nat)) : (l.foldl round v).length = 8 := by
  induction l generalizing v with
  | nil => exact h
  | cons kw rest ih => exact ih (round_length h kw)

theorem hashBlocks_length (n : Nat) (words : List Nat) {hash : List Nat} (h : hash.length = 8) :
    (hashBlocks n words hash).length = 8 := by
  induction n generalizing words hash with
  | zero => exact h
  | succ n ih =>
    refine ih _ ?_
    unfold compress
    rw [List.length_zipWith, rounds_length h, h]
    rfl

/-- The digest of the characters of a text, so that it is evaluated without decoding the text. -/
def hexdigits (chars : List Char) : List Char :=
  let words := toWords (pad ((chars.flatMap String.utf8EncodeChar).map UInt8.toNat))
  (hashBlocks (words.length / 16) words initialHash).flatMap hexWord

theorem hexdigest_toList (text : String) : (hexdigest text).toList = hexdigits text.toList := String.toList_ofList

theorem hexdigest_length (text : String) : (hexdigest text).toList.length = 64 := by
  rw [hexdigest_toList, hexdigits, List.length_flatMap]
  have hword : ∀ x, (hexWord x).length = 8 := fun x => by simp [hexWord]
  rw [List.map_congr_left fun x _ => hword x, List.map_const', List.sum_replicate, hashBlocks_length _ _ (by decide)]
  rfl

theorem mem_hexdigest {text : String} {c : Char} (h : c ∈ (hexdigest text).toList) : ∃ n < 16, c = hexDigit n := by
  rw [hexdigest_toList, hexdigits] at h
  obtain ⟨word, -, hword⟩ := List.mem_flatMap.1 h
  obtain ⟨i, -, hi⟩ := List.mem_map.1 hword
  exact ⟨_, Nat.mod_lt _ (by decide), hi.symm⟩

end Middleware.Sha256
