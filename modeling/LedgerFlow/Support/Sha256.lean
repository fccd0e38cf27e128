import LedgerFlow.Support.Bytes
import Mathlib.Algebra.Group.Nat.Defs

/-!
# SHA-256

`sha256` is the digest of `hashlib.sha256(data).digest()`, and `hmacSha256` the keyed digest of
`hmac.new(key, data, hashlib.sha256).digest()`. Words are natural numbers below `2 ^ 32`. The
schedule of a block is extended with its newest word in front.
-/

namespace PyBytes

open PyText

/-! ## Words -/

/-- Rotate a word to the right. -/
def rotateRight (word places : Nat) : Nat := (word >>> places ||| word <<< (32 - places)) % 2 ^ 32

/-- The words of bytes, the first byte of four being the highest. -/
def wordsOf : Bytes → List Nat
  | a :: b :: c :: d :: rest =>
      (((a.toNat * 256 + b.toNat) * 256 + c.toNat) * 256 + d.toNat) :: wordsOf rest
  | _ => []

/-- So many bytes of a number, the highest first. -/
def bigEndian : Nat → Nat → Bytes
  | 0, _ => []
  | places + 1, value => UInt8.ofNat (value / 256 ^ places) :: bigEndian places value

/-! ## Compression -/

/-- The words that the rounds add. -/
def roundWords : List Nat :=
  [0x428a2f98, 0x71374491, 0xb5c0fbcf, 0xe9b5dba5, 0x3956c25b, 0x59f111f1, 0x923f82a4, 0xab1c5ed5,
    0xd807aa98, 0x12835b01, 0x243185be, 0x550c7dc3, 0x72be5d74, 0x80deb1fe, 0x9bdc06a7, 0xc19bf174,
    0xe49b69c1, 0xefbe4786, 0x0fc19dc6, 0x240ca1cc, 0x2de92c6f, 0x4a7484aa, 0x5cb0a9dc, 0x76f988da,
    0x983e5152, 0xa831c66d, 0xb00327c8, 0xbf597fc7, 0xc6e00bf3, 0xd5a79147, 0x06ca6351, 0x14292967,
    0x27b70a85, 0x2e1b2138, 0x4d2c6dfc, 0x53380d13, 0x650a7354, 0x766a0abb, 0x81c2c92e, 0x92722c85,
    0xa2bfe8a1, 0xa81a664b, 0xc24b8b70, 0xc76c51a3, 0xd192e819, 0xd6990624, 0xf40e3585, 0x106aa070,
    0x19a4c116, 0x1e376c08, 0x2748774c, 0x34b0bcb5, 0x391c0cb3, 0x4ed8aa4a, 0x5b9cca4f, 0x682e6ff3,
    0x748f82ee, 0x78a5636f, 0x84c87814, 0x8cc70208, 0x90befffa, 0xa4506ceb, 0xbef9a3f7, 0xc67178f2]

/-- The working variables of the rounds. -/
structure Working where
  a : Nat
  b : Nat
  c : Nat
  d : Nat
  e : Nat
  f : Nat
  g : Nat
  h : Nat

/-- The state before the first block. -/
def initialWorking : Working :=
  ⟨0x6a09e667, 0xbb67ae85, 0x3c6ef372, 0xa54ff53a, 0x510e527f, 0x9b05688c, 0x1f83d9ab, 0x5be0cd19⟩

/-- One round, with the word that it adds and the word of the schedule. -/
def compressRound (working : Working) (words : Nat × Nat) : Working :=
  let { a, b, c, d, e, f, g, h } := working
  let mixedE := rotateRight e 6 ^^^ rotateRight e 11 ^^^ rotateRight e 25
  let chosen := (e &&& f) ^^^ ((2 ^ 32 - 1 - e) &&& g)
  let first := h + mixedE + chosen + words.1 + words.2
  let mixedA := rotateRight a 2 ^^^ rotateRight a 13 ^^^ rotateRight a 22
  let majority := (a &&& b) ^^^ (a &&& c) ^^^ (b &&& c)
  ⟨(first + mixedA + majority) % 2 ^ 32, a, b, c, (d + first) % 2 ^ 32, e, f, g⟩

/-- Put so many more words in front of a schedule. -/
def extendSchedule : Nat → List Nat → List Nat
  | 0, words => words
  | more + 1, words =>
      let early := words.getD 14 0
      let late := words.getD 1 0
      let mixedEarly := rotateRight early 7 ^^^ rotateRight early 18 ^^^ early >>> 3
      let mixedLate := rotateRight late 17 ^^^ rotateRight late 19 ^^^ late >>> 10
      extendSchedule more
        ((words.getD 15 0 + mixedEarly + words.getD 6 0 + mixedLate) % 2 ^ 32 :: words)

/-- The schedule of a block. -/
def scheduleOf (block : List Nat) : List Nat := (extendSchedule 48 block.reverse).reverse

/-- The sums of the working variables. -/
def Working.add (first second : Working) : Working :=
  ⟨(first.a + second.a) % 2 ^ 32, (first.b + second.b) % 2 ^ 32, (first.c + second.c) % 2 ^ 32,
    (first.d + second.d) % 2 ^ 32, (first.e + second.e) % 2 ^ 32, (first.f + second.f) % 2 ^ 32,
    (first.g + second.g) % 2 ^ 32, (first.h + second.h) % 2 ^ 32⟩

/-- Compress so many blocks. -/
def compressBlocks : Nat → Working → List Nat → Working
  | 0, working, _ => working
  | blocks + 1, working, words =>
      let rounds := (roundWords.zip (scheduleOf (words.take 16))).foldl compressRound working
      compressBlocks blocks (working.add rounds) (words.drop 16)

/-! ## Digests -/

/-- The message with its padding: one bit, zeros up to the last eight bytes of a block, and
the number of bits. -/
def padded (data : Bytes) : Bytes :=
  data ++ 0x80 :: List.replicate ((119 - data.length % 64) % 64) 0 ++ bigEndian 8 (8 * data.length)

/-- `hashlib.sha256(data).digest()` -/
def sha256 (data : Bytes) : Bytes :=
  let words := wordsOf (padded data)
  let working := compressBlocks (words.length / 16) initialWorking words
  [working.a, working.b, working.c, working.d, working.e, working.f, working.g, working.h].flatMap
    (bigEndian 4)

example : hex (sha256 (utf8 (str "abc"))) =
    str "ba7816bf8f01cfea414140de5dae2223b00361a396177a9cb410ff61f20015ad" := by decide +kernel

/-- `hmac.new(key, data, hashlib.sha256).digest()` -/
def hmacSha256 (key data : Bytes) : Bytes :=
  let short := if 64 < key.length then sha256 key else key
  let block := short ++ List.replicate (64 - short.length) 0
  sha256 (block.map (· ^^^ 0x5c) ++ sha256 (block.map (· ^^^ 0x36) ++ data))

example : hex (hmacSha256 (utf8 (str "key")) (utf8 (str "value"))) =
    str "90fbfcf15e74a36b89dbdb2a721d9aecffdfdddc5c83e27f7592594f71932481" := by decide +kernel

/-- Hexadecimal text is ASCII, so its UTF-8 is its characters. -/
theorem hex_ascii (data : Bytes) : Ascii (hex data) := by
  have digit {value : Nat} (small : value < 16) :
      (Fin.ofNat 0x110000 (PyJson.hexDigit value)).val < 128 := by
    have bound := PyJson.hex_digit_bound small
    rw [Fin.val_ofNat]
    omega
  intro c member
  obtain ⟨byte, _, inside⟩ := List.mem_flatMap.mp member
  have bound := byte.toNat_lt
  rcases List.mem_pair.mp inside with rfl | rfl
  · exact digit (by omega)
  · exact digit (Nat.mod_lt _ (by decide))

end PyBytes
