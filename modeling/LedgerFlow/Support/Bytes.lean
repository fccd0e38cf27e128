import LedgerFlow.Support.Json

/-!
# Hexadecimal and base64 texts of bytes

`hex` is `bytes.hex()` and is injective. `b64encode` is the standard alphabet with
padding. `b64decode` follows the lenient decoder of `binascii`: characters outside
the alphabet are skipped, and a complete padding ends the data. It reads back what
`b64encode` writes.
-/

namespace PyBytes

open PyText PyJson

/-- A byte string. -/
abbrev Bytes := List UInt8

/-! ## Hexadecimal -/

/-- The two hexadecimal digits of a byte. -/
def hexByte (byte : UInt8) : Str :=
  [Fin.ofNat 0x110000 (hexDigit (byte.toNat / 16)), Fin.ofNat 0x110000 (hexDigit (byte.toNat % 16))]

/-- `data.hex()` -/
def hex (data : Bytes) : Str := data.flatMap hexByte

/-- Hexadecimal text has two digits for each byte. -/
theorem hex_length (data : Bytes) : (hex data).length = 2 * data.length := by
  induction data with
  | nil => rfl
  | cons byte rest inductionHypothesis =>
    rw [hex, List.flatMap_cons, List.length_append, ← hex, inductionHypothesis, List.length_cons]
    show 2 + 2 * rest.length = _
    omega

/-- The code point of a hexadecimal digit determines the digit's value. -/
theorem hex_point_inj {first second : Nat} (left : first < 16) (right : second < 16)
    (same : Fin.ofNat 0x110000 (hexDigit first) = Fin.ofNat 0x110000 (hexDigit second)) :
    first = second := by
  have firstBound := hex_digit_bound left
  have secondBound := hex_digit_bound right
  have values := congrArg Fin.val same
  simp only [Fin.val_ofNat] at values
  exact hex_digit_injective left right (by omega)

/-- The two digits of a byte determine it, as its upper and its lower half. -/
theorem hex_byte_inj {first second : UInt8} (same : hexByte first = hexByte second) :
    first = second := by
  have firstBound := first.toNat_lt
  have secondBound := second.toNat_lt
  simp only [hexByte, List.cons.injEq, and_true] at same
  have high := hex_point_inj (by omega) (by omega) same.1
  have low := hex_point_inj (by omega) (by omega) same.2
  exact UInt8.toNat_inj.mp (by omega)

/-- Hexadecimal text determines its bytes, byte by byte; so digests may be compared by their
texts. -/
theorem hex_injective {first second : Bytes} (same : hex first = hex second) :
    first = second := by
  induction first generalizing second with
  | nil =>
    cases second with
    | nil => rfl
    | cons byte rest => cases same
  | cons byte rest inductionHypothesis =>
    cases second with
    | nil => cases same
    | cons other others =>
      rw [hex, hex, List.flatMap_cons, List.flatMap_cons] at same
      obtain ⟨head, tail⟩ := List.append_inj same rfl
      rw [hex_byte_inj head, inductionHypothesis tail]

/-! ## Base64 -/

/-- The letter of a sextet. -/
def letter (sextet : Nat) : CodePoint :=
  Fin.ofNat 0x110000 <|
    if sextet < 26 then 65 + sextet else if sextet < 52 then 71 + sextet
    else if sextet < 62 then sextet - 4 else if sextet = 62 then 43 else 47

/-- The sextet of a letter of the alphabet. -/
def sextet (c : CodePoint) : Option Nat :=
  if 65 ≤ c.val ∧ c.val ≤ 90 then some (c.val - 65)
  else if 97 ≤ c.val ∧ c.val ≤ 122 then some (c.val - 71)
  else if 48 ≤ c.val ∧ c.val ≤ 57 then some (c.val + 4)
  else if c.val = 43 then some 62 else if c.val = 47 then some 63 else none

/-- The padding character. -/
def pad : CodePoint := point '='

/-- `base64.b64encode(data).decode()` -/
def b64encode : Bytes → Str
  | [] => []
  | [a] => [letter (a.toNat / 4), letter (a.toNat % 4 * 16), pad, pad]
  | [a, b] =>
      [letter (a.toNat / 4), letter (a.toNat % 4 * 16 + b.toNat / 16),
        letter (b.toNat % 16 * 4), pad]
  | a :: b :: c :: rest =>
      letter (a.toNat / 4) :: letter (a.toNat % 4 * 16 + b.toNat / 16) ::
        letter (b.toNat % 16 * 4 + c.toNat / 64) :: letter (c.toNat % 64) :: b64encode rest

/-- The decoder's loop: the position in a group of four, the bits left over from the
last sextet and the padding seen in the group. -/
def decodeFrom : Str → Nat → Nat → Nat → Option Bytes
  | [], position, _, _ => if position = 0 then some [] else none
  | c :: rest, position, left, pads =>
      if c = pad then
        if 2 ≤ position then
          if 4 ≤ position + (pads + 1) then some [] else decodeFrom rest position left (pads + 1)
        else decodeFrom rest position left pads
      else
        match sextet c with
        | none => decodeFrom rest position left pads
        | some value =>
            if position = 0 then decodeFrom rest 1 value 0
            else if position = 1 then
              (decodeFrom rest 2 (value % 16) 0).map (.ofNat (left * 4 + value / 16) :: ·)
            else if position = 2 then
              (decodeFrom rest 3 (value % 4) 0).map (.ofNat (left * 16 + value / 4) :: ·)
            else (decodeFrom rest 0 0 0).map (.ofNat (left * 64 + value) :: ·)

/-- `base64.b64decode(text)`, absent where it raises. -/
def b64decode (text : Str) : Option Bytes :=
  if Ascii text then decodeFrom text 0 0 0 else none

/-- Each letter of the base64 alphabet is read as the six bits that it was printed for. -/
theorem sextet_letter {value : Nat} (small : value < 64) : sextet (letter value) = some value := by
  have all : ∀ n ∈ List.range 64, sextet (letter n) = some n := by decide
  exact all value (List.mem_range.mpr small)

/-- No letter of the alphabet is the padding, so the two cannot be confused. -/
theorem letter_not_pad {value : Nat} (small : value < 64) : letter value ≠ pad := by
  have all : ∀ n ∈ List.range 64, letter n ≠ pad := by decide
  exact all value (List.mem_range.mpr small)

/-- The letters of the alphabet are ASCII. -/
theorem letter_ascii {value : Nat} (small : value < 64) : (letter value).val < 128 := by
  have all : ∀ n ∈ List.range 64, (letter n).val < 128 := by decide
  exact all value (List.mem_range.mpr small)

/-- At each of the four positions of a group the decoder reads one letter and keeps the bits that
are left over. The four equations are what the loop does with a letter. -/
theorem decode_letter {value : Nat} (small : value < 64) (rest : Str) (left pads : Nat) :
    decodeFrom (letter value :: rest) 0 left pads = decodeFrom rest 1 value 0 ∧
      decodeFrom (letter value :: rest) 1 left pads =
        (decodeFrom rest 2 (value % 16) 0).map (.ofNat (left * 4 + value / 16) :: ·) ∧
      decodeFrom (letter value :: rest) 2 left pads =
        (decodeFrom rest 3 (value % 4) 0).map (.ofNat (left * 16 + value / 4) :: ·) ∧
      decodeFrom (letter value :: rest) 3 left pads =
        (decodeFrom rest 0 0 0).map (.ofNat (left * 64 + value) :: ·) := by
  simp [decodeFrom, letter_not_pad small, sextet_letter small]

/-- A number that is the value of a byte is that byte. -/
theorem of_nat_to_nat {byte : UInt8} {value : Nat} (same : value = byte.toNat) :
    UInt8.ofNat value = byte := by
  rw [same, UInt8.ofNat_toNat]

/-- The decoder's loop reads back an encoding from its first position, where no bits are left
over. The induction takes three bytes at a time, as the encoder does. -/
theorem decode_encode (data : Bytes) : decodeFrom (b64encode data) 0 0 0 = some data := by
  induction data using b64encode.induct with
  | case1 => rfl
  | case2 a =>
    have bound := a.toNat_lt
    rw [b64encode, (decode_letter (by omega) _ _ _).1, (decode_letter (by omega) _ _ _).2.1]
    rw [of_nat_to_nat (show a.toNat / 4 * 4 + a.toNat % 4 * 16 / 16 = a.toNat by omega)]
    rfl
  | case3 a b =>
    have boundA := a.toNat_lt
    have boundB := b.toNat_lt
    rw [b64encode, (decode_letter (by omega) _ _ _).1, (decode_letter (by omega) _ _ _).2.1,
      (decode_letter (by omega) _ _ _).2.2.1]
    rw [of_nat_to_nat (show a.toNat / 4 * 4 + (a.toNat % 4 * 16 + b.toNat / 16) / 16 = a.toNat by
      omega), of_nat_to_nat (show (a.toNat % 4 * 16 + b.toNat / 16) % 16 * 16 +
        b.toNat % 16 * 4 / 4 = b.toNat by omega)]
    rfl
  | case4 a b c rest inductionHypothesis =>
    have boundA := a.toNat_lt
    have boundB := b.toNat_lt
    have boundC := c.toNat_lt
    rw [b64encode, (decode_letter (by omega) _ _ _).1, (decode_letter (by omega) _ _ _).2.1,
      (decode_letter (by omega) _ _ _).2.2.1, (decode_letter (by omega) _ _ _).2.2.2,
      inductionHypothesis]
    rw [of_nat_to_nat (show a.toNat / 4 * 4 + (a.toNat % 4 * 16 + b.toNat / 16) / 16 = a.toNat by
      omega), of_nat_to_nat (show (a.toNat % 4 * 16 + b.toNat / 16) % 16 * 16 +
        (b.toNat % 16 * 4 + c.toNat / 64) / 4 = b.toNat by omega),
      of_nat_to_nat (show (b.toNat % 16 * 4 + c.toNat / 64) % 4 * 64 + c.toNat % 64 = c.toNat by
        omega)]
    rfl

/-- Encoded bytes are ASCII, padding included. -/
theorem b64encode_ascii (data : Bytes) : Ascii (b64encode data) := by
  have padded : pad.val < 128 := by decide
  induction data using b64encode.induct with
  | case1 => exact ascii_nil
  | case2 a =>
    have bound := a.toNat_lt
    simp [b64encode, letter_ascii (show a.toNat / 4 < 64 by omega),
      letter_ascii (show a.toNat % 4 * 16 < 64 by omega), padded]
  | case3 a b =>
    have boundA := a.toNat_lt
    have boundB := b.toNat_lt
    simp [b64encode, letter_ascii (show a.toNat / 4 < 64 by omega),
      letter_ascii (show a.toNat % 4 * 16 + b.toNat / 16 < 64 by omega),
      letter_ascii (show b.toNat % 16 * 4 < 64 by omega), padded]
  | case4 a b c rest inductionHypothesis =>
    have boundA := a.toNat_lt
    have boundB := b.toNat_lt
    have boundC := c.toNat_lt
    simp [b64encode, letter_ascii (show a.toNat / 4 < 64 by omega),
      letter_ascii (show a.toNat % 4 * 16 + b.toNat / 16 < 64 by omega),
      letter_ascii (show b.toNat % 16 * 4 + c.toNat / 64 < 64 by omega),
      letter_ascii (show c.toNat % 64 < 64 by omega), inductionHypothesis]

/-- Decoding reads back what encoding has written, for any bytes. -/
theorem b64_round_trip (data : Bytes) : b64decode (b64encode data) = some data := by
  rw [b64decode, if_pos (b64encode_ascii data), decode_encode]

end PyBytes
