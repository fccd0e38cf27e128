import LedgerFlow.Support.Json
import LedgerFlow.Support.Grouping
import LedgerFlow.Support.Timestamps
import Mathlib.Data.List.TakeWhile

/-!
# Reading JSON text

`loads` follows the scanner of `json.loads`. White space may stand around every token, a
repeated key keeps its first place and takes its last value, two adjacent escapes of a
surrogate pair are joined, and a numeral without fraction and exponent is an integer. Such a
numeral may have at most `digitLimit` digits, by the interpreter's limit on converting
between text and integers. What a float prints as is a parameter. Nesting is not limited.

The scanner recurses on fuel. Every value that it reads takes up text, so the fuel that
`loads` supplies never runs out. What it reads from a decoded text has integers within the
limit, and strings in which every surrogate pair is joined.
-/

namespace PyJson

open PyText PyDateTime Grouping

/-! ## Results of a scan -/

/-- Why a text is not read. -/
inductive ReadError where
  /-- `JSONDecodeError` -/
  | malformed
  /-- `ValueError`, an integer beyond the digit limit -/
  | digitLimit
  /-- The scanner is out of fuel, which `loads` rules out. -/
  | fuel
  deriving DecidableEq

/-- A value, or why there is none. -/
abbrev Read (α : Type) := Except ReadError α

/-- The default of `sys.set_int_max_str_digits`. -/
@[irreducible] def digitLimit : Nat := 4300

/-- `str(n)` does not raise. -/
def Short (n : Int) : Prop := n.natAbs < 10 ^ digitLimit

instance (n : Int) : Decidable (Short n) := inferInstanceAs (Decidable (_ < _))

/-- An integer of at most nineteen digits is within the digit limit. -/
theorem short_small {n : Int} (small : n.natAbs < 10 ^ 19) : Short n :=
  lt_of_lt_of_le small (Nat.pow_le_pow_right (by decide) (by rw [digitLimit]; decide))

/-- White space between tokens. -/
def blank (c : CodePoint) : Bool := decide (c = 32 ∨ c = 9 ∨ c = 10 ∨ c = 13)

/-- The text after white space. -/
def skip (text : Str) : Str := text.dropWhile blank

/-! ## Strings -/

/-- The value of a hexadecimal digit. -/
def hexValue (c : CodePoint) : Option Nat :=
  if 48 ≤ c.val ∧ c.val ≤ 57 then some (c.val - 48)
  else if 97 ≤ c.val ∧ c.val ≤ 102 then some (c.val - 87)
  else if 65 ≤ c.val ∧ c.val ≤ 70 then some (c.val - 55) else none

/-- The code point of four hexadecimal digits. -/
def hexUnit (a b c d : CodePoint) : Option CodePoint := do
  let third ← hexValue a
  let second ← hexValue b
  let first ← hexValue c
  let last ← hexValue d
  some (Fin.ofNat 0x110000 (((third * 16 + second) * 16 + first) * 16 + last))

/-- What a two-character escape stands for. -/
def unescape (c : CodePoint) : Option CodePoint :=
  if c = 34 ∨ c = 92 ∨ c = 47 then some c
  else if c = 98 then some 8 else if c = 102 then some 12 else if c = 110 then some 10
  else if c = 114 then some 13 else if c = 116 then some 9 else none

/-- A code point of a string as it is spelled. -/
inductive Piece where
  /-- It stands for itself, or has a two-character escape. -/
  | literal (c : CodePoint)
  /-- It is escaped by four hexadecimal digits. -/
  | escaped (c : CodePoint)
  deriving DecidableEq

/-- The pieces up to the closing quote, and the text after it. -/
def scanPieces : Str → Option (List Piece × Str)
  | [] => none
  | c :: rest =>
      if c = 34 then some ([], rest)
      else if c = 92 then
        match rest with
        | [] => none
        | e :: rest =>
            if e = 117 then
              match rest with
              | h3 :: h2 :: h1 :: h0 :: rest => do
                  let unit ← hexUnit h3 h2 h1 h0
                  let (pieces, left) ← scanPieces rest
                  some (.escaped unit :: pieces, left)
              | _ => none
            else do
              let c ← unescape e
              let (pieces, left) ← scanPieces rest
              some (.literal c :: pieces, left)
      else if c.val < 32 then none
      else do
        let (pieces, left) ← scanPieces rest
        some (.literal c :: pieces, left)

/-- The code point of a surrogate pair. -/
def joined (first second : CodePoint) : CodePoint :=
  Fin.ofNat 0x110000 (0x10000 + (first.val - 0xD800) * 0x400 + (second.val - 0xDC00))

/-- The string of some pieces: adjacent escapes of a pair are joined. -/
def joinPieces : List Piece → Str
  | [] => []
  | .literal c :: rest => c :: joinPieces rest
  | .escaped c :: rest =>
      match rest with
      | .escaped d :: others =>
          if high c && low d then joined c d :: joinPieces others
          else c :: joinPieces (.escaped d :: others)
      | [] => [c]
      | .literal d :: others => c :: joinPieces (.literal d :: others)

/-- The string after an opening quote. -/
def scanString (text : Str) : Read (Str × Str) :=
  match scanPieces text with
  | some (pieces, left) => .ok (joinPieces pieces, left)
  | none => .error .malformed

/-! ## Numbers -/

/-- The integer part of a numeral: a zero, or digits that start with another one. -/
def scanInteger : Str → Option (Str × Str)
  | [] => none
  | c :: rest =>
      if c = 48 then some ([c], rest)
      else if digit c then some (c :: rest.takeWhile digit, rest.dropWhile digit) else none

/-- The fraction of a numeral, empty if there is none. -/
def scanFraction : Str → Str × Str
  | c :: d :: rest =>
      if c = 46 ∧ digit d = true then (c :: d :: rest.takeWhile digit, rest.dropWhile digit)
      else ([], c :: d :: rest)
  | text => ([], text)

/-- The sign of an exponent. -/
def scanSign : Str → Str × Str
  | c :: rest => if c = 43 ∨ c = 45 then ([c], rest) else ([], c :: rest)
  | [] => ([], [])

/-- The exponent of a numeral, empty if there is none. -/
def scanExponent : Str → Str × Str
  | c :: rest =>
      let (sign, digits) := scanSign rest
      if (c = 101 ∨ c = 69) ∧ digits.takeWhile digit ≠ [] then
        (c :: sign ++ digits.takeWhile digit, digits.dropWhile digit)
      else ([], c :: rest)
  | [] => ([], [])

section Scanning

variable (readFloat : Str → {s : Str // Ascii s})

/-- A numeral after its sign. -/
def scanMagnitude (sign text : Str) : Read (Json × Str) :=
  match scanInteger text with
  | none => .error .malformed
  | some (digits, afterDigits) =>
      let (fraction, afterFraction) := scanFraction afterDigits
      let (exponent, left) := scanExponent afterFraction
      if fraction = [] ∧ exponent = [] then
        if digits.length ≤ digitLimit then
          .ok (.int (if sign = [] then (numeral digits : Int) else -(numeral digits : Int)), left)
        else .error .digitLimit
      else .ok (.float (readFloat (sign ++ digits ++ fraction ++ exponent)), left)

/-- A numeral. -/
def scanNumber : Str → Read (Json × Str)
  | c :: rest =>
      if c = 45 then scanMagnitude readFloat [c] rest else scanMagnitude readFloat [] (c :: rest)
  | [] => .error .malformed

/-- The words that stand for values. -/
def words : List (Str × Json) :=
  [(str "null", .null), (str "true", .bool true), (str "false", .bool false),
    (str "NaN", .float (readFloat (str "NaN"))),
    (str "Infinity", .float (readFloat (str "Infinity"))),
    (str "-Infinity", .float (readFloat (str "-Infinity")))]

/-- A word that the text starts with, and the text after it. -/
def scanWord (text : Str) : Option (Json × Str) :=
  (words readFloat).findSome? fun entry =>
    if entry.1 <+: text then some (entry.2, text.drop entry.1.length) else none

/-! ## Values -/

mutual

/-- `scan_once` -/
def scanValue : Nat → Str → Read (Json × Str)
  | 0, _ => .error .fuel
  | _ + 1, [] => .error .malformed
  | fuel + 1, c :: rest =>
      if c = 34 then do
        let (text, left) ← scanString rest
        .ok (.str text, left)
      else if c = 123 then
        if (skip rest).head? = some 125 then .ok (.obj [], (skip rest).drop 1)
        else do
          let (entries, left) ← scanEntries fuel (skip rest)
          .ok (.obj (dictionary entries), left)
      else if c = 91 then
        if (skip rest).head? = some 93 then .ok (.arr [], (skip rest).drop 1)
        else do
          let (items, left) ← scanItems fuel (skip rest)
          .ok (.arr items, left)
      else match scanWord readFloat (c :: rest) with
        | some found => .ok found
        | none => scanNumber readFloat (c :: rest)

/-- The items of a list up to its bracket. -/
def scanItems : Nat → Str → Read (List Json × Str)
  | 0, _ => .error .fuel
  | fuel + 1, text => do
      let (item, left) ← scanValue fuel text
      if (skip left).head? = some 93 then .ok ([item], (skip left).drop 1)
      else if (skip left).head? = some 44 then do
        let (items, left) ← scanItems fuel (skip ((skip left).drop 1))
        .ok (item :: items, left)
      else .error .malformed

/-- The entries of an object up to its brace. -/
def scanEntries : Nat → Str → Read (List (Str × Json) × Str)
  | 0, _ => .error .fuel
  | fuel + 1, text =>
      if text.head? = some 34 then do
        let (key, left) ← scanString (text.drop 1)
        if (skip left).head? = some 58 then do
          let (value, left) ← scanValue fuel (skip ((skip left).drop 1))
          if (skip left).head? = some 125 then .ok ([(key, value)], (skip left).drop 1)
          else if (skip left).head? = some 44 then do
            let (entries, left) ← scanEntries fuel (skip ((skip left).drop 1))
            .ok ((key, value) :: entries, left)
          else .error .malformed
        else .error .malformed
      else .error .malformed

end

/-- `json.loads(text)` -/
def loads (text : Str) : Read Json :=
  if text.head? = some 0xFEFF then .error .malformed
  else do
    let (value, left) ← scanValue readFloat (2 * text.length + 1) (skip text)
    if skip left = [] then .ok value else .error .malformed

end Scanning

/-! ## What is read -/

mutual

/-- Integers are within the limit and strings are unpaired, at every depth. -/
def Decoded : Json → Prop
  | .int n => Short n
  | .str text => Unpaired text
  | .arr items => DecodedItems items
  | .obj fields => DecodedFields fields
  | .null | .bool _ | .float _ => True

/-- Every item is decoded. -/
def DecodedItems : List Json → Prop
  | [] => True
  | item :: rest => Decoded item ∧ DecodedItems rest

/-- Every key and every value is decoded. -/
def DecodedFields : List (Str × Json) → Prop
  | [] => True
  | entry :: rest => (Unpaired entry.1 ∧ Decoded entry.2) ∧ DecodedFields rest

end

/-- An object is decoded exactly when each of its keys is unpaired and each of its values
decoded. -/
theorem decoded_fields {fields : List (Str × Json)} :
    DecodedFields fields ↔ ∀ entry ∈ fields, Unpaired entry.1 ∧ Decoded entry.2 := by
  induction fields with
  | nil => simp [DecodedFields]
  | cons entry rest inductionHypothesis =>
    rw [DecodedFields, inductionHypothesis, List.forall_mem_cons]

/-- The value of a run of digits is below the power of ten of its length. -/
theorem numeral_bound {digits : Str} (all : ∀ c ∈ digits, digit c = true) :
    numeral digits < 10 ^ digits.length := by
  have running : ∀ (rest : Str) (value : Nat), (∀ c ∈ rest, digit c = true) →
      rest.foldl (fun value c => value * 10 + (c.val - 48)) value <
        (value + 1) * 10 ^ rest.length := by
    intro rest
    induction rest with
    | nil => intro value _; simp
    | cons c others inductionHypothesis =>
      intro value given
      have later := inductionHypothesis (value * 10 + (c.val - 48))
        fun d member => given d (List.mem_cons_of_mem c member)
      have small := of_decide_eq_true (given c List.mem_cons_self)
      rw [List.foldl_cons, List.length_cons, Nat.pow_succ]
      calc _ < (value * 10 + (c.val - 48) + 1) * 10 ^ others.length := later
        _ ≤ ((value + 1) * 10) * 10 ^ others.length := Nat.mul_le_mul_right _ (by omega)
        _ = (value + 1) * (10 ^ others.length * 10) := by rw [Nat.mul_assoc, Nat.mul_comm 10]
  simpa [numeral] using running digits 0 all

/-! ## Strings are unpaired -/

/-- The piece is no surrogate that stands for itself. -/
def Plain : Piece → Prop
  | .literal c => ¬ (0xD800 ≤ c.val ∧ c.val < 0xE000)
  | .escaped _ => True

/-- A joined pair lies beyond the basic plane, so it is no surrogate. -/
theorem joined_beyond {first second : CodePoint} (opens : high first = true)
    (closes : low second = true) : 0x10000 ≤ (joined first second).val := by
  have opening := of_decide_eq_true opens
  have closing := of_decide_eq_true closes
  have value (n : Nat) (small : n < 0x110000) : (Fin.ofNat 0x110000 n).val = n :=
    Nat.mod_eq_of_lt small
  rw [joined, value _ (by omega)]
  omega

/-- The string of plain pieces is unpaired, and starts with a low surrogate only where an
escape spells it.

The induction follows `joinPieces`; an escape is joined with the next one or stays apart
from it, so that no high surrogate is left before a low one. -/
theorem join_unpaired (pieces : List Piece) (plain : ∀ piece ∈ pieces, Plain piece) :
    Unpaired (joinPieces pieces) ∧ ∀ c ∈ (joinPieces pieces).head?, low c = true →
      ∃ rest, pieces = .escaped c :: rest := by
  fun_induction joinPieces pieces with
  | case1 => exact ⟨trivial, nofun⟩
  | case2 c rest inductionHypothesis =>
    have solid := plain (.literal c) List.mem_cons_self
    obtain ⟨later, _⟩ := inductionHypothesis fun piece member =>
      plain piece (List.mem_cons_of_mem _ member)
    refine ⟨⟨fun opens => ?_, later⟩, ?_⟩
    · have range := of_decide_eq_true opens
      exact absurd ⟨range.1, by omega⟩ solid
    · rintro d ⟨⟩ closes
      have range := of_decide_eq_true closes
      exact absurd ⟨by omega, range.2⟩ solid
  | case3 c d rest pair inductionHypothesis =>
    obtain ⟨opens, closes⟩ := (Bool.and_eq_true ..).mp pair
    have beyond := joined_beyond opens closes
    obtain ⟨later, _⟩ := inductionHypothesis fun piece member =>
      plain piece (List.mem_cons_of_mem _ (List.mem_cons_of_mem _ member))
    generalize joined c d = both at beyond
    refine ⟨⟨fun opens => ?_, later⟩, ?_⟩
    · have range := of_decide_eq_true opens
      omega
    · rintro e ⟨⟩ closes
      have range := of_decide_eq_true closes
      omega
  | case4 c d rest apart inductionHypothesis =>
    obtain ⟨later, starts⟩ := inductionHypothesis fun piece member =>
      plain piece (List.mem_cons_of_mem _ member)
    refine ⟨⟨fun opens e head => ?_, later⟩, ?_⟩
    · cases closes : low e with
      | false => rfl
      | true =>
        obtain ⟨others, same⟩ := starts e head closes
        cases same
        exact absurd ((Bool.and_eq_true ..).mpr ⟨opens, closes⟩) apart
    · rintro e ⟨⟩ _
      exact ⟨_, rfl⟩
  | case5 c =>
    refine ⟨⟨fun _ => nofun, trivial⟩, ?_⟩
    rintro e ⟨⟩ _
    exact ⟨_, rfl⟩
  | case6 c d rest inductionHypothesis =>
    obtain ⟨later, starts⟩ := inductionHypothesis fun piece member =>
      plain piece (List.mem_cons_of_mem _ member)
    refine ⟨⟨fun opens e head => ?_, later⟩, ?_⟩
    · cases closes : low e with
      | false => rfl
      | true =>
        obtain ⟨others, same⟩ := starts e head closes
        cases same
    · rintro e ⟨⟩ _
      exact ⟨_, rfl⟩

/-! ## Progress -/

/-- The text is a part of the other at its end, and not all of it. -/
def Rest (left text : Str) : Prop := left <:+ text ∧ left.length < text.length

/-- What is left of a text is left of every longer text that ends with it. -/
theorem Rest.within {left text longer : Str} (rest : Rest left text) (suffix : text <:+ longer) :
    Rest left longer :=
  ⟨rest.1.trans suffix, lt_of_lt_of_le rest.2 suffix.length_le⟩

/-- What is left after more has been taken is left of the text as well. -/
theorem Rest.after {left text shorter : Str} (rest : Rest left text) (suffix : shorter <:+ left) :
    Rest shorter text :=
  ⟨suffix.trans rest.1, lt_of_le_of_lt suffix.length_le rest.2⟩

/-- The text after a character is a suffix that is shorter. -/
theorem rest_cons (c : CodePoint) (text : Str) : Rest text (c :: text) :=
  ⟨List.suffix_cons c text, Nat.lt_succ_self _⟩

/-- What is left of an encodable text is encodable. -/
theorem Rest.encodable {left text : Str} (rest : Rest left text) (encodable : Encodable text) :
    Encodable left :=
  fun c member => encodable c (rest.1.mem member)

/-- Skipping blanks takes a text off at the front and changes nothing after it. -/
theorem skip_suffix (text : Str) : skip text <:+ text := List.dropWhile_suffix blank

/-- Taking the first character of a text that has one leaves less. -/
theorem rest_tail {text : Str} {c : CodePoint} (head : text.head? = some c) :
    Rest (text.drop 1) text := by
  cases text with
  | nil => cases head
  | cons d rest => exact rest_cons d rest

/-- A two-character escape stands for no surrogate. -/
theorem unescape_plain {letter c : CodePoint} (read : unescape letter = some c) :
    Plain (.literal c) := by
  unfold unescape at read
  split_ifs at read with same <;> cases read
  · rcases same with rfl | rfl | rfl <;> (rw [Plain]; decide)
  all_goals
    rw [Plain]
    decide

/-- The pieces of an encodable text are plain, and end within it. -/
theorem scan_pieces_spec {text left : Str} {pieces : List Piece} (encodable : Encodable text)
    (scanned : scanPieces text = some (pieces, left)) :
    Rest left text ∧ ∀ piece ∈ pieces, Plain piece := by
  fun_induction scanPieces text generalizing pieces left with
  | case1 => cases scanned
  | case2 =>
    cases scanned
    exact ⟨rest_cons _ _, nofun⟩
  | case3 => cases scanned
  | case4 h3 h2 h1 h0 rest _ inductionHypothesis =>
    simp only [Option.bind_eq_bind, Option.bind_eq_some_iff, Prod.exists] at scanned
    obtain ⟨unit, _, others, later, inner, same⟩ := scanned
    cases same
    have ends : rest <:+ 92 :: 117 :: h3 :: h2 :: h1 :: h0 :: rest :=
      ⟨[92, 117, h3, h2, h1, h0], rfl⟩
    obtain ⟨left, plain⟩ := inductionHypothesis
      (fun c member => encodable c (ends.mem member)) inner
    exact ⟨left.within ends, List.forall_mem_cons.mpr ⟨trivial, plain⟩⟩
  | case5 => cases scanned
  | case6 e rest _ _ inductionHypothesis =>
    simp only [Option.bind_eq_bind, Option.bind_eq_some_iff, Prod.exists] at scanned
    obtain ⟨c, read, others, later, inner, same⟩ := scanned
    cases same
    have ends : rest <:+ 92 :: e :: rest := ⟨[92, e], rfl⟩
    obtain ⟨left, plain⟩ := inductionHypothesis
      (fun c member => encodable c (ends.mem member)) inner
    exact ⟨left.within ends, List.forall_mem_cons.mpr ⟨unescape_plain read, plain⟩⟩
  | case7 => cases scanned
  | case8 c rest _ _ _ inductionHypothesis =>
    simp only [Option.bind_eq_bind, Option.bind_eq_some_iff, Prod.exists] at scanned
    obtain ⟨others, later, inner, same⟩ := scanned
    cases same
    obtain ⟨left, plain⟩ := inductionHypothesis
      (fun d member => encodable d (List.mem_cons_of_mem c member)) inner
    exact ⟨left.within (List.suffix_cons c rest),
      List.forall_mem_cons.mpr ⟨encodable c List.mem_cons_self, plain⟩⟩

/-- The scan takes up some of the text, yields a good value and is not out of fuel. -/
def Scans {α : Type} (good : α → Prop) (text : Str) : Read (α × Str) → Prop
  | .ok (value, left) => Rest left text ∧ good value
  | .error error => error ≠ .fuel

section Progress

variable {α β : Type} {good : α → Prop} {better : β → Prop} {text : Str}

/-- Refusing a text is progress: it does not run out of fuel. -/
theorem scans_malformed : Scans good text (.error .malformed) := ReadError.noConfusion

/-- Progress on a text is progress on every longer text that ends with it. -/
theorem Scans.longer {other : Str} {result : Read (α × Str)} (scans : Scans good text result)
    (suffix : text <:+ other) : Scans good other result := by
  cases result with
  | error error => exact scans
  | ok read => exact ⟨scans.1.within suffix, scans.2⟩

/-- A composition makes progress when its first part does and its second part loses none. -/
theorem Scans.bind {result : Read (α × Str)} {next : α × Str → Read (β × Str)}
    (scans : Scans good text result)
    (following : ∀ value left, Rest left text → good value →
      Scans better text (next (value, left))) : Scans better text (result >>= next) := by
  cases result with
  | error error => exact scans
  | ok read => exact following read.1 read.2 scans.1 scans.2

/-- The string at the front of an encodable text is read or refused, and in what is read of it no
high surrogate is followed by a low one: an escaped pair was joined, and an encodable text has no
surrogates of its own. An escaped surrogate that stands alone is kept. -/
theorem scans_string (encodable : Encodable text) : Scans Unpaired text (scanString text) := by
  unfold scanString
  split
  · next pieces left scanned =>
    obtain ⟨rest, plain⟩ := scan_pieces_spec encodable scanned
    exact ⟨rest, (join_unpaired pieces plain).1⟩
  · exact scans_malformed

/-- The digits of an integer take up at least one character, and they are digits. -/
theorem scan_integer_spec {digits left : Str} (scanned : scanInteger text = some (digits, left)) :
    Rest left text ∧ ∀ c ∈ digits, digit c = true := by
  cases text with
  | nil => cases scanned
  | cons c rest =>
    rw [scanInteger] at scanned
    split at scanned
    · next zero =>
      cases scanned
      refine ⟨rest_cons _ _, fun d member => ?_⟩
      rw [List.mem_singleton.mp member, zero]
      decide
    · split at scanned
      · next first =>
        cases scanned
        refine ⟨(rest_cons c rest).after (List.dropWhile_suffix digit), fun d member => ?_⟩
        rcases List.mem_cons.mp member with rfl | later
        · exact first
        · exact List.mem_takeWhile_imp later
      · cases scanned

/-- Scanning a fraction takes a text off at the front, or nothing. -/
theorem scan_fraction_suffix (text : Str) : (scanFraction text).2 <:+ text := by
  unfold scanFraction
  split
  · next c d rest =>
    split
    · exact (List.dropWhile_suffix digit).trans ⟨[c, d], rfl⟩
    · exact List.suffix_rfl
  · exact List.suffix_rfl

/-- Scanning a sign takes one character off at the front, or nothing. -/
theorem scan_sign_suffix (text : Str) : (scanSign text).2 <:+ text := by
  unfold scanSign
  split
  · next c rest =>
    split
    · exact List.suffix_cons c rest
    · exact List.suffix_rfl
  · exact List.suffix_rfl

/-- Scanning an exponent takes a text off at the front, or nothing. -/
theorem scan_exponent_suffix (text : Str) : (scanExponent text).2 <:+ text := by
  cases text with
  | nil => exact List.suffix_rfl
  | cons c rest =>
    simp only [scanExponent]
    split
    · exact ((List.dropWhile_suffix digit).trans (scan_sign_suffix rest)).trans
        (List.suffix_cons c rest)
    · exact List.suffix_rfl

end Progress

section Progressing

variable {readFloat : Str → {s : Str // Ascii s}}

/-- A number after its sign is read or refused. An integer of more digits than the limit is
refused, so what is read is within it; a float may be any. -/
theorem scans_magnitude (sign text : Str) :
    Scans Decoded text (scanMagnitude readFloat sign text) := by
  unfold scanMagnitude
  split
  · exact scans_malformed
  · next digits afterDigits scanned =>
    obtain ⟨shorter, all⟩ := scan_integer_spec scanned
    have left : Rest (scanExponent (scanFraction afterDigits).2).2 text :=
      shorter.after ((scan_exponent_suffix _).trans (scan_fraction_suffix afterDigits))
    dsimp only
    split
    · split
      · next within =>
        refine ⟨left, ?_⟩
        have bound : numeral digits < 10 ^ digitLimit :=
          lt_of_lt_of_le (numeral_bound all) (Nat.pow_le_pow_right (by decide) within)
        rw [Decoded, Short]
        split
        · exact bound
        · rw [Int.natAbs_neg]
          exact bound
      · exact ReadError.noConfusion
    · exact ⟨left, trivial⟩

/-- A number is read or refused, with a sign or without one. -/
theorem scans_number (text : Str) : Scans Decoded text (scanNumber readFloat text) := by
  cases text with
  | nil => exact scans_malformed
  | cons c rest =>
    rw [scanNumber]
    split
    · exact (scans_magnitude [c] rest).longer (List.suffix_cons c rest)
    · exact scans_magnitude [] (c :: rest)

/-- A word takes up at least one character, and stands for a value without integers or texts in
it. -/
theorem scan_word_spec {text left : Str} {value : Json}
    (found : scanWord readFloat text = some (value, left)) : Rest left text ∧ Decoded value := by
  obtain ⟨entry, listed, same⟩ := List.exists_of_findSome?_eq_some found
  split at same
  · next starts =>
    cases same
    have positive : 0 < entry.1.length ∧ Decoded entry.2 := by
      simp only [words, List.mem_cons, List.not_mem_nil, or_false] at listed
      rcases listed with rfl | rfl | rfl | rfl | rfl | rfl <;> exact ⟨Nat.succ_pos _, trivial⟩
    have within := starts.length_le
    refine ⟨⟨List.drop_suffix _ _, ?_⟩, positive.2⟩
    rw [List.length_drop]
    omega
  · cases same

/-! ### One level of the scan

A bracket, a comma or a key takes up text before the fuel of the next item is needed, so fuel
for twice the length of the text is enough at every level. -/

section Levels

variable (readFloat) (fuel : Nat)

/-- Values are scanned with this fuel. -/
def ScansValues : Prop := ∀ text : Str, Encodable text → 2 * text.length < fuel →
  Scans Decoded text (scanValue readFloat fuel text)

/-- The items of a list are. -/
def ScansItems : Prop := ∀ text : Str, Encodable text → 2 * text.length + 1 < fuel →
  Scans DecodedItems text (scanItems readFloat fuel text)

/-- The entries of an object are. -/
def ScansEntries : Prop := ∀ text : Str, Encodable text → 2 * text.length + 1 < fuel →
  Scans DecodedFields text (scanEntries readFloat fuel text)

variable {readFloat fuel}

/-- A value: a string, an object or a list after its opening character, a word or a number. -/
theorem scans_value (items : ScansItems readFloat fuel) (entries : ScansEntries readFloat fuel) :
    ScansValues readFloat (fuel + 1) := by
  intro text encodable enough
  cases text with
  | nil => exact scans_malformed
  | cons c rest =>
    have inside : skip rest <:+ c :: rest := (skip_suffix rest).trans (List.suffix_cons c rest)
    have first : Rest (skip rest) (c :: rest) := (rest_cons c rest).after (skip_suffix rest)
    have skipped := first.2
    rw [List.length_cons] at enough skipped
    rw [scanValue]
    split_ifs with quoted brace empty bracket none
    · refine ((scans_string ((rest_cons c rest).encodable encodable)).longer
        (List.suffix_cons c rest)).bind fun text left shorter unpaired => ?_
      exact ⟨shorter, unpaired⟩
    · exact ⟨(rest_tail empty).within inside, trivial⟩
    · refine ((entries (skip rest) (first.encodable encodable) (by omega)).longer inside).bind
        fun read left shorter decoded => ⟨shorter, ?_⟩
      refine decoded_fields.mpr fun entry member => ?_
      exact decoded_fields.mp decoded entry (mem_dictionary member)
    · exact ⟨(rest_tail none).within inside, trivial⟩
    · exact ((items (skip rest) (first.encodable encodable) (by omega)).longer inside).bind
        fun read left shorter decoded => ⟨shorter, decoded⟩
    · cases found : scanWord readFloat (c :: rest) with
      | none => exact scans_number (c :: rest)
      | some read => exact scan_word_spec found

/-- The items of a list: a value, and after a comma the others. -/
theorem scans_items (values : ScansValues readFloat fuel) (items : ScansItems readFloat fuel) :
    ScansItems readFloat (fuel + 1) := by
  intro text encodable enough
  rw [scanItems]
  refine (values text encodable (by omega)).bind fun item left shorter decoded => ?_
  have ended : Rest (skip left) text := shorter.after (skip_suffix left)
  dsimp only
  split_ifs with closes separated
  · exact ⟨(rest_tail closes).within ended.1, decoded, trivial⟩
  · have next : Rest (skip ((skip left).drop 1)) text :=
      ((rest_tail separated).within ended.1).after (skip_suffix _)
    have shorter := next.2
    refine ((items _ (next.encodable encodable) (by omega)).longer next.1).bind
      fun others left shorter rest => ⟨shorter, decoded, rest⟩
  · exact scans_malformed

/-- The entries of an object: a key, a colon and a value, and after a comma the others. -/
theorem scans_entries (values : ScansValues readFloat fuel)
    (entries : ScansEntries readFloat fuel) : ScansEntries readFloat (fuel + 1) := by
  intro text encodable enough
  rw [scanEntries]
  split_ifs with opens
  · have tail := rest_tail opens
    refine ((scans_string (tail.encodable encodable)).longer tail.1).bind
      fun key left shorter unpaired => ?_
    have ended : Rest (skip left) text := shorter.after (skip_suffix left)
    dsimp only
    split_ifs with colon
    · have next : Rest (skip ((skip left).drop 1)) text :=
        ((rest_tail colon).within ended.1).after (skip_suffix _)
      have shorter := next.2
      refine ((values _ (next.encodable encodable) (by omega)).longer next.1).bind
        fun value left shorter decoded => ?_
      have ended : Rest (skip left) text := shorter.after (skip_suffix left)
      dsimp only
      split_ifs with closes separated
      · exact ⟨(rest_tail closes).within ended.1, ⟨unpaired, decoded⟩, trivial⟩
      · have next : Rest (skip ((skip left).drop 1)) text :=
          ((rest_tail separated).within ended.1).after (skip_suffix _)
        have shorter := next.2
        exact ((entries _ (next.encodable encodable) (by omega)).longer next.1).bind
          fun others left shorter rest => ⟨shorter, ⟨unpaired, decoded⟩, rest⟩
      · exact scans_malformed
    · exact scans_malformed
  · exact scans_malformed

end Levels

/-- With fuel for twice its length, the scan of an encodable text makes progress.

Proof: induction on the fuel. Each level scans with the fuel of the one below. -/
theorem scans_fuel (fuel : Nat) :
    ScansValues readFloat fuel ∧ ScansItems readFloat fuel ∧ ScansEntries readFloat fuel := by
  induction fuel with
  | zero => exact ⟨nofun, nofun, nofun⟩
  | succ fuel inductionHypothesis =>
    obtain ⟨values, items, entries⟩ := inductionHypothesis
    exact ⟨scans_value items entries, scans_items values items, scans_entries values entries⟩

/-- On encodable text the fuel that `loads` supplies never runs out, and what is read has
integers within the limit and unpaired strings. -/
theorem loads_spec {text : Str} (encodable : Encodable text) :
    loads readFloat text ≠ .error .fuel ∧
      ∀ value, loads readFloat text = .ok value → Decoded value := by
  unfold loads
  split
  · exact ⟨nofun, nofun⟩
  · have suffix := skip_suffix text
    have enough : 2 * (skip text).length < 2 * text.length + 1 := by
      have shorter := suffix.length_le
      omega
    have scanned := (@scans_fuel readFloat _).1 _
      (fun c member => encodable c (suffix.mem member)) enough
    cases read : scanValue readFloat (2 * text.length + 1) (skip text) with
    | error error =>
      rw [read] at scanned
      exact ⟨fun same => scanned (Except.error.inj same), nofun⟩
    | ok found =>
      rw [read] at scanned
      change (if skip found.2 = [] then Except.ok found.1 else Except.error ReadError.malformed) ≠ _ ∧
        ∀ value, (if skip found.2 = [] then Except.ok found.1 else Except.error ReadError.malformed) =
          _ → _
      split
      · refine ⟨nofun, fun value same => ?_⟩
        cases same
        exact scanned.2
      · exact ⟨nofun, nofun⟩

end Progressing

end PyJson
