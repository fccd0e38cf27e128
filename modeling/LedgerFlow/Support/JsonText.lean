import LedgerFlow.Support.JsonReader

/-!
# JSON text and back

`printed` writes a value in a layout: what stands before the items at each depth, and after
a colon. `compact` is the layout of `canonicalJson`, `indented` that of `indent=2`.

The reader reads back every value that can be written at all: strings are unpaired, keys are
distinct, integers are within the digit limit. Floats are left out, since what they print as
is not fixed here. Each kind of token has its own lemma; the lemmas on items and entries
follow the scanner's loops, and the induction on the value puts them together.
-/

namespace PyJson

open PyText PyDateTime Grouping

/-! ## Printing -/

/-- The white space of a text. -/
structure Layout where
  /-- Before the items at a depth, and before the bracket that ends them. -/
  before : Nat → Str
  /-- After a colon. -/
  after : Str
  before_blank : ∀ depth, ∀ c ∈ before depth, blank c = true
  after_blank : ∀ c ∈ after, blank c = true

/-- `separators=(",", ":")` -/
def compact : Layout := ⟨fun _ => [], [], nofun, nofun⟩

/-- `indent=2` -/
def indented : Layout where
  before depth := 10 :: List.replicate (2 * depth) 32
  after := [32]
  before_blank depth c member := by
    rcases List.mem_cons.mp member with rfl | space
    · decide
    · rw [List.eq_of_mem_replicate space]
      decide
  after_blank c member := by
    rw [List.mem_singleton.mp member]
    decide

section Printing

variable (layout : Layout)

/-- Texts between brackets. -/
def bracketed (depth : Nat) (opens closes : CodePoint) (texts : List Str) : Str :=
  if texts = [] then [opens, closes]
  else opens :: layout.before (depth + 1) ++
    join (44 :: layout.before (depth + 1)) texts ++ layout.before depth ++ [closes]

mutual

/-- The text of a value at a depth. -/
def printed : Nat → Json → Str
  | _, .null => str "null"
  | _, .bool true => str "true"
  | _, .bool false => str "false"
  | _, .int n => decimal n
  | _, .float numeral => numeral.1
  | _, .str text => quote text
  | depth, .arr items => bracketed layout depth 91 93 (printedItems (depth + 1) items)
  | depth, .obj fields => bracketed layout depth 123 125 (printedFields (depth + 1) fields)

/-- The texts of items. -/
def printedItems : Nat → List Json → List Str
  | _, [] => []
  | depth, item :: rest => printed depth item :: printedItems depth rest

/-- The texts of entries. -/
def printedFields : Nat → List (Str × Json) → List Str
  | _, [] => []
  | depth, entry :: rest =>
      (quote entry.1 ++ 58 :: layout.after ++ printed depth entry.2) :: printedFields depth rest

end

end Printing

mutual

/-- The value with the entries of every object in order of their keys. -/
def sortKeys : Json → Json
  | .arr items => .arr (sortItems items)
  | .obj fields => .obj ((sortFields fields).insertionSort byKey)
  | value => value

/-- The items with sorted keys. -/
def sortItems : List Json → List Json
  | [] => []
  | item :: rest => sortKeys item :: sortItems rest

/-- The entries, in place, with sorted keys inside. -/
def sortFields : List (Str × Json) → List (Str × Json)
  | [] => []
  | entry :: rest => (entry.1, sortKeys entry.2) :: sortFields rest

end

/-- The text of an entry. -/
def printedEntry (layout : Layout) (depth : Nat) (entry : Str × Json) : Str :=
  quote entry.1 ++ 58 :: layout.after ++ printed layout depth entry.2

/-- The items of a list are printed one by one, at the depth of the list. -/
theorem printed_items_map (layout : Layout) (depth : Nat) (items : List Json) :
    printedItems layout depth items = items.map (printed layout depth) := by
  induction items with
  | nil => rfl
  | cons item rest inductionHypothesis =>
    rw [printedItems, inductionHypothesis, List.map_cons]

/-- The entries of an object are printed one by one, at the depth of the object. -/
theorem printed_fields_map (layout : Layout) (depth : Nat) (fields : List (Str × Json)) :
    printedFields layout depth fields = fields.map (printedEntry layout depth) := by
  induction fields with
  | nil => rfl
  | cons entry rest inductionHypothesis =>
    rw [printedFields, inductionHypothesis]
    rfl

/-! ## Integers within the limit -/

mutual

/-- Every integer inside the value is within the limit. -/
def shortInts : Json → Bool
  | .int n => decide (Short n)
  | .arr items => shortItems items
  | .obj fields => shortFields fields
  | .null | .bool _ | .float _ | .str _ => true

/-- Every integer inside the items is within the limit. -/
def shortItems : List Json → Bool
  | [] => true
  | item :: rest => shortInts item && shortItems rest

/-- Every integer inside the entries is within the limit. -/
def shortFields : List (Str × Json) → Bool
  | [] => true
  | entry :: rest => shortInts entry.2 && shortFields rest

end

/-- An object has short integers exactly when each of its values does. -/
theorem short_fields {fields : List (Str × Json)} :
    shortFields fields = true ↔ ∀ entry ∈ fields, shortInts entry.2 = true := by
  induction fields with
  | nil => simp [shortFields]
  | cons entry rest inductionHypothesis =>
    rw [shortFields, Bool.and_eq_true, inductionHypothesis, List.forall_mem_cons]

/-! ## Values that can be read back -/

mutual

/-- Strings and keys are unpaired, keys distinct, integers within the limit; no floats. -/
def Readable : Json → Prop
  | .null | .bool _ => True
  | .int n => Short n
  | .float _ => False
  | .str text => Unpaired text
  | .arr items => ReadableItems items
  | .obj fields => Keyed Prod.fst fields ∧ ReadableFields fields

/-- Every item can be read back. -/
def ReadableItems : List Json → Prop
  | [] => True
  | item :: rest => Readable item ∧ ReadableItems rest

/-- Every entry can be read back. -/
def ReadableFields : List (Str × Json) → Prop
  | [] => True
  | entry :: rest => (Unpaired entry.1 ∧ Readable entry.2) ∧ ReadableFields rest

end

/-- A list is readable exactly when each of its items is. -/
theorem readable_items {items : List Json} :
    ReadableItems items ↔ ∀ item ∈ items, Readable item := by
  induction items with
  | nil => simp [ReadableItems]
  | cons item rest inductionHypothesis =>
    rw [ReadableItems, inductionHypothesis, List.forall_mem_cons]

/-- An object is readable exactly when its keys are unpaired and its values readable. -/
theorem readable_fields {fields : List (Str × Json)} :
    ReadableFields fields ↔ ∀ entry ∈ fields, Unpaired entry.1 ∧ Readable entry.2 := by
  induction fields with
  | nil => simp [ReadableFields]
  | cons entry rest inductionHypothesis =>
    rw [ReadableFields, inductionHypothesis, List.forall_mem_cons]

/-! ## White space -/

/-- White space before a text that does not start with more is skipped. -/
theorem skip_blank {gap text : Str} (gaps : ∀ c ∈ gap, blank c = true)
    (starts : ∀ c ∈ text.head?, blank c = false) : skip (gap ++ text) = text := by
  rw [skip, List.dropWhile_append_of_pos gaps]
  cases text with
  | nil => rfl
  | cons c rest => rw [List.dropWhile_cons_of_neg (by simp [starts c rfl])]

/-- Skipping blanks stops at the first character that is none. -/
theorem skip_solid {c : CodePoint} (solid : blank c = false) (rest : Str) :
    skip (c :: rest) = c :: rest :=
  @skip_blank [] (c :: rest) nofun (by rintro d ⟨⟩; exact solid)

/-! ## Strings -/

/-- The piece that a unit is spelled as. -/
def pieceOf (unit : Nat) : Piece :=
  if shortEscape unit = none ∧ ¬ (32 ≤ unit ∧ unit ≤ 126) then .escaped (Fin.ofNat 0x110000 unit)
  else .literal (Fin.ofNat 0x110000 unit)

/-- The value of a printed hexadecimal digit is the value it was printed from. -/
theorem hex_value_digit {value : Nat} (small : value < 16) :
    hexValue (Fin.ofNat 0x110000 (hexDigit value)) = some value := by
  have all : ∀ n ∈ List.range 16, hexValue (Fin.ofNat 0x110000 (hexDigit n)) = some n := by decide
  exact all value (List.mem_range.mpr small)

/-- The four hexadecimal digits of a unit's escape are read as the unit. -/
theorem hex_unit_escape {unit : Nat} (bound : unit < 0x10000) :
    hexUnit (Fin.ofNat 0x110000 (hexDigit (unit / 4096 % 16)))
      (Fin.ofNat 0x110000 (hexDigit (unit / 256 % 16)))
      (Fin.ofNat 0x110000 (hexDigit (unit / 16 % 16)))
      (Fin.ofNat 0x110000 (hexDigit (unit % 16))) = some (Fin.ofNat 0x110000 unit) := by
  have small (n : Nat) : n % 16 < 16 := Nat.mod_lt n (by decide)
  simp only [hexUnit, hex_value_digit (small _), Option.bind_eq_bind, Option.bind_some]
  exact congrArg (fun n => some (Fin.ofNat 0x110000 n)) (by omega)

/-- A two-character escape is scanned as the character that it stands for. -/
theorem scan_escape {letter c : CodePoint} (other : letter ≠ 117) (read : unescape letter = some c)
    (text : Str) : scanPieces (92 :: letter :: text) =
      (scanPieces text).map fun read => (.literal c :: read.1, read.2) := by
  rw [scanPieces.eq_def]
  dsimp only
  rw [if_neg (by decide), if_pos rfl, if_neg other, read]
  cases scanPieces text <;> rfl

/-- A code point that is neither a quote nor a backslash nor a control is scanned as itself. -/
theorem scan_literal {c : CodePoint} (notQuote : c.val ≠ 34) (notSlash : c.val ≠ 92)
    (plain : 32 ≤ c.val) (text : Str) : scanPieces (c :: text) =
      (scanPieces text).map fun read => (.literal c :: read.1, read.2) := by
  rw [scanPieces.eq_def]
  dsimp only
  rw [if_neg fun same => notQuote (congrArg Fin.val same),
    if_neg fun same => notSlash (congrArg Fin.val same), if_neg (by omega)]
  cases scanPieces text <;> rfl

/-- A hexadecimal escape is scanned as its unit, to be joined with the next one if they are a
pair. -/
theorem scan_hex {a b c d unit : CodePoint} (read : hexUnit a b c d = some unit) (text : Str) :
    scanPieces (92 :: 117 :: a :: b :: c :: d :: text) =
      (scanPieces text).map fun read => (.escaped unit :: read.1, read.2) := by
  rw [scanPieces.eq_def]
  dsimp only
  rw [if_neg (by decide), if_pos rfl, if_pos rfl, read]
  cases scanPieces text <;> rfl

/-- The escape of a unit is scanned as the unit's piece, whichever of the three forms it has. -/
theorem scan_unit {unit : Nat} (bound : unit < 0x10000) (text : Str) :
    scanPieces ((escapeUnit unit).map (Fin.ofNat 0x110000) ++ text) =
      (scanPieces text).map fun read => (pieceOf unit :: read.1, read.2) := by
  have value : (Fin.ofNat 0x110000 unit).val = unit := Nat.mod_eq_of_lt (by omega)
  cases short : shortEscape unit with
  | some letter =>
    have read : Fin.ofNat 0x110000 letter ≠ 117 ∧
        unescape (Fin.ofNat 0x110000 letter) = some (Fin.ofNat 0x110000 unit) := by
      rcases short_escape_cases short with ⟨rfl, rfl⟩ | ⟨rfl, rfl⟩ | ⟨rfl, rfl⟩ | ⟨rfl, rfl⟩ |
        ⟨rfl, rfl⟩ | ⟨rfl, rfl⟩ | ⟨rfl, rfl⟩ <;> decide
    have piece : pieceOf unit = .literal (Fin.ofNat 0x110000 unit) := by
      rw [pieceOf, if_neg (by simp [short])]
    rw [piece, escapeUnit, short]
    exact scan_escape read.1 read.2 text
  | none =>
    obtain ⟨notQuote, notSlash⟩ := plain_unit short
    by_cases printable : 32 ≤ unit ∧ unit ≤ 126
    · have piece : pieceOf unit = .literal (Fin.ofNat 0x110000 unit) := by
        rw [pieceOf, if_neg fun wrong => wrong.2 printable]
      rw [piece, escapeUnit, short]
      dsimp only
      rw [if_pos printable]
      exact scan_literal (by omega) (by omega) (by omega) text
    · have piece : pieceOf unit = .escaped (Fin.ofNat 0x110000 unit) := by
        rw [pieceOf, if_pos ⟨short, printable⟩]
      rw [piece, escapeUnit, short]
      dsimp only
      rw [if_neg printable]
      exact scan_hex (hex_unit_escape bound) text

/-- The pieces of a quoted string are those of its units, up to the closing quote. -/
theorem scan_units (unitList : List Nat) (bound : ∀ unit ∈ unitList, unit < 0x10000) (rest : Str) :
    scanPieces ((unitList.flatMap escapeUnit).map (Fin.ofNat 0x110000) ++ 34 :: rest) =
      some (unitList.map pieceOf, rest) := by
  induction unitList with
  | nil =>
    rw [List.flatMap_nil, List.map_nil, List.nil_append, scanPieces.eq_def]
    rfl
  | cons unit others inductionHypothesis =>
    rw [List.flatMap_cons, List.map_append, List.append_assoc,
      scan_unit (bound unit List.mem_cons_self),
      inductionHypothesis fun later member => bound later (List.mem_cons_of_mem unit member)]
    rfl

/-- A unit outside printable ASCII is written as a hexadecimal escape, as the short escapes are
all within it. -/
theorem piece_escaped {unit : Nat} (large : 126 < unit) :
    pieceOf unit = .escaped (Fin.ofNat 0x110000 unit) := by
  have long : shortEscape unit = none := by
    cases short : shortEscape unit with
    | none => rfl
    | some letter =>
      have listed := short_escape_cases short
      omega
  rw [pieceOf, if_pos ⟨long, by omega⟩]

/-- A code point before pieces that do not complete it to a pair is joined as itself. -/
theorem join_single {c : CodePoint} {piece : Piece} (either : piece = .literal c ∨ piece = .escaped c)
    {rest : List Piece} (open_ : high c = true → ∀ d others, rest = .escaped d :: others →
      low d = false) : joinPieces (piece :: rest) = c :: joinPieces rest := by
  rcases either with rfl | rfl
  · rw [joinPieces.eq_def]
  · cases rest with
    | nil => rfl
    | cons next others =>
      cases next with
      | literal d => rw [joinPieces.eq_def]
      | escaped d =>
        rw [joinPieces.eq_def]
        dsimp only
        rw [if_neg]
        rw [Bool.and_eq_true]
        rintro ⟨first, second⟩
        rw [open_ first d others rfl] at second
        cases second

/-- The pieces of an unpaired string's units are joined to the string. -/
theorem join_units {s : Str} (unpaired : Unpaired s) : joinPieces ((utf16 s).map pieceOf) = s := by
  induction s with
  | nil => rfl
  | cons c rest inductionHypothesis =>
    have bound := c.isLt
    have later := inductionHypothesis unpaired.2
    have value (n : Nat) (small : n < 0x110000) : (Fin.ofNat 0x110000 n).val = n :=
      Nat.mod_eq_of_lt small
    rw [utf16_cons, units]
    split
    · next basic =>
      have same : Fin.ofNat 0x110000 c.val = c := Fin.ext (value c.val bound)
      have either : pieceOf c.val = .literal c ∨ pieceOf c.val = .escaped c := by
        rw [pieceOf, same]
        split
        · exact .inr rfl
        · exact .inl rfl
      rw [List.cons_append, List.nil_append, List.map_cons, join_single either, later]
      intro opens d others shape
      cases starts : utf16 rest with
      | nil =>
        rw [starts] at shape
        cases shape
      | cons unit tail =>
        rw [starts, List.map_cons] at shape
        have notLow := head_not_low unpaired opens unit tail starts
        have small := utf16_bound rest unit (by rw [starts]; exact List.mem_cons_self)
        have head := (List.cons.inj shape).1
        rw [pieceOf] at head
        split at head
        · rw [← Piece.escaped.inj head, low, value unit (by omega)]
          exact decide_eq_false notLow
        · cases head
    · next beyond =>
      have opens : (Fin.ofNat 0x110000 (0xD800 + (c.val - 0x10000) / 0x400)).val =
          0xD800 + (c.val - 0x10000) / 0x400 := value _ (by omega)
      have closes : (Fin.ofNat 0x110000 (0xDC00 + (c.val - 0x10000) % 0x400)).val =
          0xDC00 + (c.val - 0x10000) % 0x400 := value _ (by omega)
      rw [List.cons_append, List.cons_append, List.nil_append, List.map_cons, List.map_cons,
        piece_escaped (by omega), piece_escaped (by omega), joinPieces.eq_def]
      dsimp only
      rw [if_pos, later]
      · refine congrArg (· :: rest) (Fin.ext ?_)
        rw [joined, opens, closes, value _ (by omega)]
        omega
      · rw [Bool.and_eq_true, high, low, opens, closes, decide_eq_true_eq, decide_eq_true_eq]
        omega

/-- A quoted string is read back as itself, if no high surrogate in it is followed by a low
one. -/
theorem scan_quoted {s : Str} (unpaired : Unpaired s) (rest : Str) :
    ∃ tail, quote s ++ rest = 34 :: tail ∧ scanString tail = .ok (s, rest) := by
  refine ⟨((utf16 s).flatMap escapeUnit).map (Fin.ofNat 0x110000) ++ 34 :: rest, ?_, ?_⟩
  · rw [quote, List.map_cons, List.map_append, List.cons_append, List.append_assoc]
    rfl
  · rw [scanString, scan_units _ (utf16_bound s)]
    dsimp only
    rw [join_units unpaired]

/-! ## Numerals -/

/-- The text does not continue a numeral. -/
def Stops (text : Str) : Prop :=
  ∀ c ∈ text.head?, digit c = false ∧ c ≠ 46 ∧ c ≠ 101 ∧ c ≠ 69

/-- Where a number stops, no fraction is read. -/
theorem stops_fraction {text : Str} (stops : Stops text) : scanFraction text = ([], text) := by
  unfold scanFraction
  split
  · next c d rest =>
    rw [if_neg fun dot => (stops c rfl).2.1 dot.1]
  · rfl

/-- Where a number stops, no exponent is read. -/
theorem stops_exponent {text : Str} (stops : Stops text) : scanExponent text = ([], text) := by
  cases text with
  | nil => rfl
  | cons c rest =>
    rw [scanExponent]
    dsimp only
    rw [if_neg]
    rintro ⟨either, _⟩
    rcases either with small | large
    · exact (stops c rfl).2.2.1 small
    · exact (stops c rfl).2.2.2 large

/-- The value of the decimal digits of a natural number is the number. -/
theorem numeral_digits (n : Nat) : numeral ((Nat.toDigits 10 n).map point) = n := by
  have running : ∀ (chars : List Char) (value : Nat),
      (chars.map point).foldl (fun value c => value * 10 + (c.val - 48)) value =
        Nat.ofDigitChars 10 chars value := by
    intro chars
    induction chars with
    | nil => intro value; simp
    | cons c others inductionHypothesis =>
      intro value
      rw [List.map_cons, List.foldl_cons, inductionHypothesis, Nat.ofDigitChars_cons, point_val,
        Nat.mul_comm]
      rfl
  rw [numeral, running, Nat.ofDigitChars_ten_toDigits]

/-- The digits of a positive number do not start with a zero. -/
theorem digits_lead {n : Nat} (positive : 0 < n) :
    ∃ c rest, Nat.toDigits 10 n = c :: rest ∧ c ≠ '0' := by
  induction n using Nat.strongRecOn with
  | ind n inductionHypothesis =>
    by_cases small : n < 10
    · refine ⟨n.digitChar, [], Nat.toDigits_of_lt_base small, ?_⟩
      have all : ∀ k ∈ List.range 10, 0 < k → k.digitChar ≠ '0' := by decide
      exact all n (List.mem_range.mpr small) positive
    · obtain ⟨c, rest, lead, notZero⟩ := inductionHypothesis (n / 10) (by omega) (by omega)
      refine ⟨c, rest ++ [(n % 10).digitChar], ?_, notZero⟩
      rw [Nat.toDigits_of_base_le (by decide) (by omega), lead]
      rfl

/-- The decimal digits of a natural number are scanned as an integer part, without a leading
zero. -/
theorem scan_digits (n : Nat) {rest : Str} (stops : Stops rest) :
    scanInteger ((Nat.toDigits 10 n).map point ++ rest) =
      some ((Nat.toDigits 10 n).map point, rest) := by
  have all := digits_digit n
  have ends : ∀ c ∈ rest.head?, ¬ digit c = true := fun c head => by simp [(stops c head).1]
  cases Nat.eq_zero_or_pos n with
  | inl zero =>
    subst zero
    rfl
  | inr positive =>
    obtain ⟨c, others, shape, notZero⟩ := digits_lead positive
    rw [shape, List.map_cons] at all ⊢
    have other : point c ≠ 48 := fun same => notZero (point_injective c '0' same)
    have taken : (others.map point ++ rest).takeWhile digit = others.map point := by
      rw [List.takeWhile_append_of_pos fun d member => all d (List.mem_cons_of_mem _ member)]
      cases rest with
      | nil => exact List.append_nil _
      | cons d later => rw [List.takeWhile_cons_of_neg (ends d rfl), List.append_nil]
    have dropped : (others.map point ++ rest).dropWhile digit = rest := by
      rw [List.dropWhile_append_of_pos fun d member => all d (List.mem_cons_of_mem _ member)]
      cases rest with
      | nil => rfl
      | cons d later => rw [List.dropWhile_cons_of_neg (ends d rfl)]
    rw [List.cons_append, scanInteger, if_neg other, if_pos (all _ List.mem_cons_self), taken,
      dropped]

section Reading

variable {readFloat : Str → {s : Str // Ascii s}}

/-- A magnitude within the limit on digits is read back under the sign before it. -/
theorem scan_magnitude {n : Nat} (short : n < 10 ^ digitLimit) (sign : Str) {rest : Str}
    (stops : Stops rest) :
    scanMagnitude readFloat sign ((Nat.toDigits 10 n).map point ++ rest) =
      .ok (.int (if sign = [] then (n : Int) else -(n : Int)), rest) := by
  have within : ((Nat.toDigits 10 n).map point).length ≤ digitLimit := by
    have positive : 0 < digitLimit := by
      rw [digitLimit]
      decide
    rw [List.length_map]
    exact (Nat.length_toDigits_le_iff (by decide) positive).mpr short
  rw [scanMagnitude, scan_digits n stops]
  simp only [stops_fraction stops, stops_exponent stops, and_self, if_true, if_pos within,
    numeral_digits]

/-- An integer within the limit on digits is read back from its decimal text. -/
theorem scan_decimal {n : Int} (short : Short n) {rest : Str} (stops : Stops rest) :
    scanNumber readFloat (decimal n ++ rest) = .ok (.int n, rest) := by
  have minus : str "-" = [(45 : CodePoint)] := rfl
  by_cases negative : n < 0
  · rw [decimal, if_pos negative, minus, List.singleton_append, List.cons_append, scanNumber,
      if_pos rfl, scan_magnitude short _ stops, if_neg (List.cons_ne_nil _ _)]
    exact congrArg (fun m => Except.ok (Json.int m, rest)) (by omega)
  · rw [decimal, if_neg negative, List.nil_append]
    cases shape : (Nat.toDigits 10 n.natAbs).map point with
    | nil => exact absurd shape (digits_ne_nil n.natAbs)
    | cons c others =>
      have first : digit c = true := digits_digit n.natAbs c (shape ▸ List.mem_cons_self)
      have other : c ≠ 45 := by
        rintro rfl
        exact absurd first (by decide)
      rw [List.cons_append, scanNumber, if_neg other, ← List.cons_append, ← shape,
        scan_magnitude short _ stops, if_pos rfl]
      exact congrArg (fun m => Except.ok (Json.int m, rest)) (by omega)

/-- A word starts with a letter, or with a minus sign and a letter. -/
theorem word_opens {entry : Str × Json} (listed : entry ∈ words readFloat) :
    ∃ c d tail, entry.1 = c :: d :: tail ∧ digit c = false ∧ (c = 45 → digit d = false) := by
  simp only [words, List.mem_cons, List.not_mem_nil, or_false] at listed
  rcases listed with rfl | rfl | rfl | rfl | rfl | rfl <;>
    exact ⟨_, _, _, rfl, by decide, by decide⟩

/-- A numeral starts with a digit, or with a minus sign and a digit. -/
theorem decimal_opens (n : Int) :
    ∃ c tail, decimal n = c :: tail ∧
      (digit c = true ∨ c = 45 ∧ ∃ d rest, tail = d :: rest ∧ digit d = true) := by
  have all := digits_digit n.natAbs
  cases shape : (Nat.toDigits 10 n.natAbs).map point with
  | nil => exact absurd shape (digits_ne_nil n.natAbs)
  | cons c tail =>
    have first : digit c = true := all c (shape ▸ List.mem_cons_self)
    by_cases negative : n < 0
    · refine ⟨45, c :: tail, ?_, .inr ⟨rfl, c, tail, rfl, first⟩⟩
      rw [decimal, if_pos negative, shape]
      rfl
    · refine ⟨c, tail, ?_, .inl first⟩
      rw [decimal, if_neg negative, shape]
      rfl

/-- No word of the syntax starts like a numeral, so a numeral is never taken for one. -/
theorem no_word {n : Int} {rest : Str} :
    scanWord readFloat (decimal n ++ rest) = none := by
  rw [scanWord, List.findSome?_eq_none_iff]
  intro entry listed
  rw [if_neg]
  rintro ⟨suffix, same⟩
  obtain ⟨c, d, tail, word, letter, signed⟩ := word_opens listed
  obtain ⟨first, others, numeral, opens⟩ := decimal_opens n
  rw [word, numeral] at same
  obtain ⟨heads, tails⟩ := List.cons.inj same
  rcases opens with isDigit | ⟨minus, second, later, rfl, isDigit⟩
  · rw [← heads, letter] at isDigit
    cases isDigit
  · rw [← (List.cons.inj tails).1, signed (heads.trans minus)] at isDigit
    cases isDigit

/-! ## Values -/

/-- The text of a value starts with a code point that is neither blank nor a bracket. -/
theorem printed_opens (layout : Layout) (depth : Nat) {value : Json} (readable : Readable value) :
    ∃ c tail, printed layout depth value = c :: tail ∧ blank c = false ∧ c ≠ 93 ∧ c.val < 128 := by
  cases value with
  | null => exact ⟨_, _, rfl, by decide⟩
  | bool value => cases value <;> exact ⟨_, _, rfl, by decide⟩
  | int n =>
    obtain ⟨c, tail, shape, opens⟩ := decimal_opens n
    refine ⟨c, tail, shape, ?_⟩
    rcases opens with isDigit | ⟨rfl, _⟩
    · have range := of_decide_eq_true isDigit
      refine ⟨decide_eq_false ?_, ?_, by omega⟩
      · rintro (rfl | rfl | rfl | rfl) <;> exact absurd range (by decide)
      · rintro rfl
        exact absurd range (by decide)
    · decide
  | float numeral => exact readable.elim
  | str text => exact ⟨34, _, rfl, by decide⟩
  | arr items =>
    rw [printed, bracketed]
    split <;> exact ⟨91, _, rfl, by decide⟩
  | obj fields =>
    rw [printed, bracketed]
    split <;> exact ⟨123, _, rfl, by decide⟩

/-- The value is read back from its text, before whatever does not continue a numeral. -/
def ReadsBack (readFloat : Str → {s : Str // Ascii s}) (text : Str) (value : Json) : Prop :=
  ∀ fuel rest, 2 * text.length < fuel → Stops rest →
    scanValue readFloat fuel (text ++ rest) = .ok (value, rest)

/-- White space and what ends an item do not continue a numeral. -/
theorem stops_gap {gap : Str} (gaps : ∀ c ∈ gap, blank c = true) {c : CodePoint}
    (ends : c = 44 ∨ c = 93 ∨ c = 125) (rest : Str) : Stops (gap ++ c :: rest) := by
  intro d head
  have either : d ∈ gap ∨ d = c := by
    cases gap with
    | nil => exact .inr (Option.some.inj head).symm
    | cons first others => exact .inl (Option.some.inj head ▸ List.mem_cons_self)
  rcases either with inside | rfl
  · have listed := of_decide_eq_true (gaps d inside)
    rcases listed with rfl | rfl | rfl | rfl <;> decide
  · rcases ends with rfl | rfl | rfl <;> decide

/-- A number stops before a comma, a bracket or a brace. -/
theorem stops_end {c : CodePoint} (ends : c = 44 ∨ c = 93 ∨ c = 125) (rest : Str) :
    Stops (c :: rest) :=
  @stops_gap [] nofun c ends rest

/-- A joined text starts with its first part. -/
theorem join_starts (separator first : Str) (rest : List Str) :
    ∃ more, join separator (first :: rest) = first ++ more := by
  cases rest with
  | nil => exact ⟨[], by rw [join, List.intercalate_singleton, List.append_nil]⟩
  | cons next others =>
    refine ⟨separator ++ join separator (next :: others), ?_⟩
    rw [join, List.intercalate_cons_of_ne_nil (List.cons_ne_nil _ _), List.append_assoc]
    rfl

section Steps

variable {fuel : Nat} {text left more rest : Str} {item : Json} {items : List Json}

/-- The last item of a list ends at the closing bracket. -/
theorem scan_last_item (read : scanValue readFloat fuel text = .ok (item, left))
    (closes : skip left = 93 :: rest) :
    scanItems readFloat (fuel + 1) text = .ok ([item], rest) := by
  rw [scanItems, read]
  simp only [bind, Except.bind, closes, List.head?_cons, if_true, List.drop_one, List.tail_cons]

/-- After an item and a comma come the other items. -/
theorem scan_next_item (read : scanValue readFloat fuel text = .ok (item, left))
    (separated : skip left = 44 :: more)
    (others : scanItems readFloat fuel (skip more) = .ok (items, rest)) :
    scanItems readFloat (fuel + 1) text = .ok (item :: items, rest) := by
  have comma : ¬ some (44 : CodePoint) = some 93 := by decide
  rw [scanItems, read]
  simp only [bind, Except.bind, separated, List.head?_cons, if_neg comma, if_true, List.drop_one,
    List.tail_cons, others]

end Steps

/-- Items between commas are read back up to their bracket.

The induction is on the items, along the scanner's loop: after an item comes the bracket, or
a comma and the other items. -/
theorem scan_items_text (layout : Layout) (depth : Nat) {gap : Str}
    (gaps : ∀ c ∈ gap, blank c = true) {items : List Json} (nonempty : items ≠ [])
    (readable : ∀ item ∈ items, Readable item)
    (each : ∀ item ∈ items, ReadsBack readFloat (printed layout depth item) item) (fuel : Nat)
    (rest : Str)
    (enough : 2 * (join (44 :: layout.before depth)
      (items.map (printed layout depth))).length + 1 < fuel) :
    scanItems readFloat fuel (join (44 :: layout.before depth) (items.map (printed layout depth)) ++
      (gap ++ 93 :: rest)) = .ok (items, rest) := by
  induction items generalizing fuel with
  | nil => exact absurd rfl nonempty
  | cons item others inductionHypothesis =>
    cases fuel with
    | zero => exact absurd enough (Nat.not_lt_zero _)
    | succ fuel =>
      have here := each item List.mem_cons_self fuel
      cases others with
      | nil =>
        rw [List.map_singleton, join, List.intercalate_singleton] at enough ⊢
        refine scan_last_item (here _ (by omega) (stops_gap gaps (by decide) rest)) ?_
        exact skip_blank gaps (by rintro c ⟨⟩; decide)
      | cons next later =>
        have several : (next :: later).map (printed layout depth) ≠ [] := List.cons_ne_nil _ _
        rw [List.map_cons, join, List.intercalate_cons_of_ne_nil several, ← join] at enough ⊢
        simp only [List.length_append, List.length_cons] at enough
        have following := inductionHypothesis (List.cons_ne_nil _ _)
          (fun other member => readable other (List.mem_cons_of_mem item member))
          (fun other member => each other (List.mem_cons_of_mem item member)) fuel (by omega)
        obtain ⟨more, starts⟩ := join_starts (44 :: layout.before depth)
          (printed layout depth next) (later.map (printed layout depth))
        obtain ⟨c, tail, opens, notBlank, _⟩ := printed_opens layout depth
          (readable next (List.mem_cons_of_mem item List.mem_cons_self))
        have skipped : skip (layout.before depth ++
            (join (44 :: layout.before depth) ((next :: later).map (printed layout depth)) ++
              (gap ++ 93 :: rest))) =
            join (44 :: layout.before depth) ((next :: later).map (printed layout depth)) ++
              (gap ++ 93 :: rest) := by
          refine skip_blank (layout.before_blank depth) ?_
          rw [List.map_cons, starts, opens]
          rintro d ⟨⟩
          exact notBlank
        rw [List.append_assoc, List.append_assoc, List.cons_append]
        refine scan_next_item (here _ (by omega) (stops_end (.inl rfl) _))
          (skip_solid (by decide) _) ?_
        rw [skipped]
        exact following

/-- The scanner reads an entry from the front of the text. -/
structure ReadsEntry (readFloat : Str → {s : Str // Ascii s}) (fuel : Nat) (text key : Str)
    (value : Json) (left : Str) : Prop where
  named : ∃ tail afterKey afterColon, text = 34 :: tail ∧ scanString tail = .ok (key, afterKey) ∧
    skip afterKey = 58 :: afterColon ∧
    scanValue readFloat fuel (skip afterColon) = .ok (value, left)

section Steps

variable {fuel : Nat} {text key left more rest : Str} {value : Json} {entries : List (Str × Json)}

/-- The last entry of an object ends at the closing brace. -/
theorem scan_last_entry (read : ReadsEntry readFloat fuel text key value left)
    (closes : skip left = 125 :: rest) :
    scanEntries readFloat (fuel + 1) text = .ok ([(key, value)], rest) := by
  obtain ⟨tail, afterKey, afterColon, rfl, name, colon, found⟩ := read.named
  rw [scanEntries]
  simp only [bind, Except.bind, List.head?_cons, if_true, List.drop_one, List.tail_cons, name,
    colon, found, closes]

/-- After an entry and a comma come the other entries. -/
theorem scan_next_entry (read : ReadsEntry readFloat fuel text key value left)
    (separated : skip left = 44 :: more)
    (others : scanEntries readFloat fuel (skip more) = .ok (entries, rest)) :
    scanEntries readFloat (fuel + 1) text = .ok ((key, value) :: entries, rest) := by
  have comma : ¬ some (44 : CodePoint) = some 125 := by decide
  obtain ⟨tail, afterKey, afterColon, rfl, name, colon, found⟩ := read.named
  rw [scanEntries]
  simp only [bind, Except.bind, List.head?_cons, if_true, List.drop_one, List.tail_cons, name,
    colon, found, separated, if_neg comma, others]

/-- An entry is read back from its text, where its key is unpaired and its value is read back. -/
theorem reads_entry {layout : Layout} {depth : Nat} {entry : Str × Json}
    (unpaired : Unpaired entry.1) (readable : Readable entry.2)
    (value : ReadsBack readFloat (printed layout depth entry.2) entry.2)
    (enough : 2 * (printedEntry layout depth entry).length < fuel) (stops : Stops rest) :
    ReadsEntry readFloat fuel (printedEntry layout depth entry ++ rest) entry.1 entry.2 rest := by
  obtain ⟨tail, quoted, name⟩ := scan_quoted unpaired
    (58 :: (layout.after ++ (printed layout depth entry.2 ++ rest)))
  obtain ⟨c, others, opens, solid, _⟩ := printed_opens layout depth readable
  have gap : skip (layout.after ++ (printed layout depth entry.2 ++ rest)) =
      printed layout depth entry.2 ++ rest := by
    refine skip_blank layout.after_blank ?_
    rw [opens]
    rintro d ⟨⟩
    exact solid
  refine ⟨tail, _, _, ?_, name, skip_solid (by decide) _, ?_⟩
  · rw [← quoted, printedEntry]
    simp only [List.append_assoc, List.cons_append]
  · rw [gap]
    refine value fuel rest ?_ stops
    simp only [printedEntry, List.length_append] at enough
    omega

end Steps

/-- A printed entry starts with the quotation mark of its key. -/
theorem entry_opens (layout : Layout) (depth : Nat) (entry : Str × Json) :
    ∃ tail, printedEntry layout depth entry = 34 :: tail := by
  rw [printedEntry, quote, List.map_cons]
  exact ⟨_, rfl⟩

/-- Entries between commas are read back up to their brace, whatever the layout puts between
them. -/
theorem scan_entries_text (layout : Layout) (depth : Nat) {gap : Str}
    (gaps : ∀ c ∈ gap, blank c = true) {entries : List (Str × Json)} (nonempty : entries ≠ [])
    (readable : ∀ entry ∈ entries, Unpaired entry.1 ∧ Readable entry.2)
    (each : ∀ entry ∈ entries, ReadsBack readFloat (printed layout depth entry.2) entry.2)
    (fuel : Nat) (rest : Str)
    (enough : 2 * (join (44 :: layout.before depth)
      (entries.map (printedEntry layout depth))).length + 1 < fuel) :
    scanEntries readFloat fuel
      (join (44 :: layout.before depth) (entries.map (printedEntry layout depth)) ++
        (gap ++ 125 :: rest)) = .ok (entries, rest) := by
  induction entries generalizing fuel with
  | nil => exact absurd rfl nonempty
  | cons entry others inductionHypothesis =>
    cases fuel with
    | zero => exact absurd enough (Nat.not_lt_zero _)
    | succ fuel =>
      obtain ⟨unpaired, valued⟩ := readable entry List.mem_cons_self
      have here {rest : Str} (enough : 2 * (printedEntry layout depth entry).length < fuel)
          (stops : Stops rest) := reads_entry unpaired valued (each entry List.mem_cons_self)
            enough stops
      cases others with
      | nil =>
        rw [List.map_singleton, join, List.intercalate_singleton] at enough ⊢
        refine scan_last_entry (here (by omega) (stops_gap gaps (by decide) rest)) ?_
        exact skip_blank gaps (by rintro c ⟨⟩; decide)
      | cons next later =>
        have several : (next :: later).map (printedEntry layout depth) ≠ [] := List.cons_ne_nil _ _
        rw [List.map_cons, join, List.intercalate_cons_of_ne_nil several, ← join] at enough ⊢
        simp only [List.length_append, List.length_cons] at enough
        have following := inductionHypothesis (List.cons_ne_nil _ _)
          (fun other member => readable other (List.mem_cons_of_mem entry member))
          (fun other member => each other (List.mem_cons_of_mem entry member)) fuel (by omega)
        obtain ⟨more, starts⟩ := join_starts (44 :: layout.before depth)
          (printedEntry layout depth next) (later.map (printedEntry layout depth))
        obtain ⟨tail, opens⟩ := entry_opens layout depth next
        have skipped : skip (layout.before depth ++
            (join (44 :: layout.before depth) ((next :: later).map (printedEntry layout depth)) ++
              (gap ++ 125 :: rest))) =
            join (44 :: layout.before depth) ((next :: later).map (printedEntry layout depth)) ++
              (gap ++ 125 :: rest) := by
          refine skip_blank (layout.before_blank depth) ?_
          rw [List.map_cons, starts, opens]
          rintro d ⟨⟩
          decide
        rw [List.append_assoc, List.append_assoc, List.cons_append]
        refine scan_next_entry (here (by omega) (stops_end (.inl rfl) _))
          (skip_solid (by decide) _) ?_
        rw [skipped]
        exact following

section Brackets

variable {fuel : Nat} {text left tail : Str} {c : CodePoint}

/-- An array with items is read by its items, after the blanks that follow its bracket. -/
theorem scan_array {items : List Json} (opens : skip text = c :: tail) (other : c ≠ 93)
    (read : scanItems readFloat fuel (c :: tail) = .ok (items, left)) :
    scanValue readFloat (fuel + 1) (91 :: text) = .ok (.arr items, left) := by
  have bracket : ¬ some c = some 93 := fun same => other (Option.some.inj same)
  rw [scanValue, if_neg (by decide), if_neg (by decide), if_pos rfl, opens, List.head?_cons,
    if_neg bracket, read]
  rfl

/-- An object with entries is read by its entries; with distinct keys the dictionary keeps all of
them. -/
theorem scan_object {entries : List (Str × Json)} (keyed : Keyed Prod.fst entries)
    (opens : skip text = c :: tail) (other : c ≠ 125)
    (read : scanEntries readFloat fuel (c :: tail) = .ok (entries, left)) :
    scanValue readFloat (fuel + 1) (123 :: text) = .ok (.obj entries, left) := by
  have brace : ¬ some c = some 125 := fun same => other (Option.some.inj same)
  rw [scanValue, if_neg (by decide), if_pos rfl, opens, List.head?_cons, if_neg brace, read]
  simp only [bind, Except.bind, dictionary_keyed keyed]

end Brackets

mutual

/-- Every readable value is read back from its text at any depth. -/
theorem reads_printed (layout : Layout) : ∀ (value : Json), Readable value → ∀ depth,
    ReadsBack readFloat (printed layout depth value) value
  | .null, _, _, fuel + 1, _, _, _ => rfl
  | .bool true, _, _, fuel + 1, _, _, _ => rfl
  | .bool false, _, _, fuel + 1, _, _, _ => rfl
  | .int n, short, _, fuel + 1, rest, _, stops => by
      obtain ⟨c, tail, shape, opens⟩ := decimal_opens n
      have other (d : CodePoint) (letter : digit d = false) (signless : d ≠ 45) : c ≠ d := by
        rintro rfl
        rcases opens with isDigit | ⟨minus, _⟩
        · rw [letter] at isDigit
          cases isDigit
        · exact signless minus
      rw [printed, shape, List.cons_append, scanValue, if_neg (other 34 (by decide) (by decide)),
        if_neg (other 123 (by decide) (by decide)), if_neg (other 91 (by decide) (by decide)),
        ← List.cons_append, ← shape, no_word]
      exact scan_decimal short stops
  | .float _, readable, _, _, _, _, _ => readable.elim
  | .str text, unpaired, _, fuel + 1, rest, _, _ => by
      obtain ⟨tail, quoted, read⟩ := scan_quoted unpaired rest
      rw [printed, quoted, scanValue, if_pos rfl, read]
      rfl
  | .arr items, readable, depth, fuel + 1, rest, enough, _ => by
      have each := items_printed layout items readable (depth + 1)
      rw [printed, bracketed, printed_items_map] at enough ⊢
      cases items with
      | nil => rfl
      | cons item others =>
        have several : (item :: others).map (printed layout (depth + 1)) ≠ [] :=
          List.cons_ne_nil _ _
        obtain ⟨more, starts⟩ := join_starts (44 :: layout.before (depth + 1))
          (printed layout (depth + 1) item) (others.map (printed layout (depth + 1)))
        obtain ⟨c, tail, opens, solid, bracket, _⟩ := printed_opens layout (depth + 1)
          (readable_items.mp readable item List.mem_cons_self)
        rw [if_neg several] at enough ⊢
        simp only [List.length_append, List.length_cons, List.length_nil] at enough
        have read := scan_items_text layout (depth + 1) (layout.before_blank depth)
          (List.cons_ne_nil item others) (readable_items.mp readable) each fuel rest (by omega)
        rw [List.map_cons, starts, opens] at read ⊢
        simp only [List.cons_append, List.append_assoc, List.nil_append] at read ⊢
        refine scan_array (skip_blank (layout.before_blank _) ?_) bracket read
        rintro d ⟨⟩
        exact solid
  | .obj fields, readable, depth, fuel + 1, rest, enough, _ => by
      have each := fields_printed layout fields readable.2 (depth + 1)
      rw [printed, bracketed, printed_fields_map] at enough ⊢
      cases fields with
      | nil => rfl
      | cons entry others =>
        have several : (entry :: others).map (printedEntry layout (depth + 1)) ≠ [] :=
          List.cons_ne_nil _ _
        obtain ⟨more, starts⟩ := join_starts (44 :: layout.before (depth + 1))
          (printedEntry layout (depth + 1) entry) (others.map (printedEntry layout (depth + 1)))
        obtain ⟨tail, opens⟩ := entry_opens layout (depth + 1) entry
        rw [if_neg several] at enough ⊢
        simp only [List.length_append, List.length_cons, List.length_nil] at enough
        have read := scan_entries_text layout (depth + 1) (layout.before_blank depth)
          (List.cons_ne_nil entry others) (readable_fields.mp readable.2) each fuel rest (by omega)
        rw [List.map_cons, starts, opens] at read ⊢
        simp only [List.cons_append, List.append_assoc, List.nil_append] at read ⊢
        refine scan_object readable.1 (skip_blank (layout.before_blank _) ?_) (by decide) read
        rintro d ⟨⟩
        decide

/-- Every item of a readable list is read back from its text, at any depth. -/
theorem items_printed (layout : Layout) : ∀ (items : List Json), ReadableItems items → ∀ depth,
    ∀ item ∈ items, ReadsBack readFloat (printed layout depth item) item
  | [], _, _, _, member => absurd member List.not_mem_nil
  | item :: rest, readable, depth, other, member => by
      rcases List.mem_cons.mp member with here | later
      · rw [here]
        exact reads_printed layout item readable.1 depth
      · exact items_printed layout rest readable.2 depth other later

/-- Every value of a readable object is read back from its text, at any depth. -/
theorem fields_printed (layout : Layout) : ∀ (fields : List (Str × Json)), ReadableFields fields →
    ∀ depth, ∀ entry ∈ fields, ReadsBack readFloat (printed layout depth entry.2) entry.2
  | [], _, _, _, member => absurd member List.not_mem_nil
  | entry :: rest, readable, depth, other, member => by
      rcases List.mem_cons.mp member with here | later
      · rw [here]
        exact reads_printed layout entry.2 readable.1.2 depth
      · exact fields_printed layout rest readable.2 depth other later

end

/-- `json.loads` reads back the text of every readable value, with white space after it. -/
theorem loads_printed (layout : Layout) {value : Json} (readable : Readable value) {gap : Str}
    (gaps : ∀ c ∈ gap, blank c = true) :
    loads readFloat (printed layout 0 value ++ gap) = .ok value := by
  obtain ⟨c, tail, opens, solid, _, small⟩ := printed_opens layout 0 readable
  have start : skip (printed layout 0 value ++ gap) = printed layout 0 value ++ gap := by
    rw [opens, List.cons_append]
    exact skip_solid solid _
  have mark : ¬ (printed layout 0 value ++ gap).head? = some 0xFEFF := by
    rw [opens, List.cons_append, List.head?_cons]
    intro same
    have byte := congrArg Fin.val (Option.some.inj same)
    change c.val = 0xFEFF at byte
    omega
  have stops : Stops gap := by
    intro d head
    have listed := of_decide_eq_true (gaps d (List.mem_of_mem_head? head))
    rcases listed with rfl | rfl | rfl | rfl <;> decide
  have read := @reads_printed readFloat layout value readable 0
    (2 * (printed layout 0 value ++ gap).length + 1) gap
    (by rw [List.length_append]; omega) stops
  have ended : skip gap = [] := by
    have all := @skip_blank gap [] gaps (by rintro d ⟨⟩)
    rwa [List.append_nil] at all
  rw [loads, if_neg mark, start, read]
  exact if_pos ended

end Reading

/-! ## Sorted keys -/

/-- Sorting the keys within a list sorts those of its items. -/
theorem sort_items_map (items : List Json) : sortItems items = items.map sortKeys := by
  induction items with
  | nil => rfl
  | cons item rest inductionHypothesis => rw [sortItems, inductionHypothesis, List.map_cons]

/-- Sorting the keys of an object sorts those of its values first. -/
theorem sort_fields_map (fields : List (Str × Json)) :
    sortFields fields = fields.map fun entry => (entry.1, sortKeys entry.2) := by
  induction fields with
  | nil => rfl
  | cons entry rest inductionHypothesis => rw [sortFields, inductionHypothesis, List.map_cons]

mutual

/-- Sorting keys leaves a readable value readable, as it only changes the order of entries. -/
theorem sort_readable : ∀ value : Json, Readable value → Readable (sortKeys value)
  | .null, _ | .bool _, _ => trivial
  | .int _, short => short
  | .float _, readable => readable.elim
  | .str _, unpaired => unpaired
  | .arr items, readable => by
      rw [sortKeys, Readable, sort_items_map, readable_items]
      intro item member
      obtain ⟨other, inside, rfl⟩ := List.mem_map.mp member
      exact sort_items_readable items readable other inside
  | .obj fields, readable => by
      have same := List.perm_insertionSort byKey (sortFields fields)
      rw [sortKeys, Readable, readable_fields]
      refine ⟨?_, fun entry member => ?_⟩
      · refine ((same.map Prod.fst).nodup_iff).mpr ?_
        rw [sort_fields_map, List.map_map]
        exact readable.1
      · rw [same.mem_iff, sort_fields_map] at member
        obtain ⟨other, inside, rfl⟩ := List.mem_map.mp member
        exact sort_fields_readable fields readable.2 other inside

/-- Sorting keys leaves the items of a readable list readable. -/
theorem sort_items_readable : ∀ items : List Json, ReadableItems items →
    ∀ item ∈ items, Readable (sortKeys item)
  | [], _, _, member => absurd member List.not_mem_nil
  | item :: rest, readable, other, member => by
      rcases List.mem_cons.mp member with here | later
      · rw [here]
        exact sort_readable item readable.1
      · exact sort_items_readable rest readable.2 other later

/-- Sorting keys leaves the entries of a readable object readable. -/
theorem sort_fields_readable : ∀ fields : List (Str × Json), ReadableFields fields →
    ∀ entry ∈ fields, Unpaired entry.1 ∧ Readable (sortKeys entry.2)
  | [], _, _, member => absurd member List.not_mem_nil
  | entry :: rest, readable, other, member => by
      rcases List.mem_cons.mp member with here | later
      · rw [here]
        exact ⟨readable.1.1, sort_readable entry.2 readable.1.2⟩
      · exact sort_fields_readable rest readable.2 other later

end

/-- In the compact layout nothing but commas stands between the brackets. -/
theorem bracketed_compact (depth : Nat) (opens closes : CodePoint) (texts : List Str) :
    bracketed compact depth opens closes texts = opens :: join [44] texts ++ [closes] := by
  unfold bracketed
  split
  · next none =>
    rw [none]
    rfl
  · simp only [compact, List.append_nil]
    rfl

mutual

/-- `canonicalJson` prints the value compactly after sorting its keys, at any depth. -/
theorem canonical_printed : ∀ (value : Json) (depth : Nat),
    canonicalJson value = printed compact depth (sortKeys value)
  | .null, _ => rfl
  | .bool true, _ => rfl
  | .bool false, _ => rfl
  | .int _, _ => rfl
  | .float _, _ => rfl
  | .str _, _ => rfl
  | .arr items, depth => by
      rw [canonicalJson, sortKeys, printed, bracketed_compact, printed_items_map,
        canonical_items_printed items (depth + 1)]
      rfl
  | .obj fields, depth => by
      have sorted := List.map_insertionSort byKey byKey
        (fun entry : Str × Json => (entry.1, printedEntry compact (depth + 1) entry))
        (sortFields fields) fun _ _ _ _ => Iff.rfl
      rw [canonicalJson, sortKeys, printed, bracketed_compact, printed_fields_map,
        canonical_fields_printed fields (depth + 1), ← sorted, List.map_map]
      rfl

/-- The canonical texts of the items are their compact ones with sorted keys. -/
theorem canonical_items_printed : ∀ (items : List Json) (depth : Nat),
    canonicalItems items = (sortItems items).map (printed compact depth)
  | [], _ => rfl
  | item :: rest, depth => by
      rw [canonicalItems, canonical_printed item depth, canonical_items_printed rest depth]
      rfl

/-- The canonical texts of the entries are their compact ones with sorted keys. -/
theorem canonical_fields_printed : ∀ (fields : List (Str × Json)) (depth : Nat),
    canonicalFields fields =
      (sortFields fields).map fun entry => (entry.1, printedEntry compact depth entry)
  | [], _ => rfl
  | entry :: rest, depth => by
      rw [canonicalFields, canonical_printed entry.2 depth, canonical_fields_printed rest depth]
      rfl

end

/-! ## Printable text -/

/-- Every character of an escape is printable ASCII. -/
theorem escape_printable (unit : Nat) : ∀ value ∈ escapeUnit unit, 32 ≤ value ∧ value ≤ 126 := by
  have hex (n : Nat) : 32 ≤ hexDigit (n % 16) ∧ hexDigit (n % 16) ≤ 126 := by
    have small : n % 16 < 16 := Nat.mod_lt n (by decide)
    unfold hexDigit
    split <;> omega
  intro value member
  unfold escapeUnit at member
  cases short : shortEscape unit with
  | some letter =>
    have listed := short_escape_cases short
    simp only [short, List.mem_cons, List.not_mem_nil, or_false] at member
    omega
  | none =>
    simp only [short] at member
    split at member
    · rw [List.mem_singleton.mp member]
      omega
    · simp only [List.mem_cons, List.not_mem_nil, or_false] at member
      rcases member with rfl | rfl | rfl | rfl | rfl | rfl
      · decide
      · decide
      all_goals exact hex _

/-- Printable ASCII and the white space of the layout are allowed. -/
structure Admits (layout : Layout) (allowed : CodePoint → Prop) : Prop where
  printable : ∀ c : CodePoint, 32 ≤ c.val → c.val ≤ 126 → allowed c
  before : ∀ depth, ∀ c ∈ layout.before depth, allowed c
  after : ∀ c ∈ layout.after, allowed c

section Within

variable {layout : Layout} {allowed : CodePoint → Prop}

/-- A printable literal is printed with allowed characters. -/
theorem literal_within (admits : Admits layout allowed) {literal : Str}
    (all : literal.all (fun c => decide (32 ≤ c.val ∧ c.val ≤ 126)) = true) :
    ∀ c ∈ literal, allowed c := by
  intro c member
  have bounds := of_decide_eq_true (List.all_eq_true.mp all c member)
  exact admits.printable c bounds.1 bounds.2

/-- A quoted text is printed with allowed characters: it is printable, whatever the text is. -/
theorem quote_within (admits : Admits layout allowed) (s : Str) : ∀ c ∈ quote s, allowed c := by
  intro c member
  obtain ⟨value, inside, rfl⟩ := List.mem_map.mp member
  have bounds : 32 ≤ value ∧ value ≤ 126 := by
    simp only [List.mem_cons, List.mem_append, List.mem_flatMap, List.not_mem_nil,
      or_false] at inside
    rcases inside with rfl | ⟨unit, _, escaped⟩ | rfl
    · decide
    · exact escape_printable unit value escaped
    · decide
  have same : (Fin.ofNat 0x110000 value).val = value := Nat.mod_eq_of_lt (by omega)
  exact admits.printable _ (by omega) (by omega)

/-- A number is printed with allowed characters, its sign and its digits. -/
theorem decimal_within (admits : Admits layout allowed) (n : Int) : ∀ c ∈ decimal n, allowed c := by
  intro c member
  rcases List.mem_append.mp member with sign | digits
  · split at sign
    · rw [List.mem_singleton.mp (sign : c ∈ [(45 : CodePoint)])]
      exact admits.printable 45 (by decide) (by decide)
    · cases sign
  · have range := of_decide_eq_true (digits_digit n.natAbs c digits)
    exact admits.printable c (by omega) (by omega)

/-- Joined parts are printed with allowed characters, where the parts and the separator are. -/
theorem join_within {separator : Str} {parts : List Str} (between : ∀ c ∈ separator, allowed c)
    (each : ∀ part ∈ parts, ∀ c ∈ part, allowed c) : ∀ c ∈ join separator parts, allowed c := by
  induction parts with
  | nil => exact fun c member => absurd member List.not_mem_nil
  | cons part rest inductionHypothesis =>
    have others := inductionHypothesis fun other member => each other (List.mem_cons_of_mem _ member)
    cases rest with
    | nil =>
      rw [join, List.intercalate_singleton]
      exact each part List.mem_cons_self
    | cons next later =>
      rw [join, List.intercalate_cons_of_ne_nil (List.cons_ne_nil _ _), ← join]
      intro c member
      simp only [List.mem_append] at member
      rcases member with (here | gap) | later
      · exact each part List.mem_cons_self c here
      · exact between c gap
      · exact others c later

/-- What stands between brackets is printed with allowed characters, with the blanks that the
layout puts around it. -/
theorem bracketed_within (admits : Admits layout allowed) (depth : Nat) {opens closes : CodePoint}
    (opening : 32 ≤ opens.val ∧ opens.val ≤ 126) (closing : 32 ≤ closes.val ∧ closes.val ≤ 126)
    {texts : List Str} (each : ∀ text ∈ texts, ∀ c ∈ text, allowed c) :
    ∀ c ∈ bracketed layout depth opens closes texts, allowed c := by
  have first := admits.printable opens opening.1 opening.2
  have last := admits.printable closes closing.1 closing.2
  have between : ∀ c ∈ 44 :: layout.before (depth + 1), allowed c := by
    intro c member
    rcases List.mem_cons.mp member with rfl | gap
    · exact admits.printable 44 (by decide) (by decide)
    · exact admits.before (depth + 1) c gap
  intro c member
  unfold bracketed at member
  split at member
  · rcases List.mem_cons.mp member with rfl | later
    · exact first
    · rw [List.mem_singleton.mp later]
      exact last
  · simp only [List.mem_append, List.mem_cons, List.not_mem_nil, or_false] at member
    rcases member with (((rfl | gap) | inside) | gap) | rfl
    · exact first
    · exact admits.before (depth + 1) c gap
    · exact join_within between each c inside
    · exact admits.before depth c gap
    · exact last

mutual

/-- The text of a readable value has printable ASCII and the white space of its layout. -/
theorem printed_within (admits : Admits layout allowed) : ∀ (value : Json), Readable value → ∀ depth,
    ∀ c ∈ printed layout depth value, allowed c
  | .null, _, _ => @literal_within _ _ admits (str "null") (by decide)
  | .bool true, _, _ => @literal_within _ _ admits (str "true") (by decide)
  | .bool false, _, _ => @literal_within _ _ admits (str "false") (by decide)
  | .int n, _, _ => decimal_within admits n
  | .float _, readable, _ => readable.elim
  | .str text, _, _ => quote_within admits text
  | .arr items, readable, depth => by
      rw [printed, printed_items_map]
      refine bracketed_within admits depth (by decide) (by decide) ?_
      intro text listed
      obtain ⟨item, inside, rfl⟩ := List.mem_map.mp listed
      exact items_within admits items readable (depth + 1) item inside
  | .obj fields, readable, depth => by
      rw [printed, printed_fields_map]
      refine bracketed_within admits depth (by decide) (by decide) ?_
      intro text listed
      obtain ⟨entry, inside, rfl⟩ := List.mem_map.mp listed
      exact fields_within admits fields readable.2 (depth + 1) entry inside

/-- The items of a readable list are printed with allowed characters, at any depth. -/
theorem items_within (admits : Admits layout allowed) :
    ∀ (items : List Json), ReadableItems items → ∀ depth,
    ∀ item ∈ items, ∀ c ∈ printed layout depth item, allowed c
  | [], _, _, _, member => absurd member List.not_mem_nil
  | item :: rest, readable, depth, other, member => by
      rcases List.mem_cons.mp member with here | later
      · rw [here]
        exact printed_within admits item readable.1 depth
      · exact items_within admits rest readable.2 depth other later

/-- The entries of a readable object are printed with allowed characters, at any depth. -/
theorem fields_within (admits : Admits layout allowed) :
    ∀ (fields : List (Str × Json)), ReadableFields fields → ∀ depth,
    ∀ entry ∈ fields, ∀ c ∈ printedEntry layout depth entry, allowed c
  | [], _, _, _, member => absurd member List.not_mem_nil
  | entry :: rest, readable, depth, other, member => by
      rcases List.mem_cons.mp member with here | later
      · have value := printed_within admits entry.2 readable.1.2 depth
        rw [here, printedEntry]
        intro c inside
        simp only [List.mem_append, List.mem_cons] at inside
        rcases inside with (key | rfl | gap) | shown
        · exact quote_within admits entry.1 c key
        · exact admits.printable 58 (by decide) (by decide)
        · exact admits.after c gap
        · exact value c shown
      · exact fields_within admits rest readable.2 depth other later

end

end Within

end PyJson
