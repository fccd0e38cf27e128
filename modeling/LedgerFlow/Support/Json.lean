import LedgerFlow.Support.Text
import Mathlib.Data.List.Sort

/-!
# JSON values and their canonical text

`Json` is what a JSON reader yields. Integers are unbounded, strings are arbitrary
code points and nesting is arbitrary; a float is kept as the numeral Python prints.
`canonicalJson` is `json.dumps` with sorted keys, compact separators and ASCII
output: every unit outside printable ASCII is escaped, and beyond the basic plane
a code point is escaped as its surrogate pair.

The text is uniquely decodable. For flat objects, whose values are null, truth
values, integers or unpaired strings, two objects with equal texts have exactly
the same entries. Each escape, each quoted string, each scalar and each entry has
a cancellation law; the object law assembles them.
-/

namespace PyJson

open PyText

/-- A decoded JSON value. -/
inductive Json where
  | null
  | bool (value : Bool)
  | int (value : Int)
  | float (numeral : {s : Str // Ascii s})
  | str (text : Str)
  | arr (items : List Json)
  | obj (fields : List (Str × Json))

/-- The entries of a JSON object. -/
abbrev Fields := List (Str × Json)

/-- `raw.get(key)`, absent when the key is. -/
def get (fields : Fields) (key : Str) : Option Json := fields.lookup key

/-- `number == value`, for a value read from JSON: a truth value is zero or one, and which
integers a float equals is told by the caller. -/
def equalsInt (floatEquals : Str → Int → Bool) (number : Int) : Json → Bool
  | .int value => decide (number = value)
  | .bool value => decide (number = if value then 1 else 0)
  | .float numeral => floatEquals numeral.1 number
  | _ => false

/-- `entries == value`, for a dictionary and a value read from JSON: both have as many
entries, and each of the dictionary stands among those that were read. -/
def equalsObject {Entry : Type} (entries : List Entry) (stands : Fields → Entry → Bool) :
    Json → Bool
  | .obj fields => decide (entries.length = fields.length) && entries.all (stands fields)
  | _ => false

/-! ## Canonical text -/

/-- The letter of a two-character escape. -/
def shortEscape (unit : Nat) : Option Nat :=
  if unit = 8 then some 98 else if unit = 9 then some 116 else if unit = 10 then some 110
  else if unit = 12 then some 102 else if unit = 13 then some 114
  else if unit = 34 then some 34 else if unit = 92 then some 92 else none

/-- A lower-case hexadecimal digit. -/
def hexDigit (value : Nat) : Nat := if value < 10 then 48 + value else 87 + value

/-- A unit as it stands between quotes. -/
def escapeUnit (unit : Nat) : List Nat :=
  match shortEscape unit with
  | some letter => [92, letter]
  | none =>
      if 32 ≤ unit ∧ unit ≤ 126 then [unit]
      else [92, 117, hexDigit (unit / 4096 % 16), hexDigit (unit / 256 % 16),
        hexDigit (unit / 16 % 16), hexDigit (unit % 16)]

/-- The quoted form of a string. -/
def quote (s : Str) : Str :=
  (34 :: ((utf16 s).flatMap escapeUnit ++ [34])).map (Fin.ofNat 0x110000)

/-- Keys are ordered by code points. -/
def byKey {α : Type} (left right : Str × α) : Prop := left.1 ≤ right.1

instance {α : Type} : DecidableRel (byKey (α := α)) :=
  fun left right => inferInstanceAs (Decidable (left.1 ≤ right.1))

instance {α : Type} : Std.Total (byKey (α := α)) := ⟨fun first second => le_total first.1 second.1⟩

instance {α : Type} : IsTrans (Str × α) byKey := ⟨fun _ _ _ => le_trans⟩

mutual

/-- `json.dumps(value, sort_keys=True, separators=(",", ":"), ensure_ascii=True)`. -/
def canonicalJson : Json → Str
  | .null => str "null"
  | .bool true => str "true"
  | .bool false => str "false"
  | .int value => decimal value
  | .float numeral => numeral.1
  | .str text => quote text
  | .arr items => str "[" ++ join (str ",") (canonicalItems items) ++ str "]"
  | .obj fields =>
      str "\x7b" ++ join (str ",") (((canonicalFields fields).insertionSort byKey).map Prod.snd)
        ++ str "\x7d"

/-- The texts of the items of a list. -/
def canonicalItems : List Json → List Str
  | [] => []
  | item :: rest => canonicalJson item :: canonicalItems rest

/-- Each key with the text of its entry. -/
def canonicalFields : List (Str × Json) → List (Str × Str)
  | [] => []
  | (key, value) :: rest => (key, quote key ++ str ":" ++ canonicalJson value) :: canonicalFields rest

end

/-! ## Canonical text is ASCII -/

/-- The seven two-character escapes of JSON, each with its letter. -/
theorem short_escape_cases {unit letter : Nat} (short : shortEscape unit = some letter) :
    unit = 8 ∧ letter = 98 ∨ unit = 9 ∧ letter = 116 ∨ unit = 10 ∧ letter = 110 ∨
      unit = 12 ∧ letter = 102 ∨ unit = 13 ∧ letter = 114 ∨ unit = 34 ∧ letter = 34 ∨
      unit = 92 ∧ letter = 92 := by
  unfold shortEscape at short
  split_ifs at short <;> cases short <;> omega

/-- The letter of a short escape is ASCII, and it is not the u of a long one. -/
theorem short_escape_letter {unit letter : Nat} (short : shortEscape unit = some letter) :
    letter < 128 ∧ letter ≠ 117 := by
  have listed := short_escape_cases short
  omega

/-- The code of a hexadecimal digit is ASCII. -/
theorem hex_digit_bound {value : Nat} (small : value < 16) : hexDigit value < 128 := by
  unfold hexDigit
  split <;> omega

/-- A unit is written in ASCII, whichever of the three ways it takes. -/
theorem escape_unit_ascii (unit : Nat) : ∀ value ∈ escapeUnit unit, value < 128 := by
  have small (n : Nat) : n % 16 < 16 := Nat.mod_lt n (by decide)
  unfold escapeUnit
  cases short : shortEscape unit with
  | some letter =>
    have bound := (short_escape_letter short).1
    simp only [List.mem_cons, List.not_mem_nil, or_false, forall_eq_or_imp, forall_eq]
    omega
  | none =>
    dsimp only
    split
    · simp only [List.mem_singleton, forall_eq]
      omega
    · simp [hex_digit_bound (small _)]

/-- A quoted text is ASCII, since every unit outside is escaped. -/
theorem quote_ascii (s : Str) : Ascii (quote s) := by
  intro c member
  obtain ⟨value, inside, rfl⟩ := List.mem_map.mp member
  have bound : value < 128 := by
    simp only [List.mem_cons, List.mem_append, List.mem_flatMap, List.not_mem_nil,
      or_false] at inside
    rcases inside with rfl | ⟨unit, _, escaped⟩ | rfl
    · decide
    · exact escape_unit_ascii unit value escaped
    · decide
  have same : (Fin.ofNat 0x110000 value).val = value := Nat.mod_eq_of_lt (by omega)
  omega

/-- Joining ASCII parts by an ASCII separator leaves ASCII. -/
theorem join_ascii {separator : Str} {parts : List Str} (between : Ascii separator)
    (each : ∀ part ∈ parts, Ascii part) : Ascii (join separator parts) := by
  unfold join
  induction parts with
  | nil => simp
  | cons part rest inductionHypothesis =>
    have first := each part List.mem_cons_self
    have others := inductionHypothesis fun other member => each other (List.mem_cons_of_mem _ member)
    by_cases empty : rest = []
    · simpa [empty] using first
    · rw [List.intercalate_cons_of_ne_nil empty]
      exact ascii_append.mpr ⟨ascii_append.mpr ⟨first, between⟩, others⟩

mutual

/-- `ensure_ascii=True` yields ASCII text, for values of any depth. -/
theorem canonical_ascii : ∀ value : Json, Ascii (canonicalJson value)
  | .null => by decide
  | .bool true => by decide
  | .bool false => by decide
  | .int value => decimal_ascii value
  | .float numeral => numeral.2
  | .str text => quote_ascii text
  | .arr items => by
      have comma : Ascii (str ",") := by decide
      have inner := join_ascii comma (canonical_items_ascii items)
      exact ascii_append.mpr ⟨ascii_append.mpr ⟨by decide, inner⟩, by decide⟩
  | .obj fields => by
      refine ascii_append.mpr ⟨ascii_append.mpr ⟨by decide, join_ascii (by decide) ?_⟩, by decide⟩
      intro part member
      obtain ⟨entry, sorted, rfl⟩ := List.mem_map.mp member
      exact canonical_fields_ascii fields entry ((List.mem_insertionSort byKey).mp sorted)

/-- The texts of the items of a list are ASCII. -/
theorem canonical_items_ascii : ∀ items : List Json, ∀ part ∈ canonicalItems items, Ascii part
  | [], _, member => by simp [canonicalItems] at member
  | item :: rest, part, member => by
      rcases List.mem_cons.mp member with rfl | later
      · exact canonical_ascii item
      · exact canonical_items_ascii rest part later

/-- The texts of the entries of an object are ASCII, keys included. -/
theorem canonical_fields_ascii :
    ∀ fields : List (Str × Json), ∀ entry ∈ canonicalFields fields, Ascii entry.2
  | [], _, member => by simp [canonicalFields] at member
  | (key, value) :: rest, entry, member => by
      rcases List.mem_cons.mp member with rfl | later
      · exact ascii_append.mpr
          ⟨ascii_append.mpr ⟨quote_ascii key, by decide⟩, canonical_ascii value⟩
      · exact canonical_fields_ascii rest entry later

end

/-! ## Cancellation -/

/-- No two units have one short escape. -/
theorem short_escape_injective {first second letter : Nat}
    (left : shortEscape first = some letter) (right : shortEscape second = some letter) :
    first = second := by
  have listedFirst := short_escape_cases left
  have listedSecond := short_escape_cases right
  omega

/-- No two values have one hexadecimal digit. -/
theorem hex_digit_injective {first second : Nat} (left : first < 16) (right : second < 16)
    (same : hexDigit first = hexDigit second) : first = second := by
  unfold hexDigit at same
  split at same <;> split at same <;> omega

/-- A printable unit that stands for itself is neither a quote nor a backslash. -/
theorem plain_unit {unit : Nat} (plain : shortEscape unit = none) : unit ≠ 34 ∧ unit ≠ 92 := by
  constructor <;> rintro rfl <;> simp [shortEscape] at plain

/-- The escape of a unit can be read off the front of a text.

A unit escapes in one of three ways: a short escape, itself, or four hexadecimal
digits. Different ways already differ in their first two code points. -/
theorem escape_unit_cancel {first second : Nat} (left : first < 0x10000)
    (right : second < 0x10000) {x y : List Nat}
    (same : escapeUnit first ++ x = escapeUnit second ++ y) : first = second ∧ x = y := by
  have small (n : Nat) : n % 16 < 16 := Nat.mod_lt n (by decide)
  unfold escapeUnit at same
  cases shortFirst : shortEscape first with
  | some letter =>
    have notHex := (short_escape_letter shortFirst).2
    cases shortSecond : shortEscape second with
    | some other =>
      simp only [shortFirst, shortSecond, List.cons_append, List.nil_append, List.cons.injEq,
        true_and] at same
      exact ⟨short_escape_injective shortFirst (same.1 ▸ shortSecond), same.2⟩
    | none =>
      have plain := plain_unit shortSecond
      simp only [shortFirst, shortSecond] at same
      split at same <;> simp only [List.cons_append, List.nil_append, List.cons.injEq] at same <;>
        omega
  | none =>
    have plainFirst := plain_unit shortFirst
    cases shortSecond : shortEscape second with
    | some other =>
      have notHex := (short_escape_letter shortSecond).2
      simp only [shortFirst, shortSecond] at same
      split at same <;> simp only [List.cons_append, List.nil_append, List.cons.injEq] at same <;>
        omega
    | none =>
      have plainSecond := plain_unit shortSecond
      simp only [shortFirst, shortSecond] at same
      split at same <;> split at same <;>
        simp only [List.cons_append, List.nil_append, List.cons.injEq, true_and] at same
      · exact same
      · omega
      · omega
      · obtain ⟨h3, h2, h1, h0, rest⟩ := same
        have d3 := hex_digit_injective (small _) (small _) h3
        have d2 := hex_digit_injective (small _) (small _) h2
        have d1 := hex_digit_injective (small _) (small _) h1
        have d0 := hex_digit_injective (small _) (small _) h0
        exact ⟨by omega, rest⟩

/-- No escape starts with the closing quote, so the end of a quoted text can be told. -/
theorem escape_unit_opens (unit : Nat) :
    ∃ first rest, escapeUnit unit = first :: rest ∧ first ≠ 34 := by
  unfold escapeUnit
  cases short : shortEscape unit with
  | some letter => exact ⟨92, [letter], rfl, by decide⟩
  | none =>
    dsimp only
    split
    · exact ⟨unit, [], rfl, (plain_unit short).1⟩
    · exact ⟨92, _, rfl, by decide⟩

/-- Escaped units up to their closing quote can be read off the front of a text. -/
theorem escaped_cancel (first second : List Nat) (left : ∀ unit ∈ first, unit < 0x10000)
    (right : ∀ unit ∈ second, unit < 0x10000) {x y : List Nat}
    (same : first.flatMap escapeUnit ++ 34 :: x = second.flatMap escapeUnit ++ 34 :: y) :
    first = second ∧ x = y := by
  induction first generalizing second with
  | nil =>
    cases second with
    | nil => simpa using same
    | cons unit rest =>
      obtain ⟨opening, tail, shape, notQuote⟩ := escape_unit_opens unit
      simp only [List.flatMap_nil, List.nil_append, List.flatMap_cons, shape, List.cons_append,
        List.cons.injEq] at same
      exact absurd same.1.symm notQuote
  | cons unit rest inductionHypothesis =>
    cases second with
    | nil =>
      obtain ⟨opening, tail, shape, notQuote⟩ := escape_unit_opens unit
      simp only [List.flatMap_nil, List.nil_append, List.flatMap_cons, shape, List.cons_append,
        List.cons.injEq] at same
      exact absurd same.1 notQuote
    | cons other others =>
      simp only [List.flatMap_cons, List.append_assoc] at same
      obtain ⟨heads, tails⟩ := escape_unit_cancel (left unit List.mem_cons_self)
        (right other List.mem_cons_self) same
      obtain ⟨units, ends⟩ := inductionHypothesis others
        (fun u member => left u (List.mem_cons_of_mem _ member))
        (fun u member => right u (List.mem_cons_of_mem _ member)) tails
      exact ⟨heads ▸ units ▸ rfl, ends⟩

/-- A unit of UTF-16 has sixteen bits. -/
theorem utf16_bound (s : Str) : ∀ unit ∈ utf16 s, unit < 0x10000 := by
  intro unit member
  obtain ⟨c, _, inside⟩ := List.mem_flatMap.mp member
  exact units_bound c unit inside

/-- A quoted string can be read off the front of a text. -/
theorem quote_cancel {s t : Str} (left : Unpaired s) (right : Unpaired t) {x y : Str}
    (same : quote s ++ x = quote t ++ y) : s = t ∧ x = y := by
  have small (text : Str) : ∀ value ∈ (34 :: ((utf16 text).flatMap escapeUnit ++ [34])),
      value < 128 := by
    intro value member
    simp only [List.mem_cons, List.mem_append, List.mem_flatMap, List.not_mem_nil,
      or_false] at member
    rcases member with rfl | ⟨unit, _, escaped⟩ | rfl
    · decide
    · exact escape_unit_ascii unit value escaped
    · decide
  have values (text tail : Str) : (quote text ++ tail).map Fin.val =
      34 :: ((utf16 text).flatMap escapeUnit ++ 34 :: tail.map Fin.val) := by
    have identity : ((34 :: ((utf16 text).flatMap escapeUnit ++ [34])).map
        (Fin.ofNat 0x110000)).map Fin.val = 34 :: ((utf16 text).flatMap escapeUnit ++ [34]) := by
      rw [List.map_map]
      refine (List.map_congr_left fun value member => ?_).trans (List.map_id _)
      exact Nat.mod_eq_of_lt (by have bound := small text value member; omega)
    rw [List.map_append, quote, identity]
    simp
  have numbers := congrArg (List.map Fin.val) same
  rw [values, values] at numbers
  obtain ⟨units, tails⟩ := escaped_cancel (utf16 s) (utf16 t) (utf16_bound s) (utf16_bound t)
    (List.cons.inj numbers).2
  exact ⟨utf16_injective s t left right units, List.map_injective_iff.mpr Fin.val_injective tails⟩

/-- A text that cannot continue a numeral. -/
def Ends (x : Str) : Prop := ∀ c ∈ x.head?, digit c = false

/-- Digits up to an end can be read off the front of a text. -/
theorem digits_cancel (first second : Str) (left : ∀ c ∈ first, digit c = true)
    (right : ∀ c ∈ second, digit c = true) {x y : Str} (endX : Ends x) (endY : Ends y)
    (same : first ++ x = second ++ y) : first = second ∧ x = y := by
  have taken (digits tail : Str) (all : ∀ c ∈ digits, digit c = true) (ends : Ends tail) :
      (digits ++ tail).takeWhile digit = digits := by
    rw [List.takeWhile_append_of_pos all]
    cases tail with
    | nil => simp
    | cons c rest => simp [ends c rfl]
  have equal : first = second := by
    rw [← taken first x left endX, same, taken second y right endY]
  subst equal
  exact ⟨rfl, List.append_cancel_left same⟩

/-- A numeral up to an end can be read off the front of a text. -/
theorem decimal_cancel {m n : Int} {x y : Str} (endX : Ends x) (endY : Ends y)
    (same : decimal m ++ x = decimal n ++ y) : m = n ∧ x = y := by
  have minus : digit (point '-') = false := by decide
  have head (k : Nat) (sign : CodePoint) (tail rest : Str)
      (starts : (Nat.toDigits 10 k).map point ++ tail = sign :: rest) : digit sign = true := by
    cases shape : (Nat.toDigits 10 k).map point with
    | nil => exact absurd shape (digits_ne_nil k)
    | cons c others =>
      rw [shape, List.cons_append] at starts
      rw [← (List.cons.inj starts).1]
      exact digits_digit k c (by simp [shape])
  have signText : str "-" = [point '-'] := rfl
  unfold decimal at same
  rw [signText] at same
  split at same <;> split at same
  · simp only [List.cons_append, List.nil_append, List.cons.injEq, true_and] at same
    obtain ⟨digits, rest⟩ := digits_cancel _ _ (digits_digit _) (digits_digit _) endX endY same
    have magnitude := digits_injective _ _ digits
    exact ⟨by omega, rest⟩
  · have wrong := head n.natAbs (point '-') y _ same.symm
    simp [minus] at wrong
  · have wrong := head m.natAbs (point '-') x _ same
    simp [minus] at wrong
  · simp only [List.nil_append] at same
    obtain ⟨digits, rest⟩ := digits_cancel _ _ (digits_digit _) (digits_digit _) endX endY same
    have magnitude := digits_injective _ _ digits
    exact ⟨by omega, rest⟩

/-! ## Flat objects -/

/-- A value without items or entries, and without an ambiguous surrogate pair. -/
def Scalar : Json → Prop
  | .null | .bool _ | .int _ => True
  | .str text => Unpaired text
  | .float _ | .arr _ | .obj _ => False

/-- The text after an entry opens with a comma or a closing brace. -/
def Follows (x : Str) : Prop := ∃ rest, x = str "," ++ rest ∨ x = str "\x7d" ++ rest

/-- What follows an entry starts with a comma or a brace, and so does not go on with a number. -/
theorem Follows.ends {x : Str} (follows : Follows x) : Ends x := by
  obtain ⟨rest, rfl | rfl⟩ := follows <;> intro c head <;> cases head <;> decide

/-- What the first code point of a scalar's text tells about the scalar. -/
def opening : Json → CodePoint → Prop
  | .null, c => c = point 'n'
  | .bool true, c => c = point 't'
  | .bool false, c => c = point 'f'
  | .int _, c => c = point '-' ∨ digit c = true
  | .str _, c => c = 34
  | .float _, _ | .arr _, _ | .obj _, _ => False

/-- The decimal text of an integer starts with a sign or a digit. -/
theorem decimal_opening (n : Int) :
    ∃ c rest, decimal n = c :: rest ∧ (c = point '-' ∨ digit c = true) := by
  unfold decimal
  split
  · exact ⟨point '-', _, rfl, .inl rfl⟩
  · cases shape : (Nat.toDigits 10 n.natAbs).map point with
    | nil => exact absurd shape (digits_ne_nil _)
    | cons c rest => exact ⟨c, rest, rfl, .inr (digits_digit n.natAbs c (by simp [shape]))⟩

/-- Every scalar's text starts with a code point of its own kind. -/
theorem scalar_opening {value : Json} (scalar : Scalar value) :
    ∃ c rest, canonicalJson value = c :: rest ∧ opening value c := by
  cases value with
  | null => exact ⟨_, _, rfl, rfl⟩
  | bool truth => cases truth <;> exact ⟨_, _, rfl, rfl⟩
  | int n => exact decimal_opening n
  | str text => exact ⟨_, _, rfl, rfl⟩
  | float | arr | obj => exact scalar.elim

/-- A numeral starts with no letter of the other scalars and with no quote. -/
theorem sign_or_digit_apart (c : CodePoint) (opens : c = point '-' ∨ digit c = true) :
    c ≠ point 'n' ∧ c ≠ point 't' ∧ c ≠ point 'f' ∧ c ≠ 34 := by
  rcases opens with rfl | isDigit
  · decide
  · simp only [digit, decide_eq_true_eq] at isDigit
    refine ⟨?_, ?_, ?_, ?_⟩ <;> rintro rfl <;> revert isDigit <;> decide

/-- The words for null and the truth values start with letters of their own, and none with a
quotation mark. -/
theorem opening_letters_apart :
    point 'n' ≠ point 't' ∧ point 'n' ≠ point 'f' ∧ point 't' ≠ point 'f' ∧
      point 'n' ≠ 34 ∧ point 't' ≠ 34 ∧ point 'f' ≠ 34 := by
  decide

/-- Different kinds of scalars start with different characters, apart from two integers or two
texts. -/
theorem opening_kinds {first second : Json} {c : CodePoint} (left : opening first c)
    (right : opening second c) :
    first = second ∨ (∃ m n, first = .int m ∧ second = .int n) ∨
      ∃ s t, first = .str s ∧ second = .str t := by
  match first, second, left, right with
  | .null, .null, _, _ | .bool true, .bool true, _, _ | .bool false, .bool false, _, _ =>
      exact .inl rfl
  | .int m, .int n, _, _ => exact .inr (.inl ⟨m, n, rfl, rfl⟩)
  | .str s, .str t, _, _ => exact .inr (.inr ⟨s, t, rfl, rfl⟩)
  | .null, .bool true, left, right | .null, .bool false, left, right
  | .null, .str _, left, right | .bool true, .null, left, right
  | .bool true, .bool false, left, right | .bool true, .str _, left, right
  | .bool false, .null, left, right | .bool false, .bool true, left, right
  | .bool false, .str _, left, right | .str _, .null, left, right
  | .str _, .bool true, left, right | .str _, .bool false, left, right =>
      have letters := opening_letters_apart
      simp only [opening] at left right
      simp_all
  | .int _, .null, left, right | .int _, .bool true, left, right
  | .int _, .bool false, left, right | .int _, .str _, left, right =>
      have different := sign_or_digit_apart c left
      simp only [opening] at right
      simp_all
  | .null, .int _, left, right | .bool true, .int _, left, right
  | .bool false, .int _, left, right | .str _, .int _, left, right =>
      have different := sign_or_digit_apart c right
      simp only [opening] at left
      simp_all

/-- A scalar followed by a comma or brace can be read off the front of a text. -/
theorem scalar_cancel {first second : Json} (left : Scalar first) (right : Scalar second)
    {x y : Str} (followsX : Follows x) (followsY : Follows y)
    (same : canonicalJson first ++ x = canonicalJson second ++ y) : first = second ∧ x = y := by
  obtain ⟨c, tailFirst, shapeFirst, opensFirst⟩ := scalar_opening left
  obtain ⟨d, tailSecond, shapeSecond, opensSecond⟩ := scalar_opening right
  have heads : c = d := by
    rw [shapeFirst, shapeSecond] at same
    exact (List.cons.inj same).1
  rcases opening_kinds opensFirst (heads ▸ opensSecond) with
    rfl | ⟨m, n, rfl, rfl⟩ | ⟨s, t, rfl, rfl⟩
  · exact ⟨rfl, List.append_cancel_left same⟩
  · obtain ⟨rfl, rest⟩ := decimal_cancel followsX.ends followsY.ends same
    exact ⟨rfl, rest⟩
  · obtain ⟨rfl, rest⟩ := quote_cancel left right same
    exact ⟨rfl, rest⟩

/-- The text of one entry. -/
def entryText (entry : Str × Json) : Str := quote entry.1 ++ str ":" ++ canonicalJson entry.2

/-- An entry whose key is unpaired and whose value is a scalar. -/
def FlatEntry (entry : Str × Json) : Prop := Unpaired entry.1 ∧ Scalar entry.2

/-- An entry followed by a comma or brace can be read off the front of a text. -/
theorem entry_cancel {first second : Str × Json} (left : FlatEntry first)
    (right : FlatEntry second) {x y : Str} (followsX : Follows x) (followsY : Follows y)
    (same : entryText first ++ x = entryText second ++ y) : first = second ∧ x = y := by
  simp only [entryText, List.append_assoc] at same
  obtain ⟨keys, afterKeys⟩ := quote_cancel left.1 right.1 same
  obtain ⟨values, rest⟩ := scalar_cancel left.2 right.2 followsX followsY
    (List.append_cancel_left afterKeys)
  exact ⟨Prod.ext keys values, rest⟩

/-- What follows an entry inside an object's text. -/
def remainder : Fields → Str
  | [] => str "\x7d"
  | entry :: rest => str "," ++ entryText entry ++ remainder rest

/-- The rest of an object after an entry starts with a comma or a brace. -/
theorem remainder_follows (fields : Fields) : Follows (remainder fields) := by
  cases fields with
  | nil => exact ⟨[], .inr rfl⟩
  | cons entry rest => exact ⟨_, .inl (List.append_assoc _ _ _)⟩

/-- The body of an object is its first entry, and what remains. -/
theorem join_remainder (entry : Str × Json) (rest : Fields) :
    join (str ",") ((entry :: rest).map entryText) ++ str "\x7d" =
      entryText entry ++ remainder rest := by
  unfold join
  induction rest generalizing entry with
  | nil => simp [remainder]
  | cons next rest inductionHypothesis =>
    have tail := inductionHypothesis next
    simp only [List.map_cons] at tail ⊢
    rw [List.intercalate_cons_cons, List.append_assoc, List.append_assoc, tail, remainder]
    simp only [List.append_assoc]

/-- The text of flat entries up to the closing brace determines the list of entries. -/
theorem remainder_injective (first second : Fields) (left : ∀ entry ∈ first, FlatEntry entry)
    (right : ∀ entry ∈ second, FlatEntry entry) (same : remainder first = remainder second) :
    first = second := by
  have brace : str "\x7d" = [point '\x7d'] := rfl
  have comma : str "," = [point ','] := rfl
  have apart : point '\x7d' ≠ point ',' := by decide
  induction first generalizing second with
  | nil =>
    cases second with
    | nil => rfl
    | cons entry rest =>
      simp only [remainder, brace, comma, List.cons_append] at same
      exact absurd (List.cons.inj same).1 apart
  | cons entry rest inductionHypothesis =>
    cases second with
    | nil =>
      simp only [remainder, brace, comma, List.cons_append] at same
      exact absurd (List.cons.inj same).1.symm apart
    | cons other others =>
      simp only [remainder, List.append_assoc] at same
      obtain ⟨heads, tails⟩ := entry_cancel (left entry List.mem_cons_self)
        (right other List.mem_cons_self) (remainder_follows _) (remainder_follows _)
        (List.append_cancel_left same)
      have equal := inductionHypothesis others
        (fun e member => left e (List.mem_cons_of_mem _ member))
        (fun e member => right e (List.mem_cons_of_mem _ member)) tails
      exact heads ▸ equal ▸ rfl

/-- The entries of an object are written one by one. -/
theorem canonical_fields_map (fields : Fields) :
    canonicalFields fields = fields.map fun entry => (entry.1, entryText entry) := by
  induction fields with
  | nil => rfl
  | cons entry rest inductionHypothesis =>
    rw [canonicalFields, inductionHypothesis]
    rfl

/-- Sorting the entries' texts by key is sorting the entries by key. -/
theorem sorted_texts (fields : Fields) :
    ((canonicalFields fields).insertionSort byKey).map Prod.snd =
      (fields.insertionSort byKey).map entryText := by
  rw [canonical_fields_map, ← List.map_insertionSort (r := byKey), List.map_map]
  · rfl
  · exact fun _ _ _ _ => Iff.rfl

/-- Flat objects with equal texts have exactly the same entries.

Sorting commutes with rendering, so equal texts are equal sequences of rendered
entries; each entry is read off in turn. -/
theorem canonical_entries {first second : Fields} (left : ∀ entry ∈ first, FlatEntry entry)
    (right : ∀ entry ∈ second, FlatEntry entry)
    (same : canonicalJson (.obj first) = canonicalJson (.obj second)) :
    first.Perm second := by
  have sorted : first.insertionSort byKey = second.insertionSort byKey := by
    simp only [canonicalJson, sorted_texts, List.append_assoc] at same
    have inner := List.append_cancel_left same
    have flatFirst : ∀ entry ∈ first.insertionSort byKey, FlatEntry entry :=
      fun entry member => left entry ((List.mem_insertionSort byKey).mp member)
    have flatSecond : ∀ entry ∈ second.insertionSort byKey, FlatEntry entry :=
      fun entry member => right entry ((List.mem_insertionSort byKey).mp member)
    have headNotBrace (entry : Str × Json) (rest : Fields) :
        join (str ",") ((entry :: rest).map entryText) ++ str "\x7d" ≠ str "\x7d" := by
      rw [join_remainder]
      intro wrong
      have heads := (List.cons.inj wrong).1
      revert heads
      decide
    generalize first.insertionSort byKey = sortedFirst at inner flatFirst ⊢
    generalize second.insertionSort byKey = sortedSecond at inner flatSecond ⊢
    cases sortedFirst with
    | nil =>
      cases sortedSecond with
      | nil => rfl
      | cons entry rest => exact absurd inner.symm (headNotBrace entry rest)
    | cons entry rest =>
      cases sortedSecond with
      | nil => exact absurd inner (headNotBrace entry rest)
      | cons other others =>
        rw [join_remainder, join_remainder] at inner
        refine remainder_injective _ _ flatFirst flatSecond ?_
        simp only [remainder, List.append_assoc, inner]
  exact (List.perm_insertionSort byKey first).symm.trans
    (sorted ▸ List.perm_insertionSort byKey second)

end PyJson
