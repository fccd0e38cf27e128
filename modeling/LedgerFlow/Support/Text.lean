import Mathlib.Data.List.Lex

/-!
# Python strings as sequences of code points

A Python string may hold lone surrogates, which no UTF-8 text contains, so the
model keeps code points and not Lean characters. `Encodable` is the success of
`encode("utf-8")`. The order on strings is the lexicographic order of code points,
which is also the byte order of their UTF-8 texts.

`utf16` lists the 16-bit units of a string. It is injective on strings in which no
high surrogate is followed by a low one; JSON text can spell no others apart.
Decimal numerals are written by `decimal`, which is injective on the integers.
-/

namespace PyText

/-- A code point, surrogates included. -/
abbrev CodePoint := Fin 0x110000

instance codePointsPositive : @NeZero Nat Zero.ofOfNat0 0x110000 := ⟨by decide⟩

/-- A Python string. -/
abbrev Str := List CodePoint

instance : LawfulBEq Str := inferInstance

/-- The code points of a literal. -/
def str (literal : String) : Str := literal.toList.map fun c => Fin.ofNat 0x110000 c.toNat

/-- The upper half of the surrogate range opens a pair. -/
def high (c : CodePoint) : Bool := decide (0xD800 ≤ c.val ∧ c.val < 0xDC00)

/-- The lower half of the surrogate range closes a pair. -/
def low (c : CodePoint) : Bool := decide (0xDC00 ≤ c.val ∧ c.val < 0xE000)

/-- `s.encode("utf-8")` does not raise. -/
def Encodable (s : Str) : Prop := ∀ c ∈ s, ¬ (0xD800 ≤ c.val ∧ c.val < 0xE000)

instance (s : Str) : Decidable (Encodable s) := List.decidableBAll _ s

/-- The UTF-8 bytes of a code point that is no surrogate. -/
def utf8Bytes (c : CodePoint) : List UInt8 :=
  if c.val < 0x80 then [.ofNat c.val]
  else if c.val < 0x800 then [.ofNat (0xC0 + c.val / 64), .ofNat (0x80 + c.val % 64)]
  else if c.val < 0x10000 then
    [.ofNat (0xE0 + c.val / 4096), .ofNat (0x80 + c.val / 64 % 64), .ofNat (0x80 + c.val % 64)]
  else
    [.ofNat (0xF0 + c.val / 262144), .ofNat (0x80 + c.val / 4096 % 64),
      .ofNat (0x80 + c.val / 64 % 64), .ofNat (0x80 + c.val % 64)]

/-- `s.encode("utf-8")` of an encodable string. -/
def utf8 (s : Str) : List UInt8 := s.flatMap utf8Bytes

/-- `s.isascii()`. -/
def Ascii (s : Str) : Prop := ∀ c ∈ s, c.val < 128

instance (s : Str) : Decidable (Ascii s) := List.decidableBAll _ s

/-- ASCII text is encodable, as it holds no surrogate. -/
theorem Ascii.encodable {s : Str} (ascii : Ascii s) : Encodable s := by
  intro c member surrogate
  have bound := ascii c member
  omega

/-- ASCII text has no surrogate that opens a pair. -/
theorem Ascii.not_high {s : Str} (ascii : Ascii s) : ∀ c ∈ s, high c = false := by
  intro c member
  have bound := ascii c member
  exact decide_eq_false (by omega)

/-- The empty text is ASCII. -/
@[simp] theorem ascii_nil : Ascii [] := by simp [Ascii]

/-- A text is ASCII where its first character and the rest are. -/
@[simp] theorem ascii_cons {c : CodePoint} {s : Str} : Ascii (c :: s) ↔ c.val < 128 ∧ Ascii s := by
  simp [Ascii]

/-- Two texts are ASCII together where each of them is. -/
@[simp] theorem ascii_append {s t : Str} : Ascii (s ++ t) ↔ Ascii s ∧ Ascii t := by
  simp only [Ascii, List.mem_append, or_imp, forall_and]

/-! ## UTF-16 units -/

/-- One unit, or a surrogate pair beyond the basic plane. -/
def units (c : CodePoint) : List Nat :=
  if c.val < 0x10000 then [c.val]
  else [0xD800 + (c.val - 0x10000) / 0x400, 0xDC00 + (c.val - 0x10000) % 0x400]

/-- The 16-bit units of a string. -/
def utf16 (s : Str) : List Nat := s.flatMap units

/-- The empty text has no units. -/
@[simp] theorem utf16_nil : utf16 [] = [] := rfl

/-- The units of a text are those of its characters, one after another. -/
@[simp] theorem utf16_cons (c : CodePoint) (s : Str) : utf16 (c :: s) = units c ++ utf16 s := rfl

/-- Every unit of a code point fits in sixteen bits. -/
theorem units_bound (c : CodePoint) : ∀ unit ∈ units c, unit < 0x10000 := by
  intro unit member
  have bound := c.isLt
  unfold units at member
  split at member
  · simp only [List.mem_singleton] at member
    omega
  · simp only [List.mem_cons, List.not_mem_nil, or_false] at member
    omega

/-- No high surrogate is directly followed by a low one. -/
def Unpaired : Str → Prop
  | [] => True
  | c :: rest => (high c = true → ∀ d ∈ rest.head?, low d = false) ∧ Unpaired rest

/-- Text without high surrogates is unpaired, whatever low ones it has. -/
theorem unpaired_of_none {s : Str} (none : ∀ c ∈ s, high c = false) : Unpaired s := by
  induction s with
  | nil => trivial
  | cons c rest inductionHypothesis =>
    obtain ⟨first, later⟩ := List.forall_mem_cons.mp none
    exact ⟨fun opens => absurd opens (by simp [first]), inductionHypothesis later⟩

/-- Text that can be encoded has no surrogates and is therefore unpaired. -/
theorem Encodable.unpaired {s : Str} (encodable : Encodable s) : Unpaired s := by
  induction s with
  | nil => trivial
  | cons c rest inductionHypothesis =>
    refine ⟨fun opens => ?_, inductionHypothesis fun d member =>
      encodable d (List.mem_cons_of_mem c member)⟩
    have plain := encodable c List.mem_cons_self
    simp only [high, decide_eq_true_eq] at opens
    omega

/-- A single code point between ASCII texts leaves a string unpaired, even a surrogate. -/
theorem unpaired_between {before after : Str} (c : CodePoint) (first : Ascii before)
    (second : Ascii after) : Unpaired (before ++ c :: after) := by
  induction before with
  | nil =>
    refine ⟨fun _ d member => ?_, second.encodable.unpaired⟩
    have bound := second d (List.mem_of_mem_head? member)
    simp only [low, decide_eq_false_iff_not]
    omega
  | cons b rest inductionHypothesis =>
    refine ⟨fun opens => ?_, inductionHypothesis fun d member =>
      first d (List.mem_cons_of_mem b member)⟩
    have bound := first b List.mem_cons_self
    simp only [high, decide_eq_true_eq] at opens
    omega

/-- The first unit of an unpaired continuation of a high surrogate is not low. -/
theorem head_not_low {c : CodePoint} {rest : Str} (unpaired : Unpaired (c :: rest))
    (opens : high c = true) (unit : Nat) (tail : List Nat) (starts : utf16 rest = unit :: tail) :
    ¬ (0xDC00 ≤ unit ∧ unit < 0xE000) := by
  cases rest with
  | nil => simp at starts
  | cons d rest =>
    have closing : low d = false := unpaired.1 opens d rfl
    simp only [low, decide_eq_false_iff_not] at closing
    have bound := d.isLt
    simp only [utf16_cons, units] at starts
    split at starts
    · have same : d.val = unit := (List.cons.inj starts).1
      omega
    · have same := (List.cons.inj starts).1
      omega

/-- Unpaired strings with equal units are equal.

Compare the first code points. Equal widths give equal code points. A one-unit
code point against a pair would be a high surrogate followed by a low unit, which
an unpaired string excludes. -/
theorem utf16_injective (s t : Str) (left : Unpaired s) (right : Unpaired t)
    (same : utf16 s = utf16 t) : s = t := by
  have nonempty (c : CodePoint) : units c ≠ [] := by unfold units; split <;> simp
  induction s generalizing t with
  | nil =>
    cases t with
    | nil => rfl
    | cons d rest => simp [nonempty] at same
  | cons c s inductionHypothesis =>
    cases t with
    | nil => simp [nonempty] at same
    | cons d t =>
      have boundC := c.isLt
      have boundD := d.isLt
      simp only [utf16_cons] at same
      unfold units at same
      split at same <;> split at same
      · obtain ⟨heads, tails⟩ := List.cons.inj same
        exact congrArg₂ _ (Fin.ext heads) (inductionHypothesis t left.2 right.2 tails)
      · obtain ⟨heads, tails⟩ := List.cons.inj same
        have opens : high c = true := by
          simp only [high, decide_eq_true_eq]
          omega
        have closed := head_not_low left opens _ _ tails
        omega
      · obtain ⟨heads, tails⟩ := List.cons.inj same.symm
        have opens : high d = true := by
          simp only [high, decide_eq_true_eq]
          omega
        have closed := head_not_low right opens _ _ tails
        omega
      · obtain ⟨heads, rest⟩ := List.cons.inj same
        obtain ⟨seconds, tails⟩ := List.cons.inj rest
        have equal : c.val = d.val := by omega
        exact congrArg₂ _ (Fin.ext equal) (inductionHypothesis t left.2 right.2 tails)

/-- Cutting two texts at a separator that does not occur later cuts them alike. -/
theorem last_cut {separator : CodePoint} {first second tail other : Str} (left : separator ∉ tail)
    (right : separator ∉ other)
    (same : first ++ separator :: tail = second ++ separator :: other) :
    first = second ∧ tail = other := by
  have reversed := congrArg List.reverse same
  simp only [List.reverse_append, List.reverse_cons, List.append_assoc,
    List.singleton_append] at reversed
  have cut (text rest : Str) (free : separator ∉ text) :
      (text.reverse ++ separator :: rest).takeWhile (fun c => decide (c ≠ separator)) =
        text.reverse := by
    rw [List.takeWhile_append_of_pos]
    · simp
    · intro c member
      simp only [decide_eq_true_eq]
      rintro rfl
      exact free (List.mem_reverse.mp member)
  have tails : tail = other := by
    have ends := congrArg (List.takeWhile fun c => decide (c ≠ separator)) reversed
    rw [cut tail _ left, cut other _ right] at ends
    exact List.reverse_injective ends
  subst tails
  exact ⟨List.append_cancel_right same, rfl⟩

/-! ## Decimal numerals -/

/-- The code point of a character. -/
def point (c : Char) : CodePoint := Fin.ofNat 0x110000 c.toNat

/-- `str(n)` of an integer. -/
def decimal (n : Int) : Str :=
  (if n < 0 then str "-" else []) ++ (Nat.toDigits 10 n.natAbs).map point

/-- The decimal text of a natural number is its digits, without a sign. -/
theorem decimal_nat (n : Nat) : decimal n = (Nat.toDigits 10 n).map point := by
  simp [decimal]

/-- A decimal digit. -/
def digit (c : CodePoint) : Bool := decide (48 ≤ c.val ∧ c.val ≤ 57)

/-- A character of Lean is a code point. -/
theorem char_bound (c : Char) : c.toNat < 0x110000 := by
  have valid := c.valid
  simp only [UInt32.isValidChar, Nat.isValidChar] at valid
  change c.val.toNat < _
  omega

/-- A character has the code point that Lean gives it. -/
theorem point_val (c : Char) : (point c).val = c.toNat :=
  Nat.mod_eq_of_lt (char_bound c)

/-- No two characters have one code point. -/
theorem point_injective (c d : Char) (same : point c = point d) : c = d := by
  have values := congrArg Fin.val same
  rw [point_val, point_val] at values
  exact Char.toNat_inj.mp values

/-- Every code point of a magnitude's text is a digit. -/
theorem digits_digit (n : Nat) : ∀ c ∈ (Nat.toDigits 10 n).map point, digit c = true := by
  intro c member
  obtain ⟨char, inside, rfl⟩ := List.mem_map.mp member
  have isDigit := Nat.isDigit_of_mem_toDigits (by decide) (by decide) inside
  simp only [Char.isDigit, ge_iff_le, Bool.and_eq_true, decide_eq_true_eq,
    UInt32.le_iff_toNat_le] at isDigit
  rw [digit, point_val, decide_eq_true_eq]
  exact isDigit

/-- The digits of a magnitude determine it. -/
theorem digits_injective (m n : Nat)
    (same : (Nat.toDigits 10 m).map point = (Nat.toDigits 10 n).map point) : m = n := by
  have chars : Nat.toDigits 10 m = Nat.toDigits 10 n :=
    List.map_injective_iff.mpr (fun c d => point_injective c d) same
  rw [← Nat.ofDigitChars_ten_toDigits (n := m), chars, Nat.ofDigitChars_ten_toDigits]

/-- Each number has at least one digit, zero included. -/
theorem digits_ne_nil (n : Nat) : (Nat.toDigits 10 n).map point ≠ [] := by
  simp [Nat.toDigits_ne_nil]

/-- Decimal numerals are ASCII, sign and digits. -/
theorem decimal_ascii (n : Int) : Ascii (decimal n) := by
  refine ascii_append.mpr ⟨?_, fun c member => ?_⟩
  · split <;> decide
  · have isDigit := digits_digit n.natAbs c member
    simp only [digit, decide_eq_true_eq] at isDigit
    omega

/-! ## Stripping and ASCII case -/

/-- The characters `str.strip` removes. -/
def space (c : CodePoint) : Bool :=
  decide ((9 ≤ c.val ∧ c.val ≤ 13) ∨ (0x1C ≤ c.val ∧ c.val ≤ 0x20) ∨ c.val = 0x85 ∨
    c.val = 0xA0 ∨ c.val = 0x1680 ∨ (0x2000 ≤ c.val ∧ c.val ≤ 0x200A) ∨ c.val = 0x2028 ∨
    c.val = 0x2029 ∨ c.val = 0x202F ∨ c.val = 0x205F ∨ c.val = 0x3000)

/-- `s.strip()`. -/
def strip (s : Str) : Str := ((s.dropWhile space).reverse.dropWhile space).reverse

/-- `sep.join(parts)`. -/
def join (separator : Str) (parts : List Str) : Str := separator.intercalate parts

/-- The lower-case form of an ASCII letter; every other code point is itself. -/
def asciiLower (c : CodePoint) : CodePoint :=
  if 65 ≤ c.val ∧ c.val ≤ 90 then Fin.ofNat 0x110000 (c.val + 32) else c

end PyText
