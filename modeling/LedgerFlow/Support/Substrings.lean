import LedgerFlow.Support.Json
import Mathlib.Data.List.Infix

/-!
# Searching canonical text

A word without the separator lies in a text iff it lies on one side of the separator.
A word without quotes, colons, commas and braces is therefore in the canonical text of
an object iff it is in a key or in the text of a value. A quoted printable text holds
the words that the text itself holds.
-/

namespace PyText

/-- `needle in text` -/
def occurs (needle text : Str) : Bool := decide (needle <:+: text)

/-- Python's `in` finds a word exactly where it is a contiguous part of the text. -/
theorem occurs_iff {needle text : Str} : occurs needle text = true ↔ needle <:+: text :=
  decide_eq_true_iff

/-- A text that lacks a character of the word does not hold the word. -/
theorem not_occurs {needle text : Str} {c : CodePoint} (inside : c ∈ needle) (absent : c ∉ text) :
    ¬ needle <:+: text :=
  fun held => absent (held.subset inside)

/-- A word lies on one side of a character it does not have. -/
theorem infix_cut {needle before after : Str} {c : CodePoint} (absent : c ∉ needle) :
    needle <:+: before ++ c :: after ↔ needle <:+: before ∨ needle <:+: after := by
  constructor
  · rintro ⟨front, back, same⟩
    rcases List.append_eq_append_iff.mp same with ⟨middle, left, _⟩ | ⟨middle, left, right⟩
    · exact .inl ⟨front, middle, left.symm⟩
    · cases middle with
      | nil =>
        rw [List.append_nil] at left
        exact .inl ⟨front, [], (List.append_nil _).trans left⟩
      | cons first rest =>
        obtain ⟨rfl, tail⟩ := List.cons.inj right
        rcases List.append_eq_append_iff.mp left with ⟨piece, _, cut⟩ | ⟨piece, _, cut⟩
        · exact absurd (cut ▸ List.mem_append_right piece List.mem_cons_self) absent
        · cases piece with
          | nil => exact absurd ((show c :: rest = needle from cut) ▸ List.mem_cons_self) absent
          | cons other others =>
            obtain ⟨_, ends⟩ := List.cons.inj cut
            refine .inr ⟨others, back, ?_⟩
            rw [tail, show rest = others ++ needle from ends]
            rfl
  · rintro (left | right)
    · exact left.trans (List.prefix_append before (c :: after)).isInfix
    · exact right.trans ((List.suffix_cons c after).trans (List.suffix_append before _)).isInfix

/-- The characters around a text hold no part of a word that has neither. -/
theorem infix_wrapped {needle : Str} {first last : CodePoint} (some : needle ≠ [])
    (opens : first ∉ needle) (closes : last ∉ needle) (text : Str) :
    needle <:+: first :: (text ++ [last]) ↔ needle <:+: text := by
  have empty : ¬ needle <:+: [] := fun held => some (List.infix_nil.mp held)
  have outer := @infix_cut needle [] (text ++ [last]) first opens
  have inner := @infix_cut needle text [] last closes
  rw [List.nil_append] at outer
  rw [outer, inner]
  simp only [empty, false_or, or_false]

/-- A word lies in one of the parts between separators it does not have. -/
theorem infix_join {needle : Str} {c : CodePoint} (absent : c ∉ needle) (some : needle ≠ [])
    (parts : List Str) : needle <:+: join [c] parts ↔ ∃ part ∈ parts, needle <:+: part := by
  induction parts with
  | nil =>
    constructor
    · exact fun held => absurd (List.infix_nil.mp held) some
    · rintro ⟨_, member, _⟩
      cases member
  | cons part rest inductionHypothesis =>
    rw [List.exists_mem_cons_iff, ← inductionHypothesis]
    cases rest with
    | nil =>
      rw [join, List.intercalate_singleton, join, List.intercalate_nil]
      constructor
      · exact .inl
      · rintro (held | held)
        · exact held
        · exact absurd (List.infix_nil.mp held) some
    | cons next later =>
      rw [join, List.intercalate_cons_of_ne_nil (List.cons_ne_nil _ _), ← join, List.append_assoc,
        List.singleton_append]
      exact infix_cut absent

end PyText

namespace PyJson

open PyText

/-- The characters that canonical text puts around keys and values: quote, comma, colon and
the two braces. -/
def structural : Str := [34, 44, 58, 123, 125]

/-- A nonempty word without structural characters. -/
structure Unstructured (needle : Str) : Prop where
  some : needle ≠ []
  none : ∀ c ∈ structural, c ∉ needle

/-- A concrete word without structural characters is found to be one by evaluation. -/
theorem unstructured_of_all {needle : Str} (some : needle ≠ [])
    (all : structural.all (fun c => decide (c ∉ needle)) = true) : Unstructured needle :=
  ⟨some, fun c member => of_decide_eq_true (List.all_eq_true.mp all c member)⟩

/-- A word is in the text of an entry iff it is in the key or in the value. -/
theorem infix_entry {needle : Str} (plain : Unstructured needle) (entry : Str × Json) :
    needle <:+: entryText entry ↔
      needle <:+: quote entry.1 ∨ needle <:+: canonicalJson entry.2 := by
  rw [entryText, List.append_assoc]
  exact infix_cut (plain.none _ (by decide))

/-- A word is in the text of an object iff it is in one of the entries. -/
theorem infix_canonical {needle : Str} (plain : Unstructured needle) (fields : Fields) :
    needle <:+: canonicalJson (.obj fields) ↔ ∃ entry ∈ fields,
      needle <:+: quote entry.1 ∨ needle <:+: canonicalJson entry.2 := by
  have wrapped := infix_wrapped plain.some (plain.none 123 (by decide))
    (plain.none 125 (by decide)) (join (str ",") ((fields.insertionSort byKey).map entryText))
  rw [canonicalJson, sorted_texts]
  refine wrapped.trans ((infix_join (plain.none 44 (by decide)) plain.some _).trans ?_)
  simp only [List.mem_map, exists_exists_and_eq_and, infix_entry plain, List.mem_insertionSort]

/-- Printable text without quotes and backslashes. -/
def Printable (s : Str) : Prop := ∀ c ∈ s, 32 ≤ c.val ∧ c.val ≤ 126 ∧ c.val ≠ 34 ∧ c.val ≠ 92

/-- A printable text is quoted as it stands: none of its characters is escaped. -/
theorem units_printable {s : Str} (printable : Printable s) :
    (utf16 s).flatMap escapeUnit = s.map Fin.val := by
  induction s with
  | nil => rfl
  | cons c rest inductionHypothesis =>
    obtain ⟨first, later⟩ := List.forall_mem_cons.mp printable
    have unit : units c = [c.val] := if_pos (by omega)
    have none : shortEscape c.val = none := by
      unfold shortEscape
      repeat rw [if_neg (by omega)]
    have itself : escapeUnit c.val = [c.val] := by
      unfold escapeUnit
      rw [none]
      exact if_pos ⟨first.1, first.2.1⟩
    rw [utf16_cons, unit, List.singleton_append, List.flatMap_cons, itself,
      inductionHypothesis later, List.map_cons, List.singleton_append]

/-- Printable text, without quotes and backslashes, stands between its quotes as it is. -/
theorem quote_printable {s : Str} (printable : Printable s) :
    quote s = 34 :: (s ++ [34]) := by
  rw [quote, units_printable printable, List.map_cons, List.map_append, List.map_map]
  have same : s.map (Fin.ofNat 0x110000 ∘ Fin.val) = s :=
    (List.map_congr_left fun c _ => Fin.ofNat_val_eq_self c).trans (List.map_id s)
  rw [same]
  rfl

/-- A word is in the quoted form of a printable text iff it is in the text. -/
theorem infix_quote {needle s : Str} (plain : Unstructured needle) (printable : Printable s) :
    needle <:+: quote s ↔ needle <:+: s := by
  rw [quote_printable printable]
  exact infix_wrapped plain.some (plain.none 34 (by decide)) (plain.none 34 (by decide)) s

end PyJson
