import LedgerFlow.Support.Grouping
import LedgerFlow.Support.Json

/-!
# The length of canonical text

An encoded text has at most four bytes for each code point, and a quoted one at most twelve
characters: two units, each escaped. The text of an object is as long as those of its entries
with their separators.
-/

namespace PyText

/-- A character takes at most four bytes in UTF-8. -/
theorem utf8_length (s : Str) : (utf8 s).length ≤ 4 * s.length := by
  refine Grouping.length_flat_map_le fun c _ => ?_
  unfold utf8Bytes
  split
  · exact Nat.le_add_left 1 3
  · split
    · exact Nat.le_add_left 2 2
    · split
      · exact Nat.le_add_left 3 1
      · exact le_refl 4

/-- A character takes at most two units in UTF-16. -/
theorem utf16_length (s : Str) : (utf16 s).length ≤ 2 * s.length := by
  refine Grouping.length_flat_map_le fun c _ => ?_
  unfold units
  split
  · exact Nat.le_add_left 1 1
  · exact le_refl 2

/-- Joined parts are no longer than their number times the longest part and a separator. -/
theorem join_length {separator : Str} {parts : List Str} {most : Nat}
    (short : ∀ part ∈ parts, part.length ≤ most) :
    (join separator parts).length ≤ parts.length * (most + separator.length) := by
  induction parts with
  | nil => exact Nat.zero_le _
  | cons part rest inductionHypothesis =>
    obtain ⟨first, others⟩ := List.forall_mem_cons.mp short
    have later := inductionHypothesis others
    rw [List.length_cons, Nat.add_mul]
    cases rest with
    | nil =>
      rw [join, List.intercalate_singleton]
      omega
    | cons next more =>
      rw [join, List.intercalate_cons_of_ne_nil (List.cons_ne_nil _ _), ← join,
        List.length_append, List.length_append]
      omega

end PyText

namespace PyJson

open PyText

/-- A unit takes at most six characters when it is escaped, a backslash, a letter and four
digits. -/
theorem escape_unit_length (unit : Nat) : (escapeUnit unit).length ≤ 6 := by
  unfold escapeUnit
  split
  · exact Nat.le_add_left 2 4
  · split
    · exact Nat.le_add_left 1 5
    · exact le_refl 6

/-- A quoted text takes at most twelve characters for each of its own, and two quotation marks. -/
theorem quote_length (s : Str) : (quote s).length ≤ 12 * s.length + 2 := by
  have units := utf16_length s
  have escaped : ((utf16 s).flatMap escapeUnit).length ≤ 6 * (utf16 s).length :=
    Grouping.length_flat_map_le fun unit _ => escape_unit_length unit
  rw [quote, List.length_map, List.length_cons, List.length_append, List.length_singleton]
  omega

/-- An entry takes its quoted key, a colon and the text of its value. -/
theorem entry_length (entry : Str × Json) : (entryText entry).length ≤
    12 * entry.1.length + 3 + (canonicalJson entry.2).length := by
  have key := quote_length entry.1
  have colon : (str ":").length = 1 := rfl
  rw [entryText, List.length_append, List.length_append, colon]
  omega

/-- The text of an object is no longer than the number of its entries times the longest one and a
comma, and its braces. -/
theorem object_length {fields : Fields} {most : Nat}
    (short : ∀ entry ∈ fields, (entryText entry).length ≤ most) :
    (canonicalJson (.obj fields)).length ≤ fields.length * (most + 1) + 2 := by
  have joined := @join_length (str ",") ((fields.insertionSort byKey).map entryText) most
    fun text listed => by
      obtain ⟨entry, inside, rfl⟩ := List.mem_map.mp listed
      exact short entry ((List.mem_insertionSort byKey).mp inside)
  have sizes : (str ",").length = 1 ∧ (str "\x7b").length = 1 ∧ (str "\x7d").length = 1 :=
    ⟨rfl, rfl, rfl⟩
  rw [List.length_map, List.length_insertionSort, sizes.1] at joined
  rw [canonicalJson, sorted_texts, List.length_append, List.length_append, sizes.2.1, sizes.2.2]
  omega

end PyJson
