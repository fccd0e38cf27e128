import LedgerFlow.Support.Grouping
import Mathlib.Data.List.Dedup
import Mathlib.Data.List.ReduceOption

/-!
# Dataframes: nullable columns, aggregates, windows and merges

A dataframe is a list of rows whose order has no meaning. Columns are nullable, so a
comparison has three truth values and a branch of `CASE WHEN` is taken only where its
condition is true. Aggregates ignore nulls and are null where nothing is left; 64-bit
sums wrap. Every aggregate is invariant under permutations of its rows.

`rowNumbers` numbers the rows of each partition in the order of its window.
`mergeUpdate` and `mergeInsert` are the two merges by key. Merging rows with distinct
keys replaces the target rows of those keys, or keeps them, and leaves all others.
-/

namespace Dataframe

open Grouping

variable {Row Key : Type}

/-! ## 64-bit integers -/

/-- The signed 64-bit integer with the low bits of `n`. -/
def bigint (n : Int) : Int := n.bmod 18446744073709551616

/-- An integer within 64 signed bits is its own residue, so nothing wraps. -/
theorem bigint_of_fits {n : Int} (low : -9223372036854775808 ≤ n) (high : n < 9223372036854775808) :
    bigint n = n := by
  unfold bigint
  rw [Int.bmod_def]
  split <;> omega

/-- A wrapped number is always a signed 64-bit integer. -/
theorem bigint_range (n : Int) :
    -9223372036854775808 ≤ bigint n ∧ bigint n < 9223372036854775808 := by
  unfold bigint
  rw [Int.bmod_def]
  split <;> omega

/-- A number and its wrapped negation cancel, even where the negation overflows. -/
theorem bigint_cancel (n : Int) : bigint (n + bigint (-n)) = 0 := by
  rw [bigint, bigint, Int.add_bmod_bmod, Int.add_right_neg, Int.zero_bmod]

/-! ## Conditions -/

/-- A truth value, or null. -/
abbrev Condition := Option Bool

/-- A comparison with null is null. -/
def comparison (relation : Int → Int → Bool) : Option Int → Option Int → Condition
  | some first, some second => some (relation first second)
  | _, _ => none

/-- The comparisons. -/
def equals : Option Int → Option Int → Condition := comparison fun a b => decide (a = b)
def differs : Option Int → Option Int → Condition := comparison fun a b => decide (a ≠ b)
def exceeds : Option Int → Option Int → Condition := comparison fun a b => decide (b < a)
def atMost : Option Int → Option Int → Condition := comparison fun a b => decide (a ≤ b)

/-- Wrapping addition; null with null operands. -/
def plus : Option Int → Option Int → Option Int
  | some first, some second => some (bigint (first + second))
  | _, _ => none

/-- Conjunction: false beats null. -/
def both : Condition → Condition → Condition
  | some true, second => second
  | some false, _ => some false
  | none, some false => some false
  | none, _ => none

/-- Disjunction: true beats null. -/
def either : Condition → Condition → Condition
  | some false, second => second
  | some true, _ => some true
  | none, some true => some true
  | none, _ => none

/-- `IS NULL` -/
def isNull {α : Type} (value : Option α) : Condition := some value.isNone

/-- `IS NOT NULL` -/
def isNotNull {α : Type} (value : Option α) : Condition := some value.isSome

/-- An equality of two values that are there is true exactly when they are equal. -/
@[simp] theorem equals_true {first second : Int} :
    equals (some first) (some second) = some true ↔ first = second := by
  simp [equals, comparison]

/-- On values that are not null an inequality is true exactly when they differ. -/
@[simp] theorem differs_true {first second : Int} :
    differs (some first) (some second) = some true ↔ first ≠ second := by
  simp [differs, comparison]

/-- On values that are not null one exceeds another exactly when the other is less. -/
@[simp] theorem exceeds_true {first second : Int} :
    exceeds (some first) (some second) = some true ↔ second < first := by
  simp [exceeds, comparison]

/-- On values that are not null one is at most another exactly as integers are. -/
@[simp] theorem at_most_true {first second : Int} :
    atMost (some first) (some second) = some true ↔ first ≤ second := by
  simp [atMost, comparison]

/-- A conjunction is true exactly when both parts are; a null part never makes it true. -/
@[simp] theorem both_true {first second : Condition} :
    both first second = some true ↔ first = some true ∧ second = some true := by
  cases first with
  | none => cases second with
    | none => simp [both]
    | some truth => cases truth <;> simp [both]
  | some truth => cases truth <;> simp [both]

/-- A disjunction is true exactly when one part is, whatever the other. -/
@[simp] theorem either_true {first second : Condition} :
    either first second = some true ↔ first = some true ∨ second = some true := by
  cases first with
  | none => cases second with
    | none => simp [either]
    | some truth => cases truth <;> simp [either]
  | some truth => cases truth <;> simp [either]

/-- The test for null is true of null and of nothing else. -/
@[simp] theorem is_null_true {α : Type} {value : Option α} :
    isNull value = some true ↔ value = none := by
  simp [isNull]

/-- The test for not being null is true of every value and false of null. -/
@[simp] theorem is_not_null_true {α : Type} {value : Option α} :
    isNotNull value = some true ↔ value ≠ none := by
  simp [isNotNull, Option.isSome_iff_ne_none]

/-- `CASE WHEN ... THEN ... END`: the value of the first true condition. -/
def caseWhen {α : Type} : List (Condition × α) → Option α
  | [] => none
  | (condition, value) :: rest => if condition = some true then some value else caseWhen rest

/-- A branch is a conditional where its condition decides a proposition; a null condition counts
as not met. -/
theorem case_when_if {α : Type} {condition : Condition} {value : α} {rest : List (Condition × α)}
    {failed : Prop} [Decidable failed] {others : Option α} (decides : condition = some true ↔ failed)
    (later : ¬ failed → caseWhen rest = others) :
    caseWhen ((condition, value) :: rest) = if failed then some value else others := by
  rw [caseWhen]
  by_cases fails : failed
  · rw [if_pos (decides.mpr fails), if_pos fails]
  · rw [if_neg fun holds => fails (decides.mp holds), if_neg fails]
    exact later fails

/-! ## Aggregates -/

/-- The values of a column that are not null. -/
def nonNull {α : Type} (column : List (Option α)) : List α := column.reduceOption

/-- `min(column)` -/
def minOf (column : List (Option Int)) : Option Int := (nonNull column).min?

/-- `max(column)` -/
def maxOf (column : List (Option Int)) : Option Int := (nonNull column).max?

/-- `sum(column)` -/
def sumOf (column : List (Option Int)) : Option Int :=
  if nonNull column = [] then none else some (bigint (nonNull column).sum)

/-- `count(*)` -/
def countAll (rows : List Row) : Option Int := some rows.length

/-- `size(collect_set(column))` -/
def sizeOfSet {α : Type} [DecidableEq α] (column : List (Option α)) : Option Int :=
  some (nonNull column).dedup.length

/-- `when(keep, field)` without an alternative is null elsewhere, so an aggregate sees the kept
rows only. -/
theorem non_null_when {α : Type} (keep : Row → Bool) (field : Row → α) (rows : List Row) :
    nonNull (rows.map fun row => if keep row then some (field row) else none) =
      (rows.filter keep).map field := by
  induction rows with
  | nil => rfl
  | cons row rest inductionHypothesis =>
    rw [List.map_cons, List.filter_cons]
    split
    · exact congrArg (field row :: ·) inductionHypothesis
    · exact inductionHypothesis

/-- A column without nulls has all of its values counted. -/
theorem non_null_all {α : Type} (field : Row → α) (rows : List Row) :
    nonNull (rows.map fun row => some (field row)) = rows.map field := by
  have all := non_null_when (fun _ => true) field rows
  rw [List.filter_true] at all
  exact all

/-- A sum without nulls over at least one row is the wrapped sum; over no rows it would be
null. -/
theorem sum_of_all {field : Row → Int} {rows : List Row} (nonempty : rows ≠ []) :
    sumOf (rows.map fun row => some (field row)) = some (bigint (rows.map field).sum) := by
  rw [sumOf, non_null_all, if_neg (by simpa using nonempty)]

/-- `sum(when(keep, field).otherwise(0))` is the wrapped sum over the rows that are kept, and not
null when there is any row at all. -/
theorem sum_of_when {keep : Row → Bool} {field : Row → Int} {rows : List Row}
    (nonempty : rows ≠ []) :
    sumOf (rows.map fun row => some (if keep row then field row else 0)) =
      some (bigint (selected keep field rows)) := by
  rw [sum_of_all nonempty, selected_sum]

/-- The least of some integers does not depend on their order. -/
theorem min_perm {first second : List Int} (same : first.Perm second) :
    first.min? = second.min? := by
  cases least : second.min? with
  | none =>
    rw [List.min?_eq_none_iff] at least ⊢
    exact List.perm_nil.mp (least ▸ same)
  | some n =>
    obtain ⟨member, below⟩ := List.min?_eq_some_iff.mp least
    exact List.min?_eq_some_iff.mpr
      ⟨same.mem_iff.mpr member, fun other inside => below other (same.mem_iff.mp inside)⟩

/-- The greatest of some integers does not depend on their order. -/
theorem max_perm {first second : List Int} (same : first.Perm second) :
    first.max? = second.max? := by
  cases greatest : second.max? with
  | none =>
    rw [List.max?_eq_none_iff] at greatest ⊢
    exact List.perm_nil.mp (greatest ▸ same)
  | some n =>
    obtain ⟨member, above⟩ := List.max?_eq_some_iff.mp greatest
    exact List.max?_eq_some_iff.mpr
      ⟨same.mem_iff.mpr member, fun other inside => above other (same.mem_iff.mp inside)⟩

section Permutations

variable {first second : List Row}

/-- The non-null values of a column keep their numbers when the rows are permuted. -/
theorem non_null_perm {α : Type} (same : first.Perm second) (column : Row → Option α) :
    (nonNull (first.map column)).Perm (nonNull (second.map column)) :=
  (same.map column).filterMap id

/-- A minimum over rows does not depend on their order, nulls ignored. -/
theorem min_of_perm (same : first.Perm second) (column : Row → Option Int) :
    minOf (first.map column) = minOf (second.map column) :=
  min_perm (non_null_perm same column)

/-- A maximum over rows does not depend on their order, nulls ignored. -/
theorem max_of_perm (same : first.Perm second) (column : Row → Option Int) :
    maxOf (first.map column) = maxOf (second.map column) :=
  max_perm (non_null_perm same column)

/-- A sum over rows does not depend on their order: it is taken modulo 2^64, where addition is
commutative too. -/
theorem sum_of_perm (same : first.Perm second) (column : Row → Option Int) :
    sumOf (first.map column) = sumOf (second.map column) := by
  have values := non_null_perm same column
  have empty : nonNull (first.map column) = [] ↔ nonNull (second.map column) = [] :=
    ⟨fun none => List.nil_perm.mp (none ▸ values), fun none => List.perm_nil.mp (none ▸ values)⟩
  simp only [sumOf, empty, values.sum_eq]

/-- A count of rows does not depend on their order. -/
theorem count_all_perm (same : first.Perm second) : countAll first = countAll second := by
  rw [countAll, countAll, same.length_eq]

/-- A count of different values does not depend on the order of the rows. -/
theorem size_of_set_perm {α : Type} [DecidableEq α] (same : first.Perm second)
    (column : Row → Option α) :
    sizeOfSet (first.map column) = sizeOfSet (second.map column) := by
  rw [sizeOfSet, sizeOfSet, (non_null_perm same column).dedup.length_eq]

end Permutations

/-! ## Windows -/

/-- The distinct keys of the rows. -/
def keysOf [DecidableEq Key] (key : Row → Key) (rows : List Row) : List Key := (rows.map key).dedup

/-- `row_number()` over a window: each partition in its order, numbered from one. -/
def rowNumbers [DecidableEq Key] (key : Row → Key) (order : Row → Row → Prop)
    [DecidableRel order] (rows : List Row) : List (Row × Nat) :=
  (keysOf key rows).flatMap fun value => ((group key value rows).insertionSort order).zipIdx 1

/-- The first row of a sorted partition, if it has one. -/
def firstRow (order : Row → Row → Prop) [DecidableRel order] (rows : List Row) : List Row :=
  (rows.insertionSort order).head?.toList

/-- The rows numbered one are the first rows of the partitions, one for each key. -/
theorem first_numbered [DecidableEq Key] (key : Row → Key) (order : Row → Row → Prop)
    [DecidableRel order] (rows : List Row) :
    ((rowNumbers key order rows).filter fun numbered => numbered.2 = 1).map Prod.fst =
      (keysOf key rows).flatMap fun value => firstRow order (group key value rows) := by
  have first : ∀ sorted : List Row,
      ((sorted.zipIdx 1).filter fun numbered => numbered.2 = 1).map Prod.fst =
        sorted.head?.toList := by
    intro sorted
    cases sorted with
    | nil => rfl
    | cons row rest =>
      have later : (rest.zipIdx 2).filter (fun numbered => decide (numbered.2 = 1)) = [] := by
        rw [List.filter_eq_nil_iff]
        intro numbered member wrong
        have := List.le_snd_of_mem_zipIdx member
        simp only [decide_eq_true_eq] at wrong
        omega
      rw [List.zipIdx_cons, List.filter_cons_of_pos (by simp), later]
      rfl
  simp only [rowNumbers, List.filter_flatMap, List.map_flatMap]
  exact List.flatMap_congr fun value _ => first _

/-- A row that no other row precedes or ties with is the first of its partition, under any total
order. -/
theorem first_row_of_best {order : Row → Row → Prop} [DecidableRel order] [Std.Total order]
    [IsTrans Row order] {rows : List Row} {best : Row} (member : best ∈ rows)
    (first : ∀ row ∈ rows, order row best → row = best) : firstRow order rows = [best] := by
  have sorted := List.pairwise_insertionSort order rows
  have inside : best ∈ rows.insertionSort order := (List.mem_insertionSort order).mpr member
  rw [firstRow]
  cases shape : rows.insertionSort order with
  | nil =>
    rw [shape] at inside
    cases inside
  | cons row rest =>
    rw [shape] at inside sorted
    rcases List.mem_cons.mp inside with rfl | later
    · rfl
    · have here : row ∈ rows :=
        (List.mem_insertionSort order).mp (shape ▸ List.mem_cons_self)
      rw [first row here ((List.pairwise_cons.mp sorted).1 best later)]
      rfl

/-! ## Joins -/

/-- The rows whose key is among the others'. -/
def semiJoin [DecidableEq Key] (key : Row → Key) (others : List Key) (rows : List Row) : List Row :=
  rows.filter fun row => key row ∈ others

/-- The rows whose key is not among the others'. -/
def leftAnti [DecidableEq Key] (key : Row → Key) (others : List Key) (rows : List Row) : List Row :=
  rows.filter fun row => key row ∉ others

/-- A semi join keeps the rows whose key is among the others. -/
theorem mem_semi_join [DecidableEq Key] {key : Row → Key} {others : List Key} {rows : List Row}
    {row : Row} : row ∈ semiJoin key others rows ↔ row ∈ rows ∧ key row ∈ others := by
  rw [semiJoin, List.mem_filter, decide_eq_true_eq]

/-- A left anti-join keeps exactly the rows whose key is not on the other side. -/
theorem mem_left_anti [DecidableEq Key] {key : Row → Key} {others : List Key} {rows : List Row}
    {row : Row} : row ∈ leftAnti key others rows ↔ row ∈ rows ∧ key row ∉ others := by
  rw [leftAnti, List.mem_filter, decide_eq_true_eq]

/-- The keys of an anti-join complete the others to those of both. -/
theorem mem_anti_keys [DecidableEq Key] {key : Row → Key} {others : List Key} {rows : List Row}
    {value : Key} : value ∈ others ++ (leftAnti key others rows).map key ↔
      value ∈ others ∨ value ∈ rows.map key := by
  rw [List.mem_append]
  constructor
  · rintro (left | right)
    · exact .inl left
    · obtain ⟨row, inside, rfl⟩ := List.mem_map.mp right
      exact .inr (List.mem_map_of_mem (mem_left_anti.mp inside).1)
  · intro known
    by_cases left : value ∈ others
    · exact .inl left
    · obtain ⟨row, member, rfl⟩ := List.mem_map.mp (known.resolve_left left)
      exact .inr (List.mem_map_of_mem (mem_left_anti.mpr ⟨member, left⟩))

/-- The keys of the other side together with those of an anti-join repeat none, if neither side
repeats any. -/
theorem anti_keys_nodup [DecidableEq Key] {key : Row → Key} {others : List Key} {rows : List Row}
    (unique : others.Nodup) (keyed : Keyed key rows) :
    (others ++ (leftAnti key others rows).map key).Nodup := by
  refine List.nodup_append.mpr ⟨unique, keyed.sublist (List.filter_sublist.map _), ?_⟩
  rintro value old _ new rfl
  obtain ⟨row, inside, rfl⟩ := List.mem_map.mp new
  exact (mem_left_anti.mp inside).2 old

/-- A semi-join with all of the keys keeps every row. -/
theorem semi_join_all [DecidableEq Key] {key : Row → Key} {others : List Key} {rows : List Row}
    (listed : ∀ row ∈ rows, key row ∈ others) : semiJoin key others rows = rows :=
  List.filter_eq_self.mpr fun row member => decide_eq_true (listed row member)

/-- An anti-join with keys that no row has keeps every row. -/
theorem left_anti_all [DecidableEq Key] {key : Row → Key} {others : List Key} {rows : List Row}
    (unlisted : ∀ row ∈ rows, key row ∉ others) : leftAnti key others rows = rows :=
  List.filter_eq_self.mpr fun row member => decide_eq_true (unlisted row member)

/-- A semi-join keeps the group of a listed key whole, since it looks at the key only. -/
theorem semi_join_group [DecidableEq Key] {key : Row → Key} {others : List Key} {value : Key}
    (listed : value ∈ others) (rows : List Row) :
    group key value (semiJoin key others rows) = group key value rows := by
  rw [group, semiJoin, List.filter_filter, group]
  refine List.filter_congr fun row _ => ?_
  by_cases same : key row = value
  · simp [same, listed]
  · simp [same]

/-- An anti-join keeps the group of an unlisted key whole, since it looks at the key only. -/
theorem left_anti_group [DecidableEq Key] {key : Row → Key} {others : List Key} {value : Key}
    (unlisted : value ∉ others) (rows : List Row) :
    group key value (leftAnti key others rows) = group key value rows := by
  rw [group, leftAnti, List.filter_filter, group]
  refine List.filter_congr fun row _ => ?_
  by_cases same : key row = value
  · simp [same, unlisted]
  · simp [same]

/-! ## Merges -/

section Merges

variable [DecidableEq Key] (key : Row → Key) (target source : List Row)

/-- `MERGE ... WHEN NOT MATCHED THEN INSERT *` -/
def mergeInsert : List Row := target ++ leftAnti key (target.map key) source

/-- `MERGE ... WHEN MATCHED THEN UPDATE SET * WHEN NOT MATCHED THEN INSERT *`, which
fails where several source rows match one target row. -/
def mergeUpdate : Option (List Row) :=
  if ∃ row ∈ target, 1 < (group key (key row) source).length then none
  else some (target.map (fun row => (group key (key row) source).head?.getD row) ++
    leftAnti key (target.map key) source)

variable {key target source}

/-- Merging into an empty table inserts every row of the source. -/
theorem merge_insert_empty : mergeInsert key [] source = source := by
  simp [mergeInsert, leftAnti]

/-- A merge into an empty table inserts its source as it is; the check of the source for repeated
keys concerns matched rows only. -/
theorem merge_update_empty : mergeUpdate key [] source = some source := by
  simp [mergeUpdate, leftAnti]

/-- A merge that only inserts keeps every row of its target, and adds a row of its source where no
row of the target has the key. -/
theorem mem_merge_insert {row : Row} : row ∈ mergeInsert key target source ↔
    row ∈ target ∨ row ∈ source ∧ key row ∉ target.map key := by
  simp [mergeInsert, leftAnti]

/-- An inserting merge has the keys of both tables: a known key stays, a new one is inserted. -/
theorem merge_insert_keys {value : Key} (known : value ∈ target.map key ∨ value ∈ source.map key) :
    value ∈ (mergeInsert key target source).map key := by
  rw [mergeInsert, List.map_append]
  exact mem_anti_keys.mpr known

/-- An inserting merge keeps keys unique, where both tables had them so. -/
theorem merge_insert_keyed (target_keyed : Keyed key target) (source_keyed : Keyed key source) :
    Keyed key (mergeInsert key target source) := by
  rw [Keyed, mergeInsert, List.map_append]
  exact anti_keys_nodup target_keyed source_keyed

/-- Source rows with distinct keys never match a target row twice, which is what lets a `MERGE`
succeed. -/
theorem group_at_most_one (source_keyed : Keyed key source) (value : Key) :
    (group key value source).length ≤ 1 := by
  cases found : group key value source with
  | nil => exact Nat.zero_le 1
  | cons row rest =>
    have member : row ∈ group key value source := found ▸ List.mem_cons_self
    obtain ⟨inside, same⟩ := mem_group.mp member
    rw [← found, ← same, source_keyed.group_eq inside]
    exact le_refl 1

/-- Updating a row by another of its key keeps the key. -/
theorem updated_key (row : Row) : key ((group key (key row) source).head?.getD row) = key row := by
  cases found : (group key (key row) source).head? with
  | none => rfl
  | some new => exact (mem_group.mp (List.mem_of_head? found)).2

/-- Updating rows by key leaves the keys of the target as they are, in their order. -/
theorem updated_keys : (target.map fun row => (group key (key row) source).head?.getD row).map key =
    target.map key := by
  rw [List.map_map]
  exact List.map_congr_left fun row _ => updated_key row

/-- The table that an updating merge leaves: the target rows, updated where the source has their
key, and then the source rows with new keys. -/
theorem merge_update_some {merged : List Row}
    (merges : mergeUpdate key target source = some merged) :
    merged = target.map (fun row => (group key (key row) source).head?.getD row) ++
      leftAnti key (target.map key) source := by
  unfold mergeUpdate at merges
  split at merges
  · cases merges
  · exact (Option.some.inj merges).symm

/-- The keys after an updating merge: those of the target come first, in their order, and then the
new ones of the source. -/
theorem merge_update_key_column {merged : List Row}
    (merges : mergeUpdate key target source = some merged) :
    merged.map key = target.map key ++ (leftAnti key (target.map key) source).map key := by
  rw [merge_update_some merges, List.map_append, updated_keys]

/-- A merged table has the keys of both tables and no other. -/
theorem merge_update_keys {merged : List Row} (merges : mergeUpdate key target source = some merged)
    {value : Key} :
    value ∈ merged.map key ↔ value ∈ target.map key ∨ value ∈ source.map key := by
  rw [merge_update_key_column merges]
  exact mem_anti_keys

/-- Merging rows with distinct keys succeeds: source rows replace the target rows of
their keys, and all other target rows stay. -/
theorem merge_update_ok (source_keyed : Keyed key source) :
    ∃ merged, mergeUpdate key target source = some merged ∧
      (∀ row, row ∈ merged ↔ row ∈ source ∨ row ∈ target ∧ key row ∉ source.map key) ∧
      (Keyed key target → Keyed key merged) := by
  refine ⟨_, if_neg ?_, fun row => ?_, fun target_keyed => ?_⟩
  · rintro ⟨row, _, several⟩
    exact absurd several (not_lt.mpr (group_at_most_one source_keyed _))
  · rw [List.mem_append, List.mem_map, leftAnti, List.mem_filter, decide_eq_true_eq]
    constructor
    · rintro (⟨old, member, rfl⟩ | ⟨new, _⟩)
      · cases found : (group key (key old) source).head? with
        | none =>
          refine .inr ⟨member, fun listed => ?_⟩
          obtain ⟨new, inside, same⟩ := List.mem_map.mp listed
          have here : new ∈ group key (key old) source := mem_group.mpr ⟨inside, same⟩
          rw [List.head?_eq_none_iff.mp found] at here
          cases here
        | some new => exact .inl (mem_group.mp (List.mem_of_head? found)).1
      · exact .inl new
    · rintro (new | ⟨old, unmatched⟩)
      · by_cases matched : key row ∈ target.map key
        · obtain ⟨old, member, same⟩ := List.mem_map.mp matched
          refine .inl ⟨old, member, ?_⟩
          rw [same, source_keyed.group_eq new]
          rfl
        · exact .inr ⟨new, matched⟩
      · refine .inl ⟨row, old, ?_⟩
        have none : group key (key row) source = [] := group_nil fun new inside same =>
          unmatched (List.mem_map.mpr ⟨new, inside, same⟩)
        rw [none]
        rfl
  · rw [Keyed, List.map_append, updated_keys]
    exact anti_keys_nodup target_keyed source_keyed

end Merges

end Dataframe
