import Mathlib.Data.List.Sort
import Mathlib.Data.List.Induction
import Mathlib.Algebra.BigOperators.Group.List.Basic
import Mathlib.Algebra.Order.BigOperators.Group.List
import Mathlib.Algebra.Order.Ring.Int
import Mathlib.Tactic.Linarith

/-!
# Rows grouped by a key

Rows are lists, as a table scan yields them. `group` is the rows of one key, and the
exchange law says that summing a table group by group gives the sum of the table.
`accumulate` adds amounts up in a dictionary that keeps the order of first insertion;
its totals are the sums of the groups.

`Keyed` is the uniqueness of a primary key. Sorting a table by an order that is
antisymmetric on its rows depends only on which rows it has.
-/

namespace Grouping

variable {Row Key : Type} [DecidableEq Key]

/-- The rows with this key, in table order. -/
def group (key : Row → Key) (value : Key) (rows : List Row) : List Row :=
  rows.filter fun row => key row = value

/-- The group of a key has the rows with that key, and no others. -/
theorem mem_group {key : Row → Key} {value : Key} {rows : List Row} {row : Row} :
    row ∈ group key value rows ↔ row ∈ rows ∧ key row = value := by
  simp [group]

/-- A row in front belongs to its own group and to no other. -/
theorem group_cons (key : Row → Key) (value : Key) (row : Row) (rows : List Row) :
    group key value (row :: rows) =
      if key row = value then row :: group key value rows else group key value rows := by
  simp only [group, List.filter_cons, decide_eq_true_eq]

/-- The group of a concatenation is the concatenation of the groups. -/
theorem group_append (key : Row → Key) (value : Key) (first second : List Row) :
    group key value (first ++ second) = group key value first ++ group key value second :=
  List.filter_append ..

/-- The group of a key that no row has is empty. -/
theorem group_nil {key : Row → Key} {value : Key} {rows : List Row}
    (absent : ∀ row ∈ rows, key row ≠ value) : group key value rows = [] := by
  simpa [group] using absent

/-- Where every row has the key, its group is the whole table. -/
theorem group_all {key : Row → Key} {value : Key} {rows : List Row}
    (present : ∀ row ∈ rows, key row = value) : group key value rows = rows := by
  simpa [group] using present

/-- Where one key determines another, the rows of the first are among those of the second. -/
theorem group_refine {Other : Type} [DecidableEq Other] {key : Row → Key} {value : Key}
    {coarse : Row → Other} {other : Other} {rows : List Row}
    (determines : ∀ row ∈ rows, key row = value → coarse row = other) :
    group key value (group coarse other rows) = group key value rows := by
  simp only [group, List.filter_filter]
  refine List.filter_congr fun row member => ?_
  by_cases same : key row = value
  · simp [same, determines row member same]
  · simp [same]

/-- A sum over distinct keys picks out the one term of a listed key. -/
theorem sum_single (keys : List Key) (unique : keys.Nodup) {value : Key} (listed : value ∈ keys)
    (amount : Int) : (keys.map fun key => if value = key then amount else 0).sum = amount := by
  induction keys with
  | nil => cases listed
  | cons key rest inductionHypothesis =>
    obtain ⟨fresh, distinct⟩ := List.nodup_cons.mp unique
    rw [List.map_cons, List.sum_cons]
    rcases List.mem_cons.mp listed with rfl | later
    · have others : (rest.map fun key => if value = key then amount else 0) =
          rest.map fun _ => (0 : Int) :=
        List.map_congr_left fun other member => by
          rw [if_neg]
          rintro rfl
          exact fresh member
      simp [others]
    · have apart : value ≠ key := fun same => fresh (same ▸ later)
      rw [if_neg apart, zero_add, inductionHypothesis distinct later]

/-- Summing group by group, over distinct keys that cover the table, sums the table. -/
theorem sum_by_key (key : Row → Key) (amount : Row → Int) (keys : List Key)
    (unique : keys.Nodup) (rows : List Row) (covered : ∀ row ∈ rows, key row ∈ keys) :
    (keys.map fun value => ((group key value rows).map amount).sum).sum =
      (rows.map amount).sum := by
  induction rows with
  | nil => simp [group]
  | cons row rest inductionHypothesis =>
    have split : ∀ value, ((group key value (row :: rest)).map amount).sum =
        (if key row = value then amount row else 0) +
          ((group key value rest).map amount).sum := by
      intro value
      rw [group_cons]
      split <;> simp
    simp only [split, List.sum_map_add]
    rw [inductionHypothesis fun other member => covered other (List.mem_cons_of_mem row member),
      sum_single keys unique (covered row List.mem_cons_self), List.map_cons, List.sum_cons]

/-! ## Selected totals -/

section Selected

omit [DecidableEq Key]

variable {keep : Row → Bool} {amount : Row → Int}

/-- The total of the rows that are kept. -/
def selected (keep : Row → Bool) (amount : Row → Int) (rows : List Row) : Int :=
  ((rows.filter keep).map amount).sum

/-- A row in front counts towards a selected sum where it is selected. -/
theorem selected_cons (keep : Row → Bool) (amount : Row → Int) (row : Row) (rest : List Row) :
    selected keep amount (row :: rest) =
      (if keep row then amount row else 0) + selected keep amount rest := by
  rw [selected, List.filter_cons]
  split <;> simp [selected]

/-- The selected sum of a concatenation is the sum of both selected sums. -/
theorem selected_append (keep : Row → Bool) (amount : Row → Int) (first second : List Row) :
    selected keep amount (first ++ second) =
      selected keep amount first + selected keep amount second := by
  simp only [selected, List.filter_append, List.map_append, List.sum_append]

/-- A selected total is the sum over all rows with zero for those that are not kept. -/
theorem selected_sum (keep : Row → Bool) (amount : Row → Int) (rows : List Row) :
    selected keep amount rows = (rows.map fun row => if keep row then amount row else 0).sum := by
  induction rows with
  | nil => rfl
  | cons row rest inductionHypothesis =>
    rw [selected_cons, inductionHypothesis, List.map_cons, List.sum_cons]

/-- The total of rows written item by item is the sum of the items' totals. -/
theorem selected_flat_map {Item : Type} (keep : Row → Bool) (amount : Row → Int)
    (rows : Item → List Row) (items : List Item) :
    selected keep amount (items.flatMap rows) =
      (items.map fun item => selected keep amount (rows item)).sum := by
  induction items with
  | nil => rfl
  | cons item rest inductionHypothesis =>
    rw [List.flatMap_cons, selected_append, inductionHypothesis, List.map_cons, List.sum_cons]

/-- Where no row is kept, the total is zero. -/
theorem selected_none {rows : List Row} (none : ∀ row ∈ rows, keep row = false) :
    selected keep amount rows = 0 := by
  have empty : rows.filter keep = [] := by simpa using none
  rw [selected, empty]
  rfl

/-- Where every row is kept, the total is the sum of all amounts. -/
theorem selected_all {rows : List Row} (all : ∀ row ∈ rows, keep row = true) :
    selected keep amount rows = (rows.map amount).sum := by
  rw [selected, List.filter_eq_self.mpr all]

end Selected

omit [DecidableEq Key] in
/-- If every item has at most so many rows, the rows of all items are at most as many for each
item. -/
theorem length_flat_map_le {Item : Type} {rows : Item → List Row} {items : List Item} {most : Nat}
    (few : ∀ item ∈ items, (rows item).length ≤ most) :
    (items.flatMap rows).length ≤ most * items.length := by
  induction items with
  | nil => exact Nat.zero_le _
  | cons item rest inductionHypothesis =>
    obtain ⟨first, others⟩ := List.forall_mem_cons.mp few
    have later := inductionHypothesis others
    rw [List.flatMap_cons, List.length_append, List.length_cons, Nat.mul_succ]
    omega

/-- Rows written item by item, under distinct labels, group back into the items' rows. -/
theorem group_flat_map {Item : Type} {key : Row → Key} (label : Item → Key)
    (rows : Item → List Row) {items : List Item} (unique : (items.map label).Nodup)
    (labelled : ∀ item ∈ items, ∀ row ∈ rows item, key row = label item) {item : Item}
    (listed : item ∈ items) : group key (label item) (items.flatMap rows) = rows item := by
  induction items with
  | nil => cases listed
  | cons head rest inductionHypothesis =>
    obtain ⟨fresh, distinct⟩ := List.nodup_cons.mp (unique : (label head :: rest.map label).Nodup)
    have others : ∀ other ∈ rest, ∀ row ∈ rows other, key row = label other :=
      fun other member => labelled other (List.mem_cons_of_mem head member)
    rw [List.flatMap_cons, group_append]
    rcases List.mem_cons.mp listed with rfl | later
    · have none : group key (label item) (rest.flatMap rows) = [] := by
        refine group_nil fun row inside same => ?_
        obtain ⟨other, member, here⟩ := List.mem_flatMap.mp inside
        exact fresh (List.mem_map.mpr ⟨other, member, (others other member row here) ▸ same⟩)
      rw [group_all (labelled item List.mem_cons_self), none, List.append_nil]
    · have none : group key (label item) (rows head) = [] := by
        refine group_nil fun row inside same => ?_
        have here := labelled head List.mem_cons_self row inside
        exact fresh (List.mem_map.mpr ⟨item, later, same.symm.trans here⟩)
      rw [none, List.nil_append]
      exact inductionHypothesis distinct others later

/-- Rows whose keys are covered by a list of distinct keys are, up to order, those of the groups
of the listed keys. Without distinctness a group would be repeated. -/
theorem perm_flat_map_group (key : Row → Key) {keys : List Key} (unique : keys.Nodup)
    {rows : List Row} (covered : ∀ row ∈ rows, key row ∈ keys) :
    rows.Perm (keys.flatMap fun value => group key value rows) := by
  induction keys generalizing rows with
  | nil =>
    have none : rows = [] :=
      List.eq_nil_iff_forall_not_mem.mpr fun row member => List.not_mem_nil (covered row member)
    rw [none]
    rfl
  | cons first rest inductionHypothesis =>
    obtain ⟨fresh, distinct⟩ := List.nodup_cons.mp unique
    let others := rows.filter fun row => !decide (key row = first)
    have parts : (group key first rows ++ others).Perm rows :=
      List.filter_append_perm (fun row => decide (key row = first)) rows
    have later : others.Perm (rest.flatMap fun value => group key value others) := by
      refine inductionHypothesis distinct fun row member => ?_
      obtain ⟨inside, apart⟩ := List.mem_filter.mp member
      rcases List.mem_cons.mp (covered row inside) with same | listed
      · simp [same] at apart
      · exact listed
    have same : (rest.flatMap fun value => group key value others) =
        rest.flatMap fun value => group key value rows := by
      refine List.flatMap_congr fun value listed => ?_
      rw [group, List.filter_filter, group]
      refine List.filter_congr fun row _ => ?_
      by_cases here : key row = value
      · have apart : key row ≠ first := fun wrong => fresh (wrong ▸ here ▸ listed)
        simp [here, here ▸ apart]
      · simp [here]
    rw [List.flatMap_cons, ← same]
    exact parts.symm.trans (later.append_left _)

omit [DecidableEq Key] in
/-- Items without rows can be left out of a concatenation. -/
theorem flat_map_when {Item : Type} (keep : Item → Bool) (rows : Item → List Row)
    (items : List Item) :
    (items.flatMap fun item => if keep item then rows item else []) =
      (items.filter keep).flatMap rows := by
  induction items with
  | nil => rfl
  | cons item rest inductionHypothesis =>
    rw [List.flatMap_cons, inductionHypothesis, List.filter_cons]
    split
    · rw [List.flatMap_cons]
    · rfl

/-! ## Dictionaries of totals -/

/-- `groups[key] = groups.get(key, 0) + amount`. -/
def accumulate (key : Key) (amount : Int) : List (Key × Int) → List (Key × Int)
  | [] => [(key, amount)]
  | (other, total) :: rest =>
      if other = key then (other, total + amount) :: rest
      else (other, total) :: accumulate key amount rest

/-- `groups[key] = value`. -/
def assign {Value : Type} (key : Key) (value : Value) : List (Key × Value) → List (Key × Value)
  | [] => [(key, value)]
  | (other, old) :: rest =>
      if other = key then (other, value) :: rest else (other, old) :: assign key value rest

/-- A dictionary comprehension over these items. -/
def dictionary {Value : Type} (items : List (Key × Value)) : List (Key × Value) :=
  items.foldl (fun groups item => assign item.1 item.2 groups) []

/-- Add up the amounts of all rows, key by key. -/
def totals (key : Row → Key) (amount : Row → Int) (rows : List Row) : List (Key × Int) :=
  rows.foldl (fun groups row => accumulate (key row) (amount row) groups) []

/-- Rows of a single key have a single total, the sum of their amounts. -/
theorem totals_single {key : Row → Key} {amount : Row → Int} {value : Key} (row : Row)
    (rest : List Row) (same : ∀ other ∈ row :: rest, key other = value) :
    totals key amount (row :: rest) = [(value, ((row :: rest).map amount).sum)] := by
  have running : ∀ (rows : List Row) (total : Int), (∀ other ∈ rows, key other = value) →
      rows.foldl (fun groups other => accumulate (key other) (amount other) groups)
        [(value, total)] = [(value, total + (rows.map amount).sum)] := by
    intro rows
    induction rows with
    | nil => simp
    | cons other others inductionHypothesis =>
      intro total all
      have here := all other List.mem_cons_self
      rw [List.foldl_cons, here, accumulate, if_pos rfl,
        inductionHypothesis _ fun later member => all later (List.mem_cons_of_mem other member),
        List.map_cons, List.sum_cons, Int.add_assoc]
  have first := same row List.mem_cons_self
  rw [totals, List.foldl_cons, first, accumulate,
    running rest _ fun other member => same other (List.mem_cons_of_mem row member),
    List.map_cons, List.sum_cons]

/-- The total of the entries whose key is picked. -/
def picked (picks : Key → Bool) (entries : List (Key × Int)) : Int :=
  selected (fun entry => picks entry.1) Prod.snd entries

omit [DecidableEq Key] in
/-- An entry in front counts towards a sum over keys where its key is picked. -/
theorem picked_cons (picks : Key → Bool) (entry : Key × Int) (rest : List (Key × Int)) :
    picked picks (entry :: rest) = (if picks entry.1 then entry.2 else 0) + picked picks rest :=
  selected_cons ..

omit [DecidableEq Key] in
/-- The order of the entries does not matter to a total of picked entries. -/
theorem picked_perm {picks : Key → Bool} {first second : List (Key × Int)}
    (same : first.Perm second) : picked picks first = picked picks second :=
  ((same.filter _).map _).sum_eq

/-- Picking among the sums of the groups sums the rows whose key is picked. -/
theorem picked_sums (key : Row → Key) (amount : Row → Int) (keys : List Key)
    (unique : keys.Nodup) (rows : List Row) (covered : ∀ row ∈ rows, key row ∈ keys)
    (picks : Key → Bool) :
    picked picks (keys.map fun value => (value, ((group key value rows).map amount).sum)) =
      selected (fun row => picks (key row)) amount rows := by
  have groups : ∀ value ∈ keys.filter picks,
      group key value (rows.filter fun row => picks (key row)) = group key value rows := by
    intro value member
    rw [group, List.filter_filter, group]
    refine List.filter_congr fun row _ => ?_
    by_cases same : key row = value
    · simp [same, (List.mem_filter.mp member).2]
    · simp [same]
  have exchanged := sum_by_key key amount (keys.filter picks) (unique.filter _)
    (rows.filter fun row => picks (key row)) fun row member =>
      List.mem_filter.mpr
        ⟨covered row (List.mem_filter.mp member).1, (List.mem_filter.mp member).2⟩
  rw [selected, ← exchanged, picked, selected, List.filter_map, List.map_map]
  refine congrArg List.sum (List.map_congr_left fun value member => ?_)
  rw [groups value member]
  rfl

/-- Adding an amount to a key adds it to the sum over picked keys where that key is picked,
whether the key was there before or not. -/
theorem picked_accumulate (picks : Key → Bool) (key : Key) (amount : Int)
    (entries : List (Key × Int)) :
    picked picks (accumulate key amount entries) =
      picked picks entries + if picks key then amount else 0 := by
  induction entries with
  | nil =>
    rw [accumulate, picked_cons]
    exact Int.add_comm ..
  | cons entry rest inductionHypothesis =>
    obtain ⟨other, total⟩ := entry
    rw [accumulate]
    by_cases same : other = key
    · subst same
      simp only [↓reduceIte, picked_cons]
      split <;> omega
    · simp only [same, ↓reduceIte, picked_cons, inductionHypothesis]
      omega

/-- An entry after adding an amount was there before, or is new, or is the old one with the amount
added. -/
theorem mem_accumulate {key : Key} {amount : Int} {entries : List (Key × Int)} {entry : Key × Int}
    (member : entry ∈ accumulate key amount entries) :
    entry ∈ entries ∨ entry = (key, amount) ∨
      ∃ old, (key, old) ∈ entries ∧ entry = (key, old + amount) := by
  induction entries with
  | nil => exact .inr (.inl (List.mem_singleton.mp member))
  | cons head rest inductionHypothesis =>
    rw [accumulate] at member
    by_cases same : head.1 = key
    · rw [if_pos same] at member
      rcases List.mem_cons.mp member with rfl | later
      · exact .inr (.inr ⟨head.2, by simp [← same], by rw [same]⟩)
      · exact .inl (List.mem_cons_of_mem head later)
    · rw [if_neg same] at member
      rcases List.mem_cons.mp member with rfl | later
      · exact .inl List.mem_cons_self
      · rcases inductionHypothesis later with old | new | ⟨old, present, sum⟩
        · exact .inl (List.mem_cons_of_mem head old)
        · exact .inr (.inl new)
        · exact .inr (.inr ⟨old, List.mem_cons_of_mem head present, sum⟩)

/-- The keys of a dictionary after an addition: the same as before, or with the new key at the
end. -/
theorem keys_accumulate (key : Key) (amount : Int) (entries : List (Key × Int)) :
    (accumulate key amount entries).map Prod.fst =
      if key ∈ entries.map Prod.fst then entries.map Prod.fst
      else entries.map Prod.fst ++ [key] := by
  induction entries with
  | nil => simp [accumulate]
  | cons entry rest inductionHypothesis =>
    rw [accumulate]
    by_cases same : entry.1 = key
    · rw [if_pos same, if_pos (by simp [same])]
      rfl
    · have apart : key ≠ entry.1 := fun other => same other.symm
      rw [if_neg same, List.map_cons, inductionHypothesis, List.map_cons]
      simp only [List.mem_cons, apart, false_or]
      split <;> rfl

/-! ## Primary keys -/

/-- No two rows share a key. -/
def Keyed (key : Row → Key) (rows : List Row) : Prop := (rows.map key).Nodup

instance (key : Row → Key) (rows : List Row) : Decidable (Keyed key rows) :=
  inferInstanceAs (Decidable (rows.map key).Nodup)

omit [DecidableEq Key] in
/-- Two rows with one key are one row, where keys are not repeated. -/
theorem Keyed.unique {key : Row → Key} {rows : List Row} (keyed : Keyed key rows)
    {first second : Row} (left : first ∈ rows) (right : second ∈ rows)
    (same : key first = key second) : first = second :=
  List.inj_on_of_nodup_map keyed left right same

omit [DecidableEq Key] in
/-- Appending a row with a new key keeps keys unique. -/
theorem Keyed.append_row {key : Row → Key} {rows : List Row} (keyed : Keyed key rows) {row : Row}
    (fresh : key row ∉ rows.map key) : Keyed key (rows ++ [row]) := by
  unfold Keyed
  rw [List.map_append, List.nodup_append]
  refine ⟨keyed, by simp, ?_⟩
  rintro value member _ last rfl
  rw [List.map_singleton, List.mem_singleton] at last
  exact fresh (last ▸ member)

/-- A keyed table holds at most one row of a key, so the group of a row's key is the row. -/
theorem Keyed.group_eq {key : Row → Key} {rows : List Row} (keyed : Keyed key rows) {row : Row}
    (member : row ∈ rows) : group key (key row) rows = [row] := by
  induction rows with
  | nil => cases member
  | cons head rest inductionHypothesis =>
    obtain ⟨fresh, distinct⟩ := List.nodup_cons.mp (keyed : (key head :: rest.map key).Nodup)
    rw [group_cons]
    rcases List.mem_cons.mp member with rfl | later
    · rw [if_pos rfl, group_nil]
      exact fun other inside same => fresh (same ▸ List.mem_map_of_mem inside)
    · have apart : key head ≠ key row := fun same => fresh (same ▸ List.mem_map_of_mem later)
      rw [if_neg apart]
      exact inductionHypothesis distinct later

/-- Where no key has two rows, keys are unique. -/
theorem keyed_of_groups {key : Row → Key} {rows : List Row}
    (single : ∀ value, (group key value rows).length ≤ 1) : Keyed key rows := by
  refine List.nodup_iff_count_le_one.mpr fun value => ?_
  have counted : (rows.map key).count value = (group key value rows).length := by
    rw [List.count_eq_countP, List.countP_map, List.countP_eq_length_filter, group]
    exact congrArg List.length (List.filter_congr fun row _ => beq_eq_decide (key row) value)
  rw [counted]
  exact single value

/-- An addition keeps the keys of a dictionary distinct: it changes an entry or appends a new
key. -/
theorem Keyed.accumulate {entries : List (Key × Int)} (keyed : Keyed Prod.fst entries) (key : Key)
    (amount : Int) : Keyed Prod.fst (accumulate key amount entries) := by
  unfold Keyed at keyed ⊢
  rw [keys_accumulate]
  split
  · exact keyed
  · rename_i fresh
    refine List.nodup_append.mpr ⟨keyed, List.nodup_singleton key, ?_⟩
    rintro other member _ last rfl
    exact fresh (List.mem_singleton.mp last ▸ member)

/-- Looking a key up in a dictionary finds the total of the entries with the key, and zero where
there is none. -/
theorem Keyed.lookup [BEq Key] [LawfulBEq Key] {entries : List (Key × Int)}
    (keyed : Keyed Prod.fst entries) (key : Key) :
    (entries.lookup key).getD 0 = picked (fun other => other = key) entries := by
  induction entries with
  | nil => rfl
  | cons entry rest inductionHypothesis =>
    obtain ⟨fresh, distinct⟩ := List.nodup_cons.mp (keyed : (entry.1 :: rest.map Prod.fst).Nodup)
    rw [picked_cons, List.lookup_cons]
    by_cases same : entry.1 = key
    · have none : picked (fun other => decide (other = key)) rest = 0 := by
        have empty : (rest.filter fun other => decide (other.1 = key)) = [] := by
          rw [List.filter_eq_nil_iff]
          intro other member found
          refine fresh (List.mem_map.mpr ⟨other, member, ?_⟩)
          rw [of_decide_eq_true found, same]
        rw [picked, selected, empty]
        rfl
      rw [none]
      simp [same]
    · have apart : (key == entry.1) = false := beq_false_of_ne fun other => same other.symm
      rw [apart]
      simp only [same, decide_false, Bool.false_eq_true, ↓reduceIte, zero_add]
      exact inductionHypothesis distinct

omit [DecidableEq Key] in
/-- What a lookup finds is in the list under the key. -/
theorem mem_of_lookup [BEq Key] [LawfulBEq Key] {Value : Type} {entries : List (Key × Value)}
    {key : Key} {value : Value} (found : entries.lookup key = some value) :
    (key, value) ∈ entries := by
  obtain ⟨before, after, split, _⟩ := List.lookup_eq_some_iff.mp found
  rw [split]
  exact List.mem_append_right before List.mem_cons_self

omit [DecidableEq Key] in
/-- A dictionary holds exactly what it looks up; a key that was repeated would hide its later
entries. -/
theorem Keyed.lookup_mem [BEq Key] [LawfulBEq Key] {Value : Type} {entries : List (Key × Value)}
    (keyed : Keyed Prod.fst entries) {key : Key} {value : Value} :
    entries.lookup key = some value ↔ (key, value) ∈ entries := by
  induction entries with
  | nil => simp
  | cons entry rest inductionHypothesis =>
    obtain ⟨fresh, distinct⟩ := List.nodup_cons.mp (keyed : (entry.1 :: rest.map Prod.fst).Nodup)
    rw [List.lookup_cons, List.mem_cons]
    by_cases same : key = entry.1
    · subst same
      rw [beq_self_eq_true]
      constructor
      · rintro ⟨⟩
        exact .inl rfl
      · rintro (first | later)
        · exact congrArg some (congrArg Prod.snd first).symm
        · exact absurd (List.mem_map_of_mem later) fresh
    · rw [beq_false_of_ne same]
      refine (inductionHypothesis distinct).trans ⟨.inr, ?_⟩
      rintro (first | later)
      · exact absurd (congrArg Prod.fst first) same
      · exact later

omit [DecidableEq Key] in
/-- Looking up in a dictionary does not depend on the order of the entries. -/
theorem Keyed.lookup_perm [BEq Key] [LawfulBEq Key] {Value : Type}
    {first second : List (Key × Value)} (keyed : Keyed Prod.fst first) (same : first.Perm second)
    (key : Key) : first.lookup key = second.lookup key := by
  have other : Keyed Prod.fst second := (same.map Prod.fst).nodup_iff.mp keyed
  refine Option.ext fun value => ?_
  rw [keyed.lookup_mem, other.lookup_mem, same.mem_iff]

/-- A new key is assigned at the end of a dictionary, as insertion order has it. -/
theorem assign_fresh {Value : Type} {key : Key} {value : Value} {entries : List (Key × Value)}
    (fresh : key ∉ entries.map Prod.fst) : assign key value entries = entries ++ [(key, value)] := by
  induction entries with
  | nil => rfl
  | cons entry rest inductionHypothesis =>
    rw [List.map_cons, List.mem_cons, not_or] at fresh
    rw [assign, if_neg fun same => fresh.1 same.symm, inductionHypothesis fresh.2]
    rfl

/-- A comprehension over items with distinct keys keeps every item, in order. -/
theorem dictionary_keyed {Value : Type} {items : List (Key × Value)}
    (keyed : Keyed Prod.fst items) : dictionary items = items := by
  have running : ∀ (later earlier : List (Key × Value)), Keyed Prod.fst (earlier ++ later) →
      later.foldl (fun groups item => assign item.1 item.2 groups) earlier = earlier ++ later := by
    intro later
    induction later with
    | nil => simp
    | cons item rest inductionHypothesis =>
      intro earlier distinct
      have fresh : item.1 ∉ earlier.map Prod.fst := by
        rw [Keyed, List.map_append] at distinct
        obtain ⟨_, _, apart⟩ := List.nodup_append.mp distinct
        exact fun member => apart item.1 member item.1 (by simp) rfl
      rw [List.foldl_cons, assign_fresh fresh, inductionHypothesis _ (by simpa using distinct)]
      simp
  exact running items [] keyed

/-- An entry after an assignment is the assigned one or was there. -/
theorem mem_assign {Value : Type} {key : Key} {value : Value} {entries : List (Key × Value)}
    {entry : Key × Value} (member : entry ∈ assign key value entries) :
    entry = (key, value) ∨ entry ∈ entries := by
  induction entries with
  | nil => exact .inl (List.mem_singleton.mp member)
  | cons first rest inductionHypothesis =>
    rw [assign] at member
    split at member
    · next same =>
      rcases List.mem_cons.mp member with here | later
      · exact .inl (same ▸ here)
      · exact .inr (List.mem_cons_of_mem _ later)
    · rcases List.mem_cons.mp member with here | later
      · exact .inr (here ▸ List.mem_cons_self)
      · exact (inductionHypothesis later).imp_right (List.mem_cons_of_mem _)

/-- A dictionary holds items of its comprehension only. -/
theorem mem_dictionary {Value : Type} {items : List (Key × Value)} {entry : Key × Value}
    (member : entry ∈ dictionary items) : entry ∈ items := by
  have running : ∀ (later earlier : List (Key × Value)),
      entry ∈ later.foldl (fun groups item => assign item.1 item.2 groups) earlier →
        entry ∈ earlier ∨ entry ∈ later := by
    intro later
    induction later with
    | nil => exact fun _ => .inl
    | cons item rest inductionHypothesis =>
      intro earlier inside
      rcases inductionHypothesis _ inside with assigned | new
      · rcases mem_assign assigned with rfl | old
        · exact .inr List.mem_cons_self
        · exact .inl old
      · exact .inr (List.mem_cons_of_mem item new)
  exact (running items [] member).resolve_left List.not_mem_nil

section Totals

variable {key : Row → Key} {amount : Row → Int}

/-- The totals of more rows add one row to the totals of the rows before. -/
theorem totals_append (rows : List Row) (row : Row) :
    totals key amount (rows ++ [row]) = accumulate (key row) (amount row) (totals key amount rows) :=
  List.foldl_append ..

/-- Totals have distinct keys, one for each key of the rows. -/
theorem totals_keyed (rows : List Row) : Keyed Prod.fst (totals key amount rows) := by
  induction rows using List.reverseRecOn with
  | nil => exact List.nodup_nil
  | append_singleton earlier row inductionHypothesis =>
    rw [totals_append]
    exact inductionHypothesis.accumulate (key row) (amount row)

/-- The keys of the totals are those of the rows. -/
theorem mem_totals_keys {rows : List Row} {value : Key} :
    value ∈ (totals key amount rows).map Prod.fst ↔ value ∈ rows.map key := by
  induction rows using List.reverseRecOn with
  | nil => exact Iff.rfl
  | append_singleton earlier row inductionHypothesis =>
    rw [totals_append, keys_accumulate, List.map_append, List.mem_append, ← inductionHypothesis]
    split
    · next listed =>
      refine ⟨.inl, ?_⟩
      rintro (before | last)
      · exact before
      · rw [List.mem_singleton.mp last]
        exact listed
    · rw [List.mem_append]
      rfl

/-- Picking among the totals sums the rows whose key is picked. -/
theorem picked_totals (picks : Key → Bool) (rows : List Row) :
    picked picks (totals key amount rows) = selected (fun row => picks (key row)) amount rows := by
  induction rows using List.reverseRecOn with
  | nil => rfl
  | append_singleton earlier row inductionHypothesis =>
    have last : selected (fun row => picks (key row)) amount [row] =
        if picks (key row) then amount row else 0 := (selected_cons ..).trans (Int.add_zero _)
    rw [totals_append, picked_accumulate, inductionHypothesis, selected_append, last]

end Totals

omit [DecidableEq Key] in
/-- Renaming the keys of the entries renames what is picked. -/
theorem picked_rename {Other : Type} (name : Key → Other) (picks : Other → Bool)
    (entries : List (Key × Int)) :
    picked picks (entries.map fun entry => (name entry.1, entry.2)) =
      picked (fun key => picks (name key)) entries := by
  induction entries with
  | nil => rfl
  | cons entry rest inductionHypothesis =>
    rw [List.map_cons, picked_cons, picked_cons, inductionHypothesis]

omit [DecidableEq Key] in
/-- With nonnegative amounts, no entry exceeds a total that it is part of. -/
theorem entry_le_picked {picks : Key → Bool} {entries : List (Key × Int)}
    (nonnegative : ∀ entry ∈ entries, 0 ≤ entry.2) {entry : Key × Int} (member : entry ∈ entries)
    (isPicked : picks entry.1 = true) : entry.2 ≤ picked picks entries := by
  have inside : entry.2 ∈ (entries.filter fun other => picks other.1).map Prod.snd :=
    List.mem_map_of_mem (List.mem_filter.mpr ⟨member, isPicked⟩)
  refine List.single_le_sum (fun amount given => ?_) _ inside
  obtain ⟨other, kept, rfl⟩ := List.mem_map.mp given
  exact nonnegative other (List.mem_filter.mp kept).1

/-! ## Sorting -/

/-- Sorting depends only on the rows when the order is antisymmetric on them. -/
theorem sort_perm {order : Row → Row → Prop} [DecidableRel order] [Std.Total order]
    [IsTrans Row order] {first second : List Row} (same : first.Perm second)
    (antisymmetric : ∀ a ∈ first, ∀ b ∈ first, order a b → order b a → a = b) :
    first.insertionSort order = second.insertionSort order := by
  refine List.Perm.eq_of_pairwise ?_ (List.pairwise_insertionSort order first)
    (List.pairwise_insertionSort order second)
    ((List.perm_insertionSort order first).trans
      (same.trans (List.perm_insertionSort order second).symm))
  intro a b left right
  exact antisymmetric a ((List.mem_insertionSort order).mp left) b
    (same.mem_iff.mpr ((List.mem_insertionSort order).mp right))

end Grouping
