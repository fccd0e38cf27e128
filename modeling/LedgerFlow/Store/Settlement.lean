import LedgerFlow.Store.Conservation
import LedgerFlow.Support.Accounts

/-!
# What a settlement reconciliation leaves

The amounts due and the amounts reported are two accounts over settlement keys. A
reconciliation whose rows have distinct keys leaves the reported rows and the differences
of the two accounts. It reads nothing of earlier reconciliations, since it deletes what
they left before it inserts anything. A repeated key fails the insertion of its second
row, and closing the connection takes the deletions back with it.

A key is stored as text: one with a lone surrogate has no encoding, and its insertion
fails whether or not it is repeated.
-/

namespace LedgerFlow

open PyText PyJson PyDateTime Grouping Programs Programs.Program Accounts

/-! ## The two accounts -/

/-- The amounts that the posted events make due. -/
def due (posted : List PostedRow) : SettlementKey → Int :=
  balance settlementKey settledAmount posted

/-- The amounts that the given rows report. -/
def reported (actual : List SettlementRow) : SettlementKey → Int :=
  balance SettlementRow.key SettlementRow.amountMinor actual

/-- The difference that an exception row states. -/
def SettlementExceptionRow.difference (row : SettlementExceptionRow) : Difference SettlementKey :=
  ⟨row.key, row.expectedMinor, row.actualMinor, row.deltaMinor⟩

/-- The exception row of a difference. -/
def exceptionOf (difference : Difference SettlementKey) : SettlementExceptionRow :=
  ⟨difference.key, difference.expected, difference.actual, difference.delta⟩

/-- An exception row is its difference, with the totals and the reason that follow from it. -/
theorem exception_differences (entries : List (Difference SettlementKey)) :
    (entries.map exceptionOf).map SettlementExceptionRow.difference = entries := by
  rw [List.map_map]
  exact List.map_id entries

/-- The texts of a key can be stored. -/
def EncodableKey (key : SettlementKey) : Prop :=
  Encodable key.1 ∧ Encodable key.2.1 ∧ Encodable key.2.2

instance (key : SettlementKey) : Decidable (EncodableKey key) :=
  inferInstanceAs (Decidable (_ ∧ _))

/-- The keys of posted events can be stored: identifiers and currencies are ASCII. -/
theorem settlement_key_encodable (row : PostedRow) : EncodableKey (settlementKey row) := by
  refine ⟨?_, (identifier_ascii row.processorId).encodable, ?_⟩
  · intro c member
    exact (isoformat_ascii row.eventTime).encodable c (List.mem_of_mem_take member)
  · show Encodable row.currency.text
    cases row.currency <;> decide

/-- The numbers of a reconciliation stay within 64 bits: the running sums of the amounts
due, the amounts reported, every difference, and the total magnitude of the differences. -/
structure SettlementWithin (posted : List PostedRow) (actual : List SettlementRow) : Prop where
  sums : ∀ key, RunningFits 0 ((group settlementKey key posted).map settledAmount)
  amounts : ∀ row ∈ actual, Int64 row.amountMinor
  deltas : ∀ key, Int64 (due posted key - reported actual key)
  magnitude : ∀ entries, Reconciles (due posted) (reported actual) entries →
    Int64 (entries.map fun difference => (difference.delta.natAbs : Int)).sum

/-! ## Sums -/

/-- The last running sum fits with the others, so a sum that is fetched fits. -/
theorem running_fits_sum {total : Int} {values : List Int} (start : Int64 total)
    (fits : RunningFits total values) : Int64 (total + values.sum) := by
  induction values generalizing total with
  | nil => rwa [List.sum_nil, Int.add_zero]
  | cons value rest hypothesis =>
    rw [List.sum_cons, ← Int.add_assoc]
    exact hypothesis fits.1 fits.2

/-- Running sums that never fall fit where the last one does. With amounts of both signs this
fails, so the condition is stated on the running sums. -/
theorem running_fits_rising {total : Int} {values : List Int} (start : 0 ≤ total)
    (rising : ∀ value ∈ values, 0 ≤ value) (fits : Int64 (total + values.sum)) :
    RunningFits total values := by
  induction values generalizing total with
  | nil => trivial
  | cons value rest hypothesis =>
    rw [List.sum_cons, ← Int.add_assoc] at fits
    have first := rising value List.mem_cons_self
    have later : ∀ value ∈ rest, 0 ≤ value := fun value listed =>
      rising value (List.mem_cons_of_mem _ listed)
    have others := List.sum_nonneg later
    have bound := fits.2
    exact ⟨⟨by omega, by omega⟩, hypothesis (by omega) later fits⟩

/-- The amount due is what the expected settlement lists, and zero under a key that it does not
list. -/
theorem expected_lookup (posted : List PostedRow) (key : SettlementKey) :
    (((settlementKeys (posted.map settlementKey)).map fun key =>
      (key, due posted key)).lookup key).getD 0 = due posted key := by
  have keyed : Keyed Prod.fst ((settlementKeys (posted.map settlementKey)).map fun key =>
      (key, due posted key)) := by
    rw [Keyed, List.map_map]
    exact (List.map_id _).symm ▸ settlement_keys_nodup _
  rw [keyed.lookup]
  refine (picked_sums settlementKey settledAmount _ (settlement_keys_nodup _) posted ?_ _).trans rfl
  intro row member
  rw [settlementKeys, List.mem_insertionSort, List.mem_dedup]
  exact List.mem_map_of_mem member

/-- The amount reported is what the dictionary of the given rows lists, as no key is given
twice. -/
theorem actual_lookup {actual : List SettlementRow} (keyed : Keyed SettlementRow.key actual)
    (key : SettlementKey) :
    ((actual.map fun row => (row.key, row.amountMinor)).lookup key).getD 0 =
      reported actual key := by
  have entries : Keyed Prod.fst (actual.map fun row => (row.key, row.amountMinor)) := by
    rw [Keyed, List.map_map]
    exact keyed
  rw [entries.lookup, picked, selected, List.filter_map, List.map_map]
  rfl

/-! ## Insertions -/

/-- The database with these settlement tables. -/
def Database.settling (database : Database) (actual : List SettlementRow)
    (exceptions : List SettlementExceptionRow) : Database :=
  { database with tables := { database.tables with
      settlementActual := actual, settlementException := exceptions } }

/-- Replacing the settlement tables replaces the exceptions by those given. -/
@[simp] theorem settling_exceptions (database : Database) (actual : List SettlementRow)
    (exceptions : List SettlementExceptionRow) :
    (database.settling actual exceptions).tables.settlementException = exceptions := rfl

/-- A given row can be stored. -/
def SettlementRow.Storable (row : SettlementRow) : Prop :=
  EncodableKey row.key ∧ Int64 row.amountMinor

section Insertions

variable {database after : Database} {actual : List SettlementRow}
  {exceptions : List SettlementExceptionRow}

/-- A settlement row is inserted exactly where it fits into its columns and its key is not there
yet; nothing else of the database changes. -/
theorem insert_actual_ok {row : SettlementRow} :
    (Statement.insertSettlementActual row).run (database.settling actual exceptions) = .ok after ↔
      row.Storable ∧ row.key ∉ actual.map SettlementRow.key ∧
        after = database.settling (actual ++ [row]) exceptions := by
  simp only [Statement.run, bind_ok, bind_text_ok, bind_integer_ok, constrained_ok, exists_const]
  simp only [SettlementRow.Storable, EncodableKey, SettlementRow.key, Database.settling, true_and,
    and_assoc]

/-- Inserting the given rows inserts the first and then the rest; a row that cannot be inserted
ends the call. -/
theorem insert_actuals_cons {row : SettlementRow} {rest result : List SettlementRow} :
    within (insertActuals ((row :: rest).map .ok)).run (database.settling actual exceptions) =
        .ok (result, after) ↔
      row.Storable ∧ row.key ∉ actual.map SettlementRow.key ∧ ∃ rows,
        within (insertActuals (rest.map .ok)).run
          (database.settling (actual ++ [row]) exceptions) = .ok (rows, after) ∧
        result = row :: rows := by
  simp only [List.map_cons, insertActuals, within_bind_ok, within_raising_ok, within_execute_ok]
  constructor
  · rintro ⟨_, _, ⟨given, rfl⟩, _, _, execution, rows, middle, inserted, ended⟩
    cases given
    cases ended
    obtain ⟨stored, fresh, rfl⟩ := insert_actual_ok.mp execution
    exact ⟨stored, fresh, rows, inserted, rfl⟩
  · rintro ⟨stored, fresh, rows, inserted, rfl⟩
    exact ⟨row, _, ⟨rfl, rfl⟩, (), _, insert_actual_ok.mpr ⟨stored, fresh, rfl⟩, rows, after,
      inserted, rfl⟩

/-- Inserting the given rows succeeds exactly when they can be stored under new keys that
are distinct. -/
theorem insert_actuals_ok {rows result : List SettlementRow} :
    within (insertActuals (rows.map .ok)).run (database.settling actual exceptions) =
        .ok (result, after) ↔
      (∀ row ∈ rows, row.Storable ∧ row.key ∉ actual.map SettlementRow.key) ∧
        Keyed SettlementRow.key rows ∧ result = rows ∧
        after = database.settling (actual ++ rows) exceptions := by
  induction rows generalizing actual result with
  | nil =>
    rw [List.map_nil, insertActuals, within_pure, List.append_nil, Except.ok.injEq,
      Prod.mk.injEq, eq_comm, @eq_comm _ _ after]
    exact ⟨fun both => ⟨fun _ listed => absurd listed List.not_mem_nil, List.nodup_nil, both⟩,
      fun all => all.2.2⟩
  | cons row rest hypothesis =>
    rw [insert_actuals_cons]
    simp only [hypothesis, List.append_assoc, List.singleton_append]
    constructor
    · rintro ⟨stored, fresh, _, ⟨others, distinct, rfl, rfl⟩, rfl⟩
      refine ⟨fun other listed => ?_, List.nodup_cons.mpr ⟨fun repeated => ?_, distinct⟩, rfl, rfl⟩
      · rcases List.mem_cons.mp listed with rfl | later
        · exact ⟨stored, fresh⟩
        · refine ⟨(others other later).1, fun known => (others other later).2 ?_⟩
          rw [List.map_append]
          exact List.mem_append_left _ known
      · obtain ⟨other, later, same⟩ := List.mem_map.mp repeated
        refine (others other later).2 ?_
        rw [List.map_append, same]
        exact List.mem_append_right _ (List.mem_singleton_self _)
    · rintro ⟨all, distinct, rfl, rfl⟩
      obtain ⟨fresh, others⟩ := List.nodup_cons.mp (distinct : (row.key :: rest.map _).Nodup)
      refine ⟨(all row List.mem_cons_self).1, (all row List.mem_cons_self).2, rest,
        ⟨fun other later => ⟨(all other (List.mem_cons_of_mem _ later)).1, ?_⟩, others, rfl, rfl⟩,
        rfl⟩
      rw [List.map_append, List.mem_append]
      rintro (known | last)
      · exact (all other (List.mem_cons_of_mem _ later)).2 known
      · rw [List.map_singleton, List.mem_singleton] at last
        exact fresh (last ▸ List.mem_map_of_mem later)

/-- A difference can be stored. -/
def StorableDifference (difference : Difference SettlementKey) : Prop :=
  EncodableKey difference.key ∧ Int64 difference.expected ∧ Int64 difference.actual ∧
    Int64 difference.delta

/-- An exception whose key is not there yet is inserted at the end. -/
theorem insert_exception {difference : Difference SettlementKey}
    (stored : StorableDifference difference)
    (fresh : difference.key ∉ exceptions.map SettlementExceptionRow.key) :
    (Statement.insertSettlementException (exceptionOf difference)).run
        (database.settling actual exceptions) =
      .ok (database.settling actual (exceptions ++ [exceptionOf difference])) := by
  obtain ⟨⟨date, processor, currency⟩, expected, reported, delta⟩ := stored
  have numbers : ∀ value ∈ [difference.expected, difference.actual, difference.delta],
      Int64 value := by
    simp only [List.forall_mem_cons]
    exact ⟨expected, reported, delta, fun _ listed => absurd listed List.not_mem_nil⟩
  simp only [Statement.run, bind_ok, bind_text_ok, bind_integers_ok, constrained_ok, exists_const]
  exact ⟨date, processor, currency, numbers, fresh, trivial, rfl⟩

/-- The loop over the keys inserts the differences of the two dictionaries, each under a key of
its own, and skips the keys where there is none. -/
theorem insert_deltas {expected amounts : List (SettlementKey × Int)}
    {left right : SettlementKey → Int} (reads : ∀ key, (expected.lookup key).getD 0 = left key)
    (lists : ∀ key, (amounts.lookup key).getD 0 = right key) {keys : List SettlementKey}
    (stored : ∀ key ∈ keys, StorableDifference (differenceAt left right key))
    (distinct : keys.Nodup)
    (fresh : ∀ key ∈ keys, key ∉ exceptions.map SettlementExceptionRow.key) :
    within (insertDeltas expected amounts keys).run (database.settling actual exceptions) =
      .ok ((), database.settling actual
        (exceptions ++ (differences left right keys).map exceptionOf)) := by
  induction keys generalizing exceptions with
  | nil =>
    rw [insertDeltas, within_pure, differences, List.map_nil, List.filter_nil, List.map_nil,
      List.append_nil]
  | cons key rest hypothesis =>
    obtain ⟨notLater, others⟩ := List.nodup_cons.mp distinct
    have storedRest : ∀ key ∈ rest, StorableDifference (differenceAt left right key) :=
      fun key listed => stored key (List.mem_cons_of_mem _ listed)
    rw [insertDeltas, within_bind_ok]
    by_cases agree : left key - right key = 0
    · have skipped : differences left right (key :: rest) = differences left right rest := by
        rw [differences, List.map_cons, List.filter_cons_of_neg]
        · rfl
        · exact fun wrong => of_decide_eq_true wrong agree
      refine ⟨(), database.settling actual exceptions, ?_, ?_⟩
      · rw [insertDelta, reads, lists, if_pos agree, within_pure]
      · rw [skipped]
        exact hypothesis storedRest others fun key listed =>
          fresh key (List.mem_cons_of_mem _ listed)
    · have kept : differences left right (key :: rest) =
          differenceAt left right key :: differences left right rest := by
        rw [differences, List.map_cons, List.filter_cons_of_pos]
        · rfl
        · exact decide_eq_true agree
      refine ⟨(), database.settling actual
        (exceptions ++ [exceptionOf (differenceAt left right key)]), ?_, ?_⟩
      · rw [insertDelta, reads, lists, if_neg agree, within_execute_ok]
        exact insert_exception (stored key List.mem_cons_self) (fresh key List.mem_cons_self)
      · rw [kept, List.map_cons,
          List.append_cons exceptions _ ((differences left right rest).map exceptionOf)]
        refine hypothesis storedRest others fun other listed => ?_
        rw [List.map_append, List.mem_append]
        rintro (known | last)
        · exact fresh other (List.mem_cons_of_mem _ listed) known
        · rw [List.map_singleton, List.mem_singleton] at last
          have here : other = key := last
          exact notLater (here ▸ listed)

end Insertions

/-! ## The call -/

/-- Inserting the settlement rows stays inside the transaction that it is part of. -/
theorem strict_insert_actuals (actual : List (Py SettlementRow)) :
    Strict Inside (insertActuals actual).run := by
  induction actual with
  | nil => trivial
  | cons row rest hypothesis =>
    exact (strict_raising row).bind fun _ => Strict.bind (strict_execute trivial) fun _ =>
      hypothesis.bind fun _ => strict_pure _

/-- Inserting the differences stays inside the transaction. -/
theorem strict_insert_deltas (expected amounts : List (SettlementKey × Int))
    (keys : List SettlementKey) : Strict Inside (insertDeltas expected amounts keys).run := by
  induction keys with
  | nil => trivial
  | cons key rest hypothesis =>
    refine Strict.bind ?_ fun _ => hypothesis
    unfold insertDelta
    split
    · exact strict_pure _
    · exact strict_execute trivial

/-- The keys that the loop visits. -/
def reconciledKeys (posted : List PostedRow) (actual : List SettlementRow) :
    List SettlementKey :=
  settlementKeys (settlementKeys (posted.map settlementKey) ++ actual.map SettlementRow.key)

/-- The differences that a reconciliation leaves. -/
def settledDifferences (posted : List PostedRow) (actual : List SettlementRow) :
    List (Difference SettlementKey) :=
  differences (due posted) (reported actual) (reconciledKeys posted actual)

section Call

variable {posted : List PostedRow} {actual : List SettlementRow}

/-- The reconciled keys are those of the posted rows and those of the settlement rows. -/
theorem mem_reconciled_keys {key : SettlementKey} : key ∈ reconciledKeys posted actual ↔
    key ∈ posted.map settlementKey ∨ key ∈ actual.map SettlementRow.key := by
  simp only [reconciledKeys, settlementKeys, List.mem_insertionSort, List.mem_dedup,
    List.mem_append]

/-- The differences that are left reconcile the two accounts: added to what is reported they give
what is due, key by key. -/
theorem settled_reconciles :
    Reconciles (due posted) (reported actual) (settledDifferences posted actual) := by
  refine reconciles_differences (settlement_keys_nodup _) fun key other => ?_
  rw [mem_reconciled_keys, not_or] at other
  rw [due, reported, balance_absent other.1, balance_absent other.2]

/-- The numbers stay within 64 bits if they do at the keys that are visited. -/
theorem settlement_within_visited
    (visited : ∀ key ∈ reconciledKeys posted actual,
      RunningFits 0 ((group settlementKey key posted).map settledAmount) ∧
        Int64 (due posted key - reported actual key))
    (amounts : ∀ row ∈ actual, Int64 row.amountMinor)
    (magnitude : Int64 ((settledDifferences posted actual).map fun difference =>
      (difference.delta.natAbs : Int)).sum) : SettlementWithin posted actual where
  sums key := by
    by_cases listed : key ∈ reconciledKeys posted actual
    · exact (visited key listed).1
    · rw [mem_reconciled_keys, not_or] at listed
      have none : group settlementKey key posted = [] := group_nil fun row member same =>
        listed.1 (same ▸ List.mem_map_of_mem member)
      rw [none]
      trivial
  amounts
  deltas key := by
    by_cases listed : key ∈ reconciledKeys posted actual
    · exact (visited key listed).2
    · rw [mem_reconciled_keys, not_or] at listed
      rw [due, reported, balance_absent listed.1, balance_absent listed.2]
      exact ⟨by decide, by decide⟩
  magnitude entries reconciles := by
    rw [((reconciles.perm settled_reconciles).map _).sum_eq]
    exact magnitude

/-- Every visited key's difference can be stored, where the amounts and their difference are
within 64 bits. -/
theorem visited_storable (keyed : Keyed SettlementRow.key actual)
    (encodable : ∀ row ∈ actual, EncodableKey row.key) (fits : SettlementWithin posted actual)
    {key : SettlementKey} (visited : key ∈ reconciledKeys posted actual) :
    StorableDifference (differenceAt (due posted) (reported actual) key) := by
  have zero : Int64 0 := ⟨by decide, by decide⟩
  refine ⟨?_, ?_, ?_, fits.deltas key⟩
  · rcases mem_reconciled_keys.mp visited with left | right
    · obtain ⟨row, _, rfl⟩ := List.mem_map.mp left
      exact settlement_key_encodable row
    · obtain ⟨row, member, rfl⟩ := List.mem_map.mp right
      exact encodable row member
  · have sum := running_fits_sum zero (fits.sums key)
    rwa [Int.zero_add] at sum
  · by_cases listed : key ∈ actual.map SettlementRow.key
    · obtain ⟨row, member, rfl⟩ := List.mem_map.mp listed
      show Int64 (reported actual row.key)
      rw [reported, balance_row keyed member]
      exact fits.amounts row member
    · show Int64 (reported actual key)
      rw [reported, balance_absent listed]
      exact zero

/-- The result of a reconciliation. -/
def reconciliationOf (entries : List (Difference SettlementKey)) : Reconciliation :=
  ⟨decide (entries.length = 0), entries.length,
    (entries.map fun difference => (difference.delta.natAbs : Int)).sum⟩

/-- The deletions open a transaction in which both tables are empty, so that nothing of an earlier
reconciliation is left. -/
theorem eval_deletions {database : Database} {next : Sql Reconciliation} :
    (execute .deleteSettlementActual >>= fun _ =>
        execute .deleteSettlementException >>= fun _ => next).run.eval perform database.opened =
      next.run.eval perform ⟨database, some (database.settling [] []), []⟩ := by
  have first : (execute .deleteSettlementActual).run.eval perform database.opened =
      (.ok (), ⟨database, some (database.settling [] database.tables.settlementException), []⟩) :=
    eval_execute rfl
  have second : (execute .deleteSettlementException).run.eval perform
      ⟨database, some (database.settling [] database.tables.settlementException), []⟩ =
        (.ok (), ⟨database, some (database.settling [] []), []⟩) :=
    eval_execute rfl
  rw [Fallible.eval_bind_ok first, Fallible.eval_bind_ok second]

/-- The total magnitude of the differences that are left is fetched: its running sums never fall,
so they fit where the total does. -/
theorem settled_magnitude {database : Database}
    (fits : SettlementWithin posted actual) :
    Query.run (database.settling actual ((settledDifferences posted actual).map exceptionOf))
        .settlementAbsoluteDelta =
      .ok ((settledDifferences posted actual).map fun difference =>
        (difference.delta.natAbs : Int)).sum := by
  have absolute : (database.settling actual ((settledDifferences posted actual).map
      exceptionOf)).tables.settlementException.map (fun row => (row.deltaMinor.natAbs : Int)) =
        (settledDifferences posted actual).map fun difference =>
          (difference.delta.natAbs : Int) := List.map_map ..
  have total := fits.magnitude _ settled_reconciles
  show sqlSum ((database.settling actual ((settledDifferences posted actual).map
    exceptionOf)).tables.settlementException.map fun row => (row.deltaMinor.natAbs : Int)) = _
  rw [absolute]
  refine sql_sum_ok.mpr ⟨running_fits_rising (le_refl 0) ?_ (by rwa [Int.zero_add]), rfl⟩
  intro value listed
  obtain ⟨_, _, rfl⟩ := List.mem_map.mp listed
  exact Int.natCast_nonneg _

/-- The keys of the two dictionaries are those that the loop visits, each once and in order. -/
theorem dictionary_keys (posted : List PostedRow) (actual : List SettlementRow) :
    settlementKeys (((settlementKeys (posted.map settlementKey)).map fun key =>
        (key, due posted key)).map Prod.fst ++
      (actual.map fun row => (row.key, row.amountMinor)).map Prod.fst) =
        reconciledKeys posted actual := by
  rw [List.map_map, List.map_map]
  exact congrArg (fun keys => settlementKeys (keys ++ _)) (List.map_id _)

/-- A reconciliation of rows with distinct keys commits the given rows and the
differences. -/
theorem reconcile_settlement_ok {database : Database}
    (keyed : Keyed SettlementRow.key actual)
    (encodable : ∀ row ∈ actual, EncodableKey row.key)
    (fits : SettlementWithin database.tables.postedEvent actual) :
    (reconcileSettlement (actual.map .ok)).run.eval perform database.opened =
      (.ok (reconciliationOf (settledDifferences database.tables.postedEvent actual)),
        ⟨database.settling actual
          ((settledDifferences database.tables.postedEvent actual).map exceptionOf), none,
          [.settlement]⟩) := by
  let posted := database.tables.postedEvent
  let entries := settledDifferences posted actual
  let expected := (settlementKeys (posted.map settlementKey)).map fun key => (key, due posted key)
  let left := database.settling actual (entries.map exceptionOf)
  have inserted : (insertActuals (actual.map .ok)).run.eval perform
      ⟨database, some (database.settling [] []), []⟩ =
        (.ok actual, ⟨database, some (database.settling actual []), []⟩) := by
    refine (eval_within (strict_insert_actuals _) _ rfl).1 actual _ (insert_actuals_ok.mpr
      ⟨fun row member => ⟨⟨encodable row member, fits.amounts row member⟩, List.not_mem_nil⟩,
        keyed, rfl, rfl⟩)
  have selected : (select .expectedSettlement).run.eval perform
      ⟨database, some (database.settling actual []), []⟩ =
        (.ok expected, ⟨database, some (database.settling actual []), []⟩) :=
    eval_select (group_sums_ok.mpr ⟨fun key _ => fits.sums key, rfl⟩)
  have compared : (insertDeltas expected (actual.map fun row => (row.key, row.amountMinor))
      (reconciledKeys posted actual)).run.eval perform
        ⟨database, some (database.settling actual []), []⟩ =
          (.ok (), ⟨database, some left, []⟩) := by
    refine (eval_within (strict_insert_deltas _ _ _) _ rfl).1 () _ ?_
    exact insert_deltas (expected_lookup posted) (actual_lookup keyed)
      (fun key visited => visited_storable keyed encodable fits visited)
      (settlement_keys_nodup _) fun _ _ => List.not_mem_nil
  have counts : (select .settlementExceptionCount).run.eval perform ⟨left, none, [.settlement]⟩ =
      (.ok entries.length, ⟨left, none, [.settlement]⟩) :=
    eval_select (congrArg Except.ok (List.length_map _))
  have totals : (select .settlementAbsoluteDelta).run.eval perform ⟨left, none, [.settlement]⟩ =
      (.ok _, ⟨left, none, [.settlement]⟩) := eval_select (settled_magnitude fits)
  have body : (runReconciliation (actual.map .ok)).run.eval perform database.opened =
      (.ok (reconciliationOf entries), ⟨left, none, [.settlement]⟩) := by
    rw [runReconciliation, eval_deletions, Fallible.eval_bind_ok inserted,
      Fallible.eval_bind_ok selected]
    dsimp only
    rw [dictionary_keys, Fallible.eval_bind_ok compared, Fallible.eval_bind_ok eval_commit,
      Fallible.eval_bind_ok counts, Fallible.eval_bind_ok totals]
    rfl
  exact eval_with_connection database.opened body

/-- A repeated key fails the call and leaves the database as it was. -/
theorem reconcile_settlement_repeated {database : Database}
    (repeated : ¬ Keyed SettlementRow.key actual) :
    ∃ error, (reconcileSettlement (actual.map .ok)).run.eval perform database.opened =
      (.error error, database.opened) := by
  cases outcome : within (insertActuals (actual.map .ok)).run (database.settling [] []) with
  | ok reached =>
    obtain ⟨result, after⟩ := reached
    exact absurd (insert_actuals_ok.mp outcome).2.1 repeated
  | error error =>
    obtain ⟨middle, raised⟩ := (eval_within (strict_insert_actuals (actual.map .ok))
      ⟨database, some (database.settling [] []), []⟩ rfl).2 error outcome
    have body : (runReconciliation (actual.map .ok)).run.eval perform database.opened =
        (.error error, ⟨database, some middle, []⟩) := by
      rw [runReconciliation, eval_deletions, Fallible.eval_bind_error raised]
    exact ⟨error, eval_with_connection database.opened body⟩

end Call

/-! ## Every reconciliation -/

/-- The databases that earlier reconciliations leave: any number of calls, each abandoned
at any point or run to its end, with any errors on the way. -/
inductive Rereconciled (database : Database) : Database → Prop
  | refl : Rereconciled database database
  | again {middle : Database} {after : Store}
      {rest : Program SqlCall (Answer PyError SqlCall.Rows) (Except PyError Reconciliation)}
      (actual : List (Py SettlementRow)) (earlier : Rereconciled database middle)
      (run : Runs storeEffect (middle.opened, (reconcileSettlement actual).run) (after, rest)) :
      Rereconciled database after.durable

/-- Earlier reconciliations touch the settlement tables only, so what is due is the same. -/
theorem rereconciled_core {database earlier : Database}
    (rereconciled : Rereconciled database earlier) : earlier.core = database.core := by
  induction rereconciled with
  | refl => rfl
  | again actual _ run hypothesis => exact (reconcile_core run).trans hypothesis

/-- What a reconciliation of the given rows returns and leaves. -/
structure Settled (posted : List PostedRow) (actual : List SettlementRow)
    (result : Reconciliation) (tables : Tables) : Prop where
  actualRows : tables.settlementActual = actual
  exceptions : Reconciles (due posted) (reported actual)
    (tables.settlementException.map SettlementExceptionRow.difference)
  passes : result.settlementReconciled = true ↔ ∀ key, due posted key = reported actual key
  madeUp : ∀ key, due posted key = reported actual key +
    balance SettlementExceptionRow.key SettlementExceptionRow.deltaMinor
      tables.settlementException key

/-- The committed differences are settled: they reconcile the accounts, and there is none exactly
where the accounts agree. -/
theorem settled_outcome (database : Database) (actual : List SettlementRow) :
    Settled database.tables.postedEvent actual
      (reconciliationOf (settledDifferences database.tables.postedEvent actual))
      (database.settling actual ((settledDifferences database.tables.postedEvent actual).map
        exceptionOf)).tables := by
  have reconciles := @settled_reconciles database.tables.postedEvent actual
  refine ⟨rfl, ?_, ?_, fun key => (reconciles.made_up key).trans ?_⟩
  · rw [settling_exceptions, exception_differences]
    exact reconciles
  · rw [reconciliationOf, decide_eq_true_eq, List.length_eq_zero_iff]
    exact reconciles.nil_iff
  · rw [settling_exceptions, balance, balance, group, group, List.filter_map, List.map_map]
    rfl

/-- An entry of the expected settlement, as a given row. -/
def actualRow (entry : SettlementKey × Int) : SettlementRow :=
  ⟨entry.1.1, entry.1.2.1, entry.1.2.2, entry.2⟩

/-- The expected settlement, as given rows. -/
def ownRows (posted : List PostedRow) : List SettlementRow :=
  (settlementKeys (posted.map settlementKey)).map fun key => actualRow (key, due posted key)

section Own

variable {posted : List PostedRow}

/-- The rows that agree with the posted ones have their keys, each once. -/
theorem own_rows_keys (posted : List PostedRow) :
    (ownRows posted).map SettlementRow.key = settlementKeys (posted.map settlementKey) := by
  rw [ownRows, List.map_map]
  exact List.map_id _

/-- No key occurs twice among the rows that report what is due. -/
theorem own_rows_keyed (posted : List PostedRow) : Keyed SettlementRow.key (ownRows posted) := by
  rw [Keyed, own_rows_keys]
  exact settlement_keys_nodup _

/-- The expected settlement reports what is due, under every key. -/
theorem own_rows_reported (key : SettlementKey) :
    reported (ownRows posted) key = due posted key := by
  by_cases listed : key ∈ settlementKeys (posted.map settlementKey)
  · have member : actualRow (key, due posted key) ∈ ownRows posted :=
      List.mem_map_of_mem listed
    exact balance_row (own_rows_keyed posted) member
  · have absent : key ∉ (ownRows posted).map SettlementRow.key := by rwa [own_rows_keys]
    rw [settlementKeys, List.mem_insertionSort, List.mem_dedup] at listed
    rw [reported, due, balance_absent absent, balance_absent listed]

/-- The keys of these rows are encodable: an accepted event has identifiers, which are ASCII. -/
theorem own_rows_encodable : ∀ row ∈ ownRows posted, EncodableKey row.key := by
  intro row member
  obtain ⟨key, listed, rfl⟩ := List.mem_map.mp member
  rw [settlementKeys, List.mem_insertionSort, List.mem_dedup] at listed
  obtain ⟨event, _, rfl⟩ := List.mem_map.mp listed
  exact settlement_key_encodable event

/-- The expected settlement fits with its sums, and its differences are zero. -/
theorem own_rows_within
    (sums : ∀ key, RunningFits 0 ((group settlementKey key posted).map settledAmount)) :
    SettlementWithin posted (ownRows posted) where
  sums
  amounts row member := by
    obtain ⟨key, _, rfl⟩ := List.mem_map.mp member
    have total := running_fits_sum ⟨by decide, by decide⟩ (sums key)
    rwa [Int.zero_add] at total
  deltas key := by
    rw [own_rows_reported, sub_self]
    exact ⟨by decide, by decide⟩
  magnitude entries reconciles := by
    rw [reconciles.nil_iff.mpr fun key => (own_rows_reported key).symm]
    exact ⟨by decide, by decide⟩

end Own

/-- Settlement is reconciled exactly. In every database, and after any earlier
reconciliations, a call with distinct keys whose texts can be encoded and whose numbers
fit leaves the given rows and the differences between what is due and what is reported,
and passes exactly when there is none. A call with a repeated key raises and changes
nothing. The expected settlement passes its own reconciliation. -/
theorem settlement_reconciliation {database : Database} :
    (∀ actual : List SettlementRow, Keyed SettlementRow.key actual →
      (∀ row ∈ actual, EncodableKey row.key) →
      SettlementWithin database.tables.postedEvent actual →
      ∃ result settled, Settled database.tables.postedEvent actual result settled.tables ∧
        settled.core = database.core ∧
        ∀ earlier, Rereconciled database earlier →
          (reconcileSettlement (actual.map .ok)).run.eval perform earlier.opened =
            (.ok result, ⟨settled, none, [.settlement]⟩)) ∧
    (∀ actual : List SettlementRow, ¬ Keyed SettlementRow.key actual →
      ∃ error, (reconcileSettlement (actual.map .ok)).run.eval perform database.opened =
        (.error error, database.opened)) ∧
    (SettlementFits database.tables →
      ∃ entries result after,
        (expectedSettlement.run.eval perform database.opened).1 = .ok entries ∧
        (reconcileSettlement ((entries.map actualRow).map .ok)).run.eval perform database.opened =
          (.ok result, after) ∧
        result.settlementReconciled = true ∧ after.durable.tables.settlementException = []) := by
  refine ⟨fun actual keyed encodable fits => ?_,
    fun actual repeated => reconcile_settlement_repeated repeated, fun sums => ?_⟩
  · refine ⟨_, _, settled_outcome database actual, rfl, fun earlier rereconciled => ?_⟩
    have core := rereconciled_core rereconciled
    have posted : earlier.tables.postedEvent = database.tables.postedEvent := by
      show earlier.core.tables.postedEvent = database.core.tables.postedEvent
      rw [core]
    have left (exceptions : List SettlementExceptionRow) :
        earlier.settling actual exceptions = database.settling actual exceptions := by
      show earlier.core.settling actual exceptions = database.core.settling actual exceptions
      rw [core]
    rw [reconcile_settlement_ok keyed encodable (posted.symm ▸ fits), posted, left]
  · let posted := database.tables.postedEvent
    have rows : ((settlementKeys (posted.map settlementKey)).map fun key =>
        (key, due posted key)).map actualRow = ownRows posted := List.map_map ..
    have settled := settled_outcome database (ownRows posted)
    have agree : ∀ key, due posted key = reported (ownRows posted) key := fun key =>
      (own_rows_reported key).symm
    have passed := reconcile_settlement_ok (own_rows_keyed posted) own_rows_encodable
      (own_rows_within sums)
    rw [← rows] at passed
    exact ⟨_, _, _, expected_settlement_sums sums, passed, rows ▸ settled.passes.mpr agree,
      List.map_eq_nil_iff.mp (rows ▸ settled.exceptions.nil_iff.mpr agree)⟩

/-! ## Samples -/

/-- A row whose processor is a lone surrogate. -/
def surrogateRow : SettlementRow := ⟨str "2026-01-01", [0xD800], str "INR", 5⟩

/-- No key repeats and every number fits, and the call raises: a lone surrogate in a key cannot be
encoded for SQLite. -/
theorem surrogate_key_raises : Reachable emptyDatabase none ∧
    Keyed SettlementRow.key [surrogateRow] ∧ SettlementWithin [] [surrogateRow] ∧
      ∃ after, (reconcileSettlement [.ok surrogateRow]).run.eval perform emptyDatabase.opened =
          (.error .unicodeEncode, after) ∧
        after.durable.tables.settlementActual = [] :=
  ⟨.empty, List.nodup_singleton _,
    settlement_within_visited (by decide +kernel) (by decide) (by decide +kernel), _, rfl, rfl⟩

/-- A row that reports what is not due. -/
def undueRow : SettlementRow := ⟨str "2026-01-01", str "processor-01", str "INR", 5⟩

/-- A row that nothing is due for is left as the one exception of an empty store. -/
theorem undue_row_settled : ∃ result, ∃ settled : Database,
    Settled [] [undueRow] result settled.tables ∧ result.settlementReconciled = false := by
  obtain ⟨result, settled, outcome, _, _⟩ :=
    (@settlement_reconciliation emptyDatabase).1 [undueRow] (List.nodup_singleton _)
      (fun row member => List.mem_singleton.mp member ▸ by decide)
      (settlement_within_visited (by decide +kernel) (by decide) (by decide +kernel))
  refine ⟨result, settled, outcome, Bool.eq_false_iff.mpr fun passes => ?_⟩
  have agree := outcome.passes.mp passes undueRow.key
  revert agree
  decide +kernel

end LedgerFlow
