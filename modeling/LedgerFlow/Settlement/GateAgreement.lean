import LedgerFlow.Spark.Refinement
import LedgerFlow.Store.Settlement
import LedgerFlow.Settlement.Exceptions
import LedgerFlow.Settlement.Evidence

/-!
# The two settlement gates

The store compares two dictionaries over all dates; the Spark job joins the groups of one
date with the file of that date and fills what is missing with zero. For a history in UTC,
a date and a file that passes validation for it, both list the same differences of that
date. The keys of both sides correspond, and at corresponding keys both have the same
expected and the same actual amount.
-/

namespace LedgerFlow.Settlement

open PyText PyJson PyBytes PyDateTime Grouping Dataframe Spark Accounts Programs

/-! ## Keys and rows of the store -/

/-- The settlement key of the store. -/
def coreKey (key : SettlementKey) : LedgerFlow.SettlementKey :=
  ((key.1.map Date.text).getD [], key.2.1.getD [], key.2.2.getD [])

/-- A record as the store is given it. -/
def coreRow (record : SettlementRecord) : SettlementRow :=
  ⟨(coreKey record.key).1, (coreKey record.key).2.1, (coreKey record.key).2.2,
    record.amountMinor.getD 0⟩

/-- The rows of a file as the store is given them. -/
def coreRows (library : Library) (data : Bytes) : List SettlementRow :=
  (library.readRecords data).map coreRow

/-- The exception row of the warehouse. -/
def warehouseException (date : Date) (row : LedgerFlow.SettlementExceptionRow) :
    SettlementExceptionRow :=
  ⟨some date, some row.key.2.1, some row.key.2.2, row.expectedMinor, row.actualMinor,
    row.deltaMinor⟩

/-- A key without nulls whose date has a year of four digits. -/
def PlainKey (key : SettlementKey) : Prop :=
  ∃ (date : Date) (processor currency : Str),
    key = (some date, some processor, some currency) ∧ date.year ≤ 9999

/-- Plain keys that are one key of the store are one key of the warehouse: a date is determined by
its text and, for plain keys, so are the processor and the currency. -/
theorem core_key_inj {first second : SettlementKey} (left : PlainKey first)
    (right : PlainKey second) (same : coreKey first = coreKey second) : first = second := by
  obtain ⟨date, processor, currency, rfl, year⟩ := left
  obtain ⟨otherDate, otherProcessor, otherCurrency, rfl, otherYear⟩ := right
  obtain ⟨dates, names⟩ := Prod.ext_iff.mp same
  have days : date = otherDate := date_text_inj year otherYear dates
  have others : (processor, currency) = (otherProcessor, otherCurrency) := names
  rw [days, Prod.mk.inj others |>.1, Prod.mk.inj others |>.2]

/-- A plain key is of the date that its text names, so that filtering by the warehouse's date and
filtering by the store's text keep the same keys. The year is at most 9999, where texts and dates
correspond. -/
theorem core_key_dated {key : SettlementKey} (plain : PlainKey key) {date : Date}
    (year : date.year ≤ 9999) : (coreKey key).1 = date.text ↔ key.1 = some date := by
  obtain ⟨own, processor, currency, rfl, ownYear⟩ := plain
  constructor
  · exact fun named => congrArg some (date_text_inj ownYear year named)
  · exact fun dated => congrArg Date.text (Option.some.inj dated)

/-- The keys of a file as the store is given them are the keys that Spark reads, each written the
store's way. -/
theorem given_keys (library : Library) (data : Bytes) :
    (coreRows library data).map SettlementRow.key =
      ((fileRows library data).map EvidenceRow.key).map coreKey := by
  simp only [coreRows, fileRows, List.map_map]
  rfl

/-! ## Posted events -/

section Posted

variable {accepted : List PaymentEvent}

/-- No valid transaction has an exception, so the anti-join of the settlement job against the
exceptions that the reconstruction made removes nothing of the valid monetary rows. -/
theorem posted_without_exceptions (rows : List AcceptedEventRow) :
    leftAnti AcceptedEventRow.transactionId
      ((reconstruct rows).2.map BusinessExceptionRow.transactionId) (validMonetary rows) =
        validMonetary rows := by
  refine left_anti_all fun row member listed => ?_
  obtain ⟨exception, inside, same⟩ := List.mem_map.mp listed
  have failed : exception.event ∈ (reconstruct rows).2.map BusinessExceptionRow.event :=
    List.mem_map_of_mem inside
  rw [reconstruct_exception_events] at failed
  have fails := of_decide_eq_true (List.mem_filter.mp failed).2
  have passes := of_decide_eq_true (List.mem_filter.mp (List.mem_filter.mp member).1).2
  rw [← same] at passes
  exact fails passes

/-- A posted row is that of an accepted event, by the classification of the history that the
warehouse reads. -/
theorem posted_source {row : AcceptedEventRow}
    (member : row ∈ validMonetary (accepted.map acceptedRow)) :
    ∃ event ∈ accepted, acceptedRow event = row :=
  List.mem_map.mp (List.mem_filter.mp (List.mem_filter.mp member).1).1

/-- An event in UTC has one settlement key: its business date is the day of its time in both
implementations. -/
theorem posted_key {row : AcceptedEventRow} (utc : row.eventTime.offset = 0) :
    settlementKey (corePosted row) = coreKey (postedKey row) := by
  have dated : row.eventTime.isoformat.take 10 = row.eventTime.utcDate.text := by
    rw [isoformat_date, utc_date_of_utc utc]
  show (row.eventTime.isoformat.take 10, row.processorId.1, row.currency.text) =
    (row.eventTime.utcDate.text, row.processorId.1, row.currency.text)
  rw [dated]

/-- A storable event adds the same amount to what is due on both sides: its bigint column holds
its amount, with the sign that the two implementations give its type. -/
theorem settled_column {event : PaymentEvent} (storable : Storable event) :
    settledColumn (acceptedRow event) = settledAmount (corePosted (acceptedRow event)) := by
  have minor := (accepted_row_columns storable).2
  have positive := event.amountPositive
  have range := storable.2
  unfold Int64 at range
  have negated : bigint (-event.amountMinor) = -event.amountMinor :=
    bigint_of_fits (by omega) (by omega)
  simp only [settledColumn, settledAmount, corePosted, minor, negated]
  cases kind : (acceptedRow event).eventType <;> rfl

variable (storable : ∀ event ∈ accepted, Storable event)
variable (fits : ∀ id ∈ transactionIds accepted,
  SumsFit (group PaymentEvent.transactionId id accepted))
variable (utc : ∀ event ∈ accepted, event.eventTime.offset = 0)

include utc in
/-- Every key of the posted events is plain, because an accepted event has a date with a year of
four digits, a processor and a currency. -/
theorem posted_plain {key : SettlementKey}
    (named : key ∈ (validMonetary (accepted.map acceptedRow)).map postedKey) : PlainKey key := by
  obtain ⟨row, member, rfl⟩ := List.mem_map.mp named
  obtain ⟨event, inside, rfl⟩ := posted_source member
  have year : event.eventTime.utcDate.year ≤ 9999 := by
    rw [utc_date_of_utc (utc event inside)]
    exact event.eventTime.yearRange.2
  exact ⟨_, _, _, rfl, year⟩

include storable fits utc

/-- The store visits the keys of the warehouse's posted events, in another order perhaps: the two
implementations post the same events and key them alike. -/
theorem posted_keys : (((validMonetary (accepted.map acceptedRow)).map postedKey).map coreKey).Perm
    ((projectAll shippedRules accepted).posted.map settlementKey) := by
  have keys : ((validMonetary (accepted.map acceptedRow)).map postedKey).map coreKey =
      ((validMonetary (accepted.map acceptedRow)).map corePosted).map settlementKey := by
    rw [List.map_map, List.map_map]
    refine List.map_congr_left fun row member => ?_
    obtain ⟨event, inside, rfl⟩ := posted_source member
    exact (posted_key (utc event inside)).symm
  rw [keys]
  exact (posted_refine storable fits).map settlementKey

/-- At a plain key the store expects what the posted events of the warehouse add up to. -/
theorem due_posted {key : SettlementKey} (plain : PlainKey key) :
    due (projectAll shippedRules accepted).posted (coreKey key) =
      balance postedKey settledColumn (validMonetary (accepted.map acceptedRow)) key := by
  rw [due, ← balance_perm (posted_refine storable fits), balance_map]
  refine balance_rename ?_ ?_ ?_
  · intro row member
    obtain ⟨event, inside, rfl⟩ := posted_source member
    exact posted_key (utc event inside)
  · intro row member
    obtain ⟨event, inside, rfl⟩ := posted_source member
    exact (settled_column (storable event inside)).symm
  · intro row member
    exact core_key_inj (posted_plain utc (List.mem_map_of_mem member)) plain

end Posted

/-! ## The full join -/

/-- The keys of a full join. -/
def joinedKeys (keys : List SettlementKey) (actual : List EvidenceRow) : List SettlementKey :=
  keys ++ (leftAnti EvidenceRow.key keys actual).map EvidenceRow.key

/-- The keys of a full outer join are those that either side has, each once. -/
theorem mem_joined_keys {keys : List SettlementKey} {actual : List EvidenceRow}
    {key : SettlementKey} :
    key ∈ joinedKeys keys actual ↔ key ∈ keys ∨ key ∈ actual.map EvidenceRow.key :=
  mem_anti_keys

/-- The amount of a file's row, zero where it is null. -/
def actualMinor (row : EvidenceRow) : Int := row.amountMinor.getD 0

/-- Joined with a file of distinct keys, every key has one row, with its amounts of both
sides. -/
theorem full_join_keys {keys : List SettlementKey} {expected : SettlementKey → Int}
    {actual : List EvidenceRow} (keyed : Keyed EvidenceRow.key actual)
    (covered : ∀ key, key ∉ keys → key ∈ actual.map EvidenceRow.key → expected key = 0) :
    fullJoin (keys.map fun key => (key, some (expected key))) actual =
      (joinedKeys keys actual).map fun key =>
        exceptionRowOf key (some (expected key)) (some (balance EvidenceRow.key actualMinor
          actual key)) := by
  have left : (keys.map fun key => (key, some (expected key))).map Prod.fst = keys := by
    rw [List.map_map]
    exact List.map_id keys
  rw [fullJoin, left, joinedKeys, List.map_append, List.map_map]
  congr 1
  · rw [List.flatMap_map, List.map_eq_flatMap]
    refine List.flatMap_congr fun key _ => ?_
    cases found : group EvidenceRow.key key actual with
    | nil =>
      have absent : balance EvidenceRow.key actualMinor actual key = 0 := by
        rw [balance, found]
        rfl
      simp only [found, absent]
      rfl
    | cons row rest =>
      have listed : row ∈ group EvidenceRow.key key actual := found ▸ List.mem_cons_self
      obtain ⟨member, rfl⟩ := mem_group.mp listed
      have single := keyed.group_eq member
      simp only [single, balance_row keyed member]
      rfl
  · refine List.map_congr_left fun row inside => ?_
    obtain ⟨member, unlisted⟩ := mem_left_anti.mp inside
    simp only [Function.comp_apply]
    rw [covered _ unlisted (List.mem_map_of_mem member), balance_row keyed member]
    rfl

/-! ## One date -/

/-- The exceptions that the store has of a date. -/
def settledOn (date : Date) (rows : List LedgerFlow.SettlementExceptionRow) :
    List LedgerFlow.SettlementExceptionRow :=
  rows.filter fun row => decide (row.key.1 = date.text)

/-- The keys of a date's posted events. -/
def expectedKeys (date : Date) (rows : List AcceptedEventRow) : List SettlementKey :=
  keysOf postedKey (rows.filter (touchedOn (some date)))

/-- The expected keys of a date are those of the posted rows on that date. -/
theorem mem_expected_keys {date : Date} {rows : List AcceptedEventRow} {key : SettlementKey} :
    key ∈ expectedKeys date rows ↔ key.1 = some date ∧ key ∈ rows.map postedKey := by
  simp only [expectedKeys, keysOf, List.mem_dedup, List.mem_map, List.mem_filter]
  constructor
  · rintro ⟨row, ⟨member, touched⟩, rfl⟩
    exact ⟨congrArg some (of_decide_eq_true touched), row, member, rfl⟩
  · rintro ⟨dated, row, member, rfl⟩
    exact ⟨row, ⟨member, decide_eq_true (Option.some.inj dated)⟩, rfl⟩

/-- The rows with a key are those of the key's date that have it, so that the job, which groups
the rows of one date only, forms the groups of the whole table. -/
theorem group_touched {date : Date} {key : SettlementKey} (dated : key.1 = some date)
    (rows : List AcceptedEventRow) :
    group postedKey key (rows.filter (touchedOn (some date))) = group postedKey key rows := by
  rw [group, List.filter_filter, group]
  refine List.filter_congr fun row _ => ?_
  by_cases same : postedKey row = key
  · have touched : touchedOn (some date) row = true := by
      rw [← same] at dated
      exact decide_eq_true (Option.some.inj dated)
    rw [touched, Bool.and_true]
  · rw [decide_eq_false same, Bool.false_and]

/-- A file of a date has plain keys of this date: its rows have no null in their keys and the date
of the file. -/
theorem file_key_plain {date : Date} {rows : List EvidenceRow} (file : DatedFile date rows)
    (year : date.year ≤ 9999) {row : EvidenceRow} (member : row ∈ rows) :
    PlainKey row.key ∧ row.key.1 = some date := by
  have dated : row.key.1 = some date := file.dated row member
  refine ⟨?_, dated⟩
  have complete := file.complete row member
  simp only [SettlementKey.complete, Bool.and_eq_true, Option.isSome_iff_exists] at complete
  obtain ⟨⟨_, processor, processorHeld⟩, currency, currencyHeld⟩ := complete
  exact ⟨date, processor, currency, Prod.ext dated (Prod.ext processorHeld currencyHeld), year⟩

section Day

variable {library : Library} {data : Bytes} {date : Date} {accepted : List PaymentEvent}
variable (file : DatedFile date (fileRows library data)) (year : date.year ≤ 9999)
variable (storable : ∀ event ∈ accepted, Storable event)
variable (fits : ∀ id ∈ transactionIds accepted,
  SumsFit (group PaymentEvent.transactionId id accepted))
variable (utc : ∀ event ∈ accepted, event.eventTime.offset = 0)

include storable fits utc in
/-- The groups that the job expects for a date are the keys of this date with what the store finds
due under each. The sums fit in 64 bits, where Spark's bigint is the store's integer. -/
theorem expected_settlement_day
    (sums : ∀ key, Int64 (due (projectAll shippedRules accepted).posted key)) :
    expectedSettlement (validMonetary (accepted.map acceptedRow))
        (reconstruct (accepted.map acceptedRow)).2 (some date) =
      (expectedKeys date (validMonetary (accepted.map acceptedRow))).map fun key =>
        (key, some (due (projectAll shippedRules accepted).posted (coreKey key))) := by
  simp only [expectedSettlement, posted_without_exceptions]
  refine List.map_congr_left fun key listed => ?_
  obtain ⟨dated, named⟩ := mem_expected_keys.mp listed
  have total := due_posted storable fits utc (posted_plain utc named)
  have nonempty : group postedKey key (validMonetary (accepted.map acceptedRow)) ≠ [] := by
    obtain ⟨row, member, rfl⟩ := List.mem_map.mp named
    exact List.ne_nil_of_mem (mem_group.mpr ⟨member, rfl⟩)
  rw [balance] at total
  obtain ⟨low, high⟩ := sums (coreKey key)
  rw [group_touched dated, sum_of_all nonempty, ← total, bigint_of_fits low high]

include file year

/-- At a key of the date the store is given what the file reports. -/
theorem reported_file {key : SettlementKey} (plain : PlainKey key) :
    reported (coreRows library data) (coreKey key) =
      balance EvidenceRow.key actualMinor (fileRows library data) key := by
  rw [reported, coreRows, balance_map, fileRows, balance_map]
  refine balance_rename (fun _ _ => rfl) (fun _ _ => rfl) fun record member => ?_
  exact core_key_inj (file_key_plain file year (List.mem_map_of_mem member)).1 plain

include utc

/-- Every key that the job joins is plain and of the requested date, whichever of the two sides it
came from. -/
theorem joined_plain {key : SettlementKey} (listed : key ∈ joinedKeys
    (expectedKeys date (validMonetary (accepted.map acceptedRow))) (fileRows library data)) :
    PlainKey key ∧ key.1 = some date := by
  rcases mem_joined_keys.mp listed with left | right
  · obtain ⟨dated, named⟩ := mem_expected_keys.mp left
    exact ⟨posted_plain utc named, dated⟩
  · obtain ⟨row, member, rfl⟩ := List.mem_map.mp right
    exact file_key_plain file year member

include storable fits

/-- The exceptions that the job lists are the differences of the two accounts at the joined keys:
a key whose two sums agree gives none. Sums and differences fit in 64 bits. -/
theorem settlement_exceptions_day
    (within : SettlementWithin (projectAll shippedRules accepted).posted
      (coreRows library data)) :
    let posted := (projectAll shippedRules accepted).posted
    let rows := validMonetary (accepted.map acceptedRow)
    settlementExceptions (expectedSettlement rows (reconstruct (accepted.map acceptedRow)).2
        (some date)) (fileRows library data) =
      ((differences (due posted) (reported (coreRows library data))
        ((joinedKeys (expectedKeys date rows) (fileRows library data)).map coreKey)).map
          exceptionOf).map (warehouseException date) := by
  intro posted rows
  have sums (key : LedgerFlow.SettlementKey) : Int64 (due posted key) := by
    have total := running_fits_sum ⟨by decide, by decide⟩ (within.sums key)
    rwa [Int.zero_add] at total
  have covered (key : SettlementKey) (unlisted : key ∉ expectedKeys date rows)
      (given : key ∈ (fileRows library data).map EvidenceRow.key) :
      due posted (coreKey key) = 0 := by
    obtain ⟨row, member, rfl⟩ := List.mem_map.mp given
    obtain ⟨plain, dated⟩ := file_key_plain file year member
    rw [due_posted storable fits utc plain]
    exact balance_absent fun named => unlisted (mem_expected_keys.mpr ⟨dated, named⟩)
  have rowsOf : fullJoin ((expectedKeys date rows).map fun key =>
      (key, some (due posted (coreKey key)))) (fileRows library data) =
        ((((joinedKeys (expectedKeys date rows) (fileRows library data)).map coreKey).map
          (differenceAt (due posted) (reported (coreRows library data)))).map exceptionOf).map
            (warehouseException date) := by
    rw [full_join_keys file.keyed covered, List.map_map, List.map_map, List.map_map]
    refine List.map_congr_left fun key listed => ?_
    obtain ⟨plain, dated⟩ := joined_plain file year utc listed
    obtain ⟨low, high⟩ := within.deltas (coreKey key)
    rw [← reported_file file year plain, exceptionRowOf, Option.getD_some, Option.getD_some,
      bigint_of_fits low high, dated]
    obtain ⟨_, processor, currency, rfl, _⟩ := plain
    rfl
  rw [expected_settlement_day storable fits utc sums, settlementExceptions, rowsOf,
    List.filter_map, List.filter_map]
  rfl

/-- The joined keys are the keys of the date among those that the store visits. Both sides are
lists without repetition, so membership is enough. -/
theorem joined_keys_visited :
    ((joinedKeys (expectedKeys date (validMonetary (accepted.map acceptedRow)))
      (fileRows library data)).map coreKey).Perm
        ((reconciledKeys (projectAll shippedRules accepted).posted
          (coreRows library data)).filter fun key => decide (key.1 = date.text)) := by
  have unique : ((joinedKeys (expectedKeys date (validMonetary (accepted.map acceptedRow)))
      (fileRows library data)).map coreKey).Nodup :=
    (anti_keys_nodup (List.nodup_dedup _) file.keyed).map_on fun first left second right same =>
      core_key_inj (joined_plain file year utc left).1 (joined_plain file year utc right).1 same
  have visits : (reconciledKeys (projectAll shippedRules accepted).posted
      (coreRows library data)).Nodup := settlement_keys_nodup _
  refine (List.perm_ext_iff_of_nodup unique (visits.filter _)).mpr fun key => ?_
  have posted := (posted_keys storable fits utc).mem_iff (a := key)
  rw [List.mem_filter, decide_eq_true_eq, mem_reconciled_keys, given_keys, ← posted]
  constructor
  · intro listed
    obtain ⟨joined, inside, rfl⟩ := List.mem_map.mp listed
    obtain ⟨plain, dated⟩ := joined_plain file year utc inside
    refine ⟨?_, (core_key_dated plain year).mpr dated⟩
    rcases mem_joined_keys.mp inside with left | right
    · exact .inl (List.mem_map_of_mem (mem_expected_keys.mp left).2)
    · exact .inr (List.mem_map_of_mem right)
  · rintro ⟨visited, dated⟩
    rcases visited with left | right
    · obtain ⟨own, named, rfl⟩ := List.mem_map.mp left
      have here := (core_key_dated (posted_plain utc named) year).mp dated
      exact List.mem_map_of_mem (mem_joined_keys.mpr (.inl (mem_expected_keys.mpr ⟨here, named⟩)))
    · obtain ⟨own, named, rfl⟩ := List.mem_map.mp right
      exact List.mem_map_of_mem (mem_joined_keys.mpr (.inr named))

/-- The job lists the exceptions of the date that the store computes, one for one, under the
stated 64-bit conditions on the sums. -/
theorem exceptions_agree
    (within : SettlementWithin (projectAll shippedRules accepted).posted
      (coreRows library data)) :
    (settlementExceptions (expectedSettlement (validMonetary (accepted.map acceptedRow))
        (reconstruct (accepted.map acceptedRow)).2 (some date)) (fileRows library data)).Perm
      ((settledOn date ((settledDifferences (projectAll shippedRules accepted).posted
        (coreRows library data)).map exceptionOf)).map (warehouseException date)) := by
  have visited := @differences_perm _ (due (projectAll shippedRules accepted).posted)
    (reported (coreRows library data)) _ _ (joined_keys_visited file year storable fits utc)
  rw [settlement_exceptions_day file year storable fits utc within, settledOn, List.filter_map]
  refine ((visited.trans (List.Perm.of_eq ?_)).map exceptionOf).map (warehouseException date)
  exact (differences_filter _ _
    (fun key : LedgerFlow.SettlementKey => decide (key.1 = date.text)) _).symm

end Day

/-! ## The gates -/

/-- Of the date, the job leaves the exceptions that the store has computed, and it raises
exactly if there is one. Of other dates it leaves what there was. -/
structure SameVerdict (date : Date) (before : SettlementTables)
    (left : SettlementTables × Py Unit) (settled : List LedgerFlow.SettlementExceptionRow) :
    Prop where
  onDate : (rowsOn SettlementExceptionRow.businessDate date left.1.exceptions).Perm
    ((settledOn date settled).map (warehouseException date))
  elsewhere : rowsElsewhere SettlementExceptionRow.businessDate date left.1.exceptions =
    rowsElsewhere SettlementExceptionRow.businessDate date before.exceptions
  gate : left.2 = if settledOn date settled = [] then .ok ()
    else .error (.runtime (str "settlement reconciliation gate failed"))

/-- Overwriting a date's partition replaces the rows of this date and leaves those of every other
date as they were. -/
theorem overwrite_date_rows {date : Date} {rows : List SettlementExceptionRow}
    (dated : Dated date rows) (table : List SettlementExceptionRow) :
    rowsOn SettlementExceptionRow.businessDate date (overwriteDate (some date) table rows) = rows ∧
      rowsElsewhere SettlementExceptionRow.businessDate date
        (overwriteDate (some date) table rows) =
          rowsElsewhere SettlementExceptionRow.businessDate date table := by
  have kept : (table.filter fun row => !decide (same row.businessDate (some date) = some true)) =
      rowsElsewhere SettlementExceptionRow.businessDate date table := by
    refine List.filter_congr fun row _ => ?_
    simp only [same_true, Option.some.injEq, exists_eq_right']
  have own : rowsOn SettlementExceptionRow.businessDate date rows = rows :=
    List.filter_eq_self.mpr fun row member => decide_eq_true (dated row member)
  have none : rowsElsewhere SettlementExceptionRow.businessDate date rows = [] :=
    List.filter_eq_nil_iff.mpr fun row member => by
      rw [decide_eq_true (dated row member)]
      decide
  have cleared : rowsOn SettlementExceptionRow.businessDate date
      (rowsElsewhere SettlementExceptionRow.businessDate date table) = [] :=
    List.filter_eq_nil_iff.mpr fun row member here => by
      have other := (List.mem_filter.mp member).2
      rw [here] at other
      cases other
  have stays : rowsElsewhere SettlementExceptionRow.businessDate date
      (rowsElsewhere SettlementExceptionRow.businessDate date table) =
        rowsElsewhere SettlementExceptionRow.businessDate date table :=
    List.filter_eq_self.mpr fun row member => (List.mem_filter.mp member).2
  rw [overwriteDate, kept]
  constructor
  · rw [rowsOn, List.filter_append]
    exact congrArg₂ _ cleared own
  · rw [rowsElsewhere, List.filter_append]
    exact (congrArg₂ _ stays none).trans (List.append_nil _)

/-- Overwriting the date with rows that the store computes too, and raising if there is one,
gives the verdict of the store. -/
theorem verdict_of_rows {date : Date} {before : SettlementTables} {evidence : List EvidenceRow}
    {rows : List SettlementExceptionRow} {settled : List LedgerFlow.SettlementExceptionRow}
    (dated : Dated date rows)
    (agree : rows.Perm ((settledOn date settled).map (warehouseException date))) :
    SameVerdict date before (⟨evidence, overwriteDate (some date) before.exceptions rows⟩,
      require (rows = []) (.runtime (str "settlement reconciliation gate failed"))) settled := by
  obtain ⟨onDate, elsewhere⟩ := overwrite_date_rows dated before.exceptions
  have empty : rows = [] ↔ settledOn date settled = [] := by
    rw [← List.length_eq_zero_iff, agree.length_eq, List.length_map, List.length_eq_zero_iff]
  refine ⟨(List.Perm.of_eq onDate).trans agree, elsewhere, ?_⟩
  rw [require]
  exact if_congr empty rfl rfl

section Gates

variable {library : Library} {manifest data : Bytes} {requested : Str} {date : Date}

/-- The processors that are read can be encoded, as the texts of Spark, which are UTF-8. -/
def ProcessorsEncodable (library : Library) (data : Bytes) : Prop :=
  ∀ record ∈ library.readRecords data, ∀ processor,
    record.processorId = some processor → Encodable processor

/-- The texts of a file that passes can be stored, where its processors can. -/
theorem core_rows_encodable (dated : toDate requested = some date)
    (passed : validateSettlementManifest library manifest data requested = .ok ())
    (texts : ProcessorsEncodable library data) :
    ∀ row ∈ coreRows library data, EncodableKey row.key := by
  intro row member
  obtain ⟨record, inside, rfl⟩ := List.mem_map.mp member
  have contracted := validated_contracted (validate_ok library passed) dated inside
  obtain ⟨day, _, held⟩ := contracted.businessDate
  obtain ⟨processor, named⟩ := Option.ne_none_iff_exists'.mp contracted.processorId
  obtain ⟨currency, accepted, given⟩ := contracted.currency
  have key : (coreRow record).key = (day.text, processor, currency) := by
    simp only [coreRow, coreKey, SettlementRow.key, SettlementRecord.key, held, named, given,
      Option.map_some, Option.getD_some]
  have codes : ∀ code ∈ settlementCurrencies, Encodable code := by decide
  rw [key]
  exact ⟨(date_text_ascii day).encodable, texts record inside processor named,
    codes currency accepted⟩

/-- Distinct keys of a file stay distinct in the store, since plain keys correspond one to one. -/
theorem core_rows_keyed (file : DatedFile date (fileRows library data))
    (year : date.year ≤ 9999) : Keyed SettlementRow.key (coreRows library data) := by
  rw [Keyed, given_keys]
  refine file.keyed.map_on fun first left second right same => ?_
  obtain ⟨row, member, rfl⟩ := List.mem_map.mp left
  obtain ⟨other, inside, rfl⟩ := List.mem_map.mp right
  exact core_key_inj (file_key_plain file year member).1 (file_key_plain file year inside).1 same

/-- The gates agree. For events in UTC whose sums fit, and a file that passes validation
for a date, the store rebuilt from the events and the tables of a single run over them
reconcile alike: the job leaves the exceptions of the date that the store computes, keeps
those of other dates, and raises exactly if the date has one. -/
theorem gates_agree {database : Database}
    (keyed : Keyed PaymentEvent.eventId database.tables.events)
    (storable : ∀ event ∈ database.tables.events, Storable event)
    (fits : ∀ id ∈ transactionIds database.tables.events,
      SumsFit (group PaymentEvent.transactionId id database.tables.events))
    (utc : ∀ event ∈ database.tables.events, event.eventTime.offset = 0)
    (dated : toDate requested = some date)
    (passed : validateSettlementManifest library manifest data requested = .ok ())
    (agreed : ReadersAgree library data)
    (texts : ProcessorsEncodable library data)
    (numbers : SettlementWithin (projectAll shippedRules database.tables.events).posted
      (coreRows library data))
    (tables : SettlementTables) :
    ∃ rebuilt warehouse result settled,
      within (rebuildProjections shippedRules).run database = .ok ((), rebuilt) ∧
      singleRun (database.tables.events.map acceptedRow) = .ok warehouse ∧
      (reconcileSettlement ((coreRows library data).map .ok)).run.eval LedgerFlow.perform
          rebuilt.opened =
        (.ok result, settled) ∧
      SameVerdict date tables (reconcileSettlements library warehouse data requested tables)
        settled.durable.tables.settlementException := by
  have file := passes_dated dated passed
  have year := (to_date_read dated).2
  obtain ⟨rebuilt, warehouse, rebuilds, runs, _⟩ := spark_refines_core keyed storable fits
  have rowsKeyed : Keyed AcceptedEventRow.eventId (database.tables.events.map acceptedRow) := by
    rw [Keyed, List.map_map]
    exact keyed
  have projected := ((rebuild_ok keyed storable).mp rebuilds).2
  have posted : rebuilt.tables.postedEvent =
      (projectAll shippedRules database.tables.events).posted := by
    rw [projected]
    rfl
  have written := Except.ok.inj ((single_run_ok rowsKeyed).symm.trans runs)
  rw [← posted] at numbers
  have settled := reconcile_settlement_ok (core_rows_keyed file year)
    (core_rows_encodable dated passed texts) numbers
  refine ⟨rebuilt, warehouse, _, _, rebuilds, runs, settled, ?_⟩
  rw [posted] at numbers ⊢
  obtain ⟨evidence, _, reconciled⟩ := @reconcile_passed library requested date
    ⟨warehouse, manifest, data⟩ dated ⟨passed, agreed⟩ tables
  subst written
  rw [reconciled, settling_exceptions]
  exact verdict_of_rows (exceptions_dated file.dated)
    (exceptions_agree file year storable fits utc numbers)

end Gates

/-! ## A sample -/

/-- An exception of the day before. -/
def earlierException : SettlementExceptionRow :=
  ⟨some evidenceDay.previous, some (str "processor-02"), some (str "INR"), 0, 1, -1⟩

/-- The posted row of the sample capture. -/
def samplePosted : PostedRow where
  eventId := ⟨str "evt-2", .refl true⟩
  transactionId := ⟨str "txn-1", .refl true⟩
  processorId := ⟨str "processor-01", .refl true⟩
  merchantId := ⟨str "merchant-001", .refl true⟩
  eventType := .capture
  amountMinor := 600
  currency := .inr
  eventTime := newYear

/-- The sample capture is due from the first processor, and the first revision also reports
an amount of the second. -/
theorem gates_agree_sample : ∃ warehouse settled,
    singleRun (sampleDatabase.tables.events.map acceptedRow) = .ok warehouse ∧
      SameVerdict evidenceDay ⟨[], [earlierException]⟩
        (reconcileSettlements revisionLibrary warehouse firstRevision.data evidenceDay.text
          ⟨[], [earlierException]⟩) settled := by
  have identified := (reachable_consistent sample_reachable).identified
  have file := revision_passes (List.mem_cons_self (a := firstRevision))
  have texts : ProcessorsEncodable revisionLibrary firstRevision.data := by
    unfold ProcessorsEncodable
    decide +kernel
  have posted : (projectAll shippedRules sampleDatabase.tables.events).posted = [samplePosted] := by
    decide +kernel
  have numbers : SettlementWithin [samplePosted] (coreRows revisionLibrary firstRevision.data) :=
    settlement_within_visited (by decide +kernel) (by decide +kernel) (by decide +kernel)
  rw [← posted] at numbers
  obtain ⟨_, warehouse, _, _, _, runs, _, verdict⟩ :=
    @gates_agree revisionLibrary firstRevision.manifest firstRevision.data evidenceDay.text
      evidenceDay sampleDatabase identified.keyed identified.storable sample_sums_fit
      (by decide +kernel) evidence_day_read file.passed file.agreed texts numbers
      ⟨[], [earlierException]⟩
  exact ⟨warehouse, _, runs, verdict⟩

end LedgerFlow.Settlement
