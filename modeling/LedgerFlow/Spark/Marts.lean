import LedgerFlow.Spark.FinanceVisible

/-!
# The finance marts

`fctLedgerDaily` follows `fct_ledger_daily.sql`. `DataTest` lists the data tests of
`schema.yml` and of `tests/`, each as the query whose rows are its failures; a sum of a query is
exact. Every test but one finds nothing in a sound warehouse. The ledger of an event is found
unbalanced where the credit line could not hold the negated amount in 64 bits.

After daily runs the two marts agree: of a processor, a merchant and a currency, the days add up
on the account of the processor to what the payments leave receivable.
-/

namespace LedgerFlow.Spark

open PyText PyDateTime Grouping Dataframe

/-! ## The daily ledger -/

/-- The columns that `fct_ledger_daily` groups by. -/
structure LedgerDay where
  businessDate : Date
  processorId : Identifier
  merchantId : Identifier
  currency : Currency
  account : Str
  deriving DecidableEq

/-- A row of the view `fct_ledger_daily`. -/
structure LedgerDailyRow where
  day : LedgerDay
  entryCount : Nat
  signedMinor : Int

/-- The group of a line; `cast(event_time as date)` dates it. -/
def LedgerEntryRow.day (line : LedgerEntryRow) : LedgerDay :=
  ⟨line.eventTime.utcDate, line.processorId, line.merchantId, line.currency, line.account⟩

/-- The row of a group. -/
def ledgerDailyRow (lines : List LedgerEntryRow) (day : LedgerDay) : LedgerDailyRow :=
  ⟨day, (group LedgerEntryRow.day day lines).length,
    ((group LedgerEntryRow.day day lines).map LedgerEntryRow.signedMinor).sum⟩

/-- `fct_ledger_daily` -/
def fctLedgerDaily (warehouse : Warehouse) : List LedgerDailyRow :=
  let lines := visibleLines warehouse
  (keysOf LedgerEntryRow.day lines).map (ledgerDailyRow lines)

/-- The total of the daily rows that are picked. -/
def dailyMinor (picks : LedgerDay → Bool) (warehouse : Warehouse) : Int :=
  selected (fun row => picks row.day) LedgerDailyRow.signedMinor (fctLedgerDaily warehouse)

/-- The daily rows add up to the lines behind them, whichever days and parties are picked: each
visible line is in one group. -/
theorem daily_minor_lines (picks : LedgerDay → Bool) (warehouse : Warehouse) :
    dailyMinor picks warehouse =
      selected (fun line => picks line.day) LedgerEntryRow.signedMinor (visibleLines warehouse) := by
  have covered : ∀ line ∈ visibleLines warehouse,
      line.day ∈ keysOf LedgerEntryRow.day (visibleLines warehouse) :=
    fun line member => List.mem_dedup.mpr (List.mem_map_of_mem member)
  rw [← picked_sums LedgerEntryRow.day LedgerEntryRow.signedMinor _ (List.nodup_dedup _) _ covered
    picks, picked, selected, dailyMinor, selected, fctLedgerDaily, List.filter_map, List.filter_map,
    List.map_map, List.map_map]
  rfl

/-- Every group has one row in the mart, as the grouping lists each key once. -/
theorem daily_keyed (warehouse : Warehouse) : Keyed LedgerDailyRow.day (fctLedgerDaily warehouse) := by
  rw [Keyed, fctLedgerDaily, List.map_map]
  exact (List.map_id _).symm ▸ List.nodup_dedup _

/-! ## Data tests -/

section Queries

variable {Row Key : Type} [DecidableEq Key]

omit [DecidableEq Key] in
/-- The rows that a test `not_null` returns. -/
def notNull (column : Row → Option Key) (rows : List Row) : List Row :=
  rows.filter fun row => (column row).isNone

/-- The values that a test `unique` returns. -/
def unique (column : Row → Option Key) (rows : List Row) : List Key :=
  let values := nonNull (rows.map column)
  (keysOf id values).filter fun value => decide (1 < (group id value values).length)

/-- The rows that a test `relationships` returns. -/
def relationships {Parent : Type} (column : Row → Option Key) (rows : List Row)
    (field : Parent → Option Key) (parents : List Parent) : List Row :=
  rows.filter fun row => (column row).isSome && decide (column row ∉ parents.map field)

/-- The values that a test `accepted_values` returns. -/
def acceptedValues (column : Row → Option Key) (rows : List Row) (values : List Key) :
    List Key :=
  (keysOf id (nonNull (rows.map column))).filter fun value => decide (value ∉ values)

omit [DecidableEq Key] in
/-- A column that always has a value passes the test for nulls. -/
theorem not_null_passes (column : Row → Key) (rows : List Row) :
    notNull (fun row => some (column row)) rows = [] :=
  List.filter_eq_nil_iff.mpr fun _ _ => Bool.false_ne_true

/-- A column that does not repeat a value passes the test for uniqueness. -/
theorem unique_passes {column : Row → Key} {rows : List Row} (keyed : Keyed column rows) :
    unique (fun row => some (column row)) rows = [] := by
  refine List.filter_eq_nil_iff.mpr fun value _ repeated => ?_
  rw [non_null_all] at repeated
  have once : (group id value (rows.map column)).length ≤ 1 := by
    refine group_at_most_one ?_ value
    rw [Keyed, List.map_id]
    exact keyed
  exact absurd (of_decide_eq_true repeated) (by omega)

/-- A column whose values are all found among the parents passes the test for relationships. -/
theorem relationships_pass {Parent : Type} {column : Row → Key} {rows : List Row}
    {field : Parent → Key} {parents : List Parent}
    (related : ∀ row ∈ rows, column row ∈ parents.map field) :
    relationships (fun row => some (column row)) rows (fun parent => some (field parent)) parents =
      [] := by
  refine List.filter_eq_nil_iff.mpr fun row member missing => ?_
  obtain ⟨parent, inside, same⟩ := List.mem_map.mp (related row member)
  rw [Option.isSome_some, Bool.true_and, decide_eq_true_eq] at missing
  exact missing (List.mem_map.mpr ⟨parent, inside, congrArg some same⟩)

/-- A column whose values are all listed passes the test for accepted values. -/
theorem accepted_values_pass {column : Row → Key} {rows : List Row} {values : List Key}
    (accepted : ∀ row ∈ rows, column row ∈ values) :
    acceptedValues (fun row => some (column row)) rows values = [] := by
  refine List.filter_eq_nil_iff.mpr fun value listed refused => ?_
  rw [non_null_all, keysOf, List.mem_dedup, List.map_id] at listed
  obtain ⟨row, member, rfl⟩ := List.mem_map.mp listed
  exact of_decide_eq_true refused (accepted row member)

end Queries

/-- The rows that `ledger_event_currency_balanced.sql` returns. -/
def unbalancedEvents (lines : List LedgerEntryRow) : List ((Identifier × Currency) × Int) :=
  ((keysOf balanceGroup lines).map fun key =>
    (key, ((group balanceGroup key lines).map LedgerEntryRow.signedMinor).sum)).filter
      fun row => decide (row.2 ≠ 0)

/-- The rows that `no_invalid_payment_in_current_finance.sql` returns. -/
def invalidPayments (warehouse : Warehouse) : List Identifier :=
  (dimPaymentCurrent warehouse).flatMap fun current =>
    (warehouse.businessException.filter fun invalid =>
      decide (invalid.transactionId = current.state.transactionId)).map fun _ =>
        current.state.transactionId

/-- The values of `status` that `schema.yml` accepts. -/
def acceptedStatuses : List Str :=
  [str "AUTHORIZED", str "PARTIALLY_CAPTURED", str "CAPTURED", str "PARTIALLY_REFUNDED",
    str "REFUNDED", str "PARTIALLY_CHARGEDBACK", str "CHARGEDBACK"]

/-- The data tests of `schema.yml`, model by model, and those of `tests/`. -/
inductive DataTest where
  | acceptedEventIdNotNull
  | acceptedEventIdUnique
  | acceptedTransactionIdNotNull
  | acceptedAmountMinorNotNull
  | entryIdNotNull
  | entryIdUnique
  | lineEventIdNotNull
  | lineEventIdRelationships
  | currentTransactionIdNotNull
  | currentTransactionIdUnique
  | currentStatusAcceptedValues
  | exceptionTransactionIdNotNull
  | deltaMinorNotNull
  | ledgerEventCurrencyBalanced
  | noInvalidPaymentInCurrentFinance
  | noZeroValueSettlementException
  deriving DecidableEq

/-- How many rows a test returns; `deltas` is the column `delta_minor` of
`fct_settlement_exception`. -/
def DataTest.failures (warehouse : Warehouse) (deltas : List Int) : DataTest → Nat
  | acceptedEventIdNotNull =>
      (notNull (fun row => some row.eventId) warehouse.acceptedEvent).length
  | acceptedEventIdUnique =>
      (unique (fun row => some row.eventId) warehouse.acceptedEvent).length
  | acceptedTransactionIdNotNull =>
      (notNull (fun row => some row.transactionId) warehouse.acceptedEvent).length
  | acceptedAmountMinorNotNull =>
      (notNull (fun row => some row.amountMinor) warehouse.acceptedEvent).length
  | entryIdNotNull => (notNull (fun line => some line.entryId) warehouse.ledgerEntry).length
  | entryIdUnique => (unique (fun line => some line.entryId) warehouse.ledgerEntry).length
  | lineEventIdNotNull => (notNull (fun line => some line.eventId) warehouse.ledgerEntry).length
  | lineEventIdRelationships =>
      (relationships (fun line => some line.eventId) warehouse.ledgerEntry
        (fun row => some row.eventId) warehouse.acceptedEvent).length
  | currentTransactionIdNotNull =>
      (notNull (fun row => some row.state.transactionId) (dimPaymentCurrent warehouse)).length
  | currentTransactionIdUnique =>
      (unique (fun row => some row.state.transactionId) (dimPaymentCurrent warehouse)).length
  | currentStatusAcceptedValues =>
      (acceptedValues (fun row => some row.state.status.text) (dimPaymentCurrent warehouse)
        acceptedStatuses).length
  | exceptionTransactionIdNotNull =>
      (notNull (fun row => some row.transactionId) warehouse.businessException).length
  | deltaMinorNotNull => (notNull some deltas).length
  | ledgerEventCurrencyBalanced => (unbalancedEvents warehouse.ledgerEntry).length
  | noInvalidPaymentInCurrentFinance => (invalidPayments warehouse).length
  | noZeroValueSettlementException => (deltas.filter fun delta => decide (delta = 0)).length

/-! ## What the tests find -/

section Found

variable {warehouse : Warehouse} {deltas : List Int}

/-- The negated amount does not fit in 64 bits. -/
def NegationOverflows (row : AcceptedEventRow) : Prop :=
  row.amountMinor + bigint (-row.amountMinor) ≠ 0

instance : DecidablePred NegationOverflows := fun row =>
  inferInstanceAs (Decidable (row.amountMinor + bigint (-row.amountMinor) ≠ 0))

/-- Every status is an accepted value of the mart's test. -/
theorem status_accepted (status : PaymentStatus) : status.text ∈ acceptedStatuses := by
  cases status <;> decide

/-- The event and the currency of a row. -/
def balanceKey (row : AcceptedEventRow) : Identifier × Currency := (row.eventId, row.currency)

/-- No event is posted twice for one transaction and currency, so each group of a balance has an
event of its own. -/
theorem posted_balance_keyed (sound : Sound warehouse) :
    Keyed balanceKey warehouse.postedEvent := by
  have ids : (warehouse.postedEvent.map balanceKey).map Prod.fst =
      warehouse.postedEvent.map AcceptedEventRow.eventId := List.map_map ..
  have distinct := sound.postedKeyed
  rw [Keyed, ← ids] at distinct
  exact distinct.of_map

/-- The groups of a sound ledger are those of its posted events, one for each. -/
theorem balance_groups (sound : Sound warehouse) :
    (keysOf balanceGroup warehouse.ledgerEntry).Perm
      (warehouse.postedEvent.map balanceKey) := by
  refine (List.perm_ext_iff_of_nodup (List.nodup_dedup _)
    (posted_balance_keyed sound)).mpr fun key => ?_
  rw [List.mem_dedup, (sound.ledger.map _).mem_iff]
  constructor
  · intro listed
    obtain ⟨line, member, rfl⟩ := List.mem_map.mp listed
    obtain ⟨row, posted, _, either, _⟩ := mem_double_entry member
    refine List.mem_map.mpr ⟨row, posted, ?_⟩
    rcases either with rfl | rfl <;> rfl
  · intro listed
    obtain ⟨row, posted, rfl⟩ := List.mem_map.mp listed
    refine List.mem_map.mpr ⟨debit row, List.mem_append_left _ (List.mem_map_of_mem ?_), rfl⟩
    exact List.mem_filter.mpr ⟨posted, (sound.posted row posted).2⟩

/-- The lines of a posted event in its group are its debit and its credit, and no others. -/
theorem balance_group_lines (sound : Sound warehouse) {row : AcceptedEventRow}
    (posted : row ∈ warehouse.postedEvent) :
    (group balanceGroup (balanceKey row) warehouse.ledgerEntry).Perm [debit row, credit row] := by
  have lines := sound.ledger.filter fun line => decide (balanceGroup line = balanceKey row)
  have grouped : group balanceGroup (balanceKey row) (doubleEntry warehouse.postedEvent) =
      [debit row, credit row] := by
    rw [double_entry_by balanceGroup balanceKey (fun _ => rfl) (fun _ => rfl),
      (posted_balance_keyed sound).group_eq posted, doubleEntry,
      List.filter_cons_of_pos (sound.posted row posted).2]
    rfl
  exact grouped ▸ lines

/-- The events that are found unbalanced are those whose negated amount overflows: everywhere else
the two lines of an event cancel. The sum of the test is exact, unlike that of the job. -/
theorem unbalanced_count (sound : Sound warehouse) :
    (unbalancedEvents warehouse.ledgerEntry).length =
      (warehouse.postedEvent.filter fun row => decide (NegationOverflows row)).length := by
  have sums : ∀ row ∈ warehouse.postedEvent,
      ((group balanceGroup (balanceKey row) warehouse.ledgerEntry).map
        LedgerEntryRow.signedMinor).sum = row.amountMinor + bigint (-row.amountMinor) := by
    intro row posted
    rw [((balance_group_lines sound posted).map _).sum_eq]
    simp only [List.map_cons, List.map_nil, List.sum_cons, List.sum_nil, add_zero]
    rfl
  have rows := (((balance_groups sound).map fun key =>
    (key, ((group balanceGroup key warehouse.ledgerEntry).map LedgerEntryRow.signedMinor).sum)).filter
      fun row => decide (row.2 ≠ 0)).length_eq
  rw [unbalancedEvents, rows, List.map_map, List.filter_map, List.length_map]
  refine congrArg List.length (List.filter_congr fun row posted => ?_)
  simp only [Function.comp_apply, sums row posted]
  rfl

/-- No test but the balance of the ledger finds anything in a sound warehouse. -/
theorem data_tests_pass (sound : Sound warehouse) (differ : ∀ delta ∈ deltas, delta ≠ 0)
    {test : DataTest} (other : test ≠ .ledgerEventCurrencyBalanced) :
    test.failures warehouse deltas = 0 := by
  have none {Row : Type} {rows : List Row} (empty : rows = []) : rows.length = 0 :=
    congrArg List.length empty
  have current : Keyed (fun row : PaymentCurrentRow => row.state.transactionId)
      (dimPaymentCurrent warehouse) := by
    rw [Keyed, dimPaymentCurrent, List.map_map]
    exact sound.states.sublist (List.filter_sublist.map _)
  cases test with
  | acceptedEventIdNotNull | acceptedTransactionIdNotNull | acceptedAmountMinorNotNull
  | entryIdNotNull | lineEventIdNotNull | currentTransactionIdNotNull
  | exceptionTransactionIdNotNull => exact none (not_null_passes _ _)
  | deltaMinorNotNull => exact none (not_null_passes id deltas)
  | acceptedEventIdUnique => exact none (unique_passes sound.accepted)
  | entryIdUnique => exact none (unique_passes (sound_paired sound).keyed)
  | currentTransactionIdUnique => exact none (unique_passes current)
  | lineEventIdRelationships =>
    refine none (relationships_pass fun line member => ?_)
    obtain ⟨row, posted, _, either, _⟩ := mem_double_entry (sound.ledger.mem_iff.mp member)
    refine List.mem_map.mpr ⟨row, (sound.posted row posted).1, ?_⟩
    rcases either with rfl | rfl <;> rfl
  | currentStatusAcceptedValues =>
    exact none (accepted_values_pass fun row _ => status_accepted row.state.status)
  | ledgerEventCurrencyBalanced => exact absurd rfl other
  | noInvalidPaymentInCurrentFinance =>
    refine none (List.flatMap_eq_nil_iff.mpr fun current member => ?_)
    obtain ⟨state, inside, rfl⟩ := List.mem_map.mp member
    rw [List.map_eq_nil_iff, List.filter_eq_nil_iff]
    intro invalid listed same
    exact (mem_left_anti.mp inside).2
      (List.mem_map.mpr ⟨invalid, listed, of_decide_eq_true same⟩)
  | noZeroValueSettlementException =>
    exact none (List.filter_eq_nil_iff.mpr fun delta member zero =>
      differ delta member (of_decide_eq_true zero))

end Found

/-! ## Balances of a day -/

/-- Who a line or a payment is between, and in which currency. -/
structure Parties where
  processorId : Identifier
  merchantId : Identifier
  currency : Currency
  deriving DecidableEq

def LedgerDay.parties (day : LedgerDay) : Parties := ⟨day.processorId, day.merchantId, day.currency⟩

def AcceptedEventRow.parties (row : AcceptedEventRow) : Parties :=
  ⟨row.processorId, row.merchantId, row.currency⟩

def PaymentStateRow.parties (state : PaymentStateRow) : Parties :=
  ⟨state.processorId, state.merchantId, state.currency⟩

/-- The total of a day over all accounts. -/
def dayMinor (warehouse : Warehouse) (businessDate : Date) (parties : Parties) : Int :=
  dailyMinor (fun day => decide (day.businessDate = businessDate ∧ day.parties = parties)) warehouse

/-- The total of all days on the account of the processor. -/
def dailyReceivable (warehouse : Warehouse) (parties : Parties) : Int :=
  dailyMinor (fun day => decide (day.parties = parties ∧ day.account = receivable)) warehouse

/-- What the payments leave receivable. -/
def currentReceivable (warehouse : Warehouse) (parties : Parties) : Int :=
  selected (fun current => decide (current.state.parties = parties))
    (fun current => current.netProcessorReceivableMinor.getD 0) (dimPaymentCurrent warehouse)

section Days

variable {warehouse : Warehouse}

/-- The events of transactions without an exception. -/
def unexceptedPosted (warehouse : Warehouse) : List AcceptedEventRow :=
  leftAnti AcceptedEventRow.transactionId
    (warehouse.businessException.map BusinessExceptionRow.transactionId) warehouse.postedEvent

/-- The lines of the events outside some transactions are the lines outside them. -/
theorem double_entry_anti (others : List Identifier) (events : List AcceptedEventRow) :
    leftAnti LedgerEntryRow.transactionId others (doubleEntry events) =
      doubleEntry (leftAnti AcceptedEventRow.transactionId others events) := by
  have monetary : leftAnti AcceptedEventRow.transactionId others (events.filter isMonetary) =
      (leftAnti AcceptedEventRow.transactionId others events).filter isMonetary := by
    rw [leftAnti, leftAnti, List.filter_filter, List.filter_filter]
    exact List.filter_congr fun row _ => Bool.and_comm ..
  rw [doubleEntry, doubleEntry, leftAnti, List.filter_append, List.filter_map, List.filter_map,
    ← monetary]
  rfl

/-- The visible lines are those of the events that are posted and not excepted. -/
theorem visible_lines_posted (sound : Sound warehouse) :
    (visibleLines warehouse).Perm (doubleEntry (unexceptedPosted warehouse)) := by
  rw [unexceptedPosted, ← double_entry_anti]
  exact sound.ledger.filter _

/-- Of a day, where every negated amount fits, the accounts add up to zero. -/
theorem day_balanced (sound : Sound warehouse)
    (fits : ∀ row ∈ warehouse.postedEvent, ¬ NegationOverflows row) (businessDate : Date)
    (parties : Parties) : dayMinor warehouse businessDate parties = 0 := by
  let ofDay (row : AcceptedEventRow) : Bool :=
    decide (row.eventTime.utcDate = businessDate ∧ row.parties = parties)
  let monetary := ((unexceptedPosted warehouse).filter isMonetary).filter ofDay
  have lines : dayMinor warehouse businessDate parties =
      (monetary.map fun row => row.amountMinor + bigint (-row.amountMinor)).sum := by
    rw [dayMinor, daily_minor_lines, selected,
      (((visible_lines_posted sound).filter _).map _).sum_eq, doubleEntry, List.filter_append,
      List.filter_map, List.filter_map, List.map_append, List.sum_append, List.map_map,
      List.map_map, List.sum_map_add]
    rfl
  rw [lines]
  refine List.sum_eq_zero fun total member => ?_
  obtain ⟨row, inside, rfl⟩ := List.mem_map.mp member
  have posted := (mem_left_anti.mp (List.mem_filter.mp (List.mem_filter.mp inside).1).1).1
  exact not_not.mp (fits row posted)

end Days

/-! ## The marts after daily runs -/

/-- Every state row is that of a transaction with accepted events. -/
def StatesAccepted (warehouse : Warehouse) : Prop :=
  ∀ state ∈ warehouse.paymentState,
    state.transactionId ∈ warehouse.acceptedEvent.map AcceptedEventRow.transactionId

/-- The jobs write state rows of accepted transactions only, and remove none. -/
theorem jobs_states {touched : AcceptedEventRow → Bool} {before between after : Warehouse}
    (first : ReconstructEffect touched before between) (second : PostEffect touched between after)
    (kept : StatesAccepted before) : StatesAccepted after := by
  intro state member
  rw [second.accepted, first.accepted]
  rw [second.states] at member
  rcases (first.states state).mp member with ⟨⟨⟨row, inside, _, same⟩, _⟩, _⟩ | ⟨_, old⟩
  · exact List.mem_map.mpr ⟨row, inside, same⟩
  · exact kept state old

/-- Every sequence of actions keeps state rows of accepted transactions only.

Proof: by induction from the end, along with the invariant of the runs. -/
theorem execute_states {actions : List Action}
    (keyed : Keyed PaymentEvent.eventId (arrivals actions))
    (utc : ∀ event ∈ arrivals actions, event.eventTime.offset = 0) :
    ∃ platform, execute actions emptyPlatform = .ok platform ∧ Ongoing actions platform ∧
      StatesAccepted platform.warehouse := by
  induction actions using List.reverseRecOn with
  | nil => exact ⟨emptyPlatform, rfl, empty_ongoing, fun _ none => absurd none List.not_mem_nil⟩
  | append_singleton actions action inductionHypothesis =>
    rw [arrivals_append] at keyed utc
    have earlier : Keyed PaymentEvent.eventId (arrivals actions) :=
      keyed.sublist ((List.sublist_append_left ..).map _)
    have earlierUtc : ∀ event ∈ arrivals actions, event.eventTime.offset = 0 :=
      fun event member => utc event (List.mem_append_left _ member)
    obtain ⟨platform, reached, ongoing, states⟩ := inductionHypothesis earlier earlierUtc
    rw [execute_append, reached]
    cases action with
    | arrive event => exact ⟨_, rfl, ongoing_arrive ongoing event, states⟩
    | run businessDate =>
      obtain ⟨warehouse, ran, next⟩ := ongoing_run ongoing reached earlier earlierUtc businessDate
      have sound : Sound (platform.ingested businessDate) :=
        ingest_sound ongoing.sound (ongoing.bucket ▸ earlier)
      obtain ⟨between, after, completes, first, second, _⟩ :=
        @jobs_ok (onDate businessDate) (platform.ingested businessDate) sound
      have same : after = warehouse := Except.ok.inj (completes.symm.trans ran)
      refine ⟨{ platform with warehouse }, ?_, next, ?_⟩
      · show (dailyRun platform.bucket businessDate platform.warehouse >>= fun warehouse =>
          Except.ok { platform with warehouse }) = _
        rw [ran]
        rfl
      · refine same ▸ jobs_states first second fun state member => ?_
        obtain ⟨row, inside, shared⟩ := List.mem_map.mp (states state member)
        exact List.mem_map.mpr ⟨row, List.mem_append_left _ inside, shared⟩

section Agreement

variable {platform : Platform} {transactionId : Identifier}

/-- A visible transaction leaves receivable what its visible lines say, and all of them are
between its parties. -/
theorem visible_payment (visible : FinanceVisible platform transactionId)
    {current : PaymentCurrentRow} (shown : current ∈ dimPaymentCurrent platform.warehouse)
    (named : current.state.transactionId = transactionId) :
    current.netProcessorReceivableMinor = some (receivableMinor
      (group LedgerEntryRow.transactionId transactionId (visibleLines platform.warehouse))) ∧
    ∀ line ∈ group LedgerEntryRow.transactionId transactionId (visibleLines platform.warehouse),
      line.day.parties = current.state.parties := by
  let events := history platform.acceptedEvents transactionId
  obtain ⟨state, single, _, view⟩ := visible.state
  have listed : current ∈ group (fun row => row.state.transactionId) transactionId
      (dimPaymentCurrent platform.warehouse) := mem_group.mpr ⟨shown, named⟩
  rw [view, List.mem_singleton] at listed
  subst listed
  have nonempty : events ≠ [] := by
    intro none
    rw [show history platform.acceptedEvents transactionId = [] from none] at single
    cases single
  obtain ⟨last, isLast⟩ := last_exists nonempty
  have projected : (projection shippedRules events).states = [state] := single
  rw [projection_valid isLast visible.valid] at projected
  have row := List.head_eq_of_cons_eq projected
  have valid := verdict_none.mp visible.valid
  refine ⟨rfl, fun line member => ?_⟩
  obtain ⟨inside, same⟩ := mem_group.mp member
  have grouped : line ∈ group LedgerEntryRow.transactionId transactionId
      platform.warehouse.ledgerEntry := mem_group.mpr ⟨(mem_left_anti.mp inside).1, same⟩
  obtain ⟨posted, ofHistory, _, either, _⟩ :=
    mem_double_entry (visible.ledger.mem_iff.mp grouped)
  obtain ⟨event, accepted, rfl⟩ := List.mem_map.mp (visible.rows.mem_iff.mpr ofHistory)
  have parties : line.day.parties = (acceptedRow event).parties := by
    rcases either with rfl | rfl <;> rfl
  rw [parties, ← row]
  have processor := distinct_one valid.oneProcessor accepted (last_mem isLast)
  have merchant := distinct_one valid.oneMerchant accepted (last_mem isLast)
  have currency := distinct_one valid.oneCurrency accepted (last_mem isLast)
  simp only [AcceptedEventRow.parties, acceptedRow, PaymentStateRow.parties, warehouseState,
    stateRow, processor, merchant, currency]

/-- Where all accepted transactions without an exception are visible, the marts agree: both add
up, party by party, the same posted events. -/
theorem receivables_agree (sound : Sound platform.warehouse)
    (states : StatesAccepted platform.warehouse)
    (visible : ∀ transactionId,
      transactionId ∈ platform.warehouse.acceptedEvent.map AcceptedEventRow.transactionId →
        transactionId ∉
            platform.warehouse.businessException.map BusinessExceptionRow.transactionId →
          FinanceVisible platform transactionId) (parties : Parties) :
    dailyReceivable platform.warehouse parties = currentReceivable platform.warehouse parties := by
  let lines := visibleLines platform.warehouse
  let payments := dimPaymentCurrent platform.warehouse
  have ids : payments.map (fun current => current.state.transactionId) =
      (leftAnti PaymentStateRow.transactionId
        (platform.warehouse.businessException.map BusinessExceptionRow.transactionId)
        platform.warehouse.paymentState).map PaymentStateRow.transactionId := List.map_map ..
  have distinct : (payments.map fun current => current.state.transactionId).Nodup := by
    rw [ids]
    exact sound.states.sublist (List.filter_sublist.map _)
  have shown : ∀ current ∈ payments, FinanceVisible platform current.state.transactionId := by
    intro current member
    obtain ⟨state, inside, rfl⟩ := List.mem_map.mp member
    obtain ⟨listed, unexcepted⟩ := mem_left_anti.mp inside
    exact visible _ (states state listed) unexcepted
  have covered : ∀ line ∈ lines,
      line.transactionId ∈ payments.map fun current => current.state.transactionId := by
    intro line member
    obtain ⟨inside, unexcepted⟩ := mem_left_anti.mp member
    obtain ⟨row, posted, same, _⟩ := sound_event_lines sound inside
    have accepted : line.transactionId ∈
        platform.warehouse.acceptedEvent.map AcceptedEventRow.transactionId :=
      List.mem_map.mpr ⟨row, (sound.posted row posted).1, same.symm⟩
    obtain ⟨_, _, _, view⟩ := (visible _ accepted unexcepted).state
    obtain ⟨first, named⟩ := mem_group.mp (view.symm ▸ List.mem_singleton_self _)
    exact List.mem_map.mpr ⟨_, first, named⟩
  -- both sums run over the payments; the lines of a payment are between its parties
  rw [dailyReceivable, daily_minor_lines, selected,
    (((perm_flat_map_group LedgerEntryRow.transactionId distinct covered).filter _).map _).sum_eq,
    ← selected, selected_flat_map, List.map_map, currentReceivable, selected_sum]
  refine congrArg List.sum (List.map_congr_left fun current member => ?_)
  obtain ⟨net, between⟩ := visible_payment (shown current member) member rfl
  have group_selected : selected (fun line : LedgerEntryRow =>
      decide (line.day.parties = parties ∧ line.day.account = receivable))
      LedgerEntryRow.signedMinor
      (group LedgerEntryRow.transactionId current.state.transactionId lines) =
        if current.state.parties = parties then receivableMinor
          (group LedgerEntryRow.transactionId current.state.transactionId lines) else 0 := by
    by_cases same : current.state.parties = parties
    · rw [if_pos same, receivableMinor, selected, selected]
      refine congrArg (fun rows => (rows.map LedgerEntryRow.signedMinor).sum)
        (List.filter_congr fun line inside => ?_)
      rw [between line inside]
      simp only [same, true_and]
      rfl
    · rw [if_neg same]
      refine selected_none fun line inside => decide_eq_false fun holds => same ?_
      rw [← between line inside]
      exact holds.1
  simp only [Function.comp_apply, decide_eq_true_eq, net, Option.getD_some]
  exact group_selected

end Agreement

/-- What the two finance marts say together. -/
structure MartsAgree (warehouse : Warehouse) : Prop where
  /-- Every day, parties and account have one row. -/
  keyed : Keyed LedgerDailyRow.day (fctLedgerDaily warehouse)
  /-- The accounts of a day add up to zero. -/
  balanced : ∀ businessDate parties, dayMinor warehouse businessDate parties = 0
  /-- The days add up to what the payments leave receivable. -/
  receivable : ∀ parties, dailyReceivable warehouse parties = currentReceivable warehouse parties

/-- After any arrivals and daily runs of events whose amounts and totals fit in 64 bits, the
finance marts agree. -/
theorem marts_agree {actions : List Action}
    (keyed : Keyed PaymentEvent.eventId (arrivals actions))
    (utc : ∀ event ∈ arrivals actions, event.eventTime.offset = 0)
    (exact : ∀ transactionId,
      ExactHistory (group PaymentEvent.transactionId transactionId (arrivals actions))) :
    ∃ platform, execute actions emptyPlatform = .ok platform ∧ MartsAgree platform.warehouse := by
  obtain ⟨platform, ran, ongoing, states⟩ := execute_states keyed utc
  refine ⟨platform, ran, daily_keyed _, day_balanced ongoing.sound fun row posted overflows => ?_,
    receivables_agree ongoing.sound states fun transactionId =>
      ongoing_visible ongoing keyed (exact transactionId)⟩
  obtain ⟨event, inside, rfl⟩ := ongoing.accepted row (ongoing.sound.posted row posted).1
  have ⟨low, high⟩ := ((exact event.transactionId).storable event
    (mem_group.mpr ⟨ongoing.bucket ▸ inside, rfl⟩)).2
  have positive := event.amountPositive
  have negated : bigint (-event.amountMinor) = -event.amountMinor :=
    bigint_fits ⟨by omega, by omega⟩
  refine overflows ?_
  rw [show (acceptedRow event).amountMinor = event.amountMinor from bigint_fits ⟨low, high⟩,
    negated, add_neg_cancel]

/-- The marts after the runs of a capture that arrives in order agree on what the processor
owes. -/
theorem marts_agree_sample :
    ∃ platform, execute promptArrivals emptyPlatform = .ok platform ∧
      MartsAgree platform.warehouse := by
  refine marts_agree (by decide +kernel) (by decide +kernel) fun transactionId => ?_
  have one : ∀ event ∈ arrivals promptArrivals, event.transactionId = ⟨str "txn-1", by decide⟩ := by
    decide +kernel
  have storable : ∀ event ∈ arrivals promptArrivals,
      Int64 event.transactionVersion ∧ Int64 event.amountMinor := by
    decide +kernel
  by_cases same : transactionId = ⟨str "txn-1", by decide⟩
  · rw [same, group_all one]
    exact ⟨storable, by decide +kernel⟩
  · rw [group_nil fun event member wrong => same (wrong.symm.trans (one event member))]
    exact ⟨fun event none => absurd none List.not_mem_nil, by decide⟩

end LedgerFlow.Spark
