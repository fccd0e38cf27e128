import LedgerFlow.Spark.Classification
import LedgerFlow.Spark.Pipeline
import LedgerFlow.Store.Invariant

/-!
# One run of the Spark jobs is a rebuild of the local store

Running reconstruction and posting once over a set of accepted events, into empty
tables, writes the rows that `_rebuild_projections` writes under the shipped posting
rules, as multisets and with every column that both keep. The rows of both sides fall
into those of the transactions, and one transaction is either invalid on both sides,
for the same reason, or valid on both, with the same state row, posted events and
lines.
-/

namespace LedgerFlow.Spark

open PyText Grouping Dataframe Programs

/-! ## Correspondence of rows -/

/-- The exception row of the local store. -/
def coreException (row : BusinessExceptionRow) : ExceptionRow :=
  ⟨row.eventId, row.transactionId, row.businessError⟩

/-- The posted row of the local store. -/
def corePosted (row : AcceptedEventRow) : PostedRow :=
  ⟨row.eventId, row.transactionId, row.processorId, row.merchantId, row.eventType,
    row.amountMinor, row.currency, row.eventTime⟩

/-- The ledger row of the local store. -/
def coreLine (line : LedgerEntryRow) : PostingLine :=
  ⟨line.entryId, line.eventId, line.transactionId, line.processorId, line.merchantId,
    line.currency, line.account, line.signedMinor, line.postingRuleVersion⟩

/-- The state row of the warehouse; its totals are nullable. -/
def warehouseState (row : StateRow) : PaymentStateRow :=
  ⟨row.transactionId, row.currentVersion, row.currentEventId, row.status,
    some row.authorizedMinor, some row.capturedMinor, some row.refundedMinor,
    some row.chargebackMinor, row.currency, row.processorId, row.merchantId⟩

/-! ## A single run -/

/-- The monetary events of the valid transactions. -/
def validMonetary (rows : List AcceptedEventRow) : List AcceptedEventRow :=
  (rows.filter fun row => lifecycleError row.transactionId rows = none).filter isMonetary

/-- A single run into empty tables writes what reconstruction and posting return, since merging
into an empty table inserts everything. -/
theorem single_run_ok {rows : List AcceptedEventRow}
    (keyed : Keyed AcceptedEventRow.eventId rows) :
    singleRun rows = .ok ⟨rows, (reconstruct rows).1, (reconstruct rows).2, validMonetary rows,
      doubleEntry (validMonetary rows)⟩ := by
  have affected : affectedHistory (fun _ => true) rows = rows := by
    rw [affectedHistory, List.filter_true]
    exact semi_join_all fun row member => List.mem_dedup.mpr (List.mem_map_of_mem member)
  have exceptions : (reconstruct rows).2.map BusinessExceptionRow.eventId =
      (rows.filter fun row => lifecycleError row.transactionId rows ≠ none).map
        AcceptedEventRow.eventId := by
    rw [← reconstruct_exception_events, List.map_map]
    rfl
  have valid : leftAnti AcceptedEventRow.eventId
      ((reconstruct rows).2.map BusinessExceptionRow.eventId) rows =
        rows.filter fun row => lifecycleError row.transactionId rows = none := by
    rw [exceptions, leftAnti]
    refine List.filter_congr fun row member => decide_eq_decide.mpr ?_
    constructor
    · intro fresh
      by_contra fails
      exact fresh (List.mem_map_of_mem (List.mem_filter.mpr ⟨member, by simpa using fails⟩))
    · intro passes listed
      obtain ⟨other, inside, same⟩ := List.mem_map.mp listed
      obtain ⟨here, fails⟩ := List.mem_filter.mp inside
      rw [keyed.unique here member same] at fails
      exact of_decide_eq_true fails passes
  have selected : selectedEvents (fun _ => true)
      ⟨rows, (reconstruct rows).1, (reconstruct rows).2, [], []⟩ = validMonetary rows := by
    simp only [selectedEvents, affected, valid]
    rfl
  have reconstructed : reconstructPaymentState (fun _ => true)
      { emptyWarehouse with acceptedEvent := rows } =
        .ok ⟨rows, (reconstruct rows).1, (reconstruct rows).2, [], []⟩ := by
    simp only [reconstructPaymentState, affected, emptyWarehouse, merge_update_empty]
    rfl
  rw [singleRun, jobs, reconstructed]
  show postLedger (fun _ => true) ⟨rows, (reconstruct rows).1, (reconstruct rows).2, [], []⟩ = _
  simp only [postLedger, selected, posting_lines_ok, merge_insert_empty]
  rfl

/-- The posted events of a transaction are the monetary ones of its history, or none where it is
invalid. -/
theorem valid_monetary_group (rows : List AcceptedEventRow) (transactionId : Identifier) :
    group AcceptedEventRow.transactionId transactionId (validMonetary rows) =
      if lifecycleError transactionId rows = none then
        (group AcceptedEventRow.transactionId transactionId rows).filter isMonetary
      else [] := by
  have parts : group AcceptedEventRow.transactionId transactionId (validMonetary rows) =
      ((group AcceptedEventRow.transactionId transactionId rows).filter fun _ =>
        lifecycleError transactionId rows = none).filter isMonetary := by
    simp only [group, validMonetary, List.filter_filter]
    refine List.filter_congr fun row _ => ?_
    by_cases same : row.transactionId = transactionId
    · subst same
      cases isMonetary row <;> simp
    · simp [same]
  rw [parts]
  by_cases passes : lifecycleError transactionId rows = none
  · simp [passes]
  · simp [passes]

/-! ## The shipped rules -/

/-- Under the shipped rules a history posts its monetary events: a rule is empty for
authorizations, and has two entries for each other type. -/
theorem shipped_posted {events : List PaymentEvent}
    (storable : ∀ event ∈ events, Storable event) :
    ((events.map acceptedRow).filter isMonetary).map corePosted =
      events.flatMap (postedRows shippedRules) := by
  have rows : events.flatMap (postedRows shippedRules) = events.flatMap fun event =>
      if isMonetary (acceptedRow event) then [postedRow event] else [] := by
    refine List.flatMap_congr fun event _ => ?_
    cases kind : event.eventType <;>
      simp [postedRows, postings, shippedRules, shippedLines, numberedLines, isMonetary,
        acceptedRow, kind]
  rw [rows, flat_map_when, ← List.map_eq_flatMap, List.filter_map, List.map_map]
  refine List.map_congr_left fun event member => ?_
  have minor := (accepted_row_columns (storable event (List.mem_filter.mp member).1)).2
  simp only [Function.comp_apply, corePosted, minor]
  rfl

/-- A line and the entry of a rule that it stands for agree in everything, the identifier
included; the job writes version one of the rules. -/
theorem core_line {event : PaymentEvent} {position : Nat} {text account : Str}
    {signedMinor multiplier : Int} (spelled : decimal position = text)
    (minor : signedMinor = event.amountMinor * multiplier) :
    coreLine (entryLine text account signedMinor (acceptedRow event)) =
      postingLine event 1 position (account, multiplier) := by
  have named := entry_line_id (acceptedRow event) account signedMinor spelled
  rw [coreLine, named, postingLine, minor]
  rfl

/-- Under the shipped rules a monetary event has its debit and its credit line. -/
theorem shipped_postings {event : PaymentEvent} (storable : Storable event) :
    postings shippedRules event =
      if isMonetary (acceptedRow event) then
        [coreLine (debit (acceptedRow event)), coreLine (credit (acceptedRow event))]
      else [] := by
  have minor := (accepted_row_columns storable).2
  have negated : bigint (-event.amountMinor) = -event.amountMinor := by
    have positive := event.amountPositive
    have range := storable.2
    unfold Int64 at range
    exact bigint_of_fits (by omega) (by omega)
  have debitLine : coreLine (debit (acceptedRow event)) =
      postingLine event 1 1 (debitAccount event.eventType, 1) :=
    core_line rfl (by rw [minor, mul_one])
  have creditLine : coreLine (credit (acceptedRow event)) =
      postingLine event 1 2 (creditAccount event.eventType, -1) :=
    core_line rfl (by rw [minor, negated, mul_neg, mul_one])
  rw [debitLine, creditLine]
  cases kind : event.eventType <;>
    simp [postings, shippedRules, shippedLines, numberedLines, isMonetary, acceptedRow, kind,
      debitAccount, creditAccount]

/-- Under the shipped rules a history has the double-entry lines of its events. -/
theorem shipped_double_entry {events : List PaymentEvent}
    (storable : ∀ event ∈ events, Storable event) :
    ((doubleEntry ((events.map acceptedRow).filter isMonetary)).map coreLine).Perm
      (events.flatMap (postings shippedRules)) := by
  have lines : events.flatMap (postings shippedRules) = (events.filter fun event =>
      isMonetary (acceptedRow event)).flatMap fun event =>
        [coreLine (debit (acceptedRow event)), coreLine (credit (acceptedRow event))] := by
    rw [← flat_map_when]
    exact List.flatMap_congr fun event member => shipped_postings (storable event member)
  rw [lines, doubleEntry, List.filter_filter, List.filter_map]
  simp only [Bool.and_self, List.map_append, List.map_map]
  have pairs := List.map_append_flatMap_perm
    (events.filter fun event => isMonetary (acceptedRow event))
    (fun event => coreLine (debit (acceptedRow event)))
    fun event => [coreLine (credit (acceptedRow event))]
  rw [← List.map_eq_flatMap] at pairs
  exact pairs

/-! ## One transaction -/

section Transaction

variable {accepted : List PaymentEvent} {transactionId : Identifier}

/-- The rows of a transaction are the rows of its events, as the key is kept. -/
theorem group_rows : group AcceptedEventRow.transactionId transactionId (accepted.map acceptedRow) =
    (group PaymentEvent.transactionId transactionId accepted).map acceptedRow := by
  rw [group, List.filter_map]
  rfl

/-- The history of a transaction is its group in another order. -/
theorem history_perm_group (accepted : List PaymentEvent) (transactionId : Identifier) :
    (history accepted transactionId).Perm
      (group PaymentEvent.transactionId transactionId accepted) :=
  List.perm_insertionSort inOrder _

/-- Sums that fit in one order fit in the other, since the condition is on sums and not on running
sums. -/
theorem sums_fit_history
    (fits : SumsFit (group PaymentEvent.transactionId transactionId accepted)) :
    SumsFit (history accepted transactionId) := by
  have same := history_perm_group accepted transactionId
  have totals (eventType : EventType) : amount (ofType eventType (history accepted transactionId)) =
      amount (ofType eventType (group PaymentEvent.transactionId transactionId accepted)) :=
    ((same.filter _).map _).sum_eq
  have count : (ofType .authorization (history accepted transactionId)).length =
      (ofType .authorization (group PaymentEvent.transactionId transactionId accepted)).length :=
    (same.filter _).length_eq
  obtain ⟨authorizations, captured, refunded, chargedBack, reversed⟩ := fits
  unfold capturedMinor refundedMinor chargebackMinor at *
  refine ⟨?_, ?_, ?_, ?_, ?_⟩
  · rwa [count]
  · rwa [capturedMinor, totals]
  · rwa [refundedMinor, totals]
  · rwa [chargebackMinor, totals]
  · rwa [refundedMinor, chargebackMinor, totals, totals]

variable (listed : transactionId ∈ transactionIds accepted)
variable (storable : ∀ event ∈ accepted, Storable event)
variable (fits : SumsFit (group PaymentEvent.transactionId transactionId accepted))

include listed storable fits

/-- The window columns of a listed transaction are the numbers of its history in the core. -/
theorem transaction_columns :
    WindowColumns (aggregates (accepted.map acceptedRow) transactionId)
      (history accepted transactionId) := by
  have columns := window_columns (history_nonempty listed)
    (fun event member => history_transaction member)
    (fun event member => storable event (mem_history.mp member).1) (sums_fit_history fits)
  rw [aggregates_perm ((history_perm_group ..).map acceptedRow), ← group_rows, aggregates_group]
    at columns
  exact columns

/-- Both sides classify a transaction alike, with the same reason where it is invalid. -/
theorem transaction_verdict : lifecycleError transactionId (accepted.map acceptedRow) =
    verdict (history accepted transactionId) :=
  classification_agrees (history_nonempty listed) (transaction_columns listed storable fits)
    (sums_fit_history fits)

/-- The exceptions of a transaction are the same on both sides, up to their order. -/
theorem transaction_exceptions :
    ((group BusinessExceptionRow.transactionId transactionId
      (reconstruct (accepted.map acceptedRow)).2).map coreException).Perm
        (projection shippedRules (history accepted transactionId)).exceptions := by
  have agrees := transaction_verdict listed storable fits
  rw [reconstruct_exceptions, historyExceptions, lifecycle_error_group, agrees]
  cases judged : verdict (history accepted transactionId) with
  | none =>
    obtain ⟨current, last⟩ := last_exists (history_nonempty listed)
    rw [projection_valid last judged]
    exact List.Perm.refl _
  | some reason =>
    rw [projection_invalid (history_nonempty listed) judged]
    simp only [group_rows, List.map_map]
    exact (history_perm_group ..).symm.map _

/-- The state row of a valid transaction is that of its last event. -/
theorem transaction_state :
    group PaymentStateRow.transactionId transactionId
        (reconstruct (accepted.map acceptedRow)).1 =
      (projection shippedRules (history accepted transactionId)).states.map warehouseState := by
  have agrees := transaction_verdict listed storable fits
  have columns := transaction_columns listed storable fits
  have read (event : PaymentEvent) (member : event ∈ history accepted transactionId) :=
    accepted_row_columns (storable event (mem_history.mp member).1)
  rw [reconstruct_current, historyState, lifecycle_error_group, agrees, aggregates_group]
  cases judged : verdict (history accepted transactionId) with
  | some reason =>
    rw [projection_invalid (history_nonempty listed) judged]
    rfl
  | none =>
    obtain ⟨current, last⟩ := last_exists (history_nonempty listed)
    rw [projection_valid last judged]
    have valid := verdict_none.mp judged
    have isLast : current ∈ history accepted transactionId := List.mem_of_getLast? last
    have first : firstRow latest (group AcceptedEventRow.transactionId transactionId
        (accepted.map acceptedRow)) = [acceptedRow current] := by
      rw [group_rows]
      refine first_row_of_best (List.mem_map_of_mem (mem_group.mpr (mem_history.mp isLast))) ?_
      intro row member before
      obtain ⟨event, inside, rfl⟩ := List.mem_map.mp member
      have here : event ∈ history accepted transactionId :=
        mem_history.mpr (mem_group.mp inside)
      by_contra other
      have lower := last_highest valid last here fun same => other (congrArg acceptedRow same)
      have versions : (acceptedRow current).transactionVersion ≤
          (acceptedRow event).transactionVersion := Prod.Lex.monotone_fst _ _ before
      rw [(read current isLast).1, (read event here).1] at versions
      exact absurd lower (not_lt.mpr versions)
    have status := status_agrees valid columns (sums_fit_history fits)
    have authorized := (authorized_column valid columns).1
    rw [if_pos rfl, first]
    simp only [List.map_cons, List.map_nil, currentState, warehouseState, stateRow, status,
      authorized, columns.capturedMinor, columns.refundedMinor, columns.chargebackMinor,
      (read current isLast).1]
    rfl

/-- The posted events of a transaction are the same on both sides, up to their order. -/
theorem transaction_posted :
    ((group AcceptedEventRow.transactionId transactionId
      (validMonetary (accepted.map acceptedRow))).map corePosted).Perm
        (projection shippedRules (history accepted transactionId)).posted := by
  have agrees := transaction_verdict listed storable fits
  rw [valid_monetary_group, agrees]
  cases judged : verdict (history accepted transactionId) with
  | some reason =>
    rw [projection_invalid (history_nonempty listed) judged]
    exact List.Perm.refl _
  | none =>
    obtain ⟨current, last⟩ := last_exists (history_nonempty listed)
    have events : ∀ event ∈ history accepted transactionId, Storable event :=
      fun event member => storable event (mem_history.mp member).1
    rw [projection_valid last judged]
    simp only [↓reduceIte, group_rows]
    rw [← shipped_posted events]
    exact (((history_perm_group ..).symm.map acceptedRow).filter isMonetary).map corePosted

/-- The lines of a transaction are the same on both sides, up to their order, with their
identifiers and signed amounts. -/
theorem transaction_lines :
    ((group LedgerEntryRow.transactionId transactionId
      (doubleEntry (validMonetary (accepted.map acceptedRow)))).map coreLine).Perm
        (projection shippedRules (history accepted transactionId)).ledger := by
  have agrees := transaction_verdict listed storable fits
  rw [double_entry_group, valid_monetary_group, agrees]
  cases judged : verdict (history accepted transactionId) with
  | some reason =>
    rw [projection_invalid (history_nonempty listed) judged]
    exact List.Perm.refl _
  | none =>
    obtain ⟨current, last⟩ := last_exists (history_nonempty listed)
    have events : ∀ event ∈ history accepted transactionId, Storable event :=
      fun event member => storable event (mem_history.mp member).1
    rw [projection_valid last judged]
    simp only [↓reduceIte, group_rows]
    refine List.Perm.trans ?_ (shipped_double_entry events)
    have rows := ((history_perm_group accepted transactionId).symm.map acceptedRow).filter
      isMonetary
    exact (double_entry_perm rows).map coreLine

end Transaction

/-! ## The whole run -/

/-- Rows that correspond transaction by transaction correspond as a whole, where each row belongs
to one of the listed transactions. -/
theorem perm_by_transaction {First Second : Type} {first : List First} {second : List Second}
    {ids : List Identifier} (unique : ids.Nodup) (key : First → Identifier)
    (other : Second → Identifier) (core : First → Second)
    (firstListed : ∀ row ∈ first, key row ∈ ids) (secondListed : ∀ row ∈ second, other row ∈ ids)
    (agrees : ∀ id ∈ ids, ((group key id first).map core).Perm (group other id second)) :
    (first.map core).Perm second := by
  have left := (perm_flat_map_group key unique firstListed).map core
  have right := perm_flat_map_group other unique secondListed
  rw [List.map_flatMap] at left
  exact (left.trans (List.Perm.flatMap_left ids agrees)).trans right.symm

/-- The shipped rules post every storable event: the multipliers are one and its negation, so no
amount leaves 64 bits. -/
theorem storable_postable {event : PaymentEvent} (storable : Storable event) :
    Postable shippedRules event := by
  have positive := event.amountPositive
  have range := storable.2
  unfold Int64 at range
  refine ⟨⟨_, rfl, ?_⟩, fun line member => ?_⟩
  · cases event.eventType <;> rfl
  · obtain ⟨_, _, _, _, _, version, _, entry, inside, account, minor⟩ := numbered_line member
    rw [account, minor, version]
    cases kind : event.eventType <;>
      simp only [shippedRules, kind, shippedLines, Option.getD_some, List.mem_cons,
        List.not_mem_nil, or_false] at inside
    all_goals
      rcases inside with rfl | rfl <;>
        exact ⟨by decide, by unfold Int64; omega, by decide⟩

section Run

variable {accepted : List PaymentEvent}

/-- The transaction of an accepted row is one of those that the core projects. -/
theorem row_listed {row : AcceptedEventRow} (member : row ∈ accepted.map acceptedRow) :
    row.transactionId ∈ transactionIds accepted := by
  obtain ⟨event, inside, rfl⟩ := List.mem_map.mp member
  exact mem_transaction_ids.mpr ⟨event, inside, rfl⟩

/-- The transaction of a valid row is one of those that the core projects. -/
theorem valid_listed {row : AcceptedEventRow}
    (member : row ∈ validMonetary (accepted.map acceptedRow)) :
    row.transactionId ∈ transactionIds accepted :=
  row_listed (List.mem_filter.mp (List.mem_filter.mp member).1).1

/-- A row that an accepted event is the source of belongs to a listed transaction. -/
theorem source_listed {eventId transactionId : Identifier}
    (source : ∃ event ∈ accepted, eventId = event.eventId ∧ transactionId = event.transactionId) :
    transactionId ∈ transactionIds accepted := by
  obtain ⟨event, member, _, rfl⟩ := source
  exact mem_transaction_ids.mpr ⟨event, member, rfl⟩

variable (storable : ∀ event ∈ accepted, Storable event)
variable (fits : ∀ id ∈ transactionIds accepted,
  SumsFit (group PaymentEvent.transactionId id accepted))

include storable fits

/-- The exceptions of the Spark job are those of the core, up to order.

Proof: both list the transactions one after another, and for each of them the two classifications
agree. -/
theorem exceptions_refine : ((reconstruct (accepted.map acceptedRow)).2.map coreException).Perm
    (projectAll shippedRules accepted).exceptions := by
  refine perm_by_transaction (transaction_ids_nodup accepted) BusinessExceptionRow.transactionId
    ExceptionRow.transactionId coreException ?_ ?_ fun id listed => ?_
  · intro row member
    have event : row.event ∈ (reconstruct (accepted.map acceptedRow)).2.map
        BusinessExceptionRow.event := List.mem_map_of_mem member
    rw [reconstruct_exception_events] at event
    exact row_listed (List.mem_filter.mp event).1
  · exact fun row member => source_listed (project_all_sources.1 row member)
  · rw [(project_all_group listed).1]
    exact transaction_exceptions listed storable (fits id listed)

/-- The state rows of the Spark job are those of the core, up to order. -/
theorem states_refine : (reconstruct (accepted.map acceptedRow)).1.Perm
    ((projectAll shippedRules accepted).states.map warehouseState) := by
  have states := @perm_by_transaction PaymentStateRow PaymentStateRow
    (reconstruct (accepted.map acceptedRow)).1
    ((projectAll shippedRules accepted).states.map warehouseState) _
    (transaction_ids_nodup accepted) PaymentStateRow.transactionId PaymentStateRow.transactionId id
  rw [List.map_id] at states
  refine states ?_ ?_ fun id listed => ?_
  · intro state member
    obtain ⟨row, inside, same⟩ := reconstruct_current_source member
    exact same ▸ row_listed inside
  · intro state member
    obtain ⟨row, inside, rfl⟩ := List.mem_map.mp member
    exact source_listed (project_all_sources.2.2.2 row inside)
  · have grouped : group PaymentStateRow.transactionId id
        ((projectAll shippedRules accepted).states.map warehouseState) =
          (group StateRow.transactionId id (projectAll shippedRules accepted).states).map
            warehouseState := by
      rw [group, List.filter_map]
      rfl
    rw [List.map_id, grouped, (project_all_group listed).2.2.2]
    exact List.Perm.of_eq (transaction_state listed storable (fits id listed))

/-- The posted events of the Spark job are those of the core, up to order. -/
theorem posted_refine : ((validMonetary (accepted.map acceptedRow)).map corePosted).Perm
    (projectAll shippedRules accepted).posted := by
  refine perm_by_transaction (transaction_ids_nodup accepted) AcceptedEventRow.transactionId
    PostedRow.transactionId corePosted (fun _ => valid_listed) ?_ fun id listed => ?_
  · exact fun row member => source_listed (project_all_sources.2.1 row member)
  · rw [(project_all_group listed).2.1]
    exact transaction_posted listed storable (fits id listed)

/-- The ledger lines of the Spark job are those of the core, up to order: for a valid transaction
each monetary event has its two lines in both. -/
theorem lines_refine :
    ((doubleEntry (validMonetary (accepted.map acceptedRow))).map coreLine).Perm
      (projectAll shippedRules accepted).ledger := by
  refine perm_by_transaction (transaction_ids_nodup accepted) LedgerEntryRow.transactionId
    PostingLine.transactionId coreLine ?_ ?_ fun id listed => ?_
  · intro line member
    obtain ⟨row, inside, _, _, same, _⟩ := mem_double_entry member
    exact same ▸ valid_listed inside
  · exact fun row member => source_listed (project_all_sources.2.2.1 row member)
  · rw [(project_all_group listed).2.2.1]
    exact transaction_lines listed storable (fits id listed)

end Run

/-- One run of the Spark jobs over the accepted events, into empty tables, writes what
a rebuild of the local store writes under the shipped posting rules. -/
theorem spark_refines_core {database : Database}
    (keyed : Keyed PaymentEvent.eventId database.tables.events)
    (storable : ∀ event ∈ database.tables.events, Storable event)
    (fits : ∀ id ∈ transactionIds database.tables.events,
      SumsFit (group PaymentEvent.transactionId id database.tables.events)) :
    ∃ rebuilt warehouse,
      within (rebuildProjections shippedRules).run database = .ok ((), rebuilt) ∧
      singleRun (database.tables.events.map acceptedRow) = .ok warehouse ∧
      (warehouse.businessException.map coreException).Perm rebuilt.tables.businessException ∧
      warehouse.paymentState.Perm (rebuilt.tables.paymentState.map warehouseState) ∧
      (warehouse.postedEvent.map corePosted).Perm rebuilt.tables.postedEvent ∧
      (warehouse.ledgerEntry.map coreLine).Perm rebuilt.tables.ledgerEntry := by
  have rowsKeyed : Keyed AcceptedEventRow.eventId (database.tables.events.map acceptedRow) := by
    rw [Keyed, List.map_map]
    exact keyed
  have postable : AllPostable shippedRules database.tables.events := fun _ _ _ event member =>
    storable_postable (storable event (mem_history.mp member).1)
  exact ⟨_, _, (rebuild_ok keyed storable).mpr ⟨postable, rfl⟩, single_run_ok rowsKeyed,
    exceptions_refine storable fits, states_refine storable fits, posted_refine storable fits,
    lines_refine storable fits⟩

/-- The sums of the sample payment fit. -/
theorem sample_sums_fit : ∀ id ∈ transactionIds sampleDatabase.tables.events,
    SumsFit (group PaymentEvent.transactionId id sampleDatabase.tables.events) := by
  decide +kernel

/-- The sample payment has the same rows in the warehouse and in the store. -/
theorem spark_refines_core_sample :
    ∃ rebuilt warehouse,
      within (rebuildProjections shippedRules).run sampleDatabase = .ok ((), rebuilt) ∧
      singleRun (sampleDatabase.tables.events.map acceptedRow) = .ok warehouse ∧
      (warehouse.businessException.map coreException).Perm rebuilt.tables.businessException ∧
      warehouse.paymentState.Perm (rebuilt.tables.paymentState.map warehouseState) ∧
      (warehouse.postedEvent.map corePosted).Perm rebuilt.tables.postedEvent ∧
      (warehouse.ledgerEntry.map coreLine).Perm rebuilt.tables.ledgerEntry := by
  have identified := (reachable_consistent sample_reachable).identified
  exact @spark_refines_core sampleDatabase identified.keyed identified.storable sample_sums_fit

end LedgerFlow.Spark
