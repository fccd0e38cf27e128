import LedgerFlow.Spark.Posting

/-!
# The warehouse and its jobs

`ingestAcceptedEvents`, `reconstructPaymentState` and `postLedger` follow the `main`
functions of the three jobs: each reads whole tables and merges into its targets. The
last two restrict themselves to the transactions with a touched row; a daily job
touches the rows of its business date. Dates are those of a session in UTC.

`Sound` is the invariant of a warehouse: event identifiers are unique, exceptions and
posted events are accepted rows, and the ledger holds the lines of the posted events.
`JobEffect` says what reconstruction and posting, one after the other, do to one
transaction, in terms of that transaction alone; `jobs_ok` proves it of any sound
warehouse.
-/

namespace LedgerFlow.Spark

open PyText PyDateTime Grouping Dataframe

/-! ## Tables -/

/-- The tables of the warehouse. -/
structure Warehouse where
  acceptedEvent : List AcceptedEventRow
  paymentState : List PaymentStateRow
  businessException : List BusinessExceptionRow
  postedEvent : List AcceptedEventRow
  ledgerEntry : List LedgerEntryRow

/-- New tables. -/
def emptyWarehouse : Warehouse := ⟨[], [], [], [], []⟩

/-- A row of the view `dim_payment_current`. -/
structure PaymentCurrentRow where
  state : PaymentStateRow
  netProcessorReceivableMinor : Option Int
  deriving DecidableEq

/-- `captured_minor - refunded_minor - chargeback_minor` -/
def netProcessorReceivable (state : PaymentStateRow) : Option Int := do
  return (← state.capturedMinor) - (← state.refundedMinor) - (← state.chargebackMinor)

/-- `dim_payment_current`: the state rows of transactions without an exception. -/
def dimPaymentCurrent (warehouse : Warehouse) : List PaymentCurrentRow :=
  (leftAnti PaymentStateRow.transactionId
    (warehouse.businessException.map BusinessExceptionRow.transactionId)
    warehouse.paymentState).map fun state => ⟨state, netProcessorReceivable state⟩

/-! ## Jobs -/

/-- The whole history of every transaction with a touched row. -/
def affectedHistory (touched : AcceptedEventRow → Bool) (accepted : List AcceptedEventRow) :
    List AcceptedEventRow :=
  semiJoin AcceptedEventRow.transactionId
    (keysOf AcceptedEventRow.transactionId (accepted.filter touched)) accepted

/-- The merged table, or the failure of the merge. -/
def merged {Row : Type} : Option (List Row) → Py (List Row)
  | some rows => .ok rows
  | none => .error (.other (str "MERGE_CARDINALITY_VIOLATION"))

/-- `ingest_accepted_events.main` on the accepted objects under its source path. -/
def ingestAcceptedEvents (objects : List PaymentEvent) (warehouse : Warehouse) : Warehouse :=
  { warehouse with
    acceptedEvent := mergeInsert AcceptedEventRow.eventId warehouse.acceptedEvent
      (objects.map acceptedRow) }

/-- `reconstruct_payment_state.main` for the touched rows. -/
def reconstructPaymentState (touched : AcceptedEventRow → Bool) (warehouse : Warehouse) :
    Py Warehouse := do
  let (current, exceptions) := reconstruct (affectedHistory touched warehouse.acceptedEvent)
  let paymentState ←
    merged (mergeUpdate PaymentStateRow.transactionId warehouse.paymentState current)
  let businessException ←
    merged (mergeUpdate BusinessExceptionRow.eventId warehouse.businessException exceptions)
  .ok { warehouse with paymentState, businessException }

/-- The events that `post_ledger.main` selects. -/
def selectedEvents (touched : AcceptedEventRow → Bool) (warehouse : Warehouse) :
    List AcceptedEventRow :=
  (leftAnti AcceptedEventRow.eventId
    (warehouse.businessException.map BusinessExceptionRow.eventId)
    (affectedHistory touched warehouse.acceptedEvent)).filter isMonetary

/-- `post_ledger.main` for the touched rows. -/
def postLedger (touched : AcceptedEventRow → Bool) (warehouse : Warehouse) : Py Warehouse := do
  let monetary := selectedEvents touched warehouse
  let lines ← postingLines monetary
  .ok { warehouse with
    postedEvent := mergeInsert AcceptedEventRow.eventId warehouse.postedEvent monetary
    ledgerEntry := mergeInsert LedgerEntryRow.entryId warehouse.ledgerEntry lines }

/-- Reconstruction, then posting. -/
def jobs (touched : AcceptedEventRow → Bool) (warehouse : Warehouse) : Py Warehouse := do
  let reconstructed ← reconstructPaymentState touched warehouse
  postLedger touched reconstructed

/-- `to_date(event_time) = business_date` -/
def onDate (businessDate : Date) (row : AcceptedEventRow) : Bool :=
  decide (row.eventTime.utcDate = businessDate)

/-- The accepted objects under `accepted/event_date=<business date>/`. -/
def objectsOf (businessDate : Date) (bucket : List PaymentEvent) : List PaymentEvent :=
  bucket.filter fun event => event.eventTime.date = businessDate

/-- The three jobs of a business date. -/
def dailyRun (bucket : List PaymentEvent) (businessDate : Date) (warehouse : Warehouse) :
    Py Warehouse :=
  jobs (onDate businessDate) (ingestAcceptedEvents (objectsOf businessDate bucket) warehouse)

/-- One run over a whole table, into empty target tables. -/
def singleRun (accepted : List AcceptedEventRow) : Py Warehouse :=
  jobs (fun _ => true) { emptyWarehouse with acceptedEvent := accepted }

/-! ## Affected histories -/

/-- The transaction has a touched row. -/
def Touches (touched : AcceptedEventRow → Bool) (accepted : List AcceptedEventRow)
    (transactionId : Identifier) : Prop :=
  ∃ row ∈ accepted, touched row = true ∧ row.transactionId = transactionId

section Affected

variable {touched : AcceptedEventRow → Bool} {accepted : List AcceptedEventRow}

/-- The transactions listed for a run are those that it touches. -/
theorem listed_touches {transactionId : Identifier} :
    transactionId ∈ keysOf AcceptedEventRow.transactionId (accepted.filter touched) ↔
      Touches touched accepted transactionId := by
  rw [keysOf, List.mem_dedup, List.mem_map, Touches]
  refine exists_congr fun other => ?_
  rw [List.mem_filter, and_assoc]

/-- The affected history has all accepted rows of the touched transactions, whatever their
date. -/
theorem mem_affected {row : AcceptedEventRow} : row ∈ affectedHistory touched accepted ↔
    row ∈ accepted ∧ Touches touched accepted row.transactionId := by
  rw [affectedHistory, mem_semi_join, listed_touches]

/-- The event ids of the affected history are distinct, as those of the accepted rows are. -/
theorem affected_keyed (keyed : Keyed AcceptedEventRow.eventId accepted) :
    Keyed AcceptedEventRow.eventId (affectedHistory touched accepted) :=
  keyed.sublist (List.filter_sublist.map _)

/-- An affected transaction is affected with its whole history, also with the events of other
dates. This is what makes the run of one date see a complete transaction. -/
theorem affected_group {transactionId : Identifier}
    (affected : Touches touched accepted transactionId) :
    group AcceptedEventRow.transactionId transactionId (affectedHistory touched accepted) =
      group AcceptedEventRow.transactionId transactionId accepted :=
  semi_join_group (listed_touches.mpr affected) accepted

/-- A transaction that is not touched has no row in the affected history. -/
theorem unaffected_group {transactionId : Identifier}
    (unaffected : ¬ Touches touched accepted transactionId) :
    group AcceptedEventRow.transactionId transactionId (affectedHistory touched accepted) = [] :=
  group_nil fun _ member same => unaffected (same ▸ (mem_affected.mp member).2)

end Affected

/-! ## The rows of a history -/

section History

variable {transactionId : Identifier} {history : List AcceptedEventRow}

/-- The state row of a history carries its transaction. -/
theorem history_state_transaction (within : ∀ row ∈ history, row.transactionId = transactionId)
    {state : PaymentStateRow} (member : state ∈ historyState transactionId history) :
    state.transactionId = transactionId := by
  unfold historyState at member
  split at member
  · obtain ⟨row, head, rfl⟩ := List.mem_map.mp member
    have inside := List.mem_of_head? (Option.mem_toList.mp head)
    exact within row ((List.mem_insertionSort latest).mp inside)
  · cases member

/-- A valid history has one state row, an invalid one none, and there is no third case. -/
theorem history_state_valid (nonempty : history ≠ []) :
    lifecycleError transactionId history = none ↔
      ∃ state, historyState transactionId history = [state] := by
  unfold historyState
  constructor
  · intro passes
    rw [if_pos passes]
    cases sorted : history.insertionSort latest with
    | nil =>
      have same := List.perm_insertionSort latest history
      rw [sorted] at same
      exact absurd (List.nil_perm.mp same) nonempty
    | cons row rest => exact ⟨_, by rw [firstRow, sorted]; rfl⟩
  · rintro ⟨state, single⟩
    by_contra fails
    rw [if_neg fails] at single
    cases single

end History

/-- The incoming exceptions are the rows of the invalid transactions, each classified by its own
history. -/
theorem mem_reconstruct_exceptions {events : List AcceptedEventRow} {event : AcceptedEventRow} :
    event ∈ (reconstruct events).2.map BusinessExceptionRow.event ↔
      event ∈ events ∧ lifecycleError event.transactionId
        (group AcceptedEventRow.transactionId event.transactionId events) ≠ none := by
  rw [reconstruct_exception_events, List.mem_filter, lifecycle_error_group, decide_eq_true_eq]

/-- The incoming exceptions have distinct event identifiers, which the merge needs where it
matches. -/
theorem reconstruct_exceptions_keyed {events : List AcceptedEventRow}
    (keyed : Keyed AcceptedEventRow.eventId events) :
    Keyed BusinessExceptionRow.eventId (reconstruct events).2 := by
  have ids : (reconstruct events).2.map BusinessExceptionRow.eventId =
      ((reconstruct events).2.map BusinessExceptionRow.event).map AcceptedEventRow.eventId :=
    (List.map_map ..).symm
  rw [Keyed, ids, reconstruct_exception_events]
  exact keyed.sublist (List.filter_sublist.map _)

/-- The incoming state rows have distinct transactions, which the merge needs where it matches. -/
theorem reconstruct_current_keyed (events : List AcceptedEventRow) :
    Keyed PaymentStateRow.transactionId (reconstruct events).1 := by
  refine keyed_of_groups fun transactionId => ?_
  rw [reconstruct_current]
  by_cases empty : group AcceptedEventRow.transactionId transactionId events = []
  · rw [empty]
    exact Nat.zero_le 1
  · by_cases passes : lifecycleError transactionId
        (group AcceptedEventRow.transactionId transactionId events) = none
    · obtain ⟨state, single⟩ := (history_state_valid empty).mp passes
      rw [single]
      exact le_refl 1
    · rw [historyState, if_neg passes]
      exact Nat.zero_le 1

/-! ## The invariant -/

/-- A warehouse that runs have left. -/
structure Sound (warehouse : Warehouse) : Prop where
  accepted : Keyed AcceptedEventRow.eventId warehouse.acceptedEvent
  states : Keyed PaymentStateRow.transactionId warehouse.paymentState
  exceptions : ∀ row ∈ warehouse.businessException, row.event ∈ warehouse.acceptedEvent
  posted : ∀ row ∈ warehouse.postedEvent, row ∈ warehouse.acceptedEvent ∧ isMonetary row = true
  postedKeyed : Keyed AcceptedEventRow.eventId warehouse.postedEvent
  ledger : warehouse.ledgerEntry.Perm (doubleEntry warehouse.postedEvent)

/-- Tables without projections are sound, with nothing that could be wrong. -/
theorem sound_unprojected {accepted : List AcceptedEventRow}
    (keyed : Keyed AcceptedEventRow.eventId accepted) :
    Sound { emptyWarehouse with acceptedEvent := accepted } where
  accepted := keyed
  states := List.nodup_nil
  exceptions := fun _ none => absurd none List.not_mem_nil
  posted := fun _ none => absurd none List.not_mem_nil
  postedKeyed := List.nodup_nil
  ledger := List.Perm.refl _

/-- The history of a transaction in the accepted table. -/
def Warehouse.history (warehouse : Warehouse) (transactionId : Identifier) :
    List AcceptedEventRow :=
  group AcceptedEventRow.transactionId transactionId warehouse.acceptedEvent

/-- The jobs read the transaction and find it valid. -/
def FoundValid (touched : AcceptedEventRow → Bool) (warehouse : Warehouse)
    (transactionId : Identifier) : Prop :=
  Touches touched warehouse.acceptedEvent transactionId ∧
    lifecycleError transactionId (warehouse.history transactionId) = none

/-- The jobs read the transaction and find it invalid. -/
def FoundInvalid (touched : AcceptedEventRow → Bool) (warehouse : Warehouse)
    (transactionId : Identifier) : Prop :=
  Touches touched warehouse.acceptedEvent transactionId ∧
    lifecycleError transactionId (warehouse.history transactionId) ≠ none

/-- The events that the exception table holds. -/
def Warehouse.excepted (warehouse : Warehouse) : List AcceptedEventRow :=
  warehouse.businessException.map BusinessExceptionRow.event

/-- What reconstruction does: a transaction that is found valid gets the state row of
its history, the events of one that is found invalid become exceptions, and nothing
else happens. -/
structure ReconstructEffect (touched : AcceptedEventRow → Bool) (before after : Warehouse) :
    Prop where
  accepted : after.acceptedEvent = before.acceptedEvent
  posted : after.postedEvent = before.postedEvent
  ledger : after.ledgerEntry = before.ledgerEntry
  states : ∀ state, state ∈ after.paymentState ↔
    (FoundValid touched before state.transactionId ∧
      state ∈ historyState state.transactionId (before.history state.transactionId)) ∨
    (¬ FoundValid touched before state.transactionId ∧ state ∈ before.paymentState)
  excepted : ∀ event, event ∈ after.excepted ↔ event ∈ before.excepted ∨
    (event ∈ before.acceptedEvent ∧ FoundInvalid touched before event.transactionId)

/-- What posting does: monetary events of the touched transactions are posted unless
they are exceptions. -/
structure PostEffect (touched : AcceptedEventRow → Bool) (before after : Warehouse) : Prop where
  accepted : after.acceptedEvent = before.acceptedEvent
  states : after.paymentState = before.paymentState
  exceptions : after.businessException = before.businessException
  posted : ∀ row, row ∈ after.postedEvent ↔ row ∈ before.postedEvent ∨
    (row ∈ before.acceptedEvent ∧ Touches touched before.acceptedEvent row.transactionId ∧
      isMonetary row = true ∧ row ∉ before.excepted)

section Effects

variable {touched : AcceptedEventRow → Bool} {before : Warehouse}

/-- The incoming state rows of a transaction are those of its whole accepted history, where the
run touches it and finds it valid. -/
theorem mem_incoming_states {state : PaymentStateRow} :
    state ∈ (reconstruct (affectedHistory touched before.acceptedEvent)).1 ↔
      FoundValid touched before state.transactionId ∧
        state ∈ historyState state.transactionId (before.history state.transactionId) := by
  have grouped : state ∈ (reconstruct (affectedHistory touched before.acceptedEvent)).1 ↔
      state ∈ group PaymentStateRow.transactionId state.transactionId
        (reconstruct (affectedHistory touched before.acceptedEvent)).1 := by
    rw [mem_group]
    exact (and_iff_left rfl).symm
  rw [grouped, reconstruct_current]
  by_cases affected : Touches touched before.acceptedEvent state.transactionId
  · rw [affected_group affected]
    constructor
    · intro member
      by_cases passes : lifecycleError state.transactionId
          (before.history state.transactionId) = none
      · exact ⟨⟨affected, passes⟩, member⟩
      · rw [historyState] at member
        exact absurd (if_neg passes ▸ member) List.not_mem_nil
    · exact fun found => found.2
  · rw [unaffected_group affected]
    constructor
    · intro member
      unfold historyState at member
      split at member
      · cases member
      · cases member
    · exact fun found => absurd found.1.1 affected

/-- A transaction has an incoming state row exactly when it is found valid. -/
theorem incoming_state {transactionId : Identifier} :
    transactionId ∈ (reconstruct (affectedHistory touched before.acceptedEvent)).1.map
        PaymentStateRow.transactionId ↔ FoundValid touched before transactionId := by
  constructor
  · intro listed
    obtain ⟨state, member, rfl⟩ := List.mem_map.mp listed
    exact (mem_incoming_states.mp member).1
  · intro found
    obtain ⟨row, member, _, same⟩ := found.1
    have nonempty : before.history transactionId ≠ [] :=
      List.ne_nil_of_mem (mem_group.mpr ⟨member, same⟩)
    obtain ⟨state, single⟩ := (history_state_valid nonempty).mp found.2
    have here : state ∈ historyState transactionId (before.history transactionId) :=
      single ▸ List.mem_singleton_self state
    have sameTransaction : state.transactionId = transactionId :=
      history_state_transaction (fun row inside => (mem_group.mp inside).2) here
    refine List.mem_map.mpr ⟨state, mem_incoming_states.mpr ?_, sameTransaction⟩
    rw [sameTransaction]
    exact ⟨found, here⟩

/-- The incoming exceptions are the events of the transactions found invalid, of all their
dates. -/
theorem mem_incoming_exceptions {event : AcceptedEventRow} :
    event ∈ (reconstruct (affectedHistory touched before.acceptedEvent)).2.map
        BusinessExceptionRow.event ↔
      event ∈ before.acceptedEvent ∧ FoundInvalid touched before event.transactionId := by
  rw [mem_reconstruct_exceptions, mem_affected]
  constructor
  · rintro ⟨⟨member, affected⟩, fails⟩
    rw [affected_group affected] at fails
    exact ⟨member, affected, fails⟩
  · rintro ⟨member, affected, fails⟩
    rw [affected_group affected]
    exact ⟨⟨member, affected⟩, fails⟩

/-- Reconstruction completes on a sound warehouse, has its effect and keeps it sound. -/
theorem reconstruct_ok (sound : Sound before) :
    ∃ after, reconstructPaymentState touched before = .ok after ∧
      ReconstructEffect touched before after ∧ Sound after := by
  let incoming := reconstruct (affectedHistory touched before.acceptedEvent)
  obtain ⟨states, statesMerged, statesRows, statesKeyed⟩ :=
    @merge_update_ok _ _ _ PaymentStateRow.transactionId before.paymentState incoming.1
      (reconstruct_current_keyed _)
  obtain ⟨exceptions, exceptionsMerged, exceptionRows, _⟩ :=
    @merge_update_ok _ _ _ BusinessExceptionRow.eventId before.businessException incoming.2
      (reconstruct_exceptions_keyed (affected_keyed sound.accepted))
  have sourced : ∀ row ∈ exceptions, row.event ∈ before.acceptedEvent := by
    intro row member
    rcases (exceptionRows row).mp member with new | ⟨old, _⟩
    · exact (mem_incoming_exceptions.mp (List.mem_map_of_mem new)).1
    · exact sound.exceptions row old
  refine ⟨{ before with paymentState := states, businessException := exceptions }, ?_, ?_, ?_⟩
  · show (merged (mergeUpdate PaymentStateRow.transactionId before.paymentState incoming.1) >>=
      fun paymentState => merged (mergeUpdate BusinessExceptionRow.eventId
        before.businessException incoming.2) >>= fun businessException =>
          Except.ok { before with paymentState, businessException }) = _
    rw [statesMerged, exceptionsMerged]
    rfl
  · refine ⟨rfl, rfl, rfl, fun state => ?_, fun event => ?_⟩
    · rw [statesRows, mem_incoming_states, incoming_state,
        and_comm (a := state ∈ before.paymentState)]
    · rw [← mem_incoming_exceptions]
      constructor
      · intro listed
        obtain ⟨row, member, rfl⟩ := List.mem_map.mp listed
        rcases (exceptionRows row).mp member with new | ⟨old, _⟩
        · exact .inr (List.mem_map_of_mem new)
        · exact .inl (List.mem_map_of_mem old)
      · rintro (old | new)
        · obtain ⟨row, member, rfl⟩ := List.mem_map.mp old
          by_cases replaced : row.eventId ∈ incoming.2.map BusinessExceptionRow.eventId
          · obtain ⟨other, inside, sameId⟩ := List.mem_map.mp replaced
            have here : other.event ∈ before.acceptedEvent :=
              (mem_incoming_exceptions.mp (List.mem_map_of_mem inside)).1
            have same : other.event = row.event :=
              sound.accepted.unique here (sound.exceptions row member) sameId
            exact List.mem_map.mpr ⟨other, (exceptionRows other).mpr (.inl inside), same⟩
          · exact List.mem_map_of_mem ((exceptionRows row).mpr (.inr ⟨member, replaced⟩))
        · obtain ⟨row, member, rfl⟩ := List.mem_map.mp new
          exact List.mem_map_of_mem ((exceptionRows row).mpr (.inl member))
  · exact ⟨sound.accepted, statesKeyed sound.states, sourced, sound.posted, sound.postedKeyed,
      sound.ledger⟩

/-- A reconstruction that completes has merged its state rows and its exceptions; it touches
nothing else, and removes no row. -/
theorem reconstruct_merged {after : Warehouse}
    (completes : reconstructPaymentState touched before = .ok after) :
    ∃ states exceptions,
      mergeUpdate PaymentStateRow.transactionId before.paymentState
        (reconstruct (affectedHistory touched before.acceptedEvent)).1 = some states ∧
      mergeUpdate BusinessExceptionRow.eventId before.businessException
        (reconstruct (affectedHistory touched before.acceptedEvent)).2 = some exceptions ∧
      after = { before with paymentState := states, businessException := exceptions } := by
  have merges {Row : Type} {table : Option (List Row)} {rows : List Row}
      (ends : merged table = .ok rows) : table = some rows := by
    cases table with
    | none => cases ends
    | some found => exact congrArg some (Except.ok.inj ends)
  obtain ⟨states, statesMerged, rest⟩ := bind_ok.mp completes
  obtain ⟨exceptions, exceptionsMerged, left⟩ := bind_ok.mp rest
  exact ⟨states, exceptions, merges statesMerged, merges exceptionsMerged,
    (Except.ok.inj left).symm⟩

/-- Posting always completes: it inserts the selected events and their lines. Its merges only
insert, so no row is ever matched twice, and the gate on the lines passes. -/
theorem post_ledger_eq : postLedger touched before = .ok { before with
    postedEvent := mergeInsert AcceptedEventRow.eventId before.postedEvent
      (selectedEvents touched before)
    ledgerEntry := mergeInsert LedgerEntryRow.entryId before.ledgerEntry
      (doubleEntry (selectedEvents touched before)) } := by
  simp only [postLedger, posting_lines_ok]
  rfl

/-- The events that posting selects are the monetary ones of touched transactions that no
exception names. It does not ask whether reconstruction has read them. -/
theorem mem_selected (sound : Sound before) {row : AcceptedEventRow} :
    row ∈ selectedEvents touched before ↔ row ∈ before.acceptedEvent ∧
      Touches touched before.acceptedEvent row.transactionId ∧ isMonetary row = true ∧
      row ∉ before.excepted := by
  rw [selectedEvents, List.mem_filter, mem_left_anti, mem_affected]
  have excepted (member : row ∈ before.acceptedEvent) :
      row.eventId ∈ before.businessException.map BusinessExceptionRow.eventId ↔
        row ∈ before.excepted := by
    constructor
    · intro listed
      obtain ⟨other, inside, same⟩ := List.mem_map.mp listed
      exact List.mem_map.mpr
        ⟨other, inside, sound.accepted.unique (sound.exceptions other inside) member same⟩
    · intro listed
      obtain ⟨other, inside, rfl⟩ := List.mem_map.mp listed
      exact List.mem_map_of_mem inside
  constructor
  · rintro ⟨⟨⟨member, affected⟩, valid⟩, monetary⟩
    exact ⟨member, affected, monetary, fun wrong => valid ((excepted member).mpr wrong)⟩
  · rintro ⟨member, affected, monetary, valid⟩
    exact ⟨⟨⟨member, affected⟩, fun wrong => valid ((excepted member).mp wrong)⟩, monetary⟩

/-- The events selected for posting have distinct ids. -/
theorem selected_keyed (sound : Sound before) :
    Keyed AcceptedEventRow.eventId (selectedEvents touched before) :=
  (affected_keyed sound.accepted).sublist
    ((List.filter_sublist.trans List.filter_sublist).map _)

/-- A sound ledger holds the line of an event at a position exactly when the event is
posted. -/
theorem ledger_holds (sound : Sound before) {eventId : Identifier} {position : Nat}
    (either : position = 1 ∨ position = 2) :
    entryId eventId position ∈ before.ledgerEntry.map LedgerEntryRow.entryId ↔
      eventId ∈ before.postedEvent.map AcceptedEventRow.eventId := by
  rw [(sound.ledger.map _).mem_iff]
  constructor
  · intro listed
    obtain ⟨line, member, named⟩ := List.mem_map.mp listed
    obtain ⟨row, inside, _, _, _, number, spelled⟩ := mem_double_entry member
    have same := (entry_id_injective (named.symm.trans spelled)).1
    exact same ▸ List.mem_map_of_mem inside
  · intro listed
    obtain ⟨row, member, rfl⟩ := List.mem_map.mp listed
    have monetary : row ∈ before.postedEvent.filter isMonetary :=
      List.mem_filter.mpr ⟨member, (sound.posted row member).2⟩
    rcases either with rfl | rfl
    · exact List.mem_map.mpr ⟨debit row, List.mem_append_left _ (List.mem_map_of_mem monetary),
        debit_id row⟩
    · exact List.mem_map.mpr ⟨credit row, List.mem_append_right _ (List.mem_map_of_mem monetary),
        credit_id row⟩

/-- The new lines are the lines of the new events: an event is posted with both its lines, so that
the two merges agree on what is new. -/
theorem new_lines (sound : Sound before) (events : List AcceptedEventRow) :
    leftAnti LedgerEntryRow.entryId (before.ledgerEntry.map LedgerEntryRow.entryId)
        (doubleEntry events) =
      doubleEntry (leftAnti AcceptedEventRow.eventId
        (before.postedEvent.map AcceptedEventRow.eventId) events) := by
  have lines (line : AcceptedEventRow → LedgerEntryRow) (position : Nat)
      (either : position = 1 ∨ position = 2)
      (named : ∀ row, (line row).entryId = entryId row.eventId position) :
      leftAnti LedgerEntryRow.entryId (before.ledgerEntry.map LedgerEntryRow.entryId)
          ((events.filter isMonetary).map line) =
        ((leftAnti AcceptedEventRow.eventId (before.postedEvent.map AcceptedEventRow.eventId)
          events).filter isMonetary).map line := by
    rw [leftAnti, List.filter_map, List.filter_filter, leftAnti, List.filter_filter]
    refine congrArg (List.map line) (List.filter_congr fun row _ => ?_)
    rw [Bool.and_comm]
    refine congrArg (isMonetary row && ·) (decide_eq_decide.mpr (not_congr ?_))
    rw [named row]
    exact ledger_holds sound either
  have whole : leftAnti LedgerEntryRow.entryId (before.ledgerEntry.map LedgerEntryRow.entryId)
      (doubleEntry events) =
        leftAnti LedgerEntryRow.entryId (before.ledgerEntry.map LedgerEntryRow.entryId)
            ((events.filter isMonetary).map debit) ++
          leftAnti LedgerEntryRow.entryId (before.ledgerEntry.map LedgerEntryRow.entryId)
            ((events.filter isMonetary).map credit) := List.filter_append ..
  rw [whole, lines debit 1 (.inl rfl) debit_id, lines credit 2 (.inr rfl) credit_id]
  rfl

/-- Posting completes on a sound warehouse, has its effect and keeps it sound. -/
theorem post_ok (sound : Sound before) :
    ∃ after, postLedger touched before = .ok after ∧
      PostEffect touched before after ∧ Sound after := by
  let selected := selectedEvents touched before
  let posted := mergeInsert AcceptedEventRow.eventId before.postedEvent selected
  have member (row : AcceptedEventRow) : row ∈ posted ↔ row ∈ before.postedEvent ∨
      row ∈ before.acceptedEvent ∧ Touches touched before.acceptedEvent row.transactionId ∧
        isMonetary row = true ∧ row ∉ before.excepted := by
    rw [mem_merge_insert, mem_selected sound]
    constructor
    · rintro (old | ⟨new, _⟩)
      · exact .inl old
      · exact .inr new
    · rintro (old | new)
      · exact .inl old
      · by_cases known : row.eventId ∈ before.postedEvent.map AcceptedEventRow.eventId
        · obtain ⟨other, inside, same⟩ := List.mem_map.mp known
          have here := sound.accepted.unique (sound.posted other inside).1 new.1 same
          exact .inl (here ▸ inside)
        · exact .inr ⟨new, known⟩
  refine ⟨{ before with
    postedEvent := posted
    ledgerEntry := mergeInsert LedgerEntryRow.entryId before.ledgerEntry
      (doubleEntry selected) }, post_ledger_eq, ⟨rfl, rfl, rfl, member⟩, ?_⟩
  · refine ⟨sound.accepted, sound.states, sound.exceptions, fun row inside => ?_,
      merge_insert_keyed sound.postedKeyed (selected_keyed sound), ?_⟩
    · rcases (member row).mp inside with old | ⟨accepted, _, monetary, _⟩
      · exact sound.posted row old
      · exact ⟨accepted, monetary⟩
    · show (before.ledgerEntry ++ leftAnti LedgerEntryRow.entryId
        (before.ledgerEntry.map LedgerEntryRow.entryId) (doubleEntry selected)).Perm _
      rw [new_lines sound]
      exact (sound.ledger.append_right _).trans (double_entry_append _ _).symm

/-- Both jobs complete on sound tables, one after the other, and leave them sound. -/
theorem jobs_ok (sound : Sound before) :
    ∃ between after, jobs touched before = .ok after ∧
      ReconstructEffect touched before between ∧ PostEffect touched between after ∧
      Sound after := by
  obtain ⟨between, reconstructed, first, kept⟩ := @reconstruct_ok touched before sound
  obtain ⟨after, posted, second, keptAfter⟩ := @post_ok touched between kept
  refine ⟨between, after, ?_, first, second, keptAfter⟩
  rw [jobs, reconstructed]
  exact posted

end Effects

end LedgerFlow.Spark
