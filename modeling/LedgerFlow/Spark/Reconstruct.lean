import LedgerFlow.Lifecycle
import LedgerFlow.Support.Dataframes

/-!
# Payment state by window aggregates

The definitions follow `reconstruct_payment_state.py`: `aggregates` holds the window
columns of a transaction, `businessError` the cascade that classifies it and
`statusColumn` the status of a valid one. `reconstruct` returns the incoming rows of
the state table and of the exception table; the column `processed_at` is not kept.

Every window is partitioned by transaction, so the rows of one transaction are a
function of its history, `historyState` and `historyExceptions`. Neither depends on
the order of the rows.
-/

namespace LedgerFlow.Spark

open PyText PyDateTime Grouping Dataframe

/-! ## Data model -/

/-- A row of `accepted_event`. -/
structure AcceptedEventRow where
  eventId : Identifier
  transactionId : Identifier
  transactionVersion : Int
  sourceId : Identifier
  processorId : Identifier
  merchantId : Identifier
  eventType : EventType
  amountMinor : Int
  currency : Currency
  eventTime : Timestamp
  receivedAt : Timestamp
  customerToken : Option AsciiText
  deriving DecidableEq

/-- The row of an accepted object: version and amount are cast to 64 bits. -/
def acceptedRow (event : PaymentEvent) : AcceptedEventRow where
  eventId := event.eventId
  transactionId := event.transactionId
  transactionVersion := bigint event.transactionVersion
  sourceId := event.sourceId
  processorId := event.processorId
  merchantId := event.merchantId
  eventType := event.eventType
  amountMinor := bigint event.amountMinor
  currency := event.currency
  eventTime := event.eventTime
  receivedAt := event.receivedAt
  customerToken := event.customerToken

/-- A row of `payment_state`. -/
structure PaymentStateRow where
  transactionId : Identifier
  currentVersion : Int
  currentEventId : Identifier
  status : PaymentStatus
  authorizedMinor : Option Int
  capturedMinor : Option Int
  refundedMinor : Option Int
  chargebackMinor : Option Int
  currency : Currency
  processorId : Identifier
  merchantId : Identifier
  deriving DecidableEq

/-- A row of `business_exception`: the accepted event, its totals and the reason. -/
structure BusinessExceptionRow where
  event : AcceptedEventRow
  authorizedMinor : Option Int
  capturedMinor : Option Int
  refundedMinor : Option Int
  chargebackMinor : Option Int
  businessError : Violation
  deriving DecidableEq

/-- The key of the exception table. -/
def BusinessExceptionRow.eventId (row : BusinessExceptionRow) : Identifier := row.event.eventId

/-- The transaction of an exception. -/
def BusinessExceptionRow.transactionId (row : BusinessExceptionRow) : Identifier :=
  row.event.transactionId

/-! ## Window columns -/

/-- The window columns of a transaction. -/
structure Aggregates where
  versionConflict : Option Int
  transactionEventCount : Option Int
  minimumVersion : Option Int
  maximumVersion : Option Int
  currencyCount : Option Int
  processorCount : Option Int
  merchantCount : Option Int
  authorizationCount : Option Int
  authorizedMinor : Option Int
  capturedMinor : Option Int
  refundedMinor : Option Int
  chargebackMinor : Option Int
  authorizationVersion : Option Int
  captureVersion : Option Int
  reversalVersion : Option Int

/-- `when(event_type == eventType, field)` -/
def whenType (eventType : EventType) (field : AcceptedEventRow → Int) (row : AcceptedEventRow) :
    Option Int :=
  if row.eventType = eventType then some (field row) else none

/-- `when(event_type == eventType, field).otherwise(0)` -/
def whenTypeElseZero (eventType : EventType) (field : AcceptedEventRow → Int)
    (row : AcceptedEventRow) : Option Int :=
  some (if row.eventType = eventType then field row else 0)

/-- `when(event_type.isin("refund", "chargeback"), transaction_version)` -/
def whenReversal (row : AcceptedEventRow) : Option Int :=
  if row.eventType = .refund ∨ row.eventType = .chargeback then some row.transactionVersion
  else none

/-- `count("*")` over transaction and version. -/
def versionCount (events : List AcceptedEventRow) (row : AcceptedEventRow) : Option Int :=
  countAll (group (fun other => (other.transactionId, other.transactionVersion))
    (row.transactionId, row.transactionVersion) events)

/-- The columns over the window of one transaction. -/
def aggregates (events : List AcceptedEventRow) (transactionId : Identifier) : Aggregates :=
  let transaction := group AcceptedEventRow.transactionId transactionId events
  { versionConflict := maxOf (transaction.map (versionCount events))
    transactionEventCount := countAll transaction
    minimumVersion := minOf (transaction.map fun row => some row.transactionVersion)
    maximumVersion := maxOf (transaction.map fun row => some row.transactionVersion)
    currencyCount := sizeOfSet (transaction.map fun row => some row.currency)
    processorCount := sizeOfSet (transaction.map fun row => some row.processorId)
    merchantCount := sizeOfSet (transaction.map fun row => some row.merchantId)
    authorizationCount := sumOf (transaction.map (whenTypeElseZero .authorization fun _ => 1))
    authorizedMinor := maxOf (transaction.map
      (whenType .authorization AcceptedEventRow.amountMinor))
    capturedMinor := sumOf (transaction.map
      (whenTypeElseZero .capture AcceptedEventRow.amountMinor))
    refundedMinor := sumOf (transaction.map
      (whenTypeElseZero .refund AcceptedEventRow.amountMinor))
    chargebackMinor := sumOf (transaction.map
      (whenTypeElseZero .chargeback AcceptedEventRow.amountMinor))
    authorizationVersion := minOf (transaction.map
      (whenType .authorization AcceptedEventRow.transactionVersion))
    captureVersion := minOf (transaction.map
      (whenType .capture AcceptedEventRow.transactionVersion))
    reversalVersion := minOf (transaction.map whenReversal) }

/-- The column `business_error`. -/
def businessError (window : Aggregates) : Option Violation :=
  caseWhen [
    (exceeds window.versionConflict (some 1), .transactionVersionConflict),
    (either (differs window.minimumVersion (some 1))
      (differs window.maximumVersion window.transactionEventCount), .transactionVersionGap),
    (exceeds window.currencyCount (some 1), .currencyMutation),
    (exceeds window.processorCount (some 1), .processorMutation),
    (exceeds window.merchantCount (some 1), .merchantMutation),
    (exceeds window.authorizationCount (some 1), .duplicateAuthorization),
    (both (equals window.authorizationCount (some 0)) (exceeds window.capturedMinor (some 0)),
      .captureWithoutAuthorization),
    (equals window.authorizationCount (some 0), .missingAuthorization),
    (both (isNotNull window.captureVersion)
      (atMost window.captureVersion window.authorizationVersion), .captureBeforeAuthorization),
    (both (isNotNull window.reversalVersion) (isNull window.captureVersion),
      .reversalWithoutCapture),
    (both (isNotNull window.reversalVersion)
      (atMost window.reversalVersion window.captureVersion), .reversalBeforeCapture),
    (exceeds window.capturedMinor window.authorizedMinor, .captureExceedsAuthorization),
    (exceeds (plus window.refundedMinor window.chargebackMinor) window.capturedMinor,
      .refundOrChargebackExceedsCapture)]

/-- The column `status` of a valid transaction. -/
def statusColumn (window : Aggregates) : PaymentStatus :=
  (caseWhen [
    (both (both (exceeds window.capturedMinor (some 0))
      (equals (plus window.refundedMinor window.chargebackMinor) window.capturedMinor))
      (exceeds window.chargebackMinor (some 0)), .chargedback),
    (exceeds window.chargebackMinor (some 0), .partiallyChargedback),
    (both (exceeds window.capturedMinor (some 0))
      (equals window.refundedMinor window.capturedMinor), .refunded),
    (exceeds window.refundedMinor (some 0), .partiallyRefunded),
    (equals window.capturedMinor window.authorizedMinor, .captured),
    (exceeds window.capturedMinor (some 0), .partiallyCaptured)]).getD .authorized

/-! ## Reconstruction -/

/-- A row with the window columns of its transaction. -/
abbrev AssessedRow := AcceptedEventRow × Aggregates

/-- The columns of an invalid row that the exception table keeps. -/
def businessException (window : Aggregates) (reason : Violation) (row : AcceptedEventRow) :
    BusinessExceptionRow :=
  ⟨row, window.authorizedMinor, window.capturedMinor, window.refundedMinor,
    window.chargebackMinor, reason⟩

/-- The columns of a transaction's latest row that the state table keeps. -/
def currentState (assessed : AssessedRow) : PaymentStateRow :=
  let (row, window) := assessed
  ⟨row.transactionId, row.transactionVersion, row.eventId, statusColumn window,
    window.authorizedMinor, window.capturedMinor, window.refundedMinor, window.chargebackMinor,
    row.currency, row.processorId, row.merchantId⟩

/-- `orderBy(transaction_version.desc(), event_id.desc())` -/
def latestKey (row : AcceptedEventRow) : Lex (Int × Str) :=
  toLex (row.transactionVersion, row.eventId.1)

/-- The latest row comes first. -/
def latest (first second : AcceptedEventRow) : Prop := latestKey second ≤ latestKey first

instance : DecidableRel latest := fun first second =>
  inferInstanceAs (Decidable (latestKey second ≤ latestKey first))

instance : Std.Total latest :=
  ⟨fun first second => le_total (latestKey second) (latestKey first)⟩

instance : IsTrans AcceptedEventRow latest := ⟨fun _ _ _ first second => second.trans first⟩

/-- The window order on assessed rows. -/
def latestAssessed (first second : AssessedRow) : Prop := latest first.1 second.1

instance : DecidableRel latestAssessed := fun first second =>
  inferInstanceAs (Decidable (latest first.1 second.1))

/-- The rows with their window columns. -/
def assess (events : List AcceptedEventRow) : List AssessedRow :=
  events.map fun row => (row, aggregates events row.transactionId)

/-- `reconstruct`: the incoming state rows and exception rows. -/
def reconstruct (events : List AcceptedEventRow) :
    List PaymentStateRow × List BusinessExceptionRow :=
  let assessed := assess events
  let exceptions := assessed.filterMap fun (row, window) =>
    (businessError window).map fun reason => businessException window reason row
  let valid := assessed.filter fun (_, window) => businessError window = none
  let ranked := rowNumbers (fun (assessed : AssessedRow) => assessed.1.transactionId)
    latestAssessed valid
  let current := ((ranked.filter fun numbered => numbered.2 = 1).map Prod.fst).map currentState
  (current, exceptions)

/-! ## The rows of one transaction -/

/-- The classification of one transaction's history. -/
def lifecycleError (transactionId : Identifier) (history : List AcceptedEventRow) :
    Option Violation := businessError (aggregates history transactionId)

/-- The state row of one transaction's history, if it is valid. -/
def historyState (transactionId : Identifier) (history : List AcceptedEventRow) :
    List PaymentStateRow :=
  if lifecycleError transactionId history = none then
    (firstRow latest history).map fun row => currentState (row, aggregates history transactionId)
  else []

/-- The exception rows of one transaction's history, if it is not valid. -/
def historyExceptions (transactionId : Identifier) (history : List AcceptedEventRow) :
    List BusinessExceptionRow :=
  match lifecycleError transactionId history with
  | none => []
  | some reason => history.map (businessException (aggregates history transactionId) reason)

section Transaction

variable {events : List AcceptedEventRow} {transactionId : Identifier}

/-- The window columns of a transaction read only its own history: they are windows over the
transaction, so the other rows do not enter them. -/
theorem aggregates_group : aggregates (group AcceptedEventRow.transactionId transactionId events)
    transactionId = aggregates events transactionId := by
  have whole : group AcceptedEventRow.transactionId transactionId
      (group AcceptedEventRow.transactionId transactionId events) =
        group AcceptedEventRow.transactionId transactionId events :=
    group_all fun row member => (mem_group.mp member).2
  have counts : (group AcceptedEventRow.transactionId transactionId events).map
      (versionCount (group AcceptedEventRow.transactionId transactionId events)) =
        (group AcceptedEventRow.transactionId transactionId events).map (versionCount events) := by
    refine List.map_congr_left fun row member => congrArg countAll (group_refine ?_)
    intro other _ same
    exact (congrArg Prod.fst same).trans (mem_group.mp member).2
  simp only [aggregates, whole, counts]

/-- The classification of a transaction looks at its own events only. -/
theorem lifecycle_error_group : lifecycleError transactionId
    (group AcceptedEventRow.transactionId transactionId events) =
      lifecycleError transactionId events := by
  rw [lifecycleError, aggregates_group, lifecycleError]

/-- The window columns do not depend on the order of the rows, as counts, sums, extrema and sets
do not. -/
theorem aggregates_perm {other : List AcceptedEventRow} (same : events.Perm other) :
    aggregates events transactionId = aggregates other transactionId := by
  have window : (group AcceptedEventRow.transactionId transactionId events).Perm
      (group AcceptedEventRow.transactionId transactionId other) := same.filter _
  have counts : versionCount events = versionCount other := by
    funext row
    exact count_all_perm (same.filter _)
  simp only [aggregates, counts, max_of_perm window, min_of_perm window, sum_of_perm window,
    count_all_perm window, size_of_set_perm window]

/-- The classification of a transaction does not look at the order of the events. -/
theorem lifecycle_error_perm {other : List AcceptedEventRow} (same : events.Perm other) :
    lifecycleError transactionId events = lifecycleError transactionId other := by
  rw [lifecycleError, aggregates_perm same, lifecycleError]

/-- The exceptions are the rows of the invalid transactions, in order. A transaction is excepted
with all its rows or not at all. -/
theorem reconstruct_exception_events :
    (reconstruct events).2.map BusinessExceptionRow.event = events.filter fun row =>
      lifecycleError row.transactionId events ≠ none := by
  simp only [reconstruct, assess, List.filterMap_map, List.map_filterMap]
  rw [← List.filterMap_eq_filter]
  refine List.filterMap_congr fun row _ => ?_
  rcases Option.eq_none_or_eq_some (lifecycleError row.transactionId events) with
    passes | ⟨reason, fails⟩
  · have window : businessError (aggregates events row.transactionId) = none := passes
    simp [window, passes, Option.guard]
  · have window : businessError (aggregates events row.transactionId) = some reason := fails
    simp [window, fails, Option.guard, businessException]

/-- The exceptions of a transaction are those of its history, so a transaction can be followed
alone through the job. -/
theorem reconstruct_exceptions :
    group BusinessExceptionRow.transactionId transactionId (reconstruct events).2 =
      historyExceptions transactionId
        (group AcceptedEventRow.transactionId transactionId events) := by
  have history : group BusinessExceptionRow.transactionId transactionId (reconstruct events).2 =
      (group AcceptedEventRow.transactionId transactionId events).filterMap fun row =>
        (lifecycleError transactionId events).map fun reason =>
          businessException (aggregates events transactionId) reason row := by
    simp only [reconstruct, assess, List.filterMap_map, group, List.filter_filterMap]
    rw [List.filterMap_filter]
    refine List.filterMap_congr fun row _ => ?_
    by_cases same : row.transactionId = transactionId
    · subst same
      simp only [Function.comp_apply, decide_true, ↓reduceIte, lifecycleError]
      cases businessError (aggregates events row.transactionId) with
      | none => rfl
      | some reason => simp [BusinessExceptionRow.transactionId, businessException]
    · cases found : businessError (aggregates events row.transactionId) with
      | none => simp [same, found]
      | some reason => simp [same, found, BusinessExceptionRow.transactionId, businessException]
  rw [history, historyExceptions, lifecycle_error_group, aggregates_group]
  cases lifecycleError transactionId events with
  | none => simp
  | some reason => simp

/-- The valid rows of a transaction are its whole history, each with the window columns, or
none. -/
theorem group_valid :
    group (fun assessed : AssessedRow => assessed.1.transactionId) transactionId
        ((assess events).filter fun assessed => businessError assessed.2 = none) =
      if lifecycleError transactionId events = none then
        (group AcceptedEventRow.transactionId transactionId events).map fun row =>
          (row, aggregates events transactionId)
      else [] := by
  have parts : group (fun assessed : AssessedRow => assessed.1.transactionId) transactionId
      ((assess events).filter fun assessed => businessError assessed.2 = none) =
        ((group AcceptedEventRow.transactionId transactionId events).filter fun _ =>
          lifecycleError transactionId events = none).map fun row =>
            (row, aggregates events transactionId) := by
    rw [assess, group, List.filter_filter, List.filter_map, group, List.filter_filter]
    have kept : ∀ row ∈ events,
        ((fun assessed : AssessedRow => decide (assessed.1.transactionId = transactionId) &&
          decide (businessError assessed.2 = none)) ∘
            fun row => (row, aggregates events row.transactionId)) row =
        (decide (lifecycleError transactionId events = none) &&
          decide (row.transactionId = transactionId)) := by
      intro row _
      rw [Bool.eq_iff_iff]
      by_cases same : row.transactionId = transactionId
      · simp only [Function.comp_apply, same, Bool.and_eq_true, decide_eq_true_eq,
          lifecycleError, true_and, and_true]
        exact decide_eq_true_iff.symm
      · simp [same]
    rw [List.filter_congr kept]
    refine List.map_congr_left fun row member => ?_
    have same := (List.mem_filter.mp member).2
    simp only [Bool.and_eq_true, decide_eq_true_eq] at same
    rw [same.2]
  rw [parts]
  by_cases passes : lifecycleError transactionId events = none
  · simp [passes]
  · simp [passes]

/-- The state row of a transaction is that of its history.

Proof: the ranking by version keeps one row of each transaction. The first row of the sorted
history is the one that the ranking numbers one, because ties are broken by the event
identifier. -/
theorem reconstruct_current :
    group PaymentStateRow.transactionId transactionId (reconstruct events).1 =
      historyState transactionId
        (group AcceptedEventRow.transactionId transactionId events) := by
  let key := fun assessed : AssessedRow => assessed.1.transactionId
  let valid := (assess events).filter fun assessed => businessError assessed.2 = none
  have rows : (reconstruct events).1 = (keysOf key valid).flatMap fun value =>
      (firstRow latestAssessed (group key value valid)).map currentState := by
    show ((((rowNumbers key latestAssessed valid).filter fun numbered => numbered.2 = 1).map
      Prod.fst).map currentState) = _
    rw [first_numbered, List.map_flatMap]
  have first : (firstRow latestAssessed (group key transactionId valid)).map currentState =
      historyState transactionId
        (group AcceptedEventRow.transactionId transactionId events) := by
    rw [group_valid, historyState, lifecycle_error_group, aggregates_group]
    by_cases passes : lifecycleError transactionId events = none
    · rw [if_pos passes, if_pos passes, firstRow,
        ← @List.map_insertionSort _ _ latest latestAssessed _ _ _ _ fun _ _ _ _ => Iff.rfl,
        List.head?_map, firstRow]
      cases ((group AcceptedEventRow.transactionId transactionId events).insertionSort
        latest).head? <;> rfl
    · rw [if_neg passes, if_neg passes]
      rfl
  have labelled : ∀ value, ∀ row ∈ (firstRow latestAssessed (group key value valid)).map
      currentState, row.transactionId = value := by
    intro value row member
    obtain ⟨assessed, head, rfl⟩ := List.mem_map.mp member
    have inside := List.mem_of_head? (Option.mem_toList.mp head)
    exact (mem_group.mp ((List.mem_insertionSort latestAssessed).mp inside)).2
  rw [rows, ← first]
  by_cases listed : transactionId ∈ keysOf key valid
  · have unique : ((keysOf key valid).map id).Nodup := by
      rw [List.map_id]
      exact List.nodup_dedup _
    exact group_flat_map id _ unique (fun value _ row member => labelled value row member) listed
  · have none : group key transactionId valid = [] := group_nil fun row member same =>
      listed (List.mem_dedup.mpr (List.mem_map.mpr ⟨row, member, same⟩))
    rw [none, group_nil]
    · rfl
    · intro row member same
      obtain ⟨value, inside, here⟩ := List.mem_flatMap.mp member
      exact listed ((labelled value row here).symm.trans same ▸ inside)

/-- Every incoming state row is of a transaction with events, so no state is made up. -/
theorem reconstruct_current_source {state : PaymentStateRow}
    (member : state ∈ (reconstruct events).1) :
    ∃ row ∈ events, row.transactionId = state.transactionId := by
  have inside : state ∈ group PaymentStateRow.transactionId state.transactionId
      (reconstruct events).1 := mem_group.mpr ⟨member, rfl⟩
  rw [reconstruct_current] at inside
  cases rows : group AcceptedEventRow.transactionId state.transactionId events with
  | nil =>
    rw [rows, historyState] at inside
    split at inside <;> cases inside
  | cons row rest =>
    have here : row ∈ group AcceptedEventRow.transactionId state.transactionId events :=
      rows ▸ List.mem_cons_self
    exact ⟨row, mem_group.mp here⟩

/-- Where event identifiers are unique the order of the history does not matter. -/
theorem history_state_perm {first second : List AcceptedEventRow}
    (keyed : Keyed AcceptedEventRow.eventId first) (same : first.Perm second) :
    historyState transactionId first = historyState transactionId second := by
  have sorted : first.insertionSort latest = second.insertionSort latest := by
    refine sort_perm same fun a left b right before after => keyed.unique left right ?_
    have keys : latestKey a = latestKey b := le_antisymm after before
    exact Subtype.ext (Prod.mk.inj (toLex_inj.mp keys)).2
  simp only [historyState, lifecycle_error_perm same, firstRow, sorted, aggregates_perm same]

end Transaction

/-! ## Sample events -/

/-- An event of a sample transaction. -/
def sampleEvent (eventId : Identifier) (eventType : EventType) (version : {n : Int // 1 ≤ n})
    (amountMinor : {n : Int // 1 ≤ n}) (eventTime : Timestamp) : PaymentEvent where
  eventId := eventId
  transactionId := ⟨str "txn-1", .refl true⟩
  transactionVersion := version.1
  sourceId := ⟨str "checkout-01", .refl true⟩
  processorId := ⟨str "processor-01", .refl true⟩
  merchantId := ⟨str "merchant-001", .refl true⟩
  eventType := eventType
  amountMinor := amountMinor.1
  currency := .inr
  eventTime := eventTime
  receivedAt := eventTime
  customerToken := none
  versionPositive := positive version
  amountPositive := positive amountMinor

/-- Noon of a day, in UTC. -/
def noon (date : Date) (yearRange : 1 ≤ date.year ∧ date.year ≤ 9999) : Timestamp :=
  ⟨date, 12, 0, 0, 0, 0, yearRange, newYearNoon.clock, newYearNoon.offsetRange⟩

end LedgerFlow.Spark
