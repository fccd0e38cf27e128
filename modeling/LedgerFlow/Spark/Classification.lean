import LedgerFlow.Projections
import LedgerFlow.Spark.Reconstruct
import LedgerFlow.Store.Rebuild

/-!
# The window cascade classifies as the lifecycle tests do

`WindowColumns` says what the window columns of a history are in terms of the events:
counts are lengths, minima and maxima those of the versions, sums the totals. It needs
the columns and sums to fit in 64 bits. From it the cascade of `business_error` agrees
with `verdict` test by test, where each test may use that the earlier ones passed, and
the status of a valid history agrees with `paymentStatus`.
-/

namespace LedgerFlow.Spark

open PyText Grouping Dataframe

/-! ## Columns and sums -/

/-- The sums of a history fit in 64 bits. -/
structure SumsFit (events : List PaymentEvent) : Prop where
  authorizations : Int64 (ofType .authorization events).length
  captured : Int64 (capturedMinor events)
  refunded : Int64 (refundedMinor events)
  chargedBack : Int64 (chargebackMinor events)
  reversed : Int64 (refundedMinor events + chargebackMinor events)

instance (events : List PaymentEvent) : Decidable (SumsFit events) :=
  decidable_of_iff (Int64 (ofType .authorization events).length ∧ Int64 (capturedMinor events) ∧
      Int64 (refundedMinor events) ∧ Int64 (chargebackMinor events) ∧
      Int64 (refundedMinor events + chargebackMinor events))
    ⟨fun ⟨a, b, c, d, e⟩ => ⟨a, b, c, d, e⟩, fun ⟨a, b, c, d, e⟩ => ⟨a, b, c, d, e⟩⟩

/-- An integer within 64 bits is stored as it is. -/
theorem bigint_fits {n : Int} (fits : Int64 n) : bigint n = n := bigint_of_fits fits.1 fits.2

/-- A storable event is read back as it is, and its version and amount as the same numbers. -/
theorem accepted_row_columns {event : PaymentEvent} (storable : Storable event) :
    (acceptedRow event).transactionVersion = event.transactionVersion ∧
      (acceptedRow event).amountMinor = event.amountMinor :=
  ⟨bigint_fits storable.1, bigint_fits storable.2⟩

/-- The total of a type is the sum of the selected amounts. -/
theorem selected_type (eventType : EventType) (events : List PaymentEvent)
    (field : PaymentEvent → Int) :
    selected (fun event => decide (event.eventType = eventType)) field events =
      ((ofType eventType events).map field).sum := rfl

section Columns

variable {events : List PaymentEvent} {transactionId : Identifier}

/-- The rows of storable events have their versions and their amounts. -/
theorem map_rows (storable : ∀ event ∈ events, Storable event) :
    (events.map acceptedRow).map AcceptedEventRow.transactionVersion =
        events.map PaymentEvent.transactionVersion ∧
      (events.map acceptedRow).map AcceptedEventRow.amountMinor =
        events.map PaymentEvent.amountMinor := by
  rw [List.map_map, List.map_map]
  exact ⟨List.map_congr_left fun event member => (accepted_row_columns (storable event member)).1,
    List.map_congr_left fun event member => (accepted_row_columns (storable event member)).2⟩

/-- `when(event_type == eventType, field)` keeps the field of the events of the type. -/
theorem non_null_when_type (eventType : EventType) {field : AcceptedEventRow → Int}
    {column : PaymentEvent → Int}
    (read : ∀ event ∈ events, field (acceptedRow event) = column event) :
    nonNull ((events.map acceptedRow).map (whenType eventType field)) =
      (ofType eventType events).map column := by
  have rows : (events.map acceptedRow).map (whenType eventType field) =
      events.map fun event =>
        if decide (event.eventType = eventType) then some (column event) else none := by
    rw [List.map_map]
    refine List.map_congr_left fun event member => ?_
    simp only [Function.comp_apply, whenType, decide_eq_true_eq, read event member]
    rfl
  rw [rows, non_null_when]
  rfl

/-- `sum(when(event_type == eventType, field).otherwise(0))` sums the field of the
events of the type, and wraps. -/
theorem sum_when_type (nonempty : events ≠ []) (eventType : EventType)
    {field : AcceptedEventRow → Int} {column : PaymentEvent → Int}
    (read : ∀ event ∈ events, field (acceptedRow event) = column event) :
    sumOf ((events.map acceptedRow).map (whenTypeElseZero eventType field)) =
      some (bigint ((ofType eventType events).map column).sum) := by
  have rows : (events.map acceptedRow).map (whenTypeElseZero eventType field) =
      events.map fun event =>
        some (if decide (event.eventType = eventType) then column event else 0) := by
    rw [List.map_map]
    refine List.map_congr_left fun event member => ?_
    simp only [Function.comp_apply, whenTypeElseZero, decide_eq_true_eq, read event member]
    rfl
  rw [rows, sum_of_when nonempty, selected_type]

/-- The versions of the reversals among the rows are those of the reversals among the events. -/
theorem non_null_reversal (storable : ∀ event ∈ events, Storable event) :
    nonNull ((events.map acceptedRow).map whenReversal) =
      (reversals events).map PaymentEvent.transactionVersion := by
  have rows : (events.map acceptedRow).map whenReversal = events.map fun event =>
      if decide (event.eventType = .refund ∨ event.eventType = .chargeback) then
        some event.transactionVersion else none := by
    rw [List.map_map]
    refine List.map_congr_left fun event member => ?_
    simp only [Function.comp_apply, whenReversal, decide_eq_true_eq,
      (accepted_row_columns (storable event member)).1]
    rfl
  rw [rows, non_null_when]
  rfl

/-- The number of distinct values of a column is that of the events, where the column reads a
field of them. -/
theorem size_of_column {α : Type} [DecidableEq α] {field : AcceptedEventRow → α}
    {column : PaymentEvent → α} (read : ∀ event, field (acceptedRow event) = column event) :
    sizeOfSet ((events.map acceptedRow).map fun row => some (field row)) =
      some (distinct column events : Int) := by
  have values : (events.map acceptedRow).map field = events.map column := by
    rw [List.map_map]
    exact List.map_congr_left fun event _ => read event
  rw [sizeOfSet, non_null_all, values]
  rfl

/-- The window columns that are not sums, in terms of the events. -/
structure PlainColumns (window : Aggregates) (events : List PaymentEvent) : Prop where
  versionConflict : exceeds window.versionConflict (some 1) = some true ↔
    distinct PaymentEvent.transactionVersion events ≠ events.length
  transactionEventCount : window.transactionEventCount = some (events.length : Int)
  minimumVersion : window.minimumVersion = some (leastVersion events)
  maximumVersion : window.maximumVersion = some (greatestVersion events)
  currencyCount : window.currencyCount = some (distinct PaymentEvent.currency events : Int)
  processorCount : window.processorCount = some (distinct PaymentEvent.processorId events : Int)
  merchantCount : window.merchantCount = some (distinct PaymentEvent.merchantId events : Int)
  authorizedMinor : window.authorizedMinor =
    ((ofType .authorization events).map PaymentEvent.amountMinor).max?
  authorizationVersion : window.authorizationVersion =
    ((ofType .authorization events).map PaymentEvent.transactionVersion).min?
  captureVersion : window.captureVersion =
    ((ofType .capture events).map PaymentEvent.transactionVersion).min?
  reversalVersion : window.reversalVersion =
    ((reversals events).map PaymentEvent.transactionVersion).min?

/-- The window columns of a history, in terms of its events: those that are not sums, and the
exact sums. -/
structure WindowColumns (window : Aggregates) (events : List PaymentEvent) : Prop extends
    PlainColumns window events where
  authorizationCount :
    window.authorizationCount = some ((ofType .authorization events).length : Int)
  capturedMinor : window.capturedMinor = some (capturedMinor events)
  refundedMinor : window.refundedMinor = some (refundedMinor events)
  chargebackMinor : window.chargebackMinor = some (chargebackMinor events)

/-- A version occurs twice exactly when the largest count exceeds one.

Proof: the count of a row is the number of rows with its version. All counts are one if the
versions are distinct, and a repeated version has a count of two at least. -/
theorem version_conflict_exceeds (storable : ∀ event ∈ events, Storable event)
    (same : ∀ event ∈ events, event.transactionId = transactionId) :
    exceeds (maxOf ((events.map acceptedRow).map (versionCount (events.map acceptedRow))))
        (some 1) = some true ↔
      distinct PaymentEvent.transactionVersion events ≠ events.length := by
  let rows := events.map acceptedRow
  have sameRow : ∀ row ∈ rows, row.transactionId = transactionId := by
    intro row member
    obtain ⟨event, inside, rfl⟩ := List.mem_map.mp member
    exact same event inside
  have counts : rows.map (versionCount rows) = rows.map fun row =>
      some ((group AcceptedEventRow.transactionVersion row.transactionVersion rows).length : Int) := by
    refine List.map_congr_left fun row member => ?_
    refine congrArg (fun part : List AcceptedEventRow => some (part.length : Int)) ?_
    refine List.filter_congr fun other inside => ?_
    simp [sameRow row member, sameRow other inside]
  have keyed : distinct PaymentEvent.transactionVersion events = events.length ↔
      Keyed AcceptedEventRow.transactionVersion rows := by
    rw [distinct_all, Keyed, Keyed, (map_rows storable).1]
  have single : Keyed AcceptedEventRow.transactionVersion rows ↔ ∀ row ∈ rows,
      ¬ 1 < (group AcceptedEventRow.transactionVersion row.transactionVersion rows).length := by
    constructor
    · exact fun unique row _ => not_lt.mpr (group_at_most_one unique _)
    · intro all
      refine keyed_of_groups fun version => ?_
      by_cases present : ∃ row ∈ rows, row.transactionVersion = version
      · obtain ⟨row, member, rfl⟩ := present
        exact not_lt.mp (all row member)
      · have none : group AcceptedEventRow.transactionVersion version rows = [] :=
          group_nil fun row member same => present ⟨row, member, same⟩
        rw [none]
        exact Nat.zero_le 1
  rw [ne_eq, keyed, single]
  show exceeds (maxOf (rows.map (versionCount rows))) (some 1) = some true ↔ _
  rw [counts, maxOf, non_null_all]
  cases greatest : (rows.map fun row => ((group AcceptedEventRow.transactionVersion
      row.transactionVersion rows).length : Int)).max? with
  | none =>
    have empty : rows = [] := by simpa using greatest
    simp [empty, exceeds, comparison]
  | some n =>
    obtain ⟨attained, above⟩ := List.max?_eq_some_iff.mp greatest
    rw [exceeds_true, not_forall]
    constructor
    · intro large
      obtain ⟨row, member, rfl⟩ := List.mem_map.mp attained
      exact ⟨row, fun all => all member (by omega)⟩
    · rintro ⟨row, several⟩
      obtain ⟨member, several⟩ := Classical.not_imp.mp several
      have bound := above _ (List.mem_map.mpr ⟨row, member, rfl⟩)
      omega

/-- The rows of a history of one transaction are one window, so nothing is selected away. -/
theorem group_accepted (same : ∀ event ∈ events, event.transactionId = transactionId) :
    group AcceptedEventRow.transactionId transactionId (events.map acceptedRow) =
      events.map acceptedRow := by
  refine group_all fun row member => ?_
  obtain ⟨event, inside, rfl⟩ := List.mem_map.mp member
  exact same event inside

/-- The columns of a history of one transaction that are not sums: the counts and versions, each
as the core computes it. They cannot overflow for storable events. -/
theorem plain_columns (nonempty : events ≠ [])
    (same : ∀ event ∈ events, event.transactionId = transactionId)
    (storable : ∀ event ∈ events, Storable event) :
    PlainColumns (aggregates (events.map acceptedRow) transactionId) events := by
  have version := fun event member => (accepted_row_columns (storable event member)).1
  have minor := fun event member => (accepted_row_columns (storable event member)).2
  constructor <;> simp only [aggregates, group_accepted same]
  case versionConflict => exact version_conflict_exceeds storable same
  case transactionEventCount => rw [countAll, List.length_map]
  case minimumVersion => rw [minOf, non_null_all, (map_rows storable).1, least_some nonempty]
  case maximumVersion => rw [maxOf, non_null_all, (map_rows storable).1, greatest_some nonempty]
  case currencyCount => exact size_of_column fun _ => rfl
  case processorCount => exact size_of_column fun _ => rfl
  case merchantCount => exact size_of_column fun _ => rfl
  case authorizedMinor => rw [maxOf, non_null_when_type .authorization minor]
  case authorizationVersion => rw [minOf, non_null_when_type .authorization version]
  case captureVersion => rw [minOf, non_null_when_type .capture version]
  case reversalVersion => rw [minOf, non_null_reversal storable]

/-- The sums of a history, wrapped to 64 bits. -/
structure WrappedSums (window : Aggregates) (events : List PaymentEvent) : Prop where
  authorizationCount :
    window.authorizationCount = some (bigint (ofType .authorization events).length)
  capturedMinor : window.capturedMinor = some (bigint (capturedMinor events))
  refundedMinor : window.refundedMinor = some (bigint (refundedMinor events))
  chargebackMinor : window.chargebackMinor = some (bigint (chargebackMinor events))

/-- The sums of a history of one transaction, which the job keeps modulo 2^64. -/
theorem wrapped_sums (nonempty : events ≠ [])
    (same : ∀ event ∈ events, event.transactionId = transactionId)
    (storable : ∀ event ∈ events, Storable event) :
    WrappedSums (aggregates (events.map acceptedRow) transactionId) events := by
  have minor := fun event member => (accepted_row_columns (storable event member)).2
  have ones : ((ofType .authorization events).map fun _ => (1 : Int)).sum =
      (ofType .authorization events).length := by simp
  constructor <;> simp only [aggregates, group_accepted same]
  case authorizationCount => rw [sum_when_type nonempty .authorization fun _ _ => rfl, ones]
  case capturedMinor => exact sum_when_type nonempty .capture minor
  case refundedMinor => exact sum_when_type nonempty .refund minor
  case chargebackMinor => exact sum_when_type nonempty .chargeback minor

/-- The window columns of a history of one transaction whose sums fit are the numbers of the
core. -/
theorem window_columns (nonempty : events ≠ [])
    (same : ∀ event ∈ events, event.transactionId = transactionId)
    (storable : ∀ event ∈ events, Storable event) (fits : SumsFit events) :
    WindowColumns (aggregates (events.map acceptedRow) transactionId) events := by
  have sums := wrapped_sums nonempty same storable
  exact {
    toPlainColumns := plain_columns nonempty same storable
    authorizationCount := bigint_fits fits.authorizations ▸ sums.authorizationCount
    capturedMinor := bigint_fits fits.captured ▸ sums.capturedMinor
    refundedMinor := bigint_fits fits.refunded ▸ sums.refundedMinor
    chargebackMinor := bigint_fits fits.chargedBack ▸ sums.chargebackMinor }

end Columns

/-! ## The cascade -/

section Cascade

variable {events : List PaymentEvent} {window : Aggregates}

/-- Amounts are positive, so only an empty list has no amount; the job tests the sum where the
core tests the list. -/
theorem amount_positive {part : List PaymentEvent} : 0 < amount part ↔ part ≠ [] := by
  cases part with
  | nil => simp [amount]
  | cons event rest =>
    have first := event.amountPositive
    have others := amount_nonneg rest
    rw [amount, List.map_cons, List.sum_cons]
    simp only [ne_eq, reduceCtorEq, not_false_eq_true, iff_true]
    exact lt_of_lt_of_le first (le_add_of_nonneg_right others)

/-- A field of a nonempty list has a value. -/
theorem distinct_positive {α : Type} [DecidableEq α] (field : PaymentEvent → α)
    (nonempty : events ≠ []) : 0 < distinct field events := by
  rw [distinct, List.length_pos_iff, ne_eq, List.dedup_eq_nil, List.map_eq_nil_iff]
  exact nonempty

/-- More than one value differs from one value, as a nonempty history has one at least. -/
theorem several_values {α : Type} [DecidableEq α] {field : PaymentEvent → α}
    {column : Option Int} (nonempty : events ≠ [])
    (counted : column = some (distinct field events : Int)) :
    exceeds column (some 1) = some true ↔ distinct field events ≠ 1 := by
  have positive := distinct_positive field nonempty
  rw [counted, exceeds_true]
  omega

/-- The least version of a part, null where the part is empty. -/
theorem least_column {part : List PaymentEvent} {column : Option Int}
    (least : column = (part.map PaymentEvent.transactionVersion).min?) :
    (part = [] ∧ column = none) ∨ (part ≠ [] ∧ column = some (leastVersion part)) := by
  by_cases empty : part = []
  · exact .inl ⟨empty, by rw [least, empty]; rfl⟩
  · exact .inr ⟨empty, by rw [least, least_some empty]⟩

/-! ### The tests of the cascade

Each compares columns where the core compares the events. A comparison with a null column is
unknown and lets the cascade go on, so the tests that read the first version of a part ask
first whether the part has one. -/

/-- The versions do not run from one to the number of the events. -/
theorem versions_gapped (plain : PlainColumns window events) :
    either (differs window.minimumVersion (some 1))
        (differs window.maximumVersion window.transactionEventCount) = some true ↔
      leastVersion events ≠ 1 ∨ greatestVersion events ≠ events.length := by
  rw [either_true, plain.minimumVersion, plain.maximumVersion,
    plain.transactionEventCount, differs_true, differs_true]

/-- The test for several authorizations is true exactly where there are several. -/
theorem authorization_repeated (columns : WindowColumns window events) :
    exceeds window.authorizationCount (some 1) = some true ↔
      1 < (ofType .authorization events).length := by
  rw [columns.authorizationCount, exceeds_true]
  omega

/-- The test for a missing authorization is true exactly where there is none; the count is never
null. -/
theorem authorization_absent (columns : WindowColumns window events) :
    equals window.authorizationCount (some 0) = some true ↔
      ofType .authorization events = [] := by
  rw [columns.authorizationCount, equals_true, ← List.length_eq_zero_iff]
  omega

/-- There is none, but something was captured: amounts are positive, so a captured total is
positive exactly when there is a capture. -/
theorem capture_alone (columns : WindowColumns window events) :
    both (equals window.authorizationCount (some 0)) (exceeds window.capturedMinor (some 0)) =
        some true ↔
      ofType .authorization events = [] ∧ ofType .capture events ≠ [] := by
  rw [both_true, authorization_absent columns, columns.capturedMinor, exceeds_true]
  exact and_congr_right fun _ => amount_positive

/-- The only authorization of a history: its version and its amount are the extrema. -/
theorem only_authorization (plain : PlainColumns window events)
    (atMostOne : ¬ 1 < (ofType .authorization events).length)
    (present : ofType .authorization events ≠ []) :
    ∃ authorization, ofType .authorization events = [authorization] ∧
      window.authorizationVersion = some authorization.transactionVersion ∧
      window.authorizedMinor = some (authorizedMinor events) := by
  obtain ⟨authorization, only⟩ : ∃ authorization,
      ofType .authorization events = [authorization] := by
    rw [← List.length_eq_one_iff]
    have := List.length_pos_iff.mpr present
    omega
  refine ⟨authorization, only, ?_, ?_⟩
  · rw [plain.authorizationVersion, only]
    rfl
  · rw [plain.authorizedMinor, authorizedMinor, only]
    simp [amount]

/-- The test for an early capture is true exactly where a capture does not come after the only
authorization. A null in either column makes the test not true, as in the source. -/
theorem capture_early (plain : PlainColumns window events) {authorization : PaymentEvent}
    (only : ofType .authorization events = [authorization])
    (version : window.authorizationVersion = some authorization.transactionVersion) :
    both (isNotNull window.captureVersion)
        (atMost window.captureVersion window.authorizationVersion) = some true ↔
      ofType .capture events ≠ [] ∧ leastVersion (ofType .capture events) ≤
        ((ofType .authorization events).head?.map PaymentEvent.transactionVersion).getD 0 := by
  rw [both_true, is_not_null_true, version, only]
  rcases least_column plain.captureVersion with ⟨none, null⟩ | ⟨some, least⟩
  · simp [none, null]
  · simp [some, least]

/-- The test for a reversal without a capture is true exactly where the history has one of the
first and none of the second. -/
theorem reversal_alone (plain : PlainColumns window events) :
    both (isNotNull window.reversalVersion) (isNull window.captureVersion) = some true ↔
      reversals events ≠ [] ∧ ofType .capture events = [] := by
  rw [both_true, is_not_null_true, is_null_true]
  rcases least_column plain.captureVersion with ⟨none, null⟩ | ⟨some, least⟩
  · rcases least_column plain.reversalVersion with ⟨missing, absent⟩ | ⟨given, first⟩
    · simp [none, null, missing, absent]
    · simp [none, null, given, first]
  · simp [some, least]

/-- A reversal does not come after the first capture, where a reversal comes with a capture. -/
theorem reversal_early (plain : PlainColumns window events)
    (captured : ¬ (reversals events ≠ [] ∧ ofType .capture events = [])) :
    both (isNotNull window.reversalVersion)
        (atMost window.reversalVersion window.captureVersion) = some true ↔
      reversals events ≠ [] ∧
        leastVersion (reversals events) ≤ leastVersion (ofType .capture events) := by
  rw [both_true, is_not_null_true]
  rcases least_column plain.reversalVersion with ⟨missing, absent⟩ | ⟨given, first⟩
  · simp [missing, absent]
  · rcases least_column plain.captureVersion with ⟨none, _⟩ | ⟨_, least⟩
    · exact absurd ⟨given, none⟩ captured
    · simp [given, first, least]

/-- The cascade on the window columns of a history gives its verdict.

Proof: both cascades have the same tests in the same order, and each test of the one decides
what the test of the other asks, given that the earlier ones have passed. -/
theorem classification_agrees (nonempty : events ≠ []) (columns : WindowColumns window events)
    (fits : SumsFit events) : businessError window = verdict events := by
  unfold businessError verdict
  apply case_when_if columns.versionConflict
  intro _
  apply case_when_if (versions_gapped columns.toPlainColumns)
  intro _
  apply case_when_if (several_values nonempty columns.currencyCount)
  intro _
  apply case_when_if (several_values nonempty columns.processorCount)
  intro _
  apply case_when_if (several_values nonempty columns.merchantCount)
  intro _
  apply case_when_if (authorization_repeated columns)
  intro atMostOne
  apply case_when_if (capture_alone columns)
  intro _
  apply case_when_if (authorization_absent columns)
  intro present
  obtain ⟨authorization, only, version, minor⟩ :=
    only_authorization columns.toPlainColumns atMostOne present
  apply case_when_if (capture_early columns.toPlainColumns only version)
  intro _
  apply case_when_if (reversal_alone columns.toPlainColumns)
  intro captured
  apply case_when_if (reversal_early columns.toPlainColumns captured)
  intro _
  apply case_when_if
  · rw [columns.capturedMinor, minor, exceeds_true]
  intro _
  apply case_when_if
  · rw [columns.refundedMinor, columns.chargebackMinor, columns.capturedMinor, plus,
      bigint_fits fits.reversed, exceeds_true]
  intro _
  rfl

/-- The authorized total of a valid history is the amount of its authorization. -/
theorem authorized_column (valid : ValidHistory events) (columns : WindowColumns window events) :
    window.authorizedMinor = some (authorizedMinor events) ∧ 0 < authorizedMinor events := by
  obtain ⟨authorization, only⟩ := List.length_eq_one_iff.mp valid.authorizations
  rw [columns.authorizedMinor, authorizedMinor, only]
  exact ⟨by simp [amount], amount_positive.mpr (List.cons_ne_nil _ _)⟩

/-- The two status cascades agree on a valid history: refunds and chargebacks are
covered by captures, and the authorized amount is positive. -/
theorem status_agrees (valid : ValidHistory events) (columns : WindowColumns window events)
    (fits : SumsFit events) : statusColumn window = paymentStatus events := by
  obtain ⟨authorized, positive⟩ := authorized_column valid columns
  have refunded : 0 ≤ refundedMinor events := amount_nonneg _
  have chargedBack : 0 ≤ chargebackMinor events := amount_nonneg _
  have covered := valid.reversalsCovered
  simp only [statusColumn, paymentStatus, caseWhen, columns.capturedMinor, columns.refundedMinor,
    columns.chargebackMinor, authorized, plus, bigint_fits fits.reversed, both_true, equals_true,
    exceeds_true]
  split_ifs <;> first | rfl | omega

end Cascade

end LedgerFlow.Spark
