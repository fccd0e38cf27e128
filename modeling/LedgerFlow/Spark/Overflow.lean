import LedgerFlow.LifecycleGrammar
import LedgerFlow.Spark.Classification

/-!
# Wrapped totals

The checks on totals compare sums that wrap at 64 bits, and nothing bounds the number of
amounts that are summed. All other checks are exact: they count rows and compare versions,
and versions that start at one and have no gap leave no room for a count that wraps. A
transaction in sequence is therefore shown as valid exactly when its wrapped totals pass,
and a total that leaves 64 bits goes unnoticed where the residues happen to fit.
-/

namespace LedgerFlow.Spark

open PyText PyDateTime Grouping Dataframe

/-- Sums of wrapped numbers wrap like the sums of the numbers. -/
theorem bigint_add (first second : Int) :
    bigint (bigint first + bigint second) = bigint (first + second) := by
  rw [bigint, bigint, bigint, Int.add_bmod_bmod, Int.bmod_add_bmod]
  rfl

/-- A cascade yields nothing exactly when none of its conditions is true; a null condition is
passed over like a false one. -/
theorem case_when_none {α : Type} {condition : Condition} {value : α}
    {rest : List (Condition × α)} :
    caseWhen ((condition, value) :: rest) = none ↔ condition ≠ some true ∧
      caseWhen rest = none := by
  rw [caseWhen]
  by_cases holds : condition = some true
  · rw [if_pos holds]
    exact ⟨fun wrong => (by cases wrong), fun both => absurd holds both.1⟩
  · rw [if_neg holds]
    exact (and_iff_right holds).symm

/-! ## The checks on one history -/

section History

variable {events : List PaymentEvent} {window : Aggregates} {transactionId : Identifier}

/-- The authorized total is the amount of the only authorization, so it cannot wrap. -/
theorem single_total (single : (ofType .authorization events).length = 1) :
    ∃ opening ∈ events, ofType .authorization events = [opening] ∧
      authorizedMinor events = opening.amountMinor := by
  obtain ⟨opening, only⟩ := List.length_eq_one_iff.mp single
  have isOpening : opening ∈ ofType .authorization events := by
    rw [only]
    exact List.mem_singleton_self opening
  refine ⟨opening, (mem_of_type.mp isOpening).1, only, ?_⟩
  rw [authorizedMinor, only, amount, List.map_singleton, List.sum_singleton]

/-- The three checks on the versions of captures and reversals pass exactly when the
history is staged. -/
theorem stage_checks (plain : PlainColumns window events)
    (single : (ofType .authorization events).length = 1) :
    (both (isNotNull window.captureVersion)
        (atMost window.captureVersion window.authorizationVersion) ≠ some true ∧
      both (isNotNull window.reversalVersion) (isNull window.captureVersion) ≠ some true ∧
      both (isNotNull window.reversalVersion)
        (atMost window.reversalVersion window.captureVersion) ≠ some true) ↔
      Staged events := by
  obtain ⟨opening, only, version, _⟩ := only_authorization plain (by omega)
    (List.ne_nil_of_length_pos (by omega))
  have late := not_congr (capture_early plain only version)
  have uncaptured := not_congr (reversal_alone plain)
  rw [stage_tests, and_iff_right single]
  refine (and_congr late (and_congr_left' uncaptured)).trans ?_
  constructor
  · rintro ⟨late, captured, reversal⟩
    rw [ne_eq, reversal_early plain captured] at reversal
    exact ⟨fun some => not_le.mp fun early => late ⟨some, early⟩,
      fun some none => captured ⟨some, none⟩,
      fun some => not_le.mp fun early => reversal ⟨some, early⟩⟩
  · rintro ⟨late, captured, reversal⟩
    have together : ¬ (reversals events ≠ [] ∧ ofType .capture events = []) :=
      fun alone => captured alone.1 alone.2
    refine ⟨fun early => not_le.mpr (late early.1) early.2, together, fun early => ?_⟩
    obtain ⟨some, before⟩ := (reversal_early plain together).mp early
    exact not_le.mpr (reversal some) before

/-- Versions without a gap leave room for fewer than 2^63 events. -/
theorem ordered_count (nonempty : events ≠ []) (storable : ∀ event ∈ events, Storable event)
    (last : greatestVersion events = events.length) :
    bigint (ofType .authorization events).length = (ofType .authorization events).length := by
  obtain ⟨⟨event, member, greatest⟩, _⟩ := greatest_version_spec nonempty
  have bounded := (storable event member).1.2
  have part : (ofType .authorization events).length ≤ events.length :=
    List.length_filter_le _ _
  exact bigint_fits ⟨by omega, by omega⟩

/-- The two checks on totals pass exactly when the wrapped totals are covered. -/
theorem total_checks (plain : PlainColumns window events) (sums : WrappedSums window events)
    (single : (ofType .authorization events).length = 1) :
    (exceeds window.capturedMinor window.authorizedMinor ≠ some true ∧
      exceeds (plus window.refundedMinor window.chargebackMinor) window.capturedMinor ≠
        some true) ↔
      bigint (capturedMinor events) ≤ authorizedMinor events ∧
        bigint (refundedMinor events + chargebackMinor events) ≤
          bigint (capturedMinor events) := by
  obtain ⟨opening, _, only, total⟩ := single_total single
  have authorized : window.authorizedMinor = some (authorizedMinor events) := by
    rw [plain.authorizedMinor, only, total]
    rfl
  have reversed : plus window.refundedMinor window.chargebackMinor =
      some (bigint (refundedMinor events + chargebackMinor events)) := by
    rw [sums.refundedMinor, sums.chargebackMinor, plus, bigint_add]
  rw [authorized, reversed, sums.capturedMinor, ne_eq, ne_eq, exceeds_true, exceeds_true,
    not_lt, not_lt]

/-- The cascade finds no error in a history exactly when it is ordered and its wrapped
totals are covered. -/
theorem cascade_none (nonempty : events ≠ []) (storable : ∀ event ∈ events, Storable event)
    (plain : PlainColumns window events) (sums : WrappedSums window events) :
    businessError window = none ↔ WellStaged events ∧
      bigint (capturedMinor events) ≤ authorizedMinor events ∧
      bigint (refundedMinor events + chargebackMinor events) ≤ bigint (capturedMinor events) := by
  have gap := versions_gapped plain
  have currency := several_values nonempty plain.currencyCount
  have processor := several_values nonempty plain.processorCount
  have merchant := several_values nonempty plain.merchantCount
  have nothing : caseWhen ([] : List (Condition × Violation)) = none := rfl
  simp only [businessError, case_when_none, nothing, and_true]
  constructor
  · rintro ⟨versions, contiguous, oneCurrency, oneProcessor, oneMerchant, atMostOne, _, some,
      capture, uncaptured, reversal, captured, covered⟩
    have last := not_not.mp fun wrong => contiguous (gap.mpr (.inr wrong))
    rw [sums.authorizationCount, ordered_count nonempty storable last, ne_eq, exceeds_true]
      at atMostOne
    rw [sums.authorizationCount, ordered_count nonempty storable last, ne_eq, equals_true]
      at some
    have single : (ofType .authorization events).length = 1 := by omega
    exact ⟨{
      versions := not_not.mp fun wrong => versions (plain.versionConflict.mpr wrong)
      first := not_not.mp fun wrong => contiguous (gap.mpr (.inl wrong))
      last
      oneCurrency := not_not.mp fun wrong => oneCurrency (currency.mpr wrong)
      oneProcessor := not_not.mp fun wrong => oneProcessor (processor.mpr wrong)
      oneMerchant := not_not.mp fun wrong => oneMerchant (merchant.mpr wrong)
      staged := (stage_checks plain single).mp ⟨capture, uncaptured, reversal⟩ },
      (total_checks plain sums single).mp ⟨captured, covered⟩⟩
  · rintro ⟨ordered, covered⟩
    have single := ordered.staged.single
    have count : window.authorizationCount = some 1 := by
      rw [sums.authorizationCount, ordered_count nonempty storable ordered.last, single]
      rfl
    obtain ⟨capture, uncaptured, reversal⟩ := (stage_checks plain single).mpr ordered.staged
    obtain ⟨captured, reversals⟩ := (total_checks plain sums single).mpr covered
    refine ⟨fun wrong => plain.versionConflict.mp wrong ordered.versions,
      fun wrong => (gap.mp wrong).elim (· ordered.first) (· ordered.last),
      fun wrong => currency.mp wrong ordered.oneCurrency,
      fun wrong => processor.mp wrong ordered.oneProcessor,
      fun wrong => merchant.mp wrong ordered.oneMerchant, ?_, ?_, ?_,
      capture, uncaptured, reversal, captured, reversals⟩
    · rw [count]
      decide
    · rw [count, ne_eq, both_true, equals_true]
      exact fun wrong => absurd wrong.1 (by decide)
    · rw [count]
      decide

end History

/-! ## The rows of a transaction -/

/-- The row's columns are 64 bits wide, and its amount is positive. -/
structure BigintRow (row : AcceptedEventRow) : Prop where
  version : Int64 row.transactionVersion
  amount : Int64 row.amountMinor
  positive : 0 < row.amountMinor

instance (row : AcceptedEventRow) : Decidable (BigintRow row) :=
  decidable_of_iff (Int64 row.transactionVersion ∧ Int64 row.amountMinor ∧ 0 < row.amountMinor)
    ⟨fun ⟨version, amount, positive⟩ => ⟨version, amount, positive⟩,
      fun ⟨version, amount, positive⟩ => ⟨version, amount, positive⟩⟩

/-- The exact total of the amounts of one type. -/
def exactMinor (eventType : EventType) (rows : List AcceptedEventRow) : Int :=
  ((rows.filter fun row => row.eventType = eventType).map AcceptedEventRow.amountMinor).sum

/-- The rows are those of storable events in sequence. -/
def SequencedRows (rows : List AcceptedEventRow) : Prop :=
  ∃ events, (∀ event ∈ events, Storable event) ∧ events.map acceptedRow = rows ∧
    Sequenced events

/-- The exact totals that the checks compare fit in 64 bits. -/
def TotalsFit (rows : List AcceptedEventRow) : Prop :=
  Int64 (exactMinor .capture rows) ∧
    Int64 (exactMinor .refund rows + exactMinor .chargeback rows)

/-- The wrapped totals fail one of the two checks on totals. -/
def ResiduesRefused (rows : List AcceptedEventRow) : Prop :=
  exactMinor .authorization rows < bigint (exactMinor .capture rows) ∨
    bigint (exactMinor .capture rows) <
      bigint (exactMinor .refund rows + exactMinor .chargeback rows)

/-- The exact totals of the rows are covered. -/
def ExactlyCovered (rows : List AcceptedEventRow) : Prop :=
  exactMinor .capture rows ≤ exactMinor .authorization rows ∧
    exactMinor .refund rows + exactMinor .chargeback rows ≤ exactMinor .capture rows

instance (rows : List AcceptedEventRow) : Decidable (ExactlyCovered rows) :=
  inferInstanceAs (Decidable (_ ∧ _))

section Rows

variable {rows : List AcceptedEventRow} {transactionId : Identifier}

/-- A row with a positive version is that of a storable event, so results on events apply to rows
that nobody validated. -/
theorem row_of_event {row : AcceptedEventRow} (columns : BigintRow row)
    (positive : 1 ≤ row.transactionVersion) :
    ∃ event, Storable event ∧ acceptedRow event = row := by
  refine ⟨⟨row.eventId, row.transactionId, row.transactionVersion, row.sourceId,
    row.processorId, row.merchantId, row.eventType, row.amountMinor, row.currency,
    row.eventTime, row.receivedAt, row.customerToken, positive, columns.positive⟩,
    ⟨columns.version, columns.amount⟩, ?_⟩
  simp only [acceptedRow, bigint_fits columns.version, bigint_fits columns.amount]

/-- Rows with positive versions are those of storable events, all of them at once. -/
theorem rows_of_events (columns : ∀ row ∈ rows, BigintRow row)
    (positive : ∀ row ∈ rows, 1 ≤ row.transactionVersion) :
    ∃ events : List PaymentEvent, (∀ event ∈ events, Storable event) ∧
      events.map acceptedRow = rows := by
  induction rows with
  | nil => exact ⟨[], fun _ member => absurd member List.not_mem_nil, rfl⟩
  | cons row rest hypothesis =>
    obtain ⟨event, storable, same⟩ :=
      row_of_event (columns row List.mem_cons_self) (positive row List.mem_cons_self)
    obtain ⟨events, others, all⟩ :=
      hypothesis (fun row member => columns row (List.mem_cons_of_mem _ member))
        fun row member => positive row (List.mem_cons_of_mem _ member)
    refine ⟨event :: events, fun other member => ?_, by rw [List.map_cons, same, all]⟩
    rcases List.mem_cons.mp member with rfl | later
    · exact storable
    · exact others other later

/-- The exact totals of the rows are those of the events, without a modulus. -/
theorem exact_minor_events {events : List PaymentEvent}
    (storable : ∀ event ∈ events, Storable event) (eventType : EventType) :
    exactMinor eventType (events.map acceptedRow) = amount (ofType eventType events) := by
  rw [exactMinor, List.filter_map, List.map_map, amount]
  refine congrArg List.sum (List.map_congr_left fun event member => ?_)
  exact (accepted_row_columns (storable event (List.mem_of_mem_filter member))).2

/-- A transaction without an error has positive versions: its least version is one. -/
theorem positive_versions (same : ∀ row ∈ rows, row.transactionId = transactionId)
    (passes : lifecycleError transactionId rows = none) :
    ∀ row ∈ rows, 1 ≤ row.transactionVersion := by
  intro row member
  simp only [lifecycleError, businessError, case_when_none] at passes
  have contiguous := passes.2.1
  have least : (aggregates rows transactionId).minimumVersion =
      (rows.map AcceptedEventRow.transactionVersion).min? := by
    simp only [aggregates, group_all same, minOf, non_null_all]
  rw [least] at contiguous
  cases found : (rows.map AcceptedEventRow.transactionVersion).min? with
  | none =>
    rw [List.map_eq_nil_iff.mp (List.min?_eq_none_iff.mp found)] at member
    exact absurd member List.not_mem_nil
  | some version =>
    rw [found, ne_eq, either_true, differs_true] at contiguous
    have one := not_not.mp fun wrong => contiguous (.inl wrong)
    rw [← one]
    exact (List.min?_eq_some_iff.mp found).2 _ (List.mem_map_of_mem member)

/-- A transaction has no error exactly when its rows are in sequence and its wrapped
totals are not refused. -/
theorem lifecycle_error_none (nonempty : rows ≠ [])
    (same : ∀ row ∈ rows, row.transactionId = transactionId)
    (columns : ∀ row ∈ rows, BigintRow row) :
    lifecycleError transactionId rows = none ↔ SequencedRows rows ∧ ¬ ResiduesRefused rows := by
  have classified {events : List PaymentEvent} (storable : ∀ event ∈ events, Storable event)
      (isRows : events.map acceptedRow = rows) :
      lifecycleError transactionId rows = none ↔
        Sequenced events ∧ ¬ ResiduesRefused rows := by
    subst isRows
    have some : events ≠ [] := fun empty => nonempty (by rw [empty, List.map_nil])
    have sameEvents : ∀ event ∈ events, event.transactionId = transactionId :=
      fun event member => same _ (List.mem_map_of_mem member)
    rw [lifecycleError, cascade_none some storable (plain_columns some sameEvents storable)
      (wrapped_sums some sameEvents storable), well_staged_sequenced some, ResiduesRefused,
      exact_minor_events storable, exact_minor_events storable, exact_minor_events storable,
      exact_minor_events storable, not_or, not_lt, not_lt]
    rfl
  constructor
  · intro passes
    obtain ⟨events, storable, isRows⟩ := rows_of_events columns (positive_versions same passes)
    obtain ⟨sequenced, accepted⟩ := (classified storable isRows).mp passes
    exact ⟨⟨events, storable, isRows, sequenced⟩, accepted⟩
  · rintro ⟨⟨events, storable, isRows, sequenced⟩, accepted⟩
    exact (classified storable isRows).mpr ⟨sequenced, accepted⟩

/-- A transaction in sequence has rows, as it has an authorization. -/
theorem SequencedRows.nonempty (sequenced : SequencedRows rows) : rows ≠ [] := by
  obtain ⟨events, _, rfl, inSequence⟩ := sequenced
  rintro empty
  rw [List.map_eq_nil_iff.mp empty] at inSequence
  obtain ⟨_, wrong, _⟩ := mem_lifecycle.mp inSequence.word
  cases wrong

/-- Rows in sequence whose totals fit have exact residues; those whose totals do not fit
are not covered. -/
theorem fit_iff_covered (sequenced : SequencedRows rows) (accepted : ¬ ResiduesRefused rows) :
    TotalsFit rows ↔ ExactlyCovered rows := by
  have present := sequenced.nonempty
  obtain ⟨events, storable, rfl, inSequence⟩ := sequenced
  have nonempty : events ≠ [] := fun empty => present (by rw [empty, List.map_nil])
  have single := ((well_staged_sequenced nonempty).mpr inSequence).staged.single
  obtain ⟨opening, isOpening, _, authorizes⟩ := single_total single
  have total := exact_minor_events storable
  have authorized : Int64 (exactMinor .authorization (events.map acceptedRow)) := by
    rw [total, show amount (ofType .authorization events) = _ from authorizes]
    exact (storable opening isOpening).2
  have nonneg (eventType : EventType) : 0 ≤ exactMinor eventType (events.map acceptedRow) := by
    rw [total]
    exact amount_nonneg _
  have captures := nonneg .capture
  have refunds := nonneg .refund
  have chargebacks := nonneg .chargeback
  rw [ResiduesRefused, not_or, not_lt, not_lt] at accepted
  constructor
  · rintro ⟨captured, reversed⟩
    rw [bigint_fits captured, bigint_fits reversed] at accepted
    exact accepted
  · rintro ⟨captured, reversed⟩
    unfold Int64 at authorized
    exact ⟨⟨by omega, by omega⟩, by omega, by omega⟩

/-- The transaction is projected exactly when its rows have no error, provided that it has
rows. -/
theorem projected_iff : (∃ state ∈ (reconstruct rows).1, state.transactionId = transactionId) ↔
    group AcceptedEventRow.transactionId transactionId rows ≠ [] ∧
      lifecycleError transactionId
        (group AcceptedEventRow.transactionId transactionId rows) = none := by
  have listed : (∃ state ∈ (reconstruct rows).1, state.transactionId = transactionId) ↔
      group PaymentStateRow.transactionId transactionId (reconstruct rows).1 ≠ [] := by
    rw [← List.length_pos_iff, List.length_pos_iff_exists_mem]
    exact exists_congr fun state => mem_group.symm
  rw [listed, reconstruct_current, historyState]
  by_cases passes : lifecycleError transactionId
      (group AcceptedEventRow.transactionId transactionId rows) = none
  · rw [if_pos passes, and_iff_left passes, ne_eq, List.map_eq_nil_iff, firstRow,
      Option.toList_eq_nil_iff, List.head?_eq_none_iff,
      ← List.length_eq_zero_iff, List.length_insertionSort, List.length_eq_zero_iff]
  · rw [if_neg passes]
    exact iff_of_false (fun wrong => wrong rfl) fun both => passes both.2

/-- Reconstruction shows no transaction as valid whose exact totals are not covered. -/
def OnlyCovered (rows : List AcceptedEventRow) : Prop :=
  ∀ state ∈ (reconstruct rows).1,
    ExactlyCovered (group AcceptedEventRow.transactionId state.transactionId rows)

instance (rows : List AcceptedEventRow) : Decidable (OnlyCovered rows) :=
  inferInstanceAs (Decidable (∀ state ∈ (reconstruct rows).1, _))

/-- Overflow goes unnoticed exactly where the residues fit. Of rows with 64-bit columns
and positive amounts, every transaction that reconstruction shows as valid has covered
totals if and only if each transaction in sequence whose captured or reversed total
leaves 64 bits has wrapped totals that a check refuses. -/
theorem only_covered_iff (columns : ∀ row ∈ rows, BigintRow row) :
    OnlyCovered rows ↔ ∀ transactionId,
      SequencedRows (group AcceptedEventRow.transactionId transactionId rows) →
        ¬ TotalsFit (group AcceptedEventRow.transactionId transactionId rows) →
          ResiduesRefused (group AcceptedEventRow.transactionId transactionId rows) := by
  have whole {transactionId : Identifier} : ∀ row ∈ group AcceptedEventRow.transactionId
      transactionId rows, row.transactionId = transactionId :=
    fun row member => (mem_group.mp member).2
  have wide {transactionId : Identifier} :
      ∀ row ∈ group AcceptedEventRow.transactionId transactionId rows, BigintRow row :=
    fun row member => columns row (mem_group.mp member).1
  constructor
  · intro covered transactionId sequenced overflow
    by_contra accepted
    have nonempty : group AcceptedEventRow.transactionId transactionId rows ≠ [] :=
      sequenced.nonempty
    have passes := (lifecycle_error_none nonempty whole wide).mpr ⟨sequenced, accepted⟩
    obtain ⟨state, shown, rfl⟩ := projected_iff.mpr ⟨nonempty, passes⟩
    exact overflow ((fit_iff_covered sequenced accepted).mpr (covered state shown))
  · intro refused state shown
    obtain ⟨nonempty, passes⟩ := projected_iff.mp ⟨state, shown, rfl⟩
    obtain ⟨sequenced, accepted⟩ := (lifecycle_error_none nonempty whole wide).mp passes
    refine (fit_iff_covered sequenced accepted).mp ?_
    by_contra overflow
    exact accepted (refused _ sequenced overflow)

end Rows

/-! ## Samples -/

/-- Rows of one transaction, versioned from 1. -/
def sampleRows (amounts : List (String × EventType × {n : Int // 1 ≤ n})) :
    List AcceptedEventRow :=
  amounts.zipIdx.filterMap fun ((eventId, eventType, amount), position) =>
    if valid : isIdentifier (str eventId) = true then
      some (acceptedRow (sampleEvent ⟨str eventId, valid⟩ eventType
        ⟨(position : Int) + 1, by omega⟩ amount
        (noon newYear.date newYear.yearRange)))
    else none

/-- An authorization of 100 and captures of 2^64 in three amounts that fit. -/
def wrappedRows : List AcceptedEventRow :=
  sampleRows [("evt-1", .authorization, 100),
    ("evt-2", .capture, 9223372036854775807),
    ("evt-3", .capture, 9223372036854775807), ("evt-4", .capture, 2)]

/-- The captures wrap to zero, and the transaction is shown as valid although they exceed the
authorization by far. -/
theorem wrapped_rows_shown : (∀ row ∈ wrappedRows, BigintRow row) ∧ ¬ OnlyCovered wrappedRows := by
  constructor
  · decide +kernel
  · decide +kernel

/-- The same authorization, and captures that wrap to more than it. -/
def refusedRows : List AcceptedEventRow :=
  sampleRows [("evt-1", .authorization, 100),
    ("evt-2", .capture, 9223372036854775807),
    ("evt-3", .capture, 9223372036854775807), ("evt-4", .capture, 200)]

/-- These residues are refused, and nothing is shown that is not covered. -/
theorem refused_rows_covered : OnlyCovered refusedRows := by
  refine (only_covered_iff (by decide +kernel)).mpr fun transactionId sequenced _ => ?_
  have one : ∀ row ∈ refusedRows, row.transactionId = ⟨str "txn-1", by decide⟩ := by
    decide +kernel
  by_cases same : transactionId = ⟨str "txn-1", by decide⟩
  · rw [same, group_all one]
    exact .inl (by decide +kernel)
  · have absent : group AcceptedEventRow.transactionId transactionId refusedRows = [] :=
      group_nil fun row member wrong => same (wrong.symm.trans (one row member))
    exact absurd absent sequenced.nonempty

end LedgerFlow.Spark
