import LedgerFlow.Lifecycle

/-!
# What a rebuild writes for each transaction

`ValidHistory` is the conjunction of the lifecycle tests. The rows that `projectAll`
writes are grouped back, first by transaction and then by event: a valid transaction
has its state row and, for each of its events, exactly that event's posted row and
lines; an invalid one has an exception row for each of its events and nothing else.
-/

namespace LedgerFlow

open PyText Grouping

/-! ## Valid histories -/

/-- The history passes every lifecycle test. -/
structure ValidHistory (events : List PaymentEvent) : Prop where
  versions : distinct PaymentEvent.transactionVersion events = events.length
  first : leastVersion events = 1
  last : greatestVersion events = events.length
  oneCurrency : distinct PaymentEvent.currency events = 1
  oneProcessor : distinct PaymentEvent.processorId events = 1
  oneMerchant : distinct PaymentEvent.merchantId events = 1
  authorizations : (ofType .authorization events).length = 1
  captures : ofType .capture events ≠ [] →
    ((ofType .authorization events).head?.map PaymentEvent.transactionVersion).getD 0 <
      leastVersion (ofType .capture events)
  captured : reversals events ≠ [] → ofType .capture events ≠ []
  reversed : reversals events ≠ [] →
    leastVersion (ofType .capture events) < leastVersion (reversals events)
  covered : capturedMinor events ≤ authorizedMinor events
  reversalsCovered : refundedMinor events + chargebackMinor events ≤ capturedMinor events

/-- A chain of tests finds no violation exactly when its first test does not fail and neither does
the rest. -/
theorem test_passed {failed : Prop} [Decidable failed] {reason : Violation}
    {rest : Option Violation} :
    (if failed then some reason else rest) = none ↔ ¬ failed ∧ rest = none := by
  split <;> simp_all

/-- No test fails exactly when the history is valid. The verdict is a chain of tests with the
first failure as its result; a valid history satisfies what each of them looks for. -/
theorem verdict_none {events : List PaymentEvent} :
    verdict events = none ↔ ValidHistory events := by
  have single : ∀ authorizations : List PaymentEvent, authorizations.length = 1 ↔
      ¬ 1 < authorizations.length ∧ authorizations ≠ [] := by
    intro authorizations
    rw [← List.length_pos_iff]
    omega
  simp only [verdict, test_passed, and_true]
  constructor
  · rintro ⟨a, b, c, d, e, f, _, h, i, j, k, l, m⟩
    exact {
      versions := not_not.mp a
      first := not_not.mp fun wrong => b (.inl wrong)
      last := not_not.mp fun wrong => b (.inr wrong)
      oneCurrency := not_not.mp c
      oneProcessor := not_not.mp d
      oneMerchant := not_not.mp e
      authorizations := (single _).mpr ⟨f, h⟩
      captures := fun some => not_le.mp fun wrong => i ⟨some, wrong⟩
      captured := fun some none => j ⟨some, none⟩
      reversed := fun some => not_le.mp fun wrong => k ⟨some, wrong⟩
      covered := not_lt.mp l
      reversalsCovered := not_lt.mp m }
  · intro valid
    obtain ⟨notMany, present⟩ := (single _).mp valid.authorizations
    exact ⟨not_not.mpr valid.versions, fun wrong => wrong.elim (· valid.first) (· valid.last),
      not_not.mpr valid.oneCurrency, not_not.mpr valid.oneProcessor,
      not_not.mpr valid.oneMerchant, notMany, fun both => present both.1, present,
      fun both => not_le.mpr (valid.captures both.1) both.2,
      fun both => valid.captured both.1 both.2,
      fun both => not_le.mpr (valid.reversed both.1) both.2,
      not_lt.mpr valid.covered, not_lt.mpr valid.reversalsCovered⟩

/-- A field with a single value is the same on all events; the tests of the source count values,
and this is what their passing means for two events. -/
theorem distinct_one {α : Type} [DecidableEq α] {field : PaymentEvent → α}
    {events : List PaymentEvent} (one : distinct field events = 1) {first second : PaymentEvent}
    (left : first ∈ events) (right : second ∈ events) : field first = field second := by
  obtain ⟨value, only⟩ := List.length_eq_one_iff.mp one
  have isValue {event : PaymentEvent} (member : event ∈ events) : field event = value := by
    have inside : field event ∈ (events.map field).dedup :=
      List.mem_dedup.mpr (List.mem_map_of_mem member)
    rw [only] at inside
    exact List.mem_singleton.mp inside
  rw [isValue left, isValue right]

/-- A field has as many values as there are events exactly when it is a key. -/
theorem distinct_all {α : Type} [DecidableEq α] {field : PaymentEvent → α}
    {events : List PaymentEvent} : distinct field events = events.length ↔ Keyed field events := by
  unfold distinct Keyed
  constructor
  · intro all
    have whole : (events.map field).dedup = events.map field := by
      apply (List.dedup_sublist _).eq_of_length
      rw [List.length_map]
      exact all
    exact List.dedup_eq_self.mp whole
  · intro unique
    rw [List.dedup_eq_self.mpr unique, List.length_map]

/-- A sum of amounts is not negative, since the contract lets positive amounts only pass. -/
theorem amount_nonneg (events : List PaymentEvent) : 0 ≤ amount events := by
  refine List.sum_nonneg fun amount listed => ?_
  obtain ⟨event, _, rfl⟩ := List.mem_map.mp listed
  exact event.amountPositive.le

/-- The versions of a valid history are distinct, as there are as many of them as events. -/
theorem ValidHistory.versions_distinct {events : List PaymentEvent} (valid : ValidHistory events) :
    Keyed PaymentEvent.transactionVersion events := distinct_all.mp valid.versions

/-- The last event of a history follows every other in the order of the projection. -/
theorem history_last {accepted : List PaymentEvent} {transactionId : Identifier}
    {current event : PaymentEvent} (last : (history accepted transactionId).getLast? = some current)
    (member : event ∈ history accepted transactionId) : inOrder event current := by
  have sorted : (history accepted transactionId).Pairwise inOrder :=
    List.pairwise_insertionSort inOrder _
  obtain ⟨earlier, split⟩ := List.getLast?_eq_some_iff.mp last
  rw [split] at sorted member
  rcases List.mem_append.mp member with before | here
  · exact (List.pairwise_append.mp sorted).2.2 event before current List.mem_cons_self
  · rw [List.mem_singleton.mp here]
    exact le_refl (sortKey current)

/-- The last event of a valid history has the highest version, and no other event has it. So the
state row describes the latest version, and the order by time never decides. -/
theorem last_highest {accepted : List PaymentEvent} {transactionId : Identifier}
    {current event : PaymentEvent} (valid : ValidHistory (history accepted transactionId))
    (last : (history accepted transactionId).getLast? = some current)
    (member : event ∈ history accepted transactionId) (other : event ≠ current) :
    event.transactionVersion < current.transactionVersion := by
  have isLast : current ∈ history accepted transactionId := List.mem_of_getLast? last
  have before : event.transactionVersion ≤ current.transactionVersion :=
    Prod.Lex.monotone_fst _ _ (history_last last member)
  have apart : event.transactionVersion ≠ current.transactionVersion := fun same =>
    other (valid.versions_distinct.unique member isLast same)
  exact lt_of_le_of_ne before apart

/-! ## The rows of one history -/

section OneHistory

variable {rules : PostingRules} {events : List PaymentEvent}

/-- A valid history has the state of its last event, its postings and no exception. -/
theorem projection_valid {current : PaymentEvent} (last : events.getLast? = some current)
    (valid : verdict events = none) :
    projection rules events = ⟨[], events.flatMap (postedRows rules),
      events.flatMap (postings rules), [stateRow events current]⟩ := by
  simp only [projection, last, valid]

/-- An invalid history has an exception for each event and nothing else: no event of it is
posted. -/
theorem projection_invalid {reason : Violation} (nonempty : events ≠ [])
    (invalid : verdict events = some reason) :
    projection rules events = ⟨events.map (exceptionRow reason), [], [], []⟩ := by
  cases last : events.getLast? with
  | none => exact absurd (List.getLast?_eq_none_iff.mp last) nonempty
  | some current => simp only [projection, last, invalid]

/-- A nonempty history has a last event, from which its state row is made. -/
theorem last_exists (nonempty : events ≠ []) : ∃ current, events.getLast? = some current :=
  Option.isSome_iff_exists.mp (List.getLast?_isSome.mpr nonempty)

/-- The exception rows of a transaction are there exactly where the verdict names a reason, and
then one for each of its events: the transaction is excepted as a whole. -/
theorem projection_exceptions {row : ExceptionRow} :
    row ∈ (projection rules events).exceptions ↔
      ∃ reason, verdict events = some reason ∧ ∃ event ∈ events, exceptionRow reason event = row := by
  unfold projection
  cases last : events.getLast? with
  | none => simp [List.getLast?_eq_none_iff.mp last]
  | some current =>
    cases verdict events with
    | none => simp
    | some reason => simp

/-- The posted rows are there exactly where there is no verdict, one for each event that has
postings. -/
theorem projection_posted {row : PostedRow} :
    row ∈ (projection rules events).posted ↔
      verdict events = none ∧ ∃ event ∈ events, postings rules event ≠ [] ∧ postedRow event = row := by
  unfold projection
  cases last : events.getLast? with
  | none => simp [List.getLast?_eq_none_iff.mp last]
  | some current =>
    cases verdict events with
    | some reason => simp
    | none =>
      simp only [List.mem_flatMap, postedRows, true_and]
      refine exists_congr fun event => and_congr_right fun _ => ?_
      split <;> simp_all [eq_comm]

/-- The ledger lines are there exactly where there is no verdict, each of them a line of one of
the events. -/
theorem projection_ledger {line : PostingLine} :
    line ∈ (projection rules events).ledger ↔
      verdict events = none ∧ ∃ event ∈ events, line ∈ postings rules event := by
  unfold projection
  cases last : events.getLast? with
  | none => simp [List.getLast?_eq_none_iff.mp last]
  | some current => cases verdict events <;> simp [List.mem_flatMap]

/-- The state row is there exactly where there is no verdict, and describes the last event of the
history. -/
theorem projection_states {row : StateRow} :
    row ∈ (projection rules events).states ↔
      verdict events = none ∧ ∃ current, events.getLast? = some current ∧
        stateRow events current = row := by
  unfold projection
  cases last : events.getLast? with
  | none => simp
  | some current => cases verdict events <;> simp [eq_comm]

end OneHistory

/-! ## The rows of a rebuild -/

section Rebuild

variable {rules : PostingRules} {accepted : List PaymentEvent} {transactionId : Identifier}

/-- The exceptions of all accepted events are those of the transactions, one after another. -/
theorem project_all_exceptions :
    (projectAll rules accepted).exceptions =
      (transactionIds accepted).flatMap fun id => (projection rules (history accepted id)).exceptions :=
  List.flatMap_map ..

/-- The posted rows of all accepted events are those of the transactions, one after another. -/
theorem project_all_posted :
    (projectAll rules accepted).posted =
      (transactionIds accepted).flatMap fun id => (projection rules (history accepted id)).posted :=
  List.flatMap_map ..

/-- The ledger lines of all accepted events are those of the transactions, one after another. -/
theorem project_all_ledger :
    (projectAll rules accepted).ledger =
      (transactionIds accepted).flatMap fun id => (projection rules (history accepted id)).ledger :=
  List.flatMap_map ..

/-- The state rows of all accepted events are those of the transactions, of which each has one at
most. -/
theorem project_all_states :
    (projectAll rules accepted).states =
      (transactionIds accepted).flatMap fun id => (projection rules (history accepted id)).states :=
  List.flatMap_map ..

/-- Every event of a history belongs to its transaction. -/
theorem history_transaction {event : PaymentEvent}
    (member : event ∈ history accepted transactionId) : event.transactionId = transactionId :=
  (mem_history.mp member).2

/-- The last event of a history is in it. -/
theorem last_mem {current : PaymentEvent} {events : List PaymentEvent}
    (last : events.getLast? = some current) : current ∈ events :=
  List.mem_of_getLast? last

/-- Grouped by transaction, the rows of a rebuild are the rows of the histories. -/
theorem project_all_group (listed : transactionId ∈ transactionIds accepted) :
    group ExceptionRow.transactionId transactionId (projectAll rules accepted).exceptions =
        (projection rules (history accepted transactionId)).exceptions ∧
      group PostedRow.transactionId transactionId (projectAll rules accepted).posted =
        (projection rules (history accepted transactionId)).posted ∧
      group PostingLine.transactionId transactionId (projectAll rules accepted).ledger =
        (projection rules (history accepted transactionId)).ledger ∧
      group StateRow.transactionId transactionId (projectAll rules accepted).states =
        (projection rules (history accepted transactionId)).states := by
  have unique : ((transactionIds accepted).map id).Nodup := by
    simpa using transaction_ids_nodup accepted
  rw [project_all_exceptions, project_all_posted, project_all_ledger, project_all_states]
  refine ⟨?_, ?_, ?_, ?_⟩
  · refine group_flat_map id _ unique (fun other _ row member => ?_) listed
    obtain ⟨_, _, event, inside, rfl⟩ := projection_exceptions.mp member
    exact history_transaction inside
  · refine group_flat_map id _ unique (fun other _ row member => ?_) listed
    obtain ⟨_, event, inside, _, rfl⟩ := projection_posted.mp member
    exact history_transaction inside
  · refine group_flat_map id _ unique (fun other _ row member => ?_) listed
    obtain ⟨_, event, inside, line⟩ := projection_ledger.mp member
    exact (numbered_line line).2.1.trans (history_transaction inside)
  · refine group_flat_map id _ unique (fun other _ row member => ?_) listed
    obtain ⟨_, current, last, rfl⟩ := projection_states.mp member
    exact history_transaction (last_mem last)

/-- Every row of a rebuild comes from accepted events of its transaction. Nothing is projected
about an event or a transaction that was not accepted. -/
theorem project_all_sources :
    (∀ row ∈ (projectAll rules accepted).exceptions, ∃ event ∈ accepted,
        row.eventId = event.eventId ∧ row.transactionId = event.transactionId) ∧
      (∀ row ∈ (projectAll rules accepted).posted, ∃ event ∈ accepted,
        row.eventId = event.eventId ∧ row.transactionId = event.transactionId) ∧
      (∀ row ∈ (projectAll rules accepted).ledger, ∃ event ∈ accepted,
        row.eventId = event.eventId ∧ row.transactionId = event.transactionId) ∧
      ∀ row ∈ (projectAll rules accepted).states, ∃ event ∈ accepted,
        row.currentEventId = event.eventId ∧ row.transactionId = event.transactionId := by
  rw [project_all_exceptions, project_all_posted, project_all_ledger, project_all_states]
  refine ⟨?_, ?_, ?_, ?_⟩ <;> intro row member <;>
    obtain ⟨id, _, inside⟩ := List.mem_flatMap.mp member
  · obtain ⟨_, _, event, here, rfl⟩ := projection_exceptions.mp inside
    exact ⟨event, (mem_history.mp here).1, rfl, rfl⟩
  · obtain ⟨_, event, here, _, rfl⟩ := projection_posted.mp inside
    exact ⟨event, (mem_history.mp here).1, rfl, rfl⟩
  · obtain ⟨_, event, here, line⟩ := projection_ledger.mp inside
    have common := numbered_line line
    exact ⟨event, (mem_history.mp here).1, common.1, common.2.1⟩
  · obtain ⟨_, current, last, rfl⟩ := projection_states.mp inside
    exact ⟨current, (mem_history.mp (last_mem last)).1, rfl, rfl⟩

/-- Where event identifiers are unique, the rows of one event are among the rows of
its transaction. -/
theorem group_event {Row : Type} {eventId : Row → Identifier} {transaction : Row → Identifier}
    {rows : List Row} {event : PaymentEvent} (keyed : Keyed PaymentEvent.eventId accepted)
    (member : event ∈ accepted)
    (sources : ∀ row ∈ rows, ∃ source ∈ accepted, eventId row = source.eventId ∧
      transaction row = source.transactionId) :
    group eventId event.eventId (group transaction event.transactionId rows) =
      group eventId event.eventId rows := by
  refine group_refine fun row inside same => ?_
  obtain ⟨source, here, sameEvent, sameTransaction⟩ := sources row inside
  rw [sameTransaction, keyed.unique here member (sameEvent.symm.trans same)]

end Rebuild

end LedgerFlow
