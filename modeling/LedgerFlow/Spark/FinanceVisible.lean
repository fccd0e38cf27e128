import LedgerFlow.Spark.DailyRuns
import LedgerFlow.Spark.Prefixes
import LedgerFlow.Spark.Refinement
import LedgerFlow.Store.Conservation

/-!
# What finance sees after daily runs

After any sequence of arrivals and daily runs, a transaction without an exception is
shown by its state row, its posted events and its ledger lines alike: all three describe
its complete accepted history. The ledger itself holds a debit and a credit line of
every posted event, whatever the transaction.

The jobs compute in 64 bits. Where the amounts and totals of a transaction fit, its
history is valid, its row is the projection of the history, and its receivable balance
is the net captured amount of that row. Totals beyond 64 bits wrap: captures of 2^64 sum
to zero, pass the check against the authorization, and are shown as an authorized
payment without captures.
-/

namespace LedgerFlow.Spark

open PyText PyDateTime Grouping Dataframe

/-! ## Views -/

/-- The arrived events whose rows the accepted table holds. -/
def Platform.acceptedEvents (platform : Platform) : List PaymentEvent :=
  platform.bucket.filter fun event => acceptedRow event ∈ platform.warehouse.acceptedEvent

/-- The ledger lines that `fct_ledger_daily` sums: those of transactions without an
exception. -/
def visibleLines (warehouse : Warehouse) : List LedgerEntryRow :=
  leftAnti LedgerEntryRow.transactionId
    (warehouse.businessException.map BusinessExceptionRow.transactionId) warehouse.ledgerEntry

/-- The balance of some lines on the account of the processor. -/
def receivableMinor (lines : List LedgerEntryRow) : Int :=
  selected (fun line => line.account = receivable) LedgerEntryRow.signedMinor lines

/-- The 64-bit columns and sums of a history are exact. -/
structure ExactHistory (events : List PaymentEvent) : Prop where
  storable : ∀ event ∈ events, Storable event
  sums : SumsFit events

/-- The tables show a transaction as its complete accepted history. -/
structure FinanceVisible (platform : Platform) (transactionId : Identifier) : Prop where
  rows : ((history platform.acceptedEvents transactionId).map acceptedRow).Perm
    (platform.warehouse.history transactionId)
  valid : verdict (history platform.acceptedEvents transactionId) = none
  state : ∃ row, (projection shippedRules (history platform.acceptedEvents transactionId)).states =
      [row] ∧
    group PaymentStateRow.transactionId transactionId platform.warehouse.paymentState =
      [warehouseState row] ∧
    group (fun row => row.state.transactionId) transactionId
        (dimPaymentCurrent platform.warehouse) =
      [⟨warehouseState row, some (receivableMinor (group LedgerEntryRow.transactionId transactionId
        (visibleLines platform.warehouse)))⟩]
  posted : (group AcceptedEventRow.transactionId transactionId
      platform.warehouse.postedEvent).Perm
    ((platform.warehouse.history transactionId).filter isMonetary)
  ledger : (group LedgerEntryRow.transactionId transactionId platform.warehouse.ledgerEntry).Perm
    (doubleEntry (platform.warehouse.history transactionId))
  balance : receivableMinor (group LedgerEntryRow.transactionId transactionId
      (visibleLines platform.warehouse)) =
    capturedMinor (history platform.acceptedEvents transactionId) -
      refundedMinor (history platform.acceptedEvents transactionId) -
      chargebackMinor (history platform.acceptedEvents transactionId)

/-- Lines have distinct identifiers, and every event with a line has two. -/
structure PairedLines (ledger : List LedgerEntryRow) : Prop where
  keyed : Keyed LedgerEntryRow.entryId ledger
  paired : ∀ line ∈ ledger, (group LedgerEntryRow.eventId line.eventId ledger).length = 2

/-- The lines of each event of a transaction sum to zero. -/
def BalancedEvents (ledger : List LedgerEntryRow) (transactionId : Identifier) : Prop :=
  ∀ line ∈ ledger, line.transactionId = transactionId →
    ((group LedgerEntryRow.eventId line.eventId ledger).map LedgerEntryRow.signedMinor).sum = 0

/-! ## Lines and balances -/

/-- The lines of one event move the receivable account by what it settles. -/
theorem receivable_event {event : PaymentEvent} (storable : Storable event) :
    receivableMinor (doubleEntry [acceptedRow event]) = settled event := by
  have positive := event.amountPositive
  have stored : bigint event.amountMinor = event.amountMinor := bigint_fits storable.2
  have negated : bigint (-event.amountMinor) = -event.amountMinor := by
    have ⟨low, high⟩ := storable.2
    exact bigint_fits ⟨by omega, by omega⟩
  have payable : str "merchant_payable" ≠ str "processor_receivable" := by decide
  have loss : str "chargeback_loss" ≠ str "processor_receivable" := by decide
  cases type : event.eventType <;>
    simp [receivableMinor, doubleEntry, isMonetary, acceptedRow, type, selected, debit, credit,
      entryLine, debitAccount, creditAccount, receivable, payable, loss, settled,
      settledAmount, postedRow, stored, negated]

/-- The lines of a history move the receivable account by its net captured amount. -/
theorem receivable_history {events : List PaymentEvent}
    (storable : ∀ event ∈ events, Storable event) :
    receivableMinor (doubleEntry (events.map acceptedRow)) =
      capturedMinor events - refundedMinor events - chargebackMinor events := by
  rw [← settled_sum]
  induction events with
  | nil => rfl
  | cons event rest inductionHypothesis =>
    have later := inductionHypothesis fun other member =>
      storable other (List.mem_cons_of_mem _ member)
    have first := receivable_event (storable event List.mem_cons_self)
    have split : receivableMinor (doubleEntry ((event :: rest).map acceptedRow)) =
        receivableMinor (doubleEntry [acceptedRow event] ++ doubleEntry (rest.map acceptedRow)) :=
      (((double_entry_append [acceptedRow event] (rest.map acceptedRow)).filter _).map _).sum_eq
    rw [split, receivableMinor, selected_append, List.map_cons, List.sum_cons, ← later, ← first]
    rfl

section Ledger

variable {warehouse : Warehouse}

/-- The lines of a posted event are its debit and its credit, and every line is one of these for
some posted event. -/
theorem sound_event_lines (sound : Sound warehouse) {line : LedgerEntryRow}
    (member : line ∈ warehouse.ledgerEntry) :
    ∃ row ∈ warehouse.postedEvent, line.transactionId = row.transactionId ∧
      (group LedgerEntryRow.eventId line.eventId warehouse.ledgerEntry).Perm
        [debit row, credit row] := by
  obtain ⟨row, posted, monetary, either, sameTransaction, _⟩ :=
    mem_double_entry (sound.ledger.mem_iff.mp member)
  have sameEvent : line.eventId = row.eventId := by
    rcases either with rfl | rfl <;> rfl
  have lines := sound.ledger.filter fun other => decide (other.eventId = line.eventId)
  have single : group LedgerEntryRow.eventId line.eventId (doubleEntry warehouse.postedEvent) =
      [debit row, credit row] := by
    rw [double_entry_by LedgerEntryRow.eventId AcceptedEventRow.eventId (fun _ => rfl)
      fun _ => rfl, sameEvent, sound.postedKeyed.group_eq posted, doubleEntry,
      List.filter_cons_of_pos monetary]
    rfl
  exact ⟨row, posted, sameTransaction, single ▸ lines⟩

/-- A sound ledger pairs its lines, so that no event is posted by half. -/
theorem sound_paired (sound : Sound warehouse) : PairedLines warehouse.ledgerEntry where
  keyed := (sound.ledger.map _).nodup_iff.mpr (double_entry_keyed sound.postedKeyed)
  paired := by
    intro line member
    obtain ⟨_, _, _, lines⟩ := sound_event_lines sound member
    exact lines.length_eq

end Ledger

/-! ## One transaction -/

section Shown

variable {actions : List Action} {platform : Platform} {transactionId : Identifier}

/-- The accepted table holds the rows of the accepted events, up to their order; what has arrived
and was not yet ingested is not among them. -/
theorem accepted_events_rows (ongoing : Ongoing actions platform)
    (keyed : Keyed PaymentEvent.eventId (arrivals actions)) :
    (platform.acceptedEvents.map acceptedRow).Perm platform.warehouse.acceptedEvent := by
  have left : Keyed AcceptedEventRow.eventId (platform.acceptedEvents.map acceptedRow) := by
    rw [Keyed, List.map_map]
    exact (ongoing.bucket ▸ keyed).sublist (List.filter_sublist.map _)
  apply (List.perm_ext_iff_of_nodup left.of_map ongoing.sound.accepted.of_map).mpr
  intro row
  constructor
  · intro member
    obtain ⟨event, inside, rfl⟩ := List.mem_map.mp member
    exact of_decide_eq_true (List.mem_filter.mp inside).2
  · intro member
    obtain ⟨event, inside, rfl⟩ := ongoing.accepted row member
    exact List.mem_map_of_mem (List.mem_filter.mpr ⟨inside, decide_eq_true member⟩)

/-- Without repeated event ids, the accepted history of a transaction and its rows in the
warehouse are the same, up to order. -/
theorem accepted_history_rows (ongoing : Ongoing actions platform)
    (keyed : Keyed PaymentEvent.eventId (arrivals actions)) :
    ((history platform.acceptedEvents transactionId).map acceptedRow).Perm
      (platform.warehouse.history transactionId) := by
  have sorted := (history_perm_group platform.acceptedEvents transactionId).map acceptedRow
  rw [← group_rows] at sorted
  exact sorted.trans ((accepted_events_rows ongoing keyed).filter _)

/-- The accepted history of a transaction is a part of what arrived for it. -/
theorem accepted_history_exact (ongoing : Ongoing actions platform)
    (exact : ExactHistory (group PaymentEvent.transactionId transactionId (arrivals actions))) :
    ExactHistory (history platform.acceptedEvents transactionId) := by
  have included : (group PaymentEvent.transactionId transactionId platform.acceptedEvents).Sublist
      (group PaymentEvent.transactionId transactionId (arrivals actions)) := by
    rw [← ongoing.bucket]
    exact List.filter_sublist.filter _
  constructor
  · intro event member
    exact exact.storable event (included.subset (mem_group.mpr (mem_history.mp member)))
  · exact sums_fit_history (sums_fit_part included exact.sums)

/-- Sorting the history of one transaction again changes nothing, and all of its events are of the
transaction. -/
theorem history_again (accepted : List PaymentEvent) (transactionId : Identifier) :
    history (history accepted transactionId) transactionId = history accepted transactionId := by
  have whole : group PaymentEvent.transactionId transactionId (history accepted transactionId) =
      history accepted transactionId := group_all fun event member => history_transaction member
  rw [history, whole]
  exact (List.pairwise_insertionSort inOrder _).insertionSort_eq

/-- The state row of a valid exact history is its projection in the core, whose totals fit. -/
theorem history_state_projection {accepted : List PaymentEvent}
    (listed : history accepted transactionId ≠ [])
    (exact : ExactHistory (history accepted transactionId)) :
    historyState transactionId ((history accepted transactionId).map acceptedRow) =
      (projection shippedRules (history accepted transactionId)).states.map warehouseState := by
  have member : transactionId ∈ transactionIds (history accepted transactionId) := by
    obtain ⟨event, inside⟩ := List.exists_mem_of_ne_nil _ listed
    exact mem_transaction_ids.mpr ⟨event, inside, history_transaction inside⟩
  have whole : group PaymentEvent.transactionId transactionId (history accepted transactionId) =
      history accepted transactionId := group_all fun event inside => history_transaction inside
  have single := transaction_state member exact.storable (whole.symm ▸ exact.sums)
  rw [reconstruct_current, group_rows, whole, history_again] at single
  exact single

/-- A transaction with accepted events, without exceptions and with exact sums is shown
as its complete accepted history. -/
theorem ongoing_visible (ongoing : Ongoing actions platform)
    (keyed : Keyed PaymentEvent.eventId (arrivals actions))
    (exact : ExactHistory (group PaymentEvent.transactionId transactionId (arrivals actions)))
    (listed : transactionId ∈
      platform.warehouse.acceptedEvent.map AcceptedEventRow.transactionId)
    (unexcepted : transactionId ∉
      platform.warehouse.businessException.map BusinessExceptionRow.transactionId) :
    FinanceVisible platform transactionId := by
  obtain ⟨row, member, same⟩ := List.mem_map.mp listed
  have nonempty : platform.warehouse.history transactionId ≠ [] :=
    List.ne_nil_of_mem (mem_group.mpr ⟨member, same⟩)
  have fresh : ∀ event ∈ platform.warehouse.excepted, event.transactionId ≠ transactionId := by
    intro event excepted wrong
    obtain ⟨exception, inside, rfl⟩ := List.mem_map.mp excepted
    exact unexcepted (List.mem_map.mpr ⟨exception, inside, wrong⟩)
  have undisturbed : ¬ Disturbed actions transactionId := by
    intro disturbed
    obtain ⟨event, excepted, wrong⟩ := (ongoing.excepted transactionId).mpr disturbed
    exact fresh event excepted wrong
  have settled := ongoing.settled transactionId undisturbed nonempty
  have rows := @accepted_history_rows _ _ transactionId ongoing keyed
  have exactPart := accepted_history_exact ongoing exact
  have someEvents : history platform.acceptedEvents transactionId ≠ [] := by
    intro none
    rw [none] at rows
    exact nonempty (List.nil_perm.mp rows)
  have valid : verdict (history platform.acceptedEvents transactionId) = none := by
    rw [← lifecycle_error_verdict someEvents (fun event inside => history_transaction inside)
      exactPart.storable exactPart.sums, lifecycle_error_perm rows]
    exact settled.valid
  have ledger := settled_ledger ongoing.sound settled
  have lines : group LedgerEntryRow.transactionId transactionId (visibleLines platform.warehouse) =
      group LedgerEntryRow.transactionId transactionId platform.warehouse.ledgerEntry :=
    left_anti_group unexcepted _
  have balance : receivableMinor (group LedgerEntryRow.transactionId transactionId
      (visibleLines platform.warehouse)) =
        capturedMinor (history platform.acceptedEvents transactionId) -
          refundedMinor (history platform.acceptedEvents transactionId) -
          chargebackMinor (history platform.acceptedEvents transactionId) := by
    rw [lines, ← receivable_history exactPart.storable]
    exact (((ledger.trans (double_entry_perm rows.symm)).filter _).map _).sum_eq
  obtain ⟨state, single, _, current⟩ := settled_state ongoing.sound nonempty settled
  have keyedRows : Keyed AcceptedEventRow.eventId
      (platform.warehouse.history transactionId) :=
    ongoing.sound.accepted.sublist (List.filter_sublist.map _)
  have projected := history_state_projection someEvents exactPart
  rw [history_state_perm ((rows.map _).nodup_iff.mpr keyedRows) rows, single] at projected
  obtain ⟨event, last⟩ := last_exists someEvents
  have states : (projection shippedRules (history platform.acceptedEvents transactionId)).states =
      [stateRow (history platform.acceptedEvents transactionId) event] := by
    rw [projection_valid last valid]
  rw [states] at projected
  have state := List.head_eq_of_cons_eq projected
  refine ⟨rows, valid, ⟨_, states, by rw [current, state], ?_⟩,
    settled_posted ongoing.sound settled, ledger, balance⟩
  rw [unexcepted_visible fresh, current, state, balance]
  rfl

/-- The lines of each event of a transaction with exact amounts sum to zero. -/
theorem ongoing_balanced (ongoing : Ongoing actions platform)
    (storable : ∀ event ∈ group PaymentEvent.transactionId transactionId (arrivals actions),
      Storable event) :
    BalancedEvents platform.warehouse.ledgerEntry transactionId := by
  intro line member same
  obtain ⟨row, posted, sameTransaction, lines⟩ := sound_event_lines ongoing.sound member
  obtain ⟨event, inside, rfl⟩ :=
    ongoing.accepted row (ongoing.sound.posted row posted).1
  have fits := storable event (mem_group.mpr
    ⟨ongoing.bucket ▸ inside, sameTransaction.symm.trans same⟩)
  have positive := event.amountPositive
  have stored : bigint event.amountMinor = event.amountMinor := bigint_fits fits.2
  have negated : bigint (-event.amountMinor) = -event.amountMinor := by
    have ⟨low, high⟩ := fits.2
    exact bigint_fits ⟨by omega, by omega⟩
  rw [(lines.map _).sum_eq]
  simp [debit, credit, entryLine, acceptedRow, stored, negated]

end Shown

/-- After any arrivals and daily runs the ledger holds two lines of every event in it.
A transaction whose amounts and totals fit in 64 bits has balanced lines, and if it has
accepted events and no exception it is shown as its complete accepted history. -/
theorem finance_visible_sound {actions : List Action}
    (keyed : Keyed PaymentEvent.eventId (arrivals actions))
    (utc : ∀ event ∈ arrivals actions, event.eventTime.offset = 0) :
    ∃ platform, execute actions emptyPlatform = .ok platform ∧
      PairedLines platform.warehouse.ledgerEntry ∧
      ∀ transactionId,
        ExactHistory (group PaymentEvent.transactionId transactionId (arrivals actions)) →
          BalancedEvents platform.warehouse.ledgerEntry transactionId ∧
          (transactionId ∈ platform.warehouse.acceptedEvent.map AcceptedEventRow.transactionId →
            transactionId ∉
                platform.warehouse.businessException.map BusinessExceptionRow.transactionId →
              FinanceVisible platform transactionId) := by
  obtain ⟨platform, ran, ongoing⟩ := execute_ongoing keyed utc
  refine ⟨platform, ran, sound_paired ongoing.sound, fun transactionId exact => ?_⟩
  constructor
  · exact ongoing_balanced ongoing exact.storable
  · exact ongoing_visible ongoing keyed exact

/-! ## Captures that wrap -/

/-- An authorization of 100 and captures of 2^64. -/
def wrappedCaptures : List Action :=
  let event (eventId : String) (valid : isIdentifier (str eventId) = true) (eventType : EventType)
      (version amount : {n : Int // 1 ≤ n}) : PaymentEvent :=
    sampleEvent ⟨str eventId, valid⟩ eventType version amount
      (noon newYear.date newYear.yearRange)
  [.arrive (event "evt-1" (.refl true) .authorization 1 100),
    .arrive (event "evt-2" (.refl true) .capture 2 9223372036854775807),
    .arrive (event "evt-3" (.refl true) .capture 3 9223372036854775807),
    .arrive (event "evt-4" (.refl true) .capture 4 2),
    .run newYear.date]

/-- Each amount fits, but the captures sum to 2^64. The payment has no exception: it is
shown as authorized with nothing captured, while its history is not valid and its lines
leave a balance of 2^64. -/
theorem wrapped_captures_visible :
    Keyed PaymentEvent.eventId (arrivals wrappedCaptures) ∧
    (∀ event ∈ arrivals wrappedCaptures, event.eventTime.offset = 0) ∧
    ∃ platform, execute wrappedCaptures emptyPlatform = .ok platform ∧
      ⟨str "txn-1", by decide⟩ ∈
        platform.warehouse.acceptedEvent.map AcceptedEventRow.transactionId ∧
      platform.warehouse.businessException = [] ∧
      verdict (history platform.acceptedEvents ⟨str "txn-1", by decide⟩) =
        some .captureExceedsAuthorization ∧
      (dimPaymentCurrent platform.warehouse).map PaymentCurrentRow.netProcessorReceivableMinor =
        [some 0] ∧
      receivableMinor (visibleLines platform.warehouse) = 18446744073709551616 ∧
      ¬ FinanceVisible platform ⟨str "txn-1", by decide⟩ := by
  have keyed : Keyed PaymentEvent.eventId (arrivals wrappedCaptures) := by
    decide +kernel
  have utc : ∀ event ∈ arrivals wrappedCaptures, event.eventTime.offset = 0 := by
    decide +kernel
  obtain ⟨platform, ran, _⟩ := execute_ongoing keyed utc
  have tables : (execute wrappedCaptures emptyPlatform).toOption.map (fun reached =>
      (reached.warehouse.businessException,
        verdict (history reached.acceptedEvents ⟨str "txn-1", by decide⟩),
        (dimPaymentCurrent reached.warehouse).map PaymentCurrentRow.netProcessorReceivableMinor,
        receivableMinor (visibleLines reached.warehouse))) =
      some ([], some .captureExceedsAuthorization, [some 0], 18446744073709551616) := by
    decide +kernel
  have accepted : (execute wrappedCaptures emptyPlatform).toOption.map (fun reached =>
      decide (⟨str "txn-1", by decide⟩ ∈
        reached.warehouse.acceptedEvent.map AcceptedEventRow.transactionId)) = some true := by
    decide +kernel
  rw [ran] at tables accepted
  have listed := of_decide_eq_true (Option.some.inj accepted)
  obtain ⟨exceptions, rest⟩ := Prod.mk.inj (Option.some.inj tables)
  obtain ⟨judged, rest⟩ := Prod.mk.inj rest
  obtain ⟨shown, balance⟩ := Prod.mk.inj rest
  refine ⟨keyed, utc, platform, ran, listed, exceptions, judged, shown, balance, fun visible => ?_⟩
  rw [visible.valid] at judged
  cases judged

/-- The tables after the runs of a capture that arrives in order: its lines are paired and
balanced, and it is shown. -/
theorem finance_visible_sound_sample :
    ∃ platform, execute promptArrivals emptyPlatform = .ok platform ∧
      PairedLines platform.warehouse.ledgerEntry ∧
      ∀ transactionId,
        ExactHistory (group PaymentEvent.transactionId transactionId (arrivals promptArrivals)) →
          BalancedEvents platform.warehouse.ledgerEntry transactionId ∧
          (transactionId ∈ platform.warehouse.acceptedEvent.map AcceptedEventRow.transactionId →
            transactionId ∉
                platform.warehouse.businessException.map BusinessExceptionRow.transactionId →
              FinanceVisible platform transactionId) :=
  finance_visible_sound (by decide +kernel) (by decide +kernel)

end LedgerFlow.Spark
