import LedgerFlow.Spark.Reconstruct

/-!
# Double-entry lines by dataframe

The definitions follow `posting_lines` in `post_ledger.py`. Each monetary event gives a
debit and a credit line of opposite amounts, so the double-entry gate on the sums by
event and currency never fails, whatever the events are.
-/

namespace LedgerFlow.Spark

open PyText PyDateTime Grouping Dataframe

/-! ## Lines -/

/-- A row of `ledger_entry`. -/
structure LedgerEntryRow where
  entryId : Str
  eventId : Identifier
  transactionId : Identifier
  processorId : Identifier
  merchantId : Identifier
  currency : Currency
  eventTime : Timestamp
  account : Str
  signedMinor : Int
  postingRuleVersion : Int
  deriving DecidableEq

/-- `event_type.isin("capture", "refund", "chargeback")` -/
def isMonetary (row : AcceptedEventRow) : Bool :=
  decide (row.eventType = .capture ∨ row.eventType = .refund ∨ row.eventType = .chargeback)

/-- The column `debit_account`. -/
def debitAccount (eventType : EventType) : Str :=
  if eventType = .capture then str "processor_receivable"
  else if eventType = .refund then str "merchant_payable"
  else str "chargeback_loss"

/-- The column `credit_account`. -/
def creditAccount (eventType : EventType) : Str :=
  if eventType = .capture then str "merchant_payable" else str "processor_receivable"

/-- One line of an event; `concat_ws` names it. -/
def entryLine (position account : Str) (signedMinor : Int) (row : AcceptedEventRow) :
    LedgerEntryRow where
  entryId := join (str ":") [row.eventId.1, position]
  eventId := row.eventId
  transactionId := row.transactionId
  processorId := row.processorId
  merchantId := row.merchantId
  currency := row.currency
  eventTime := row.eventTime
  account := account
  signedMinor := signedMinor
  postingRuleVersion := 1

/-- The debit line of an event. -/
def debit (row : AcceptedEventRow) : LedgerEntryRow :=
  entryLine (str "1") (debitAccount row.eventType) row.amountMinor row

/-- The credit line of an event. -/
def credit (row : AcceptedEventRow) : LedgerEntryRow :=
  entryLine (str "2") (creditAccount row.eventType) (bigint (-row.amountMinor)) row

/-- The debit lines of the monetary events and their credit lines. -/
def doubleEntry (events : List AcceptedEventRow) : List LedgerEntryRow :=
  let monetary := events.filter isMonetary
  monetary.map debit ++ monetary.map credit

/-- The group of a balance. -/
def balanceGroup (line : LedgerEntryRow) : Identifier × Currency := (line.eventId, line.currency)

/-- `lines.groupBy("event_id", "currency").agg(sum("signed_minor"))` -/
def balances (lines : List LedgerEntryRow) : List ((Identifier × Currency) × Option Int) :=
  (keysOf balanceGroup lines).map fun key =>
    (key, sumOf ((group balanceGroup key lines).map fun line => some line.signedMinor))

/-- `posting_lines` -/
def postingLines (events : List AcceptedEventRow) : Py (List LedgerEntryRow) := do
  let lines := doubleEntry events
  let unbalanced := (balances lines).filter fun balance =>
    differs balance.2 (some 0) = some true
  require (unbalanced = []) (.runtime (str "double-entry gate failed"))
  .ok lines

/-! ## The gate -/

/-- Numbers that wrap to zero add up to a number that wraps to zero. -/
theorem bigint_sum_zero {values : List Int} (zero : ∀ n ∈ values, bigint n = 0) :
    bigint values.sum = 0 := by
  induction values with
  | nil => rfl
  | cons n rest inductionHypothesis =>
    have here := zero n List.mem_cons_self
    have later := inductionHypothesis fun other member => zero other (List.mem_cons_of_mem n member)
    rw [List.sum_cons, bigint, ← Int.bmod_add_bmod, ← bigint, ← bigint, here, zero_add]
    exact later

/-- Each balance wraps to zero: it sums amounts together with their negations. This holds for
every amount, also where the negation of one overflows. -/
theorem balance_zero (key : Identifier × Currency) (events : List AcceptedEventRow) :
    bigint ((group balanceGroup key (doubleEntry events)).map LedgerEntryRow.signedMinor).sum =
      0 := by
  let grouped := (events.filter isMonetary).filter fun row =>
    decide ((row.eventId, row.currency) = key)
  have lines : group balanceGroup key (doubleEntry events) =
      grouped.map debit ++ grouped.map credit := by
    rw [doubleEntry, group, List.filter_append, List.filter_map, List.filter_map]
    rfl
  have sums : ((group balanceGroup key (doubleEntry events)).map LedgerEntryRow.signedMinor).sum =
      (grouped.map fun row => row.amountMinor + bigint (-row.amountMinor)).sum := by
    rw [lines, List.map_append, List.map_map, List.map_map, List.sum_append, List.sum_map_add]
    rfl
  rw [sums]
  refine bigint_sum_zero fun n member => ?_
  obtain ⟨row, _, rfl⟩ := List.mem_map.mp member
  exact bigint_cancel row.amountMinor

/-- The double-entry gate passes on every input, so it is no check of the amounts. -/
theorem posting_lines_ok (events : List AcceptedEventRow) :
    postingLines events = .ok (doubleEntry events) := by
  have balanced : ((balances (doubleEntry events)).filter fun balance =>
      differs balance.2 (some 0) = some true) = [] := by
    rw [List.filter_eq_nil_iff]
    intro balance member
    obtain ⟨key, listed, rfl⟩ := List.mem_map.mp member
    have nonempty : group balanceGroup key (doubleEntry events) ≠ [] := by
      obtain ⟨line, inside, same⟩ := List.mem_map.mp (List.mem_dedup.mp listed)
      exact List.ne_nil_of_mem (mem_group.mpr ⟨inside, same⟩)
    simp only [sum_of_all nonempty, balance_zero]
    decide
  have passed : require (((balances (doubleEntry events)).filter fun balance =>
      differs balance.2 (some 0) = some true) = []) (.runtime (str "double-entry gate failed")) =
        .ok () := require_ok.mpr balanced
  simp only [postingLines, passed]
  rfl

/-! ## The lines of an event -/

/-- The line at a position has the id that the core gives it: the event id, a colon and the
position. -/
theorem entry_line_id {position : Nat} (row : AcceptedEventRow) (account : Str) (signed : Int)
    {text : Str} (spelled : decimal position = text) :
    (entryLine text account signed row).entryId = entryId row.eventId position := by
  subst spelled
  simp [entryLine, join, entryId]

/-- The debit of an event is its first line. -/
theorem debit_id (row : AcceptedEventRow) : (debit row).entryId = entryId row.eventId 1 :=
  entry_line_id row _ _ rfl

/-- The credit of an event is its second line. -/
theorem credit_id (row : AcceptedEventRow) : (credit row).entryId = entryId row.eventId 2 :=
  entry_line_id row _ _ rfl

/-- A line belongs to a monetary event, and its identifier names the event. -/
theorem mem_double_entry {events : List AcceptedEventRow} {line : LedgerEntryRow}
    (member : line ∈ doubleEntry events) :
    ∃ row ∈ events, isMonetary row = true ∧ (line = debit row ∨ line = credit row) ∧
      line.transactionId = row.transactionId ∧
      ∃ position, line.entryId = entryId row.eventId position := by
  rcases List.mem_append.mp member with debits | credits
  · obtain ⟨row, inside, rfl⟩ := List.mem_map.mp debits
    obtain ⟨here, monetary⟩ := List.mem_filter.mp inside
    exact ⟨row, here, monetary, .inl rfl, rfl, 1, debit_id row⟩
  · obtain ⟨row, inside, rfl⟩ := List.mem_map.mp credits
    obtain ⟨here, monetary⟩ := List.mem_filter.mp inside
    exact ⟨row, here, monetary, .inr rfl, rfl, 2, credit_id row⟩

/-- The lines of events, one event list after another, up to their order: the job writes all
debits before all credits. -/
theorem double_entry_append (first second : List AcceptedEventRow) :
    (doubleEntry (first ++ second)).Perm (doubleEntry first ++ doubleEntry second) := by
  simp only [doubleEntry, List.filter_append, List.map_append, List.append_assoc]
  refine List.Perm.append_left _ ?_
  rw [← List.append_assoc, ← List.append_assoc]
  exact List.Perm.append_right _ List.perm_append_comm

/-- Only monetary events have lines, so filtering the others first changes nothing. -/
theorem double_entry_monetary (events : List AcceptedEventRow) :
    doubleEntry (events.filter isMonetary) = doubleEntry events := by
  simp only [doubleEntry, List.filter_filter, Bool.and_self]

/-- The lines depend on the order of the events only in their own order. -/
theorem double_entry_perm {first second : List AcceptedEventRow} (same : first.Perm second) :
    (doubleEntry first).Perm (doubleEntry second) :=
  ((same.filter _).map _).append ((same.filter _).map _)

/-- The lines of a group of events are the lines of its members. -/
theorem double_entry_by {Key : Type} [DecidableEq Key] (lineKey : LedgerEntryRow → Key)
    (key : AcceptedEventRow → Key) (debits : ∀ row, lineKey (debit row) = key row)
    (credits : ∀ row, lineKey (credit row) = key row) (events : List AcceptedEventRow)
    (value : Key) : group lineKey value (doubleEntry events) =
      doubleEntry (group key value events) := by
  have monetary : group key value (events.filter isMonetary) =
      (group key value events).filter isMonetary := by
    rw [group, group, List.filter_filter, List.filter_filter]
    exact List.filter_congr fun row _ => Bool.and_comm ..
  rw [doubleEntry, doubleEntry, group, List.filter_append, List.filter_map, List.filter_map,
    ← monetary]
  simp only [Function.comp_def, debits, credits, group]

/-- The lines of one transaction are the lines of its events. -/
theorem double_entry_group (events : List AcceptedEventRow) (transactionId : Identifier) :
    group LedgerEntryRow.transactionId transactionId (doubleEntry events) =
      doubleEntry (group AcceptedEventRow.transactionId transactionId events) :=
  double_entry_by _ _ (fun _ => rfl) (fun _ => rfl) events transactionId

/-- The identifiers of the lines of events with distinct identifiers are distinct.

Proof: within the debits and within the credits the event identifiers differ, and between them the
positions do. -/
theorem double_entry_keyed {events : List AcceptedEventRow}
    (keyed : Keyed AcceptedEventRow.eventId events) :
    Keyed LedgerEntryRow.entryId (doubleEntry events) := by
  have monetary : Keyed AcceptedEventRow.eventId (events.filter isMonetary) :=
    keyed.sublist (List.filter_sublist.map _)
  have lines (line : AcceptedEventRow → LedgerEntryRow) (position : Nat)
      (named : ∀ row, (line row).entryId = entryId row.eventId position) :
      Keyed LedgerEntryRow.entryId ((events.filter isMonetary).map line) := by
    have ids : ((events.filter isMonetary).map line).map LedgerEntryRow.entryId =
        ((events.filter isMonetary).map AcceptedEventRow.eventId).map (entryId · position) := by
      rw [List.map_map, List.map_map]
      exact List.map_congr_left fun row _ => named row
    rw [Keyed, ids]
    exact monetary.map fun _ _ same => (entry_id_injective same).1
  have debits := lines debit 1 debit_id
  have credits := lines credit 2 credit_id
  rw [Keyed, doubleEntry, List.map_append]
  apply List.Nodup.append debits credits
  intro id debited credited
  obtain ⟨line, inside, rfl⟩ := List.mem_map.mp debited
  obtain ⟨other, insideToo, same⟩ := List.mem_map.mp credited
  obtain ⟨first, _, rfl⟩ := List.mem_map.mp inside
  obtain ⟨second, _, rfl⟩ := List.mem_map.mp insideToo
  rw [credit_id, debit_id] at same
  exact absurd (entry_id_injective same).2 (by decide)

end LedgerFlow.Spark
