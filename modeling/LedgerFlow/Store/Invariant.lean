import LedgerFlow.Store.Completion

/-!
# The invariant of reachable stores

Whatever calls were made on a store, its identity tables are identified, and its
projection tables are the rebuild of its accepted events under the posting rules of
the last run that committed its data. Grouped back by transaction and event, that
rebuild gives every transaction either the rows of a valid one or those of an invalid
one, and no other rows.
-/

namespace LedgerFlow

open PyText PyJson Grouping Programs Programs.Program

/-! ## Completed runs -/

/-- The projection tables. -/
def Tables.projection (tables : Tables) : Projection :=
  ⟨tables.businessException, tables.postedEvent, tables.ledgerEntry, tables.paymentState⟩

/-- A run whose meaning is a database has completed, and left its completion. -/
theorem ran_completes {gate : Gate} {call : ProcessCall} {database after : Database}
    (identified : Identified database.tables) (referenced : Referenced database)
    (admitted : Admitted database call) :
    Ran gate call database after ↔ Completes gate call database.tables ∧
      after = completion gate call (journaled database call) := by
  obtain ⟨encodable, _, fresh⟩ := admitted
  refine @transaction_body_ok gate call (journaled database call) after encodable ?_ identified ?_
  · simp [journaled, startedRow]
  · intro row member sameRun
    exact fresh (sameRun ▸ referenced row member)

/-- A completion keeps the identity tables identified, adds the admitted events and
rebuilds the projections. -/
theorem completion_tables {gate : Gate} {call : ProcessCall} {database : Database}
    (identified : Identified database.tables)
    (gateable : Gateable gate database.tables.seenIds call.records) :
    let after := (completion gate call database).tables
    Identified after ∧
      after.events =
        database.tables.events ++ admitted gate database.tables.seenIds call.records ∧
      after.projection = projectAll call.postingRules after.events := by
  have ⟨kept, _, events⟩ := @gate_run_spec gate call.runId call.records [] database identified
    gateable
  exact ⟨⟨kept.sameIds, kept.keyed, kept.storable, kept.payloads⟩, events, rfl⟩

/-! ## Reachable stores -/

/-- The projection tables are a rebuild under the rules of the last data commit. -/
def Projected (tables : Tables) : Option PostingRules → Prop
  | none => tables.events = [] ∧ tables.projection = ⟨[], [], [], []⟩
  | some rules => AllPostable rules tables.events ∧
      tables.projection = projectAll rules tables.events

/-- The invariant. -/
structure Consistent (database : Database) (rules : Option PostingRules) : Prop where
  identified : Identified database.tables
  projected : Projected database.tables rules

/-- The empty database is consistent, as there is nothing to project. -/
theorem empty_consistent : Consistent emptyDatabase none where
  identified := ⟨rfl, List.nodup_nil, fun _ none => absurd none List.not_mem_nil,
    fun _ none => absurd none List.not_mem_nil⟩
  projected := ⟨rfl, rfl⟩

/-- A completed run keeps the invariant, under its own rules: it rebuilds all projections, also
those of events that earlier runs accepted under other rules. -/
theorem completion_consistent {gate : Gate} {call : ProcessCall} {database : Database}
    {rules : Option PostingRules} (consistent : Consistent database rules)
    (completes : Completes gate call database.tables) :
    Consistent (completion gate call (journaled database call)) (some call.postingRules) := by
  have ⟨kept, events, projected⟩ :=
    @completion_tables gate call (journaled database call) consistent.identified completes.gateable
  refine ⟨kept, ?_, projected⟩
  rw [events]
  exact completes.postable

/-- The settlement tables are not part of the invariant, so a reconciliation keeps it. -/
theorem Consistent.core {before after : Database} {rules : Option PostingRules}
    (consistent : Consistent before rules) (same : after.core = before.core) :
    Consistent after rules := by
  have accepted : after.tables.acceptedEvent = before.tables.acceptedEvent :=
    congrArg (fun database => database.tables.acceptedEvent) same
  have seen : after.tables.seenEvent = before.tables.seenEvent :=
    congrArg (fun database => database.tables.seenEvent) same
  have projection : after.tables.projection = before.tables.projection :=
    congrArg (fun database => database.tables.projection) same
  have events : after.tables.events = before.tables.events :=
    congrArg (List.map AcceptedRow.event) accepted
  have ids : after.tables.seenIds = before.tables.seenIds := congrArg (List.map SeenRow.eventId) seen
  obtain ⟨⟨sameIds, keyed, storable, payloads⟩, projected⟩ := consistent
  refine ⟨⟨?_, ?_, ?_, ?_⟩, ?_⟩
  · rw [ids, events]
    exact sameIds
  · rw [events]
    exact keyed
  · rw [events]
    exact storable
  · rw [accepted]
    exact payloads
  · cases rules <;> simpa only [Projected, events, projection] using projected

/-- Every reachable store satisfies the invariant.

Proof: by induction on the history of calls. A call of `process` that is abandoned or fails leaves
the tables of before, or those of its completed run; a reconciliation leaves everything but the
settlement tables. -/
theorem reachable_consistent {database : Database} {rules : Option PostingRules}
    (reachable : Reachable database rules) : Consistent database rules := by
  induction reachable with
  | empty => exact empty_consistent
  | @process database rules after _ gate call earlier run inductionHypothesis =>
    have completed {ended : Database} (admitted : Admitted database call)
        (ran : Ran gate call database ended) : Consistent ended (some call.postingRules) := by
      obtain ⟨completes, rfl⟩ := (ran_completes inductionHypothesis.identified
        (reachable_referenced earlier) admitted).mp ran
      exact completion_consistent inductionHypothesis completes
    have phase := process_phase run
    generalize after.durable = ended at phase
    generalize after.commits = points at phase
    cases phase with
    | untouched => exact inductionHypothesis
    | started => exact ⟨inductionHypothesis.identified, inductionHypothesis.projected⟩
    | failed => exact ⟨inductionHypothesis.identified, inductionHypothesis.projected⟩
    | committed admitted ran => exact completed admitted ran
    | succeeded admitted ran =>
      have holds := completed admitted ran
      exact ⟨holds.identified, holds.projected⟩
  | reconcile actual _ run inductionHypothesis =>
    exact inductionHypothesis.core (reconcile_core run)

/-! ## The rows of each transaction -/

/-- The rows of a valid transaction: one state row, which names its highest version, no
exception row, and for each of its events exactly the posted row and the lines that the
rules give. -/
structure ValidRows (rules : PostingRules) (tables : Tables) (transactionId : Identifier) : Prop where
  state : ∃ row current, group StateRow.transactionId transactionId tables.paymentState = [row] ∧
    current ∈ tables.events ∧ current.transactionId = transactionId ∧
    row.currentEventId = current.eventId ∧ row.currentVersion = current.transactionVersion ∧
    ∀ event ∈ tables.events, event.transactionId = transactionId → event ≠ current →
      event.transactionVersion < current.transactionVersion
  unexcepted : group ExceptionRow.transactionId transactionId tables.businessException = []
  posted : ∀ event ∈ tables.events, event.transactionId = transactionId →
    ∃ lines, buildPostings event rules = .ok lines ∧
      group PostingLine.eventId event.eventId tables.ledgerEntry = lines ∧
      group PostedRow.eventId event.eventId tables.postedEvent =
        if lines = [] then [] else [postedRow event]

/-- The rows of an invalid transaction: an exception row for each of its events, with
one reason, and nothing else. -/
structure InvalidRows (tables : Tables) (transactionId : Identifier) : Prop where
  excepted : ∃ reason, ∀ event ∈ tables.events, event.transactionId = transactionId →
    group ExceptionRow.eventId event.eventId tables.businessException =
      [exceptionRow reason event]
  stateless : group StateRow.transactionId transactionId tables.paymentState = []
  unposted : group PostedRow.transactionId transactionId tables.postedEvent = []
  unlined : group PostingLine.transactionId transactionId tables.ledgerEntry = []

/-- Every projection row is about an accepted event and its transaction. -/
structure Sourced (tables : Tables) : Prop where
  exceptions : ∀ row ∈ tables.businessException, ∃ event ∈ tables.events,
    row.eventId = event.eventId ∧ row.transactionId = event.transactionId
  posted : ∀ row ∈ tables.postedEvent, ∃ event ∈ tables.events,
    row.eventId = event.eventId ∧ row.transactionId = event.transactionId
  ledger : ∀ row ∈ tables.ledgerEntry, ∃ event ∈ tables.events,
    row.eventId = event.eventId ∧ row.transactionId = event.transactionId
  states : ∀ row ∈ tables.paymentState, ∃ event ∈ tables.events,
    row.currentEventId = event.eventId ∧ row.transactionId = event.transactionId

/-- The rows of one event within its valid history are its own postings and its own posted row,
since the rows of the other events carry other identifiers. -/
theorem valid_event_rows {rules : PostingRules} {events : List PaymentEvent} {event : PaymentEvent}
    (keyed : Keyed PaymentEvent.eventId events) (valid : verdict events = none)
    (member : event ∈ events) :
    group PostingLine.eventId event.eventId (projection rules events).ledger =
        postings rules event ∧
      group PostedRow.eventId event.eventId (projection rules events).posted =
        postedRows rules event := by
  obtain ⟨current, last⟩ := last_exists (List.ne_nil_of_mem member)
  rw [projection_valid last valid]
  constructor
  · refine group_flat_map PaymentEvent.eventId _ keyed (fun item _ line inside => ?_) member
    exact (numbered_line inside).1
  · refine group_flat_map PaymentEvent.eventId _ keyed (fun item _ row inside => ?_) member
    unfold postedRows at inside
    split at inside
    · cases inside
    · rw [List.mem_singleton.mp inside]
      rfl

section Rows

variable {rules : PostingRules} {tables : Tables} {transactionId : Identifier}

/-- The rows of a transaction in a rebuild are the rows of its history. -/
theorem projected_group (projected : tables.projection = projectAll rules tables.events)
    (listed : transactionId ∈ transactionIds tables.events) :
    group ExceptionRow.transactionId transactionId tables.businessException =
        (projection rules (history tables.events transactionId)).exceptions ∧
      group PostedRow.transactionId transactionId tables.postedEvent =
        (projection rules (history tables.events transactionId)).posted ∧
      group PostingLine.transactionId transactionId tables.ledgerEntry =
        (projection rules (history tables.events transactionId)).ledger ∧
      group StateRow.transactionId transactionId tables.paymentState =
        (projection rules (history tables.events transactionId)).states := by
  have rows := @project_all_group rules tables.events transactionId listed
  rw [← projected] at rows
  exact rows

/-- Every row of a rebuild is about an accepted event: no projection outlives its event. -/
theorem projected_sourced (projected : tables.projection = projectAll rules tables.events) :
    Sourced tables := by
  have ⟨exceptions, posted, ledger, states⟩ :=
    @project_all_sources rules tables.events
  rw [← projected] at exceptions posted ledger states
  exact ⟨exceptions, posted, ledger, states⟩

/-- A transaction with a valid history has the rows of a valid one. -/
theorem valid_rows (keyed : Keyed PaymentEvent.eventId tables.events)
    (postable : AllPostable rules tables.events)
    (projected : tables.projection = projectAll rules tables.events)
    (listed : transactionId ∈ transactionIds tables.events)
    (valid : verdict (history tables.events transactionId) = none) :
    ValidRows rules tables transactionId := by
  have ⟨exceptions, posted, ledger, states⟩ := projected_group projected listed
  have sourced := projected_sourced projected
  obtain ⟨current, last⟩ := last_exists (history_nonempty listed)
  have rows := @projection_valid rules _ current last valid
  have isCurrent := mem_history.mp (last_mem last)
  refine ⟨⟨_, current, states.trans (congrArg Projection.states rows), isCurrent.1, isCurrent.2,
    rfl, rfl, ?_⟩, exceptions.trans (congrArg Projection.exceptions rows), ?_⟩
  · intro event member same other
    exact last_highest (verdict_none.mp valid) last (mem_history.mpr ⟨member, same⟩) other
  · intro event member same
    have inside := mem_history.mpr ⟨member, same⟩
    have ⟨lines, row⟩ := @valid_event_rows rules (history tables.events transactionId) event
      (history_keyed keyed transactionId) valid inside
    refine ⟨postings rules event, build_postings_ok.mpr
      ⟨(postable transactionId listed valid event inside).1, rfl⟩, ?_, ?_⟩
    · rw [← group_event keyed member sourced.ledger, same, ledger]
      exact lines
    · rw [← group_event keyed member sourced.posted, same, posted]
      exact row

/-- A transaction with an invalid history has the rows of an invalid one. -/
theorem invalid_rows (keyed : Keyed PaymentEvent.eventId tables.events)
    (projected : tables.projection = projectAll rules tables.events)
    (listed : transactionId ∈ transactionIds tables.events) {reason : Violation}
    (invalid : verdict (history tables.events transactionId) = some reason) :
    InvalidRows tables transactionId := by
  have ⟨exceptions, posted, ledger, states⟩ := projected_group projected listed
  have sourced := projected_sourced projected
  have rows := @projection_invalid rules _ reason (history_nonempty listed) invalid
  refine ⟨⟨reason, ?_⟩, states.trans (congrArg Projection.states rows),
    posted.trans (congrArg Projection.posted rows), ledger.trans (congrArg Projection.ledger rows)⟩
  intro event member same
  have inside := mem_history.mpr ⟨member, same⟩
  rw [← group_event keyed member sourced.exceptions, same, exceptions, rows]
  rw [List.map_eq_flatMap]
  apply group_flat_map PaymentEvent.eventId _ (history_keyed keyed transactionId) _ inside
  intro item _ row here
  rw [List.mem_singleton.mp here]
  rfl

/-- The two kinds of rows exclude each other: a valid transaction has a state row, an invalid one
has none. -/
theorem valid_not_invalid (valid : ValidRows rules tables transactionId)
    (invalid : InvalidRows tables transactionId) : False := by
  obtain ⟨row, _, present, _⟩ := valid.state
  rw [invalid.stateless] at present
  cases present

end Rows

/-- Transactions are projected as a whole. In every reachable store each transaction
with an accepted event has either the rows of a valid transaction, under the rules of
the last run that committed its data, or those of an invalid one, and not both. No
projection row is about anything else, and the seen events are the accepted ones. -/
theorem transactions_projected_whole {database : Database} {rules : Option PostingRules}
    (reachable : Reachable database rules) :
    (∀ transactionId ∈ transactionIds database.tables.events, ∃ last, rules = some last ∧
        Xor (ValidRows last database.tables transactionId)
          (InvalidRows database.tables transactionId)) ∧
      Sourced database.tables ∧
      database.tables.seenIds = database.tables.events.map PaymentEvent.eventId := by
  obtain ⟨identified, projected⟩ := reachable_consistent reachable
  cases rules with
  | none =>
    obtain ⟨none, empty⟩ := projected
    refine ⟨?_, ?_, identified.sameIds⟩
    · intro transactionId listed
      rw [none] at listed
      cases listed
    · have ⟨exceptions, posted, ledger, states⟩ := Projection.mk.inj empty
      constructor
      · exact exceptions ▸ fun _ none => absurd none List.not_mem_nil
      · exact posted ▸ fun _ none => absurd none List.not_mem_nil
      · exact ledger ▸ fun _ none => absurd none List.not_mem_nil
      · exact states ▸ fun _ none => absurd none List.not_mem_nil
  | some last =>
    obtain ⟨postable, rows⟩ := projected
    refine ⟨fun transactionId listed => ⟨last, rfl, ?_⟩, projected_sourced rows, identified.sameIds⟩
    cases judged : verdict (history database.tables.events transactionId) with
    | none =>
      have valid := valid_rows identified.keyed postable rows listed judged
      exact .inl ⟨valid, valid_not_invalid valid⟩
    | some reason =>
      have invalid := invalid_rows identified.keyed rows listed judged
      exact .inr ⟨invalid, fun valid => valid_not_invalid valid invalid⟩

/-- The sample payment, captured before its authorization arrived, is projected whole. -/
theorem transactions_projected_whole_sample :
    ∃ last, some shippedRules = some last ∧
      Xor (ValidRows last sampleDatabase.tables ⟨str "txn-1", by decide⟩)
        (InvalidRows sampleDatabase.tables ⟨str "txn-1", by decide⟩) :=
  (transactions_projected_whole sample_reachable).1 _ (by decide +kernel)

end LedgerFlow
