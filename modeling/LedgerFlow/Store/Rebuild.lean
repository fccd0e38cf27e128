import LedgerFlow.Store.Transactions
import LedgerFlow.Projections

/-!
# What a rebuild does

On a database whose accepted events have distinct identifiers and storable numbers,
a rebuild succeeds exactly when every event of a valid history can be posted: its type
has a balanced rule, and the accounts and numbers of its lines can be bound. It then
replaces the projections by `projectAll` and empties the settlement tables.

No insertion of a rebuild violates a key. The rows of an event are new when it is
reached, because rows carry the identifiers of the events they were written for.
-/

namespace LedgerFlow

open PyText Grouping Programs

/-! ## Conditions -/

/-- The lines of the event can be built and bound. -/
def Postable (rules : PostingRules) (event : PaymentEvent) : Prop :=
  (∃ entries, rules.rules event.eventType = some entries ∧ multiplierSum entries = 0) ∧
    ∀ line ∈ postings rules event,
      Encodable line.account ∧ Int64 line.signedMinor ∧ Int64 line.postingRuleVersion

/-- Every valid history among the accepted events can be posted. -/
def AllPostable (rules : PostingRules) (accepted : List PaymentEvent) : Prop :=
  ∀ transactionId ∈ transactionIds accepted, verdict (history accepted transactionId) = none →
    ∀ event ∈ history accepted transactionId, Postable rules event

/-- The numbers of the event fit in their columns. -/
def Storable (event : PaymentEvent) : Prop :=
  Int64 event.transactionVersion ∧ Int64 event.amountMinor

/-- Append rows to the projection tables. -/
def Database.append (database : Database) (rows : Projection) : Database :=
  { database with
    tables := { database.tables with
      businessException := database.tables.businessException ++ rows.exceptions
      postedEvent := database.tables.postedEvent ++ rows.posted
      ledgerEntry := database.tables.ledgerEntry ++ rows.ledger
      paymentState := database.tables.paymentState ++ rows.states } }

/-- The projection tables replaced and the settlement tables emptied. -/
def Tables.projected (tables : Tables) (rows : Projection) : Tables :=
  { tables with
    businessException := rows.exceptions
    postedEvent := rows.posted
    ledgerEntry := rows.ledger
    paymentState := rows.states
    settlementActual := []
    settlementException := [] }

/-- Two sets of rows, one after the other. -/
def Projection.append (first second : Projection) : Projection :=
  ⟨first.exceptions ++ second.exceptions, first.posted ++ second.posted,
    first.ledger ++ second.ledger, first.states ++ second.states⟩

/-- Appending nothing changes nothing. -/
@[simp] theorem append_empty (database : Database) :
    database.append ⟨[], [], [], []⟩ = database := by
  simp only [Database.append, List.append_nil]

/-- Appending projected rows leaves the accepted events as they are. -/
@[simp] theorem append_events (database : Database) (rows : Projection) :
    (database.append rows).tables.events = database.tables.events := rfl

/-- Appending twice is appending both at once. -/
theorem append_append (database : Database) (first second : Projection) :
    (database.append first).append second = database.append (first.append second) := by
  simp only [Database.append, Projection.append, List.append_assoc]

/-- No row of the projection tables was written for the event. -/
def FreshEvent (tables : Tables) (event : PaymentEvent) : Prop :=
  (∀ row ∈ tables.businessException, row.eventId ≠ event.eventId) ∧
    (∀ row ∈ tables.postedEvent, row.eventId ≠ event.eventId) ∧
    ∀ row ∈ tables.ledgerEntry, ∀ position, row.entryId ≠ entryId event.eventId position

/-- The event is accepted. -/
def Known (tables : Tables) (event : PaymentEvent) : Prop :=
  event.eventId ∈ tables.events.map PaymentEvent.eventId

section Inserting

variable {database after : Database} {rules : PostingRules}

/-! ## Exception rows -/

/-- The exception rows of new events are appended in their order. Their keys are new, as the
events are different and none has a row yet. -/
theorem insert_exceptions_ok {reason : Violation} {events : List PaymentEvent}
    (keyed : Keyed PaymentEvent.eventId events)
    (known : ∀ event ∈ events, Known database.tables event)
    (fresh : ∀ event ∈ events,
      ∀ row ∈ database.tables.businessException, row.eventId ≠ event.eventId) :
    within (insertExceptions reason events).run database =
      .ok ((), database.append ⟨events.map (exceptionRow reason), [], [], []⟩) := by
  induction events generalizing database with
  | nil =>
    rw [List.map_nil, append_empty]
    rfl
  | cons event rest inductionHypothesis =>
    obtain ⟨other, distinct⟩ := List.nodup_cons.mp
      (keyed : (event.eventId :: rest.map PaymentEvent.eventId).Nodup)
    have inserted : (Statement.insertBusinessException (exceptionRow reason event)).run database =
        .ok (database.append ⟨[exceptionRow reason event], [], [], []⟩) := by
      refine constrained_ok.mpr ⟨?_, known event List.mem_cons_self, by simp [Database.append]⟩
      rintro member
      obtain ⟨row, inside, same⟩ := List.mem_map.mp member
      exact fresh event List.mem_cons_self row inside same
    refine within_bind_ok.mpr ⟨(), _, within_execute_ok.mpr inserted, ?_⟩
    rw [inductionHypothesis distinct]
    · rw [append_append]
      rfl
    · exact fun later member => known later (List.mem_cons_of_mem event member)
    · intro later member row inside same
      rcases List.mem_append.mp inside with old | new
      · exact fresh later (List.mem_cons_of_mem event member) row old same
      · rw [List.mem_singleton.mp new] at same
        exact other (List.mem_map.mpr ⟨later, member, same.symm⟩)

/-! ## Postings -/

/-- The lines of a posted event are appended exactly when they can be bound. -/
theorem insert_lines_ok {event : PaymentEvent} {version : Int} {position : Nat}
    {entries : List (Str × Int)}
    (posted : event.eventId ∈ database.tables.postedEvent.map PostedRow.eventId)
    (fresh : ∀ row ∈ database.tables.ledgerEntry, ∀ number, position ≤ number →
      row.entryId ≠ entryId event.eventId number) :
    within (insertLines (numberedLines event version position entries)).run database =
        .ok ((), after) ↔
      (∀ line ∈ numberedLines event version position entries,
        Encodable line.account ∧ Int64 line.signedMinor ∧ Int64 line.postingRuleVersion) ∧
      after = database.append ⟨[], [], numberedLines event version position entries, []⟩ := by
  induction entries generalizing database position with
  | nil =>
    rw [numberedLines, insertLines, within_pure, append_empty]
    simp [eq_comm]
  | cons entry rest inductionHypothesis =>
    rw [numberedLines]
    let line := postingLine event version position entry
    have named : line.entryId = entryId event.eventId position := rfl
    have absent : line.entryId ∉ database.tables.ledgerEntry.map PostingLine.entryId := by
      intro member
      obtain ⟨row, inside, same⟩ := List.mem_map.mp member
      exact fresh row inside position le_rfl (same.trans named)
    have inserted {next : Database} : (Statement.insertLedgerEntry line).run database = .ok next ↔
        (Encodable line.account ∧ Int64 line.signedMinor ∧ Int64 line.postingRuleVersion) ∧
          next = database.append ⟨[], [], [line], []⟩ := by
      have reference : line.eventId ∈ database.tables.postedEvent.map PostedRow.eventId := posted
      simp only [Statement.run, bind_ok, bind_text_ok, bind_integer_ok, constrained_ok,
        exists_const, absent, reference, not_false_eq_true, true_and, and_assoc, Database.append,
        List.append_nil]
    have later {next : Database} (same : next = database.append ⟨[], [], [line], []⟩) :
        within (insertLines (numberedLines event version (position + 1) rest)).run next =
            .ok ((), after) ↔
          (∀ line ∈ numberedLines event version (position + 1) rest,
            Encodable line.account ∧ Int64 line.signedMinor ∧ Int64 line.postingRuleVersion) ∧
          after = next.append ⟨[], [], numberedLines event version (position + 1) rest, []⟩ := by
      subst same
      refine inductionHypothesis (by simpa [Database.append] using posted) ?_
      intro row inside number above same
      rcases List.mem_append.mp inside with old | new
      · exact fresh row old number (by omega) same
      · rw [List.mem_singleton.mp new, named] at same
        have positions := (entry_id_injective same).2
        omega
    rw [insertLines, within_bind_ok]
    simp only [within_execute_ok, List.forall_mem_cons]
    constructor
    · rintro ⟨_, next, first, others⟩
      obtain ⟨bound, same⟩ := inserted.mp first
      obtain ⟨rest, ended⟩ := (later same).mp others
      refine ⟨⟨bound, rest⟩, ?_⟩
      rw [ended, same, append_append]
      rfl
    · rintro ⟨⟨bound, rest⟩, ended⟩
      refine ⟨(), _, inserted.mpr ⟨bound, rfl⟩, (later rfl).mpr ⟨rest, ?_⟩⟩
      rw [ended, append_append]
      rfl

/-- The posted row of a new event with a storable amount is appended. -/
theorem insert_posted_event_ok {event : PaymentEvent} (known : Known database.tables event)
    (fresh : FreshEvent database.tables event) (storable : Storable event) :
    (Statement.insertPostedEvent (postedRow event)).run database =
      .ok (database.append ⟨[], [postedRow event], [], []⟩) := by
  have absent : event.eventId ∉ database.tables.postedEvent.map PostedRow.eventId := by
    intro member
    obtain ⟨row, inside, same⟩ := List.mem_map.mp member
    exact fresh.2.1 row inside same
  have bound : bindInteger (postedRow event).amountMinor = .ok () :=
    bind_integer_ok.mpr storable.2
  refine bind_ok.mpr ⟨(), bound, constrained_ok.mpr ⟨absent, known, ?_⟩⟩
  simp only [Database.append, List.append_nil]

/-- A new event with a storable amount is posted exactly when it is postable. -/
theorem post_event_ok {event : PaymentEvent} (known : Known database.tables event)
    (fresh : FreshEvent database.tables event) (storable : Storable event) :
    within (postEvent rules event).run database = .ok ((), after) ↔
      Postable rules event ∧
        after = database.append ⟨[], postedRows rules event, postings rules event, []⟩ := by
  have built : ∀ lines middle,
      within (raising (buildPostings event rules)).run database = .ok (lines, middle) ↔
        (∃ entries, rules.rules event.eventType = some entries ∧ multiplierSum entries = 0) ∧
          lines = postings rules event ∧ middle = database := by
    intro lines middle
    rw [within_raising_ok, build_postings_ok, and_assoc]
  have inserted : within (insertPosted event (postings rules event) >>= fun _ =>
      insertLines (postings rules event)).run database = .ok ((), after) ↔
      (∀ line ∈ postings rules event,
        Encodable line.account ∧ Int64 line.signedMinor ∧ Int64 line.postingRuleVersion) ∧
      after = database.append ⟨[], postedRows rules event, postings rules event, []⟩ := by
    rw [within_bind_ok]
    unfold insertPosted postedRows
    by_cases none : postings rules event = []
    · rw [if_pos none, if_pos none, none, append_empty]
      simp [insertLines, eq_comm]
    · rw [if_neg none, if_neg none]
      have row := insert_posted_event_ok known fresh storable
      have lines := @insert_lines_ok (database.append ⟨[], [postedRow event], [], []⟩) after event
        rules.version 1 ((rules.rules event.eventType).getD [])
        (List.mem_map.mpr ⟨postedRow event, by simp [Database.append], rfl⟩)
        (fun old inside number _ => fresh.2.2 old (by simpa [Database.append] using inside) number)
      have joined : (database.append ⟨[], [postedRow event], [], []⟩).append
          ⟨[], [], postings rules event, []⟩ =
          database.append ⟨[], [postedRow event], postings rules event, []⟩ := append_append ..
      constructor
      · rintro ⟨_, middle, first, rest⟩
        rw [within_execute_ok, row] at first
        cases first
        obtain ⟨bound, ended⟩ := lines.mp rest
        exact ⟨bound, ended.trans joined⟩
      · rintro ⟨bound, ended⟩
        exact ⟨(), _, within_execute_ok.mpr row, lines.mpr ⟨bound, ended.trans joined.symm⟩⟩
  rw [postEvent, within_bind_ok]
  constructor
  · rintro ⟨lines, middle, first, rest⟩
    obtain ⟨rule, rfl, rfl⟩ := (built lines middle).mp first
    obtain ⟨bound, ended⟩ := inserted.mp rest
    exact ⟨⟨rule, bound⟩, ended⟩
  · rintro ⟨⟨rule, bound⟩, ended⟩
    exact ⟨_, _, (built _ _).mpr ⟨rule, rfl, rfl⟩, inserted.mpr ⟨bound, ended⟩⟩

/-- Rows written for one event are not rows of another, so posting an event leaves the others
fresh. -/
theorem fresh_after_post {event other : PaymentEvent} (apart : other.eventId ≠ event.eventId)
    (fresh : FreshEvent database.tables other) :
    FreshEvent (database.append ⟨[], postedRows rules event, postings rules event, []⟩).tables
      other := by
  obtain ⟨exceptions, posted, ledger⟩ := fresh
  refine ⟨?_, ?_, ?_⟩
  · intro row inside
    exact exceptions row (by simpa [Database.append] using inside)
  · intro row inside same
    rcases List.mem_append.mp inside with old | new
    · exact posted row old same
    · unfold postedRows at new
      split at new
      · cases new
      · rw [List.mem_singleton.mp new] at same
        exact apart same.symm
  · intro row inside position same
    rcases List.mem_append.mp inside with old | new
    · exact ledger row old position same
    · obtain ⟨_, _, _, _, _, _, ⟨number, _, named⟩, _⟩ := numbered_line new
      rw [named] at same
      exact apart (entry_id_injective same).1.symm

/-- New events are posted exactly when all of them are postable. An event that is not ends the
program at its place, whatever was posted before it. -/
theorem post_events_ok {events : List PaymentEvent} (keyed : Keyed PaymentEvent.eventId events)
    (known : ∀ event ∈ events, Known database.tables event)
    (fresh : ∀ event ∈ events, FreshEvent database.tables event)
    (storable : ∀ event ∈ events, Storable event) :
    within (postEvents rules events).run database = .ok ((), after) ↔
      (∀ event ∈ events, Postable rules event) ∧
        after = database.append
          ⟨[], events.flatMap (postedRows rules), events.flatMap (postings rules), []⟩ := by
  induction events generalizing database with
  | nil =>
    rw [postEvents, within_pure, List.flatMap_nil, List.flatMap_nil, append_empty]
    simp [eq_comm]
  | cons event rest inductionHypothesis =>
    obtain ⟨other, distinct⟩ := List.nodup_cons.mp
      (keyed : (event.eventId :: rest.map PaymentEvent.eventId).Nodup)
    have here {next : Database} := @post_event_ok database next rules event
      (known event List.mem_cons_self) (fresh event List.mem_cons_self)
      (storable event List.mem_cons_self)
    have later : within (postEvents rules rest).run
        (database.append ⟨[], postedRows rules event, postings rules event, []⟩) =
          .ok ((), after) ↔
        (∀ event ∈ rest, Postable rules event) ∧
          after = database.append ⟨[], (event :: rest).flatMap (postedRows rules),
            (event :: rest).flatMap (postings rules), []⟩ := by
      rw [inductionHypothesis distinct, append_append]
      · rfl
      · exact fun next member => known next (List.mem_cons_of_mem event member)
      · refine fun next member =>
          fresh_after_post (fun same => ?_) (fresh next (List.mem_cons_of_mem event member))
        exact other (List.mem_map.mpr ⟨next, member, same⟩)
      · exact fun next member => storable next (List.mem_cons_of_mem event member)
    rw [postEvents, within_bind_ok, List.forall_mem_cons]
    constructor
    · rintro ⟨_, next, first, others⟩
      obtain ⟨postable, rfl⟩ := here.mp first
      obtain ⟨rest, ended⟩ := later.mp others
      exact ⟨⟨postable, rest⟩, ended⟩
    · rintro ⟨⟨postable, rest⟩, ended⟩
      exact ⟨(), _, here.mpr ⟨postable, rfl⟩, later.mpr ⟨rest, ended⟩⟩

/-! ## State rows -/

/-- The totals of a valid history of storable events are storable: captures are covered by the
single authorization, and reversals by the captures. -/
theorem totals_storable {events : List PaymentEvent} (valid : ValidHistory events)
    (storable : ∀ event ∈ events, Storable event) :
    Int64 (authorizedMinor events) ∧ Int64 (capturedMinor events) ∧
      Int64 (refundedMinor events) ∧ Int64 (chargebackMinor events) := by
  obtain ⟨authorization, only⟩ := List.length_eq_one_iff.mp valid.authorizations
  have inside : authorization ∈ events :=
    List.mem_of_mem_filter (only ▸ List.mem_singleton_self authorization :
      authorization ∈ ofType .authorization events)
  have bound := (storable authorization inside).2
  have authorized : authorizedMinor events = authorization.amountMinor := by
    simp [authorizedMinor, only, amount]
  have refunded : 0 ≤ refundedMinor events := amount_nonneg _
  have chargedBack : 0 ≤ chargebackMinor events := amount_nonneg _
  have covered := valid.covered
  have reversed := valid.reversalsCovered
  unfold Int64 at bound ⊢
  omega

/-- The state row of a valid history is appended where its transaction has none. -/
theorem insert_payment_state_ok {events : List PaymentEvent} {current : PaymentEvent}
    (last : events.getLast? = some current) (valid : ValidHistory events)
    (storable : ∀ event ∈ events, Storable event)
    (fresh : ∀ row ∈ database.tables.paymentState, row.transactionId ≠ current.transactionId) :
    (Statement.insertPaymentState (stateRow events current)).run database =
      .ok (database.append ⟨[], [], [], [stateRow events current]⟩) := by
  have absent : current.transactionId ∉
      database.tables.paymentState.map StateRow.transactionId := by
    intro member
    obtain ⟨row, inside, same⟩ := List.mem_map.mp member
    exact fresh row inside same
  have bound : bindIntegers [(stateRow events current).currentVersion,
      (stateRow events current).authorizedMinor, (stateRow events current).capturedMinor,
      (stateRow events current).refundedMinor, (stateRow events current).chargebackMinor] =
        .ok () := by
    obtain ⟨authorized, captured, refunded, chargedBack⟩ := totals_storable valid storable
    have version := (storable current (last_mem last)).1
    rw [bind_integers_ok]
    simp only [List.forall_mem_cons]
    exact ⟨version, authorized, captured, refunded, chargedBack, nofun⟩
  refine bind_ok.mpr ⟨(), bound, constrained_ok.mpr ⟨absent, trivial, ?_⟩⟩
  simp only [Database.append, List.append_nil]

/-! ## Transactions -/

/-- The rows of a new history are appended exactly when it is invalid or postable. -/
theorem project_transaction_ok {events : List PaymentEvent} {transactionId : Identifier}
    (keyed : Keyed PaymentEvent.eventId events)
    (owned : ∀ event ∈ events, event.transactionId = transactionId)
    (known : ∀ event ∈ events, Known database.tables event)
    (fresh : ∀ event ∈ events, FreshEvent database.tables event)
    (storable : ∀ event ∈ events, Storable event)
    (stateless : ∀ row ∈ database.tables.paymentState, row.transactionId ≠ transactionId) :
    within (projectTransaction rules events).run database = .ok ((), after) ↔
      (verdict events = none → ∀ event ∈ events, Postable rules event) ∧
        after = database.append (projection rules events) := by
  unfold projectTransaction projection
  cases last : events.getLast? with
  | none =>
    rw [List.getLast?_eq_none_iff.mp last]
    simp [eq_comm]
  | some current =>
    cases tested : verdict events with
    | some reason =>
      simp only [reduceCtorEq, false_implies, true_and]
      rw [insert_exceptions_ok keyed known fun event member => (fresh event member).1]
      simp [eq_comm]
    | none =>
      have state := @insert_payment_state_ok (database.append ⟨[],
        events.flatMap (postedRows rules), events.flatMap (postings rules), []⟩) events current last
        (verdict_none.mp tested) storable (by
          rw [owned current (last_mem last)]
          simpa [Database.append] using stateless)
      rw [append_append] at state
      simp only [within_bind_ok, within_execute_ok]
      constructor
      · rintro ⟨_, middle, posted, inserted⟩
        obtain ⟨postable, rfl⟩ := (post_events_ok keyed known fresh storable).mp posted
        rw [state] at inserted
        cases inserted
        refine ⟨fun _ => postable, ?_⟩
        simp only [Projection.append, List.append_nil, List.nil_append]
      · rintro ⟨postable, rfl⟩
        refine ⟨(), _, (post_events_ok keyed known fresh storable).mpr ⟨postable trivial, rfl⟩, ?_⟩
        rw [state]
        simp only [Projection.append, List.append_nil, List.nil_append]

/-- The rows of several histories, one after the other. -/
def projectMany (rules : PostingRules) (accepted : List PaymentEvent) (ids : List Identifier) :
    Projection :=
  ⟨ids.flatMap fun id => (projection rules (history accepted id)).exceptions,
    ids.flatMap fun id => (projection rules (history accepted id)).posted,
    ids.flatMap fun id => (projection rules (history accepted id)).ledger,
    ids.flatMap fun id => (projection rules (history accepted id)).states⟩

/-- Projecting all transactions one by one is the projection of everything, which the pure
definition states without the database. -/
theorem project_many_all (rules : PostingRules) (accepted : List PaymentEvent) :
    projectMany rules accepted (transactionIds accepted) = projectAll rules accepted := by
  simp only [projectMany, ← project_all_exceptions, ← project_all_posted, ← project_all_ledger,
    ← project_all_states]

/-- The rows of one transaction are not rows of an event of another. -/
theorem fresh_after_projection {accepted : List PaymentEvent} {transactionId : Identifier}
    {event : PaymentEvent} (keyed : Keyed PaymentEvent.eventId accepted)
    (member : event ∈ accepted) (apart : event.transactionId ≠ transactionId)
    (fresh : FreshEvent database.tables event) :
    FreshEvent (database.append (projection rules (history accepted transactionId))).tables
      event := by
  have foreign {other : PaymentEvent} (inside : other ∈ history accepted transactionId) :
      other.eventId ≠ event.eventId := by
    intro same
    have equal := keyed.unique (mem_history.mp inside).1 member same
    exact apart (equal ▸ (mem_history.mp inside).2)
  obtain ⟨exceptions, posted, ledger⟩ := fresh
  refine ⟨?_, ?_, ?_⟩
  · intro row inside
    rcases List.mem_append.mp inside with old | new
    · exact exceptions row old
    · obtain ⟨_, _, other, here, rfl⟩ := projection_exceptions.mp new
      exact foreign here
  · intro row inside
    rcases List.mem_append.mp inside with old | new
    · exact posted row old
    · obtain ⟨_, other, here, _, rfl⟩ := projection_posted.mp new
      exact foreign here
  · intro row inside position same
    rcases List.mem_append.mp inside with old | new
    · exact ledger row old position same
    · obtain ⟨_, other, here, line⟩ := projection_ledger.mp new
      obtain ⟨_, _, _, _, _, _, ⟨number, _, named⟩, _⟩ := numbered_line line
      rw [named] at same
      exact foreign here (entry_id_injective same).1

/-- The rows of new transactions are appended exactly when their valid histories can
be posted.

The induction is on the transactions still to come. Their events stay new, because a
history writes rows for its own events only. -/
theorem project_transactions_ok {ids : List Identifier} (unique : ids.Nodup)
    (keyed : Keyed PaymentEvent.eventId database.tables.events)
    (storable : ∀ event ∈ database.tables.events, Storable event)
    (fresh : ∀ event ∈ database.tables.events, event.transactionId ∈ ids →
      FreshEvent database.tables event)
    (stateless : ∀ row ∈ database.tables.paymentState, row.transactionId ∉ ids) :
    within (projectTransactions rules ids).run database = .ok ((), after) ↔
      (∀ id ∈ ids, verdict (history database.tables.events id) = none →
        ∀ event ∈ history database.tables.events id, Postable rules event) ∧
        after = database.append (projectMany rules database.tables.events ids) := by
  induction ids generalizing database with
  | nil =>
    have none : projectMany rules database.tables.events [] = ⟨[], [], [], []⟩ := rfl
    rw [none, append_empty]
    simp [projectTransactions, eq_comm]
  | cons id rest inductionHypothesis =>
    obtain ⟨other, distinct⟩ := List.nodup_cons.mp unique
    let events := history database.tables.events id
    have accepted {event : PaymentEvent} (member : event ∈ events) :
        event ∈ database.tables.events ∧ event.transactionId = id := mem_history.mp member
    have here {next : Database} := @project_transaction_ok database next rules events id
      (history_keyed keyed id) (fun event member => (accepted member).2)
      (fun event member => List.mem_map_of_mem (accepted member).1)
      (fun event member => fresh event (accepted member).1
        ((accepted member).2 ▸ List.mem_cons_self))
      (fun event member => storable event (accepted member).1)
      (fun row inside same => stateless row inside (same ▸ List.mem_cons_self))
    have later : within (projectTransactions rules rest).run
        (database.append (projection rules events)) = .ok ((), after) ↔
        (∀ id ∈ rest, verdict (history database.tables.events id) = none →
          ∀ event ∈ history database.tables.events id, Postable rules event) ∧
          after = database.append (projectMany rules database.tables.events (id :: rest)) := by
      rw [inductionHypothesis distinct, append_append]
      · rfl
      · exact keyed
      · exact storable
      · intro event member inside
        have apart : event.transactionId ≠ id := fun same => other (same ▸ inside)
        exact fresh_after_projection keyed member apart
          (fresh event member (List.mem_cons_of_mem id inside))
      · intro row inside member
        rcases List.mem_append.mp inside with old | new
        · exact stateless row old (List.mem_cons_of_mem id member)
        · obtain ⟨_, current, last, rfl⟩ := projection_states.mp new
          exact other ((accepted (last_mem last)).2 ▸ member)
    have fetched : within (projectTransactions rules (id :: rest)).run database =
        within (projectTransaction rules events >>= fun _ =>
          projectTransactions rules rest).run database := rfl
    rw [fetched, within_bind_ok, List.forall_mem_cons]
    constructor
    · rintro ⟨_, next, first, others⟩
      obtain ⟨postable, rfl⟩ := here.mp first
      obtain ⟨rest, ended⟩ := later.mp others
      exact ⟨⟨postable, rest⟩, ended⟩
    · rintro ⟨⟨postable, rest⟩, ended⟩
      exact ⟨(), _, here.mpr ⟨postable, rfl⟩, later.mpr ⟨rest, ended⟩⟩

/-! ## Rebuilds -/

/-- Clearing the projections succeeds, and empties the four tables; no table refers to them. -/
theorem clear_ok : within clearProjections.run database = .ok ((),
    { database with tables := database.tables.projected ⟨[], [], [], []⟩ }) := rfl

/-- A rebuild succeeds exactly when every valid history can be posted; it then
replaces the projections. -/
theorem rebuild_ok (keyed : Keyed PaymentEvent.eventId database.tables.events)
    (storable : ∀ event ∈ database.tables.events, Storable event) :
    within (rebuildProjections rules).run database = .ok ((), after) ↔
      AllPostable rules database.tables.events ∧
        after = { database with
          tables := database.tables.projected (projectAll rules database.tables.events) } := by
  let cleared : Database :=
    { database with tables := database.tables.projected ⟨[], [], [], []⟩ }
  have projected := @project_transactions_ok cleared after rules
    (transactionIds database.tables.events) (transaction_ids_nodup _) keyed storable
    (fun event _ _ => ⟨fun _ none => absurd none List.not_mem_nil,
      fun _ none => absurd none List.not_mem_nil, fun _ none => absurd none List.not_mem_nil⟩)
    (fun _ none => absurd none List.not_mem_nil)
  have ended : cleared.append (projectMany rules database.tables.events
      (transactionIds database.tables.events)) = { database with
        tables := database.tables.projected (projectAll rules database.tables.events) } := by
    rw [project_many_all]
    rfl
  have events : cleared.tables.events = database.tables.events := rfl
  rw [events, ended] at projected
  have fetched : within (rebuildProjections rules).run database =
      within (projectTransactions rules (transactionIds database.tables.events)).run cleared := by
    rw [rebuildProjections, within_bind, clear_ok]
    rfl
  rw [fetched]
  exact projected

end Inserting

end LedgerFlow
