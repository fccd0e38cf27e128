import LedgerFlow.Store.Rebuild
import LedgerFlow.Spark.Pipeline

/-!
# The identity of ledger entries

The identifier of a line is the identifier of its event, a colon and the position of the
line. Positions are decimal, so they hold no colon: the last colon of the text separates
the two, whatever colons and digits the event identifier has of its own.

A rebuild starts from an empty ledger and reaches each event once. The rows it has written
are named after the events that came before, so no insertion meets its own identifier. A
warehouse names every row after the row's own event; a merge that finds an identifier
taken has found a line of the same event.
-/

namespace LedgerFlow

open PyText PyDateTime Grouping Programs

/-! ## Positions -/

/-- The identifiers of an event's lines count up from the first position, one for each entry of
the rule. -/
theorem numbered_entry {event : PaymentEvent} {version : Int} {position index : Nat}
    {entries : List (Str × Int)} {line : PostingLine}
    (stands : (numberedLines event version position entries)[index]? = some line) :
    line.entryId = entryId event.eventId (position + index) := by
  induction entries generalizing position index with
  | nil => simp [numberedLines] at stands
  | cons entry rest inductionHypothesis =>
    rw [numberedLines] at stands
    cases index with
    | zero =>
      cases stands
      rfl
    | succ index =>
      rw [inductionHypothesis stands]
      exact congrArg (entryId event.eventId) (by omega)

/-- The line at an index is named after its event and its position. -/
theorem built_entry {event : PaymentEvent} {rules : PostingRules} {lines : List PostingLine}
    {index : Nat} {line : PostingLine} (built : buildPostings event rules = .ok lines)
    (stands : lines[index]? = some line) : line.entryId = entryId event.eventId (1 + index) := by
  obtain ⟨_, rfl⟩ := build_postings_ok.mp built
  exact numbered_entry stands

/-! ## Insertions of a rebuild -/

/-- What an insertion raises when `ledger_entry` has its identifier already. -/
def entryTaken : PyError := .integrity (str "UNIQUE constraint failed: ledger_entry.entry_id")

/-- The identifiers of the lines of an event. -/
def EntryOf (id : Identifier) (name : Str) : Prop := ∃ position, name = entryId id position

/-- The program keeps the accepted events, adds ledger rows under these names only, and
meets no name twice. -/
structure Lays {α : Type} (names : Str → Prop) (database : Database) (program : Sql α) :
    Prop where
  adds : ∀ result after, within program.run database = .ok (result, after) →
    after.tables.events = database.tables.events ∧
      ∀ row ∈ after.tables.ledgerEntry, row ∈ database.tables.ledgerEntry ∨ names row.entryId
  raises : ∀ error, within program.run database = .error error → error ≠ entryTaken

/-- The ledger has no row under these names. -/
def Free (names : Str → Prop) (database : Database) : Prop :=
  ∀ row ∈ database.tables.ledgerEntry, ¬ names row.entryId

section Laying

variable {α β : Type} {database after : Database} {names some : Str → Prop}

/-- A program that only returns lays nothing, under any names. -/
theorem Lays.pure {result : α} : Lays names database (pure result : Sql α) where
  adds _ _ same := by
    cases same
    exact ⟨rfl, fun _ member => .inl member⟩
  raises _ wrong := by cases wrong

/-- A pure computation lays nothing, and must not raise the error of a taken entry. -/
theorem Lays.raising {computed : Py α} (raises : ∀ error, computed = .error error →
    error ≠ entryTaken) : Lays names database (raising computed) := by
  cases computed with
  | ok result => exact Lays.pure
  | error error =>
    refine ⟨fun _ _ wrong => ?_, fun raised same => ?_⟩
    · cases wrong
    · cases same
      exact raises error rfl

/-- The second part starts where the first one ends, and each lays rows under some of the
names. -/
theorem Lays.bind {first : Sql α} {next : α → Sql β} (lays : Lays some database first)
    (wider : ∀ name, some name → names name)
    (rest : ∀ value after, within first.run database = .ok (value, after) →
      Lays names after (next value)) : Lays names database (first >>= next) where
  adds result after ran := by
    obtain ⟨value, middle, begun, ended⟩ := within_bind_ok.mp ran
    obtain ⟨events, rows⟩ := lays.adds _ _ begun
    obtain ⟨eventsLater, rowsLater⟩ := (rest value middle begun).adds _ _ ended
    refine ⟨eventsLater.trans events, fun row member => ?_⟩
    rcases rowsLater row member with old | new
    · exact (rows row old).imp_right (wider row.entryId)
    · exact .inr new
  raises error ran := by
    rw [within_bind] at ran
    rcases bind_raises.mp ran with early | ⟨⟨value, middle⟩, begun, late⟩
    · exact lays.raises error early
    · exact (rest value middle begun).raises error late

/-- A query fetches its rows and lays nothing, so the rest decides. -/
theorem Lays.select {query : Query} {rows : query.Rows} {next : query.Rows → Sql β}
    (fetched : query.run database = .ok rows) (rest : Lays names database (next rows)) :
    Lays names database (select query >>= next) := by
  have same : within (LedgerFlow.select query >>= next).run database =
      within (next rows).run database := by
    rw [within_bind, within_select, fetched]
    rfl
  exact ⟨fun result after ran => rest.adds result after (same ▸ ran),
    fun error ran => rest.raises error (same ▸ ran)⟩

/-- Rows added under fewer names are added under more, too. -/
theorem Lays.mono {program : Sql α} (lays : Lays some database program)
    (wider : ∀ name, some name → names name) : Lays names database program where
  adds result after ran := by
    obtain ⟨events, rows⟩ := lays.adds result after ran
    exact ⟨events, fun row member => (rows row member).imp_right (wider row.entryId)⟩
  raises := lays.raises

/-- Names stay free while rows are added under others. -/
theorem Lays.free {program : Sql α} {result : α} (lays : Lays some database program)
    (ran : within program.run database = .ok (result, after)) (free : Free names database)
    (apart : ∀ name, some name → ¬ names name) : Free names after := by
  intro row member
  rcases (lays.adds result after ran).2 row member with old | new
  · exact free row old
  · exact apart row.entryId new

/-- A statement that leaves the accepted events and the ledger alone lays nothing. -/
theorem Lays.execute {statement : Statement}
    (keeps : ∀ after, statement.run database = .ok after →
      after.tables.events = database.tables.events ∧
        after.tables.ledgerEntry = database.tables.ledgerEntry)
    (raises : ∀ error, statement.run database = .error error → error ≠ entryTaken) :
    Lays names database (execute statement) where
  adds result after ran := by
    obtain ⟨events, rows⟩ := keeps after (within_execute_ok.mp ran)
    exact ⟨events, fun row member => .inl (rows ▸ member)⟩
  raises error ran := by
    rw [within_execute] at ran
    cases result : statement.run database with
    | ok after =>
      rw [result] at ran
      cases ran
    | error raised =>
      rw [result] at ran
      cases ran
      exact raises error result

/-! ## Statements -/

/-- Binding a text to a parameter raises an encoding error at most, never the one of a taken
entry. -/
theorem bind_text_raises {value : Str} {error : PyError} (raised : bindText value = .error error) :
    error ≠ entryTaken := by
  obtain ⟨_, rfl⟩ := require_error.mp raised
  exact PyError.noConfusion

/-- Binding an integer raises an overflow at most. -/
theorem bind_integer_raises {value : Int} {error : PyError}
    (raised : bindInteger value = .error error) : error ≠ entryTaken := by
  obtain ⟨_, rfl⟩ := require_error.mp raised
  exact PyError.noConfusion

/-- Binding several integers raises an overflow at most. -/
theorem bind_integers_raises {values : List Int} {error : PyError}
    (raised : bindIntegers values = .error error) : error ≠ entryTaken := by
  induction values with
  | nil => cases raised
  | cons value rest inductionHypothesis =>
    rcases bind_raises.mp raised with here | ⟨_, _, later⟩
    · exact bind_integer_raises here
    · exact inductionHypothesis later

/-- An insertion raises `entryTaken` only for its own key columns, so only an insertion of a
ledger line can. -/
theorem constrained_raises {columns : Str} {unique references : Prop} [Decidable unique]
    [Decidable references] {inserted : Database} {error : PyError}
    (absent : columns = str "ledger_entry.entry_id" → unique)
    (raised : constrained columns unique references inserted = .error error) :
    error ≠ entryTaken := by
  rcases bind_raises.mp raised with taken | ⟨_, _, later⟩
  · obtain ⟨repeated, rfl⟩ := require_error.mp taken
    intro same
    have spelled : str "UNIQUE constraint failed: " ++ columns =
        str "UNIQUE constraint failed: " ++ str "ledger_entry.entry_id" :=
      PyError.integrity.inj same
    exact repeated (absent (List.append_cancel_left spelled))
  · rcases bind_raises.mp later with foreign | ⟨_, _, wrong⟩
    · obtain ⟨_, rfl⟩ := require_error.mp foreign
      decide
    · cases wrong

/-- Inserting an exception row touches neither the ledger nor the accepted events. -/
theorem lays_exception (row : ExceptionRow) :
    Lays names database (execute (.insertBusinessException row)) := by
  refine Lays.execute (fun after ran => ?_) fun error ran => ?_
  · obtain ⟨_, _, rfl⟩ := constrained_ok.mp ran
    exact ⟨rfl, rfl⟩
  · exact constrained_raises (fun wrong => absurd wrong (by decide)) ran

/-- Inserting a posted row touches neither of them. -/
theorem lays_posted (row : PostedRow) :
    Lays names database (execute (.insertPostedEvent row)) := by
  refine Lays.execute (fun after ran => ?_) fun error ran => ?_
  · obtain ⟨_, _, inserted⟩ := bind_ok.mp ran
    obtain ⟨_, _, rfl⟩ := constrained_ok.mp inserted
    exact ⟨rfl, rfl⟩
  · rcases bind_raises.mp ran with unbound | ⟨_, _, later⟩
    · exact bind_integer_raises unbound
    · exact constrained_raises (fun wrong => absurd wrong (by decide)) later

/-- Inserting a state row touches neither of them. -/
theorem lays_state (row : StateRow) :
    Lays names database (execute (.insertPaymentState row)) := by
  refine Lays.execute (fun after ran => ?_) fun error ran => ?_
  · obtain ⟨_, _, inserted⟩ := bind_ok.mp ran
    obtain ⟨_, _, rfl⟩ := constrained_ok.mp inserted
    exact ⟨rfl, rfl⟩
  · rcases bind_raises.mp ran with unbound | ⟨_, _, later⟩
    · exact bind_integers_raises unbound
    · exact constrained_raises (fun wrong => absurd wrong (by decide)) later

/-- A line whose identifier is free is inserted or refused for another reason. -/
theorem lays_line {line : PostingLine} (free : Free (· = line.entryId) database) :
    Lays (· = line.entryId) database (execute (.insertLedgerEntry line)) where
  adds result after ran := by
    have ran := within_execute_ok.mp ran
    simp only [Statement.run, bind_ok, constrained_ok] at ran
    obtain ⟨_, _, _, _, _, _, _, _, rfl⟩ := ran
    refine ⟨rfl, fun row member => ?_⟩
    rcases List.mem_append.mp member with old | new
    · exact .inl old
    · exact .inr (congrArg PostingLine.entryId (List.mem_singleton.mp new))
  raises error ran := by
    rw [within_execute] at ran
    cases result : (Statement.insertLedgerEntry line).run database with
    | ok after =>
      rw [result] at ran
      cases ran
    | error raised =>
      rw [result] at ran
      cases ran
      rcases bind_raises.mp result with unbound | ⟨_, _, later⟩
      · exact bind_text_raises unbound
      rcases bind_raises.mp later with unbound | ⟨_, _, later⟩
      · exact bind_integer_raises unbound
      rcases bind_raises.mp later with unbound | ⟨_, _, later⟩
      · exact bind_integer_raises unbound
      refine constrained_raises (fun _ member => ?_) later
      obtain ⟨row, inside, same⟩ := List.mem_map.mp member
      exact free row inside same

/-! ## Programs -/

/-- Inserting the exceptions of a whole transaction touches neither of them. -/
theorem lays_exceptions (reason : Violation) (events : List PaymentEvent) :
    Lays names database (insertExceptions reason events) := by
  induction events generalizing database with
  | nil => exact Lays.pure
  | cons event rest inductionHypothesis =>
    exact (lays_exception _).bind (fun _ => id) fun _ _ _ => inductionHypothesis

/-- The lines of an event are laid when its names from their position on are free. -/
theorem lays_lines {event : PaymentEvent} {version : Int} {position : Nat}
    {entries : List (Str × Int)}
    (free : Free (fun name => ∃ n, position ≤ n ∧ name = entryId event.eventId n) database) :
    Lays (EntryOf event.eventId) database
      (insertLines (numberedLines event version position entries)) := by
  induction entries generalizing database position with
  | nil => exact Lays.pure
  | cons entry rest inductionHypothesis =>
    let line := postingLine event version position entry
    have named : line.entryId = entryId event.eventId position := rfl
    have first : Lays (· = line.entryId) database (execute (.insertLedgerEntry line)) :=
      lays_line fun row member same => free row member ⟨position, le_rfl, same.trans named⟩
    refine first.bind (fun name same => ⟨position, same.trans named⟩) fun _ after ran => ?_
    refine inductionHypothesis (first.free ran ?_ ?_)
    · rintro row member ⟨n, above, same⟩
      exact free row member ⟨n, by omega, same⟩
    · rintro name same ⟨n, above, later⟩
      have positions := (entry_id_injective (named.symm.trans (same.symm.trans later))).2
      omega

/-- Building postings raises errors of its own, about the rules. -/
theorem build_postings_raises {event : PaymentEvent} {rules : PostingRules} {error : PyError}
    (raised : buildPostings event rules = .error error) : error ≠ entryTaken := by
  unfold buildPostings at raised
  split at raised
  · cases raised
    exact PyError.noConfusion
  · rcases bind_raises.mp raised with unbalanced | ⟨_, _, wrong⟩
    · obtain ⟨_, rfl⟩ := require_error.mp unbalanced
      exact PyError.noConfusion
    · cases wrong

/-- An event is posted under its own names, which are free before: no line of it is refused for
its key. -/
theorem lays_event {rules : PostingRules} {event : PaymentEvent}
    (free : Free (EntryOf event.eventId) database) :
    Lays (EntryOf event.eventId) database (postEvent rules event) := by
  have nothing : Lays (fun _ => False) database (raising (buildPostings event rules)) :=
    Lays.raising fun error => build_postings_raises
  refine nothing.bind (fun _ => False.elim) fun lines after ran => ?_
  obtain ⟨built, rfl⟩ := within_raising_ok.mp ran
  obtain ⟨_, rfl⟩ := build_postings_ok.mp built
  have posted : Lays (fun _ => False) after (insertPosted event (postings rules event)) := by
    unfold insertPosted
    split
    · exact Lays.pure
    · exact lays_posted _
  refine posted.bind (fun _ => False.elim) fun _ middle ran => lays_lines ?_
  refine posted.free ran ?_ fun _ => False.elim
  rintro row member ⟨n, _, same⟩
  exact free row member ⟨n, same⟩

/-- The names of events are apart: a name determines its event, by the injectivity of entry
identifiers. -/
theorem entries_apart {first second : Identifier} {name : Str} (of : EntryOf first name)
    (too : EntryOf second name) : first = second := by
  obtain ⟨_, spelled⟩ := of
  obtain ⟨_, same⟩ := too
  exact (entry_id_injective (spelled.symm.trans same)).1

/-- Events with distinct identifiers are posted under their own names, one after another.

Proof: by induction on the events. Posting one takes none of the names of the others. -/
theorem lays_events {rules : PostingRules} {events : List PaymentEvent}
    (keyed : Keyed PaymentEvent.eventId events)
    (free : ∀ event ∈ events, Free (EntryOf event.eventId) database) :
    Lays (fun name => ∃ event ∈ events, EntryOf event.eventId name) database
      (postEvents rules events) := by
  induction events generalizing database with
  | nil => exact Lays.pure
  | cons event rest inductionHypothesis =>
    obtain ⟨other, distinct⟩ := List.nodup_cons.mp
      (keyed : (event.eventId :: rest.map PaymentEvent.eventId).Nodup)
    have first : Lays (EntryOf event.eventId) database (postEvent rules event) :=
      lays_event (free event List.mem_cons_self)
    refine first.bind (fun name of => ⟨event, List.mem_cons_self, of⟩) fun _ after ran => ?_
    have later := inductionHypothesis distinct fun next member =>
      first.free ran (free next (List.mem_cons_of_mem event member)) fun name of too =>
        other (List.mem_map.mpr ⟨next, member, entries_apart too of⟩)
    exact later.mono fun name => by
      rintro ⟨next, member, of⟩
      exact ⟨next, List.mem_cons_of_mem event member, of⟩

/-- A transaction is projected under the names of its events, or none if it is invalid. -/
theorem lays_transaction {rules : PostingRules} {events : List PaymentEvent}
    (keyed : Keyed PaymentEvent.eventId events)
    (free : ∀ event ∈ events, Free (EntryOf event.eventId) database) :
    Lays (fun name => ∃ event ∈ events, EntryOf event.eventId name) database
      (projectTransaction rules events) := by
  unfold projectTransaction
  split
  · exact Lays.pure
  · split
    · exact lays_exceptions _ _
    · exact (lays_events keyed free).bind (fun _ => id) fun _ _ _ => lays_state _

/-- Distinct transactions are projected under the names of their events, which are different
events. -/
theorem lays_transactions {rules : PostingRules} {ids : List Identifier} (unique : ids.Nodup)
    (keyed : Keyed PaymentEvent.eventId database.tables.events)
    (free : ∀ event ∈ database.tables.events, event.transactionId ∈ ids →
      Free (EntryOf event.eventId) database) :
    Lays (fun _ => True) database (projectTransactions rules ids) := by
  induction ids generalizing database with
  | nil => exact Lays.pure
  | cons id rest inductionHypothesis =>
    obtain ⟨other, distinct⟩ := List.nodup_cons.mp unique
    let events := history database.tables.events id
    have first : Lays (fun name => ∃ event ∈ events, EntryOf event.eventId name) database
        (projectTransaction rules events) :=
      lays_transaction (history_keyed keyed id) fun event member =>
        free event (mem_history.mp member).1
          ((mem_history.mp member).2 ▸ List.mem_cons_self)
    refine Lays.select rfl (first.bind (fun _ _ => trivial) fun _ after ran => ?_)
    have kept := (first.adds _ _ ran).1
    refine inductionHypothesis distinct (kept ▸ keyed) fun event member inside => ?_
    rw [kept] at member
    refine first.free ran (free event member (List.mem_cons_of_mem id inside)) ?_
    rintro name ⟨written, here, of⟩ too
    obtain ⟨accepted, same⟩ := mem_history.mp here
    have equal := keyed.unique accepted member (entries_apart of too)
    exact other (same ▸ equal ▸ inside)

/-- A rebuild meets no identifier of a ledger entry twice: it starts by clearing the ledger, and
the accepted events have distinct identifiers. -/
theorem lays_rebuild {rules : PostingRules}
    (keyed : Keyed PaymentEvent.eventId database.tables.events) :
    ∀ error, within (rebuildProjections rules).run database = .error error →
      error ≠ entryTaken := by
  intro error raised
  rw [rebuildProjections, within_bind, clear_ok] at raised
  have projected : Lays (fun _ => True)
      { database with tables := database.tables.projected ⟨[], [], [], []⟩ }
      (select .transactionIds >>= fun ids : List Identifier =>
        projectTransactions rules ids) :=
    Lays.select rfl (lays_transactions (transaction_ids_nodup _) keyed
      fun _ _ _ _ none => absurd none List.not_mem_nil)
  exact projected.raises error raised

end Laying

/-! ## Entries of a warehouse -/

namespace Spark

open Dataframe

/-- The warehouses that jobs leave behind, also one that fails or is abandoned between its
two merges. -/
inductive Left : Warehouse → Prop
  | empty : Left emptyWarehouse
  | ingest {warehouse : Warehouse} (objects : List PaymentEvent) (earlier : Left warehouse) :
      Left (ingestAcceptedEvents objects warehouse)
  | reconstruct {warehouse after : Warehouse} (touched : AcceptedEventRow → Bool)
      (earlier : Left warehouse) (completes : reconstructPaymentState touched warehouse = .ok after) :
      Left after
  | states {warehouse : Warehouse} {rows : List PaymentStateRow}
      (touched : AcceptedEventRow → Bool) (earlier : Left warehouse)
      (merges : mergeUpdate PaymentStateRow.transactionId warehouse.paymentState
        (reconstruct (affectedHistory touched warehouse.acceptedEvent)).1 = some rows) :
      Left { warehouse with paymentState := rows }
  | post {warehouse after : Warehouse} (touched : AcceptedEventRow → Bool)
      (earlier : Left warehouse) (completes : postLedger touched warehouse = .ok after) : Left after
  | posted {warehouse : Warehouse} (touched : AcceptedEventRow → Bool) (earlier : Left warehouse) :
      Left { warehouse with
        postedEvent := mergeInsert AcceptedEventRow.eventId warehouse.postedEvent
          (selectedEvents touched warehouse) }

/-- Every ledger row is named after its own event. -/
def OwnNames (rows : List LedgerEntryRow) : Prop := ∀ row ∈ rows, EntryOf row.eventId row.entryId

/-- The Spark job names each ledger row after its own event: both lines of an event carry its id
and a position. -/
theorem double_entry_named (events : List AcceptedEventRow) : OwnNames (doubleEntry events) := by
  intro line member
  obtain ⟨row, _, _, either, _, position, named⟩ := mem_double_entry member
  rcases either with rfl | rfl <;> exact ⟨position, named⟩

/-- The jobs name every ledger row after its own event, in every warehouse that they leave. -/
theorem left_named {warehouse : Warehouse} (left : Left warehouse) :
    OwnNames warehouse.ledgerEntry := by
  induction left with
  | empty => exact fun _ none => absurd none List.not_mem_nil
  | ingest objects _ inductionHypothesis => exact inductionHypothesis
  | reconstruct touched _ completes inductionHypothesis =>
    obtain ⟨_, _, _, _, rfl⟩ := reconstruct_merged completes
    exact inductionHypothesis
  | states touched _ _ inductionHypothesis => exact inductionHypothesis
  | post touched _ completes inductionHypothesis =>
    rw [post_ledger_eq] at completes
    cases completes
    intro line member
    rcases mem_merge_insert.mp member with old | ⟨new, _⟩
    · exact inductionHypothesis line old
    · exact double_entry_named _ line new
  | posted touched _ inductionHypothesis => exact inductionHypothesis

/-- A line that a merge does not insert stands in the ledger as a line of the same event. -/
theorem posted_or_held {warehouse : Warehouse} (named : OwnNames warehouse.ledgerEntry)
    {events : List AcceptedEventRow} {line : LedgerEntryRow}
    (incoming : line ∈ doubleEntry events) :
    line ∈ mergeInsert LedgerEntryRow.entryId warehouse.ledgerEntry (doubleEntry events) ∨
      ∃ held ∈ warehouse.ledgerEntry, held.entryId = line.entryId ∧
        held.eventId = line.eventId := by
  by_cases taken : line.entryId ∈ warehouse.ledgerEntry.map LedgerEntryRow.entryId
  · obtain ⟨held, member, same⟩ := List.mem_map.mp taken
    refine .inr ⟨held, member, same, ?_⟩
    exact entries_apart (named held member) (same ▸ double_entry_named events line incoming)
  · exact .inl (mem_merge_insert.mpr (.inr ⟨incoming, taken⟩))

/-- The lines of a monetary row are named as the two shipped lines of an event with its
identifier and type. -/
theorem line_among_postings {row : AcceptedEventRow} (monetary : isMonetary row = true)
    {line : LedgerEntryRow} (either : line = debit row ∨ line = credit row)
    {event : PaymentEvent} (sameId : event.eventId = row.eventId)
    (sameType : event.eventType = row.eventType) :
    line.entryId ∈ (postings shippedRules event).map PostingLine.entryId := by
  have two : (postings shippedRules event).map PostingLine.entryId =
      [entryId row.eventId 1, entryId row.eventId 2] := by
    have kinds := of_decide_eq_true monetary
    rw [postings, ← sameId]
    simp only [shippedRules, Option.getD_some, sameType]
    rcases kinds with kind | kind | kind
    all_goals
      rw [kind]
      rfl
  rw [two]
  rcases either with rfl | rfl
  · rw [debit_id]
    exact List.mem_cons_self
  · rw [credit_id]
    exact List.mem_cons_of_mem _ List.mem_cons_self

end Spark

/-! ## Injectivity, and what rests on it -/

/-- Equal identifiers of built lines name one event and one position, under whatever rules
the lines were built; the identifiers that the warehouse gives are among those that the
shipped rules give. So no rebuild meets the primary key of `ledger_entry`, and a merge of
lines leaves one out only where it finds a line of the same event. -/
theorem entry_identity_injective :
    (∀ (first second : PaymentEvent) (rules others : PostingRules)
        (lines rows : List PostingLine) (line row : PostingLine) (i j : Nat),
      buildPostings first rules = .ok lines → buildPostings second others = .ok rows →
      lines[i]? = some line → rows[j]? = some row → line.entryId = row.entryId →
        first.eventId = second.eventId ∧ i = j) ∧
    (∀ (events : List Spark.AcceptedEventRow) (lines : List Spark.LedgerEntryRow),
      Spark.postingLines events = .ok lines → ∀ line ∈ lines, ∃ row ∈ events,
        ∀ event : PaymentEvent, event.eventId = row.eventId → event.eventType = row.eventType →
          ∃ built, buildPostings event shippedRules = .ok built ∧
            line.entryId ∈ built.map PostingLine.entryId) ∧
    (∀ (rules : PostingRules) (database : Database),
      Keyed PaymentEvent.eventId database.tables.events →
        ∀ error, within (rebuildProjections rules).run database = .error error →
          error ≠ entryTaken) ∧
    (∀ warehouse, Spark.Left warehouse → ∀ touched, ∃ after,
      Spark.postLedger touched warehouse = .ok after ∧
        ∀ line ∈ Spark.doubleEntry (Spark.selectedEvents touched warehouse),
          line ∈ after.ledgerEntry ∨ ∃ held ∈ warehouse.ledgerEntry,
            held.entryId = line.entryId ∧ held.eventId = line.eventId) := by
  refine ⟨?_, ?_, fun rules database keyed => lays_rebuild keyed, ?_⟩
  · intro first second rules others lines rows line row i j built builtToo stands standsToo same
    rw [built_entry built stands, built_entry builtToo standsToo] at same
    obtain ⟨ids, positions⟩ := entry_id_injective same
    exact ⟨ids, by omega⟩
  · intro events lines posted line member
    rw [Spark.posting_lines_ok] at posted
    cases posted
    obtain ⟨row, inside, monetary, either, _⟩ := Spark.mem_double_entry member
    refine ⟨row, inside, fun event sameId sameType => ⟨postings shippedRules event, ?_,
      Spark.line_among_postings monetary either sameId sameType⟩⟩
    have balanced : multiplierSum (shippedLines event.eventType) = 0 := by
      cases event.eventType <;> rfl
    exact build_postings_ok.mpr ⟨⟨_, rfl, balanced⟩, rfl⟩
  · intro warehouse left touched
    exact ⟨_, Spark.post_ledger_eq, fun line incoming =>
      Spark.posted_or_held (Spark.left_named left) incoming⟩

/-- A capture with this identifier, as one version of the sample payment. -/
def identifiedCapture (eventId : Identifier) (version : {n : Int // 1 ≤ n}) :
    PaymentEvent :=
  Spark.sampleEvent eventId .capture version 600 (Spark.noon newYear.date newYear.yearRange)

/-- A capture. -/
def plainCapture : PaymentEvent := identifiedCapture ⟨str "pay", .refl true⟩ 2

/-- A capture whose identifier reads like the first entry of the other. -/
def colonCapture : PaymentEvent := identifiedCapture ⟨str "pay:1", .refl true⟩ 3

/-- The warehouse with both captures. -/
def capturedWarehouse : Spark.Warehouse :=
  Spark.ingestAcceptedEvents [plainCapture, colonCapture] Spark.emptyWarehouse

/-- The lines of the two captures differ in their names, and the ledger job posts them all. -/
theorem colon_captures_posted :
    (postings shippedRules plainCapture).map PostingLine.entryId =
        [str "pay:1", str "pay:2"] ∧
      (postings shippedRules colonCapture).map PostingLine.entryId =
        [str "pay:1:1", str "pay:1:2"] ∧
      (∀ line ∈ postings shippedRules plainCapture, ∀ row ∈ postings shippedRules colonCapture,
        line.entryId ≠ row.entryId) ∧
      ∃ after, Spark.postLedger (fun _ => true) capturedWarehouse = .ok after ∧
        ∀ line ∈ Spark.doubleEntry (Spark.selectedEvents (fun _ => true) capturedWarehouse),
          line ∈ after.ledgerEntry ∨ ∃ held ∈ ([] : List Spark.LedgerEntryRow),
            held.entryId = line.entryId ∧ held.eventId = line.eventId := by
  refine ⟨by decide, by decide, ?_,
    entry_identity_injective.2.2.2 _ (.ingest [plainCapture, colonCapture] .empty) _⟩
  have built : buildPostings plainCapture shippedRules = .ok (postings shippedRules plainCapture) ∧
      buildPostings colonCapture shippedRules = .ok (postings shippedRules colonCapture) := by
    decide
  have apart : plainCapture.eventId ≠ colonCapture.eventId := by decide
  intro line member row memberToo same
  obtain ⟨i, stands⟩ := List.getElem?_of_mem member
  obtain ⟨j, standsToo⟩ := List.getElem?_of_mem memberToo
  exact apart (entry_identity_injective.1 _ _ _ _ _ _ _ _ _ _ built.1 built.2 stands standsToo
    same).1

end LedgerFlow
