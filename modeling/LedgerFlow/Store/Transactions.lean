import LedgerFlow.Store.Process

/-!
# What the statements of one transaction do

Between its opening and its commit the data transaction makes only statements on
tables and queries, and gives up at the first error. `within` is the meaning of such a
program as a function on the database; it turns composition into composition.
`eval_within` connects it to the connection: a program that returns leaves exactly
that database uncommitted, and one that raises leaves the durable state alone.
-/

namespace LedgerFlow

open PyText PyJson Grouping Programs Programs.Program

/-! ## Statements on tables -/

/-- The statements that do not touch the journal. -/
def Statement.OnTables : Statement → Prop
  | .insertRunJournal .. | .failRun .. | .succeedRun .. => False
  | _ => True

/-- The calls made inside the data transaction. -/
def Inside : SqlCall → Prop
  | .execute statement => statement.OnTables
  | .select _ => True
  | _ => False

/-- An insertion keeps its constraints exactly when its key is new and what it refers to is there.
The order in which SQLite checks them shows in the error only. -/
theorem constrained_ok {columns : Str} {unique references : Prop} [Decidable unique]
    [Decidable references] {inserted result : Database} :
    constrained columns unique references inserted = .ok result ↔
      unique ∧ references ∧ result = inserted := by
  simp only [constrained, bind_ok, require_ok, exists_const, Except.ok.injEq]
  rw [eq_comm]

/-- A text is bound exactly when it can be encoded as UTF-8, that is, when it holds no lone
surrogate. -/
@[simp] theorem bind_text_ok {value : Str} {bound : Unit} :
    bindText value = .ok bound ↔ Encodable value := require_ok

/-- An integer is bound exactly when it fits in 64 signed bits. -/
@[simp] theorem bind_integer_ok {value : Int} {bound : Unit} :
    bindInteger value = .ok bound ↔ Int64 value := require_ok

/-- A row of integers is bound exactly when each of them is. -/
@[simp] theorem bind_integers_ok {values : List Int} {bound : Unit} :
    bindIntegers values = .ok bound ↔ ∀ value ∈ values, Int64 value := by
  induction values with
  | nil => simp [bindIntegers]
  | cons value rest inductionHypothesis =>
    simp only [bindIntegers, bind_ok, bind_integer_ok, exists_const, inductionHypothesis,
      List.forall_mem_cons]

/-- Statements on tables leave the journal alone. The journal is written by statements of its own,
which the data transaction does not use. -/
theorem statement_journal {statement : Statement} {before after : Database}
    (onTables : statement.OnTables) (ran : statement.run before = .ok after) :
    after.runJournal = before.runJournal := by
  cases statement <;> first
    | exact onTables.elim
    | (simp only [Statement.run, bind_ok, constrained_ok, Except.ok.injEq] at ran
       grind)

/-! ## The meaning of a transaction's statements -/

/-- The result and the database a program of statements and queries ends with. -/
def within {α : Type} :
    Program SqlCall (Answer PyError SqlCall.Rows) (Except PyError α) → Database → Py (α × Database)
  | .done (.ok result), database => .ok (result, database)
  | .done (.error error), _ => .error error
  | .call (.execute statement) resume, database =>
      match statement.run database with
      | .ok changed => within (resume (.ok ())) changed
      | .error error => .error error
  | .call (.select query) resume, database =>
      match query.run database with
      | .ok rows => within (resume (.ok rows)) database
      | .error error => .error error
  | .call _ _, _ => .error (.other (str "not a statement"))

section Meaning

variable {α β : Type} {database : Database}

/-- A computation without a statement leaves the database alone. -/
@[simp] theorem within_pure (result : α) :
    within (pure result : Sql α).run database = .ok (result, database) := rfl

/-- A program that has returned leaves the database alone. -/
@[simp] theorem within_done (result : α) :
    within (.done (.ok result)) database = .ok (result, database) := rfl

/-- A program that has raised is raised through: what it did to the transaction is lost with
it. -/
@[simp] theorem within_raised (error : PyError) :
    within (.done (.error error) : Program SqlCall (Answer PyError SqlCall.Rows) (Except PyError α))
      database = .error error := rfl

/-- Raising ends the program with its error, whatever would follow. -/
@[simp] theorem within_throw (error : PyError) :
    within (throw error : Sql α).run database = .error error := rfl

/-- Executing a statement is running it on the database. -/
theorem within_execute (statement : Statement) :
    within (execute statement).run database =
      (statement.run database).map fun changed => ((), changed) := by
  change within (.call (.execute statement) .done) database = _
  rw [within]
  cases statement.run database <;> rfl

/-- A query runs on the database and leaves it alone. -/
theorem within_select (query : Query) :
    within (select query).run database = (query.run database).map fun rows => (rows, database) := by
  change within (.call (.select query) .done) database = _
  rw [within]
  cases query.run database <;> rfl

/-- A pure computation that may raise does so without touching the database. -/
theorem within_raising (result : Py α) :
    within (raising result).run database = result.map fun value => (value, database) := by
  cases result <;> rfl

/-- Composition runs the second part on the database the first one ends with. -/
theorem within_bind (program : Sql α) (next : α → Sql β) :
    within (program >>= next).run database =
      within program.run database >>= fun ended => within (next ended.1).run ended.2 := by
  rw [Fallible.run_bind]
  generalize program.run = tree
  induction tree generalizing database with
  | done outcome => cases outcome <;> rfl
  | call request resume inductionHypothesis =>
    rw [call_bind]
    cases request with
    | execute statement =>
      rw [within, within]
      cases statement.run database with
      | ok changed => exact inductionHypothesis (.ok ())
      | error error => rfl
    | select query =>
      rw [within, within]
      cases query.run database with
      | ok rows => exact inductionHypothesis (.ok rows)
      | error error => rfl
    | connect | beginImmediate | commit | rollback | close => rfl

/-- A composition returns exactly when both parts do, the second on what the first has left. With
the lemmas on single calls this computes a whole transaction. -/
theorem within_bind_ok {program : Sql α} {next : α → Sql β} {result : β} {after : Database} :
    within (program >>= next).run database = .ok (result, after) ↔
      ∃ value middle, within program.run database = .ok (value, middle) ∧
        within (next value).run middle = .ok (result, after) := by
  rw [within_bind, bind_ok]
  simp only [Prod.exists]

/-- An execution ends exactly when its statement runs. -/
theorem within_execute_ok {statement : Statement} {result : Unit} {after : Database} :
    within (execute statement).run database = .ok (result, after) ↔
      statement.run database = .ok after := by
  rw [within_execute]
  cases statement.run database <;> simp [Except.map]

/-- A pure computation ends exactly when it returns, and then nothing has changed. -/
theorem within_raising_ok {computed : Py α} {result : α} {after : Database} :
    within (raising computed).run database = .ok (result, after) ↔
      computed = .ok result ∧ after = database := by
  rw [within_raising]
  cases computed <;> simp [Except.map, eq_comm]

/-- Evaluated in an open transaction, a strict program of statements and queries ends
with its meaning uncommitted, or raises its error. -/
theorem eval_within
    {program : Program SqlCall (Answer PyError SqlCall.Rows) (Except PyError α)}
    (strict : Strict Inside program) (store : Store) (opened : store.working = some database) :
    (∀ result after, within program database = .ok (result, after) →
      program.eval perform store = (.ok result, { store with working := some after })) ∧
    ∀ error, within program database = .error error →
      ∃ after, program.eval perform store = (.error error, { store with working := some after }) := by
  induction program generalizing store database with
  | done outcome =>
    cases outcome with
    | ok result =>
      refine ⟨fun value after same => ?_, fun _ same => by cases same⟩
      cases same
      rw [eval_done, ← opened]
    | error error =>
      refine ⟨fun _ _ same => (by cases same), fun raised same => ?_⟩
      cases same
      exact ⟨database, by rw [eval_done, ← opened]⟩
  | call request resume inductionHypothesis =>
    obtain ⟨inside, gives, rest⟩ := strict
    have seen : store.current = database := by rw [Store.current, opened]; rfl
    cases request with
    | execute statement =>
      simp only [within, eval_call, perform, seen]
      cases statement.run database with
      | ok changed => exact inductionHypothesis (.ok ()) (rest _) _ rfl
      | error error =>
        refine ⟨fun _ _ same => (by cases same), fun raised same => ?_⟩
        cases same
        exact ⟨database, by rw [gives error, eval_done]⟩
    | select query =>
      simp only [within, eval_call, perform, seen]
      cases query.run database with
      | ok rows => exact inductionHypothesis (.ok rows) (rest _) _ opened
      | error error =>
        refine ⟨fun _ _ same => (by cases same), fun raised same => ?_⟩
        cases same
        refine ⟨database, ?_⟩
        refine (congrArg (fun rest => rest.eval perform store) (gives error)).trans ?_
        rw [eval_done, ← opened]
    | connect | beginImmediate | commit | rollback | close => exact inside.elim

/-- A database property that every statement on tables keeps holds after the program. -/
theorem within_keeps {kept : Database → Prop}
    (keeps : ∀ statement before after, Statement.OnTables statement →
      statement.run before = .ok after → kept before → kept after)
    {program : Program SqlCall (Answer PyError SqlCall.Rows) (Except PyError α)}
    (calls : program.Calls Inside) {result : α} {after : Database}
    (ran : within program database = .ok (result, after)) (holds : kept database) :
    kept after := by
  induction program generalizing database with
  | done outcome =>
    cases outcome with
    | ok value =>
      cases ran
      exact holds
    | error error => cases ran
  | call request resume inductionHypothesis =>
    obtain ⟨inside, rest⟩ := calls
    cases request with
    | execute statement =>
      rw [within] at ran
      cases changed : statement.run database with
      | ok next =>
        rw [changed] at ran
        exact inductionHypothesis _ (rest _) ran (keeps statement _ _ inside changed holds)
      | error error =>
        rw [changed] at ran
        cases ran
    | select query =>
      rw [within] at ran
      cases fetched : query.run database with
      | ok rows =>
        rw [fetched] at ran
        exact inductionHypothesis _ (rest _) ran holds
      | error error =>
        rw [fetched] at ran
        cases ran
    | connect | beginImmediate | commit | rollback | close => exact inside.elim

end Meaning

/-! ## The data transaction is strict -/

/-- A statement on the tables is allowed inside a transaction, and its error ends the program. -/
theorem strict_execute {statement : Statement} (onTables : statement.OnTables) :
    Strict Inside (execute statement).run :=
  Strict.invoke onTables

/-- A query is allowed inside a transaction, and its error ends the program. -/
theorem strict_select (query : Query) : Strict Inside (select query).run :=
  Strict.invoke trivial

/-- A return makes no call, so there is nothing to allow. -/
theorem strict_pure {α : Type} (result : α) : Strict Inside (pure result : Sql α).run := trivial

/-- An error that the program raises itself ends it without a call. -/
theorem strict_throw {α : Type} (error : PyError) : Strict Inside (throw error : Sql α).run :=
  trivial

/-- A pure computation makes no call, whether it returns or raises. -/
theorem strict_raising {α : Type} (result : Py α) : Strict Inside (raising result).run := by
  cases result <;> trivial

/-- One record is classified by statements on the tables alone.

Proof: one case for each way the validation ends, and for a valid record one for each answer to
the query of its identity. -/
theorem strict_ingest_one (gate : Gate) (runId : Str) (raw : Fields) (counts : Counts) :
    Strict Inside (ingestOne gate runId raw counts).run := by
  unfold ingestOne
  split
  · exact (strict_raising _).bind fun _ =>
      Strict.bind (strict_execute trivial) fun _ => strict_pure _
  · exact strict_throw _
  · refine (strict_select _).bind fun stored => ?_
    split
    · split
      · exact strict_pure _
      · exact Strict.bind (strict_execute trivial) fun _ => strict_pure _
    · exact Strict.bind (strict_execute trivial) fun _ =>
        Strict.bind (strict_execute trivial) fun _ => strict_pure _

/-- Ingesting a batch is strict within the transaction, as ingesting one record is, and the error
that its reader raises ends it.

Proof: induction on the records. -/
theorem strict_ingest_all (gate : Gate) (runId : Str) (raises : Option PyError)
    (records : List Fields) (counts : Counts) :
    Strict Inside (ingestAll gate runId raises records counts).run := by
  induction records generalizing counts with
  | nil => cases raises <;> trivial
  | cons raw rest inductionHypothesis =>
    exact (strict_ingest_one gate runId raw _).bind fun next => inductionHypothesis next

/-- The exception rows of a history are inserted inside the transaction, by induction on its
events. -/
theorem strict_insert_exceptions (reason : Violation) (events : List PaymentEvent) :
    Strict Inside (insertExceptions reason events).run := by
  induction events with
  | nil => trivial
  | cons event rest inductionHypothesis =>
    exact Strict.bind (strict_execute trivial) fun _ => inductionHypothesis

/-- The lines of an event are inserted inside the transaction, by induction on the lines. -/
theorem strict_insert_lines (lines : List PostingLine) :
    Strict Inside (insertLines lines).run := by
  induction lines with
  | nil => trivial
  | cons line rest inductionHypothesis =>
    exact Strict.bind (strict_execute trivial) fun _ => inductionHypothesis

/-- Posting an event inserts its lines and its row inside the transaction; a rule that is missing
or unbalanced raises before any of them. -/
theorem strict_post_event (rules : PostingRules) (event : PaymentEvent) :
    Strict Inside (postEvent rules event).run := by
  refine (strict_raising _).bind fun lines => ?_
  refine Strict.bind ?_ fun _ => strict_insert_lines lines
  unfold insertPosted
  split
  · exact strict_pure _
  · exact strict_execute trivial

/-- Posting a history stays inside the transaction, by induction on its events. -/
theorem strict_post_events (rules : PostingRules) (events : List PaymentEvent) :
    Strict Inside (postEvents rules events).run := by
  induction events with
  | nil => trivial
  | cons event rest inductionHypothesis =>
    exact (strict_post_event rules event).bind fun _ => inductionHypothesis

/-- A transaction is projected inside the transaction, whether its history is valid or not. -/
theorem strict_project_transaction (rules : PostingRules) (events : List PaymentEvent) :
    Strict Inside (projectTransaction rules events).run := by
  unfold projectTransaction
  split
  · exact strict_pure _
  · split
    · exact strict_insert_exceptions _ _
    · exact (strict_post_events rules events).bind fun _ => strict_execute trivial

/-- Projecting all transactions stays inside the transaction, by induction on their
identifiers. -/
theorem strict_project_transactions (rules : PostingRules) (ids : List Identifier) :
    Strict Inside (projectTransactions rules ids).run := by
  induction ids with
  | nil => trivial
  | cons transactionId rest inductionHypothesis =>
    exact (strict_select _).bind fun events =>
      (strict_project_transaction rules events).bind fun _ => inductionHypothesis

/-- The four deletions, the query of the events and their projection stay inside the
transaction. -/
theorem strict_rebuild (rules : PostingRules) : Strict Inside (rebuildProjections rules).run := by
  have cleared : Strict Inside clearProjections.run :=
    Strict.bind (strict_execute trivial) fun _ => Strict.bind (strict_execute trivial) fun _ =>
      Strict.bind (strict_execute trivial) fun _ => Strict.bind (strict_execute trivial) fun _ =>
        Strict.bind (strict_execute trivial) fun _ => strict_execute trivial
  exact cleared.bind fun _ => (strict_select _).bind fun ids =>
    strict_project_transactions rules ids

/-- The counts of a run are inserted inside the transaction, by induction on the counts. -/
theorem strict_insert_outcomes (runId : Str) (counts : Counts) :
    Strict Inside (insertOutcomes runId counts).run := by
  induction counts with
  | nil => trivial
  | cons entry rest inductionHypothesis =>
    exact Strict.bind (strict_execute trivial) fun _ => inductionHypothesis

/-- A failpoint raises or does nothing; it makes no call. -/
theorem strict_fail_at (failpoint : Option Str) (name : Str) :
    Strict Inside (failAt failpoint name).run := by
  unfold failAt
  split <;> trivial

/-- The body of the data transaction is strict: its three parts are, and so are the failpoints
between them. -/
theorem strict_transaction_body (gate : Gate) (call : ProcessCall) :
    Strict Inside (transactionBody gate call).run :=
  (strict_ingest_all ..).bind fun _ => (strict_fail_at ..).bind fun _ =>
    (strict_rebuild _).bind fun _ => (strict_fail_at ..).bind fun _ => strict_insert_outcomes ..

end LedgerFlow
