import LedgerFlow.Store.Connections

/-!
# Runs are atomic

A call of `process` may be abandoned between any two statements, and every statement
may report an error. Whatever happens, the durable state and the commits made are in
one of five phases: untouched, started, failed, committed or succeeded. In the first
three the tables are those before the call; in the last two they are what the data
transaction's meaning makes of them, which is what an undisturbed call leaves.

`Reachable` closes the calls of a store under abandonment and errors. It remembers
the posting rules of the last data commit.
-/

namespace LedgerFlow

open PyText PyJson Grouping Programs Programs.Program

/-! ## Reachable stores -/

/-- A new connection to a database file. -/
def Database.opened (database : Database) : Store := ⟨database, none, []⟩

/-- The databases that any sequence of calls leaves, each call abandoned at any point
or run to its end, with any errors on the way, and the rules of the last data commit. -/
inductive Reachable : Database → Option PostingRules → Prop
  | empty : Reachable emptyDatabase none
  | process {database : Database} {rules : Option PostingRules} {after : Store}
      {rest : Program SqlCall (Answer PyError SqlCall.Rows) (Except PyError Summary)}
      (gate : Gate) (call : ProcessCall) (earlier : Reachable database rules)
      (run : Runs storeEffect (database.opened, (process gate call).run) (after, rest)) :
      Reachable after.durable
        (if .data ∈ after.commits then some call.postingRules else rules)
  | reconcile {database : Database} {rules : Option PostingRules} {after : Store}
      {rest : Program SqlCall (Answer PyError SqlCall.Rows) (Except PyError Reconciliation)}
      (actual : List (Py SettlementRow)) (earlier : Reachable database rules)
      (run : Runs storeEffect (database.opened, (reconcileSettlement actual).run) (after, rest)) :
      Reachable after.durable rules

/-! ## Phases of a run -/

/-- The journal row of a run that has started. -/
def startedRow (call : ProcessCall) : JournalRow :=
  ⟨call.runId, call.inputSha256, .started, call.startedAt, none, none⟩

/-- The database once the run is journaled. -/
def journaled (database : Database) (call : ProcessCall) : Database :=
  { database with runJournal := database.runJournal ++ [startedRow call] }

/-- The journal row of a run that has failed. -/
def failedRow (call : ProcessCall) (reason : Str) (row : JournalRow) : JournalRow :=
  { row with status := .failed, completedAt := some call.finishedAt, failureReason := some reason }

/-- The journal row of a run that has succeeded. -/
def succeededRow (call : ProcessCall) (row : JournalRow) : JournalRow :=
  { row with status := .succeeded, completedAt := some call.finishedAt }

/-- The journal accepts the run: its identifier is new and its texts can be bound. -/
def Admitted (database : Database) (call : ProcessCall) : Prop :=
  Encodable call.runId ∧ Encodable call.inputSha256 ∧
    call.runId ∉ database.runJournal.map JournalRow.runId

/-- The data transaction's meaning leaves this database. -/
def Ran (gate : Gate) (call : ProcessCall) (database after : Database) : Prop :=
  within (transactionBody gate call).run (journaled database call) = .ok ((), after)

/-- The durable state and the commits at any moment of a call. -/
inductive Phase (gate : Gate) (call : ProcessCall) (database : Database) :
    Database → List CommitPoint → Prop
  | untouched : Phase gate call database database []
  | started (admitted : Admitted database call) :
      Phase gate call database (journaled database call) [.started]
  | failed (admitted : Admitted database call) (reason : Str) :
      Phase gate call database
        (updateRun call.runId (failedRow call reason) (journaled database call))
        [.failed, .started]
  | committed {after : Database} (admitted : Admitted database call)
      (ran : Ran gate call database after) : Phase gate call database after [.data, .started]
  | succeeded {after : Database} (admitted : Admitted database call)
      (ran : Ran gate call database after) :
      Phase gate call database (updateRun call.runId (succeededRow call) after)
        [.succeeded, .data, .started]

/-- The store is in some phase of the call. -/
def InPhase (gate : Gate) (call : ProcessCall) (database : Database) (store : Store) : Prop :=
  Phase gate call database store.durable store.commits

/-- This durable state and these commits. -/
def At (database : Database) (commits : List CommitPoint) (store : Store) : Prop :=
  store.durable = database ∧ store.commits = commits

/-- To stand at a durable state and its commits is an assertion about these only, so that a fault
does not change it. -/
theorem durable_at (database : Database) (commits : List CommitPoint) :
    Durable (At database commits) :=
  fun _ _ durable points holds => ⟨durable.trans holds.1, points.trans holds.2⟩

section Run

variable {gate : Gate} {call : ProcessCall} {database : Database}

/-- The phase of a call is read off the durable state and the commits. -/
theorem durable_phase : Durable (InPhase gate call database) := by
  intro before after durable points holds
  unfold InPhase
  rw [durable, points]
  exact holds

/-- Statements and queries are quiet: they change the working copy at most. -/
theorem inside_quiet {request : SqlCall} (inside : Inside request) : Quiet request := by
  cases request <;> trivial

/-- The second store has the durable state and the commits of the first. -/
def SameDurable (before after : Store) : Prop :=
  after.durable = before.durable ∧ after.commits = before.commits

/-- To have the same durable state is transitive, as a relation of environments must be. -/
theorem same_durable_trans (first second third : Store) (left : SameDurable first second)
    (right : SameDurable second third) : SameDurable first third :=
  ⟨right.1.trans left.1, right.2.trans left.2⟩

/-- The journal row is inserted exactly where the call is admitted: its values can be bound and
its run id is new. -/
theorem journal_row_ok {before after : Database} :
    (Statement.insertRunJournal call.runId call.inputSha256 call.startedAt).run before = .ok after ↔
      Admitted before call ∧ after = journaled before call := by
  simp only [Statement.run, bind_ok, bind_text_ok, constrained_ok, exists_const, true_and,
    Admitted, and_assoc]
  rfl

/-- The data transaction either commits its meaning or leaves the journaled state, wherever it is
interrupted.

Proof: the body is strict, so that it is its pure meaning up to the commit, or fails and is rolled
back. Only the commit touches the durable state, and it is one call. -/
theorem meets_data_transaction (admitted : Admitted database call) :
    (dataTransaction gate call).run.Meets storeEffect alone
      (fun _ after => InPhase gate call database after)
      (fun store => store = ⟨journaled database call, none, [.started]⟩)
      (Fallible.Ends
        (fun _ store => ∃ after, Ran gate call database after ∧
          store = ⟨after, none, [.data, .started]⟩)
        (At (journaled database call) [.started])) := by
  have reads := durable_at (journaled database call) [.started]
  have weaker : ∀ store, At (journaled database call) [.started] store →
      InPhase gate call database store := by
    rintro ⟨durable, working, commits⟩ ⟨rfl, rfl⟩
    exact .started admitted
  let opened : Store :=
    ⟨journaled database call, some (journaled database call), [.started]⟩
  refine Fallible.meets_bind (fun _ store => store = opened) ?_ fun _ => ?_
  · refine meets_call .beginImmediate trivial reads ?_ weaker ?_
    · rintro _ rfl
      exact ⟨rfl, rfl⟩
    · rintro _ _ rfl _
      rfl
  · refine Fallible.meets_bind (fun _ store => ∃ after, Ran gate call database after ∧
      store = { opened with working := some after }) ?_ fun _ => ?_
    · have follows := Strict.follows (transactionBody gate call).run
        (strict_transaction_body gate call) opened
        ((transactionBody gate call).run.eval perform opened) same_durable_trans
        (fun request store inside => perform_quiet (inside_quiet inside) store)
        (fun before after (moved : fault before after) => ⟨moved.1, moved.2.1⟩)
        (fun before after (kept : SameDurable opened before) moved =>
          weaker after (same_durable_trans _ _ _ kept moved))
      refine follows.weaken ?_ ?_
      · rintro _ rfl
        exact ⟨⟨rfl, rfl⟩, rfl⟩
      · intro outcome store holds
        cases outcome with
        | error error => exact holds.1
        | ok result =>
          have ended := holds.2 result rfl
          have ⟨returns, raises⟩ :=
            eval_within (strict_transaction_body gate call) opened rfl
          cases ran : within (transactionBody gate call).run (journaled database call) with
          | ok meaning =>
            rw [returns meaning.1 meaning.2 ran] at ended
            obtain ⟨_, rfl⟩ := Prod.mk.inj ended
            exact ⟨meaning.2, ran, rfl⟩
          | error error =>
            obtain ⟨_, raised⟩ := raises error ran
            rw [raised] at ended
            cases ended
    · refine meets_commit reads ?_ weaker ?_ ?_
      · rintro _ ⟨after, _, rfl⟩
        exact ⟨rfl, rfl⟩
      · rintro _ ⟨after, ran, rfl⟩
        exact ⟨after, rfl, after, ran, rfl⟩
      · rintro _ ⟨after, ran, rfl⟩
        exact .committed admitted ran

/-- Recording a failure leaves the run failed or started: the update of the journal is committed
or is not, and either way the tables are those of before. The error is passed on. -/
theorem meets_record_failure (admitted : Admitted database call) (error : PyError)
    {good : Unit → Store → Prop} :
    (recordFailure call error).run.Meets storeEffect alone
      (fun _ after => InPhase gate call database after)
      (At (journaled database call) [.started])
      (Fallible.Ends good (InPhase gate call database)) := by
  have reads := durable_at (journaled database call) [.started]
  have same : ∀ store, At (journaled database call) [.started] store →
      At (journaled database call) [.started] store := fun _ holds => holds
  have weaker : ∀ store, At (journaled database call) [.started] store →
      InPhase gate call database store := by
    rintro ⟨durable, working, commits⟩ ⟨rfl, rfl⟩
    exact .started admitted
  let rolledBack : Store := ⟨journaled database call, none, [.started]⟩
  let failed := updateRun call.runId (failedRow call error.text) (journaled database call)
  have widen {program : Sql Unit} {pre good : Store → Prop}
      (meets : program.run.Meets storeEffect alone
        (fun _ after => InPhase gate call database after) pre
        (Fallible.Ends (fun _ => good) (At (journaled database call) [.started]))) :
      program.run.Meets storeEffect alone (fun _ after => InPhase gate call database after) pre
        (Fallible.Ends (fun _ => good) (InPhase gate call database)) := by
    refine meets.weaken (fun _ holds => holds) fun outcome store holds => ?_
    cases outcome with
    | ok _ => exact holds
    | error _ => exact weaker store holds
  refine Fallible.meets_bind (fun _ store => store = rolledBack) (widen ?_) fun _ => ?_
  · refine meets_call .rollback trivial reads same weaker ?_
    rintro ⟨durable, working, commits⟩ _ ⟨rfl, rfl⟩ _
    rfl
  · refine Fallible.meets_bind (fun _ store => store = { rolledBack with working := some failed })
      (widen ?_) fun _ => ?_
    · refine meets_execute reads ?_ weaker ?_
      · rintro _ rfl
        exact ⟨rfl, rfl⟩
      · rintro _ changed rfl ran
        simp only [Statement.run, bind_ok, bind_text_ok, exists_const, Except.ok.injEq] at ran
        obtain ⟨_, _, rfl⟩ := ran
        rfl
    · refine Fallible.meets_bind (fun _ store => store = ⟨failed, none, [.failed, .started]⟩)
        (widen ?_) fun _ => ?_
      · refine meets_commit reads ?_ weaker ?_ ?_
        · rintro _ rfl
          exact ⟨rfl, rfl⟩
        · rintro _ rfl
          exact ⟨failed, rfl, rfl⟩
        · rintro _ rfl
          exact .failed admitted error.text
      · refine Fallible.meets_throw ?_
        rintro _ rfl
        exact .failed admitted error.text

/-- The body of a call stays within its phases: the journal row, the data transaction, and then
either the success or the failure in the journal. -/
theorem meets_run_process :
    (runProcess gate call).run.Meets storeEffect alone
      (fun _ after => InPhase gate call database after)
      (fun store => store = database.opened)
      (Fallible.Ends (fun _ => InPhase gate call database) (InPhase gate call database)) := by
  have same : ∀ store, InPhase gate call database store → InPhase gate call database store :=
    fun _ holds => holds
  refine Fallible.meets_bind (fun _ store => Admitted database call ∧
    store = ⟨database, some (journaled database call), []⟩) ?_ fun _ => ?_
  · refine meets_execute durable_phase ?_ same ?_
    · rintro _ rfl
      exact .untouched
    · rintro _ changed rfl ran
      obtain ⟨admitted, rfl⟩ := journal_row_ok.mp ran
      exact ⟨admitted, rfl⟩
  refine Fallible.meets_bind (fun _ store => Admitted database call ∧
    store = ⟨journaled database call, none, [.started]⟩) ?_ fun _ => ?_
  · refine meets_commit durable_phase ?_ same ?_ ?_
    · rintro _ ⟨_, rfl⟩
      exact .untouched
    · rintro _ ⟨admitted, rfl⟩
      exact ⟨journaled database call, rfl, admitted, rfl⟩
    · rintro _ ⟨admitted, rfl⟩
      exact .started admitted
  refine Meets.assume fun admitted => ?_
  refine Fallible.meets_bind (fun _ store => ∃ after, Ran gate call database after ∧
    store = ⟨after, none, [.data, .started]⟩) ?_ fun _ => ?_
  · exact Fallible.meets_try_catch _ (meets_data_transaction admitted) fun error =>
      meets_record_failure admitted error
  refine Fallible.meets_bind (fun _ store => ∃ after, Ran gate call database after ∧
    store = ⟨after, some (updateRun call.runId (succeededRow call) after), [.data, .started]⟩)
    ?_ fun _ => ?_
  · refine meets_execute durable_phase ?_ same ?_
    · rintro _ ⟨after, ran, rfl⟩
      exact .committed admitted ran
    · rintro _ changed ⟨after, ran, rfl⟩ updated
      simp only [Statement.run, bind_ok, bind_text_ok, exists_const, Except.ok.injEq] at updated
      obtain ⟨_, rfl⟩ := updated
      exact ⟨after, ran, rfl⟩
  · refine meets_commit durable_phase ?_ same ?_ fun _ holds => holds
    · rintro _ ⟨after, ran, rfl⟩
      exact .committed admitted ran
    · rintro _ ⟨after, ran, rfl⟩
      exact ⟨_, rfl, .succeeded admitted ran⟩

/-- A summary only reads, so it can be interrupted without consequence. -/
theorem calls_summary (runtime : Runtime) (runId : Str) :
    (summary runtime runId).run.Calls Quiet := by
  have reads (query : Query) : (select query).run.Calls Quiet :=
    calls_invoke (.select query) trivial
  refine Fallible.calls_bind (calls_with_connection trivial trivial ?_) fun _ => trivial
  exact Fallible.calls_bind (reads _) fun _ => Fallible.calls_bind (reads _) fun _ =>
    Fallible.calls_bind (reads _) fun _ => Fallible.calls_bind (reads _) fun _ =>
      Fallible.calls_bind (reads _) fun _ => trivial

/-- A call of `process` stays within its phases, the summary at its end included. -/
theorem meets_process :
    (process gate call).run.Meets storeEffect alone
      (fun _ after => InPhase gate call database after) (fun store => store = database.opened)
      (Fallible.Ends (fun _ => InPhase gate call database) (InPhase gate call database)) := by
  refine Fallible.meets_bind (fun _ => InPhase gate call database) ?_ fun _ => ?_
  · refine meets_with_connection durable_phase ?_ ?_ meets_run_process
    · rintro _ rfl
      exact .untouched
    · rintro _ rfl
      rfl
  · refine (meets_quiet (calls_summary _ _) durable_phase).weaken (fun _ holds => holds) ?_
    intro outcome store holds
    cases outcome <;> exact holds

/-- Wherever a call is abandoned, the store is in one of its phases. -/
theorem process_phase {after : Store}
    {rest : Program SqlCall (Answer PyError SqlCall.Rows) (Except PyError Summary)}
    (run : Runs storeEffect (database.opened, (process gate call).run) (after, rest)) :
    Phase gate call database after.durable after.commits :=
  meets_process.always rfl .untouched run

/-! ## The undisturbed call -/

/-- What the call leaves when nothing disturbs it. -/
def completed (gate : Gate) (call : ProcessCall) (database : Database) : Store :=
  ((process gate call).run.eval perform database.opened).2

/-- An undisturbed call is a run of it, so that what holds of every run holds of it. -/
theorem completed_run (gate : Gate) (call : ProcessCall) (database : Database) :
    Runs storeEffect (database.opened, (process gate call).run)
      (completed gate call database,
        .done ((process gate call).run.eval perform database.opened).1) :=
  eval_undisturbed (process gate call) database.opened

/-- The body of an undisturbed call commits its data and records its success. -/
theorem eval_run_process {after : Database} (admitted : Admitted database call)
    (ran : Ran gate call database after) :
    (runProcess gate call).run.eval perform database.opened =
      (.ok (), ⟨updateRun call.runId (succeededRow call) after, none,
        [.succeeded, .data, .started]⟩) := by
  let opened : Store := ⟨journaled database call, some (journaled database call), [.started]⟩
  have data : (dataTransaction gate call).run.eval perform
      ⟨journaled database call, none, [.started]⟩ = (.ok (), ⟨after, none, [.data, .started]⟩) := by
    have began : beginImmediate.run.eval perform
        ⟨journaled database call, none, [.started]⟩ = (.ok (), opened) := rfl
    have body := (eval_within (strict_transaction_body gate call) opened rfl).1 _ _ ran
    rw [dataTransaction, Fallible.eval_bind_ok began, Fallible.eval_bind_ok body, eval_commit]
  have journal : (Statement.insertRunJournal call.runId call.inputSha256 call.startedAt).run
      database.opened.current = .ok (journaled database call) := journal_row_ok.mpr ⟨admitted, rfl⟩
  have updated : (Statement.succeedRun call.finishedAt call.runId).run after =
      .ok (updateRun call.runId (succeededRow call) after) := by
    simp only [Statement.run, bindText, require, if_pos admitted.1]
    rfl
  rw [runProcess, Fallible.eval_bind_ok (eval_execute journal), Fallible.eval_bind_ok eval_commit]
  refine (Fallible.eval_bind_ok (Fallible.eval_try_ok data)).trans ?_
  rw [Fallible.eval_bind_ok (eval_execute updated), eval_commit]

/-- An undisturbed call whose data transaction has a meaning leaves it behind, with the run set to
succeeded and three commits. -/
theorem completed_ran {after : Database} (admitted : Admitted database call)
    (ran : Ran gate call database after) :
    (completed gate call database).durable = updateRun call.runId (succeededRow call) after ∧
      (completed gate call database).commits = [.succeeded, .data, .started] := by
  let left : Store := ⟨updateRun call.runId (succeededRow call) after, none,
    [.succeeded, .data, .started]⟩
  have connected : (withConnection (runProcess gate call)).run.eval perform database.opened =
      (.ok (), left) := by
    have body := @eval_run_process gate _ _ _ admitted ran
    exact eval_with_connection database.opened body
  have whole : completed gate call database =
      ((summary gate.runtime call.runId).run.eval perform left).2 :=
    congrArg Prod.snd (Fallible.eval_bind_ok connected)
  rw [whole]
  exact (calls_summary gate.runtime call.runId).eval_keeps
    (fun request store isQuiet holds => durable_at left.durable left.commits store _
      (perform_quiet isQuiet store).1 (perform_quiet isQuiet store).2 holds) left ⟨rfl, rfl⟩

end Run

/-- What the sample batch leaves in a new store. -/
@[irreducible] def sampleDatabase : Database :=
  (completed sampleGate (sampleCall "run-1" sampleBatch) emptyDatabase).durable

/-- The sample batch is processed, and its data committed, so the results on reachable stores
apply to it. -/
theorem sample_reachable : Reachable sampleDatabase (some shippedRules) := by
  have data : CommitPoint.data ∈
      (completed sampleGate (sampleCall "run-1" sampleBatch) emptyDatabase).commits := by
    decide +kernel
  have reachable := Reachable.process sampleGate (sampleCall "run-1" sampleBatch) .empty
    (completed_run sampleGate (sampleCall "run-1" sampleBatch) emptyDatabase)
  rw [if_pos data] at reachable
  unfold sampleDatabase
  exact reachable

/-! ## Settlement runs -/

/-- The database without its settlement tables. -/
def Database.core (database : Database) : Database :=
  { database with
    tables := { database.tables with settlementActual := [], settlementException := [] } }

/-- The calls of a settlement run. -/
def Settling : SqlCall → Prop
  | .execute .deleteSettlementActual | .execute .deleteSettlementException
  | .execute (.insertSettlementActual _) | .execute (.insertSettlementException _) => True
  | .execute _ | .beginImmediate | .rollback => False
  | .connect | .select _ | .commit _ | .close => True

/-- The statements of a settlement run leave all other tables as they are. -/
theorem settling_core {statement : Statement} {before after : Database}
    (settling : Settling (.execute statement)) (ran : statement.run before = .ok after) :
    after.core = before.core := by
  cases statement with
  | deleteSettlementActual | deleteSettlementException =>
    cases ran
    rfl
  | insertSettlementActual row | insertSettlementException row =>
    simp only [Statement.run, bind_ok, bind_text_ok, bind_integer_ok, bind_integers_ok,
      constrained_ok, exists_const] at ran
    obtain ⟨_, _, _, _, _, _, rfl⟩ := ran
    rfl
  | _ => exact settling.elim

/-- Inserting settlement rows makes settlement calls only, by induction on the rows. -/
theorem calls_insert_actuals (actual : List (Py SettlementRow)) :
    (insertActuals actual).run.Calls Settling := by
  induction actual with
  | nil => trivial
  | cons row rest inductionHypothesis =>
    refine Fallible.calls_bind (by cases row <;> trivial) fun value => ?_
    refine Fallible.calls_bind (calls_invoke (.execute (.insertSettlementActual value)) trivial)
      fun _ => ?_
    exact Fallible.calls_bind inductionHypothesis fun _ => trivial

/-- Inserting the differences makes settlement calls only, by induction on the keys. -/
theorem calls_insert_deltas (expected amounts : List (SettlementKey × Int))
    (keys : List SettlementKey) : (insertDeltas expected amounts keys).run.Calls Settling := by
  induction keys with
  | nil => trivial
  | cons key rest inductionHypothesis =>
    refine Fallible.calls_bind ?_ fun _ => inductionHypothesis
    unfold insertDelta
    split
    · trivial
    · exact calls_invoke (.execute (.insertSettlementException _)) trivial

/-- A settlement run makes settlement calls only: it clears the two tables, fetches what is due
and inserts. -/
theorem calls_reconcile (actual : List (Py SettlementRow)) :
    (reconcileSettlement actual).run.Calls Settling := by
  have one (call : SqlCall) (settling : Settling call) := calls_invoke call settling
  refine calls_with_connection trivial trivial ?_
  refine Fallible.calls_bind (one (.execute .deleteSettlementActual) trivial) fun _ => ?_
  refine Fallible.calls_bind (one (.execute .deleteSettlementException) trivial) fun _ => ?_
  refine Fallible.calls_bind (calls_insert_actuals actual) fun rows => ?_
  refine Fallible.calls_bind (one (.select .expectedSettlement) trivial) fun expected => ?_
  refine Fallible.calls_bind (calls_insert_deltas _ _ _) fun _ => ?_
  refine Fallible.calls_bind (one (.commit .settlement) trivial) fun _ => ?_
  refine Fallible.calls_bind (one (.select .settlementExceptionCount) trivial) fun count => ?_
  exact Fallible.calls_bind (one (.select .settlementAbsoluteDelta) trivial) fun _ => trivial

/-- The journal and the tables outside settlement, durable and uncommitted. -/
def SettlementOnly (database : Database) (store : Store) : Prop :=
  store.durable.core = database.core ∧ store.current.core = database.core

/-- A settlement call leaves every other table and the journal alone, whether it succeeds or
fails. -/
theorem perform_settling {database : Database} {call : SqlCall} (settling : Settling call)
    {store : Store} (holds : SettlementOnly database store) :
    SettlementOnly database (perform call store).2 := by
  obtain ⟨durable, current⟩ := holds
  cases call with
  | execute statement =>
    cases ran : statement.run store.current with
    | ok changed =>
      rw [perform_execute_ok ran]
      exact ⟨durable, (settling_core settling ran).trans current⟩
    | error error =>
      rw [perform_execute_error ran]
      exact ⟨durable, current⟩
  | commit point =>
    obtain ⟨file, working, commits⟩ := store
    cases working with
    | none => exact ⟨durable, durable⟩
    | some changed => exact ⟨current, current⟩
  | connect | close => exact ⟨durable, durable⟩
  | select query => exact ⟨durable, current⟩
  | beginImmediate | rollback => exact settling.elim

/-- Wherever a settlement run is abandoned, every other table and the journal are as
before. -/
theorem reconcile_core {actual : List (Py SettlementRow)} {database : Database} {after : Store}
    {rest : Program SqlCall (Answer PyError SqlCall.Rows) (Except PyError Reconciliation)}
    (run : Runs storeEffect (database.opened, (reconcileSettlement actual).run) (after, rest)) :
    after.durable.core = database.core := by
  have meets : (reconcileSettlement actual).run.Meets storeEffect alone
      (fun _ after => SettlementOnly database after) (SettlementOnly database)
      (fun _ => SettlementOnly database) := by
    refine (calls_reconcile actual).meets (fun request before reply after settling holds answered =>
      ?_) (stable_alone _)
    have kept : SettlementOnly database after := by
      rcases answered with exact | ⟨_, durable, _, lost⟩
      · obtain ⟨_, rfl⟩ := Prod.mk.inj exact
        exact perform_settling settling holds
      · refine ⟨durable ▸ holds.1, ?_⟩
        rcases lost with same | gone
        · rw [Store.current, same, durable]
          exact holds.2
        · rw [Store.current, gone]
          exact durable ▸ holds.1
    exact ⟨kept, kept⟩
  exact (meets.always ⟨rfl, rfl⟩ ⟨rfl, rfl⟩ run).1

/-! ## Every outcome row belongs to a journaled run -/

/-- The foreign key of `run_outcome` holds. -/
def Referenced (database : Database) : Prop :=
  ∀ row ∈ database.tables.runOutcome, row.runId ∈ database.runJournal.map JournalRow.runId

/-- No statement on the tables of a run breaks the foreign key of the outcomes: an outcome of an
unknown run is refused, and no journal row is deleted. -/
theorem statement_referenced (statement : Statement) (before after : Database)
    (onTables : statement.OnTables) (ran : statement.run before = .ok after)
    (holds : Referenced before) : Referenced after := by
  have journal := statement_journal onTables ran
  cases statement <;> first
    | exact onTables.elim
    | (simp only [Statement.run, bind_ok, constrained_ok, Except.ok.injEq] at ran
       unfold Referenced at holds ⊢
       grind)

/-- Updating a run keeps the run ids. -/
theorem update_run_ids (runId : Str) (change : JournalRow → JournalRow)
    (keeps : ∀ row, (change row).runId = row.runId) (database : Database) :
    (updateRun runId change database).runJournal.map JournalRow.runId =
      database.runJournal.map JournalRow.runId := by
  rw [updateRun, List.map_map]
  refine List.map_congr_left fun row _ => ?_
  simp only [Function.comp_apply]
  split
  · exact keeps row
  · rfl

/-- In every reachable store the outcome rows reference journaled runs.

Proof: by induction on the history. The statements of a call keep it, and so does going back to
the durable state, at which it held. -/
theorem reachable_referenced {database : Database} {rules : Option PostingRules}
    (reachable : Reachable database rules) : Referenced database := by
  induction reachable with
  | empty =>
    intro row member
    cases member
  | @process database _ after _ gate call _ run inductionHypothesis =>
    have started : Referenced (journaled database call) := by
      intro row member
      rw [journaled, List.map_append]
      exact List.mem_append_left _ (inductionHypothesis row member)
    have ran {ended : Database} (meaning : Ran gate call database ended) : Referenced ended :=
      within_keeps statement_referenced (strict_transaction_body gate call).calls meaning started
    have updated (change : JournalRow → JournalRow) (keeps : ∀ row, (change row).runId = row.runId)
        {file : Database} (holds : Referenced file) :
        Referenced (updateRun call.runId change file) := by
      intro row member
      rw [update_run_ids call.runId change keeps file]
      exact holds row member
    have phase := process_phase run
    generalize after.durable = ended at phase
    generalize after.commits = points at phase
    cases phase with
    | untouched => exact inductionHypothesis
    | started => exact started
    | failed _ reason => exact updated (failedRow call reason) (fun _ => rfl) started
    | committed _ meaning => exact ran meaning
    | succeeded _ meaning => exact updated (succeededRow call) (fun _ => rfl) (ran meaning)
  | reconcile actual _ run inductionHypothesis =>
    have core := reconcile_core run
    have journals := congrArg Database.runJournal core
    have outcomes := congrArg (fun database => database.tables.runOutcome) core
    intro row member
    have inside : row ∈ _ := outcomes ▸ member
    exact journals ▸ inductionHypothesis row inside

/-! ## Atomicity -/

/-- The journaled status of a run. -/
def journalStatus (database : Database) (runId : Str) : Option RunStatus :=
  (database.runJournal.find? fun row => row.runId = runId).map JournalRow.status

/-- The call has set the status of its journal row. -/
def StatusSet (call : ProcessCall) (before after : Database) (status : RunStatus) : Prop :=
  journalStatus before call.runId ≠ some status ∧ journalStatus after call.runId = some status

/-- The data commit was reached, and the tables are those an undisturbed call leaves. -/
def DataCommitted (gate : Gate) (call : ProcessCall) (before : Database) (after : Store) : Prop :=
  .data ∈ after.commits ∧ .data ∈ (completed gate call before).commits ∧
    after.durable.tables = (completed gate call before).durable.tables

/-- A run that the journal ends with has this status, if its identifier is new. The journal is a
list by insertion, and its rows are found by identifier. -/
theorem status_last {database : Database} {rows : List JournalRow} {row : JournalRow}
    (journal : database.runJournal = rows ++ [row])
    (fresh : row.runId ∉ rows.map JournalRow.runId) :
    journalStatus database row.runId = some row.status := by
  have none : rows.find? (fun other => other.runId = row.runId) = none := by
    rw [List.find?_eq_none]
    intro other member same
    exact fresh (List.mem_map.mpr ⟨other, member, of_decide_eq_true same⟩)
  rw [journalStatus, journal, List.find?_append, none]
  simp

/-- Changing the row of a run that the journal ends with changes that row only. -/
theorem update_run_last {database : Database} {rows : List JournalRow} {row : JournalRow}
    (journal : database.runJournal = rows ++ [row])
    (fresh : row.runId ∉ rows.map JournalRow.runId) (change : JournalRow → JournalRow) :
    (updateRun row.runId change database).runJournal = rows ++ [change row] := by
  have others : rows.map (fun other => if other.runId = row.runId then change other else other) =
      rows := by
    refine (List.map_congr_left fun other member => ?_).trans (List.map_id _)
    rw [if_neg fun same => fresh (List.mem_map.mpr ⟨other, member, same⟩)]
    rfl
  rw [updateRun, journal, List.map_append, others]
  simp

/-- The data transaction leaves the journal with the run's started row at its end. -/
theorem ran_journal {gate : Gate} {call : ProcessCall} {before ended : Database}
    (ran : Ran gate call before ended) :
    ended.runJournal = before.runJournal ++ [startedRow call] :=
  within_keeps (fun _ _ _ onTables ran kept => (statement_journal onTables ran).trans kept)
    (strict_transaction_body gate call).calls ran rfl

/-- The five phases, with the journaled status and the tables of each. This is what an observer of
the durable state can tell about a call. -/
theorem phase_status {gate : Gate} {call : ProcessCall} {before : Database} {after : Store}
    (phase : Phase gate call before after.durable after.commits) :
    (after.durable = before) ∨
      (Admitted before call ∧ after.durable.tables = before.tables ∧
        (journalStatus after.durable call.runId = some .started ∨
          journalStatus after.durable call.runId = some .failed)) ∨
      (DataCommitted gate call before after ∧
        (journalStatus after.durable call.runId = some .started ∨
          journalStatus after.durable call.runId = some .succeeded)) := by
  have begun : (journaled before call).runJournal = before.runJournal ++ [startedRow call] := rfl
  unfold DataCommitted
  generalize after.durable = file at phase
  generalize after.commits = points at phase
  cases phase with
  | untouched => exact .inl rfl
  | started admitted =>
    exact .inr (.inl ⟨admitted, rfl, .inl (status_last begun admitted.2.2)⟩)
  | failed admitted reason =>
    have journal := update_run_last begun admitted.2.2 (failedRow call reason)
    exact .inr (.inl ⟨admitted, rfl, .inr (status_last journal admitted.2.2)⟩)
  | committed admitted meaning =>
    obtain ⟨durable, commits⟩ := completed_ran admitted meaning
    rw [durable, commits]
    exact .inr (.inr ⟨⟨by simp, by simp, rfl⟩, .inl (status_last (ran_journal meaning) admitted.2.2)⟩)
  | succeeded admitted meaning =>
    obtain ⟨durable, commits⟩ := completed_ran admitted meaning
    rw [durable, commits]
    have journal := update_run_last (ran_journal meaning) admitted.2.2 (succeededRow call)
    exact .inr (.inr ⟨⟨by simp, by simp, rfl⟩, .inr (status_last journal admitted.2.2)⟩)

/-- Run atomicity. Wherever a call on a reachable store ends or is abandoned, and
whatever errors it met, the tables other than the journal are those before the call,
or the data commit was reached and they are those of the undisturbed call. A run that
the call has set to FAILED left the tables alone and has no outcome rows; one that it
has set to SUCCEEDED has committed its data. -/
theorem process_atomic {gate : Gate} {call : ProcessCall} {before : Database}
    {rules : Option PostingRules} {after : Store}
    {rest : Program SqlCall (Answer PyError SqlCall.Rows) (Except PyError Summary)}
    (reachable : Reachable before rules)
    (run : Runs storeEffect (before.opened, (process gate call).run) (after, rest)) :
    (after.durable.tables = before.tables ∨ DataCommitted gate call before after) ∧
      (StatusSet call before after.durable .failed →
        after.durable.tables = before.tables ∧
          ∀ row ∈ after.durable.tables.runOutcome, row.runId ≠ call.runId) ∧
      (StatusSet call before after.durable .succeeded →
        DataCommitted gate call before after) := by
  rcases phase_status (process_phase run) with same | ⟨admitted, tables, status⟩ | ⟨data, status⟩
  · refine ⟨.inl (by rw [same]), ?_, ?_⟩
    · rintro ⟨other, set⟩
      exact absurd (same ▸ set) other
    · rintro ⟨other, set⟩
      exact absurd (same ▸ set) other
  · refine ⟨.inl tables, fun _ => ⟨tables, ?_⟩, ?_⟩
    · intro row member named
      rw [tables] at member
      exact admitted.2.2 (named ▸ reachable_referenced reachable row member)
    · rintro ⟨_, set⟩
      rcases status with status | status <;> rw [status] at set <;> cases set
  · refine ⟨.inr data, ?_, fun _ => data⟩
    rintro ⟨_, set⟩
    rcases status with status | status <;> rw [status] at set <;> cases set

/-- The sample call, failing after it has written all its rows. -/
def sampleFailure : ProcessCall :=
  { sampleCall "run-1" sampleBatch with failpoint := some (str "before_commit") }

/-- A call that fails after it has written all its rows leaves none of them. -/
theorem process_atomic_sample :
    let after := (completed sampleGate sampleFailure emptyDatabase).durable
    after.tables = emptyDatabase.tables ∧
      ∀ row ∈ after.tables.runOutcome, row.runId ≠ sampleFailure.runId := by
  have atomic := process_atomic .empty (completed_run sampleGate sampleFailure emptyDatabase)
  have failed : StatusSet sampleFailure emptyDatabase
      (completed sampleGate sampleFailure emptyDatabase).durable .failed :=
    ⟨by decide +kernel, by decide +kernel⟩
  exact atomic.2.1 failed

end LedgerFlow
