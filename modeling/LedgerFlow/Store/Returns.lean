import LedgerFlow.Store.Completion

/-!
# What an undisturbed call returns

Without faults a call of `process` either returns its summary or raises. It returns
exactly when its journal row can be written, its data transaction has a meaning, and
the two sums of the summary can be fetched. The summary then counts every record of the
batch once as an arrival and once under another outcome.
-/

namespace LedgerFlow

open PyText PyJson Grouping Programs Programs.Program

section Process

variable {gate : Gate} {call : ProcessCall} {database : Database}

/-! ## The body of a call -/

/-- A failure is always passed on: `process` never returns after its data transaction has failed,
even where the failure cannot be recorded. -/
theorem record_failure_raises (call : ProcessCall) (error : PyError) (store : Store) :
    ∃ raised after, (recordFailure call error).run.eval perform store = (.error raised, after) := by
  have began : rollback.run.eval perform store = (.ok (), { store with working := none }) := rfl
  rw [recordFailure, Fallible.eval_bind_ok began]
  cases ran : (Statement.failRun call.finishedAt error.text call.runId).run
      ({ store with working := none } : Store).current with
  | error other =>
    have failed : (execute (.failRun call.finishedAt error.text call.runId)).run.eval perform
        { store with working := none } = (.error other, _) := perform_execute_error ran
    exact ⟨_, _, Fallible.eval_bind_error failed⟩
  | ok changed =>
    rw [Fallible.eval_bind_ok (eval_execute ran), Fallible.eval_bind_ok eval_commit]
    exact ⟨_, _, rfl⟩

/-- A call whose journal row cannot be written, or whose data transaction has no
meaning, raises. -/
theorem run_process_raises
    (fails : ¬ (Admitted database call ∧ ∃ after, Ran gate call database after)) :
    ∃ raised after,
      (runProcess gate call).run.eval perform database.opened = (.error raised, after) := by
  cases journal : (Statement.insertRunJournal call.runId call.inputSha256 call.startedAt).run
      database with
  | error error =>
    have failed : (execute (.insertRunJournal call.runId call.inputSha256 call.startedAt)).run.eval
        perform database.opened = (.error error, _) := perform_execute_error journal
    exact ⟨_, _, Fallible.eval_bind_error failed⟩
  | ok changed =>
    obtain ⟨admitted, rfl⟩ := journal_row_ok.mp journal
    let opened : Store := ⟨journaled database call, some (journaled database call), [.started]⟩
    have began : beginImmediate.run.eval perform
        ⟨journaled database call, none, [.started]⟩ = (.ok (), opened) := rfl
    have inserted : (execute (.insertRunJournal call.runId call.inputSha256 call.startedAt)).run.eval
        perform database.opened =
          (.ok (), ⟨database, some (journaled database call), []⟩) := eval_execute journal
    cases meaning : within (transactionBody gate call).run (journaled database call) with
    | ok ended => exact absurd ⟨admitted, ended.2, meaning⟩ fails
    | error error =>
      obtain ⟨after, body⟩ :=
        (eval_within (strict_transaction_body gate call) opened rfl).2 error meaning
      have data : (dataTransaction gate call).run.eval perform
          ⟨journaled database call, none, [.started]⟩ =
            (.error error, { opened with working := some after }) := by
        rw [dataTransaction, Fallible.eval_bind_ok began, Fallible.eval_bind_error body]
      obtain ⟨raised, left, failed⟩ :=
        record_failure_raises call error { opened with working := some after }
      rw [runProcess, Fallible.eval_bind_ok inserted, Fallible.eval_bind_ok eval_commit]
      refine ⟨raised, left, Fallible.eval_bind_error ?_⟩
      rw [Fallible.eval_try_error data, failed]

/-- A call returns exactly when its data transaction has a meaning and its summary
returns. -/
theorem process_returns {result : Summary} {after : Store} :
    (process gate call).run.eval perform database.opened = (.ok result, after) ↔
      Admitted database call ∧ ∃ ended, Ran gate call database ended ∧
        (summary gate.runtime call.runId).run.eval perform
          ⟨updateRun call.runId (succeededRow call) ended, none, [.succeeded, .data, .started]⟩ =
            (.ok result, after) := by
  by_cases succeeds : Admitted database call ∧ ∃ after, Ran gate call database after
  · obtain ⟨admitted, ended, ran⟩ := succeeds
    have body := @eval_run_process gate _ _ _ admitted ran
    have connected := eval_with_connection database.opened body
    rw [process, Fallible.eval_bind_ok connected]
    refine ⟨fun returned => ⟨admitted, ended, ran, returned⟩, ?_⟩
    rintro ⟨_, other, again, returned⟩
    have same : (.ok ((), ended) : Py (Unit × Database)) = .ok ((), other) := ran.symm.trans again
    cases same
    exact returned
  · obtain ⟨raised, left, failed⟩ := run_process_raises succeeds
    have connected := eval_with_connection database.opened failed
    rw [process, Fallible.eval_bind_error connected]
    constructor
    · intro wrong
      cases wrong
    · rintro ⟨admitted, ended, ran, _⟩
      exact absurd ⟨admitted, ended, ran⟩ succeeds

/-- A call that does not raise returns what the undisturbed call leaves, in the tables and in the
journal. -/
theorem returned_of_ok
    (ok : ((process gate call).run.eval perform database.opened).1.isOk = true) :
    ∃ result, (process gate call).run.eval perform database.opened =
      (.ok result, completed gate call database) := by
  unfold completed
  cases ended : (process gate call).run.eval perform database.opened with
  | mk outcome after =>
    rw [ended] at ok
    cases outcome with
    | ok result => exact ⟨result, rfl⟩
    | error error => cases ok

/-! ## Summaries -/

/-- What a summary of the database fetches, given its two sums. -/
def fetchedRows (runId : Str) (database : Database) (unbalanced : Nat) (balance : Int) :
    SummaryRows where
  outcomes := dictionary
    ((database.tables.runOutcome.filter fun row => row.runId = runId).map outcomeItem)
  counts := {
    acceptedEvent := database.tables.acceptedEvent.length
    quarantine := database.tables.quarantine.length
    businessException := database.tables.businessException.length
    postedEvent := database.tables.postedEvent.length
    ledgerEntry := database.tables.ledgerEntry.length
    paymentState := database.tables.paymentState.length }
  unbalanced := unbalanced
  balance := balance
  states := database.tables.paymentState.insertionSort byTransaction

/-- The queries of a summary return exactly when both sums can be fetched. -/
theorem summary_rows_returns {runId : Str} {outcome : Py SummaryRows} {store after : Store}
    (ended : (summaryRows runId).run.eval perform store = (outcome, after)) :
    after = store ∧ ∀ rows, outcome = .ok rows ↔
      ∃ unbalanced balance, Query.run store.current .unbalancedGroups = .ok unbalanced ∧
        Query.run store.current .ledgerBalance = .ok balance ∧
        rows = fetchedRows runId store.current unbalanced balance := by
  rw [summaryRows, Fallible.eval_bind_ok (@eval_select (.runOutcomes runId) store _ rfl),
    Fallible.eval_bind_ok (@eval_select .tableCounts store _ rfl)] at ended
  cases unbalanced : Query.run store.current .unbalancedGroups with
  | error error =>
    rw [Fallible.eval_bind_error (@eval_select_error .unbalancedGroups store _ unbalanced)] at ended
    cases ended
    exact ⟨rfl, by simp⟩
  | ok number =>
    rw [Fallible.eval_bind_ok (@eval_select .unbalancedGroups store _ unbalanced)] at ended
    cases balance : Query.run store.current .ledgerBalance with
    | error error =>
      rw [Fallible.eval_bind_error (@eval_select_error .ledgerBalance store _ balance)] at ended
      cases ended
      exact ⟨rfl, by simp⟩
    | ok sum =>
      rw [Fallible.eval_bind_ok (@eval_select .ledgerBalance store _ balance),
        Fallible.eval_bind_ok (@eval_select .states store _ rfl)] at ended
      cases ended
      refine ⟨rfl, fun rows => ?_⟩
      constructor
      · intro same
        cases same
        exact ⟨number, sum, rfl, rfl, rfl⟩
      · rintro ⟨_, _, again, too, rfl⟩
        cases again
        cases too
        rfl

/-- A summary returns exactly when its two sums can be fetched, and then reports the fetched
rows. -/
theorem summary_returns {runtime : Runtime} {runId : Str} {commits : List CommitPoint}
    {result : Summary} {after : Store} :
    (summary runtime runId).run.eval perform ⟨database, none, commits⟩ = (.ok result, after) ↔
      ∃ unbalanced balance, Query.run database .unbalancedGroups = .ok unbalanced ∧
        Query.run database .ledgerBalance = .ok balance ∧
        result = summarize runtime runId (fetchedRows runId database unbalanced balance) ∧
        after = ⟨database, none, commits⟩ := by
  cases ended : (summaryRows runId).run.eval perform ⟨database, none, commits⟩ with
  | mk outcome left =>
    obtain ⟨rfl, rows⟩ := summary_rows_returns ended
    have connected := eval_with_connection ⟨database, none, commits⟩ ended
    cases outcome with
    | error error =>
      rw [summary, Fallible.eval_bind_error connected]
      constructor
      · intro wrong
        cases wrong
      · rintro ⟨number, sum, unbalanced, balance, _⟩
        cases (rows _).mpr ⟨number, sum, unbalanced, balance, rfl⟩
    | ok fetched =>
      obtain ⟨number, sum, unbalanced, balance, rfl⟩ := (rows fetched).mp rfl
      rw [summary, Fallible.eval_bind_ok connected]
      constructor
      · intro returned
        cases returned
        exact ⟨number, sum, unbalanced, balance, rfl, rfl⟩
      · rintro ⟨other, total, again, too, rfl, rfl⟩
        cases unbalanced.symm.trans again
        cases balance.symm.trans too
        rfl

end Process

end LedgerFlow
