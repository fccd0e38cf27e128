import LedgerFlow.Store.Invariant
import LedgerFlow.Store.Returns

/-!
# A failure injected before the commit

The failpoint `before_commit` raises when the whole data transaction is done but for its
outcome rows. The call passes the error on, and leaves its journal row as that of a failed
run. All other tables are as they were.
-/

namespace LedgerFlow

open PyText PyJson Grouping Programs Programs.Program

/-- `before_commit` -/
def beforeCommit : Str := str "before_commit"

/-- The message of the injected failure. -/
def injectedMessage : Str := str "injected_failure:before_commit"

section Injected

variable {gate : Gate} {call : ProcessCall} {database : Database}

/-- The call without its failpoint. -/
def ProcessCall.undisturbed (call : ProcessCall) : ProcessCall := { call with failpoint := none }

/-- An error in the second part of a program is the error of the whole. -/
theorem within_bind_error {α β : Type} {program : Sql α} {next : α → Sql β} {result : α}
    {before middle : Database} {error : PyError}
    (first : within program.run before = .ok (result, middle))
    (second : within (next result).run middle = .error error) :
    within (program >>= next).run before = .error error := by
  rw [within_bind, first]
  exact second

/-- The data transaction of a run that would complete raises at its failpoint. -/
theorem injected_body (injected : call.failpoint = some beforeCommit) {after : Database}
    (ran : Ran gate call.undisturbed database after) :
    within (transactionBody gate call).run (journaled database call) =
      .error (.runtime injectedMessage) := by
  obtain ⟨counts, gated, ingested, following⟩ := within_bind_ok.mp ran
  obtain ⟨_, middle, passed, rebuilding⟩ := within_bind_ok.mp following
  obtain ⟨_, rfl⟩ := fail_at_ok.mp passed
  obtain ⟨_, rebuilt, projected, _⟩ := within_bind_ok.mp rebuilding
  have proceeds : call.failpoint ≠ some (str "after_identity_gate") := by
    rw [injected]
    decide
  have raised : within (failAt call.failpoint (str "before_commit")).run rebuilt =
      .error (.runtime injectedMessage) := by
    rw [failAt, if_pos (show call.failpoint = some (str "before_commit") from injected)]
    rfl
  have skipped : within (failAt call.failpoint (str "after_identity_gate")).run middle =
      .ok ((), middle) := fail_at_ok.mpr ⟨proceeds, rfl⟩
  refine within_bind_error ingested (within_bind_error skipped (within_bind_error projected ?_))
  rw [within_bind, raised]
  rfl

/-- An error of the data transaction whose text can be stored is recorded and passed on. -/
theorem eval_run_process_failed {error : PyError} (admitted : Admitted database call)
    (encodable : Encodable error.text)
    (raised : within (transactionBody gate call).run (journaled database call) = .error error) :
    (runProcess gate call).run.eval perform database.opened =
      (.error error, ⟨updateRun call.runId (failedRow call error.text) (journaled database call),
        none, [.failed, .started]⟩) := by
  let opened : Store := ⟨journaled database call, some (journaled database call), [.started]⟩
  have inserted : (execute (.insertRunJournal call.runId call.inputSha256 call.startedAt)).run.eval
      perform database.opened = (.ok (), ⟨database, some (journaled database call), []⟩) :=
    eval_execute (journal_row_ok.mpr ⟨admitted, rfl⟩)
  have began : beginImmediate.run.eval perform ⟨journaled database call, none, [.started]⟩ =
      (.ok (), opened) := rfl
  obtain ⟨left, body⟩ := (eval_within (strict_transaction_body gate call) opened rfl).2 error raised
  have data : (dataTransaction gate call).run.eval perform
      ⟨journaled database call, none, [.started]⟩ =
        (.error error, { opened with working := some left }) := by
    rw [dataTransaction, Fallible.eval_bind_ok began, Fallible.eval_bind_error body]
  have ended : rollback.run.eval perform { opened with working := some left } =
      (.ok (), { opened with working := none }) := rfl
  have recorded : (Statement.failRun call.finishedAt error.text call.runId).run
      (journaled database call) =
        .ok (updateRun call.runId (failedRow call error.text) (journaled database call)) := by
    simp only [Statement.run, bind_ok, bind_text_ok, exists_const]
    exact ⟨encodable, admitted.1, rfl⟩
  have failed : (recordFailure call error).run.eval perform { opened with working := some left } =
      (.error error, ⟨updateRun call.runId (failedRow call error.text) (journaled database call),
        none, [.failed, .started]⟩) := by
    rw [recordFailure, Fallible.eval_bind_ok ended, Fallible.eval_bind_ok (eval_execute recorded),
      Fallible.eval_bind_ok eval_commit]
    rfl
  rw [runProcess, Fallible.eval_bind_ok inserted, Fallible.eval_bind_ok eval_commit]
  refine Fallible.eval_bind_error ?_
  rw [Fallible.eval_try_error data, failed]

/-- A call that would complete but for the failpoint before its commit raises the injected
failure, and leaves all tables as they were. -/
theorem injected_failure {rules : Option PostingRules} (reachable : Reachable database rules)
    (admitted : Admitted database call) (injected : call.failpoint = some beforeCommit)
    (completes : Completes gate call.undisturbed database.tables) :
    ∃ after, (process gate call).run.eval perform database.opened =
        (.error (.runtime injectedMessage), after) ∧
      after.durable.tables = database.tables := by
  have ran := (@ran_completes gate call.undisturbed database _
    (reachable_consistent reachable).identified (reachable_referenced reachable)
    admitted).mpr ⟨completes, rfl⟩
  have encodable : Encodable (PyError.runtime injectedMessage).text := by
    show Encodable injectedMessage
    decide
  have failed := eval_run_process_failed admitted encodable (injected_body injected ran)
  refine ⟨_, Fallible.eval_bind_error (eval_with_connection database.opened failed), rfl⟩

end Injected

end LedgerFlow
