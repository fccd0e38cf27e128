import LedgerFlow.Store.Transactions

/-!
# Calls on a connection under faults

Only a commit changes the durable state. The rules here say what one call of the
store's code ensures when every call may report an error: a quiet call keeps every
assertion about the durable state and the commits, a statement leaves its result
uncommitted, and a commit makes the open transaction durable or changes nothing.
-/

namespace LedgerFlow

open Programs Programs.Program

/-- Between the statements of one connection nothing else moves the store. -/
def alone : Store → Store → Prop := fun _ _ => False

/-- Without an environment every assertion is stable, since SQLite gives the call the database for
itself. -/
theorem stable_alone (assertion : Store → Prop) : Stable alone assertion :=
  fun _ _ impossible => impossible.elim

/-- The assertion reads only the durable state and the commits. -/
def Durable (assertion : Store → Prop) : Prop :=
  ∀ before after, after.durable = before.durable → after.commits = before.commits →
    assertion before → assertion after

/-- A fault between two calls loses the working copy only, so it keeps what is said of the durable
state. -/
theorem durable_fault {assertion : Store → Prop} (reads : Durable assertion)
    {before after : Store} (moved : fault before after) (holds : assertion before) :
    assertion after :=
  reads before after moved.1 moved.2.1 holds

/-- The calls that leave the durable state and the commits alone. -/
def Quiet : SqlCall → Prop
  | .commit _ => False
  | _ => True

/-- A quiet call changes neither the durable state nor the commits, whatever it does to the
working copy. -/
theorem perform_quiet {call : SqlCall} (quiet : Quiet call) (store : Store) :
    (perform call store).2.durable = store.durable ∧
      (perform call store).2.commits = store.commits := by
  cases call with
  | commit => exact quiet.elim
  | execute statement =>
    simp only [perform]
    split <;> exact ⟨rfl, rfl⟩
  | beginImmediate =>
    simp only [perform]
    split <;> exact ⟨rfl, rfl⟩
  | connect | select | rollback | close => exact ⟨rfl, rfl⟩

/-- One call of a program that makes only allowed calls, whatever it answers. -/
theorem calls_invoke {allowed : SqlCall → Prop} (call : SqlCall) (isAllowed : allowed call) :
    (invoke call : Sql call.Rows).run.Calls allowed := ⟨isAllowed, fun _ => trivial⟩

/-- A connection adds its opening and its closing to the calls of its body. -/
theorem calls_with_connection {α : Type} {allowed : SqlCall → Prop} {body : Sql α}
    (opens : allowed .connect) (closes : allowed .close) (calls : body.run.Calls allowed) :
    (withConnection body).run.Calls allowed := by
  refine Fallible.calls_bind (calls_invoke .connect opens) fun _ => ?_
  refine Fallible.calls_bind (Fallible.calls_try_catch ?_ fun _ => trivial) fun outcome => ?_
  · exact Fallible.calls_bind calls fun _ => trivial
  · refine Fallible.calls_bind (calls_invoke .close closes) fun _ => ?_
    cases outcome <;> trivial

/-- Quiet programs keep what reads only the durable state and the commits, however far they
get. -/
theorem meets_quiet {α : Type} {program : Sql α} {assertion : Store → Prop}
    (calls : program.run.Calls Quiet) (reads : Durable assertion) :
    program.run.Meets storeEffect alone (fun _ after => assertion after) assertion
      (fun _ store => assertion store) := by
  refine calls.meets (fun request before reply after quiet holds answered => ?_) (stable_alone _)
  have kept : assertion after := by
    rcases answered with exact | ⟨_, moved⟩
    · obtain ⟨_, rfl⟩ := Prod.mk.inj exact
      have ⟨durable, commits⟩ := perform_quiet quiet before
      exact reads _ _ durable commits holds
    · exact durable_fault reads moved holds
  exact ⟨kept, kept⟩

/-- A quiet call that reports an error leaves what it began with; what it returns is
what its effect says. -/
theorem meets_call (call : SqlCall) (quiet : Quiet call) {pre kept holds : Store → Prop}
    {good : call.Rows → Store → Prop} (reads : Durable kept)
    (begins : ∀ store, pre store → kept store) (weaker : ∀ store, kept store → holds store)
    (returns : ∀ store rows, pre store → (perform call store).1 = .ok rows →
      good rows (perform call store).2) :
    (invoke call : Sql call.Rows).run.Meets storeEffect alone (fun _ after => holds after) pre
      (Fallible.Ends good kept) := by
  refine Meets.request (fun before reply after ready answered => ?_) fun _ => stable_alone _
  rcases answered with exact | ⟨⟨error, rfl⟩, moved⟩
  · obtain ⟨replied, rfl⟩ := Prod.mk.inj exact
    have ⟨durable, commits⟩ := perform_quiet quiet before
    have still := reads _ _ durable commits (begins before ready)
    refine ⟨weaker _ still, ?_⟩
    cases reply with
    | ok rows => exact returns before rows ready replied.symm
    | error error => exact still
  · have still := durable_fault reads moved (begins before ready)
    exact ⟨weaker _ still, still⟩

/-- A statement leaves its result uncommitted. Where it fails, what was kept is weakened to what
holds on the way. -/
theorem meets_execute {statement : Statement} {pre kept holds good : Store → Prop}
    (reads : Durable kept) (begins : ∀ store, pre store → kept store)
    (weaker : ∀ store, kept store → holds store)
    (returns : ∀ store database, pre store → statement.run store.current = .ok database →
      good { store with working := some database }) :
    (execute statement).run.Meets storeEffect alone (fun _ after => holds after) pre
      (Fallible.Ends (fun _ => good) kept) := by
  refine meets_call (.execute statement) trivial reads begins weaker fun store _ ready returned => ?_
  cases ran : statement.run store.current with
  | ok database =>
    rw [perform_execute_ok ran]
    exact returns store database ready ran
  | error error =>
    rw [perform_execute_error ran] at returned
    cases returned

/-- A commit makes the open transaction durable, or fails and changes nothing. It is the one call
at which the two assertions differ. -/
theorem meets_commit {point : CommitPoint} {pre kept holds good : Store → Prop}
    (reads : Durable kept) (begins : ∀ store, pre store → kept store)
    (weaker : ∀ store, kept store → holds store)
    (commits : ∀ store, pre store → ∃ database, store.working = some database ∧
      good ⟨database, none, point :: store.commits⟩)
    (reaches : ∀ store, good store → holds store) :
    (commit point).run.Meets storeEffect alone
      (fun _ after => holds after) pre (Fallible.Ends (fun _ => good) kept) := by
  refine Meets.request (fun before reply after ready answered => ?_) fun _ => stable_alone _
  rcases answered with exact | ⟨⟨error, rfl⟩, moved⟩
  · obtain ⟨database, opened, committed⟩ := commits before ready
    have performed : perform (.commit point) before =
        (.ok (), ⟨database, none, point :: before.commits⟩) := by
      simp only [perform, opened]
    rw [performed] at exact
    obtain ⟨rfl, rfl⟩ := Prod.mk.inj exact
    exact ⟨reaches _ committed, committed⟩
  · have still := durable_fault reads moved (begins before ready)
    exact ⟨weaker _ still, still⟩

/-- Opening and closing a connection around a body adds nothing to an assertion that
reads only the durable state and the commits. -/
theorem meets_with_connection {α : Type} {body : Sql α} {pre ready holds : Store → Prop}
    (reads : Durable holds) (starts : ∀ store, pre store → holds store)
    (opens : ∀ store, pre store → ready { store with working := none })
    (meets : body.run.Meets storeEffect alone (fun _ after => holds after) ready
      (Fallible.Ends (fun _ => holds) holds)) :
    (withConnection body).run.Meets storeEffect alone (fun _ after => holds after) pre
      (Fallible.Ends (fun _ => holds) holds) := by
  have same : ∀ store, holds store → holds store := fun _ kept => kept
  refine Fallible.meets_bind (fun _ => ready) ?_ fun _ => ?_
  · exact meets_call .connect trivial reads starts same fun store _ begins _ => opens store begins
  · refine Fallible.meets_bind (fun _ => holds) ?_ fun outcome => ?_
    · refine Fallible.meets_try_catch holds ?_ fun error => ?_
      · exact Fallible.meets_bind _ meets fun result => Fallible.meets_pure same
      · exact Fallible.meets_pure same
    · refine Fallible.meets_bind (fun _ => holds) ?_ fun _ => ?_
      · exact meets_call .close trivial reads same same fun store _ kept _ =>
          reads store { store with working := none } rfl rfl kept
      · cases outcome with
        | ok result => exact Fallible.meets_pure same
        | error error => exact Fallible.meets_throw same

/-! ## Undisturbed calls -/

/-- An undisturbed evaluation is a run, one of those in which no call is abandoned. -/
theorem eval_undisturbed {α : Type} (program : Sql α) (store : Store) :
    Runs storeEffect (store, program.run)
      ((program.run.eval perform store).2, .done (program.run.eval perform store).1) :=
  eval_runs (fun _ _ => .inl rfl) program.run store

/-- A commit makes the working copy durable and ends the transaction. -/
theorem eval_commit {point : CommitPoint} {durable changed : Database}
    {commits : List CommitPoint} :
    (commit point).run.eval perform ⟨durable, some changed, commits⟩ =
      (.ok (), ⟨changed, none, point :: commits⟩) := rfl

/-- A statement that succeeds changes the working copy and nothing else of the store. -/
theorem eval_execute {statement : Statement} {store : Store} {changed : Database}
    (ran : statement.run store.current = .ok changed) :
    (execute statement).run.eval perform store = (.ok (), { store with working := some changed }) :=
  perform_execute_ok ran

/-- A query that can be run fetches its rows and changes nothing, so that it can be left out of an
evaluation. -/
theorem eval_select {query : Query} {store : Store} {rows : query.Rows}
    (fetched : query.run store.current = .ok rows) :
    (select query).run.eval perform store = (.ok rows, store) :=
  congrArg (·, store) fetched

/-- A query that fails changes nothing; its error goes to the caller. -/
theorem eval_select_error {query : Query} {store : Store} {error : PyError}
    (raised : query.run store.current = .error error) :
    (select query).run.eval perform store = (.error error, store) :=
  congrArg (·, store) raised

/-- A connection passes on what its body ends with, and closes: what was not committed is gone. -/
theorem eval_with_connection {α : Type} {body : Sql α} (store : Store) {middle : Store}
    {outcome : Except PyError α}
    (ended : body.run.eval perform { store with working := none } = (outcome, middle)) :
    (withConnection body).run.eval perform store = (outcome, { middle with working := none }) := by
  have begun : connect.run.eval perform store = (.ok (), { store with working := none }) := rfl
  rw [withConnection, Fallible.eval_bind_ok begun, Fallible.run_bind, Fallible.run_try_catch,
    Program.eval_bind, Program.eval_bind, Fallible.run_bind, Program.eval_bind, ended]
  cases outcome <;> rfl

end LedgerFlow
