import LedgerFlow.Simulator.Projected
import LedgerFlow.Store.BalancedSummaries
import LedgerFlow.Store.InjectedFailures
import LedgerFlow.Store.Replays

/-!
# Runs under the shipped rules

An ordinary call processes records that settle, under the shipped rules, on a reachable store of
modest events. Undisturbed, it concludes: it returns a summary of what it leaves, and what it
leaves admits another ordinary call. With the failpoint before the commit, it changes no table.
-/

namespace LedgerFlow.Simulator

open PyText PyJson Grouping Programs

/-- A call under the shipped rules, under a new run identifier, for records that settle, on a
reachable store of modest events. -/
structure Ordinary (gate : Gate) (call : ProcessCall) (database : Database) : Prop where
  reachable : ∃ rules, Reachable database rules
  admitted : Admitted database call
  quiet : call.raises = none
  rules : call.postingRules = shippedRules
  settles : ∀ raw ∈ call.records, Settles gate raw
  modest : ∀ event ∈ database.tables.events, Modest event
  countable : Int64 call.records.length

/-- What an ordinary call returns and leaves. -/
structure Concluded (gate : Gate) (call : ProcessCall) (database : Database) (result : Summary)
    (after : Database) : Prop where
  reachable : Reachable after (some shippedRules)
  reported : result = summarize gate.runtime call.runId (fetchedRows call.runId after 0 0)
  completed : Completed gate call database after.tables
  projected : after.tables.projection = projectAll shippedRules after.tables.events
  events : after.tables.events =
    database.tables.events ++ LedgerFlow.admitted gate database.tables.seenIds call.records
  modest : ∀ event ∈ after.tables.events, Modest event
  runIds : after.runIds = database.runIds ++ [call.runId]

section Calls

variable {gate : Gate} {call : ProcessCall} {database : Database}

/-- The old and the new events of an ordinary call are modest, so that every sum over them stays
small. -/
theorem Ordinary.all_modest (ordinary : Ordinary gate call database) :
    ∀ event ∈ database.tables.events ++
      LedgerFlow.admitted gate database.tables.seenIds call.records, Modest event := by
  intro event member
  rcases List.mem_append.mp member with old | new
  · exact ordinary.modest event old
  · exact admitted_modest ordinary.settles new

/-- The batch of an ordinary call is digestible, as the number of its records and the sums over
its events fit in 64 bits and no refused record is nested. -/
theorem Ordinary.digestible (ordinary : Ordinary gate call database) :
    Digestible gate call database.tables where
  runId := ordinary.admitted.1
  inputSha256 := ordinary.admitted.2.1
  gateable := gateable_of_passable (fun raw member => (ordinary.settles raw member).passable) _
  postable _ _ _ _ member := ordinary.rules ▸
    modest_postable (ordinary.all_modest _ (mem_history.mp member).1)
  summable := ordinary.rules ▸ shipped_summable ordinary.all_modest
  countable := ordinary.countable

/-- An undisturbed ordinary call returns, commits its three transactions and leaves what a
concluded call leaves. -/
theorem Ordinary.concludes (ordinary : Ordinary gate call database)
    (undisturbed : call.failpoint = none) :
    ∃ result after, (process gate call).run.eval perform database.opened =
        (.ok result, ⟨after, none, [.succeeded, .data, .started]⟩) ∧
      Concluded gate call database result after := by
  obtain ⟨rules, reachable⟩ := ordinary.reachable
  obtain ⟨ran, unbalanced, balance, returned⟩ := digestible_returns reachable
    ordinary.admitted.2.2 undisturbed ordinary.quiet ordinary.digestible
  have events := (@completion_tables gate call (journaled database call)
    (reachable_consistent reachable).identified ordinary.digestible.gateable).2.1
  obtain ⟨reached, reported⟩ := returned_fetched reachable returned
  obtain ⟨completed, projected, _, _⟩ := returned_completed reachable returned
  refine ⟨_, _, returned, ?_⟩
  exact {
    reachable := ordinary.rules ▸ reached
    reported
    completed
    projected := ordinary.rules ▸ projected
    events
    modest := fun event member => ordinary.all_modest event (events ▸ member)
    runIds := by
      rw [Database.runIds, update_run_ids call.runId (succeededRow call) fun _ => rfl,
        ran_journal ran, List.map_append]
      rfl }

/-- An ordinary call with the failpoint before the commit raises the injected error and leaves
every data table as it was. -/
theorem Ordinary.injected (ordinary : Ordinary gate call database)
    (injected : call.failpoint = some beforeCommit) :
    ∃ after, (process gate call).run.eval perform database.opened =
        (.error (.runtime injectedMessage), after) ∧
      after.durable.tables = database.tables := by
  obtain ⟨rules, reachable⟩ := ordinary.reachable
  have digestible := ordinary.digestible
  refine injected_failure reachable ordinary.admitted injected ?_
  exact {
    quiet := ordinary.quiet
    gateable := digestible.gateable
    proceeds := by simp [ProcessCall.undisturbed]
    postable := digestible.postable
    reaches := by simp [ProcessCall.undisturbed]
    countable := digestible.countable }

/-- What a concluded call leaves is ready for another ordinary call, under a run identifier that
was not used before. -/
theorem Concluded.ready {result : Summary} {after : Database}
    (concluded : Concluded gate call database result after) {next : ProcessCall}
    (named : Encodable next.runId) (digest : Encodable next.inputSha256)
    (fresh : next.runId ∉ database.runIds ++ [call.runId]) (quiet : next.raises = none)
    (rules : next.postingRules = shippedRules) (settles : ∀ raw ∈ next.records, Settles gate raw)
    (countable : Int64 next.records.length) : Ordinary gate next after where
  reachable := ⟨_, concluded.reachable⟩
  admitted := by
    rw [← concluded.runIds] at fresh
    exact ⟨named, digest, fresh⟩
  quiet
  rules
  settles
  modest := concluded.modest
  countable

/-- The reports of a concluded call are the decisions that it made, one for each record. -/
theorem Concluded.decided {result : Summary} {after : Database}
    (concluded : Concluded gate call database result after)
    (reached : ∃ rules, Reachable database rules) :
    ∃ decisions gated, Decisions gate call.runId call.records (journaled database call) decisions
        gated ∧
      Reports result decisions ∧ after.tables.acceptedEvent = gated.tables.acceptedEvent ∧
      after.tables.seenEvent = gated.tables.seenEvent := by
  obtain ⟨rules, reachable⟩ := reached
  obtain ⟨decisions, gated, decided, tallied, seen, accepted, _, recorded⟩ :=
    concluded.completed.decided
  have rows := completed_recorded reachable concluded.completed.fresh recorded
  rw [← decided.length] at tallied
  exact ⟨decisions, gated, decided, concluded.reported ▸ summarize_reports tallied rows, accepted,
    seen⟩

/-- The numbers that a concluded call reports. -/
structure ReportsTables (gate : Gate) (result : Summary) (after : Tables) : Prop where
  balanced : result.ledgerBalanced = true
  reconciled : result.rawReconciled =
    decide (result.rawRecords = result.acceptedNew + result.duplicates + result.quarantined)
  ledger : result.counts.ledgerEntry = after.ledgerEntry.length
  exceptions : result.counts.businessException = after.businessException.length
  states : result.counts.paymentState = after.paymentState.length
  digest : result.paymentStateSha256 = gate.runtime.sha256 (canonicalJson
    (.arr ((after.paymentState.insertionSort byTransaction).map StateRow.json)))

/-- A concluded call reports the numbers that its tables have. -/
theorem Concluded.tables {result : Summary} {after : Database}
    (concluded : Concluded gate call database result after) :
    ReportsTables gate result after.tables := by
  rw [concluded.reported]
  exact ⟨rfl, rfl, rfl, rfl, rfl, rfl⟩

/-- After a concluded call the events of its records are seen, so that offering the records again
changes nothing. -/
theorem Concluded.seen {result : Summary} {after : Database}
    (concluded : Concluded gate call database result after)
    (reached : ∃ rules, Reachable database rules) : Seen gate after.tables call.records := by
  obtain ⟨rules, reachable⟩ := reached
  intro raw member event valid
  have covered := @admitted_covers gate database.tables.seenIds call.records _ _ member valid
  rw [(reachable_consistent concluded.reachable).identified.sameIds, concluded.events,
    List.map_append, ← (reachable_consistent reachable).identified.sameIds]
  exact covered

/-- A second call for the same records accepts nothing and rebuilds the same rows. -/
theorem Concluded.replayed {next : ProcessCall} {result again : Summary} {after last : Database}
    (first : Concluded gate call database result after) (reached : ∃ rules, Reachable database rules)
    (second : Concluded gate next after again last) (same : next.records = call.records) :
    last.tables.acceptedEvent = after.tables.acceptedEvent ∧
      last.tables.projection = after.tables.projection := by
  obtain ⟨_, _, decided, _, accepted, _⟩ := second.decided ⟨_, first.reachable⟩
  have kept := (decided.replayed (same ▸ first.seen reached)).2.1
  have stored : last.tables.acceptedEvent = after.tables.acceptedEvent := accepted.trans kept
  have events : last.tables.events = after.tables.events :=
    congrArg (List.map AcceptedRow.event) stored
  exact ⟨stored, by rw [second.projected, first.projected, events]⟩

end Calls

end LedgerFlow.Simulator
