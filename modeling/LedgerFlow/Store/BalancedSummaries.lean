import LedgerFlow.Store.Decisions
import LedgerFlow.Store.PoisonRecords

/-!
# Summaries of balanced ledgers

The ledger of a reachable store is a rebuild under rules whose lines cancel event by event. The
two sums that `summary` fetches may overflow, but where they are fetched they are zero: for any
run identifier, after any calls, a summary that returns reports a balanced ledger.
-/

namespace LedgerFlow

open PyText Grouping Programs Programs.Program

section Balanced

variable {database : Database} {rules : Option PostingRules}

/-- The lines of a rebuild add up to zero, since those of each posted event do. -/
theorem rebuild_total {rules : PostingRules} {accepted : List PaymentEvent}
    (postable : AllPostable rules accepted) :
    ((projectAll rules accepted).ledger.map PostingLine.signedMinor).sum = 0 := by
  rw [ledger_posted, List.map_flatMap, List.flatMap_def, List.sum_flatten, List.map_map]
  refine List.sum_eq_zero fun total listed => ?_
  obtain ⟨event, member, rfl⟩ := List.mem_map.mp listed
  exact postable_balanced (posted_postable postable member)

/-- The sums of a reachable ledger are zero wherever they can be fetched. -/
theorem balance_fetched (reachable : Reachable database rules) :
    (∀ unbalanced, Query.run database .unbalancedGroups = .ok unbalanced → unbalanced = 0) ∧
      ∀ balance, Query.run database .ledgerBalance = .ok balance → balance = 0 := by
  have zero : (database.tables.ledgerEntry.map PostingLine.signedMinor).sum = 0 ∧
      ∀ key, ((group balanceKey key database.tables.ledgerEntry).map
        PostingLine.signedMinor).sum = 0 := by
    have projected := (reachable_consistent reachable).projected
    cases rules with
    | none =>
      have empty : database.tables.ledgerEntry = [] := congrArg Projection.ledger projected.2
      rw [empty]
      exact ⟨rfl, fun _ => rfl⟩
    | some last =>
      have ledger : database.tables.ledgerEntry =
          (projectAll last database.tables.events).ledger :=
        congrArg Projection.ledger projected.2
      rw [ledger]
      exact ⟨rebuild_total projected.1, rebuild_balanced projected.1⟩
  constructor
  · intro unbalanced fetched
    obtain ⟨sums, summed, counted⟩ := bind_ok.mp fetched
    obtain ⟨_, rfl⟩ := group_sums_ok.mp summed
    cases counted
    rw [List.length_eq_zero_iff, List.filter_eq_nil_iff]
    intro entry listed
    obtain ⟨key, _, rfl⟩ := List.mem_map.mp listed
    simp only [ne_eq, decide_not, Bool.not_eq_true', decide_eq_false_iff_not, not_not]
    exact zero.2 key
  · intro balance fetched
    exact (sql_sum_ok.mp fetched).2.trans zero.1

/-- What a summary reports of a balanced ledger. -/
structure ReportsBalanced (result : Summary) : Prop where
  unbalanced : result.unbalancedPostingGroups = 0
  balance : result.ledgerBalanceMinor = 0
  balanced : result.ledgerBalanced = true

/-- A summary of a reachable store fetches zero for both sums: no group is out of balance, and the
whole ledger is not. -/
theorem summary_fetched (reachable : Reachable database rules) {runtime : Runtime} {runId : Str}
    {commits : List CommitPoint} {result : Summary} {after : Store}
    (returned : (summary runtime runId).run.eval perform ⟨database, none, commits⟩ =
      (.ok result, after)) :
    result = summarize runtime runId (fetchedRows runId database 0 0) ∧
      after = ⟨database, none, commits⟩ := by
  obtain ⟨unbalanced, balance, counted, summed, rfl, rfl⟩ := summary_returns.mp returned
  obtain ⟨groups, total⟩ := balance_fetched reachable
  rw [groups unbalanced counted, total balance summed]
  exact ⟨rfl, rfl⟩

/-- A call that returns leaves a reachable store, and its summary fetches zero for both sums. -/
theorem returned_fetched (reachable : Reachable database rules) {gate : Gate} {call : ProcessCall}
    {result : Summary} {after : Store}
    (returned : (process gate call).run.eval perform database.opened = (.ok result, after)) :
    Reachable after.durable (some call.postingRules) ∧
      result = summarize gate.runtime call.runId (fetchedRows call.runId after.durable 0 0) := by
  have run := completed_run gate call database
  rw [completed, returned] at run
  obtain ⟨_, ended, _, summed⟩ := process_returns.mp returned
  obtain ⟨_, _, _, _, _, left⟩ := summary_returns.mp summed
  have reached : Reachable after.durable
      (if .data ∈ after.commits then some call.postingRules else rules) :=
    .process gate call reachable run
  have commits : CommitPoint.data ∈ after.commits := by
    rw [left]
    exact List.mem_cons_of_mem _ List.mem_cons_self
  rw [if_pos commits] at reached
  subst left
  exact ⟨reached, (summary_fetched reached summed).1⟩

/-- Whatever calls came before, every summary that returns reports a balanced ledger, be it asked
for by itself, for any run identifier, or returned by a further call of `process`. -/
theorem summaries_balanced (reachable : Reachable database rules) :
    (∀ runtime runId result after,
      (summary runtime runId).run.eval perform database.opened = (.ok result, after) →
        ReportsBalanced result ∧ after = database.opened) ∧
      ∀ gate call result after,
        (process gate call).run.eval perform database.opened = (.ok result, after) →
          ReportsBalanced result := by
  constructor
  · intro runtime runId result after returned
    obtain ⟨rfl, left⟩ := summary_fetched reachable returned
    exact ⟨⟨rfl, rfl, rfl⟩, left⟩
  · intro gate call result after returned
    obtain ⟨_, rfl⟩ := returned_fetched reachable returned
    exact ⟨rfl, rfl, rfl⟩

end Balanced

/-- The sample store is summarized, and its ledger is balanced. -/
theorem summaries_balanced_sample : ∃ result,
    (summary sampleGate.runtime (str "run-1")).run.eval perform sampleDatabase.opened =
        (.ok result, sampleDatabase.opened) ∧
      ReportsBalanced result := by
  have ok : ((summary sampleGate.runtime (str "run-1")).run.eval perform
      sampleDatabase.opened).1.isOk = true := by
    unfold sampleDatabase
    decide +kernel
  cases returned : (summary sampleGate.runtime (str "run-1")).run.eval perform
      sampleDatabase.opened with
  | mk outcome after =>
    rw [returned] at ok
    cases outcome with
    | error error => cases ok
    | ok result =>
      obtain ⟨balanced, rfl⟩ := (summaries_balanced sample_reachable).1 _ _ _ _ returned
      exact ⟨result, rfl, balanced⟩

end LedgerFlow
