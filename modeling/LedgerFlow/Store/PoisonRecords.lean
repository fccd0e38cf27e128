import LedgerFlow.Store.Conservation
import LedgerFlow.Store.Returns

/-!
# Which batches a call can digest

A batch does not make its call fail exactly when everything the call binds can be
bound, everything it quarantines can be redacted, and everything it sums fits. Validation
turns most defects of a record into a quarantine, but not all: an integer outside 64 bits
passes the contract, the text of a quarantine reason or of a claimed identifier may hold a
lone surrogate, and a refused record may be nested too deep for the recursion that redacts
it. One such record fails the whole call.
-/

namespace LedgerFlow

open PyText PyJson Grouping Programs Programs.Program

/-! ## Running sums of balanced pieces -/

/-- The partial sums of two lists fit where those of the first do, and those of the second on top
of its sum. -/
theorem running_fits_append {total : Int} {first second : List Int} :
    RunningFits total (first ++ second) ↔
      RunningFits total first ∧ RunningFits (total + first.sum) second := by
  induction first generalizing total with
  | nil => simp [RunningFits]
  | cons value rest inductionHypothesis =>
    simp only [List.cons_append, RunningFits, inductionHypothesis, List.sum_cons, Int.add_assoc,
      and_assoc]

/-- Pieces that each add up to zero fit together exactly when each of them fits. -/
theorem running_fits_pieces {Item : Type} {values : Item → List Int} {items : List Item}
    (balanced : ∀ item ∈ items, (values item).sum = 0) :
    RunningFits 0 (items.flatMap values) ↔ ∀ item ∈ items, RunningFits 0 (values item) := by
  induction items with
  | nil => simp [RunningFits]
  | cons item rest inductionHypothesis =>
    rw [List.flatMap_cons, running_fits_append, balanced item List.mem_cons_self, Int.add_zero,
      inductionHypothesis fun other member => balanced other (List.mem_cons_of_mem item member),
      List.forall_mem_cons]

/-! ## The ledger's sums -/

/-- The events of the valid histories, in the order in which a rebuild posts them. -/
def postedEvents (accepted : List PaymentEvent) : List PaymentEvent :=
  (transactionIds accepted).flatMap fun transactionId =>
    if verdict (history accepted transactionId) = none then history accepted transactionId else []

/-- The running sums of every posted event's lines stay within 64 bits. -/
def Summable (rules : PostingRules) (accepted : List PaymentEvent) : Prop :=
  ∀ event ∈ postedEvents accepted, RunningFits 0 ((postings rules event).map PostingLine.signedMinor)

section Sums

variable {rules : PostingRules} {accepted : List PaymentEvent}

/-- The ledger of a rebuild is the lines of the posted events, transaction by transaction. -/
theorem ledger_posted : (projectAll rules accepted).ledger =
    (postedEvents accepted).flatMap (postings rules) := by
  rw [project_all_ledger, postedEvents, List.flatMap_assoc]
  refine List.flatMap_congr fun transactionId _ => ?_
  unfold projection
  cases last : (history accepted transactionId).getLast? with
  | none =>
    rw [List.getLast?_eq_none_iff.mp last]
    split <;> rfl
  | some current =>
    cases verdict (history accepted transactionId) <;> rfl

/-- Each posted event can be posted where all accepted ones can: a posted event is an accepted one
of a valid transaction. -/
theorem posted_postable (postable : AllPostable rules accepted) {event : PaymentEvent}
    (member : event ∈ postedEvents accepted) : Postable rules event := by
  obtain ⟨transactionId, listed, inside⟩ := List.mem_flatMap.mp member
  split at inside
  · rename_i valid
    exact postable transactionId listed valid event inside
  · cases inside

/-- The lines of a postable event add up to zero, as its rule is balanced. -/
theorem postable_balanced {event : PaymentEvent} (postable : Postable rules event) :
    ((postings rules event).map PostingLine.signedMinor).sum = 0 := by
  obtain ⟨⟨entries, ruled, balanced⟩, _⟩ := postable
  rw [postings, numbered_sum, ruled, Option.getD_some, balanced, Int.mul_zero]

/-- The ledger balance can be fetched exactly when the posted events' sums fit. -/
theorem ledger_fits (postable : AllPostable rules accepted) :
    RunningFits 0 ((projectAll rules accepted).ledger.map PostingLine.signedMinor) ↔
      Summable rules accepted := by
  rw [ledger_posted, List.map_flatMap]
  exact running_fits_pieces fun event member => postable_balanced (posted_postable postable member)

/-- Each balance group then fits too: it has the lines of one event, because the key of the group
is the event and its currency. -/
theorem groups_fit (postable : AllPostable rules accepted) (summable : Summable rules accepted)
    (key : Identifier × Currency) :
    RunningFits 0 ((group balanceKey key (projectAll rules accepted).ledger).map
      PostingLine.signedMinor) := by
  have pieces : (group balanceKey key (projectAll rules accepted).ledger).map
      PostingLine.signedMinor = (postedEvents accepted).flatMap fun event =>
        (group balanceKey key (postings rules event)).map PostingLine.signedMinor := by
    rw [ledger_posted, group, List.filter_flatMap, List.map_flatMap]
    rfl
  rw [pieces]
  refine (running_fits_pieces fun event member =>
    balanced_lines (posted_postable postable member) key).mpr fun event member => ?_
  have common {line : PostingLine} (inside : line ∈ postings rules event) :
      balanceKey line = (event.eventId, event.currency) := by
    obtain ⟨sameEvent, _, _, _, sameCurrency, _⟩ := numbered_line inside
    exact Prod.ext sameEvent sameCurrency
  change RunningFits 0 ((group balanceKey key (postings rules event)).map PostingLine.signedMinor)
  by_cases same : (event.eventId, event.currency) = key
  · rw [group_all fun line inside => (common inside).trans same]
    exact summable event member
  · rw [group_nil fun line inside here => same ((common inside).symm.trans here)]
    trivial

/-- The two sums of a summary can be fetched exactly when the posted events' sums fit. -/
theorem sums_fetched {database : Database} (postable : AllPostable rules accepted)
    (ledger : database.tables.ledgerEntry = (projectAll rules accepted).ledger) :
    (∃ unbalanced balance, Query.run database .unbalancedGroups = .ok unbalanced ∧
        Query.run database .ledgerBalance = .ok balance) ↔ Summable rules accepted := by
  have total (balance : Int) : Query.run database .ledgerBalance = .ok balance ↔
      Summable rules accepted ∧ balance = (database.tables.ledgerEntry.map
        PostingLine.signedMinor).sum := by
    rw [← ledger_fits postable, ← ledger]
    exact sql_sum_ok
  constructor
  · rintro ⟨_, balance, _, fetched⟩
    exact ((total balance).mp fetched).1
  · intro summable
    have groups := (@group_sums_ok PostingLine _ _ balanceKey PostingLine.signedMinor
      database.tables.ledgerEntry (database.tables.ledgerEntry.map balanceKey).dedup _).mpr
        ⟨fun key _ => ledger ▸ groups_fit postable summable key, rfl⟩
    obtain ⟨unbalanced, counted⟩ : ∃ number, Query.run database .unbalancedGroups = .ok number :=
      ⟨_, bind_ok.mpr ⟨_, groups, rfl⟩⟩
    exact ⟨unbalanced, _, counted, (total _).mpr ⟨summable, rfl⟩⟩

end Sums

/-! ## Digestible batches -/

/-- The call returns, its run has succeeded, and every record of its batch was counted as
accepted, duplicate or quarantined. -/
def Succeeds (gate : Gate) (call : ProcessCall) (database : Database) : Prop :=
  ∃ result after,
    (process gate call).run.eval perform database.opened = (.ok result, after) ∧
      journalStatus after.durable call.runId = some .succeeded ∧
      result.rawRecords = call.records.length ∧
      result.acceptedNew + result.duplicates + result.quarantined = call.records.length

/-- Everything the call binds can be bound, everything it quarantines can be redacted, and
everything it sums fits. -/
structure Digestible (gate : Gate) (call : ProcessCall) (tables : Tables) : Prop where
  runId : Encodable call.runId
  inputSha256 : Encodable call.inputSha256
  gateable : Gateable gate tables.seenIds call.records
  postable : AllPostable call.postingRules
    (tables.events ++ admitted gate tables.seenIds call.records)
  summable : Summable call.postingRules
    (tables.events ++ admitted gate tables.seenIds call.records)
  countable : Int64 call.records.length

section Call

variable {gate : Gate} {call : ProcessCall} {database : Database}

/-- The outcomes that the summary of a completed run fetches are its counts. -/
theorem completion_outcomes (referenced : Referenced database) (admitted : Admitted database call)
    (identified : Identified database.tables)
    (gateable : Gateable gate database.tables.seenIds call.records) (unbalanced : Nat)
    (balance : Int) :
    (fetchedRows call.runId (completion gate call (journaled database call)) unbalanced
        balance).outcomes =
      spelled ((gateRun gate call.runId call.records [] (journaled database call)).1.insertionSort
        byOutcome) := by
  have ⟨_, same, _⟩ := @gate_run_spec gate call.runId call.records [] (journaled database call)
    identified gateable
  have old : (gateRun gate call.runId call.records [] (journaled database
      call)).2.tables.runOutcome.filter (fun row => row.runId = call.runId) = [] := by
    rw [same.outcomes, List.filter_eq_nil_iff]
    intro row member named
    exact admitted.2.2 (of_decide_eq_true named ▸ referenced row member)
  have new (counts : Counts) : (outcomeRows call.runId counts).filter
      (fun row => row.runId = call.runId) = outcomeRows call.runId counts := by
    rw [List.filter_eq_self]
    intro row member
    obtain ⟨_, _, rfl⟩ := List.mem_map.mp member
    exact decide_eq_true rfl
  have tallied := @gate_run_counts [] 0 0 gate call.runId call.records (journaled database call) _
    gateable tallied_nil
  have sorted := tallied.perm (List.perm_insertionSort byOutcome _).symm
  simp only [fetchedRows, completion, Database.counted, Tables.projected, List.filter_append, old,
    new, List.nil_append]
  rw [outcomeRows, List.map_map]
  exact dictionary_keyed (spelled_keyed sorted.keyed)

/-- A summary of tallied outcomes counts every record: the arrivals are all of them, and the other
three outcomes add up to as many. -/
theorem summarize_tallied {runtime : Runtime} {runId : Str} {rows : SummaryRows} {records : Nat}
    {counts : Counts} (tallied : Tallied counts records records)
    (outcomes : rows.outcomes = spelled counts) :
    (summarize runtime runId rows).rawRecords = records ∧
      (summarize runtime runId rows).acceptedNew + (summarize runtime runId rows).duplicates +
        (summarize runtime runId rows).quarantined = records := by
  have count (outcome : Outcome) (decided : outcome ≠ .quarantined) :
      outcomeCount rows.outcomes (outcomeKey outcome (fixedReason outcome)) =
        picked (ofOutcome outcome) counts := by
    rw [outcomes, spelled_count tallied.keyed, ← tallied.keyed.lookup, tallied.lookup decided]
  have arrivals : (summarize runtime runId rows).rawRecords = picked (ofOutcome .arrival) counts :=
    count .arrival (by decide)
  have accepted : (summarize runtime runId rows).acceptedNew =
      picked (ofOutcome .accepted) counts := count .accepted (by decide)
  have duplicates : (summarize runtime runId rows).duplicates =
      picked (ofOutcome .duplicate) counts := count .duplicate (by decide)
  have quarantined : (summarize runtime runId rows).quarantined =
      picked (ofOutcome .quarantined) counts := by
    rw [← spelled_quarantined, ← outcomes]
    rfl
  rw [arrivals, accepted, duplicates, quarantined, ← picked_classified]
  exact ⟨tallied.arrived, tallied.decided⟩

/-- What a call with a digestible batch returns and leaves, on a reachable store, under a new
run identifier and over records that can all be read. -/
theorem digestible_returns {rules : Option PostingRules} (reachable : Reachable database rules)
    (fresh : call.runId ∉ database.runJournal.map JournalRow.runId)
    (undisturbed : call.failpoint = none) (iterates : call.raises = none)
    (digestible : Digestible gate call database.tables) :
    let ended := completion gate call (journaled database call)
    let left := updateRun call.runId (succeededRow call) ended
    Ran gate call database ended ∧ ∃ unbalanced balance,
      (process gate call).run.eval perform database.opened =
        (.ok (summarize gate.runtime call.runId (fetchedRows call.runId left unbalanced balance)),
          ⟨left, none, [.succeeded, .data, .started]⟩) := by
  obtain ⟨runId, inputSha256, gateable, postable, summable, countable⟩ := digestible
  have identified := (reachable_consistent reachable).identified
  have admitted : Admitted database call := ⟨runId, inputSha256, fresh⟩
  have ran : Ran gate call database (completion gate call (journaled database call)) :=
    (ran_completes identified (reachable_referenced reachable) admitted).mpr
      ⟨⟨iterates, gateable, by simp [undisturbed], postable, by simp [undisturbed], countable⟩,
        rfl⟩
  have events := (@gate_run_spec gate call.runId call.records [] (journaled database call)
    identified gateable).2.2
  have ledger : (updateRun call.runId (succeededRow call)
      (completion gate call (journaled database call))).tables.ledgerEntry = (projectAll
        call.postingRules (gateRun gate call.runId call.records []
          (journaled database call)).2.tables.events).ledger := rfl
  rw [events] at ledger
  obtain ⟨unbalanced, balance, counted, total⟩ := (sums_fetched postable ledger).mpr summable
  exact ⟨ran, unbalanced, balance, process_returns.mpr ⟨admitted, _, ran,
    summary_returns.mpr ⟨unbalanced, balance, counted, total, rfl, rfl⟩⟩⟩

/-- A call without a failpoint, on a reachable store, under a new run identifier and over
records that can all be read, succeeds exactly when its batch is digestible. -/
theorem process_succeeds_iff {rules : Option PostingRules} (reachable : Reachable database rules)
    (fresh : call.runId ∉ database.runJournal.map JournalRow.runId)
    (undisturbed : call.failpoint = none) (iterates : call.raises = none) :
    Succeeds gate call database ↔ Digestible gate call database.tables := by
  have identified := (reachable_consistent reachable).identified
  have referenced := reachable_referenced reachable
  have ledger : (updateRun call.runId (succeededRow call)
      (completion gate call (journaled database call))).tables.ledgerEntry = (projectAll
        call.postingRules (gateRun gate call.runId call.records []
          (journaled database call)).2.tables.events).ledger := rfl
  have events (gateable : Gateable gate database.tables.seenIds call.records) :
      (gateRun gate call.runId call.records [] (journaled database call)).2.tables.events =
        database.tables.events ++ admitted gate database.tables.seenIds call.records :=
    (@gate_run_spec gate call.runId call.records [] (journaled database call) identified
      gateable).2.2
  constructor
  · rintro ⟨result, after, returned, _⟩
    obtain ⟨admitted, ended, ran, summed⟩ := process_returns.mp returned
    obtain ⟨completes, rfl⟩ := (ran_completes identified referenced admitted).mp ran
    obtain ⟨unbalanced, balance, counted, total, _⟩ := summary_returns.mp summed
    rw [events completes.gateable] at ledger
    exact ⟨admitted.1, admitted.2.1, completes.gateable, completes.postable,
      (sums_fetched completes.postable ledger).mp ⟨unbalanced, balance, counted, total⟩,
      completes.countable⟩
  · intro digestible
    have gateable := digestible.gateable
    have admitted : Admitted database call := ⟨digestible.runId, digestible.inputSha256, fresh⟩
    obtain ⟨ran, unbalanced, balance, returned⟩ :=
      digestible_returns reachable fresh undisturbed iterates digestible
    refine ⟨_, _, returned, ?_, ?_⟩
    · have journal := update_run_last (ran_journal ran) admitted.2.2 (succeededRow call)
      exact status_last journal admitted.2.2
    · have outcomes := @completion_outcomes gate call database referenced admitted identified
        gateable unbalanced balance
      have tallied := @gate_run_counts [] 0 0 gate call.runId call.records
        (journaled database call) _ gateable tallied_nil
      rw [Nat.zero_add] at tallied
      exact summarize_tallied (tallied.perm (List.perm_insertionSort byOutcome _).symm) outcomes

end Call

/-- The sample batch is digestible, as its call succeeds. One of its records is quarantined, which
needs no more than its texts and its nesting. -/
theorem process_succeeds_iff_sample :
    Digestible sampleGate (sampleCall "run-1" sampleBatch) emptyDatabase.tables := by
  have status : journalStatus (completed sampleGate (sampleCall "run-1" sampleBatch)
      emptyDatabase).durable (str "run-1") = some .succeeded := by decide +kernel
  have counts : (match ((process sampleGate (sampleCall "run-1" sampleBatch)).run.eval perform
        emptyDatabase.opened).1 with
      | .ok result => decide (result.rawRecords = 2 ∧
          result.acceptedNew + result.duplicates + result.quarantined = 2)
      | .error _ => false) = true := by decide +kernel
  obtain ⟨result, returned⟩ :=
    @returned_of_ok sampleGate (sampleCall "run-1" sampleBatch) emptyDatabase (by decide +kernel)
  rw [returned] at counts
  have counted := of_decide_eq_true counts
  have succeeds : Succeeds sampleGate (sampleCall "run-1" sampleBatch) emptyDatabase :=
    ⟨result, _, returned, status, counted.1, counted.2⟩
  exact (@process_succeeds_iff sampleGate (sampleCall "run-1" sampleBatch) emptyDatabase none
    .empty (by decide) rfl rfl).mp succeeds

/-- The sample batch followed by a capture of 2^63 minor units. -/
def poisonedCall : ProcessCall :=
  sampleCall "run-1" (sampleBatch ++
    [sampleRaw "evt-3" .capture 3 9223372036854775808 "2026-01-01T00:03:00+00:00"])

/-- One contract-valid record of 2^63 minor units fails the whole call: the amount passes the
contract, which has no upper bound, and cannot be bound as an integer of SQLite. -/
theorem poisoned_call_fails :
    32 ≤ sampleGate.tokenKey.length ∧
      loadPostingRules shippedDocument = .ok poisonedCall.postingRules ∧
      Reachable emptyDatabase none ∧
      poisonedCall.runId ∉ emptyDatabase.runJournal.map JournalRow.runId ∧
      poisonedCall.failpoint = none ∧ poisonedCall.raises = none ∧
      ¬ Succeeds sampleGate poisonedCall emptyDatabase := by
  have raises : ((process sampleGate poisonedCall).run.eval perform
      emptyDatabase.opened).1.isOk = false := by decide +kernel
  refine ⟨by decide, shipped_rules_loaded, .empty, by decide, rfl, rfl, ?_⟩
  rintro ⟨result, after, returned, _⟩
  rw [returned] at raises
  cases raises

end LedgerFlow
