import LedgerFlow.Store.Decisions

/-!
# Raw records are conserved

A successful run reports as many raw records as its batch has, and each of them once
more as accepted, duplicate or quarantined. The tables grow by the numbers reported: a
seen and an accepted row for each accepted record, a quarantine row for each
quarantined one, under its reason. Rows are labelled with their run, and no later call
adds rows to the label of a journaled run, so the figures of a run are final.
-/

namespace LedgerFlow

open PyText PyJson Grouping Programs Programs.Program

/-! ## Labels -/

/-- Quarantine rows and seen rows name journaled runs. -/
structure Labelled (database : Database) : Prop where
  quarantined : ∀ row ∈ database.tables.quarantine, row.runId ∈ database.runIds
  seen : ∀ row ∈ database.tables.seenEvent, row.firstRunId ∈ database.runIds

section Labels

variable {gate : Gate} {call : ProcessCall} {before : Database} {after : Tables}

/-- The rows that a completed run appends to the labelled tables name that run. -/
theorem Completed.appended (completed : Completed gate call before after) :
    (∃ rows, after.quarantine = before.tables.quarantine ++ rows ∧
      ∀ row ∈ rows, row.runId = call.runId) ∧
    (∃ rows, after.seenEvent = before.tables.seenEvent ++ rows ∧
      ∀ row ∈ rows, row.firstRunId = call.runId) ∧
    (∃ rows, after.runOutcome = before.tables.runOutcome ++ rows ∧
      ∀ row ∈ rows, row.runId = call.runId) := by
  obtain ⟨decisions, gated, batch, _, seenEvent, _, quarantine, recorded⟩ := completed.decided
  obtain ⟨rejected, sameRejected, _, rejectedRun⟩ := batch.appends.quarantined
  obtain ⟨seen, sameSeen, _, seenRun⟩ := batch.appends.seen
  exact ⟨⟨rejected, quarantine.trans sameRejected, rejectedRun⟩,
    ⟨seen, seenEvent.trans sameSeen, seenRun⟩, ⟨_, recorded, fun _ => outcome_rows_run⟩⟩

/-- In every reachable store the labelled rows name journaled runs.

Proof: by induction on the history. A call labels its rows with its own run identifier, which it
has journaled before. -/
theorem reachable_labelled {database : Database} {rules : Option PostingRules}
    (reachable : Reachable database rules) : Labelled database := by
  induction reachable with
  | empty => exact ⟨nofun, nofun⟩
  | @process database rules after _ gate call earlier run inductionHypothesis =>
    obtain ⟨kept, same | ⟨named, completed⟩⟩ := process_effect earlier run
    · constructor
      · rw [same]
        exact fun row member => kept (inductionHypothesis.quarantined row member)
      · rw [same]
        exact fun row member => kept (inductionHypothesis.seen row member)
    · obtain ⟨⟨rejected, quarantine, rejectedRun⟩, ⟨seen, seenEvent, seenRun⟩, _⟩ :=
        completed.appended
      constructor
      · intro row member
        rw [quarantine] at member
        rcases List.mem_append.mp member with old | new
        · exact kept (inductionHypothesis.quarantined row old)
        · exact rejectedRun row new ▸ named
      · intro row member
        rw [seenEvent] at member
        rcases List.mem_append.mp member with old | new
        · exact kept (inductionHypothesis.seen row old)
        · exact seenRun row new ▸ named
  | reconcile actual _ run inductionHypothesis =>
    have core := reconcile_core run
    have ids := congrArg (fun database => database.runIds) core
    have quarantine := congrArg (fun database => database.tables.quarantine) core
    have seenEvent := congrArg (fun database => database.tables.seenEvent) core
    constructor
    · intro row member
      exact ids ▸ inductionHypothesis.quarantined row (quarantine ▸ member)
    · intro row member
      exact ids ▸ inductionHypothesis.seen row (seenEvent ▸ member)

end Labels

/-! ## Later calls -/

/-- The databases that any further calls leave, each call abandoned at any point or run
to its end, with any errors on the way. -/
inductive Later (first : Database) : Database → Prop
  | here : Later first first
  | process {database : Database} {after : Store}
      {rest : Program SqlCall (Answer PyError SqlCall.Rows) (Except PyError Summary)}
      (gate : Gate) (call : ProcessCall) (earlier : Later first database)
      (run : Runs storeEffect (database.opened, (process gate call).run) (after, rest)) :
      Later first after.durable
  | reconcile {database : Database} {after : Store}
      {rest : Program SqlCall (Answer PyError SqlCall.Rows) (Except PyError Reconciliation)}
      (actual : List (Py SettlementRow)) (earlier : Later first database)
      (run : Runs storeEffect (database.opened, (reconcileSettlement actual).run) (after, rest)) :
      Later first after.durable

/-- What later calls leave of a reachable store is reachable, so its invariants hold again. -/
theorem Later.reachable {first last : Database} {rules : Option PostingRules}
    (reachable : Reachable first rules) (later : Later first last) :
    ∃ lastRules, Reachable last lastRules := by
  induction later with
  | here => exact ⟨rules, reachable⟩
  | process gate call _ run inductionHypothesis =>
    obtain ⟨_, earlier⟩ := inductionHypothesis
    exact ⟨_, .process gate call earlier run⟩
  | reconcile actual _ run inductionHypothesis =>
    obtain ⟨_, earlier⟩ := inductionHypothesis
    exact ⟨_, .reconcile actual earlier run⟩

/-- The rows of a run are the same. -/
structure SameRun (runId : Str) (before after : Tables) : Prop where
  outcomes : after.runOutcome.filter (fun row => row.runId = runId) =
    before.runOutcome.filter fun row => row.runId = runId
  quarantined : after.quarantine.filter (fun row => row.runId = runId) =
    before.quarantine.filter fun row => row.runId = runId
  seen : after.seenEvent.filter (fun row => row.firstRunId = runId) =
    before.seenEvent.filter fun row => row.firstRunId = runId

/-- Rows with another label are not among the rows with this one, so appending them changes
nothing there. -/
theorem filter_append_other {Row : Type} {label : Row → Str} {runId other : Str}
    {after before rows : List Row} (appended : after = before ++ rows)
    (labelled : ∀ row ∈ rows, label row = other) (apart : other ≠ runId) :
    after.filter (fun row => label row = runId) = before.filter fun row => label row = runId := by
  have none : rows.filter (fun row => label row = runId) = [] := by
    rw [List.filter_eq_nil_iff]
    intro row member same
    exact apart ((labelled row member).symm.trans (of_decide_eq_true same))
  rw [appended, List.filter_append, none, List.append_nil]

/-- Later calls leave the rows of a journaled run alone.

Proof: a later call has another run identifier, since the journal admits each once; so the rows
that it appends carry another label. -/
theorem Later.same_run {first last : Database} {rules : Option PostingRules} {runId : Str}
    (reachable : Reachable first rules) (named : runId ∈ first.runIds) (later : Later first last) :
    runId ∈ last.runIds ∧ SameRun runId first.tables last.tables := by
  induction later with
  | here => exact ⟨named, rfl, rfl, rfl⟩
  | @process database after _ gate call earlier run inductionHypothesis =>
    obtain ⟨still, same⟩ := inductionHypothesis
    obtain ⟨_, reached⟩ := earlier.reachable reachable
    obtain ⟨kept, tables | ⟨_, completed⟩⟩ := process_effect reached run
    · exact ⟨kept still, tables ▸ same⟩
    · have apart : call.runId ≠ runId := fun wrong => completed.fresh (wrong ▸ still)
      obtain ⟨⟨_, quarantine, rejectedRun⟩, ⟨_, seenEvent, seenRun⟩, _, outcomes, outcomeRun⟩ :=
        completed.appended
      exact ⟨kept still, (filter_append_other outcomes outcomeRun apart).trans same.outcomes,
        (filter_append_other quarantine rejectedRun apart).trans same.quarantined,
        (filter_append_other seenEvent seenRun apart).trans same.seen⟩
  | @reconcile database after _ actual _ run inductionHypothesis =>
    obtain ⟨still, same⟩ := inductionHypothesis
    have core := reconcile_core run
    have ids : after.durable.runIds = database.runIds :=
      congrArg (fun database => database.runIds) core
    have outcomes : after.durable.tables.runOutcome = database.tables.runOutcome :=
      congrArg (fun database => database.tables.runOutcome) core
    have quarantine : after.durable.tables.quarantine = database.tables.quarantine :=
      congrArg (fun database => database.tables.quarantine) core
    have seenEvent : after.durable.tables.seenEvent = database.tables.seenEvent :=
      congrArg (fun database => database.tables.seenEvent) core
    refine ⟨ids ▸ still, ?_, ?_, ?_⟩
    · rw [outcomes]
      exact same.outcomes
    · rw [quarantine]
      exact same.quarantined
    · rw [seenEvent]
      exact same.seen

/-! ## Conservation -/

/-- The count recorded for an outcome and a reason of a run. -/
def Tables.recorded (tables : Tables) (runId : Str) (outcome : Outcome) (reason : Str) : Int :=
  ((tables.runOutcome.filter fun row => row.runId = runId ∧ row.outcome = outcome ∧
    row.reason = reason).map OutcomeRow.recordCount).sum

/-- The quarantine rows of a run with a reason. -/
def Tables.quarantinedFor (tables : Tables) (runId reason : Str) : List QuarantineRow :=
  tables.quarantine.filter fun row => row.runId = runId ∧ row.reason = reason

/-- The raw records of a run are accounted for by its decisions, its report and the rows
it appends. -/
structure RawConserved (call : ProcessCall) (decisions : List (Outcome × Str))
    (before after : Tables) (result : Summary) : Prop where
  decided : ∀ outcome reason, outcome ≠ .arrival →
    after.recorded call.runId outcome reason = decisions.count (outcome, reason)
  raw : result.rawRecords = call.records.length
  split : result.rawRecords = result.acceptedNew + result.duplicates + result.quarantined
  accepted : ∃ rows, after.acceptedEvent = before.acceptedEvent ++ rows ∧
    rows.length = result.acceptedNew
  seen : ∃ rows, after.seenEvent = before.seenEvent ++ rows ∧ rows.length = result.acceptedNew
  quarantined : ∃ rows, after.quarantine = before.quarantine ++ rows ∧
    rows.length = result.quarantined
  reasons : ∀ reason, after.recorded call.runId .quarantined reason =
    (after.quarantinedFor call.runId reason).length

/-- A report has the figures of another. -/
structure SameFigures (first second : Summary) : Prop where
  rawRecords : second.rawRecords = first.rawRecords
  acceptedNew : second.acceptedNew = first.acceptedNew
  duplicates : second.duplicates = first.duplicates
  quarantined : second.quarantined = first.quarantined
  rawReconciled : second.rawReconciled = first.rawReconciled
  outcomes : second.outcomes = first.outcomes

/-- The recorded count of a run with these outcome rows is the number of its decisions of that
outcome and reason. -/
theorem recorded_count {tables : Tables} {runId reason : Str} {outcome : Outcome}
    {decisions : List (Outcome × Str)} (decided : outcome ≠ .arrival)
    (recorded : tables.runOutcome.filter (fun row => row.runId = runId) =
      outcomeRows runId (tally decisions [])) :
    tables.recorded runId outcome reason = decisions.count (outcome, reason) := by
  have narrowed : (tables.runOutcome.filter fun row => row.runId = runId ∧ row.outcome = outcome ∧
      row.reason = reason) = (outcomeRows runId (tally decisions [])).filter
        fun row => row.outcome = outcome ∧ row.reason = reason := by
    rw [← recorded, List.filter_filter]
    refine List.filter_congr fun row _ => ?_
    rw [← Bool.decide_and]
    exact decide_eq_decide.mpr ⟨fun ⟨run, rest⟩ => ⟨rest, run⟩, fun ⟨rest, run⟩ => ⟨run, rest⟩⟩
  have sums : ∀ counts : Counts, (((counts.map fun entry =>
      (⟨runId, entry.1.1, entry.1.2, entry.2⟩ : OutcomeRow)).filter fun row =>
        row.outcome = outcome ∧ row.reason = reason).map OutcomeRow.recordCount).sum =
      picked (fun key => key = (outcome, reason)) counts := by
    intro counts
    rw [List.filter_map, List.map_map, picked, selected]
    refine congrArg (fun kept => (List.map Prod.snd kept).sum) (List.filter_congr fun entry _ => ?_)
    exact decide_eq_decide.mpr (@Prod.ext_iff _ _ entry.1 (outcome, reason)).symm
  have apart : decide ((Outcome.arrival, str "raw_record_read") = (outcome, reason)) = false :=
    decide_eq_false fun same => decided (Prod.mk.inj same).1.symm
  rw [Tables.recorded, narrowed, outcomeRows, sums,
    picked_perm (List.perm_insertionSort byOutcome (tally decisions [])),
    picked_decisions apart, List.count_eq_countP]
  simp only [beq_eq_decide]

/-- The quarantine rows of a run, reason by reason, are as many as its decisions to quarantine for
that reason. -/
theorem quarantined_for_count {call : ProcessCall} {before : Database} {after : Tables}
    {rows : List QuarantineRow} {decisions : List (Outcome × Str)} (labelled : Labelled before)
    (fresh : call.runId ∉ before.runIds) (appended : after.quarantine =
      before.tables.quarantine ++ rows)
    (reasons : rows.map QuarantineRow.reason =
      (decisions.filter fun decision => decision.1 = .quarantined).map Prod.snd)
    (named : ∀ row ∈ rows, row.runId = call.runId) (reason : Str) :
    (after.quarantinedFor call.runId reason).length = decisions.count (.quarantined, reason) := by
  have old : (before.tables.quarantine.filter fun row =>
      row.runId = call.runId ∧ row.reason = reason) = [] := by
    rw [List.filter_eq_nil_iff]
    intro row member same
    exact fresh ((of_decide_eq_true same).1 ▸ labelled.quarantined row member)
  have new : (rows.filter fun row => row.runId = call.runId ∧ row.reason = reason) =
      rows.filter fun row => row.reason = reason :=
    List.filter_congr fun row member => by simp [named row member]
  have count : (rows.filter fun row => row.reason = reason).length =
      (rows.map QuarantineRow.reason).countP fun given => given = reason := by
    rw [List.countP_map, ← List.countP_eq_length_filter]
    rfl
  rw [Tables.quarantinedFor, appended, List.filter_append, old, new, List.nil_append, count,
    reasons, List.countP_map, List.countP_filter, List.count_eq_countP]
  refine List.countP_congr fun decision _ => ?_
  rw [beq_iff_eq, Prod.ext_iff]
  simp [and_comm]

/-- Raw conservation. On a reachable store, a successful call decides each record of its
batch in exactly one way; its report, the rows it appends and the recorded counts agree
with these decisions, in total and reason by reason; and whatever calls are made later,
the rows of the run and its figures stay as they are. -/
theorem raw_records_conserved {gate : Gate} {call : ProcessCall} {database : Database}
    {rules : Option PostingRules} {result : Summary} {after : Store}
    (reachable : Reachable database rules)
    (returned : (process gate call).run.eval perform database.opened = (.ok result, after)) :
    (∃ decisions gated,
      Decisions gate call.runId call.records (journaled database call) decisions gated ∧
      decisions.length = call.records.length ∧
      RawConserved call decisions database.tables after.durable.tables result) ∧
    ∀ last, Later after.durable last → SameRun call.runId after.durable.tables last.tables ∧
      ∀ runtime report closed,
        (summary runtime call.runId).run.eval perform last.opened = (.ok report, closed) →
          SameFigures result report := by
  obtain ⟨completed, _, named, unbalanced, balance, rfl⟩ := returned_completed reachable returned
  constructor
  · obtain ⟨decisions, gated, batch, tallied, seenEvent, acceptedEvent, quarantine, recorded⟩ :=
      completed.decided
    rw [← batch.length] at tallied
    have rows := completed_recorded reachable completed.fresh recorded
    have reports := @summarize_reports gate.runtime call.runId after.durable unbalanced balance
      decisions tallied rows
    obtain ⟨seen, sameSeen, seenCount, _⟩ := batch.appends.seen
    obtain ⟨accepted, sameAccepted, acceptedCount⟩ := batch.appends.accepted
    obtain ⟨rejected, sameRejected, reasons, rejectedRun⟩ := batch.appends.quarantined
    have rejectedCount : rejected.length =
        decisions.countP fun decision => decision.1 = .quarantined := by
      have lengths := congrArg List.length reasons
      rw [List.length_map, List.length_map, ← List.countP_eq_length_filter] at lengths
      exact lengths
    have classes := picked_classified (tally decisions [])
    rw [tallied.decided, picked_decisions rfl, picked_decisions rfl, picked_decisions rfl]
      at classes
    refine ⟨decisions, gated, batch, batch.length, ?_⟩
    constructor
    · exact fun outcome reason decided => recorded_count decided rows
    · rw [reports.rawRecords, batch.length]
    · rw [reports.rawRecords, reports.acceptedNew, reports.duplicates, reports.quarantined]
      exact classes
    · refine ⟨accepted, acceptedEvent.trans sameAccepted, ?_⟩
      rw [reports.acceptedNew, acceptedCount]
    · refine ⟨seen, seenEvent.trans sameSeen, ?_⟩
      rw [reports.acceptedNew, seenCount]
    · refine ⟨rejected, quarantine.trans sameRejected, ?_⟩
      rw [reports.quarantined, rejectedCount]
    · intro reason
      rw [recorded_count (by decide) rows, quarantined_for_count (reachable_labelled reachable)
        completed.fresh (quarantine.trans sameRejected) reasons rejectedRun]
  · intro last later
    have run := eval_undisturbed (process gate call) database.opened
    rw [returned] at run
    have same := (later.same_run (.process gate call reachable run) named).2
    refine ⟨same, fun runtime report closed summed => ?_⟩
    obtain ⟨_, _, _, _, rfl, _⟩ := summary_returns.mp summed
    have outcomes (number : Nat) (sum : Int) : (fetchedRows call.runId last number sum).outcomes =
        (fetchedRows call.runId after.durable unbalanced balance).outcomes :=
      congrArg (fun rows : List OutcomeRow => dictionary (rows.map outcomeItem)) same.outcomes
    constructor <;> simp only [summarize, outcomes]

/-- The sample batch is accounted for, and stays so whatever is called later. -/
theorem raw_records_conserved_sample :
    ∃ result, ∀ last, Later sampleDatabase last →
      SameRun (str "run-1") sampleDatabase.tables last.tables ∧
        ∀ runtime report closed,
          (summary runtime (str "run-1")).run.eval perform last.opened = (.ok report, closed) →
            SameFigures result report := by
  obtain ⟨result, returned⟩ :=
    @returned_of_ok sampleGate (sampleCall "run-1" sampleBatch) emptyDatabase (by decide +kernel)
  unfold sampleDatabase
  exact ⟨result, (raw_records_conserved .empty returned).2⟩

end LedgerFlow
