import LedgerFlow.Store.Invariant
import LedgerFlow.Store.Returns

/-!
# How a batch is decided

Every raw event that does not fail its run is decided in one of four ways: its event is
accepted, it repeats a known event, it conflicts with one, or it breaks the contract.
`Decided` is this case distinction, with the rows each case appends, and `Decisions` is
its chain along a batch. The counts of a run are the tally of its decisions, and the
identity and quarantine tables grow by exactly the rows that the decisions append.

`process_effect` says what any run, complete or abandoned, does to the tables: nothing,
or what the completed run does.
-/

namespace LedgerFlow

open PyText PyJson Grouping Programs Programs.Program

/-! ## One record -/

/-- How a raw event is decided, and the database that this leaves. -/
inductive Decided (gate : Gate) (runId : Str) (raw : Fields) (database : Database) :
    Outcome × Str → Database → Prop
  | accepted (event : PaymentEvent)
      (valid : validateEvent gate.runtime gate.registry gate.tokenKey raw = .ok event)
      (fresh : event.eventId ∉ database.tables.seenIds) :
      Decided gate runId raw database (.accepted, str "contract_and_identity_passed")
        (database.accepting runId event (identityFingerprint gate.runtime raw))
  | duplicate (event : PaymentEvent)
      (valid : validateEvent gate.runtime gate.registry gate.tokenKey raw = .ok event)
      (replayed : database.tables.identityOf event.eventId =
        some (identityFingerprint gate.runtime raw)) :
      Decided gate runId raw database (.duplicate, str "exact_event_replay") database
  | conflict (event : PaymentEvent) (stored : AsciiText)
      (valid : validateEvent gate.runtime gate.registry gate.tokenKey raw = .ok event)
      (known : database.tables.identityOf event.eventId = some stored)
      (other : stored ≠ identityFingerprint gate.runtime raw) :
      Decided gate runId raw database (.quarantined, conflictReason)
        (database.quarantined runId (some event.eventId.1) conflictReason
          (redactedPayload gate.runtime raw))
  | invalid (error : PyError)
      (invalid : validateEvent gate.runtime gate.registry gate.tokenKey raw = .error error) :
      Decided gate runId raw database (.quarantined, error.text)
        (database.quarantined runId (claimedEventId raw) error.text
          (redactedPayload gate.runtime raw))

/-- A step decides its record, and counts the decision.

Proof: one case for each of accepted, replayed, conflicting and refused, which are those of the
definition. -/
theorem gate_step_decided (gate : Gate) (runId : Str) (raw : Fields) (counts : Counts)
    (database : Database) : ∃ outcome reason after,
      gateStep gate runId raw counts database = (countOne outcome reason counts, after) ∧
        Decided gate runId raw database (outcome, reason) after := by
  cases valid : validateEvent gate.runtime gate.registry gate.tokenKey raw with
  | error error => exact ⟨_, _, _, gate_step_invalid valid, .invalid error valid⟩
  | ok event =>
    cases stored : database.tables.identityOf event.eventId with
    | none =>
      exact ⟨_, _, _, gate_step_fresh valid stored,
        .accepted event valid (identity_of_none.mp stored)⟩
    | some fingerprint =>
      rw [gate_step_known valid stored]
      by_cases same : fingerprint = identityFingerprint gate.runtime raw
      · rw [if_pos same]
        exact ⟨_, _, _, rfl, .duplicate event valid (same ▸ stored)⟩
      · rw [if_neg same]
        exact ⟨_, _, _, rfl, .conflict event fingerprint valid stored same⟩

/-- The columns of a quarantine row but its number. -/
def QuarantineRow.contents (row : QuarantineRow) : Str × Option Str × Str × Str :=
  (row.runId, row.eventId, row.reason, row.redactedPayload)

/-- The rows that one decision appends: a seen and an accepted row, or a quarantine row,
or none. -/
structure Appends (runId : Str) (before after : Tables) (decisions : List (Outcome × Str)) :
    Prop where
  seen : ∃ rows, after.seenEvent = before.seenEvent ++ rows ∧
    rows.length = decisions.countP (fun decision => decision.1 = .accepted) ∧
    ∀ row ∈ rows, row.firstRunId = runId
  accepted : ∃ rows, after.acceptedEvent = before.acceptedEvent ++ rows ∧
    rows.length = decisions.countP (fun decision => decision.1 = .accepted)
  quarantined : ∃ rows, after.quarantine = before.quarantine ++ rows ∧
    rows.map QuarantineRow.reason =
      (decisions.filter fun decision => decision.1 = .quarantined).map Prod.snd ∧
    ∀ row ∈ rows, row.runId = runId

/-- A batch without decisions appends no rows. -/
theorem appends_nil (runId : Str) (tables : Tables) : Appends runId tables tables [] :=
  ⟨⟨[], by simp⟩, ⟨[], by simp⟩, ⟨[], by simp⟩⟩

/-- What two batches of decisions append is what their concatenation appends, table by table. -/
theorem Appends.trans {runId : Str} {first second third : Tables}
    {earlier later : List (Outcome × Str)} (left : Appends runId first second earlier)
    (right : Appends runId second third later) : Appends runId first third (earlier ++ later) := by
  obtain ⟨seen, sameSeen, seenCount, seenRun⟩ := left.seen
  obtain ⟨moreSeen, sameMore, moreCount, moreRun⟩ := right.seen
  obtain ⟨accepted, sameAccepted, acceptedCount⟩ := left.accepted
  obtain ⟨moreAccepted, sameMoreAccepted, moreAcceptedCount⟩ := right.accepted
  obtain ⟨rejected, sameRejected, reasons, rejectedRun⟩ := left.quarantined
  obtain ⟨moreRejected, sameMoreRejected, moreReasons, moreRejectedRun⟩ := right.quarantined
  constructor
  · refine ⟨seen ++ moreSeen, by rw [sameMore, sameSeen, List.append_assoc], ?_, ?_⟩
    · rw [List.length_append, List.countP_append, seenCount, moreCount]
    · exact fun row member => (List.mem_append.mp member).elim (seenRun row) (moreRun row)
  · refine ⟨accepted ++ moreAccepted, by rw [sameMoreAccepted, sameAccepted, List.append_assoc], ?_⟩
    rw [List.length_append, List.countP_append, acceptedCount, moreAcceptedCount]
  · refine ⟨rejected ++ moreRejected, by rw [sameMoreRejected, sameRejected, List.append_assoc],
      ?_, ?_⟩
    · rw [List.map_append, reasons, moreReasons, List.filter_append, List.map_append]
    · exact fun row member => (List.mem_append.mp member).elim (rejectedRun row) (moreRejectedRun row)

section OneRecord

variable {gate : Gate} {runId : Str} {raw : Fields} {database after : Database}
variable {decision : Outcome × Str}

/-- One decision appends the rows of its case: an accepted event in two tables, a quarantine in
one, a replay none. -/
theorem Decided.appends (decided : Decided gate runId raw database decision after) :
    Appends runId database.tables after.tables [decision] := by
  cases decided with
  | accepted event =>
    exact ⟨⟨_, rfl, rfl, by simp⟩, ⟨_, rfl, rfl⟩, ⟨[], by simp [Database.accepting]⟩⟩
  | duplicate event => exact ⟨⟨[], by simp⟩, ⟨[], by simp⟩, ⟨[], by simp⟩⟩
  | conflict event | invalid error =>
    exact ⟨⟨[], by simp [Database.quarantined]⟩, ⟨[], by simp [Database.quarantined]⟩,
      ⟨_, rfl, rfl, by simp⟩⟩

/-- No record is decided to be an arrival, and all but quarantines have one reason. -/
theorem Decided.fixed (decided : Decided gate runId raw database decision after) :
    decision.1 ≠ .arrival ∧
      (decision.1 ≠ .quarantined → decision.2 = fixedReason decision.1) := by
  cases decided with
  | accepted event | duplicate event => exact ⟨nofun, fun _ => rfl⟩
  | conflict event | invalid error => exact ⟨nofun, fun other => absurd rfl other⟩

end OneRecord

/-! ## Batches -/

/-- How the raw events of a batch are decided one after the other, and what this leaves. -/
inductive Decisions (gate : Gate) (runId : Str) :
    List Fields → Database → List (Outcome × Str) → Database → Prop
  | nil (database : Database) : Decisions gate runId [] database [] database
  | cons {raw : Fields} {rest : List Fields} {database middle after : Database}
      {decision : Outcome × Str} {decisions : List (Outcome × Str)}
      (decided : Decided gate runId raw database decision middle)
      (later : Decisions gate runId rest middle decisions after) :
      Decisions gate runId (raw :: rest) database (decision :: decisions) after

/-- Count an arrival and an outcome for each decision. -/
def tally : List (Outcome × Str) → Counts → Counts
  | [], counts => counts
  | decision :: rest, counts =>
      tally rest
        (countOne decision.1 decision.2 (countOne .arrival (str "raw_record_read") counts))

/-- The loop over the raw events decides each of them and tallies the decisions. -/
theorem gate_run_decided (gate : Gate) (runId : Str) (records : List Fields) (counts : Counts)
    (database : Database) : ∃ decisions,
      Decisions gate runId records database decisions
          (gateRun gate runId records counts database).2 ∧
        (gateRun gate runId records counts database).1 = tally decisions counts := by
  induction records generalizing counts database with
  | nil => exact ⟨[], .nil database, rfl⟩
  | cons raw rest inductionHypothesis =>
    obtain ⟨outcome, reason, after, step, decided⟩ := gate_step_decided gate runId raw
      (countOne .arrival (str "raw_record_read") counts) database
    rw [gateRun, step]
    obtain ⟨decisions, later, counted⟩ := inductionHypothesis
      (countOne outcome reason (countOne .arrival (str "raw_record_read") counts)) after
    exact ⟨(outcome, reason) :: decisions, .cons decided later, counted⟩

section Batches

variable {gate : Gate} {runId : Str} {records : List Fields} {database after : Database}
variable {decisions : List (Outcome × Str)}

/-- Each record has one decision, so no record is decided twice or lost. -/
theorem Decisions.length (batch : Decisions gate runId records database decisions after) :
    decisions.length = records.length := by
  induction batch with
  | nil database => rfl
  | cons _ _ inductionHypothesis => rw [List.length_cons, List.length_cons, inductionHypothesis]

/-- A batch appends the rows of its decisions, by induction on the batch. -/
theorem Decisions.appends (batch : Decisions gate runId records database decisions after) :
    Appends runId database.tables after.tables decisions := by
  induction batch with
  | nil database => exact appends_nil runId database.tables
  | cons decided _ inductionHypothesis => exact decided.appends.trans inductionHypothesis

/-- No decision of a batch is an arrival, and all but quarantines have one reason. -/
theorem Decisions.fixed (batch : Decisions gate runId records database decisions after) :
    ∀ decision ∈ decisions, decision.1 ≠ .arrival ∧
      (decision.1 ≠ .quarantined → decision.2 = fixedReason decision.1) := by
  induction batch with
  | nil database => exact nofun
  | cons decided _ inductionHypothesis =>
    exact List.forall_mem_cons.mpr ⟨decided.fixed, inductionHypothesis⟩

end Batches

/-- What a tally holds under the picked keys: what it held before, the decisions that are picked,
and the arrivals if these are. -/
theorem picked_tally (picks : Outcome × Str → Bool) (decisions : List (Outcome × Str))
    (counts : Counts) :
    picked picks (tally decisions counts) = picked picks counts + decisions.countP picks +
      if picks (.arrival, str "raw_record_read") then decisions.length else 0 := by
  induction decisions generalizing counts with
  | nil => simp [tally]
  | cons decision rest inductionHypothesis =>
    rw [tally, inductionHypothesis, countOne, picked_accumulate, countOne, picked_accumulate,
      List.countP_cons, List.length_cons]
    split <;> split <;> push_cast <;> omega

/-- The tally of a new run, under the picked outcomes of its decisions. -/
theorem picked_decisions {picks : Outcome × Str → Bool}
    (decided : picks (.arrival, str "raw_record_read") = false) (decisions : List (Outcome × Str)) :
    picked picks (tally decisions []) = decisions.countP picks := by
  rw [picked_tally, decided]
  simp [picked, selected]

/-! ## Whole runs -/

section Runs

variable {gate : Gate} {call : ProcessCall} {database : Database} {rules : Option PostingRules}

/-- The identifiers of the journaled runs. -/
def Database.runIds (database : Database) : List Str := database.runJournal.map JournalRow.runId

/-- A completed run: its batch decided, its counts recorded and its projections rebuilt. -/
structure Completed (gate : Gate) (call : ProcessCall) (before : Database) (after : Tables) :
    Prop where
  fresh : call.runId ∉ before.runIds
  completes : Completes gate call before.tables
  decided : ∃ decisions gated, Decisions gate call.runId call.records (journaled before call)
      decisions gated ∧
    Tallied (tally decisions []) call.records.length call.records.length ∧
    after.seenEvent = gated.tables.seenEvent ∧
    after.acceptedEvent = gated.tables.acceptedEvent ∧
    after.quarantine = gated.tables.quarantine ∧
    after.runOutcome = before.tables.runOutcome ++ outcomeRows call.runId (tally decisions [])

/-- What a completion leaves: a decision for each record, the rows that these append, a tally, and
the outcome rows that spell it. -/
theorem completion_completed (reachable : Reachable database rules)
    (admitted : Admitted database call) (completes : Completes gate call database.tables) :
    Completed gate call database (completion gate call (journaled database call)).tables := by
  have identified := (reachable_consistent reachable).identified
  obtain ⟨decisions, decided, counted⟩ :=
    gate_run_decided gate call.runId call.records [] (journaled database call)
  have ⟨_, same, _⟩ := @gate_run_spec gate call.runId call.records [] (journaled database call)
    identified completes.gateable
  have tallied := @gate_run_counts [] 0 0 gate call.runId call.records (journaled database call) _
    completes.gateable tallied_nil
  rw [counted, Nat.zero_add] at tallied
  refine ⟨admitted.2.2, completes, decisions, _, decided, tallied, rfl, rfl, rfl, ?_⟩
  rw [← counted]
  exact congrArg (· ++ outcomeRows call.runId _) same.outcomes

/-- Whatever becomes of a run, the journal keeps its identifiers, and the tables are as
before or those of the completed run. -/
theorem process_effect {after : Store}
    {rest : Program SqlCall (Answer PyError SqlCall.Rows) (Except PyError Summary)}
    (reachable : Reachable database rules)
    (run : Runs storeEffect (database.opened, (process gate call).run) (after, rest)) :
    database.runIds ⊆ after.durable.runIds ∧
      (after.durable.tables = database.tables ∨
        call.runId ∈ after.durable.runIds ∧
          Completed gate call database after.durable.tables) := by
  have identified := (reachable_consistent reachable).identified
  have started : (journaled database call).runIds = database.runIds ++ [call.runId] := by
    simp [Database.runIds, journaled, startedRow]
  have updated (change : JournalRow → JournalRow) (keeps : ∀ row, (change row).runId = row.runId)
      (file : Database) : (updateRun call.runId change file).runIds = file.runIds :=
    update_run_ids call.runId change keeps file
  have ran {ended : Database} (admitted : Admitted database call)
      (meaning : Ran gate call database ended) : ended.runIds = database.runIds ++ [call.runId] ∧
        Completed gate call database ended.tables := by
    obtain ⟨completes, same⟩ :=
      (ran_completes identified (reachable_referenced reachable) admitted).mp meaning
    refine ⟨?_, same ▸ completion_completed reachable admitted completes⟩
    rw [Database.runIds, ran_journal meaning]
    simp [Database.runIds, startedRow]
  have phase := process_phase run
  generalize after.durable = ended at phase
  generalize after.commits = points at phase
  cases phase with
  | untouched => exact ⟨fun _ member => member, .inl rfl⟩
  | started => exact ⟨started ▸ List.subset_append_left _ _, .inl rfl⟩
  | failed _ reason =>
    rw [updated (failedRow call reason) fun _ => rfl]
    exact ⟨started ▸ List.subset_append_left _ _, .inl rfl⟩
  | committed admitted meaning =>
    obtain ⟨ids, completed⟩ := ran admitted meaning
    exact ⟨ids ▸ List.subset_append_left _ _, .inr ⟨ids ▸ by simp, completed⟩⟩
  | succeeded admitted meaning =>
    obtain ⟨ids, completed⟩ := ran admitted meaning
    rw [updated (succeededRow call) fun _ => rfl]
    exact ⟨ids ▸ List.subset_append_left _ _, .inr ⟨ids ▸ by simp, completed⟩⟩

/-- The outcome rows of a run carry its run identifier, and so are unlike those of other runs. -/
theorem outcome_rows_run {runId : Str} {counts : Counts} {row : OutcomeRow}
    (member : row ∈ outcomeRows runId counts) : row.runId = runId := by
  obtain ⟨_, _, rfl⟩ := List.mem_map.mp member
  rfl

/-- The outcome rows of a completed run are those of its tally, and stand alone under its run
identifier, which is new. -/
theorem completed_recorded {tables : Tables} {decisions : List (Outcome × Str)}
    (reachable : Reachable database rules) (fresh : call.runId ∉ database.runIds)
    (recorded : tables.runOutcome =
      database.tables.runOutcome ++ outcomeRows call.runId (tally decisions [])) :
    tables.runOutcome.filter (fun row => row.runId = call.runId) =
      outcomeRows call.runId (tally decisions []) := by
  have old : database.tables.runOutcome.filter (fun row => row.runId = call.runId) = [] := by
    rw [List.filter_eq_nil_iff]
    intro row member named
    exact fresh (of_decide_eq_true named ▸ reachable_referenced reachable row member)
  have new : (outcomeRows call.runId (tally decisions [])).filter
      (fun row => row.runId = call.runId) = outcomeRows call.runId (tally decisions []) := by
    rw [List.filter_eq_self]
    intro row member
    exact decide_eq_true (outcome_rows_run member)
  rw [recorded, List.filter_append, old, new, List.nil_append]

/-- What a summary reports of the decisions of its run. -/
structure Reports (result : Summary) (decisions : List (Outcome × Str)) : Prop where
  rawRecords : result.rawRecords = decisions.length
  acceptedNew : result.acceptedNew = decisions.countP fun decision => decision.1 = .accepted
  duplicates : result.duplicates = decisions.countP fun decision => decision.1 = .duplicate
  quarantined : result.quarantined = decisions.countP fun decision => decision.1 = .quarantined
  outcomes : ∀ outcome reason, outcome ≠ .arrival →
    outcomeCount result.outcomes (outcomeKey outcome reason) = decisions.count (outcome, reason)

/-- A summary that fetches the outcome rows of a run reports the decisions of that run. -/
theorem summarize_reports {runtime : Runtime} {runId : Str} {file : Database} {unbalanced : Nat}
    {balance : Int} {decisions : List (Outcome × Str)}
    (tallied : Tallied (tally decisions []) decisions.length decisions.length)
    (recorded : file.tables.runOutcome.filter (fun row => row.runId = runId) =
      outcomeRows runId (tally decisions [])) :
    Reports (summarize runtime runId (fetchedRows runId file unbalanced balance)) decisions := by
  have order := List.perm_insertionSort byOutcome (tally decisions [])
  have sorted := tallied.perm order.symm
  have spelledRows : (fetchedRows runId file unbalanced balance).outcomes =
      spelled ((tally decisions []).insertionSort byOutcome) := by
    rw [fetchedRows, recorded, outcomeRows, List.map_map]
    exact dictionary_keyed (spelled_keyed sorted.keyed)
  have count (outcome : Outcome) (reason : Str) :
      outcomeCount (fetchedRows runId file unbalanced balance).outcomes
          (outcomeKey outcome reason) =
        picked (fun key => key = (outcome, reason)) (tally decisions []) := by
    rw [spelledRows, spelled_count sorted.keyed, picked_perm order]
  have whole (outcome : Outcome) (named : outcome ≠ .quarantined) :
      outcomeCount (fetchedRows runId file unbalanced balance).outcomes
          (outcomeKey outcome (fixedReason outcome)) =
        picked (ofOutcome outcome) (tally decisions []) := by
    rw [count, ← tallied.keyed.lookup, tallied.lookup named]
  constructor
  · exact (whole .arrival (by decide)).trans tallied.arrived
  · exact (whole .accepted (by decide)).trans (picked_decisions rfl decisions)
  · exact (whole .duplicate (by decide)).trans (picked_decisions rfl decisions)
  · have total := spelled_quarantined ((tally decisions []).insertionSort byOutcome)
    rw [← spelledRows, picked_perm order] at total
    exact total.trans (picked_decisions rfl decisions)
  · intro outcome reason decided
    have apart : decide ((Outcome.arrival, str "raw_record_read") = (outcome, reason)) = false :=
      decide_eq_false fun same => decided (Prod.mk.inj same).1.symm
    rw [List.count_eq_countP]
    refine (count outcome reason).trans ((picked_decisions apart decisions).trans ?_)
    simp only [beq_eq_decide]

/-- A successful call completes its run and reports its tally; the projections are then those of
the accepted events under the call's rules. -/
theorem returned_completed {result : Summary} {after : Store}
    (reachable : Reachable database rules)
    (returned : (process gate call).run.eval perform database.opened = (.ok result, after)) :
    Completed gate call database after.durable.tables ∧
      after.durable.tables.projection =
        projectAll call.postingRules after.durable.tables.events ∧
      call.runId ∈ after.durable.runIds ∧
      ∃ unbalanced balance, result = summarize gate.runtime call.runId
        (fetchedRows call.runId after.durable unbalanced balance) := by
  obtain ⟨admitted, ended, ran, summed⟩ := process_returns.mp returned
  have identified := (reachable_consistent reachable).identified
  obtain ⟨completes, same⟩ :=
    (ran_completes identified (reachable_referenced reachable) admitted).mp ran
  obtain ⟨unbalanced, balance, _, _, reported, left⟩ := summary_returns.mp summed
  rw [left]
  refine ⟨same ▸ completion_completed reachable admitted completes, same ▸ rfl, ?_, unbalanced,
    balance, reported⟩
  rw [Database.runIds, update_run_ids call.runId (succeededRow call) fun _ => rfl, ran_journal ran]
  simp [startedRow]

end Runs

end LedgerFlow
