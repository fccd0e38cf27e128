import LedgerFlow.Evidence.Laboratory

/-!
# The fixture runs of the laboratory

The records of the fixtures are read as modest events, so that their calls are ordinary. An
invalid transaction in a new store has an exception for each event and no ledger entry. The call
with a failpoint leaves the tables of its store.
-/

namespace LedgerFlow.Evidence

open PyText PyJson Grouping Programs Simulator

section Calls

variable {laboratory : Laboratory} {gate : Gate} {runId : Str} {records : List Fields}
  {failpoint : Option Str} {database : Database}

/-- The call of a fixture, under the shipped rules and the digest of its name. -/
def fixtureCall (laboratory : Laboratory) (gate : Gate) (runId : Str) (records : List Fields)
    (failpoint : Option Str) : ProcessCall :=
  laboratory.call runId (gate.runtime.sha256 runId).1 records shippedRules failpoint

/-- A few records that are read as modest events make an ordinary call. -/
theorem fixture_ordinary (named : Encodable runId) (reachable : ∃ rules, Reachable database rules)
    (fresh : runId ∉ database.runIds) (modest : ∀ event ∈ database.tables.events, Modest event)
    (few : records.length ≤ 2)
    (reads : ∀ raw ∈ records, ∃ event, Reads gate raw event ∧ Modest event) :
    Ordinary gate (fixtureCall laboratory gate runId records failpoint) database where
  reachable
  admitted := ⟨named, (gate.runtime.sha256 runId).2.encodable, fresh⟩
  quiet := rfl
  rules := rfl
  settles raw member := by
    obtain ⟨event, read, small⟩ := reads raw member
    exact .read event read small
  modest
  countable := by
    show Int64 records.length
    unfold Int64
    omega

/-- Records that are read as these events are read one by one. -/
theorem read_modest {events : List PaymentEvent} (reads : List.Forall₂ (Reads gate) records events)
    (modest : ∀ event ∈ events, Modest event) :
    ∀ raw ∈ records, ∃ event, Reads gate raw event ∧ Modest event := by
  induction reads with
  | nil => exact fun _ none => absurd none List.not_mem_nil
  | @cons raw event _ _ read _ inductionHypothesis =>
    obtain ⟨first, others⟩ := List.forall_mem_cons.mp modest
    exact List.forall_mem_cons.mpr ⟨⟨event, read, first⟩, inductionHypothesis others⟩

/-- A run of a new store over one invalid transaction of at most two events returns, excepts each
of its events for the reason of the verdict, and posts nothing. -/
theorem invalid_run (named : Encodable runId) (few : records.length ≤ 2) {events : List PaymentEvent}
    (reads : List.Forall₂ (Reads gate) records events) (modest : ∀ event ∈ events, Modest event)
    (keyed : Keyed PaymentEvent.eventId events) (nonempty : events ≠ [])
    {transactionId : Identifier} (one : ∀ event ∈ events, event.transactionId = transactionId)
    (ordered : events.Pairwise inOrder) {reason : Violation} (invalid : verdict events = some reason) :
    ∃ result after, processed gate (fixtureCall laboratory gate runId records none) emptyDatabase =
        .ok (result, after) ∧
      result.counts.businessException = events.length ∧ result.counts.ledgerEntry = 0 := by
  have ordinary := @fixture_ordinary laboratory gate runId records none emptyDatabase named
    ⟨none, .empty⟩ List.not_mem_nil (fun _ none => absurd none List.not_mem_nil) few
    (read_modest reads modest)
  obtain ⟨result, after, evaluated, concluded⟩ := ordinary.concludes rfl
  obtain ⟨decisions, gated, decided, _, accepted, _⟩ := concluded.decided ⟨none, .empty⟩
  have stored := (decided.of_new reads keyed fun event _ => List.not_mem_nil).2.1
  have same : after.tables.events = events := by
    rw [Tables.events, accepted]
    exact stored
  have projected := concluded.projected
  rw [same, project_all_invalid nonempty one ordered invalid] at projected
  have reported := concluded.tables
  refine ⟨result, after, on_store_ok.mpr ⟨_, evaluated, rfl⟩, ?_, ?_⟩
  · rw [reported.exceptions, show after.tables.businessException = _ from
      congrArg Projection.exceptions projected, List.length_map]
  · rw [reported.ledger, show after.tables.ledgerEntry = [] from
      congrArg Projection.ledger projected]
    rfl

/-- A call with the failpoint before its commit is rolled back: it raises the injected error, and
the store has its tables as before. -/
theorem crash_rolled_back
    (ordinary : Ordinary gate (fixtureCall laboratory gate runId records (some beforeCommit))
      database) :
    ∃ after, crashRolledBack gate (fixtureCall laboratory gate runId records (some beforeCommit))
        database = .ok (true, after) ∧ after.tables = database.tables := by
  obtain ⟨after, evaluated, kept⟩ := ordinary.injected rfl
  refine ⟨after.durable, ?_, kept⟩
  rw [crashRolledBack, evaluated]
  simp only [kept, decide_true]

end Calls

/-! ## The three fixtures -/

section Fixtures

variable {laboratory : Laboratory} {gate : Gate} (supplies : Supplies gate.registry)
  (long : 32 ≤ gate.tokenKey.length) {source : Source}
  (found : streamSource gate.registry = .ok source)

include supplies long found

/-- The run over the lifecycle violation, a capture alone, counts one exception and no ledger
entry. -/
theorem lifecycle_violation_run :
    ∃ records result after, lifecycleViolationFixture gate.registry = .ok records ∧
      processed gate (fixtureCall laboratory gate (str "lifecycle-violation") records none)
        emptyDatabase = .ok (result, after) ∧
      result.counts.businessException = 1 ∧ result.counts.ledgerEntry = 0 := by
  have named : Encodable (str "lifecycle-violation") := by decide
  obtain ⟨raw, event, made, read, modest, first, captures⟩ :=
    lifecycle_violation_read supplies long found
  obtain ⟨result, after, ran, counted⟩ := @invalid_run laboratory gate _ [raw] named
    (Nat.le_succ 1) [event] (.cons read .nil) (List.forall_mem_singleton.mpr modest)
    (List.nodup_singleton _)
    (List.cons_ne_nil _ _) event.transactionId (List.forall_mem_singleton.mpr rfl)
    (List.pairwise_singleton _ _) _ (verdict_capture first captures)
  exact ⟨[raw], result, after, made, ran, counted⟩

/-- The two records of the crash fixture read as modest events, so that a call over them is an
ordinary one. -/
theorem crash_fixture_read :
    ∃ records, uniqueCrashFixture gate.registry = .ok records ∧ records.length = 2 ∧
      ∀ raw ∈ records, ∃ event, Reads gate raw event ∧ Modest event := by
  obtain ⟨identified, registered⟩ := stream_source_supplied supplies found
  obtain ⟨opening, capture, _, records, made, pair⟩ := unique_crash_made supplies found
  have read (stage : Stage) : ∃ event, Reads gate (stage.values (fixtureTransaction 888888
      (by decide) source identified)).fields event ∧ Modest event :=
    ⟨_, validate_stage (.refl _) registered long, stage_modest gate (_, stage)⟩
  refine ⟨records, made, ?_, ?_⟩
  · rw [pair.records]
    rfl
  · rw [pair.records]
    exact List.forall_mem_cons.mpr ⟨read opening, List.forall_mem_singleton.mpr (read capture)⟩

/-- The run over the version gap counts two exceptions, one for each event of the transaction, and
no ledger entry. -/
theorem version_gap_run :
    ∃ records result after, (uniqueCrashFixture gate.registry >>= versionGapEvents) = .ok records ∧
      processed gate (fixtureCall laboratory gate (str "version-gap") records none)
        emptyDatabase = .ok (result, after) ∧
      result.counts.businessException = 2 ∧ result.counts.ledgerEntry = 0 := by
  have named : Encodable (str "version-gap") := by decide
  obtain ⟨_, registered⟩ := stream_source_supplied supplies found
  obtain ⟨opening, capture, identified, records, made, pair⟩ := unique_crash_made supplies found
  let transaction := fixtureTransaction 888888 (by decide) source identified
  let first : PaymentEvent := opening.event transaction gate.runtime gate.tokenKey
  let second : PaymentEvent := { capture.event transaction gate.runtime gate.tokenKey with
    eventId := ⟨str "txn-0000888888:v3", by decide⟩
    transactionVersion := 3
    versionPositive := by decide }
  let gapped : Values := { capture.values transaction with
    eventId := str "txn-0000888888:v3"
    transactionVersion := 3 }
  have spells := @stage_spells gate.runtime gate.registry gate.tokenKey transaction capture registered
  have opened : Reads gate (opening.values transaction).fields first :=
    validate_stage (.refl _) registered long
  have captured : Reads gate gapped.fields second :=
    reads_spelled (.refl _) { spells with eventId := rfl, transactionVersion := rfl } long rfl rfl
  have opens : first.transactionVersion = 1 := congrArg Nat.cast pair.first
  have events : (uniqueCrashFixture gate.registry >>= versionGapEvents) =
      .ok [(opening.values transaction).fields, gapped.fields] := by
    refine bind_ok.mpr ⟨records, made, ?_⟩
    rw [pair.records]
    rfl
  have apart : first.eventId ≠ second.eventId := by
    intro same
    have texts : str "txn-" ++ zeroPadded 10 888888 ++ str ":v" ++ decimal opening.version =
        str "txn-0000888888:v3" := congrArg Subtype.val same
    rw [pair.first] at texts
    revert texts
    decide
  have small := stage_modest gate (transaction, opening)
  have modest : Modest second := ⟨le_refl 3, (stage_modest gate (transaction, capture)).amount⟩
  have ordered : first.transactionVersion < second.transactionVersion := by
    rw [opens]
    exact (by decide : (1 : Int) < 3)
  obtain ⟨result, after, ran, counted⟩ := @invalid_run laboratory gate _ _ named (le_refl 2)
    [first, second] (.cons opened (.cons captured .nil))
    (List.forall_mem_cons.mpr ⟨small, List.forall_mem_singleton.mpr modest⟩)
    (List.nodup_cons.mpr ⟨by simpa using apart, List.nodup_singleton _⟩) (List.cons_ne_nil _ _)
    transaction.id (List.forall_mem_cons.mpr ⟨rfl, List.forall_mem_singleton.mpr rfl⟩)
    (List.pairwise_pair.mpr (Prod.Lex.toLex_le_toLex.mpr (.inl ordered))) _
    (verdict_gap opens rfl)
  exact ⟨_, result, after, events, ran, counted⟩

end Fixtures

end LedgerFlow.Evidence
