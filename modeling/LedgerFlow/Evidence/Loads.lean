import LedgerFlow.Evidence.InputChecks

/-!
# The two loads of the laboratory

The initial load decides the arrivals as the generator made them, so that its summary is
reconciled, holds the conflict and the card number, and has a state for every transaction. The
replay accepts nothing and rebuilds the same rows.
-/

namespace LedgerFlow.Evidence

open PyText PyJson Grouping Programs Manifests Simulator

/-- What the two loads return and leave. -/
structure Loaded (gate : Gate) (batch : Batch (lifecycleSources gate.registry)) (runs : Runs) :
    Prop where
  reconciled : runs.first.rawReconciled = true
  conflict : 0 < outcomeCount runs.first.outcomes (str "QUARANTINED:identity_payload_conflict")
  card : 0 < outcomeCount runs.first.outcomes (str "QUARANTINED:prohibited_fields:card_number")
  balanced : runs.first.ledgerBalanced = true
  ledger : runs.replay.counts.ledgerEntry = runs.first.counts.ledgerEntry
  states : runs.replay.paymentStateSha256 = runs.first.paymentStateSha256
  exceptions : runs.first.counts.businessException = 0
  paid : 0 < runs.first.counts.paymentState
  reachable : Reachable runs.store (some shippedRules)
  runIds : runs.store.runIds = [str "initial-load", str "exact-replay"]
  modest : ∀ event ∈ runs.store.tables.events, Modest event
  events : (batch.events gate).Perm runs.store.tables.events
  projected : runs.store.tables.projection = projectAll shippedRules (batch.events gate)

section Loads

variable {laboratory : Laboratory} {gate : Gate} {records seed : Int}
  {batch : Batch (lifecycleSources gate.registry)} {input : Input}

/-- The decisions of a batch are reported as reconciled, with the conflict and the card. -/
theorem batch_reported {result : Summary} (reports : Reports result batch.decisions) :
    result.rawRecords = result.acceptedNew + result.duplicates + result.quarantined ∧
      0 < outcomeCount result.outcomes (str "QUARANTINED:identity_payload_conflict") ∧
      0 < outcomeCount result.outcomes (str "QUARANTINED:prohibited_fields:card_number") := by
  obtain ⟨accepted, duplicates, quarantined, _⟩ := batch.decisions_counts
  have total : batch.decisions.length =
      batch.valid.length + ((duplicatesOf batch.valid).length + 4) := by
    simp [Batch.decisions, fixtureReasons]
  have listed {reason : Str} (member : reason ∈ fixtureReasons) :
      0 < outcomeCount result.outcomes (outcomeKey .quarantined reason) := by
    rw [reports.outcomes .quarantined reason (by decide)]
    refine Int.natCast_pos.mpr (List.count_pos_iff.mpr ?_)
    exact List.mem_append_right _ (List.mem_append_right _ (List.mem_map_of_mem member))
  refine ⟨?_, @listed conflictReason List.mem_cons_self,
    @listed (str "prohibited_fields:card_number") (by decide)⟩
  rw [reports.rawRecords, reports.acceptedNew, reports.duplicates, reports.quarantined, accepted,
    duplicates, quarantined, total]
  omega

/-- A load of the arrivals, under the shipped rules. -/
def loadCall (laboratory : Laboratory) (runId inputSha256 : Str) (seed : Int)
    {sources : List Source} (batch : Batch sources) : ProcessCall :=
  laboratory.call runId inputSha256 ((arrivalsOf laboratory seed batch).map sortedEntries)
    shippedRules none

/-- The records of a load are the arrivals, as they are read back from the file. -/
theorem load_call_records (runId inputSha256 : Str) : (loadCall laboratory runId inputSha256 seed
    batch).records = (arrivalsOf laboratory seed batch).map sortedEntries := rfl

variable (supplies : Supplies gate.registry) (long : 32 ≤ gate.tokenKey.length)
  (permutes : ∀ seed events, (laboratory.shuffle seed events).Perm events)

include supplies long permutes

/-- A load is ordinary on a store that is ready for it. -/
theorem load_ordinary {runId inputSha256 : Str} (named : Encodable runId)
    (digest : Encodable inputSha256) {database : Database}
    (reachable : ∃ rules, Reachable database rules) (fresh : runId ∉ database.runIds)
    (modest : ∀ event ∈ database.tables.events, Modest event) :
    Ordinary gate (loadCall laboratory runId inputSha256 seed batch) database where
  reachable
  admitted := ⟨named, digest, fresh⟩
  quiet := rfl
  rules := rfl
  settles := batch.settles supplies long (permutes seed batch.valid)
  modest
  countable := by
    have few := @arrivals_few laboratory seed _ batch permutes
    show Int64 ((arrivalsOf laboratory seed batch).map sortedEntries).length
    rw [List.length_map]
    unfold Int64
    omega

/-- What the initial load leaves, if its fingerprints tell the conflict apart. -/
theorem initial_load {inputSha256 : Str} (digest : Encodable inputSha256) {result : Summary}
    {after : Database} (apart : batch.Apart gate)
    (concluded : Concluded gate (loadCall laboratory (str "initial-load") inputSha256 seed batch)
      emptyDatabase result after) :
    Reports result batch.decisions ∧ (batch.events gate).Perm after.tables.events ∧
      after.tables.projection = projectAll shippedRules (batch.events gate) := by
  have named : Encodable (str "initial-load") := by decide
  obtain ⟨decisions, gated, decided, reports, accepted, _⟩ := concluded.decided ⟨none, .empty⟩
  have measuring : Measuring gate
      (loadCall laboratory (str "initial-load") inputSha256 seed batch) batch
      (laboratory.shuffle seed batch.valid) := {
    permuted := permutes seed batch.valid
    apart
    records := rfl
    admitted := ⟨named, digest, List.not_mem_nil⟩
    quiet := rfl
    undisturbed := rfl
    rules := rfl }
  obtain ⟨rfl, permuted⟩ := measuring.decided supplies long decided
  have events : (batch.events gate).Perm after.tables.events := by
    rw [Tables.events, accepted]
    exact permuted
  exact ⟨reports, events,
    concluded.projected.trans (project_all_perm shippedRules events (batch.events_keyed gate)).symm⟩

/-- What the initial load and its replay return and leave: the first reports the injected refusals
among the decisions of the batch, and the second finds the same entries and states. -/
theorem loads_loaded {inputSha256 : Str} (digest : Encodable inputSha256) (apart : batch.Apart gate)
    {first replay : Summary} {after last : Database}
    (concluded : Concluded gate (loadCall laboratory (str "initial-load") inputSha256 seed batch)
      emptyDatabase first after)
    (replayed : Concluded gate (loadCall laboratory (str "exact-replay") inputSha256 seed batch)
      after replay last) : Loaded gate batch ⟨first, replay, last⟩ := by
  obtain ⟨reports, events, projected⟩ :=
    initial_load supplies long permutes digest apart concluded
  obtain ⟨stored, rebuilt⟩ := concluded.replayed ⟨none, .empty⟩ replayed
    ((load_call_records _ _).trans (load_call_records _ _).symm)
  obtain ⟨none, states⟩ := batch.projected gate shippedRules
  obtain ⟨reconciles, conflict, card⟩ := batch_reported reports
  have reported := concluded.tables
  have again := replayed.tables
  constructor
  · exact reported.reconciled.trans (decide_eq_true reconciles)
  · exact conflict
  · exact card
  · exact reported.balanced
  · rw [again.ledger, reported.ledger, show last.tables.ledgerEntry = after.tables.ledgerEntry from
      congrArg Projection.ledger rebuilt]
  · rw [again.digest, reported.digest, show last.tables.paymentState = after.tables.paymentState
      from congrArg Projection.states rebuilt]
  · rw [reported.exceptions, show after.tables.businessException = [] from
      (congrArg Projection.exceptions projected).trans none]
    rfl
  · rw [reported.states, show after.tables.paymentState = _ from
      congrArg Projection.states projected, states]
    exact Nat.succ_pos _
  · exact replayed.reachable
  · rw [replayed.runIds, concluded.runIds]
    rfl
  · exact replayed.modest
  · rw [Tables.events, stored]
    exact events
  · exact rebuilt.trans projected

/-- The prepared batch is loaded twice, both times without an error, and the two loads are as the
checks expect. -/
theorem load_twice_ok (prepared : Prepared laboratory gate.registry records seed batch input)
    (apart : batch.Apart gate) :
    ∃ runs, loadTwice laboratory gate shippedRules input = .ok runs ∧ Loaded gate batch runs := by
  have digest := input.manifest.sha256.2.encodable
  have ordinary := @load_ordinary laboratory gate seed batch supplies long permutes
    (str "initial-load") _ (by decide) digest emptyDatabase ⟨none, .empty⟩ List.not_mem_nil
    (fun _ none => absurd none List.not_mem_nil)
  obtain ⟨first, after, evaluated, concluded⟩ := ordinary.concludes rfl
  have fresh : str "exact-replay" ∉ after.runIds := by
    rw [concluded.runIds]
    show str "exact-replay" ∉ [str "initial-load"]
    decide
  have again := @load_ordinary laboratory gate seed batch supplies long permutes
    (str "exact-replay") _ (by decide) digest after ⟨_, concluded.reachable⟩ fresh concluded.modest
  obtain ⟨replay, last, reevaluated, replayed⟩ := again.concludes rfl
  refine ⟨_, ?_, loads_loaded supplies long permutes digest apart concluded replayed⟩
  refine bind_ok.mpr ⟨_, congrArg ofFile prepared.read, bind_ok.mpr ⟨(first, after),
    on_store_ok.mpr ⟨_, evaluated, rfl⟩, bind_ok.mpr ⟨_, congrArg ofFile prepared.read, ?_⟩⟩⟩
  exact bind_ok.mpr ⟨(replay, last), on_store_ok.mpr ⟨_, reevaluated, rfl⟩, rfl⟩

end Loads

end LedgerFlow.Evidence
