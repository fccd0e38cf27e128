import LedgerFlow.Store.Atomicity
import LedgerFlow.Store.Ingest

/-!
# What a completed run leaves

The counts of a run are a dictionary with distinct keys, in which every record is
counted once as an arrival and once under another outcome. `Completes` lists what the
data transaction needs to reach its commit, and `completion` is the database it then
leaves: the gated tables, the projections of every accepted event, and the outcome
rows of the run.
-/

namespace LedgerFlow

open PyText PyJson Grouping Programs

/-! ## Counts -/

/-- The reason counted with an outcome; quarantines have their own. -/
def fixedReason : Outcome → Str
  | .arrival => str "raw_record_read"
  | .accepted => str "contract_and_identity_passed"
  | .duplicate => str "exact_event_replay"
  | .quarantined => []

/-- The entries of this outcome. -/
def ofOutcome (outcome : Outcome) (key : Outcome × Str) : Bool := key.1 = outcome

/-- The entries of any outcome but an arrival. -/
def classified (key : Outcome × Str) : Bool := key.1 ≠ .arrival

/-- The counts after some arrivals and some other outcomes. -/
structure Tallied (counts : Counts) (arrivals outcomes : Nat) : Prop where
  keyed : Keyed Prod.fst counts
  nonnegative : ∀ entry ∈ counts, 0 ≤ entry.2
  encodable : ∀ entry ∈ counts, Encodable entry.1.2
  fixed : ∀ entry ∈ counts, entry.1.1 ≠ .quarantined → entry.1.2 = fixedReason entry.1.1
  arrived : picked (ofOutcome .arrival) counts = arrivals
  decided : picked classified counts = outcomes

/-- Before any record the empty dictionary counts right. -/
theorem tallied_nil : Tallied [] 0 0 where
  keyed := List.nodup_nil
  nonnegative := nofun
  encodable := nofun
  fixed := nofun
  arrived := rfl
  decided := rfl

section Counting

variable {counts : Counts} {arrivals outcomes : Nat}

/-- Counting an outcome keeps the dictionary in order: its keys stay distinct and encodable, its
counts nonnegative, and the totals grow by the one outcome. -/
theorem Tallied.count {outcome : Outcome} {reason : Str}
    (tallied : Tallied counts arrivals outcomes)
    (encodable : Encodable reason)
    (fixed : outcome ≠ .quarantined → reason = fixedReason outcome) :
    Tallied (countOne outcome reason counts) (arrivals + if outcome = .arrival then 1 else 0)
      (outcomes + if outcome = .arrival then 0 else 1) := by
  have entries {entry : (Outcome × Str) × Int} (member : entry ∈ countOne outcome reason counts) :
      entry ∈ counts ∨ entry.1 = (outcome, reason) ∧ 0 ≤ entry.2 := by
    rcases mem_accumulate member with old | rfl | ⟨total, present, rfl⟩
    · exact .inl old
    · exact .inr ⟨rfl, Int.one_nonneg⟩
    · have positive := tallied.nonnegative _ present
      exact .inr ⟨rfl, Int.add_nonneg positive (by decide)⟩
  constructor
  · exact tallied.keyed.accumulate _ _
  · intro entry member
    rcases entries member with old | ⟨_, positive⟩
    · exact tallied.nonnegative entry old
    · exact positive
  · intro entry member
    rcases entries member with old | ⟨named, _⟩
    · exact tallied.encodable entry old
    · exact named ▸ encodable
  · intro entry member
    rcases entries member with old | ⟨named, _⟩
    · exact tallied.fixed entry old
    · rw [named]
      exact fixed
  · rw [countOne, picked_accumulate, tallied.arrived]
    by_cases arrival : outcome = .arrival <;> simp [ofOutcome, arrival]
  · rw [countOne, picked_accumulate, tallied.decided]
    by_cases arrival : outcome = .arrival <;> simp [classified, arrival]

/-- A passed record is counted under one outcome besides its arrival, with a reason that can be
stored. -/
theorem gate_step_counts {gate : Gate} {runId : Str} {raw : Fields} {database : Database}
    {seen : List Identifier} (passable : Passable gate seen raw) :
    ∃ outcome reason, (gateStep gate runId raw counts database).1 = countOne outcome reason counts ∧
      outcome ≠ .arrival ∧ Encodable reason ∧
        (outcome ≠ .quarantined → reason = fixedReason outcome) := by
  cases valid : validateEvent gate.runtime gate.registry gate.tokenKey raw with
  | error error =>
    rw [gate_step_invalid valid]
    rw [Passable, valid] at passable
    cases error with
    | contract reason =>
      exact ⟨.quarantined, reason, rfl, by decide, passable.2.2, fun other => absurd rfl other⟩
    | _ => exact passable.elim
  | ok event =>
    cases stored : database.tables.identityOf event.eventId with
    | none =>
      rw [gate_step_fresh valid stored]
      exact ⟨.accepted, _, rfl, by decide, by decide, fun _ => rfl⟩
    | some fingerprint =>
      rw [gate_step_known valid stored]
      split
      · exact ⟨.duplicate, _, rfl, by decide, by decide, fun _ => rfl⟩
      · exact ⟨.quarantined, _, rfl, by decide, by decide, fun other => absurd rfl other⟩

/-- A passed batch counts each of its records once as an arrival and once under
another outcome. -/
theorem gate_run_counts {gate : Gate} {runId : Str} {records : List Fields} {database : Database}
    {seen : List Identifier} (gateable : Gateable gate seen records)
    (tallied : Tallied counts arrivals outcomes) :
    Tallied (gateRun gate runId records counts database).1 (arrivals + records.length)
      (outcomes + records.length) := by
  induction records generalizing counts database seen arrivals outcomes with
  | nil => exact tallied
  | cons raw rest inductionHypothesis =>
    obtain ⟨passable, others⟩ := gateable
    have arrived : Tallied (countOne .arrival (str "raw_record_read") counts) (arrivals + 1)
        outcomes := tallied.count (by decide) fun _ => rfl
    obtain ⟨outcome, reason, counted, decided, encodable, fixed⟩ :=
      @gate_step_counts (countOne .arrival (str "raw_record_read") counts) gate runId raw database
        seen passable
    have next := arrived.count encodable fixed
    rw [if_neg decided, if_neg decided, ← counted] at next
    have ended := @inductionHypothesis _ _ _ (gateStep gate runId raw
      (countOne .arrival (str "raw_record_read") counts) database).2 _ others next
    rw [gateRun]
    have shift (number : Nat) : number + (raw :: rest).length = number + 1 + rest.length := by
      rw [List.length_cons]
      omega
    rw [shift, shift]
    exact ended

end Counting

/-! ## Outcome rows -/

/-- The rows that record the counts of a run. -/
def outcomeRows (runId : Str) (counts : Counts) : List OutcomeRow :=
  (counts.insertionSort byOutcome).map fun entry => ⟨runId, entry.1.1, entry.1.2, entry.2⟩

/-- Append outcome rows. -/
def Database.counted (database : Database) (rows : List OutcomeRow) : Database :=
  { database with
    tables := { database.tables with runOutcome := database.tables.runOutcome ++ rows } }

/-- The outcome rows of a run without any are appended exactly when they can be bound. -/
theorem insert_outcomes_ok {runId : Str} {counts : Counts} {database after : Database}
    (encodable : Encodable runId)
    (journaled : runId ∈ database.runJournal.map JournalRow.runId)
    (keyed : Keyed Prod.fst counts)
    (unused : ∀ row ∈ database.tables.runOutcome, row.runId = runId →
      (row.outcome, row.reason) ∉ counts.map Prod.fst) :
    within (insertOutcomes runId counts).run database = .ok ((), after) ↔
      (∀ entry ∈ counts, Encodable entry.1.2 ∧ Int64 entry.2) ∧
        after = database.counted
          (counts.map fun entry => ⟨runId, entry.1.1, entry.1.2, entry.2⟩) := by
  induction counts generalizing database with
  | nil =>
    rw [insertOutcomes, within_pure, List.map_nil]
    simp [Database.counted, eq_comm]
  | cons entry rest inductionHypothesis =>
    obtain ⟨fresh, distinct⟩ := List.nodup_cons.mp (keyed : (entry.1 :: rest.map Prod.fst).Nodup)
    obtain ⟨⟨outcome, reason⟩, count⟩ := entry
    let row : OutcomeRow := ⟨runId, outcome, reason, count⟩
    have absent : (runId, outcome, reason) ∉
        database.tables.runOutcome.map fun old => (old.runId, old.outcome, old.reason) := by
      intro member
      obtain ⟨old, inside, same⟩ := List.mem_map.mp member
      obtain ⟨sameRun, sameKey⟩ := Prod.mk.inj same
      exact unused old inside sameRun (sameKey ▸ List.mem_cons_self)
    have inserted {next : Database} : (Statement.insertRunOutcome row).run database = .ok next ↔
        (Encodable reason ∧ Int64 count) ∧ next = database.counted [row] := by
      simp only [Statement.run, bind_ok, bind_text_ok, bind_integer_ok, constrained_ok,
        exists_const, row, encodable, absent, journaled, not_false_eq_true, true_and, and_assoc,
        Database.counted]
    have later : within (insertOutcomes runId rest).run (database.counted [row]) =
          .ok ((), after) ↔
        (∀ entry ∈ rest, Encodable entry.1.2 ∧ Int64 entry.2) ∧
          after = database.counted (row :: rest.map fun entry =>
            ⟨runId, entry.1.1, entry.1.2, entry.2⟩) := by
      rw [@inductionHypothesis (database.counted [row]) journaled distinct]
      · simp only [Database.counted, List.append_assoc, List.singleton_append]
      · intro old inside sameRun member
        rcases List.mem_append.mp inside with earlier | new
        · exact unused old earlier sameRun (List.mem_cons_of_mem _ member)
        · rw [List.mem_singleton.mp new] at member
          exact fresh member
    rw [insertOutcomes, within_bind_ok, List.forall_mem_cons]
    simp only [within_execute_ok]
    constructor
    · rintro ⟨_, next, first, others⟩
      obtain ⟨bound, rfl⟩ := inserted.mp first
      obtain ⟨rest, ended⟩ := later.mp others
      exact ⟨⟨bound, rest⟩, ended⟩
    · rintro ⟨⟨bound, rest⟩, ended⟩
      exact ⟨(), _, inserted.mpr ⟨bound, rfl⟩, later.mpr ⟨rest, ended⟩⟩

/-! ## The data transaction -/

/-- What the data transaction needs to reach its commit. -/
structure Completes (gate : Gate) (call : ProcessCall) (tables : Tables) : Prop where
  quiet : call.raises = none
  gateable : Gateable gate tables.seenIds call.records
  proceeds : call.failpoint ≠ some (str "after_identity_gate")
  postable : AllPostable call.postingRules
    (tables.events ++ admitted gate tables.seenIds call.records)
  reaches : call.failpoint ≠ some (str "before_commit")
  countable : Int64 call.records.length

/-- The database that the data transaction leaves. -/
def completion (gate : Gate) (call : ProcessCall) (database : Database) : Database :=
  let gated := gateRun gate call.runId call.records [] database
  ({ gated.2 with
    tables := gated.2.tables.projected (projectAll call.postingRules gated.2.tables.events) }
    ).counted (outcomeRows call.runId gated.1)

/-- A failpoint is passed exactly where it is not the injected one, and then does nothing. -/
theorem fail_at_ok {failpoint : Option Str} {name : Str} {database after : Database}
    {result : Unit} : within (failAt failpoint name).run database = .ok (result, after) ↔
      failpoint ≠ some name ∧ after = database := by
  unfold failAt
  split <;> simp_all [eq_comm]

/-- Counts are at most the number of records, since each record counts once as an arrival and once
as decided. -/
theorem Tallied.bounded {counts : Counts} {records : Nat} (tallied : Tallied counts records records)
    {entry : (Outcome × Str) × Int} (member : entry ∈ counts) : entry.2 ≤ records := by
  by_cases arrival : entry.1.1 = .arrival
  · rw [← tallied.arrived]
    exact entry_le_picked tallied.nonnegative member (decide_eq_true arrival)
  · rw [← tallied.decided]
    exact entry_le_picked tallied.nonnegative member (decide_eq_true arrival)

/-- Looking up a fixed reason finds the total of its outcome, as the outcomes other than
quarantine have one reason each. -/
theorem Tallied.lookup {counts : Counts} {arrivals outcomes : Nat}
    (tallied : Tallied counts arrivals outcomes) {outcome : Outcome}
    (decided : outcome ≠ .quarantined) :
    (counts.lookup (outcome, fixedReason outcome)).getD 0 = picked (ofOutcome outcome) counts := by
  rw [tallied.keyed.lookup]
  refine congrArg (fun kept => (List.map Prod.snd kept).sum) (List.filter_congr ?_)
  intro entry member
  have fixed := tallied.fixed entry member
  by_cases same : entry.1.1 = outcome
  · have named : entry.1.2 = fixedReason outcome := by
      rw [fixed (same ▸ decided), same]
    simp [ofOutcome, same, named, Prod.ext_iff]
  · simp [ofOutcome, same, Prod.ext_iff]

/-- The texts of the outcomes differ in their first two characters, so that a prefix of a key
tells them apart. -/
theorem outcome_initials {outcome other : Outcome}
    (same : outcome.text.take 2 = other.text.take 2) : outcome = other := by
  cases outcome <;> cases other <;> first
    | rfl
    | exact absurd same (by decide)

/-- A key names one outcome and one reason, although both are texts joined by a colon: no outcome
contains one. -/
theorem outcome_key_inj {outcome other : Outcome} {reason another : Str}
    (same : outcomeKey outcome reason = outcomeKey other another) :
    outcome = other ∧ reason = another := by
  have initials (kind : Outcome) (rest : Str) :
      (outcomeKey kind rest).take 2 = kind.text.take 2 := by
    cases kind <;> rfl
  have kinds : outcome = other := outcome_initials (by rw [← initials, same, initials])
  subst kinds
  exact ⟨rfl, List.append_cancel_left same⟩

/-- A key starts with the text of quarantines exactly when it names a quarantine. -/
theorem quarantine_key (outcome : Outcome) (reason : Str) :
    quarantineKey (outcomeKey outcome reason) = decide (outcome = .quarantined) := by
  cases outcome with
  | quarantined => simp [quarantineKey, outcomeKey, Outcome.text, str]
  | arrival | accepted | duplicate => rfl

/-- The dictionary of a summary, for these counts. -/
def spelled (counts : Counts) : List (Str × Int) :=
  counts.map fun entry => (outcomeKey entry.1.1 entry.1.2, entry.2)

/-- Spelling the outcomes keeps the keys of the counts distinct, since no two outcomes have one
text. -/
theorem spelled_keyed {counts : Counts} (keyed : Keyed Prod.fst counts) :
    Keyed Prod.fst (spelled counts) := by
  have keys : (spelled counts).map Prod.fst =
      (counts.map Prod.fst).map fun key => outcomeKey key.1 key.2 := by
    rw [spelled, List.map_map, List.map_map]
    rfl
  rw [Keyed, keys]
  refine keyed.map fun first second same => ?_
  obtain ⟨outcome, reason⟩ := outcome_key_inj same
  exact Prod.ext outcome reason

/-- The count under the key of an outcome and a reason is the one that was counted, since spelling
keeps the keys apart. -/
theorem spelled_count {counts : Counts} (keyed : Keyed Prod.fst counts) (outcome : Outcome)
    (reason : Str) : outcomeCount (spelled counts) (outcomeKey outcome reason) =
      picked (fun key => key = (outcome, reason)) counts := by
  have renamed := picked_rename (fun key : Outcome × Str => outcomeKey key.1 key.2)
    (fun key => decide (key = outcomeKey outcome reason)) counts
  rw [outcomeCount, (spelled_keyed keyed).lookup]
  refine renamed.trans (congrArg (fun picks => picked picks counts) (funext fun key => ?_))
  refine decide_eq_decide.mpr ⟨fun same => ?_, fun same => same ▸ rfl⟩
  have ⟨first, second⟩ := outcome_key_inj same
  exact Prod.ext first second

/-- The sum over the keys of quarantines, which the summary selects by their prefix, is the number
of quarantined records. -/
theorem spelled_quarantined (counts : Counts) :
    (((spelled counts).filter fun entry => quarantineKey entry.1).map Prod.snd).sum =
      picked (ofOutcome .quarantined) counts := by
  have renamed := picked_rename (fun key : Outcome × Str => outcomeKey key.1 key.2)
    quarantineKey counts
  refine renamed.trans (congrArg (fun picks => picked picks counts) (funext fun key => ?_))
  exact quarantine_key key.1 key.2

/-- The outcomes other than arrivals, one by one: accepted, duplicate and quarantined are all
there are. -/
theorem picked_classified (counts : Counts) :
    picked classified counts = picked (ofOutcome .accepted) counts +
      picked (ofOutcome .duplicate) counts + picked (ofOutcome .quarantined) counts := by
  induction counts with
  | nil => rfl
  | cons entry rest inductionHypothesis =>
    obtain ⟨⟨outcome, reason⟩, count⟩ := entry
    simp only [picked_cons, inductionHypothesis, classified, ofOutcome]
    cases outcome <;> simp <;> omega

/-- The order of the counts does not matter; SQLite returns them sorted. -/
theorem Tallied.perm {first second : Counts} {arrivals outcomes : Nat}
    (tallied : Tallied first arrivals outcomes) (same : first.Perm second) :
    Tallied second arrivals outcomes where
  keyed := (same.map Prod.fst).nodup_iff.mp tallied.keyed
  nonnegative := fun entry member => tallied.nonnegative entry (same.mem_iff.mpr member)
  encodable := fun entry member => tallied.encodable entry (same.mem_iff.mpr member)
  fixed := fun entry member => tallied.fixed entry (same.mem_iff.mpr member)
  arrived := (picked_perm same).symm.trans tallied.arrived
  decided := (picked_perm same).symm.trans tallied.decided

/-- Some count is the number of records, unless there are none: the arrivals are counted under one
key. So the counts fit into their column exactly where the number of records does. -/
theorem Tallied.attained {counts : Counts} {records : Nat}
    (tallied : Tallied counts records records) :
    records = 0 ∨ ∃ entry ∈ counts, entry.2 = records := by
  have only := @Tallied.lookup _ _ _ tallied .arrival (by decide)
  rw [tallied.arrived] at only
  cases found : counts.lookup (Outcome.arrival, fixedReason .arrival) with
  | none =>
    rw [found] at only
    exact .inl (Int.ofNat_eq_zero.mp only.symm)
  | some count =>
    rw [found] at only
    obtain ⟨earlier, later, split, _⟩ := List.lookup_eq_some_iff.mp found
    exact .inr ⟨((Outcome.arrival, fixedReason .arrival), count), by simp [split], only⟩

/-- The counts of a run can be bound exactly when the number of its records can. -/
theorem Tallied.storable {counts : Counts} {records : Nat}
    (tallied : Tallied counts records records) :
    (∀ entry ∈ counts, Encodable entry.1.2 ∧ Int64 entry.2) ↔ Int64 records := by
  constructor
  · intro bound
    rcases tallied.attained with none | ⟨entry, member, same⟩
    · rw [none]
      decide
    · exact same ▸ (bound entry member).2
  · intro fits entry member
    have upper := tallied.bounded member
    have lower := tallied.nonnegative entry member
    refine ⟨tallied.encodable entry member, ?_⟩
    unfold Int64 at fits ⊢
    omega

section Transaction

variable {gate : Gate} {call : ProcessCall} {database after : Database}

/-- Writing the counts of a gated batch over the projections ends exactly when the number of
records can be bound, and then leaves the completion.

Proof: the counts are those of the batch, one for each key, so that no row of the run is
written twice; each is at most the number of records, and one of them attains it. -/
theorem gated_outcomes_ok (encodable : Encodable call.runId)
    (journaled : call.runId ∈ database.runJournal.map JournalRow.runId)
    (identified : Identified database.tables)
    (unused : ∀ row ∈ database.tables.runOutcome, row.runId ≠ call.runId)
    (gateable : Gateable gate database.tables.seenIds call.records) :
    let gated := gateRun gate call.runId call.records [] database
    within (insertOutcomes call.runId (gated.1.insertionSort byOutcome)).run
        { gated.2 with tables :=
          gated.2.tables.projected (projectAll call.postingRules gated.2.tables.events) } =
      .ok ((), after) ↔
        Int64 call.records.length ∧ after = completion gate call database := by
  intro gated
  have ⟨_, same, _⟩ : Identified gated.2.tables ∧ SameProjections database gated.2 ∧
      gated.2.tables.events =
        database.tables.events ++ admitted gate database.tables.seenIds call.records :=
    gate_run_spec identified gateable
  have tallied : Tallied gated.1 (0 + call.records.length) (0 + call.records.length) :=
    gate_run_counts gateable tallied_nil
  rw [Nat.zero_add] at tallied
  have keyed : Keyed Prod.fst (gated.1.insertionSort byOutcome) :=
    ((List.perm_insertionSort byOutcome gated.1).map Prod.fst).nodup_iff.mpr tallied.keyed
  have bound : (∀ entry ∈ gated.1.insertionSort byOutcome,
      Encodable entry.1.2 ∧ Int64 entry.2) ↔ Int64 call.records.length := by
    rw [← tallied.storable]
    simp only [List.mem_insertionSort]
  rw [insert_outcomes_ok encodable _ keyed, bound]
  · rfl
  · intro row member sameRun
    exact absurd sameRun (unused row (same.outcomes ▸ member))
  · change call.runId ∈ gated.2.runJournal.map JournalRow.runId
    rw [same.journal]
    exact journaled

/-- What follows the gate in the data transaction ends exactly when every event can be posted,
the failpoint is another one and the counts can be bound. -/
theorem transaction_rest_ok (encodable : Encodable call.runId)
    (journaled : call.runId ∈ database.runJournal.map JournalRow.runId)
    (identified : Identified database.tables)
    (unused : ∀ row ∈ database.tables.runOutcome, row.runId ≠ call.runId)
    (gateable : Gateable gate database.tables.seenIds call.records) :
    let gated := gateRun gate call.runId call.records [] database
    within (rebuildProjections call.postingRules >>= fun _ =>
        failAt call.failpoint (str "before_commit") >>= fun _ =>
          insertOutcomes call.runId (gated.1.insertionSort byOutcome)).run gated.2 =
      .ok ((), after) ↔
        (AllPostable call.postingRules
          (database.tables.events ++ admitted gate database.tables.seenIds call.records) ∧
          call.failpoint ≠ some (str "before_commit") ∧ Int64 call.records.length) ∧
          after = completion gate call database := by
  intro gated
  have ⟨kept, _, events⟩ : Identified gated.2.tables ∧ SameProjections database gated.2 ∧
      gated.2.tables.events =
        database.tables.events ++ admitted gate database.tables.seenIds call.records :=
    gate_run_spec identified gateable
  have outcomes := @gated_outcomes_ok gate call database after encodable journaled identified
    unused gateable
  have rebuilt {next : Database} :=
    @rebuild_ok gated.2 next call.postingRules kept.keyed kept.storable
  rw [← events]
  simp only [within_bind_ok, rebuilt, fail_at_ok]
  constructor
  · rintro ⟨_, _, ⟨postable, rfl⟩, _, _, ⟨reaches, rfl⟩, ended⟩
    obtain ⟨fits, ended⟩ := outcomes.mp ended
    exact ⟨⟨postable, reaches, fits⟩, ended⟩
  · rintro ⟨⟨postable, reaches, fits⟩, ended⟩
    exact ⟨(), _, ⟨postable, rfl⟩, (), _, ⟨reaches, rfl⟩, outcomes.mpr ⟨fits, ended⟩⟩

/-- The data transaction ends exactly when the run completes; it then leaves the
completion. -/
theorem transaction_body_ok (encodable : Encodable call.runId)
    (journaled : call.runId ∈ database.runJournal.map JournalRow.runId)
    (identified : Identified database.tables)
    (unused : ∀ row ∈ database.tables.runOutcome, row.runId ≠ call.runId) :
    within (transactionBody gate call).run database = .ok ((), after) ↔
      Completes gate call database.tables ∧ after = completion gate call database := by
  let gated := gateRun gate call.runId call.records [] database
  have gate_ok {result : Counts} {next : Database} :
      within (ingestAll gate call.runId call.raises call.records []).run database =
          .ok (result, next) ↔
        call.raises = none ∧ Gateable gate database.tables.seenIds call.records ∧
          (result, next) = gated :=
    ingest_all_ok encodable journaled identified
  have rest := @transaction_rest_ok gate call database after encodable journaled identified unused
  rw [transactionBody, within_bind_ok]
  constructor
  · rintro ⟨counts, next, first, others⟩
    obtain ⟨quiet, gateable, same⟩ := gate_ok.mp first
    obtain ⟨rfl, rfl⟩ := Prod.mk.inj same
    obtain ⟨_, _, passed, others⟩ := within_bind_ok.mp others
    obtain ⟨proceeds, rfl⟩ := fail_at_ok.mp passed
    obtain ⟨⟨postable, reaches, countable⟩, ended⟩ := (rest gateable).mp others
    exact ⟨⟨quiet, gateable, proceeds, postable, reaches, countable⟩, ended⟩
  · rintro ⟨⟨quiet, gateable, proceeds, postable, reaches, countable⟩, ended⟩
    refine ⟨gated.1, gated.2, gate_ok.mpr ⟨quiet, gateable, rfl⟩, within_bind_ok.mpr
      ⟨(), _, fail_at_ok.mpr ⟨proceeds, rfl⟩, ?_⟩⟩
    exact (rest gateable).mpr ⟨⟨postable, reaches, countable⟩, ended⟩

end Transaction

end LedgerFlow
