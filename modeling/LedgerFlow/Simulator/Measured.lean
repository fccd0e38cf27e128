import LedgerFlow.Manifest.RoundTrip
import LedgerFlow.Simulator.Projected
import LedgerFlow.Support.Sha256
import Mathlib.Data.List.Rotate

/-!
# The measurements of a generated batch

A run over the generated arrivals, read back from their file into an empty store, returns, and
its summary and tables say what the generator reports: the valid events are accepted, the
repeated ones are duplicates, the four fixtures are quarantined, and every transaction has a
state and no exception.

SHA-256 is assumed not to collide on two texts, the identities of the first event and of the
conflict made from it.
-/

namespace LedgerFlow.Simulator

open PyText PyJson PyDateTime Grouping Manifests Programs

/-! ## The conflict -/

section Conflict

variable {sources : List Source} (batch : Batch sources)

/-- The conflict of a batch is what the generator makes of its first event. -/
theorem Batch.conflict_made : conflictOf batch.first.fields = .ok batch.conflict.fields := by
  have amount : get batch.first.fields (str "amount_minor") =
      some (.int batch.first.amountMinor) := rfl
  have time : get batch.first.fields (str "received_at") = some (.str batch.first.receivedAt) := rfl
  have received : fromisoformat batch.first.receivedAt = some (.aware batch.opening.receivedAt) :=
    stage_received batch.opening batch.head.transaction
  rw [conflictOf, amount, time]
  simp only [received, batch.added]
  rfl

/-- The identity text does not depend on the order of the entries, since canonical text sorts
them; the keys have to be distinct. -/
theorem identity_text_perm {runtime : Runtime} {raw fields : Fields} (keyed : Keyed Prod.fst fields)
    (same : raw.Perm fields) : identityText runtime raw = identityText runtime fields := by
  have found (field : Str) : get raw field = get fields field :=
    (keyed.lookup_perm same.symm field).symm
  rw [identityText, identityText, identity, identity]
  simp only [found]

/-- The identity texts of the first event and of the conflict made from it. -/
def ConflictText (runtime : Runtime) (valid : List Fields) (text : Str) : Prop :=
  ∃ first conflict, eventAt valid 0 = .ok first ∧ conflictOf first = .ok conflict ∧
    (text = identityText runtime first ∨ text = identityText runtime conflict)

/-- The identity texts of the first event and of the conflict, as the two are read back, are those
that must not collide. -/
theorem Batch.conflict_text {runtime : Runtime} {text : Str}
    (isText : text = identityText runtime (lineOf batch.openingStaged) ∨
      text = identityText runtime (sortedEntries batch.conflict.fields)) :
    ConflictText runtime batch.valid text := by
  have first : eventAt batch.valid 0 = .ok batch.first.fields := by
    rw [batch.valid_starts]
    rfl
  have sorted (values : Values) : identityText runtime (sortedEntries values.fields) =
      identityText runtime values.fields :=
    identity_text_perm (values_keyed values) (sorted_values_perm values)
  refine ⟨_, _, first, batch.conflict_made, ?_⟩
  rw [← sorted batch.first, ← sorted batch.conflict]
  exact isText

end Conflict

/-! ## Counts -/

section Counts

variable {sources : List Source} (batch : Batch sources)

/-- A batch has at most three valid events for each of its transactions. -/
theorem Batch.valid_length : batch.valid.length ≤ 3 * batch.lifecycles.length := by
  refine length_flat_map_le fun lifecycle _ => ?_
  rw [Lifecycle.raws, List.length_map]
  exact (regular_length lifecycle.regular).2

/-- At most every second valid event is submitted again, and of many events only the first
ones. -/
theorem duplicates_length (valid : List Fields) :
    (duplicatesOf valid).length ≤ (valid.length + 1) / 2 := by
  have turns := List.length_filterMap_le (fun turn => valid[2 * turn]?)
    (List.range ((min valid.length (max 4 (valid.length / 300)) + 1) / 2))
  rw [List.length_range] at turns
  rw [duplicatesOf]
  omega

/-- The number of exact duplicates that the generator reports is the number of duplicates that it
adds. -/
theorem injected_duplicates (valid : List Fields) :
    outcomeCount (totals id (fun _ => 1) (injectedNames valid)) (str "exact_duplicates") =
      (duplicatesOf valid).length := by
  rw [outcomeCount, (totals_keyed _).lookup]
  refine (picked_totals (fun name => decide (name = str "exact_duplicates")) _).trans ?_
  rw [injectedNames, selected_append, selected_all, selected_none]
  · simp
  · decide
  · intro name member
    exact decide_eq_true (List.eq_of_mem_replicate member)

/-- The decisions on a batch, outcome by outcome: each valid event is accepted, each duplicate is
recognised, and the conflict and the three fixtures are quarantined, each for its own reason. -/
theorem Batch.decisions_counts :
    batch.decisions.countP (fun decision => decision.1 = .accepted) = batch.valid.length ∧
      batch.decisions.countP (fun decision => decision.1 = .duplicate) =
        (duplicatesOf batch.valid).length ∧
      batch.decisions.countP (fun decision => decision.1 = .quarantined) = 4 ∧
      (batch.decisions.filter fun decision => decision.1 = .quarantined).map Prod.snd =
        fixtureReasons := by
  have reasons : fixtureReasons.length = 4 := rfl
  simp [Batch.decisions, List.countP_append, List.countP_replicate, reasons, List.countP_map,
    List.filter_map, Function.comp_def]

end Counts

/-! ## Runs -/

/-- The summary and the tables that a run leaves say what the generator reports. -/
structure Measures (report : Generated) (result : Summary) (tables : Tables) : Prop where
  rawRecords : result.rawRecords = report.rawRecords
  acceptedNew : result.acceptedNew = report.validUniqueEvents
  duplicates : result.duplicates = outcomeCount report.injected (str "exact_duplicates")
  quarantined : result.quarantined = 4
  reasons : tables.quarantine.map QuarantineRow.reason = fixtureReasons
  exceptions : result.counts.businessException = 0 ∧ tables.businessException = []
  states : result.counts.paymentState = report.transactions ∧
    tables.paymentState.length = report.transactions

section Runs

variable {gate : Gate} {call : ProcessCall} (supplies : Supplies gate.registry)
  (long : 32 ≤ gate.tokenKey.length) {batch : Batch (lifecycleSources gate.registry)}
  {shuffled : List Fields}

/-- An undisturbed call of a new store, under the shipped rules, for the arrivals of a batch as
they are read back. -/
structure Measuring (gate : Gate) (call : ProcessCall)
    (batch : Batch (lifecycleSources gate.registry)) (shuffled : List Fields) : Prop where
  permuted : shuffled.Perm batch.valid
  apart : batch.Apart gate
  records : call.records =
    (shuffled ++ (duplicatesOf batch.valid ++ batch.fixtures)).map sortedEntries
  admitted : Admitted emptyDatabase call
  quiet : call.raises = none
  undisturbed : call.failpoint = none
  rules : call.postingRules = shippedRules

include supplies long

/-- The batch of a measured call is digestible: its numbers are small, its texts can be stored and
no payload is nested. -/
theorem Measuring.digestible (measuring : Measuring gate call batch shuffled) :
    Digestible gate call emptyDatabase.tables := by
  have settles := batch.settles supplies long measuring.permuted
  rw [← measuring.records] at settles
  have modest : ∀ event ∈ emptyDatabase.tables.events ++
      LedgerFlow.admitted gate emptyDatabase.tables.seenIds call.records, Modest event :=
    fun event member => admitted_modest settles member
  constructor
  · exact measuring.admitted.1
  · exact measuring.admitted.2.1
  · exact gateable_of_passable (fun raw member => (settles raw member).passable) _
  · intro transactionId _ _ event member
    rw [measuring.rules]
    exact modest_postable (modest event (mem_history.mp member).1)
  · rw [measuring.rules]
    exact shipped_summable modest
  · have valid := batch.valid_length
    have transactions := batch.lifecycles_bound
    have repeated := duplicates_length batch.valid
    have fixtures : batch.fixtures.length = 4 := rfl
    rw [measuring.records, List.length_map, List.length_append, List.length_append,
      measuring.permuted.length_eq, fixtures]
    unfold Int64
    omega

/-- A measured call returns, because nothing in it is beyond what the store and the interpreter
can hold. -/
theorem Measuring.returns (measuring : Measuring gate call batch shuffled) :
    ∃ result after,
      (process gate call).run.eval perform emptyDatabase.opened = (.ok result, after) := by
  obtain ⟨_, unbalanced, balance, returned⟩ := digestible_returns .empty measuring.admitted.2.2
    measuring.undisturbed measuring.quiet (measuring.digestible supplies long)
  exact ⟨_, _, returned⟩

/-- The records of a measured call are decided as they were made, and the accepted events are
those of the batch. -/
theorem Measuring.decided (measuring : Measuring gate call batch shuffled)
    {decisions : List (Outcome × Str)} {after : Database}
    (decided : Decisions gate call.runId call.records (journaled emptyDatabase call) decisions
      after) :
    decisions = batch.decisions ∧ (batch.events gate).Perm after.tables.events := by
  rw [measuring.records] at decided
  obtain ⟨same, events, permuted, accepted⟩ :=
    batch.decided supplies long measuring.permuted measuring.apart rfl decided
  exact ⟨same, accepted ▸ permuted.symm⟩

/-- What such a call reports and leaves is what a report of the generator says. -/
theorem Measuring.measures (measuring : Measuring gate call batch shuffled) {report : Generated}
    (raw : report.rawRecords = call.records.length)
    (valid : report.validUniqueEvents = batch.valid.length)
    (transactions : report.transactions = batch.lifecycles.length)
    (injected : report.injected = totals id (fun _ => 1) (injectedNames batch.valid))
    {result : Summary} {after : Store}
    (returned : (process gate call).run.eval perform emptyDatabase.opened = (.ok result, after)) :
    Measures report result after.durable.tables := by
  obtain ⟨completed, projected, _, unbalanced, balance, rfl⟩ := returned_completed .empty returned
  obtain ⟨decisions, gated, decided, tallied, _, accepted, quarantine, recorded⟩ :=
    completed.decided
  have rows := completed_recorded .empty completed.fresh recorded
  have size := decided.length
  rw [← size] at tallied
  obtain ⟨rfl, events⟩ := measuring.decided supplies long decided
  have reports := @summarize_reports gate.runtime call.runId after.durable unbalanced balance _
    tallied rows
  obtain ⟨acceptedNew, duplicates, quarantined, reasons⟩ := batch.decisions_counts
  have sameEvents : after.durable.tables.events = gated.tables.events :=
    congrArg (List.map AcceptedRow.event) accepted
  rw [sameEvents, measuring.rules, ← project_all_perm shippedRules events
    (batch.events_keyed gate)] at projected
  obtain ⟨none, states⟩ := batch.projected gate shippedRules
  have exceptions : after.durable.tables.businessException = [] :=
    (congrArg Projection.exceptions projected).trans none
  have paid : after.durable.tables.paymentState.length = report.transactions := by
    rw [transactions, ← states, ← projected]
    rfl
  obtain ⟨rejected, appended, same, _⟩ := decided.appends.quarantined
  constructor
  · rw [reports.rawRecords, size, raw]
  · rw [reports.acceptedNew, acceptedNew, valid]
  · rw [reports.duplicates, duplicates, injected, injected_duplicates]
  · rw [reports.quarantined, quarantined]
    rfl
  · rw [quarantine, appended]
    exact same.trans reasons
  · exact ⟨congrArg List.length exceptions, exceptions⟩
  · exact ⟨paid, paid⟩

end Runs

/-- The call that processes these records under the shipped rules, undisturbed. -/
def undisturbedCall (runId inputSha256 : Str) (records : List Fields)
    (startedAt finishedAt : Timestamp) : ProcessCall where
  runId
  inputSha256
  records
  raises := none
  postingRules := shippedRules
  failpoint := none
  startedAt
  finishedAt

/-- What the generator reports is what the store measures. For lifecycle sources of payment
events under valid identifiers, a hundred records or more, any seed and any shuffle, and as
long as no time leaves the calendar, the generator returns, the file that it writes is read
back, and a new store processes the records under the shipped rules, with a token key of 32
bytes at least. The valid events are accepted, the repeated ones are duplicates, the four
fixtures are quarantined, each for its reason, no transaction has an exception, and there is a
state for each of them.

The conflict is told from the first event by its fingerprint, so SHA-256 must not collide on
their two identity texts. -/
theorem generated_measured {shuffle : Int → List Fields → List Fields}
    (permutes : ∀ seed events, (shuffle seed events).Perm events) {gate : Gate}
    (supplies : Supplies gate.registry) (long : 32 ≤ gate.tokenKey.length)
    {minimumRecords seed : Int} (least : 100 ≤ minimumRecords)
    (representable : generateArrivals shuffle gate.registry minimumRecords seed ≠
      .error (.other (str "date value out of range")))
    (free : ∀ arrivals valid transactions,
      generateArrivals shuffle gate.registry minimumRecords seed =
          .ok (arrivals, valid, transactions) →
        CollisionFree gate.runtime (ConflictText gate.runtime valid))
    (library : Library) (files : Files) (path : Path) {runId inputSha256 : Str}
    (named : Encodable runId) (digest : Encodable inputSha256)
    (startedAt finishedAt : Timestamp) :
    ∃ report written records,
      generatePaymentEvents shuffle gate.registry minimumRecords path seed files =
          .ok (report, written) ∧
        iterJsonl library written path = .ok records ∧
        ∃ result after,
          (process gate (undisturbedCall runId inputSha256 records startedAt finishedAt)).run.eval
              perform emptyDatabase.opened = (.ok result, after) ∧
            Measures report result after.durable.tables := by
  cases generated : generateArrivals shuffle gate.registry minimumRecords seed with
  | error error =>
    have overflow := generate_arrivals_returns supplies.identified supplies.nonempty least
      error generated
    exact absurd (overflow ▸ generated) representable
  | ok arrived =>
    obtain ⟨arrivals, valid, transactions⟩ := arrived
    obtain ⟨batch, rfl, rfl, _, rfl⟩ := generate_arrivals_batch supplies.identified generated
    have permuted := permutes seed batch.valid
    have reported := @iter_written library _ (files.write path (jsonLines _)) path
      (batch.readable permuted rfl) (write_same files path _)
    refine ⟨_, _, _, by rw [generatePaymentEvents, generated]; rfl, reported, ?_⟩
    have measuring : Measuring gate (undisturbedCall runId inputSha256
        ((shuffle seed batch.valid ++ (duplicatesOf batch.valid ++ batch.fixtures)).map
          sortedEntries) startedAt finishedAt) batch (shuffle seed batch.valid) := {
      permuted
      apart := batch.apart supplies long fun first second isFirst isSecond =>
        free _ _ _ generated first second (batch.conflict_text isFirst)
          (batch.conflict_text isSecond)
      records := rfl
      admitted := ⟨named, digest, List.not_mem_nil⟩
      quiet := rfl
      undisturbed := rfl
      rules := rfl }
    obtain ⟨result, after, returned⟩ := measuring.returns supplies long
    exact ⟨result, after, returned,
      measuring.measures supplies long (List.length_map _).symm rfl rfl rfl returned⟩

/-! ## A sample batch -/

/-- SHA-256, and the case mappings of ASCII text. -/
def asciiRuntime : Runtime where
  __ := tableRuntime []
  sha256 s := ⟨PyBytes.hex (PyBytes.sha256 (utf8 s)), PyBytes.hex_ascii _⟩
  hmacSha256 key s := ⟨PyBytes.hex (PyBytes.hmacSha256 key (utf8 s)), PyBytes.hex_ascii _⟩

/-- The arguments that the sample batch is checked with. -/
def checkoutGate : Gate := ⟨asciiRuntime, sampleRegistry, List.replicate 32 0⟩

/-- A shuffle that turns the events by the seed. -/
def turned (seed : Int) (events : List Fields) : List Fields := events.rotate seed.natAbs

/-- Turning a list round is a permutation of it, so it may stand for the shuffle. -/
theorem turned_perm (seed : Int) (events : List Fields) : (turned seed events).Perm events :=
  List.rotate_perm events seed.natAbs

/-- The registry with one source supplies payment events from every lifecycle source that it
has. -/
theorem checkout_supplies : Supplies checkoutGate.registry := by
  have only : lifecycleSources checkoutGate.registry = [⟨str "checkout-01", str "checkout",
      str "stream", str "payment_event", str "payments", 5⟩] := rfl
  constructor
  · exact List.nodup_singleton _
  · exact List.forall_mem_singleton.mpr rfl
  · rw [only]
    exact List.cons_ne_nil _ _
  · rw [only]
    exact List.forall_mem_singleton.mpr rfl
  · rw [only]
    exact List.forall_mem_singleton.mpr (by decide)

/-- The fingerprints of the first event and of the conflict made from it. -/
def conflictFingerprints (runtime : Runtime) (valid : List Fields) :
    Option (AsciiText × AsciiText) := do
  let first ← (eventAt valid 0).toOption
  let conflict ← (conflictOf first).toOption
  some (identityFingerprint runtime first, identityFingerprint runtime conflict)

/-- Two fingerprints that differ exclude a collision between the two texts that matter. -/
theorem conflict_free {runtime : Runtime} {valid : List Fields} {first second : AsciiText}
    (found : conflictFingerprints runtime valid = some (first, second)) (apart : first ≠ second) :
    CollisionFree runtime (ConflictText runtime valid) := by
  rintro one other ⟨event, conflict, stands, made, isOne⟩ ⟨_, _, again, too, isOther⟩ same
  cases stands.symm.trans again
  cases made.symm.trans too
  have both : (identityFingerprint runtime event, identityFingerprint runtime conflict) =
      (first, second) := by
    rw [conflictFingerprints, stands] at found
    simp only [Except.toOption, Option.bind_eq_bind, Option.bind_some, made] at found
    exact Option.some.inj found
  obtain ⟨rfl, rfl⟩ := Prod.mk.inj both
  rcases isOne with rfl | rfl <;> rcases isOther with rfl | rfl
  · rfl
  · exact absurd same apart
  · exact absurd same.symm apart
  · rfl

/-- The two fingerprints of the sample batch, computed with the real digest. -/
theorem checkout_fingerprints : (generateArrivals turned sampleRegistry 100 42).toOption.bind
    (fun arrived => conflictFingerprints asciiRuntime arrived.2.1) =
      some (⟨str "a5d072d6497e8767a05ae5f8dc102c55ae85051224004525c08eb54595dd29d8", by decide⟩,
        ⟨str "1add0ec7e7b434b11cd5069dcb8fac47e3fc577cad0066fad6081718d8424544", by decide⟩) := by
  decide +kernel

/-- The digest of the sample file. -/
def checkoutDigest : Str := str "991aab1cad2960998c8ceb21b1e53019e7edda645ac102fe5398f36f8001b06b"

/-- The sample batch of a hundred records is generated, written, read back and processed, and the
tables are as its report measures. -/
theorem checkout_measured :
    ∃ report written records,
      generatePaymentEvents turned sampleRegistry 100 sampleData 42 (fun _ => none) =
          .ok (report, written) ∧
        iterJsonl manifestLibrary written sampleData = .ok records ∧
        ∃ result after,
          (process checkoutGate (undisturbedCall (str "initial-load") checkoutDigest records base
              base)).run.eval perform emptyDatabase.opened = (.ok result, after) ∧
            Measures report result after.durable.tables := by
  have fingerprints := checkout_fingerprints
  refine generated_measured turned_perm checkout_supplies (by decide) (by decide) ?_ ?_
    manifestLibrary _ _ (by decide) (by decide) _ _
  · intro overflow
    have failed : generateArrivals turned sampleRegistry 100 42 = .error _ := overflow
    rw [failed] at fingerprints
    cases fingerprints
  · intro arrivals valid transactions generated
    have returned : generateArrivals turned sampleRegistry 100 42 = .ok _ := generated
    rw [returned] at fingerprints
    exact conflict_free fingerprints (by decide)

end LedgerFlow.Simulator
