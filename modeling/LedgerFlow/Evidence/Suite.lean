import LedgerFlow.Evidence.FixtureRuns
import LedgerFlow.Evidence.Loads
import LedgerFlow.Evidence.SettlementChecks

/-!
# The whole suite passes

Whatever the seed, the profile and the token key, the fifteen scenarios of the laboratory pass, as
long as its configuration supplies payment events. What is assumed of the library are the digests:
they are hexadecimal, and SHA-256 tells the conflict from the first event and the data file from
a digest of zeros.
-/

namespace LedgerFlow.Evidence

open PyText PyJson Grouping Programs Manifests Simulator

/-! ## The posted events of a batch -/

section Posted

variable {sources : List Source} (gate : Gate) (batch : Batch sources)

/-- The rows posted for a transaction of a batch are those of its events. -/
theorem batch_history_posted {transactionId : Identifier}
    (listed : transactionId ∈ transactionIds (batch.events gate)) :
    ∃ lifecycle ∈ batch.lifecycles, lifecycle.id = transactionId ∧
      (projection shippedRules (history (batch.events gate) transactionId)).posted =
        (lifecycle.events gate).flatMap (postedRows shippedRules) := by
  obtain ⟨lifecycle, member, rfl⟩ := (batch.mem_transaction_ids gate).mp listed
  obtain ⟨state, same⟩ := lifecycle.projected gate shippedRules
  exact ⟨lifecycle, member, rfl, by rw [batch.history_lifecycle gate member, same]⟩

/-- An event is posted once at most, and not at all when the rules have no line for it. -/
theorem posted_rows_few (event : PaymentEvent) : (postedRows shippedRules event).length ≤ 1 := by
  unfold postedRows
  split
  · exact Nat.zero_le 1
  · exact le_refl 1

/-- The posted events of a batch are bounded: their amounts are below half a million and a batch
has three events for each of its transactions at most. -/
theorem batch_posted_bounded :
    BoundedPosted (projectAll shippedRules (batch.events gate)).posted where
  few := by
    have each : ∀ transactionId ∈ transactionIds (batch.events gate),
        (projection shippedRules (history (batch.events gate) transactionId)).posted.length ≤ 3 := by
      intro transactionId listed
      obtain ⟨lifecycle, _, _, rows⟩ := batch_history_posted gate batch listed
      have few : ((lifecycle.events gate).flatMap (postedRows shippedRules)).length ≤
          1 * (lifecycle.events gate).length :=
        length_flat_map_le fun event _ => posted_rows_few event
      have events := (lifecycle.events_length gate).2
      rw [rows]
      omega
    have all := length_flat_map_le each
    have transactions := batch.lifecycles_bound
    rw [batch.transaction_ids_length gate] at all
    rw [project_all_posted]
    omega
  amounts row member := by
    rw [project_all_posted] at member
    obtain ⟨transactionId, listed, inside⟩ := List.mem_flatMap.mp member
    obtain ⟨lifecycle, _, _, rows⟩ := batch_history_posted gate batch listed
    rw [rows] at inside
    obtain ⟨event, staged, posted⟩ := List.mem_flatMap.mp inside
    obtain ⟨stage, _, rfl⟩ := List.mem_map.mp staged
    have modest := (stage_modest gate (lifecycle.transaction, stage)).amount
    have positive := (eventOf gate (lifecycle.transaction, stage)).amountPositive
    unfold postedRows at posted
    split at posted
    · cases posted
    · rw [List.mem_singleton.mp posted, settledAmount]
      split
      · show ((eventOf gate (lifecycle.transaction, stage)).amountMinor).natAbs ≤ 500001
        omega
      · show (-(eventOf gate (lifecycle.transaction, stage)).amountMinor).natAbs ≤ 500001
        omega
      · show (-(eventOf gate (lifecycle.transaction, stage)).amountMinor).natAbs ≤ 500001
        omega
      · exact Nat.zero_le _

/-- The second event of a regular lifecycle is a capture, which the rules post. -/
theorem regular_captures {opening capture : Stage} {more : List Stage}
    (regular : Regular (opening :: capture :: more)) : capture.eventType = .capture := by
  cases regular with
  | captured pair | reversed pair => exact pair.captures

/-- A batch has a posted event, the capture of its first transaction. -/
theorem batch_posted_some : (projectAll shippedRules (batch.events gate)).posted ≠ [] := by
  have listed : batch.head.id ∈ transactionIds (batch.events gate) :=
    (batch.mem_transaction_ids gate).mpr ⟨batch.head, List.mem_cons_self, rfl⟩
  obtain ⟨state, same⟩ := batch.head.projected gate shippedRules
  have staged : eventOf gate batch.captureStaged ∈ batch.head.events gate :=
    List.mem_map_of_mem (batch.starts ▸ List.mem_cons_of_mem _ List.mem_cons_self)
  have captures : (eventOf gate batch.captureStaged).eventType = .capture :=
    regular_captures (batch.starts ▸ batch.head.regular)
  have lines : postings shippedRules (eventOf gate batch.captureStaged) ≠ [] := by
    rw [postings, shippedRules, captures]
    exact List.cons_ne_nil _ _
  refine List.ne_nil_of_mem (a := postedRow (eventOf gate batch.captureStaged)) ?_
  rw [project_all_posted]
  refine List.mem_flatMap.mpr ⟨_, listed, ?_⟩
  rw [batch.history_lifecycle gate List.mem_cons_self, same]
  refine List.mem_flatMap.mpr ⟨_, staged, ?_⟩
  rw [postedRows, if_neg lines]
  exact List.mem_singleton_self _

end Posted

/-! ## The payloads of a batch -/

section Payloads

/-- No digit, and no text without the letter, spells the email field. -/
theorem without_letter {text : Str} (none : point 'u' ∉ text) : ¬ emailField <:+: text :=
  not_occurs (by decide) none

/-- A text of digits contains no letter u, so no padded number contains the field name of an
email. -/
theorem digits_letter {text : Str} (digits : ∀ c ∈ text, digit c = true) : point 'u' ∉ text :=
  fun member => absurd (digits _ member) (by decide)

variable {gate : Gate} {batch : Batch (lifecycleSources gate.registry)}

/-- The identifiers of a generated event, but for its source, do not spell the email field. -/
theorem stage_identifiers (staged : Transaction × Stage)
    (plain : ¬ emailField <:+: staged.1.source.sourceId) :
    ∀ identifier ∈ (eventOf gate staged).identifiers, ¬ emailField <:+: identifier.1 := by
  have number := digits_letter (zero_padded_digits 10 staged.1.number)
  have version := digits_letter (decimal_digits staged.2.version)
  have processor := digits_letter (zero_padded_digits 2 (staged.1.number % 3 + 1))
  have merchant := digits_letter (zero_padded_digits 3 (staged.1.number % 250))
  have literals : point 'u' ∉ str "txn-" ∧ point 'u' ∉ str ":v" ∧ point 'u' ∉ str "processor-" ∧
      point 'u' ∉ str "merchant-" := by decide
  simp only [PaymentEvent.identifiers, List.forall_mem_cons]
  refine ⟨without_letter ?_, without_letter ?_, plain, without_letter ?_, without_letter ?_,
    fun _ none => absurd none List.not_mem_nil⟩
  · show point 'u' ∉ str "txn-" ++ zeroPadded 10 staged.1.number ++ str ":v" ++
      decimal staged.2.version
    simp only [List.mem_append, not_or]
    exact ⟨⟨⟨literals.1, number⟩, literals.2.1⟩, version⟩
  · show point 'u' ∉ str "txn-" ++ zeroPadded 10 staged.1.number
    simp only [List.mem_append, not_or]
    exact ⟨literals.1, number⟩
  · show point 'u' ∉ str "processor-" ++ zeroPadded 2 (staged.1.number % 3 + 1)
    simp only [List.mem_append, not_or]
    exact ⟨literals.2.2.1, processor⟩
  · show point 'u' ∉ str "merchant-" ++ zeroPadded 3 (staged.1.number % 250)
    simp only [List.mem_append, not_or]
    exact ⟨literals.2.2.2, merchant⟩

/-- A reachable store of the events of a batch has no clear email. -/
theorem batch_leaks (supplies : Supplies gate.registry) (long : 32 ≤ gate.tokenKey.length)
    (digests : HexadecimalGate gate)
    (plain : ∀ source ∈ lifecycleSources gate.registry, ¬ emailField <:+: source.sourceId)
    {database : Database} {rules : Option PostingRules} (reachable : Reachable database rules)
    (events : (batch.events gate).Perm database.tables.events) :
    clearEmailLeakCount database.tables = 0 := by
  have payloads := (reachable_consistent reachable).identified.payloads
  refine List.countP_eq_zero.mpr fun row member => ?_
  have listed := events.mem_iff.mpr (List.mem_map_of_mem (f := AcceptedRow.event) member)
  obtain ⟨staged, inside, same⟩ := List.mem_map.mp listed
  have token : HexadecimalToken row.event :=
    same ▸ validated_hexadecimal digests (batch.reads supplies long inside)
  have clean := payload_without_at token
  have identifiers := @stage_identifiers gate staged (plain _ (batch.source_listed inside))
  rw [same] at identifiers
  rw [leaks, payloads row member, Bool.or_eq_true, occurs_iff, occurs_iff, or_iff_left clean,
    foreign_occurs email_field_foreign token]
  rintro ⟨identifier, held, found⟩
  exact identifiers identifier held found

end Payloads

/-! ## The findings -/

/-- The findings as they should be. -/
structure Findings.Sound (findings : Findings) : Prop where
  blocked : findings.corruptBlocked = true
  reconciled : findings.runs.first.rawReconciled = true
  conflict : 0 < outcomeCount findings.runs.first.outcomes
    (str "QUARANTINED:identity_payload_conflict")
  card : 0 < outcomeCount findings.runs.first.outcomes
    (str "QUARANTINED:prohibited_fields:card_number")
  balanced : findings.runs.first.ledgerBalanced = true
  detected : findings.unbalancedDetected = true
  delta : findings.ledgerDelta = 0
  unchanged : findings.stateUnchanged = true
  crashed : findings.crashRolledBack = true
  lifecycle : findings.lifecycle.counts.businessException = 1 ∧
    findings.lifecycle.counts.ledgerEntry = 0
  versionGap : findings.versionGap.counts.businessException = 2 ∧
    findings.versionGap.counts.ledgerEntry = 0
  checks : findings.checks.Pass
  leaks : findings.leaks = 0
  ordered : findings.runs.first.counts.businessException = 0 ∧
    0 < findings.runs.first.counts.paymentState

/-- Sound findings pass every scenario, all fifteen of them. -/
theorem Findings.Sound.statuses {findings : Findings} (sound : findings.Sound) :
    findings.scenarios.map Scenario.status = List.replicate 15 (str "PASS") := by
  simp [Findings.scenarios, scenario, sound.blocked, sound.reconciled, sound.conflict, sound.card,
    sound.balanced, sound.detected, sound.delta, sound.unchanged, sound.crashed,
    sound.lifecycle.1, sound.lifecycle.2, sound.versionGap.1, sound.versionGap.2,
    sound.checks.matched, sound.checks.blocked, sound.checks.magnitude, sound.checks.recovered,
    sound.leaks, sound.ordered.1, sound.ordered.2, List.replicate]

/-- The single line of the scenario is refused as unbalanced, as the suite expects. -/
theorem unbalanced_detected : unbalancedDetected = .ok true := by
  have refused : ∃ message, assertBalanced [unbalancedLine] = .error (.postingRule message) :=
    ⟨_, rfl⟩
  obtain ⟨message, raised⟩ := refused
  rw [unbalancedDetected, raised]

section Investigation

variable {laboratory : Laboratory} {gate : Gate} {records seed : Int}
  {batch : Batch (lifecycleSources gate.registry)} {input : Input}

/-- The investigation of a prepared input ends in sound findings, whatever the seed: each
scenario's observation is what the scenario expects. -/
theorem investigate_sound (permutes : ∀ seed events, (laboratory.shuffle seed events).Perm events)
    (supplies : Supplies gate.registry) (long : 32 ≤ gate.tokenKey.length)
    (digests : HexadecimalGate gate)
    (plain : ∀ source ∈ lifecycleSources gate.registry, ¬ emailField <:+: source.sourceId)
    {source : Source} (found : streamSource gate.registry = .ok source)
    (prepared : Prepared laboratory gate.registry records seed batch input)
    (apart : batch.Apart gate)
    (differs : laboratory.library.sha256 (jsonLines (arrivalsOf laboratory seed batch)) ≠
      zeroDigest) :
    ∃ findings, investigate laboratory gate shippedRules input = .ok findings ∧ findings.Sound := by
  obtain ⟨runs, ranTwice, loaded⟩ := load_twice_ok supplies long permutes prepared apart
  have posted : runs.store.tables.postedEvent =
      (projectAll shippedRules (batch.events gate)).posted :=
    congrArg Projection.posted loaded.projected
  obtain ⟨checks, checked, pass, reachable, core⟩ := check_settlement_passes
    (posted ▸ batch_posted_bounded gate batch) loaded.reachable (posted ▸ batch_posted_some gate batch)
  have events : checks.store.tables.events = runs.store.tables.events :=
    congrArg (fun core => core.tables.events) core
  have runIds : checks.store.runIds = [str "initial-load", str "exact-replay"] :=
    (congrArg (fun core => core.runIds) core).trans loaded.runIds
  obtain ⟨crashRecords, crashMade, few, crashRead⟩ := crash_fixture_read supplies long found
  have fresh : str "injected-crash" ∉ checks.store.runIds := by
    rw [runIds]
    decide
  have named : Encodable (str "injected-crash") := by decide
  obtain ⟨crashed, rolledBack, kept⟩ := crash_rolled_back (@fixture_ordinary laboratory gate _
    crashRecords (some beforeCommit) checks.store named ⟨_, reachable⟩ fresh
    (fun event member => loaded.modest event (events ▸ member)) (le_of_eq few) crashRead)
  obtain ⟨violation, lifecycle, _, violationMade, violationRan, lifecycleCounts⟩ :=
    @lifecycle_violation_run laboratory gate supplies long source found
  obtain ⟨gapRecords, versionGap, _, gapMade, gapRan, gapCounts⟩ :=
    @version_gap_run laboratory gate supplies long source found
  have leaks : clearEmailLeakCount crashed.tables = 0 := by
    rw [kept]
    exact batch_leaks supplies long digests plain reachable (events ▸ loaded.events)
  refine ⟨⟨true, runs, checks, true, lifecycle, versionGap, true,
    clearEmailLeakCount crashed.tables⟩, ?_, ?_⟩
  · refine bind_ok.mpr ⟨runs, ranTwice, bind_ok.mpr ⟨checks, checked, bind_ok.mpr ⟨true,
      corrupt_blocked prepared differs, bind_ok.mpr ⟨crashRecords, congrArg ofPy crashMade, ?_⟩⟩⟩⟩
    refine bind_ok.mpr ⟨(true, crashed), rolledBack, bind_ok.mpr ⟨violation,
      congrArg ofPy violationMade, bind_ok.mpr ⟨_, violationRan, ?_⟩⟩⟩
    exact bind_ok.mpr ⟨gapRecords, congrArg ofPy gapMade, bind_ok.mpr ⟨_, gapRan,
      bind_ok.mpr ⟨true, unbalanced_detected, rfl⟩⟩⟩
  · exact {
      blocked := rfl
      reconciled := loaded.reconciled
      conflict := loaded.conflict
      card := loaded.card
      balanced := loaded.balanced
      detected := rfl
      delta := by
        show (runs.replay.counts.ledgerEntry : Int) - runs.first.counts.ledgerEntry = 0
        rw [loaded.ledger, sub_self]
      unchanged := decide_eq_true loaded.states
      crashed := rfl
      lifecycle := lifecycleCounts
      versionGap := gapCounts
      checks := pass
      leaks
      ordered := ⟨loaded.exceptions, loaded.paid⟩ }

end Investigation

/-! ## The suite -/

/-- A laboratory whose configuration supplies payment events from a stream, under the shipped
posting rules, with a token key that is long enough. -/
structure Equipped (laboratory : Laboratory) (registry : Registry) (tokenKey : List UInt8) :
    Prop where
  permutes : ∀ seed events, (laboratory.shuffle seed events).Perm events
  sources : loadSourceRegistry laboratory.printed laboratory.sources = .ok registry
  rules : loadPostingRules laboratory.postingRules = .ok shippedRules
  supplies : Supplies registry
  streams : ∃ source, streamSource registry = .ok source
  plain : ∀ source ∈ lifecycleSources registry, ¬ emailField <:+: source.sourceId
  long : 32 ≤ tokenKey.length

/-- The digests of a batch tell apart what they should. -/
structure Telling (laboratory : Laboratory) (registry : Registry) (tokenKey : List UInt8)
    (records seed : Int) : Prop where
  hexadecimal : HexadecimalGate ⟨laboratory.runtime, registry, tokenKey⟩
  conflict : ∀ arrivals valid transactions,
    generateArrivals laboratory.shuffle registry records seed = .ok (arrivals, valid, transactions) →
      CollisionFree laboratory.runtime (ConflictText laboratory.runtime valid)
  zeros : ∀ arrivals valid transactions,
    generateArrivals laboratory.shuffle registry records seed = .ok (arrivals, valid, transactions) →
      laboratory.library.sha256 (jsonLines arrivals) ≠ zeroDigest

/-- What the suite reports when it passes. -/
structure EvidenceSummary.Passes (summary : EvidenceSummary) : Prop where
  scenarioCount : summary.scenarioCount = 15
  passed : summary.passed = 15
  failed : summary.failed = 0
  statuses : ∀ row ∈ summary.scenarios, row.status = str "PASS"
  balanced : summary.measured.first.ledgerBalanced = true
  delta : summary.measured.replayLedgerDelta = 0
  unchanged : summary.measured.replayStateUnchanged = true

/-- Sound findings are summarized as passed, every count and flag of the summary included. -/
theorem Findings.Sound.passes {findings : Findings} (sound : findings.Sound) (profile : Str)
    (input : Input) : (findings.summary profile input).Passes := by
  have statuses := sound.statuses
  have count : findings.scenarios.length = 15 := by
    have lengths := congrArg List.length statuses
    rwa [List.length_map, List.length_replicate] at lengths
  have each : ∀ row ∈ findings.scenarios, row.status = str "PASS" := by
    intro row member
    have listed := List.mem_map_of_mem (f := Scenario.status) member
    rw [statuses] at listed
    exact List.eq_of_mem_replicate listed
  have all : (findings.scenarios.countP fun row => row.status = str "PASS") = 15 := by
    rw [List.countP_eq_length.mpr fun row member => decide_eq_true (each row member), count]
  constructor
  · exact count
  · exact all
  · show ((findings.scenarios.length : Int) -
      (findings.scenarios.countP fun row => row.status = str "PASS" : Nat)) = 0
    rw [count, all]
    rfl
  · exact each
  · exact sound.balanced
  · exact sound.delta
  · exact sound.unchanged

/-- The suite of every profile passes, for any seed, any shuffle and any files that were there:
it returns, and all of its fifteen scenarios are passed. -/
theorem run_evidence_passes {laboratory : Laboratory} {registry : Registry} {tokenKey : List UInt8}
    {profile : Str} {records seed : Int} (known : profileRecords.lookup profile = some records)
    (equipped : Equipped laboratory registry tokenKey)
    (telling : Telling laboratory registry tokenKey records seed) (files : Files) :
    ∃ summary, runEvidence laboratory profile tokenKey seed files = .ok summary ∧
      summary.Passes := by
  have size : 100 ≤ records ∧ records ≤ 1000000 := by
    have keyed : Keyed Prod.fst profileRecords := by decide
    have listed := keyed.lookup_mem.mp known
    simp only [profileRecords, List.mem_cons, Prod.mk.injEq, List.not_mem_nil, or_false] at listed
    rcases listed with ⟨_, rfl⟩ | ⟨_, rfl⟩ | ⟨_, rfl⟩ <;> decide
  obtain ⟨source, found⟩ := equipped.streams
  obtain ⟨batch, input, prepares, prepared⟩ := @prepare_input_ok laboratory registry records seed
    equipped.permutes equipped.supplies size.1 size.2 files
  have free := telling.conflict _ _ _ prepared.generated
  have apart := @Batch.apart ⟨laboratory.runtime, registry, tokenKey⟩ equipped.supplies
    equipped.long batch fun first second isFirst isSecond =>
      free first second (batch.conflict_text isFirst) (batch.conflict_text isSecond)
  have differs := telling.zeros _ _ _ prepared.generated
  obtain ⟨findings, investigated, sound⟩ := @investigate_sound laboratory
    ⟨laboratory.runtime, registry, tokenKey⟩ records seed batch input equipped.permutes
    equipped.supplies equipped.long telling.hexadecimal equipped.plain source found prepared apart
    differs
  have passes := sound.passes profile input
  have minimum : minimumRecords profile = .ok records := by
    rw [minimumRecords, known]
  refine ⟨findings.summary profile input, ?_, passes⟩
  refine bind_ok.mpr ⟨records, congrArg ofPy minimum, bind_ok.mpr ⟨registry,
    congrArg ofPy equipped.sources, bind_ok.mpr ⟨shippedRules, congrArg ofPy equipped.rules, ?_⟩⟩⟩
  refine bind_ok.mpr ⟨input, prepares, bind_ok.mpr ⟨findings, investigated, ?_⟩⟩
  exact if_pos (passes.passed.trans passes.scenarioCount.symm)

/-! ## The shipped configuration -/

/-- A hexadecimal text has hexadecimal digits only. -/
theorem hex_hexadecimal (data : PyBytes.Bytes) : ∀ c ∈ PyBytes.hex data, Hexadecimal c := by
  have digit : ∀ value < 16, Hexadecimal (Fin.ofNat 0x110000 (hexDigit value)) := by decide
  intro c member
  obtain ⟨byte, _, digits⟩ := List.mem_flatMap.mp member
  have bound := byte.toNat_lt
  simp only [PyBytes.hexByte, List.mem_cons, List.not_mem_nil, or_false] at digits
  rcases digits with rfl | rfl
  · exact digit _ (by omega)
  · exact digit _ (by omega)

/-- The registry of the shipped sources. -/
def shippedRegistry : Registry :=
  (loadSourceRegistry (fun _ => []) shippedSources).toOption.getD []

/-- The source configuration that is shipped is loaded, into the registry that the suite runs
with. -/
theorem shipped_sources_loaded :
    loadSourceRegistry (fun _ => []) shippedSources = .ok shippedRegistry := by
  have some : (loadSourceRegistry (fun _ => []) shippedSources).toOption.isSome := by
    decide +kernel
  rw [shippedRegistry]
  cases loaded : loadSourceRegistry (fun _ => []) shippedSources with
  | ok registry => rfl
  | error error =>
    rw [loaded] at some
    cases some

/-- The lifecycle sources of the shipped registry are payment sources with identifiers of their
own, and there is one at least. -/
theorem shipped_supplies : Supplies shippedRegistry where
  keyed := by decide +kernel
  named := by decide +kernel
  nonempty := by decide +kernel
  contract := by decide +kernel
  identified := by decide +kernel

/-- The first of the shipped sources. -/
def checkoutSource : Source :=
  ⟨str "checkout-01", str "checkout", str "stream", str "payment_event", str "payments", 5⟩

/-- The digest of the smoke batch of seed 42, turned by it. -/
def smokeDigest : AsciiText :=
  ⟨str "def723ad23ebe752e6def74d186eb64bd8b583c7005a01693172cc1bffef04a8", by decide⟩

/-- The laboratory over the shipped configuration, for the smoke batch of seed 42. -/
def smokeLaboratory : Laboratory where
  runtime := asciiRuntime
  library := { manifestLibrary with sha256 := fun _ => smokeDigest }
  shuffle := turned
  printed := fun _ => []
  sources := shippedSources
  postingRules := shippedDocument
  work := str "work"
  clock := fun _ => (base, base)

/-- A laboratory with this configuration is equipped, under any key that is long enough, here one
of zeros. -/
theorem smoke_equipped : Equipped smokeLaboratory shippedRegistry (List.replicate 32 0) where
  permutes := turned_perm
  sources := shipped_sources_loaded
  rules := shipped_rules_loaded
  supplies := shipped_supplies
  streams := ⟨checkoutSource, by rfl⟩
  plain := by decide +kernel
  long := by decide

/-- The fingerprints of the first event of the shipped sources, and of its conflict. -/
theorem shipped_fingerprints : (transactionEvents checkoutSource 1).toOption.bind
    (conflictFingerprints asciiRuntime) =
      some (⟨str "a5d072d6497e8767a05ae5f8dc102c55ae85051224004525c08eb54595dd29d8", by decide⟩,
        ⟨str "1add0ec7e7b434b11cd5069dcb8fac47e3fc577cad0066fad6081718d8424544", by decide⟩) := by
  decide +kernel

/-- The fingerprints of the conflict depend on the first event only, so they may be computed from
the first transaction of a long batch. -/
theorem conflict_fingerprints_opens {runtime : Runtime} {raws valid : List Fields}
    (some : raws ≠ []) (opens : raws <+: valid) :
    conflictFingerprints runtime valid = conflictFingerprints runtime raws := by
  obtain ⟨first, rest, rfl⟩ := List.exists_cons_of_ne_nil some
  obtain ⟨more, rfl⟩ := opens
  rfl

/-- The digests of the smoke suite tell apart what they should for its profile and seed 42.

Proof: the conflict varies the first authorization, and this does not depend on the order of the
arrivals, so the two fingerprints are the shipped ones, which differ. The digest of the file is
not the one of sixty-four zeros. -/
theorem smoke_telling :
    Telling smokeLaboratory shippedRegistry (List.replicate 32 0) 5000 42 where
  hexadecimal _ _ := hex_hexadecimal _
  conflict arrivals valid transactions generated := by
    obtain ⟨source, _, raws, found, made, opens⟩ := generate_arrivals_opens generated
    have first : sourceOf (lifecycleSources shippedRegistry) 1 = .ok checkoutSource := by rfl
    cases found.symm.trans first
    have fingerprints := shipped_fingerprints
    rw [made] at fingerprints
    obtain ⟨_, authorization, capture, rest, _, _, rfl⟩ := transaction_opens made
    exact conflict_free ((conflict_fingerprints_opens (List.cons_ne_nil _ _) opens).trans
      fingerprints) (by decide)
  zeros _ _ _ _ := by
    show smokeDigest ≠ zeroDigest
    decide

/-- The smoke suite of the shipped configuration passes, with real digests throughout. -/
theorem smoke_evidence_passes :
    ∃ summary, runEvidence smokeLaboratory (str "smoke") (List.replicate 32 0) 42
        (fun _ => none) = .ok summary ∧ summary.Passes :=
  run_evidence_passes (by decide) smoke_equipped smoke_telling _

end LedgerFlow.Evidence
