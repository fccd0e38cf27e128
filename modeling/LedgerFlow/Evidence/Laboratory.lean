import LedgerFlow.Simulator.Fixtures
import LedgerFlow.Simulator.Measured
import LedgerFlow.SourceRegistry
import LedgerFlow.Store.EmailLeak
import LedgerFlow.Store.Settlement

/-!
# The failure laboratory

`runEvidence` follows `run_evidence` in `evidence.py`: it generates a batch, gates it by its
manifest, loads it twice, reconciles its settlement, disturbs what can be disturbed, and lists
fifteen scenarios. It raises unless all of them pass.

The work directory is new, so that every store starts empty. The two documents of the
configuration, the clock and the seeded shuffle are given. Elapsed times, the machine, the
digests over the report and the report's two files are left out.
-/

namespace LedgerFlow.Evidence

open PyText PyJson PyDateTime Grouping Programs Manifests Simulator

/-! ## Arguments and results -/

/-- What stops the laboratory. -/
inductive LaboratoryError where
  /-- an exception of the stores, the generator or the configuration -/
  | raised (error : PyError)
  /-- an exception of the files -/
  | file (error : FileError)
  deriving DecidableEq

/-- A result of the laboratory. -/
abbrev Lab (α : Type) := Except LaboratoryError α

/-- A computation that may raise, as a part of the laboratory. -/
def ofPy {α : Type} (result : Py α) : Lab α := result.mapError .raised

/-- Reading or writing a file, as a part of the laboratory. -/
def ofFile {α : Type} (result : Except FileError α) : Lab α := result.mapError .file

/-- What the laboratory finds around it: library functions, the shuffle of a seed, the decoded
`sources.json` and `posting_rules.json`, its work directory, and the clock readings of the start
and the end of every run. -/
structure Laboratory where
  runtime : Runtime
  library : Library
  shuffle : Int → List Fields → List Fields
  printed : Json → Str
  sources : Json
  postingRules : Json
  work : Str
  clock : Str → Timestamp × Timestamp

/-- `PROFILE_RECORDS` -/
def profileRecords : List (Str × Int) :=
  [(str "smoke", 5000), (str "evidence", 50000), (str "stress", 250000)]

/-- `PROFILE_RECORDS[profile]` -/
def minimumRecords (profile : Str) : Py Int :=
  match profileRecords.lookup profile with
  | some records => .ok records
  | none => .error (.value (str "unknown profile: " ++ profile))

/-- A scenario. -/
structure Scenario where
  name : Str
  status : Str
  evidence : Str
  deriving DecidableEq

/-- `_scenario` -/
def scenario (name : Str) (passed : Bool) (evidence : Str) : Scenario :=
  ⟨name, if passed then str "PASS" else str "FAIL", evidence⟩

/-- The measurements of the two runs. -/
structure Measured where
  first : Summary
  replayLedgerDelta : Int
  replayStateUnchanged : Bool
  settlementGroups : Nat

/-- The summary that `run_evidence` returns. -/
structure EvidenceSummary where
  profile : Str
  generation : Generated
  manifest : Fields
  measured : Measured
  scenarioCount : Nat
  passed : Nat
  failed : Int
  scenarios : List Scenario

/-! ## Files -/

/-- `work / "payment_events.jsonl"` -/
def rawPath (work : Str) : Path := asciiPath work (str "payment_events.jsonl") (by decide)

/-- `work / "payment_events.manifest.json"` -/
def manifestPath (work : Str) : Path :=
  asciiPath work (str "payment_events.manifest.json") (by decide)

/-- `work / "corrupted.manifest.json"` -/
def corruptedPath (work : Str) : Path := asciiPath work (str "corrupted.manifest.json") (by decide)

/-- The verified input of the runs. -/
structure Input where
  generation : Generated
  manifest : Manifest
  verified : Fields
  files : Files

section Parts

variable (laboratory : Laboratory)

/-- The batch is generated, and its manifest is built and verified. -/
def prepareInput (registry : Registry) (records seed : Int) (files : Files) : Lab Input := do
  let generated ← ofPy (generatePaymentEvents laboratory.shuffle registry records
    (rawPath laboratory.work) seed files)
  let built := buildManifest laboratory.library (rawPath laboratory.work)
    (manifestPath laboratory.work) generated.2
  let manifest ← ofFile built.1
  let checked := verifyManifest laboratory.library (rawPath laboratory.work)
    (manifestPath laboratory.work) built.2
  let verified ← ofFile checked.1
  .ok ⟨generated.1, manifest, verified, checked.2⟩

/-- A text of zeros, which is stated for a digest, is ASCII. -/
theorem zeros_ascii : Ascii (List.replicate 64 (point '0')) := by
  intro c member
  rw [List.eq_of_mem_replicate member]
  decide

/-- `"0" * 64` -/
def zeroDigest : AsciiText := ⟨List.replicate 64 (point '0'), zeros_ascii⟩

/-- The manifest with a digest of zeros is written and verified. -/
def corruptBlocked (input : Input) : Lab Bool := do
  let corrupted := { input.manifest with sha256 := zeroDigest }
  let text ← ofFile (jsonDumps (.obj corrupted.fields))
  let written := input.files.write (corruptedPath laboratory.work) (utf8 text)
  match (verifyManifest laboratory.library (rawPath laboratory.work)
      (corruptedPath laboratory.work) written).1 with
  | .ok _ => .ok false
  | .error (.manifest _) => .ok true
  | .error error => .error (.file error)

/-! ## Stores -/

/-- A call of `process` under these rules. -/
def Laboratory.call (runId inputSha256 : Str) (records : List Fields) (rules : PostingRules)
    (failpoint : Option Str) : ProcessCall where
  runId
  inputSha256
  records
  raises := none
  postingRules := rules
  failpoint
  startedAt := (laboratory.clock runId).1
  finishedAt := (laboratory.clock runId).2

/-- What a program on the store returns, and what it leaves. -/
def onStore {α : Type} (program : Sql α) (database : Database) : Lab (α × Database) :=
  match (program.run.eval perform database.opened).1 with
  | .ok result => .ok (result, (program.run.eval perform database.opened).2.durable)
  | .error error => .error (.raised error)

/-- A program returns on the store what it evaluates to there, and leaves the durable part of what
it leaves. -/
theorem on_store_ok {α : Type} {program : Sql α} {value : α}
    {store after : Database} :
    onStore program store = .ok (value, after) ↔
      ∃ ended, program.run.eval perform store.opened = (.ok value, ended) ∧ ended.durable = after := by
  unfold onStore
  cases program.run.eval perform store.opened with
  | mk outcome ended =>
    cases outcome with
    | ok other =>
      simp only [Except.ok.injEq, Prod.mk.injEq]
      constructor
      · rintro ⟨rfl, rfl⟩
        exact ⟨ended, ⟨rfl, rfl⟩, rfl⟩
      · rintro ⟨_, ⟨rfl, rfl⟩, rfl⟩
        exact ⟨rfl, rfl⟩
    | error error => simp

/-- `process` on the store. -/
def processed (gate : Gate) (call : ProcessCall) : Database → Lab (Summary × Database) :=
  onStore (process gate call)

/-- `reconcile_settlement` of these rows on the store. -/
def reconciled (rows : List (SettlementKey × Int)) : Database → Lab (Reconciliation × Database) :=
  onStore (reconcileSettlement ((rows.map actualRow).map .ok))

/-- The two runs over the input, and the store they leave. -/
structure Runs where
  first : Summary
  replay : Summary
  store : Database

/-- The initial load into a new store, and its exact replay. -/
def loadTwice (gate : Gate) (rules : PostingRules) (input : Input) : Lab Runs := do
  let records ← ofFile (iterJsonl laboratory.library input.files (rawPath laboratory.work))
  let first ← processed gate
    (laboratory.call (str "initial-load") input.manifest.sha256.1 records rules none) emptyDatabase
  let again ← ofFile (iterJsonl laboratory.library input.files (rawPath laboratory.work))
  let replay ← processed gate
    (laboratory.call (str "exact-replay") input.manifest.sha256.1 again rules none) first.2
  .ok ⟨first.1, replay.1, replay.2⟩

/-- The expected settlement with 101 minor units less in its first row. -/
def mismatched : List (SettlementKey × Int) → List (SettlementKey × Int)
  | [] => []
  | (key, amount) :: rest => (key, amount - 101) :: rest

/-- The three reconciliations, and the store they leave. -/
structure SettlementChecks where
  groups : Nat
  pass : Reconciliation
  fail : Reconciliation
  restored : Reconciliation
  store : Database

/-- The expected settlement is reconciled, then a mismatch, then the expected settlement. -/
def checkSettlement (store : Database) : Lab SettlementChecks := do
  let expected ← ofPy (expectedSettlement.run.eval perform store.opened).1
  let pass ← reconciled expected store
  let fail ← reconciled (mismatched expected) pass.2
  let restored ← reconciled expected fail.2
  .ok ⟨expected.length, pass.1, fail.1, restored.1, restored.2⟩

/-- The call with a failpoint before its commit: whether it raises a `RuntimeError` and leaves
as many accepted events as before, and what it leaves. -/
def crashRolledBack (gate : Gate) (call : ProcessCall) (store : Database) : Lab (Bool × Database) :=
  let ended := (process gate call).run.eval perform store.opened
  match ended.1 with
  | .ok _ => .ok (false, ended.2.durable)
  | .error (.runtime _) => .ok (decide (ended.2.durable.tables.acceptedEvent.length =
      store.tables.acceptedEvent.length), ended.2.durable)
  | .error error => .error (.raised error)

/-- The crash fixture with the version of its second event set to three. -/
def versionGapEvents (events : List Fields) : Py (List Fields) :=
  match events with
  | first :: second :: rest =>
      .ok (first :: assign (str "event_id") (.str (str "txn-0000888888:v3"))
        (assign (str "transaction_version") (.int 3) second) :: rest)
  | _ => .error (.other (str "list index out of range"))

/-- The posting line that no other line balances. -/
def unbalancedLine : PostingLine where
  entryId := str "fixture:1"
  eventId := ⟨str "fixture", by decide⟩
  transactionId := ⟨str "fixture", by decide⟩
  processorId := ⟨str "fixture", by decide⟩
  merchantId := ⟨str "fixture", by decide⟩
  currency := .inr
  account := str "processor_receivable"
  signedMinor := 100
  postingRuleVersion := 1

/-- Whether the unbalanced line is refused. -/
def unbalancedDetected : Lab Bool :=
  match assertBalanced [unbalancedLine] with
  | .ok () => .ok false
  | .error (.postingRule _) => .ok true
  | .error error => .error (.raised error)

/-! ## Scenarios -/

/-- What the scenarios are judged by. -/
structure Findings where
  corruptBlocked : Bool
  runs : Runs
  checks : SettlementChecks
  crashRolledBack : Bool
  lifecycle : Summary
  versionGap : Summary
  unbalancedDetected : Bool
  leaks : Nat

/-- `replay["ledger_entry"] - ledger_before` -/
def Findings.ledgerDelta (findings : Findings) : Int :=
  findings.runs.replay.counts.ledgerEntry - findings.runs.first.counts.ledgerEntry

/-- `replay["payment_state_sha256"] == state_before` -/
def Findings.stateUnchanged (findings : Findings) : Bool :=
  decide (findings.runs.replay.paymentStateSha256 = findings.runs.first.paymentStateSha256)

/-- The scenarios, in order. -/
def Findings.scenarios (findings : Findings) : List Scenario :=
  let first := findings.runs.first
  let checks := findings.checks
  [scenario (str "manifest_checksum_gate") findings.corruptBlocked (str "corrupt checksum rejected"),
    scenario (str "raw_outcome_reconciliation") first.rawReconciled
      (str "every arrival classified"),
    scenario (str "identity_payload_conflict")
      (decide (0 < outcomeCount first.outcomes (str "QUARANTINED:identity_payload_conflict")))
      (str "same event ID with altered money quarantined"),
    scenario (str "prohibited_card_field")
      (decide (0 < outcomeCount first.outcomes (str "QUARANTINED:prohibited_fields:card_number")))
      (str "PAN-like field blocked before curated storage"),
    scenario (str "double_entry_balance") first.ledgerBalanced
      (str "every posting group sums to zero"),
    scenario (str "unbalanced_rule_detector") findings.unbalancedDetected
      (str "unbalanced fixture rejected"),
    scenario (str "exact_replay_no_second_effect")
      (decide (findings.ledgerDelta = 0) && findings.stateUnchanged)
      (str "ledger_delta=" ++ decimal findings.ledgerDelta),
    scenario (str "crash_before_commit") findings.crashRolledBack
      (str "accepted and ledger state rolled back"),
    scenario (str "lifecycle_violation")
      (decide (findings.lifecycle.counts.businessException = 1 ∧
        findings.lifecycle.counts.ledgerEntry = 0))
      (str "capture without authorization excluded from ledger"),
    scenario (str "transaction_version_gap")
      (decide (findings.versionGap.counts.businessException = 2 ∧
        findings.versionGap.counts.ledgerEntry = 0))
      (str "non-contiguous lifecycle excluded as one transaction"),
    scenario (str "settlement_match") checks.pass.settlementReconciled
      (str "external totals equal internal expectation"),
    scenario (str "settlement_mismatch_gate")
      (!checks.fail.settlementReconciled &&
        decide (checks.fail.settlementAbsoluteDeltaMinor = 101))
      (str "101 minor-unit difference blocks publication"),
    scenario (str "settlement_recovery") checks.restored.settlementReconciled
      (str "corrected evidence clears gate"),
    scenario (str "clear_email_exclusion") (decide (findings.leaks = 0))
      (str "curated event payloads contain only HMAC tokens"),
    scenario (str "out_of_order_determinism")
      (decide (first.counts.businessException = 0 ∧ 0 < first.counts.paymentState))
      (str "arrival shuffle reconstructed by transaction_version")]

/-- The summary of the findings. -/
def Findings.summary (findings : Findings) (profile : Str) (input : Input) : EvidenceSummary :=
  let scenarios := findings.scenarios
  let passed := scenarios.countP fun row => row.status = str "PASS"
  {
    profile
    generation := input.generation
    manifest := input.verified
    measured := {
      first := findings.runs.first
      replayLedgerDelta := findings.ledgerDelta
      replayStateUnchanged := findings.stateUnchanged
      settlementGroups := findings.checks.groups }
    scenarioCount := scenarios.length
    passed
    failed := scenarios.length - passed
    scenarios }

/-! ## The laboratory -/

/-- The runs and checks, in order. -/
def investigate (gate : Gate) (rules : PostingRules) (input : Input) : Lab Findings := do
  let runs ← loadTwice laboratory gate rules input
  let checks ← checkSettlement runs.store
  let blocked ← corruptBlocked laboratory input
  let crashEvents ← ofPy (uniqueCrashFixture gate.registry)
  let crashed ← crashRolledBack gate
    (laboratory.call (str "injected-crash") (gate.runtime.sha256 (str "injected-crash")).1
      crashEvents rules (some (str "before_commit"))) checks.store
  let violation ← ofPy (lifecycleViolationFixture gate.registry)
  let lifecycle ← processed gate
    (laboratory.call (str "lifecycle-violation") (gate.runtime.sha256 (str "lifecycle-violation")).1
      violation rules none) emptyDatabase
  let gapEvents ← ofPy (uniqueCrashFixture gate.registry >>= versionGapEvents)
  let versionGap ← processed gate
    (laboratory.call (str "version-gap") (gate.runtime.sha256 (str "version-gap")).1
      gapEvents rules none) emptyDatabase
  let detected ← unbalancedDetected
  .ok {
    corruptBlocked := blocked
    runs
    checks
    crashRolledBack := crashed.1
    lifecycle := lifecycle.1
    versionGap := versionGap.1
    unbalancedDetected := detected
    leaks := clearEmailLeakCount crashed.2.tables }

/-- `run_evidence` -/
def runEvidence (profile : Str) (tokenKey : List UInt8) (seed : Int) (files : Files) :
    Lab EvidenceSummary := do
  let records ← ofPy (minimumRecords profile)
  let registry ← ofPy (loadSourceRegistry laboratory.printed laboratory.sources)
  let rules ← ofPy (loadPostingRules laboratory.postingRules)
  let input ← prepareInput laboratory registry records seed files
  let findings ← investigate laboratory ⟨laboratory.runtime, registry, tokenKey⟩ rules input
  let summary := findings.summary profile input
  if summary.passed = summary.scenarioCount then .ok summary
  else .error (.raised (.runtime (str "failure laboratory did not pass: " ++
    decimal summary.passed ++ str "/" ++ decimal summary.scenarioCount)))

end Parts

end LedgerFlow.Evidence
