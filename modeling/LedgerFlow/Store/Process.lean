import LedgerFlow.Store.Database

/-!
# The ledger store's operations

The programs follow `LedgerStore` in `store.py`: `process`, `reconcile_settlement`,
`expected_settlement` and `summary`. Each opens its own connection and closes it when
its body ends. Loops are recursions over the lists they read, one statement after
another, so a run may be abandoned between any two statements.

The iterator of raw events is the list of records it yields and the error it raises
after them, if any. Clock readings are arguments.
-/

namespace LedgerFlow

open PyText PyJson PyDateTime Grouping Programs

/-! ## Arguments -/

/-- The arguments of `process` that validation uses. -/
structure Gate where
  runtime : Runtime
  registry : Registry
  tokenKey : List UInt8

/-- The arguments of `process`, with the clock readings of its start and end. -/
structure ProcessCall where
  runId : Str
  inputSha256 : Str
  records : List Fields
  raises : Option PyError
  postingRules : PostingRules
  failpoint : Option Str
  startedAt : Timestamp
  finishedAt : Timestamp

/-- `Counter[tuple[str, str]]` -/
abbrev Counts := List ((Outcome × Str) × Int)

/-- `counts[(outcome, reason)] += 1` -/
def countOne (outcome : Outcome) (reason : Str) (counts : Counts) : Counts :=
  accumulate (outcome, reason) 1 counts

/-! ## Connections -/

/-- `with closing(self.connect()) as connection:` the body's result or error is passed
on after the connection is closed. -/
def withConnection {α : Type} (body : Sql α) : Sql α := do
  connect
  let outcome ← tryCatch (body >>= fun result => pure (.ok result)) fun error =>
    pure (.error error)
  close
  raising outcome

/-! ## The identity gate -/

/-- `raw.get("event_id") if isinstance(raw.get("event_id"), str) else None` -/
def claimedEventId (raw : Fields) : Option Str :=
  match get raw (str "event_id") with
  | some (.str eventId) => some eventId
  | _ => none

/-- `canonical_json(redact_payload(raw))`, where `redact_payload` returns. The encoder takes
one frame a level, fewer than the redaction took. -/
def redactedPayload (runtime : Runtime) (raw : Fields) : Str :=
  canonicalJson (.obj (redactFields runtime raw))

/-- `"identity_payload_conflict"` -/
def conflictReason : Str := str "identity_payload_conflict"

/-- `_ingest_one`. A record in conflict was validated, so that it binds no object or list and
its redaction cannot raise. -/
def ingestOne (gate : Gate) (runId : Str) (raw : Fields) (counts : Counts) : Sql Counts :=
  match validateEvent gate.runtime gate.registry gate.tokenKey raw with
  | .error (.contract reason) => do
      let redacted ← raising (redactPayload gate.runtime raw)
      execute (.insertQuarantine runId (claimedEventId raw) reason (canonicalJson (.obj redacted)))
      pure (countOne .quarantined reason counts)
  | .error error => throw error
  | .ok event => do
      let fingerprint := identityFingerprint gate.runtime raw
      match ← select (.identityOf event.eventId) with
      | some stored =>
          if stored = fingerprint then
            pure (countOne .duplicate (str "exact_event_replay") counts)
          else do
            execute (.insertQuarantine runId (some event.eventId.1) conflictReason
              (redactedPayload gate.runtime raw))
            pure (countOne .quarantined conflictReason counts)
      | none => do
          execute (.insertSeenEvent ⟨event.eventId, fingerprint, runId⟩)
          execute (.insertAcceptedEvent ⟨event, canonicalJson (.obj event.safeDict)⟩)
          pure (countOne .accepted (str "contract_and_identity_passed") counts)

/-- The loop over the raw events. -/
def ingestAll (gate : Gate) (runId : Str) (raises : Option PyError) :
    List Fields → Counts → Sql Counts
  | [], counts =>
      match raises with
      | none => pure counts
      | some error => throw error
  | raw :: rest, counts => do
      let counts ← ingestOne gate runId raw (countOne .arrival (str "raw_record_read") counts)
      ingestAll gate runId raises rest counts

/-! ## Projections -/

/-- The exception rows of an invalid history. -/
def insertExceptions (reason : Violation) : List PaymentEvent → Sql Unit
  | [] => pure ()
  | event :: rest => do
      execute (.insertBusinessException (exceptionRow reason event))
      insertExceptions reason rest

/-- The lines of one event. -/
def insertLines : List PostingLine → Sql Unit
  | [] => pure ()
  | line :: rest => do
      execute (.insertLedgerEntry line)
      insertLines rest

/-- The posted row of one event, if it has lines. -/
def insertPosted (event : PaymentEvent) (lines : List PostingLine) : Sql Unit :=
  if lines = [] then pure () else execute (.insertPostedEvent (postedRow event))

/-- The posted row and the lines of one event. -/
def postEvent (rules : PostingRules) (event : PaymentEvent) : Sql Unit := do
  let lines ← raising (buildPostings event rules)
  insertPosted event lines
  insertLines lines

/-- The posted rows and lines of a valid history. -/
def postEvents (rules : PostingRules) : List PaymentEvent → Sql Unit
  | [] => pure ()
  | event :: rest => do
      postEvent rules event
      postEvents rules rest

/-- `_project_transaction` -/
def projectTransaction (rules : PostingRules) (events : List PaymentEvent) : Sql Unit :=
  match events.getLast? with
  | none => pure ()
  | some current =>
      match verdict events with
      | some reason => insertExceptions reason events
      | none => do
          postEvents rules events
          execute (.insertPaymentState (stateRow events current))

/-- The loop over the transactions. -/
def projectTransactions (rules : PostingRules) : List Identifier → Sql Unit
  | [] => pure ()
  | transactionId :: rest => do
      let events : List PaymentEvent ← select (.transactionEvents transactionId)
      projectTransaction rules events
      projectTransactions rules rest

/-- The deletions before a rebuild. -/
def clearProjections : Sql Unit := do
  execute .deleteSettlementException
  execute .deleteSettlementActual
  execute .deleteLedgerEntry
  execute .deletePostedEvent
  execute .deleteBusinessException
  execute .deletePaymentState

/-- `_rebuild_projections` -/
def rebuildProjections (rules : PostingRules) : Sql Unit := do
  clearProjections
  let ids : List Identifier ← select .transactionIds
  projectTransactions rules ids

/-! ## Runs -/

/-- The order of `sorted(counts.items())`. -/
def byOutcome (first second : (Outcome × Str) × Int) : Prop :=
  toLex (first.1.1.text, toLex (first.1.2, first.2)) ≤
    toLex (second.1.1.text, toLex (second.1.2, second.2))

instance : DecidableRel byOutcome := fun first second =>
  inferInstanceAs (Decidable (toLex (first.1.1.text, toLex (first.1.2, first.2)) ≤
    toLex (second.1.1.text, toLex (second.1.2, second.2))))

/-- The outcome rows of a run. -/
def insertOutcomes (runId : Str) : Counts → Sql Unit
  | [] => pure ()
  | ((outcome, reason), count) :: rest => do
      execute (.insertRunOutcome ⟨runId, outcome, reason, count⟩)
      insertOutcomes runId rest

/-- `if failpoint == name: raise RuntimeError(...)` -/
def failAt (failpoint : Option Str) (name : Str) : Sql Unit :=
  if failpoint = some name then throw (.runtime (str "injected_failure:" ++ name)) else pure ()

/-- The statements of the data transaction, between its opening and its commit. -/
def transactionBody (gate : Gate) (call : ProcessCall) : Sql Unit := do
  let counts ← ingestAll gate call.runId call.raises call.records []
  failAt call.failpoint (str "after_identity_gate")
  rebuildProjections call.postingRules
  failAt call.failpoint (str "before_commit")
  insertOutcomes call.runId (counts.insertionSort byOutcome)

/-- The body of the `try` statement. -/
def dataTransaction (gate : Gate) (call : ProcessCall) : Sql Unit := do
  beginImmediate
  transactionBody gate call
  commit .data

/-- The `except` clause. -/
def recordFailure (call : ProcessCall) (error : PyError) : Sql Unit := do
  rollback
  execute (.failRun call.finishedAt error.text call.runId)
  commit .failed
  throw error

/-- The body of `process` on its connection. -/
def runProcess (gate : Gate) (call : ProcessCall) : Sql Unit := do
  execute (.insertRunJournal call.runId call.inputSha256 call.startedAt)
  commit .started
  tryCatch (dataTransaction gate call) (recordFailure call)
  execute (.succeedRun call.finishedAt call.runId)
  commit .succeeded

/-! ## Summaries -/

/-- The key of an outcome in a summary: `f"{outcome}:{reason}"`. -/
def outcomeKey (outcome : Outcome) (reason : Str) : Str := outcome.text ++ str ":" ++ reason

/-- The result of `summary`. -/
structure Summary where
  runId : Str
  rawRecords : Int
  acceptedNew : Int
  duplicates : Int
  quarantined : Int
  rawReconciled : Bool
  counts : TableCounts
  unbalancedPostingGroups : Nat
  ledgerBalanceMinor : Int
  ledgerBalanced : Bool
  paymentStateSha256 : AsciiText
  outcomes : List (Str × Int)

/-- The columns of a state row. -/
def StateRow.json (row : StateRow) : Json :=
  .arr [.str row.transactionId.1, .int row.currentVersion, .str row.currentEventId.1,
    .str row.status.text, .int row.authorizedMinor, .int row.capturedMinor,
    .int row.refundedMinor, .int row.chargebackMinor, .str row.currency.text,
    .str row.processorId.1, .str row.merchantId.1]

/-- `outcomes.get(key, 0)` -/
def outcomeCount (outcomes : List (Str × Int)) (key : Str) : Int := (outcomes.lookup key).getD 0

/-- The rows that `summary` fetches. -/
structure SummaryRows where
  outcomes : List (Str × Int)
  counts : TableCounts
  unbalanced : Nat
  balance : Int
  states : List StateRow

/-- The item of an outcome row in the dictionary of a summary. -/
def outcomeItem (row : OutcomeRow) : Str × Int := (outcomeKey row.outcome row.reason, row.recordCount)

/-- The queries of `summary`. -/
def summaryRows (runId : Str) : Sql SummaryRows := do
  let rows : List OutcomeRow ← select (.runOutcomes runId)
  let counts : TableCounts ← select .tableCounts
  let unbalanced : Nat ← select .unbalancedGroups
  let balance : Int ← select .ledgerBalance
  let states : List StateRow ← select .states
  let outcomes := dictionary (rows.map outcomeItem)
  pure { outcomes, counts, unbalanced, balance, states }

/-- `key.startswith("QUARANTINED:")` -/
def quarantineKey (key : Str) : Bool := (str "QUARANTINED:").isPrefixOf key

/-- The result that `summary` computes from its rows. -/
def summarize (runtime : Runtime) (runId : Str) (rows : SummaryRows) : Summary :=
  let acceptedNew := outcomeCount rows.outcomes (str "ACCEPTED:contract_and_identity_passed")
  let duplicates := outcomeCount rows.outcomes (str "DUPLICATE:exact_event_replay")
  let quarantined :=
    ((rows.outcomes.filter fun entry => quarantineKey entry.1).map Prod.snd).sum
  let rawRecords := outcomeCount rows.outcomes (str "ARRIVAL:raw_record_read")
  {
    runId, rawRecords, acceptedNew, duplicates, quarantined
    outcomes := rows.outcomes
    counts := rows.counts
    rawReconciled := rawRecords = acceptedNew + duplicates + quarantined
    unbalancedPostingGroups := rows.unbalanced
    ledgerBalanceMinor := rows.balance
    ledgerBalanced := rows.unbalanced = 0 ∧ rows.balance = 0
    paymentStateSha256 :=
      runtime.sha256 (canonicalJson (.arr (rows.states.map StateRow.json))) }

/-- `summary` -/
def summary (runtime : Runtime) (runId : Str) : Sql Summary := do
  let rows ← withConnection (summaryRows runId)
  pure (summarize runtime runId rows)

/-- `process` -/
def process (gate : Gate) (call : ProcessCall) : Sql Summary := do
  withConnection (runProcess gate call)
  summary gate.runtime call.runId

/-! ## Settlement -/

/-- `expected_settlement` -/
def expectedSettlement : Sql (List (SettlementKey × Int)) :=
  withConnection (select .expectedSettlement)

/-- The actual rows; reading or binding a malformed row raises. -/
def insertActuals : List (Py SettlementRow) → Sql (List SettlementRow)
  | [] => pure []
  | actual :: rest => do
      let row ← raising actual
      execute (.insertSettlementActual row)
      let rows ← insertActuals rest
      pure (row :: rows)

/-- The exception row of one key, if its amounts differ. -/
def insertDelta (key : SettlementKey) (expectedMinor actualMinor : Int) : Sql Unit :=
  if expectedMinor - actualMinor = 0 then pure ()
  else
    execute (.insertSettlementException
      ⟨key, expectedMinor, actualMinor, expectedMinor - actualMinor⟩)

/-- The loop over the keys of either side. -/
def insertDeltas (expected actual : List (SettlementKey × Int)) : List SettlementKey → Sql Unit
  | [] => pure ()
  | key :: rest => do
      insertDelta key ((expected.lookup key).getD 0) ((actual.lookup key).getD 0)
      insertDeltas expected actual rest

/-- The result of `reconcile_settlement`. -/
structure Reconciliation where
  settlementReconciled : Bool
  settlementExceptionCount : Nat
  settlementAbsoluteDeltaMinor : Int
  deriving DecidableEq

/-- The body of `reconcile_settlement` on its connection. -/
def runReconciliation (actual : List (Py SettlementRow)) : Sql Reconciliation := do
  execute .deleteSettlementActual
  execute .deleteSettlementException
  let rows ← insertActuals actual
  let expected : List (SettlementKey × Int) ← select .expectedSettlement
  let actualAmounts := rows.map fun row => (row.key, row.amountMinor)
  insertDeltas expected actualAmounts
    (settlementKeys (expected.map Prod.fst ++ actualAmounts.map Prod.fst))
  commit .settlement
  let count : Nat ← select .settlementExceptionCount
  let delta : Int ← select .settlementAbsoluteDelta
  pure ⟨count = 0, count, delta⟩

/-- `reconcile_settlement` -/
def reconcileSettlement (actual : List (Py SettlementRow)) : Sql Reconciliation :=
  withConnection (runReconciliation actual)

/-! ## Sample calls -/

/-- The state row of the sample payment, in a summary. -/
def sampleState (version : Int) (eventId status : String) (captured : Int) : Json :=
  .arr [.str (str "txn-1"), .int version, .str (str eventId), .str (str status), .int 1000,
    .int captured, .int 0, .int 0, .str (str "INR"), .str (str "processor-01"),
    .str (str "merchant-001")]

/-- The digests of the sample identities and of the payment states they lead to. -/
def sampleDigests : List (Str × AsciiText) :=
  [(canonicalJson (.obj (sampleFields "evt-1" .authorization 1 1000)),
      ⟨str "5dc579aed1e6eea62f97e7d08867cea2eff734a5202fdcc045ed836f660006b7", sample_digest_ascii⟩),
    (canonicalJson (.obj (sampleFields "evt-2" .capture 2 600)),
      ⟨str "3f47a92d7332c515e9382771973f0174ba3f7d3f5b523d9fef1b7518ae9ebe3a", by decide⟩),
    (canonicalJson (.obj (sampleFields "evt-3" .capture 3 9223372036854775808)),
      ⟨str "dfe7a73b3564448060d8afdbae6f83402582607d60dd1b006c13cfad3d054aa9", by decide⟩),
    (canonicalJson (.arr []),
      ⟨str "4f53cda18c2baa0c0354bb5f9a3ecbe5ed12ab4d8e11ba873c2f11161202b945", by decide⟩),
    (canonicalJson (.arr [sampleState 1 "evt-1" "AUTHORIZED" 0]),
      ⟨str "790bec8204fb379e8461f4cc4a28c0bc5b99728745782061eccdb8d321e40a6a", by decide⟩),
    (canonicalJson (.arr [sampleState 2 "evt-2" "PARTIALLY_CAPTURED" 600]),
      ⟨str "eb2cc6e31dec03f45189f5bfd1c8f7648ddcb47eb39cf6698788bbabd9c4ca12", by decide⟩)]

/-- The sample registry, digests and token key. -/
def sampleGate : Gate :=
  ⟨tableRuntime sampleDigests, sampleRegistry, List.replicate 32 0⟩

/-- The start of 2026. -/
def sampleTime : Timestamp := newYear

/-- A call under the shipped rules over these records. -/
def sampleCall (runId : String) (records : List Fields) : ProcessCall where
  runId := str runId
  inputSha256 := str "4f53cda18c2baa0c0354bb5f9a3ecbe5ed12ab4d8e11ba873c2f11161202b945"
  records := records
  raises := none
  postingRules := shippedRules
  failpoint := none
  startedAt := sampleTime
  finishedAt := sampleTime

/-- A capture that arrives before its authorization. -/
def sampleBatch : List Fields :=
  [sampleRaw "evt-2" .capture 2 600 "2026-01-01T00:01:00+00:00", sampleAuthorization]

end LedgerFlow
