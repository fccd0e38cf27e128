import LedgerFlow.Lifecycle
import LedgerFlow.Support.Programs

/-!
# The SQLite database and its statements

The tables of `SCHEMA` in `store.py`, with typed rows in insertion order, and each
statement the store executes as a partial function on the database. A statement binds
its parameters first: a text that is not encodable and an integer outside 64 bits
cannot be bound. It then checks its primary key and its foreign keys. The NOT NULL and
CHECK constraints hold by the types of the rows.

A connection sees its own uncommitted changes. A data-modifying statement opens a
transaction where none is open; only `commit` makes changes durable. Commits carry a
label for their place in the code, and the labels are recorded, newest first.

`faulty` lets every call report any error instead: the durable state is then as it
was, and an open transaction is kept or lost.
-/

namespace LedgerFlow

open PyText PyJson PyDateTime Grouping Programs

/-! ## Tables -/

/-- `run_journal.status` -/
inductive RunStatus where
  | started
  | succeeded
  | failed
  deriving DecidableEq

/-- A row of `run_journal`. -/
structure JournalRow where
  runId : Str
  inputSha256 : Str
  status : RunStatus
  startedAt : Timestamp
  completedAt : Option Timestamp
  failureReason : Option Str
  deriving DecidableEq

/-- The outcomes a run counts. -/
inductive Outcome where
  | arrival
  | accepted
  | duplicate
  | quarantined
  deriving DecidableEq

/-- The outcome as the tables spell it. -/
def Outcome.text : Outcome → Str
  | .arrival => str "ARRIVAL"
  | .accepted => str "ACCEPTED"
  | .duplicate => str "DUPLICATE"
  | .quarantined => str "QUARANTINED"

/-- A row of `run_outcome`. -/
structure OutcomeRow where
  runId : Str
  outcome : Outcome
  reason : Str
  recordCount : Int
  deriving DecidableEq

/-- A row of `seen_event`. -/
structure SeenRow where
  eventId : Identifier
  identitySha256 : AsciiText
  firstRunId : Str
  deriving DecidableEq

/-- A row of `accepted_event`: the event's columns and `safe_payload_json`. -/
structure AcceptedRow where
  event : PaymentEvent
  safePayload : Str
  deriving DecidableEq

/-- A row of `quarantine`. -/
structure QuarantineRow where
  quarantineId : Nat
  runId : Str
  eventId : Option Str
  reason : Str
  redactedPayload : Str
  deriving DecidableEq

/-- A row of `settlement_actual`. -/
structure SettlementRow where
  businessDate : Str
  processorId : Str
  currency : Str
  amountMinor : Int
  deriving DecidableEq

/-- The key of a settlement group. -/
abbrev SettlementKey := Str × Str × Str

/-- The primary key of a settlement row. -/
def SettlementRow.key (row : SettlementRow) : SettlementKey :=
  (row.businessDate, row.processorId, row.currency)

/-- A row of `settlement_exception`. -/
structure SettlementExceptionRow where
  key : SettlementKey
  expectedMinor : Int
  actualMinor : Int
  deltaMinor : Int
  deriving DecidableEq

/-- All tables but `run_journal`. The sequence numbers quarantine rows. -/
structure Tables where
  runOutcome : List OutcomeRow
  seenEvent : List SeenRow
  acceptedEvent : List AcceptedRow
  quarantine : List QuarantineRow
  quarantineSequence : Nat
  businessException : List ExceptionRow
  postedEvent : List PostedRow
  ledgerEntry : List PostingLine
  paymentState : List StateRow
  settlementActual : List SettlementRow
  settlementException : List SettlementExceptionRow
  deriving DecidableEq

/-- The database file. -/
structure Database where
  runJournal : List JournalRow
  tables : Tables

/-- A fresh store. -/
def emptyDatabase : Database := ⟨[], [], [], [], [], 0, [], [], [], [], [], []⟩

/-- The accepted events, in order of acceptance. -/
def Tables.events (tables : Tables) : List PaymentEvent :=
  tables.acceptedEvent.map AcceptedRow.event

/-! ## Statements -/

/-- The signed 64-bit integers. -/
def Int64 (n : Int) : Prop := -9223372036854775808 ≤ n ∧ n < 9223372036854775808

instance (n : Int) : Decidable (Int64 n) :=
  inferInstanceAs (Decidable (-9223372036854775808 ≤ n ∧ n < 9223372036854775808))

/-- Binding a text parameter. -/
def bindText (value : Str) : Py Unit := require (Encodable value) .unicodeEncode

/-- Binding an integer parameter. -/
def bindInteger (value : Int) : Py Unit := require (Int64 value) .overflow

/-- Binding the totals of a state row. -/
def bindIntegers : List Int → Py Unit
  | [] => .ok ()
  | value :: rest => do
      bindInteger value
      bindIntegers rest

/-- The constraint checks of an insertion, and its result. -/
def constrained (columns : Str) (unique references : Prop) [Decidable unique]
    [Decidable references] (inserted : Database) : Py Database := do
  require unique (.integrity (str "UNIQUE constraint failed: " ++ columns))
  require references (.integrity (str "FOREIGN KEY constraint failed"))
  .ok inserted

/-- The key columns of a settlement table. -/
def settlementColumns (table : Str) : Str :=
  join (str ", ") [table ++ str ".business_date", table ++ str ".processor_id",
    table ++ str ".currency"]

/-- The data-modifying statements. -/
inductive Statement where
  /-- `INSERT INTO run_journal VALUES (?, ?, 'STARTED', ?, NULL, NULL)` -/
  | insertRunJournal (runId inputSha256 : Str) (startedAt : Timestamp)
  /-- `UPDATE run_journal SET status='FAILED', completed_at=?, failure_reason=? WHERE run_id=?` -/
  | failRun (completedAt : Timestamp) (failureReason runId : Str)
  /-- `UPDATE run_journal SET status='SUCCEEDED', completed_at=? WHERE run_id=?` -/
  | succeedRun (completedAt : Timestamp) (runId : Str)
  /-- `INSERT INTO run_outcome VALUES (?, ?, ?, ?)` -/
  | insertRunOutcome (row : OutcomeRow)
  /-- `INSERT INTO seen_event VALUES (?, ?, ?)` -/
  | insertSeenEvent (row : SeenRow)
  /-- `INSERT INTO accepted_event VALUES (?, ..., ?)` -/
  | insertAcceptedEvent (row : AcceptedRow)
  /-- `INSERT INTO quarantine(run_id,event_id,reason,redacted_payload_json) VALUES (?, ?, ?, ?)` -/
  | insertQuarantine (runId : Str) (eventId : Option Str) (reason redactedPayload : Str)
  /-- `DELETE FROM settlement_exception` -/
  | deleteSettlementException
  /-- `DELETE FROM settlement_actual` -/
  | deleteSettlementActual
  /-- `DELETE FROM ledger_entry` -/
  | deleteLedgerEntry
  /-- `DELETE FROM posted_event` -/
  | deletePostedEvent
  /-- `DELETE FROM business_exception` -/
  | deleteBusinessException
  /-- `DELETE FROM payment_state` -/
  | deletePaymentState
  /-- `INSERT INTO business_exception VALUES (?, ?, ?)` -/
  | insertBusinessException (row : ExceptionRow)
  /-- `INSERT INTO posted_event VALUES (?, ..., ?)` -/
  | insertPostedEvent (row : PostedRow)
  /-- `INSERT INTO ledger_entry VALUES (?, ..., ?)` -/
  | insertLedgerEntry (row : PostingLine)
  /-- `INSERT INTO payment_state VALUES (?, ..., ?)` -/
  | insertPaymentState (row : StateRow)
  /-- `INSERT INTO settlement_actual VALUES (?, ?, ?, ?)` -/
  | insertSettlementActual (row : SettlementRow)
  /-- `INSERT INTO settlement_exception VALUES (?, ?, ?, ?, ?, ?)` -/
  | insertSettlementException (row : SettlementExceptionRow)

/-- The journal rows of a run, changed. -/
def updateRun (runId : Str) (change : JournalRow → JournalRow) (database : Database) : Database :=
  { database with
    runJournal := database.runJournal.map fun row => if row.runId = runId then change row else row }

/-- What a statement does to the database. -/
def Statement.run (statement : Statement) (database : Database) : Py Database :=
  let tables := database.tables
  match statement with
  | .insertRunJournal runId inputSha256 startedAt => do
      bindText runId
      bindText inputSha256
      constrained (str "run_journal.run_id") (runId ∉ database.runJournal.map JournalRow.runId) True
        { database with
          runJournal := database.runJournal ++
            [⟨runId, inputSha256, .started, startedAt, none, none⟩] }
  | .failRun completedAt failureReason runId => do
      bindText failureReason
      bindText runId
      .ok (updateRun runId (fun row => { row with
        status := .failed, completedAt := some completedAt,
        failureReason := some failureReason }) database)
  | .succeedRun completedAt runId => do
      bindText runId
      .ok (updateRun runId (fun row => { row with
        status := .succeeded, completedAt := some completedAt }) database)
  | .insertRunOutcome row => do
      bindText row.runId
      bindText row.reason
      bindInteger row.recordCount
      constrained (str "run_outcome.run_id, run_outcome.outcome, run_outcome.reason")
        ((row.runId, row.outcome, row.reason) ∉
          tables.runOutcome.map fun old => (old.runId, old.outcome, old.reason))
        (row.runId ∈ database.runJournal.map JournalRow.runId)
        { database with tables := { tables with runOutcome := tables.runOutcome ++ [row] } }
  | .insertSeenEvent row => do
      bindText row.firstRunId
      constrained (str "seen_event.event_id") (row.eventId ∉ tables.seenEvent.map SeenRow.eventId)
        (row.firstRunId ∈ database.runJournal.map JournalRow.runId)
        { database with tables := { tables with seenEvent := tables.seenEvent ++ [row] } }
  | .insertAcceptedEvent row => do
      bindInteger row.event.transactionVersion
      bindInteger row.event.amountMinor
      bindText row.safePayload
      constrained (str "accepted_event.event_id")
        (row.event.eventId ∉ tables.events.map PaymentEvent.eventId)
        (row.event.eventId ∈ tables.seenEvent.map SeenRow.eventId)
        { database with
          tables := { tables with acceptedEvent := tables.acceptedEvent ++ [row] } }
  | .insertQuarantine runId eventId reason redactedPayload => do
      bindText runId
      bindText (eventId.getD [])
      bindText reason
      bindText redactedPayload
      constrained (str "quarantine.quarantine_id") True
        (runId ∈ database.runJournal.map JournalRow.runId)
        { database with
          tables := { tables with
            quarantine := tables.quarantine ++
              [⟨tables.quarantineSequence + 1, runId, eventId, reason, redactedPayload⟩]
            quarantineSequence := tables.quarantineSequence + 1 } }
  | .deleteSettlementException =>
      .ok { database with tables := { tables with settlementException := [] } }
  | .deleteSettlementActual =>
      .ok { database with tables := { tables with settlementActual := [] } }
  | .deleteLedgerEntry => .ok { database with tables := { tables with ledgerEntry := [] } }
  | .deletePostedEvent =>
      constrained [] True (tables.ledgerEntry = [])
        { database with tables := { tables with postedEvent := [] } }
  | .deleteBusinessException =>
      .ok { database with tables := { tables with businessException := [] } }
  | .deletePaymentState => .ok { database with tables := { tables with paymentState := [] } }
  | .insertBusinessException row =>
      constrained (str "business_exception.event_id")
        (row.eventId ∉ tables.businessException.map ExceptionRow.eventId)
        (row.eventId ∈ tables.events.map PaymentEvent.eventId)
        { database with
          tables := { tables with businessException := tables.businessException ++ [row] } }
  | .insertPostedEvent row => do
      bindInteger row.amountMinor
      constrained (str "posted_event.event_id")
        (row.eventId ∉ tables.postedEvent.map PostedRow.eventId)
        (row.eventId ∈ tables.events.map PaymentEvent.eventId)
        { database with tables := { tables with postedEvent := tables.postedEvent ++ [row] } }
  | .insertLedgerEntry row => do
      bindText row.account
      bindInteger row.signedMinor
      bindInteger row.postingRuleVersion
      constrained (str "ledger_entry.entry_id")
        (row.entryId ∉ tables.ledgerEntry.map PostingLine.entryId)
        (row.eventId ∈ tables.postedEvent.map PostedRow.eventId)
        { database with tables := { tables with ledgerEntry := tables.ledgerEntry ++ [row] } }
  | .insertPaymentState row => do
      bindIntegers [row.currentVersion, row.authorizedMinor, row.capturedMinor,
        row.refundedMinor, row.chargebackMinor]
      constrained (str "payment_state.transaction_id")
        (row.transactionId ∉ tables.paymentState.map StateRow.transactionId) True
        { database with tables := { tables with paymentState := tables.paymentState ++ [row] } }
  | .insertSettlementActual row => do
      bindText row.businessDate
      bindText row.processorId
      bindText row.currency
      bindInteger row.amountMinor
      constrained (settlementColumns (str "settlement_actual"))
        (row.key ∉ tables.settlementActual.map SettlementRow.key) True
        { database with
          tables := { tables with settlementActual := tables.settlementActual ++ [row] } }
  | .insertSettlementException row => do
      bindText row.key.1
      bindText row.key.2.1
      bindText row.key.2.2
      bindIntegers [row.expectedMinor, row.actualMinor, row.deltaMinor]
      constrained (settlementColumns (str "settlement_exception"))
        (row.key ∉ tables.settlementException.map SettlementExceptionRow.key) True
        { database with
          tables := { tables with settlementException := tables.settlementException ++ [row] } }

/-! ## Queries -/

/-- `SUM` over integers in scan order: a running sum outside 64 bits raises. -/
def runningSum : Int → List Int → Py Int
  | total, [] => .ok total
  | total, value :: rest => do
      require (Int64 (total + value)) (.operational (str "integer overflow"))
      runningSum (total + value) rest

/-- `SUM(value)`, with `COALESCE(..., 0)` on an empty table. -/
def sqlSum (values : List Int) : Py Int := runningSum 0 values

/-- The group sums, in order of the keys. -/
def groupSums {Row Key : Type} [DecidableEq Key] (key : Row → Key) (value : Row → Int)
    (rows : List Row) : List Key → Py (List (Key × Int))
  | [] => .ok []
  | k :: rest => do
      let total ← sqlSum ((group key k rows).map value)
      let others ← groupSums key value rows rest
      .ok ((k, total) :: others)

/-- The `CASE` expression of the expected settlement. -/
def settledAmount (row : PostedRow) : Int :=
  match row.eventType with
  | .capture => row.amountMinor
  | .refund | .chargeback => -row.amountMinor
  | .authorization => 0

/-- `substr(event_time,1,10), processor_id, currency` -/
def settlementKey (row : PostedRow) : SettlementKey :=
  (row.eventTime.isoformat.take 10, row.processorId.1, row.currency.text)

/-- The order of settlement keys. -/
def bySettlementKey (first second : SettlementKey) : Prop :=
  toLex (first.1, toLex first.2) ≤ toLex (second.1, toLex second.2)

instance : DecidableRel bySettlementKey := fun first second =>
  inferInstanceAs (Decidable (toLex (first.1, toLex first.2) ≤ toLex (second.1, toLex second.2)))

/-- The distinct settlement keys of some rows, in order. -/
def settlementKeys (keys : List SettlementKey) : List SettlementKey :=
  keys.dedup.insertionSort bySettlementKey

/-- The numbers of rows that a summary reports. -/
structure TableCounts where
  acceptedEvent : Nat
  quarantine : Nat
  businessException : Nat
  postedEvent : Nat
  ledgerEntry : Nat
  paymentState : Nat
  deriving DecidableEq

/-- The queries. -/
inductive Query where
  /-- `SELECT identity_sha256 FROM seen_event WHERE event_id=?` -/
  | identityOf (eventId : Identifier)
  /-- `SELECT DISTINCT transaction_id FROM accepted_event ORDER BY transaction_id` -/
  | transactionIds
  /-- `SELECT * FROM accepted_event WHERE transaction_id=? ORDER BY ...` -/
  | transactionEvents (transactionId : Identifier)
  /-- `SELECT outcome,reason,record_count FROM run_outcome WHERE run_id=?` -/
  | runOutcomes (runId : Str)
  /-- `TABLE_COUNT_QUERIES` -/
  | tableCounts
  /-- `SELECT COUNT(*) FROM (SELECT ... GROUP BY event_id,currency HAVING SUM(signed_minor)<>0)` -/
  | unbalancedGroups
  /-- `SELECT COALESCE(SUM(signed_minor),0) FROM ledger_entry` -/
  | ledgerBalance
  /-- `SELECT * FROM payment_state ORDER BY transaction_id` -/
  | states
  /-- `SELECT ... FROM posted_event GROUP BY 1,2,3 ORDER BY 1,2,3` -/
  | expectedSettlement
  /-- `SELECT COUNT(*) FROM settlement_exception` -/
  | settlementExceptionCount
  /-- `SELECT COALESCE(SUM(ABS(delta_minor)),0) FROM settlement_exception` -/
  | settlementAbsoluteDelta

/-- The rows a query fetches. -/
@[reducible] def Query.Rows : Query → Type
  | .identityOf _ => Option AsciiText
  | .transactionIds => List Identifier
  | .transactionEvents _ => List PaymentEvent
  | .runOutcomes _ => List OutcomeRow
  | .tableCounts => TableCounts
  | .unbalancedGroups => Nat
  | .ledgerBalance => Int
  | .states => List StateRow
  | .expectedSettlement => List (SettlementKey × Int)
  | .settlementExceptionCount => Nat
  | .settlementAbsoluteDelta => Int

/-- The order of state rows. -/
def byTransaction (first second : StateRow) : Prop := byText first.transactionId second.transactionId

instance : DecidableRel byTransaction := fun first second =>
  inferInstanceAs (Decidable (byText first.transactionId second.transactionId))

/-- The key of a balance group. -/
def balanceKey (line : PostingLine) : Identifier × Currency := (line.eventId, line.currency)

/-- What a query fetches. -/
def Query.run (database : Database) : (query : Query) → Py query.Rows
  | .identityOf eventId =>
      .ok ((database.tables.seenEvent.find? fun row => row.eventId = eventId).map
        SeenRow.identitySha256)
  | .transactionIds => .ok (LedgerFlow.transactionIds database.tables.events)
  | .transactionEvents transactionId => .ok (history database.tables.events transactionId)
  | .runOutcomes runId =>
      .ok (database.tables.runOutcome.filter fun row => row.runId = runId)
  | .tableCounts => .ok {
      acceptedEvent := database.tables.acceptedEvent.length
      quarantine := database.tables.quarantine.length
      businessException := database.tables.businessException.length
      postedEvent := database.tables.postedEvent.length
      ledgerEntry := database.tables.ledgerEntry.length
      paymentState := database.tables.paymentState.length }
  | .unbalancedGroups => do
      let sums ← groupSums balanceKey PostingLine.signedMinor database.tables.ledgerEntry
        (database.tables.ledgerEntry.map balanceKey).dedup
      .ok (sums.filter fun entry => entry.2 ≠ 0).length
  | .ledgerBalance => sqlSum (database.tables.ledgerEntry.map PostingLine.signedMinor)
  | .states => .ok (database.tables.paymentState.insertionSort byTransaction)
  | .expectedSettlement =>
      groupSums settlementKey settledAmount database.tables.postedEvent
        (settlementKeys (database.tables.postedEvent.map settlementKey))
  | .settlementExceptionCount => .ok database.tables.settlementException.length
  | .settlementAbsoluteDelta => do
      let magnitudes := database.tables.settlementException.map fun row => (row.deltaMinor.natAbs : Int)
      sqlSum magnitudes

/-! ## Connections -/

/-- The commits of the store's code. -/
inductive CommitPoint where
  | started
  | data
  | failed
  | succeeded
  | settlement
  deriving DecidableEq

/-- The file, the open transaction of the connection, and the commits made. -/
structure Store where
  durable : Database
  working : Option Database
  commits : List CommitPoint

/-- What the connection sees. -/
def Store.current (store : Store) : Database := store.working.getD store.durable

/-- The calls on a connection. -/
inductive SqlCall where
  | connect
  | execute (statement : Statement)
  | select (query : Query)
  | beginImmediate
  | commit (point : CommitPoint)
  | rollback
  | close

/-- What a call returns. -/
@[reducible] def SqlCall.Rows : SqlCall → Type
  | .select query => query.Rows
  | _ => Unit

/-- The effect of a call. -/
def perform : (call : SqlCall) → Store → Except PyError call.Rows × Store
  | .connect, store | .rollback, store | .close, store =>
      (.ok (), { store with working := none })
  | .execute statement, store =>
      match statement.run store.current with
      | .ok database => (.ok (), { store with working := some database })
      | .error error => (.error error, { store with working := some store.current })
  | .select query, store => (query.run store.current, store)
  | .beginImmediate, store =>
      match store.working with
      | none => (.ok (), { store with working := some store.durable })
      | some _ =>
          (.error (.operational (str "cannot start a transaction within a transaction")), store)
  | .commit point, store =>
      match store.working with
      | none => (.ok (), store)
      | some database => (.ok (), ⟨database, none, point :: store.commits⟩)

/-- A statement that succeeds leaves its database uncommitted: the durable one is unchanged until
a commit. -/
theorem perform_execute_ok {statement : Statement} {store : Store} {database : Database}
    (ran : statement.run store.current = .ok database) :
    perform (.execute statement) store = (.ok (), { store with working := some database }) := by
  simp only [perform, ran]

/-- A statement that fails leaves the open transaction as it was, and opens one where there was
none. -/
theorem perform_execute_error {statement : Statement} {store : Store} {error : PyError}
    (ran : statement.run store.current = .error error) :
    perform (.execute statement) store =
      (.error error, { store with working := some store.current }) := by
  simp only [perform, ran]

/-- What a failing call may leave behind. -/
def fault (before after : Store) : Prop :=
  after.durable = before.durable ∧ after.commits = before.commits ∧
    (after.working = before.working ∨ after.working = none)

/-- The calls of a store's code and the errors they may report. -/
abbrev storeEffect : Program.Effect SqlCall (Answer PyError SqlCall.Rows) Store :=
  faulty perform fault

/-- A computation on a connection. -/
abbrev Sql (α : Type) := Faultable SqlCall SqlCall.Rows PyError α

/-- `self.connect()` -/
def connect : Sql Unit := invoke SqlCall.connect

/-- `connection.execute("BEGIN IMMEDIATE")` -/
def beginImmediate : Sql Unit := invoke SqlCall.beginImmediate

/-- `connection.commit()` at this place of the code. -/
def commit (point : CommitPoint) : Sql Unit := invoke (SqlCall.commit point)

/-- `connection.rollback()` -/
def rollback : Sql Unit := invoke SqlCall.rollback

/-- `connection.close()` -/
def close : Sql Unit := invoke SqlCall.close

/-- Execute a statement. -/
def execute (statement : Statement) : Sql Unit := invoke (SqlCall.execute statement)

/-- Fetch the rows of a query. -/
def select (query : Query) : Sql query.Rows := invoke (SqlCall.select query)

/-- A pure computation that may raise. -/
def raising {α : Type} (result : Py α) : Sql α :=
  match result with
  | .ok value => pure value
  | .error error => throw error

end LedgerFlow
