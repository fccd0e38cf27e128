import LedgerFlow.Spark.Pipeline
import LedgerFlow.Support.Bytes

/-!
# The settlement jobs

`validateSettlementManifest` and `reconcileSettlements` follow the `main` functions of
their Spark jobs. The first reads the verified file under a fixed schema, where a
missing or malformed field is null, and compares its count and totals with a manifest.
The second reads the file again, merges it into the evidence table, joins it with what
the posted events lead one to expect, and overwrites the exceptions of its date; its
gate fails only after both writes.

`Library` holds what the settlement code takes from its libraries: SHA-256, the JSON
readers of Python and Spark, and the digit class of regular expressions.
-/

namespace LedgerFlow.Settlement

open PyText PyJson PyBytes PyDateTime Grouping Dataframe Spark

/-! ## Files -/

/-- A record under `SETTLEMENT_SCHEMA`. -/
structure SettlementRecord where
  schemaVersion : Option Str
  businessDate : Option Date
  processorId : Option Str
  currency : Option Str
  amountMinor : Option Int
  deriving DecidableEq

/-- A row of `settlement_evidence`, also a row of the file as reconciliation reads it. -/
structure EvidenceRow where
  businessDate : Option Date
  processorId : Option Str
  currency : Option Str
  amountMinor : Option Int
  deriving DecidableEq

/-- A row of `settlement_exception`. -/
structure SettlementExceptionRow where
  businessDate : Option Date
  processorId : Option Str
  currency : Option Str
  expectedMinor : Int
  actualMinor : Int
  deltaMinor : Int
  deriving DecidableEq

/-- Library functions whose algorithms are outside the repository. -/
structure Library where
  /-- The SHA-256 digest. -/
  sha256 : Bytes → Bytes
  /-- `json.loads`, absent where it raises. -/
  loads : Bytes → Option Json
  /-- The character class `\d`. -/
  isDecimal : CodePoint → Bool
  /-- Whether the float that prints so equals an integer. -/
  floatEquals : Str → Int → Bool
  /-- `spark.read.option("multiline", True).json(path).first().asDict(recursive=True)`,
  absent where it raises. -/
  readManifest : Bytes → Option Fields
  /-- `spark.read.schema(SETTLEMENT_SCHEMA).json(path)` -/
  readRecords : Bytes → List SettlementRecord
  /-- `spark.read.json(path)` with `to_date("business_date")`. -/
  readActual : Bytes → List EvidenceRow
  /-- A digest has 32 bytes. -/
  sha256_length : ∀ data, (sha256 data).length = 32
  /-- Both readers read one date alike. -/
  dates_agree : ∀ data date, (∀ record ∈ readRecords data, record.businessDate = some date) →
    ∀ row ∈ readActual data, row.businessDate = some date

/-- No two of these byte strings have the same SHA-256 digest. -/
def Library.CollisionFree (library : Library) (offered : Bytes → Prop) : Prop :=
  ∀ first second, offered first → offered second →
    library.sha256 first = library.sha256 second → first = second

/-- `to_date` of a text in the shape of a date. -/
def toDate (text : Str) : Option Date := do
  let (year, rest) ← readDigits 4 text
  guard (rest.head? = some (point '-'))
  let (month, rest) ← readDigits 2 (rest.drop 1)
  guard (rest.head? = some (point '-'))
  let (day, rest) ← readDigits 2 (rest.drop 1)
  guard (rest = [])
  Date.of? year month day

/-- `to_date` reads the text of a date only, with a year of four digits. -/
theorem to_date_read {text : Str} {date : Date} (read : toDate text = some date) :
    text = date.text ∧ date.year ≤ 9999 := by
  simp only [toDate, Option.bind_eq_bind, Option.bind_eq_some_iff, Prod.exists,
    Option.guard_eq_some'] at read
  obtain ⟨year, afterYear, readYear, _, firstDash, month, afterMonth, readMonth, _, secondDash, day,
    afterDay, readDay, _, ends, found⟩ := read
  have parts : date.year = year ∧ date.month = month ∧ date.day = day := by
    unfold Date.of? at found
    split_ifs at found
    cases found
    exact ⟨rfl, rfl, rfl⟩
  have dashed {rest : Str} (head : rest.head? = some (point '-')) :
      rest = str "-" ++ rest.drop 1 := by
    cases rest with
    | nil => cases head
    | cons first others =>
      cases Option.some.inj head
      rfl
  obtain ⟨years, bound⟩ := read_four readYear
  refine ⟨?_, by omega⟩
  rw [years, dashed firstDash, read_two readMonth, dashed secondDash, read_two readDay, ends,
    Date.text, parts.1, parts.2.1, parts.2.2]
  simp only [List.append_assoc, List.append_nil]

/-- A text that Spark reads as a date here is the text of that date. -/
theorem to_date_text {text : Str} {date : Date} (read : toDate text = some date) :
    text = date.text :=
  (to_date_read read).1

/-! ## Three-valued conditions on nullable columns -/

/-- `first = second` -/
def same {α : Type} [DecidableEq α] : Option α → Option α → Condition
  | some first, some second => some (decide (first = second))
  | _, _ => none

/-- `NOT condition` -/
def negated (condition : Condition) : Condition := condition.map not

/-- `column.isin(values)` -/
def isIn {α : Type} [DecidableEq α] (column : Option α) (values : List α) : Condition :=
  column.map fun value => decide (value ∈ values)

/-- `first | second | ...` -/
def anyOf (conditions : List Condition) : Condition := conditions.foldr either (some false)

/-- A disjunction of conditions is true exactly when one of them is; nulls do not prevent it. -/
theorem any_of_true {conditions : List Condition} :
    anyOf conditions = some true ↔ some true ∈ conditions := by
  induction conditions with
  | nil => simp [anyOf]
  | cons condition rest inductionHypothesis =>
    rw [anyOf, List.foldr_cons, either_true, ← anyOf, inductionHypothesis, List.mem_cons]
    exact or_congr_left eq_comm

/-! ## Validation -/

/-- The currency codes that the job accepts. -/
def settlementCurrencies : List Str := [str "INR", str "USD", str "EUR", str "GBP"]

/-- The condition that counts a record as invalid. -/
def invalidRecord (businessDate : Option Date) (record : SettlementRecord) : Condition :=
  anyOf [isNull record.schemaVersion, negated (same record.schemaVersion (some (str "1.0"))),
    isNull record.businessDate, negated (same record.businessDate businessDate),
    isNull record.processorId, negated (isIn record.currency settlementCurrencies),
    isNull record.amountMinor]

/-- `groupBy("business_date", "processor_id", "currency")` -/
abbrev SettlementKey := Option Date × Option Str × Option Str

def SettlementRecord.key (record : SettlementRecord) : SettlementKey :=
  (record.businessDate, record.processorId, record.currency)

/-- The keys that more than one record has. -/
def duplicateKeys (records : List SettlementRecord) : List SettlementKey :=
  (keysOf SettlementRecord.key records).filter fun key =>
    decide (1 < (group SettlementRecord.key key records).length)

/-- The amounts of a currency. -/
def currencyAmounts (currency : Option Str) (records : List SettlementRecord) :
    List (Option Int) :=
  (group SettlementRecord.currency currency records).map SettlementRecord.amountMinor

/-- The dictionary `totals`. -/
def currencyTotals (records : List SettlementRecord) : List (Option Str × Option Int) :=
  (keysOf SettlementRecord.currency records).map fun currency =>
    (currency, sumOf (currencyAmounts currency records))

section Comparison

variable (library : Library)

/-- `total == value` for a total that may be null. -/
def equalsTotal : Option Int → Json → Bool
  | some total, value => equalsInt library.floatEquals total value
  | none, .null => true
  | none, _ => false

/-- Whether a total is an entry of a dictionary with text keys. -/
def totalListed (fields : Fields) (total : Option Str × Option Int) : Bool :=
  match total.1 with
  | none => false
  | some currency =>
      match PyJson.get fields currency with
      | none => false
      | some value => equalsTotal library total.2 value

/-- `row[name]` of a manifest. -/
def manifestEntry (manifest : Fields) (name : Str) : Py Json :=
  match PyJson.get manifest name with
  | none => .error (.key name)
  | some value => .ok value

/-- `validate_settlement_manifest.main` on the bytes of its two files. -/
def validateSettlementManifest (manifest data : Bytes) (businessDate : Str) : Py Unit := do
  let manifest ← match library.readManifest manifest with
    | none => .error (.attribute (str "'NoneType' object has no attribute 'asDict'"))
    | some row => .ok row
  let records := library.readRecords data
  let invalid := records.filter fun record =>
    invalidRecord (toDate businessDate) record = some true
  require (invalid = []) (.runtime (str "settlement evidence contract gate failed"))
  require (duplicateKeys records = []) (.runtime (str "duplicate settlement evidence key"))
  let recordCount ← manifestEntry manifest (str "record_count")
  require (equalsInt library.floatEquals records.length recordCount = true)
    (.runtime (str "settlement manifest record-count gate failed"))
  let controlTotals ← manifestEntry manifest (str "raw_control_totals_minor")
  require (equalsObject (currencyTotals records) (totalListed library) controlTotals = true)
    (.runtime (str "settlement manifest control-total gate failed"))

/-- What a file and a manifest satisfy that pass validation. -/
structure Validated (manifest data : Bytes) (businessDate : Str) : Prop where
  valid : ∀ record ∈ library.readRecords data,
    invalidRecord (toDate businessDate) record ≠ some true
  distinct : duplicateKeys (library.readRecords data) = []
  stated : ∃ fields recordCount controlTotals, library.readManifest manifest = some fields ∧
    PyJson.get fields (str "record_count") = some recordCount ∧
    equalsInt library.floatEquals (library.readRecords data).length recordCount = true ∧
    PyJson.get fields (str "raw_control_totals_minor") = some controlTotals ∧
    equalsObject (currencyTotals (library.readRecords data)) (totalListed library)
      controlTotals = true

/-- An entry that is read from the manifest is there. -/
theorem manifest_entry_ok {manifest : Fields} {name : Str} {value : Json}
    (read : manifestEntry manifest name = .ok value) : PyJson.get manifest name = some value := by
  unfold manifestEntry at read
  cases found : PyJson.get manifest name with
  | none => simp [found] at read
  | some other =>
    rw [found] at read
    exact congrArg some (Except.ok.inj read)

/-- What the validation job passes is validated: every check of the source has been made. -/
theorem validate_ok {manifest data : Bytes} {businessDate : Str}
    (passed : validateSettlementManifest library manifest data businessDate = .ok ()) :
    Validated library manifest data businessDate := by
  unfold validateSettlementManifest at passed
  cases read : library.readManifest manifest with
  | none =>
    rw [read] at passed
    cases passed
  | some fields =>
    simp only [read, bind_ok, Except.ok.injEq, exists_eq_left'] at passed
    obtain ⟨_, gated, _, distinct, recordCount, counted, _, equal, totals, totalled, agree⟩ := passed
    refine ⟨fun record member wrong => ?_, require_ok.mp distinct, fields, recordCount, totals,
      read, manifest_entry_ok counted, require_ok.mp equal, manifest_entry_ok totalled,
      require_ok.mp agree⟩
    have invalid := require_ok.mp gated
    rw [List.filter_eq_nil_iff] at invalid
    exact invalid record member (decide_eq_true wrong)

end Comparison

/-- The conditions of a valid record. -/
structure ValidRecord (businessDate : Option Date) (record : SettlementRecord) : Prop where
  dated : ∀ date, businessDate = some date → record.businessDate = some date
  counted : ∃ amount, record.amountMinor = some amount

/-- A record that is not invalid has all its values, and each of them within what the checks
allow. -/
theorem valid_record {businessDate : Option Date} {record : SettlementRecord}
    (valid : invalidRecord businessDate record ≠ some true) : ValidRecord businessDate record := by
  rw [invalidRecord, Ne, any_of_true] at valid
  simp only [List.mem_cons, List.not_mem_nil, or_false, not_or] at valid
  obtain ⟨_, _, present, same, _, _, counted⟩ := valid
  constructor
  · rintro date rfl
    cases held : record.businessDate with
    | none => simp [held, isNull] at present
    | some other =>
      by_cases equal : other = date
      · rw [equal]
      · simp [held, Settlement.same, negated, equal] at same
  · cases held : record.amountMinor with
    | none => simp [held, isNull] at counted
    | some amount => exact ⟨amount, rfl⟩

/-! ## Reconciliation -/

/-- The two tables that reconciliation writes. -/
structure SettlementTables where
  evidence : List EvidenceRow
  exceptions : List SettlementExceptionRow

def EvidenceRow.key (row : EvidenceRow) : SettlementKey :=
  (row.businessDate, row.processorId, row.currency)

/-- A null never equals anything. -/
def SettlementKey.complete (key : SettlementKey) : Bool :=
  key.1.isSome && key.2.1.isSome && key.2.2.isSome

/-- The rows dated a business date, null where the text is no date. -/
def touchedOn (businessDate : Option Date) (row : AcceptedEventRow) : Bool :=
  match businessDate with
  | none => false
  | some date => onDate date row

/-- What an event adds to the settlement. -/
def settledColumn (row : AcceptedEventRow) : Int :=
  if row.eventType = .capture then row.amountMinor
  else if row.eventType = .refund ∨ row.eventType = .chargeback then bigint (-row.amountMinor)
  else 0

/-- The settlement group of a posted event. -/
def postedKey (row : AcceptedEventRow) : SettlementKey :=
  (some row.eventTime.utcDate, some row.processorId.1, some row.currency.text)

/-- The dataframe `expected`: the posted events of a date without those of transactions
that have an exception, by group. -/
def expectedSettlement (posted : List AcceptedEventRow) (invalid : List BusinessExceptionRow)
    (businessDate : Option Date) : List (SettlementKey × Option Int) :=
  let events := (leftAnti AcceptedEventRow.transactionId
    (invalid.map BusinessExceptionRow.transactionId) posted).filter (touchedOn businessDate)
  (keysOf postedKey events).map fun key =>
    (key, sumOf ((group postedKey key events).map fun row => some (settledColumn row)))

/-- A joined row with nulls filled by zero. -/
def exceptionRowOf (key : SettlementKey) (expected actual : Option Int) : SettlementExceptionRow :=
  ⟨key.1, key.2.1, key.2.2, expected.getD 0, actual.getD 0,
    bigint (expected.getD 0 - actual.getD 0)⟩

/-- The full join. Keys on the left are never null. -/
def fullJoin (expected : List (SettlementKey × Option Int)) (actual : List EvidenceRow) :
    List SettlementExceptionRow :=
  (expected.flatMap fun (key, minor) =>
    match group EvidenceRow.key key actual with
    | [] => [exceptionRowOf key minor none]
    | rows => rows.map fun row => exceptionRowOf key minor row.amountMinor) ++
  (leftAnti EvidenceRow.key (expected.map Prod.fst) actual).map fun row =>
    exceptionRowOf row.key none row.amountMinor

/-- The dataframe `exceptions`. -/
def settlementExceptions (expected : List (SettlementKey × Option Int))
    (actual : List EvidenceRow) : List SettlementExceptionRow :=
  (fullJoin expected actual).filter fun row => decide (row.deltaMinor ≠ 0)

/-- The `MERGE` into the evidence table; rows with a null in their key match nothing. -/
def mergeEvidence (target source : List EvidenceRow) : Option (List EvidenceRow) :=
  (mergeUpdate EvidenceRow.key target (source.filter fun row => row.key.complete)).map fun rows =>
    rows ++ source.filter fun row => !row.key.complete

/-- `writeTo(exception_table).overwrite(business_date == ...)` -/
def overwriteDate (businessDate : Option Date) (table rows : List SettlementExceptionRow) :
    List SettlementExceptionRow :=
  (table.filter fun row => !decide (same row.businessDate businessDate = some true)) ++ rows

/-- `reconcile_settlements.main` on the bytes of its file: what it leaves, and whether
its gate passes. -/
def reconcileSettlements (library : Library) (warehouse : Warehouse) (data : Bytes)
    (businessDate : Str) (tables : SettlementTables) : SettlementTables × Py Unit :=
  let date := toDate businessDate
  let expected := expectedSettlement warehouse.postedEvent warehouse.businessException date
  let actual := library.readActual data
  match mergeEvidence tables.evidence actual with
  | none => (tables, .error (.other (str "MERGE_CARDINALITY_VIOLATION")))
  | some evidence =>
      let rows := settlementExceptions expected actual
      (⟨evidence, overwriteDate date tables.exceptions rows⟩,
        require (rows = []) (.runtime (str "settlement reconciliation gate failed")))

end LedgerFlow.Settlement
