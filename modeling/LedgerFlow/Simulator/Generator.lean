import LedgerFlow.Contracts
import LedgerFlow.Manifest.JsonLines
import LedgerFlow.Support.TimeArithmetic

/-!
# The generator of payment lifecycles

The definitions follow `_event` and `generate_payment_events` in `simulator.py`. The seeded
shuffle is a parameter. The loop over transaction numbers recurses on the number of events
asked for: every turn adds some, so that many turns are enough.
-/

namespace LedgerFlow.Simulator

open PyText PyJson PyDateTime Grouping Manifests

/-! ## Events -/

/-- `f"{number:0{width}d}"` -/
def zeroPadded (width number : Nat) : Str :=
  List.replicate (width - (decimal number).length) (point '0') ++ decimal number

/-- `timestamp + timedelta(seconds=seconds)` -/
def later (timestamp : Timestamp) (seconds : Nat) : Py Timestamp :=
  match timestamp.plusSeconds seconds with
  | some result => .ok result
  | none => .error (.other (str "date value out of range"))

/-- `CURRENCIES[number % len(CURRENCIES)]` -/
def currencyOf (number : Nat) : Currency := currencies.getD (number % currencies.length) .inr

/-- The dictionary that `_event` returns, once its two times are known. -/
def eventFields (number version : Nat) (eventType : EventType) (amountMinor : Nat) (source : Source)
    (eventTime receivedAt : Timestamp) : Fields :=
  let transactionId := str "txn-" ++ zeroPadded 10 number
  [(str "schema_version", .str (str "1.0")),
    (str "event_id", .str (transactionId ++ str ":v" ++ decimal version)),
    (str "transaction_id", .str transactionId),
    (str "transaction_version", .int version),
    (str "source_id", .str source.sourceId),
    (str "processor_id", .str (str "processor-" ++ zeroPadded 2 (number % 3 + 1))),
    (str "merchant_id", .str (str "merchant-" ++ zeroPadded 3 (number % 250))),
    (str "event_type", .str eventType.text),
    (str "amount_minor", .int amountMinor),
    (str "currency", .str (currencyOf number).text),
    (str "event_time", .str eventTime.isoformat),
    (str "received_at", .str receivedAt.isoformat),
    (str "customer_email",
      .str (str "customer" ++ decimal ((number % 10000 : Nat) : Int) ++ str "@example.test"))]

/-- `_event` -/
def event (number version : Nat) (eventType : EventType) (amountMinor : Nat) (source : Source)
    (baseTime : Timestamp) : Py Fields := do
  let eventTime ← later baseTime (60 * version)
  let receivedAt ← later eventTime ((number * 17 + version * 11) % 240)
  .ok (eventFields number version eventType amountMinor source eventTime receivedAt)

/-- `datetime(2026, 1, 1, tzinfo=UTC)` -/
def base : Timestamp := newYear

/-- `10_000 + (transaction_number * 7919) % 490_000` -/
def amountOf (number : Nat) : Nat := 10000 + number * 7919 % 490000

/-- The events of one transaction: a fifth of them end in a refund, a seventh of the others
in a chargeback. -/
def transactionEvents (source : Source) (number : Nat) : Py (List Fields) := do
  let baseTime ← later base (number * 10)
  let authorization ← event number 1 .authorization (amountOf number) source baseTime
  let capture ← event number 2 .capture (amountOf number) source baseTime
  if number % 5 = 0 then do
    let refund ← event number 3 .refund (max 1 (amountOf number / 4)) source baseTime
    .ok [authorization, capture, refund]
  else if number % 7 = 0 then do
    let chargeback ← event number 3 .chargeback (max 1 (amountOf number / 5)) source baseTime
    .ok [authorization, capture, chargeback]
  else .ok [authorization, capture]

/-- `sources[(transaction_number - 1) % len(sources)]` -/
def sourceOf (sources : List Source) (number : Nat) : Py Source :=
  match sources[(number - 1) % sources.length]? with
  | some source => .ok source
  | none => .error (.other (str "list index out of range"))

/-- The loop over transaction numbers, with the turns that may be left. -/
def validEvents (sources : List Source) (minimumRecords : Int) :
    Nat → Nat → List Fields → Py (List Fields × Nat)
  | 0, number, valid => .ok (valid, number)
  | turns + 1, number, valid =>
      if valid.length < minimumRecords then do
        let source ← sourceOf sources number
        let events ← transactionEvents source number
        validEvents sources minimumRecords turns (number + 1) (valid ++ events)
      else .ok (valid, number)

/-! ## Injected failures -/

/-- `dict(valid[index])` for the indices in `range(0, stop, 2)` -/
def duplicatesOf (valid : List Fields) : List Fields :=
  (List.range ((min valid.length (max 4 (valid.length / 300)) + 1) / 2)).filterMap
    fun turn => valid[2 * turn]?

/-- The event with another amount, received five minutes later. -/
def conflictOf (event : Fields) : Py Fields :=
  match get event (str "amount_minor"), get event (str "received_at") with
  | some (.int amount), some (.str receivedAt) =>
      match fromisoformat receivedAt with
      | some (.aware timestamp) => do
          let delayed ← later timestamp 300
          .ok (assign (str "received_at") (.str delayed.isoformat)
            (assign (str "amount_minor") (.int (amount + 1)) event))
      | _ => .error (.value (str "Invalid isoformat string"))
  | _, _ => .error (.type (str "unsupported operand type(s)"))

/-- The event under the identifiers of a fixture. -/
def fixture (name : Str) (event : Fields) : Fields :=
  assign (str "transaction_id") (.str name) (assign (str "event_id") (.str name) event)

/-- `invalid_amount` -/
def invalidAmountOf (event : Fields) : Fields :=
  assign (str "amount_minor") (.int (-100)) (fixture (str "fixture:invalid-amount") event)

/-- `unsupported` -/
def unsupportedOf (event : Fields) : Fields :=
  assign (str "schema_version") (.str (str "9.9")) (fixture (str "fixture:unsupported-schema") event)

/-- `prohibited` -/
def prohibitedOf (event : Fields) : Fields :=
  assign (str "card_number") (.str (str "4111111111111111"))
    (fixture (str "fixture:prohibited-pan") event)

/-- `valid[index]` -/
def eventAt (valid : List Fields) (index : Nat) : Py Fields :=
  match valid[index]? with
  | some event => .ok event
  | none => .error (.other (str "list index out of range"))

/-- What is appended to the shuffled events. -/
def injectedEvents (valid : List Fields) : Py (List Fields) := do
  let first ← eventAt valid 0
  let conflict ← conflictOf first
  let second ← eventAt valid 1
  .ok (duplicatesOf valid ++
    [conflict, invalidAmountOf second, unsupportedOf second, prohibitedOf second])

/-! ## The generator -/

/-- The dictionary that `generate_payment_events` returns. -/
structure Generated where
  classification : Str
  seed : Int
  rawRecords : Nat
  validUniqueEvents : Nat
  transactions : Nat
  injected : List (Str × Int)
  deriving DecidableEq

/-- The names that `injected` counts, in order. -/
def injectedNames (valid : List Fields) : List Str :=
  List.replicate (duplicatesOf valid).length (str "exact_duplicates") ++
    [str "identity_conflicts", str "invalid_amount", str "unsupported_schema",
      str "prohibited_fields"]

/-- `{source for source in registry.values() if source.mode in {"stream", "cdc"}}`, in order -/
def lifecycleSources (registry : Registry) : List Source :=
  (registry.map Prod.snd).filter fun source => source.mode = str "stream" ∨ source.mode = str "cdc"

section Generating

variable (shuffle : Int → List Fields → List Fields)

/-- The arrivals, the valid events among them, and the number of transactions. -/
def generateArrivals (registry : Registry) (minimumRecords : Int) (seed : Int) :
    Py (List Fields × List Fields × Nat) := do
  require (100 ≤ minimumRecords) (.value (str "minimum_records must be at least 100"))
  let sources := lifecycleSources registry
  require (sources ≠ []) (.value (str "registry has no lifecycle sources"))
  let (valid, number) ← validEvents sources minimumRecords minimumRecords.toNat 1 []
  let injected ← injectedEvents valid
  .ok (shuffle seed valid ++ injected, valid, number - 1)

/-- `generate_payment_events` -/
def generatePaymentEvents (registry : Registry) (minimumRecords : Int) (outputPath : Path)
    (seed : Int) (files : Files) : Py (Generated × Files) := do
  let (arrivals, valid, transactions) ← generateArrivals shuffle registry minimumRecords seed
  .ok ({
    classification := str "SYNTHETIC_FIXTURE"
    seed
    rawRecords := arrivals.length
    validUniqueEvents := valid.length
    transactions
    injected := totals id (fun _ => 1) (injectedNames valid) },
    files.write outputPath (jsonLines arrivals))

end Generating

end LedgerFlow.Simulator
