import LedgerFlow.Runtime
import LedgerFlow.Support.JsonTrees
import Mathlib.Data.List.Dedup

/-!
# Source registry, schema gate, stable identity and privacy boundary

The definitions follow `contracts.py`. Raw events are decoded JSON objects of any
shape; `validateEvent` either raises or returns a `PaymentEvent`, whose identifiers,
version and amount carry the checks they passed. The event's schema version is not
stored, because it is the constant `schemaVersion` in every event.

`Validated` says everything acceptance means: which entry of the raw object each
field of the event was read from. `validate_event_ok` derives it, and later modules
use its parts and never the checks themselves.
-/

namespace LedgerFlow

open PyText PyJson PyDateTime

/-! ## Constants -/

/-- `SCHEMA_VERSION` -/
def schemaVersion : Str := str "1.0"

/-- `PROHIBITED_FIELDS` -/
def prohibitedFields : List Str :=
  [str "card_number", str "cardnumber", str "pan", str "cvv", str "cvc", str "security_code",
    str "track_data", str "pin", str "full_card_number"]

/-- `REQUIRED_FIELDS` -/
def requiredFields : List Str :=
  [str "schema_version", str "event_id", str "transaction_id", str "transaction_version",
    str "source_id", str "processor_id", str "merchant_id", str "event_type",
    str "amount_minor", str "currency", str "event_time", str "received_at"]

/-- `ALLOWED_FIELDS` -/
def allowedFields : List Str := requiredFields ++ [str "customer_email"]

/-- `IDENTITY_FIELDS` -/
def identityFields : List Str :=
  [str "schema_version", str "event_id", str "transaction_id", str "transaction_version",
    str "source_id", str "processor_id", str "merchant_id", str "event_type",
    str "amount_minor", str "currency", str "event_time", str "customer_email"]

/-- `EVENT_TYPES` -/
inductive EventType where
  | authorization
  | capture
  | refund
  | chargeback
  deriving DecidableEq

/-- The event type as the contract spells it. -/
def EventType.text : EventType → Str
  | .authorization => str "authorization"
  | .capture => str "capture"
  | .refund => str "refund"
  | .chargeback => str "chargeback"

/-- No two event types have one text, so that reading a type back from its text is unambiguous. -/
theorem event_type_text_inj {first second : EventType} (same : first.text = second.text) :
    first = second := by
  cases first <;> cases second <;> first | rfl | (revert same; decide)

/-- All event types, in the order of `EVENT_TYPES`. -/
def eventTypes : List EventType := [.authorization, .capture, .refund, .chargeback]

/-- `CURRENCIES` -/
inductive Currency where
  | inr
  | usd
  | eur
  | gbp
  deriving DecidableEq

/-- The currency code. -/
def Currency.text : Currency → Str
  | .inr => str "INR"
  | .usd => str "USD"
  | .eur => str "EUR"
  | .gbp => str "GBP"

/-- No two currencies have one text. -/
theorem currency_text_inj {first second : Currency} (same : first.text = second.text) :
    first = second := by
  cases first <;> cases second <;> first | rfl | (revert same; decide)

/-- All currencies, in the order of `CURRENCIES`. -/
def currencies : List Currency := [.inr, .usd, .eur, .gbp]

/-! ## Data model -/

/-- A registered source. -/
structure Source where
  sourceId : Str
  family : Str
  mode : Str
  contract : Str
  owner : Str
  freshnessMinutes : Int

/-- `dict[str, Source]` -/
abbrev Registry := List (Str × Source)

/-- `IDENTIFIER.fullmatch` -/
def isIdentifier (s : Str) : Bool :=
  decide (1 ≤ s.length ∧ s.length ≤ 128) &&
    s.all fun c => decide ((65 ≤ c.val ∧ c.val ≤ 90) ∨ (97 ≤ c.val ∧ c.val ≤ 122) ∨
      (48 ≤ c.val ∧ c.val ≤ 57) ∨ c.val = 46 ∨ c.val = 95 ∨ c.val = 58 ∨ c.val = 45)

/-- A string that passed the identifier pattern. -/
abbrev Identifier := {s : Str // isIdentifier s = true}

instance : LawfulBEq Identifier := inferInstance

/-- Identifiers are ASCII, so they can be bound, printed and encoded without a case for
surrogates. -/
theorem identifier_ascii (identifier : Identifier) : Ascii identifier.1 := by
  intro c member
  have matched := identifier.2
  simp only [isIdentifier, Bool.and_eq_true, List.all_eq_true, decide_eq_true_eq] at matched
  have allowed := matched.2 c member
  omega

/-- A literal above zero. -/
instance literalPositive (n : Nat) : OfNat {k : Int // 1 ≤ k} (n + 1) := ⟨⟨n + 1, by omega⟩⟩

/-- The bound of a number above zero, which its type carries. -/
theorem positive (n : {k : Int // 1 ≤ k}) : 1 ≤ n.1 := n.2

/-- A contract-valid payment event. -/
structure PaymentEvent where
  eventId : Identifier
  transactionId : Identifier
  transactionVersion : Int
  sourceId : Identifier
  processorId : Identifier
  merchantId : Identifier
  eventType : EventType
  amountMinor : Int
  currency : Currency
  eventTime : Timestamp
  receivedAt : Timestamp
  customerToken : Option AsciiText
  versionPositive : 1 ≤ transactionVersion
  amountPositive : 0 < amountMinor
  deriving DecidableEq

/-- `PaymentEvent.safe_dict` -/
def PaymentEvent.safeDict (event : PaymentEvent) : Fields :=
  [(str "schema_version", .str schemaVersion),
    (str "event_id", .str event.eventId.1),
    (str "transaction_id", .str event.transactionId.1),
    (str "transaction_version", .int event.transactionVersion),
    (str "source_id", .str event.sourceId.1),
    (str "processor_id", .str event.processorId.1),
    (str "merchant_id", .str event.merchantId.1),
    (str "event_type", .str event.eventType.text),
    (str "amount_minor", .int event.amountMinor),
    (str "currency", .str event.currency.text),
    (str "event_time", .str event.eventTime.isoformat),
    (str "received_at", .str event.receivedAt.isoformat),
    (str "customer_token", match event.customerToken with
      | some token => .str token.1
      | none => .null)]

/-! ## Field checks -/

/-- `value.replace("Z", "+00:00")`. -/
def spellZ (text : Str) : Str :=
  text.flatMap fun c => if c = point 'Z' then str "+00:00" else [c]

/-- `_parse_utc_timestamp`; the event keeps the reading, whose `isoformat` is the
text the source keeps. -/
def parseUtcTimestamp (value : Json) (field : Str) : Py Timestamp :=
  match value with
  | .str text =>
      match fromisoformat (spellZ text) with
      | none => .error (.contract (str "invalid_" ++ field))
      | some .naive => .error (.contract (str "timezone_required:" ++ field))
      | some (.aware timestamp) => .ok timestamp
  | _ => .error (.contract (str "invalid_" ++ field))

/-- `_validate_identifier` -/
def validateIdentifier (value : Json) (field : Str) : Py Identifier :=
  match value with
  | .str text =>
      if matched : isIdentifier text = true then .ok ⟨text, matched⟩
      else .error (.contract (str "invalid_" ++ field))
  | _ => .error (.contract (str "invalid_" ++ field))

/-- `tokenize_customer` -/
def tokenizeCustomer (runtime : Runtime) (value : Option Str) (key : List UInt8) :
    Py (Option AsciiText) :=
  match value with
  | none => .ok none
  | some text => do
      require (32 ≤ key.length) (.contract (str "token_key_too_short"))
      let normalized := runtime.lower (strip text)
      require (Encodable normalized) .unicodeEncode
      .ok (some (runtime.hmacSha256 key normalized))

/-! ## Identity -/

/-- The value of an identity entry: the email is stripped and lowered. -/
def identityValue (runtime : Runtime) (field : Str) (value : Json) : Json :=
  match value with
  | .str email =>
      if field = str "customer_email" then .str (runtime.lower (strip email)) else value
  | _ => value

/-- The identity entries of a raw event. -/
def identity (runtime : Runtime) (raw : Fields) : Fields :=
  identityFields.filterMap fun field =>
    (get raw field).map fun value => (field, identityValue runtime field value)

/-- The text whose digest identifies a raw event. -/
def identityText (runtime : Runtime) (raw : Fields) : Str :=
  canonicalJson (.obj (identity runtime raw))

/-- `identity_fingerprint` -/
def identityFingerprint (runtime : Runtime) (raw : Fields) : AsciiText :=
  runtime.sha256 (identityText runtime raw)

/-! ## Privacy -/

/-- The value of this key is redacted. -/
def Sensitive (runtime : Runtime) (key : Str) : Prop :=
  runtime.casefold key ∈ prohibitedFields ++ [str "customer_email"]

instance (runtime : Runtime) : DecidablePred (Sensitive runtime) := fun key =>
  inferInstanceAs (Decidable (runtime.casefold key ∈ prohibitedFields ++ [str "customer_email"]))

mutual

/-- What `redact_payload`'s inner `redact` returns. -/
def redact (runtime : Runtime) : Json → Json
  | .obj fields => .obj (redactFields runtime fields)
  | .arr items => .arr (redactItems runtime items)
  | value => value

/-- The redaction of each item. -/
def redactItems (runtime : Runtime) : List Json → List Json
  | [] => []
  | item :: rest => redact runtime item :: redactItems runtime rest

/-- The redaction of each entry: the value of every sensitive key is replaced. -/
def redactFields (runtime : Runtime) : List (Str × Json) → List (Str × Json)
  | [] => []
  | (key, value) :: rest =>
      (key, if Sensitive runtime key
        then .str (str "<redacted>") else redact runtime value) :: redactFields runtime rest

end

/-- The frames that `redact` has open at once: its own for each value on the way down, and
that of its comprehension for each object and list. -/
def redactFrames (runtime : Runtime) (raw : Fields) : Nat :=
  walkFrames (Sensitive runtime) runtime.comprehensionFrames (.obj raw)

/-- `redact_payload`. The recursion does nothing but compute its result, so that it raises
exactly when it would open a frame too many. -/
def redactPayload (runtime : Runtime) (raw : Fields) : Py Fields := do
  require (redactFrames runtime raw ≤ runtime.frames) recursionError
  .ok (redactFields runtime raw)

mutual

/-- The prohibited names that `reject_prohibited_fields`' inner `visit` finds, in order. -/
def visit (runtime : Runtime) : Json → List Str
  | .obj fields => visitFields runtime fields
  | .arr items => visitItems runtime items
  | _ => []

/-- The prohibited names in a list. -/
def visitItems (runtime : Runtime) : List Json → List Str
  | [] => []
  | item :: rest => visit runtime item ++ visitItems runtime rest

/-- The prohibited names among the keys of an object and inside its values. -/
def visitFields (runtime : Runtime) : List (Str × Json) → List Str
  | [] => []
  | (key, value) :: rest =>
      (if runtime.casefold key ∈ prohibitedFields then [runtime.casefold key] else []) ++
        visit runtime value ++ visitFields runtime rest

end

/-- `sorted(names)` of a set of names. -/
def sortedSet (names : List Str) : List Str := names.dedup.insertionSort (· ≤ ·)

/-- The frames that `visit` has open at once: its own for each value on the way down. -/
def visitFrames (raw : Fields) : Nat := walkFrames (fun _ => False) 0 (.obj raw)

/-- `reject_prohibited_fields`. What was found is lost when the recursion raises. -/
def rejectProhibitedFields (runtime : Runtime) (raw : Fields) : Py Unit := do
  require (visitFrames raw ≤ runtime.frames) recursionError
  require (visitFields runtime raw = [])
    (.contract (str "prohibited_fields:" ++ join (str ",") (sortedSet (visitFields runtime raw))))

/-- A redaction is returned exactly when the interpreter has frames enough for it. -/
theorem redact_payload_ok {runtime : Runtime} {raw redacted : Fields} :
    redactPayload runtime raw = .ok redacted ↔
      redactFrames runtime raw ≤ runtime.frames ∧ redacted = redactFields runtime raw := by
  simp only [redactPayload, bind_ok, require_ok, exists_const, Except.ok.injEq]
  exact and_congr_right fun _ => eq_comm

/-- Beyond the limit the redaction raises, and nothing else can make it raise. -/
theorem redact_payload_error {runtime : Runtime} {raw : Fields} {error : PyError} :
    redactPayload runtime raw = .error error ↔
      ¬ redactFrames runtime raw ≤ runtime.frames ∧ error = recursionError := by
  simp only [redactPayload, require]
  split
  · rename_i within
    simp [within, bind, Except.bind]
  · rename_i beyond
    simp [beyond, bind, Except.bind, eq_comm]

/-- An object passes exactly when the interpreter has frames enough to visit it and the
visit finds no prohibited name. -/
theorem reject_ok {runtime : Runtime} {raw : Fields} :
    rejectProhibitedFields runtime raw = .ok () ↔
      visitFrames raw ≤ runtime.frames ∧ visitFields runtime raw = [] := by
  simp only [rejectProhibitedFields, bind_ok, require_ok, exists_const]

/-- An object whose values have no children is within every interpreter's limit: one level of it
takes the frames that a runtime has at least. -/
theorem flat_visited (runtime : Runtime) {raw : Fields} (flat : ∀ entry ∈ raw, Childless entry.2) :
    visitFrames raw ≤ runtime.frames := by
  have few := walk_frames_flat (fun _ => False) 0 flat
  have room := runtime.frames_flat
  rw [visitFrames]
  omega

/-- Such an object can be redacted too, under every limit. -/
theorem flat_redactable (runtime : Runtime) {raw : Fields}
    (flat : ∀ entry ∈ raw, Childless entry.2) : redactFrames runtime raw ≤ runtime.frames :=
  (walk_frames_flat (Sensitive runtime) runtime.comprehensionFrames flat).trans runtime.frames_flat

/-- `extract_business_payload`. Testing an unhashable operation for membership of a
set raises `TypeError`. -/
def extractBusinessPayload (raw : Fields) : Py Fields :=
  match (get raw (str "metadata")).getD .null, (get raw (str "data")).getD .null with
  | .null, .null => .ok raw
  | .obj metadata, .obj data => do
      match get metadata (str "table-name") with
      | some (.str table) =>
          require (table = str "payment_outbox") (.contract (str "unsupported_cdc_table"))
      | _ => .error (.contract (str "unsupported_cdc_table"))
      match get metadata (str "operation") with
      | some (.str operation) =>
          require (operation = str "insert" ∨ operation = str "load")
            (.contract (str "non_insert_outbox_mutation"))
      | some (.arr _) | some (.obj _) => .error (.type (str "unhashable type"))
      | _ => .error (.contract (str "non_insert_outbox_mutation"))
      .ok data
  | _, _ => .error (.contract (str "invalid_cdc_envelope"))

/-! ## The schema gate -/

/-- `raw[field]`; the presence check has passed wherever it is used. -/
def entry (raw : Fields) (field : Str) : Json := (get raw field).getD .null

/-- A positive integer that is not a truth value. -/
def positiveInteger (value : Json) (reason : Str) : Py {n : Int // 1 ≤ n} :=
  match value with
  | .int n => if positive : 1 ≤ n then .ok ⟨n, positive⟩ else .error (.contract reason)
  | _ => .error (.contract reason)

/-- A member of an enumeration given by its texts. -/
def member {α : Type} (members : List α) (text : α → Str) (value : Json) (reason : Str) : Py α :=
  match value with
  | .str s =>
      match members.find? (fun m => text m = s) with
      | some m => .ok m
      | none => .error (.contract reason)
  | _ => .error (.contract reason)

/-- The email check: absent and null are allowed, a string needs an at sign. -/
def customerEmail (raw : Fields) : Py (Option Str) :=
  match get raw (str "customer_email") with
  | none | some .null => .ok none
  | some (.str email) =>
      if point '@' ∈ email then .ok (some email)
      else .error (.contract (str "invalid_customer_email"))
  | some _ => .error (.contract (str "invalid_customer_email"))

/-- `validate_event` -/
def validateEvent (runtime : Runtime) (registry : Registry) (tokenKey : List UInt8)
    (raw : Fields) : Py PaymentEvent := do
  rejectProhibitedFields runtime raw
  let missing := sortedSet (requiredFields.filter fun field => (get raw field).isNone)
  require (missing = []) (.contract (str "missing_fields:" ++ join (str ",") missing))
  let unexpected := sortedSet ((raw.map Prod.fst).filter fun key => key ∉ allowedFields)
  require (unexpected = []) (.contract (str "unexpected_fields:" ++ join (str ",") unexpected))
  let _ ← member [()] (fun _ => schemaVersion) (entry raw (str "schema_version"))
    (str "unsupported_schema_version")
  let eventId ← validateIdentifier (entry raw (str "event_id")) (str "event_id")
  let transactionId ←
    validateIdentifier (entry raw (str "transaction_id")) (str "transaction_id")
  let sourceId ← validateIdentifier (entry raw (str "source_id")) (str "source_id")
  let processorId ← validateIdentifier (entry raw (str "processor_id")) (str "processor_id")
  let merchantId ← validateIdentifier (entry raw (str "merchant_id")) (str "merchant_id")
  match registry.lookup sourceId.1 with
  | none => .error (.contract (str "unknown_source"))
  | some source =>
      require (source.contract = str "payment_event")
        (.contract (str "source_contract_mismatch"))
  let transactionVersion ← positiveInteger (entry raw (str "transaction_version"))
    (str "invalid_transaction_version")
  let eventType ← member eventTypes EventType.text (entry raw (str "event_type"))
    (str "unsupported_event_type")
  let amountMinor ← positiveInteger (entry raw (str "amount_minor"))
    (str "invalid_amount_minor")
  let currency ← member currencies Currency.text (entry raw (str "currency"))
    (str "unsupported_currency")
  let eventTime ← parseUtcTimestamp (entry raw (str "event_time")) (str "event_time")
  let receivedAt ← parseUtcTimestamp (entry raw (str "received_at")) (str "received_at")
  let email ← customerEmail raw
  let customerToken ← tokenizeCustomer runtime email tokenKey
  .ok {
    eventId, transactionId, sourceId, processorId, merchantId, eventType, currency,
    eventTime, receivedAt, customerToken
    transactionVersion := transactionVersion.1
    amountMinor := amountMinor.1
    versionPositive := transactionVersion.2
    amountPositive := amountMinor.2 }

/-! ## What acceptance means -/

/-- The entry holds a text that reads as this timestamp. -/
def ReadsAs (raw : Fields) (field : Str) (timestamp : Timestamp) : Prop :=
  ∃ text, get raw field = some (.str text) ∧ fromisoformat (spellZ text) = some (.aware timestamp)

/-- Where the customer token of an accepted event comes from: an absent or null email
gives none, and any other email is encodable once normalized. -/
def Tokenized (runtime : Runtime) (tokenKey : List UInt8) (raw : Fields)
    (token : Option AsciiText) : Prop :=
  (get raw (str "customer_email") = none ∧ token = none) ∨
    (get raw (str "customer_email") = some .null ∧ token = none) ∨
    ∃ email, get raw (str "customer_email") = some (.str email) ∧
      Encodable (runtime.lower (strip email)) ∧
      token = some (runtime.hmacSha256 tokenKey (runtime.lower (strip email)))

/-- The raw object is contract-valid and reads as this event. -/
structure Validated (runtime : Runtime) (registry : Registry) (tokenKey : List UInt8)
    (raw : Fields) (event : PaymentEvent) : Prop where
  clean : visitFields runtime raw = []
  schema : get raw (str "schema_version") = some (.str schemaVersion)
  eventId : get raw (str "event_id") = some (.str event.eventId.1)
  transactionId : get raw (str "transaction_id") = some (.str event.transactionId.1)
  sourceId : get raw (str "source_id") = some (.str event.sourceId.1)
  processorId : get raw (str "processor_id") = some (.str event.processorId.1)
  merchantId : get raw (str "merchant_id") = some (.str event.merchantId.1)
  source : ∃ source, registry.lookup event.sourceId.1 = some source ∧
    source.contract = str "payment_event"
  transactionVersion : get raw (str "transaction_version") = some (.int event.transactionVersion)
  eventType : get raw (str "event_type") = some (.str event.eventType.text)
  amountMinor : get raw (str "amount_minor") = some (.int event.amountMinor)
  currency : get raw (str "currency") = some (.str event.currency.text)
  eventTime : ReadsAs raw (str "event_time") event.eventTime
  receivedAt : ReadsAs raw (str "received_at") event.receivedAt
  customer : Tokenized runtime tokenKey raw event.customerToken

/-- `dict.get` answers null for a key that is absent, so an answer that is not null comes from an
entry. -/
theorem entry_some {raw : Fields} {field : Str} {value : Json} (present : entry raw field = value)
    (nonnull : value ≠ .null) : get raw field = some value := by
  unfold entry at present
  cases found : get raw field with
  | none => exact absurd (by simpa [found] using present.symm) nonnull
  | some other => simpa [found] using present

/-- What passes the check of identifiers is there, as a text. -/
theorem validate_identifier_ok {raw : Fields} {field reason : Str} {identifier : Identifier}
    (checked : validateIdentifier (entry raw field) reason = .ok identifier) :
    get raw field = some (.str identifier.1) := by
  unfold validateIdentifier at checked
  split at checked
  · split at checked
    · cases checked
      exact entry_some ‹_› (by simp)
    · cases checked
  · cases checked

/-- What passes the check of positive integers is there, as an integer. -/
theorem positive_integer_ok {raw : Fields} {field reason : Str} {number : {n : Int // 1 ≤ n}}
    (checked : positiveInteger (entry raw field) reason = .ok number) :
    get raw field = some (.int number.1) := by
  unfold positiveInteger at checked
  split at checked
  · split at checked
    · cases checked
      exact entry_some ‹_› (by simp)
    · cases checked
  · cases checked

/-- What passes a membership check is there, as the text of the member that was found. -/
theorem member_ok {α : Type} {members : List α} {text : α → Str} {raw : Fields}
    {field reason : Str} {found : α}
    (checked : member members text (entry raw field) reason = .ok found) :
    get raw field = some (.str (text found)) := by
  unfold member at checked
  split at checked
  · split at checked
    · cases checked
      have named := List.find?_some ‹List.find? _ _ = _›
      rw [of_decide_eq_true named]
      exact entry_some ‹_› (by simp)
    · cases checked
  · cases checked

/-- What passes the check of timestamps is there, as a text that is read as an aware time. -/
theorem parse_utc_timestamp_ok {raw : Fields} {field reason : Str} {timestamp : Timestamp}
    (checked : parseUtcTimestamp (entry raw field) reason = .ok timestamp) :
    ReadsAs raw field timestamp := by
  unfold parseUtcTimestamp at checked
  split at checked
  · split at checked <;> cases checked
    exact ⟨_, entry_some ‹_› (by simp), ‹_›⟩
  · cases checked

/-- The token of an accepted event comes from its normalized address under the key, or from no
address. -/
theorem customer_token_ok {runtime : Runtime} {tokenKey : List UInt8} {raw : Fields}
    {email : Option Str} {token : Option AsciiText} (checked : customerEmail raw = .ok email)
    (tokenized : tokenizeCustomer runtime email tokenKey = .ok token) :
    Tokenized runtime tokenKey raw token := by
  unfold customerEmail at checked
  split at checked
  · cases checked
    cases tokenized
    exact .inl ⟨‹_›, rfl⟩
  · cases checked
    cases tokenized
    exact .inr (.inl ⟨‹_›, rfl⟩)
  · split at checked
    · cases checked
      simp only [tokenizeCustomer, bind_ok, require_ok, exists_const] at tokenized
      obtain ⟨_, encodable, same⟩ := tokenized
      cases same
      exact .inr (.inr ⟨_, ‹_›, encodable, rfl⟩)
    · cases checked
  · cases checked

/-- An event returned by the schema gate was read from the raw object as
`Validated` says. -/
theorem validate_event_ok {runtime : Runtime} {registry : Registry} {tokenKey : List UInt8}
    {raw : Fields} {event : PaymentEvent}
    (accepted : validateEvent runtime registry tokenKey raw = .ok event) :
    Validated runtime registry tokenKey raw event := by
  simp only [validateEvent, rejectProhibitedFields, bind_ok, require_ok, exists_const]
    at accepted
  obtain ⟨⟨-, clean⟩, -, -, _, schemaChecked, eventId, eventChecked, transactionId,
    transactionChecked, sourceId, sourceChecked, processorId, processorChecked, merchantId,
    merchantChecked, rest⟩ := accepted
  cases found : registry.lookup sourceId.1 with
  | none =>
    rw [found] at rest
    cases rest
  | some source =>
    simp only [found, bind_ok, require_ok, exists_const] at rest
    obtain ⟨contract, version, versionChecked, eventType, typeChecked, amount, amountChecked,
      currency, currencyChecked, eventTime, timeChecked, receivedAt, receivedChecked, email,
      emailChecked, token, tokenized, same⟩ := rest
    cases same
    exact {
      clean
      schema := @member_ok _ _ (fun _ => schemaVersion) _ _ _ _ schemaChecked
      eventId := validate_identifier_ok eventChecked
      transactionId := validate_identifier_ok transactionChecked
      sourceId := validate_identifier_ok sourceChecked
      processorId := validate_identifier_ok processorChecked
      merchantId := validate_identifier_ok merchantChecked
      source := ⟨source, found, contract⟩
      transactionVersion := positive_integer_ok versionChecked
      eventType := member_ok typeChecked
      amountMinor := positive_integer_ok amountChecked
      currency := member_ok currencyChecked
      eventTime := parse_utc_timestamp_ok timeChecked
      receivedAt := parse_utc_timestamp_ok receivedChecked
      customer := customer_token_ok emailChecked tokenized }

/-- The sorted names of a set are empty where the set is; the gate tests the list, and the
argument is about the set. -/
theorem sorted_set_nil {names : List Str} (empty : sortedSet names = []) : names = [] := by
  rw [List.eq_nil_iff_forall_not_mem]
  intro name listed
  have sorted : name ∈ sortedSet names := by
    rw [sortedSet, List.mem_insertionSort, List.mem_dedup]
    exact listed
  rw [empty] at sorted
  exact List.not_mem_nil sorted

/-- An accepted raw event has allowed fields only. The gate refuses an unknown field before it
looks at any value. -/
theorem accepted_fields {runtime : Runtime} {registry : Registry} {tokenKey : List UInt8}
    {raw : Fields} {event : PaymentEvent}
    (accepted : validateEvent runtime registry tokenKey raw = .ok event)
    {key : Str} {value : Json} (listed : (key, value) ∈ raw) : key ∈ allowedFields := by
  simp only [validateEvent, bind_ok, require_ok, exists_const] at accepted
  obtain ⟨_, _, _, unexpected, _⟩ := accepted
  by_contra other
  have filtered : key ∈ (raw.map Prod.fst).filter fun key => key ∉ allowedFields := by
    rw [List.mem_filter]
    exact ⟨List.mem_map_of_mem listed, decide_eq_true other⟩
  rw [sorted_set_nil unexpected] at filtered
  exact List.not_mem_nil filtered

/-! ## Sample events -/

/-- A registry with one source. -/
def sampleRegistry : Registry :=
  [(str "checkout-01", ⟨str "checkout-01", str "checkout", str "stream", str "payment_event",
    str "payments", 5⟩)]

/-- The entries of a raw event, but for its receipt time. -/
def sampleFields (eventId : String) (eventType : EventType) (version amount : Int) : Fields :=
  [(str "schema_version", .str schemaVersion),
    (str "event_id", .str (str eventId)),
    (str "transaction_id", .str (str "txn-1")),
    (str "transaction_version", .int version),
    (str "source_id", .str (str "checkout-01")),
    (str "processor_id", .str (str "processor-01")),
    (str "merchant_id", .str (str "merchant-001")),
    (str "event_type", .str eventType.text),
    (str "amount_minor", .int amount),
    (str "currency", .str (str "INR")),
    (str "event_time", .str (str "2026-01-01T00:00:00+00:00"))]

/-- The digest of a sample record is ASCII, as the type of digests asks for. -/
theorem sample_digest_ascii :
    Ascii (str "5dc579aed1e6eea62f97e7d08867cea2eff734a5202fdcc045ed836f660006b7") := by
  decide

/-- A raw event received at this time. -/
def sampleRaw (eventId : String) (eventType : EventType) (version amount : Int)
    (receivedAt : String) : Fields :=
  sampleFields eventId eventType version amount ++ [(str "received_at", .str (str receivedAt))]

/-- The authorization of the sample payment. -/
def sampleAuthorization : Fields :=
  sampleRaw "evt-1" .authorization 1 1000 "2026-01-01T00:02:00+00:00"

end LedgerFlow
