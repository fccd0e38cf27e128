import LedgerFlow.Simulator.Generator
import LedgerFlow.Identity

/-!
# Generated events at the schema gate

`Values` are the values of a generated event, entry by entry. A fixture differs from an event
in some of them, so that one lemma says what the schema gate makes of all: it refuses another
schema version, then an amount that is not positive, and returns the event otherwise.
-/

namespace LedgerFlow.Simulator

open PyText PyJson PyDateTime Grouping Manifests

/-! ## Entries -/

/-- The values of the entries of an event. -/
structure Values where
  schemaVersion : Str
  eventId : Str
  transactionId : Str
  transactionVersion : Int
  sourceId : Str
  processorId : Str
  merchantId : Str
  eventType : Str
  amountMinor : Int
  currency : Str
  eventTime : Str
  receivedAt : Str
  customerEmail : Str

/-- The dictionary of these values. -/
def Values.fields (values : Values) : Fields :=
  [(str "schema_version", .str values.schemaVersion),
    (str "event_id", .str values.eventId),
    (str "transaction_id", .str values.transactionId),
    (str "transaction_version", .int values.transactionVersion),
    (str "source_id", .str values.sourceId),
    (str "processor_id", .str values.processorId),
    (str "merchant_id", .str values.merchantId),
    (str "event_type", .str values.eventType),
    (str "amount_minor", .int values.amountMinor),
    (str "currency", .str values.currency),
    (str "event_time", .str values.eventTime),
    (str "received_at", .str values.receivedAt),
    (str "customer_email", .str values.customerEmail)]

/-- A generated event has exactly the fields that the contract allows, in the contract's order. -/
theorem values_keys (values : Values) : values.fields.map Prod.fst = allowedFields := rfl

/-- No allowed field is listed twice, so a dictionary with these keys in this order has distinct
keys. -/
theorem allowed_fields_nodup : allowedFields.Nodup := by
  rw [allowedFields, requiredFields]
  decide

/-- No key of a generated event occurs twice, since its keys are the allowed fields. -/
theorem values_keyed (values : Values) : Keyed Prod.fst values.fields := by
  rw [Keyed, values_keys]
  exact allowed_fields_nodup

/-- A generated event is one of these dictionaries. -/
def eventValues (number version : Nat) (eventType : EventType) (amountMinor : Nat)
    (source : Source) (eventTime receivedAt : Timestamp) : Values where
  schemaVersion := str "1.0"
  eventId := str "txn-" ++ zeroPadded 10 number ++ str ":v" ++ decimal version
  transactionId := str "txn-" ++ zeroPadded 10 number
  transactionVersion := version
  sourceId := source.sourceId
  processorId := str "processor-" ++ zeroPadded 2 (number % 3 + 1)
  merchantId := str "merchant-" ++ zeroPadded 3 (number % 250)
  eventType := eventType.text
  amountMinor := amountMinor
  currency := (currencyOf number).text
  eventTime := eventTime.isoformat
  receivedAt := receivedAt.isoformat
  customerEmail :=
    str "customer" ++ decimal ((number % 10000 : Nat) : Int) ++ str "@example.test"

/-- The dictionary that the generator writes is that of the values, entry for entry and in the
same order. -/
theorem event_fields_values (number version : Nat) (eventType : EventType) (amountMinor : Nat)
    (source : Source) (eventTime receivedAt : Timestamp) :
    eventFields number version eventType amountMinor source eventTime receivedAt =
      (eventValues number version eventType amountMinor source eventTime receivedAt).fields := rfl

/-- The values of an event under the identifiers of a fixture. -/
def Values.named (values : Values) (name : Str) : Values :=
  { values with eventId := name, transactionId := name }

/-- Renaming a dictionary of values renames the values: both entries are there, so that each
assignment replaces one and adds none. -/
theorem fixture_values (values : Values) (name : Str) :
    fixture name values.fields = (values.named name).fields := rfl

/-- The fixture with an invalid amount is the renamed event with its amount replaced: the key is
there, so the assignment adds no entry. -/
theorem invalid_amount_values (values : Values) :
    invalidAmountOf values.fields =
      Values.fields { values.named (str "fixture:invalid-amount") with amountMinor := -100 } := by
  rw [invalidAmountOf, fixture_values]
  rfl

/-- The fixture with an unsupported schema version is the renamed event with its version replaced,
likewise without a new entry. -/
theorem unsupported_values (values : Values) :
    unsupportedOf values.fields =
      Values.fields { values.named (str "fixture:unsupported-schema") with
        schemaVersion := str "9.9" } := by
  rw [unsupportedOf, fixture_values]
  rfl

/-- The card number is no entry of an event, so it is appended. -/
theorem prohibited_values (values : Values) :
    prohibitedOf values.fields = (values.named (str "fixture:prohibited-pan")).fields ++
      [(str "card_number", .str (str "4111111111111111"))] := by
  rw [prohibitedOf, fixture_values]
  rfl

/-- The conflict made from an event has another amount and a receipt time five minutes later, and
is otherwise the event itself. -/
theorem conflict_values {values : Values} {receivedAt : Timestamp} {conflict : Fields}
    (received : fromisoformat values.receivedAt = some (.aware receivedAt))
    (built : conflictOf values.fields = .ok conflict) :
    ∃ delayed, receivedAt.plusSeconds 300 = some delayed ∧
      conflict = Values.fields { values with
        amountMinor := values.amountMinor + 1
        receivedAt := delayed.isoformat } := by
  have amount : get values.fields (str "amount_minor") = some (.int values.amountMinor) := rfl
  have time : get values.fields (str "received_at") = some (.str values.receivedAt) := rfl
  rw [conflictOf, amount, time] at built
  simp only [received] at built
  obtain ⟨delayed, added, same⟩ := bind_ok.mp built
  unfold later at added
  split at added
  · next found =>
    cases added
    exact ⟨delayed, found, (Except.ok.inj same).symm⟩
  · cases added

/-! ## The schema gate -/

section Gate

variable {runtime : Runtime} {registry : Registry} {tokenKey : List UInt8} {raw : Fields}
  {values : Values} {given : PaymentEvent}

/-- Nothing prohibited is found in a value without children, whatever a text in it says: names are
compared, values are not. -/
theorem visit_childless {value : Json} (childless : Childless value) : visit runtime value = [] := by
  cases value with
  | obj | arr => exact childless.elim
  | _ => simp only [visit]

/-- Among entries without children the prohibited names stand in the keys only, so the visit is a
filter of the keys. -/
theorem visit_fields_flat (flat : ∀ entry ∈ raw, Childless entry.2) :
    visitFields runtime raw =
      (raw.map fun entry => runtime.casefold entry.1).filter (· ∈ prohibitedFields) := by
  induction raw with
  | nil => rfl
  | cons entry rest inductionHypothesis =>
    obtain ⟨first, others⟩ := List.forall_mem_cons.mp flat
    rw [visitFields, visit_childless first, inductionHypothesis others, List.map_cons,
      List.filter_cons, List.append_nil]
    simp only [decide_eq_true_eq]
    split <;> rfl

/-- Folding the case of ASCII keys is lowering their letters; only outside ASCII does the runtime
decide. -/
theorem casefold_keys (runtime : Runtime) {keys : List Str} (ascii : ∀ key ∈ keys, Ascii key) :
    keys.map runtime.casefold = keys.map (List.map asciiLower) :=
  List.map_congr_left fun key member => runtime.casefold_ascii key (ascii key member)

/-- The prohibited names found among flat entries depend on the keys only, and on their order only
up to a permutation; an ASCII key is folded by lowering its letters. -/
theorem visit_fields_keys {fields : Fields} (same : raw.Perm fields)
    (flat : ∀ entry ∈ fields, Childless entry.2)
    (ascii : ∀ key ∈ fields.map Prod.fst, Ascii key) :
    (visitFields runtime raw).Perm
      (((fields.map Prod.fst).map (List.map asciiLower)).filter (· ∈ prohibitedFields)) := by
  have folded : fields.map (fun entry => runtime.casefold entry.1) =
      (fields.map Prod.fst).map (List.map asciiLower) := by
    rw [← casefold_keys runtime ascii, List.map_map]
    rfl
  rw [visit_fields_flat fun entry member => flat entry (same.mem_iff.mp member), ← folded]
  exact (same.map _).filter _

/-- The values of a generated event have no children: texts and integers throughout. -/
theorem values_flat (values : Values) : ∀ entry ∈ values.fields, Childless entry.2 := by
  simp [Values.fields, Childless]

/-- A generated event with a card number appended to it is still without children, as the number
is a text. -/
theorem card_flat (values : Values) (number : Str) :
    ∀ entry ∈ values.fields ++ [(str "card_number", Json.str number)], Childless entry.2 := by
  intro entry member
  rcases List.mem_append.mp member with inside | last
  · exact values_flat values entry inside
  · rw [List.mem_singleton.mp last]
    trivial

/-- The allowed fields have ASCII names, which fold by their letters alone. -/
theorem allowed_ascii : ∀ key ∈ allowedFields, Ascii key := by
  simp only [allowedFields, requiredFields]
  decide

/-- The entries spell this event, but for the schema version and the amount. -/
structure Values.Spells (values : Values) (runtime : Runtime) (registry : Registry)
    (tokenKey : List UInt8) (given : PaymentEvent) : Prop where
  eventId : values.eventId = given.eventId.1
  transactionId : values.transactionId = given.transactionId.1
  transactionVersion : values.transactionVersion = given.transactionVersion
  sourceId : values.sourceId = given.sourceId.1
  source : ∃ source, registry.lookup given.sourceId.1 = some source ∧
    source.contract = str "payment_event"
  processorId : values.processorId = given.processorId.1
  merchantId : values.merchantId = given.merchantId.1
  eventType : values.eventType = given.eventType.text
  currency : values.currency = given.currency.text
  eventTime : fromisoformat (spellZ values.eventTime) = some (.aware given.eventTime)
  receivedAt : fromisoformat (spellZ values.receivedAt) = some (.aware given.receivedAt)
  email : point '@' ∈ values.customerEmail
  normalized : Encodable (runtime.lower (strip values.customerEmail))
  token : given.customerToken =
    some (runtime.hmacSha256 tokenKey (runtime.lower (strip values.customerEmail)))

/-- The text of an identifier passes the check for identifiers, under any field name. -/
theorem validate_identifier_of {identifier : Identifier} (field : Str) :
    validateIdentifier (.str identifier.1) field = .ok identifier := by
  rw [validateIdentifier, dif_pos identifier.2]

/-- The text of an event type is one of the accepted ones, and is read as that type. -/
theorem member_event_type (eventType : EventType) (reason : Str) :
    member eventTypes EventType.text (.str eventType.text) reason = .ok eventType := by
  cases eventType <;> rfl

/-- The text of a currency is read as that currency, since no two currencies have one code. -/
theorem member_currency (currency : Currency) (reason : Str) :
    member currencies Currency.text (.str currency.text) reason = .ok currency := by
  cases currency <;> rfl

/-- The schema version is accepted exactly where it is the supported one, and otherwise refused
for the given reason. -/
theorem member_schema (text reason : Str) :
    member [()] (fun _ => schemaVersion) (.str text) reason =
      if text = schemaVersion then .ok () else .error (.contract reason) := by
  rw [member, List.find?_cons, List.find?_nil]
  by_cases supported : text = schemaVersion
  · rw [if_pos supported, decide_eq_true supported.symm]
  · rw [if_neg supported, decide_eq_false (Ne.symm supported)]

/-- No entry of a generated event is prohibited, in whatever order its entries stand. -/
theorem values_clean (same : raw.Perm values.fields) :
    rejectProhibitedFields runtime raw = .ok () := by
  have none := @visit_fields_keys runtime _ _ same (values_flat values) allowed_ascii
  rw [values_keys] at none
  have clean : visitFields runtime raw = [] :=
    List.Perm.eq_nil (none.trans (.of_eq (by rw [allowedFields, requiredFields]; decide)))
  exact reject_ok.mpr ⟨flat_visited runtime fun entry member =>
    values_flat values entry (same.mem_iff.mp member), clean⟩

/-- No key of a generated event is unexpected, since its keys are the allowed fields. -/
theorem values_expected (same : raw.Perm values.fields) :
    sortedSet ((raw.map Prod.fst).filter fun key => key ∉ allowedFields) = [] := by
  have none : ((raw.map Prod.fst).filter fun key => key ∉ allowedFields) = [] := by
    rw [List.filter_eq_nil_iff]
    intro key member
    have listed := (same.map Prod.fst).mem_iff.mp member
    rw [values_keys] at listed
    simpa using listed
  rw [none]
  rfl

/-- The email of a generated event is present, and its token under a key of at least 32 bytes is
the one that the event spells. -/
theorem values_token (spells : values.Spells runtime registry tokenKey given)
    (long : 32 ≤ tokenKey.length) :
    tokenizeCustomer runtime (some values.customerEmail) tokenKey = .ok given.customerToken := by
  simp only [tokenizeCustomer, require, if_pos long, if_pos spells.normalized, spells.token, bind,
    Except.bind]

/-- What the gate makes of these values, in whatever order their entries stand.

Proof: everything but the schema version and the amount is spelled as the event has it, so the
checks on the rest pass, and these two decide, the version first. -/
theorem validate_values (same : raw.Perm values.fields)
    (spells : values.Spells runtime registry tokenKey given) (long : 32 ≤ tokenKey.length) :
    validateEvent runtime registry tokenKey raw =
      if values.schemaVersion = schemaVersion then
        if positive : 0 < values.amountMinor then
          .ok { given with amountMinor := values.amountMinor, amountPositive := positive }
        else .error (.contract (str "invalid_amount_minor"))
      else .error (.contract (str "unsupported_schema_version")) := by
  have keyed : Keyed Prod.fst raw := (same.map Prod.fst).nodup_iff.mpr (values_keyed values)
  have found (field : Str) : get raw field = get values.fields field := keyed.lookup_perm same field
  have complete : sortedSet (requiredFields.filter fun field => (get raw field).isNone) = [] := by
    simp only [found]
    rfl
  obtain ⟨source, registered, contract⟩ := spells.source
  have required (condition : Prop) [Decidable condition] (error : PyError) (holds : condition) :
      require condition error = .ok () := if_pos holds
  have text (field : Str) (value : Str) (stands : get values.fields field = some (.str value)) :
      entry raw field = .str value := by rw [entry, found, stands]; rfl
  have number (field : Str) (value : Int) (stands : get values.fields field = some (.int value)) :
      entry raw field = .int value := by rw [entry, found, stands]; rfl
  have email : customerEmail raw = .ok (some values.customerEmail) := by
    have stands : get raw (str "customer_email") = some (.str values.customerEmail) := found _
    rw [customerEmail, stands]
    exact if_pos spells.email
  have version : positiveInteger (.int given.transactionVersion)
      (str "invalid_transaction_version") = .ok ⟨_, given.versionPositive⟩ :=
    dif_pos given.versionPositive
  have parsed (field : Str) {value : Str} {timestamp : Timestamp}
      (reads : fromisoformat (spellZ value) = some (.aware timestamp)) :
      parseUtcTimestamp (.str value) field = .ok timestamp := by
    rw [parseUtcTimestamp, reads]
  rw [validateEvent, values_clean same, complete, values_expected same,
    text (str "schema_version") _ rfl, text (str "event_id") _ rfl,
    text (str "transaction_id") _ rfl, text (str "source_id") _ rfl,
    text (str "processor_id") _ rfl, text (str "merchant_id") _ rfl,
    number (str "transaction_version") _ rfl, text (str "event_type") _ rfl,
    number (str "amount_minor") _ rfl, text (str "currency") _ rfl,
    text (str "event_time") _ rfl, text (str "received_at") _ rfl, email, spells.eventId,
    spells.transactionId, spells.sourceId, spells.processorId, spells.merchantId,
    spells.transactionVersion, spells.eventType, spells.currency, parsed _ spells.eventTime,
    parsed _ spells.receivedAt, version]
  simp only [validate_identifier_of, member_event_type, member_currency, bind, Except.bind,
    required _ _ contract, registered, values_token spells long]
  rw [required _ _ trivial, required _ _ trivial]
  dsimp only
  by_cases supported : values.schemaVersion = schemaVersion
  · rw [if_pos supported, member_schema, if_pos supported]
    dsimp only
    by_cases positive : 0 < values.amountMinor
    · rw [dif_pos positive, positiveInteger, dif_pos (show 1 ≤ values.amountMinor from positive)]
    · rw [dif_neg positive, positiveInteger, dif_neg (show ¬ 1 ≤ values.amountMinor from positive)]
  · rw [if_neg supported, member_schema, if_neg supported]

/-- A payload with a card number is refused for it, whatever its other entries are: prohibited
names are looked for before anything else is checked. -/
theorem validate_prohibited {number : Str}
    (same : raw.Perm (values.fields ++ [(str "card_number", .str number)])) :
    validateEvent runtime registry tokenKey raw =
      .error (.contract (str "prohibited_fields:card_number")) := by
  have keys : (values.fields ++ [(str "card_number", Json.str number)]).map Prod.fst =
      allowedFields ++ [str "card_number"] := rfl
  have ascii : ∀ key ∈ (values.fields ++ [(str "card_number", Json.str number)]).map Prod.fst,
      Ascii key := by
    rw [keys, allowedFields, requiredFields]
    decide
  have found := @visit_fields_keys runtime _ _ same (card_flat values number) ascii
  rw [keys] at found
  have only : visitFields runtime raw = [str "card_number"] :=
    List.perm_singleton.mp (found.trans (.of_eq (by rw [allowedFields, requiredFields]; decide)))
  have visited : require (visitFrames raw ≤ runtime.frames) recursionError = .ok () :=
    require_ok.mpr (flat_visited runtime fun entry member =>
      card_flat values number entry (same.mem_iff.mp member))
  have refused (error : PyError) : require (visitFields runtime raw = []) error = .error error :=
    if_neg (by rw [only]; exact List.cons_ne_nil _ _)
  rw [validateEvent, rejectProhibitedFields, visited]
  dsimp only [bind, Except.bind]
  rw [refused, only]
  rfl

end Gate

/-! ## Identifiers -/

/-- A code point that identifiers may hold. -/
def permitted (c : CodePoint) : Bool :=
  decide ((65 ≤ c.val ∧ c.val ≤ 90) ∨ (97 ≤ c.val ∧ c.val ≤ 122) ∨
    (48 ≤ c.val ∧ c.val ≤ 57) ∨ c.val = 46 ∨ c.val = 95 ∨ c.val = 58 ∨ c.val = 45)

/-- A text of one to 128 permitted characters is an identifier, by the contract's pattern. -/
theorem is_identifier {text : Str} (size : 1 ≤ text.length ∧ text.length ≤ 128)
    (all : text.all permitted = true) : isIdentifier text = true :=
  (Bool.and_eq_true ..).mpr ⟨decide_eq_true size, all⟩

/-- Digits are permitted in an identifier, so numerals and paddings may be part of one. -/
theorem digits_permitted {text : Str} (digits : ∀ c ∈ text, digit c = true) :
    text.all permitted = true := by
  refine List.all_eq_true.mpr fun c member => decide_eq_true ?_
  have range := of_decide_eq_true (digits c member)
  exact .inr (.inr (.inl range))

/-- The decimal text of a natural number has digits only, with no sign in front. -/
theorem decimal_digits (number : Nat) : ∀ c ∈ decimal number, digit c = true := by
  rw [decimal_nat]
  exact digits_digit number

/-- A number below 10^width takes at most that many digits, and at least one.

Proof: by induction on the digits, dividing by ten. -/
theorem decimal_length {number width : Nat} (positive : 0 < width) (small : number < 10 ^ width) :
    1 ≤ (decimal number).length ∧ (decimal number).length ≤ width := by
  rw [decimal_nat, List.length_map]
  exact ⟨Nat.length_toDigits_pos, (Nat.length_toDigits_le_iff (by decide) positive).mpr small⟩

/-- Padding a numeral adds zeros in front, which are digits as well. -/
theorem zero_padded_digits (width number : Nat) : ∀ c ∈ zeroPadded width number, digit c = true := by
  intro c member
  rcases List.mem_append.mp member with zero | inside
  · rw [List.eq_of_mem_replicate zero]
    decide
  · exact decimal_digits number c inside

/-- A padded number stays within the longer of its own digits and the padding. -/
theorem zero_padded_length {number width most : Nat} (positive : 0 < most) (within : width ≤ most)
    (small : number < 10 ^ most) :
    1 ≤ (zeroPadded width number).length ∧ (zeroPadded width number).length ≤ most := by
  have bounds := decimal_length positive small
  rw [zeroPadded, List.length_append, List.length_replicate]
  omega

/-- Leading zeros do not change the number that is read, so padded numerals of different numbers
differ. -/
theorem zero_padded_numeral (width number : Nat) : numeral (zeroPadded width number) = number := by
  have zeros : ∀ count : Nat, (List.replicate count (point '0')).foldl
      (fun value c => value * 10 + (c.val - 48)) 0 = 0 := by
    intro count
    induction count with
    | zero => rfl
    | succ count inductionHypothesis =>
      rw [List.replicate_succ, List.foldl_cons]
      exact inductionHypothesis
  rw [numeral, zeroPadded, List.foldl_append, zeros, decimal_nat]
  exact numeral_digits number

end LedgerFlow.Simulator
