import LedgerFlow.Simulator.Events

/-!
# The stages of a generated transaction

A `Transaction` has a number within the range of the clock and a registered source; a
`Stage` is one of its events, with its version, type, amount and times. `transactionEvents`
yields the dictionaries of stages that make up a regular lifecycle, and the schema gate
reads each of them as the stage's event.
-/

namespace LedgerFlow.Simulator

open PyText PyJson PyDateTime Grouping Manifests

/-! ## Transactions -/

/-- A number and a source that give valid identifiers. -/
structure Transaction where
  number : Nat
  source : Source
  inRange : number < 10 ^ 12
  identified : isIdentifier source.sourceId = true

/-- A generated transaction id is an identifier: its number has at most twelve digits after the
prefix. -/
theorem transaction_id_valid {number : Nat} (inRange : number < 10 ^ 12) :
    isIdentifier (str "txn-" ++ zeroPadded 10 number) = true := by
  have size := @zero_padded_length number 10 12 (by decide) (by decide) inRange
  have opening : (str "txn-").length = 4 := rfl
  refine is_identifier ?_ ?_
  · rw [List.length_append, opening]
    omega
  · rw [List.all_append, digits_permitted (zero_padded_digits 10 number)]
    decide

/-- The id of a generated event, which ends in its version, is an identifier. -/
theorem event_id_valid {number version : Nat} (inRange : number < 10 ^ 12) (small : version < 10) :
    isIdentifier (str "txn-" ++ zeroPadded 10 number ++ str ":v" ++ decimal version) = true := by
  have size := @zero_padded_length number 10 12 (by decide) (by decide) inRange
  have digits := @decimal_length version 1 (by decide) small
  have opening : (str "txn-").length = 4 ∧ (str ":v").length = 2 := ⟨rfl, rfl⟩
  refine is_identifier ?_ ?_
  · rw [List.length_append, List.length_append, List.length_append, opening.1, opening.2]
    omega
  · rw [List.all_append, List.all_append, List.all_append,
      digits_permitted (zero_padded_digits 10 number), digits_permitted (decimal_digits version)]
    decide

/-- The id of a generated processor is an identifier. -/
theorem processor_id_valid (number : Nat) :
    isIdentifier (str "processor-" ++ zeroPadded 2 (number % 3 + 1)) = true := by
  have size := @zero_padded_length (number % 3 + 1) 2 2 (by decide) (by decide) (by omega)
  have opening : (str "processor-").length = 10 := rfl
  refine is_identifier ?_ ?_
  · rw [List.length_append, opening]
    omega
  · rw [List.all_append, digits_permitted (zero_padded_digits _ _)]
    decide

/-- The id of a generated merchant is an identifier. -/
theorem merchant_id_valid (number : Nat) :
    isIdentifier (str "merchant-" ++ zeroPadded 3 (number % 250)) = true := by
  have size := @zero_padded_length (number % 250) 3 3 (by decide) (by decide) (by omega)
  have opening : (str "merchant-").length = 9 := rfl
  refine is_identifier ?_ ?_
  · rw [List.length_append, opening]
    omega
  · rw [List.all_append, digits_permitted (zero_padded_digits _ _)]
    decide

/-- The identifier of a transaction. -/
def Transaction.id (transaction : Transaction) : Identifier :=
  ⟨_, transaction_id_valid transaction.inRange⟩

/-- Different numbers give different transaction ids, since padding keeps the number readable. -/
theorem transaction_id_inj {first second : Transaction} (same : first.id = second.id) :
    first.number = second.number := by
  have texts := List.append_cancel_left (congrArg Subtype.val same)
  rw [← zero_padded_numeral 10 first.number, ← zero_padded_numeral 10 second.number]
  exact congrArg numeral texts

/-! ## Stages -/

/-- A reading in UTC with whole seconds. -/
structure Whole (timestamp : Timestamp) : Prop where
  whole : timestamp.microsecond = 0
  utc : timestamp.offset = 0

/-- One event of a transaction. -/
structure Stage where
  version : Nat
  eventType : EventType
  amountMinor : Nat
  eventTime : Timestamp
  receivedAt : Timestamp
  versionRange : 1 ≤ version ∧ version ≤ 3
  amountRange : 0 < amountMinor ∧ amountMinor ≤ 500000
  eventWhole : Whole eventTime
  receivedWhole : Whole receivedAt

/-- The values of the dictionary of a stage. -/
def Stage.values (stage : Stage) (transaction : Transaction) : Values :=
  eventValues transaction.number stage.version stage.eventType stage.amountMinor
    transaction.source stage.eventTime stage.receivedAt

/-- The event that the gate reads. -/
def Stage.event (stage : Stage) (transaction : Transaction) (runtime : Runtime)
    (tokenKey : List UInt8) : PaymentEvent where
  eventId := ⟨_, @event_id_valid transaction.number stage.version transaction.inRange
    (by have range := stage.versionRange; omega)⟩
  transactionId := transaction.id
  transactionVersion := stage.version
  sourceId := ⟨transaction.source.sourceId, transaction.identified⟩
  processorId := ⟨_, processor_id_valid transaction.number⟩
  merchantId := ⟨_, merchant_id_valid transaction.number⟩
  eventType := stage.eventType
  amountMinor := stage.amountMinor
  currency := currencyOf transaction.number
  eventTime := stage.eventTime
  receivedAt := stage.receivedAt
  customerToken := some (runtime.hmacSha256 tokenKey
    (runtime.lower (strip (stage.values transaction).customerEmail)))
  versionPositive := by
    have range := stage.versionRange
    omega
  amountPositive := by
    have range := stage.amountRange
    omega

/-! ## What the gate reads -/

section Reading

variable {runtime : Runtime} {registry : Registry} {tokenKey : List UInt8}
  {transaction : Transaction} {stage : Stage}

/-- A text without the letter Z is spelled as it is; only a Z is rewritten to an offset. -/
theorem spell_z_plain {text : Str} (none : point 'Z' ∉ text) : spellZ text = text := by
  induction text with
  | nil => rfl
  | cons c rest inductionHypothesis =>
    obtain ⟨first, others⟩ := not_or.mp (mt List.mem_cons.mpr none)
    rw [spellZ, List.flatMap_cons, if_neg (Ne.symm first), ← spellZ, inductionHypothesis others]
    rfl

/-- The text of a whole reading is read back, with or without respelling a Z. -/
theorem whole_read {timestamp : Timestamp} (whole : Whole timestamp) :
    fromisoformat (spellZ timestamp.isoformat) = some (.aware timestamp) := by
  have none : point 'Z' ∉ timestamp.isoformat := by
    have zone : offsetText 0 = str "+00:00" := by decide
    have digit (value : Nat) : point 'Z' ≠ digitPoint value :=
      (digit_point_ne value (by decide)).symm
    have literals : point 'Z' ∉ str "-" ∧ point 'Z' ∉ str "T" ∧ point 'Z' ∉ str ":" ∧
        point 'Z' ∉ str "+00:00" := by decide
    rw [Timestamp.isoformat, whole.whole, whole.utc, zone]
    simp only [Date.text, pad4, pad2, List.mem_append, List.mem_cons, List.not_mem_nil, digit,
      literals, or_self, ne_eq, not_true_eq_false, if_false, not_false_eq_true]
  rw [spell_z_plain none, fromisoformat_isoformat whole.whole whole.utc]

/-- What is left after stripping blanks is ASCII where the text was. -/
theorem strip_ascii {text : Str} (ascii : Ascii text) : Ascii (strip text) := by
  intro c member
  have first := (List.dropWhile_suffix space).mem (List.mem_reverse.mp member)
  exact ascii c ((List.dropWhile_suffix space).mem (List.mem_reverse.mp first))

/-- Lowering the letters of an ASCII text stays within ASCII. -/
theorem ascii_lower_ascii {text : Str} (ascii : Ascii text) : Ascii (text.map asciiLower) := by
  intro c member
  obtain ⟨d, inside, rfl⟩ := List.mem_map.mp member
  have bound := ascii d inside
  unfold asciiLower
  split
  · show (d.val + 32) % 0x110000 < 128
    omega
  · exact bound

/-- The address of a generated event is ASCII, so that folding its case does not depend on the
runtime. -/
theorem customer_email_ascii (stage : Stage) (transaction : Transaction) :
    Ascii (stage.values transaction).customerEmail := by
  have literals : Ascii (str "customer") ∧ Ascii (str "@example.test") := by decide
  exact ascii_append.mpr ⟨ascii_append.mpr ⟨literals.1, decimal_ascii _⟩, literals.2⟩

/-- The dictionary of a stage spells the event of the stage, field by field, where its source is
registered for payment events. -/
theorem stage_spells (registered : ∃ source,
      registry.lookup transaction.source.sourceId = some source ∧
        source.contract = str "payment_event") :
    (stage.values transaction).Spells runtime registry tokenKey
      (stage.event transaction runtime tokenKey) where
  eventId := rfl
  transactionId := rfl
  transactionVersion := rfl
  sourceId := rfl
  source := registered
  processorId := rfl
  merchantId := rfl
  eventType := rfl
  currency := rfl
  eventTime := whole_read stage.eventWhole
  receivedAt := whole_read stage.receivedWhole
  email := List.mem_append_right _ (by decide)
  normalized := by
    have stripped := strip_ascii (customer_email_ascii stage transaction)
    rw [runtime.lower_ascii _ stripped]
    exact (ascii_lower_ascii stripped).encodable
  token := rfl

/-- The gate reads the dictionary of a stage as the event of the stage, whatever the order of its
entries. -/
theorem validate_stage {raw : Fields} (same : raw.Perm (stage.values transaction).fields)
    (registered : ∃ source, registry.lookup transaction.source.sourceId = some source ∧
      source.contract = str "payment_event") (long : 32 ≤ tokenKey.length) :
    validateEvent runtime registry tokenKey raw =
      .ok (stage.event transaction runtime tokenKey) := by
  have positive : 0 < (stage.values transaction).amountMinor :=
    (stage.event transaction runtime tokenKey).amountPositive
  rw [validate_values same (@stage_spells runtime registry tokenKey _ _ registered) long,
    if_pos (show (stage.values transaction).schemaVersion = schemaVersion from rfl),
    dif_pos positive]
  rfl

end Reading

/-! ## Regular lifecycles -/

/-- An authorization and a capture of the same amount. -/
structure Captured (opening capture : Stage) : Prop where
  first : opening.version = 1
  opens : opening.eventType = .authorization
  second : capture.version = 2
  captures : capture.eventType = .capture
  amount : capture.amountMinor = opening.amountMinor

/-- A captured payment, with at most one reversal within the amount. -/
inductive Regular : List Stage → Prop
  | captured {opening capture : Stage} (pair : Captured opening capture) :
      Regular [opening, capture]
  | reversed {opening capture last : Stage} (pair : Captured opening capture)
      (third : last.version = 3)
      (reverses : last.eventType = .refund ∨ last.eventType = .chargeback)
      (covered : last.amountMinor ≤ capture.amountMinor) : Regular [opening, capture, last]

section Generated

variable {transaction : Transaction} {timestamp : Timestamp}

/-- Adding seconds succeeds exactly where the calendar still has the sum. -/
theorem later_ok {result : Timestamp} {seconds : Nat} :
    later timestamp seconds = .ok result ↔ timestamp.plusSeconds seconds = some result := by
  unfold later
  split <;> simp_all

/-- Adding whole seconds to a time without microseconds gives one without, so every generated time
is written without a fraction. -/
theorem later_whole {result : Timestamp} {seconds : Nat} (whole : Whole timestamp)
    (added : later timestamp seconds = .ok result) : Whole result := by
  obtain ⟨microsecond, offset⟩ := plus_seconds_keeps (later_ok.mp added)
  exact ⟨microsecond.trans whole.whole, offset.trans whole.utc⟩

/-- What `event` returns is the dictionary of a stage with the given version, type and amount; the
ranges are those of the generator's own arguments. -/
theorem event_stage {version amountMinor : Nat} {eventType : EventType} {raw : Fields}
    (whole : Whole timestamp) (versionRange : 1 ≤ version ∧ version ≤ 3)
    (amountRange : 0 < amountMinor ∧ amountMinor ≤ 500000)
    (built : event transaction.number version eventType amountMinor transaction.source timestamp =
      .ok raw) :
    ∃ stage : Stage, (stage.values transaction).fields = raw ∧ stage.version = version ∧
      stage.eventType = eventType ∧ stage.amountMinor = amountMinor := by
  obtain ⟨eventTime, first, following⟩ := bind_ok.mp built
  obtain ⟨receivedAt, second, same⟩ := bind_ok.mp following
  have eventWhole := later_whole whole first
  rw [Except.ok.injEq, event_fields_values] at same
  exact ⟨⟨version, eventType, amountMinor, eventTime, receivedAt, versionRange, amountRange,
    eventWhole, later_whole eventWhole second⟩, same, rfl, rfl, rfl⟩

/-- A generated amount is at least 10000 and below 500000 minor units. -/
theorem amount_of_range (number : Nat) : 10000 ≤ amountOf number ∧ amountOf number < 500000 := by
  unfold amountOf
  omega

/-- A number whose events are generated is below 10^12: a later one would leave the calendar. -/
theorem transaction_in_range {source : Source} {number : Nat} {raws : List Fields}
    (built : transactionEvents source number = .ok raws) : number < 10 ^ 12 := by
  obtain ⟨baseTime, opened, _⟩ := bind_ok.mp built
  have bound := plus_seconds_bound (later_ok.mp opened)
  omega

/-- The events of a transaction are the dictionaries of a regular lifecycle. -/
theorem transaction_stages {raws : List Fields}
    (built : transactionEvents transaction.source transaction.number = .ok raws) :
    ∃ stages, Regular stages ∧
      stages.map (fun stage => (stage.values transaction).fields) = raws := by
  have range := amount_of_range transaction.number
  obtain ⟨baseTime, opened, following⟩ := bind_ok.mp built
  have whole := later_whole ⟨rfl, rfl⟩ opened
  obtain ⟨_, authorized, following⟩ := bind_ok.mp following
  obtain ⟨_, captured, following⟩ := bind_ok.mp following
  obtain ⟨opening, rfl, first, opens, amount⟩ :=
    event_stage whole (by decide) (by omega) authorized
  obtain ⟨capture, rfl, second, captures, same⟩ :=
    event_stage whole (by decide) (by omega) captured
  have pair : Captured opening capture := ⟨first, opens, second, captures, same.trans amount.symm⟩
  split at following
  · obtain ⟨_, refunded, done⟩ := bind_ok.mp following
    obtain ⟨last, rfl, third, reverses, given⟩ :=
      event_stage whole (by decide) (by omega) refunded
    cases done
    exact ⟨_, .reversed pair third (.inl reverses) (by omega), rfl⟩
  · split at following
    · obtain ⟨_, charged, done⟩ := bind_ok.mp following
      obtain ⟨last, rfl, third, reverses, given⟩ :=
        event_stage whole (by decide) (by omega) charged
      cases done
      exact ⟨_, .reversed pair third (.inr reverses) (by omega), rfl⟩
    · cases following
      exact ⟨_, .captured pair, rfl⟩

end Generated

end LedgerFlow.Simulator
