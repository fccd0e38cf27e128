import LedgerFlow.Store.Invariant
import LedgerFlow.Support.Substrings

/-!
# Clear emails in accepted payloads

`clear_email_leak_count` searches the stored payloads for `customer_email` and for an at
sign. The stored text of an event holds its keys, its identifiers, its numbers, its times
and the hexadecimal token of its customer. None of these has an at sign, and of all of
them only an identifier can spell `customer_email`.
-/

namespace LedgerFlow

open PyText PyJson PyDateTime Grouping Programs Programs.Program

/-! ## The count -/

/-- The word of the search that is a field name. -/
def emailField : Str := str "customer_email"

/-- `"customer_email" in row[0] or "@" in row[0]` -/
def leaks (payload : Str) : Bool := occurs emailField payload || occurs (str "@") payload

/-- `LedgerStore.clear_email_leak_count` -/
def clearEmailLeakCount (tables : Tables) : Nat :=
  tables.acceptedEvent.countP fun row => leaks row.safePayload

/-! ## Calls through given gates -/

/-- The databases that any calls through these gates can leave behind, with the rules of the
last run that committed its data. -/
inductive ReachableThrough (gates : Gate → Prop) : Database → Option PostingRules → Prop
  | empty : ReachableThrough gates emptyDatabase none
  | process {database : Database} {rules : Option PostingRules} {after : Store}
      {rest : Program SqlCall (Answer PyError SqlCall.Rows) (Except PyError Summary)}
      (gate : Gate) (call : ProcessCall) (through : gates gate)
      (earlier : ReachableThrough gates database rules)
      (run : Runs storeEffect (database.opened, (process gate call).run) (after, rest)) :
      ReachableThrough gates after.durable
        (if .data ∈ after.commits then some call.postingRules else rules)
  | reconcile {database : Database} {rules : Option PostingRules} {after : Store}
      {rest : Program SqlCall (Answer PyError SqlCall.Rows) (Except PyError Reconciliation)}
      (actual : List (Py SettlementRow)) (earlier : ReachableThrough gates database rules)
      (run : Runs storeEffect (database.opened, (reconcileSettlement actual).run) (after, rest)) :
      ReachableThrough gates after.durable rules

section Through

variable {gates : Gate → Prop} {database : Database} {rules : Option PostingRules}

/-- What is reachable through certain gates is reachable, by any. -/
theorem ReachableThrough.reachable (reached : ReachableThrough gates database rules) :
    Reachable database rules := by
  induction reached with
  | empty => exact .empty
  | process gate call _ _ run inductionHypothesis => exact .process gate call inductionHypothesis run
  | reconcile actual _ run inductionHypothesis => exact .reconcile actual inductionHypothesis run

/-- What the gates grant every event they validate holds of every stored event. -/
theorem ReachableThrough.events {holds : PaymentEvent → Prop}
    (granted : ∀ gate raw event, gates gate →
      validateEvent gate.runtime gate.registry gate.tokenKey raw = .ok event → holds event)
    (reached : ReachableThrough gates database rules) :
    ∀ event ∈ database.tables.events, holds event := by
  induction reached with
  | empty => exact fun _ none => absurd none List.not_mem_nil
  | @process database rules after _ gate call through earlier run inductionHypothesis =>
    have consistent := reachable_consistent earlier.reachable
    have completed {ended : Database} (admitted : Admitted database call)
        (ran : Ran gate call database ended) : ∀ event ∈ ended.tables.events, holds event := by
      obtain ⟨completes, rfl⟩ := (ran_completes consistent.identified
        (reachable_referenced earlier.reachable) admitted).mp ran
      obtain ⟨_, events, _⟩ := @completion_tables gate call (journaled database call)
        consistent.identified completes.gateable
      intro event member
      rw [events] at member
      rcases List.mem_append.mp member with old | new
      · exact inductionHypothesis event old
      · obtain ⟨raw, _, valid⟩ := admitted_source new
        exact granted gate raw event through valid
    have phase := process_phase run
    generalize after.durable = ended at phase
    generalize after.commits = points at phase
    cases phase with
    | untouched | started | failed => exact inductionHypothesis
    | committed admitted ran => exact completed admitted ran
    | succeeded admitted ran =>
      have holds := completed admitted ran
      exact holds
  | @reconcile database _ after _ _ _ run inductionHypothesis =>
    have same : after.durable.tables.events = database.tables.events :=
      congrArg (fun core => core.tables.events) (reconcile_core run)
    rw [same]
    exact inductionHypothesis

end Through

/-! ## The characters of a payload -/

/-- A hexadecimal digit of `hexdigest`. -/
def Hexadecimal (c : CodePoint) : Prop :=
  (48 ≤ c.val ∧ c.val ≤ 57) ∨ (97 ≤ c.val ∧ c.val ≤ 102)

instance (c : CodePoint) : Decidable (Hexadecimal c) :=
  inferInstanceAs (Decidable ((48 ≤ c.val ∧ c.val ≤ 57) ∨ (97 ≤ c.val ∧ c.val ≤ 102)))

/-- The keyed digests of a gate are hexadecimal. -/
def HexadecimalGate (gate : Gate) : Prop :=
  ∀ key text, ∀ c ∈ (gate.runtime.hmacSha256 key text).1, Hexadecimal c

/-- The identifiers of an event. -/
def PaymentEvent.identifiers (event : PaymentEvent) : List Identifier :=
  [event.eventId, event.transactionId, event.sourceId, event.processorId, event.merchantId]

/-- A digit, a sign or punctuation of a printed time. -/
def Clockwork (c : CodePoint) : Prop := (43 ≤ c.val ∧ c.val ≤ 58) ∨ c.val = 84

instance (c : CodePoint) : Decidable (Clockwork c) :=
  inferInstanceAs (Decidable ((43 ≤ c.val ∧ c.val ≤ 58) ∨ c.val = 84))

/-- Two printed digits are made of what times are printed with. -/
theorem pad2_clockwork (value : Nat) : ∀ c ∈ pad2 value, Clockwork c := by
  intro c member
  simp only [pad2, List.mem_cons, List.not_mem_nil, or_false] at member
  rcases member with rfl | rfl
  all_goals
    rw [Clockwork, digit_point_val]
    omega

/-- Six printed digits are made of what times are printed with. -/
theorem pad6_clockwork (value : Nat) : ∀ c ∈ pad6 value, Clockwork c := by
  simp only [pad6, pad4, List.forall_mem_append]
  exact ⟨⟨pad2_clockwork _, pad2_clockwork _⟩, pad2_clockwork _⟩

/-- A literal is made of such characters where each of them, evaluated, is one. -/
theorem literal_clockwork {literal : Str}
    (all : literal.all (fun c => decide (Clockwork c)) = true) :
    ∀ c ∈ literal, Clockwork c :=
  fun c member => of_decide_eq_true (List.all_eq_true.mp all c member)

/-- A printed time has digits, signs, its letter and punctuation only, so no other word occurs in
it. -/
theorem isoformat_clockwork (timestamp : Timestamp) : ∀ c ∈ timestamp.isoformat, Clockwork c := by
  have dash := @literal_clockwork (str "-") (by decide)
  have plus := @literal_clockwork (str "+") (by decide)
  have colon := @literal_clockwork (str ":") (by decide)
  have dot := @literal_clockwork (str ".") (by decide)
  have letter := @literal_clockwork (str "T") (by decide)
  have empty : ∀ c ∈ ([] : Str), Clockwork c := fun _ none => absurd none List.not_mem_nil
  have sign : ∀ c ∈ (if timestamp.offset < 0 then str "-" else str "+"), Clockwork c := by
    split <;> assumption
  have date : ∀ c ∈ timestamp.date.text, Clockwork c := by
    simp only [Date.text, pad4, List.forall_mem_append]
    exact ⟨⟨⟨⟨⟨pad2_clockwork _, pad2_clockwork _⟩, dash⟩, pad2_clockwork _⟩, dash⟩,
      pad2_clockwork _⟩
  unfold Timestamp.isoformat offsetText
  simp only [List.forall_mem_append]
  refine ⟨⟨⟨⟨⟨⟨⟨⟨date, letter⟩, pad2_clockwork _⟩, colon⟩, pad2_clockwork _⟩, colon⟩,
    pad2_clockwork _⟩, ?_⟩, ⟨⟨⟨sign, pad2_clockwork _⟩, colon⟩, pad2_clockwork _⟩, ?_⟩
  · split
    · exact List.forall_mem_append.mpr ⟨dot, pad6_clockwork _⟩
    · exact empty
  · split_ifs
    · simp only [List.forall_mem_append]
      exact ⟨⟨⟨colon, pad2_clockwork _⟩, dot⟩, pad6_clockwork _⟩
    · exact List.forall_mem_append.mpr ⟨colon, pad2_clockwork _⟩
    · exact empty

/-- An identifier has letters, digits and punctuation of its own: no at sign, but possibly the
name of a field. -/
theorem identifier_chars (identifier : Identifier) : ∀ c ∈ identifier.1,
    (45 ≤ c.val ∧ c.val ≤ 58) ∨ (65 ≤ c.val ∧ c.val ≤ 90) ∨ c.val = 95 ∨
      (97 ≤ c.val ∧ c.val ≤ 122) := by
  intro c member
  have matched := identifier.2
  simp only [isIdentifier, Bool.and_eq_true, List.all_eq_true, decide_eq_true_eq] at matched
  have allowed := matched.2 c member
  omega

/-- A number has digits and a sign, and no letter. -/
theorem decimal_chars (n : Int) : ∀ c ∈ decimal n, c.val ≤ 57 := by
  intro c member
  rcases List.mem_append.mp member with sign | digits
  · split at sign
    · rw [List.mem_singleton.mp (sign : c ∈ [(45 : CodePoint)])]
      decide
    · cases sign
  · exact (of_decide_eq_true (digits_digit n.natAbs c digits)).2

/-! ## Words in a payload -/

/-- The token of an event, if it has one, is hexadecimal. -/
def HexadecimalToken (event : PaymentEvent) : Prop :=
  ∀ token, event.customerToken = some token → ∀ c ∈ token.1, Hexadecimal c

/-- The keys of `safe_dict`. -/
def safeKeys : List Str :=
  [str "schema_version", str "event_id", str "transaction_id", str "transaction_version",
    str "source_id", str "processor_id", str "merchant_id", str "event_type", str "amount_minor",
    str "currency", str "event_time", str "received_at", str "customer_token"]

/-- The keys of a stored event are fixed, whatever the event is, and the email is not among
them. -/
theorem safe_dict_keys (event : PaymentEvent) : event.safeDict.map Prod.fst = safeKeys := rfl

/-- The value of `customer_token`. -/
def tokenValue : Option AsciiText → Json
  | some token => .str token.1
  | none => .null

/-- A plain word that is in no key and no fixed text, with a character that is in no number,
time or token. -/
structure Foreign (needle : Str) : Prop where
  plain : Unstructured needle
  apart : ∃ c ∈ needle, ¬ Clockwork c ∧ ¬ Hexadecimal c ∧ 57 < c.val
  keys : ∀ key ∈ safeKeys, ¬ needle <:+: quote key
  schema : ¬ needle <:+: quote schemaVersion
  eventTypes : ∀ eventType : EventType, ¬ needle <:+: quote eventType.text
  currencies : ∀ currency : Currency, ¬ needle <:+: quote currency.text
  null : ¬ needle <:+: str "null"

/-- Such a word is in the payload of an event iff it is in one of its identifiers. -/
theorem foreign_occurs {needle : Str} (foreign : Foreign needle) {event : PaymentEvent}
    (hexadecimal : HexadecimalToken event) :
    needle <:+: canonicalJson (.obj event.safeDict) ↔
      ∃ identifier ∈ event.identifiers, needle <:+: identifier.1 := by
  obtain ⟨c, inside, notClock, notHex, beyond⟩ := foreign.apart
  have identified (identifier : Identifier) :
      needle <:+: quote identifier.1 ↔ needle <:+: identifier.1 := by
    refine infix_quote foreign.plain fun d member => ?_
    have range := identifier_chars identifier d member
    omega
  have numbers (n : Int) : ¬ needle <:+: decimal n := by
    refine not_occurs inside fun member => ?_
    have range := decimal_chars n c member
    omega
  have times (timestamp : Timestamp) : ¬ needle <:+: quote timestamp.isoformat := by
    have clock := isoformat_clockwork timestamp
    rw [infix_quote foreign.plain]
    · exact not_occurs inside fun member => notClock (clock c member)
    · intro d member
      have range := clock d member
      unfold Clockwork at range
      omega
  have token : ¬ needle <:+: canonicalJson (tokenValue event.customerToken) := by
    cases shown : event.customerToken with
    | none => exact foreign.null
    | some token =>
      have digits := hexadecimal token shown
      rw [tokenValue, canonicalJson, infix_quote foreign.plain]
      · exact not_occurs inside fun member => notHex (digits c member)
      · intro d member
        have range := digits d member
        unfold Hexadecimal at range
        omega
  have keys : ∀ entry ∈ event.safeDict, ¬ needle <:+: quote entry.1 := fun entry member =>
    foreign.keys entry.1 (safe_dict_keys event ▸ List.mem_map_of_mem member)
  have values : needle <:+: canonicalJson (.obj event.safeDict) ↔
      ∃ entry ∈ event.safeDict, needle <:+: canonicalJson entry.2 := by
    refine (infix_canonical foreign.plain _).trans (exists_congr fun entry => and_congr_right ?_)
    intro member
    exact or_iff_right (keys entry member)
  rw [values]
  simp only [PaymentEvent.safeDict, PaymentEvent.identifiers, List.exists_mem_cons_iff,
    canonicalJson, identified, numbers, times, foreign.schema, foreign.eventTypes,
    foreign.currencies, false_or, or_false, List.not_mem_nil, false_and, exists_false]
  refine or_congr_right (or_congr_right (or_congr_right (or_congr_right ?_)))
  exact or_iff_left token

/-- The name of the email field is a word that occurs in no key, no time and no digest of a
payload. -/
theorem email_field_foreign : Foreign emailField where
  plain := unstructured_of_all (by decide) (by decide)
  apart := ⟨point 'o', by decide +kernel, by decide +kernel⟩
  keys := by decide +kernel
  schema := by decide +kernel
  eventTypes eventType := by cases eventType <;> decide +kernel
  currencies currency := by cases currency <;> decide +kernel
  null := by decide +kernel

/-- The at sign occurs in none of them either. -/
theorem at_sign_foreign : Foreign (str "@") where
  plain := unstructured_of_all (by decide) (by decide)
  apart := ⟨point '@', by decide +kernel, by decide +kernel⟩
  keys := by decide +kernel
  schema := by decide +kernel
  eventTypes eventType := by cases eventType <;> decide +kernel
  currencies currency := by cases currency <;> decide +kernel
  null := by decide +kernel

/-- No payload has an at sign: none of its texts has one, and none of its punctuation is one. -/
theorem payload_without_at {event : PaymentEvent} (hexadecimal : HexadecimalToken event) :
    ¬ str "@" <:+: canonicalJson (.obj event.safeDict) := by
  rw [foreign_occurs at_sign_foreign hexadecimal]
  rintro ⟨identifier, _, held⟩
  have range := identifier_chars identifier (point '@') (held.subset List.mem_cons_self)
  revert range
  decide

/-! ## Stored payloads -/

/-- Hexadecimal gates give hexadecimal tokens, so that a token spells no field name. -/
theorem validated_hexadecimal {gate : Gate} {raw : Fields} {event : PaymentEvent}
    (digests : HexadecimalGate gate)
    (valid : validateEvent gate.runtime gate.registry gate.tokenKey raw = .ok event) :
    HexadecimalToken event := by
  intro token shown
  rcases (validate_event_ok valid).customer with ⟨_, none⟩ | ⟨_, none⟩ | ⟨email, _, _, digest⟩
  · exact absurd (none.symm.trans shown) (by simp)
  · exact absurd (none.symm.trans shown) (by simp)
  · rw [← Option.some.inj (digest.symm.trans shown)]
    exact digests gate.tokenKey _

/-- However a store came about, no accepted payload has an at sign, and the leak count is the
number of accepted events with an identifier that spells the email field. -/
theorem clear_email_leak_count_exact {database : Database} {rules : Option PostingRules}
    (reached : ReachableThrough HexadecimalGate database rules) :
    (∀ row ∈ database.tables.acceptedEvent, point '@' ∉ row.safePayload) ∧
      clearEmailLeakCount database.tables = database.tables.events.countP fun event =>
        event.identifiers.any fun identifier => occurs emailField identifier.1 := by
  have tokens := reached.events fun _ _ _ digests valid => validated_hexadecimal digests valid
  have payloads := (reachable_consistent reached.reachable).identified.payloads
  have hexadecimal {row : AcceptedRow} (member : row ∈ database.tables.acceptedEvent) :
      HexadecimalToken row.event := tokens row.event (List.mem_map_of_mem member)
  constructor
  · intro row member held
    rw [payloads row member] at held
    exact payload_without_at (hexadecimal member) ((List.singleton_infix_iff _ _).mpr held)
  · unfold clearEmailLeakCount Tables.events
    rw [List.countP_map]
    refine List.countP_congr fun row member => ?_
    have clean := payload_without_at (hexadecimal member)
    rw [leaks, payloads row member, Bool.or_eq_true, occurs_iff, occurs_iff, or_iff_left clean,
      foreign_occurs email_field_foreign (hexadecimal member)]
    simp only [Function.comp_apply, List.any_eq_true, occurs_iff]

/-! ## A payer with an email -/

/-- The fingerprint of the sample is ASCII. -/
theorem payer_identity_ascii :
    Ascii (str "42f82a050f40005b2ece92500acc442313d2c5105ea406ab41ceea2fa680d217") := by
  decide

/-- The digest of the state of the sample is ASCII. -/
theorem payer_state_ascii :
    Ascii (str "8a6d029c515a97bad9d6c367ded8f560573218622dc969a41d91c17d21717ed2") := by
  decide

/-- The token of the sample is ASCII. -/
theorem payer_token_ascii :
    Ascii (str "5bbdd4697ba1933b8ef39ce813b7f0d0df8c19a17074a03c36133b2528c62e01") := by
  decide

/-- An authorization with an email, whose event id spells the email field. -/
def payerFields : Fields :=
  sampleFields "customer_email" .authorization 1 1000 ++
    [(str "customer_email", .str (str "payer@example.com"))]

/-- The payer's arrival. -/
def payerArrival : Fields :=
  payerFields ++ [(str "received_at", .str (str "2026-01-01T00:01:00+00:00"))]

/-- The digests of the payer's identity and state, and the payer's token. -/
def payerRuntime : Runtime :=
  { tableRuntime [(canonicalJson (.obj payerFields),
        ⟨str "42f82a050f40005b2ece92500acc442313d2c5105ea406ab41ceea2fa680d217",
          payer_identity_ascii⟩),
      (canonicalJson (.arr [sampleState 1 "customer_email" "AUTHORIZED" 0]),
        ⟨str "8a6d029c515a97bad9d6c367ded8f560573218622dc969a41d91c17d21717ed2",
          payer_state_ascii⟩)] with
    hmacSha256 := fun _ _ =>
      ⟨str "5bbdd4697ba1933b8ef39ce813b7f0d0df8c19a17074a03c36133b2528c62e01",
        payer_token_ascii⟩ }

/-- The gate of the payer's arrival. -/
def payerGate : Gate := ⟨payerRuntime, sampleRegistry, List.replicate 32 0⟩

/-- The keyed digests of the sample gate are hexadecimal. -/
theorem payer_gate_hexadecimal : HexadecimalGate payerGate := by
  intro _ _ c member
  have all : (str "5bbdd4697ba1933b8ef39ce813b7f0d0df8c19a17074a03c36133b2528c62e01").all
      (fun c => decide (Hexadecimal c)) = true := by decide
  exact of_decide_eq_true (List.all_eq_true.mp all c member)

/-- The payer's email is stored as a token, and the one leak that is counted is the event id. -/
theorem clear_email_leak_count_payer :
    ∃ database rules, ReachableThrough HexadecimalGate database rules ∧
      (∀ row ∈ database.tables.acceptedEvent, point '@' ∉ row.safePayload) ∧
      clearEmailLeakCount database.tables = 1 := by
  let call := sampleCall "run-1" [payerArrival]
  have reached := ReachableThrough.process payerGate call payer_gate_hexadecimal .empty
    (completed_run payerGate call emptyDatabase)
  obtain ⟨clean, counted⟩ := clear_email_leak_count_exact reached
  refine ⟨_, _, reached, clean, counted.trans ?_⟩
  decide +kernel

end LedgerFlow
