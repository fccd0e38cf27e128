import LedgerFlow.Contracts
import LedgerFlow.Support.JsonSchema

/-!
# The published contract

The contract `payment_event_v1.json` states the grammar of payment events a second time,
as a JSON Schema. The schema gate accepts fewer raw events than the contract allows in
every field but one: the contract wants a text for the customer's email, and the gate
takes a null for an absent one.
-/

namespace LedgerFlow

open PyText PyJson PyDateTime JsonSchema

/-- `^[A-Za-z0-9._:-]{1,128}$` -/
def identifierPattern : Pattern where
  within c := decide ((65 ≤ c.val ∧ c.val ≤ 90) ∨ (97 ≤ c.val ∧ c.val ≤ 122) ∨
    (48 ≤ c.val ∧ c.val ≤ 57) ∨ c.val = 46 ∨ c.val = 95 ∨ c.val = 58 ∨ c.val = 45)
  least := 1
  most := 128

/-- `contracts/payment_event_v1.json`, its format keywords left aside. -/
def paymentEventV1 : RecordSchema where
  additionalProperties := false
  required :=
    [str "schema_version", str "event_id", str "transaction_id", str "transaction_version",
      str "source_id", str "processor_id", str "merchant_id", str "event_type",
      str "amount_minor", str "currency", str "event_time", str "received_at"]
  properties :=
    [(str "schema_version", { const := some (str "1.0") }),
      (str "event_id", { kind := some .string, pattern := some identifierPattern }),
      (str "transaction_id", { kind := some .string, pattern := some identifierPattern }),
      (str "transaction_version", { kind := some .integer, minimum := some 1 }),
      (str "source_id", { kind := some .string }),
      (str "processor_id", { kind := some .string }),
      (str "merchant_id", { kind := some .string }),
      (str "event_type",
        { enum := some [str "authorization", str "capture", str "refund", str "chargeback"] }),
      (str "amount_minor", { kind := some .integer, minimum := some 1 }),
      (str "currency", { enum := some [str "INR", str "USD", str "EUR", str "GBP"] }),
      (str "event_time", { kind := some .string }),
      (str "received_at", { kind := some .string }),
      (str "customer_email", { kind := some .string })]

/-- A JSON value satisfies the published contract, whichever numerals of floats are
integers. -/
def Published (value : Json) : Prop :=
  ∀ numerals, paymentEventV1.allows numerals value = true

/-! ## The keywords of each field -/

section Keywords

variable {numerals : Numerals}

/-- A text satisfies the type `string`, whatever it holds. -/
theorem text_allowed (text : Str) :
    Property.allows numerals { kind := some .string } (.str text) = true := rfl

/-- An identifier satisfies the pattern of the schema, which is that of the gate. -/
theorem identifier_allowed (identifier : Identifier) :
    Property.allows numerals { kind := some .string, pattern := some identifierPattern }
      (.str identifier.1) = true := by
  have matched : identifierPattern.matched identifier.1 = true := identifier.2
  simp only [Property.allows, Option.all_some, Option.all_none, Kind.admits, Pattern.admits,
    matched, Bool.and_true]

/-- A positive integer satisfies the type and the minimum. -/
theorem positive_allowed {number : Int} (positive : 1 ≤ number) :
    Property.allows numerals { kind := some .integer, minimum := some 1 }
      (.int number) = true := by
  have reached := decide_eq_true positive
  simp only [Property.allows, Option.all_some, Option.all_none, Kind.admits, reaches, reached,
    Bool.and_true]

/-- Every event type is enumerated in the schema. -/
theorem event_type_allowed (eventType : EventType) :
    Property.allows numerals
      { enum := some [str "authorization", str "capture", str "refund", str "chargeback"] }
      (.str eventType.text) = true := by
  have listed : eventType.text ∈
      [str "authorization", str "capture", str "refund", str "chargeback"] := by
    cases eventType <;> decide
  simp only [Property.allows, Option.all_some, Option.all_none, isText,
    decide_eq_true listed, Bool.and_true]

/-- Every currency is enumerated in the schema. -/
theorem currency_allowed (currency : Currency) :
    Property.allows numerals { enum := some [str "INR", str "USD", str "EUR", str "GBP"] }
      (.str currency.text) = true := by
  have listed : currency.text ∈ [str "INR", str "USD", str "EUR", str "GBP"] := by
    cases currency <;> decide
  simp only [Property.allows, Option.all_some, Option.all_none, isText,
    decide_eq_true listed, Bool.and_true]

end Keywords

/-! ## Accepted events -/

section Accepted

variable {runtime : Runtime} {registry : Registry} {tokenKey : List UInt8} {raw : Fields}
  {event : PaymentEvent}

/-- The email of an accepted raw event is a text exactly where it is present and not null. -/
theorem accepted_email (valid : Validated runtime registry tokenKey raw event) {value : Json}
    (given : get raw (str "customer_email") = some value) (numerals : Numerals) :
    Property.allows numerals { kind := some .string } value = true ↔ value ≠ .null := by
  rcases valid.customer with ⟨absent, _⟩ | ⟨null, _⟩ | ⟨email, text, _⟩
  · rw [absent] at given
    cases given
  · rw [null] at given
    cases given
    constructor
    · intro admitted
      cases admitted
    · intro other
      exact absurd rfl other
  · rw [text] at given
    cases given
    exact ⟨fun _ => nofun, fun _ => text_allowed email⟩

/-- Each field of an accepted raw event satisfies its property, the email where it is not
null. -/
theorem accepted_property (valid : Validated runtime registry tokenKey raw event)
    (nonnull : get raw (str "customer_email") ≠ some .null) {numerals : Numerals} {name : Str}
    {property : Property} (listed : (name, property) ∈ paymentEventV1.properties)
    {value : Json} (given : get raw name = some value) :
    property.allows numerals value = true := by
  have read {other : Json} (present : get raw name = some other)
      (allowed : property.allows numerals other = true) :
      property.allows numerals value = true := by
    rw [given] at present
    cases present
    exact allowed
  simp only [paymentEventV1, List.mem_cons, Prod.mk.injEq, List.not_mem_nil, or_false] at listed
  rcases listed with ⟨rfl, rfl⟩ | ⟨rfl, rfl⟩ | ⟨rfl, rfl⟩ | ⟨rfl, rfl⟩ | ⟨rfl, rfl⟩ |
    ⟨rfl, rfl⟩ | ⟨rfl, rfl⟩ | ⟨rfl, rfl⟩ | ⟨rfl, rfl⟩ | ⟨rfl, rfl⟩ | ⟨rfl, rfl⟩ |
    ⟨rfl, rfl⟩ | ⟨rfl, rfl⟩
  · exact read valid.schema rfl
  · exact read valid.eventId (identifier_allowed _)
  · exact read valid.transactionId (identifier_allowed _)
  · exact read valid.transactionVersion (positive_allowed event.versionPositive)
  · exact read valid.sourceId (text_allowed _)
  · exact read valid.processorId (text_allowed _)
  · exact read valid.merchantId (text_allowed _)
  · exact read valid.eventType (event_type_allowed _)
  · exact read valid.amountMinor (positive_allowed event.amountPositive)
  · exact read valid.currency (currency_allowed _)
  · obtain ⟨text, present, _⟩ := valid.eventTime
    exact read present (text_allowed text)
  · obtain ⟨text, present, _⟩ := valid.receivedAt
    exact read present (text_allowed text)
  · refine (accepted_email valid given numerals).mpr fun null => nonnull ?_
    rw [given, null]

/-- An accepted raw event has every required field; the gate tests the same list. -/
theorem accepted_required (valid : Validated runtime registry tokenKey raw event) {name : Str}
    (listed : name ∈ paymentEventV1.required) : (get raw name).isSome = true := by
  have held {value : Json} (present : get raw name = some value) :
      (get raw name).isSome = true := by
    rw [present, Option.isSome_some]
  simp only [paymentEventV1, List.mem_cons, List.not_mem_nil, or_false] at listed
  rcases listed with rfl | rfl | rfl | rfl | rfl | rfl | rfl | rfl | rfl | rfl | rfl | rfl
  · exact held valid.schema
  · exact held valid.eventId
  · exact held valid.transactionId
  · exact held valid.transactionVersion
  · exact held valid.sourceId
  · exact held valid.processorId
  · exact held valid.merchantId
  · exact held valid.eventType
  · exact held valid.amountMinor
  · exact held valid.currency
  · obtain ⟨_, present, _⟩ := valid.eventTime
    exact held present
  · obtain ⟨_, present, _⟩ := valid.receivedAt
    exact held present

/-- An accepted raw event satisfies the published contract exactly when its email is not
null: absent, or a text. -/
theorem accepted_published_iff
    (accepted : validateEvent runtime registry tokenKey raw = .ok event) :
    Published (.obj raw) ↔ get raw (str "customer_email") ≠ some .null := by
  have valid := validate_event_ok accepted
  constructor
  · intro published null
    have allowed := (closed_allows rfl).mp (published ⟨fun _ => false, fun _ _ => false⟩)
    have listed : (str "customer_email", { kind := some .string }) ∈
        paymentEventV1.properties := by
      simp only [paymentEventV1, List.mem_cons, List.not_mem_nil, or_false, or_true]
    exact (accepted_email valid null _).mp (allowed.2.1 _ _ listed _ null) rfl
  · intro nonnull numerals
    refine (closed_allows rfl).mpr ⟨fun name listed => accepted_required valid listed,
      fun name property listed value given => accepted_property valid nonnull listed given, ?_⟩
    exact fun entry listed => accepted_fields accepted listed

end Accepted

/-! ## Samples -/

/-- The sample event with a null email. -/
def contractNullEmail : Fields := sampleAuthorization ++ [(str "customer_email", .null)]

/-- The schema gate accepts the raw event under the sample registry. -/
def SampleAccepted (raw : Fields) : Prop :=
  ∃ event, validateEvent (tableRuntime []) sampleRegistry [] raw = .ok event

/-- Whether the schema gate accepts can be computed, as it is on the samples. -/
theorem sample_accepted {raw : Fields}
    (computed : (validateEvent (tableRuntime []) sampleRegistry [] raw).toOption.isSome = true) :
    SampleAccepted raw := by
  cases outcome : validateEvent (tableRuntime []) sampleRegistry [] raw with
  | ok event => exact ⟨event, outcome⟩
  | error _ =>
    rw [outcome] at computed
    cases computed

/-- The gate accepts a null email, and the contract does not, which gives the field the type of a
text. -/
theorem null_email_unpublished :
    SampleAccepted contractNullEmail ∧ ¬ Published (.obj contractNullEmail) := by
  refine ⟨sample_accepted (by decide +kernel), fun published => ?_⟩
  have allowed := published ⟨fun _ => false, fun _ _ => false⟩
  revert allowed
  decide +kernel

/-- The sample event without an email satisfies the contract. -/
theorem sample_published :
    SampleAccepted sampleAuthorization ∧ Published (.obj sampleAuthorization) := by
  obtain ⟨event, accepted⟩ := @sample_accepted sampleAuthorization (by decide +kernel)
  have absent : get sampleAuthorization (str "customer_email") = none := by decide +kernel
  refine ⟨⟨event, accepted⟩, (accepted_published_iff accepted).mpr ?_⟩
  rw [absent]
  exact nofun

end LedgerFlow
