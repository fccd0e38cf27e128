import LedgerFlow.Contracts

/-!
# What an identity fingerprint identifies

Two contract-valid raw events with one fingerprint read as payment events that agree
in everything but their receipt time, provided that SHA-256 does not collide on their
identity texts. The identity entries of a contract-valid event are flat and spell no
surrogate pair as two code points, so their canonical text determines them; the
entries determine every field of the event that acceptance reads from them.

Raw events that differ in their receipt time only are identified as one event
without any assumption.
-/

namespace LedgerFlow

open PyText PyJson PyDateTime

variable {runtime : Runtime} {registry : Registry} {tokenKey : List UInt8}

/-- The events agree in every field except the receipt time. -/
def Alike (first second : PaymentEvent) : Prop :=
  first = { second with receivedAt := first.receivedAt }

/-- An event is alike itself. -/
theorem Alike.refl (event : PaymentEvent) : Alike event event := rfl

/-- Being alike is symmetric. -/
theorem Alike.symm {first second : PaymentEvent} (alike : Alike first second) :
    Alike second first := by
  unfold Alike at alike ⊢
  rw [alike]

/-- Being alike is transitive. -/
theorem Alike.trans {first second third : PaymentEvent} (left : Alike first second)
    (right : Alike second third) : Alike first third := by
  unfold Alike at left right ⊢
  rw [left, right]

/-- The raw events agree under every key except `received_at`. -/
def SameSubmission (first second : Fields) : Prop :=
  ∀ key, key ≠ str "received_at" → get first key = get second key

/-! ## The identity entries of a contract-valid event -/

/-- A replaced Z neither opens nor closes a surrogate pair, since neither it nor its replacement
has a surrogate. -/
theorem spell_z_unpaired {text : Str} (unpaired : Unpaired (spellZ text)) : Unpaired text := by
  induction text with
  | nil => trivial
  | cons c rest inductionHypothesis =>
    have zPlain : high (point 'Z') = false ∧ low (point 'Z') = false := by decide
    by_cases isZ : c = point 'Z'
    · refine ⟨fun opens => by simp [isZ, zPlain.1] at opens, inductionHypothesis ?_⟩
      have spelled : spellZ (c :: rest) = str "+00:00" ++ spellZ rest := by
        simp [spellZ, isZ]
      rw [spelled] at unpaired
      exact unpaired.2.2.2.2.2.2
    · have spelled : spellZ (c :: rest) = c :: spellZ rest := by simp [spellZ, isZ]
      rw [spelled] at unpaired
      refine ⟨fun opens d head => ?_, inductionHypothesis unpaired.2⟩
      cases rest with
      | nil => cases head
      | cons e others =>
        cases head
        by_cases nextZ : d = point 'Z'
        · exact nextZ ▸ zPlain.2
        · exact unpaired.1 opens d (by simp [spellZ, nextZ])

/-- A text that reads as a timestamp is unpaired, as it is printed in ASCII apart from the Z. -/
theorem reads_unpaired {text : Str} {reading : Reading}
    (reads : fromisoformat (spellZ text) = some reading) : Unpaired text :=
  spell_z_unpaired (fromisoformat_unpaired reads)

/-- An identifier is ASCII, so it has no surrogates. -/
theorem identifier_unpaired (identifier : Identifier) : Unpaired identifier.1 :=
  (identifier_ascii identifier).encodable.unpaired

/-- Every identity value of a contract-valid event is a scalar: a text or an integer, and null for
the absent customer. This is what lets the printed identity be read back. -/
theorem identity_scalar {raw : Fields} {event : PaymentEvent}
    (valid : Validated runtime registry tokenKey raw event) {field : Str} {value : Json}
    (listed : field ∈ identityFields) (present : get raw field = some value) :
    Scalar (identityValue runtime field value) := by
  have named (literal : String) (ascii : Ascii (str literal)) : Unpaired (str literal) :=
    ascii.encodable.unpaired
  have texts : Unpaired schemaVersion ∧ Unpaired event.eventType.text ∧
      Unpaired event.currency.text := by
    refine ⟨named _ (by decide), ?_, ?_⟩
    · cases event.eventType <;> exact named _ (by decide)
    · cases event.currency <;> exact named _ (by decide)
  have known {given : Json} (stored : get raw field = some given)
      (scalar : Scalar (identityValue runtime field given)) :
      Scalar (identityValue runtime field value) := by
    rw [stored] at present
    cases present
    exact scalar
  simp only [identityFields, List.mem_cons, List.not_mem_nil, or_false] at listed
  rcases listed with rfl | rfl | rfl | rfl | rfl | rfl | rfl | rfl | rfl | rfl | rfl | rfl
  · exact known valid.schema texts.1
  · exact known valid.eventId (identifier_unpaired _)
  · exact known valid.transactionId (identifier_unpaired _)
  · exact known valid.transactionVersion trivial
  · exact known valid.sourceId (identifier_unpaired _)
  · exact known valid.processorId (identifier_unpaired _)
  · exact known valid.merchantId (identifier_unpaired _)
  · exact known valid.eventType texts.2.1
  · exact known valid.amountMinor trivial
  · exact known valid.currency texts.2.2
  · obtain ⟨text, given, reads⟩ := valid.eventTime
    exact known given (reads_unpaired reads)
  · rcases valid.customer with ⟨missing, _⟩ | ⟨null, _⟩ | ⟨email, given, encodable, _⟩
    · rw [missing] at present
      cases present
    · exact known null trivial
    · exact known given encodable.unpaired

/-- Each entry of an identity is a key with a text or an integer, and none of the texts has a lone
surrogate.

Proof: the checks that the record has passed say what each entry is. -/
theorem identity_flat {raw : Fields} {event : PaymentEvent}
    (valid : Validated runtime registry tokenKey raw event) :
    ∀ entry ∈ identity runtime raw, FlatEntry entry := by
  intro entry inside
  obtain ⟨field, listed, found⟩ := List.mem_filterMap.mp inside
  obtain ⟨value, present, rfl⟩ := Option.map_eq_some_iff.mp found
  have plain : ∀ name ∈ identityFields, Ascii name := by simp only [identityFields]; decide
  exact ⟨(plain field listed).encodable.unpaired, identity_scalar valid listed present⟩

/-- An identity entry is an entry of the raw event under an identity field. -/
theorem identity_entry {raw : Fields} {field : Str} {value : Json} :
    (field, value) ∈ identity runtime raw ↔
      field ∈ identityFields ∧ ∃ given, get raw field = some given ∧
        identityValue runtime field given = value := by
  simp only [identity, List.mem_filterMap, Option.map_eq_some_iff, Prod.mk.injEq]
  constructor
  · rintro ⟨_, listed, given, present, rfl, same⟩
    exact ⟨listed, given, present, same⟩
  · rintro ⟨listed, given, present, same⟩
    exact ⟨field, listed, given, present, rfl, same⟩

/-! ## Equal identities -/

/-- Under every field but the email an identity value is the entry itself. -/
theorem identity_value_other {field : Str} {value : Json}
    (other : field ≠ str "customer_email") : identityValue runtime field value = value := by
  unfold identityValue
  split
  · rw [if_neg other]
  · rfl

/-- Equal identity texts give each identity field the same identity value.

Proof: the canonical text of a flat object without surrogates determines its entries. -/
theorem identity_transfer {first second : Fields} {left right : PaymentEvent}
    (firstValid : Validated runtime registry tokenKey first left)
    (secondValid : Validated runtime registry tokenKey second right)
    (same : identityText runtime first = identityText runtime second)
    {field : Str} {value : Json} (listed : field ∈ identityFields)
    (present : get first field = some value) :
    ∃ given, get second field = some given ∧
      identityValue runtime field given = identityValue runtime field value := by
  have entries := canonical_entries (identity_flat firstValid) (identity_flat secondValid) same
  have inside : (field, identityValue runtime field value) ∈ identity runtime second :=
    entries.mem_iff.mp (identity_entry.mpr ⟨listed, value, present, rfl⟩)
  exact (identity_entry.mp inside).2

/-- Two payment events that agree in these fields are alike. The receipt time is the one field
that is missing from the list. -/
theorem alike_of_fields {first second : PaymentEvent} (eventId : first.eventId = second.eventId)
    (transactionId : first.transactionId = second.transactionId)
    (version : first.transactionVersion = second.transactionVersion)
    (sourceId : first.sourceId = second.sourceId)
    (processorId : first.processorId = second.processorId)
    (merchantId : first.merchantId = second.merchantId)
    (eventType : first.eventType = second.eventType)
    (amount : first.amountMinor = second.amountMinor)
    (currency : first.currency = second.currency)
    (eventTime : first.eventTime = second.eventTime)
    (token : first.customerToken = second.customerToken) : Alike first second := by
  cases first
  cases second
  simp_all [Alike]

section SameIdentity

variable {first second : Fields} {left right : PaymentEvent}
  (firstValid : Validated runtime registry tokenKey first left)
  (secondValid : Validated runtime registry tokenKey second right)
  (same : identityText runtime first = identityText runtime second)

include firstValid secondValid same

/-- Outside the email an identity value is the entry itself, so equal identity texts have equal
entries. -/
theorem same_identity_entry {field : Str} {value other : Json} (listed : field ∈ identityFields)
    (plain : field ≠ str "customer_email") (present : get first field = some value)
    (found : get second field = some other) : value = other := by
  obtain ⟨given, held, same⟩ := identity_transfer firstValid secondValid same listed present
  rw [held] at found
  cases found
  rw [identity_value_other plain, identity_value_other plain] at same
  exact same.symm

/-- The event times are read from equal texts, so they are equal. Equal instants in two spellings
have different texts, and two fingerprints. -/
theorem same_identity_time : left.eventTime = right.eventTime := by
  obtain ⟨text, given, reads⟩ := firstValid.eventTime
  obtain ⟨other, found, readsOther⟩ := secondValid.eventTime
  have texts := Json.str.inj
    (same_identity_entry firstValid secondValid same (by decide) (by decide) given found)
  rw [texts, readsOther] at reads
  exact (Reading.aware.inj (Option.some.inj reads)).symm

/-- The tokens are equal. Absent and null emails give no token, and a given email is given on
both sides with the same normalized text: the identity keeps absent, null and given apart. -/
theorem same_identity_token : left.customerToken = right.customerToken := by
  rcases firstValid.customer with ⟨gone, none⟩ | ⟨gone, none⟩ | ⟨email, given, _, token⟩
  · rcases secondValid.customer with ⟨_, other⟩ | ⟨_, other⟩ | ⟨email, found, _⟩
    · rw [none, other]
    · rw [none, other]
    · obtain ⟨_, held, _⟩ :=
        identity_transfer secondValid firstValid same.symm (by decide) found
      rw [gone] at held
      cases held
  · obtain ⟨_, found, values⟩ := identity_transfer firstValid secondValid same (by decide) gone
    rcases secondValid.customer with ⟨_, other⟩ | ⟨_, other⟩ | ⟨email, held, _⟩
    · rw [none, other]
    · rw [none, other]
    · rw [held] at found
      cases found
      cases values
  · obtain ⟨_, found, values⟩ := identity_transfer firstValid secondValid same (by decide) given
    rcases secondValid.customer with ⟨missing, _⟩ | ⟨null, _⟩ | ⟨other, held, _, otherToken⟩
    · rw [missing] at found
      cases found
    · rw [null] at found
      cases found
      cases values
    · rw [held] at found
      cases found
      have normalized : runtime.lower (strip other) = runtime.lower (strip email) :=
        Json.str.inj values
      rw [token, otherToken, normalized]

/-- Contract-valid raw events with equal identity texts read as alike events: each field is read
from equal entries. -/
theorem same_identity_alike : Alike left right := by
  have stored {field : Str} {value other : Json} (listed : field ∈ identityFields)
      (plain : field ≠ str "customer_email") (present : get first field = some value)
      (found : get second field = some other) : value = other :=
    same_identity_entry firstValid secondValid same listed plain present found
  have identifiers {field : Str} {one other : Identifier} (listed : field ∈ identityFields)
      (plain : field ≠ str "customer_email") (present : get first field = some (.str one.1))
      (found : get second field = some (.str other.1)) : one = other :=
    Subtype.ext (Json.str.inj (stored listed plain present found))
  exact alike_of_fields
    (identifiers (by decide) (by decide) firstValid.eventId secondValid.eventId)
    (identifiers (by decide) (by decide) firstValid.transactionId secondValid.transactionId)
    (Json.int.inj
      (stored (by decide) (by decide) firstValid.transactionVersion secondValid.transactionVersion))
    (identifiers (by decide) (by decide) firstValid.sourceId secondValid.sourceId)
    (identifiers (by decide) (by decide) firstValid.processorId secondValid.processorId)
    (identifiers (by decide) (by decide) firstValid.merchantId secondValid.merchantId)
    (event_type_text_inj
      (Json.str.inj (stored (by decide) (by decide) firstValid.eventType secondValid.eventType)))
    (Json.int.inj
      (stored (by decide) (by decide) firstValid.amountMinor secondValid.amountMinor))
    (currency_text_inj
      (Json.str.inj (stored (by decide) (by decide) firstValid.currency secondValid.currency)))
    (same_identity_time firstValid secondValid same)
    (same_identity_token firstValid secondValid same)

end SameIdentity

/-- One submission received twice has one identity text, as the receipt time is no identity
field. -/
theorem same_submission_identity {first second : Fields} (same : SameSubmission first second) :
    identityText runtime first = identityText runtime second := by
  have entries : identity runtime first = identity runtime second := by
    refine List.filterMap_congr fun field listed => ?_
    have other : field ≠ str "received_at" := by
      rintro rfl
      revert listed
      decide
    rw [same field other]
  rw [identityText, identityText, entries]

/-- Sample events that differ in their receipt time are one submission, whatever else they
hold. -/
theorem sample_submission (eventId : String) (eventType : EventType) (version amount : Int)
    (first second : String) :
    SameSubmission (sampleRaw eventId eventType version amount first)
      (sampleRaw eventId eventType version amount second) := by
  intro key other
  have last (text : String) : ([(str "received_at", Json.str (str text))] : Fields).lookup key =
      none := by
    rw [List.lookup_cons, beq_false_of_ne other]
    rfl
  simp only [sampleRaw, PyJson.get, List.lookup_append, last]

end LedgerFlow
