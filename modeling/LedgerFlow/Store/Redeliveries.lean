import LedgerFlow.Store.Ingest

/-!
# What a fingerprint tells apart

Two accepted raw events with one fingerprint read as alike events of one customer. The
converse asks the raw events for one spelling: the fingerprint is taken of the raw
record, where the event time is still as it was written and an absent email differs
from a null one, while validation reads both of them away.

A second delivery of an event meets the stored fingerprint of the first, so the same
condition decides between a duplicate and an identity conflict.
-/

namespace LedgerFlow

open PyText PyJson PyDateTime Grouping Programs

variable {runtime : Runtime} {registry : Registry} {tokenKey : List UInt8}

/-! ## Customers -/

/-- The customer of a raw event: its email, stripped and lowered, where it has one. -/
def customer (runtime : Runtime) (raw : Fields) : Option Str :=
  match get raw (str "customer_email") with
  | some (.str email) => some (runtime.lower (strip email))
  | _ => none

/-- A given address is normalized: stripped of blanks and in lower case. -/
theorem customer_given {raw : Fields} {email : Str}
    (given : get raw (str "customer_email") = some (.str email)) :
    customer runtime raw = some (runtime.lower (strip email)) := by
  rw [customer, given]

/-- A customer is read from an email that is there, stripped and in lower case; the spelling
beyond that is lost. -/
theorem customer_some {raw : Fields} {normalized : Str}
    (read : customer runtime raw = some normalized) :
    ∃ email, get raw (str "customer_email") = some (.str email) ∧
      runtime.lower (strip email) = normalized := by
  unfold customer at read
  split at read
  · exact ⟨_, ‹_›, Option.some.inj read⟩
  · cases read

section Pair

variable {first second : Fields} {left right : PaymentEvent}

/-- Equal identity texts carry the customer over, from one delivery to the other. -/
theorem same_identity_carries (firstValid : Validated runtime registry tokenKey first left)
    (secondValid : Validated runtime registry tokenKey second right)
    (same : identityText runtime first = identityText runtime second) {normalized : Str}
    (read : customer runtime first = some normalized) :
    customer runtime second = some normalized := by
  obtain ⟨email, given, rfl⟩ := customer_some read
  obtain ⟨value, held, values⟩ :=
    identity_transfer firstValid secondValid same (by decide) given
  rcases secondValid.customer with ⟨missing, _⟩ | ⟨null, _⟩ | ⟨other, found, _, _⟩
  · rw [missing] at held
    cases held
  · rw [null] at held
    cases held
    cases values
  · rw [found] at held
    cases held
    rw [customer_given found]
    exact congrArg some (Json.str.inj values)

/-- Equal identity texts have one customer, or both have none: a null email reads as none, though
its text differs from that of a missing one. -/
theorem same_identity_customer (firstValid : Validated runtime registry tokenKey first left)
    (secondValid : Validated runtime registry tokenKey second right)
    (same : identityText runtime first = identityText runtime second) :
    customer runtime first = customer runtime second := by
  cases read : customer runtime first with
  | some normalized => exact (same_identity_carries firstValid secondValid same read).symm
  | none =>
    cases other : customer runtime second with
    | none => rfl
    | some normalized =>
      have carried := same_identity_carries secondValid firstValid same.symm other
      rw [read] at carried
      cases carried

/-- No two of the identity texts of these raw events have one digest. -/
abbrev IdentitiesApart (runtime : Runtime) (first second : Fields) : Prop :=
  CollisionFree runtime fun text =>
    text = identityText runtime first ∨ text = identityText runtime second

/-- Without a collision, equal fingerprints are those of equal identity texts. Collision-freeness
is asked of these two texts only. -/
theorem same_fingerprint_text (apart : IdentitiesApart runtime first second)
    (same : identityFingerprint runtime first = identityFingerprint runtime second) :
    identityText runtime first = identityText runtime second :=
  apart _ _ (.inl rfl) (.inr rfl) same

/-- A fingerprint identifies what it was taken of. Accepted raw events with one
fingerprint read as events that agree in every field but the receipt time, and have one
customer after stripping and lowering the email. -/
theorem fingerprint_sound
    (firstAccepted : validateEvent runtime registry tokenKey first = .ok left)
    (secondAccepted : validateEvent runtime registry tokenKey second = .ok right)
    (apart : IdentitiesApart runtime first second)
    (same : identityFingerprint runtime first = identityFingerprint runtime second) :
    Alike left right ∧ customer runtime first = customer runtime second := by
  have firstValid := validate_event_ok firstAccepted
  have secondValid := validate_event_ok secondAccepted
  have texts := same_fingerprint_text apart same
  exact ⟨same_identity_alike firstValid secondValid texts,
    same_identity_customer firstValid secondValid texts⟩

end Pair

/-! ## Spellings -/

section Redelivery

variable {gate : Gate} {first second : Fields} {left right : PaymentEvent}

/-- The raw events deliver one payment event: they are accepted as events that agree in
every field but the receipt time, and emails that both hold normalize to one text. -/
structure Redelivered (gate : Gate) (first second : Fields) (left right : PaymentEvent) : Prop where
  firstAccepted : validateEvent gate.runtime gate.registry gate.tokenKey first = .ok left
  secondAccepted : validateEvent gate.runtime gate.registry gate.tokenKey second = .ok right
  alike : Alike left right
  emails : ∀ email other, get first (str "customer_email") = some (.str email) →
    get second (str "customer_email") = some (.str other) →
      gate.runtime.lower (strip email) = gate.runtime.lower (strip other)

/-- The event times are written alike, and the email is absent from both or from neither. -/
structure SameSpelling (first second : Fields) : Prop where
  eventTime : get first (str "event_time") = get second (str "event_time")
  email : get first (str "customer_email") = none ↔ get second (str "customer_email") = none

/-- The identity value of an email depends on the customer only, as it is normalized before it is
printed. -/
theorem identity_value_email {email : Str} :
    identityValue runtime (str "customer_email") (.str email) =
      .str (runtime.lower (strip email)) := by
  rw [identityValue, if_pos rfl]

/-- The email entries of one customer in one spelling have one identity value. -/
theorem redelivered_email (delivered : Redelivered gate first second left right)
    (spelling : SameSpelling first second) :
    (get first (str "customer_email")).map (identityValue gate.runtime (str "customer_email")) =
      (get second (str "customer_email")).map
        (identityValue gate.runtime (str "customer_email")) := by
  have tokens : left.customerToken = right.customerToken := by
    have alike := delivered.alike
    rw [Alike] at alike
    rw [alike]
  rcases (validate_event_ok delivered.firstAccepted).customer with
    ⟨gone, token⟩ | ⟨null, token⟩ | ⟨email, given, _, token⟩
  · rw [gone, spelling.email.mp gone]
  · rcases (validate_event_ok delivered.secondAccepted).customer with
      ⟨missing, _⟩ | ⟨other, _⟩ | ⟨other, _, _, otherToken⟩
    · rw [spelling.email.mpr missing] at null
      cases null
    · rw [null, other]
    · rw [token, otherToken] at tokens
      cases tokens
  · rcases (validate_event_ok delivered.secondAccepted).customer with
      ⟨_, otherToken⟩ | ⟨_, otherToken⟩ | ⟨other, found, _, _⟩
    · rw [token, otherToken] at tokens
      cases tokens
    · rw [token, otherToken] at tokens
      cases tokens
    · rw [given, found, Option.map_some, Option.map_some, identity_value_email,
        identity_value_email, delivered.emails email other given found]

/-- Deliveries of one event in one spelling have one identity text.

Proof: field by field; apart from the event time and the email, the event determines how a field
is written. -/
theorem same_spelling_identity (delivered : Redelivered gate first second left right)
    (spelling : SameSpelling first second) :
    identityText gate.runtime first = identityText gate.runtime second := by
  have firstValid := validate_event_ok delivered.firstAccepted
  have secondValid := validate_event_ok delivered.secondAccepted
  have alike := delivered.alike
  rw [Alike] at alike
  have read {field : Str} {value : Json} (here : get first field = some value)
      (there : get second field = some value) :
      (get first field).map (fun value => (field, identityValue gate.runtime field value)) =
        (get second field).map fun value => (field, identityValue gate.runtime field value) := by
    rw [here, there]
  have entries : identity gate.runtime first = identity gate.runtime second := by
    refine List.filterMap_congr fun field listed => ?_
    simp only [identityFields, List.mem_cons, List.not_mem_nil, or_false] at listed
    rcases listed with rfl | rfl | rfl | rfl | rfl | rfl | rfl | rfl | rfl | rfl | rfl | rfl
    · exact read firstValid.schema secondValid.schema
    · exact read firstValid.eventId (alike ▸ secondValid.eventId)
    · exact read firstValid.transactionId (alike ▸ secondValid.transactionId)
    · exact read firstValid.transactionVersion (alike ▸ secondValid.transactionVersion)
    · exact read firstValid.sourceId (alike ▸ secondValid.sourceId)
    · exact read firstValid.processorId (alike ▸ secondValid.processorId)
    · exact read firstValid.merchantId (alike ▸ secondValid.merchantId)
    · exact read firstValid.eventType (alike ▸ secondValid.eventType)
    · exact read firstValid.amountMinor (alike ▸ secondValid.amountMinor)
    · exact read firstValid.currency (alike ▸ secondValid.currency)
    · rw [spelling.eventTime]
    · have values := redelivered_email delivered spelling
      have paired := congrArg (Option.map fun value => (str "customer_email", value)) values
      rwa [Option.map_map, Option.map_map] at paired
  rw [identityText, identityText, entries]

/-- Deliveries with one identity text have one spelling, since the text shows how the event time
is written and whether there is an email. -/
theorem same_identity_spelling (delivered : Redelivered gate first second left right)
    (same : identityText gate.runtime first = identityText gate.runtime second) :
    SameSpelling first second := by
  have firstValid := validate_event_ok delivered.firstAccepted
  have secondValid := validate_event_ok delivered.secondAccepted
  have present {a b : Fields} {one other : PaymentEvent}
      (left : Validated gate.runtime gate.registry gate.tokenKey a one)
      (right : Validated gate.runtime gate.registry gate.tokenKey b other)
      (texts : identityText gate.runtime a = identityText gate.runtime b)
      (missing : get b (str "customer_email") = none) :
      get a (str "customer_email") = none := by
    cases held : get a (str "customer_email") with
    | none => rfl
    | some value =>
      obtain ⟨_, found, _⟩ := identity_transfer left right texts (by decide) held
      rw [missing] at found
      cases found
  constructor
  · obtain ⟨text, given, _⟩ := firstValid.eventTime
    obtain ⟨other, found, values⟩ := identity_transfer firstValid secondValid same (by decide) given
    rw [identity_value_other (by decide), identity_value_other (by decide)] at values
    rw [given, found, values]
  · exact ⟨present secondValid firstValid same.symm, present firstValid secondValid same⟩

/-- The quarantine of an identity conflict, as a program. -/
def quarantineConflict (gate : Gate) (runId : Str) (raw : Fields) (eventId : Identifier)
    (counts : Counts) : Sql Counts := do
  execute (.insertQuarantine runId (some eventId.1) conflictReason
    (redactedPayload gate.runtime raw))
  pure (countOne .quarantined conflictReason counts)

/-- A delivery whose identifier is known is a duplicate where its fingerprint is the
stored one, and a conflict elsewhere. -/
theorem ingest_known {runId : Str} {raw : Fields} {event : PaymentEvent} {counts : Counts}
    {database : Database} {stored : AsciiText}
    (accepted : validateEvent gate.runtime gate.registry gate.tokenKey raw = .ok event)
    (known : database.tables.identityOf event.eventId = some stored) :
    within (ingestOne gate runId raw counts).run database =
      if stored = identityFingerprint gate.runtime raw then
        .ok (countOne .duplicate (str "exact_event_replay") counts, database)
      else within (quarantineConflict gate runId raw event.eventId counts).run database := by
  have fetched {next : Option AsciiText → Sql Counts} :
      within (select (.identityOf event.eventId) >>= next).run database =
        within (next (database.tables.identityOf event.eventId)).run database := rfl
  simp only [ingestOne, accepted, fetched, known]
  split
  · rfl
  · rfl

/-- A redelivered event keeps its fingerprint exactly when it keeps its spelling: its
event time is written as before, and its email is absent as before or present as before.
A store that holds the fingerprint of the first delivery counts the second one as a
duplicate in that case, and in every other case quarantines it as an identity conflict. -/
theorem redelivery_fingerprint_iff (delivered : Redelivered gate first second left right)
    (apart : IdentitiesApart gate.runtime first second) :
    (identityFingerprint gate.runtime first = identityFingerprint gate.runtime second ↔
      SameSpelling first second) ∧
    ∀ (runId : Str) (counts : Counts) (database : Database),
      database.tables.identityOf left.eventId =
        some (identityFingerprint gate.runtime first) →
      (SameSpelling first second →
        within (ingestOne gate runId second counts).run database =
          .ok (countOne .duplicate (str "exact_event_replay") counts, database)) ∧
      (¬ SameSpelling first second →
        within (ingestOne gate runId second counts).run database =
          within (quarantineConflict gate runId second left.eventId counts).run database) := by
  have fingerprints : identityFingerprint gate.runtime first =
      identityFingerprint gate.runtime second ↔ SameSpelling first second := by
    constructor
    · intro same
      exact same_identity_spelling delivered (same_fingerprint_text apart same)
    · intro spelling
      rw [identityFingerprint, identityFingerprint, same_spelling_identity delivered spelling]
  refine ⟨fingerprints, fun runId counts database known => ?_⟩
  have sameId : left.eventId = right.eventId := by
    have alike := delivered.alike
    rw [Alike] at alike
    rw [alike]
  rw [sameId] at known ⊢
  rw [ingest_known delivered.secondAccepted known]
  constructor
  · intro spelling
    rw [if_pos (fingerprints.mpr spelling)]
  · intro differs
    rw [if_neg fun same => differs (fingerprints.mp same)]

end Redelivery

/-! ## Samples -/

/-- Two identity texts are apart where equal digests would make them equal, which is all that a
pair of deliveries needs. -/
theorem apart_of_pair {first second : Fields}
    (pair : runtime.sha256 (identityText runtime first) =
        runtime.sha256 (identityText runtime second) →
      identityText runtime first = identityText runtime second) :
    IdentitiesApart runtime first second := by
  rintro _ _ (rfl | rfl) (rfl | rfl) same
  · rfl
  · exact pair same
  · exact (pair same.symm).symm
  · rfl

/-- The sample authorization, received later. -/
def laterAuthorization : Fields :=
  sampleRaw "evt-1" .authorization 1 1000 "2026-01-02T00:00:00+00:00"

/-- The sample authorization with its event time spelled with a Z. -/
def zuluAuthorization : Fields :=
  sampleAuthorization.map fun entry =>
    if entry.1 = str "event_time" then (entry.1, .str (str "2026-01-01T00:00:00Z")) else entry

/-- The sample authorization with a null email. -/
def nullEmailAuthorization : Fields := sampleAuthorization ++ [(str "customer_email", .null)]

/-- The sample gate, with the digests of these spellings. -/
def spelledGate : Gate :=
  ⟨tableRuntime (
    [(identityText (tableRuntime []) zuluAuthorization,
        ⟨str "f598c0bd542a889c29920c5d4a60bb279d35468d35385f79ddb920b73ca5300b", by decide⟩),
      (identityText (tableRuntime []) nullEmailAuthorization,
        ⟨str "2f4403c2ebc9ac322cbe176d5bdad382982cd708645f1e94eb05721d7bb256d1", by decide⟩)] ++
      sampleDigests), sampleRegistry, List.replicate 32 0⟩

/-- Both raw events are accepted, as alike events. -/
def deliversAlike (gate : Gate) (first second : Fields) : Bool :=
  match validateEvent gate.runtime gate.registry gate.tokenKey first,
      validateEvent gate.runtime gate.registry gate.tokenKey second with
  | .ok left, .ok right => decide (erased left = erased right)
  | _, _ => false

/-- Where the first delivery has no email, alike events are redelivered. This is checked by
evaluation on concrete deliveries. -/
theorem redelivered_alike {gate : Gate} {first second : Fields}
    (absent : (get first (str "customer_email")).isNone = true)
    (alike : deliversAlike gate first second = true) :
    ∃ left right, Redelivered gate first second left right := by
  unfold deliversAlike at alike
  split at alike
  · rename_i left right firstAccepted secondAccepted
    refine ⟨left, right, firstAccepted, secondAccepted,
      alike_iff_erased.mpr (of_decide_eq_true alike), ?_⟩
    intro email other given _
    rw [given] at absent
    cases absent
  · cases alike

/-- The raw events deliver one payment event under two fingerprints. -/
def Respelled (first second : Fields) : Prop :=
  (∃ left right, Redelivered spelledGate first second left right) ∧
    identityFingerprint spelledGate.runtime first ≠
      identityFingerprint spelledGate.runtime second

/-- One instant in two spellings, and one missing email in two, change the fingerprint of
one payment event. -/
theorem respelled_deliveries : Respelled sampleAuthorization zuluAuthorization ∧
    Respelled sampleAuthorization nullEmailAuthorization := by
  constructor
  · exact ⟨redelivered_alike (by decide +kernel) (by decide +kernel), by decide +kernel⟩
  · exact ⟨redelivered_alike (by decide +kernel) (by decide +kernel), by decide +kernel⟩

/-- The sample authorization is redelivered later: another receipt time, and nothing else. -/
theorem later_redelivered :
    ∃ left right, Redelivered spelledGate sampleAuthorization laterAuthorization left right :=
  redelivered_alike (by decide +kernel) (by decide +kernel)

/-- The two deliveries have one identity text, so there is nothing to collide. -/
theorem later_apart :
    IdentitiesApart spelledGate.runtime sampleAuthorization laterAuthorization :=
  apart_of_pair (by decide +kernel)

/-- The sample authorization received later keeps its fingerprint. -/
theorem redelivery_fingerprint_later :
    identityFingerprint spelledGate.runtime sampleAuthorization =
      identityFingerprint spelledGate.runtime laterAuthorization := by
  obtain ⟨left, right, delivered⟩ := later_redelivered
  have same : SameSubmission sampleAuthorization laterAuthorization :=
    sample_submission "evt-1" .authorization 1 1000 _ _
  have spelling : SameSpelling sampleAuthorization laterAuthorization :=
    ⟨same _ (by decide), by rw [same _ (by decide)]⟩
  exact (redelivery_fingerprint_iff delivered later_apart).1.mpr spelling

/-- The sample authorization and its redelivery, received a day later under one fingerprint, are
alike. -/
theorem fingerprint_sound_later :
    ∃ left right, validateEvent spelledGate.runtime spelledGate.registry spelledGate.tokenKey
        sampleAuthorization = .ok left ∧
      validateEvent spelledGate.runtime spelledGate.registry spelledGate.tokenKey
        laterAuthorization = .ok right ∧ Alike left right := by
  obtain ⟨left, right, delivered⟩ := later_redelivered
  exact ⟨left, right, delivered.firstAccepted, delivered.secondAccepted,
    (fingerprint_sound delivered.firstAccepted delivered.secondAccepted later_apart
      (by decide +kernel)).1⟩

end LedgerFlow
