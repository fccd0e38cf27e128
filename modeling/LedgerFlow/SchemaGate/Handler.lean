import LedgerFlow.Identity
import LedgerFlow.Support.Interleaving

/-!
# The schema and identity gate

The definitions follow `lambdas/schema_identity_gate/handler.py`. A Kinesis record
carries its identifier and what `json.loads` reads from its data. The handler is a
program over the calls of its clients: Secrets Manager, S3, the identity table and
the clock. The registry file is read by a call as well.

`Cloud` is what the calls act on. The identity table holds one item per event, and
`objects` is every object ever written, the newest first; nothing deletes one. Each
call is atomic, and it may report any error with its effect done or not. A program
abandoned after any call is a crash there.
-/

namespace LedgerFlow.SchemaGate

open PyText PyJson PyDateTime Programs

/-! ## The cloud -/

/-- The buckets that the handler's environment names. -/
inductive Bucket where
  | bronze
  | quarantine
  | accepted
  deriving DecidableEq

/-- `publication_status` -/
inductive PublicationStatus where
  | pending
  | published
  deriving DecidableEq

/-- An item of the identity table, without its key. -/
structure IdentityItem where
  identitySha256 : AsciiText
  firstSeenAt : Str
  publicationStatus : PublicationStatus
  acceptedKey : Str
  deriving DecidableEq

/-- An object as the handler writes it. Its body is the canonical JSON of the value and a line
feed, which is ASCII, so that encoding it never raises. -/
structure StoredObject where
  bucket : Bucket
  key : Str
  value : Fields

/-- The identity table and every object ever written, the newest first. -/
structure Cloud where
  identities : Identifier → Option IdentityItem
  objects : List StoredObject

/-- Nothing is registered and nothing is stored. -/
def Cloud.empty : Cloud := ⟨fun _ => none, []⟩

/-- Store an object. -/
def Cloud.put (cloud : Cloud) (object : StoredObject) : Cloud :=
  { cloud with objects := object :: cloud.objects }

/-- Replace the item of an event. -/
def Cloud.register (cloud : Cloud) (eventId : Identifier) (item : IdentityItem) : Cloud :=
  { cloud with identities := Function.update cloud.identities eventId (some item) }

/-- Registering an item writes it under its event. -/
@[simp] theorem register_same (cloud : Cloud) (eventId : Identifier) (item : IdentityItem) :
    (cloud.register eventId item).identities eventId = some item := by
  simp [Cloud.register]

/-- Registering an item leaves the items of other events as they were. -/
theorem register_other (cloud : Cloud) {eventId other : Identifier} (item : IdentityItem)
    (differs : other ≠ eventId) :
    (cloud.register eventId item).identities other = cloud.identities other := by
  simp [Cloud.register, differs]

/-! ## Calls -/

/-- One call of a client. -/
inductive CloudCall where
  /-- `load_source_registry` of the packaged file -/
  | loadSourceRegistry
  /-- `secrets.get_secret_value` -/
  | getSecretValue
  /-- `datetime.now(UTC)` -/
  | now
  /-- `s3.put_object` -/
  | putObject (object : StoredObject)
  /-- `dynamodb.put_item` on the condition `attribute_not_exists(event_id)` -/
  | putItem (eventId : Identifier) (item : IdentityItem)
  /-- `dynamodb.get_item` with a consistent read -/
  | getItem (eventId : Identifier)
  /-- `dynamodb.update_item` of the status on the condition that the fingerprint is the stored one -/
  | updateItem (eventId : Identifier) (status : PublicationStatus) (fingerprint : AsciiText)

/-- What a call returns. -/
abbrev CloudCall.Rows : CloudCall → Type
  | .loadSourceRegistry => Registry
  | .getSecretValue => Option Str
  | .now => Timestamp
  | .putObject _ => Unit
  | .putItem _ _ => Unit
  | .getItem _ => Option IdentityItem
  | .updateItem _ _ _ => Unit

/-- What is fixed for every invocation: the library functions, the registry file and
the text of the token secret. -/
structure Deployment where
  runtime : Runtime
  registry : Registry
  secret : Str
  encodable : Encodable secret

/-- The key that every invocation reads. -/
def Deployment.tokenKey (deployment : Deployment) : List UInt8 := utf8 deployment.secret

/-- A call that succeeds or fails its condition. The clock shows the chosen time. -/
def perform (deployment : Deployment) (clock : Timestamp) :
    (request : CloudCall) → Cloud → Except PyError request.Rows × Cloud
  | .loadSourceRegistry, cloud => (.ok deployment.registry, cloud)
  | .getSecretValue, cloud => (.ok (some deployment.secret), cloud)
  | .now, cloud => (.ok clock, cloud)
  | .putObject object, cloud => (.ok (), cloud.put object)
  | .putItem eventId item, cloud =>
      match cloud.identities eventId with
      | none => (.ok (), cloud.register eventId item)
      | some _ => (.error conditionalCheckFailed, cloud)
  | .getItem eventId, cloud => (.ok (cloud.identities eventId), cloud)
  | .updateItem eventId status fingerprint, cloud =>
      match cloud.identities eventId with
      | some item =>
          if item.identitySha256 = fingerprint then
            (.ok (), cloud.register eventId { item with publicationStatus := status })
          else (.error conditionalCheckFailed, cloud)
      | none => (.error conditionalCheckFailed, cloud)

/-- Every call may also report an error, whether or not it was performed. -/
def cloudEffect (deployment : Deployment) :
    Program.Effect CloudCall (Answer PyError CloudCall.Rows) Cloud :=
  lossy (perform deployment) fun _ _ _ => True

/-! ## The handler -/

/-- The part of a program between two calls. -/
abbrev Lambda (α : Type) := Faultable CloudCall CloudCall.Rows PyError α

/-- Read the packaged registry file. -/
def loadSourceRegistry : Lambda Registry := invoke CloudCall.loadSourceRegistry

/-- Read the token secret. -/
def getSecretValue : Lambda (Option Str) := invoke CloudCall.getSecretValue

/-- Read the clock. -/
def now : Lambda Timestamp := invoke CloudCall.now

/-- Store an object. -/
def putObject (object : StoredObject) : Lambda Unit := invoke (CloudCall.putObject object)

/-- Reserve an identity. -/
def putItem (eventId : Identifier) (item : IdentityItem) : Lambda Unit :=
  invoke (CloudCall.putItem eventId item)

/-- Read an identity. -/
def getIdentity (eventId : Identifier) : Lambda (Option IdentityItem) :=
  invoke (CloudCall.getItem eventId)

/-- Set the status of an identity. -/
def updateItem (eventId : Identifier) (status : PublicationStatus) (fingerprint : AsciiText) :
    Lambda Unit :=
  invoke (CloudCall.updateItem eventId status fingerprint)

/-- A Kinesis record: its identifier, and its data as `json.loads` reads it after
`base64.b64decode`, absent where either raises. -/
structure Record where
  eventId : Option Str
  decoded : Option Json

/-- `record.get("eventID", "unknown")` -/
def Record.id (record : Record) : Str := record.eventId.getD (str "unknown")

/-- The value of `raw` where a contract error is caught: the decoded object, and the
empty one where nothing or something else was decoded. -/
def Record.raw (record : Record) : Fields :=
  match record.decoded with
  | some (.obj raw) => raw
  | _ => []

/-- `_token_key` -/
def tokenKey : Lambda (List UInt8) := do
  match (← getSecretValue) with
  | none => throw (.runtime (str "token secret must be a string"))
  | some value =>
      ofExcept (require (Encodable value) .unicodeEncode)
      pure (utf8 value)

/-- `_put_json` -/
def putJson (bucket : Bucket) (key : Str) (value : Fields) : Lambda Unit :=
  putObject ⟨bucket, key, value⟩

/-- `accepted/event_date={payment.event_time[:10]}/{payment.event_id}.json` -/
def acceptedKey (payment : PaymentEvent) : Str :=
  str "accepted/event_date=" ++ payment.eventTime.isoformat.take 10 ++ str "/" ++
    payment.eventId.1 ++ str ".json"

/-- The quarantine object of an event whose identifier is taken. -/
def conflictObject (payment : PaymentEvent) : StoredObject :=
  ⟨.quarantine, str "identity-conflict/" ++ payment.eventId.1 ++ str ".json",
    [(str "reason", .str (str "identity_payload_conflict")),
      (str "event", .obj payment.safeDict)]⟩

/-- The item that reserves an identity. -/
def reservation (payment : PaymentEvent) (fingerprint : AsciiText) (arrival : Timestamp) :
    IdentityItem :=
  ⟨fingerprint, arrival.isoformat, .pending, acceptedKey payment⟩

/-- The `except ClientError` branch of `_publish_accepted`: whether to go on and
publish. -/
def recheckIdentity (payment : PaymentEvent) (fingerprint : AsciiText) (error : PyError) :
    Lambda Bool := do
  ofExcept (require (error = conditionalCheckFailed) error)
  match (← getIdentity payment.eventId) with
  | none => throw (.key (str "Item"))
  | some existing =>
      if existing.identitySha256 ≠ fingerprint then
        putObject (conflictObject payment)
        pure false
      else pure (decide (existing.publicationStatus ≠ .published))

/-- `_publish_accepted` -/
def publishAccepted (payment : PaymentEvent) (fingerprint : AsciiText) (arrival : Timestamp) :
    Lambda Unit := do
  let pending ← tryCatch
    (do
      putItem payment.eventId (reservation payment fingerprint arrival)
      pure true)
    (recheckIdentity payment fingerprint)
  if pending then
    putJson .accepted (acceptedKey payment) payment.safeDict
    updateItem payment.eventId .published fingerprint
  else pure ()

/-- The key of the bronze object of a record. -/
def arrivalKey (arrival : Timestamp) (record : Record) : Str :=
  str "arrivals/date=" ++ arrival.date.text ++ str "/" ++ record.id ++ str ".json"

/-- The body of the `try` statement. -/
def handleRecord (runtime : Runtime) (registry : Registry) (key : List UInt8)
    (record : Record) : Lambda Unit :=
  match record.decoded with
  | none => throw (.value (str "undecodable record"))
  | some (.obj raw) => do
      let arrival ← now
      let businessPayload ← ofExcept (extractBusinessPayload raw)
      ofExcept (rejectProhibitedFields runtime businessPayload)
      putJson .bronze (arrivalKey arrival record) raw
      let payment ← ofExcept (validateEvent runtime registry key businessPayload)
      publishAccepted payment (identityFingerprint runtime businessPayload) arrival
  | some _ => throw (.contract (str "non_object_event"))

/-- The quarantine object of a record that breaks the contract, with this event in it. -/
def quarantineObject (record : Record) (reason : Str) (event : Fields) : StoredObject :=
  ⟨.quarantine, str "contract/" ++ record.id ++ str ".json",
    [(str "reason", .str reason), (str "event", .obj event)]⟩

/-- The object that is written when the redaction returns. -/
def contractObject (runtime : Runtime) (record : Record) (reason : Str) : StoredObject :=
  quarantineObject record reason (redactFields runtime record.raw)

/-- The `except` clauses: a contract error is quarantined, any other error lists the
record as failed. What the first clause raises is not caught by the second, and ends the
invocation. -/
def handleError (runtime : Runtime) (record : Record) (failures : List Str) :
    PyError → Lambda (List Str)
  | .contract reason => do
      let event ← ofExcept (redactPayload runtime record.raw)
      putObject (quarantineObject record reason event)
      pure failures
  | _ => pure (failures ++ [record.id])

/-- The loop over the records, with the failures so far. -/
def handleRecords (runtime : Runtime) (registry : Registry) (key : List UInt8) :
    List Record → List Str → Lambda (List Str)
  | [], failures => pure failures
  | record :: rest, failures => do
      let failures ← tryCatch
        (do
          handleRecord runtime registry key record
          pure failures)
        (handleError runtime record failures)
      handleRecords runtime registry key rest failures

/-- `handler`: the item identifiers of `batchItemFailures`. -/
def handler (runtime : Runtime) (records : List Record) : Lambda (List Str) := do
  let registry ← loadSourceRegistry
  let key ← tokenKey
  handleRecords runtime registry key records []

/-! ## Samples -/

/-- Some time, for the runs in which the clock does not matter. -/
def sampleClock : Timestamp where
  date := newYear.date
  hour := 0
  minute := 0
  second := 0
  microsecond := 0
  offset := 0
  yearRange := newYear.yearRange
  clock := newYear.clock
  offsetRange := newYear.offsetRange

/-- The digests of the sample authorizations: one event with three amounts, one whose
identifier starts with an underscore, and one of 2^63 minor units. -/
def authorizationDigests : List (Str × AsciiText) :=
  [(canonicalJson (.obj (sampleFields "evt-1" .authorization 1 1000)),
      ⟨str "5dc579aed1e6eea62f97e7d08867cea2eff734a5202fdcc045ed836f660006b7", sample_digest_ascii⟩),
    (canonicalJson (.obj (sampleFields "evt-1" .authorization 1 2000)),
      ⟨str "e631f61f8ad773c5683db55bc039537aa924a9b339c4b5e643d70ecca1cead6f", by decide⟩),
    (canonicalJson (.obj (sampleFields "evt-1" .authorization 1 3000)),
      ⟨str "908f4e1c1090f2d320c5b5934fb0e4093435717c2737054cf41442333b7e66db", by decide⟩),
    (canonicalJson (.obj (sampleFields "_evt-1" .authorization 1 1000)),
      ⟨str "455208dd738f5e56edb8ca79449c76ea08c1a50ece707082cc13f4e67206fa6b", by decide⟩),
    (canonicalJson (.obj (sampleFields "evt-1" .authorization 1 9223372036854775808)),
      ⟨str "6b08018280b11952f105792d8e803f3ea0d2fcc65fe521de64f14be0c4841fb6", by decide⟩)]

/-- The sample registry with a synthetic secret. -/
def sampleDeployment : Deployment where
  runtime := tableRuntime authorizationDigests
  registry := sampleRegistry
  secret := str "0123456789abcdef0123456789abcdef"
  encodable := by decide

end LedgerFlow.SchemaGate
