import LedgerFlow.Settlement.Registry

/-!
# The manifest loader

The definitions follow `lambdas/manifest_loader/handler.py`. The handler reads a manifest,
checks the delivered object against it, copies the checked version to a key that names
its date, revision and digest, registers the revision and starts the workflow. It is a
program over the calls of its clients; each call is atomic and may report any error with
its effect done or not, and a program abandoned after any call is a crash there.
-/

namespace LedgerFlow.Settlement

open PyText PyJson PyBytes PyDateTime Programs

/-! ## Checks -/

/-- An integer as Python has it: truth values are integers. -/
inductive PyInt where
  | int (value : Int)
  | bool (value : Bool)
  deriving DecidableEq

/-- The number. -/
def PyInt.value : PyInt → Int
  | .int value => value
  | .bool value => if value then 1 else 0

/-- `str(number)` -/
def PyInt.text : PyInt → Str
  | .int value => decimal value
  | .bool true => str "True"
  | .bool false => str "False"

/-- `json.dumps(number)` -/
def PyInt.json : PyInt → Str
  | .int value => decimal value
  | .bool true => str "true"
  | .bool false => str "false"

/-- `isinstance(value, int)` -/
def asInt : Option Json → Option PyInt
  | some (.int value) => some (.int value)
  | some (.bool value) => some (.bool value)
  | _ => none

/-- `mapping.get(name, {})` of something that must be a dictionary. -/
def getMapping (value : Json) (name : Str) : Py Json :=
  match value with
  | .obj fields => .ok ((PyJson.get fields name).getD (.obj []))
  | _ => .error (.attribute (str "object has no attribute 'get'"))

/-- `mapping.get(name)` of something that must be a dictionary. -/
def getEntry (value : Json) (name : Str) : Py (Option Json) :=
  match value with
  | .obj fields => .ok (PyJson.get fields name)
  | _ => .error (.attribute (str "object has no attribute 'get'"))

/-- The suffix of a manifest's key. -/
def manifestSuffix : Str := str ".manifest.json"

/-- `_record` -/
def record (event : Json) : Py Location := do
  let detail ← getMapping event (str "detail")
  let bucket ← getEntry (← getMapping detail (str "bucket")) (str "name")
  let key ← getEntry (← getMapping detail (str "object")) (str "key")
  match bucket, key with
  | some (.str bucket), some (.str key) =>
      if manifestSuffix.isSuffixOf key then .ok ⟨bucket, key⟩
      else .error (.value (str "event does not identify a settlement manifest"))
  | _, _ => .error (.value (str "event does not identify a settlement manifest"))

/-- `manifest_key.removesuffix(".manifest.json") + ".jsonl"` -/
def dataKeyOf (manifestKey : Str) : Str :=
  manifestKey.take (manifestKey.length - manifestSuffix.length) ++ str ".jsonl"

/-- The keys of a manifest. -/
def requiredKeys : List Str :=
  [str "version", str "revision", str "file_name", str "byte_size", str "record_count",
    str "sha256", str "raw_control_totals_minor"]

/-- `MAX_SINGLE_COPY_BYTES` -/
def maxSingleCopyBytes : Int := 5000000000

/-- A manifest whose control values were checked. -/
structure Manifest where
  revision : PyInt
  fileName : Option Json
  byteSize : PyInt
  recordCount : PyInt
  sha256 : Option Json

/-- `manifest.get("version") != 1` does not hold. -/
def versionOne (library : Library) : Option Json → Bool
  | some version => equalsInt library.floatEquals 1 version
  | none => false

/-- The checks of the handler before it asks for the object. -/
def checkManifest (library : Library) (body : Bytes) : Py Manifest := do
  let fields ← match library.loads body with
    | none => .error (.value (str "Expecting value"))
    | some (.obj fields) => .ok fields
    | some _ => .error (.value (str "manifest must be a JSON object"))
  let keys := fields.map Prod.fst
  require (((∀ key ∈ requiredKeys, key ∈ keys) ∧ ∀ key ∈ keys, key ∈ requiredKeys) ∧
      versionOne library (PyJson.get fields (str "version")) = true)
    (.value (str "unsupported settlement manifest contract"))
  match asInt (PyJson.get fields (str "record_count")), asInt (PyJson.get fields (str "revision")),
      asInt (PyJson.get fields (str "byte_size")),
      PyJson.get fields (str "raw_control_totals_minor") with
  | some recordCount, some revision, some byteSize, some (.obj _) =>
      require (1 ≤ recordCount.value ∧ 1 ≤ revision.value ∧ 0 < byteSize.value ∧
          byteSize.value ≤ maxSingleCopyBytes)
        (.value (str "invalid settlement manifest control values"))
      .ok ⟨revision, PyJson.get fields (str "file_name"), byteSize, recordCount,
        PyJson.get fields (str "sha256")⟩
  | _, _, _, _ => .error (.value (str "invalid settlement manifest control values"))

/-- What `head_object` returns of a version. -/
structure Head where
  versionId : Option Str
  contentLength : Int
  eTag : Str
  checksumSha256 : Option Str

/-- `data_key.rsplit("/", 1)[-1]` -/
def lastPart (key : Str) : Str := (key.reverse.takeWhile fun c => decide (c ≠ point '/')).reverse

/-- Whether an entry is this text. -/
def isText (text : Str) : Option Json → Bool
  | some (.str found) => decide (found = text)
  | _ => false

/-- The version of the delivered object. -/
def sourceVersion : Option Str → Py Str
  | none => .error (.value (str "settlement source must be an S3-versioned object"))
  | some versionId => .ok versionId

/-- The checksum of the delivered object, in hexadecimal. -/
def checksumHex : Option Str → Py Str
  | none => .error (.value (str "settlement object must carry an S3 SHA-256 checksum"))
  | some managed =>
      match b64decode managed with
      | none => .error (.value (str "Incorrect padding"))
      | some checksum => .ok (hex checksum)

/-- The checks of the delivered object: its version and its checksum. -/
def checkHead (manifest : Manifest) (dataKey : Str) (head : Head) : Py (Str × Str) := do
  let versionId ← sourceVersion head.versionId
  require (isText (lastPart dataKey) manifest.fileName = true)
    (.value (str "manifest file name does not match delivered object"))
  require (manifest.byteSize.value = head.contentLength)
    (.value (str "manifest byte size does not match delivered object"))
  let checksum ← checksumHex head.checksumSha256
  require (isText checksum manifest.sha256 = true)
    (.value (str "manifest checksum does not match S3-managed checksum"))
  .ok (versionId, checksum)

/-- Whether a text has the shape `\d{4}-\d{2}-\d{2}`. -/
def dateShaped (library : Library) (text : Str) : Bool :=
  match text with
  | [a, b, c, d, first, e, f, second, g, h] =>
      [a, b, c, d, e, f, g, h].all library.isDecimal && decide (first = point '-') &&
        decide (second = point '-')
  | _ => false

/-- `business_date=(\d{4}-\d{2}-\d{2})(?:/|$)` at the start of a text. -/
def dateHere (library : Library) (text : Str) : Option Str :=
  let label := str "business_date="
  if label.isPrefixOf text then
    let rest := text.drop label.length
    if dateShaped library (rest.take 10) ∧
        (rest.drop 10 = [] ∨ rest.drop 10 = str "\n" ∨ (rest.drop 10).head? = some (point '/')) then
      some (rest.take 10)
    else none
  else none

/-- The same after the first slash that allows it. -/
def dateAfterSlash (library : Library) : Str → Option Str
  | [] => none
  | c :: rest =>
      if c = point '/' then dateHere library rest <|> dateAfterSlash library rest
      else dateAfterSlash library rest

/-- `BUSINESS_DATE.search(data_key)` -/
def searchDate (library : Library) (dataKey : Str) : Option Str :=
  dateHere library dataKey <|> dateAfterSlash library dataKey

/-- The business date of a key. -/
def businessDateOf (library : Library) (dataKey : Str) : Py Str :=
  match searchDate library dataKey with
  | none => .error (.value (str "settlement key must contain business_date=YYYY-MM-DD"))
  | some businessDate => .ok businessDate

/-- The key of the verified copy. -/
def verifiedDataKey (businessDate : Str) (revision : PyInt) (sha256 : Str) : Str :=
  str "settlements/business_date=" ++ businessDate ++ str "/revision=" ++ revision.text ++
    str "/sha256=" ++ sha256 ++ str "/data.jsonl"

/-- `execution_name` -/
def executionName (businessDate : Str) (revision : PyInt) (sha256 : Str) : Str :=
  businessDate ++ str "-r" ++ revision.text ++ str "-" ++ sha256.take 16

/-! ## Calls -/

/-- One call of a client. -/
inductive CloudCall where
  /-- `s3.get_object` -/
  | getObject (location : Location)
  /-- `s3.head_object` with checksums -/
  | headObject (location : Location)
  /-- `s3.copy_object` of one version, on the condition that it has this tag, into the
  verified bucket -/
  | copyObject (key : Str) (source : Location) (versionId eTag : Str)
  /-- `dynamodb.update_item` on the condition that the date has no revision or a lower one -/
  | updateItem (businessDate : Str) (revision : Int) (sha256 key : Str)
  /-- `dynamodb.get_item` with a consistent read -/
  | getItem (businessDate : Str)
  /-- `sfn.start_execution` -/
  | startExecution (name : Str) (input : WorkflowInput)

/-- What a call returns. -/
abbrev CloudCall.Rows : CloudCall → Type
  | .getObject _ => Bytes
  | .headObject _ => Head
  | .copyObject _ _ _ _ => Option Str
  | .updateItem _ _ _ _ => Unit
  | .getItem _ => Option Publication
  | .startExecution _ _ => Str

/-- `ExecutionAlreadyExists` -/
def executionAlreadyExists : PyError := .client (str "ExecutionAlreadyExists")

/-- The checksum that S3 reports of a body. -/
def managedChecksum (library : Library) (body : Bytes) : Str := b64encode (library.sha256 body)

/-- What `head_object` returns of a version. -/
def headOf (library : Library) (version : ObjectVersion) : Head where
  versionId := some version.versionId
  contentLength := version.body.length
  eTag := version.eTag
  checksumSha256 :=
    if version.checksummed then some (managedChecksum library version.body) else none

/-- The item that a registration writes. -/
def processingItem (revision : Int) (sha256 key : Str) : Publication :=
  ⟨revision, sha256, key, .processing⟩

/-- A call that succeeds or is refused. An execution is started under a new name; under
the name of a running one the same input is answered by that execution. -/
def perform (deployment : Deployment) (delivery : Delivery) :
    (request : CloudCall) → World → Except PyError request.Rows × World
  | .getObject location, world =>
      match world.store.landing location with
      | [] => (.error (.client (str "NoSuchKey")), world)
      | version :: _ => (.ok version.body, world)
  | .headObject location, world =>
      match world.store.landing location with
      | [] => (.error (.client (str "404")), world)
      | version :: _ => (.ok (headOf deployment.library version), world)
  | .copyObject key source versionId eTag, world =>
      match (world.store.landing source).find? fun version => version.versionId = versionId with
      | none => (.error (.client (str "NoSuchVersion")), world)
      | some version =>
          if version.eTag = eTag then
            (.ok (some (managedChecksum deployment.library version.body)),
              { world with store := world.store.verify key version.body })
          else (.error (.client (str "PreconditionFailed")), world)
  | .updateItem businessDate revision sha256 key, world =>
      if ∀ item, world.store.publications businessDate = some item → item.revision < revision then
        (.ok (), ⟨world.store.publish businessDate (processingItem revision sha256 key),
          .registered ⟨delivery, businessDate, revision, sha256, key⟩ :: world.journal⟩)
      else (.error conditionalCheckFailed, world)
  | .getItem businessDate, world => (.ok (world.store.publications businessDate), world)
  | .startExecution name input, world =>
      match world.store.executions.find? fun execution => execution.name = name with
      | none =>
          (.ok name, ⟨{ world.store with
            executions := ⟨name, input, .running .validateSettlementManifest, 0⟩ ::
              world.store.executions }, .started delivery name input :: world.journal⟩)
      | some execution =>
          if execution.input = input ∧ execution.state.isRunning = true then
            (.ok name, world)
          else (.error executionAlreadyExists, world)

/-- A successful read of a manifest is that of the delivery. -/
def Faithful (delivery : Delivery) :
    (request : CloudCall) → Answer PyError CloudCall.Rows request → Prop
  | .getObject _, .ok body => body = delivery.manifest
  | _, _ => True

/-- Every call may also report an error, whether or not it was performed. -/
def cloudEffect (deployment : Deployment) (delivery : Delivery) :
    Program.Effect CloudCall (Answer PyError CloudCall.Rows) World :=
  fun request before reply after =>
    lossy (fun _ : Unit => perform deployment delivery) (fun _ _ _ => True) request before reply
      after ∧ Faithful delivery request reply

/-! ## The handler -/

/-- The part of a program between two calls. -/
abbrev Loader (α : Type) := Faultable CloudCall CloudCall.Rows PyError α

/-- What `_register_revision` returns. -/
inductive RegistrationStatus where
  | active
  | duplicate
  | stale
  deriving DecidableEq

/-- What the handler returns. -/
inductive Response where
  | verified (executionArn : Str)
  | recoveredDuplicate (executionArn : Str)
  | duplicateManifest (executionName : Str)
  | staleManifest (revision : PyInt)
  deriving DecidableEq

/-- Read a manifest. -/
def getObject (location : Location) : Loader Bytes := invoke (CloudCall.getObject location)

/-- Ask for the newest version of an object. -/
def headObject (location : Location) : Loader Head := invoke (CloudCall.headObject location)

/-- Copy a version. -/
def copyObject (key : Str) (source : Location) (versionId eTag : Str) : Loader (Option Str) :=
  invoke (CloudCall.copyObject key source versionId eTag)

/-- Register a revision if it is newer. -/
def updateItem (businessDate : Str) (revision : Int) (sha256 key : Str) : Loader Unit :=
  invoke (CloudCall.updateItem businessDate revision sha256 key)

/-- Read the publication record. -/
def getPublication (businessDate : Str) : Loader (Option Publication) :=
  invoke (CloudCall.getItem businessDate)

/-- Start the workflow. -/
def startExecution (name : Str) (input : WorkflowInput) : Loader Str :=
  invoke (CloudCall.startExecution name input)

/-- What the stored item makes of a revision that is not newer. -/
def compareRevision (revision : Int) (sha256 : Str) : Option Publication → Py RegistrationStatus
  | none => .error (.key (str "Item"))
  | some existing =>
      if existing.revision = revision ∧ existing.manifestSha256 = sha256 then .ok .duplicate
      else if revision < existing.revision then .ok .stale
      else .error (.value (str "settlement revision reused with different content"))

/-- `_register_revision`. DynamoDB refuses `True` as a number. -/
def registerRevision (businessDate : Str) (revision : PyInt) (sha256 key : Str) :
    Loader RegistrationStatus :=
  match revision with
  | .bool _ => throw (.client (str "ValidationException"))
  | .int revision => do
      let active ← tryCatch
        (do
          updateItem businessDate revision sha256 key
          pure true)
        (fun error => do
          ofExcept (require (error = conditionalCheckFailed) error)
          pure false)
      if active then pure .active
      else do
        let existing ← getPublication businessDate
        ofExcept (compareRevision revision sha256 existing)

/-- The `except ClientError` branch of starting the workflow. -/
def recheckExecution (name : Str) (error : PyError) : Loader Response := do
  ofExcept (require (error = executionAlreadyExists) error)
  pure (.duplicateManifest name)

/-- The response to a started execution. -/
def startedResponse (registration : RegistrationStatus) (arn : Str) : Response :=
  if registration = .active then .verified arn else .recoveredDuplicate arn

/-- Compare the checksum of the copy. -/
def checkCopy (checksum : Str) (copied : Option Str) : Py Unit :=
  match copied with
  | none => .error (.value (str "verified settlement copy checksum mismatch"))
  | some managed =>
      match b64decode managed with
      | none => .error (.value (str "Incorrect padding"))
      | some digest =>
          require (hex digest = checksum)
            (.value (str "verified settlement copy checksum mismatch"))

/-- The input of the workflow that a delivery starts. -/
def workflowInput (deployment : Deployment) (location : Location) (manifest : Manifest)
    (businessDate versionId sha256 : Str) : WorkflowInput where
  manifest := location
  verifiedBucket := deployment.verifiedBucket
  verifiedDataKey := verifiedDataKey businessDate manifest.revision sha256
  sourceVersionId := versionId
  sha256 := sha256
  revision := manifest.revision.value
  recordCount := manifest.recordCount.json
  businessDate := businessDate

/-- Register a verified copy and start its workflow. -/
def registerAndStart (deployment : Deployment) (location : Location) (manifest : Manifest)
    (businessDate versionId sha256 : Str) : Loader Response := do
  let registration ← registerRevision businessDate manifest.revision sha256
    (verifiedDataKey businessDate manifest.revision sha256)
  if registration = .stale then pure (.staleManifest manifest.revision)
  else do
    let name := executionName businessDate manifest.revision sha256
    tryCatch
      (do
        let arn ← startExecution name
          (workflowInput deployment location manifest businessDate versionId sha256)
        pure (startedResponse registration arn))
      (recheckExecution name)

/-- Copy the checked version, and go on with the copy. The digest that the manifest states
is the checksum of the version. -/
def copyAndStart (deployment : Deployment) (location : Location) (manifest : Manifest)
    (head : Head) (versionId checksum : Str) : Loader Response := do
  let dataKey := dataKeyOf location.key
  let businessDate ← ofExcept (businessDateOf deployment.library dataKey)
  let copied ← copyObject (verifiedDataKey businessDate manifest.revision checksum)
    ⟨location.bucket, dataKey⟩ versionId head.eTag
  ofExcept (checkCopy checksum copied)
  registerAndStart deployment location manifest businessDate versionId checksum

/-- `handler` -/
def handler (deployment : Deployment) (event : Json) : Loader Response := do
  let location ← ofExcept (record event)
  let body ← getObject location
  let manifest ← ofExcept (checkManifest deployment.library body)
  let head ← headObject ⟨location.bucket, dataKeyOf location.key⟩
  let (versionId, checksum) ← ofExcept (checkHead manifest (dataKeyOf location.key) head)
  copyAndStart deployment location manifest head versionId checksum

end LedgerFlow.Settlement
