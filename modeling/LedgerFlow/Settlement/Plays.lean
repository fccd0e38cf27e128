import LedgerFlow.Settlement.Invocations

/-!
# Runs that are computed

`plays` computes a run: a delivery is handled without a fault and without interference,
and moves happen as the policy allows. What it leaves is reachable. Real files stand in
for the libraries: `tableLibrary` knows the digests and the contents of some of them.
-/

namespace LedgerFlow.Settlement

open PyText PyJson PyBytes PyDateTime Programs Programs.Program Spark

/-! ## Playing -/

section Playing

instance (delivery : Delivery) : (request : CloudCall) →
    (reply : Answer PyError CloudCall.Rows request) → Decidable (Faithful delivery request reply)
  | .getObject _, .ok body => inferInstanceAs (Decidable (body = delivery.manifest))
  | .getObject _, .error _ => .isTrue trivial
  | .headObject _, _ => .isTrue trivial
  | .copyObject _ _ _ _, _ => .isTrue trivial
  | .updateItem _ _ _ _, _ => .isTrue trivial
  | .getItem _, _ => .isTrue trivial
  | .startExecution _ _, _ => .isTrue trivial

/-- The call is performed, unless it reads another manifest than that of the delivery. -/
def answer (deployment : Deployment) (delivery : Delivery) (request : CloudCall) (world : World) :
    Answer PyError CloudCall.Rows request × World :=
  let performed := perform deployment delivery request world
  if Faithful delivery request performed.1 then performed
  else (.error (.client (str "ServiceUnavailable")), world)

/-- The answer of the sample cloud is one that the cloud may give. -/
theorem answer_effect (deployment : Deployment) (delivery : Delivery) (request : CloudCall)
    (world : World) : cloudEffect deployment delivery request world
      (answer deployment delivery request world).1
      (answer deployment delivery request world).2 := by
  unfold answer
  by_cases faithful : Faithful delivery request (perform deployment delivery request world).1
  · simp only [if_pos faithful]
    exact ⟨⟨(), .inl rfl⟩, faithful⟩
  · simp only [if_neg faithful]
    refine ⟨⟨(), .inr ⟨⟨_, rfl, trivial⟩, .inl rfl⟩⟩, ?_⟩
    cases request <;> trivial

/-- What happens next in a computed run. -/
inductive Happening where
  | invoke (delivery : Delivery)
  | move (move : Move)

variable (deployment : Deployment) (policy : Policy)
variable [∀ world move, Decidable (policy.Allows world move)]

/-- An invocation that runs to its end, or a move. -/
def happens (pool : SettlementPool) : Happening → Option SettlementPool
  | .invoke delivery =>
      let ended := (handler deployment delivery.event).run.eval (answer deployment delivery)
        pool.world
      some ⟨ended.2, ⟨delivery, .done ended.1⟩ :: pool.threads, delivery :: pool.started⟩
  | .move move =>
      if policy.Allows pool.world move then
        (pool.world.move deployment.library move).map fun world =>
          ⟨world, pool.threads, pool.started⟩
      else none

/-- One happening after the other. -/
def plays : List Happening → SettlementPool → Option SettlementPool
  | [], pool => some pool
  | first :: rest, pool => (happens deployment policy pool first).bind (plays rest)

variable {deployment policy}

/-- What happens in a play is a continuation of the pool: the calls answer as the cloud may, and
the moves are permitted. -/
theorem happens_continues {pool next : SettlementPool} {happening : Happening}
    (happened : happens deployment policy pool happening = some next) :
    Continues deployment policy pool next := by
  cases happening with
  | invoke delivery =>
    cases happened
    have started : Pool.Step (settlementSystem deployment policy) pool
        ⟨pool.world, ⟨delivery, (handler deployment delivery.event).run⟩ :: pool.threads,
          delivery :: pool.started⟩ := .start delivery trivial
    have ran := eval_runs (answer_effect deployment delivery)
      (handler deployment delivery.event).run pool.world
    exact .head started (@Pool.runs_alone _ _ _ _ _ (settlementSystem deployment policy) delivery []
      pool.threads (delivery :: pool.started) _ _ ran)
  | move move =>
    simp only [happens] at happened
    split at happened
    · next allowed =>
        obtain ⟨world, moved, rfl⟩ := Option.map_eq_some_iff.mp happened
        exact .single (.environment ⟨move, allowed, moved⟩)
    · cases happened

/-- A computed run is a run, happening by happening. -/
theorem plays_continues {happenings : List Happening} {pool last : SettlementPool}
    (played : plays deployment policy happenings pool = some last) :
    Continues deployment policy pool last := by
  induction happenings generalizing pool with
  | nil =>
    cases played
    exact .refl
  | cons first rest inductionHypothesis =>
    obtain ⟨next, happened, following⟩ := Option.bind_eq_some_iff.mp played
    exact (happens_continues happened).trans (inductionHypothesis following)

/-- A computed run whose last pool passes a test shows that a reachable pool does. The kernel
evaluates the run. -/
theorem plays_reaches {happenings : List Happening} {test : SettlementPool → Prop}
    [DecidablePred test]
    (passes : (plays deployment policy happenings ⟨emptyWorld, [], []⟩).any
      (fun pool => decide (test pool)) = true) :
    ∃ pool, Reaches deployment policy pool ∧ test pool := by
  obtain ⟨pool, played, passed⟩ := (Option.any_eq_true _ _).mp passes
  exact ⟨pool, plays_continues played, of_decide_eq_true passed⟩

/-- A computed run that goes on, with a test of the pool in between and one of the last. -/
theorem plays_go_on {earlier later : List Happening} {between afterwards : SettlementPool → Prop}
    [DecidablePred between] [DecidablePred afterwards]
    (passes : (plays deployment policy earlier ⟨emptyWorld, [], []⟩).any (fun first =>
      decide (between first) && (plays deployment policy later first).any
        fun last => decide (afterwards last)) = true) :
    ∃ first last, Reaches deployment policy first ∧ Continues deployment policy first last ∧
      between first ∧ afterwards last := by
  obtain ⟨first, played, passed⟩ := (Option.any_eq_true _ _).mp passes
  obtain ⟨seen, goesOn⟩ := (Bool.and_eq_true _ _).mp passed
  obtain ⟨last, playedOn, ended⟩ := (Option.any_eq_true _ _).mp goesOn
  exact ⟨first, last, plays_continues played, plays_continues playedOn, of_decide_eq_true seen,
    of_decide_eq_true ended⟩

end Playing

/-! ## Files -/

/-- The bytes of a text in ASCII. -/
def ascii (text : Str) : Bytes := text.map fun c => UInt8.ofNat c.val

/-- The 32 bytes of a number. -/
def digestBytes (digest : Nat) : Bytes :=
  (List.range 32).map fun position => UInt8.ofNat (digest / 256 ^ (31 - position))

/-- A settlement file with one record, and its SHA-256 digest. -/
structure SampleFile where
  date : Date
  amountMinor : Int
  digest : Nat

/-- The line of the file. -/
def SampleFile.data (file : SampleFile) : Bytes :=
  ascii (str "\x7b\"schema_version\":\"1.0\",\"business_date\":\"" ++ file.date.text ++
    str "\",\"processor_id\":\"processor-01\",\"currency\":\"INR\",\"amount_minor\":" ++
    decimal file.amountMinor ++ str "\x7d\n")

/-- The record of the file. -/
def SampleFile.record (file : SampleFile) : SettlementRecord :=
  ⟨some (str "1.0"), some file.date, some (str "processor-01"), some (str "INR"),
    some file.amountMinor⟩

/-- A manifest of a file, and the SHA-256 digest of its text. -/
structure SampleManifest where
  file : SampleFile
  revision : Int
  recordCount : Int
  totalMinor : Int
  digest : Nat

/-- The text of the manifest. -/
def SampleManifest.body (manifest : SampleManifest) : Bytes :=
  ascii (str "\x7b\"version\":1,\"revision\":" ++ decimal manifest.revision ++
    str ",\"file_name\":\"daily.jsonl\",\"byte_size\":" ++
    decimal manifest.file.data.length ++ str ",\"record_count\":" ++
    decimal manifest.recordCount ++ str ",\"sha256\":\"" ++ hex (digestBytes manifest.file.digest) ++
    str "\",\"raw_control_totals_minor\":\x7b\"INR\":" ++ decimal manifest.totalMinor ++
    str "\x7d\x7d")

/-- The fields of the manifest. -/
def SampleManifest.fields (manifest : SampleManifest) : Fields :=
  [(str "version", .int 1), (str "revision", .int manifest.revision),
    (str "file_name", .str (str "daily.jsonl")),
    (str "byte_size", .int manifest.file.data.length),
    (str "record_count", .int manifest.recordCount),
    (str "sha256", .str (hex (digestBytes manifest.file.digest))),
    (str "raw_control_totals_minor", .obj [(str "INR", .int manifest.totalMinor)])]

/-- The file of these bytes. -/
def fileOf (files : List SampleFile) (data : Bytes) : Option SampleFile :=
  files.find? fun file => file.data = data

/-- The manifest of these bytes. -/
def manifestOf (manifests : List SampleManifest) (body : Bytes) : Option SampleManifest :=
  manifests.find? fun manifest => manifest.body = body

/-- The digest of these bytes, zero where it is not known. -/
def digestOf (files : List SampleFile) (manifests : List SampleManifest) (data : Bytes) : Nat :=
  (((fileOf files data).map SampleFile.digest).or
    ((manifestOf manifests data).map SampleManifest.digest)).getD 0

/-- Libraries that know some files and manifests. -/
def tableLibrary (files : List SampleFile) (manifests : List SampleManifest) : Library where
  sha256 data := digestBytes (digestOf files manifests data)
  loads body := (manifestOf manifests body).map fun manifest => .obj manifest.fields
  isDecimal := digit
  floatEquals _ _ := false
  readManifest body := (manifestOf manifests body).map SampleManifest.fields
  readRecords data := (fileOf files data).toList.map SampleFile.record
  readActual data := ((fileOf files data).toList.map SampleFile.record).map fun record =>
    ⟨record.businessDate, record.processorId, record.currency, record.amountMinor⟩
  sha256_length data := by
    rw [digestBytes, List.length_map, List.length_range]
  dates_agree data date dated row member := by
    obtain ⟨record, inside, rfl⟩ := List.mem_map.mp member
    exact dated record inside

/-- The policy under which only these bytes are delivered, and moves are restricted. -/
def restricted (bodies : List Bytes) (permits : World → Move → Prop) : Policy :=
  ⟨fun body => body ∈ bodies, permits⟩

instance (bodies : List Bytes) (permits : World → Move → Prop)
    [∀ world, DecidablePred (permits world)] (world : World) (move : Move) :
    Decidable ((restricted bodies permits).Allows world move) :=
  match move with
  | .put location version =>
      inferInstanceAs (Decidable (permits world (.put location version) ∧ version.body ∈ bodies))
  | .arrive event => inferInstanceAs (Decidable (permits world (.arrive event) ∧ True))
  | .advance name outcome =>
      inferInstanceAs (Decidable (permits world (.advance name outcome) ∧ True))

/-! ## A settled day -/

/-- The second of January. -/
def settledDate : Date := newYear.date.next

/-- A file for that day. -/
def settledFile : SampleFile := ⟨settledDate, 600,
  0x26f702f5cbdb3767d67041431695c28eacb5f05abacc1355496f8dfb9c7663d1⟩

/-- An earlier file for that day, with another amount. -/
def earlierFile : SampleFile := ⟨settledDate, 500,
  0xc9864513e265385592c9739cf51f3070f76f69d8d9e57fb863931c97e8e89e37⟩

/-- A file for the next day. -/
def nextDayFile : SampleFile := ⟨settledDate.next, 900,
  0x1ea17fb962f8c49596633cb3877528fe02927f2e6bf1a23404fa5db9e45f371f⟩

/-- The manifest of the only revision. -/
def settledManifest : SampleManifest := ⟨settledFile, 1, 1, 600,
  0xf1b0f265a4a9332437bca8e7fe462bc7b3eb276b3b12d994b4ce8f6a3d407885⟩

/-- The manifest of the first of two revisions. -/
def earlierManifest : SampleManifest := ⟨earlierFile, 1, 1, 500,
  0xb6f7d7c4c0c3901d2354f853ec30affbb3a0ab0b9b6f0f0e0e19b727ecfd221a⟩

/-- The manifest of the second. -/
def correctedManifest : SampleManifest := ⟨settledFile, 2, 1, 600,
  0xe39cd06066266d95820ffcb42014dfb9382aff77c9583b8c34b3c4136082fd5d⟩

/-- The manifest of the next day. -/
def nextDayManifest : SampleManifest := ⟨nextDayFile, 1, 1, 900,
  0x48f072cce63bca5c596e2a29bd0d442ef8f73a2b53dce6ea225f22ff62b2ab0e⟩

/-- A manifest that miscounts its file. -/
def miscountedManifest : SampleManifest := ⟨settledFile, 1, 2, 600,
  0xf986ad44c578e161452418d827fd2f41d49802320dfa76fd6c3254296ec40b7b⟩

/-- The files and manifests that occur here. -/
def settlementLibrary : Library :=
  tableLibrary [settledFile, earlierFile, nextDayFile]
    [settledManifest, earlierManifest, correctedManifest, nextDayManifest, miscountedManifest]

/-- A deployment over them. -/
def settlementDeployment : Deployment := ⟨settlementLibrary, str "ledgerflow-verified"⟩

/-- Their bytes. -/
def sampleBodies : List Bytes :=
  [settledFile.data, earlierFile.data, nextDayFile.data, settledManifest.body,
    earlierManifest.body, correctedManifest.body, nextDayManifest.body, miscountedManifest.body]

/-- Their digests. -/
def settlementDigests : List Nat :=
  [settledFile.digest, earlierFile.digest, nextDayFile.digest, settledManifest.digest,
    earlierManifest.digest, correctedManifest.digest, nextDayManifest.digest,
    miscountedManifest.digest]

/-- The policy that delivers them. -/
abbrev samplePolicy : Policy := restricted sampleBodies fun _ _ => True

/-- The sample objects have different digests, so the hypothesis on collisions holds of them. -/
theorem settlement_collision_free : settlementLibrary.CollisionFree samplePolicy.offered := by
  have digests : sampleBodies.map settlementLibrary.sha256 = settlementDigests.map digestBytes := by
    decide +kernel
  have distinct : (sampleBodies.map settlementLibrary.sha256).Nodup := by
    rw [digests]
    decide +kernel
  exact fun first second left right same => List.inj_on_of_nodup_map distinct left right same

/-- The key of a day's object. -/
def landingKey (date : Date) (suffix : Str) : Location :=
  ⟨str "ledgerflow-landing", str "settlements/business_date=" ++ date.text ++ str "/daily" ++ suffix⟩

/-- A version with a checksum. -/
def sampleVersion (versionId : Str) (body : Bytes) : ObjectVersion := ⟨versionId, body, versionId, true⟩

/-- The file and the manifest are put. -/
def putBoth (manifest : SampleManifest) (versionId : Str) : List Happening :=
  [.move (.put (landingKey manifest.file.date (str ".jsonl"))
      (sampleVersion versionId manifest.file.data)),
    .move (.put (landingKey manifest.file.date manifestSuffix)
      (sampleVersion versionId manifest.body))]

/-- The event of a manifest, with the manifest. -/
def sampleDelivery (manifest : SampleManifest) : Delivery where
  event := .obj [(str "detail", .obj [
    (str "bucket", .obj [(str "name", .str (str "ledgerflow-landing"))]),
    (str "object", .obj [(str "key",
      .str (landingKey manifest.file.date manifestSuffix).key)])])]
  manifest := manifest.body

/-- The name of the execution of a manifest. -/
def sampleName (manifest : SampleManifest) : Str :=
  executionName manifest.file.date.text (.int manifest.revision)
    (hex (digestBytes manifest.file.digest))

/-- The jobs of so many states complete. -/
def completing (manifest : SampleManifest) (count : Nat) : List Happening :=
  List.replicate count (.move (.advance (sampleName manifest) .completes))

/-- The authorization of a payment. -/
def settledAuthorization : PaymentEvent :=
  sampleEvent ⟨str "evt-1", .refl true⟩ .authorization 1 1000
    (noon settledDate (by decide))

/-- Its capture on the same day. -/
def settledCapture : PaymentEvent :=
  sampleEvent ⟨str "evt-2", .refl true⟩ .capture 2 600
    (noon settledDate (by decide))

/-- The payment arrives. -/
def paymentArrives : List Happening :=
  [.move (.arrive settledAuthorization), .move (.arrive settledCapture)]

/-- A day is settled: its files are delivered and its execution publishes. -/
def settledDay : List Happening :=
  paymentArrives ++ putBoth settledManifest (str "v1") ++
    [.invoke (sampleDelivery settledManifest)] ++ completing settledManifest 8

end LedgerFlow.Settlement
