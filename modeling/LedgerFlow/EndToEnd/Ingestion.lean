import LedgerFlow.SchemaGate.Publication
import LedgerFlow.Spark.Classification

/-!
# From a published event to the accepted table

`IngestAcceptedEvents` reads the accepted objects of one business date. The listing
finds the newest object of every key under the folder, except those whose base name
starts with an underscore or a dot; the columns are selected from the objects' entries,
with version and amount cast to 64 bits; and rows with new event identifiers are merged
into the table.

`Operates` interleaves the calls of the identity gate with runs of the ingestion. Every
row it leaves was selected from a listed accepted object, and all accepted objects of an
event agree on its columns, so what a run does for a published event depends on the
event alone.
-/

namespace LedgerFlow.EndToEnd

open PyText PyJson Grouping Dataframe Programs SchemaGate Spark

/-! ## Listing -/

/-- The part of a key after its last slash. -/
def baseName (key : Str) : Str := (key.reverse.takeWhile fun c => c ≠ point '/').reverse

/-- A name that starts with an underscore or a dot. -/
def hiddenName (name : Str) : Bool :=
  decide (name.head? = some (point '_') ∨ name.head? = some (point '.'))

/-- The newest object of every key, where newer objects come first. -/
def newest (objects : List StoredObject) : List StoredObject :=
  objects.foldr (fun object older => object :: older.filter fun other => other.key ≠ object.key) []

/-- The object is accepted, lies under the folder and is not hidden. -/
def listed (folder : Str) (object : StoredObject) : Bool :=
  decide (object.bucket = .accepted) && folder.isPrefixOf object.key &&
    !hiddenName (baseName object.key)

/-- The objects that a read of the folder finds. -/
def folderObjects (folder : Str) (cloud : Cloud) : List StoredObject :=
  newest (cloud.objects.filter (listed folder))

/-- The newest versions are among the objects that were put, so reading the newest reads nothing
that was not written. -/
theorem newest_subset (objects : List StoredObject) : newest objects ⊆ objects := by
  induction objects with
  | nil => exact List.Subset.refl []
  | cons object older inductionHypothesis =>
    intro other member
    rcases List.mem_cons.mp member with rfl | later
    · exact List.mem_cons_self
    · exact List.mem_cons_of_mem object (inductionHypothesis (List.mem_of_mem_filter later))

/-- The key of every object has a newest object, which is the one that a listing shows under
it. -/
theorem newest_key {objects : List StoredObject} {object : StoredObject}
    (member : object ∈ objects) : ∃ newer ∈ newest objects, newer.key = object.key := by
  induction objects with
  | nil => cases member
  | cons first older inductionHypothesis =>
    by_cases same : first.key = object.key
    · exact ⟨first, List.mem_cons_self, same⟩
    · rcases List.mem_cons.mp member with rfl | later
      · exact absurd rfl same
      · obtain ⟨newer, inside, named⟩ := inductionHypothesis later
        refine ⟨newer, List.mem_cons_of_mem first (List.mem_filter.mpr ⟨inside, ?_⟩), named⟩
        exact decide_eq_true fun wrong => same (wrong.symm.trans named)

/-! ## Selection -/

/-- A row of the accepted table. The two times are kept as their texts. -/
structure SelectedRow where
  eventId : Option Str
  transactionId : Option Str
  transactionVersion : Option Int
  sourceId : Option Str
  processorId : Option Str
  merchantId : Option Str
  eventType : Option Str
  amountMinor : Option Int
  currency : Option Str
  eventTime : Option Str
  receivedAt : Option Str
  customerToken : Option Str
  deriving DecidableEq

/-- A text column. -/
def textColumn (value : Fields) (column : String) : Option Str :=
  match PyJson.get value (str column) with
  | some (.str text) => some text
  | _ => none

/-- An integer column, `cast("long")`: the low 64 bits. -/
def longColumn (value : Fields) (column : String) : Option Int :=
  match PyJson.get value (str column) with
  | some (.int number) => some (bigint number)
  | _ => none

/-- The `select` of `ingest_accepted_events.main`. -/
def selectColumns (value : Fields) : SelectedRow where
  eventId := textColumn value "event_id"
  transactionId := textColumn value "transaction_id"
  transactionVersion := longColumn value "transaction_version"
  sourceId := textColumn value "source_id"
  processorId := textColumn value "processor_id"
  merchantId := textColumn value "merchant_id"
  eventType := textColumn value "event_type"
  amountMinor := longColumn value "amount_minor"
  currency := textColumn value "currency"
  eventTime := textColumn value "event_time"
  receivedAt := textColumn value "received_at"
  customerToken := textColumn value "customer_token"

/-- The columns of an accepted row. -/
def rowColumns (row : AcceptedEventRow) : SelectedRow where
  eventId := some row.eventId.1
  transactionId := some row.transactionId.1
  transactionVersion := some row.transactionVersion
  sourceId := some row.sourceId.1
  processorId := some row.processorId.1
  merchantId := some row.merchantId.1
  eventType := some row.eventType.text
  amountMinor := some row.amountMinor
  currency := some row.currency.text
  eventTime := some row.eventTime.isoformat
  receivedAt := some row.receivedAt.isoformat
  customerToken := row.customerToken.map Subtype.val

/-- What is selected from the accepted object of an event is the event's accepted row. -/
theorem selected_columns (event : PaymentEvent) :
    selectColumns event.safeDict = rowColumns (acceptedRow event) := by
  obtain ⟨_, _, _, _, _, _, _, _, _, _, _, token, _, _⟩ := event
  cases token <;> rfl

/-- `ingest_accepted_events.main` over a folder. -/
def ingestFolder (folder : Str) (cloud : Cloud) (table : List SelectedRow) : List SelectedRow :=
  mergeInsert SelectedRow.eventId table
    ((folderObjects folder cloud).map fun object => selectColumns object.value)

/-- `accepted/event_date=<business date>/` of the event. -/
def eventFolder (event : PaymentEvent) : Str :=
  str "accepted/event_date=" ++ event.eventTime.isoformat.take 10 ++ str "/"

/-- The table holds a row with the event's identifier, transaction, version and amount. -/
def Carried (event : PaymentEvent) (table : List SelectedRow) : Prop :=
  ∃ row ∈ table, row.eventId = some event.eventId.1 ∧
    row.transactionId = some event.transactionId.1 ∧
    row.transactionVersion = some event.transactionVersion ∧
    row.amountMinor = some event.amountMinor

instance (event : PaymentEvent) (table : List SelectedRow) : Decidable (Carried event table) :=
  inferInstanceAs (Decidable (∃ row ∈ table, row.eventId = some event.eventId.1 ∧
    row.transactionId = some event.transactionId.1 ∧
    row.transactionVersion = some event.transactionVersion ∧
    row.amountMinor = some event.amountMinor))

/-- The event's object is listed, and its numbers fit in 64 bits. -/
structure Ingestible (event : PaymentEvent) : Prop where
  visible : hiddenName event.eventId.1 = false
  version : Int64 event.transactionVersion
  amount : Int64 event.amountMinor

/-! ## Keys -/

/-- An identifier holds no slash, by its pattern, so that it makes one part of a path. -/
theorem identifier_no_slash (identifier : Identifier) :
    ∀ c ∈ identifier.1, c ≠ point '/' := by
  intro c member slash
  have matched := identifier.2
  simp only [isIdentifier, Bool.and_eq_true, List.all_eq_true, decide_eq_true_eq] at matched
  have inside := matched.2 c member
  have value : c.val = 47 := by
    rw [slash]
    rfl
  omega

/-- The base name of an accepted key is the event's identifier with its suffix. -/
theorem accepted_base_name (event : PaymentEvent) :
    baseName (acceptedKey event) = event.eventId.1 ++ str ".json" := by
  have plain : ∀ c ∈ (event.eventId.1 ++ str ".json").reverse, decide (c ≠ point '/') = true := by
    intro c member
    rw [List.mem_reverse, List.mem_append] at member
    rcases member with named | suffix
    · exact decide_eq_true (identifier_no_slash event.eventId c named)
    · have all : (str ".json").all (fun c => decide (c ≠ point '/')) = true := by decide
      exact List.all_eq_true.mp all c suffix
  have split : acceptedKey event = (str "accepted/event_date=" ++
      event.eventTime.isoformat.take 10) ++ [point '/'] ++ (event.eventId.1 ++ str ".json") := by
    simp only [acceptedKey, List.append_assoc]
    rfl
  rw [baseName, split, List.reverse_append, List.takeWhile_append_of_pos plain,
    List.reverse_append]
  simp

/-- The object of an event is hidden from Spark's listing exactly when the identifier starts with
an underscore or a dot, since the identifier starts the file's name. -/
theorem accepted_hidden (event : PaymentEvent) :
    hiddenName (baseName (acceptedKey event)) = hiddenName event.eventId.1 := by
  have length : 1 ≤ event.eventId.1.length := by
    have matched := event.eventId.2
    simp only [isIdentifier, Bool.and_eq_true, decide_eq_true_eq] at matched
    exact matched.1.1
  rw [accepted_base_name, hiddenName, hiddenName]
  cases name : event.eventId.1 with
  | nil =>
    rw [name] at length
    cases length
  | cons first rest => rfl

/-- An accepted object lies under the folder of its date, which the listing of this date walks. -/
theorem accepted_under (event : PaymentEvent) :
    (eventFolder event).isPrefixOf (acceptedKey event) = true := by
  rw [List.isPrefixOf_iff_prefix, acceptedKey, eventFolder, List.append_assoc _ event.eventId.1]
  exact List.prefix_append _ _

/-- Equal accepted keys are of one event identifier: the key ends in the identifier after the last
slash. -/
theorem accepted_key_event {first second : PaymentEvent}
    (same : acceptedKey first = acceptedKey second) : first.eventId = second.eventId := by
  have names := congrArg baseName same
  rw [accepted_base_name, accepted_base_name] at names
  exact Subtype.ext (List.append_cancel_right names)

/-- A cast to bigint keeps exactly the integers that fit in 64 bits. -/
theorem bigint_kept {number : Int} : bigint number = number ↔ Int64 number := by
  constructor
  · intro same
    have lower := @Int.le_bmod number 18446744073709551616 (by decide)
    have upper := @Int.bmod_lt number 18446744073709551616 (by decide)
    unfold bigint at same
    unfold Int64
    omega
  · exact bigint_fits

/-! ## Runs -/

section Runs

variable {deployment : Deployment} {offered : List Record → Prop}

/-- The pools of the gate and the accepted tables that any interleaving of its steps
with ingestion runs over any folders reaches. -/
inductive Operates (deployment : Deployment) (offered : List Record → Prop) :
    GatePool → List SelectedRow → Prop
  | start : Operates deployment offered ⟨Cloud.empty, [], []⟩ []
  | gate {pool next : GatePool} {table : List SelectedRow}
      (earlier : Operates deployment offered pool table)
      (step : Pool.Step (gateSystem deployment offered) pool next) :
      Operates deployment offered next table
  | ingest {pool : GatePool} {table : List SelectedRow} (folder : Str)
      (earlier : Operates deployment offered pool table) :
      Operates deployment offered pool (ingestFolder folder pool.world table)

/-- Every pool of an operation is one that the gate alone reaches: the ingestion writes its own
table and no object. -/
theorem Operates.reachable {pool : GatePool} {table : List SelectedRow}
    (operates : Operates deployment offered pool table) :
    Pool.Reachable (gateSystem deployment offered) Cloud.empty pool := by
  induction operates with
  | start => exact .refl
  | gate _ step inductionHypothesis => exact inductionHypothesis.tail step
  | ingest folder _ inductionHypothesis => exact inductionHypothesis

/-- The gate may run on its own, with the table still empty. -/
theorem operates_of_reachable {pool : GatePool}
    (reached : Pool.Reachable (gateSystem deployment offered) Cloud.empty pool) :
    Operates deployment offered pool [] := by
  induction reached with
  | refl => exact .start
  | tail _ step inductionHypothesis => exact .gate inductionHypothesis step

/-- The row was selected from an accepted object that is not hidden. -/
def Selected (cloud : Cloud) (row : SelectedRow) : Prop :=
  ∃ object ∈ cloud.objects, object.bucket = .accepted ∧
    hiddenName (baseName object.key) = false ∧ row = selectColumns object.value

/-- What a run reads was written to the accepted bucket and is not hidden. -/
theorem folder_selected {folder : Str} {cloud : Cloud} {object : StoredObject}
    (member : object ∈ folderObjects folder cloud) :
    object ∈ cloud.objects ∧ object.bucket = .accepted ∧
      hiddenName (baseName object.key) = false := by
  obtain ⟨stored, found⟩ := List.mem_filter.mp (newest_subset _ member)
  simp only [listed, Bool.and_eq_true, decide_eq_true_eq, Bool.not_eq_true'] at found
  exact ⟨stored, found.1.1, found.2⟩

/-- A run of the ingestion adds rows of objects that were written and no others, so a table of
selected rows stays one. -/
theorem ingest_selected {folder : Str} {cloud : Cloud} {table : List SelectedRow}
    (selected : ∀ row ∈ table, Selected cloud row) :
    ∀ row ∈ ingestFolder folder cloud table, Selected cloud row := by
  intro row member
  rcases mem_merge_insert.mp member with old | ⟨new, _⟩
  · exact selected row old
  · obtain ⟨object, found, rfl⟩ := List.mem_map.mp new
    obtain ⟨stored, accepted, visible⟩ := folder_selected found
    exact ⟨object, stored, accepted, visible, rfl⟩

/-- In every operation the rows of the table are selected rows, of objects that are still there:
objects are never deleted. -/
theorem Operates.selected {pool : GatePool} {table : List SelectedRow}
    (operates : Operates deployment offered pool table) :
    ∀ row ∈ table, Selected pool.world row := by
  induction operates with
  | start =>
    intro row member
    exact absurd member List.not_mem_nil
  | @gate before after table earlier step inductionHypothesis =>
    intro row member
    obtain ⟨object, stored, rest⟩ := inductionHypothesis row member
    obtain ⟨supported, _⟩ := SchemaGate.reachable_consistent earlier.reachable
    obtain ⟨_, moved⟩ := run_supported (.single step) supported
    have kept : object ∈ after.world.objects :=
      stable_many (stored_stable object) before.world after.world moved stored
    exact ⟨object, kept, rest⟩
  | ingest folder _ inductionHypothesis => exact ingest_selected inductionHypothesis

/-- The event was published under the fingerprint of an offered payload. -/
structure Published (deployment : Deployment) (offered : List Record → Prop) (event : PaymentEvent)
    (cloud : Cloud) : Prop where
  source : ∃ payload, Offers deployment offered payload event ∧
    PublishedUnder event.eventId (identityFingerprint deployment.runtime payload) cloud

section Published

variable {pool : GatePool} {event : PaymentEvent}
variable (collisionFree : CollisionFree deployment.runtime (OfferedText deployment offered))
variable (consistent : Consistent deployment offered pool.world)
variable (published : Published deployment offered event pool.world)

include collisionFree consistent published

/-- Every accepted object with the identifier of a published event is that of an alike
event. -/
theorem published_alike {object : StoredObject} (stored : object ∈ pool.world.objects)
    (accepted : object.bucket = .accepted)
    (named : (selectColumns object.value).eventId = some event.eventId.1) :
    ∃ other, object = acceptedObject other ∧ Alike event other := by
  obtain ⟨payload, offers, item, held, digest, _⟩ := published.source
  obtain ⟨otherPayload, other, otherOffers, rfl, otherItem, otherHeld, otherDigest⟩ :=
    consistent.accepted object stored accepted
  have ids : other.eventId = event.eventId := by
    change (selectColumns other.safeDict).eventId = _ at named
    rw [selected_columns] at named
    exact Subtype.ext (Option.some.inj named)
  rw [ids, held, Option.some.injEq] at otherHeld
  subst otherHeld
  exact ⟨other, rfl, same_fingerprint_alike collisionFree offers otherOffers
    (digest.symm.trans otherDigest)⟩

/-- The accepted object of a published event exists, in the content of this event or of one alike:
the deliveries of one event differ in their receipt times at most. -/
theorem published_stored :
    ∃ other, Alike event other ∧ acceptedObject other ∈ pool.world.objects := by
  obtain ⟨payload, offers, item, held, digest, status⟩ := published.source
  obtain ⟨otherPayload, other, otherOffers, _, otherDigest, stored⟩ :=
    consistent.published event.eventId _ ⟨item, held, digest, status⟩
  exact ⟨other, same_fingerprint_alike collisionFree offers otherOffers otherDigest, stored⟩

/-- A selected row with the identifier of a published event is visible and holds the
event's columns, cast to 64 bits. -/
theorem published_columns {row : SelectedRow} (selected : Selected pool.world row)
    (named : row.eventId = some event.eventId.1) :
    hiddenName event.eventId.1 = false ∧ row.transactionId = some event.transactionId.1 ∧
      row.transactionVersion = some (bigint event.transactionVersion) ∧
      row.amountMinor = some (bigint event.amountMinor) := by
  obtain ⟨object, stored, accepted, visible, rfl⟩ := selected
  obtain ⟨other, rfl, alike⟩ :=
    published_alike collisionFree consistent published stored accepted named
  change hiddenName (baseName (acceptedKey other)) = false at visible
  rw [← alike_accepted_key alike, accepted_hidden] at visible
  refine ⟨visible, ?_⟩
  rw [Alike] at alike
  change (selectColumns other.safeDict).transactionId = _ ∧
    (selectColumns other.safeDict).transactionVersion = _ ∧
    (selectColumns other.safeDict).amountMinor = _
  rw [selected_columns, alike]
  exact ⟨rfl, rfl, rfl⟩

/-- A run over the folder of a published event that is visible leaves a row with the
event's identifier. -/
theorem published_row {table : List SelectedRow} (visible : hiddenName event.eventId.1 = false) :
    ∃ row ∈ ingestFolder (eventFolder event) pool.world table,
      row.eventId = some event.eventId.1 := by
  obtain ⟨other, alike, stored⟩ := published_stored collisionFree consistent published
  have key := alike_accepted_key alike
  have found : listed (eventFolder event) (acceptedObject other) = true := by
    change (decide (Bucket.accepted = .accepted) &&
      (eventFolder event).isPrefixOf (acceptedKey other) &&
        !hiddenName (baseName (acceptedKey other))) = true
    rw [← key, accepted_under, accepted_hidden, visible]
    rfl
  obtain ⟨newer, inside, sameKey⟩ := newest_key (List.mem_filter.mpr ⟨stored, found⟩)
  obtain ⟨written, accepted, _⟩ := folder_selected inside
  obtain ⟨_, source, _, rfl, _⟩ := consistent.accepted newer written accepted
  have ids : source.eventId = event.eventId := by
    have keys : acceptedKey source = acceptedKey other := sameKey
    exact accepted_key_event (keys.trans key.symm)
  let row := selectColumns source.safeDict
  have named : row.eventId = some event.eventId.1 := by
    change (selectColumns source.safeDict).eventId = _
    rw [selected_columns, ← ids]
    rfl
  have read : row ∈ (folderObjects (eventFolder event) pool.world).map
      fun object => selectColumns object.value :=
    List.mem_map.mpr ⟨acceptedObject source, inside, rfl⟩
  by_cases known : row.eventId ∈ table.map SelectedRow.eventId
  · obtain ⟨old, member, same⟩ := List.mem_map.mp known
    exact ⟨old, mem_merge_insert.mpr (.inl member), same.trans named⟩
  · exact ⟨row, mem_merge_insert.mpr (.inr ⟨read, known⟩), named⟩

end Published

/-- A published event reaches the accepted table exactly when its object is listed and
its numbers fit. In every interleaving of the gate's calls with ingestion runs, the run
over the folder of a published event leaves it in the table, with the identifier,
transaction, version and amount that validation passed, if and only if its identifier
does not start with an underscore or a dot and its version and amount fit in 64 bits. -/
theorem published_event_ingested
    (collisionFree : CollisionFree deployment.runtime (OfferedText deployment offered))
    {pool : GatePool} {table : List SelectedRow} {event : PaymentEvent}
    (operates : Operates deployment offered pool table)
    (published : Published deployment offered event pool.world) :
    Carried event (ingestFolder (eventFolder event) pool.world table) ↔ Ingestible event := by
  obtain ⟨_, consistent⟩ := SchemaGate.reachable_consistent operates.reachable
  have selected := @ingest_selected (eventFolder event) _ _ operates.selected
  constructor
  · rintro ⟨row, member, named, _, version, amount⟩
    obtain ⟨visible, _, versionCast, amountCast⟩ :=
      published_columns collisionFree consistent published (selected row member) named
    rw [versionCast, Option.some.injEq] at version
    rw [amountCast, Option.some.injEq] at amount
    exact ⟨visible, bigint_kept.mp version, bigint_kept.mp amount⟩
  · intro ingestible
    obtain ⟨row, member, named⟩ :=
      @published_row _ _ pool event collisionFree consistent published table ingestible.visible
    obtain ⟨_, transaction, version, amount⟩ :=
      published_columns collisionFree consistent published (selected row member) named
    rw [bigint_fits ingestible.version] at version
    rw [bigint_fits ingestible.amount] at amount
    exact ⟨row, member, named, transaction, version, amount⟩

end Runs

/-! ## Samples -/

/-- A record whose data is this raw event. -/
def directRecord (raw : Fields) : Record := ⟨some (str "shard-0:1"), some (.obj raw)⟩

/-- What deliveries of these records, one after the other, leave in an empty cloud. -/
def cloudAfter (records : List Record) : Cloud :=
  (records.foldl (deliver sampleDeployment sampleClock) ⟨Cloud.empty, [], []⟩).world

/-- The raw event is valid, the deliveries publish it, and its event has the property. -/
def publishedWith (records : List Record) (raw : Fields) (property : PaymentEvent → Bool) : Bool :=
  match validateEvent sampleDeployment.runtime sampleDeployment.registry
      sampleDeployment.tokenKey raw with
  | .error _ => false
  | .ok event =>
      match (cloudAfter records).identities event.eventId with
      | none => false
      | some item =>
          decide (item.identitySha256 = identityFingerprint sampleDeployment.runtime raw ∧
            item.publicationStatus = .published) && property event

/-- A record without an envelope is its own payload, where the gate finds neither `metadata` nor
`data`. -/
theorem direct_payload {raw : Fields} (direct : (PyJson.get raw (str "metadata")).isNone = true ∧
    (PyJson.get raw (str "data")).isNone = true) : extractBusinessPayload raw = .ok raw := by
  have metadata := Option.isNone_iff_eq_none.mp direct.1
  have data := Option.isNone_iff_eq_none.mp direct.2
  simp only [extractBusinessPayload, metadata, data, Option.getD_none]

/-- Deliveries of offered records publish the event of one of them in a reachable pool. -/
theorem published_after {offered : List Record → Prop} {records : List Record} {raw : Fields}
    {property : PaymentEvent → Bool} (isOffered : ∀ record ∈ records, offered [record])
    {record : Record} (among : record ∈ records) (decoded : record.decoded = some (.obj raw))
    (direct : extractBusinessPayload raw = .ok raw)
    (checked : publishedWith records raw property = true) :
    ∃ pool event, Operates sampleDeployment offered pool [] ∧ pool.world = cloudAfter records ∧
      Published sampleDeployment offered event pool.world ∧ property event = true := by
  have reached : Pool.Reachable (gateSystem sampleDeployment offered) Cloud.empty
      (records.foldl (deliver sampleDeployment sampleClock) ⟨Cloud.empty, [], []⟩) :=
    deliveries_reachable .refl isOffered
  unfold publishedWith at checked
  split at checked
  · cases checked
  · rename_i event valid
    split at checked
    · cases checked
    · rename_i item held
      obtain ⟨registered, holds⟩ := (Bool.and_eq_true _ _).mp checked
      obtain ⟨digest, status⟩ := of_decide_eq_true registered
      refine ⟨_, event, operates_of_reachable reached, rfl, ⟨raw, ?_, item, held, digest, status⟩,
        holds⟩
      exact ⟨_, isOffered record among, record, List.mem_cons_self, raw, decoded, direct, valid⟩

/-- An authorization whose identifier starts with an underscore. -/
def underscoreRaw : Fields :=
  sampleRaw "_evt-1" .authorization 1 1000 "2026-01-01T00:00:05Z"

/-- An authorization of 2^63 minor units. -/
def wideRaw : Fields :=
  sampleRaw "evt-1" .authorization 1 9223372036854775808 "2026-01-01T00:00:05Z"

/-- The event of a raw record is published but not carried over by its ingestion. -/
def Lost (raw : Fields) : Prop :=
  ∃ pool event, Operates sampleDeployment (fun batch => batch = [directRecord raw]) pool [] ∧
    Published sampleDeployment (fun batch => batch = [directRecord raw]) event pool.world ∧
    ¬ Carried event (ingestFolder (eventFolder event) pool.world [])

/-- A record is lost where the run that submits it alone, evaluated, publishes its event and
ingests nothing of it. -/
theorem lost_alone {raw : Fields} (direct : extractBusinessPayload raw = .ok raw)
    (checked : publishedWith [directRecord raw] raw (fun event => decide (¬ Carried event
      (ingestFolder (eventFolder event) (cloudAfter [directRecord raw]) []))) = true) :
    Lost raw := by
  obtain ⟨pool, event, operates, world, published, missing⟩ :=
    @published_after (fun batch => batch = [directRecord raw]) _ _ _
      (fun _ among => List.mem_singleton.mp among ▸ rfl) _ List.mem_cons_self rfl direct checked
  exact ⟨pool, event, operates, published, world ▸ of_decide_eq_true missing⟩

/-- Two valid events that are published and then lost: a hidden object is not read, and
a wide amount is altered. -/
theorem published_events_lost : Lost underscoreRaw ∧ Lost wideRaw := by
  constructor
  · exact lost_alone (direct_payload (by decide +kernel)) (by decide +kernel)
  · exact lost_alone (direct_payload (by decide +kernel)) (by decide +kernel)

/-- The sample authorization is ingested once it is published, although another payload has
claimed its identifier meanwhile. -/
theorem published_event_ingested_sample :
    ∃ (pool : GatePool) (event : PaymentEvent),
      Published sampleDeployment SampleOffered event pool.world ∧
      event.amountMinor = 1000 ∧
      Carried event (ingestFolder (eventFolder event) pool.world []) := by
  obtain ⟨pool, event, operates, _, published, ingestible⟩ := @published_after SampleOffered
    sampleOffers (sampleRaw "evt-1" .authorization 1 1000 "2026-01-01T00:00:05Z")
    (fun event => decide (event.amountMinor = 1000 ∧ hiddenName event.eventId.1 = false ∧
      Int64 event.transactionVersion ∧ Int64 event.amountMinor))
    (fun record among => ⟨record, among, rfl⟩) _ List.mem_cons_self rfl
    (direct_payload (by decide +kernel)) (by decide +kernel)
  obtain ⟨amount, visible, version, fits⟩ := of_decide_eq_true ingestible
  exact ⟨pool, event, published, amount, (published_event_ingested sample_collision_free operates
    published).mpr ⟨visible, version, fits⟩⟩

end LedgerFlow.EndToEnd
