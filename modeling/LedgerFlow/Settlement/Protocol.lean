import LedgerFlow.Settlement.Workflow
import LedgerFlow.Support.Revisions
import Mathlib.Data.Int.ConditionallyCompleteOrder

/-!
# The registration protocol of the loader

Any number of loader invocations copy, register and start, while objects are delivered
and executions advance. `Consistent` is the invariant of the world: verified inputs lie
under keys that name their digest, the publication records are those of an increasing log
of registrations, every execution was started from a registered delivery, and an
execution has completed every state before the one it is in. `Follows` is what any step
does; it is the rely and the guarantee of every invocation. That the bytes under a key
never change needs SHA-256 to be free of collisions, and only that does.
-/

namespace LedgerFlow.Settlement

open PyText PyJson PyBytes PyDateTime Programs Programs.Program Grouping Revisions

variable {deployment : Deployment} {offered : Bytes → Prop}

/-! ## What checks establish -/

/-- The delivery's manifest passes the checks, for this location and date, and states
this digest. -/
structure Delivers (deployment : Deployment) (delivery : Delivery) (location : Location)
    (manifest : Manifest) (businessDate sha256 : Str) : Prop where
  event : record delivery.event = .ok location
  checked : checkManifest deployment.library delivery.manifest = .ok manifest
  date : searchDate deployment.library (dataKeyOf location.key) = some businessDate
  digest : isText sha256 manifest.sha256 = true

/-- The version that a head describes is the one that the manifest states. -/
structure Describes (library : Library) (manifest : Manifest) (version : ObjectVersion)
    (versionId checksum : Str) : Prop where
  versionId : version.versionId = versionId
  size : manifest.byteSize.value = version.body.length
  summed : checksum = hex (library.sha256 version.body)
  digest : isText checksum manifest.sha256 = true

/-- What the head check returns are the version and the checksum of the object that the head
describes, and both agree with the manifest. -/
theorem check_head_ok {library : Library} {manifest : Manifest} {dataKey : Str}
    {version : ObjectVersion} {versionId checksum : Str}
    (checked : checkHead manifest dataKey (headOf library version) = .ok (versionId, checksum)) :
    Describes library manifest version versionId checksum := by
  simp only [checkHead, bind_ok] at checked
  obtain ⟨_, named, _, _, _, sized, _, summed, _, stated, returned⟩ := checked
  cases named
  obtain ⟨rfl, rfl⟩ := Prod.mk.inj (Except.ok.inj returned)
  have digest := require_ok.mp stated
  cases kept : version.checksummed with
  | false =>
    simp only [headOf, kept] at summed
    cases summed
  | true =>
    simp only [headOf, kept, ↓reduceIte, checksumHex, managedChecksum, b64_round_trip] at summed
    cases summed
    exact ⟨rfl, require_ok.mp sized, rfl, digest⟩

/-- Keys that name digests name the same one if they are equal, whatever date and revision stand
before it. -/
theorem verified_key_digest {library : Library} {firstDate secondDate : Str}
    {firstRevision secondRevision : PyInt} {first second : Bytes}
    (same : verifiedDataKey firstDate firstRevision (hex (library.sha256 first)) =
      verifiedDataKey secondDate secondRevision (hex (library.sha256 second))) :
    library.sha256 first = library.sha256 second := by
  have lengths : (hex (library.sha256 first)).length = (hex (library.sha256 second)).length := by
    rw [hex_length, hex_length, library.sha256_length, library.sha256_length]
  have digests := (List.append_inj' same rfl).1
  exact hex_injective (List.append_inj' digests lengths).2

/-! ## The invariant -/

/-- The delivered versions and the verified inputs. -/
structure Objects (deployment : Deployment) (offered : Bytes → Prop) (store : Store) : Prop where
  versions : ∀ location, Keyed ObjectVersion.versionId (store.landing location)
  bodies : ∀ location, ∀ version ∈ store.landing location, offered version.body
  verified : ∀ key body, store.verified key = some body → offered body ∧
    ∃ businessDate revision,
      key = verifiedDataKey businessDate revision (hex (deployment.library.sha256 body))

/-- What a publication record says of its revision. -/
def Publication.identity (item : Publication) : Int × Str × Str :=
  (item.revision, item.manifestSha256, item.verifiedDataKey)

/-- What a registration says. -/
def Registration.identity (registration : Registration) : Int × Str × Str :=
  (registration.revision, registration.sha256, registration.key)

/-- The registration comes from a delivery that states it. -/
structure Grounded (deployment : Deployment) (registration : Registration) : Prop where
  delivers : ∃ location manifest, Delivers deployment registration.delivery location manifest
    registration.businessDate registration.sha256 ∧ manifest.revision = .int registration.revision
  key : registration.key =
    verifiedDataKey registration.businessDate (.int registration.revision) registration.sha256

/-- The publication records are the newest registrations. -/
structure Registered (deployment : Deployment) (world : World) : Prop where
  increasing : Increasing Registration.businessDate Registration.revision
    (registrations world.journal)
  current : ∀ businessDate, (world.store.publications businessDate).map Publication.identity =
    (newest Registration.businessDate businessDate (registrations world.journal)).map
      Registration.identity
  grounded : ∀ registration ∈ registrations world.journal, Grounded deployment registration

/-- The verified bytes have this digest and size, if no delivered bytes collide. -/
def Landed (deployment : Deployment) (offered : Bytes → Prop) (key sha256 : Str) (size : Int)
    (world : World) : Prop :=
  deployment.library.CollisionFree offered → ∃ body, world.store.verified key = some body ∧
    hex (deployment.library.sha256 body) = sha256 ∧ body.length = size

/-- The journal holds a registration of this date, revision and digest. -/
def RegisteredAs (businessDate : Str) (revision : Int) (sha256 : Str) (world : World) : Prop :=
  ∃ registration ∈ registrations world.journal, registration.businessDate = businessDate ∧
    registration.revision = revision ∧ registration.sha256 = sha256

/-- An execution was started by a delivery that states its input, whose revision is
registered and whose verified bytes are those of the manifest. -/
structure Founded (deployment : Deployment) (offered : Bytes → Prop) (world : World)
    (delivery : Delivery) (name : Str) (input : WorkflowInput) : Prop where
  delivers : ∃ manifest, Delivers deployment delivery input.manifest manifest input.businessDate
      input.sha256 ∧ manifest.revision = .int input.revision ∧
    Landed deployment offered input.verifiedDataKey input.sha256 manifest.byteSize.value world
  named : name = executionName input.businessDate (.int input.revision) input.sha256
  key : input.verifiedDataKey =
    verifiedDataKey input.businessDate (.int input.revision) input.sha256
  registered : RegisteredAs input.businessDate input.revision input.sha256 world

/-- The executions. -/
structure Executions (deployment : Deployment) (offered : Bytes → Prop) (world : World) :
    Prop where
  named : Keyed Execution.name world.store.executions
  started : ∀ execution ∈ world.store.executions, ∃ delivery,
    .started delivery execution.name execution.input ∈ world.journal
  founded : ∀ delivery name input, .started delivery name input ∈ world.journal →
    Founded deployment offered world delivery name input

/-- The execution's job of this state ran to its end without an error. -/
def Completed (library : Library) (input : WorkflowInput) (stage : Stage) (world : World) :
    Prop :=
  ∃ before, .ran input stage before .completes ∈ world.journal ∧
    (runStage library stage input before).2 = .ok ()

/-- The execution completed every state before this one. -/
def CompletedBefore (library : Library) (input : WorkflowInput) (stage : Stage) (world : World) :
    Prop :=
  ∀ earlier : Stage, earlier.position < stage.position → Completed library input earlier world

/-- Executions pass through the states in order, and only the last one publishes. -/
structure Gated (library : Library) (world : World) : Prop where
  progress : ∀ execution ∈ world.store.executions, ∀ stage, execution.state = .running stage →
    CompletedBefore library execution.input stage world
  reconciled : ∀ businessDate item, world.store.publications businessDate = some item →
    item.status = .reconciled → ∃ execution ∈ world.store.executions,
      execution.input.businessDate = businessDate ∧ execution.input.revision = item.revision ∧
      execution.input.sha256 = item.manifestSha256 ∧
      CompletedBefore library execution.input .publishGate world

/-- The invariant of the world. -/
structure Consistent (deployment : Deployment) (offered : Bytes → Prop) (world : World) :
    Prop where
  objects : Objects deployment offered world.store
  registered : Registered deployment world
  executions : Executions deployment offered world
  gated : Gated deployment.library world

/-! ## Steps -/

/-- What no step takes back. -/
structure Grows (deployment : Deployment) (offered : Bytes → Prop) (before after : World) :
    Prop where
  versions : ∀ location, ∀ version ∈ before.store.landing location,
    version ∈ after.store.landing location
  journal : before.journal <:+ after.journal
  revisions : ∀ businessDate item, before.store.publications businessDate = some item →
    ∃ later, after.store.publications businessDate = some later ∧
      (item.revision < later.revision ∨ item.identity = later.identity)
  executions : Keyed Execution.name before.store.executions →
    ∀ execution ∈ before.store.executions, ∃ later ∈ after.store.executions,
      later.name = execution.name ∧ later.input = execution.input
  verified : deployment.library.CollisionFree offered → Objects deployment offered before.store →
    ∀ key body, before.store.verified key = some body → after.store.verified key = some body

/-- What any step does to the world. -/
structure Follows (deployment : Deployment) (offered : Bytes → Prop) (before after : World) :
    Prop extends Grows deployment offered before after where
  consistent : Consistent deployment offered before → Consistent deployment offered after

/-! ## Stable assertions -/

/-- Consistency is kept by whatever the others do between two calls of one loader. -/
theorem consistent_stable :
    Stable (Follows deployment offered) (Consistent deployment offered) :=
  fun _ _ follows consistent => follows.consistent consistent

section Growing

variable {before after : World}

/-- The registrations of an earlier journal end those of a later one: a journal grows at its
head. -/
theorem registrations_suffix {first second : List Entry} (suffix : first <:+ second) :
    registrations first <:+ registrations second := by
  obtain ⟨newer, rfl⟩ := suffix
  exact ⟨registrations newer, (List.filterMap_append ..).symm⟩

/-- What the journal records, it records forever, as entries are only put before it. -/
theorem Grows.entry (grows : Grows deployment offered before after) {entry : Entry}
    (member : entry ∈ before.journal) : entry ∈ after.journal :=
  grows.journal.subset member

/-- A registered revision stays registered, since its entry stays in the journal. -/
theorem Grows.registeredAs (grows : Grows deployment offered before after) {businessDate : Str}
    {revision : Int} {sha256 : Str}
    (registered : RegisteredAs businessDate revision sha256 before) :
    RegisteredAs businessDate revision sha256 after := by
  obtain ⟨registration, member, same⟩ := registered
  exact ⟨registration, (registrations_suffix grows.journal).subset member, same⟩

/-- A completed stage stays completed: that it ran is in the journal. -/
theorem Grows.completed (grows : Grows deployment offered before after) {library : Library}
    {input : WorkflowInput} {stage : Stage} (completed : Completed library input stage before) :
    Completed library input stage after := by
  obtain ⟨store, ran, passed⟩ := completed
  exact ⟨store, grows.entry ran, passed⟩

/-- A landed copy keeps its digest and size, even where it is written again: its key names the
digest, and among offered bytes that do not collide the same digest means the same bytes. -/
theorem Grows.landed (grows : Grows deployment offered before after)
    (objects : Objects deployment offered before.store) {key sha256 : Str} {size : Int}
    (landed : Landed deployment offered key sha256 size before) :
    Landed deployment offered key sha256 size after := by
  intro free
  obtain ⟨body, found, same⟩ := landed free
  exact ⟨body, grows.verified free objects key body found, same⟩

/-- What an execution was founded on stays: the copy, the registration and the delivery that
stated it. -/
theorem Grows.founded (grows : Grows deployment offered before after)
    (objects : Objects deployment offered before.store) {delivery : Delivery} {name : Str}
    {input : WorkflowInput} (founded : Founded deployment offered before delivery name input) :
    Founded deployment offered after delivery name input := by
  obtain ⟨manifest, delivers, revision, landed⟩ := founded.delivers
  exact ⟨⟨manifest, delivers, revision, grows.landed objects landed⟩, founded.named, founded.key,
    grows.registeredAs founded.registered⟩

end Growing

/-! ## Calls of the loader -/

section Unchanged

variable {before after : World}

/-- Where the registrations and the records stay, the newest registration of each date is still
its record. -/
theorem registered_same (registered : Registered deployment before)
    (publications : after.store.publications = before.store.publications)
    (journal : registrations after.journal = registrations before.journal) :
    Registered deployment after := by
  constructor
  · rw [journal]
    exact registered.increasing
  · rw [journal, publications]
    exact registered.current
  · rw [journal]
    exact registered.grounded

/-- Executions that stay keep what they are founded on, in a world that grows. -/
theorem executions_same (executions : Executions deployment offered before)
    (grows : Grows deployment offered before after)
    (objects : Objects deployment offered before.store)
    (same : after.store.executions = before.store.executions)
    (journal : ∀ delivery name input, .started delivery name input ∈ after.journal →
      .started delivery name input ∈ before.journal) :
    Executions deployment offered after := by
  constructor
  · rw [same]
    exact executions.named
  · intro execution member
    rw [same] at member
    obtain ⟨delivery, started⟩ := executions.started execution member
    exact ⟨delivery, grows.entry started⟩
  · intro delivery name input started
    exact grows.founded objects
      (executions.founded delivery name input (journal delivery name input started))

/-- Executions and records that stay are as far as they were, and what was completed stays
completed. -/
theorem gated_same {library : Library} (gated : Gated library before)
    (grows : Grows deployment offered before after)
    (same : after.store.executions = before.store.executions)
    (publications : after.store.publications = before.store.publications) :
    Gated library after := by
  constructor
  · intro execution member stage running earlier lower
    rw [same] at member
    exact grows.completed (gated.progress execution member stage running earlier lower)
  · intro businessDate item held status
    rw [publications] at held
    obtain ⟨execution, member, date, revision, sha256, completed⟩ :=
      gated.reconciled businessDate item held status
    exact ⟨execution, same ▸ member, date, revision, sha256,
      fun earlier lower => grows.completed (completed earlier lower)⟩

end Unchanged

/-- The world goes on from itself, with nothing taken back. -/
theorem Grows.refl (world : World) : Grows deployment offered world world where
  versions := fun _ _ member => member
  journal := List.suffix_refl _
  revisions := fun _ item held => ⟨item, held, .inr rfl⟩
  executions := fun _ execution member => ⟨execution, member, rfl, rfl⟩
  verified := fun _ _ _ _ found => found

/-- A world follows itself, consistency included. -/
theorem Follows.refl (world : World) : Follows deployment offered world world :=
  ⟨Grows.refl world, id⟩

/-- Copying offered bytes to a key that names their digest. Where the key holds bytes already,
these have the same digest, and without collisions they are the same. -/
theorem follows_verify {world : World} {key : Str} {body : Bytes} (isOffered : offered body)
    (named : ∃ businessDate revision,
      key = verifiedDataKey businessDate revision (hex (deployment.library.sha256 body))) :
    Follows deployment offered world { world with store := world.store.verify key body } := by
  have grows : Grows deployment offered world
      { world with store := world.store.verify key body } := by
    refine ⟨fun _ _ member => member, List.suffix_refl _, fun _ item held => ⟨item, held, .inr rfl⟩,
      fun _ execution member => ⟨execution, member, rfl, rfl⟩, fun free objects other found held => ?_⟩
    by_cases same : other = key
    · subst same
      obtain ⟨foundOffered, foundDate, foundRevision, foundNamed⟩ :=
        objects.verified other found held
      obtain ⟨date, revision, keyNamed⟩ := named
      have digests := verified_key_digest (foundNamed.symm.trans keyNamed)
      rw [free found body foundOffered isOffered digests]
      exact verify_same _ _ _
    · exact (verify_other _ _ same).trans held
  refine ⟨grows, fun consistent => ⟨?_, ?_, ?_, ?_⟩⟩
  · refine ⟨consistent.objects.versions, consistent.objects.bodies, fun other found held => ?_⟩
    by_cases same : other = key
    · subst same
      rw [verify_same, Option.some.injEq] at held
      subst held
      exact ⟨isOffered, named⟩
    · rw [verify_other _ _ same] at held
      exact consistent.objects.verified other found held
  · exact registered_same consistent.registered rfl rfl
  · exact executions_same consistent.executions grows consistent.objects rfl
      fun _ _ _ started => started
  · exact gated_same consistent.gated grows rfl rfl

/-- Recording a registration puts it before the others, as the newest. -/
theorem registrations_cons (registration : Registration) (journal : List Entry) :
    registrations (.registered registration :: journal) =
      registration :: registrations journal := rfl

/-- The record of a date is its newest registration, so it never names a revision that was not
registered. -/
theorem Registered.newest_item {world : World} (registered : Registered deployment world)
    {businessDate : Str} {item : Publication}
    (held : world.store.publications businessDate = some item) :
    ∃ top, newest Registration.businessDate businessDate (registrations world.journal) = some top ∧
      item.identity = top.identity := by
  have current := registered.current businessDate
  rw [held, Option.map_some] at current
  obtain ⟨top, found, same⟩ := Option.map_eq_some_iff.mp current.symm
  exact ⟨top, found, same.symm⟩

/-- Where a date has a registration, it has a record, with the identity of the newest one. -/
theorem Registered.item_newest {world : World} (registered : Registered deployment world)
    {businessDate : Str} {top : Registration}
    (found : newest Registration.businessDate businessDate (registrations world.journal) =
      some top) :
    ∃ item, world.store.publications businessDate = some item ∧ item.identity = top.identity := by
  have current := registered.current businessDate
  rw [found, Option.map_some] at current
  exact Option.map_eq_some_iff.mp current

/-- Registering a newer revision of a date. The record and the journal change together, and no
execution is started by it. -/
theorem follows_register {world : World} {registration : Registration}
    (grounded : Grounded deployment registration)
    (newer : ∀ item, world.store.publications registration.businessDate = some item →
      item.revision < registration.revision) :
    Follows deployment offered world
      ⟨world.store.publish registration.businessDate
          (processingItem registration.revision registration.sha256 registration.key),
        .registered registration :: world.journal⟩ := by
  have grows : Grows deployment offered world
      ⟨world.store.publish registration.businessDate
          (processingItem registration.revision registration.sha256 registration.key),
        .registered registration :: world.journal⟩ := by
    refine ⟨fun _ _ member => member, List.suffix_cons .., fun businessDate item held => ?_,
      fun _ execution member => ⟨execution, member, rfl, rfl⟩, fun _ _ _ _ found => found⟩
    by_cases same : businessDate = registration.businessDate
    · subst same
      exact ⟨_, publish_same _ _ _, .inl (newer item held)⟩
    · exact ⟨item, (publish_other _ _ same).trans held, .inr rfl⟩
  refine ⟨grows, fun consistent => ⟨?_, ?_, ?_, ?_⟩⟩
  · exact ⟨consistent.objects.versions, consistent.objects.bodies, consistent.objects.verified⟩
  · have registered := consistent.registered
    constructor
    · apply increasing_cons registered.increasing
      intro top found
      obtain ⟨item, held, same⟩ := registered.item_newest found
      have revisions : item.revision = top.revision := congrArg Prod.fst same
      exact revisions ▸ newer item held
    · intro businessDate
      rw [registrations_cons]
      by_cases same : registration.businessDate = businessDate
      · subst same
        rw [newest_cons_same rfl]
        exact congrArg (Option.map Publication.identity) (publish_same _ _ _)
      · rw [newest_cons_other same]
        exact (congrArg (Option.map Publication.identity)
          (publish_other _ _ (Ne.symm same))).trans (registered.current businessDate)
    · intro other member
      rcases List.mem_cons.mp member with rfl | earlier
      · exact grounded
      · exact registered.grounded other earlier
  · apply executions_same consistent.executions grows consistent.objects rfl
    intro _ _ _ started
    rcases List.mem_cons.mp started with wrong | earlier
    · cases wrong
    · exact earlier
  · constructor
    · intro execution member stage running earlier lower
      exact grows.completed (consistent.gated.progress execution member stage running earlier lower)
    · intro businessDate item held status
      by_cases same : businessDate = registration.businessDate
      · subst same
        rw [publish_same, Option.some.injEq] at held
        subst held
        cases status
      · rw [publish_other _ _ same] at held
        obtain ⟨execution, member, date, revision, sha256, completed⟩ :=
          consistent.gated.reconciled businessDate item held status
        exact ⟨execution, member, date, revision, sha256,
          fun earlier lower => grows.completed (completed earlier lower)⟩

/-- Starting an execution under a new name, founded on what has landed and is registered. -/
theorem follows_start {world : World} {delivery : Delivery} {name : Str} {input : WorkflowInput}
    (founded : Founded deployment offered world delivery name input)
    (fresh : name ∉ world.store.executions.map Execution.name) :
    Follows deployment offered world
      ⟨{ world.store with executions := ⟨name, input, .running .validateSettlementManifest, 0⟩ ::
          world.store.executions }, .started delivery name input :: world.journal⟩ := by
  have grows : Grows deployment offered world
      ⟨{ world.store with executions := ⟨name, input, .running .validateSettlementManifest, 0⟩ ::
          world.store.executions }, .started delivery name input :: world.journal⟩ :=
    ⟨fun _ _ member => member, List.suffix_cons .., fun _ item held => ⟨item, held, .inr rfl⟩,
      fun _ execution member => ⟨execution, List.mem_cons_of_mem _ member, rfl, rfl⟩,
      fun _ _ _ _ found => found⟩
  refine ⟨grows, fun consistent => ⟨?_, ?_, ?_, ?_⟩⟩
  · exact ⟨consistent.objects.versions, consistent.objects.bodies, consistent.objects.verified⟩
  · exact registered_same consistent.registered rfl rfl
  · constructor
    · exact List.nodup_cons.mpr ⟨fresh, consistent.executions.named⟩
    · intro execution member
      rcases List.mem_cons.mp member with rfl | earlier
      · exact ⟨delivery, List.mem_cons_self⟩
      · obtain ⟨other, started⟩ := consistent.executions.started execution earlier
        exact ⟨other, List.mem_cons_of_mem _ started⟩
    · intro other otherName otherInput started
      rcases List.mem_cons.mp started with same | earlier
      · cases same
        exact grows.founded consistent.objects founded
      · exact grows.founded consistent.objects
          (consistent.executions.founded other otherName otherInput earlier)
  · constructor
    · intro execution member stage running earlier lower
      rcases List.mem_cons.mp member with rfl | older
      · cases running
        exact absurd lower (Nat.not_lt_zero _)
      · exact grows.completed
          (consistent.gated.progress execution older stage running earlier lower)
    · intro businessDate item held status
      obtain ⟨execution, member, date, revision, sha256, completed⟩ :=
        consistent.gated.reconciled businessDate item held status
      exact ⟨execution, List.mem_cons_of_mem _ member, date, revision, sha256,
        fun earlier lower => grows.completed (completed earlier lower)⟩

/-! ## Moves around the loader -/

/-- Delivering a version with a new identifier, which no head has described yet. -/
theorem follows_put {world : World} {location : Location} {version : ObjectVersion}
    (isOffered : offered version.body)
    (fresh : ∀ other ∈ world.store.landing location, other.versionId ≠ version.versionId) :
    Follows deployment offered world { world with store := world.store.put location version } := by
  have grows : Grows deployment offered world
      { world with store := world.store.put location version } :=
    ⟨fun _ _ member => (mem_put _).mpr (.inr member), List.suffix_refl _,
      fun _ item held => ⟨item, held, .inr rfl⟩,
      fun _ execution member => ⟨execution, member, rfl, rfl⟩,
      fun _ _ _ _ found => found⟩
  refine ⟨grows, fun consistent => ⟨⟨?_, ?_, consistent.objects.verified⟩, ?_, ?_, ?_⟩⟩
  · intro other
    by_cases here : other = location
    · subst here
      have versions : (world.store.put other version).landing other =
          version :: world.store.landing other := by simp [Store.put]
      show Keyed ObjectVersion.versionId ((world.store.put other version).landing other)
      rw [versions]
      apply List.nodup_cons.mpr
      refine ⟨fun listed => ?_, consistent.objects.versions other⟩
      obtain ⟨old, member, same⟩ := List.mem_map.mp listed
      exact fresh old member same
    · have versions : (world.store.put location version).landing other =
          world.store.landing other := by simp [Store.put, here]
      show Keyed ObjectVersion.versionId ((world.store.put location version).landing other)
      rw [versions]
      exact consistent.objects.versions other
  · intro other found member
    rcases (mem_put _).mp member with ⟨_, rfl⟩ | older
    · exact isOffered
    · exact consistent.objects.bodies other found older
  · exact registered_same consistent.registered rfl rfl
  · exact executions_same consistent.executions grows consistent.objects rfl
      fun _ _ _ started => started
  · exact gated_same consistent.gated grows rfl rfl

/-- The arrival of an accepted object, which concerns the payment side only. -/
theorem follows_arrive {world : World} (event : PaymentEvent) :
    Follows deployment offered world { world with store := { world.store with
      accepted := world.store.accepted ++ [event] } } := by
  have grows : Grows deployment offered world { world with store := { world.store with
      accepted := world.store.accepted ++ [event] } } :=
    ⟨fun _ _ member => member, List.suffix_refl _, fun _ item held => ⟨item, held, .inr rfl⟩,
      fun _ execution member => ⟨execution, member, rfl, rfl⟩, fun _ _ _ _ found => found⟩
  refine ⟨grows, fun consistent => ⟨?_, ?_, ?_, ?_⟩⟩
  · exact ⟨consistent.objects.versions, consistent.objects.bodies, consistent.objects.verified⟩
  · exact registered_same consistent.registered rfl rfl
  · exact executions_same consistent.executions grows consistent.objects rfl
      fun _ _ _ started => started
  · exact gated_same consistent.gated grows rfl rfl

section Advancing

variable {world next : World} {execution : Execution} {stage : Stage} {base : Store}
variable {state : ExecutionState} {retries : Nat}

/-- A step of the workflow registers nothing and starts nothing; it only records how its own state
ran. -/
theorem advance_journal (advance : Advance deployment.library world next execution stage base state
    retries) : world.journal <:+ next.journal ∧
      registrations next.journal = registrations world.journal ∧
      ∀ delivery name input, .started delivery name input ∈ next.journal →
        .started delivery name input ∈ world.journal := by
  rcases advance.journal with same | ⟨outcome, same⟩
  · rw [same]
    exact ⟨List.suffix_refl _, rfl, fun _ _ _ started => started⟩
  · rw [same]
    refine ⟨List.suffix_cons .., rfl, fun _ _ _ started => ?_⟩
    rcases List.mem_cons.mp started with wrong | earlier
    · cases wrong
    · exact earlier

/-- The records keep what they say of their revisions; the last state changes the status at
most. -/
theorem record_identity {input : WorkflowInput} {before after : Store} {businessDate : Str}
    (kept : RecordKept stage input before after businessDate) :
    (after.publications businessDate).map Publication.identity =
      (before.publications businessDate).map Publication.identity := by
  rcases kept with same | ⟨_, _, item, held, _, _, published⟩
  · rw [same]
  · rw [held, published]
    rfl

/-- A step of the workflow takes nothing back: it writes no object, the journal grows at most by
its entry, the record of a date keeps its identity, and its execution keeps name and input. -/
theorem advance_grows (advance : Advance deployment.library world next execution stage base state
    retries) (inside : execution ∈ world.store.executions) :
    Grows deployment offered world next := by
  obtain ⟨suffix, _, _⟩ := advance_journal advance
  have framed := advance.framed
  refine ⟨?_, suffix, ?_, ?_, ?_⟩
  · intro location version member
    rw [advance.store]
    show version ∈ base.landing location
    rw [framed.landing]
    exact member
  · intro businessDate item held
    have kept := record_identity (framed.records businessDate)
    rw [held, Option.map_some] at kept
    obtain ⟨later, found, same⟩ := Option.map_eq_some_iff.mp kept
    rw [advance.store]
    exact ⟨later, found, .inr same.symm⟩
  · intro named other member
    rw [advance.store]
    by_cases same : other.name = execution.name
    · have only := named.unique member inside same
      subst only
      refine ⟨_, mem_update.mpr (.inl ⟨rfl, other, ?_, rfl⟩), rfl, rfl⟩
      rw [framed.executions]
      exact member
    · refine ⟨other, mem_update.mpr (.inr ⟨?_, same⟩), rfl, rfl⟩
      rw [framed.executions]
      exact member
  · intro _ _ key body found
    rw [advance.store]
    show base.verified key = some body
    rw [framed.verified]
    exact found

/-- The executions after an advance: the advanced one, and the others as they were. -/
theorem mem_advanced (advance : Advance deployment.library world next execution stage base state
    retries) {other : Execution} (member : other ∈ next.store.executions) :
    other = { execution with state, retries } ∨
      other ∈ world.store.executions ∧ other.name ≠ execution.name := by
  rw [advance.store] at member
  rcases mem_update.mp member with ⟨same, _⟩ | ⟨old, differs⟩
  · exact .inl same
  · exact .inr ⟨advance.framed.executions ▸ old, differs⟩

/-- An advanced execution has completed every state before the one it is in. -/
theorem advance_progress (advance : Advance deployment.library world next execution stage base
    state retries) (grows : Grows deployment offered world next)
    (before : CompletedBefore deployment.library execution.input stage world) {further : Stage}
    (running : state = .running further) :
    CompletedBefore deployment.library execution.input further next := by
  intro earlier lower
  rcases advance.further further running with rfl | ⟨follows, passed, ran⟩
  · exact grows.completed (before earlier lower)
  · rw [next_position follows] at lower
    rcases Nat.lt_or_eq_of_le (Nat.le_of_lt_succ lower) with earlierStill | here
    · exact grows.completed (before earlier earlierStill)
    · rw [position_injective here]
      exact ⟨world.store, ran, passed⟩

/-- After a step the executions still go through the states in order, and still only the last
state has published.

Proof: an execution moves on only where its state has completed, and then what it completed before
is joined by that one. The other executions are where they were, and what they completed stays
completed. -/
theorem advance_gated (advance : Advance deployment.library world next execution stage base state
    retries) (grows : Grows deployment offered world next)
    (named : Keyed Execution.name world.store.executions)
    (inside : execution ∈ world.store.executions) (running : execution.state = .running stage)
    (gated : Gated deployment.library world) : Gated deployment.library next := by
  have progress := gated.progress execution inside stage running
  constructor
  · intro other member further continues
    rcases mem_advanced advance member with rfl | ⟨old, _⟩
    · exact advance_progress advance grows progress continues
    · exact fun earlier lower => grows.completed (gated.progress other old further continues earlier
        lower)
  · intro businessDate item held status
    have publications : next.store.publications businessDate = base.publications businessDate := by
      rw [advance.store]
      rfl
    rw [publications] at held
    rcases advance.framed.records businessDate with same | ⟨rfl, rfl, old, _, revision, sha256, new⟩
    · rw [same] at held
      obtain ⟨other, member, date, revision, sha256, completed⟩ :=
        gated.reconciled businessDate item held status
      obtain ⟨later, present, _, input⟩ := grows.executions named other member
      refine ⟨later, present, input ▸ date, input ▸ revision, input ▸ sha256, ?_⟩
      rw [input]
      exact fun earlier lower => grows.completed (completed earlier lower)
    · rw [new, Option.some.injEq] at held
      subst held
      obtain ⟨later, present, _, input⟩ := grows.executions named execution inside
      refine ⟨later, present, congrArg _ input, ?_, ?_, ?_⟩
      · rw [input]
        exact revision.symm
      · rw [input]
        exact sha256.symm
      · rw [input]
        exact fun earlier lower => grows.completed (progress earlier lower)

end Advancing

/-- An execution advances, by its job or without it.

Proof: one part for each field of the invariant, with the frame of the job for what it leaves
alone. -/
theorem follows_advance {world next : World} {name : Str} {outcome : Outcome}
    (moved : world.move deployment.library (.advance name outcome) = some next) :
    Follows deployment offered world next := by
  obtain ⟨execution, stage, advanced⟩ := move_advance moved
  obtain ⟨base, state, retries, advance⟩ := advanced_leaves advanced
  obtain ⟨inside, _⟩ := execution_found advanced.found
  have grows := @advance_grows deployment offered _ _ _ _ _ _ _ advance inside
  obtain ⟨_, sameRegistrations, sameStarted⟩ := advance_journal advance
  refine ⟨grows, fun consistent => ⟨?_, ?_, ?_, ?_⟩⟩
  · have objects := consistent.objects
    rw [advance.store]
    constructor
    · intro location
      show Keyed ObjectVersion.versionId (base.landing location)
      rw [advance.framed.landing]
      exact objects.versions location
    · intro location version member
      have old : version ∈ base.landing location := member
      rw [advance.framed.landing] at old
      exact objects.bodies location version old
    · intro key body held
      have old : base.verified key = some body := held
      rw [advance.framed.verified] at old
      exact objects.verified key body old
  · have registered := consistent.registered
    constructor
    · rw [sameRegistrations]
      exact registered.increasing
    · intro businessDate
      rw [sameRegistrations, advance.store]
      exact (record_identity (advance.framed.records businessDate)).trans
        (registered.current businessDate)
    · rw [sameRegistrations]
      exact registered.grounded
  · have executions := consistent.executions
    constructor
    · rw [advance.store, Keyed, update_names, advance.framed.executions]
      exact executions.named
    · intro other member
      rcases mem_advanced advance member with rfl | ⟨old, _⟩
      · obtain ⟨delivery, started⟩ := executions.started execution inside
        exact ⟨delivery, grows.entry started⟩
      · obtain ⟨delivery, started⟩ := executions.started other old
        exact ⟨delivery, grows.entry started⟩
    · intro delivery startedName input started
      exact grows.founded consistent.objects
        (executions.founded delivery startedName input (sameStarted _ _ _ started))
  · exact advance_gated advance grows consistent.executions.named inside advanced.running
      consistent.gated

/-- Every move of the environment follows the protocol: deliveries, arrivals and advances. -/
theorem follows_move {policy : Policy} {world next : World} {move : Move}
    (allowed : policy.Allows world move) (moved : world.move deployment.library move = some next) :
    Follows deployment policy.offered world next := by
  cases move with
  | put location version =>
    by_cases fresh : ∀ other ∈ world.store.landing location, other.versionId ≠ version.versionId
    · simp only [World.move, if_pos fresh, Option.some.injEq] at moved
      exact moved ▸ follows_put allowed.2 fresh
    · simp only [World.move, if_neg fresh, reduceCtorEq] at moved
  | arrive event =>
    cases moved
    exact follows_arrive event
  | advance name outcome => exact follows_advance moved

end LedgerFlow.Settlement
