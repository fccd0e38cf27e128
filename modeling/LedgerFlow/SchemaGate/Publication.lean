import LedgerFlow.SchemaGate.Handler

/-!
# The publication protocol of the identity gate

Reserving an identity, writing its accepted object and marking it published are three
calls, and any number of invocations make them at once. `Consistent` is the invariant
of the cloud: every item, every accepted object and every published status comes from
a payload that some invocation was given. `Follows` is what any call of any invocation
does to the cloud; it is both the rely and the guarantee of every invocation.

The invariant says nothing of digests. That all accepted objects of an event lie under
one key follows at the end, where equal fingerprints mean equal identity texts.
-/

namespace LedgerFlow.SchemaGate

open PyText PyJson Programs Programs.Program

variable {deployment : Deployment} {offered : List Record → Prop}

/-! ## What invocations are given -/

/-- The record's business payload is contract-valid and reads as this event. -/
def Submits (deployment : Deployment) (record : Record) (payload : Fields)
    (event : PaymentEvent) : Prop :=
  ∃ raw, record.decoded = some (.obj raw) ∧ extractBusinessPayload raw = .ok payload ∧
    validateEvent deployment.runtime deployment.registry deployment.tokenKey payload = .ok event

/-- A record of an offered batch submits the payload. -/
def Offers (deployment : Deployment) (offered : List Record → Prop) (payload : Fields)
    (event : PaymentEvent) : Prop :=
  ∃ batch, offered batch ∧ ∃ record ∈ batch, Submits deployment record payload event

/-- The accepted object of an event. -/
def acceptedObject (event : PaymentEvent) : StoredObject :=
  ⟨.accepted, acceptedKey event, event.safeDict⟩

/-! ## Assertions about the cloud -/

/-- The event is registered under this fingerprint. -/
def RegisteredUnder (eventId : Identifier) (fingerprint : AsciiText) (cloud : Cloud) : Prop :=
  ∃ item, cloud.identities eventId = some item ∧ item.identitySha256 = fingerprint

/-- The event is published under this fingerprint. -/
def PublishedUnder (eventId : Identifier) (fingerprint : AsciiText) (cloud : Cloud) : Prop :=
  ∃ item, cloud.identities eventId = some item ∧ item.identitySha256 = fingerprint ∧
    item.publicationStatus = .published

/-- The object was written. -/
def Stored (object : StoredObject) (cloud : Cloud) : Prop := object ∈ cloud.objects

/-- The accepted object comes from this payload, whose fingerprint is registered. -/
structure WrittenFrom (deployment : Deployment) (offered : List Record → Prop)
    (object : StoredObject) (payload : Fields) (event : PaymentEvent) (cloud : Cloud) :
    Prop where
  offers : Offers deployment offered payload event
  written : object = acceptedObject event
  registered :
    RegisteredUnder event.eventId (identityFingerprint deployment.runtime payload) cloud

/-- Every item, accepted object and published status comes from an offered payload. -/
structure Consistent (deployment : Deployment) (offered : List Record → Prop) (cloud : Cloud) :
    Prop where
  registered : ∀ eventId item, cloud.identities eventId = some item →
    ∃ payload event, Offers deployment offered payload event ∧ event.eventId = eventId ∧
      item.identitySha256 = identityFingerprint deployment.runtime payload ∧
      item.acceptedKey = acceptedKey event
  accepted : ∀ object ∈ cloud.objects, object.bucket = .accepted →
    ∃ payload event, WrittenFrom deployment offered object payload event cloud
  published : ∀ eventId fingerprint, PublishedUnder eventId fingerprint cloud →
    ∃ payload event, Offers deployment offered payload event ∧ event.eventId = eventId ∧
      fingerprint = identityFingerprint deployment.runtime payload ∧
      Stored (acceptedObject event) cloud

/-- The item differs from an earlier one at most by having been published. -/
def IdentityItem.Continues (later item : IdentityItem) : Prop :=
  later = { item with publicationStatus := later.publicationStatus } ∧
    (item.publicationStatus = .published → later.publicationStatus = .published)

/-- What any call of any invocation does to the cloud. -/
structure Follows (deployment : Deployment) (offered : List Record → Prop)
    (before after : Cloud) : Prop where
  kept : ∀ eventId item, before.identities eventId = some item →
    ∃ later, after.identities eventId = some later ∧ later.Continues item
  grows : ∀ object ∈ before.objects, object ∈ after.objects
  consistent : Consistent deployment offered before → Consistent deployment offered after

/-! ## Stable assertions -/

/-- A registered event stays registered under its fingerprint: the reservation is conditional on
there being none, and the update on its being this one. -/
theorem registered_stable (eventId : Identifier) (fingerprint : AsciiText) :
    Stable (Follows deployment offered) (RegisteredUnder eventId fingerprint) := by
  rintro before after follows ⟨item, held, same⟩
  obtain ⟨later, found, continues, _⟩ := follows.kept eventId item held
  refine ⟨later, found, ?_⟩
  rw [continues]
  exact same

/-- A published event stays published under its fingerprint, since the status is only ever set to
published. -/
theorem published_stable (eventId : Identifier) (fingerprint : AsciiText) :
    Stable (Follows deployment offered) (PublishedUnder eventId fingerprint) := by
  rintro before after follows ⟨item, held, same, published⟩
  obtain ⟨later, found, continues, still⟩ := follows.kept eventId item held
  refine ⟨later, found, ?_, still published⟩
  rw [continues]
  exact same

/-- A written object stays written, in the log of all writes; that its key may be written again is
another matter. -/
theorem stored_stable (object : StoredObject) :
    Stable (Follows deployment offered) (Stored object) :=
  fun _ _ follows stored => follows.grows object stored

/-- Consistency of the cloud is kept by every step that follows the protocol. -/
theorem consistent_stable :
    Stable (Follows deployment offered) (Consistent deployment offered) :=
  fun _ _ follows consistent => follows.consistent consistent

/-- The assertion that says nothing is stable under any environment. -/
theorem stable_true {World : Type} {rely : World → World → Prop} :
    Stable rely (fun _ => True) := fun _ _ _ _ => trivial

/-! ## What the calls do -/

/-- A cloud follows itself, so a call without an effect follows the protocol. -/
theorem Follows.refl (cloud : Cloud) : Follows deployment offered cloud cloud where
  kept := fun _ item held => ⟨item, held, rfl, id⟩
  grows := fun _ stored => stored
  consistent := id

/-- Storing an object follows the protocol; an accepted object must come from a payload
whose fingerprint is registered. -/
theorem follows_put {cloud : Cloud} {object : StoredObject}
    (allowed : object.bucket = .accepted →
      ∃ payload event, WrittenFrom deployment offered object payload event cloud) :
    Follows deployment offered cloud (cloud.put object) where
  kept := fun _ item held => ⟨item, held, rfl, id⟩
  grows := fun _ stored => List.mem_cons_of_mem object stored
  consistent := by
    intro consistent
    constructor
    · exact consistent.registered
    · intro other stored accepted
      rcases List.mem_cons.mp stored with rfl | earlier
      · obtain ⟨payload, event, source⟩ := allowed accepted
        exact ⟨payload, event, source.offers, source.written, source.registered⟩
      · obtain ⟨payload, event, source⟩ := consistent.accepted other earlier accepted
        exact ⟨payload, event, source.offers, source.written, source.registered⟩
    · intro eventId fingerprint published
      obtain ⟨payload, event, offers, same, digest, stored⟩ :=
        consistent.published eventId fingerprint published
      exact ⟨payload, event, offers, same, digest, List.mem_cons_of_mem object stored⟩

/-- Changing or adding one item follows the protocol if the new item continues the old
one, comes from an offered payload, and is published only with its object stored. -/
theorem follows_register {cloud : Cloud} {eventId : Identifier} {item : IdentityItem}
    (continues : ∀ old, cloud.identities eventId = some old → item.Continues old)
    (registered : Consistent deployment offered cloud →
      ∃ payload event, Offers deployment offered payload event ∧ event.eventId = eventId ∧
        item.identitySha256 = identityFingerprint deployment.runtime payload ∧
        item.acceptedKey = acceptedKey event)
    (published : item.publicationStatus = .published →
      ∃ payload event, Offers deployment offered payload event ∧ event.eventId = eventId ∧
        item.identitySha256 = identityFingerprint deployment.runtime payload ∧
        Stored (acceptedObject event) cloud) :
    Follows deployment offered cloud (cloud.register eventId item) := by
  have kept (other : Identifier) (old : IdentityItem) (held : cloud.identities other = some old) :
      ∃ later, (cloud.register eventId item).identities other = some later ∧
        later.Continues old := by
    by_cases same : other = eventId
    · subst same
      exact ⟨item, register_same cloud other item, continues old held⟩
    · rw [register_other cloud item same]
      exact ⟨old, held, rfl, id⟩
  refine ⟨kept, fun _ stored => stored, fun consistent => ⟨?_, ?_, ?_⟩⟩
  · intro other found held
    by_cases same : other = eventId
    · subst same
      rw [register_same, Option.some.injEq] at held
      exact held ▸ registered consistent
    · rw [register_other cloud item same] at held
      exact consistent.registered other found held
  · intro object stored accepted
    obtain ⟨payload, event, offers, written, old, held, digest⟩ :=
      consistent.accepted object stored accepted
    obtain ⟨later, found, continued, _⟩ := kept event.eventId old held
    refine ⟨payload, event, offers, written, later, found, ?_⟩
    rw [continued]
    exact digest
  · rintro other fingerprint ⟨found, held, digest, status⟩
    by_cases same : other = eventId
    · subst same
      rw [register_same, Option.some.injEq] at held
      subst held
      obtain ⟨payload, event, offers, named, print, stored⟩ := published status
      exact ⟨payload, event, offers, named, digest ▸ print, stored⟩
    · rw [register_other cloud item same] at held
      exact consistent.published other fingerprint ⟨found, held, digest, status⟩

/-! ## What the program ensures -/

/-- The event was published under its own fingerprint, or quarantined as a conflict. -/
def Concluded (deployment : Deployment) (payload : Fields) (event : PaymentEvent)
    (cloud : Cloud) : Prop :=
  PublishedUnder event.eventId (identityFingerprint deployment.runtime payload) cloud ∨
    Stored (conflictObject event) cloud

/-- What was concluded stays concluded, by a publication or by a conflict in quarantine. -/
theorem concluded_stable (payload : Fields) (event : PaymentEvent) :
    Stable (Follows deployment offered) (Concluded deployment payload event) := by
  rintro before after follows (published | quarantined)
  · exact .inl (published_stable _ _ _ _ follows published)
  · exact .inr (stored_stable _ _ _ follows quarantined)

/-- The handler's programs under the protocol. -/
abbrev Ensures {α : Type} (deployment : Deployment) (offered : List Record → Prop)
    (program : Lambda α) (pre : Cloud → Prop) (good : α → Cloud → Prop) : Prop :=
  program.run.Meets (cloudEffect deployment) (Follows deployment offered)
    (Follows deployment offered) pre (Fallible.Ends good fun _ => True)

/-- A call that only reads, or fails its condition, changes nothing; what its reply tells must be
stable to be relied on. -/
theorem ensures_read {call : CloudCall} {pre : Cloud → Prop} {good : call.Rows → Cloud → Prop}
    (reads : ∀ clock cloud, (perform deployment clock call cloud).2 = cloud)
    (returned : ∀ clock cloud rows, pre cloud →
      (perform deployment clock call cloud).1 = .ok rows → good rows cloud)
    (stable : ∀ rows, Stable (Follows deployment offered) (good rows)) :
    Ensures deployment offered (invoke call) pre good := by
  refine meets_lossy (fun clock cloud _ => ?_) (fun clock cloud rows holds same => ?_)
    (fun cloud _ => ⟨Follows.refl cloud, trivial⟩) stable stable_true
  · rw [reads clock cloud]
    exact ⟨Follows.refl cloud, trivial⟩
  · rw [reads clock cloud]
    exact returned clock cloud rows holds same

/-- Storing an object follows the protocol where it is not an accepted one, or one written from an
offered record that is registered. -/
theorem ensures_put {object : StoredObject} {pre : Cloud → Prop}
    (allowed : ∀ cloud, pre cloud → object.bucket = .accepted →
      ∃ payload event, WrittenFrom deployment offered object payload event cloud) :
    Ensures deployment offered (putObject object) pre (fun _ => Stored object) := by
  refine meets_lossy (fun clock cloud holds => ⟨follows_put (allowed cloud holds), trivial⟩)
    (fun clock cloud _ _ _ => ?_) (fun cloud _ => ⟨Follows.refl cloud, trivial⟩)
    (fun _ => stored_stable object) stable_true
  exact List.mem_cons_self

section Publishing

variable {payload : Fields} {event : PaymentEvent}

/-- Reserving an identity registers the event's own fingerprint, if no other call has registered
one before. -/
theorem ensures_reserve (offers : Offers deployment offered payload event)
    (arrival : PyDateTime.Timestamp) :
    Ensures deployment offered
      (putItem event.eventId
        (reservation event (identityFingerprint deployment.runtime payload) arrival))
      (fun _ => True)
      (fun _ => RegisteredUnder event.eventId
        (identityFingerprint deployment.runtime payload)) := by
  refine meets_lossy (fun clock cloud _ => ?_) (fun clock cloud rows _ returned => ?_)
    (fun cloud _ => ⟨Follows.refl cloud, trivial⟩)
    (fun _ => registered_stable _ _) stable_true
  · cases held : cloud.identities event.eventId with
    | some item =>
      simp only [perform, held]
      exact ⟨Follows.refl cloud, trivial⟩
    | none =>
      simp only [perform, held]
      refine ⟨follows_register (by simp [held])
        (fun _ => ⟨payload, event, offers, rfl, rfl, rfl⟩) ?_, trivial⟩
      intro published
      cases published
  · cases held : cloud.identities event.eventId with
    | some item =>
      simp only [perform, held] at returned
      cases returned
    | none =>
      simp only [perform, held]
      exact ⟨_, register_same _ _ _, rfl⟩

/-- Publishing an identity whose accepted object is stored leaves it published under this
fingerprint. The condition of the update makes this safe whatever was registered in between. -/
theorem ensures_publish (offers : Offers deployment offered payload event) :
    Ensures deployment offered
      (updateItem event.eventId .published (identityFingerprint deployment.runtime payload))
      (Stored (acceptedObject event))
      (fun _ => PublishedUnder event.eventId
        (identityFingerprint deployment.runtime payload)) := by
  refine meets_lossy (fun clock cloud stored => ?_) (fun clock cloud rows _ returned => ?_)
    (fun cloud _ => ⟨Follows.refl cloud, trivial⟩)
    (fun _ => published_stable _ _) stable_true
  · cases held : cloud.identities event.eventId with
    | none =>
      simp only [perform, held]
      exact ⟨Follows.refl cloud, trivial⟩
    | some item =>
      by_cases same : item.identitySha256 = identityFingerprint deployment.runtime payload
      · simp only [perform, held, same, ↓reduceIte]
        refine ⟨follows_register ?_ ?_ ?_, trivial⟩
        · intro old found
          rw [held, Option.some.injEq] at found
          subst found
          exact ⟨by rw [← same], fun _ => rfl⟩
        · intro consistent
          obtain ⟨other, source, otherOffers, named, print, keyed⟩ :=
            consistent.registered event.eventId item held
          exact ⟨other, source, otherOffers, named, same ▸ print, keyed⟩
        · exact fun _ => ⟨payload, event, offers, rfl, rfl, stored⟩
      · simp only [perform, held, same, ↓reduceIte]
        exact ⟨Follows.refl cloud, trivial⟩
  · cases held : cloud.identities event.eventId with
    | none =>
      simp only [perform, held] at returned
      cases returned
    | some item =>
      by_cases same : item.identitySha256 = identityFingerprint deployment.runtime payload
      · simp only [perform, held, same, ↓reduceIte]
        exact ⟨_, register_same _ _ _, rfl, rfl⟩
      · simp only [perform, held, same, ↓reduceIte] at returned
        cases returned

/-- The `except` branch goes on only where the event's own fingerprint is registered,
and otherwise concludes. -/
theorem ensures_recheck (error : PyError) :
    Ensures deployment offered
      (recheckIdentity event (identityFingerprint deployment.runtime payload) error)
      (fun _ => True)
      (fun pending cloud =>
        if pending then
          RegisteredUnder event.eventId (identityFingerprint deployment.runtime payload) cloud
        else Concluded deployment payload event cloud) := by
  let fingerprint := identityFingerprint deployment.runtime payload
  apply Fallible.meets_except_bind fun _ _ => trivial
  intro _ _
  apply Fallible.meets_bind fun (found : Option IdentityItem) cloud =>
    ∀ item, found = some item → RegisteredUnder event.eventId item.identitySha256 cloud ∧
      (item.publicationStatus = .published →
        PublishedUnder event.eventId item.identitySha256 cloud)
  · refine ensures_read (fun _ _ => rfl) ?_ ?_
    · intro _ cloud rows _ returned item same
      cases returned
      exact ⟨⟨item, same, rfl⟩, fun published => ⟨item, same, rfl, published⟩⟩
    · intro rows before after follows holds item same
      obtain ⟨registered, published⟩ := holds item same
      exact ⟨registered_stable _ _ _ _ follows registered,
        fun status => published_stable _ _ _ _ follows (published status)⟩
  intro found
  cases found with
  | none => exact Fallible.meets_throw fun _ _ => trivial
  | some existing =>
    by_cases differs : existing.identitySha256 = fingerprint
    · simp only [fingerprint] at differs
      simp only [ne_eq, differs, not_true_eq_false, ↓reduceIte]
      apply Fallible.meets_pure
      intro cloud holds
      obtain ⟨registered, published⟩ := holds existing rfl
      rw [differs] at registered published
      by_cases status : existing.publicationStatus = .published
      · simp only [status, not_true_eq_false, decide_false, Bool.false_eq_true, ↓reduceIte]
        exact .inl (published status)
      · simp only [status, not_false_eq_true, decide_true, ↓reduceIte]
        exact registered
    · simp only [fingerprint] at differs
      simp only [ne_eq, differs, not_false_eq_true, ↓reduceIte]
      apply Fallible.meets_bind (fun _ => Stored (conflictObject event))
      · exact ensures_put fun _ _ accepted => by cases accepted
      · exact fun _ => Fallible.meets_pure fun _ stored => .inr stored

/-- Publishing concludes: a normal return leaves the event published under its own
fingerprint or quarantined. -/
theorem ensures_publish_accepted (offers : Offers deployment offered payload event)
    (arrival : PyDateTime.Timestamp) :
    Ensures deployment offered
      (publishAccepted event (identityFingerprint deployment.runtime payload) arrival)
      (fun _ => True) (fun _ => Concluded deployment payload event) := by
  apply Fallible.meets_bind fun (pending : Bool) cloud =>
    if pending then
      RegisteredUnder event.eventId (identityFingerprint deployment.runtime payload) cloud
    else Concluded deployment payload event cloud
  · apply Fallible.meets_try_catch (fun _ => True)
    · apply Fallible.meets_bind
      · exact ensures_reserve offers arrival
      · exact fun _ => Fallible.meets_pure fun _ registered => registered
    · exact ensures_recheck
  intro pending
  cases pending with
  | false => exact Fallible.meets_pure fun _ concluded => concluded
  | true =>
    simp only [↓reduceIte]
    apply Fallible.meets_bind (fun _ => Stored (acceptedObject event))
    · exact ensures_put fun _ registered _ => ⟨payload, event, offers, rfl, registered⟩
    · intro _
      refine (ensures_publish offers).weaken (fun _ stored => stored) ?_
      intro outcome _ holds
      cases outcome with
      | ok _ => exact .inl holds
      | error _ => trivial

end Publishing

/-! ## Records and batches -/

/-- The record is listed as failed, was quarantined, or its event is published under
its own fingerprint. -/
def Settled (deployment : Deployment) (record : Record) (failures : List Str)
    (cloud : Cloud) : Prop :=
  record.id ∈ failures ∨
    (∃ reason, Stored (contractObject deployment.runtime record reason) cloud) ∨
    ∃ payload event, Submits deployment record payload event ∧
      Concluded deployment payload event cloud

/-- A settled record stays settled: neither a publication nor an object in quarantine is taken
back. -/
theorem settled_stable (record : Record) (failures : List Str) :
    Stable (Follows deployment offered) (Settled deployment record failures) := by
  rintro before after follows (listed | ⟨reason, stored⟩ | ⟨payload, event, submits, concluded⟩)
  · exact .inl listed
  · exact .inr (.inl ⟨reason, stored_stable _ _ _ follows stored⟩)
  · exact .inr (.inr ⟨payload, event, submits, concluded_stable _ _ _ _ follows concluded⟩)

/-- Listing more failures settles no fewer records, as a listed record counts as settled. -/
theorem settled_mono {record : Record} {failures more : List Str} {cloud : Cloud}
    (grows : ∀ name ∈ failures, name ∈ more) (settled : Settled deployment record failures cloud) :
    Settled deployment record more cloud := by
  rcases settled with listed | rest
  · exact .inl (grows _ listed)
  · exact .inr rest

/-- A record handled without an error is settled: published under its own fingerprint, or
quarantined as a conflict. -/
theorem ensures_handle_record {batch : List Record} (isOffered : offered batch) {record : Record}
    (member : record ∈ batch) :
    Ensures deployment offered
      (handleRecord deployment.runtime deployment.registry deployment.tokenKey record)
      (fun _ => True) (fun _ => Settled deployment record []) := by
  unfold handleRecord
  cases decoded : record.decoded with
  | none => exact Fallible.meets_throw fun _ _ => trivial
  | some value =>
    cases value with
    | obj raw =>
      apply Fallible.meets_bind (fun _ _ => True)
      · exact ensures_read (fun _ _ => rfl) (fun _ _ _ _ _ => trivial) fun _ => stable_true
      intro arrival
      apply Fallible.meets_except_bind fun _ _ => trivial
      intro payload extracted
      apply Fallible.meets_except_bind fun _ _ => trivial
      intro _ _
      apply Fallible.meets_bind (fun _ _ => True)
      · refine (ensures_put fun _ _ accepted => by cases accepted).weaken (fun _ holds => holds) ?_
        intro outcome _ _
        cases outcome <;> trivial
      intro _
      apply Fallible.meets_except_bind fun _ _ => trivial
      intro event validated
      have submits : Submits deployment record payload event :=
        ⟨raw, decoded, extracted, validated⟩
      refine (ensures_publish_accepted ⟨batch, isOffered, record, member, submits⟩ arrival).weaken
        (fun _ holds => holds) ?_
      intro outcome _ concluded
      cases outcome with
      | ok _ => exact .inr (.inr ⟨payload, event, submits, concluded⟩)
      | error _ => trivial
    | _ => exact Fallible.meets_throw fun _ _ => trivial

/-- These records are settled. -/
def AllSettled (deployment : Deployment) (records : List Record) (failures : List Str)
    (cloud : Cloud) : Prop :=
  ∀ record ∈ records, Settled deployment record failures cloud

/-- A batch of settled records stays settled. -/
theorem all_settled_stable (records : List Record) (failures : List Str) :
    Stable (Follows deployment offered) (AllSettled deployment records failures) :=
  fun _ _ follows settled record member =>
    settled_stable record failures _ _ follows (settled record member)

/-- One more settled record, with the failures listed since: the step of the loop over a batch. -/
theorem all_settled_snoc {records : List Record} {record : Record} {failures more : List Str}
    {cloud : Cloud} (settled : AllSettled deployment records failures cloud)
    (grows : ∀ name ∈ failures, name ∈ more) (last : Settled deployment record more cloud) :
    AllSettled deployment (records ++ [record]) more cloud := by
  intro other member
  rcases List.mem_append.mp member with earlier | here
  · exact settled_mono grows (settled other earlier)
  · rw [List.mem_singleton.mp here]
    exact last

/-- The `except` clauses settle the record that raised. A contract error quarantines it, and any
other error lists it as failed. -/
theorem ensures_handle_error (settled : List Record) (record : Record) (failures : List Str)
    (error : PyError) :
    Ensures deployment offered (handleError deployment.runtime record failures error)
      (AllSettled deployment settled failures)
      (AllSettled deployment (settled ++ [record])) := by
  cases error with
  | contract reason =>
    apply Fallible.meets_except_bind fun _ _ => trivial
    intro event redacted
    obtain ⟨_, rfl⟩ := redact_payload_ok.mp redacted
    let object := contractObject deployment.runtime record reason
    have quarantines : Ensures deployment offered (putObject object) (fun _ => True)
        (fun _ => Stored object) := ensures_put fun _ _ accepted => by cases accepted
    have kept : Stable (Follows deployment offered) (AllSettled deployment settled failures) :=
      all_settled_stable settled failures
    apply Fallible.meets_bind fun _ cloud =>
      Stored object cloud ∧ AllSettled deployment settled failures cloud
    · refine (Fallible.meets_frame quarantines kept kept).weaken
        (fun _ holds => ⟨trivial, holds⟩) ?_
      intro outcome _ holds
      cases outcome with
      | ok _ => exact holds
      | error _ => trivial
    · exact fun _ => Fallible.meets_pure fun _ holds =>
        all_settled_snoc holds.2 (fun _ listed => listed) (.inr (.inl ⟨reason, holds.1⟩))
  | _ =>
    exact Fallible.meets_pure fun _ holds => all_settled_snoc holds
      (fun _ listed => List.mem_append_left _ listed) (.inl (by simp))

/-- The loop settles its records, and keeps those settled before it settled.

The induction is on the records still to handle. A record that raises is settled by
the `except` clauses: a contract error stores its quarantine object, any other error
lists it. -/
theorem ensures_handle_records {batch : List Record} (isOffered : offered batch)
    (records : List Record) (inside : ∀ record ∈ records, record ∈ batch)
    (settled : List Record) (failures : List Str) :
    Ensures deployment offered
      (handleRecords deployment.runtime deployment.registry deployment.tokenKey records failures)
      (AllSettled deployment settled failures)
      (AllSettled deployment (settled ++ records)) := by
  induction records generalizing settled failures with
  | nil => exact Fallible.meets_pure fun cloud holds => by simpa using holds
  | cons record rest inductionHypothesis =>
    have kept : Stable (Follows deployment offered) (AllSettled deployment settled failures) :=
      all_settled_stable settled failures
    apply Fallible.meets_bind (AllSettled deployment (settled ++ [record]))
    · apply Fallible.meets_try_catch (AllSettled deployment settled failures)
      · apply Fallible.meets_bind fun _ cloud => Settled deployment record [] cloud ∧
          AllSettled deployment settled failures cloud
        · have handled := @ensures_handle_record deployment offered batch isOffered record
            (inside record List.mem_cons_self)
          refine (Fallible.meets_frame handled kept kept).weaken
            (fun _ holds => ⟨trivial, holds⟩) ?_
          intro outcome _ holds
          cases outcome with
          | ok _ => exact holds
          | error _ => exact holds.2
        · exact fun _ => Fallible.meets_pure fun _ holds =>
            all_settled_snoc holds.2 (fun _ listed => listed) (settled_mono (by simp) holds.1)
      · exact ensures_handle_error settled record failures
    · intro listed
      have later := inductionHypothesis (fun other member => inside other
        (List.mem_cons_of_mem record member)) (settled ++ [record]) listed
      simpa using later

/-- A normal return of the handler settles every record of its batch, whatever the other
invocations do meanwhile. -/
theorem ensures_handler {batch : List Record} (isOffered : offered batch) :
    Ensures deployment offered (handler deployment.runtime batch) (fun _ => True)
      (AllSettled deployment batch) := by
  apply Fallible.meets_bind fun (registry : Registry) _ => registry = deployment.registry ∧ True
  · refine ensures_read (fun _ _ => rfl) ?_ fun _ _ _ _ holds => holds
    intro _ _ _ _ returned
    cases returned
    exact ⟨rfl, trivial⟩
  intro registry
  apply Meets.assume
  rintro rfl
  apply Fallible.meets_bind fun (key : List UInt8) _ => key = deployment.tokenKey ∧ True
  · apply Fallible.meets_bind fun (secret : Option Str) _ =>
      secret = some deployment.secret ∧ True
    · refine ensures_read (fun _ _ => rfl) ?_ fun _ _ _ _ holds => holds
      intro _ _ _ _ returned
      cases returned
      exact ⟨rfl, trivial⟩
    · intro secret
      apply Meets.assume
      rintro rfl
      apply Fallible.meets_except_bind fun _ _ => trivial
      exact fun _ _ => Fallible.meets_pure fun _ _ => ⟨rfl, trivial⟩
  intro key
  apply Meets.assume
  rintro rfl
  have loop := @ensures_handle_records deployment offered batch isOffered batch
    (fun _ member => member) [] []
  exact loop.weaken (fun _ _ _ member => by cases member) fun _ _ holds => holds

/-! ## All interleavings -/

/-- Any number of invocations on offered batches, over one cloud. -/
def gateSystem (deployment : Deployment) (offered : List Record → Prop) :
    System (List Record) CloudCall (Answer PyError CloudCall.Rows) (Except PyError (List Str))
      Cloud where
  admits batch _ := offered batch
  program batch := (handler deployment.runtime batch).run
  effect _ := cloudEffect deployment
  environment _ _ := False

/-- The invocations of the gate. -/
abbrev GateThread :=
  Thread (List Record) CloudCall (Answer PyError CloudCall.Rows) (Except PyError (List Str))

/-- The pools of invocations of the gate. -/
abbrev GatePool :=
  Pool (List Record) CloudCall (Answer PyError CloudCall.Rows) (Except PyError (List Str)) Cloud

/-- What a finished invocation ensures. -/
def Concludes (deployment : Deployment) (batch : List Record) :
    Except PyError (List Str) → Cloud → Prop :=
  Fallible.Ends (AllSettled deployment batch) fun _ => True

/-- Every invocation starts from a stable assertion, namely the consistency of the cloud. -/
theorem gate_starts (batch : List Record) (cloud : Cloud)
    (isOffered : (gateSystem deployment offered).admits batch cloud) :
    ∃ assertion : Cloud → Prop, assertion cloud ∧
      Stable (Follows deployment offered) assertion ∧
      ((gateSystem deployment offered).program batch).Meets
        ((gateSystem deployment offered).effect batch) (Follows deployment offered)
        (Follows deployment offered) assertion (Concludes deployment batch) :=
  ⟨fun _ => True, trivial, stable_true, ensures_handler isOffered⟩

/-- The empty cloud is consistent: nothing is registered, and nothing stored. -/
theorem consistent_empty : Consistent deployment offered Cloud.empty where
  registered := by
    intro _ _ held
    cases held
  accepted := by
    intro _ stored
    cases stored
  published := by
    rintro _ _ ⟨_, held, _⟩
    cases held

/-- In a run every thread keeps to the protocol, and the cloud follows it. -/
theorem run_supported {first last : GatePool}
    (run : Relation.ReflTransGen (Pool.Step (gateSystem deployment offered)) first last)
    (supported : Pool.Supported (gateSystem deployment offered) (Follows deployment offered)
      (Follows deployment offered) (Concludes deployment) first) :
    Pool.Supported (gateSystem deployment offered) (Follows deployment offered)
        (Follows deployment offered) (Concludes deployment) last ∧
      Relation.ReflTransGen (Follows deployment offered) first.world last.world := by
  obtain ⟨later, _, moved⟩ := Pool.runs_supported run stable_true trivial
    (fun batch cloud _ => gate_starts batch cloud) (fun _ _ follows => follows)
    (fun _ _ impossible => impossible.elim) supported
  exact ⟨later, moved⟩

/-- A reachable pool is supported and its cloud consistent.

Proof: the general rule for pools of programs, with what one invocation ensures. -/
theorem reachable_consistent {pool : GatePool}
    (reached : Pool.Reachable (gateSystem deployment offered) Cloud.empty pool) :
    Pool.Supported (gateSystem deployment offered) (Follows deployment offered)
        (Follows deployment offered) (Concludes deployment) pool ∧
      Consistent deployment offered pool.world := by
  obtain ⟨supported, moved⟩ := run_supported reached fun _ member => by cases member
  exact ⟨supported, stable_many consistent_stable _ _ moved consistent_empty⟩

/-- The identity texts of the offered payloads. -/
def OfferedText (deployment : Deployment) (offered : List Record → Prop) (text : Str) : Prop :=
  ∃ payload event, Offers deployment offered payload event ∧
    text = identityText deployment.runtime payload

/-- Offered payloads with one fingerprint read as alike events, if no two offered
identity texts collide. -/
theorem same_fingerprint_alike
    (collisionFree : CollisionFree deployment.runtime (OfferedText deployment offered))
    {first second : Fields} {left right : PaymentEvent}
    (firstOffers : Offers deployment offered first left)
    (secondOffers : Offers deployment offered second right)
    (same : identityFingerprint deployment.runtime first =
      identityFingerprint deployment.runtime second) : Alike left right := by
  have texts := collisionFree _ _ ⟨first, left, firstOffers, rfl⟩
    ⟨second, right, secondOffers, rfl⟩ same
  obtain ⟨_, _, _, _, _, _, _, firstValid⟩ := firstOffers
  obtain ⟨_, _, _, _, _, _, _, secondValid⟩ := secondOffers
  exact same_identity_alike (validate_event_ok firstValid) (validate_event_ok secondValid) texts

/-- Alike events have one accepted key, as the key is made of the date and the identifier. -/
theorem alike_accepted_key {first second : PaymentEvent} (alike : Alike first second) :
    acceptedKey first = acceptedKey second := by
  rw [Alike] at alike
  rw [alike]
  rfl

/-- What the protocol guarantees in a pool, and from it to a later pool. -/
structure ProtocolSafe (deployment : Deployment) (offered : List Record → Prop)
    (pool later : GatePool) : Prop where
  /-- A stored fingerprint never changes. -/
  fingerprintKept : ∀ eventId item, pool.world.identities eventId = some item →
    ∃ kept, later.world.identities eventId = some kept ∧
      kept.identitySha256 = item.identitySha256
  /-- Every accepted object comes from a payload with the registered fingerprint and
  lies under the registered key. -/
  acceptedRegistered : ∀ object ∈ pool.world.objects, object.bucket = .accepted →
    ∃ payload event item, Offers deployment offered payload event ∧
      object = acceptedObject event ∧ pool.world.identities event.eventId = some item ∧
      item.identitySha256 = identityFingerprint deployment.runtime payload ∧
      object.key = item.acceptedKey
  /-- Accepted objects of one event lie under one key and agree but for the receipt. -/
  acceptedAlike : ∀ object ∈ pool.world.objects, object.bucket = .accepted →
    ∀ other ∈ pool.world.objects, other.bucket = .accepted →
    ∃ event otherEvent, object = acceptedObject event ∧ other = acceptedObject otherEvent ∧
      (event.eventId = otherEvent.eventId →
        object.key = other.key ∧ Alike event otherEvent)
  /-- A published event's accepted object exists. -/
  publishedStored : ∀ eventId item, pool.world.identities eventId = some item →
    item.publicationStatus = .published →
    ∃ object ∈ pool.world.objects, object.bucket = .accepted ∧ object.key = item.acceptedKey ∧
      ∃ event, event.eventId = eventId ∧ object = acceptedObject event
  /-- A normal return settles every record. -/
  returnSettles : ∀ batch failures, ⟨batch, .done (.ok failures)⟩ ∈ pool.threads →
    ∀ record ∈ batch, Settled deployment record failures pool.world

/-- The publication protocol is safe and loses nothing: for any batches offered to any
number of invocations, in every pool that any interleaving of their calls reaches, with
crashes and errors after any of them. SHA-256 may not collide on the offered identity
texts. -/
theorem publication_protocol_safe
    (collisionFree : CollisionFree deployment.runtime (OfferedText deployment offered))
    {pool later : GatePool}
    (reached : Pool.Reachable (gateSystem deployment offered) Cloud.empty pool)
    (run : Relation.ReflTransGen (Pool.Step (gateSystem deployment offered)) pool later) :
    ProtocolSafe deployment offered pool later := by
  obtain ⟨supported, consistent⟩ := reachable_consistent reached
  constructor
  · intro eventId item held
    obtain ⟨_, moved⟩ := run_supported run supported
    obtain ⟨kept, found, same⟩ := stable_many (registered_stable eventId item.identitySha256)
      _ _ moved ⟨item, held, rfl⟩
    exact ⟨kept, found, same⟩
  · intro object stored accepted
    obtain ⟨payload, event, offers, rfl, item, held, digest⟩ :=
      consistent.accepted object stored accepted
    obtain ⟨source, other, otherOffers, named, print, keyed⟩ :=
      consistent.registered event.eventId item held
    have alike := same_fingerprint_alike collisionFree offers otherOffers
      (digest.symm.trans print)
    exact ⟨payload, event, item, offers, rfl, held, digest,
      (alike_accepted_key alike).trans keyed.symm⟩
  · intro object stored accepted other otherStored otherAccepted
    obtain ⟨payload, event, offers, rfl, item, held, digest⟩ :=
      consistent.accepted object stored accepted
    obtain ⟨source, otherEvent, otherOffers, rfl, otherItem, otherHeld, otherDigest⟩ :=
      consistent.accepted other otherStored otherAccepted
    refine ⟨event, otherEvent, rfl, rfl, fun same => ?_⟩
    rw [same, otherHeld, Option.some.injEq] at held
    subst held
    have alike := same_fingerprint_alike collisionFree offers otherOffers
      (digest.symm.trans otherDigest)
    exact ⟨alike_accepted_key alike, alike⟩
  · intro eventId item held published
    obtain ⟨payload, event, offers, rfl, digest, stored⟩ :=
      consistent.published eventId item.identitySha256 ⟨item, held, rfl, published⟩
    obtain ⟨source, other, otherOffers, named, print, keyed⟩ :=
      consistent.registered event.eventId item held
    have alike := same_fingerprint_alike collisionFree offers otherOffers
      (digest.symm.trans print)
    exact ⟨acceptedObject event, stored, rfl, (alike_accepted_key alike).trans keyed.symm,
      event, rfl, rfl⟩
  · exact fun batch failures finished record member =>
      Pool.supported_result supported finished record member

/-- The sample authorization with this amount, as a direct record under this identifier and
received at this time. -/
def sampleRecord (recordId : String) (amount : Int) (receivedAt : String) : Record where
  eventId := some (str recordId)
  decoded := some (.obj (sampleRaw "evt-1" .authorization 1 amount receivedAt))

/-- The authorization, the same authorization received ten minutes later, and a record that
claims its identifier for another amount. -/
def sampleOffers : List Record :=
  [sampleRecord "shard-0:1" 1000 "2026-01-01T00:00:05Z",
    sampleRecord "shard-0:2" 1000 "2026-01-01T00:10:05Z",
    sampleRecord "shard-0:3" 2000 "2026-01-01T00:20:05Z"]

/-- Each of these records may be delivered, any number of times, in a batch of its own. -/
def SampleOffered (batch : List Record) : Prop :=
  ∃ record ∈ sampleOffers, batch = [record]

/-- The pool after a record was delivered in a batch of its own, to an invocation that ran to
its end while the others waited. -/
def deliver (deployment : Deployment) (clock : PyDateTime.Timestamp) (pool : GatePool)
    (record : Record) : GatePool :=
  let ended := (handler deployment.runtime [record]).run.eval (perform deployment clock) pool.world
  ⟨ended.2, ⟨[record], .done ended.1⟩ :: pool.threads, [record] :: pool.started⟩

section Deliveries

variable {clock : PyDateTime.Timestamp} {pool : GatePool}

/-- Deliveries one after the other are one of the interleavings, so what holds in every reachable
pool can be applied to them. -/
theorem deliveries_reachable {records : List Record}
    (reached : Pool.Reachable (gateSystem deployment offered) Cloud.empty pool)
    (isOffered : ∀ record ∈ records, offered [record]) :
    Pool.Reachable (gateSystem deployment offered) Cloud.empty
      (records.foldl (deliver deployment clock) pool) := by
  induction records generalizing pool with
  | nil => exact reached
  | cons record rest inductionHypothesis =>
    have delivered : Pool.Reachable (gateSystem deployment offered) Cloud.empty
        (deliver deployment clock pool record) :=
      Pool.reachable_eval reached (isOffered record List.mem_cons_self)
        fun _ _ => ⟨clock, .inl rfl⟩
    exact inductionHypothesis delivered fun other among =>
      isOffered other (List.mem_cons_of_mem record among)

/-- A delivery keeps the threads of the earlier ones, which have ended and stay as they are. -/
theorem deliveries_keep (records : List Record) {thread : GateThread}
    (member : thread ∈ pool.threads) :
    thread ∈ (records.foldl (deliver deployment clock) pool).threads := by
  induction records generalizing pool with
  | nil => exact member
  | cons record rest inductionHypothesis =>
    exact inductionHypothesis (List.mem_cons_of_mem _ member)

/-- Each delivered record has a thread that has ended, with a result of its own. -/
theorem deliveries_end {records : List Record} {record : Record} (among : record ∈ records) :
    ∃ result, ⟨[record], .done result⟩ ∈
      (records.foldl (deliver deployment clock) pool).threads := by
  induction records generalizing pool with
  | nil => cases among
  | cons other rest inductionHypothesis =>
    rcases List.mem_cons.mp among with rfl | later
    · exact ⟨_, deliveries_keep rest List.mem_cons_self⟩
    · exact inductionHypothesis later

end Deliveries

/-- The thread has returned without a failure to report. -/
def returnedClean (thread : GateThread) : Bool :=
  match thread.program with
  | .done (.ok []) => true
  | _ => false

/-- The identity text of the sample authorization with this amount. -/
def amountText (amount : Int) : Str :=
  identityText sampleDeployment.runtime (sampleFields "evt-1" .authorization 1 amount)

/-- The offered records have two identity texts, and the digests of the two differ. -/
theorem sample_collision_free :
    CollisionFree sampleDeployment.runtime (OfferedText sampleDeployment SampleOffered) := by
  have named {text : Str} (isOffered : OfferedText sampleDeployment SampleOffered text) :
      text = amountText 1000 ∨ text = amountText 2000 := by
    obtain ⟨payload, event, ⟨batch, ⟨offer, among, rfl⟩, record, member, raw, decoded, extracted,
      _⟩, rfl⟩ := isOffered
    obtain rfl := List.mem_singleton.mp member
    simp only [sampleOffers, List.mem_cons, List.not_mem_nil, or_false] at among
    rcases among with rfl | rfl | rfl <;> cases decoded <;> cases extracted
    · exact .inl rfl
    · exact .inl rfl
    · exact .inr rfl
  have differ : sampleDeployment.runtime.sha256 (amountText 1000) ≠
      sampleDeployment.runtime.sha256 (amountText 2000) := by decide +kernel
  intro first second firstOffered secondOffered same
  rcases named firstOffered with rfl | rfl <;> rcases named secondOffered with rfl | rfl
  · rfl
  · exact absurd same differ
  · exact absurd same.symm differ
  · rfl

/-- The pool after the deliveries of the three records. -/
def delivered : GatePool :=
  sampleOffers.foldl (deliver sampleDeployment sampleClock) ⟨Cloud.empty, [], []⟩

/-- The three records, delivered one after the other. The first is published, the second
confirms it, and the third is refused: its evidence is quarantined, and the publication of
the first stands. -/
theorem publication_protocol_safe_sample :
    ∃ pool : GatePool,
      Pool.Reachable (gateSystem sampleDeployment SampleOffered) Cloud.empty pool ∧
      (∀ record ∈ sampleOffers, ⟨[record], .done (.ok [])⟩ ∈ pool.threads) ∧
      (pool.world.objects.map StoredObject.bucket).count .quarantine = 1 ∧
      ProtocolSafe sampleDeployment SampleOffered pool pool := by
  have checked : delivered.threads.all returnedClean = true ∧
      (delivered.world.objects.map StoredObject.bucket).count .quarantine = 1 := by
    decide +kernel
  have reached : Pool.Reachable (gateSystem sampleDeployment SampleOffered) Cloud.empty
      delivered := deliveries_reachable .refl fun record among => ⟨record, among, rfl⟩
  refine ⟨delivered, reached, ?_, checked.2,
    publication_protocol_safe sample_collision_free reached .refl⟩
  intro record among
  obtain ⟨result, member⟩ : ∃ result, ⟨[record], .done result⟩ ∈ delivered.threads :=
    deliveries_end among
  have returned := List.all_eq_true.mp checked.1 _ member
  unfold returnedClean at returned
  split at returned
  · rename_i same
    exact same ▸ member
  · cases returned

end LedgerFlow.SchemaGate
