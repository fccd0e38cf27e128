import LedgerFlow.SchemaGate.QuarantineAccount

/-!
# What the quarantine bucket shows

A record that breaks the contract is quarantined under its own identifier, and a record in
conflict with a registered event under the identifier of the event. Record identifiers are
distinct, but an event may be in conflict with any number of records: each of them writes
to one key, and the object that was written last is the one that the bucket shows.

`quarantine_accounts_iff` says exactly for which records no run loses evidence. In one
direction objects of one key are one object; in the other three invocations register one
record and quarantine two others.
-/

namespace LedgerFlow.SchemaGate

open PyText PyJson PyDateTime Programs Programs.Program

variable {deployment : Deployment} {received : Record → Prop}

/-! ## Evidence that is kept -/

/-- The object that a bucket shows under a key, the one that was written last. -/
def Cloud.current (cloud : Cloud) (bucket : Bucket) (key : Str) : Option StoredObject :=
  cloud.objects.find? fun object => object.bucket = bucket ∧ object.key = key

/-- The evidence of the record was written. -/
def QuarantinedAs (deployment : Deployment) (record : Record) (object : StoredObject)
    (cloud : Cloud) : Prop :=
  evidence deployment record = some object ∧ Stored object cloud

/-- The current objects account for every quarantined record. -/
structure EvidenceKept (deployment : Deployment) (received : Record → Prop) (cloud : Cloud) :
    Prop where
  /-- The evidence of each is the current object of its key. -/
  current : ∀ record object, received record → QuarantinedAs deployment record object cloud →
    cloud.current .quarantine object.key = some object
  /-- Two with different content have different keys. -/
  apart : ∀ first second object other, received first → received second →
    QuarantinedAs deployment first object cloud → QuarantinedAs deployment second other cloud →
    object.value ≠ other.value → object.key ≠ other.key

/-- All received records of an event whose fingerprint differs from that of any one of
them read as events with the same content. -/
def ConflictsAlike (deployment : Deployment) (received : Record → Prop) : Prop :=
  ∀ original first second accepted left right, received original → received first →
    received second → reading deployment original = .ok accepted →
    reading deployment first = .ok left → reading deployment second = .ok right →
    left.2.eventId = accepted.2.eventId → right.2.eventId = accepted.2.eventId →
    fingerprintOf deployment left ≠ fingerprintOf deployment accepted →
    fingerprintOf deployment right ≠ fingerprintOf deployment accepted →
    left.2.safeDict = right.2.safeDict

/-! ## The exact condition -/

/-- Where all conflicts of an event read alike, objects of one key are one object. -/
theorem same_key_same_object {cloud : Cloud} {first second : StoredObject}
    (identified : ∀ left right, received left → received right → left.id = right.id → left = right)
    (alike : ConflictsAlike deployment received)
    (consistent : Consistent deployment (fun batch => ∀ record ∈ batch, received record) cloud)
    (left : Accounts deployment received cloud first)
    (right : Accounts deployment received cloud second) (same : first.key = second.key) :
    first = second := by
  have apart (id eventId : Str) :
      str "contract/" ++ id ≠ str "identity-conflict/" ++ eventId := by
    intro wrong
    have contract : (str "contract/" ++ id).head? = some (point 'c') := rfl
    have conflict : (str "identity-conflict/" ++ eventId).head? = some (point 'i') := rfl
    rw [wrong, conflict] at contract
    exact absurd contract (by decide)
  cases left with
  | @contract record reason isReceived breaks =>
    cases right with
    | @contract other otherReason otherReceived otherBreaks =>
      have ids : record.id = other.id := by
        have names := List.append_cancel_right same
        exact List.append_cancel_left names
      obtain rfl := identified record other isReceived otherReceived ids
      rw [breaks] at otherBreaks
      cases otherBreaks
      rfl
    | conflict =>
      simp only [contractObject, conflictObject, List.append_assoc] at same
      exact absurd same (apart _ _)
  | @conflict record read fingerprint isReceived valid registered differs =>
    cases right with
    | contract =>
      simp only [contractObject, conflictObject, List.append_assoc] at same
      exact absurd same.symm (apart _ _)
    | @conflict other otherRead otherPrint otherReceived otherValid otherRegistered otherDiffers =>
      have ids : read.2.eventId = otherRead.2.eventId := by
        have names := List.append_cancel_right same
        exact Subtype.ext (List.append_cancel_left names)
      obtain ⟨item, held, rfl⟩ := registered
      obtain ⟨otherItem, otherHeld, rfl⟩ := otherRegistered
      rw [← ids, held, Option.some.injEq] at otherHeld
      subst otherHeld
      obtain ⟨payload, event, ⟨batch, offered, original, member, submits⟩, named, print, _⟩ :=
        consistent.registered read.2.eventId item held
      rw [print] at differs otherDiffers
      have contents := alike original record other (payload, event) read otherRead
        (offered original member) isReceived otherReceived (reading_ok.mpr submits) valid otherValid
        named.symm (ids.symm.trans named.symm) differs.symm otherDiffers.symm
      rw [conflictObject, conflictObject, ids, contents]

/-- The evidence of a record lies in the quarantine bucket, for a broken contract as for a
conflict. -/
theorem evidence_quarantined {record : Record} {object : StoredObject}
    (shown : evidence deployment record = some object) : object.bucket = .quarantine := by
  unfold evidence at shown
  split at shown <;> cases shown <;> rfl

/-- Where objects of one key are one object, the evidence is kept: no later write of its key
replaces it by another content. -/
theorem evidence_kept_of_keys {cloud : Cloud}
    (keys : ∀ first ∈ cloud.objects, ∀ second ∈ cloud.objects, first.bucket = .quarantine →
      second.bucket = .quarantine → first.key = second.key → first = second) :
    EvidenceKept deployment received cloud := by
  constructor
  · rintro record object - ⟨shown, stored⟩
    have quarantined := evidence_quarantined shown
    cases found : cloud.current .quarantine object.key with
    | none =>
      have absent := List.find?_eq_none.mp found object stored
      simp [quarantined] at absent
    | some other =>
      have named := List.find?_some found
      simp only [decide_eq_true_eq] at named
      rw [keys other (List.mem_of_find?_eq_some found) object stored named.1 quarantined named.2]
  · rintro first second object other - - ⟨shown, stored⟩ ⟨otherShown, otherStored⟩ differs same
    have equal := keys object stored other otherStored (evidence_quarantined shown)
      (evidence_quarantined otherShown) same
    exact differs (congrArg StoredObject.value equal)

section Undisturbed

variable {record : Record} {read : Fields × PaymentEvent} {cloud : Cloud}

/-- Without faults a valid record alone stores its raw object and publishes its event. What
holds then and is preserved by every call holds in the end. -/
theorem eval_valid_record (valid : reading deployment record = .ok read) (clock : Timestamp)
    (cloud : Cloud) :
    ∃ object, ∀ kept : Cloud → Prop,
      (∀ request world, kept world → kept (perform deployment clock request world).2) →
      kept ((publishAccepted read.2 (fingerprintOf deployment read) clock).run.eval
        (perform deployment clock) (cloud.put object)).2 →
      kept ((handler deployment.runtime [record]).run.eval (perform deployment clock) cloud).2 := by
  obtain ⟨raw, decoded, extracted, validated⟩ := reading_ok.mp valid
  have shown : now.run.eval (perform deployment clock) cloud = (.ok clock, cloud) := rfl
  have stored : (putJson .bronze (arrivalKey clock record) raw).run.eval
      (perform deployment clock) cloud =
        (.ok (), cloud.put ⟨.bronze, arrivalKey clock record, raw⟩) := rfl
  have handled : (handleRecord deployment.runtime deployment.registry deployment.tokenKey
      record).run.eval (perform deployment clock) cloud =
        (publishAccepted read.2 (fingerprintOf deployment read) clock).run.eval
          (perform deployment clock) (cloud.put ⟨.bronze, arrivalKey clock record, raw⟩) := by
    simp only [handleRecord, decoded]
    rw [Fallible.eval_bind_ok shown, Fallible.except_bind_ok extracted,
      Fallible.except_bind_ok (validated_unprohibited validated), Fallible.eval_bind_ok stored,
      Fallible.except_bind_ok validated]
  refine ⟨⟨.bronze, arrivalKey clock record, raw⟩, fun kept preserved holds => ?_⟩
  rw [eval_handler_loop, handleRecords, Fallible.run_bind, Program.eval_bind]
  refine eval_preserves preserved _ _ ?_
  rw [Fallible.run_try_catch, Program.eval_bind]
  refine eval_preserves preserved _ _ ?_
  rw [Fallible.run_bind, Program.eval_bind]
  refine eval_preserves preserved _ _ ?_
  rw [handled]
  exact holds

/-- Publishing an event that is not registered registers its fingerprint, without faults. -/
theorem eval_publish_fresh {event : PaymentEvent} (fingerprint : AsciiText) (clock : Timestamp)
    (absent : cloud.identities event.eventId = none) :
    RegisteredUnder event.eventId fingerprint
      ((publishAccepted event fingerprint clock).run.eval (perform deployment clock) cloud).2 := by
  have put : (putItem event.eventId (reservation event fingerprint clock)).run.eval
      (perform deployment clock) cloud =
        (.ok (), cloud.register event.eventId (reservation event fingerprint clock)) := by
    show perform deployment clock (.putItem _ _) cloud = _
    simp only [perform, absent]
  have reserved : (tryCatch
      (do
        putItem event.eventId (reservation event fingerprint clock)
        pure true)
      (recheckIdentity event fingerprint)).run.eval (perform deployment clock) cloud =
        (.ok true, cloud.register event.eventId (reservation event fingerprint clock)) := by
    apply Fallible.eval_try_ok
    rw [Fallible.eval_bind_ok put]
    rfl
  rw [publishAccepted, Fallible.eval_bind_ok reserved]
  exact eval_preserves (fun request _ held => perform_registered deployment clock request held) _ _
    ⟨_, register_same .., rfl⟩

/-- Publishing an event that is registered under another fingerprint writes its conflict, without
faults. -/
theorem eval_publish_conflict {event : PaymentEvent} {fingerprint other : AsciiText}
    (clock : Timestamp) (registered : RegisteredUnder event.eventId other cloud)
    (differs : fingerprint ≠ other) :
    Stored (conflictObject event)
      ((publishAccepted event fingerprint clock).run.eval (perform deployment clock) cloud).2 := by
  obtain ⟨item, held, rfl⟩ := registered
  have put : (putItem event.eventId (reservation event fingerprint clock)).run.eval
      (perform deployment clock) cloud = (.error conditionalCheckFailed, cloud) := by
    show perform deployment clock (.putItem _ _) cloud = _
    simp only [perform, held]
  have got : (getIdentity event.eventId).run.eval (perform deployment clock) cloud =
      (.ok (some item), cloud) := by
    show perform deployment clock (.getItem _) cloud = _
    simp only [perform, held]
  have expected : require (conditionalCheckFailed = conditionalCheckFailed)
      conditionalCheckFailed = .ok () := require_ok.mpr rfl
  have rechecked : (recheckIdentity event fingerprint conditionalCheckFailed).run.eval
      (perform deployment clock) cloud = (.ok false, cloud.put (conflictObject event)) := by
    rw [recheckIdentity, Fallible.except_bind_ok expected, Fallible.eval_bind_ok got]
    simp only [ne_eq, differs.symm, not_false_eq_true, ↓reduceIte]
    rfl
  have reserved : (tryCatch
      (do
        putItem event.eventId (reservation event fingerprint clock)
        pure true)
      (recheckIdentity event fingerprint)).run.eval (perform deployment clock) cloud =
        (.ok false, cloud.put (conflictObject event)) := by
    rw [Fallible.eval_try_error (Fallible.eval_bind_error put), rechecked]
  rw [publishAccepted, Fallible.eval_bind_ok reserved]
  exact List.mem_cons_self

/-- No call removes an object from the log of writes. -/
theorem perform_stored (clock : Timestamp) (request : CloudCall) {object : StoredObject}
    (stored : Stored object cloud) : Stored object (perform deployment clock request cloud).2 := by
  rcases perform_objects deployment clock request cloud with same | ⟨written, _, same⟩
  · rw [Stored, same]
    exact stored
  · rw [Stored, same]
    exact List.mem_cons_of_mem written stored

end Undisturbed

/-- A received record may be handled alone, at any time and without faults. This makes every
hypothetical conflict a reachable one. -/
theorem reaches_alone {pool : GatePool} (reached : Reaches deployment received pool)
    {record : Record} (isReceived : received record) :
    ∃ later : GatePool, Reaches deployment received later ∧
      later.world = ((handler deployment.runtime [record]).run.eval
        (perform deployment sampleClock) pool.world).2 := by
  have admitted : (clientSystem deployment received).admits [record] pool.world :=
    fun other member => List.mem_singleton.mp member ▸ isReceived
  have allowed (request : CloudCall) (cloud : Cloud) :
      clientEffect deployment request cloud (perform deployment sampleClock request cloud).1
        (perform deployment sampleClock request cloud).2 := ⟨sampleClock, .inl rfl⟩
  exact ⟨_, Pool.reachable_eval reached admitted allowed, rfl⟩

/-- A valid record of an event that is not registered yet may be registered. -/
theorem reaches_registered {record : Record} {read : Fields × PaymentEvent}
    (isReceived : received record) (valid : reading deployment record = .ok read) :
    ∃ pool : GatePool, Reaches deployment received pool ∧
      RegisteredUnder read.2.eventId (fingerprintOf deployment read) pool.world := by
  have begins : Reaches deployment received ⟨Cloud.empty, [], []⟩ := .refl
  obtain ⟨later, reached, ended⟩ := reaches_alone begins isReceived
  refine ⟨later, reached, ended ▸ ?_⟩
  obtain ⟨object, keeps⟩ := eval_valid_record valid sampleClock Cloud.empty
  exact keeps _ (fun request _ held => perform_registered deployment sampleClock request held)
    (eval_publish_fresh _ _ rfl)

/-- A valid record of an event that is registered under another fingerprint may be
quarantined, with what was registered and written before. -/
theorem reaches_conflict {pool : GatePool} {record : Record} {read : Fields × PaymentEvent}
    {fingerprint : AsciiText} (reached : Reaches deployment received pool)
    (isReceived : received record) (valid : reading deployment record = .ok read)
    (registered : RegisteredUnder read.2.eventId fingerprint pool.world)
    (differs : fingerprintOf deployment read ≠ fingerprint) :
    ∃ later : GatePool, Reaches deployment received later ∧
      RegisteredUnder read.2.eventId fingerprint later.world ∧
      Stored (conflictObject read.2) later.world ∧
      ∀ object, Stored object pool.world → Stored object later.world := by
  obtain ⟨later, reachedLater, ended⟩ := reaches_alone reached isReceived
  refine ⟨later, reachedLater, ended ▸ ?_, ended ▸ ?_, fun object stored => ended ▸ ?_⟩
  · exact eval_preserves (fun request _ held => perform_registered deployment sampleClock request
      held) _ _ registered
  · obtain ⟨object, keeps⟩ := eval_valid_record valid sampleClock pool.world
    obtain ⟨item, held, same⟩ := registered
    exact keeps _ (fun request _ stored => perform_stored sampleClock request stored)
      (eval_publish_conflict _ ⟨item, held, same⟩ differs)
  · exact eval_preserves (fun request _ held => perform_stored sampleClock request held) _ _ stored

/-- Two records in conflict with a third may both be quarantined in one run. -/
theorem reaches_both {original first second : Record} {accepted left right : Fields × PaymentEvent}
    (originalReceived : received original) (firstReceived : received first)
    (secondReceived : received second) (originalRead : reading deployment original = .ok accepted)
    (firstRead : reading deployment first = .ok left)
    (secondRead : reading deployment second = .ok right)
    (leftNamed : left.2.eventId = accepted.2.eventId)
    (rightNamed : right.2.eventId = accepted.2.eventId)
    (leftDiffers : fingerprintOf deployment left ≠ fingerprintOf deployment accepted)
    (rightDiffers : fingerprintOf deployment right ≠ fingerprintOf deployment accepted) :
    ∃ pool, Reaches deployment received pool ∧
      QuarantinedAs deployment first (conflictObject left.2) pool.world ∧
      QuarantinedAs deployment second (conflictObject right.2) pool.world := by
  obtain ⟨start, reachedStart, registered⟩ := reaches_registered originalReceived originalRead
  obtain ⟨middle, reachedMiddle, still, leftStored, _⟩ := reaches_conflict reachedStart
    firstReceived firstRead (leftNamed ▸ registered) leftDiffers
  obtain ⟨last, reachedLast, _, rightStored, kept⟩ := reaches_conflict reachedMiddle
    secondReceived secondRead (rightNamed.trans leftNamed.symm ▸ still) rightDiffers
  exact ⟨last, reachedLast, ⟨by rw [evidence, firstRead], kept _ leftStored⟩,
    by rw [evidence, secondRead], rightStored⟩

/-- Conflicts of one event lie under one key, which names the event and not the record. -/
theorem conflict_keys {left right : PaymentEvent} (same : left.eventId = right.eventId) :
    (conflictObject left).key = (conflictObject right).key := by
  simp only [conflictObject, same]

/-- The contents of two conflicts are equal exactly when the events have the same content. -/
theorem conflict_values {left right : PaymentEvent} :
    (conflictObject left).value = (conflictObject right).value ↔
      left.safeDict = right.safeDict := by
  simp only [conflictObject, List.cons.injEq, Prod.mk.injEq, Json.obj.injEq, true_and, and_true]

/-- The bucket accounts for every quarantined record in every run, with any number of
interleaved invocations on any batches of the received records, with crashes and errors
after any call, exactly when all conflicts of an event read alike. Record identifiers are
distinct. -/
theorem quarantine_accounts_iff
    (identified : ∀ first second, received first → received second → first.id = second.id →
      first = second) :
    (∀ pool, Reaches deployment received pool → EvidenceKept deployment received pool.world) ↔
      ConflictsAlike deployment received := by
  constructor
  · intro always original first second accepted left right originalReceived firstReceived
      secondReceived originalRead firstRead secondRead leftNamed rightNamed leftDiffers rightDiffers
    obtain ⟨pool, reached, firstQuarantined, secondQuarantined⟩ := reaches_both originalReceived
      firstReceived secondReceived originalRead firstRead secondRead leftNamed rightNamed
      leftDiffers rightDiffers
    by_contra differ
    exact (always pool reached).apart first second _ _ firstReceived secondReceived
      firstQuarantined secondQuarantined (fun same => differ (conflict_values.mp same))
      (conflict_keys (leftNamed.trans rightNamed.symm))
  · intro alike pool reached
    have accounted := reaches_accounted reached
    obtain ⟨_, consistent⟩ := reachable_consistent (reaches_gate reached)
    exact evidence_kept_of_keys fun first firstStored second secondStored firstHere secondHere =>
      same_key_same_object identified alike consistent (accounted first firstStored firstHere)
        (accounted second secondStored secondHere)

/-! ## Samples -/

/-- The authorization, delivered with this amount under this record identifier. -/
def amountRecord (recordId : String) (amount : Int) : Record :=
  sampleRecord recordId amount "2026-01-01T00:00:05+00:00"

/-- What the handler reads has these properties. -/
def readWith (record : Record) (property : Fields × PaymentEvent → Bool) : Bool :=
  match reading sampleDeployment record with
  | .ok read => property read
  | .error _ => false

/-- A reading that has been evaluated is there, and has the property. -/
theorem read_with {record : Record} {property : Fields × PaymentEvent → Bool}
    (holds : readWith record property = true) :
    ∃ read, reading sampleDeployment record = .ok read ∧ property read = true := by
  unfold readWith at holds
  split at holds
  · exact ⟨_, ‹_›, holds⟩
  · cases holds

/-- An amount, its event and its digest. -/
def isAmount (amount : Int) (digest : String) (read : Fields × PaymentEvent) : Bool :=
  read.2.eventId.1 = str "evt-1" ∧ read.2.amountMinor = amount ∧
    (fingerprintOf sampleDeployment read).1 = str digest

/-- The first delivery of the authorization and two with other amounts. -/
def amountRecords : List Record :=
  [amountRecord "shard-0:1" 1000, amountRecord "shard-0:2" 2000, amountRecord "shard-0:3" 3000]

/-- The second conflict of an event takes the key of the first, and its content differs. -/
theorem second_conflict_overwrites :
    amountRecords.Pairwise (fun first second => first.id ≠ second.id) ∧
    ∃ pool object other, Reaches sampleDeployment (· ∈ amountRecords) pool ∧
      QuarantinedAs sampleDeployment (amountRecord "shard-0:2" 2000) object pool.world ∧
      QuarantinedAs sampleDeployment (amountRecord "shard-0:3" 3000) other pool.world ∧
      object.value ≠ other.value ∧ object.key = other.key := by
  have inside : amountRecord "shard-0:1" 1000 ∈ amountRecords ∧
      amountRecord "shard-0:2" 2000 ∈ amountRecords ∧
      amountRecord "shard-0:3" 3000 ∈ amountRecords := by simp [amountRecords]
  have firstRead : readWith (amountRecord "shard-0:1" 1000) (isAmount 1000
      "5dc579aed1e6eea62f97e7d08867cea2eff734a5202fdcc045ed836f660006b7") = true := by
    decide +kernel
  have secondRead : readWith (amountRecord "shard-0:2" 2000) (isAmount 2000
      "e631f61f8ad773c5683db55bc039537aa924a9b339c4b5e643d70ecca1cead6f") = true := by
    decide +kernel
  have thirdRead : readWith (amountRecord "shard-0:3" 3000) (isAmount 3000
      "908f4e1c1090f2d320c5b5934fb0e4093435717c2737054cf41442333b7e66db") = true := by
    decide +kernel
  obtain ⟨accepted, acceptedRead, isAccepted⟩ := read_with firstRead
  obtain ⟨left, leftRead, isLeft⟩ := read_with secondRead
  obtain ⟨right, rightRead, isRight⟩ := read_with thirdRead
  rw [isAmount, decide_eq_true_eq] at isAccepted isLeft isRight
  have sameLeft : left.2.eventId = accepted.2.eventId :=
    Subtype.ext (isLeft.1.trans isAccepted.1.symm)
  have sameRight : right.2.eventId = accepted.2.eventId :=
    Subtype.ext (isRight.1.trans isAccepted.1.symm)
  have leftDiffers : fingerprintOf sampleDeployment left ≠
      fingerprintOf sampleDeployment accepted := by
    intro same
    have texts := isLeft.2.2.symm.trans ((congrArg Subtype.val same).trans isAccepted.2.2)
    exact absurd texts (by decide)
  have rightDiffers : fingerprintOf sampleDeployment right ≠
      fingerprintOf sampleDeployment accepted := by
    intro same
    have texts := isRight.2.2.symm.trans ((congrArg Subtype.val same).trans isAccepted.2.2)
    exact absurd texts (by decide)
  obtain ⟨pool, reached, quarantined, otherQuarantined⟩ :=
    @reaches_both sampleDeployment (· ∈ amountRecords) _ _ _ _ _ _ inside.1 inside.2.1 inside.2.2
      acceptedRead leftRead rightRead sameLeft sameRight leftDiffers rightDiffers
  refine ⟨by decide, pool, _, _, reached, quarantined, otherQuarantined, ?_,
    conflict_keys (sameLeft.trans sameRight.symm)⟩
  intro same
  have amounts : left.2.amountMinor = right.2.amountMinor := by
    have contents := conflict_values.mp same
    simp only [PaymentEvent.safeDict, List.cons.injEq, Prod.mk.injEq, Json.int.injEq, true_and]
      at contents
    exact contents.2.2.2.2.2.2.2.1
  rw [isLeft.2.1, isRight.2.1] at amounts
  exact absurd amounts (by decide)

/-- The first delivery of the authorization and one with another amount. -/
def conflictingPair : List Record :=
  [amountRecord "shard-0:1" 1000, amountRecord "shard-0:2" 2000]

/-- The pair consists of its two records, of one event with two amounts. -/
theorem mem_conflicting_pair {record : Record} : record ∈ conflictingPair ↔
    record = amountRecord "shard-0:1" 1000 ∨ record = amountRecord "shard-0:2" 2000 := by
  simp only [conflictingPair, List.mem_cons, List.not_mem_nil, or_false]

/-- A single conflict keeps its evidence, in whatever order the two records are handled and
however often. -/
theorem single_conflict_kept :
    conflictingPair.Pairwise (fun first second => first.id ≠ second.id) ∧
    ∀ pool, Reaches sampleDeployment (· ∈ conflictingPair) pool →
      EvidenceKept sampleDeployment (· ∈ conflictingPair) pool.world := by
  have identified : ∀ first second, first ∈ conflictingPair → second ∈ conflictingPair →
      first.id = second.id → first = second := by
    intro first second firstInside secondInside same
    rw [mem_conflicting_pair] at firstInside secondInside
    rcases firstInside with rfl | rfl <;> rcases secondInside with rfl | rfl
    · rfl
    · exact absurd same (by decide)
    · exact absurd same (by decide)
    · rfl
  refine ⟨by decide, (quarantine_accounts_iff identified).mpr ?_⟩
  -- of two different records one is the original, which does not differ from itself
  intro original first second accepted left right inside firstInside secondInside acceptedRead
    leftRead rightRead _ _ leftDiffers rightDiffers
  by_cases same : first = second
  · rw [same, rightRead, Except.ok.injEq] at leftRead
    rw [leftRead]
  · have among : original = first ∨ original = second := by
      rw [mem_conflicting_pair] at inside firstInside secondInside
      rcases inside with rfl | rfl <;> rcases firstInside with rfl | rfl <;>
        rcases secondInside with rfl | rfl <;> simp_all
    rcases among with rfl | rfl
    · rw [leftRead, Except.ok.injEq] at acceptedRead
      exact absurd (congrArg _ acceptedRead) leftDiffers
    · rw [rightRead, Except.ok.injEq] at acceptedRead
      exact absurd (congrArg _ acceptedRead) rightDiffers

end LedgerFlow.SchemaGate
