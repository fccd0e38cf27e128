import LedgerFlow.Settlement.Plays

/-!
# Checked bytes are the processed bytes

Whatever is put while invocations run, an execution points at verified bytes with the
digest and the length that the manifest of its invocation states, and as long as no two
delivered objects share a digest these bytes stay.
-/

namespace LedgerFlow.Settlement

open PyText PyJson PyBytes PyDateTime Programs

variable {deployment : Deployment} {policy : Policy} {pool later : SettlementPool}

/-- The verified bytes of a started execution: they have the digest and the length that the
manifest states, and the key, the input and the registration name that digest. -/
structure BytesVerified (deployment : Deployment) (world : World) (delivery : Delivery)
    (input : WorkflowInput) (data : Bytes) : Prop where
  /-- The key holds the bytes. -/
  held : world.store.verified input.verifiedDataKey = some data
  /-- The manifest that the invocation read states their digest and their length. -/
  stated : ∃ manifest, record delivery.event = .ok input.manifest ∧
    checkManifest deployment.library delivery.manifest = .ok manifest ∧
    isText (hex (deployment.library.sha256 data)) manifest.sha256 = true ∧
    manifest.byteSize.value = data.length ∧ manifest.revision = .int input.revision
  /-- The input has the digest. -/
  digest : input.sha256 = hex (deployment.library.sha256 data)
  /-- The key names the digest. -/
  key : input.verifiedDataKey = verifiedDataKey input.businessDate (.int input.revision)
    (hex (deployment.library.sha256 data))
  /-- The registration has the digest and the key. -/
  registered : ∃ registration ∈ registrations world.journal,
    registration.businessDate = input.businessDate ∧ registration.revision = input.revision ∧
    registration.sha256 = hex (deployment.library.sha256 data) ∧
    registration.key = input.verifiedDataKey

/-- A founded execution has verified bytes: a copy lies under its key whose digest is the one of
its input, and the loader read these bytes from the delivered version. -/
theorem founded_verified {offered : Bytes → Prop} {world : World} {delivery : Delivery} {name : Str}
    {input : WorkflowInput} (free : deployment.library.CollisionFree offered)
    (founded : Founded deployment offered world delivery name input)
    (registered : Registered deployment world) :
    ∃ data, BytesVerified deployment world delivery input data := by
  obtain ⟨manifest, delivers, revision, landed⟩ := founded.delivers
  obtain ⟨data, held, digest, size⟩ := landed free
  obtain ⟨registration, member, date, number, sha256⟩ := founded.registered
  refine ⟨data, held, ⟨manifest, delivers.event, delivers.checked, ?_, size.symm, revision⟩,
    digest.symm, ?_, registration, member, date, number, ?_, ?_⟩
  · rw [digest]
    exact delivers.digest
  · rw [digest]
    exact founded.key
  · rw [digest]
    exact sha256
  · rw [(registered.grounded registration member).key, date, number, sha256]
    exact founded.key.symm

/-- Verified bytes stay, however often their key is written again: the key names the digest, and
offered bytes with one digest are equal. -/
theorem verified_stays {offered : Bytes → Prop} {before after : World}
    (free : deployment.library.CollisionFree offered)
    (moved : Relation.ReflTransGen (Follows deployment offered) before after)
    (consistent : Consistent deployment offered before) {key : Str} {data : Bytes}
    (held : before.store.verified key = some data) : after.store.verified key = some data := by
  induction moved with
  | refl => exact held
  | tail run step inductionHypothesis =>
    have still := stable_many consistent_stable _ _ run consistent
    exact step.verified free still.objects key data inductionHypothesis

/-- Every execution that is ever started, and whatever happens after it was started:
its key holds the bytes that were checked, then and later. -/
theorem checked_bytes_processed (free : deployment.library.CollisionFree policy.offered)
    (reached : Reaches deployment policy pool) :
    (∀ execution ∈ pool.world.store.executions, ∃ delivery,
      .started delivery execution.name execution.input ∈ pool.world.journal) ∧
    ∀ delivery name input, .started delivery name input ∈ pool.world.journal →
      ∃ data, BytesVerified deployment pool.world delivery input data ∧
        ∀ later, Continues deployment policy pool later →
          later.world.store.verified input.verifiedDataKey = some data := by
  have consistent := reaches_consistent reached
  refine ⟨consistent.executions.started, fun delivery name input started => ?_⟩
  obtain ⟨data, verified⟩ := founded_verified free
    (consistent.executions.founded delivery name input started) consistent.registered
  refine ⟨data, verified, fun later run => ?_⟩
  exact verified_stays free (continues_follows reached run) consistent verified.held

/-- The executions of a settled day have verified bytes, now and after every continuation of the
day. -/
theorem checked_bytes_settled_day : ∃ pool, Reaches settlementDeployment samplePolicy pool ∧
    pool.world.store.executions ≠ [] ∧
    (∀ execution ∈ pool.world.store.executions, ∃ delivery,
      .started delivery execution.name execution.input ∈ pool.world.journal) ∧
    ∀ delivery name input, .started delivery name input ∈ pool.world.journal →
      ∃ data, BytesVerified settlementDeployment pool.world delivery input data ∧
        ∀ later, Continues settlementDeployment samplePolicy pool later →
          later.world.store.verified input.verifiedDataKey = some data := by
  obtain ⟨pool, reached, started⟩ := @plays_reaches settlementDeployment samplePolicy _ settledDay
    (fun pool => pool.world.store.executions ≠ []) _ (by decide +kernel)
  exact ⟨pool, reached, started, checked_bytes_processed settlement_collision_free reached⟩

end LedgerFlow.Settlement
