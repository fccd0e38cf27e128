import LedgerFlow.Settlement.Protocol

/-!
# What an invocation of the loader ensures

The handler is verified call by call, against interference by every other invocation and
by everything that moves around them. `Ensures` is the judgement: from a consistent world
each call follows the protocol, and what a part of the handler establishes lasts. The
rules for the calls feed the rule for the handler, and the rely-guarantee rule lifts it
to every run: reachable worlds are consistent, and a delivery whose invocation responded
is covered by the record of its date.
-/

namespace LedgerFlow.Settlement

open PyText PyJson PyBytes PyDateTime Programs Programs.Program Grouping Revisions

variable {deployment : Deployment} {offered : Bytes → Prop} {delivery : Delivery}

/-! ## Assertions -/

/-- From a consistent world, every call of the program follows the protocol, and a value
comes with what is good of it. -/
abbrev Ensures {α : Type} (deployment : Deployment) (offered : Bytes → Prop) (delivery : Delivery)
    (program : Loader α) (pre : World → Prop) (good : α → World → Prop) : Prop :=
  program.run.Meets (cloudEffect deployment delivery) (Follows deployment offered)
    (Follows deployment offered) (fun world => Consistent deployment offered world ∧ pre world)
    (Fallible.Ends (fun result world => Consistent deployment offered world ∧ good result world)
      (Consistent deployment offered))

/-- No step from a consistent world takes the assertion back. -/
def Lasts (deployment : Deployment) (offered : Bytes → Prop) (assertion : World → Prop) : Prop :=
  ∀ before after, Follows deployment offered before after → Consistent deployment offered before →
    assertion before → assertion after

/-- An assertion that lasts can be used together with consistency between any two calls. -/
theorem Lasts.stable {assertion : World → Prop} (lasts : Lasts deployment offered assertion) :
    Stable (Follows deployment offered)
      (fun world => Consistent deployment offered world ∧ assertion world) :=
  fun before after follows holds =>
    ⟨follows.consistent holds.1, lasts before after follows holds.1 holds.2⟩

/-- The record of a date is for this revision and digest, or for a higher revision. -/
def Covered (businessDate : Str) (revision : Int) (sha256 : Str) (world : World) : Prop :=
  ∃ item, world.store.publications businessDate = some item ∧
    (revision < item.revision ∨ revision = item.revision ∧ sha256 = item.manifestSha256)

/-- The delivery states a revision of a date, which the record of the date covers. -/
def Handled (deployment : Deployment) (delivery : Delivery) (world : World) : Prop :=
  ∃ location manifest businessDate sha256 revision,
    Delivers deployment delivery location manifest businessDate sha256 ∧
      manifest.revision = .int revision ∧ Covered businessDate revision sha256 world

/-- A covered revision stays covered: the record of a date changes to higher revisions only. -/
theorem covered_lasts (businessDate : Str) (revision : Int) (sha256 : Str) :
    Lasts deployment offered (Covered businessDate revision sha256) := by
  rintro before after follows _ ⟨item, held, bound⟩
  obtain ⟨later, found, further⟩ := follows.revisions businessDate item held
  refine ⟨later, found, ?_⟩
  rcases further with newer | same
  · rcases bound with lower | ⟨rfl, _⟩
    · exact .inl (lower.trans newer)
    · exact .inl newer
  · have revisions : item.revision = later.revision := congrArg Prod.fst same
    have digests : item.manifestSha256 = later.manifestSha256 :=
      congrArg (fun identity => identity.2.1) same
    rw [← revisions, ← digests]
    exact bound

/-- Lower revisions are covered too, as the record of a date only goes up. -/
theorem covered_lower {businessDate sha256 other : Str} {revision higher : Int} {world : World}
    (lower : revision < higher) (covered : Covered businessDate higher other world) :
    Covered businessDate revision sha256 world := by
  obtain ⟨item, held, bound⟩ := covered
  refine ⟨item, held, .inl ?_⟩
  rcases bound with further | ⟨rfl, _⟩
  · exact lower.trans further
  · exact lower

/-- A registered revision stays registered under its checksum, as the journal only grows. -/
theorem registered_as_lasts (businessDate : Str) (revision : Int) (sha256 : Str) :
    Lasts deployment offered (RegisteredAs businessDate revision sha256) :=
  fun _ _ follows _ registered => follows.toGrows.registeredAs registered

/-- A landed copy stays landed, in consistent worlds: whoever writes its key again writes the same
bytes. -/
theorem landed_lasts (key sha256 : Str) (size : Int) :
    Lasts deployment offered (Landed deployment offered key sha256 size) :=
  fun _ _ follows consistent landed => follows.toGrows.landed consistent.objects landed

/-! ## Rules -/

section Rules

variable {α : Type} {program : Loader α} {pre : World → Prop} {good : α → World → Prop}

/-- One call. What an error leaves must be consistent where the call was performed and
where it was not. -/
theorem ensures_invoke {request : CloudCall} {returns : request.Rows → World → Prop}
    (performed : ∀ world, Consistent deployment offered world → pre world →
      Follows deployment offered world (perform deployment delivery request world).2)
    (returned : ∀ world rows, Consistent deployment offered world → pre world →
      (perform deployment delivery request world).1 = .ok rows →
      Faithful delivery request (.ok rows) →
      returns rows (perform deployment delivery request world).2)
    (lasts : ∀ rows, Lasts deployment offered (returns rows)) :
    Ensures deployment offered delivery (invoke request) pre returns := by
  refine Meets.request ?_ fun reply => ?_
  · rintro before reply after ⟨consistent, holds⟩ ⟨⟨_, answered⟩, faithful⟩
    have follows := performed before consistent holds
    rcases answered with exact | ⟨⟨error, rfl, _⟩, rfl | rfl⟩
    · obtain ⟨replied, rfl⟩ := Prod.mk.inj exact
      refine ⟨follows, ?_⟩
      cases reply with
      | ok rows =>
        exact ⟨follows.consistent consistent,
          returned before rows consistent holds replied.symm faithful⟩
      | error error => exact follows.consistent consistent
    · exact ⟨Follows.refl _, consistent⟩
    · exact ⟨follows, follows.consistent consistent⟩
  · cases reply with
    | ok rows => exact (lasts rows).stable
    | error error => exact consistent_stable

/-- What lasts may be carried along, past calls that do not mention it. -/
theorem ensures_frame {kept : World → Prop}
    (ensures : Ensures deployment offered delivery program pre good)
    (lasts : Lasts deployment offered kept) :
    Ensures deployment offered delivery program (fun world => pre world ∧ kept world)
      (fun result world => good result world ∧ kept world) := by
  have framed := Fallible.meets_frame ensures lasts.stable lasts.stable
  refine framed.weaken (fun world holds => ?_) fun outcome world ends => ?_
  · exact ⟨⟨holds.1, holds.2.1⟩, holds.1, holds.2.2⟩
  · cases outcome with
    | ok result => exact ⟨ends.1.1, ends.1.2, ends.2.2⟩
    | error error => exact ends.1

/-- What does not depend on the world may be assumed beforehand. -/
theorem ensures_assume {condition : Prop}
    (ensures : condition → Ensures deployment offered delivery program pre good) :
    Ensures deployment offered delivery program (fun world => condition ∧ pre world) good := by
  refine (Meets.assume ensures).weaken (fun world holds => ?_) fun _ _ ends => ends
  exact ⟨holds.2.1, holds.1, holds.2.2⟩

/-- The rule of consequence: a stronger precondition and a weaker result, in every world. -/
theorem ensures_weaken {required : World → Prop} {ensured : α → World → Prop}
    (ensures : Ensures deployment offered delivery program required ensured)
    (before : ∀ world, pre world → required world)
    (after : ∀ result world, ensured result world → good result world) :
    Ensures deployment offered delivery program pre good := by
  refine ensures.weaken (fun world holds => ⟨holds.1, before world holds.2⟩) ?_
  intro outcome world ends
  cases outcome with
  | ok result => exact ⟨ends.1, after result world ends.2⟩
  | error error => exact ends

end Rules

/-! ## Calls -/

/-- The manifest that an invocation reads is that of its delivery: it reads the version that the
event names. -/
theorem get_object_ensures (location : Location) :
    Ensures deployment offered delivery (getObject location) (fun _ => True)
      (fun body _ => body = delivery.manifest ∧ True) := by
  apply ensures_invoke
  · intro world _ _
    simp only [perform]
    split <;> exact Follows.refl world
  · intro world rows _ _ _ faithful
    exact ⟨faithful, trivial⟩
  · exact fun _ _ _ _ _ holds => holds

/-- A head describes a delivered version, though not always the latest by the time it is used. -/
theorem head_object_ensures (location : Location) :
    Ensures deployment offered delivery (headObject location) (fun _ => True)
      (fun head world => ∃ version ∈ world.store.landing location,
        head = headOf deployment.library version) := by
  apply ensures_invoke
  · intro world _ _
    simp only [perform]
    split <;> exact Follows.refl world
  · intro world rows _ _ replied _
    simp only [perform] at replied ⊢
    split at replied
    · cases replied
    · next version older listed =>
        cases replied
        rw [listed]
        exact ⟨version, List.mem_cons_self, rfl⟩
  · rintro head before after follows _ ⟨version, member, same⟩
    exact ⟨version, follows.versions location version member, same⟩

/-- The version that a copy finds is the described one, since it names the version identifier and
the entity tag. -/
theorem copied_version {world : World} {source : Location} {manifest : Manifest}
    {version found : ObjectVersion} {versionId checksum : Str}
    (consistent : Consistent deployment offered world)
    (member : version ∈ world.store.landing source)
    (describes : Describes deployment.library manifest version versionId checksum)
    (copied : ((world.store.landing source).find? fun other => other.versionId = versionId) =
      some found) : found = version := by
  have inside := List.mem_of_find?_eq_some copied
  have named := List.find?_some copied
  exact (consistent.objects.versions source).unique inside member
    ((of_decide_eq_true named).trans describes.versionId.symm)

/-- A copy of a described version lands under the key of its digest. -/
theorem copy_object_ensures {source : Location} {manifest : Manifest}
    {versionId checksum eTag businessDate : Str} :
    Ensures deployment offered delivery
      (copyObject (verifiedDataKey businessDate manifest.revision checksum) source versionId eTag)
      (fun world => ∃ version ∈ world.store.landing source,
        Describes deployment.library manifest version versionId checksum)
      (fun _ => Landed deployment offered (verifiedDataKey businessDate manifest.revision checksum)
        checksum manifest.byteSize.value) := by
  apply ensures_invoke
  · rintro world consistent ⟨version, member, describes⟩
    simp only [perform]
    split
    · exact Follows.refl world
    · next found copied =>
        have same := copied_version consistent member describes copied
        subst same
        split
        · apply follows_verify (consistent.objects.bodies source found member)
          exact ⟨businessDate, manifest.revision, congrArg _ describes.summed⟩
        · exact Follows.refl world
  · rintro world rows consistent ⟨version, member, describes⟩ replied _
    simp only [perform] at replied ⊢
    split at replied
    · cases replied
    · next found copied =>
        have same := copied_version consistent member describes copied
        subst same
        split at replied
        · next tagged =>
            rw [if_pos tagged]
            exact fun _ => ⟨found.body, verify_same _ _ _, describes.summed.symm,
              describes.size.symm⟩
        · cases replied
  · exact fun _ => landed_lasts _ _ _

section Registering

variable {location : Location} {manifest : Manifest} {businessDate checksum : Str} {revision : Int}

/-- A registration of what the delivery states, where the condition lets it through. -/
theorem update_item_ensures
    (delivers : Delivers deployment delivery location manifest businessDate checksum)
    (stated : manifest.revision = .int revision) :
    Ensures deployment offered delivery
      (updateItem businessDate revision checksum
        (verifiedDataKey businessDate (.int revision) checksum)) (fun _ => True)
      (fun _ world => Covered businessDate revision checksum world ∧
        RegisteredAs businessDate revision checksum world) := by
  apply ensures_invoke
  · intro world _ _
    simp only [perform]
    split
    · next newer =>
        exact @follows_register _ _ _ ⟨delivery, businessDate, revision, checksum, _⟩
          ⟨⟨location, manifest, delivers, stated⟩, rfl⟩ newer
    · exact Follows.refl world
  · intro world rows _ _ replied _
    simp only [perform] at replied ⊢
    split at replied
    · next newer =>
        rw [if_pos newer]
        exact ⟨⟨_, publish_same _ _ _, .inr ⟨rfl, rfl⟩⟩,
          _, List.mem_cons_self, rfl, rfl, rfl⟩
    · cases replied
  · intro _ before after follows consistent holds
    exact ⟨covered_lasts _ _ _ before after follows consistent holds.1,
      registered_as_lasts _ _ _ before after follows consistent holds.2⟩

/-- The record that was read stays covered and registered, whatever is registered after the
read. -/
theorem get_item_ensures (businessDate : Str) :
    Ensures deployment offered delivery (getPublication businessDate) (fun _ => True)
      (fun existing world => ∀ item, existing = some item →
        Covered businessDate item.revision item.manifestSha256 world ∧
          RegisteredAs businessDate item.revision item.manifestSha256 world) := by
  apply ensures_invoke
  · exact fun world _ _ => Follows.refl world
  · intro world rows consistent _ replied _ item found
    have held : world.store.publications businessDate = some item :=
      (Except.ok.inj replied).trans found
    obtain ⟨top, newestTop, same⟩ := consistent.registered.newest_item held
    obtain ⟨member, named⟩ := newest_mem newestTop
    have revisions : item.revision = top.revision := congrArg Prod.fst same
    have digests : item.manifestSha256 = top.sha256 :=
      congrArg (fun identity => identity.2.1) same
    exact ⟨⟨item, held, .inr ⟨rfl, rfl⟩⟩, top, member, named, revisions.symm, digests.symm⟩
  · intro existing before after follows consistent holds item found
    obtain ⟨covered, registered⟩ := holds item found
    exact ⟨covered_lasts _ _ _ before after follows consistent covered,
      registered_as_lasts _ _ _ before after follows consistent registered⟩

/-- What the answer to a registration says of the record. -/
def Answered (businessDate : Str) (revision : PyInt) (sha256 : Str) (status : RegistrationStatus)
    (world : World) : Prop :=
  ∃ number, revision = .int number ∧ Covered businessDate number sha256 world ∧
    (status ≠ .stale → RegisteredAs businessDate number sha256 world)

/-- The stored item decides what a revision that is not newer is: a duplicate if it is this one
with this checksum, stale if the stored one is higher. Anything else raises. -/
theorem compare_revision_answered {existing : Option Publication} {status : RegistrationStatus}
    {world : World} (compared : compareRevision revision checksum existing = .ok status)
    (holds : ∀ item, existing = some item →
      Covered businessDate item.revision item.manifestSha256 world ∧
        RegisteredAs businessDate item.revision item.manifestSha256 world) :
    Answered businessDate (.int revision) checksum status world := by
  cases existing with
  | none => cases compared
  | some item =>
    obtain ⟨covered, registered⟩ := holds item rfl
    simp only [compareRevision] at compared
    split at compared
    · next matched =>
        obtain ⟨rfl, rfl⟩ := matched
        exact ⟨_, rfl, covered, fun _ => registered⟩
    · split at compared
      · next lower =>
          cases compared
          exact ⟨_, rfl, covered_lower lower covered, fun wrong => absurd rfl wrong⟩
      · cases compared

/-- Whatever the registration of a revision answers, the record of the date covers the revision by
then; and unless the answer is stale, the revision itself is registered under this checksum.

Proof: the write succeeds and covers it, or is refused and the record is read and compared. Others
may register between the refusal and the read, but a covered revision stays covered. -/
theorem register_revision_ensures
    (delivers : Delivers deployment delivery location manifest businessDate checksum) :
    Ensures deployment offered delivery
      (registerRevision businessDate manifest.revision checksum
        (verifiedDataKey businessDate manifest.revision checksum)) (fun _ => True)
      (Answered businessDate manifest.revision checksum) := by
  cases stated : manifest.revision with
  | bool value => exact Fallible.meets_throw fun _ holds => holds.1
  | int revision =>
    apply Fallible.meets_bind fun active world => Consistent deployment offered world ∧
      (active = true → Covered businessDate revision checksum world ∧
        RegisteredAs businessDate revision checksum world)
    · apply Fallible.meets_try_catch (Consistent deployment offered)
      · apply Fallible.meets_bind _ (update_item_ensures delivers stated)
        intro _
        exact Fallible.meets_pure fun _ holds => ⟨holds.1, fun _ => holds.2⟩
      · intro error
        apply Fallible.meets_except_bind fun _ holds => holds
        intro _ _
        exact Fallible.meets_pure fun _ holds => ⟨holds, fun wrong => absurd wrong (by simp)⟩
    · intro active
      cases active with
      | true =>
        exact Fallible.meets_pure fun _ holds =>
          ⟨holds.1, revision, rfl, (holds.2 rfl).1, fun _ => (holds.2 rfl).2⟩
      | false =>
        apply Fallible.meets_bind _ (ensures_weaken (get_item_ensures businessDate)
          (fun _ _ => trivial) fun _ _ holds => holds)
        intro existing
        cases compared : compareRevision revision checksum existing with
        | error error => exact fun _ holds => holds.1
        | ok status =>
          exact fun _ holds => ⟨holds.1, compare_revision_answered compared holds.2⟩

end Registering

/-! ## The handler -/

section Handler

variable {location : Location} {manifest : Manifest} {businessDate versionId checksum : Str}

/-- Starting the workflow of a founded input is allowed, and a refused start changes nothing. -/
theorem start_execution_ensures (name : Str) (input : WorkflowInput) :
    Ensures deployment offered delivery (startExecution name input)
      (fun world => Founded deployment offered world delivery name input) (fun _ _ => True) := by
  apply ensures_invoke
  · intro world _ founded
    simp only [perform]
    split
    · next missing =>
        exact follows_start founded (execution_missing missing)
    · split <;> exact Follows.refl world
  · exact fun _ _ _ _ _ _ => trivial
  · exact fun _ _ _ _ _ _ => trivial

/-- Once the copy has landed, the rest of the call ends with the revision covered, if it ends
without an error. -/
theorem register_and_start_ensures
    (delivers : Delivers deployment delivery location manifest businessDate checksum) :
    Ensures deployment offered delivery
      (registerAndStart deployment location manifest businessDate versionId checksum)
      (Landed deployment offered (verifiedDataKey businessDate manifest.revision checksum)
        checksum manifest.byteSize.value)
      (fun _ => Handled deployment delivery) := by
  have registering := ensures_frame (@register_revision_ensures _ offered _ _ _ _ _ delivers)
    (landed_lasts (verifiedDataKey businessDate manifest.revision checksum) checksum
      manifest.byteSize.value)
  apply Fallible.meets_bind _ (ensures_weaken registering (fun _ landed => ⟨trivial, landed⟩)
    fun _ _ holds => holds)
  intro status
  cases stated : manifest.revision with
  | bool value =>
    apply Meets.vacuous
    rintro world ⟨_, ⟨_, wrong, _⟩, _⟩
    cases wrong
  | int revision =>
    have covers : ∀ world, Covered businessDate revision checksum world →
        Handled deployment delivery world := fun _ covered =>
      ⟨location, manifest, businessDate, checksum, revision, delivers, stated, covered⟩
    by_cases stale : status = .stale
    · rw [if_pos stale]
      apply Fallible.meets_pure
      rintro world ⟨consistent, ⟨_, same, covered, _⟩, _⟩
      cases same
      exact ⟨consistent, covers world covered⟩
    · rw [if_neg stale]
      have starting : Ensures deployment offered delivery
          (tryCatch (do
              let arn ← startExecution (executionName businessDate (.int revision) checksum)
                (workflowInput deployment location manifest businessDate versionId checksum)
              pure (startedResponse status arn))
            (recheckExecution (executionName businessDate (.int revision) checksum)))
          (fun world => Founded deployment offered world delivery
            (executionName businessDate (.int revision) checksum)
            (workflowInput deployment location manifest businessDate versionId checksum))
          (fun _ _ => True) := by
        apply Fallible.meets_try_catch (Consistent deployment offered)
        · apply Fallible.meets_bind _ (start_execution_ensures _ _)
          intro _
          exact Fallible.meets_pure fun _ holds => holds
        · intro error
          apply Fallible.meets_except_bind fun _ holds => holds
          intro _ _
          exact Fallible.meets_pure fun _ holds => ⟨holds, trivial⟩
      have framed := ensures_frame starting (covered_lasts businessDate revision checksum)
      apply ensures_weaken framed
      · rintro world ⟨⟨number, same, covered, registered⟩, landed⟩
        cases same
        have input : workflowInput deployment location manifest businessDate versionId checksum =
            { workflowInput deployment location manifest businessDate versionId checksum with
              verifiedDataKey := verifiedDataKey businessDate (.int revision) checksum
              revision := revision } := by
          simp only [workflowInput, stated]
          rfl
        rw [input]
        exact ⟨⟨⟨manifest, delivers, stated, landed⟩, rfl, rfl, registered stale⟩, covered⟩
      · exact fun _ world holds => covers world holds.2

/-- Where the data key has a business date, the search for a date in it finds that one. -/
theorem search_date_ok {library : Library} {dataKey : Str}
    (dated : businessDateOf library dataKey = .ok businessDate) :
    searchDate library dataKey = some businessDate := by
  unfold businessDateOf at dated
  cases found : searchDate library dataKey with
  | none => simp [found] at dated
  | some date =>
    rw [found] at dated
    exact congrArg some (Except.ok.inj dated)

/-- An invocation that responds has handled its delivery.

Proof: the calls of the handler in their order, each with what it ensures, carried along by the
frame rule. -/
theorem handler_ensures : Ensures deployment offered delivery (handler deployment delivery.event)
    (fun _ => True) (fun _ => Handled deployment delivery) := by
  apply Fallible.meets_except_bind fun _ holds => holds.1
  intro location located
  apply Fallible.meets_bind _ (get_object_ensures location)
  intro body
  apply ensures_assume
  rintro rfl
  apply Fallible.meets_except_bind fun _ holds => holds.1
  intro manifest checked
  apply Fallible.meets_bind _ (head_object_ensures _)
  intro head
  apply Fallible.meets_except_bind fun _ holds => holds.1
  rintro ⟨versionId, checksum⟩ headed
  apply Fallible.meets_except_bind fun _ holds => holds.1
  intro businessDate dated
  have searched := search_date_ok dated
  apply @ensures_weaken _ _ _ _ _ _ _ (fun world =>
    Delivers deployment delivery location manifest businessDate checksum ∧
      ∃ version ∈ world.store.landing ⟨location.bucket, dataKeyOf location.key⟩,
        Describes deployment.library manifest version versionId checksum)
  · apply ensures_assume
    intro delivers
    apply Fallible.meets_bind _ copy_object_ensures
    intro copied
    apply Fallible.meets_except_bind fun _ holds => holds.1
    intro _ _
    exact register_and_start_ensures delivers
  · rintro world ⟨version, member, rfl⟩
    have describes := check_head_ok headed
    exact ⟨⟨located, checked, searched, describes.digest⟩, version, member, describes⟩
  · exact fun _ _ holds => holds

end Handler

/-! ## Runs -/

/-- The empty world is consistent: nothing was delivered, registered or started in it. -/
theorem consistent_empty : Consistent deployment offered emptyWorld where
  objects := ⟨fun _ => List.nodup_nil, fun _ _ member => absurd member List.not_mem_nil,
    fun _ _ held => absurd held (by simp [emptyWorld, emptyStore])⟩
  registered := ⟨List.Pairwise.nil, fun _ => rfl, fun _ member => absurd member List.not_mem_nil⟩
  executions := ⟨List.nodup_nil, fun _ member => absurd member List.not_mem_nil,
    fun _ _ _ member => absurd member List.not_mem_nil⟩
  gated := ⟨fun _ member => absurd member List.not_mem_nil,
    fun _ _ held => absurd held (by simp [emptyWorld, emptyStore])⟩

section Running

variable {policy : Policy} {pool later : SettlementPool}

/-- Every thread can go on to its postcondition. -/
abbrev LoaderSupported (deployment : Deployment) (policy : Policy) (pool : SettlementPool) : Prop :=
  Pool.Supported (settlementSystem deployment policy) (Follows deployment policy.offered)
    (Follows deployment policy.offered)
    (fun delivery => Fallible.Ends
      (fun _ world => Consistent deployment policy.offered world ∧
        Handled deployment delivery world)
      (Consistent deployment policy.offered)) pool

/-- Any number of steps follow the protocol, from a pool that is supported and consistent. -/
theorem continues_supported (run : Continues deployment policy pool later)
    (supported : LoaderSupported deployment policy pool)
    (consistent : Consistent deployment policy.offered pool.world) :
    LoaderSupported deployment policy later ∧
      Consistent deployment policy.offered later.world ∧
      Relation.ReflTransGen (Follows deployment policy.offered) pool.world later.world := by
  refine Pool.runs_supported run consistent_stable consistent ?_ (fun _ _ follows => follows) ?_
    supported
  · intro delivery world holds _
    have stable : Stable (Follows deployment policy.offered)
        (fun world => Consistent deployment policy.offered world ∧ True) :=
      fun _ _ follows both => ⟨follows.consistent both.1, trivial⟩
    exact ⟨_, ⟨holds, trivial⟩, stable, handler_ensures⟩
  · rintro before after ⟨move, allowed, moved⟩
    exact follows_move allowed moved

/-- Every reachable pool has a consistent world and supports the assertions its calls rely on.

Proof: the general rule for pools of programs, with what each call ensures and what each move
keeps. -/
theorem reaches_supported (reached : Reaches deployment policy pool) :
    LoaderSupported deployment policy pool ∧ Consistent deployment policy.offered pool.world := by
  obtain ⟨supported, consistent, _⟩ := continues_supported reached
    (fun _ member => absurd member List.not_mem_nil) consistent_empty
  exact ⟨supported, consistent⟩

/-- Reachable worlds are consistent, in every pool and after any crashes. -/
theorem reaches_consistent (reached : Reaches deployment policy pool) :
    Consistent deployment policy.offered pool.world := (reaches_supported reached).2

/-- Any number of steps from a reachable pool follow the protocol, so nothing that lasts is lost
in them. -/
theorem continues_follows (reached : Reaches deployment policy pool)
    (run : Continues deployment policy pool later) :
    Relation.ReflTransGen (Follows deployment policy.offered) pool.world later.world := by
  obtain ⟨supported, consistent⟩ := reaches_supported reached
  exact (continues_supported run supported consistent).2.2

/-- A delivery whose invocation responded is covered, and stays so. -/
theorem reaches_handled (reached : Reaches deployment policy pool) {delivery : Delivery}
    {response : Response} (finished : ⟨delivery, .done (.ok response)⟩ ∈ pool.threads) :
    Handled deployment delivery pool.world :=
  (Pool.supported_result (reaches_supported reached).1 finished).2

end Running

/-! ## Everything that calls and moves do -/

/-- What a call leaves: the world as it was, with a verified copy, with a registration, or
with an execution. -/
inductive CallEffect (delivery : Delivery) (before : World) : World → Prop
  | none : CallEffect delivery before before
  | copied (key : Str) (body : Bytes) :
      CallEffect delivery before { before with store := before.store.verify key body }
  | registered (businessDate : Str) (revision : Int) (sha256 key : Str)
      (newer : ∀ item, before.store.publications businessDate = some item →
        item.revision < revision) :
      CallEffect delivery before
        ⟨before.store.publish businessDate (processingItem revision sha256 key),
          .registered ⟨delivery, businessDate, revision, sha256, key⟩ :: before.journal⟩
  | started (name : Str) (input : WorkflowInput)
      (fresh : name ∉ before.store.executions.map Execution.name) :
      CallEffect delivery before
        ⟨{ before.store with
            executions := ⟨name, input, .running .validateSettlementManifest, 0⟩ ::
              before.store.executions }, .started delivery name input :: before.journal⟩

/-- Performing a request has one of the listed effects on the world; most have none. -/
theorem perform_effect (request : CloudCall) (world : World) :
    CallEffect delivery world (perform deployment delivery request world).2 := by
  cases request with
  | getObject location =>
    simp only [perform]
    split <;> exact .none
  | headObject location =>
    simp only [perform]
    split <;> exact .none
  | copyObject key source versionId eTag =>
    simp only [perform]
    split
    · exact .none
    · split
      · exact .copied _ _
      · exact .none
  | updateItem businessDate revision sha256 key =>
    simp only [perform]
    split
    · next newer => exact .registered _ _ _ _ newer
    · exact .none
  | getItem businessDate => exact .none
  | startExecution name input =>
    simp only [perform]
    split
    · next missing =>
        exact .started _ _ (execution_missing missing)
    · split <;> exact .none

/-- Everything a call can do: nothing, copy, register a newer revision, or start an execution of a
new name. Later proofs go by these cases. -/
theorem call_effect {request : CloudCall} {before after : World}
    {reply : Answer PyError CloudCall.Rows request}
    (answered : cloudEffect deployment delivery request before reply after) :
    CallEffect delivery before after := by
  obtain ⟨⟨_, exact | ⟨_, rfl | rfl⟩⟩, _⟩ := answered
  · obtain ⟨_, rfl⟩ := Prod.mk.inj exact
    exact perform_effect request before
  · exact .none
  · exact perform_effect request before

/-- What a move leaves: a new version, a new arrival, or an advanced execution. -/
inductive MoveEffect (policy : Policy) (library : Library) (before : World) : World → Prop
  | put (location : Location) (version : ObjectVersion) :
      MoveEffect policy library before { before with store := before.store.put location version }
  | arrived (event : PaymentEvent) :
      MoveEffect policy library before { before with store := { before.store with
        accepted := before.store.accepted ++ [event] } }
  | advanced {name : Str} {outcome : Outcome} {execution : Execution} {stage : Stage}
      {after : World} (permitted : policy.permits before (.advance name outcome))
      (advanced : Advanced library before after name outcome execution stage) :
      MoveEffect policy library before after

/-- Everything a move can do: deliver a version, let an object arrive, or advance an execution.
Later proofs go by these cases. -/
theorem move_effect {policy : Policy} {library : Library} {before after : World} {move : Move}
    (allowed : policy.Allows before move) (moved : before.move library move = some after) :
    MoveEffect policy library before after := by
  cases move with
  | put location version =>
    by_cases fresh : ∀ other ∈ before.store.landing location, other.versionId ≠ version.versionId
    · simp only [World.move, if_pos fresh, Option.some.injEq] at moved
      exact moved ▸ .put location version
    · simp only [World.move, if_neg fresh, reduceCtorEq] at moved
  | arrive event =>
    cases moved
    exact .arrived event
  | advance name outcome =>
    obtain ⟨execution, stage, advanced⟩ := move_advance moved
    exact .advanced allowed.1 advanced

/-- A call adds at most one entry, which is not the run of a job. -/
theorem call_entries {before after : World} (effect : CallEffect delivery before after) :
    after.journal = before.journal ∨ ∃ entry, after.journal = entry :: before.journal ∧
      ∀ input stage store outcome, entry ≠ .ran input stage store outcome := by
  cases effect with
  | none => exact .inl rfl
  | copied => exact .inl rfl
  | registered => exact .inr ⟨_, rfl, fun _ _ _ _ wrong => by cases wrong⟩
  | started => exact .inr ⟨_, rfl, fun _ _ _ _ wrong => by cases wrong⟩

/-- A move adds at most the run of the job of the execution that it advances, on the store
that it finds. -/
theorem move_entries {policy : Policy} {library : Library} {before after : World}
    (effect : MoveEffect policy library before after) :
    after.journal = before.journal ∨ ∃ name execution stage outcome,
      policy.permits before (.advance name outcome) ∧
      Advanced library before after name outcome execution stage ∧ outcome.performs = true ∧
      after.journal = .ran execution.input stage before.store outcome :: before.journal := by
  cases effect with
  | put => exact .inl rfl
  | arrived => exact .inl rfl
  | @advanced name outcome execution stage _ permitted advanced =>
    obtain ⟨state, retries, _, left⟩ := advanced.next
    by_cases performs : outcome.performs = true
    · rw [if_pos performs] at left
      exact .inr ⟨name, execution, stage, outcome, permitted, advanced, performs,
        congrArg World.journal left⟩
    · rw [if_neg performs] at left
      have same : after.journal = before.journal := by rw [left]
      exact .inl same

/-- The journal only grows in a call. -/
theorem call_journal {before after : World} (effect : CallEffect delivery before after) :
    before.journal <:+ after.journal := by
  rcases call_entries effect with same | ⟨entry, same, _⟩
  · exact ⟨[], same.symm⟩
  · exact ⟨[entry], same.symm⟩

/-- A move of the pool does not shorten the journal either. -/
theorem move_journal {policy : Policy} {library : Library} {before after : World}
    (effect : MoveEffect policy library before after) : before.journal <:+ after.journal := by
  rcases move_entries effect with same | ⟨_, _, _, _, _, _, _, same⟩
  · exact ⟨[], same.symm⟩
  · exact ⟨[_], same.symm⟩

section Jobs

variable {input : WorkflowInput} {stage : Stage} {store : Store} {outcome : Outcome}

/-- Calls run no jobs, so the jobs of the journal are those of the moves. -/
theorem call_ran {before after : World} (effect : CallEffect delivery before after)
    (ran : .ran input stage store outcome ∈ after.journal) :
    .ran input stage store outcome ∈ before.journal := by
  rcases call_entries effect with same | ⟨entry, same, other⟩
  · exact same ▸ ran
  · rw [same] at ran
    rcases List.mem_cons.mp ran with wrong | earlier
    · exact absurd wrong.symm (other _ _ _ _)
    · exact earlier

/-- A job ran before, or the move runs it, in the world that the entry records. -/
theorem move_ran {policy : Policy} {library : Library} {before after : World}
    (effect : MoveEffect policy library before after)
    (ran : .ran input stage store outcome ∈ after.journal) :
    .ran input stage store outcome ∈ before.journal ∨
      ∃ name execution, policy.permits before (.advance name outcome) ∧
        Advanced library before after name outcome execution stage ∧ outcome.performs = true ∧
        input = execution.input ∧ store = before.store := by
  rcases move_entries effect with same | ⟨name, execution, _, _, permitted, advanced, performs, same⟩
  · exact .inl (same ▸ ran)
  · rw [same] at ran
    rcases List.mem_cons.mp ran with new | earlier
    · cases new
      exact .inr ⟨name, execution, permitted, advanced, performs, rfl, rfl⟩
    · exact .inl earlier

end Jobs

/-- An invariant of every reachable world: it holds of the empty one, and every effect
of a call or a move between consistent worlds preserves it. -/
theorem reaches_holds {policy : Policy} {pool : SettlementPool} {holds : World → Prop}
    (reached : Reaches deployment policy pool) (initially : holds emptyWorld)
    (calls : ∀ delivery before after, Consistent deployment policy.offered before →
      Consistent deployment policy.offered after → CallEffect delivery before after →
      holds before → holds after)
    (moves : ∀ before after, Consistent deployment policy.offered before →
      Consistent deployment policy.offered after → MoveEffect policy deployment.library before after →
      holds before → holds after) : holds pool.world := by
  apply Pool.reachable_holds reached (fun _ => reaches_consistent) initially
  · intro delivery request before reply after consistent still kept answered
    exact calls delivery before after consistent still (call_effect answered) kept
  · rintro before after consistent still kept ⟨move, allowed, moved⟩
    exact moves before after consistent still (move_effect allowed moved) kept

/-- Every job saw a store, after the journal until then, for which this holds. -/
def JobsSaw (holds : World → Prop) (world : World) : Prop :=
  ∀ later input stage before outcome earlier,
    world.journal = later ++ .ran input stage before outcome :: earlier → holds ⟨before, earlier⟩

/-- What holds of every reachable world held whenever a job ran, since the journal records the
world in which it did. -/
theorem jobs_saw {policy : Policy} {pool : SettlementPool} {holds : World → Prop}
    (everywhere : ∀ pool, Reaches deployment policy pool → holds pool.world)
    (reached : Reaches deployment policy pool) : JobsSaw holds pool.world := by
  have pushed {world : World} {journal : List Entry} {entry : Entry}
      (seen : JobsSaw holds world) (same : journal = entry :: world.journal)
      (new : ∀ input stage store outcome, entry = .ran input stage store outcome →
        holds ⟨store, world.journal⟩) (store : Store) : JobsSaw holds ⟨store, journal⟩ := by
    subst same
    intro later input stage before outcome earlier split
    cases later with
    | nil =>
      obtain ⟨ran, rfl⟩ := List.cons.inj split
      exact new input stage before outcome ran
    | cons first rest =>
      exact seen rest input stage before outcome earlier (List.cons.inj split).2
  apply Pool.reachable_holds reached everywhere
  · intro later input stage before outcome earlier split
    exact absurd split (by simp [emptyWorld])
  · intro _ _ before _ after _ _ seen answered
    rcases call_entries (call_effect answered) with same | ⟨entry, same, other⟩
    · intro later input stage store outcome earlier split
      exact seen later input stage store outcome earlier (same.symm.trans split)
    · exact pushed seen same (fun _ _ _ _ wrong => absurd wrong (other _ _ _ _)) after.store
  · rintro before after known _ seen ⟨move, allowed, moved⟩
    rcases move_entries (move_effect allowed moved) with same | ⟨_, _, _, _, _, _, _, same⟩
    · intro later input stage store outcome earlier split
      exact seen later input stage store outcome earlier (same.symm.trans split)
    · apply pushed seen same _ after.store
      intro _ _ _ _ ran
      cases ran
      exact known

end LedgerFlow.Settlement
