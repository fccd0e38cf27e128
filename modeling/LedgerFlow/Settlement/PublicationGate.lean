import LedgerFlow.Settlement.Plays

/-!
# The publication gate

`GateSafe` is what the conditional updates buy over whole runs, under any policy: the
registered revision of a date never falls and keeps its digest, a reconciled record is
that of an execution that completed every job, only executions of the recorded revision
change a record, and once every delivery of a date was handled its record is the highest
revision delivered.
-/

namespace LedgerFlow.Settlement

open PyText PyJson PyBytes PyDateTime Programs Revisions

variable {deployment : Deployment} {policy : Policy} {pool : SettlementPool}

/-! ## What a delivery states -/

/-- The delivery states this revision of this date, with this digest. -/
def Delivered (deployment : Deployment) (delivery : Delivery) (businessDate : Str)
    (revision : Int) (sha256 : Str) : Prop :=
  ∃ location manifest, Delivers deployment delivery location manifest businessDate sha256 ∧
    manifest.revision = .int revision

/-- An entry of a manifest is one text at most, so that what a gate compared it with is
determined. -/
theorem is_text_unique {first second : Str} {entry : Option Json}
    (left : isText first entry = true) (right : isText second entry = true) : first = second := by
  match entry, left, right with
  | some (.str found), left, right =>
    exact (of_decide_eq_true left).symm.trans (of_decide_eq_true right)

/-- A delivery states one revision: the bytes that it was delivered with fix the date, the
revision number and the digest. -/
theorem delivered_unique {delivery : Delivery} {firstDate secondDate firstSha secondSha : Str}
    {firstRevision secondRevision : Int}
    (first : Delivered deployment delivery firstDate firstRevision firstSha)
    (second : Delivered deployment delivery secondDate secondRevision secondSha) :
    firstDate = secondDate ∧ firstRevision = secondRevision ∧ firstSha = secondSha := by
  obtain ⟨location, manifest, delivers, stated⟩ := first
  obtain ⟨otherLocation, otherManifest, otherDelivers, otherStated⟩ := second
  have locations : location = otherLocation :=
    Except.ok.inj (delivers.event.symm.trans otherDelivers.event)
  subst locations
  have manifests : manifest = otherManifest :=
    Except.ok.inj (delivers.checked.symm.trans otherDelivers.checked)
  subst manifests
  refine ⟨?_, ?_, ?_⟩
  · exact Option.some.inj (delivers.date.symm.trans otherDelivers.date)
  · exact PyInt.int.inj (stated.symm.trans otherStated)
  · exact is_text_unique delivers.digest otherDelivers.digest

/-! ## Registrations come from started deliveries -/

/-- A move of the workflow registers nothing; only a loader's invocation writes to the registry of
revisions. -/
theorem move_registrations {library : Library} {before after : World}
    (effect : MoveEffect policy library before after) :
    registrations after.journal = registrations before.journal := by
  cases effect with
  | put => rfl
  | arrived => rfl
  | advanced _ advanced =>
    obtain ⟨base, state, retries, advance⟩ := advanced_leaves advanced
    rcases advance.journal with same | ⟨outcome, same⟩
    · rw [same]
    · rw [same]
      rfl

/-- Every registration in the journal was made by an invocation of its delivery, which was started
before. -/
theorem registration_started (reached : Reaches deployment policy pool)
    {registration : Registration} (member : registration ∈ registrations pool.world.journal) :
    registration.delivery ∈ pool.started := by
  apply (@Pool.reachable_started _ _ _ _ _ (settlementSystem deployment policy) emptyWorld
    (fun world delivery => ∃ found ∈ registrations world.journal, found.delivery = delivery)
    pool reached ?_ ?_ ?_).1
  · exact ⟨registration, member, rfl⟩
  · rintro _ ⟨_, none, _⟩
    cases none
  · rintro delivery request before reply after answered other ⟨found, inside, rfl⟩
    cases call_effect answered with
    | none => exact .inl ⟨found, inside, rfl⟩
    | copied => exact .inl ⟨found, inside, rfl⟩
    | registered businessDate revision sha256 key newer =>
      rcases List.mem_cons.mp inside with rfl | earlier
      · exact .inr rfl
      · exact .inl ⟨found, earlier, rfl⟩
    | started => exact .inl ⟨found, inside, rfl⟩
  · rintro before after ⟨move, allowed, moved⟩ delivery ⟨found, inside, same⟩
    rw [move_registrations (move_effect allowed moved)] at inside
    exact ⟨found, inside, same⟩

/-- The record of a date was stated by a delivery that was started: nothing but a loader's
registration makes a record, and a workflow changes its status only. -/
theorem record_delivered (reached : Reaches deployment policy pool) {businessDate : Str}
    {item : Publication} (held : pool.world.store.publications businessDate = some item) :
    ∃ delivery ∈ pool.started,
      Delivered deployment delivery businessDate item.revision item.manifestSha256 := by
  have registered := (reaches_consistent reached).registered
  obtain ⟨top, found, same⟩ := registered.newest_item held
  obtain ⟨member, named⟩ := newest_mem found
  obtain ⟨location, manifest, delivers, stated⟩ := (registered.grounded top member).delivers
  have revisions : item.revision = top.revision := congrArg Prod.fst same
  have digests : item.manifestSha256 = top.sha256 := congrArg (fun identity => identity.2.1) same
  refine ⟨top.delivery, registration_started reached member, location, manifest, ?_, ?_⟩
  · rw [digests, ← named]
    exact delivers
  · rw [revisions]
    exact stated

/-! ## Safety -/

/-- The jobs of a workflow before it publishes. -/
def taskStages : List Stage :=
  [.validateSettlementManifest, .ingestAcceptedEvents, .runPaymentStateReconstruction,
    .postLedger, .reconcileSettlement]

/-- Every delivered revision of a date has an invocation that responded. -/
def AllHandled (deployment : Deployment) (pool : SettlementPool) (businessDate : Str) : Prop :=
  ∀ delivery ∈ pool.started, ∀ revision sha256,
    Delivered deployment delivery businessDate revision sha256 →
      ∃ other response, Delivered deployment other businessDate revision sha256 ∧
        ⟨other, .done (.ok response)⟩ ∈ pool.threads

/-- The publication gate is safe. -/
structure GateSafe (deployment : Deployment) (policy : Policy) (pool : SettlementPool) : Prop where
  /-- Revisions never fall, and keep their digests. -/
  revisions : ∀ later, Continues deployment policy pool later → ∀ businessDate item,
    pool.world.store.publications businessDate = some item →
      ∃ newer, later.world.store.publications businessDate = some newer ∧
        item.revision ≤ newer.revision ∧
        (item.revision = newer.revision → item.manifestSha256 = newer.manifestSha256)
  /-- A reconciled record is that of an execution that completed every job. -/
  reconciled : ∀ businessDate item, pool.world.store.publications businessDate = some item →
    item.status = .reconciled → ∃ execution ∈ pool.world.store.executions,
      execution.input.businessDate = businessDate ∧ execution.input.revision = item.revision ∧
      execution.input.sha256 = item.manifestSha256 ∧
      ∀ stage ∈ taskStages, Completed deployment.library execution.input stage pool.world
  /-- Only executions of the recorded revision and digest change a record. -/
  changes : ∀ name outcome next execution,
    pool.world.move deployment.library (.advance name outcome) = some next →
    pool.world.store.execution name = some execution → ∀ businessDate,
    next.store.publications businessDate ≠ pool.world.store.publications businessDate →
      businessDate = execution.input.businessDate ∧ ∃ item,
        pool.world.store.publications businessDate = some item ∧
        item.revision = execution.input.revision ∧ item.manifestSha256 = execution.input.sha256
  /-- Once everything was handled the record is the highest revision delivered. -/
  highest : ∀ businessDate, AllHandled deployment pool businessDate →
    ∀ delivery ∈ pool.started, ∀ revision sha256,
      Delivered deployment delivery businessDate revision sha256 →
        ∃ item, pool.world.store.publications businessDate = some item ∧
          (∃ top ∈ pool.started,
            Delivered deployment top businessDate item.revision item.manifestSha256) ∧
          revision ≤ item.revision ∧ (revision = item.revision → sha256 = item.manifestSha256)

/-- After any number of steps the record of a date is either that of a higher revision or has the
same identity, so that a published revision never gives way to an older one. -/
theorem follows_revisions {offered : Bytes → Prop} {before after : World}
    (moved : Relation.ReflTransGen (Follows deployment offered) before after) {businessDate : Str}
    {item : Publication} (held : before.store.publications businessDate = some item) :
    ∃ newer, after.store.publications businessDate = some newer ∧
      (item.revision < newer.revision ∨ item.identity = newer.identity) := by
  induction moved with
  | refl => exact ⟨item, held, .inr rfl⟩
  | tail _ step inductionHypothesis =>
    obtain ⟨middle, found, first⟩ := inductionHypothesis
    obtain ⟨newer, last, second⟩ := step.revisions businessDate middle found
    refine ⟨newer, last, ?_⟩
    rcases second with higher | same
    · rcases first with lower | equal
      · exact .inl (lower.trans higher)
      · have revisions : item.revision = middle.revision := congrArg Prod.fst equal
        exact .inl (revisions ▸ higher)
    · have revisions : middle.revision = newer.revision := congrArg Prod.fst same
      rcases first with lower | equal
      · exact .inl (revisions ▸ lower)
      · exact .inr (equal.trans same)

/-- The states that perform a task come before the publication gate, which is what makes a
publication the last step of its execution. -/
theorem task_before_gate {stage : Stage} (member : stage ∈ taskStages) :
    stage.position < Stage.publishGate.position := by
  simp only [taskStages, List.mem_cons, List.not_mem_nil, or_false] at member
  rcases member with rfl | rfl | rfl | rfl | rfl <;> decide

/-- A record that an advance changes is the record of its execution: the date is the execution's
own, and the record found there has its revision and digest. This is the conditional write of the
publication. -/
theorem advance_changes {library : Library} {world next : World} {name : Str} {outcome : Outcome}
    {execution : Execution} (moved : world.move library (.advance name outcome) = some next)
    (found : world.store.execution name = some execution) {businessDate : Str}
    (changed : next.store.publications businessDate ≠ world.store.publications businessDate) :
    businessDate = execution.input.businessDate ∧ ∃ item,
      world.store.publications businessDate = some item ∧
      item.revision = execution.input.revision ∧ item.manifestSha256 = execution.input.sha256 := by
  obtain ⟨other, stage, advanced⟩ := move_advance moved
  have same : execution = other := Option.some.inj (found.symm.trans advanced.found)
  subst same
  obtain ⟨base, state, retries, advance⟩ := advanced_leaves advanced
  rw [advance.store] at changed
  rcases advance.framed.records businessDate with kept | ⟨_, date, item, held, revision, sha256, _⟩
  · exact absurd kept changed
  · exact ⟨date, item, held, revision, sha256⟩

/-- Publication is safe in every run of deliveries, crashes, client errors and workflow steps, in
any interleaving: each clause is an invariant of the reachable worlds, assembled here. -/
theorem gate_safe (reached : Reaches deployment policy pool) : GateSafe deployment policy pool where
  revisions := by
    intro later run businessDate item held
    obtain ⟨newer, found, further⟩ := follows_revisions (continues_follows reached run) held
    refine ⟨newer, found, ?_⟩
    rcases further with lower | same
    · exact ⟨le_of_lt lower, fun equal => absurd equal (ne_of_lt lower)⟩
    · exact ⟨le_of_eq (congrArg Prod.fst same), fun _ => congrArg (fun identity => identity.2.1) same⟩
  reconciled := by
    intro businessDate item held status
    obtain ⟨execution, member, date, revision, sha256, completed⟩ :=
      (reaches_consistent reached).gated.reconciled businessDate item held status
    exact ⟨execution, member, date, revision, sha256,
      fun stage task => completed stage (task_before_gate task)⟩
  changes := fun _ _ _ _ moved found _ changed => advance_changes moved found changed
  highest := by
    intro businessDate handled delivery started revision sha256 delivered
    obtain ⟨other, response, same, finished⟩ := handled delivery started revision sha256 delivered
    obtain ⟨location, manifest, date, digest, number, delivers, stated, covered⟩ :=
      reaches_handled reached finished
    obtain ⟨rfl, rfl, rfl⟩ := delivered_unique same ⟨location, manifest, delivers, stated⟩
    obtain ⟨item, held, bound⟩ := covered
    refine ⟨item, held, record_delivered reached held, ?_⟩
    rcases bound with lower | ⟨equal, digests⟩
    · exact ⟨le_of_lt lower, fun wrong => absurd wrong (ne_of_lt lower)⟩
    · exact ⟨le_of_eq equal, fun _ => digests⟩

/-- A day whose files were delivered and whose execution ran to its end is published, and
safely. -/
theorem gate_safe_settled_day :
    ∃ pool, (Reaches settlementDeployment samplePolicy pool ∧
      ((pool.world.store.publications settledDate.text).map Publication.status =
        some .reconciled)) ∧ GateSafe settlementDeployment samplePolicy pool := by
  obtain ⟨pool, reached, published⟩ := @plays_reaches settlementDeployment samplePolicy _ settledDay
    (fun pool => (pool.world.store.publications settledDate.text).map Publication.status =
      some .reconciled) _ (by decide +kernel)
  exact ⟨pool, ⟨reached, published⟩, gate_safe reached⟩

end LedgerFlow.Settlement
