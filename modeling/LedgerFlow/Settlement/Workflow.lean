import LedgerFlow.Settlement.ManifestLoader

/-!
# The settlement workflow

The definitions follow `settlement_workflow.asl.json`. `runStage` is the job of a state
on the store, as one step, with the error it ends with. `World.move` is everything that
happens outside the loader: a version of an object is put, an accepted event arrives, or
an execution advances. A state's job may end the execution or be tried again after a
time-out, whether or not it was performed.

`settlementSystem` runs any number of loader invocations against these moves. A policy
says which moves may happen; most results hold under every policy.
-/

namespace LedgerFlow.Settlement

open PyText PyJson PyBytes PyDateTime Programs Spark

/-! ## Jobs -/

/-- The accepted objects under `accepted/event_date=<business date>/`. -/
def objectsUnder (businessDate : Str) (accepted : List PaymentEvent) : List PaymentEvent :=
  accepted.filter fun event => event.eventTime.date.text = businessDate

/-- A job that replaces the warehouse, or fails and leaves it. -/
def onWarehouse (store : Store) (job : Py Warehouse) : Store × Py Unit :=
  match job with
  | .ok warehouse => ({ store with warehouse }, .ok ())
  | .error error => (store, .error error)

/-- The bytes of a path, which must exist. -/
def readPath (contents : Option Bytes) : Py Bytes :=
  match contents with
  | none => .error (.other (str "PATH_NOT_FOUND"))
  | some bytes => .ok bytes

/-- The newest version of an object. -/
def Store.latest (store : Store) (location : Location) : Option Bytes :=
  (store.landing location).head?.map ObjectVersion.body

/-- The validation job reads the verified data and the manifest as it is now. -/
def validateStage (library : Library) (input : WorkflowInput) (store : Store) : Py Unit := do
  let manifest ← readPath (store.latest input.manifest)
  let data ← readPath (store.verified input.verifiedDataKey)
  validateSettlementManifest library manifest data input.businessDate

/-- The reconciliation job. -/
def reconcileStage (library : Library) (input : WorkflowInput) (store : Store) :
    Store × Py Unit :=
  match store.verified input.verifiedDataKey with
  | none => (store, .error (.other (str "PATH_NOT_FOUND")))
  | some data =>
      let (settlement, result) := reconcileSettlements library store.warehouse data
        input.businessDate store.settlement
      ({ store with settlement }, result)

/-- The conditional update of the publication record. -/
def publishStage (input : WorkflowInput) (store : Store) : Store × Py Unit :=
  match store.publications input.businessDate with
  | none => (store, .error conditionalCheckFailed)
  | some item =>
      if item.revision = input.revision ∧ item.manifestSha256 = input.sha256 then
        (store.publish input.businessDate { item with status := .reconciled }, .ok ())
      else (store, .error conditionalCheckFailed)

/-- What the job of a state does. The states that build and store the evidence of a
publication change nothing that is read again. -/
def runStage (library : Library) (stage : Stage) (input : WorkflowInput) (store : Store) :
    Store × Py Unit :=
  match stage with
  | .validateSettlementManifest => (store, validateStage library input store)
  | .ingestAcceptedEvents =>
      onWarehouse store (.ok (ingestAcceptedEvents
        (objectsUnder input.businessDate store.accepted) store.warehouse))
  | .runPaymentStateReconstruction =>
      onWarehouse store
        (reconstructPaymentState (touchedOn (toDate input.businessDate)) store.warehouse)
  | .postLedger =>
      onWarehouse store (postLedger (touchedOn (toDate input.businessDate)) store.warehouse)
  | .reconcileSettlement => reconcileStage library input store
  | .buildPublicationEvidence | .writePublicationEvidence => (store, .ok ())
  | .publishGate => publishStage input store

/-! ## Executions -/

/-- `Next` -/
def Stage.next : Stage → Option Stage
  | .validateSettlementManifest => some .ingestAcceptedEvents
  | .ingestAcceptedEvents => some .runPaymentStateReconstruction
  | .runPaymentStateReconstruction => some .postLedger
  | .postLedger => some .reconcileSettlement
  | .reconcileSettlement => some .buildPublicationEvidence
  | .buildPublicationEvidence => some .writePublicationEvidence
  | .writePublicationEvidence => some .publishGate
  | .publishGate => none

/-- Whether a state has a `Retry`. -/
def Stage.retryable : Stage → Bool
  | .validateSettlementManifest | .ingestAcceptedEvents | .runPaymentStateReconstruction
  | .postLedger | .reconcileSettlement => true
  | .buildPublicationEvidence | .writePublicationEvidence | .publishGate => false

/-- `MaxAttempts` -/
def maxAttempts : Nat := 2

/-- `Next`, `End` and `Catch`: where an execution goes when its state's job ends. -/
def Stage.after (stage : Stage) : Py Unit → ExecutionState
  | .ok () =>
      match stage.next with
      | some next => .running next
      | none => .succeeded
  | .error error =>
      if stage = .publishGate ∧ error = conditionalCheckFailed then .superseded
      else .workflowFailed

/-- Replace the execution of a name. -/
def Store.update (store : Store) (execution : Execution) : Store :=
  { store with executions := store.executions.map fun other =>
      if other.name = execution.name then execution else other }

/-- Whether an outcome performs the job. -/
def Outcome.performs : Outcome → Bool
  | .completes => true
  | .fails performed => performed
  | .retries performed => performed

/-- Where an outcome leaves an execution, and the retries of its state. -/
def outcomeState (execution : Execution) (stage : Stage) (result : Py Unit) :
    Outcome → Option (ExecutionState × Nat)
  | .completes => some (stage.after result, 0)
  | .fails _ => some (.workflowFailed, 0)
  | .retries _ =>
      if stage.retryable = true ∧ execution.retries < maxAttempts then
        some (.running stage, execution.retries + 1)
      else none

/-- One outcome of the job of an execution's state. A job that is performed is recorded
with the store it ran on. -/
def World.advanceStage (library : Library) (world : World) (execution : Execution)
    (stage : Stage) (outcome : Outcome) : Option World :=
  let ran := runStage library stage execution.input world.store
  (outcomeState execution stage ran.2 outcome).map fun (state, retries) =>
    if outcome.performs then
      ⟨ran.1.update { execution with state, retries },
        .ran execution.input stage world.store outcome :: world.journal⟩
    else ⟨world.store.update { execution with state, retries }, world.journal⟩

/-- The execution of a name. -/
def Store.execution (store : Store) (name : Str) : Option Execution :=
  store.executions.find? fun execution => execution.name = name

/-! ## Moves -/

/-- What happens outside the loader. -/
inductive Move where
  /-- A version of an object is delivered. -/
  | put (location : Location) (version : ObjectVersion)
  /-- A new accepted object appears. -/
  | arrive (event : PaymentEvent)
  /-- The job of an execution's state ends. -/
  | advance (name : Str) (outcome : Outcome)

/-- One move, if it is possible: versions have new identifiers, and only running
executions advance. -/
def World.move (library : Library) (world : World) : Move → Option World
  | .put location version =>
      if ∀ other ∈ world.store.landing location, other.versionId ≠ version.versionId then
        some { world with store := world.store.put location version }
      else none
  | .arrive event =>
      some { world with store := { world.store with
        accepted := world.store.accepted ++ [event] } }
  | .advance name outcome =>
      match world.store.execution name with
      | none => none
      | some execution =>
          match execution.state with
          | .running stage => world.advanceStage library execution stage outcome
          | _ => none

/-! ## The system -/

/-- Which bytes are ever delivered, and which moves may happen. -/
structure Policy where
  offered : Bytes → Prop
  permits : World → Move → Prop

/-- A move that a policy allows. -/
def Policy.Allows (policy : Policy) (world : World) (move : Move) : Prop :=
  policy.permits world move ∧
    match move with
    | .put _ version => policy.offered version.body
    | _ => True

/-- Any number of loader invocations, and the moves around them. -/
def settlementSystem (deployment : Deployment) (policy : Policy) :
    System Delivery CloudCall (Answer PyError CloudCall.Rows) (Except PyError Response) World where
  admits _ _ := True
  program delivery := (handler deployment delivery.event).run
  effect delivery := cloudEffect deployment delivery
  environment before after := ∃ move, policy.Allows before move ∧
    before.move deployment.library move = some after

/-- The pools of loader invocations. -/
abbrev SettlementPool :=
  Pool Delivery CloudCall (Answer PyError CloudCall.Rows) (Except PyError Response) World

/-- The pools that steps of the system reach from the empty platform. -/
abbrev Reaches (deployment : Deployment) (policy : Policy) (pool : SettlementPool) : Prop :=
  Pool.Reachable (settlementSystem deployment policy) emptyWorld pool

/-- Any number of steps of the system. -/
abbrev Continues (deployment : Deployment) (policy : Policy) : SettlementPool → SettlementPool →
    Prop :=
  Relation.ReflTransGen (Pool.Step (settlementSystem deployment policy))

/-! ## What a job changes -/

/-- The record of a date is as before, or the last state of a workflow for the recorded
revision has published it. -/
def RecordKept (stage : Stage) (input : WorkflowInput) (before after : Store) (businessDate : Str) :
    Prop :=
  after.publications businessDate = before.publications businessDate ∨
    stage = .publishGate ∧ businessDate = input.businessDate ∧
      ∃ item, before.publications businessDate = some item ∧ item.revision = input.revision ∧
        item.manifestSha256 = input.sha256 ∧
        after.publications businessDate = some { item with status := .reconciled }

/-- No job touches objects, executions or arrivals, and only the last state touches a
record. -/
structure Framed (stage : Stage) (input : WorkflowInput) (before after : Store) : Prop where
  landing : after.landing = before.landing
  verified : after.verified = before.verified
  executions : after.executions = before.executions
  accepted : after.accepted = before.accepted
  records : ∀ businessDate, RecordKept stage input before after businessDate

/-- A job on the warehouse changes the warehouse only; what it leaves when it fails is the
warehouse as it was. -/
theorem on_warehouse_framed (stage : Stage) (input : WorkflowInput) (store : Store)
    (job : Py Warehouse) : Framed stage input store (onWarehouse store job).1 := by
  cases job with
  | ok warehouse => exact ⟨rfl, rfl, rfl, rfl, fun _ => .inl rfl⟩
  | error error => exact ⟨rfl, rfl, rfl, rfl, fun _ => .inl rfl⟩

/-- The reconciliation writes the settlement tables only and no record of a date, which the
publication alone changes. -/
theorem reconcile_framed (library : Library) (stage : Stage) (input : WorkflowInput)
    (store : Store) : Framed stage input store (reconcileStage library input store).1 := by
  unfold reconcileStage
  cases store.verified input.verifiedDataKey with
  | none => exact ⟨rfl, rfl, rfl, rfl, fun _ => .inl rfl⟩
  | some data => exact ⟨rfl, rfl, rfl, rfl, fun _ => .inl rfl⟩

/-- The publication changes at most the record of its own date, and only where that still is for
the same revision. -/
theorem publish_framed (input : WorkflowInput) (store : Store) :
    Framed .publishGate input store (publishStage input store).1 := by
  unfold publishStage
  cases held : store.publications input.businessDate with
  | none => exact ⟨rfl, rfl, rfl, rfl, fun _ => .inl rfl⟩
  | some item =>
    by_cases matched : item.revision = input.revision ∧ item.manifestSha256 = input.sha256
    · simp only [if_pos matched]
      refine ⟨rfl, rfl, rfl, rfl, fun businessDate => ?_⟩
      by_cases same : businessDate = input.businessDate
      · subst same
        exact .inr ⟨rfl, rfl, item, held, matched.1, matched.2, publish_same _ _ _⟩
      · exact .inl (publish_other _ _ same)
    · simp only [if_neg matched]
      exact ⟨rfl, rfl, rfl, rfl, fun _ => .inl rfl⟩

/-- The publication touches no tables; it writes the record of its date only. -/
theorem publish_tables (input : WorkflowInput) (store : Store) :
    (publishStage input store).1.warehouse = store.warehouse ∧
      (publishStage input store).1.settlement = store.settlement := by
  unfold publishStage
  cases store.publications input.businessDate with
  | none => exact ⟨rfl, rfl⟩
  | some item =>
    by_cases matched : item.revision = input.revision ∧ item.manifestSha256 = input.sha256
    · simp only [if_pos matched]
      exact ⟨rfl, rfl⟩
    · simp only [if_neg matched, and_self]

/-- What the three jobs on the warehouse keep, every state's job keeps: the other jobs do not
write it. Each hypothesis is about one job on the warehouse that it is given. -/
theorem run_stage_keeps {holds : Warehouse → Prop} (library : Library) (stage : Stage)
    (input : WorkflowInput) (store : Store)
    (ingested : holds (ingestAcceptedEvents
      (objectsUnder input.businessDate store.accepted) store.warehouse))
    (reconstructed : ∀ after, reconstructPaymentState (touchedOn (toDate input.businessDate))
      store.warehouse = .ok after → holds after)
    (posted : ∀ after, postLedger (touchedOn (toDate input.businessDate)) store.warehouse =
      .ok after → holds after)
    (initially : holds store.warehouse) :
    holds (runStage library stage input store).1.warehouse := by
  have replaces (job : Py Warehouse) (kept : ∀ after, job = .ok after → holds after) :
      holds (onWarehouse store job).1.warehouse := by
    cases job with
    | ok after => exact kept after rfl
    | error error => exact initially
  cases stage with
  | validateSettlementManifest => exact initially
  | ingestAcceptedEvents => exact ingested
  | runPaymentStateReconstruction => exact replaces _ reconstructed
  | postLedger => exact replaces _ posted
  | reconcileSettlement =>
    unfold runStage reconcileStage
    cases store.verified input.verifiedDataKey <;> exact initially
  | buildPublicationEvidence => exact initially
  | writePublicationEvidence => exact initially
  | publishGate =>
    unfold runStage
    rw [(publish_tables input store).1]
    exact initially

/-- Every state's job stays within its frame, which says what of the store it may change and
how. -/
theorem run_stage_framed (library : Library) (stage : Stage) (input : WorkflowInput)
    (store : Store) : Framed stage input store (runStage library stage input store).1 := by
  cases stage with
  | validateSettlementManifest => exact ⟨rfl, rfl, rfl, rfl, fun _ => .inl rfl⟩
  | ingestAcceptedEvents => exact on_warehouse_framed _ _ _ _
  | runPaymentStateReconstruction => exact on_warehouse_framed _ _ _ _
  | postLedger => exact on_warehouse_framed _ _ _ _
  | reconcileSettlement => exact reconcile_framed _ _ _ _
  | buildPublicationEvidence => exact ⟨rfl, rfl, rfl, rfl, fun _ => .inl rfl⟩
  | writePublicationEvidence => exact ⟨rfl, rfl, rfl, rfl, fun _ => .inl rfl⟩
  | publishGate => exact publish_framed _ _

/-! ## The states in order -/

/-- No two states of the workflow have one position, so that the position names the state. -/
theorem position_injective {first second : Stage} (same : first.position = second.position) :
    first = second := by
  cases first <;> cases second <;> first | rfl | cases same

/-- The next state is one position further; the workflow has no loop but the retries. -/
theorem next_position {stage next : Stage} (follows : stage.next = some next) :
    next.position = stage.position + 1 := by
  cases stage <;> cases follows <;> rfl

/-- Only a job without an error leads to a further state, and the further state is the next one of
the definition. -/
theorem after_running {stage next : Stage} {result : Py Unit}
    (running : stage.after result = .running next) : result = .ok () ∧ stage.next = some next := by
  cases result with
  | ok done =>
    cases follows : stage.next with
    | none => simp [Stage.after, follows] at running
    | some other =>
      simp only [Stage.after, follows, ExecutionState.running.injEq] at running
      exact ⟨rfl, running ▸ rfl⟩
  | error error =>
    simp only [Stage.after] at running
    split at running <;> cases running

/-! ## The moves of an execution -/

/-- An execution advances from a state, by its job or without it. -/
structure Advanced (library : Library) (world next : World) (name : Str) (outcome : Outcome)
    (execution : Execution) (stage : Stage) : Prop where
  found : world.store.execution name = some execution
  running : execution.state = .running stage
  next : ∃ state retries,
    outcomeState execution stage (runStage library stage execution.input world.store).2 outcome =
      some (state, retries) ∧
    next = if outcome.performs then
      ⟨(runStage library stage execution.input world.store).1.update
          { execution with state, retries },
        .ran execution.input stage world.store outcome :: world.journal⟩
    else ⟨world.store.update { execution with state, retries }, world.journal⟩

/-- Everything that an advance can do: the execution it found, the state it was in, and what its
outcome made of both. -/
theorem move_advance {library : Library} {world next : World} {name : Str} {outcome : Outcome}
    (moved : world.move library (.advance name outcome) = some next) :
    ∃ execution stage, Advanced library world next name outcome execution stage := by
  cases found : world.store.execution name with
  | none => simp [World.move, found] at moved
  | some execution =>
    cases running : execution.state with
    | running stage =>
      simp only [World.move, found, running, World.advanceStage, Option.map_eq_some_iff] at moved
      obtain ⟨⟨state, retries⟩, outcomes, rfl⟩ := moved
      exact ⟨execution, stage, found, running, state, retries, outcomes, rfl⟩
    | succeeded => simp [World.move, found, running] at moved
    | superseded => simp [World.move, found, running] at moved
    | workflowFailed => simp [World.move, found, running] at moved

/-- An outcome leads to a further state if the job completed without an error, or to
the same state. -/
theorem outcome_running {execution : Execution} {stage next : Stage} {result : Py Unit}
    {outcome : Outcome} {retries : Nat}
    (leads : outcomeState execution stage result outcome = some (.running next, retries)) :
    next = stage ∨ outcome = .completes ∧ result = .ok () ∧ stage.next = some next := by
  cases outcome with
  | completes =>
    obtain ⟨running, _⟩ := Prod.mk.inj (Option.some.inj leads)
    exact .inr ⟨rfl, after_running running⟩
  | fails performed =>
    cases (Prod.mk.inj (Option.some.inj leads)).1
  | retries performed =>
    simp only [outcomeState] at leads
    split at leads
    · obtain ⟨running, _⟩ := Prod.mk.inj (Option.some.inj leads)
      exact .inl (ExecutionState.running.inj running).symm
    · cases leads

/-- An execution that is found by a name is there and has that name. -/
theorem execution_found {store : Store} {name : Str} {execution : Execution}
    (found : store.execution name = some execution) :
    execution ∈ store.executions ∧ execution.name = name := by
  have named := List.find?_some found
  exact ⟨List.mem_of_find?_eq_some found, of_decide_eq_true named⟩

/-- A name that no execution is found under is fresh, so that starting under it makes no second
execution. -/
theorem execution_missing {store : Store} {name : Str} (missing : store.execution name = none) :
    name ∉ store.executions.map Execution.name := by
  intro listed
  obtain ⟨execution, member, named⟩ := List.mem_map.mp listed
  exact List.find?_eq_none.mp missing execution member (decide_eq_true named)

/-- Updating replaces the execution of the same name, where there is one, and keeps every
execution of another name. -/
theorem mem_update {store : Store} {execution other : Execution} :
    other ∈ (store.update execution).executions ↔
      (other = execution ∧ ∃ old ∈ store.executions, old.name = execution.name) ∨
        (other ∈ store.executions ∧ other.name ≠ execution.name) := by
  simp only [Store.update, List.mem_map]
  constructor
  · rintro ⟨old, member, rfl⟩
    by_cases same : old.name = execution.name
    · rw [if_pos same]
      exact .inl ⟨rfl, old, member, same⟩
    · rw [if_neg same]
      exact .inr ⟨member, same⟩
  · rintro (⟨rfl, old, member, same⟩ | ⟨member, differs⟩)
    · exact ⟨old, member, if_pos same⟩
    · exact ⟨other, member, if_neg differs⟩

/-- Updating an execution changes no names, so names stay without repetition. -/
theorem update_names (store : Store) (execution : Execution) :
    (store.update execution).executions.map Execution.name =
      store.executions.map Execution.name := by
  simp only [Store.update, List.map_map]
  apply List.map_congr_left
  intro other _
  by_cases same : other.name = execution.name
  · simp [same]
  · simp [same]

/-- What an advance leaves: a store that the job framed, with the execution replaced, and
the journal with at most the run of the job. -/
structure Advance (library : Library) (world next : World) (execution : Execution)
    (stage : Stage) (base : Store) (state : ExecutionState) (retries : Nat) : Prop where
  store : next.store = base.update { execution with state, retries }
  framed : Framed stage execution.input world.store base
  journal : next.journal = world.journal ∨
    ∃ outcome, next.journal = .ran execution.input stage world.store outcome :: world.journal
  further : ∀ other, state = .running other → other = stage ∨ stage.next = some other ∧
    (runStage library stage execution.input world.store).2 = .ok () ∧
    .ran execution.input stage world.store .completes ∈ next.journal

/-- An advance performs its job or does not, as its outcome says, and goes on to the state that
the outcome and the job's result give. -/
theorem advanced_left {library : Library} {world next : World} {name : Str}
    {outcome : Outcome} {execution : Execution} {stage : Stage}
    (advanced : Advanced library world next name outcome execution stage) :
    ∃ state retries,
      outcomeState execution stage (runStage library stage execution.input world.store).2 outcome =
        some (state, retries) ∧
      Advance library world next execution stage
        (if outcome.performs then (runStage library stage execution.input world.store).1
          else world.store) state retries := by
  obtain ⟨state, retries, leads, rfl⟩ := advanced.next
  refine ⟨state, retries, leads, ?_⟩
  by_cases performs : outcome.performs = true
  · simp only [if_pos performs]
    refine ⟨rfl, run_stage_framed .., .inr ⟨outcome, rfl⟩, ?_⟩
    rintro other rfl
    rcases outcome_running leads with same | ⟨rfl, passed, follows⟩
    · exact .inl same
    · exact .inr ⟨follows, passed, List.mem_cons_self⟩
  · simp only [if_neg performs]
    refine ⟨rfl, ⟨rfl, rfl, rfl, rfl, fun _ => .inl rfl⟩, .inl rfl, ?_⟩
    rintro other rfl
    rcases outcome_running leads with same | ⟨rfl, _, _⟩
    · exact .inl same
    · exact absurd rfl performs

/-- An execution that advances leaves its state for another one, or stays for a retry. -/
theorem advanced_leaves {library : Library} {world next : World} {name : Str}
    {outcome : Outcome} {execution : Execution} {stage : Stage}
    (advanced : Advanced library world next name outcome execution stage) :
    ∃ base state retries, Advance library world next execution stage base state retries := by
  obtain ⟨state, retries, _, advance⟩ := advanced_left advanced
  exact ⟨_, state, retries, advance⟩

end LedgerFlow.Settlement
