import LedgerFlow.Settlement.Plays

/-!
# Settlement exceptions of published dates

Every execution reconciles into one exception table, keyed by its date alone; only the
last state looks at the registered revision. `PublishedClean` asks that a reconciled date
has no exception rows, as the registered revision's own reconciliation found. A superseded
execution that reconciles late breaks it. It holds of every run in which superseded
executions do not reconcile a date that its registered revision has reconciled.
-/

namespace LedgerFlow.Settlement

open PyText PyJson PyBytes PyDateTime Programs Revisions Grouping Dataframe Spark

/-! ## One reconciliation -/

/-- The rows are about this date. -/
def Dated (date : Date) (rows : List SettlementExceptionRow) : Prop :=
  ∀ row ∈ rows, row.businessDate = some date

/-- No row is about the date that this text names. -/
def NoneOn (businessDate : Str) (rows : List SettlementExceptionRow) : Prop :=
  ∀ row ∈ rows, same row.businessDate (toDate businessDate) ≠ some true

/-- Two columns agree exactly where both have one value; a null agrees with nothing. -/
theorem same_true {α : Type} [DecidableEq α] {first second : Option α} :
    same first second = some true ↔ ∃ value, first = some value ∧ second = some value := by
  cases first with
  | none => simp [same]
  | some left =>
    cases second with
    | none => simp [same]
    | some right =>
      simp only [same, Option.some.injEq, decide_eq_true_eq, exists_eq_left']
      exact eq_comm

/-- The expected groups of a date carry it, so what they differ by is an exception of that
date. -/
theorem expected_dated {posted : List AcceptedEventRow} {invalid : List BusinessExceptionRow}
    {date : Date} {entry : SettlementKey × Option Int}
    (member : entry ∈ expectedSettlement posted invalid (some date)) :
    entry.1.1 = some date := by
  obtain ⟨key, listed, rfl⟩ := List.mem_map.mp member
  obtain ⟨row, inside, rfl⟩ := List.mem_map.mp (List.mem_dedup.mp listed)
  have touched := (List.mem_filter.mp inside).2
  exact congrArg some (of_decide_eq_true touched)

/-- The exceptions of a date are about that date if the file is. -/
theorem exceptions_dated {posted : List AcceptedEventRow} {invalid : List BusinessExceptionRow}
    {date : Date} {actual : List EvidenceRow}
    (file : ∀ row ∈ actual, row.businessDate = some date) :
    Dated date (settlementExceptions (expectedSettlement posted invalid (some date)) actual) := by
  intro row member
  have joined := (List.mem_filter.mp member).1
  rcases List.mem_append.mp joined with left | right
  · obtain ⟨⟨key, minor⟩, listed, inside⟩ := List.mem_flatMap.mp left
    have dated : key.1 = some date := expected_dated listed
    simp only at inside
    split at inside
    · rw [List.mem_singleton.mp inside]
      exact dated
    · obtain ⟨other, _, rfl⟩ := List.mem_map.mp inside
      exact dated
  · obtain ⟨other, inside, rfl⟩ := List.mem_map.mp right
    exact file other (mem_left_anti.mp inside).1

/-- What reconciliation leaves in the exception table: the rows of its date are replaced by the
differences, whatever wrote the others. -/
theorem reconcile_exceptions (library : Library) (warehouse : Warehouse) (data : Bytes)
    (businessDate : Str) (tables : SettlementTables) :
    let rows := settlementExceptions (expectedSettlement warehouse.postedEvent
      warehouse.businessException (toDate businessDate)) (library.readActual data)
    let left := reconcileSettlements library warehouse data businessDate tables
    (left.1 = tables ∧ left.2 ≠ .ok ()) ∨
      (left.1.exceptions = overwriteDate (toDate businessDate) tables.exceptions rows ∧
        (left.2 = .ok () → rows = [])) := by
  intro rows left
  cases merged : mergeEvidence tables.evidence (library.readActual data) with
  | none =>
    have fails : left = (tables, .error (.other (str "MERGE_CARDINALITY_VIOLATION"))) := by
      simp only [left, reconcileSettlements, merged]
    rw [fails]
    exact .inl ⟨rfl, fun wrong => by cases wrong⟩
  | some evidence =>
    have leaves : left = (⟨evidence, overwriteDate (toDate businessDate) tables.exceptions rows⟩,
        require (rows = []) (.runtime (str "settlement reconciliation gate failed"))) := by
      simp only [left, reconcileSettlements, merged, rows]
    rw [leaves]
    exact .inr ⟨rfl, require_ok.mp⟩

/-- The rows that the job of an execution computes. -/
def computedRows (library : Library) (input : WorkflowInput) (store : Store) (data : Bytes) :
    List SettlementExceptionRow :=
  settlementExceptions (expectedSettlement store.warehouse.postedEvent
    store.warehouse.businessException (toDate input.businessDate)) (library.readActual data)

/-- The job fails and changes nothing, or it overwrites its date with what it computed and
succeeds only if that is nothing. -/
theorem reconcile_stage_exceptions (library : Library) (input : WorkflowInput) (store : Store) :
    ((reconcileStage library input store).1.settlement = store.settlement ∧
      (reconcileStage library input store).2 ≠ .ok ()) ∨
    ∃ data, store.verified input.verifiedDataKey = some data ∧
      (reconcileStage library input store).1.settlement.exceptions =
        overwriteDate (toDate input.businessDate) store.settlement.exceptions
          (computedRows library input store data) ∧
      ((reconcileStage library input store).2 = .ok () →
        computedRows library input store data = []) := by
  cases held : store.verified input.verifiedDataKey with
  | none =>
    have missing : reconcileStage library input store =
        (store, .error (.other (str "PATH_NOT_FOUND"))) := by
      simp only [reconcileStage, held]
    rw [missing]
    exact .inl ⟨rfl, fun wrong => by cases wrong⟩
  | some data =>
    let left := reconcileSettlements library store.warehouse data input.businessDate
      store.settlement
    have runs : reconcileStage library input store =
        ({ store with settlement := left.1 }, left.2) := by
      simp only [reconcileStage, held, left]
    rw [runs]
    rcases reconcile_exceptions library store.warehouse data input.businessDate
      store.settlement with
      ⟨tables, fails⟩ | ⟨overwritten, gate⟩
    · exact .inl ⟨tables, fails⟩
    · exact .inr ⟨data, rfl, overwritten, gate⟩

/-- Overwriting a date leaves the rows of other dates alone, as the new rows are all of that
date. -/
theorem overwrite_other {businessDate other : Str} {table rows : List SettlementExceptionRow}
    {date : Date} (dated : toDate businessDate = some date) (within : Dated date rows)
    (differs : other ≠ businessDate) (none : NoneOn other table) :
    NoneOn other (overwriteDate (toDate businessDate) table rows) := by
  intro row member wrong
  rcases List.mem_append.mp member with old | new
  · exact none row (List.mem_filter.mp old).1 wrong
  · obtain ⟨value, held, named⟩ := same_true.mp wrong
    have equal : value = date := Option.some.inj (held.symm.trans (within row new))
    subst equal
    exact differs ((to_date_text named).trans (to_date_text dated).symm)

/-- Overwriting a date with no rows leaves none of it. -/
theorem overwrite_nothing (businessDate : Str) (table : List SettlementExceptionRow) :
    NoneOn businessDate (overwriteDate (toDate businessDate) table []) := by
  intro row member
  rw [overwriteDate, List.append_nil] at member
  have kept := (List.mem_filter.mp member).2
  simpa using kept

/-! ## Executions of a record -/

/-- The execution is for this date, and for the revision and digest of its record. -/
structure For (execution : Execution) (businessDate : Str) (item : Publication) : Prop where
  date : execution.input.businessDate = businessDate
  revision : execution.input.revision = item.revision
  digest : execution.input.sha256 = item.manifestSha256

/-- An execution that has reconciled and goes on. -/
def pastReconciliation : ExecutionState → Bool
  | .running stage => decide (Stage.reconcileSettlement.position < stage.position)
  | _ => false

/-- The record of the date is published, or its execution is about to publish it. -/
def Settles (world : World) (businessDate : Str) (item : Publication) : Prop :=
  item.status = .reconciled ∨ ∃ execution ∈ world.store.executions,
    For execution businessDate item ∧ pastReconciliation execution.state = true

section Executions

variable {deployment : Deployment} {offered : Bytes → Prop} {world : World}
variable {businessDate : Str} {item : Publication}

/-- A record has one execution, because the name of an execution is made of what the record
says. -/
theorem execution_unique (consistent : Consistent deployment offered world)
    {first second : Execution} (left : first ∈ world.store.executions)
    (right : second ∈ world.store.executions) (forFirst : For first businessDate item)
    (forSecond : For second businessDate item) : first = second := by
  obtain ⟨_, firstStarted⟩ := consistent.executions.started first left
  obtain ⟨_, secondStarted⟩ := consistent.executions.started second right
  have firstNamed := (consistent.executions.founded _ _ _ firstStarted).named
  have secondNamed := (consistent.executions.founded _ _ _ secondStarted).named
  apply consistent.executions.named.unique left right
  rw [firstNamed, secondNamed, forFirst.date, forFirst.revision, forFirst.digest, forSecond.date,
    forSecond.revision, forSecond.digest]

/-- A new registration has no execution yet: an execution is started for a registered revision
only, and this one was not. -/
theorem registered_unstarted {delivery : Delivery} {revision : Int} {sha256 key : Str}
    (before : Consistent deployment offered world)
    (after : Consistent deployment offered
      ⟨world.store.publish businessDate (processingItem revision sha256 key),
        .registered ⟨delivery, businessDate, revision, sha256, key⟩ :: world.journal⟩)
    {execution : Execution} (member : execution ∈ world.store.executions) :
    ¬ For execution businessDate (processingItem revision sha256 key) := by
  intro isFor
  obtain ⟨_, started⟩ := before.executions.started execution member
  obtain ⟨older, inside, date, number, _⟩ := (before.executions.founded _ _ _ started).registered
  have newer := (List.pairwise_cons.mp after.registered.increasing).1 older inside
    (isFor.date.symm.trans date.symm)
  exact absurd (number.trans isFor.revision) (ne_of_lt newer)

/-- A published record has an execution under its name, so that a second start is refused. -/
theorem published_started {delivery : Delivery} {name : Str} {input : WorkflowInput}
    (before : Consistent deployment offered world)
    (after : Consistent deployment offered
      ⟨{ world.store with executions := ⟨name, input, .running .validateSettlementManifest, 0⟩ ::
          world.store.executions }, .started delivery name input :: world.journal⟩)
    (fresh : name ∉ world.store.executions.map Execution.name)
    (held : world.store.publications businessDate = some item)
    (status : item.status = .reconciled) :
    ¬ For ⟨name, input, .running .validateSettlementManifest, 0⟩ businessDate item := by
  intro isFor
  obtain ⟨execution, member, date, revision, digest, _⟩ :=
    before.gated.reconciled businessDate item held status
  have same := execution_unique after (List.mem_cons_of_mem _ member) List.mem_cons_self
    ⟨date, revision, digest⟩ isFor
  exact fresh (List.mem_map.mpr ⟨execution, member, congrArg Execution.name same⟩)

end Executions

/-- The last state ends its execution, whatever comes of it; it has no retry. -/
theorem gate_ends {execution : Execution} {result : Py Unit} {outcome : Outcome}
    {state : ExecutionState} {retries : Nat}
    (leads : outcomeState execution .publishGate result outcome = some (state, retries)) :
    state.isRunning = false := by
  cases running : state with
  | running further =>
    rw [running] at leads
    cases outcome with
    | completes =>
      have goes := after_running (Prod.mk.inj (Option.some.inj leads)).1
      cases goes.2
    | fails performed => cases (Prod.mk.inj (Option.some.inj leads)).1
    | retries performed => simp [outcomeState, Stage.retryable] at leads
  | succeeded => rfl
  | superseded => rfl
  | workflowFailed => rfl

section Running

variable {deployment : Deployment} {policy : Policy} {pool : SettlementPool}

/-- The executions of a published record have ended. -/
def PublishedEnded (world : World) : Prop :=
  ∀ businessDate item, world.store.publications businessDate = some item →
    item.status = .reconciled → ∀ execution ∈ world.store.executions,
      For execution businessDate item → execution.state.isRunning = false

/-- A call of the loader keeps the executions of published records ended: it replaces a record by
one that is not published, and does not start an execution again. -/
theorem published_ended_call {delivery : Delivery} {before after : World}
    (consistent : Consistent deployment policy.offered before)
    (still : Consistent deployment policy.offered after) (effect : CallEffect delivery before after)
    (ended : PublishedEnded before) : PublishedEnded after := by
  cases effect with
  | none => exact ended
  | copied => exact ended
  | registered registeredDate revision sha256 key newer =>
    intro businessDate item held status execution member isFor
    by_cases same : businessDate = registeredDate
    · subst same
      rw [publish_same, Option.some.injEq] at held
      subst held
      cases status
    · rw [publish_other _ _ same] at held
      exact ended businessDate item held status execution member isFor
  | started name input fresh =>
    intro businessDate item held status execution member isFor
    rcases List.mem_cons.mp member with rfl | older
    · exact absurd isFor (published_started consistent still fresh held status)
    · exact ended businessDate item held status execution older isFor

/-- An advance of an execution that is not that of a published record. -/
theorem published_ended_move {before after : World}
    (consistent : Consistent deployment policy.offered before)
    (effect : MoveEffect policy deployment.library before after)
    (ended : PublishedEnded before) : PublishedEnded after := by
  cases effect with
  | put => exact ended
  | arrived => exact ended
  | @advanced name outcome execution stage _ _ advanced =>
    obtain ⟨inside, _⟩ := execution_found advanced.found
    obtain ⟨state, retries, leads, advance⟩ := advanced_left advanced
    intro businessDate item held status other member isFor
    rw [advance.store] at held
    rcases advance.framed.records businessDate with same | ⟨rfl, date, old, oldHeld, revision,
      digest, published⟩
    · have kept : before.store.publications businessDate = some item := same.symm.trans held
      rcases mem_advanced advance member with rfl | ⟨older, _⟩
      · have finished := ended businessDate item kept status execution inside
          ⟨isFor.date, isFor.revision, isFor.digest⟩
        rw [advanced.running] at finished
        cases finished
      · exact ended businessDate item kept status other older isFor
    · rcases mem_advanced advance member with rfl | ⟨older, differs⟩
      · exact gate_ends leads
      · have same : { old with status := .reconciled } = item :=
          Option.some.inj (published.symm.trans held)
        subst same
        have equal := execution_unique consistent older inside
          ⟨isFor.date, isFor.revision, isFor.digest⟩ ⟨date.symm, revision.symm, digest.symm⟩
        exact absurd (congrArg Execution.name equal) differs

/-- In every reachable world the executions of a published record have ended.

Proof: calls and moves keep it. A move that publishes a record ends its own execution, and a
record has only one. -/
theorem published_ended (reached : Reaches deployment policy pool) : PublishedEnded pool.world := by
  apply reaches_holds reached
  · intro _ _ held
    cases held
  · exact fun _ _ _ consistent still effect => published_ended_call consistent still effect
  · exact fun _ _ consistent _ effect => published_ended_move consistent effect

/-! ## The files that were validated -/

/-- What a job saw under a verified key is still there. -/
def VerifiedKept (world : World) : Prop :=
  ∀ input stage before outcome, .ran input stage before outcome ∈ world.journal →
    ∀ key data, before.verified key = some data → world.store.verified key = some data

/-- A call replaces no verified bytes by others: it writes under a key that names their digest,
and offered bytes do not collide. -/
theorem call_verified {delivery : Delivery} {before after : World}
    (free : deployment.library.CollisionFree policy.offered)
    (consistent : Consistent deployment policy.offered before)
    (still : Consistent deployment policy.offered after) (effect : CallEffect delivery before after)
    {key : Str} {data : Bytes} (held : before.store.verified key = some data) :
    after.store.verified key = some data := by
  cases effect with
  | none => exact held
  | copied copiedKey body =>
    by_cases same : key = copiedKey
    · subst same
      have copied := verify_same before.store key body
      obtain ⟨bodyOffered, _, _, bodyNamed⟩ := still.objects.verified key body copied
      obtain ⟨dataOffered, _, _, dataNamed⟩ := consistent.objects.verified key data held
      have digests := verified_key_digest (dataNamed.symm.trans bodyNamed)
      rw [free data body dataOffered bodyOffered digests]
      exact copied
    · exact (verify_other before.store body same).trans held
  | registered => exact held
  | started => exact held

/-- No move of the workflow writes a verified copy. -/
theorem move_verified {before after : World}
    (effect : MoveEffect policy deployment.library before after) :
    after.store.verified = before.store.verified := by
  cases effect with
  | put => rfl
  | arrived => rfl
  | advanced _ advanced =>
    obtain ⟨base, state, retries, advance⟩ := advanced_leaves advanced
    rw [advance.store]
    exact advance.framed.verified

/-- Without collisions among the offered bytes, what a job saw under a verified key is still there
in every reachable world. -/
theorem verified_kept (free : deployment.library.CollisionFree policy.offered)
    (reached : Reaches deployment policy pool) : VerifiedKept pool.world := by
  apply reaches_holds reached
  · intro _ _ _ _ none
    cases none
  · intro delivery before after consistent still effect kept input stage store outcome ran key data held
    exact call_verified free consistent still effect
      (kept input stage store outcome (call_ran effect ran) key data held)
  · intro before after _ _ effect kept input stage store outcome ran key data held
    rw [move_verified effect]
    rcases move_ran effect ran with earlier | ⟨_, _, _, _, _, _, rfl⟩
    · exact kept input stage store outcome earlier key data held
    · exact held

/-- The file that an execution reconciles is about its date, as validation found. -/
theorem reconciled_file {world : World} (kept : VerifiedKept world)
    (consistent : Consistent deployment policy.offered world) {execution : Execution}
    (member : execution ∈ world.store.executions)
    (running : execution.state = .running .reconcileSettlement) {date : Date}
    (dated : toDate execution.input.businessDate = some date) {data : Bytes}
    (held : world.store.verified execution.input.verifiedDataKey = some data) :
    ∀ row ∈ deployment.library.readActual data, row.businessDate = some date := by
  obtain ⟨before, ran, passed⟩ := consistent.gated.progress execution member _ running
    .validateSettlementManifest (by decide)
  have validates : validateStage deployment.library execution.input before = .ok () := passed
  obtain ⟨manifest, _, checked⟩ := bind_ok.mp validates
  obtain ⟨seen, read, checked⟩ := bind_ok.mp checked
  have found : before.verified execution.input.verifiedDataKey = some seen := by
    cases contents : before.verified execution.input.verifiedDataKey with
    | none =>
      rw [contents] at read
      cases read
    | some bytes =>
      rw [contents] at read
      exact congrArg some (Except.ok.inj read)
  have same : seen = data := Option.some.inj ((kept _ _ _ _ ran _ _ found).symm.trans held)
  subst same
  have validated := validate_ok deployment.library checked
  apply deployment.library.dates_agree
  exact fun record inside => (valid_record (validated.valid record inside)).dated date dated

/-! ## Clean dates -/

/-- A reconciliation is for a date of the calendar, and for the record of its date unless
that record does not settle yet. -/
def Orderly (world : World) : Move → Prop
  | .advance name outcome =>
      ∀ execution ∈ world.store.execution name, execution.state = .running .reconcileSettlement →
        outcome.performs = true →
          (toDate execution.input.businessDate).isSome = true ∧
          ∀ item ∈ world.store.publications execution.input.businessDate,
            For execution execution.input.businessDate item ∨
              ¬ Settles world execution.input.businessDate item
  | _ => True

/-- Dates that settle have no exceptions. -/
def SettledClean (world : World) : Prop :=
  ∀ businessDate item, world.store.publications businessDate = some item →
    Settles world businessDate item → NoneOn businessDate world.store.settlement.exceptions

/-- A call of the loader keeps settled dates clean: it does not write exceptions, and a record
that it replaces does not settle its date. -/
theorem settled_clean_call {delivery : Delivery} {before after : World}
    (consistent : Consistent deployment policy.offered before)
    (still : Consistent deployment policy.offered after) (effect : CallEffect delivery before after)
    (clean : SettledClean before) : SettledClean after := by
  cases effect with
  | none => exact clean
  | copied => exact clean
  | registered registeredDate revision sha256 key newer =>
    intro businessDate item held settles
    by_cases same : businessDate = registeredDate
    · subst same
      rw [publish_same, Option.some.injEq] at held
      subst held
      rcases settles with wrong | ⟨execution, member, isFor, _⟩
      · cases wrong
      · exact absurd isFor (registered_unstarted consistent still member)
    · rw [publish_other _ _ same] at held
      exact clean businessDate item held settles
  | started name input fresh =>
    intro businessDate item held settles
    apply clean businessDate item held
    rcases settles with status | ⟨execution, member, isFor, past⟩
    · exact .inl status
    · rcases List.mem_cons.mp member with rfl | older
      · cases past
      · exact .inr ⟨execution, older, isFor, past⟩

/-- Only reconciliation touches the settlement tables; the other jobs write other tables or
none. -/
theorem run_stage_settlement (library : Library) {stage : Stage} (input : WorkflowInput)
    (store : Store) (other : stage ≠ .reconcileSettlement) :
    (runStage library stage input store).1.settlement = store.settlement := by
  have warehouse (job : Py Warehouse) :
      (onWarehouse store job).1.settlement = store.settlement := by
    cases job <;> rfl
  cases stage with
  | validateSettlementManifest => rfl
  | ingestAcceptedEvents => exact warehouse _
  | runPaymentStateReconstruction => exact warehouse _
  | postLedger => exact warehouse _
  | reconcileSettlement => exact absurd rfl other
  | buildPublicationEvidence => rfl
  | writePublicationEvidence => rfl
  | publishGate => exact (publish_tables input store).2

/-- An execution that goes on past reconciliation was past it, or has just reconciled. -/
theorem past_before {execution : Execution} {stage : Stage} {result : Py Unit}
    {outcome : Outcome} {state : ExecutionState} {retries : Nat}
    (running : execution.state = .running stage)
    (leads : outcomeState execution stage result outcome = some (state, retries))
    (past : pastReconciliation state = true) :
    pastReconciliation execution.state = true ∨
      stage = .reconcileSettlement ∧ outcome = .completes ∧ result = .ok () := by
  cases reached : state with
  | running further =>
    rw [reached] at leads past
    have beyond : Stage.reconcileSettlement.position < further.position := of_decide_eq_true past
    rcases outcome_running leads with rfl | ⟨completes, passed, follows⟩
    · rw [running]
      exact .inl past
    · rw [next_position follows] at beyond
      rcases Nat.lt_or_eq_of_le (Nat.le_of_lt_succ beyond) with already | here
      · rw [running]
        exact .inl (decide_eq_true already)
      · exact .inr ⟨(position_injective here).symm, completes, passed⟩
  | succeeded =>
    rw [reached] at past
    cases past
  | superseded =>
    rw [reached] at past
    cases past
  | workflowFailed =>
    rw [reached] at past
    cases past

/-- An advance that does not reconcile leaves the exceptions as they are, and settles no date that
was not settled. -/
theorem settled_clean_unchanged {before after : World} {name : Str} {outcome : Outcome}
    {execution : Execution} {stage : Stage}
    (advanced : Advanced deployment.library before after name outcome execution stage)
    (other : ¬ (stage = .reconcileSettlement ∧ outcome.performs = true))
    (clean : SettledClean before) : SettledClean after := by
  obtain ⟨inside, _⟩ := execution_found advanced.found
  obtain ⟨state, retries, leads, advance⟩ := advanced_left advanced
  have tables : after.store.settlement = before.store.settlement := by
    rw [advance.store]
    by_cases performs : outcome.performs = true
    · rw [if_pos performs]
      exact run_stage_settlement _ _ _ fun reconciles => other ⟨reconciles, performs⟩
    · rw [if_neg performs]
      rfl
  intro businessDate item held settles
  rw [tables]
  rw [advance.store] at held
  rcases advance.framed.records businessDate with same | ⟨rfl, date, old, oldHeld, revision,
    digest, _⟩
  · apply clean businessDate item (same.symm.trans held)
    rcases settles with status | ⟨found, member, isFor, past⟩
    · exact .inl status
    · rcases mem_advanced advance member with rfl | ⟨older, _⟩
      · rcases past_before advanced.running leads past with earlier | ⟨reconciles, rfl, _⟩
        · exact .inr ⟨execution, inside, ⟨isFor.date, isFor.revision, isFor.digest⟩, earlier⟩
        · exact absurd ⟨reconciles, rfl⟩ other
      · exact .inr ⟨found, older, isFor, past⟩
  · apply clean businessDate old oldHeld
    refine .inr ⟨execution, inside, ⟨date.symm, revision.symm, digest.symm⟩, ?_⟩
    rw [advanced.running]
    rfl

section Reconciling

variable {before after : World} {outcome : Outcome} {execution : Execution} {base : Store}
  {state : ExecutionState} {retries : Nat}

/-- What settles after an execution reconciled settled before, or it is the date of this
execution and the reconciliation passed. -/
theorem settles_reconciled (running : execution.state = .running .reconcileSettlement)
    (leads : outcomeState execution .reconcileSettlement
      (runStage deployment.library .reconcileSettlement execution.input before.store).2 outcome =
        some (state, retries))
    (advance : Advance deployment.library before after execution .reconcileSettlement base state
      retries) {businessDate : Str} {item : Publication}
    (settles : Settles after businessDate item) :
    Settles before businessDate item ∨ businessDate = execution.input.businessDate ∧
      (reconcileStage deployment.library execution.input before.store).2 = .ok () := by
  rcases settles with status | ⟨found, member, isFor, past⟩
  · exact .inl (.inl status)
  · rcases mem_advanced advance member with rfl | ⟨older, _⟩
    · rcases past_before running leads past with earlier | ⟨_, _, passed⟩
      · rw [running] at earlier
        cases earlier
      · exact .inr ⟨isFor.date.symm, passed⟩
    · exact .inl (.inr ⟨found, older, isFor, past⟩)

/-- The record of the date of an execution that is about to reconcile in order does not settle
yet: if it is the record of the execution, its status would have been set by an execution that
has ended, and its date is past reconciliation only where the execution itself is. -/
theorem unsettled_before (consistent : Consistent deployment policy.offered before)
    (ended : PublishedEnded before) (inside : execution ∈ before.store.executions)
    (running : execution.state = .running .reconcileSettlement) {item : Publication}
    (record : before.store.publications execution.input.businessDate = some item)
    (current : For execution execution.input.businessDate item ∨
      ¬ Settles before execution.input.businessDate item) :
    ¬ Settles before execution.input.businessDate item := by
  intro settled
  rcases current with isFor | wrong
  · rcases settled with status | ⟨found, member, forFound, past⟩
    · have finished := ended _ item record status execution inside isFor
      rw [running] at finished
      cases finished
    · have equal := execution_unique consistent member inside forFound isFor
      rw [equal, running] at past
      cases past
  · exact wrong settled

end Reconciling

/-- An advance that reconciles in order.

Proof: the job overwrites the exceptions of its date. There it leaves none where the record
settles, since it settles only by this reconciliation and that passed. A date that settled
before is another one, and the job leaves its rows alone. -/
theorem settled_clean_reconciled {before after : World} {name : Str} {outcome : Outcome}
    {execution : Execution}
    (consistent : Consistent deployment policy.offered before)
    (kept : VerifiedKept before) (ended : PublishedEnded before)
    (advanced : Advanced deployment.library before after name outcome execution
      .reconcileSettlement)
    (performs : outcome.performs = true) (orderly : Orderly before (.advance name outcome))
    (clean : SettledClean before) : SettledClean after := by
  obtain ⟨inside, _⟩ := execution_found advanced.found
  obtain ⟨state, retries, leads, advance⟩ := advanced_left advanced
  obtain ⟨calendar, current⟩ := orderly execution advanced.found advanced.running performs
  obtain ⟨date, dated⟩ := Option.isSome_iff_exists.mp calendar
  have left : after.store.settlement =
      (reconcileStage deployment.library execution.input before.store).1.settlement := by
    rw [advance.store, if_pos performs]
    rfl
  intro businessDate item held settles
  have record : before.store.publications businessDate = some item := by
    rw [advance.store] at held
    rcases advance.framed.records businessDate with same | ⟨wrong, _⟩
    · exact same.symm.trans held
    · cases wrong
  have earlier := settles_reconciled advanced.running leads advance settles
  rw [left]
  by_cases here : businessDate = execution.input.businessDate
  · subst here
    have unsettled := unsettled_before consistent ended inside advanced.running record
      (current item record)
    obtain ⟨_, passed⟩ := earlier.resolve_left unsettled
    rcases reconcile_stage_exceptions deployment.library execution.input before.store with
      ⟨_, fails⟩ | ⟨data, _, overwritten, gate⟩
    · exact absurd passed fails
    · rw [overwritten, gate passed]
      exact overwrite_nothing _ _
  · have none := clean businessDate item record (earlier.resolve_right fun wrong => here wrong.1)
    rcases reconcile_stage_exceptions deployment.library execution.input before.store with
      ⟨tables, _⟩ | ⟨data, found, overwritten, _⟩
    · rw [tables]
      exact none
    · rw [overwritten]
      apply overwrite_other dated _ here none
      rw [computedRows, dated]
      exact exceptions_dated (reconciled_file kept consistent inside advanced.running dated found)

/-- In order, dates that settle stay clean.

Proof: by induction over the run. A reconciliation that completes leaves its own date clean. One
that fails ends its execution before the date could settle by it, and a superseded one is assumed
to keep away from dates that have settled. -/
theorem settled_clean (free : deployment.library.CollisionFree policy.offered)
    (careful : ∀ world move, policy.permits world move → Orderly world move)
    (reached : Reaches deployment policy pool) : SettledClean pool.world := by
  have known := @Pool.reachable_holds _ _ _ _ _ (settlementSystem deployment policy) emptyWorld
    (fun world => Consistent deployment policy.offered world ∧ VerifiedKept world ∧
      PublishedEnded world) SettledClean pool reached
  apply known
  · exact fun pool reached => ⟨reaches_consistent reached, verified_kept free reached,
      published_ended reached⟩
  · intro _ _ held
    cases held
  · rintro delivery request before reply after ⟨consistent, _⟩ ⟨still, _⟩ clean answered
    exact settled_clean_call consistent still (call_effect answered) clean
  · rintro before after ⟨consistent, kept, ended⟩ _ clean ⟨move, allowed, moved⟩
    cases move_effect allowed moved with
    | put => exact clean
    | arrived => exact clean
    | @advanced name outcome execution stage _ permitted advanced =>
      by_cases reconciles : stage = .reconcileSettlement ∧ outcome.performs = true
      · obtain ⟨rfl, performs⟩ := reconciles
        exact settled_clean_reconciled consistent kept ended advanced performs
          (careful _ _ permitted) clean
      · exact settled_clean_unchanged advanced reconciles clean

/-- A reconciled date has no exceptions, as many as the reconciliation of its registered
revision computed from the file that its key holds. -/
def PublishedClean (library : Library) (world : World) : Prop :=
  ∀ businessDate item, world.store.publications businessDate = some item →
    item.status = .reconciled → NoneOn businessDate world.store.settlement.exceptions ∧
      ∃ execution ∈ world.store.executions, For execution businessDate item ∧
        ∃ before data, .ran execution.input .reconcileSettlement before .completes ∈ world.journal ∧
          world.store.verified execution.input.verifiedDataKey = some data ∧
          computedRows library execution.input before data = []

/-- In every run in which superseded executions keep away from settled dates, published
dates are clean. -/
theorem published_clean (free : deployment.library.CollisionFree policy.offered)
    (careful : ∀ world move, policy.permits world move → Orderly world move)
    (reached : Reaches deployment policy pool) :
    PublishedClean deployment.library pool.world := by
  intro businessDate item held status
  refine ⟨settled_clean free careful reached businessDate item held (.inl status), ?_⟩
  obtain ⟨execution, member, date, revision, digest, completed⟩ :=
    (reaches_consistent reached).gated.reconciled businessDate item held status
  obtain ⟨before, ran, passed⟩ := completed .reconcileSettlement (by decide)
  refine ⟨execution, member, ⟨date, revision, digest⟩, before, ?_⟩
  rcases reconcile_stage_exceptions deployment.library execution.input before with
    ⟨_, fails⟩ | ⟨data, found, _, gate⟩
  · exact absurd passed fails
  · exact ⟨data, ran, verified_kept free reached _ _ _ _ ran _ _ found, gate passed⟩

end Running

/-! ## A superseded execution that reconciles late -/

section Samples

instance (businessDate : Str) (rows : List SettlementExceptionRow) :
    Decidable (NoneOn businessDate rows) :=
  inferInstanceAs (Decidable (∀ row ∈ rows, _))

instance (execution : Execution) (businessDate : Str) (item : Publication) :
    Decidable (For execution businessDate item) :=
  decidable_of_iff (execution.input.businessDate = businessDate ∧
      execution.input.revision = item.revision ∧ execution.input.sha256 = item.manifestSha256)
    ⟨fun parts => ⟨parts.1, parts.2.1, parts.2.2⟩,
      fun isFor => ⟨isFor.date, isFor.revision, isFor.digest⟩⟩

instance (world : World) (businessDate : Str) (item : Publication) :
    Decidable (Settles world businessDate item) :=
  inferInstanceAs (Decidable (_ ∨ ∃ execution ∈ world.store.executions, _))

instance (world : World) : DecidablePred (Orderly world)
  | .put _ _ => .isTrue trivial
  | .arrive _ => .isTrue trivial
  | .advance name _ =>
      inferInstanceAs (Decidable (∀ execution ∈ world.store.execution name, _ → _ → _))

/-- The first revision is about to reconcile when a second one is delivered and published. -/
def supersededDay : List Happening :=
  paymentArrives ++ putBoth earlierManifest (str "v1") ++
    [.invoke (sampleDelivery earlierManifest)] ++ completing earlierManifest 4 ++
    putBoth correctedManifest (str "v2") ++ [.invoke (sampleDelivery correctedManifest)] ++
    completing correctedManifest 8

/-- The first revision reconciles after the second one was published, and leaves exceptions on the
published date. -/
theorem late_reconciliation_disturbs : ∃ pool, Reaches settlementDeployment samplePolicy pool ∧
    ¬ PublishedClean settlementLibrary pool.world := by
  obtain ⟨pool, reached, item, held, status, disturbed⟩ :=
    @plays_reaches settlementDeployment samplePolicy _ (supersededDay ++ completing earlierManifest 1)
      (fun pool => ∃ item ∈ pool.world.store.publications settledDate.text,
        item.status = .reconciled ∧
          ¬ NoneOn settledDate.text pool.world.store.settlement.exceptions) _
      (by decide +kernel)
  exact ⟨pool, reached, fun clean => disturbed (clean _ item held status).1⟩

/-- The sample objects, with reconciliations in order only. -/
abbrev orderlyPolicy : Policy := restricted sampleBodies Orderly

/-- The published date is clean while the execution of the first revision waits. -/
theorem published_clean_superseded_day :
    ∃ pool, (Reaches settlementDeployment orderlyPolicy pool ∧
      ∃ item ∈ pool.world.store.publications settledDate.text, item.status = .reconciled) ∧
      PublishedClean settlementLibrary pool.world := by
  obtain ⟨pool, reached, published⟩ :=
    @plays_reaches settlementDeployment orderlyPolicy _ supersededDay
      (fun pool => ∃ item ∈ pool.world.store.publications settledDate.text,
        item.status = .reconciled) _ (by decide +kernel)
  exact ⟨pool, ⟨reached, published⟩,
    published_clean settlement_collision_free (fun _ _ permitted => permitted) reached⟩

end Samples

end LedgerFlow.Settlement
