import LedgerFlow.Settlement.Exceptions

/-!
# Attempts of a workflow

A state with a `Retry` is tried at most three times, any other once. `attempts` counts in the
journal how often an execution performed the job of a state. The invariant `Within` bounds it
along an execution: states before the one it is in were attempted as often as they may be, this
one at most once for each of its retries, and those after it not at all.

Advances that do not perform their job leave no entry. `remaining` bounds them too: it falls
with every advance, so a workflow ends after at most eighteen of them.
-/

namespace LedgerFlow.Settlement

open PyText PyJson PyBytes Programs Grouping

variable {deployment : Deployment} {policy : Policy} {pool : SettlementPool}

/-! ## Attempts -/

/-- The retries that a state may take. -/
def Stage.budget (stage : Stage) : Nat := if stage.retryable then maxAttempts else 0

/-- How often the job of a state may be attempted. -/
def Stage.allowed (stage : Stage) : Nat := stage.budget + 1

/-- The entry is a run of this state's job by the execution of this input. -/
def Entry.isAttempt (input : WorkflowInput) (stage : Stage) : Entry → Bool
  | .ran ofInput ofStage _ _ => decide (ofInput = input ∧ ofStage = stage)
  | _ => false

/-- How often the execution of an input performed the job of a state. -/
def attempts (journal : List Entry) (input : WorkflowInput) (stage : Stage) : Nat :=
  journal.countP (Entry.isAttempt input stage)

/-- How often an execution may have performed the job of a state by now. -/
def Execution.most (execution : Execution) (stage : Stage) : Nat :=
  match execution.state with
  | .running current =>
      if stage.position < current.position then stage.allowed
      else if stage = current then execution.retries else 0
  | _ => stage.allowed

/-- The attempts and the retries of an execution are within their bounds. -/
structure Within (journal : List Entry) (execution : Execution) : Prop where
  attempts : ∀ stage, attempts journal execution.input stage ≤ execution.most stage
  retries : ∀ stage, execution.state = .running stage → execution.retries ≤ stage.budget

/-- All executions are within their bounds, and no other input has attempts. -/
structure Bounded (world : World) : Prop where
  executions : ∀ execution ∈ world.store.executions, Within world.journal execution
  others : ∀ input, (∀ execution ∈ world.store.executions, execution.input ≠ input) →
    ∀ stage, attempts world.journal input stage = 0

/-- By now, no state has been attempted more often than its retries allow at all. -/
theorem most_allowed {execution : Execution} {journal : List Entry}
    (within : Within journal execution) (stage : Stage) : execution.most stage ≤ stage.allowed := by
  unfold Execution.most
  cases running : execution.state with
  | running current =>
    simp only
    split
    · exact le_refl _
    · split
      · rename_i same
        subst same
        exact Nat.le_succ_of_le (within.retries stage running)
      · exact Nat.zero_le _
  | succeeded | superseded | workflowFailed => exact le_refl _

/-- An entry counts as an attempt of one input and one state, and an entry that is none counts for
nothing. -/
theorem attempts_cons (entry : Entry) (journal : List Entry) (input : WorkflowInput)
    (stage : Stage) : attempts (entry :: journal) input stage =
      attempts journal input stage + if entry.isAttempt input stage then 1 else 0 :=
  List.countP_cons ..

/-! ## What an advance does to the bounds -/

section Advance

variable {execution : Execution} {stage : Stage} {result : Py Unit} {outcome : Outcome}
variable {state : ExecutionState} {retries : Nat}

/-- The bounds of an execution that advances leave room for one more attempt of its state. -/
theorem most_advanced (running : execution.state = .running stage)
    (fits : execution.retries ≤ stage.budget)
    (leads : outcomeState execution stage result outcome = some (state, retries)) (other : Stage) :
    (execution.most other + if other = stage then 1 else 0) ≤
      ({ execution with state, retries } : Execution).most other := by
  have ended : (execution.most other + if other = stage then 1 else 0) ≤ other.allowed := by
    simp only [Execution.most, running]
    by_cases same : other = stage
    · subst same
      simp only [lt_irrefl, ↓reduceIte]
      exact Nat.succ_le_succ fits
    · simp only [same, ↓reduceIte, Nat.add_zero]
      split
      · exact le_refl _
      · exact Nat.zero_le _
  cases state with
  | succeeded | superseded | workflowFailed => exact ended
  | running next =>
    simp only [Execution.most, running]
    rcases outcome_running leads with rfl | ⟨rfl, _, follows⟩
    · -- tried again: one attempt more, for one retry more
      have again : retries = execution.retries + 1 ∨ outcome = .completes := by
        cases outcome with
        | completes => exact .inr rfl
        | fails performed => cases (Prod.mk.inj (Option.some.inj leads)).1
        | retries performed =>
          simp only [outcomeState] at leads
          split at leads
          · exact .inl (Prod.mk.inj (Option.some.inj leads)).2.symm
          · cases leads
      rcases again with rfl | rfl
      · by_cases same : other = next
        · subst same
          simp
        · simp [same]
      · obtain ⟨reached, _⟩ := Prod.mk.inj (Option.some.inj leads)
        have wrong := next_position (after_running reached).2
        omega
    · have position := next_position follows
      by_cases same : other = stage
      · subst same
        have before : other.position < next.position := by omega
        simp only [lt_irrefl, ↓reduceIte, before]
        exact Nat.succ_le_succ fits
      · by_cases earlier : other.position < stage.position
        · have before : other.position < next.position := by omega
          simp [same, earlier, before]
        · simp [same, earlier]

/-- The retries of a state stay within its budget: an attempt beyond it does not lead back to the
state. -/
theorem retries_advanced
    (leads : outcomeState execution stage result outcome = some (state, retries)) :
    ∀ next, state = .running next → retries ≤ next.budget := by
  rintro next rfl
  cases outcome with
  | completes =>
    rw [← (Prod.mk.inj (Option.some.inj leads)).2]
    exact Nat.zero_le _
  | fails performed => cases (Prod.mk.inj (Option.some.inj leads)).1
  | retries performed =>
    simp only [outcomeState] at leads
    split at leads
    · rename_i again
      obtain ⟨reached, counted⟩ := Prod.mk.inj (Option.some.inj leads)
      cases reached
      rw [← counted, Stage.budget, if_pos again.1]
      exact again.2
    · cases leads

end Advance

/-! ## Runs -/

/-- Executions of a reachable world have different inputs, since the name of an execution is made
of its input. -/
theorem input_unique {offered : Bytes → Prop} {world : World}
    (consistent : Consistent deployment offered world) {first second : Execution}
    (left : first ∈ world.store.executions) (right : second ∈ world.store.executions)
    (same : first.input = second.input) : first = second := by
  obtain ⟨_, firstStarted⟩ := consistent.executions.started first left
  obtain ⟨_, secondStarted⟩ := consistent.executions.started second right
  apply consistent.executions.named.unique left right
  rw [(consistent.executions.founded _ _ _ firstStarted).named,
    (consistent.executions.founded _ _ _ secondStarted).named, same]

/-- Calls attempt no jobs; the loader registers and starts. -/
theorem call_attempts {delivery : Delivery} {before after : World}
    (effect : CallEffect delivery before after) (input : WorkflowInput) (stage : Stage) :
    attempts after.journal input stage = attempts before.journal input stage := by
  rcases call_entries effect with same | ⟨entry, same, other⟩
  · rw [same]
  · rw [same, attempts_cons]
    cases entry with
    | registered registration => simp [Entry.isAttempt]
    | started delivery name started => simp [Entry.isAttempt]
    | ran ofInput ofStage store outcome => exact absurd rfl (other ofInput ofStage store outcome)

/-- A call of the loader starts an execution at most, and a new one has no attempts yet. -/
theorem bounded_call {delivery : Delivery} {before after : World}
    (still : Consistent deployment policy.offered after) (effect : CallEffect delivery before after)
    (bounded : Bounded before) : Bounded after := by
  have counted := call_attempts effect
  have kept {execution : Execution} (member : execution ∈ before.store.executions) :
      Within after.journal execution := by
    obtain ⟨within, fits⟩ := bounded.executions execution member
    exact ⟨fun stage => counted _ stage ▸ within stage, fits⟩
  cases effect with
  | none => exact bounded
  | copied => exact ⟨bounded.executions, bounded.others⟩
  | registered =>
    exact ⟨fun execution member => kept member,
      fun input none stage => (counted input stage).trans (bounded.others input none stage)⟩
  | started name input fresh =>
    constructor
    · intro execution member
      rcases List.mem_cons.mp member with rfl | older
      · have unattempted : ∀ other ∈ before.store.executions, other.input ≠ input := by
          intro other inside same
          have equal := input_unique still (List.mem_cons_of_mem _ inside) List.mem_cons_self same
          exact fresh (List.mem_map.mpr ⟨other, inside, congrArg Execution.name equal⟩)
        refine ⟨fun stage => ?_, fun _ _ => Nat.zero_le _⟩
        rw [counted, bounded.others input unattempted]
        exact Nat.zero_le _
      · exact kept older
    · intro other none stage
      rw [counted]
      exact bounded.others other (fun execution member =>
        none execution (List.mem_cons_of_mem _ member)) stage

section Advanced

variable {before after : World} {name : Str} {outcome : Outcome} {execution : Execution}
  {stage : Stage} (advanced : Advanced deployment.library before after name outcome execution stage)

include advanced

/-- An advance performs at most one job, the one of the state that its execution is in. -/
theorem advanced_attempts (input : WorkflowInput) (other : Stage) :
    attempts after.journal input other ≤ attempts before.journal input other +
      if input = execution.input ∧ other = stage then 1 else 0 := by
  obtain ⟨state, retries, _, left⟩ := advanced.next
  rw [left]
  split
  · rw [attempts_cons]
    refine Nat.add_le_add_left ?_ _
    by_cases same : input = execution.input ∧ other = stage
    · rw [if_pos same]
      split <;> omega
    · have differs : ¬ (execution.input = input ∧ stage = other) :=
        fun ⟨first, second⟩ => same ⟨first.symm, second.symm⟩
      simp [Entry.isAttempt, differs]
  · exact Nat.le_add_right _ _

/-- An advance attempts nothing for another input than its own. -/
theorem advanced_attempts_other {input : WorkflowInput} (differs : input ≠ execution.input)
    (other : Stage) : attempts after.journal input other ≤ attempts before.journal input other := by
  have counted := advanced_attempts advanced input other
  simp only [differs, false_and, ↓reduceIte, Nat.add_zero] at counted
  exact counted

/-- The executions after an advance are those before it, but for the one that advanced: a job
starts none. -/
theorem advanced_executions : ∃ state retries,
    outcomeState execution stage (runStage deployment.library stage execution.input
      before.store).2 outcome = some (state, retries) ∧
      after.store.executions =
        (before.store.update { execution with state, retries }).executions := by
  obtain ⟨state, retries, leads, left⟩ := advanced.next
  refine ⟨state, retries, leads, ?_⟩
  rw [left]
  split
  · have framed := run_stage_framed deployment.library stage execution.input before.store
    rw [Store.update, framed.executions]
    rfl
  · rfl

end Advanced

/-- A move keeps the bounds.

Proof: only an advance attempts a job or changes an execution. The one that advances has room
for one more attempt of the state it was in; inputs tell executions apart, so that the others,
and inputs without an execution, are attempted as often as before. -/
theorem bounded_move {before after : World}
    (consistent : Consistent deployment policy.offered before)
    (effect : MoveEffect policy deployment.library before after) (bounded : Bounded before) :
    Bounded after := by
  cases effect with
  | put => exact ⟨bounded.executions, bounded.others⟩
  | arrived => exact ⟨bounded.executions, bounded.others⟩
  | @advanced name outcome execution stage _ _ advanced =>
    obtain ⟨inside, named⟩ := execution_found advanced.found
    obtain ⟨state, retries, leads, executions⟩ := advanced_executions advanced
    have within := bounded.executions execution inside
    have fits := within.retries stage advanced.running
    constructor
    · intro other member
      rw [executions] at member
      rcases mem_update.mp member with ⟨rfl, _⟩ | ⟨older, apart⟩
      · refine ⟨fun further => ?_, retries_advanced leads⟩
        have room := most_advanced advanced.running fits leads further
        have now := advanced_attempts advanced execution.input further
        have earlier := within.attempts further
        simp only [true_and] at now
        exact now.trans ((Nat.add_le_add_right earlier _).trans room)
      · obtain ⟨attempted, retried⟩ := bounded.executions other older
        have differs : other.input ≠ execution.input := by
          intro same
          rw [input_unique consistent older inside same] at apart
          exact apart rfl
        exact ⟨fun further => (advanced_attempts_other advanced differs further).trans
          (attempted further), retried⟩
    · intro input none further
      have advancedTo : ({ execution with state, retries } : Execution) ∈
          after.store.executions := by
        rw [executions]
        exact mem_update.mpr (.inl ⟨rfl, execution, inside, rfl⟩)
      have differs : input ≠ execution.input := fun same => none _ advancedTo same.symm
      have now := advanced_attempts_other advanced differs further
      refine Nat.le_zero.mp (now.trans (le_of_eq (bounded.others input (fun other older => ?_) _)))
      by_cases same : other.name = execution.name
      · have equal := consistent.executions.named.unique older inside same
        exact equal ▸ differs.symm
      · exact none other (executions ▸ mem_update.mpr (.inr ⟨older, same⟩))

/-- The attempts are bounded in every reachable world: no move and no call takes them past the
bound. -/
theorem reaches_bounded (reached : Reaches deployment policy pool) : Bounded pool.world := by
  apply reaches_holds reached
  · exact ⟨fun _ none => absurd none List.not_mem_nil, fun _ _ _ => rfl⟩
  · exact fun _ _ _ _ still effect => bounded_call still effect
  · exact fun _ _ consistent _ effect => bounded_move consistent effect

/-- In every run an execution performs the job of a state at most three times if the state has a
`Retry`, and at most once otherwise. -/
theorem attempts_bounded (reached : Reaches deployment policy pool) (input : WorkflowInput)
    (stage : Stage) : attempts pool.world.journal input stage ≤ stage.allowed := by
  have bounded := reaches_bounded reached
  by_cases known : ∃ execution ∈ pool.world.store.executions, execution.input = input
  · obtain ⟨execution, member, rfl⟩ := known
    have within := bounded.executions execution member
    exact (within.attempts stage).trans (most_allowed within stage)
  · have none : ∀ execution ∈ pool.world.store.executions, execution.input ≠ input :=
      fun execution member same => known ⟨execution, member, same⟩
    rw [bounded.others input none]
    exact Nat.zero_le _

/-- The attempts of a settled day, each state of which completed at once. -/
theorem attempts_bounded_settled_day : ∃ pool, Reaches settlementDeployment samplePolicy pool ∧
    pool.world.store.executions ≠ [] ∧ ∀ input stage,
      attempts pool.world.journal input stage ≤ stage.allowed := by
  obtain ⟨pool, reached, started⟩ := @plays_reaches settlementDeployment samplePolicy _ settledDay
    (fun pool => pool.world.store.executions ≠ []) _ (by decide +kernel)
  exact ⟨pool, reached, started, attempts_bounded reached⟩

/-! ## Advances -/

/-- The states in order. -/
def stages : List Stage :=
  [.validateSettlementManifest, .ingestAcceptedEvents, .runPaymentStateReconstruction, .postLedger,
    .reconcileSettlement, .buildPublicationEvidence, .writePublicationEvidence, .publishGate]

/-- The attempts that this state and the later ones allow. -/
def Stage.ahead (stage : Stage) : Nat := ((stages.drop stage.position).map Stage.allowed).sum

/-- How often an execution can still advance. -/
def Execution.remaining (execution : Execution) : Nat :=
  match execution.state with
  | .running stage => stage.ahead - min execution.retries stage.budget
  | _ => 0

/-- How often the execution of a name can still advance, once it is started. -/
def remaining (name : Str) (world : World) : Nat :=
  match world.store.execution name with
  | none => Stage.validateSettlementManifest.ahead
  | some execution => execution.remaining

/-- A workflow allows eighteen attempts, added up over its states: three for each state with a
`Retry`, one for each other. -/
theorem ahead_first : Stage.validateSettlementManifest.ahead = 18 := by decide

/-- What is ahead of a state are its own attempts and what is ahead of the next one. -/
theorem ahead_next {stage next : Stage} (follows : stage.next = some next) :
    stage.ahead = stage.allowed + next.ahead := by
  cases stage <;> cases follows <;> rfl

/-- At least its own attempts are ahead of a state. -/
theorem ahead_allowed (stage : Stage) : stage.allowed ≤ stage.ahead := by
  cases stage <;> decide

/-- An advance uses up one of those that remain: it retries the state, or goes on to the next with
all of its attempts ahead. -/
theorem remaining_advanced {execution : Execution} {stage : Stage} {result : Py Unit}
    {outcome : Outcome} {state : ExecutionState} {retries : Nat}
    (running : execution.state = .running stage)
    (leads : outcomeState execution stage result outcome = some (state, retries)) :
    ({ execution with state, retries } : Execution).remaining < execution.remaining := by
  have ahead := ahead_allowed stage
  have room : stage.allowed = stage.budget + 1 := rfl
  have positive : 0 < execution.remaining := by
    simp only [Execution.remaining, running]
    omega
  cases state with
  | succeeded | superseded | workflowFailed => exact positive
  | running next =>
    rcases outcome_running leads with rfl | ⟨rfl, _, follows⟩
    · cases outcome with
      | completes =>
        have wrong := next_position (after_running (Prod.mk.inj (Option.some.inj leads)).1).2
        omega
      | fails performed => cases (Prod.mk.inj (Option.some.inj leads)).1
      | retries performed =>
        simp only [outcomeState] at leads
        split at leads
        · rename_i again
          have counted := (Prod.mk.inj (Option.some.inj leads)).2
          have budget : next.budget = maxAttempts := if_pos again.1
          simp only [Execution.remaining, running, ← counted]
          omega
        · cases leads
    · have sum := ahead_next follows
      have counted := (Prod.mk.inj (Option.some.inj leads)).2
      simp only [Execution.remaining, running]
      omega

/-- Finding an execution in an updated store finds the update under its name, and what was there
under the others. -/
theorem execution_update {store : Store} {execution : Execution} (name : Str) :
    (store.update execution).execution name =
      (store.execution name).map fun other =>
        if other.name = execution.name then execution else other := by
  unfold Store.execution Store.update
  induction store.executions with
  | nil => rfl
  | cons first rest inductionHypothesis =>
    rw [List.map_cons, List.find?_cons, List.find?_cons]
    by_cases same : first.name = execution.name
    · by_cases named : execution.name = name
      · simp [same, named]
      · simp [same, named, inductionHypothesis]
    · by_cases named : first.name = name
      · subst named
        simp [same]
      · simp [same, named, inductionHypothesis]

/-- An advance uses up one that remains of its own execution, and none of the others. -/
theorem advance_remaining {library : Library} {before after : World} {name : Str}
    {outcome : Outcome} {execution : Execution} {stage : Stage}
    (advanced : Advanced library before after name outcome execution stage) (other : Str) :
    remaining other after + (if other = name then 1 else 0) ≤ remaining other before := by
  obtain ⟨inside, named⟩ := execution_found advanced.found
  obtain ⟨state, retries, leads, left⟩ := advanced.next
  have found : after.store.execution other = (before.store.execution other).map fun found =>
      if found.name = execution.name then { execution with state, retries } else found := by
    rw [left]
    split
    · rw [execution_update]
      have framed := run_stage_framed library stage execution.input before.store
      rw [Store.execution, framed.executions]
      rfl
    · rw [execution_update]
  have fewer := remaining_advanced advanced.running leads
  by_cases same : other = name
  · subst same
    rw [remaining, found, remaining, advanced.found]
    simp only [Option.map_some, ↓reduceIte]
    exact fewer
  · rw [if_neg same, Nat.add_zero, remaining, found, remaining]
    cases held : before.store.execution other with
    | none => exact le_refl _
    | some found =>
      have apart : found.name ≠ execution.name := by
        rw [(execution_found held).2, named]
        exact same
      simp only [Option.map_some, apart, ↓reduceIte]
      exact le_refl _

/-- A call uses up nothing. It may start an execution, for which everything remains then as
before. -/
theorem call_remaining {delivery : Delivery} {before after : World}
    (effect : CallEffect delivery before after) (name : Str) :
    remaining name after ≤ remaining name before := by
  cases effect with
  | none => exact le_refl _
  | copied => exact le_refl _
  | registered => exact le_refl _
  | started started input fresh =>
    by_cases same : started = name
    · subst same
      have missing : before.store.execution started = none :=
        List.find?_eq_none.mpr fun execution member named =>
          fresh (List.mem_map.mpr ⟨execution, member, of_decide_eq_true named⟩)
      rw [remaining, remaining, missing]
      simp only [Store.execution, List.find?_cons, decide_true]
      exact Nat.sub_le _ _
    · simp only [remaining, Store.execution, List.find?_cons, decide_eq_false same]
      exact le_refl _

/-- A move of the environment that is no advance of this execution uses up nothing. -/
theorem move_remaining {library : Library} {before after : World}
    (effect : MoveEffect policy library before after) (name : Str) :
    remaining name after ≤ remaining name before := by
  cases effect with
  | put => exact le_refl _
  | arrived => exact le_refl _
  | advanced _ advanced => exact (Nat.le_add_right _ _).trans (advance_remaining advanced name)

/-- Steps of the system among which the execution of a name advances at least so often. -/
inductive AdvancesIn (deployment : Deployment) (policy : Policy) (name : Str) :
    Nat → SettlementPool → SettlementPool → Prop
  | none (pool : SettlementPool) : AdvancesIn deployment policy name 0 pool pool
  | step {count : Nat} {first middle last : SettlementPool}
      (earlier : AdvancesIn deployment policy name count first middle)
      (step : Pool.Step (settlementSystem deployment policy) middle last) :
      AdvancesIn deployment policy name count first last
  | advance {count : Nat} {first middle : SettlementPool} {world : World} {outcome : Outcome}
      (earlier : AdvancesIn deployment policy name count first middle)
      (allowed : policy.Allows middle.world (.advance name outcome))
      (moved : middle.world.move deployment.library (.advance name outcome) = some world) :
      AdvancesIn deployment policy name (count + 1) first ⟨world, middle.threads, middle.started⟩

/-- Steps among which nothing need be counted are a run of no counted advances. -/
theorem continues_advances {name : Str} {first last : SettlementPool}
    (run : Continues deployment policy first last) :
    AdvancesIn deployment policy name 0 first last := by
  induction run with
  | refl => exact .none first
  | tail _ step inductionHypothesis => exact .step inductionHypothesis step

/-- What the advances of a run use up is taken from what remains, by induction on the run. -/
theorem advances_remaining {name : Str} {count : Nat} {first last : SettlementPool}
    (run : AdvancesIn deployment policy name count first last) :
    count + remaining name last.world ≤ remaining name first.world := by
  induction run with
  | none pool => exact le_of_eq (Nat.zero_add _)
  | step earlier step inductionHypothesis =>
    refine le_trans (Nat.add_le_add_left ?_ _) inductionHypothesis
    cases step with
    | start => exact le_refl _
    | call answered => exact call_remaining (call_effect answered) name
    | abandon => exact le_refl _
    | environment moved =>
      obtain ⟨move, allowed, moved⟩ := moved
      exact move_remaining (move_effect allowed moved) name
  | @advance _ _ _ world _ earlier allowed moved inductionHypothesis =>
    obtain ⟨execution, stage, advanced⟩ := move_advance moved
    have used := advance_remaining advanced name
    rw [if_pos rfl] at used
    show _ + 1 + remaining name world ≤ _
    omega

/-- Nothing remains exactly of an execution that has ended; one that was not started yet has
everything before it. -/
theorem remaining_zero {name : Str} {world : World} : remaining name world = 0 ↔
    ∃ execution, world.store.execution name = some execution ∧
      execution.state.isRunning = false := by
  cases found : world.store.execution name with
  | none => simp [remaining, found, ahead_first]
  | some execution =>
    simp only [remaining, found, Option.some.injEq, exists_eq_left', Execution.remaining]
    cases execution.state with
    | running stage =>
      have ahead := ahead_allowed stage
      have room : stage.allowed = stage.budget + 1 := rfl
      simp only [ExecutionState.isRunning, Bool.true_eq_false, iff_false]
      omega
    | succeeded | superseded | workflowFailed => simp [ExecutionState.isRunning]

/-- A workflow allows no more advances than from its start. -/
theorem remaining_first (name : Str) (world : World) : remaining name world ≤ 18 := by
  have first (stage : Stage) : stage.ahead ≤ 18 := by cases stage <;> decide
  unfold remaining
  split
  · exact first _
  · unfold Execution.remaining
    split
    · exact (Nat.sub_le _ _).trans (first _)
    · exact Nat.zero_le _

/-- A workflow ends: whatever else happens, its execution advances at most eighteen times, and
less often only if it has ended or can advance further. -/
theorem advances_bounded {name : Str} {count : Nat} {first last : SettlementPool}
    (run : AdvancesIn deployment policy name count first last) :
    count + remaining name last.world ≤ 18 ∧
      (remaining name last.world = 0 ↔ ∃ execution,
        last.world.store.execution name = some execution ∧ execution.state.isRunning = false) :=
  ⟨(advances_remaining run).trans (remaining_first name first.world), remaining_zero⟩

/-- The validation of a settled day is one advance. -/
theorem advances_bounded_settled_day : ∃ last,
    AdvancesIn settlementDeployment samplePolicy (sampleName settledManifest) 1 ⟨emptyWorld, [], []⟩
        last ∧
      1 + remaining (sampleName settledManifest) last.world ≤ 18 := by
  let started := paymentArrives ++ putBoth settledManifest (str "v1") ++
    [.invoke (sampleDelivery settledManifest)]
  obtain ⟨pool, reached, advances⟩ := @plays_reaches settlementDeployment samplePolicy _ started
    (fun pool => (pool.world.move settlementLibrary
      (.advance (sampleName settledManifest) .completes)).isSome = true) _ (by decide +kernel)
  obtain ⟨world, moved⟩ := Option.isSome_iff_exists.mp advances
  have before : AdvancesIn settlementDeployment samplePolicy (sampleName settledManifest) 0
      ⟨emptyWorld, [], []⟩ pool := continues_advances reached
  have run := before.advance ⟨trivial, trivial⟩ moved
  exact ⟨_, run, (advances_bounded run).1⟩

end LedgerFlow.Settlement
