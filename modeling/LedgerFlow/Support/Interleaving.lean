import LedgerFlow.Support.Programs

/-!
# Interleaved invocations of programs over one shared world

A pool holds a world and the threads running against it. A thread is started for
a job, makes one atomic call at a time, and may be abandoned after any call; the
environment may move the world as well. `Reachable` closes these steps, so every
interleaving of any number of invocations is one of its runs. Jobs that were ever
started stay recorded when their threads are abandoned.

The rely-guarantee rule: if the program of every admitted job meets its
postcondition under the common rely, and guarantees and environment both lie
within the rely, then in every reachable pool each thread still meets its
postcondition from a stable assertion that holds now. A finished thread has its
postcondition. The world itself only ever moves along the rely.
-/

namespace Programs

open Program

/-- One invocation: its job and the rest of its program. -/
structure Thread (Job Call : Type) (Reply : Call → Type) (Result : Type) where
  job : Job
  program : Program Call Reply Result

/-- What can be started, what a started job runs, how the world answers it, and
what else may happen to the world. -/
structure System (Job Call : Type) (Reply : Call → Type) (Result World : Type) where
  admits : Job → World → Prop
  program : Job → Program Call Reply Result
  effect : Job → Effect Call Reply World
  environment : World → World → Prop

/-- A world with its threads and the jobs ever started. -/
structure Pool (Job Call : Type) (Reply : Call → Type) (Result World : Type) where
  world : World
  threads : List (Thread Job Call Reply Result)
  started : List Job

namespace Pool

variable {Job Call : Type} {Reply : Call → Type} {Result World : Type}
variable (system : System Job Call Reply Result World)

/-- One step of the pool: start a job, make one call of one thread, abandon a
thread, or move the environment. -/
inductive Step : Pool Job Call Reply Result World → Pool Job Call Reply Result World → Prop
  | start {world : World} {threads : List (Thread Job Call Reply Result)} {started : List Job}
      (job : Job) (admitted : system.admits job world) :
      Step ⟨world, threads, started⟩
        ⟨world, ⟨job, system.program job⟩ :: threads, job :: started⟩
  | call {world next : World} {before after : List (Thread Job Call Reply Result)}
      {started : List Job} {job : Job} {request : Call}
      {resume : Reply request → Program Call Reply Result} {reply : Reply request}
      (answered : system.effect job request world reply next) :
      Step ⟨world, before ++ ⟨job, .call request resume⟩ :: after, started⟩
        ⟨next, before ++ ⟨job, resume reply⟩ :: after, started⟩
  | abandon {world : World} {before after : List (Thread Job Call Reply Result)}
      {started : List Job} {thread : Thread Job Call Reply Result} :
      Step ⟨world, before ++ thread :: after, started⟩ ⟨world, before ++ after, started⟩
  | environment {world next : World} {threads : List (Thread Job Call Reply Result)}
      {started : List Job} (moved : system.environment world next) :
      Step ⟨world, threads, started⟩ ⟨next, threads, started⟩

/-- The pools that steps reach from a world without threads. -/
def Reachable (initial : World) : Pool Job Call Reply Result World → Prop :=
  Relation.ReflTransGen (Step system) ⟨initial, [], []⟩

/-- A thread may make any number of calls while the others wait. -/
theorem runs_alone {job : Job} {before after : List (Thread Job Call Reply Result)}
    {started : List Job} {first last : World × Program Call Reply Result}
    (run : Runs (system.effect job) first last) :
    Relation.ReflTransGen (Step system) ⟨first.1, before ++ ⟨job, first.2⟩ :: after, started⟩
      ⟨last.1, before ++ ⟨job, last.2⟩ :: after, started⟩ := by
  induction run with
  | refl => exact .refl
  | tail _ step inductionHypothesis =>
    cases step with
    | call answered => exact inductionHypothesis.tail (.call answered)

/-- A job may be started and run to its end while the others wait. -/
theorem reachable_eval {system : System Job Call Reply Result World} {initial : World}
    {pool : Pool Job Call Reply Result World} (reached : Reachable system initial pool) {job : Job}
    (admitted : system.admits job pool.world)
    {answer : (request : Call) → World → Reply request × World}
    (allowed : ∀ request world, system.effect job request world (answer request world).1
      (answer request world).2) :
    Reachable system initial
      ⟨((system.program job).eval answer pool.world).2,
        ⟨job, .done ((system.program job).eval answer pool.world).1⟩ :: pool.threads,
        job :: pool.started⟩ := by
  have started : Step system pool
      ⟨pool.world, ⟨job, system.program job⟩ :: pool.threads, job :: pool.started⟩ :=
    .start job admitted
  have ran := @runs_alone _ _ _ _ _ system job [] pool.threads (job :: pool.started) _ _
    (eval_runs allowed (system.program job) pool.world)
  exact (reached.tail started).trans ran

/-- A system that admits, answers and moves no more than another reaches no more pools. -/
theorem reachable_mono {system other : System Job Call Reply Result World} {initial : World}
    {pool : Pool Job Call Reply Result World} (reached : Reachable system initial pool)
    (admits : ∀ job world, system.admits job world → other.admits job world)
    (programs : ∀ job, system.program job = other.program job)
    (effects : ∀ job request before reply after, system.effect job request before reply after →
      other.effect job request before reply after)
    (moves : ∀ before after, system.environment before after →
      other.environment before after) : Reachable other initial pool := by
  induction reached with
  | refl => exact .refl
  | tail _ step inductionHypothesis =>
    refine inductionHypothesis.tail ?_
    cases step with
    | start job admitted =>
      rw [programs]
      exact .start job (admits _ _ admitted)
    | call answered => exact .call (effects _ _ _ _ _ answered)
    | abandon => exact .abandon
    | environment moved => exact .environment (moves _ _ moved)

variable {system}
variable {rely guarantee : World → World → Prop} {post : Job → Result → World → Prop}

/-- Each thread continues from a stable assertion that holds in the pool's world. -/
def Supported (system : System Job Call Reply Result World)
    (rely guarantee : World → World → Prop) (post : Job → Result → World → Prop)
    (pool : Pool Job Call Reply Result World) : Prop :=
  ∀ thread ∈ pool.threads, ∃ assertion : World → Prop,
    assertion pool.world ∧ Stable rely assertion ∧
      thread.program.Meets (system.effect thread.job) rely guarantee assertion (post thread.job)

/-- One step preserves the support of every thread and moves the world along the
rely or not at all.

A started job is supported by its own precondition. The calling thread moves to
the assertion its call established; every other assertion is stable under that
call, which follows the guarantee and hence the rely. -/
theorem step_supported {first second : Pool Job Call Reply Result World}
    (step : Step system first second)
    (starts : ∀ job, system.admits job first.world → ∃ assertion : World → Prop,
      assertion first.world ∧ Stable rely assertion ∧
        (system.program job).Meets (system.effect job) rely guarantee assertion (post job))
    (guaranteed : ∀ before after, guarantee before after → rely before after)
    (moves : ∀ before after, system.environment before after → rely before after)
    (supported : Supported system rely guarantee post first) :
    Supported system rely guarantee post second ∧
      (second.world = first.world ∨ rely first.world second.world) := by
  cases step with
  | start job admitted =>
    refine ⟨?_, .inl rfl⟩
    intro thread member
    rcases List.mem_cons.mp member with rfl | older
    · exact starts _ admitted
    · exact supported thread older
  | @call world next before after _ job request resume reply answered =>
    obtain ⟨assertion, asserted, _, continued⟩ :=
      supported ⟨job, .call request resume⟩ (by simp)
    obtain ⟨replied, calls, stable, rest⟩ := continued
    obtain ⟨followed, established⟩ := calls _ _ _ asserted answered
    have moved : rely world next := guaranteed _ _ followed
    refine ⟨?_, .inr moved⟩
    intro thread member
    rcases List.mem_append.mp member with earlier | later
    · obtain ⟨other, holds, otherStable, meets⟩ := supported thread (by simp [earlier])
      exact ⟨other, otherStable _ _ moved holds, otherStable, meets⟩
    · rcases List.mem_cons.mp later with rfl | later
      · exact ⟨replied reply, established, stable reply, rest reply⟩
      · obtain ⟨other, holds, otherStable, meets⟩ := supported thread (by simp [later])
        exact ⟨other, otherStable _ _ moved holds, otherStable, meets⟩
  | abandon =>
    refine ⟨?_, .inl rfl⟩
    intro thread member
    refine supported thread ?_
    rcases List.mem_append.mp member with earlier | later
    · simp [earlier]
    · simp [later]
  | environment moved =>
    refine ⟨?_, .inr (moves _ _ moved)⟩
    intro thread member
    obtain ⟨assertion, holds, stable, meets⟩ := supported thread member
    exact ⟨assertion, stable _ _ (moves _ _ moved) holds, stable, meets⟩

/-- The rely-guarantee rule over whole runs: from a pool whose threads are
supported, every later pool's threads are supported, and the world has moved
along the rely any number of times. A started job may assume what the rely keeps. -/
theorem runs_supported {first last : Pool Job Call Reply Result World} {kept : World → Prop}
    (run : Relation.ReflTransGen (Step system) first last)
    (keeps : Stable rely kept) (initially : kept first.world)
    (starts : ∀ job world, kept world → system.admits job world →
      ∃ assertion : World → Prop, assertion world ∧ Stable rely assertion ∧
        (system.program job).Meets (system.effect job) rely guarantee assertion (post job))
    (guaranteed : ∀ before after, guarantee before after → rely before after)
    (moves : ∀ before after, system.environment before after → rely before after)
    (supported : Supported system rely guarantee post first) :
    Supported system rely guarantee post last ∧ kept last.world ∧
      Relation.ReflTransGen rely first.world last.world := by
  induction run with
  | refl => exact ⟨supported, initially, .refl⟩
  | tail _ step inductionHypothesis =>
    obtain ⟨earlier, holds, moved⟩ := inductionHypothesis
    obtain ⟨later, stepped⟩ :=
      step_supported step (fun job => starts job _ holds) guaranteed moves earlier
    rcases stepped with same | along
    · exact ⟨later, same ▸ holds, same ▸ moved⟩
    · exact ⟨later, keeps _ _ along holds, moved.tail along⟩

/-- What holds initially, and what every answer to a call and every move of the
environment preserves, holds of the world of every reachable pool. Each step may use
what is known of reachable worlds. -/
theorem reachable_holds {initial : World} {known holds : World → Prop}
    {pool : Pool Job Call Reply Result World} (reached : Reachable system initial pool)
    (everywhere : ∀ pool, Reachable system initial pool → known pool.world)
    (initially : holds initial)
    (calls : ∀ job request before reply after, known before → known after → holds before →
      system.effect job request before reply after → holds after)
    (moves : ∀ before after, known before → known after → holds before →
      system.environment before after → holds after) : holds pool.world := by
  induction reached with
  | refl => exact initially
  | @tail middle last run step inductionHypothesis =>
    have before := everywhere middle run
    have after := everywhere last (.tail run step)
    cases step with
    | start => exact inductionHypothesis
    | call answered => exact calls _ _ _ _ _ before after inductionHypothesis answered
    | abandon => exact inductionHypothesis
    | environment moved => exact moves _ _ before after inductionHypothesis moved

/-- What every answer to a call and every move of the environment preserves is preserved by any
number of steps. -/
theorem runs_hold {holds : World → Prop} {first last : Pool Job Call Reply Result World}
    (run : Relation.ReflTransGen (Step system) first last) (initially : holds first.world)
    (calls : ∀ job request before reply after, holds before →
      system.effect job request before reply after → holds after)
    (moves : ∀ before after, holds before → system.environment before after → holds after) :
    holds last.world := by
  induction run with
  | refl => exact initially
  | tail _ step inductionHypothesis =>
    cases step with
    | start => exact inductionHypothesis
    | call answered => exact calls _ _ _ _ _ inductionHypothesis answered
    | abandon => exact inductionHypothesis
    | environment moved => exact moves _ _ inductionHypothesis moved

/-- If only the calls of a job leave its mark on the world, the jobs that the world of a
reachable pool bears marks of were started, as were those of its threads. -/
theorem reachable_started {initial : World} {marks : World → Job → Prop}
    {pool : Pool Job Call Reply Result World} (reached : Reachable system initial pool)
    (initially : ∀ job, ¬ marks initial job)
    (calls : ∀ job request before reply after, system.effect job request before reply after →
      ∀ other, marks after other → marks before other ∨ other = job)
    (moves : ∀ before after, system.environment before after →
      ∀ job, marks after job → marks before job) :
    (∀ job, marks pool.world job → job ∈ pool.started) ∧
      ∀ thread ∈ pool.threads, thread.job ∈ pool.started := by
  induction reached with
  | refl =>
    constructor
    · intro job marked
      exact absurd marked (initially job)
    · intro thread member
      cases member
  | tail _ step inductionHypothesis =>
    obtain ⟨marked, running⟩ := inductionHypothesis
    cases step with
    | start job _ =>
      constructor
      · intro other mark
        exact List.mem_cons_of_mem job (marked other mark)
      · intro thread member
        rcases List.mem_cons.mp member with rfl | older
        · exact List.mem_cons_self
        · exact List.mem_cons_of_mem job (running thread older)
    | @call _ _ _ _ _ job request resume _ answered =>
      have caller : job ∈ _ := running ⟨job, .call request resume⟩ (by simp)
      constructor
      · intro other mark
        rcases calls _ _ _ _ _ answered other mark with before | rfl
        · exact marked other before
        · exact caller
      · intro thread member
        rcases List.mem_append.mp member with earlier | later
        · exact running thread (by simp [earlier])
        · rcases List.mem_cons.mp later with rfl | later
          · exact caller
          · exact running thread (by simp [later])
    | abandon =>
      constructor
      · exact marked
      · intro thread member
        apply running thread
        rcases List.mem_append.mp member with earlier | later
        · simp [earlier]
        · simp [later]
    | environment moved =>
      constructor
      · intro job mark
        exact marked job (moves _ _ moved job mark)
      · exact running

/-- A finished thread has its postcondition in the world of its pool. -/
theorem supported_result {pool : Pool Job Call Reply Result World}
    (supported : Supported system rely guarantee post pool) {job : Job} {result : Result}
    (finished : ⟨job, .done result⟩ ∈ pool.threads) : post job result pool.world := by
  obtain ⟨_, holds, _, meets⟩ := supported _ finished
  exact meets _ holds

end Pool

/-- An assertion stable under each move is stable under any number of them. -/
theorem stable_many {World : Type} {rely : World → World → Prop} {assertion : World → Prop}
    (stable : Stable rely assertion) : Stable (Relation.ReflTransGen rely) assertion := by
  intro before after moved holds
  induction moved with
  | refl => exact holds
  | tail _ step inductionHypothesis => exact stable _ _ step inductionHypothesis

end Programs
