import Mathlib.Logic.Relation

/-!
# Programs that call a world one atomic step at a time

A program is a finite tree: it is done with a result, or it makes one call and
resumes on the reply. A world answers each call by a relation, so one call may
succeed, be refused or be reported as failed whether or not it took effect.
`Runs` is the program abandoned after any number of calls; `eval` answers every
call by a function and runs to the end.

`Meets` is the program logic. A call made where the precondition holds moves the
world along the guarantee and establishes an assertion that interference along
the rely cannot destroy; that assertion is the precondition of the continuation.
The rules below follow the syntax of a program: one for a result, one for a call,
one for composition, and one each for raising and for catching an error.

`Strict` programs give up at the first error their world reports. Their faulty
executions either follow the fault-free evaluation or stop with an error.
-/

namespace Programs

/-- A result, or one call and the continuation on its reply. -/
inductive Program (Call : Type) (Reply : Call → Type) (α : Type) where
  | done (result : α) : Program Call Reply α
  | call (request : Call) (resume : Reply request → Program Call Reply α) : Program Call Reply α

namespace Program

variable {Call : Type} {Reply : Call → Type} {World : Type} {α β γ : Type}

/-- Continue with the result once the program is done. -/
def bind : Program Call Reply α → (α → Program Call Reply β) → Program Call Reply β
  | .done result, next => next result
  | .call request resume, next => .call request (fun reply => (resume reply).bind next)

instance : Monad (Program Call Reply) where
  pure := .done
  bind := bind

/-- Returning makes no call. -/
@[simp] theorem pure_eq (result : α) :
    (pure result : Program Call Reply α) = .done result := rfl

/-- What returns goes on with what follows. -/
@[simp] theorem done_bind (result : α) (next : α → Program Call Reply β) :
    (.done result : Program Call Reply α) >>= next = next result := rfl

/-- What calls first still calls first, and goes on after the reply. -/
@[simp] theorem call_bind (request : Call) (resume : Reply request → Program Call Reply α)
    (next : α → Program Call Reply β) :
    .call request resume >>= next = .call request (fun reply => resume reply >>= next) := rfl

/-- Returning the result unchanged adds no step to a program. -/
theorem bind_done (program : Program Call Reply α) : program >>= .done = program := by
  induction program with
  | done result => rfl
  | call request resume inductionHypothesis =>
    rw [call_bind]
    exact congrArg _ (funext inductionHypothesis)

/-- Composition does not depend on how it is bracketed. -/
theorem bind_assoc (program : Program Call Reply α) (first : α → Program Call Reply β)
    (second : β → Program Call Reply γ) :
    program >>= first >>= second = program >>= fun result => first result >>= second := by
  induction program with
  | done result => rfl
  | call request resume inductionHypothesis =>
    simp only [call_bind]
    exact congrArg _ (funext inductionHypothesis)

instance : LawfulMonad (Program Call Reply) :=
  LawfulMonad.mk' _ bind_done (fun _ _ => rfl) bind_assoc

/-- One call, whose reply is the result. -/
def request (call : Call) : Program Call Reply (Reply call) := .call call .done

/-! ## Executions -/

/-- How a world may answer each call: the world before, the reply, the world after. -/
abbrev Effect (Call : Type) (Reply : Call → Type) (World : Type) :=
  (request : Call) → World → Reply request → World → Prop

/-- One atomic call of a program against the world. -/
inductive Step (effect : Effect Call Reply World) :
    World × Program Call Reply α → World × Program Call Reply α → Prop
  | call {request : Call} {resume : Reply request → Program Call Reply α} {before after : World}
      {reply : Reply request} (answered : effect request before reply after) :
      Step effect (before, .call request resume) (after, resume reply)

/-- Any number of calls. The program reached may be abandoned there. -/
def Runs (effect : Effect Call Reply World) :
    World × Program Call Reply α → World × Program Call Reply α → Prop :=
  Relation.ReflTransGen (Step effect)

/-- Run to the end, answering each call by a function of the world. -/
def eval (answer : (request : Call) → World → Reply request × World) :
    Program Call Reply α → World → α × World
  | .done result, world => (result, world)
  | .call request resume, world =>
      (resume (answer request world).1).eval answer (answer request world).2

section Evaluation

variable {answer : (request : Call) → World → Reply request × World}

/-- Evaluating a result leaves the world as it is. -/
@[simp] theorem eval_done (result : α) (world : World) :
    (.done result : Program Call Reply α).eval answer world = (result, world) := rfl

/-- Evaluating a call takes its reply and its world from the answer. -/
@[simp] theorem eval_call (request : Call) (resume : Reply request → Program Call Reply α)
    (world : World) :
    (Program.call request resume).eval answer world =
      (resume (answer request world).1).eval answer (answer request world).2 := rfl

/-- A composition evaluates its second part in the world where the first one ends. -/
theorem eval_bind (program : Program Call Reply α) (next : α → Program Call Reply β)
    (world : World) :
    (program >>= next).eval answer world =
      (next (program.eval answer world).1).eval answer (program.eval answer world).2 := by
  induction program generalizing world with
  | done result => rfl
  | call request resume inductionHypothesis =>
    rw [call_bind, eval_call, inductionHypothesis, eval_call]

/-- Where the world may answer as the function does, evaluation is an execution. -/
theorem eval_runs {effect : Effect Call Reply World}
    (allowed : ∀ request world, effect request world (answer request world).1
      (answer request world).2)
    (program : Program Call Reply α) (world : World) :
    Runs effect (world, program)
      ((program.eval answer world).2, .done (program.eval answer world).1) := by
  induction program generalizing world with
  | done result => exact .refl
  | call request resume inductionHypothesis =>
    exact .head (.call (allowed request world)) (inductionHypothesis _ _)

/-- What every answer preserves, evaluating a program preserves, whatever it calls. -/
theorem eval_preserves {kept : World → Prop}
    (preserved : ∀ request world, kept world → kept (answer request world).2)
    (program : Program Call Reply α) (world : World) (holds : kept world) :
    kept (program.eval answer world).2 := by
  induction program generalizing world with
  | done result => exact holds
  | call request resume inductionHypothesis =>
    exact inductionHypothesis _ _ (preserved request world holds)

end Evaluation

/-! ## Assertions at every call -/

/-- Interference along the rely cannot destroy the assertion. -/
def Stable (rely : World → World → Prop) (assertion : World → Prop) : Prop :=
  ∀ before after, rely before after → assertion before → assertion after

/-- Every call made under the precondition follows the guarantee and leaves a
stable precondition for the continuation; a result satisfies the postcondition. -/
def Meets (effect : Effect Call Reply World) (rely guarantee : World → World → Prop) :
    Program Call Reply α → (World → Prop) → (α → World → Prop) → Prop
  | .done result, pre, post => ∀ world, pre world → post result world
  | .call request resume, pre, post => ∃ replied : Reply request → World → Prop,
      (∀ before reply after, pre before → effect request before reply after →
        guarantee before after ∧ replied reply after) ∧
      (∀ reply, Stable rely (replied reply)) ∧
      ∀ reply, (resume reply).Meets effect rely guarantee (replied reply) post

section Rules

variable {effect : Effect Call Reply World} {rely guarantee : World → World → Prop}

/-- A program that meets a specification meets every one with a stronger precondition and a weaker
postcondition. -/
theorem Meets.weaken {program : Program Call Reply α} {pre required : World → Prop}
    {ensured post : α → World → Prop}
    (meets : program.Meets effect rely guarantee required ensured)
    (before : ∀ world, pre world → required world)
    (after : ∀ result world, ensured result world → post result world) :
    program.Meets effect rely guarantee pre post := by
  induction program generalizing pre required with
  | done result => exact fun world holds => after result world (meets world (before world holds))
  | call request resume inductionHypothesis =>
    obtain ⟨replied, answered, stable, rest⟩ := meets
    refine ⟨replied, ?_, stable, fun reply => ?_⟩
    · exact fun world reply next holds => answered world reply next (before world holds)
    · exact inductionHypothesis reply (rest reply) (fun _ holds => holds)

/-- The second part starts from what the first one ensures of its result. -/
theorem Meets.bind {program : Program Call Reply α} {next : α → Program Call Reply β}
    {pre : World → Prop} {middle : α → World → Prop} {post : β → World → Prop}
    (first : program.Meets effect rely guarantee pre middle)
    (second : ∀ result, (next result).Meets effect rely guarantee (middle result) post) :
    (program >>= next).Meets effect rely guarantee pre post := by
  induction program generalizing pre with
  | done result => exact (second result).weaken first (fun _ _ holds => holds)
  | call request resume inductionHypothesis =>
    obtain ⟨replied, answered, stable, rest⟩ := first
    exact ⟨replied, answered, stable, fun reply => inductionHypothesis reply (rest reply)⟩

/-- One call ensures of its reply whatever every permitted answer establishes, provided that
others cannot undo it. -/
theorem Meets.request {call : Call} {pre : World → Prop} {post : Reply call → World → Prop}
    (answered : ∀ before reply after, pre before → effect call before reply after →
      guarantee before after ∧ post reply after)
    (stable : ∀ reply, Stable rely (post reply)) :
    (Program.request call).Meets effect rely guarantee pre post :=
  ⟨post, answered, stable, fun _ _ holds => holds⟩

/-- A fact that interference and the program's own calls both respect may be
carried along unchanged. -/
theorem Meets.frame {program : Program Call Reply α} {pre kept : World → Prop}
    {post : α → World → Prop} (meets : program.Meets effect rely guarantee pre post)
    (stable : Stable rely kept) (own : Stable guarantee kept) :
    program.Meets effect rely guarantee (fun world => pre world ∧ kept world)
      (fun result world => post result world ∧ kept world) := by
  induction program generalizing pre with
  | done result => exact fun world holds => ⟨meets world holds.1, holds.2⟩
  | call request resume inductionHypothesis =>
    obtain ⟨replied, answered, replyStable, rest⟩ := meets
    refine ⟨fun reply world => replied reply world ∧ kept world, ?_, ?_, ?_⟩
    · intro before reply after holds moved
      obtain ⟨guaranteed, established⟩ := answered before reply after holds.1 moved
      exact ⟨guaranteed, established, own before after guaranteed holds.2⟩
    · exact fun reply before after moved holds =>
        ⟨replyStable reply before after moved holds.1, stable before after moved holds.2⟩
    · exact fun reply => inductionHypothesis reply (rest reply)

/-- A program meets every specification whose precondition no world has. -/
theorem Meets.vacuous {program : Program Call Reply α} {pre : World → Prop}
    {post : α → World → Prop} (impossible : ∀ world, ¬ pre world) :
    program.Meets effect rely guarantee pre post := by
  induction program generalizing pre with
  | done result => exact fun world holds => absurd holds (impossible world)
  | call request resume inductionHypothesis =>
    refine ⟨fun _ _ => False, ?_, fun _ _ _ _ wrong => wrong, fun reply => ?_⟩
    · exact fun before _ _ holds => absurd holds (impossible before)
    · exact inductionHypothesis reply fun _ wrong => wrong

/-- A condition that does not depend on the world may be assumed. -/
theorem Meets.assume {program : Program Call Reply α} {condition : Prop} {pre : World → Prop}
    {post : α → World → Prop}
    (meets : condition → program.Meets effect rely guarantee pre post) :
    program.Meets effect rely guarantee (fun world => condition ∧ pre world) post := by
  by_cases holds : condition
  · exact (meets holds).weaken (fun _ both => both.2) (fun _ _ ends => ends)
  · exact Meets.vacuous fun _ both => holds both.1

/-- Along a run, what the guarantee ensures of every world it reaches holds. -/
theorem Meets.always {program : Program Call Reply α} {pre holds : World → Prop}
    {post : α → World → Prop} {before after : World} {rest : Program Call Reply α}
    (meets : program.Meets effect rely (fun _ reached => holds reached) pre post)
    (start : pre before) (initially : holds before)
    (run : Runs effect (before, program) (after, rest)) : holds after := by
  have tracked : ∀ reached : World × Program Call Reply α,
      Runs effect (before, program) reached →
        holds reached.1 ∧ ∃ assertion : World → Prop, assertion reached.1 ∧
          reached.2.Meets effect rely (fun _ world => holds world) assertion post := by
    intro reached reaching
    induction reaching with
    | refl => exact ⟨initially, pre, start, meets⟩
    | tail _ step inductionHypothesis =>
      obtain ⟨_, assertion, asserted, continued⟩ := inductionHypothesis
      cases step with
      | call answered =>
        obtain ⟨replied, calls, _, following⟩ := continued
        obtain ⟨kept, established⟩ := calls _ _ _ asserted answered
        exact ⟨kept, replied _, established, following _⟩
  exact (tracked (after, rest) run).1

end Rules

/-! ## Programs restricted to some calls -/

/-- Every call the program can make is allowed. -/
def Calls (allowed : Call → Prop) : Program Call Reply α → Prop
  | .done _ => True
  | .call request resume => allowed request ∧ ∀ reply, (resume reply).Calls allowed

section Restricted

variable {allowed : Call → Prop}

/-- A composition makes the calls of its parts and no others. -/
theorem Calls.bind {program : Program Call Reply α} {next : α → Program Call Reply β}
    (first : program.Calls allowed) (second : ∀ result, (next result).Calls allowed) :
    (program >>= next).Calls allowed := by
  induction program with
  | done result => exact second result
  | call request resume inductionHypothesis =>
    obtain ⟨isAllowed, rest⟩ := first
    exact ⟨isAllowed, fun reply => inductionHypothesis reply (rest reply)⟩

/-- What every allowed call keeps, and others keep too, a program of allowed calls keeps. -/
theorem Calls.meets {effect : Effect Call Reply World} {rely guarantee : World → World → Prop}
    {kept : World → Prop} {program : Program Call Reply α} (calls : program.Calls allowed)
    (keeps : ∀ request before reply after, allowed request → kept before →
      effect request before reply after → guarantee before after ∧ kept after)
    (stable : Stable rely kept) :
    program.Meets effect rely guarantee kept (fun _ world => kept world) := by
  induction program with
  | done result => exact fun world holds => holds
  | call request resume inductionHypothesis =>
    obtain ⟨isAllowed, rest⟩ := calls
    exact ⟨fun _ => kept, fun before reply after holds answered =>
      keeps request before reply after isAllowed holds answered, fun _ => stable,
      fun reply => inductionHypothesis reply (rest reply)⟩

/-- What every answer to an allowed call keeps, evaluating a program of allowed calls keeps. -/
theorem Calls.eval_keeps {answer : (request : Call) → World → Reply request × World}
    {kept : World → Prop} {program : Program Call Reply α} (calls : program.Calls allowed)
    (keeps : ∀ request world, allowed request → kept world → kept (answer request world).2)
    (world : World) (holds : kept world) : kept (program.eval answer world).2 := by
  induction program generalizing world with
  | done result => exact holds
  | call request resume inductionHypothesis =>
    obtain ⟨isAllowed, rest⟩ := calls
    exact inductionHypothesis _ (rest _) _ (keeps request world isAllowed holds)

end Restricted

end Program

/-! ## Programs that may raise an error -/

/-- A program whose result is a value or an error. -/
abbrev Fallible (Call : Type) (Reply : Call → Type) (Error α : Type) :=
  ExceptT Error (Program Call Reply) α

namespace Fallible

open Program

variable {Call : Type} {Reply : Call → Type} {World Error α β : Type}

/-- A fallible program that returns has succeeded, without a call. -/
@[simp] theorem run_pure (result : α) :
    (pure result : Fallible Call Reply Error α).run = .done (.ok result) := rfl

/-- A fallible program that throws has failed, without a call. -/
@[simp] theorem run_throw (error : Error) :
    (throw error : Fallible Call Reply Error α).run = .done (.error error) := rfl

/-- Composition runs the second part on a value and passes an error on. -/
theorem run_bind (program : Fallible Call Reply Error α)
    (next : α → Fallible Call Reply Error β) :
    (program >>= next).run = program.run >>= fun outcome =>
      match outcome with
      | .ok result => (next result).run
      | .error error => .done (.error error) := rfl

/-- Catching runs the handler on an error and passes a value on. -/
theorem run_try_catch (program : Fallible Call Reply Error α)
    (handler : Error → Fallible Call Reply Error α) :
    (tryCatch program handler).run = program.run >>= fun outcome =>
      match outcome with
      | .ok result => .done (.ok result)
      | .error error => (handler error).run := rfl

/-- A result that is known is returned or thrown without a call. -/
@[simp] theorem run_of_except (result : Except Error α) :
    (ofExcept result : Fallible Call Reply Error α).run = .done result := by
  cases result <;> rfl

/-- A composition of fallible programs makes the calls of its parts, those of the second only
where the first returns. -/
theorem calls_bind {allowed : Call → Prop} {program : Fallible Call Reply Error α}
    {next : α → Fallible Call Reply Error β} (first : program.run.Calls allowed)
    (second : ∀ result, (next result).run.Calls allowed) :
    (program >>= next).run.Calls allowed := by
  rw [run_bind]
  refine first.bind fun outcome => ?_
  cases outcome with
  | ok result => exact second result
  | error error => trivial

/-- Catching makes the calls of the body and of the handler, and no others. -/
theorem calls_try_catch {allowed : Call → Prop} {program : Fallible Call Reply Error α}
    {handler : Error → Fallible Call Reply Error α} (body : program.run.Calls allowed)
    (handled : ∀ error, (handler error).run.Calls allowed) :
    (tryCatch program handler).run.Calls allowed := by
  rw [run_try_catch]
  refine body.bind fun outcome => ?_
  cases outcome with
  | ok result => trivial
  | error error => exact handled error

/-- A value that is known is passed on to what follows. -/
theorem except_bind_ok {result : Except Error α} {value : α}
    {next : α → Fallible Call Reply Error β} (returns : result = .ok value) :
    (ofExcept result >>= next).run = (next value).run := by
  rw [returns]
  rfl

section Evaluation

variable {answer : (request : Call) → World → Reply request × World} {world middle : World}

/-- Where the first part returns, a composition goes on with the second. -/
theorem eval_bind_ok {program : Fallible Call Reply Error α}
    {next : α → Fallible Call Reply Error β} {result : α}
    (returns : program.run.eval answer world = (.ok result, middle)) :
    (program >>= next).run.eval answer world = (next result).run.eval answer middle := by
  rw [run_bind, Program.eval_bind, returns]

/-- Where the first part raises, a composition ends with the error, in the world where the first
part ended. -/
theorem eval_bind_error {program : Fallible Call Reply Error α}
    {next : α → Fallible Call Reply Error β} {error : Error}
    (raises : program.run.eval answer world = (.error error, middle)) :
    (program >>= next).run.eval answer world = (.error error, middle) := by
  rw [run_bind, Program.eval_bind, raises]
  rfl

/-- A body that returns is not handled, so catching changes nothing. -/
theorem eval_try_ok {program : Fallible Call Reply Error α}
    {handler : Error → Fallible Call Reply Error α} {result : α}
    (returns : program.run.eval answer world = (.ok result, middle)) :
    (tryCatch program handler).run.eval answer world = (.ok result, middle) := by
  rw [run_try_catch, Program.eval_bind, returns]
  rfl

/-- A body that raises is handled, from the world where it ended. -/
theorem eval_try_error {program : Fallible Call Reply Error α}
    {handler : Error → Fallible Call Reply Error α} {error : Error}
    (raises : program.run.eval answer world = (.error error, middle)) :
    (tryCatch program handler).run.eval answer world =
      (handler error).run.eval answer middle := by
  rw [run_try_catch, Program.eval_bind, raises]

end Evaluation

section Rules

variable {effect : Effect Call Reply World} {rely guarantee : World → World → Prop}
variable {pre : World → Prop}

/-- The program ends with a good value, or with an error in a bad world. -/
def Ends (good : α → World → Prop) (bad : World → Prop) : Except Error α → World → Prop
  | .ok result, world => good result world
  | .error _, world => bad world

/-- The program ends with a good value, or with an error that is bad in its world. -/
def EndsWith (good : α → World → Prop) (bad : Error → World → Prop) :
    Except Error α → World → Prop
  | .ok result, world => good result world
  | .error error, world => bad error world

/-- Composition of fallible programs: values feed the second part, errors end both. -/
theorem meets_bind_with {program : Fallible Call Reply Error α}
    {next : α → Fallible Call Reply Error β} {good : β → World → Prop}
    {bad : Error → World → Prop} (middle : α → World → Prop)
    (first : program.run.Meets effect rely guarantee pre (EndsWith middle bad))
    (second : ∀ result,
      (next result).run.Meets effect rely guarantee (middle result) (EndsWith good bad)) :
    (program >>= next).run.Meets effect rely guarantee pre (EndsWith good bad) := by
  rw [run_bind]
  refine first.bind fun outcome => ?_
  cases outcome with
  | ok result => exact second result
  | error error => exact fun world holds => holds

/-- The rule of catching: each error of the body feeds the handler, and a value of either ends
both. -/
theorem meets_try_catch_with {program : Fallible Call Reply Error α}
    {handler : Error → Fallible Call Reply Error α} {good : α → World → Prop}
    {bad : Error → World → Prop} (failed : Error → World → Prop)
    (body : program.run.Meets effect rely guarantee pre (EndsWith good failed))
    (handled : ∀ error,
      (handler error).run.Meets effect rely guarantee (failed error) (EndsWith good bad)) :
    (tryCatch program handler).run.Meets effect rely guarantee pre (EndsWith good bad) := by
  rw [run_try_catch]
  refine body.bind fun outcome => ?_
  cases outcome with
  | ok result => exact fun world holds => holds
  | error error => exact handled error

/-- A known result is passed on, and a known error ends the program. -/
theorem meets_except_bind_with {result : Except Error α} {next : α → Fallible Call Reply Error β}
    {good : β → World → Prop} {bad : Error → World → Prop}
    (raises : ∀ error, result = .error error → ∀ world, pre world → bad error world)
    (second : ∀ value, result = .ok value →
      (next value).run.Meets effect rely guarantee pre (EndsWith good bad)) :
    (ofExcept result >>= next).run.Meets effect rely guarantee pre (EndsWith good bad) := by
  cases result with
  | ok value => exact second value rfl
  | error error => exact raises error rfl

/-- The rule of composition where all errors are bad in the same worlds. -/
theorem meets_bind {program : Fallible Call Reply Error α}
    {next : α → Fallible Call Reply Error β} {good : β → World → Prop} {bad : World → Prop}
    (middle : α → World → Prop)
    (first : program.run.Meets effect rely guarantee pre (Ends middle bad))
    (second : ∀ result,
      (next result).run.Meets effect rely guarantee (middle result) (Ends good bad)) :
    (program >>= next).run.Meets effect rely guarantee pre (Ends good bad) :=
  meets_bind_with middle first second

/-- The rule of catching where all errors feed the handler in the same worlds. -/
theorem meets_try_catch {program : Fallible Call Reply Error α}
    {handler : Error → Fallible Call Reply Error α} {good : α → World → Prop}
    {bad : World → Prop} (failed : World → Prop)
    (body : program.run.Meets effect rely guarantee pre (Ends good failed))
    (handled : ∀ error, (handler error).run.Meets effect rely guarantee failed (Ends good bad)) :
    (tryCatch program handler).run.Meets effect rely guarantee pre (Ends good bad) :=
  meets_try_catch_with (fun _ => failed) body handled

/-- A fact that interference and the program's own calls respect may be carried along,
past values and errors. -/
theorem meets_frame {program : Fallible Call Reply Error α} {good : α → World → Prop}
    {bad kept : World → Prop}
    (meets : program.run.Meets effect rely guarantee pre (Ends good bad))
    (stable : Stable rely kept) (own : Stable guarantee kept) :
    program.run.Meets effect rely guarantee (fun world => pre world ∧ kept world)
      (Ends (fun result world => good result world ∧ kept world)
        (fun world => bad world ∧ kept world)) := by
  refine (meets.frame stable own).weaken (fun _ holds => holds) fun outcome _ holds => ?_
  cases outcome with
  | ok result => exact holds
  | error error => exact holds

/-- An error alone meets every specification of values, where it may end badly in the world that
it is thrown in. -/
theorem meets_throw {error : Error} {good : α → World → Prop} {bad : World → Prop}
    (ends : ∀ world, pre world → bad world) :
    (throw error : Fallible Call Reply Error α).run.Meets effect rely guarantee pre
      (Ends good bad) := ends

/-- After a known result the second part runs on its value only. -/
theorem meets_except_bind {result : Except Error α} {next : α → Fallible Call Reply Error β}
    {good : β → World → Prop} {bad : World → Prop} (raises : ∀ world, pre world → bad world)
    (second : ∀ value, result = .ok value →
      (next value).run.Meets effect rely guarantee pre (Ends good bad)) :
    (ofExcept result >>= next).run.Meets effect rely guarantee pre (Ends good bad) := by
  cases result with
  | ok value => exact second value rfl
  | error error => exact raises

/-- A value alone meets every specification of errors, where it is good in the world that it is
returned in. -/
theorem meets_pure {result : α} {good : α → World → Prop} {bad : World → Prop}
    (ends : ∀ world, pre world → good result world) :
    (pure result : Fallible Call Reply Error α).run.Meets effect rely guarantee pre
      (Ends good bad) := ends

end Rules

end Fallible

/-! ## Worlds that may report a fault -/

section Faults

open Program

variable {Call : Type} {Rows : Call → Type} {World Error α β : Type}

/-- Every call is answered by a value or an error. -/
abbrev Answer (Error : Type) (Rows : Call → Type) (request : Call) : Type :=
  Except Error (Rows request)

/-- A fallible program over calls that may themselves fail. -/
abbrev Faultable (Call : Type) (Rows : Call → Type) (Error α : Type) :=
  Fallible Call (Answer Error Rows) Error α

/-- Make one call; its error is the program's error. -/
def invoke (call : Call) : Faultable Call Rows Error (Rows call) :=
  ExceptT.mk (Program.request call : Program Call (Answer Error Rows) (Except Error (Rows call)))

/-- An invocation is one call, whose answer is its result or its error. -/
@[simp] theorem run_invoke (call : Call) :
    (invoke call : Faultable Call Rows Error (Rows call)).run =
      (Program.request call : Program Call (Answer Error Rows) (Except Error (Rows call))) := rfl

/-- Invoking an allowed call makes this call and no other. -/
theorem calls_invoke {call : Call} {allowed : Call → Prop} (isAllowed : allowed call) :
    (invoke call : Faultable Call Rows Error (Rows call)).run.Calls allowed :=
  ⟨isAllowed, fun _ => trivial⟩

/-- Besides performing the call, the world may report any error after any move
along `fault`. -/
def faulty (perform : (request : Call) → World → Except Error (Rows request) × World)
    (fault : World → World → Prop) : Effect Call (Answer Error Rows) World :=
  fun request before reply after =>
    (reply, after) = perform request before ∨
      (∃ error, reply = .error error) ∧ fault before after

/-- The world chooses what the code does not control, such as the time. Then it
performs the call and answers, or it reports an error, with the call performed or not. -/
def lossy {Choice : Type}
    (perform : Choice → (request : Call) → World → Except Error (Rows request) × World)
    (reports : Call → Error → World → Prop) : Effect Call (Answer Error Rows) World :=
  fun request before reply after => ∃ choice,
    (reply, after) = perform choice request before ∨
      (∃ error, reply = .error error ∧ reports request error after) ∧
        (after = before ∨ after = (perform choice request before).2)

/-- A world that may report more errors answers in all the ways of one that may report less. -/
theorem lossy_mono {Choice : Type}
    {perform : Choice → (request : Call) → World → Except Error (Rows request) × World}
    {reports more : Call → Error → World → Prop}
    (weaker : ∀ request error world, reports request error world → more request error world)
    {request : Call} {before after : World} {reply : Answer Error Rows request}
    (answered : lossy perform reports request before reply after) :
    lossy perform more request before reply after := by
  obtain ⟨choice, performed | ⟨⟨error, replied, reported⟩, moved⟩⟩ := answered
  · exact ⟨choice, .inl performed⟩
  · exact ⟨choice, .inr ⟨⟨error, replied, weaker _ _ _ reported⟩, moved⟩⟩

/-- One call to a lossy world. What holds after an error must hold both where the
call was performed and where it was not. -/
theorem meets_lossy {Choice : Type}
    {perform : Choice → (request : Call) → World → Except Error (Rows request) × World}
    {reports : Call → Error → World → Prop} {rely guarantee : World → World → Prop}
    {call : Call} {pre bad : World → Prop} {good : Rows call → World → Prop}
    (performed : ∀ choice world, pre world →
      guarantee world (perform choice call world).2 ∧ bad (perform choice call world).2)
    (returned : ∀ choice world rows, pre world → (perform choice call world).1 = .ok rows →
      good rows (perform choice call world).2)
    (unperformed : ∀ world, pre world → guarantee world world ∧ bad world)
    (goodStable : ∀ rows, Stable rely (good rows)) (badStable : Stable rely bad) :
    (invoke call : Faultable Call Rows Error (Rows call)).run.Meets (lossy perform reports) rely
      guarantee pre (Fallible.Ends good bad) := by
  refine Meets.request ?_ fun reply => ?_
  · rintro before reply after holds ⟨choice, exact | ⟨⟨error, rfl, _⟩, rfl | rfl⟩⟩
    · obtain ⟨replied, rfl⟩ := Prod.mk.inj exact
      obtain ⟨follows, failed⟩ := performed choice before holds
      refine ⟨follows, ?_⟩
      cases reply with
      | ok rows => exact returned choice before rows holds replied.symm
      | error error => exact failed
    · exact unperformed _ holds
    · exact performed choice before holds
  · cases reply with
    | ok rows => exact goodStable rows
    | error error => exact badStable

/-- A program that makes only allowed calls and gives up at their first error. -/
def Strict (allowed : Call → Prop) :
    Program Call (Answer Error Rows) (Except Error α) → Prop
  | .done _ => True
  | .call request resume => allowed request ∧
      (∀ error, resume (.error error) = .done (.error error)) ∧
      ∀ reply, Strict allowed (resume reply)

variable {allowed : Call → Prop}

/-- Invoking an allowed call is strict: an error of the answer is thrown on. -/
theorem Strict.invoke {call : Call} (isAllowed : allowed call) :
    Strict allowed (Programs.invoke call : Faultable Call Rows Error (Rows call)).run :=
  ⟨isAllowed, fun _ => rfl, fun _ => trivial⟩

/-- A composition of strict programs is strict, since neither part goes on after an error. -/
theorem Strict.bind {program : Faultable Call Rows Error α}
    {next : α → Faultable Call Rows Error β} (first : Strict allowed program.run)
    (second : ∀ result, Strict allowed (next result).run) :
    Strict allowed (program >>= next).run := by
  rw [Fallible.run_bind]
  generalize program.run = tree at first ⊢
  induction tree with
  | done outcome =>
    cases outcome with
    | ok result => exact second result
    | error error => trivial
  | call request resume inductionHypothesis =>
    obtain ⟨isAllowed, gives, rest⟩ := first
    refine ⟨isAllowed, fun error => ?_, fun reply => inductionHypothesis reply (rest reply)⟩
    change resume (.error error) >>= _ = _
    rw [gives error]
    rfl

/-- A strict program makes allowed calls only. -/
theorem Strict.calls {program : Program Call (Answer Error Rows) (Except Error α)}
    (strict : Strict allowed program) : program.Calls allowed := by
  induction program with
  | done outcome => trivial
  | call request resume inductionHypothesis =>
    obtain ⟨isAllowed, _, rest⟩ := strict
    exact ⟨isAllowed, fun reply => inductionHypothesis reply (rest reply)⟩

variable {perform : (request : Call) → World → Except Error (Rows request) × World}
variable {fault keeps rely guarantee : World → World → Prop}

/-- Under faults a strict program either produces its fault-free result in its
fault-free world or ends with an error, and every step respects `keeps`.

The induction is on the program. A performed call leaves the fault-free target
unchanged, because evaluation starts with the same call; a reported error makes
the program stop, so only the error case of the postcondition remains. -/
theorem Strict.follows (program : Program Call (Answer Error Rows) (Except Error α))
    (strict : Strict allowed program) (start : World) (target : Except Error α × World)
    (transitive : ∀ first second third, keeps first second → keeps second third →
      keeps first third)
    (performed : ∀ request world, allowed request → keeps world (perform request world).2)
    (faulted : ∀ before after, fault before after → keeps before after)
    (promised : ∀ before after, keeps start before → keeps before after →
      guarantee before after) :
    program.Meets (faulty perform fault) (fun _ _ => False) guarantee
      (fun world => keeps start world ∧ program.eval perform world = target)
      (fun outcome world => keeps start world ∧
        ∀ result, outcome = .ok result → (outcome, world) = target) := by
  induction program with
  | done outcome => exact fun world holds => ⟨holds.1, fun _ _ => holds.2⟩
  | call request resume inductionHypothesis =>
    obtain ⟨isAllowed, gives, rest⟩ := strict
    refine ⟨fun reply world => keeps start world ∧
      ∀ rows, reply = .ok rows → (resume reply).eval perform world = target, ?_, ?_, ?_⟩
    · rintro before reply after ⟨kept, evaluates⟩ answered
      rcases answered with exact | ⟨⟨error, rfl⟩, moved⟩
      · obtain ⟨rfl, rfl⟩ := Prod.mk.inj exact
        have moved := performed request before isAllowed
        exact ⟨promised _ _ kept moved, transitive _ _ _ kept moved, fun _ _ => evaluates⟩
      · have stays := faulted _ _ moved
        exact ⟨promised _ _ kept stays, transitive _ _ _ kept stays, by simp⟩
    · exact fun _ _ _ impossible => impossible.elim
    · intro reply
      cases reply with
      | ok rows =>
        exact (inductionHypothesis (.ok rows) (rest _)).weaken
          (fun world holds => ⟨holds.1, holds.2 rows rfl⟩) (fun _ _ holds => holds)
      | error error =>
        rw [gives error]
        exact fun world holds => ⟨holds.1, by simp⟩

end Faults

end Programs
