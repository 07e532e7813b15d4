import Hiraeth.Lib.Program

/-!
# Programs that call only what they know

A program learns from every answer, and what it has learned entitles it to
further calls.  `Obeys` is the weakest precondition under which a program, run
to its end with any answers at all, makes only calls it is entitled to and ends
with a given postcondition.

## Main definitions

* `Discipline` — what is learned from an event, and which calls are permitted
* `Program.Obeys` — the weakest precondition

## Main results

* `Program.obeys_bind` — the rule for sequences
* `Program.Obeys.follows` — a program that has got part of the way obeys from
  what it has learned so far
* `Reachable.obeys` — so does every thread of a reachable configuration
-/

namespace Interaction

/-- What is learned from events, and what calls this permits. -/
structure Discipline (I : Interface) (K : Type) where
  learn : K → Event I → K
  permits : K → I.Call → Prop

namespace Program

variable {I : Interface} {K : Type} {α β ε ε' : Type} {discipline : Discipline I K}

/-- **The weakest precondition.**  Every call is permitted by what is known when
it is made, and at the end the postcondition holds. -/
def Obeys (discipline : Discipline I K) : Program I α → (α → K → Prop) → K → Prop
  | done result, post, known => post result known
  | call request next, post, known =>
      discipline.permits known request ∧
        ∀ answer, (next answer).Obeys discipline post (discipline.learn known ⟨request, answer⟩)

variable {known : K}

@[simp]
theorem obeys_done {result : α} {post : α → K → Prop} :
    (done result : Program I α).Obeys discipline post known ↔ post result known := Iff.rfl

@[simp]
theorem obeys_call {request : I.Call} {next : I.Answer request → Program I α}
    {post : α → K → Prop} :
    (call request next).Obeys discipline post known ↔ discipline.permits known request ∧
      ∀ answer, (next answer).Obeys discipline post
        (discipline.learn known ⟨request, answer⟩) := Iff.rfl

/-- **The rule for sequences.** -/
@[simp]
theorem obeys_bind {program : Program I α} {rest : α → Program I β} {post : β → K → Prop} :
    (program >>= rest).Obeys discipline post known ↔
      program.Obeys discipline (fun result => (rest result).Obeys discipline post) known := by
  induction program generalizing known with
  | done result => rfl
  | call request next inductionHypothesis =>
      rw [call_bind, obeys_call, obeys_call]
      simp only [inductionHypothesis]

/-- The rule of consequence. -/
theorem Obeys.mono {program : Program I α} {post post' : α → K → Prop}
    (obeys : program.Obeys discipline post known)
    (weaker : ∀ result known, post result known → post' result known) :
    program.Obeys discipline post' known := by
  induction program generalizing known with
  | done result => exact weaker result known obeys
  | call request next inductionHypothesis =>
      exact ⟨obeys.1, fun answer => inductionHypothesis answer (obeys.2 answer)⟩

/-- A program whose calls are always permitted obeys. -/
theorem AllCalls.obeys {property : I.Call → Prop} {program : Program I α}
    (every : program.AllCalls property)
    (permitted : ∀ known request, property request → discipline.permits known request) (known : K) :
    program.Obeys discipline (fun _ _ => True) known := by
  induction program generalizing known with
  | done result => exact trivial
  | call request next inductionHypothesis =>
      exact ⟨permitted known request every.1, fun answer =>
        inductionHypothesis answer (every.2 answer) _⟩

/-- One program for every item, none of which changes what is known. -/
theorem obeys_mapM {items : List α} {f : α → Program I β}
    (each : ∀ item ∈ items, (f item).Obeys discipline (fun _ after => after = known) known) :
    (items.mapM f).Obeys discipline (fun _ after => after = known) known := by
  induction items with
  | nil => exact rfl
  | cons item items inductionHypothesis =>
      rw [List.mapM_cons, obeys_bind]
      refine (each item List.mem_cons_self).mono fun result after same => ?_
      subst same
      rw [obeys_bind]
      exact inductionHypothesis fun other later => each other (List.mem_cons_of_mem _ later)

/-! ### Failing programs -/

/-- How a failing program and its continuation obey: a failure skips the rest. -/
theorem obeys_run_bind {program : ExceptT ε (Program I) α} {rest : α → ExceptT ε (Program I) β}
    {post : Except ε β → K → Prop} :
    (program >>= rest).run.Obeys discipline post known ↔
      program.run.Obeys discipline (fun outcome between =>
        match outcome with
        | .ok value => (rest value).run.Obeys discipline post between
        | .error failure => post (.error failure) between) known := by
  rw [ExceptT.run_bind, obeys_bind]
  constructor
  · intro obeys
    refine obeys.mono fun outcome between after => ?_
    cases outcome <;> exact after
  · intro obeys
    refine obeys.mono fun outcome between after => ?_
    cases outcome <;> exact after

@[simp]
theorem obeys_run_pure {result : α} {post : Except ε α → K → Prop} :
    (pure result : ExceptT ε (Program I) α).run.Obeys discipline post known ↔
      post (.ok result) known := Iff.rfl

@[simp]
theorem obeys_run_throw {failure : ε} {post : Except ε α → K → Prop} :
    (throw failure : ExceptT ε (Program I) α).run.Obeys discipline post known ↔
      post (.error failure) known := Iff.rfl

@[simp]
theorem obeys_run_liftExcept {outcome : Except ε α} {post : Except ε α → K → Prop} :
    (liftExcept outcome : ExceptT ε (Program I) α).run.Obeys discipline post known ↔
      post outcome known := by
  cases outcome <;> rfl

@[simp]
theorem obeys_run_orFail {program : Program I (Except ε α)} {translate : ε → ε'}
    {post : Except ε' α → K → Prop} :
    (program.orFail translate).run.Obeys discipline post known ↔
      program.Obeys discipline (fun outcome => post (outcome.mapError translate)) known := by
  unfold orFail
  rw [ExceptT.run_mk, obeys_bind]
  rfl

/-- A computation without calls, and what comes after it. -/
theorem Obeys.liftExcept_bind {outcome : Except ε α} {rest : α → ExceptT ε (Program I) β}
    {post : Except ε β → K → Prop} (failing : ∀ failure, post (.error failure) known)
    (later : ∀ value, outcome = .ok value → (rest value).run.Obeys discipline post known) :
    (liftExcept outcome >>= rest).run.Obeys discipline post known := by
  cases outcome with
  | error failure => exact failing failure
  | ok value => exact later value rfl

/-- A call that may fail, and what comes after it. -/
theorem Obeys.orFail_bind {program : Program I (Except ε α)} {translate : ε → ε'}
    {rest : α → ExceptT ε' (Program I) β} {post : Except ε' β → K → Prop}
    (obeys : program.Obeys discipline (fun outcome between =>
      (∀ failure, outcome = .error failure → post (.error (translate failure)) between) ∧
      ∀ value, outcome = .ok value → (rest value).run.Obeys discipline post between) known) :
    (program.orFail translate >>= rest).run.Obeys discipline post known := by
  rw [obeys_run_bind, obeys_run_orFail]
  refine obeys.mono fun outcome between after => ?_
  cases outcome with
  | error failure => exact after.1 failure rfl
  | ok value => exact after.2 value rfl

/-! ### Part of the way -/

/-- **A program that has got part of the way obeys from what it has learned.** -/
theorem Obeys.follows {program rest : Program I α} {events : List (Event I)}
    {post : α → K → Prop} (obeys : program.Obeys discipline post known)
    (follows : Follows program events rest) :
    rest.Obeys discipline post (events.foldl discipline.learn known) := by
  induction events generalizing program known with
  | nil =>
      obtain rfl := follows_nil.mp follows
      exact obeys
  | cons event events inductionHypothesis =>
      cases program with
      | done result => exact follows.elim
      | call request next =>
          obtain ⟨answer, rfl, later⟩ := follows
          exact inductionHypothesis (obeys.2 answer) later

end Program

/-- **Every thread obeys from what it has learned.** -/
theorem Reachable.obeys {I : Interface} {K α ι : Type} {S : Type*} [DecidableEq ι]
    {serve : Serve I S} {allowed : Config I α ι S → ι → Prop} {start config : Config I α ι S}
    {discipline : Discipline I K} {known : K} {thread : ι} {post : α → K → Prop}
    (reachable : Reachable serve allowed start config) (fresh : start.log = [])
    (obeys : (start.threads thread).Obeys discipline post known) :
    (config.threads thread).Obeys discipline post
      ((config.history thread).foldl discipline.learn known) :=
  obeys.follows (reachable.follows fresh thread)

end Interaction
