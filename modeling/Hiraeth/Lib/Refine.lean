import Hiraeth.Lib.Discipline
import Hiraeth.Lib.Finished

/-!
# Calls that are programs themselves

A call of one interface may stand for a program over another one: a method of a store for
its statements, or a call on one of two stores for the same call on both together.
Replacing every call of a program by its implementation gives a program over the other
interface.

## Main definitions

* `Program.refine` — every call replaced by its implementation
* `Interface.sum`, `Serve.sum` — two stores side by side
* `Program.left`, `Program.right` — a program on one of two stores

## Main results

* `Program.run_refine` — an implementation that does what its calls do changes no run
* `Program.refine_bind` — sequences are refined part by part
* `Program.AllCalls.refine` — what a refined program calls
* `Program.Obeys.refine`, `Program.Obeys.right` — how it obeys
-/

namespace Interaction

universe u v

namespace Program

variable {I J : Interface} {α β ε : Type} {S : Type u}

/-- Every call replaced by its implementation. -/
def refine (implementation : ∀ request : I.Call, Program J (I.Answer request)) :
    Program I α → Program J α
  | done result => done result
  | call request next => implementation request >>= fun answer => (next answer).refine implementation

variable {implementation : ∀ request : I.Call, Program J (I.Answer request)}

@[simp]
theorem refine_done (result : α) : (done result : Program I α).refine implementation = done result :=
  rfl

@[simp]
theorem refine_call (request : I.Call) (next : I.Answer request → Program I α) :
    (call request next).refine implementation =
      implementation request >>= fun answer => (next answer).refine implementation := rfl

/-- A single call becomes its implementation. -/
@[simp]
theorem refine_perform (request : I.Call) :
    (perform request).refine implementation = implementation request :=
  bind_done _

/-- **Sequences are refined part by part.** -/
@[simp]
theorem refine_bind (program : Program I α) (rest : α → Program I β) :
    (program >>= rest).refine implementation =
      program.refine implementation >>= fun result => (rest result).refine implementation := by
  induction program with
  | done result => rfl
  | call request next inductionHypothesis =>
      rw [call_bind, refine_call, refine_call, bind_assoc]
      congr 1
      funext answer
      exact inductionHypothesis answer

/-- **An implementation that does what its calls do changes no run.** -/
theorem run_refine {serve : Serve I S} {serve' : Serve J S}
    (implements : ∀ request state, (implementation request).run serve' state = serve request state)
    (program : Program I α) (state : S) :
    (program.refine implementation).run serve' state = program.run serve state := by
  induction program generalizing state with
  | done result => rfl
  | call request next inductionHypothesis =>
      rw [refine_call, run_bind, implements, run_call]
      exact inductionHypothesis _ _

/-- **What a refined program calls.** -/
theorem AllCalls.refine {property : I.Call → Prop} {property' : J.Call → Prop}
    {program : Program I α} (every : program.AllCalls property)
    (implemented : ∀ request, property request → (implementation request).AllCalls property') :
    (program.refine implementation).AllCalls property' := by
  induction program with
  | done result => exact trivial
  | call request next inductionHypothesis =>
      exact AllCalls.bind (implemented request every.1) fun answer =>
        inductionHypothesis answer (every.2 answer)

/-- **How a refined program obeys**: when every implementation does, and ends with what
is learned from the call that it stands for. -/
theorem Obeys.refine {K : Type} {discipline : Discipline I K} {discipline' : Discipline J K}
    {program : Program I α} {post : α → K → Prop} {known : K}
    (obeys : program.Obeys discipline post known)
    (implemented : ∀ request known, discipline.permits known request →
      (implementation request).Obeys discipline'
        (fun answer after => after = discipline.learn known ⟨request, answer⟩) known) :
    (program.refine implementation).Obeys discipline' post known := by
  induction program generalizing known with
  | done result => exact obeys
  | call request next inductionHypothesis =>
      rw [refine_call, obeys_bind]
      refine (implemented request known obeys.1).mono fun answer after learned => ?_
      subst learned
      exact inductionHypothesis answer (obeys.2 answer)

/-- A refined call that may fail, and what comes after it. -/
theorem Obeys.refine_orFail_bind {K : Type} {discipline : Discipline J K} {known : K} {ε' : Type}
    {program : Program I (Except ε α)} {translate : ε → ε'}
    {rest : α → ExceptT ε' (Program I) β} {post : Except ε' β → K → Prop}
    (obeys : (program.refine implementation).Obeys discipline (fun outcome between =>
      (∀ failure, outcome = .error failure → post (.error (translate failure)) between) ∧
      ∀ value, outcome = .ok value →
        ((rest value).run.refine implementation).Obeys discipline post between) known) :
    ((program.orFail translate >>= rest).run.refine implementation).Obeys discipline post
      known := by
  have together : (program.orFail translate >>= rest).run = program >>= fun outcome =>
      (liftExcept (outcome.mapError translate) >>= rest).run := by
    unfold orFail
    rw [ExceptT.run_bind, ExceptT.run_mk, bind_assoc]
    congr 1
    funext outcome
    cases outcome <;> rfl
  rw [together, refine_bind, obeys_bind]
  refine obeys.mono fun outcome between after => ?_
  cases outcome with
  | error failure => exact after.1 failure rfl
  | ok value => exact after.2 value rfl

end Program

/-! ### Two stores side by side -/

/-- The calls of two interfaces. -/
@[reducible]
def Interface.sum (I J : Interface) : Interface where
  Call := I.Call ⊕ J.Call
  Answer := Sum.elim I.Answer J.Answer

/-- Each store serves its own calls. -/
def Serve.sum {I J : Interface} {S : Type u} {T : Type v} (serve : Serve I S) (serve' : Serve J T) :
    Serve (I.sum J) (S × T)
  | .inl request, state => ((serve request state.1).1, (serve request state.1).2, state.2)
  | .inr request, state => ((serve' request state.2).1, state.1, (serve' request state.2).2)

namespace Program

variable {I J : Interface} {α : Type} {S : Type u} {T : Type v}

/-- A program on the first of two stores. -/
def left (program : Program I α) : Program (I.sum J) α :=
  program.refine fun request => @perform (I.sum J) (.inl request)

/-- A program on the second of two stores. -/
def right (program : Program J α) : Program (I.sum J) α :=
  program.refine fun request => @perform (I.sum J) (.inr request)

variable {serve : Serve I S} {serve' : Serve J T} {state : S × T}

/-- A program on the first store leaves the second alone. -/
@[simp]
theorem run_left (program : Program I α) :
    (@left I J α program).run (serve.sum serve') state =
      ((program.run serve state.1).1, (program.run serve state.1).2, state.2) := by
  induction program generalizing state with
  | done result => rfl
  | call request next inductionHypothesis => exact inductionHypothesis _

/-- A program on the second store leaves the first alone. -/
@[simp]
theorem run_right (program : Program J α) :
    (@right I J α program).run (serve.sum serve') state =
      ((program.run serve' state.2).1, state.1, (program.run serve' state.2).2) := by
  induction program generalizing state with
  | done result => rfl
  | call request next inductionHypothesis => exact inductionHypothesis _

/-! ### What programs on one of two stores are answered -/

/-- The same event, on both stores together. -/
def leftEvent (event : Event I) : Event (I.sum J) :=
  ⟨.inl event.1, event.2⟩

/-- The same event, on both stores together. -/
def rightEvent (event : Event J) : Event (I.sum J) :=
  ⟨.inr event.1, event.2⟩

variable {result : α}

theorem finishes_left {program : Program I α} {events : List (Event (I.sum J))} :
    Finishes (@left I J α program) events result ↔
      ∃ own, events = own.map leftEvent ∧ Finishes program own result := by
  induction program generalizing events with
  | done value =>
      show Finishes (done value) events result ↔ _
      rw [finishes_done]
      constructor
      · rintro ⟨rfl, rfl⟩
        exact ⟨[], rfl, finishes_done.mpr ⟨rfl, rfl⟩⟩
      · rintro ⟨own, rfl, finishes⟩
        obtain ⟨rfl, rfl⟩ := finishes_done.mp finishes
        exact ⟨rfl, rfl⟩
  | call request next inductionHypothesis =>
      have step : @left I J α (call request next) =
          @call (I.sum J) _ (.inl request) fun answer => @left I J α (next answer) := rfl
      rw [step, finishes_call]
      constructor
      · rintro ⟨answer, later, rfl, finishes⟩
        obtain ⟨own, rfl, ended⟩ := (inductionHypothesis answer).mp finishes
        exact ⟨⟨request, answer⟩ :: own, rfl, finishes_call.mpr ⟨answer, own, rfl, ended⟩⟩
      · rintro ⟨own, rfl, finishes⟩
        obtain ⟨answer, later, rfl, ended⟩ := finishes_call.mp finishes
        exact ⟨answer, later.map leftEvent, rfl,
          (inductionHypothesis answer).mpr ⟨later, rfl, ended⟩⟩

theorem finishes_right {program : Program J α} {events : List (Event (I.sum J))} :
    Finishes (@right I J α program) events result ↔
      ∃ own, events = own.map rightEvent ∧ Finishes program own result := by
  induction program generalizing events with
  | done value =>
      show Finishes (done value) events result ↔ _
      rw [finishes_done]
      constructor
      · rintro ⟨rfl, rfl⟩
        exact ⟨[], rfl, finishes_done.mpr ⟨rfl, rfl⟩⟩
      · rintro ⟨own, rfl, finishes⟩
        obtain ⟨rfl, rfl⟩ := finishes_done.mp finishes
        exact ⟨rfl, rfl⟩
  | call request next inductionHypothesis =>
      have step : @right I J α (call request next) =
          @call (I.sum J) _ (.inr request) fun answer => @right I J α (next answer) := rfl
      rw [step, finishes_call]
      constructor
      · rintro ⟨answer, later, rfl, finishes⟩
        obtain ⟨own, rfl, ended⟩ := (inductionHypothesis answer).mp finishes
        exact ⟨⟨request, answer⟩ :: own, rfl, finishes_call.mpr ⟨answer, own, rfl, ended⟩⟩
      · rintro ⟨own, rfl, finishes⟩
        obtain ⟨answer, later, rfl, ended⟩ := finishes_call.mp finishes
        exact ⟨answer, later.map rightEvent, rfl,
          (inductionHypothesis answer).mpr ⟨later, rfl, ended⟩⟩

/-! ### Disciplines on one of two stores -/

end Program

/-- A discipline on the second of two stores: the first may be called at will, and teaches
nothing. -/
def Discipline.onRight {I J : Interface} {K : Type} (discipline : Discipline J K) :
    Discipline (I.sum J) K where
  learn known
    | ⟨.inl _, _⟩ => known
    | ⟨.inr request, answer⟩ => discipline.learn known ⟨request, answer⟩
  permits known
    | .inl _ => True
    | .inr request => discipline.permits known request

namespace Program

variable {K : Type} {discipline : Discipline J K} {known : K}

/-- A program on the second store obeys as it does alone. -/
theorem Obeys.right {program : Program J α} {post : α → K → Prop}
    (obeys : program.Obeys discipline post known) :
    (@right I J α program).Obeys discipline.onRight post known :=
  obeys.refine fun _ _ permitted => ⟨permitted, fun _ => rfl⟩

/-- A program on the first store obeys, and learns nothing. -/
theorem obeys_left {program : Program I α} :
    (@left I J α program).Obeys discipline.onRight (fun _ after => after = known) known := by
  induction program with
  | done result => exact rfl
  | call request next inductionHypothesis =>
      exact ⟨trivial, fun answer => inductionHypothesis answer⟩

/-- **A program obeys, and its result is one that it can finish with.** -/
theorem Obeys.finishing {program : Program J α} {post : α → K → Prop}
    (obeys : program.Obeys discipline post known) :
    program.Obeys discipline (fun result after => post result after ∧
      ∃ events, Finishes program events result) known := by
  induction program generalizing known with
  | done result => exact ⟨obeys, [], finishes_done.mpr ⟨rfl, rfl⟩⟩
  | call request next inductionHypothesis =>
      refine ⟨obeys.1, fun answer => ?_⟩
      refine (inductionHypothesis answer (obeys.2 answer)).mono fun result after ended => ?_
      obtain ⟨holds, events, finishes⟩ := ended
      exact ⟨holds, ⟨request, answer⟩ :: events, finishes_call.mpr ⟨answer, events, rfl, finishes⟩⟩

end Program

end Interaction
