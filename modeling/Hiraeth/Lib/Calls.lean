import Hiraeth.Lib.Program

/-!
# What the calls of a program may do

A property of single calls is carried from the calls of a program to the program,
and from there to its runs: a program that makes only harmless calls is harmless,
alone and interleaved with others.

## Main definitions

* `Program.OnlyCalls` — every call of a program that may fail has a property
* `CallsKeep` — a property of calls keeps an invariant of the store

## Main results

* `Program.OnlyCalls.bind`, `Program.AllCalls.mapM` — the rules
* `CallsKeep.run` — the invariant after a program that runs alone
* `CallsKeep.reachable` — the invariant in every state of interleaved programs
-/

namespace Interaction

universe u

variable {I : Interface} {α β ε ε' : Type} {S : Type u} {property stronger : I.Call → Prop}

namespace Program

theorem AllCalls.mono {program : Program I α} (every : program.AllCalls stronger)
    (weaker : ∀ request, stronger request → property request) : program.AllCalls property := by
  induction program with
  | done result => exact trivial
  | call request next inductionHypothesis =>
      exact ⟨weaker request every.1, fun answer => inductionHypothesis answer (every.2 answer)⟩

@[simp]
theorem allCalls_perform {request : I.Call} :
    (perform request).AllCalls property ↔ property request := by
  simp [perform]

/-- A property of every call holds of the calls of every program. -/
theorem allCalls_of_all (every : ∀ request, property request) (program : Program I α) :
    program.AllCalls property := by
  induction program with
  | done result => exact trivial
  | call request next inductionHypothesis => exact ⟨every request, inductionHypothesis⟩

/-- One program for every item of a list. -/
theorem AllCalls.mapM {items : List α} {f : α → Program I β}
    (every : ∀ item ∈ items, (f item).AllCalls property) :
    (items.mapM f).AllCalls property := by
  induction items with
  | nil => exact trivial
  | cons item items inductionHypothesis =>
      rw [List.mapM_cons]
      refine (every item List.mem_cons_self).bind fun result => ?_
      refine (inductionHypothesis fun other later => every other (List.mem_cons_of_mem _ later)).bind
        fun results => ?_
      exact trivial

/-! ### Programs that may fail -/

/-- Every call that the program can make satisfies `property`. -/
def OnlyCalls (property : I.Call → Prop) (program : ExceptT ε (Program I) α) : Prop :=
  program.run.AllCalls property

@[simp]
theorem onlyCalls_pure {result : α} :
    OnlyCalls property (pure result : ExceptT ε (Program I) α) :=
  trivial

@[simp]
theorem onlyCalls_throw {failure : ε} :
    OnlyCalls property (throw failure : ExceptT ε (Program I) α) :=
  trivial

@[simp]
theorem onlyCalls_liftExcept {outcome : Except ε α} :
    OnlyCalls property (liftExcept outcome : ExceptT ε (Program I) α) := by
  cases outcome <;> exact trivial

theorem onlyCalls_lift {program : Program I α} (every : program.AllCalls property) :
    OnlyCalls property (ExceptT.lift program : ExceptT ε (Program I) α) :=
  every.bind fun _ => trivial

theorem onlyCalls_orFail {program : Program I (Except ε α)} {translate : ε → ε'}
    (every : program.AllCalls property) : OnlyCalls property (program.orFail translate) :=
  every.bind fun _ => trivial

/-- **The rule for sequences.** -/
theorem OnlyCalls.bind {program : ExceptT ε (Program I) α}
    {rest : α → ExceptT ε (Program I) β} (first : OnlyCalls property program)
    (later : ∀ result, OnlyCalls property (rest result)) :
    OnlyCalls property (program >>= rest) := by
  unfold OnlyCalls
  rw [ExceptT.run_bind]
  refine AllCalls.bind first fun outcome => ?_
  cases outcome with
  | error failure => exact trivial
  | ok result => exact later result

/-- Checks in front of a program make no calls. -/
theorem onlyCalls_liftExcept_bind {outcome : Except ε α} {rest : α → ExceptT ε (Program I) β}
    (later : ∀ result, outcome = .ok result → OnlyCalls property (rest result)) :
    OnlyCalls property (liftExcept outcome >>= rest) := by
  cases outcome with
  | error failure => exact trivial
  | ok result => exact later result rfl

theorem onlyCalls_forM {items : List β} {f : β → ExceptT ε (Program I) Unit}
    (each : ∀ item, OnlyCalls property (f item)) : OnlyCalls property (items.forM f) := by
  induction items with
  | nil => exact onlyCalls_pure
  | cons item items inductionHypothesis => exact (each item).bind fun _ => inductionHypothesis

theorem OnlyCalls.mono {program : ExceptT ε (Program I) α} (every : OnlyCalls stronger program)
    (weaker : ∀ request, stronger request → property request) : OnlyCalls property program :=
  AllCalls.mono every weaker

end Program

/-! ### Invariants -/

/-- A call with the property keeps the invariant. -/
def CallsKeep (serve : Serve I S) (property : I.Call → Prop) (invariant : S → Prop) : Prop :=
  ∀ request state, property request → invariant state → invariant (serve request state).2

variable {serve : Serve I S} {invariant : S → Prop}

/-- **A program that runs alone keeps what its calls keep.** -/
theorem CallsKeep.run (keeps : CallsKeep serve property invariant) {program : Program I α}
    (every : program.AllCalls property) {state : S} (holds : invariant state) :
    invariant (program.run serve state).2 := by
  induction program generalizing state with
  | done result => exact holds
  | call request next inductionHypothesis =>
      exact inductionHypothesis _ (every.2 _) (keeps request state every.1 holds)

/-- **Interleaved programs keep what their calls keep.**  The induction is on the
steps; what is left of a thread makes only calls that the thread makes. -/
theorem CallsKeep.reachable {ι : Type} [DecidableEq ι] (keeps : CallsKeep serve property invariant)
    {allowed : Config I α ι S → ι → Prop} {start config : Config I α ι S}
    (every : ∀ thread, (start.threads thread).AllCalls property) (holds : invariant start.shared)
    (reachable : Reachable serve allowed start config) :
    invariant config.shared ∧ ∀ thread, (config.threads thread).AllCalls property := by
  refine reachable.invariant (fun config => invariant config.shared ∧
    ∀ thread, (config.threads thread).AllCalls property) ⟨holds, every⟩ ?_
  rintro config config' thread - ⟨now, remaining⟩ - ⟨pending⟩
  have its := remaining thread
  rw [pending] at its
  refine ⟨keeps _ _ its.1 now, fun other => ?_⟩
  show (Function.update config.threads thread _ other).AllCalls property
  by_cases same : other = thread
  · subst same
    rw [Function.update_self]
    exact its.2 _
  · rw [Function.update_of_ne same]
    exact remaining other

end Interaction
