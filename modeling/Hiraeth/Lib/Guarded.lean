import Hiraeth.Lib.Discipline

/-!
# Invariants of runs whose steps are guarded

Some calls keep an invariant only in some states.  A guard says in which, and may refer to what
the calling thread has learned by then.  In every run whose steps meet the guard, the invariant
holds in every state.

## Main definitions

* `Guard` — the states in which a call may be made by who knows this much
* `Config.Guarded` — the pending call of a thread meets the guard
* `GuardedKeeps` — permitted calls that meet the guard keep the invariant

## Main results

* `GuardedKeeps.reachable` — so does every run whose steps meet the guard
-/

namespace Interaction

universe u

variable {I : Interface} {K α ι : Type} {S : Type u}

/-- The states in which a call may be made by who knows this much. -/
abbrev Guard (I : Interface) (K : Type) (S : Type u) := K → I.Call → S → Prop

/-- The pending call of a thread meets the guard. -/
def Config.Guarded [DecidableEq ι] (discipline : Discipline I K) (initial : K) (guard : Guard I K S)
    (config : Config I α ι S) (thread : ι) : Prop :=
  ∀ request next, config.threads thread = .call request next →
    guard ((config.history thread).foldl discipline.learn initial) request config.shared

/-- The same, as a check. -/
def Config.isGuarded [DecidableEq ι] (discipline : Discipline I K) (initial : K)
    (guard : Guard I K S) [∀ known request state, Decidable (guard known request state)]
    (config : Config I α ι S) (thread : ι) : Bool :=
  match config.threads thread with
  | .done _ => true
  | .call request _ =>
      decide (guard ((config.history thread).foldl discipline.learn initial) request config.shared)

theorem Config.guarded_of_isGuarded [DecidableEq ι] {discipline : Discipline I K} {initial : K}
    {guard : Guard I K S} [∀ known request state, Decidable (guard known request state)]
    (config : Config I α ι S) (thread : ι)
    (checked : config.isGuarded discipline initial guard thread) :
    config.Guarded discipline initial guard thread := by
  intro request next pending
  unfold Config.isGuarded at checked
  rw [pending] at checked
  exact of_decide_eq_true checked

/-- Permitted calls that meet the guard keep the invariant. -/
def GuardedKeeps (serve : Serve I S) (discipline : Discipline I K) (guard : Guard I K S)
    (invariant : S → Prop) : Prop :=
  ∀ known request state, discipline.permits known request → guard known request state →
    invariant state → invariant (serve request state).2

/-- **Guarded runs keep what guarded calls keep.**  The induction is on the steps; that the
pending call is permitted follows from what its thread has learned. -/
theorem GuardedKeeps.reachable [DecidableEq ι] {serve : Serve I S} {discipline : Discipline I K}
    {initial : K} {guard : Guard I K S} {invariant : S → Prop} {post : ι → α → K → Prop}
    {start config : Config I α ι S}
    (keeps : GuardedKeeps serve discipline guard invariant) (fresh : start.log = [])
    (obeys : ∀ thread, (start.threads thread).Obeys discipline (post thread) initial)
    (holds : invariant start.shared)
    (reachable : Reachable serve (Config.Guarded discipline initial guard) start config) :
    invariant config.shared := by
  refine reachable.invariant (fun config => invariant config.shared) holds ?_
  rintro config config' thread reached now guarded ⟨pending⟩
  have permitted := reached.obeys fresh (obeys thread)
  rw [pending] at permitted
  exact keeps _ _ _ permitted.1 (guarded _ _ pending) now

/-! ### Calls that everyone may make -/

/-- A discipline that teaches nothing. -/
def Discipline.unlearned (property : I.Call → Prop) : Discipline I Unit where
  learn _ _ := ()
  permits _ := property

/-- A program whose calls have the property obeys. -/
theorem Program.AllCalls.obeys_unlearned {property : I.Call → Prop} {program : Program I α}
    (every : program.AllCalls property) (known : Unit) :
    program.Obeys (Discipline.unlearned property) (fun _ _ => True) known :=
  every.obeys (fun _ _ holds => holds) known

end Interaction
