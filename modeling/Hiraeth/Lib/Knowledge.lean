import Hiraeth.Lib.Refine

/-!
# Knowledge that stays true

A call may keep an invariant only because of what its caller has learned before, and the
invariant may be the reason why what is learned is true.  Both are then kept together, by every
step of every run.

## Main definitions

* `LearnsTruth` — permitted calls of those who know the truth keep the invariant, and teach the
  truth
* `Discipline.onLeft` — a discipline on the first of two stores

## Main results

* `LearnsTruth.reachable` — the invariant and the truth of all knowledge, in every run
-/

namespace Interaction

universe u

variable {I : Interface} {K α ι : Type} {S : Type u}

/-- Permitted calls of those who know the truth keep the invariant, and teach the truth. -/
def LearnsTruth (serve : Serve I S) (discipline : Discipline I K) (invariant : S → Prop)
    (truth : K → Prop) : Prop :=
  ∀ known call state, discipline.permits known call → truth known → invariant state →
    invariant (serve call state).2 ∧
      truth (discipline.learn known ⟨call, (serve call state).1⟩)

/-- **The invariant holds in every run, and what every thread has learned is true.**  The
induction is on the steps; one step concerns the knowledge of one thread. -/
theorem LearnsTruth.reachable [DecidableEq ι] {serve : Serve I S} {discipline : Discipline I K}
    {initial : K} {invariant : S → Prop} {truth : K → Prop} {post : ι → α → K → Prop}
    {allowed : Config I α ι S → ι → Prop} {start config : Config I α ι S}
    (learns : LearnsTruth serve discipline invariant truth) (fresh : start.log = [])
    (obeys : ∀ thread, (start.threads thread).Obeys discipline (post thread) initial)
    (holds : invariant start.shared) (isTrue : truth initial)
    (reachable : Reachable serve allowed start config) :
    invariant config.shared ∧
      ∀ thread, truth ((config.history thread).foldl discipline.learn initial) := by
  refine reachable.invariant (fun config => invariant config.shared ∧
    ∀ thread, truth ((config.history thread).foldl discipline.learn initial)) ⟨holds, ?_⟩ ?_
  · intro thread
    rw [Config.history, fresh]
    exact isTrue
  · rintro config config' stepping reached ⟨now, known⟩ - ⟨pending⟩
    have permitted := reached.obeys fresh (obeys stepping)
    rw [pending] at permitted
    obtain ⟨kept, taught⟩ := learns _ _ _ permitted.1 (known stepping) now
    refine ⟨kept, fun thread => ?_⟩
    by_cases itself : thread = stepping
    · subst itself
      rw [history_answer_self, List.foldl_append]
      exact taught
    · rw [history_answer_ne itself]
      exact known thread

/-! ### One of two stores -/

/-- A discipline on the first of two stores: the second may be called at will, and teaches
nothing. -/
def Discipline.onLeft {I J : Interface} (discipline : Discipline I K) :
    Discipline (I.sum J) K where
  learn known
    | ⟨.inl request, answer⟩ => discipline.learn known ⟨request, answer⟩
    | ⟨.inr _, _⟩ => known
  permits known
    | .inl request => discipline.permits known request
    | .inr _ => True

section OnLeft

universe v

variable {J : Interface} {T : Type v} {serve : Serve I S} {serve' : Serve J T}
  {discipline : Discipline I K} {known : K}

/-- A program on the first store obeys as it does alone. -/
theorem Program.Obeys.left {program : Program I α} {post : α → K → Prop}
    (obeys : program.Obeys discipline post known) :
    (@Program.left I J α program).Obeys discipline.onLeft post known :=
  obeys.refine fun _ _ permitted => ⟨permitted, fun _ => rfl⟩

/-- What holds of the first store holds of both. -/
theorem LearnsTruth.onLeft {invariant : S → Prop} {truth : K → Prop}
    (learns : LearnsTruth serve discipline invariant truth) :
    LearnsTruth (serve.sum serve') discipline.onLeft (fun state => invariant state.1) truth := by
  intro known call state permitted isTrue now
  cases call with
  | inl request => exact learns known request state.1 permitted isTrue now
  | inr request => exact ⟨now, isTrue⟩

/-- What holds of the second store holds of both. -/
theorem LearnsTruth.onRight {discipline : Discipline J K} {invariant : T → Prop} {truth : K → Prop}
    (learns : LearnsTruth serve' discipline invariant truth) :
    LearnsTruth (serve.sum serve') discipline.onRight (fun state => invariant state.2) truth := by
  intro known call state permitted isTrue now
  cases call with
  | inl request => exact ⟨now, isTrue⟩
  | inr request => exact learns known request state.2 permitted isTrue now

end OnLeft

end Interaction
