import Hiraeth.Lib.Refine

/-!
# Programs that are given up

A program may do what another one does and be given up on the way, with an outcome that says so.
Every run of such programs is a run of the others, in which those that were given up wait for
ever.  What holds of all runs of the others holds of theirs.

## Main definitions

* `Program.Prunes` — the first program does what the second does, or is given up

## Main results

* `Program.Prunes.bind` — programs that differ after a common beginning
* `Program.Prunes.reachable` — a run of the first programs is a run of the second
-/

namespace Interaction

universe u

variable {I J : Interface} {α β : Type} {S : Type u}

namespace Program

/-- **The first program does what the second does, or is given up.** -/
inductive Prunes (stop : α → Prop) : Program I α → Program I α → Prop
  | done (result : α) : Prunes stop (done result) (done result)
  | stopped {result : α} {program : Program I α} (given : stop result) :
      Prunes stop (done result) program
  | call {request : I.Call} {next next' : I.Answer request → Program I α}
      (later : ∀ answer, Prunes stop (next answer) (next' answer)) :
      Prunes stop (call request next) (call request next')

variable {stop : α → Prop}

@[refl]
theorem Prunes.refl (program : Program I α) : Prunes stop program program := by
  induction program with
  | done result => exact .done result
  | call request next inductionHypothesis => exact .call inductionHypothesis

theorem Prunes.of_eq {program program' : Program I α} (same : program = program') :
    Prunes stop program program' :=
  same ▸ .refl program

/-- **Programs that differ after a common beginning.**  Only results that the beginning can have
need be looked at. -/
theorem Prunes.bind {stop : β → Prop} {program : Program I α} {rest rest' : α → Program I β}
    (later : ∀ result events, Finishes program events result →
      Prunes stop (rest result) (rest' result)) :
    Prunes stop (program >>= rest) (program >>= rest') := by
  induction program with
  | done result => exact later result [] (finishes_done.mpr ⟨rfl, rfl⟩)
  | call request next inductionHypothesis =>
      refine .call fun answer => inductionHypothesis answer fun result events finishes => ?_
      exact later result (⟨request, answer⟩ :: events)
        (finishes_call.mpr ⟨answer, events, rfl, finishes⟩)

/-- The outcomes may be reported in another form. -/
theorem Prunes.map {stop' : β → Prop} {report : α → β} {program program' : Program I α}
    (prunes : Prunes stop program program') (reports : ∀ result, stop result → stop' (report result)) :
    Prunes stop' (report <$> program) (report <$> program') := by
  induction prunes with
  | done result => exact .done (report result)
  | stopped given => exact .stopped (reports _ given)
  | call later inductionHypothesis => exact .call inductionHypothesis

/-- A program that finishes with every call implemented can finish. -/
theorem Finishes.of_refine {implementation : ∀ request : I.Call, Program J (I.Answer request)}
    {program : Program I α} {events : List (Event J)} {result : α}
    (finishes : Finishes (program.refine implementation) events result) :
    ∃ events', Finishes program events' result := by
  induction program generalizing events with
  | done value =>
      obtain ⟨-, rfl⟩ := finishes_done.mp finishes
      exact ⟨[], finishes_done.mpr ⟨rfl, rfl⟩⟩
  | call request next inductionHypothesis =>
      obtain ⟨answer, _, later, -, -, ended⟩ := finishes_bind.mp finishes
      obtain ⟨events', ends⟩ := inductionHypothesis answer ended
      exact ⟨⟨request, answer⟩ :: events', finishes_call.mpr ⟨answer, events', rfl, ends⟩⟩

end Program

open Program in
/-- **A run of programs that may be given up is a run of the others.**  The induction is on the
steps: a thread that makes a call has not been given up, so its counterpart makes the same call
and gets the same answer. -/
theorem Program.Prunes.reachable {ι : Type} [DecidableEq ι] {serve : Serve I S} {stop : α → Prop}
    {allowed : Config I α ι S → ι → Prop} {start start' config : Config I α ι S}
    (shared : start.shared = start'.shared) (log : start.log = start'.log)
    (prunes : ∀ thread, Prunes stop (start.threads thread) (start'.threads thread))
    (reachable : Reachable serve allowed start config) :
    ∃ config', Reachable serve (fun _ _ => True) start' config' ∧
      config.shared = config'.shared ∧ config.log = config'.log ∧
        ∀ thread, Prunes stop (config.threads thread) (config'.threads thread) := by
  induction reachable with
  | start => exact ⟨start', .start, shared, log, prunes⟩
  | @step config _ thread before permitted taken inductionHypothesis =>
      obtain ⟨config', reached, sameShared, sameLog, together⟩ := inductionHypothesis
      obtain ⟨pending⟩ := taken
      have its := together thread
      rw [pending] at its
      cases counterpart : config'.threads thread with
      | done result =>
          rw [counterpart] at its
          cases its
      | call request' next' =>
          rw [counterpart] at its
          cases its with
          | call later =>
              refine ⟨_, .step reached trivial ⟨counterpart⟩, ?_, ?_, fun other => ?_⟩
              · show (serve _ _).2 = (serve _ _).2
                rw [sameShared]
              · show _ ++ _ = _ ++ _
                rw [sameLog, sameShared]
              · by_cases same : other = thread
                · subst same
                  rw [threads_answer_self, threads_answer_self, sameShared]
                  exact later _
                · rw [threads_answer_ne same, threads_answer_ne same]
                  exact together other

end Interaction
