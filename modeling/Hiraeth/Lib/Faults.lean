import Hiraeth.Lib.Program

/-!
# Stores that fail

A store behind a network or a disk can fail at any call.  Here a plan says which calls fail,
and with what: the calls are numbered in the order in which they are made, a call that fails
is answered with the failure and leaves the store alone, and every other call is served as
ever.

## Main definitions

* `Serve.failingAt` — a store that fails where a plan says so, with the number of calls made
* `FailsWithin` — some of the calls between two numbers fail

## Main results

* `Program.run_failingAt_of_none` — where the plan fails nothing, a program runs as ever
* `Program.run_forM_lift` — programs that cannot fail, one for each item
-/

namespace Interaction

universe u

variable {I : Interface} {F S : Type} {α β ε : Type}

/-- **A store that fails where the plan says so.**  Beside the state it keeps the number of
calls that were made. -/
def Serve.failingAt (plan : ℕ → Option F) (failure : F → (request : I.Call) → I.Answer request)
    (serve : Serve I S) : Serve I (S × ℕ)
  | request, state =>
      match plan state.2 with
      | none => ((serve request state.1).1, (serve request state.1).2, state.2 + 1)
      | some fault => (failure fault request, state.1, state.2 + 1)

/-- Some of the calls with the numbers from `start` up to `stop` fail. -/
def FailsWithin (plan : ℕ → Option F) (start stop : ℕ) : Prop :=
  ∃ number, (start ≤ number ∧ number < stop) ∧ (plan number).isSome

variable {plan : ℕ → Option F} {failure : F → (request : I.Call) → I.Answer request}
  {serve : Serve I S} {state : S} {made start stop : ℕ}

instance : Decidable (FailsWithin plan start stop) :=
  decidable_of_iff (∃ number, number < stop ∧ start ≤ number ∧ (plan number).isSome)
    ⟨fun ⟨number, before, from', fails⟩ => ⟨number, ⟨from', before⟩, fails⟩,
      fun ⟨number, ⟨from', before⟩, fails⟩ => ⟨number, before, from', fails⟩⟩

/-! ### One call -/

theorem failingAt_none {request : I.Call} (fine : plan made = none) :
    serve.failingAt plan failure request (state, made) =
      ((serve request state).1, (serve request state).2, made + 1) := by
  simp only [Serve.failingAt, fine]

theorem failingAt_some {request : I.Call} {fault : F} (fails : plan made = some fault) :
    serve.failingAt plan failure request (state, made) =
      (failure fault request, state, made + 1) := by
  simp only [Serve.failingAt, fails]

/-! ### Between two numbers -/

theorem not_failsWithin_self : ¬ FailsWithin plan start start := by
  rintro ⟨number, bounds, -⟩
  omega

theorem failsWithin_succ :
    FailsWithin plan start (start + 1) ↔ (plan start).isSome := by
  constructor
  · rintro ⟨number, bounds, fails⟩
    obtain rfl : number = start := by omega
    exact fails
  · intro fails
    exact ⟨start, by omega, fails⟩

/-- A call that is served makes no difference. -/
theorem failsWithin_of_none (fine : plan start = none) :
    FailsWithin plan start stop ↔ FailsWithin plan (start + 1) stop := by
  constructor
  · rintro ⟨number, bounds, fails⟩
    have other : number ≠ start := by
      rintro rfl
      rw [fine] at fails
      exact absurd fails nofun
    exact ⟨number, by omega, fails⟩
  · rintro ⟨number, bounds, fails⟩
    exact ⟨number, by omega, fails⟩

namespace Program

/-! ### Whole programs -/

/-- **Where nothing fails, a program runs as ever.** -/
theorem run_failingAt_of_none (fine : ∀ number, made ≤ number → plan number = none)
    (program : Program I α) :
    ∃ after, made ≤ after ∧ program.run (serve.failingAt plan failure) (state, made) =
      ((program.run serve state).1, (program.run serve state).2, after) := by
  induction program generalizing state made with
  | done result => exact ⟨made, Nat.le_refl _, rfl⟩
  | call request next inductionHypothesis =>
      have onwards := fun number (above : made + 1 ≤ number) => fine number (by omega)
      obtain ⟨after, later, ran⟩ := @inductionHypothesis (serve request state).1
        (serve request state).2 (made + 1) onwards
      refine ⟨after, by omega, ?_⟩
      rw [run_call, failingAt_none (fine made (Nat.le_refl _)), run_call]
      exact ran

/-- **Programs that cannot fail, one for each item**: they run one after the other. -/
theorem run_forM_lift {T : Type u} {serve : Serve I T} {items : List β} {f : β → Program I Unit}
    {state : T} :
    (items.forM fun item => (ExceptT.lift (f item) : ExceptT ε (Program I) Unit)).run.run serve
        state =
      (.ok (), items.foldl (fun between item => ((f item).run serve between).2) state) := by
  induction items generalizing state with
  | nil => rfl
  | cons item items inductionHypothesis =>
      have step : (ExceptT.lift (f item) : ExceptT ε (Program I) Unit).run.run serve state =
          (.ok (), ((f item).run serve state).2) := succeeds_lift.mpr rfl
      show ((ExceptT.lift (f item) : ExceptT ε (Program I) Unit) >>= fun _ =>
        items.forM fun item => ExceptT.lift (f item)).run.run serve state = _
      rw [run_except_bind, step]
      exact inductionHypothesis

end Program

end Interaction
