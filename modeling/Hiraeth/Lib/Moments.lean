import Hiraeth.Lib.Program

/-!
# Sequences of calls

The calls of programs that run interleaved reach the store one after the other.
A sequence of calls together with a first state determines the state before each
of them and every answer.

## Main definitions

* `Moment`, `moments` — the calls of a sequence, each with the state it meets
* `stateAfter` — the state that a sequence leaves

## Main results

* `moments_eq_append`, `moments_eq_append_cons` — a cut through the moments is a
  cut through the calls
* `moments_invariant` — what holds at first and is kept by every call holds at
  every moment
-/

namespace Interaction

universe u

variable {I : Interface} {S : Type u}

/-- A call, and the state that it meets. -/
structure Moment (I : Interface) (S : Type u) where
  before : S
  request : I.Call

namespace Moment

variable (serve : Serve I S) (moment : Moment I S)

/-- The call with its answer. -/
def event : Event I :=
  ⟨moment.request, (serve moment.request moment.before).1⟩

/-- The state that the call leaves. -/
def after : S :=
  (serve moment.request moment.before).2

end Moment

variable {serve : Serve I S}

/-- The moments of a sequence of calls. -/
def moments (serve : Serve I S) : S → List I.Call → List (Moment I S)
  | _, [] => []
  | state, request :: requests =>
      ⟨state, request⟩ :: moments serve (serve request state).2 requests

/-- The state that a sequence of calls leaves. -/
def stateAfter (serve : Serve I S) : S → List I.Call → S
  | state, [] => state
  | state, request :: requests => stateAfter serve (serve request state).2 requests

/-- **A cut through the moments is a cut through the calls.** -/
theorem moments_eq_append {state : S} {requests : List I.Call}
    {earlier later : List (Moment I S)} (cut : moments serve state requests = earlier ++ later) :
    ∃ first rest, requests = first ++ rest ∧ earlier = moments serve state first ∧
      later = moments serve (stateAfter serve state first) rest := by
  induction earlier generalizing state requests with
  | nil => exact ⟨[], requests, rfl, rfl, cut.symm⟩
  | cons moment earlier inductionHypothesis =>
      cases requests with
      | nil => cases cut
      | cons request requests =>
          obtain ⟨same, cut⟩ := List.cons.inj cut
          obtain ⟨first, rest, rfl, isEarlier, isLater⟩ := inductionHypothesis cut
          refine ⟨request :: first, rest, rfl, ?_, isLater⟩
          rw [← same, isEarlier]
          rfl

/-- What a cut in front of a moment says about it and about what follows. -/
theorem moments_eq_append_cons {state : S} {requests : List I.Call}
    {earlier later : List (Moment I S)} {moment : Moment I S}
    (cut : moments serve state requests = earlier ++ moment :: later) :
    ∃ first rest, requests = first ++ moment.request :: rest ∧
      earlier = moments serve state first ∧ moment.before = stateAfter serve state first ∧
      later = moments serve (moment.after serve) rest := by
  obtain ⟨first, rest, rfl, isEarlier, isLater⟩ := moments_eq_append cut
  cases rest with
  | nil => cases isLater
  | cons request rest =>
      obtain ⟨rfl, rfl⟩ := List.cons.inj isLater
      exact ⟨first, rest, rfl, isEarlier, rfl, rfl⟩

/-- What two cuts say about what lies between them. -/
theorem moments_eq_append_cons_append_cons {state : S} {requests : List I.Call}
    {earlier between later : List (Moment I S)} {first second : Moment I S}
    (cut : moments serve state requests = earlier ++ first :: between ++ second :: later) :
    ∃ middle rest, between = moments serve (first.after serve) middle ∧
      second.before = stateAfter serve (first.after serve) middle ∧
      later = moments serve (second.after serve) rest ∧
      (∀ request ∈ middle, request ∈ requests) ∧ ∀ request ∈ rest, request ∈ requests := by
  rw [List.append_assoc, List.cons_append] at cut
  obtain ⟨before, afterwards, rfl, -, -, cut⟩ := moments_eq_append_cons cut
  obtain ⟨middle, rest, rfl, isBetween, isBefore, isLater⟩ := moments_eq_append_cons cut.symm
  refine ⟨middle, rest, isBetween, isBefore, isLater, fun request member => ?_,
    fun request member => ?_⟩
  · simp [member]
  · simp [member]

/-- **The invariant rule.**  The step may use what is known of the moment. -/
theorem moments_invariant {state : S} {requests : List I.Call} (holds : S → Prop)
    (initially : holds state)
    (kept : ∀ moment ∈ moments serve state requests, holds moment.before →
      holds (moment.after serve)) :
    (∀ moment ∈ moments serve state requests, holds moment.before) ∧
      holds (stateAfter serve state requests) := by
  induction requests generalizing state with
  | nil => exact ⟨fun moment member => (by cases member), initially⟩
  | cons request requests inductionHypothesis =>
      have first : holds (serve request state).2 :=
        kept ⟨state, request⟩ List.mem_cons_self initially
      obtain ⟨every, last⟩ := inductionHypothesis first
        fun moment member => kept moment (List.mem_cons_of_mem _ member)
      refine ⟨fun moment member => ?_, last⟩
      rcases List.mem_cons.mp member with rfl | later
      · exact initially
      · exact every moment later

/-- The calls of the moments are the calls of the sequence. -/
theorem request_mem_of_mem_moments {state : S} {requests : List I.Call} {moment : Moment I S}
    (member : moment ∈ moments serve state requests) : moment.request ∈ requests := by
  induction requests generalizing state with
  | nil => simp [moments] at member
  | cons request requests inductionHypothesis =>
      rcases List.mem_cons.mp member with rfl | later
      · exact List.mem_cons_self
      · exact List.mem_cons_of_mem request (inductionHypothesis later)

end Interaction
