import Hiraeth.Lib.Moments

/-!
# Programs that have run to their end

A program that was interleaved with others has its calls answered one at a time,
from states that the others may have changed in between.  `Finishes` relates a
program to the events of such a run and to its result, whatever happened between
the events.

## Main definitions

* `Program.Finishes` — a program, its events and its result
* `Program.Completes` — the same for a program that may fail, and did not
* `history` — the events of a sequence of calls

## Main results

* `Program.finishes_bind`, `Program.completes_bind` — the rules for sequences
* `Program.finishes_run` — a program that is run alone
* `Program.Finishes.mapM` — one program for every item of a list
* `Reachable.history_eq` — the events of interleaved threads are those of the
  sequence of their calls
-/

namespace Interaction

universe u

variable {I : Interface} {α β ε ε' : Type} {S : Type u}

namespace Program

/-- **The program has run to its end.**  The store answered `events`, in this
order, and `result` came out. -/
def Finishes (program : Program I α) (events : List (Event I)) (result : α) : Prop :=
  Follows program events (.done result)

variable {events : List (Event I)}

@[simp]
theorem finishes_done {value result : α} :
    Finishes (done value : Program I α) events result ↔ events = [] ∧ value = result := by
  cases events with
  | nil => simp [Finishes, eq_comm]
  | cons event events => simp [Finishes]

@[simp]
theorem finishes_call {request : I.Call} {next : I.Answer request → Program I α} {result : α} :
    Finishes (call request next) events result ↔
      ∃ answer later, events = ⟨request, answer⟩ :: later ∧
        Finishes (next answer) later result := by
  cases events with
  | nil => simp [Finishes]
  | cons event events =>
      constructor
      · rintro ⟨answer, rfl, later⟩
        exact ⟨answer, events, rfl, later⟩
      · rintro ⟨answer, later, split, finishes⟩
        obtain ⟨rfl, rfl⟩ := List.cons.inj split
        exact ⟨answer, rfl, finishes⟩

@[simp]
theorem finishes_perform {request : I.Call} {answer : I.Answer request} :
    Finishes (perform request) events answer ↔ events = [⟨request, answer⟩] := by
  unfold perform
  rw [finishes_call]
  constructor
  · rintro ⟨given, later, rfl, ended⟩
    obtain ⟨rfl, rfl⟩ := finishes_done.mp ended
    rfl
  · rintro rfl
    exact ⟨answer, [], rfl, finishes_done.mpr ⟨rfl, rfl⟩⟩

/-- **The rule for sequences.** -/
theorem finishes_bind {program : Program I α} {rest : α → Program I β} {result : β} :
    Finishes (program >>= rest) events result ↔
      ∃ middle first later, events = first ++ later ∧ Finishes program first middle ∧
        Finishes (rest middle) later result := by
  induction program generalizing events with
  | done value =>
      rw [done_bind]
      constructor
      · intro finishes
        exact ⟨value, [], events, rfl, finishes_done.mpr ⟨rfl, rfl⟩, finishes⟩
      · rintro ⟨middle, first, later, rfl, begun, ended⟩
        obtain ⟨rfl, rfl⟩ := finishes_done.mp begun
        exact ended
  | call request next inductionHypothesis =>
      rw [call_bind, finishes_call]
      constructor
      · rintro ⟨answer, onwards, rfl, finishes⟩
        obtain ⟨middle, first, later, rfl, begun, ended⟩ :=
          (inductionHypothesis answer).mp finishes
        exact ⟨middle, ⟨request, answer⟩ :: first, later, rfl,
          finishes_call.mpr ⟨answer, first, rfl, begun⟩, ended⟩
      · rintro ⟨middle, first, later, rfl, begun, ended⟩
        obtain ⟨answer, onwards, rfl, started⟩ := finishes_call.mp begun
        exact ⟨answer, onwards ++ later, rfl,
          (inductionHypothesis answer).mpr ⟨middle, onwards, later, rfl, started, ended⟩⟩

/-- A program that is run alone finishes. -/
theorem finishes_run (serve : Serve I S) (program : Program I α) (state : S) :
    Finishes program (program.events serve state) (program.run serve state).1 := by
  induction program generalizing state with
  | done value => simp
  | call request next inductionHypothesis =>
      exact ⟨_, rfl, inductionHypothesis _ _⟩

/-- **A sequence of which the second part need only be looked at for results that the first
can have.** -/
theorem AllCalls.bind_of_finishes {property : I.Call → Prop} {program : Program I α}
    {rest : α → Program I β} (first : program.AllCalls property)
    (later : ∀ result events, Finishes program events result → (rest result).AllCalls property) :
    (program >>= rest).AllCalls property := by
  induction program with
  | done value => exact later value [] (finishes_done.mpr ⟨rfl, rfl⟩)
  | call request next inductionHypothesis =>
      refine ⟨first.1, fun answer => inductionHypothesis answer (first.2 answer) ?_⟩
      intro result events finishes
      exact later result (⟨request, answer⟩ :: events) (finishes_call.mpr ⟨answer, events, rfl, finishes⟩)

/-- What holds of every call of a program holds of its events. -/
theorem Finishes.allCalls {property : I.Call → Prop} {program : Program I α} {result : α}
    (finishes : Finishes program events result) (every : program.AllCalls property) :
    ∀ event ∈ events, property event.1 := by
  induction program generalizing events with
  | done value =>
      obtain ⟨rfl, -⟩ := finishes_done.mp finishes
      simp
  | call request next inductionHypothesis =>
      obtain ⟨answer, later, rfl, ended⟩ := finishes_call.mp finishes
      intro event member
      rcases List.mem_cons.mp member with rfl | isLater
      · exact every.1
      · exact inductionHypothesis answer ended (every.2 answer) event isLater

/-! ### Programs that may fail -/

/-- The program has run to its end and did not fail. -/
def Completes (program : ExceptT ε (Program I) α) (events : List (Event I)) (value : α) : Prop :=
  Finishes program.run events (.ok value)

@[simp]
theorem completes_pure {result value : α} :
    Completes (pure result : ExceptT ε (Program I) α) events value ↔
      events = [] ∧ result = value := by
  simp [Completes]

@[simp]
theorem not_completes_throw {failure : ε} {value : α} :
    ¬ Completes (throw failure : ExceptT ε (Program I) α) events value := by
  simp [Completes]

/-- **The rule for sequences that may fail.** -/
@[simp]
theorem completes_bind {program : ExceptT ε (Program I) α} {rest : α → ExceptT ε (Program I) β}
    {value : β} :
    Completes (program >>= rest) events value ↔
      ∃ middle first later, events = first ++ later ∧ Completes program first middle ∧
        Completes (rest middle) later value := by
  unfold Completes
  rw [ExceptT.run_bind, finishes_bind]
  constructor
  · rintro ⟨outcome, first, later, rfl, begun, ended⟩
    cases outcome with
    | error failure => exact absurd ended (by simp)
    | ok middle => exact ⟨middle, first, later, rfl, begun, ended⟩
  · rintro ⟨middle, first, later, rfl, begun, ended⟩
    exact ⟨.ok middle, first, later, rfl, begun, ended⟩

@[simp]
theorem completes_liftExcept {outcome : Except ε α} {value : α} :
    Completes (liftExcept outcome : ExceptT ε (Program I) α) events value ↔
      events = [] ∧ outcome = .ok value := by
  cases outcome with
  | error failure => simp [Completes, liftExcept]
  | ok result => simp [Completes, liftExcept]

@[simp]
theorem completes_lift {program : Program I α} {value : α} :
    Completes (ExceptT.lift program : ExceptT ε (Program I) α) events value ↔
      Finishes program events value := by
  unfold Completes
  rw [ExceptT.run_lift, map_eq_pure_bind, finishes_bind]
  constructor
  · rintro ⟨middle, first, later, rfl, begun, ended⟩
    obtain ⟨rfl, same⟩ := finishes_done.mp ended
    rw [List.append_nil, ← Except.ok.inj same]
    exact begun
  · intro finishes
    exact ⟨value, events, [], (List.append_nil events).symm, finishes, by simp⟩

@[simp]
theorem completes_orFail {program : Program I (Except ε α)} {translate : ε → ε'} {value : α} :
    Completes (program.orFail translate) events value ↔
      Finishes program events (.ok value) := by
  unfold Completes orFail
  rw [ExceptT.run_mk, finishes_bind]
  constructor
  · rintro ⟨outcome, first, later, rfl, begun, ended⟩
    obtain ⟨rfl, same⟩ := finishes_done.mp ended
    rw [List.append_nil, ← mapError_eq_ok.mp same]
    exact begun
  · intro finishes
    exact ⟨.ok value, events, [], (List.append_nil events).symm, finishes, by simp⟩

/-- **One program for every item of a list.**  Each has events of its own among
those of the whole. -/
theorem Finishes.mapM {items : List α} {f : α → Program I β} {results : List β}
    (finishes : Finishes (items.mapM f) events results) :
    List.Forall₂ (fun item result => ∃ own, own.Sublist events ∧ Finishes (f item) own result)
      items results := by
  induction items generalizing events results with
  | nil =>
      obtain ⟨-, rfl⟩ := finishes_done.mp finishes
      exact .nil
  | cons item items inductionHypothesis =>
      rw [List.mapM_cons, finishes_bind] at finishes
      obtain ⟨result, first, onwards, rfl, begun, onward⟩ := finishes
      obtain ⟨rest, later, last, rfl, others, ended⟩ := finishes_bind.mp onward
      obtain ⟨rfl, rfl⟩ := finishes_done.mp ended
      refine .cons ⟨first, List.sublist_append_left _ _, begun⟩ ?_
      refine (inductionHypothesis others).imp ?_
      rintro item result ⟨own, among, finished⟩
      exact ⟨own, (among.trans (List.sublist_append_left _ _)).trans
        (List.sublist_append_right _ _), finished⟩

/-- **Every event belongs to one of the items.** -/
theorem Finishes.exists_item_of_mem {items : List α} {f : α → Program I β} {results : List β}
    (finishes : Finishes (items.mapM f) events results) {event : Event I}
    (member : event ∈ events) :
    ∃ item ∈ items, ∃ own result, Finishes (f item) own result ∧ event ∈ own := by
  induction items generalizing events results with
  | nil =>
      obtain ⟨rfl, -⟩ := finishes_done.mp finishes
      cases member
  | cons item items inductionHypothesis =>
      rw [List.mapM_cons, finishes_bind] at finishes
      obtain ⟨result, first, onwards, rfl, begun, onward⟩ := finishes
      obtain ⟨rest, later, last, rfl, others, ended⟩ := finishes_bind.mp onward
      obtain ⟨rfl, -⟩ := finishes_done.mp ended
      rw [List.append_nil] at member
      rcases List.mem_append.mp member with early | late
      · exact ⟨item, List.mem_cons_self, first, result, begun, early⟩
      · obtain ⟨other, isItem, own, outcome, finished, among⟩ := inductionHypothesis others late
        exact ⟨other, List.mem_cons_of_mem _ isItem, own, outcome, finished, among⟩

/-- Every event of a sequence of programs that cannot fail is an event of one of them. -/
theorem Completes.exists_item_of_mem {items : List α} {f : α → Program I Unit}
    (completes : Completes (items.forM fun item => (ExceptT.lift (f item) :
      ExceptT ε (Program I) Unit)) events ()) {event : Event I} (member : event ∈ events) :
    ∃ item ∈ items, ∃ own, Finishes (f item) own () ∧ event ∈ own := by
  induction items generalizing events with
  | nil =>
      obtain ⟨rfl, -⟩ := completes_pure.mp completes
      cases member
  | cons item items inductionHypothesis =>
      change Completes (ExceptT.lift (f item) >>= fun _ => items.forM _) events () at completes
      obtain ⟨⟨⟩, first, later, rfl, begun, rest⟩ := completes_bind.mp completes
      rcases List.mem_append.mp member with early | late
      · exact ⟨item, List.mem_cons_self, first, completes_lift.mp begun, early⟩
      · obtain ⟨other, isItem, found⟩ := inductionHypothesis rest late
        exact ⟨other, List.mem_cons_of_mem _ isItem, found⟩

end Program

/-- What a relation between two lists says about an item of the second. -/
theorem exists_of_forall₂ {R : α → β → Prop} {items : List α} {results : List β}
    (related : List.Forall₂ R items results) {result : β} (member : result ∈ results) :
    ∃ item ∈ items, R item result := by
  induction related with
  | nil => cases member
  | cons first _ inductionHypothesis =>
      rcases List.mem_cons.mp member with rfl | later
      · exact ⟨_, List.mem_cons_self, first⟩
      · obtain ⟨item, isItem, holds⟩ := inductionHypothesis later
        exact ⟨item, List.mem_cons_of_mem _ isItem, holds⟩

/-! ### Histories -/

/-- The events of a sequence of calls. -/
def history (serve : Serve I S) (start : S) (requests : List I.Call) : List (Event I) :=
  (moments serve start requests).map (Moment.event serve)

theorem moments_append {serve : Serve I S} {start : S} {first rest : List I.Call} :
    moments serve start (first ++ rest) =
      moments serve start first ++ moments serve (stateAfter serve start first) rest := by
  induction first generalizing start with
  | nil => rfl
  | cons request first inductionHypothesis =>
      rw [List.cons_append, moments, moments, inductionHypothesis, List.cons_append]
      rfl

@[simp]
theorem length_moments {serve : Serve I S} {start : S} {requests : List I.Call} :
    (moments serve start requests).length = requests.length := by
  induction requests generalizing start with
  | nil => rfl
  | cons request requests inductionHypothesis => exact congrArg (· + 1) inductionHypothesis

theorem stateAfter_append {serve : Serve I S} {start : S} {first rest : List I.Call} :
    stateAfter serve start (first ++ rest) =
      stateAfter serve (stateAfter serve start first) rest := by
  induction first generalizing start with
  | nil => rfl
  | cons request first inductionHypothesis => exact inductionHypothesis

/-- An event of a history is the answer to one of its calls. -/
theorem mem_history {serve : Serve I S} {start : S} {requests : List I.Call} {event : Event I} :
    event ∈ history serve start requests ↔
      ∃ moment ∈ moments serve start requests, moment.event serve = event :=
  List.mem_map

/-- **The events of interleaved threads are those of the sequence of their
calls.** -/
theorem Reachable.history_eq {ι : Type} [DecidableEq ι] {serve : Serve I S}
    {allowed : Config I α ι S → ι → Prop} {start config : Config I α ι S}
    (reachable : Reachable serve allowed start config) (fresh : start.log = []) :
    config.log.map Prod.snd =
        history serve start.shared (config.log.map fun entry => entry.2.1) ∧
      config.shared = stateAfter serve start.shared (config.log.map fun entry => entry.2.1) := by
  induction reachable with
  | start => simp [fresh, history, moments, stateAfter]
  | @step config config' thread before permitted taken inductionHypothesis =>
      obtain ⟨pending⟩ := taken
      obtain ⟨events, shared⟩ := inductionHypothesis
      unfold history at events
      simp only [Config.answer, List.map_append, List.map_cons, List.map_nil, events, history,
        moments_append, stateAfter_append, ← shared]
      exact ⟨rfl, rfl⟩

/-- **What an event of a run was answered from.**  The log up to it determines the state. -/
theorem Reachable.answered {ι : Type} [DecidableEq ι] {serve : Serve I S}
    {allowed : Config I α ι S → ι → Prop} {start config : Config I α ι S} {thread : ι}
    {request : I.Call} {answer : I.Answer request} {before after : List (ι × Event I)}
    (reachable : Reachable serve allowed start config) (fresh : start.log = [])
    (cut : config.log = before ++ (thread, ⟨request, answer⟩) :: after) :
    answer = (serve request
      (stateAfter serve start.shared (before.map fun entry => entry.2.1))).1 := by
  have events := (reachable.history_eq fresh).1
  rw [cut, List.map_append, List.map_append, List.map_cons, List.map_cons, history, moments_append,
    List.map_append] at events
  have first : (before.map Prod.snd).length = ((moments serve start.shared
      (before.map fun entry => entry.2.1)).map (Moment.event serve)).length := by
    rw [List.length_map, List.length_map, length_moments, List.length_map]
  have rest := (List.append_inj events first).2
  have same := (List.cons.inj rest).1
  exact eq_of_heq (Sigma.mk.inj same).2

/-- Two successive events of a thread are events of the run with only others between
them. -/
theorem Config.log_eq_of_history {ι : Type} [DecidableEq ι] {config : Config I α ι S} {thread : ι}
    {earlier later : List (Event I)} {first second : Event I}
    (happened : config.history thread = earlier ++ first :: second :: later) :
    ∃ before between after, config.log =
        before ++ (thread, first) :: (between ++ (thread, second) :: after) ∧
      ∀ entry ∈ between, entry.1 ≠ thread := by
  -- an entry is selected when it is of the thread
  have own : ∀ {entry : ι × Event I} {event : Event I},
      (if entry.1 = thread then some entry.2 else none) = some event → entry = (thread, event) := by
    intro entry event selected
    split_ifs at selected with same
    exact Prod.ext same (Option.some.inj selected)
  obtain ⟨start, rest, isLog, -, happened⟩ := List.filterMap_eq_append_iff.mp happened
  obtain ⟨skipped, entry, rest, rfl, -, isFirst, happened⟩ := List.filterMap_eq_cons_iff.mp happened
  obtain ⟨between, entry', after, rfl, others, isSecond, -⟩ := List.filterMap_eq_cons_iff.mp happened
  obtain rfl := own isFirst
  obtain rfl := own isSecond
  refine ⟨start ++ skipped, between, after, ?_, fun entry member same => ?_⟩
  · rw [isLog, List.append_assoc]
  · have selected := others entry member
    rw [if_pos same] at selected
    cases selected

end Interaction
