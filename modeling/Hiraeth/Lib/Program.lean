import Mathlib.Data.List.Forall2
import Mathlib.Logic.Function.Basic
import Mathlib.Tactic.TypeStar

/-!
# Programs that call a shared store

A program is a tree of calls: each call is answered by the store, and the
answer selects the rest of the program.  Nothing is said about the store until
the program is run, so one program can be run alone, or interleaved with others
call by call.

## Main definitions

* `Interface`, `Program` — the calls, and the programs made of them
* `Program.run`, `Program.events` — a program alone against a store
* `Program.AllCalls` — a property of every call, whatever the answers
* `Config`, `Step`, `Reachable` — programs interleaved over one store
* `Config.play` — the configuration after a schedule
* `Follows` — a program after some of its calls were answered

## Main results

* `Program.allCalls_events` — a property of every call holds of every run
* `Reachable.invariant` — what holds at the start and is kept by every step
  holds in every reachable configuration
* `Reachable.follows` — every thread has got as far as its own events say
-/

namespace Interaction

universe u

/-! ### Outcomes -/

section Outcome

variable {ε α β : Type}

@[simp]
theorem ok_bind (value : α) (rest : α → Except ε β) : (Except.ok value >>= rest) = rest value :=
  rfl

@[simp]
theorem error_bind (failure : ε) (rest : α → Except ε β) :
    (Except.error failure >>= rest) = Except.error failure := rfl

@[simp]
theorem pure_eq_ok (value : α) : (pure value : Except ε α) = .ok value := rfl

@[simp]
theorem throw_eq_error (failure : ε) : (throw failure : Except ε α) = .error failure := rfl

/-- A sequence succeeds exactly when both parts do. -/
theorem bind_eq_ok {first : Except ε α} {rest : α → Except ε β} {value : β} :
    (first >>= rest) = .ok value ↔ ∃ middle, first = .ok middle ∧ rest middle = .ok value := by
  cases first with
  | error failure => simp
  | ok middle => simp

theorem map_eq_ok {translate : α → β} {outcome : Except ε α} {value : β} :
    outcome.map translate = .ok value ↔ ∃ result, outcome = .ok result ∧ translate result = value := by
  cases outcome <;> simp [Except.map]

/-- Rewording the failure changes no success. -/
@[simp]
theorem mapError_eq_ok {ε' : Type} {outcome : Except ε α} {translate : ε → ε'} {value : α} :
    outcome.mapError translate = .ok value ↔ outcome = .ok value := by
  cases outcome <;> simp [Except.mapError]

/-- Checking every item succeeds exactly when each check does. -/
theorem forM_eq_ok {check : α → Except ε Unit} {items : List α} :
    items.forM check = .ok () ↔ ∀ item ∈ items, check item = .ok () := by
  induction items with
  | nil => exact ⟨fun _ _ member => (nomatch member), fun _ => rfl⟩
  | cons item items inductionHypothesis =>
      show (check item >>= fun _ => items.forM check) = .ok () ↔ _
      rw [bind_eq_ok, List.forall_mem_cons]
      constructor
      · rintro ⟨⟨⟩, first, rest⟩
        exact ⟨first, inductionHypothesis.mp rest⟩
      · rintro ⟨first, rest⟩
        exact ⟨(), first, inductionHypothesis.mpr rest⟩

/-- Collecting outcomes succeeds exactly when each of them is a success. -/
theorem mapM_eq_ok {f : α → Except ε β} {items : List α} {results : List β} :
    items.mapM f = .ok results ↔
      List.Forall₂ (fun item result => f item = .ok result) items results := by
  induction items generalizing results with
  | nil => simp [eq_comm]
  | cons item items inductionHypothesis =>
      rw [List.mapM_cons]
      simp only [bind_eq_ok, pure_eq_ok, Except.ok.injEq, inductionHypothesis]
      constructor
      · rintro ⟨result, first, rest, others, rfl⟩
        exact .cons first others
      · rintro (_ | ⟨first, others⟩)
        exact ⟨_, first, _, others, rfl⟩

/-- Collecting outcomes and forgetting the failures commute. -/
theorem toOption_mapM (f : α → Except ε β) (items : List α) :
    (items.mapM f).toOption = items.mapM fun item => (f item).toOption := by
  induction items with
  | nil => rfl
  | cons item rest inductionHypothesis =>
      rw [List.mapM_cons, List.mapM_cons, ← inductionHypothesis]
      cases f item with
      | error failure => rfl
      | ok value => cases rest.mapM f <;> rfl

theorem mapM_map_some {γ : Type} (f : α → Option β) (g : β → γ) (items : List α) :
    (items.mapM fun item => (f item).map g) = (items.mapM f).map (List.map g) := by
  induction items with
  | nil => rfl
  | cons item rest inductionHypothesis =>
      rw [List.mapM_cons, List.mapM_cons, inductionHypothesis]
      cases f item with
      | none => rfl
      | some value => cases rest.mapM f <;> rfl

end Outcome

/-! ### Programs -/

/-- The calls a store answers, each with the type of its answer. -/
structure Interface where
  Call : Type
  Answer : Call → Type

/-- A program over an interface. -/
inductive Program (I : Interface) (α : Type) : Type
  | done (result : α)
  | call (request : I.Call) (next : I.Answer request → Program I α)

/-- A call together with its answer. -/
abbrev Event (I : Interface) := (request : I.Call) × I.Answer request

/-- What a store does with a call, in one atomic step. -/
abbrev Serve (I : Interface) (S : Type u) := (request : I.Call) → S → I.Answer request × S

namespace Program

variable {I : Interface} {α β γ : Type} {S : Type u}

/-! ### Sequencing -/

/-- One program after another. -/
def bind : Program I α → (α → Program I β) → Program I β
  | done result, rest => rest result
  | call request next, rest => call request fun answer => (next answer).bind rest

instance : Monad (Program I) where
  pure := done
  bind := bind

/-- The program that makes one call and returns its answer. -/
def perform (request : I.Call) : Program I (I.Answer request) :=
  call request done

@[simp]
theorem pure_eq_done (result : α) : (pure result : Program I α) = done result := rfl

@[simp]
theorem done_bind (result : α) (rest : α → Program I β) :
    (done result >>= rest) = rest result := rfl

@[simp]
theorem call_bind (request : I.Call) (next : I.Answer request → Program I α)
    (rest : α → Program I β) :
    (call request next >>= rest) = call request fun answer => next answer >>= rest := rfl

@[simp]
theorem perform_bind (request : I.Call) (rest : I.Answer request → Program I α) :
    (perform request >>= rest) = call request rest := rfl

theorem bind_done (program : Program I α) : (program >>= done) = program := by
  induction program with
  | done result => rfl
  | call request next inductionHypothesis =>
      rw [call_bind]
      congr 1
      funext answer
      exact inductionHypothesis answer

theorem bind_assoc (program : Program I α) (middle : α → Program I β)
    (last : β → Program I γ) :
    (program >>= middle) >>= last = program >>= fun result => middle result >>= last := by
  induction program with
  | done result => rfl
  | call request next inductionHypothesis =>
      simp only [call_bind]
      congr 1
      funext answer
      exact inductionHypothesis answer

instance : LawfulMonad (Program I) :=
  LawfulMonad.mk' (Program I) bind_done (fun _ _ => rfl) bind_assoc

/-- The program has no call left. -/
def isDone : Program I α → Bool
  | done _ => true
  | call _ _ => false

theorem isDone_iff {program : Program I α} : program.isDone ↔ ∃ result, program = done result := by
  cases program <;> simp [isDone]

/-- The call that the program makes next. -/
def upcoming : Program I α → Option I.Call
  | done _ => none
  | call request _ => some request

theorem upcoming_eq_some {program : Program I α} {request : I.Call} :
    program.upcoming = some request ↔ ∃ next, program = call request next := by
  cases program with
  | done result => simp [upcoming]
  | call first next =>
      simp only [upcoming, Option.some.injEq]
      constructor
      · rintro rfl
        exact ⟨next, rfl⟩
      · rintro ⟨_, same⟩
        exact (Program.call.inj same).1

/-! ### Running alone -/

/-- The result of a program and the store it leaves behind. -/
def run (serve : Serve I S) : Program I α → S → α × S
  | done result, state => (result, state)
  | call request next, state =>
      let answered := serve request state
      (next answered.1).run serve answered.2

/-- The calls a program makes, each with the answer it gets. -/
def events (serve : Serve I S) : Program I α → S → List (Event I)
  | done _, _ => []
  | call request next, state =>
      let answered := serve request state
      ⟨request, answered.1⟩ :: (next answered.1).events serve answered.2

section Run

variable (serve : Serve I S)

@[simp]
theorem run_done (result : α) (state : S) :
    (done result : Program I α).run serve state = (result, state) := rfl

@[simp]
theorem run_call (request : I.Call) (next : I.Answer request → Program I α) (state : S) :
    (call request next).run serve state =
      (next (serve request state).1).run serve (serve request state).2 := rfl

@[simp]
theorem events_done (result : α) (state : S) :
    (done result : Program I α).events serve state = [] := rfl

@[simp]
theorem events_call (request : I.Call) (next : I.Answer request → Program I α) (state : S) :
    (call request next).events serve state =
      ⟨request, (serve request state).1⟩ ::
        (next (serve request state).1).events serve (serve request state).2 := rfl

@[simp]
theorem run_bind (program : Program I α) (rest : α → Program I β) (state : S) :
    (program >>= rest).run serve state =
      (rest (program.run serve state).1).run serve (program.run serve state).2 := by
  induction program generalizing state with
  | done result => rfl
  | call request next inductionHypothesis =>
      rw [call_bind, run_call, run_call]
      exact inductionHypothesis _ _

@[simp]
theorem events_bind (program : Program I α) (rest : α → Program I β) (state : S) :
    (program >>= rest).events serve state =
      program.events serve state ++
        (rest (program.run serve state).1).events serve (program.run serve state).2 := by
  induction program generalizing state with
  | done result => rfl
  | call request next inductionHypothesis =>
      rw [call_bind, events_call, events_call, run_call, List.cons_append]
      congr 1
      exact inductionHypothesis _ _

/-- **Two programs for every item, equal up to a translation of their results.**  The step
may use what holds of the state whenever an item has its turn. -/
theorem run_mapM_translated {items : List γ} {f : γ → Program I α} {g : γ → Program I β}
    {translate : γ → β → α} (holds : S → Prop)
    (agree : ∀ item ∈ items, ∀ state, holds state →
      (f item).run serve state = (translate item ((g item).run serve state).1,
        ((g item).run serve state).2) ∧ holds ((g item).run serve state).2)
    {state : S} (initially : holds state) :
    (items.mapM f).run serve state =
      (List.zipWith translate items ((items.mapM g).run serve state).1,
        ((items.mapM g).run serve state).2) := by
  induction items generalizing state with
  | nil => rfl
  | cons item items inductionHypothesis =>
      obtain ⟨same, kept⟩ := agree item List.mem_cons_self state initially
      have rest := inductionHypothesis (fun other later => agree other (List.mem_cons_of_mem _ later))
        kept
      simp only [List.mapM_cons, run_bind, same, rest]
      rfl

end Run

/-! ### Failing programs -/

/-- A program whose failures end the whole computation, after translation of
the error. -/
def orFail {ε ε' : Type} (program : Program I (Except ε α)) (translate : ε → ε') :
    ExceptT ε' (Program I) α :=
  ExceptT.mk (program >>= fun outcome => done (outcome.mapError translate))

section Succeeds

variable {ε ε' : Type} (serve : Serve I S)

/-- Run from `state`, the program returns `value` and leaves `final`. -/
def Succeeds (program : ExceptT ε (Program I) α) (state : S) (value : α) (final : S) : Prop :=
  program.run.run serve state = (.ok value, final)

variable {serve} {state final : S}

@[simp]
theorem succeeds_pure {result value : α} :
    Succeeds serve (pure result : ExceptT ε (Program I) α) state value final ↔
      result = value ∧ state = final := by
  simp [Succeeds]

@[simp]
theorem not_succeeds_throw {failure : ε} {value : α} :
    ¬ Succeeds serve (throw failure : ExceptT ε (Program I) α) state value final := by
  simp [Succeeds]

/-- **A sequence succeeds exactly when both parts do, one after the other.** -/
@[simp]
theorem succeeds_bind {program : ExceptT ε (Program I) α}
    {rest : α → ExceptT ε (Program I) β} {value : β} :
    Succeeds serve (program >>= rest) state value final ↔
      ∃ middle between, Succeeds serve program state middle between ∧
        Succeeds serve (rest middle) between value final := by
  unfold Succeeds
  rw [ExceptT.run_bind, run_bind]
  rcases ran : program.run.run serve state with ⟨outcome, between⟩
  cases outcome with
  | error failure => simp
  | ok middle =>
      simp only [Prod.mk.injEq, Except.ok.injEq]
      constructor
      · intro later
        exact ⟨middle, between, ⟨rfl, rfl⟩, later⟩
      · rintro ⟨_, _, ⟨rfl, rfl⟩, later⟩
        exact later

@[simp]
theorem succeeds_liftExcept {outcome : Except ε α} {value : α} :
    Succeeds serve (liftExcept outcome : ExceptT ε (Program I) α) state value final ↔
      outcome = .ok value ∧ state = final := by
  cases outcome with
  | error failure => simp [liftExcept]
  | ok result => simp [liftExcept]

@[simp]
theorem succeeds_orFail {program : Program I (Except ε α)} {translate : ε → ε'} {value : α} :
    Succeeds serve (program.orFail translate) state value final ↔
      program.run serve state = (.ok value, final) := by
  unfold Succeeds orFail
  rw [ExceptT.run_mk, run_bind]
  rcases ran : program.run serve state with ⟨outcome, between⟩
  cases outcome with
  | error failure => simp [Except.mapError]
  | ok result => simp [Except.mapError]

/-- A program that cannot fail, among others that can. -/
@[simp]
theorem succeeds_lift {program : Program I α} {value : α} :
    Succeeds serve (ExceptT.lift program : ExceptT ε (Program I) α) state value final ↔
      program.run serve state = (value, final) := by
  unfold Succeeds
  rw [ExceptT.run_lift, map_eq_pure_bind, run_bind]
  rcases program.run serve state with ⟨result, between⟩
  simp

@[simp]
theorem run_liftExcept (outcome : Except ε α) (state : S) :
    (liftExcept outcome : ExceptT ε (Program I) α).run.run serve state = (outcome, state) := by
  cases outcome <;> rfl

theorem liftExcept_ok_bind (value : α) (rest : α → ExceptT ε (Program I) β) :
    (liftExcept (.ok value : Except ε α) >>= rest) = rest value := rfl

theorem liftExcept_error_bind (failure : ε) (rest : α → ExceptT ε (Program I) β) :
    (liftExcept (.error failure : Except ε α) >>= rest) = throw failure := rfl

/-- What a sequence of programs that may fail comes to. -/
theorem run_except_bind (program : ExceptT ε (Program I) α)
    (rest : α → ExceptT ε (Program I) β) (state : S) :
    (program >>= rest).run.run serve state =
      match program.run.run serve state with
      | (.ok value, between) => (rest value).run.run serve between
      | (.error failure, between) => (.error failure, between) := by
  rw [ExceptT.run_bind, run_bind]
  rcases program.run.run serve state with ⟨outcome, between⟩
  cases outcome <;> rfl

/-- What a failing program comes to. -/
theorem run_orFail (program : Program I (Except ε α)) (translate : ε → ε') (state : S) :
    (program.orFail translate).run.run serve state =
      ((program.run serve state).1.mapError translate, (program.run serve state).2) := by
  unfold orFail
  rw [ExceptT.run_mk, run_bind]
  rfl

/-- What a failing program and its continuation come to. -/
theorem run_orFail_bind (program : Program I (Except ε α)) (translate : ε → ε')
    (rest : α → ExceptT ε' (Program I) β) (state : S) :
    (program.orFail translate >>= rest).run.run serve state =
      match program.run serve state with
      | (.ok value, between) => (rest value).run.run serve between
      | (.error failure, between) => (.error (translate failure), between) := by
  rw [ExceptT.run_bind, run_bind]
  unfold orFail
  rw [ExceptT.run_mk, run_bind]
  rcases program.run serve state with ⟨outcome, between⟩
  cases outcome <;> rfl

/-- The events of a failing program and its continuation. -/
theorem events_orFail_bind (program : Program I (Except ε α)) (translate : ε → ε')
    (rest : α → ExceptT ε' (Program I) β) (state : S) :
    (program.orFail translate >>= rest).run.events serve state =
      program.events serve state ++
        match program.run serve state with
        | (.ok value, between) => (rest value).run.events serve between
        | (.error _, _) => [] := by
  rw [ExceptT.run_bind, events_bind]
  unfold orFail
  rw [ExceptT.run_mk, events_bind, run_bind]
  rcases program.run serve state with ⟨outcome, between⟩
  cases outcome <;> simp [Except.mapError]

/-- The events of a program that succeeds, and of its continuation. -/
theorem events_bind_of_succeeds {program : ExceptT ε (Program I) α}
    {rest : α → ExceptT ε (Program I) β} {state between : S} {value : α}
    (succeeds : Succeeds serve program state value between) :
    (program >>= rest).run.events serve state =
      program.run.events serve state ++ (rest value).run.events serve between := by
  unfold Succeeds at succeeds
  rw [ExceptT.run_bind, events_bind, succeeds]

/-- A program that makes no calls has no events. -/
theorem events_liftExcept (outcome : Except ε α) (state : S) :
    (liftExcept outcome : ExceptT ε (Program I) α).run.events serve state = [] := by
  cases outcome <;> rfl

@[simp]
theorem run_perform {request : I.Call} :
    (perform request).run serve state = serve request state := rfl

end Succeeds

/-! ### What every call satisfies -/

/-- Every call the program can make satisfies `property`, whatever the store
answers. -/
def AllCalls (property : I.Call → Prop) : Program I α → Prop
  | done _ => True
  | call request next => property request ∧ ∀ answer, (next answer).AllCalls property

@[simp]
theorem allCalls_done {property : I.Call → Prop} (result : α) :
    (done result : Program I α).AllCalls property := trivial

@[simp]
theorem allCalls_call {property : I.Call → Prop} {request : I.Call}
    {next : I.Answer request → Program I α} :
    (call request next).AllCalls property ↔
      property request ∧ ∀ answer, (next answer).AllCalls property := Iff.rfl

theorem AllCalls.bind {property : I.Call → Prop} {program : Program I α}
    {rest : α → Program I β} (first : program.AllCalls property)
    (later : ∀ result, (rest result).AllCalls property) :
    (program >>= rest).AllCalls property := by
  induction program with
  | done result => exact later result
  | call request next inductionHypothesis =>
      exact ⟨first.1, fun answer => inductionHypothesis answer (first.2 answer)⟩

/-- **A property of every call holds of every run.** -/
theorem allCalls_events {property : I.Call → Prop} (serve : Serve I S)
    {program : Program I α} (every : program.AllCalls property) (state : S) :
    ∀ event ∈ program.events serve state, property event.1 := by
  induction program generalizing state with
  | done result => simp
  | call request next inductionHypothesis =>
      intro event member
      rcases List.mem_cons.mp member with rfl | later
      · exact every.1
      · exact inductionHypothesis _ (every.2 _) _ event later

end Program

/-! ### Interleaving -/

section Interleaving

variable {I : Interface} {α ι : Type} {S : Type u}

/-- `Follows program events rest`: once the store has answered `events`, in this
order, `rest` is what remains of `program`. -/
def Follows : Program I α → List (Event I) → Program I α → Prop
  | program, [], rest => rest = program
  | .done _, _ :: _, _ => False
  | .call request next, event :: events, rest =>
      ∃ answer, event = ⟨request, answer⟩ ∧ Follows (next answer) events rest

@[simp]
theorem follows_nil {program rest : Program I α} :
    Follows program [] rest ↔ rest = program := by
  cases program <;> rfl

@[simp]
theorem not_follows_done {result : α} {event : Event I} {events : List (Event I)}
    {rest : Program I α} : ¬ Follows (.done result) (event :: events) rest := id

@[simp]
theorem follows_call_cons {request : I.Call} {next : I.Answer request → Program I α}
    {event : Event I} {events : List (Event I)} {rest : Program I α} :
    Follows (.call request next) (event :: events) rest ↔
      ∃ answer, event = ⟨request, answer⟩ ∧ Follows (next answer) events rest := Iff.rfl

/-- One more answer takes the program one call further. -/
theorem Follows.snoc {program : Program I α} {events : List (Event I)} {request : I.Call}
    {next : I.Answer request → Program I α}
    (follows : Follows program events (.call request next)) (answer : I.Answer request) :
    Follows program (events ++ [⟨request, answer⟩]) (next answer) := by
  induction events generalizing program with
  | nil =>
      obtain rfl := follows_nil.mp follows
      exact ⟨answer, rfl, follows_nil.mpr rfl⟩
  | cons event events inductionHypothesis =>
      cases program with
      | done result => exact follows.elim
      | call request next =>
          obtain ⟨first, rfl, later⟩ := follows
          exact ⟨first, rfl, inductionHypothesis later⟩

/-- A store shared by threads, and what has happened so far. -/
structure Config (I : Interface) (α ι : Type) (S : Type u) where
  shared : S
  threads : ι → Program I α
  log : List (ι × Event I)

variable [DecidableEq ι]

/-- The events of one thread, in order. -/
def Config.history (config : Config I α ι S) (thread : ι) : List (Event I) :=
  config.log.filterMap fun entry => if entry.1 = thread then some entry.2 else none

/-- The configuration in which `thread`'s pending call was answered. -/
def Config.answer (serve : Serve I S) (config : Config I α ι S) (thread : ι)
    (request : I.Call) (next : I.Answer request → Program I α) : Config I α ι S where
  shared := (serve request config.shared).2
  threads := Function.update config.threads thread (next (serve request config.shared).1)
  log := config.log ++ [(thread, ⟨request, (serve request config.shared).1⟩)]

/-- One thread has its pending call answered. -/
inductive Step (serve : Serve I S) (config : Config I α ι S) (thread : ι) :
    Config I α ι S → Prop
  | call {request : I.Call} {next : I.Answer request → Program I α}
      (pending : config.threads thread = .call request next) :
      Step serve config thread (config.answer serve thread request next)

/-- The configurations reached by steps that all meet `allowed`. -/
inductive Reachable (serve : Serve I S) (allowed : Config I α ι S → ι → Prop)
    (start : Config I α ι S) : Config I α ι S → Prop
  | start : Reachable serve allowed start start
  | step {config config' : Config I α ι S} {thread : ι}
      (before : Reachable serve allowed start config) (permitted : allowed config thread)
      (taken : Step serve config thread config') :
      Reachable serve allowed start config'

variable {serve : Serve I S} {allowed : Config I α ι S → ι → Prop}
  {start config : Config I α ι S}

/-- **The invariant rule.** -/
theorem Reachable.invariant (reachable : Reachable serve allowed start config)
    (holds : Config I α ι S → Prop) (initially : holds start)
    (kept : ∀ {config config' thread}, Reachable serve allowed start config →
      holds config → allowed config thread → Step serve config thread config' →
      holds config') : holds config := by
  induction reachable with
  | start => exact initially
  | step before permitted taken inductionHypothesis =>
      exact kept before inductionHypothesis permitted taken

/-- Runs can be joined. -/
theorem Reachable.trans {later : Config I α ι S}
    (reachable : Reachable serve allowed start config)
    (onwards : Reachable serve allowed config later) : Reachable serve allowed start later := by
  induction onwards with
  | start => exact reachable
  | step _ permitted taken inductionHypothesis => exact .step inductionHypothesis permitted taken

/-- The configuration after `thread`'s pending call, if it has one. -/
def Config.advance (serve : Serve I S) (config : Config I α ι S) (thread : ι) :
    Config I α ι S :=
  match config.threads thread with
  | .done _ => config
  | .call request next => config.answer serve thread request next

/-- The configuration after a schedule. -/
def Config.play (serve : Serve I S) : Config I α ι S → List ι → Config I α ι S
  | config, [] => config
  | config, thread :: schedule => (config.advance serve thread).play serve schedule

/-- Every step of a schedule passes a check. -/
def Config.passes (serve : Serve I S) (check : Config I α ι S → ι → Bool) :
    Config I α ι S → List ι → Bool
  | _, [] => true
  | config, thread :: schedule =>
      check config thread && (config.advance serve thread).passes serve check schedule

theorem Config.passes_true {schedule : List ι} :
    config.passes serve (fun _ _ => true) schedule = true := by
  induction schedule generalizing config with
  | nil => rfl
  | cons thread schedule inductionHypothesis => exact inductionHypothesis

/-- **A schedule is a run.** -/
theorem Reachable.play {check : Config I α ι S → ι → Bool}
    (sound : ∀ config thread, check config thread → allowed config thread)
    {schedule : List ι} (reachable : Reachable serve allowed start config)
    (checked : config.passes serve check schedule) :
    Reachable serve allowed start (config.play serve schedule) := by
  induction schedule generalizing config with
  | nil => exact reachable
  | cons thread schedule inductionHypothesis =>
      obtain ⟨first, rest⟩ := Bool.and_eq_true_iff.mp checked
      refine inductionHypothesis ?_ rest
      unfold Config.advance
      cases pending : config.threads thread with
      | done result => exact reachable
      | call request next => exact .step reachable (sound config thread first) ⟨pending⟩

@[simp]
theorem threads_answer_self {thread : ι} {request : I.Call}
    {next : I.Answer request → Program I α} :
    (config.answer serve thread request next).threads thread =
      next (serve request config.shared).1 := by
  simp [Config.answer]

theorem threads_answer_ne {thread other : ι} (different : other ≠ thread)
    {request : I.Call} {next : I.Answer request → Program I α} :
    (config.answer serve thread request next).threads other = config.threads other := by
  simp [Config.answer, different]

@[simp]
theorem history_answer_self {thread : ι} {request : I.Call}
    {next : I.Answer request → Program I α} :
    (config.answer serve thread request next).history thread =
      config.history thread ++ [⟨request, (serve request config.shared).1⟩] := by
  simp [Config.history, Config.answer]

theorem history_answer_ne {thread other : ι} (different : other ≠ thread)
    {request : I.Call} {next : I.Answer request → Program I α} :
    (config.answer serve thread request next).history other = config.history other := by
  simp [Config.history, Config.answer, different.symm]

/-- **Every thread has got as far as its own events say.** -/
theorem Reachable.follows (reachable : Reachable serve allowed start config)
    (fresh : start.log = []) (thread : ι) :
    Follows (start.threads thread) (config.history thread) (config.threads thread) := by
  induction reachable with
  | start => simp [Config.history, fresh]
  | @step _ _ stepping _ _ taken inductionHypothesis =>
      obtain ⟨pending⟩ := taken
      by_cases equal : thread = stepping
      · subst equal
        rw [pending] at inductionHypothesis
        rw [history_answer_self, threads_answer_self]
        exact inductionHypothesis.snoc _
      · rw [history_answer_ne equal, threads_answer_ne equal]
        exact inductionHypothesis

end Interleaving

end Interaction
