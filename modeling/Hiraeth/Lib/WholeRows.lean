import Hiraeth.Lib.Discipline
import Mathlib.Logic.Function.Basic

/-!
# Rows that are read and written as a whole

To set one field of a row, a thread reads the row, changes the field and writes the row back.
What another thread has written in between is overwritten.  When every write finds the row as
it was read, nothing is lost: each write then sets its own field and leaves the others alone.

## Main definitions

* `RowAccess` — which events find the row, and what calls make of it
* `RowAccess.known` — the row that a thread found last, and whether it has written
* `RowAccess.discipline` — a thread writes once, and from the row that it found
* `RowAccess.AsRead` — the steps on which a write finds the row as it was read
* `Carries` — the fields that were set are set, the others are as they were

## Main results

* `RowAccess.carries_of_reachable` — along such steps no field is lost
-/

namespace Interaction

universe u

/-- **How a row of a store is accessed**: where it is, which events tell what it is, and what
calls make of it. -/
structure RowAccess (I : Interface) (S : Type u) (R : Type) where
  row : S → R
  finds : Event I → Option R
  writes : I.Call → Option (R → R)

/-- The row that was found last, and whether it was written. -/
structure RowKnown (R : Type) where
  found : Option R
  wrote : Bool

namespace RowAccess

variable {I : Interface} {S : Type u} {R : Type} (access : RowAccess I S R)

/-- What an event teaches about the row. -/
def learn (known : RowKnown R) (event : Event I) : RowKnown R :=
  ⟨(access.finds event).or known.found, known.wrote || (access.writes event.1).isSome⟩

/-- What some events teach. -/
def known (events : List (Event I)) : RowKnown R :=
  events.foldl access.learn ⟨none, false⟩

/-- **A thread writes the row at most once**, and makes of the row that it found last one that
is as it should be.  Harmless calls may be made at will. -/
def discipline (harmless : I.Call → Prop) (sets : R → R → Prop) :
    Discipline I (RowKnown R) where
  learn := access.learn
  permits known request :=
    (harmless request ∧ access.writes request = none) ∨
      (known.wrote = false ∧ ∃ change before, access.writes request = some change ∧
        known.found = some before ∧ sets before (change before))

/-- Harmless calls obey, and write nothing. -/
theorem obeys_of_allCalls {α : Type} {harmless : I.Call → Prop} {sets : R → R → Prop}
    {program : Program I α}
    (every : program.AllCalls fun request => harmless request ∧ access.writes request = none)
    (known : RowKnown R) :
    program.Obeys (access.discipline harmless sets)
      (fun _ after => after.wrote = known.wrote) known := by
  induction program generalizing known with
  | done result => exact rfl
  | call request next inductionHypothesis =>
      refine ⟨.inl every.1, fun answer => ?_⟩
      refine (inductionHypothesis answer (every.2 answer) _).mono fun result after same => ?_
      rw [same]
      show (known.wrote || (access.writes request).isSome) = known.wrote
      rw [every.1.2, Option.isSome_none, Bool.or_false]

section Runs

variable {α ι : Type} [DecidableEq ι]

/-- **The write finds the row as it was read.** -/
def AsRead (config : Config I α ι S) (thread : ι) : Prop :=
  ∀ request next, config.threads thread = .call request next → (access.writes request).isSome →
    (access.known (config.history thread)).found = some (access.row config.shared)

/-- The same, as a check. -/
def isAsRead [DecidableEq R] (config : Config I α ι S) (thread : ι) : Bool :=
  match config.threads thread with
  | .done _ => true
  | .call request _ => !(access.writes request).isSome ||
      decide ((access.known (config.history thread)).found = some (access.row config.shared))

theorem asRead_of_isAsRead [DecidableEq R] (config : Config I α ι S) (thread : ι)
    (checked : access.isAsRead config thread) : access.AsRead config thread := by
  intro request next pending writes
  unfold isAsRead at checked
  rw [pending] at checked
  simpa [writes] using checked

end Runs

end RowAccess

/-! ### Fields -/

section Fields

variable {R N V : Type} (field : N → R → V)

/-- One field is set, and the others are left alone. -/
def SetsField (name : N) (value : V) (before after : R) : Prop :=
  field name after = value ∧ ∀ other, other ≠ name → field other after = field other before

/-- **The fields that were set are set, and the others are as they were.** -/
structure Carries {ι : Type} (names : ι → N) (values : ι → V) (wrote : ι → Prop)
    (before after : R) : Prop where
  carried : ∀ thread, wrote thread → field (names thread) after = values thread
  untouched : ∀ name, (∀ thread, wrote thread → names thread ≠ name) →
    field name after = field name before

variable {field} {ι : Type} {names : ι → N} {values : ι → V} {wrote : ι → Prop}
  {before middle after : R}

theorem carries_nothing (none : ∀ thread, ¬ wrote thread) :
    Carries field names values wrote before before :=
  ⟨fun thread wrote => absurd wrote (none thread), fun _ _ => rfl⟩

/-- **One more field is set.**  The fields of different threads are different. -/
theorem Carries.set (carries : Carries field names values wrote before middle)
    (distinct : Function.Injective names) {thread : ι}
    (sets : SetsField field (names thread) (values thread) middle after)
    {wrote' : ι → Prop} (grown : ∀ other, wrote' other ↔ wrote other ∨ other = thread) :
    Carries field names values wrote' before after where
  carried other written := by
    by_cases same : other = thread
    · rw [same]
      exact sets.1
    · rw [sets.2 _ fun sameName => same (distinct sameName)]
      exact carries.carried other (((grown other).mp written).resolve_right same)
  untouched name unnamed := by
    have different : name ≠ names thread :=
      (unnamed thread ((grown thread).mpr (.inr rfl))).symm
    rw [sets.2 name different]
    exact carries.untouched name fun other written =>
      unnamed other ((grown other).mpr (.inl written))

theorem Carries.congr (carries : Carries field names values wrote before after)
    {wrote' : ι → Prop} (same : ∀ thread, wrote' thread ↔ wrote thread) :
    Carries field names values wrote' before after :=
  ⟨fun thread written => carries.carried thread ((same thread).mp written),
    fun name unnamed => carries.untouched name fun thread written =>
      unnamed thread ((same thread).mpr written)⟩

end Fields

/-! ### Runs -/

namespace RowAccess

variable {I : Interface} {S : Type u} {R N V α ι : Type} [DecidableEq ι]
  {access : RowAccess I S R} {serve : Serve I S} {harmless : I.Call → Prop} {field : N → R → V}
  {names : ι → N} {values : ι → V} {post : ι → α → RowKnown R → Prop}
  {start config : Config I α ι S}

/-- **No field is lost.**  The induction is on the steps; a write makes of the row what it should
make of the row that was found, and this is the row that it finds. -/
theorem carries_of_reachable (distinct : Function.Injective names) (fresh : start.log = [])
    (leaves : ∀ request state, harmless request →
      access.row (serve request state).2 = access.row state)
    (changes : ∀ request change state, access.writes request = some change →
      access.row (serve request state).2 = change (access.row state))
    (obeys : ∀ thread, (start.threads thread).Obeys
      (access.discipline harmless (SetsField field (names thread) (values thread)))
      (post thread) ⟨none, false⟩)
    (reachable : Reachable serve access.AsRead start config) :
    Carries field names values
      (fun thread => (access.known (config.history thread)).wrote = true)
      (access.row start.shared) (access.row config.shared) := by
  refine reachable.invariant (fun config => Carries field names values
    (fun thread => (access.known (config.history thread)).wrote = true)
    (access.row start.shared) (access.row config.shared)) (carries_nothing fun thread => ?_) ?_
  · simp [known, Config.history, fresh]
  rintro config config' thread reached carries asRead ⟨pending⟩
  rename_i request next
  have permitted := reached.obeys fresh (obeys thread)
  rw [pending] at permitted
  have wroteSelf : (access.known ((config.answer serve thread request next).history thread)).wrote =
      ((access.known (config.history thread)).wrote || (access.writes request).isSome) := by
    rw [history_answer_self, known, List.foldl_append]
    rfl
  have wroteOther (other : ι) (different : other ≠ thread) :
      (access.known ((config.answer serve thread request next).history other)).wrote =
        (access.known (config.history other)).wrote := by
    rw [history_answer_ne different]
  rcases permitted.1 with ⟨isHarmless, writesNone⟩ | ⟨-, change, before, writes, found, sets⟩
  · show Carries field names values _ _ (access.row (serve request config.shared).2)
    rw [leaves request config.shared isHarmless]
    refine carries.congr fun other => ?_
    by_cases same : other = thread
    · rw [same, wroteSelf, writesNone]
      simp
    · rw [wroteOther other same]
  · -- the row that was found is the row that is there
    have isRow := asRead request next pending (by rw [writes]; rfl)
    obtain rfl := Option.some.inj (found.symm.trans isRow)
    rw [← changes request change config.shared writes] at sets
    refine carries.set distinct sets fun other => ?_
    by_cases same : other = thread
    · rw [same, wroteSelf, writes]
      simp
    · rw [wroteOther other same]
      simp [same]

end RowAccess

end Interaction
