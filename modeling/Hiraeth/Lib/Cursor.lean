import Mathlib.Data.List.Basic
import Mathlib.Data.Set.Basic
import Mathlib.Order.Basic

/-!
# Listing page by page behind a cursor

Keys that come and go are listed in ascending order, a page at a time.  A page starts
behind the last key of the page before it, and not at a position, so whatever is
added or taken away between two pages moves nothing that is still to be listed.

## Main definitions

* `Beyond` — the keys behind a cursor
* `Page`, `Page.Follows` — a page, and what it lists behind a cursor
* `Walk` — pages from a cursor to the end
* `pageOf` — a page cut off at a limit

## Main results

* `follows_pageOf` — a page that is cut off at a limit is a page behind the cursor
* `Walk.ascending` — a walk lists its keys in ascending order, and none twice
* `Walk.mem_of_present` — it lists every key that was present in every page
-/

namespace Cursor

universe u

variable {α : Type u} [LinearOrder α]

/-- A key behind a cursor.  Every key is behind no cursor. -/
def Beyond (cursor : Option α) (key : α) : Prop :=
  ∀ last ∈ cursor, last < key

theorem beyond_none {key : α} : Beyond none key :=
  fun last isLast => absurd isLast (Option.not_mem_none last)

/-- A page: the keys that are present when it is taken, the keys it lists, and the
cursor behind which to continue. -/
structure Page (α : Type u) where
  present : Set α
  keys : List α
  next : Option α

/-- **A page lists the keys behind a cursor**, up to where it continues. -/
structure Page.Follows (page : Page α) (cursor : Option α) : Prop where
  ascending : page.keys.Pairwise fun left right => left < right
  sound : ∀ key ∈ page.keys, key ∈ page.present ∧ Beyond cursor key
  complete : ∀ key ∈ page.present, Beyond cursor key → key ∈ page.keys ∨ Beyond page.next key ∧
    page.next.isSome
  last : ∀ next ∈ page.next, next ∈ page.keys ∧ ∀ key ∈ page.keys, key ≤ next
  more : ∀ next ∈ page.next, ∃ key ∈ page.present, next < key

/-! ### A page that is cut off -/

/-- The page of some keys that is cut off at a limit. -/
def pageOf (present : Set α) (limit : ℕ) (keys : List α) : Page α where
  present := present
  keys := keys.take limit
  next := if limit < keys.length then (keys.take limit).getLast? else none

/-- The last of some ascending keys is one of them, and the largest. -/
theorem le_getLast {keys : List α} (ascending : keys.Pairwise fun left right => left < right)
    {next : α} (isLast : keys.getLast? = some next) :
    next ∈ keys ∧ ∀ key ∈ keys, key ≤ next := by
  obtain ⟨front, rfl⟩ := List.getLast?_eq_some_iff.mp isLast
  refine ⟨List.mem_append_right front List.mem_cons_self, fun key member => ?_⟩
  rcases List.mem_append.mp member with before | itself
  · exact le_of_lt ((List.pairwise_append.mp ascending).2.2 key before next List.mem_cons_self)
  · exact le_of_eq (List.mem_singleton.mp itself)

/-- **A page that is cut off at a limit lists the keys behind the cursor.** -/
theorem follows_pageOf {present : Set α} {cursor : Option α} {limit : ℕ} {keys : List α}
    (positive : 0 < limit) (ascending : keys.Pairwise fun left right => left < right)
    (listed : ∀ key, key ∈ keys ↔ key ∈ present ∧ Beyond cursor key) :
    (pageOf present limit keys).Follows cursor := by
  have sound : ∀ key ∈ keys.take limit, key ∈ present ∧ Beyond cursor key :=
    fun key member => (listed key).mp (List.mem_of_mem_take member)
  have taken : (keys.take limit).Pairwise fun left right => left < right :=
    ascending.sublist (List.take_sublist limit keys)
  unfold pageOf
  by_cases cut : limit < keys.length
  · rw [if_pos cut]
    have nonempty : keys.take limit ≠ [] := by
      rw [← List.length_pos_iff, List.length_take]
      omega
    obtain ⟨next, isLast⟩ : ∃ next, (keys.take limit).getLast? = some next :=
      ⟨_, List.getLast?_eq_some_getLast nonempty⟩
    obtain ⟨inPage, largest⟩ := le_getLast taken isLast
    -- what is cut off lies behind the last key of the page
    have behind : ∀ key ∈ keys.drop limit, next < key := by
      rw [← List.take_append_drop limit keys] at ascending
      exact (List.pairwise_append.mp ascending).2.2 next inPage
    rw [isLast]
    refine ⟨taken, sound, fun key isPresent beyond => ?_, ?_, ?_⟩
    · have member := (listed key).mpr ⟨isPresent, beyond⟩
      rw [← List.take_append_drop limit keys] at member
      rcases List.mem_append.mp member with here | later
      · exact Or.inl here
      · refine Or.inr ⟨?_, rfl⟩
        rintro _ ⟨⟩
        exact behind key later
    · rintro _ ⟨⟩
      exact ⟨inPage, largest⟩
    · rintro _ ⟨⟩
      obtain ⟨key, later⟩ := List.exists_mem_of_ne_nil (keys.drop limit) (by
        rw [← List.length_pos_iff, List.length_drop]
        omega)
      exact ⟨key, ((listed key).mp (List.mem_of_mem_drop later)).1, behind key later⟩
  · rw [if_neg cut]
    refine ⟨taken, sound, fun key isPresent beyond => Or.inl ?_, ?_, ?_⟩
    · rw [List.take_of_length_le (not_lt.mp cut)]
      exact (listed key).mpr ⟨isPresent, beyond⟩
    · rintro _ ⟨⟩
    · rintro _ ⟨⟩

/-! ### A walk -/

/-- **Pages from a cursor to the end.** -/
inductive Walk : Option α → List (Page α) → Prop
  | last {cursor : Option α} {page : Page α} (follows : page.Follows cursor)
      (ends : page.next = none) : Walk cursor [page]
  | more {cursor : Option α} {page : Page α} {next : α} {pages : List (Page α)}
      (follows : page.Follows cursor) (continues : page.next = some next)
      (rest : Walk (some next) pages) : Walk cursor (page :: pages)

/-- Every page of a walk lists the keys behind some cursor. -/
theorem Walk.follows {cursor : Option α} {pages : List (Page α)} (walk : Walk cursor pages) :
    ∀ page ∈ pages, ∃ cursor, page.Follows cursor := by
  induction walk with
  | last follows ends =>
      intro page member
      exact List.mem_singleton.mp member ▸ ⟨_, follows⟩
  | more follows continues rest inductionHypothesis =>
      intro page member
      rcases List.mem_cons.mp member with rfl | later
      · exact ⟨_, follows⟩
      · exact inductionHypothesis page later

/-- The keys of some pages, in order. -/
def keysOf (pages : List (Page α)) : List α :=
  pages.flatMap Page.keys

variable {cursor : Option α} {pages : List (Page α)}

/-- Everything that is listed lies behind the cursor. -/
theorem Walk.beyond (walk : Walk cursor pages) : ∀ key ∈ keysOf pages, Beyond cursor key := by
  induction walk with
  | last follows ends =>
      intro key member
      obtain ⟨page, isPage, own⟩ := List.mem_flatMap.mp member
      obtain rfl := List.mem_singleton.mp isPage
      exact (follows.sound key own).2
  | @more cursor page next pages follows continues rest inductionHypothesis =>
      intro key member
      obtain ⟨inPage, own⟩ := follows.last next continues
      rcases List.mem_append.mp member with here | later
      · exact (follows.sound key here).2
      · intro last isLast
        exact lt_trans ((follows.sound next inPage).2 last isLast)
          (inductionHypothesis key later next rfl)

/-- **A walk lists its keys in ascending order**, so it lists none twice. -/
theorem Walk.ascending (walk : Walk cursor pages) :
    (keysOf pages).Pairwise fun left right => left < right := by
  induction walk with
  | last follows ends =>
      rw [keysOf, List.flatMap_singleton]
      exact follows.ascending
  | @more cursor page next pages follows continues rest inductionHypothesis =>
      refine List.pairwise_append.mpr ⟨follows.ascending, inductionHypothesis, ?_⟩
      intro left inPage right later
      exact lt_of_le_of_lt ((follows.last next continues).2 left inPage)
        (rest.beyond right later next rfl)

/-- **A walk lists every key behind the cursor that was present in every page.** -/
theorem Walk.mem_of_present (walk : Walk cursor pages) {key : α}
    (present : ∀ page ∈ pages, key ∈ page.present) (beyond : Beyond cursor key) :
    key ∈ keysOf pages := by
  induction walk with
  | last follows ends =>
      rcases follows.complete key (present _ List.mem_cons_self) beyond with here | ⟨-, isSome⟩
      · rw [keysOf, List.flatMap_singleton]
        exact here
      · rw [ends] at isSome
        cases isSome
  | @more cursor page next pages follows continues rest inductionHypothesis =>
      rcases follows.complete key (present _ List.mem_cons_self) beyond with here | ⟨later, -⟩
      · exact List.mem_append_left _ here
      · rw [continues] at later
        exact List.mem_append_right _ (inductionHypothesis
          (fun other member => present other (List.mem_cons_of_mem _ member)) later)

end Cursor
