import Mathlib.Data.List.Basic
import Mathlib.Data.List.Nodup

/-!
# Listing page by page by offsets

Items are listed a page at a time, each page from a position on.  The items may be others at
every page.  An item that moves over the position at which the next page starts is listed twice
or not at all.  An item that does not is listed once.

## Main definitions

* `listed` — what the pages list
* `Ends` — the last page reaches the end
* `Steady`, `SteadyWalk` — no item moves over the position of the next page
* `StaysGone` — an item that is gone does not come back

## Main results

* `mem_listed_of_present` — an item that is there at every page is listed
* `nodup_listed` — no item is listed twice
-/

namespace Offsets

universe u

variable {α : Type u} {limit offset : ℕ} {contents : List (List α)}

/-- **What the pages list**, if `contents` are the items at each of them. -/
def listed (limit : ℕ) : ℕ → List (List α) → List α
  | _, [] => []
  | offset, items :: later =>
      (items.drop offset).take limit ++ listed limit (offset + limit) later

/-- The last page reaches the end of the items. -/
inductive Ends (limit : ℕ) : ℕ → List (List α) → Prop
  | last {offset : ℕ} {items : List α} (reached : items.length ≤ offset + limit) :
      Ends limit offset [items]
  | more {offset : ℕ} {items : List α} {later : List (List α)}
      (rest : Ends limit (offset + limit) later) : Ends limit offset (items :: later)

/-- No item that stays moves over a position. -/
def Steady (position : ℕ) (before after : List α) : Prop :=
  ∀ item ∈ before, item ∈ after → (item ∈ before.take position ↔ item ∈ after.take position)

instance [DecidableEq α] (position : ℕ) (before after : List α) :
    Decidable (Steady position before after) :=
  inferInstanceAs (Decidable (∀ item ∈ before, item ∈ after → _))

/-- What is added at the end moves nothing. -/
theorem steady_append {position : ℕ} {items added : List α} (enough : position ≤ items.length) :
    Steady position items (items ++ added) := by
  intro item _ _
  rw [List.take_append_of_le_length enough]

/-- **Between two pages, no item that stays moves over the position of the next page.** -/
def SteadyWalk (limit : ℕ) : ℕ → List (List α) → Prop
  | offset, before :: after :: later =>
      Steady (offset + limit) before after ∧ SteadyWalk limit (offset + limit) (after :: later)
  | _, _ => True

/-- **An item that is gone does not come back.** -/
def StaysGone : List (List α) → Prop
  | before :: after :: later =>
      (∀ item ∈ before, item ∉ after → ∀ items ∈ later, item ∉ items) ∧
        StaysGone (after :: later)
  | _ => True

/-- Only what is there is listed. -/
theorem exists_of_mem_listed {item : α} (member : item ∈ listed limit offset contents) :
    ∃ items ∈ contents, item ∈ items := by
  induction contents generalizing offset with
  | nil => exact absurd member List.not_mem_nil
  | cons items later inductionHypothesis =>
      rw [listed, List.mem_append] at member
      rcases member with here | further
      · exact ⟨items, List.mem_cons_self, List.mem_of_mem_drop (List.mem_of_mem_take here)⟩
      · obtain ⟨others, isLater, isItem⟩ := inductionHypothesis further
        exact ⟨others, List.mem_cons_of_mem _ isLater, isItem⟩

/-- An item is in front of a position, on the page that starts there, or behind the page. -/
theorem mem_take_add {items : List α} {item : α} :
    item ∈ items.take (offset + limit) ↔
      item ∈ items.take offset ∨ item ∈ (items.drop offset).take limit := by
  rw [List.take_add, List.mem_append]

/-- **An item that is there at every page is listed.**  It is not in front of the first page, and
as long as it is not listed it stays behind the next position. -/
theorem mem_listed_of_present (ends : Ends limit offset contents)
    (steady : SteadyWalk limit offset contents) {item : α}
    (present : ∀ items ∈ contents, item ∈ items)
    (ahead : ∀ items ∈ contents.head?, item ∉ items.take offset) :
    item ∈ listed limit offset contents := by
  induction ends with
  | @last offset items reached =>
      have isItem := present items List.mem_cons_self
      rw [← List.take_of_length_le reached, mem_take_add] at isItem
      rw [listed, listed, List.append_nil]
      exact isItem.resolve_left (ahead items rfl)
  | @more offset items later rest inductionHypothesis =>
      rw [listed, List.mem_append]
      by_cases shown : item ∈ (items.drop offset).take limit
      · exact .inl shown
      right
      have behind : item ∉ items.take (offset + limit) := by
        rw [mem_take_add]
        rintro (front | here)
        · exact ahead items rfl front
        · exact shown here
      cases later with
      | nil => cases rest
      | cons after later =>
          obtain ⟨stays, steadyRest⟩ := steady
          refine inductionHypothesis steadyRest
            (fun others isLater => present others (List.mem_cons_of_mem _ isLater)) ?_
          rintro _ ⟨⟩
          have isBefore := present items List.mem_cons_self
          have isAfter := present after (List.mem_cons_of_mem _ List.mem_cons_self)
          exact fun front => behind ((stays item isBefore isAfter).mpr front)

/-- An item in front of the first page, or gone, is not listed any more. -/
theorem not_mem_listed (once : ∀ items ∈ contents, items.Nodup)
    (steady : SteadyWalk limit offset contents) (staysGone : StaysGone contents) {item : α}
    (behind : ∀ items ∈ contents.head?,
      item ∈ items.take offset ∨ ∀ others ∈ contents, item ∉ others) :
    item ∉ listed limit offset contents := by
  induction contents generalizing offset with
  | nil => exact List.not_mem_nil
  | cons items later inductionHypothesis =>
      rcases behind items rfl with front | gone
      swap
      · rintro member
        obtain ⟨others, isContent, isItem⟩ := exists_of_mem_listed member
        exact gone others isContent isItem
      rw [listed, List.mem_append]
      rintro (here | further)
      · -- the item is in front of the page, and nothing is there twice
        have split := once items List.mem_cons_self
        rw [← List.take_append_drop offset items] at split
        exact (List.nodup_append'.mp split).2.2 front (List.mem_of_mem_take here)
      · cases later with
        | nil => exact absurd further List.not_mem_nil
        | cons after later =>
            obtain ⟨stays, steadyRest⟩ := steady
            obtain ⟨leaves, staysGoneRest⟩ := staysGone
            refine inductionHypothesis
              (fun others isLater => once others (List.mem_cons_of_mem _ isLater))
              steadyRest staysGoneRest ?_ further
            rintro _ ⟨⟩
            have isBefore := List.mem_of_mem_take front
            by_cases isAfter : item ∈ after
            · exact .inl ((stays item isBefore isAfter).mp (mem_take_add.mpr (.inl front)))
            · refine .inr fun others isLater => ?_
              rcases List.mem_cons.mp isLater with rfl | isLater
              · exact isAfter
              · exact leaves item isBefore isAfter others isLater

/-- **No item is listed twice.** -/
theorem nodup_listed (once : ∀ items ∈ contents, items.Nodup)
    (steady : SteadyWalk limit offset contents) (staysGone : StaysGone contents) :
    (listed limit offset contents).Nodup := by
  induction contents generalizing offset with
  | nil => exact List.nodup_nil
  | cons items later inductionHypothesis =>
      have onceLater : ∀ others ∈ later, others.Nodup :=
        fun others isLater => once others (List.mem_cons_of_mem _ isLater)
      have page : ((items.drop offset).take limit).Nodup :=
        (once items List.mem_cons_self).sublist
          ((List.take_sublist _ _).trans (List.drop_sublist _ _))
      rw [listed]
      cases later with
      | nil => simpa [listed] using page
      | cons after later =>
          obtain ⟨stays, steadyRest⟩ := steady
          obtain ⟨leaves, staysGoneRest⟩ := staysGone
          refine List.nodup_append'.mpr
            ⟨page, inductionHypothesis onceLater steadyRest staysGoneRest, ?_⟩
          intro item here
          have isBefore := List.mem_of_mem_drop (List.mem_of_mem_take here)
          refine not_mem_listed onceLater steadyRest staysGoneRest ?_
          rintro _ ⟨⟩
          by_cases isAfter : item ∈ after
          · exact .inl ((stays item isBefore isAfter).mp (mem_take_add.mpr (.inr here)))
          · refine .inr fun others isLater => ?_
            rcases List.mem_cons.mp isLater with rfl | isLater
            · exact isAfter
            · exact leaves item isBefore isAfter others isLater

end Offsets
