import Mathlib.Data.List.Basic

/-!
# Separated sequences

Many wire formats glue pieces together with a separator and rely on the pieces
being free of it.  This module collects the two facts such formats need: where
the first separator falls in a sequence, and when gluing loses no information.

## Main definitions

* `splitFirst` — the parts before and after the first separator
* `cutAt` — the parts before and after the first occurrence of a whole needle

## Main results

* `cutAt_eq_some`, `cutAt_eq_none` — the first occurrence, and that there is none
* `occurrences_disjoint` — occurrences of needles that do not overlap
* `append_cons_inj` — a free prefix is determined by the glued sequence
* `append_cons_inj_right` — and so is a free suffix
* `intercalate_inj` — so is a nonempty list of free pieces
* `intercalate_inj_of_nonempty` — and a list of free nonempty pieces, empty or not
-/

namespace Separated

universe u

variable {α : Type u} [DecidableEq α]

/-! ### The first separator -/

/-- The parts before and after the first `x`, if there is one. -/
def splitFirst (x : α) : List α → Option (List α × List α)
  | [] => none
  | a :: l =>
      if a = x then some ([], l)
      else (splitFirst x l).map fun parts => (a :: parts.1, parts.2)

@[simp]
theorem splitFirst_nil (x : α) : splitFirst x [] = none := rfl

@[simp]
theorem splitFirst_cons_self (x : α) (l : List α) :
    splitFirst x (x :: l) = some ([], l) := by
  simp [splitFirst]

theorem splitFirst_cons_ne {a x : α} (different : a ≠ x) (l : List α) :
    splitFirst x (a :: l) =
      (splitFirst x l).map fun parts => (a :: parts.1, parts.2) := by
  simp [splitFirst, different]

/-- No split means no separator. -/
theorem splitFirst_eq_none {x : α} {l : List α} :
    splitFirst x l = none ↔ x ∉ l := by
  induction l with
  | nil => simp
  | cons a l inductionHypothesis =>
      by_cases equal : a = x
      · subst equal
        simp
      · have swapped : x ≠ a := fun h => equal h.symm
        simp [splitFirst_cons_ne equal, inductionHypothesis, swapped]

/-- A split is exactly a decomposition around a separator whose left part is
free of it. -/
theorem splitFirst_eq_some {x : α} {l before after : List α} :
    splitFirst x l = some (before, after) ↔
      l = before ++ x :: after ∧ x ∉ before := by
  induction l generalizing before with
  | nil => simp
  | cons a l inductionHypothesis =>
      by_cases equal : a = x
      · subst equal
        rw [splitFirst_cons_self]
        constructor
        · intro h
          obtain ⟨rfl, rfl⟩ := Prod.mk.inj (Option.some.inj h)
          simp
        · rintro ⟨decomposition, free⟩
          cases before with
          | nil => simpa using decomposition
          | cons b before =>
              obtain ⟨rfl, -⟩ := List.cons.inj decomposition
              simp at free
      · rw [splitFirst_cons_ne equal]
        simp only [Option.map_eq_some_iff, Prod.mk.injEq, Prod.exists]
        constructor
        · rintro ⟨left, right, split, rfl, rfl⟩
          obtain ⟨rfl, free⟩ := inductionHypothesis.mp split
          exact ⟨rfl, by simp [free, Ne.symm equal]⟩
        · rintro ⟨decomposition, free⟩
          cases before with
          | nil => exact absurd (List.cons.inj decomposition).1 equal
          | cons b before =>
              obtain ⟨rfl, rfl⟩ := List.cons.inj decomposition
              refine ⟨before, after, ?_, rfl, rfl⟩
              exact inductionHypothesis.mpr
                ⟨rfl, fun member => free (List.mem_cons_of_mem _ member)⟩

/-- The split of a sequence whose first separator is in plain sight. -/
theorem splitFirst_append {x : α} {before : List α} (free : x ∉ before)
    (after : List α) :
    splitFirst x (before ++ x :: after) = some (before, after) :=
  splitFirst_eq_some.mpr ⟨rfl, free⟩

/-! ### The first occurrence of a needle -/

/-- The parts before and after the first occurrence of `needle`, if there is
one. -/
def cutAt (needle : List α) : List α → Option (List α × List α)
  | [] => if needle = [] then some ([], []) else none
  | a :: l =>
      if needle <+: a :: l then some ([], (a :: l).drop needle.length)
      else (cutAt needle l).map fun parts => (a :: parts.1, parts.2)

/-- No cut means that the needle occurs nowhere. -/
theorem cutAt_eq_none {needle l : List α} : cutAt needle l = none ↔ ¬ needle <:+: l := by
  induction l with
  | nil => simp [cutAt]
  | cons a l inductionHypothesis =>
      unfold cutAt
      by_cases here : needle <+: a :: l
      · simp [here, here.isInfix]
      · rw [if_neg here, Option.map_eq_none_iff, inductionHypothesis, List.infix_cons_iff]
        simp [here]

/-- A cut is a decomposition around the needle, and no decomposition has a
shorter left part. -/
theorem cutAt_eq_some {needle l before after : List α} :
    cutAt needle l = some (before, after) ↔
      l = before ++ needle ++ after ∧
        ∀ before' after', l = before' ++ needle ++ after' → before.length ≤ before'.length := by
  induction l generalizing before with
  | nil =>
      by_cases empty : needle = []
      · subst empty
        simp only [cutAt, if_true, Option.some.injEq, Prod.mk.injEq]
        constructor
        · rintro ⟨rfl, rfl⟩
          simp
        · rintro ⟨decomposition, -⟩
          simpa using decomposition.symm
      · simp [cutAt, empty]
  | cons a l inductionHypothesis =>
      unfold cutAt
      by_cases here : needle <+: a :: l
      · obtain ⟨rest, glued⟩ := here
        rw [if_pos ⟨rest, glued⟩, ← glued, List.drop_left]
        constructor
        · intro cut
          obtain ⟨rfl, rfl⟩ := Prod.mk.inj (Option.some.inj cut)
          simp
        · rintro ⟨decomposition, least⟩
          have short : before.length ≤ 0 := least [] rest (by simp)
          obtain rfl : before = [] := List.length_eq_zero_iff.mp (Nat.le_zero.mp short)
          simpa using decomposition
      · rw [if_neg here]
        simp only [Option.map_eq_some_iff, Prod.mk.injEq, Prod.exists]
        -- every occurrence lies behind the first element
        have shifted : ∀ left right, a :: l = left ++ needle ++ right →
            ∃ left', left = a :: left' ∧ l = left' ++ needle ++ right := by
          intro left right decomposition
          cases left with
          | nil => exact absurd ⟨right, by simpa using decomposition.symm⟩ here
          | cons b left =>
              obtain ⟨rfl, rest⟩ := List.cons.inj decomposition
              exact ⟨left, rfl, rest⟩
        constructor
        · rintro ⟨left, right, cut, rfl, rfl⟩
          obtain ⟨rfl, least⟩ := inductionHypothesis.mp cut
          refine ⟨by simp, ?_⟩
          intro before' after' decomposition
          obtain ⟨left', rfl, rest⟩ := shifted before' after' decomposition
          exact Nat.succ_le_succ (least left' after' rest)
        · rintro ⟨decomposition, least⟩
          obtain ⟨left, rfl, rest⟩ := shifted before after decomposition
          refine ⟨left, after, inductionHypothesis.mpr ⟨rest, ?_⟩, rfl, rfl⟩
          intro left' right' rest'
          have longer := least (a :: left') right' (by rw [rest']; rfl)
          exact Nat.le_of_succ_le_succ longer

/-- What a cut returns is a decomposition. -/
theorem cutAt_glued {needle l before after : List α}
    (cut : cutAt needle l = some (before, after)) : l = before ++ needle ++ after :=
  (cutAt_eq_some.mp cut).1

/-- The needle does not occur before its first occurrence. -/
theorem cutAt_free {needle l before after : List α} (full : needle ≠ [])
    (cut : cutAt needle l = some (before, after)) : ¬ needle <:+: before := by
  rintro ⟨left, right, rfl⟩
  obtain ⟨decomposition, least⟩ := cutAt_eq_some.mp cut
  have shorter := least left (right ++ needle ++ after) (by rw [decomposition]; simp)
  have positive := List.length_pos_of_ne_nil full
  simp only [List.length_append] at shorter
  omega

omit [DecidableEq α] in
/-- **Occurrences that start apart do not overlap.**  The second needle starts
with an element that the first one has at most at its own start. -/
theorem occurrences_disjoint {first second : List α} {c : α}
    (alone : c ∉ first.tail) (starts : second.head? = some c)
    {before before' after after' : List α}
    (same : before ++ first ++ after = before' ++ second ++ after')
    (apart : before.length < before'.length) :
    ∃ between, before' = before ++ first ++ between ∧ after = between ++ second ++ after' := by
  obtain ⟨d, rfl⟩ : before <+: before' :=
    List.prefix_of_prefix_length_le ⟨first ++ after, by simpa using same⟩
      ⟨second ++ after', by simp⟩ (Nat.le_of_lt apart)
  have full : d ≠ [] := by
    rintro rfl
    simp at apart
  have rest : first ++ after = d ++ (second ++ after') := by simpa using same
  rcases List.append_eq_append_iff.mp rest with ⟨e, rfl, tailEqual⟩ | ⟨e, firstEqual, tailEqual⟩
  · exact ⟨e, by simp, by simpa using tailEqual⟩
  · -- the second needle would start inside the first
    cases e with
    | nil =>
        refine ⟨[], ?_, ?_⟩
        · rw [firstEqual]
          simp
        · simpa using tailEqual.symm
    | cons b e =>
        obtain ⟨x, d, rfl⟩ := List.exists_cons_of_ne_nil full
        cases second with
        | nil => simp at starts
        | cons c' second =>
            obtain rfl : c' = c := by simpa using starts
            obtain ⟨rfl, -⟩ := List.cons.inj tailEqual
            exact absurd (by rw [firstEqual]; simp) alone

omit [DecidableEq α] in
/-- A prefix free of a whole needle is determined by the sequence it starts. -/
theorem append_needle_inj {needle : List α} {c : α} (alone : c ∉ needle.tail)
    (starts : needle.head? = some c) {before before' after after' : List α}
    (free : ¬ needle <:+: before) (free' : ¬ needle <:+: before')
    (equal : before ++ needle ++ after = before' ++ needle ++ after') :
    before = before' ∧ after = after' := by
  rcases Nat.lt_trichotomy before.length before'.length with less | same | greater
  · obtain ⟨between, rfl, -⟩ := occurrences_disjoint alone starts equal less
    exact absurd ⟨before, between, rfl⟩ free'
  · rw [List.append_assoc, List.append_assoc] at equal
    obtain ⟨left, right⟩ := List.append_inj equal same
    exact ⟨left, List.append_cancel_left right⟩
  · obtain ⟨between, rfl, -⟩ := occurrences_disjoint alone starts equal.symm greater
    exact absurd ⟨before', between, rfl⟩ free

/-! ### Gluing loses nothing -/

omit [DecidableEq α] in
/-- A prefix free of the separator is determined by the sequence it starts. -/
theorem append_cons_inj {x : α} {before before' after after' : List α}
    (free : x ∉ before) (free' : x ∉ before')
    (equal : before ++ x :: after = before' ++ x :: after') :
    before = before' ∧ after = after' := by
  classical
  have split := splitFirst_append free after
  rw [equal, splitFirst_append free' after'] at split
  obtain ⟨rfl, rfl⟩ := Prod.mk.inj (Option.some.inj split)
  exact ⟨rfl, rfl⟩

omit [DecidableEq α] in
/-- Likewise for a suffix free of the separator. -/
theorem append_cons_inj_right {x : α} {before before' after after' : List α}
    (free : x ∉ after) (free' : x ∉ after')
    (equal : before ++ x :: after = before' ++ x :: after') :
    before = before' ∧ after = after' := by
  have reversed := congrArg List.reverse equal
  simp only [List.reverse_append, List.reverse_cons, List.append_assoc,
    List.singleton_append] at reversed
  obtain ⟨afterEqual, beforeEqual⟩ :=
    append_cons_inj (by simpa using free) (by simpa using free') reversed
  exact ⟨List.reverse_injective beforeEqual, List.reverse_injective afterEqual⟩

omit [DecidableEq α] in
/-- **Gluing free pieces is injective.**  A nonempty list of pieces that do not
contain the separator is determined by the glued sequence. -/
theorem intercalate_inj {x : α} {pieces pieces' : List (List α)}
    (free : ∀ piece ∈ pieces, x ∉ piece) (free' : ∀ piece ∈ pieces', x ∉ piece)
    (nonempty : pieces ≠ []) (nonempty' : pieces' ≠ [])
    (equal : [x].intercalate pieces = [x].intercalate pieces') :
    pieces = pieces' := by
  classical
  rw [← List.splitOn_intercalate x free nonempty, equal,
    List.splitOn_intercalate x free' nonempty']

omit [DecidableEq α] in
/-- Joining with one more piece at the end. -/
theorem intercalate_concat (separator : List α) {pieces : List (List α)}
    (nonempty : pieces ≠ []) (last : List α) :
    separator.intercalate (pieces ++ [last]) = separator.intercalate pieces ++ separator ++ last := by
  induction pieces with
  | nil => exact absurd rfl nonempty
  | cons piece rest inductionHypothesis =>
      cases rest with
      | nil => simp
      | cons next others =>
          rw [List.cons_append, List.cons_append, List.intercalate_cons_cons,
            ← List.cons_append, inductionHypothesis (List.cons_ne_nil _ _),
            List.intercalate_cons_cons]
          simp only [List.append_assoc]

omit [DecidableEq α] in
/-- Gluing two or more pieces, or one that is not empty, gives something. -/
theorem intercalate_ne_nil {separator : List α} {pieces : List (List α)}
    (nonempty : pieces ≠ []) (full : ∀ piece ∈ pieces, piece ≠ []) :
    separator.intercalate pieces ≠ [] := by
  cases pieces with
  | nil => exact absurd rfl nonempty
  | cons piece pieces =>
      have first : piece ≠ [] := full piece List.mem_cons_self
      cases pieces with
      | nil => simpa [List.intercalate] using first
      | cons next pieces => simp [List.intercalate, first]

omit [DecidableEq α] in
/-- With no piece empty, the empty list of pieces is told apart as well. -/
theorem intercalate_inj_of_nonempty {x : α} {pieces pieces' : List (List α)}
    (free : ∀ piece ∈ pieces, x ∉ piece) (free' : ∀ piece ∈ pieces', x ∉ piece)
    (full : ∀ piece ∈ pieces, piece ≠ []) (full' : ∀ piece ∈ pieces', piece ≠ [])
    (equal : [x].intercalate pieces = [x].intercalate pieces') :
    pieces = pieces' := by
  by_cases empty : pieces = [] <;> by_cases empty' : pieces' = []
  · rw [empty, empty']
  · rw [empty] at equal
    exact absurd equal.symm (intercalate_ne_nil empty' full')
  · rw [empty'] at equal
    exact absurd equal (intercalate_ne_nil empty full)
  · exact intercalate_inj free free' empty empty' equal

omit [DecidableEq α] in
/-- A separator other than `x` brings no `x` into the glued sequence. -/
theorem not_mem_intercalate {x : α} {separator : List α} {pieces : List (List α)}
    (outside : x ∉ separator) (free : ∀ piece ∈ pieces, x ∉ piece) :
    x ∉ separator.intercalate pieces := by
  induction pieces with
  | nil => simp [List.intercalate]
  | cons piece pieces inductionHypothesis =>
      have first : x ∉ piece := free piece List.mem_cons_self
      have rest := inductionHypothesis
        fun next member => free next (List.mem_cons_of_mem _ member)
      cases pieces with
      | nil => simpa [List.intercalate] using first
      | cons next pieces =>
          simpa [List.intercalate, first, outside] using rest

end Separated
