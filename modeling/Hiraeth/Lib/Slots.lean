import Hiraeth.Lib.SortedMap
import Mathlib.Data.List.Basic

/-!
# Two ways to read a sequence of named values

A sequence of names with values can be grouped by name, or it can be visited in its order,
each declared name filling a slot of its own that must still be free.  Where the visitor
succeeds, its slots hold the first values of the groups.

## Main definitions

* `Slots.group`, `Slots.first` — the values of each name in their order, and the first
* `Slots.visit` — the visitor

## Main results

* `Slots.first_group` — the first value of a name is that of its first pair
* `Slots.lookup_visit` — a slot holds the first value of its name
* `Slots.visit_eq_ok_iff` — the visitor succeeds when no declared name comes twice
-/

universe u v

namespace Slots

variable {κ : Type u} {ν : Type v} [LinearOrder κ]

/-! ### Grouping -/

/-- Append a value to those of its name. -/
def push (groups : SortedMap κ (List ν)) (pair : κ × ν) : SortedMap κ (List ν) :=
  groups.insert pair.1 ((groups.get? pair.1).getD [] ++ [pair.2])

/-- The values of each name, in their order. -/
def group (pairs : List (κ × ν)) : SortedMap κ (List ν) := pairs.foldl push .empty

/-- The first value of a name. -/
def first (groups : SortedMap κ (List ν)) (name : κ) : Option ν :=
  (groups.get? name).bind List.head?

/-- The first value given for a name in a sequence. -/
def firstOf (pairs : List (κ × ν)) (name : κ) : Option ν :=
  (pairs.find? fun pair => pair.1 = name).map Prod.snd

theorem firstOf_cons (pair : κ × ν) (pairs : List (κ × ν)) (name : κ) :
    firstOf (pair :: pairs) name = if pair.1 = name then some pair.2 else firstOf pairs name := by
  unfold firstOf
  rw [List.find?_cons]
  by_cases same : pair.1 = name
  · simp [same]
  · simp [same]

theorem firstOf_append (before after : List (κ × ν)) (name : κ) :
    firstOf (before ++ after) name = (firstOf before name).or (firstOf after name) := by
  unfold firstOf
  rw [List.find?_append]
  cases before.find? fun pair => pair.1 = name <;> rfl

theorem firstOf_singleton (pair : κ × ν) (name : κ) :
    firstOf [pair] name = if pair.1 = name then some pair.2 else none := by
  rw [firstOf_cons]
  rfl

/-- A group that has a first value keeps it. -/
theorem first_push (groups : SortedMap κ (List ν)) (pair : κ × ν) (name : κ) :
    first (push groups pair) name = (first groups name).or (firstOf [pair] name) := by
  unfold first push
  rw [SortedMap.get?_insert, firstOf_singleton]
  by_cases same : name = pair.1
  · subst same
    rw [if_pos rfl, if_pos rfl]
    cases groups.get? pair.1 with
    | none => rfl
    | some values => cases values <;> rfl
  · rw [if_neg same, if_neg (Ne.symm same), Option.or_none]

/-- **The first value of a name is that of its first pair.** -/
theorem first_group (pairs : List (κ × ν)) (name : κ) :
    first (group pairs) name = firstOf pairs name := by
  have folded (groups : SortedMap κ (List ν)) :
      first (pairs.foldl push groups) name = (first groups name).or (firstOf pairs name) := by
    induction pairs generalizing groups with
    | nil => exact Option.or_none.symm
    | cons pair pairs inductionHypothesis =>
        rw [List.foldl_cons, inductionHypothesis, first_push, Option.or_assoc, ← firstOf_append]
        rfl
  exact folded .empty

/-! ### Visiting -/

/-- What a visitor has seen: the slots that are filled, in the order in which they were, and
the pairs that fill none. -/
structure Visited (κ : Type u) (ν : Type v) where
  filled : List (κ × ν)
  others : List (κ × ν)

/-- Visit the pairs in their order.  A slot is filled once; a name that comes again is an
error. -/
def visit (declared : List κ) : Visited κ ν → List (κ × ν) → Except κ (Visited κ ν)
  | visited, [] => .ok visited
  | visited, pair :: rest =>
      if pair.1 ∈ declared then
        if (firstOf visited.filled pair.1).isSome then .error pair.1
        else visit declared { visited with filled := visited.filled ++ [pair] } rest
      else visit declared { visited with others := visited.others ++ [pair] } rest

variable {declared : List κ}

/-- **A slot holds the first value of its name**, and the other pairs are those whose names
are not declared. -/
theorem lookup_visit {pairs : List (κ × ν)} {before after : Visited κ ν}
    (visited : visit declared before pairs = .ok after) :
    (∀ name ∈ declared,
      firstOf after.filled name = (firstOf before.filled name).or (firstOf pairs name)) ∧
    after.others = before.others ++ pairs.filter fun pair => pair.1 ∉ declared := by
  induction pairs generalizing before with
  | nil =>
      cases visited
      refine ⟨?_, (List.append_nil _).symm⟩
      intro name _
      exact Option.or_none.symm
  | cons pair pairs inductionHypothesis =>
      unfold visit at visited
      by_cases isDeclared : pair.1 ∈ declared
      · rw [if_pos isDeclared] at visited
        by_cases again : (firstOf before.filled pair.1).isSome = true
        · rw [if_pos again] at visited
          cases visited
        · rw [if_neg again] at visited
          obtain ⟨slots, others⟩ := inductionHypothesis visited
          refine ⟨?_, ?_⟩
          · intro name member
            rw [slots name member, firstOf_append, Option.or_assoc, ← firstOf_append]
            rfl
          · rw [others, List.filter_cons_of_neg (by simpa using isDeclared)]
      · rw [if_neg isDeclared] at visited
        obtain ⟨slots, others⟩ := inductionHypothesis visited
        refine ⟨?_, ?_⟩
        · intro name member
          have other : pair.1 ≠ name := by
            rintro rfl
            exact isDeclared member
          rw [slots name member, firstOf_cons, if_neg other]
        · rw [others, List.filter_cons_of_pos (by simpa using isDeclared), List.append_assoc]
          rfl

/-- **The visitor succeeds exactly when no declared name comes twice.** -/
theorem visit_eq_ok_iff {pairs : List (κ × ν)} {before : Visited κ ν} :
    (∃ after, visit declared before pairs = .ok after) ↔
      ((pairs.filter fun pair => pair.1 ∈ declared).map Prod.fst).Nodup ∧
      ∀ pair ∈ pairs, pair.1 ∈ declared → firstOf before.filled pair.1 = none := by
  induction pairs generalizing before with
  | nil => simp [visit]
  | cons pair pairs inductionHypothesis =>
      unfold visit
      by_cases isDeclared : pair.1 ∈ declared
      · rw [if_pos isDeclared, List.filter_cons_of_pos (by simpa using isDeclared), List.map_cons,
          List.nodup_cons]
        by_cases again : (firstOf before.filled pair.1).isSome = true
        · rw [if_pos again]
          constructor
          · rintro ⟨after, impossible⟩
            cases impossible
          · rintro ⟨-, free⟩
            rw [free pair List.mem_cons_self isDeclared] at again
            cases again
        · rw [if_neg again, inductionHypothesis]
          have free : firstOf before.filled pair.1 = none := by simpa using again
          simp only [firstOf_append, firstOf_singleton, Option.or_eq_none_iff, ite_eq_right_iff,
            reduceCtorEq, imp_false, List.mem_map, List.mem_filter, decide_eq_true_eq,
            List.mem_cons, forall_eq_or_imp]
          constructor
          · rintro ⟨once, apart⟩
            refine ⟨⟨?_, once⟩, fun _ => free, ?_⟩
            · rintro ⟨later, ⟨member, isDeclared'⟩, same⟩
              exact (apart later member isDeclared').2 same.symm
            · intro later member isDeclared'
              exact (apart later member isDeclared').1
          · rintro ⟨⟨absent, once⟩, -, free'⟩
            refine ⟨once, ?_⟩
            intro later member isDeclared'
            refine ⟨free' later member isDeclared', ?_⟩
            intro same
            exact absent ⟨later, ⟨member, isDeclared'⟩, same.symm⟩
      · rw [if_neg isDeclared, inductionHypothesis,
          List.filter_cons_of_neg (by simpa using isDeclared)]
        simp only [List.mem_cons, forall_eq_or_imp, isDeclared, IsEmpty.forall_iff, true_and]

end Slots
