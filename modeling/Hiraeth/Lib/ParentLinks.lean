import Mathlib.Logic.Relation
import Mathlib.Order.WellFounded

/-!
# Parent links

Nodes each of which names at most one parent.  The depth of a node is found by following
the links, without a memory of the nodes that were visited.

## Main definitions

* `IsParent` — one node is the parent of another
* `depth` — the depth of a node, following at most as many links as there is fuel
* `Ends` — following the links from a node ends

## Main results

* `ends_iff_acc` — following the links ends exactly at the accessible nodes
* `depth_of_rank` — links that go down in some rank end, within the rank of the node
* `depth_isParent` — a node is one deeper than its parent
-/

universe u

namespace ParentLinks

variable {Node : Type u} {parent : Node → Option Node}

/-- `above` is the parent of `below`. -/
def IsParent (parent : Node → Option Node) (above below : Node) : Prop :=
  parent below = some above

/-- The depth of a node: a node without parent has depth one, and any other is one deeper
than its parent.  Without fuel there is no answer. -/
def depth (parent : Node → Option Node) : ℕ → Node → Option ℕ
  | 0, _ => none
  | fuel + 1, node =>
      match parent node with
      | none => some 1
      | some above => (depth parent fuel above).map (· + 1)

/-- Following the links from this node ends. -/
def Ends (parent : Node → Option Node) (node : Node) : Prop :=
  ∃ fuel, (depth parent fuel node).isSome

theorem depth_of_root {node : Node} (isRoot : parent node = none) (fuel : ℕ) :
    depth parent (fuel + 1) node = some 1 := by
  rw [depth, isRoot]

theorem depth_of_isParent {above below : Node} (isParent : IsParent parent above below)
    (fuel : ℕ) : depth parent (fuel + 1) below = (depth parent fuel above).map (· + 1) := by
  show depth parent (fuel + 1) below = _
  rw [depth, show parent below = some above from isParent]

/-- **Following the links ends exactly at the accessible nodes.** -/
theorem ends_iff_acc {node : Node} : Ends parent node ↔ Acc (IsParent parent) node := by
  constructor
  · rintro ⟨fuel, ends⟩
    induction fuel generalizing node with
    | zero => cases ends
    | succ fuel inductionHypothesis =>
        refine Acc.intro node fun above isParent => inductionHypothesis ?_
        rw [depth_of_isParent isParent, Option.isSome_map] at ends
        exact ends
  · intro accessible
    induction accessible with
    | intro node _ inductionHypothesis =>
        cases linked : parent node with
        | none => exact ⟨1, by rw [depth_of_root linked]; rfl⟩
        | some above =>
            obtain ⟨fuel, ends⟩ := inductionHypothesis above linked
            refine ⟨fuel + 1, ?_⟩
            rw [depth_of_isParent linked, Option.isSome_map]
            exact ends

/-- A node that is its own parent has no depth. -/
theorem depth_of_own_parent {node : Node} (loop : IsParent parent node node) (fuel : ℕ) :
    depth parent fuel node = none := by
  induction fuel with
  | zero => rfl
  | succ fuel inductionHypothesis => rw [depth_of_isParent loop, inductionHypothesis]; rfl

/-- **Links that go down in some rank end, within the rank of the node.** -/
theorem depth_of_rank (rank : Node → ℕ)
    (descends : ∀ above below, IsParent parent above below → rank above < rank below)
    {fuel : ℕ} {node : Node} (enough : rank node < fuel) :
    ∃ level, depth parent fuel node = some level := by
  induction fuel generalizing node with
  | zero => omega
  | succ fuel inductionHypothesis =>
      cases linked : parent node with
      | none => exact ⟨1, depth_of_root linked fuel⟩
      | some above =>
          have lower := descends above node linked
          obtain ⟨level, found⟩ := @inductionHypothesis above (by omega)
          exact ⟨level + 1, by rw [depth_of_isParent linked, found]; rfl⟩

/-- More fuel does not change a depth. -/
theorem depth_succ {fuel : ℕ} {node : Node} {level : ℕ}
    (found : depth parent fuel node = some level) :
    depth parent (fuel + 1) node = some level := by
  induction fuel generalizing node level with
  | zero => cases found
  | succ fuel inductionHypothesis =>
      cases linked : parent node with
      | none =>
          rw [depth_of_root linked] at found ⊢
          exact found
      | some above =>
          rw [depth_of_isParent linked] at found ⊢
          obtain ⟨lower, isLower, rfl⟩ := Option.map_eq_some_iff.mp found
          rw [inductionHypothesis isLower]
          rfl

/-- **A node is one deeper than its parent.** -/
theorem depth_isParent {fuel : ℕ} {above below : Node} {level : ℕ}
    (isParent : IsParent parent above below)
    (found : depth parent fuel below = some level) :
    ∃ lower, depth parent fuel above = some lower ∧ level = lower + 1 := by
  cases fuel with
  | zero => cases found
  | succ fuel =>
      rw [depth_of_isParent isParent] at found
      obtain ⟨lower, isLower, rfl⟩ := Option.map_eq_some_iff.mp found
      exact ⟨lower, depth_succ isLower, rfl⟩

/-- Links that go down in some rank are well founded. -/
theorem wellFounded_of_rank (rank : Node → ℕ)
    (descends : ∀ above below, IsParent parent above below → rank above < rank below) :
    WellFounded (IsParent parent) :=
  ⟨fun _ => ends_iff_acc.mp ⟨_, Option.isSome_iff_exists.mpr
    (depth_of_rank rank descends (Nat.lt_succ_self _))⟩⟩

end ParentLinks
