import Mathlib.Data.List.Basic
import Mathlib.Data.List.Pairwise
import Mathlib.Data.List.Perm.Subperm
import Mathlib.Order.Nat

/-!
# Tables keyed by row number

A table whose primary key is the row number.  The rows are kept in ascending
order of their keys, so no two rows share one, and the order is part of the
type: a table that violates it cannot be built.

A new row gets the number after the last row.  The number of a deleted row is
therefore given out again when that row was the last one.

## Main definitions

* `RowTable` — rows in ascending order of their keys
* `RowTable.insert`, `RowTable.filter`, `RowTable.map` — the operations
* `RowTable.UniqueOn`, `RowTable.References` — the constraints a schema declares

## Main results

* `RowTable.eq_of_key_eq` — a row is determined by its key
* `RowTable.key_lt_nextId` — a new row gets a number that is not in use
* `RowTable.References.cascade` — deleting with cascade keeps references intact
-/

universe u

/-- Rows in strictly ascending order of their keys. -/
structure RowTable (R : Type u) (key : R → ℕ) where
  rows : List R
  ascending : rows.Pairwise fun left right => key left < key right

namespace RowTable

variable {R : Type u} {key : R → ℕ}

/-- The table without rows. -/
def empty : RowTable R key where
  rows := []
  ascending := List.Pairwise.nil

instance : Inhabited (RowTable R key) := ⟨empty⟩

/-- The number after the last row. -/
def nextId (table : RowTable R key) : ℕ :=
  match table.rows.getLast? with
  | none => 1
  | some last => key last + 1

/-- **A row is determined by its key.** -/
theorem eq_of_key_eq {table : RowTable R key} {left right : R}
    (leftMem : left ∈ table.rows) (rightMem : right ∈ table.rows)
    (equal : key left = key right) : left = right := by
  have comparable : ∀ {rows : List R}, (rows.Pairwise fun a b => key a < key b) →
      left ∈ rows → right ∈ rows → left = right := by
    intro rows ascending
    induction ascending with
    | nil => simp
    | cons smaller _ inductionHypothesis =>
        intro leftMem rightMem
        rcases List.mem_cons.mp leftMem with rfl | leftLater <;>
          rcases List.mem_cons.mp rightMem with rfl | rightLater
        · rfl
        · exact absurd equal (Nat.ne_of_lt (smaller _ rightLater))
        · exact absurd equal.symm (Nat.ne_of_lt (smaller _ leftLater))
        · exact inductionHypothesis leftLater rightLater
  exact comparable table.ascending leftMem rightMem

/-- **A new row gets a number larger than any in use.** -/
theorem key_lt_nextId {table : RowTable R key} {row : R} (member : row ∈ table.rows) :
    key row < table.nextId := by
  have nonempty : table.rows ≠ [] := List.ne_nil_of_mem member
  have last := table.rows.getLast?_eq_some_getLast nonempty
  have largest : key row ≤ key (table.rows.getLast nonempty) := by
    have split := List.dropLast_append_getLast nonempty
    rw [← split, List.mem_append, List.mem_singleton] at member
    rcases member with earlier | rfl
    · have ascending := table.ascending
      rw [← split] at ascending
      exact Nat.le_of_lt
        ((List.pairwise_append.mp ascending).2.2 row earlier _ List.mem_cons_self)
    · exact Nat.le_refl _
  simp only [nextId, last]
  omega

/-! ### Operations -/

/-- Add a row with the next number. -/
def insert (table : RowTable R key) (make : ℕ → R) (keyed : ∀ id, key (make id) = id) :
    RowTable R key where
  rows := table.rows ++ [make table.nextId]
  ascending := by
    refine List.pairwise_append.mpr ⟨table.ascending, List.pairwise_singleton _ _, ?_⟩
    intro left leftMem right rightMem
    obtain rfl := List.mem_singleton.mp rightMem
    rw [keyed]
    exact key_lt_nextId leftMem

/-- Keep the rows that satisfy `keep`. -/
def filter (table : RowTable R key) (keep : R → Bool) : RowTable R key where
  rows := table.rows.filter keep
  ascending := table.ascending.filter keep

/-- Change every row without changing its key. -/
def map (table : RowTable R key) (change : R → R) (keyed : ∀ row, key (change row) = key row) :
    RowTable R key where
  rows := table.rows.map change
  ascending := by
    refine List.pairwise_map.mpr (table.ascending.imp ?_)
    intro left right smaller
    rw [keyed, keyed]
    exact smaller

/-- The first row that satisfies `wanted`. -/
def find (table : RowTable R key) (wanted : R → Bool) : Option R :=
  table.rows.find? wanted

@[simp]
theorem mem_insert {table : RowTable R key} {make : ℕ → R} {keyed : ∀ id, key (make id) = id}
    {row : R} :
    row ∈ (table.insert make keyed).rows ↔ row ∈ table.rows ∨ row = make table.nextId := by
  simp [insert]

@[simp]
theorem mem_filter {table : RowTable R key} {keep : R → Bool} {row : R} :
    row ∈ (table.filter keep).rows ↔ row ∈ table.rows ∧ keep row := by
  simp [filter]

@[simp]
theorem mem_map {table : RowTable R key} {change : R → R}
    {keyed : ∀ row, key (change row) = key row} {row : R} :
    row ∈ (table.map change keyed).rows ↔ ∃ old ∈ table.rows, change old = row := by
  simp [map]

theorem mem_of_find_eq_some {table : RowTable R key} {wanted : R → Bool} {row : R}
    (found : table.find wanted = some row) : row ∈ table.rows :=
  List.mem_of_find?_eq_some found

theorem wanted_of_find_eq_some {table : RowTable R key} {wanted : R → Bool} {row : R}
    (found : table.find wanted = some row) : wanted row :=
  List.find?_some found

theorem find_eq_none {table : RowTable R key} {wanted : R → Bool} :
    table.find wanted = none ↔ ∀ row ∈ table.rows, ¬ wanted row := by
  simp [find]

/-- A row that is added is found where there was none. -/
theorem find_insert {table : RowTable R key} {make : ℕ → R} {keyed : ∀ id, key (make id) = id}
    {wanted : R → Bool} (absent : table.find wanted = none)
    (isWanted : wanted (make table.nextId) = true) :
    (table.insert make keyed).find wanted = some (make table.nextId) := by
  unfold find at absent
  rw [find, insert, List.find?_append, absent, Option.none_or, List.find?_singleton,
    if_pos isWanted]

/-- Rows that are changed are found as before. -/
theorem find_map {table : RowTable R key} {change : R → R}
    {keyed : ∀ row, key (change row) = key row} {wanted : R → Bool}
    (same : ∀ row, wanted (change row) = wanted row) :
    (table.map change keyed).find wanted = (table.find wanted).map change := by
  have sameWanted : wanted ∘ change = wanted := funext same
  rw [find, map, List.find?_map, sameWanted]
  rfl

/-! ### Unique columns -/

section Unique

universe v

variable {γ : Type v}

/-- No two rows agree on the given columns. -/
def UniqueOn (table : RowTable R key) (columns : R → γ) : Prop :=
  ∀ ⦃left⦄, left ∈ table.rows → ∀ ⦃right⦄, right ∈ table.rows →
    columns left = columns right → left = right

variable {table : RowTable R key} {columns : R → γ}

theorem uniqueOn_empty : (empty : RowTable R key).UniqueOn columns := by
  intro left member
  simp [empty] at member

theorem UniqueOn.insert (unique : table.UniqueOn columns) {make : ℕ → R}
    (keyed : ∀ id, key (make id) = id)
    (fresh : ∀ row ∈ table.rows, columns row ≠ columns (make table.nextId)) :
    (table.insert make keyed).UniqueOn columns := by
  intro left leftMem right rightMem equal
  rcases mem_insert.mp leftMem with leftOld | rfl <;>
    rcases mem_insert.mp rightMem with rightOld | rfl
  · exact unique leftOld rightOld equal
  · exact absurd equal (fresh left leftOld)
  · exact absurd equal.symm (fresh right rightOld)
  · rfl

theorem UniqueOn.filter (unique : table.UniqueOn columns) (keep : R → Bool) :
    (table.filter keep).UniqueOn columns := by
  intro left leftMem right rightMem equal
  exact unique (mem_filter.mp leftMem).1 (mem_filter.mp rightMem).1 equal

theorem UniqueOn.map (unique : table.UniqueOn columns) {change : R → R}
    (keyed : ∀ row, key (change row) = key row)
    (untouched : ∀ row, columns (change row) = columns row) :
    (table.map change keyed).UniqueOn columns := by
  intro left leftMem right rightMem equal
  obtain ⟨oldLeft, leftOld, rfl⟩ := mem_map.mp leftMem
  obtain ⟨oldRight, rightOld, rfl⟩ := mem_map.mp rightMem
  rw [untouched, untouched] at equal
  rw [unique leftOld rightOld equal]

end Unique

/-! ### References -/

section References

universe v

variable {P : Type v} {parentKey : P → ℕ}

/-- Every row of the table refers to a row of the parent table. -/
def References (table : RowTable R key) (column : R → ℕ) (parents : RowTable P parentKey) :
    Prop :=
  ∀ row ∈ table.rows, ∃ parent ∈ parents.rows, parentKey parent = column row

variable {table : RowTable R key} {column : R → ℕ} {parents : RowTable P parentKey}

theorem references_empty : (empty : RowTable R key).References column parents := by
  intro row member
  simp [empty] at member

theorem References.insert (refers : table.References column parents) {make : ℕ → R}
    (keyed : ∀ id, key (make id) = id)
    (known : ∃ parent ∈ parents.rows, parentKey parent = column (make table.nextId)) :
    (table.insert make keyed).References column parents := by
  intro row member
  rcases mem_insert.mp member with old | rfl
  · exact refers row old
  · exact known

theorem References.filter (refers : table.References column parents) (keep : R → Bool) :
    (table.filter keep).References column parents := by
  intro row member
  exact refers row (mem_filter.mp member).1

theorem References.map (refers : table.References column parents) {change : R → R}
    (keyed : ∀ row, key (change row) = key row)
    (untouched : ∀ row, column (change row) = column row) :
    (table.map change keyed).References column parents := by
  intro row member
  obtain ⟨old, oldMem, rfl⟩ := mem_map.mp member
  obtain ⟨parent, found, equal⟩ := refers old oldMem
  exact ⟨parent, found, equal.trans (untouched old).symm⟩

theorem References.insertParent (refers : table.References column parents) {make : ℕ → P}
    (keyed : ∀ id, parentKey (make id) = id) :
    table.References column (parents.insert make keyed) := by
  intro row member
  obtain ⟨parent, found, equal⟩ := refers row member
  exact ⟨parent, mem_insert.mpr (Or.inl found), equal⟩

theorem References.mapParent (refers : table.References column parents) {change : P → P}
    (keyed : ∀ row, parentKey (change row) = parentKey row) :
    table.References column (parents.map change keyed) := by
  intro row member
  obtain ⟨parent, found, equal⟩ := refers row member
  exact ⟨change parent, mem_map.mpr ⟨parent, found, rfl⟩, (keyed parent).trans equal⟩

/-- **Deleting with cascade keeps references intact.** -/
theorem References.cascade (refers : table.References column parents) {doomed : P → Bool}
    (orphaned : ℕ → Bool)
    (cascades : ∀ parent ∈ parents.rows, doomed parent → orphaned (parentKey parent)) :
    (table.filter fun row => !orphaned (column row)).References column
      (parents.filter fun parent => !doomed parent) := by
  intro row member
  obtain ⟨old, survives⟩ := mem_filter.mp member
  obtain ⟨parent, found, equal⟩ := refers row old
  refine ⟨parent, mem_filter.mpr ⟨found, ?_⟩, equal⟩
  cases spared : doomed parent with
  | false => rfl
  | true =>
      have orphan := cascades parent found spared
      rw [equal] at orphan
      simp [orphan] at survives

/-- A row never refers to the number that the parent table gives out next. -/
theorem References.lt_nextId (refers : table.References column parents) {row : R}
    (member : row ∈ table.rows) : column row < parents.nextId := by
  obtain ⟨parent, found, equal⟩ := refers row member
  exact equal ▸ key_lt_nextId found

end References

/-! ### Counting -/

/-- **Rows that stay are counted again.** -/
theorem countP_le_countP {table later : RowTable R key} {counts counts' : R → Bool}
    (stays : ∀ row ∈ table.rows, counts row = true →
      ∃ row' ∈ later.rows, key row' = key row ∧ counts' row' = true) :
    table.rows.countP counts ≤ later.rows.countP counts' := by
  have keysDiffer : ((table.rows.filter counts).map key).Nodup :=
    List.pairwise_map.mpr ((table.ascending.filter counts).imp Nat.ne_of_lt)
  have among : (table.rows.filter counts).map key ⊆ (later.rows.filter counts').map key := by
    intro number member
    obtain ⟨row, isCounted, rfl⟩ := List.mem_map.mp member
    obtain ⟨stored, counted⟩ := List.mem_filter.mp isCounted
    obtain ⟨row', present, same, counted'⟩ := stays row stored counted
    exact same ▸ List.mem_map_of_mem (List.mem_filter.mpr ⟨present, counted'⟩)
  have bound := (List.subperm_of_subset keysDiffer among).length_le
  rw [List.length_map, List.length_map] at bound
  rw [List.countP_eq_length_filter, List.countP_eq_length_filter]
  exact bound

end RowTable
