import Hiraeth.Lib.RowTable

/-!
# Tables whose row numbers are never given out again

A table with `AUTOINCREMENT` remembers the largest number it has given out.  A number
of a deleted row is never used again, so a row that is gone stays gone.

## Main definitions

* `SequenceTable` — rows in ascending order of their keys, and the last number given out
* `SequenceTable.insert`, `SequenceTable.filter`, `SequenceTable.map` — the operations
* `SequenceTable.Follows` — what any of them may do to a table

## Main results

* `SequenceTable.Follows.absent` — the number of a row that is gone is not used again
-/

universe u v

/-- Rows in strictly ascending order of their keys, none of them beyond the last number
that was given out. -/
structure SequenceTable (R : Type u) (key : R → ℕ) extends RowTable R key where
  issued : ℕ
  bounded : ∀ row ∈ rows, key row ≤ issued

namespace SequenceTable

variable {R : Type u} {key : R → ℕ}

/-- The table without rows, which has given out no number. -/
def empty : SequenceTable R key where
  toRowTable := .empty
  issued := 0
  bounded := fun _ member => absurd member List.not_mem_nil

instance : Inhabited (SequenceTable R key) := ⟨empty⟩

/-- Add a row with the next number. -/
def insert (table : SequenceTable R key) (make : ℕ → R) (keyed : ∀ id, key (make id) = id) :
    SequenceTable R key where
  rows := table.rows ++ [make (table.issued + 1)]
  ascending := by
    refine List.pairwise_append.mpr ⟨table.ascending, List.pairwise_singleton _ _, ?_⟩
    intro left leftMem right rightMem
    obtain rfl := List.mem_singleton.mp rightMem
    rw [keyed]
    exact Nat.lt_succ_of_le (table.bounded left leftMem)
  issued := table.issued + 1
  bounded := by
    intro row member
    rcases List.mem_append.mp member with old | new
    · exact Nat.le_succ_of_le (table.bounded row old)
    · obtain rfl := List.mem_singleton.mp new
      exact (keyed _).le

/-- Keep the rows that satisfy `keep`. -/
def filter (table : SequenceTable R key) (keep : R → Bool) : SequenceTable R key where
  toRowTable := table.toRowTable.filter keep
  issued := table.issued
  bounded := fun row member => table.bounded row (RowTable.mem_filter.mp member).1

/-- Change every row without changing its key. -/
def map (table : SequenceTable R key) (change : R → R)
    (keyed : ∀ row, key (change row) = key row) : SequenceTable R key where
  toRowTable := table.toRowTable.map change keyed
  issued := table.issued
  bounded := by
    intro row member
    obtain ⟨old, oldMem, rfl⟩ := RowTable.mem_map.mp member
    rw [keyed]
    exact table.bounded old oldMem

variable {table later : SequenceTable R key}

@[simp]
theorem mem_insert {make : ℕ → R} {keyed : ∀ id, key (make id) = id} {row : R} :
    row ∈ (table.insert make keyed).rows ↔ row ∈ table.rows ∨ row = make (table.issued + 1) := by
  simp [insert]

@[simp]
theorem mem_filter {keep : R → Bool} {row : R} :
    row ∈ (table.filter keep).rows ↔ row ∈ table.rows ∧ keep row :=
  RowTable.mem_filter

@[simp]
theorem mem_map {change : R → R} {keyed : ∀ row, key (change row) = key row} {row : R} :
    row ∈ (table.map change keyed).rows ↔ ∃ old ∈ table.rows, change old = row := by
  simp [map]

/-- A new row may agree with no other on a unique column. -/
theorem uniqueOn_insert {γ : Type v} {columns : R → γ} (unique : table.UniqueOn columns)
    {make : ℕ → R} (keyed : ∀ id, key (make id) = id)
    (fresh : ∀ row ∈ table.rows, columns row ≠ columns (make (table.issued + 1))) :
    (table.insert make keyed).UniqueOn columns := by
  intro left isLeft right isRight same
  rcases mem_insert.mp isLeft with oldLeft | rfl <;>
    rcases mem_insert.mp isRight with oldRight | rfl
  · exact unique oldLeft oldRight same
  · exact absurd same (fresh left oldLeft)
  · exact absurd same.symm (fresh right oldRight)
  · rfl

/-! ### Numbers that are gone -/

/-- **What operations may do to a table**: a number that was given out is used only by a
row that used it before. -/
structure Follows (table later : SequenceTable R key) : Prop where
  issued_le : table.issued ≤ later.issued
  old : ∀ row ∈ later.rows, key row ≤ table.issued → ∃ before ∈ table.rows, key before = key row

theorem Follows.refl : table.Follows table :=
  ⟨Nat.le_refl _, fun row member _ => ⟨row, member, rfl⟩⟩

theorem Follows.trans {last : SequenceTable R key} (first : table.Follows later)
    (second : later.Follows last) : table.Follows last where
  issued_le := Nat.le_trans first.issued_le second.issued_le
  old row member given := by
    obtain ⟨middle, isMiddle, same⟩ :=
      second.old row member (Nat.le_trans given first.issued_le)
    rw [← same] at given ⊢
    exact first.old middle isMiddle given

theorem follows_insert (make : ℕ → R) (keyed : ∀ id, key (make id) = id) :
    table.Follows (table.insert make keyed) where
  issued_le := Nat.le_succ _
  old row member given := by
    rcases mem_insert.mp member with old | rfl
    · exact ⟨row, old, rfl⟩
    · rw [keyed] at given
      exact absurd given (Nat.not_succ_le_self _)

theorem follows_filter (keep : R → Bool) : table.Follows (table.filter keep) where
  issued_le := Nat.le_refl _
  old row member _ := ⟨row, (mem_filter.mp member).1, rfl⟩

theorem follows_map (change : R → R) (keyed : ∀ row, key (change row) = key row) :
    table.Follows (table.map change keyed) where
  issued_le := Nat.le_refl _
  old row member _ := by
    obtain ⟨old, oldMem, rfl⟩ := mem_map.mp member
    exact ⟨old, oldMem, (keyed old).symm⟩

/-- **The number of a row that is gone is not used again.** -/
theorem Follows.absent (follows : table.Follows later) {id : ℕ} (given : id ≤ table.issued)
    (gone : ∀ row ∈ table.rows, key row ≠ id) : ∀ row ∈ later.rows, key row ≠ id := by
  rintro row member rfl
  obtain ⟨before, isBefore, same⟩ := follows.old row member given
  exact gone before isBefore same

end SequenceTable
