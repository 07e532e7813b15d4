import Hiraeth.Core.Text

/-!
# What every store shares

Each store answers a call with a value or with one of three errors, and names
its rows by the integer key of the table.
-/

namespace Hiraeth

/-- The errors a store reports. -/
inductive StoreError where
  | notFound (message : Text)
  | conflict (message : Text)
  | storageFailure (message : Text)
  deriving DecidableEq

/-- How a store error reads. -/
def StoreError.display : StoreError → Text
  | notFound message => ("Not found: " : Text) ++ message
  | conflict message => ("Conflict: " : Text) ++ message
  | storageFailure message => ("Storage failure: " : Text) ++ message

/-- The integer primary key of a row.  SQLite hands out positive ones. -/
abbrev RowId := ℕ

/-- The outcome of a store call. -/
abbrev StoreResult (α : Type) := Except StoreError α

/-- The nanoseconds of a number of seconds. -/
def seconds (count : ℤ) : Time :=
  count * 1000000000

/-- `LIMIT`.  A negative limit is none. -/
def applyLimit {α : Type} (limit : ℤ) (rows : List α) : List α :=
  if limit < 0 then rows else rows.take limit.toNat

/-- What is kept by a limit. -/
theorem mem_of_mem_applyLimit {α : Type} {limit : ℤ} {rows : List α} {row : α}
    (member : row ∈ applyLimit limit rows) : row ∈ rows := by
  unfold applyLimit at member
  split_ifs at member
  · exact member
  · exact List.mem_of_mem_take member

/-! ### Errors of the database -/

/-- `map_sqlx_error` for a violated `UNIQUE` constraint. -/
def uniqueViolation (columns : Text) : StoreError :=
  .conflict (("UNIQUE constraint failed: " : Text) ++ columns)

/-- `map_sqlx_error` for any other error of the database. -/
def databaseFailure (message : Text) : StoreError :=
  .storageFailure (("error returned from database: " : Text) ++ message)

def foreignKeyViolation : StoreError :=
  databaseFailure "(code: 787) FOREIGN KEY constraint failed"

end Hiraeth
