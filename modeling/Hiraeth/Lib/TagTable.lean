import Hiraeth.Lib.SortedMap

/-!
# Tables of tags

A table whose rows give an owner a value under a key, and that is written by upserts: a value
is replaced where the owner has the key, and a row is added where it does not.  To each owner
such a table is a finite map.

## Main definitions

* `TagColumns` — the owner, the key and the value of a row
* `TagColumns.put` — the upsert
* `TagColumns.lookup`, `TagColumns.entriesOf` — what an owner has
* `TagColumns.Tidy` — no owner has a key twice

## Main results

* `TagColumns.ofList_putAll` — upserts are read back as the map they were collected into
* `TagColumns.lookup_take_putAll` — upserts that stop halfway leave old or new values
-/

namespace SortedMap

variable {κ : Type*} {ν : Type*} [LinearOrder κ]

/-- An insertion adds at most one entry, and none under a key that is present. -/
theorem length_insertEntry {key : κ} {value : ν} {entries : List (κ × ν)} :
    (insertEntry key value entries).length ≤ entries.length + 1 ∧
      ((∃ entry ∈ entries, entry.1 = key) →
        (entries.Pairwise fun left right => left.1 < right.1) →
        (insertEntry key value entries).length = entries.length) := by
  induction entries with
  | nil => exact ⟨Nat.le_refl _, by rintro ⟨_, member, -⟩; cases member⟩
  | cons first rest inductionHypothesis =>
      obtain ⟨bound, same⟩ := inductionHypothesis
      unfold insertEntry
      split_ifs with before here
      · refine ⟨Nat.le_refl _, ?_⟩
        rintro ⟨entry, member, rfl⟩ sorted
        rcases List.mem_cons.mp member with rfl | later
        · exact absurd before (lt_irrefl _)
        · exact absurd ((List.pairwise_cons.mp sorted).1 entry later) (not_lt.mpr before.le)
      · exact ⟨Nat.le_succ _, fun _ _ => rfl⟩
      · refine ⟨Nat.succ_le_succ bound, ?_⟩
        rintro ⟨entry, member, rfl⟩ sorted
        rcases List.mem_cons.mp member with rfl | later
        · exact absurd rfl here
        · exact congrArg Nat.succ (same ⟨entry, later, rfl⟩ (List.pairwise_cons.mp sorted).2)

/-- One more entry in a list is an insertion into the map. -/
theorem ofList_append_singleton {entries : List (κ × ν)} {entry : κ × ν} :
    ofList (entries ++ [entry]) = (ofList entries).insert entry.1 entry.2 := by
  unfold ofList
  rw [List.foldl_append]
  rfl

end SortedMap

/-- The columns of a table of tags. -/
structure TagColumns (R κ ν : Type) where
  owner : R → ℕ
  key : R → κ
  value : R → ν
  make : ℕ → κ → ν → R
  withValue : R → ν → R
  owner_make : ∀ number name content, owner (make number name content) = number
  key_make : ∀ number name content, key (make number name content) = name
  value_make : ∀ number name content, value (make number name content) = content
  owner_withValue : ∀ row content, owner (withValue row content) = owner row
  key_withValue : ∀ row content, key (withValue row content) = key row
  value_withValue : ∀ row content, value (withValue row content) = content

namespace TagColumns

variable {R κ ν : Type} [LinearOrder κ] (columns : TagColumns R κ ν)

/-- The row is the one of this owner and key. -/
def isAt (number : ℕ) (name : κ) (row : R) : Bool :=
  decide (columns.owner row = number) && decide (columns.key row = name)

/-- The row after the upsert of a value. -/
def change (number : ℕ) (entry : κ × ν) (row : R) : R :=
  if columns.owner row = number ∧ columns.key row = entry.1 then columns.withValue row entry.2
  else row

/-- **The upsert**: replace the value where the key is present, and add a row where not. -/
def put (number : ℕ) (rows : List R) (entry : κ × ν) : List R :=
  if rows.any fun row => decide (columns.owner row = number) && decide (columns.key row = entry.1)
  then rows.map (columns.change number entry)
  else rows ++ [columns.make number entry.1 entry.2]

/-- Upserts, one after the other. -/
def putAll (number : ℕ) (rows : List R) (entries : List (κ × ν)) : List R :=
  entries.foldl (columns.put number) rows

/-- The value that an owner has under a key. -/
def lookup (rows : List R) (number : ℕ) (name : κ) : Option ν :=
  (rows.find? (columns.isAt number name)).map columns.value

/-- The entries of an owner. -/
def entriesOf (rows : List R) (number : ℕ) : List (κ × ν) :=
  (rows.filter fun row => columns.owner row = number).map fun row =>
    (columns.key row, columns.value row)

/-- No owner has a key twice. -/
def Tidy (rows : List R) : Prop :=
  (rows.map fun row => (columns.owner row, columns.key row)).Nodup

variable {columns} {rows : List R} {number other : ℕ} {name : κ} {entry : κ × ν}
  {entries : List (κ × ν)}

theorem isAt_iff {row : R} :
    columns.isAt number name row = true ↔ columns.owner row = number ∧ columns.key row = name := by
  simp [isAt]

/-! ### One upsert -/

theorem owner_change {row : R} : columns.owner (columns.change number entry row) =
    columns.owner row := by
  unfold change
  split_ifs
  · exact columns.owner_withValue row entry.2
  · rfl

theorem key_change {row : R} : columns.key (columns.change number entry row) =
    columns.key row := by
  unfold change
  split_ifs
  · exact columns.key_withValue row entry.2
  · rfl

/-- **What is found after an upsert.** -/
theorem lookup_put : columns.lookup (columns.put number rows entry) other name =
    if other = number ∧ name = entry.1 then some entry.2
    else columns.lookup rows other name := by
  have sameRow : columns.isAt other name ∘ columns.change number entry =
      columns.isAt other name := by
    funext row
    simp only [Function.comp_apply, isAt, owner_change, key_change]
  unfold put lookup
  by_cases present : (rows.any fun row =>
      decide (columns.owner row = number) && decide (columns.key row = entry.1)) = true
  · rw [if_pos present, List.find?_map, sameRow, Option.map_map]
    cases found : rows.find? (columns.isAt other name) with
    | none =>
        -- the row that is changed is not the one that is asked for
        have elsewhere : ¬ (other = number ∧ name = entry.1) := by
          rintro ⟨rfl, rfl⟩
          obtain ⟨row, isRow, here⟩ := List.any_eq_true.mp present
          exact List.find?_eq_none.mp found row isRow here
        rw [if_neg elsewhere]
        rfl
    | some row =>
        obtain ⟨isOwner, isKey⟩ := isAt_iff.mp (List.find?_some found)
        show some (columns.value (columns.change number entry row)) = _
        unfold change
        rw [isOwner, isKey]
        split_ifs
        · exact congrArg some (columns.value_withValue row entry.2)
        · rfl
  · rw [if_neg present, List.find?_append]
    split_ifs with here
    · obtain ⟨rfl, rfl⟩ := here
      have absent : rows.find? (columns.isAt other entry.1) = none := by
        refine List.find?_eq_none.mpr fun row isRow found => present ?_
        exact List.any_eq_true.mpr ⟨row, isRow, found⟩
      have isNew : columns.isAt other entry.1 (columns.make other entry.1 entry.2) = true :=
        isAt_iff.mpr ⟨columns.owner_make _ _ _, columns.key_make _ _ _⟩
      rw [absent, Option.none_or, List.find?_singleton, if_pos isNew]
      exact congrArg some (columns.value_make _ _ _)
    · have elsewhere : columns.isAt other name (columns.make number entry.1 entry.2) ≠ true := by
        rw [Ne, isAt_iff, columns.owner_make, columns.key_make]
        rintro ⟨rfl, rfl⟩
        exact here ⟨rfl, rfl⟩
      rw [List.find?_singleton, if_neg elsewhere, Option.or_none]

/-- An upsert gives nobody a key twice. -/
theorem Tidy.put (tidy : columns.Tidy rows) : columns.Tidy (columns.put number rows entry) := by
  unfold TagColumns.put
  split_ifs with present
  · unfold Tidy
    rw [List.map_map]
    have same : (fun row => (columns.owner row, columns.key row)) ∘ columns.change number entry =
        fun row => (columns.owner row, columns.key row) := by
      funext row
      simp only [Function.comp_apply, owner_change, key_change]
    rw [same]
    exact tidy
  · unfold Tidy
    rw [List.map_append, List.map_singleton, columns.owner_make, columns.key_make]
    refine List.nodup_append.mpr ⟨tidy, List.nodup_singleton _, ?_⟩
    rintro pair isPair last isLast rfl
    obtain ⟨row, isRow, rfl⟩ := List.mem_map.mp isPair
    obtain ⟨isOwner, isKey⟩ := Prod.mk.inj (List.mem_singleton.mp isLast)
    refine present (List.any_eq_true.mpr ⟨row, isRow, ?_⟩)
    rw [isOwner, isKey, decide_eq_true rfl, decide_eq_true rfl]
    rfl

omit [LinearOrder κ] in
/-- A table without some of its rows is tidy. -/
theorem Tidy.filter (tidy : columns.Tidy rows) (keep : R → Bool) :
    columns.Tidy (rows.filter keep) :=
  List.Nodup.sublist (List.filter_sublist.map _) tidy

/-! ### The map of an owner -/

/-- What an owner has is found. -/
theorem mem_entriesOf (tidy : columns.Tidy rows) {content : ν} :
    (name, content) ∈ columns.entriesOf rows number ↔
      columns.lookup rows number name = some content := by
  unfold entriesOf lookup
  rw [List.mem_map, Option.map_eq_some_iff]
  constructor
  · rintro ⟨row, member, same⟩
    obtain ⟨isRow, isOwner⟩ := List.mem_filter.mp member
    obtain ⟨rfl, rfl⟩ := Prod.mk.inj same
    have isHere : columns.isAt number (columns.key row) row = true :=
      isAt_iff.mpr ⟨of_decide_eq_true isOwner, rfl⟩
    obtain ⟨first, found⟩ := Option.isSome_iff_exists.mp
      (List.find?_isSome.mpr ⟨row, isRow, isHere⟩)
    obtain ⟨firstOwner, firstKey⟩ := isAt_iff.mp (List.find?_some found)
    have only : first = row := List.inj_on_of_nodup_map tidy (List.mem_of_find?_eq_some found)
      isRow (Prod.ext (firstOwner.trans (of_decide_eq_true isOwner).symm) firstKey)
    exact ⟨first, found, congrArg columns.value only⟩
  · rintro ⟨row, found, rfl⟩
    obtain ⟨isOwner, rfl⟩ := isAt_iff.mp (List.find?_some found)
    exact ⟨row, List.mem_filter.mpr ⟨List.mem_of_find?_eq_some found, decide_eq_true isOwner⟩,
      rfl⟩

omit [LinearOrder κ] in
/-- What is left to an owner when rows are taken away. -/
theorem entriesOf_filter_sublist (keep : R → Bool) :
    (columns.entriesOf (rows.filter keep) number).Sublist (columns.entriesOf rows number) :=
  (List.filter_sublist.filter _).map _

omit [LinearOrder κ] in
/-- The keys of an owner are distinct. -/
theorem nodup_keys (tidy : columns.Tidy rows) :
    ((columns.entriesOf rows number).map Prod.fst).Nodup := by
  have own : (((rows.filter fun row => columns.owner row = number)).map fun row =>
      (columns.owner row, columns.key row)).Nodup := tidy.filter _
  unfold entriesOf
  rw [List.map_map]
  refine List.pairwise_map.mpr ((List.pairwise_map.mp own).imp_of_mem ?_)
  intro left right isLeft isRight different same
  have leftOwner : columns.owner left = number := of_decide_eq_true (List.mem_filter.mp isLeft).2
  have rightOwner : columns.owner right = number :=
    of_decide_eq_true (List.mem_filter.mp isRight).2
  exact different (Prod.ext (leftOwner.trans rightOwner.symm) same)

/-- The map of an owner. -/
theorem get?_ofList_entriesOf (tidy : columns.Tidy rows) :
    (SortedMap.ofList (columns.entriesOf rows number)).get? name =
      columns.lookup rows number name := by
  have agree : SortedMap.Agree (columns.entriesOf rows number) := by
    rintro ⟨leftName, leftContent⟩ isLeft ⟨rightName, rightContent⟩ isRight rfl
    exact Option.some.inj (((mem_entriesOf tidy).mp isLeft).symm.trans
      ((mem_entriesOf tidy).mp isRight))
  refine Option.ext fun content => ?_
  rw [agree.get?_ofList]
  exact mem_entriesOf tidy

/-- **An owner has as many rows as its map has entries.** -/
theorem perm_ofList_entriesOf (tidy : columns.Tidy rows) :
    (SortedMap.ofList (columns.entriesOf rows number)).entries.Perm
      (columns.entriesOf rows number) := by
  refine (List.perm_ext_iff_of_nodup ?_ (nodup_keys tidy).of_map).mpr fun entry => ?_
  · exact (SortedMap.ofList _).sorted.imp fun smaller same => absurd (same ▸ smaller) (lt_irrefl _)
  · rw [← Prod.mk.eta (p := entry), ← SortedMap.get?_eq_some, get?_ofList_entriesOf tidy,
      mem_entriesOf tidy]

/-- **What is found when keys of an owner are taken away.** -/
theorem lookup_filter {keys : List κ} [BEq κ] [LawfulBEq κ] :
    columns.lookup (rows.filter fun row =>
        !(decide (columns.owner row = number) && keys.contains (columns.key row))) other name =
      if other = number ∧ name ∈ keys then none else columns.lookup rows other name := by
  unfold lookup
  rw [List.find?_filter]
  split_ifs with gone
  · obtain ⟨rfl, isKey⟩ := gone
    rw [Option.map_eq_none_iff]
    refine List.find?_eq_none.mpr fun row _ found => ?_
    obtain ⟨kept, isHere⟩ := of_decide_eq_true found
    obtain ⟨isOwner, rfl⟩ := isAt_iff.mp isHere
    rw [isOwner, decide_eq_true rfl, List.contains_iff_mem.mpr isKey] at kept
    cases kept
  · congr 2
    funext row
    cases isHere : columns.isAt other name row with
    | false => simp
    | true =>
        obtain ⟨rfl, rfl⟩ := isAt_iff.mp isHere
        rcases not_and_or.mp gone with apart | absent
        · simp [apart]
        · simp [absent]

/-! ### Many upserts -/

theorem Tidy.putAll (tidy : columns.Tidy rows) :
    columns.Tidy (columns.putAll number rows entries) := by
  induction entries generalizing rows with
  | nil => exact tidy
  | cons entry entries inductionHypothesis => exact inductionHypothesis tidy.put

/-- **What is found after many upserts**: the value that was given last. -/
theorem lookup_putAll : columns.lookup (columns.putAll number rows entries) other name =
    if other = number then ((SortedMap.ofList entries).get? name).or
      (columns.lookup rows number name)
    else columns.lookup rows other name := by
  induction entries generalizing rows with
  | nil =>
      split_ifs with same
      · rw [same]
        rfl
      · rfl
  | cons entry entries inductionHypothesis =>
      show columns.lookup (columns.putAll number (columns.put number rows entry) entries) _ _ = _
      rw [inductionHypothesis, lookup_put, lookup_put]
      have first : (SortedMap.ofList (entry :: entries)).get? name =
          ((SortedMap.ofList entries).get? name).or
            (if name = entry.1 then some entry.2 else none) := by
        rw [← List.singleton_append, SortedMap.get?_ofList_append,
          SortedMap.get?_ofList_singleton]
      rw [first]
      split_ifs with same here <;> simp_all

/-- **Upserts are read back as the map they were collected into.** -/
theorem ofList_putAll (tidy : columns.Tidy rows) :
    SortedMap.ofList (columns.entriesOf (columns.putAll number rows entries) number) =
      SortedMap.ofList (columns.entriesOf rows number ++ entries) := by
  refine SortedMap.ext_get? fun name => ?_
  rw [get?_ofList_entriesOf tidy.putAll, lookup_putAll, if_pos rfl, SortedMap.get?_ofList_append,
    get?_ofList_entriesOf tidy]

/-- The tags of the others are what they were. -/
theorem entriesOf_put_of_ne (different : other ≠ number) :
    columns.entriesOf (columns.put number rows entry) other = columns.entriesOf rows other := by
  unfold entriesOf put
  split_ifs with present
  · rw [List.filter_map, List.map_map]
    have sameOwner : (fun row => decide (columns.owner row = other)) ∘ columns.change number entry =
        fun row => decide (columns.owner row = other) := by
      funext row
      simp only [Function.comp_apply, owner_change]
    rw [sameOwner]
    refine List.map_congr_left fun row member => ?_
    have isOwner : columns.owner row = other := of_decide_eq_true (List.mem_filter.mp member).2
    show (columns.key (columns.change number entry row), _) = _
    unfold change
    rw [if_neg fun here => different (isOwner.symm.trans here.1)]
  · have elsewhere : ¬ columns.owner (columns.make number entry.1 entry.2) = other := by
      rw [columns.owner_make]
      exact different.symm
    rw [List.filter_append, List.filter_singleton, decide_eq_false elsewhere, cond_false,
      List.append_nil]

theorem entriesOf_putAll_of_ne (different : other ≠ number) :
    columns.entriesOf (columns.putAll number rows entries) other =
      columns.entriesOf rows other := by
  induction entries generalizing rows with
  | nil => rfl
  | cons entry entries inductionHypothesis =>
      exact inductionHypothesis.trans (entriesOf_put_of_ne different)

/-- **Upserts that stop halfway** leave every key of the owner with its old value or with the
new one, and the tags of the others alone. -/
theorem lookup_take_putAll {count : ℕ} :
    columns.lookup (columns.putAll number rows (entries.take count)) number name =
        columns.lookup rows number name ∨
      ∃ content, (name, content) ∈ entries ∧
        columns.lookup (columns.putAll number rows (entries.take count)) number name =
          some content := by
  rw [lookup_putAll, if_pos rfl]
  cases given : (SortedMap.ofList (entries.take count)).get? name with
  | none =>
      left
      rw [Option.none_or]
  | some content =>
      right
      refine ⟨content, List.mem_of_mem_take (SortedMap.mem_of_get?_ofList given), ?_⟩
      rw [Option.some_or]

/-- What part of a list of upserts gives, the whole gives too. -/
theorem get?_ofList_take {count : ℕ} (missing : (SortedMap.ofList entries).get? name = none) :
    (SortedMap.ofList (entries.take count)).get? name = none := by
  refine SortedMap.get?_ofList_eq_none fun entry member isKey => ?_
  obtain ⟨content, found⟩ := SortedMap.exists_get?_ofList (List.mem_of_mem_take member)
  rw [isKey, missing] at found
  cases found

/-- **Upserts that are repeated** after they stopped halfway have the effect of the whole. -/
theorem lookup_retry {count : ℕ} :
    columns.lookup (columns.putAll number (columns.putAll number rows (entries.take count))
        entries) other name =
      columns.lookup (columns.putAll number rows entries) other name := by
  by_cases same : other = number
  · subst same
    rw [lookup_putAll, if_pos rfl, lookup_putAll, if_pos rfl, lookup_putAll, if_pos rfl]
    cases given : (SortedMap.ofList entries).get? name with
    | some content => rw [Option.some_or, Option.some_or]
    | none => rw [get?_ofList_take given, Option.none_or, Option.none_or]
  · rw [lookup_putAll, if_neg same, lookup_putAll, if_neg same, lookup_putAll, if_neg same]

end TagColumns
