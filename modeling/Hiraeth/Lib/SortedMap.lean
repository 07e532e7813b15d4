import Mathlib.Data.List.Induction
import Mathlib.Data.List.Lex
import Mathlib.Data.List.Sort
import Mathlib.Order.Lattice

/-!
# Finite maps as sorted lists of entries

A finite map over linearly ordered keys is the list of its entries in the order
of their keys, each key once.  Two maps with the same entries are equal, so
neither the order in which a map was built nor the one in which another program
would visit it can be told from it.

## Main definitions

* `SortedMap` — the map
* `SortedMap.insert`, `SortedMap.ofList`, `SortedMap.filter`, `SortedMap.mapValues` —
  operations

## Main results

* `SortedMap.mem_insert` — the entries after an insertion
* `SortedMap.ext_get?` — a map is determined by the values of its keys
* `SortedMap.get?_ofList`, `SortedMap.get?_filter` — the values of keys
* `SortedMap.insertionSort_eq_entries`, `SortedMap.ofList_perm_iff` — the order in which
  entries come
-/

universe u v

/-- A finite map: its entries by increasing keys. -/
structure SortedMap (κ : Type u) (ν : Type v) [LinearOrder κ] where
  entries : List (κ × ν)
  sorted : entries.Pairwise fun left right => left.1 < right.1

namespace SortedMap

variable {κ : Type u} {ν : Type v} [LinearOrder κ]

instance [DecidableEq ν] : DecidableEq (SortedMap κ ν) := fun left right =>
  decidable_of_iff (left.entries = right.entries) <| by
    cases left
    cases right
    simp

/-- The map without entries. -/
def empty : SortedMap κ ν where
  entries := []
  sorted := List.Pairwise.nil

/-- An entry put in its place.  An entry with the same key is replaced. -/
def insertEntry (key : κ) (value : ν) : List (κ × ν) → List (κ × ν)
  | [] => [(key, value)]
  | entry :: entries =>
      if key < entry.1 then (key, value) :: entry :: entries
      else if key = entry.1 then (key, value) :: entries
      else entry :: insertEntry key value entries

/-- What is there after an entry was put in. -/
theorem mem_insertEntry {key : κ} {value : ν} {entries : List (κ × ν)} {entry : κ × ν}
    (sorted : entries.Pairwise fun left right => left.1 < right.1) :
    entry ∈ insertEntry key value entries ↔
      entry = (key, value) ∨ (entry ∈ entries ∧ entry.1 ≠ key) := by
  induction entries with
  | nil => simp [insertEntry]
  | cons first entries inductionHypothesis =>
      obtain ⟨least, rest⟩ := List.pairwise_cons.mp sorted
      unfold insertEntry
      split
      · -- every key that is there is greater
        rename_i before
        have other : ∀ present ∈ first :: entries, present.1 ≠ key := by
          intro present member
          rcases List.mem_cons.mp member with rfl | later
          · exact (ne_of_lt before).symm
          · exact (ne_of_lt (lt_trans before (least present later))).symm
        rw [List.mem_cons]
        exact or_congr_right ⟨fun member => ⟨member, other entry member⟩, And.left⟩
      · split
        · rename_i same
          have other : ∀ present ∈ entries, present.1 ≠ key := fun present later =>
            same ▸ (ne_of_lt (least present later)).symm
          rw [List.mem_cons]
          refine or_congr_right ⟨fun later => ⟨List.mem_cons_of_mem _ later, other entry later⟩, ?_⟩
          rintro ⟨member, different⟩
          rcases List.mem_cons.mp member with rfl | later
          · exact absurd same.symm different
          · exact later
        · rename_i different
          rw [List.mem_cons, inductionHypothesis rest, List.mem_cons]
          constructor
          · rintro (rfl | rfl | ⟨later, other⟩)
            · exact Or.inr ⟨Or.inl rfl, fun equal => different equal.symm⟩
            · exact Or.inl rfl
            · exact Or.inr ⟨Or.inr later, other⟩
          · rintro (rfl | ⟨rfl | later, other⟩)
            · exact Or.inr (Or.inl rfl)
            · exact Or.inl rfl
            · exact Or.inr (Or.inr ⟨later, other⟩)

theorem sorted_insertEntry {key : κ} {value : ν} {entries : List (κ × ν)}
    (sorted : entries.Pairwise fun left right => left.1 < right.1) :
    (insertEntry key value entries).Pairwise fun left right => left.1 < right.1 := by
  induction entries with
  | nil => simp [insertEntry]
  | cons first entries inductionHypothesis =>
      obtain ⟨least, rest⟩ := List.pairwise_cons.mp sorted
      unfold insertEntry
      split
      · rename_i before
        refine List.pairwise_cons.mpr ⟨?_, sorted⟩
        intro present member
        rcases List.mem_cons.mp member with rfl | later
        · exact before
        · exact lt_trans before (least present later)
      · split
        · rename_i same
          refine List.pairwise_cons.mpr ⟨?_, rest⟩
          intro present later
          show key < present.1
          exact same ▸ least present later
        · rename_i notBefore different
          refine List.pairwise_cons.mpr ⟨?_, inductionHypothesis rest⟩
          intro present member
          rcases (mem_insertEntry rest).mp member with rfl | ⟨later, -⟩
          · exact lt_of_le_of_ne (not_lt.mp notBefore) fun equal => different equal.symm
          · exact least present later

/-- `HashMap::insert`. -/
def insert (map : SortedMap κ ν) (key : κ) (value : ν) : SortedMap κ ν where
  entries := insertEntry key value map.entries
  sorted := sorted_insertEntry map.sorted

/-- **The entries after an insertion**: the new one, and those with another
key. -/
theorem mem_insert {map : SortedMap κ ν} {key : κ} {value : ν} {entry : κ × ν} :
    entry ∈ (map.insert key value).entries ↔
      entry = (key, value) ∨ (entry ∈ map.entries ∧ entry.1 ≠ key) :=
  mem_insertEntry map.sorted

/-- The map collected from a list of entries: a later entry replaces an earlier
one. -/
def ofList (entries : List (κ × ν)) : SortedMap κ ν :=
  entries.foldl (fun map entry => map.insert entry.1 entry.2) empty

/-- The value of a key. -/
def get? (map : SortedMap κ ν) (key : κ) : Option ν :=
  (map.entries.find? fun entry => entry.1 = key).map Prod.snd

/-- The map without entries is empty. -/
def isEmpty (map : SortedMap κ ν) : Bool :=
  map.entries.isEmpty

/-- The entries that satisfy a condition. -/
def filter (keep : κ → ν → Bool) (map : SortedMap κ ν) : SortedMap κ ν where
  entries := map.entries.filter fun entry => keep entry.1 entry.2
  sorted := map.sorted.filter _

theorem ext_entries {left right : SortedMap κ ν} (same : left.entries = right.entries) :
    left = right := by
  cases left
  cases right
  simpa using same

/-- Nothing is lost when every entry is kept. -/
theorem filter_eq_self {keep : κ → ν → Bool} {map : SortedMap κ ν}
    (all : ∀ entry ∈ map.entries, keep entry.1 entry.2 = true) : map.filter keep = map :=
  ext_entries (List.filter_eq_self.mpr all)

/-- Collecting entries that are in order already changes nothing. -/
theorem ofList_entries (map : SortedMap κ ν) : ofList map.entries = map := by
  -- inserting a key that is greater than all others appends it
  have append : ∀ (entries : List (κ × ν)) (entry : κ × ν),
      (∀ present ∈ entries, present.1 < entry.1) →
        insertEntry entry.1 entry.2 entries = entries ++ [entry] := by
    intro entries entry greater
    induction entries with
    | nil => rfl
    | cons first entries inductionHypothesis =>
        have before : first.1 < entry.1 := greater first List.mem_cons_self
        rw [insertEntry, if_neg (not_lt.mpr (le_of_lt before)), if_neg (ne_of_lt before).symm,
          inductionHypothesis fun present later => greater present (List.mem_cons_of_mem _ later)]
        rfl
  have collect : ∀ (rest : List (κ × ν)) (done : SortedMap κ ν),
      (done.entries ++ rest).Pairwise (fun left right => left.1 < right.1) →
        (rest.foldl (fun map entry => map.insert entry.1 entry.2) done).entries =
          done.entries ++ rest := by
    intro rest
    induction rest with
    | nil => simp
    | cons entry rest inductionHypothesis =>
        intro done sorted
        have inserted : (done.insert entry.1 entry.2).entries = done.entries ++ [entry] := by
          refine append done.entries entry ?_
          intro present member
          exact (List.pairwise_append.mp sorted).2.2 present member entry List.mem_cons_self
        rw [List.foldl_cons, inductionHypothesis _ (by rw [inserted]; simpa using sorted), inserted]
        simp
  refine ext_entries ?_
  exact collect map.entries empty (by simpa [empty] using map.sorted)

/-! ### The values of keys -/

/-- An entry is a key with its value. -/
theorem get?_eq_some {map : SortedMap κ ν} {key : κ} {value : ν} :
    map.get? key = some value ↔ (key, value) ∈ map.entries := by
  have unique : ∀ {entries : List (κ × ν)},
      (entries.Pairwise fun left right => left.1 < right.1) →
        ((entries.find? fun entry => entry.1 = key).map Prod.snd = some value ↔
          (key, value) ∈ entries) := by
    intro entries sorted
    induction entries with
    | nil => simp
    | cons first entries inductionHypothesis =>
        obtain ⟨least, rest⟩ := List.pairwise_cons.mp sorted
        by_cases same : first.1 = key
        · -- no later entry has this key
          have absent : (key, value) ∉ entries := fun later =>
            absurd (least _ later) (same ▸ lt_irrefl _)
          rw [List.find?_cons_of_pos (by simpa using same), List.mem_cons]
          constructor
          · intro found
            exact Or.inl (Prod.ext same.symm (Option.some.inj found).symm)
          · rintro (equal | later)
            · rw [← equal]
              rfl
            · exact absurd later absent
        · have different : (key, value) ≠ first := fun equal => same (equal ▸ rfl)
          rw [List.find?_cons_of_neg (by simpa using same), List.mem_cons,
            inductionHypothesis rest, or_iff_right different]
  exact unique map.sorted

/-- **A map is determined by the values of its keys.** -/
theorem ext_get? {left right : SortedMap κ ν} (same : ∀ key, left.get? key = right.get? key) :
    left = right := by
  have : Std.Irrefl fun left right : κ × ν => left.1 < right.1 := ⟨fun _ => lt_irrefl _⟩
  have : Std.Antisymm fun left right : κ × ν => left.1 < right.1 :=
    ⟨fun _ _ before after => absurd (lt_trans before after) (lt_irrefl _)⟩
  refine ext_entries (left.sorted.eq_of_mem_iff right.sorted fun entry => ?_)
  rw [← get?_eq_some, ← get?_eq_some, same]

theorem get?_empty {key : κ} : (empty : SortedMap κ ν).get? key = none := rfl

theorem get?_insert {map : SortedMap κ ν} {key other : κ} {value : ν} :
    (map.insert key value).get? other = if other = key then some value else map.get? other := by
  apply Option.ext
  intro found
  rw [get?_eq_some, mem_insert]
  split_ifs with same
  · simp [same, eq_comm]
  · simp [same, get?_eq_some]

/-- The value of a key in a collected map is the last one given for it. -/
theorem get?_ofList {entries : List (κ × ν)} {key : κ} :
    (ofList entries).get? key = entries.reverse.lookup key := by
  induction entries using List.reverseRecOn with
  | nil => rfl
  | append_singleton entries entry inductionHypothesis =>
      have last : ofList (entries ++ [entry]) = (ofList entries).insert entry.1 entry.2 := by
        simp [ofList]
      rw [last, get?_insert, List.reverse_append, inductionHypothesis]
      show _ = List.lookup key (entry :: entries.reverse)
      rw [List.lookup_cons]
      by_cases same : key = entry.1
      · simp [same]
      · rw [if_neg same, beq_false_of_ne same]

/-- Of two lists, the entries of the second take precedence. -/
theorem get?_ofList_append {first second : List (κ × ν)} {key : κ} :
    (ofList (first ++ second)).get? key =
      ((ofList second).get? key).or ((ofList first).get? key) := by
  simp only [get?_ofList, List.reverse_append, List.lookup_append]

theorem get?_ofList_singleton {key other : κ} {value : ν} :
    (ofList [(key, value)]).get? other = if other = key then some value else none :=
  get?_insert

/-- A key that occurs in no entry has no value. -/
theorem get?_ofList_eq_none {entries : List (κ × ν)} {key : κ}
    (absent : ∀ entry ∈ entries, entry.1 ≠ key) : (ofList entries).get? key = none := by
  rw [get?_ofList, List.lookup_eq_none_iff]
  intro entry member
  exact bne_iff_ne.mpr (absent entry (List.mem_reverse.mp member)).symm

/-- A value found in a collected map was given for its key. -/
theorem mem_of_get?_ofList {entries : List (κ × ν)} {key : κ} {value : ν}
    (found : (ofList entries).get? key = some value) : (key, value) ∈ entries := by
  rw [get?_ofList] at found
  obtain ⟨before, after, split, -⟩ := List.lookup_eq_some_iff.mp found
  refine List.mem_reverse.mp ?_
  rw [split]
  exact List.mem_append_right _ List.mem_cons_self

/-- A key that was given a value has one. -/
theorem exists_get?_ofList {entries : List (κ × ν)} {entry : κ × ν} (isEntry : entry ∈ entries) :
    ∃ value, (ofList entries).get? entry.1 = some value := by
  refine Option.ne_none_iff_exists'.mp fun missing => ?_
  rw [get?_ofList, List.lookup_eq_none_iff] at missing
  exact bne_iff_ne.mp (missing entry (List.mem_reverse.mpr isEntry)) rfl

theorem get?_filter {keep : κ → ν → Bool} {map : SortedMap κ ν} {key : κ} :
    (map.filter keep).get? key = (map.get? key).filter (keep key) := by
  apply Option.ext
  intro value
  rw [get?_eq_some, Option.filter_eq_some_iff, get?_eq_some]
  exact List.mem_filter

/-- The value of a key in a map that was filtered by its keys. -/
theorem get?_filter_key {keep : κ → Bool} {map : SortedMap κ ν} {key : κ} :
    (map.filter fun key _ => keep key).get? key = if keep key then map.get? key else none := by
  rw [get?_filter]
  cases keep key with
  | true => cases map.get? key <;> rfl
  | false => cases map.get? key <;> rfl

/-- Looking up a key among entries that were selected by their keys. -/
theorem lookup_filter {keep : κ → Bool} {entries : List (κ × ν)} {key : κ} :
    List.lookup key (entries.filter fun entry => keep entry.1) =
      if keep key then entries.lookup key else none := by
  induction entries with
  | nil => simp
  | cons entry entries inductionHypothesis =>
      obtain ⟨first, value⟩ := entry
      rw [List.filter_cons]
      by_cases same : key = first
      · subst same
        cases kept : keep key <;> simp [kept, inductionHypothesis]
      · rw [List.lookup_cons, beq_false_of_ne same, ← inductionHypothesis]
        split
        · rw [List.lookup_cons, beq_false_of_ne same]
        · rfl

/-- Filtering by keys can be done before collecting. -/
theorem filter_ofList {keep : κ → Bool} {entries : List (κ × ν)} :
    (ofList entries).filter (fun key _ => keep key) =
      ofList (entries.filter fun entry => keep entry.1) := by
  refine ext_get? fun key => ?_
  rw [get?_filter, get?_ofList, get?_ofList, ← List.filter_reverse, lookup_filter]
  cases keep key with
  | true => cases List.lookup key entries.reverse <;> rfl
  | false => cases List.lookup key entries.reverse <;> rfl

/-! ### Changing the values -/

/-- The map with every value replaced by what `f` makes of it. -/
def mapValues {μ : Type*} (f : ν → μ) (map : SortedMap κ ν) : SortedMap κ μ where
  entries := map.entries.map fun entry => (entry.1, f entry.2)
  sorted := List.pairwise_map.mpr map.sorted

theorem get?_mapValues {μ : Type*} {f : ν → μ} {map : SortedMap κ ν} {key : κ} :
    (map.mapValues f).get? key = (map.get? key).map f := by
  unfold get? mapValues
  rw [List.find?_map, Option.map_map, Option.map_map]
  rfl

/-- **Two maps agree in what `f` makes of their values** when their entries do. -/
theorem mapValues_eq_iff {μ : Type*} {f : ν → μ} {left right : SortedMap κ ν} :
    left.mapValues f = right.mapValues f ↔
      ∀ key, (left.get? key).map f = (right.get? key).map f := by
  constructor
  · intro same key
    rw [← get?_mapValues, same, get?_mapValues]
  · intro same
    refine ext_get? fun key => ?_
    rw [get?_mapValues, get?_mapValues, same]

/-! ### The order in which entries come -/

/-- **Sorting the entries by their keys undoes any other order.** -/
theorem insertionSort_eq_entries {map : SortedMap κ ν} {iterated : List (κ × ν)}
    (sameEntries : iterated.Perm map.entries) :
    iterated.insertionSort (fun left right => left.1 ≤ right.1) = map.entries := by
  have total : Std.Total fun left right : κ × ν => left.1 ≤ right.1 :=
    ⟨fun left right => le_total left.1 right.1⟩
  have transitive : IsTrans (κ × ν) fun left right => left.1 ≤ right.1 :=
    ⟨fun _ _ _ first second => le_trans first second⟩
  refine ((List.perm_insertionSort _ iterated).trans sameEntries).eq_of_pairwise ?_
    (List.pairwise_insertionSort _ iterated) (map.sorted.imp fun before => le_of_lt before)
  intro left right isLeft isRight before after
  have isEntry : left ∈ map.entries :=
    (List.perm_insertionSort _ iterated |>.trans sameEntries).subset isLeft
  have same : left.1 = right.1 := le_antisymm before after
  have found : map.get? left.1 = some left.2 := get?_eq_some.mpr isEntry
  rw [same, get?_eq_some.mpr isRight] at found
  exact Prod.ext same (Option.some.inj found).symm

/-- Entries that agree on every key. -/
def Agree (entries : List (κ × ν)) : Prop :=
  ∀ left ∈ entries, ∀ right ∈ entries, left.1 = right.1 → left.2 = right.2

/-- The value of a key, among entries that agree. -/
theorem Agree.get?_ofList {entries : List (κ × ν)} (agree : Agree entries) {key : κ} {value : ν} :
    (ofList entries).get? key = some value ↔ (key, value) ∈ entries := by
  constructor
  · exact mem_of_get?_ofList
  · intro isEntry
    obtain ⟨other, found⟩ := exists_get?_ofList isEntry
    have isOther : (key, other) ∈ entries := mem_of_get?_ofList found
    exact found.trans (congrArg some (agree _ isOther _ isEntry rfl))

/-- **A map can be collected in any order exactly when its entries agree.** -/
theorem ofList_perm_iff {entries : List (κ × ν)} :
    (∀ iterated : List (κ × ν), iterated.Perm entries → ofList iterated = ofList entries) ↔
      Agree entries := by
  constructor
  · intro free left isLeft right isRight same
    -- an order in which an entry comes last shows its value
    have shows (entry : κ × ν) (isEntry : entry ∈ entries) :
        (ofList entries).get? entry.1 = some entry.2 := by
      obtain ⟨before, after, rfl⟩ := List.append_of_mem isEntry
      have last : (before ++ after ++ [entry]).Perm (before ++ entry :: after) := by
        rw [List.append_assoc]
        exact (List.perm_append_singleton entry after).append_left before
      rw [← free _ last, SortedMap.get?_ofList, List.reverse_append]
      show List.lookup entry.1 (entry :: (before ++ after).reverse) = some entry.2
      rw [List.lookup_cons, beq_self_eq_true]
    have first := shows left isLeft
    rw [same, shows right isRight] at first
    exact (Option.some.inj first).symm
  · intro agree iterated sameEntries
    have agrees : Agree iterated := fun left isLeft right isRight =>
      agree left (sameEntries.subset isLeft) right (sameEntries.subset isRight)
    refine ext_get? fun key => Option.ext fun value => ?_
    rw [agrees.get?_ofList, agree.get?_ofList]
    exact sameEntries.mem_iff

end SortedMap
