import Hiraeth.Sns.ActionSupport

/-!
# Maps among the parameters of a request

Attributes and tags are sent as pairs of parameters with a common index.  They are gathered
in a hash map by their indices, and the complete pairs are collected in a second one; each of
the two is visited in an order that is not the same in every run.  This makes a difference
when two indices carry one key.

## Main definitions

* `IndexedNames` — how the two parameters of a pair are named
* `DecodesTo` — the maps that some run decodes
* `Carries` — what a request sends
* `encodeMap` — the usual encoding of a map

## Main results

* `gathered_complete_iff` — what is gathered, in any order
* `snsMaps_orderFree_iff` — when all runs decode the same map
-/

namespace Hiraeth

open Interaction

/-- **How the two parameters of a pair are named**: what their names start with, and how they
end after the index. -/
structure IndexedNames where
  start : Text
  keyName : Text
  valueName : Text
  different : keyName ≠ valueName

namespace IndexedNames

/-- The names of attributes. -/
def attributes : IndexedNames where
  start := "Attributes.entry."
  keyName := "key"
  valueName := "value"
  different := by decide

/-- The names of tags. -/
def tags : IndexedNames where
  start := "Tags.member."
  keyName := "Key"
  valueName := "Value"
  different := by decide

variable (names : IndexedNames)

/-- The parameter with this index and this ending. -/
def param (index ending : Text) : Text :=
  names.start ++ (index ++ '.' :: ending)

/-- What one parameter adds to the entries that were gathered. -/
def gatherParam (entries : SortedMap Text HalfEntry) (param : Text × Text) :
    SortedMap Text HalfEntry :=
  match (stripPrefix names.start param.1).bind (Separated.splitFirst '.') with
  | none => entries
  | some (index, suffix) =>
      let entry := (entries.get? index).getD (none, none)
      entries.insert index
        (if suffix = names.keyName then (some param.2, entry.2)
        else if suffix = names.valueName then (entry.1, some param.2)
        else entry)

/-- The entries that are gathered from parameters that are visited in this order. -/
def gather (iterated : List (Text × Text)) : SortedMap Text HalfEntry :=
  iterated.foldl names.gatherParam .empty

/-- **The maps that some run decodes.**  The parameters are visited in some order, and so are
the entries that were gathered. -/
def DecodesTo (raw decoded : AttributeMap) : Prop :=
  ∃ (iterated : List (Text × Text)) (values : List (Text × HalfEntry)),
    iterated.Perm raw.entries ∧ values.Perm (names.gather iterated).entries ∧
      decoded = SortedMap.ofList (values.filterMap fun entry => HalfEntry.complete entry.2)

/-- All runs decode one map. -/
def OrderFree (raw : AttributeMap) : Prop :=
  ∀ decoded decoded', names.DecodesTo raw decoded → names.DecodesTo raw decoded' →
    decoded = decoded'

/-- **What a request sends**: a key with a value, under one index. -/
def Carries (raw : AttributeMap) (key value : Text) : Prop :=
  ∃ index, '.' ∉ index ∧ raw.get? (names.param index names.keyName) = some key ∧
    raw.get? (names.param index names.valueName) = some value

/-- The parameters of an entry with this number. -/
def encodeEntry (entry : (Text × Text) × ℕ) : List (Text × Text) :=
  [(names.param (toString entry.2).toList names.keyName, entry.1.1),
    (names.param (toString entry.2).toList names.valueName, entry.1.2)]

/-- **The usual encoding of a map**: its entries, numbered from one. -/
def encodeMap (map : AttributeMap) : List (Text × Text) :=
  (map.entries.zipIdx 1).flatMap names.encodeEntry

end IndexedNames

/-- The decoders visit their maps in one of these orders. -/
theorem decodesTo_snsAttributes (raw : AttributeMap) :
    IndexedNames.attributes.DecodesTo raw (snsAttributes raw) :=
  ⟨_, _, List.Perm.refl _, List.Perm.refl _, rfl⟩

theorem decodesTo_snsTags (raw : AttributeMap) :
    IndexedNames.tags.DecodesTo raw (snsTags raw) :=
  ⟨_, _, List.Perm.refl _, List.Perm.refl _, rfl⟩

namespace IndexedNames

variable {names : IndexedNames}

/-! ### Gathering -/

theorem complete_eq_some {entry : HalfEntry} {key value : Text} :
    HalfEntry.complete entry = some (key, value) ↔ entry = (some key, some value) := by
  obtain ⟨_ | first, _ | second⟩ := entry
  all_goals simp [HalfEntry.complete]

/-- A parameter is determined by its index and its ending. -/
theorem param_inj {index index' ending ending' : Text} (plain : '.' ∉ index)
    (plain' : '.' ∉ index') (same : names.param index ending = names.param index' ending') :
    index = index' ∧ ending = ending' :=
  Separated.append_cons_inj plain plain' (List.append_cancel_left same)

/-- A parameter that stands for a half of an entry. -/
theorem cut_eq_some {param index suffix : Text} :
    (stripPrefix names.start param).bind (Separated.splitFirst '.') = some (index, suffix) ↔
      param = names.param index suffix ∧ '.' ∉ index := by
  rw [Option.bind_eq_some_iff]
  constructor
  · rintro ⟨rest, strips, splits⟩
    obtain ⟨rfl, plain⟩ := Separated.splitFirst_eq_some.mp splits
    exact ⟨stripPrefix_eq_some.mp strips, plain⟩
  · rintro ⟨rfl, plain⟩
    exact ⟨_, stripPrefix_eq_some.mpr rfl, Separated.splitFirst_eq_some.mpr ⟨rfl, plain⟩⟩

/-- One more parameter. -/
theorem gather_snoc (iterated : List (Text × Text)) (param : Text × Text) :
    names.gather (iterated ++ [param]) = names.gatherParam (names.gather iterated) param := by
  unfold gather
  rw [List.foldl_append]
  rfl

/-- The half of an entry that a parameter with this ending stands for. -/
def half (_ : IndexedNames) (entries : SortedMap Text HalfEntry) (index : Text)
    (isKey : Bool) : Option Text :=
  let entry := (entries.get? index).getD (none, none)
  if isKey then entry.1 else entry.2

/-- The ending of the parameter for a half. -/
def ending (names : IndexedNames) (isKey : Bool) : Text :=
  if isKey then names.keyName else names.valueName

/-- **What one parameter does to the halves of the entries.** -/
theorem half_gatherParam {entries : SortedMap Text HalfEntry} {param : Text × Text} {index : Text}
    (plain : '.' ∉ index) (isKey : Bool) :
    names.half (names.gatherParam entries param) index isKey =
      if param.1 = names.param index (names.ending isKey) then some param.2
      else names.half entries index isKey := by
  obtain ⟨name, value⟩ := param
  unfold gatherParam
  cases cut : (stripPrefix names.start name).bind (Separated.splitFirst '.') with
  | none =>
      have other : name ≠ names.param index (names.ending isKey) := by
        intro same
        rw [cut_eq_some.mpr ⟨same, plain⟩] at cut
        cases cut
      dsimp only
      rw [if_neg other]
  | some parts =>
      obtain ⟨own, suffix⟩ := parts
      obtain ⟨rfl, plainOwn⟩ := cut_eq_some.mp cut
      dsimp only
      by_cases same : own = index
      · subst same
        have sameName : names.param own suffix = names.param own (names.ending isKey) ↔
            suffix = names.ending isKey :=
          ⟨fun equal => (param_inj plain plain equal).2, fun equal => by rw [equal]⟩
        unfold half
        rw [SortedMap.get?_insert, if_pos rfl]
        simp only [sameName, Option.getD_some]
        have different := names.different
        cases isKey with
        | true =>
            by_cases isKeyName : suffix = names.keyName
            · simp [ending, isKeyName]
            · by_cases isValueName : suffix = names.valueName
              · simp [ending, isValueName, different.symm]
              · simp [ending, isKeyName, isValueName]
        | false =>
            by_cases isKeyName : suffix = names.keyName
            · simp [ending, isKeyName, different]
            · by_cases isValueName : suffix = names.valueName
              · simp [ending, isValueName, different.symm]
              · simp [ending, isKeyName, isValueName]
      · have other : names.param own suffix ≠ names.param index (names.ending isKey) := by
          intro equal
          exact same (param_inj plainOwn plain equal).1
        rw [if_neg other]
        unfold half
        rw [SortedMap.get?_insert, if_neg (Ne.symm same)]

/-- **What is gathered of a half**: the value of its parameter. -/
theorem half_gather (iterated : List (Text × Text)) {index : Text} (plain : '.' ∉ index)
    (isKey : Bool) :
    names.half (names.gather iterated) index isKey =
      (SortedMap.ofList iterated).get? (names.param index (names.ending isKey)) := by
  induction iterated using List.reverseRecOn with
  | nil => cases isKey <;> rfl
  | append_singleton iterated param inductionHypothesis =>
      rw [gather_snoc, half_gatherParam plain, inductionHypothesis, SortedMap.get?_ofList_append]
      obtain ⟨name, value⟩ := param
      rw [SortedMap.get?_ofList_singleton]
      by_cases same : name = names.param index (names.ending isKey)
      · subst same
        simp
      · rw [if_neg same, if_neg (Ne.symm same)]
        rfl

/-- Entries are gathered under indices without dots. -/
theorem plain_of_gathered {iterated : List (Text × Text)} {index : Text} {entry : HalfEntry}
    (gathered : (names.gather iterated).get? index = some entry) : '.' ∉ index := by
  induction iterated using List.reverseRecOn generalizing entry with
  | nil => cases gathered
  | append_singleton iterated param inductionHypothesis =>
      rw [gather_snoc, gatherParam] at gathered
      cases cut : (stripPrefix names.start param.1).bind (Separated.splitFirst '.') with
      | none =>
          rw [cut] at gathered
          exact inductionHypothesis gathered
      | some parts =>
          rw [cut] at gathered
          dsimp only at gathered
          rw [SortedMap.get?_insert] at gathered
          by_cases same : index = parts.1
          · subst same
            exact (cut_eq_some.mp cut).2
          · rw [if_neg same] at gathered
            exact inductionHypothesis gathered

/-- **The complete entries that are gathered**, in whatever order the parameters are
visited. -/
theorem gathered_complete_iff {raw : AttributeMap} {iterated : List (Text × Text)}
    (sameEntries : iterated.Perm raw.entries) {index key value : Text} :
    (names.gather iterated).get? index = some (some key, some value) ↔
      '.' ∉ index ∧ raw.get? (names.param index names.keyName) = some key ∧
        raw.get? (names.param index names.valueName) = some value := by
  have agree : SortedMap.Agree raw.entries := by
    intro left isLeft right isRight same
    have first : raw.get? left.1 = some left.2 := SortedMap.get?_eq_some.mpr isLeft
    rw [same, SortedMap.get?_eq_some.mpr isRight] at first
    exact (Option.some.inj first).symm
  have collected : SortedMap.ofList iterated = raw := by
    rw [SortedMap.ofList_perm_iff.mpr agree iterated sameEntries, SortedMap.ofList_entries]
  have keyHalf (plain : '.' ∉ index) := @half_gather names iterated index plain true
  have valueHalf (plain : '.' ∉ index) := @half_gather names iterated index plain false
  rw [collected] at keyHalf valueHalf
  constructor
  · intro gathered
    have plain := plain_of_gathered gathered
    have isKey := keyHalf plain
    have isValue := valueHalf plain
    unfold half at isKey isValue
    rw [gathered] at isKey isValue
    exact ⟨plain, isKey.symm, isValue.symm⟩
  · rintro ⟨plain, isKey, isValue⟩
    have keyIs := (keyHalf plain).trans isKey
    have valueIs := (valueHalf plain).trans isValue
    unfold half at keyIs valueIs
    cases gathered : (names.gather iterated).get? index with
    | none => rw [gathered] at keyIs; cases keyIs
    | some entry =>
        rw [gathered] at keyIs valueIs
        exact congrArg some (Prod.ext keyIs valueIs)

/-- **What a run reads**, among other parameters: the pairs that are collected are those that
the request sends. -/
theorem mem_collected_iff {raw : AttributeMap} {iterated : List (Text × Text)}
    {values : List (Text × HalfEntry)} (sameEntries : iterated.Perm raw.entries)
    (sameValues : values.Perm (names.gather iterated).entries) {key value : Text} :
    (key, value) ∈ values.filterMap (fun entry => HalfEntry.complete entry.2) ↔
      names.Carries raw key value := by
  have gathered (index : Text) :
      (names.gather iterated).get? index = some (some key, some value) ↔ _ :=
    gathered_complete_iff sameEntries
  rw [List.mem_filterMap]
  constructor
  · rintro ⟨⟨index, entry⟩, isEntry, complete⟩
    have isBoth : entry = (some key, some value) := complete_eq_some.mp complete
    subst isBoth
    exact ⟨index, (gathered index).mp (SortedMap.get?_eq_some.mpr (sameValues.subset isEntry))⟩
  · rintro ⟨index, carried⟩
    have isEntry := SortedMap.get?_eq_some.mp ((gathered index).mpr carried)
    exact ⟨(index, some key, some value), sameValues.symm.subset isEntry, rfl⟩

/-! ### Orders -/

/-- **A request that sends one value for every key** is decoded to what it sends. -/
theorem get?_of_decodesTo {raw decoded : AttributeMap}
    (single : ∀ key value value', names.Carries raw key value → names.Carries raw key value' →
      value = value')
    (decodes : names.DecodesTo raw decoded) {key value : Text} :
    decoded.get? key = some value ↔ names.Carries raw key value := by
  obtain ⟨iterated, values, sameEntries, sameValues, rfl⟩ := decodes
  have collected {key value : Text} :
      (key, value) ∈ values.filterMap (fun entry => HalfEntry.complete entry.2) ↔
        names.Carries raw key value := mem_collected_iff sameEntries sameValues
  have agree : SortedMap.Agree (values.filterMap fun entry => HalfEntry.complete entry.2) := by
    rintro ⟨key, value⟩ isLeft ⟨other, value'⟩ isRight same
    have equal : key = other := same
    subst equal
    exact single key value value' (collected.mp isLeft) (collected.mp isRight)
  exact agree.get?_ofList.trans collected

/-- Every pair that a request sends is seen by some run. -/
theorem decodesTo_of_carries {raw : AttributeMap} {key value : Text}
    (carried : names.Carries raw key value) :
    ∃ decoded, names.DecodesTo raw decoded ∧ decoded.get? key = some value := by
  obtain ⟨index, isCarried⟩ := carried
  have isEntry := SortedMap.get?_eq_some.mp
    ((gathered_complete_iff (List.Perm.refl raw.entries)).mpr isCarried)
  obtain ⟨before, after, split⟩ := List.append_of_mem isEntry
  -- the order in which this entry comes last
  refine ⟨_, ⟨raw.entries, before ++ after ++ [(index, some key, some value)], List.Perm.refl _,
    ?_, rfl⟩, ?_⟩
  · rw [split, List.append_assoc]
    exact (List.perm_append_singleton _ after).append_left before
  · rw [List.filterMap_append, SortedMap.get?_ofList_append]
    show Option.or ((SortedMap.ofList [(key, value)]).get? key) _ = some value
    rw [SortedMap.get?_ofList_singleton, if_pos rfl]
    rfl

/-- **The order matters exactly when two indices carry one key with different values.** -/
theorem orderFree_iff (raw : AttributeMap) :
    names.OrderFree raw ↔
      ∀ key value value', names.Carries raw key value → names.Carries raw key value' →
        value = value' := by
  constructor
  · intro free key value value' carried carried'
    obtain ⟨decoded, decodes, shows⟩ := decodesTo_of_carries carried
    obtain ⟨decoded', decodes', shows'⟩ := decodesTo_of_carries carried'
    rw [free decoded decoded' decodes decodes', shows'] at shows
    exact (Option.some.inj shows).symm
  · intro single decoded decoded' decodes decodes'
    refine SortedMap.ext_get? fun key => Option.ext fun value => ?_
    rw [get?_of_decodesTo single decodes, get?_of_decodesTo single decodes']

/-! ### Encoding -/

/-- A number is written without dots, and determined by how it is written. -/
theorem plain_toString (number : ℕ) : '.' ∉ (toString number).toList := by
  intro isDot
  rw [toString_digits] at isDot
  exact absurd (Nat.isDigit_of_mem_toDigits (by decide) (by decide) isDot) (by decide)

theorem toString_inj {number number' : ℕ}
    (same : (toString number).toList = (toString number').toList) : number = number' := by
  have reads := parseDigits_toString number
  rw [same, parseDigits_toString] at reads
  exact (Option.some.inj reads).symm

/-- The parameters of an encoding. -/
theorem mem_encodeMap {map : AttributeMap} {name text : Text} :
    (name, text) ∈ names.encodeMap map ↔
      ∃ (entry : Text × Text) (number : ℕ), (entry, number) ∈ map.entries.zipIdx 1 ∧
        ((name = names.param (toString number).toList names.keyName ∧ text = entry.1) ∨
          (name = names.param (toString number).toList names.valueName ∧ text = entry.2)) := by
  unfold encodeMap
  rw [List.mem_flatMap]
  constructor
  · rintro ⟨⟨entry, number⟩, isEntry, isParam⟩
    simp only [encodeEntry, List.mem_cons, Prod.mk.injEq, List.not_mem_nil, or_false] at isParam
    exact ⟨entry, number, isEntry, isParam⟩
  · rintro ⟨entry, number, isEntry, isParam⟩
    refine ⟨(entry, number), isEntry, ?_⟩
    simp only [encodeEntry, List.mem_cons, Prod.mk.injEq, List.not_mem_nil, or_false]
    exact isParam

/-- Entries with the same number are the same. -/
theorem entry_of_number {map : AttributeMap} {left right : Text × Text} {number : ℕ}
    (isLeft : (left, number) ∈ map.entries.zipIdx 1)
    (isRight : (right, number) ∈ map.entries.zipIdx 1) : left = right := by
  obtain ⟨-, first⟩ := List.mk_mem_zipIdx_iff_le_and_getElem?_sub.mp isLeft
  obtain ⟨-, second⟩ := List.mk_mem_zipIdx_iff_le_and_getElem?_sub.mp isRight
  rw [first] at second
  exact Option.some.inj second

/-- The parameter of a half of an entry occurs in the encoding with the value of this half. -/
theorem mem_encodeMap_param {map : AttributeMap} {index text : Text} (plain : '.' ∉ index)
    (isKey : Bool) :
    (names.param index (names.ending isKey), text) ∈ names.encodeMap map ↔
      ∃ (entry : Text × Text) (number : ℕ), (entry, number) ∈ map.entries.zipIdx 1 ∧
        index = (toString number).toList ∧ text = if isKey then entry.1 else entry.2 := by
  have different := names.different
  rw [mem_encodeMap]
  constructor
  · rintro ⟨entry, number, isEntry, ⟨sameName, rfl⟩ | ⟨sameName, rfl⟩⟩
    all_goals
      obtain ⟨rfl, sameEnding⟩ := param_inj plain (plain_toString number) sameName
      refine ⟨entry, number, isEntry, rfl, ?_⟩
      cases isKey
    · exact absurd sameEnding different.symm
    · rfl
    · rfl
    · exact absurd sameEnding different
  · rintro ⟨entry, number, isEntry, rfl, rfl⟩
    refine ⟨entry, number, isEntry, ?_⟩
    cases isKey with
    | true => exact Or.inl ⟨rfl, rfl⟩
    | false => exact Or.inr ⟨rfl, rfl⟩

/-- The parameters of an encoding agree. -/
theorem agree_encodeMap (map : AttributeMap) : SortedMap.Agree (names.encodeMap map) := by
  have value (name text : Text) (isParam : (name, text) ∈ names.encodeMap map) :
      ∃ (index : Text) (isKey : Bool), '.' ∉ index ∧ name = names.param index (names.ending isKey) := by
    obtain ⟨entry, number, -, ⟨rfl, -⟩ | ⟨rfl, -⟩⟩ := mem_encodeMap.mp isParam
    · exact ⟨_, true, plain_toString number, rfl⟩
    · exact ⟨_, false, plain_toString number, rfl⟩
  rintro ⟨name, text⟩ isLeft ⟨other, text'⟩ isRight same
  have equal : name = other := same
  subst equal
  obtain ⟨index, isKey, plain, rfl⟩ := value name text isLeft
  obtain ⟨entry, number, isEntry, sameIndex, rfl⟩ := (mem_encodeMap_param plain isKey).mp isLeft
  obtain ⟨entry', number', isEntry', sameIndex', rfl⟩ :=
    (mem_encodeMap_param plain isKey).mp isRight
  obtain rfl := toString_inj (sameIndex.symm.trans sameIndex')
  rw [entry_of_number isEntry isEntry']

/-- **What the encoding of a map carries**: its entries, whatever else is sent. -/
theorem carries_encodeMap {others : List (Text × Text)} {map : AttributeMap}
    (apart : ∀ param ∈ others, stripPrefix names.start param.1 = none) {key value : Text} :
    names.Carries (SortedMap.ofList (others ++ names.encodeMap map)) key value ↔
      map.get? key = some value := by
  have sent {index text : Text} (plain : '.' ∉ index) (isKey : Bool) :
      (SortedMap.ofList (others ++ names.encodeMap map)).get?
          (names.param index (names.ending isKey)) = some text ↔
        ∃ (entry : Text × Text) (number : ℕ), (entry, number) ∈ map.entries.zipIdx 1 ∧
          index = (toString number).toList ∧ text = if isKey then entry.1 else entry.2 := by
    have absent : (SortedMap.ofList others).get? (names.param index (names.ending isKey)) = none :=
      SortedMap.get?_ofList_eq_none fun param isParam same => by
        have strips := apart param isParam
        rw [stripPrefix_eq_some.mpr same] at strips
        cases strips
    rw [SortedMap.get?_ofList_append, absent, Option.or_none, (agree_encodeMap map).get?_ofList,
      mem_encodeMap_param plain isKey]
  rw [SortedMap.get?_eq_some]
  constructor
  · rintro ⟨index, plain, isKey, isValue⟩
    obtain ⟨entry, number, isEntry, sameIndex, rfl⟩ := (sent plain true).mp isKey
    obtain ⟨entry', number', isEntry', sameIndex', rfl⟩ := (sent plain false).mp isValue
    obtain rfl := toString_inj (sameIndex.symm.trans sameIndex')
    obtain rfl := entry_of_number isEntry isEntry'
    exact List.fst_mem_of_mem_zipIdx isEntry
  · intro isEntry
    obtain ⟨position, bound, found⟩ := List.mem_iff_getElem.mp isEntry
    have numbered : ((key, value), 1 + position) ∈ map.entries.zipIdx 1 :=
      List.mk_add_mem_zipIdx_iff_getElem?.mpr (List.getElem?_eq_some_iff.mpr ⟨bound, found⟩)
    exact ⟨_, plain_toString _, (sent (plain_toString _) true).mpr ⟨_, _, numbered, rfl, rfl⟩,
      (sent (plain_toString _) false).mpr ⟨_, _, numbered, rfl, rfl⟩⟩

/-- **Every run decodes an encoded map to this map.** -/
theorem decodesTo_encodeMap {others : List (Text × Text)} {map : AttributeMap}
    (apart : ∀ param ∈ others, stripPrefix names.start param.1 = none) (decoded : AttributeMap) :
    names.DecodesTo (SortedMap.ofList (others ++ names.encodeMap map)) decoded ↔ decoded = map := by
  have carries {key value : Text} :
      names.Carries (SortedMap.ofList (others ++ names.encodeMap map)) key value ↔
        map.get? key = some value := carries_encodeMap apart
  have single (key value value' : Text)
      (carried : names.Carries (SortedMap.ofList (others ++ names.encodeMap map)) key value)
      (carried' : names.Carries (SortedMap.ofList (others ++ names.encodeMap map)) key value') :
      value = value' := by
    have found := carries.mp carried
    rw [carries.mp carried'] at found
    exact (Option.some.inj found).symm
  have only {decoded : AttributeMap}
      (decodes : names.DecodesTo (SortedMap.ofList (others ++ names.encodeMap map)) decoded) :
      decoded = map :=
    SortedMap.ext_get? fun key => Option.ext fun value =>
      (get?_of_decodesTo single decodes).trans carries
  constructor
  · exact only
  · rintro rfl
    have decodes : names.DecodesTo (SortedMap.ofList (others ++ names.encodeMap decoded)) _ :=
      ⟨_, _, List.Perm.refl _, List.Perm.refl _, rfl⟩
    have isMap := only decodes
    rwa [isMap] at decodes

end IndexedNames

/-- **When the decoded map is a function of the request.**  It is so exactly when no two indices
carry one key with different values.  The encoding of a map is always decoded to this map. -/
theorem snsMaps_orderFree_iff (names : IndexedNames) :
    (∀ params : List (Text × Text),
      names.OrderFree (SortedMap.ofList params) ↔
        ∀ key value value', names.Carries (SortedMap.ofList params) key value →
          names.Carries (SortedMap.ofList params) key value' → value = value') ∧
    ∀ (others : List (Text × Text)) (map : AttributeMap),
      (∀ param ∈ others, stripPrefix names.start param.1 = none) →
        ∀ decoded, names.DecodesTo (SortedMap.ofList (others ++ names.encodeMap map)) decoded ↔
          decoded = map :=
  ⟨fun _ => IndexedNames.orderFree_iff _, fun _ _ apart decoded =>
    IndexedNames.decodesTo_encodeMap apart decoded⟩

/-- A tag that is sent twice. -/
def repeatedTag : List (Text × Text) :=
  [("Tags.member.1.Key", "team"), ("Tags.member.1.Value", "red"),
    ("Tags.member.2.Key", "team"), ("Tags.member.2.Value", "blue")]

/-- Two runs decode it to different maps. -/
theorem not_orderFree_repeatedTag :
    ¬ IndexedNames.tags.OrderFree (SortedMap.ofList repeatedTag) := by
  intro free
  have reversed : IndexedNames.tags.DecodesTo (SortedMap.ofList repeatedTag) _ :=
    ⟨_, _, List.Perm.refl _, List.reverse_perm _, rfl⟩
  have first := congrArg (·.get? "team") (free _ _ (decodesTo_snsTags _) reversed)
  revert first
  decide +kernel

/-- The encoding of two tags, after the parameters of an action. -/
theorem snsMaps_orderFree_iff_twoTags :
    IndexedNames.tags.DecodesTo
      (SortedMap.ofList ([(("Action" : Text), ("TagResource" : Text))] ++
        IndexedNames.tags.encodeMap (SortedMap.ofList
          [(("team" : Text), ("red" : Text)), (("stage" : Text), ("test" : Text))])))
      (SortedMap.ofList [(("team" : Text), ("red" : Text)), (("stage" : Text), ("test" : Text))]) :=
  ((snsMaps_orderFree_iff IndexedNames.tags).2 _ _
    (by
      intro param isParam
      obtain rfl := List.mem_singleton.mp isParam
      decide +kernel) _).mpr rfl

end Hiraeth
