import Hiraeth.Sqs.Accepted

/-!
# What the digest of message attributes is taken of

The names, the data types and the values of the attributes are written one after the other
into a buffer, each after its length, in the order of the names.  The buffer determines all
of them, and it is the same in whatever order the attributes are visited.

## Main definitions

* `attributesBuffer` — the buffer, for attributes that come in some order
* `DigestedAttribute` — what is written for one attribute
* `SameAttributes` — attributes that agree in all that counts

## Main results

* `readsOff_code` — what is written for an attribute can be read off
* `attributesBuffer_eq_iff` — equal buffers are buffers of the same attributes
-/

namespace Hiraeth

open Interaction ByteText

/-- The buffer of `calculate_message_attributes_md5`: the attributes are sorted by their
names, and written one after the other. -/
def attributesBuffer (library : SqsLibrary) (iterated : List (Text × MessageAttributeValue)) :
    Except SqsError Bytes := do
  let pieces ← (iterated.insertionSort fun left right => left.1 ≤ right.1).mapM fun entry =>
    digestedAttribute library entry.1 entry.2
  return pieces.flatten

/-- **The order in which the map is visited makes no difference.** -/
theorem attributesBuffer_perm (library : SqsLibrary) {attributes : MessageAttributes}
    {iterated : List (Text × MessageAttributeValue)}
    (sameEntries : iterated.Perm attributes.entries) :
    attributesBuffer library iterated = attributesBuffer library attributes.entries := by
  unfold attributesBuffer
  rw [SortedMap.insertionSort_eq_entries sameEntries,
    SortedMap.insertionSort_eq_entries (List.Perm.refl _)]

/-- The digest is taken of the buffer. -/
theorem calculateMessageAttributesMd5_eq (library : SqsLibrary) (attributes : MessageAttributes) :
    calculateMessageAttributesMd5 library attributes =
      (attributesBuffer library attributes.entries).map (md5Hex library) := by
  unfold calculateMessageAttributesMd5 attributesBuffer
  rw [SortedMap.insertionSort_eq_entries (List.Perm.refl _)]
  cases attributes.entries.mapM fun entry => digestedAttribute library entry.1 entry.2 <;> rfl

/-! ### Lengths -/

/-- **A length below 2^32 can be read off its four bytes.** -/
theorem lengthBytes_injective {left right : ℕ} (short : left < 4294967296)
    (short' : right < 4294967296) (same : lengthBytes left = lengthBytes right) :
    left = right := by
  unfold lengthBytes at same
  simp only [List.cons.injEq, and_true] at same
  obtain ⟨first, second, third, fourth⟩ := same
  have byte {a b : ℕ} (equal : UInt8.ofNat a = UInt8.ofNat b) : a % 256 = b % 256 := by
    have numbers := congrArg UInt8.toNat equal
    rwa [UInt8.toNat_ofNat', UInt8.toNat_ofNat'] at numbers
  have high := byte first
  have middle := byte second
  have low := byte third
  have lowest := byte fourth
  omega

/-- **Bytes after their length can be read off whatever follows.** -/
theorem lengthPrefixed_append_inj {left right rest rest' : Bytes}
    (short : left.length < 4294967296) (short' : right.length < 4294967296)
    (same : lengthPrefixed left ++ rest = lengthPrefixed right ++ rest') :
    left = right ∧ rest = rest' := by
  unfold lengthPrefixed at same
  rw [List.append_assoc, List.append_assoc] at same
  obtain ⟨lengths, bytes⟩ := List.append_inj same rfl
  exact List.append_inj bytes (lengthBytes_injective short short' lengths)

/-! ### One attribute -/

/-- **What is written for one attribute**: its name, its data type, the kind of its value and
the bytes of the value, none of them longer than a length can say. -/
structure DigestedAttribute where
  name : Text
  dataType : Text
  kind : UInt8
  payload : Bytes
  shortName : name.utf8.length < 4294967296
  shortDataType : dataType.utf8.length < 4294967296
  shortPayload : payload.length < 4294967296

namespace DigestedAttribute

/-- How it is written. -/
def code (record : DigestedAttribute) : Bytes :=
  lengthPrefixed record.name.utf8 ++ (lengthPrefixed record.dataType.utf8 ++
    record.kind :: lengthPrefixed record.payload)

/-- **What is written for an attribute can be read off.** -/
theorem readsOff_code : ReadsOff code where
  ne_nil := by
    intro record
    exact nofun
  first := by
    intro left right rest rest' same
    unfold code at same
    simp only [List.append_assoc, List.cons_append] at same
    obtain ⟨names, same⟩ := lengthPrefixed_append_inj left.shortName right.shortName same
    obtain ⟨dataTypes, same⟩ :=
      lengthPrefixed_append_inj left.shortDataType right.shortDataType same
    obtain ⟨kinds, same⟩ := List.cons.inj same
    obtain ⟨payloads, -⟩ := lengthPrefixed_append_inj left.shortPayload right.shortPayload same
    obtain ⟨name, dataType, kind, payload, _, _, _⟩ := left
    obtain rfl : name = right.name := Text.utf8_injective names
    obtain rfl : dataType = right.dataType := Text.utf8_injective dataTypes
    obtain rfl : kind = right.kind := kinds
    obtain rfl : payload = right.payload := payloads
    rfl

end DigestedAttribute

/-- The value of the kind that the data type selects. -/
def MessageAttributeValue.selectedValue (value : MessageAttributeValue) : Option Text :=
  if value.isBinary then value.binaryValue else value.stringValue

/-- What counts of a value: its data type, and the value of the kind that this selects. -/
def MessageAttributeValue.selected (value : MessageAttributeValue) : Text × Option Text :=
  (value.dataType, value.selectedValue)

/-- **Attributes that agree in all that counts**: the same names, and under each name the
same data type and the same value of the kind that it selects. -/
def SameAttributes (left right : MessageAttributes) : Prop :=
  ∀ name, (left.get? name).map MessageAttributeValue.selected =
    (right.get? name).map MessageAttributeValue.selected

/-- The values of an attribute are no longer than a length can say. -/
structure ShortValue (library : SqsLibrary) (value : MessageAttributeValue) : Prop where
  text : ∀ text, value.stringValue = some text → text.utf8.length < 4294967296
  binary : ∀ text bytes, value.binaryValue = some text → library.decodeBase64 text = .ok bytes →
    bytes.length < 4294967296

section Digested

variable {library : SqsLibrary}

/-- What is written for an entry of the map. -/
structure Digests (library : SqsLibrary) (entry : Text × MessageAttributeValue)
    (record : DigestedAttribute) : Prop where
  name : record.name = entry.1
  dataType : record.dataType = entry.2.dataType
  payload : ∃ text, entry.2.selectedValue = some text ∧
    if entry.2.isBinary then library.decodeBase64 text = .ok record.payload
    else record.payload = text.utf8

/-- The check of a name bounds its length. -/
theorem short_of_validateMessageAttributeName {name : Text}
    (checked : validateMessageAttributeName name = .ok ()) : name.utf8.length < 4294967296 := by
  unfold validateMessageAttributeName at checked
  by_cases long : name = [] ∨ 256 < (Text.utf8 name).length
  · rw [if_pos long] at checked
    cases checked
  · have short := (not_or.mp long).2
    omega

/-- So does the check of a value for its data type. -/
theorem short_of_validateMessageAttributeValue {name : Text} {value : MessageAttributeValue}
    (checked : validateMessageAttributeValue name value = .ok ()) :
    value.dataType.utf8.length < 4294967296 := by
  unfold validateMessageAttributeValue at checked
  by_cases long : value.dataType = [] ∨ 256 < (Text.utf8 value.dataType).length
  · rw [if_pos long] at checked
    cases checked
  · have short := (not_or.mp long).2
    omega

/-- **What is written for an attribute that was accepted.** -/
theorem exists_digests {entry : Text × MessageAttributeValue} {piece : Bytes}
    (named : validateMessageAttributeName entry.1 = .ok ())
    (valid : validateMessageAttributeValue entry.1 entry.2 = .ok ())
    (short : ShortValue library entry.2)
    (digested : digestedAttribute library entry.1 entry.2 = .ok piece) :
    ∃ record : DigestedAttribute, Digests library entry record ∧ record.code = piece := by
  obtain ⟨name, value⟩ := entry
  have shortName := short_of_validateMessageAttributeName named
  have shortDataType := short_of_validateMessageAttributeValue valid
  unfold digestedAttribute at digested
  dsimp only at digested
  by_cases binary : value.isBinary = true
  · rw [if_pos binary] at digested
    cases given : value.binaryValue with
    | none => rw [given] at digested; cases digested
    | some text =>
        rw [given] at digested
        dsimp only at digested
        cases decoded : library.decodeBase64 text with
        | error failure => rw [decoded] at digested; cases digested
        | ok bytes =>
            rw [decoded] at digested
            refine ⟨⟨name, value.dataType, 2, bytes, shortName, shortDataType,
              short.binary text bytes given decoded⟩, ⟨rfl, rfl, text, ?_, ?_⟩, ?_⟩
            · rw [MessageAttributeValue.selectedValue, if_pos binary, given]
            · rw [if_pos binary, decoded]
            · rw [← Except.ok.inj digested]
              exact (List.append_assoc _ _ _).symm
  · rw [if_neg binary] at digested
    cases given : value.stringValue with
    | none => rw [given] at digested; cases digested
    | some text =>
        rw [given] at digested
        refine ⟨⟨name, value.dataType, 1, text.utf8, shortName, shortDataType,
          short.text text given⟩, ⟨rfl, rfl, text, ?_, ?_⟩, ?_⟩
        · rw [MessageAttributeValue.selectedValue, if_neg binary, given]
        · rw [if_neg binary]
        · rw [← Except.ok.inj digested]
          exact (List.append_assoc _ _ _).symm

/-- What is written of the value depends on what counts of it. -/
theorem digestedAttribute_selected {name : Text} {left right : MessageAttributeValue}
    (same : left.selected = right.selected) {piece : Bytes}
    (digested : digestedAttribute library name left = .ok piece) :
    digestedAttribute library name right = .ok piece := by
  obtain ⟨dataTypes, values⟩ := Prod.mk.inj same
  have kinds : left.isBinary = right.isBinary := by
    unfold MessageAttributeValue.isBinary
    rw [dataTypes]
  unfold MessageAttributeValue.selectedValue at values
  unfold digestedAttribute at digested ⊢
  dsimp only at digested ⊢
  rw [kinds, dataTypes] at digested
  by_cases binary : right.isBinary = true
  · rw [kinds, if_pos binary, if_pos binary] at values
    rw [if_pos binary, values] at digested
    rw [if_pos binary]
    exact digested
  · rw [kinds, if_neg binary, if_neg binary] at values
    rw [if_neg binary, values] at digested
    rw [if_neg binary]
    exact digested

/-- Base64 text is determined by what it decodes to, as it is without an alternative
spelling. -/
def CanonicalBase64 (library : SqsLibrary) : Prop :=
  ∀ left right bytes, library.decodeBase64 left = .ok bytes →
    library.decodeBase64 right = .ok bytes → left = right

/-- **What is written for an entry determines what counts of it.** -/
theorem Digests.selected_eq (canonical : CanonicalBase64 library)
    {left right : Text × MessageAttributeValue} {record : DigestedAttribute}
    (digests : Digests library left record) (digests' : Digests library right record) :
    (left.1, left.2.selected) = (right.1, right.2.selected) := by
  obtain ⟨name, dataType, text, value, payload⟩ := digests
  obtain ⟨name', dataType', text', value', payload'⟩ := digests'
  have dataTypes : left.2.dataType = right.2.dataType := dataType.symm.trans dataType'
  have kinds : left.2.isBinary = right.2.isBinary := by
    unfold MessageAttributeValue.isBinary
    rw [dataTypes]
  have texts : text = text' := by
    rw [kinds] at payload
    by_cases binary : right.2.isBinary = true
    · rw [if_pos binary] at payload payload'
      exact canonical text text' _ payload payload'
    · rw [if_neg binary] at payload payload'
      exact Text.utf8_injective (payload.symm.trans payload')
  unfold MessageAttributeValue.selected
  rw [← name, ← name', dataTypes, value, value', texts]

end Digested

/-! ### The buffer -/

section Buffer

variable {library : SqsLibrary}

/-- Attributes that were accepted and written, one record for each. -/
theorem exists_records {entries : List (Text × MessageAttributeValue)} {pieces : List Bytes}
    (valid : ∀ entry ∈ entries, validateMessageAttributeName entry.1 = .ok () ∧
      validateMessageAttributeValue entry.1 entry.2 = .ok () ∧ ShortValue library entry.2)
    (digested : List.Forall₂ (fun entry piece =>
      digestedAttribute library entry.1 entry.2 = .ok piece) entries pieces) :
    ∃ records : List DigestedAttribute, List.Forall₂ (Digests library) entries records ∧
      pieces.flatten = records.flatMap DigestedAttribute.code := by
  induction digested with
  | nil => exact ⟨[], .nil, rfl⟩
  | cons first rest inductionHypothesis =>
      obtain ⟨named, checked, short⟩ := valid _ List.mem_cons_self
      obtain ⟨record, digests, rfl⟩ := exists_digests named checked short first
      obtain ⟨records, all, same⟩ :=
        inductionHypothesis fun entry later => valid entry (List.mem_cons_of_mem _ later)
      refine ⟨record :: records, .cons digests all, ?_⟩
      rw [List.flatten_cons, List.flatMap_cons, same]

/-- Entries for which the same records are written agree in all that counts. -/
theorem selected_of_records (canonical : CanonicalBase64 library)
    {left right : List (Text × MessageAttributeValue)} {records : List DigestedAttribute}
    (digests : List.Forall₂ (Digests library) left records)
    (digests' : List.Forall₂ (Digests library) right records) :
    left.map (fun entry => (entry.1, entry.2.selected)) =
      right.map fun entry => (entry.1, entry.2.selected) := by
  induction digests generalizing right with
  | nil =>
      cases digests'
      rfl
  | cons first rest inductionHypothesis =>
      cases digests' with
      | cons first' rest' =>
          rw [List.map_cons, List.map_cons, first.selected_eq canonical first',
            inductionHypothesis rest']

/-- Entries that agree in all that counts are written alike. -/
theorem forall₂_digested {left right : List (Text × MessageAttributeValue)} {pieces : List Bytes}
    (same : left.map (fun entry => (entry.1, entry.2.selected)) =
      right.map fun entry => (entry.1, entry.2.selected))
    (digested : List.Forall₂ (fun entry piece =>
      digestedAttribute library entry.1 entry.2 = .ok piece) left pieces) :
    List.Forall₂ (fun entry piece => digestedAttribute library entry.1 entry.2 = .ok piece)
      right pieces := by
  induction digested generalizing right with
  | nil =>
      obtain rfl := List.map_eq_nil_iff.mp same.symm
      exact .nil
  | @cons entry piece entries pieces first rest inductionHypothesis =>
      cases right with
      | nil => cases same
      | cons other others =>
          rw [List.map_cons, List.map_cons] at same
          obtain ⟨heads, tails⟩ := List.cons.inj same
          obtain ⟨names, selected⟩ := Prod.mk.inj heads
          refine .cons ?_ (inductionHypothesis tails)
          rw [← names]
          exact digestedAttribute_selected selected first

/-- Attributes agree when their entries do. -/
theorem sameAttributes_iff {left right : MessageAttributes} :
    SameAttributes left right ↔
      left.entries.map (fun entry => (entry.1, entry.2.selected)) =
        right.entries.map fun entry => (entry.1, entry.2.selected) := by
  unfold SameAttributes
  rw [← SortedMap.mapValues_eq_iff]
  constructor
  · intro same
    exact congrArg SortedMap.entries same
  · intro same
    apply SortedMap.ext_entries
    exact same

/-- What the checks of the attributes guarantee for each of them. -/
theorem valid_of_validateMessageAttributes {attributes : MessageAttributes}
    (checked : validateMessageAttributes attributes = .ok ()) :
    ∀ entry ∈ attributes.entries, validateMessageAttributeName entry.1 = .ok () ∧
      validateMessageAttributeValue entry.1 entry.2 = .ok () := by
  unfold validateMessageAttributes at checked
  split_ifs at checked
  intro entry isEntry
  obtain ⟨⟨⟩, named, valued⟩ := bind_eq_ok.mp (forM_eq_ok.mp checked entry isEntry)
  exact ⟨named, valued⟩

/-- The pieces of a buffer. -/
theorem attributesBuffer_eq_ok {attributes : MessageAttributes}
    {iterated : List (Text × MessageAttributeValue)} {buffer : Bytes}
    (sameEntries : iterated.Perm attributes.entries) :
    attributesBuffer library iterated = .ok buffer ↔ ∃ pieces,
      List.Forall₂ (fun entry piece => digestedAttribute library entry.1 entry.2 = .ok piece)
        attributes.entries pieces ∧ pieces.flatten = buffer := by
  unfold attributesBuffer
  rw [SortedMap.insertionSort_eq_entries sameEntries, bind_eq_ok]
  constructor
  · rintro ⟨pieces, digested, same⟩
    exact ⟨pieces, mapM_eq_ok.mp digested, Except.ok.inj same⟩
  · rintro ⟨pieces, digested, rfl⟩
    exact ⟨pieces, mapM_eq_ok.mpr digested, rfl⟩

/-- **The buffer that the digest is taken of determines the attributes.**  Two maps that were
accepted have the same buffer exactly when they agree in all that counts, in whatever order
they are visited. -/
theorem attributesBuffer_eq_iff (canonical : CanonicalBase64 library)
    {left right : MessageAttributes} {iterated iterated' : List (Text × MessageAttributeValue)}
    {buffer buffer' : Bytes} (sameEntries : iterated.Perm left.entries)
    (sameEntries' : iterated'.Perm right.entries)
    (accepted : validateMessageAttributes left = .ok ())
    (accepted' : validateMessageAttributes right = .ok ())
    (short : ∀ entry ∈ left.entries, ShortValue library entry.2)
    (short' : ∀ entry ∈ right.entries, ShortValue library entry.2)
    (encoded : attributesBuffer library iterated = .ok buffer)
    (encoded' : attributesBuffer library iterated' = .ok buffer') :
    calculateMessageAttributesMd5 library left = .ok (md5Hex library buffer) ∧
      attributesBuffer library left.entries = .ok buffer ∧
      (buffer = buffer' ↔ SameAttributes left right) := by
  have inOrder := (attributesBuffer_perm library sameEntries).symm.trans encoded
  refine ⟨?_, inOrder, ?_⟩
  · rw [calculateMessageAttributesMd5_eq, inOrder]
    rfl
  obtain ⟨pieces, digested, rfl⟩ := (attributesBuffer_eq_ok sameEntries).mp encoded
  obtain ⟨pieces', digested', rfl⟩ := (attributesBuffer_eq_ok sameEntries').mp encoded'
  constructor
  · intro same
    have valid := valid_of_validateMessageAttributes accepted
    have valid' := valid_of_validateMessageAttributes accepted'
    obtain ⟨records, all, written⟩ := exists_records (fun entry isEntry =>
      ⟨(valid entry isEntry).1, (valid entry isEntry).2, short entry isEntry⟩) digested
    obtain ⟨records', all', written'⟩ := exists_records (fun entry isEntry =>
      ⟨(valid' entry isEntry).1, (valid' entry isEntry).2, short' entry isEntry⟩) digested'
    rw [written, written'] at same
    obtain rfl := DigestedAttribute.readsOff_code.flatMap_injective same
    exact sameAttributes_iff.mpr (selected_of_records canonical all all')
  · intro same
    have again := forall₂_digested (sameAttributes_iff.mp same) digested
    have samePieces := (mapM_eq_ok.mpr again).symm.trans (mapM_eq_ok.mpr digested')
    rw [Except.ok.inj samePieces]

end Buffer

/-! ### A binary value -/

/-- The library, which decodes one letter. -/
def letterLibrary : SqsLibrary :=
  { sampleLibrary with
    decodeBase64 := fun text =>
      if text = ("eA==" : Text) then .ok [120] else .error "Invalid padding" }

theorem canonicalBase64_letterLibrary : CanonicalBase64 letterLibrary := by
  intro left right bytes decoded decoded'
  simp only [letterLibrary] at decoded decoded'
  split_ifs at decoded decoded' with isLetter isLetter'
  exact isLetter.trans isLetter'.symm

/-- An attribute with a binary value, and perhaps a text that its data type does not select. -/
def letterAttributes (ignored : Option Text) : MessageAttributes :=
  SortedMap.ofList [("letter", ⟨"Binary", ignored, some "eA=="⟩)]

theorem shortValue_letterAttributes {ignored : Option Text}
    (short : ∀ text, ignored = some text → text.utf8.length < 4294967296) :
    ∀ entry ∈ (letterAttributes ignored).entries, ShortValue letterLibrary entry.2 := by
  intro entry isEntry
  obtain rfl := List.mem_singleton.mp isEntry
  refine ⟨short, fun text bytes given decoded => ?_⟩
  simp only [letterLibrary] at decoded
  split_ifs at decoded
  obtain rfl := Except.ok.inj decoded
  decide

/-- The buffer of the attribute. -/
def letterBuffer : Bytes :=
  lengthPrefixed (Text.utf8 "letter") ++ lengthPrefixed (Text.utf8 "Binary") ++
    2 :: lengthPrefixed [120]

/-- The text that is not selected is not part of the buffer. -/
theorem attributesBuffer_eq_iff_letter :
    calculateMessageAttributesMd5 letterLibrary (letterAttributes none) =
        .ok (md5Hex letterLibrary letterBuffer) ∧
      attributesBuffer letterLibrary (letterAttributes none).entries = .ok letterBuffer ∧
      (letterBuffer = letterBuffer ↔
        SameAttributes (letterAttributes none) (letterAttributes (some "x"))) := by
  have encoded : attributesBuffer letterLibrary (letterAttributes none).entries =
      .ok letterBuffer := by
    decide +kernel
  have encoded' : attributesBuffer letterLibrary (letterAttributes (some "x")).entries =
      .ok letterBuffer := by
    decide +kernel
  have shortText : ∀ text, some ("x" : Text) = some text → (Text.utf8 text).length < 4294967296 := by
    rintro text ⟨⟩
    decide
  exact attributesBuffer_eq_iff canonicalBase64_letterLibrary (List.Perm.refl _)
    (List.Perm.refl _) (by decide +kernel) (by decide +kernel)
    (shortValue_letterAttributes nofun) (shortValue_letterAttributes shortText) encoded encoded'

end Hiraeth
