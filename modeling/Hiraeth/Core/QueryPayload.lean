import Hiraeth.Core.Protocol
import Hiraeth.Lib.Slots

/-!
# The two readings of a query request

The parameters of a query request are read twice.  Authorization groups them by name and
takes the first value of a group; the payload of an action is deserialized from the same
bytes by a visitor that fills one slot for each declared field.

## Main definitions

* `AwsQueryParams.groups` — the parameters grouped by name
* `PayloadField`, `deserializeFields` — the declared fields of a payload, and the visitor
* `ReadsFields` — the declared fields of a payload have these values

## Main results

* `AwsQueryParams.get_eq_first` — a parameter is the first value of its group
* `rejectDuplicates_eq_visit` — the payloads that the visitor refuses
* `deserializeFields_eq_ok` — every declared field has the value of its parameter
-/

namespace Hiraeth

open Interaction

/-! ### Grouping -/

/-- `AwsQueryParams::values`. -/
def AwsQueryParams.groups (params : AwsQueryParams) : SortedMap Text (List Text) :=
  Slots.group params.values

theorem lookup_eq_firstOf (pairs : List (Text × Text)) (name : Text) :
    List.lookup name pairs = Slots.firstOf pairs name := by
  induction pairs with
  | nil => rfl
  | cons pair pairs inductionHypothesis =>
      rw [List.lookup_cons, Slots.firstOf_cons, inductionHypothesis]
      by_cases same : pair.1 = name
      · rw [if_pos same, same, beq_self_eq_true]
      · rw [if_neg same, beq_false_of_ne (Ne.symm same)]

/-- **A parameter is the first value of its group.** -/
theorem AwsQueryParams.get_eq_first (params : AwsQueryParams) (name : Text) :
    params.get name = Slots.first params.groups name := by
  rw [AwsQueryParams.groups, Slots.first_group, ← lookup_eq_firstOf]
  rfl

/-! ### Visiting -/

/-- What becomes of a declared field that is not given. -/
inductive WhenMissing where
  | fails
  | absent
  | default (value : Text)
  deriving DecidableEq

/-- A declared field of a payload. -/
structure PayloadField where
  name : Text
  whenMissing : WhenMissing
  deriving DecidableEq

/-- The value of a field whose slot holds what was given. -/
def PayloadField.value (field : PayloadField) : Option Text → Except Text (Option Text)
  | some value => .ok (some value)
  | none =>
      match field.whenMissing with
      | .fails => .error (("missing field `" : Text) ++ field.name ++ "`".toList)
      | .absent => .ok none
      | .default value => .ok (some value)

/-- `serde_urlencoded::from_bytes`, up to the values of the declared fields: the visitor of
a record, and what is made of its slots. -/
def deserializeFields (fields : List PayloadField) (pairs : List (Text × Text)) :
    Except Text (List (Option Text)) :=
  match Slots.visit (fields.map (·.name)) ⟨[], []⟩ pairs with
  | .error name => .error (("duplicate field `" : Text) ++ name ++ "`".toList)
  | .ok visited => fields.mapM fun field => field.value (Slots.firstOf visited.filled field.name)

/-- The visitor refuses the same payloads, and says the same about them. -/
theorem rejectDuplicates_eq_visit {declared seen : List Text} {before : Slots.Visited Text Text}
    {pairs : List (Text × Text)}
    (filled : ∀ name, name ∈ seen ↔ (Slots.firstOf before.filled name).isSome = true) :
    rejectDuplicates declared seen pairs =
      ((Slots.visit declared before pairs).map fun _ => ()).mapError fun name =>
        ("duplicate field `" : Text) ++ name ++ "`".toList := by
  induction pairs generalizing seen before with
  | nil => rfl
  | cons pair pairs inductionHypothesis =>
      rw [rejectDuplicates, Slots.visit]
      by_cases isDeclared : pair.1 ∈ declared
      · rw [if_pos isDeclared, if_pos isDeclared]
        by_cases again : pair.1 ∈ seen
        · rw [if_pos again, if_pos ((filled pair.1).mp again)]
          rfl
        · rw [if_neg again, if_neg fun full => again ((filled pair.1).mpr full)]
          refine inductionHypothesis ?_
          intro name
          rw [List.mem_cons, Slots.firstOf_append, Slots.firstOf_singleton, filled name]
          by_cases same : pair.1 = name
          · simp [same]
          · simp [same, Ne.symm same]
      · rw [if_neg isDeclared, if_neg isDeclared]
        exact inductionHypothesis filled

/-- Relations that agree on the members of a list agree on the list. -/
theorem forall₂_congr_of_mem {α β : Type} {relates relates' : α → β → Prop} {items : List α}
    {values : List β} (same : ∀ item ∈ items, ∀ value, relates item value ↔ relates' item value) :
    List.Forall₂ relates items values ↔ List.Forall₂ relates' items values := by
  induction items generalizing values with
  | nil => cases values <;> simp
  | cons item items inductionHypothesis =>
      cases values with
      | nil => simp
      | cons value values =>
          rw [List.forall₂_cons, List.forall₂_cons, same item List.mem_cons_self,
            inductionHypothesis fun item member => same item (List.mem_cons_of_mem _ member)]

/-- **Every declared field has the value of its parameter**, or what its absence stands
for. -/
theorem deserializeFields_eq_ok {fields : List PayloadField} {params : AwsQueryParams}
    {values : List (Option Text)} :
    deserializeFields fields params.values = .ok values ↔
      rejectDuplicates (fields.map (·.name)) [] params.values = .ok () ∧
      List.Forall₂ (fun field value => field.value (params.get field.name) = .ok value) fields
        values := by
  have empty (name : Text) : name ∈ ([] : List Text) ↔
      (Slots.firstOf ([] : List (Text × Text)) name).isSome = true := by
    simp [Slots.firstOf]
  rw [@rejectDuplicates_eq_visit _ _ ⟨[], []⟩ _ empty]
  unfold deserializeFields
  cases visited : Slots.visit (fields.map (·.name)) ⟨[], []⟩ params.values with
  | error name => simp [Except.map, Except.mapError]
  | ok after =>
      have slots := (Slots.lookup_visit visited).1
      have same (field : PayloadField) (member : field ∈ fields) :
          Slots.firstOf after.filled field.name = params.get field.name := by
        rw [slots field.name (List.mem_map_of_mem member), AwsQueryParams.get, lookup_eq_firstOf]
        rfl
      dsimp only
      rw [mapM_eq_ok, forall₂_congr_of_mem (fun field member value => by rw [same field member])]
      simp [Except.map, Except.mapError]

/-! ### Payloads -/

/-- What a field has when its parameter is missing. -/
def PayloadField.fallback (field : PayloadField) : Option Text :=
  match field.whenMissing with
  | .fails => none
  | .absent => none
  | .default value => some value

/-- A field that has a value has that of its parameter, or its fallback. -/
theorem PayloadField.eq_of_value {field : PayloadField} {given value : Option Text}
    (read : field.value given = .ok value) : value = given.or field.fallback := by
  unfold PayloadField.value at read
  unfold PayloadField.fallback
  cases given with
  | some text =>
      cases read
      rfl
  | none =>
      cases missing : field.whenMissing with
      | fails =>
          rw [missing] at read
          cases read
      | absent =>
          rw [missing] at read
          cases read
          rfl
      | default text =>
          rw [missing] at read
          cases read
          rfl

section Reads

variable {parse : FormParser} {request : IncomingRequest} {fields : List PayloadField}
  {values : List (Option Text)}

/-- The declared fields of the payload of a request have these values. -/
def ReadsFields (parse : FormParser) (request : IncomingRequest) (fields : List PayloadField)
    (values : List (Option Text)) : Prop :=
  ∃ params, parseAwsQueryParams parse request = .ok params ∧
    deserializeFields fields params.values = .ok values

/-- **The two readings agree**: a declared field has the first value of its group, or its
fallback where there is none. -/
def AgreesWithParams (parse : FormParser) (request : IncomingRequest)
    (fields : List PayloadField) (values : List (Option Text)) : Prop :=
  ∃ params, parseAwsQueryParams parse request = .ok params ∧
    List.Forall₂ (fun field value =>
      value = (Slots.first params.groups field.name).or field.fallback) fields values

theorem ReadsFields.agrees (reads : ReadsFields parse request fields values) :
    AgreesWithParams parse request fields values := by
  obtain ⟨params, parsed, read⟩ := reads
  refine ⟨params, parsed, ?_⟩
  refine (deserializeFields_eq_ok.mp read).2.imp ?_
  intro field value given
  rw [← params.get_eq_first]
  exact PayloadField.eq_of_value given

/-- A payload that is built from parameters is read by the visitor. -/
theorem readsFields_of_parse {Request : Type} {build : AwsQueryParams → Except Text Request}
    {payload : Request} {declared : List Text} (names : fields.map (·.name) = declared)
    (parsed : parseAwsQueryRequest parse declared build request = .ok payload)
    (builds : ∀ params, build params = .ok payload →
      List.Forall₂ (fun field value => field.value (params.get field.name) = .ok value) fields
        values) :
    ReadsFields parse request fields values := by
  unfold parseAwsQueryRequest at parsed
  obtain ⟨params, given, decoded⟩ := bind_eq_ok.mp parsed
  unfold AwsQueryParams.deserialize at decoded
  obtain ⟨_, once, built⟩ := bind_eq_ok.mp (mapError_eq_ok.mp decoded)
  refine ⟨params, given, deserializeFields_eq_ok.mpr ⟨?_, builds params built⟩⟩
  rw [names]
  exact once

/-- A field without a fallback. -/
theorem value_of_required {params : AwsQueryParams} {name value : Text}
    (given : params.required name = .ok value) :
    PayloadField.value ⟨name, .fails⟩ (params.get name) = .ok (some value) := by
  unfold AwsQueryParams.required at given
  cases found : params.get name with
  | none =>
      rw [found] at given
      cases given
  | some text =>
      rw [found] at given
      cases given
      rfl

/-- A field that may be absent. -/
theorem value_of_optional (params : AwsQueryParams) (name : Text) :
    PayloadField.value ⟨name, .absent⟩ (params.get name) = .ok (params.get name) := by
  cases params.get name <;> rfl

/-- A field with a default. -/
theorem value_of_defaulted (params : AwsQueryParams) (name default : Text) :
    PayloadField.value ⟨name, .default default⟩ (params.get name) =
      .ok (some ((params.get name).getD default)) := by
  cases params.get name <;> rfl

end Reads

end Hiraeth
