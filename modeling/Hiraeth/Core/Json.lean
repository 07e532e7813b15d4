import Hiraeth.Core.Protocol
import Hiraeth.Lib.SortedMap
import Mathlib.Data.Char

/-!
# JSON payloads

A payload is decoded in two parts.  The text is read into a value, which is the
business of the JSON library and a parameter here; the value is then decoded
into the record a service declares, field by field.

An object keeps its members in the order in which they were written, with
repeated names: a declared record refuses a repetition, a map keeps the last
one, and so does an untyped value.

## Main definitions

* `Json`, `JsonLibrary` — values, and what reads and writes them
* `Json.readFields`, `Fields` — the declared fields of a record
* `Json.asText`, `Json.asInteger`, `Json.asList`, `Json.asMap` — the types of
  fields
* `parseJsonBody` — a request body
-/

namespace Hiraeth

open Interaction

/-- A JSON value.  A number is an integer of 64 bits, or any other number as it
was written. -/
inductive Json where
  | null
  | bool (value : Bool)
  | integer (value : ℤ)
  | float (written : Text)
  | string (value : Text)
  | array (items : List Json)
  | object (members : List (Text × Json))

/-- What `serde_json` does with text. -/
structure JsonLibrary where
  read : Bytes → Except Text Json
  write : Json → Text

/-- The library reads what it has written. -/
structure JsonLibrary.RoundTrips (library : JsonLibrary) (json : Json) : Prop where
  written : library.write json ≠ []
  readsBack : library.read (library.write json).utf8 = .ok json

namespace Json

/-- `Value::get` and `Value::as_object`: the last member of that name. -/
def get (name : Text) : Json → Option Json
  | object members => members.reverse.lookup name
  | _ => none

/-- `Value::as_str`. -/
def asStr : Json → Option Text
  | string value => some value
  | _ => none

theorem bind_asStr_eq_some {found : Option Json} {text : Text} :
    found.bind asStr = some text ↔ found = some (.string text) := by
  cases found with
  | none => simp
  | some json => cases json <;> simp [asStr]

/-- `Value::is_object`. -/
def isObject : Json → Bool
  | object _ => true
  | _ => false

/-! ### Types of fields -/

/-- How a value of the wrong type is described. -/
def unexpected : Json → Text
  | null => "null"
  | bool value => ("boolean `" : Text) ++ (if value then "true" else "false").toList ++ "`".toList
  | integer value => ("integer `" : Text) ++ (toString value).toList ++ "`".toList
  | float written => ("floating point `" : Text) ++ written ++ "`".toList
  | string value => ("string \"" : Text) ++ value ++ "\"".toList
  | array _ => "sequence"
  | object _ => "map"

/-- `serde::de::Error::invalid_type`. -/
def invalidType (json : Json) (expected : Text) : Text :=
  ("invalid type: " : Text) ++ json.unexpected ++ ", expected ".toList ++ expected

/-- A `String`. -/
def asText : Json → Except Text Text
  | string value => .ok value
  | json => .error (json.invalidType "a string")

theorem asText_eq_ok {json : Json} {text : Text} : json.asText = .ok text ↔ json = .string text := by
  cases json <;> simp [asText]

/-- An integer type with the given range. -/
def asInteger (typeName : Text) (low high : ℤ) : Json → Except Text ℤ
  | integer value =>
      if low ≤ value ∧ value ≤ high then .ok value
      else .error (("invalid value: integer `" : Text) ++ (toString value).toList ++
        "`, expected ".toList ++ typeName)
  | json => .error (json.invalidType typeName)

/-- An `i64`. -/
def asI64 : Json → Except Text ℤ :=
  asInteger "i64" (-9223372036854775808) 9223372036854775807

/-- A `u32`. -/
def asU32 (json : Json) : Except Text ℕ :=
  (json.asInteger "u32" 0 4294967295).map Int.toNat

/-- An `Option`. -/
def asOption {α : Type} (decode : Json → Except Text α) : Json → Except Text (Option α)
  | null => .ok none
  | json => (decode json).map some

/-- A `Vec`. -/
def asList {α : Type} (decode : Json → Except Text α) : Json → Except Text (List α)
  | array items => items.mapM decode
  | json => .error (json.invalidType "a sequence")

/-- A `HashMap` or `BTreeMap` with strings for keys. -/
def asMap {α : Type} (decode : Json → Except Text α) : Json → Except Text (SortedMap Text α)
  | object members =>
      (members.mapM fun member => (decode member.2).map (member.1, ·)).map SortedMap.ofList
  | json => .error (json.invalidType "a map")

/-! ### Records -/

/-- A declared field: its name, and whether it has a default of its own. -/
structure Field where
  name : Text
  defaulted : Bool

end Json

/-- The values that were given for the fields of a record. -/
abbrev Fields := List (Text × Json)

/-- A declared field that occurs twice is an error. -/
def rejectRepeated (declared : List Text) : List Text → List (Text × Json) → Except Text Unit
  | _, [] => .ok ()
  | seen, (name, _) :: rest =>
      if declared.contains name then
        if seen.contains name then .error (("duplicate field `" : Text) ++ name ++ "`".toList)
        else rejectRepeated declared (name :: seen) rest
      else rejectRepeated declared seen rest

/-- The values of a record written as an array: one for each field in turn.  Only
fields with a default may be missing. -/
def positionalFields (record : Text) (total : ℕ) :
    ℕ → List Json.Field → List Json → Except Text Fields
  | _, [], [] => .ok []
  | _, [], _ :: _ => .error "trailing characters"
  | position, field :: fields, [] =>
      if field.defaulted then positionalFields record total (position + 1) fields []
      else .error (("invalid length " : Text) ++ (toString position).toList ++
        ", expected struct ".toList ++ record ++ " with ".toList ++ (toString total).toList ++
        " elements".toList)
  | position, field :: fields, item :: items =>
      (positionalFields record total (position + 1) fields items).map ((field.name, item) :: ·)

/-- The fields of a record.  Members that are not declared are ignored. -/
def Json.readFields (record : Text) (declared : List Json.Field) : Json → Except Text Fields
  | .object members =>
      (rejectRepeated (declared.map (·.name)) [] members).map fun () => members
  | .array items => positionalFields record declared.length 0 declared items
  | json => .error (json.invalidType (("struct " : Text) ++ record))

/-- A declared name that was seen before does not occur again. -/
theorem lookup_eq_none_of_rejectRepeated {declared seen : List Text}
    {members : List (Text × Json)} (accepted : rejectRepeated declared seen members = .ok ())
    {name : Text} (isDeclared : name ∈ declared) (before : name ∈ seen) :
    members.lookup name = none := by
  induction members generalizing seen with
  | nil => rfl
  | cons member members inductionHypothesis =>
      obtain ⟨other, json⟩ := member
      rw [rejectRepeated] at accepted
      split_ifs at accepted with isOther seenOther
      · have different : name ≠ other := fun same =>
          seenOther (List.contains_iff_mem.mpr (same ▸ before))
        rw [List.lookup_cons, beq_false_of_ne different]
        exact inductionHypothesis accepted (List.mem_cons_of_mem _ before)
      · have different : name ≠ other := fun same =>
          isOther (List.contains_iff_mem.mpr (same ▸ isDeclared))
        rw [List.lookup_cons, beq_false_of_ne different]
        exact inductionHypothesis accepted before

/-- **A declared name occurs once**, so the first member of that name is the
last. -/
theorem get_eq_lookup_of_rejectRepeated {declared seen : List Text}
    {members : List (Text × Json)} (accepted : rejectRepeated declared seen members = .ok ())
    {name : Text} (isDeclared : name ∈ declared) :
    (Json.object members).get name = members.lookup name := by
  show members.reverse.lookup name = _
  induction members generalizing seen with
  | nil => rfl
  | cons member members inductionHypothesis =>
      obtain ⟨other, json⟩ := member
      rw [rejectRepeated] at accepted
      rw [List.reverse_cons, List.lookup_append, List.lookup_cons, List.lookup_cons]
      split_ifs at accepted with isOther seenOther
      · rw [inductionHypothesis accepted]
        by_cases same : name = other
        · subst same
          rw [lookup_eq_none_of_rejectRepeated accepted isDeclared List.mem_cons_self]
          simp
        · simp [beq_false_of_ne same]
      · have different : name ≠ other := fun same =>
          isOther (List.contains_iff_mem.mpr (same ▸ isDeclared))
        rw [inductionHypothesis accepted, beq_false_of_ne different]
        simp

/-- The fields of a record that was written as an object are its members. -/
theorem Json.readFields_object_eq_ok {record : Text} {declared : List Json.Field}
    {members : List (Text × Json)} {fields : Fields} :
    Json.readFields record declared (.object members) = .ok fields ↔
      rejectRepeated (declared.map (·.name)) [] members = .ok () ∧ fields = members := by
  rw [Json.readFields]
  cases rejectRepeated (declared.map (·.name)) [] members with
  | error failure => simp [Except.map]
  | ok _ => simp [Except.map, eq_comm]

namespace Fields

/-- A field without a default. -/
def required {α : Type} (fields : Fields) (name : Text) (decode : Json → Except Text α) :
    Except Text α :=
  match List.lookup name fields with
  | some json => decode json
  | none => .error (("missing field `" : Text) ++ name ++ "`".toList)

theorem required_eq_ok {α : Type} {fields : Fields} {name : Text} {decode : Json → Except Text α}
    {value : α} :
    fields.required name decode = .ok value ↔
      ∃ json, List.lookup name fields = some json ∧ decode json = .ok value := by
  unfold required
  cases List.lookup name fields <;> simp

/-- A field with a default. -/
def defaulted {α : Type} (fields : Fields) (name : Text) (default : α)
    (decode : Json → Except Text α) : Except Text α :=
  match List.lookup name fields with
  | some json => decode json
  | none => .ok default

/-- An `Option`, which may be missing or null. -/
def optional {α : Type} (fields : Fields) (name : Text) (decode : Json → Except Text α) :
    Except Text (Option α) :=
  fields.defaulted name none (Json.asOption decode)

end Fields

/-! ### Request bodies -/

/-- `parse_json_body`, with the text of its error. -/
def parseJsonBody {Request : Type} (library : JsonLibrary) (decode : Json → Except Text Request)
    (body : Bytes) : Except Text Request :=
  (library.read body >>= decode).mapError fun error => ("Invalid request body: " : Text) ++ error

/-- A body decodes exactly when it is JSON that decodes. -/
theorem parseJsonBody_eq_ok {Request : Type} {library : JsonLibrary}
    {decode : Json → Except Text Request} {body : Bytes} {request : Request} :
    parseJsonBody library decode body = .ok request ↔
      ∃ json, library.read body = .ok json ∧ decode json = .ok request := by
  rw [parseJsonBody, mapError_eq_ok, bind_eq_ok]

end Hiraeth
