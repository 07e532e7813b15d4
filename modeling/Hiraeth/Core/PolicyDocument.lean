import Hiraeth.Core.Json

/-!
# Policies as JSON documents

How a policy is read from its document.  A document that is JSON need not be a
policy: effects, actions, resources and principals each have a form of their
own.

## Main definitions

* `decodePolicy`, `decodePolicyStatement`, `deserializePrincipals` — the
  decoders
* `parsePrincipal` — the grammar of principals
* `parsePolicyText` — from text to policy
-/

namespace Hiraeth

open Interaction

/-! ### Principals -/

/-- `is_account_id_pattern`. -/
def isAccountIdPattern (value : Text) : Bool :=
  value ≠ [] && value.all fun c => c.isDigit || c = '*' || c = '?'

/-- `str::splitn`: at most `count` pieces, the last of which holds the rest. -/
def splitN (separator : Char) : ℕ → Text → List Text
  | 0, _ => []
  | 1, text => [text]
  | count + 2, text =>
      match splitOnce separator text with
      | some (before, after) => before :: splitN separator (count + 1) after
      | none => [text]

/-- `parse_iam_principal`. -/
def parseIamPrincipal (accountId resource : Text) : Except Text PolicyPrincipal :=
  if resource = ("root" : Text) then .ok (.account accountId)
  else
    match stripPrefix "user/" resource, stripPrefix "role/" resource with
    | some userName, _ => .ok (.user accountId userName)
    | none, some roleName => .ok (.role accountId roleName)
    | none, none => .error (("unsupported IAM resource in principal ARN: '" : Text) ++ resource ++
        "'".toList)

/-- `parse_sts_principal`. -/
def parseStsPrincipal (accountId resource : Text) : Except Text PolicyPrincipal :=
  match stripPrefix "assumed-role/" resource with
  | none => .error (("unsupported STS resource in principal ARN: '" : Text) ++ resource ++
      "'".toList)
  | some session =>
      match splitOnce '/' session with
      | some (roleName, sessionName) => .ok (.assumedRole accountId roleName sessionName)
      | none => .error (("invalid assumed role format: '" : Text) ++ resource ++ "'".toList)

/-- `parse_principal`. -/
def parsePrincipal (value : Text) : Except Text PolicyPrincipal :=
  if value = ("*" : Text) then .ok .any
  else if isAccountIdPattern value then .ok (.account value)
  else
    match splitN ':' 6 value with
    | [lead, _, service, _, accountId, resource] =>
        if lead ≠ ("arn" : Text) then
          .error (("invalid principal format: '" : Text) ++ value ++ "'".toList)
        else if !isAccountIdPattern accountId then
          .error (("invalid account id in principal ARN: '" : Text) ++ value ++ "'".toList)
        else if service = ("iam" : Text) then parseIamPrincipal accountId resource
        else if service = ("sts" : Text) then parseStsPrincipal accountId resource
        else .error (("unsupported service in principal ARN: '" : Text) ++ service ++ "'".toList)
    | _ => .error (("invalid principal format: '" : Text) ++ value ++ "'".toList)

/-- `deserialize_one_or_many`. -/
def decodeOneOrMany (json : Json) : Except Text (List Text) :=
  match json with
  | .string value => .ok [value]
  | .array items =>
      (items.mapM Json.asText).mapError fun _ =>
        "data did not match any variant of untagged enum OneOrMany"
  | _ => .error "data did not match any variant of untagged enum OneOrMany"

/-- The two lists of a principal map.  The map was read into an untyped value
first, so repeated names have been collapsed; as an array it has both. -/
def decodePrincipalMap (json : Json) : Except Text (List Text × List Text) := do
  let mismatch : Text := "data did not match any variant of untagged enum PrincipalWire"
  let named (field : Option Json) : Except Text (List Text) :=
    match field with
    | none => .ok []
    | some json => ((json.asOption decodeOneOrMany).map (·.getD [])).mapError fun _ => mismatch
  match json with
  | .object _ => do
      let aws ← named (json.get "AWS")
      let service ← named (json.get "Service")
      return (aws, service)
  | .array [awsItem, serviceItem] => do
      let aws ← named (some awsItem)
      let service ← named (some serviceItem)
      return (aws, service)
  | _ => .error mismatch

/-- `deserialize_principals`. -/
def deserializePrincipals (json : Json) : Except Text (List PolicyPrincipal) :=
  match json with
  | .string value =>
      if value = ("*" : Text) then .ok [.any]
      else .error (("expected '*' for Any principal, got '" : Text) ++ value ++ "'".toList)
  | _ => do
      let (aws, service) ← decodePrincipalMap json
      let accounts ← (aws.mapM parsePrincipal).mapError fun error =>
        ("failed to parse AWS principal: " : Text) ++ error
      let principals := accounts ++ service.map .service
      if principals = [] then .error "principal map must contain at least one supported principal"
      else .ok principals

/-- `deserialize_optional_principals`. -/
def deserializeOptionalPrincipals (json : Json) : Except Text (List PolicyPrincipal) :=
  (json.asOption deserializePrincipals).map (·.getD [])

/-! ### Statements and policies -/

/-- `PolicyStatement::deserialize`. -/
def decodePolicyStatement (json : Json) : Except Text PolicyStatement := do
  let fields ← json.readFields "PolicyStatement"
    [⟨"Effect", false⟩, ⟨"Action", false⟩, ⟨"Resource", false⟩, ⟨"Principal", true⟩]
  let effect ← fields.required "Effect" Json.asText
  let action ← fields.required "Action" decodeOneOrMany
  let resource ← fields.required "Resource" decodeOneOrMany
  let principal ← fields.defaulted "Principal" [] deserializeOptionalPrincipals
  return ⟨effect, action, resource, principal⟩

/-- `default_policy_version`. -/
def defaultPolicyVersion : Text := "2012-10-17"

/-- `Policy::default`. -/
def Policy.default : Policy where
  version := defaultPolicyVersion
  statement := []

/-- `Policy::deserialize`. -/
def decodePolicy (json : Json) : Except Text Policy := do
  let fields ← json.readFields "Policy" [⟨"Version", true⟩, ⟨"Statement", true⟩]
  let version ← fields.defaulted "Version" defaultPolicyVersion Json.asText
  let statement ← fields.defaulted "Statement" [] (Json.asList decodePolicyStatement)
  return ⟨version, statement⟩

/-- `serde_json::from_str::<Policy>`. -/
def parsePolicyText (library : JsonLibrary) (document : Text) : Except Text Policy :=
  library.read document.utf8 >>= decodePolicy

/-- The text is a policy document. -/
def IsPolicy (library : JsonLibrary) (document : Text) : Prop :=
  ∃ policy, parsePolicyText library document = .ok policy

end Hiraeth
