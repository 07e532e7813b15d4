import Hiraeth.Iam.Service
import Hiraeth.Web.SqsConsole

/-!
# The forms of the IAM console that write policies

The console stores a policy document as the JSON library writes it after reading it.  It asks
for JSON, and for nothing more.

## Main definitions

* `Json.asValue` — a value without repeated names
* `normalizePolicyDocument` — a document as the console stores it
* `IamForm` — the forms that write policies

## Main results

* `IamForm.allCalls` — a form writes its own document only
-/

namespace Hiraeth

open Interaction Program

/-! ### Untyped values -/

mutual

/-- `serde_json::Value`: the members of an object in the order of their names, the last of each
name. -/
def Json.asValue : Json → Json
  | .array items => .array (Json.asValues items)
  | .object members => .object (SortedMap.ofList (Json.asMembers members)).entries
  | .null => .null
  | .bool value => .bool value
  | .integer value => .integer value
  | .float written => .float written
  | .string value => .string value

def Json.asValues : List Json → List Json
  | [] => []
  | item :: items => item.asValue :: Json.asValues items

def Json.asMembers : List (Text × Json) → List (Text × Json)
  | [] => []
  | (name, json) :: members => (name, json.asValue) :: Json.asMembers members

end

/-! ### Documents -/

/-- The JSON library as the checks of documents use it. -/
def JsonLibrary.reader (library : JsonLibrary) : JsonReader := fun document =>
  (library.read document.utf8).map Json.isObject

/-- `normalize_policy_document`. -/
def normalizePolicyDocument (library : JsonLibrary) (document : Text) : Except WebError Text := do
  let value ← (library.read document.utf8).mapError fun error =>
    WebError.badRequest (("Policy document is not valid JSON: " : Text) ++ error)
  return library.write value.asValue

namespace IamConsole

/-- `validate_required` of the IAM console. -/
def validateRequired (fieldName value : Text) : Except WebError Unit :=
  if trim value = [] then .error (.badRequest (fieldName ++ " must not be empty".toList))
  else .ok ()

/-- `normalize_path` of the console. -/
def normalizePath (path : Text) : Text :=
  let trimmed := trim path
  if trimmed = [] ∨ trimmed = "/" then "/"
  else '/' :: (trimMatches '/' trimmed ++ ['/'])

/-- `load_principal`. -/
def loadPrincipal (principalId : RowId) : ExceptT WebError IamProgram Principal := do
  let found ← (iamCall (.getPrincipal principalId)).orFail WebError.store
  match found with
  | some principal => return principal
  | none => throw (.store (.notFound
      (("Principal not found: " : Text) ++ Nat.toDigits 10 principalId)))

/-- `load_managed_policy_by_id`. -/
def loadManagedPolicyById (policyId : RowId) : ExceptT WebError IamProgram ManagedPolicy := do
  let policies ← (iamCall .listManagedPolicies).orFail WebError.store
  match policies.find? (·.id = policyId) with
  | some policy => return policy
  | none => throw (.store (.notFound
      (("Managed policy not found: " : Text) ++ Nat.toDigits 10 policyId)))

end IamConsole

/-! ### Forms -/

structure InlinePolicyForm where
  policyName : Text
  policyDocument : Text
  deriving DecidableEq

structure ManagedPolicyForm where
  accountId : Text
  policyName : Text
  path : Text
  policyDocument : Text
  deriving DecidableEq

/-- The checks of the form, and the document that is stored. -/
def checkInlinePolicyForm (library : JsonLibrary) (form : InlinePolicyForm) :
    Except WebError Text := do
  IamConsole.validateRequired "Policy name" (trim form.policyName)
  IamConsole.validateRequired "Policy document" form.policyDocument
  normalizePolicyDocument library form.policyDocument

/-- `put_inline_policy` of the console. -/
def putInlinePolicyFromForm (library : JsonLibrary) (principalId : RowId)
    (form : InlinePolicyForm) : ExceptT WebError IamProgram FormResult := do
  let _ ← IamConsole.loadPrincipal principalId
  match checkInlinePolicyForm library form with
  | .error error => return .rejected error.message
  | .ok policyDocument =>
      let _ ← (iamCall (.putInlinePolicy principalId (trim form.policyName)
        policyDocument)).orFail WebError.store
      return .saved principalId
        (("Saved inline policy " : Text) ++ trim form.policyName ++ ".".toList)

/-- The checks of the form, and the document that is stored. -/
def checkManagedPolicyForm (library : JsonLibrary) (form : ManagedPolicyForm) :
    Except WebError Text := do
  IamConsole.validateRequired "Account ID" (trim form.accountId)
  IamConsole.validateRequired "Policy name" (trim form.policyName)
  IamConsole.validateRequired "Policy document" form.policyDocument
  normalizePolicyDocument library form.policyDocument

/-- `create_managed_policy` of the console.  The id is drawn at random. -/
def createManagedPolicyFromForm (library : JsonLibrary) (policyId : Text)
    (form : ManagedPolicyForm) : ExceptT WebError IamProgram FormResult := do
  match checkManagedPolicyForm library form with
  | .error error => return .rejected error.message
  | .ok policyDocument =>
      let created ← ExceptT.lift (iamCall (.insertManagedPolicy {
        policyId
        accountId := trim form.accountId
        policyName := trim form.policyName
        policyPath := some (IamConsole.normalizePath form.path)
        policyDocument }))
      match created with
      | .ok policy =>
          return .saved policy.id
            (("Created managed policy " : Text) ++ trim form.policyName ++ ".".toList)
      | .error (.conflict message) => return .rejected message
      | .error error => throw (.store error)

/-- The checks of the form, and the document that is stored. -/
def checkPolicyDocumentForm (library : JsonLibrary) (policyDocument : Text) :
    Except WebError Text := do
  IamConsole.validateRequired "Policy document" policyDocument
  normalizePolicyDocument library policyDocument

/-- `update_managed_policy` of the console. -/
def updateManagedPolicyFromForm (library : JsonLibrary) (policyId : RowId)
    (policyDocument : Text) : ExceptT WebError IamProgram FormResult := do
  let _ ← IamConsole.loadManagedPolicyById policyId
  match checkPolicyDocumentForm library policyDocument with
  | .error error => return .rejected error.message
  | .ok document =>
      let _ ← (iamCall (.updateManagedPolicyDocument policyId document)).orFail WebError.store
      return .saved policyId "Updated managed policy document."

/-- The forms that write policy documents.  The id of a new policy is drawn at random. -/
inductive IamForm where
  | putInlinePolicy (principalId : RowId) (form : InlinePolicyForm)
  | createManagedPolicy (policyId : Text) (form : ManagedPolicyForm)
  | updateManagedPolicy (policyId : RowId) (policyDocument : Text)

/-- The document that is sent with a form. -/
def IamForm.document : IamForm → Text
  | putInlinePolicy _ form => form.policyDocument
  | createManagedPolicy _ form => form.policyDocument
  | updateManagedPolicy _ policyDocument => policyDocument

/-- A form as a program over the store, without its page. -/
def IamForm.program (library : JsonLibrary) : IamForm → IamProgram Unit
  | putInlinePolicy principalId form => do
      let _ ← (putInlinePolicyFromForm library principalId form).run
      return ()
  | createManagedPolicy policyId form => do
      let _ ← (createManagedPolicyFromForm library policyId form).run
      return ()
  | updateManagedPolicy policyId policyDocument => do
      let _ ← (updateManagedPolicyFromForm library policyId policyDocument).run
      return ()

/-! ### What forms write -/

section Writes

variable {library : JsonLibrary} {document : Text}

theorem checkInlinePolicyForm_eq_ok {form : InlinePolicyForm}
    (checked : checkInlinePolicyForm library form = .ok document) :
    normalizePolicyDocument library form.policyDocument = .ok document := by
  obtain ⟨_, -, checked⟩ := bind_eq_ok.mp checked
  obtain ⟨_, -, normalized⟩ := bind_eq_ok.mp checked
  exact normalized

theorem checkManagedPolicyForm_eq_ok {form : ManagedPolicyForm}
    (checked : checkManagedPolicyForm library form = .ok document) :
    normalizePolicyDocument library form.policyDocument = .ok document := by
  obtain ⟨_, -, checked⟩ := bind_eq_ok.mp checked
  obtain ⟨_, -, checked⟩ := bind_eq_ok.mp checked
  obtain ⟨_, -, normalized⟩ := bind_eq_ok.mp checked
  exact normalized

/-- **A form writes its own document only**, as it was normalized. -/
theorem IamForm.allCalls {property : IamCall → Prop} (form : IamForm)
    (plain : ∀ request : IamCall, request.WritesNoDocument → property request)
    (puts : ∀ principalId policyName document,
      normalizePolicyDocument library form.document = .ok document →
      property (.putInlinePolicy principalId policyName document))
    (inserts : ∀ policy : NewManagedPolicy,
      normalizePolicyDocument library form.document = .ok policy.policyDocument →
      property (.insertManagedPolicy policy))
    (updates : ∀ policyId document,
      normalizePolicyDocument library form.document = .ok document →
      property (.updateManagedPolicyDocument policyId document)) :
    @AllCalls iamStore _ property (form.program library) := by
  have performs (call' : IamCall) (holds : property call') :
      @AllCalls iamStore _ property (iamCall call') := allCalls_perform.mpr holds
  cases form with
  | putInlinePolicy principalId form =>
      refine AllCalls.bind (?_ : @OnlyCalls iamStore _ _ property
        (putInlinePolicyFromForm library principalId form)) fun _ => trivial
      unfold putInlinePolicyFromForm IamConsole.loadPrincipal
      refine OnlyCalls.bind ((onlyCalls_orFail (performs (.getPrincipal principalId)
        (plain _ trivial))).bind fun found => ?_) fun _ => ?_
      · cases found with
        | none => exact onlyCalls_throw
        | some principal => exact onlyCalls_pure
      · cases checked : checkInlinePolicyForm library form with
        | error failure => exact onlyCalls_pure
        | ok document =>
            exact (onlyCalls_orFail (performs _ (puts _ _ _
              (checkInlinePolicyForm_eq_ok checked)))).bind fun _ => onlyCalls_pure
  | createManagedPolicy policyId form =>
      refine AllCalls.bind (?_ : @OnlyCalls iamStore _ _ property
        (createManagedPolicyFromForm library policyId form)) fun _ => trivial
      unfold createManagedPolicyFromForm
      cases checked : checkManagedPolicyForm library form with
      | error failure => exact onlyCalls_pure
      | ok document =>
          refine (onlyCalls_lift (performs (.insertManagedPolicy _) (inserts _
            (checkManagedPolicyForm_eq_ok checked)))).bind fun created => ?_
          match created with
          | .ok _ => exact onlyCalls_pure
          | .error (.conflict _) => exact onlyCalls_pure
          | .error (.notFound _) => exact onlyCalls_throw
          | .error (.storageFailure _) => exact onlyCalls_throw
  | updateManagedPolicy policyId policyDocument =>
      refine AllCalls.bind (?_ : @OnlyCalls iamStore _ _ property
        (updateManagedPolicyFromForm library policyId policyDocument)) fun _ => trivial
      unfold updateManagedPolicyFromForm IamConsole.loadManagedPolicyById
      refine OnlyCalls.bind ((onlyCalls_orFail (performs .listManagedPolicies
        (plain _ trivial))).bind fun policies => ?_) fun _ => ?_
      · split
        · exact onlyCalls_pure
        · exact onlyCalls_throw
      · cases checked : checkPolicyDocumentForm library policyDocument with
        | error failure => exact onlyCalls_pure
        | ok document =>
            obtain ⟨_, -, normalized⟩ := bind_eq_ok.mp checked
            exact (onlyCalls_orFail (performs _ (updates _ _ normalized))).bind
              fun _ => onlyCalls_pure

end Writes

end Hiraeth
