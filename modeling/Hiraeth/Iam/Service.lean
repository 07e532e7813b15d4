import Hiraeth.Iam.Actions
import Hiraeth.Iam.Authorize

/-!
# What the actions of IAM call

Only two actions write policy documents.  Whatever holds of the calls that write none, and of
the documents that are written, holds of every call of a request.

## Main definitions

* `IamCall.WritesNoDocument` — the calls that write no policy document
* `IamTask` — a request together with what is drawn and how it is authorized
* `IamTask.Writes` — the documents that a request may write

## Main results

* `IamTask.allCalls` — a request writes the documents of its payload only
-/

namespace Hiraeth

open Interaction Program

/-- A call that writes no policy document. -/
def IamCall.WritesNoDocument : IamCall → Prop
  | .putInlinePolicy .. | .insertManagedPolicy _ | .updateManagedPolicyDocument .. => False
  | _ => True

section Steps

variable {property : IamCall → Prop} (plain : ∀ request : IamCall, request.WritesNoDocument →
  property request)
include plain

theorem onlyCalls_findUser {accountId name missing : Text} :
    @OnlyCalls iamStore _ _ property (findUser accountId name missing) := by
  refine (onlyCalls_orFail (allCalls_perform.mpr (plain (.getPrincipalByIdentity ..) trivial))).bind
    fun found => ?_
  cases found with
  | none => exact onlyCalls_throw
  | some principal => exact onlyCalls_pure

theorem onlyCalls_findManagedPolicy {arn : PolicyArn} {spelled : Text} :
    @OnlyCalls iamStore _ _ property (findManagedPolicy arn spelled) := by
  refine (onlyCalls_orFail (allCalls_perform.mpr (plain (.getManagedPolicy ..) trivial))).bind
    fun found => ?_
  cases found with
  | none => exact onlyCalls_throw
  | some policy => exact onlyCalls_pure

theorem onlyCalls_requestedOrSigningUser {request : ResolvedRequest} {userName : Option Text} :
    @OnlyCalls iamStore _ _ property (requestedOrSigningUser request userName) := by
  unfold requestedOrSigningUser
  cases userName with
  | some name =>
      refine iteInduction (fun _ => onlyCalls_throw) fun _ => ?_
      exact onlyCalls_findUser plain
  | none => exact iteInduction (fun _ => onlyCalls_pure) fun _ => onlyCalls_throw

/-- **Authorization writes no document.** -/
theorem onlyCalls_resolveAuthorization {parse : FormParser} {action : IamAction}
    {request : ResolvedRequest} :
    @OnlyCalls iamStore _ _ property (resolveAuthorization parse action request) := by
  refine onlyCalls_liftExcept_bind fun params _ => ?_
  cases action with
  | createUser | createPolicy =>
      exact onlyCalls_liftExcept_bind fun _ _ => onlyCalls_pure
  | getPolicy | deletePolicy | getPolicyVersion =>
      exact onlyCalls_liftExcept_bind fun _ _ => onlyCalls_pure
  | getUser => exact (onlyCalls_findUser plain).bind fun _ => onlyCalls_pure
  | deleteUser | putUserPolicy | getUserPolicy | attachUserPolicy | detachUserPolicy =>
      exact onlyCalls_liftExcept_bind fun _ _ =>
        (onlyCalls_findUser plain).bind fun _ => onlyCalls_pure
  | createAccessKey | listAccessKeys | listAttachedUserPolicies =>
      dsimp only
      split
      · exact (onlyCalls_findUser plain).bind fun _ => onlyCalls_pure
      · exact iteInduction (fun _ => onlyCalls_pure) fun _ => onlyCalls_throw

/-- The authorizer writes no document. -/
theorem allCalls_authorize {parsePolicy : Text → Except Text Policy} {mode : AuthorizationMode}
    {request : ResolvedRequest} {check : AuthorizationCheck} :
    @AllCalls iamStore _ property (authorize parsePolicy mode request check) := by
  have inline : @OnlyCalls iamStore _ _ property (evaluatePrincipalInlinePolicies parsePolicy
      request.authContext.principal.id check.resource check.action) :=
    (onlyCalls_orFail (allCalls_perform.mpr
      (plain (.getInlinePoliciesForPrincipal _) trivial))).bind fun _ => onlyCalls_liftExcept
  have managed : @OnlyCalls iamStore _ _ property (evaluateManagedPolicies parsePolicy
      request.authContext.principal.id check.resource check.action) :=
    (onlyCalls_orFail (allCalls_perform.mpr
      (plain (.getManagedPoliciesAttachedToPrincipal _) trivial))).bind
        fun _ => onlyCalls_liftExcept
  exact AllCalls.bind inline fun _ => AllCalls.bind managed fun _ => trivial

end Steps

/-! ### Requests -/

/-- **A request**, with what is drawn for it and how it is authorized. -/
structure IamTask where
  generated : Generated
  parsePolicy : Text → Except Text Policy
  mode : AuthorizationMode
  request : ResolvedRequest
  action : IamAction

/-- A request as a program over the store, without its answer. -/
def IamTask.program (parse : FormParser) (readJson : JsonReader) (task : IamTask) :
    IamProgram Unit := do
  let _ ← (iamAction parse readJson task.generated task.action).typed.route
    (authorize task.parsePolicy task.mode) task.request
  return ()

/-- **The documents that a request may write**: that of its payload, which was accepted. -/
inductive IamTask.Writes (parse : FormParser) (readJson : JsonReader) (task : IamTask) :
    IamCall → Prop
  | putUserPolicy {payload : PutUserPolicyRequest} {principalId : RowId}
      (isAction : task.action = .putUserPolicy)
      (accepted : (putUserPolicyAction parse readJson).Accepts task.request payload) :
      Writes parse readJson task
        (.putInlinePolicy principalId payload.policyName payload.policyDocument)
  | createPolicy {payload : CreatePolicyRequest} {policy : NewManagedPolicy}
      (isAction : task.action = .createPolicy)
      (accepted : (createPolicyAction parse readJson task.generated).Accepts task.request payload)
      (isDocument : policy.policyDocument = payload.policyDocument) :
      Writes parse readJson task (.insertManagedPolicy policy)

section Requests

variable {parse : FormParser} {readJson : JsonReader} {task : IamTask} {property : IamCall → Prop}

/-- **Validation calls nothing.** -/
theorem onlyCalls_adaptedValidate_iam :
    OnlyCalls property
      ((iamAction parse readJson task.generated task.action).typed.adaptedValidate
        task.request) := by
  obtain ⟨generated, parsePolicy, mode, request, action⟩ := task
  have optional (user : OptionalUserRequest) :
      @OnlyCalls iamStore _ _ property (validateOptionalUser user) := by
    unfold validateOptionalUser
    split
    · exact onlyCalls_liftExcept
    · exact onlyCalls_pure
  refine onlyCalls_liftExcept_bind fun payload _ => ?_
  cases action with
  | getPolicy | getPolicyVersion | getUserPolicy => exact onlyCalls_pure
  | deletePolicy => exact onlyCalls_liftExcept_bind fun _ _ => onlyCalls_pure
  | deleteUser => exact onlyCalls_liftExcept
  | getUser | listAccessKeys | listAttachedUserPolicies => exact optional payload
  | createUser =>
      refine onlyCalls_liftExcept_bind fun _ _ => onlyCalls_liftExcept_bind fun _ _ => ?_
      exact iteInduction (fun _ => trivial) fun _ => trivial
  | createAccessKey =>
      rcases payload with ⟨_ | userName⟩
      · exact onlyCalls_pure
      · exact onlyCalls_liftExcept
  | createPolicy | putUserPolicy =>
      exact onlyCalls_liftExcept_bind fun _ _ => onlyCalls_liftExcept_bind fun _ _ =>
        onlyCalls_liftExcept
  | attachUserPolicy | detachUserPolicy =>
      exact onlyCalls_liftExcept_bind fun _ _ => onlyCalls_liftExcept_bind fun _ _ =>
        onlyCalls_pure

theorem onlyCalls_adaptedResolveAuthorization_iam
    (plain : ∀ request : IamCall, request.WritesNoDocument → property request) :
    OnlyCalls property
      ((iamAction parse readJson task.generated task.action).typed.adaptedResolveAuthorization
        task.request) := by
  obtain ⟨generated, parsePolicy, mode, request, action⟩ := task
  refine onlyCalls_liftExcept_bind fun payload _ => ?_
  -- every action asks for the same
  have same : (iamAction parse readJson generated action).typed.resolveAuthorization request
      payload = resolveAuthorization parse action request := by
    cases action <;> rfl
  exact same ▸ onlyCalls_resolveAuthorization plain

/-- **The handler of an accepted payload** writes the document of its payload, if any. -/
theorem IamTask.handle (plain : ∀ request : IamCall, request.WritesNoDocument → property request)
    (writes : ∀ request, task.Writes parse readJson request → property request)
    (payload : (iamAction parse readJson task.generated task.action).Request)
    (accepted : (iamAction parse readJson task.generated task.action).typed.Accepts task.request
      payload) :
    @OnlyCalls iamStore _ _ property
      ((iamAction parse readJson task.generated task.action).typed.handle task.request payload) := by
  obtain ⟨generated, parsePolicy, mode, request, action⟩ := task
  have performs (call' : IamCall) (holds : property call') :
      @AllCalls iamStore _ property (iamCall call') := allCalls_perform.mpr holds
  cases action with
  | createAccessKey =>
      refine (onlyCalls_requestedOrSigningUser plain).bind fun user => ?_
      exact (onlyCalls_orFail (performs _ (plain (.insertSecretKey ..) trivial))).bind
        fun _ => onlyCalls_pure
  | createUser =>
      exact (onlyCalls_orFail (performs _ (plain (.createPrincipal _) trivial))).bind
        fun _ => onlyCalls_pure
  | getUser =>
      refine (onlyCalls_orFail (performs _ (plain (.getPrincipalByIdentity ..) trivial))).bind
        fun found => ?_
      cases found with
      | none => exact onlyCalls_throw
      | some principal => exact onlyCalls_pure
  | deleteUser =>
      exact (onlyCalls_orFail (performs _ (plain (.deleteUser ..) trivial))).bind
        fun _ => onlyCalls_pure
  | createPolicy =>
      exact (onlyCalls_orFail (performs _ (writes _ (.createPolicy rfl accepted rfl)))).bind
        fun _ => onlyCalls_pure
  | putUserPolicy =>
      refine (onlyCalls_findUser plain).bind fun user => ?_
      exact (onlyCalls_orFail (performs _ (writes _ (.putUserPolicy rfl accepted)))).bind
        fun _ => onlyCalls_pure
  | attachUserPolicy =>
      refine (onlyCalls_findUser plain).bind fun user => onlyCalls_liftExcept_bind fun arn _ => ?_
      refine iteInduction (fun _ => trivial) fun _ => ?_
      refine (onlyCalls_findManagedPolicy plain).bind fun policy => ?_
      exact (onlyCalls_orFail (performs _ (plain (.attachPolicyToPrincipal ..) trivial))).bind
        fun _ => onlyCalls_pure
  | detachUserPolicy =>
      refine (onlyCalls_findUser plain).bind fun user => onlyCalls_liftExcept_bind fun arn _ => ?_
      refine iteInduction (fun _ => trivial) fun _ => ?_
      refine (onlyCalls_findManagedPolicy plain).bind fun policy => ?_
      exact (onlyCalls_orFail (performs _ (plain (.detachPolicyFromPrincipal ..) trivial))).bind
        fun _ => onlyCalls_pure
  | deletePolicy =>
      refine onlyCalls_liftExcept_bind fun arn _ => ?_
      refine iteInduction (fun _ => trivial) fun _ => ?_
      exact (onlyCalls_orFail (performs _ (plain (.deleteManagedPolicy ..) trivial))).bind
        fun _ => onlyCalls_pure
  | getUserPolicy =>
      refine (onlyCalls_findUser plain).bind fun user => ?_
      refine (onlyCalls_orFail (performs _ (plain (.getPrincipalPolicy ..) trivial))).bind
        fun found => ?_
      cases found with
      | none => exact onlyCalls_throw
      | some policy => exact onlyCalls_pure
  | getPolicy | getPolicyVersion =>
      exact onlyCalls_liftExcept_bind fun arn _ =>
        (onlyCalls_findManagedPolicy plain).bind fun _ => onlyCalls_pure
  | listAccessKeys =>
      refine (onlyCalls_requestedOrSigningUser plain).bind fun user => ?_
      exact (onlyCalls_orFail (performs _ (plain (.listAccessKeysForPrincipal _) trivial))).bind
        fun _ => onlyCalls_pure
  | listAttachedUserPolicies =>
      refine (onlyCalls_requestedOrSigningUser plain).bind fun user => ?_
      exact (onlyCalls_orFail (performs _
        (plain (.getManagedPoliciesAttachedToPrincipal _) trivial))).bind fun _ => onlyCalls_pure

/-- **A request writes the document of its payload only.** -/
theorem IamTask.allCalls
    (plain : ∀ request : IamCall, request.WritesNoDocument → property request)
    (writes : ∀ request, task.Writes parse readJson request → property request) :
    @AllCalls iamStore _ property (task.program parse readJson) := by
  refine AllCalls.bind ?_ fun _ => trivial
  exact TypedAwsAction.allCalls_route_of_accepts _
    (onlyCalls_adaptedResolveAuthorization_iam plain) (fun _ => allCalls_authorize plain)
    onlyCalls_adaptedValidate_iam (IamTask.handle plain writes)

end Requests

end Hiraeth
