import Hiraeth.Core.ArnUtil
import Hiraeth.Core.Protocol

/-!
# Who am I

The one action of the token service.  It reports the caller as the store knows it: the
path and the name are those of the stored user.

## Main definitions

* `StsError` — the errors of the service
* `getCallerIdentityAction`, `stsActionRegistry` — the registered action

## Main results

* `getCallerIdentity_arn` — the ARN that is reported is that of a stored user
-/

namespace Hiraeth

open Interaction

inductive StsError where
  | badRequest (message : Text)
  | unsupportedOperation (action : Text)
  | internalError (message : Text)
  deriving DecidableEq

/-- `StsError::from` a malformed query. -/
def StsError.ofQueryParseError (error : AwsQueryParseError) : StsError :=
  .badRequest error.message

/-- `StsError::from` a store error. -/
def StsError.ofStoreError (error : StoreError) : StsError :=
  .internalError error.display

/-- `StsError::status_code`. -/
def StsError.statusCode : StsError → ℕ
  | badRequest _ => 400
  | unsupportedOperation _ => 501
  | internalError _ => 500

/-- `StsError::code`. -/
def StsError.code : StsError → Text
  | badRequest _ => "ValidationError"
  | unsupportedOperation _ => "InvalidAction"
  | internalError _ => "InternalFailure"

/-- The payload, which has no fields. -/
structure GetCallerIdentityRequest where
  deriving DecidableEq

/-- `GetCallerIdentityResponse`. -/
structure GetCallerIdentityResponse where
  arn : Text
  userId : Text
  account : Text
  requestId : Text
  deriving DecidableEq

/-- `handle_get_caller_identity`. -/
def handleGetCallerIdentity (request : ResolvedRequest) (_payload : GetCallerIdentityRequest) :
    ExceptT StsError IamProgram GetCallerIdentityResponse := do
  let accountId := request.authContext.principal.accountId
  let name := request.authContext.principal.name
  let found ← (iamCall (.getPrincipalByIdentity accountId "user" name)).orFail
    StsError.ofStoreError
  match found with
  | none => throw (.internalError "User not found")
  | some user => return {
      arn := userArn accountId user.path user.name
      userId := user.userId
      account := accountId
      requestId := request.requestId }

/-- `GetCallerIdentityAction`. -/
def getCallerIdentityAction (parse : FormParser) :
    TypedAwsAction iamStore StsError GetCallerIdentityRequest GetCallerIdentityResponse where
  name := "GetCallerIdentity"
  parse := fun request =>
    (parseAwsQueryRequest parse [] (fun _ => .ok {}) request).mapError StsError.ofQueryParseError
  validate _ _ := pure ()
  handle := handleGetCallerIdentity
  resolveAuthorization request _ := return {
    action := "sts:GetCallerIdentity"
    resource := ("arn:aws:iam::" : Text) ++ request.authContext.principal.accountId ++
      ":user/".toList ++ request.authContext.principal.name
    resourcePolicy := none }

/-- The registry of the service. -/
def stsActionRegistry (parse : FormParser) : AwsActionRegistry iamStore StsError :=
  [⟨getCallerIdentityAction parse⟩]

/-- **The caller is reported under the ARN of a stored user.**  The store may have changed
since the caller was identified. -/
theorem getCallerIdentity_arn {S : Type} {serve : Serve iamStore S} {request : ResolvedRequest}
    {payload : GetCallerIdentityRequest} {state final : S} {response : GetCallerIdentityResponse}
    (succeeds : Program.Succeeds serve (handleGetCallerIdentity request payload) state response
      final) :
    ∃ user : Principal,
      serve (.getPrincipalByIdentity request.accountId "user" request.authContext.principal.name)
        state = (.ok (some user), final) ∧
      response.arn = userArn request.accountId user.path user.name := by
  unfold handleGetCallerIdentity at succeeds
  obtain ⟨found, between, looked, rest⟩ := Program.succeeds_bind.mp succeeds
  have answer := Program.succeeds_orFail.mp looked
  rw [run_iamCall] at answer
  cases found with
  | none => exact absurd rest Program.not_succeeds_throw
  | some user =>
      obtain ⟨rfl, rfl⟩ := Program.succeeds_pure.mp rest
      exact ⟨user, answer, rfl⟩

end Hiraeth
