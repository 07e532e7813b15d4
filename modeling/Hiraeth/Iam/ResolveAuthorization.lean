import Hiraeth.Core.ArnUtil
import Hiraeth.Core.Protocol

/-!
# What an IAM request is authorized for

Every IAM action asks for permission on the ARN of the user or policy it is
about.  A user is looked up, and the ARN is built from the row that is found; a
policy is named by the ARN the request itself carries.

## Main definitions

* `IamError` — the errors of the service
* `IamAction` — the registered actions
* `resolveAuthorization` — the check each of them asks for
-/

namespace Hiraeth

open Interaction

inductive IamError where
  | badRequest (message : Text)
  | entityAlreadyExists (message : Text)
  | noSuchEntity (message : Text)
  | unsupportedOperation (action : Text)
  | internalError (message : Text)
  deriving DecidableEq

/-- `IamError::from` a malformed query. -/
def IamError.ofQueryParseError (error : AwsQueryParseError) : IamError :=
  .badRequest error.message

/-- `IamError::from` a store error. -/
def IamError.ofStoreError : StoreError → IamError
  | .conflict message => .entityAlreadyExists message
  | .notFound message => .noSuchEntity message
  | .storageFailure message => .internalError (StoreError.storageFailure message).display

/-- The registered actions. -/
inductive IamAction where
  | createAccessKey
  | createUser
  | getUser
  | deleteUser
  | createPolicy
  | putUserPolicy
  | attachUserPolicy
  | detachUserPolicy
  | deletePolicy
  | getUserPolicy
  | getPolicy
  | getPolicyVersion
  | listAccessKeys
  | listAttachedUserPolicies
  deriving DecidableEq

/-- The name under which an action is registered. -/
def IamAction.name : IamAction → Text
  | createAccessKey => "CreateAccessKey"
  | createUser => "CreateUser"
  | getUser => "GetUser"
  | deleteUser => "DeleteUser"
  | createPolicy => "CreatePolicy"
  | putUserPolicy => "PutUserPolicy"
  | attachUserPolicy => "AttachUserPolicy"
  | detachUserPolicy => "DetachUserPolicy"
  | deletePolicy => "DeletePolicy"
  | getUserPolicy => "GetUserPolicy"
  | getPolicy => "GetPolicy"
  | getPolicyVersion => "GetPolicyVersion"
  | listAccessKeys => "ListAccessKeys"
  | listAttachedUserPolicies => "ListAttachedUserPolicies"

/-- The action as policies name it. -/
def IamAction.authorizationAction (action : IamAction) : Text :=
  ("iam:" : Text) ++ action.name

/-- The user of that name in an account. -/
def findUser (accountId name : Text) (missing : Text) :
    ExceptT IamError IamProgram Principal := do
  let found ← (iamCall (.getPrincipalByIdentity accountId "user" name)).orFail
    IamError.ofStoreError
  match found with
  | some principal => return principal
  | none => throw (.noSuchEntity missing)

/-- The check for an action on a user. -/
def userCheck (action : IamAction) (principal : Principal) : AuthorizationCheck where
  action := action.authorizationAction
  resource := userArn principal.accountId principal.path principal.name
  resourcePolicy := none

/-- A parameter without which nothing can be authorized. -/
def requiredParam (params : AwsQueryParams) (name : Text) : Except IamError Text :=
  match params.get name with
  | some value => .ok value
  | none => .error (.badRequest (name ++ " is required".toList))

/-- `resolve_authorization`.  The registered actions are all the source knows;
for any other name it reports an unsupported operation. -/
def resolveAuthorization (parse : FormParser) (action : IamAction) (request : ResolvedRequest) :
    ExceptT IamError IamProgram AuthorizationCheck := do
  let params ← liftExcept
    ((parseAwsQueryParams parse request.request).mapError IamError.ofQueryParseError)
  let caller := request.authContext.principal
  let accountId := caller.accountId
  let doesNotExist (name : Text) : Text := ("User " : Text) ++ name ++ " does not exist".toList
  let notFound (name : Text) : Text := ("User with name '" : Text) ++ name ++ "' not found".toList
  match action with
  | .createUser =>
      let userName ← liftExcept (requiredParam params "UserName")
      let path := normalizeUserPath ((params.get "Path").getD "/")
      return { action := action.authorizationAction
               resource := userArn accountId path userName
               resourcePolicy := none }
  | .getUser =>
      let userName := (params.get "UserName").getD caller.name
      let principal ← findUser accountId userName (notFound userName)
      return userCheck action principal
  | .deleteUser =>
      let userName ← liftExcept (requiredParam params "UserName")
      let principal ← findUser accountId userName (notFound userName)
      return userCheck action principal
  | .createAccessKey | .listAccessKeys | .listAttachedUserPolicies =>
      match (params.get "UserName").filter fun name => trim name ≠ [] with
      | some name =>
          let principal ← findUser accountId name (doesNotExist name)
          return userCheck action principal
      | none =>
          if caller.kind = "user" then return userCheck action caller
          else throw (.badRequest (("UserName is required when the caller" : Text) ++
            " is not an IAM user".toList))
  | .putUserPolicy | .getUserPolicy | .attachUserPolicy | .detachUserPolicy =>
      let userName ← liftExcept (requiredParam params "UserName")
      let principal ← findUser accountId userName (doesNotExist userName)
      return userCheck action principal
  | .createPolicy =>
      let policyName ← liftExcept (requiredParam params "PolicyName")
      let path := normalizeUserPath ((params.get "Path").getD "/")
      return { action := action.authorizationAction
               resource := policyArn accountId path policyName
               resourcePolicy := none }
  | .getPolicy | .deletePolicy | .getPolicyVersion =>
      let arn ← liftExcept (requiredParam params "PolicyArn")
      return { action := action.authorizationAction
               resource := arn
               resourcePolicy := none }

end Hiraeth
