import Hiraeth.Auth.SigV4
import Hiraeth.Iam.PolicyActions

/-!
# Actions on users

Creating and deleting users, and giving them access keys, inline policies and
managed policies.  Every handler first finds the user and then acts on the row
number it was told.

## Main definitions

* `createUserAction`, `deleteUserAction`, `createAccessKeyAction`,
  `putUserPolicyAction`, `attachUserPolicyAction`
* `resolveIdentity` — from an authenticated request to its caller
* `handleIamRequest` — authentication, identity, authorization and the action
-/

namespace Hiraeth

open Interaction

/-! ### Validation -/

/-- `validate_iam_name`.  The length is counted in bytes. -/
def validateIamName (fieldName value : Text) (maxLen : ℕ) : Except IamError Unit :=
  if value = [] ∨ maxLen < (Text.utf8 value).length then
    .error (.badRequest (fieldName ++ " must be between 1 and ".toList ++ Nat.toDigits 10 maxLen ++
      " characters".toList))
  else if !value.all fun c => c.isAlphanum || c ∈ "_+=,.@-".toList then
    .error (.badRequest (fieldName ++ " contains unsupported characters".toList))
  else .ok ()

/-- `validate_user_name`. -/
def validateUserName (userName : Text) : Except IamError Unit :=
  validateIamName "UserName" userName 64

/-- `validate_policy_name`. -/
def validatePolicyName (policyName : Text) : Except IamError Unit :=
  validateIamName "PolicyName" policyName 128

/-- `validate_iam_path`. -/
def validateIamPath (fieldName path : Text) : Except IamError Unit :=
  if path = [] ∨ 512 < (Text.utf8 path).length then
    .error (.badRequest (fieldName ++ " must be between 1 and 512 characters".toList))
  else if path.head? ≠ some '/' ∨ path.getLast? ≠ some '/' then
    .error (.badRequest (fieldName ++ " must begin and end with /".toList))
  else if !path.all fun c => c = '/' || ('!' ≤ c && c ≤ '~') then
    .error (.badRequest (fieldName ++ " contains unsupported characters".toList))
  else .ok ()

/-- What the JSON library makes of a text: its complaint, or whether the value
is an object. -/
abbrev JsonReader := Text → Except Text Bool

/-- `validate_policy_document`. -/
def validatePolicyDocument (readJson : JsonReader) (policyDocument : Text) :
    Except IamError Unit :=
  if trim policyDocument = [] then .error (.badRequest "PolicyDocument must not be empty")
  else
    match readJson policyDocument with
    | .error error =>
        .error (.badRequest (("PolicyDocument must be valid JSON: " : Text) ++ error))
    | .ok false => .error (.badRequest "PolicyDocument must be a JSON object")
    | .ok true => .ok ()

/-! ### Payloads -/

structure CreateUserRequest where
  userName : Text
  path : Text
  permissionsBoundary : Option Text
  deriving DecidableEq

structure DeleteUserRequest where
  userName : Text
  deriving DecidableEq

structure CreateAccessKeyRequest where
  userName : Option Text
  deriving DecidableEq

structure PutUserPolicyRequest where
  userName : Text
  policyName : Text
  policyDocument : Text
  deriving DecidableEq

structure AttachUserPolicyRequest where
  userName : Text
  policyArn : Text
  deriving DecidableEq

/-- Decode a payload, with the errors of the service. -/
def parseIamRequest {Request : Type} (parse : FormParser) (declared : List Text)
    (build : AwsQueryParams → Except Text Request) (request : IncomingRequest) :
    Except IamError Request :=
  (parseAwsQueryRequest parse declared build request).mapError IamError.ofQueryParseError

/-! ### Handlers -/

/-- The texts a request draws at random: a user id, an access key id and a
secret. -/
structure Generated where
  userId : Text
  accessKeyId : Text
  secretAccessKey : Text
  deriving DecidableEq

/-- `IamUserXml`.  The date is rendered when the response is written. -/
structure IamUserXml where
  path : Text
  userName : Text
  userId : Text
  arn : Text
  createDate : Time
  deriving DecidableEq

/-- `IamUserXml::from` a principal. -/
def IamUserXml.ofPrincipal (principal : Principal) : IamUserXml where
  path := principal.path
  userName := principal.name
  userId := principal.userId
  arn := userArn principal.accountId principal.path principal.name
  createDate := principal.createdAt

/-- `handle_create_user`. -/
def handleCreateUser (generated : Generated) (request : ResolvedRequest)
    (createUserRequest : CreateUserRequest) :
    ExceptT IamError IamProgram (IamUserXml × Text) := do
  let created ← (iamCall (.createPrincipal {
    accountId := request.authContext.principal.accountId
    kind := "user"
    name := createUserRequest.userName
    path := normalizeUserPath createUserRequest.path
    userId := generated.userId })).orFail IamError.ofStoreError
  return (.ofPrincipal created, request.requestId)

/-- `handle_delete_user`. -/
def handleDeleteUser (request : ResolvedRequest) (deleteRequest : DeleteUserRequest) :
    ExceptT IamError IamProgram Text := do
  (iamCall (.deleteUser request.authContext.principal.accountId deleteRequest.userName)).orFail
    IamError.ofStoreError
  return request.requestId

/-- `requested_or_signing_user`. -/
def requestedOrSigningUser (request : ResolvedRequest) (userName : Option Text) :
    ExceptT IamError IamProgram Principal :=
  let caller := request.authContext.principal
  match userName with
  | some name =>
      if trim name = [] then throw (.badRequest "UserName must not be empty")
      else findUser caller.accountId name
        (("User " : Text) ++ name ++ " does not exist".toList)
  | none =>
      if caller.kind = "user" then pure caller
      else throw (.badRequest (("UserName is required when the caller" : Text) ++
        " is not an IAM user".toList))

/-- `IamAccessKeyXml`. -/
structure IamAccessKeyXml where
  userName : Text
  accessKeyId : Text
  secretAccessKey : Text
  createDate : Time
  deriving DecidableEq

/-- `handle_create_access_key`. -/
def handleCreateAccessKey (generated : Generated) (request : ResolvedRequest)
    (createRequest : CreateAccessKeyRequest) :
    ExceptT IamError IamProgram (IamAccessKeyXml × Text) := do
  let targetUser ← requestedOrSigningUser request createRequest.userName
  let created ← (iamCall (.insertSecretKey generated.accessKeyId generated.secretAccessKey
    targetUser.id)).orFail IamError.ofStoreError
  return ({
    userName := targetUser.name
    accessKeyId := created.keyId
    secretAccessKey := created.secretKey
    createDate := created.createdAt }, request.requestId)

/-- `handle_put_user_policy`. -/
def handlePutUserPolicy (request : ResolvedRequest) (putRequest : PutUserPolicyRequest) :
    ExceptT IamError IamProgram Text := do
  let user ← findUser request.authContext.principal.accountId putRequest.userName
    (("User " : Text) ++ putRequest.userName ++ " does not exist".toList)
  let _ ← (iamCall (.putInlinePolicy user.id putRequest.policyName
    putRequest.policyDocument)).orFail IamError.ofStoreError
  return request.requestId

/-- `handle_attach_user_policy`. -/
def handleAttachUserPolicy (request : ResolvedRequest)
    (attachRequest : AttachUserPolicyRequest) : ExceptT IamError IamProgram Text := do
  let accountId := request.authContext.principal.accountId
  let user ← findUser accountId attachRequest.userName
    (("User " : Text) ++ attachRequest.userName)
  let arn ← liftExcept (parsePolicyArn attachRequest.policyArn)
  if arn.accountId ≠ accountId then
    throw (.noSuchEntity
      (("Policy " : Text) ++ attachRequest.policyArn ++ " does not exist".toList))
  let policy ← findManagedPolicy arn attachRequest.policyArn
  (iamCall (.attachPolicyToPrincipal policy.id user.id)).orFail IamError.ofStoreError
  return request.requestId

/-! ### The actions -/

/-- `CreateUserAction`. -/
def createUserAction (parse : FormParser) (generated : Generated) :
    TypedAwsAction iamStore IamError CreateUserRequest (IamUserXml × Text) where
  name := IamAction.createUser.name
  parse := parseIamRequest parse ["UserName", "Path", "PermissionsBoundary"] fun params => do
    return { userName := ← params.required "UserName"
             path := (params.get "Path").getD "/"
             permissionsBoundary := params.get "PermissionsBoundary" }
  validate _ createUserRequest := do
    liftExcept (validateUserName createUserRequest.userName)
    liftExcept (validateIamPath "Path" createUserRequest.path)
    if createUserRequest.permissionsBoundary.isSome then
      throw (.badRequest "PermissionsBoundary is not supported yet")
  handle := handleCreateUser generated
  resolveAuthorization request _ := resolveAuthorization parse .createUser request

/-- `DeleteUserAction`. -/
def deleteUserAction (parse : FormParser) :
    TypedAwsAction iamStore IamError DeleteUserRequest Text where
  name := IamAction.deleteUser.name
  parse := parseIamRequest parse ["UserName"] fun params => do
    return { userName := ← params.required "UserName" }
  validate _ deleteRequest := liftExcept (validateUserName deleteRequest.userName)
  handle := handleDeleteUser
  resolveAuthorization request _ := resolveAuthorization parse .deleteUser request

/-- `CreateAccessKeyAction`. -/
def createAccessKeyAction (parse : FormParser) (generated : Generated) :
    TypedAwsAction iamStore IamError CreateAccessKeyRequest (IamAccessKeyXml × Text) where
  name := IamAction.createAccessKey.name
  parse := parseIamRequest parse ["UserName"] fun params =>
    return { userName := params.get "UserName" }
  validate _ createRequest :=
    match createRequest.userName with
    | some userName => liftExcept (validateUserName userName)
    | none => pure ()
  handle := handleCreateAccessKey generated
  resolveAuthorization request _ := resolveAuthorization parse .createAccessKey request

/-- `PutUserPolicyAction`. -/
def putUserPolicyAction (parse : FormParser) (readJson : JsonReader) :
    TypedAwsAction iamStore IamError PutUserPolicyRequest Text where
  name := IamAction.putUserPolicy.name
  parse := parseIamRequest parse ["UserName", "PolicyName", "PolicyDocument"] fun params => do
    return { userName := ← params.required "UserName"
             policyName := ← params.required "PolicyName"
             policyDocument := ← params.required "PolicyDocument" }
  validate _ putRequest := do
    liftExcept (validateUserName putRequest.userName)
    liftExcept (validatePolicyName putRequest.policyName)
    liftExcept (validatePolicyDocument readJson putRequest.policyDocument)
  handle := handlePutUserPolicy
  resolveAuthorization request _ := resolveAuthorization parse .putUserPolicy request

/-- `AttachUserPolicyAction`. -/
def attachUserPolicyAction (parse : FormParser) :
    TypedAwsAction iamStore IamError AttachUserPolicyRequest Text where
  name := IamAction.attachUserPolicy.name
  parse := parseIamRequest parse ["UserName", "PolicyArn"] fun params => do
    return { userName := ← params.required "UserName"
             policyArn := ← params.required "PolicyArn" }
  validate _ attachRequest := do
    liftExcept (validateUserName attachRequest.userName)
    let _ ← liftExcept (parsePolicyArn attachRequest.policyArn)
    return ()
  handle := handleAttachUserPolicy
  resolveAuthorization request _ := resolveAuthorization parse .attachUserPolicy request

/-! ### From the wire to the action -/

inductive ResolveIdentityError where
  | principalStoreError (error : StoreError)
  | principalNotFound
  deriving DecidableEq

/-- `resolve_identity`. -/
def resolveIdentity (requestId : Text) (request : AuthenticatedRequest) :
    ExceptT ResolveIdentityError IamProgram ResolvedRequest := do
  let found ← (iamCall (.getPrincipal request.authContext.principalId)).orFail
    ResolveIdentityError.principalStoreError
  match found with
  | none => throw .principalNotFound
  | some principal => return {
      requestId
      request := request.request
      service := request.service
      region := request.region
      authContext := { accessKey := request.authContext.accessKey, principal }
      date := request.date }

/-- How a request to the service ends. -/
inductive Handled (Response : Type) where
  | notAuthenticated (error : AuthError)
  | notResolved (error : ResolveIdentityError)
  | routed (outcome : Routed IamError Response)

/-- The caller of a request: authentication and then identity. -/
def identifyCaller (library : AuthLibrary) (requestId : Text) (request : IncomingRequest) :
    IamProgram (Except (AuthError ⊕ ResolveIdentityError) ResolvedRequest) := do
  match ← (authenticateRequest library request).run with
  | .error error => return .error (.inl error)
  | .ok authenticated =>
      match ← (resolveIdentity requestId authenticated).run with
      | .error error => return .error (.inr error)
      | .ok resolved => return .ok resolved

/-- A request to one action of the service, from the wire to the answer. -/
def handleIamRequest {Request Response : Type} (library : AuthLibrary)
    (parsePolicy : Text → Except Text Policy) (mode : AuthorizationMode)
    (action : TypedAwsAction iamStore IamError Request Response) (requestId : Text)
    (request : IncomingRequest) : IamProgram (Handled Response) := do
  match ← identifyCaller library requestId request with
  | .error (.inl error) => return .notAuthenticated error
  | .error (.inr error) => return .notResolved error
  | .ok resolved => return .routed (← action.route (authorize parsePolicy mode) resolved)

end Hiraeth
