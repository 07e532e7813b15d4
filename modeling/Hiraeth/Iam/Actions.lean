import Hiraeth.Iam.UserActions

/-!
# The other actions of the service

Creating managed policies, and reading users, keys and policies.  With the actions on
users and on policies these are all that the service registers.

## Main definitions

* `createPolicyAction` — creating a managed policy
* `getUserAction`, `getUserPolicyAction`, `listAccessKeysAction`,
  `listAttachedUserPoliciesAction` — reading
* `detachUserPolicyAction` — taking a policy from a user
* `iamAction`, `iamActionRegistry` — the registered actions
-/

namespace Hiraeth

open Interaction

/-! ### Payloads -/

structure CreatePolicyRequest where
  path : Option Text
  policyDocument : Text
  policyName : Text
  deriving DecidableEq

/-- `GetUserRequest`, `ListAccessKeysRequest` and `ListAttachedUserPoliciesRequest`. -/
structure OptionalUserRequest where
  userName : Option Text
  deriving DecidableEq

structure DetachUserPolicyRequest where
  userName : Text
  policyArn : Text
  deriving DecidableEq

structure GetUserPolicyRequest where
  userName : Text
  policyName : Text
  deriving DecidableEq

/-! ### Handlers -/

/-- `handle_create_policy`.  The id is drawn at random. -/
def handleCreatePolicy (generated : Generated) (request : ResolvedRequest)
    (createPolicyRequest : CreatePolicyRequest) :
    ExceptT IamError IamProgram (IamPolicyXml × Text) := do
  let created ← (iamCall (.insertManagedPolicy {
    accountId := request.authContext.principal.accountId
    policyId := generated.userId
    policyName := createPolicyRequest.policyName
    policyPath := some (normalizePolicyPath createPolicyRequest.path)
    policyDocument := createPolicyRequest.policyDocument })).orFail IamError.ofStoreError
  return (.ofManagedPolicy created, request.requestId)

/-- `optional_target_user`. -/
def optionalTargetUser (request : ResolvedRequest) (userName : Option Text) :
    ExceptT IamError IamProgram (Option Principal) :=
  (iamCall (.getPrincipalByIdentity request.authContext.principal.accountId "user"
    (userName.getD request.authContext.principal.name))).orFail IamError.ofStoreError

/-- `handle_get_user`. -/
def handleGetUser (request : ResolvedRequest) (getUserRequest : OptionalUserRequest) :
    ExceptT IamError IamProgram (IamUserXml × Text) := do
  match ← optionalTargetUser request getUserRequest.userName with
  | some principal => return (.ofPrincipal principal, request.requestId)
  | none => throw (.noSuchEntity (("User with name '" : Text) ++
      getUserRequest.userName.getD request.authContext.principal.name ++ "' not found".toList))

/-- `handle_detach_user_policy`. -/
def handleDetachUserPolicy (request : ResolvedRequest) (detachRequest : DetachUserPolicyRequest) :
    ExceptT IamError IamProgram Text := do
  let accountId := request.authContext.principal.accountId
  let user ← findUser accountId detachRequest.userName
    (("User " : Text) ++ detachRequest.userName)
  let arn ← liftExcept (parsePolicyArn detachRequest.policyArn)
  if arn.accountId ≠ accountId then
    throw (.noSuchEntity
      (("Policy " : Text) ++ detachRequest.policyArn ++ " does not exist".toList))
  let policy ← findManagedPolicy arn detachRequest.policyArn
  (iamCall (.detachPolicyFromPrincipal policy.id user.id)).orFail IamError.ofStoreError
  return request.requestId

structure GetUserPolicyResponse where
  userName : Text
  policyName : Text
  policyDocument : Text
  requestId : Text
  deriving DecidableEq

/-- `handle_get_user_policy`. -/
def handleGetUserPolicy (request : ResolvedRequest) (getRequest : GetUserPolicyRequest) :
    ExceptT IamError IamProgram GetUserPolicyResponse := do
  let principal ← findUser request.authContext.principal.accountId getRequest.userName
    (("User " : Text) ++ getRequest.userName ++ " does not exist".toList)
  let found ← (iamCall (.getPrincipalPolicy principal.id getRequest.policyName)).orFail
    IamError.ofStoreError
  match found with
  | some policy => return {
      userName := principal.name
      policyName := policy.policyName
      policyDocument := policy.policyDocument
      requestId := request.requestId }
  | none => throw (.noSuchEntity (("Policy " : Text) ++ getRequest.policyName ++
      " does not exist for user ".toList ++ getRequest.userName))

/-- `AccessKeyMetadataMemberXml`.  The date is rendered when the response is written. -/
structure AccessKeyMetadata where
  userName : Text
  accessKeyId : Text
  status : Text
  createDate : Time
  deriving DecidableEq

/-- `handle_list_access_keys`. -/
def handleListAccessKeys (request : ResolvedRequest) (listRequest : OptionalUserRequest) :
    ExceptT IamError IamProgram (List AccessKeyMetadata × Text) := do
  let targetUser ← requestedOrSigningUser request listRequest.userName
  let accessKeys ← (iamCall (.listAccessKeysForPrincipal targetUser.id)).orFail
    IamError.ofStoreError
  return (accessKeys.map fun accessKey =>
    ⟨targetUser.name, accessKey.keyId, "Active", accessKey.createdAt⟩, request.requestId)

/-- `AttachedPolicyMemberXml`. -/
structure AttachedPolicy where
  policyName : Text
  policyArn : Text
  deriving DecidableEq

/-- `handle_list_attached_user_policies`.  The ARNs are those of the user's account. -/
def handleListAttachedUserPolicies (request : ResolvedRequest)
    (listRequest : OptionalUserRequest) :
    ExceptT IamError IamProgram (List AttachedPolicy × Text) := do
  let targetUser ← requestedOrSigningUser request listRequest.userName
  let policies ← (iamCall (.getManagedPoliciesAttachedToPrincipal targetUser.id)).orFail
    IamError.ofStoreError
  return (policies.map fun policy =>
    ⟨policy.policyName,
      policyArn targetUser.accountId (normalizePolicyPath policy.policyPath) policy.policyName⟩,
    request.requestId)

/-! ### The actions -/

/-- `CreatePolicyAction`. -/
def createPolicyAction (parse : FormParser) (readJson : JsonReader) (generated : Generated) :
    TypedAwsAction iamStore IamError CreatePolicyRequest (IamPolicyXml × Text) where
  name := IamAction.createPolicy.name
  parse := parseIamRequest parse ["Path", "PolicyDocument", "PolicyName"] fun params => do
    return { path := params.get "Path"
             policyDocument := ← params.required "PolicyDocument"
             policyName := ← params.required "PolicyName" }
  validate _ createPolicyRequest := do
    liftExcept (validatePolicyName createPolicyRequest.policyName)
    liftExcept (validateIamPath "Path" (normalizePolicyPath createPolicyRequest.path))
    liftExcept (validatePolicyDocument readJson createPolicyRequest.policyDocument)
  handle := handleCreatePolicy generated
  resolveAuthorization request _ := resolveAuthorization parse .createPolicy request

/-- A payload that names a user, or none. -/
def parseOptionalUserRequest (parse : FormParser) :
    IncomingRequest → Except IamError OptionalUserRequest :=
  parseIamRequest parse ["UserName"] fun params => return { userName := params.get "UserName" }

/-- The check of such a payload. -/
def validateOptionalUser (request : OptionalUserRequest) : ExceptT IamError IamProgram Unit :=
  match request.userName with
  | some userName => liftExcept (validateUserName userName)
  | none => pure ()

/-- `GetUserAction`. -/
def getUserAction (parse : FormParser) :
    TypedAwsAction iamStore IamError OptionalUserRequest (IamUserXml × Text) where
  name := IamAction.getUser.name
  parse := parseOptionalUserRequest parse
  validate _ := validateOptionalUser
  handle := handleGetUser
  resolveAuthorization request _ := resolveAuthorization parse .getUser request

/-- `DetachUserPolicyAction`. -/
def detachUserPolicyAction (parse : FormParser) :
    TypedAwsAction iamStore IamError DetachUserPolicyRequest Text where
  name := IamAction.detachUserPolicy.name
  parse := parseIamRequest parse ["UserName", "PolicyArn"] fun params => do
    return { userName := ← params.required "UserName"
             policyArn := ← params.required "PolicyArn" }
  validate _ detachRequest := do
    liftExcept (validateUserName detachRequest.userName)
    let _ ← liftExcept (parsePolicyArn detachRequest.policyArn)
    return ()
  handle := handleDetachUserPolicy
  resolveAuthorization request _ := resolveAuthorization parse .detachUserPolicy request

/-- `GetUserPolicyAction`.  Its payload is not checked. -/
def getUserPolicyAction (parse : FormParser) :
    TypedAwsAction iamStore IamError GetUserPolicyRequest GetUserPolicyResponse where
  name := IamAction.getUserPolicy.name
  parse := parseIamRequest parse ["UserName", "PolicyName"] fun params => do
    return { userName := ← params.required "UserName"
             policyName := ← params.required "PolicyName" }
  validate _ _ := pure ()
  handle := handleGetUserPolicy
  resolveAuthorization request _ := resolveAuthorization parse .getUserPolicy request

/-- `ListAccessKeysAction`. -/
def listAccessKeysAction (parse : FormParser) :
    TypedAwsAction iamStore IamError OptionalUserRequest (List AccessKeyMetadata × Text) where
  name := IamAction.listAccessKeys.name
  parse := parseOptionalUserRequest parse
  validate _ := validateOptionalUser
  handle := handleListAccessKeys
  resolveAuthorization request _ := resolveAuthorization parse .listAccessKeys request

/-- `ListAttachedUserPoliciesAction`. -/
def listAttachedUserPoliciesAction (parse : FormParser) :
    TypedAwsAction iamStore IamError OptionalUserRequest (List AttachedPolicy × Text) where
  name := IamAction.listAttachedUserPolicies.name
  parse := parseOptionalUserRequest parse
  validate _ := validateOptionalUser
  handle := handleListAttachedUserPolicies
  resolveAuthorization request _ := resolveAuthorization parse .listAttachedUserPolicies request

/-! ### The registry -/

/-- The registered actions, by name. -/
def iamAction (parse : FormParser) (readJson : JsonReader) (generated : Generated) :
    IamAction → AwsAction iamStore IamError
  | .createAccessKey => ⟨createAccessKeyAction parse generated⟩
  | .createUser => ⟨createUserAction parse generated⟩
  | .getUser => ⟨getUserAction parse⟩
  | .deleteUser => ⟨deleteUserAction parse⟩
  | .createPolicy => ⟨createPolicyAction parse readJson generated⟩
  | .putUserPolicy => ⟨putUserPolicyAction parse readJson⟩
  | .attachUserPolicy => ⟨attachUserPolicyAction parse⟩
  | .detachUserPolicy => ⟨detachUserPolicyAction parse⟩
  | .deletePolicy => ⟨deletePolicyAction parse⟩
  | .getUserPolicy => ⟨getUserPolicyAction parse⟩
  | .getPolicy => ⟨getPolicyAction parse⟩
  | .getPolicyVersion => ⟨getPolicyVersionAction parse⟩
  | .listAccessKeys => ⟨listAccessKeysAction parse⟩
  | .listAttachedUserPolicies => ⟨listAttachedUserPoliciesAction parse⟩

/-- The actions in the order in which they are registered. -/
def registeredIamActions : List IamAction :=
  [.createAccessKey, .createUser, .getUser, .deleteUser, .createPolicy, .putUserPolicy,
    .attachUserPolicy, .detachUserPolicy, .deletePolicy, .getUserPolicy, .getPolicy,
    .getPolicyVersion, .listAccessKeys, .listAttachedUserPolicies]

/-- The registry of the service. -/
def iamActionRegistry (parse : FormParser) (readJson : JsonReader) (generated : Generated) :
    AwsActionRegistry iamStore IamError :=
  registeredIamActions.map (iamAction parse readJson generated)

end Hiraeth
