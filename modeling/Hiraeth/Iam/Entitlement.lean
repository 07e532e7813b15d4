import Hiraeth.Iam.UserActions
import Hiraeth.Lib.Discipline

/-!
# What a request is told, and what it does with it

A request to the IAM service learns row numbers from the store: of the owner of
an access key, of its caller, of the user it is about.  It uses a number only in
the role in which it was told.

## Main definitions

* `Told` — what a request has been told so far
* `entitlement` — the calls this entitles it to
* `IamRequest` — the requests on users and credentials, as programs

## Main results

* `IamRequest.obeys` — every request makes only calls it is entitled to
-/

namespace Hiraeth

open Interaction

/-- What a request has been told: the access key of its signature, its caller,
the user it is about, and whether it has tried to create a user. -/
structure Told where
  key : Option AccessKey
  caller : Option Principal
  target : Option Principal
  created : Bool

namespace Told

def nothing : Told := ⟨none, none, none, false⟩

/-- What is told by an answer.  A request that has created a user makes no use
of earlier numbers any more. -/
def learn (told : Told) : Event iamStore → Told
  | ⟨.getSecretKey _, .ok (some key)⟩ => { told with key := some key }
  | ⟨.getPrincipal _, .ok (some principal)⟩ =>
      { told with caller := some principal, target := some principal }
  | ⟨.getPrincipalByIdentity _ _ _, .ok (some principal)⟩ =>
      { told with target := some principal }
  | ⟨.createPrincipal _, _⟩ => { nothing with created := true }
  | _ => told

/-- The calls of a request that creates users with the user id `userId`. -/
def Entitles (userId : Text) (told : Told) : IamCall → Prop
  | .getSecretKey _ => True
  | .getPrincipal principalId => ∃ key, told.key = some key ∧ key.principalId = principalId
  | .getPrincipalByIdentity _ _ _ => True
  | .getManagedPolicy _ _ _ => True
  | .getInlinePoliciesForPrincipal principalId =>
      ∃ caller, told.caller = some caller ∧ caller.id = principalId
  | .getManagedPoliciesAttachedToPrincipal principalId =>
      ∃ caller, told.caller = some caller ∧ caller.id = principalId
  | .insertSecretKey _ _ principalId =>
      ∃ target, told.target = some target ∧ target.id = principalId
  | .putInlinePolicy principalId _ _ =>
      ∃ target, told.target = some target ∧ target.id = principalId
  | .attachPolicyToPrincipal _ principalId =>
      ∃ target, told.target = some target ∧ target.id = principalId
  | .createPrincipal principal => principal.userId = userId ∧ told.created = false
  | .deleteUser _ _ => True
  | _ => False

end Told

/-- The discipline of a request. -/
def entitlement (userId : Text) : Discipline iamStore Told where
  learn := Told.learn
  permits := Told.Entitles userId

section Obeys

variable {userId : Text} {told : Told}

/-- A single call obeys when the request is entitled to it and every answer
leads to the postcondition. -/
theorem obeys_iamCall {request : IamCall} {post : request.Answer → Told → Prop} :
    (iamCall request).Obeys (entitlement userId) post told ↔ told.Entitles userId request ∧
      ∀ answer, post answer (told.learn ⟨request, answer⟩) := Iff.rfl

/-- A user that was found is the target from then on; nothing else changes. -/
theorem obeys_findUser {accountId name missing : Text} :
    (findUser accountId name missing).run.Obeys (entitlement userId) (fun outcome after =>
      (∀ principal, outcome = .ok principal → after = { told with target := some principal }) ∧
      ∃ target, after = { told with target := target }) told := by
  unfold findUser
  rw [Program.obeys_run_bind, Program.obeys_run_orFail, obeys_iamCall]
  refine ⟨trivial, fun answer => ?_⟩
  rcases answer with failure | found
  · refine ⟨fun principal impossible => (by cases impossible), told.target, rfl⟩
  · rcases found with none | principal
    · refine ⟨fun principal impossible => (by cases impossible), told.target, rfl⟩
    · refine ⟨fun other same => (by cases same; rfl), some principal, rfl⟩

/-- Authentication tells the key of the signature. -/
theorem obeys_sigV4AuthenticateRequest {library : AuthLibrary} {request : IncomingRequest} :
    (sigV4AuthenticateRequest library request).run.Obeys (entitlement userId)
      (fun outcome after => ∀ params key, outcome = .ok (params, key) →
        after = { told with key := some key }) told := by
  unfold sigV4AuthenticateRequest
  refine Program.Obeys.liftExcept_bind (fun _ _ _ impossible => (by cases impossible)) ?_
  intro params extracted
  refine Program.Obeys.orFail_bind ⟨trivial, fun answer => ⟨?_, ?_⟩⟩
  · intro failure _ _ _ impossible
    cases impossible
  intro found answered
  subst answered
  rcases found with none | key
  · intro _ _ impossible
    cases impossible
  refine Program.Obeys.liftExcept_bind (fun _ _ _ impossible => (by cases impossible)) ?_
  intro calculated hashed
  by_cases same : params.signature = calculated
  · rw [if_pos same]
    intro _ _ returned
    cases returned
    rfl
  · rw [if_neg same]
    intro _ _ impossible
    cases impossible

theorem obeys_authenticateRequest {library : AuthLibrary} {request : IncomingRequest} :
    (authenticateRequest library request).run.Obeys (entitlement userId) (fun outcome after =>
      ∀ authenticated, outcome = .ok authenticated → ∃ key, after = { told with key := some key } ∧
        key.principalId = authenticated.authContext.principalId) told := by
  unfold authenticateRequest
  rw [Program.obeys_run_bind]
  refine obeys_sigV4AuthenticateRequest.mono fun outcome after learned => ?_
  rcases outcome with failure | ⟨params, key⟩
  · intro _ impossible
    cases impossible
  obtain rfl := learned params key rfl
  dsimp only
  rcases request.headers "x-amz-date" with none | timestamp
  · intro _ impossible
    cases impossible
  dsimp only
  rcases library.parseTimestamp timestamp with none | date
  · intro _ impossible
    cases impossible
  · intro _ returned
    cases returned
    exact ⟨key, rfl, rfl⟩

/-- Once the caller is known, it is also the user the request is about, until
another one is looked up. -/
theorem obeys_identifyCaller {library : AuthLibrary} {requestId : Text}
    {request : IncomingRequest} :
    (identifyCaller library requestId request).Obeys (entitlement userId) (fun outcome after =>
      ∀ resolved, outcome = .ok resolved → after.caller = some resolved.authContext.principal ∧
        after.target = some resolved.authContext.principal ∧ after.created = told.created)
      told := by
  unfold identifyCaller
  rw [Program.obeys_bind]
  refine obeys_authenticateRequest.mono fun outcome after learned => ?_
  rcases outcome with failure | authenticated
  · intro _ impossible
    cases impossible
  obtain ⟨key, rfl, owner⟩ := learned authenticated rfl
  show Program.Obeys _ ((resolveIdentity requestId authenticated).run >>= _) _ _
  rw [Program.obeys_bind]
  unfold resolveIdentity
  refine Program.Obeys.orFail_bind ⟨⟨key, rfl, owner⟩, fun answer => ⟨?_, ?_⟩⟩
  · intro failure _ _ impossible
    cases impossible
  intro found answered
  subst answered
  rcases found with none | principal
  · intro _ impossible
    cases impossible
  · intro _ returned
    cases returned
    exact ⟨rfl, rfl, rfl⟩

/-- Authorization reads the policies of the caller and learns nothing. -/
theorem obeys_authorize {parsePolicy : Text → Except Text Policy} {mode : AuthorizationMode}
    {request : ResolvedRequest} {check : AuthorizationCheck}
    (known : told.caller = some request.authContext.principal) :
    (authorize parsePolicy mode request check).Obeys (entitlement userId)
      (fun _ after => after = told) told := by
  unfold authorize evaluatePrincipalInlinePolicies evaluateManagedPolicies
  rw [Program.obeys_bind]
  refine Program.Obeys.orFail_bind ⟨⟨_, known, rfl⟩, fun answer => ⟨?_, ?_⟩⟩
  · intro failure _
    rw [Program.obeys_bind]
    refine Program.Obeys.orFail_bind ⟨⟨_, known, rfl⟩, fun answer => ⟨?_, ?_⟩⟩
    · intro _ _
      rfl
    · intro _ _
      rw [Program.obeys_run_liftExcept]
      rfl
  · intro policies _
    rw [Program.obeys_run_liftExcept, Program.obeys_bind]
    refine Program.Obeys.orFail_bind ⟨⟨_, known, rfl⟩, fun answer => ⟨?_, ?_⟩⟩
    · intro _ _
      rfl
    · intro _ _
      rw [Program.obeys_run_liftExcept]
      rfl

/-- What finding out what is to be authorized can tell: at most another target.
An access key for the caller needs no lookup. -/
structure Looked (parse : FormParser) (action : IamAction) (request : ResolvedRequest)
    (told after : Told) : Prop where
  target : ∃ target, after = { told with target := target }
  unnamed : action = .createAccessKey → ∀ params,
    parseAwsQueryParams parse request.request = .ok params → params.get "UserName" = none →
    after = told

section Resolve

variable {parse : FormParser} {action : IamAction} {request : ResolvedRequest}

theorem Looked.refl : Looked parse action request told told :=
  ⟨⟨told.target, rfl⟩, fun _ _ _ _ => rfl⟩

/-- A lookup is the last call of every action that makes one. -/
theorem obeys_findUser_userCheck {accountId name missing : Text}
    (named : action = .createAccessKey → ∀ params,
      parseAwsQueryParams parse request.request = .ok params → params.get "UserName" ≠ none) :
    (findUser accountId name missing >>= fun principal =>
      pure (userCheck action principal)).run.Obeys (entitlement userId)
        (fun _ after => Looked parse action request told after) told := by
  rw [Program.obeys_run_bind]
  refine obeys_findUser.mono fun outcome after learned => ?_
  have looked : Looked parse action request told after :=
    ⟨learned.2, fun isKey params parsed absent => absurd absent (named isKey params parsed)⟩
  cases outcome <;> exact looked

theorem obeys_requiredParam {params : AwsQueryParams} {name : Text}
    {rest : Text → ExceptT IamError IamProgram AuthorizationCheck}
    (later : ∀ value, (rest value).run.Obeys (entitlement userId)
      (fun _ after => Looked parse action request told after) told) :
    (liftExcept (requiredParam params name) >>= rest).run.Obeys (entitlement userId)
      (fun _ after => Looked parse action request told after) told :=
  Program.Obeys.liftExcept_bind (fun _ => .refl) fun value _ => later value

theorem obeys_resolveAuthorization :
    (resolveAuthorization parse action request).run.Obeys (entitlement userId)
      (fun _ after => Looked parse action request told after) told := by
  unfold resolveAuthorization
  refine Program.Obeys.liftExcept_bind (fun _ => .refl) fun params parsed => ?_
  have isParsed := mapError_eq_ok.mp parsed
  cases action with
  | createUser => exact obeys_requiredParam fun _ => .refl
  | getUser => exact obeys_findUser_userCheck fun impossible => by cases impossible
  | deleteUser =>
      exact obeys_requiredParam fun _ => obeys_findUser_userCheck fun impossible => by
        cases impossible
  | createAccessKey | listAccessKeys | listAttachedUserPolicies =>
      dsimp only
      rcases given : (params.get "UserName").filter fun name => trim name ≠ [] with none | name
      · dsimp only
        split_ifs <;> exact .refl
      · refine obeys_findUser_userCheck fun _ params' parsed' => ?_
        obtain rfl : params = params' := Except.ok.inj (isParsed.symm.trans parsed')
        intro absent
        rw [absent] at given
        cases given
  | putUserPolicy =>
      exact obeys_requiredParam fun _ => obeys_findUser_userCheck fun impossible => by
        cases impossible
  | getUserPolicy =>
      exact obeys_requiredParam fun _ => obeys_findUser_userCheck fun impossible => by
        cases impossible
  | attachUserPolicy =>
      exact obeys_requiredParam fun _ => obeys_findUser_userCheck fun impossible => by
        cases impossible
  | detachUserPolicy =>
      exact obeys_requiredParam fun _ => obeys_findUser_userCheck fun impossible => by
        cases impossible
  | createPolicy => exact obeys_requiredParam fun _ => .refl
  | getPolicy => exact obeys_requiredParam fun _ => .refl
  | getPolicyVersion => exact obeys_requiredParam fun _ => .refl
  | deletePolicy => exact obeys_requiredParam fun _ => .refl

end Resolve

/-! ### Actions -/

/-- An action obeys when its validation makes no calls and its handler obeys
from whatever is known once it is authorized. -/
theorem obeys_route {Request Response : Type} {parsePolicy : Text → Except Text Policy}
    {mode : AuthorizationMode} {action : TypedAwsAction iamStore IamError Request Response}
    {request : ResolvedRequest} (parse : FormParser) (which : IamAction)
    (resolves : ∀ payload,
      action.resolveAuthorization request payload = resolveAuthorization parse which request)
    (validates : ∀ payload before, (action.validate request payload).run.Obeys
      (entitlement userId) (fun _ after => after = before) before)
    (handles : ∀ payload after, action.parse request.request = .ok payload →
      Looked parse which request told after →
      (action.handle request payload).run.Obeys (entitlement userId) (fun _ _ => True) after)
    (known : told.caller = some request.authContext.principal) :
    (action.route (authorize parsePolicy mode) request).Obeys (entitlement userId)
      (fun _ _ => True) told := by
  unfold TypedAwsAction.route
  rw [Program.obeys_bind]
  have resolved : (action.adaptedResolveAuthorization request).run.Obeys (entitlement userId)
      (fun _ after => Looked parse which request told after) told := by
    refine Program.Obeys.liftExcept_bind (fun _ => .refl) fun payload _ => ?_
    rw [resolves]
    exact obeys_resolveAuthorization
  refine resolved.mono fun outcome after looked => ?_
  rcases outcome with failure | check
  · trivial
  show Program.Obeys _ (authorize parsePolicy mode request check >>= _) _ _
  have stillKnown : after.caller = some request.authContext.principal := by
    obtain ⟨target, rfl⟩ := looked.target
    exact known
  rw [Program.obeys_bind]
  refine (obeys_authorize stillKnown).mono fun decision last same => ?_
  subst same
  rcases decision with allow | deny
  · show Program.Obeys _ ((action.adaptedValidate request).run >>= _) _ _
    rw [Program.obeys_bind]
    have validated : (action.adaptedValidate request).run.Obeys (entitlement userId)
        (fun _ between => between = last) last := by
      refine Program.Obeys.liftExcept_bind (fun _ => rfl) fun payload _ => ?_
      exact validates payload last
    refine validated.mono fun outcome between same => ?_
    subst same
    rcases outcome with failure | ⟨⟩
    · trivial
    show Program.Obeys _ ((action.adaptedHandle request).run >>= _) _ _
    rw [Program.obeys_bind]
    have handled : (action.adaptedHandle request).run.Obeys (entitlement userId)
        (fun _ _ => True) between :=
      Program.Obeys.liftExcept_bind (fun _ => trivial) fun payload parsed =>
        handles payload between parsed looked
    refine handled.mono fun outcome _ _ => ?_
    cases outcome <;> trivial
  · trivial

/-- From the wire, a request obeys when it does once its caller is known. -/
theorem obeys_handleIamRequest {Request Response : Type} {library : AuthLibrary}
    {parsePolicy : Text → Except Text Policy} {mode : AuthorizationMode}
    {action : TypedAwsAction iamStore IamError Request Response} {requestId : Text}
    {request : IncomingRequest}
    (routes : ∀ resolved after, after.caller = some resolved.authContext.principal →
      after.target = some resolved.authContext.principal → after.created = told.created →
      (action.route (authorize parsePolicy mode) resolved).Obeys (entitlement userId)
        (fun _ _ => True) after) :
    (handleIamRequest library parsePolicy mode action requestId request).Obeys
      (entitlement userId) (fun _ _ => True) told := by
  unfold handleIamRequest
  rw [Program.obeys_bind]
  refine obeys_identifyCaller.mono fun outcome after learned => ?_
  rcases outcome with (failure | failure) | resolved
  · trivial
  · trivial
  · obtain ⟨caller, target, created⟩ := learned resolved rfl
    show Program.Obeys _ (action.route (authorize parsePolicy mode) resolved >>= _) _ _
    rw [Program.obeys_bind]
    exact (routes resolved after caller target created).mono fun _ _ _ => trivial

/-- A user that was looked up may be given something. -/
theorem obeys_findUser_bind {Response : Type} {accountId name missing : Text}
    {rest : Principal → ExceptT IamError IamProgram Response}
    (later : ∀ user after, after.target = some user →
      (rest user).run.Obeys (entitlement userId) (fun _ _ => True) after) :
    (findUser accountId name missing >>= rest).run.Obeys (entitlement userId)
      (fun _ _ => True) told := by
  rw [Program.obeys_run_bind]
  refine obeys_findUser.mono fun outcome after learned => ?_
  rcases outcome with failure | user
  · trivial
  · exact later user after (by rw [learned.1 user rfl])

end Obeys

/-! ### The requests on users and credentials -/

/-- What all requests have in common: third-party functions and the mode. -/
structure IamServer where
  library : AuthLibrary
  parse : FormParser
  parsePolicy : Text → Except Text Policy
  readJson : JsonReader
  mode : AuthorizationMode

/-- What a request does once its caller is known.  A request to another service
is only authorized here, for whatever that service wants checked. -/
inductive IamOperation where
  | createUser
  | deleteUser
  | createAccessKey
  | putUserPolicy
  | attachUserPolicy
  | elsewhere (check : ResolvedRequest → Option AuthorizationCheck)

structure IamRequest where
  requestId : Text
  request : IncomingRequest
  generated : Generated
  operation : IamOperation

namespace IamRequest

/-- A request to another service, up to the decision of the authorizer. -/
def elsewhere (server : IamServer) (check : ResolvedRequest → Option AuthorizationCheck)
    (requestId : Text) (request : IncomingRequest) : IamProgram Unit := do
  match ← identifyCaller server.library requestId request with
  | .error _ => return ()
  | .ok resolved =>
      match check resolved with
      | none => return ()
      | some check =>
          let _ ← authorize server.parsePolicy server.mode resolved check
          return ()

/-- A request to one action of this service, without its answer. -/
def serveAction {Request Response : Type} (server : IamServer)
    (action : TypedAwsAction iamStore IamError Request Response) (requestId : Text)
    (request : IncomingRequest) : IamProgram Unit := do
  let _ ← handleIamRequest server.library server.parsePolicy server.mode action requestId request
  return ()

/-- A request as a program over the store. -/
def program (server : IamServer) (request : IamRequest) : IamProgram Unit :=
  match request.operation with
  | .createUser => serveAction server (createUserAction server.parse request.generated)
      request.requestId request.request
  | .deleteUser => serveAction server (deleteUserAction server.parse)
      request.requestId request.request
  | .createAccessKey => serveAction server (createAccessKeyAction server.parse request.generated)
      request.requestId request.request
  | .putUserPolicy => serveAction server (putUserPolicyAction server.parse server.readJson)
      request.requestId request.request
  | .attachUserPolicy => serveAction server (attachUserPolicyAction server.parse)
      request.requestId request.request
  | .elsewhere check => elsewhere server check request.requestId request.request

section Obeys

variable {server : IamServer} {requestId userId : Text} {incoming : IncomingRequest}
  {generated : Generated} {told : Told}

theorem obeys_elsewhere {check : ResolvedRequest → Option AuthorizationCheck} :
    (elsewhere server check requestId incoming).Obeys (entitlement userId) (fun _ _ => True)
      told := by
  unfold elsewhere
  rw [Program.obeys_bind]
  refine obeys_identifyCaller.mono fun outcome after learned => ?_
  rcases outcome with failure | resolved
  · trivial
  obtain ⟨known, -, -⟩ := learned resolved rfl
  dsimp only
  rcases check resolved with none | wanted
  · trivial
  · show Program.Obeys _ (authorize server.parsePolicy server.mode resolved wanted >>= _) _ _
    rw [Program.obeys_bind]
    exact (obeys_authorize known).mono fun _ _ _ => trivial

theorem obeys_serveAction {Request Response : Type}
    {action : TypedAwsAction iamStore IamError Request Response}
    (routes : ∀ resolved after, after.caller = some resolved.authContext.principal →
      after.target = some resolved.authContext.principal → after.created = told.created →
      (action.route (authorize server.parsePolicy server.mode) resolved).Obeys
        (entitlement userId) (fun _ _ => True) after) :
    (serveAction server action requestId incoming).Obeys (entitlement userId) (fun _ _ => True)
      told := by
  unfold serveAction
  rw [Program.obeys_bind]
  exact (obeys_handleIamRequest routes).mono fun _ _ _ => trivial

theorem obeys_createUser :
    (serveAction server (createUserAction server.parse generated) requestId incoming).Obeys
      (entitlement generated.userId) (fun _ _ => True) Told.nothing := by
  refine obeys_serveAction fun resolved after known _ created => ?_
  refine obeys_route server.parse .createUser (fun _ => rfl) (fun payload before => ?_) ?_ known
  · refine Program.Obeys.liftExcept_bind (fun _ => rfl) fun _ _ => ?_
    refine Program.Obeys.liftExcept_bind (fun _ => rfl) fun _ _ => ?_
    split_ifs <;> rfl
  · intro payload last _ looked
    obtain ⟨target, rfl⟩ := looked.target
    exact Program.Obeys.orFail_bind ⟨⟨rfl, created⟩,
      fun _ => ⟨fun _ _ => trivial, fun _ _ => trivial⟩⟩

theorem obeys_deleteUser :
    (serveAction server (deleteUserAction server.parse) requestId incoming).Obeys
      (entitlement userId) (fun _ _ => True) Told.nothing := by
  refine obeys_serveAction fun resolved after known _ _ => ?_
  refine obeys_route server.parse .deleteUser (fun _ => rfl) (fun payload before => ?_) ?_ known
  · exact Program.obeys_run_liftExcept.mpr rfl
  · intro payload last _ _
    exact Program.Obeys.orFail_bind ⟨trivial,
      fun _ => ⟨fun _ _ => trivial, fun _ _ => trivial⟩⟩

/-- Without a user name in the payload there is none among the parameters. -/
theorem userName_eq_none {parse : FormParser} {payload : CreateAccessKeyRequest}
    (parsed : (createAccessKeyAction parse generated).parse incoming = .ok payload)
    (unnamed : payload.userName = none) :
    ∃ params, parseAwsQueryParams parse incoming = .ok params ∧ params.get "UserName" = none := by
  obtain ⟨params, isParsed, decoded⟩ := bind_eq_ok.mp (mapError_eq_ok.mp parsed)
  obtain ⟨-, -, built⟩ := bind_eq_ok.mp (mapError_eq_ok.mp decoded)
  refine ⟨params, isParsed, ?_⟩
  cases built
  exact unnamed

theorem obeys_createAccessKey :
    (serveAction server (createAccessKeyAction server.parse generated) requestId incoming).Obeys
      (entitlement userId) (fun _ _ => True) Told.nothing := by
  refine obeys_serveAction fun resolved after known target _ => ?_
  refine obeys_route server.parse .createAccessKey (fun _ => rfl) (fun payload before => ?_) ?_
    known
  · dsimp only [createAccessKeyAction]
    cases payload.userName with
    | none => rfl
    | some userName => exact Program.obeys_run_liftExcept.mpr rfl
  · intro payload last parsed looked
    have gives : ∀ user between, between.target = some user →
        ((iamCall (.insertSecretKey generated.accessKeyId generated.secretAccessKey
          user.id)).orFail IamError.ofStoreError >>= fun created =>
            pure (IamAccessKeyXml.mk user.name created.keyId created.secretKey created.createdAt,
              resolved.requestId)).run.Obeys (entitlement userId) (fun _ _ => True) between := by
      intro user between subject
      exact Program.Obeys.orFail_bind ⟨⟨user, subject, rfl⟩,
        fun _ => ⟨fun _ _ => trivial, fun _ _ => trivial⟩⟩
    show Program.Obeys _ (ExceptT.run (requestedOrSigningUser resolved payload.userName >>= _)) _ _
    unfold requestedOrSigningUser
    rcases named : payload.userName with none | name
    · -- the key is for the caller, whom nothing else has replaced as the target
      obtain ⟨params, isParsed, absent⟩ := userName_eq_none parsed named
      obtain rfl := looked.unnamed rfl params isParsed absent
      show Program.Obeys _ (ExceptT.run ((if _ then _ else _) >>= _)) _ _
      split_ifs
      · exact gives _ _ target
      · trivial
    · show Program.Obeys _ (ExceptT.run ((if _ then _ else _) >>= _)) _ _
      split_ifs
      · trivial
      · exact obeys_findUser_bind gives

theorem obeys_putUserPolicy :
    (serveAction server (putUserPolicyAction server.parse server.readJson) requestId
      incoming).Obeys (entitlement userId) (fun _ _ => True) Told.nothing := by
  refine obeys_serveAction fun resolved after known _ _ => ?_
  refine obeys_route server.parse .putUserPolicy (fun _ => rfl) (fun payload before => ?_) ?_ known
  · refine Program.Obeys.liftExcept_bind (fun _ => rfl) fun _ _ => ?_
    refine Program.Obeys.liftExcept_bind (fun _ => rfl) fun _ _ => ?_
    exact Program.obeys_run_liftExcept.mpr rfl
  · intro payload last _ _
    refine obeys_findUser_bind fun user between subject => ?_
    exact Program.Obeys.orFail_bind ⟨⟨user, subject, rfl⟩,
      fun _ => ⟨fun _ _ => trivial, fun _ _ => trivial⟩⟩

theorem obeys_attachUserPolicy :
    (serveAction server (attachUserPolicyAction server.parse) requestId incoming).Obeys
      (entitlement userId) (fun _ _ => True) Told.nothing := by
  refine obeys_serveAction fun resolved after known _ _ => ?_
  refine obeys_route server.parse .attachUserPolicy (fun _ => rfl) (fun payload before => ?_) ?_
    known
  · refine Program.Obeys.liftExcept_bind (fun _ => rfl) fun _ _ => ?_
    refine Program.Obeys.liftExcept_bind (fun _ => rfl) fun _ _ => ?_
    rfl
  · intro payload last _ _
    refine obeys_findUser_bind fun user between subject => ?_
    refine Program.Obeys.liftExcept_bind (fun _ => trivial) fun arn _ => ?_
    show Program.Obeys _ (ExceptT.run (if _ then _ else _)) _ _
    split_ifs
    · trivial
    show Program.Obeys _ (ExceptT.run (findManagedPolicy arn payload.policyArn >>= _)) _ _
    rw [Program.obeys_run_bind]
    refine Program.Obeys.orFail_bind ⟨trivial, fun answer => ⟨fun _ _ => trivial, ?_⟩⟩
    intro found answered
    subst answered
    rcases found with none | policy
    · trivial
    · exact Program.Obeys.orFail_bind ⟨⟨user, subject, rfl⟩,
        fun _ => ⟨fun _ _ => trivial, fun _ _ => trivial⟩⟩

/-- **Every request makes only calls it is entitled to.** -/
theorem obeys (request : IamRequest) :
    (request.program server).Obeys (entitlement request.generated.userId) (fun _ _ => True)
      Told.nothing := by
  unfold program
  cases request.operation with
  | createUser => exact obeys_createUser
  | deleteUser => exact obeys_deleteUser
  | createAccessKey => exact obeys_createAccessKey
  | putUserPolicy => exact obeys_putUserPolicy
  | attachUserPolicy => exact obeys_attachUserPolicy
  | elsewhere check => exact obeys_elsewhere

end Obeys

end IamRequest

end Hiraeth
