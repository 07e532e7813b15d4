import Hiraeth.Core.Policy
import Hiraeth.Http.IncomingRequest
import Hiraeth.Lib.Calls
import Hiraeth.Lib.Discipline
import Hiraeth.Lib.Finished
import Hiraeth.Lib.Separated
import Hiraeth.Store.Iam

/-!
# Requests, actions and how they are routed

A request whose caller is known is handled in four steps: the action says what
is to be authorized, the authorizer decides, the action validates its payload
and handles it.  Each step decodes the payload for itself.

## Main definitions

* `ResolvedRequest`, `ServiceResponse` — a request together with its caller, and
  an answer
* `AwsQueryParams` — the parameters of an AWS query request, and their decoding
  into declared fields
* `TypedAwsAction`, `TypedAwsAction.route` — an action, and the four steps

## Main results

* `TypedAwsAction.route_answered` — a request is answered exactly when all four
  steps let it pass
* `TypedAwsAction.allCalls_route_of_accepts` — a handler runs only on a payload that
  was accepted
-/

namespace Hiraeth

open Interaction

/-- The caller of a request. -/
structure AuthContext where
  accessKey : Text
  principal : Principal
  deriving DecidableEq

/-- A request whose caller is known. -/
structure ResolvedRequest where
  requestId : Text
  request : IncomingRequest
  service : Text
  region : Text
  authContext : AuthContext
  date : Time

/-- The account of the caller. -/
abbrev ResolvedRequest.accountId (request : ResolvedRequest) : Text :=
  request.authContext.principal.accountId

/-- What a service answers, before it is sent. -/
structure ServiceResponse where
  statusCode : ℕ
  headers : List (Text × Text)
  body : Bytes
  deriving DecidableEq

/-! ### AWS query requests -/

/-- `AwsQueryParseError`. -/
structure AwsQueryParseError where
  message : Text
  deriving DecidableEq

/-- `is_form_urlencoded_content_type`. -/
def isFormUrlencodedContentType (contentType : Text) : Bool :=
  toAsciiLowercase (trim (contentType.takeWhile (· != ';'))) =
    ("application/x-www-form-urlencoded" : Text)

/-- `encoded_aws_query_request`: the query string and the body, joined by `&`. -/
def encodedAwsQueryRequest (request : IncomingRequest) : Except AwsQueryParseError Bytes :=
  let encoded := Text.utf8 (request.query.getD [])
  if request.body = [] then .ok encoded
  else
    let contentType := (request.headers "content-type").getD []
    if contentType ≠ [] ∧ !isFormUrlencodedContentType contentType then
      .error ⟨("Invalid AWS query request: " : Text) ++ "unsupported content-type '".toList ++
        contentType ++ "'".toList⟩
    else if encoded = [] then .ok request.body
    else .ok (encoded ++ Text.utf8 "&" ++ request.body)

/-- What `form_urlencoded::parse` makes of a byte string: names and values in
the order in which they stand. -/
abbrev FormParser := Bytes → List (Text × Text)

/-- `form_urlencoded::parse` on ASCII input in which nothing is escaped. -/
def plainForm : FormParser := fun bytes =>
  (((bytes.map ByteText.charOfByte).splitOn '&').filter (· ≠ [])).map fun pair =>
    (Separated.splitFirst '=' pair).getD (pair, [])

/-- The parameters of a request, in the order in which they were sent. -/
structure AwsQueryParams where
  values : List (Text × Text)

/-- `AwsQueryParams::get`: the first value of that name. -/
def AwsQueryParams.get (params : AwsQueryParams) (key : Text) : Option Text :=
  params.values.lookup key

/-- `parse_aws_query_params`. -/
def parseAwsQueryParams (parse : FormParser) (request : IncomingRequest) :
    Except AwsQueryParseError AwsQueryParams := do
  let encoded ← encodedAwsQueryRequest request
  return ⟨parse encoded⟩

/-- A declared field that occurs twice is an error, found at its second
occurrence. -/
def rejectDuplicates (declared : List Text) : List Text → List (Text × Text) → Except Text Unit
  | _, [] => .ok ()
  | seen, (name, _) :: rest =>
      if name ∈ declared then
        if name ∈ seen then .error (("duplicate field `" : Text) ++ name ++ "`".toList)
        else rejectDuplicates declared (name :: seen) rest
      else rejectDuplicates declared seen rest

/-- A field that has no default. -/
def AwsQueryParams.required (params : AwsQueryParams) (name : Text) : Except Text Text :=
  match params.get name with
  | some value => .ok value
  | none => .error (("missing field `" : Text) ++ name ++ "`".toList)

theorem AwsQueryParams.required_eq_ok {params : AwsQueryParams} {name value : Text} :
    params.required name = .ok value ↔ params.get name = some value := by
  unfold AwsQueryParams.required
  cases params.get name with
  | none => exact ⟨nofun, nofun⟩
  | some given =>
      constructor
      · intro same
        exact congrArg some (Except.ok.inj same)
      · intro same
        exact congrArg Except.ok (Option.some.inj same)

/-- `AwsQueryParams::deserialize` into a record with the declared fields. -/
def AwsQueryParams.deserialize {Request : Type} (params : AwsQueryParams) (declared : List Text)
    (build : AwsQueryParams → Except Text Request) : Except AwsQueryParseError Request :=
  (rejectDuplicates declared [] params.values >>= fun _ => build params).mapError fun error =>
    ⟨("Invalid AWS query request: " : Text) ++ error⟩

/-- `parse_aws_query_request`. -/
def parseAwsQueryRequest {Request : Type} (parse : FormParser) (declared : List Text)
    (build : AwsQueryParams → Except Text Request) (request : IncomingRequest) :
    Except AwsQueryParseError Request := do
  let params ← parseAwsQueryParams parse request
  params.deserialize declared build

/-! ### Actions -/

/-- What the authorizer decides. -/
inductive AuthorizationResult where
  | allow
  | deny
  deriving DecidableEq

/-- An action of a service over a store.  `parse` decodes the payload and words
its failures. -/
structure TypedAwsAction (I : Interface) (Error Request Response : Type) where
  name : Text
  parse : IncomingRequest → Except Error Request
  validate : ResolvedRequest → Request → ExceptT Error (Program I) Unit
  handle : ResolvedRequest → Request → ExceptT Error (Program I) Response
  resolveAuthorization :
    ResolvedRequest → Request → ExceptT Error (Program I) AuthorizationCheck

/-- A registered action, whatever its payload. -/
structure AwsAction (I : Interface) (Error : Type) where
  {Request : Type}
  {Response : Type}
  typed : TypedAwsAction I Error Request Response

/-- `AwsActionRegistry`. -/
abbrev AwsActionRegistry (I : Interface) (Error : Type) := List (AwsAction I Error)

/-- `AwsActionRegistry::get`: the first action of that name. -/
def AwsActionRegistry.get {I : Interface} {Error : Type} (registry : AwsActionRegistry I Error)
    (name : Text) : Option (AwsAction I Error) :=
  registry.find? fun action => action.typed.name = name

/-- How a routed request ends. -/
inductive Routed (Error Response : Type) where
  | answered (response : Response)
  | failed (error : Error)
  | unauthorized
  deriving DecidableEq

namespace TypedAwsAction

variable {I : Interface} {Error Request Response : Type}
  (action : TypedAwsAction I Error Request Response)

/-- `TypedAwsActionAdapter::resolve_authorization`. -/
def adaptedResolveAuthorization (request : ResolvedRequest) :
    ExceptT Error (Program I) AuthorizationCheck := do
  let payload ← liftExcept (action.parse request.request)
  action.resolveAuthorization request payload

/-- `TypedAwsActionAdapter::validate`. -/
def adaptedValidate (request : ResolvedRequest) : ExceptT Error (Program I) Unit := do
  let payload ← liftExcept (action.parse request.request)
  action.validate request payload

/-- `TypedAwsActionAdapter::handle`. -/
def adaptedHandle (request : ResolvedRequest) : ExceptT Error (Program I) Response := do
  let payload ← liftExcept (action.parse request.request)
  action.handle request payload

/-- `ServiceRouter::route_traced`, from the point where the action is known. -/
def route (authorize : ResolvedRequest → AuthorizationCheck → Program I AuthorizationResult)
    (request : ResolvedRequest) : Program I (Routed Error Response) := do
  match ← (action.adaptedResolveAuthorization request).run with
  | .error error => return .failed error
  | .ok check =>
      match ← authorize request check with
      | .deny => return .unauthorized
      | .allow =>
          match ← (action.adaptedValidate request).run with
          | .error error => return .failed error
          | .ok () =>
              match ← (action.adaptedHandle request).run with
              | .error error => return .failed error
              | .ok response => return .answered response

/-- **Only a request that passes all four steps is answered.**  The steps run
one after the other, each from the store the previous one left. -/
theorem route_answered {S : Type} {serve : Serve I S}
    {authorize : ResolvedRequest → AuthorizationCheck → Program I AuthorizationResult}
    {request : ResolvedRequest} {state final : S} {response : Response} :
    (action.route authorize request).run serve state = (.answered response, final) ↔
      ∃ check resolved decided validated,
        Program.Succeeds serve (action.adaptedResolveAuthorization request) state check resolved ∧
        (authorize request check).run serve resolved = (.allow, decided) ∧
        Program.Succeeds serve (action.adaptedValidate request) decided () validated ∧
        Program.Succeeds serve (action.adaptedHandle request) validated response final := by
  unfold route Program.Succeeds
  rw [Program.run_bind]
  rcases (action.adaptedResolveAuthorization request).run.run serve state with ⟨outcome, resolved⟩
  rcases outcome with error | check
  · simp
  rw [Program.run_bind]
  rcases authorization : (authorize request check).run serve resolved with ⟨decision, decided⟩
  rcases decision with allow | deny
  · rw [Program.run_bind]
    rcases validation : (action.adaptedValidate request).run.run serve decided with
      ⟨outcome, validated⟩
    rcases outcome with error | ⟨⟩
    · simp [authorization, validation]
    · rw [Program.run_bind]
      rcases handling : (action.adaptedHandle request).run.run serve validated with ⟨outcome, last⟩
      rcases outcome with error | answer <;> simp [authorization, validation, handling]
  · simp [authorization]

/-- What holds of the calls of each step holds of the calls of a routed request. -/
theorem allCalls_route {property : I.Call → Prop}
    {authorize : ResolvedRequest → AuthorizationCheck → Program I AuthorizationResult}
    {request : ResolvedRequest}
    (resolves : Program.OnlyCalls property (action.adaptedResolveAuthorization request))
    (authorizes : ∀ check, (authorize request check).AllCalls property)
    (validates : Program.OnlyCalls property (action.adaptedValidate request))
    (handles : Program.OnlyCalls property (action.adaptedHandle request)) :
    (action.route authorize request).AllCalls property := by
  refine Program.AllCalls.bind resolves fun outcome => ?_
  rcases outcome with error | check
  · exact trivial
  refine Program.AllCalls.bind (authorizes check) fun decision => ?_
  rcases decision with allow | deny
  · refine Program.AllCalls.bind validates fun outcome => ?_
    rcases outcome with error | ⟨⟩
    · exact trivial
    refine Program.AllCalls.bind handles fun outcome => ?_
    cases outcome <;> exact trivial
  · exact trivial

/-- What is called when a request is handled is called for its payload. -/
theorem events_adaptedHandle {S : Type} {action : TypedAwsAction I Error Request Response}
    {serve : Serve I S} {request : ResolvedRequest} {payload : Request}
    (parsed : action.parse request.request = .ok payload) {state : S} :
    (action.adaptedHandle request).run.events serve state =
      (action.handle request payload).run.events serve state := by
  unfold adaptedHandle
  rw [parsed, Program.liftExcept_ok_bind]

/-- The validation of a payload can succeed. -/
def Accepts (request : ResolvedRequest) (payload : Request) : Prop :=
  action.parse request.request = .ok payload ∧
    ∃ events, Program.Completes (action.validate request payload) events ()

/-- **A handler runs only on a payload that was accepted.** -/
theorem allCalls_route_of_accepts {property : I.Call → Prop}
    {authorize : ResolvedRequest → AuthorizationCheck → Program I AuthorizationResult}
    {request : ResolvedRequest}
    (resolves : Program.OnlyCalls property (action.adaptedResolveAuthorization request))
    (authorizes : ∀ check, (authorize request check).AllCalls property)
    (validates : Program.OnlyCalls property (action.adaptedValidate request))
    (handles : ∀ payload, action.Accepts request payload →
      Program.OnlyCalls property (action.handle request payload)) :
    (action.route authorize request).AllCalls property := by
  refine Program.AllCalls.bind resolves fun outcome => ?_
  rcases outcome with error | check
  · exact trivial
  refine Program.AllCalls.bind (authorizes check) fun decision => ?_
  rcases decision with allow | deny
  · refine Program.AllCalls.bind_of_finishes validates fun outcome events validated => ?_
    rcases outcome with error | ⟨⟩
    · exact trivial
    have handled : Program.OnlyCalls property (action.adaptedHandle request) := by
      refine Program.onlyCalls_liftExcept_bind fun payload parsed => handles payload ⟨parsed, ?_⟩
      have completes : Program.Completes (action.adaptedValidate request) events () := validated
      unfold adaptedValidate at completes
      rw [parsed, Program.liftExcept_ok_bind] at completes
      exact ⟨events, completes⟩
    refine Program.AllCalls.bind handled fun outcome => ?_
    cases outcome <;> exact trivial
  · exact trivial

/-- **A routed request obeys** when its first steps make calls that are always permitted,
and its handler obeys whatever is known by then. -/
theorem obeys_route {K : Type} {discipline : Discipline I K} {property : I.Call → Prop}
    {authorize : ResolvedRequest → AuthorizationCheck → Program I AuthorizationResult}
    {request : ResolvedRequest}
    (permitted : ∀ known call, property call → discipline.permits known call)
    (resolves : Program.OnlyCalls property (action.adaptedResolveAuthorization request))
    (authorizes : ∀ check, (authorize request check).AllCalls property)
    (validates : Program.OnlyCalls property (action.adaptedValidate request))
    (handles : ∀ known, (action.adaptedHandle request).run.Obeys discipline
      (fun _ _ => True) known) (known : K) :
    (action.route authorize request).Obeys discipline (fun _ _ => True) known := by
  refine Program.obeys_bind.mpr ((Program.AllCalls.obeys resolves permitted known).mono
    fun outcome resolved _ => ?_)
  rcases outcome with error | check
  · exact trivial
  refine Program.obeys_bind.mpr ((Program.AllCalls.obeys (authorizes check) permitted resolved).mono
    fun decision decided _ => ?_)
  rcases decision with allow | deny
  · refine Program.obeys_bind.mpr ((Program.AllCalls.obeys validates permitted decided).mono
      fun outcome validated _ => ?_)
    rcases outcome with error | ⟨⟩
    · exact trivial
    refine Program.obeys_bind.mpr ((handles validated).mono fun outcome _ _ => ?_)
    cases outcome <;> exact trivial
  · exact trivial

end TypedAwsAction

end Hiraeth
