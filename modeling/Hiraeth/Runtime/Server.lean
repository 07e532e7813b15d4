import Hiraeth.Iam.Service
import Hiraeth.Runtime.QueryServices
import Hiraeth.Sqs.Service
import Hiraeth.Store.SqliteIam
import Hiraeth.Store.SnsCalls
import Hiraeth.Store.SqliteSqs

/-!
# The server

A request is authenticated, its caller is identified, and the router hands it to the service
that its credentials were made for.  The stores of the services lie side by side, and the
authorizer reads that of IAM whatever the service is.

## Main definitions

* `sqsService` — the service that is spoken to with a target header
* `AwsService.refine` — a service on the stores of the server
* `routeTraced` — the router
* `resolveAndRoute` — from the wire to the answer
-/

namespace Hiraeth

open Interaction Program

/-! ### Queues -/

/-- The operations that `target_to_operation_name` knows. -/
def sqsOperationNames : List Text :=
  ["CreateQueue", "DeleteQueue", "GetQueueAttributes", "GetQueueUrl", "ListQueueTags",
    "ListQueues", "PurgeQueue", "ReceiveMessage", "SendMessage", "SendMessageBatch",
    "SetQueueAttributes", "TagQueue", "UntagQueue", "ChangeMessageVisibility",
    "ChangeMessageVisibilityBatch", "DeleteMessage", "DeleteMessageBatch"]

/-- `target_to_operation_name`. -/
def targetToOperationName (target : Text) : Except SqsError Text :=
  match stripPrefix "AmazonSQS." target with
  | none => .error (.unsupportedOperation target)
  | some action =>
      if sqsOperationNames.contains action then .ok action
      else .error (.unsupportedOperation target)

/-- `get_action_name_for_request`. -/
def sqsActionName (request : IncomingRequest) : Except SqsError Text :=
  match request.headers "x-amz-target" with
  | some value => targetToOperationName value
  | none => .error (.badRequest "Missing x-amz-target header")

/-- `SqsService`. -/
def sqsService (library : SqsLibrary) (generated : SqsGenerated) :
    AwsService sqsStore SqsError where
  actionName := sqsActionName
  unsupported := .unsupportedOperation
  actions := sqsRegistry library generated

/-! ### The stores of the server -/

/-- The store of identities, beside those of notifications and queues. -/
abbrev serverStore : Interface :=
  iamStore.sum snsServiceStore

/-- A call on the store of identities. -/
def onIam (request : IamCall) : Program serverStore request.Answer :=
  @perform serverStore (.inl request)

/-- A call on the stores of notifications and queues. -/
def onSnsService (request : snsServiceStore.Call) :
    Program serverStore (snsServiceStore.Answer request) :=
  @perform serverStore (.inr request)

/-- A call on the store of queues. -/
def onQueues (request : SqsCall) : Program serverStore request.Answer :=
  @perform serverStore (.inr (.inr request))

/-- What the stores of the server do. -/
def serveServer : Serve serverStore (IamDatabase × SnsDatabase × SqsDatabase) :=
  Serve.sum IamDatabase.serve (Serve.sum SqliteSns.serve SqsDatabase.serve)

/-- A service over another interface, every call replaced by its implementation. -/
def AwsService.refine {I J : Interface} {Error : Type} (service : AwsService I Error)
    (implementation : ∀ request : I.Call, Program J (I.Answer request)) : AwsService J Error where
  actionName := service.actionName
  unsupported := service.unsupported
  actions := service.actions.map (·.refine implementation)

/-! ### The router -/

/-- How a request ends. -/
inductive ServerOutcome where
  | notAuthenticated (error : AuthError)
  | notResolved (error : ResolveIdentityError)
  | noServiceFound
  | iam (outcome : Routed IamError ServiceResponse)
  | sqs (outcome : Routed SqsError ServiceResponse)
  | sns (outcome : Routed SnsError ServiceResponse)
  | sts (outcome : Routed StsError ServiceResponse)

/-- A service, the name that it handles requests for, and how its answers are written and
reported. -/
structure RegisteredService where
  {Error : Type}
  name : Text
  service : AwsService serverStore Error
  render : AwsService.Renderer serverStore Error
  report : Routed Error ServiceResponse → ServerOutcome

/-- The libraries of the server, how its services write their answers, and its mode. -/
structure ServerLibrary where
  auth : AuthLibrary
  readJson : JsonReader
  parsePolicy : Text → Except Text Policy
  sns : SnsLibrary
  mode : AuthorizationMode
  renderIam : AwsService.Renderer serverStore IamError
  renderSqs : AwsService.Renderer serverStore SqsError
  renderSns : AwsService.Renderer serverStore SnsError
  renderSts : AwsService.Renderer serverStore StsError

/-- What the server draws for a request. -/
structure ServerGenerated where
  requestId : Text
  iam : Generated
  sqs : SqsGenerated
  sns : SnsGenerated

/-- The services of `App::new`, in the order in which they are registered. -/
def registeredServices (library : ServerLibrary) (generated : ServerGenerated) :
    List RegisteredService :=
  [ { name := "iam"
      service := (iamService library.sns.form library.readJson generated.iam).refine onIam
      render := library.renderIam
      report := .iam },
    { name := "sqs"
      service := (sqsService library.sns.sqs generated.sqs).refine onQueues
      render := library.renderSqs
      report := .sqs },
    { name := "sns"
      service := (snsService library.sns library.mode generated.sns).refine onSnsService
      render := library.renderSns
      report := .sns },
    { name := "sts"
      service := (stsService library.sns.form).refine onIam
      render := library.renderSts
      report := .sts } ]

/-- The authorizer of the router. -/
def authorizeOnServer (library : ServerLibrary) (request : ResolvedRequest)
    (check : AuthorizationCheck) : Program serverStore AuthorizationResult :=
  (authorize library.parsePolicy library.mode request check).refine onIam

/-- `ServiceRouter::route_traced`: the first service that can handle the request. -/
def routeTraced (library : ServerLibrary) (generated : ServerGenerated)
    (request : ResolvedRequest) : Program serverStore ServerOutcome :=
  match (registeredServices library generated).find? fun registered =>
    registered.name = request.service with
  | none => return .noServiceFound
  | some registered => registered.report <$>
      registered.service.route registered.render (authorizeOnServer library) request

/-- `resolve_and_route`. -/
def resolveAndRoute (library : ServerLibrary) (generated : ServerGenerated)
    (request : IncomingRequest) : Program serverStore ServerOutcome := do
  match ← (identifyCaller library.auth generated.requestId request).refine onIam with
  | .error (.inl error) => return .notAuthenticated error
  | .error (.inr error) => return .notResolved error
  | .ok resolved => routeTraced library generated resolved

end Hiraeth
