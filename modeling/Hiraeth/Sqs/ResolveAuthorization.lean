import Hiraeth.Core.PolicyDocument
import Hiraeth.Sqs.Util

/-!
# What an SQS request is authorized for

Most actions are about the queue that the payload names by its URL.  The payload
is read once more for this, as an untyped value.  A queue that is looked up by its
name and a listing are treated apart.

## Main definitions

* `SqsAction` — the registered actions
* `GetQueueUrlRequest` — the payload that names a queue by its name
* `getRelevantQueueForAction` — the queue that an action is about
* `Sqs.resolveAuthorization` — the check that an action asks for
-/

namespace Hiraeth

open Interaction

/-! ### The actions -/

/-- The registered actions. -/
inductive SqsAction where
  | changeMessageVisibility
  | changeMessageVisibilityBatch
  | createQueue
  | deleteMessage
  | deleteMessageBatch
  | deleteQueue
  | getQueueAttributes
  | getQueueUrl
  | listQueueTags
  | listQueues
  | purgeQueue
  | receiveMessage
  | sendMessage
  | sendMessageBatch
  | setQueueAttributes
  | tagQueue
  | untagQueue
  deriving DecidableEq

/-- The name under which an action is registered. -/
def SqsAction.name : SqsAction → Text
  | changeMessageVisibility => "ChangeMessageVisibility"
  | changeMessageVisibilityBatch => "ChangeMessageVisibilityBatch"
  | createQueue => "CreateQueue"
  | deleteMessage => "DeleteMessage"
  | deleteMessageBatch => "DeleteMessageBatch"
  | deleteQueue => "DeleteQueue"
  | getQueueAttributes => "GetQueueAttributes"
  | getQueueUrl => "GetQueueUrl"
  | listQueueTags => "ListQueueTags"
  | listQueues => "ListQueues"
  | purgeQueue => "PurgeQueue"
  | receiveMessage => "ReceiveMessage"
  | sendMessage => "SendMessage"
  | sendMessageBatch => "SendMessageBatch"
  | setQueueAttributes => "SetQueueAttributes"
  | tagQueue => "TagQueue"
  | untagQueue => "UntagQueue"

/-- The action as policies name it.  A batch needs the permission of its single
form. -/
def SqsAction.authorizationAction : SqsAction → Text
  | changeMessageVisibilityBatch => ("sqs:" : Text) ++ changeMessageVisibility.name
  | deleteMessageBatch => ("sqs:" : Text) ++ deleteMessage.name
  | sendMessageBatch => ("sqs:" : Text) ++ sendMessage.name
  | action => ("sqs:" : Text) ++ action.name

/-! ### Payloads -/

/-- `SqsActionDefaults::parse_error`, for payloads that are read as JSON. -/
def parseSqsPayload {Request : Type} (library : SqsLibrary) (decode : Json → Except Text Request)
    (request : IncomingRequest) : Except SqsError Request :=
  (parseJsonBody library.json decode request.body).mapError .badRequest

theorem parseSqsPayload_eq_ok {Request : Type} {library : SqsLibrary}
    {decode : Json → Except Text Request} {request : IncomingRequest} {payload : Request} :
    parseSqsPayload library decode request = .ok payload ↔
      ∃ json, library.json.read request.body = .ok json ∧ decode json = .ok payload := by
  rw [parseSqsPayload, mapError_eq_ok, parseJsonBody_eq_ok]

structure GetQueueUrlRequest where
  queueName : Text
  queueOwnerAwsAccountId : Option Text
  deriving DecidableEq

/-- `GetQueueUrlRequest::deserialize`. -/
def decodeGetQueueUrlRequest (json : Json) : Except Text GetQueueUrlRequest := do
  let fields ← json.readFields "GetQueueUrlRequest"
    [⟨"QueueName", false⟩, ⟨"QueueOwnerAwsAccountId", false⟩]
  let queueName ← fields.required "QueueName" Json.asText
  let queueOwnerAwsAccountId ← fields.optional "QueueOwnerAwsAccountId" Json.asText
  return ⟨queueName, queueOwnerAwsAccountId⟩

/-! ### The queue -/

/-- `get_queue_url_from_request`. -/
def getQueueUrlFromRequest (library : SqsLibrary) (request : ResolvedRequest) :
    Except SqsError Text := do
  let payload ← (library.json.read request.request.body).mapError fun error =>
    SqsError.badRequest (("Invalid JSON body: " : Text) ++ error)
  match (payload.get "QueueUrl").bind Json.asStr with
  | some queueUrl => return queueUrl
  | none => throw (.badRequest "Missing QueueUrl in request body")

/-- The URL that is read: the last member of that name, which must be a string. -/
theorem getQueueUrlFromRequest_iff {library : SqsLibrary} {request : ResolvedRequest}
    {queueUrl : Text} :
    getQueueUrlFromRequest library request = .ok queueUrl ↔
      ∃ json, library.json.read request.request.body = .ok json ∧
        json.get "QueueUrl" = some (.string queueUrl) := by
  simp only [getQueueUrlFromRequest, bind_eq_ok, mapError_eq_ok]
  refine exists_congr fun json => and_congr_right fun _ => ?_
  rw [← Json.bind_asStr_eq_some]
  cases (json.get "QueueUrl").bind Json.asStr with
  | none => simp
  | some found => exact ⟨fun same => congrArg some (Except.ok.inj same),
      fun same => congrArg Except.ok (Option.some.inj same)⟩

/-- `get_queue_from_request`. -/
def getQueueFromRequest (library : SqsLibrary) (request : ResolvedRequest) :
    ExceptT SqsError SqsProgram SqsQueue := do
  let queueUrl ← liftExcept (getQueueUrlFromRequest library request)
  loadQueueFromUrl library request queueUrl

/-- `get_relevant_queue_for_action`. -/
def getRelevantQueueForAction (library : SqsLibrary) (action : SqsAction)
    (request : ResolvedRequest) : ExceptT SqsError SqsProgram (Option SqsQueue) := do
  match action with
  | .listQueues => return none
  | .createQueue => return none
  | .getQueueUrl =>
      let requestBody ← liftExcept
        (parseSqsPayload library decodeGetQueueUrlRequest request.request)
      let accountId := requestBody.queueOwnerAwsAccountId.getD
        request.authContext.principal.accountId
      (sqsCall (.getQueue requestBody.queueName request.region accountId)).orFail
        SqsError.internal
  | _ =>
      let queue ← getQueueFromRequest library request
      return some queue

/-- The policy of a queue as authorization reads it.  One that does not parse
counts as the empty policy. -/
def queuePolicy (library : SqsLibrary) (queue : SqsQueue) : Policy :=
  match parsePolicyText library.json queue.policy with
  | .ok policy => policy
  | .error _ => Policy.default

/-- `resolve_authorization`. -/
def Sqs.resolveAuthorization (library : SqsLibrary) (action : SqsAction)
    (request : ResolvedRequest) : ExceptT SqsError SqsProgram AuthorizationCheck := do
  let relevantQueue ← getRelevantQueueForAction library action request
  return {
    action := action.authorizationAction
    resource := (relevantQueue.map getQueueArn).getD
      (("arn:aws:sqs:" : Text) ++ request.region ++
        ':' :: request.authContext.principal.accountId ++ ":*".toList)
    resourcePolicy := relevantQueue.map (queuePolicy library) }

end Hiraeth
