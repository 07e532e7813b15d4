import Hiraeth.Iam.Authorize
import Hiraeth.Lib.Refine
import Hiraeth.Sns.SubscriptionActions
import Hiraeth.Sqs.Operations

/-!
# Publishing

A published message is delivered to the subscriptions of its topic, one after the other.
A delivery that fails is reported in the log, and the others go on.

## Main definitions

* `snsServiceStore` — the two stores behind the service
* `deliverToSqs` — the delivery to one queue
* `publishAction` — the action
* `snsAction` — the registered actions
-/

namespace Hiraeth

open Interaction Program

/-- The stores behind the service: its own, and that of SQS. -/
abbrev snsServiceStore : Interface :=
  snsStore.sum sqsStore

/-- A failing program on the store of the service itself. -/
def onSns {ε α : Type} (program : ExceptT ε SnsProgram α) :
    ExceptT ε (Program snsServiceStore) α :=
  ExceptT.mk (@Program.left snsStore sqsStore _ program.run)

/-- A failing program on the SQS store. -/
def onSqs {ε α : Type} (program : ExceptT ε SqsProgram α) :
    ExceptT ε (Program snsServiceStore) α :=
  ExceptT.mk (@Program.right snsStore sqsStore _ program.run)

structure PublishRequest where
  topicArn : Text
  message : Text
  subject : Option Text
  deriving DecidableEq

structure PublishResponse where
  messageId : Text
  requestId : Text
  deriving DecidableEq

/-! ### Delivery -/

/-- `parse_sqs_resource_policy`. -/
def parseSqsResourcePolicy (library : SnsLibrary) (policy : Text) : Except SnsError Policy :=
  if trim policy = [] ∨ trim policy = ("{}" : Text) then .ok ⟨"2012-10-17", []⟩
  else (parsePolicyText library.json policy).mapError fun error =>
    .internalError (("invalid queue policy: " : Text) ++ error)

/-- `authorize_cross_service`. -/
def authorizeCrossService (caller : PolicyPrincipal) (action resource : Text)
    (resourcePolicy : Policy) : PolicyEvalResult :=
  evaluateResourcePolicy caller resource action resourcePolicy

/-- Whether the queue lets the service send to it, in the given mode. -/
def deliveryDecision (mode : AuthorizationMode) (queueArn : Text) (resourcePolicy : Policy) :
    AuthorizationResult :=
  let decision : AuthorizationResult :=
    match authorizeCrossService (.service "sns.amazonaws.com") "sqs:SendMessage" queueArn
      resourcePolicy with
    | .allowed => .allow
    | _ => .deny
  match mode with
  | .enforce => decision
  | _ => .allow

/-- The notification that stands for a message. -/
def notification (library : SnsLibrary) (renderedAt : Time) (topic : SnsTopic) (messageId : Text)
    (requestBody : PublishRequest) : Json :=
  .object [
    ("Message", .string requestBody.message),
    ("MessageId", .string messageId),
    ("Subject", .string (requestBody.subject.getD [])),
    ("Timestamp", .string (library.renderTime renderedAt)),
    ("TopicArn", .string (topicArn topic.region topic.accountId topic.name)),
    ("Type", .string "Notification")]

/-- The body that is delivered. -/
def deliveryBody (library : SnsLibrary) (renderedAt : Time) (subscription : SnsSubscription)
    (topic : SnsTopic) (messageId : Text) (requestBody : PublishRequest) : Text :=
  if subscription.rawMessageDelivery = some ("true" : Text) then requestBody.message
  else library.json.write (notification library renderedAt topic messageId requestBody)

/-- How a delivery reads an error of the SQS service. -/
def deliveryFailed (error : SqsError) : SnsError :=
  .internalError (("sqs delivery failed: " : Text) ++ error.display)

/-- The end of a delivery: the message is sent to a queue that is willing. -/
def sendDelivery (library : SnsLibrary) (mode : AuthorizationMode) (generated : DeliveryGenerated)
    (queue : SqsQueue) (body : Text) : ExceptT SnsError SqsProgram Unit := do
  let resourcePolicy ← liftExcept (parseSqsResourcePolicy library queue.policy)
  match deliveryDecision mode (getQueueArn queue) resourcePolicy with
  | .deny => throw (.notAuthorizedToQueue (getQueueArn queue))
  | .allow =>
      let message ← liftExcept ((prepareEnqueued library.sqs generated.messageId queue body .none
        generated.date).mapError deliveryFailed)
      (sqsCall (.sendMessage message)).orFail fun error => deliveryFailed (SqsError.internal error)

/-- `deliver_to_sqs`. -/
def deliverToSqs (library : SnsLibrary) (mode : AuthorizationMode) (generated : DeliveryGenerated)
    (subscription : SnsSubscription) (topic : SnsTopic) (requestBody : PublishRequest)
    (messageId : Text) : ExceptT SnsError SqsProgram Unit := do
  match parseSqsEndpointArn subscription.endpoint with
  | none => throw (.badRequest (("Invalid SQS endpoint: " : Text) ++ subscription.endpoint))
  | some queueId =>
      let found ← (sqsCall (.getQueue queueId.name queueId.region queueId.accountId)).orFail
        SnsError.ofStoreError
      match found with
      | none => throw (.badRequest (("SQS queue not found: " : Text) ++ subscription.endpoint))
      | some queue =>
          sendDelivery library mode generated queue
            (deliveryBody library generated.renderedAt subscription topic messageId requestBody)

/-- What a subscription is given.  Only queues are delivered to, and errors are only
logged. -/
def deliver (library : SnsLibrary) (mode : AuthorizationMode) (generated : DeliveryGenerated)
    (topic : SnsTopic) (requestBody : PublishRequest) (messageId : Text)
    (subscription : SnsSubscription) : SqsProgram Unit :=
  if subscription.protocol = ("sqs" : Text) then do
    let _ ← (deliverToSqs library mode generated subscription topic requestBody messageId).run
    return ()
  else return ()

/-- `handle_publish_typed`. -/
def handlePublish (library : SnsLibrary) (mode : AuthorizationMode) (generated : SnsGenerated)
    (request : ResolvedRequest) (requestBody : PublishRequest) :
    ExceptT SnsError (Program snsServiceStore) PublishResponse := do
  let topic ← onSns (loadTopic requestBody.topicArn)
  let subscriptions ← onSns ((snsCall (.listSubscriptionsByTopic
    (topicArn topic.region topic.accountId topic.name))).orFail SnsError.ofStoreError)
  subscriptions.zipIdx.forM fun subscription => ExceptT.lift <| @Program.right snsStore sqsStore _ <|
    deliver library mode (generated.deliveries subscription.2) topic requestBody
      generated.messageId subscription.1
  return { messageId := generated.messageId, requestId := request.requestId }

/-- `PublishAction`. -/
def publishAction (library : SnsLibrary) (mode : AuthorizationMode) (generated : SnsGenerated) :
    TypedAwsAction snsServiceStore SnsError PublishRequest PublishResponse where
  name := SnsAction.publish.name
  parse := parseSnsRequest library ["TopicArn", "Message", "Subject"] fun params => do
    return { topicArn := ← params.required "TopicArn"
             message := ← params.required "Message"
             subject := params.get "Subject" }
  validate _ requestBody := do
    liftExcept (validateTopicArn requestBody.topicArn "TopicArn")
    liftExcept (validatePublishPayload requestBody.message requestBody.subject)
  handle := handlePublish library mode generated
  resolveAuthorization request _ :=
    onSns (Sns.resolveAuthorization library .publish request)

/-! ### The registered actions -/

/-- The actions that use the SNS store alone. -/
def snsStoreAction (library : SnsLibrary) (generated : SnsGenerated) :
    SnsStoreAction → AwsAction snsStore SnsError
  | .createTopic => ⟨createTopicAction library generated⟩
  | .deleteTopic => ⟨deleteTopicAction library⟩
  | .subscribe => ⟨subscribeAction library generated⟩
  | .getTopicAttributes => ⟨getTopicAttributesAction library⟩
  | .getSubscriptionAttributes => ⟨getSubscriptionAttributesAction library⟩
  | .listSubscriptions => ⟨listSubscriptionsAction library⟩
  | .listSubscriptionsByTopic => ⟨listSubscriptionsByTopicAction library⟩
  | .listTopics => ⟨listTopicsAction library⟩
  | .setSubscriptionAttributes => ⟨setSubscriptionAttributesAction library⟩
  | .setTopicAttributes => ⟨setTopicAttributesAction library⟩
  | .listTagsForResource => ⟨listTagsForResourceAction library⟩
  | .tagResource => ⟨tagResourceAction library⟩
  | .untagResource => ⟨untagResourceAction library⟩
  | .unsubscribe => ⟨unsubscribeAction library⟩

/-- An action over another interface, every call replaced by its implementation. -/
def AwsAction.refine {I J : Interface} {Error : Type} (action : AwsAction I Error)
    (implementation : ∀ request : I.Call, Program J (I.Answer request)) : AwsAction J Error where
  Request := action.Request
  Response := action.Response
  typed := {
    name := action.typed.name
    parse := action.typed.parse
    validate := fun request payload =>
      ExceptT.mk ((action.typed.validate request payload).run.refine implementation)
    handle := fun request payload =>
      ExceptT.mk ((action.typed.handle request payload).run.refine implementation)
    resolveAuthorization := fun request payload =>
      ExceptT.mk ((action.typed.resolveAuthorization request payload).run.refine implementation) }

/-- The registered actions. -/
def snsAction (library : SnsLibrary) (mode : AuthorizationMode) (generated : SnsGenerated) :
    SnsAction → AwsAction snsServiceStore SnsError
  | .ofStore action => (snsStoreAction library generated action).refine fun request =>
      @Program.perform snsServiceStore (.inl request)
  | .publish => ⟨publishAction library mode generated⟩

end Hiraeth
