import Hiraeth.Sns.Publish
import Hiraeth.Web.IamConsole
import Hiraeth.Web.TagForms

/-!
# The forms of the console that send

The page of a queue has a form that sends a message.  The body and the delay are checked as they
are for the service; the attributes are whatever object is typed in, stored as it is written
again, and it is only when the message is received that they are read as attributes.

The page of a topic has a form that publishes.  It delivers to the queues by itself: what is
delivered reads as if the service had sent it, but neither the queue's policy nor the size of the
body is looked at.

## Main definitions

* `Console.normalizeOptionalJsonObject` — the attributes of the form that sends
* `sendMessageFromForm` — the form of a queue
* `publishFromForm` — the form of a topic
-/

namespace Hiraeth

open Interaction Program

/-! ### Sending -/

/-- `SendMessageForm`, without the number of messages that the page shows. -/
structure SendMessageForm where
  messageBody : Text
  delaySeconds : Text
  messageAttributesJson : Text
  awsTraceHeader : Text
  messageGroupId : Text
  messageDeduplicationId : Text
  deriving DecidableEq

namespace Console

/-- `non_empty_trimmed`. -/
def nonEmptyTrimmed (value : Text) : Option Text :=
  if trim value = [] then none else some (trim value)

/-- `parse_optional_i64`. -/
def parseOptionalI64 (raw fieldName : Text) (low high : ℤ) : Except WebError (Option ℤ) :=
  if trim raw = [] then .ok none
  else
    match parseI64 (trim raw) with
    | none => .error (.badRequest (fieldName ++ " must be an integer between ".toList ++
        (toString low).toList ++ " and ".toList ++ (toString high).toList))
    | some value =>
        if low ≤ value ∧ value ≤ high then .ok (some value)
        else .error (.badRequest (fieldName ++ " must be between ".toList ++
          (toString low).toList ++ " and ".toList ++ (toString high).toList))

/-- `normalize_optional_json_object`. -/
def normalizeOptionalJsonObject (library : JsonLibrary) (raw fieldName : Text) :
    Except WebError (Option Text) :=
  if trim raw = [] then .ok none
  else
    match library.read (trim raw).utf8 with
    | .error error =>
        .error (.badRequest (fieldName ++ " must be valid JSON: ".toList ++ error))
    | .ok json =>
        match json.asValue with
        | .object [] => .ok none
        | .object (member :: members) => .ok (some (library.write (.object (member :: members))))
        | _ => .error (.badRequest (fieldName ++ " must be a JSON object".toList))

end Console

/-- The checks of the form, against the queue that it is on the page of. -/
def validateSendMessageForm (queue : SqsQueue) (form : SendMessageForm) : Except WebError ℤ := do
  if form.messageBody = [] then
    throw (.badRequest "Message body must not be empty")
  if asUsize queue.maximumMessageSize < (Text.utf8 form.messageBody).length then
    throw (.badRequest (("Message body exceeds the queue maximum size of " : Text) ++
      (toString queue.maximumMessageSize).toList ++ " bytes".toList))
  let delaySeconds ← Console.parseOptionalI64 form.delaySeconds "DelaySeconds" 0 900
  return delaySeconds.getD queue.delaySeconds

/-- The message of the form. -/
def messageOfForm (now : Time) (messageId : Text) (queue : SqsQueue) (form : SendMessageForm)
    (delaySeconds : ℤ) (messageAttributes : Option Text) : SqsMessage where
  messageId
  queueId := queue.id
  body := form.messageBody
  messageAttributes
  awsTraceHeader := Console.nonEmptyTrimmed form.awsTraceHeader
  sentAt := now
  visibleAt := now + seconds delaySeconds
  expiresAt := now + seconds queue.messageRetentionPeriodSeconds
  receiveCount := 0
  receiptHandle := none
  firstReceivedAt := none
  messageGroupId := Console.nonEmptyTrimmed form.messageGroupId
  messageDeduplicationId := Console.nonEmptyTrimmed form.messageDeduplicationId

/-- `send_message` of the console.  The queue is looked up by its number, outside of the calls of
the services. -/
def sendMessageFromForm (library : JsonLibrary) (found : StoreResult (Option SqsQueue)) (now : Time)
    (messageId : Text) (form : SendMessageForm) : ExceptT WebError SqsProgram FormResult := do
  let queue ← liftExcept (loadQueueById found)
  match validateSendMessageForm queue form with
  | .error error => return .rejected error.message
  | .ok delaySeconds =>
      match Console.normalizeOptionalJsonObject library form.messageAttributesJson
          "Message attributes JSON" with
      | .error error => return .rejected error.message
      | .ok messageAttributes =>
          (sqsCall (.sendMessage (messageOfForm now messageId queue form delaySeconds
            messageAttributes))).orFail WebError.store
          return .saved queue.id "Sent message."

/-! ### Publishing -/

structure PublishForm where
  message : Text
  subject : Text
  deriving DecidableEq

/-- What the form publishes. -/
def publicationOfForm (topic : SnsTopic) (form : PublishForm) : PublishRequest where
  topicArn := topicArn topic.region topic.accountId topic.name
  message := trim form.message
  subject := some (trim form.subject)

/-- The message that the form delivers. -/
def messageOfPublication (library : SnsLibrary) (drawn : DeliveryGenerated)
    (subscription : SnsSubscription) (topic : SnsTopic) (form : PublishForm) (messageId : Text)
    (queue : SqsQueue) : SqsMessage where
  messageId := drawn.messageId
  queueId := queue.id
  body := deliveryBody library drawn.renderedAt subscription topic messageId
    (publicationOfForm topic form)
  messageAttributes := none
  awsTraceHeader := none
  sentAt := drawn.date
  visibleAt := drawn.date + seconds queue.delaySeconds
  expiresAt := drawn.date + seconds queue.messageRetentionPeriodSeconds
  receiveCount := 0
  receiptHandle := none
  firstReceivedAt := none
  messageGroupId := none
  messageDeduplicationId := none

/-- `deliver_to_sqs` of the console. -/
def deliverFromForm (library : SnsLibrary) (drawn : DeliveryGenerated) (topic : SnsTopic)
    (form : PublishForm) (messageId : Text) (subscription : SnsSubscription) :
    ExceptT WebError SqsProgram Unit := do
  match parseSqsEndpointArn subscription.endpoint with
  | none => throw (.badRequest (("Invalid SQS endpoint: " : Text) ++ subscription.endpoint))
  | some queueId =>
      let found ← (sqsCall (.getQueue queueId.name queueId.region queueId.accountId)).orFail
        WebError.store
      match found with
      | none => throw (.badRequest (("SQS queue not found: " : Text) ++ subscription.endpoint))
      | some queue =>
          (sqsCall (.sendMessage (messageOfPublication library drawn subscription topic form
            messageId queue))).orFail WebError.store

/-- What the form says, by how many deliveries have succeeded and how many have failed. -/
def publishFeedback (noSubscriptions : Bool) (delivered failed : ℕ) : Text :=
  if 0 < delivered ∧ failed = 0 then
    ("Published message to " : Text) ++ (toString delivered).toList ++ " subscription(s).".toList
  else if 0 < delivered ∧ 0 < failed then
    ("Published to " : Text) ++ (toString delivered).toList ++ " subscription(s), ".toList ++
      (toString failed).toList ++ " failed.".toList
  else if noSubscriptions then "Published message. No subscriptions to deliver to."
  else ("Failed to deliver to all " : Text) ++ (toString failed).toList ++ " subscription(s).".toList

/-- `publish_message` of the console. -/
def publishFromForm (library : SnsLibrary) (generated : SnsGenerated) (topicId : RowId)
    (form : PublishForm) : ExceptT WebError (Program snsServiceStore) FormResult := do
  let topic ← onSns (loadTopicById topicId)
  match Console.validateRequired "Message" (trim form.message) with
  | .error error => return .rejected error.message
  | .ok () =>
      let subscriptions ← onSns ((snsCall (.listSubscriptionsByTopic
        (topicArn topic.region topic.accountId topic.name))).orFail WebError.store)
      let receivers := subscriptions.filter fun subscription =>
        subscription.protocol = ("sqs" : Text)
      let outcomes ← ExceptT.lift (receivers.zipIdx.mapM fun subscription =>
        @Program.right snsStore sqsStore _ (deliverFromForm library
          (generated.deliveries subscription.2) topic form generated.messageId
          subscription.1).run)
      let delivered := outcomes.countP fun outcome => outcome.toBool
      return .saved topicId
        (publishFeedback subscriptions.isEmpty delivered (outcomes.length - delivered))

end Hiraeth
