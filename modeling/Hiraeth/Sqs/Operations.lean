import Hiraeth.Sqs.Util
import Hiraeth.Store.Sqs

/-!
# Sending without a request

Other services send messages to a queue that they have looked up themselves.

## Main definitions

* `enqueueMessage` — the checks and the message of such a send
-/

namespace Hiraeth

open Interaction

/-- What is sent, apart from the body. -/
structure EnqueuedExtras where
  messageAttributes : Option MessageAttributes
  messageSystemAttributes : Option MessageAttributes
  messageGroupId : Option Text
  messageDeduplicationId : Option Text

/-- Nothing but the body. -/
def EnqueuedExtras.none : EnqueuedExtras where
  messageAttributes := Option.none
  messageSystemAttributes := Option.none
  messageGroupId := Option.none
  messageDeduplicationId := Option.none

/-- The message that is stored, when the checks pass. -/
def prepareEnqueued (library : SqsLibrary) (messageId : Text) (queue : SqsQueue) (body : Text)
    (extras : EnqueuedExtras) (date : Time) : Except SqsError SqsMessage := do
  validateMessageBody body queue.maximumMessageSize
  let delaySeconds ← resolveDelaySeconds Option.none queue.delaySeconds
  let awsTraceHeader ← extractAwsTraceHeader extras.messageSystemAttributes
  return {
    messageId
    queueId := queue.id
    body
    messageAttributes := extras.messageAttributes.map (serializeMessageAttributes library)
    awsTraceHeader
    sentAt := date
    visibleAt := date + seconds delaySeconds
    expiresAt := date + seconds queue.messageRetentionPeriodSeconds
    receiveCount := 0
    receiptHandle := Option.none
    firstReceivedAt := Option.none
    messageGroupId := extras.messageGroupId
    messageDeduplicationId := extras.messageDeduplicationId }

/-- `enqueue_message`. -/
def enqueueMessage (library : SqsLibrary) (messageId : Text) (queue : SqsQueue) (body : Text)
    (extras : EnqueuedExtras) (date : Time) : ExceptT SqsError SqsProgram Text := do
  let message ← liftExcept (prepareEnqueued library messageId queue body extras date)
  (sqsCall (.sendMessage message)).orFail SqsError.internal
  return message.messageId

end Hiraeth
