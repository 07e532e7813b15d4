import Hiraeth.Sqs.ResolveAuthorization

/-!
# Sending messages

A message is sent alone or as an entry of a batch.  Both ways check the delay and
the body, digest the attributes and store the message; they differ in the order of
the checks and in what a failure means.  The request is checked once before it is
handled, and in part again while it is.

The ids of messages are random; the handlers take them as an argument.

## Main definitions

* `MessageContent` — what a single request and an entry of a batch share
* `prepareMessage` — from the content to the message and the answer
* `handleSendMessage`, `sendMessageAction` — a single message
* `sendBatchEntry`, `handleSendMessageBatch`, `sendMessageBatchAction` — a batch
-/

namespace Hiraeth

open Interaction

/-! ### Payloads -/

/-- What a message is made of, apart from its queue. -/
structure MessageContent where
  delaySeconds : Option ℤ
  messageAttributes : Option MessageAttributes
  messageSystemAttributes : Option MessageAttributes
  messageBody : Text
  messageDeduplicationId : Option Text
  messageGroupId : Option Text
  deriving DecidableEq

structure SendMessageRequest extends MessageContent where
  queueUrl : Text
  deriving DecidableEq

structure SendMessageBatchEntry extends MessageContent where
  id : Text
  deriving DecidableEq

structure SendMessageBatchRequest where
  entries : List SendMessageBatchEntry
  queueUrl : Text
  deriving DecidableEq

/-- The fields of a message, in the order in which they are declared. -/
def messageContentFields : List Json.Field :=
  [⟨"DelaySeconds", false⟩, ⟨"MessageAttributes", true⟩, ⟨"MessageSystemAttributes", true⟩,
    ⟨"MessageBody", false⟩, ⟨"MessageDeduplicationId", false⟩, ⟨"MessageGroupId", false⟩]

/-- The content among the fields of a payload. -/
def decodeMessageContent (fields : Fields) : Except Text MessageContent := do
  let delaySeconds ← fields.optional "DelaySeconds" Json.asI64
  let messageAttributes ← fields.optional "MessageAttributes" decodeMessageAttributes
  let messageSystemAttributes ←
    fields.optional "MessageSystemAttributes" decodeMessageAttributes
  let messageBody ← fields.required "MessageBody" Json.asText
  let messageDeduplicationId ← fields.optional "MessageDeduplicationId" Json.asText
  let messageGroupId ← fields.optional "MessageGroupId" Json.asText
  return ⟨delaySeconds, messageAttributes, messageSystemAttributes, messageBody,
    messageDeduplicationId, messageGroupId⟩

/-- `SendMessageRequest::deserialize`. -/
def decodeSendMessageRequest (json : Json) : Except Text SendMessageRequest := do
  let fields ← json.readFields "SendMessageRequest"
    (messageContentFields ++ [⟨"QueueUrl", false⟩])
  let content ← decodeMessageContent fields
  let queueUrl ← fields.required "QueueUrl" Json.asText
  return { content with queueUrl }

/-- `SendMessageBatchEntry::deserialize`. -/
def decodeSendMessageBatchEntry (json : Json) : Except Text SendMessageBatchEntry := do
  let fields ← json.readFields "SendMessageBatchEntry" (⟨"Id", false⟩ :: messageContentFields)
  let id ← fields.required "Id" Json.asText
  let content ← decodeMessageContent fields
  return { content with id }

/-- `SendMessageBatchRequest::deserialize`. -/
def decodeSendMessageBatchRequest (json : Json) : Except Text SendMessageBatchRequest := do
  let fields ← json.readFields "SendMessageBatchRequest"
    [⟨"Entries", false⟩, ⟨"QueueUrl", false⟩]
  let entries ← fields.required "Entries" (Json.asList decodeSendMessageBatchEntry)
  let queueUrl ← fields.required "QueueUrl" Json.asText
  return ⟨entries, queueUrl⟩

/-! ### Messages -/

structure SendMessageResponse where
  md5OfMessageAttributes : Option Text
  md5OfMessageBody : Text
  md5OfMessageSystemAttributes : Option Text
  messageId : Text
  sequenceNumber : Option Text
  deriving DecidableEq

/-- A message that is ready to be stored, and the answer for it. -/
structure PreparedMessage where
  message : SqsMessage
  response : SendMessageResponse
  deriving DecidableEq

/-- The digest of attributes, when there are any. -/
def digestAttributes (library : SqsLibrary) (attributes : Option MessageAttributes) :
    Except SqsError (Option Text) :=
  match attributes.filter fun attributes => !attributes.isEmpty with
  | some attributes => (calculateMessageAttributesMd5 library attributes).map some
  | none => .ok none

/-- What both handlers do between the checks and the store.  The times of the
message are counted from the date of the request. -/
def prepareMessage (library : SqsLibrary) (date : Time) (queue : SqsQueue) (messageId : Text)
    (content : MessageContent) (delaySeconds : ℤ) : Except SqsError PreparedMessage := do
  let md5OfMessageAttributes ← digestAttributes library content.messageAttributes
  let awsTraceHeader ← extractAwsTraceHeader content.messageSystemAttributes
  let md5OfMessageSystemAttributes ← digestAttributes library content.messageSystemAttributes
  return {
    message := {
      messageId
      queueId := queue.id
      body := content.messageBody
      messageAttributes := content.messageAttributes.map (serializeMessageAttributes library)
      awsTraceHeader
      sentAt := date
      visibleAt := date + seconds delaySeconds
      expiresAt := date + seconds queue.messageRetentionPeriodSeconds
      receiveCount := 0
      receiptHandle := none
      firstReceivedAt := none
      messageGroupId := content.messageGroupId
      messageDeduplicationId := content.messageDeduplicationId }
    response := {
      md5OfMessageAttributes
      md5OfMessageBody := md5Hex library content.messageBody.utf8
      md5OfMessageSystemAttributes
      messageId
      sequenceNumber := none } }

/-- The checks of the attributes of a message. -/
def validateAttributes (content : MessageContent) : Except SqsError Unit := do
  match content.messageAttributes with
  | some attributes => validateMessageAttributes attributes
  | none => pure ()
  match content.messageSystemAttributes with
  | some attributes => validateMessageSystemAttributes attributes
  | none => pure ()

/-! ### A single message -/

/-- The checks of a single message before it is handled. -/
def validateSendMessage (queue : SqsQueue) (payload : SendMessageRequest) :
    Except SqsError Unit := do
  validateMessageBody payload.messageBody queue.maximumMessageSize
  let _ ← resolveDelaySeconds payload.delaySeconds queue.delaySeconds
  validateAttributes payload.toMessageContent

/-- `handle_send_message_typed`. -/
def handleSendMessage (library : SqsLibrary) (messageId : Text) (request : ResolvedRequest)
    (requestBody : SendMessageRequest) : ExceptT SqsError SqsProgram SendMessageResponse := do
  let queue ← loadQueueFromUrl library request requestBody.queueUrl
  liftExcept (validateMessageBody requestBody.messageBody queue.maximumMessageSize)
  let delaySeconds ← liftExcept
    (resolveDelaySeconds requestBody.delaySeconds queue.delaySeconds)
  let prepared ← liftExcept (prepareMessage library request.date queue messageId
    requestBody.toMessageContent delaySeconds)
  (sqsCall (.sendMessage prepared.message)).orFail SqsError.internal
  return prepared.response

/-- `SendMessageAction`. -/
def sendMessageAction (library : SqsLibrary) (messageId : Text) :
    TypedAwsAction sqsStore SqsError SendMessageRequest SendMessageResponse where
  name := SqsAction.sendMessage.name
  parse := parseSqsPayload library decodeSendMessageRequest
  validate request payload := do
    let queue ← loadQueueFromUrl library request payload.queueUrl
    liftExcept (validateSendMessage queue payload)
  handle := handleSendMessage library messageId
  resolveAuthorization request _ := Sqs.resolveAuthorization library .sendMessage request

/-! ### A batch -/

structure SendMessageBatchResultEntry extends SendMessageResponse where
  id : Text
  deriving DecidableEq

structure BatchResultErrorEntry where
  id : Text
  code : Text
  message : Text
  senderFault : Bool
  deriving DecidableEq

structure SendMessageBatchResponse where
  successful : List SendMessageBatchResultEntry
  failed : List BatchResultErrorEntry
  deriving DecidableEq

/-- `batch_error_entry`. -/
def batchErrorEntry (id : Text) (error : SqsError) : BatchResultErrorEntry where
  id := id
  code := error.code
  message := error.display
  senderFault := error.senderFault

/-- The results of a batch that went well, in order. -/
def successesOf {α ε : Type} (results : List (Except ε α)) : List α :=
  results.filterMap Except.toOption

/-- The results of a batch that failed, in order. -/
def failuresOf {α ε : Type} (results : List (Except ε α)) : List ε :=
  results.filterMap fun
    | .error failure => some failure
    | .ok _ => none

/-- The checks of an entry before the batch is handled. -/
def validateSendMessageBatchEntry (queue : SqsQueue) (entry : SendMessageBatchEntry) :
    Except SqsError Unit := do
  validateBatchEntryId entry.id
  let _ ← resolveDelaySeconds entry.delaySeconds queue.delaySeconds
  validateMessageBody entry.messageBody queue.maximumMessageSize
  validateAttributes entry.toMessageContent

/-- The checks of a batch before it is handled. -/
def validateSendMessageBatch (queue : SqsQueue) (payload : SendMessageBatchRequest) :
    Except SqsError Unit := do
  validateBatchRequest (payload.entries.map (·.id))
  payload.entries.forM (validateSendMessageBatchEntry queue)

/-- What becomes of an entry before it is stored. -/
def prepareBatchEntry (library : SqsLibrary) (date : Time) (queue : SqsQueue) (messageId : Text)
    (entry : SendMessageBatchEntry) : Except SqsError PreparedMessage := do
  let delaySeconds ← resolveDelaySeconds entry.delaySeconds queue.delaySeconds
  validateMessageBody entry.messageBody queue.maximumMessageSize
  prepareMessage library date queue messageId entry.toMessageContent delaySeconds

/-- One entry of a batch.  Its failure is a result like any other. -/
def sendBatchEntry (library : SqsLibrary) (date : Time) (queue : SqsQueue) (messageId : Text)
    (entry : SendMessageBatchEntry) :
    SqsProgram (Except BatchResultErrorEntry SendMessageBatchResultEntry) :=
  ExceptT.run do
    let prepared ← liftExcept
      ((prepareBatchEntry library date queue messageId entry).mapError (batchErrorEntry entry.id))
    (sqsCall (.sendMessage prepared.message)).orFail fun error =>
      batchErrorEntry entry.id (SqsError.internal error)
    return { prepared.response with id := entry.id }

/-- `handle_send_message_batch_typed`: one entry after the other. -/
def handleSendMessageBatch (library : SqsLibrary) (messageIds : ℕ → Text)
    (request : ResolvedRequest) (requestBody : SendMessageBatchRequest) :
    ExceptT SqsError SqsProgram SendMessageBatchResponse := do
  let queue ← loadQueueFromUrl library request requestBody.queueUrl
  liftExcept (validateBatchRequest (requestBody.entries.map (·.id)))
  let messages ← ExceptT.lift (requestBody.entries.zipIdx.mapM fun entry =>
    sendBatchEntry library request.date queue (messageIds entry.2) entry.1)
  return { successful := successesOf messages, failed := failuresOf messages }

/-- `SendMessageBatchAction`. -/
def sendMessageBatchAction (library : SqsLibrary) (messageIds : ℕ → Text) :
    TypedAwsAction sqsStore SqsError SendMessageBatchRequest SendMessageBatchResponse where
  name := SqsAction.sendMessageBatch.name
  parse := parseSqsPayload library decodeSendMessageBatchRequest
  validate request payload := do
    let queue ← loadQueueFromUrl library request payload.queueUrl
    liftExcept (validateSendMessageBatch queue payload)
  handle := handleSendMessageBatch library messageIds
  resolveAuthorization request _ := Sqs.resolveAuthorization library .sendMessageBatch request

end Hiraeth
