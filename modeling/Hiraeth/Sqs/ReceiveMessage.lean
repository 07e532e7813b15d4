import Hiraeth.Sqs.ResolveAuthorization

/-!
# Receiving messages

A receive polls the store until it gets messages or its time is up, and renders
what it gets: the stored attributes are parsed again, filtered by the names that
the request asks for, and digested.  A message that cannot be rendered fails the
whole request.

The number of polls that fit before the deadline is an argument; it depends on the
clock only.

## Main definitions

* `ReceiveMessageRequest`, `ReceivedMessage`, `ReceiveMessageResponse`
* `renderMessage` — a stored message as it is returned
* `receiveOnce`, `pollMessages` — a poll, and the loop
* `handleReceiveMessage`, `receiveMessageAction`
-/

namespace Hiraeth

open Interaction

/-! ### Payloads -/

structure ReceiveMessageRequest where
  attributeNames : List Text
  maxNumberOfMessages : ℤ
  messageAttributeNames : List Text
  messageSystemAttributeNames : List Text
  queueUrl : Text
  visibilityTimeout : Option ℕ
  waitTimeSeconds : Option ℕ
  deriving DecidableEq

/-- `default_max_number_of_messages`. -/
def defaultMaxNumberOfMessages : ℤ := 1

/-- `ReceiveMessageRequest::deserialize`. -/
def decodeReceiveMessageRequest (json : Json) : Except Text ReceiveMessageRequest := do
  let fields ← json.readFields "ReceiveMessageRequest"
    [⟨"AttributeNames", true⟩, ⟨"MaxNumberOfMessages", true⟩, ⟨"MessageAttributeNames", true⟩,
      ⟨"MessageSystemAttributeNames", true⟩, ⟨"QueueUrl", false⟩, ⟨"VisibilityTimeout", false⟩,
      ⟨"WaitTimeSeconds", false⟩]
  let names := Json.asList Json.asText
  let attributeNames ← fields.defaulted "AttributeNames" [] names
  let maxNumberOfMessages ←
    fields.defaulted "MaxNumberOfMessages" defaultMaxNumberOfMessages Json.asI64
  let messageAttributeNames ← fields.defaulted "MessageAttributeNames" [] names
  let messageSystemAttributeNames ← fields.defaulted "MessageSystemAttributeNames" [] names
  let queueUrl ← fields.required "QueueUrl" Json.asText
  let visibilityTimeout ← fields.optional "VisibilityTimeout" Json.asU32
  let waitTimeSeconds ← fields.optional "WaitTimeSeconds" Json.asU32
  return ⟨attributeNames, maxNumberOfMessages, messageAttributeNames,
    messageSystemAttributeNames, queueUrl, visibilityTimeout, waitTimeSeconds⟩

/-- `validate_receive_request`. -/
def validateReceiveRequest (request : ReceiveMessageRequest) : Except SqsError Unit :=
  if ¬ (1 ≤ request.maxNumberOfMessages ∧ request.maxNumberOfMessages ≤ 10) then
    .error (.badRequest "MaxNumberOfMessages must be between 1 and 10")
  else if request.visibilityTimeout.any fun timeout => 43200 < timeout then
    .error (.badRequest "VisibilityTimeout must be between 0 and 43200")
  else if request.waitTimeSeconds.any fun time => 20 < time then
    .error (.badRequest "WaitTimeSeconds must be between 0 and 20")
  else .ok ()

/-! ### Rendering -/

structure ReceivedMessage where
  attributes : SortedMap Text Text
  messageAttributes : MessageAttributes
  messageId : Text
  receiptHandle : Text
  body : Text
  md5OfBody : Option Text
  md5OfMessageAttributes : Option Text
  deriving DecidableEq

structure ReceiveMessageResponse where
  messages : List ReceivedMessage
  deriving DecidableEq

/-- `epoch_millis`. -/
def epochMillis (value : Time) : Text :=
  (toString (value / 1000000)).toList

/-- `should_include_system_attribute`. -/
def shouldIncludeSystemAttribute (attributeName : Text) (request : ReceiveMessageRequest) : Bool :=
  (request.attributeNames.any fun name => name = ("All" : Text) || name = attributeName) ||
    request.messageSystemAttributeNames.any fun name =>
      name = ("All" : Text) || name = attributeName

/-- `select_system_attributes`: those that are asked for and that the message
has. -/
def selectSystemAttributes (request : ReceiveMessageRequest) (message : SqsMessage) :
    SortedMap Text Text :=
  let available : List (Text × Option Text) :=
    [("ApproximateReceiveCount", some (toString message.receiveCount).toList),
      ("ApproximateFirstReceiveTimestamp", message.firstReceivedAt.map epochMillis),
      ("SentTimestamp", some (epochMillis message.sentAt)),
      ("AWSTraceHeader", message.awsTraceHeader),
      ("MessageDeduplicationId", message.messageDeduplicationId),
      ("MessageGroupId", message.messageGroupId)]
  SortedMap.ofList <| available.filterMap fun entry =>
    if shouldIncludeSystemAttribute entry.1 request then
      entry.2.map fun value => (entry.1, value)
    else none

/-- `parse_message_attributes`. -/
def parseMessageAttributes (library : SqsLibrary) (message : SqsMessage) :
    Except SqsError MessageAttributes :=
  match message.messageAttributes.filter (· ≠ []) with
  | some raw =>
      (library.json.read (Text.utf8 raw) >>= decodeMessageAttributes).mapError fun error =>
        .internalError (("failed to parse stored message attributes for message " : Text) ++
          message.messageId ++ ": ".toList ++ error)
  | none => .ok .empty

/-- `include_requested_message_attribute`. -/
def includeRequestedMessageAttribute (attributeName : Text) (requestedNames : List Text) : Bool :=
  requestedNames.any fun requestedName =>
    requestedName = ("All" : Text) || requestedName = (".*" : Text) ||
      requestedName = attributeName ||
      (stripSuffix ".*" requestedName).any fun start => decide (start <+: attributeName)

/-- `filter_message_attributes`. -/
def filterMessageAttributes (messageAttributes : MessageAttributes) (requestedNames : List Text) :
    MessageAttributes :=
  messageAttributes.filter fun name _ => includeRequestedMessageAttribute name requestedNames

/-- A stored message as it is returned. -/
def renderMessage (library : SqsLibrary) (request : ReceiveMessageRequest)
    (message : SqsMessage) : Except SqsError ReceivedMessage := do
  let parsed ← parseMessageAttributes library message
  let messageAttributes := filterMessageAttributes parsed request.messageAttributeNames
  let md5OfMessageAttributes ←
    (if messageAttributes.isEmpty then .ok none
      else (calculateMessageAttributesMd5 library messageAttributes).map some)
  return {
    attributes := selectSystemAttributes request message
    messageAttributes
    messageId := message.messageId
    receiptHandle := message.receiptHandle.getD []
    body := message.body
    md5OfBody := some (md5Hex library message.body.utf8)
    md5OfMessageAttributes }

/-! ### The action -/

/-- An `i64` cast to a `u32`. -/
def asU32 (value : ℤ) : ℕ :=
  (value % 4294967296).toNat

/-- One poll. -/
def receiveOnce (library : SqsLibrary) (request : ReceiveMessageRequest) (queue : SqsQueue) :
    ExceptT SqsError SqsProgram (List ReceivedMessage) := do
  let messages ← (sqsCall (.receiveMessages queue.id request.maxNumberOfMessages
    (request.visibilityTimeout.getD (asU32 queue.visibilityTimeoutSeconds)))).orFail
      SqsError.internal
  liftExcept (messages.mapM (renderMessage library request))

/-- The loop of a receive, with the number of polls that may follow the first. -/
def pollMessages (library : SqsLibrary) (request : ReceiveMessageRequest) (queue : SqsQueue) :
    ℕ → ExceptT SqsError SqsProgram (List ReceivedMessage)
  | 0 => receiveOnce library request queue
  | polls + 1 => do
      let received ← receiveOnce library request queue
      if received = [] then pollMessages library request queue polls else return received

/-- `handle_receive_message_typed`. -/
def handleReceiveMessage (library : SqsLibrary) (polls : ℕ) (request : ResolvedRequest)
    (receiveRequest : ReceiveMessageRequest) :
    ExceptT SqsError SqsProgram ReceiveMessageResponse := do
  let queue ← loadQueueFromUrl library request receiveRequest.queueUrl
  liftExcept (validateReceiveRequest receiveRequest)
  let messages ← pollMessages library receiveRequest queue polls
  return ⟨messages⟩

/-- `ReceiveMessageAction`. -/
def receiveMessageAction (library : SqsLibrary) (polls : ℕ) :
    TypedAwsAction sqsStore SqsError ReceiveMessageRequest ReceiveMessageResponse where
  name := SqsAction.receiveMessage.name
  parse := parseSqsPayload library decodeReceiveMessageRequest
  validate _ payload := liftExcept (validateReceiveRequest payload)
  handle := handleReceiveMessage library polls
  resolveAuthorization request _ := Sqs.resolveAuthorization library .receiveMessage request

end Hiraeth
