import Hiraeth.Sqs.QueueAttributes
import Hiraeth.Sqs.ResolveAuthorization

/-!
# Actions on queues

Creating, finding, listing, changing and deleting queues, and their tags.  A queue
is named by its URL, except where it is created or looked up by its name.

The time at which a queue is created is read from the clock of the server, and is
an argument here.

## Main definitions

* `createQueueAction`, `getQueueUrlAction`, `listQueuesAction` — the actions that
  answer with queue URLs
* `setQueueAttributesAction`, `getQueueAttributesAction` — attributes
* `deleteQueueAction`, `purgeQueueAction` — deleting
* `tagQueueAction`, `untagQueueAction`, `listQueueTagsAction` — tags
-/

namespace Hiraeth

open Interaction

/-- A map of texts. -/
def decodeTextMap : Json → Except Text AttributeMap :=
  Json.asMap Json.asText

/-- A payload that has only a queue URL. -/
def decodeQueueUrl (record : Text) (json : Json) : Except Text Text := do
  let fields ← json.readFields record [⟨"QueueUrl", false⟩]
  fields.required "QueueUrl" Json.asText

/-! ### Creating a queue -/

structure CreateQueueRequest where
  queueName : Text
  attributes : AttributeMap
  tags : AttributeMap
  deriving DecidableEq

/-- `CreateQueueRequest::deserialize`. -/
def decodeCreateQueueRequest (json : Json) : Except Text CreateQueueRequest := do
  let fields ← json.readFields "CreateQueueRequest"
    [⟨"QueueName", false⟩, ⟨"Attributes", true⟩, ⟨"Tags", true⟩]
  let queueName ← fields.required "QueueName" Json.asText
  let attributes ← fields.defaulted "Attributes" SortedMap.empty decodeTextMap
  let tags ← fields.defaulted "Tags" SortedMap.empty decodeTextMap
  return ⟨queueName, attributes, tags⟩

structure CreateQueueResponse where
  queueUrl : Text
  deriving DecidableEq

/-- The queue that is to be created. -/
def newQueue (now : Time) (request : ResolvedRequest) (queueName : Text)
    (values : QueueAttributeValues) : SqsQueue where
  id := 0
  name := queueName
  region := request.region
  accountId := request.authContext.principal.accountId
  queueType := if values.fifoQueue then "fifo" else "standard"
  visibilityTimeoutSeconds := values.visibilityTimeoutSeconds
  delaySeconds := values.delaySeconds
  maximumMessageSize := values.maximumMessageSize
  messageRetentionPeriodSeconds := values.messageRetentionPeriodSeconds
  receiveMessageWaitTimeSeconds := values.receiveMessageWaitTimeSeconds
  policy := values.policy
  redrivePolicy := values.redrivePolicy
  contentBasedDeduplication := values.contentBasedDeduplication
  kmsMasterKeyId := values.kmsMasterKeyId
  kmsDataKeyReusePeriodSeconds := values.kmsDataKeyReusePeriodSeconds
  deduplicationScope := values.deduplicationScope
  fifoThroughputLimit := values.fifoThroughputLimit
  redriveAllowPolicy := values.redriveAllowPolicy
  sqsManagedSseEnabled := values.sqsManagedSseEnabled
  createdAt := now
  updatedAt := now

/-- The checks of a new queue. -/
def validateCreateQueue (library : SqsLibrary) (payload : CreateQueueRequest) :
    Except SqsError QueueAttributeValues := do
  let values ← QueueAttributeValues.fromAttributeMap library.json payload.attributes
  validateQueueName payload.queueName values.fifoQueue
  validateTags payload.tags true
  return values

/-- `create_queue_response`. -/
def createQueueResponse (request : ResolvedRequest) (accountId queueName : Text) :
    CreateQueueResponse where
  queueUrl := queueUrl request.request.host accountId queueName

/-- The tags of a queue that was just created. -/
def tagCreatedQueue (request : ResolvedRequest) (requestBody : CreateQueueRequest) :
    ExceptT SqsError SqsProgram Unit := do
  if requestBody.tags.isEmpty then return ()
  else
    let found ← (sqsCall (.getQueue requestBody.queueName request.region
      request.authContext.principal.accountId)).orFail SqsError.internal
    match found with
    | none => throw (.internalError "created queue could not be loaded for tagging")
    | some createdQueue =>
        (sqsCall (.tagQueue createdQueue.id requestBody.tags.entries)).orFail
          SqsError.ofStoreError

/-- What creating a queue again comes to. -/
def confirmExistingQueue (request : ResolvedRequest) (requestBody : CreateQueueRequest)
    (queue : SqsQueue) : ExceptT SqsError SqsProgram CreateQueueResponse := do
  let accountId := request.authContext.principal.accountId
  let found ← (sqsCall (.getQueue requestBody.queueName request.region accountId)).orFail
    SqsError.internal
  match found with
  | some existingQueue =>
      if queueConfigurationMatches existingQueue queue then
        return createQueueResponse request accountId requestBody.queueName
      else
        throw (.queueAlreadyExists (("A queue named '" : Text) ++ requestBody.queueName ++
          "' already exists with different attributes.".toList))
  | none => throw (.internalError
      "queue creation conflicted but existing queue could not be loaded")

/-- `handle_create_queue_typed`. -/
def handleCreateQueue (library : SqsLibrary) (now : Time) (request : ResolvedRequest)
    (requestBody : CreateQueueRequest) : ExceptT SqsError SqsProgram CreateQueueResponse := do
  let values ← liftExcept (validateCreateQueue library requestBody)
  let queue := newQueue now request requestBody.queueName values
  let created ← ExceptT.lift (sqsCall (.createQueue queue))
  match created with
  | .ok () =>
      tagCreatedQueue request requestBody
      return createQueueResponse request request.authContext.principal.accountId
        requestBody.queueName
  | .error (.conflict _) => confirmExistingQueue request requestBody queue
  | .error error => throw (SqsError.internal error)

/-- `CreateQueueAction`. -/
def createQueueAction (library : SqsLibrary) (now : Time) :
    TypedAwsAction sqsStore SqsError CreateQueueRequest CreateQueueResponse where
  name := SqsAction.createQueue.name
  parse := parseSqsPayload library decodeCreateQueueRequest
  validate _ payload := do
    let _ ← liftExcept (validateCreateQueue library payload)
    return ()
  handle := handleCreateQueue library now
  resolveAuthorization request _ := Sqs.resolveAuthorization library .createQueue request

/-! ### Finding queues -/

structure GetQueueUrlResponse where
  queueUrl : Text
  deriving DecidableEq

/-- The check of a name that is looked up: its suffix decides what it may be. -/
def validateGetQueueUrl (payload : GetQueueUrlRequest) : Except SqsError Unit :=
  validateQueueName payload.queueName (stripSuffix ".fifo" payload.queueName).isSome

/-- `handle_get_queue_url_typed`. -/
def handleGetQueueUrl (request : ResolvedRequest) (requestBody : GetQueueUrlRequest) :
    ExceptT SqsError SqsProgram GetQueueUrlResponse := do
  liftExcept (validateGetQueueUrl requestBody)
  let accountId := requestBody.queueOwnerAwsAccountId.getD
    request.authContext.principal.accountId
  let queue ← (sqsCall (.getQueue requestBody.queueName request.region accountId)).orFail
    SqsError.internal
  match queue with
  | some _ => return ⟨queueUrl request.request.host accountId requestBody.queueName⟩
  | none => throw .queueNotFound

/-- `GetQueueUrlAction`. -/
def getQueueUrlAction (library : SqsLibrary) :
    TypedAwsAction sqsStore SqsError GetQueueUrlRequest GetQueueUrlResponse where
  name := SqsAction.getQueueUrl.name
  parse := parseSqsPayload library decodeGetQueueUrlRequest
  validate _ payload := liftExcept (validateGetQueueUrl payload)
  handle := handleGetQueueUrl
  resolveAuthorization request _ := Sqs.resolveAuthorization library .getQueueUrl request

structure ListQueuesRequest where
  maxResults : Option ℤ
  nextToken : Option Text
  queueNamePrefix : Option Text
  deriving DecidableEq

/-- `ListQueuesRequest::deserialize`. -/
def decodeListQueuesRequest (json : Json) : Except Text ListQueuesRequest := do
  let fields ← json.readFields "ListQueuesRequest"
    [⟨"MaxResults", false⟩, ⟨"NextToken", false⟩, ⟨"QueueNamePrefix", false⟩]
  let maxResults ← fields.optional "MaxResults" Json.asI64
  let nextToken ← fields.optional "NextToken" Json.asText
  let queueNamePrefix ← fields.optional "QueueNamePrefix" Json.asText
  return ⟨maxResults, nextToken, queueNamePrefix⟩

structure ListQueuesResponse where
  queueUrls : List Text
  nextToken : Option Text
  deriving DecidableEq

/-- `validate_list_queues_request`. -/
def validateListQueuesRequest (requestBody : ListQueuesRequest) : Except SqsError Unit :=
  if requestBody.maxResults.any fun maxResults => !(1 ≤ maxResults && maxResults ≤ 1000) then
    .error (.badRequest "MaxResults must be between 1 and 1000")
  else .ok ()

/-- The queues of a page, and the token of the next one. -/
def pageOfQueues (maxResults : Option ℤ) (queues : List SqsQueue) :
    List SqsQueue × Option Text :=
  match maxResults with
  | none => (queues, none)
  | some maxResults =>
      if maxResults < queues.length then
        let page := queues.take maxResults.toNat
        (page, page.getLast?.map (·.name))
      else (queues, none)

/-- `handle_list_queues_typed`: one queue more than wanted is asked for. -/
def handleListQueues (request : ResolvedRequest) (requestBody : ListQueuesRequest) :
    ExceptT SqsError SqsProgram ListQueuesResponse := do
  liftExcept (validateListQueuesRequest requestBody)
  let accountId := request.authContext.principal.accountId
  let storeMaxResults := requestBody.maxResults.map fun maxResults =>
    min (maxResults + 1) 9223372036854775807
  let queues ← (sqsCall (.listQueues request.region accountId requestBody.queueNamePrefix
    storeMaxResults requestBody.nextToken)).orFail SqsError.internal
  let (page, nextToken) := pageOfQueues requestBody.maxResults queues
  return {
    queueUrls := page.map fun queue => queueUrl request.request.host accountId queue.name
    nextToken }

/-- `ListQueuesAction`. -/
def listQueuesAction (library : SqsLibrary) :
    TypedAwsAction sqsStore SqsError ListQueuesRequest ListQueuesResponse where
  name := SqsAction.listQueues.name
  parse := parseSqsPayload library decodeListQueuesRequest
  validate _ payload := liftExcept (validateListQueuesRequest payload)
  handle := handleListQueues
  resolveAuthorization request _ := Sqs.resolveAuthorization library .listQueues request

/-! ### Attributes -/

structure SetQueueAttributesRequest where
  queueUrl : Text
  attributes : AttributeMap
  deriving DecidableEq

/-- `SetQueueAttributesRequest::deserialize`. -/
def decodeSetQueueAttributesRequest (json : Json) : Except Text SetQueueAttributesRequest := do
  let fields ← json.readFields "SetQueueAttributesRequest"
    [⟨"QueueUrl", false⟩, ⟨"Attributes", false⟩]
  let queueUrl ← fields.required "QueueUrl" Json.asText
  let attributes ← fields.required "Attributes" decodeTextMap
  return ⟨queueUrl, attributes⟩

/-- `handle_set_queue_attributes_typed`. -/
def handleSetQueueAttributes (library : SqsLibrary) (request : ResolvedRequest)
    (requestBody : SetQueueAttributesRequest) : ExceptT SqsError SqsProgram Unit := do
  let queue ← loadQueueFromUrl library request requestBody.queueUrl
  let attributes ← liftExcept (parseQueueAttributeUpdate library.json requestBody.attributes)
  (sqsCall (.setQueueAttributes queue.id attributes)).orFail SqsError.ofStoreError

/-- `SetQueueAttributesAction`. -/
def setQueueAttributesAction (library : SqsLibrary) :
    TypedAwsAction sqsStore SqsError SetQueueAttributesRequest Unit where
  name := SqsAction.setQueueAttributes.name
  parse := parseSqsPayload library decodeSetQueueAttributesRequest
  validate _ payload := do
    let _ ← liftExcept (parseQueueAttributeUpdate library.json payload.attributes)
    return ()
  handle := handleSetQueueAttributes library
  resolveAuthorization request _ := Sqs.resolveAuthorization library .setQueueAttributes request

structure GetQueueAttributesRequest where
  queueUrl : Text
  attributeNames : List Text
  deriving DecidableEq

/-- `GetQueueAttributesRequest::deserialize`. -/
def decodeGetQueueAttributesRequest (json : Json) : Except Text GetQueueAttributesRequest := do
  let fields ← json.readFields "GetQueueAttributesRequest"
    [⟨"QueueUrl", false⟩, ⟨"AttributeNames", false⟩]
  let queueUrl ← fields.required "QueueUrl" Json.asText
  let attributeNames ← fields.required "AttributeNames" (Json.asList Json.asText)
  return ⟨queueUrl, attributeNames⟩

/-- `GetQueueAttributesAction`. -/
def getQueueAttributesAction (library : SqsLibrary) :
    TypedAwsAction sqsStore SqsError GetQueueAttributesRequest AttributeMap where
  name := SqsAction.getQueueAttributes.name
  parse := parseSqsPayload library decodeGetQueueAttributesRequest
  validate _ _ := return ()
  handle request attributesRequest := do
    let queue ← loadQueueFromUrl library request attributesRequest.queueUrl
    collectQueueAttributes queue attributesRequest.attributeNames
  resolveAuthorization request _ := Sqs.resolveAuthorization library .getQueueAttributes request

/-! ### Deleting -/

/-- `DeleteQueueAction`. -/
def deleteQueueAction (library : SqsLibrary) :
    TypedAwsAction sqsStore SqsError Text Unit where
  name := SqsAction.deleteQueue.name
  parse := parseSqsPayload library (decodeQueueUrl "DeleteQueueRequest")
  validate _ _ := return ()
  handle request queueUrl := do
    let queue ← loadQueueFromUrl library request queueUrl
    (sqsCall (.deleteQueue queue.id)).orFail SqsError.ofStoreError
  resolveAuthorization request _ := Sqs.resolveAuthorization library .deleteQueue request

/-- `PurgeQueueAction`. -/
def purgeQueueAction (library : SqsLibrary) :
    TypedAwsAction sqsStore SqsError Text Unit where
  name := SqsAction.purgeQueue.name
  parse := parseSqsPayload library (decodeQueueUrl "PurgeQueueRequest")
  validate _ _ := return ()
  handle request queueUrl := do
    let queue ← loadQueueFromUrl library request queueUrl
    (sqsCall (.purgeQueue queue.id)).orFail SqsError.ofStoreError
  resolveAuthorization request _ := Sqs.resolveAuthorization library .purgeQueue request

/-! ### Tags -/

structure TagQueueRequest where
  queueUrl : Text
  tags : AttributeMap
  deriving DecidableEq

/-- `TagQueueRequest::deserialize`. -/
def decodeTagQueueRequest (json : Json) : Except Text TagQueueRequest := do
  let fields ← json.readFields "TagQueueRequest" [⟨"QueueUrl", false⟩, ⟨"Tags", false⟩]
  let queueUrl ← fields.required "QueueUrl" Json.asText
  let tags ← fields.required "Tags" decodeTextMap
  return ⟨queueUrl, tags⟩

/-- `TagQueueAction`: the tags that the queue will have are checked again, those it
had included. -/
def tagQueueAction (library : SqsLibrary) :
    TypedAwsAction sqsStore SqsError TagQueueRequest Unit where
  name := SqsAction.tagQueue.name
  parse := parseSqsPayload library decodeTagQueueRequest
  validate _ requestBody := liftExcept (validateTags requestBody.tags false)
  handle request requestBody := do
    liftExcept (validateTags requestBody.tags false)
    let queue ← loadQueueFromUrl library request requestBody.queueUrl
    let storedTags ← (sqsCall (.listQueueTags queue.id)).orFail SqsError.ofStoreError
    liftExcept (validateTags (SortedMap.ofList (storedTags ++ requestBody.tags.entries)) true)
    (sqsCall (.tagQueue queue.id requestBody.tags.entries)).orFail SqsError.ofStoreError
  resolveAuthorization request _ := Sqs.resolveAuthorization library .tagQueue request

structure UntagQueueRequest where
  queueUrl : Text
  tagKeys : List Text
  deriving DecidableEq

/-- `UntagQueueRequest::deserialize`. -/
def decodeUntagQueueRequest (json : Json) : Except Text UntagQueueRequest := do
  let fields ← json.readFields "UntagQueueRequest" [⟨"QueueUrl", false⟩, ⟨"TagKeys", false⟩]
  let queueUrl ← fields.required "QueueUrl" Json.asText
  let tagKeys ← fields.required "TagKeys" (Json.asList Json.asText)
  return ⟨queueUrl, tagKeys⟩

/-- `UntagQueueAction`. -/
def untagQueueAction (library : SqsLibrary) :
    TypedAwsAction sqsStore SqsError UntagQueueRequest Unit where
  name := SqsAction.untagQueue.name
  parse := parseSqsPayload library decodeUntagQueueRequest
  validate _ requestBody := liftExcept (validateTagKeys requestBody.tagKeys false)
  handle request requestBody := do
    liftExcept (validateTagKeys requestBody.tagKeys false)
    let queue ← loadQueueFromUrl library request requestBody.queueUrl
    (sqsCall (.untagQueue queue.id requestBody.tagKeys)).orFail SqsError.ofStoreError
  resolveAuthorization request _ := Sqs.resolveAuthorization library .untagQueue request

/-- `ListQueueTagsAction`. -/
def listQueueTagsAction (library : SqsLibrary) :
    TypedAwsAction sqsStore SqsError Text AttributeMap where
  name := SqsAction.listQueueTags.name
  parse := parseSqsPayload library (decodeQueueUrl "ListQueueTagsRequest")
  validate _ _ := return ()
  handle request queueUrl := do
    let queue ← loadQueueFromUrl library request queueUrl
    let tags ← (sqsCall (.listQueueTags queue.id)).orFail SqsError.ofStoreError
    return SortedMap.ofList tags
  resolveAuthorization request _ := Sqs.resolveAuthorization library .listQueueTags request

end Hiraeth
