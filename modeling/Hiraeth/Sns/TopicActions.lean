import Hiraeth.Sns.ResolveAuthorization

/-!
# Actions on topics

Creating and deleting topics, reading and setting their attributes, listing them, and
tagging them.

## Main definitions

* `createTopicAction`, `deleteTopicAction`, `getTopicAttributesAction`,
  `setTopicAttributesAction`, `listTopicsAction`
* `tagResourceAction`, `untagResourceAction`, `listTagsForResourceAction`
* `offsetPage` — a page of a listing
-/

namespace Hiraeth

open Interaction

/-- Decode a payload, with the errors of the service. -/
def parseSnsRequest {Request : Type} (library : SnsLibrary) (declared : List Text)
    (build : AwsQueryParams → Except Text Request) (request : IncomingRequest) :
    Except SnsError Request :=
  (parseAwsQueryRequest library.form declared build request).mapError SnsError.ofQueryParseError

/-- What a delivery draws: a time that is rendered, the time of the message and its id. -/
structure DeliveryGenerated where
  renderedAt : Time
  date : Time
  messageId : Text

/-- What a request draws: a time, the ids of a subscription and of a notification, and what
its deliveries draw. -/
structure SnsGenerated where
  now : Time
  subscriptionId : Text
  messageId : Text
  deliveries : ℕ → DeliveryGenerated

/-! ### Creating a topic -/

structure CreateTopicRequest where
  name : Text
  attributes : AttributeMap
  tags : AttributeMap
  deriving DecidableEq

structure CreateTopicResponse where
  topicArn : Text
  requestId : Text
  deriving DecidableEq

/-- The checks of an attribute of a new topic. -/
def validateTopicAttribute (library : SnsLibrary) (entry : Text × Text) : Except SnsError Unit :=
  if isValidTopicAttribute entry.1 then validateJsonAttribute library entry.1 entry.2
  else .error (unsupportedAttribute entry.1)

/-- The topic of a request. -/
def newTopic (now : Time) (request : ResolvedRequest) (requestBody : CreateTopicRequest) :
    SnsTopic where
  id := 0
  name := requestBody.name
  region := request.region
  accountId := request.accountId
  displayName := requestBody.attributes.get? "DisplayName"
  policy := (requestBody.attributes.get? "Policy").getD "{}"
  deliveryPolicy := requestBody.attributes.get? "DeliveryPolicy"
  fifoTopic := requestBody.attributes.get? "FifoTopic"
  signatureVersion := requestBody.attributes.get? "SignatureVersion"
  tracingConfig := requestBody.attributes.get? "TracingConfig"
  kmsMasterKeyId := requestBody.attributes.get? "KmsMasterKeyId"
  dataProtectionPolicy := requestBody.attributes.get? "DataProtectionPolicy"
  archivePolicy := requestBody.attributes.get? "ArchivePolicy"
  beginningArchiveTime := none
  contentBasedDeduplication := requestBody.attributes.get? "ContentBasedDeduplication"
  createdAt := now

/-- `handle_create_topic_typed`. -/
def handleCreateTopic (now : Time) (request : ResolvedRequest) (requestBody : CreateTopicRequest) :
    ExceptT SnsError SnsProgram CreateTopicResponse := do
  let arn := topicArn request.region request.accountId requestBody.name
  (snsCall (.createTopic (newTopic now request requestBody))).orFail SnsError.ofStoreError
  if requestBody.tags.isEmpty then pure ()
  else (snsCall (.tagTopic arn requestBody.tags.entries)).orFail SnsError.ofStoreError
  return { topicArn := arn, requestId := request.requestId }

/-- `CreateTopicAction`. -/
def createTopicAction (library : SnsLibrary) (generated : SnsGenerated) :
    TypedAwsAction snsStore SnsError CreateTopicRequest CreateTopicResponse where
  name := SnsStoreAction.createTopic.name
  parse := parseSnsRequest library ["Name"] fun params => do
    let others := params.flattened ["Name"]
    return { name := ← params.required "Name"
             attributes := snsAttributes others
             tags := snsTags others }
  validate _ requestBody := do
    liftExcept (validateTopicName requestBody.name (requestBody.attributes.get? "FifoTopic"))
    liftExcept (requestBody.attributes.entries.forM (validateTopicAttribute library))
    liftExcept (Sns.validateTags requestBody.tags true)
  handle := handleCreateTopic generated.now
  resolveAuthorization request _ := return anyTopicCheck .createTopic request

/-! ### Deleting a topic -/

structure DeleteTopicRequest where
  topicArn : Text
  deriving DecidableEq

/-- `handle_delete_topic`. -/
def handleDeleteTopic (request : ResolvedRequest) (requestBody : DeleteTopicRequest) :
    ExceptT SnsError SnsProgram Text := do
  (snsCall (.deleteTopic requestBody.topicArn)).orFail SnsError.ofStoreError
  return request.requestId

/-- `DeleteTopicAction`. -/
def deleteTopicAction (library : SnsLibrary) :
    TypedAwsAction snsStore SnsError DeleteTopicRequest Text where
  name := SnsStoreAction.deleteTopic.name
  parse := parseSnsRequest library ["TopicArn"] fun params => do
    return { topicArn := ← params.required "TopicArn" }
  validate _ requestBody := liftExcept (validateTopicArn requestBody.topicArn "TopicArn")
  handle := handleDeleteTopic
  resolveAuthorization request _ :=
    Sns.resolveAuthorization library (.ofStore .deleteTopic) request

/-! ### Attributes -/

structure GetTopicAttributesRequest where
  topicArn : Text
  deriving DecidableEq

/-- What is answered with attributes: the entries in their order. -/
structure AttributesResponse where
  entries : List (Text × Text)
  requestId : Text
  deriving DecidableEq

/-- `default_topic_policy`. -/
def defaultTopicPolicy (library : SnsLibrary) (topicArn accountId : Text) : Text :=
  library.json.write (.object [
    ("Id", .string "__default_policy_ID"),
    ("Statement", .array [.object [
      ("Action", .array (["SNS:GetTopicAttributes", "SNS:SetTopicAttributes",
        "SNS:AddPermission", "SNS:RemovePermission", "SNS:DeleteTopic", "SNS:Subscribe",
        "SNS:ListSubscriptionsByTopic", "SNS:Publish"].map fun action => .string action)),
      ("Condition", .object [
        ("StringEquals", .object [("AWS:SourceOwner", .string accountId)])]),
      ("Effect", .string "Allow"),
      ("Principal", .object [("AWS", .string "*")]),
      ("Resource", .string topicArn),
      ("Sid", .string "__default_statement_ID")]]),
    ("Version", .string "2008-10-17")])

/-- `topic_policy_attribute_value`. -/
def topicPolicyAttributeValue (library : SnsLibrary) (storedPolicy topicArn accountId : Text) :
    Text :=
  if trim storedPolicy = [] ∨ trim storedPolicy = ("{}" : Text) then
    defaultTopicPolicy library topicArn accountId
  else storedPolicy

/-- An attribute that is reported when it is set. -/
def optionalEntry (key : Text) (value : Option Text) : List (Text × Text) :=
  (value.map fun value => (key, value)).toList

/-- The attributes that are reported of a topic. -/
def topicEntries (library : SnsLibrary) (topic : SnsTopic) : List (Text × Text) :=
  let arn := topicArn topic.region topic.accountId topic.name
  let always : List (Text × Text) := [("TopicArn", arn), ("Owner", topic.accountId),
    ("Policy", topicPolicyAttributeValue library topic.policy arn topic.accountId)]
  always ++
  optionalEntry "DisplayName" topic.displayName ++
  optionalEntry "DeliveryPolicy" topic.deliveryPolicy ++
  optionalEntry "FifoTopic" topic.fifoTopic ++
  optionalEntry "ContentBasedDeduplication" topic.contentBasedDeduplication ++
  optionalEntry "SignatureVersion" topic.signatureVersion ++
  optionalEntry "TracingConfig" topic.tracingConfig ++
  optionalEntry "KmsMasterKeyId" topic.kmsMasterKeyId ++
  optionalEntry "DataProtectionPolicy" topic.dataProtectionPolicy ++
  optionalEntry "ArchivePolicy" topic.archivePolicy ++
  optionalEntry "BeginningArchiveTime" topic.beginningArchiveTime

/-- `handle_get_topic_attributes_typed`. -/
def handleGetTopicAttributes (library : SnsLibrary) (request : ResolvedRequest)
    (requestBody : GetTopicAttributesRequest) : ExceptT SnsError SnsProgram AttributesResponse := do
  let topic ← loadTopic requestBody.topicArn
  return { entries := topicEntries library topic, requestId := request.requestId }

/-- `GetTopicAttributesAction`. -/
def getTopicAttributesAction (library : SnsLibrary) :
    TypedAwsAction snsStore SnsError GetTopicAttributesRequest AttributesResponse where
  name := SnsStoreAction.getTopicAttributes.name
  parse := parseSnsRequest library ["TopicArn"] fun params => do
    return { topicArn := ← params.required "TopicArn" }
  validate _ requestBody := liftExcept (validateTopicArn requestBody.topicArn "TopicArn")
  handle := handleGetTopicAttributes library
  resolveAuthorization request _ :=
    Sns.resolveAuthorization library (.ofStore .getTopicAttributes) request

structure SetTopicAttributesRequest where
  topicArn : Text
  attributeName : Text
  attributeValue : Text
  deriving DecidableEq

/-- `handle_set_topic_attributes`. -/
def handleSetTopicAttributes (request : ResolvedRequest)
    (requestBody : SetTopicAttributesRequest) : ExceptT SnsError SnsProgram Text := do
  let update := SnsTopicAttributeUpdate.fromAttributeNameAndValue requestBody.attributeName
    requestBody.attributeValue
  match parseSnsTopicArn requestBody.topicArn with
  | none => throw (.badRequest "Invalid TopicArn format")
  | some topicId =>
      (snsCall (.setTopicAttributes topicId.accountId topicId.region topicId.name update)).orFail
        SnsError.ofStoreError
      return request.requestId

/-- `SetTopicAttributesAction`. -/
def setTopicAttributesAction (library : SnsLibrary) :
    TypedAwsAction snsStore SnsError SetTopicAttributesRequest Text where
  name := SnsStoreAction.setTopicAttributes.name
  parse := parseSnsRequest library ["TopicArn", "AttributeName", "AttributeValue"]
    fun params => do
      return { topicArn := ← params.required "TopicArn"
               attributeName := ← params.required "AttributeName"
               attributeValue := ← params.required "AttributeValue" }
  validate _ requestBody := do
    liftExcept (validateTopicArn requestBody.topicArn "TopicArn")
    if requestBody.attributeName = [] then throw (.badRequest "AttributeName is required")
    liftExcept (validateJsonAttribute library requestBody.attributeName requestBody.attributeValue)
    if isValidTopicAttribute requestBody.attributeName then return ()
    else throw (unsupportedAttribute requestBody.attributeName)
  handle := handleSetTopicAttributes
  resolveAuthorization request _ :=
    Sns.resolveAuthorization library (.ofStore .setTopicAttributes) request

/-! ### Listing -/

/-- Addition of `usize` in a release build, where it wraps around. -/
def usizeAdd (left right : ℕ) : ℕ :=
  (left + right) % 18446744073709551616

/-- The offset that a token stands for. -/
def offsetOfToken (nextToken : Option Text) : Except SnsError ℕ :=
  match nextToken with
  | none => .ok 0
  | some token =>
      match parseUsize token with
      | some offset => .ok offset
      | none => .error (.badRequest "NextToken is invalid")

/-- The check of a token. -/
def validateNextToken (nextToken : Option Text) : Except SnsError Unit :=
  (offsetOfToken nextToken).map fun _ => ()

/-- A hundred items from an offset on, and the token for the items behind them. -/
def offsetPage {α : Type} (offset : ℕ) (items : List α) : List α × Option Text :=
  let nextOffset := usizeAdd offset 100
  ((items.drop offset).take 100,
    if nextOffset < items.length then some (Nat.toDigits 10 nextOffset) else none)

structure ListTopicsRequest where
  nextToken : Option Text
  deriving DecidableEq

structure ListTopicsResponse where
  topicArns : List Text
  nextToken : Option Text
  requestId : Text
  deriving DecidableEq

/-- `topic_summary`. -/
def topicSummary (topic : SnsTopic) : Text :=
  topicArn topic.region topic.accountId topic.name

/-- `handle_list_topics`. -/
def handleListTopics (request : ResolvedRequest) (requestBody : ListTopicsRequest) :
    ExceptT SnsError SnsProgram ListTopicsResponse := do
  let offset ← liftExcept (offsetOfToken requestBody.nextToken)
  let allTopics ← (snsCall (.listTopics request.region request.accountId none none)).orFail
    SnsError.ofStoreError
  let page := offsetPage offset allTopics
  return { topicArns := page.1.map topicSummary
           nextToken := page.2
           requestId := request.requestId }

/-- `ListTopicsAction`. -/
def listTopicsAction (library : SnsLibrary) :
    TypedAwsAction snsStore SnsError ListTopicsRequest ListTopicsResponse where
  name := SnsStoreAction.listTopics.name
  parse := parseSnsRequest library ["NextToken"] fun params =>
    return { nextToken := params.get "NextToken" }
  validate _ requestBody := liftExcept (validateNextToken requestBody.nextToken)
  handle := handleListTopics
  resolveAuthorization request _ := return anyTopicCheck .listTopics request

/-! ### Tags -/

structure TagResourceRequest where
  resourceArn : Text
  tags : AttributeMap
  deriving DecidableEq

structure UntagResourceRequest where
  resourceArn : Text
  tagKeys : List Text
  deriving DecidableEq

structure ListTagsForResourceRequest where
  resourceArn : Text
  deriving DecidableEq

/-- `handle_tag_resource`. -/
def handleTagResource (request : ResolvedRequest) (requestBody : TagResourceRequest) :
    ExceptT SnsError SnsProgram Text := do
  liftExcept (Sns.validateTags requestBody.tags false)
  let _ ← loadTopic requestBody.resourceArn
  let storedTags ← (snsCall (.listTopicTags requestBody.resourceArn)).orFail SnsError.ofStoreError
  liftExcept (Sns.validateTags (SortedMap.ofList (storedTags ++ requestBody.tags.entries)) true)
  (snsCall (.tagTopic requestBody.resourceArn requestBody.tags.entries)).orFail
    SnsError.ofStoreError
  return request.requestId

/-- `TagResourceAction`. -/
def tagResourceAction (library : SnsLibrary) :
    TypedAwsAction snsStore SnsError TagResourceRequest Text where
  name := SnsStoreAction.tagResource.name
  parse := parseSnsRequest library ["ResourceArn"] fun params => do
    return { resourceArn := ← params.required "ResourceArn"
             tags := snsTags (params.flattened ["ResourceArn"]) }
  validate _ requestBody := do
    liftExcept (validateTopicArn requestBody.resourceArn "ResourceArn")
    liftExcept (Sns.validateTags requestBody.tags false)
  handle := handleTagResource
  resolveAuthorization request _ :=
    Sns.resolveAuthorization library (.ofStore .tagResource) request

/-- `handle_untag_resource`. -/
def handleUntagResource (request : ResolvedRequest) (requestBody : UntagResourceRequest) :
    ExceptT SnsError SnsProgram Text := do
  liftExcept (Sns.validateTagKeys requestBody.tagKeys false)
  let _ ← loadTopic requestBody.resourceArn
  (snsCall (.untagTopic requestBody.resourceArn requestBody.tagKeys)).orFail SnsError.ofStoreError
  return request.requestId

/-- `UntagResourceAction`. -/
def untagResourceAction (library : SnsLibrary) :
    TypedAwsAction snsStore SnsError UntagResourceRequest Text where
  name := SnsStoreAction.untagResource.name
  parse := parseSnsRequest library ["ResourceArn"] fun params => do
    return { resourceArn := ← params.required "ResourceArn"
             tagKeys := snsTagKeys (params.flattened ["ResourceArn"]) }
  validate _ requestBody := do
    liftExcept (validateTopicArn requestBody.resourceArn "ResourceArn")
    liftExcept (Sns.validateTagKeys requestBody.tagKeys false)
  handle := handleUntagResource
  resolveAuthorization request _ :=
    Sns.resolveAuthorization library (.ofStore .untagResource) request

/-- `handle_list_tags_for_resource`. -/
def handleListTagsForResource (request : ResolvedRequest)
    (requestBody : ListTagsForResourceRequest) :
    ExceptT SnsError SnsProgram AttributesResponse := do
  let _ ← loadTopic requestBody.resourceArn
  let tags ← (snsCall (.listTopicTags requestBody.resourceArn)).orFail SnsError.ofStoreError
  return { entries := tags.insertionSort fun left right => left.1 ≤ right.1
           requestId := request.requestId }

/-- `ListTagsForResourceAction`. -/
def listTagsForResourceAction (library : SnsLibrary) :
    TypedAwsAction snsStore SnsError ListTagsForResourceRequest AttributesResponse where
  name := SnsStoreAction.listTagsForResource.name
  parse := parseSnsRequest library ["ResourceArn"] fun params => do
    return { resourceArn := ← params.required "ResourceArn" }
  validate _ requestBody := liftExcept (validateTopicArn requestBody.resourceArn "ResourceArn")
  handle := handleListTagsForResource
  resolveAuthorization request _ :=
    Sns.resolveAuthorization library (.ofStore .listTagsForResource) request

end Hiraeth
