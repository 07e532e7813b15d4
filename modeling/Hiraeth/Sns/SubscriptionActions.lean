import Hiraeth.Sns.TopicActions

/-!
# Actions on subscriptions

Subscribing to a topic and ending a subscription, reading and setting the attributes of a
subscription, and listing subscriptions.

## Main definitions

* `subscribeAction`, `unsubscribeAction`
* `getSubscriptionAttributesAction`, `setSubscriptionAttributesAction`
* `listSubscriptionsAction`, `listSubscriptionsByTopicAction`
-/

namespace Hiraeth

open Interaction

/-! ### Subscribing -/

structure SubscribeRequest where
  topicArn : Text
  protocol : Text
  endpoint : Text
  attributes : AttributeMap
  deriving DecidableEq

structure SubscribeResponse where
  subscriptionArn : Text
  requestId : Text
  deriving DecidableEq

/-- The checks of an attribute of a new subscription. -/
def validateSubscriptionAttribute (library : SnsLibrary) (entry : Text × Text) :
    Except SnsError Unit := do
  if isValidSubscriptionAttribute entry.1 then
    validateJsonAttribute library entry.1 entry.2
    if entry.1 = ("RawMessageDelivery" : Text) then validateRawMessageDelivery entry.2
    else return ()
  else throw (unsupportedAttribute entry.1)

/-- The subscription of a request. -/
def newSubscription (generated : SnsGenerated) (request : ResolvedRequest)
    (requestBody : SubscribeRequest) (topic : SnsTopic) : SnsSubscription where
  id := 0
  topicArn := requestBody.topicArn
  protocol := requestBody.protocol
  endpoint := requestBody.endpoint
  ownerAccountId := request.accountId
  subscriptionArn :=
    topicArn topic.region topic.accountId topic.name ++ ':' :: generated.subscriptionId
  deliveryPolicy := requestBody.attributes.get? "DeliveryPolicy"
  filterPolicy := requestBody.attributes.get? "FilterPolicy"
  filterPolicyScope := requestBody.attributes.get? "FilterPolicyScope"
  rawMessageDelivery := requestBody.attributes.get? "RawMessageDelivery"
  redrivePolicy := requestBody.attributes.get? "RedrivePolicy"
  subscriptionRoleArn := requestBody.attributes.get? "SubscriptionRoleArn"
  replayPolicy := requestBody.attributes.get? "ReplayPolicy"
  createdAt := generated.now

/-- `handle_subscribe_typed`. -/
def handleSubscribe (generated : SnsGenerated) (request : ResolvedRequest)
    (requestBody : SubscribeRequest) : ExceptT SnsError SnsProgram SubscribeResponse := do
  let found ← (snsCall (.getTopic requestBody.topicArn)).orFail fun error =>
    SnsError.internalError error.display
  match found with
  | none => throw .topicNotFound
  | some topic =>
      if requestBody.protocol ≠ ("sqs" : Text) then
        throw (.badRequest (("Protocol '" : Text) ++ requestBody.protocol ++
          "' is not supported in this slice".toList))
      let subscription := newSubscription generated request requestBody topic
      (snsCall (.createSubscription subscription)).orFail SnsError.ofStoreError
      return { subscriptionArn := subscription.subscriptionArn, requestId := request.requestId }

/-- `SubscribeAction`. -/
def subscribeAction (library : SnsLibrary) (generated : SnsGenerated) :
    TypedAwsAction snsStore SnsError SubscribeRequest SubscribeResponse where
  name := SnsStoreAction.subscribe.name
  parse := parseSnsRequest library ["TopicArn", "Protocol", "Endpoint"] fun params => do
    return { topicArn := ← params.required "TopicArn"
             protocol := ← params.required "Protocol"
             endpoint := ← params.required "Endpoint"
             attributes :=
               snsAttributes (params.flattened ["TopicArn", "Protocol", "Endpoint"]) }
  validate _ requestBody := do
    liftExcept (validateTopicArn requestBody.topicArn "TopicArn")
    if requestBody.protocol = [] then throw (.badRequest "Protocol is required")
    if requestBody.endpoint = [] then throw (.badRequest "Endpoint is required")
    liftExcept (requestBody.attributes.entries.forM (validateSubscriptionAttribute library))
  handle := handleSubscribe generated
  resolveAuthorization request _ :=
    Sns.resolveAuthorization library (.ofStore .subscribe) request

/-! ### Ending a subscription -/

structure UnsubscribeRequest where
  subscriptionArn : Text
  deriving DecidableEq

/-- The subscription of an ARN, which has to exist. -/
def loadSubscription (subscriptionArn : Text) : ExceptT SnsError SnsProgram SnsSubscription := do
  let found ← (snsCall (.getSubscription subscriptionArn)).orFail SnsError.ofStoreError
  match found with
  | some subscription => return subscription
  | none => throw .subscriptionNotFound

/-- `handle_unsubscribe`. -/
def handleUnsubscribe (request : ResolvedRequest) (requestBody : UnsubscribeRequest) :
    ExceptT SnsError SnsProgram Text := do
  let _ ← loadSubscription requestBody.subscriptionArn
  (snsCall (.deleteSubscription requestBody.subscriptionArn)).orFail
    SnsError.ofSubscriptionStoreError
  return request.requestId

/-- `UnsubscribeAction`. -/
def unsubscribeAction (library : SnsLibrary) :
    TypedAwsAction snsStore SnsError UnsubscribeRequest Text where
  name := SnsStoreAction.unsubscribe.name
  parse := parseSnsRequest library ["SubscriptionArn"] fun params => do
    return { subscriptionArn := ← params.required "SubscriptionArn" }
  validate _ requestBody := liftExcept (validateSubscriptionArn requestBody.subscriptionArn)
  handle := handleUnsubscribe
  resolveAuthorization request _ :=
    Sns.resolveAuthorization library (.ofStore .unsubscribe) request

/-! ### Attributes -/

structure GetSubscriptionAttributesRequest where
  subscriptionArn : Text
  deriving DecidableEq

/-- The attributes that are reported of a subscription. -/
def subscriptionEntries (subscription : SnsSubscription) : List (Text × Text) :=
  let always : List (Text × Text) := [
    ("SubscriptionArn", subscription.subscriptionArn), ("TopicArn", subscription.topicArn),
    ("Owner", subscription.ownerAccountId), ("Protocol", subscription.protocol),
    ("Endpoint", subscription.endpoint), ("PendingConfirmation", "false"),
    ("ConfirmationWasAuthenticated", "true"),
    ("RawMessageDelivery", subscription.rawMessageDelivery.getD "false")]
  always ++
  optionalEntry "DeliveryPolicy" subscription.deliveryPolicy ++
  optionalEntry "FilterPolicy" subscription.filterPolicy ++
  optionalEntry "FilterPolicyScope" subscription.filterPolicyScope ++
  optionalEntry "RedrivePolicy" subscription.redrivePolicy ++
  optionalEntry "SubscriptionRoleArn" subscription.subscriptionRoleArn ++
  optionalEntry "ReplayPolicy" subscription.replayPolicy

/-- `handle_get_subscription_attributes`. -/
def handleGetSubscriptionAttributes (request : ResolvedRequest)
    (requestBody : GetSubscriptionAttributesRequest) :
    ExceptT SnsError SnsProgram AttributesResponse := do
  let subscription ← loadSubscription requestBody.subscriptionArn
  return { entries := subscriptionEntries subscription, requestId := request.requestId }

/-- `GetSubscriptionAttributesAction`. -/
def getSubscriptionAttributesAction (library : SnsLibrary) :
    TypedAwsAction snsStore SnsError GetSubscriptionAttributesRequest AttributesResponse where
  name := SnsStoreAction.getSubscriptionAttributes.name
  parse := parseSnsRequest library ["SubscriptionArn"] fun params => do
    return { subscriptionArn := ← params.required "SubscriptionArn" }
  validate _ requestBody := liftExcept (validateSubscriptionArn requestBody.subscriptionArn)
  handle := handleGetSubscriptionAttributes
  resolveAuthorization request _ :=
    Sns.resolveAuthorization library (.ofStore .getSubscriptionAttributes) request

structure SetSubscriptionAttributesRequest where
  subscriptionArn : Text
  attributeName : Text
  attributeValue : Text
  deriving DecidableEq

/-- `handle_set_subscription_attributes`. -/
def handleSetSubscriptionAttributes (request : ResolvedRequest)
    (requestBody : SetSubscriptionAttributesRequest) : ExceptT SnsError SnsProgram Text := do
  let update := SnsSubscriptionAttributeUpdate.fromAttributeNameAndValue
    requestBody.attributeName requestBody.attributeValue
  (snsCall (.setSubscriptionAttributes requestBody.subscriptionArn update)).orFail
    SnsError.ofSubscriptionStoreError
  return request.requestId

/-- `SetSubscriptionAttributesAction`. -/
def setSubscriptionAttributesAction (library : SnsLibrary) :
    TypedAwsAction snsStore SnsError SetSubscriptionAttributesRequest Text where
  name := SnsStoreAction.setSubscriptionAttributes.name
  parse := parseSnsRequest library ["SubscriptionArn", "AttributeName", "AttributeValue"]
    fun params => do
      return { subscriptionArn := ← params.required "SubscriptionArn"
               attributeName := ← params.required "AttributeName"
               attributeValue := ← params.required "AttributeValue" }
  validate _ requestBody := do
    liftExcept (validateSubscriptionArn requestBody.subscriptionArn)
    if requestBody.attributeName = [] then throw (.badRequest "AttributeName is required")
    liftExcept (validateSubscriptionAttribute library
      (requestBody.attributeName, requestBody.attributeValue))
  handle := handleSetSubscriptionAttributes
  resolveAuthorization request _ :=
    Sns.resolveAuthorization library (.ofStore .setSubscriptionAttributes) request

/-! ### Listing -/

structure ListSubscriptionsRequest where
  nextToken : Option Text
  deriving DecidableEq

structure ListSubscriptionsByTopicRequest where
  topicArn : Text
  nextToken : Option Text
  deriving DecidableEq

structure SubscriptionSummary where
  subscriptionArn : Text
  owner : Text
  protocol : Text
  endpoint : Text
  topicArn : Text
  deriving DecidableEq

/-- `subscription_summary`. -/
def subscriptionSummary (subscription : SnsSubscription) : SubscriptionSummary where
  subscriptionArn := subscription.subscriptionArn
  owner := subscription.ownerAccountId
  protocol := subscription.protocol
  endpoint := subscription.endpoint
  topicArn := subscription.topicArn

structure ListSubscriptionsResponse where
  subscriptions : List SubscriptionSummary
  nextToken : Option Text
  requestId : Text
  deriving DecidableEq

/-- `handle_list_subscriptions`. -/
def handleListSubscriptions (request : ResolvedRequest) (requestBody : ListSubscriptionsRequest) :
    ExceptT SnsError SnsProgram ListSubscriptionsResponse := do
  let offset ← liftExcept (offsetOfToken requestBody.nextToken)
  let allSubscriptions ← (snsCall (.listSubscriptions request.region request.accountId none)).orFail
    SnsError.ofStoreError
  let page := offsetPage offset allSubscriptions
  return { subscriptions := page.1.map subscriptionSummary
           nextToken := page.2
           requestId := request.requestId }

/-- `ListSubscriptionsAction`. -/
def listSubscriptionsAction (library : SnsLibrary) :
    TypedAwsAction snsStore SnsError ListSubscriptionsRequest ListSubscriptionsResponse where
  name := SnsStoreAction.listSubscriptions.name
  parse := parseSnsRequest library ["NextToken"] fun params =>
    return { nextToken := params.get "NextToken" }
  validate _ requestBody := liftExcept (validateNextToken requestBody.nextToken)
  handle := handleListSubscriptions
  resolveAuthorization request _ := return anyTopicCheck .listSubscriptions request

/-- `handle_list_subscriptions_by_topic`. -/
def handleListSubscriptionsByTopic (request : ResolvedRequest)
    (requestBody : ListSubscriptionsByTopicRequest) :
    ExceptT SnsError SnsProgram ListSubscriptionsResponse := do
  let offset ← liftExcept (offsetOfToken requestBody.nextToken)
  let _ ← loadTopic requestBody.topicArn
  let allSubscriptions ← (snsCall (.listSubscriptionsByTopic requestBody.topicArn)).orFail
    SnsError.ofStoreError
  let page := offsetPage offset allSubscriptions
  return { subscriptions := page.1.map subscriptionSummary
           nextToken := page.2
           requestId := request.requestId }

/-- `ListSubscriptionsByTopicAction`. -/
def listSubscriptionsByTopicAction (library : SnsLibrary) :
    TypedAwsAction snsStore SnsError ListSubscriptionsByTopicRequest
      ListSubscriptionsResponse where
  name := SnsStoreAction.listSubscriptionsByTopic.name
  parse := parseSnsRequest library ["TopicArn", "NextToken"] fun params => do
    return { topicArn := ← params.required "TopicArn", nextToken := params.get "NextToken" }
  validate _ requestBody := do
    liftExcept (validateTopicArn requestBody.topicArn "TopicArn")
    liftExcept (validateNextToken requestBody.nextToken)
  handle := handleListSubscriptionsByTopic
  resolveAuthorization request _ :=
    Sns.resolveAuthorization library (.ofStore .listSubscriptionsByTopic) request

end Hiraeth
