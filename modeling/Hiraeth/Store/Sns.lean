import Hiraeth.Lib.Program
import Hiraeth.Store.Basic

/-!
# The SNS store

The records of the SNS store and the calls the services make on it.

## Main definitions

* `SnsTopic`, `SnsSubscription` — records
* `SnsTopicAttributeUpdate`, `SnsSubscriptionAttributeUpdate` — changes of their attributes
* `SnsCall`, `snsStore` — the calls and the interface they form
-/

namespace Hiraeth

open Interaction

structure SnsTopic where
  id : RowId
  name : Text
  region : Text
  accountId : Text
  displayName : Option Text
  policy : Text
  deliveryPolicy : Option Text
  fifoTopic : Option Text
  signatureVersion : Option Text
  tracingConfig : Option Text
  kmsMasterKeyId : Option Text
  dataProtectionPolicy : Option Text
  archivePolicy : Option Text
  beginningArchiveTime : Option Text
  contentBasedDeduplication : Option Text
  createdAt : Time
  deriving DecidableEq

structure SnsSubscription where
  id : RowId
  topicArn : Text
  protocol : Text
  endpoint : Text
  ownerAccountId : Text
  subscriptionArn : Text
  deliveryPolicy : Option Text
  filterPolicy : Option Text
  filterPolicyScope : Option Text
  rawMessageDelivery : Option Text
  redrivePolicy : Option Text
  subscriptionRoleArn : Option Text
  replayPolicy : Option Text
  createdAt : Time
  deriving DecidableEq

/-- The ARN of a topic. -/
def topicArn (region accountId name : Text) : Text :=
  ("arn:aws:sns:" : Text) ++ region ++ ':' :: accountId ++ ':' :: name

/-! ### Changes of attributes -/

structure SnsSubscriptionAttributeUpdate where
  deliveryPolicy : Option Text
  filterPolicy : Option Text
  filterPolicyScope : Option Text
  rawMessageDelivery : Option Text
  redrivePolicy : Option Text
  subscriptionRoleArn : Option Text
  replayPolicy : Option Text
  deriving DecidableEq

/-- `SnsSubscriptionAttributeUpdate::default`. -/
def SnsSubscriptionAttributeUpdate.default : SnsSubscriptionAttributeUpdate where
  deliveryPolicy := none
  filterPolicy := none
  filterPolicyScope := none
  rawMessageDelivery := none
  redrivePolicy := none
  subscriptionRoleArn := none
  replayPolicy := none

/-- A name that is not known changes nothing. -/
def SnsSubscriptionAttributeUpdate.fromAttributeNameAndValue
    (attributeName attributeValue : Text) : SnsSubscriptionAttributeUpdate :=
  if attributeName = ("DeliveryPolicy" : Text) then
    { default with deliveryPolicy := some attributeValue }
  else if attributeName = ("FilterPolicy" : Text) then
    { default with filterPolicy := some attributeValue }
  else if attributeName = ("FilterPolicyScope" : Text) then
    { default with filterPolicyScope := some attributeValue }
  else if attributeName = ("RawMessageDelivery" : Text) then
    { default with rawMessageDelivery := some attributeValue }
  else if attributeName = ("RedrivePolicy" : Text) then
    { default with redrivePolicy := some attributeValue }
  else if attributeName = ("SubscriptionRoleArn" : Text) then
    { default with subscriptionRoleArn := some attributeValue }
  else if attributeName = ("ReplayPolicy" : Text) then
    { default with replayPolicy := some attributeValue }
  else default

structure SnsTopicAttributeUpdate where
  deliveryPolicy : Option Text
  displayName : Option Text
  policy : Option Text
  tracingConfig : Option Text
  kmsMasterKeyId : Option Text
  signatureVersion : Option Text
  fifoTopic : Option Text
  dataProtectionPolicy : Option Text
  archivePolicy : Option Text
  beginningArchiveTime : Option Text
  contentBasedDeduplication : Option Text
  deriving DecidableEq

/-- `SnsTopicAttributeUpdate::default`. -/
def SnsTopicAttributeUpdate.default : SnsTopicAttributeUpdate where
  deliveryPolicy := none
  displayName := none
  policy := none
  tracingConfig := none
  kmsMasterKeyId := none
  signatureVersion := none
  fifoTopic := none
  dataProtectionPolicy := none
  archivePolicy := none
  beginningArchiveTime := none
  contentBasedDeduplication := none

/-- A name that is not known changes nothing. -/
def SnsTopicAttributeUpdate.fromAttributeNameAndValue (attributeName attributeValue : Text) :
    SnsTopicAttributeUpdate :=
  if attributeName = ("DeliveryPolicy" : Text) then
    { default with deliveryPolicy := some attributeValue }
  else if attributeName = ("DisplayName" : Text) then
    { default with displayName := some attributeValue }
  else if attributeName = ("Policy" : Text) then
    { default with policy := some attributeValue }
  else if attributeName = ("TracingConfig" : Text) then
    { default with tracingConfig := some attributeValue }
  else if attributeName = ("KmsMasterKeyId" : Text) then
    { default with kmsMasterKeyId := some attributeValue }
  else if attributeName = ("SignatureVersion" : Text) then
    { default with signatureVersion := some attributeValue }
  else if attributeName = ("FifoTopic" : Text) then
    { default with fifoTopic := some attributeValue }
  else if attributeName = ("DataProtectionPolicy" : Text) then
    { default with dataProtectionPolicy := some attributeValue }
  else if attributeName = ("ArchivePolicy" : Text) then
    { default with archivePolicy := some attributeValue }
  else if attributeName = ("ContentBasedDeduplication" : Text) then
    { default with contentBasedDeduplication := some attributeValue }
  else default

/-! ### Calls -/

/-- The calls of the SNS store.  The map of tags is given by its entries. -/
inductive SnsCall where
  | createTopic (topic : SnsTopic)
  | getTopic (topicArn : Text)
  | getTopicById (id : RowId)
  | listTopics (region accountId : Text) (start : Option Text) (limit : Option ℤ)
  | deleteTopic (topicArn : Text)
  | createSubscription (subscription : SnsSubscription)
  | getSubscription (subscriptionArn : Text)
  | getSubscriptionById (id : RowId)
  | listSubscriptions (region accountId : Text) (limit : Option ℤ)
  | listSubscriptionsByTopic (topicArn : Text)
  | deleteSubscription (subscriptionArn : Text)
  | deleteSubscriptionById (id : RowId)
  | setSubscriptionAttributes (subscriptionArn : Text) (update : SnsSubscriptionAttributeUpdate)
  | setTopicAttributes (accountId region topicName : Text) (update : SnsTopicAttributeUpdate)
  | listTopicTags (topicArn : Text)
  | tagTopic (topicArn : Text) (tags : List (Text × Text))
  | untagTopic (topicArn : Text) (tagKeys : List Text)
  deriving DecidableEq

/-- What each call is answered with. -/
@[reducible]
def SnsCall.Answer : SnsCall → Type
  | createTopic _ => StoreResult Unit
  | getTopic _ => StoreResult (Option SnsTopic)
  | getTopicById _ => StoreResult (Option SnsTopic)
  | listTopics .. => StoreResult (List SnsTopic)
  | deleteTopic _ => StoreResult Unit
  | createSubscription _ => StoreResult Unit
  | getSubscription _ => StoreResult (Option SnsSubscription)
  | getSubscriptionById _ => StoreResult (Option SnsSubscription)
  | listSubscriptions .. => StoreResult (List SnsSubscription)
  | listSubscriptionsByTopic _ => StoreResult (List SnsSubscription)
  | deleteSubscription _ => StoreResult Unit
  | deleteSubscriptionById _ => StoreResult Unit
  | setSubscriptionAttributes .. => StoreResult Unit
  | setTopicAttributes .. => StoreResult Unit
  | listTopicTags _ => StoreResult (List (Text × Text))
  | tagTopic .. => StoreResult Unit
  | untagTopic .. => StoreResult Unit

/-- The interface of the SNS store. -/
abbrev snsStore : Interface where
  Call := SnsCall
  Answer := SnsCall.Answer

/-- A program over the SNS store. -/
abbrev SnsProgram := Program snsStore

/-- The program that makes one call on the SNS store. -/
def snsCall (request : SnsCall) : SnsProgram request.Answer :=
  @Program.perform snsStore request

end Hiraeth
