import Hiraeth.Core.Text
import Hiraeth.Lib.Glob
import Hiraeth.Lib.Refine
import Hiraeth.Lib.SequenceTable
import Hiraeth.Store.Sns
import Mathlib.Data.List.Sort
import Mathlib.Order.Basic

/-!
# The SNS store in SQLite

The tables behind the SNS store, the statements on them, and the calls of the store, which
are programs of statements.  Between two statements of one call the database may be used by
another.  The tables of topics and of subscriptions have `AUTOINCREMENT`; a subscription
names its topic by a text, to which no foreign key belongs.

## Main definitions

* `SnsStatement`, `snsStatements` — the statements
* `SnsDatabase`, `SnsDatabase.serve` — the tables, and what a statement does to them
* `SqliteSns.perform` — the statements of each call
-/

namespace Hiraeth

open Interaction

/-- A row of `sns_topic_tags`. -/
structure TopicTag where
  topicId : RowId
  key : Text
  value : Text
  deriving DecidableEq

/-- The columns that `UPDATE sns_topics` sets. -/
structure TopicColumns where
  displayName : Option Text
  policy : Text
  deliveryPolicy : Option Text
  signatureVersion : Option Text
  tracingConfig : Option Text
  kmsMasterKeyId : Option Text
  fifoTopic : Option Text
  dataProtectionPolicy : Option Text
  archivePolicy : Option Text
  beginningArchiveTime : Option Text
  contentBasedDeduplication : Option Text
  deriving DecidableEq

/-- The columns that `UPDATE sns_subscriptions` sets. -/
structure SubscriptionColumns where
  deliveryPolicy : Option Text
  filterPolicy : Option Text
  filterPolicyScope : Option Text
  rawMessageDelivery : Option Text
  redrivePolicy : Option Text
  subscriptionRoleArn : Option Text
  replayPolicy : Option Text
  deriving DecidableEq

/-- The statements of the SNS store.  The tags of a topic are written in one
transaction. -/
inductive SnsStatement where
  | insertTopic (topic : SnsTopic)
  | selectTopic (name region accountId : Text)
  | selectTopicById (id : RowId)
  | selectTopics (region accountId : Text) (start : Option Text) (limit : ℤ)
  | deleteTagsOfTopic (name region accountId : Text)
  | deleteTopic (name region accountId : Text)
  | deleteSubscriptionsOfTopic (topicArn : Text)
  | insertSubscription (subscription : SnsSubscription)
  | selectSubscription (subscriptionArn : Text)
  | selectSubscriptionById (id : RowId)
  | selectSubscriptions (ownerAccountId topicArnPattern : Text) (limit : ℤ)
  | selectSubscriptionsOfTopic (topicArn : Text)
  | deleteSubscription (subscriptionArn : Text)
  | deleteSubscriptionById (id : RowId)
  | updateSubscription (id : RowId) (columns : SubscriptionColumns)
  | updateTopic (id : RowId) (columns : TopicColumns)
  | selectTags (topicId : RowId)
  | upsertTags (topicId : RowId) (tags : List (Text × Text))
  | deleteTags (topicId : RowId) (tagKeys : List Text)
  deriving DecidableEq

/-- What each statement is answered with.  A delete is answered with the number of rows
that it affected. -/
@[reducible]
def SnsStatement.Answer : SnsStatement → Type
  | insertTopic _ => StoreResult Unit
  | selectTopic .. => StoreResult (Option SnsTopic)
  | selectTopicById _ => StoreResult (Option SnsTopic)
  | selectTopics .. => StoreResult (List SnsTopic)
  | deleteTagsOfTopic .. => StoreResult ℕ
  | deleteTopic .. => StoreResult ℕ
  | deleteSubscriptionsOfTopic _ => StoreResult ℕ
  | insertSubscription _ => StoreResult Unit
  | selectSubscription _ => StoreResult (Option SnsSubscription)
  | selectSubscriptionById _ => StoreResult (Option SnsSubscription)
  | selectSubscriptions .. => StoreResult (List SnsSubscription)
  | selectSubscriptionsOfTopic _ => StoreResult (List SnsSubscription)
  | deleteSubscription _ => StoreResult ℕ
  | deleteSubscriptionById _ => StoreResult ℕ
  | updateSubscription .. => StoreResult ℕ
  | updateTopic .. => StoreResult ℕ
  | selectTags _ => StoreResult (List (Text × Text))
  | upsertTags .. => StoreResult Unit
  | deleteTags .. => StoreResult Unit

/-- The interface that the statements form. -/
abbrev snsStatements : Interface where
  Call := SnsStatement
  Answer := SnsStatement.Answer

/-- A program of statements. -/
abbrev SnsSqlProgram := Program snsStatements

/-- The program of one statement. -/
def snsStatement (request : SnsStatement) : SnsSqlProgram request.Answer :=
  @Program.perform snsStatements request

/-! ### The tables -/

/-- The tables of the SNS store. -/
structure SnsDatabase where
  topics : SequenceTable SnsTopic SnsTopic.id
  subscriptions : SequenceTable SnsSubscription SnsSubscription.id
  tags : List TopicTag

/-- The columns of a topic that can be set. -/
def SnsTopic.columns (topic : SnsTopic) : TopicColumns where
  displayName := topic.displayName
  policy := topic.policy
  deliveryPolicy := topic.deliveryPolicy
  signatureVersion := topic.signatureVersion
  tracingConfig := topic.tracingConfig
  kmsMasterKeyId := topic.kmsMasterKeyId
  fifoTopic := topic.fifoTopic
  dataProtectionPolicy := topic.dataProtectionPolicy
  archivePolicy := topic.archivePolicy
  beginningArchiveTime := topic.beginningArchiveTime
  contentBasedDeduplication := topic.contentBasedDeduplication

/-- The topic with other columns. -/
def SnsTopic.withColumns (topic : SnsTopic) (columns : TopicColumns) : SnsTopic :=
  { topic with
    displayName := columns.displayName
    policy := columns.policy
    deliveryPolicy := columns.deliveryPolicy
    signatureVersion := columns.signatureVersion
    tracingConfig := columns.tracingConfig
    kmsMasterKeyId := columns.kmsMasterKeyId
    fifoTopic := columns.fifoTopic
    dataProtectionPolicy := columns.dataProtectionPolicy
    archivePolicy := columns.archivePolicy
    beginningArchiveTime := columns.beginningArchiveTime
    contentBasedDeduplication := columns.contentBasedDeduplication }

/-- The columns of a subscription that can be set. -/
def SnsSubscription.columns (subscription : SnsSubscription) : SubscriptionColumns where
  deliveryPolicy := subscription.deliveryPolicy
  filterPolicy := subscription.filterPolicy
  filterPolicyScope := subscription.filterPolicyScope
  rawMessageDelivery := subscription.rawMessageDelivery
  redrivePolicy := subscription.redrivePolicy
  subscriptionRoleArn := subscription.subscriptionRoleArn
  replayPolicy := subscription.replayPolicy

/-- The subscription with other columns. -/
def SnsSubscription.withColumns (subscription : SnsSubscription)
    (columns : SubscriptionColumns) : SnsSubscription :=
  { subscription with
    deliveryPolicy := columns.deliveryPolicy
    filterPolicy := columns.filterPolicy
    filterPolicyScope := columns.filterPolicyScope
    rawMessageDelivery := columns.rawMessageDelivery
    redrivePolicy := columns.redrivePolicy
    subscriptionRoleArn := columns.subscriptionRoleArn
    replayPolicy := columns.replayPolicy }

/-- A character of a `LIKE` pattern. -/
def likeToken (c : Char) : Glob.Token Char :=
  if c = '%' then .many else if c = '_' then .one else .literal c

/-- `LIKE`.  The case of ASCII letters does not matter. -/
def sqlLike (pattern text : Text) : Bool :=
  Glob.isMatch ((toAsciiLowercase pattern).map likeToken) (toAsciiLowercase text)

/-- `i64::MAX`. -/
def i64Max : ℤ :=
  9223372036854775807

namespace SnsDatabase

/-- A store without rows. -/
def empty : SnsDatabase where
  topics := .empty
  subscriptions := .empty
  tags := []

/-! ### Topics -/

/-- The columns that the table of topics has only once. -/
def identity (topic : SnsTopic) : Text × Text × Text :=
  (topic.name, topic.region, topic.accountId)

/-- `WHERE name = ? AND region = ? AND account_id = ?`. -/
def isTopic (name region accountId : Text) (topic : SnsTopic) : Bool :=
  topic.name = name && topic.region = region && topic.accountId = accountId

def selectTopic (database : SnsDatabase) (name region accountId : Text) : Option SnsTopic :=
  database.topics.find (isTopic name region accountId)

def insertTopic (database : SnsDatabase) (topic : SnsTopic) : StoreResult Unit × SnsDatabase :=
  if (database.selectTopic topic.name topic.region topic.accountId).isSome then
    (.error (uniqueViolation
      "sns_topics.name, sns_topics.region, sns_topics.account_id"), database)
  else
    (.ok (), { database with
      topics := database.topics.insert (fun id => { topic with id := id }) fun _ => rfl })

def selectTopics (database : SnsDatabase) (region accountId : Text) (start : Option Text)
    (limit : ℤ) : List SnsTopic :=
  let wanted (topic : SnsTopic) : Bool :=
    topic.region = region && topic.accountId = accountId &&
      start.all fun start => sqlLike (start ++ ['%']) topic.name
  applyLimit limit
    ((database.topics.rows.filter wanted).insertionSort fun left right => left.name ≤ right.name)

/-- The number of a topic that a delete affects. -/
def namesTopic (database : SnsDatabase) (name region accountId : Text) (topicId : RowId) : Bool :=
  database.topics.rows.any fun topic => isTopic name region accountId topic && topic.id = topicId

def deleteTagsOfTopic (database : SnsDatabase) (name region accountId : Text) :
    StoreResult ℕ × SnsDatabase :=
  let doomed (tag : TopicTag) : Bool := database.namesTopic name region accountId tag.topicId
  (.ok (database.tags.countP doomed),
    { database with tags := database.tags.filter fun tag => !doomed tag })

/-- The tags of a topic are deleted with it. -/
def deleteTopic (database : SnsDatabase) (name region accountId : Text) :
    StoreResult ℕ × SnsDatabase :=
  (.ok (database.topics.rows.countP (isTopic name region accountId)), { database with
    topics := database.topics.filter fun topic => !isTopic name region accountId topic
    tags := database.tags.filter fun tag => !database.namesTopic name region accountId tag.topicId })

def updateTopic (database : SnsDatabase) (id : RowId) (columns : TopicColumns) :
    StoreResult ℕ × SnsDatabase :=
  let change (topic : SnsTopic) : SnsTopic :=
    if topic.id = id then topic.withColumns columns else topic
  (.ok (database.topics.rows.countP (·.id = id)), { database with
    topics := database.topics.map change fun topic => by unfold change; split <;> rfl })

/-! ### Subscriptions -/

def insertSubscription (database : SnsDatabase) (subscription : SnsSubscription) :
    StoreResult Unit × SnsDatabase :=
  if database.subscriptions.rows.any (·.subscriptionArn = subscription.subscriptionArn) then
    (.error (uniqueViolation "sns_subscriptions.subscription_arn"), database)
  else
    (.ok (), { database with
      subscriptions :=
        database.subscriptions.insert (fun id => { subscription with id := id }) fun _ => rfl })

def selectSubscription (database : SnsDatabase) (subscriptionArn : Text) :
    Option SnsSubscription :=
  database.subscriptions.find (·.subscriptionArn = subscriptionArn)

def selectSubscriptions (database : SnsDatabase) (ownerAccountId topicArnPattern : Text)
    (limit : ℤ) : List SnsSubscription :=
  let wanted (subscription : SnsSubscription) : Bool :=
    subscription.ownerAccountId = ownerAccountId && sqlLike topicArnPattern subscription.topicArn
  applyLimit limit ((database.subscriptions.rows.filter wanted).insertionSort
    fun left right => left.subscriptionArn ≤ right.subscriptionArn)

/-- Without an order, the index on the ARN of the topic gives the rows by their numbers. -/
def selectSubscriptionsOfTopic (database : SnsDatabase) (topicArn : Text) :
    List SnsSubscription :=
  database.subscriptions.rows.filter (·.topicArn = topicArn)

def deleteSubscriptionsWhere (database : SnsDatabase) (doomed : SnsSubscription → Bool) :
    StoreResult ℕ × SnsDatabase :=
  (.ok (database.subscriptions.rows.countP doomed), { database with
    subscriptions := database.subscriptions.filter fun subscription => !doomed subscription })

def updateSubscription (database : SnsDatabase) (id : RowId) (columns : SubscriptionColumns) :
    StoreResult ℕ × SnsDatabase :=
  let change (subscription : SnsSubscription) : SnsSubscription :=
    if subscription.id = id then subscription.withColumns columns else subscription
  (.ok (database.subscriptions.rows.countP (·.id = id)), { database with
    subscriptions := database.subscriptions.map change fun subscription => by
      unfold change; split <;> rfl })

/-! ### Tags -/

def selectTags (database : SnsDatabase) (topicId : RowId) : List (Text × Text) :=
  ((database.tags.filter (·.topicId = topicId)).map fun tag => (tag.key, tag.value)).insertionSort
    fun left right => left.1 ≤ right.1

/-- `ON CONFLICT(topic_id, key) DO UPDATE`. -/
def upsertTag (tags : List TopicTag) (topicId : RowId) (tag : Text × Text) : List TopicTag :=
  if tags.any fun row => row.topicId = topicId && row.key = tag.1 then
    tags.map fun row =>
      if row.topicId = topicId ∧ row.key = tag.1 then { row with value := tag.2 } else row
  else tags ++ [⟨topicId, tag.1, tag.2⟩]

/-- The transaction ends with the first violated foreign key. -/
def upsertTags (database : SnsDatabase) (topicId : RowId) (tags : List (Text × Text)) :
    StoreResult Unit × SnsDatabase :=
  if tags ≠ [] ∧ ¬ database.topics.rows.any (·.id = topicId) then
    (.error foreignKeyViolation, database)
  else
    (.ok (), { database with
      tags := tags.foldl (fun rows tag => upsertTag rows topicId tag) database.tags })

def deleteTags (database : SnsDatabase) (topicId : RowId) (tagKeys : List Text) :
    StoreResult Unit × SnsDatabase :=
  (.ok (), { database with
    tags := database.tags.filter fun tag =>
      !decide (tag.topicId = topicId ∧ tagKeys.contains tag.key) })

/-! ### The statements -/

/-- What each statement does. -/
def serve : Serve snsStatements SnsDatabase
  | .insertTopic topic, database => database.insertTopic topic
  | .selectTopic name region accountId, database =>
      (.ok (database.selectTopic name region accountId), database)
  | .selectTopicById id, database => (.ok (database.topics.find (·.id = id)), database)
  | .selectTopics region accountId start limit, database =>
      (.ok (database.selectTopics region accountId start limit), database)
  | .deleteTagsOfTopic name region accountId, database =>
      database.deleteTagsOfTopic name region accountId
  | .deleteTopic name region accountId, database => database.deleteTopic name region accountId
  | .deleteSubscriptionsOfTopic topicArn, database =>
      database.deleteSubscriptionsWhere (·.topicArn = topicArn)
  | .insertSubscription subscription, database => database.insertSubscription subscription
  | .selectSubscription subscriptionArn, database =>
      (.ok (database.selectSubscription subscriptionArn), database)
  | .selectSubscriptionById id, database =>
      (.ok (database.subscriptions.find (·.id = id)), database)
  | .selectSubscriptions ownerAccountId topicArnPattern limit, database =>
      (.ok (database.selectSubscriptions ownerAccountId topicArnPattern limit), database)
  | .selectSubscriptionsOfTopic topicArn, database =>
      (.ok (database.selectSubscriptionsOfTopic topicArn), database)
  | .deleteSubscription subscriptionArn, database =>
      database.deleteSubscriptionsWhere (·.subscriptionArn = subscriptionArn)
  | .deleteSubscriptionById id, database => database.deleteSubscriptionsWhere (·.id = id)
  | .updateSubscription id columns, database => database.updateSubscription id columns
  | .updateTopic id columns, database => database.updateTopic id columns
  | .selectTags topicId, database => (.ok (database.selectTags topicId), database)
  | .upsertTags topicId tags, database => database.upsertTags topicId tags
  | .deleteTags topicId tagKeys, database => database.deleteTags topicId tagKeys

end SnsDatabase

/-! ### The calls as programs of statements -/

namespace SqliteSns

/-- A statement whose failure ends the call. -/
def execute {α : Type} (statement : SnsSqlProgram (StoreResult α)) :
    ExceptT StoreError SnsSqlProgram α :=
  ExceptT.mk statement

def topicNotFound : StoreError :=
  .notFound "topic not found"

def subscriptionNotFound : StoreError :=
  .notFound "subscription not found"

/-- `get_topic`.  Only the last three parts of the ARN are read. -/
def getTopic (topicArn : Text) : SnsSqlProgram (StoreResult (Option SnsTopic)) :=
  match topicArn.splitOn ':' with
  | [_, _, _, region, accountId, name] => snsStatement (.selectTopic name region accountId)
  | _ => return .ok none

/-- The topic of an ARN, or an error. -/
def requireTopic (topicArn : Text) : ExceptT StoreError SnsSqlProgram SnsTopic := do
  match ← execute (getTopic topicArn) with
  | some topic => return topic
  | none => throw topicNotFound

/-- `delete_topic`. -/
def deleteTopic (topicArn : Text) : ExceptT StoreError SnsSqlProgram Unit :=
  match topicArn.splitOn ':' with
  | [_, _, _, region, accountId, name] => do
      let _ ← execute (snsStatement (.deleteTagsOfTopic name region accountId))
      let affected ← execute (snsStatement (.deleteTopic name region accountId))
      if affected = 0 then throw topicNotFound
      let _ ← execute (snsStatement (.deleteSubscriptionsOfTopic topicArn))
  | _ => throw topicNotFound

/-- A delete that has to affect a row. -/
def deleteSubscription (statement : SnsSqlProgram (StoreResult ℕ)) :
    ExceptT StoreError SnsSqlProgram Unit := do
  let affected ← execute statement
  if affected = 0 then throw subscriptionNotFound

/-- The columns of a subscription after an update. -/
def updatedSubscription (update : SnsSubscriptionAttributeUpdate)
    (columns : SubscriptionColumns) : SubscriptionColumns where
  deliveryPolicy := update.deliveryPolicy.or columns.deliveryPolicy
  filterPolicy := update.filterPolicy.or columns.filterPolicy
  filterPolicyScope := update.filterPolicyScope.or columns.filterPolicyScope
  rawMessageDelivery := update.rawMessageDelivery.or columns.rawMessageDelivery
  redrivePolicy := update.redrivePolicy.or columns.redrivePolicy
  subscriptionRoleArn := update.subscriptionRoleArn.or columns.subscriptionRoleArn
  replayPolicy := update.replayPolicy.or columns.replayPolicy

/-- `set_subscription_attributes`: the row is read, and then written as a whole. -/
def setSubscriptionAttributes (subscriptionArn : Text) (update : SnsSubscriptionAttributeUpdate) :
    ExceptT StoreError SnsSqlProgram Unit := do
  match ← execute (snsStatement (.selectSubscription subscriptionArn)) with
  | none => throw subscriptionNotFound
  | some subscription =>
      let _ ← execute (snsStatement (.updateSubscription subscription.id
        (updatedSubscription update subscription.columns)))

/-- The columns of a topic after an update. -/
def updatedTopic (update : SnsTopicAttributeUpdate) (columns : TopicColumns) : TopicColumns where
  displayName := update.displayName.or columns.displayName
  policy := update.policy.getD columns.policy
  deliveryPolicy := update.deliveryPolicy.or columns.deliveryPolicy
  signatureVersion := update.signatureVersion.or columns.signatureVersion
  tracingConfig := update.tracingConfig.or columns.tracingConfig
  kmsMasterKeyId := update.kmsMasterKeyId.or columns.kmsMasterKeyId
  fifoTopic := update.fifoTopic.or columns.fifoTopic
  dataProtectionPolicy := update.dataProtectionPolicy.or columns.dataProtectionPolicy
  archivePolicy := update.archivePolicy.or columns.archivePolicy
  beginningArchiveTime := update.beginningArchiveTime.or columns.beginningArchiveTime
  contentBasedDeduplication :=
    update.contentBasedDeduplication.or columns.contentBasedDeduplication

/-- `set_topic_attributes`: the row is read, and then written as a whole. -/
def setTopicAttributes (accountId region topicName : Text) (update : SnsTopicAttributeUpdate) :
    ExceptT StoreError SnsSqlProgram Unit := do
  let topic ← requireTopic (topicArn region accountId topicName)
  let _ ← execute (snsStatement (.updateTopic topic.id (updatedTopic update topic.columns)))

/-- The statements of each call. -/
def perform : (call : SnsCall) → SnsSqlProgram call.Answer
  | .createTopic topic => snsStatement (.insertTopic topic)
  | .getTopic topicArn => getTopic topicArn
  | .getTopicById id => snsStatement (.selectTopicById id)
  | .listTopics region accountId start limit =>
      snsStatement (.selectTopics region accountId start (limit.getD i64Max))
  | .deleteTopic topicArn => (deleteTopic topicArn).run
  | .createSubscription subscription => snsStatement (.insertSubscription subscription)
  | .getSubscription subscriptionArn => snsStatement (.selectSubscription subscriptionArn)
  | .getSubscriptionById id => snsStatement (.selectSubscriptionById id)
  | .listSubscriptions region accountId limit =>
      snsStatement (.selectSubscriptions accountId (topicArn region accountId ['%'])
        (limit.getD i64Max))
  | .listSubscriptionsByTopic topicArn => snsStatement (.selectSubscriptionsOfTopic topicArn)
  | .deleteSubscription subscriptionArn =>
      (deleteSubscription (snsStatement (.deleteSubscription subscriptionArn))).run
  | .deleteSubscriptionById id =>
      (deleteSubscription (snsStatement (.deleteSubscriptionById id))).run
  | .setSubscriptionAttributes subscriptionArn update =>
      (setSubscriptionAttributes subscriptionArn update).run
  | .setTopicAttributes accountId region topicName update =>
      (setTopicAttributes accountId region topicName update).run
  | .listTopicTags topicArn => ExceptT.run do
      let topic ← requireTopic topicArn
      execute (snsStatement (.selectTags topic.id))
  | .tagTopic topicArn tags => ExceptT.run do
      let topic ← requireTopic topicArn
      execute (snsStatement (.upsertTags topic.id tags))
  | .untagTopic topicArn tagKeys => ExceptT.run do
      let topic ← requireTopic topicArn
      execute (snsStatement (.deleteTags topic.id tagKeys))

end SqliteSns

end Hiraeth
