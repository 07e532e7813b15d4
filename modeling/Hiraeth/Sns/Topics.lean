import Hiraeth.Sns.Service
import Hiraeth.Sqs.Accepted
import Hiraeth.Store.SnsCalls

/-!
# The topic that a request names

An ARN that the service accepts is the ARN of its parts, and the store finds the same topic
by the one as by the others.

## Main results

* `parseSnsTopicArn_eq_some` — an accepted ARN is determined by its parts
* `succeeds_loadTopic` — the topic that is loaded
* `succeeds_handleSetTopicAttributes` — what setting an attribute does to the store
-/

namespace Hiraeth

open Interaction Program

/-! ### ARNs -/

/-- **An accepted ARN is the ARN of its parts.** -/
theorem parseSnsTopicArn_eq_some {arn : Text} {topicId : TopicId}
    (parsed : parseSnsTopicArn arn = some topicId) :
    arn = topicArn topicId.region topicId.accountId topicId.name ∧
      ':' ∉ topicId.region ∧ ':' ∉ topicId.accountId ∧ ':' ∉ topicId.name := by
  unfold parseSnsTopicArn at parsed
  split at parsed
  · next start aws sns region accountId name parts =>
      split_ifs at parsed with form
      obtain ⟨rfl, rfl, rfl, -⟩ := form
      obtain rfl := Option.some.inj parsed
      have plain {part : Text} (member : part ∈ arn.splitOn ':') : ':' ∉ part :=
        not_mem_of_mem_splitOnP member (beq_self_eq_true _)
      rw [parts] at plain
      have plainRegion : ':' ∉ region := plain (by simp)
      have plainAccount : ':' ∉ accountId := plain (by simp)
      have plainName : ':' ∉ name := plain (by simp)
      refine ⟨?_, plainRegion, plainAccount, plainName⟩
      have joined : [':'].intercalate (arn.splitOn ':') = arn := List.intercalate_splitOn ':'
      rw [← joined, parts, ← SnsDatabase.splitOn_topicArn plainRegion plainAccount plainName,
        List.intercalate_splitOn]
  · exact absurd parsed nofun

variable {database final : SnsDatabase}

/-- An accepted ARN names the topic with its parts. -/
theorem topicOfArn_of_parse {arn : Text} {topicId : TopicId}
    (parsed : parseSnsTopicArn arn = some topicId) :
    database.topicOfArn arn =
      database.selectTopic topicId.name topicId.region topicId.accountId := by
  obtain ⟨rfl, plainRegion, plainAccount, plainName⟩ := parseSnsTopicArn_eq_some parsed
  exact SnsDatabase.topicOfArn_topicArn plainRegion plainAccount plainName

/-! ### Steps of handlers -/

/-- **The topic that is loaded** is the one that the ARN names. -/
theorem succeeds_loadTopic {arn : Text} {topic : SnsTopic} :
    Succeeds SqliteSns.serve (loadTopic arn) database topic final ↔
      database.topicOfArn arn = some topic ∧ database = final := by
  have asked : (snsCall (.getTopic arn)).run SqliteSns.serve database =
      (.ok (database.topicOfArn arn), database) := SqliteSns.run_getTopic arn
  unfold loadTopic findTopic
  rw [succeeds_bind]
  constructor
  · rintro ⟨found, between, answered, succeeds⟩
    obtain ⟨same, rfl⟩ := Prod.mk.inj (asked.symm.trans (succeeds_orFail.mp answered))
    obtain rfl := Except.ok.inj same
    cases isTopic : database.topicOfArn arn with
    | none => rw [isTopic] at succeeds; exact absurd succeeds not_succeeds_throw
    | some other =>
        rw [isTopic] at succeeds
        obtain ⟨rfl, rfl⟩ := succeeds_pure.mp succeeds
        exact ⟨rfl, rfl⟩
  · rintro ⟨found, rfl⟩
    refine ⟨_, _, succeeds_orFail.mpr asked, ?_⟩
    rw [found]
    exact succeeds_pure.mpr ⟨rfl, rfl⟩

/-- **Setting an attribute changes the topic that the ARN names.** -/
theorem succeeds_handleSetTopicAttributes {request : ResolvedRequest}
    {requestBody : SetTopicAttributesRequest} {response : Text} :
    Succeeds SqliteSns.serve (handleSetTopicAttributes request requestBody) database response
        final ↔
      response = request.requestId ∧ ∃ topicId topic,
        parseSnsTopicArn requestBody.topicArn = some topicId ∧
        database.topicOfArn requestBody.topicArn = some topic ∧
        final = (database.updateTopic topic.id (SqliteSns.updatedTopic
          (.fromAttributeNameAndValue requestBody.attributeName requestBody.attributeValue)
          topic.columns)).2 := by
  unfold handleSetTopicAttributes
  cases parsed : parseSnsTopicArn requestBody.topicArn with
  | none => exact iff_of_false not_succeeds_throw (by rintro ⟨-, _, _, same, -⟩; cases same)
  | some topicId =>
      let update := SnsTopicAttributeUpdate.fromAttributeNameAndValue requestBody.attributeName
        requestBody.attributeValue
      have asked := @SqliteSns.serve_setTopicAttributes database topicId.accountId topicId.region
        topicId.name update
      rw [← (parseSnsTopicArn_eq_some parsed).1] at asked
      rw [succeeds_bind]
      constructor
      · rintro ⟨answer, between, answered, succeeds⟩
        obtain ⟨rfl, rfl⟩ := succeeds_pure.mp succeeds
        have ran := succeeds_orFail.mp answered
        have same := asked.symm.trans ran
        cases found : database.topicOfArn requestBody.topicArn with
        | none => rw [found] at same; cases same
        | some topic =>
            rw [found] at same
            exact ⟨rfl, topicId, topic, rfl, rfl, (Prod.mk.inj same).2.symm⟩
      · rintro ⟨rfl, _, topic, -, found, rfl⟩
        rw [found] at asked
        exact ⟨(), _, succeeds_orFail.mpr asked, succeeds_pure.mpr ⟨rfl, rfl⟩⟩

/-- **What is accepted for an attribute.** -/
theorem succeeds_validateSetTopicAttributes {S : Type} {serve : Serve snsStore S} {state last : S}
    {library : SnsLibrary} {request : ResolvedRequest} {requestBody : SetTopicAttributesRequest} :
    Succeeds serve ((setTopicAttributesAction library).validate request requestBody) state ()
        last ↔
      (validateTopicArn requestBody.topicArn "TopicArn" = .ok () ∧
        requestBody.attributeName ≠ [] ∧
        validateJsonAttribute library requestBody.attributeName requestBody.attributeValue =
          .ok () ∧
        isValidTopicAttribute requestBody.attributeName = true) ∧ state = last := by
  unfold setTopicAttributesAction
  dsimp only
  by_cases named : requestBody.attributeName = [] <;>
    by_cases valid : isValidTopicAttribute requestBody.attributeName = true <;>
    simp [named, valid, and_assoc, Unique.exists_iff]

/-- The columns that an update leaves are those of the topic that is found again. -/
theorem topicOfArn_updateTopic {arn : Text} {topic : SnsTopic} {columns : TopicColumns}
    (found : database.topicOfArn arn = some topic) :
    (database.updateTopic topic.id columns).2.topicOfArn arn = some (topic.withColumns columns) := by
  unfold SnsDatabase.topicOfArn at found ⊢
  generalize arn.splitOn ':' = parts at found ⊢
  split at found
  · next _ _ _ region accountId name =>
      let change (row : SnsTopic) : SnsTopic :=
        if row.id = topic.id then row.withColumns columns else row
      have sameParts : SnsDatabase.isTopic name region accountId ∘ change =
          SnsDatabase.isTopic name region accountId := by
        funext row
        show SnsDatabase.isTopic name region accountId (change row) = _
        unfold change
        split <;> rfl
      show (database.topics.rows.map change).find? (SnsDatabase.isTopic name region accountId) = _
      rw [List.find?_map, sameParts]
      rw [show database.topics.rows.find? _ = some topic from found]
      exact congrArg some (if_pos rfl)
  · exact absurd found nofun

/-! ### A topic -/

/-- Libraries as far as the samples need them. -/
def sampleSnsLibrary : SnsLibrary where
  form := plainForm
  sqs := sampleLibrary
  renderTime := fun _ => "2026-01-01T00:00:00+00:00"

/-- A topic with this policy and no other attributes. -/
def ordersTopic (policy : Text) : SnsTopic where
  id := 1
  name := "orders"
  region := "us-east-1"
  accountId := "000000000000"
  displayName := none
  policy := policy
  deliveryPolicy := none
  fifoTopic := none
  signatureVersion := none
  tracingConfig := none
  kmsMasterKeyId := none
  dataProtectionPolicy := none
  archivePolicy := none
  beginningArchiveTime := none
  contentBasedDeduplication := none
  createdAt := 0

def ordersTopicArn : Text := "arn:aws:sns:us-east-1:000000000000:orders"

/-- A store with this topic. -/
def topicStore (policy : Text) : SnsDatabase :=
  (SnsDatabase.empty.insertTopic (ordersTopic policy)).2

/-- A request of a user that is allowed, with this body. -/
def userTask (action : SnsStoreAction) (body : Text) : SnsTask where
  generated := {
    now := 0
    subscriptionId := "s"
    messageId := "m"
    deliveries := fun _ => ⟨0, 0, "d"⟩ }
  decision := fun _ => .allow
  request := userRequest 0 body
  action := action

theorem parseSnsTopicArn_ordersTopicArn : parseSnsTopicArn ordersTopicArn =
    some ⟨"us-east-1", "000000000000", "orders"⟩ := by
  decide +kernel

theorem topicOfArn_topicStore (policy : Text) :
    (topicStore policy).topicOfArn ordersTopicArn = some (ordersTopic policy) := by
  rw [topicOfArn_of_parse parseSnsTopicArn_ordersTopicArn]
  exact congrArg some (rfl : { ordersTopic policy with id := 1 } = _)

end Hiraeth
