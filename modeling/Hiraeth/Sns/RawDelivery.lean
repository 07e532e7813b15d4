import Hiraeth.Sns.Delivery
import Hiraeth.Sns.TopicAttributes

/-!
# Raw delivery

A subscription is given a spelling of true or false, which is stored as it was given.  A
publication compares it with one of the three spellings of true.

## Main definitions

* `SpellsRawDelivery` — a request gave a subscription a spelling
* `BodyFollows` — what is delivered is what the spelling says

## Main results

* `rawDelivery_follows_iff` — it is, exactly when a spelling of true is the one compared with
* `rawDelivery_does_not_follow` — for another spelling it is not
-/

namespace Hiraeth

open Interaction Program

/-- The spelling denotes true. -/
def DenotesTrue (spelling : Text) : Prop :=
  toAsciiLowercase spelling = ("true" : Text)

/-- **What is delivered is what the spelling says**: the message itself, or an object whose
member of that name is the message. -/
def BodyFollows (library : SnsLibrary) (spelling message body : Text) : Prop :=
  (DenotesTrue spelling → body = message) ∧
    (¬ DenotesTrue spelling → ∃ json, library.json.read body.utf8 = .ok json ∧
      json.isObject ∧ json.get "Message" = some (.string message))

/-- **A request gave a subscription a spelling**: it created the subscription with it, or
set the attribute to it. -/
inductive SpellsRawDelivery (library : SnsLibrary) (database final : SnsDatabase)
    (subscriptionArn spelling : Text) : Prop
  | subscribed {generated : SnsGenerated} {request : ResolvedRequest} {payload : SubscribeRequest}
      {response : SubscribeResponse}
      (accepted : (subscribeAction library generated).Accepts request payload)
      (handled : Succeeds SqliteSns.serve (handleSubscribe generated request payload) database
        response final)
      (named : response.subscriptionArn = subscriptionArn)
      (given : payload.attributes.get? "RawMessageDelivery" = some spelling) :
      SpellsRawDelivery library database final subscriptionArn spelling
  | changed {request : ResolvedRequest} {payload : SetSubscriptionAttributesRequest}
      {response : Text}
      (accepted : (setSubscriptionAttributesAction library).Accepts request payload)
      (handled : Succeeds SqliteSns.serve (handleSetSubscriptionAttributes request payload)
        database response final)
      (named : payload.subscriptionArn = subscriptionArn)
      (isName : payload.attributeName = ("RawMessageDelivery" : Text))
      (given : payload.attributeValue = spelling) :
      SpellsRawDelivery library database final subscriptionArn spelling

/-! ### What is stored -/

variable {library : SnsLibrary} {database final : SnsDatabase}

/-- A subscription that was added is found by its ARN. -/
theorem insertSubscription_eq_ok {subscription : SnsSubscription}
    (inserted : database.insertSubscription subscription = (.ok (), final)) :
    ∃ id, final.selectSubscription subscription.subscriptionArn =
      some { subscription with id := id } := by
  unfold SnsDatabase.insertSubscription at inserted
  by_cases taken : database.subscriptions.rows.any
      (·.subscriptionArn = subscription.subscriptionArn) = true
  · rw [if_pos taken] at inserted
    cases inserted
  rw [if_neg taken] at inserted
  obtain rfl := (Prod.mk.inj inserted).2
  have absent : database.subscriptions.rows.find?
      (·.subscriptionArn = subscription.subscriptionArn) = none := by
    refine List.find?_eq_none.mpr fun row member same => taken ?_
    exact List.any_eq_true.mpr ⟨row, member, same⟩
  refine ⟨database.subscriptions.issued + 1, ?_⟩
  show (database.subscriptions.rows ++ [_]).find? _ = _
  rw [List.find?_append, absent, Option.none_or]
  exact List.find?_cons_of_pos (decide_eq_true rfl)

/-- **A subscription that was created is found**, as it was made. -/
theorem succeeds_handleSubscribe {generated : SnsGenerated} {request : ResolvedRequest}
    {payload : SubscribeRequest} {response : SubscribeResponse}
    (succeeds : Succeeds SqliteSns.serve (handleSubscribe generated request payload) database
      response final) :
    ∃ topic id, response.subscriptionArn =
        (newSubscription generated request payload topic).subscriptionArn ∧
      final.selectSubscription response.subscriptionArn =
        some { newSubscription generated request payload topic with id := id } := by
  unfold handleSubscribe at succeeds
  obtain ⟨found, between, asked, rest⟩ := succeeds_bind.mp succeeds
  have answered := succeeds_orFail.mp asked
  have same := (SqliteSns.run_getTopic payload.topicArn).symm.trans answered
  obtain rfl := (Prod.mk.inj same).2
  cases found with
  | none => exact absurd rest not_succeeds_throw
  | some topic =>
      by_cases protocol : payload.protocol = ("sqs" : Text)
      · dsimp only at rest
        rw [if_neg (not_not.mpr protocol)] at rest
        obtain ⟨⟨⟩, after, created, answers⟩ := succeeds_bind.mp rest
        obtain ⟨rfl, rfl⟩ := succeeds_pure.mp answers
        obtain ⟨id, isFound⟩ := insertSubscription_eq_ok (succeeds_orFail.mp created)
        exact ⟨topic, id, rfl, isFound⟩
      · dsimp only at rest
        rw [if_pos protocol] at rest
        obtain ⟨_, _, throws, -⟩ := succeeds_bind.mp rest
        exact absurd throws not_succeeds_throw

/-- The row that an update of a subscription leaves. -/
theorem selectSubscription_updateSubscription {arn : Text} {subscription : SnsSubscription}
    {columns : SubscriptionColumns}
    (found : database.selectSubscription arn = some subscription) :
    (database.updateSubscription subscription.id columns).2.selectSubscription arn =
      some (subscription.withColumns columns) := by
  let change (row : SnsSubscription) : SnsSubscription :=
    if row.id = subscription.id then row.withColumns columns else row
  have sameArn : (fun row : SnsSubscription => decide (row.subscriptionArn = arn)) ∘ change =
      fun row => decide (row.subscriptionArn = arn) := by
    funext row
    show decide ((change row).subscriptionArn = arn) = _
    unfold change
    split <;> rfl
  show (database.subscriptions.rows.map change).find? _ = _
  rw [List.find?_map, sameArn]
  rw [show database.subscriptions.rows.find? _ = some subscription from found]
  exact congrArg some (if_pos rfl)

/-- The column that an update sets. -/
theorem rawMessageDelivery_fromAttributeNameAndValue (value : Text) :
    SnsSubscriptionAttributeUpdate.fromAttributeNameAndValue "RawMessageDelivery" value =
      { SnsSubscriptionAttributeUpdate.default with rawMessageDelivery := some value } := by
  unfold SnsSubscriptionAttributeUpdate.fromAttributeNameAndValue
  rw [if_neg (by decide +kernel), if_neg (by decide +kernel), if_neg (by decide +kernel),
    if_pos rfl]

/-- A subscription whose attribute was set is found with the value. -/
theorem succeeds_handleSetSubscriptionAttributes {request : ResolvedRequest}
    {payload : SetSubscriptionAttributesRequest} {response : Text}
    (succeeds : Succeeds SqliteSns.serve (handleSetSubscriptionAttributes request payload) database
      response final) :
    ∃ subscription : SnsSubscription, final.selectSubscription payload.subscriptionArn =
      some (subscription.withColumns (SqliteSns.updatedSubscription
        (.fromAttributeNameAndValue payload.attributeName payload.attributeValue)
        subscription.columns)) := by
  unfold handleSetSubscriptionAttributes at succeeds
  obtain ⟨⟨⟩, between, updated, answers⟩ := succeeds_bind.mp succeeds
  obtain ⟨-, rfl⟩ := succeeds_pure.mp answers
  have ran := succeeds_orFail.mp updated
  have same := SqliteSns.serve_setSubscriptionAttributes.symm.trans ran
  cases found : database.selectSubscription payload.subscriptionArn with
  | none => rw [found] at same; cases same
  | some subscription =>
      rw [found] at same
      obtain rfl := (Prod.mk.inj same).2
      exact ⟨subscription, selectSubscription_updateSubscription found⟩

/-- **The spelling is stored as it was given.** -/
theorem SpellsRawDelivery.stored {subscriptionArn spelling : Text}
    (spells : SpellsRawDelivery library database final subscriptionArn spelling) :
    ∃ subscription, final.selectSubscription subscriptionArn = some subscription ∧
      subscription.rawMessageDelivery = some spelling := by
  cases spells with
  | subscribed accepted handled named given =>
      obtain ⟨topic, id, -, found⟩ := succeeds_handleSubscribe handled
      exact ⟨_, named ▸ found, given⟩
  | @changed request payload response accepted handled named isName given =>
      obtain ⟨subscription, found⟩ := succeeds_handleSetSubscriptionAttributes handled
      rw [isName, given, rawMessageDelivery_fromAttributeNameAndValue] at found
      exact ⟨_, named ▸ found, rfl⟩

/-! ### What is delivered -/

/-- What is written for a notification can be read, and is longer than the message in it. -/
structure JsonLibrary.WritesNotification (library : JsonLibrary) (json : Json) (message : Text) :
    Prop where
  roundTrips : library.RoundTrips json
  longer : message.length < (library.write json).length

variable {mode : AuthorizationMode} {drawn : SnsGenerated} {topic : SnsTopic}
  {requestBody : PublishRequest} {subscription : SnsSubscription} {message : SqsMessage}

/-- The message of a notification is found under its name. -/
theorem get_notification (renderedAt : Time) (notificationId : Text) :
    (notification library renderedAt topic notificationId requestBody).get "Message" =
      some (.string requestBody.message) := by
  have others : ("Message" : Text) ≠ "Type" ∧ ("Message" : Text) ≠ "TopicArn" ∧
      ("Message" : Text) ≠ "Timestamp" ∧ ("Message" : Text) ≠ "Subject" ∧
      ("Message" : Text) ≠ "MessageId" := by
    decide +kernel
  obtain ⟨type, arn, timestamp, subject, id⟩ := others
  unfold notification Json.get
  simp only [List.reverse_cons, List.reverse_nil, List.nil_append, List.cons_append]
  rw [List.lookup_cons, beq_false_of_ne type, List.lookup_cons, beq_false_of_ne arn,
    List.lookup_cons, beq_false_of_ne timestamp, List.lookup_cons, beq_false_of_ne subject,
    List.lookup_cons, beq_false_of_ne id, List.lookup_cons, beq_self_eq_true]

/-- What is delivered for a spelling that is stored. -/
theorem bodyFollows_iff {spelling body : Text}
    (stored : subscription.rawMessageDelivery = some spelling) {renderedAt : Time}
    (writes : library.json.WritesNotification
      (notification library renderedAt topic drawn.messageId requestBody) requestBody.message)
    (delivered : body =
      deliveryBody library renderedAt subscription topic drawn.messageId requestBody) :
    BodyFollows library spelling requestBody.message body ↔
      (DenotesTrue spelling → spelling = ("true" : Text)) := by
  subst delivered
  unfold deliveryBody
  rw [stored]
  by_cases compared : spelling = ("true" : Text)
  · have denotes : DenotesTrue spelling := by
      unfold DenotesTrue
      rw [compared]
      decide +kernel
    rw [if_pos (congrArg some compared)]
    exact iff_of_true ⟨fun _ => rfl, fun other => absurd denotes other⟩ fun _ => compared
  · rw [if_neg fun same => compared (Option.some.inj same)]
    constructor
    · rintro ⟨verbatim, -⟩ denotes
      exact absurd (congrArg List.length (verbatim denotes)) writes.longer.ne'
    · intro only
      exact ⟨fun denotes => absurd (only denotes) compared, fun _ =>
        ⟨_, writes.roundTrips.readsBack, rfl, get_notification renderedAt drawn.messageId⟩⟩

/-- **Raw delivery follows the spelling** that a request gave a subscription, exactly when
the spelling is `true` if it denotes true.  The spelling is stored, and every message that a
publication sends for the subscription has the body that the spelling says. -/
theorem rawDelivery_follows_iff {subscriptionArn spelling : Text}
    (spells : SpellsRawDelivery library database final subscriptionArn spelling) :
    ∃ subscription, final.selectSubscription subscriptionArn = some subscription ∧
      subscription.rawMessageDelivery = some spelling ∧
      ∀ {mode : AuthorizationMode} {drawn : SnsGenerated} {topic : SnsTopic}
        {requestBody : PublishRequest} {message : SqsMessage},
        (∀ renderedAt, library.json.WritesNotification
          (notification library renderedAt topic drawn.messageId requestBody)
          requestBody.message) →
        SentFor library mode drawn topic requestBody subscription message →
        (BodyFollows library spelling requestBody.message message.body ↔
          (DenotesTrue spelling → spelling = ("true" : Text))) := by
  obtain ⟨subscription, found, stored⟩ := spells.stored
  refine ⟨subscription, found, stored, fun writes sent => ?_⟩
  obtain ⟨renderedAt, delivered⟩ := sent.body_eq
  exact bodyFollows_iff stored (writes renderedAt) delivered

/-! ### Two spellings of true -/

/-- A publication on the topic. -/
def helloPublication : PublishRequest where
  topicArn := ordersTopicArn
  message := "hello"
  subject := none

/-- The notification for it. -/
def helloNotification : Json :=
  notification sampleSnsLibrary 0 (ordersTopic "\x7b\x7d") "m" helloPublication

/-- The notification as it is written. -/
def helloNotificationText : Text :=
  ("\x7b\"Message\":\"hello\",\"MessageId\":\"m\",\"Subject\":\"\"," : Text) ++
    "\"Timestamp\":\"2026-01-01T00:00:00+00:00\",".toList ++
    "\"TopicArn\":\"arn:aws:sns:us-east-1:000000000000:orders\",".toList ++
    "\"Type\":\"Notification\"\x7d".toList

/-- Libraries that read and write this notification. -/
def notificationLibrary : SnsLibrary :=
  { sampleSnsLibrary with
    sqs := { sampleLibrary with
      json := {
        read := fun bytes =>
          if bytes = helloNotificationText.utf8 then .ok helloNotification
          else .error "expected value"
        write := fun _ => helloNotificationText } } }

/-- A subscription of a queue to the topic. -/
def ordersSubscription (spelling : Option Text) : SnsSubscription where
  id := 1
  topicArn := ordersTopicArn
  protocol := "sqs"
  endpoint := "arn:aws:sqs:us-east-1:000000000000:orders"
  ownerAccountId := "000000000000"
  subscriptionArn := "arn:aws:sns:us-east-1:000000000000:orders:s"
  deliveryPolicy := none
  filterPolicy := none
  filterPolicyScope := none
  rawMessageDelivery := spelling
  redrivePolicy := none
  subscriptionRoleArn := none
  replayPolicy := none
  createdAt := 0

/-- The topic with this subscription. -/
def subscribedStore (spelling : Option Text) : SnsDatabase :=
  ((topicStore "\x7b\x7d").insertSubscription (ordersSubscription spelling)).2

/-- The request that sets the spelling. -/
def spellingRequest (spelling : Text) : ResolvedRequest :=
  userRequest 0 (("SubscriptionArn=" : Text) ++ (ordersSubscription none).subscriptionArn ++
    "&AttributeName=RawMessageDelivery&AttributeValue=".toList ++ spelling)

/-- What is sent with an event. -/
def sentMessage : Event sqsStore → Option SqsMessage
  | ⟨.sendMessage message, _⟩ => some message
  | _ => none

/-- The store after that request. -/
def spelledStore (spelling : Text) : SnsDatabase :=
  ((subscribedStore none).updateSubscription 1 (SqliteSns.updatedSubscription
    (.fromAttributeNameAndValue "RawMessageDelivery" spelling)
    (ordersSubscription none).columns)).2

theorem selectSubscription_subscribedStore (spelling : Option Text) :
    (subscribedStore spelling).selectSubscription (ordersSubscription none).subscriptionArn =
      some (ordersSubscription spelling) := by
  show List.find? (fun row : SnsSubscription =>
    decide (row.subscriptionArn = (ordersSubscription none).subscriptionArn))
      [ordersSubscription spelling] = _
  exact List.find?_cons_of_pos (decide_eq_true rfl)

theorem selectSubscription_spelledStore (spelling : Text) :
    (spelledStore spelling).selectSubscription (ordersSubscription none).subscriptionArn =
      some (ordersSubscription (some spelling)) := by
  unfold spelledStore
  rw [rawMessageDelivery_fromAttributeNameAndValue]
  exact selectSubscription_updateSubscription (selectSubscription_subscribedStore none)

/-- The request gives the subscription its spelling. -/
theorem spells_spellingRequest {spelling : Text}
    (parsed : (setSubscriptionAttributesAction notificationLibrary).parse
      (spellingRequest spelling).request =
        .ok ⟨(ordersSubscription none).subscriptionArn, "RawMessageDelivery", spelling⟩)
    (valid : validateSubscriptionAttribute notificationLibrary ("RawMessageDelivery", spelling) =
      .ok ()) :
    SpellsRawDelivery notificationLibrary (subscribedStore none) (spelledStore spelling)
      (ordersSubscription none).subscriptionArn spelling := by
  have arnValid : validateSubscriptionArn (ordersSubscription none).subscriptionArn = .ok () := by
    decide +kernel
  have served := @SqliteSns.serve_setSubscriptionAttributes (subscribedStore none)
    (ordersSubscription none).subscriptionArn
    (.fromAttributeNameAndValue "RawMessageDelivery" spelling)
  rw [selectSubscription_subscribedStore] at served
  have handled : Succeeds SqliteSns.serve (handleSetSubscriptionAttributes
      (spellingRequest spelling)
      ⟨(ordersSubscription none).subscriptionArn, "RawMessageDelivery", spelling⟩)
      (subscribedStore none) (spellingRequest spelling).requestId (spelledStore spelling) :=
    succeeds_bind.mpr ⟨(), spelledStore spelling, succeeds_orFail.mpr served,
      succeeds_pure.mpr ⟨rfl, rfl⟩⟩
  refine .changed ⟨parsed, [], ?_⟩ handled rfl rfl rfl
  refine completes_bind.mpr ⟨(), [], [], rfl, completes_liftExcept.mpr ⟨rfl, arnValid⟩, ?_⟩
  exact completes_liftExcept.mpr ⟨rfl, valid⟩

/-- The message that is sent for a subscription with this spelling. -/
theorem sentFor_ordersSubscription {spelling : Text} {message : SqsMessage}
    (sends : ((deliver notificationLibrary .off ⟨0, 0, "d"⟩ (ordersTopic "\x7b\x7d")
      helloPublication "m" (ordersSubscription (some spelling))).events SqsDatabase.serve
        ordersStore).filterMap sentMessage = [message]) :
    SentFor notificationLibrary .off (userTask .createTopic []).generated
      (ordersTopic "\x7b\x7d") helloPublication (ordersSubscription (some spelling)) message := by
  have among : message ∈ List.filterMap sentMessage _ := sends.symm ▸ List.mem_singleton_self _
  obtain ⟨⟨call, answer⟩, isEvent, isMessage⟩ := List.mem_filterMap.mp among
  cases call with
  | sendMessage other =>
      obtain rfl := Option.some.inj isMessage
      exact ⟨0, _, answer, finishes_run _ _ _, isEvent⟩
  | _ => cases isMessage

theorem notification_hello (renderedAt : Time) :
    notification notificationLibrary renderedAt (ordersTopic "\x7b\x7d") "m" helloPublication =
      helloNotification := rfl

theorem writesNotification_hello (renderedAt : Time) :
    notificationLibrary.json.WritesNotification
      (notification notificationLibrary renderedAt (ordersTopic "\x7b\x7d") "m" helloPublication)
      helloPublication.message := by
  have reads (bytes : Bytes) : notificationLibrary.json.read bytes =
      if bytes = helloNotificationText.utf8 then .ok helloNotification
      else .error "expected value" := rfl
  have writes (json : Json) : notificationLibrary.json.write json = helloNotificationText := rfl
  rw [notification_hello]
  refine ⟨⟨?_, ?_⟩, ?_⟩
  · rw [writes]
    decide +kernel
  · rw [writes, reads, if_pos rfl]
  · rw [writes]
    decide +kernel

/-- The message with this body. -/
def deliveredMessage (body : Text) : SqsMessage where
  messageId := "d"
  queueId := 1
  body := body
  messageAttributes := none
  awsTraceHeader := none
  sentAt := 0
  visibleAt := seconds 0
  expiresAt := seconds 345600
  receiveCount := 0
  receiptHandle := none
  firstReceivedAt := none
  messageGroupId := none
  messageDeduplicationId := none

/-- The message itself is delivered to a subscription with the spelling `true`. -/
theorem rawDelivery_follows_true :
    (spelledStore "true").selectSubscription (ordersSubscription none).subscriptionArn =
        some (ordersSubscription (some "true")) ∧
      SentFor notificationLibrary .off (userTask .createTopic []).generated
        (ordersTopic "\x7b\x7d") helloPublication (ordersSubscription (some "true"))
        (deliveredMessage "hello") ∧
      BodyFollows notificationLibrary "true" helloPublication.message
        (deliveredMessage "hello").body := by
  have sent : SentFor notificationLibrary .off (userTask .createTopic []).generated
      (ordersTopic "\x7b\x7d") helloPublication (ordersSubscription (some "true"))
      (deliveredMessage "hello") :=
    sentFor_ordersSubscription (by decide +kernel)
  obtain ⟨subscription, found, -, follows⟩ := rawDelivery_follows_iff
    (@spells_spellingRequest "true" (by decide +kernel) (by decide +kernel))
  obtain rfl := Option.some.inj (found.symm.trans (selectSubscription_spelledStore "true"))
  exact ⟨found, sent, (follows writesNotification_hello sent).mpr fun _ => rfl⟩

/-- **A notification is delivered to a subscription with the spelling `True`**, which is
accepted and denotes true. -/
theorem rawDelivery_does_not_follow :
    SpellsRawDelivery notificationLibrary (subscribedStore none) (spelledStore "True")
        (ordersSubscription none).subscriptionArn "True" ∧
      (spelledStore "True").selectSubscription (ordersSubscription none).subscriptionArn =
        some (ordersSubscription (some "True")) ∧
      SentFor notificationLibrary .off (userTask .createTopic []).generated
        (ordersTopic "\x7b\x7d") helloPublication (ordersSubscription (some "True"))
        (deliveredMessage helloNotificationText) ∧
      ¬ BodyFollows notificationLibrary "True" helloPublication.message
        (deliveredMessage helloNotificationText).body := by
  refine ⟨spells_spellingRequest (by decide +kernel) (by decide +kernel),
    selectSubscription_spelledStore "True", sentFor_ordersSubscription (by decide +kernel), ?_⟩
  rintro ⟨verbatim, -⟩
  have denotes : DenotesTrue "True" := by
    unfold DenotesTrue
    decide +kernel
  exact absurd (verbatim denotes) (by decide +kernel)

end Hiraeth
