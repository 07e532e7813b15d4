import Hiraeth.Sns.Topics

/-!
# What a published message is delivered as

Every message that a publication sends is sent for one of the subscriptions that it was
told of, and is prepared from the body for this subscription.

## Main definitions

* `SentFor` — a message is sent for a subscription

## Main results

* `sentFor_of_publish` — whatever a publication sends is sent for a subscription it was told of
* `SentFor.prepared` — a message that is sent is the prepared one
-/

namespace Hiraeth

open Interaction Program

/-- **A message is sent for a subscription**, with whatever answers the store gives. -/
def SentFor (library : SnsLibrary) (mode : AuthorizationMode) (generated : SnsGenerated)
    (topic : SnsTopic) (requestBody : PublishRequest) (subscription : SnsSubscription)
    (message : SqsMessage) : Prop :=
  ∃ index part answer,
    Finishes (deliver library mode (generated.deliveries index) topic requestBody
      generated.messageId subscription) part () ∧
    (⟨.sendMessage message, answer⟩ : Event sqsStore) ∈ part

/-- What is prepared for a subscription, for a queue and with what a delivery draws. -/
def PreparedFor (library : SnsLibrary) (generated : DeliveryGenerated) (topic : SnsTopic)
    (requestBody : PublishRequest) (notificationId : Text) (subscription : SnsSubscription)
    (queue : SqsQueue) (message : SqsMessage) : Prop :=
  prepareEnqueued library.sqs generated.messageId queue
    (deliveryBody library generated.renderedAt subscription topic notificationId requestBody)
    .none generated.date = .ok message

variable {library : SnsLibrary} {mode : AuthorizationMode} {generated : DeliveryGenerated}
  {topic : SnsTopic} {requestBody : PublishRequest} {notificationId : Text}
  {subscription : SnsSubscription} {message : SqsMessage}

/-- What the end of a delivery calls: the prepared message is sent. -/
theorem allCalls_sendDelivery {queue : SqsQueue} {body : Text} {property : SqsCall → Prop}
    (sends : ∀ message, prepareEnqueued library.sqs generated.messageId queue body .none
      generated.date = .ok message → property (.sendMessage message)) :
    @OnlyCalls sqsStore _ _ property (sendDelivery library mode generated queue body) := by
  refine onlyCalls_liftExcept_bind fun resourcePolicy _ => ?_
  cases deliveryDecision mode (getQueueArn queue) resourcePolicy with
  | deny => exact onlyCalls_throw
  | allow =>
      refine onlyCalls_liftExcept_bind fun message prepared => ?_
      exact onlyCalls_orFail (allCalls_perform.mpr (sends message (mapError_eq_ok.mp prepared)))

/-- **What a delivery calls**: it looks up a queue, and sends what is prepared for it. -/
theorem allCalls_deliver {property : SqsCall → Prop}
    (looksUp : ∀ name region accountId, property (.getQueue name region accountId))
    (sends : ∀ queue message, PreparedFor library generated topic requestBody notificationId
      subscription queue message → property (.sendMessage message)) :
    @AllCalls sqsStore _ property
      (deliver library mode generated topic requestBody notificationId subscription) := by
  unfold deliver
  refine iteInduction (fun _ => ?_) fun _ => trivial
  refine AllCalls.bind ?_ fun _ => trivial
  unfold deliverToSqs
  cases parseSqsEndpointArn subscription.endpoint with
  | none => exact onlyCalls_throw
  | some queueId =>
      refine (onlyCalls_orFail (allCalls_perform.mpr (looksUp _ _ _))).bind fun found => ?_
      cases found with
      | none => exact onlyCalls_throw
      | some queue => exact allCalls_sendDelivery fun message => sends queue message

/-- **A message that is sent is the prepared one.** -/
theorem SentFor.prepared {drawn : SnsGenerated}
    (sent : SentFor library mode drawn topic requestBody subscription message) :
    ∃ index queue, PreparedFor library (drawn.deliveries index) topic requestBody
      drawn.messageId subscription queue message := by
  obtain ⟨index, part, answer, finishes, member⟩ := sent
  let property (call : SqsCall) : Prop := ∀ message, call = .sendMessage message →
    ∃ queue, PreparedFor library (drawn.deliveries index) topic requestBody drawn.messageId
      subscription queue message
  have every : @AllCalls sqsStore _ property (deliver library mode (drawn.deliveries index) topic
      requestBody drawn.messageId subscription) := by
    refine allCalls_deliver (fun _ _ _ => nofun) fun queue message prepared other same => ?_
    obtain rfl := SqsCall.sendMessage.inj same
    exact ⟨queue, prepared⟩
  exact ⟨index, finishes.allCalls every _ member message rfl⟩

/-- The body of a message that is sent. -/
theorem SentFor.body_eq {drawn : SnsGenerated}
    (sent : SentFor library mode drawn topic requestBody subscription message) :
    ∃ renderedAt, message.body =
      deliveryBody library renderedAt subscription topic drawn.messageId requestBody := by
  obtain ⟨index, queue, prepared⟩ := sent.prepared
  unfold PreparedFor prepareEnqueued at prepared
  simp only [bind_eq_ok, pure_eq_ok, Except.ok.injEq] at prepared
  obtain ⟨_, -, _, -, _, -, rfl⟩ := prepared
  exact ⟨_, rfl⟩

/-! ### Publications -/

/-- The topic that a program was told of when it asked for one. -/
theorem told_of_loadTopic {arn : Text} {events : List (Event snsStore)} {topic : SnsTopic}
    (completes : Completes (loadTopic arn) events topic) :
    (⟨.getTopic arn, .ok (some topic)⟩ : Event snsStore) ∈ events := by
  unfold loadTopic findTopic at completes
  obtain ⟨found, first, later, rfl, asked, rest⟩ := completes_bind.mp completes
  have only : first = [⟨.getTopic arn, .ok found⟩] :=
    (@finishes_perform snsStore first (.getTopic arn) (.ok found)).mp (completes_orFail.mp asked)
  cases found with
  | none => exact absurd rest not_completes_throw
  | some other =>
      obtain ⟨-, rfl⟩ := completes_pure.mp rest
      exact List.mem_append_left _ (only ▸ List.mem_singleton_self _)

/-- **Whatever a publication sends is sent for a subscription that it was told of.** -/
theorem sentFor_of_publish {drawn : SnsGenerated} {request : ResolvedRequest}
    {events : List (Event snsServiceStore)} {response : PublishResponse}
    (completes : Completes (handlePublish library mode drawn request requestBody) events response)
    {answer : StoreResult Unit}
    (sent : (⟨.inr (.sendMessage message), answer⟩ : Event snsServiceStore) ∈ events) :
    ∃ (topic : SnsTopic) (subscriptions : List SnsSubscription) (subscription : SnsSubscription),
      (⟨.inl (.getTopic requestBody.topicArn), .ok (some topic)⟩ : Event snsServiceStore) ∈
        events ∧
      (⟨.inl (.listSubscriptionsByTopic (topicArn topic.region topic.accountId topic.name)),
        .ok subscriptions⟩ : Event snsServiceStore) ∈ events ∧
      subscription ∈ subscriptions ∧
      SentFor library mode drawn topic requestBody subscription message := by
  unfold handlePublish at completes
  obtain ⟨topic, loading, later, rfl, loads, rest⟩ := completes_bind.mp completes
  obtain ⟨subscriptions, listing, onwards, rfl, lists, remaining⟩ := completes_bind.mp rest
  obtain ⟨⟨⟩, delivering, last, rfl, delivers, answers⟩ := completes_bind.mp remaining
  obtain ⟨rfl, -⟩ := completes_pure.mp answers
  obtain ⟨loaded, rfl, isLoaded⟩ := finishes_left.mp loads
  obtain ⟨listed, rfl, isListed⟩ := finishes_left.mp lists
  obtain rfl := (@finishes_perform snsStore listed (.listSubscriptionsByTopic _)
    (.ok subscriptions)).mp (completes_orFail.mp isListed)
  -- nothing on the first store is a message
  have apart (own : List (Event snsStore)) :
      (⟨.inr (.sendMessage message), answer⟩ : Event snsServiceStore) ∉ own.map leftEvent := by
    intro member
    obtain ⟨event, -, same⟩ := List.mem_map.mp member
    cases congrArg Sigma.fst same
  have inDelivering : (⟨.inr (.sendMessage message), answer⟩ : Event snsServiceStore) ∈
      delivering := by
    rcases List.mem_append.mp sent with early | late
    · exact absurd early (apart _)
    rcases List.mem_append.mp late with early | last
    · exact absurd early (apart _)
    · rwa [List.append_nil] at last
  obtain ⟨⟨subscription, index⟩, isItem, own, finishes, member⟩ :=
    delivers.exists_item_of_mem inDelivering
  obtain ⟨part, rfl, ends⟩ := finishes_right.mp finishes
  obtain ⟨⟨call, given⟩, isEvent, same⟩ := List.mem_map.mp member
  injection same with sameCall sameAnswer
  obtain rfl := Sum.inr.inj sameCall
  obtain rfl := eq_of_heq sameAnswer
  refine ⟨topic, subscriptions, subscription, ?_, ?_, ?_, index, part, _, ends, isEvent⟩
  · exact List.mem_append_left _ (List.mem_map_of_mem (told_of_loadTopic isLoaded))
  · exact List.mem_append_right _ (List.mem_append_left _ List.mem_cons_self)
  · exact List.fst_mem_of_mem_zipIdx isItem

end Hiraeth
