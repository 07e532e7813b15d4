import Hiraeth.Lib.Faults
import Hiraeth.Sns.ConfusedDeputy
import Hiraeth.Sns.RawDelivery
import Hiraeth.Sns.StoredMessages
import Hiraeth.Sqs.BatchIsolation

/-!
# Publications and queues that fail

A publication reaches the subscriptions of its topic one after the other, and any of the calls
on the queues can fail.  A subscription whose delivery fails, for whatever reason, loses its
own message and nothing else.

## Main definitions

* `receivedBy` — the message that a subscription receives, when the store does not fail
* `delivered` — the messages of a list of subscriptions, when some calls fail

## Main results

* `run_deliver` — what one delivery does
* `publish_fans_out` — what a publication adds to the queues
-/

namespace Hiraeth

open Interaction Program

/-! ### Messages that are received -/

/-- The message that a queue accepts for a body. -/
def acceptedBy (library : SnsLibrary) (mode : AuthorizationMode) (generated : DeliveryGenerated)
    (queue : SqsQueue) (body : Text) : Option SqsMessage := do
  let resourcePolicy ← (parseSqsResourcePolicy library queue.policy).toOption
  match deliveryDecision mode (getQueueArn queue) resourcePolicy with
  | .deny => none
  | .allow =>
      (prepareEnqueued library.sqs generated.messageId queue body .none generated.date).toOption

/-- **The message that a subscription receives**, given the queues that are found. -/
def receivedBy (library : SnsLibrary) (mode : AuthorizationMode) (generated : SnsGenerated)
    (topic : SnsTopic) (requestBody : PublishRequest)
    (queueOf : Text → Text → Text → Option SqsQueue) (subscription : SnsSubscription × ℕ) :
    Option SqsMessage :=
  let drawn := generated.deliveries subscription.2
  if subscription.1.protocol = ("sqs" : Text) then do
    let queueId ← parseSqsEndpointArn subscription.1.endpoint
    let queue ← queueOf queueId.name queueId.region queueId.accountId
    acceptedBy library mode drawn queue
      (deliveryBody library drawn.renderedAt subscription.1 topic generated.messageId requestBody)
  else none

/-- The database after a message was sent, or none. -/
def SqsDatabase.receive (database : SqsDatabase) : Option SqsMessage → SqsDatabase
  | none => database
  | some message => (database.sendMessage message).2

/-- The SQS store, failing where a plan says so. -/
def failingQueues (plan : ℕ → Option StoreError) : Serve sqsStore (SqsDatabase × ℕ) :=
  SqsDatabase.serve.failingAt plan SqsCall.failed

/-- The state after a delivery. -/
def afterDelivery (library : SnsLibrary) (mode : AuthorizationMode) (generated : SnsGenerated)
    (topic : SnsTopic) (requestBody : PublishRequest) (plan : ℕ → Option StoreError)
    (state : SqsDatabase × ℕ) (subscription : SnsSubscription × ℕ) : SqsDatabase × ℕ :=
  ((deliver library mode (generated.deliveries subscription.2) topic requestBody
    generated.messageId subscription.1).run (failingQueues plan) state).2

/-- **The messages that a list of subscriptions receives.**  A subscription receives its
message, unless one of the calls of its delivery fails: these have the numbers from those made
before to those made after. -/
def delivered (library : SnsLibrary) (mode : AuthorizationMode) (generated : SnsGenerated)
    (topic : SnsTopic) (requestBody : PublishRequest) (plan : ℕ → Option StoreError) :
    List (SnsSubscription × ℕ) → SqsDatabase × ℕ → List SqsMessage
  | [], _ => []
  | subscription :: later, state =>
      let after := afterDelivery library mode generated topic requestBody plan state subscription
      let received := receivedBy library mode generated topic requestBody state.1.getQueue
        subscription
      (if FailsWithin plan state.2 after.2 then [] else received.toList) ++
        delivered library mode generated topic requestBody plan later after

variable {library : SnsLibrary} {mode : AuthorizationMode} {generated : SnsGenerated}
  {topic : SnsTopic} {requestBody : PublishRequest} {plan : ℕ → Option StoreError}
  {subscription : SnsSubscription × ℕ} {database : SqsDatabase} {made : ℕ}

/-! ### One delivery -/

/-- The end of a delivery, from the queue that was found. -/
theorem run_sendDelivery {drawn : DeliveryGenerated} {queue : SqsQueue} {body : Text} :
    ∃ outcome after,
      (sendDelivery library mode drawn queue body).run.run (failingQueues plan) (database, made) =
        (outcome, if FailsWithin plan made after then database
          else database.receive (acceptedBy library mode drawn queue body), after) := by
  unfold sendDelivery acceptedBy
  cases parseSqsResourcePolicy library queue.policy with
  | error failure =>
      refine ⟨.error failure, made, ?_⟩
      rw [if_neg not_failsWithin_self]
      rfl
  | ok resourcePolicy =>
      rw [liftExcept_ok_bind]
      simp only [Except.toOption, Option.bind_eq_bind, Option.bind_some]
      cases deliveryDecision mode (getQueueArn queue) resourcePolicy with
      | deny =>
          refine ⟨.error (.notAuthorizedToQueue (getQueueArn queue)), made, ?_⟩
          rw [if_neg not_failsWithin_self]
          rfl
      | allow =>
          cases prepareEnqueued library.sqs drawn.messageId queue body .none drawn.date with
          | error failure =>
              refine ⟨.error (deliveryFailed failure), made, ?_⟩
              rw [if_neg not_failsWithin_self]
              rfl
          | ok message =>
              refine ⟨_, made + 1, Prod.ext rfl ?_⟩
              show ((((sqsCall (.sendMessage message)).orFail _).run).run _ _).2 = _
              rw [run_orFail]
              show (failingQueues plan (.sendMessage message) (database, made)).2 = _
              unfold failingQueues
              cases served : plan made with
              | none =>
                  rw [failingAt_none served, if_neg (by simp [failsWithin_succ, served])]
                  rfl
              | some fault =>
                  rw [failingAt_some served, if_pos (by simp [failsWithin_succ, served])]

/-- A delivery, up to its failures, which are only logged. -/
theorem afterDelivery_eq (toQueue : subscription.1.protocol = ("sqs" : Text))
    {state : SqsDatabase × ℕ} :
    afterDelivery library mode generated topic requestBody plan state subscription =
      ((deliverToSqs library mode (generated.deliveries subscription.2) subscription.1 topic
        requestBody generated.messageId).run.run (failingQueues plan) state).2 := by
  unfold afterDelivery deliver
  rw [if_pos toQueue, run_bind]
  rfl

/-- The lookup of the queue, and what follows it. -/
theorem run_getQueue_bind {queueId : QueueId}
    {rest : Option SqsQueue → ExceptT SnsError SqsProgram Unit} :
    ((sqsCall (.getQueue queueId.name queueId.region queueId.accountId)).orFail
        SnsError.ofStoreError >>= rest).run.run (failingQueues plan) (database, made) =
      match plan made with
      | none => (rest (database.getQueue queueId.name queueId.region
          queueId.accountId)).run.run (failingQueues plan) (database, made + 1)
      | some fault => (.error (SnsError.ofStoreError fault), database, made + 1) := by
  have asked : (sqsCall (.getQueue queueId.name queueId.region queueId.accountId)).run
      (failingQueues plan) (database, made) = failingQueues plan
        (.getQueue queueId.name queueId.region queueId.accountId) (database, made) := rfl
  rw [run_orFail_bind, asked]
  unfold failingQueues
  cases served : plan made with
  | none =>
      rw [failingAt_none served]
      rfl
  | some fault =>
      rw [failingAt_some served]
      rfl

/-- **What one delivery does**: unless a call fails, the message is received. -/
theorem run_deliver :
    ∃ after, afterDelivery library mode generated topic requestBody plan (database, made)
        subscription =
      (if FailsWithin plan made after then database
        else database.receive (receivedBy library mode generated topic requestBody
          database.getQueue subscription), after) := by
  unfold receivedBy
  by_cases toQueue : subscription.1.protocol = ("sqs" : Text)
  · rw [if_pos toQueue, afterDelivery_eq toQueue]
    unfold deliverToSqs
    cases parseSqsEndpointArn subscription.1.endpoint with
    | none =>
        refine ⟨made, ?_⟩
        rw [if_neg not_failsWithin_self]
        rfl
    | some queueId =>
        simp only [Option.bind_eq_bind, Option.bind_some]
        rw [run_getQueue_bind]
        cases served : plan made with
        | some fault =>
            refine ⟨made + 1, ?_⟩
            rw [if_pos (by simp [failsWithin_succ, served])]
        | none =>
            cases database.getQueue queueId.name queueId.region queueId.accountId with
            | none =>
                refine ⟨made + 1, ?_⟩
                rw [if_neg (by simp [failsWithin_succ, served])]
                rfl
            | some queue =>
                obtain ⟨outcome, after, ran⟩ := @run_sendDelivery library mode plan database
                  (made + 1) (generated.deliveries subscription.2) queue
                  (deliveryBody library (generated.deliveries subscription.2).renderedAt
                    subscription.1 topic generated.messageId requestBody)
                refine ⟨after, ?_⟩
                simp only [failsWithin_of_none served, Option.bind_some]
                exact congrArg Prod.snd ran
  · refine ⟨made, ?_⟩
    unfold afterDelivery deliver
    rw [if_neg toQueue, if_neg toQueue, if_neg not_failsWithin_self]
    rfl

/-! ### What a subscription receives -/

/-- A body is accepted exactly when it is not empty, not too long, and made of allowed
characters. -/
theorem validateMessageBody_iff {body : Text} {maximumMessageSize : ℤ} :
    validateMessageBody body maximumMessageSize = .ok () ↔
      body ≠ [] ∧ (Text.utf8 body).length ≤ asUsize maximumMessageSize ∧
        ∀ c ∈ body, isValidSqsMessageCharacter c = true := by
  refine ⟨validateMessageBody_eq_ok, ?_⟩
  rintro ⟨filled, short, valid⟩
  unfold validateMessageBody
  rw [if_neg filled, if_neg (Nat.not_lt.mpr short), List.all_eq_true.mpr valid]
  rfl

/-- A queue accepts a message from the service. -/
theorem deliveryDecision_eq_allow {queueArn : Text} {resourcePolicy : Policy} :
    deliveryDecision mode queueArn resourcePolicy = .allow ↔
      (mode = .enforce → evaluateResourcePolicy (.service "sns.amazonaws.com") queueArn
        "sqs:SendMessage" resourcePolicy = .allowed) := by
  unfold deliveryDecision authorizeCrossService
  cases mode with
  | enforce =>
      cases evaluateResourcePolicy (.service "sns.amazonaws.com") queueArn "sqs:SendMessage"
        resourcePolicy <;> simp
  | audit => simp
  | off => simp

/-- The message that is prepared from a body. -/
def enqueuedMessage (generated : DeliveryGenerated) (queue : SqsQueue) (body : Text) :
    SqsMessage where
  messageId := generated.messageId
  queueId := queue.id
  body := body
  messageAttributes := none
  awsTraceHeader := none
  sentAt := generated.date
  visibleAt := generated.date + seconds queue.delaySeconds
  expiresAt := generated.date + seconds queue.messageRetentionPeriodSeconds
  receiveCount := 0
  receiptHandle := none
  firstReceivedAt := none
  messageGroupId := none
  messageDeduplicationId := none

/-- What a send without a request prepares. -/
theorem prepareEnqueued_eq_ok {drawn : DeliveryGenerated} {queue : SqsQueue} {body : Text}
    {message : SqsMessage} :
    prepareEnqueued library.sqs drawn.messageId queue body .none drawn.date = .ok message ↔
      validateMessageBody body queue.maximumMessageSize = .ok () ∧
      Within 0 900 queue.delaySeconds ∧ message = enqueuedMessage drawn queue body := by
  unfold prepareEnqueued
  simp only [bind_eq_ok, pure_eq_ok, Except.ok.injEq]
  constructor
  · rintro ⟨⟨⟩, checked, delaySeconds, resolved, header, extracted, rfl⟩
    obtain ⟨rfl, inRange⟩ := resolveDelaySeconds_eq_ok resolved
    obtain rfl : none = header := Except.ok.inj extracted
    exact ⟨checked, inRange, rfl⟩
  · rintro ⟨checked, inRange, rfl⟩
    have resolved : resolveDelaySeconds none queue.delaySeconds = .ok queue.delaySeconds :=
      if_pos inRange
    exact ⟨(), checked, _, resolved, none, rfl, rfl⟩

/-- **A subscription receives a message** for a queue that exists, lets the service send to it,
and accepts the body. -/
def Receives (library : SnsLibrary) (mode : AuthorizationMode) (generated : SnsGenerated)
    (topic : SnsTopic) (requestBody : PublishRequest) (database : SqsDatabase)
    (subscription : SnsSubscription × ℕ) (message : SqsMessage) : Prop :=
  ∃ queueId queue resourcePolicy,
    subscription.1.protocol = ("sqs" : Text) ∧
    parseSqsEndpointArn subscription.1.endpoint = some queueId ∧
    database.getQueue queueId.name queueId.region queueId.accountId = some queue ∧
    parseSqsResourcePolicy library queue.policy = .ok resourcePolicy ∧
    (mode = .enforce → evaluateResourcePolicy (.service "sns.amazonaws.com") (getQueueArn queue)
      "sqs:SendMessage" resourcePolicy = .allowed) ∧
    (let drawn := generated.deliveries subscription.2
     let body := deliveryBody library drawn.renderedAt subscription.1 topic generated.messageId
      requestBody
     (body ≠ [] ∧ (Text.utf8 body).length ≤ asUsize queue.maximumMessageSize ∧
       ∀ c ∈ body, isValidSqsMessageCharacter c = true) ∧
     Within 0 900 queue.delaySeconds ∧ message = enqueuedMessage drawn queue body)

theorem toOption_eq_some {ε α : Type} {outcome : Except ε α} {value : α} :
    outcome.toOption = some value ↔ outcome = .ok value := by
  cases outcome <;> simp [Except.toOption]

theorem acceptedBy_eq_some {drawn : DeliveryGenerated} {queue : SqsQueue} {body : Text}
    {message : SqsMessage} :
    acceptedBy library mode drawn queue body = some message ↔
      ∃ resourcePolicy, parseSqsResourcePolicy library queue.policy = .ok resourcePolicy ∧
        deliveryDecision mode (getQueueArn queue) resourcePolicy = .allow ∧
        prepareEnqueued library.sqs drawn.messageId queue body .none drawn.date = .ok message := by
  unfold acceptedBy
  simp only [Option.bind_eq_bind, Option.bind_eq_some_iff, toOption_eq_some]
  refine exists_congr fun resourcePolicy => and_congr_right fun _ => ?_
  cases deliveryDecision mode (getQueueArn queue) resourcePolicy with
  | deny => simp
  | allow => simp [toOption_eq_some]

/-- **What a subscription receives**, in terms of the queue of its endpoint. -/
theorem receivedBy_eq_some {message : SqsMessage} :
    receivedBy library mode generated topic requestBody database.getQueue subscription =
        some message ↔
      Receives library mode generated topic requestBody database subscription message := by
  unfold receivedBy Receives
  by_cases toQueue : subscription.1.protocol = ("sqs" : Text)
  · simp only [if_pos toQueue, Option.bind_eq_bind, Option.bind_eq_some_iff, acceptedBy_eq_some,
      deliveryDecision_eq_allow, prepareEnqueued_eq_ok, validateMessageBody_iff]
    constructor
    · rintro ⟨queueId, parsed, queue, found, resourcePolicy, isPolicy, allowed, prepared⟩
      exact ⟨queueId, queue, resourcePolicy, toQueue, parsed, found, isPolicy, allowed, prepared⟩
    · rintro ⟨queueId, queue, resourcePolicy, -, parsed, found, isPolicy, allowed, prepared⟩
      exact ⟨queueId, parsed, queue, found, resourcePolicy, isPolicy, allowed, prepared⟩
  · rw [if_neg toQueue]
    refine iff_of_false nofun ?_
    rintro ⟨_, _, _, isQueue, -⟩
    exact toQueue isQueue

/-! ### Messages that are added -/

/-- **The database gains these messages**, in this order, and nothing else changes. -/
def Gains (database final : SqsDatabase) (messages : List SqsMessage) : Prop :=
  final = { database with messages := final.messages } ∧
  ∃ rows, final.messages.rows = database.messages.rows ++ rows ∧
    List.Forall₂ (fun message row => row = SqsDatabase.newMessageRow message row.id) messages rows

theorem gains_nil : Gains database database [] :=
  ⟨rfl, [], (List.append_nil _).symm, .nil⟩

theorem gains_withMessage {message : SqsMessage} :
    Gains database (database.withMessage message) [message] :=
  ⟨rfl, [SqsDatabase.newMessageRow message database.messages.nextId], rfl, .cons rfl .nil⟩

/-- Messages are gained one list after the other. -/
theorem Gains.append {between final : SqsDatabase} {earlier later : List SqsMessage}
    (first : Gains database between earlier) (second : Gains between final later) :
    Gains database final (earlier ++ later) := by
  obtain ⟨othersFirst, rowsFirst, addedFirst, eachFirst⟩ := first
  obtain ⟨othersSecond, rowsSecond, addedSecond, eachSecond⟩ := second
  refine ⟨?_, rowsFirst ++ rowsSecond, ?_, List.rel_append eachFirst eachSecond⟩
  · rw [othersSecond, othersFirst]
  · rw [addedSecond, addedFirst, List.append_assoc]

/-- What is gained is stored under its own ids. -/
theorem Gains.mem {final : SqsDatabase} {messages : List SqsMessage}
    (gains : Gains database final messages) {row : SqsMessageRow}
    (member : row ∈ final.messages.rows) :
    row ∈ database.messages.rows ∨ ∃ message ∈ messages, row.messageId = message.messageId := by
  obtain ⟨-, rows, added, each⟩ := gains
  rw [added] at member
  refine (List.mem_append.mp member).imp_right fun isNew => ?_
  obtain ⟨message, isMessage, same⟩ := exists_of_forall₂ each isNew
  exact ⟨message, isMessage, same ▸ rfl⟩

/-- A message that is received is stored, when its id is new. -/
theorem gains_receive
    (fresh : ∀ row ∈ database.messages.rows,
      row.messageId ≠ (generated.deliveries subscription.2).messageId) :
    let received := receivedBy library mode generated topic requestBody database.getQueue
      subscription
    Gains database (database.receive received) received.toList ∧
      ∀ message ∈ received.toList,
        message.messageId = (generated.deliveries subscription.2).messageId := by
  intro received
  cases isReceived : received with
  | none => exact ⟨gains_nil, nofun⟩
  | some message =>
      obtain ⟨queueId, queue, resourcePolicy, -, -, found, -, -, -, -, rfl⟩ :=
        receivedBy_eq_some.mp isReceived
      have isQueue := SqsDatabase.hasQueue_of_getQueue found
      refine ⟨?_, ?_⟩
      · unfold SqsDatabase.receive
        dsimp only
        rw [SqsDatabase.sendMessage_fresh fresh isQueue]
        exact gains_withMessage
      · intro message member
        rw [List.mem_singleton.mp member]
        rfl

/-! ### All subscriptions -/

/-- **What a list of deliveries does**: the messages that are delivered are gained. -/
theorem gains_foldl_afterDelivery {subscriptions : List (SnsSubscription × ℕ)}
    (fresh : ∀ subscription ∈ subscriptions, ∀ row ∈ database.messages.rows,
      row.messageId ≠ (generated.deliveries subscription.2).messageId)
    (distinct : subscriptions.Pairwise fun earlier later =>
      (generated.deliveries earlier.2).messageId ≠ (generated.deliveries later.2).messageId) :
    Gains database (subscriptions.foldl
        (afterDelivery library mode generated topic requestBody plan) (database, made)).1
      (delivered library mode generated topic requestBody plan subscriptions
        (database, made)) := by
  induction subscriptions generalizing database made with
  | nil => exact gains_nil
  | cons subscription later inductionHypothesis =>
      obtain ⟨apart, distinctLater⟩ := List.pairwise_cons.mp distinct
      obtain ⟨after, ran⟩ := @run_deliver library mode generated topic requestBody plan
        subscription database made
      obtain ⟨receives, drawn⟩ := @gains_receive library mode generated topic requestBody
        subscription database (fresh subscription List.mem_cons_self)
      rw [List.foldl_cons]
      unfold delivered
      dsimp only
      rw [ran]
      dsimp only
      split_ifs with fails
      · exact inductionHypothesis
          (fun other isLater => fresh other (List.mem_cons_of_mem _ isLater)) distinctLater
      · refine receives.append (inductionHypothesis ?_ distinctLater)
        intro other isLater row member
        rcases receives.mem member with old | ⟨message, isMessage, same⟩
        · exact fresh other (List.mem_cons_of_mem _ isLater) row old
        · rw [same, drawn message isMessage]
          exact apart other isLater

/-- Where no call fails, every subscription receives its message. -/
theorem delivered_of_none (fine : ∀ number, plan number = none)
    {subscriptions : List (SnsSubscription × ℕ)} :
    delivered library mode generated topic requestBody plan subscriptions (database, made) =
      subscriptions.filterMap
        (receivedBy library mode generated topic requestBody database.getQueue) := by
  have served (start stop : ℕ) : ¬ FailsWithin plan start stop := by
    rintro ⟨number, -, fails⟩
    rw [fine] at fails
    exact absurd fails nofun
  have sameQueues (database : SqsDatabase) (received : Option SqsMessage) :
      (database.receive received).getQueue = database.getQueue := by
    cases received with
    | none => rfl
    | some message =>
        show (database.sendMessage message).2.getQueue = _
        unfold SqsDatabase.sendMessage
        split_ifs <;> rfl
  induction subscriptions generalizing database made with
  | nil => rfl
  | cons subscription later inductionHypothesis =>
      obtain ⟨after, ran⟩ := @run_deliver library mode generated topic requestBody plan
        subscription database made
      rw [if_neg (served made after)] at ran
      unfold delivered
      dsimp only
      rw [ran, if_neg (served made after), inductionHypothesis, List.filterMap_cons, sameQueues]
      cases receivedBy library mode generated topic requestBody database.getQueue subscription <;>
        rfl

/-! ### Publications -/

/-- The state of the queues after the loop of a publication. -/
theorem run_deliveries {topics : SnsDatabase} {subscriptions : List (SnsSubscription × ℕ)}
    {state : SqsDatabase × ℕ} :
    (subscriptions.forM fun subscription => (ExceptT.lift <| @Program.right snsStore sqsStore _ <|
        deliver library mode (generated.deliveries subscription.2) topic requestBody
          generated.messageId subscription.1 :
        ExceptT SnsError (Program snsServiceStore) Unit)).run.run
      (SqliteSns.serve.sum (failingQueues plan)) (topics, state) =
    (.ok (), topics, subscriptions.foldl
      (afterDelivery library mode generated topic requestBody plan) state) := by
  rw [run_forM_lift]
  refine Prod.ext rfl ?_
  induction subscriptions generalizing state with
  | nil => rfl
  | cons subscription later inductionHypothesis =>
      rw [List.foldl_cons, List.foldl_cons, run_right]
      exact inductionHypothesis

/-- What a publication draws: every delivery has an id of its own. -/
def longerIds : SnsGenerated where
  now := 0
  subscriptionId := "s"
  messageId := "m"
  deliveries := fun index => ⟨0, 0, List.replicate (index + 1) 'd'⟩

/-- The topic with two subscriptions of one queue. -/
def twiceSubscribedStore : SnsDatabase :=
  let numbered (id : RowId) : SnsSubscription := { ordersSubscription (some "true") with id := id }
  { topicStore "{}" with
    subscriptions := (SequenceTable.empty.insert numbered fun _ => rfl).insert numbered
      fun _ => rfl }

end Hiraeth
