import Hiraeth.Sns.Topics
import Hiraeth.Sqs.MessageHomes

/-!
# What is stored as a message

A message is stored by a request of its own, as an entry of a batch, or by the delivery of
a published notification.  Each of the three builds the record for itself, and checks the
body, the delay and the attributes in a place of its own: before the request is handled,
while it is, or in the operation that other services call.  Whatever is stored has passed
the same checks, against a queue that the store has returned.

## Main definitions

* `SendTask` — a request that may send
* `SendTask.Sends` — what such a request sends
* `StoredFrom` — the message that is stored for a content and a queue

## Main results

* `obeys_sendTask` — a request stores only messages that have passed the checks
* `stored_messages_valid` — so every stored message has
-/

namespace Hiraeth

open Interaction Program

/-! ### Requests that send -/

/-- **A request that may send**, with what is drawn for it and what the authorizer
decides. -/
inductive SendTask where
  | sendMessage (generated : SqsGenerated) (decision : AuthorizationCheck → AuthorizationResult)
      (request : ResolvedRequest)
  | sendMessageBatch (generated : SqsGenerated)
      (decision : AuthorizationCheck → AuthorizationResult) (request : ResolvedRequest)
  | sns (mode : AuthorizationMode) (generated : SnsGenerated)
      (decision : AuthorizationCheck → AuthorizationResult) (request : ResolvedRequest)
      (action : SnsAction)

/-- The request as a program over the two stores, without its answer. -/
def SendTask.program (library : SnsLibrary) : SendTask → Program snsServiceStore Unit
  | sendMessage generated decision request => @Program.right snsStore sqsStore _
      ((SqsTask.routed generated decision request .sendMessage).program library.sqs)
  | sendMessageBatch generated decision request => @Program.right snsStore sqsStore _
      ((SqsTask.routed generated decision request .sendMessageBatch).program library.sqs)
  | sns mode generated decision request action => do
      let _ ← (snsAction library mode generated action).typed.route
        (fun _ check => return decision check) request
      return ()

/-- A content that is nothing but a body. -/
def MessageContent.ofBody (body : Text) : MessageContent where
  delaySeconds := none
  messageAttributes := none
  messageSystemAttributes := none
  messageBody := body
  messageDeduplicationId := none
  messageGroupId := none

/-- **What a request sends**: its message, the entries of its batch, or what it delivers to
a subscription. -/
inductive SendTask.Sends (library : SnsLibrary) : SendTask → MessageContent → Prop
  | message {generated : SqsGenerated} {decision : AuthorizationCheck → AuthorizationResult}
      {request : ResolvedRequest} {payload : SendMessageRequest}
      (parsed : parseSqsPayload library.sqs decodeSendMessageRequest request.request =
        .ok payload) :
      Sends library (.sendMessage generated decision request) payload.toMessageContent
  | entry {generated : SqsGenerated} {decision : AuthorizationCheck → AuthorizationResult}
      {request : ResolvedRequest} {payload : SendMessageBatchRequest}
      {entry : SendMessageBatchEntry}
      (parsed : parseSqsPayload library.sqs decodeSendMessageBatchRequest request.request =
        .ok payload) (isEntry : entry ∈ payload.entries) :
      Sends library (.sendMessageBatch generated decision request) entry.toMessageContent
  | delivery {mode : AuthorizationMode} {generated : SnsGenerated}
      {decision : AuthorizationCheck → AuthorizationResult} {request : ResolvedRequest}
      {payload : PublishRequest}
      (parsed : (publishAction library mode generated).parse request.request = .ok payload)
      (renderedAt : Time) (subscription : SnsSubscription) (topic : SnsTopic) :
      Sends library (.sns mode generated decision request .publish) (.ofBody
        (deliveryBody library renderedAt subscription topic generated.messageId payload))

/-! ### What is stored -/

/-- **The message that is stored for a content and a queue.**  The body, the attributes and
the delay are within the bounds of the service and of the queue. -/
structure StoredFrom (library : SqsLibrary) (queue : SqsQueue) (content : MessageContent)
    (message : SqsMessage) : Prop where
  queueId : message.queueId = queue.id
  body : message.body = content.messageBody
  nonempty : message.body ≠ []
  size : ((Text.utf8 message.body).length : ℤ) ≤ queue.maximumMessageSize
  characters : ∀ c ∈ message.body, isValidSqsMessageCharacter c = true
  validAttributes : validateAttributes content = .ok ()
  messageAttributes : message.messageAttributes =
    content.messageAttributes.map (serializeMessageAttributes library)
  awsTraceHeader :
    extractAwsTraceHeader content.messageSystemAttributes = .ok message.awsTraceHeader
  delay : Within 0 900 (content.delaySeconds.getD queue.delaySeconds)
  visibleAt :
    message.visibleAt = message.sentAt + seconds (content.delaySeconds.getD queue.delaySeconds)
  expiresAt : message.expiresAt = message.sentAt + seconds queue.messageRetentionPeriodSeconds
  receiveCount : message.receiveCount = 0
  receiptHandle : message.receiptHandle = none

section Checks

variable {library : SqsLibrary} {queue : SqsQueue} {content : MessageContent}

/-- The size of a valid queue is the number that a body is compared with. -/
theorem asUsize_eq {value : ℤ} (within : Within 1024 1048576 value) :
    (asUsize value : ℤ) = value := by
  obtain ⟨low, high⟩ := within
  unfold asUsize
  omega

/-- **What the check of a body guarantees.** -/
theorem validateMessageBody_eq_ok {body : Text} {maximumMessageSize : ℤ}
    (checked : validateMessageBody body maximumMessageSize = .ok ()) :
    body ≠ [] ∧ (Text.utf8 body).length ≤ asUsize maximumMessageSize ∧
      ∀ c ∈ body, isValidSqsMessageCharacter c = true := by
  unfold validateMessageBody at checked
  split_ifs at checked with empty large characters
  refine ⟨empty, Nat.le_of_not_lt large, ?_⟩
  rw [Bool.not_eq_true', Bool.not_eq_false] at characters
  exact List.all_eq_true.mp characters

/-- **What the check of a delay guarantees.** -/
theorem resolveDelaySeconds_eq_ok {requested : Option ℤ} {fallback delaySeconds : ℤ}
    (resolved : resolveDelaySeconds requested fallback = .ok delaySeconds) :
    delaySeconds = requested.getD fallback ∧ Within 0 900 (requested.getD fallback) := by
  unfold resolveDelaySeconds at resolved
  dsimp only at resolved
  split_ifs at resolved with inRange
  cases resolved
  exact ⟨rfl, inRange⟩

/-- **A message of a direct send**, when every check has passed. -/
theorem storedFrom_prepareMessage (valid : QueueInvariant library.json queue) {date : Time}
    {messageId : Text} {delaySeconds : ℤ} {prepared : PreparedMessage}
    (attributes : validateAttributes content = .ok ())
    (checked : validateMessageBody content.messageBody queue.maximumMessageSize = .ok ())
    (resolved : resolveDelaySeconds content.delaySeconds queue.delaySeconds = .ok delaySeconds)
    (prepares : prepareMessage library date queue messageId content delaySeconds = .ok prepared) :
    StoredFrom library queue content prepared.message := by
  obtain ⟨nonempty, size, characters⟩ := validateMessageBody_eq_ok checked
  obtain ⟨rfl, inRange⟩ := resolveDelaySeconds_eq_ok resolved
  simp only [prepareMessage, bind_eq_ok] at prepares
  obtain ⟨digest, -, traceHeader, extracted, systemDigest, -, made⟩ := prepares
  cases made
  exact {
    queueId := rfl
    body := rfl
    nonempty := nonempty
    size := (Int.ofNat_le.mpr size).trans (asUsize_eq valid.maximumMessageSize).le
    characters := characters
    validAttributes := attributes
    messageAttributes := rfl
    awsTraceHeader := extracted
    delay := inRange
    visibleAt := rfl
    expiresAt := rfl
    receiveCount := rfl
    receiptHandle := rfl }

/-- **A message of a delivery.** -/
theorem storedFrom_prepareEnqueued (valid : QueueInvariant library.json queue) {date : Time}
    {messageId body : Text} {message : SqsMessage}
    (prepares : prepareEnqueued library messageId queue body .none date = .ok message) :
    StoredFrom library queue (.ofBody body) message := by
  simp only [prepareEnqueued, bind_eq_ok] at prepares
  obtain ⟨⟨⟩, checked, delaySeconds, resolved, traceHeader, extracted, made⟩ := prepares
  cases made
  obtain ⟨nonempty, size, characters⟩ := validateMessageBody_eq_ok checked
  obtain ⟨rfl, inRange⟩ := resolveDelaySeconds_eq_ok resolved
  exact {
    queueId := rfl
    body := rfl
    nonempty := nonempty
    size := (Int.ofNat_le.mpr size).trans (asUsize_eq valid.maximumMessageSize).le
    characters := characters
    validAttributes := rfl
    messageAttributes := rfl
    awsTraceHeader := extracted
    delay := inRange
    visibleAt := rfl
    expiresAt := rfl
    receiveCount := rfl
    receiptHandle := rfl }

end Checks

/-! ### What a sender knows -/

/-- The queues that the store has returned to a request. -/
def learnFound : List SqsQueue → Event sqsStore → List SqsQueue
  | known, ⟨.getQueue _ _ _, .ok (some queue)⟩ => queue :: known
  | known, _ => known

/-- **What a sender may store**: messages that were checked against a queue that the store
has returned. -/
def storing (library : SqsLibrary) (sends : MessageContent → Prop) :
    Discipline sqsStore (List SqsQueue) where
  learn := learnFound
  permits known
    | .sendMessage message => ∃ queue ∈ known, QueueInvariant library.json queue →
        ∃ content, sends content ∧ StoredFrom library queue content message
    | other => other.IsLookup

section Handlers

variable {library : SqsLibrary} {request : ResolvedRequest} {sends : MessageContent → Prop}
  {known : List SqsQueue}

/-- Lookups are always permitted. -/
theorem permits_isLookup (known : List SqsQueue) (call : SqsCall) (isLookup : call.IsLookup) :
    (storing library sends).permits known call := by
  cases call <;> first | exact isLookup | exact isLookup.elim

/-- The queue that was loaded is among those that the store has returned. -/
theorem knows_loadQueueFromUrl {queueUrl : Text} :
    (loadQueueFromUrl library request queueUrl).run.Obeys (storing library sends)
      (fun outcome after => ∀ queue, outcome = .ok queue → queue ∈ after) known := by
  unfold loadQueueFromUrl
  cases parseQueueUrl library.url queueUrl request.region with
  | none => rintro queue ⟨⟩
  | some queueId =>
      refine Obeys.orFail_bind ⟨trivial, fun answer => ⟨?_, ?_⟩⟩
      · rintro failure - queue ⟨⟩
      · rintro found rfl
        cases found with
        | none => rintro queue ⟨⟩
        | some queue =>
            rintro _ ⟨⟩
            exact List.mem_cons_self

/-- A handler that loads its queue first. -/
theorem storing_load_bind {Response : Type} {queueUrl : Text}
    {rest : SqsQueue → ExceptT SqsError SqsProgram Response}
    (later : ∀ queue known, queue ∈ known → (rest queue).run.Obeys (storing library sends)
      (fun _ _ => True) known) :
    (loadQueueFromUrl library request queueUrl >>= rest).run.Obeys (storing library sends)
      (fun _ _ => True) known := by
  refine obeys_run_bind.mpr (knows_loadQueueFromUrl.mono fun outcome after loaded => ?_)
  cases outcome with
  | error failure => exact trivial
  | ok queue => exact later queue after (loaded queue rfl)

/-- Storing a message that was checked teaches nothing. -/
theorem storing_sendMessage {queue : SqsQueue} {content : MessageContent} {message : SqsMessage}
    (isKnown : queue ∈ known) (isSent : sends content)
    (stored : QueueInvariant library.json queue → StoredFrom library queue content message) :
    (sqsCall (.sendMessage message)).Obeys (storing library sends)
      (fun _ after => after = known) known :=
  ⟨⟨queue, isKnown, fun valid => ⟨content, isSent, stored valid⟩⟩, fun _ => rfl⟩

/-- **A single message has passed the checks.** -/
theorem storing_handleSendMessage {messageId : Text} {payload : SendMessageRequest}
    (isSent : sends payload.toMessageContent)
    (attributes : validateAttributes payload.toMessageContent = .ok ()) :
    (handleSendMessage library messageId request payload).run.Obeys (storing library sends)
      (fun _ _ => True) known := by
  refine storing_load_bind fun queue known isKnown => ?_
  refine Obeys.liftExcept_bind (fun _ => trivial) fun ⟨⟩ checked => ?_
  refine Obeys.liftExcept_bind (fun _ => trivial) fun delaySeconds resolved => ?_
  refine Obeys.liftExcept_bind (fun _ => trivial) fun prepared prepares => ?_
  have stored (valid : QueueInvariant library.json queue) :=
    storedFrom_prepareMessage valid attributes checked resolved prepares
  refine Obeys.orFail_bind ((storing_sendMessage isKnown isSent stored).mono fun _ _ _ => ⟨?_, ?_⟩)
  · exact fun _ _ => trivial
  · exact fun _ _ => trivial

/-- An entry of a batch has passed the checks, too. -/
theorem storing_sendBatchEntry {date : Time} {queue : SqsQueue} {messageId : Text}
    {entry : SendMessageBatchEntry} (isKnown : queue ∈ known)
    (isSent : sends entry.toMessageContent)
    (attributes : validateAttributes entry.toMessageContent = .ok ()) :
    (sendBatchEntry library date queue messageId entry).Obeys (storing library sends)
      (fun _ after => after = known) known := by
  refine Obeys.liftExcept_bind (fun _ => rfl) fun prepared prepares => ?_
  obtain ⟨delaySeconds, resolved, checked, ready⟩ :=
    prepareBatchEntry_eq_ok.mp (mapError_eq_ok.mp prepares)
  have stored (valid : QueueInvariant library.json queue) :=
    storedFrom_prepareMessage valid attributes checked resolved ready
  refine Obeys.orFail_bind ((storing_sendMessage isKnown isSent stored).mono
    fun _ _ same => ⟨?_, ?_⟩)
  · exact fun _ _ => same
  · exact fun _ _ => same

/-- **So have all entries of a batch.** -/
theorem storing_handleSendMessageBatch {messageIds : ℕ → Text} {payload : SendMessageBatchRequest}
    (isSent : ∀ entry ∈ payload.entries, sends entry.toMessageContent)
    (attributes : ∀ entry ∈ payload.entries, validateAttributes entry.toMessageContent = .ok ()) :
    (handleSendMessageBatch library messageIds request payload).run.Obeys (storing library sends)
      (fun _ _ => True) known := by
  refine storing_load_bind fun queue known isKnown => ?_
  refine Obeys.liftExcept_bind (fun _ => trivial) fun _ _ => ?_
  refine obeys_run_bind.mpr ?_
  rw [ExceptT.run_lift, map_eq_pure_bind, obeys_bind]
  refine (obeys_mapM fun indexed isIndexed => ?_).mono fun _ _ _ => trivial
  have isEntry : indexed.1 ∈ payload.entries := List.fst_mem_of_mem_zipIdx isIndexed
  exact storing_sendBatchEntry isKnown (isSent _ isEntry) (attributes _ isEntry)

end Handlers

/-! ### Deliveries -/

section Deliveries

variable {library : SnsLibrary} {mode : AuthorizationMode} {sends : MessageContent → Prop}
  {known : List SqsQueue}

/-- The message of a delivery has passed the checks. -/
theorem storing_sendDelivery {generated : DeliveryGenerated} {queue : SqsQueue} {body : Text}
    (isKnown : queue ∈ known) (isSent : sends (.ofBody body)) :
    (sendDelivery library mode generated queue body).run.Obeys (storing library.sqs sends)
      (fun _ _ => True) known := by
  refine Obeys.liftExcept_bind (fun _ => trivial) fun resourcePolicy _ => ?_
  cases deliveryDecision mode (getQueueArn queue) resourcePolicy with
  | deny => exact trivial
  | allow =>
      refine Obeys.liftExcept_bind (fun _ => trivial) fun message prepares => ?_
      have stored (valid : QueueInvariant library.sqs.json queue) :=
        storedFrom_prepareEnqueued valid (mapError_eq_ok.mp prepares)
      exact obeys_run_orFail.mpr ((storing_sendMessage isKnown isSent stored).mono
        fun _ _ _ => trivial)

/-- **What is delivered to a subscription has passed the checks.** -/
theorem storing_deliver {generated : DeliveryGenerated} {topic : SnsTopic}
    {requestBody : PublishRequest} {messageId : Text} {subscription : SnsSubscription}
    (isSent : sends (.ofBody
      (deliveryBody library generated.renderedAt subscription topic messageId requestBody))) :
    (deliver library mode generated topic requestBody messageId subscription).Obeys
      (storing library.sqs sends) (fun _ _ => True) known := by
  unfold deliver
  by_cases isSqs : subscription.protocol = ("sqs" : Text)
  · rw [if_pos isSqs, obeys_bind]
    unfold deliverToSqs
    cases parseSqsEndpointArn subscription.endpoint with
    | none => exact trivial
    | some queueId =>
        refine Obeys.orFail_bind ⟨trivial, fun answer => ⟨fun _ _ => trivial, ?_⟩⟩
        rintro found rfl
        cases found with
        | none => exact trivial
        | some queue =>
            exact (storing_sendDelivery List.mem_cons_self isSent).mono fun _ _ _ => trivial
  · rw [if_neg isSqs]
    exact trivial

/-- One program for every item, whatever is known by then. -/
theorem obeys_forM_lift {I : Interface} {K α ε : Type} {discipline : Discipline I K}
    {items : List α} {f : α → Program I Unit}
    (each : ∀ item ∈ items, ∀ known, (f item).Obeys discipline (fun _ _ => True) known)
    (known : K) :
    (items.forM fun item => (ExceptT.lift (f item) : ExceptT ε (Program I) Unit)).run.Obeys
      discipline (fun _ _ => True) known := by
  induction items generalizing known with
  | nil => exact trivial
  | cons item items inductionHypothesis =>
      show ((ExceptT.lift (f item) : ExceptT ε (Program I) Unit) >>= fun _ =>
        items.forM fun item => ExceptT.lift (f item)).run.Obeys discipline _ known
      rw [obeys_run_bind, ExceptT.run_lift, map_eq_pure_bind, obeys_bind]
      refine (each item List.mem_cons_self known).mono fun _ after _ => ?_
      exact inductionHypothesis (fun other later => each other (List.mem_cons_of_mem _ later)) after

/-- **A published message is delivered after the checks only.** -/
theorem storing_handlePublish {generated : SnsGenerated} {request : ResolvedRequest}
    {payload : PublishRequest}
    (isSent : ∀ renderedAt subscription topic, sends (.ofBody
      (deliveryBody library renderedAt subscription topic generated.messageId payload))) :
    (handlePublish library mode generated request payload).run.Obeys
      (storing library.sqs sends).onRight (fun _ _ => True) known := by
  refine obeys_run_bind.mpr (obeys_left.mono fun outcome after _ => ?_)
  cases outcome with
  | error failure => exact trivial
  | ok topic =>
      refine obeys_run_bind.mpr (obeys_left.mono fun outcome after _ => ?_)
      cases outcome with
      | error failure => exact trivial
      | ok subscriptions =>
          refine obeys_run_bind.mpr ((obeys_forM_lift (fun indexed _ known => ?_) after).mono
            fun outcome _ _ => ?_)
          · exact (storing_deliver (isSent _ _ _)).right
          · cases outcome <;> exact trivial

end Deliveries

/-! ### Requests -/

namespace TypedAwsAction

variable {I : Interface} {Error Request Response : Type}
  (action : TypedAwsAction I Error Request Response)

/-- **A routed request obeys** when its handler does for every payload that was accepted. -/
theorem obeys_route_of_accepts {K : Type} {discipline : Discipline I K}
    {property : I.Call → Prop}
    {authorize : ResolvedRequest → AuthorizationCheck → Program I AuthorizationResult}
    {request : ResolvedRequest}
    (permitted : ∀ known call, property call → discipline.permits known call)
    (resolves : OnlyCalls property (action.adaptedResolveAuthorization request))
    (authorizes : ∀ check, (authorize request check).AllCalls property)
    (validates : OnlyCalls property (action.adaptedValidate request))
    (handles : ∀ payload known, action.Accepts request payload →
      (action.handle request payload).run.Obeys discipline (fun _ _ => True) known) (known : K) :
    (action.route authorize request).Obeys discipline (fun _ _ => True) known := by
  refine obeys_bind.mpr ((AllCalls.obeys resolves permitted known).mono fun outcome resolved _ => ?_)
  rcases outcome with error | check
  · exact trivial
  refine obeys_bind.mpr ((AllCalls.obeys (authorizes check) permitted resolved).mono
    fun decision decided _ => ?_)
  rcases decision with allow | deny
  · refine obeys_bind.mpr ((AllCalls.obeys validates permitted decided).finishing.mono
      fun outcome validated ended => ?_)
    rcases outcome with error | ⟨⟩
    · exact trivial
    obtain ⟨-, events, completes⟩ := ended
    have handled : (action.adaptedHandle request).run.Obeys discipline (fun _ _ => True)
        validated := by
      refine Obeys.liftExcept_bind (fun _ => trivial) fun payload parsed => ?_
      have checked : Completes (action.adaptedValidate request) events () := completes
      unfold adaptedValidate at checked
      rw [parsed, liftExcept_ok_bind] at checked
      exact handles payload validated ⟨parsed, events, checked⟩
    refine obeys_bind.mpr (handled.mono fun outcome _ _ => ?_)
    cases outcome <;> exact trivial
  · exact trivial

end TypedAwsAction

section Tasks

variable {library : SnsLibrary} {known : List SqsQueue}

/-- The attributes of a message that was accepted are valid. -/
theorem attributes_of_accepts {messageId : Text} {request : ResolvedRequest}
    {payload : SendMessageRequest}
    (accepted : (sendMessageAction library.sqs messageId).Accepts request payload) :
    validateAttributes payload.toMessageContent = .ok () := by
  obtain ⟨-, events, completes⟩ := accepted
  obtain ⟨queue, first, later, -, -, checks⟩ := completes_bind.mp completes
  obtain ⟨-, checked⟩ := completes_liftExcept.mp checks
  simp only [validateSendMessage, bind_eq_ok] at checked
  obtain ⟨_, -, _, -, attributes⟩ := checked
  exact attributes

/-- So are those of the entries of a batch that was accepted. -/
theorem attributes_of_accepts_batch {messageIds : ℕ → Text} {request : ResolvedRequest}
    {payload : SendMessageBatchRequest}
    (accepted : (sendMessageBatchAction library.sqs messageIds).Accepts request payload) :
    ∀ entry ∈ payload.entries, validateAttributes entry.toMessageContent = .ok () := by
  obtain ⟨-, events, completes⟩ := accepted
  obtain ⟨queue, first, later, -, -, checks⟩ := completes_bind.mp completes
  obtain ⟨-, checked⟩ := completes_liftExcept.mp checks
  simp only [validateSendMessageBatch, bind_eq_ok] at checked
  obtain ⟨_, -, entries⟩ := checked
  intro entry isEntry
  have each := forM_eq_ok.mp entries entry isEntry
  simp only [validateSendMessageBatchEntry, bind_eq_ok] at each
  obtain ⟨_, -, _, -, _, -, attributes⟩ := each
  exact attributes

/-- A program whose result is dropped. -/
theorem obeys_drop {I : Interface} {K α : Type} {discipline : Discipline I K} {known : K}
    {program : Program I α} (obeys : program.Obeys discipline (fun _ _ => True) known) :
    (program >>= fun _ => pure ()).Obeys discipline (fun _ _ => True) known :=
  obeys_bind.mpr (obeys.mono fun _ _ _ => trivial)

/-- A request that uses the store of SNS alone makes no other calls. -/
theorem onlyLeft_refine {α : Type} {program : ExceptT SnsError SnsProgram α} :
    OnlyCalls (fun call : snsServiceStore.Call => call.isLeft = true)
      (ExceptT.mk (program.run.refine fun request =>
        @perform snsServiceStore (.inl request))) := by
  have anything : program.run.AllCalls fun _ => True := by
    induction program.run with
    | done result => exact trivial
    | call request next inductionHypothesis => exact ⟨trivial, inductionHypothesis⟩
  exact anything.refine fun request _ => allCalls_perform.mpr rfl

/-- Calls on the store of SNS are always permitted. -/
theorem permits_isLeft {sends : MessageContent → Prop} (known : List SqsQueue)
    (call : snsServiceStore.Call) (isLeft : call.isLeft = true) :
    (storing library.sqs sends).onRight.permits known call := by
  cases call with
  | inl request => exact trivial
  | inr request => cases isLeft

/-- **Every request stores only messages that have passed the checks.** -/
theorem obeys_sendTask (task : SendTask) :
    (task.program library).Obeys (storing library.sqs (task.Sends library)).onRight
      (fun _ _ => True) known := by
  cases task with
  | sendMessage generated decision request =>
      refine Obeys.right (obeys_drop ?_)
      refine TypedAwsAction.obeys_route_of_accepts _ permits_isLookup
        (onlyLookups_adaptedResolveAuthorization .sendMessage) (fun _ => by exact trivial)
        (onlyLookups_validate .sendMessage) (fun payload known accepted => ?_) known
      exact storing_handleSendMessage (.message accepted.1) (attributes_of_accepts accepted)
  | sendMessageBatch generated decision request =>
      refine Obeys.right (obeys_drop ?_)
      refine TypedAwsAction.obeys_route_of_accepts _ permits_isLookup
        (onlyLookups_adaptedResolveAuthorization .sendMessageBatch) (fun _ => by exact trivial)
        (onlyLookups_validate .sendMessageBatch) (fun payload known accepted => ?_) known
      exact storing_handleSendMessageBatch (fun entry isEntry => .entry accepted.1 isEntry)
        (attributes_of_accepts_batch accepted)
  | sns mode generated decision request action =>
      refine obeys_drop ?_
      cases action with
      | ofStore action =>
          refine AllCalls.obeys ?_ permits_isLeft known
          exact TypedAwsAction.allCalls_route _
            (onlyCalls_liftExcept_bind fun _ _ => onlyLeft_refine) (fun _ => trivial)
            (onlyCalls_liftExcept_bind fun _ _ => onlyLeft_refine)
            (onlyCalls_liftExcept_bind fun _ _ => onlyLeft_refine)
      | publish =>
          refine TypedAwsAction.obeys_route_of_accepts _ permits_isLeft
            (onlyCalls_liftExcept_bind fun _ _ => onlyLeft_refine) (fun _ => by exact trivial)
            (onlyCalls_liftExcept_bind fun _ _ =>
              onlyCalls_liftExcept_bind fun _ _ => onlyCalls_liftExcept)
            (fun payload known accepted => ?_) known
          exact storing_handlePublish fun renderedAt subscription topic =>
            .delivery accepted.1 renderedAt subscription topic

end Tasks

/-! ### Runs -/

section Runs

open SqsDatabase (newMessageRow)

variable {ι : Type} {S : Type} {serveSns : Serve snsStore S} {library : SnsLibrary}
  {tasks : ι → SendTask} {start config : Config snsServiceStore Unit ι (S × SqsDatabase)}

/-- **A row that holds what one of the requests sent**, within the bounds of a queue that is
stored. -/
def SentRow (library : SnsLibrary) (tasks : ι → SendTask) (database : SqsDatabase)
    (row : SqsMessageRow) : Prop :=
  ∃ thread content message, ∃ queue ∈ database.queues.rows,
    (tasks thread).Sends library content ∧ StoredFrom library.sqs queue content message ∧
      row = newMessageRow message row.id

/-- The queues stay as they were, what a request knows of them is true, and the messages
that have come in were checked. -/
structure AllChecked [DecidableEq ι] (library : SnsLibrary) (tasks : ι → SendTask)
    (start config : Config snsServiceStore Unit ι (S × SqsDatabase)) : Prop where
  queues : config.shared.2.queues = start.shared.2.queues
  known : ∀ thread, ∀ queue ∈ (config.history thread).foldl
    (storing library.sqs fun _ => True).onRight.learn [], queue ∈ start.shared.2.queues.rows
  stored : ∀ row ∈ config.shared.2.messages.rows,
    row ∈ start.shared.2.messages.rows ∨ SentRow library tasks start.shared.2 row

/-- What a call that is permitted leaves of the queues, and what it teaches. -/
theorem learn_onRight {sends : MessageContent → Prop} {known : List SqsQueue} {queue : SqsQueue}
    {call : snsServiceStore.Call} {database : S × SqsDatabase}
    (learned : queue ∈ (storing library.sqs sends).onRight.learn known
      ⟨call, ((serveSns.sum SqsDatabase.serve) call database).1⟩) :
    queue ∈ known ∨ queue ∈ database.2.queues.rows := by
  cases call with
  | inl request => exact .inl learned
  | inr request =>
      cases request with
      | getQueue name region accountId =>
          have answered : ((serveSns.sum SqsDatabase.serve) (.inr (.getQueue name region accountId))
              database).1 = .ok (database.2.getQueue name region accountId) := rfl
          rw [answered] at learned
          cases found : database.2.getQueue name region accountId with
          | none =>
              rw [found] at learned
              exact .inl learned
          | some other =>
              rw [found] at learned
              rcases List.mem_cons.mp learned with rfl | earlier
              · exact .inr (SqsDatabase.getQueue_eq_some found).1
              · exact .inl earlier
      | createQueue | deleteQueue | getMessageCount | getVisibleMessageCount
      | getMessagesDelayedCount | listQueues | purgeQueue | setQueueAttributes | listQueueTags
      | tagQueue | untagQueue | sendMessage | receiveMessages | deleteMessage
      | setMessageVisibleAt => exact .inl learned

/-- **What a call that is permitted does to the SQS store**: nothing, or it stores a
message. -/
theorem serve_of_permits {sends : MessageContent → Prop} {known : List SqsQueue}
    {call : snsServiceStore.Call} {database : S × SqsDatabase}
    (permitted : (storing library.sqs sends).onRight.permits known call) :
    ((serveSns.sum SqsDatabase.serve) call database).2.2 = database.2 ∨
      ∃ message, (storing library.sqs sends).permits known (.sendMessage message) ∧
        ((serveSns.sum SqsDatabase.serve) call database).2.2 = { database.2 with
          messages := database.2.messages.insert (newMessageRow message) fun _ => rfl } := by
  cases call with
  | inl request => exact .inl rfl
  | inr request =>
      cases request with
      | getQueue name region accountId => exact .inl rfl
      | sendMessage message =>
          show (SqsDatabase.sendMessage database.2 message).2 = _ ∨
            ∃ other, _ ∧ (SqsDatabase.sendMessage database.2 message).2 = _
          unfold SqsDatabase.sendMessage
          split_ifs
          · exact .inl rfl
          · exact .inr ⟨message, permitted, rfl⟩
          · exact .inl rfl
      | createQueue | deleteQueue | getMessageCount | getVisibleMessageCount
      | getMessagesDelayedCount | listQueues | purgeQueue | setQueueAttributes | listQueueTags
      | tagQueue | untagQueue | receiveMessages | deleteMessage | setMessageVisibleAt =>
          exact permitted.elim

variable [DecidableEq ι]

/-- **Every step keeps the messages checked.** -/
theorem AllChecked.answer
    (valid : QueuesValid library.sqs.json start.shared.2)
    (checked : AllChecked library tasks start config) {stepping : ι}
    {call : snsServiceStore.Call} {next : snsServiceStore.Answer call →
      Program snsServiceStore Unit}
    (permitted : (storing library.sqs ((tasks stepping).Sends library)).onRight.permits
      ((config.history stepping).foldl (storing library.sqs fun _ => True).onRight.learn []) call) :
    AllChecked library tasks start
      (config.answer (serveSns.sum SqsDatabase.serve) stepping call next) where
  queues := by
    rcases @serve_of_permits _ serveSns _ _ _ _ config.shared permitted with
      same | ⟨message, -, stores⟩
    · exact (congrArg SqsDatabase.queues same).trans checked.queues
    · exact (congrArg SqsDatabase.queues stores).trans checked.queues
  known := by
    intro thread queue isKnown
    by_cases itself : thread = stepping
    · subst itself
      rw [history_answer_self, List.foldl_append] at isKnown
      rcases learn_onRight isKnown with earlier | isRow
      · exact checked.known thread queue earlier
      · exact checked.queues ▸ isRow
    · rw [history_answer_ne itself] at isKnown
      exact checked.known thread queue isKnown
  stored := by
    intro row present
    rcases @serve_of_permits _ serveSns _ _ _ _ config.shared permitted with
      same | ⟨message, ⟨queue, isKnown, sends⟩, stores⟩
    · exact checked.stored row (same ▸ present)
    · have isRow := checked.known stepping queue isKnown
      obtain ⟨content, isSent, stored⟩ := sends (valid queue isRow)
      have after : row ∈ (config.shared.2.messages.insert (newMessageRow message)
          fun _ => rfl).rows := by
        have here := congrArg (fun database => database.messages.rows) stores
        exact here ▸ present
      rcases RowTable.mem_insert.mp after with earlier | rfl
      · exact checked.stored row earlier
      · exact .inr ⟨stepping, content, message, queue, isRow, isSent, stored, rfl⟩

/-- **Every message that is stored has passed the checks.**  Whatever requests run side by
side, each message that they have stored has a body, attributes and a delay within the
bounds of the service and of its queue, and the times that follow from them. -/
theorem stored_messages_valid
    (begins : ∀ thread, start.threads thread = (tasks thread).program library)
    (fresh : start.log = [])
    (valid : QueuesValid library.sqs.json start.shared.2)
    (reachable : Reachable (serveSns.sum SqsDatabase.serve) (fun _ _ => True) start config) :
    ∀ row ∈ config.shared.2.messages.rows, row ∈ start.shared.2.messages.rows ∨
      SentRow library tasks config.shared.2 row := by
  have checked : AllChecked library tasks start config := by
    refine reachable.invariant (AllChecked library tasks start) ⟨rfl, ?_, fun _ => .inl⟩ ?_
    · intro thread queue isKnown
      rw [Config.history, fresh] at isKnown
      cases isKnown
    · rintro config config' thread earlier checked - ⟨pending⟩
      have obeys : (config.threads thread).Obeys
          (storing library.sqs ((tasks thread).Sends library)).onRight (fun _ _ => True)
          ((config.history thread).foldl
            (storing library.sqs ((tasks thread).Sends library)).onRight.learn []) :=
        earlier.obeys fresh ((begins thread).symm ▸ obeys_sendTask (tasks thread))
      rw [pending] at obeys
      exact checked.answer valid obeys.1
  intro row present
  rcases checked.stored row present with earlier | sent
  · exact .inl earlier
  · obtain ⟨thread, content, message, queue, isRow, rest⟩ := sent
    exact .inr ⟨thread, content, message, queue, checked.queues ▸ isRow, rest⟩

end Runs

/-! ### One message -/

/-- The queue with the default attributes is valid. -/
theorem queueInvariant_ordersQueue {library : JsonLibrary}
    (empty : library.read (Text.utf8 "{}") = .ok (.object [])) :
    QueueInvariant library ordersQueue where
  name := {
    nonempty := by decide
    short := by decide +kernel
    letters := ⟨"orders", .inl rfl, List.all_eq_true.mp (by decide +kernel)⟩ }
  queueType := .inl rfl
  suffix := by decide
  visibilityTimeout := by decide
  delay := by decide
  maximumMessageSize := by decide
  messageRetentionPeriod := by decide
  receiveMessageWaitTime := by decide
  kmsDataKeyReusePeriod := by decide
  deduplicationScope := by decide
  fifoThroughputLimit := by decide
  policy := by
    refine ⟨Policy.default, ?_⟩
    show parsePolicyText library "{}" = _
    rw [parsePolicyText, empty, ok_bind, decodePolicy_empty]

/-- The libraries of both services. -/
def homesSnsLibrary : SnsLibrary :=
  { sampleSnsLibrary with sqs := homesLibrary }

/-- A request that sends a message. -/
def helloTask : SendTask :=
  .sendMessage ⟨fun _ => 0, fun _ => "m", 0⟩ (fun _ => .allow) (userRequest 0 "send")

/-- The request before it starts, with one queue and no topics. -/
def helloStart : Config snsServiceStore Unit Unit (SnsDatabase × SqsDatabase) where
  shared := (SnsDatabase.empty, ordersStore)
  threads := fun _ => helloTask.program homesSnsLibrary
  log := []

/-- One message is stored, and it has passed the checks. -/
theorem stored_messages_valid_hello :
    (helloStart.play (SqliteSns.serve.sum SqsDatabase.serve)
        [(), (), (), ()]).shared.2.messages.rows.map (·.body) = [("hello" : Text)] ∧
      ∀ row ∈ (helloStart.play (SqliteSns.serve.sum SqsDatabase.serve)
          [(), (), (), ()]).shared.2.messages.rows,
        row ∈ helloStart.shared.2.messages.rows ∨
          SentRow homesSnsLibrary (fun _ : Unit => helloTask)
            (helloStart.play (SqliteSns.serve.sum SqsDatabase.serve) [(), (), (), ()]).shared.2
            row := by
  constructor
  · decide +kernel
  · have valid : QueuesValid homesSnsLibrary.sqs.json helloStart.shared.2 := by
      intro queue isRow
      obtain rfl := List.mem_singleton.mp isRow
      exact queueInvariant_ordersQueue rfl
    exact stored_messages_valid (fun _ => rfl) rfl valid
      (Reachable.play (fun _ _ _ => trivial) .start Config.passes_true)

end Hiraeth
