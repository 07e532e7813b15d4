import Hiraeth.Lib.Calls
import Hiraeth.Sqs.MessageActions
import Hiraeth.Sqs.QueueActions
import Hiraeth.Sqs.ReceiveMessage

/-!
# The SQS service

The registered actions, and the calls that each of them makes on the store.  The
steps before the handler only look up queues; what a handler may call depends on
its action.

## Main definitions

* `sqsRegistry` — the actions, in the order in which they are registered
* `SqsAction.MayCall` — the calls of a handler

## Main results

* `onlyLookups_resolveAuthorization`, `onlyLookups_validate` — the steps before
  the handler
* `mayCall_handle` — the handlers
-/

namespace Hiraeth

open Interaction Program

/-- What the server draws while it handles a request: readings of the clock, ids of
messages, and how often it polls. -/
structure SqsGenerated where
  now : ℕ → Time
  messageIds : ℕ → Text
  polls : ℕ

variable {library : SqsLibrary} {generated : SqsGenerated} {request : ResolvedRequest}

/-- The action under a name. -/
def sqsAction (library : SqsLibrary) (generated : SqsGenerated) :
    SqsAction → AwsAction sqsStore SqsError
  | .changeMessageVisibility => ⟨changeMessageVisibilityAction library (generated.now 0)⟩
  | .changeMessageVisibilityBatch => ⟨changeMessageVisibilityBatchAction library generated.now⟩
  | .createQueue => ⟨createQueueAction library (generated.now 0)⟩
  | .deleteMessage => ⟨deleteMessageAction library⟩
  | .deleteMessageBatch => ⟨deleteMessageBatchAction library⟩
  | .deleteQueue => ⟨deleteQueueAction library⟩
  | .getQueueAttributes => ⟨getQueueAttributesAction library⟩
  | .getQueueUrl => ⟨getQueueUrlAction library⟩
  | .listQueueTags => ⟨listQueueTagsAction library⟩
  | .listQueues => ⟨listQueuesAction library⟩
  | .purgeQueue => ⟨purgeQueueAction library⟩
  | .receiveMessage => ⟨receiveMessageAction library generated.polls⟩
  | .sendMessage => ⟨sendMessageAction library (generated.messageIds 0)⟩
  | .sendMessageBatch => ⟨sendMessageBatchAction library generated.messageIds⟩
  | .setQueueAttributes => ⟨setQueueAttributesAction library⟩
  | .tagQueue => ⟨tagQueueAction library⟩
  | .untagQueue => ⟨untagQueueAction library⟩

/-- `registry`. -/
def sqsRegistry (library : SqsLibrary) (generated : SqsGenerated) :
    AwsActionRegistry sqsStore SqsError :=
  [.changeMessageVisibility, .changeMessageVisibilityBatch, .createQueue, .deleteMessage,
    .deleteMessageBatch, .deleteQueue, .getQueueAttributes, .getQueueUrl, .listQueueTags,
    .listQueues, .purgeQueue, .receiveMessage, .sendMessage, .sendMessageBatch,
    .setQueueAttributes, .tagQueue, .untagQueue].map (sqsAction library generated)

/-- Every registered action has its place in the list. -/
theorem exists_of_mem_sqsRegistry {action : AwsAction sqsStore SqsError}
    (registered : action ∈ sqsRegistry library generated) :
    ∃ name, action = sqsAction library generated name := by
  obtain ⟨name, -, same⟩ := List.mem_map.mp registered
  exact ⟨name, same.symm⟩

/-! ### The steps before the handler -/

/-- A call that looks up a queue. -/
def SqsCall.IsLookup : SqsCall → Prop
  | .getQueue .. => True
  | _ => False

theorem onlyLookups_loadQueueFromUrl {queueUrl : Text} :
    OnlyCalls SqsCall.IsLookup (loadQueueFromUrl library request queueUrl) := by
  unfold loadQueueFromUrl
  cases parseQueueUrl library.url queueUrl request.region with
  | none => exact onlyCalls_throw
  | some queueId =>
      refine (onlyCalls_orFail (allCalls_perform.mpr trivial)).bind fun found => ?_
      cases found with
      | none => exact onlyCalls_throw
      | some queue => exact onlyCalls_pure

theorem onlyLookups_getQueueFromRequest :
    OnlyCalls SqsCall.IsLookup (getQueueFromRequest library request) :=
  onlyCalls_liftExcept_bind fun _ _ => onlyLookups_loadQueueFromUrl

/-- **Authorization only looks up queues.** -/
theorem onlyLookups_resolveAuthorization (action : SqsAction) :
    OnlyCalls SqsCall.IsLookup (Sqs.resolveAuthorization library action request) := by
  have relevant : OnlyCalls SqsCall.IsLookup
      (getRelevantQueueForAction library action request) := by
    have ofRequest : OnlyCalls SqsCall.IsLookup
        (getQueueFromRequest library request >>= fun queue => pure (some queue)) :=
      onlyLookups_getQueueFromRequest.bind fun _ => onlyCalls_pure
    cases action with
    | listQueues => exact onlyCalls_pure
    | createQueue => exact onlyCalls_pure
    | getQueueUrl =>
        exact onlyCalls_liftExcept_bind fun _ _ =>
          onlyCalls_orFail (allCalls_perform.mpr trivial)
    | changeMessageVisibility | changeMessageVisibilityBatch | deleteMessage
    | deleteMessageBatch | deleteQueue | getQueueAttributes | listQueueTags | purgeQueue
    | receiveMessage | sendMessage | sendMessageBatch | setQueueAttributes | tagQueue
    | untagQueue => exact ofRequest
  exact relevant.bind fun _ => onlyCalls_pure

theorem onlyLookups_adaptedResolveAuthorization (action : SqsAction) :
    OnlyCalls SqsCall.IsLookup
      ((sqsAction library generated action).typed.adaptedResolveAuthorization request) := by
  refine onlyCalls_liftExcept_bind fun payload _ => ?_
  cases action <;> exact onlyLookups_resolveAuthorization _

/-- **Validation only looks up queues.** -/
theorem onlyLookups_validate (action : SqsAction) :
    OnlyCalls SqsCall.IsLookup
      ((sqsAction library generated action).typed.adaptedValidate request) := by
  cases action with
  | changeMessageVisibility | changeMessageVisibilityBatch | deleteMessageBatch | getQueueUrl
  | listQueues | tagQueue | untagQueue =>
      exact onlyCalls_liftExcept_bind fun _ _ => onlyCalls_liftExcept
  | deleteMessage | deleteQueue | getQueueAttributes | listQueueTags | purgeQueue =>
      exact onlyCalls_liftExcept_bind fun _ _ => onlyCalls_pure
  | createQueue | setQueueAttributes =>
      exact onlyCalls_liftExcept_bind fun _ _ =>
        onlyCalls_liftExcept_bind fun _ _ => onlyCalls_pure
  | sendMessage | sendMessageBatch =>
      exact onlyCalls_liftExcept_bind fun _ _ =>
        onlyLookups_loadQueueFromUrl.bind fun _ => onlyCalls_liftExcept
  | receiveMessage =>
      exact onlyCalls_liftExcept_bind fun _ _ => onlyCalls_liftExcept

/-! ### The handlers -/

/-- **The calls that the handler of an action may make**, besides looking up
queues. -/
def SqsAction.MayCall : SqsAction → SqsCall → Prop
  | _, .getQueue .. => True
  | .createQueue, .createQueue _ | .createQueue, .tagQueue .. => True
  | .changeMessageVisibility, .setMessageVisibleAt .. => True
  | .changeMessageVisibilityBatch, .setMessageVisibleAt .. => True
  | .deleteMessage, .deleteMessage .. | .deleteMessageBatch, .deleteMessage .. => True
  | .deleteQueue, .deleteQueue _ => True
  | .getQueueAttributes, .getMessageCount _ => True
  | .getQueueAttributes, .getVisibleMessageCount _ => True
  | .getQueueAttributes, .getMessagesDelayedCount _ => True
  | .listQueueTags, .listQueueTags _ => True
  | .listQueues, .listQueues .. => True
  | .purgeQueue, .purgeQueue _ => True
  | .receiveMessage, .receiveMessages .. => True
  | .sendMessage, .sendMessage _ | .sendMessageBatch, .sendMessage _ => True
  | .setQueueAttributes, .setQueueAttributes .. => True
  | .tagQueue, .listQueueTags _ | .tagQueue, .tagQueue .. => True
  | .untagQueue, .untagQueue .. => True
  | _, _ => False

theorem mayCall_of_isLookup {action : SqsAction} {call : SqsCall} (isLookup : call.IsLookup) :
    action.MayCall call := by
  cases call <;> first | exact isLookup.elim | (cases action <;> exact trivial)

theorem mayCall_loadQueueFromUrl {action : SqsAction} {queueUrl : Text} :
    OnlyCalls action.MayCall (loadQueueFromUrl library request queueUrl) :=
  onlyLookups_loadQueueFromUrl.mono fun _ => mayCall_of_isLookup

/-- A handler that loads its queue first. -/
theorem mayCall_load_bind {Response : Type} {action : SqsAction} {queueUrl : Text}
    {rest : SqsQueue → ExceptT SqsError SqsProgram Response}
    (later : ∀ queue, OnlyCalls action.MayCall (rest queue)) :
    OnlyCalls action.MayCall (loadQueueFromUrl library request queueUrl >>= rest) :=
  mayCall_loadQueueFromUrl.bind later

/-- **Creating a queue** writes the queue of the request, and its tags. -/
theorem onlyCalls_handleCreateQueue {property : SqsCall → Prop} {now : Time}
    {requestBody : CreateQueueRequest} (lookups : ∀ call, call.IsLookup → property call)
    (tags : ∀ queueId tags, property (.tagQueue queueId tags))
    (creates : ∀ values, validateCreateQueue library requestBody = .ok values →
      property (.createQueue (newQueue now request requestBody.queueName values))) :
    @OnlyCalls sqsStore _ _ property (handleCreateQueue library now request requestBody) := by
  have tagged : @OnlyCalls sqsStore _ _ property (tagCreatedQueue request requestBody) := by
    unfold tagCreatedQueue
    split
    · exact onlyCalls_pure
    · refine (onlyCalls_orFail (allCalls_perform.mpr (lookups (.getQueue _ _ _) trivial))).bind fun found => ?_
      cases found with
      | none => exact onlyCalls_throw
      | some created => exact onlyCalls_orFail (allCalls_perform.mpr (tags _ _))
  have confirms : ∀ queue, @OnlyCalls sqsStore _ _ property
      (confirmExistingQueue request requestBody queue) := by
    intro queue
    refine (onlyCalls_orFail (allCalls_perform.mpr (lookups (.getQueue _ _ _) trivial))).bind fun found => ?_
    cases found with
    | none => exact onlyCalls_throw
    | some existing =>
        dsimp only
        split
        · exact onlyCalls_pure
        · exact onlyCalls_throw
  refine onlyCalls_liftExcept_bind fun values checked => ?_
  refine (onlyCalls_lift (allCalls_perform.mpr (creates values checked))).bind fun created => ?_
  -- a conflict is answered by comparing the two queues
  match created with
  | .ok () => exact tagged.bind fun _ => onlyCalls_pure
  | .error (.conflict _) => exact confirms _
  | .error (.notFound _) => exact onlyCalls_throw
  | .error (.storageFailure _) => exact onlyCalls_throw

section Property

variable {property : SqsCall → Prop} {queue : SqsQueue}

/-- Attributes are reported from counts of messages. -/
theorem onlyCalls_collectQueueAttributes {requestedAttributes : List Text}
    (all : property (.getMessageCount queue.id))
    (visible : property (.getVisibleMessageCount queue.id))
    (delayed : property (.getMessagesDelayedCount queue.id)) :
    @OnlyCalls sqsStore _ _ property (collectQueueAttributes queue requestedAttributes) := by
  have counts : ∀ {name : Text} {count : ExceptT SqsError SqsProgram ℤ},
      @OnlyCalls sqsStore _ _ property count →
      @OnlyCalls sqsStore _ _ property (collectCount requestedAttributes name count) := by
    intro name count counted
    unfold collectCount
    split
    · exact counted.bind fun _ => onlyCalls_pure
    · exact onlyCalls_pure
  refine (counts (onlyCalls_orFail (allCalls_perform.mpr all))).bind fun _ => ?_
  refine (counts ?_).bind fun _ => ?_
  · refine (onlyCalls_orFail (allCalls_perform.mpr visible)).bind fun _ => ?_
    exact (onlyCalls_orFail (allCalls_perform.mpr all)).bind fun _ => onlyCalls_pure
  · exact (counts (onlyCalls_orFail (allCalls_perform.mpr delayed))).bind fun _ => onlyCalls_pure

/-- Every poll asks for messages of the queue. -/
theorem onlyCalls_pollMessages {receiveRequest : ReceiveMessageRequest}
    (receives : ∀ limit timeout, property (.receiveMessages queue.id limit timeout)) (polls : ℕ) :
    @OnlyCalls sqsStore _ _ property (pollMessages library receiveRequest queue polls) := by
  have once : @OnlyCalls sqsStore _ _ property (receiveOnce library receiveRequest queue) :=
    (onlyCalls_orFail (allCalls_perform.mpr (receives _ _))).bind fun _ => onlyCalls_liftExcept
  induction polls with
  | zero => exact once
  | succ polls inductionHypothesis =>
      refine once.bind fun received => ?_
      split
      · exact inductionHypothesis
      · exact onlyCalls_pure

/-- The entries of a batch that are done by one call each. -/
theorem allCalls_callForBatchEntry {id : Text} {call : SqsProgram (StoreResult Unit)}
    (allowed : @AllCalls sqsStore _ property call) :
    @AllCalls sqsStore _ property (callForBatchEntry id call) := by
  refine allowed.bind fun outcome => ?_
  cases outcome <;> exact trivial

theorem allCalls_changeBatchEntry {now : Time} {entry : ChangeMessageVisibilityBatchEntry}
    (changes : ∀ receiptHandle time,
      property (.setMessageVisibleAt queue.id receiptHandle time)) :
    @AllCalls sqsStore _ property (changeBatchEntry now queue entry) := by
  unfold changeBatchEntry
  cases validateVisibilityTimeout entry.visibilityTimeout with
  | error failure => exact trivial
  | ok _ => exact allCalls_callForBatchEntry (allCalls_perform.mpr (changes _ _))

/-- A prepared message is for the queue it was prepared for. -/
theorem queueId_prepareMessage {date : Time} {messageId : Text} {content : MessageContent}
    {delaySeconds : ℤ} {prepared : PreparedMessage}
    (prepares : prepareMessage library date queue messageId content delaySeconds = .ok prepared) :
    prepared.message.queueId = queue.id := by
  simp only [prepareMessage, bind_eq_ok, pure_eq_ok, Except.ok.injEq] at prepares
  obtain ⟨_, -, _, -, _, -, rfl⟩ := prepares
  rfl

theorem allCalls_sendBatchEntry {date : Time} {messageId : Text} {entry : SendMessageBatchEntry}
    (sends : ∀ message : SqsMessage, message.queueId = queue.id → property (.sendMessage message)) :
    @AllCalls sqsStore _ property (sendBatchEntry library date queue messageId entry) := by
  refine onlyCalls_liftExcept_bind fun prepared prepares => ?_
  simp only [prepareBatchEntry, mapError_eq_ok, bind_eq_ok] at prepares
  obtain ⟨_, -, _, -, made⟩ := prepares
  refine (onlyCalls_orFail (allCalls_perform.mpr ?_)).bind fun _ => onlyCalls_pure
  exact sends prepared.message (queueId_prepareMessage made)

end Property

/-- **A handler makes the calls of its action.** -/
theorem mayCall_handle (action : SqsAction) :
    OnlyCalls action.MayCall ((sqsAction library generated action).typed.adaptedHandle request) := by
  refine onlyCalls_liftExcept_bind fun payload _ => ?_
  cases action with
  | changeMessageVisibility =>
      exact mayCall_load_bind fun _ => onlyCalls_liftExcept_bind fun _ _ =>
        onlyCalls_orFail (allCalls_perform.mpr trivial)
  | changeMessageVisibilityBatch =>
      refine mayCall_load_bind fun queue => onlyCalls_liftExcept_bind fun _ _ => ?_
      exact (onlyCalls_lift (AllCalls.mapM fun _ _ =>
        allCalls_changeBatchEntry fun _ _ => trivial)).bind fun _ => onlyCalls_pure
  | createQueue =>
      refine onlyCalls_handleCreateQueue (fun _ => mayCall_of_isLookup) (fun queueId tags => ?_)
        fun values _ => ?_
      · exact trivial
      · exact trivial
  | deleteMessage =>
      exact mayCall_load_bind fun _ => onlyCalls_orFail (allCalls_perform.mpr trivial)
  | deleteMessageBatch =>
      refine mayCall_load_bind fun queue => onlyCalls_liftExcept_bind fun _ _ => ?_
      exact (onlyCalls_lift (AllCalls.mapM fun entry _ =>
        allCalls_callForBatchEntry (allCalls_perform.mpr trivial))).bind fun _ => onlyCalls_pure
  | deleteQueue | purgeQueue =>
      exact mayCall_load_bind fun _ => onlyCalls_orFail (allCalls_perform.mpr trivial)
  | getQueueAttributes => exact mayCall_load_bind fun _ =>
        onlyCalls_collectQueueAttributes trivial trivial trivial
  | getQueueUrl =>
      refine onlyCalls_liftExcept_bind fun _ _ => ?_
      refine (onlyCalls_orFail (allCalls_perform.mpr trivial)).bind fun found => ?_
      cases found with
      | none => exact onlyCalls_throw
      | some queue => exact onlyCalls_pure
  | listQueueTags =>
      exact mayCall_load_bind fun _ =>
        (onlyCalls_orFail (allCalls_perform.mpr trivial)).bind fun _ => onlyCalls_pure
  | listQueues =>
      refine onlyCalls_liftExcept_bind fun _ _ => ?_
      exact (onlyCalls_orFail (allCalls_perform.mpr trivial)).bind fun _ => onlyCalls_pure
  | receiveMessage =>
      exact mayCall_load_bind fun _ => onlyCalls_liftExcept_bind fun _ _ =>
        (onlyCalls_pollMessages (fun _ _ => trivial) _).bind fun _ => onlyCalls_pure
  | sendMessage =>
      exact mayCall_load_bind fun _ => onlyCalls_liftExcept_bind fun _ _ =>
        onlyCalls_liftExcept_bind fun _ _ => onlyCalls_liftExcept_bind fun _ _ =>
          (onlyCalls_orFail (allCalls_perform.mpr trivial)).bind fun _ => onlyCalls_pure
  | sendMessageBatch =>
      refine mayCall_load_bind fun queue => onlyCalls_liftExcept_bind fun _ _ => ?_
      exact (onlyCalls_lift (AllCalls.mapM fun _ _ =>
        allCalls_sendBatchEntry fun _ _ => trivial)).bind fun _ => onlyCalls_pure
  | setQueueAttributes =>
      exact mayCall_load_bind fun _ => onlyCalls_liftExcept_bind fun _ _ =>
        onlyCalls_orFail (allCalls_perform.mpr trivial)
  | tagQueue =>
      refine onlyCalls_liftExcept_bind fun _ _ => mayCall_load_bind fun _ => ?_
      refine (onlyCalls_orFail (allCalls_perform.mpr trivial)).bind fun _ => ?_
      exact onlyCalls_liftExcept_bind fun _ _ => onlyCalls_orFail (allCalls_perform.mpr trivial)
  | untagQueue =>
      exact onlyCalls_liftExcept_bind fun _ _ => mayCall_load_bind fun _ =>
        onlyCalls_orFail (allCalls_perform.mpr trivial)

end Hiraeth
