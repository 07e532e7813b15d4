import Hiraeth.Sqs.Accepted
import Hiraeth.Sqs.Service

/-!
# The authorized queue is the one that is acted on

Authorization reads the queue URL from the body as an untyped value, the handler
from the payload of its action.  A declared record refuses a repeated field, so
the two find the same URL whenever both find one; and every call of the handler
that names a queue by its number names the queue that was loaded from this URL.

## Main definitions

* `SqsCall.queueId` — the number of the queue that a call is about
* `ActsOnQueue` — a handler that loads the queue of a URL and calls only for this queue
* `AuthorizationCheck.IsFor` — a check that was computed for a queue

## Main results

* `namesQueue_agrees` — the two ways of reading the URL
* `actsOnQueue_handle` — the handlers
* `authorized_queue_is_acted_on` — the check is for the queue that is acted on
-/

namespace Hiraeth

open Interaction Program

variable {library : SqsLibrary} {generated : SqsGenerated} {request : ResolvedRequest}

/-- The number of the queue that a call is about. -/
def SqsCall.queueId : SqsCall → Option RowId
  | .deleteQueue queueId | .getMessageCount queueId | .getVisibleMessageCount queueId
  | .getMessagesDelayedCount queueId | .purgeQueue queueId | .setQueueAttributes queueId _
  | .listQueueTags queueId | .tagQueue queueId _ | .untagQueue queueId _
  | .receiveMessages queueId _ _ | .deleteMessage queueId _
  | .setMessageVisibleAt queueId _ _ => some queueId
  | .sendMessage message => some message.queueId
  | .createQueue _ | .getQueue .. | .listQueues .. => none

/-! ### One URL, read twice -/

/-- A payload that is a record with a field for the queue URL. -/
def NamesQueue {Request : Type} (decode : Json → Except Text Request) (url : Request → Text) :
    Prop :=
  ∀ json payload, decode json = .ok payload → ∃ record declared fields,
    json.readFields record declared = .ok fields ∧
      ("QueueUrl" : Text) ∈ declared.map Json.Field.name ∧
      fields.required "QueueUrl" Json.asText = .ok (url payload)

/-- **The two ways of reading the URL agree.** -/
theorem namesQueue_agrees {Request : Type} {decode : Json → Except Text Request}
    {url : Request → Text} (names : NamesQueue decode url) {payload : Request}
    (parsed : parseSqsPayload library decode request.request = .ok payload) {queueUrl : Text}
    (untyped : getQueueUrlFromRequest library request = .ok queueUrl) :
    url payload = queueUrl := by
  obtain ⟨json, isRead, decoded⟩ := parseSqsPayload_eq_ok.mp parsed
  obtain ⟨record, declared, fields, isRecord, isDeclared, isUrl⟩ := names json payload decoded
  obtain ⟨value, isValue, last⟩ := getQueueUrlFromRequest_iff.mp untyped
  obtain rfl := Except.ok.inj (isRead.symm.trans isValue)
  cases json with
  | object members =>
      obtain ⟨accepted, rfl⟩ := Json.readFields_object_eq_ok.mp isRecord
      obtain ⟨first, found, isText⟩ := Fields.required_eq_ok.mp isUrl
      obtain rfl := Json.asText_eq_ok.mp isText
      rw [get_eq_lookup_of_rejectRepeated accepted isDeclared, found] at last
      exact Json.string.inj (Option.some.inj last)
  -- every other value has no members, and authorization fails
  | null | bool | integer | float | string | array => exact nomatch last

theorem namesQueue_decodeQueueUrl {record : Text} : NamesQueue (decodeQueueUrl record) id := by
  intro json payload decoded
  obtain ⟨fields, isRecord, isUrl⟩ := bind_eq_ok.mp decoded
  exact ⟨_, _, fields, isRecord, List.mem_cons_self, isUrl⟩

theorem namesQueue_changeMessageVisibility :
    NamesQueue decodeChangeMessageVisibilityRequest (·.queueUrl) := by
  intro json payload decoded
  simp only [decodeChangeMessageVisibilityRequest, bind_eq_ok, pure_eq_ok,
    Except.ok.injEq] at decoded
  obtain ⟨fields, isRecord, _, isUrl, _, -, _, -, rfl⟩ := decoded
  exact ⟨_, _, fields, isRecord, by decide, isUrl⟩

theorem namesQueue_changeMessageVisibilityBatch :
    NamesQueue decodeChangeMessageVisibilityBatchRequest (·.queueUrl) := by
  intro json payload decoded
  simp only [decodeChangeMessageVisibilityBatchRequest, bind_eq_ok, pure_eq_ok,
    Except.ok.injEq] at decoded
  obtain ⟨fields, isRecord, _, isUrl, _, -, rfl⟩ := decoded
  exact ⟨_, _, fields, isRecord, by decide, isUrl⟩

theorem namesQueue_deleteMessage :
    NamesQueue decodeDeleteMessageRequest (·.queueUrl) := by
  intro json payload decoded
  simp only [decodeDeleteMessageRequest, bind_eq_ok, pure_eq_ok, Except.ok.injEq] at decoded
  obtain ⟨fields, isRecord, _, isUrl, _, -, rfl⟩ := decoded
  exact ⟨_, _, fields, isRecord, by decide, isUrl⟩

theorem namesQueue_deleteMessageBatch :
    NamesQueue decodeDeleteMessageBatchRequest (·.queueUrl) := by
  intro json payload decoded
  simp only [decodeDeleteMessageBatchRequest, bind_eq_ok, pure_eq_ok, Except.ok.injEq] at decoded
  obtain ⟨fields, isRecord, _, isUrl, _, -, rfl⟩ := decoded
  exact ⟨_, _, fields, isRecord, by decide, isUrl⟩

theorem namesQueue_getQueueAttributes :
    NamesQueue decodeGetQueueAttributesRequest (·.queueUrl) := by
  intro json payload decoded
  simp only [decodeGetQueueAttributesRequest, bind_eq_ok, pure_eq_ok, Except.ok.injEq] at decoded
  obtain ⟨fields, isRecord, _, isUrl, _, -, rfl⟩ := decoded
  exact ⟨_, _, fields, isRecord, by decide, isUrl⟩

theorem namesQueue_receiveMessage :
    NamesQueue decodeReceiveMessageRequest (·.queueUrl) := by
  intro json payload decoded
  simp only [decodeReceiveMessageRequest, bind_eq_ok, pure_eq_ok, Except.ok.injEq] at decoded
  obtain ⟨fields, isRecord, _, -, _, -, _, -, _, -, _, isUrl, _, -, _, -, rfl⟩ := decoded
  exact ⟨_, _, fields, isRecord, by decide, isUrl⟩

theorem namesQueue_sendMessage :
    NamesQueue decodeSendMessageRequest (·.queueUrl) := by
  intro json payload decoded
  simp only [decodeSendMessageRequest, bind_eq_ok, pure_eq_ok, Except.ok.injEq] at decoded
  obtain ⟨fields, isRecord, _, -, _, isUrl, rfl⟩ := decoded
  exact ⟨_, _, fields, isRecord, by decide, isUrl⟩

theorem namesQueue_sendMessageBatch :
    NamesQueue decodeSendMessageBatchRequest (·.queueUrl) := by
  intro json payload decoded
  simp only [decodeSendMessageBatchRequest, bind_eq_ok, pure_eq_ok, Except.ok.injEq] at decoded
  obtain ⟨fields, isRecord, _, -, _, isUrl, rfl⟩ := decoded
  exact ⟨_, _, fields, isRecord, by decide, isUrl⟩

theorem namesQueue_setQueueAttributes :
    NamesQueue decodeSetQueueAttributesRequest (·.queueUrl) := by
  intro json payload decoded
  simp only [decodeSetQueueAttributesRequest, bind_eq_ok, pure_eq_ok, Except.ok.injEq] at decoded
  obtain ⟨fields, isRecord, _, isUrl, _, -, rfl⟩ := decoded
  exact ⟨_, _, fields, isRecord, by decide, isUrl⟩

theorem namesQueue_tagQueue :
    NamesQueue decodeTagQueueRequest (·.queueUrl) := by
  intro json payload decoded
  simp only [decodeTagQueueRequest, bind_eq_ok, pure_eq_ok, Except.ok.injEq] at decoded
  obtain ⟨fields, isRecord, _, isUrl, _, -, rfl⟩ := decoded
  exact ⟨_, _, fields, isRecord, by decide, isUrl⟩

theorem namesQueue_untagQueue :
    NamesQueue decodeUntagQueueRequest (·.queueUrl) := by
  intro json payload decoded
  simp only [decodeUntagQueueRequest, bind_eq_ok, pure_eq_ok, Except.ok.injEq] at decoded
  obtain ⟨fields, isRecord, _, isUrl, _, -, rfl⟩ := decoded
  exact ⟨_, _, fields, isRecord, by decide, isUrl⟩

/-! ### The handlers -/

/-- A call that is about the queue with this number. -/
def SqsCall.IsAbout (queueId : RowId) (call : SqsCall) : Prop :=
  call.queueId = some queueId

/-- **A handler that acts on the queue of a URL**: after some checks it loads the
queue, and every later call is about this queue. -/
inductive ActsOnQueue (library : SqsLibrary) (request : ResolvedRequest) (queueUrl : Text)
    {Response : Type} : ExceptT SqsError SqsProgram Response → Prop
  | load {rest : SqsQueue → ExceptT SqsError SqsProgram Response}
      (only : ∀ queue, @OnlyCalls sqsStore _ _ (SqsCall.IsAbout queue.id) (rest queue)) :
      ActsOnQueue library request queueUrl (loadQueueFromUrl library request queueUrl >>= rest)
  | check {α : Type} {outcome : Except SqsError α}
      {rest : α → ExceptT SqsError SqsProgram Response}
      (later : ∀ value, outcome = .ok value → ActsOnQueue library request queueUrl (rest value)) :
      ActsOnQueue library request queueUrl (liftExcept outcome >>= rest)

/-- The URL of a payload is the one that authorization has read. -/
theorem ActsOnQueue.ofPayload {Request Response : Type} {decode : Json → Except Text Request}
    {url : Request → Text} (names : NamesQueue decode url) {queueUrl : Text}
    (untyped : getQueueUrlFromRequest library request = .ok queueUrl)
    {handle : Request → ExceptT SqsError SqsProgram Response}
    (acts : ∀ payload, ActsOnQueue library request (url payload) (handle payload)) :
    ActsOnQueue library request queueUrl
      (liftExcept (parseSqsPayload library decode request.request) >>= handle) := by
  refine .check fun payload parsed => ?_
  rw [← namesQueue_agrees names parsed untyped]
  exact acts payload

/-- **A handler acts on the queue of the URL that authorization has read.**  The
actions that create, look up or list queues have no such URL. -/
theorem actsOnQueue_handle {action : SqsAction} (notCreate : action ≠ .createQueue)
    (notGet : action ≠ .getQueueUrl) (notList : action ≠ .listQueues) {queueUrl : Text}
    (untyped : getQueueUrlFromRequest library request = .ok queueUrl) :
    ActsOnQueue library request queueUrl
      ((sqsAction library generated action).typed.adaptedHandle request) := by
  cases action with
  | createQueue => exact absurd rfl notCreate
  | getQueueUrl => exact absurd rfl notGet
  | listQueues => exact absurd rfl notList
  | changeMessageVisibility =>
      exact .ofPayload namesQueue_changeMessageVisibility untyped fun payload => .load fun queue =>
        onlyCalls_liftExcept_bind fun _ _ => onlyCalls_orFail (allCalls_perform.mpr (by rfl))
  | changeMessageVisibilityBatch =>
      exact .ofPayload namesQueue_changeMessageVisibilityBatch untyped fun payload =>
        .load fun queue => onlyCalls_liftExcept_bind fun _ _ =>
          (onlyCalls_lift (AllCalls.mapM fun _ _ =>
            allCalls_changeBatchEntry fun _ _ => rfl)).bind fun _ => onlyCalls_pure
  | deleteMessage =>
      exact .ofPayload namesQueue_deleteMessage untyped fun payload => .load fun queue =>
        onlyCalls_orFail (allCalls_perform.mpr (by rfl))
  | deleteMessageBatch =>
      exact .ofPayload namesQueue_deleteMessageBatch untyped fun payload => .load fun queue =>
        onlyCalls_liftExcept_bind fun _ _ => (onlyCalls_lift (AllCalls.mapM fun _ _ =>
          allCalls_callForBatchEntry (allCalls_perform.mpr (by rfl)))).bind fun _ => onlyCalls_pure
  | deleteQueue | purgeQueue =>
      exact .ofPayload namesQueue_decodeQueueUrl untyped fun payload => .load fun queue =>
        onlyCalls_orFail (allCalls_perform.mpr (by rfl))
  | getQueueAttributes =>
      exact .ofPayload namesQueue_getQueueAttributes untyped fun payload => .load fun queue =>
        onlyCalls_collectQueueAttributes rfl rfl rfl
  | listQueueTags =>
      exact .ofPayload namesQueue_decodeQueueUrl untyped fun payload => .load fun queue =>
        (onlyCalls_orFail (allCalls_perform.mpr (by rfl))).bind fun _ => onlyCalls_pure
  | receiveMessage =>
      exact .ofPayload namesQueue_receiveMessage untyped fun payload => .load fun queue =>
        onlyCalls_liftExcept_bind fun _ _ =>
          (onlyCalls_pollMessages (fun _ _ => rfl) _).bind fun _ => onlyCalls_pure
  | sendMessage =>
      refine .ofPayload namesQueue_sendMessage untyped fun payload => .load fun queue => ?_
      refine onlyCalls_liftExcept_bind fun _ _ => onlyCalls_liftExcept_bind fun _ _ => ?_
      refine onlyCalls_liftExcept_bind fun prepared prepares => ?_
      refine (onlyCalls_orFail (allCalls_perform.mpr ?_)).bind fun _ => onlyCalls_pure
      exact congrArg some (queueId_prepareMessage prepares)
  | sendMessageBatch =>
      exact .ofPayload namesQueue_sendMessageBatch untyped fun payload => .load fun queue =>
        onlyCalls_liftExcept_bind fun _ _ => (onlyCalls_lift (AllCalls.mapM fun _ _ =>
          allCalls_sendBatchEntry fun _ same => congrArg some same)).bind fun _ => onlyCalls_pure
  | setQueueAttributes =>
      exact .ofPayload namesQueue_setQueueAttributes untyped fun payload => .load fun queue =>
        onlyCalls_liftExcept_bind fun _ _ => onlyCalls_orFail (allCalls_perform.mpr (by rfl))
  | tagQueue =>
      refine .ofPayload namesQueue_tagQueue untyped fun payload => .check fun _ _ => ?_
      refine .load fun queue => (onlyCalls_orFail (allCalls_perform.mpr (by rfl))).bind fun _ => ?_
      exact onlyCalls_liftExcept_bind fun _ _ => onlyCalls_orFail (allCalls_perform.mpr (by rfl))
  | untagQueue =>
      exact .ofPayload namesQueue_untagQueue untyped fun payload => .check fun _ _ =>
        .load fun queue => onlyCalls_orFail (allCalls_perform.mpr (by rfl))

/-! ### The queue of the check -/

/-- **The check was computed for the queue**, from its name and its policy. -/
structure AuthorizationCheck.IsFor (library : SqsLibrary) (check : AuthorizationCheck)
    (queue : SqsQueue) : Prop where
  resource : check.resource = getQueueArn queue
  resourcePolicy : check.resourcePolicy = some (queuePolicy library queue)

variable {state final : SqsDatabase}

/-- A queue that is loaded is a row of the store, which stays as it is. -/
theorem row_of_succeeds_load {queueUrl : Text} {queue : SqsQueue}
    (loads : Succeeds SqsDatabase.serve (loadQueueFromUrl library request queueUrl) state queue
      final) : queue ∈ state.queues.rows ∧ final = state := by
  obtain ⟨queueId, -, served⟩ := succeeds_loadQueueFromUrl.mp loads
  obtain ⟨found, rfl⟩ := Prod.mk.inj served
  exact ⟨RowTable.mem_of_find_eq_some (Except.ok.inj found), rfl⟩

/-- Loading a queue is one call, which finds it. -/
theorem events_load {queueUrl : Text} {queue : SqsQueue}
    (loads : Succeeds SqsDatabase.serve (loadQueueFromUrl library request queueUrl) state queue
      final) :
    ∃ name region accountId, (loadQueueFromUrl library request queueUrl).run.events
      SqsDatabase.serve state = [⟨.getQueue name region accountId, .ok (some queue)⟩] := by
  obtain ⟨queueId, named, served⟩ := succeeds_loadQueueFromUrl.mp loads
  refine ⟨queueId.name, queueId.region, queueId.accountId, ?_⟩
  unfold loadQueueFromUrl
  rw [named]
  dsimp only
  rw [events_orFail_bind, run_sqsCall, events_sqsCall, served]
  rfl

/-- **The events of a handler that acts on a queue**: it finds the queue, and calls
for it. -/
theorem ActsOnQueue.events {queueUrl : Text} {Response : Type}
    {program : ExceptT SqsError SqsProgram Response}
    (acts : ActsOnQueue library request queueUrl program) {queue : SqsQueue}
    (loads : Succeeds SqsDatabase.serve (loadQueueFromUrl library request queueUrl) state queue
      state) {event : Event sqsStore} (made : event ∈ program.run.events SqsDatabase.serve state) :
    (∃ name region accountId, event = ⟨.getQueue name region accountId, .ok (some queue)⟩) ∨
      event.1.IsAbout queue.id := by
  induction acts with
  | load only =>
      rw [events_bind_of_succeeds loads] at made
      rcases List.mem_append.mp made with loading | later
      · obtain ⟨name, region, accountId, events⟩ := events_load loads
        rw [events] at loading
        exact Or.inl ⟨name, region, accountId, List.mem_singleton.mp loading⟩
      · exact Or.inr (allCalls_events SqsDatabase.serve (only queue) state event later)
  | @check α outcome rest later inductionHypothesis =>
      cases outcome with
      | error failure => exact absurd made List.not_mem_nil
      | ok value => exact inductionHypothesis value rfl made

/-- Authorization of any other action reads the queue from the body. -/
theorem getRelevantQueueForAction_eq {action : SqsAction} (notCreate : action ≠ .createQueue)
    (notGet : action ≠ .getQueueUrl) (notList : action ≠ .listQueues) :
    getRelevantQueueForAction library action request =
      getQueueFromRequest library request >>= fun queue => pure (some queue) := by
  cases action <;> first | rfl | contradiction

/-- The check that authorization computes is that of the service. -/
theorem resolveAuthorization_sqsAction {action : SqsAction} {check : AuthorizationCheck}
    (resolves : Succeeds SqsDatabase.serve
      ((sqsAction library generated action).typed.adaptedResolveAuthorization request) state check
      final) :
    Succeeds SqsDatabase.serve (Sqs.resolveAuthorization library action request) state check
      final := by
  obtain ⟨payload, between, parsed, resolved⟩ := succeeds_bind.mp resolves
  obtain ⟨-, rfl⟩ := succeeds_liftExcept.mp parsed
  cases action <;> exact resolved

/-- A queue that is looked up by its name is found by one call. -/
theorem events_handleGetQueueUrl {payload : GetQueueUrlRequest} {event : Event sqsStore}
    (made : event ∈ (handleGetQueueUrl request payload).run.events SqsDatabase.serve state) :
    ∃ name region accountId, event = ⟨.getQueue name region accountId,
      .ok (state.getQueue payload.queueName request.region
        (payload.queueOwnerAwsAccountId.getD request.authContext.principal.accountId))⟩ := by
  unfold handleGetQueueUrl at made
  cases checked : validateGetQueueUrl payload with
  | error failure =>
      rw [checked] at made
      exact absurd made List.not_mem_nil
  | ok _ =>
      rw [checked, liftExcept_ok_bind] at made
      dsimp only at made
      rw [events_orFail_bind, events_sqsCall, run_sqsCall] at made
      rcases List.mem_append.mp made with looked | later
      · exact ⟨_, _, _, List.mem_singleton.mp looked⟩
      -- the answer is given without another call
      · revert later
        show event ∈ (events SqsDatabase.serve (ExceptT.run _) state) → _
        cases state.getQueue payload.queueName request.region
          (payload.queueOwnerAwsAccountId.getD request.authContext.principal.accountId) with
        | none => exact fun later => absurd later List.not_mem_nil
        | some queue => exact fun later => absurd later List.not_mem_nil

/-- A queue that is looked up by its name is looked up alike by both. -/
theorem events_getQueueUrl {relevant : Option SqsQueue}
    (isRelevant : Succeeds SqsDatabase.serve
      (getRelevantQueueForAction library .getQueueUrl request) state relevant final)
    {event : Event sqsStore}
    (made : event ∈ ((getQueueUrlAction library).adaptedHandle request).run.events
      SqsDatabase.serve state) :
    ∃ name region accountId, event = ⟨.getQueue name region accountId, .ok relevant⟩ := by
  obtain ⟨payload, _, isPayload, looked⟩ := succeeds_bind.mp isRelevant
  obtain ⟨parsed, rfl⟩ := succeeds_liftExcept.mp isPayload
  obtain ⟨found, -⟩ := Prod.mk.inj (succeeds_orFail.mp looked)
  obtain rfl := Except.ok.inj found
  have handles : (getQueueUrlAction library).adaptedHandle request =
      liftExcept (parseSqsPayload library decodeGetQueueUrlRequest request.request) >>=
        handleGetQueueUrl request := rfl
  rw [handles, parsed, liftExcept_ok_bind] at made
  exact events_handleGetQueueUrl made

/-- **The queue that is acted on is the one that was authorized.**  Whatever JSON
the body is: when authorization has computed a check and the handler then runs on
the same store, every queue that it finds and every queue that one of its calls
names is the queue the check was computed for. -/
theorem authorized_queue_is_acted_on {action : SqsAction} (notCreate : action ≠ .createQueue)
    (notList : action ≠ .listQueues) {check : AuthorizationCheck}
    (resolves : Succeeds SqsDatabase.serve
      ((sqsAction library generated action).typed.adaptedResolveAuthorization request) state check
      final) {event : Event sqsStore}
    (made : event ∈ ((sqsAction library generated action).typed.adaptedHandle request).run.events
      SqsDatabase.serve state) :
    (∀ name region accountId queue,
      event = ⟨.getQueue name region accountId, .ok (some queue)⟩ → check.IsFor library queue) ∧
    (∀ queueId, event.1.queueId = some queueId →
      ∃ queue ∈ state.queues.rows, queue.id = queueId ∧ check.IsFor library queue) := by
  have resolved := resolveAuthorization_sqsAction resolves
  obtain ⟨relevant, between, isRelevant, built⟩ := succeeds_bind.mp resolved
  obtain ⟨rfl, rfl⟩ := succeeds_pure.mp built
  by_cases isGet : action = .getQueueUrl
  · subst isGet
    rcases events_getQueueUrl isRelevant made with ⟨name, region, accountId, rfl⟩
    refine ⟨fun _ _ _ queue equal => ?_, fun queueId named => nomatch named⟩
    obtain ⟨-, sameAnswer⟩ := Sigma.mk.inj equal
    obtain rfl := Except.ok.inj (eq_of_heq sameAnswer)
    exact ⟨rfl, rfl⟩
  · rw [getRelevantQueueForAction_eq notCreate isGet notList] at isRelevant
    obtain ⟨queue, _, found, same⟩ := succeeds_bind.mp isRelevant
    obtain ⟨rfl, rfl⟩ := succeeds_pure.mp same
    obtain ⟨queueUrl, _, isUrl, loads⟩ := succeeds_bind.mp found
    obtain ⟨untyped, rfl⟩ := succeeds_liftExcept.mp isUrl
    obtain ⟨isRow, rfl⟩ := row_of_succeeds_load loads
    have acts := @actsOnQueue_handle _ generated _ _ notCreate isGet notList _ untyped
    rcases acts.events loads made with ⟨name, region, accountId, rfl⟩ | about
    · refine ⟨fun _ _ _ other equal => ?_, fun queueId named => nomatch named⟩
      obtain ⟨-, sameAnswer⟩ := Sigma.mk.inj equal
      obtain rfl := Option.some.inj (Except.ok.inj (eq_of_heq sameAnswer))
      exact ⟨rfl, rfl⟩
    · refine ⟨fun _ _ _ other equal => ?_, fun queueId named => ?_⟩
      · rw [equal] at about
        exact nomatch about
      · obtain rfl := Option.some.inj (about.symm.trans named)
        exact ⟨queue, isRow, rfl, rfl, rfl⟩

/-! ### A queue that is deleted -/

/-- The library, which reads the body of a request to delete a queue.  A member that
is not declared occurs twice. -/
def ordersDeletionLibrary : SqsLibrary :=
  { sampleLibrary with
    json := { sampleLibrary.json with
      read := fun _ => .ok (.object [("Note", .integer 1),
        ("QueueUrl", .string "http://localhost:4566/000000000000/orders"), ("Note", .null)]) } }

def ordersDeletionRequest : ResolvedRequest :=
  userRequest 0 (("\x7b\"Note\":1,\"QueueUrl\":" : Text) ++
    "\"http://localhost:4566/000000000000/orders\",\"Note\":null\x7d".toList)

/-- The check of the request. -/
def ordersDeletionCheck : AuthorizationCheck where
  action := "sqs:DeleteQueue"
  resource := "arn:aws:sqs:us-east-1:000000000000:orders"
  resourcePolicy := some (queuePolicy ordersDeletionLibrary ordersQueue)

/-- What the server draws for it: nothing that is used. -/
def nothingGenerated : SqsGenerated where
  now _ := 0
  messageIds _ := []
  polls := 0

/-- The queue that is deleted is the one that was authorized. -/
theorem authorized_queue_is_deleted :
    Succeeds SqsDatabase.serve
        ((sqsAction ordersDeletionLibrary nothingGenerated .deleteQueue).typed.adaptedResolveAuthorization
          ordersDeletionRequest) ordersStore ordersDeletionCheck ordersStore ∧
      ∃ queue ∈ ordersStore.queues.rows, queue.id = 1 ∧ ordersDeletionCheck.IsFor ordersDeletionLibrary queue := by
  have resolves : Succeeds SqsDatabase.serve
      ((sqsAction ordersDeletionLibrary nothingGenerated .deleteQueue).typed.adaptedResolveAuthorization
        ordersDeletionRequest) ordersStore ordersDeletionCheck ordersStore := by
    rfl
  have deletes : (⟨.deleteQueue 1, .ok ()⟩ : Event sqsStore) ∈
      ((sqsAction ordersDeletionLibrary nothingGenerated .deleteQueue).typed.adaptedHandle
        ordersDeletionRequest).run.events SqsDatabase.serve ordersStore :=
    List.mem_cons_of_mem _ List.mem_cons_self
  exact ⟨resolves, (authorized_queue_is_acted_on (by decide) (by decide) resolves deletes).2 1 rfl⟩

end Hiraeth
