import Hiraeth.Lib.Finished
import Hiraeth.Sqs.SendMessage
import Hiraeth.Store.SqliteSqs

/-!
# What an accepted message is

A request that sends messages asks the store for its queue and then stores its
messages, one call each.  Other requests may be answered in between.  This module
says what a single request and an entry of a batch have in common, once they have
been accepted.

## Main definitions

* `ToldQueue` — the store has answered a request with a queue
* `Accepted` — a message was accepted, alone or as an entry of a batch

## Main results

* `Accepted.prepared` — the message that was stored and the answer for it are what
  `prepareMessage` makes of the content, for the queue that the request was told
-/

namespace Hiraeth

open Interaction Program

variable {library : SqsLibrary} {request : ResolvedRequest} {events : List (Event sqsStore)}

theorem finishes_sqsCall {call : SqsCall} {answer : call.Answer} :
    Finishes (sqsCall call) events answer ↔ events = [⟨call, answer⟩] :=
  @finishes_perform sqsStore events call answer

/-- **A queue that is loaded by its URL**: the one call, and its answer. -/
theorem completes_loadQueueFromUrl {queueUrl : Text} {queue : SqsQueue} :
    Completes (loadQueueFromUrl library request queueUrl) events queue ↔
      ∃ queueId, parseQueueUrl library.url queueUrl request.region = some queueId ∧
        events = [⟨.getQueue queueId.name queueId.region queueId.accountId,
          .ok (some queue)⟩] := by
  unfold loadQueueFromUrl
  cases parsed : parseQueueUrl library.url queueUrl request.region with
  | none => simp
  | some queueId =>
      simp only [completes_bind, completes_orFail, Option.some.injEq]
      constructor
      · rintro ⟨found, first, later, rfl, asked, rest⟩
        obtain rfl := finishes_sqsCall.mp asked
        cases found with
        | none => exact absurd rest not_completes_throw
        | some found =>
            obtain ⟨rfl, rfl⟩ := completes_pure.mp rest
            exact ⟨queueId, rfl, rfl⟩
      · rintro ⟨_, rfl, rfl⟩
        exact ⟨some queue, _, [], rfl, finishes_sqsCall.mpr rfl, completes_pure.mpr ⟨rfl, rfl⟩⟩

/-- A queue that is loaded by its URL while nothing else runs. -/
theorem succeeds_loadQueueFromUrl {S : Type} {serve : Serve sqsStore S} {state final : S}
    {queueUrl : Text} {queue : SqsQueue} :
    Succeeds serve (loadQueueFromUrl library request queueUrl) state queue final ↔
      ∃ queueId, parseQueueUrl library.url queueUrl request.region = some queueId ∧
        serve (.getQueue queueId.name queueId.region queueId.accountId) state =
          (.ok (some queue), final) := by
  unfold loadQueueFromUrl
  cases parsed : parseQueueUrl library.url queueUrl request.region with
  | none => simp
  | some queueId =>
      simp only [succeeds_bind, succeeds_orFail, Option.some.injEq]
      constructor
      · rintro ⟨found, between, asked, rest⟩
        cases found with
        | none => exact absurd rest not_succeeds_throw
        | some found =>
            obtain ⟨rfl, rfl⟩ := succeeds_pure.mp rest
            exact ⟨queueId, rfl, asked⟩
      · rintro ⟨_, rfl, asked⟩
        exact ⟨some queue, final, asked, succeeds_pure.mpr ⟨rfl, rfl⟩⟩

/-- The store has answered with the queue. -/
def ToldQueue (queue : SqsQueue) (events : List (Event sqsStore)) : Prop :=
  ∃ queueName region accountId,
    (⟨.getQueue queueName region accountId, .ok (some queue)⟩ : Event sqsStore) ∈ events

/-! ### Single messages -/

/-- **What a single message comes to.** -/
theorem completes_handleSendMessage {messageId : Text} {requestBody : SendMessageRequest}
    {response : SendMessageResponse} :
    Completes (handleSendMessage library messageId request requestBody) events response ↔
      ∃ queue delaySeconds message,
        (∃ queueId, parseQueueUrl library.url requestBody.queueUrl request.region =
          some queueId ∧ events = [⟨.getQueue queueId.name queueId.region queueId.accountId,
            .ok (some queue)⟩, ⟨.sendMessage message, .ok ()⟩]) ∧
        validateMessageBody requestBody.messageBody queue.maximumMessageSize = .ok () ∧
        resolveDelaySeconds requestBody.delaySeconds queue.delaySeconds = .ok delaySeconds ∧
        prepareMessage library request.date queue messageId requestBody.toMessageContent
          delaySeconds = .ok ⟨message, response⟩ := by
  simp only [handleSendMessage, completes_bind, completes_loadQueueFromUrl, completes_liftExcept,
    completes_orFail, completes_pure]
  constructor
  · rintro ⟨queue, loading, _, rfl, ⟨queueId, parsed, rfl⟩, ⟨⟩, _, _, rfl, ⟨rfl, checked⟩,
      delaySeconds, _, _, rfl, ⟨rfl, resolved⟩, ⟨message, answer⟩, _, _, rfl, ⟨rfl, prepared⟩,
      ⟨⟩, _, _, rfl, sent, rfl, rfl⟩
    obtain rfl := finishes_sqsCall.mp sent
    exact ⟨queue, delaySeconds, message, ⟨queueId, parsed, rfl⟩, checked, resolved, prepared⟩
  · rintro ⟨queue, delaySeconds, message, ⟨queueId, parsed, rfl⟩, checked, resolved, prepared⟩
    exact ⟨queue, _, _, rfl, ⟨queueId, parsed, rfl⟩, (), [], _, rfl, ⟨rfl, checked⟩,
      delaySeconds, [], _, rfl, ⟨rfl, resolved⟩, _, [], _, rfl, ⟨rfl, prepared⟩, (), _, [], rfl,
      finishes_sqsCall.mpr rfl, rfl, rfl⟩

/-! ### Batches -/

/-- What an entry of a batch comes to when it is sent. -/
theorem finishes_sendBatchEntry {date : Time} {queue : SqsQueue} {messageId : Text}
    {entry : SendMessageBatchEntry} {result : SendMessageBatchResultEntry} :
    Finishes (sendBatchEntry library date queue messageId entry) events (.ok result) ↔
      ∃ message, events = [⟨.sendMessage message, .ok ()⟩] ∧ result.id = entry.id ∧
        prepareBatchEntry library date queue messageId entry =
          .ok ⟨message, result.toSendMessageResponse⟩ := by
  show Completes _ _ _ ↔ _
  simp only [completes_bind, completes_liftExcept, mapError_eq_ok, completes_orFail,
    completes_pure]
  constructor
  · rintro ⟨⟨message, response⟩, _, _, rfl, ⟨rfl, prepared⟩, ⟨⟩, _, _, rfl, sent, rfl, rfl⟩
    obtain rfl := finishes_sqsCall.mp sent
    exact ⟨message, rfl, rfl, prepared⟩
  · rintro ⟨message, rfl, sameId, prepared⟩
    exact ⟨_, [], _, rfl, ⟨rfl, prepared⟩, (), _, [], rfl, finishes_sqsCall.mpr rfl, rfl,
      by rw [← sameId]⟩

/-- **What a batch comes to.**  Its results are those of its entries, each with the
id for its position. -/
theorem completes_handleSendMessageBatch {messageIds : ℕ → Text}
    {requestBody : SendMessageBatchRequest} {response : SendMessageBatchResponse}
    (completes : Completes (handleSendMessageBatch library messageIds request requestBody) events
      response) :
    ∃ queue loading sending results,
      Completes (loadQueueFromUrl library request requestBody.queueUrl) loading queue ∧
      events = loading ++ sending ∧
      (requestBody.entries.map (·.id)).Nodup ∧
      Finishes (requestBody.entries.zipIdx.mapM fun entry =>
        sendBatchEntry library request.date queue (messageIds entry.2) entry.1) sending results ∧
      response = { successful := successesOf results, failed := failuresOf results } := by
  simp only [handleSendMessageBatch, completes_bind, completes_liftExcept, completes_pure,
    completes_lift] at completes
  obtain ⟨queue, loading, _, rfl, loaded, ⟨⟩, _, _, rfl, ⟨rfl, checked⟩, results, sending, _, rfl,
    sent, rfl, rfl⟩ := completes
  refine ⟨queue, loading, sending, results, loaded, by simp, ?_, sent, rfl⟩
  by_contra repeated
  rw [validateBatchRequest, if_pos repeated] at checked
  cases checked

/-- A message that an entry sends is the one that was prepared for it. -/
theorem prepared_of_mem_sendBatchEntry {date : Time} {queue : SqsQueue} {messageId : Text}
    {entry : SendMessageBatchEntry}
    {result : Except BatchResultErrorEntry SendMessageBatchResultEntry} {message : SqsMessage}
    {answer : StoreResult Unit}
    (finishes : Finishes (sendBatchEntry library date queue messageId entry) events result)
    (sent : (⟨.sendMessage message, answer⟩ : Event sqsStore) ∈ events) :
    ∃ response, prepareBatchEntry library date queue messageId entry = .ok ⟨message, response⟩ := by
  unfold sendBatchEntry at finishes
  cases prepared : prepareBatchEntry library date queue messageId entry with
  | error failure =>
      rw [prepared] at finishes
      obtain ⟨rfl, -⟩ := finishes_done.mp finishes
      cases sent
  | ok ready =>
      obtain ⟨stored, response⟩ := ready
      rw [prepared] at finishes
      -- the one call is the sending of the prepared message
      have only : ∀ event ∈ events, event.1 = SqsCall.sendMessage stored := by
        refine @Finishes.allCalls sqsStore _ _ (fun call => call = SqsCall.sendMessage stored) _ _
          finishes ⟨rfl, fun answer => ?_⟩
        cases answer <;> exact trivial
      obtain rfl : message = stored := by simpa using only _ sent
      exact ⟨response, rfl⟩

/-- An entry of a batch does nothing but send. -/
theorem sends_of_mem_sendBatchEntry {date : Time} {queue : SqsQueue} {messageId : Text}
    {entry : SendMessageBatchEntry}
    {result : Except BatchResultErrorEntry SendMessageBatchResultEntry}
    (finishes : Finishes (sendBatchEntry library date queue messageId entry) events result)
    {event : Event sqsStore} (member : event ∈ events) :
    ∃ message, event.1 = SqsCall.sendMessage message := by
  refine @Finishes.allCalls sqsStore _ _ (fun call => ∃ message, call = SqsCall.sendMessage message)
    _ _ finishes ?_ event member
  unfold sendBatchEntry
  cases prepareBatchEntry library date queue messageId entry with
  | error failure => exact trivial
  | ok ready =>
      refine ⟨⟨ready.message, rfl⟩, fun answer => ?_⟩
      cases answer <;> exact trivial

/-- **What is prepared**: the columns of the message, and the digests of the
answer. -/
structure PreparedFrom (library : SqsLibrary) (date : Time) (queue : SqsQueue) (messageId : Text)
    (content : MessageContent) (delaySeconds : ℤ) (message : SqsMessage)
    (response : SendMessageResponse) : Prop where
  ownId : message.messageId = messageId
  ownQueue : message.queueId = queue.id
  sameBody : message.body = content.messageBody
  serialized : message.messageAttributes =
    content.messageAttributes.map (serializeMessageAttributes library)
  visibleAt : message.visibleAt = date + seconds delaySeconds
  expiresAt : message.expiresAt = date + seconds queue.messageRetentionPeriodSeconds
  unreceived : message.receiptHandle = none
  answeredId : response.messageId = messageId
  bodyDigest : response.md5OfMessageBody = md5Hex library content.messageBody.utf8
  digest : digestAttributes library content.messageAttributes =
    .ok response.md5OfMessageAttributes

theorem preparedFrom_of_prepareMessage {date : Time} {queue : SqsQueue} {messageId : Text}
    {content : MessageContent} {delaySeconds : ℤ} {prepared : PreparedMessage}
    (isPrepared : prepareMessage library date queue messageId content delaySeconds =
      .ok prepared) :
    PreparedFrom library date queue messageId content delaySeconds prepared.message
      prepared.response := by
  simp only [prepareMessage, bind_eq_ok, pure_eq_ok, Except.ok.injEq] at isPrepared
  obtain ⟨_, digest, _, -, _, -, rfl⟩ := isPrepared
  exact ⟨rfl, rfl, rfl, rfl, rfl, rfl, rfl, rfl, rfl, digest⟩

/-- What is prepared for an entry. -/
theorem prepareBatchEntry_eq_ok {date : Time} {queue : SqsQueue} {messageId : Text}
    {entry : SendMessageBatchEntry} {prepared : PreparedMessage} :
    prepareBatchEntry library date queue messageId entry = .ok prepared ↔
      ∃ delaySeconds, resolveDelaySeconds entry.delaySeconds queue.delaySeconds =
          .ok delaySeconds ∧
        validateMessageBody entry.messageBody queue.maximumMessageSize = .ok () ∧
        prepareMessage library date queue messageId entry.toMessageContent delaySeconds =
          .ok prepared := by
  simp only [prepareBatchEntry, bind_eq_ok]
  constructor
  · rintro ⟨delaySeconds, resolved, ⟨⟩, checked, prepared⟩
    exact ⟨delaySeconds, resolved, checked, prepared⟩
  · rintro ⟨delaySeconds, resolved, checked, prepared⟩
    exact ⟨delaySeconds, resolved, (), checked, prepared⟩

/-! ### Both ways -/

/-- **A message was accepted**, alone or as an entry of a batch: `message` was
stored, and `response` is the answer for it. -/
inductive Accepted (library : SqsLibrary) (request : ResolvedRequest)
    (events : List (Event sqsStore)) (content : MessageContent) (message : SqsMessage)
    (response : SendMessageResponse) : Prop
  | single {messageId : Text} {requestBody : SendMessageRequest}
      (isContent : requestBody.toMessageContent = content)
      (completes : Completes (handleSendMessage library messageId request requestBody) events
        response)
      (sent : (⟨.sendMessage message, .ok ()⟩ : Event sqsStore) ∈ events) :
      Accepted library request events content message response
  | entry {messageIds : ℕ → Text} {requestBody : SendMessageBatchRequest}
      {answer : SendMessageBatchResponse} {position : ℕ} {entry : SendMessageBatchEntry}
      {result : SendMessageBatchResultEntry}
      (distinct : Function.Injective messageIds)
      (isEntry : requestBody.entries[position]? = some entry)
      (isContent : entry.toMessageContent = content)
      (completes : Completes (handleSendMessageBatch library messageIds request requestBody)
        events answer)
      (successful : result ∈ answer.successful) (own : result.id = entry.id)
      (isResponse : result.toSendMessageResponse = response)
      (sent : (⟨.sendMessage message, .ok ()⟩ : Event sqsStore) ∈ events)
      (same : message.messageId = response.messageId) :
      Accepted library request events content message response

/-- Entries with one id are one entry, at one position. -/
theorem position_eq_of_id_eq {entries : List SendMessageBatchEntry}
    (distinct : (entries.map (·.id)).Nodup) {left right : SendMessageBatchEntry}
    {position position' : ℕ} (isLeft : entries[position]? = some left)
    (isRight : entries[position']? = some right) (same : left.id = right.id) :
    position = position' := by
  obtain ⟨bound, -⟩ := List.getElem?_eq_some_iff.mp isLeft
  refine (List.getElem?_inj (by simpa using bound) distinct).mp ?_
  rw [List.getElem?_map, List.getElem?_map, isLeft, isRight, Option.map_some, Option.map_some,
    same]

/-- A request for a queue learns of one queue only. -/
theorem eq_of_toldQueue {queueUrl : Text} {loading sending : List (Event sqsStore)}
    {loaded queue : SqsQueue}
    (isLoaded : Completes (loadQueueFromUrl library request queueUrl) loading loaded)
    (sends : ∀ event ∈ sending, ∃ message, event.1 = SqsCall.sendMessage message)
    (told : ToldQueue queue (loading ++ sending)) : queue = loaded := by
  obtain ⟨queueId, -, rfl⟩ := completes_loadQueueFromUrl.mp isLoaded
  obtain ⟨queueName, region, accountId, member⟩ := told
  rcases List.mem_append.mp member with early | late
  · rw [List.mem_singleton] at early
    injection early with sameCall sameAnswer
    obtain ⟨rfl, rfl, rfl⟩ := SqsCall.getQueue.inj sameCall
    exact Option.some.inj (Except.ok.inj sameAnswer)
  · obtain ⟨message, isSend⟩ := sends _ late
    cases isSend

/-- **What an accepted message is.**  The message and the answer are what is
prepared for its content and the queue that the request was told. -/
theorem Accepted.prepared {content : MessageContent} {message : SqsMessage}
    {response : SendMessageResponse} {queue : SqsQueue}
    (accepted : Accepted library request events content message response)
    (told : ToldQueue queue events) :
    PreparedFrom library request.date queue message.messageId content
      (content.delaySeconds.getD queue.delaySeconds) message response := by
  -- the delay that was resolved is the effective one
  suffices ∃ delaySeconds, resolveDelaySeconds content.delaySeconds queue.delaySeconds =
        .ok delaySeconds ∧
      prepareMessage library request.date queue message.messageId content delaySeconds =
        .ok ⟨message, response⟩ by
    obtain ⟨delaySeconds, resolved, isPrepared⟩ := this
    simp only [resolveDelaySeconds] at resolved
    split_ifs at resolved
    obtain rfl := Except.ok.inj resolved
    exact preparedFrom_of_prepareMessage isPrepared
  cases accepted with
  | @single messageId requestBody isContent completes sent =>
      obtain ⟨loaded, delaySeconds, stored, ⟨queueId, parsed, rfl⟩, -, resolved, isPrepared⟩ :=
        completes_handleSendMessage.mp completes
      obtain rfl : queue = loaded := by
        refine eq_of_toldQueue (completes_loadQueueFromUrl.mpr ⟨queueId, parsed, rfl⟩)
          (fun event member => ?_) told
        rw [List.mem_singleton] at member
        exact ⟨stored, by rw [member]⟩
      obtain rfl : message = stored := by simpa using sent
      rw [← isContent, (preparedFrom_of_prepareMessage isPrepared).ownId]
      exact ⟨delaySeconds, resolved, isPrepared⟩
  | @entry messageIds requestBody answer position entry result distinct isEntry isContent completes
      successful own isResponse sent same =>
      obtain ⟨loaded, loading, sending, results, isLoaded, rfl, ids, finishes, rfl⟩ :=
        completes_handleSendMessageBatch completes
      have ofEntry : ∀ event ∈ sending, ∃ item ∈ requestBody.entries.zipIdx, ∃ own outcome,
          Finishes (sendBatchEntry library request.date loaded (messageIds item.2) item.1) own
            outcome ∧ event ∈ own := fun event member => finishes.exists_item_of_mem member
      obtain rfl : queue = loaded := by
        refine eq_of_toldQueue isLoaded (fun event member => ?_) told
        obtain ⟨item, -, own, outcome, finished, among⟩ := ofEntry event member
        exact sends_of_mem_sendBatchEntry finished among
      -- the result belongs to the entry with its id
      obtain ⟨item, isItem, itemEvents, finished⟩ :
          ∃ item ∈ requestBody.entries.zipIdx, ∃ own,
            Finishes (sendBatchEntry library request.date queue (messageIds item.2) item.1) own
              (.ok result) := by
        obtain ⟨outcome, isOutcome, isResult⟩ := List.mem_filterMap.mp successful
        obtain ⟨item, isItem, itemEvents, -, finished⟩ :=
          exists_of_forall₂ finishes.mapM isOutcome
        cases outcome with
        | error failure => cases isResult
        | ok value =>
            obtain rfl := Option.some.inj isResult
            exact ⟨item, isItem, itemEvents, finished⟩
      obtain ⟨stored, rfl, sameId, isPrepared⟩ := finishes_sendBatchEntry.mp finished
      have here : requestBody.entries[item.2]? = some item.1 := by
        simpa using List.mem_zipIdx_iff_getElem?.mp isItem
      obtain rfl : position = item.2 :=
        position_eq_of_id_eq ids isEntry here (own.symm.trans sameId)
      obtain rfl : entry = item.1 := Option.some.inj (isEntry.symm.trans here)
      -- so does the message, by its own id
      obtain ⟨other, isOther, otherEvents, outcome, finished', among⟩ := ofEntry _ <| by
        refine (List.mem_append.mp sent).resolve_left fun early => ?_
        obtain ⟨queueId, -, rfl⟩ := completes_loadQueueFromUrl.mp isLoaded
        cases List.mem_singleton.mp early
      obtain ⟨response', isPrepared'⟩ := prepared_of_mem_sendBatchEntry finished' among
      obtain ⟨delaySeconds, resolved, checked, ready⟩ := prepareBatchEntry_eq_ok.mp isPrepared
      obtain ⟨_, -, -, ready'⟩ := prepareBatchEntry_eq_ok.mp isPrepared'
      have sameMessageId : messageIds other.2 = messageIds item.2 := by
        rw [← (preparedFrom_of_prepareMessage ready').ownId, same, ← isResponse]
        exact (preparedFrom_of_prepareMessage ready).answeredId
      have there : requestBody.entries[other.2]? = some other.1 := by
        simpa using List.mem_zipIdx_iff_getElem?.mp isOther
      obtain rfl : other = item := by
        have samePosition := distinct sameMessageId
        rw [samePosition] at there
        exact Prod.ext (Option.some.inj (there.symm.trans here)) samePosition
      rw [isPrepared] at isPrepared'
      obtain ⟨rfl, -⟩ := PreparedMessage.mk.inj (Except.ok.inj isPrepared')
      refine ⟨delaySeconds, isContent ▸ resolved, ?_⟩
      rw [← isContent, (preparedFrom_of_prepareMessage ready).ownId, ← isResponse]
      exact ready

/-- A request that was accepted was told a queue. -/
theorem Accepted.told {content : MessageContent} {message : SqsMessage}
    {response : SendMessageResponse}
    (accepted : Accepted library request events content message response) :
    ∃ queue, ToldQueue queue events := by
  cases accepted with
  | single isContent completes sent =>
      obtain ⟨queue, -, -, ⟨queueId, -, rfl⟩, -⟩ := completes_handleSendMessage.mp completes
      exact ⟨queue, _, _, _, List.mem_cons_self⟩
  | entry distinct isEntry isContent completes successful own isResponse sent same =>
      obtain ⟨queue, loading, sending, -, isLoaded, rfl, -⟩ :=
        completes_handleSendMessageBatch completes
      obtain ⟨queueId, -, rfl⟩ := completes_loadQueueFromUrl.mp isLoaded
      exact ⟨queue, _, _, _, List.mem_cons_self⟩

/-- The message of an accepted request was sent. -/
theorem Accepted.sends {content : MessageContent} {message : SqsMessage}
    {response : SendMessageResponse}
    (accepted : Accepted library request events content message response) :
    (⟨.sendMessage message, .ok ()⟩ : Event sqsStore) ∈ events := by
  cases accepted with
  | single isContent completes sent => exact sent
  | entry distinct isEntry isContent completes successful own isResponse sent same => exact sent

/-! ### An accepted message -/

/-- Libraries as far as the samples need them: two digests, two JSON texts, and
URLs in which nothing has to be rewritten. -/
def sampleLibrary : SqsLibrary where
  md5 bytes :=
    if bytes = Text.utf8 "hello" then
      [0x5d, 0x41, 0x40, 0x2a, 0xbc, 0x4b, 0x2a, 0x76, 0xb9, 0x71, 0x9d, 0x91, 0x10, 0x17, 0xc5, 0x92]
    else
      [0x57, 0xdd, 0x03, 0xeb, 0x02, 0x06, 0x78, 0xb5, 0x6f, 0xd5, 0xc3, 0x1e, 0x88, 0xf4, 0xcf, 0xf1]
  decodeBase64 _ := .error "Invalid padding"
  json := {
    read := fun bytes =>
      if bytes = Text.utf8 "{}" then .ok (.object [])
      else .ok (.object [("kind", encodeMessageAttributeValue ⟨"String", some "x", none⟩)])
    write := fun json =>
      match json with
      | .object [] => "{}"
      | _ => ("\x7b\"kind\":\x7b\"DataType\":\"String\",\"StringValue\":\"x\"," : Text) ++
          "\"BinaryValue\":null\x7d\x7d".toList }
  url := {
    parseAuthority := some
    encodePathChar := fun c => [c]
    parseOther := fun _ => none }

/-- A queue with the default attributes. -/
def ordersQueue : SqsQueue :=
  { SqsQueue.default with
    id := 1, name := "orders", region := "us-east-1", accountId := "000000000000" }

/-- A store with one queue and no messages. -/
def ordersStore : SqsDatabase :=
  { SqsDatabase.empty (fun _ => 0) fun draw => List.replicate draw 'h' with
    queues := ⟨[ordersQueue], List.pairwise_singleton _ _⟩ }

/-- A request of a user, sent at a time of the client's choosing. -/
def userRequest (date : Time) (body : Text) : ResolvedRequest where
  requestId := "request"
  request := {
    host := "localhost:4566"
    method := "POST"
    path := "/"
    query := none
    headers := fun _ => none
    body := body.utf8 }
  service := "sqs"
  region := "us-east-1"
  authContext := {
    accessKey := "AKIATEST"
    principal := ⟨1, "000000000000", "user", "test", "/", "AIDATEST", 0⟩ }
  date := date

/-- A message with an attribute. -/
def helloRequest : SendMessageRequest where
  delaySeconds := none
  messageAttributes := some (SortedMap.ofList [("kind", ⟨"String", some "x", none⟩)])
  messageSystemAttributes := none
  messageBody := "hello"
  messageDeduplicationId := none
  messageGroupId := none
  queueUrl := "http://localhost:4566/000000000000/orders"

/-- The message that is stored for it. -/
def helloMessage (date : Time) : SqsMessage where
  messageId := "m"
  queueId := 1
  body := "hello"
  messageAttributes := helloRequest.messageAttributes.map (serializeMessageAttributes sampleLibrary)
  awsTraceHeader := none
  sentAt := date
  visibleAt := date + seconds 0
  expiresAt := date + seconds 345600
  receiveCount := 0
  receiptHandle := none
  firstReceivedAt := none
  messageGroupId := none
  messageDeduplicationId := none

/-- The answer for it. -/
def helloResponse : SendMessageResponse where
  md5OfMessageAttributes := some "57dd03eb020678b56fd5c31e88f4cff1"
  md5OfMessageBody := "5d41402abc4b2a76b9719d911017c592"
  md5OfMessageSystemAttributes := none
  messageId := "m"
  sequenceNumber := none

/-- The two calls of the request. -/
def helloEvents (date : Time) : List (Event sqsStore) :=
  [⟨.getQueue "orders" "us-east-1" "000000000000", .ok (some ordersQueue)⟩,
    ⟨.sendMessage (helloMessage date), .ok ()⟩]

theorem toldQueue_helloEvents (date : Time) : ToldQueue ordersQueue (helloEvents date) :=
  ⟨_, _, _, List.mem_cons_self⟩

theorem accepted_hello (date : Time) :
    Accepted sampleLibrary (userRequest date []) (helloEvents date)
      helloRequest.toMessageContent (helloMessage date) helloResponse := by
  have completes : Completes (handleSendMessage sampleLibrary "m" (userRequest date [])
      helloRequest) (helloEvents date) helloResponse := by
    refine completes_handleSendMessage.mpr ?_
    refine ⟨ordersQueue, 0, helloMessage date, ⟨⟨"orders", "us-east-1", "000000000000"⟩, ?_, rfl⟩,
      ?_, rfl, rfl⟩
    · show parseQueueUrl sampleLibrary.url helloRequest.queueUrl "us-east-1" = _
      decide +kernel
    · decide +kernel
  exact .single rfl completes (List.mem_cons_of_mem _ List.mem_cons_self)

end Hiraeth
