import Hiraeth.Sqs.Accepted
import Hiraeth.Sqs.LeaseLaws
import Hiraeth.Sqs.ReceiveMessage

/-!
# What is received is what was sent

The attributes of a message are written to a column as JSON when it is sent and
read from there when it is received, and digested both times.  In between the
message may be leased, released and rescheduled; none of this touches its body or
its attributes.

The JSON library is assumed to read what it has written for the attributes of the
message, and to read the default of the column as the empty object.

## Main definitions

* `UniquelySent` — no other message has the id
* `Returns` — a store call has returned a message

## Main results

* `received_as_sent` — a message that is received with all its attributes carries
  the body, the attributes and the digests of the request that sent it
-/

namespace Hiraeth

open Interaction Program
open SqsDatabase (serve newMessageRow row_serve)

/-! ### What a receive returns -/

/-- The store has returned the message. -/
def Returns (message : SqsMessage) (events : List (Event sqsStore)) : Prop :=
  ∃ queueId maxNumberOfMessages visibilityTimeoutSeconds messages,
    (⟨.receiveMessages queueId maxNumberOfMessages visibilityTimeoutSeconds, .ok messages⟩ :
      Event sqsStore) ∈ events ∧ message ∈ messages

section Receive

variable {library : SqsLibrary} {events : List (Event sqsStore)}
  {payload : ReceiveMessageRequest} {queue : SqsQueue}

/-- One poll returns what the store returned, rendered. -/
theorem returns_of_completes_receiveOnce {messages : List ReceivedMessage}
    (completes : Completes (receiveOnce library payload queue) events messages)
    {received : ReceivedMessage} (member : received ∈ messages) :
    ∃ message, Returns message events ∧ renderMessage library payload message = .ok received := by
  simp only [receiveOnce, completes_bind, completes_liftExcept, completes_orFail] at completes
  obtain ⟨stored, _, _, rfl, asked, rfl, rendered⟩ := completes
  obtain rfl := finishes_sqsCall.mp asked
  obtain ⟨message, isStored, isRendered⟩ := exists_of_forall₂ (mapM_eq_ok.mp rendered) member
  exact ⟨message, ⟨_, _, _, stored, List.mem_append_left _ List.mem_cons_self, isStored⟩,
    isRendered⟩

theorem Returns.append_right {message : SqsMessage} {later : List (Event sqsStore)}
    (returns : Returns message events) : Returns message (events ++ later) := by
  obtain ⟨_, _, _, messages, member, isReturned⟩ := returns
  exact ⟨_, _, _, messages, List.mem_append_left _ member, isReturned⟩

theorem Returns.append_left {message : SqsMessage} {earlier : List (Event sqsStore)}
    (returns : Returns message events) : Returns message (earlier ++ events) := by
  obtain ⟨_, _, _, messages, member, isReturned⟩ := returns
  exact ⟨_, _, _, messages, List.mem_append_right _ member, isReturned⟩

/-- So does the loop. -/
theorem returns_of_completes_pollMessages {polls : ℕ} {messages : List ReceivedMessage}
    (completes : Completes (pollMessages library payload queue polls) events messages)
    {received : ReceivedMessage} (member : received ∈ messages) :
    ∃ message, Returns message events ∧ renderMessage library payload message = .ok received := by
  induction polls generalizing events with
  | zero => exact returns_of_completes_receiveOnce completes member
  | succ polls inductionHypothesis =>
      obtain ⟨first, _, _, rfl, polled, rest⟩ := completes_bind.mp completes
      by_cases nothing : first = []
      · rw [if_pos nothing] at rest
        obtain ⟨message, returns, rendered⟩ := inductionHypothesis rest
        exact ⟨message, returns.append_left, rendered⟩
      · rw [if_neg nothing] at rest
        obtain ⟨rfl, rfl⟩ := completes_pure.mp rest
        obtain ⟨message, returns, rendered⟩ := returns_of_completes_receiveOnce polled member
        exact ⟨message, returns.append_right, rendered⟩

/-- **Every message of the answer was returned by the store.** -/
theorem returns_of_completes {polls : ℕ} {request : ResolvedRequest}
    {response : ReceiveMessageResponse}
    (completes : Completes (handleReceiveMessage library polls request payload) events response)
    {received : ReceivedMessage} (member : received ∈ response.messages) :
    ∃ message, Returns message events ∧ renderMessage library payload message = .ok received := by
  simp only [handleReceiveMessage, completes_bind, completes_liftExcept, completes_pure]
    at completes
  obtain ⟨queue, loading, _, rfl, -, ⟨⟩, _, _, rfl, ⟨rfl, -⟩, messages, polling, _, rfl, polled,
    rfl, rfl⟩ := completes
  obtain ⟨message, returns, rendered⟩ := returns_of_completes_pollMessages polled member
  exact ⟨message, returns.append_right.append_left.append_left, rendered⟩

end Receive

/-! ### What the store keeps -/

/-- **No other message has the id**: none was stored before, and none is sent. -/
structure UniquelySent (message : SqsMessage) (start : SqsDatabase) (calls : List SqsCall) :
    Prop where
  notStored : ∀ row ∈ start.messages.rows, row.messageId ≠ message.messageId
  notSent : ∀ other, SqsCall.sendMessage other ∈ calls → other.messageId = message.messageId →
    other = message

/-- The text of the column for the attributes. -/
def SqsMessage.storedAttributes (message : SqsMessage) : Text :=
  message.messageAttributes.getD "{}"

/-- The row has the body and the attributes of the message, if it has its id. -/
def Keeps (message : SqsMessage) (row : SqsMessageRow) : Prop :=
  row.messageId = message.messageId →
    row.body = message.body ∧ row.messageAttributes = message.storedAttributes

/-- No call changes the body or the attributes of a message. -/
theorem Keeps.fate {message : SqsMessage} {database : SqsDatabase} {call : SqsCall}
    {row row' : SqsMessageRow} (keeps : Keeps message row)
    (fate : database.Fate call row row') : Keeps message row' := by
  cases fate with
  | kept => exact keeps
  | leased => exact keeps
  | rescheduled => exact keeps

/-- **The store keeps the message as it was sent**, in every state of the
sequence. -/
theorem UniquelySent.keeps {message : SqsMessage} {start : SqsDatabase} {calls : List SqsCall}
    (once : UniquelySent message start calls) :
    ∀ moment ∈ moments serve start calls, ∀ row ∈ moment.before.messages.rows,
      Keeps message row := by
  refine (moments_invariant (fun database : SqsDatabase => ∀ row ∈ database.messages.rows,
    Keeps message row) ?_ fun moment member holds row' present => ?_).1
  · intro row stored same
    exact absurd same (once.notStored row stored)
  · rcases row_serve moment.request present with ⟨row, stored, fate⟩ | ⟨other, isSend, rfl, -⟩
    · exact (holds row stored).fate fate
    · intro same
      obtain rfl := once.notSent other (isSend ▸ request_mem_of_mem_moments member) same
      exact ⟨rfl, rfl⟩

/-- **What a receive returns is what was sent.** -/
theorem UniquelySent.returned {message : SqsMessage} {start : SqsDatabase} {calls : List SqsCall}
    (once : UniquelySent message start calls) {other : SqsMessage} {events : List (Event sqsStore)}
    (returns : Returns other events) (occurs : events ⊆ history serve start calls)
    (same : other.messageId = message.messageId) :
    other.body = message.body ∧ other.messageAttributes = some message.storedAttributes := by
  obtain ⟨queueId, maxNumberOfMessages, visibilityTimeoutSeconds, messages, member, isReturned⟩ :=
    returns
  obtain ⟨⟨before, call⟩, isMoment, isEvent⟩ := mem_history.mp (occurs member)
  obtain rfl : call = .receiveMessages queueId maxNumberOfMessages visibilityTimeoutSeconds :=
    congrArg Sigma.fst isEvent
  have answered : (before.receiveMessages queueId maxNumberOfMessages
      visibilityTimeoutSeconds).1 = .ok messages := by
    injection isEvent
  have among : other ∈ Hiraeth.returned ⟨before, .receiveMessages queueId maxNumberOfMessages
      visibilityTimeoutSeconds⟩ := by
    simp only [Hiraeth.returned, answered]
    exact isReturned
  obtain ⟨row, stored, _, _, -, -, -, rfl⟩ := stored_of_mem_returned among
  obtain ⟨sameBody, sameAttributes⟩ := once.keeps _ isMoment row stored same
  exact ⟨sameBody, congrArg some sameAttributes⟩

/-! ### Rendering -/

/-- Everything that is asked for by `All` is included. -/
theorem filterMessageAttributes_all {attributes : MessageAttributes} {names : List Text}
    (all : ("All" : Text) ∈ names) : filterMessageAttributes attributes names = attributes := by
  refine SortedMap.filter_eq_self fun entry _ => ?_
  exact List.any_eq_true.mpr ⟨"All", all, by simp [-String.reduceToList]⟩

theorem messageId_of_renderMessage {library : SqsLibrary} {payload : ReceiveMessageRequest}
    {message : SqsMessage} {received : ReceivedMessage}
    (rendered : renderMessage library payload message = .ok received) :
    received.messageId = message.messageId := by
  simp only [renderMessage, bind_eq_ok, pure_eq_ok, Except.ok.injEq] at rendered
  obtain ⟨_, -, _, -, rfl⟩ := rendered
  rfl

/-- **Rendering undoes the serialization** and repeats the digest. -/
theorem renderMessage_all {library : SqsLibrary} {payload : ReceiveMessageRequest}
    {message : SqsMessage} {received : ReceivedMessage} {raw : Text}
    {attributes : MessageAttributes} (all : ("All" : Text) ∈ payload.messageAttributeNames)
    (isRaw : message.messageAttributes = some raw) (written : raw ≠ [])
    (reads : library.json.read raw.utf8 = .ok (encodeMessageAttributes attributes))
    (rendered : renderMessage library payload message = .ok received) :
    received.body = message.body ∧ received.messageAttributes = attributes ∧
      received.md5OfBody = some (md5Hex library message.body.utf8) ∧
      digestAttributes library (some attributes) = .ok received.md5OfMessageAttributes := by
  have parsed : parseMessageAttributes library message = .ok attributes := by
    have present : (message.messageAttributes.filter fun text => decide (text ≠ [])) =
        some raw := by
      rw [isRaw, Option.filter_some, if_pos (decide_eq_true written)]
    rw [parseMessageAttributes, present]
    simp only [reads, ok_bind, decodeMessageAttributes_encode]
    rfl
  rw [renderMessage, parsed, ok_bind] at rendered
  simp only [filterMessageAttributes_all all, bind_eq_ok, pure_eq_ok, Except.ok.injEq] at rendered
  obtain ⟨digest, digested, rfl⟩ := rendered
  refine ⟨rfl, rfl, rfl, ?_⟩
  rw [← digested, digestAttributes, Option.filter_some]
  cases attributes.isEmpty <;> rfl

/-! ### The round trip -/

/-- **A message that is received with all its attributes is the message that was
sent**: it has the same body and the same attributes, and the digests are those of
the answer to the sender. -/
theorem received_as_sent {library : SqsLibrary} {start : SqsDatabase} {calls : List SqsCall}
    {sender : ResolvedRequest} {sending : List (Event sqsStore)} {content : MessageContent}
    {message : SqsMessage} {answer : SendMessageResponse}
    (accepted : Accepted library sender sending content message answer)
    (once : UniquelySent message start calls)
    {polls : ℕ} {receiver : ResolvedRequest} {payload : ReceiveMessageRequest}
    {receiving : List (Event sqsStore)} {response : ReceiveMessageResponse}
    (completes : Completes (handleReceiveMessage library polls receiver payload) receiving response)
    (receiveOccurs : receiving ⊆ history serve start calls)
    (all : ("All" : Text) ∈ payload.messageAttributeNames)
    (roundTrips : ∀ attributes, content.messageAttributes = some attributes →
      library.json.RoundTrips (encodeMessageAttributes attributes))
    (emptyObject : library.json.read (Text.utf8 "{}") = .ok (.object []))
    {received : ReceivedMessage} (isReceived : received ∈ response.messages)
    (same : received.messageId = answer.messageId) :
    received.body = content.messageBody ∧
      received.messageAttributes = content.messageAttributes.getD .empty ∧
      received.md5OfBody = some answer.md5OfMessageBody ∧
      received.md5OfMessageAttributes = answer.md5OfMessageAttributes := by
  obtain ⟨queue, told⟩ := accepted.told
  have prepared := accepted.prepared told
  obtain ⟨stored, returns, rendered⟩ := returns_of_completes completes isReceived
  -- what the column holds is not empty and reads as the attributes
  have column : message.storedAttributes ≠ [] ∧
      library.json.read (Text.utf8 message.storedAttributes) =
        .ok (encodeMessageAttributes (content.messageAttributes.getD .empty)) := by
    rw [SqsMessage.storedAttributes, prepared.serialized]
    cases given : content.messageAttributes with
    | none => exact ⟨List.cons_ne_nil _ _, emptyObject⟩
    | some attributes => exact ⟨(roundTrips attributes given).written,
        (roundTrips attributes given).readsBack⟩
  have sameStored : stored.messageId = message.messageId := by
    rw [← messageId_of_renderMessage rendered, same, prepared.answeredId]
  obtain ⟨sameBody, sameColumn⟩ := once.returned returns receiveOccurs sameStored
  obtain ⟨isBody, isAttributes, bodyDigest, digest⟩ :=
    renderMessage_all all sameColumn column.1 column.2 rendered
  refine ⟨?_, isAttributes, ?_, ?_⟩
  · rw [isBody, sameBody, prepared.sameBody]
  · rw [bodyDigest, sameBody, prepared.sameBody, prepared.bodyDigest]
  · -- a message without attributes has no digest, like one with an empty map
    have either : digestAttributes library content.messageAttributes =
        digestAttributes library (some (content.messageAttributes.getD .empty)) := by
      cases content.messageAttributes <;> rfl
    have equal := prepared.digest
    rw [either, digest] at equal
    exact Except.ok.inj equal

/-! ### A run -/

/-- A receive that asks for all attributes. -/
def receiveAll : ReceiveMessageRequest where
  attributeNames := []
  maxNumberOfMessages := 10
  messageAttributeNames := ["All"]
  messageSystemAttributeNames := []
  queueUrl := helloRequest.queueUrl
  visibilityTimeout := none
  waitTimeSeconds := none

/-- The calls of a send and of a receive after it. -/
def helloCalls : List SqsCall :=
  [.getQueue "orders" "us-east-1" "000000000000", .sendMessage (helloMessage 0),
    .getQueue "orders" "us-east-1" "000000000000", .receiveMessages 1 10 30]

/-- What is received. -/
def helloReceived : ReceivedMessage where
  attributes := .empty
  messageAttributes := SortedMap.ofList [("kind", ⟨"String", some "x", none⟩)]
  messageId := "m"
  receiptHandle := []
  body := "hello"
  md5OfBody := some "5d41402abc4b2a76b9719d911017c592"
  md5OfMessageAttributes := some "57dd03eb020678b56fd5c31e88f4cff1"

theorem uniquelySent_hello : UniquelySent (helloMessage 0) ordersStore helloCalls where
  notStored row stored := (by cases stored)
  notSent other isCall _ := by simpa [helloCalls] using isCall

/-- The receive returns the message. -/
theorem completes_receiveAll :
    Completes (handleReceiveMessage sampleLibrary 0 (userRequest 0 []) receiveAll)
      ((history serve ordersStore helloCalls).drop 2) ⟨[helloReceived]⟩ :=
  finishes_run serve (handleReceiveMessage sampleLibrary 0 (userRequest 0 []) receiveAll).run
    (stateAfter serve ordersStore (helloCalls.take 2))

theorem roundTrips_hello (attributes : MessageAttributes)
    (given : helloRequest.messageAttributes = some attributes) :
    sampleLibrary.json.RoundTrips (encodeMessageAttributes attributes) := by
  obtain rfl := Option.some.inj given
  exact ⟨List.cons_ne_nil _ _, rfl⟩

/-- A message with an attribute, sent and received. -/
theorem received_hello :
    helloReceived.body = "hello" ∧
      helloReceived.messageAttributes = helloRequest.messageAttributes.getD .empty ∧
      helloReceived.md5OfBody = some helloResponse.md5OfMessageBody ∧
      helloReceived.md5OfMessageAttributes = helloResponse.md5OfMessageAttributes :=
  received_as_sent (accepted_hello 0) uniquelySent_hello completes_receiveAll
    (List.drop_subset 2 _) List.mem_cons_self roundTrips_hello rfl List.mem_cons_self rfl

end Hiraeth
