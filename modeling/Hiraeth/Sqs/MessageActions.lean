import Hiraeth.Sqs.SendMessage

/-!
# Actions on received messages

A message that was received is deleted, or its visibility is changed, under the
handle it was received with.  Both have a batch form, in which the entries fail
one by one.

The time from which a visibility timeout is counted is read from the clock of the
server, and is an argument here; in a batch it is read for each entry.

## Main definitions

* `deleteMessageAction`, `deleteMessageBatchAction` — deleting
* `changeMessageVisibilityAction`, `changeMessageVisibilityBatchAction` — changing
  the visibility
-/

namespace Hiraeth

open Interaction

/-! ### Deleting -/

structure DeleteMessageRequest where
  queueUrl : Text
  receiptHandle : Text
  deriving DecidableEq

/-- `DeleteMessageRequest::deserialize`. -/
def decodeDeleteMessageRequest (json : Json) : Except Text DeleteMessageRequest := do
  let fields ← json.readFields "DeleteMessageRequest"
    [⟨"QueueUrl", false⟩, ⟨"ReceiptHandle", false⟩]
  let queueUrl ← fields.required "QueueUrl" Json.asText
  let receiptHandle ← fields.required "ReceiptHandle" Json.asText
  return ⟨queueUrl, receiptHandle⟩

/-- `DeleteMessageAction`. -/
def deleteMessageAction (library : SqsLibrary) :
    TypedAwsAction sqsStore SqsError DeleteMessageRequest Unit where
  name := SqsAction.deleteMessage.name
  parse := parseSqsPayload library decodeDeleteMessageRequest
  validate _ _ := return ()
  handle request deleteRequest := do
    let queue ← loadQueueFromUrl library request deleteRequest.queueUrl
    (sqsCall (.deleteMessage queue.id deleteRequest.receiptHandle)).orFail
      SqsError.ofReceiptHandleStoreError
  resolveAuthorization request _ := Sqs.resolveAuthorization library .deleteMessage request

structure DeleteMessageBatchEntry where
  id : Text
  receiptHandle : Text
  deriving DecidableEq

/-- `DeleteMessageBatchEntry::deserialize`. -/
def decodeDeleteMessageBatchEntry (json : Json) : Except Text DeleteMessageBatchEntry := do
  let fields ← json.readFields "DeleteMessageBatchEntry"
    [⟨"Id", false⟩, ⟨"ReceiptHandle", false⟩]
  let id ← fields.required "Id" Json.asText
  let receiptHandle ← fields.required "ReceiptHandle" Json.asText
  return ⟨id, receiptHandle⟩

structure DeleteMessageBatchRequest where
  queueUrl : Text
  entries : List DeleteMessageBatchEntry
  deriving DecidableEq

/-- `DeleteMessageBatchRequest::deserialize`. -/
def decodeDeleteMessageBatchRequest (json : Json) : Except Text DeleteMessageBatchRequest := do
  let fields ← json.readFields "DeleteMessageBatchRequest"
    [⟨"QueueUrl", false⟩, ⟨"Entries", false⟩]
  let queueUrl ← fields.required "QueueUrl" Json.asText
  let entries ← fields.required "Entries" (Json.asList decodeDeleteMessageBatchEntry)
  return ⟨queueUrl, entries⟩

/-- The answer of a batch whose successes have nothing but their ids. -/
structure BatchResponse where
  successful : List Text
  failed : List BatchResultErrorEntry
  deriving DecidableEq

/-- The checks of a batch before it is handled. -/
def validateBatchIds (entryIds : List Text) : Except SqsError Unit := do
  validateBatchRequest entryIds
  entryIds.forM validateBatchEntryId

/-- One entry of a batch, done by one call under its handle. -/
def callForBatchEntry (id : Text) (call : SqsProgram (StoreResult Unit)) :
    SqsProgram (Except BatchResultErrorEntry Text) := do
  match ← call with
  | .ok () => return .ok id
  | .error error => return .error (batchErrorEntry id (SqsError.ofReceiptHandleStoreError error))

/-- `DeleteMessageBatchAction`. -/
def deleteMessageBatchAction (library : SqsLibrary) :
    TypedAwsAction sqsStore SqsError DeleteMessageBatchRequest BatchResponse where
  name := SqsAction.deleteMessageBatch.name
  parse := parseSqsPayload library decodeDeleteMessageBatchRequest
  validate _ deleteRequest := liftExcept (validateBatchIds (deleteRequest.entries.map (·.id)))
  handle request deleteRequest := do
    let queue ← loadQueueFromUrl library request deleteRequest.queueUrl
    liftExcept (validateBatchRequest (deleteRequest.entries.map (·.id)))
    let results ← ExceptT.lift (deleteRequest.entries.mapM fun entry =>
      callForBatchEntry entry.id (sqsCall (.deleteMessage queue.id entry.receiptHandle)))
    return { successful := successesOf results, failed := failuresOf results }
  resolveAuthorization request _ := Sqs.resolveAuthorization library .deleteMessageBatch request

/-! ### Changing the visibility -/

structure ChangeMessageVisibilityRequest where
  queueUrl : Text
  receiptHandle : Text
  visibilityTimeout : ℕ
  deriving DecidableEq

/-- `ChangeMessageVisibilityRequest::deserialize`. -/
def decodeChangeMessageVisibilityRequest (json : Json) :
    Except Text ChangeMessageVisibilityRequest := do
  let fields ← json.readFields "ChangeMessageVisibilityRequest"
    [⟨"QueueUrl", false⟩, ⟨"ReceiptHandle", false⟩, ⟨"VisibilityTimeout", false⟩]
  let queueUrl ← fields.required "QueueUrl" Json.asText
  let receiptHandle ← fields.required "ReceiptHandle" Json.asText
  let visibilityTimeout ← fields.required "VisibilityTimeout" Json.asU32
  return ⟨queueUrl, receiptHandle, visibilityTimeout⟩

/-- `validate_visibility_timeout`. -/
def validateVisibilityTimeout (visibilityTimeout : ℕ) : Except SqsError Unit :=
  if 43200 < visibilityTimeout then
    .error (.badRequest "VisibilityTimeout must be between 0 and 43200")
  else .ok ()

/-- `ChangeMessageVisibilityAction`. -/
def changeMessageVisibilityAction (library : SqsLibrary) (now : Time) :
    TypedAwsAction sqsStore SqsError ChangeMessageVisibilityRequest Unit where
  name := SqsAction.changeMessageVisibility.name
  parse := parseSqsPayload library decodeChangeMessageVisibilityRequest
  validate _ changeRequest := liftExcept (validateVisibilityTimeout changeRequest.visibilityTimeout)
  handle request changeRequest := do
    let queue ← loadQueueFromUrl library request changeRequest.queueUrl
    liftExcept (validateVisibilityTimeout changeRequest.visibilityTimeout)
    (sqsCall (.setMessageVisibleAt queue.id changeRequest.receiptHandle
      (now + seconds changeRequest.visibilityTimeout))).orFail SqsError.ofReceiptHandleStoreError
  resolveAuthorization request _ :=
    Sqs.resolveAuthorization library .changeMessageVisibility request

structure ChangeMessageVisibilityBatchEntry where
  id : Text
  receiptHandle : Text
  visibilityTimeout : ℕ
  deriving DecidableEq

/-- `ChangeMessageVisibilityBatchEntry::deserialize`. -/
def decodeChangeMessageVisibilityBatchEntry (json : Json) :
    Except Text ChangeMessageVisibilityBatchEntry := do
  let fields ← json.readFields "ChangeMessageVisibilityBatchEntry"
    [⟨"Id", false⟩, ⟨"ReceiptHandle", false⟩, ⟨"VisibilityTimeout", false⟩]
  let id ← fields.required "Id" Json.asText
  let receiptHandle ← fields.required "ReceiptHandle" Json.asText
  let visibilityTimeout ← fields.required "VisibilityTimeout" Json.asU32
  return ⟨id, receiptHandle, visibilityTimeout⟩

structure ChangeMessageVisibilityBatchRequest where
  queueUrl : Text
  entries : List ChangeMessageVisibilityBatchEntry
  deriving DecidableEq

/-- `ChangeMessageVisibilityBatchRequest::deserialize`. -/
def decodeChangeMessageVisibilityBatchRequest (json : Json) :
    Except Text ChangeMessageVisibilityBatchRequest := do
  let fields ← json.readFields "ChangeMessageVisibilityBatchRequest"
    [⟨"QueueUrl", false⟩, ⟨"Entries", false⟩]
  let queueUrl ← fields.required "QueueUrl" Json.asText
  let entries ← fields.required "Entries" (Json.asList decodeChangeMessageVisibilityBatchEntry)
  return ⟨queueUrl, entries⟩

/-- One entry of the batch: a timeout out of range is a failure of its own. -/
def changeBatchEntry (now : Time) (queue : SqsQueue) (entry : ChangeMessageVisibilityBatchEntry) :
    SqsProgram (Except BatchResultErrorEntry Text) :=
  match validateVisibilityTimeout entry.visibilityTimeout with
  | .error error => return .error {
      id := entry.id, code := "InvalidParameterValue", message := error.display
      senderFault := true }
  | .ok () => callForBatchEntry entry.id (sqsCall (.setMessageVisibleAt queue.id
      entry.receiptHandle (now + seconds entry.visibilityTimeout)))

/-- `ChangeMessageVisibilityBatchAction`. -/
def changeMessageVisibilityBatchAction (library : SqsLibrary) (now : ℕ → Time) :
    TypedAwsAction sqsStore SqsError ChangeMessageVisibilityBatchRequest BatchResponse where
  name := SqsAction.changeMessageVisibilityBatch.name
  parse := parseSqsPayload library decodeChangeMessageVisibilityBatchRequest
  validate _ changeRequest := liftExcept (validateBatchIds (changeRequest.entries.map (·.id)))
  handle request changeRequest := do
    let queue ← loadQueueFromUrl library request changeRequest.queueUrl
    liftExcept (validateBatchRequest (changeRequest.entries.map (·.id)))
    let results ← ExceptT.lift (changeRequest.entries.zipIdx.mapM fun entry =>
      changeBatchEntry (now entry.2) queue entry.1)
    return { successful := successesOf results, failed := failuresOf results }
  resolveAuthorization request _ :=
    Sqs.resolveAuthorization library .changeMessageVisibilityBatch request

end Hiraeth
