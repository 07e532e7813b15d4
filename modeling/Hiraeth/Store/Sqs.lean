import Hiraeth.Lib.Program
import Hiraeth.Store.Basic

/-!
# The SQS store

The records of the SQS store and the calls the services make on it.

## Main definitions

* `SqsQueue`, `SqsMessage`, `SqsQueueAttributeUpdate` — records
* `SqsCall`, `sqsStore` — the calls and the interface they form
-/

namespace Hiraeth

open Interaction

structure SqsQueue where
  id : RowId
  name : Text
  region : Text
  accountId : Text
  queueType : Text
  visibilityTimeoutSeconds : ℤ
  delaySeconds : ℤ
  maximumMessageSize : ℤ
  messageRetentionPeriodSeconds : ℤ
  receiveMessageWaitTimeSeconds : ℤ
  policy : Text
  redrivePolicy : Text
  contentBasedDeduplication : Bool
  kmsMasterKeyId : Option Text
  kmsDataKeyReusePeriodSeconds : ℤ
  deduplicationScope : Text
  fifoThroughputLimit : Text
  redriveAllowPolicy : Text
  sqsManagedSseEnabled : Bool
  createdAt : Time
  updatedAt : Time
  deriving DecidableEq

/-- `SqsQueue::default`. -/
def SqsQueue.default : SqsQueue where
  id := 0
  name := ""
  region := ""
  accountId := ""
  queueType := "standard"
  visibilityTimeoutSeconds := 30
  delaySeconds := 0
  maximumMessageSize := 1048576
  messageRetentionPeriodSeconds := 345600
  receiveMessageWaitTimeSeconds := 0
  policy := "{}"
  redrivePolicy := "{}"
  contentBasedDeduplication := false
  kmsMasterKeyId := none
  kmsDataKeyReusePeriodSeconds := 300
  deduplicationScope := "queue"
  fifoThroughputLimit := "perQueue"
  redriveAllowPolicy := "{}"
  sqsManagedSseEnabled := false
  createdAt := 0
  updatedAt := 0

structure SqsMessage where
  messageId : Text
  queueId : RowId
  body : Text
  messageAttributes : Option Text
  awsTraceHeader : Option Text
  sentAt : Time
  visibleAt : Time
  expiresAt : Time
  receiveCount : ℤ
  receiptHandle : Option Text
  firstReceivedAt : Option Time
  messageGroupId : Option Text
  messageDeduplicationId : Option Text
  deriving DecidableEq

/-- The attributes to change.  The key of the encryption can also be taken
away. -/
structure SqsQueueAttributeUpdate where
  visibilityTimeoutSeconds : Option ℤ
  delaySeconds : Option ℤ
  maximumMessageSize : Option ℤ
  messageRetentionPeriodSeconds : Option ℤ
  receiveMessageWaitTimeSeconds : Option ℤ
  policy : Option Text
  redrivePolicy : Option Text
  contentBasedDeduplication : Option Bool
  kmsMasterKeyId : Option (Option Text)
  kmsDataKeyReusePeriodSeconds : Option ℤ
  deduplicationScope : Option Text
  fifoThroughputLimit : Option Text
  redriveAllowPolicy : Option Text
  sqsManagedSseEnabled : Option Bool
  deriving DecidableEq

/-- The calls of the SQS store.  The map of tags is given by its entries. -/
inductive SqsCall where
  | createQueue (queue : SqsQueue)
  | deleteQueue (queueId : RowId)
  | getQueue (queueName region accountId : Text)
  | getMessageCount (queueId : RowId)
  | getVisibleMessageCount (queueId : RowId)
  | getMessagesDelayedCount (queueId : RowId)
  | listQueues (region accountId : Text) (queueNamePrefix : Option Text)
      (maxResults : Option ℤ) (nextToken : Option Text)
  | purgeQueue (queueId : RowId)
  | setQueueAttributes (queueId : RowId) (attributes : SqsQueueAttributeUpdate)
  | listQueueTags (queueId : RowId)
  | tagQueue (queueId : RowId) (tags : List (Text × Text))
  | untagQueue (queueId : RowId) (tagKeys : List Text)
  | sendMessage (message : SqsMessage)
  | receiveMessages (queueId : RowId) (maxNumberOfMessages : ℤ)
      (visibilityTimeoutSeconds : ℕ)
  | deleteMessage (queueId : RowId) (receiptHandle : Text)
  | setMessageVisibleAt (queueId : RowId) (receiptHandle : Text) (visibleAt : Time)
  deriving DecidableEq

/-- What each call is answered with. -/
@[reducible]
def SqsCall.Answer : SqsCall → Type
  | createQueue _ => StoreResult Unit
  | deleteQueue _ => StoreResult Unit
  | getQueue .. => StoreResult (Option SqsQueue)
  | getMessageCount _ => StoreResult ℤ
  | getVisibleMessageCount _ => StoreResult ℤ
  | getMessagesDelayedCount _ => StoreResult ℤ
  | listQueues .. => StoreResult (List SqsQueue)
  | purgeQueue _ => StoreResult Unit
  | setQueueAttributes .. => StoreResult Unit
  | listQueueTags _ => StoreResult (List (Text × Text))
  | tagQueue .. => StoreResult Unit
  | untagQueue .. => StoreResult Unit
  | sendMessage _ => StoreResult Unit
  | receiveMessages .. => StoreResult (List SqsMessage)
  | deleteMessage .. => StoreResult Unit
  | setMessageVisibleAt .. => StoreResult Unit

/-- The answer of a store that fails. -/
def SqsCall.failed (error : StoreError) (request : SqsCall) : request.Answer := by
  cases request <;> exact .error error

/-- The interface of the SQS store. -/
abbrev sqsStore : Interface where
  Call := SqsCall
  Answer := SqsCall.Answer

/-- A program over the SQS store. -/
abbrev SqsProgram := Program sqsStore

/-- The program that makes one call on the SQS store. -/
def sqsCall (request : SqsCall) : SqsProgram request.Answer :=
  @Program.perform sqsStore request

theorem run_sqsCall {S : Type} (serve : Serve sqsStore S) (request : SqsCall) (state : S) :
    (sqsCall request).run serve state = serve request state := rfl

theorem events_sqsCall {S : Type} (serve : Serve sqsStore S) (request : SqsCall) (state : S) :
    (sqsCall request).events serve state = [⟨request, (serve request state).1⟩] := rfl

end Hiraeth
