import Hiraeth.Lib.RowTable
import Hiraeth.Store.Sqs
import Mathlib.Data.List.Sort
import Mathlib.Order.Basic

/-!
# The SQS store in SQLite

The tables behind the SQS store and what each call does to them.  The tables of
queues and of messages have no `AUTOINCREMENT`, so the number of a deleted newest
row is given out again; foreign keys are enforced and deletes cascade to the
messages and tags of a queue.

## Main definitions

* `SqsDatabase` — the tables, the clock and the source of random handles
* `SqsDatabase.eligible`, `SqsDatabase.receiveMessages` — leasing messages
* `SqsDatabase.serve` — the calls

## Main results

* `SqsDatabase.queues_serve` — what a call does to the table of queues
* `SqsDatabase.uniqueOn_serve` — no two queues have one identity
-/

namespace Hiraeth

open Interaction

/-- A row of `sqs_messages`. -/
structure SqsMessageRow where
  id : RowId
  messageId : Text
  queueId : RowId
  body : Text
  messageAttributes : Text
  awsTraceHeader : Option Text
  sentAt : Time
  visibleAt : Time
  expiresAt : Time
  receiveCount : ℤ
  receiptHandle : Option Text
  firstReceivedAt : Option Time
  messageGroupId : Option Text
  messageDeduplicationId : Option Text
  deriving DecidableEq

/-- A row of `sqs_queue_tags`. -/
structure QueueTag where
  queueId : RowId
  key : Text
  value : Text
  deriving DecidableEq

/-- The tables of the SQS store.  `clock` lists the readings that the clock will
give and `ticks` counts those already given; `handles` lists the values that
`randomblob` will give and `drawn` counts those already given. -/
structure SqsDatabase where
  queues : RowTable SqsQueue SqsQueue.id
  messages : RowTable SqsMessageRow SqsMessageRow.id
  tags : List QueueTag
  clock : ℕ → Time
  ticks : ℕ
  handles : ℕ → Text
  drawn : ℕ

/-- The columns of a message that queries return. -/
def SqsMessageRow.toMessage (row : SqsMessageRow) : SqsMessage where
  messageId := row.messageId
  queueId := row.queueId
  body := row.body
  messageAttributes := some row.messageAttributes
  awsTraceHeader := row.awsTraceHeader
  sentAt := row.sentAt
  visibleAt := row.visibleAt
  expiresAt := row.expiresAt
  receiveCount := row.receiveCount
  receiptHandle := row.receiptHandle
  firstReceivedAt := row.firstReceivedAt
  messageGroupId := row.messageGroupId
  messageDeduplicationId := row.messageDeduplicationId

/-- `NaiveDateTime::MAX`. -/
def naiveDateTimeMax : Time :=
  8210266876799999999999

namespace SqsDatabase

/-- A store without rows. -/
def empty (clock : ℕ → Time) (handles : ℕ → Text) : SqsDatabase where
  queues := .empty
  messages := .empty
  tags := []
  clock := clock
  ticks := 0
  handles := handles
  drawn := 0

/-- The reading of the clock. -/
def now (database : SqsDatabase) : Time :=
  database.clock database.ticks

/-- The database after one reading of the clock. -/
def tick (database : SqsDatabase) : SqsDatabase :=
  { database with ticks := database.ticks + 1 }

/-- `REFERENCES sqs_queues(id)`. -/
def hasQueue (database : SqsDatabase) (queueId : RowId) : Bool :=
  database.queues.rows.any (·.id = queueId)

def queueNotFound : StoreError :=
  .notFound "queue not found"

/-! ### Queues -/

def getQueue (database : SqsDatabase) (queueName region accountId : Text) : Option SqsQueue :=
  database.queues.find fun row =>
    row.name = queueName && row.region = region && row.accountId = accountId

/-- The row that a new queue becomes.  The creation time is the default of the
column. -/
def newQueueRow (database : SqsDatabase) (queue : SqsQueue) (id : RowId) : SqsQueue :=
  { queue with id := id, createdAt := database.now }

theorem newQueueRow_id (database : SqsDatabase) (queue : SqsQueue) (id : RowId) :
    (database.newQueueRow queue id).id = id := rfl

def createQueue (database : SqsDatabase) (queue : SqsQueue) : StoreResult Unit × SqsDatabase :=
  if (database.getQueue queue.name queue.region queue.accountId).isSome then
    (.error (uniqueViolation
      "sqs_queues.name, sqs_queues.region, sqs_queues.account_id"), database)
  else
    (.ok (), { database.tick with
      queues := database.queues.insert (database.newQueueRow queue) fun _ => rfl })

def deleteQueue (database : SqsDatabase) (queueId : RowId) : StoreResult Unit × SqsDatabase :=
  if database.hasQueue queueId then
    (.ok (), { database with
      queues := database.queues.filter fun row => !decide (row.id = queueId)
      messages := database.messages.filter fun row => !decide (row.queueId = queueId)
      tags := database.tags.filter fun tag => tag.queueId ≠ queueId })
  else (.error queueNotFound, database)

def listQueues (database : SqsDatabase) (region accountId : Text)
    (queueNamePrefix : Option Text) (maxResults : Option ℤ) (nextToken : Option Text) :
    List SqsQueue :=
  let wanted (row : SqsQueue) : Bool :=
    row.region = region && row.accountId = accountId &&
      queueNamePrefix.all (fun start => decide (start <+: row.name)) &&
      nextToken.all fun token => token < row.name
  applyLimit (maxResults.getD 1000)
    ((database.queues.rows.filter wanted).insertionSort fun left right => left.name ≤ right.name)

/-- The row after `UPDATE`. -/
def updateAttributes (attributes : SqsQueueAttributeUpdate) (updatedAt : Time)
    (row : SqsQueue) : SqsQueue :=
  { row with
    visibilityTimeoutSeconds :=
      attributes.visibilityTimeoutSeconds.getD row.visibilityTimeoutSeconds
    delaySeconds := attributes.delaySeconds.getD row.delaySeconds
    maximumMessageSize := attributes.maximumMessageSize.getD row.maximumMessageSize
    messageRetentionPeriodSeconds :=
      attributes.messageRetentionPeriodSeconds.getD row.messageRetentionPeriodSeconds
    receiveMessageWaitTimeSeconds :=
      attributes.receiveMessageWaitTimeSeconds.getD row.receiveMessageWaitTimeSeconds
    policy := attributes.policy.getD row.policy
    redrivePolicy := attributes.redrivePolicy.getD row.redrivePolicy
    contentBasedDeduplication :=
      attributes.contentBasedDeduplication.getD row.contentBasedDeduplication
    kmsMasterKeyId := attributes.kmsMasterKeyId.getD row.kmsMasterKeyId
    kmsDataKeyReusePeriodSeconds :=
      attributes.kmsDataKeyReusePeriodSeconds.getD row.kmsDataKeyReusePeriodSeconds
    deduplicationScope := attributes.deduplicationScope.getD row.deduplicationScope
    fifoThroughputLimit := attributes.fifoThroughputLimit.getD row.fifoThroughputLimit
    redriveAllowPolicy := attributes.redriveAllowPolicy.getD row.redriveAllowPolicy
    sqsManagedSseEnabled := attributes.sqsManagedSseEnabled.getD row.sqsManagedSseEnabled
    updatedAt := updatedAt }

def setQueueAttributes (database : SqsDatabase) (queueId : RowId)
    (attributes : SqsQueueAttributeUpdate) : StoreResult Unit × SqsDatabase :=
  let change (row : SqsQueue) : SqsQueue :=
    if row.id = queueId then updateAttributes attributes database.now row else row
  if database.hasQueue queueId then
    (.ok (), { database.tick with
      queues := database.queues.map change fun row => by unfold change; split <;> rfl })
  else (.error queueNotFound, database.tick)

/-! ### Tags -/

/-- The tags of a queue, sorted by their keys. -/
def tagsOf (database : SqsDatabase) (queueId : RowId) : List (Text × Text) :=
  ((database.tags.filter (·.queueId = queueId)).map fun tag => (tag.key, tag.value)).insertionSort
    fun left right => left.1 ≤ right.1

def listQueueTags (database : SqsDatabase) (queueId : RowId) :
    StoreResult (List (Text × Text)) :=
  if database.hasQueue queueId then .ok (database.tagsOf queueId) else .error queueNotFound

/-- `ON CONFLICT(queue_id, tag_key) DO UPDATE`. -/
def putTag (queueId : RowId) (tags : List QueueTag) (entry : Text × Text) : List QueueTag :=
  if tags.any fun tag => tag.queueId = queueId && tag.key = entry.1 then
    tags.map fun tag =>
      if tag.queueId = queueId ∧ tag.key = entry.1 then { tag with value := entry.2 } else tag
  else tags ++ [⟨queueId, entry.1, entry.2⟩]

def tagQueue (database : SqsDatabase) (queueId : RowId) (tags : List (Text × Text)) :
    StoreResult Unit × SqsDatabase :=
  if database.hasQueue queueId then
    (.ok (), { database with tags := tags.foldl (putTag queueId) database.tags })
  else (.error queueNotFound, database)

def untagQueue (database : SqsDatabase) (queueId : RowId) (tagKeys : List Text) :
    StoreResult Unit × SqsDatabase :=
  if database.hasQueue queueId then
    (.ok (), { database with
      tags := database.tags.filter fun tag => !(tag.queueId = queueId && tagKeys.contains tag.key) })
  else (.error queueNotFound, database)

/-! ### Messages -/

/-- The row that a sent message becomes. -/
def newMessageRow (message : SqsMessage) (id : RowId) : SqsMessageRow where
  id := id
  messageId := message.messageId
  queueId := message.queueId
  body := message.body
  messageAttributes := message.messageAttributes.getD "{}"
  awsTraceHeader := message.awsTraceHeader
  sentAt := message.sentAt
  visibleAt := message.visibleAt
  expiresAt := message.expiresAt
  receiveCount := message.receiveCount
  receiptHandle := message.receiptHandle
  firstReceivedAt := message.firstReceivedAt
  messageGroupId := message.messageGroupId
  messageDeduplicationId := message.messageDeduplicationId

theorem newMessageRow_id (message : SqsMessage) (id : RowId) :
    (newMessageRow message id).id = id := rfl

def sendMessage (database : SqsDatabase) (message : SqsMessage) :
    StoreResult Unit × SqsDatabase :=
  if database.messages.rows.any (·.messageId = message.messageId) then
    (.error (uniqueViolation "sqs_messages.message_id"), database)
  else if database.hasQueue message.queueId then
    (.ok (), { database with
      messages := database.messages.insert (newMessageRow message) fun _ => rfl })
  else (.error foreignKeyViolation, database)

/-- `ORDER BY sent_at, id`. -/
def sentBefore (left right : SqsMessageRow) : Prop :=
  left.sentAt < right.sentAt ∨ left.sentAt = right.sentAt ∧ left.id ≤ right.id

instance : DecidableRel sentBefore := fun _ _ => inferInstanceAs (Decidable (_ ∨ _))

/-- The messages of a queue that can be received at a time, in the order in
which they are. -/
def eligible (database : SqsDatabase) (queueId : RowId) (time : Time) : List SqsMessageRow :=
  (database.messages.rows.filter fun row =>
    row.queueId = queueId && row.visibleAt ≤ time && time < row.expiresAt).insertionSort sentBefore

/-- The row after it was leased, when it is among the selected ones.  The handles
are drawn in the order of the selection. -/
def lease (database : SqsDatabase) (selected : List RowId) (now leasedUntil : Time)
    (row : SqsMessageRow) : SqsMessageRow :=
  if row.id ∈ selected then
    { row with
      visibleAt := leasedUntil
      receiptHandle := some (database.handles (database.drawn + selected.idxOf row.id))
      receiveCount := row.receiveCount + 1
      firstReceivedAt := some (row.firstReceivedAt.getD now) }
  else row

theorem lease_id (database : SqsDatabase) (selected : List RowId) (now leasedUntil : Time)
    (row : SqsMessageRow) : (database.lease selected now leasedUntil row).id = row.id := by
  unfold lease
  split <;> rfl

/-- The clock is read twice: messages are selected by the first reading, and the
lease is counted from the second. -/
def receiveMessages (database : SqsDatabase) (queueId : RowId) (maxNumberOfMessages : ℤ)
    (visibilityTimeoutSeconds : ℕ) : StoreResult (List SqsMessage) × SqsDatabase :=
  let now := database.now
  let leasedUntil := database.tick.now + seconds visibilityTimeoutSeconds
  if naiveDateTimeMax < leasedUntil then
    (.error (.storageFailure "failed to calculate leased_until"), database.tick.tick)
  else
    let selected := (applyLimit maxNumberOfMessages (database.eligible queueId now)).map (·.id)
    let messages := database.messages.map (database.lease selected now leasedUntil)
      (database.lease_id selected now leasedUntil)
    (.ok ((messages.rows.filter fun row => row.id ∈ selected).map SqsMessageRow.toMessage),
      { database.tick.tick with
        messages := messages
        drawn := database.drawn + selected.length })

def receiptHandleNotFound : StoreError :=
  .notFound "receipt handle not found"

/-- The row is held under the handle. -/
def heldUnder (queueId : RowId) (receiptHandle : Text) (row : SqsMessageRow) : Bool :=
  row.queueId = queueId && row.receiptHandle = some receiptHandle

def deleteMessage (database : SqsDatabase) (queueId : RowId) (receiptHandle : Text) :
    StoreResult Unit × SqsDatabase :=
  if database.messages.rows.any (heldUnder queueId receiptHandle) then
    (.ok (), { database with
      messages := database.messages.filter fun row => !heldUnder queueId receiptHandle row })
  else (.error receiptHandleNotFound, database)

/-- The row after `UPDATE`, when it is held under the handle. -/
def reschedule (queueId : RowId) (receiptHandle : Text) (visibleAt : Time)
    (row : SqsMessageRow) : SqsMessageRow :=
  if heldUnder queueId receiptHandle row then { row with visibleAt := visibleAt } else row

theorem reschedule_id (queueId : RowId) (receiptHandle : Text) (visibleAt : Time)
    (row : SqsMessageRow) : (reschedule queueId receiptHandle visibleAt row).id = row.id := by
  unfold reschedule
  split <;> rfl

def setMessageVisibleAt (database : SqsDatabase) (queueId : RowId) (receiptHandle : Text)
    (visibleAt : Time) : StoreResult Unit × SqsDatabase :=
  if database.messages.rows.any (heldUnder queueId receiptHandle) then
    (.ok (), { database with
      messages := database.messages.map (reschedule queueId receiptHandle visibleAt)
        (reschedule_id queueId receiptHandle visibleAt) })
  else (.error receiptHandleNotFound, database)

def purgeQueue (database : SqsDatabase) (queueId : RowId) : StoreResult Unit × SqsDatabase :=
  (.ok (), { database with
    messages := database.messages.filter fun row => !decide (row.queueId = queueId) })

/-- The number of messages of a queue that satisfy a condition at the reading of
the clock. -/
def countMessages (database : SqsDatabase) (queueId : RowId)
    (condition : Time → SqsMessageRow → Bool) : StoreResult ℤ × SqsDatabase :=
  (.ok (database.messages.rows.countP fun row =>
    row.queueId = queueId && condition database.now row), database.tick)

/-! ### The calls -/

/-- A query leaves the database as it is. -/
def query {α : Type} (database : SqsDatabase) (answer : StoreResult α) :
    StoreResult α × SqsDatabase :=
  (answer, database)

/-- What each call of the store does. -/
def serve : Serve sqsStore SqsDatabase
  | .createQueue queue, database => database.createQueue queue
  | .deleteQueue queueId, database => database.deleteQueue queueId
  | .getQueue queueName region accountId, database =>
      database.query (.ok (database.getQueue queueName region accountId))
  | .getMessageCount queueId, database =>
      database.countMessages queueId fun time row => time < row.expiresAt
  | .getVisibleMessageCount queueId, database =>
      database.countMessages queueId fun time row =>
        row.visibleAt ≤ time && time < row.expiresAt
  | .getMessagesDelayedCount queueId, database =>
      database.countMessages queueId fun time row =>
        time < row.visibleAt && time < row.expiresAt && row.receiptHandle.isNone
  | .listQueues region accountId queueNamePrefix maxResults nextToken, database =>
      database.query (.ok (database.listQueues region accountId queueNamePrefix maxResults
        nextToken))
  | .purgeQueue queueId, database => database.purgeQueue queueId
  | .setQueueAttributes queueId attributes, database =>
      database.setQueueAttributes queueId attributes
  | .listQueueTags queueId, database => database.query (database.listQueueTags queueId)
  | .tagQueue queueId tags, database => database.tagQueue queueId tags
  | .untagQueue queueId tagKeys, database => database.untagQueue queueId tagKeys
  | .sendMessage message, database => database.sendMessage message
  | .receiveMessages queueId maxNumberOfMessages visibilityTimeoutSeconds, database =>
      database.receiveMessages queueId maxNumberOfMessages visibilityTimeoutSeconds
  | .deleteMessage queueId receiptHandle, database =>
      database.deleteMessage queueId receiptHandle
  | .setMessageVisibleAt queueId receiptHandle visibleAt, database =>
      database.setMessageVisibleAt queueId receiptHandle visibleAt

/-! ### What calls do to the queues -/

/-- The columns that the table of queues has only once. -/
def identity (queue : SqsQueue) : Text × Text × Text :=
  (queue.name, queue.region, queue.accountId)

theorem getQueue_eq_some {database : SqsDatabase} {name region accountId : Text}
    {queue : SqsQueue} (found : database.getQueue name region accountId = some queue) :
    queue ∈ database.queues.rows ∧ identity queue = (name, region, accountId) := by
  have wanted := RowTable.wanted_of_find_eq_some found
  simp only [Bool.and_eq_true, decide_eq_true_eq] at wanted
  obtain ⟨⟨rfl, rfl⟩, rfl⟩ := wanted
  exact ⟨RowTable.mem_of_find_eq_some found, rfl⟩

theorem getQueue_eq_none {database : SqsDatabase} {name region accountId : Text} :
    database.getQueue name region accountId = none ↔
      ∀ row ∈ database.queues.rows, identity row ≠ (name, region, accountId) := by
  rw [getQueue, RowTable.find_eq_none]
  refine forall₂_congr fun row _ => ?_
  simp [identity, and_assoc]

/-- A row is found by its identity, when no other row has it. -/
theorem getQueue_of_mem {database : SqsDatabase} (unique : database.queues.UniqueOn identity)
    {queue : SqsQueue} (member : queue ∈ database.queues.rows) :
    database.getQueue queue.name queue.region queue.accountId = some queue := by
  cases found : database.getQueue queue.name queue.region queue.accountId with
  | none => exact absurd rfl (getQueue_eq_none.mp found queue member)
  | some other =>
      obtain ⟨isOther, same⟩ := getQueue_eq_some found
      rw [unique isOther member same]

/-- What is listed is a row of the region and the account. -/
theorem mem_of_mem_listQueues {database : SqsDatabase} {region accountId : Text}
    {queueNamePrefix nextToken : Option Text} {maxResults : Option ℤ} {queue : SqsQueue}
    (member : queue ∈ database.listQueues region accountId queueNamePrefix maxResults nextToken) :
    queue ∈ database.queues.rows ∧ queue.region = region ∧ queue.accountId = accountId := by
  obtain ⟨isRow, wanted⟩ := List.mem_filter.mp
    ((List.mem_insertionSort _).mp (mem_of_mem_applyLimit member))
  simp only [Bool.and_eq_true, decide_eq_true_eq] at wanted
  exact ⟨isRow, wanted.1.1⟩

/-- A queue that is found can be referred to. -/
theorem hasQueue_of_getQueue {database : SqsDatabase} {queueName region accountId : Text}
    {queue : SqsQueue} (found : database.getQueue queueName region accountId = some queue) :
    database.hasQueue queue.id = true :=
  List.any_eq_true.mpr ⟨queue, (getQueue_eq_some found).1, decide_eq_true rfl⟩

/-- **What a call does to the table of queues.**  It adds a row whose identity was
free, deletes a row, changes the attributes of one, or leaves the table alone. -/
theorem queues_serve (call : SqsCall) (database : SqsDatabase) :
    (serve call database).2.queues = database.queues ∨
    (∃ queue, call = .createQueue queue ∧
      database.getQueue queue.name queue.region queue.accountId = none ∧
      (serve call database).2.queues =
        database.queues.insert (database.newQueueRow queue) fun _ => rfl) ∨
    (∃ queueId, call = .deleteQueue queueId ∧
      (serve call database).2.queues =
        database.queues.filter fun row => !decide (row.id = queueId)) ∨
    (∃ queueId attributes, call = .setQueueAttributes queueId attributes ∧
      (serve call database).2.queues.rows = database.queues.rows.map fun row =>
        if row.id = queueId then updateAttributes attributes database.now row else row) := by
  cases call with
  | createQueue queue =>
      show (database.createQueue queue).2.queues = _ ∨ _
      unfold createQueue
      split_ifs with taken
      · exact Or.inl rfl
      · exact Or.inr (Or.inl ⟨queue, rfl, Option.not_isSome_iff_eq_none.mp taken, by
          show (createQueue database queue).2.queues = _
          rw [createQueue, if_neg taken]⟩)
  | deleteQueue queueId =>
      by_cases there : database.hasQueue queueId
      · refine Or.inr (Or.inr (Or.inl ⟨queueId, rfl, ?_⟩))
        show (database.deleteQueue queueId).2.queues = _
        rw [deleteQueue, if_pos there]
      · refine Or.inl ?_
        show (database.deleteQueue queueId).2.queues = _
        rw [deleteQueue, if_neg there]
  | setQueueAttributes queueId attributes =>
      by_cases there : database.hasQueue queueId
      · refine Or.inr (Or.inr (Or.inr ⟨queueId, attributes, rfl, ?_⟩))
        show (database.setQueueAttributes queueId attributes).2.queues.rows = _
        rw [setQueueAttributes, if_pos there]
        rfl
      · refine Or.inl ?_
        show (database.setQueueAttributes queueId attributes).2.queues = _
        rw [setQueueAttributes, if_neg there]
        rfl
  | tagQueue queueId tags =>
      left
      show (database.tagQueue queueId tags).2.queues = _
      unfold tagQueue
      split_ifs <;> rfl
  | untagQueue queueId tagKeys =>
      left
      show (database.untagQueue queueId tagKeys).2.queues = _
      unfold untagQueue
      split_ifs <;> rfl
  | sendMessage message =>
      left
      show (database.sendMessage message).2.queues = _
      unfold sendMessage
      split_ifs <;> rfl
  | receiveMessages queueId limit timeout =>
      left
      show (database.receiveMessages queueId limit timeout).2.queues = _
      unfold receiveMessages
      dsimp only
      split_ifs <;> rfl
  | deleteMessage queueId receiptHandle =>
      left
      show (database.deleteMessage queueId receiptHandle).2.queues = _
      unfold deleteMessage
      split_ifs <;> rfl
  | setMessageVisibleAt queueId receiptHandle visibleAt =>
      left
      show (database.setMessageVisibleAt queueId receiptHandle visibleAt).2.queues = _
      unfold setMessageVisibleAt
      split_ifs <;> rfl
  | getQueue | getMessageCount | getVisibleMessageCount | getMessagesDelayedCount | listQueues
  | purgeQueue | listQueueTags => exact Or.inl rfl

/-- **No two queues have one identity**, whatever is called. -/
theorem uniqueOn_serve (call : SqsCall) {database : SqsDatabase}
    (unique : database.queues.UniqueOn identity) :
    (serve call database).2.queues.UniqueOn identity := by
  rcases queues_serve call database with same | ⟨queue, -, free, added⟩ | ⟨queueId, -, left⟩ |
    ⟨queueId, attributes, -, changed⟩
  · rw [same]
    exact unique
  · rw [added]
    exact unique.insert _ (getQueue_eq_none.mp free)
  · rw [left]
    exact unique.filter _
  · -- the change touches no column of the identity
    intro first firstMem second secondMem equal
    rw [changed] at firstMem secondMem
    obtain ⟨old, isOld, rfl⟩ := List.mem_map.mp firstMem
    obtain ⟨other, isOther, rfl⟩ := List.mem_map.mp secondMem
    have untouched : ∀ row : SqsQueue, identity (if row.id = queueId then
        updateAttributes attributes database.now row else row) = identity row := by
      intro row
      split_ifs <;> rfl
    rw [untouched, untouched] at equal
    rw [unique isOld isOther equal]

end SqsDatabase

end Hiraeth
