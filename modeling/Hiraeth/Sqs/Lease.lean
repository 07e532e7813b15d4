import Hiraeth.Store.SqliteSqs
import Mathlib.Data.List.Perm.Basic
import Mathlib.Data.List.Nodup

/-!
# What a call makes of a message

A receive leases messages: it moves their visibility to the end of the lease and
gives them new receipt handles.  This module says what each call of the store can
do to a message.

## Main definitions

* `SqsDatabase.selection`, `SqsDatabase.leased` — what a receive leases, and how
* `SqsDatabase.Fate` — what a call makes of a message
* `SqsDatabase.Leasable` — the invariant: ids and handles are unique, and the
  handles still to be drawn are in no use

## Main results

* `SqsDatabase.row_serve`, `SqsDatabase.row_survives` — where the messages after
  a call come from, and where those before it go
* `SqsDatabase.Leasable.serve` — every call keeps the invariant
-/

namespace Hiraeth

open Interaction

/-- A message that is sent has no handle yet. -/
def SqsCall.SendsUnreceived : SqsCall → Prop
  | .sendMessage message => message.receiptHandle = none
  | _ => True

namespace SqsDatabase

variable {database : SqsDatabase} {request : SqsCall}

/-! ### What a call makes of a message -/

/-- The end of a lease that starts now. -/
def leaseEnd (database : SqsDatabase) (visibilityTimeoutSeconds : ℕ) : Time :=
  database.tick.now + seconds visibilityTimeoutSeconds

/-- The messages that a receive leases, in the order in which they are eligible. -/
def selection (database : SqsDatabase) (queueId : RowId) (maxNumberOfMessages : ℤ) :
    List SqsMessageRow :=
  applyLimit maxNumberOfMessages (database.eligible queueId database.now)

/-- A leased message. -/
def leased (database : SqsDatabase) (visibilityTimeoutSeconds draw : ℕ) (row : SqsMessageRow) :
    SqsMessageRow :=
  { row with
    visibleAt := database.leaseEnd visibilityTimeoutSeconds
    receiptHandle := some (database.handles (database.drawn + draw))
    receiveCount := row.receiveCount + 1
    firstReceivedAt := some (row.firstReceivedAt.getD database.now) }

/-- **What a call makes of a message.** -/
inductive Fate (database : SqsDatabase) (request : SqsCall) (row : SqsMessageRow) :
    SqsMessageRow → Prop
  | kept : database.Fate request row row
  | leased {queueId : RowId} {maxNumberOfMessages : ℤ} {visibilityTimeoutSeconds : ℕ}
      (isReceive : request =
        .receiveMessages queueId maxNumberOfMessages visibilityTimeoutSeconds)
      (inRange : database.leaseEnd visibilityTimeoutSeconds ≤ naiveDateTimeMax)
      (selected : row ∈ database.selection queueId maxNumberOfMessages) :
      database.Fate request row (database.leased visibilityTimeoutSeconds
        (((database.selection queueId maxNumberOfMessages).map (·.id)).idxOf row.id) row)
  | rescheduled {queueId : RowId} {receiptHandle : Text} {visibleAt : Time}
      (isChange : request = .setMessageVisibleAt queueId receiptHandle visibleAt)
      (held : heldUnder queueId receiptHandle row) :
      database.Fate request row { row with visibleAt := visibleAt }

theorem Fate.messageId {row row' : SqsMessageRow} (fate : database.Fate request row row') :
    row'.messageId = row.messageId := by
  cases fate <;> rfl

theorem Fate.queueId {row row' : SqsMessageRow} (fate : database.Fate request row row') :
    row'.queueId = row.queueId := by
  cases fate <;> rfl

theorem Fate.id {row row' : SqsMessageRow} (fate : database.Fate request row row') :
    row'.id = row.id := by
  cases fate <;> rfl

/-- What it takes to be eligible. -/
theorem mem_eligible {queueId : RowId} {time : Time} {row : SqsMessageRow} :
    row ∈ database.eligible queueId time ↔ row ∈ database.messages.rows ∧
      row.queueId = queueId ∧ row.visibleAt ≤ time ∧ time < row.expiresAt := by
  unfold eligible
  rw [List.mem_insertionSort, List.mem_filter]
  simp only [Bool.and_eq_true, decide_eq_true_eq, and_assoc]

theorem mem_selection {queueId : RowId} {maxNumberOfMessages : ℤ} {row : SqsMessageRow}
    (selected : row ∈ database.selection queueId maxNumberOfMessages) :
    row ∈ database.messages.rows ∧ row.queueId = queueId ∧ row.visibleAt ≤ database.now ∧
      database.now < row.expiresAt :=
  mem_eligible.mp (mem_of_mem_applyLimit selected)

theorem selection_nodup {queueId : RowId} {maxNumberOfMessages : ℤ}
    (distinct : database.messages.rows.Nodup) :
    (database.selection queueId maxNumberOfMessages).Nodup := by
  have eligible : (database.eligible queueId database.now).Nodup :=
    (List.perm_insertionSort _ _).nodup_iff.mpr (distinct.filter _)
  unfold selection applyLimit
  split_ifs
  · exact eligible
  · exact eligible.sublist (List.take_sublist _ _)

/-- Of the stored messages, the selected ones are those with a selected number. -/
theorem mem_selection_iff {queueId : RowId} {maxNumberOfMessages : ℤ} {row : SqsMessageRow}
    (stored : row ∈ database.messages.rows) :
    row.id ∈ (database.selection queueId maxNumberOfMessages).map (·.id) ↔
      row ∈ database.selection queueId maxNumberOfMessages := by
  constructor
  · intro numbered
    obtain ⟨other, selected, same⟩ := List.mem_map.mp numbered
    obtain rfl := RowTable.eq_of_key_eq (mem_selection selected).1 stored same
    exact selected
  · exact List.mem_map_of_mem

/-- The messages after a receive that succeeds. -/
def leasedMessages (database : SqsDatabase) (queueId : RowId) (maxNumberOfMessages : ℤ)
    (visibilityTimeoutSeconds : ℕ) : RowTable SqsMessageRow SqsMessageRow.id :=
  let selected := (database.selection queueId maxNumberOfMessages).map (·.id)
  let leasedUntil := database.leaseEnd visibilityTimeoutSeconds
  database.messages.map (database.lease selected database.now leasedUntil)
    (database.lease_id selected database.now leasedUntil)

/-- A receive that succeeds. -/
theorem receiveMessages_eq {queueId : RowId} {maxNumberOfMessages : ℤ}
    {visibilityTimeoutSeconds : ℕ}
    (inRange : database.leaseEnd visibilityTimeoutSeconds ≤ naiveDateTimeMax) :
    database.receiveMessages queueId maxNumberOfMessages visibilityTimeoutSeconds =
      let selected := (database.selection queueId maxNumberOfMessages).map (·.id)
      let messages :=
        database.leasedMessages queueId maxNumberOfMessages visibilityTimeoutSeconds
      (.ok ((messages.rows.filter fun row => row.id ∈ selected).map SqsMessageRow.toMessage),
        { database.tick.tick with
          messages := messages
          drawn := database.drawn + selected.length }) :=
  if_neg (Int.not_lt.mpr inRange)

/-- A receive that does not. -/
theorem receiveMessages_outOfRange {queueId : RowId} {maxNumberOfMessages : ℤ}
    {visibilityTimeoutSeconds : ℕ}
    (outOfRange : naiveDateTimeMax < database.leaseEnd visibilityTimeoutSeconds) :
    database.receiveMessages queueId maxNumberOfMessages visibilityTimeoutSeconds =
      (.error (.storageFailure "failed to calculate leased_until"), database.tick.tick) :=
  if_pos outOfRange

/-- A stored message after a receive. -/
theorem fate_lease {queueId : RowId} {maxNumberOfMessages : ℤ} {visibilityTimeoutSeconds : ℕ}
    (inRange : database.leaseEnd visibilityTimeoutSeconds ≤ naiveDateTimeMax)
    {row : SqsMessageRow} (stored : row ∈ database.messages.rows) :
    database.Fate (.receiveMessages queueId maxNumberOfMessages visibilityTimeoutSeconds) row
      (database.lease ((database.selection queueId maxNumberOfMessages).map (·.id)) database.now
        (database.leaseEnd visibilityTimeoutSeconds) row) := by
  by_cases selected : row ∈ database.selection queueId maxNumberOfMessages
  · rw [lease, if_pos ((mem_selection_iff stored).mpr selected)]
    exact .leased rfl inRange selected
  · rw [lease, if_neg fun numbered => selected ((mem_selection_iff stored).mp numbered)]
    exact .kept

theorem mem_leasedMessages {queueId : RowId} {maxNumberOfMessages : ℤ}
    {visibilityTimeoutSeconds : ℕ}
    (inRange : database.leaseEnd visibilityTimeoutSeconds ≤ naiveDateTimeMax)
    {row' : SqsMessageRow} (present : row' ∈
      (database.leasedMessages queueId maxNumberOfMessages visibilityTimeoutSeconds).rows) :
    ∃ row ∈ database.messages.rows, database.Fate
      (.receiveMessages queueId maxNumberOfMessages visibilityTimeoutSeconds) row row' := by
  obtain ⟨row, stored, rfl⟩ := List.mem_map.mp present
  exact ⟨row, stored, fate_lease inRange stored⟩

theorem exists_mem_leasedMessages {queueId : RowId} {maxNumberOfMessages : ℤ}
    {visibilityTimeoutSeconds : ℕ}
    (inRange : database.leaseEnd visibilityTimeoutSeconds ≤ naiveDateTimeMax)
    {row : SqsMessageRow} (stored : row ∈ database.messages.rows) :
    ∃ row' ∈ (database.leasedMessages queueId maxNumberOfMessages visibilityTimeoutSeconds).rows,
      database.Fate (.receiveMessages queueId maxNumberOfMessages visibilityTimeoutSeconds) row
        row' :=
  ⟨_, List.mem_map.mpr ⟨row, stored, rfl⟩, fate_lease inRange stored⟩

/-- A message after a change of visibility. -/
theorem fate_reschedule {queueId : RowId} {receiptHandle : Text} {visibleAt : Time}
    (row : SqsMessageRow) :
    database.Fate (.setMessageVisibleAt queueId receiptHandle visibleAt) row
      (reschedule queueId receiptHandle visibleAt row) := by
  unfold reschedule
  split_ifs with held
  · exact .rescheduled rfl held
  · exact .kept

/-- **What a send that succeeds has found and has done.** -/
theorem sendMessage_stored {message : SqsMessage}
    (stored : (serve (.sendMessage message) database).1 = .ok ()) :
    (∀ row ∈ database.messages.rows, row.messageId ≠ message.messageId) ∧
      database.hasQueue message.queueId ∧
      serve (.sendMessage message) database = (.ok (), { database with
        messages := database.messages.insert (newMessageRow message) fun _ => rfl }) := by
  have isSend : serve (.sendMessage message) database = database.sendMessage message := rfl
  rw [isSend] at stored ⊢
  unfold sendMessage at stored ⊢
  by_cases taken : database.messages.rows.any (·.messageId = message.messageId)
  · rw [if_pos taken] at stored
    cases stored
  by_cases known : database.hasQueue message.queueId
  · rw [if_neg taken, if_pos known]
    exact ⟨by simpa using taken, known, rfl⟩
  · rw [if_neg taken, if_neg known] at stored
    cases stored

/-- **Where the messages after a call come from.** -/
theorem row_serve (request : SqsCall) {row' : SqsMessageRow}
    (present : row' ∈ (serve request database).2.messages.rows) :
    (∃ row ∈ database.messages.rows, database.Fate request row row') ∨
      ∃ message, request = .sendMessage message ∧
        row' = newMessageRow message database.messages.nextId ∧
        ∀ row ∈ database.messages.rows, row.messageId ≠ message.messageId := by
  cases request with
  | sendMessage message =>
      simp only [serve, sendMessage] at present
      split_ifs at present with taken known
      · exact .inl ⟨row', present, .kept⟩
      · have added : row' ∈ (database.messages.insert (newMessageRow message) fun _ => rfl).rows :=
          present
        rcases RowTable.mem_insert.mp added with old | rfl
        · exact .inl ⟨row', old, .kept⟩
        · exact .inr ⟨message, rfl, rfl, by simpa using taken⟩
      · exact .inl ⟨row', present, .kept⟩
  | receiveMessages queueId maxNumberOfMessages visibilityTimeoutSeconds =>
      left
      by_cases inRange : database.leaseEnd visibilityTimeoutSeconds ≤ naiveDateTimeMax
      · rw [serve, receiveMessages_eq inRange] at present
        exact mem_leasedMessages inRange present
      · rw [serve, receiveMessages_outOfRange (Int.not_le.mp inRange)] at present
        exact ⟨row', present, .kept⟩
  | setMessageVisibleAt queueId receiptHandle visibleAt =>
      left
      simp only [serve, setMessageVisibleAt] at present
      split_ifs at present
      · have changed : row' ∈ (database.messages.map (reschedule queueId receiptHandle visibleAt)
            (reschedule_id queueId receiptHandle visibleAt)).rows := present
        obtain ⟨row, stored, rfl⟩ := RowTable.mem_map.mp changed
        exact ⟨row, stored, fate_reschedule row⟩
      · exact ⟨row', present, .kept⟩
  | deleteMessage queueId receiptHandle =>
      left
      simp only [serve, deleteMessage] at present
      split_ifs at present
      · exact ⟨row', (RowTable.mem_filter.mp present).1, .kept⟩
      · exact ⟨row', present, .kept⟩
  | purgeQueue queueId => exact .inl ⟨row', (RowTable.mem_filter.mp present).1, .kept⟩
  | deleteQueue queueId =>
      left
      simp only [serve, deleteQueue] at present
      split_ifs at present
      · exact ⟨row', (RowTable.mem_filter.mp present).1, .kept⟩
      · exact ⟨row', present, .kept⟩
  | createQueue queue =>
      left
      simp only [serve, createQueue] at present
      split_ifs at present <;> exact ⟨row', present, .kept⟩
  | setQueueAttributes queueId attributes =>
      left
      simp only [serve, setQueueAttributes] at present
      split_ifs at present <;> exact ⟨row', present, .kept⟩
  | tagQueue queueId tags =>
      left
      simp only [serve, tagQueue] at present
      split_ifs at present <;> exact ⟨row', present, .kept⟩
  | untagQueue queueId tagKeys =>
      left
      simp only [serve, untagQueue] at present
      split_ifs at present <;> exact ⟨row', present, .kept⟩
  | _ => exact .inl ⟨row', present, .kept⟩

/-- **Where the messages before a call go.**  A message is still there, or it was
deleted through its current handle, or its queue was purged or deleted. -/
theorem row_survives (request : SqsCall) {row : SqsMessageRow}
    (stored : row ∈ database.messages.rows) :
    (∃ row' ∈ (serve request database).2.messages.rows, database.Fate request row row') ∨
      (∃ receiptHandle, request = .deleteMessage row.queueId receiptHandle ∧
        row.receiptHandle = some receiptHandle) ∨
      request = .purgeQueue row.queueId ∨ request = .deleteQueue row.queueId := by
  cases request with
  | sendMessage message =>
      left
      refine ⟨row, ?_, .kept⟩
      simp only [serve, sendMessage]
      split_ifs
      · exact stored
      · exact List.mem_append_left _ stored
      · exact stored
  | receiveMessages queueId maxNumberOfMessages visibilityTimeoutSeconds =>
      left
      by_cases inRange : database.leaseEnd visibilityTimeoutSeconds ≤ naiveDateTimeMax
      · rw [serve, receiveMessages_eq inRange]
        exact exists_mem_leasedMessages inRange stored
      · rw [serve, receiveMessages_outOfRange (Int.not_le.mp inRange)]
        exact ⟨row, stored, .kept⟩
  | setMessageVisibleAt queueId receiptHandle visibleAt =>
      left
      simp only [serve, setMessageVisibleAt]
      split_ifs
      · refine ⟨reschedule queueId receiptHandle visibleAt row,
          List.mem_map.mpr ⟨row, stored, rfl⟩, ?_⟩
        exact fate_reschedule row
      · exact ⟨row, stored, .kept⟩
  | deleteMessage queueId receiptHandle =>
      by_cases held : heldUnder queueId receiptHandle row
      · obtain ⟨rfl, isHandle⟩ : row.queueId = queueId ∧ row.receiptHandle = some receiptHandle := by
          simpa [heldUnder] using held
        exact .inr (.inl ⟨receiptHandle, rfl, isHandle⟩)
      · left
        refine ⟨row, ?_, .kept⟩
        simp only [serve, deleteMessage]
        split_ifs
        · exact RowTable.mem_filter.mpr ⟨stored, by simpa using held⟩
        · exact stored
  | purgeQueue queueId =>
      by_cases own : row.queueId = queueId
      · exact .inr (.inr (.inl (by rw [own])))
      · exact .inl ⟨row, RowTable.mem_filter.mpr ⟨stored, by simpa using own⟩, .kept⟩
  | deleteQueue queueId =>
      by_cases own : row.queueId = queueId
      · exact .inr (.inr (.inr (by rw [own])))
      · left
        refine ⟨row, ?_, .kept⟩
        simp only [serve, deleteQueue]
        split_ifs
        · exact RowTable.mem_filter.mpr ⟨stored, by simpa using own⟩
        · exact stored
  | createQueue queue =>
      left
      refine ⟨row, ?_, .kept⟩
      simp only [serve, createQueue]
      split_ifs <;> exact stored
  | setQueueAttributes queueId attributes =>
      left
      refine ⟨row, ?_, .kept⟩
      simp only [serve, setQueueAttributes]
      split_ifs <;> exact stored
  | tagQueue queueId tags =>
      left
      refine ⟨row, ?_, .kept⟩
      simp only [serve, tagQueue]
      split_ifs <;> exact stored
  | untagQueue queueId tagKeys =>
      left
      refine ⟨row, ?_, .kept⟩
      simp only [serve, untagQueue]
      split_ifs <;> exact stored
  | _ => exact .inl ⟨row, stored, .kept⟩

/-- The number of handles that a call draws. -/
def draws (database : SqsDatabase) : SqsCall → ℕ
  | .receiveMessages queueId maxNumberOfMessages visibilityTimeoutSeconds =>
      if database.leaseEnd visibilityTimeoutSeconds ≤ naiveDateTimeMax then
        (database.selection queueId maxNumberOfMessages).length
      else 0
  | _ => 0

/-- The source of handles stays the same and moves on. -/
theorem serve_handles (request : SqsCall) (database : SqsDatabase) :
    (serve request database).2.handles = database.handles ∧
      (serve request database).2.drawn = database.drawn + database.draws request := by
  cases request with
  | receiveMessages queueId maxNumberOfMessages visibilityTimeoutSeconds =>
      by_cases inRange : database.leaseEnd visibilityTimeoutSeconds ≤ naiveDateTimeMax
      · rw [serve, receiveMessages_eq inRange, draws, if_pos inRange]
        exact ⟨rfl, congrArg (database.drawn + ·) (List.length_map _)⟩
      · rw [serve, receiveMessages_outOfRange (Int.not_le.mp inRange), draws, if_neg inRange]
        exact ⟨rfl, rfl⟩
  | createQueue queue =>
      simp only [serve, createQueue]
      split_ifs <;> exact ⟨rfl, rfl⟩
  | deleteQueue queueId =>
      simp only [serve, deleteQueue]
      split_ifs <;> exact ⟨rfl, rfl⟩
  | setQueueAttributes queueId attributes =>
      simp only [serve, setQueueAttributes]
      split_ifs <;> exact ⟨rfl, rfl⟩
  | tagQueue queueId tags =>
      simp only [serve, tagQueue]
      split_ifs <;> exact ⟨rfl, rfl⟩
  | untagQueue queueId tagKeys =>
      simp only [serve, untagQueue]
      split_ifs <;> exact ⟨rfl, rfl⟩
  | sendMessage message =>
      simp only [serve, sendMessage]
      split_ifs <;> exact ⟨rfl, rfl⟩
  | deleteMessage queueId receiptHandle =>
      simp only [serve, deleteMessage]
      split_ifs <;> exact ⟨rfl, rfl⟩
  | setMessageVisibleAt queueId receiptHandle visibleAt =>
      simp only [serve, setMessageVisibleAt]
      split_ifs <;> exact ⟨rfl, rfl⟩
  | _ => exact ⟨rfl, rfl⟩

/-! ### Handles -/

/-- A message keeps its handle or gets one of those drawn by the call. -/
theorem Fate.receiptHandle {row row' : SqsMessageRow} (fate : database.Fate request row row') :
    row'.receiptHandle = row.receiptHandle ∨
      ∃ queueId maxNumberOfMessages visibilityTimeoutSeconds,
        request = .receiveMessages queueId maxNumberOfMessages visibilityTimeoutSeconds ∧
        let selected := (database.selection queueId maxNumberOfMessages).map (·.id)
        row.id ∈ selected ∧ selected.length = database.draws request ∧
          row'.receiptHandle = some (database.handles (database.drawn + selected.idxOf row.id)) := by
  cases fate with
  | kept => exact .inl rfl
  | @leased queueId maxNumberOfMessages visibilityTimeoutSeconds isReceive inRange selected =>
      refine .inr ⟨queueId, maxNumberOfMessages, visibilityTimeoutSeconds, isReceive, ?_, ?_, rfl⟩
      · exact List.mem_map_of_mem selected
      · rw [isReceive, draws, if_pos inRange, List.length_map]
  | rescheduled isChange held => exact .inl rfl

/-- **The invariant of the messages.**  No two share an id or a handle, and the
handles still to be drawn are new. -/
structure Leasable (database : SqsDatabase) : Prop where
  messageId : database.messages.UniqueOn SqsMessageRow.messageId
  handle : ∀ left ∈ database.messages.rows, ∀ right ∈ database.messages.rows, ∀ receiptHandle,
    left.receiptHandle = some receiptHandle → right.receiptHandle = some receiptHandle →
    left.id = right.id
  undrawn : ∀ row ∈ database.messages.rows, ∀ draw, database.drawn ≤ draw →
    row.receiptHandle ≠ some (database.handles draw)
  random : Function.Injective database.handles

/-- A handle drawn by the call was not in use. -/
theorem Leasable.fresh (leasable : database.Leasable) {row : SqsMessageRow} (stored : row ∈ database.messages.rows)
    (index : ℕ) : row.receiptHandle ≠ some (database.handles (database.drawn + index)) :=
  leasable.undrawn row stored _ (Nat.le_add_right _ _)

/-- Two messages with one handle after a call are one. -/
theorem Leasable.handle_serve (leasable : database.Leasable)
    (unreceived : request.SendsUnreceived) {left right : SqsMessageRow}
    (leftPresent : left ∈ (serve request database).2.messages.rows)
    (rightPresent : right ∈ (serve request database).2.messages.rows) {receiptHandle : Text}
    (leftHandle : left.receiptHandle = some receiptHandle)
    (rightHandle : right.receiptHandle = some receiptHandle) : left.id = right.id := by
  -- a message just sent has no handle
  have comes : ∀ row' ∈ (serve request database).2.messages.rows,
      row'.receiptHandle = some receiptHandle →
      ∃ row ∈ database.messages.rows, database.Fate request row row' := by
    intro row' present hasHandle
    rcases row_serve request present with old | ⟨message, rfl, rfl, -⟩
    · exact old
    · rw [newMessageRow, show message.receiptHandle = none from unreceived] at hasHandle
      cases hasHandle
  obtain ⟨leftRow, leftStored, leftFate⟩ := comes left leftPresent leftHandle
  obtain ⟨rightRow, rightStored, rightFate⟩ := comes right rightPresent rightHandle
  rw [leftFate.id, rightFate.id]
  rcases leftFate.receiptHandle with leftKept | ⟨q, n, t, isReceive, leftSelected, -, leftNew⟩ <;>
    rcases rightFate.receiptHandle with rightKept | ⟨q', n', t', isReceive', rightSelected, -, rightNew⟩
  · exact leasable.handle leftRow leftStored rightRow rightStored receiptHandle
      (leftKept ▸ leftHandle) (rightKept ▸ rightHandle)
  · exact absurd (leftKept.symm.trans (leftHandle.trans (rightHandle.symm.trans rightNew)))
      (leasable.fresh leftStored _)
  · exact absurd (rightKept.symm.trans (rightHandle.trans (leftHandle.symm.trans leftNew)))
      (leasable.fresh rightStored _)
  · cases isReceive.symm.trans isReceive'
    have sameHandle := Option.some.inj (leftNew.symm.trans (leftHandle.trans
      (rightHandle.symm.trans rightNew)))
    have sameIndex := Nat.add_left_cancel (leasable.random sameHandle)
    exact (List.idxOf_inj leftSelected).mp sameIndex

/-- **Every call keeps the invariant.** -/
theorem Leasable.serve (leasable : database.Leasable)
    (unreceived : request.SendsUnreceived) :
    (SqsDatabase.serve request database).2.Leasable where
  messageId := by
    intro left leftPresent right rightPresent same
    rcases row_serve request leftPresent with ⟨leftRow, leftStored, leftFate⟩ | ⟨message, rfl, rfl, new⟩ <;>
      rcases row_serve _ rightPresent with ⟨rightRow, rightStored, rightFate⟩ | ⟨other, isSend, rfl, new'⟩
    · have sameRow := leasable.messageId leftStored rightStored
        (leftFate.messageId.symm.trans (same.trans rightFate.messageId))
      refine RowTable.eq_of_key_eq leftPresent rightPresent ?_
      rw [leftFate.id, rightFate.id, sameRow]
    · exact absurd (leftFate.messageId.symm.trans same) (new' leftRow leftStored)
    · exact absurd (rightFate.messageId.symm.trans same.symm) (new rightRow rightStored)
    · cases isSend
      rfl
  handle left leftPresent right rightPresent receiptHandle leftHandle rightHandle :=
    leasable.handle_serve unreceived leftPresent rightPresent leftHandle rightHandle
  undrawn row' present draw drawn hasHandle := by
    rw [(serve_handles request database).1] at hasHandle
    rw [(serve_handles request database).2] at drawn
    rcases row_serve request present with ⟨row, stored, fate⟩ | ⟨message, rfl, rfl, -⟩
    · rcases fate.receiptHandle with kept | ⟨q, n, t, isReceive, selected, length, new⟩
      · exact leasable.undrawn row stored draw (by omega) (kept ▸ hasHandle)
      · have sameDraw := leasable.random (Option.some.inj (new.symm.trans hasHandle))
        have inBounds := List.idxOf_lt_length_of_mem selected
        omega
    · rw [newMessageRow, show message.receiptHandle = none from unreceived] at hasHandle
      cases hasHandle
  random := by
    rw [(serve_handles request database).1]
    exact leasable.random

end SqsDatabase

end Hiraeth
