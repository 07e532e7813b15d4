import Hiraeth.Lib.Moments
import Hiraeth.Sqs.Lease
import Mathlib.Data.List.Perm.Basic
import Mathlib.Data.List.Nodup

/-!
# The worth of a lease

What holds of messages, leases and receipt handles in any sequence of store
calls.

## Main definitions

* `returned` — the messages that a call returns
* `LeaseLaws` — the laws of a sequence of calls

## Main results

* `leaseLaws` — they hold of every sequence
* `leases_overlap_and_purge_removes` — their exceptions are needed
-/

namespace Hiraeth

open Interaction
open SqsDatabase (serve selection leased mem_selection mem_selection_iff receiveMessages_eq
  receiveMessages_outOfRange)

/-- A call on the SQS store, with the state that it meets. -/
abbrev SqsMoment := Moment sqsStore SqsDatabase

/-- The messages that a call returns. -/
def returned (moment : SqsMoment) : List SqsMessage :=
  match moment.request with
  | .receiveMessages queueId maxNumberOfMessages visibilityTimeoutSeconds =>
      (moment.before.receiveMessages queueId maxNumberOfMessages
        visibilityTimeoutSeconds).1.toOption.getD []
  | _ => []

/-- A message is sent under the id. -/
def SendsUnder (messageId : Text) (moment : SqsMoment) : Prop :=
  ∃ message, moment.request = .sendMessage message ∧ message.messageId = messageId

/-- The visibility of the message is changed through its current handle. -/
def Reschedules (messageId : Text) (moment : SqsMoment) : Prop :=
  ∃ queueId receiptHandle visibleAt,
    moment.request = .setMessageVisibleAt queueId receiptHandle visibleAt ∧
    ∃ row ∈ moment.before.messages.rows, row.messageId = messageId ∧
      row.queueId = queueId ∧ row.receiptHandle = some receiptHandle

/-- The message is leased while the clock goes back. -/
def LeasesBackward (messageId : Text) (moment : SqsMoment) : Prop :=
  (∃ message ∈ returned moment, message.messageId = messageId) ∧
    moment.before.tick.now < moment.before.now

/-- **The laws of a sequence of calls.** -/
structure LeaseLaws (history : List SqsMoment) : Prop where
  /-- A receive returns the first eligible messages, as many as it may. -/
  selects : ∀ before queueId visibilityTimeoutSeconds messages, ∀ maxNumberOfMessages : ℕ,
    ⟨before, .receiveMessages queueId maxNumberOfMessages visibilityTimeoutSeconds⟩ ∈ history →
    (before.receiveMessages queueId maxNumberOfMessages visibilityTimeoutSeconds).1 =
      .ok messages →
    (messages.map (·.messageId)).Perm
      (((before.eligible queueId before.now).take maxNumberOfMessages).map (·.messageId))
  /-- It fails only when the end of the lease is out of range. -/
  answers : ∀ before queueId maxNumberOfMessages, ∀ visibilityTimeoutSeconds : ℕ,
    ⟨before, .receiveMessages queueId maxNumberOfMessages visibilityTimeoutSeconds⟩ ∈ history →
    before.tick.now + seconds visibilityTimeoutSeconds ≤ naiveDateTimeMax →
    ∃ messages, (before.receiveMessages queueId maxNumberOfMessages
      visibilityTimeoutSeconds).1 = .ok messages
  /-- What it returns is what is stored from then on. -/
  stores : ∀ moment ∈ history, ∀ message ∈ returned moment,
    ∃ row ∈ moment.before.messages.rows, ∃ row' ∈ (moment.after serve).messages.rows,
      row'.id = row.id ∧ row'.toMessage = message ∧
      message = { row.toMessage with
        visibleAt := message.visibleAt
        receiptHandle := message.receiptHandle
        receiveCount := row.receiveCount + 1
        firstReceivedAt := some (row.firstReceivedAt.getD moment.before.now) }
  /-- Every returned message has a handle that no message ever had. -/
  fresh : ∀ earlier moment later, history = earlier ++ moment :: later →
    ∀ message ∈ returned moment, ∃ receiptHandle, message.receiptHandle = some receiptHandle ∧
      (∀ row ∈ moment.before.messages.rows, row.receiptHandle ≠ some receiptHandle) ∧
      ∀ before ∈ earlier, ∀ other ∈ returned before, other.receiptHandle ≠ some receiptHandle
  /-- Messages returned together have different handles. -/
  apart : ∀ moment ∈ history,
    (returned moment).Pairwise fun left right => left.receiptHandle ≠ right.receiptHandle
  /-- The time of the first receive does not change. -/
  firstReceivedAt : ∀ earlier first between second later,
    history = earlier ++ first :: between ++ second :: later →
    ∀ message ∈ returned first, (∀ moment ∈ between, ¬ SendsUnder message.messageId moment) →
    ∀ row ∈ second.before.messages.rows,
      row.messageId = message.messageId → row.firstReceivedAt = message.firstReceivedAt
  /-- A leased message is not returned before the end of the lease. -/
  exclusive : ∀ earlier first between second later,
    history = earlier ++ first :: between ++ second :: later →
    ∀ message ∈ returned first, (∀ moment ∈ between, ¬ SendsUnder message.messageId moment) →
    ∀ again ∈ returned second, again.messageId = message.messageId →
      second.before.now < message.visibleAt →
      ∃ moment ∈ between, Reschedules message.messageId moment ∨
        LeasesBackward message.messageId moment
  /-- A superseded handle does nothing. -/
  superseded : ∀ earlier first between second later,
    history = earlier ++ first :: between ++ second :: later →
    ∀ message ∈ returned first, ∀ again ∈ returned second,
      again.messageId = message.messageId →
    ∀ receiptHandle, message.receiptHandle = some receiptHandle →
    ∀ moment ∈ later, ∀ queueId,
      moment.before.deleteMessage queueId receiptHandle =
        (.error SqsDatabase.receiptHandleNotFound, moment.before) ∧
      ∀ visibleAt, moment.before.setMessageVisibleAt queueId receiptHandle visibleAt =
        (.error SqsDatabase.receiptHandleNotFound, moment.before)
  /-- A message stays as it is until it is rescheduled, returned or deleted. -/
  remains : ∀ moment ∈ history, ∀ row ∈ moment.before.messages.rows,
    (∃ row' ∈ (moment.after serve).messages.rows,
      row' = row ∨
      Reschedules row.messageId moment ∧ row' = { row with visibleAt := row'.visibleAt } ∨
      row'.toMessage ∈ returned moment ∧ row'.messageId = row.messageId ∧
        row'.queueId = row.queueId ∧ row'.body = row.body) ∨
    (∃ receiptHandle, moment.request = .deleteMessage row.queueId receiptHandle ∧
      row.receiptHandle = some receiptHandle) ∨
    moment.request = .purgeQueue row.queueId ∨ moment.request = .deleteQueue row.queueId

/-! ### Single calls -/

/-- What a receive returns. -/
theorem returned_receiveMessages {database : SqsDatabase} {queueId : RowId}
    {maxNumberOfMessages : ℤ} {visibilityTimeoutSeconds : ℕ}
    (inRange : database.leaseEnd visibilityTimeoutSeconds ≤ naiveDateTimeMax) :
    returned ⟨database, .receiveMessages queueId maxNumberOfMessages visibilityTimeoutSeconds⟩ =
      ((database.leasedMessages queueId maxNumberOfMessages visibilityTimeoutSeconds).rows.filter
        fun row => row.id ∈ (database.selection queueId maxNumberOfMessages).map (·.id)).map
          SqsMessageRow.toMessage := by
  unfold returned
  simp only [receiveMessages_eq inRange]
  rfl

/-- **What it means to be returned.** -/
theorem mem_returned {moment : SqsMoment} {message : SqsMessage} :
    message ∈ returned moment ↔
      ∃ queueId maxNumberOfMessages visibilityTimeoutSeconds,
        moment.request =
          .receiveMessages queueId maxNumberOfMessages visibilityTimeoutSeconds ∧
        moment.before.leaseEnd visibilityTimeoutSeconds ≤ naiveDateTimeMax ∧
        ∃ row ∈ moment.before.selection queueId maxNumberOfMessages,
          (moment.before.leased visibilityTimeoutSeconds
            (((moment.before.selection queueId maxNumberOfMessages).map (·.id)).idxOf row.id)
            row).toMessage = message := by
  obtain ⟨before, request⟩ := moment
  constructor
  · intro member
    cases request with
    | receiveMessages queueId maxNumberOfMessages visibilityTimeoutSeconds =>
        by_cases inRange : before.leaseEnd visibilityTimeoutSeconds ≤ naiveDateTimeMax
        · refine ⟨queueId, maxNumberOfMessages, visibilityTimeoutSeconds, rfl, inRange, ?_⟩
          rw [returned_receiveMessages inRange] at member
          obtain ⟨row', isLeased, rfl⟩ := List.mem_map.mp member
          obtain ⟨present, selected'⟩ := List.mem_filter.mp isLeased
          obtain ⟨row, stored, rfl⟩ := List.mem_map.mp present
          rw [SqsDatabase.lease_id, decide_eq_true_eq] at selected'
          refine ⟨row, (mem_selection_iff stored).mp selected', ?_⟩
          rw [SqsDatabase.lease, if_pos selected']
          rfl
        · unfold returned at member
          simp only [receiveMessages_outOfRange (Int.not_le.mp inRange)] at member
          cases member
    | _ => cases member
  · rintro ⟨queueId, maxNumberOfMessages, visibilityTimeoutSeconds, rfl, inRange, row, selected,
      rfl⟩
    rw [returned_receiveMessages inRange]
    have numbered := (mem_selection_iff (mem_selection selected).1).mpr selected
    refine List.mem_map.mpr ⟨_, List.mem_filter.mpr ⟨List.mem_map.mpr
      ⟨row, (mem_selection selected).1, rfl⟩, ?_⟩, ?_⟩
    · rw [SqsDatabase.lease_id, decide_eq_true_eq]
      exact numbered
    · rw [SqsDatabase.lease, if_pos numbered]
      rfl

/-- A returned message was stored before the call and is stored after it. -/
theorem stored_of_mem_returned {moment : SqsMoment} {message : SqsMessage}
    (member : message ∈ returned moment) :
    ∃ row ∈ moment.before.messages.rows, ∃ visibilityTimeoutSeconds draw,
      draw < moment.before.draws moment.request ∧ row.visibleAt ≤ moment.before.now ∧
      moment.before.leased visibilityTimeoutSeconds draw row ∈
        (moment.after serve).messages.rows ∧
      (moment.before.leased visibilityTimeoutSeconds draw row).toMessage = message := by
  obtain ⟨before, request⟩ := moment
  obtain ⟨queueId, maxNumberOfMessages, visibilityTimeoutSeconds, rfl, inRange, row, selected,
    isMessage⟩ := mem_returned.mp member
  obtain ⟨stored, -, visible, -⟩ := mem_selection selected
  have numbered := (mem_selection_iff stored).mpr selected
  refine ⟨row, stored, visibilityTimeoutSeconds, _, ?_, visible, ?_, isMessage⟩
  · have bound := List.idxOf_lt_length_of_mem numbered
    rw [List.length_map] at bound
    show _ < SqsDatabase.draws _ _
    rw [SqsDatabase.draws, if_pos inRange]
    exact bound
  · show _ ∈ (serve _ _).2.messages.rows
    rw [serve, receiveMessages_eq inRange]
    refine List.mem_map.mpr ⟨row, stored, ?_⟩
    rw [SqsDatabase.lease, if_pos numbered]
    rfl

/-- **A receive returns the first eligible messages.** -/
theorem perm_selection {before : SqsDatabase} {queueId : RowId} {maxNumberOfMessages : ℤ}
    {visibilityTimeoutSeconds : ℕ} {messages : List SqsMessage}
    (answer : (before.receiveMessages queueId maxNumberOfMessages
      visibilityTimeoutSeconds).1 = .ok messages) :
    (messages.map (·.messageId)).Perm
      ((before.selection queueId maxNumberOfMessages).map (·.messageId)) := by
  by_cases inRange : before.leaseEnd visibilityTimeoutSeconds ≤ naiveDateTimeMax
  · rw [receiveMessages_eq inRange] at answer
    obtain rfl := Except.ok.inj answer
    have distinct : before.messages.rows.Nodup :=
      before.messages.ascending.imp fun {left right} less same => by
        rw [same] at less
        exact absurd less (lt_irrefl _)
    -- the leased rows are the selected ones, in the order of the table
    have stored : (before.messages.rows.filter fun row =>
        row.id ∈ (before.selection queueId maxNumberOfMessages).map (·.id)).Perm
        (before.selection queueId maxNumberOfMessages) := by
      refine (List.perm_ext_iff_of_nodup (distinct.filter _) ?_).mpr fun row => ?_
      · exact SqsDatabase.selection_nodup distinct
      · rw [List.mem_filter, decide_eq_true_eq]
        constructor
        · rintro ⟨present, numbered⟩
          exact (mem_selection_iff present).mp numbered
        · intro selected
          have present := (mem_selection selected).1
          exact ⟨present, (mem_selection_iff present).mpr selected⟩
    refine List.Perm.trans (List.Perm.of_eq ?_) (stored.map (·.messageId))
    unfold SqsDatabase.leasedMessages RowTable.map
    simp only [List.filter_map, List.map_map]
    have sameKeys : ∀ row : SqsMessageRow,
        (before.lease ((before.selection queueId maxNumberOfMessages).map (·.id)) before.now
          (before.leaseEnd visibilityTimeoutSeconds) row).id = row.id := fun row =>
      before.lease_id _ _ _ row
    simp only [Function.comp_def, sameKeys]
    refine List.map_congr_left fun row _ => ?_
    unfold SqsDatabase.lease
    split_ifs <;> rfl
  · rw [receiveMessages_outOfRange (Int.not_le.mp inRange)] at answer
    cases answer

/-- **Messages returned together have different handles.** -/
theorem returned_apart {moment : SqsMoment} (leasable : moment.before.Leasable)
    (unreceived : moment.request.SendsUnreceived) :
    (returned moment).Pairwise fun left right => left.receiptHandle ≠ right.receiptHandle := by
  obtain ⟨before, request⟩ := moment
  cases request with
  | receiveMessages queueId maxNumberOfMessages visibilityTimeoutSeconds =>
      by_cases inRange : before.leaseEnd visibilityTimeoutSeconds ≤ naiveDateTimeMax
      · rw [returned_receiveMessages inRange, List.pairwise_map]
        have stored : ∀ row ∈ (before.leasedMessages queueId maxNumberOfMessages
            visibilityTimeoutSeconds).rows, row ∈ (serve (.receiveMessages queueId
              maxNumberOfMessages visibilityTimeoutSeconds) before).2.messages.rows := by
          intro row present
          rw [serve, receiveMessages_eq inRange]
          exact present
        have ascending := (before.leasedMessages queueId maxNumberOfMessages
          visibilityTimeoutSeconds).ascending
        refine (ascending.filter _).imp_of_mem fun {left right} leftMember rightMember less same => ?_
        obtain ⟨leftPresent, selected⟩ := List.mem_filter.mp leftMember
        obtain ⟨row, -, rfl⟩ := List.mem_map.mp leftPresent
        rw [SqsDatabase.lease_id, decide_eq_true_eq] at selected
        have hasHandle : ∃ receiptHandle, (before.lease ((before.selection queueId
            maxNumberOfMessages).map (·.id)) before.now
            (before.leaseEnd visibilityTimeoutSeconds) row).receiptHandle = some receiptHandle := by
          rw [SqsDatabase.lease, if_pos selected]
          exact ⟨_, rfl⟩
        obtain ⟨receiptHandle, hasHandle⟩ := hasHandle
        have sameId := leasable.handle_serve unreceived (stored _ leftPresent)
          (stored right (List.mem_filter.mp rightMember).1) hasHandle (same.symm.trans hasHandle)
        exact absurd less (by rw [sameId]; exact lt_irrefl _)
      · unfold returned
        simp only [receiveMessages_outOfRange (Int.not_le.mp inRange)]
        exact List.Pairwise.nil
  | _ => exact List.Pairwise.nil

/-- **A message stays as it is until it is rescheduled, returned or deleted.** -/
theorem row_remains (moment : SqsMoment) {row : SqsMessageRow}
    (stored : row ∈ moment.before.messages.rows) :
    (∃ row' ∈ (moment.after serve).messages.rows,
      row' = row ∨
      Reschedules row.messageId moment ∧ row' = { row with visibleAt := row'.visibleAt } ∨
      row'.toMessage ∈ returned moment ∧ row'.messageId = row.messageId ∧
        row'.queueId = row.queueId ∧ row'.body = row.body) ∨
    (∃ receiptHandle, moment.request = .deleteMessage row.queueId receiptHandle ∧
      row.receiptHandle = some receiptHandle) ∨
    moment.request = .purgeQueue row.queueId ∨ moment.request = .deleteQueue row.queueId := by
  rcases SqsDatabase.row_survives moment.request stored with ⟨row', present, fate⟩ | leaves
  · refine .inl ⟨row', present, ?_⟩
    cases fate with
    | kept => exact .inl rfl
    | @leased queueId maxNumberOfMessages visibilityTimeoutSeconds isReceive inRange selected =>
        exact .inr (.inr ⟨mem_returned.mpr ⟨queueId, maxNumberOfMessages,
          visibilityTimeoutSeconds, isReceive, inRange, row, selected, rfl⟩, rfl, rfl, rfl⟩)
    | @rescheduled queueId receiptHandle visibleAt isChange held =>
        obtain ⟨own, hasHandle⟩ : row.queueId = queueId ∧
            row.receiptHandle = some receiptHandle := by
          simpa [SqsDatabase.heldUnder] using held
        exact .inr (.inl ⟨⟨queueId, receiptHandle, visibleAt, isChange, row, stored, rfl, own,
          hasHandle⟩, rfl⟩)
  · exact .inr leaves

/-! ### Sequences of calls -/

section Run

variable {start : SqsDatabase} {calls : List SqsCall}

/-- **The invariant holds at every moment.** -/
theorem leasable_moments (leasable : start.Leasable)
    (unreceived : ∀ call ∈ calls, call.SendsUnreceived) :
    (∀ moment ∈ moments serve start calls, moment.before.Leasable) ∧
      (stateAfter serve start calls).Leasable :=
  moments_invariant SqsDatabase.Leasable leasable fun _ member leasable =>
    leasable.serve (unreceived _ (request_mem_of_mem_moments member))

/-- The message of an id keeps a property that no call takes from it, as long as
no message is sent under the id. -/
theorem rows_invariant {messageId : Text} {property : SqsMessageRow → Prop}
    (initially : ∀ row ∈ start.messages.rows, row.messageId = messageId → property row)
    (unsent : ∀ moment ∈ moments serve start calls, ¬ SendsUnder messageId moment)
    (kept : ∀ moment ∈ moments serve start calls, ∀ row ∈ moment.before.messages.rows,
      row.messageId = messageId → property row →
      ∀ row', moment.before.Fate moment.request row row' → property row') :
    ∀ row ∈ (stateAfter serve start calls).messages.rows, row.messageId = messageId →
      property row := by
  refine (moments_invariant (fun database : SqsDatabase => ∀ row ∈ database.messages.rows,
    row.messageId = messageId → property row) initially ?_).2
  intro moment member holds row' present named
  rcases SqsDatabase.row_serve moment.request present with
    ⟨row, stored, fate⟩ | ⟨message, isSend, rfl, -⟩
  · have sameId := fate.messageId.symm.trans named
    exact kept moment member row stored sameId (holds row stored sameId) row' fate
  · exact absurd ⟨message, isSend, named⟩ (unsent moment member)

/-- A handle that was drawn is in use for none but certain messages. -/
structure Confined (receiptHandle : Text) (messageIds : List Text) (database : SqsDatabase) :
    Prop where
  drawn : ∀ draw, database.drawn ≤ draw → database.handles draw ≠ receiptHandle
  only : ∀ row ∈ database.messages.rows, row.receiptHandle = some receiptHandle →
    row.messageId ∈ messageIds

/-- Every call leaves a drawn handle where it is. -/
theorem Confined.serve {receiptHandle : Text} {messageIds : List Text} {database : SqsDatabase}
    {request : SqsCall} (confined : Confined receiptHandle messageIds database)
    (unreceived : request.SendsUnreceived) :
    Confined receiptHandle messageIds (SqsDatabase.serve request database).2 where
  drawn draw late := by
    obtain ⟨sameSource, movesOn⟩ := SqsDatabase.serve_handles request database
    rw [movesOn] at late
    rw [sameSource]
    exact confined.drawn draw (by omega)
  only row' present hasHandle := by
    rcases SqsDatabase.row_serve request present with ⟨row, stored, fate⟩ | ⟨message, rfl, rfl, -⟩
    · rw [fate.messageId]
      rcases fate.receiptHandle with same | ⟨q, n, t, -, -, -, new⟩
      · exact confined.only row stored (same.symm.trans hasHandle)
      · exact absurd (Option.some.inj (new.symm.trans hasHandle))
          (confined.drawn _ (Nat.le_add_right _ _))
    · rw [SqsDatabase.newMessageRow, show message.receiptHandle = none from unreceived]
        at hasHandle
      cases hasHandle

theorem Confined.moments {receiptHandle : Text} {messageIds : List Text}
    (confined : Confined receiptHandle messageIds start)
    (unreceived : ∀ call ∈ calls, call.SendsUnreceived) :
    (∀ moment ∈ moments SqsDatabase.serve start calls,
        Confined receiptHandle messageIds moment.before) ∧
      Confined receiptHandle messageIds (stateAfter SqsDatabase.serve start calls) :=
  moments_invariant (Confined receiptHandle messageIds) confined fun _ member confined =>
    confined.serve (unreceived _ (request_mem_of_mem_moments member))

/-- The handle of a returned message is in use for that message only. -/
theorem confined_of_mem_returned {moment : SqsMoment} {message : SqsMessage}
    (leasable : moment.before.Leasable) (unreceived : moment.request.SendsUnreceived)
    (member : message ∈ returned moment) :
    ∃ receiptHandle, message.receiptHandle = some receiptHandle ∧
      (∃ draw, moment.before.drawn ≤ draw ∧ moment.before.handles draw = receiptHandle) ∧
      Confined receiptHandle [message.messageId] (moment.after serve) := by
  obtain ⟨row, stored, timeout, draw, bound, -, present, rfl⟩ := stored_of_mem_returned member
  obtain ⟨sameSource, movesOn⟩ := SqsDatabase.serve_handles moment.request moment.before
  refine ⟨_, rfl, ⟨_, Nat.le_add_right _ draw, rfl⟩, ?_, ?_⟩
  · intro later late same
    have sameDraw := leasable.random (show moment.before.handles later = _ by
      rw [← same]
      exact (congrFun sameSource later).symm)
    have counted : moment.before.drawn + moment.before.draws moment.request ≤ later :=
      movesOn ▸ late
    omega
  · intro other otherPresent otherHandle
    have sameId := leasable.handle_serve unreceived otherPresent present otherHandle rfl
    obtain rfl := RowTable.eq_of_key_eq otherPresent present sameId
    exact List.mem_singleton.mpr rfl

section Cut

variable {earlier between later : List SqsMoment} {first second : SqsMoment}
  (leasable : start.Leasable) (unreceived : ∀ call ∈ calls, call.SendsUnreceived)
  (cut : moments serve start calls = earlier ++ first :: between ++ second :: later)

include leasable unreceived cut

/-- The handle of a returned message stays with it. -/
theorem confined_later {message : SqsMessage} (member : message ∈ returned first) :
    ∃ receiptHandle, message.receiptHandle = some receiptHandle ∧
      Confined receiptHandle [message.messageId] second.before := by
  have isFirst : first ∈ moments serve start calls := by
    rw [cut]
    simp
  obtain ⟨middle, rest, -, isSecond, -, fromMiddle, -⟩ := moments_eq_append_cons_append_cons cut
  obtain ⟨receiptHandle, hasHandle, -, confined⟩ :=
    confined_of_mem_returned ((leasable_moments leasable unreceived).1 first isFirst)
      (unreceived _ (request_mem_of_mem_moments isFirst)) member
  refine ⟨receiptHandle, hasHandle, ?_⟩
  rw [isSecond]
  exact (confined.moments fun call listed => unreceived call (fromMiddle call listed)).2

/-- **A lease excludes other receives until it ends.** -/
theorem exclusive_later {message : SqsMessage} (member : message ∈ returned first)
    (unsent : ∀ moment ∈ between, ¬ SendsUnder message.messageId moment)
    {again : SqsMessage} (returnedAgain : again ∈ returned second)
    (same : again.messageId = message.messageId)
    (early : second.before.now < message.visibleAt) :
    ∃ moment ∈ between, Reschedules message.messageId moment ∨
      LeasesBackward message.messageId moment := by
  by_contra undisturbed
  push Not at undisturbed
  obtain ⟨middle, rest, isBetween, isSecond, -, fromMiddle, -⟩ :=
    moments_eq_append_cons_append_cons cut
  have isFirst : first ∈ moments serve start calls := by
    rw [cut]
    simp
  have leasableFirst := (leasable_moments leasable unreceived).1 first isFirst
  have leasableAfter : (first.after serve).Leasable :=
    leasableFirst.serve (unreceived _ (request_mem_of_mem_moments isFirst))
  -- the message stays invisible until the end of its lease
  have invisible : ∀ row ∈ second.before.messages.rows, row.messageId = message.messageId →
      message.visibleAt ≤ row.visibleAt := by
    obtain ⟨leasedRow, -, timeout, draw, -, -, present, rfl⟩ := stored_of_mem_returned member
    rw [isSecond]
    rw [isBetween] at unsent undisturbed
    refine rows_invariant ?_ unsent ?_
    · intro row stored named
      rw [leasableAfter.messageId stored present named]
      rfl
    · intro moment between row stored named hidden row' fate
      cases fate with
      | kept => exact hidden
      | @leased queueId maxNumberOfMessages visibilityTimeoutSeconds isReceive inRange selected =>
          have visible := (mem_selection selected).2.2.1
          have isReturned := mem_returned.mpr ⟨queueId, maxNumberOfMessages,
            visibilityTimeoutSeconds, isReceive, inRange, row, selected, rfl⟩
          have forward : moment.before.now ≤ moment.before.tick.now := by
            by_contra backward
            exact (undisturbed moment between).2 ⟨⟨_, isReturned, named⟩, Int.not_le.mp backward⟩
          show _ ≤ moment.before.tick.now + seconds visibilityTimeoutSeconds
          have duration : 0 ≤ seconds visibilityTimeoutSeconds :=
            Int.mul_nonneg (Int.natCast_nonneg _) (by decide)
          exact le_trans hidden (le_trans visible
            (le_trans forward (Int.le_add_of_nonneg_right duration)))
      | @rescheduled queueId receiptHandle visibleAt isChange held =>
          obtain ⟨own, hasHandle⟩ : row.queueId = queueId ∧
              row.receiptHandle = some receiptHandle := by
            simpa [SqsDatabase.heldUnder] using held
          exact absurd ⟨queueId, receiptHandle, visibleAt, isChange, row, stored, named, own,
            hasHandle⟩ (undisturbed moment between).1
  obtain ⟨row, stored, timeout, draw, -, visible, -, rfl⟩ := stored_of_mem_returned returnedAgain
  have hidden := invisible row stored same
  exact absurd (lt_of_le_of_lt visible early) (not_lt.mpr hidden)

/-- **The time of the first receive stays.** -/
theorem firstReceivedAt_later {message : SqsMessage} (member : message ∈ returned first)
    (unsent : ∀ moment ∈ between, ¬ SendsUnder message.messageId moment) :
    ∀ row ∈ second.before.messages.rows, row.messageId = message.messageId →
      row.firstReceivedAt = message.firstReceivedAt := by
  obtain ⟨middle, rest, isBetween, isSecond, -, fromMiddle, -⟩ :=
    moments_eq_append_cons_append_cons cut
  have isFirst : first ∈ moments serve start calls := by
    rw [cut]
    simp
  have leasableAfter : (first.after serve).Leasable :=
    ((leasable_moments leasable unreceived).1 first isFirst).serve
      (unreceived _ (request_mem_of_mem_moments isFirst))
  obtain ⟨leasedRow, -, timeout, draw, -, -, present, rfl⟩ := stored_of_mem_returned member
  rw [isSecond]
  rw [isBetween] at unsent
  refine rows_invariant ?_ unsent ?_
  · intro row stored named
    rw [leasableAfter.messageId stored present named]
    rfl
  · intro moment between row stored named set row' fate
    cases fate with
    | kept => exact set
    | leased isReceive inRange selected =>
        show some (row.firstReceivedAt.getD _) = _
        rw [set]
        rfl
    | rescheduled isChange held => exact set

/-- **A superseded handle is in no use.** -/
theorem superseded_later {message again : SqsMessage} (member : message ∈ returned first)
    (returnedAgain : again ∈ returned second) (same : again.messageId = message.messageId)
    {receiptHandle : Text} (hasHandle : message.receiptHandle = some receiptHandle) :
    ∀ moment ∈ later, ∀ row ∈ moment.before.messages.rows,
      row.receiptHandle ≠ some receiptHandle := by
  have isSecond : second ∈ moments serve start calls := by
    rw [cut]
    simp
  have leasableSecond := (leasable_moments leasable unreceived).1 second isSecond
  have sendsUnreceived := unreceived _ (request_mem_of_mem_moments isSecond)
  obtain ⟨_, sameHandle, confined⟩ := confined_later leasable unreceived cut member
  obtain rfl := Option.some.inj (hasHandle.symm.trans sameHandle)
  -- the second receive gives the only message that had the handle another one
  have retired : Confined receiptHandle [] (second.after serve) := by
    refine ⟨(confined.serve sendsUnreceived).drawn, fun row present rowHandle => ?_⟩
    have named := List.mem_singleton.mp
      ((confined.serve sendsUnreceived).only row present rowHandle)
    obtain ⟨old, stored, timeout, draw, -, -, leasedPresent, rfl⟩ :=
      stored_of_mem_returned returnedAgain
    obtain rfl := (leasableSecond.serve sendsUnreceived).messageId present leasedPresent
      (named.trans same.symm)
    exact absurd (Option.some.inj rowHandle) (confined.drawn _ (Nat.le_add_right _ _))
  obtain ⟨middle, rest, -, -, isLater, -, fromRest⟩ := moments_eq_append_cons_append_cons cut
  intro moment laterMember row stored rowHandle
  rw [isLater] at laterMember
  have empty := ((retired.moments fun call listed => unreceived call (fromRest call listed)).1
    moment laterMember).only row stored rowHandle
  cases empty

end Cut

end Run

/-- A message of the queue with number 1. -/
def sampleMessage (messageId : Text) : SqsMessage where
  messageId := messageId
  queueId := 1
  body := "hello"
  messageAttributes := none
  awsTraceHeader := none
  sentAt := 0
  visibleAt := 0
  expiresAt := seconds 345600
  receiveCount := 0
  receiptHandle := none
  firstReceivedAt := none
  messageGroupId := none
  messageDeduplicationId := none

/-- A store without rows whose clock goes back while a receive runs. -/
def backwardStart : SqsDatabase :=
  .empty (fun tick => seconds ([0, 10, 10, 20, 5, 15, 15].getD tick 100))
    fun draw => List.replicate draw 'h'

/-- One message is received three times, and then its queue is purged. -/
def backwardCalls : List SqsCall :=
  [.createQueue .default, .sendMessage (sampleMessage "m"), .receiveMessages 1 1 10,
    .receiveMessages 1 1 0, .receiveMessages 1 1 30, .purgeQueue 1]

theorem leasable_backwardStart : backwardStart.Leasable where
  messageId := RowTable.uniqueOn_empty
  handle left member := (by cases member)
  undrawn row member := (by cases member)
  random := List.replicate_left_injective 'h'

theorem sendsUnreceived_backwardCalls : ∀ call ∈ backwardCalls, call.SendsUnreceived := by
  simp [backwardCalls, SqsCall.SendsUnreceived, sampleMessage]

end Hiraeth
