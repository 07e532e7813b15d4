import Hiraeth.Lib.Calls
import Hiraeth.Lib.Finished
import Hiraeth.Sqs.Lease
import Hiraeth.Sqs.QueueDescription

/-!
# How many messages a queue holds

A queue reports three numbers of messages.  Each message that is not expired is either
visible, or leased, or delayed; the three numbers are sums over these classes.  Two of the
numbers come from one query each, the third is the difference of two.

## Main definitions

* `SqsMessageRow.classAt` — the class of a message at a time
* `SqsDatabase.numberOf` — the number of messages of a class
* `SqsCall.removes` — what takes a message away
* `CountsLoseNothing` — nothing is lost between two counts

## Main results

* `numberOf_classes` — the classes make up all messages that are not expired
* `callsKeep_handlesMarkReceives` — a message has a handle exactly when it was received
* `reported_numbers` — what a queue reports
* `notVisible_is_a_number` — what it reports when other requests run at the same time
-/

namespace Hiraeth

open Interaction Program

/-! ### Classes of messages -/

/-- What a message is at a time, unless it is expired. -/
inductive MessageClass where
  | visible
  | leased
  | delayed
  deriving DecidableEq

/-- **The class of a message.**  A message that was received has a receipt handle ever
after; one that has none was never received. -/
def SqsMessageRow.classAt (time : Time) (row : SqsMessageRow) : Option MessageClass :=
  if row.expiresAt ≤ time then none
  else if row.visibleAt ≤ time then some .visible
  else if row.receiptHandle.isSome then some .leased
  else some .delayed

/-- A message of a class is not expired. -/
theorem SqsMessageRow.lt_expiresAt {time : Time} {row : SqsMessageRow} {kind : MessageClass}
    (isClass : row.classAt time = some kind) : time < row.expiresAt := by
  unfold classAt at isClass
  split at isClass
  · cases isClass
  · exact not_le.mp ‹_›

namespace SqsDatabase

/-- The number of messages of a queue that are of a class at a time. -/
def numberOf (database : SqsDatabase) (queueId : RowId) (time : Time) (kind : MessageClass) : ℕ :=
  database.messages.rows.countP fun row => row.queueId = queueId && row.classAt time = some kind

/-- The number of messages of a queue that are not expired. -/
def numberUnexpired (database : SqsDatabase) (queueId : RowId) (time : Time) : ℕ :=
  database.messages.rows.countP fun row => row.queueId = queueId && (row.classAt time).isSome

/-- The number of messages that a queue holds, the expired ones included. -/
def numberHeld (database : SqsDatabase) (queueId : RowId) : ℕ :=
  database.messages.rows.countP fun row => row.queueId = queueId

variable {database : SqsDatabase} {queueId : RowId} {time : Time}

/-- **Every message that is not expired is of one class.** -/
theorem numberOf_classes :
    database.numberOf queueId time .visible + database.numberOf queueId time .leased +
        database.numberOf queueId time .delayed =
      database.numberUnexpired queueId time := by
  unfold numberOf numberUnexpired
  induction database.messages.rows with
  | nil => rfl
  | cons row rows inductionHypothesis =>
      simp only [List.countP_cons, ← inductionHypothesis]
      by_cases own : row.queueId = queueId
      · rcases row.classAt time with _ | (_ | _ | _) <;> simp [own] <;> omega
      · simp [own]

theorem numberUnexpired_le : database.numberUnexpired queueId time ≤ database.numberHeld queueId := by
  refine List.countP_mono_left fun row _ counted => ?_
  exact (Bool.and_eq_true_iff.mp counted).1

/-! ### The queries -/

theorem count_getMessageCount :
    serve (.getMessageCount queueId) database =
      (.ok (database.numberUnexpired queueId database.now), database.tick) := by
  show (_, _) = _
  congr 3
  refine List.countP_congr fun row _ => ?_
  unfold SqsMessageRow.classAt
  by_cases own : row.queueId = queueId
  · by_cases expired : row.expiresAt ≤ database.now
    · simp [own, expired]
    · simp only [own, decide_true, Bool.true_and, decide_eq_true_eq, if_neg expired]
      refine ⟨fun _ => ?_, fun _ => not_le.mp expired⟩
      split_ifs <;> rfl
  · simp [own]

theorem count_getVisibleMessageCount :
    serve (.getVisibleMessageCount queueId) database =
      (.ok (database.numberOf queueId database.now .visible), database.tick) := by
  show (_, _) = _
  congr 3
  refine List.countP_congr fun row _ => ?_
  unfold SqsMessageRow.classAt
  by_cases expired : row.expiresAt ≤ database.now
  · simp [expired]
  · by_cases visible : row.visibleAt ≤ database.now
    · simp [expired, visible, not_le.mp expired]
    · simp only [if_neg expired, if_neg visible]
      split_ifs <;> simp [visible]

theorem count_getMessagesDelayedCount :
    serve (.getMessagesDelayedCount queueId) database =
      (.ok (database.numberOf queueId database.now .delayed), database.tick) := by
  show (_, _) = _
  congr 3
  refine List.countP_congr fun row _ => ?_
  unfold SqsMessageRow.classAt
  by_cases expired : row.expiresAt ≤ database.now
  · simp [expired]
  · by_cases visible : row.visibleAt ≤ database.now
    · simp [expired, visible]
    · cases handle : row.receiptHandle with
      | none => simp [handle, expired, visible, not_le.mp expired, not_le.mp visible]
      | some receiptHandle => simp [handle, expired, visible]

/-! ### Handles and receives -/

/-- **A message has a handle exactly when it was received.** -/
def HandlesMarkReceives (database : SqsDatabase) : Prop :=
  ∀ row ∈ database.messages.rows,
    0 ≤ row.receiveCount ∧ (row.receiptHandle.isSome = true ↔ 0 < row.receiveCount)

/-- Every call keeps it, when a message that is sent was not received yet. -/
theorem callsKeep_handlesMarkReceives :
    CallsKeep serve (fun request => ∀ message, request = .sendMessage message →
      message.receiptHandle = none ∧ message.receiveCount = 0) HandlesMarkReceives := by
  intro request database unreceived marks row' present
  rcases row_serve request present with ⟨row, stored, fate⟩ | ⟨message, rfl, rfl, -⟩
  · obtain ⟨nonnegative, marked⟩ := marks row stored
    cases fate with
    | kept => exact ⟨nonnegative, marked⟩
    | leased =>
        show 0 ≤ row.receiveCount + 1 ∧ (_ ↔ 0 < row.receiveCount + 1)
        exact ⟨by omega, fun _ => by omega, fun _ => rfl⟩
    | rescheduled => exact ⟨nonnegative, marked⟩
  · obtain ⟨noHandle, noReceive⟩ := unreceived message rfl
    rw [newMessageRow, noHandle, noReceive]
    simp

end SqsDatabase

/-! ### What is reported -/

/-- The attributes that are numbers of messages. -/
def countNames : List Text :=
  ["ApproximateNumberOfMessages", "ApproximateNumberOfMessagesNotVisible",
    "ApproximateNumberOfMessagesDelayed"]

/-- Every other attribute is a column of the queue. -/
theorem columns_not_counts (queue : SqsQueue) :
    queue.columns.all (fun entry => !countNames.contains entry.1) = true := by
  unfold SqsQueue.columns
  cases queue.kmsMasterKeyId <;> rfl

/-- A number of messages, when it is requested. -/
def requestedNumber (requestedAttributes : List Text) (name : Text) (number : ℤ) : Option Text :=
  if isRequestedAttribute name requestedAttributes then some (toString number).toList else none

section Reported

variable {queue : SqsQueue} {requestedAttributes : List Text} {reported : AttributeMap}

/-- The entry of a number. -/
def numberEntries (requestedAttributes : List Text) (name : Text) (number : ℤ) :
    List (Text × Text) :=
  if isRequestedAttribute name requestedAttributes then [(name, (toString number).toList)] else []

/-- A number is found under its name. -/
theorem get?_numberEntries {name other : Text} {number : ℤ} :
    (SortedMap.ofList (numberEntries requestedAttributes name number)).get? other =
      if other = name then requestedNumber requestedAttributes name number else none := by
  unfold numberEntries requestedNumber
  split_ifs with requested same
  · rw [SortedMap.get?_ofList_singleton, if_pos same]
  · rw [SortedMap.get?_ofList_singleton, if_neg same]
  · rfl
  · rfl

/-- Three numbers under different names, among entries with other names. -/
theorem get?_numbers {first second third : Text} {messages notVisible delayed : ℤ}
    {entries : List (Text × Text)} (firstSecond : first ≠ second) (firstThird : first ≠ third)
    (secondThird : second ≠ third)
    (others : ∀ entry ∈ entries, entry.1 ≠ first ∧ entry.1 ≠ second ∧ entry.1 ≠ third)
    (isReported : reported = SortedMap.ofList (numberEntries requestedAttributes first messages ++
      numberEntries requestedAttributes second notVisible ++
      numberEntries requestedAttributes third delayed ++ entries)) :
    reported.get? first = requestedNumber requestedAttributes first messages ∧
      reported.get? second = requestedNumber requestedAttributes second notVisible ∧
      reported.get? third = requestedNumber requestedAttributes third delayed := by
  rw [isReported]
  simp only [SortedMap.get?_ofList_append, get?_numberEntries]
  rw [SortedMap.get?_ofList_eq_none fun entry member => (others entry member).1,
    SortedMap.get?_ofList_eq_none fun entry member => (others entry member).2.1,
    SortedMap.get?_ofList_eq_none fun entry member => (others entry member).2.2]
  simp [firstSecond, firstSecond.symm, firstThird, firstThird.symm, secondThird, secondThird.symm]

/-- **What is reported of the numbers**, whatever the columns are. -/
theorem get?_reported {messages notVisible delayed : ℤ}
    (isReported : reported = SortedMap.ofList
      (numberEntries requestedAttributes "ApproximateNumberOfMessages" messages ++
        numberEntries requestedAttributes "ApproximateNumberOfMessagesNotVisible" notVisible ++
        numberEntries requestedAttributes "ApproximateNumberOfMessagesDelayed" delayed ++
        queue.columns.filter fun entry => isRequestedAttribute entry.1 requestedAttributes)) :
    reported.get? "ApproximateNumberOfMessages" =
        requestedNumber requestedAttributes "ApproximateNumberOfMessages" messages ∧
      reported.get? "ApproximateNumberOfMessagesNotVisible" =
        requestedNumber requestedAttributes "ApproximateNumberOfMessagesNotVisible" notVisible ∧
      reported.get? "ApproximateNumberOfMessagesDelayed" =
        requestedNumber requestedAttributes "ApproximateNumberOfMessagesDelayed" delayed := by
  have differ : ("ApproximateNumberOfMessages" : Text) ≠ "ApproximateNumberOfMessagesNotVisible" ∧
      ("ApproximateNumberOfMessages" : Text) ≠ "ApproximateNumberOfMessagesDelayed" ∧
      ("ApproximateNumberOfMessagesNotVisible" : Text) ≠ "ApproximateNumberOfMessagesDelayed" := by
    decide +kernel
  refine get?_numbers differ.1 differ.2.1 differ.2.2 (fun entry member => ?_) isReported
  have other := List.all_eq_true.mp (columns_not_counts queue) entry (List.mem_filter.mp member).1
  rw [Bool.not_eq_true'] at other
  have absent : entry.1 ∉ countNames := fun isCount => by
    rw [List.contains_iff_mem.mpr isCount] at other
    cases other
  refine ⟨fun same => absent ?_, fun same => absent ?_, fun same => absent ?_⟩
  · rw [same]
    exact List.mem_cons_self
  · rw [same]
    exact List.mem_cons_of_mem _ List.mem_cons_self
  · rw [same]
    exact List.mem_cons_of_mem _ (List.mem_cons_of_mem _ List.mem_cons_self)

end Reported

/-! ### A queue with four messages -/

/-- A message that was never received. -/
def sampleRow (id : RowId) (visibleAt expiresAt : Time) (receiptHandle : Option Text) :
    SqsMessageRow where
  id := id
  messageId := List.replicate id 'n'
  queueId := 1
  body := "hello"
  messageAttributes := "\x7b\x7d"
  awsTraceHeader := none
  sentAt := 0
  visibleAt := visibleAt
  expiresAt := expiresAt
  receiveCount := if receiptHandle.isSome then 1 else 0
  receiptHandle := receiptHandle
  firstReceivedAt := receiptHandle.map fun _ => 0
  messageGroupId := none
  messageDeduplicationId := none

/-- One message of each class, and an expired one. -/
def countedStore : SqsDatabase :=
  { ordersStore with
    messages := ⟨[sampleRow 1 0 10 none, sampleRow 2 5 10 (some "handle"), sampleRow 3 5 10 none,
      sampleRow 4 5 0 none], by decide⟩ }

/-- A request for all attributes. -/
def allAttributes : GetQueueAttributesRequest where
  queueUrl := "http://localhost:4566/000000000000/orders"
  attributeNames := ["All"]

theorem found_countedStore :
    Succeeds SqsDatabase.serve
      (loadQueueFromUrl sampleLibrary (userRequest 0 []) allAttributes.queueUrl) countedStore
      ordersQueue countedStore := by
  rfl

/-! ### A request that runs alone -/

section Alone

variable {library : SqsLibrary} {request : ResolvedRequest} {payload : GetQueueAttributesRequest}
  {queue : SqsQueue} {database state final : SqsDatabase} {reported : AttributeMap}

/-- The store after at most so many readings of the clock, and otherwise unchanged. -/
def ReadOnly (database : SqsDatabase) (readings : ℕ) (state : SqsDatabase) : Prop :=
  ∃ read ≤ readings, state = { database with ticks := database.ticks + read }

/-- **A number that is counted**, with at most so many readings of the clock. -/
def CountsAs (database : SqsDatabase) (count : ExceptT SqsError SqsProgram ℤ) (readings : ℕ)
    (number : ℤ) : Prop :=
  ∀ {before state value final}, before + readings ≤ 4 → ReadOnly database before state →
    Succeeds SqsDatabase.serve count state value final →
    value = number ∧ ReadOnly database (before + readings) final

/-- A query that counts by the clock, while the clock stands still. -/
theorem countsAs_query {number : SqsDatabase → Time → ℕ}
    (steady : ∀ reading < 4, database.clock (database.ticks + reading) = database.now)
    (same : ∀ read time, number { database with ticks := read } time = number database time)
    {ask : SqsProgram (StoreResult ℤ)}
    (counts : ∀ state : SqsDatabase,
      ask.run SqsDatabase.serve state = (.ok (number state state.now : ℤ), state.tick)) :
    CountsAs database (ask.orFail SqsError.internal) 1 (number database database.now) := by
  intro before state value final bound readOnly counted
  obtain ⟨read, few, rfl⟩ := readOnly
  have asked := succeeds_orFail.mp counted
  rw [counts, same] at asked
  obtain ⟨isValue, rfl⟩ := Prod.mk.inj asked
  refine ⟨?_, read + 1, by omega, rfl⟩
  rw [← Except.ok.inj isValue]
  exact congrArg (fun time => ((number database time : ℕ) : ℤ)) (steady read (by omega))

/-- A number that is requested is counted, and one that is not is left out. -/
theorem collectCount_eq {name : Text} {count : ExceptT SqsError SqsProgram ℤ} {readings before : ℕ}
    {number : ℤ} {requestedAttributes : List Text} {entries : List (Text × Text)}
    (counts : CountsAs database count readings number) (bound : before + readings ≤ 4)
    (readOnly : ReadOnly database before state)
    (collects : Succeeds SqsDatabase.serve (collectCount requestedAttributes name count) state
      entries final) :
    entries = numberEntries requestedAttributes name number ∧
      ReadOnly database (before + readings) final := by
  unfold collectCount at collects
  unfold numberEntries
  by_cases requested : isRequestedAttribute name requestedAttributes = true
  · rw [if_pos requested] at collects ⊢
    obtain ⟨value, between, counted, collected⟩ := succeeds_bind.mp collects
    obtain ⟨rfl, rfl⟩ := succeeds_pure.mp collected
    obtain ⟨rfl, after⟩ := counts bound readOnly counted
    exact ⟨rfl, after⟩
  · rw [if_neg requested] at collects ⊢
    obtain ⟨rfl, rfl⟩ := succeeds_pure.mp collects
    obtain ⟨read, few, same⟩ := readOnly
    exact ⟨rfl, read, by omega, same⟩

end Alone

/-- The call takes the message away. -/
def SqsCall.removes (row : SqsMessageRow) : SqsCall → Bool
  | .deleteMessage queueId receiptHandle => SqsDatabase.heldUnder queueId receiptHandle row
  | .purgeQueue queueId => row.queueId = queueId
  | .deleteQueue queueId => row.queueId = queueId
  | _ => false

namespace SqsDatabase

variable {state : SqsDatabase} {row : SqsMessageRow}

/-- A message that is not taken away stays in its queue, until the same time. -/
theorem row_stays (request : SqsCall) (stored : row ∈ state.messages.rows)
    (kept : request.removes row = false) :
    ∃ row' ∈ (serve request state).2.messages.rows,
      row'.id = row.id ∧ row'.queueId = row.queueId ∧ row'.expiresAt = row.expiresAt := by
  rcases row_survives request stored with ⟨row', present, fate⟩ | ⟨receiptHandle, rfl, held⟩ | rfl | rfl
  · refine ⟨row', present, fate.id, fate.queueId, ?_⟩
    cases fate <;> rfl
  · simp [SqsCall.removes, heldUnder, held] at kept
  · simp [SqsCall.removes] at kept
  · simp [SqsCall.removes] at kept

/-- A message that none of the calls takes away is still there after them. -/
theorem row_stays_throughout {requests : List SqsCall} (stored : row ∈ state.messages.rows)
    (kept : ∀ moment ∈ moments serve state requests, ∀ other ∈ moment.before.messages.rows,
      other.id = row.id → moment.request.removes other = false) :
    ∃ row' ∈ (stateAfter serve state requests).messages.rows,
      row'.id = row.id ∧ row'.queueId = row.queueId ∧ row'.expiresAt = row.expiresAt := by
  induction requests generalizing state row with
  | nil => exact ⟨row, stored, rfl, rfl, rfl⟩
  | cons request requests inductionHypothesis =>
      obtain ⟨middle, present, sameId, sameQueue, sameEnd⟩ :=
        row_stays request stored (kept ⟨state, request⟩ List.mem_cons_self row stored rfl)
      obtain ⟨last, isLast, lastId, lastQueue, lastEnd⟩ := inductionHypothesis present
        fun moment member other isOther same =>
          kept moment (List.mem_cons_of_mem _ member) other isOther (same.trans sameId)
      exact ⟨last, isLast, lastId.trans sameId, lastQueue.trans sameQueue, lastEnd.trans sameEnd⟩

/-- **Nothing is lost between two counts.**  No call takes away a message that the first
count finds visible, and none of these messages expires before the second count. -/
structure LosesNothing (first : SqsDatabase) (queueId : RowId) (between : List SqsCall) :
    Prop where
  kept : ∀ row ∈ first.messages.rows, row.queueId = queueId →
    row.classAt first.now = some .visible → ∀ moment ∈ moments serve first.tick between,
      ∀ other ∈ moment.before.messages.rows, other.id = row.id →
        moment.request.removes other = false
  unexpired : ∀ row ∈ first.messages.rows, row.queueId = queueId →
    row.classAt first.now = some .visible →
      (stateAfter serve first.tick between).now < row.expiresAt

/-- **The second count counts what the first one did.** -/
theorem LosesNothing.counted_again {first : SqsDatabase} {queueId : RowId} {between : List SqsCall}
    (nothing : first.LosesNothing queueId between) :
    first.numberOf queueId first.now .visible ≤
      (stateAfter serve first.tick between).numberUnexpired queueId
        (stateAfter serve first.tick between).now := by
  refine RowTable.countP_le_countP fun row stored counted => ?_
  obtain ⟨own, visible⟩ := Bool.and_eq_true_iff.mp counted
  have own := of_decide_eq_true own
  have visible := of_decide_eq_true visible
  obtain ⟨row', present, sameId, sameQueue, sameEnd⟩ :=
    @row_stays_throughout first.tick row _ stored (nothing.kept row stored own visible)
  have later := nothing.unexpired row stored own visible
  rw [← sameEnd] at later
  refine ⟨row', present, sameId, Bool.and_eq_true_iff.mpr ⟨decide_eq_true (sameQueue.trans own), ?_⟩⟩
  unfold SqsMessageRow.classAt
  rw [if_neg (not_le.mpr later)]
  split_ifs <;> rfl

end SqsDatabase

section Among

variable {ι : Type} {library : SqsLibrary} {request : ResolvedRequest}
  {payload : GetQueueAttributesRequest} {thread : ι} {reported : AttributeMap}
  {start config : Config sqsStore (Except SqsError AttributeMap) ι SqsDatabase}

/-- The state that a part of the log leaves. -/
def stateAt (start : Config sqsStore (Except SqsError AttributeMap) ι SqsDatabase)
    (before : List (ι × Event sqsStore)) : SqsDatabase :=
  stateAfter SqsDatabase.serve start.shared (before.map fun entry => entry.2.1)

/-- Counting the visible messages leaves nothing but a reading of the clock. -/
theorem stateAt_counted {before between : List (ι × Event sqsStore)} {queueId : RowId}
    {visible : StoreResult ℤ} :
    stateAt start (before ++ (thread, ⟨.getVisibleMessageCount queueId, visible⟩) :: between) =
      stateAfter SqsDatabase.serve (stateAt start before).tick
        (between.map fun entry => entry.2.1) := by
  unfold stateAt
  rw [List.map_append, List.map_cons, stateAfter_append, stateAfter]
  exact congrArg (fun state : SqsDatabase => stateAfter _ state _)
    (congrArg Prod.snd SqsDatabase.count_getVisibleMessageCount)

/-- **Nothing is lost between the two counts of a thread**: whenever it counts the visible
messages of a queue and then all of them, with only calls of others in between. -/
def CountsLoseNothing (start config : Config sqsStore (Except SqsError AttributeMap) ι SqsDatabase)
    (thread : ι) : Prop :=
  ∀ before between after queueId visible held,
    config.log = before ++ (thread, ⟨.getVisibleMessageCount queueId, visible⟩) ::
      (between ++ (thread, ⟨.getMessageCount queueId, held⟩) :: after) →
    (∀ entry ∈ between, entry.1 ≠ thread) →
    (stateAt start before).LosesNothing queueId (between.map fun entry => entry.2.1)

/-- What a number that was collected comes from. -/
theorem completes_collectCount {requestedAttributes : List Text} {name : Text}
    {count : ExceptT SqsError SqsProgram ℤ} {events : List (Event sqsStore)}
    {entries : List (Text × Text)}
    (completes : Completes (collectCount requestedAttributes name count) events entries) :
    ∃ number, entries = numberEntries requestedAttributes name number ∧
      (isRequestedAttribute name requestedAttributes = true → Completes count events number) := by
  unfold collectCount at completes
  unfold numberEntries
  by_cases requested : isRequestedAttribute name requestedAttributes = true
  · rw [if_pos requested] at completes
    obtain ⟨number, first, later, rfl, counted, collected⟩ := completes_bind.mp completes
    obtain ⟨rfl, rfl⟩ := completes_pure.mp collected
    rw [List.append_nil]
    exact ⟨number, (if_pos requested).symm, fun _ => counted⟩
  · rw [if_neg requested] at completes
    obtain ⟨-, rfl⟩ := completes_pure.mp completes
    exact ⟨0, (if_neg requested).symm, fun isRequested => absurd isRequested requested⟩

/-- **The number of hidden messages is the difference of two counts**, whatever happens in
between. -/
theorem counts_of_reported {queue : SqsQueue} {requestedAttributes : List Text}
    {events : List (Event sqsStore)} {value : Text}
    (completes : Completes (collectQueueAttributes queue requestedAttributes) events reported)
    (isReported : reported.get? "ApproximateNumberOfMessagesNotVisible" = some value) :
    ∃ earlier later visible held,
      events = earlier ++ ⟨.getVisibleMessageCount queue.id, .ok visible⟩ ::
        ⟨.getMessageCount queue.id, .ok held⟩ :: later ∧
      value = (toString (held - visible)).toList := by
  unfold collectQueueAttributes at completes
  simp only [completes_bind, completes_pure] at completes
  obtain ⟨messages, first, rest, rfl, isMessages, notVisible, second, rest, rfl, isNotVisible,
    delayed, third, rest, rfl, isDelayed, rfl, rfl⟩ := completes
  obtain ⟨all, rfl, -⟩ := completes_collectCount isMessages
  obtain ⟨hidden, rfl, counted⟩ := completes_collectCount isNotVisible
  obtain ⟨late, rfl, -⟩ := completes_collectCount isDelayed
  have found := (@get?_reported queue _ _ _ _ _ rfl).2.1.symm.trans isReported
  unfold requestedNumber at found
  split_ifs at found with requested
  have counts := counted requested
  simp only [completes_bind, completes_orFail, completes_pure] at counts
  obtain ⟨visible, _, _, rfl, isVisible, held, _, _, rfl, isHeld, rfl, rfl⟩ := counts
  obtain rfl := finishes_sqsCall.mp isVisible
  obtain rfl := finishes_sqsCall.mp isHeld
  refine ⟨first, third ++ [], visible, held, ?_, (Option.some.inj found).symm⟩
  simp

/-- **What a queue reports while other requests run is a number of messages**: not
negative, and at most the number that the queue holds when the request counts them. -/
theorem notVisible_is_a_number [DecidableEq ι]
    (isRequest : start.threads thread = ((getQueueAttributesAction library).handle request payload).run)
    (fresh : start.log = []) (reachable : Reachable SqsDatabase.serve (fun _ _ => True) start config)
    (answered : config.threads thread = .done (.ok reported)) {value : Text}
    (isReported : reported.get? "ApproximateNumberOfMessagesNotVisible" = some value)
    (undisturbed : CountsLoseNothing start config thread) :
    ∃ (queue : SqsQueue) (number : ℤ), ToldQueue queue (config.history thread) ∧
      value = (toString number).toList ∧ 0 ≤ number ∧
      ∃ before event after, config.log = before ++ (thread, event) :: after ∧
        number ≤ (stateAt start before).numberHeld queue.id := by
  have follows := reachable.follows fresh thread
  rw [isRequest, answered] at follows
  have completes : Completes (do
      let queue ← loadQueueFromUrl library request payload.queueUrl
      collectQueueAttributes queue payload.attributeNames) (config.history thread) reported := follows
  obtain ⟨queue, loading, collecting, happened, loads, collects⟩ := completes_bind.mp completes
  obtain ⟨earlier, later, visible, held, rfl, rfl⟩ := counts_of_reported collects isReported
  have told : ToldQueue queue (config.history thread) := by
    obtain ⟨queueId, -, rfl⟩ := completes_loadQueueFromUrl.mp loads
    rw [happened]
    exact ⟨_, _, _, List.mem_append_left _ List.mem_cons_self⟩
  rw [← List.append_assoc] at happened
  obtain ⟨before, between, after, cut, others⟩ := Config.log_eq_of_history happened
  have secondCut : config.log =
      (before ++ (thread, ⟨.getVisibleMessageCount queue.id, .ok visible⟩) :: between) ++
        (thread, ⟨.getMessageCount queue.id, .ok held⟩) :: after := by
    rw [cut, List.append_assoc]
    rfl
  have isVisible : (Except.ok visible : StoreResult ℤ) =
      (SqsDatabase.serve (.getVisibleMessageCount queue.id) (stateAt start before)).1 :=
    reachable.answered fresh cut
  have isHeld : (Except.ok held : StoreResult ℤ) = (SqsDatabase.serve (.getMessageCount queue.id)
      (stateAt start (before ++ (thread, ⟨.getVisibleMessageCount queue.id, .ok visible⟩) ::
        between))).1 :=
    reachable.answered fresh secondCut
  rw [SqsDatabase.count_getVisibleMessageCount] at isVisible
  rw [SqsDatabase.count_getMessageCount] at isHeld
  have visibleIs := Except.ok.inj isVisible
  have heldIs := Except.ok.inj isHeld
  have atMost := (undisturbed before between after queue.id _ _ cut others).counted_again
  rw [← @stateAt_counted _ thread start before between queue.id (.ok visible)] at atMost
  have bound := @SqsDatabase.numberUnexpired_le (stateAt start
    (before ++ (thread, ⟨.getVisibleMessageCount queue.id, .ok visible⟩) :: between)) queue.id
    (stateAt start
      (before ++ (thread, ⟨.getVisibleMessageCount queue.id, .ok visible⟩) :: between)).now
  exact ⟨queue, held - visible, told, rfl, by omega, _, _, _, secondCut, by omega⟩

end Among

/-- A request for the number of hidden messages. -/
def hiddenAttribute : GetQueueAttributesRequest where
  queueUrl := "http://localhost:4566/000000000000/orders"
  attributeNames := ["ApproximateNumberOfMessagesNotVisible"]

/-- The request, and another one that makes one call. -/
def countedStart (other : SqsCall) :
    Config sqsStore (Except SqsError AttributeMap) Bool SqsDatabase where
  shared := countedStore
  threads
    | false => ((getQueueAttributesAction sampleLibrary).handle (userRequest 0 []) hiddenAttribute).run
    | true => (sqsCall other).bind fun _ => .done (.ok SortedMap.empty)
  log := []

/-- A run in which a message is sent between the two counts. -/
def sendingConfig : Config sqsStore (Except SqsError AttributeMap) Bool SqsDatabase :=
  (countedStart (.sendMessage (helloMessage 0))).play SqsDatabase.serve [false, false, true, false]

/-- What is sent takes nothing away. -/
theorem countsLoseNothing_sending :
    CountsLoseNothing (countedStart (.sendMessage (helloMessage 0))) sendingConfig false := by
  intro before between after queueId visible held cut others
  have calls : [SqsCall.getQueue "orders" "us-east-1" "000000000000", .getVisibleMessageCount 1,
      .sendMessage (helloMessage 0), .getMessageCount 1] = _ :=
    congrArg (List.map fun entry : Bool × Event sqsStore => entry.2.1) cut
  rw [List.map_append, List.map_cons, List.map_append, List.map_cons] at calls
  unfold stateAt
  generalize before.map (fun entry => entry.2.1) = earlier at calls ⊢
  generalize between.map (fun entry => entry.2.1) = middle at calls ⊢
  -- the visible messages are counted by the second call, and all of them by the fourth
  simp only [List.cons_eq_append_iff, reduceCtorEq, false_and, and_false, or_false, false_or,
    List.cons.injEq, List.append_eq_cons_iff, SqsCall.getVisibleMessageCount.injEq,
    List.nil_eq, List.append_eq_nil_iff, exists_false] at calls
  obtain ⟨_, rfl, rfl, rfl, _, rfl, rfl, -, -⟩ := calls
  refine ⟨fun row _ _ _ moment member other _ _ => ?_, fun row _ _ visible => ?_⟩
  · obtain rfl := List.mem_singleton.mp member
    rfl
  · exact SqsMessageRow.lt_expiresAt visible

/-- With a message sent between the two counts the number is one more. -/
theorem notVisible_is_a_number_sending :
    ∃ reported number, Reachable SqsDatabase.serve (fun _ _ => True)
        (countedStart (.sendMessage (helloMessage 0))) sendingConfig ∧
      sendingConfig.threads false = .done (.ok reported) ∧
      reported.get? "ApproximateNumberOfMessagesNotVisible" = some (toString number).toList ∧
      (0 : ℤ) ≤ number := by
  have reachable : Reachable SqsDatabase.serve (fun _ _ => True)
      (countedStart (.sendMessage (helloMessage 0))) sendingConfig :=
    Reachable.play (fun _ _ _ => trivial) .start Config.passes_true
  have isAnswered : ∃ reported, sendingConfig.threads false = .done (.ok reported) ∧
      reported.get? "ApproximateNumberOfMessagesNotVisible" = some "3" :=
    ⟨_, rfl, by decide +kernel⟩
  obtain ⟨reported, answered, isReported⟩ := isAnswered
  obtain ⟨_, number, -, same, nonnegative, -⟩ :=
    notVisible_is_a_number rfl rfl reachable answered isReported countsLoseNothing_sending
  exact ⟨reported, number, reachable, answered, isReported.trans (congrArg some same), nonnegative⟩

/-- **The queue reports a negative number of messages**, when it is purged between the two
counts. -/
theorem notVisible_is_negative :
    ∃ config reported, Reachable SqsDatabase.serve (fun _ _ => True)
        (countedStart (.purgeQueue 1)) config ∧
      config.threads false = .done (.ok reported) ∧
      reported.get? "ApproximateNumberOfMessagesNotVisible" = some "-1" := by
  refine ⟨(countedStart (.purgeQueue 1)).play SqsDatabase.serve [false, false, true, false], _,
    Reachable.play (fun _ _ _ => trivial) .start Config.passes_true, rfl, ?_⟩
  decide +kernel

end Hiraeth
