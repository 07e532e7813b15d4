import Hiraeth.Sqs.QueueCreation

/-!
# Creating with attributes, and creating before setting them

A queue can be given its attributes when it is created, or afterwards.  Both ways
read each attribute alike, and a new queue without attributes has the defaults
that the first way fills in.  They part in one place: an empty key is kept by the
first way and taken away by the second.

## Main definitions

* `withoutFifo`, `onlyFifo` — the two parts of a map of attributes
* `SetsAlike` — both ways succeed, and the two queues are reported alike

## Main results

* `parseQueueAttributeUpdate_withoutFifo` — what the second way changes
* `setsAlike_iff` — both ways agree exactly when the key is not empty
-/

namespace Hiraeth

open Interaction Program

/-- The attributes that can be set afterwards. -/
def withoutFifo (attributes : AttributeMap) : AttributeMap :=
  attributes.filter fun name _ => name ≠ ("FifoQueue" : Text)

/-- The attribute that cannot. -/
def onlyFifo (attributes : AttributeMap) : AttributeMap :=
  attributes.filter fun name _ => name = ("FifoQueue" : Text)

/-! ### Reading a part of the attributes -/

section Parts

variable {library : JsonLibrary} {attributes : AttributeMap} {name : Text}

theorem get?_withoutFifo (other : name ≠ ("FifoQueue" : Text)) :
    (withoutFifo attributes).get? name = attributes.get? name :=
  SortedMap.get?_filter_key.trans (if_pos (decide_eq_true other))

theorem get?_onlyFifo (other : name ≠ ("FifoQueue" : Text)) :
    (onlyFifo attributes).get? name = none :=
  SortedMap.get?_filter_key.trans (if_neg fun kept => other (of_decide_eq_true kept))

theorem get?_onlyFifo_self :
    (onlyFifo attributes).get? "FifoQueue" = attributes.get? "FifoQueue" :=
  SortedMap.get?_filter_key.trans (if_pos (decide_eq_true rfl))

/-- A number that can be set is read as it is when the queue is created. -/
theorem parseI64Attribute_withoutFifo {low high : ℤ} (other : name ≠ ("FifoQueue" : Text)) :
    parseI64Attribute (withoutFifo attributes) name low high =
      parseI64Attribute attributes name low high := by
  rw [parseI64Attribute, parseI64Attribute, get?_withoutFifo other]

theorem parseBoolAttribute_withoutFifo (other : name ≠ ("FifoQueue" : Text)) :
    parseBoolAttribute (withoutFifo attributes) name = parseBoolAttribute attributes name := by
  rw [parseBoolAttribute, parseBoolAttribute, get?_withoutFifo other]

theorem parseJsonStringAttribute_withoutFifo (other : name ≠ ("FifoQueue" : Text)) :
    parseJsonStringAttribute library (withoutFifo attributes) name =
      parseJsonStringAttribute library attributes name := by
  rw [parseJsonStringAttribute, parseJsonStringAttribute, get?_withoutFifo other]

theorem parseAllowedStringAttribute_withoutFifo {allowed : List Text}
    (other : name ≠ ("FifoQueue" : Text)) :
    parseAllowedStringAttribute (withoutFifo attributes) name allowed =
      parseAllowedStringAttribute attributes name allowed := by
  rw [parseAllowedStringAttribute, parseAllowedStringAttribute, get?_withoutFifo other]

/-- Every attribute but the type has its default when only the type is given. -/
theorem getI64Attribute_onlyFifo {default low high : ℤ} (other : name ≠ ("FifoQueue" : Text)) :
    getI64Attribute (onlyFifo attributes) name default low high = .ok default := by
  rw [getI64Attribute, parseI64Attribute, get?_onlyFifo other]
  rfl

theorem getBoolAttribute_onlyFifo {default : Bool} (other : name ≠ ("FifoQueue" : Text)) :
    getBoolAttribute (onlyFifo attributes) name default = .ok default := by
  rw [getBoolAttribute, parseBoolAttribute, get?_onlyFifo other]
  rfl

theorem getJsonStringAttribute_onlyFifo {default : Text} (other : name ≠ ("FifoQueue" : Text)) :
    getJsonStringAttribute library (onlyFifo attributes) name default = .ok default := by
  rw [getJsonStringAttribute, parseJsonStringAttribute, get?_onlyFifo other]
  rfl

theorem getAllowedStringAttribute_onlyFifo {default : Text} {allowed : List Text}
    (other : name ≠ ("FifoQueue" : Text)) :
    getAllowedStringAttribute (onlyFifo attributes) name default allowed = .ok default := by
  rw [getAllowedStringAttribute, parseAllowedStringAttribute, get?_onlyFifo other]
  rfl

end Parts

/-! ### The two ways -/

section Ways

variable {library : SqsLibrary} {attributes : AttributeMap} {values : QueueAttributeValues}

/-- The attributes of a queue that is created without any, but for its type. -/
def QueueAttributeValues.plain (fifoQueue : Bool) : QueueAttributeValues :=
  { QueueAttributeValues.default with fifoQueue }

/-- **The type alone is accepted**, and the rest are defaults. -/
theorem fromAttributeMap_onlyFifo
    (accepted : QueueAttributeValues.fromAttributeMap library.json attributes = .ok values) :
    QueueAttributeValues.fromAttributeMap library.json (onlyFifo attributes) =
      .ok (.plain values.fifoQueue) := by
  simp only [QueueAttributeValues.fromAttributeMap, bind_eq_ok, pure_eq_ok,
    Except.ok.injEq] at accepted
  obtain ⟨_, supported, _, -, _, -, _, -, _, -, _, -, _, -, _, -, fifoQueue, isFifo, _, -, _, -, _, -,
    _, -, _, -, _, -, rfl⟩ := accepted
  have isSupported : validateSupportedAttributes (onlyFifo attributes) createQueueAttributeNames =
      .ok () :=
    validateSupportedAttributes_eq_ok.mpr fun entry member =>
      validateSupportedAttributes_eq_ok.mp supported entry (List.mem_filter.mp member).1
  have isType : getBoolAttribute (onlyFifo attributes) "FifoQueue"
      QueueAttributeValues.default.fifoQueue = .ok fifoQueue := by
    rw [getBoolAttribute, parseBoolAttribute, get?_onlyFifo_self]
    exact isFifo
  simp (disch := decide) only [QueueAttributeValues.fromAttributeMap, isSupported, isType,
    getI64Attribute_onlyFifo, getBoolAttribute_onlyFifo, getJsonStringAttribute_onlyFifo,
    getAllowedStringAttribute_onlyFifo, get?_onlyFifo, ok_bind]
  rfl

/-- Only the type cannot be set. -/
theorem filter_createQueueAttributeNames :
    createQueueAttributeNames.filter (fun name => decide (name ≠ ("FifoQueue" : Text))) =
      setQueueAttributeNames := by
  decide

/-- What an empty key comes to when it is set. -/
def keyToSet (attributes : AttributeMap) : Option (Option Text) :=
  (attributes.get? "KmsMasterKeyId").map fun value =>
    (some value).filter fun value => !value.isEmpty

/-- **What is accepted for a new queue can be set**, and a plain queue then has these
attributes, except for the key. -/
theorem parseQueueAttributeUpdate_withoutFifo
    (accepted : QueueAttributeValues.fromAttributeMap library.json attributes = .ok values) :
    values.kmsMasterKeyId = attributes.get? "KmsMasterKeyId" ∧
    ∃ update, parseQueueAttributeUpdate library.json (withoutFifo attributes) = .ok update ∧
      ∀ {now time request name} {state : SqsDatabase} {id : RowId},
        SqsDatabase.updateAttributes update time
            (state.newQueueRow (newQueue now request name (.plain values.fifoQueue)) id) =
          { state.newQueueRow (newQueue now request name values) id with
            kmsMasterKeyId := (keyToSet attributes).getD none
            updatedAt := time } := by
  simp only [QueueAttributeValues.fromAttributeMap, getI64Attribute, getBoolAttribute,
    getJsonStringAttribute, getAllowedStringAttribute, bind_eq_ok, map_eq_ok, pure_eq_ok,
    Except.ok.injEq] at accepted
  obtain ⟨_, supported, _, ⟨visibility, isVisibility, rfl⟩, _, ⟨delay, isDelay, rfl⟩, _,
    ⟨size, isSize, rfl⟩, _, ⟨retention, isRetention, rfl⟩, _, ⟨wait, isWait, rfl⟩, _,
    ⟨policy, isPolicy, rfl⟩, _, ⟨redrive, isRedrive, rfl⟩, _, ⟨fifo, isFifo, rfl⟩, _,
    ⟨content, isContent, rfl⟩, _, ⟨reuse, isReuse, rfl⟩, _, ⟨scope, isScope, rfl⟩, _,
    ⟨limit, isLimit, rfl⟩, _, ⟨allow, isAllow, rfl⟩, _, ⟨sse, isSse, rfl⟩, rfl⟩ := accepted
  have isSupported : validateSupportedAttributes (withoutFifo attributes) setQueueAttributeNames =
      .ok () := by
    refine validateSupportedAttributes_eq_ok.mpr fun entry member => ?_
    obtain ⟨given, other⟩ := List.mem_filter.mp member
    rw [← filter_createQueueAttributeNames]
    exact List.mem_filter.mpr ⟨validateSupportedAttributes_eq_ok.mp supported entry given, other⟩
  refine ⟨rfl, ⟨visibility, delay, size, retention, wait, policy, redrive, content,
    keyToSet attributes, reuse, scope, limit, allow, sse⟩, ?_, ?_⟩
  · simp (disch := decide) only [parseQueueAttributeUpdate, isSupported, ok_bind,
      parseI64Attribute_withoutFifo, parseBoolAttribute_withoutFifo,
      parseJsonStringAttribute_withoutFifo, parseAllowedStringAttribute_withoutFifo,
      get?_withoutFifo, isVisibility, isDelay, isSize, isRetention, isWait, isPolicy, isRedrive,
      isContent, isReuse, isScope, isLimit, isAllow, isSse]
    rfl
  · intro now time request name state id
    rfl

end Ways

/-! ### Reporting a new queue -/

/-- An attribute that is a time. -/
def isTimeAttribute (name : Text) : Bool :=
  [("CreatedTimestamp" : Text), ("LastModifiedTimestamp" : Text)].contains name

/-- What is reported of a queue without messages, but for times. -/
def SqsQueue.emptyReport (queue : SqsQueue) : AttributeMap :=
  let counts : List (Text × Text) :=
    [("ApproximateNumberOfMessages", "0"), ("ApproximateNumberOfMessagesNotVisible", "0"),
      ("ApproximateNumberOfMessagesDelayed", "0")]
  SortedMap.ofList (counts ++ queue.columns.filter fun entry => !isTimeAttribute entry.1)

section Report

variable {queue : SqsQueue} {database : SqsDatabase}

/-- A queue without messages. -/
def HasNoMessages (database : SqsDatabase) (queueId : RowId) : Prop :=
  ∀ row ∈ database.messages.rows, row.queueId ≠ queueId

/-- Every count of messages of such a queue is zero. -/
theorem countMessages_of_hasNoMessages {condition : Time → SqsMessageRow → Bool} {value : ℤ}
    {after : SqsDatabase} (noMessages : HasNoMessages database queue.id)
    (counted : database.countMessages queue.id condition = (.ok value, after)) :
    value = 0 ∧ HasNoMessages after queue.id := by
  have none : database.messages.rows.countP (fun row =>
      row.queueId = queue.id && condition database.now row) = 0 := by
    rw [List.countP_eq_zero]
    intro row member
    simp [noMessages row member]
  rw [SqsDatabase.countMessages, none] at counted
  obtain ⟨isZero, rfl⟩ := Prod.mk.inj counted
  exact ⟨(Except.ok.inj isZero).symm, noMessages⟩

/-- **The report of a queue without messages** depends on its columns alone. -/
theorem filter_emptyReport {reported : AttributeMap} {final : SqsDatabase}
    (noMessages : HasNoMessages database queue.id)
    (collects : Succeeds SqsDatabase.serve (collectQueueAttributes queue ["All"]) database reported
      final) :
    reported.filter (fun name _ => !isTimeAttribute name) = queue.emptyReport := by
  have requested : ∀ name, isRequestedAttribute name ["All"] = true := by
    intro name
    exact List.any_eq_true.mpr ⟨"All", by simp, by simp⟩
  unfold collectQueueAttributes collectCount at collects
  simp only [requested, if_true, succeeds_bind, succeeds_pure, succeeds_orFail] at collects
  obtain ⟨_, _, ⟨messages, first, isMessages, rfl, rfl⟩, _, _, ⟨_, _, ⟨visible, second,
    isVisible, others, third, isOthers, rfl, rfl⟩, rfl, rfl⟩, _, _, ⟨delayed, last, isDelayed, rfl,
    rfl⟩, rfl, rfl⟩ := collects
  have isMessages : database.countMessages queue.id (fun time row => time < row.expiresAt) =
    (.ok messages, first) := isMessages
  have isVisible : first.countMessages queue.id (fun time row =>
    row.visibleAt ≤ time && time < row.expiresAt) = (.ok visible, second) := isVisible
  have isOthers : second.countMessages queue.id (fun time row => time < row.expiresAt) =
    (.ok others, third) := isOthers
  have isDelayed : third.countMessages queue.id (fun time row =>
    time < row.visibleAt && time < row.expiresAt && row.receiptHandle.isNone) =
      (.ok delayed, last) := isDelayed
  obtain ⟨rfl, stillNone⟩ := countMessages_of_hasNoMessages noMessages isMessages
  obtain ⟨rfl, stillNone⟩ := countMessages_of_hasNoMessages stillNone isVisible
  obtain ⟨rfl, stillNone⟩ := countMessages_of_hasNoMessages stillNone isOthers
  obtain ⟨rfl, -⟩ := countMessages_of_hasNoMessages stillNone isDelayed
  have all : ∀ entries : List (Text × Text), entries.filter (fun _ => true) = entries := by
    intro entries
    exact List.filter_eq_self.mpr fun _ _ => rfl
  rw [SortedMap.filter_ofList, List.filter_append, all]
  rfl

/-- A report does not depend on when the queue was created or changed. -/
theorem emptyReport_times {createdAt updatedAt : Time} :
    ({ queue with createdAt, updatedAt } : SqsQueue).emptyReport = queue.emptyReport := rfl

/-- The key is part of the report. -/
theorem get?_emptyReport : queue.emptyReport.get? "KmsMasterKeyId" = queue.kmsMasterKeyId := by
  rw [SqsQueue.emptyReport, SortedMap.get?_ofList]
  obtain ⟨id, name, region, accountId, queueType, visibility, delay, size, retention, wait, policy,
    redrive, content, kmsMasterKeyId, reuse, scope, limit, allow, sse, createdAt, updatedAt⟩ := queue
  cases kmsMasterKeyId <;> rfl

end Report

/-! ### Both ways from one state -/

section Both

variable {library : SqsLibrary} {request asks : ResolvedRequest} {now later : Time}
  {payload : CreateQueueRequest} {values : QueueAttributeValues} {url : Text}
  {state : SqsDatabase}

/-- Setting attributes changes the queue that has the number. -/
theorem getQueue_setQueueAttributes {queueId : RowId} {attributes : SqsQueueAttributeUpdate}
    {name region accountId : Text} (there : state.hasQueue queueId = true) :
    (state.setQueueAttributes queueId attributes).2.getQueue name region accountId =
      (state.getQueue name region accountId).map fun row =>
        if row.id = queueId then SqsDatabase.updateAttributes attributes state.now row else row := by
  rw [SqsDatabase.setQueueAttributes, if_pos there]
  show (state.queues.rows.map _).find? _ = (state.queues.rows.find? _).map _
  rw [List.find?_map]
  congr 2
  funext row
  simp only [Function.comp_apply]
  split_ifs <;> rfl

/-- A request for the report of a queue is answered with this, but for times. -/
def ReportedAs (library : SqsLibrary) (asks : ResolvedRequest) (url : Text) (state : SqsDatabase)
    (report : AttributeMap) : Prop :=
  ∃ reported final, Succeeds SqsDatabase.serve
      ((getQueueAttributesAction library).handle asks ⟨url, ["All"]⟩) state reported final ∧
    reported.filter (fun name _ => !isTimeAttribute name) = report

/-- **The report of a queue without messages.** -/
theorem reportedAs_iff {queue : SqsQueue} {report : AttributeMap}
    (loads : Succeeds SqsDatabase.serve (loadQueueFromUrl library asks url) state queue state)
    (noMessages : HasNoMessages state queue.id) :
    ReportedAs library asks url state report ↔ report = queue.emptyReport := by
  constructor
  · rintro ⟨reported, final, handles, rfl⟩
    obtain ⟨found, between, loaded, collects⟩ := succeeds_bind.mp handles
    obtain ⟨same, rfl⟩ := Prod.mk.inj (loads.symm.trans loaded)
    obtain rfl := Except.ok.inj same
    exact filter_emptyReport noMessages collects
  · rintro rfl
    obtain ⟨reported, final, collects⟩ := exists_collectQueueAttributes queue ["All"] state
    exact ⟨reported, final, succeeds_bind.mpr ⟨queue, state, loads, collects⟩,
      filter_emptyReport noMessages collects⟩

/-- **Both ways succeed, and lead to queues that are reported alike.** -/
def SetsAlike (library : SqsLibrary) (now later : Time) (request asks : ResolvedRequest)
    (payload : CreateQueueRequest) (url : Text) (state : SqsDatabase) : Prop :=
  ∃ atOnce first afterwards report,
    Succeeds SqsDatabase.serve (handleCreateQueue library now request payload) state
      (createQueueResponse request request.accountId payload.queueName) atOnce ∧
    Succeeds SqsDatabase.serve (handleCreateQueue library later request
      { payload with attributes := onlyFifo payload.attributes }) state
      (createQueueResponse request request.accountId payload.queueName) first ∧
    Succeeds SqsDatabase.serve (handleSetQueueAttributes library asks
      ⟨url, withoutFifo payload.attributes⟩) first () afterwards ∧
    ReportedAs library asks url atOnce report ∧ ReportedAs library asks url afterwards report

/-- A new queue has no messages, and none when its attributes are set. -/
theorem hasNoMessages_withQueue {queue : SqsQueue} {tags : List (Text × Text)}
    (references : state.messages.References SqsMessageRow.queueId state.queues) :
    HasNoMessages (state.withQueue queue tags) state.nextQueueId := by
  intro row member
  exact Nat.ne_of_lt (references.lt_nextId member)

/-- A key that is set is the key that is given, unless it is empty. -/
theorem getD_keyToSet {attributes : AttributeMap} :
    attributes.get? "KmsMasterKeyId" = (keyToSet attributes).getD none ↔
      attributes.get? "KmsMasterKeyId" ≠ some [] := by
  unfold keyToSet
  rcases attributes.get? "KmsMasterKeyId" with _ | _ | ⟨first, rest⟩
  · exact iff_of_true rfl nofun
  · exact iff_of_false nofun fun given => given rfl
  · exact iff_of_true rfl nofun

/-- A queue that was just added is found by its URL. -/
theorem loads_withQueue {queue : SqsQueue} {tags : List (Text × Text)}
    (free : state.getQueue queue.name queue.region queue.accountId = none)
    (named : parseQueueUrl library.url url asks.region =
      some ⟨queue.name, queue.region, queue.accountId⟩) :
    Succeeds SqsDatabase.serve (loadQueueFromUrl library asks url) (state.withQueue queue tags)
      (state.newQueueRow queue state.nextQueueId) (state.withQueue queue tags) :=
  succeeds_loadQueueFromUrl.mpr ⟨_, named, congrArg (fun found => (Except.ok found, _))
    (SqsDatabase.getQueue_withQueue free)⟩

/-- The report of a queue that was just added. -/
theorem reportedAs_withQueue {queue : SqsQueue} {tags : List (Text × Text)} {report : AttributeMap}
    (free : state.getQueue queue.name queue.region queue.accountId = none)
    (named : parseQueueUrl library.url url asks.region =
      some ⟨queue.name, queue.region, queue.accountId⟩)
    (references : state.messages.References SqsMessageRow.queueId state.queues) :
    ReportedAs library asks url (state.withQueue queue tags) report ↔
      report = (state.newQueueRow queue state.nextQueueId).emptyReport :=
  reportedAs_iff (loads_withQueue free named) (hasNoMessages_withQueue references)

/-- **Attributes are set on a queue that was just added**, and reported. -/
theorem setQueueAttributes_withQueue {queue : SqsQueue} {tags : List (Text × Text)}
    {attributes : AttributeMap} {update : SqsQueueAttributeUpdate}
    (free : state.getQueue queue.name queue.region queue.accountId = none)
    (named : parseQueueUrl library.url url asks.region =
      some ⟨queue.name, queue.region, queue.accountId⟩)
    (references : state.messages.References SqsMessageRow.queueId state.queues)
    (isUpdate : parseQueueAttributeUpdate library.json attributes = .ok update) :
    ∃ afterwards time,
      Succeeds SqsDatabase.serve (handleSetQueueAttributes library asks ⟨url, attributes⟩)
        (state.withQueue queue tags) () afterwards ∧
      ∀ {report}, ReportedAs library asks url afterwards report ↔ report =
        (SqsDatabase.updateAttributes update time
          (state.newQueueRow queue state.nextQueueId)).emptyReport := by
  have found := @SqsDatabase.getQueue_withQueue state queue tags free
  have there : (state.withQueue queue tags).hasQueue state.nextQueueId = true :=
    SqsDatabase.hasQueue_of_getQueue found
  have answers : SqsDatabase.serve (.setQueueAttributes state.nextQueueId update)
      (state.withQueue queue tags) = (.ok (),
        ((state.withQueue queue tags).setQueueAttributes state.nextQueueId update).2) := by
    show SqsDatabase.setQueueAttributes _ _ _ = _
    rw [SqsDatabase.setQueueAttributes, if_pos there]
  have foundAfterwards := @getQueue_setQueueAttributes _ _ update queue.name queue.region
    queue.accountId there
  rw [found] at foundAfterwards
  refine ⟨_, (state.withQueue queue tags).now, succeeds_bind.mpr ⟨_, _, loads_withQueue free named,
    succeeds_bind.mpr ⟨update, _, succeeds_liftExcept.mpr ⟨isUpdate, rfl⟩,
      succeeds_orFail.mpr answers⟩⟩, ?_⟩
  refine reportedAs_iff (succeeds_loadQueueFromUrl.mpr ⟨_, named, congrArg (fun found =>
    (Except.ok found, _)) (foundAfterwards.trans (congrArg some (if_pos rfl)))⟩) ?_
  rw [SqsDatabase.setQueueAttributes, if_pos there]
  exact @hasNoMessages_withQueue state queue tags references

/-- **Both ways lead to the same report exactly when the key that is given is the key
that is set.** -/
theorem setsAlike_iff_key (accepted : validateCreateQueue library payload = .ok values)
    (free : existingQueue state request payload.queueName = none)
    (named : parseQueueUrl library.url url asks.region =
      some ⟨payload.queueName, request.region, request.accountId⟩)
    (references : state.messages.References SqsMessageRow.queueId state.queues) :
    SetsAlike library now later request asks payload url state ↔
      payload.attributes.get? "KmsMasterKeyId" = (keyToSet payload.attributes).getD none := by
  have parts := accepted
  simp only [validateCreateQueue, bind_eq_ok, pure_eq_ok, Except.ok.injEq] at parts
  obtain ⟨values, fits, _, isName, _, areTags, rfl⟩ := parts
  obtain ⟨isKey, update, isUpdate, updates⟩ := parseQueueAttributeUpdate_withoutFifo fits
  have acceptedType : validateCreateQueue library
      { payload with attributes := onlyFifo payload.attributes } =
        .ok (.plain values.fifoQueue) := by
    simp only [validateCreateQueue, fromAttributeMap_onlyFifo fits, ok_bind]
    exact bind_eq_ok.mpr ⟨(), isName, bind_eq_ok.mpr ⟨(), areTags, rfl⟩⟩
  -- the two queues, and their reports
  have atOnce := @succeeds_handleCreateQueue library request now payload _ state accepted free
  have first := @succeeds_handleCreateQueue library request later
    { payload with attributes := onlyFifo payload.attributes } _ state acceptedType free
  obtain ⟨afterwards, time, sets, reportsAfterwards⟩ :=
    @setQueueAttributes_withQueue library asks url state
      (newQueue later request payload.queueName (.plain values.fifoQueue)) payload.tags.entries _ _
      free named references isUpdate
  have reportsAtOnce : ∀ {report}, ReportedAs library asks url (state.withQueue
      (newQueue now request payload.queueName values) payload.tags.entries) report ↔ report =
        (state.newQueueRow (newQueue now request payload.queueName values)
          state.nextQueueId).emptyReport := reportedAs_withQueue free named references
  rw [updates] at reportsAfterwards
  constructor
  · rintro ⟨_, _, _, report, created, createdFirst, isSet, reported, reportedAfterwards⟩
    obtain ⟨-, rfl⟩ := Prod.mk.inj (atOnce.symm.trans created)
    obtain ⟨-, rfl⟩ := Prod.mk.inj (first.symm.trans createdFirst)
    obtain ⟨-, rfl⟩ := Prod.mk.inj (sets.symm.trans isSet)
    have same := (reportsAtOnce.mp reported).symm.trans (reportsAfterwards.mp reportedAfterwards)
    have sameKey := congrArg (fun report => report.get? "KmsMasterKeyId") same
    rw [get?_emptyReport, get?_emptyReport] at sameKey
    exact isKey.symm.trans sameKey
  · intro sameKey
    refine ⟨_, _, _, _, atOnce, first, sets, reportsAtOnce.mpr rfl, reportsAfterwards.mpr ?_⟩
    rw [← sameKey, ← isKey]
    rfl

/-- **Creating with attributes is creating and then setting them, exactly when the
key is not empty.**  An empty key is kept by the first way and taken away by the
second. -/
theorem setsAlike_iff (accepted : validateCreateQueue library payload = .ok values)
    (free : existingQueue state request payload.queueName = none)
    (named : parseQueueUrl library.url url asks.region =
      some ⟨payload.queueName, request.region, request.accountId⟩)
    (references : state.messages.References SqsMessageRow.queueId state.queues) :
    SetsAlike library now later request asks payload url state ↔
      payload.attributes.get? "KmsMasterKeyId" ≠ some [] :=
  (setsAlike_iff_key accepted free named references).trans getD_keyToSet

end Both

/-! ### A key, and an empty key -/

/-- A request to create a queue with a visibility timeout and this key. -/
def keyPayload (key : Text) : CreateQueueRequest where
  queueName := "orders"
  attributes := SortedMap.ofList (
    let entries : List (Text × Text) := [("VisibilityTimeout", "60"), ("KmsMasterKeyId", key)]
    entries)
  tags := .empty

/-- The attributes that it asks for. -/
def keyValues (key : Text) : QueueAttributeValues :=
  { QueueAttributeValues.default with visibilityTimeoutSeconds := 60, kmsMasterKeyId := some key }

/-- The store at the beginning. -/
def noQueues : SqsDatabase :=
  .empty (fun _ => 0) fun _ => []

/-- The URL of the queue. -/
def ordersUrl : Text :=
  "http://localhost:4566/000000000000/orders"

theorem parseQueueUrl_ordersUrl :
    parseQueueUrl sampleLibrary.url ordersUrl (userRequest 1 []).region =
      some ⟨"orders", (userRequest 0 []).region, (userRequest 0 []).accountId⟩ := by
  decide +kernel

/-- A key that is not empty is set as it is kept. -/
theorem setsAlike_key : SetsAlike sampleLibrary 0 1 (userRequest 0 []) (userRequest 1 [])
    (keyPayload "alias/aws/sqs") ordersUrl noQueues := by
  have accepted : validateCreateQueue sampleLibrary (keyPayload "alias/aws/sqs") =
      .ok (keyValues "alias/aws/sqs") := by
    decide +kernel
  refine (setsAlike_iff accepted rfl parseQueueUrl_ordersUrl RowTable.references_empty).mpr ?_
  decide +kernel

/-- **An empty key is accepted, and the two ways part.** -/
theorem not_setsAlike_emptyKey :
    validateCreateQueue sampleLibrary (keyPayload []) = .ok (keyValues []) ∧
    ¬ SetsAlike sampleLibrary 0 1 (userRequest 0 []) (userRequest 1 []) (keyPayload []) ordersUrl
      noQueues := by
  have accepted : validateCreateQueue sampleLibrary (keyPayload []) = .ok (keyValues []) := by
    decide +kernel
  refine ⟨accepted, fun alike => ?_⟩
  have sameKey := (setsAlike_iff_key accepted rfl parseQueueUrl_ordersUrl
    RowTable.references_empty).mp alike
  exact absurd sameKey (by decide +kernel)

end Hiraeth
