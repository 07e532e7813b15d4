import Hiraeth.Sqs.Accepted
import Hiraeth.Sqs.QueueInvariant

/-!
# The description of a queue

The attributes that a queue is reported with, as far as they can be given when a
queue is created, describe the queue: they are accepted again, and the queue that
they ask for has the same attributes.

## Main definitions

* `isCreateAttribute` — the attributes that a description consists of
* `SqsQueue.columns`, `SqsQueue.description` — the description of a queue
* `Describable` — what has to hold of a queue for its description to be accepted

## Main results

* `filter_reported` — what is reported is the description
* `fromAttributeMap_of_describes` — the description is accepted
-/

namespace Hiraeth

open Interaction Program

/-- An attribute that can be given when a queue is created. -/
def isCreateAttribute (name : Text) : Bool :=
  createQueueAttributeNames.contains name

/-- The columns of a queue, as they are reported. -/
def SqsQueue.columns (queue : SqsQueue) : List (Text × Text) :=
  let number (value : ℤ) : Text := (toString value).toList
  let columns : List (Text × Text) :=
    [("Policy", queue.policy), ("VisibilityTimeout", number queue.visibilityTimeoutSeconds),
      ("MaximumMessageSize", number queue.maximumMessageSize),
      ("MessageRetentionPeriod", number queue.messageRetentionPeriodSeconds),
      ("CreatedTimestamp", timestampMillis queue.createdAt),
      ("LastModifiedTimestamp", timestampMillis queue.updatedAt),
      ("QueueArn", getQueueArn queue), ("DelaySeconds", number queue.delaySeconds),
      ("ReceiveMessageWaitTimeSeconds", number queue.receiveMessageWaitTimeSeconds),
      ("RedrivePolicy", queue.redrivePolicy),
      ("FifoQueue", boolText (queue.queueType = ("fifo" : Text))),
      ("ContentBasedDeduplication", boolText queue.contentBasedDeduplication),
      ("KmsDataKeyReusePeriodSeconds", number queue.kmsDataKeyReusePeriodSeconds),
      ("DeduplicationScope", queue.deduplicationScope),
      ("FifoThroughputLimit", queue.fifoThroughputLimit),
      ("RedriveAllowPolicy", queue.redriveAllowPolicy),
      ("SqsManagedSseEnabled", boolText queue.sqsManagedSseEnabled)]
  let key : List (Text × Text) :=
    queue.kmsMasterKeyId.toList.map fun value => ("KmsMasterKeyId", value)
  columns ++ key

/-- The attributes of a queue that can be given when a queue is created. -/
def SqsQueue.description (queue : SqsQueue) : AttributeMap :=
  SortedMap.ofList (queue.columns.filter fun entry => isCreateAttribute entry.1)

/-! ### What is reported -/

section Reported

variable {S : Type} {serve : Serve sqsStore S} {state final : S} {queue : SqsQueue}
  {requestedAttributes : List Text}

/-- A count is reported under its name, or not at all. -/
theorem entries_of_collectCount {name : Text} {count : ExceptT SqsError SqsProgram ℤ}
    {entries : List (Text × Text)}
    (collects : Succeeds serve (collectCount requestedAttributes name count) state entries final) :
    entries = [] ∨ ∃ value, entries = [(name, value)] := by
  unfold collectCount at collects
  split at collects
  · obtain ⟨value, _, -, collected⟩ := succeeds_bind.mp collects
    exact Or.inr ⟨_, (succeeds_pure.mp collected).1.symm⟩
  · exact Or.inl (succeeds_pure.mp collects).1.symm

/-- Counts are no part of a description. -/
theorem filter_collectCount {name : Text} {count : ExceptT SqsError SqsProgram ℤ}
    {entries : List (Text × Text)}
    (collects : Succeeds serve (collectCount requestedAttributes name count) state entries final)
    (isCount : isCreateAttribute name = false) :
    entries.filter (fun entry => isCreateAttribute entry.1) = [] := by
  rcases entries_of_collectCount collects with rfl | ⟨value, rfl⟩
  · rfl
  · rw [List.filter_cons, isCount]
    rfl

/-- **What is reported is the description**, as far as it can be given when a queue
is created. -/
theorem filter_reported {reported : AttributeMap} (all : ("All" : Text) ∈ requestedAttributes)
    (collects : Succeeds serve (collectQueueAttributes queue requestedAttributes) state reported
      final) :
    reported.filter (fun name _ => isCreateAttribute name) = queue.description := by
  have everything : ∀ entries : List (Text × Text),
      entries.filter (fun entry => isRequestedAttribute entry.1 requestedAttributes) = entries := by
    intro entries
    refine List.filter_eq_self.mpr fun entry _ => ?_
    exact List.any_eq_true.mpr ⟨_, all, by simp⟩
  unfold collectQueueAttributes at collects
  simp only [succeeds_bind, succeeds_pure] at collects
  obtain ⟨messages, _, isMessages, notVisible, _, isNotVisible, delayed, _, isDelayed, rfl, -⟩ :=
    collects
  rw [SortedMap.filter_ofList, List.filter_append, List.filter_append, List.filter_append,
    filter_collectCount isMessages (by decide), filter_collectCount isNotVisible (by decide),
    filter_collectCount isDelayed (by decide), everything]
  rfl

theorem exists_collectCount {name : Text} {count : ExceptT SqsError SqsProgram ℤ}
    (counts : ∀ state, ∃ value final, Succeeds serve count state value final) (state : S) :
    ∃ entries final,
      Succeeds serve (collectCount requestedAttributes name count) state entries final := by
  unfold collectCount
  split
  · obtain ⟨value, final, counted⟩ := counts state
    exact ⟨_, final, succeeds_bind.mpr ⟨value, final, counted, succeeds_pure.mpr ⟨rfl, rfl⟩⟩⟩
  · exact ⟨[], state, succeeds_pure.mpr ⟨rfl, rfl⟩⟩

/-- The attributes of a queue can always be collected. -/
theorem exists_collectQueueAttributes (queue : SqsQueue) (requestedAttributes : List Text)
    (database : SqsDatabase) :
    ∃ reported final, Succeeds SqsDatabase.serve
      (collectQueueAttributes queue requestedAttributes) database reported final := by
  have counts : ∀ database : SqsDatabase, ∃ value final, Succeeds SqsDatabase.serve
      ((sqsCall (.getMessageCount queue.id)).orFail SqsError.internal) database value final :=
    fun database => ⟨_, _, succeeds_orFail.mpr rfl⟩
  obtain ⟨messages, first, isMessages⟩ := @exists_collectCount _ SqsDatabase.serve
    requestedAttributes "ApproximateNumberOfMessages" _ counts database
  have differs : ∀ database : SqsDatabase, ∃ value final, Succeeds SqsDatabase.serve (do
      let visibleMessageCount ←
        (sqsCall (.getVisibleMessageCount queue.id)).orFail SqsError.internal
      let messageCount ← (sqsCall (.getMessageCount queue.id)).orFail SqsError.internal
      return messageCount - visibleMessageCount) database value final :=
    fun database => ⟨_, _, succeeds_bind.mpr ⟨_, _, succeeds_orFail.mpr rfl,
      succeeds_bind.mpr ⟨_, _, succeeds_orFail.mpr rfl, succeeds_pure.mpr ⟨rfl, rfl⟩⟩⟩⟩
  obtain ⟨notVisible, second, isNotVisible⟩ := @exists_collectCount _ SqsDatabase.serve
    requestedAttributes "ApproximateNumberOfMessagesNotVisible" _ differs first
  have delays : ∀ database : SqsDatabase, ∃ value final, Succeeds SqsDatabase.serve
      ((sqsCall (.getMessagesDelayedCount queue.id)).orFail SqsError.internal) database value
        final :=
    fun database => ⟨_, _, succeeds_orFail.mpr rfl⟩
  obtain ⟨delayed, third, isDelayed⟩ := @exists_collectCount _ SqsDatabase.serve
    requestedAttributes "ApproximateNumberOfMessagesDelayed" _ delays second
  exact ⟨_, third, succeeds_bind.mpr ⟨messages, first, isMessages,
    succeeds_bind.mpr ⟨notVisible, second, isNotVisible,
      succeeds_bind.mpr ⟨delayed, third, isDelayed, succeeds_pure.mpr ⟨rfl, rfl⟩⟩⟩⟩⟩

end Reported

/-! ### Reading single attributes -/

section Single

variable {library : JsonLibrary} {attributes : AttributeMap} {name : Text}

/-- Attributes are supported when all their names are. -/
theorem validateSupportedAttributes_eq_ok {supported : List Text} :
    validateSupportedAttributes attributes supported = .ok () ↔
      ∀ entry ∈ attributes.entries, entry.1 ∈ supported := by
  unfold validateSupportedAttributes
  cases found : attributes.entries.find? fun entry => !supported.contains entry.1 with
  | none => simpa using List.find?_eq_none.mp found
  | some entry =>
      have member := List.mem_of_find?_eq_some found
      have missing := List.find?_some found
      simp only [Bool.not_eq_true', List.contains_eq_mem, decide_eq_false_iff_not] at missing
      exact ⟨fun accepted => (nomatch accepted), fun every => absurd (every entry member) missing⟩

theorem parseI64Attribute_toString {low high value : ℤ}
    (given : attributes.get? name = some (toString value).toList) (inRange : Within low high value)
    (nonnegative : 0 ≤ low) (small : high ≤ 9223372036854775807) :
    parseI64Attribute attributes name low high = .ok (some value) := by
  have reads := parseI64_toString (le_trans nonnegative inRange.1) (le_trans inRange.2 small)
  simp only [parseI64Attribute, given, reads]
  exact if_pos inRange

theorem parseBoolAttribute_boolText {value : Bool}
    (given : attributes.get? name = some (boolText value)) :
    parseBoolAttribute attributes name = .ok (some value) := by
  simp only [parseBoolAttribute, given]
  cases value <;> rfl

theorem parseAllowedStringAttribute_of_mem {allowed : List Text} {value : Text}
    (given : attributes.get? name = some value) (isAllowed : value ∈ allowed) :
    parseAllowedStringAttribute attributes name allowed = .ok (some value) := by
  simp only [parseAllowedStringAttribute, given]
  exact if_pos (List.contains_iff_mem.mpr isAllowed)

/-- Any JSON will do for an attribute other than the policy. -/
theorem parseJsonStringAttribute_of_read {raw : Text} {json : Json}
    (given : attributes.get? name = some raw) (isJson : library.read raw.utf8 = .ok json)
    (other : name ≠ ("Policy" : Text)) :
    parseJsonStringAttribute library attributes name = .ok (some raw) := by
  simp only [parseJsonStringAttribute, given, isJson]
  exact if_neg fun both => other both.1

theorem parseJsonStringAttribute_policy {raw : Text} {policy : Policy}
    (given : attributes.get? "Policy" = some raw)
    (isPolicy : parsePolicyText library raw = .ok policy) :
    parseJsonStringAttribute library attributes "Policy" = .ok (some raw) := by
  obtain ⟨json, isJson, -⟩ := bind_eq_ok.mp isPolicy
  simp only [parseJsonStringAttribute, given, isJson, isPolicy]
  split <;> rfl

end Single

/-! ### A description is accepted -/

/-- **What has to hold of a queue for its description to be accepted**: the invariant,
and that the two columns that are not parsed further are JSON. -/
structure Describable (library : JsonLibrary) (queue : SqsQueue) : Prop
    extends QueueInvariant library queue where
  redrivePolicy : ∃ json, library.read (Text.utf8 queue.redrivePolicy) = .ok json
  redriveAllowPolicy : ∃ json, library.read (Text.utf8 queue.redriveAllowPolicy) = .ok json

/-- The attributes of a queue, as values of a new one. -/
def SqsQueue.values (queue : SqsQueue) : QueueAttributeValues where
  visibilityTimeoutSeconds := queue.visibilityTimeoutSeconds
  delaySeconds := queue.delaySeconds
  maximumMessageSize := queue.maximumMessageSize
  messageRetentionPeriodSeconds := queue.messageRetentionPeriodSeconds
  receiveMessageWaitTimeSeconds := queue.receiveMessageWaitTimeSeconds
  policy := queue.policy
  redrivePolicy := queue.redrivePolicy
  fifoQueue := queue.queueType = ("fifo" : Text)
  contentBasedDeduplication := queue.contentBasedDeduplication
  kmsMasterKeyId := queue.kmsMasterKeyId
  kmsDataKeyReusePeriodSeconds := queue.kmsDataKeyReusePeriodSeconds
  deduplicationScope := queue.deduplicationScope
  fifoThroughputLimit := queue.fifoThroughputLimit
  redriveAllowPolicy := queue.redriveAllowPolicy
  sqsManagedSseEnabled := queue.sqsManagedSseEnabled

section Description

variable {library : JsonLibrary} {queue : SqsQueue}

/-- **The attributes describe the queue.** -/
structure Describes (attributes : AttributeMap) (queue : SqsQueue) : Prop where
  supported : ∀ entry ∈ attributes.entries, entry.1 ∈ createQueueAttributeNames
  policy : attributes.get? "Policy" = some queue.policy
  visibilityTimeout :
      attributes.get? "VisibilityTimeout" = some (toString queue.visibilityTimeoutSeconds).toList
  delay : attributes.get? "DelaySeconds" = some (toString queue.delaySeconds).toList
  maximumMessageSize :
      attributes.get? "MaximumMessageSize" = some (toString queue.maximumMessageSize).toList
  messageRetentionPeriod :
      attributes.get? "MessageRetentionPeriod" = some (toString queue.messageRetentionPeriodSeconds).toList
  receiveMessageWaitTime :
      attributes.get? "ReceiveMessageWaitTimeSeconds" = some (toString queue.receiveMessageWaitTimeSeconds).toList
  redrivePolicy : attributes.get? "RedrivePolicy" = some queue.redrivePolicy
  fifoQueue : attributes.get? "FifoQueue" = some (boolText (queue.queueType = ("fifo" : Text)))
  contentBasedDeduplication :
      attributes.get? "ContentBasedDeduplication" = some (boolText queue.contentBasedDeduplication)
  kmsDataKeyReusePeriod :
      attributes.get? "KmsDataKeyReusePeriodSeconds" = some (toString queue.kmsDataKeyReusePeriodSeconds).toList
  deduplicationScope : attributes.get? "DeduplicationScope" = some queue.deduplicationScope
  fifoThroughputLimit : attributes.get? "FifoThroughputLimit" = some queue.fifoThroughputLimit
  redriveAllowPolicy : attributes.get? "RedriveAllowPolicy" = some queue.redriveAllowPolicy
  sqsManagedSseEnabled :
      attributes.get? "SqsManagedSseEnabled" = some (boolText queue.sqsManagedSseEnabled)
  kmsMasterKeyId : attributes.get? "KmsMasterKeyId" = queue.kmsMasterKeyId

/-- A description consists of attributes that can be given. -/
theorem filter_description :
    queue.description.filter (fun name _ => isCreateAttribute name) = queue.description := by
  rw [SqsQueue.description, SortedMap.filter_ofList, List.filter_filter]
  simp only [Bool.and_self]

theorem describes_description : Describes queue.description queue where
  supported := by
    intro entry member
    rw [← filter_description] at member
    exact List.contains_iff_mem.mp (List.mem_filter.mp member).2
  policy := by
    rw [SqsQueue.description, SortedMap.get?_ofList, SqsQueue.columns]
    cases queue.kmsMasterKeyId <;> rfl
  visibilityTimeout := by
    rw [SqsQueue.description, SortedMap.get?_ofList, SqsQueue.columns]
    cases queue.kmsMasterKeyId <;> rfl
  delay := by
    rw [SqsQueue.description, SortedMap.get?_ofList, SqsQueue.columns]
    cases queue.kmsMasterKeyId <;> rfl
  maximumMessageSize := by
    rw [SqsQueue.description, SortedMap.get?_ofList, SqsQueue.columns]
    cases queue.kmsMasterKeyId <;> rfl
  messageRetentionPeriod := by
    rw [SqsQueue.description, SortedMap.get?_ofList, SqsQueue.columns]
    cases queue.kmsMasterKeyId <;> rfl
  receiveMessageWaitTime := by
    rw [SqsQueue.description, SortedMap.get?_ofList, SqsQueue.columns]
    cases queue.kmsMasterKeyId <;> rfl
  redrivePolicy := by
    rw [SqsQueue.description, SortedMap.get?_ofList, SqsQueue.columns]
    cases queue.kmsMasterKeyId <;> rfl
  fifoQueue := by
    rw [SqsQueue.description, SortedMap.get?_ofList, SqsQueue.columns]
    cases queue.kmsMasterKeyId <;> rfl
  contentBasedDeduplication := by
    rw [SqsQueue.description, SortedMap.get?_ofList, SqsQueue.columns]
    cases queue.kmsMasterKeyId <;> rfl
  kmsDataKeyReusePeriod := by
    rw [SqsQueue.description, SortedMap.get?_ofList, SqsQueue.columns]
    cases queue.kmsMasterKeyId <;> rfl
  deduplicationScope := by
    rw [SqsQueue.description, SortedMap.get?_ofList, SqsQueue.columns]
    cases queue.kmsMasterKeyId <;> rfl
  fifoThroughputLimit := by
    rw [SqsQueue.description, SortedMap.get?_ofList, SqsQueue.columns]
    cases queue.kmsMasterKeyId <;> rfl
  redriveAllowPolicy := by
    rw [SqsQueue.description, SortedMap.get?_ofList, SqsQueue.columns]
    cases queue.kmsMasterKeyId <;> rfl
  sqsManagedSseEnabled := by
    rw [SqsQueue.description, SortedMap.get?_ofList, SqsQueue.columns]
    cases queue.kmsMasterKeyId <;> rfl
  kmsMasterKeyId := by
    rw [SqsQueue.description, SortedMap.get?_ofList, SqsQueue.columns]
    cases queue.kmsMasterKeyId <;> rfl

/-- **A description is accepted**, with the attributes of the queue. -/
theorem fromAttributeMap_of_describes {attributes : AttributeMap}
    (describes : Describes attributes queue) (describable : Describable library queue) :
    QueueAttributeValues.fromAttributeMap library attributes = .ok queue.values := by
  obtain ⟨policy, isPolicy⟩ := describable.policy
  obtain ⟨redrive, isRedrive⟩ := describable.redrivePolicy
  obtain ⟨allow, isAllow⟩ := describable.redriveAllowPolicy
  have supported := validateSupportedAttributes_eq_ok.mpr describes.supported
  have visibilityTimeout := parseI64Attribute_toString describes.visibilityTimeout
    describable.visibilityTimeout (by decide) (by decide)
  have delay := parseI64Attribute_toString describes.delay describable.delay (by decide) (by decide)
  have maximumMessageSize := parseI64Attribute_toString describes.maximumMessageSize
    describable.maximumMessageSize (by decide) (by decide)
  have messageRetentionPeriod := parseI64Attribute_toString describes.messageRetentionPeriod
    describable.messageRetentionPeriod (by decide) (by decide)
  have receiveMessageWaitTime := parseI64Attribute_toString describes.receiveMessageWaitTime
    describable.receiveMessageWaitTime (by decide) (by decide)
  have kmsDataKeyReusePeriod := parseI64Attribute_toString describes.kmsDataKeyReusePeriod
    describable.kmsDataKeyReusePeriod (by decide) (by decide)
  have readsPolicy := parseJsonStringAttribute_policy describes.policy isPolicy
  have readsRedrive := parseJsonStringAttribute_of_read describes.redrivePolicy isRedrive (by decide)
  have readsAllow := parseJsonStringAttribute_of_read describes.redriveAllowPolicy isAllow (by decide)
  have fifoQueue := parseBoolAttribute_boolText describes.fifoQueue
  have contentBased := parseBoolAttribute_boolText describes.contentBasedDeduplication
  have sqsManagedSse := parseBoolAttribute_boolText describes.sqsManagedSseEnabled
  have deduplicationScope := parseAllowedStringAttribute_of_mem describes.deduplicationScope
    describable.deduplicationScope
  have fifoThroughputLimit := parseAllowedStringAttribute_of_mem describes.fifoThroughputLimit
    describable.fifoThroughputLimit
  simp only [QueueAttributeValues.fromAttributeMap, getI64Attribute, getBoolAttribute,
    getJsonStringAttribute, getAllowedStringAttribute, supported, visibilityTimeout, delay,
    maximumMessageSize, messageRetentionPeriod, receiveMessageWaitTime, kmsDataKeyReusePeriod,
    readsPolicy, readsRedrive, readsAllow, fifoQueue, contentBased, sqsManagedSse,
    deduplicationScope, fifoThroughputLimit, describes.kmsMasterKeyId, Except.map, ok_bind,
    Option.getD_some]
  rfl

/-- The type of the queue that is asked for. -/
theorem queueType_values
    (queueType : queue.queueType = ("standard" : Text) ∨ queue.queueType = ("fifo" : Text)) :
    (if queue.values.fifoQueue then ("fifo" : Text) else ("standard" : Text)) =
      queue.queueType := by
  show (if decide (queue.queueType = ("fifo" : Text)) = true then _ else _) = _
  rcases queueType with standard | fifo
  · rw [standard]
    rfl
  · rw [fifo]
    rfl

/-- The queue that a description asks for has the attributes of the queue. -/
theorem queueConfigurationMatches_values {now : Time} {request : ResolvedRequest} {name : Text}
    (queueType : queue.queueType = ("standard" : Text) ∨ queue.queueType = ("fifo" : Text)) :
    queueConfigurationMatches queue (newQueue now request name queue.values) = true := by
  simp only [queueConfigurationMatches, newQueue, queueType_values queueType]
  simp [SqsQueue.values]

end Description

/-! ### Every queue can be described -/

section Reachable

variable {library : JsonLibrary} {attributes : AttributeMap}

/-- The change leaves a queue that can be described. -/
structure SqsQueueAttributeUpdate.Describable (library : JsonLibrary)
    (update : SqsQueueAttributeUpdate) : Prop extends update.Valid library where
  redrivePolicy : ∀ value ∈ update.redrivePolicy, ∃ json, library.read (Text.utf8 value) = .ok json
  redriveAllowPolicy :
    ∀ value ∈ update.redriveAllowPolicy, ∃ json, library.read (Text.utf8 value) = .ok json

theorem json_of_parseJsonStringAttribute {name value : Text}
    (parsed : parseJsonStringAttribute library attributes name = .ok (some value)) :
    ∃ json, library.read value.utf8 = .ok json := by
  unfold parseJsonStringAttribute at parsed
  cases given : attributes.get? name with
  | none =>
      rw [given] at parsed
      cases parsed
  | some raw =>
      rw [given] at parsed
      simp only [bind_eq_ok, mapError_eq_ok] at parsed
      obtain ⟨json, isJson, rest⟩ := parsed
      have same : raw = value := by
        split_ifs at rest with checked
        · simp only [bind_eq_ok, mapError_eq_ok, pure_eq_ok, Except.ok.injEq,
            Option.some.injEq] at rest
          obtain ⟨-, -, same⟩ := rest
          exact same
        · simpa using rest
      exact ⟨json, same ▸ isJson⟩

theorem json_of_getJsonStringAttribute (reads : ReadsEmptyObject library) {name value : Text}
    (got : getJsonStringAttribute library attributes name "{}" = .ok value) :
    ∃ json, library.read value.utf8 = .ok json := by
  unfold getJsonStringAttribute at got
  obtain ⟨found, parsed, rfl⟩ := map_eq_ok.mp got
  cases found with
  | none => exact ⟨_, reads.plain⟩
  | some value => exact json_of_parseJsonStringAttribute parsed

/-- What a call writes can be described. -/
def SqsCall.WritesDescribable (library : JsonLibrary) : SqsCall → Prop
  | .createQueue queue => Hiraeth.Describable library queue
  | .setQueueAttributes _ attributes => attributes.Describable library
  | _ => True

/-- **Describable queues cover what tasks write.** -/
theorem coversWrites_describable {library : SqsLibrary} (reads : ReadsEmptyObject library.json) :
    CoversWrites library (SqsCall.WritesDescribable library.json) where
  others call writesNone := by cases call <;> first | exact writesNone.elim | exact trivial
  created := by
    intro now request payload values checked
    have valid := @newQueue_valid library request reads now payload values checked
    simp only [validateCreateQueue, bind_eq_ok, pure_eq_ok, Except.ok.injEq] at checked
    obtain ⟨accepted, fromMap, _, -, _, -, rfl⟩ := checked
    simp only [QueueAttributeValues.fromAttributeMap, bind_eq_ok, pure_eq_ok,
      Except.ok.injEq] at fromMap
    obtain ⟨_, -, _, -, _, -, _, -, _, -, _, -, _, -, redrive, isRedrive, _, -, _, -, _, -, _, -,
      _, -, allow, isAllow, _, -, rfl⟩ := fromMap
    exact { valid with
      redrivePolicy := json_of_getJsonStringAttribute reads isRedrive
      redriveAllowPolicy := json_of_getJsonStringAttribute reads isAllow }
  changed := by
    intro queueId attributes update accepted
    have valid := parseQueueAttributeUpdate_valid reads accepted
    simp only [parseQueueAttributeUpdate, bind_eq_ok, pure_eq_ok, Except.ok.injEq] at accepted
    obtain ⟨_, -, _, -, _, -, _, -, _, -, _, -, _, -, redrive, isRedrive, _, -, _, -, _, -, _, -,
      allow, isAllow, _, -, rfl⟩ := accepted
    exact { valid with
      redrivePolicy := by
        rintro value rfl
        exact json_of_parseJsonStringAttribute isRedrive
      redriveAllowPolicy := by
        rintro value rfl
        exact json_of_parseJsonStringAttribute isAllow }
  formed := by
    intro now form checked
    exact { @queueOfForm_valid library reads now form checked with
      redrivePolicy := ⟨_, reads.plain⟩
      redriveAllowPolicy := ⟨_, reads.plain⟩ }

/-- Such calls leave queues that can be described. -/
theorem callsKeep_describable :
    CallsKeep SqsDatabase.serve (SqsCall.WritesDescribable library) fun database =>
      ∀ queue ∈ database.queues.rows, Describable library queue := by
  refine callsKeep_queues (fun queue written database id => ?_)
    fun queueId attributes written row time holds => ?_
  · exact { QueueInvariant.newRow written.toQueueInvariant database id with
      redrivePolicy := written.redrivePolicy
      redriveAllowPolicy := written.redriveAllowPolicy }
  · exact { holds.toQueueInvariant.update written.toValid time with
      redrivePolicy := getD_of_forall written.redrivePolicy holds.redrivePolicy
      redriveAllowPolicy := getD_of_forall written.redriveAllowPolicy holds.redriveAllowPolicy }

end Reachable

end Hiraeth
