import Hiraeth.Sqs.CreateThenSet

/-!
# The settings of a queue, one by one

An update of the attributes of a queue is one statement that writes every column, most of
them with the value that they have.  A request changes the settings that it names, to the
values that it gives, and nothing else.  So two requests that name no setting in common
can be answered in either order, and side by side neither undoes the other.

## Main definitions

* `QueueSetting` — the settings, each with its name and the way its value is read
* `SettingsChanged` — what one request changes
* `QueueUpdateTask` — a request that changes settings

## Main results

* `setting_updateAttributes` — one statement, setting by setting
* `setting_parseQueueAttributeUpdate` — one request, setting by setting
* `queueUpdates_independent` — updates are independent
-/

namespace Hiraeth

open Interaction Program

/-! ### Settings -/

/-- The settings that can be changed. -/
inductive QueueSetting where
  | visibilityTimeout
  | delay
  | maximumMessageSize
  | messageRetentionPeriod
  | receiveMessageWaitTime
  | policy
  | redrivePolicy
  | contentBasedDeduplication
  | kmsMasterKeyId
  | kmsDataKeyReusePeriod
  | deduplicationScope
  | fifoThroughputLimit
  | redriveAllowPolicy
  | sqsManagedSseEnabled
  deriving DecidableEq

/-- The value of a setting. -/
inductive SettingValue where
  | number (value : ℤ)
  | text (value : Text)
  | flag (value : Bool)
  | key (value : Option Text)
  deriving DecidableEq

namespace SettingValue

/-- How a number is read. -/
def readNumber (raw : Text) : Option SettingValue :=
  (parseI64 raw).map number

/-- How a text is read. -/
def readText (raw : Text) : Option SettingValue :=
  some (text raw)

/-- How a flag is read, in any case of its letters. -/
def readFlag (raw : Text) : Option SettingValue :=
  if toAsciiLowercase raw = ("true" : Text) then some (flag true)
  else if toAsciiLowercase raw = ("false" : Text) then some (flag false)
  else none

/-- How a key is read: the empty text takes the key away. -/
def readKey (raw : Text) : Option SettingValue :=
  some (key (if raw = [] then none else some raw))

end SettingValue

namespace QueueSetting

/-- The name of a setting in a request. -/
def name : QueueSetting → Text
  | visibilityTimeout => "VisibilityTimeout"
  | delay => "DelaySeconds"
  | maximumMessageSize => "MaximumMessageSize"
  | messageRetentionPeriod => "MessageRetentionPeriod"
  | receiveMessageWaitTime => "ReceiveMessageWaitTimeSeconds"
  | policy => "Policy"
  | redrivePolicy => "RedrivePolicy"
  | contentBasedDeduplication => "ContentBasedDeduplication"
  | kmsMasterKeyId => "KmsMasterKeyId"
  | kmsDataKeyReusePeriod => "KmsDataKeyReusePeriodSeconds"
  | deduplicationScope => "DeduplicationScope"
  | fifoThroughputLimit => "FifoThroughputLimit"
  | redriveAllowPolicy => "RedriveAllowPolicy"
  | sqsManagedSseEnabled => "SqsManagedSseEnabled"

/-- How its value is read. -/
def read : QueueSetting → Text → Option SettingValue
  | visibilityTimeout | delay | maximumMessageSize | messageRetentionPeriod
  | receiveMessageWaitTime | kmsDataKeyReusePeriod => SettingValue.readNumber
  | policy | redrivePolicy | deduplicationScope | fifoThroughputLimit | redriveAllowPolicy =>
      SettingValue.readText
  | contentBasedDeduplication | sqsManagedSseEnabled => SettingValue.readFlag
  | kmsMasterKeyId => SettingValue.readKey

end QueueSetting

/-- The value that a setting of a queue has. -/
def SqsQueue.setting (queue : SqsQueue) : QueueSetting → SettingValue
  | .visibilityTimeout => .number queue.visibilityTimeoutSeconds
  | .delay => .number queue.delaySeconds
  | .maximumMessageSize => .number queue.maximumMessageSize
  | .messageRetentionPeriod => .number queue.messageRetentionPeriodSeconds
  | .receiveMessageWaitTime => .number queue.receiveMessageWaitTimeSeconds
  | .policy => .text queue.policy
  | .redrivePolicy => .text queue.redrivePolicy
  | .contentBasedDeduplication => .flag queue.contentBasedDeduplication
  | .kmsMasterKeyId => .key queue.kmsMasterKeyId
  | .kmsDataKeyReusePeriod => .number queue.kmsDataKeyReusePeriodSeconds
  | .deduplicationScope => .text queue.deduplicationScope
  | .fifoThroughputLimit => .text queue.fifoThroughputLimit
  | .redriveAllowPolicy => .text queue.redriveAllowPolicy
  | .sqsManagedSseEnabled => .flag queue.sqsManagedSseEnabled

/-- The value that an update gives to a setting. -/
def SqsQueueAttributeUpdate.setting (update : SqsQueueAttributeUpdate) :
    QueueSetting → Option SettingValue
  | .visibilityTimeout => update.visibilityTimeoutSeconds.map .number
  | .delay => update.delaySeconds.map .number
  | .maximumMessageSize => update.maximumMessageSize.map .number
  | .messageRetentionPeriod => update.messageRetentionPeriodSeconds.map .number
  | .receiveMessageWaitTime => update.receiveMessageWaitTimeSeconds.map .number
  | .policy => update.policy.map .text
  | .redrivePolicy => update.redrivePolicy.map .text
  | .contentBasedDeduplication => update.contentBasedDeduplication.map .flag
  | .kmsMasterKeyId => update.kmsMasterKeyId.map .key
  | .kmsDataKeyReusePeriod => update.kmsDataKeyReusePeriodSeconds.map .number
  | .deduplicationScope => update.deduplicationScope.map .text
  | .fifoThroughputLimit => update.fifoThroughputLimit.map .text
  | .redriveAllowPolicy => update.redriveAllowPolicy.map .text
  | .sqsManagedSseEnabled => update.sqsManagedSseEnabled.map .flag

/-- The columns of a queue that are no settings, but for the time of the last update. -/
def SqsQueue.fixedColumns (queue : SqsQueue) : RowId × Text × Text × Text × Text × Time :=
  (queue.id, queue.name, queue.region, queue.accountId, queue.queueType, queue.createdAt)

/-- **A queue is determined by its settings**, and by the columns that are none. -/
theorem SqsQueue.ext_setting {left right : SqsQueue}
    (settings : ∀ setting, left.setting setting = right.setting setting)
    (fixed : left.fixedColumns = right.fixedColumns) (updated : left.updatedAt = right.updatedAt) :
    left = right := by
  obtain ⟨_, _, _, _, _, _, _, _, _, _, _, _, _, _, _, _, _, _, _, _, _⟩ := left
  obtain ⟨_, _, _, _, _, _, _, _, _, _, _, _, _, _, _, _, _, _, _, _, _⟩ := right
  simp only [SqsQueue.fixedColumns, Prod.mk.injEq] at fixed
  obtain ⟨rfl, rfl, rfl, rfl, rfl, rfl⟩ := fixed
  obtain rfl := updated
  obtain rfl := SettingValue.number.inj (settings .visibilityTimeout)
  obtain rfl := SettingValue.number.inj (settings .delay)
  obtain rfl := SettingValue.number.inj (settings .maximumMessageSize)
  obtain rfl := SettingValue.number.inj (settings .messageRetentionPeriod)
  obtain rfl := SettingValue.number.inj (settings .receiveMessageWaitTime)
  obtain rfl := SettingValue.text.inj (settings .policy)
  obtain rfl := SettingValue.text.inj (settings .redrivePolicy)
  obtain rfl := SettingValue.flag.inj (settings .contentBasedDeduplication)
  obtain rfl := SettingValue.key.inj (settings .kmsMasterKeyId)
  obtain rfl := SettingValue.number.inj (settings .kmsDataKeyReusePeriod)
  obtain rfl := SettingValue.text.inj (settings .deduplicationScope)
  obtain rfl := SettingValue.text.inj (settings .fifoThroughputLimit)
  obtain rfl := SettingValue.text.inj (settings .redriveAllowPolicy)
  obtain rfl := SettingValue.flag.inj (settings .sqsManagedSseEnabled)
  rfl

section Statement

open SqsDatabase (updateAttributes)

/-- **The statement, setting by setting**: it writes the value that the update gives, or the
one that is there. -/
theorem setting_updateAttributes (update : SqsQueueAttributeUpdate) (time : Time)
    (queue : SqsQueue) (setting : QueueSetting) :
    (updateAttributes update time queue).setting setting =
      (update.setting setting).getD (queue.setting setting) := by
  cases setting <;> exact (Option.getD_map _ _ _).symm

theorem fixedColumns_updateAttributes (update : SqsQueueAttributeUpdate) (time : Time)
    (queue : SqsQueue) :
    (updateAttributes update time queue).fixedColumns = queue.fixedColumns := rfl

/-- **Updates with no setting in common commute.** -/
theorem updateAttributes_comm {update other : SqsQueueAttributeUpdate}
    (apart : ∀ setting, update.setting setting = none ∨ other.setting setting = none)
    (first second last : Time) (queue : SqsQueue) :
    updateAttributes other last (updateAttributes update first queue) =
      updateAttributes update last (updateAttributes other second queue) := by
  apply SqsQueue.ext_setting
  · intro setting
    simp only [setting_updateAttributes]
    rcases apart setting with unnamed | unnamed
    · rw [unnamed]
      rfl
    · rw [unnamed]
      rfl
  · rfl
  · rfl

end Statement

/-! ### Requests -/

section Parsing

variable {library : JsonLibrary} {attributes : AttributeMap}

/-- **A setting of a request**, when the request was accepted: it is not named, or the value
is what the text stands for. -/
def SettingRead (given : Option Text) (read : Text → Option SettingValue)
    (value : Option SettingValue) : Prop :=
  (given = none → value = none) ∧
    ∀ raw, given = some raw → ∃ result, read raw = some result ∧ value = some result

theorem settingRead_number {name : Text} {low high : ℤ} {value : Option ℤ}
    (parsed : parseI64Attribute attributes name low high = .ok value) :
    SettingRead (attributes.get? name) SettingValue.readNumber (value.map .number) := by
  unfold parseI64Attribute at parsed
  cases given : attributes.get? name with
  | none =>
      rw [given] at parsed
      obtain rfl := Except.ok.inj parsed
      exact ⟨fun _ => rfl, nofun⟩
  | some raw =>
      rw [given] at parsed
      dsimp only at parsed
      cases number : parseI64 raw with
      | none => rw [number] at parsed; cases parsed
      | some result =>
          rw [number] at parsed
          dsimp only at parsed
          split_ifs at parsed
          obtain rfl := Except.ok.inj parsed
          refine ⟨nofun, ?_⟩
          rintro _ ⟨⟩
          refine ⟨.number result, ?_, rfl⟩
          rw [SettingValue.readNumber, number]
          rfl

theorem settingRead_flag {name : Text} {value : Option Bool}
    (parsed : parseBoolAttribute attributes name = .ok value) :
    SettingRead (attributes.get? name) SettingValue.readFlag (value.map .flag) := by
  unfold parseBoolAttribute at parsed
  cases given : attributes.get? name with
  | none =>
      rw [given] at parsed
      obtain rfl := Except.ok.inj parsed
      exact ⟨fun _ => rfl, nofun⟩
  | some raw =>
      rw [given] at parsed
      dsimp only at parsed
      refine ⟨nofun, ?_⟩
      rintro _ ⟨⟩
      unfold SettingValue.readFlag
      split_ifs at parsed ⊢ with isTrue isFalse
      · obtain rfl := Except.ok.inj parsed
        exact ⟨_, rfl, rfl⟩
      · obtain rfl := Except.ok.inj parsed
        exact ⟨_, rfl, rfl⟩

/-- The text of an attribute that is kept as it is. -/
theorem settingRead_text {name : Text} {value : Option Text}
    (kept : value = attributes.get? name) :
    SettingRead (attributes.get? name) SettingValue.readText (value.map .text) := by
  subst kept
  refine ⟨fun absent => ?_, fun raw given => ?_⟩
  · rw [absent]
    rfl
  · rw [given]
    exact ⟨_, rfl, rfl⟩

theorem kept_of_parseJsonStringAttribute {name : Text} {value : Option Text}
    (parsed : parseJsonStringAttribute library attributes name = .ok value) :
    value = attributes.get? name := by
  unfold parseJsonStringAttribute at parsed
  cases given : attributes.get? name with
  | none =>
      rw [given] at parsed
      exact (Except.ok.inj parsed).symm
  | some raw =>
      rw [given] at parsed
      dsimp only at parsed
      obtain ⟨_, -, rest⟩ := bind_eq_ok.mp parsed
      split_ifs at rest
      · obtain ⟨_, -, same⟩ := bind_eq_ok.mp rest
        exact (Except.ok.inj same).symm
      · exact (Except.ok.inj rest).symm

theorem kept_of_parseAllowedStringAttribute {name : Text} {allowed : List Text}
    {value : Option Text}
    (parsed : parseAllowedStringAttribute attributes name allowed = .ok value) :
    value = attributes.get? name := by
  unfold parseAllowedStringAttribute at parsed
  cases given : attributes.get? name with
  | none =>
      rw [given] at parsed
      exact (Except.ok.inj parsed).symm
  | some raw =>
      rw [given] at parsed
      dsimp only at parsed
      split_ifs at parsed
      exact (Except.ok.inj parsed).symm

theorem settingRead_key {name : Text} :
    SettingRead (attributes.get? name) SettingValue.readKey
      (((attributes.get? name).map fun value =>
        (some value).filter fun value => !value.isEmpty).map .key) := by
  refine ⟨fun absent => ?_, fun raw given => ?_⟩
  · rw [absent]
    rfl
  · rw [given]
    refine ⟨_, rfl, ?_⟩
    cases raw <;> rfl

/-- **A request, setting by setting.** -/
theorem setting_parseQueueAttributeUpdate {update : SqsQueueAttributeUpdate}
    (accepted : parseQueueAttributeUpdate library attributes = .ok update)
    (setting : QueueSetting) :
    SettingRead (attributes.get? setting.name) setting.read (update.setting setting) := by
  simp only [parseQueueAttributeUpdate, bind_eq_ok, pure_eq_ok, Except.ok.injEq] at accepted
  obtain ⟨_, -, visibility, isVisibility, delay, isDelay, size, isSize, retention, isRetention,
    wait, isWait, policy, isPolicy, redrive, isRedrive, content, isContent, reuse, isReuse, scope,
    isScope, limit, isLimit, allow, isAllow, sse, isSse, rfl⟩ := accepted
  cases setting with
  | visibilityTimeout => exact settingRead_number isVisibility
  | delay => exact settingRead_number isDelay
  | maximumMessageSize => exact settingRead_number isSize
  | messageRetentionPeriod => exact settingRead_number isRetention
  | receiveMessageWaitTime => exact settingRead_number isWait
  | policy => exact settingRead_text (kept_of_parseJsonStringAttribute isPolicy)
  | redrivePolicy => exact settingRead_text (kept_of_parseJsonStringAttribute isRedrive)
  | contentBasedDeduplication => exact settingRead_flag isContent
  | kmsMasterKeyId => exact settingRead_key
  | kmsDataKeyReusePeriod => exact settingRead_number isReuse
  | deduplicationScope => exact settingRead_text (kept_of_parseAllowedStringAttribute isScope)
  | fifoThroughputLimit => exact settingRead_text (kept_of_parseAllowedStringAttribute isLimit)
  | redriveAllowPolicy => exact settingRead_text (kept_of_parseJsonStringAttribute isAllow)
  | sqsManagedSseEnabled => exact settingRead_flag isSse

end Parsing

/-! ### What a request changes -/

/-- **What one request changes** of the queue that it names: the settings that it names, to
the values that it gives. -/
structure SettingsChanged (attributes : AttributeMap) (queueId : RowId)
    (before after : SqsDatabase) : Prop where
  settings : ∀ queue ∈ before.queues.rows, queue.id = queueId →
    ∃ changed ∈ after.queues.rows, changed.fixedColumns = queue.fixedColumns ∧
      ∀ setting : QueueSetting,
        (attributes.get? setting.name = none → changed.setting setting = queue.setting setting) ∧
        ∀ raw, attributes.get? setting.name = some raw →
          setting.read raw = some (changed.setting setting)
  others : ∀ queue : SqsQueue, queue.id ≠ queueId →
    (queue ∈ after.queues.rows ↔ queue ∈ before.queues.rows)
  messages : after.messages = before.messages
  tags : after.tags = before.tags

/-- Two requests name no setting in common. -/
def NameApart (attributes other : AttributeMap) : Prop :=
  ∀ name, attributes.get? name = none ∨ other.get? name = none

section Requests

open SqsDatabase (serve)

variable {library : SqsLibrary} {request : ResolvedRequest} {payload : SetQueueAttributesRequest}
  {database final : SqsDatabase}

/-- What a request that succeeds has found and has done. -/
theorem succeeds_handleSetQueueAttributes :
    Succeeds serve (handleSetQueueAttributes library request payload) database () final ↔
      ∃ queueId queue update,
        parseQueueUrl library.url payload.queueUrl request.region = some queueId ∧
        database.getQueue queueId.name queueId.region queueId.accountId = some queue ∧
        parseQueueAttributeUpdate library.json payload.attributes = .ok update ∧
        final = (database.setQueueAttributes queue.id update).2 := by
  have asked (queueId : QueueId) : serve
      (.getQueue queueId.name queueId.region queueId.accountId) database =
        (.ok (database.getQueue queueId.name queueId.region queueId.accountId), database) := rfl
  have answered {queue : SqsQueue} (update : SqsQueueAttributeUpdate)
      (there : database.hasQueue queue.id = true) :
      serve (.setQueueAttributes queue.id update) database =
        (.ok (), (database.setQueueAttributes queue.id update).2) := by
    show database.setQueueAttributes queue.id update = _
    rw [SqsDatabase.setQueueAttributes, if_pos there]
  unfold handleSetQueueAttributes
  simp only [succeeds_bind, succeeds_loadQueueFromUrl, succeeds_liftExcept]
  constructor
  · rintro ⟨queue, between, ⟨queueId, named, asks⟩, update, later, ⟨parsed, rfl⟩, sets⟩
    obtain ⟨found, rfl⟩ := Prod.mk.inj ((asked queueId).symm.trans asks)
    have found := Except.ok.inj found
    have ran : serve (.setQueueAttributes queue.id update) database = (.ok (), final) :=
      succeeds_orFail.mp sets
    rw [answered update (SqsDatabase.hasQueue_of_getQueue found)] at ran
    exact ⟨queueId, queue, update, named, found, parsed, (Prod.mk.inj ran).2.symm⟩
  · rintro ⟨queueId, queue, update, named, found, parsed, rfl⟩
    refine ⟨queue, database, ⟨queueId, named, ?_⟩, update, database, ⟨parsed, rfl⟩, ?_⟩
    · rw [asked, found]
    · exact succeeds_orFail.mpr (answered update (SqsDatabase.hasQueue_of_getQueue found))

/-- The rows after an update of a queue that there is. -/
theorem rows_setQueueAttributes {queueId : RowId} (update : SqsQueueAttributeUpdate)
    (there : database.hasQueue queueId = true) :
    (database.setQueueAttributes queueId update).2.queues.rows =
      database.queues.rows.map fun row =>
        if row.id = queueId then SqsDatabase.updateAttributes update database.now row else row := by
  rw [SqsDatabase.setQueueAttributes, if_pos there]
  rfl

/-- **A request changes the settings that it names.** -/
theorem settingsChanged_of_succeeds
    (succeeds : Succeeds serve (handleSetQueueAttributes library request payload) database ()
      final) :
    ∃ queueId queue, parseQueueUrl library.url payload.queueUrl request.region = some queueId ∧
      database.getQueue queueId.name queueId.region queueId.accountId = some queue ∧
      SettingsChanged payload.attributes queue.id database final := by
  obtain ⟨queueId, queue, update, named, found, parsed, rfl⟩ :=
    succeeds_handleSetQueueAttributes.mp succeeds
  have there := SqsDatabase.hasQueue_of_getQueue found
  have rows := rows_setQueueAttributes update there
  refine ⟨queueId, queue, named, found, ?_, ?_, ?_, ?_⟩
  · intro old isOld same
    refine ⟨SqsDatabase.updateAttributes update database.now old, ?_, rfl, fun setting => ?_⟩
    · rw [rows]
      exact List.mem_map.mpr ⟨old, isOld, if_pos same⟩
    · obtain ⟨unnamed, isRead⟩ := setting_parseQueueAttributeUpdate parsed setting
      rw [setting_updateAttributes]
      refine ⟨fun absent => ?_, fun raw given => ?_⟩
      · rw [unnamed absent]
        rfl
      · obtain ⟨value, reads, given⟩ := isRead raw given
        rw [reads, given]
        rfl
  · intro other different
    rw [rows, List.mem_map]
    constructor
    · rintro ⟨old, isOld, rfl⟩
      split_ifs at different ⊢ with same
      · exact absurd same different
      · exact isOld
    · intro isOld
      exact ⟨other, isOld, if_neg different⟩
  · rw [SqsDatabase.setQueueAttributes, if_pos there]
    rfl
  · rw [SqsDatabase.setQueueAttributes, if_pos there]
    rfl

/-- The settings that two updates give, when their requests name none in common. -/
theorem NameApart.settings {library : JsonLibrary} {attributes other : AttributeMap}
    {update update' : SqsQueueAttributeUpdate} (apart : NameApart attributes other)
    (parsed : parseQueueAttributeUpdate library attributes = .ok update)
    (parsed' : parseQueueAttributeUpdate library other = .ok update') (setting : QueueSetting) :
    update.setting setting = none ∨ update'.setting setting = none := by
  rcases apart setting.name with absent | absent
  · exact .inl ((setting_parseQueueAttributeUpdate parsed setting).1 absent)
  · exact .inr ((setting_parseQueueAttributeUpdate parsed' setting).1 absent)

/-- **Two updates of one queue** leave the same store in either order. -/
theorem setQueueAttributes_comm {queueId : RowId} {update other : SqsQueueAttributeUpdate}
    (apart : ∀ setting, update.setting setting = none ∨ other.setting setting = none)
    (there : database.hasQueue queueId = true) :
    ((database.setQueueAttributes queueId update).2.setQueueAttributes queueId other).2 =
      ((database.setQueueAttributes queueId other).2.setQueueAttributes queueId update).2 := by
  have still (update : SqsQueueAttributeUpdate) :
      (database.setQueueAttributes queueId update).2.hasQueue queueId = true := by
    obtain ⟨row, isRow, same⟩ := List.any_eq_true.mp there
    refine List.any_eq_true.mpr ?_
    rw [rows_setQueueAttributes update there]
    refine ⟨_, List.mem_map.mpr ⟨row, isRow, rfl⟩, ?_⟩
    split_ifs <;> exact same
  have rows (update other : SqsQueueAttributeUpdate) :
      ((database.setQueueAttributes queueId update).2.setQueueAttributes queueId
        other).2.queues.rows = database.queues.rows.map fun row =>
          if row.id = queueId then SqsDatabase.updateAttributes other database.tick.now
            (SqsDatabase.updateAttributes update database.now row) else row := by
    rw [rows_setQueueAttributes other (still update), rows_setQueueAttributes update there,
      List.map_map]
    apply List.map_congr_left
    intro row _
    have clock : (database.setQueueAttributes queueId update).2.now = database.tick.now := by
      rw [SqsDatabase.setQueueAttributes, if_pos there]
      rfl
    simp only [Function.comp_apply, clock]
    by_cases same : row.id = queueId
    · rw [if_pos same, if_pos same, if_pos (by exact same)]
    · rw [if_neg same, if_neg same, if_neg same]
  have whole (update other : SqsQueueAttributeUpdate) :
      ((database.setQueueAttributes queueId update).2.setQueueAttributes queueId other).2 =
        { database.tick.tick with
          queues := ((database.setQueueAttributes queueId update).2.setQueueAttributes queueId
            other).2.queues } := by
    rw [SqsDatabase.setQueueAttributes, if_pos (still update)]
    rw [SqsDatabase.setQueueAttributes, if_pos there]
    rfl
  have sameRows : ((database.setQueueAttributes queueId update).2.setQueueAttributes queueId
      other).2.queues = ((database.setQueueAttributes queueId other).2.setQueueAttributes queueId
        update).2.queues := by
    have equal := (rows update other).trans ((List.map_congr_left ?_).trans (rows other update).symm)
    · generalize ((database.setQueueAttributes queueId update).2.setQueueAttributes queueId
        other).2.queues = left at equal ⊢
      generalize ((database.setQueueAttributes queueId other).2.setQueueAttributes queueId
        update).2.queues = right at equal ⊢
      cases left
      cases right
      cases equal
      rfl
    · intro row _
      by_cases same : row.id = queueId
      · rw [if_pos same, if_pos same]
        exact updateAttributes_comm apart _ _ _ row
      · rw [if_neg same, if_neg same]
  rw [whole update other, whole other update, sameRows]

/-- **Two requests for one queue can be answered in either order**, when they name no
setting in common. -/
theorem requests_comm {later : ResolvedRequest} {other : SetQueueAttributesRequest}
    {between : SqsDatabase} (apart : NameApart payload.attributes other.attributes)
    (sameQueue : parseQueueUrl library.url other.queueUrl later.region =
      parseQueueUrl library.url payload.queueUrl request.region)
    (first : Succeeds serve (handleSetQueueAttributes library request payload) database ()
      between)
    (second : Succeeds serve (handleSetQueueAttributes library later other) between () final) :
    ∃ swapped,
      Succeeds serve (handleSetQueueAttributes library later other) database () swapped ∧
      Succeeds serve (handleSetQueueAttributes library request payload) swapped () final := by
  obtain ⟨queueId, queue, update, named, found, parsed, rfl⟩ :=
    succeeds_handleSetQueueAttributes.mp first
  obtain ⟨_, changed, update', named', found', parsed', rfl⟩ :=
    succeeds_handleSetQueueAttributes.mp second
  obtain rfl := Option.some.inj ((sameQueue.trans named).symm.trans named')
  have there := SqsDatabase.hasQueue_of_getQueue found
  have finds (update : SqsQueueAttributeUpdate) :
      (database.setQueueAttributes queue.id update).2.getQueue queueId.name queueId.region
        queueId.accountId = some (SqsDatabase.updateAttributes update database.now queue) := by
    rw [getQueue_setQueueAttributes there, found]
    exact congrArg some (if_pos rfl)
  obtain rfl := Option.some.inj (found'.symm.trans (finds update))
  refine ⟨(database.setQueueAttributes queue.id update').2,
    succeeds_handleSetQueueAttributes.mpr ⟨queueId, queue, update', named', found, parsed', rfl⟩,
    succeeds_handleSetQueueAttributes.mpr
      ⟨queueId, _, update, named, finds update', parsed, ?_⟩⟩
  exact setQueueAttributes_comm (apart.settings parsed parsed') there

end Requests

/-! ### Runs -/

/-- **A request that changes settings**, with what is drawn and decided for it. -/
structure QueueUpdateTask where
  generated : SqsGenerated
  decision : AuthorizationCheck → AuthorizationResult
  request : ResolvedRequest

namespace QueueUpdateTask

/-- The request as a program over the store. -/
def program (library : SqsLibrary) (task : QueueUpdateTask) : SqsProgram Unit :=
  (SqsTask.routed task.generated task.decision task.request .setQueueAttributes).program library

/-- The attributes that the request names. -/
def Names (library : SqsLibrary) (task : QueueUpdateTask) (attributes : AttributeMap) : Prop :=
  ∃ queueUrl, parseSqsPayload library decodeSetQueueAttributesRequest task.request.request =
    .ok ⟨queueUrl, attributes⟩

/-- The calls that the request may make. -/
def MayAsk (library : SqsLibrary) (task : QueueUpdateTask) : SqsCall → Prop
  | .setQueueAttributes _ update => ∃ attributes, task.Names library attributes ∧
      parseQueueAttributeUpdate library.json attributes = .ok update
  | other => other.IsLookup

theorem mayAsk_of_isLookup {library : SqsLibrary} {task : QueueUpdateTask} (call : SqsCall)
    (isLookup : call.IsLookup) : task.MayAsk library call := by
  cases call <;> first | exact isLookup | exact isLookup.elim

/-- **A request asks only for its own update.** -/
theorem allCalls_program (library : SqsLibrary) (task : QueueUpdateTask) :
    (task.program library).AllCalls (task.MayAsk library) := by
  refine AllCalls.bind (TypedAwsAction.allCalls_route _ ?_ (fun _ => ?_) ?_ ?_) fun _ => trivial
  · exact (onlyLookups_adaptedResolveAuthorization .setQueueAttributes).mono mayAsk_of_isLookup
  · exact trivial
  · exact (onlyLookups_validate .setQueueAttributes).mono mayAsk_of_isLookup
  · refine onlyCalls_liftExcept_bind fun payload parsed => ?_
    refine (onlyLookups_loadQueueFromUrl.mono mayAsk_of_isLookup).bind fun queue => ?_
    refine onlyCalls_liftExcept_bind fun update isUpdate => ?_
    exact onlyCalls_orFail (allCalls_perform.mpr ⟨payload.attributes,
      ⟨payload.queueUrl, parsed⟩, isUpdate⟩)

end QueueUpdateTask

section Runs

open SqsDatabase (serve)

variable {ι : Type} {library : SqsLibrary} {tasks : ι → QueueUpdateTask}
  {start config : Config sqsStore Unit ι SqsDatabase}

/-- No other request names a setting. -/
def NamedAlone (library : SqsLibrary) (tasks : ι → QueueUpdateTask) (thread : ι)
    (setting : QueueSetting) : Prop :=
  ∀ other, other ≠ thread → ∀ attributes, (tasks other).Names library attributes →
    attributes.get? setting.name = none

/-- Every update that was stored is there, where no other request names the setting, and what
no request names is as it was. -/
structure NothingLost (library : SqsLibrary) (tasks : ι → QueueUpdateTask)
    (start config : Config sqsStore Unit ι SqsDatabase) : Prop where
  stored : ∀ thread queueId update,
    (thread, (⟨.setQueueAttributes queueId update, .ok ()⟩ : Event sqsStore)) ∈ config.log →
      ∃ queue ∈ config.shared.queues.rows, queue.id = queueId ∧ ∃ attributes,
        (tasks thread).Names library attributes ∧
        parseQueueAttributeUpdate library.json attributes = .ok update ∧
        ∀ setting value, update.setting setting = some value →
          NamedAlone library tasks thread setting → queue.setting setting = value
  unnamed : ∀ queue ∈ config.shared.queues.rows, ∃ old ∈ start.shared.queues.rows,
    old.fixedColumns = queue.fixedColumns ∧ ∀ setting : QueueSetting,
      (∀ thread attributes, (tasks thread).Names library attributes →
        attributes.get? setting.name = none) → queue.setting setting = old.setting setting

variable [DecidableEq ι]

/-- **A lookup loses nothing.** -/
theorem NothingLost.lookup (nothing : NothingLost library tasks start config) {stepping : ι}
    {call : SqsCall} {next : call.Answer → SqsProgram Unit} (isLookup : call.IsLookup) :
    NothingLost library tasks start (config.answer serve stepping call next) := by
  cases call with
  | getQueue name region accountId =>
      refine ⟨fun thread queueId update logged => ?_, nothing.unnamed⟩
      rcases List.mem_append.mp logged with earlier | last
      · exact nothing.stored thread queueId update earlier
      · have same := congrArg (fun entry => entry.2.1) (List.mem_singleton.mp last)
        cases same
  | createQueue | deleteQueue | getMessageCount | getVisibleMessageCount
  | getMessagesDelayedCount | listQueues | purgeQueue | setQueueAttributes | listQueueTags
  | tagQueue | untagQueue | sendMessage | receiveMessages | deleteMessage
  | setMessageVisibleAt => exact isLookup.elim

/-- **An update loses nothing**: it leaves alone what its request does not name. -/
theorem NothingLost.update (nothing : NothingLost library tasks start config) {stepping : ι}
    {queueId : RowId} {update : SqsQueueAttributeUpdate} {next : StoreResult Unit → SqsProgram Unit}
    {attributes : AttributeMap} (named : (tasks stepping).Names library attributes)
    (parsed : parseQueueAttributeUpdate library.json attributes = .ok update) :
    NothingLost library tasks start
      (config.answer serve stepping (.setQueueAttributes queueId update) next) := by
  -- what its request does not name, the update does not give
  have leaves {setting : QueueSetting} (absent : attributes.get? setting.name = none) :
      update.setting setting = none :=
    (setting_parseQueueAttributeUpdate parsed setting).1 absent
  have once {other : AttributeMap} (again : (tasks stepping).Names library other) :
      other = attributes := by
    obtain ⟨_, first⟩ := named
    obtain ⟨_, second⟩ := again
    have same := Except.ok.inj (second.symm.trans first)
    exact congrArg SetQueueAttributesRequest.attributes same
  by_cases there : config.shared.hasQueue queueId = true
  · let change (row : SqsQueue) : SqsQueue :=
      if row.id = queueId then SqsDatabase.updateAttributes update config.shared.now row else row
    have rows : (config.answer serve stepping (.setQueueAttributes queueId update)
        next).shared.queues.rows = config.shared.queues.rows.map change :=
      rows_setQueueAttributes update there
    have fixed (row : SqsQueue) : (change row).fixedColumns = row.fixedColumns := by
      unfold change
      split_ifs <;> rfl
    have changes (row : SqsQueue) {setting : QueueSetting}
        (absent : attributes.get? setting.name = none) :
        (change row).setting setting = row.setting setting := by
      unfold change
      split_ifs
      · rw [setting_updateAttributes, leaves absent]
        rfl
      · rfl
    constructor
    · intro thread otherId earlier logged
      rcases List.mem_append.mp logged with before | last
      · obtain ⟨queue, isQueue, sameId, own, ownNames, ownParsed, holds⟩ :=
          nothing.stored thread otherId earlier before
        refine ⟨change queue, rows ▸ List.mem_map.mpr ⟨queue, isQueue, rfl⟩,
          (congrArg Prod.fst (fixed queue)).trans sameId, own, ownNames, ownParsed, ?_⟩
        intro setting value given alone
        by_cases itself : thread = stepping
        · -- the request writes what it has written before
          subst itself
          obtain rfl := once ownNames
          obtain rfl := Except.ok.inj (ownParsed.symm.trans parsed)
          unfold change
          split_ifs
          · rw [setting_updateAttributes, given]
            rfl
          · exact holds setting value given alone
        · rw [changes queue (alone stepping (Ne.symm itself) attributes named)]
          exact holds setting value given alone
      · obtain ⟨rfl, same⟩ := Prod.mk.inj (List.mem_singleton.mp last)
        obtain ⟨isCall, -⟩ := Sigma.mk.inj same
        obtain ⟨rfl, rfl⟩ := SqsCall.setQueueAttributes.inj isCall
        obtain ⟨row, isRow, isNumber⟩ := List.any_eq_true.mp there
        have sameId : row.id = otherId := of_decide_eq_true isNumber
        refine ⟨change row, rows ▸ List.mem_map.mpr ⟨row, isRow, rfl⟩,
          (congrArg Prod.fst (fixed row)).trans sameId, attributes, named, parsed, ?_⟩
        intro setting value given _
        unfold change
        rw [if_pos sameId, setting_updateAttributes, given]
        rfl
    · intro queue isRow
      rw [rows] at isRow
      obtain ⟨row, wasRow, rfl⟩ := List.mem_map.mp isRow
      obtain ⟨old, isOld, sameColumns, same⟩ := nothing.unnamed row wasRow
      refine ⟨old, isOld, sameColumns.trans (fixed row).symm, fun setting nobody => ?_⟩
      rw [changes row (nobody stepping attributes named)]
      exact same setting nobody
  · have answered : serve (.setQueueAttributes queueId update) config.shared =
        (.error SqsDatabase.queueNotFound, config.shared.tick) := by
      show config.shared.setQueueAttributes queueId update = _
      rw [SqsDatabase.setQueueAttributes, if_neg there]
    have rows : (config.answer serve stepping (.setQueueAttributes queueId update)
        next).shared.queues = config.shared.queues :=
      congrArg (fun result => result.2.queues) answered
    constructor
    · intro thread otherId earlier logged
      rcases List.mem_append.mp logged with before | last
      · rw [rows]
        exact nothing.stored thread otherId earlier before
      · rw [answered] at last
        obtain ⟨-, same⟩ := Prod.mk.inj (List.mem_singleton.mp last)
        obtain ⟨isCall, answers⟩ := Sigma.mk.inj same
        obtain ⟨rfl, rfl⟩ := SqsCall.setQueueAttributes.inj isCall
        cases eq_of_heq answers
    · rw [rows]
      exact nothing.unnamed

/-- **Updates side by side lose nothing.** -/
theorem nothingLost_of_reachable
    (begins : ∀ thread, start.threads thread = (tasks thread).program library)
    (fresh : start.log = []) (reachable : Reachable serve (fun _ _ => True) start config) :
    NothingLost library tasks start config := by
  have both : NothingLost library tasks start config ∧
      ∀ thread, (config.threads thread).AllCalls ((tasks thread).MayAsk library) := by
    refine reachable.invariant (fun config => NothingLost library tasks start config ∧
      ∀ thread, (config.threads thread).AllCalls ((tasks thread).MayAsk library)) ⟨?_, ?_⟩ ?_
    · refine ⟨fun thread queueId update logged => ?_, fun queue isRow => ?_⟩
      · rw [fresh] at logged
        exact absurd logged List.not_mem_nil
      · exact ⟨queue, isRow, rfl, fun _ _ => rfl⟩
    · intro thread
      rw [begins]
      exact (tasks thread).allCalls_program library
    · rintro config config' stepping - ⟨nothing, calls⟩ - ⟨pending⟩
      have own := calls stepping
      rw [pending] at own
      obtain ⟨asks, later⟩ := own
      refine ⟨?_, fun thread => ?_⟩
      · rename_i call next
        cases call with
        | setQueueAttributes queueId update =>
            obtain ⟨attributes, named, parsed⟩ := asks
            exact nothing.update named parsed
        | getQueue | createQueue | deleteQueue | getMessageCount | getVisibleMessageCount
        | getMessagesDelayedCount | listQueues | purgeQueue | listQueueTags
        | tagQueue | untagQueue | sendMessage | receiveMessages | deleteMessage
        | setMessageVisibleAt => exact nothing.lookup asks
      · by_cases itself : thread = stepping
        · subst itself
          rw [threads_answer_self]
          exact later _
        · rw [threads_answer_ne itself]
          exact calls thread
  exact both.1

end Runs

/-- **Updates of queue attributes are independent.**  A request changes the settings that it
names, and nothing else; two requests that name none in common can be answered in either
order; and side by side no update is lost, whatever the order of the calls. -/
theorem queueUpdates_independent (library : SqsLibrary) :
    (∀ request payload database final,
      Succeeds SqsDatabase.serve (handleSetQueueAttributes library request payload) database ()
        final →
      ∃ queueId queue, parseQueueUrl library.url payload.queueUrl request.region = some queueId ∧
        database.getQueue queueId.name queueId.region queueId.accountId = some queue ∧
        SettingsChanged payload.attributes queue.id database final) ∧
    (∀ (request : ResolvedRequest) (payload : SetQueueAttributesRequest)
      (later : ResolvedRequest) (other : SetQueueAttributesRequest) database between final,
      NameApart payload.attributes other.attributes →
      parseQueueUrl library.url other.queueUrl later.region =
        parseQueueUrl library.url payload.queueUrl request.region →
      Succeeds SqsDatabase.serve (handleSetQueueAttributes library request payload) database ()
        between →
      Succeeds SqsDatabase.serve (handleSetQueueAttributes library later other) between () final →
      ∃ swapped,
        Succeeds SqsDatabase.serve (handleSetQueueAttributes library later other) database ()
          swapped ∧
        Succeeds SqsDatabase.serve (handleSetQueueAttributes library request payload) swapped ()
          final) ∧
    (∀ (ι : Type) (_ : DecidableEq ι) (tasks : ι → QueueUpdateTask)
      (start config : Config sqsStore Unit ι SqsDatabase),
      (∀ thread, start.threads thread = (tasks thread).program library) → start.log = [] →
      Reachable SqsDatabase.serve (fun _ _ => True) start config →
      NothingLost library tasks start config) := by
  refine ⟨?_, ?_, ?_⟩
  · intro request payload database final succeeds
    exact settingsChanged_of_succeeds succeeds
  · intro request payload later other database between final apart sameQueue first second
    exact requests_comm apart sameQueue first second
  · intro ι _ tasks start config begins fresh reachable
    exact nothingLost_of_reachable begins fresh reachable

/-! ### Two updates -/

/-- A request for one attribute of the queue of the samples. -/
def settingPayload (name value : Text) : Json :=
  .object [("QueueUrl", .string "http://localhost:4566/000000000000/orders"),
    ("Attributes", .object [(name, .string value)])]

/-- The library, which reads two such requests. -/
def settingsLibrary : SqsLibrary :=
  { emptyObjectLibrary with
    json := { emptyObjectLibrary.json with
      read := fun bytes =>
        if bytes = Text.utf8 "delay" then .ok (settingPayload "DelaySeconds" "5")
        else .ok (settingPayload "KmsMasterKeyId" "key") } }

/-- One client sets the delay, the other one the key. -/
def settingTask (first : Bool) : QueueUpdateTask where
  generated := ⟨fun _ => 0, fun _ => "m", 0⟩
  decision := fun _ => .allow
  request := userRequest 0 (if first then "delay" else "key")

/-- Both clients before they start. -/
def settingsStart : Config sqsStore Unit Bool SqsDatabase where
  shared := ordersStore
  threads := fun first => (settingTask first).program settingsLibrary
  log := []

/-- Their calls in turn. -/
def settingsPlayed : Config sqsStore Unit Bool SqsDatabase :=
  settingsStart.play SqsDatabase.serve [true, false, true, false, true, false]

/-- Both settings are there in the end, and nothing is lost. -/
theorem queueUpdates_independent_two :
    settingsPlayed.shared.queues.rows.map
        (fun queue => (queue.setting .delay, queue.setting .kmsMasterKeyId)) =
        [(.number 5, .key (some "key"))] ∧
      NothingLost settingsLibrary settingTask settingsStart settingsPlayed := by
  constructor
  · decide +kernel
  · exact (queueUpdates_independent settingsLibrary).2.2 Bool inferInstance settingTask
      settingsStart settingsPlayed (fun _ => rfl) rfl
      (Reachable.play (fun _ _ _ => trivial) .start Config.passes_true)

end Hiraeth
