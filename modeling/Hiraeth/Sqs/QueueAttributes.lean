import Hiraeth.Core.PolicyDocument
import Hiraeth.Sqs.Util

/-!
# Attributes of queues

The attributes of a queue arrive as a map from names to texts, when the queue is
created and when they are changed.  Both ways name the attributes they know, and
check each value by itself.

## Main definitions

* `QueueAttributeValues.fromAttributeMap` — the attributes of a new queue
* `parseQueueAttributeUpdate` — the attributes to change
* `collectQueueAttributes` — the attributes as they are reported
* `validateQueueName`, `validateTags`, `validateTagKeys` — names and tags
-/

namespace Hiraeth

open Interaction

/-- The attributes of a request, by their names. -/
abbrev AttributeMap := SortedMap Text Text

/-! ### Reading single attributes -/

/-- `validate_supported_attributes`. -/
def validateSupportedAttributes (attributes : AttributeMap) (supportedAttributes : List Text) :
    Except SqsError Unit :=
  match attributes.entries.find? fun entry => !supportedAttributes.contains entry.1 with
  | some entry => .error (.badRequest (("Unsupported queue attribute: " : Text) ++ entry.1))
  | none => .ok ()

/-- `parse_i64_attribute`. -/
def parseI64Attribute (attributes : AttributeMap) (name : Text) (min max : ℤ) :
    Except SqsError (Option ℤ) :=
  match attributes.get? name with
  | none => .ok none
  | some raw =>
      match parseI64 raw with
      | none => .error (.badRequest (name ++ " must be an integer between ".toList ++
          (toString min).toList ++ " and ".toList ++ (toString max).toList))
      | some value =>
          if min ≤ value ∧ value ≤ max then .ok (some value)
          else .error (.badRequest (name ++ " must be between ".toList ++ (toString min).toList ++
            " and ".toList ++ (toString max).toList))

/-- `get_i64_attribute`. -/
def getI64Attribute (attributes : AttributeMap) (name : Text) (default min max : ℤ) :
    Except SqsError ℤ :=
  (parseI64Attribute attributes name min max).map (·.getD default)

/-- `parse_bool_attribute`. -/
def parseBoolAttribute (attributes : AttributeMap) (name : Text) : Except SqsError (Option Bool) :=
  match attributes.get? name with
  | none => .ok none
  | some raw =>
      if toAsciiLowercase raw = ("true" : Text) then .ok (some true)
      else if toAsciiLowercase raw = ("false" : Text) then .ok (some false)
      else .error (.badRequest (name ++ " must be either true or false".toList))

/-- `get_bool_attribute`. -/
def getBoolAttribute (attributes : AttributeMap) (name : Text) (default : Bool) :
    Except SqsError Bool :=
  (parseBoolAttribute attributes name).map (·.getD default)

/-- `parse_json_string_attribute`.  The policy must also be a policy, unless it is
the empty object. -/
def parseJsonStringAttribute (library : JsonLibrary) (attributes : AttributeMap) (name : Text) :
    Except SqsError (Option Text) :=
  match attributes.get? name with
  | none => .ok none
  | some raw => do
      let _ ← (library.read raw.utf8).mapError fun error =>
        SqsError.badRequest (name ++ " must be valid JSON: ".toList ++ error)
      if name = ("Policy" : Text) ∧ trim raw ≠ ("{}" : Text) then
        let _ ← (parsePolicyText library raw).mapError fun error =>
          SqsError.badRequest (("Policy must be a valid queue policy: " : Text) ++ error)
        return some raw
      else return some raw

/-- `get_json_string_attribute`. -/
def getJsonStringAttribute (library : JsonLibrary) (attributes : AttributeMap)
    (name default : Text) : Except SqsError Text :=
  (parseJsonStringAttribute library attributes name).map (·.getD default)

/-- `parse_allowed_string_attribute`. -/
def parseAllowedStringAttribute (attributes : AttributeMap) (name : Text) (allowed : List Text) :
    Except SqsError (Option Text) :=
  match attributes.get? name with
  | none => .ok none
  | some raw =>
      if allowed.contains raw then .ok (some raw)
      else .error (.badRequest (name ++ " must be one of: ".toList ++
        (", " : Text).intercalate allowed))

/-- `get_allowed_string_attribute`. -/
def getAllowedStringAttribute (attributes : AttributeMap) (name default : Text)
    (allowed : List Text) : Except SqsError Text :=
  (parseAllowedStringAttribute attributes name allowed).map (·.getD default)

/-! ### All attributes -/

/-- The attributes of a new queue. -/
structure QueueAttributeValues where
  visibilityTimeoutSeconds : ℤ
  delaySeconds : ℤ
  maximumMessageSize : ℤ
  messageRetentionPeriodSeconds : ℤ
  receiveMessageWaitTimeSeconds : ℤ
  policy : Text
  redrivePolicy : Text
  fifoQueue : Bool
  contentBasedDeduplication : Bool
  kmsMasterKeyId : Option Text
  kmsDataKeyReusePeriodSeconds : ℤ
  deduplicationScope : Text
  fifoThroughputLimit : Text
  redriveAllowPolicy : Text
  sqsManagedSseEnabled : Bool
  deriving DecidableEq

/-- `SET_QUEUE_ATTRIBUTES`. -/
def setQueueAttributeNames : List Text :=
  ["VisibilityTimeout", "DelaySeconds", "MaximumMessageSize", "MessageRetentionPeriod",
    "ReceiveMessageWaitTimeSeconds", "Policy", "RedrivePolicy", "ContentBasedDeduplication",
    "KmsMasterKeyId", "KmsDataKeyReusePeriodSeconds", "DeduplicationScope", "FifoThroughputLimit",
    "RedriveAllowPolicy", "SqsManagedSseEnabled"]

/-- `CREATE_QUEUE_ATTRIBUTES`: whether a queue is a FIFO queue is decided when it is
created. -/
def createQueueAttributeNames : List Text :=
  ["VisibilityTimeout", "DelaySeconds", "MaximumMessageSize", "MessageRetentionPeriod",
    "ReceiveMessageWaitTimeSeconds", "Policy", "RedrivePolicy", "FifoQueue",
    "ContentBasedDeduplication", "KmsMasterKeyId", "KmsDataKeyReusePeriodSeconds",
    "DeduplicationScope", "FifoThroughputLimit", "RedriveAllowPolicy", "SqsManagedSseEnabled"]

/-- `QueueAttributeValues::default`. -/
def QueueAttributeValues.default : QueueAttributeValues where
  visibilityTimeoutSeconds := 30
  delaySeconds := 0
  maximumMessageSize := 1048576
  messageRetentionPeriodSeconds := 345600
  receiveMessageWaitTimeSeconds := 0
  policy := "{}"
  redrivePolicy := "{}"
  fifoQueue := false
  contentBasedDeduplication := false
  kmsMasterKeyId := none
  kmsDataKeyReusePeriodSeconds := 300
  deduplicationScope := "queue"
  fifoThroughputLimit := "perQueue"
  redriveAllowPolicy := "{}"
  sqsManagedSseEnabled := false

/-- `QueueAttributeValues::from_attribute_map`. -/
def QueueAttributeValues.fromAttributeMap (library : JsonLibrary) (attributes : AttributeMap) :
    Except SqsError QueueAttributeValues := do
  validateSupportedAttributes attributes createQueueAttributeNames
  let defaults := QueueAttributeValues.default
  let visibilityTimeoutSeconds ← getI64Attribute attributes "VisibilityTimeout"
    defaults.visibilityTimeoutSeconds 0 43200
  let delaySeconds ← getI64Attribute attributes "DelaySeconds" defaults.delaySeconds 0 900
  let maximumMessageSize ← getI64Attribute attributes "MaximumMessageSize"
    defaults.maximumMessageSize 1024 1048576
  let messageRetentionPeriodSeconds ← getI64Attribute attributes "MessageRetentionPeriod"
    defaults.messageRetentionPeriodSeconds 60 1209600
  let receiveMessageWaitTimeSeconds ← getI64Attribute attributes "ReceiveMessageWaitTimeSeconds"
    defaults.receiveMessageWaitTimeSeconds 0 20
  let policy ← getJsonStringAttribute library attributes "Policy" defaults.policy
  let redrivePolicy ← getJsonStringAttribute library attributes "RedrivePolicy"
    defaults.redrivePolicy
  let fifoQueue ← getBoolAttribute attributes "FifoQueue" defaults.fifoQueue
  let contentBasedDeduplication ← getBoolAttribute attributes "ContentBasedDeduplication"
    defaults.contentBasedDeduplication
  let kmsMasterKeyId := attributes.get? "KmsMasterKeyId"
  let kmsDataKeyReusePeriodSeconds ← getI64Attribute attributes "KmsDataKeyReusePeriodSeconds"
    defaults.kmsDataKeyReusePeriodSeconds 60 86400
  let deduplicationScope ← getAllowedStringAttribute attributes "DeduplicationScope"
    defaults.deduplicationScope ["queue", "messageGroup"]
  let fifoThroughputLimit ← getAllowedStringAttribute attributes "FifoThroughputLimit"
    defaults.fifoThroughputLimit ["perQueue", "perMessageGroupId"]
  let redriveAllowPolicy ← getJsonStringAttribute library attributes "RedriveAllowPolicy"
    defaults.redriveAllowPolicy
  let sqsManagedSseEnabled ← getBoolAttribute attributes "SqsManagedSseEnabled"
    defaults.sqsManagedSseEnabled
  return {
    visibilityTimeoutSeconds, delaySeconds, maximumMessageSize, messageRetentionPeriodSeconds
    receiveMessageWaitTimeSeconds, policy, redrivePolicy, fifoQueue, contentBasedDeduplication
    kmsMasterKeyId, kmsDataKeyReusePeriodSeconds, deduplicationScope, fifoThroughputLimit
    redriveAllowPolicy, sqsManagedSseEnabled }

/-- `parse_queue_attribute_update`.  An empty key takes the key away. -/
def parseQueueAttributeUpdate (library : JsonLibrary) (attributes : AttributeMap) :
    Except SqsError SqsQueueAttributeUpdate := do
  validateSupportedAttributes attributes setQueueAttributeNames
  let visibilityTimeoutSeconds ← parseI64Attribute attributes "VisibilityTimeout" 0 43200
  let delaySeconds ← parseI64Attribute attributes "DelaySeconds" 0 900
  let maximumMessageSize ← parseI64Attribute attributes "MaximumMessageSize" 1024 1048576
  let messageRetentionPeriodSeconds ←
    parseI64Attribute attributes "MessageRetentionPeriod" 60 1209600
  let receiveMessageWaitTimeSeconds ←
    parseI64Attribute attributes "ReceiveMessageWaitTimeSeconds" 0 20
  let policy ← parseJsonStringAttribute library attributes "Policy"
  let redrivePolicy ← parseJsonStringAttribute library attributes "RedrivePolicy"
  let contentBasedDeduplication ← parseBoolAttribute attributes "ContentBasedDeduplication"
  let kmsMasterKeyId := (attributes.get? "KmsMasterKeyId").map fun value =>
    (some value).filter fun value => !value.isEmpty
  let kmsDataKeyReusePeriodSeconds ←
    parseI64Attribute attributes "KmsDataKeyReusePeriodSeconds" 60 86400
  let deduplicationScope ← parseAllowedStringAttribute attributes "DeduplicationScope"
    ["queue", "messageGroup"]
  let fifoThroughputLimit ← parseAllowedStringAttribute attributes "FifoThroughputLimit"
    ["perQueue", "perMessageGroupId"]
  let redriveAllowPolicy ← parseJsonStringAttribute library attributes "RedriveAllowPolicy"
  let sqsManagedSseEnabled ← parseBoolAttribute attributes "SqsManagedSseEnabled"
  return {
    visibilityTimeoutSeconds, delaySeconds, maximumMessageSize, messageRetentionPeriodSeconds
    receiveMessageWaitTimeSeconds, policy, redrivePolicy, contentBasedDeduplication
    kmsMasterKeyId, kmsDataKeyReusePeriodSeconds, deduplicationScope, fifoThroughputLimit
    redriveAllowPolicy, sqsManagedSseEnabled }

/-! ### Reporting attributes -/

/-- `is_requested_attribute`. -/
def isRequestedAttribute (attributeName : Text) (requestedAttributes : List Text) : Bool :=
  requestedAttributes.any fun requested => requested = attributeName || requested = ("All" : Text)

/-- The milliseconds of a time, as an attribute. -/
def timestampMillis (time : Time) : Text :=
  (toString (time / 1000000)).toList

/-- `bool::to_string`. -/
def boolText (value : Bool) : Text :=
  if value then "true" else "false"

/-- A count of messages, when it is requested. -/
def collectCount (requestedAttributes : List Text) (name : Text)
    (count : ExceptT SqsError SqsProgram ℤ) : ExceptT SqsError SqsProgram (List (Text × Text)) := do
  if isRequestedAttribute name requestedAttributes then
    let value ← count
    return [(name, (toString value).toList)]
  else return []

/-- `collect_queue_attributes`. -/
def collectQueueAttributes (queue : SqsQueue) (requestedAttributes : List Text) :
    ExceptT SqsError SqsProgram AttributeMap := do
  let number (value : ℤ) : Text := (toString value).toList
  let messageCount : ExceptT SqsError SqsProgram ℤ :=
    (sqsCall (.getMessageCount queue.id)).orFail SqsError.internal
  let messages ← collectCount requestedAttributes "ApproximateNumberOfMessages" messageCount
  let notVisible ← collectCount requestedAttributes "ApproximateNumberOfMessagesNotVisible" do
    let visibleMessageCount ←
      (sqsCall (.getVisibleMessageCount queue.id)).orFail SqsError.internal
    let messageCount ← messageCount
    return messageCount - visibleMessageCount
  let delayed ← collectCount requestedAttributes "ApproximateNumberOfMessagesDelayed"
    ((sqsCall (.getMessagesDelayedCount queue.id)).orFail SqsError.internal)
  let columns : List (Text × Text) :=
    [("Policy", queue.policy), ("VisibilityTimeout", number queue.visibilityTimeoutSeconds),
      ("MaximumMessageSize", number queue.maximumMessageSize),
      ("MessageRetentionPeriod", number queue.messageRetentionPeriodSeconds),
      ("CreatedTimestamp", timestampMillis queue.createdAt),
      ("LastModifiedTimestamp", timestampMillis queue.updatedAt),
      ("QueueArn", getQueueArn queue), ("DelaySeconds", number queue.delaySeconds),
      ("ReceiveMessageWaitTimeSeconds", number queue.receiveMessageWaitTimeSeconds),
      ("RedrivePolicy", queue.redrivePolicy),
      ("FifoQueue", boolText (queue.queueType = ("fifo" : Text))),
      ("ContentBasedDeduplication", boolText queue.contentBasedDeduplication),
      ("KmsDataKeyReusePeriodSeconds", number queue.kmsDataKeyReusePeriodSeconds),
      ("DeduplicationScope", queue.deduplicationScope),
      ("FifoThroughputLimit", queue.fifoThroughputLimit),
      ("RedriveAllowPolicy", queue.redriveAllowPolicy),
      ("SqsManagedSseEnabled", boolText queue.sqsManagedSseEnabled)]
  let key : List (Text × Text) :=
    queue.kmsMasterKeyId.toList.map fun value => ("KmsMasterKeyId", value)
  return SortedMap.ofList (messages ++ notVisible ++ delayed ++
    (columns ++ key).filter fun entry => isRequestedAttribute entry.1 requestedAttributes)

/-! ### Names and tags -/

/-- `validate_queue_name`. -/
def validateQueueName (queueName : Text) (fifoQueue : Bool) : Except SqsError Unit :=
  let isFifoName := (stripSuffix ".fifo" queueName).isSome
  if queueName = [] ∨ 80 < (Text.utf8 queueName).length then
    .error (.badRequest "QueueName must be between 1 and 80 characters")
  else if !((stripSuffix ".fifo" queueName).getD queueName).all isNameChar then
    .error (.badRequest
      "QueueName may only contain alphanumeric characters, hyphens, and underscores")
  else if fifoQueue && !isFifoName then
    .error (.badRequest "FIFO queue names must end with .fifo")
  else if !fifoQueue && isFifoName then
    .error (.badRequest "Queue names ending with .fifo must set FifoQueue=true")
  else .ok ()

/-- `queue_configuration_matches`. -/
def queueConfigurationMatches (existing requested : SqsQueue) : Bool :=
  existing.queueType = requested.queueType &&
    existing.visibilityTimeoutSeconds = requested.visibilityTimeoutSeconds &&
    existing.delaySeconds = requested.delaySeconds &&
    existing.maximumMessageSize = requested.maximumMessageSize &&
    existing.messageRetentionPeriodSeconds = requested.messageRetentionPeriodSeconds &&
    existing.receiveMessageWaitTimeSeconds = requested.receiveMessageWaitTimeSeconds &&
    existing.policy = requested.policy &&
    existing.redrivePolicy = requested.redrivePolicy &&
    existing.contentBasedDeduplication = requested.contentBasedDeduplication &&
    existing.kmsMasterKeyId = requested.kmsMasterKeyId &&
    existing.kmsDataKeyReusePeriodSeconds = requested.kmsDataKeyReusePeriodSeconds &&
    existing.deduplicationScope = requested.deduplicationScope &&
    existing.fifoThroughputLimit = requested.fifoThroughputLimit &&
    existing.redriveAllowPolicy = requested.redriveAllowPolicy &&
    existing.sqsManagedSseEnabled = requested.sqsManagedSseEnabled

/-- `validate_tag_key`. -/
def validateTagKey (key : Text) : Except SqsError Unit :=
  if key.length = 0 ∨ 128 < key.length then
    .error (.badRequest "Tag keys must be between 1 and 128 characters")
  else if (stripPrefix "aws:" key).isSome then
    .error (.badRequest "Tag keys cannot start with the reserved aws: prefix")
  else .ok ()

/-- `validate_tags`. -/
def validateTags (tags : AttributeMap) (allowEmpty : Bool) : Except SqsError Unit :=
  if !allowEmpty && tags.isEmpty then
    .error (.badRequest "Tags must contain at least one entry")
  else if 50 < tags.entries.length then
    .error (.badRequest "A queue can have at most 50 tags")
  else
    tags.entries.forM fun entry => do
      validateTagKey entry.1
      if 256 < entry.2.length then
        throw (.badRequest (("Tag value for '" : Text) ++ entry.1 ++
          "' must be at most 256 characters".toList))

/-- `validate_tag_keys`. -/
def validateTagKeys (tagKeys : List Text) (allowEmpty : Bool) : Except SqsError Unit :=
  if !allowEmpty && tagKeys.isEmpty then
    .error (.badRequest "TagKeys must contain at least one entry")
  else if 50 < tagKeys.length then
    .error (.badRequest "TagKeys can contain at most 50 entries")
  else tagKeys.forM validateTagKey

end Hiraeth
