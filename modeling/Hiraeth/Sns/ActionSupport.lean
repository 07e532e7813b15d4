import Hiraeth.Core.Json
import Hiraeth.Core.Protocol
import Hiraeth.Lib.SortedMap
import Hiraeth.Sqs.QueueAttributes
import Hiraeth.Store.Sns

/-!
# What the actions of SNS share

The errors of the service, the checks that its actions have in common, and the parameters
that stand for maps and lists.

## Main definitions

* `SnsError`, `SnsLibrary` — the errors, and the libraries
* `validateTopicArn`, `validateSubscriptionArn` — the forms of ARNs
* `snsAttributes`, `snsTags`, `snsTagKeys` — parameters with an index
* `Sns.validateTags`, `Sns.validateTagKeys` — the limits of tags
-/

namespace Hiraeth

open Interaction

inductive SnsError where
  | topicNotFound
  | subscriptionNotFound
  | badRequest (message : Text)
  | internalError (message : Text)
  | unsupportedOperation (action : Text)
  | notAuthorizedToQueue (arn : Text)
  deriving DecidableEq

/-- `SnsError::from` a malformed query. -/
def SnsError.ofQueryParseError (error : AwsQueryParseError) : SnsError :=
  .badRequest error.message

/-- `SnsError::from` a store error. -/
def SnsError.ofStoreError : StoreError → SnsError
  | .notFound _ => .topicNotFound
  | .conflict message => .badRequest message
  | .storageFailure message => .internalError message

/-- How the actions on subscriptions read a store error. -/
def SnsError.ofSubscriptionStoreError : StoreError → SnsError
  | .notFound _ => .subscriptionNotFound
  | error => .ofStoreError error

/-- The libraries of the SNS service, and those of the SQS service that it delivers to. -/
structure SnsLibrary where
  form : FormParser
  sqs : SqsLibrary
  renderTime : Time → Text

/-- Both services use one JSON library. -/
abbrev SnsLibrary.json (library : SnsLibrary) : JsonLibrary :=
  library.sqs.json

/-! ### Attributes -/

/-- `VALID_TOPIC_ATTRIBUTES`. -/
def validTopicAttributes : List Text :=
  ["ApplicationSuccessFeedbackRoleArn", "ApplicationSuccessFeedbackSampleRate",
    "ApplicationFailureFeedbackRoleArn", "ArchivePolicy", "ContentBasedDeduplication",
    "DataProtectionPolicy", "DeliveryPolicy", "DisplayName", "FifoTopic",
    "FirehoseSuccessFeedbackRoleArn", "FirehoseSuccessFeedbackSampleRate",
    "FirehoseFailureFeedbackRoleArn", "HTTPFailureFeedbackRoleArn", "HTTPSuccessFeedbackRoleArn",
    "HTTPSuccessFeedbackSampleRate", "KmsMasterKeyId", "LambdaSuccessFeedbackRoleArn",
    "LambdaSuccessFeedbackSampleRate", "LambdaFailureFeedbackRoleArn", "Policy",
    "SignatureVersion", "SQSFailureFeedbackRoleArn", "SQSSuccessFeedbackRoleArn",
    "SQSSuccessFeedbackSampleRate", "TracingConfig"]

/-- `is_valid_topic_attribute`. -/
def isValidTopicAttribute (name : Text) : Bool :=
  validTopicAttributes.contains name

/-- `VALID_SUBSCRIPTION_ATTRIBUTES`. -/
def validSubscriptionAttributes : List Text :=
  ["DeliveryPolicy", "FilterPolicy", "FilterPolicyScope", "RawMessageDelivery", "RedrivePolicy",
    "SubscriptionRoleArn", "ReplayPolicy"]

/-- `is_valid_subscription_attribute`. -/
def isValidSubscriptionAttribute (name : Text) : Bool :=
  validSubscriptionAttributes.contains name

def unsupportedAttribute (name : Text) : SnsError :=
  .badRequest (("Unsupported attribute name: " : Text) ++ name)

/-- `validate_topic_name`. -/
def validateTopicName (name : Text) (fifoTopic : Option Text) : Except SnsError Unit :=
  let fifoRequested : Bool :=
    (fifoTopic.map fun value => decide (toAsciiLowercase value = ("true" : Text))).getD false
  let isFifoName : Bool := decide ((".fifo" : Text) <:+ name)
  if name.length = 0 ∨ 256 < name.length then
    .error (.badRequest "Topic name must be between 1 and 256 characters")
  else if !name.all fun c => isNameChar c || c = '.' then
    .error (.badRequest (("Topic name may only contain letters, numbers, hyphens, " : Text) ++
      "underscores, and periods".toList))
  else if fifoRequested && !isFifoName then
    .error (.badRequest "FIFO topic names must end with .fifo")
  else if !fifoRequested && isFifoName then
    .error (.badRequest "FIFO topic names require FifoTopic=true")
  else .ok ()

/-- The attributes whose values are JSON. -/
def jsonAttributes : List Text :=
  ["Policy", "DeliveryPolicy", "DataProtectionPolicy", "ArchivePolicy", "FilterPolicy",
    "RedrivePolicy", "ReplayPolicy"]

/-- `validate_json_attribute`. -/
def validateJsonAttribute (library : SnsLibrary) (attributeName attributeValue : Text) :
    Except SnsError Unit :=
  if jsonAttributes.contains attributeName then
    match library.json.read attributeValue.utf8 with
    | .ok _ => .ok ()
    | .error error => .error (.badRequest (attributeName ++ " must be valid JSON: ".toList ++ error))
  else .ok ()

/-- `validate_raw_message_delivery`. -/
def validateRawMessageDelivery (value : Text) : Except SnsError Unit :=
  let spellings : List Text := ["true", "false", "True", "False", "TRUE", "FALSE"]
  if spellings.contains value then .ok ()
  else .error (.badRequest "RawMessageDelivery must be true or false")

/-- `char::is_control`. -/
def isControl (c : Char) : Bool :=
  c.toNat < 0x20 || (0x7F ≤ c.toNat && c.toNat < 0xA0)

/-- `validate_publish_payload`. -/
def validatePublishPayload (message : Text) (subject : Option Text) : Except SnsError Unit :=
  if message = [] then .error (.badRequest "Message is required")
  else if 262144 < message.utf8.length then
    .error (.badRequest "Message must be at most 262144 bytes")
  else
    match subject with
    | none => .ok ()
    | some subject =>
        if 100 < subject.length then
          .error (.badRequest "Subject must be at most 100 characters")
        else if subject.any isControl then
          .error (.badRequest "Subject cannot contain control characters")
        else .ok ()

/-! ### ARNs -/

/-- `parse_sqs_endpoint_arn`. -/
def parseSqsEndpointArn (endpoint : Text) : Option QueueId :=
  match endpoint.splitOn ':' with
  | [arn, aws, sqs, region, accountId, name] =>
      if arn = ("arn" : Text) ∧ aws = ("aws" : Text) ∧ sqs = ("sqs" : Text) then
        some { region, accountId, name }
      else none
  | _ => none

structure TopicId where
  region : Text
  accountId : Text
  name : Text
  deriving DecidableEq

/-- `parse_sns_topic_arn`. -/
def parseSnsTopicArn (arn : Text) : Option TopicId :=
  match arn.splitOn ':' with
  | [start, aws, sns, region, accountId, name] =>
      if start = ("arn" : Text) ∧ aws = ("aws" : Text) ∧ sns = ("sns" : Text) ∧ region ≠ [] ∧
          accountId ≠ [] ∧ name ≠ [] then
        some { region, accountId, name }
      else none
  | _ => none

/-- `validate_topic_arn`. -/
def validateTopicArn (arn fieldName : Text) : Except SnsError Unit :=
  if arn = [] then .error (.badRequest (fieldName ++ " is required".toList))
  else
    match parseSnsTopicArn arn with
    | some _ => .ok ()
    | none => .error (.badRequest (("Invalid " : Text) ++ fieldName ++ " format".toList))

/-- `validate_subscription_arn`. -/
def validateSubscriptionArn (arn : Text) : Except SnsError Unit :=
  if arn = [] then .error (.badRequest "SubscriptionArn is required")
  else
    match arn.splitOn ':' with
    | [start, aws, sns, region, accountId, name, id] =>
        if start = ("arn" : Text) ∧ aws = ("aws" : Text) ∧ sns = ("sns" : Text) ∧ region ≠ [] ∧
            accountId ≠ [] ∧ name ≠ [] ∧ id ≠ [] then .ok ()
        else .error (.badRequest "Invalid SubscriptionArn format")
    | _ => .error (.badRequest "Invalid SubscriptionArn format")

/-! ### Parameters with an index -/

/-- The parameters that are no fields of the record, as a map. -/
def AwsQueryParams.flattened (params : AwsQueryParams) (declared : List Text) : AttributeMap :=
  SortedMap.ofList (params.values.filter fun value => !declared.contains value.1)

/-- The two halves of an entry, as far as they were sent. -/
abbrev HalfEntry := Option Text × Option Text

/-- An entry, when both halves were sent. -/
def HalfEntry.complete (entry : HalfEntry) : Option (Text × Text) := do
  let key ← entry.1
  let value ← entry.2
  return (key, value)

/-- Parameters such as `Tags.member.1.Key` and `Tags.member.1.Value`, gathered by the index
between the dots. -/
def gatherEntries (start keyName valueName : Text) (params : AttributeMap) :
    SortedMap Text HalfEntry :=
  params.entries.foldl (fun entries param =>
    match (stripPrefix start param.1).bind (Separated.splitFirst '.') with
    | none => entries
    | some (index, suffix) =>
        let entry := (entries.get? index).getD (none, none)
        entries.insert index
          (if suffix = keyName then (some param.2, entry.2)
          else if suffix = valueName then (entry.1, some param.2)
          else entry)) .empty

/-- The complete entries, as a map. -/
def mapOfEntries (entries : SortedMap Text HalfEntry) : AttributeMap :=
  SortedMap.ofList (entries.entries.filterMap fun entry => HalfEntry.complete entry.2)

/-- `SnsAttributes::deserialize`. -/
def snsAttributes (params : AttributeMap) : AttributeMap :=
  mapOfEntries (gatherEntries "Attributes.entry." "key" "value" params)

/-- `SnsTags::deserialize`. -/
def snsTags (params : AttributeMap) : AttributeMap :=
  mapOfEntries (gatherEntries "Tags.member." "Key" "Value" params)

/-- `SnsTagKeys::deserialize`: the values in the order of their indices. -/
def snsTagKeys (params : AttributeMap) : List Text :=
  params.entries.filterMap fun param =>
    (stripPrefix "TagKeys.member." param.1).map fun _ => param.2

/-! ### Tags -/

namespace Sns

/-- `validate_tag_key`. -/
def validateTagKey (key : Text) : Except SnsError Unit :=
  if key.length = 0 ∨ 128 < key.length then
    .error (.badRequest "Tag keys must be between 1 and 128 characters")
  else if (stripPrefix "aws:" key).isSome then
    .error (.badRequest "Tag keys cannot start with the reserved aws: prefix")
  else if key.any isControl then
    .error (.badRequest "Tag keys cannot contain control characters")
  else .ok ()

/-- `validate_tags`. -/
def validateTags (tags : AttributeMap) (allowEmpty : Bool) : Except SnsError Unit :=
  if !allowEmpty && tags.isEmpty then
    .error (.badRequest "Tags must contain at least one entry")
  else if 50 < tags.entries.length then
    .error (.badRequest "A resource can have at most 50 tags")
  else
    tags.entries.forM fun entry => do
      validateTagKey entry.1
      if 256 < entry.2.length then
        throw (.badRequest (("Tag value for '" : Text) ++ entry.1 ++
          "' must be at most 256 characters".toList))

/-- `validate_tag_keys`. -/
def validateTagKeys (tagKeys : List Text) (allowEmpty : Bool) : Except SnsError Unit :=
  if !allowEmpty && tagKeys.isEmpty then
    .error (.badRequest "TagKeys must contain at least one entry")
  else if 50 < tagKeys.length then
    .error (.badRequest "TagKeys can contain at most 50 entries")
  else tagKeys.forM validateTagKey

end Sns

end Hiraeth
