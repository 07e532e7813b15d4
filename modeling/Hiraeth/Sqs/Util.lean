import Hiraeth.Core.Json
import Hiraeth.Store.Sqs

/-!
# What the SQS actions share

The errors of the service, queue URLs, message attributes and their digest, and
the checks that several actions make.

Digests, base64 and JSON are libraries of the program and parameters here, and so
are two parts of the URL parser: what it makes of an authority, and which
characters of a path it writes in another way.

## Main definitions

* `SqsError` — the errors of the service
* `SqsLibrary` — the libraries
* `parseQueueUrl`, `loadQueueFromUrl`, `queueUrl` — queue URLs
* `MessageAttributes`, `calculateMessageAttributesMd5`,
  `serializeMessageAttributes` — message attributes
* `validateBatchRequest`, `validateMessageAttributes`, `resolveDelaySeconds`,
  `validateMessageBody` — checks
-/

namespace Hiraeth

open Interaction

/-! ### Errors -/

inductive SqsError where
  | queueNotFound
  | badRequest (message : Text)
  | batchEntryIdsNotDistinct
  | emptyBatchRequest
  | internalError (message : Text)
  | queueAlreadyExists (message : Text)
  | receiptHandleIsInvalid (message : Text)
  | tooManyEntriesInBatchRequest
  | unsupportedOperation (message : Text)
  deriving DecidableEq

namespace SqsError

/-- `SqsError::code`. -/
def code : SqsError → Text
  | queueNotFound => "QueueDoesNotExist"
  | badRequest _ => "InvalidParameterValue"
  | batchEntryIdsNotDistinct => "BatchEntryIdsNotDistinct"
  | emptyBatchRequest => "EmptyBatchRequest"
  | internalError _ => "InternalError"
  | queueAlreadyExists _ => "QueueAlreadyExists"
  | receiptHandleIsInvalid _ => "ReceiptHandleIsInvalid"
  | tooManyEntriesInBatchRequest => "TooManyEntriesInBatchRequest"
  | unsupportedOperation _ => "UnsupportedOperation"

/-- How the error reads. -/
def display : SqsError → Text
  | queueNotFound => "The specified queue does not exist."
  | batchEntryIdsNotDistinct => "Two or more batch entries in the request have the same Id."
  | emptyBatchRequest => "The batch request must contain at least one entry."
  | tooManyEntriesInBatchRequest => "The batch request contains more entries than allowed."
  | badRequest message => message
  | internalError message => message
  | queueAlreadyExists message => message
  | receiptHandleIsInvalid message => message
  | unsupportedOperation message => message

/-- `AwsErrorFault::sender_fault`: only internal errors are the fault of the
server. -/
def senderFault : SqsError → Bool
  | internalError _ => false
  | _ => true

/-- The error a store call is turned into where any failure is internal. -/
def internal (error : StoreError) : SqsError :=
  internalError error.display

/-- `map_store_error`. -/
def ofStoreError : StoreError → SqsError
  | .notFound _ => queueNotFound
  | .conflict message => badRequest message
  | .storageFailure message => internalError message

/-- `map_receipt_handle_store_error`. -/
def ofReceiptHandleStoreError : StoreError → SqsError
  | .notFound message => receiptHandleIsInvalid message
  | .conflict message => badRequest message
  | .storageFailure message => internalError message

end SqsError

/-! ### Libraries -/

/-- A URL as far as the services look at it. -/
structure ParsedUrl where
  host : Option Text
  pathSegments : Option (List Text)
  deriving DecidableEq

/-- The parts of the URL parser that are not spelled out: what it makes of user
information, host and port together, how it writes a character of a path, and
what it makes of URLs that do not start with `http://`. -/
structure UrlLibrary where
  parseAuthority : Text → Option Text
  encodePathChar : Char → Text
  parseOther : Text → Option ParsedUrl

/-- The libraries of the SQS service. -/
structure SqsLibrary where
  md5 : Bytes → Bytes
  decodeBase64 : Text → Except Text Bytes
  json : JsonLibrary
  url : UrlLibrary

/-! ### Parsing URLs -/

/-- The characters that end an authority or a path segment. -/
def isSlash (c : Char) : Bool :=
  c = '/' || c = '\\'

/-- The characters that end a path. -/
def endsPath (c : Char) : Bool :=
  c = '?' || c = '#'

/-- The characters that are dropped wherever they stand. -/
def isIgnoredInUrl (c : Char) : Bool :=
  c = '\t' || c = '\n' || c = '\r'

/-- The input as the parser sees it: without control characters and spaces at its
ends, and without tabs and newlines. -/
def cleanUrl (input : Text) : Text :=
  (trimBy (fun c => c.toNat ≤ 32) input).filter fun c => !isIgnoredInUrl c

/-- `.`, in any of its spellings. -/
def isSingleDot (segment : Text) : Bool :=
  [("." : Text), ("%2e" : Text)].contains (toAsciiLowercase segment)

/-- `..`, in any of its spellings. -/
def isDoubleDot (segment : Text) : Bool :=
  [(".." : Text), (".%2e" : Text), ("%2e." : Text), ("%2e%2e" : Text)].contains
    (toAsciiLowercase segment)

/-- One more segment of a path.  A dot segment leaves an empty segment when it is
the last one. -/
def pushSegment (library : UrlLibrary) (path : List Text) (segment : Text) (last : Bool) :
    List Text :=
  if isDoubleDot segment then path.dropLast ++ (if last then [[]] else [])
  else if isSingleDot segment then path ++ (if last then [[]] else [])
  else path ++ [segment.flatMap library.encodePathChar]

/-- The segments of a path, dot segments resolved. -/
def normalizeSegments (library : UrlLibrary) : List Text → List Text → List Text
  | path, [] => path
  | path, [segment] => pushSegment library path segment true
  | path, segment :: next :: segments =>
      normalizeSegments library (pushSegment library path segment false) (next :: segments)

/-- What follows `http://`: slashes are skipped, then come the authority and the
path. -/
def parseHttp (library : UrlLibrary) (rest : Text) : Option ParsedUrl :=
  let input := rest.dropWhile isSlash
  let outside (c : Char) : Bool := !isSlash c && !endsPath c
  let path := (input.dropWhile outside).takeWhile fun c => !endsPath c
  (library.parseAuthority (input.takeWhile outside)).map fun host =>
    { host := some host
      pathSegments := some (normalizeSegments library [] ((path.drop 1).splitOnP isSlash)) }

/-- `Url::parse`. -/
def parseUrl (library : UrlLibrary) (input : Text) : Option ParsedUrl :=
  match stripPrefix "http://" (cleanUrl input) with
  | some rest => parseHttp library rest
  | none => library.parseOther input

/-! ### Queue URLs -/

/-- What a queue URL names. -/
structure QueueId where
  name : Text
  region : Text
  accountId : Text
  deriving DecidableEq

/-- The region a host names, as in `sqs.us-east-1.amazonaws.com`. -/
def hostRegion (host defaultRegion : Text) : Text :=
  match stripPrefix "sqs." host with
  | some remainder => remainder.takeWhile (· ≠ '.')
  | none => defaultRegion

/-- `parse_queue_url`. -/
def parseQueueUrl (library : UrlLibrary) (queueUrl defaultRegion : Text) : Option QueueId := do
  let url ← parseUrl library queueUrl
  let pathSegments ← url.pathSegments
  match pathSegments with
  | [accountId, name] =>
      let host ← url.host
      return ⟨name, hostRegion host defaultRegion, accountId⟩
  | _ => none

/-- `load_queue_from_url`. -/
def loadQueueFromUrl (library : SqsLibrary) (request : ResolvedRequest) (queueUrl : Text) :
    ExceptT SqsError SqsProgram SqsQueue := do
  match parseQueueUrl library.url queueUrl request.region with
  | none => throw (.badRequest "Invalid queue url")
  | some queueId =>
      let found ← (sqsCall (.getQueue queueId.name queueId.region queueId.accountId)).orFail
        SqsError.internal
      match found with
      | some queue => return queue
      | none => throw .queueNotFound

/-- `queue_url`. -/
def queueUrl (host accountId queueName : Text) : Text :=
  ("http://" : Text) ++ host ++ '/' :: accountId ++ '/' :: queueName

/-- `get_queue_arn`. -/
def getQueueArn (queue : SqsQueue) : Text :=
  ("arn:aws:sqs:" : Text) ++ queue.region ++ ':' :: queue.accountId ++ ':' :: queue.name

/-! ### Batches -/

/-- `validate_batch_request`: a repeated id is found first, whatever the number
of entries. -/
def validateBatchRequest (entryIds : List Text) : Except SqsError Unit :=
  if ¬ entryIds.Nodup then .error .batchEntryIdsNotDistinct
  else if entryIds = [] then .error .emptyBatchRequest
  else if 10 < entryIds.length then .error .tooManyEntriesInBatchRequest
  else .ok ()

/-- `char::is_ascii_alphanumeric`, a hyphen or an underscore. -/
def isNameChar (c : Char) : Bool :=
  c.isAlphanum || c = '-' || c = '_'

/-- `validate_batch_entry_id`. -/
def validateBatchEntryId (entryId : Text) : Except SqsError Unit :=
  if entryId = [] ∨ 80 < (Text.utf8 entryId).length then
    .error (.badRequest "Batch entry Id must be between 1 and 80 characters")
  else if !entryId.all isNameChar then
    .error (.badRequest
      "Batch entry Id may only contain alphanumeric characters, hyphens, and underscores")
  else .ok ()

/-! ### Message attributes -/

structure MessageAttributeValue where
  dataType : Text
  stringValue : Option Text
  binaryValue : Option Text
  deriving DecidableEq

/-- The attributes of a message, by their names. -/
abbrev MessageAttributes := SortedMap Text MessageAttributeValue

/-- An optional string as `serde_json` writes it. -/
def encodeOptionalText : Option Text → Json
  | some value => .string value
  | none => .null

/-- `MessageAttributeValue::serialize`. -/
def encodeMessageAttributeValue (value : MessageAttributeValue) : Json :=
  .object [("DataType", .string value.dataType),
    ("StringValue", encodeOptionalText value.stringValue),
    ("BinaryValue", encodeOptionalText value.binaryValue)]

/-- `MessageAttributeValue::deserialize`. -/
def decodeMessageAttributeValue (json : Json) : Except Text MessageAttributeValue := do
  let fields ← json.readFields "MessageAttributeValue"
    [⟨"DataType", false⟩, ⟨"StringValue", false⟩, ⟨"BinaryValue", false⟩]
  let dataType ← fields.required "DataType" Json.asText
  let stringValue ← fields.optional "StringValue" Json.asText
  let binaryValue ← fields.optional "BinaryValue" Json.asText
  return ⟨dataType, stringValue, binaryValue⟩

/-- A map of attributes as it is stored. -/
def encodeMessageAttributes (attributes : MessageAttributes) : Json :=
  .object (attributes.entries.map fun entry => (entry.1, encodeMessageAttributeValue entry.2))

/-- A map of attributes as it is read. -/
def decodeMessageAttributes : Json → Except Text MessageAttributes :=
  Json.asMap decodeMessageAttributeValue

/-- **Decoding undoes encoding.** -/
theorem decodeMessageAttributeValue_encode (value : MessageAttributeValue) :
    decodeMessageAttributeValue (encodeMessageAttributeValue value) = .ok value := by
  obtain ⟨dataType, stringValue, binaryValue⟩ := value
  cases stringValue <;> cases binaryValue <;> rfl

theorem decodeMessageAttributes_encode (attributes : MessageAttributes) :
    decodeMessageAttributes (encodeMessageAttributes attributes) = .ok attributes := by
  have members : ∀ entries : List (Text × MessageAttributeValue),
      ((entries.map fun entry => (entry.1, encodeMessageAttributeValue entry.2)).mapM
        fun member : Text × Json => (decodeMessageAttributeValue member.2).map (member.1, ·)) =
          .ok entries := by
    intro entries
    induction entries with
    | nil => rfl
    | cons entry entries inductionHypothesis =>
        rw [List.map_cons, List.mapM_cons, inductionHypothesis,
          decodeMessageAttributeValue_encode]
        rfl
  rw [decodeMessageAttributes, encodeMessageAttributes, Json.asMap, members, Except.map,
    SortedMap.ofList_entries]

/-- `validate_message_attribute_name`. -/
def validateMessageAttributeName (name : Text) : Except SqsError Unit :=
  if name = [] ∨ 256 < (Text.utf8 name).length then
    .error (.badRequest "Message attribute names must be between 1 and 256 characters")
  else if name.head? = some '.' ∨ name.getLast? = some '.' ∨ ['.', '.'] <:+: name then
    .error (.badRequest (("Message attribute names may not start or end with a period or " : Text) ++
      "contain consecutive periods".toList))
  else if toAsciiLowercase (name.take 4) = ("aws." : Text) then
    .error (.badRequest "Message attribute names cannot start with the reserved AWS. prefix")
  else if !name.all fun c => isNameChar c || c = '.' then
    .error (.badRequest (("Message attribute names may only contain alphanumeric characters, " : Text) ++
      "hyphens, underscores, and periods".toList))
  else .ok ()

/-- The data type of binary values, with or without a label. -/
def MessageAttributeValue.isBinary (value : MessageAttributeValue) : Bool :=
  ("Binary" : Text).isPrefixOf value.dataType

/-- The data types of values that are text, with or without a label. -/
def MessageAttributeValue.isText (value : MessageAttributeValue) : Bool :=
  ("String" : Text).isPrefixOf value.dataType || ("Number" : Text).isPrefixOf value.dataType

/-- `validate_message_attribute_value`. -/
def validateMessageAttributeValue (name : Text) (value : MessageAttributeValue) :
    Except SqsError Unit :=
  if value.dataType = [] ∨ 256 < (Text.utf8 value.dataType).length then
    .error (.badRequest (("Message attribute '" : Text) ++ name ++
      "' DataType must be between 1 and 256 characters".toList))
  else if value.isBinary then
    if value.binaryValue.isNone then
      .error (.badRequest (("Binary message attribute '" : Text) ++ name ++
        "' is missing BinaryValue".toList))
    else .ok ()
  else if value.isText then
    if value.stringValue.isNone then
      .error (.badRequest (("String/Number message attribute '" : Text) ++ name ++
        "' is missing StringValue".toList))
    else .ok ()
  else
    .error (.badRequest (("Message attribute '" : Text) ++ name ++
      "' DataType must start with String, Number, or Binary".toList))

/-- `validate_message_attributes`. -/
def validateMessageAttributes (attributes : MessageAttributes) : Except SqsError Unit :=
  if 10 < attributes.entries.length then
    .error (.badRequest "A message can contain at most 10 message attributes")
  else
    attributes.entries.forM fun entry => do
      validateMessageAttributeName entry.1
      validateMessageAttributeValue entry.1 entry.2

/-- `validate_message_system_attributes`. -/
def validateMessageSystemAttributes (attributes : MessageAttributes) : Except SqsError Unit :=
  attributes.entries.forM fun entry => do
    if entry.1 ≠ ("AWSTraceHeader" : Text) then
      throw (.badRequest (("Unsupported message system attribute: " : Text) ++ entry.1))
    if entry.2.dataType ≠ ("String" : Text) then
      throw (.badRequest "AWSTraceHeader must use DataType=String")
    validateMessageAttributeValue entry.1 entry.2

/-! ### The digest of message attributes -/

/-- `u32::to_be_bytes` of a length. -/
def lengthBytes (length : ℕ) : Bytes :=
  [UInt8.ofNat (length / 16777216), UInt8.ofNat (length / 65536), UInt8.ofNat (length / 256),
    UInt8.ofNat length]

/-- `append_length_prefixed_bytes`. -/
def lengthPrefixed (bytes : Bytes) : Bytes :=
  lengthBytes bytes.length ++ bytes

/-- What one attribute adds to the digest. -/
def digestedAttribute (library : SqsLibrary) (name : Text) (value : MessageAttributeValue) :
    Except SqsError Bytes :=
  let head := lengthPrefixed name.utf8 ++ lengthPrefixed value.dataType.utf8
  if value.isBinary then
    match value.binaryValue with
    | none => .error (.badRequest (("Binary message attribute '" : Text) ++ name ++
        "' is missing BinaryValue".toList))
    | some binaryValue =>
        match library.decodeBase64 binaryValue with
        | .error error => .error (.badRequest (("Binary message attribute '" : Text) ++ name ++
            "' is not valid base64: ".toList ++ error))
        | .ok decoded => .ok (head ++ 2 :: lengthPrefixed decoded)
  else
    match value.stringValue with
    | none => .error (.badRequest (("String/Number message attribute '" : Text) ++ name ++
        "' is missing StringValue".toList))
    | some stringValue => .ok (head ++ 1 :: lengthPrefixed stringValue.utf8)

/-- The hexadecimal digest of some bytes. -/
def md5Hex (library : SqsLibrary) (bytes : Bytes) : Text :=
  ByteText.hexEncode ByteText.lowerHex (library.md5 bytes)

/-- `calculate_message_attributes_md5`: the attributes in the order of their
names. -/
def calculateMessageAttributesMd5 (library : SqsLibrary) (attributes : MessageAttributes) :
    Except SqsError Text := do
  let pieces ← attributes.entries.mapM fun entry => digestedAttribute library entry.1 entry.2
  return md5Hex library pieces.flatten

/-- `serialize_message_attributes`. -/
def serializeMessageAttributes (library : SqsLibrary) (attributes : MessageAttributes) : Text :=
  library.json.write (encodeMessageAttributes attributes)

/-- `extract_aws_trace_header`. -/
def extractAwsTraceHeader (attributes : Option MessageAttributes) :
    Except SqsError (Option Text) :=
  match attributes.bind fun attributes => attributes.get? "AWSTraceHeader" with
  | none => .ok none
  | some traceHeader =>
      if traceHeader.dataType ≠ ("String" : Text) then
        .error (.badRequest "AWSTraceHeader must use DataType=String")
      else
        match traceHeader.stringValue with
        | none => .error (.badRequest "AWSTraceHeader is missing StringValue")
        | some value => .ok (some value)

/-! ### Delay and body -/

/-- `resolve_delay_seconds`. -/
def resolveDelaySeconds (requestedDelaySeconds : Option ℤ) (queueDelaySeconds : ℤ) :
    Except SqsError ℤ :=
  let delaySeconds := requestedDelaySeconds.getD queueDelaySeconds
  if 0 ≤ delaySeconds ∧ delaySeconds ≤ 900 then .ok delaySeconds
  else .error (.badRequest "DelaySeconds must be between 0 and 900")

/-- `is_valid_sqs_message_character`. -/
def isValidSqsMessageCharacter (c : Char) : Bool :=
  c.toNat = 9 || c.toNat = 10 || c.toNat = 13 || (0x20 ≤ c.toNat && c.toNat ≤ 0xD7FF) ||
    (0xE000 ≤ c.toNat && c.toNat ≤ 0xFFFD) || (0x10000 ≤ c.toNat && c.toNat ≤ 0x10FFFF)

/-- An `i64` cast to a `usize`. -/
def asUsize (value : ℤ) : ℕ :=
  (value % 18446744073709551616).toNat

/-- `validate_message_body`. -/
def validateMessageBody (messageBody : Text) (maximumMessageSize : ℤ) : Except SqsError Unit :=
  if messageBody = [] then
    .error (.badRequest "MessageBody must contain at least one character")
  else if asUsize maximumMessageSize < (Text.utf8 messageBody).length then
    .error (.badRequest (("MessageBody exceeds the queue MaximumMessageSize of " : Text) ++
      (toString maximumMessageSize).toList ++ " bytes".toList))
  else if !messageBody.all isValidSqsMessageCharacter then
    .error (.badRequest "MessageBody contains characters that are not allowed by SQS")
  else .ok ()

end Hiraeth
