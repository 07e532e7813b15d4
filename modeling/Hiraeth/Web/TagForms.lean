import Hiraeth.Web.SnsConsole

/-!
# The tag forms of the console

The pages of a queue and of a topic have a form that saves one tag and a form that removes one.
The keys and values are checked by the console itself, a little differently for queues and for
topics; the limit is checked against the tags that are listed.

## Main definitions

* `tagQueueFromForm`, `untagQueueFromForm` — the forms of a queue
* `tagTopicFromForm`, `untagTopicFromForm` — the forms of a topic
-/

namespace Hiraeth

open Interaction Program

/-- `TagQueueForm` and `TagTopicForm`. -/
structure TagForm where
  tagKey : Text
  tagValue : Text
  deriving DecidableEq

namespace Console

/-- `validate_tag_key` of the page of a queue. -/
def validateQueueTagKey (key : Text) : Except WebError Unit :=
  if key.length = 0 ∨ 128 < key.length then
    .error (.badRequest "Tag keys must be between 1 and 128 characters")
  else if (stripPrefix "aws:" key).isSome then
    .error (.badRequest "Tag keys cannot start with the reserved aws: prefix")
  else .ok ()

/-- `validate_tag_value` of the page of a queue. -/
def validateQueueTagValue (key value : Text) : Except WebError Unit :=
  if 256 < value.length then
    .error (.badRequest (("Tag value for '" : Text) ++ key ++
      "' must be at most 256 characters".toList))
  else .ok ()

/-- `char::is_control`. -/
def isControlChar (c : Char) : Bool :=
  c.toNat < 0x20 || (0x7F ≤ c.toNat && c.toNat < 0xA0)

/-- `validate_tag_key` of the page of a topic. -/
def validateTopicTagKey (key : Text) : Except WebError Unit :=
  if key = [] then .error (.badRequest "Tag key is required")
  else if 128 < key.length then
    .error (.badRequest "Tag key must be at most 128 characters")
  else if (stripPrefix "aws:" key).isSome then
    .error (.badRequest "Tag keys cannot use the reserved aws: prefix")
  else if key.any isControlChar then
    .error (.badRequest "Tag key cannot contain control characters")
  else .ok ()

/-- `validate_tag_value` of the page of a topic. -/
def validateTopicTagValue (value : Text) : Except WebError Unit :=
  if 256 < value.length then
    .error (.badRequest "Tag value must be at most 256 characters")
  else if value.any isControlChar then
    .error (.badRequest "Tag value cannot contain control characters")
  else .ok ()

/-- There is no room for another tag under this key. -/
def tagsFull (existing : List (Text × Text)) (key : Text) : Bool :=
  let existingTags := SortedMap.ofList existing
  (existingTags.get? key).isNone && decide (50 ≤ existingTags.entries.length)

end Console

/-- What a form says when it has saved or removed a tag. -/
def tagFeedback (verb key : Text) : Text :=
  verb ++ " tag ".toList ++ key ++ ".".toList

/-! ### Tags of queues -/

/-- The checks of the form that saves a tag of a queue. -/
def validateTagQueueForm (form : TagForm) : Except WebError Unit := do
  Console.validateQueueTagKey (trim form.tagKey)
  Console.validateQueueTagValue (trim form.tagKey) form.tagValue

/-- `load_queue_by_id`, given what the query by the number finds. -/
def loadQueueById (found : StoreResult (Option SqsQueue)) : Except WebError SqsQueue :=
  match found with
  | .error error => .error (.store error)
  | .ok none => .error (.store (.notFound "queue not found"))
  | .ok (some queue) => .ok queue

/-- `tag_queue` of the console.  The queue is looked up by its number, outside of the calls of
the services. -/
def tagQueueFromForm (found : StoreResult (Option SqsQueue)) (queueId : RowId) (form : TagForm) :
    ExceptT WebError SqsProgram FormResult := do
  let _ ← liftExcept (loadQueueById found)
  match validateTagQueueForm form with
  | .error error => return .rejected error.message
  | .ok () =>
      let existing ← (sqsCall (.listQueueTags queueId)).orFail WebError.store
      if Console.tagsFull existing (trim form.tagKey) then
        return .rejected "A queue can have at most 50 tags"
      else
        (sqsCall (.tagQueue queueId [(trim form.tagKey, form.tagValue)])).orFail WebError.store
        return .saved queueId (tagFeedback "Saved" (trim form.tagKey))

/-- `untag_queue` of the console. -/
def untagQueueFromForm (found : StoreResult (Option SqsQueue)) (queueId : RowId) (tagKey : Text) :
    ExceptT WebError SqsProgram FormResult := do
  let _ ← liftExcept (loadQueueById found)
  match Console.validateQueueTagKey (trim tagKey) with
  | .error error => return .rejected error.message
  | .ok () =>
      (sqsCall (.untagQueue queueId [trim tagKey])).orFail WebError.store
      return .saved queueId (tagFeedback "Removed" (trim tagKey))

/-! ### Tags of topics -/

/-- The checks of the form that saves a tag of a topic. -/
def validateTagTopicForm (form : TagForm) : Except WebError Unit := do
  Console.validateTopicTagKey (trim form.tagKey)
  Console.validateTopicTagValue form.tagValue

/-- `load_topic_by_id`. -/
def loadTopicById (topicId : RowId) : ExceptT WebError SnsProgram SnsTopic := do
  match ← (snsCall (.getTopicById topicId)).orFail WebError.store with
  | some topic => return topic
  | none => throw (.store (.notFound "topic not found"))

/-- `tag_topic` of the console. -/
def tagTopicFromForm (topicId : RowId) (form : TagForm) :
    ExceptT WebError SnsProgram FormResult := do
  let topic ← loadTopicById topicId
  match validateTagTopicForm form with
  | .error error => return .rejected error.message
  | .ok () =>
      let arn := topicArn topic.region topic.accountId topic.name
      let existing ← (snsCall (.listTopicTags arn)).orFail WebError.store
      if Console.tagsFull existing (trim form.tagKey) then
        return .rejected "A topic can have at most 50 tags"
      else
        (snsCall (.tagTopic arn [(trim form.tagKey, form.tagValue)])).orFail WebError.store
        return .saved topicId (tagFeedback "Saved" (trim form.tagKey))

/-- `untag_topic` of the console. -/
def untagTopicFromForm (topicId : RowId) (tagKey : Text) :
    ExceptT WebError SnsProgram FormResult := do
  let topic ← loadTopicById topicId
  match Console.validateTopicTagKey (trim tagKey) with
  | .error error => return .rejected error.message
  | .ok () =>
      (snsCall (.untagTopic (topicArn topic.region topic.accountId topic.name)
        [trim tagKey])).orFail WebError.store
      return .saved topicId (tagFeedback "Removed" (trim tagKey))

end Hiraeth
