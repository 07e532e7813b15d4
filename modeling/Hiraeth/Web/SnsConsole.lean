import Hiraeth.Sns.Service
import Hiraeth.Web.SqsConsole

/-!
# The form of the SNS console that creates topics

The console creates standard topics only, with no policy.  It checks the fields of the form
for itself, and it does not look at the characters of a region or of an account.

## Main definitions

* `createTopicFromForm` — the form that creates a topic

## Main results

* `onlyCalls_createTopicFromForm` — the form writes its topic and nothing else
-/

namespace Hiraeth

open Interaction Program

structure CreateTopicForm where
  name : Text
  region : Text
  accountId : Text
  displayName : Text
  deriving DecidableEq

/-- `validate_topic_name` of the console. -/
def Console.validateTopicName (topicName : Text) : Except WebError Unit :=
  if 256 < (Text.utf8 topicName).length then
    .error (.badRequest "Topic name must be at most 256 characters")
  else if !topicName.all fun c => isNameChar c || c = '.' then
    .error (.badRequest (("Topic name may only contain alphanumeric characters, hyphens, " :
      Text) ++ "underscores, and periods".toList))
  else if (".fifo" : Text) <:+ topicName then
    .error (.badRequest "FIFO topics are not currently available through the web UI")
  else .ok ()

/-- The checks of the form. -/
def validateCreateTopicForm (form : CreateTopicForm) : Except WebError Unit := do
  Console.validateRequired "Topic name" (trim form.name)
  Console.validateRequired "Region" (trim form.region)
  Console.validateRequired "Account ID" (trim form.accountId)
  Console.validateTopicName (trim form.name)

/-- The topic of the form. -/
def topicOfForm (now : Time) (form : CreateTopicForm) : SnsTopic where
  id := 0
  name := trim form.name
  region := trim form.region
  accountId := trim form.accountId
  displayName := if trim form.displayName = [] then none else some (trim form.displayName)
  policy := "{}"
  deliveryPolicy := none
  fifoTopic := none
  signatureVersion := none
  tracingConfig := none
  kmsMasterKeyId := none
  dataProtectionPolicy := none
  archivePolicy := none
  beginningArchiveTime := none
  contentBasedDeduplication := none
  createdAt := now

/-- `create_topic` of the console. -/
def createTopicFromForm (now : Time) (form : CreateTopicForm) :
    ExceptT WebError SnsProgram FormResult := do
  match validateCreateTopicForm form with
  | .error error => return .rejected error.message
  | .ok () =>
      let created ← ExceptT.lift (snsCall (.createTopic (topicOfForm now form)))
      match created with
      | .error (.conflict message) => return .rejected (StoreError.conflict message).display
      | .error error => throw (.store error)
      | .ok () =>
          let arn := topicArn (trim form.region) (trim form.accountId) (trim form.name)
          let found ← (snsCall (.getTopic arn)).orFail WebError.store
          match found with
          | none => throw (.internal "created topic could not be loaded")
          | some createdTopic =>
              return .saved createdTopic.id
                (("Created topic " : Text) ++ trim form.name ++ ".".toList)

/-- **The form** creates its topic and looks it up. -/
theorem onlyCalls_createTopicFromForm {property : SnsCall → Prop} {now : Time}
    {form : CreateTopicForm} (lookups : ∀ arn, property (.getTopic arn))
    (creates : property (.createTopic (topicOfForm now form))) :
    @OnlyCalls snsStore _ _ property (createTopicFromForm now form) := by
  unfold createTopicFromForm
  cases checked : validateCreateTopicForm form with
  | error failure => exact onlyCalls_pure
  | ok _ =>
      refine (onlyCalls_lift (allCalls_perform.mpr creates)).bind fun created => ?_
      match created with
      | .error (.conflict _) => exact onlyCalls_pure
      | .error (.notFound _) => exact onlyCalls_throw
      | .error (.storageFailure _) => exact onlyCalls_throw
      | .ok () =>
          refine (onlyCalls_orFail (allCalls_perform.mpr (lookups _))).bind fun found => ?_
          cases found with
          | none => exact onlyCalls_throw
          | some topic => exact onlyCalls_pure

end Hiraeth
