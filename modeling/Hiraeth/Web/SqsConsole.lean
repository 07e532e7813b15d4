import Hiraeth.Sqs.QueueAttributes

/-!
# The forms of the SQS console

The web console creates queues and sends messages from forms.  It checks the
fields of a form for itself, and answers with the page of the queue, or with the
form and the text of the first failed check.

## Main definitions

* `WebError`, `FormResult` — how a form ends
* `createQueueFromForm` — the form that creates a queue
-/

namespace Hiraeth

open Interaction

/-- `WebError`, as far as it is told apart. -/
inductive WebError where
  | badRequest (message : Text)
  | internal (message : Text)
  | store (error : StoreError)
  deriving DecidableEq

/-- `WebError::message`. -/
def WebError.message : WebError → Text
  | badRequest message => message
  | internal message => message
  | store error => error.display

/-- The page that follows a form: the page of a queue with a message, or the form
with an error. -/
inductive FormResult where
  | saved (queueId : RowId) (feedback : Text)
  | rejected (error : Text)
  deriving DecidableEq

/-! ### Creating a queue -/

structure CreateQueueForm where
  queueName : Text
  region : Text
  accountId : Text
  queueType : Text
  deriving DecidableEq

namespace Console

/-- `validate_required`. -/
def validateRequired (fieldName value : Text) : Except WebError Unit :=
  if value = [] then .error (.badRequest (fieldName ++ " is required".toList)) else .ok ()

/-- `validate_queue_name` of the console. -/
def validateQueueName (queueName queueType : Text) : Except WebError Unit :=
  let isFifoName := (stripSuffix ".fifo" queueName).isSome
  if ¬ (queueType = ("standard" : Text) ∨ queueType = ("fifo" : Text)) then
    .error (.badRequest "Queue type must be either standard or fifo")
  else if 80 < (Text.utf8 queueName).length then
    .error (.badRequest "Queue name must be at most 80 characters")
  else if !((stripSuffix ".fifo" queueName).getD queueName).all isNameChar then
    .error (.badRequest
      "Queue name may only contain alphanumeric characters, hyphens, and underscores")
  else if queueType = ("fifo" : Text) ∧ ¬ isFifoName then
    .error (.badRequest "FIFO queue names must end with .fifo")
  else if ¬ queueType = ("fifo" : Text) ∧ isFifoName then
    .error (.badRequest "Queue names ending with .fifo must use the FIFO queue type")
  else .ok ()

end Console

/-- The checks of the form. -/
def validateCreateQueueForm (form : CreateQueueForm) : Except WebError Unit := do
  Console.validateRequired "Queue name" (trim form.queueName)
  Console.validateRequired "Region" (trim form.region)
  Console.validateRequired "Account ID" (trim form.accountId)
  Console.validateQueueName (trim form.queueName) (trim form.queueType)

/-- The queue of the form.  Its attributes are the defaults. -/
def queueOfForm (now : Time) (form : CreateQueueForm) : SqsQueue :=
  { SqsQueue.default with
    name := trim form.queueName
    region := trim form.region
    accountId := trim form.accountId
    queueType := trim form.queueType
    createdAt := now
    updatedAt := now }

/-- `create_queue` of the console. -/
def createQueueFromForm (now : Time) (form : CreateQueueForm) :
    ExceptT WebError SqsProgram FormResult := do
  match validateCreateQueueForm form with
  | .error error => return .rejected error.message
  | .ok () =>
      let created ← ExceptT.lift (sqsCall (.createQueue (queueOfForm now form)))
      match created with
      | .error (.conflict message) => return .rejected (StoreError.conflict message).display
      | .error error => throw (.store error)
      | .ok () =>
          let found ← (sqsCall (.getQueue (trim form.queueName) (trim form.region)
            (trim form.accountId))).orFail WebError.store
          match found with
          | none => throw (.internal "created queue could not be loaded")
          | some createdQueue =>
              return .saved createdQueue.id
                (("Created queue " : Text) ++ trim form.queueName ++ ".".toList)

end Hiraeth
