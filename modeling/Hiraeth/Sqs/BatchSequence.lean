import Hiraeth.Sqs.Accepted
import Hiraeth.Sqs.MessageActions

/-!
# A batch is the sequence of its entries

Three actions have a batch form.  Each of them does with the store what the single action
does for one entry after the other, and answers for each entry what the single action
answers: also when several entries name one receipt handle, so that the first of them
changes what the next one meets.

## Main definitions

* `TypedAwsAction.checkedHandle` — a single request, from its check to its answer
* `entryOutcome` — the answer for an entry, from the outcome of the single action
* `DoesAsSequence` — a batch does what its entries do one after the other

## Main results

* `perm_successes_failures` — every result is a success or a failure, once
* `doesAsSequence` — from the entries, one by one, to the batch
* `batches_are_sequences` — the three batches
-/

namespace Hiraeth

open Interaction Program

/-- A request that was authorized: it is checked, and handled. -/
def TypedAwsAction.checkedHandle {I : Interface} {Error Request Response : Type}
    (action : TypedAwsAction I Error Request Response) (request : ResolvedRequest)
    (payload : Request) : ExceptT Error (Program I) Response := do
  action.validate request payload
  action.handle request payload

/-! ### Results of entries -/

section Results

variable {ε α κ γ β ρ : Type}

/-- The id of a result. -/
def resultId (successId : α → κ) (failureId : ε → κ) : Except ε α → κ
  | .ok value => successId value
  | .error failure => failureId failure

/-- **Every result is reported once**, as a success or as a failure. -/
theorem perm_successes_failures {successId : α → κ} {failureId : ε → κ}
    (results : List (Except ε α)) :
    ((successesOf results).map successId ++ (failuresOf results).map failureId).Perm
      (results.map (resultId successId failureId)) := by
  induction results with
  | nil => exact .nil
  | cons result results inductionHypothesis =>
      cases result with
      | ok value => exact inductionHypothesis.cons _
      | error failure => exact List.perm_middle.trans (inductionHypothesis.cons _)

/-- **What a batch answers for an entry**, given the outcome of the single action. -/
def entryOutcome (entryId : γ → Text) (success : γ → β → ρ) (item : γ)
    (outcome : Except SqsError β) : Except BatchResultErrorEntry ρ :=
  (outcome.map (success item)).mapError (batchErrorEntry (entryId item))

/-- The answer for an entry has its id. -/
theorem resultId_entryOutcome {entryId : γ → Text} {success : γ → β → ρ} {successId : ρ → Text}
    (named : ∀ item value, successId (success item value) = entryId item) {item : γ}
    {outcome : Except SqsError β} :
    resultId successId BatchResultErrorEntry.id (entryOutcome entryId success item outcome) =
      entryId item := by
  cases outcome with
  | ok value => exact named item value
  | error failure => rfl

/-- The answers for the entries have their ids. -/
theorem map_resultId_entryOutcome {entryId : γ → Text} {success : γ → β → ρ} {successId : ρ → Text}
    (named : ∀ item value, successId (success item value) = entryId item) {items : List γ}
    {outcomes : List (Except SqsError β)} (same : outcomes.length = items.length) :
    (List.zipWith (entryOutcome entryId success) items outcomes).map
      (resultId successId BatchResultErrorEntry.id) = items.map entryId := by
  induction items generalizing outcomes with
  | nil => rfl
  | cons item items inductionHypothesis =>
      cases outcomes with
      | nil => cases same
      | cons outcome outcomes =>
          rw [List.zipWith_cons_cons, List.map_cons, List.map_cons, resultId_entryOutcome named,
            inductionHypothesis (Nat.succ.inj same)]

end Results

/-! ### Batches -/

section Batches

variable {γ β ρ R : Type} {state : SqsDatabase}

/-- The single actions for the entries, one after the other. -/
def sequenceOf (items : List γ) (single : γ → ExceptT SqsError SqsProgram β) :
    SqsProgram (List (Except SqsError β)) :=
  items.mapM fun item => (single item).run

/-- **A batch does what its entries do one after the other.**  It leaves the same store; it
answers each entry with the outcome of the single action; when it fails as a whole, so does
each single action; and every entry is reported once, as a success or as a failure. -/
structure DoesAsSequence (state : SqsDatabase) (batch : ExceptT SqsError SqsProgram R)
    (successful : R → List ρ) (failed : R → List BatchResultErrorEntry) (items : List γ)
    (entryId : γ → Text) (single : γ → ExceptT SqsError SqsProgram β) (success : γ → β → ρ)
    (successId : ρ → Text) : Prop where
  store : (batch.run.run SqsDatabase.serve state).2 =
    ((sequenceOf items single).run SqsDatabase.serve state).2
  answered : ∀ response, (batch.run.run SqsDatabase.serve state).1 = .ok response →
    let results := List.zipWith (entryOutcome entryId success) items
      ((sequenceOf items single).run SqsDatabase.serve state).1
    successful response = successesOf results ∧ failed response = failuresOf results
  rejected : ∀ failure, (batch.run.run SqsDatabase.serve state).1 = .error failure →
    ∀ outcome ∈ ((sequenceOf items single).run SqsDatabase.serve state).1, outcome.isOk = false
  distinct : (items.map entryId).Nodup
  once : ∀ response, (batch.run.run SqsDatabase.serve state).1 = .ok response →
    ((successful response).map successId ++ (failed response).map BatchResultErrorEntry.id).Perm
      (items.map entryId)

/-- There is an outcome for each entry. -/
theorem length_sequenceOf {items : List γ} {single : γ → ExceptT SqsError SqsProgram β} :
    ((sequenceOf items single).run SqsDatabase.serve state).1.length = items.length := by
  unfold sequenceOf
  induction items generalizing state with
  | nil => rfl
  | cons item items inductionHypothesis =>
      rw [List.mapM_cons, run_bind, run_bind]
      exact congrArg (· + 1) inductionHypothesis

/-- When every single action fails and leaves the store alone, so does the sequence. -/
theorem sequenceOf_of_fails {items : List γ} {single : γ → ExceptT SqsError SqsProgram β}
    (fails : ∀ item ∈ items, ∃ failure,
      (single item).run.run SqsDatabase.serve state = (.error failure, state)) :
    ((sequenceOf items single).run SqsDatabase.serve state).2 = state ∧
      ∀ outcome ∈ ((sequenceOf items single).run SqsDatabase.serve state).1,
        outcome.isOk = false := by
  unfold sequenceOf
  induction items with
  | nil => exact ⟨rfl, fun outcome member => absurd member List.not_mem_nil⟩
  | cons item items inductionHypothesis =>
      obtain ⟨failure, first⟩ := fails item List.mem_cons_self
      obtain ⟨same, others⟩ := inductionHypothesis
        fun other later => fails other (List.mem_cons_of_mem _ later)
      rw [List.mapM_cons, run_bind, run_bind, first]
      refine ⟨same, fun outcome member => ?_⟩
      rcases List.mem_cons.mp member with rfl | later
      · rfl
      · exact others outcome later

/-- Loading a queue reads the queues and nothing else. -/
theorem run_loadQueueFromUrl {library : SqsLibrary} {request : ResolvedRequest} {queueUrl : Text}
    {other : SqsDatabase} (same : other.queues = state.queues) :
    (loadQueueFromUrl library request queueUrl).run.run SqsDatabase.serve other =
      (((loadQueueFromUrl library request queueUrl).run.run SqsDatabase.serve state).1, other) := by
  unfold loadQueueFromUrl
  cases parseQueueUrl library.url queueUrl request.region with
  | none => rfl
  | some queueId =>
      have found : other.getQueue queueId.name queueId.region queueId.accountId =
          state.getQueue queueId.name queueId.region queueId.accountId := by
        unfold SqsDatabase.getQueue
        rw [same]
      have asked : SqsDatabase.serve (.getQueue queueId.name queueId.region queueId.accountId) other =
          (.ok (state.getQueue queueId.name queueId.region queueId.accountId), other) :=
        congrArg (fun queue => (Except.ok queue, other)) found
      have asked' : SqsDatabase.serve (.getQueue queueId.name queueId.region queueId.accountId) state =
          (.ok (state.getQueue queueId.name queueId.region queueId.accountId), state) := rfl
      dsimp only
      rw [run_orFail_bind, run_orFail_bind, run_sqsCall, run_sqsCall, asked, asked']
      cases state.getQueue queueId.name queueId.region queueId.accountId <;> rfl

/-- **From the entries to the batch.**  A batch that loads its queue, and then has each
entry answered as the single action would be answered while the queues are the same, does
what its entries do one after the other. -/
theorem doesAsSequence {library : SqsLibrary} {request : ResolvedRequest} {queueUrl : Text}
    {items : List γ} {entryId : γ → Text} {single : γ → ExceptT SqsError SqsProgram β}
    {success : γ → β → ρ} {successId : ρ → Text} {successful : R → List ρ}
    {failed : R → List BatchResultErrorEntry} {batch : ExceptT SqsError SqsProgram R}
    (entry : SqsQueue → γ → SqsProgram (Except BatchResultErrorEntry ρ))
    (answer : List (Except BatchResultErrorEntry ρ) → R)
    (isBatch : batch = do
      let queue ← loadQueueFromUrl library request queueUrl
      liftExcept (validateBatchRequest (items.map entryId))
      let results ← ExceptT.lift (items.mapM (entry queue))
      return answer results)
    (valid : validateBatchRequest (items.map entryId) = .ok ())
    (answers : ∀ results, successful (answer results) = successesOf results ∧
      failed (answer results) = failuresOf results)
    (named : ∀ item value, successId (success item value) = entryId item)
    (missing : ∀ failure,
      (loadQueueFromUrl library request queueUrl).run.run SqsDatabase.serve state =
        (.error failure, state) →
      ∀ item ∈ items, ∃ failure',
        (single item).run.run SqsDatabase.serve state = (.error failure', state))
    (loaded : ∀ queue,
      (loadQueueFromUrl library request queueUrl).run.run SqsDatabase.serve state =
        (.ok queue, state) →
      ∀ item ∈ items, ∀ other : SqsDatabase, other.queues = state.queues →
        (entry queue item).run SqsDatabase.serve other =
          (entryOutcome entryId success item ((single item).run.run SqsDatabase.serve other).1,
            ((single item).run.run SqsDatabase.serve other).2) ∧
        ((single item).run.run SqsDatabase.serve other).2.queues = state.queues) :
    DoesAsSequence state batch successful failed items entryId single success successId := by
  have distinct : (items.map entryId).Nodup := by
    by_contra repeated
    rw [validateBatchRequest, if_pos repeated] at valid
    cases valid
  have loads := @run_loadQueueFromUrl state library request queueUrl state rfl
  rcases loading : ((loadQueueFromUrl library request queueUrl).run.run SqsDatabase.serve state).1
    with failure | queue
  · -- without a queue the batch fails, and so does each entry
    rw [loading] at loads
    have rejects : batch.run.run SqsDatabase.serve state = (.error failure, state) := by
      rw [isBatch, run_except_bind, loads]
    obtain ⟨unchanged, fails⟩ := sequenceOf_of_fails (missing failure loads)
    refine ⟨?_, ?_, ?_, distinct, ?_⟩
    · rw [rejects, unchanged]
    · intro response answered
      rw [rejects] at answered
      cases answered
    · intro _ _
      exact fails
    · intro response answered
      rw [rejects] at answered
      cases answered
  · rw [loading] at loads
    have runs := @run_mapM_translated _ _ _ _ _ SqsDatabase.serve items (entry queue)
      (fun item => (single item).run) (entryOutcome entryId success)
      (fun other => other.queues = state.queues) (loaded queue loads) state rfl
    have accepts : batch.run.run SqsDatabase.serve state =
        (.ok (answer (List.zipWith (entryOutcome entryId success) items
            ((sequenceOf items single).run SqsDatabase.serve state).1)),
          ((sequenceOf items single).run SqsDatabase.serve state).2) := by
      refine isBatch ▸ (succeeds_bind.mpr ⟨queue, state, loads, ?_⟩)
      rw [valid, liftExcept_ok_bind]
      exact succeeds_bind.mpr ⟨_, _, succeeds_lift.mpr runs, succeeds_pure.mpr ⟨rfl, rfl⟩⟩
    have isAnswer : ∀ response, (batch.run.run SqsDatabase.serve state).1 = .ok response →
        response = answer (List.zipWith (entryOutcome entryId success) items
          ((sequenceOf items single).run SqsDatabase.serve state).1) := by
      intro response answered
      rw [accepts] at answered
      exact (Except.ok.inj answered).symm
    refine ⟨?_, ?_, ?_, distinct, ?_⟩
    · rw [accepts]
    · intro response answered
      rw [isAnswer response answered]
      exact answers _
    · intro failure rejected
      rw [accepts] at rejected
      cases rejected
    · intro response answered
      rw [isAnswer response answered, (answers _).1, (answers _).2]
      refine (perm_successes_failures _).trans ?_
      rw [map_resultId_entryOutcome named length_sequenceOf]

end Batches

/-! ### The three batches -/

section Actions

variable {library : SqsLibrary} {request : ResolvedRequest} {state other : SqsDatabase}
  {queue : SqsQueue} {queueUrl : Text} {β : Type}
  {rest : SqsQueue → ExceptT SqsError SqsProgram β}

/-- Where there is no queue, what needs one fails. -/
theorem run_load_of_error {failure : SqsError}
    (loads : (loadQueueFromUrl library request queueUrl).run.run SqsDatabase.serve state =
      (.error failure, state)) :
    (loadQueueFromUrl library request queueUrl >>= rest).run.run SqsDatabase.serve state =
      (.error failure, state) := by
  rw [run_except_bind, loads]

/-- Where the queues are the same, the same queue is loaded. -/
theorem run_load_of_ok
    (loads : (loadQueueFromUrl library request queueUrl).run.run SqsDatabase.serve state =
      (.ok queue, state)) (same : other.queues = state.queues) :
    (loadQueueFromUrl library request queueUrl >>= rest).run.run SqsDatabase.serve other =
      (rest queue).run.run SqsDatabase.serve other := by
  rw [run_except_bind, run_loadQueueFromUrl same, loads]

/-- An entry that is done by one call. -/
theorem run_callForBatchEntry {id : Text} {call : SqsProgram (StoreResult Unit)} :
    (callForBatchEntry id call).run SqsDatabase.serve other =
      (((call.run SqsDatabase.serve other).1.mapError fun error =>
        batchErrorEntry id (SqsError.ofReceiptHandleStoreError error)).map fun _ => id,
        (call.run SqsDatabase.serve other).2) := by
  unfold callForBatchEntry
  rw [run_bind]
  rcases call.run SqsDatabase.serve other with ⟨outcome, final⟩
  cases outcome <;> rfl

/-- Deleting messages. -/
theorem deleteMessageBatch_doesAsSequence {payload : DeleteMessageBatchRequest}
    (valid : validateBatchRequest (payload.entries.map (·.id)) = .ok ()) :
    DoesAsSequence state ((deleteMessageBatchAction library).handle request payload)
      BatchResponse.successful BatchResponse.failed payload.entries (·.id)
      (fun entry => (deleteMessageAction library).checkedHandle request
        ⟨payload.queueUrl, entry.receiptHandle⟩)
      (fun entry _ => entry.id) id := by
  have isSingle (entry : DeleteMessageBatchEntry) :
      (deleteMessageAction library).checkedHandle request ⟨payload.queueUrl, entry.receiptHandle⟩ =
        (loadQueueFromUrl library request payload.queueUrl >>= fun queue =>
          (sqsCall (.deleteMessage queue.id entry.receiptHandle)).orFail
            SqsError.ofReceiptHandleStoreError) := rfl
  refine doesAsSequence
    (fun queue entry => callForBatchEntry entry.id
      (sqsCall (.deleteMessage queue.id entry.receiptHandle)))
    (fun results => ⟨successesOf results, failuresOf results⟩)
    rfl valid (fun _ => ⟨rfl, rfl⟩) (fun _ _ => rfl) ?_ ?_
  · intro failure loads entry _
    exact ⟨failure, by rw [isSingle, run_load_of_error loads]⟩
  · intro queue loads entry _ other same
    rw [isSingle, run_load_of_ok loads same, run_orFail, run_callForBatchEntry, run_sqsCall]
    refine ⟨?_, ?_⟩
    · cases (SqsDatabase.serve (.deleteMessage queue.id entry.receiptHandle) other).1 <;> rfl
    · rcases SqsDatabase.queues_serve (.deleteMessage queue.id entry.receiptHandle) other with
        kept | ⟨_, isCreate, -⟩ | ⟨_, isDelete, -⟩ | ⟨_, _, isSet, -⟩
      · exact kept.trans same
      · cases isCreate
      · cases isDelete
      · cases isSet

/-- Changing the visibility of messages. -/
theorem changeMessageVisibilityBatch_doesAsSequence {now : ℕ → Time}
    {payload : ChangeMessageVisibilityBatchRequest}
    (valid : validateBatchRequest (payload.entries.map (·.id)) = .ok ()) :
    DoesAsSequence state ((changeMessageVisibilityBatchAction library now).handle request payload)
      BatchResponse.successful BatchResponse.failed payload.entries.zipIdx (·.1.id)
      (fun entry => (changeMessageVisibilityAction library (now entry.2)).checkedHandle request
        ⟨payload.queueUrl, entry.1.receiptHandle, entry.1.visibilityTimeout⟩)
      (fun entry _ => entry.1.id) id := by
  have isSingle (entry : ChangeMessageVisibilityBatchEntry × ℕ) :
      (changeMessageVisibilityAction library (now entry.2)).checkedHandle request
          ⟨payload.queueUrl, entry.1.receiptHandle, entry.1.visibilityTimeout⟩ =
        (liftExcept (validateVisibilityTimeout entry.1.visibilityTimeout) >>= fun _ =>
          loadQueueFromUrl library request payload.queueUrl >>= fun queue =>
            liftExcept (validateVisibilityTimeout entry.1.visibilityTimeout) >>= fun _ =>
              (sqsCall (.setMessageVisibleAt queue.id entry.1.receiptHandle
                (now entry.2 + seconds entry.1.visibilityTimeout))).orFail
                  SqsError.ofReceiptHandleStoreError) := rfl
  have ids : payload.entries.zipIdx.map (fun entry => entry.1.id) = payload.entries.map (·.id) := by
    conv_rhs => rw [← List.zipIdx_map_fst 0 payload.entries, List.map_map]
    rfl
  refine doesAsSequence (fun queue entry => changeBatchEntry (now entry.2) queue entry.1)
    (fun results => ⟨successesOf results, failuresOf results⟩)
    (by rw [ids]; rfl) (by rw [ids]; exact valid) (fun _ => ⟨rfl, rfl⟩) (fun _ _ => rfl) ?_ ?_
  · intro failure loads entry _
    rw [isSingle]
    cases checked : validateVisibilityTimeout entry.1.visibilityTimeout with
    | error outOfRange => exact ⟨outOfRange, rfl⟩
    | ok =>
        rw [liftExcept_ok_bind]
        exact ⟨failure, run_load_of_error loads⟩
  · intro queue loads entry _ other same
    rw [isSingle]
    unfold changeBatchEntry
    cases checked : validateVisibilityTimeout entry.1.visibilityTimeout with
    | error outOfRange =>
        -- a timeout out of range is the fault of the sender, under the code of its error
        refine ⟨?_, same⟩
        unfold validateVisibilityTimeout at checked
        split_ifs at checked
        obtain rfl := Except.error.inj checked
        rfl
    | ok =>
        simp only [liftExcept_ok_bind]
        rw [run_load_of_ok loads same, run_orFail, run_callForBatchEntry, run_sqsCall]
        refine ⟨?_, ?_⟩
        · cases (SqsDatabase.serve (.setMessageVisibleAt queue.id entry.1.receiptHandle
            (now entry.2 + seconds entry.1.visibilityTimeout)) other).1 <;> rfl
        · rcases SqsDatabase.queues_serve (.setMessageVisibleAt queue.id entry.1.receiptHandle
            (now entry.2 + seconds entry.1.visibilityTimeout)) other with
            kept | ⟨_, isCreate, -⟩ | ⟨_, isDelete, -⟩ | ⟨_, _, isSet, -⟩
          · exact kept.trans same
          · cases isCreate
          · cases isDelete
          · cases isSet

/-- Sending messages. -/
theorem sendMessageBatch_doesAsSequence {messageIds : ℕ → Text} {payload : SendMessageBatchRequest}
    (loads : (loadQueueFromUrl library request payload.queueUrl).run.run SqsDatabase.serve state =
      (.ok queue, state))
    (valid : validateSendMessageBatch queue payload = .ok ()) :
    DoesAsSequence state ((sendMessageBatchAction library messageIds).handle request payload)
      SendMessageBatchResponse.successful SendMessageBatchResponse.failed payload.entries.zipIdx
      (·.1.id)
      (fun entry => (sendMessageAction library (messageIds entry.2)).checkedHandle request
        { entry.1.toMessageContent with queueUrl := payload.queueUrl })
      (fun entry response => { response with id := entry.1.id }) (·.id) := by
  obtain ⟨_, wellFormed, each⟩ := bind_eq_ok.mp valid
  have ids : payload.entries.zipIdx.map (fun entry => entry.1.id) = payload.entries.map (·.id) := by
    conv_rhs => rw [← List.zipIdx_map_fst 0 payload.entries, List.map_map]
    rfl
  refine doesAsSequence
    (fun queue entry => sendBatchEntry library request.date queue (messageIds entry.2) entry.1)
    (fun results => ⟨successesOf results, failuresOf results⟩)
    (by rw [ids]; rfl) (by rw [ids]; exact wellFormed) (fun _ => ⟨rfl, rfl⟩) (fun _ _ => rfl) ?_ ?_
  · intro failure fails
    rw [loads] at fails
    cases fails
  · intro found finds entry member other same
    obtain rfl : queue = found := by
      rw [loads] at finds
      exact Except.ok.inj (congrArg Prod.fst finds)
    have passes := forM_eq_ok.mp each entry.1 (List.fst_mem_of_mem_zipIdx member)
    simp only [validateSendMessageBatchEntry, bind_eq_ok] at passes
    obtain ⟨_, -, delaySeconds, resolved, _, bodyChecked, attributesChecked⟩ := passes
    have singlePasses : validateSendMessage queue
        { entry.1.toMessageContent with queueUrl := payload.queueUrl } = .ok () := by
      simp only [validateSendMessage, bodyChecked, resolved, ok_bind]
      exact attributesChecked
    have isSingle : ((sendMessageAction library (messageIds entry.2)).checkedHandle request
        { entry.1.toMessageContent with queueUrl := payload.queueUrl }).run.run SqsDatabase.serve
          other =
        (liftExcept (prepareMessage library request.date queue (messageIds entry.2)
            entry.1.toMessageContent delaySeconds) >>= fun prepared =>
          (sqsCall (.sendMessage prepared.message)).orFail SqsError.internal >>= fun _ =>
            (pure prepared.response : ExceptT SqsError SqsProgram _)).run.run SqsDatabase.serve
          other := by
      show ((loadQueueFromUrl library request payload.queueUrl >>= fun queue =>
          liftExcept (validateSendMessage queue
            { entry.1.toMessageContent with queueUrl := payload.queueUrl })) >>= fun _ =>
          (loadQueueFromUrl library request payload.queueUrl >>= _)).run.run SqsDatabase.serve
            other = _
      rw [run_except_bind, run_load_of_ok loads same, run_liftExcept, singlePasses]
      dsimp only
      rw [run_load_of_ok loads same, bodyChecked, liftExcept_ok_bind, resolved, liftExcept_ok_bind]
    rw [isSingle]
    have isEntry : sendBatchEntry library request.date queue (messageIds entry.2) entry.1 =
        (liftExcept ((prepareMessage library request.date queue (messageIds entry.2)
            entry.1.toMessageContent delaySeconds).mapError (batchErrorEntry entry.1.id)) >>=
          fun prepared => (sqsCall (.sendMessage prepared.message)).orFail (fun error =>
            batchErrorEntry entry.1.id (SqsError.internal error)) >>= fun _ =>
            (pure { prepared.response with id := entry.1.id } :
              ExceptT BatchResultErrorEntry SqsProgram _)).run := by
      unfold sendBatchEntry prepareBatchEntry
      rw [resolved, ok_bind, bodyChecked, ok_bind]
    rw [isEntry]
    cases prepareMessage library request.date queue (messageIds entry.2) entry.1.toMessageContent
        delaySeconds with
    | error failure => exact ⟨rfl, same⟩
    | ok prepared =>
        simp only [Except.mapError, liftExcept_ok_bind]
        rw [run_except_bind, run_except_bind, run_orFail, run_orFail, run_sqsCall]
        refine ⟨?_, ?_⟩
        · rcases SqsDatabase.serve (.sendMessage prepared.message) other with ⟨outcome, final⟩
          cases outcome <;> rfl
        · rcases SqsDatabase.queues_serve (.sendMessage prepared.message) other with
            kept | ⟨_, isCreate, -⟩ | ⟨_, isDelete, -⟩ | ⟨_, _, isSet, -⟩
          · revert kept
            rcases SqsDatabase.serve (.sendMessage prepared.message) other with ⟨outcome, final⟩
            intro kept
            cases outcome <;> exact kept.trans same
          · cases isCreate
          · cases isDelete
          · cases isSet

/-- **The three batches are the sequences of their entries**, for every request that passes
its check and every store. -/
theorem batches_are_sequences (library : SqsLibrary) (request : ResolvedRequest)
    (state : SqsDatabase) :
    (∀ payload : DeleteMessageBatchRequest,
      Succeeds SqsDatabase.serve ((deleteMessageBatchAction library).validate request payload)
        state () state →
      DoesAsSequence state ((deleteMessageBatchAction library).handle request payload)
        BatchResponse.successful BatchResponse.failed payload.entries (·.id)
        (fun entry => (deleteMessageAction library).checkedHandle request
          ⟨payload.queueUrl, entry.receiptHandle⟩)
        (fun entry _ => entry.id) id) ∧
    (∀ (now : ℕ → Time) (payload : ChangeMessageVisibilityBatchRequest),
      Succeeds SqsDatabase.serve
        ((changeMessageVisibilityBatchAction library now).validate request payload) state () state →
      DoesAsSequence state ((changeMessageVisibilityBatchAction library now).handle request payload)
        BatchResponse.successful BatchResponse.failed payload.entries.zipIdx (·.1.id)
        (fun entry => (changeMessageVisibilityAction library (now entry.2)).checkedHandle request
          ⟨payload.queueUrl, entry.1.receiptHandle, entry.1.visibilityTimeout⟩)
        (fun entry _ => entry.1.id) id) ∧
    ∀ (messageIds : ℕ → Text) (payload : SendMessageBatchRequest),
      Succeeds SqsDatabase.serve
        ((sendMessageBatchAction library messageIds).validate request payload) state () state →
      DoesAsSequence state ((sendMessageBatchAction library messageIds).handle request payload)
        SendMessageBatchResponse.successful SendMessageBatchResponse.failed payload.entries.zipIdx
        (·.1.id)
        (fun entry => (sendMessageAction library (messageIds entry.2)).checkedHandle request
          { entry.1.toMessageContent with queueUrl := payload.queueUrl })
        (fun entry response => { response with id := entry.1.id }) (·.id) := by
  refine ⟨fun payload accepted => ?_, fun now payload accepted => ?_, fun messageIds payload accepted => ?_⟩
  · have valid := (succeeds_liftExcept.mp accepted).1
    obtain ⟨_, wellFormed, -⟩ := bind_eq_ok.mp valid
    exact deleteMessageBatch_doesAsSequence wellFormed
  · have valid := (succeeds_liftExcept.mp accepted).1
    obtain ⟨_, wellFormed, -⟩ := bind_eq_ok.mp valid
    exact changeMessageVisibilityBatch_doesAsSequence wellFormed
  · obtain ⟨queue, between, loads, checked⟩ := succeeds_bind.mp accepted
    obtain ⟨valid, rfl⟩ := succeeds_liftExcept.mp checked
    exact sendMessageBatch_doesAsSequence loads valid

end Actions

/-! ### A handle that is named twice -/

/-- A message that is held under a handle. -/
def heldRow : SqsMessageRow :=
  { SqsDatabase.newMessageRow (helloMessage 0) 1 with
    receiptHandle := some "handle", receiveCount := 1, firstReceivedAt := some 0 }

/-- A store with this message. -/
def heldStore : SqsDatabase :=
  { ordersStore with messages := ⟨[heldRow], List.pairwise_singleton _ _⟩ }

/-- A batch that deletes it twice. -/
def deletedTwice : DeleteMessageBatchRequest where
  queueUrl := "http://localhost:4566/000000000000/orders"
  entries := [⟨"first", "handle"⟩, ⟨"second", "handle"⟩]

/-- The second entry fails, as a second request would. -/
theorem batches_are_sequences_deletedTwice :
    ∃ response final,
      ((deleteMessageBatchAction sampleLibrary).handle (userRequest 0 []) deletedTwice).run.run
        SqsDatabase.serve heldStore = (.ok response, final) ∧
      response.successful = ["first"] ∧ response.failed.map BatchResultErrorEntry.id = ["second"] ∧
      ((sequenceOf deletedTwice.entries fun entry =>
        (deleteMessageAction sampleLibrary).checkedHandle (userRequest 0 [])
          ⟨deletedTwice.queueUrl, entry.receiptHandle⟩).run SqsDatabase.serve heldStore).2 = final := by
  have accepted : Succeeds SqsDatabase.serve
      ((deleteMessageBatchAction sampleLibrary).validate (userRequest 0 []) deletedTwice)
      heldStore () heldStore := by
    rfl
  have agrees := (batches_are_sequences sampleLibrary (userRequest 0 []) heldStore).1 deletedTwice
    accepted
  refine ⟨_, _, rfl, ?_, ?_, agrees.store.symm⟩
  · rfl
  · rfl

end Hiraeth
