import Hiraeth.Sqs.QueueCreation
import Hiraeth.Store.TagStatements

/-!
# Creations that fail

A queue is created by one call and tagged by another, which executes a statement for every tag.
Where one of them fails the request fails, but what was done stays: the queue is there, with the
tags that were written until then.  Asking again does not help.  The queue is found to be what is
asked for, success is answered, and the missing tags stay missing.

## Main definitions

* `CreatedPartly` — what a creation leaves

## Main results

* `failed_creation_leaves_part` — every creation, whatever fails
-/

namespace Hiraeth

open Interaction Program

/-- **A queue was created, with some of its tags.**  Its name was free, nothing else has changed,
and asking for the same queue again is answered with success and changes nothing. -/
structure CreatedPartly (library : SqsLibrary) (now : Time) (request : ResolvedRequest)
    (payload : CreateQueueRequest) (count : ℕ) (database final : SqsDatabase) : Prop where
  free : existingQueue database request payload.queueName = none
  created : ∃ values, validateCreateQueue library payload = .ok values ∧
    final = database.withQueue (newQueue now request payload.queueName values)
      (payload.tags.entries.take count)
  again : ∀ later, Succeeds SqsDatabase.serve (handleCreateQueue library later request payload)
    final (createQueueResponse request request.accountId payload.queueName) final

/-- Neither the number of a queue nor its times belong to its configuration. -/
theorem queueConfigurationMatches_times (queue : SqsQueue) (id id' : RowId)
    (createdAt updatedAt createdAt' updatedAt' : Time) :
    queueConfigurationMatches { queue with id, createdAt, updatedAt }
      { queue with id := id', createdAt := createdAt', updatedAt := updatedAt' } = true := by
  simp only [queueConfigurationMatches, decide_true, Bool.and_self]

section Implemented

variable {I J : Interface} {S α β ε ε' : Type} {serve : Serve J S}
  {implementation : ∀ request : I.Call, Program J (I.Answer request)}
  {program : Program I (Except ε α)} {translate : ε → ε'} {rest : α → ExceptT ε' (Program I) β}
  {state after : S}

/-- A call that does not fail, and what comes after it, where calls are implemented. -/
theorem run_refine_orFail_ok {value : α}
    (ran : (program.refine implementation).run serve state = (.ok value, after)) :
    ((program.orFail translate >>= rest).run.refine implementation).run serve state =
      ((rest value).run.refine implementation).run serve after := by
  rw [ExceptT.run_bind, orFail, ExceptT.run_mk, bind_assoc, refine_bind, run_bind, ran]
  rfl

/-- A call that fails. -/
theorem run_refine_orFail_error {failure : ε}
    (ran : (program.refine implementation).run serve state = (.error failure, after)) :
    ((program.orFail translate >>= rest).run.refine implementation).run serve state =
      (.error (translate failure), after) := by
  rw [ExceptT.run_bind, orFail, ExceptT.run_mk, bind_assoc, refine_bind, run_bind, ran]
  rfl

/-- A call whose failure is looked at. -/
theorem run_refine_lift_bind {γ : Type} {program : Program I γ}
    {rest : γ → ExceptT ε (Program I) β} {answer : γ}
    (ran : (program.refine implementation).run serve state = (answer, after)) :
    ((ExceptT.lift program >>= rest).run.refine implementation).run serve state =
      ((rest answer).run.refine implementation).run serve after := by
  rw [ExceptT.run_bind, ExceptT.run_lift, map_eq_pure_bind, bind_assoc, refine_bind, run_bind, ran]
  rfl

end Implemented

section Requests

variable {library : SqsLibrary} {now : Time} {request : ResolvedRequest}
  {payload : CreateQueueRequest} {values : QueueAttributeValues} {database : SqsDatabase}
  {plan : ℕ → Option StoreError} {made : ℕ}

/-- A queue has the configuration that it was created with. -/
theorem createdPartly_withQueue (checked : validateCreateQueue library payload = .ok values)
    (free : existingQueue database request payload.queueName = none) (count : ℕ) :
    CreatedPartly library now request payload count database
      (database.withQueue (newQueue now request payload.queueName values)
        (payload.tags.entries.take count)) where
  free := free
  created := ⟨values, checked, rfl⟩
  again later := by
    refine succeeds_handleCreateQueue_again checked (SqsDatabase.getQueue_withQueue free) ?_
    exact queueConfigurationMatches_times (newQueue now request payload.queueName values) ..

/-- A call that is one statement, and is served. -/
theorem run_refine_call_none {call : SqsCall}
    (single : sqsImplementation call = @Program.perform sqsStatements (.inl call))
    (fine : plan made = none) :
    ((sqsCall call).refine sqsImplementation).run (failingStatements plan) (database, made) =
      ((SqsDatabase.serve call database).1, (SqsDatabase.serve call database).2, made + 1) := by
  have statement : (sqsCall call).refine sqsImplementation =
      @Program.perform sqsStatements (.inl call) := by
    rw [← single]
    exact @refine_perform sqsStore sqsStatements sqsImplementation call
  rw [statement]
  show failingStatements plan (.inl call) (database, made) = _
  exact failingAt_none fine

/-- A call that is one statement, and fails. -/
theorem run_refine_call_some {call : SqsCall} {fault : StoreError}
    (single : sqsImplementation call = @Program.perform sqsStatements (.inl call))
    (fails : plan made = some fault) :
    ((sqsCall call).refine sqsImplementation).run (failingStatements plan) (database, made) =
      (call.failed fault, database, made + 1) := by
  have statement : (sqsCall call).refine sqsImplementation =
      @Program.perform sqsStatements (.inl call) := by
    rw [← single]
    exact @refine_perform sqsStore sqsStatements sqsImplementation call
  rw [statement]
  show failingStatements plan (.inl call) (database, made) = _
  exact failingAt_some fails

/-- The tags of the queue that was just created, whatever fails. -/
theorem run_tagCreatedQueue (free : existingQueue database request payload.queueName = none) :
    ∃ outcome count after,
      ((tagCreatedQueue request payload).run.refine sqsImplementation).run
          (failingStatements plan)
          (database.withQueue (newQueue now request payload.queueName values) [], made) =
        (outcome, database.withQueue (newQueue now request payload.queueName values)
          (payload.tags.entries.take count), after) ∧
      (outcome = .ok () → payload.tags.entries.take count = payload.tags.entries) := by
  unfold tagCreatedQueue
  by_cases untagged : payload.tags.isEmpty
  · rw [if_pos untagged]
    have none : payload.tags.entries = [] := List.isEmpty_iff.mp untagged
    exact ⟨.ok (), 0, made, rfl, fun _ => none.symm⟩
  rw [if_neg untagged]
  -- the queue is looked up
  cases served : plan made with
  | some fault =>
      refine ⟨.error (SqsError.internal fault), 0, made + 1, run_refine_orFail_error ?_, nofun⟩
      exact run_refine_call_some rfl served
  | none =>
      have looked : ((sqsCall (.getQueue payload.queueName request.region
          request.authContext.principal.accountId)).refine sqsImplementation).run
            (failingStatements plan)
            (database.withQueue (newQueue now request payload.queueName values) [], made) =
          (.ok (some (database.newQueueRow (newQueue now request payload.queueName values)
            database.nextQueueId)),
            database.withQueue (newQueue now request payload.queueName values) [], made + 1) := by
        refine (run_refine_call_none rfl served).trans ?_
        exact congrArg (fun found => (Except.ok found, _, _)) (SqsDatabase.getQueue_withQueue free)
      rw [run_refine_orFail_ok looked]
      -- and tagged
      obtain ⟨outcome, count, after, executed, -, whole, -⟩ := @run_tagQueueStatements plan
        database.nextQueueId payload.tags.entries
        (database.withQueue (newQueue now request payload.queueName values) []) (made + 1)
      refine ⟨outcome.mapError SqsError.ofStoreError, count, after, ?_, fun ok =>
        whole (mapError_eq_ok.mp ok)⟩
      have single : (sqsCall (.tagQueue database.nextQueueId payload.tags.entries)).refine
          sqsImplementation =
            (tagQueueStatements database.nextQueueId payload.tags.entries).run := refine_perform _
      show (((sqsCall (.tagQueue database.nextQueueId payload.tags.entries)) >>= fun outcome =>
        done (outcome.mapError SqsError.ofStoreError)).refine sqsImplementation).run _ _ = _
      rw [refine_bind, run_bind, single, executed, ← foldl_putTag]
      rfl

/-- What is done when the call that creates the queue has not created it. -/
def uncreated (request : ResolvedRequest) (payload : CreateQueueRequest) (queue : SqsQueue) :
    StoreError → ExceptT SqsError SqsProgram CreateQueueResponse
  | .conflict _ => confirmExistingQueue request payload queue
  | error => throw (SqsError.internal error)

theorem onlyReads_uncreated (queue : SqsQueue) (error : StoreError) :
    @OnlyCalls sqsStore _ _ SqsCall.ReadsTags (uncreated request payload queue error) := by
  cases error with
  | conflict message =>
      refine (onlyCalls_orFail (allCalls_perform.mpr trivial)).bind fun found => ?_
      cases found with
      | none => exact onlyCalls_throw
      | some existing => exact iteInduction (fun _ => onlyCalls_pure) fun _ => onlyCalls_throw
  | notFound message => exact onlyCalls_throw
  | storageFailure message => exact onlyCalls_throw

/-- Nothing is changed by then, and nothing is changed. -/
theorem run_uncreated (queue : SqsQueue) (error : StoreError) :
    ∃ outcome after, ((uncreated request payload queue error).run.refine sqsImplementation).run
      (failingStatements plan) (database, made) = (outcome, database, after) :=
  ⟨_, _, Prod.ext rfl (Prod.ext (run_refine_reads (onlyReads_uncreated queue error)) rfl)⟩

/-- The steps of the handler, once its checks have passed. -/
theorem handleCreateQueue_eq (checked : validateCreateQueue library payload = .ok values) :
    handleCreateQueue library now request payload =
      ExceptT.lift (sqsCall (.createQueue (newQueue now request payload.queueName values))) >>=
        fun created => match created with
          | .ok () => do
              tagCreatedQueue request payload
              return createQueueResponse request request.accountId payload.queueName
          | .error error =>
              uncreated request payload (newQueue now request payload.queueName values) error := by
  unfold handleCreateQueue
  rw [checked, liftExcept_ok_bind]
  dsimp only
  congr 1
  funext created
  cases created with
  | ok _ => rfl
  | error error => cases error <;> rfl

/-- **What a creation has done**, whatever fails. -/
theorem run_handleCreateQueue :
    ∃ outcome final after,
      ((handleCreateQueue library now request payload).run.refine sqsImplementation).run
          (failingStatements plan) (database, made) = (outcome, final, after) ∧
      (final = database ∨ ∃ count,
        CreatedPartly library now request payload count database final ∧
          ((∃ response, outcome = .ok response) →
            payload.tags.entries.take count = payload.tags.entries)) := by
  cases checked : validateCreateQueue library payload with
  | error failure =>
      refine ⟨.error failure, database, made, ?_, .inl rfl⟩
      rw [handleCreateQueue, checked]
      rfl
  | ok values =>
      rw [handleCreateQueue_eq checked]
      cases served : plan made with
      | some fault =>
          rw [run_refine_lift_bind (run_refine_call_some rfl served)]
          obtain ⟨outcome, after, ran⟩ := run_uncreated
            (newQueue now request payload.queueName values) fault
          exact ⟨outcome, database, after, ran, .inl rfl⟩
      | none =>
          have called := @run_refine_call_none database plan made
            (.createQueue (newQueue now request payload.queueName values)) rfl served
          have serves : SqsDatabase.serve
              (.createQueue (newQueue now request payload.queueName values)) database =
                database.createQueue (newQueue now request payload.queueName values) := rfl
          rw [serves] at called
          cases found : existingQueue database request payload.queueName with
          | some existing =>
              rw [SqsDatabase.createQueue_of_taken found] at called
              rw [run_refine_lift_bind called]
              obtain ⟨outcome, after, ran⟩ := run_uncreated
                (newQueue now request payload.queueName values) _
              exact ⟨outcome, database, after, ran, .inl rfl⟩
          | none =>
              rw [SqsDatabase.createQueue_of_free found] at called
              rw [run_refine_lift_bind called]
              obtain ⟨outcome, count, after, tagged, whole⟩ :=
                @run_tagCreatedQueue now request payload values database plan (made + 1) found
              dsimp only
              rw [ExceptT.run_bind, refine_bind, run_bind, tagged]
              refine ⟨_, _, _, rfl, .inr ⟨count, ?_, ?_⟩⟩
              · cases outcome with
                | ok _ => exact createdPartly_withQueue checked found count
                | error error => exact createdPartly_withQueue checked found count
              · rintro ⟨response, isResponse⟩
                cases outcome with
                | ok _ => exact whole rfl
                | error error => cases isResponse

end Requests

end Hiraeth
