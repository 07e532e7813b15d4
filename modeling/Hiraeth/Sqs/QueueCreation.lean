import Hiraeth.Sqs.QueueDescription

/-!
# Creating a queue

What becomes of a request to create a queue: when no queue has the name, the queue
is there afterwards with the attributes and the tags of the request; when one has
it, the two are compared.  A queue that is asked for by its own description is
therefore left as it is, and the same description makes an equal queue elsewhere.

## Main definitions

* `SqsDatabase.withQueue` — the store with one queue more
* `Creates` — the request creates the queue, or finds it as it is

## Main results

* `succeeds_handleCreateQueue` — a queue whose name is free
* `succeeds_handleCreateQueue_again` — a queue that is there already
* `createQueue_idempotent` — a queue is created again by its own description
-/

namespace Hiraeth

open Interaction Program

namespace SqsDatabase

variable {database : SqsDatabase}

/-- The number that the next queue gets. -/
abbrev nextQueueId (database : SqsDatabase) : RowId :=
  database.queues.nextId

/-- The store with one queue more, and with its tags. -/
def withQueue (database : SqsDatabase) (queue : SqsQueue) (tags : List (Text × Text)) :
    SqsDatabase :=
  { database.tick with
    queues := database.queues.insert (database.newQueueRow queue) (database.newQueueRow_id queue)
    tags := tags.foldl (putTag database.nextQueueId) database.tags }

/-- The queue that was added is found by its name. -/
theorem getQueue_withQueue {queue : SqsQueue} {tags : List (Text × Text)}
    (free : database.getQueue queue.name queue.region queue.accountId = none) :
    (database.withQueue queue tags).getQueue queue.name queue.region queue.accountId =
      some (database.newQueueRow queue database.nextQueueId) := by
  unfold getQueue RowTable.find at free ⊢
  show (database.queues.rows ++ [_]).find? _ = _
  rw [List.find?_append, free]
  simp [newQueueRow]

/-- Only the name that was added is found in addition. -/
theorem createQueue_of_free {queue : SqsQueue}
    (free : database.getQueue queue.name queue.region queue.accountId = none) :
    database.createQueue queue = (.ok (), database.withQueue queue []) := by
  rw [createQueue, free]
  rfl

theorem createQueue_of_taken {queue existing : SqsQueue}
    (taken : database.getQueue queue.name queue.region queue.accountId = some existing) :
    database.createQueue queue =
      (.error (uniqueViolation "sqs_queues.name, sqs_queues.region, sqs_queues.account_id"),
        database) := by
  rw [createQueue, taken]
  rfl

theorem tagQueue_withQueue {queue : SqsQueue} {tags : List (Text × Text)} :
    (database.withQueue queue []).tagQueue database.nextQueueId tags =
      (.ok (), database.withQueue queue tags) := by
  have there : (database.withQueue queue []).hasQueue database.nextQueueId = true := by
    refine List.any_eq_true.mpr ⟨database.newQueueRow queue database.nextQueueId, ?_, ?_⟩
    · exact List.mem_append_right _ List.mem_cons_self
    · exact decide_eq_true rfl
  rw [tagQueue, if_pos there]
  rfl

end SqsDatabase

section Requests

variable {library : SqsLibrary} {request : ResolvedRequest} {now : Time}
  {payload : CreateQueueRequest} {values : QueueAttributeValues} {state : SqsDatabase}

/-- The queue that the name of the request already has. -/
abbrev existingQueue (state : SqsDatabase) (request : ResolvedRequest) (name : Text) :
    Option SqsQueue :=
  state.getQueue name request.region request.accountId

/-- **A queue whose name is free is created**, with its tags. -/
theorem succeeds_handleCreateQueue (checked : validateCreateQueue library payload = .ok values)
    (free : existingQueue state request payload.queueName = none) :
    Succeeds SqsDatabase.serve (handleCreateQueue library now request payload) state
      (createQueueResponse request request.accountId payload.queueName)
      (state.withQueue (newQueue now request payload.queueName values) payload.tags.entries) := by
  simp only [handleCreateQueue, succeeds_bind, succeeds_liftExcept, succeeds_lift]
  refine ⟨values, state, ⟨checked, rfl⟩, _, _, SqsDatabase.createQueue_of_free free, ?_⟩
  simp only [succeeds_bind, succeeds_pure]
  refine ⟨(), _, ?_, trivial, rfl⟩
  unfold tagCreatedQueue
  split
  · rename_i untagged
    have none : payload.tags.entries = [] := List.isEmpty_iff.mp untagged
    rw [none]
    exact succeeds_pure.mpr ⟨rfl, rfl⟩
  · simp only [succeeds_bind, succeeds_orFail]
    refine ⟨_, _, congrArg (fun found => (Except.ok found, _))
      (SqsDatabase.getQueue_withQueue free), ?_⟩
    exact succeeds_orFail.mpr SqsDatabase.tagQueue_withQueue

/-- **A queue that is there already is compared**: when it has the attributes that
are asked for, its URL is answered and nothing changes. -/
theorem succeeds_handleCreateQueue_again
    (checked : validateCreateQueue library payload = .ok values) {existing : SqsQueue}
    (found : existingQueue state request payload.queueName = some existing)
    (same : queueConfigurationMatches existing
      (newQueue now request payload.queueName values) = true) :
    Succeeds SqsDatabase.serve (handleCreateQueue library now request payload) state
      (createQueueResponse request request.accountId payload.queueName) state := by
  simp only [handleCreateQueue, succeeds_bind, succeeds_liftExcept, succeeds_lift]
  refine ⟨values, state, ⟨checked, rfl⟩, _, _, SqsDatabase.createQueue_of_taken found, ?_⟩
  simp only [uniqueViolation, confirmExistingQueue, succeeds_bind, succeeds_orFail]
  refine ⟨some existing, state, congrArg (fun found => (Except.ok found, state)) found, ?_⟩
  simp only [same, if_true]
  exact succeeds_pure.mpr ⟨rfl, rfl⟩

end Requests

/-! ### A description is accepted again -/

section Again

variable {library : SqsLibrary} {queue : SqsQueue}

/-- A period is no character of a name. -/
theorem not_suffix_of_letters {stem : Text} (letters : ∀ c ∈ stem, isNameChar c = true) :
    ¬ (".fifo" : Text) <:+ stem := by
  rintro ⟨rest, rfl⟩
  exact absurd (letters '.' (List.mem_append_right _ List.mem_cons_self)) (by decide)

/-- **A valid name is accepted.** -/
theorem validateQueueName_of_valid {name : Text} {fifoQueue : Bool} (valid : ValidQueueName name)
    (suffix : (".fifo" : Text) <:+ name ↔ fifoQueue = true) :
    validateQueueName name fifoQueue = .ok () := by
  obtain ⟨nonempty, short, stem, shape, letters⟩ := valid
  have length : ¬ (name = [] ∨ 80 < (Text.utf8 name).length) := by
    rintro (empty | long)
    · exact nonempty empty
    · omega
  have isStem : (stripSuffix ".fifo" name).getD name = stem := by
    rcases shape with rfl | rfl
    · cases stripped : stripSuffix ".fifo" name with
      | none => rfl
      | some rest =>
          exact absurd ⟨rest, (stripSuffix_eq_some.mp stripped).symm⟩ (not_suffix_of_letters letters)
    · rw [stripSuffix_eq_some.mpr rfl]
      rfl
  have allLetters : stem.all isNameChar = true := List.all_eq_true.mpr letters
  have isFifo : (stripSuffix ".fifo" name).isSome = fifoQueue := by
    rw [Bool.eq_iff_iff, isSome_stripSuffix, suffix]
  rw [validateQueueName, if_neg length, isStem, isFifo, allLetters]
  cases fifoQueue <;> rfl

/-- What a queue asks for when it is created by its own description. -/
theorem validateCreateQueue_description (describable : Describable library.json queue) :
    validateCreateQueue library ⟨queue.name, queue.description, .empty⟩ = .ok queue.values := by
  have accepted := fromAttributeMap_of_describes describes_description describable
  have named : validateQueueName queue.name queue.values.fifoQueue = .ok () := by
    refine validateQueueName_of_valid describable.name (describable.suffix.trans ?_)
    exact decide_eq_true_iff.symm
  simp only [validateCreateQueue, accepted, ok_bind, named]
  rfl

/-- The queue that is made from a description has the same description. -/
theorem description_newQueue {now : Time} {request : ResolvedRequest} {name : Text}
    (queueType : queue.queueType = ("standard" : Text) ∨ queue.queueType = ("fifo" : Text))
    {state : SqsDatabase} {id : RowId} :
    (state.newQueueRow (newQueue now request name queue.values) id).description =
      queue.description := by
  have sameType : (if queue.values.fifoQueue then ("fifo" : Text) else ("standard" : Text)) =
      queue.queueType := queueType_values queueType
  have sameColumns : { queue with
      id := id, name := name, region := request.region, accountId := request.accountId
      createdAt := state.now, updatedAt := now } =
      state.newQueueRow (newQueue now request name queue.values) id := by
    unfold SqsDatabase.newQueueRow newQueue
    rw [sameType]
    rfl
  rw [← sameColumns]
  rfl

/-- **The request creates the queue, or finds it as it is**: it passes the check, and
its answer is the URL. -/
def Creates (library : SqsLibrary) (now : Time) (request : ResolvedRequest) (name : Text)
    (state final : SqsDatabase) : Prop :=
  Succeeds SqsDatabase.serve ((createQueueAction library now).adaptedValidate request) state ()
      state ∧
    Succeeds SqsDatabase.serve ((createQueueAction library now).adaptedHandle request) state
      (createQueueResponse request request.accountId name) final

/-- The steps of a request whose payload is known. -/
theorem creates_of_handle {now : Time} {request : ResolvedRequest} {payload : CreateQueueRequest}
    {values : QueueAttributeValues} {state final : SqsDatabase}
    (parsed : parseSqsPayload library decodeCreateQueueRequest request.request = .ok payload)
    (checked : validateCreateQueue library payload = .ok values)
    (handles : Succeeds SqsDatabase.serve (handleCreateQueue library now request payload) state
      (createQueueResponse request request.accountId payload.queueName) final) :
    Creates library now request payload.queueName state final := by
  constructor
  · refine succeeds_bind.mpr ⟨payload, state, succeeds_liftExcept.mpr ⟨parsed, rfl⟩, ?_⟩
    exact succeeds_bind.mpr ⟨values, state, succeeds_liftExcept.mpr ⟨checked, rfl⟩,
      succeeds_pure.mpr ⟨rfl, rfl⟩⟩
  · exact succeeds_bind.mpr ⟨payload, state, succeeds_liftExcept.mpr ⟨parsed, rfl⟩, handles⟩

/-- A request for all attributes of a queue, and what it is answered with, as far as
it can be given when a queue is created. -/
def ReportsQueue (library : SqsLibrary) (request : ResolvedRequest)
    (payload : GetQueueAttributesRequest) (state : SqsDatabase) (restricted : AttributeMap) :
    Prop :=
  ∃ reported final, Succeeds SqsDatabase.serve
      ((getQueueAttributesAction library).handle request payload) state reported final ∧
    restricted = reported.filter fun name _ => isCreateAttribute name

/-- A request for all attributes of a queue. -/
structure AsksFor (library : SqsLibrary) (request : ResolvedRequest)
    (payload : GetQueueAttributesRequest) (state : SqsDatabase) (queue : SqsQueue) : Prop where
  all : ("All" : Text) ∈ payload.attributeNames
  loads : Succeeds SqsDatabase.serve (loadQueueFromUrl library request payload.queueUrl) state queue
    state

/-- **The report of a queue is its description.** -/
theorem reportsQueue_iff {state : SqsDatabase} {asks : ResolvedRequest}
    {payload : GetQueueAttributesRequest} (asked : AsksFor library asks payload state queue)
    {restricted : AttributeMap} :
    ReportsQueue library asks payload state restricted ↔ restricted = queue.description := by
  constructor
  · rintro ⟨reported, final, handles, rfl⟩
    obtain ⟨found, between, loaded, collects⟩ := succeeds_bind.mp handles
    obtain ⟨same, rfl⟩ := Prod.mk.inj (asked.loads.symm.trans loaded)
    obtain rfl := Except.ok.inj same
    exact filter_reported asked.all collects
  · rintro rfl
    obtain ⟨reported, final, collects⟩ :=
      exists_collectQueueAttributes queue payload.attributeNames state
    exact ⟨reported, final, succeeds_bind.mpr ⟨queue, state, asked.loads, collects⟩,
      (filter_reported asked.all collects).symm⟩

/-- **A queue is created again by its own description**, in every state that requests
and forms reach together: where the queue is, nothing changes and its URL is
answered; under the same name elsewhere, a queue is created that is reported
alike. -/
theorem createQueue_idempotent {ι : Type} [DecidableEq ι] (reads : ReadsEmptyObject library.json)
    {tasks : ι → SqsTask} {start config : Config sqsStore Unit ι SqsDatabase}
    (begins : ∀ thread, start.threads thread = (tasks thread).program library)
    (describable : ∀ queue ∈ start.shared.queues.rows, Describable library.json queue)
    (unique : start.shared.queues.UniqueOn SqsDatabase.identity)
    (reachable : Reachable SqsDatabase.serve (fun _ _ => True) start config)
    (isRow : queue ∈ config.shared.queues.rows) {asks : ResolvedRequest}
    {question : GetQueueAttributesRequest}
    (asked : AsksFor library asks question config.shared queue) {restricted : AttributeMap}
    (reports : ReportsQueue library asks question config.shared restricted) {now : Time}
    {request : ResolvedRequest}
    (parsed : parseSqsPayload library decodeCreateQueueRequest request.request =
      .ok ⟨queue.name, restricted, .empty⟩) :
    (request.region = queue.region → request.accountId = queue.accountId →
      Creates library now request queue.name config.shared config.shared) ∧
    (existingQueue config.shared request queue.name = none →
      ∃ final created, Creates library now request queue.name config.shared final ∧
        existingQueue final request queue.name = some created ∧
        ∀ {asks question}, AsksFor library asks question final created →
          ReportsQueue library asks question final restricted) := by
  obtain rfl := (reportsQueue_iff asked).mp reports
  have every : ∀ thread, (start.threads thread).AllCalls
      (SqsCall.WritesDescribable library.json) := by
    intro thread
    rw [begins]
    exact (coversWrites_describable reads).program (tasks thread)
  have itself := (callsKeep_describable.reachable every describable reachable).1 queue isRow
  have distinct : config.shared.queues.UniqueOn SqsDatabase.identity :=
    reachable.invariant (fun config => config.shared.queues.UniqueOn SqsDatabase.identity) unique
      (by
        rintro config config' thread - before - ⟨pending⟩
        exact SqsDatabase.uniqueOn_serve _ before)
  have checked := @validateCreateQueue_description library queue itself
  constructor
  · intro sameRegion sameAccount
    have found : existingQueue config.shared request queue.name = some queue := by
      rw [existingQueue, sameRegion, sameAccount]
      exact SqsDatabase.getQueue_of_mem distinct isRow
    exact creates_of_handle parsed checked
      (succeeds_handleCreateQueue_again checked found (queueConfigurationMatches_values
        itself.queueType))
  · intro free
    refine ⟨_, _, creates_of_handle parsed checked (succeeds_handleCreateQueue checked free),
      SqsDatabase.getQueue_withQueue free, ?_⟩
    intro asks question again
    rw [reportsQueue_iff again, description_newQueue itself.queueType]

end Again

/-! ### The queue of a form, created again -/

/-- The queue that the form leaves. -/
def formedQueue : SqsQueue :=
  { queueOfForm 0 ordersForm with id := 1 }

/-- The state after the form was handled. -/
def formedConfig : Config sqsStore Unit Unit SqsDatabase :=
  formStart.play SqsDatabase.serve [(), ()]

/-- A member with a text. -/
def textMember (entry : Text × Text) : Text × Json :=
  (entry.1, .string entry.2)

/-- A member as it is written, when nothing in it has to be escaped. -/
def writeMember (entry : Text × Text) : Text :=
  '"' :: entry.1 ++ "\":\"".toList ++ entry.2 ++ ['"']

/-- The body that asks for the queue by its description. -/
def formedBody : Text :=
  ("\x7b\"QueueName\":\"orders\",\"Attributes\":\x7b" : Text) ++
    (",".toList).intercalate (formedQueue.description.entries.map writeMember) ++
      "\x7d\x7d".toList

/-- The library, which reads this body, and the empty object. -/
def formedLibrary : SqsLibrary :=
  { emptyObjectLibrary with
    json := { emptyObjectLibrary.json with
      read := fun bytes =>
        if bytes = Text.utf8 "{}" then .ok (.object [])
        else if bytes = formedBody.utf8 then .ok (.object [("QueueName", .string "orders"),
          ("Attributes", .object (formedQueue.description.entries.map textMember))])
        else .error "expected value" } }

theorem formedLibrary_reads : ReadsEmptyObject formedLibrary.json where
  plain := rfl
  blanks := by
    intro text json trimmed isRead
    simp only [formedLibrary] at isRead
    split_ifs at isRead with isEmpty isBody
    · cases isRead
      rfl
    · obtain rfl := Text.utf8_injective isBody
      exact absurd trimmed (by decide +kernel)

/-- The queue of the form is created again by what is reported of it. -/
theorem createQueue_idempotent_form :
    Creates formedLibrary 5 (userRequest 0 formedBody) "orders" formedConfig.shared
      formedConfig.shared := by
  have noQueues : ∀ queue ∈ formStart.shared.queues.rows,
      Describable formedLibrary.json queue := by
    intro queue member
    exact absurd member List.not_mem_nil
  have distinct : formStart.shared.queues.UniqueOn SqsDatabase.identity := by
    intro queue member
    exact absurd member List.not_mem_nil
  have isRow : formedQueue ∈ formedConfig.shared.queues.rows := by
    decide +kernel
  have asked : AsksFor formedLibrary (userRequest 0 [])
      ⟨"http://localhost:4566/000000000000/orders", ["All"]⟩ formedConfig.shared formedQueue := by
    refine ⟨List.mem_cons_self, ?_⟩
    rfl
  have parsed : parseSqsPayload formedLibrary decodeCreateQueueRequest
      (userRequest 0 formedBody).request = .ok ⟨"orders", formedQueue.description, .empty⟩ := by
    decide +kernel
  exact (@createQueue_idempotent formedLibrary formedQueue Unit _ formedLibrary_reads
    (fun _ => .createQueueForm 0 ordersForm) formStart formedConfig (fun _ => rfl) noQueues distinct
    (Reachable.play (fun _ _ _ => trivial) .start Config.passes_true) isRow _ _ asked _
    ((reportsQueue_iff asked).mpr rfl) 5 _ parsed).1 rfl rfl

end Hiraeth
