import Hiraeth.Sqs.Accepted

/-!
# What a batch does with its invalid entries

A batch answers for each of its entries whether it was stored.  The handler keeps
a failed entry from touching the others; but the check that runs before it checks
every entry too, and there the first failure is the failure of the request.

## Main definitions

* `BatchArrives` — a batch that is well formed as a whole, sent to a queue that
  exists
* `SendMessageBatchEntry.isValid` — an entry that is valid by itself
* `EntriesIsolated`, `AnswersIsolated` — the valid entries are stored and answered as
  successes, the others are not stored and answered as failures

## Main results

* `run_sendBatchEntries` — what the handler does with the entries
* `answersIsolated_iff` — entries are isolated exactly when none of them fails the
  check of the request
* `mixedBatch_not_isolated` — an entry with an empty body fails the whole batch
-/

namespace Hiraeth

open Interaction Program

variable {library : SqsLibrary} {request : ResolvedRequest} {queue : SqsQueue} {date : Time}
  {messageIds : ℕ → Text}

/-! ### Storing messages -/

namespace SqsDatabase

variable {database : SqsDatabase}

/-- The database with one more message. -/
def withMessage (database : SqsDatabase) (message : SqsMessage) : SqsDatabase :=
  { database with messages := database.messages.insert (newMessageRow message) (newMessageRow_id message) }

/-- A message with a new id is stored in a queue that exists. -/
theorem sendMessage_fresh {message : SqsMessage}
    (fresh : ∀ row ∈ database.messages.rows, row.messageId ≠ message.messageId)
    (queueExists : database.hasQueue message.queueId = true) :
    database.sendMessage message = (.ok (), database.withMessage message) := by
  have unused : ¬ database.messages.rows.any (·.messageId = message.messageId) := by
    simpa using fresh
  rw [sendMessage, if_neg unused, if_pos queueExists]
  rfl

theorem mem_withMessage {message : SqsMessage} {row : SqsMessageRow}
    (member : row ∈ (database.withMessage message).messages.rows) :
    row ∈ database.messages.rows ∨ row.messageId = message.messageId := by
  refine (List.mem_append.mp member).imp_right fun isNew => ?_
  rw [List.mem_singleton.mp isNew]
  rfl

end SqsDatabase

/-! ### Single entries -/

/-- The attributes of a message can be digested. -/
def MessageContent.isDigestible (library : SqsLibrary) (content : MessageContent) : Bool :=
  (digestAttributes library content.messageAttributes).isOk &&
    (extractAwsTraceHeader content.messageSystemAttributes).isOk &&
    (digestAttributes library content.messageSystemAttributes).isOk

/-- **An entry is valid by itself**: it passes the checks of an entry, and its
attributes can be digested. -/
def SendMessageBatchEntry.isValid (library : SqsLibrary) (queue : SqsQueue)
    (entry : SendMessageBatchEntry) : Bool :=
  (validateSendMessageBatchEntry queue entry).isOk && entry.isDigestible library

/-- What an entry that passes the checks needs in order to be prepared. -/
theorem isOk_prepareBatchEntry {messageId : Text} {entry : SendMessageBatchEntry}
    (checked : validateSendMessageBatchEntry queue entry = .ok ()) :
    (prepareBatchEntry library date queue messageId entry).isOk =
      entry.isValid library queue := by
  have passes := checked
  simp only [validateSendMessageBatchEntry, bind_eq_ok] at checked
  obtain ⟨_, -, delaySeconds, resolved, _, bodyChecked, -⟩ := checked
  simp only [prepareBatchEntry, resolved, bodyChecked, ok_bind, SendMessageBatchEntry.isValid,
    passes, MessageContent.isDigestible, prepareMessage]
  -- the three parts of the preparation that can fail, one after the other
  cases digestAttributes library entry.messageAttributes with
  | error failure => rfl
  | ok digest =>
      cases extractAwsTraceHeader entry.messageSystemAttributes with
      | error failure => rfl
      | ok traceHeader => cases digestAttributes library entry.messageSystemAttributes <;> rfl

/-- An entry that is not prepared is answered with its own failure. -/
theorem run_sendBatchEntry_of_error {messageId : Text} {entry : SendMessageBatchEntry}
    {failure : SqsError} {state : SqsDatabase}
    (failed : prepareBatchEntry library date queue messageId entry = .error failure) :
    (sendBatchEntry library date queue messageId entry).run SqsDatabase.serve state =
      (.error (batchErrorEntry entry.id failure), state) := by
  unfold sendBatchEntry
  rw [failed]
  rfl

/-- An entry that is prepared is stored, under a new id. -/
theorem run_sendBatchEntry_of_ok {messageId : Text} {entry : SendMessageBatchEntry}
    {prepared : PreparedMessage} {state : SqsDatabase}
    (isPrepared : prepareBatchEntry library date queue messageId entry = .ok prepared)
    (fresh : ∀ row ∈ state.messages.rows, row.messageId ≠ messageId)
    (queueExists : state.hasQueue queue.id = true) :
    (sendBatchEntry library date queue messageId entry).run SqsDatabase.serve state =
      (.ok { prepared.response with id := entry.id }, state.withMessage prepared.message) := by
  obtain ⟨_, -, -, ready⟩ := prepareBatchEntry_eq_ok.mp isPrepared
  have columns := preparedFrom_of_prepareMessage ready
  have stored : state.sendMessage prepared.message =
      (.ok (), state.withMessage prepared.message) :=
    SqsDatabase.sendMessage_fresh (columns.ownId ▸ fresh) (columns.ownQueue ▸ queueExists)
  show Succeeds SqsDatabase.serve _ state _ _
  simp only [succeeds_bind, succeeds_liftExcept, succeeds_orFail, succeeds_pure]
  exact ⟨prepared, state, ⟨mapError_eq_ok.mpr isPrepared, rfl⟩, (),
    state.withMessage prepared.message, stored, rfl, rfl⟩

/-! ### All entries -/

/-- The row of an entry that was stored. -/
def StoredFor (library : SqsLibrary) (date : Time) (queue : SqsQueue)
    (entry : SendMessageBatchEntry) (row : SqsMessageRow) : Prop :=
  ∃ message response, row = SqsDatabase.newMessageRow message row.id ∧
    PreparedFrom library date queue row.messageId entry.toMessageContent
      (entry.delaySeconds.getD queue.delaySeconds) message response

/-- **The entries of a batch are isolated**: the valid ones are stored, once each,
and answered as successes; the others are answered as failures; nothing else
changes. -/
structure EntriesIsolated (library : SqsLibrary) (date : Time) (queue : SqsQueue)
    (entries : List SendMessageBatchEntry) (state final : SqsDatabase)
    (response : SendMessageBatchResponse) : Prop where
  successful : response.successful.map (·.id) =
    (entries.filter (·.isValid library queue)).map (·.id)
  failed : response.failed.map (·.id) =
    (entries.filter fun entry => !entry.isValid library queue).map (·.id)
  partition : (response.successful.map (·.id) ++ response.failed.map (·.id)).Perm
    (entries.map (·.id))
  stored : ∃ rows, final.messages.rows = state.messages.rows ++ rows ∧
    List.Forall₂ (StoredFor library date queue) (entries.filter (·.isValid library queue)) rows ∧
    rows.map (·.messageId) = response.successful.map (·.messageId)
  unchanged : final = { state with messages := final.messages }

/-- An invalid entry in front. -/
theorem EntriesIsolated.cons_invalid {entry : SendMessageBatchEntry}
    {entries : List SendMessageBatchEntry} {state final : SqsDatabase}
    {response : SendMessageBatchResponse} {failure : SqsError}
    (isolated : EntriesIsolated library date queue entries state final response)
    (invalid : entry.isValid library queue = false) :
    EntriesIsolated library date queue (entry :: entries) state final
      { response with failed := batchErrorEntry entry.id failure :: response.failed } where
  successful := by
    rw [List.filter_cons_of_neg (by simp [invalid])]
    exact isolated.successful
  failed := by
    rw [List.filter_cons_of_pos (by simp [invalid]), List.map_cons, List.map_cons,
      isolated.failed]
    rfl
  partition := by
    rw [List.map_cons, List.map_cons]
    exact List.perm_middle.trans (isolated.partition.cons _)
  stored := by
    rw [List.filter_cons_of_neg (by simp [invalid])]
    exact isolated.stored
  unchanged := isolated.unchanged

/-- A valid entry in front. -/
theorem EntriesIsolated.cons_valid {entry : SendMessageBatchEntry}
    {entries : List SendMessageBatchEntry} {state final : SqsDatabase} {messageId : Text}
    {response : SendMessageBatchResponse} {prepared : PreparedMessage}
    (isPrepared : prepareBatchEntry library date queue messageId entry = .ok prepared)
    (isolated : EntriesIsolated library date queue entries (state.withMessage prepared.message)
      final response)
    (valid : entry.isValid library queue = true) :
    EntriesIsolated library date queue (entry :: entries) state final
      { response with
        successful := { prepared.response with id := entry.id } :: response.successful } where
  successful := by
    rw [List.filter_cons_of_pos valid, List.map_cons, List.map_cons, isolated.successful]
  failed := by
    rw [List.filter_cons_of_neg (by simp [valid])]
    exact isolated.failed
  partition := by
    rw [List.map_cons, List.map_cons, List.cons_append]
    exact isolated.partition.cons _
  stored := by
    obtain ⟨delaySeconds, resolved, -, ready⟩ := prepareBatchEntry_eq_ok.mp isPrepared
    have columns := preparedFrom_of_prepareMessage ready
    obtain ⟨rows, split, related, ids⟩ := isolated.stored
    -- the delay that was resolved is the effective one
    simp only [resolveDelaySeconds] at resolved
    split_ifs at resolved
    obtain rfl := Except.ok.inj resolved
    refine ⟨SqsDatabase.newMessageRow prepared.message state.messages.nextId :: rows, ?_, ?_, ?_⟩
    · rw [split]
      exact List.append_assoc _ [_] _
    · rw [List.filter_cons_of_pos valid]
      refine .cons ⟨prepared.message, prepared.response, rfl, ?_⟩ related
      rw [← columns.ownId] at columns
      exact columns
    · rw [List.map_cons, List.map_cons, ids]
      exact congrArg (· :: _) (columns.ownId.trans columns.answeredId.symm)
  unchanged := isolated.unchanged

/-- **What the handler does with the entries**, each at its own position.  The
induction is on the entries; the ids of the later ones stay new. -/
theorem run_sendBatchEntries (distinct : Function.Injective messageIds)
    {items : List (SendMessageBatchEntry × ℕ)} {state : SqsDatabase}
    (checked : ∀ item ∈ items, validateSendMessageBatchEntry queue item.1 = .ok ())
    (positions : (items.map Prod.snd).Nodup)
    (fresh : ∀ item ∈ items, ∀ row ∈ state.messages.rows, row.messageId ≠ messageIds item.2)
    (queueExists : state.hasQueue queue.id = true) :
    ∃ results final,
      (items.mapM fun item => sendBatchEntry library date queue (messageIds item.2) item.1).run
        SqsDatabase.serve state = (results, final) ∧
      EntriesIsolated library date queue (items.map Prod.fst) state final
        { successful := successesOf results, failed := failuresOf results } := by
  induction items generalizing state with
  | nil => exact ⟨[], state, rfl, ⟨rfl, rfl, .refl _, ⟨[], (List.append_nil _).symm, .nil, rfl⟩, rfl⟩⟩
  | cons item items inductionHypothesis =>
      have now := checked item List.mem_cons_self
      have later := fun other (isLater : other ∈ items) =>
        checked other (List.mem_cons_of_mem _ isLater)
      obtain ⟨elsewhere, onwards⟩ := List.nodup_cons.mp positions
      have decided := @isOk_prepareBatchEntry library queue date (messageIds item.2) item.1 now
      cases prepared : prepareBatchEntry library date queue (messageIds item.2) item.1 with
      | error failure =>
          obtain ⟨results, final, ran, isolated⟩ := inductionHypothesis later onwards
            (fun other isLater => fresh other (List.mem_cons_of_mem _ isLater)) queueExists
          refine ⟨.error (batchErrorEntry item.1.id failure) :: results, final, ?_, ?_⟩
          · rw [List.mapM_cons, run_bind, run_sendBatchEntry_of_error prepared, run_bind, ran]
            rfl
          · rw [prepared] at decided
            exact isolated.cons_invalid decided.symm
      | ok ready =>
          have itsId : ready.message.messageId = messageIds item.2 := by
            obtain ⟨_, -, -, made⟩ := prepareBatchEntry_eq_ok.mp prepared
            exact (preparedFrom_of_prepareMessage made).ownId
          have stillFresh : ∀ other ∈ items, ∀ row ∈ (state.withMessage ready.message).messages.rows,
              row.messageId ≠ messageIds other.2 := by
            intro other isLater row member
            rcases SqsDatabase.mem_withMessage member with old | isNew
            · exact fresh other (List.mem_cons_of_mem _ isLater) row old
            · rw [isNew, itsId]
              intro same
              exact elsewhere (distinct same ▸ List.mem_map_of_mem isLater)
          obtain ⟨results, final, ran, isolated⟩ :=
            inductionHypothesis later onwards stillFresh queueExists
          refine ⟨.ok { ready.response with id := item.1.id } :: results, final, ?_, ?_⟩
          · rw [List.mapM_cons, run_bind, run_sendBatchEntry_of_ok prepared
              (fresh item List.mem_cons_self) queueExists, run_bind, ran]
            rfl
          · rw [prepared] at decided
            exact isolated.cons_valid prepared decided.symm

/-! ### The request -/

/-- **A batch that is well formed as a whole**: one to ten entries with distinct
ids, sent to a queue that exists by a caller who may send to it.  The ids of
messages are not in use. -/
structure BatchArrives (library : SqsLibrary)
    (authorize : ResolvedRequest → AuthorizationCheck → SqsProgram AuthorizationResult)
    (messageIds : ℕ → Text) (request : ResolvedRequest) (payload : SendMessageBatchRequest)
    (queue : SqsQueue) (state : SqsDatabase) : Prop where
  parsed : parseSqsPayload library decodeSendMessageBatchRequest request.request = .ok payload
  sentTo : ∃ queueId, parseQueueUrl library.url payload.queueUrl request.region = some queueId ∧
    state.getQueue queueId.name queueId.region queueId.accountId = some queue
  authorized : ∀ check, (authorize request check).run SqsDatabase.serve state = (.allow, state)
  nonempty : payload.entries ≠ []
  few : payload.entries.length ≤ 10
  distinctIds : (payload.entries.map (·.id)).Nodup
  validIds : ∀ entry ∈ payload.entries, validateBatchEntryId entry.id = .ok ()
  distinctMessages : Function.Injective messageIds
  freshMessages : ∀ position, ∀ row ∈ state.messages.rows, row.messageId ≠ messageIds position

/-- The batch is answered, with its entries isolated. -/
def AnswersIsolated (library : SqsLibrary)
    (authorize : ResolvedRequest → AuthorizationCheck → SqsProgram AuthorizationResult)
    (messageIds : ℕ → Text) (request : ResolvedRequest) (payload : SendMessageBatchRequest)
    (queue : SqsQueue) (state : SqsDatabase) : Prop :=
  ∃ response final,
    ((sendMessageBatchAction library messageIds).route authorize request).run SqsDatabase.serve
      state = (.answered response, final) ∧
    EntriesIsolated library request.date queue payload.entries state final response

/-- The body of a request is a JSON object.  A record may also be written as an
array, but then the queue is not found in it. -/
def BodyIsObject (library : SqsLibrary) (request : ResolvedRequest) : Prop :=
  ∃ members, library.json.read request.request.body = .ok (.object members)

section Request

variable {authorize : ResolvedRequest → AuthorizationCheck → SqsProgram AuthorizationResult}
  {payload : SendMessageBatchRequest} {state : SqsDatabase}

theorem BatchArrives.loads
    (arrives : BatchArrives library authorize messageIds request payload queue state) :
    Succeeds SqsDatabase.serve (loadQueueFromUrl library request payload.queueUrl) state queue
      state := by
  obtain ⟨queueId, named, found⟩ := arrives.sentTo
  refine succeeds_loadQueueFromUrl.mpr ⟨queueId, named, ?_⟩
  show (Except.ok _, state) = _
  rw [found]

theorem BatchArrives.wellFormed
    (arrives : BatchArrives library authorize messageIds request payload queue state) :
    validateBatchRequest (payload.entries.map (·.id)) = .ok () := by
  have few : ¬ 10 < (payload.entries.map (·.id)).length := by
    have bound := arrives.few
    rw [List.length_map]
    omega
  have hasIds : payload.entries.map (·.id) ≠ [] := by
    simpa using arrives.nonempty
  rw [validateBatchRequest, if_neg (not_not.mpr arrives.distinctIds), if_neg hasIds, if_neg few]

/-- Authorization reads the queue from a body that is an object. -/
theorem getQueueUrlFromRequest_eq_ok
    (parsed : parseSqsPayload library decodeSendMessageBatchRequest request.request =
      .ok payload) {queueUrl : Text} :
    getQueueUrlFromRequest library request = .ok queueUrl ↔
      BodyIsObject library request ∧ queueUrl = payload.queueUrl := by
  obtain ⟨json, isRead, decoded⟩ := parseSqsPayload_eq_ok.mp parsed
  simp only [getQueueUrlFromRequest, isRead, Except.mapError, ok_bind, BodyIsObject,
    Except.ok.injEq]
  cases json with
  | object members =>
      simp only [decodeSendMessageBatchRequest, bind_eq_ok, pure_eq_ok, Except.ok.injEq] at decoded
      obtain ⟨fields, isRecord, entries, -, url, isUrl, rfl⟩ := decoded
      obtain ⟨accepted, rfl⟩ := Json.readFields_object_eq_ok.mp isRecord
      obtain ⟨value, found, isText⟩ := Fields.required_eq_ok.mp isUrl
      obtain rfl := Json.asText_eq_ok.mp isText
      rw [get_eq_lookup_of_rejectRepeated accepted (List.mem_cons_of_mem _ List.mem_cons_self),
        found]
      simp [Json.asStr, eq_comm]
  | null => simp [Json.get]
  | bool value => simp [Json.get]
  | integer value => simp [Json.get]
  | float written => simp [Json.get]
  | string value => simp [Json.get]
  | array items => simp [Json.get]

/-- What is to be authorized, once the queue was found. -/
theorem succeeds_resolveAuthorization
    (arrives : BatchArrives library authorize messageIds request payload queue state)
    {check : AuthorizationCheck} {final : SqsDatabase} :
    Succeeds SqsDatabase.serve (Sqs.resolveAuthorization library .sendMessageBatch request) state
        check final ↔
      BodyIsObject library request ∧ final = state ∧
        check = {
          action := SqsAction.sendMessageBatch.authorizationAction
          resource := getQueueArn queue
          resourcePolicy := some (queuePolicy library queue) } := by
  simp only [Sqs.resolveAuthorization, getRelevantQueueForAction, getQueueFromRequest,
    succeeds_bind, succeeds_liftExcept, succeeds_pure,
    getQueueUrlFromRequest_eq_ok arrives.parsed]
  constructor
  · rintro ⟨_, _, ⟨found, _, ⟨_, _, ⟨⟨isObject, rfl⟩, rfl⟩, loaded⟩, rfl, rfl⟩, rfl, rfl⟩
    obtain ⟨same, rfl⟩ := Prod.mk.inj (loaded.symm.trans arrives.loads)
    obtain rfl := Except.ok.inj same
    exact ⟨isObject, rfl, rfl⟩
  · rintro ⟨isObject, rfl, rfl⟩
    exact ⟨some queue, _, ⟨queue, _, ⟨_, _, ⟨⟨isObject, rfl⟩, rfl⟩, arrives.loads⟩, rfl, rfl⟩, rfl,
      rfl⟩

/-- The check of the request is the check of all its entries. -/
theorem validateSendMessageBatch_eq_ok
    (arrives : BatchArrives library authorize messageIds request payload queue state) :
    validateSendMessageBatch queue payload = .ok () ↔
      ∀ entry ∈ payload.entries, validateSendMessageBatchEntry queue entry = .ok () := by
  rw [validateSendMessageBatch, arrives.wellFormed, ok_bind, forM_eq_ok]

/-- An answered batch passed the check of the request, entry by entry. -/
theorem checked_of_answered
    (arrives : BatchArrives library authorize messageIds request payload queue state)
    {response : SendMessageBatchResponse} {final : SqsDatabase}
    (answered : ((sendMessageBatchAction library messageIds).route authorize request).run
      SqsDatabase.serve state = (.answered response, final)) :
    BodyIsObject library request ∧
      ∀ entry ∈ payload.entries, validateSendMessageBatchEntry queue entry = .ok () := by
  obtain ⟨check, resolved, decided, validated, resolving, deciding, validating, -⟩ :=
    (TypedAwsAction.route_answered _).mp answered
  obtain ⟨_, _, isPayload, resolves⟩ := succeeds_bind.mp resolving
  obtain ⟨-, rfl⟩ := succeeds_liftExcept.mp isPayload
  obtain ⟨isObject, rfl, rfl⟩ := (succeeds_resolveAuthorization arrives).mp resolves
  obtain ⟨-, rfl⟩ := Prod.mk.inj (deciding.symm.trans (arrives.authorized _))
  obtain ⟨decoded, _, isDecoded, validates⟩ := succeeds_bind.mp validating
  obtain ⟨parsed, rfl⟩ := succeeds_liftExcept.mp isDecoded
  obtain rfl : payload = decoded := Except.ok.inj (arrives.parsed.symm.trans parsed)
  obtain ⟨loaded, _, loading, checking⟩ := succeeds_bind.mp validates
  obtain ⟨same, rfl⟩ := Prod.mk.inj (loading.symm.trans arrives.loads)
  obtain rfl := Except.ok.inj same
  obtain ⟨passes, rfl⟩ := succeeds_liftExcept.mp checking
  exact ⟨isObject, (validateSendMessageBatch_eq_ok arrives).mp passes⟩

/-- The handler isolates the entries that reach it. -/
theorem succeeds_handleSendMessageBatch
    (arrives : BatchArrives library authorize messageIds request payload queue state)
    (checked : ∀ entry ∈ payload.entries, validateSendMessageBatchEntry queue entry = .ok ()) :
    ∃ response final,
      Succeeds SqsDatabase.serve (handleSendMessageBatch library messageIds request payload) state
        response final ∧
      EntriesIsolated library request.date queue payload.entries state final response := by
  have itsEntries : payload.entries.zipIdx.map Prod.fst = payload.entries :=
    List.zipIdx_map_fst 0 payload.entries
  have positions : (payload.entries.zipIdx.map Prod.snd).Nodup := by
    rw [List.zipIdx_map_snd]
    exact List.nodup_range'
  obtain ⟨queueId, -, found⟩ := arrives.sentTo
  obtain ⟨results, final, ran, isolated⟩ :=
    @run_sendBatchEntries library queue request.date messageIds
      arrives.distinctMessages payload.entries.zipIdx state
      (fun item member => checked item.1 (itsEntries ▸ List.mem_map_of_mem member)) positions
      (fun item _ => arrives.freshMessages item.2) (SqsDatabase.hasQueue_of_getQueue found)
  rw [itsEntries] at isolated
  refine ⟨_, final, ?_, isolated⟩
  simp only [handleSendMessageBatch, succeeds_bind, succeeds_liftExcept, succeeds_pure]
  refine ⟨queue, state, arrives.loads, (), state, ⟨arrives.wellFormed, rfl⟩, results, final, ?_, rfl,
    rfl⟩
  unfold Succeeds
  rw [ExceptT.run_lift, map_eq_pure_bind, run_bind, ran]
  rfl

/-- **Entries are isolated exactly when none of them fails the check of the
request.**  What is left to the handler is an attribute that cannot be digested. -/
theorem answersIsolated_iff
    (arrives : BatchArrives library authorize messageIds request payload queue state) :
    AnswersIsolated library authorize messageIds request payload queue state ↔
      BodyIsObject library request ∧
        ∀ entry ∈ payload.entries, validateSendMessageBatchEntry queue entry = .ok () := by
  constructor
  · rintro ⟨response, final, answered, -⟩
    exact checked_of_answered arrives answered
  · rintro ⟨isObject, checked⟩
    obtain ⟨response, final, handled, isolated⟩ := succeeds_handleSendMessageBatch arrives checked
    obtain ⟨check, resolves⟩ : ∃ check, Succeeds SqsDatabase.serve
        (Sqs.resolveAuthorization library .sendMessageBatch request) state check state :=
      ⟨_, (succeeds_resolveAuthorization arrives).mpr ⟨isObject, rfl, rfl⟩⟩
    refine ⟨response, final, (TypedAwsAction.route_answered _).mpr ?_, isolated⟩
    refine ⟨check, state, state, state, ?_, arrives.authorized check, ?_, ?_⟩
    · exact succeeds_bind.mpr ⟨payload, state, succeeds_liftExcept.mpr ⟨arrives.parsed, rfl⟩,
        resolves⟩
    · refine succeeds_bind.mpr ⟨payload, state, succeeds_liftExcept.mpr ⟨arrives.parsed, rfl⟩, ?_⟩
      exact succeeds_bind.mpr ⟨queue, state, arrives.loads, succeeds_liftExcept.mpr
        ⟨(validateSendMessageBatch_eq_ok arrives).mpr checked, rfl⟩⟩
    · exact succeeds_bind.mpr ⟨payload, state, succeeds_liftExcept.mpr ⟨arrives.parsed, rfl⟩,
        handled⟩

end Request

/-! ### Two batches -/

/-- An entry with nothing but its id and its body. -/
def plainEntry (id messageBody : Text) : SendMessageBatchEntry where
  delaySeconds := none
  messageAttributes := none
  messageSystemAttributes := none
  messageBody := messageBody
  messageDeduplicationId := none
  messageGroupId := none
  id := id

/-- A batch of two entries, of which the first is fine. -/
def batchOf (second : SendMessageBatchEntry) : SendMessageBatchRequest where
  entries := [plainEntry "a" "hello", second]
  queueUrl := "http://localhost:4566/000000000000/orders"

/-- Its body. -/
def batchText (second : Text) : Text :=
  ("\x7b\"Entries\":[\x7b\"Id\":\"a\",\"MessageBody\":\"hello\"\x7d," : Text) ++ second ++
    "],\"QueueUrl\":\"http://localhost:4566/000000000000/orders\"\x7d".toList

/-- The library, which reads the body of such a batch. -/
def batchLibrary (second : Json) : SqsLibrary :=
  { sampleLibrary with
    json := { sampleLibrary.json with
      read := fun _ => .ok (.object [
        ("Entries", .array [.object [("Id", .string "a"), ("MessageBody", .string "hello")], second]),
        ("QueueUrl", .string "http://localhost:4566/000000000000/orders")]) } }

/-- The caller may do anything. -/
def permitAll (_ : ResolvedRequest) (_ : AuthorizationCheck) : SqsProgram AuthorizationResult :=
  return .allow

theorem arrives_batchOf {second : SendMessageBatchEntry} {json : Json} {text : Text}
    (decoded : decodeSendMessageBatchEntry json = .ok second) (itsId : second.id = "b") :
    BatchArrives (batchLibrary json) permitAll (fun position => List.replicate position 'm')
      (userRequest 0 (batchText text)) (batchOf second) ordersQueue ordersStore where
  parsed := by
    refine parseSqsPayload_eq_ok.mpr ⟨_, rfl, ?_⟩
    have entries : ([.object [("Id", .string "a"), ("MessageBody", .string "hello")], json] :
        List Json).mapM decodeSendMessageBatchEntry = .ok [plainEntry "a" "hello", second] :=
      mapM_eq_ok.mpr (.cons rfl (.cons decoded .nil))
    show (Json.asList decodeSendMessageBatchEntry (.array _) >>= fun entries =>
      pure (SendMessageBatchRequest.mk entries _)) = _
    rw [Json.asList, entries]
    rfl
  sentTo := by
    refine ⟨⟨"orders", "us-east-1", "000000000000"⟩, ?_, rfl⟩
    show parseQueueUrl sampleLibrary.url helloRequest.queueUrl "us-east-1" = _
    decide +kernel
  authorized := fun _ => rfl
  nonempty := List.cons_ne_nil _ _
  few := by
    show 2 ≤ 10
    omega
  distinctIds := by
    show [("a" : Text), second.id].Nodup
    rw [itsId]
    decide
  validIds := by
    intro entry member
    rcases List.mem_pair.mp member with rfl | rfl
    · rfl
    · rw [itsId]
      rfl
  distinctMessages := by
    intro left right same
    simpa using congrArg List.length same
  freshMessages := fun _ row member => nomatch member

/-- An entry with an attribute that is not base64. -/
def undigestedEntry : SendMessageBatchEntry :=
  { plainEntry "b" "hello" with
    messageAttributes := some (SortedMap.ofList [("kind", ⟨"Binary", none, some "eA="⟩)]) }

/-- The library, which reads the body of that batch. -/
def undigestedLibrary : SqsLibrary :=
  batchLibrary (.object [("Id", .string "b"), ("MessageBody", .string "hello"),
    ("MessageAttributes", .object [("kind",
      .object [("DataType", .string "Binary"), ("BinaryValue", .string "eA=")])])])

def undigestedRequest : ResolvedRequest :=
  userRequest 0 (batchText (("\x7b\"Id\":\"b\",\"MessageBody\":\"hello\"," : Text) ++
    "\"MessageAttributes\":\x7b\"kind\":\x7b\"DataType\":\"Binary\",".toList ++
    "\"BinaryValue\":\"eA=\"\x7d\x7d\x7d".toList))

/-- It fails alone. -/
theorem answersIsolated_undigested :
    AnswersIsolated undigestedLibrary permitAll (fun position => List.replicate position 'm')
      undigestedRequest (batchOf undigestedEntry) ordersQueue ordersStore := by
  refine (answersIsolated_iff (arrives_batchOf rfl rfl)).mpr ⟨⟨_, rfl⟩, fun entry member => ?_⟩
  rcases List.mem_pair.mp member with rfl | rfl
  · decide +kernel
  · decide +kernel

/-- The library, which reads the body of a batch with an empty message. -/
def mixedLibrary : SqsLibrary :=
  batchLibrary (.object [("Id", .string "b"), ("MessageBody", .string "")])

def mixedRequest : ResolvedRequest :=
  userRequest 0 (batchText "\x7b\"Id\":\"b\",\"MessageBody\":\"\"\x7d")

/-- **An entry with an empty body fails the whole batch**: the other entry is not
stored, and neither is answered. -/
theorem mixedBatch_not_isolated :
    BatchArrives mixedLibrary permitAll (fun position => List.replicate position 'm') mixedRequest
      (batchOf (plainEntry "b" "")) ordersQueue ordersStore ∧
    ¬ AnswersIsolated mixedLibrary permitAll (fun position => List.replicate position 'm')
      mixedRequest (batchOf (plainEntry "b" "")) ordersQueue ordersStore := by
  have arrives : BatchArrives mixedLibrary permitAll (fun position => List.replicate position 'm')
      mixedRequest (batchOf (plainEntry "b" "")) ordersQueue ordersStore :=
    arrives_batchOf rfl rfl
  refine ⟨arrives, ?_⟩
  rintro ⟨response, final, answered, -⟩
  have passes := (checked_of_answered arrives answered).2 (plainEntry "b" "")
    (List.mem_cons_of_mem _ List.mem_cons_self)
  revert passes
  decide +kernel

end Hiraeth
