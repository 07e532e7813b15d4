import Hiraeth.Sqs.Accepted
import Hiraeth.Sqs.Lease
import Hiraeth.Sqs.QueueInvariant

/-!
# The queue that a message is stored in

A request that sends a message looks its queue up by name, and stores the message
under the number that the row of the queue has.  Between the two calls the queue may
be deleted and its number given to a new queue.  Unless that happens, every message
is stored in the queue it was addressed to, and stays there.

## Main definitions

* `SqsTask.Addresses` — the queue that a sending request is addressed to
* `AddressFree` — no message is on its way to the number that a new queue gets

## Main results

* `obeys_task` — a message is sent to the number of the queue that was looked up
* `messages_stay_home` — every message is in the queue it was addressed to
-/

namespace Hiraeth

open Interaction Program

/-! ### Addresses -/

/-- The identity that a queue URL names. -/
def QueueId.identity (queueId : QueueId) : Text × Text × Text :=
  (queueId.name, queueId.region, queueId.accountId)

/-- **The queue that a sending request is addressed to**, by the URL in its payload. -/
inductive SqsTask.Addresses (library : SqsLibrary) : SqsTask → QueueId → Prop
  | single {generated : SqsGenerated} {decision : AuthorizationCheck → AuthorizationResult}
      {request : ResolvedRequest} {payload : SendMessageRequest} {queueId : QueueId}
      (parsed : parseSqsPayload library decodeSendMessageRequest request.request = .ok payload)
      (named : parseQueueUrl library.url payload.queueUrl request.region = some queueId) :
      SqsTask.Addresses library (.routed generated decision request .sendMessage) queueId
  | batch {generated : SqsGenerated} {decision : AuthorizationCheck → AuthorizationResult}
      {request : ResolvedRequest} {payload : SendMessageBatchRequest} {queueId : QueueId}
      (parsed : parseSqsPayload library decodeSendMessageBatchRequest request.request =
        .ok payload)
      (named : parseQueueUrl library.url payload.queueUrl request.region = some queueId) :
      SqsTask.Addresses library (.routed generated decision request .sendMessageBatch) queueId

/-- A request is addressed to one queue. -/
theorem SqsTask.Addresses.unique {library : SqsLibrary} {task : SqsTask} {queueId other : QueueId}
    (addresses : task.Addresses library queueId) (again : task.Addresses library other) :
    queueId = other := by
  cases addresses with
  | single parsed named =>
      cases again with
      | single parsedAgain namedAgain =>
          obtain rfl := Except.ok.inj (parsed.symm.trans parsedAgain)
          exact Option.some.inj (named.symm.trans namedAgain)
  | batch parsed named =>
      cases again with
      | batch parsedAgain namedAgain =>
          obtain rfl := Except.ok.inj (parsed.symm.trans parsedAgain)
          exact Option.some.inj (named.symm.trans namedAgain)

/-! ### What a sender knows -/

/-- The number of the queue that was looked up last, and the identity it was looked up
by.  Only sending messages comes after that. -/
def learnQueue : Option (RowId × QueueId) → Event sqsStore → Option (RowId × QueueId)
  | _, ⟨.getQueue name region accountId, .ok (some queue)⟩ =>
      some (queue.id, ⟨name, region, accountId⟩)
  | known, ⟨.sendMessage _, _⟩ => known
  | _, _ => none

/-- A message may be sent to the number of the queue that was looked up. -/
def sending (addresses : QueueId → Prop) : Discipline sqsStore (Option (RowId × QueueId)) where
  learn := learnQueue
  permits known
    | .sendMessage message => ∃ queueId, addresses queueId ∧ known = some (message.queueId, queueId)
    | _ => True

section Sending

variable {library : SqsLibrary} {request : ResolvedRequest} {addresses : QueueId → Prop}
  {known : Option (RowId × QueueId)}

/-- Calls that send nothing are permitted. -/
def SqsCall.SendsNothing : SqsCall → Prop
  | .sendMessage _ => False
  | _ => True

theorem permits_sendsNothing (known : Option (RowId × QueueId)) (call : SqsCall)
    (harmless : call.SendsNothing) : (sending addresses).permits known call := by
  cases call <;> first | exact harmless.elim | exact trivial

/-- **What a sender knows once its queue was loaded.** -/
theorem obeys_loadQueueFromUrl {queueUrl : Text} :
    (loadQueueFromUrl library request queueUrl).run.Obeys (sending addresses)
      (fun outcome after => ∀ queue, outcome = .ok queue → ∃ queueId,
        parseQueueUrl library.url queueUrl request.region = some queueId ∧
          after = some (queue.id, queueId)) known := by
  unfold loadQueueFromUrl
  cases parsed : parseQueueUrl library.url queueUrl request.region with
  | none =>
      rintro queue ⟨⟩
  | some queueId =>
      refine Obeys.orFail_bind ⟨trivial, fun answer => ⟨?_, ?_⟩⟩
      · rintro failure - queue ⟨⟩
      · rintro found rfl
        cases found with
        | none => rintro queue ⟨⟩
        | some queue =>
            rintro _ ⟨⟩
            exact ⟨queueId, rfl, rfl⟩

/-- A handler that loads its queue first, and then sends to it. -/
theorem obeys_load_bind {Response : Type} {queueUrl : Text}
    {rest : SqsQueue → ExceptT SqsError SqsProgram Response}
    (named : ∀ other, parseQueueUrl library.url queueUrl request.region = some other →
      addresses other)
    (later : ∀ queue queueId, addresses queueId → (rest queue).run.Obeys (sending addresses)
      (fun _ _ => True) (some (queue.id, queueId))) :
    (loadQueueFromUrl library request queueUrl >>= rest).run.Obeys (sending addresses)
      (fun _ _ => True) known := by
  refine obeys_run_bind.mpr (obeys_loadQueueFromUrl.mono fun outcome after loaded => ?_)
  cases outcome with
  | error failure => exact trivial
  | ok queue =>
      obtain ⟨queueId, parsed, rfl⟩ := loaded queue rfl
      exact later queue queueId (named queueId parsed)

/-- Storing a message for the queue that was loaded. -/
theorem obeys_sendMessage {message : SqsMessage} {queueId : QueueId}
    (isAddress : addresses queueId) :
    (sqsCall (.sendMessage message)).Obeys (sending addresses)
      (fun _ after => after = some (message.queueId, queueId)) (some (message.queueId, queueId)) :=
  ⟨⟨queueId, isAddress, rfl⟩, fun _ => rfl⟩

end Sending

section Tasks

variable {library : SqsLibrary} {generated : SqsGenerated} {request : ResolvedRequest}
  {known : Option (RowId × QueueId)}

/-- **A single message goes to the queue that was looked up.** -/
theorem obeys_handleSendMessage {addresses : QueueId → Prop} {messageId : Text}
    {payload : SendMessageRequest}
    (named : ∀ queueId, parseQueueUrl library.url payload.queueUrl request.region = some queueId →
      addresses queueId) :
    (handleSendMessage library messageId request payload).run.Obeys (sending addresses)
      (fun _ _ => True) known := by
  refine obeys_load_bind named fun queue queueId isAddress => ?_
  refine Obeys.liftExcept_bind (fun _ => trivial) fun _ _ => ?_
  refine Obeys.liftExcept_bind (fun _ => trivial) fun _ _ => ?_
  refine Obeys.liftExcept_bind (fun _ => trivial) fun prepared prepares => ?_
  rw [← queueId_prepareMessage prepares]
  refine Obeys.orFail_bind ((obeys_sendMessage isAddress).mono fun _ _ _ => ⟨?_, ?_⟩)
  · exact fun _ _ => trivial
  · exact fun _ _ => trivial

/-- An entry of a batch goes to the queue that was looked up. -/
theorem obeys_sendBatchEntry {addresses : QueueId → Prop} {date : Time} {queue : SqsQueue}
    {messageId : Text} {entry : SendMessageBatchEntry} {queueId : QueueId}
    (isAddress : addresses queueId) :
    (sendBatchEntry library date queue messageId entry).Obeys (sending addresses)
      (fun _ after => after = some (queue.id, queueId)) (some (queue.id, queueId)) := by
  refine Obeys.liftExcept_bind (fun _ => rfl) fun prepared prepares => ?_
  simp only [prepareBatchEntry, mapError_eq_ok, bind_eq_ok] at prepares
  obtain ⟨_, -, _, -, made⟩ := prepares
  rw [← queueId_prepareMessage made]
  refine Obeys.orFail_bind ((obeys_sendMessage isAddress).mono fun _ _ same => ⟨?_, ?_⟩)
  · exact fun _ _ => same
  · exact fun _ _ => same

/-- **So do all entries of a batch.** -/
theorem obeys_handleSendMessageBatch {addresses : QueueId → Prop} {messageIds : ℕ → Text}
    {payload : SendMessageBatchRequest}
    (named : ∀ queueId, parseQueueUrl library.url payload.queueUrl request.region = some queueId →
      addresses queueId) :
    (handleSendMessageBatch library messageIds request payload).run.Obeys (sending addresses)
      (fun _ _ => True) known := by
  refine obeys_load_bind named fun queue queueId isAddress => ?_
  refine Obeys.liftExcept_bind (fun _ => trivial) fun _ _ => ?_
  refine obeys_run_bind.mpr ?_
  rw [ExceptT.run_lift, map_eq_pure_bind, obeys_bind]
  refine (obeys_mapM fun entry _ => obeys_sendBatchEntry isAddress).mono fun _ _ _ => ?_
  exact trivial

/-- Handlers of the other actions send nothing. -/
theorem sendsNothing_of_mayCall {action : SqsAction} (single : action ≠ .sendMessage)
    (batch : action ≠ .sendMessageBatch) {call : SqsCall} (mayCall : action.MayCall call) :
    call.SendsNothing := by
  cases call with
  | sendMessage message =>
      cases action <;> first | exact absurd rfl single | exact absurd rfl batch | exact mayCall
  | createQueue | deleteQueue | getQueue | getMessageCount | getVisibleMessageCount
  | getMessagesDelayedCount | listQueues | purgeQueue | setQueueAttributes | listQueueTags
  | tagQueue | untagQueue | receiveMessages | deleteMessage | setMessageVisibleAt => exact trivial

theorem sendsNothing_of_isLookup (call : SqsCall) (isLookup : call.IsLookup) :
    call.SendsNothing := by
  cases call <;> first | exact isLookup.elim | exact trivial

/-- **A routed request sends only to the queue it is addressed to.** -/
theorem obeys_routed {decision : AuthorizationCheck → AuthorizationResult} (action : SqsAction) :
    ((sqsAction library generated action).typed.route
      (fun _ check => return decision check) request).Obeys
      (sending ((SqsTask.routed generated decision request action).Addresses library))
      (fun _ _ => True) known := by
  refine TypedAwsAction.obeys_route _ permits_sendsNothing
    ((onlyLookups_adaptedResolveAuthorization action).mono sendsNothing_of_isLookup)
    (fun _ => by exact trivial) ((onlyLookups_validate action).mono sendsNothing_of_isLookup) ?_ known
  intro known
  by_cases single : action = .sendMessage
  · subst single
    refine Obeys.liftExcept_bind (fun _ => trivial) fun payload parsed => ?_
    exact obeys_handleSendMessage fun queueId named => .single parsed named
  by_cases batch : action = .sendMessageBatch
  · subst batch
    refine Obeys.liftExcept_bind (fun _ => trivial) fun payload parsed => ?_
    exact obeys_handleSendMessageBatch fun queueId named => .batch parsed named
  · exact AllCalls.obeys ((mayCall_handle action).mono fun _ =>
      sendsNothing_of_mayCall single batch) permits_sendsNothing known

/-- **Every task sends only to the queue it is addressed to.** -/
theorem obeys_task (task : SqsTask) :
    (task.program library).Obeys (sending (task.Addresses library)) (fun _ _ => True) known := by
  cases task with
  | routed generated decision request action =>
      exact obeys_bind.mpr ((obeys_routed action).mono fun _ _ _ => trivial)
  | createQueueForm now form =>
      have sendsNothing : @OnlyCalls sqsStore _ _ SqsCall.SendsNothing
          (createQueueFromForm now form) :=
        onlyCalls_createQueueFromForm (fun _ _ _ => by exact trivial) fun _ => by exact trivial
      exact obeys_bind.mpr ((AllCalls.obeys sendsNothing permits_sendsNothing known).mono
        fun _ _ _ => trivial)

end Tasks

/-! ### Runs -/

section Runs

open SqsDatabase (identity serve)

variable {ι : Type}

/-- The thread that stored the last message under an id. -/
def LastSent (log : List (ι × Event sqsStore)) (messageId : Text) (thread : ι) : Prop :=
  ∃ before after message, log = before ++ (thread, ⟨.sendMessage message, .ok ()⟩) :: after ∧
    message.messageId = messageId ∧
    ∀ other, ∀ entry ∈ after, entry.2 = ⟨.sendMessage other, .ok ()⟩ →
      other.messageId ≠ messageId

/-- What one more event does to the last message. -/
theorem lastSent_snoc {log : List (ι × Event sqsStore)} {entry : ι × Event sqsStore}
    {messageId : Text} {thread : ι} (lastSent : LastSent (log ++ [entry]) messageId thread) :
    (∃ message, entry = (thread, ⟨.sendMessage message, .ok ()⟩) ∧
      message.messageId = messageId) ∨
    (LastSent log messageId thread ∧ ∀ message, entry.2 = ⟨.sendMessage message, .ok ()⟩ →
      message.messageId ≠ messageId) := by
  obtain ⟨before, after, message, split, sameId, none⟩ := lastSent
  rcases List.eq_nil_or_concat after with rfl | ⟨earlier, last, rfl⟩
  · obtain ⟨-, single⟩ := List.append_inj' split rfl
    exact .inl ⟨message, List.head_eq_of_cons_eq single, sameId⟩
  · rw [List.concat_eq_append] at split none
    rw [← List.cons_append, ← List.append_assoc] at split
    obtain ⟨isLog, single⟩ := List.append_inj' split rfl
    obtain rfl := List.head_eq_of_cons_eq single
    refine .inr ⟨⟨before, earlier, message, isLog, sameId, fun other entry member => ?_⟩, ?_⟩
    · exact none other entry (List.mem_append_left _ member)
    · exact fun other => none other entry (List.mem_append_right _ List.mem_cons_self)

variable {library : SqsLibrary} {tasks : ι → SqsTask}
  {start config : Config sqsStore Unit ι SqsDatabase}

/-- **No message is on its way to the number that a new queue gets**, unless it is
addressed to that queue. -/
def AddressFree (library : SqsLibrary) (tasks : ι → SqsTask)
    (config : Config sqsStore Unit ι SqsDatabase) (thread : ι) : Prop :=
  ∀ queue next, config.threads thread = .call (.createQueue queue) next →
    config.shared.getQueue queue.name queue.region queue.accountId = none →
    ∀ other message rest, config.threads other = .call (.sendMessage message) rest →
      message.queueId = config.shared.queues.nextId →
      ∀ queueId, (tasks other).Addresses library queueId → queueId.identity = identity queue

/-- Every stored message is in the queue it was addressed to, and so is every message
that is about to be stored. -/
structure AtHome (library : SqsLibrary) (tasks : ι → SqsTask)
    (config : Config sqsStore Unit ι SqsDatabase) : Prop where
  stored : ∀ row ∈ config.shared.messages.rows, ∀ thread,
    LastSent config.log row.messageId thread → ∀ queueId, (tasks thread).Addresses library queueId →
      ∃ queue ∈ config.shared.queues.rows, queue.id = row.queueId ∧
        identity queue = queueId.identity
  onItsWay : ∀ thread message next, config.threads thread = .call (.sendMessage message) next →
    ∀ queueId, (tasks thread).Addresses library queueId →
      ∀ queue ∈ config.shared.queues.rows, queue.id = message.queueId →
        identity queue = queueId.identity

/-- The messages of a queue are deleted with it. -/
theorem SqsDatabase.queueId_ne_of_deleteQueue {database : SqsDatabase} {queueId : RowId}
    {row : SqsMessageRow} (present : row ∈ (serve (.deleteQueue queueId) database).2.messages.rows)
    {queue : SqsQueue} (there : queue ∈ database.queues.rows) (same : queue.id = row.queueId) :
    row.queueId ≠ queueId := by
  rintro rfl
  have known : database.hasQueue row.queueId :=
    List.any_eq_true.mpr ⟨queue, there, decide_eq_true same⟩
  have left : row ∈ (database.deleteQueue row.queueId).2.messages.rows := present
  rw [SqsDatabase.deleteQueue, if_pos known] at left
  simpa using (RowTable.mem_filter.mp left).2

/-- **A queue stays as long as a message refers to it.** -/
theorem SqsDatabase.queue_stays {database : SqsDatabase} {call : SqsCall} {row : SqsMessageRow}
    (present : row ∈ (serve call database).2.messages.rows) {queue : SqsQueue}
    (there : queue ∈ database.queues.rows) (same : queue.id = row.queueId) :
    ∃ queue' ∈ (serve call database).2.queues.rows, queue'.id = row.queueId ∧
      identity queue' = identity queue := by
  rcases SqsDatabase.queues_serve call database with unchanged | ⟨created, -, -, added⟩ |
    ⟨queueId, rfl, left⟩ | ⟨queueId, attributes, -, changed⟩
  · rw [unchanged]
    exact ⟨queue, there, same, rfl⟩
  · rw [added]
    exact ⟨queue, RowTable.mem_insert.mpr (.inl there), same, rfl⟩
  · rw [left]
    have other := SqsDatabase.queueId_ne_of_deleteQueue present there same
    refine ⟨queue, RowTable.mem_filter.mpr ⟨there, ?_⟩, same, rfl⟩
    simpa [same] using other
  · rw [changed]
    refine ⟨_, List.mem_map_of_mem there, ?_⟩
    split_ifs
    · exact ⟨same, rfl⟩
    · exact ⟨same, rfl⟩

/-- What a thread that has just learned of a queue knows about it. -/
theorem identity_of_learnQueue {database : SqsDatabase} {call : SqsCall}
    {known : Option (RowId × QueueId)} {number : RowId} {queueId : QueueId}
    (learns : learnQueue known ⟨call, (serve call database).1⟩ = some (number, queueId))
    {queue : SqsQueue} (there : queue ∈ (serve call database).2.queues.rows)
    (same : queue.id = number) :
    (∃ message, call = .sendMessage message ∧ known = some (number, queueId)) ∨
      identity queue = queueId.identity := by
  cases call with
  | sendMessage message => exact .inl ⟨message, rfl, learns⟩
  | getQueue name region accountId =>
      right
      have answer : (serve (.getQueue name region accountId) database).1 =
          .ok (database.getQueue name region accountId) := rfl
      rw [answer] at learns
      cases found : database.getQueue name region accountId with
      | none =>
          rw [found] at learns
          cases learns
      | some row =>
          rw [found] at learns
          obtain ⟨rfl, rfl⟩ := Prod.mk.inj (Option.some.inj learns)
          obtain ⟨isRow, isIdentity⟩ := SqsDatabase.getQueue_eq_some found
          rw [RowTable.eq_of_key_eq there isRow same]
          exact isIdentity
  | createQueue | deleteQueue | getMessageCount | getVisibleMessageCount
  | getMessagesDelayedCount | listQueues | purgeQueue | setQueueAttributes | listQueueTags
  | tagQueue | untagQueue | receiveMessages | deleteMessage | setMessageVisibleAt => cases learns

/-- Where the queues after a call come from. -/
theorem SqsDatabase.queue_serve {database : SqsDatabase} {call : SqsCall} {queue : SqsQueue}
    (there : queue ∈ (serve call database).2.queues.rows) :
    (∃ old ∈ database.queues.rows, old.id = queue.id ∧ identity old = identity queue) ∨
      ∃ created, call = .createQueue created ∧
        database.getQueue created.name created.region created.accountId = none ∧
        queue = database.newQueueRow created database.queues.nextId := by
  rcases SqsDatabase.queues_serve call database with unchanged | ⟨created, rfl, free, added⟩ |
    ⟨queueId, rfl, left⟩ | ⟨queueId, attributes, -, changed⟩
  · exact .inl ⟨queue, unchanged ▸ there, rfl, rfl⟩
  · rw [added] at there
    rcases RowTable.mem_insert.mp there with old | isNew
    · exact .inl ⟨queue, old, rfl, rfl⟩
    · exact .inr ⟨created, rfl, free, isNew⟩
  · rw [left] at there
    exact .inl ⟨queue, (RowTable.mem_filter.mp there).1, rfl, rfl⟩
  · rw [changed] at there
    obtain ⟨old, isOld, rfl⟩ := List.mem_map.mp there
    refine .inl ⟨old, isOld, ?_⟩
    split_ifs
    · exact ⟨rfl, rfl⟩
    · exact ⟨rfl, rfl⟩

/-- A message that is stored now was not refused. -/
theorem SqsDatabase.stored_of_mem {database : SqsDatabase} {message : SqsMessage}
    (present : newMessageRow message database.messages.nextId ∈
      (serve (.sendMessage message) database).2.messages.rows) :
    (serve (.sendMessage message) database).1 = .ok () := by
  have old (isOld : newMessageRow message database.messages.nextId ∈ database.messages.rows) :
      False :=
    Nat.lt_irrefl _ (RowTable.key_lt_nextId isOld)
  simp only [SqsDatabase.serve, SqsDatabase.sendMessage] at present ⊢
  split_ifs at present ⊢
  · exact absurd present old
  · rfl
  · exact absurd present old

/-- Where the stored messages are, after a step. -/
theorem AtHome.stored_answer (atHome : AtHome library tasks config) {stepping : ι}
    {call : SqsCall} {next : call.Answer → SqsProgram Unit}
    (pending : config.threads stepping = .call call next) {row : SqsMessageRow}
    (present : row ∈ (serve call config.shared).2.messages.rows) {thread : ι}
    (lastSent : LastSent (config.log ++ [(stepping, ⟨call, (serve call config.shared).1⟩)])
      row.messageId thread) {queueId : QueueId}
    (addresses : (tasks thread).Addresses library queueId) :
    ∃ queue ∈ (serve call config.shared).2.queues.rows, queue.id = row.queueId ∧
      identity queue = queueId.identity := by
  -- a message with the id of a stored one is refused
  have new_of_sent : ∀ message, (⟨call, (serve call config.shared).1⟩ : Event sqsStore) =
      ⟨.sendMessage message, .ok ()⟩ → call = .sendMessage message ∧
        (serve (.sendMessage message) config.shared).1 = .ok () := by
    intro message same
    obtain ⟨rfl, answered⟩ := Sigma.mk.inj same
    exact ⟨rfl, eq_of_heq answered⟩
  rcases SqsDatabase.row_serve call present with ⟨old, isOld, fate⟩ | ⟨message, rfl, rfl, -⟩
  · have earlier : LastSent config.log old.messageId thread := by
      rcases lastSent_snoc lastSent with ⟨message, same, sameId⟩ | ⟨earlier, -⟩
      · obtain ⟨rfl, stored⟩ := new_of_sent message (Prod.mk.inj same).2
        exact absurd (fate.messageId.symm.trans sameId.symm)
          ((SqsDatabase.sendMessage_stored stored).1 old isOld)
      · exact fate.messageId ▸ earlier
    obtain ⟨queue, isQueue, sameQueue, home⟩ :=
      atHome.stored old isOld thread earlier queueId addresses
    obtain ⟨kept, isKept, sameKept, sameIdentity⟩ :=
      SqsDatabase.queue_stays present isQueue (sameQueue.trans fate.queueId.symm)
    exact ⟨kept, isKept, sameKept, sameIdentity.trans home⟩
  · have stored := SqsDatabase.stored_of_mem present
    obtain ⟨-, known, served⟩ := SqsDatabase.sendMessage_stored stored
    obtain rfl : thread = stepping := by
      rcases lastSent_snoc lastSent with ⟨other, same, -⟩ | ⟨-, none⟩
      · exact (Prod.mk.inj same).1.symm
      · refine absurd rfl (none message ?_)
        rw [stored]
    obtain ⟨queue, isQueue, isNumber⟩ := List.any_eq_true.mp known
    have same : queue.id = message.queueId := of_decide_eq_true isNumber
    refine ⟨queue, ?_, same, atHome.onItsWay thread message next pending queueId addresses queue
      isQueue same⟩
    rw [served]
    exact isQueue

variable [DecidableEq ι]

/-- A message that is about to be stored is sent to the number of the queue that was
looked up. -/
theorem knows_of_pending (begins : ∀ thread, start.threads thread = (tasks thread).program library)
    (fresh : start.log = [])
    {allowed : Config sqsStore Unit ι SqsDatabase → ι → Prop}
    (reachable : Reachable serve allowed start config) {thread : ι} {message : SqsMessage}
    {next : StoreResult Unit → SqsProgram Unit}
    (pending : config.threads thread = .call (.sendMessage message) next) :
    ∃ queueId, (tasks thread).Addresses library queueId ∧
      (config.history thread).foldl learnQueue none = some (message.queueId, queueId) := by
  have obeys : (config.threads thread).Obeys (sending ((tasks thread).Addresses library))
      (fun _ _ => True) ((config.history thread).foldl learnQueue none) :=
    reachable.obeys fresh ((begins thread).symm ▸ obeys_task (tasks thread))
  rw [pending] at obeys
  exact obeys.1

/-- **Every step leaves all messages at home.** -/
theorem AtHome.answer (begins : ∀ thread, start.threads thread = (tasks thread).program library)
    (fresh : start.log = [])
    {allowed : Config sqsStore Unit ι SqsDatabase → ι → Prop}
    (reachable : Reachable serve allowed start config) (atHome : AtHome library tasks config)
    {stepping : ι} (free : AddressFree library tasks config stepping)
    (permitted : allowed config stepping)
    {call : SqsCall} {next : call.Answer → SqsProgram Unit}
    (pending : config.threads stepping = .call call next) :
    AtHome library tasks (config.answer serve stepping call next) where
  stored _ present _ lastSent _ addresses :=
    atHome.stored_answer pending present lastSent addresses
  onItsWay := by
    intro thread message rest isPending queueId addresses queue there same
    by_cases itself : thread = stepping
    · -- it has just learned of the queue, or it sends once more
      subst itself
      obtain ⟨other, isAddress, knows⟩ :=
        knows_of_pending begins fresh (.step reachable permitted ⟨pending⟩) isPending
      obtain rfl := addresses.unique isAddress
      rw [history_answer_self, List.foldl_append] at knows
      rcases identity_of_learnQueue knows there same with ⟨last, rfl, known⟩ | home
      · obtain ⟨again, -, knew⟩ := knows_of_pending begins fresh reachable pending
        obtain ⟨sameNumber, -⟩ := Prod.mk.inj (Option.some.inj (knew.symm.trans known))
        rcases SqsDatabase.queue_serve there with ⟨old, isOld, sameRow, sameIdentity⟩ |
          ⟨created, isCreate, -⟩
        · rw [← sameIdentity]
          exact atHome.onItsWay thread last next pending queueId addresses old isOld
            (sameRow.trans (same.trans sameNumber.symm))
        · cases isCreate
      · exact home
    · rw [threads_answer_ne itself] at isPending
      rcases SqsDatabase.queue_serve there with ⟨old, isOld, sameRow, sameIdentity⟩ |
        ⟨created, rfl, isFree, rfl⟩
      · rw [← sameIdentity]
        exact atHome.onItsWay thread message rest isPending queueId addresses old isOld
          (sameRow.trans same)
      · exact (free created next pending isFree thread message rest isPending same.symm queueId
          addresses).symm

/-- **Every message is in the queue it was addressed to**, as long as no new queue gets
the number that a message is on its way to. -/
theorem messages_stay_home
    (begins : ∀ thread, start.threads thread = (tasks thread).program library)
    (fresh : start.log = [])
    (reachable : Reachable serve (AddressFree library tasks) start config) :
    ∀ row ∈ config.shared.messages.rows, ∀ thread,
      LastSent config.log row.messageId thread →
      ∀ queueId, (tasks thread).Addresses library queueId →
        ∃ queue ∈ config.shared.queues.rows, queue.id = row.queueId ∧
          identity queue = queueId.identity := by
  have atHome : AtHome library tasks config := by
    refine reachable.invariant (AtHome library tasks) ⟨?_, ?_⟩ ?_
    · rintro row - thread ⟨before, after, message, split, -⟩
      rw [fresh] at split
      exact absurd split.symm (by simp)
    · rintro thread message next pending queueId -
      have begun : Reachable serve (AddressFree library tasks) start start := .start
      obtain ⟨other, -, knows⟩ := knows_of_pending begins fresh begun pending
      rw [Config.history, fresh] at knows
      cases knows
    · rintro config config' thread earlier atHome free ⟨pending⟩
      exact atHome.answer begins fresh earlier free free pending
  exact atHome.stored

end Runs

/-! ### A queue that is deleted while a message is on its way -/

section Reuse

open SqsDatabase (identity serve)

/-- The URL of the queue that all requests below are about. -/
def ordersAddress : QueueId where
  name := "orders"
  region := "us-east-1"
  accountId := "000000000000"

/-- The payloads of the two requests. -/
def sendOrders : Json :=
  .object [("QueueUrl", .string "http://localhost:4566/000000000000/orders"),
    ("MessageBody", .string "hello")]

def deleteOrders : Json :=
  .object [("QueueUrl", .string "http://localhost:4566/000000000000/orders")]

/-- The library, which reads these payloads, and the empty object. -/
def homesLibrary : SqsLibrary :=
  { emptyObjectLibrary with
    json := { emptyObjectLibrary.json with
      read := fun bytes =>
        if bytes = Text.utf8 "{}" then .ok (.object [])
        else if bytes = Text.utf8 "send" then .ok sendOrders
        else .ok deleteOrders } }

inductive Client where
  | sender
  | deleter
  | creator
  deriving DecidableEq

/-- One client sends to a queue, one deletes it, and one creates another. -/
def clientTask : Client → SqsTask
  | .sender => .routed ⟨fun _ => 0, fun _ => "m", 0⟩ (fun _ => .allow) (userRequest 0 "send")
      .sendMessage
  | .deleter => .routed ⟨fun _ => 0, fun _ => "m", 0⟩ (fun _ => .allow) (userRequest 0 "delete")
      .deleteQueue
  | .creator => .createQueueForm 0 { ordersForm with queueName := "users" }

/-- The clients before they start. -/
def clientsStart : Config sqsStore Unit Client SqsDatabase where
  shared := ordersStore
  threads := fun client => (clientTask client).program homesLibrary
  log := []

theorem addresses_sender : (clientTask .sender).Addresses homesLibrary ordersAddress := by
  have parsed : parseSqsPayload homesLibrary decodeSendMessageRequest
      (userRequest 0 "send").request = .ok ⟨⟨none, none, none, "hello", none, none⟩,
        "http://localhost:4566/000000000000/orders"⟩ := by
    decide +kernel
  exact .single parsed (by decide +kernel)

/-- No client is about to send. -/
def nobodySends (config : Config sqsStore Unit Client SqsDatabase) (client : Client) : Bool :=
  match (config.threads client).upcoming with
  | some (.createQueue _) => [Client.sender, .deleter, .creator].all fun other =>
      match (config.threads other).upcoming with
      | some (.sendMessage _) => false
      | _ => true
  | _ => true

theorem addressFree_of_nobodySends (config : Config sqsStore Unit Client SqsDatabase)
    (client : Client) (nobody : nobodySends config client) :
    AddressFree homesLibrary clientTask config client := by
  rintro queue next pending - other message rest sends
  have all := nobody
  rw [nobodySends, upcoming_eq_some.mpr ⟨next, pending⟩] at all
  have here := List.all_eq_true.mp all other (by cases other <;> decide)
  rw [upcoming_eq_some.mpr ⟨rest, sends⟩] at here
  cases here

/-- A run in which the other queue is created after the message was sent. -/
def sentFirst : Config sqsStore Unit Client SqsDatabase :=
  clientsStart.play serve [.sender, .sender, .sender, .sender, .creator, .creator]

/-- The message is then in the queue it was addressed to. -/
theorem messages_stay_home_clients :
    sentFirst.shared.messages.rows.length = 1 ∧
      ∀ row ∈ sentFirst.shared.messages.rows,
        ∀ thread, LastSent sentFirst.log row.messageId thread →
        ∀ queueId, (clientTask thread).Addresses homesLibrary queueId →
          ∃ queue ∈ sentFirst.shared.queues.rows,
            queue.id = row.queueId ∧ identity queue = queueId.identity := by
  have reachable : Reachable serve (AddressFree homesLibrary clientTask) clientsStart sentFirst :=
    Reachable.play addressFree_of_nobodySends .start (by decide +kernel)
  exact ⟨by decide +kernel, messages_stay_home (fun _ => rfl) rfl reachable⟩

/-- Before the message is stored, its queue is deleted, and another queue is created. -/
def reused : Config sqsStore Unit Client SqsDatabase :=
  clientsStart.play serve [.sender, .sender, .sender, .deleter, .deleter, .deleter, .creator]

/-- The message that is then stored. -/
def lateMessage : SqsMessage :=
  { helloMessage 0 with messageAttributes := none }

/-- **The message is stored in the other queue**, whose name is not the one that the
message was addressed to. -/
theorem message_leaves_home :
    ∃ config, Reachable serve (fun _ _ => True) clientsStart config ∧
      ∃ row ∈ config.shared.messages.rows, LastSent config.log row.messageId .sender ∧
        (clientTask .sender).Addresses homesLibrary ordersAddress ∧
        ¬ ∃ queue ∈ config.shared.queues.rows, queue.id = row.queueId ∧
          identity queue = ordersAddress.identity := by
  have reachable : Reachable serve (fun _ _ => True) clientsStart reused :=
    Reachable.play (fun _ _ _ => trivial) .start Config.passes_true
  have asks : (reused.threads .sender).upcoming = some (.sendMessage lateMessage) := by
    decide +kernel
  have stored : (serve (.sendMessage lateMessage) reused.shared).1 = .ok () := by
    decide +kernel
  obtain ⟨next, pending⟩ := upcoming_eq_some.mp asks
  obtain ⟨-, -, served⟩ := SqsDatabase.sendMessage_stored stored
  refine ⟨_, .step reachable trivial ⟨pending⟩, SqsDatabase.newMessageRow lateMessage
    reused.shared.messages.nextId, ?_, ?_, addresses_sender, ?_⟩
  · show _ ∈ (serve (.sendMessage lateMessage) reused.shared).2.messages.rows
    rw [served]
    exact List.mem_append_right _ List.mem_cons_self
  · refine ⟨reused.log, [], lateMessage, ?_, rfl, fun _ _ member => absurd member List.not_mem_nil⟩
    show reused.log ++ [(_, ⟨.sendMessage lateMessage, _⟩)] = _
    rw [stored]
  · rintro ⟨queue, isRow, -, same⟩
    have here : queue ∈ reused.shared.queues.rows := by
      have after : queue ∈ (serve (.sendMessage lateMessage) reused.shared).2.queues.rows := isRow
      rw [served] at after
      exact after
    have others : reused.shared.queues.rows.all (fun queue =>
        !decide (identity queue = ordersAddress.identity)) = true := by
      decide +kernel
    simpa [same] using List.all_eq_true.mp others queue here

end Reuse

end Hiraeth
