import Hiraeth.Lib.Knowledge
import Hiraeth.Lib.Refine
import Hiraeth.Lib.Untouched
import Hiraeth.Sns.Delivery
import Hiraeth.Sqs.AuthorizedQueue
import Hiraeth.Sqs.MessageHomes

/-!
# Queues that nobody names

Handlers look their queue up by name, and go on with its number.  Numbers are used again, so a
number may mean another queue by the time it is used; but it never means a queue that was there
all along and that nobody named.  Such a queue keeps its row, its messages and its tags, whatever
is done to others.

## Main definitions

* `QueueContent` — what a queue consists of
* `QueueTask.Names` — the queue that a task is about
* `sparing` — which calls are permitted to those who name other queues

## Main results

* `contentOf_serve` — a call for another number leaves the content as it is
* `other_queues_unchanged` — the content of a queue that nobody names, in every run
-/

namespace Hiraeth

open Interaction Program
open SqsDatabase (identity serve)

/-! ### The content of a queue -/

/-- **What a queue consists of**: its row, its messages and its tags. -/
structure QueueContent where
  rows : List SqsQueue
  messages : List SqsMessageRow
  tags : List QueueTag

/-- What is stored under the number of a queue. -/
def SqsDatabase.contentOf (database : SqsDatabase) (number : RowId) : QueueContent where
  rows := database.queues.rows.filter (·.id = number)
  messages := database.messages.rows.filter (·.queueId = number)
  tags := database.tags.filter (·.queueId = number)

section Frame

variable {database : SqsDatabase} {number queueId : RowId}

/-- Tags of another queue. -/
theorem filter_putTag (other : queueId ≠ number) (tags : List QueueTag) (entry : Text × Text) :
    (SqsDatabase.putTag queueId tags entry).filter (·.queueId = number) =
      tags.filter (·.queueId = number) := by
  unfold SqsDatabase.putTag
  split_ifs with present
  · refine Untouched.filter_map (fun tag _ => ?_) fun tag _ isWanted => if_neg fun replaced => ?_
    · split_ifs <;> rfl
    · exact other (replaced.1.symm.trans (of_decide_eq_true isWanted))
  · refine Untouched.filter_append fun tag member isWanted => ?_
    obtain rfl := List.mem_singleton.mp member
    exact other (of_decide_eq_true isWanted)

theorem filter_foldl_putTag (other : queueId ≠ number) (entries : List (Text × Text))
    (tags : List QueueTag) :
    (entries.foldl (SqsDatabase.putTag queueId) tags).filter (·.queueId = number) =
      tags.filter (·.queueId = number) := by
  induction entries generalizing tags with
  | nil => rfl
  | cons entry entries inductionHypothesis =>
      rw [List.foldl_cons, inductionHypothesis, filter_putTag other]

/-- Messages that are not held by the queue stay apart from it. -/
theorem queueId_of_heldUnder {receiptHandle : Text} {row : SqsMessageRow}
    (held : SqsDatabase.heldUnder queueId receiptHandle row) : row.queueId = queueId := by
  unfold SqsDatabase.heldUnder at held
  simp only [Bool.and_eq_true, decide_eq_true_eq] at held
  exact held.1

/-- What another queue leases. -/
theorem filter_leasedMessages (other : queueId ≠ number) (maxNumberOfMessages : ℤ)
    (visibilityTimeoutSeconds : ℕ) :
    (database.leasedMessages queueId maxNumberOfMessages
      visibilityTimeoutSeconds).rows.filter (·.queueId = number) =
        database.messages.rows.filter (·.queueId = number) := by
  refine Untouched.filter_map (fun row _ => ?_) fun row stored isWanted => ?_
  · unfold SqsDatabase.lease
    split_ifs <;> rfl
  · refine if_neg fun selected => other ?_
    have isRow := (SqsDatabase.mem_selection
      ((SqsDatabase.mem_selection_iff stored).mp selected)).2.1
    exact isRow.symm.trans (of_decide_eq_true isWanted)

/-- **A call for another number leaves the content as it is**, and so does the creation of
another queue. -/
theorem contentOf_serve {call : SqsCall} (other : call.queueId ≠ some number)
    (there : ∃ queue ∈ database.queues.rows, queue.id = number) :
    (serve call database).2.contentOf number = database.contentOf number := by
  cases call with
  | createQueue created =>
      show (database.createQueue created).2.contentOf number = _
      unfold SqsDatabase.createQueue
      split_ifs with taken
      · rfl
      · obtain ⟨queue, isQueue, rfl⟩ := there
        refine congrArg (QueueContent.mk · _ _)
          (Untouched.filter_append fun row member same => ?_)
        obtain rfl := List.mem_singleton.mp member
        exact Nat.ne_of_gt (RowTable.key_lt_nextId isQueue) (of_decide_eq_true same)
  | deleteQueue queueId =>
      have apart : queueId ≠ number := fun same => other (congrArg some same)
      show (database.deleteQueue queueId).2.contentOf number = _
      unfold SqsDatabase.deleteQueue
      split_ifs
      · unfold SqsDatabase.contentOf
        congr 1
        · refine Untouched.filter_filter fun row _ isWanted => ?_
          rw [of_decide_eq_true isWanted]
          simpa using apart.symm
        · refine Untouched.filter_filter fun row _ isWanted => ?_
          rw [of_decide_eq_true isWanted]
          simpa using apart.symm
        · refine Untouched.filter_filter fun row _ isWanted => ?_
          rw [of_decide_eq_true isWanted]
          simpa using apart.symm
      · rfl
  | setQueueAttributes queueId update =>
      have apart : queueId ≠ number := fun same => other (congrArg some same)
      show (database.setQueueAttributes queueId update).2.contentOf number = _
      unfold SqsDatabase.setQueueAttributes
      dsimp only
      split_ifs
      · refine congrArg (QueueContent.mk · _ _) (Untouched.filter_map (fun row _ => ?_) ?_)
        · split_ifs <;> rfl
        · intro row _ isWanted
          exact if_neg fun same => apart (same.symm.trans (of_decide_eq_true isWanted))
      · rfl
  | tagQueue queueId entries =>
      have apart : queueId ≠ number := fun same => other (congrArg some same)
      show (database.tagQueue queueId entries).2.contentOf number = _
      unfold SqsDatabase.tagQueue
      split_ifs
      · exact congrArg (QueueContent.mk _ _) (filter_foldl_putTag apart _ _)
      · rfl
  | untagQueue queueId tagKeys =>
      have apart : queueId ≠ number := fun same => other (congrArg some same)
      show (database.untagQueue queueId tagKeys).2.contentOf number = _
      unfold SqsDatabase.untagQueue
      split_ifs
      · refine congrArg (QueueContent.mk _ _) (Untouched.filter_filter fun tag _ isWanted => ?_)
        rw [of_decide_eq_true isWanted, decide_eq_false apart.symm]
        rfl
      · rfl
  | sendMessage message =>
      have apart : message.queueId ≠ number := fun same => other (congrArg some same)
      show (database.sendMessage message).2.contentOf number = _
      unfold SqsDatabase.sendMessage
      split_ifs
      · rfl
      · refine congrArg (QueueContent.mk _ · _)
          (Untouched.filter_append fun row member same => ?_)
        obtain rfl := List.mem_singleton.mp member
        exact apart (of_decide_eq_true same)
      · rfl
  | receiveMessages queueId limit timeout =>
      have apart : queueId ≠ number := fun same => other (congrArg some same)
      show (database.receiveMessages queueId limit timeout).2.contentOf number = _
      rcases Int.lt_or_le naiveDateTimeMax (database.leaseEnd timeout) with out | within
      · rw [SqsDatabase.receiveMessages_outOfRange out]
        rfl
      · rw [SqsDatabase.receiveMessages_eq within]
        exact congrArg (QueueContent.mk _ · _) (filter_leasedMessages apart _ _)
  | deleteMessage queueId receiptHandle =>
      have apart : queueId ≠ number := fun same => other (congrArg some same)
      show (database.deleteMessage queueId receiptHandle).2.contentOf number = _
      unfold SqsDatabase.deleteMessage
      split_ifs
      · refine congrArg (QueueContent.mk _ · _) (Untouched.filter_filter fun row _ isWanted => ?_)
        cases held : SqsDatabase.heldUnder queueId receiptHandle row with
        | false => rfl
        | true =>
            exact absurd ((queueId_of_heldUnder held).symm.trans (of_decide_eq_true isWanted)) apart
      · rfl
  | setMessageVisibleAt queueId receiptHandle visibleAt =>
      have apart : queueId ≠ number := fun same => other (congrArg some same)
      show (database.setMessageVisibleAt queueId receiptHandle visibleAt).2.contentOf number = _
      unfold SqsDatabase.setMessageVisibleAt
      split_ifs
      · refine congrArg (QueueContent.mk _ · _) (Untouched.filter_map (fun row _ => ?_) ?_)
        · unfold SqsDatabase.reschedule
          split_ifs <;> rfl
        · intro row _ isWanted
          refine if_neg fun held => apart ?_
          exact (queueId_of_heldUnder held).symm.trans (of_decide_eq_true isWanted)
      · rfl
  | purgeQueue queueId =>
      have apart : queueId ≠ number := fun same => other (congrArg some same)
      refine congrArg (QueueContent.mk _ · _) (Untouched.filter_filter fun row _ isWanted => ?_)
      rw [of_decide_eq_true isWanted]
      simpa using apart.symm
  | getQueue | getMessageCount | getVisibleMessageCount | getMessagesDelayedCount | listQueues
  | listQueueTags => rfl

end Frame

/-! ### Tasks -/

/-- **A request, a form of the console, or the delivery of a publication.** -/
inductive QueueTask where
  | ofTask (task : SqsTask)
  | delivery (mode : AuthorizationMode) (generated : DeliveryGenerated) (topic : SnsTopic)
      (requestBody : PublishRequest) (messageId : Text) (subscription : SnsSubscription)

/-- A task as a program over the store, without its answer. -/
def QueueTask.program (library : SnsLibrary) : QueueTask → SqsProgram Unit
  | .ofTask task => task.program library.sqs
  | .delivery mode generated topic requestBody messageId subscription =>
      deliver library mode generated topic requestBody messageId subscription

/-- **The queue that a task is about**: a request names it by the URL in its body, a subscription
by its endpoint.  Actions that create, look up or list queues are about none. -/
inductive QueueTask.Names (library : SnsLibrary) : QueueTask → Text × Text × Text → Prop
  | url {generated : SqsGenerated} {decision : AuthorizationCheck → AuthorizationResult}
      {request : ResolvedRequest} {action : SqsAction} {queueUrl : Text} {queueId : QueueId}
      (notCreate : action ≠ .createQueue) (notGet : action ≠ .getQueueUrl)
      (notList : action ≠ .listQueues)
      (untyped : getQueueUrlFromRequest library.sqs request = .ok queueUrl)
      (parsed : parseQueueUrl library.sqs.url queueUrl request.region = some queueId) :
      QueueTask.Names library (.ofTask (.routed generated decision request action))
        queueId.identity
  | endpoint {mode : AuthorizationMode} {generated : DeliveryGenerated} {topic : SnsTopic}
      {requestBody : PublishRequest} {messageId : Text} {subscription : SnsSubscription}
      {queueId : QueueId} (parsed : parseSqsEndpointArn subscription.endpoint = some queueId) :
      QueueTask.Names library
        (.delivery mode generated topic requestBody messageId subscription) queueId.identity

/-! ### What is permitted -/

/-- What a task has learned of queues: the one that it looked up last, or that it has created the
one that is to be spared. -/
inductive QueueNews where
  | nothing
  | found (queueId : RowId) (name : Text × Text × Text)
  | recreated

/-- What a task learns. -/
def QueueNews.learn (spared : Text × Text × Text) : QueueNews → Event sqsStore → QueueNews
  | .recreated, _ => .recreated
  | _, ⟨.getQueue name region accountId, .ok (some queue)⟩ =>
      .found queue.id (name, region, accountId)
  | known, ⟨.createQueue queue, .ok ()⟩ => if identity queue = spared then .recreated else known
  | known, _ => known

/-- **Which calls are permitted to those who name other queues**: those for a queue that was
looked up by another name.  Who has created the queue itself could do anything with it, but does
not exist as long as it is there. -/
def sparing (spared : Text × Text × Text) : Discipline sqsStore QueueNews where
  learn := QueueNews.learn spared
  permits known request := known = .recreated ∨ ∀ queueId, request.queueId = some queueId →
    ∃ name, known = .found queueId name ∧ name ≠ spared

/-- What is known is true of a queue that was there all along. -/
def QueueNews.IsTrue (spared : Text × Text × Text) (number : RowId) : QueueNews → Prop
  | .nothing => True
  | .found queueId name => name ≠ spared → queueId ≠ number
  | .recreated => False

section Permitted

variable {spared : Text × Text × Text} {known : QueueNews} {queueId : RowId}

/-- A call that is about no queue. -/
theorem permits_of_none (known : QueueNews) (request : SqsCall)
    (aboutNone : request.queueId = none) : (sparing spared).permits known request := by
  right
  intro queueId about
  rw [aboutNone] at about
  cases about

theorem queueId_of_isLookup (call : SqsCall) (isLookup : call.IsLookup) : call.queueId = none := by
  cases call <;> first | exact isLookup.elim | rfl

/-- A call for the queue that was found. -/
theorem permits_of_found {name : Text × Text × Text} (other : name ≠ spared) (request : SqsCall)
    (about : request.IsAbout queueId) : (sparing spared).permits (.found queueId name) request := by
  right
  intro number isNumber
  obtain rfl := Option.some.inj (about.symm.trans isNumber)
  exact ⟨name, rfl, other⟩

/-- A call that is about a queue teaches nothing. -/
theorem learn_of_isAbout {request : SqsCall} (about : request.IsAbout queueId)
    (answer : request.Answer) : (sparing spared).learn known ⟨request, answer⟩ = known := by
  cases request with
  | createQueue => cases about
  | getQueue => cases about
  | deleteQueue | getMessageCount | getVisibleMessageCount | getMessagesDelayedCount | listQueues
  | purgeQueue | setQueueAttributes | listQueueTags | tagQueue | untagQueue | sendMessage
  | receiveMessages | deleteMessage | setMessageVisibleAt => cases known <;> rfl

/-- Calls for the queue that was found, one after the other. -/
theorem obeys_of_allCalls_isAbout {α : Type} {program : SqsProgram α}
    {name : Text × Text × Text} (other : name ≠ spared)
    (only : @AllCalls sqsStore _ (SqsCall.IsAbout queueId) program) :
    program.Obeys (sparing spared) (fun _ _ => True) (.found queueId name) := by
  induction program with
  | done result => trivial
  | call request next inductionHypothesis =>
      refine ⟨permits_of_found other request only.1, fun answer => ?_⟩
      rw [learn_of_isAbout only.1]
      exact inductionHypothesis answer (only.2 answer)

/-- Who has created the queue may do anything. -/
theorem obeys_recreated {α : Type} (program : SqsProgram α) :
    program.Obeys (sparing spared) (fun _ _ => True) .recreated := by
  induction program with
  | done result => trivial
  | call request next inductionHypothesis =>
      exact ⟨.inl rfl, fun answer => inductionHypothesis answer⟩

/-- After a lookup by another name, calls for what was found. -/
theorem obeys_after_getQueue {α : Type} {name region accountId : Text} {queue : SqsQueue}
    {program : SqsProgram α} (other : (name, region, accountId) ≠ spared)
    (only : @AllCalls sqsStore _ (SqsCall.IsAbout queue.id) program) :
    program.Obeys (sparing spared) (fun _ _ => True)
      ((sparing spared).learn known ⟨.getQueue name region accountId, .ok (some queue)⟩) := by
  cases known with
  | recreated => exact obeys_recreated program
  | nothing => exact obeys_of_allCalls_isAbout other only
  | found => exact obeys_of_allCalls_isAbout other only

end Permitted

/-! ### Who names another queue -/

namespace TypedAwsAction

variable {I : Interface} {Error Request Response : Type}
  (action : TypedAwsAction I Error Request Response)

/-- **A routed request obeys** when its handler does, should authorization have been resolved. -/
theorem obeys_route_of_completes {K : Type} {discipline : Discipline I K} {allowed : I.Call → Prop}
    {authorize : ResolvedRequest → AuthorizationCheck → Program I AuthorizationResult}
    {request : ResolvedRequest}
    (permitted : ∀ known call, allowed call → discipline.permits known call)
    (resolves : OnlyCalls allowed (action.adaptedResolveAuthorization request))
    (authorizes : ∀ check, (authorize request check).AllCalls allowed)
    (validates : OnlyCalls allowed (action.adaptedValidate request))
    (handles : ∀ events check, Completes (action.adaptedResolveAuthorization request) events check →
      ∀ known, (action.adaptedHandle request).run.Obeys discipline (fun _ _ => True) known)
    (known : K) :
    (action.route authorize request).Obeys discipline (fun _ _ => True) known := by
  refine obeys_bind.mpr ((AllCalls.obeys resolves permitted known).finishing.mono
    fun outcome resolved ended => ?_)
  rcases outcome with error | check
  · exact trivial
  obtain ⟨-, events, completes⟩ := ended
  refine obeys_bind.mpr ((AllCalls.obeys (authorizes check) permitted resolved).mono
    fun decision decided _ => ?_)
  rcases decision with allow | deny
  · refine obeys_bind.mpr ((AllCalls.obeys validates permitted decided).mono
      fun outcome validated _ => ?_)
    rcases outcome with error | ⟨⟩
    · exact trivial
    refine obeys_bind.mpr ((handles events check completes validated).mono fun outcome _ _ => ?_)
    cases outcome <;> exact trivial
  · exact trivial

end TypedAwsAction

section Handlers

variable {library : SqsLibrary} {generated : SqsGenerated} {request : ResolvedRequest}
  {spared : Text × Text × Text} {known : QueueNews}

/-- What is known once a queue was loaded. -/
theorem obeys_sparing_load {queueUrl : Text} :
    (loadQueueFromUrl library request queueUrl).run.Obeys (sparing spared)
      (fun outcome after => ∀ queue, outcome = .ok queue → ∃ queueId before,
        parseQueueUrl library.url queueUrl request.region = some queueId ∧
          after = (sparing spared).learn before
            ⟨.getQueue queueId.name queueId.region queueId.accountId, .ok (some queue)⟩) known := by
  unfold loadQueueFromUrl
  cases parsed : parseQueueUrl library.url queueUrl request.region with
  | none =>
      rintro queue ⟨⟩
  | some queueId =>
      refine Obeys.orFail_bind ⟨permits_of_none _ _ rfl, fun answer => ⟨?_, ?_⟩⟩
      · rintro failure - queue ⟨⟩
      · rintro found rfl
        cases found with
        | none => rintro queue ⟨⟩
        | some queue =>
            rintro _ ⟨⟩
            exact ⟨queueId, known, rfl, rfl⟩

/-- **Handlers that act on another queue.** -/
theorem obeys_actsOnQueue {Response : Type} {queueUrl : Text}
    {program : ExceptT SqsError SqsProgram Response}
    (acts : ActsOnQueue library request queueUrl program)
    (other : ∀ queueId, parseQueueUrl library.url queueUrl request.region = some queueId →
      queueId.identity ≠ spared) :
    program.run.Obeys (sparing spared) (fun _ _ => True) known := by
  induction acts with
  | load only =>
      refine obeys_run_bind.mpr (obeys_sparing_load.mono fun outcome after loaded => ?_)
      cases outcome with
      | error failure => trivial
      | ok queue =>
          obtain ⟨queueId, before, parsed, rfl⟩ := loaded queue rfl
          exact obeys_after_getQueue (other queueId parsed) (only queue)
  | check later inductionHypothesis =>
      exact Obeys.liftExcept_bind (fun _ => trivial) inductionHypothesis

/-- Tagging another queue, once it was created. -/
theorem obeys_sparing_tagCreatedQueue {requestBody : CreateQueueRequest}
    (other : (requestBody.queueName, request.region, request.authContext.principal.accountId) ≠
      spared) :
    (tagCreatedQueue request requestBody).run.Obeys (sparing spared) (fun _ _ => True) known := by
  unfold tagCreatedQueue
  split_ifs with none
  · trivial
  · refine Obeys.orFail_bind ⟨permits_of_none _ _ rfl, fun answer => ⟨fun _ _ => trivial, ?_⟩⟩
    rintro found rfl
    cases found with
    | none => trivial
    | some queue =>
        exact obeys_after_getQueue other (onlyCalls_orFail (allCalls_perform.mpr (by rfl)))

/-- **Creating a queue**, be it the one that is spared. -/
theorem obeys_sparing_handleCreateQueue {now : Time} {requestBody : CreateQueueRequest} :
    (handleCreateQueue library now request requestBody).run.Obeys (sparing spared)
      (fun _ _ => True) known := by
  refine Obeys.liftExcept_bind (fun _ => trivial) fun values _ => obeys_run_bind.mpr ?_
  rw [ExceptT.run_lift, map_eq_pure_bind, obeys_bind]
  refine ⟨permits_of_none _ _ rfl, fun created => ?_⟩
  match created with
  | .ok () =>
      by_cases same : (requestBody.queueName, request.region,
          request.authContext.principal.accountId) = spared
      · have recreated : (sparing spared).learn known ⟨.createQueue (newQueue now request
            requestBody.queueName values), .ok ()⟩ = .recreated := by
          cases known with
          | recreated => rfl
          | nothing | found => exact if_pos same
        rw [recreated]
        exact obeys_recreated _
      · refine obeys_run_bind.mpr ((obeys_sparing_tagCreatedQueue same).mono
          fun outcome _ _ => ?_)
        cases outcome <;> trivial
  | .error (.conflict _) =>
      refine Obeys.orFail_bind ⟨permits_of_none _ _ rfl, fun answer => ⟨fun _ _ => trivial, ?_⟩⟩
      rintro found rfl
      cases found with
      | none => trivial
      | some existing =>
          dsimp only
          split_ifs <;> trivial
  | .error (.notFound _) => trivial
  | .error (.storageFailure _) => trivial

/-- An action that is about a queue finds its URL in the body, or fails before it is handled. -/
theorem reads_of_completes {action : SqsAction} (notCreate : action ≠ .createQueue)
    (notGet : action ≠ .getQueueUrl) (notList : action ≠ .listQueues)
    {events : List (Event sqsStore)} {check : AuthorizationCheck}
    (completes : Completes
      ((sqsAction library generated action).typed.adaptedResolveAuthorization request) events
        check) :
    ∃ queueUrl, getQueueUrlFromRequest library request = .ok queueUrl := by
  obtain ⟨payload, first, later, rfl, -, resolved⟩ := completes_bind.mp completes
  have resolves : Completes (Sqs.resolveAuthorization library action request) later check := by
    cases action <;> exact resolved
  unfold Sqs.resolveAuthorization at resolves
  rw [getRelevantQueueForAction_eq notCreate notGet notList] at resolves
  obtain ⟨found, before, after, rfl, loads, -⟩ := completes_bind.mp resolves
  obtain ⟨queue, sooner, later, rfl, loads, -⟩ := completes_bind.mp loads
  obtain ⟨queueUrl, first, -, rfl, readsUrl, -⟩ := completes_bind.mp loads
  exact ⟨queueUrl, (completes_liftExcept.mp readsUrl).2⟩

/-- **Requests that name another queue.** -/
theorem obeys_sparing_routed {decision : AuthorizationCheck → AuthorizationResult}
    {action : SqsAction} {sns : SnsLibrary} (same : sns.sqs = library)
    (other : ¬ (QueueTask.ofTask (.routed generated decision request action)).Names sns spared) :
    ((sqsAction library generated action).typed.route
      (fun _ check => return decision check) request).Obeys (sparing spared) (fun _ _ => True)
      known := by
  refine TypedAwsAction.obeys_route_of_completes _ permits_of_none
    ((onlyLookups_adaptedResolveAuthorization action).mono queueId_of_isLookup)
    (fun _ => by exact trivial) ((onlyLookups_validate action).mono queueId_of_isLookup) ?_ known
  intro events check completes known
  by_cases creates : action = .createQueue
  · subst creates
    exact Obeys.liftExcept_bind (fun _ => trivial) fun payload _ => obeys_sparing_handleCreateQueue
  by_cases gets : action = .getQueueUrl
  · subst gets
    refine AllCalls.obeys ((mayCall_handle .getQueueUrl).mono fun call mayCall => ?_)
      permits_of_none known
    cases call <;> first | rfl | exact mayCall.elim
  by_cases lists : action = .listQueues
  · subst lists
    refine AllCalls.obeys ((mayCall_handle .listQueues).mono fun call mayCall => ?_)
      permits_of_none known
    cases call <;> first | rfl | exact mayCall.elim
  · subst same
    obtain ⟨queueUrl, untyped⟩ := reads_of_completes creates gets lists completes
    refine obeys_actsOnQueue (actsOnQueue_handle creates gets lists untyped) ?_
    rintro queueId parsed rfl
    exact other (.url creates gets lists untyped parsed)

/-- **Every task that names another queue**, or none. -/
theorem obeys_sparing_task {sns : SnsLibrary} (task : QueueTask) (other : ¬ task.Names sns spared) :
    (task.program sns).Obeys (sparing spared) (fun _ _ => True) known := by
  cases task with
  | ofTask task =>
      cases task with
      | routed generated decision request action =>
          exact obeys_bind.mpr ((obeys_sparing_routed rfl other).mono fun _ _ _ => trivial)
      | createQueueForm now form =>
          have aboutNone : @OnlyCalls sqsStore _ _ (fun call => call.queueId = none)
              (createQueueFromForm now form) :=
            onlyCalls_createQueueFromForm (fun _ _ _ => by exact rfl) fun _ => by exact rfl
          exact obeys_bind.mpr ((AllCalls.obeys aboutNone permits_of_none known).mono
            fun _ _ _ => trivial)
  | delivery mode generated topic requestBody messageId subscription =>
      show (deliver sns mode generated topic requestBody messageId subscription).Obeys _ _ _
      unfold deliver
      by_cases isSqs : subscription.protocol = ("sqs" : Text)
      · rw [if_pos isSqs, obeys_bind]
        unfold deliverToSqs
        cases parsed : parseSqsEndpointArn subscription.endpoint with
        | none => trivial
        | some queueId =>
            refine Obeys.orFail_bind ⟨permits_of_none _ _ rfl, fun answer =>
              ⟨fun _ _ => trivial, ?_⟩⟩
            rintro found rfl
            cases found with
            | none => trivial
            | some queue =>
                refine obeys_after_getQueue (fun same => other (same ▸ .endpoint parsed)) ?_
                refine allCalls_sendDelivery fun message prepares => ?_
                simp only [prepareEnqueued, bind_eq_ok, pure_eq_ok, Except.ok.injEq] at prepares
                obtain ⟨_, -, _, -, _, -, rfl⟩ := prepares
                rfl
      · rw [if_neg isSqs]
        trivial

end Handlers

/-! ### Runs -/

/-- **What is learned is true**: a lookup by another name finds another number, and a queue that
is there is not created again. -/
theorem isTrue_learn {database : SqsDatabase} {queue : SqsQueue}
    (there : queue ∈ database.queues.rows) {known : QueueNews}
    (isTrue : known.IsTrue (identity queue) queue.id) (request : SqsCall) :
    ((sparing (identity queue)).learn known ⟨request, (serve request database).1⟩).IsTrue
      (identity queue) queue.id := by
  have notRecreated : known ≠ .recreated := by
    rintro rfl
    exact isTrue
  cases request with
  | getQueue name region accountId =>
      have answer : (serve (.getQueue name region accountId) database).1 =
          .ok (database.getQueue name region accountId) := rfl
      rw [answer]
      cases found : database.getQueue name region accountId with
      | none => cases known <;> exact isTrue
      | some row =>
          obtain ⟨isRow, named⟩ := SqsDatabase.getQueue_eq_some found
          have apart : (name, region, accountId) ≠ identity queue → row.id ≠ queue.id := by
            intro other same
            obtain rfl := RowTable.eq_of_key_eq isRow there same
            exact other named.symm
          cases known with
          | recreated => exact absurd rfl notRecreated
          | nothing | found => exact apart
  | createQueue created =>
      have answer : (serve (.createQueue created) database).1 = (database.createQueue created).1 :=
        rfl
      rw [answer, SqsDatabase.createQueue]
      split_ifs with taken
      · cases known <;> exact isTrue
      · have other : identity created ≠ identity queue := by
          intro same
          have free := SqsDatabase.getQueue_eq_none.mp (Option.not_isSome_iff_eq_none.mp taken)
          exact free queue there same.symm
        have unchanged : (sparing (identity queue)).learn known ⟨.createQueue created, .ok ()⟩ =
            known := by
          cases known with
          | recreated => rfl
          | nothing | found => exact if_neg other
        rw [unchanged]
        exact isTrue
  | deleteQueue | getMessageCount | getVisibleMessageCount | getMessagesDelayedCount | listQueues
  | purgeQueue | setQueueAttributes | listQueueTags | tagQueue | untagQueue | sendMessage
  | receiveMessages | deleteMessage | setMessageVisibleAt => cases known <;> exact isTrue

/-- The content of the queue stays, and what is known stays true. -/
theorem learnsTruth_sparing {queue : SqsQueue} {content : QueueContent}
    (isQueue : queue ∈ content.rows) :
    LearnsTruth serve (sparing (identity queue)) (fun database =>
      database.contentOf queue.id = content) (QueueNews.IsTrue (identity queue) queue.id) := by
  intro known request database permitted isTrue now
  have there : queue ∈ database.queues.rows := by
    have member : queue ∈ (database.contentOf queue.id).rows := now ▸ isQueue
    exact (List.mem_filter.mp member).1
  refine ⟨(contentOf_serve ?_ ⟨queue, there, rfl⟩).trans now, isTrue_learn there isTrue request⟩
  intro about
  rcases permitted with rfl | permitted
  · exact isTrue
  · obtain ⟨name, rfl, other⟩ := permitted queue.id about
    exact isTrue other rfl

/-- Another queue of the same account. -/
def otherQueue : SqsQueue :=
  { ordersQueue with id := 2, name := "users" }

/-- Two queues, the second with a tag. -/
def usersBesideOrders : SqsDatabase :=
  { ordersStore with
    queues := ⟨[ordersQueue, otherQueue], by decide⟩
    tags := [⟨2, "team", "core"⟩] }

def sharedLibrary : SnsLibrary :=
  { sampleSnsLibrary with sqs := homesLibrary }

/-- One client sends to the first queue, one deletes it, and one creates the second again. -/
def sharedStart : Config sqsStore Unit Client SqsDatabase where
  shared := usersBesideOrders
  threads client := (QueueTask.ofTask (clientTask client)).program sharedLibrary
  log := []

/-- No client names the second queue. -/
theorem unnamed_otherQueue (client : Client) :
    ¬ (QueueTask.ofTask (clientTask client)).Names sharedLibrary (identity otherQueue) := by
  have apart (body : Text) (reading : getQueueUrlFromRequest homesLibrary (userRequest 0 body) =
      .ok "http://localhost:4566/000000000000/orders") {queueUrl : Text} {queueId : QueueId}
      (untyped : getQueueUrlFromRequest homesLibrary (userRequest 0 body) = .ok queueUrl)
      (parsed : parseQueueUrl homesLibrary.url queueUrl "us-east-1" = some queueId) :
      queueId.identity ≠ identity otherQueue := by
    obtain rfl := Except.ok.inj (reading.symm.trans untyped)
    have isOrders : parseQueueUrl homesLibrary.url "http://localhost:4566/000000000000/orders"
        "us-east-1" = some ordersAddress := by
      decide +kernel
    obtain rfl := Option.some.inj (isOrders.symm.trans parsed)
    decide +kernel
  intro names
  cases client with
  | sender =>
      generalize named : identity otherQueue = name at names
      cases names with
      | url _ _ _ untyped parsed =>
          exact apart "send" (by decide +kernel) untyped parsed named.symm
  | deleter =>
      generalize named : identity otherQueue = name at names
      cases names with
      | url _ _ _ untyped parsed =>
          exact apart "delete" (by decide +kernel) untyped parsed named.symm
  | creator => cases names

end Hiraeth
