import Hiraeth.Sns.Publish

/-!
# What the actions of SNS call

The steps before the handler only read, so what an action may call follows from its handler
alone.

## Main definitions

* `SnsTask` — a request together with what is drawn and decided for it
* `SnsCall.IsRead` — the calls that change nothing
* `SnsTask.Writes` — what the handler of a request may write

## Main results

* `onlyReads_resolveAuthorization` — authorization only reads
* `SnsTask.allCalls` — a request only reads, and writes what its handler may write
-/

namespace Hiraeth

open Interaction Program

/-! ### Calls -/

/-- A call that changes nothing. -/
def SnsCall.IsRead : SnsCall → Prop
  | .getTopic _ | .getTopicById _ | .listTopics .. | .getSubscription _
  | .getSubscriptionById _ | .listSubscriptions .. | .listSubscriptionsByTopic _
  | .listTopicTags _ => True
  | _ => False

section Steps

variable {library : SnsLibrary} {generated : SnsGenerated} {request : ResolvedRequest}
  {property : SnsCall → Prop}

theorem onlyCalls_findTopic {arn : Text} (reads : property (.getTopic arn)) :
    @OnlyCalls snsStore _ _ property (findTopic arn) :=
  onlyCalls_orFail (allCalls_perform.mpr reads)

theorem onlyCalls_loadTopic {arn : Text} (reads : property (.getTopic arn)) :
    @OnlyCalls snsStore _ _ property (loadTopic arn) := by
  refine (onlyCalls_findTopic reads).bind fun found => ?_
  cases found with
  | none => exact onlyCalls_throw
  | some topic => exact onlyCalls_pure

theorem onlyCalls_loadSubscription {arn : Text} (reads : property (.getSubscription arn)) :
    @OnlyCalls snsStore _ _ property (loadSubscription arn) := by
  refine (onlyCalls_orFail (allCalls_perform.mpr reads)).bind fun found => ?_
  cases found with
  | none => exact onlyCalls_throw
  | some subscription => exact onlyCalls_pure

/-- **Authorization only reads.** -/
theorem onlyReads_resolveAuthorization (action : SnsAction) :
    @OnlyCalls snsStore _ _ SnsCall.IsRead (Sns.resolveAuthorization library action request) := by
  refine onlyCalls_liftExcept_bind fun named _ => ?_
  cases named with
  | none => exact onlyCalls_pure
  | some arn => exact (onlyCalls_findTopic trivial).bind fun _ => onlyCalls_pure

theorem onlyReads_adaptedResolveAuthorization (action : SnsStoreAction) :
    @OnlyCalls snsStore _ _ SnsCall.IsRead
      ((snsStoreAction library generated action).typed.adaptedResolveAuthorization request) := by
  refine onlyCalls_liftExcept_bind fun payload _ => ?_
  cases action with
  | createTopic | listSubscriptions | listTopics => exact onlyCalls_pure
  | deleteTopic | subscribe | getTopicAttributes | getSubscriptionAttributes
  | listSubscriptionsByTopic | setSubscriptionAttributes | setTopicAttributes
  | listTagsForResource | tagResource | untagResource | unsubscribe =>
      exact onlyReads_resolveAuthorization _

/-- **Validation calls nothing.** -/
theorem onlyCalls_adaptedValidate (action : SnsStoreAction) :
    OnlyCalls property
      ((snsStoreAction library generated action).typed.adaptedValidate request) := by
  cases action with
  | deleteTopic | getTopicAttributes | listTopics | listTagsForResource | unsubscribe
  | getSubscriptionAttributes | listSubscriptions =>
      exact onlyCalls_liftExcept_bind fun _ _ => onlyCalls_liftExcept
  | listSubscriptionsByTopic | tagResource | untagResource =>
      exact onlyCalls_liftExcept_bind fun _ _ =>
        onlyCalls_liftExcept_bind fun _ _ => onlyCalls_liftExcept
  | createTopic =>
      exact onlyCalls_liftExcept_bind fun _ _ => onlyCalls_liftExcept_bind fun _ _ =>
        onlyCalls_liftExcept_bind fun _ _ => onlyCalls_liftExcept
  | subscribe =>
      refine onlyCalls_liftExcept_bind fun payload _ => onlyCalls_liftExcept_bind fun _ _ => ?_
      refine iteInduction (fun _ => trivial) fun _ => ?_
      refine iteInduction (fun _ => trivial) fun _ => ?_
      exact onlyCalls_liftExcept
  | setSubscriptionAttributes =>
      refine onlyCalls_liftExcept_bind fun payload _ => onlyCalls_liftExcept_bind fun _ _ => ?_
      refine iteInduction (fun _ => trivial) fun _ => ?_
      exact onlyCalls_liftExcept
  | setTopicAttributes =>
      refine onlyCalls_liftExcept_bind fun payload _ => onlyCalls_liftExcept_bind fun _ _ => ?_
      refine iteInduction (fun _ => trivial) fun _ => ?_
      refine onlyCalls_liftExcept_bind fun _ _ => ?_
      exact iteInduction (fun _ => onlyCalls_pure) fun _ => onlyCalls_throw

end Steps

/-! ### Requests -/

/-- **A request**, with what is drawn for it and what the authorizer decides. -/
structure SnsTask where
  generated : SnsGenerated
  decision : AuthorizationCheck → AuthorizationResult
  request : ResolvedRequest
  action : SnsStoreAction

/-- A request as a program over the store, without its answer. -/
def SnsTask.program (library : SnsLibrary) (task : SnsTask) : SnsProgram Unit := do
  let _ ← (snsStoreAction library task.generated task.action).typed.route
    (fun _ check => return task.decision check) task.request
  return ()

/-- **What the handler of a request may write**, for a payload that was accepted. -/
inductive SnsTask.Writes (library : SnsLibrary) (task : SnsTask) : SnsCall → Prop
  | createTopic {payload : CreateTopicRequest} (isAction : task.action = .createTopic)
      (accepted : (createTopicAction library task.generated).Accepts task.request payload) :
      Writes library task (.createTopic (newTopic task.generated.now task.request payload))
  | tagNewTopic {payload : CreateTopicRequest} (isAction : task.action = .createTopic)
      (accepted : (createTopicAction library task.generated).Accepts task.request payload) :
      Writes library task (.tagTopic
        (topicArn task.request.region task.request.accountId payload.name) payload.tags.entries)
  | deleteTopic {payload : DeleteTopicRequest} (isAction : task.action = .deleteTopic)
      (accepted : (deleteTopicAction library).Accepts task.request payload) :
      Writes library task (.deleteTopic payload.topicArn)
  | subscribe {payload : SubscribeRequest} {topic : SnsTopic}
      (isAction : task.action = .subscribe)
      (accepted : (subscribeAction library task.generated).Accepts task.request payload) :
      Writes library task
        (.createSubscription (newSubscription task.generated task.request payload topic))
  | unsubscribe {payload : UnsubscribeRequest} (isAction : task.action = .unsubscribe)
      (accepted : (unsubscribeAction library).Accepts task.request payload) :
      Writes library task (.deleteSubscription payload.subscriptionArn)
  | setSubscriptionAttributes {payload : SetSubscriptionAttributesRequest}
      (isAction : task.action = .setSubscriptionAttributes)
      (accepted : (setSubscriptionAttributesAction library).Accepts task.request payload) :
      Writes library task (.setSubscriptionAttributes payload.subscriptionArn
        (.fromAttributeNameAndValue payload.attributeName payload.attributeValue))
  | setTopicAttributes {payload : SetTopicAttributesRequest} {topicId : TopicId}
      (isAction : task.action = .setTopicAttributes)
      (accepted : (setTopicAttributesAction library).Accepts task.request payload)
      (named : parseSnsTopicArn payload.topicArn = some topicId) :
      Writes library task (.setTopicAttributes topicId.accountId topicId.region topicId.name
        (.fromAttributeNameAndValue payload.attributeName payload.attributeValue))
  | tagResource {payload : TagResourceRequest} (isAction : task.action = .tagResource)
      (accepted : (tagResourceAction library).Accepts task.request payload) :
      Writes library task (.tagTopic payload.resourceArn payload.tags.entries)
  | untagResource {payload : UntagResourceRequest} (isAction : task.action = .untagResource)
      (accepted : (untagResourceAction library).Accepts task.request payload) :
      Writes library task (.untagTopic payload.resourceArn payload.tagKeys)

section Handlers

variable {library : SnsLibrary} {task : SnsTask} {property : SnsCall → Prop}

/-- **The handler of an accepted payload** reads, and writes what the request may write. -/
theorem SnsTask.handle (reads : ∀ call : SnsCall, call.IsRead → property call)
    (writes : ∀ call, task.Writes library call → property call)
    (payload : (snsStoreAction library task.generated task.action).Request)
    (accepted : (snsStoreAction library task.generated task.action).typed.Accepts task.request
      payload) :
    @OnlyCalls snsStore _ _ property
      ((snsStoreAction library task.generated task.action).typed.handle task.request payload) := by
  obtain ⟨generated, decision, request, action⟩ := task
  have performs (call : SnsCall) (holds : property call) :
      @AllCalls snsStore _ property (snsCall call) := allCalls_perform.mpr holds
  cases action with
  | createTopic =>
      refine (onlyCalls_orFail (performs _ (writes _ (.createTopic rfl accepted)))).bind fun _ => ?_
      refine iteInduction (fun _ => onlyCalls_pure) fun _ => ?_
      exact (onlyCalls_orFail (performs _ (writes _ (.tagNewTopic rfl accepted)))).bind
        fun _ => onlyCalls_pure
  | deleteTopic =>
      exact (onlyCalls_orFail (performs _ (writes _ (.deleteTopic rfl accepted)))).bind
        fun _ => onlyCalls_pure
  | subscribe =>
      refine (onlyCalls_orFail (performs _ (reads (.getTopic _) trivial))).bind fun found => ?_
      cases found with
      | none => exact onlyCalls_throw
      | some topic =>
          refine iteInduction (fun _ => trivial) fun _ => ?_
          exact (onlyCalls_orFail (performs _ (writes _ (.subscribe rfl accepted)))).bind
            fun _ => onlyCalls_pure
  | getTopicAttributes =>
      exact (onlyCalls_loadTopic (reads (.getTopic _) trivial)).bind fun _ => onlyCalls_pure
  | getSubscriptionAttributes =>
      exact (onlyCalls_loadSubscription (reads (.getSubscription _) trivial)).bind
        fun _ => onlyCalls_pure
  | listSubscriptions =>
      refine onlyCalls_liftExcept_bind fun _ _ => ?_
      exact (onlyCalls_orFail (performs _ (reads (.listSubscriptions ..) trivial))).bind
        fun _ => onlyCalls_pure
  | listSubscriptionsByTopic =>
      refine onlyCalls_liftExcept_bind fun _ _ => ?_
      refine (onlyCalls_loadTopic (reads (.getTopic _) trivial)).bind fun _ => ?_
      exact (onlyCalls_orFail (performs _ (reads (.listSubscriptionsByTopic _) trivial))).bind
        fun _ => onlyCalls_pure
  | listTopics =>
      refine onlyCalls_liftExcept_bind fun _ _ => ?_
      exact (onlyCalls_orFail (performs _ (reads (.listTopics ..) trivial))).bind
        fun _ => onlyCalls_pure
  | setSubscriptionAttributes =>
      exact (onlyCalls_orFail (performs _ (writes _ (.setSubscriptionAttributes rfl accepted)))).bind
        fun _ => onlyCalls_pure
  | setTopicAttributes =>
      show @OnlyCalls snsStore _ _ property (handleSetTopicAttributes request payload)
      unfold handleSetTopicAttributes
      cases named : parseSnsTopicArn payload.topicArn with
      | none => exact onlyCalls_throw
      | some topicId =>
          exact (onlyCalls_orFail
            (performs _ (writes _ (.setTopicAttributes rfl accepted named)))).bind
              fun _ => onlyCalls_pure
  | listTagsForResource =>
      refine (onlyCalls_loadTopic (reads (.getTopic _) trivial)).bind fun _ => ?_
      exact (onlyCalls_orFail (performs _ (reads (.listTopicTags _) trivial))).bind
        fun _ => onlyCalls_pure
  | tagResource =>
      refine onlyCalls_liftExcept_bind fun _ _ => ?_
      refine (onlyCalls_loadTopic (reads (.getTopic _) trivial)).bind fun _ => ?_
      refine (onlyCalls_orFail (performs _ (reads (.listTopicTags _) trivial))).bind fun _ => ?_
      refine onlyCalls_liftExcept_bind fun _ _ => ?_
      exact (onlyCalls_orFail (performs _ (writes _ (.tagResource rfl accepted)))).bind
        fun _ => onlyCalls_pure
  | untagResource =>
      refine onlyCalls_liftExcept_bind fun _ _ => ?_
      refine (onlyCalls_loadTopic (reads (.getTopic _) trivial)).bind fun _ => ?_
      exact (onlyCalls_orFail (performs _ (writes _ (.untagResource rfl accepted)))).bind
        fun _ => onlyCalls_pure
  | unsubscribe =>
      refine (onlyCalls_loadSubscription (reads (.getSubscription _) trivial)).bind fun _ => ?_
      exact (onlyCalls_orFail (performs _ (writes _ (.unsubscribe rfl accepted)))).bind
        fun _ => onlyCalls_pure

/-- **A request only reads, and writes what its handler may write.** -/
theorem SnsTask.allCalls (reads : ∀ call : SnsCall, call.IsRead → property call)
    (writes : ∀ call, task.Writes library call → property call) :
    @AllCalls snsStore _ property (task.program library) := by
  refine AllCalls.bind ?_ fun _ => trivial
  exact TypedAwsAction.allCalls_route_of_accepts _
    ((onlyReads_adaptedResolveAuthorization task.action).mono reads) (fun _ => trivial)
    (onlyCalls_adaptedValidate task.action) (SnsTask.handle reads writes)

end Handlers

end Hiraeth
