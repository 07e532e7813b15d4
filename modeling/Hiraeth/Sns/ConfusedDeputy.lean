import Hiraeth.Sns.Delivery
import Hiraeth.Sns.Service

/-!
# The topic that is authorized and the topic that is worked on

The resource of a request is taken from its raw parameters, the handler reads the field of its
own payload.  Both are the same parameter, unless the request carries another one that comes
first in the order of preference.

## Main definitions

* `SnsTarget`, `SnsAction.target` — the parameter by which an action names its topic
* `SnsCall.IsAbout` — a call is about what an ARN names
* `WorksOnNamed` — a handler works on what the check was made for
* `NoDecoy` — no parameter that comes first names something else

## Main results

* `exists_worksOn` — a handler works on what its own parameter names
* `worksOnNamed_iff_noDecoy` — what the check was made for is worked on exactly when there is
  no decoy
-/

namespace Hiraeth

open Interaction Program

/-! ### What requests name -/

/-- The parameters that name a topic or a subscription. -/
inductive SnsTarget where
  | topicArn
  | resourceArn
  | subscriptionArn
  deriving DecidableEq

def SnsTarget.parameter : SnsTarget → Text
  | topicArn => "TopicArn"
  | resourceArn => "ResourceArn"
  | subscriptionArn => "SubscriptionArn"

/-- **The parameter that an action reads**, if it works on a topic or a subscription. -/
def SnsAction.target : SnsAction → Option SnsTarget
  | .ofStore .deleteTopic | .ofStore .subscribe | .ofStore .getTopicAttributes
  | .ofStore .setTopicAttributes | .ofStore .listSubscriptionsByTopic | .publish => some .topicArn
  | .ofStore .tagResource | .ofStore .untagResource | .ofStore .listTagsForResource =>
      some .resourceArn
  | .ofStore .unsubscribe | .ofStore .getSubscriptionAttributes
  | .ofStore .setSubscriptionAttributes => some .subscriptionArn
  | .ofStore .createTopic | .ofStore .listTopics | .ofStore .listSubscriptions => none

/-! ### What calls are about -/

/-- The ARN of the topic that a call reads or changes. -/
def SnsCall.topicAddress : SnsCall → Option Text
  | .getTopic arn | .deleteTopic arn | .listSubscriptionsByTopic arn | .listTopicTags arn
  | .tagTopic arn _ | .untagTopic arn _ => some arn
  | .setTopicAttributes accountId region name _ => some (topicArn region accountId name)
  | .createSubscription subscription => some subscription.topicArn
  | _ => none

/-- The ARN of the subscription that a call reads or changes. -/
def SnsCall.subscriptionAddress : SnsCall → Option Text
  | .getSubscription arn | .deleteSubscription arn | .setSubscriptionAttributes arn _ => some arn
  | _ => none

/-- The call gives this ARN, as that of a topic or of a subscription. -/
def SnsTarget.Addresses (arn : Text) (request : SnsCall) : SnsTarget → Prop
  | topicArn | resourceArn => request.topicAddress = some arn
  | subscriptionArn => request.subscriptionAddress = some arn

/-- **The call is about what the ARN names**: about the topic of that ARN, or about the
subscription of that ARN. -/
def SnsCall.IsAbout (database : SnsDatabase) (arn : Text) (call : SnsCall) : Prop :=
  (∃ address, call.topicAddress = some address ∧
      database.topicOfArn address = database.topicOfArn arn) ∨
    ∃ address, call.subscriptionAddress = some address ∧
      database.selectSubscription address = database.selectSubscription arn

/-- A call on the first of the two stores is about what the ARN names. -/
def AboutNamed (database : SnsDatabase) (arn : Text) : snsServiceStore.Call → Prop
  | .inl request => request.IsAbout database arn
  | .inr _ => True

/-- **A handler works on what its check was made for**: every topic and every subscription that
it reads or changes is the one that the resource names, and the policy that took part in the
check is that of this topic. -/
structure WorksOnNamed {S : Type} (library : SnsLibrary) (serve' : Serve sqsStore S)
    (action : AwsAction snsServiceStore SnsError) (request : ResolvedRequest)
    (database : SnsDatabase) (queues : S) (check : AuthorizationCheck) : Prop where
  calls : ∀ event ∈ (action.typed.adaptedHandle request).run.events
    (SqliteSns.serve.sum serve') (database, queues), AboutNamed database check.resource event.1
  policy : check.resourcePolicy = (database.topicOfArn check.resource).bind fun topic =>
    (parsePolicyText library.json topic.policy).toOption

/-- **No parameter that comes first names something else** than the parameter that the action
reads. -/
def NoDecoy (database : SnsDatabase) (params : AwsQueryParams) : SnsTarget → Prop
  | .topicArn => True
  | .resourceArn => ∀ decoy arn, params.get "TopicArn" = some decoy →
      params.get "ResourceArn" = some arn → database.topicOfArn arn = database.topicOfArn decoy
  | .subscriptionArn => ∀ decoy arn,
      (params.get "TopicArn").or (params.get "ResourceArn") = some decoy →
      params.get "SubscriptionArn" = some arn →
      database.selectSubscription arn = database.selectSubscription decoy

/-! ### What payloads name -/

/-- A payload is built from the parameters. -/
theorem parseSnsRequest_eq_ok {Request : Type} {library : SnsLibrary} {declared : List Text}
    {build : AwsQueryParams → Except Text Request} {request : IncomingRequest} {payload : Request}
    (parsed : parseSnsRequest library declared build request = .ok payload) :
    ∃ params, parseAwsQueryParams library.form request = .ok params ∧
      build params = .ok payload := by
  obtain ⟨params, given, deserialized⟩ := bind_eq_ok.mp (mapError_eq_ok.mp parsed)
  obtain ⟨_, -, built⟩ := bind_eq_ok.mp (mapError_eq_ok.mp deserialized)
  exact ⟨params, given, built⟩

section Handlers

variable {library : SnsLibrary} {generated : SnsGenerated} {request : ResolvedRequest}

/-- Any call that is answered leaves an event. -/
theorem events_ne_nil_of_call {α β : Type} {program : SnsProgram (StoreResult α)}
    {translate : StoreError → SnsError} {rest : α → ExceptT SnsError SnsProgram β}
    {events : List (Event snsStore)} {value : β}
    (asks : ∀ {events outcome}, Finishes program events outcome → events ≠ [])
    (completes : Completes (program.orFail translate >>= rest) events value) : events ≠ [] := by
  obtain ⟨_, first, later, rfl, asked, -⟩ := completes_bind.mp completes
  exact fun none => asks (completes_orFail.mp asked) (List.append_eq_nil_iff.mp none).1

theorem ne_nil_of_finishes_snsCall {call' : SnsCall} {events : List (Event snsStore)}
    {answer : call'.Answer} (finishes : Finishes (snsCall call') events answer) : events ≠ [] := by
  obtain rfl := (@finishes_perform snsStore events call' answer).mp finishes
  exact List.cons_ne_nil _ _

/-- **What the handler of a payload works on.**  All of its calls give the ARN of the payload,
and there is at least one. -/
structure WorksOn {Response : Type} (target : SnsTarget) (arn : Text)
    (program : ExceptT SnsError SnsProgram Response) : Prop where
  calls : @OnlyCalls snsStore _ _ (fun request => target.Addresses arn request) program
  asks : ∀ {events response}, Completes program events response → events ≠ []

theorem WorksOn.of_call {α β : Type} {target : SnsTarget} {arn : Text}
    {program : SnsProgram (StoreResult α)} {translate : StoreError → SnsError}
    {rest : α → ExceptT SnsError SnsProgram β}
    (first : @AllCalls snsStore _ (fun request => target.Addresses arn request) program)
    (asks : ∀ {events outcome}, Finishes program events outcome → events ≠ [])
    (later : ∀ value, @OnlyCalls snsStore _ _ (fun request => target.Addresses arn request)
      (rest value)) : WorksOn target arn (program.orFail translate >>= rest) where
  calls := (onlyCalls_orFail first).bind later
  asks := events_ne_nil_of_call asks

theorem WorksOn.liftExcept_bind {α β : Type} {target : SnsTarget} {arn : Text}
    {outcome : Except SnsError α} {rest : α → ExceptT SnsError SnsProgram β}
    (later : ∀ value, WorksOn target arn (rest value)) :
    WorksOn target arn ((liftExcept outcome : ExceptT SnsError SnsProgram α) >>= rest) where
  calls := onlyCalls_liftExcept_bind fun value _ => (later value).calls
  asks := by
    intro events response completes
    obtain ⟨value, first, last, rfl, lifted, ends⟩ := completes_bind.mp completes
    obtain ⟨rfl, -⟩ := completes_liftExcept.mp lifted
    exact (later value).asks ends

theorem WorksOn.loadTopic_bind {β : Type} {target : SnsTarget} {arn : Text}
    {rest : SnsTopic → ExceptT SnsError SnsProgram β}
    (gives : target.Addresses arn (.getTopic arn))
    (later : ∀ topic, @OnlyCalls snsStore _ _ (fun request => target.Addresses arn request)
      (rest topic)) : WorksOn target arn (loadTopic arn >>= rest) where
  calls := (onlyCalls_loadTopic gives).bind later
  asks := by
    intro events response completes
    obtain ⟨topic, first, last, rfl, loads, -⟩ := completes_bind.mp completes
    exact List.ne_nil_of_mem (List.mem_append_left _ (told_of_loadTopic loads))

theorem WorksOn.loadSubscription_bind {β : Type} {arn : Text}
    {rest : SnsSubscription → ExceptT SnsError SnsProgram β}
    (later : ∀ subscription, @OnlyCalls snsStore _ _
      (fun request => SnsTarget.subscriptionArn.Addresses arn request) (rest subscription)) :
    WorksOn .subscriptionArn arn (loadSubscription arn >>= rest) where
  calls := (@onlyCalls_loadSubscription
    (fun request => SnsTarget.subscriptionArn.Addresses arn request) arn rfl).bind later
  asks := by
    intro events response completes
    obtain ⟨subscription, first, last, rfl, loads, -⟩ := completes_bind.mp completes
    exact fun none => events_ne_nil_of_call ne_nil_of_finishes_snsCall loads
      (List.append_eq_nil_iff.mp none).1

/-- **A handler works on what its own parameter names.** -/
theorem exists_worksOn {action : SnsStoreAction} {target : SnsTarget}
    (isTarget : (SnsAction.ofStore action).target = some target)
    {payload : (snsStoreAction library generated action).Request}
    (parsed : (snsStoreAction library generated action).typed.parse request.request =
      .ok payload) :
    ∃ params arn, parseAwsQueryParams library.form request.request = .ok params ∧
      params.get target.parameter = some arn ∧
      WorksOn target arn
        ((snsStoreAction library generated action).typed.handle request payload) := by
  have performs (target : SnsTarget) {arn : Text} (call' : SnsCall)
      (gives : target.Addresses arn call') :
      @AllCalls snsStore _ (fun request => target.Addresses arn request) (snsCall call') :=
    allCalls_perform.mpr gives
  cases action with
  | createTopic | listSubscriptions | listTopics => cases isTarget
  | deleteTopic =>
      obtain rfl := Option.some.inj isTarget
      obtain ⟨params, given, built⟩ := parseSnsRequest_eq_ok parsed
      obtain ⟨arn, required, built⟩ := bind_eq_ok.mp built
      obtain rfl := Except.ok.inj built
      exact ⟨params, arn, given, AwsQueryParams.required_eq_ok.mp required,
        .of_call (performs .topicArn _ rfl) ne_nil_of_finishes_snsCall fun _ => onlyCalls_pure⟩
  | subscribe =>
      obtain rfl := Option.some.inj isTarget
      obtain ⟨params, given, built⟩ := parseSnsRequest_eq_ok parsed
      obtain ⟨arn, required, built⟩ := bind_eq_ok.mp built
      obtain ⟨protocol, -, built⟩ := bind_eq_ok.mp built
      obtain ⟨endpoint, -, built⟩ := bind_eq_ok.mp built
      obtain rfl := Except.ok.inj built
      refine ⟨params, arn, given, AwsQueryParams.required_eq_ok.mp required,
        .of_call (performs .topicArn (.getTopic arn) rfl) ne_nil_of_finishes_snsCall
          fun found => ?_⟩
      cases found with
      | none => exact onlyCalls_throw
      | some topic =>
          refine iteInduction (fun _ => trivial) fun _ => ?_
          exact (onlyCalls_orFail (performs .topicArn (.createSubscription _) rfl)).bind
            fun _ => onlyCalls_pure
  | getTopicAttributes =>
      obtain rfl := Option.some.inj isTarget
      obtain ⟨params, given, built⟩ := parseSnsRequest_eq_ok parsed
      obtain ⟨arn, required, built⟩ := bind_eq_ok.mp built
      obtain rfl := Except.ok.inj built
      exact ⟨params, arn, given, AwsQueryParams.required_eq_ok.mp required,
        .loadTopic_bind rfl fun _ => onlyCalls_pure⟩
  | listSubscriptionsByTopic =>
      obtain rfl := Option.some.inj isTarget
      obtain ⟨params, given, built⟩ := parseSnsRequest_eq_ok parsed
      obtain ⟨arn, required, built⟩ := bind_eq_ok.mp built
      obtain rfl := Except.ok.inj built
      refine ⟨params, arn, given, AwsQueryParams.required_eq_ok.mp required,
        .liftExcept_bind fun _ => .loadTopic_bind rfl fun _ => ?_⟩
      exact (onlyCalls_orFail (performs .topicArn (.listSubscriptionsByTopic arn) rfl)).bind
        fun _ => onlyCalls_pure
  | setTopicAttributes =>
      obtain rfl := Option.some.inj isTarget
      obtain ⟨params, given, built⟩ := parseSnsRequest_eq_ok parsed
      obtain ⟨arn, required, built⟩ := bind_eq_ok.mp built
      obtain ⟨name, -, built⟩ := bind_eq_ok.mp built
      obtain ⟨value, -, built⟩ := bind_eq_ok.mp built
      obtain rfl := Except.ok.inj built
      refine ⟨params, arn, given, AwsQueryParams.required_eq_ok.mp required, ?_⟩
      show WorksOn .topicArn arn (handleSetTopicAttributes request ⟨arn, name, value⟩)
      unfold handleSetTopicAttributes
      cases named : parseSnsTopicArn arn with
      | none => exact ⟨onlyCalls_throw, fun completes => absurd completes not_completes_throw⟩
      | some topicId =>
          -- an ARN that is accepted is the one that is made of its parts
          have gives : SnsTarget.topicArn.Addresses arn (.setTopicAttributes topicId.accountId
              topicId.region topicId.name (.fromAttributeNameAndValue name value)) :=
            congrArg some (parseSnsTopicArn_eq_some named).1.symm
          exact .of_call (performs .topicArn _ gives) ne_nil_of_finishes_snsCall
            fun _ => onlyCalls_pure
  | tagResource =>
      obtain rfl := Option.some.inj isTarget
      obtain ⟨params, given, built⟩ := parseSnsRequest_eq_ok parsed
      obtain ⟨arn, required, built⟩ := bind_eq_ok.mp built
      obtain rfl := Except.ok.inj built
      refine ⟨params, arn, given, AwsQueryParams.required_eq_ok.mp required,
        .liftExcept_bind fun _ => .loadTopic_bind rfl fun _ => ?_⟩
      refine (onlyCalls_orFail (performs .resourceArn (.listTopicTags arn) rfl)).bind fun _ => ?_
      refine onlyCalls_liftExcept_bind fun _ _ => ?_
      exact (onlyCalls_orFail (performs .resourceArn (.tagTopic arn _) rfl)).bind
        fun _ => onlyCalls_pure
  | untagResource =>
      obtain rfl := Option.some.inj isTarget
      obtain ⟨params, given, built⟩ := parseSnsRequest_eq_ok parsed
      obtain ⟨arn, required, built⟩ := bind_eq_ok.mp built
      obtain rfl := Except.ok.inj built
      refine ⟨params, arn, given, AwsQueryParams.required_eq_ok.mp required,
        .liftExcept_bind fun _ => .loadTopic_bind rfl fun _ => ?_⟩
      exact (onlyCalls_orFail (performs .resourceArn (.untagTopic arn _) rfl)).bind
        fun _ => onlyCalls_pure
  | listTagsForResource =>
      obtain rfl := Option.some.inj isTarget
      obtain ⟨params, given, built⟩ := parseSnsRequest_eq_ok parsed
      obtain ⟨arn, required, built⟩ := bind_eq_ok.mp built
      obtain rfl := Except.ok.inj built
      refine ⟨params, arn, given, AwsQueryParams.required_eq_ok.mp required,
        .loadTopic_bind rfl fun _ => ?_⟩
      exact (onlyCalls_orFail (performs .resourceArn (.listTopicTags arn) rfl)).bind
        fun _ => onlyCalls_pure
  | unsubscribe =>
      obtain rfl := Option.some.inj isTarget
      obtain ⟨params, given, built⟩ := parseSnsRequest_eq_ok parsed
      obtain ⟨arn, required, built⟩ := bind_eq_ok.mp built
      obtain rfl := Except.ok.inj built
      refine ⟨params, arn, given, AwsQueryParams.required_eq_ok.mp required,
        .loadSubscription_bind fun _ => ?_⟩
      exact (onlyCalls_orFail (performs .subscriptionArn (.deleteSubscription arn) rfl)).bind
        fun _ => onlyCalls_pure
  | getSubscriptionAttributes =>
      obtain rfl := Option.some.inj isTarget
      obtain ⟨params, given, built⟩ := parseSnsRequest_eq_ok parsed
      obtain ⟨arn, required, built⟩ := bind_eq_ok.mp built
      obtain rfl := Except.ok.inj built
      exact ⟨params, arn, given, AwsQueryParams.required_eq_ok.mp required,
        .loadSubscription_bind fun _ => onlyCalls_pure⟩
  | setSubscriptionAttributes =>
      obtain rfl := Option.some.inj isTarget
      obtain ⟨params, given, built⟩ := parseSnsRequest_eq_ok parsed
      obtain ⟨arn, required, built⟩ := bind_eq_ok.mp built
      obtain ⟨name, -, built⟩ := bind_eq_ok.mp built
      obtain ⟨value, -, built⟩ := bind_eq_ok.mp built
      obtain rfl := Except.ok.inj built
      exact ⟨params, arn, given, AwsQueryParams.required_eq_ok.mp required,
        .of_call (performs .subscriptionArn _ rfl) ne_nil_of_finishes_snsCall
          fun _ => onlyCalls_pure⟩

end Handlers

/-! ### What calls are about, and what the check names -/

section Named

variable {database : SnsDatabase} {arn resource : Text} {request : SnsCall}

theorem subscriptionAddress_of_topicAddress (isTopic : request.topicAddress = some arn) :
    request.subscriptionAddress = none := by
  cases request <;> first | rfl | cases isTopic

/-- What the ARN of a target names is what another ARN names. -/
def SnsTarget.Same (database : SnsDatabase) (arn resource : Text) : SnsTarget → Prop
  | topicArn | resourceArn => database.topicOfArn arn = database.topicOfArn resource
  | subscriptionArn => database.selectSubscription arn = database.selectSubscription resource

theorem isAbout_of_topicAddress (isTopic : request.topicAddress = some arn) :
    request.IsAbout database resource ↔ database.topicOfArn arn = database.topicOfArn resource := by
  constructor
  · rintro (⟨address, given, same⟩ | ⟨address, given, -⟩)
    · obtain rfl := Option.some.inj (isTopic.symm.trans given)
      exact same
    · rw [subscriptionAddress_of_topicAddress isTopic] at given
      cases given
  · exact fun same => Or.inl ⟨arn, isTopic, same⟩

theorem isAbout_of_subscriptionAddress (isSubscription : request.subscriptionAddress = some arn) :
    request.IsAbout database resource ↔
      database.selectSubscription arn = database.selectSubscription resource := by
  constructor
  · rintro (⟨address, given, -⟩ | ⟨address, given, same⟩)
    · rw [subscriptionAddress_of_topicAddress given] at isSubscription
      cases isSubscription
    · obtain rfl := Option.some.inj (isSubscription.symm.trans given)
      exact same
  · exact fun same => Or.inr ⟨arn, isSubscription, same⟩

/-- A call that gives an ARN is about what this ARN names. -/
theorem SnsTarget.Addresses.isAbout_iff {target : SnsTarget}
    (gives : target.Addresses arn request) :
    request.IsAbout database resource ↔ target.Same database arn resource := by
  cases target with
  | topicArn | resourceArn => exact isAbout_of_topicAddress gives
  | subscriptionArn => exact isAbout_of_subscriptionAddress gives

/-- The ARN that the check is made for, among the parameters. -/
def preferredArn (params : AwsQueryParams) : Option Text :=
  (params.get "TopicArn").or ((params.get "ResourceArn").or (params.get "SubscriptionArn"))

/-- **Without a decoy**, the check is made for what the parameter of the action names. -/
theorem same_iff_noDecoy {params : AwsQueryParams} {target : SnsTarget}
    (given : params.get target.parameter = some arn)
    (preferred : preferredArn params = some resource) :
    target.Same database arn resource ↔ NoDecoy database params target := by
  unfold preferredArn at preferred
  cases target with
  | topicArn =>
      have isTopic : params.get "TopicArn" = some arn := given
      rw [isTopic, Option.some_or] at preferred
      obtain rfl := Option.some.inj preferred
      exact iff_of_true rfl trivial
  | resourceArn =>
      have isResource : params.get "ResourceArn" = some arn := given
      rw [isResource, Option.some_or] at preferred
      cases first : params.get "TopicArn" with
      | none =>
          rw [first] at preferred
          obtain rfl := Option.some.inj preferred
          refine iff_of_true rfl fun decoy arn' isDecoy => ?_
          rw [first] at isDecoy
          cases isDecoy
      | some decoy =>
          rw [first] at preferred
          obtain rfl := Option.some.inj preferred
          refine ⟨fun same decoy' arn' isDecoy isArn => ?_, fun none => none _ _ first isResource⟩
          obtain rfl := Option.some.inj (first.symm.trans isDecoy)
          obtain rfl := Option.some.inj (isResource.symm.trans isArn)
          exact same
  | subscriptionArn =>
      have isSubscription : params.get "SubscriptionArn" = some arn := given
      rw [isSubscription, ← Option.or_assoc] at preferred
      cases first : (params.get "TopicArn").or (params.get "ResourceArn") with
      | none =>
          rw [first] at preferred
          obtain rfl := Option.some.inj preferred
          refine iff_of_true rfl fun decoy arn' isDecoy => ?_
          rw [first] at isDecoy
          cases isDecoy
      | some decoy =>
          rw [first] at preferred
          obtain rfl := Option.some.inj preferred
          refine ⟨fun same decoy' arn' isDecoy isArn => ?_,
            fun none => none _ _ first isSubscription⟩
          obtain rfl := Option.some.inj (first.symm.trans isDecoy)
          obtain rfl := Option.some.inj (isSubscription.symm.trans isArn)
          exact same

end Named

/-! ### Checks -/

section Checks

variable {library : SnsLibrary} {request : ResolvedRequest} {params : AwsQueryParams}
  {database : SnsDatabase}

/-- **The check of a request that names an ARN**: it is made for this ARN, with the policy of
the topic of this ARN. -/
def namedCheck (library : SnsLibrary) (action : SnsAction) (database : SnsDatabase) (arn : Text) :
    AuthorizationCheck where
  action := action.authorizationAction
  resource := arn
  resourcePolicy := (database.topicOfArn arn).bind fun topic =>
    (parsePolicyText library.json topic.policy).toOption

theorem extractTopicArnFromRequest_eq
    (given : parseAwsQueryParams library.form request.request = .ok params) :
    extractTopicArnFromRequest library request = .ok (preferredArn params) := by
  unfold extractTopicArnFromRequest
  rw [given]
  rfl

theorem run_resolveAuthorization {arn : Text}
    (named : extractTopicArnFromRequest library request = .ok (some arn)) (action : SnsAction) :
    (Sns.resolveAuthorization library action request).run.run SqliteSns.serve database =
      (.ok (namedCheck library action database arn), database) := by
  unfold Sns.resolveAuthorization findTopic
  rw [named, liftExcept_ok_bind]
  dsimp only
  rw [run_orFail_bind, run_snsCall, SqliteSns.serve_getTopic]
  rfl

/-- A request of an action that works on something names it. -/
theorem exists_preferredArn {target : SnsTarget} {arn : Text}
    (given : params.get target.parameter = some arn) :
    ∃ resource, preferredArn params = some resource := by
  unfold preferredArn
  cases first : params.get "TopicArn" with
  | some topicArn => exact ⟨topicArn, Option.some_or⟩
  | none =>
      rw [Option.none_or]
      cases second : params.get "ResourceArn" with
      | some resourceArn => exact ⟨resourceArn, Option.some_or⟩
      | none =>
          rw [Option.none_or]
          cases target with
          | topicArn => exact absurd (first.symm.trans given) nofun
          | resourceArn => exact absurd (second.symm.trans given) nofun
          | subscriptionArn => exact ⟨arn, given⟩

/-- **What a request of such an action is checked for.** -/
theorem succeeds_adaptedResolveAuthorization {S : Type} {serve' : Serve sqsStore S}
    {mode : AuthorizationMode} {generated : SnsGenerated} {action : SnsAction} {target : SnsTarget}
    (isTarget : action.target = some target) {queues : S} {check : AuthorizationCheck}
    {middle : SnsDatabase × S} {resource : Text}
    (given : parseAwsQueryParams library.form request.request = .ok params)
    (preferred : preferredArn params = some resource)
    (resolved : Succeeds (SqliteSns.serve.sum serve')
      ((snsAction library mode generated action).typed.adaptedResolveAuthorization request)
      (database, queues) check middle) :
    check = namedCheck library action database resource := by
  obtain ⟨payload, between, parsed, resolves⟩ := succeeds_bind.mp resolved
  obtain ⟨-, rfl⟩ := succeeds_liftExcept.mp parsed
  have named : extractTopicArnFromRequest library request = .ok (some resource) :=
    (extractTopicArnFromRequest_eq given).trans (congrArg Except.ok preferred)
  have checked (action' : SnsAction) :
      Succeeds (SqliteSns.serve.sum serve')
        (onSns (Sns.resolveAuthorization library action' request)) (database, queues) check middle →
      check = namedCheck library action' database resource := by
    intro succeeds
    unfold Succeeds onSns at succeeds
    rw [ExceptT.run_mk, run_left, run_resolveAuthorization named] at succeeds
    exact (Except.ok.inj (Prod.mk.inj succeeds).1).symm
  cases action with
  | publish => exact checked .publish resolves
  | ofStore action =>
      cases action with
      | createTopic | listSubscriptions | listTopics => cases isTarget
      | deleteTopic | subscribe | getTopicAttributes | getSubscriptionAttributes
      | listSubscriptionsByTopic | setSubscriptionAttributes | setTopicAttributes
      | listTagsForResource | tagResource | untagResource | unsubscribe =>
          exact checked _ resolves

/-! ### Handlers on both stores -/

/-- The canonical ARN of a topic that is found names it. -/
theorem topicOfArn_canonical {arn : Text} {topic : SnsTopic}
    (found : database.topicOfArn arn = some topic) :
    database.topicOfArn (topicArn topic.region topic.accountId topic.name) = some topic := by
  unfold SnsDatabase.topicOfArn at found
  split at found
  · next start aws sns region accountId name parts =>
      have plain {part : Text} (member : part ∈ arn.splitOn ':') : ':' ∉ part :=
        not_mem_of_mem_splitOnP member (beq_self_eq_true _)
      rw [parts] at plain
      obtain ⟨-, rfl, rfl, rfl⟩ := SnsDatabase.selectTopic_eq_some found
      rw [SnsDatabase.topicOfArn_topicArn (plain (by simp)) (plain (by simp)) (plain (by simp))]
      exact found
  · cases found

variable {S : Type} {serve' : Serve sqsStore S} {mode : AuthorizationMode}
  {generated : SnsGenerated} {queues : S} {final : SnsDatabase × S}

/-- A program on the store of the service alone succeeds as it does there. -/
theorem succeeds_onSns {α : Type} {program : ExceptT SnsError SnsProgram α} {value : α}
    {last : SnsDatabase} (alone : Succeeds SqliteSns.serve program database value last) :
    Succeeds (SqliteSns.serve.sum serve') (onSns program) (database, queues) value
      (last, queues) := by
  unfold Succeeds at alone
  unfold Succeeds onSns
  rw [ExceptT.run_mk, run_left, alone]

/-- **A publication works on the topic of its payload.** -/
theorem calls_handlePublish {payload : PublishRequest} {response : PublishResponse}
    (handled : Succeeds (SqliteSns.serve.sum serve')
      (handlePublish library mode generated request payload) (database, queues) response final) :
    ∀ event ∈ (handlePublish library mode generated request payload).run.events
      (SqliteSns.serve.sum serve') (database, queues),
      AboutNamed database payload.topicArn event.1 := by
  have onTopics {α : Type} {program : ExceptT SnsError SnsProgram α}
      (every : @OnlyCalls snsStore _ _ (SnsCall.IsAbout database payload.topicArn) program) :
      @OnlyCalls snsServiceStore _ _ (AboutNamed database payload.topicArn) (onSns program) :=
    AllCalls.refine every fun _ holds => ⟨holds, fun _ => trivial⟩
  have onQueues (program : SqsProgram Unit) :
      @AllCalls snsServiceStore _ (AboutNamed database payload.topicArn)
        (@Program.right snsStore sqsStore _ program) :=
    AllCalls.refine (@allCalls_of_all sqsStore _ (fun _ => True) (fun _ => trivial) program)
      fun _ _ => ⟨trivial, fun _ => trivial⟩
  obtain ⟨topic, between, loads, -⟩ := succeeds_bind.mp handled
  have found : database.topicOfArn payload.topicArn = some topic := by
    unfold Succeeds onSns at loads
    rw [ExceptT.run_mk, run_left] at loads
    obtain ⟨loaded, -⟩ := Prod.mk.inj loads
    exact (succeeds_loadTopic.mp (Prod.ext loaded rfl)).1
  have canonical := (topicOfArn_canonical found).trans found.symm
  intro event member
  unfold handlePublish at member
  rw [events_bind_of_succeeds loads] at member
  rcases List.mem_append.mp member with early | late
  · exact allCalls_events _ (onTopics (onlyCalls_loadTopic (.inl ⟨_, rfl, rfl⟩))) _ event early
  · refine allCalls_events _ ?_ _ event late
    refine (onTopics (onlyCalls_orFail (allCalls_perform.mpr (.inl ⟨_, rfl, canonical⟩)))).bind
      fun subscriptions => ?_
    exact (onlyCalls_forM fun _ => onlyCalls_lift (onQueues _)).bind fun _ => onlyCalls_pure

/-- **The calls of a handler**: they are about what the check was made for exactly when the
parameter of the action names the same. -/
theorem WorksOn.calls_iff {α : Type} {program : ExceptT SnsError SnsProgram α} {target : SnsTarget}
    {arn resource : Text} {response : α} (works : WorksOn target arn program)
    (succeeds : Succeeds (SqliteSns.serve.sum serve') (onSns program) (database, queues) response
      final) :
    (∀ event ∈ (onSns program).run.events (SqliteSns.serve.sum serve') (database, queues),
      AboutNamed database resource event.1) ↔ target.Same database arn resource := by
  have finishes := finishes_run (SqliteSns.serve.sum serve') (onSns program).run (database, queues)
  have result : ((onSns program).run.run (SqliteSns.serve.sum serve') (database, queues)).1 =
      .ok response := congrArg Prod.fst succeeds
  rw [result] at finishes
  obtain ⟨own, isOwn, completes⟩ := finishes_left.mp finishes
  rw [isOwn]
  have gives : ∀ event ∈ own, target.Addresses arn event.1 := completes.allCalls works.calls
  constructor
  · intro about
    obtain ⟨event, member⟩ := List.exists_mem_of_ne_nil own (works.asks completes)
    exact (gives event member).isAbout_iff.mp (about _ (List.mem_map_of_mem member))
  · intro same event member
    obtain ⟨event, isEvent, rfl⟩ := List.mem_map.mp member
    exact (gives event isEvent).isAbout_iff.mpr same

/-- **A handler works on what its check was made for exactly when there is no decoy**: for
every action that works on a topic or a subscription, every request and every state. -/
theorem worksOnNamed_iff_noDecoy {action : SnsAction} {target : SnsTarget}
    (isTarget : action.target = some target)
    (given : parseAwsQueryParams library.form request.request = .ok params)
    {check : AuthorizationCheck} {middle : SnsDatabase × S}
    (resolved : Succeeds (SqliteSns.serve.sum serve')
      ((snsAction library mode generated action).typed.adaptedResolveAuthorization request)
      (database, queues) check middle)
    {response : (snsAction library mode generated action).Response}
    (handled : Succeeds (SqliteSns.serve.sum serve')
      ((snsAction library mode generated action).typed.adaptedHandle request)
      (database, queues) response final) :
    WorksOnNamed library serve' (snsAction library mode generated action) request database queues
      check ↔ NoDecoy database params target := by
  obtain ⟨payload, between, parses, succeeds⟩ := succeeds_bind.mp handled
  obtain ⟨parsed, rfl⟩ := succeeds_liftExcept.mp parses
  -- what remains is about the calls: the policy is always that of what the check names
  have of_calls {arn : Text} (isGiven : params.get target.parameter = some arn)
      (about : ∀ resource, preferredArn params = some resource →
        ((∀ event ∈ ((snsAction library mode generated action).typed.handle request
          payload).run.events (SqliteSns.serve.sum serve') (database, queues),
          AboutNamed database resource event.1) ↔ target.Same database arn resource)) :
      WorksOnNamed library serve' (snsAction library mode generated action) request database queues
        check ↔ NoDecoy database params target := by
    obtain ⟨resource, preferred⟩ := exists_preferredArn isGiven
    obtain rfl := succeeds_adaptedResolveAuthorization isTarget given preferred resolved
    rw [← same_iff_noDecoy isGiven preferred, ← about resource preferred,
      ← TypedAwsAction.events_adaptedHandle parsed]
    exact ⟨fun acts => acts.calls, fun calls => ⟨calls, rfl⟩⟩
  cases action with
  | publish =>
      obtain rfl := Option.some.inj isTarget
      obtain ⟨_, given', built⟩ := parseSnsRequest_eq_ok parsed
      obtain rfl := Except.ok.inj (given.symm.trans given')
      obtain ⟨arn, required, built⟩ := bind_eq_ok.mp built
      obtain ⟨message, -, built⟩ := bind_eq_ok.mp built
      obtain rfl := Except.ok.inj built
      have isGiven := AwsQueryParams.required_eq_ok.mp required
      refine of_calls isGiven fun resource preferred => ?_
      have isTopic : params.get "TopicArn" = some arn := isGiven
      unfold preferredArn at preferred
      rw [isTopic, Option.some_or] at preferred
      obtain rfl := Option.some.inj preferred
      exact iff_of_true (calls_handlePublish succeeds) rfl
  | ofStore action =>
      obtain ⟨_, arn, given', isGiven, works⟩ :=
        @exists_worksOn library generated request _ _ isTarget _ parsed
      obtain rfl := Except.ok.inj (given.symm.trans given')
      exact of_calls isGiven fun resource _ => works.calls_iff succeeds

end Checks

/-! ### A decoy -/

def payrollTopicArn : Text := "arn:aws:sns:us-east-1:000000000000:payroll"

/-- A store with the topic of orders and a topic that the caller may not touch. -/
def twoTopicStore : SnsDatabase :=
  ((topicStore "{}").insertTopic { ordersTopic "{}" with name := "payroll" }).2

/-- A request that tags a topic. -/
def tagRequest (parameters : Text) : ResolvedRequest :=
  userRequest 0 (("Action=TagResource&Tags.member.1.Key=team&Tags.member.1.Value=ops&" : Text) ++
    parameters)

/-- The topic of payrolls is tagged, with the topic of orders as a decoy. -/
def decoyRequest : ResolvedRequest :=
  tagRequest (("ResourceArn=" : Text) ++ payrollTopicArn ++ "&TopicArn=".toList ++ ordersTopicArn)

/-- The policy of the caller. -/
def taggerPolicy : Policy where
  version := "2012-10-17"
  statement := [
    { effect := "Allow", action := ["sns:TagResource"], resource := [ordersTopicArn],
      principal := [] },
    { effect := "Deny", action := ["*"], resource := [payrollTopicArn], principal := [] }]

def taggerDocument : Text :=
  ("\x7b\"Statement\":[\x7b\"Effect\":\"Allow\",\"Action\":\"sns:TagResource\"," : Text) ++
    "\"Resource\":\"arn:aws:sns:us-east-1:000000000000:orders\"\x7d,".toList ++
    "\x7b\"Effect\":\"Deny\",\"Action\":\"*\",".toList ++
    "\"Resource\":\"arn:aws:sns:us-east-1:000000000000:payroll\"\x7d]\x7d".toList

def taggerDatabase : IamDatabase :=
  ((IamDatabase.empty.createPrincipal
    ⟨"000000000000", "user", "test", "/", "AIDATEST"⟩).2.putInlinePolicy 1 "tagger"
      taggerDocument).2

/-- Tagging, on the stores of the service. -/
def tagOn : AwsAction snsServiceStore SnsError :=
  snsAction sampleSnsLibrary .enforce (userTask .tagResource []).generated (.ofStore .tagResource)

/-- The run of a handler on the store of topics alone. -/
theorem succeeds_tagOn {request : ResolvedRequest}
    (answered : (((tagResourceAction sampleSnsLibrary).adaptedHandle request).run.run
      SqliteSns.serve twoTopicStore).1 = .ok ("request" : Text)) :
    ∃ final, Succeeds (SqliteSns.serve.sum SqsDatabase.serve) (tagOn.typed.adaptedHandle request)
      (twoTopicStore, ordersStore) ("request" : Text) final := by
  obtain ⟨final, alone⟩ : ∃ final, Succeeds SqliteSns.serve
      ((tagResourceAction sampleSnsLibrary).adaptedHandle request) twoTopicStore ("request" : Text)
      final := ⟨_, Prod.ext answered rfl⟩
  obtain ⟨payload, between, parses, succeeds⟩ := succeeds_bind.mp alone
  obtain ⟨parsed, rfl⟩ := succeeds_liftExcept.mp parses
  exact ⟨(final, ordersStore), succeeds_bind.mpr
    ⟨payload, _, succeeds_liftExcept.mpr ⟨parsed, rfl⟩, succeeds_onSns succeeds⟩⟩

/-- **A decoy is authorized, and the topic that is denied is tagged.** -/
theorem tagResource_of_decoy :
    ∃ check middle, Succeeds (SqliteSns.serve.sum SqsDatabase.serve)
        (tagOn.typed.adaptedResolveAuthorization decoyRequest) (twoTopicStore, ordersStore) check
        middle ∧
      ((authorize (parseKnown [(taggerDocument, taggerPolicy)]) .enforce decoyRequest check).run
        IamDatabase.serve taggerDatabase).1 = .allow ∧
      ∃ final, Succeeds (SqliteSns.serve.sum SqsDatabase.serve)
          (tagOn.typed.adaptedHandle decoyRequest) (twoTopicStore, ordersStore)
          ("request" : Text) final ∧
        ¬ WorksOnNamed sampleSnsLibrary SqsDatabase.serve tagOn decoyRequest twoTopicStore
          ordersStore check := by
  have answered : (((tagResourceAction sampleSnsLibrary).adaptedHandle decoyRequest).run.run
      SqliteSns.serve twoTopicStore).1 = .ok ("request" : Text) := by
    decide +kernel
  obtain ⟨final, handled⟩ := succeeds_tagOn answered
  obtain ⟨payload, between, parses, succeeds⟩ := succeeds_bind.mp handled
  obtain ⟨parsed, rfl⟩ := succeeds_liftExcept.mp parses
  have named : extractTopicArnFromRequest sampleSnsLibrary decoyRequest =
      .ok (some ordersTopicArn) := by
    decide +kernel
  have allowed : ((authorize (parseKnown [(taggerDocument, taggerPolicy)]) .enforce decoyRequest
      (namedCheck sampleSnsLibrary (.ofStore .tagResource) twoTopicStore ordersTopicArn)).run
        IamDatabase.serve taggerDatabase).1 = .allow := by
    decide +kernel
  refine ⟨namedCheck sampleSnsLibrary (.ofStore .tagResource) twoTopicStore ordersTopicArn,
    (twoTopicStore, ordersStore), ?_, allowed, final, handled, fun acts => ?_⟩
  · exact succeeds_bind.mpr ⟨payload, _, succeeds_liftExcept.mpr ⟨parsed, rfl⟩,
      succeeds_onSns (run_resolveAuthorization named _)⟩
  · obtain ⟨params, arn, given, isGiven, works⟩ := @exists_worksOn sampleSnsLibrary
      (userTask .tagResource []).generated decoyRequest .tagResource _ rfl _ parsed
    have calls := acts.calls
    rw [TypedAwsAction.events_adaptedHandle parsed] at calls
    have same := (works.calls_iff succeeds).mp calls
    -- the handler works on the topic of payrolls
    have names : (parseAwsQueryParams sampleSnsLibrary.form decoyRequest.request).map
        (·.get "ResourceArn") = .ok (some payrollTopicArn) := by
      decide +kernel
    rw [given] at names
    obtain rfl := Option.some.inj (isGiven.symm.trans (Except.ok.inj names))
    have different : (twoTopicStore.topicOfArn payrollTopicArn).map SnsTopic.name ≠
        (twoTopicStore.topicOfArn ordersTopicArn).map SnsTopic.name := by
      decide +kernel
    exact different (congrArg (Option.map SnsTopic.name) same)

/-- A request without a decoy. -/
def plainTagRequest : ResolvedRequest :=
  tagRequest (("ResourceArn=" : Text) ++ ordersTopicArn)

/-- Without a decoy, the topic that was checked is tagged. -/
theorem worksOnNamed_iff_noDecoy_plain :
    WorksOnNamed sampleSnsLibrary SqsDatabase.serve tagOn plainTagRequest twoTopicStore ordersStore
      (namedCheck sampleSnsLibrary (.ofStore .tagResource) twoTopicStore ordersTopicArn) := by
  have answered : (((tagResourceAction sampleSnsLibrary).adaptedHandle plainTagRequest).run.run
      SqliteSns.serve twoTopicStore).1 = .ok ("request" : Text) := by
    decide +kernel
  obtain ⟨final, handled⟩ := succeeds_tagOn answered
  obtain ⟨payload, between, parses, succeeds⟩ := succeeds_bind.mp handled
  obtain ⟨parsed, rfl⟩ := succeeds_liftExcept.mp parses
  have named : extractTopicArnFromRequest sampleSnsLibrary plainTagRequest =
      .ok (some ordersTopicArn) := by
    decide +kernel
  have noTopic : (parseAwsQueryParams sampleSnsLibrary.form plainTagRequest.request).map
      (·.get "TopicArn") = .ok none := by
    decide +kernel
  have resolved : Succeeds (SqliteSns.serve.sum SqsDatabase.serve)
      (tagOn.typed.adaptedResolveAuthorization plainTagRequest) (twoTopicStore, ordersStore)
      (namedCheck sampleSnsLibrary (.ofStore .tagResource) twoTopicStore ordersTopicArn)
      (twoTopicStore, ordersStore) :=
    succeeds_bind.mpr ⟨payload, _, succeeds_liftExcept.mpr ⟨parsed, rfl⟩,
      succeeds_onSns (run_resolveAuthorization named _)⟩
  obtain ⟨params, arn, given, isGiven, works⟩ := @exists_worksOn sampleSnsLibrary
    (userTask .tagResource []).generated plainTagRequest .tagResource _ rfl _ parsed
  rw [given] at noTopic
  have noDecoy : NoDecoy twoTopicStore params .resourceArn := by
    intro decoy arn isDecoy
    cases isDecoy.symm.trans (Except.ok.inj noTopic)
  have isTarget : (SnsAction.ofStore .tagResource).target = some .resourceArn := rfl
  exact (worksOnNamed_iff_noDecoy isTarget given resolved handled).mpr noDecoy

end Hiraeth
