import Hiraeth.Core.QueryPayload
import Hiraeth.Core.Service
import Hiraeth.Iam.Actions
import Hiraeth.Sns.Publish
import Hiraeth.Sts.GetCallerIdentity

/-!
# The services that are spoken to in queries

The services for identities, for tokens and for notifications take AWS query requests.
Every step of such a request reads the parameters again, for the name of the action and for
its payload.

## Main definitions

* `iamService`, `stsService`, `snsService` — the services
* `QueryPayload` — the declared fields of a payload and their values
* `iamPayload`, `stsPayload`, `snsPayload` — the payloads of the actions

## Main results

* `queryServices_agree` — every declared field has the value that authorization reads, and
  one action resolves, validates and handles a request
-/

namespace Hiraeth

open Interaction

/-! ### The services -/

/-- `IamService`. -/
def iamService (parse : FormParser) (readJson : JsonReader) (generated : Generated) :
    AwsService iamStore IamError where
  actionName := queryActionName IamError.ofQueryParseError .badRequest parse
  unsupported := .unsupportedOperation
  actions := iamActionRegistry parse readJson generated

/-- `StsService`. -/
def stsService (parse : FormParser) : AwsService iamStore StsError where
  actionName := queryActionName StsError.ofQueryParseError .badRequest parse
  unsupported := .unsupportedOperation
  actions := stsActionRegistry parse

/-- The actions in the order in which they are registered. -/
def registeredSnsActions : List SnsAction :=
  [.ofStore .createTopic, .ofStore .deleteTopic, .ofStore .subscribe, .publish,
    .ofStore .getTopicAttributes, .ofStore .getSubscriptionAttributes,
    .ofStore .listSubscriptions, .ofStore .listSubscriptionsByTopic, .ofStore .listTopics,
    .ofStore .setSubscriptionAttributes, .ofStore .setTopicAttributes,
    .ofStore .listTagsForResource, .ofStore .tagResource, .ofStore .untagResource,
    .ofStore .unsubscribe]

/-- The names that `get_action_name_for_request` lets pass. -/
def snsActionNames : List Text :=
  ["CreateTopic", "DeleteTopic", "Subscribe", "Unsubscribe", "ListSubscriptions",
    "ListSubscriptionsByTopic", "ListTopics", "ListTagsForResource", "TagResource",
    "UntagResource", "GetSubscriptionAttributes", "SetSubscriptionAttributes",
    "SetTopicAttributes", "GetTopicAttributes", "Publish"]

/-- `get_action_name_for_request`. -/
def snsActionName (parse : FormParser) (request : IncomingRequest) : Except SnsError Text := do
  let actionName ← queryActionName SnsError.ofQueryParseError .badRequest parse request
  if snsActionNames.contains actionName then return actionName
  else throw (.unsupportedOperation actionName)

/-- `SnsService`. -/
def snsService (library : SnsLibrary) (mode : AuthorizationMode) (generated : SnsGenerated) :
    AwsService snsServiceStore SnsError where
  actionName := snsActionName library.form
  unsupported := .unsupportedOperation
  actions := registeredSnsActions.map (snsAction library mode generated)

/-! ### The declared fields -/

/-- The declared fields of a payload, and the values they have.  Flattened fields collect
what is not declared and have no parameter of their own. -/
structure QueryPayload (Request : Type) where
  fields : List PayloadField
  values : Request → List (Option Text)

/-- Fields that must be given. -/
def requiredFields (names : List Text) : List PayloadField := names.map (⟨·, .fails⟩)

/-- The payloads of the actions on users and policies. -/
def iamPayload (parse : FormParser) (readJson : JsonReader) (generated : Generated) :
    (action : IamAction) → QueryPayload (iamAction parse readJson generated action).Request
  | .createAccessKey =>
      ⟨[⟨"UserName", .absent⟩], fun payload : CreateAccessKeyRequest => [payload.userName]⟩
  | .createUser =>
      ⟨[⟨"UserName", .fails⟩, ⟨"Path", .default "/"⟩, ⟨"PermissionsBoundary", .absent⟩],
        fun payload : CreateUserRequest =>
          [some payload.userName, some payload.path, payload.permissionsBoundary]⟩
  | .getUser | .listAccessKeys | .listAttachedUserPolicies =>
      ⟨[⟨"UserName", .absent⟩], fun payload : OptionalUserRequest => [payload.userName]⟩
  | .deleteUser =>
      ⟨requiredFields ["UserName"], fun payload : DeleteUserRequest => [some payload.userName]⟩
  | .createPolicy =>
      ⟨⟨"Path", .absent⟩ :: requiredFields ["PolicyDocument", "PolicyName"],
        fun payload : CreatePolicyRequest =>
          [payload.path, some payload.policyDocument, some payload.policyName]⟩
  | .putUserPolicy =>
      ⟨requiredFields ["UserName", "PolicyName", "PolicyDocument"],
        fun payload : PutUserPolicyRequest =>
          [some payload.userName, some payload.policyName, some payload.policyDocument]⟩
  | .attachUserPolicy =>
      ⟨requiredFields ["UserName", "PolicyArn"], fun payload : AttachUserPolicyRequest =>
        [some payload.userName, some payload.policyArn]⟩
  | .detachUserPolicy =>
      ⟨requiredFields ["UserName", "PolicyArn"], fun payload : DetachUserPolicyRequest =>
        [some payload.userName, some payload.policyArn]⟩
  | .getUserPolicy =>
      ⟨requiredFields ["UserName", "PolicyName"], fun payload : GetUserPolicyRequest =>
        [some payload.userName, some payload.policyName]⟩
  | .deletePolicy | .getPolicy =>
      ⟨requiredFields ["PolicyArn"], fun payload : PolicyRequest => [some payload.policyArn]⟩
  | .getPolicyVersion =>
      ⟨[⟨"PolicyArn", .fails⟩, ⟨"VersionId", .default []⟩], fun payload : PolicyRequest =>
        [some payload.policyArn, some payload.versionId]⟩

/-- The payload of the one action on tokens. -/
def stsPayload : QueryPayload GetCallerIdentityRequest where
  fields := []
  values _ := []

/-- The payloads of the actions on topics and subscriptions. -/
def snsStorePayload (library : SnsLibrary) (generated : SnsGenerated) :
    (action : SnsStoreAction) → QueryPayload (snsStoreAction library generated action).Request
  | .createTopic =>
      ⟨requiredFields ["Name"], fun payload : CreateTopicRequest => [some payload.name]⟩
  | .deleteTopic =>
      ⟨requiredFields ["TopicArn"], fun payload : DeleteTopicRequest => [some payload.topicArn]⟩
  | .subscribe =>
      ⟨requiredFields ["TopicArn", "Protocol", "Endpoint"], fun payload : SubscribeRequest =>
        [some payload.topicArn, some payload.protocol, some payload.endpoint]⟩
  | .getTopicAttributes =>
      ⟨requiredFields ["TopicArn"], fun payload : GetTopicAttributesRequest =>
        [some payload.topicArn]⟩
  | .getSubscriptionAttributes =>
      ⟨requiredFields ["SubscriptionArn"], fun payload : GetSubscriptionAttributesRequest =>
        [some payload.subscriptionArn]⟩
  | .listSubscriptions =>
      ⟨[⟨"NextToken", .absent⟩], fun payload : ListSubscriptionsRequest => [payload.nextToken]⟩
  | .listSubscriptionsByTopic =>
      ⟨[⟨"TopicArn", .fails⟩, ⟨"NextToken", .absent⟩],
        fun payload : ListSubscriptionsByTopicRequest =>
          [some payload.topicArn, payload.nextToken]⟩
  | .listTopics =>
      ⟨[⟨"NextToken", .absent⟩], fun payload : ListTopicsRequest => [payload.nextToken]⟩
  | .setSubscriptionAttributes =>
      ⟨requiredFields ["SubscriptionArn", "AttributeName", "AttributeValue"],
        fun payload : SetSubscriptionAttributesRequest =>
          [some payload.subscriptionArn, some payload.attributeName,
            some payload.attributeValue]⟩
  | .setTopicAttributes =>
      ⟨requiredFields ["TopicArn", "AttributeName", "AttributeValue"],
        fun payload : SetTopicAttributesRequest =>
          [some payload.topicArn, some payload.attributeName, some payload.attributeValue]⟩
  | .listTagsForResource =>
      ⟨requiredFields ["ResourceArn"], fun payload : ListTagsForResourceRequest =>
        [some payload.resourceArn]⟩
  | .tagResource =>
      ⟨requiredFields ["ResourceArn"], fun payload : TagResourceRequest =>
        [some payload.resourceArn]⟩
  | .untagResource =>
      ⟨requiredFields ["ResourceArn"], fun payload : UntagResourceRequest =>
        [some payload.resourceArn]⟩
  | .unsubscribe =>
      ⟨requiredFields ["SubscriptionArn"], fun payload : UnsubscribeRequest =>
        [some payload.subscriptionArn]⟩

/-- The payloads of the actions on notifications. -/
def snsPayload (library : SnsLibrary) (mode : AuthorizationMode) (generated : SnsGenerated) :
    (action : SnsAction) → QueryPayload (snsAction library mode generated action).Request
  | .ofStore action => snsStorePayload library generated action
  | .publish =>
      ⟨requiredFields ["TopicArn", "Message"] ++ [⟨"Subject", .absent⟩],
        fun payload : PublishRequest =>
          [some payload.topicArn, some payload.message, payload.subject]⟩

/-! ### What the visitor reads -/

section Reads

variable {parse : FormParser} {readJson : JsonReader} {generated : Generated}
  {request : IncomingRequest}

/-- The payloads of the actions on users and policies are read by the visitor. -/
theorem iamPayload_reads (action : IamAction)
    (payload : (iamAction parse readJson generated action).Request)
    (parsed : (iamAction parse readJson generated action).typed.parse request = .ok payload) :
    ReadsFields parse request (iamPayload parse readJson generated action).fields
      ((iamPayload parse readJson generated action).values payload) := by
  cases action with
  | createAccessKey | getUser | listAccessKeys | listAttachedUserPolicies =>
      refine readsFields_of_parse rfl (mapError_eq_ok.mp parsed) ?_
      intro params built
      cases built
      exact .cons (value_of_optional params "UserName") .nil
  | createUser =>
      refine readsFields_of_parse rfl (mapError_eq_ok.mp parsed) ?_
      intro params built
      obtain ⟨userName, given, rest⟩ := bind_eq_ok.mp built
      cases rest
      exact .cons (value_of_required given) (.cons (value_of_defaulted params "Path" "/")
        (.cons (value_of_optional params "PermissionsBoundary") .nil))
  | deleteUser =>
      refine readsFields_of_parse rfl (mapError_eq_ok.mp parsed) ?_
      intro params built
      obtain ⟨userName, given, rest⟩ := bind_eq_ok.mp built
      cases rest
      exact .cons (value_of_required given) .nil
  | createPolicy =>
      refine readsFields_of_parse rfl (mapError_eq_ok.mp parsed) ?_
      intro params built
      obtain ⟨document, givenDocument, rest⟩ := bind_eq_ok.mp built
      obtain ⟨name, givenName, rest⟩ := bind_eq_ok.mp rest
      cases rest
      exact .cons (value_of_optional params "Path") (.cons (value_of_required givenDocument)
        (.cons (value_of_required givenName) .nil))
  | putUserPolicy =>
      refine readsFields_of_parse rfl (mapError_eq_ok.mp parsed) ?_
      intro params built
      obtain ⟨userName, givenUser, rest⟩ := bind_eq_ok.mp built
      obtain ⟨policyName, givenPolicy, rest⟩ := bind_eq_ok.mp rest
      obtain ⟨document, givenDocument, rest⟩ := bind_eq_ok.mp rest
      cases rest
      exact .cons (value_of_required givenUser) (.cons (value_of_required givenPolicy)
        (.cons (value_of_required givenDocument) .nil))
  | attachUserPolicy | detachUserPolicy | getUserPolicy =>
      refine readsFields_of_parse rfl (mapError_eq_ok.mp parsed) ?_
      intro params built
      obtain ⟨userName, givenUser, rest⟩ := bind_eq_ok.mp built
      obtain ⟨policy, givenPolicy, rest⟩ := bind_eq_ok.mp rest
      cases rest
      exact .cons (value_of_required givenUser) (.cons (value_of_required givenPolicy) .nil)
  | deletePolicy | getPolicy =>
      refine readsFields_of_parse rfl (mapError_eq_ok.mp parsed) ?_
      intro params built
      obtain ⟨arn, given, rest⟩ := bind_eq_ok.mp built
      cases rest
      exact .cons (value_of_required given) .nil
  | getPolicyVersion =>
      refine readsFields_of_parse rfl (mapError_eq_ok.mp parsed) ?_
      intro params built
      obtain ⟨arn, given, rest⟩ := bind_eq_ok.mp built
      cases rest
      exact .cons (value_of_required given) (.cons (value_of_defaulted params "VersionId" []) .nil)

theorem stsPayload_reads (payload : GetCallerIdentityRequest)
    (parsed : (getCallerIdentityAction parse).parse request = .ok payload) :
    ReadsFields parse request stsPayload.fields (stsPayload.values payload) := by
  refine readsFields_of_parse rfl (mapError_eq_ok.mp parsed) ?_
  intro params _
  exact .nil

end Reads

section SnsReads

variable {library : SnsLibrary} {mode : AuthorizationMode} {generated : SnsGenerated}
  {request : IncomingRequest}

/-- The payloads of the actions on topics and subscriptions are read by the visitor. -/
theorem snsStorePayload_reads (action : SnsStoreAction)
    (payload : (snsStoreAction library generated action).Request)
    (parsed : (snsStoreAction library generated action).typed.parse request = .ok payload) :
    ReadsFields library.form request (snsStorePayload library generated action).fields
      ((snsStorePayload library generated action).values payload) := by
  cases action with
  | createTopic | deleteTopic | getTopicAttributes | getSubscriptionAttributes
  | listTagsForResource | tagResource | untagResource | unsubscribe =>
      refine readsFields_of_parse rfl (mapError_eq_ok.mp parsed) ?_
      intro params built
      obtain ⟨name, given, rest⟩ := bind_eq_ok.mp built
      cases rest
      exact .cons (value_of_required given) .nil
  | listSubscriptions | listTopics =>
      refine readsFields_of_parse rfl (mapError_eq_ok.mp parsed) ?_
      intro params built
      cases built
      exact .cons (value_of_optional params "NextToken") .nil
  | listSubscriptionsByTopic =>
      refine readsFields_of_parse rfl (mapError_eq_ok.mp parsed) ?_
      intro params built
      obtain ⟨arn, given, rest⟩ := bind_eq_ok.mp built
      cases rest
      exact .cons (value_of_required given) (.cons (value_of_optional params "NextToken") .nil)
  | subscribe | setSubscriptionAttributes | setTopicAttributes =>
      refine readsFields_of_parse rfl (mapError_eq_ok.mp parsed) ?_
      intro params built
      obtain ⟨first, givenFirst, rest⟩ := bind_eq_ok.mp built
      obtain ⟨second, givenSecond, rest⟩ := bind_eq_ok.mp rest
      obtain ⟨third, givenThird, rest⟩ := bind_eq_ok.mp rest
      cases rest
      exact .cons (value_of_required givenFirst) (.cons (value_of_required givenSecond)
        (.cons (value_of_required givenThird) .nil))

/-- So are the payloads of all actions on notifications. -/
theorem snsPayload_reads (action : SnsAction)
    (payload : (snsAction library mode generated action).Request)
    (parsed : (snsAction library mode generated action).typed.parse request = .ok payload) :
    ReadsFields library.form request (snsPayload library mode generated action).fields
      ((snsPayload library mode generated action).values payload) := by
  cases action with
  | ofStore action => exact snsStorePayload_reads action payload parsed
  | publish =>
      refine readsFields_of_parse rfl (mapError_eq_ok.mp parsed) ?_
      intro params built
      obtain ⟨arn, givenArn, rest⟩ := bind_eq_ok.mp built
      obtain ⟨message, givenMessage, rest⟩ := bind_eq_ok.mp rest
      cases rest
      exact .cons (value_of_required givenArn) (.cons (value_of_required givenMessage)
        (.cons (value_of_optional params "Subject") .nil))

end SnsReads

/-! ### The name of the action -/

/-- **One action does everything.**  A request names none and fails at once, or the value of
its parameter `Action` names the action that resolves, validates and handles it. -/
def OneAction {I : Interface} {Error : Type} (service : AwsService I Error)
    (parse : FormParser) : Prop :=
  ∀ (render : AwsService.Renderer I Error)
    (authorize : ResolvedRequest → AuthorizationCheck → Program I AuthorizationResult)
    (request : ResolvedRequest),
    (∃ error, service.choose request.request = .error error ∧
      service.route render authorize request = pure (.failed error)) ∨
    ∃ action ∈ service.actions, ∃ params,
      parseAwsQueryParams parse request.request = .ok params ∧
      Slots.first params.groups "Action" = some action.typed.name ∧
      service.resolveAuthorization request = action.typed.adaptedResolveAuthorization request ∧
      service.validateRequest request = action.typed.adaptedValidate request ∧
      service.handleRequest render request = render action <$> action.typed.adaptedHandle request ∧
      service.route render authorize request =
        Routed.map (render action) <$> action.typed.route authorize request

section Names

variable {I : Interface} {Error : Type} {parse : FormParser} {request : IncomingRequest}

/-- The name of an action is the value of its parameter. -/
theorem queryActionName_eq_ok {ofQueryParseError : AwsQueryParseError → Error}
    {badRequest : Text → Error} {actionName : Text}
    (named : queryActionName ofQueryParseError badRequest parse request = .ok actionName) :
    ∃ params, parseAwsQueryParams parse request = .ok params ∧
      Slots.first params.groups "Action" = some actionName := by
  unfold queryActionName getQueryRequestActionName at named
  cases parsed : parseAwsQueryParams parse request with
  | error failure =>
      rw [parsed] at named
      cases named
  | ok params =>
      refine ⟨params, rfl, ?_⟩
      rw [← params.get_eq_first]
      rw [parsed] at named
      cases given : params.get "Action" with
      | none =>
          have failed : (.error (badRequest "Missing Action parameter") : Except Error Text) =
              .ok actionName := by
            rw [← named]
            change _ = ((.ok (params.get "Action") : Except Error (Option Text)) >>= _)
            rw [given]
            rfl
          cases failed
      | some value =>
          have found : (.ok value : Except Error Text) = .ok actionName := by
            rw [← named]
            change _ = ((.ok (params.get "Action") : Except Error (Option Text)) >>= _)
            rw [given]
            rfl
          cases found
          rfl

/-- The service for notifications lets only such names pass. -/
theorem snsActionName_eq_ok {actionName : Text}
    (named : snsActionName parse request = .ok actionName) :
    ∃ params, parseAwsQueryParams parse request = .ok params ∧
      Slots.first params.groups "Action" = some actionName := by
  unfold snsActionName at named
  obtain ⟨name, found, passed⟩ := bind_eq_ok.mp named
  by_cases known : snsActionNames.contains name = true
  · rw [if_pos known] at passed
    cases passed
    exact queryActionName_eq_ok found
  · rw [if_neg known] at passed
    cases passed

/-- A service that names its actions by their parameter lets one action do everything. -/
theorem oneAction_of_actionName {service : AwsService I Error}
    (names : ∀ request actionName, service.actionName request = .ok actionName →
      ∃ params, parseAwsQueryParams parse request = .ok params ∧
        Slots.first params.groups "Action" = some actionName) :
    OneAction service parse := by
  intro render authorize request
  cases chosen : service.choose request.request with
  | error error => exact .inl ⟨error, rfl, AwsService.route_of_choose_eq_error chosen⟩
  | ok action =>
      right
      obtain ⟨member, params, parsed, named⟩ : action ∈ service.actions ∧ ∃ params,
          parseAwsQueryParams parse request.request = .ok params ∧
            Slots.first params.groups "Action" = some action.typed.name := by
        have found := chosen
        unfold AwsService.choose at found
        cases name : service.actionName request.request with
        | error failure =>
            rw [name] at found
            cases found
        | ok actionName =>
            rw [name] at found
            dsimp only at found
            cases looked : service.actions.get actionName with
            | none =>
                rw [looked] at found
                cases found
            | some action' =>
                rw [looked] at found
                cases found
                have sameName : action.typed.name = actionName := by
                  simpa using List.find?_some looked
                rw [sameName]
                exact ⟨List.mem_of_find?_eq_some looked, names _ _ name⟩
      refine ⟨action, member, params, parsed, named, ?_, ?_, ?_,
        AwsService.route_of_choose_eq_ok chosen⟩
      · rw [AwsService.resolveAuthorization, chosen]
      · rw [AwsService.validateRequest, chosen]
      · rw [AwsService.handleRequest, chosen]

end Names

/-! ### Agreement -/

/-- The declared fields of every payload that deserializes are read by the visitor and have
the values that authorization reads. -/
def ReadingsAgree {Error Request : Type} (parse : FormParser)
    (deserialize : IncomingRequest → Except Error Request) (payload : QueryPayload Request) :
    Prop :=
  ∀ request value, deserialize request = .ok value →
    ReadsFields parse request payload.fields (payload.values value) ∧
    AgreesWithParams parse request payload.fields (payload.values value)

/-- **The two readings of a query request agree.**  Every declared field of every payload of
the three services has the value of its parameter, and the parameter that names the action
is the same in every step. -/
theorem queryServices_agree (parse : FormParser) (readJson : JsonReader) (generated : Generated)
    (library : SnsLibrary) (mode : AuthorizationMode) (snsGenerated : SnsGenerated) :
    (∀ action, ReadingsAgree parse (iamAction parse readJson generated action).typed.parse
      (iamPayload parse readJson generated action)) ∧
    ReadingsAgree parse (getCallerIdentityAction parse).parse stsPayload ∧
    (∀ action, ReadingsAgree library.form (snsAction library mode snsGenerated action).typed.parse
      (snsPayload library mode snsGenerated action)) ∧
    OneAction (iamService parse readJson generated) parse ∧
    OneAction (stsService parse) parse ∧
    OneAction (snsService library mode snsGenerated) library.form := by
  refine ⟨?_, ?_, ?_, ?_, ?_, ?_⟩
  · intro action request payload parsed
    have reads := iamPayload_reads action payload parsed
    exact ⟨reads, reads.agrees⟩
  · intro request payload parsed
    have reads := stsPayload_reads payload parsed
    exact ⟨reads, reads.agrees⟩
  · intro action request payload parsed
    have reads := snsPayload_reads action payload parsed
    exact ⟨reads, reads.agrees⟩
  · exact oneAction_of_actionName fun _ _ => queryActionName_eq_ok
  · exact oneAction_of_actionName fun _ _ => queryActionName_eq_ok
  · exact oneAction_of_actionName fun _ _ => snsActionName_eq_ok

end Hiraeth
