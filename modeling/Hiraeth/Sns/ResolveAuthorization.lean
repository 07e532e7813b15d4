import Hiraeth.Core.PolicyDocument
import Hiraeth.Sns.ActionSupport

/-!
# What an SNS request is authorized for

The resource of a request is taken from its raw parameters, by a fixed order of preference,
whatever the action is.  When it names a topic, the policy of that topic takes part in the
decision.

## Main definitions

* `SnsStoreAction`, `SnsAction` — the registered actions
* `extractTopicArnFromRequest` — the resource that a request names
* `Sns.resolveAuthorization` — the check that most actions ask for
-/

namespace Hiraeth

open Interaction

/-- The registered actions that use the SNS store alone. -/
inductive SnsStoreAction where
  | createTopic
  | deleteTopic
  | subscribe
  | getTopicAttributes
  | getSubscriptionAttributes
  | listSubscriptions
  | listSubscriptionsByTopic
  | listTopics
  | setSubscriptionAttributes
  | setTopicAttributes
  | listTagsForResource
  | tagResource
  | untagResource
  | unsubscribe
  deriving DecidableEq

/-- The registered actions. -/
inductive SnsAction where
  | ofStore (action : SnsStoreAction)
  | publish
  deriving DecidableEq

/-- The name under which an action is registered. -/
def SnsStoreAction.name : SnsStoreAction → Text
  | createTopic => "CreateTopic"
  | deleteTopic => "DeleteTopic"
  | subscribe => "Subscribe"
  | getTopicAttributes => "GetTopicAttributes"
  | getSubscriptionAttributes => "GetSubscriptionAttributes"
  | listSubscriptions => "ListSubscriptions"
  | listSubscriptionsByTopic => "ListSubscriptionsByTopic"
  | listTopics => "ListTopics"
  | setSubscriptionAttributes => "SetSubscriptionAttributes"
  | setTopicAttributes => "SetTopicAttributes"
  | listTagsForResource => "ListTagsForResource"
  | tagResource => "TagResource"
  | untagResource => "UntagResource"
  | unsubscribe => "Unsubscribe"

def SnsAction.name : SnsAction → Text
  | ofStore action => action.name
  | publish => "Publish"

/-- The action as policies name it. -/
def SnsAction.authorizationAction (action : SnsAction) : Text :=
  ("sns:" : Text) ++ action.name

/-- `get_topic` through a call of the store. -/
def findTopic (topicArn : Text) : ExceptT SnsError SnsProgram (Option SnsTopic) :=
  (snsCall (.getTopic topicArn)).orFail SnsError.ofStoreError

/-- The topic of an ARN, which has to exist. -/
def loadTopic (topicArn : Text) : ExceptT SnsError SnsProgram SnsTopic := do
  match ← findTopic topicArn with
  | some topic => return topic
  | none => throw .topicNotFound

/-- `extract_topic_arn_from_request`. -/
def extractTopicArnFromRequest (library : SnsLibrary) (request : ResolvedRequest) :
    Except SnsError (Option Text) := do
  let params ← (parseAwsQueryParams library.form request.request).mapError
    SnsError.ofQueryParseError
  return (params.get "TopicArn").or ((params.get "ResourceArn").or (params.get "SubscriptionArn"))

/-- The resource of requests that name none. -/
def anyTopicArn (request : ResolvedRequest) : Text :=
  topicArn request.region request.accountId ['*']

/-- What requests for no particular topic are authorized for. -/
def anyTopicCheck (action : SnsStoreAction) (request : ResolvedRequest) : AuthorizationCheck where
  action := (SnsAction.ofStore action).authorizationAction
  resource := anyTopicArn request
  resourcePolicy := none

namespace Sns

/-- `resolve_authorization`.  A policy that cannot be parsed is dropped. -/
def resolveAuthorization (library : SnsLibrary) (action : SnsAction) (request : ResolvedRequest) :
    ExceptT SnsError SnsProgram AuthorizationCheck := do
  let topicArn ← liftExcept (extractTopicArnFromRequest library request)
  let resource := topicArn.getD (anyTopicArn request)
  match topicArn with
  | none => return { action := action.authorizationAction, resource, resourcePolicy := none }
  | some arn =>
      let topic ← findTopic arn
      return {
        action := action.authorizationAction
        resource
        resourcePolicy := topic.bind fun topic =>
          (parsePolicyText library.json topic.policy).toOption }

end Sns

end Hiraeth
