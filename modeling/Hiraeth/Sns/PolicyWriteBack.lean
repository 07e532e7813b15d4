import Hiraeth.Iam.Authorize
import Hiraeth.Sns.TopicAttributes
import Hiraeth.Sqs.QueueInvariant
import Hiraeth.Web.SnsConsole

/-!
# Writing back the policy of a topic

A topic without a policy is reported with a default one, which is not the one that is
evaluated.  The actions of the default policy are spelled in upper case, so that it matches no
request, and writing it back changes no decision.

## Main definitions

* `SamePolicyResults`, `AlikeTopics` — policies and topics that no decision tells apart
* `snsDecision` — what the authorizer decides about a request to SNS
* `PoliciesReadable` — every policy of a topic is JSON
* `SnsWork` — requests, forms of the console, and whatever writes no policy

## Main results

* `alikeTopics_serve` — every call leaves alike topics alike
* `snsDecision_alike` — the decision about a request is the same
* `policy_writeBack_neutral` — writing back what is reported is accepted, and changes nothing
-/

namespace Hiraeth

open Interaction Program

/-! ### The default policy -/

/-- The document that is shown for a topic without a policy. -/
def defaultTopicPolicyJson (topicArn accountId : Text) : Json :=
  .object [
    ("Id", .string "__default_policy_ID"),
    ("Statement", .array [.object [
      ("Action", .array (["SNS:GetTopicAttributes", "SNS:SetTopicAttributes",
        "SNS:AddPermission", "SNS:RemovePermission", "SNS:DeleteTopic", "SNS:Subscribe",
        "SNS:ListSubscriptionsByTopic", "SNS:Publish"].map fun action => .string action)),
      ("Condition", .object [
        ("StringEquals", .object [("AWS:SourceOwner", .string accountId)])]),
      ("Effect", .string "Allow"),
      ("Principal", .object [("AWS", .string "*")]),
      ("Resource", .string topicArn),
      ("Sid", .string "__default_statement_ID")]]),
    ("Version", .string "2008-10-17")]

theorem defaultTopicPolicy_eq (library : SnsLibrary) (topicArn accountId : Text) :
    defaultTopicPolicy library topicArn accountId =
      library.json.write (defaultTopicPolicyJson topicArn accountId) := rfl

/-- The actions that the default policy names. -/
def defaultTopicActions : List Text :=
  ["SNS:GetTopicAttributes", "SNS:SetTopicAttributes", "SNS:AddPermission",
    "SNS:RemovePermission", "SNS:DeleteTopic", "SNS:Subscribe", "SNS:ListSubscriptionsByTopic",
    "SNS:Publish"]

/-- The default policy as it is evaluated. -/
theorem decodePolicy_defaultTopicPolicyJson (arn accountId : Text) :
    decodePolicy (defaultTopicPolicyJson arn accountId) =
      .ok ⟨"2008-10-17", [⟨"Allow", defaultTopicActions, [arn], [.any]⟩]⟩ := rfl

/-- **No action of the service is one that the default policy names.** -/
theorem not_matches_defaultTopicActions (action : SnsAction) :
    (defaultTopicActions.any fun pattern => wildcardMatch pattern action.authorizationAction) =
      false := by
  have upper : ∀ pattern ∈ defaultTopicActions, ∃ rest, pattern = 'S' :: rest := by
    intro pattern member
    simp only [defaultTopicActions, List.mem_cons, List.not_mem_nil, or_false] at member
    rcases member with rfl | rfl | rfl | rfl | rfl | rfl | rfl | rfl <;> exact ⟨_, rfl⟩
  rw [List.any_eq_false]
  intro pattern member matched
  obtain ⟨rest, rfl⟩ := upper pattern member
  have fits := (wildcardMatch_iff _ _).mp matched
  -- the pattern starts with an upper case letter, the action with a lower case one
  obtain ⟨tail, starts, -⟩ := (Glob.mem_language_literal 'S' _ _).mp fits
  exact absurd (List.head_eq_of_cons_eq starts) (by decide)

/-- What a policy says, given by its text.  A text that is no policy says nothing. -/
def policyResult (library : JsonLibrary) (policy : Text) (principal : PolicyPrincipal)
    (resource action : Text) : PolicyEvalResult :=
  match (parsePolicyText library policy).toOption with
  | some policy => evaluateResourcePolicy principal resource action policy
  | none => .notApplicable

/-- **Policies that no decision of the service tells apart.** -/
def SamePolicyResults (library : JsonLibrary) (policy policy' : Text) : Prop :=
  ∀ (principal : PolicyPrincipal) (resource : Text) (action : SnsAction),
    policyResult library policy principal resource action.authorizationAction =
      policyResult library policy' principal resource action.authorizationAction

/-- The default policy applies to no request. -/
theorem policyResult_defaultTopicPolicy {library : SnsLibrary} {arn accountId : Text}
    (roundTrips : library.json.RoundTrips (defaultTopicPolicyJson arn accountId))
    (principal : PolicyPrincipal) (resource : Text) (action : SnsAction) :
    policyResult library.json (defaultTopicPolicy library arn accountId) principal resource
      action.authorizationAction = .notApplicable := by
  have parsed : parsePolicyText library.json (defaultTopicPolicy library arn accountId) =
      .ok ⟨"2008-10-17", [⟨"Allow", defaultTopicActions, [arn], [.any]⟩]⟩ := by
    rw [parsePolicyText, defaultTopicPolicy_eq, roundTrips.readsBack]
    exact decodePolicy_defaultTopicPolicyJson arn accountId
  rw [policyResult, parsed]
  show evaluateResourcePolicy principal resource action.authorizationAction
    ⟨"2008-10-17", [⟨"Allow", defaultTopicActions, [arn], [.any]⟩]⟩ = _
  unfold evaluateResourcePolicy evaluateMatchingStatements
  rw [List.map_singleton, evaluateStatement, if_neg]
  · rfl
  · rw [not_matches_defaultTopicActions action, Bool.and_false, Bool.false_and]
    exact Bool.false_ne_true

/-- The empty policy applies to no request. -/
theorem policyResult_empty {library : JsonLibrary} {policy : Text}
    (isEmpty : library.read policy.utf8 = .ok (.object [])) (principal : PolicyPrincipal)
    (resource action : Text) :
    policyResult library policy principal resource action = .notApplicable := by
  have parsed : parsePolicyText library policy = .ok Policy.default := by
    rw [parsePolicyText, isEmpty]
    exact decodePolicy_empty
  rw [policyResult, parsed]
  rfl

/-! ### Topics that differ in their policies -/

/-- **Topics that no decision tells apart**: they differ in their policies alone, and these
say the same. -/
structure AlikeTopic (library : JsonLibrary) (topic topic' : SnsTopic) : Prop where
  others : topic' = { topic with policy := topic'.policy }
  policies : SamePolicyResults library topic.policy topic'.policy

/-- Tables of such topics. -/
structure AlikeTopics (library : JsonLibrary) (database database' : SnsDatabase) : Prop where
  rows : List.Forall₂ (AlikeTopic library) database.topics.rows database'.topics.rows
  issued : database.topics.issued = database'.topics.issued

variable {json : JsonLibrary} {database database' : SnsDatabase}

theorem AlikeTopic.refl (topic : SnsTopic) : AlikeTopic json topic topic :=
  ⟨rfl, fun _ _ _ => rfl⟩

theorem AlikeTopic.id_eq {topic topic' : SnsTopic} (alike : AlikeTopic json topic topic') :
    topic'.id = topic.id := by
  rw [alike.others]

/-- The parts of a topic are not told apart. -/
theorem AlikeTopic.isTopic_eq {topic topic' : SnsTopic} (alike : AlikeTopic json topic topic')
    (name region accountId : Text) :
    SnsDatabase.isTopic name region accountId topic' =
      SnsDatabase.isTopic name region accountId topic := by
  rw [alike.others]
  rfl

/-- The topics that are found are alike. -/
theorem forall₂_find? {topics topics' : List SnsTopic}
    (alike : List.Forall₂ (AlikeTopic json) topics topics') (name region accountId : Text) :
    Option.Rel (AlikeTopic json) (topics.find? (SnsDatabase.isTopic name region accountId))
      (topics'.find? (SnsDatabase.isTopic name region accountId)) := by
  induction alike with
  | nil => exact Option.Rel.none
  | @cons topic topic' topics topics' first _ inductionHypothesis =>
      rw [List.find?_cons, List.find?_cons, first.isTopic_eq]
      cases SnsDatabase.isTopic name region accountId topic with
      | true => exact Option.Rel.some first
      | false => exact inductionHypothesis

/-- **The topics that an ARN names are alike.** -/
theorem AlikeTopics.topicOfArn (alike : AlikeTopics json database database') (arn : Text) :
    Option.Rel (AlikeTopic json) (database.topicOfArn arn) (database'.topicOfArn arn) := by
  unfold SnsDatabase.topicOfArn
  generalize arn.splitOn ':' = parts
  split
  · next _ _ _ region accountId name => exact forall₂_find? alike.rows name region accountId
  · exact Option.Rel.none

/-- Setting the same attribute leaves alike topics alike. -/
theorem AlikeTopic.withColumns {topic topic' found found' : SnsTopic}
    (alike : AlikeTopic json topic topic') (alikeFound : AlikeTopic json found found')
    (update : SnsTopicAttributeUpdate) :
    AlikeTopic json (topic.withColumns (SqliteSns.updatedTopic update found.columns))
      (topic'.withColumns (SqliteSns.updatedTopic update found'.columns)) := by
  refine ⟨?_, ?_⟩
  · rw [alike.others, alikeFound.others]
    rfl
  · show SamePolicyResults json (update.policy.getD found.policy)
      (update.policy.getD found'.policy)
    cases update.policy with
    | none => exact alikeFound.policies
    | some policy => exact fun _ _ _ => rfl

/-- Updating alike topics in alike tables leaves the tables alike. -/
theorem AlikeTopics.updateTopic (alike : AlikeTopics json database database')
    {found found' : SnsTopic} (alikeFound : AlikeTopic json found found')
    (update : SnsTopicAttributeUpdate) :
    AlikeTopics json
      (database.updateTopic found.id (SqliteSns.updatedTopic update found.columns)).2
      (database'.updateTopic found'.id (SqliteSns.updatedTopic update found'.columns)).2 := by
  refine ⟨List.rel_map (fun topic topic' same => ?_) alike.rows, alike.issued⟩
  show AlikeTopic json (if topic.id = found.id then _ else _) (if topic'.id = found'.id then _ else _)
  rw [same.id_eq, alikeFound.id_eq]
  split_ifs
  · exact same.withColumns alikeFound update
  · exact same

/-- **Every call leaves alike topics alike.** -/
theorem alikeTopics_serve (alike : AlikeTopics json database database') (call : SnsCall) :
    AlikeTopics json (SqliteSns.serve call database).2 (SqliteSns.serve call database').2 := by
  have of_topics {later later' : SnsDatabase} (same : later.topics = database.topics)
      (same' : later'.topics = database'.topics) : AlikeTopics json later later' :=
    ⟨by rw [same, same']; exact alike.rows, by rw [same, same']; exact alike.issued⟩
  by_cases leaves : call.LeavesTopics
  · exact of_topics (SqliteSns.topics_serve_of_leaves leaves database)
      (SqliteSns.topics_serve_of_leaves leaves database')
  cases call with
  | createTopic topic =>
      rw [SqliteSns.serve_createTopic, SqliteSns.serve_createTopic]
      have found : Option.Rel (AlikeTopic json)
          (database.selectTopic topic.name topic.region topic.accountId)
          (database'.selectTopic topic.name topic.region topic.accountId) :=
        forall₂_find? alike.rows topic.name topic.region topic.accountId
      unfold SnsDatabase.insertTopic
      cases isFound : database.selectTopic topic.name topic.region topic.accountId with
      | some old =>
          rw [isFound] at found
          cases isFound' : database'.selectTopic topic.name topic.region topic.accountId with
          | none => rw [isFound'] at found; cases found
          | some old' => exact alike
      | none =>
          rw [isFound] at found
          cases isFound' : database'.selectTopic topic.name topic.region topic.accountId with
          | some old' => rw [isFound'] at found; cases found
          | none =>
              refine ⟨List.rel_append alike.rows ?_, congrArg (· + 1) alike.issued⟩
              rw [alike.issued]
              exact List.Forall₂.cons (AlikeTopic.refl _) List.Forall₂.nil
  | deleteTopic arn =>
      have without : AlikeTopics json
          { database with topics := database.topicsWithout arn }
          { database' with topics := database'.topicsWithout arn } := by
        unfold SnsDatabase.topicsWithout
        generalize arn.splitOn ':' = parts
        split
        · next _ _ _ region accountId name =>
            refine ⟨List.rel_filter (fun topic topic' same => ?_) alike.rows, alike.issued⟩
            show (!SnsDatabase.isTopic name region accountId topic) = true ↔
              (!SnsDatabase.isTopic name region accountId topic') = true
            rw [same.isTopic_eq]
        · exact ⟨alike.rows, alike.issued⟩
      refine ⟨?_, ?_⟩ <;> rw [SqliteSns.topics_serve_deleteTopic, SqliteSns.topics_serve_deleteTopic]
      · exact without.rows
      · exact without.issued
  | setTopicAttributes accountId region name update =>
      rw [SqliteSns.serve_setTopicAttributes, SqliteSns.serve_setTopicAttributes]
      have found := alike.topicOfArn (topicArn region accountId name)
      cases isFound : database.topicOfArn (topicArn region accountId name) with
      | none =>
          rw [isFound] at found
          cases isFound' : database'.topicOfArn (topicArn region accountId name) with
          | none => exact alike
          | some topic' => rw [isFound'] at found; cases found
      | some topic =>
          rw [isFound] at found
          cases isFound' : database'.topicOfArn (topicArn region accountId name) with
          | none => rw [isFound'] at found; cases found
          | some topic' =>
              rw [isFound'] at found
              obtain ⟨alikeFound⟩ := found
              exact alike.updateTopic alikeFound update
  | _ => exact absurd trivial leaves

/-! ### Decisions -/

/-- **Checks that no decision tells apart.** -/
structure AlikeCheck (check check' : AuthorizationCheck) : Prop where
  action : check.action = check'.action
  resource : check.resource = check'.resource
  policies : ∀ request, resourcePolicyResult request check = resourcePolicyResult request check'

/-- The authorizer runs alike on alike checks, whatever the policies of the caller are. -/
theorem AlikeCheck.authorize_eq {check check' : AuthorizationCheck}
    (alike : AlikeCheck check check') (parsePolicy : Text → Except Text Policy)
    (mode : AuthorizationMode) (request : ResolvedRequest) :
    authorize parsePolicy mode request check = authorize parsePolicy mode request check' := by
  unfold authorize
  rw [alike.action, alike.resource, alike.policies request]

/-- Outcomes that no decision tells apart. -/
def AlikeOutcome (outcome outcome' : Except SnsError AuthorizationCheck) : Prop :=
  (∃ error, outcome = .error error ∧ outcome' = .error error) ∨
    ∃ check check', outcome = .ok check ∧ outcome' = .ok check' ∧ AlikeCheck check check'

theorem AlikeOutcome.refl (outcome : Except SnsError AuthorizationCheck) :
    AlikeOutcome outcome outcome := by
  cases outcome with
  | error error => exact Or.inl ⟨error, rfl, rfl⟩
  | ok check => exact Or.inr ⟨check, check, rfl, rfl, rfl, rfl, fun _ => rfl⟩

/-- The check of a topic depends on what its policy says. -/
theorem alikeCheck_of_alikeTopic {library : SnsLibrary} {topic topic' : SnsTopic}
    (alike : AlikeTopic library.json topic topic') (action : SnsAction) (resource : Text) :
    AlikeCheck
      ⟨action.authorizationAction, resource,
        (parsePolicyText library.json topic.policy).toOption⟩
      ⟨action.authorizationAction, resource,
        (parsePolicyText library.json topic'.policy).toOption⟩ := by
  refine ⟨rfl, rfl, fun request => ?_⟩
  unfold resourcePolicyResult
  cases policyPrincipalFromRequest request with
  | none => rfl
  | some principal =>
      have same := alike.policies principal resource action
      unfold policyResult at same
      dsimp only
      cases parsed : (parsePolicyText library.json topic.policy).toOption <;>
        cases parsed' : (parsePolicyText library.json topic'.policy).toOption <;>
        rw [parsed, parsed'] at same <;> exact same

/-- **Requests are authorized alike.** -/
theorem alikeOutcome_resolveAuthorization {library : SnsLibrary}
    (alike : AlikeTopics library.json database database') (action : SnsAction)
    (request : ResolvedRequest) :
    AlikeOutcome
      ((Sns.resolveAuthorization library action request).run.run SqliteSns.serve database).1
      ((Sns.resolveAuthorization library action request).run.run SqliteSns.serve database').1 := by
  unfold Sns.resolveAuthorization findTopic
  cases extractTopicArnFromRequest library request with
  | error error => exact AlikeOutcome.refl (.error error)
  | ok named =>
      rw [liftExcept_ok_bind]
      cases named with
      | none => exact AlikeOutcome.refl (.ok _)
      | some arn =>
          dsimp only
          rw [run_orFail_bind, run_orFail_bind, run_snsCall, run_snsCall,
            SqliteSns.serve_getTopic, SqliteSns.serve_getTopic]
          have found := alike.topicOfArn arn
          cases isFound : database.topicOfArn arn with
          | none =>
              rw [isFound] at found
              cases isFound' : database'.topicOfArn arn with
              | none => exact AlikeOutcome.refl (.ok _)
              | some topic' => rw [isFound'] at found; cases found
          | some topic =>
              rw [isFound] at found
              cases isFound' : database'.topicOfArn arn with
              | none => rw [isFound'] at found; cases found
              | some topic' =>
                  rw [isFound'] at found
                  obtain ⟨alikeFound⟩ := found
                  exact Or.inr ⟨_, _, rfl, rfl, alikeCheck_of_alikeTopic alikeFound action arn⟩

/-- What the adapter of a registered action asks for, on the two stores. -/
theorem run_adaptedResolveAuthorization {S : Type} {serve' : Serve sqsStore S}
    (library : SnsLibrary) (mode : AuthorizationMode) (generated : SnsGenerated)
    (action : SnsAction) (request : ResolvedRequest) (queues : S) :
    AlikeTopics library.json database database' →
      AlikeOutcome
        (((snsAction library mode generated action).typed.adaptedResolveAuthorization request).run.run
          (SqliteSns.serve.sum serve') (database, queues)).1
        (((snsAction library mode generated action).typed.adaptedResolveAuthorization request).run.run
          (SqliteSns.serve.sum serve') (database', queues)).1 := by
  intro alike
  unfold TypedAwsAction.adaptedResolveAuthorization
  cases parsed : (snsAction library mode generated action).typed.parse request.request with
  | error error => exact AlikeOutcome.refl (.error error)
  | ok payload =>
      rw [liftExcept_ok_bind]
      have resolves (checked : SnsAction) : AlikeOutcome
          ((@Program.left snsStore sqsStore _
            (Sns.resolveAuthorization library checked request).run).run
              (SqliteSns.serve.sum serve') (database, queues)).1
          ((@Program.left snsStore sqsStore _
            (Sns.resolveAuthorization library checked request).run).run
              (SqliteSns.serve.sum serve') (database', queues)).1 := by
        rw [run_left, run_left]
        exact alikeOutcome_resolveAuthorization alike checked request
      cases action with
      | publish => exact resolves .publish
      | ofStore action =>
          cases action with
          | createTopic | listSubscriptions | listTopics => exact AlikeOutcome.refl (.ok _)
          | deleteTopic | subscribe | getTopicAttributes | getSubscriptionAttributes
          | listSubscriptionsByTopic | setSubscriptionAttributes | setTopicAttributes
          | listTagsForResource | tagResource | untagResource | unsubscribe => exact resolves _

/-- **What the authorizer decides about a request**: an error of the service, or a program
over the store of identities. -/
def snsDecision {S : Type} (library : SnsLibrary) (serve' : Serve sqsStore S)
    (parsePolicy : Text → Except Text Policy) (mode : AuthorizationMode)
    (generated : SnsGenerated) (action : SnsAction) (request : ResolvedRequest)
    (database : SnsDatabase) (queues : S) : Except SnsError (IamProgram AuthorizationResult) :=
  (((snsAction library mode generated action).typed.adaptedResolveAuthorization request).run.run
    (SqliteSns.serve.sum serve') (database, queues)).1.map (authorize parsePolicy mode request)

/-- **The decision about a request is the same.** -/
theorem snsDecision_alike {S : Type} {library : SnsLibrary} {serve' : Serve sqsStore S}
    (alike : AlikeTopics library.json database database')
    (parsePolicy : Text → Except Text Policy) (mode : AuthorizationMode)
    (generated : SnsGenerated) (action : SnsAction) (request : ResolvedRequest) (queues : S) :
    snsDecision library serve' parsePolicy mode generated action request database queues =
      snsDecision library serve' parsePolicy mode generated action request database' queues := by
  unfold snsDecision
  have outcome := @run_adaptedResolveAuthorization database database' S serve' library mode
    generated action request queues alike
  rcases outcome with ⟨error, failed, failed'⟩ | ⟨check, check', resolved, resolved', same⟩
  · rw [failed, failed']
  · rw [resolved, resolved']
    exact congrArg Except.ok (same.authorize_eq parsePolicy mode request)

/-- The store after some calls. -/
def serveAll (calls : List SnsCall) (database : SnsDatabase) : SnsDatabase :=
  calls.foldl (fun state call => (SqliteSns.serve call state).2) database

/-- **No later request is decided differently**: whatever the store is asked to do first,
whoever asks, with whatever policies. -/
def SameDecisions (library : SnsLibrary) (database database' : SnsDatabase) : Prop :=
  ∀ (S : Type) (serve' : Serve sqsStore S) (queues : S) (parsePolicy : Text → Except Text Policy)
    (mode : AuthorizationMode) (generated : SnsGenerated) (calls : List SnsCall)
    (action : SnsAction) (request : ResolvedRequest),
    snsDecision library serve' parsePolicy mode generated action request
        (serveAll calls database) queues =
      snsDecision library serve' parsePolicy mode generated action request
        (serveAll calls database') queues

/-- Alike topics stay alike. -/
theorem alikeTopics_serveAll (alike : AlikeTopics json database database')
    (calls : List SnsCall) : AlikeTopics json (serveAll calls database) (serveAll calls database') := by
  induction calls generalizing database database' with
  | nil => exact alike
  | cons call calls inductionHypothesis => exact inductionHypothesis (alikeTopics_serve alike call)

theorem AlikeTopics.sameDecisions {library : SnsLibrary}
    (alike : AlikeTopics library.json database database') :
    SameDecisions library database database' :=
  fun _ _ queues parsePolicy mode generated calls action request =>
    snsDecision_alike (alikeTopics_serveAll alike calls) parsePolicy mode generated action request
      queues

/-! ### Policies are JSON -/

/-- The policy is JSON. -/
def IsJson (json : JsonLibrary) (policy : Text) : Prop :=
  ∃ value, json.read policy.utf8 = .ok value

/-- **Every policy of a topic is JSON.** -/
def PoliciesReadable (json : JsonLibrary) (database : SnsDatabase) : Prop :=
  ∀ topic ∈ database.topics.rows, IsJson json topic.policy

/-- A call that writes no other policies than JSON. -/
def SnsCall.WritesReadable (json : JsonLibrary) : SnsCall → Prop
  | .createTopic topic => IsJson json topic.policy
  | .setTopicAttributes _ _ _ update => ∀ policy ∈ update.policy, IsJson json policy
  | _ => True

/-- A call that writes such policies only. -/
def SnsCall.WritesPolicies (holds : Text → Prop) : SnsCall → Prop
  | .createTopic topic => holds topic.policy
  | .setTopicAttributes _ _ _ update => ∀ policy ∈ update.policy, holds policy
  | _ => True

/-- **Whatever holds of the policies that are written holds of every policy.** -/
theorem callsKeep_policies (holds : Text → Prop) :
    CallsKeep SqliteSns.serve (SnsCall.WritesPolicies holds)
      (fun database => ∀ topic ∈ database.topics.rows, holds topic.policy) := by
  intro call database writes before
  rcases SqliteSns.topics_serve call database with same | ⟨topic, rfl, -, inserted⟩ |
    ⟨_, name, region, accountId, rfl, deleted⟩ |
    ⟨accountId, region, name, update, found, rfl, isFound, updated⟩
  · intro row member
    rw [same] at member
    exact before row member
  · intro row member
    rw [inserted] at member
    rcases SequenceTable.mem_insert.mp member with old | rfl
    · exact before row old
    · exact writes
  · intro row member
    rw [deleted] at member
    exact before row (SequenceTable.mem_filter.mp member).1
  · intro row member
    rw [updated] at member
    obtain ⟨old, isOld, rfl⟩ := SequenceTable.mem_map.mp member
    split_ifs with same
    · show holds (update.policy.getD found.policy)
      cases isSet : update.policy with
      | none => exact before found (SnsDatabase.mem_of_topicOfArn isFound)
      | some policy => exact writes policy isSet
    · exact before old isOld

/-- **Such calls keep every policy readable.** -/
theorem callsKeep_policiesReadable :
    CallsKeep SqliteSns.serve (SnsCall.WritesReadable json) (PoliciesReadable json) := by
  intro call database writes
  refine callsKeep_policies (IsJson json) call database ?_
  cases call <;> exact writes

/-- What is set for the policy is the value of the attribute of that name. -/
theorem policy_fromAttributeNameAndValue {name value policy : Text}
    (isSet : policy ∈ (SnsTopicAttributeUpdate.fromAttributeNameAndValue name value).policy) :
    name = ("Policy" : Text) ∧ policy = value := by
  revert isSet
  refine @SnsTopicAttributeUpdate.cases_name
    (fun name update => policy ∈ update.policy → name = ("Policy" : Text) ∧ policy = value)
    value ?_ ?_ ?_ ?_ ?_ ?_ ?_ ?_ ?_ ?_ ?_ name
  case refine_3 =>
    intro isSet
    exact ⟨rfl, (Option.some.inj isSet).symm⟩
  case refine_11 =>
    intro _ _ isSet
    cases isSet
  all_goals
    intro isSet
    cases isSet

/-- An accepted policy is JSON. -/
theorem isJson_of_validateJsonAttribute {library : SnsLibrary} {policy : Text}
    (accepted : validateJsonAttribute library "Policy" policy = .ok ()) :
    IsJson library.json policy := by
  unfold validateJsonAttribute at accepted
  rw [if_pos (by decide +kernel)] at accepted
  cases read : library.json.read policy.utf8 with
  | ok value => exact ⟨value, read⟩
  | error error =>
      rw [read] at accepted
      cases accepted

/-- What is set by an accepted request was checked. -/
theorem validateJsonAttribute_of_accepts {library : SnsLibrary} {request : ResolvedRequest}
    {payload : SetTopicAttributesRequest}
    (accepted : (setTopicAttributesAction library).Accepts request payload) :
    validateJsonAttribute library payload.attributeName payload.attributeValue = .ok () := by
  obtain ⟨-, events, completes⟩ := accepted
  obtain ⟨_, _, _, -, -, rest⟩ := completes_bind.mp completes
  dsimp only at rest
  by_cases named : payload.attributeName = []
  · rw [if_pos named] at rest
    exact absurd rest not_completes_throw
  · rw [if_neg named] at rest
    obtain ⟨_, _, _, -, checked, -⟩ := completes_bind.mp rest
    exact (completes_liftExcept.mp checked).2

/-- **Such policies are set**: what holds of every policy that an accepted request gives. -/
structure SnsTask.SetsPolicies (library : SnsLibrary) (holds : Text → Prop) (task : SnsTask) :
    Prop where
  created : ∀ payload, task.action = .createTopic →
    (createTopicAction library task.generated).Accepts task.request payload →
    ∀ policy, payload.attributes.get? "Policy" = some policy → holds policy
  changed : ∀ payload, task.action = .setTopicAttributes →
    (setTopicAttributesAction library).Accepts task.request payload →
    payload.attributeName = ("Policy" : Text) → holds payload.attributeValue

/-- A request writes the policies that it sets. -/
theorem SnsTask.SetsPolicies.writes {library : SnsLibrary} {holds : Text → Prop} {task : SnsTask}
    {call : SnsCall} (sets : task.SetsPolicies library holds) (empty : holds "{}")
    (writes : task.Writes library call) : call.WritesPolicies holds := by
  cases writes with
  | @createTopic payload isAction accepted =>
      show holds ((payload.attributes.get? "Policy").getD "{}")
      cases given : payload.attributes.get? "Policy" with
      | none => exact empty
      | some policy => exact sets.created payload isAction accepted policy given
  | @setTopicAttributes payload topicId isAction accepted named =>
      intro policy isSet
      obtain ⟨isPolicy, rfl⟩ := policy_fromAttributeNameAndValue isSet
      exact sets.changed payload isAction accepted isPolicy
  | _ => exact trivial

/-- **Every policy that a request sets is JSON.** -/
theorem SnsTask.setsPolicies_isJson {library : SnsLibrary} (task : SnsTask) :
    task.SetsPolicies library (IsJson library.json) where
  created := by
    intro payload isAction accepted policy given
    obtain ⟨-, events, completes⟩ := accepted
    obtain ⟨_, _, _, -, -, rest⟩ := completes_bind.mp completes
    obtain ⟨_, _, _, -, checked, -⟩ := completes_bind.mp rest
    have accepted := forM_eq_ok.mp (completes_liftExcept.mp checked).2 _
      (SortedMap.get?_eq_some.mp given)
    have isValid : isValidTopicAttribute "Policy" = true := by decide +kernel
    exact isJson_of_validateJsonAttribute ((if_pos isValid).symm.trans accepted)
  changed := fun payload _ accepted isPolicy =>
    isJson_of_validateJsonAttribute (isPolicy ▸ validateJsonAttribute_of_accepts accepted)

/-- **A request writes no other policies than JSON.** -/
theorem writesReadable_of_writes {library : SnsLibrary} {task : SnsTask} {call : SnsCall}
    (empty : IsJson library.json "{}") (writes : task.Writes library call) :
    call.WritesReadable library.json := by
  have writesJson := task.setsPolicies_isJson.writes empty writes
  cases call <;> exact writesJson

/-- A call that neither creates nor changes a topic. -/
def SnsCall.WritesNoTopic : SnsCall → Prop
  | .createTopic _ | .setTopicAttributes .. => False
  | _ => True

/-- **What may go on at a store of topics**: requests, the form of the console that creates
topics, and whatever neither creates nor changes a topic. -/
inductive SnsWork where
  | request (task : SnsTask)
  | createTopicForm (now : Time) (form : CreateTopicForm)
  | other (program : SnsProgram Unit)
      (writesNoTopic : @AllCalls snsStore _ SnsCall.WritesNoTopic program)

/-- Work as a program over the store. -/
def SnsWork.program (library : SnsLibrary) : SnsWork → SnsProgram Unit
  | .request task => task.program library
  | .createTopicForm now form => do
      let _ ← (createTopicFromForm now form).run
      return ()
  | .other program _ => program

/-- **All work keeps every policy readable.** -/
theorem SnsWork.allCalls {library : SnsLibrary} (empty : IsJson library.json "{}") (work : SnsWork) :
    @AllCalls snsStore _ (SnsCall.WritesReadable library.json) (work.program library) := by
  have reads : ∀ call : SnsCall, call.IsRead → call.WritesReadable library.json := by
    intro call isRead
    cases call <;> first | exact trivial | exact isRead.elim
  cases work with
  | request task => exact SnsTask.allCalls reads fun call => writesReadable_of_writes empty
  | createTopicForm now form =>
      exact AllCalls.bind (onlyCalls_createTopicFromForm (fun _ => trivial) empty) fun _ => trivial
  | other program writesNoTopic =>
      refine AllCalls.mono writesNoTopic fun call writesNone => ?_
      cases call <;> first | exact trivial | exact writesNone.elim

/-- **Every policy is readable in every state that is reached.** -/
theorem policiesReadable_of_reachable {ι : Type} [DecidableEq ι] {library : SnsLibrary}
    (empty : IsJson library.json "{}") {work : ι → SnsWork}
    {start config : Config snsStore Unit ι SnsDatabase}
    (begins : ∀ thread, start.threads thread = (work thread).program library)
    (initially : PoliciesReadable library.json start.shared)
    (reachable : Reachable SqliteSns.serve (fun _ _ => True) start config) :
    PoliciesReadable library.json config.shared := by
  refine (callsKeep_policiesReadable.reachable (fun thread => ?_) initially reachable).1
  rw [begins]
  exact (work thread).allCalls empty

/-! ### Writing back -/

/-- How the JSON library reads a text that stands for no policy: the empty object as such, and
blanks not at all. -/
structure ReadsNoPolicy (library : JsonLibrary) : Prop where
  empty : ReadsEmptyObject library
  blank : ∀ {text json}, trim text = [] → library.read text.utf8 ≠ .ok json

/-- **What is reported of a readable policy says what the policy says.** -/
theorem samePolicyResults_reported {library : SnsLibrary} (reads : ReadsNoPolicy library.json)
    {policy arn accountId : Text} (isJson : IsJson library.json policy)
    (roundTrips : library.json.RoundTrips (defaultTopicPolicyJson arn accountId)) :
    SamePolicyResults library.json policy
      (topicPolicyAttributeValue library policy arn accountId) := by
  obtain ⟨value, isValue⟩ := isJson
  unfold topicPolicyAttributeValue
  split_ifs with standsForNone
  · have isEmpty : library.json.read policy.utf8 = .ok (.object []) := by
      rcases standsForNone with blank | braces
      · exact absurd isValue (reads.blank blank)
      · rw [isValue, reads.empty.blanks braces isValue]
    intro principal resource action
    rw [policyResult_empty isEmpty, policyResult_defaultTopicPolicy roundTrips]
  · exact fun _ _ _ => rfl

/-- Setting the policy of a topic to one that says the same leaves the topics alike. -/
theorem alikeTopics_setPolicy {topic : SnsTopic} {policy : Text}
    (isTopic : topic ∈ database.topics.rows) (same : SamePolicyResults json topic.policy policy) :
    AlikeTopics json database (database.updateTopic topic.id
      (SqliteSns.updatedTopic (.fromAttributeNameAndValue "Policy" policy) topic.columns)).2 := by
  have updated : SnsTopicAttributeUpdate.fromAttributeNameAndValue "Policy" policy =
      { SnsTopicAttributeUpdate.default with policy := some policy } := by
    unfold SnsTopicAttributeUpdate.fromAttributeNameAndValue
    rw [if_neg (by decide), if_neg (by decide), if_pos rfl]
  rw [updated]
  refine ⟨List.forall₂_map_right_iff.mpr (List.forall₂_same.mpr fun row member => ?_), rfl⟩
  split_ifs with isRow
  · obtain rfl := database.topics.toRowTable.eq_of_key_eq member isTopic isRow
    exact ⟨rfl, same⟩
  · exact AlikeTopic.refl row

/-- **`GetTopicAttributes` reports this policy.** -/
def ReportsPolicy (library : SnsLibrary) (asks : ResolvedRequest) (arn : Text)
    (database : SnsDatabase) (policy : Text) : Prop :=
  Succeeds SqliteSns.serve ((getTopicAttributesAction library).validate asks ⟨arn⟩) database ()
      database ∧
    ∃ entries, Reported library asks arn database entries ∧
      entries.lookup ("Policy" : Text) = some policy

/-- What it takes for a policy to be reported. -/
theorem reportsPolicy_iff {library : SnsLibrary} {asks : ResolvedRequest} {arn policy : Text} :
    ReportsPolicy library asks arn database policy ↔
      validateTopicArn arn "TopicArn" = .ok () ∧ ∃ topic, database.topicOfArn arn = some topic ∧
        policy = topicPolicyAttributeValue library topic.policy
          (topicArn topic.region topic.accountId topic.name) topic.accountId := by
  have listed (topic : SnsTopic) : (topicEntries library topic).lookup ("Policy" : Text) =
      some (topicPolicyAttributeValue library topic.policy
        (topicArn topic.region topic.accountId topic.name) topic.accountId) := by
    rw [topicEntries_eq]
    exact lookup_setEntries (names_topicTable library topic ▸ nodup_reportedTopicAttributes)
      (List.mem_of_getElem? (show (topicTable library topic)[2]? = _ from rfl))
  constructor
  · rintro ⟨validated, entries, reported, isPolicy⟩
    refine ⟨(succeeds_liftExcept.mp validated).1, ?_⟩
    obtain ⟨topic, _, loads, -⟩ := succeeds_bind.mp reported
    obtain ⟨found, -⟩ := succeeds_loadTopic.mp loads
    obtain rfl := (reported_iff found).mp reported
    exact ⟨topic, found, Option.some.inj (isPolicy.symm.trans (listed topic))⟩
  · rintro ⟨isArn, topic, found, rfl⟩
    exact ⟨succeeds_liftExcept.mpr ⟨isArn, rfl⟩, _, (reported_iff found).mpr rfl, listed topic⟩

/-- **Writing back the reported policy of a topic is accepted and changes no decision**, in
every state that work on the store reaches. -/
theorem policy_writeBack_neutral {ι : Type} [DecidableEq ι] {library : SnsLibrary}
    (reads : ReadsNoPolicy library.json) {work : ι → SnsWork}
    {start config : Config snsStore Unit ι SnsDatabase}
    (roundTrips : ∀ topic ∈ config.shared.topics.rows, library.json.RoundTrips
      (defaultTopicPolicyJson (topicArn topic.region topic.accountId topic.name) topic.accountId))
    (begins : ∀ thread, start.threads thread = (work thread).program library)
    (initially : PoliciesReadable library.json start.shared)
    (reachable : Reachable SqliteSns.serve (fun _ _ => True) start config)
    {asks writes : ResolvedRequest} {arn policy : Text}
    (reported : ReportsPolicy library asks arn config.shared policy) :
    Succeeds SqliteSns.serve ((setTopicAttributesAction library).validate writes
        ⟨arn, "Policy", policy⟩) config.shared () config.shared ∧
      ∃ final, Succeeds SqliteSns.serve (handleSetTopicAttributes writes ⟨arn, "Policy", policy⟩)
          config.shared writes.requestId final ∧
        SameDecisions library config.shared final := by
  have readable := policiesReadable_of_reachable ⟨_, reads.empty.plain⟩ begins initially reachable
  obtain ⟨isArn, topic, found, rfl⟩ := reportsPolicy_iff.mp reported
  have isTopic := SnsDatabase.mem_of_topicOfArn found
  have isJson : IsJson library.json topic.policy := readable topic isTopic
  have parsed : ∃ topicId, parseSnsTopicArn arn = some topicId := by
    unfold validateTopicArn at isArn
    split_ifs at isArn with missing
    cases parsed : parseSnsTopicArn arn with
    | none => rw [parsed] at isArn; cases isArn
    | some topicId => exact ⟨topicId, rfl⟩
  obtain ⟨topicId, parsed⟩ := parsed
  have named : ("Policy" : Text) ≠ [] := by decide
  have valid : isValidTopicAttribute "Policy" = true := by decide +kernel
  refine ⟨succeeds_validateSetTopicAttributes.mpr ⟨⟨isArn, named, ?_, valid⟩, rfl⟩,
    _, succeeds_handleSetTopicAttributes.mpr ⟨rfl, topicId, topic, parsed, found, rfl⟩,
    (alikeTopics_setPolicy isTopic (samePolicyResults_reported reads isJson
      (roundTrips topic isTopic))).sameDecisions⟩
  -- what is reported is JSON: the policy itself, or the default one
  have isReportedJson : IsJson library.json (topicPolicyAttributeValue library topic.policy
      (topicArn topic.region topic.accountId topic.name) topic.accountId) := by
    unfold topicPolicyAttributeValue
    split_ifs
    · exact ⟨_, (roundTrips topic isTopic).readsBack⟩
    · exact isJson
  obtain ⟨value, isValue⟩ := isReportedJson
  show (if jsonAttributes.contains ("Policy" : Text) = true then _ else _) = _
  rw [if_pos (by decide +kernel), isValue]

/-! ### A topic of the console -/

/-- The default policy of the topic as it is written. -/
def ordersDefaultPolicy : Text :=
  ("\x7b\"Id\":\"__default_policy_ID\",\"Statement\":[\x7b\"Action\":" : Text) ++
  "[\"SNS:GetTopicAttributes\",\"SNS:SetTopicAttributes\",\"SNS:AddPermission\",".toList ++
  "\"SNS:RemovePermission\",\"SNS:DeleteTopic\",\"SNS:Subscribe\",".toList ++
  "\"SNS:ListSubscriptionsByTopic\",\"SNS:Publish\"],\"Condition\":".toList ++
  "\x7b\"StringEquals\":\x7b\"AWS:SourceOwner\":\"000000000000\"\x7d\x7d,".toList ++
  "\"Effect\":\"Allow\",\"Principal\":\x7b\"AWS\":\"*\"\x7d,".toList ++
  "\"Resource\":\"arn:aws:sns:us-east-1:000000000000:orders\",".toList ++
  "\"Sid\":\"__default_statement_ID\"\x7d],\"Version\":\"2008-10-17\"\x7d".toList

/-- A JSON library that reads and writes one document, and reads the empty object. -/
def oneDocument (document : Text) (json : Json) : JsonLibrary where
  read := fun bytes =>
    if bytes = Text.utf8 "{}" then .ok (.object [])
    else if bytes = document.utf8 then .ok json
    else .error "expected value"
  write := fun _ => document

variable {document : Text} {value : Json}

/-- What such a library reads. -/
theorem read_oneDocument {text : Text} {found : Json}
    (isRead : (oneDocument document value).read text.utf8 = .ok found) :
    text = ("{}" : Text) ∧ found = .object [] ∨ text = document := by
  unfold oneDocument at isRead
  dsimp only at isRead
  split_ifs at isRead with first second
  · exact Or.inl ⟨Text.utf8_injective first, (Except.ok.inj isRead).symm⟩
  · exact Or.inr (Text.utf8_injective second)

theorem oneDocument_reads (isTrimmed : trim document = document) (nonempty : document ≠ [])
    (notBraces : document ≠ ("{}" : Text)) : ReadsNoPolicy (oneDocument document value) where
  empty := {
    plain := rfl
    blanks := by
      intro text found isBraces isRead
      rcases read_oneDocument isRead with ⟨-, rfl⟩ | rfl
      · rfl
      · exact absurd (isTrimmed.symm.trans isBraces) notBraces }
  blank := by
    intro text found isBlank isRead
    rcases read_oneDocument isRead with ⟨rfl, -⟩ | rfl
    · exact absurd isBlank (by decide)
    · exact nonempty (isTrimmed.symm.trans isBlank)

theorem oneDocument_roundTrips (nonempty : document ≠ []) (notBraces : document ≠ ("{}" : Text)) :
    (oneDocument document value).RoundTrips value where
  written := nonempty
  readsBack := by
    unfold oneDocument
    dsimp only
    rw [if_neg fun same => notBraces (Text.utf8_injective same), if_pos rfl]

/-- The libraries, with this policy as the one document. -/
def defaultPolicyLibrary : SnsLibrary where
  form := plainForm
  sqs := { sampleLibrary with
    json := oneDocument ordersDefaultPolicy
      (defaultTopicPolicyJson ordersTopicArn "000000000000") }
  renderTime := fun _ => []

theorem ordersDefaultPolicy_facts : trim ordersDefaultPolicy = ordersDefaultPolicy ∧
    ordersDefaultPolicy ≠ [] ∧ ordersDefaultPolicy ≠ ("{}" : Text) := by
  decide +kernel

/-- The form that creates the topic. -/
def ordersTopicForm : CreateTopicForm where
  name := " orders"
  region := "us-east-1"
  accountId := "000000000000"
  displayName := []

/-- The form is sent to a store without topics. -/
def topicFormStart : Config snsStore Unit Unit SnsDatabase where
  shared := .empty
  threads := fun _ => (SnsWork.createTopicForm 0 ordersTopicForm).program defaultPolicyLibrary
  log := []

theorem topics_topicFormStart :
    (topicFormStart.play SqliteSns.serve [(), ()]).shared.topics.rows = [ordersTopic "{}"] := by
  decide +kernel

/-- The default policy of the topic of a form is written back. -/
theorem policy_writeBack_neutral_form :
    ∃ final, Succeeds SqliteSns.serve (handleSetTopicAttributes (userRequest 0 [])
        ⟨ordersTopicArn, "Policy", ordersDefaultPolicy⟩)
        (topicFormStart.play SqliteSns.serve [(), ()]).shared (userRequest 0 []).requestId final ∧
      SameDecisions defaultPolicyLibrary
        (topicFormStart.play SqliteSns.serve [(), ()]).shared final := by
  have stored := topics_topicFormStart
  obtain ⟨isTrimmed, nonempty, notBraces⟩ := ordersDefaultPolicy_facts
  have found : (topicFormStart.play SqliteSns.serve [(), ()]).shared.topicOfArn ordersTopicArn =
      some (ordersTopic "{}") := by
    decide +kernel
  refine (@policy_writeBack_neutral Unit _ defaultPolicyLibrary
    (oneDocument_reads isTrimmed nonempty notBraces) (fun _ => .createTopicForm 0 ordersTopicForm) topicFormStart _ ?_ (fun _ => rfl) ?_
    (Reachable.play (fun _ _ _ => trivial) .start Config.passes_true) (userRequest 0 []) _
    ordersTopicArn ordersDefaultPolicy ?_).2
  · intro topic member
    rw [stored] at member
    obtain rfl := List.mem_singleton.mp member
    exact oneDocument_roundTrips nonempty notBraces
  · intro topic member
    exact absurd member List.not_mem_nil
  · exact reportsPolicy_iff.mpr ⟨by decide +kernel, ordersTopic "{}", found, rfl⟩

end Hiraeth
