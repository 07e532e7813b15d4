import Hiraeth.Iam.PolicyNames
import Hiraeth.Iam.UserPrincipals
import Hiraeth.Sns.Topics
import Hiraeth.Sns.ConfusedDeputy
import Hiraeth.Sqs.QueueCreation

/-!
# What creating something is authorized for

A request that creates a queue, a topic, a user or a policy is authorized before there is
anything that it could be authorized for.  The IAM service builds the ARN of what will be
there from the parameters of the request, by a path that the handler normalises in its own
way.  The SQS and SNS services ask for all queues or topics of the account.

## Main definitions

* `AuthorizedCreation` — a request that was permitted for a check and added a row

## Main results

* `normalizeUserPath_normalizePolicyPath` — both ways to normalise a path agree in an ARN
* `creation_resources` — users and policies are created under the ARN that was asked for, and
  queues and topics where the ARN has a `*` in the place of their names
-/

namespace Hiraeth

open Interaction Program

/-! ### Paths -/

/-- A text that has a slash in front and one behind, where one was put if there was none. -/
inductive Enclosed (text : Text) : Text → Prop
  | plain (first : text.head? = some '/') (last : text.getLast? = some '/') : Enclosed text text
  | front (last : text.getLast? = some '/') : Enclosed text ('/' :: text)
  | back (first : text.head? = some '/') : Enclosed text (text ++ ['/'])
  | both : Enclosed text ('/' :: text ++ ['/'])

namespace Enclosed

variable {text enclosed : Text}

theorem first (isEnclosed : Enclosed text enclosed) (nonempty : text ≠ []) :
    enclosed.head? = some '/' := by
  cases isEnclosed with
  | plain first _ => exact first
  | front _ => rfl
  | back first => rw [List.head?_append_of_ne_nil _ nonempty, first]
  | both => rfl

theorem last (isEnclosed : Enclosed text enclosed) (nonempty : text ≠ []) :
    enclosed.getLast? = some '/' := by
  cases isEnclosed with
  | plain _ last => exact last
  | front last => rw [List.getLast?_cons_of_ne_nil nonempty, last]
  | back _ => exact List.getLast?_concat
  | both => exact List.getLast?_concat

/-- What trimming slashes leaves does not depend on them. -/
theorem trimMatches_eq (isEnclosed : Enclosed text enclosed) :
    trimMatches '/' enclosed = trimMatches '/' text := by
  cases isEnclosed with
  | plain _ _ => rfl
  | front _ => exact trimBy_cons (by decide) text
  | back _ => exact trimBy_concat (by decide) text
  | both => exact (trimBy_concat (by decide) _).trans (trimBy_cons (by decide) text)

/-- Only a slash is completed to a slash. -/
theorem ne_root (isEnclosed : Enclosed text enclosed) (nonempty : text ≠ []) (inner : text ≠ "/") :
    enclosed ≠ "/" := by
  intro same
  cases isEnclosed with
  | plain _ _ => exact inner same
  | front _ => exact nonempty (List.cons.inj same).2
  | back _ =>
      have length := congrArg List.length same
      rw [List.length_append] at length
      exact nonempty (List.length_eq_zero_iff.mp (Nat.succ.inj length))
  | both =>
      have length := congrArg List.length same
      rw [List.length_append, List.length_cons] at length
      exact absurd (Nat.succ.inj length) (Nat.succ_ne_zero _)

/-- Nothing is trimmed from a text between slashes. -/
theorem trim_eq (isEnclosed : Enclosed text enclosed) (nonempty : text ≠ []) :
    trim enclosed = enclosed := by
  have slash : isWhitespace '/' = false := by decide
  refine trimBy_eq_self_iff.mpr ⟨fun c isFirst => ?_, fun c isLast => ?_⟩
  · rw [isEnclosed.first nonempty] at isFirst
    cases Option.some.inj isFirst
    exact slash
  · rw [isEnclosed.last nonempty] at isLast
    cases Option.some.inj isLast
    exact slash

end Enclosed

/-- A policy path is the trimmed one between slashes. -/
theorem enclosed_normalizePolicyPath {path : Text} (nonempty : trim path ≠ []) :
    Enclosed (trim path) (normalizePolicyPath (some path)) := by
  unfold normalizePolicyPath
  dsimp only
  rw [if_neg nonempty]
  by_cases first : (trim path).head? = some '/'
  · rw [if_pos first]
    by_cases last : (trim path).getLast? = some '/'
    · rw [if_pos last]
      exact .plain first last
    · rw [if_neg last]
      exact .back first
  · rw [if_neg first, List.getLast?_cons_of_ne_nil nonempty]
    by_cases last : (trim path).getLast? = some '/'
    · rw [if_pos last]
      exact .front last
    · rw [if_neg last]
      exact .both

/-- **Both ways to normalise a path agree in an ARN.** -/
theorem normalizeUserPath_normalizePolicyPath (path : Option Text) :
    normalizeUserPath (normalizePolicyPath path) = normalizeUserPath (path.getD "/") := by
  cases path with
  | none => rfl
  | some path =>
      show _ = normalizeUserPath path
      by_cases empty : trim path = []
      · have root : normalizePolicyPath (some path) = "/" := by
          unfold normalizePolicyPath
          dsimp only
          rw [if_pos empty]
        rw [root, normalizeUserPath_root, normalizeUserPath, if_pos (Or.inl empty)]
      · have enclosed := enclosed_normalizePolicyPath empty
        by_cases root : trim path = "/"
        · have isRoot : normalizePolicyPath (some path) = "/" := by
            unfold normalizePolicyPath
            dsimp only
            rw [root]
            rfl
          rw [isRoot, normalizeUserPath_root, normalizeUserPath, if_pos (Or.inr root)]
        · have nonempty : normalizePolicyPath (some path) ≠ [] := by
            intro none
            have first := enclosed.first empty
            rw [none] at first
            cases first
          unfold normalizeUserPath
          dsimp only
          rw [enclosed.trim_eq empty, if_neg (not_or.mpr ⟨nonempty, enclosed.ne_root empty root⟩),
            if_neg (not_or.mpr ⟨empty, root⟩), enclosed.trimMatches_eq]

/-- So they do when the path of the policy is normalised once more. -/
theorem policyArn_normalizePolicyPath (accountId : Text) (path : Option Text) (policyName : Text) :
    policyArn accountId (normalizePolicyPath (some (normalizePolicyPath path))) policyName =
      policyArn accountId (normalizeUserPath (path.getD "/")) policyName := by
  unfold policyArn
  rw [normalizeUserPath_normalizePolicyPath, Option.getD_some,
    normalizeUserPath_normalizePolicyPath, normalizeUserPath_normalizeUserPath]

/-! ### Creating -/

/-- **A request that was permitted for a check and added a row**: the steps of a request that
is answered, the last of which put one row behind those that were there. -/
structure AuthorizedCreation {I : Interface} {Error Request Response S Row : Type}
    (serve : Serve I S) (rows : S → List Row) (action : TypedAwsAction I Error Request Response)
    (request : ResolvedRequest) (check : AuthorizationCheck) (row : Row) : Prop where
  answered : ∃ (authorize : ResolvedRequest → AuthorizationCheck → Program I AuthorizationResult)
      (state resolved decided validated final : S) (response : Response),
    Succeeds serve (action.adaptedResolveAuthorization request) state check resolved ∧
    (authorize request check).run serve resolved = (.allow, decided) ∧
    Succeeds serve (action.adaptedValidate request) decided () validated ∧
    Succeeds serve (action.adaptedHandle request) validated response final ∧
    rows final = rows validated ++ [row]

/-- The payload of such a request, with what it was authorized for and what it did. -/
theorem AuthorizedCreation.payload {I : Interface} {Error Request Response S Row : Type}
    {serve : Serve I S} {rows : S → List Row} {action : TypedAwsAction I Error Request Response}
    {request : ResolvedRequest} {check : AuthorizationCheck} {row : Row}
    (creates : AuthorizedCreation serve rows action request check row) :
    ∃ payload state resolved validated final response,
      action.parse request.request = .ok payload ∧
      Succeeds serve (action.resolveAuthorization request payload) state check resolved ∧
      Succeeds serve (action.handle request payload) validated response final ∧
      rows final = rows validated ++ [row] := by
  obtain ⟨_, state, resolved, _, validated, final, response, resolves, -, -, handles, added⟩ :=
    creates.answered
  unfold TypedAwsAction.adaptedResolveAuthorization at resolves
  obtain ⟨payload, _, parsed, resolves⟩ := succeeds_bind.mp resolves
  obtain ⟨isPayload, rfl⟩ := succeeds_liftExcept.mp parsed
  unfold TypedAwsAction.adaptedHandle at handles
  rw [isPayload, liftExcept_ok_bind] at handles
  exact ⟨payload, state, resolved, validated, final, response, isPayload, resolves, handles, added⟩

/-- The last of two equal lists. -/
theorem eq_of_append_singleton {Row : Type} {rows : List Row} {row row' : Row}
    (same : rows ++ [row] = rows ++ [row']) : row = row' :=
  List.singleton_inj.mp (List.append_cancel_left same)

section Iam

variable {parse : FormParser} {generated : Generated} {request : ResolvedRequest}
  {check : AuthorizationCheck}

/-- An IAM payload is built from the parameters. -/
theorem parseIamRequest_eq_ok {Request : Type} {declared : List Text}
    {build : AwsQueryParams → Except Text Request} {request : IncomingRequest} {payload : Request}
    (parsed : parseIamRequest parse declared build request = .ok payload) :
    ∃ params, parseAwsQueryParams parse request = .ok params ∧ build params = .ok payload := by
  obtain ⟨params, given, deserialized⟩ := bind_eq_ok.mp (mapError_eq_ok.mp parsed)
  obtain ⟨_, -, built⟩ := bind_eq_ok.mp (mapError_eq_ok.mp deserialized)
  exact ⟨params, given, built⟩

/-- Both readings of a parameter find the same value. -/
theorem requiredParam_of_required {params : AwsQueryParams} {name value : Text}
    (given : params.required name = .ok value) : requiredParam params name = .ok value := by
  rw [requiredParam, AwsQueryParams.required_eq_ok.mp given]

/-- What `CreateUser` is authorized for. -/
theorem createUser_check {params : AwsQueryParams} {userName : Text}
    (given : parseAwsQueryParams parse request.request = .ok params)
    (named : params.required "UserName" = .ok userName) {database final : IamDatabase}
    (resolves : Succeeds IamDatabase.serve (resolveAuthorization parse .createUser request)
      database check final) :
    check.resource =
      userArn request.accountId (normalizeUserPath ((params.get "Path").getD "/")) userName := by
  unfold resolveAuthorization at resolves
  rw [given, show (Except.ok params).mapError IamError.ofQueryParseError = .ok params from rfl,
    liftExcept_ok_bind, requiredParam_of_required named] at resolves
  obtain ⟨rfl, -⟩ := succeeds_pure.mp resolves
  rfl

/-- The row that `CreateUser` adds. -/
theorem rows_handleCreateUser {payload : CreateUserRequest} {database final : IamDatabase}
    {response : IamUserXml × Text}
    (succeeds : Succeeds IamDatabase.serve (handleCreateUser generated request payload)
      database response final) :
    ∃ user, final.principals.rows = database.principals.rows ++ [user] ∧
      userArn user.accountId user.path user.name =
        userArn request.accountId (normalizeUserPath payload.path) payload.userName := by
  unfold handleCreateUser at succeeds
  obtain ⟨created, between, inserted, answered⟩ := succeeds_bind.mp succeeds
  obtain ⟨rfl, rfl⟩ := succeeds_pure.mp answered
  have inserting := succeeds_orFail.mp inserted
  rw [run_iamCall, serve_createPrincipal] at inserting
  unfold IamDatabase.createPrincipal at inserting
  dsimp only at inserting
  split_ifs at inserting with sameId sameName
  · cases inserting
  · cases inserting
  · cases inserting
    exact ⟨_, rfl, rfl⟩

/-- A user is created under the ARN that was asked for. -/
theorem createUser_resource {user : Principal}
    (creates : AuthorizedCreation IamDatabase.serve (fun database => database.principals.rows)
      (createUserAction parse generated) request check user) :
    check.resource = userArn user.accountId user.path user.name := by
  obtain ⟨payload, state, resolved, validated, final, response, parsed, resolves, handles,
    added⟩ := creates.payload
  obtain ⟨params, given, built⟩ := parseIamRequest_eq_ok parsed
  obtain ⟨userName, named, isPayload⟩ := bind_eq_ok.mp built
  obtain rfl := Except.ok.inj isPayload
  obtain ⟨row, rows, arn⟩ := rows_handleCreateUser handles
  obtain rfl := eq_of_append_singleton (rows.symm.trans added)
  rw [createUser_check given named resolves, arn]

/-- What `CreatePolicy` is authorized for. -/
theorem createPolicy_check {params : AwsQueryParams} {policyName : Text}
    (given : parseAwsQueryParams parse request.request = .ok params)
    (named : params.required "PolicyName" = .ok policyName) {database final : IamDatabase}
    (resolves : Succeeds IamDatabase.serve (resolveAuthorization parse .createPolicy request)
      database check final) :
    check.resource =
      policyArn request.accountId (normalizeUserPath ((params.get "Path").getD "/")) policyName := by
  unfold resolveAuthorization at resolves
  rw [given, show (Except.ok params).mapError IamError.ofQueryParseError = .ok params from rfl,
    liftExcept_ok_bind, requiredParam_of_required named] at resolves
  obtain ⟨rfl, -⟩ := succeeds_pure.mp resolves
  rfl

/-- The row that `CreatePolicy` adds. -/
theorem rows_handleCreatePolicy {payload : CreatePolicyRequest} {database final : IamDatabase}
    {response : IamPolicyXml × Text}
    (succeeds : Succeeds IamDatabase.serve (handleCreatePolicy generated request payload)
      database response final) :
    ∃ policy : ManagedPolicy,
      final.managedPolicies.rows = database.managedPolicies.rows ++ [policy] ∧
      policy.arn = policyArn request.accountId
        (normalizePolicyPath (some (normalizePolicyPath payload.path))) payload.policyName := by
  unfold handleCreatePolicy at succeeds
  obtain ⟨created, between, inserted, answered⟩ := succeeds_bind.mp succeeds
  obtain ⟨rfl, rfl⟩ := succeeds_pure.mp answered
  have inserting := succeeds_orFail.mp inserted
  rw [run_iamCall, serve_insertManagedPolicy] at inserting
  unfold IamDatabase.insertManagedPolicy at inserting
  dsimp only at inserting
  split_ifs at inserting with sameId sameName
  · cases inserting
  · cases inserting
  · cases inserting
    exact ⟨_, rfl, rfl⟩

/-- A policy is created under the ARN that was asked for. -/
theorem createPolicy_resource {readJson : JsonReader} {policy : ManagedPolicy}
    (creates : AuthorizedCreation IamDatabase.serve (fun database => database.managedPolicies.rows)
      (createPolicyAction parse readJson generated) request check policy) :
    check.resource = policy.arn := by
  obtain ⟨payload, state, resolved, validated, final, response, parsed, resolves, handles,
    added⟩ := creates.payload
  unfold createPolicyAction at parsed
  obtain ⟨params, given, built⟩ := parseIamRequest_eq_ok parsed
  obtain ⟨document, isDocument, built⟩ := bind_eq_ok.mp built
  obtain ⟨policyName, named, isPayload⟩ := bind_eq_ok.mp built
  obtain rfl := Except.ok.inj isPayload
  obtain ⟨row, rows, arn⟩ := rows_handleCreatePolicy handles
  obtain rfl := eq_of_append_singleton (rows.symm.trans added)
  rw [createPolicy_check given named resolves, arn, policyArn_normalizePolicyPath]

end Iam

/-! ### Queues and topics -/

section Queues

variable {library : SqsLibrary} {now : Time} {request : ResolvedRequest}
  {check : AuthorizationCheck}

/-- What `CreateQueue` is authorized for: a queue of any name. -/
theorem createQueue_check {database final : SqsDatabase}
    (resolves : Succeeds SqsDatabase.serve (Sqs.resolveAuthorization library .createQueue request)
      database check final) {queue : SqsQueue} (inRegion : queue.region = request.region)
    (inAccount : queue.accountId = request.accountId) :
    check.resource = getQueueArn { queue with name := "*" } := by
  unfold Sqs.resolveAuthorization getRelevantQueueForAction at resolves
  obtain ⟨_, _, relevant, answered⟩ := succeeds_bind.mp resolves
  obtain ⟨rfl, rfl⟩ := succeeds_pure.mp relevant
  obtain ⟨rfl, -⟩ := succeeds_pure.mp answered
  have star : ":*".toList = ':' :: ("*" : Text) := by decide +kernel
  show ("arn:aws:sqs:" : Text) ++ request.region ++ ':' :: request.accountId ++ ":*".toList =
    ("arn:aws:sqs:" : Text) ++ queue.region ++ ':' :: queue.accountId ++ ':' :: ("*" : Text)
  rw [star, inRegion, inAccount]

/-- Tagging a new queue leaves the queues as they are. -/
theorem queues_tagCreatedQueue {payload : CreateQueueRequest} {database final : SqsDatabase}
    (succeeds : Succeeds SqsDatabase.serve (tagCreatedQueue request payload) database () final) :
    final.queues = database.queues := by
  unfold tagCreatedQueue at succeeds
  split at succeeds
  · exact congrArg _ (succeeds_pure.mp succeeds).2.symm
  · obtain ⟨found, between, looked, tagged⟩ := succeeds_bind.mp succeeds
    obtain rfl : between = database := (congrArg Prod.snd (succeeds_orFail.mp looked)).symm
    cases found with
    | none => exact absurd tagged not_succeeds_throw
    | some created =>
        have tagging := succeeds_orFail.mp tagged
        have afterwards : final = (between.tagQueue created.id payload.tags.entries).2 :=
          (congrArg Prod.snd tagging).symm
        rw [afterwards, SqsDatabase.tagQueue]
        split_ifs <;> rfl

/-- Comparing a queue leaves everything as it is. -/
theorem unchanged_confirmExistingQueue {payload : CreateQueueRequest} {queue : SqsQueue}
    {database final : SqsDatabase} {response : CreateQueueResponse}
    (succeeds : Succeeds SqsDatabase.serve (confirmExistingQueue request payload queue) database
      response final) : final = database := by
  unfold confirmExistingQueue at succeeds
  obtain ⟨found, between, looked, compared⟩ := succeeds_bind.mp succeeds
  obtain rfl : between = database := (congrArg Prod.snd (succeeds_orFail.mp looked)).symm
  cases found with
  | none => exact absurd compared not_succeeds_throw
  | some existing =>
      dsimp only at compared
      split_ifs at compared
      · exact (succeeds_pure.mp compared).2.symm
      · exact absurd compared not_succeeds_throw

/-- Only a queue of the caller is added. -/
theorem scope_handleCreateQueue {payload : CreateQueueRequest} {database final : SqsDatabase}
    {response : CreateQueueResponse}
    (succeeds : Succeeds SqsDatabase.serve (handleCreateQueue library now request payload)
      database response final) {queue : SqsQueue}
    (added : final.queues.rows = database.queues.rows ++ [queue]) :
    queue.region = request.region ∧ queue.accountId = request.accountId := by
  unfold handleCreateQueue at succeeds
  obtain ⟨values, _, isValid, creates⟩ := succeeds_bind.mp succeeds
  obtain ⟨-, rfl⟩ := succeeds_liftExcept.mp isValid
  obtain ⟨outcome, between, created, answered⟩ := succeeds_bind.mp creates
  have creating := succeeds_lift.mp created
  rw [show (sqsCall _).run SqsDatabase.serve database = database.createQueue _ from rfl,
    SqsDatabase.createQueue] at creating
  split_ifs at creating with taken
  · cases creating
    -- a queue of that name is compared, and nothing is added
    rw [unchanged_confirmExistingQueue answered] at added
    exact absurd (List.self_eq_append_right.mp added) (List.cons_ne_nil _ _)
  · cases creating
    obtain ⟨_, _, tagged, rest⟩ := succeeds_bind.mp answered
    obtain ⟨-, rfl⟩ := succeeds_pure.mp rest
    rw [queues_tagCreatedQueue tagged] at added
    obtain rfl := eq_of_append_singleton added
    exact ⟨rfl, rfl⟩

/-- A queue is created where all queues were asked for. -/
theorem createQueue_resource {queue : SqsQueue}
    (creates : AuthorizedCreation SqsDatabase.serve (fun database => database.queues.rows)
      (createQueueAction library now) request check queue) :
    check.resource = getQueueArn { queue with name := "*" } := by
  obtain ⟨payload, state, resolved, validated, final, response, -, resolves, handles, added⟩ :=
    creates.payload
  obtain ⟨inRegion, inAccount⟩ := scope_handleCreateQueue handles added
  exact createQueue_check resolves inRegion inAccount

end Queues

section Topics

variable {library : SnsLibrary} {generated : SnsGenerated} {request : ResolvedRequest}
  {check : AuthorizationCheck}

/-- What follows the insertion leaves the topics as they are. -/
theorem topics_of_tagged {payload : CreateTopicRequest} {arn : Text} {between final : SnsDatabase}
    {answer response : CreateTopicResponse}
    (succeeds : Succeeds SqliteSns.serve
      (if payload.tags.isEmpty then pure answer
        else do
          let _ ← (snsCall (.tagTopic arn payload.tags.entries)).orFail SnsError.ofStoreError
          pure answer)
      between response final) :
    final.topics = between.topics := by
  split_ifs at succeeds
  · exact congrArg _ (succeeds_pure.mp succeeds).2.symm
  · obtain ⟨_, later, tags, answered⟩ := succeeds_bind.mp succeeds
    obtain ⟨-, rfl⟩ := succeeds_pure.mp answered
    have tagging := succeeds_orFail.mp tags
    have afterwards : later = (SqliteSns.serve (.tagTopic arn payload.tags.entries) between).2 :=
      (congrArg Prod.snd tagging).symm
    have leaves : (SnsCall.tagTopic arn payload.tags.entries).LeavesTopics := trivial
    rw [afterwards, SqliteSns.topics_serve_of_leaves leaves]

/-- The row that `CreateTopic` adds. -/
theorem scope_handleCreateTopic {now : Time} {payload : CreateTopicRequest}
    {database final : SnsDatabase} {response : CreateTopicResponse}
    (succeeds : Succeeds SqliteSns.serve (handleCreateTopic now request payload) database
      response final) {topic : SnsTopic}
    (added : final.topics.rows = database.topics.rows ++ [topic]) :
    topic.region = request.region ∧ topic.accountId = request.accountId := by
  unfold handleCreateTopic at succeeds
  obtain ⟨_, between, inserted, tagged⟩ := succeeds_bind.mp succeeds
  have topics : final.topics = between.topics := topics_of_tagged tagged
  have inserting := succeeds_orFail.mp inserted
  rw [show (snsCall _).run SqliteSns.serve database = database.insertTopic _ from rfl,
    SnsDatabase.insertTopic] at inserting
  split_ifs at inserting with taken
  · cases inserting
  · cases inserting
    rw [topics] at added
    obtain rfl := eq_of_append_singleton added
    exact ⟨rfl, rfl⟩

/-- A topic is created where all topics were asked for. -/
theorem createTopic_resource {topic : SnsTopic}
    (creates : AuthorizedCreation SqliteSns.serve (fun database => database.topics.rows)
      (createTopicAction library generated) request check topic) :
    check.resource = topicArn topic.region topic.accountId "*" := by
  obtain ⟨payload, state, resolved, validated, final, response, -, resolves, handles, added⟩ :=
    creates.payload
  obtain ⟨inRegion, inAccount⟩ := scope_handleCreateTopic handles added
  obtain ⟨rfl, -⟩ := succeeds_pure.mp resolves
  rw [inRegion, inAccount]
  rfl

end Topics

/-- **What creating something is authorized for.**  A user and a policy are created under the
ARN that the caller was permitted for.  A queue and a topic are created in the region and the
account of that ARN, which has a `*` in the place of their names. -/
theorem creation_resources {request : ResolvedRequest} {check : AuthorizationCheck} :
    (∀ parse generated user,
      AuthorizedCreation IamDatabase.serve (fun database => database.principals.rows)
        (createUserAction parse generated) request check user →
      check.resource = userArn user.accountId user.path user.name) ∧
    (∀ parse readJson generated policy,
      AuthorizedCreation IamDatabase.serve (fun database => database.managedPolicies.rows)
        (createPolicyAction parse readJson generated) request check policy →
      check.resource = policy.arn) ∧
    (∀ library now queue,
      AuthorizedCreation SqsDatabase.serve (fun database => database.queues.rows)
        (createQueueAction library now) request check queue →
      check.resource = getQueueArn { queue with name := "*" }) ∧
    (∀ library generated topic,
      AuthorizedCreation SqliteSns.serve (fun database => database.topics.rows)
        (createTopicAction library generated) request check topic →
      check.resource = topicArn topic.region topic.accountId "*") :=
  ⟨fun _ _ _ => createUser_resource, fun _ _ _ _ => createPolicy_resource,
    fun _ _ _ => createQueue_resource, fun _ _ _ => createTopic_resource⟩

/-! ### A user, a policy, a queue and a topic -/

/-- The steps of a request of somebody who is always allowed. -/
theorem AuthorizedCreation.of_outcomes {I : Interface} {Error Request Response S Row : Type}
    {serve : Serve I S} {rows : S → List Row} {action : TypedAwsAction I Error Request Response}
    {request : ResolvedRequest} {check : AuthorizationCheck} {row : Row} {response : Response}
    (state : S) {resolved validated final : S}
    (resolves : Succeeds serve (action.adaptedResolveAuthorization request) state check resolved)
    (validates : Succeeds serve (action.adaptedValidate request) resolved () validated)
    (handles : Succeeds serve (action.adaptedHandle request) validated response final)
    (added : rows final = rows validated ++ [row]) :
    AuthorizedCreation serve rows action request check row :=
  ⟨fun _ _ => pure .allow, state, resolved, resolved, validated, final, response, resolves, rfl,
    validates, handles, added⟩

/-- The user `alice` is created. -/
theorem aliceCreation :
    AuthorizedCreation IamDatabase.serve (fun database => database.principals.rows)
      (createUserAction plainForm ⟨"AIDANEW", "AKIANEW", "secret"⟩) (createAliceRequest "/team/")
      ⟨"iam:CreateUser", "arn:aws:iam::000000000000:user/team/alice", none⟩
      ⟨2, "000000000000", "user", "alice", "/team/", "AIDANEW", 0⟩ :=
  .of_outcomes ordersDatabase (Prod.ext (by decide +kernel) rfl) (Prod.ext (by decide +kernel) rfl)
    (Prod.ext (by decide +kernel) rfl) (by decide +kernel)

/-- The topic `orders` is created. -/
theorem ordersTopicCreation :
    AuthorizedCreation SqliteSns.serve (fun database => database.topics.rows)
      (createTopicAction sampleSnsLibrary (userTask .createTopic []).generated)
      (userRequest 0 "Name=orders") (anyTopicCheck .createTopic (userRequest 0 "Name=orders"))
      (ordersTopic "{}") :=
  .of_outcomes .empty (Prod.ext (by decide +kernel) rfl) (Prod.ext (by decide +kernel) rfl)
    (Prod.ext (by decide +kernel) rfl) (by decide +kernel)

/-- The policy `readonly` is created, and its path is completed. -/
theorem readOnlyCreation :
    AuthorizedCreation IamDatabase.serve (fun database => database.managedPolicies.rows)
      (createPolicyAction plainForm (fun _ => .ok true) ⟨"ANPANEW", "AKIANEW", "secret"⟩)
      (createReadOnlyRequest "team")
      ⟨"iam:CreatePolicy", "arn:aws:iam::000000000000:policy/team/readonly", none⟩
      ⟨2, "ANPANEW", "000000000000", "readonly", some "/team/", "{}", 0, 0⟩ :=
  .of_outcomes ordersDatabase (Prod.ext (by decide +kernel) rfl) (Prod.ext (by decide +kernel) rfl)
    (Prod.ext (by decide +kernel) rfl) (by decide +kernel)

/-- The library, which reads every other body as the name of a queue. -/
def namingLibrary : SqsLibrary :=
  { emptyObjectLibrary with
    json := { emptyObjectLibrary.json with
      read := fun bytes =>
        if bytes = Text.utf8 "{}" then .ok (.object [])
        else .ok (.object [("QueueName", .string "orders")]) } }

/-- The queue `orders` is created. -/
theorem ordersQueueCreation :
    AuthorizedCreation SqsDatabase.serve (fun database => database.queues.rows)
      (createQueueAction namingLibrary 0) (userRequest 0 "orders")
      ⟨"sqs:CreateQueue", "arn:aws:sqs:us-east-1:000000000000:*", none⟩ formedQueue :=
  .of_outcomes formStart.shared (Prod.ext (by decide +kernel) rfl)
    (Prod.ext (by decide +kernel) rfl) (Prod.ext (by decide +kernel) rfl) (by decide +kernel)

/-- All four are created as it was asked for. -/
theorem creation_resources_orders :
    ("arn:aws:iam::000000000000:user/team/alice" : Text) =
      userArn "000000000000" "/team/" "alice" ∧
    ("arn:aws:iam::000000000000:policy/team/readonly" : Text) =
      ManagedPolicy.arn
        ⟨2, "ANPANEW", "000000000000", "readonly", some "/team/", "{}", 0, 0⟩ ∧
    ("arn:aws:sqs:us-east-1:000000000000:*" : Text) = getQueueArn { formedQueue with name := "*" } ∧
    anyTopicArn (userRequest 0 "Name=orders") = topicArn "us-east-1" "000000000000" "*" :=
  ⟨creation_resources.1 _ _ _ aliceCreation, creation_resources.2.1 _ _ _ _ readOnlyCreation,
    creation_resources.2.2.1 _ _ _ ordersQueueCreation,
    creation_resources.2.2.2 _ _ _ ordersTopicCreation⟩

end Hiraeth
