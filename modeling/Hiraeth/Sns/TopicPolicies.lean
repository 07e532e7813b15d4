import Hiraeth.Sns.ConfusedDeputy
import Hiraeth.Sns.PolicyWriteBack

/-!
# The policies of topics in decisions

A policy is accepted when it is JSON, and it takes part in decisions when it parses as a policy
document.  What lies between the two is stored, and is silently left out of every decision.

## Main definitions

* `SnsWork.SetsPolicies` — the policies that are set parse
* `SnsRequestOn` — a request on a topic
* `TakesPart` — the statements of a policy take part in a decision

## Main results

* `policiesParse_of_reachable` — every stored policy parses when every policy that is set does
* `topicPolicies_takePart` — then every policy takes part in what is decided about its topic
-/

namespace Hiraeth

open Interaction Program

/-! ### Policies that parse -/

/-- **The policies that are set are policy documents**, as far as they are accepted. -/
def SnsWork.SetsPolicies (library : SnsLibrary) : SnsWork → Prop
  | .request task => task.SetsPolicies library (IsPolicy library.json)
  | .createTopicForm _ _ | .other _ _ => True

section Runs

variable {library : SnsLibrary}

/-- The policy of a topic that was created without one is a policy document. -/
theorem isPolicy_empty (empty : library.json.read (Text.utf8 "{}") = .ok (.object [])) :
    IsPolicy library.json "{}" := by
  refine ⟨Policy.default, ?_⟩
  unfold parsePolicyText
  rw [empty]
  exact decodePolicy_empty

/-- Such work writes policy documents only. -/
theorem SnsWork.SetsPolicies.allCalls {work : SnsWork} (sets : work.SetsPolicies library)
    (empty : IsPolicy library.json "{}") :
    @AllCalls snsStore _ (SnsCall.WritesPolicies (IsPolicy library.json))
      (work.program library) := by
  cases work with
  | request task =>
      refine SnsTask.allCalls (fun request isRead => ?_) fun request => sets.writes empty
      cases request <;> first | exact trivial | exact isRead.elim
  | createTopicForm now form =>
      exact AllCalls.bind (onlyCalls_createTopicFromForm (fun _ => trivial) empty) fun _ => trivial
  | other program writesNoTopic =>
      refine AllCalls.mono writesNoTopic fun request writesNone => ?_
      cases request <;> first | exact trivial | exact writesNone.elim

/-- **Every stored policy parses** in every state that is reached, when every policy that is
set does. -/
theorem policiesParse_of_reachable {ι : Type} [DecidableEq ι] {work : ι → SnsWork}
    {start config : Config snsStore Unit ι SnsDatabase}
    (empty : IsPolicy library.json "{}")
    (begins : ∀ thread, start.threads thread = (work thread).program library)
    (sets : ∀ thread, (work thread).SetsPolicies library)
    (initially : ∀ topic ∈ start.shared.topics.rows, IsPolicy library.json topic.policy)
    (reachable : Reachable SqliteSns.serve (fun _ _ => True) start config) :
    ∀ topic ∈ config.shared.topics.rows, IsPolicy library.json topic.policy := by
  refine ((callsKeep_policies (IsPolicy library.json)).reachable (fun thread => ?_) initially
    reachable).1
  rw [begins]
  exact (sets thread).allCalls empty

end Runs

/-! ### Decisions -/

/-- **The statements of a policy take part in a decision**: the policy is the one that is
evaluated, the decision is the one that is meant by all statements together, and every denial
that matches denies. -/
structure TakesPart (request : ResolvedRequest) (check : AuthorizationCheck) (policy : Policy) :
    Prop where
  evaluated : check.resourcePolicy = some policy
  decides : ∀ {T : Type} (serve : Serve iamStore T) (parsePolicy : Text → Except Text Policy)
    (state : T), ((authorize parsePolicy .enforce request check).run serve state).1 = .allow ↔
      Authorized parsePolicy serve request check state
  denies : ∀ {T : Type} (serve : Serve iamStore T) (parsePolicy : Text → Except Text Policy)
    (state : T), ∀ statement ∈ policy.statement, statement.effect = "Deny" →
    ∀ principal ∈ namedPrincipal request.authContext.principal,
    ResourceMatches principal check statement →
    ((authorize parsePolicy .enforce request check).run serve state).1 = .deny

/-- The policy of a check takes part in the decision, unless a role asks. -/
theorem takesPart_of_evaluated {request : ResolvedRequest} {check : AuthorizationCheck}
    {policy : Policy} (notRole : request.authContext.principal.kind ≠ "role")
    (evaluated : check.resourcePolicy = some policy) : TakesPart request check policy := by
  have decides {T : Type} (serve : Serve iamStore T) (parsePolicy : Text → Except Text Policy)
      (state : T) : ((authorize parsePolicy .enforce request check).run serve state).1 = .allow ↔
      Authorized parsePolicy serve request check state := by
    rw [authorize_enforce, resourceStatements_policyPrincipal, if_neg notRole]
    exact Iff.rfl
  refine ⟨evaluated, decides, ?_⟩
  intro T serve parsePolicy state statement member refuses principal named fits
  cases decided : ((authorize parsePolicy .enforce request check).run serve state).1 with
  | deny => rfl
  | allow =>
      obtain ⟨inline, managed, -, -, noDenial⟩ := (decides serve parsePolicy state).mp decided
      exact absurd ⟨statement, Or.inr ⟨principal, named, policy, evaluated, member, fits⟩,
        refuses⟩ noDenial

/-- **A request on a topic**: the parameter that the action reads names the topic. -/
structure SnsRequestOn (library : SnsLibrary) (database : SnsDatabase) (topic : SnsTopic)
    (action : SnsAction) (request : ResolvedRequest) (target : SnsTarget)
    (params : AwsQueryParams) : Prop where
  reads : action.target = some target
  notSubscription : target ≠ .subscriptionArn
  given : parseAwsQueryParams library.form request.request = .ok params
  named : ∃ arn, params.get target.parameter = some arn ∧ database.topicOfArn arn = some topic

/-- **Every policy takes part in what is decided about its topic**, in every state that is
reached by work that sets policy documents only.  The caller is no role, and sends no decoy. -/
theorem topicPolicies_takePart {ι : Type} [DecidableEq ι] {library : SnsLibrary}
    {work : ι → SnsWork} {start config : Config snsStore Unit ι SnsDatabase}
    (empty : library.json.read (Text.utf8 "{}") = .ok (.object []))
    (begins : ∀ thread, start.threads thread = (work thread).program library)
    (sets : ∀ thread, (work thread).SetsPolicies library)
    (initially : ∀ topic ∈ start.shared.topics.rows, IsPolicy library.json topic.policy)
    (reachable : Reachable SqliteSns.serve (fun _ _ => True) start config) {topic : SnsTopic}
    (isTopic : topic ∈ config.shared.topics.rows) :
    ∃ policy, parsePolicyText library.json topic.policy = .ok policy ∧
      ∀ {S : Type} {serve' : Serve sqsStore S} {queues : S} {mode : AuthorizationMode}
        {generated : SnsGenerated} {action : SnsAction} {request : ResolvedRequest}
        {target : SnsTarget} {params : AwsQueryParams} {check : AuthorizationCheck}
        {middle : SnsDatabase × S},
        SnsRequestOn library config.shared topic action request target params →
        NoDecoy config.shared params target →
        request.authContext.principal.kind ≠ "role" →
        Succeeds (SqliteSns.serve.sum serve')
          ((snsAction library mode generated action).typed.adaptedResolveAuthorization request)
          (config.shared, queues) check middle →
        TakesPart request check policy := by
  obtain ⟨policy, parsed⟩ := policiesParse_of_reachable (isPolicy_empty empty) begins sets
    initially reachable topic isTopic
  refine ⟨policy, parsed, ?_⟩
  intro S serve' queues mode generated action request target params check middle on noDecoy
    notRole resolved
  obtain ⟨arn, isGiven, found⟩ := on.named
  obtain ⟨resource, preferred⟩ := exists_preferredArn isGiven
  obtain rfl := succeeds_adaptedResolveAuthorization on.reads on.given preferred resolved
  have same : config.shared.topicOfArn arn = config.shared.topicOfArn resource := by
    have names := (same_iff_noDecoy isGiven preferred).mpr noDecoy
    cases target with
    | topicArn | resourceArn => exact names
    | subscriptionArn => exact absurd rfl on.notSubscription
  refine takesPart_of_evaluated notRole ?_
  show (config.shared.topicOfArn resource).bind _ = some policy
  rw [← same, found, Option.bind_some, parsed]
  rfl

/-! ### Two documents that deny everything -/

/-- Everything is denied to everyone, by a list of one statement. -/
def denyListDocument : Text :=
  ("\x7b\"Statement\":[\x7b\"Effect\":\"Deny\",\"Principal\":\"*\"," : Text) ++
    "\"Action\":\"*\",\"Resource\":\"*\"\x7d]\x7d".toList

/-- Everything is denied to everyone, by one statement that stands for a list of one. -/
def denyAllDocument : Text :=
  ("\x7b\"Statement\":\x7b\"Effect\":\"Deny\",\"Principal\":\"*\"," : Text) ++
    "\"Action\":\"*\",\"Resource\":\"*\"\x7d\x7d".toList

def denyStatementJson : Json :=
  .object [("Action", .string "*"), ("Effect", .string "Deny"), ("Principal", .string "*"),
    ("Resource", .string "*")]

/-- The policy that denies everything. -/
def denyPolicy : Policy where
  version := defaultPolicyVersion
  statement := [{ effect := "Deny", action := ["*"], resource := ["*"], principal := [.any] }]

/-- The libraries, with a JSON library that reads one document. -/
def documentLibrary (document : Text) (json : Json) : SnsLibrary where
  form := plainForm
  sqs := { sampleLibrary with json := oneDocument document json }
  renderTime := fun _ => []

def denyListLibrary : SnsLibrary :=
  documentLibrary denyListDocument (.object [("Statement", .array [denyStatementJson])])

def denyAllLibrary : SnsLibrary :=
  documentLibrary denyAllDocument (.object [("Statement", denyStatementJson)])

/-- A document is set for the topic. -/
def setPolicyBody (document : Text) : Text :=
  ("Action=SetTopicAttributes&TopicArn=" : Text) ++ ordersTopicArn ++
    "&AttributeName=Policy&AttributeValue=".toList ++ document

def setPolicyRequest (document : Text) : ResolvedRequest :=
  userRequest 0 (setPolicyBody document)

/-- A later request on the topic. -/
def readTopicRequest : ResolvedRequest :=
  userRequest 1 (("Action=GetTopicAttributes&TopicArn=" : Text) ++ ordersTopicArn)

/-- A user who may do everything. -/
def userDatabase : IamDatabase :=
  ((IamDatabase.empty.createPrincipal
    ⟨"000000000000", "user", "test", "/", "AIDATEST"⟩).2.putInlinePolicy 1 "everything"
      allowEverythingDocument).2

/-- The list is set for a topic without a policy. -/
def denyListStart : Config snsStore Unit Unit SnsDatabase where
  shared := topicStore "{}"
  threads := fun _ =>
    (SnsWork.request (userTask .setTopicAttributes (setPolicyBody denyListDocument))).program
      denyListLibrary
  log := []

/-- Whatever the list is set for is denied. -/
theorem fits_denyPolicy (principal : PolicyPrincipal) (check : AuthorizationCheck) :
    ResourceMatches principal check
      { effect := "Deny", action := ["*"], resource := ["*"], principal := [.any] } := by
  have everything (text : Text) : SomePattern ["*"] text :=
    ⟨_, List.mem_singleton_self _, (Glob.mem_language_many [] text).mpr
      ⟨[], List.nil_suffix, (Glob.mem_language_nil []).mpr rfl⟩⟩
  exact ⟨⟨.any, List.mem_singleton_self _, .any principal⟩, everything _, everything _⟩

/-- A table with one topic. -/
theorem topicOfArn_of_rows {database : SnsDatabase} {policy : Text}
    (only : database.topics.rows = [ordersTopic policy]) :
    database.topicOfArn ordersTopicArn = some (ordersTopic policy) := by
  rw [topicOfArn_of_parse parseSnsTopicArn_ordersTopicArn]
  show database.topics.rows.find? _ = _
  rw [only]
  rfl

/-- The policy of the list takes part in a later decision, and denies. -/
theorem topicPolicies_takePart_denied :
    ((authorize parseEverything .enforce readTopicRequest
      (namedCheck denyListLibrary (.ofStore .getTopicAttributes)
        (denyListStart.play SqliteSns.serve [(), ()]).shared ordersTopicArn)).run
          IamDatabase.serve userDatabase).1 = .deny := by
  have stored : (denyListStart.play SqliteSns.serve [(), ()]).shared.topics.rows =
      [ordersTopic denyListDocument] := by
    decide +kernel
  have isDocument : parsePolicyText denyListLibrary.json denyListDocument = .ok denyPolicy := by
    decide +kernel
  have parsed : (setTopicAttributesAction denyListLibrary).parse
      (setPolicyRequest denyListDocument).request =
        .ok ⟨ordersTopicArn, "Policy", denyListDocument⟩ := by
    decide +kernel
  have read : (getTopicAttributesAction denyListLibrary).parse readTopicRequest.request =
      .ok ⟨ordersTopicArn⟩ := by
    decide +kernel
  have named : extractTopicArnFromRequest denyListLibrary readTopicRequest =
      .ok (some ordersTopicArn) := by
    decide +kernel
  have sets : (SnsWork.request (userTask .setTopicAttributes
      (setPolicyBody denyListDocument))).SetsPolicies denyListLibrary := by
    refine ⟨fun _ => nofun, fun payload _ accepted _ => ?_⟩
    obtain rfl := Except.ok.inj (parsed.symm.trans accepted.1)
    exact ⟨_, isDocument⟩
  have initially : ∀ topic ∈ denyListStart.shared.topics.rows,
      IsPolicy denyListLibrary.json topic.policy := by
    intro topic member
    obtain rfl := List.mem_singleton.mp (show topic ∈ [ordersTopic "{}"] from member)
    exact isPolicy_empty rfl
  have reachable : Reachable SqliteSns.serve (fun _ _ => True) denyListStart
      (denyListStart.play SqliteSns.serve [(), ()]) :=
    Reachable.play (fun _ _ _ => trivial) .start Config.passes_true
  -- from here on, all that matters of the state is what it stores
  generalize denyListStart.play SqliteSns.serve [(), ()] = config at stored reachable ⊢
  obtain ⟨policy, isPolicy, takesPart⟩ := topicPolicies_takePart rfl (fun _ => rfl)
    (fun _ => sets) initially reachable (stored ▸ List.mem_singleton_self _)
  obtain rfl := Except.ok.inj (isDocument.symm.trans isPolicy)
  obtain ⟨params, arn, given, isGiven, -⟩ := @exists_worksOn denyListLibrary
    (userTask .getTopicAttributes []).generated readTopicRequest .getTopicAttributes .topicArn rfl
    ⟨ordersTopicArn⟩ read
  have isArn : params.get "TopicArn" = some ordersTopicArn := by
    have preferred := Except.ok.inj ((extractTopicArnFromRequest_eq given).symm.trans named)
    have isFirst : params.get "TopicArn" = some arn := isGiven
    unfold preferredArn at preferred
    rw [isFirst, Option.some_or] at preferred
    exact isFirst.trans preferred
  have resolved : Succeeds (SqliteSns.serve.sum SqsDatabase.serve)
      ((snsAction denyListLibrary .enforce (userTask .getTopicAttributes []).generated
        (.ofStore .getTopicAttributes)).typed.adaptedResolveAuthorization readTopicRequest)
      (config.shared, ordersStore) _ (config.shared, ordersStore) :=
    succeeds_bind.mpr ⟨_, _, succeeds_liftExcept.mpr ⟨read, rfl⟩,
      succeeds_onSns (run_resolveAuthorization named (.ofStore .getTopicAttributes))⟩
  have on : SnsRequestOn denyListLibrary config.shared (ordersTopic denyListDocument)
      (.ofStore .getTopicAttributes) readTopicRequest .topicArn params :=
    ⟨rfl, nofun, given, ordersTopicArn, isArn, topicOfArn_of_rows stored⟩
  exact (takesPart on trivial (by decide) resolved).denies IamDatabase.serve parseEverything
    userDatabase _ (List.mem_singleton_self _) rfl _ rfl (fits_denyPolicy _ _)

/-! ### A denial that is ignored -/

/-- The store afterwards. -/
def denyAllStore : SnsDatabase :=
  ((topicStore "{}").updateTopic (ordersTopic "{}").id (SqliteSns.updatedTopic
    (.fromAttributeNameAndValue "Policy" denyAllDocument) (ordersTopic "{}").columns)).2

/-- The document is accepted. -/
theorem accepts_setPolicyBody :
    (setTopicAttributesAction denyAllLibrary).Accepts (setPolicyRequest denyAllDocument)
      ⟨ordersTopicArn, "Policy", denyAllDocument⟩ := by
  have parsed : (setTopicAttributesAction denyAllLibrary).parse
      (setPolicyRequest denyAllDocument).request =
        .ok ⟨ordersTopicArn, "Policy", denyAllDocument⟩ := by
    decide +kernel
  have checked : (((setTopicAttributesAction denyAllLibrary).validate
      (setPolicyRequest denyAllDocument) ⟨ordersTopicArn, "Policy", denyAllDocument⟩).run.run
        SqliteSns.serve .empty).1 = .ok () := by
    decide +kernel
  have finishes := finishes_run SqliteSns.serve ((setTopicAttributesAction denyAllLibrary).validate
    (setPolicyRequest denyAllDocument) ⟨ordersTopicArn, "Policy", denyAllDocument⟩).run .empty
  rw [checked] at finishes
  exact ⟨parsed, _, finishes⟩

/-- **An accepted denial is ignored.** -/
theorem topicPolicy_ignored :
    (setTopicAttributesAction denyAllLibrary).Accepts (setPolicyRequest denyAllDocument)
        ⟨ordersTopicArn, "Policy", denyAllDocument⟩ ∧
      ∃ final, Succeeds SqliteSns.serve (handleSetTopicAttributes (setPolicyRequest denyAllDocument)
          ⟨ordersTopicArn, "Policy", denyAllDocument⟩) (topicStore "{}") ("request" : Text) final ∧
        final.topicOfArn ordersTopicArn = some (ordersTopic denyAllDocument) ∧
        ¬ IsPolicy denyAllLibrary.json denyAllDocument ∧
        ∃ check, Succeeds SqliteSns.serve
            ((getTopicAttributesAction denyAllLibrary).adaptedResolveAuthorization readTopicRequest)
            final check final ∧
          check.resourcePolicy = none ∧
          ((authorize parseEverything .enforce readTopicRequest check).run IamDatabase.serve
            userDatabase).1 = .allow := by
  have notPolicy : (parsePolicyText denyAllLibrary.json denyAllDocument).toOption = none := by
    decide +kernel
  have parsed : (getTopicAttributesAction denyAllLibrary).parse readTopicRequest.request =
      .ok ⟨ordersTopicArn⟩ := by
    decide +kernel
  have named : extractTopicArnFromRequest denyAllLibrary readTopicRequest =
      .ok (some ordersTopicArn) := by
    decide +kernel
  have allowed : ((authorize parseEverything .enforce readTopicRequest
      ⟨(SnsAction.ofStore .getTopicAttributes).authorizationAction, ordersTopicArn, none⟩).run
        IamDatabase.serve userDatabase).1 = .allow := by
    decide +kernel
  have stored : denyAllStore.topicOfArn ordersTopicArn = some (ordersTopic denyAllDocument) :=
    topicOfArn_of_rows (by decide +kernel)
  refine ⟨accepts_setPolicyBody, denyAllStore, succeeds_handleSetTopicAttributes.mpr
    ⟨rfl, _, _, parseSnsTopicArn_ordersTopicArn, topicOfArn_topicStore "{}", rfl⟩, stored, ?_,
    ⟨_, ordersTopicArn, none⟩, ?_, rfl, allowed⟩
  · rintro ⟨policy, isPolicy⟩
    rw [isPolicy] at notPolicy
    cases notPolicy
  · refine succeeds_bind.mpr ⟨_, _, succeeds_liftExcept.mpr ⟨parsed, rfl⟩, ?_⟩
    refine (run_resolveAuthorization named (.ofStore .getTopicAttributes)).trans ?_
    unfold namedCheck
    rw [stored, Option.bind_some]
    refine Prod.ext (congrArg Except.ok ?_) rfl
    exact congrArg (AuthorizationCheck.mk _ _) notPolicy

end Hiraeth
