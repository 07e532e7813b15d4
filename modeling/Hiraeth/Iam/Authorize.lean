import Hiraeth.Core.Protocol
import Hiraeth.Store.SqliteIam

/-!
# The authorizer

A request is authorized by the inline policies of its caller, the managed
policies attached to the caller, and the policy of the resource.  A source that
cannot be read counts as a denial.

## Main definitions

* `authorize` — the authorizer
* `Authorized` — the decision it is meant to take: everything can be read, some
  matching statement allows and none denies

## Main results

* `authorize_enforce` — the decision it does take
* `authorize_decides` — the two agree for a user, and for a role exactly when
  the policy of the resource makes no difference
-/

namespace Hiraeth

open Interaction

/-- `AuthorizationMode`. -/
inductive AuthorizationMode where
  | enforce
  | audit
  | off
  deriving DecidableEq

section Authorizer

variable (parsePolicy : Text → Except Text Policy)

/-- Evaluate one document, given by its name and text. -/
def evaluateDocument (kind : Text) (resource action : Text) (document : Text × Text) :
    Except Text PolicyEvalResult :=
  ((parsePolicy document.2).map (evaluateIdentityPolicy resource action)).mapError
    fun error => ("invalid policy document for " : Text) ++ kind ++ " policy ".toList ++
      document.1 ++ ": ".toList ++ error

/-- Evaluate every document of one kind.  The first that does not parse ends the
evaluation. -/
def evaluateDocuments (kind : Text) (resource action : Text)
    (documents : List (Text × Text)) : Except Text PolicyEvalResult := do
  let policyResults ← documents.mapM (evaluateDocument parsePolicy kind resource action)
  return combinePolicyResults policyResults

/-- `evaluate_principal_inline_policies`. -/
def evaluatePrincipalInlinePolicies (principalId : RowId) (resource action : Text) :
    ExceptT Text IamProgram PolicyEvalResult := do
  let policies ← (iamCall (.getInlinePoliciesForPrincipal principalId)).orFail StoreError.display
  liftExcept (evaluateDocuments parsePolicy "inline" resource action
    (policies.map fun policy => (policy.policyName, policy.policyDocument)))

/-- `evaluate_managed_policies`. -/
def evaluateManagedPolicies (principalId : RowId) (resource action : Text) :
    ExceptT Text IamProgram PolicyEvalResult := do
  let policies ←
    (iamCall (.getManagedPoliciesAttachedToPrincipal principalId)).orFail StoreError.display
  liftExcept (evaluateDocuments parsePolicy "managed" resource action
    (policies.map fun policy => (policy.policyName, policy.policyDocument)))

/-- `policy_principal_from_request`. -/
def policyPrincipalFromRequest (request : ResolvedRequest) : Option PolicyPrincipal :=
  let principal := request.authContext.principal
  if principal.kind = "user" then some (.user principal.accountId principal.name) else none

/-- A source that could not be evaluated counts as a denial. -/
def orDenied : Except Text PolicyEvalResult → PolicyEvalResult
  | .ok result => result
  | .error _ => .denied

/-- What the policy of the resource says. -/
def resourcePolicyResult (request : ResolvedRequest) (check : AuthorizationCheck) :
    PolicyEvalResult :=
  match policyPrincipalFromRequest request, check.resourcePolicy with
  | some principal, some policy =>
      evaluateResourcePolicy principal check.resource check.action policy
  | _, _ => .notApplicable

/-- `authorize`. -/
def authorize (mode : AuthorizationMode) (request : ResolvedRequest)
    (check : AuthorizationCheck) : IamProgram AuthorizationResult := do
  let principalId := request.authContext.principal.id
  let identityPolicyResult ←
    (evaluatePrincipalInlinePolicies parsePolicy principalId check.resource check.action).run
  let managedPolicyResult ←
    (evaluateManagedPolicies parsePolicy principalId check.resource check.action).run
  let policyResult := combinePolicyResults [orDenied identityPolicyResult,
    orDenied managedPolicyResult, resourcePolicyResult request check]
  let authzResult : AuthorizationResult :=
    match policyResult with
    | .allowed => .allow
    | .denied => .deny
    | .notApplicable => .deny
  return match mode with
    | .enforce => authzResult
    | .audit => .allow
    | .off => .allow

end Authorizer

/-! ### The decision that is meant -/

section Meant

variable (parsePolicy : Text → Except Text Policy) {S : Type} (serve : Serve iamStore S)

/-- The policies among the documents, if all of them parse. -/
def parseAll (documents : List Text) : Option (List Policy) :=
  documents.mapM fun document => (parsePolicy document).toOption

/-- The inline policies of a principal, if the store answers and all parse. -/
def readInlinePolicies (principalId : RowId) (state : S) : Option (List Policy) := do
  let answer : StoreResult (List PrincipalInlinePolicy) :=
    (serve (.getInlinePoliciesForPrincipal principalId) state).1
  let policies ← answer.toOption
  parseAll parsePolicy (policies.map (·.policyDocument))

/-- The managed policies attached to a principal, likewise. -/
def readManagedPolicies (principalId : RowId) (state : S) : Option (List Policy) := do
  let answer : StoreResult (List ManagedPolicy) :=
    (serve (.getManagedPoliciesAttachedToPrincipal principalId) state).1
  let policies ← answer.toOption
  parseAll parsePolicy (policies.map (·.policyDocument))

/-- The inline and the managed policies of a principal, when all of them can be
read, the inline ones first. -/
def readPolicies (principalId : RowId) (state : S) : Option (List Policy × List Policy) := do
  let inline ← readInlinePolicies parsePolicy serve principalId state
  let managed ← readManagedPolicies parsePolicy serve principalId
    (serve (.getInlinePoliciesForPrincipal principalId) state).2
  return (inline, managed)

/-- The matching statements of identity policies. -/
def identityStatements (check : AuthorizationCheck) (policies : List Policy) :
    Set PolicyStatement :=
  {statement | ∃ policy ∈ policies, statement ∈ identityMatching check policy}

/-- The matching statements of the policy of the resource, for a caller that a
policy can name. -/
def resourceStatements (principal : Option PolicyPrincipal) (check : AuthorizationCheck) :
    Set PolicyStatement :=
  {statement | ∃ named ∈ principal, ∃ policy ∈ check.resourcePolicy,
    statement ∈ resourceMatching named check policy}

/-- How policies name a caller: users and roles by their account and name. -/
def namedPrincipal (principal : Principal) : Option PolicyPrincipal :=
  if principal.kind = "user" then some (.user principal.accountId principal.name)
  else if principal.kind = "role" then some (.role principal.accountId principal.name)
  else none

/-- **The decision that is meant.**  All policies of the caller can be read and,
of all the statements that match, some allow and none denies. -/
def Authorized (request : ResolvedRequest) (check : AuthorizationCheck) (state : S) : Prop :=
  ∃ inline managed,
    readPolicies parsePolicy serve request.authContext.principal.id state =
      some (inline, managed) ∧
    Permits (identityStatements check (inline ++ managed) ∪
      resourceStatements (namedPrincipal request.authContext.principal) check)

/-- The policy of the resource makes no difference to what the identity policies
decide. -/
def MakesNoDifference (identity resource : Set PolicyStatement) : Prop :=
  Denies identity ∨ (Allows identity ∧ ¬ Denies resource) ∨
    (¬ Allows identity ∧ (Allows resource → Denies resource))

end Meant

/-! ### The decision that is taken -/

section Taken

variable {parsePolicy : Text → Except Text Policy} {S : Type} {serve : Serve iamStore S}

/-- What is made of the policies read from one source. -/
def identityResult (check : AuthorizationCheck) : Option (List Policy) → PolicyEvalResult
  | some policies =>
      combinePolicyResults (policies.map (evaluateIdentityPolicy check.resource check.action))
  | none => .denied

theorem toOption_evaluateDocument (kind : Text) (check : AuthorizationCheck)
    (document : Text × Text) :
    (evaluateDocument parsePolicy kind check.resource check.action document).toOption =
      (parsePolicy document.2).toOption.map
        (evaluateIdentityPolicy check.resource check.action) := by
  unfold evaluateDocument
  cases parsePolicy document.2 <;> rfl

/-- Evaluating documents is parsing all of them and combining the results. -/
theorem orDenied_evaluateDocuments (kind : Text) (check : AuthorizationCheck)
    (documents : List (Text × Text)) :
    orDenied (evaluateDocuments parsePolicy kind check.resource check.action documents) =
      identityResult check (parseAll parsePolicy (documents.map Prod.snd)) := by
  have evaluated : (documents.mapM
      (evaluateDocument parsePolicy kind check.resource check.action)).toOption =
        (parseAll parsePolicy (documents.map Prod.snd)).map
          (·.map (evaluateIdentityPolicy check.resource check.action)) := by
    rw [toOption_mapM, parseAll, List.mapM_map, ← mapM_map_some]
    congr 1
    funext document
    exact toOption_evaluateDocument kind check document
  unfold evaluateDocuments
  cases results : documents.mapM
      (evaluateDocument parsePolicy kind check.resource check.action) with
  | error failure =>
      rw [results] at evaluated
      cases parsed : parseAll parsePolicy (documents.map Prod.snd) with
      | none => rfl
      | some policies => rw [parsed] at evaluated; cases evaluated
  | ok outcome =>
      rw [results] at evaluated
      cases parsed : parseAll parsePolicy (documents.map Prod.snd) with
      | none => rw [parsed] at evaluated; cases evaluated
      | some policies => rw [parsed] at evaluated; cases evaluated; rfl

section Sources

variable (check : AuthorizationCheck) (principalId : RowId) (state : S)

theorem run_evaluatePrincipalInlinePolicies :
    orDenied ((evaluatePrincipalInlinePolicies parsePolicy principalId check.resource
        check.action).run.run serve state).1 =
      identityResult check (readInlinePolicies parsePolicy serve principalId state) ∧
    ((evaluatePrincipalInlinePolicies parsePolicy principalId check.resource
        check.action).run.run serve state).2 =
      (serve (.getInlinePoliciesForPrincipal principalId) state).2 := by
  unfold evaluatePrincipalInlinePolicies readInlinePolicies
  rw [Program.run_orFail_bind, run_iamCall]
  rcases serve (.getInlinePoliciesForPrincipal principalId) state with ⟨answer, after⟩
  rcases answer with failure | policies
  · exact ⟨rfl, rfl⟩
  · refine ⟨?_, ?_⟩
    · simp only [Program.run_liftExcept, orDenied_evaluateDocuments, List.map_map]
      rfl
    · simp only [Program.run_liftExcept]

theorem run_evaluateManagedPolicies :
    orDenied ((evaluateManagedPolicies parsePolicy principalId check.resource
        check.action).run.run serve state).1 =
      identityResult check (readManagedPolicies parsePolicy serve principalId state) := by
  unfold evaluateManagedPolicies readManagedPolicies
  rw [Program.run_orFail_bind, run_iamCall]
  rcases serve (.getManagedPoliciesAttachedToPrincipal principalId) state with ⟨answer, after⟩
  rcases answer with failure | policies
  · rfl
  · simp only [Program.run_liftExcept, orDenied_evaluateDocuments, List.map_map]
    rfl

end Sources

theorem identityResult_reports (check : AuthorizationCheck) (policies : List Policy) :
    Reports (identityResult check (some policies)) (identityStatements check policies) :=
  Reports.fold policies fun policy _ => evaluateIdentityPolicy_reports check policy

theorem resourcePolicyResult_reports (request : ResolvedRequest) (check : AuthorizationCheck) :
    Reports (resourcePolicyResult request check)
      (resourceStatements (policyPrincipalFromRequest request) check) := by
  unfold resourcePolicyResult resourceStatements
  rcases policyPrincipalFromRequest request with none | principal
  · simpa using Reports.empty
  · rcases check.resourcePolicy with none | policy
    · simpa using Reports.empty
    · simpa using evaluateResourcePolicy_reports principal check policy

/-- The authorizer allows exactly when its three results combine to an
allowance. -/
theorem run_authorize_enforce (request : ResolvedRequest) (check : AuthorizationCheck)
    (state : S) :
    ((authorize parsePolicy .enforce request check).run serve state).1 = .allow ↔
      combinePolicyResults [
        identityResult check
          (readInlinePolicies parsePolicy serve request.authContext.principal.id state),
        identityResult check
          (readManagedPolicies parsePolicy serve request.authContext.principal.id
            (serve (.getInlinePoliciesForPrincipal request.authContext.principal.id) state).2),
        resourcePolicyResult request check] = .allowed := by
  unfold authorize
  rw [Program.run_bind, Program.run_bind]
  obtain ⟨inlineResult, after⟩ := @run_evaluatePrincipalInlinePolicies parsePolicy
    S serve check request.authContext.principal.id state
  rw [after, inlineResult, run_evaluateManagedPolicies]
  cases combinePolicyResults _ <;> simp

/-- **The decision the authorizer takes.**  Of the statements that match, those
of the policy of the resource count only for a caller it recognises. -/
theorem authorize_enforce (request : ResolvedRequest) (check : AuthorizationCheck) (state : S) :
    ((authorize parsePolicy .enforce request check).run serve state).1 = .allow ↔
      ∃ inline managed,
        readPolicies parsePolicy serve request.authContext.principal.id state =
          some (inline, managed) ∧
        Permits (identityStatements check (inline ++ managed) ∪
          resourceStatements (policyPrincipalFromRequest request) check) := by
  rw [run_authorize_enforce]
  unfold readPolicies
  rcases readInlinePolicies parsePolicy serve request.authContext.principal.id state with
    none | inline
  · -- an unreadable source is a denial, whatever the others say
    simp [combinePolicyResults, identityResult]
  rcases readManagedPolicies parsePolicy serve request.authContext.principal.id
      (serve (.getInlinePoliciesForPrincipal request.authContext.principal.id) state).2 with
    none | managed
  · simp [combinePolicyResults, identityResult]
  have reported : Reports _ (∅ ∪ identityStatements check inline ∪
      identityStatements check managed ∪ _) :=
    ((Reports.empty.combine (identityResult_reports check inline)).combine
      (identityResult_reports check managed)).combine (resourcePolicyResult_reports request check)
  have union : identityStatements check (inline ++ managed) =
      ∅ ∪ identityStatements check inline ∪ identityStatements check managed := by
    ext statement
    simp [identityStatements, or_and_right, exists_or]
  simp only [Option.bind_eq_bind, Option.bind_some, Option.pure_def, Option.some.injEq,
    Prod.mk.injEq]
  constructor
  · intro allowed
    exact ⟨inline, managed, ⟨rfl, rfl⟩, union ▸ reported.allowed.mp allowed⟩
  · rintro ⟨_, _, ⟨rfl, rfl⟩, permitted⟩
    exact reported.allowed.mpr (union ▸ permitted)

/-- The authorizer's statements are the intended ones, except that those naming
a role are missing. -/
theorem resourceStatements_policyPrincipal (request : ResolvedRequest)
    (check : AuthorizationCheck) :
    resourceStatements (policyPrincipalFromRequest request) check =
      if request.authContext.principal.kind = "role" then ∅
      else resourceStatements (namedPrincipal request.authContext.principal) check := by
  unfold policyPrincipalFromRequest namedPrincipal
  by_cases user : request.authContext.principal.kind = "user"
  · have notRole : request.authContext.principal.kind ≠ "role" := by
      rw [user]
      decide
    rw [if_pos user, if_pos user, if_neg notRole]
  · rw [if_neg user, if_neg user]
    split_ifs with role
    · simp [resourceStatements]
    · rfl

/-- When the statements of the resource may be left out. -/
theorem makesNoDifference_iff (identity resource : Set PolicyStatement) :
    MakesNoDifference identity resource ↔
      (Permits identity ↔ Permits (identity ∪ resource)) := by
  unfold MakesNoDifference Permits
  rw [denies_union, allows_union]
  by_cases denied : Denies identity <;> by_cases allowed : Allows identity <;>
    by_cases refused : Denies resource <;> by_cases granted : Allows resource <;>
    simp [denied, allowed, refused, granted]

/-- All statements of a list of policies. -/
def statementsOf (policies : List Policy) : Set PolicyStatement :=
  {statement | ∃ policy ∈ policies, statement ∈ policy.statement}

theorem identityStatements_eq (check : AuthorizationCheck) (policies : List Policy) :
    identityStatements check policies =
      {statement | statement ∈ statementsOf policies ∧ IdentityMatches check statement} := by
  ext statement
  simp only [identityStatements, identityMatching, statementsOf, Set.mem_ofPred_eq]
  constructor
  · rintro ⟨policy, present, member, fits⟩
    exact ⟨⟨policy, present, member⟩, fits⟩
  · rintro ⟨⟨policy, present, member⟩, fits⟩
    exact ⟨policy, present, member, fits⟩

theorem resourceStatements_eq (principal : Option PolicyPrincipal) (check : AuthorizationCheck) :
    resourceStatements principal check =
      {statement | statement ∈ statementsOf check.resourcePolicy.toList ∧
        ∃ named ∈ principal, ResourceMatches named check statement} := by
  ext statement
  simp only [resourceStatements, resourceMatching, statementsOf, Set.mem_ofPred_eq,
    Option.mem_toList]
  constructor
  · rintro ⟨named, isNamed, policy, present, member, fits⟩
    exact ⟨⟨policy, present, member⟩, named, isNamed, fits⟩
  · rintro ⟨⟨policy, present, member⟩, named, isNamed, fits⟩
    exact ⟨named, isNamed, policy, present, member, fits⟩

/-- Which statements match does not depend on the policy of the resource. -/
theorem identityMatches_withPolicy (check : AuthorizationCheck) (policy : Option Policy)
    (statement : PolicyStatement) :
    IdentityMatches { check with resourcePolicy := policy } statement ↔
      IdentityMatches check statement :=
  ⟨fun fits => ⟨fits.unnamed, fits.action, fits.resource⟩,
    fun fits => ⟨fits.unnamed, fits.action, fits.resource⟩⟩

theorem resourceMatches_withPolicy (principal : PolicyPrincipal) (check : AuthorizationCheck)
    (policy : Option Policy) (statement : PolicyStatement) :
    ResourceMatches principal { check with resourcePolicy := policy } statement ↔
      ResourceMatches principal check statement :=
  ⟨fun fits => ⟨fits.named, fits.action, fits.resource⟩,
    fun fits => ⟨fits.named, fits.action, fits.resource⟩⟩

/-- **The authorizer decides as is meant, except for roles.**  It does so for
every caller that is no role, and for a role exactly when the statements of the
resource that name it make no difference.  Its decision depends only on which
statements there are, not on their order or on the documents they are spread
over, and further denials never turn a denied request into an allowed one. -/
theorem authorize_decides (parsePolicy : Text → Except Text Policy) (serve : Serve iamStore S)
    (request : ResolvedRequest) (check : AuthorizationCheck) (state : S) :
    ((((authorize parsePolicy .enforce request check).run serve state).1 = .allow ↔
        Authorized parsePolicy serve request check state) ↔
      (request.authContext.principal.kind = "role" → ∀ inline managed,
        readPolicies parsePolicy serve request.authContext.principal.id state =
          some (inline, managed) →
        MakesNoDifference (identityStatements check (inline ++ managed))
          (resourceStatements (namedPrincipal request.authContext.principal) check))) ∧
    ∀ (later : S) (resourcePolicy : Option Policy) (inline managed inline' managed' : List Policy),
      readPolicies parsePolicy serve request.authContext.principal.id state =
        some (inline, managed) →
      readPolicies parsePolicy serve request.authContext.principal.id later =
        some (inline', managed') →
      AddsOnlyDenials (statementsOf (inline ++ managed)) (statementsOf (inline' ++ managed')) →
      AddsOnlyDenials (statementsOf check.resourcePolicy.toList)
        (statementsOf resourcePolicy.toList) →
      ((authorize parsePolicy .enforce request
        { check with resourcePolicy := resourcePolicy }).run serve later).1 = .allow →
      ((authorize parsePolicy .enforce request check).run serve state).1 = .allow := by
  refine ⟨?_, ?_⟩
  · rw [authorize_enforce, resourceStatements_policyPrincipal]
    unfold Authorized
    rcases read : readPolicies parsePolicy serve request.authContext.principal.id state with
      none | ⟨inline, managed⟩
    · simp
    simp only [Option.some.injEq, Prod.mk.injEq, makesNoDifference_iff]
    split_ifs with role
    · simp [role]
    · simp only [iff_self, role, false_implies]
  · intro later resourcePolicy inline managed inline' managed' read read' identity resource allowed
    rw [authorize_enforce] at allowed ⊢
    obtain ⟨_, _, same, permitted⟩ := allowed
    rw [read'] at same
    cases same
    refine ⟨inline, managed, read, ?_⟩
    rw [identityStatements_eq, resourceStatements_eq] at permitted ⊢
    refine ((identity.filter _).union (resource.filter _)).permits ?_
    simp only [identityMatches_withPolicy, resourceMatches_withPolicy] at permitted
    exact permitted

end Taken

/-! ### A role that is denied -/

/-- `{"Statement":[{"Effect":"Allow","Action":"*","Resource":"*"}]}` -/
def allowEverything : Policy where
  version := "2012-10-17"
  statement := [{ effect := "Allow", action := ["*"], resource := ["*"], principal := [] }]

def allowEverythingDocument : Text :=
  ("\x7b\"Statement\":[\x7b\"Effect\":\"Allow\"," : Text) ++
    "\"Action\":\"*\",\"Resource\":\"*\"\x7d]\x7d".toList

/-- The parser on the documents that are stored. -/
def parseKnown (known : List (Text × Policy)) (document : Text) : Except Text Policy :=
  match known.lookup document with
  | some policy => .ok policy
  | none => .error "expected value at line 1 column 1"

def parseEverything : Text → Except Text Policy :=
  parseKnown [(allowEverythingDocument, allowEverything)]

def localOrders : Text := "arn:aws:sqs:us-east-1:000000000000:local-orders"

/-- Deny message deletion for everyone. -/
def denyDeletion : PolicyStatement where
  effect := "Deny"
  action := ["sqs:DeleteMessage"]
  resource := [localOrders]
  principal := [.any]

def deletionCheck : AuthorizationCheck where
  action := "sqs:DeleteMessage"
  resource := localOrders
  resourcePolicy := some ⟨"2012-10-17", [denyDeletion]⟩

/-- A store with one role, which may do everything by its inline policy. -/
def roleDatabase : IamDatabase :=
  ((IamDatabase.empty.createPrincipal
    ⟨"000000000000", "role", "worker", "/", "AIDAWORKER"⟩).2.putInlinePolicy 1 "everything"
      allowEverythingDocument).2

/-- A request of that role. -/
def roleRequest : ResolvedRequest where
  requestId := "request"
  request := {
    host := "localhost"
    method := "POST"
    path := "/"
    query := none
    headers := fun _ => none
    body := [] }
  service := "sqs"
  region := "us-east-1"
  authContext := {
    accessKey := "AKIAWORKER"
    principal := ⟨1, "000000000000", "role", "worker", "/", "AIDAWORKER", 0⟩ }
  date := 0

/-- The denial for everyone does not reach the role. -/
theorem authorize_role_ignores_denial :
    ¬ ((((authorize parseEverything .enforce roleRequest deletionCheck).run IamDatabase.serve
          roleDatabase).1 = .allow) ↔
      Authorized parseEverything IamDatabase.serve roleRequest deletionCheck roleDatabase) := by
  have allowed : ((authorize parseEverything .enforce roleRequest deletionCheck).run
      IamDatabase.serve roleDatabase).1 = .allow := by
    decide +kernel
  have named : namedPrincipal roleRequest.authContext.principal =
      some (.role "000000000000" "worker") := by
    decide +kernel
  have refused : denyDeletion ∈
      resourceStatements (namedPrincipal roleRequest.authContext.principal) deletionCheck := by
    rw [named]
    refine ⟨_, rfl, _, rfl, List.mem_singleton_self _, ⟨.any, List.mem_singleton_self _, .any _⟩,
      ⟨_, List.mem_singleton_self _, ?_⟩, ⟨_, List.mem_singleton_self _, ?_⟩⟩
    · exact (wildcardMatch_iff _ _).mp (by decide +kernel)
    · exact (wildcardMatch_iff _ _).mp (by decide +kernel)
  rintro ⟨decides, -⟩
  obtain ⟨inline, managed, -, -, noDenial⟩ := decides allowed
  exact noDenial ⟨_, .inr refused, rfl⟩

end Hiraeth
