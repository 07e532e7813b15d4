import Hiraeth.Core.Text
import Hiraeth.Lib.Glob

/-!
# Policies and their evaluation

A policy is a list of statements.  A statement that matches a request allows or
denies it, by its effect; any other effect says nothing.  One denial outweighs
every allowance, in whatever order the statements stand.

## Main definitions

* `PolicyPrincipal`, `PolicyStatement`, `Policy`, `AuthorizationCheck`
* `evaluateIdentityPolicy`, `evaluateResourcePolicy` — the two evaluators
* `PolicyPrincipal.Admits`, `IdentityMatches`, `ResourceMatches` — what it means
  for a statement to match
* `Denies`, `Allows`, `Permits` — what a set of matching statements says

## Main results

* `Reports.combine`, `Reports.fold` — combined results report the union of what
  each of them reports
* `evaluateIdentityPolicy_reports`, `evaluateResourcePolicy_reports` — the
  evaluators report the matching statements
-/

namespace Hiraeth

/-- Whom a statement names, or who makes a request. -/
inductive PolicyPrincipal where
  | any
  | account (accountId : Text)
  | user (accountId userName : Text)
  | role (accountId roleName : Text)
  | assumedRole (accountId roleName sessionName : Text)
  | service (name : Text)
  deriving DecidableEq

structure PolicyStatement where
  effect : Text
  action : List Text
  resource : List Text
  principal : List PolicyPrincipal
  deriving DecidableEq

structure Policy where
  version : Text
  statement : List PolicyStatement
  deriving DecidableEq

/-- The question the authorizer is asked. -/
structure AuthorizationCheck where
  action : Text
  resource : Text
  resourcePolicy : Option Policy
  deriving DecidableEq

inductive PolicyEvalResult where
  | allowed
  | denied
  | notApplicable
  deriving DecidableEq

/-! ### The evaluators -/

/-- How a pattern is read: `*` stands for any run of characters, `?` for one. -/
def globToken : Char → Glob.Token Char
  | '*' => .many
  | '?' => .one
  | c => .literal c

/-- `wildcard_match`. -/
def wildcardMatch (pattern value : Text) : Bool :=
  Glob.isMatch (pattern.map globToken) value

/-- `principal_account_id`. -/
def principalAccountId : PolicyPrincipal → Option Text
  | .any => none
  | .account accountId => some accountId
  | .user accountId _ => some accountId
  | .role accountId _ => some accountId
  | .assumedRole accountId _ _ => some accountId
  | .service _ => none

/-- `principal_matches_pattern`. -/
def principalMatchesPattern (pattern principal : PolicyPrincipal) : Bool :=
  match pattern with
  | .any => true
  | .account accountPattern =>
      (principalAccountId principal).any fun accountId => wildcardMatch accountPattern accountId
  | .user accountId userName =>
      match principal with
      | .user principalAccountId principalUserName =>
          wildcardMatch accountId principalAccountId && wildcardMatch userName principalUserName
      | _ => false
  | .role accountId roleName =>
      match principal with
      | .role principalAccountId principalRoleName =>
          wildcardMatch accountId principalAccountId && wildcardMatch roleName principalRoleName
      | _ => false
  | .assumedRole accountId roleName sessionName =>
      match principal with
      | .assumedRole principalAccountId principalRoleName principalSessionName =>
          wildcardMatch accountId principalAccountId &&
            wildcardMatch roleName principalRoleName &&
            wildcardMatch sessionName principalSessionName
      | _ => false
  | .service servicePattern =>
      match principal with
      | .service serviceName => wildcardMatch servicePattern serviceName
      | _ => false

/-- `evaluate_statement`. -/
def evaluateStatement (statement : PolicyStatement) (matchesStatement : PolicyStatement → Bool) :
    PolicyEvalResult :=
  if matchesStatement statement then
    if statement.effect = "Allow" then .allowed
    else if statement.effect = "Deny" then .denied
    else .notApplicable
  else .notApplicable

/-- The table by which results are folded, both within a policy and across
policies. -/
def combineResult : PolicyEvalResult → PolicyEvalResult → PolicyEvalResult
  | .denied, _ => .denied
  | _, .denied => .denied
  | .allowed, _ => .allowed
  | _, .allowed => .allowed
  | .notApplicable, .notApplicable => .notApplicable

/-- `combine_policy_results`. -/
def combinePolicyResults (results : List PolicyEvalResult) : PolicyEvalResult :=
  results.foldl combineResult .notApplicable

/-- `evaluate_matching_statements`. -/
def evaluateMatchingStatements (policy : Policy) (matchesStatement : PolicyStatement → Bool) :
    PolicyEvalResult :=
  combinePolicyResults (policy.statement.map (evaluateStatement · matchesStatement))

/-- `evaluate_resource_policy`. -/
def evaluateResourcePolicy (principal : PolicyPrincipal) (resource action : Text)
    (policy : Policy) : PolicyEvalResult :=
  evaluateMatchingStatements policy fun statement =>
    (!statement.principal.isEmpty &&
        statement.principal.any (principalMatchesPattern · principal)) &&
      statement.action.any (wildcardMatch · action) &&
      statement.resource.any (wildcardMatch · resource)

/-- `evaluate_identity_policy`. -/
def evaluateIdentityPolicy (resource action : Text) (policy : Policy) : PolicyEvalResult :=
  evaluateMatchingStatements policy fun statement =>
    statement.principal.isEmpty &&
      statement.action.any (wildcardMatch · action) &&
      statement.resource.any (wildcardMatch · resource)

/-! ### What it means to match -/

/-- The texts a pattern stands for. -/
def patternLanguage (pattern : Text) : Language Char :=
  Glob.language (pattern.map globToken)

/-- Some pattern of the list stands for the value. -/
def SomePattern (patterns : List Text) (value : Text) : Prop :=
  ∃ pattern ∈ patterns, value ∈ patternLanguage pattern

/-- The principal is one the pattern stands for: everyone, everyone who belongs
to an account, or a principal of the same kind whose names fit. -/
inductive PolicyPrincipal.Admits : PolicyPrincipal → PolicyPrincipal → Prop
  | any (principal : PolicyPrincipal) : Admits .any principal
  | account {pattern accountId : Text} {principal : PolicyPrincipal}
      (belongs : principalAccountId principal = some accountId)
      (fits : accountId ∈ patternLanguage pattern) : Admits (.account pattern) principal
  | user {account name accountId userName : Text} (fits : accountId ∈ patternLanguage account)
      (named : userName ∈ patternLanguage name) :
      Admits (.user account name) (.user accountId userName)
  | role {account name accountId roleName : Text} (fits : accountId ∈ patternLanguage account)
      (named : roleName ∈ patternLanguage name) :
      Admits (.role account name) (.role accountId roleName)
  | assumedRole {account name session accountId roleName sessionName : Text}
      (fits : accountId ∈ patternLanguage account) (named : roleName ∈ patternLanguage name)
      (inSession : sessionName ∈ patternLanguage session) :
      Admits (.assumedRole account name session) (.assumedRole accountId roleName sessionName)
  | service {pattern name : Text} (fits : name ∈ patternLanguage pattern) :
      Admits (.service pattern) (.service name)

/-- A statement of an identity policy matches when it names no principal and
both the action and the resource fit. -/
structure IdentityMatches (check : AuthorizationCheck) (statement : PolicyStatement) : Prop where
  unnamed : statement.principal = []
  action : SomePattern statement.action check.action
  resource : SomePattern statement.resource check.resource

/-- A statement of a resource policy matches when it names the principal and
both the action and the resource fit. -/
structure ResourceMatches (principal : PolicyPrincipal) (check : AuthorizationCheck)
    (statement : PolicyStatement) : Prop where
  named : ∃ pattern ∈ statement.principal, pattern.Admits principal
  action : SomePattern statement.action check.action
  resource : SomePattern statement.resource check.resource

/-- Some statement of the set denies. -/
def Denies (matching : Set PolicyStatement) : Prop :=
  ∃ statement ∈ matching, statement.effect = "Deny"

/-- Some statement of the set allows. -/
def Allows (matching : Set PolicyStatement) : Prop :=
  ∃ statement ∈ matching, statement.effect = "Allow"

/-- **What a set of matching statements permits.**  Something allows, and
nothing denies. -/
def Permits (matching : Set PolicyStatement) : Prop :=
  Allows matching ∧ ¬ Denies matching

section Permits

variable {matching more before after : Set PolicyStatement}

theorem denies_union : Denies (matching ∪ more) ↔ Denies matching ∨ Denies more := by
  simp only [Denies, Set.mem_union, or_and_right, exists_or]

theorem allows_union : Allows (matching ∪ more) ↔ Allows matching ∨ Allows more := by
  simp only [Allows, Set.mem_union, or_and_right, exists_or]

/-- What is new in the second set are denials, and nothing of the first is
missing. -/
def AddsOnlyDenials (before after : Set PolicyStatement) : Prop :=
  before ⊆ after ∧ ∀ statement ∈ after, statement ∉ before → statement.effect = "Deny"

/-- Selecting the statements that match keeps the relation. -/
theorem AddsOnlyDenials.filter (adds : AddsOnlyDenials before after)
    (property : PolicyStatement → Prop) :
    AddsOnlyDenials {statement | statement ∈ before ∧ property statement}
      {statement | statement ∈ after ∧ property statement} := by
  refine ⟨fun statement member => ⟨adds.1 member.1, member.2⟩, fun statement member absent => ?_⟩
  exact adds.2 statement member.1 fun present => absent ⟨present, member.2⟩

theorem AddsOnlyDenials.union (adds : AddsOnlyDenials before after)
    (addsMore : AddsOnlyDenials matching more) :
    AddsOnlyDenials (before ∪ matching) (after ∪ more) := by
  refine ⟨Set.union_subset_union adds.1 addsMore.1, ?_⟩
  rintro statement (member | member) absent
  · exact adds.2 statement member fun present => absent (.inl present)
  · exact addsMore.2 statement member fun present => absent (.inr present)

/-- **Denials never permit more.** -/
theorem AddsOnlyDenials.permits (adds : AddsOnlyDenials before after)
    (permitted : Permits after) : Permits before := by
  obtain ⟨⟨statement, member, allows⟩, noDenial⟩ := permitted
  refine ⟨⟨statement, ?_, allows⟩, fun denial => ?_⟩
  · by_contra absent
    exact noDenial ⟨statement, member, adds.2 statement member absent⟩
  · obtain ⟨refusing, present, denies⟩ := denial
    exact noDenial ⟨refusing, adds.1 present, denies⟩

end Permits

/-! ### What a result reports -/

/-- **A result reports a set of matching statements.**  It is a denial exactly
when the set denies, and an allowance exactly when the set permits. -/
structure Reports (result : PolicyEvalResult) (matching : Set PolicyStatement) : Prop where
  denied : result = .denied ↔ Denies matching
  allowed : result = .allowed ↔ Permits matching

namespace Reports

theorem empty : Reports .notApplicable ∅ := by
  refine ⟨?_, ?_⟩
  · simp [Denies]
  · simp [Permits, Allows]

/-- Combining two results reports the union. -/
theorem combine {result other : PolicyEvalResult} {matching more : Set PolicyStatement}
    (first : Reports result matching) (second : Reports other more) :
    Reports (combineResult result other) (matching ∪ more) := by
  obtain ⟨firstDenied, firstAllowed⟩ := first
  obtain ⟨secondDenied, secondAllowed⟩ := second
  have denies := @denies_union matching more
  have allows := @allows_union matching more
  unfold Permits at *
  rw [← firstDenied] at firstAllowed denies
  rw [← secondDenied] at secondAllowed denies
  refine ⟨?_, ?_⟩
  · rw [denies]
    cases result <;> cases other <;> simp [combineResult]
  · unfold Permits
    rw [denies, allows]
    cases result <;> cases other <;> simp_all [combineResult]

/-- Folding the results of several sources reports everything that matches in
one of them. -/
theorem fold {ι : Type} {result : ι → PolicyEvalResult} {matching : ι → Set PolicyStatement}
    (sources : List ι) (each : ∀ source ∈ sources, Reports (result source) (matching source)) :
    Reports (combinePolicyResults (sources.map result))
      {statement | ∃ source ∈ sources, statement ∈ matching source} := by
  have from_start : ∀ (start : PolicyEvalResult) (before : Set PolicyStatement),
      Reports start before → Reports ((sources.map result).foldl combineResult start)
        (before ∪ {statement | ∃ source ∈ sources, statement ∈ matching source}) := by
    induction sources with
    | nil =>
        intro start before reported
        simpa using reported
    | cons source rest inductionHypothesis =>
        intro start before reported
        have next := inductionHypothesis (fun other member => each other (by simp [member])) _ _
          (reported.combine (each source (by simp)))
        have same : before ∪ {statement | ∃ other ∈ source :: rest, statement ∈ matching other} =
            before ∪ matching source ∪ {statement | ∃ other ∈ rest, statement ∈ matching other} := by
          ext statement
          simp [or_assoc]
        rw [same]
        exact next
  have all := from_start .notApplicable ∅ empty
  rwa [Set.empty_union] at all

end Reports

@[simp]
theorem denied_combineResult (result : PolicyEvalResult) :
    combineResult .denied result = .denied := by
  cases result <;> rfl

@[simp]
theorem combineResult_denied (result : PolicyEvalResult) :
    combineResult result .denied = .denied := by
  cases result <;> rfl

/-! ### What the evaluators compute -/

theorem wildcardMatch_iff (pattern value : Text) :
    wildcardMatch pattern value = true ↔ value ∈ patternLanguage pattern :=
  Glob.isMatch_iff _ _

theorem any_wildcardMatch_iff (patterns : List Text) (value : Text) :
    patterns.any (wildcardMatch · value) = true ↔ SomePattern patterns value := by
  simp only [List.any_eq_true, wildcardMatch_iff]
  rfl

/-- The principal matcher decides `Admits`. -/
theorem principalMatchesPattern_iff (pattern principal : PolicyPrincipal) :
    principalMatchesPattern pattern principal = true ↔ pattern.Admits principal := by
  constructor
  · intro accepted
    cases pattern with
    | any => exact .any principal
    | account accountPattern =>
        obtain ⟨accountId, belongs, fits⟩ := (Option.any_eq_true _ _).mp accepted
        exact .account belongs ((wildcardMatch_iff _ _).mp fits)
    | user accountId userName =>
        cases principal <;> simp only [principalMatchesPattern, Bool.and_eq_true,
          wildcardMatch_iff, Bool.false_eq_true] at accepted
        exact .user accepted.1 accepted.2
    | role accountId roleName =>
        cases principal <;> simp only [principalMatchesPattern, Bool.and_eq_true,
          wildcardMatch_iff, Bool.false_eq_true] at accepted
        exact .role accepted.1 accepted.2
    | assumedRole accountId roleName sessionName =>
        cases principal <;> simp only [principalMatchesPattern, Bool.and_eq_true,
          wildcardMatch_iff, Bool.false_eq_true] at accepted
        exact .assumedRole accepted.1.1 accepted.1.2 accepted.2
    | service servicePattern =>
        cases principal <;> simp only [principalMatchesPattern, wildcardMatch_iff,
          Bool.false_eq_true] at accepted
        exact .service accepted
  · intro admitted
    cases admitted with
    | any => rfl
    | account belongs fits =>
        simp [principalMatchesPattern, belongs, (wildcardMatch_iff _ _).mpr fits]
    | user fits named => simp [principalMatchesPattern, wildcardMatch_iff, fits, named]
    | role fits named => simp [principalMatchesPattern, wildcardMatch_iff, fits, named]
    | assumedRole fits named inSession =>
        simp [principalMatchesPattern, wildcardMatch_iff, fits, named, inSession]
    | service fits => simp [principalMatchesPattern, wildcardMatch_iff, fits]

theorem evaluateStatement_reports (statement : PolicyStatement)
    (matchesStatement : PolicyStatement → Bool) :
    Reports (evaluateStatement statement matchesStatement)
      {candidate | candidate = statement ∧ matchesStatement candidate = true} := by
  have denies : Denies {candidate | candidate = statement ∧ matchesStatement candidate = true} ↔
      matchesStatement statement = true ∧ statement.effect = "Deny" := by
    simp [Denies, and_assoc]
  have allows : Allows {candidate | candidate = statement ∧ matchesStatement candidate = true} ↔
      matchesStatement statement = true ∧ statement.effect = "Allow" := by
    simp [Allows, and_assoc]
  refine ⟨?_, ?_⟩
  · rw [denies]
    unfold evaluateStatement
    split_ifs with matched permits refuses <;> simp_all
  · rw [Permits, denies, allows]
    unfold evaluateStatement
    split_ifs with matched permits refuses <;> simp_all

/-- The result of a policy reports its matching statements. -/
theorem evaluateMatchingStatements_reports (policy : Policy)
    (matchesStatement : PolicyStatement → Bool) :
    Reports (evaluateMatchingStatements policy matchesStatement)
      {statement | statement ∈ policy.statement ∧ matchesStatement statement = true} := by
  have folded := Reports.fold policy.statement fun statement _ =>
    evaluateStatement_reports statement matchesStatement
  have same : {statement | ∃ source ∈ policy.statement,
        statement ∈ {candidate | candidate = source ∧ matchesStatement candidate = true}} =
      {statement | statement ∈ policy.statement ∧ matchesStatement statement = true} := by
    ext statement
    simp
  rwa [same] at folded

/-- The statements of an identity policy that match a check. -/
def identityMatching (check : AuthorizationCheck) (policy : Policy) : Set PolicyStatement :=
  {statement | statement ∈ policy.statement ∧ IdentityMatches check statement}

/-- The statements of a resource policy that match a check made for a principal. -/
def resourceMatching (principal : PolicyPrincipal) (check : AuthorizationCheck)
    (policy : Policy) : Set PolicyStatement :=
  {statement | statement ∈ policy.statement ∧ ResourceMatches principal check statement}

/-- **An identity policy is evaluated to what its matching statements say.** -/
theorem evaluateIdentityPolicy_reports (check : AuthorizationCheck) (policy : Policy) :
    Reports (evaluateIdentityPolicy check.resource check.action policy)
      (identityMatching check policy) := by
  have same : identityMatching check policy = {statement | statement ∈ policy.statement ∧
      (statement.principal.isEmpty && statement.action.any (wildcardMatch · check.action) &&
        statement.resource.any (wildcardMatch · check.resource)) = true} := by
    ext statement
    simp only [identityMatching, Set.mem_ofPred_eq, Bool.and_eq_true, any_wildcardMatch_iff,
      List.isEmpty_iff]
    constructor
    · rintro ⟨member, unnamed, acts, fits⟩
      exact ⟨member, ⟨unnamed, acts⟩, fits⟩
    · rintro ⟨member, ⟨unnamed, acts⟩, fits⟩
      exact ⟨member, unnamed, acts, fits⟩
  rw [same]
  exact evaluateMatchingStatements_reports policy _

/-- **A resource policy is evaluated to what its matching statements say.** -/
theorem evaluateResourcePolicy_reports (principal : PolicyPrincipal)
    (check : AuthorizationCheck) (policy : Policy) :
    Reports (evaluateResourcePolicy principal check.resource check.action policy)
      (resourceMatching principal check policy) := by
  have same : resourceMatching principal check policy = {statement |
      statement ∈ policy.statement ∧
        ((!statement.principal.isEmpty &&
            statement.principal.any (principalMatchesPattern · principal)) &&
          statement.action.any (wildcardMatch · check.action) &&
          statement.resource.any (wildcardMatch · check.resource)) = true} := by
    ext statement
    simp only [resourceMatching, Set.mem_ofPred_eq, Bool.and_eq_true, any_wildcardMatch_iff,
      Bool.not_eq_true']
    simp only [List.any_eq_true, principalMatchesPattern_iff]
    constructor
    · rintro ⟨member, named, acts, fits⟩
      refine ⟨member, ⟨⟨?_, named⟩, acts⟩, fits⟩
      obtain ⟨pattern, present, -⟩ := named
      exact List.isEmpty_eq_false_iff_exists_mem.mpr ⟨pattern, present⟩
    · rintro ⟨member, ⟨⟨-, named⟩, acts⟩, fits⟩
      exact ⟨member, named, acts, fits⟩
  rw [same]
  exact evaluateMatchingStatements_reports policy _

end Hiraeth
