import Hiraeth.Iam.Authorize
import Hiraeth.Iam.ResolveAuthorization
import Hiraeth.Lib.ByteText
import Hiraeth.Lib.Separated

/-!
# Actions on managed policies

Reading and deleting a managed policy.  The request names the policy by an ARN,
which the handler takes apart into the account, the path and the name the store
looks for.

## Main definitions

* `PolicyArn`, `parsePolicyArn` — the parser of policy ARNs
* `getPolicyAction`, `getPolicyVersionAction`, `deletePolicyAction`
* `PlainSpelling` — the region field is empty and the path begins and ends with
  one slash

## Main results

* `eq_policyArn_iff` — an accepted ARN is the canonical one of what it is parsed
  to exactly when its spelling is plain
* `policyActions_check_canonical` — hence the ARN that is authorized is that of
  the policy acted on exactly for plain spellings
-/

namespace Hiraeth

open Interaction

/-! ### Policy ARNs -/

structure PolicyArn where
  accountId : Text
  policyPath : Text
  policyName : Text
  deriving DecidableEq

/-- `parse_policy_arn`.  The region field is not looked at. -/
def parsePolicyArn (arn : Text) : Except IamError PolicyArn :=
  match arn.splitOn ':' with
  | [lead, partition, service, _, accountId, resource] =>
      if lead ≠ "arn" ∨ partition ≠ "aws" ∨ service ≠ "iam" then
        .error (.badRequest (("Invalid ARN format: " : Text) ++ arn))
      else
        let resourceParts := resource.splitOn '/'
        if resourceParts.length < 2 ∨ resourceParts.head? ≠ some ("policy" : Text) then
          .error (.badRequest (("Invalid policy ARN format: " : Text) ++ arn))
        else
          let policyName := resourceParts.getLast?.getD []
          if policyName = [] then
            .error (.badRequest (("Invalid policy ARN format: " : Text) ++ arn))
          else
            .ok {
              accountId
              policyPath :=
                if resourceParts.length = 2 then "/"
                else '/' :: (List.intercalate ['/'] resourceParts.tail.dropLast ++ ['/'])
              policyName }
  | _ => .error (.badRequest (("Invalid ARN format: " : Text) ++ arn))

/-- `normalize_policy_path`. -/
def normalizePolicyPath : Option Text → Text
  | some path =>
      let trimmed := trim path
      if trimmed = [] then "/"
      else
        let withLeading := if trimmed.head? = some '/' then trimmed else '/' :: trimmed
        if withLeading.getLast? = some '/' then withLeading else withLeading ++ ['/']
  | none => "/"

/-- The ARN under which a managed policy is reported. -/
def ManagedPolicy.arn (policy : ManagedPolicy) : Text :=
  policyArn policy.accountId (normalizePolicyPath policy.policyPath) policy.policyName

/-! ### The actions -/

/-- `IamPolicyXml`.  The dates are rendered when the response is written. -/
structure IamPolicyXml where
  path : Text
  policyName : Text
  defaultVersionId : Text
  policyId : Text
  arn : Text
  createDate : Time
  updateDate : Time
  deriving DecidableEq

/-- `DEFAULT_POLICY_VERSION_ID`. -/
def defaultPolicyVersionId : Text := "v1"

/-- `IamPolicyXml::from` a managed policy. -/
def IamPolicyXml.ofManagedPolicy (policy : ManagedPolicy) : IamPolicyXml where
  path := normalizePolicyPath policy.policyPath
  policyName := policy.policyName
  defaultVersionId := defaultPolicyVersionId
  policyId := policy.policyId
  arn := policy.arn
  createDate := policy.createdAt
  updateDate := policy.updatedAt

/-- The payload of the actions on a policy.  Only the version action reads the
version. -/
structure PolicyRequest where
  policyArn : Text
  versionId : Text
  deriving DecidableEq

/-- `GetPolicyRequest` and `DeletePolicyRequest`. -/
def parsePolicyRequest (parse : FormParser) (request : IncomingRequest) :
    Except IamError PolicyRequest :=
  (parseAwsQueryRequest parse ["PolicyArn"] (fun params => do
    return { policyArn := ← params.required "PolicyArn", versionId := [] })
    request).mapError IamError.ofQueryParseError

/-- `GetPolicyVersionRequest`. -/
def parsePolicyVersionRequest (parse : FormParser) (request : IncomingRequest) :
    Except IamError PolicyRequest :=
  (parseAwsQueryRequest parse ["PolicyArn", "VersionId"] (fun params => do
    return { policyArn := ← params.required "PolicyArn"
             versionId := (params.get "VersionId").getD [] })
    request).mapError IamError.ofQueryParseError

/-- The policy an ARN names. -/
def findManagedPolicy (arn : PolicyArn) (spelled : Text) :
    ExceptT IamError IamProgram ManagedPolicy := do
  let found ← (iamCall (.getManagedPolicy arn.accountId arn.policyName arn.policyPath)).orFail
    IamError.ofStoreError
  match found with
  | some policy => return policy
  | none => throw (.noSuchEntity (("Policy " : Text) ++ spelled ++ " does not exist".toList))

/-- `handle_get_policy`. -/
def handleGetPolicy (_request : ResolvedRequest) (getRequest : PolicyRequest) :
    ExceptT IamError IamProgram IamPolicyXml := do
  let policyArn ← liftExcept (parsePolicyArn getRequest.policyArn)
  let policy ← findManagedPolicy policyArn getRequest.policyArn
  return .ofManagedPolicy policy

/-- `GetPolicyVersionResponse`. -/
structure GetPolicyVersionResponse where
  document : Text
  versionId : Text
  isDefaultVersion : Bool
  createDate : Time
  requestId : Text
  deriving DecidableEq

/-- `normalize_version_id`. -/
def normalizeVersionId (versionId : Text) : Text :=
  if trim versionId = [] then defaultPolicyVersionId else trim versionId

/-- The bytes that `url_encode_policy_document` keeps. -/
def keepsDocumentByte (byte : UInt8) : Bool :=
  (65 ≤ byte && byte ≤ 90) || (97 ≤ byte && byte ≤ 122) || (48 ≤ byte && byte ≤ 57) ||
    byte = 45 || byte = 95 || byte = 46 || byte = 126

/-- `url_encode_policy_document`. -/
def urlEncodePolicyDocument (document : Text) : Text :=
  ByteText.percentEncode ByteText.upperHex keepsDocumentByte (Text.utf8 document)

/-- `handle_get_policy_version`. -/
def handleGetPolicyVersion (request : ResolvedRequest) (getRequest : PolicyRequest) :
    ExceptT IamError IamProgram GetPolicyVersionResponse := do
  let policyArn ← liftExcept (parsePolicyArn getRequest.policyArn)
  let versionId := normalizeVersionId getRequest.versionId
  let policy ← findManagedPolicy policyArn getRequest.policyArn
  return {
    document := urlEncodePolicyDocument policy.policyDocument
    versionId
    isDefaultVersion := true
    createDate := policy.updatedAt
    requestId := request.requestId }

/-- `handle_delete_policy`.  The response carries the request id. -/
def handleDeletePolicy (request : ResolvedRequest) (deleteRequest : PolicyRequest) :
    ExceptT IamError IamProgram Text := do
  let policyArn ← liftExcept (parsePolicyArn deleteRequest.policyArn)
  if policyArn.accountId ≠ request.authContext.principal.accountId then
    throw (.noSuchEntity
      (("Policy " : Text) ++ deleteRequest.policyArn ++ " does not exist".toList))
  (iamCall (.deleteManagedPolicy policyArn.accountId policyArn.policyName
    policyArn.policyPath)).orFail IamError.ofStoreError
  return request.requestId

/-- `GetPolicyAction`. -/
def getPolicyAction (parse : FormParser) :
    TypedAwsAction iamStore IamError PolicyRequest IamPolicyXml where
  name := IamAction.getPolicy.name
  parse := parsePolicyRequest parse
  validate _ _ := pure ()
  handle := handleGetPolicy
  resolveAuthorization request _ := resolveAuthorization parse .getPolicy request

/-- `GetPolicyVersionAction`. -/
def getPolicyVersionAction (parse : FormParser) :
    TypedAwsAction iamStore IamError PolicyRequest GetPolicyVersionResponse where
  name := IamAction.getPolicyVersion.name
  parse := parsePolicyVersionRequest parse
  validate _ _ := pure ()
  handle := handleGetPolicyVersion
  resolveAuthorization request _ := resolveAuthorization parse .getPolicyVersion request

/-- `DeletePolicyAction`. -/
def deletePolicyAction (parse : FormParser) :
    TypedAwsAction iamStore IamError PolicyRequest Text where
  name := IamAction.deletePolicy.name
  parse := parsePolicyRequest parse
  validate _ deleteRequest := do
    let _ ← liftExcept (parsePolicyArn deleteRequest.policyArn)
    return ()
  handle := handleDeletePolicy
  resolveAuthorization request _ := resolveAuthorization parse .deletePolicy request

/-! ### Spellings of one policy -/

/-- The region field of an ARN. -/
def arnRegion (arn : Text) : Text := (arn.splitOn ':').getD 3 []

/-- The path of a policy ARN, without the slashes around it. -/
def arnInnerPath (arn : Text) : Text :=
  List.intercalate ['/'] (((arn.splitOn ':').getD 5 []).splitOn '/').tail.dropLast

/-- **The plain spelling of a policy.**  The region field is empty, and the path
begins and ends with a single slash. -/
structure PlainSpelling (arn : Text) : Prop where
  region : arnRegion arn = []
  front : (arnInnerPath arn).head? ≠ some '/'
  back : (arnInnerPath arn).getLast? ≠ some '/'

/-- The path of an accepted ARN is the root or stands between slashes. -/
def EnclosedPath (inner path : Text) : Prop :=
  (inner = [] ∧ path = "/") ∨ path = '/' :: (inner ++ ['/'])

theorem normalizePolicyPath_enclosed {inner path : Text} (enclosed : EnclosedPath inner path) :
    normalizePolicyPath (some path) = path := by
  rcases enclosed with ⟨-, rfl⟩ | rfl
  · decide
  · have last : ('/' :: (inner ++ ['/'])).getLast? = some '/' := by
      rw [← List.cons_append, List.getLast?_concat]
    simp [normalizePolicyPath, trim_enclosed, last]

theorem normalizeUserPath_enclosedPath_iff {inner path : Text}
    (enclosed : EnclosedPath inner path) :
    normalizeUserPath path = path ↔ inner.head? ≠ some '/' ∧ inner.getLast? ≠ some '/' := by
  rcases enclosed with ⟨rfl, rfl⟩ | rfl
  · simp [normalizeUserPath_root, -String.reduceToList]
  · exact normalizeUserPath_eq_self_iff inner

/-- The resource field of an accepted ARN is its path and name after `policy`. -/
theorem resource_eq_of_shape {resource : Text} (shape : ¬ ((resource.splitOn '/').length < 2 ∨
      (resource.splitOn '/').head? ≠ some ("policy" : Text))) :
    resource = ("policy" : Text) ++
      (if (resource.splitOn '/').length = 2 then ("/" : Text)
        else '/' :: (List.intercalate ['/'] (resource.splitOn '/').tail.dropLast ++ ['/'])) ++
      (resource.splitOn '/').getLast?.getD [] := by
  have joined : List.intercalate ['/'] (resource.splitOn '/') = resource :=
    List.intercalate_splitOn '/'
  generalize resource.splitOn '/' = parts at *
  obtain ⟨long, first⟩ := not_or.mp shape
  obtain ⟨rest, rfl⟩ := List.head?_eq_some_iff.mp (not_not.mp first)
  rcases List.eq_nil_or_concat' rest with rfl | ⟨middle, name, rfl⟩
  · simp at long
  rw [← joined]
  rcases eq_or_ne middle [] with rfl | inner
  · show ("policy" : Text) ++ (['/'] ++ (name ++ [])) = ("policy" : Text) ++ ("/" : Text) ++ name
    rw [List.append_nil, List.append_assoc]
    rfl
  · have last : (("policy" : Text) :: (middle ++ [name])).getLast? = some name := by
      rw [← List.cons_append, List.getLast?_concat]
    have long : (("policy" : Text) :: (middle ++ [name])).length ≠ 2 := by
      have := List.length_pos_of_ne_nil inner
      rw [List.length_cons, List.length_append, List.length_singleton]
      omega
    rw [last, if_neg long, List.tail_cons, List.dropLast_concat,
      List.intercalate_cons_of_ne_nil (List.append_ne_nil_of_right_ne_nil _ (List.cons_ne_nil _ _)),
      Separated.intercalate_concat _ inner]
    simp only [List.append_assoc, List.cons_append, List.nil_append, Option.getD_some]
/-- What an accepted ARN looks like. -/
theorem parsePolicyArn_eq_ok {arn : Text} {parsed : PolicyArn}
    (accepted : parsePolicyArn arn = .ok parsed) :
    arn = ("arn:aws:iam:" : Text) ++ arnRegion arn ++ [':'] ++ parsed.accountId ++
        ":policy".toList ++ parsed.policyPath ++ parsed.policyName ∧
      ':' ∉ arnRegion arn ∧ EnclosedPath (arnInnerPath arn) parsed.policyPath := by
  unfold parsePolicyArn at accepted
  split at accepted
  · next lead partition service region accountId resource fields =>
    by_cases fixed : lead ≠ "arn" ∨ partition ≠ "aws" ∨ service ≠ "iam"
    · rw [if_pos fixed] at accepted
      cases accepted
    rw [if_neg fixed] at accepted
    by_cases shape : (resource.splitOn '/').length < 2 ∨
        (resource.splitOn '/').head? ≠ some ("policy" : Text)
    · rw [if_pos shape] at accepted
      cases accepted
    rw [if_neg shape] at accepted
    by_cases named : (resource.splitOn '/').getLast?.getD [] = []
    · rw [if_pos named] at accepted
      cases accepted
    rw [if_neg named] at accepted
    cases accepted
    obtain ⟨rfl, rfl, rfl⟩ : lead = "arn" ∧ partition = "aws" ∧ service = "iam" := by
      simpa only [not_or, not_not] using fixed
    have regionField : arnRegion arn = region := by
      rw [arnRegion, fields]
      rfl
    have innerPath : arnInnerPath arn =
        List.intercalate ['/'] (resource.splitOn '/').tail.dropLast := by
      rw [arnInnerPath, fields]
      rfl
    have joined : List.intercalate [':'] (arn.splitOn ':') = arn := List.intercalate_splitOn ':'
    rw [fields] at joined
    have separated : ':' ∉ region := by
      have member : region ∈ arn.splitOn ':' := by
        rw [fields]
        simp
      rw [List.splitOn_eq_splitOnP] at member
      exact not_mem_of_mem_splitOnP member rfl
    have resourceField := resource_eq_of_shape shape
    rw [regionField, innerPath]
    refine ⟨?_, separated, ?_⟩
    · rw [← joined]
      have lead : ("arn:aws:iam:" : Text) =
          ("arn" : Text) ++ [':'] ++ ("aws" : Text) ++ [':'] ++ ("iam" : Text) ++ [':'] := rfl
      have policy : (":policy" : Text) = [':'] ++ ("policy" : Text) := rfl
      simp only [List.intercalate_cons_cons, List.intercalate_singleton, lead, policy,
        List.append_assoc] at resourceField ⊢
      rw [← resourceField]
    · by_cases short : (resource.splitOn '/').length = 2
      · left
        rw [if_pos short]
        generalize resource.splitOn '/' = parts at short
        obtain ⟨first, name, rfl⟩ := List.length_eq_two.mp short
        exact ⟨rfl, rfl⟩
      · right
        rw [if_neg short]
  · cases accepted

/-- Two spellings that differ in region and path are equal exactly when the
region is empty and the paths are equal. -/
theorem spelling_eq_iff {lead region account policy path path' name : Text}
    (separated : ':' ∉ region) :
    lead ++ region ++ [':'] ++ account ++ policy ++ path ++ name =
        lead ++ [':'] ++ account ++ policy ++ path' ++ name ↔ region = [] ∧ path' = path := by
  constructor
  · intro same
    simp only [List.append_assoc, List.append_cancel_left_eq] at same
    obtain ⟨noRegion, rest⟩ := Separated.append_cons_inj separated List.not_mem_nil same
    rw [← List.append_assoc, ← List.append_assoc, ← List.append_assoc, ← List.append_assoc] at rest
    have samePath := List.append_cancel_left (List.append_cancel_right rest)
    exact ⟨noRegion, samePath.symm⟩
  · rintro ⟨rfl, rfl⟩
    rw [List.append_nil]

theorem policyArn_eq (accountId path policyName : Text) :
    policyArn accountId path policyName = ("arn:aws:iam:" : Text) ++ [':'] ++ accountId ++
      (":policy" : Text) ++ normalizeUserPath path ++ policyName := by
  have lead : ("arn:aws:iam::" : Text) = ("arn:aws:iam:" : Text) ++ [':'] := rfl
  unfold policyArn
  rw [lead]

/-- **An accepted ARN is the canonical ARN of what it is parsed to exactly when
its spelling is plain.** -/
theorem eq_policyArn_iff {arn : Text} {parsed : PolicyArn}
    (accepted : parsePolicyArn arn = .ok parsed) :
    arn = policyArn parsed.accountId parsed.policyPath parsed.policyName ↔ PlainSpelling arn := by
  obtain ⟨spelled, separated, enclosed⟩ := parsePolicyArn_eq_ok accepted
  have canonical := @spelling_eq_iff ("arn:aws:iam:" : Text) (arnRegion arn) parsed.accountId
    (":policy" : Text) parsed.policyPath (normalizeUserPath parsed.policyPath) parsed.policyName
    separated
  rw [← spelled, ← policyArn_eq] at canonical
  rw [canonical, normalizeUserPath_enclosedPath_iff enclosed]
  exact ⟨fun ⟨region, front, back⟩ => ⟨region, front, back⟩,
    fun plain => ⟨plain.region, plain.front, plain.back⟩⟩

/-! ### The policy that is acted on -/

section ActsOn

variable {Response : Type}

/-- **The policy a program acts on.**  It reads it from the store, or it deletes
it. -/
def ActsOn (program : ExceptT IamError IamProgram Response) (database : IamDatabase)
    (policy : ManagedPolicy) : Prop :=
  (∃ accountId policyName policyPath,
    (⟨.getManagedPolicy accountId policyName policyPath, .ok (some policy)⟩ : Event iamStore) ∈
      program.run.events IamDatabase.serve database) ∨
  (policy ∈ database.managedPolicies.rows ∧
    policy ∉ (program.run.run IamDatabase.serve database).2.managedPolicies.rows)

/-- The program acts on something, and only on what the ARN is parsed to. -/
def ActsOnNamed (arn : Text) (program : ExceptT IamError IamProgram Response)
    (database : IamDatabase) : Prop :=
  ∃ parsed, parsePolicyArn arn = .ok parsed ∧ (∃ policy, ActsOn program database policy) ∧
    ∀ policy, ActsOn program database policy → IamDatabase.isPolicyNamed parsed.accountId
      parsed.policyName parsed.policyPath policy = true

theorem serve_getManagedPolicy (accountId policyName policyPath : Text)
    (database : IamDatabase) :
    IamDatabase.serve (.getManagedPolicy accountId policyName policyPath) database =
      (.ok (database.getManagedPolicy accountId policyName policyPath), database) := rfl

theorem run_findManagedPolicy (parsed : PolicyArn) (spelled : Text) (database : IamDatabase) :
    (findManagedPolicy parsed spelled).run.run IamDatabase.serve database =
      (match database.getManagedPolicy parsed.accountId parsed.policyName parsed.policyPath with
        | some policy => .ok policy
        | none => .error (.noSuchEntity
            (("Policy " : Text) ++ spelled ++ " does not exist".toList)), database) := by
  unfold findManagedPolicy
  rw [Program.run_orFail_bind, run_iamCall, serve_getManagedPolicy]
  cases database.getManagedPolicy parsed.accountId parsed.policyName parsed.policyPath <;> rfl

theorem events_findManagedPolicy (parsed : PolicyArn) (spelled : Text)
    (database : IamDatabase) :
    (findManagedPolicy parsed spelled).run.events IamDatabase.serve database =
      [⟨.getManagedPolicy parsed.accountId parsed.policyName parsed.policyPath,
        .ok (database.getManagedPolicy parsed.accountId parsed.policyName parsed.policyPath)⟩] := by
  unfold findManagedPolicy
  rw [Program.events_orFail_bind, run_iamCall, events_iamCall, serve_getManagedPolicy]
  cases database.getManagedPolicy parsed.accountId parsed.policyName parsed.policyPath <;> rfl

/-- Reading a policy acts on the row that is found. -/
theorem read_actsOnNamed {arn : Text} {render : ManagedPolicy → Response}
    {database final : IamDatabase} {response : Response}
    (succeeds : Program.Succeeds IamDatabase.serve (do
      let parsed ← liftExcept (parsePolicyArn arn)
      let policy ← findManagedPolicy parsed arn
      return render policy) database response final) :
    ActsOnNamed arn (do
      let parsed ← liftExcept (parsePolicyArn arn)
      let policy ← findManagedPolicy parsed arn
      return render policy) database := by
  cases accepted : parsePolicyArn arn with
  | error failure =>
      rw [accepted, Program.liftExcept_error_bind] at succeeds
      exact absurd succeeds Program.not_succeeds_throw
  | ok parsed =>
      rw [accepted, Program.liftExcept_ok_bind, Program.succeeds_bind] at succeeds
      obtain ⟨policy, between, found, -⟩ := succeeds
      unfold Program.Succeeds at found
      rw [run_findManagedPolicy] at found
      unfold ActsOnNamed ActsOn
      rw [accepted, Program.liftExcept_ok_bind, ExceptT.run_bind, Program.events_bind,
        Program.run_bind, run_findManagedPolicy, events_findManagedPolicy]
      cases looked : database.getManagedPolicy parsed.accountId parsed.policyName
          parsed.policyPath with
      | none => rw [looked] at found; cases found
      | some row =>
          refine ⟨parsed, rfl, ⟨row, .inl ⟨_, _, _, List.mem_cons_self⟩⟩, ?_⟩
          rintro other (⟨accountId, policyName, policyPath, member⟩ | ⟨present, gone⟩)
          · obtain ⟨-, rfl⟩ : _ ∧ other = row := by simpa using member
            exact RowTable.wanted_of_find_eq_some looked
          · exact absurd present gone

/-- What a successful deletion did. -/
theorem succeeds_handleDeletePolicy {request : ResolvedRequest} {payload : PolicyRequest}
    {database final : IamDatabase} {response : Text}
    (succeeds : Program.Succeeds IamDatabase.serve (handleDeletePolicy request payload) database
      response final) :
    ∃ parsed, parsePolicyArn payload.policyArn = .ok parsed ∧
      handleDeletePolicy request payload =
        ((iamCall (.deleteManagedPolicy parsed.accountId parsed.policyName
          parsed.policyPath)).orFail IamError.ofStoreError >>= fun _ => pure request.requestId) ∧
      database.deleteManagedPolicy parsed.accountId parsed.policyName parsed.policyPath =
        (.ok (), final) := by
  unfold handleDeletePolicy at succeeds ⊢
  cases accepted : parsePolicyArn payload.policyArn with
  | error failure =>
      rw [accepted, Program.liftExcept_error_bind] at succeeds
      exact absurd succeeds Program.not_succeeds_throw
  | ok parsed =>
      rw [accepted, Program.liftExcept_ok_bind] at succeeds
      by_cases foreign : parsed.accountId ≠ request.authContext.principal.accountId
      · simp [foreign] at succeeds
      · simp only [foreign, if_false] at succeeds
        simp only [Program.succeeds_bind, Program.succeeds_orFail] at succeeds
        obtain ⟨_, between, deleted, done⟩ := succeeds
        obtain ⟨-, rfl⟩ := Program.succeeds_pure.mp done
        refine ⟨parsed, rfl, ?_, deleted⟩
        rw [Program.liftExcept_ok_bind]
        simp only [foreign, if_false]

/-- Deleting a policy acts on the rows of that name. -/
theorem handleDeletePolicy_actsOnNamed {request : ResolvedRequest} {payload : PolicyRequest}
    {database final : IamDatabase} {response : Text}
    (succeeds : Program.Succeeds IamDatabase.serve (handleDeletePolicy request payload) database
      response final) :
    ActsOnNamed payload.policyArn (handleDeletePolicy request payload) database := by
  obtain ⟨parsed, accepted, shape, deleted⟩ := succeeds_handleDeletePolicy succeeds
  have left_behind : ((handleDeletePolicy request payload).run.run IamDatabase.serve database).2 =
      final := congrArg Prod.snd succeeds
  unfold ActsOnNamed ActsOn
  rw [left_behind, shape, Program.events_orFail_bind, events_iamCall, run_iamCall]
  have removed : final = database.deleteManagedPoliciesWhere (IamDatabase.isPolicyNamed
      parsed.accountId parsed.policyName parsed.policyPath) ∧
      database.managedPolicies.rows.any (IamDatabase.isPolicyNamed parsed.accountId
        parsed.policyName parsed.policyPath) = true := by
    unfold IamDatabase.deleteManagedPolicy at deleted
    split_ifs at deleted with exists_row
    · exact ⟨(Prod.mk.inj deleted).2.symm, exists_row⟩
    · cases deleted
  obtain ⟨rfl, present⟩ := removed
  obtain ⟨row, member, named⟩ := List.any_eq_true.mp present
  refine ⟨parsed, accepted, ⟨row, .inr ⟨member, ?_⟩⟩, ?_⟩
  · simp [IamDatabase.deleteManagedPoliciesWhere, named]
  · rintro policy (⟨accountId, policyName, policyPath, read⟩ | ⟨there, gone⟩)
    · -- the only call of the handler is the deletion
      have answered : IamDatabase.serve (.deleteManagedPolicy parsed.accountId parsed.policyName
          parsed.policyPath) database = (.ok (), _) := deleted
      rw [answered] at read
      simp at read
    · by_contra other
      refine gone (RowTable.mem_filter.mpr ⟨there, ?_⟩)
      simpa using other

end ActsOn

/-! ### The check and the policy -/

/-- The check of an action on a policy is made for the ARN in the request. -/
theorem resource_of_succeeds {parse : FormParser} {action : IamAction}
    (onPolicy : action = .getPolicy ∨ action = .getPolicyVersion ∨ action = .deletePolicy)
    {request : ResolvedRequest} {params : AwsQueryParams} {arn : Text}
    (parsed : parseAwsQueryParams parse request.request = .ok params)
    (given : params.get "PolicyArn" = some arn) {earlier later : IamDatabase}
    {check : AuthorizationCheck}
    (resolved : Program.Succeeds IamDatabase.serve (resolveAuthorization parse action request)
      earlier check later) : check.resource = arn := by
  unfold resolveAuthorization at resolved
  rw [parsed] at resolved
  rcases onPolicy with rfl | rfl | rfl <;>
  · obtain ⟨_, _, read, rest⟩ := Program.succeeds_bind.mp resolved
    obtain ⟨same, rfl⟩ := Program.succeeds_liftExcept.mp read
    cases same
    simp only [requiredParam, given, Program.liftExcept_ok_bind, Program.succeeds_pure] at rest
    rw [← rest.1]

/-- The payload carries the same ARN. -/
theorem policyArn_of_parsePolicyRequest {parse : FormParser} {request : IncomingRequest}
    {params : AwsQueryParams} {arn : Text} {payload : PolicyRequest}
    (parsed : parseAwsQueryParams parse request = .ok params)
    (given : params.get "PolicyArn" = some arn)
    (decoded : parsePolicyRequest parse request = .ok payload ∨
      parsePolicyVersionRequest parse request = .ok payload) : payload.policyArn = arn := by
  have required : params.required "PolicyArn" = .ok arn := by
    rw [AwsQueryParams.required, given]
  unfold parsePolicyRequest parsePolicyVersionRequest parseAwsQueryRequest at decoded
  rw [parsed] at decoded
  simp only [ok_bind, AwsQueryParams.deserialize, required] at decoded
  rcases decoded with decoded | decoded
  · cases duplicates : rejectDuplicates ["PolicyArn"] [] params.values with
    | error failure => rw [duplicates] at decoded; cases decoded
    | ok _ => rw [duplicates] at decoded; cases decoded; rfl
  · cases duplicates : rejectDuplicates ["PolicyArn", "VersionId"] [] params.values with
    | error failure => rw [duplicates] at decoded; cases decoded
    | ok _ => rw [duplicates] at decoded; cases decoded; rfl

/-- The reported ARN of the policy an accepted ARN names. -/
theorem arn_of_isPolicyNamed {arn : Text} {parsed : PolicyArn}
    (accepted : parsePolicyArn arn = .ok parsed) {policy : ManagedPolicy}
    (named : IamDatabase.isPolicyNamed parsed.accountId parsed.policyName parsed.policyPath
      policy = true) :
    policy.arn = policyArn parsed.accountId parsed.policyPath parsed.policyName := by
  obtain ⟨-, -, enclosed⟩ := parsePolicyArn_eq_ok accepted
  simp only [IamDatabase.isPolicyNamed, Bool.and_eq_true, decide_eq_true_eq] at named
  obtain ⟨⟨account, name⟩, path⟩ := named
  rw [ManagedPolicy.arn, account, name, path, normalizePolicyPath_enclosed enclosed]

/-- **The action is authorized for the ARN of the policy it acts on exactly when
the request spells it plainly.**  The check and the handler may find the store
in different states. -/
def ChecksPlainSpellings {Response : Type} (parse : FormParser)
    (action : TypedAwsAction iamStore IamError PolicyRequest Response) : Prop :=
  ∀ (request : ResolvedRequest) (params : AwsQueryParams) (arn : Text)
    (earlier later : IamDatabase) (check : AuthorizationCheck)
    (database final : IamDatabase) (response : Response),
    parseAwsQueryParams parse request.request = .ok params →
    params.get "PolicyArn" = some arn →
    Program.Succeeds IamDatabase.serve (action.adaptedResolveAuthorization request) earlier check
      later →
    Program.Succeeds IamDatabase.serve (action.adaptedHandle request) database response final →
    (∃ policy, ActsOn (action.adaptedHandle request) database policy) ∧
    ∀ policy, ActsOn (action.adaptedHandle request) database policy →
      (check.resource = policy.arn ↔ PlainSpelling arn)

/-- The property follows from what the action resolves, decodes and handles. -/
theorem checksPlainSpellings_of {Response : Type} {parse : FormParser}
    {action : TypedAwsAction iamStore IamError PolicyRequest Response} {kind : IamAction}
    (onPolicy : kind = .getPolicy ∨ kind = .getPolicyVersion ∨ kind = .deletePolicy)
    (resolves : ∀ request payload,
      action.resolveAuthorization request payload = resolveAuthorization parse kind request)
    (decodes : ∀ request payload, action.parse request = .ok payload →
      parsePolicyRequest parse request = .ok payload ∨
        parsePolicyVersionRequest parse request = .ok payload)
    (handles : ∀ request payload database response final,
      Program.Succeeds IamDatabase.serve (action.handle request payload) database response final →
      ActsOnNamed payload.policyArn (action.handle request payload) database) :
    ChecksPlainSpellings parse action := by
  intro request params arn earlier later check database final response parsed given resolved
    handled
  unfold TypedAwsAction.adaptedResolveAuthorization at resolved
  obtain ⟨payload, _, lifted, resolved⟩ := Program.succeeds_bind.mp resolved
  obtain ⟨decoded, rfl⟩ := Program.succeeds_liftExcept.mp lifted
  rw [resolves] at resolved
  have resource := resource_of_succeeds onPolicy parsed given resolved
  have payloadArn := policyArn_of_parsePolicyRequest parsed given (decodes _ _ decoded)
  have body : action.adaptedHandle request = action.handle request payload := by
    unfold TypedAwsAction.adaptedHandle
    rw [decoded, Program.liftExcept_ok_bind]
  rw [body] at handled ⊢
  obtain ⟨arnParts, accepted, acts, only⟩ := handles request payload database response final handled
  rw [payloadArn] at accepted
  refine ⟨acts, fun policy actsOn => ?_⟩
  rw [resource, arn_of_isPolicyNamed accepted (only policy actsOn), eq_policyArn_iff accepted]

/-- **Reading and deleting managed policies is authorized for the policy acted on
exactly for plain spellings.** -/
theorem policyActions_check_canonical (parse : FormParser) :
    ChecksPlainSpellings parse (getPolicyAction parse) ∧
    ChecksPlainSpellings parse (getPolicyVersionAction parse) ∧
    ChecksPlainSpellings parse (deletePolicyAction parse) := by
  refine ⟨?_, ?_, ?_⟩
  · refine checksPlainSpellings_of (.inl rfl) (fun _ _ => rfl) (fun _ _ => .inl) ?_
    intro request payload database response final handled
    exact read_actsOnNamed handled
  · refine checksPlainSpellings_of (.inr (.inl rfl)) (fun _ _ => rfl) (fun _ _ => .inr) ?_
    intro request payload database response final handled
    exact read_actsOnNamed handled
  · refine checksPlainSpellings_of (.inr (.inr rfl)) (fun _ _ => rfl) (fun _ _ => .inl) ?_
    intro request payload database response final handled
    exact handleDeletePolicy_actsOnNamed handled

/-! ### A denial that is evaded -/

/-- The policies of a user who may do everything but delete one policy. -/
def allButDeleteOrders : Policy where
  version := "2012-10-17"
  statement := [
    { effect := "Allow", action := ["*"], resource := ["*"], principal := [] },
    { effect := "Deny", action := ["iam:DeletePolicy"],
      resource := ["arn:aws:iam::000000000000:policy/orders"], principal := [] }]

def allButDeleteOrdersDocument : Text :=
  ("\x7b\"Statement\":[\x7b\"Effect\":\"Allow\"," : Text) ++
    "\"Action\":\"*\",\"Resource\":\"*\"\x7d,".toList ++ "\x7b\"Effect\":\"Deny\",".toList ++
    "\"Action\":\"iam:DeletePolicy\",\"Resource\":".toList ++
    "\"arn:aws:iam::000000000000:".toList ++ "policy/orders\"\x7d]\x7d".toList

/-- A store with that user and that policy. -/
def ordersDatabase : IamDatabase :=
  ((((IamDatabase.empty.createPrincipal
    ⟨"000000000000", "user", "test", "/", "AIDATEST"⟩).2.putInlinePolicy 1 "inline"
      allButDeleteOrdersDocument).2).insertManagedPolicy
    ⟨"ANPAORDERS", "000000000000", "orders", some "/", "{}"⟩).2

/-- A request of that user to delete a policy. -/
def deleteOrdersRequest (arn : Text) : ResolvedRequest where
  requestId := "request"
  request := {
    host := "localhost"
    method := "POST"
    path := "/"
    query := none
    headers := fun name =>
      if name = "content-type" then some "application/x-www-form-urlencoded" else none
    body := Text.utf8 (("Action=DeletePolicy&PolicyArn=" : Text) ++ arn) }
  service := "iam"
  region := "us-east-1"
  authContext := {
    accessKey := "AKIATEST"
    principal := ⟨1, "000000000000", "user", "test", "/", "AIDATEST", 0⟩ }
  date := 0

/-- The user's requests to delete a policy, as they are routed. -/
def routeDeleteOrders (arn : Text) : Routed IamError Text × IamDatabase :=
  ((deletePolicyAction plainForm).route
    (authorize (parseKnown [(allButDeleteOrdersDocument, allButDeleteOrders)]) .enforce)
    (deleteOrdersRequest arn)).run IamDatabase.serve ordersDatabase

/-- The policy's ARN with a region put in. -/
def regionalOrders : Text := "arn:aws:iam:us-east-1:000000000000:policy/orders"

/-- The denial holds for the plain spelling and is evaded by naming a region:
the check is then made for an ARN that no stored policy has, and the policy is
deleted all the same. -/
theorem deletePolicy_evades_denial :
    (routeDeleteOrders "arn:aws:iam::000000000000:policy/orders").1 = .unauthorized ∧
    ((((deletePolicyAction plainForm).adaptedResolveAuthorization
        (deleteOrdersRequest regionalOrders)).run.run IamDatabase.serve
          ordersDatabase).1.toOption.map AuthorizationCheck.resource) = some regionalOrders ∧
    regionalOrders ∉ ordersDatabase.managedPolicies.rows.map ManagedPolicy.arn ∧
    (routeDeleteOrders regionalOrders).1 = .answered "request" ∧
    (routeDeleteOrders regionalOrders).2.managedPolicies.rows = [] := by
  refine ⟨?_, ?_, ?_, ?_, ?_⟩ <;> decide +kernel

end Hiraeth
