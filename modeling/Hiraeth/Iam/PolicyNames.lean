import Hiraeth.Iam.Actions
import Hiraeth.Store.IamIntegrity

/-!
# The ARNs of created policies

A created policy is reported under an ARN that joins its account, its path and its
name.  The other actions take the ARN apart at the colons and the slashes.

## Main definitions

* `PlainPath` — a path that reads the same in an ARN
* `WorksByArn` — the ARN stands for the policy and can be used in its place

## Main results

* `parsePolicyArn_policyArn_iff` — which ARNs are taken apart into what they were
  joined from
* `createdPolicy_worksByArn_iff` — the ARN of a created policy works exactly when
  account and path are plain
-/

namespace Hiraeth

open Interaction

/-! ### Joining and taking apart -/

/-- What stands between the outer characters of a path. -/
def insideOfPath (path : Text) : Text := path.tail.dropLast

/-- **A path that reads the same in an ARN.**  It has no colon, and no second slash
at either end. -/
structure PlainPath (path : Text) : Prop where
  colon : ':' ∉ path
  front : (insideOfPath path).head? ≠ some '/'
  back : (insideOfPath path).getLast? ≠ some '/'

/-- A path that begins and ends with a slash encloses something. -/
theorem enclosedPath_insideOfPath {path : Text} (first : path.head? = some '/')
    (last : path.getLast? = some '/') : EnclosedPath (insideOfPath path) path := by
  obtain ⟨rest, rfl⟩ := List.head?_eq_some_iff.mp first
  rcases List.eq_nil_or_concat' rest with rfl | ⟨inner, c, rfl⟩
  · exact .inl ⟨rfl, rfl⟩
  · have slash : c = '/' := by
      rw [← List.cons_append, List.getLast?_concat] at last
      exact Option.some.inj last
    subst slash
    right
    rw [insideOfPath, List.tail_cons, List.dropLast_concat]

theorem splitOn_piece {separator : Char} {piece : Text} (plain : separator ∉ piece)
    (rest : Text) :
    (piece ++ separator :: rest).splitOn separator = piece :: rest.splitOn separator := by
  rw [List.splitOn_append_cons_self, List.splitOn_eq_singleton plain, List.singleton_append]

/-- The path and the name in the resource of a policy. -/
def policyResource (path policyName : Text) : Text := ("policy" : Text) ++ path ++ policyName

theorem splitOn_policyResource {inner path policyName : Text} (enclosed : EnclosedPath inner path)
    (plainName : '/' ∉ policyName) :
    (policyResource path policyName).splitOn '/' = [("policy" : Text), policyName] ∧ path = "/" ∨
    (policyResource path policyName).splitOn '/' =
        ("policy" : Text) :: (inner.splitOn '/' ++ [policyName]) ∧
      path = '/' :: (inner ++ ['/']) := by
  have plainLead : '/' ∉ ("policy" : Text) := by decide +kernel
  rcases enclosed with ⟨-, rfl⟩ | rfl
  · left
    refine ⟨?_, rfl⟩
    have cut : policyResource "/" policyName = ("policy" : Text) ++ '/' :: policyName := by
      unfold policyResource
      rw [List.append_assoc]
      rfl
    rw [cut, splitOn_piece plainLead, List.splitOn_eq_singleton plainName]
  · right
    refine ⟨?_, rfl⟩
    have cut : policyResource ('/' :: (inner ++ ['/'])) policyName =
        ("policy" : Text) ++ '/' :: (inner ++ '/' :: policyName) := by
      unfold policyResource
      generalize ("policy" : Text) = lead
      simp only [List.append_assoc, List.cons_append, List.nil_append]
    rw [cut, splitOn_piece plainLead, List.splitOn_append_cons_self,
      List.splitOn_eq_singleton plainName]

/-- The fields of the ARN of a policy. -/
theorem splitOn_policyArn {accountId path policyName : Text} (plainAccount : ':' ∉ accountId)
    (same : normalizeUserPath path = path) (plainPath : ':' ∉ path)
    (plainName : ':' ∉ policyName) :
    (policyArn accountId path policyName).splitOn ':' =
      [("arn" : Text), ("aws" : Text), ("iam" : Text), [], accountId,
        policyResource path policyName] := by
  have lead : ("arn:aws:iam::" : Text) = ("arn" : Text) ++ ':' :: (("aws" : Text) ++
      ':' :: (("iam" : Text) ++ ':' :: ([] ++ [':']))) := by
    decide +kernel
  have policy : (":policy" : Text) = ':' :: ("policy" : Text) := by decide +kernel
  have plain : ':' ∉ ("arn" : Text) ∧ ':' ∉ ("aws" : Text) ∧ ':' ∉ ("iam" : Text) ∧
      ':' ∉ ("policy" : Text) := by
    decide +kernel
  have plainResource : ':' ∉ policyResource path policyName :=
    List.not_mem_append (List.not_mem_append plain.2.2.2 plainPath) plainName
  have cut : policyArn accountId path policyName = ("arn" : Text) ++ ':' :: (("aws" : Text) ++
      ':' :: (("iam" : Text) ++ ':' :: (([] : Text) ++ ':' :: (accountId ++
        ':' :: policyResource path policyName)))) := by
    have joined {first second third : Text} : first ++ ':' :: (second ++ ':' :: (third ++
        ':' :: (([] : Text) ++ [':']))) ++ accountId ++ ':' :: ("policy" : Text) ++ path ++
          policyName = first ++ ':' :: (second ++ ':' :: (third ++ ':' :: (([] : Text) ++
            ':' :: (accountId ++ ':' :: policyResource path policyName)))) := by
      unfold policyResource
      generalize ("policy" : Text) = resource
      simp only [List.append_assoc, List.cons_append, List.nil_append]
    unfold policyArn
    rw [same, lead, ← joined, ← policy]
  rw [cut, splitOn_piece plain.1, splitOn_piece plain.2.1, splitOn_piece plain.2.2.1,
    splitOn_piece List.not_mem_nil, splitOn_piece plainAccount,
    List.splitOn_eq_singleton plainResource]

/-- **The ARN of a plain path is taken apart into what it was joined from.** -/
theorem parsePolicyArn_policyArn {accountId path policyName : Text}
    (plainAccount : ':' ∉ accountId) (enclosed : EnclosedPath (insideOfPath path) path)
    (plain : PlainPath path) (named : policyName ≠ []) (noColon : ':' ∉ policyName)
    (noSlash : '/' ∉ policyName) :
    parsePolicyArn (policyArn accountId path policyName) = .ok ⟨accountId, path, policyName⟩ := by
  have same : normalizeUserPath path = path :=
    (normalizeUserPath_enclosedPath_iff enclosed).mpr ⟨plain.front, plain.back⟩
  have fixed : ¬ (("arn" : Text) ≠ "arn" ∨ ("aws" : Text) ≠ "aws" ∨ ("iam" : Text) ≠ "iam") := by
    decide +kernel
  unfold parsePolicyArn
  rw [splitOn_policyArn plainAccount same plain.colon noColon]
  dsimp only
  rw [if_neg fixed]
  rcases splitOn_policyResource enclosed noSlash with ⟨parts, root⟩ | ⟨parts, spelled⟩
  · rw [parts, root]
    have shape : ¬ ([("policy" : Text), policyName].length < 2 ∨
        [("policy" : Text), policyName].head? ≠ some ("policy" : Text)) := by
      rintro (short | other)
      · exact absurd short (Nat.lt_irrefl 2)
      · exact other rfl
    have last : [("policy" : Text), policyName].getLast?.getD [] = policyName := rfl
    rw [if_neg shape, last, if_neg named]
    rfl
  · generalize insideOfPath path = inner at parts spelled
    rw [parts, spelled]
    have last : (("policy" : Text) :: (inner.splitOn '/' ++ [policyName])).getLast? =
        some policyName := by
      rw [← List.cons_append, List.getLast?_concat]
    have long : 2 < (("policy" : Text) ::
        (inner.splitOn '/' ++ [policyName])).length := by
      have := List.length_pos_of_ne_nil (List.splitOn_ne_nil '/' inner)
      rw [List.length_cons, List.length_append, List.length_singleton]
      omega
    have shape : ¬ ((("policy" : Text) ::
          (inner.splitOn '/' ++ [policyName])).length < 2 ∨
        (("policy" : Text) :: (inner.splitOn '/' ++ [policyName])).head? ≠
          some ("policy" : Text)) := by
      rintro (short | other)
      · omega
      · exact other rfl
    rw [if_neg shape, last, Option.getD_some, if_neg named, if_neg (by omega), List.tail_cons,
      List.dropLast_concat, List.intercalate_splitOn]

/-- The account and the path that an accepted ARN is taken apart into have no colon. -/
theorem noColon_of_parsePolicyArn {arn : Text} {parsed : PolicyArn}
    (accepted : parsePolicyArn arn = .ok parsed) :
    ':' ∉ parsed.accountId ∧ ':' ∉ parsed.policyPath := by
  have pieces {piece : Text} (member : piece ∈ arn.splitOn ':') : ':' ∉ piece := by
    rw [List.splitOn_eq_splitOnP] at member
    exact not_mem_of_mem_splitOnP member rfl
  unfold parsePolicyArn at accepted
  split at accepted
  · next lead partition service region accountId resource fields =>
    rw [fields] at pieces
    by_cases fixed : lead ≠ "arn" ∨ partition ≠ "aws" ∨ service ≠ "iam"
    · rw [if_pos fixed] at accepted
      cases accepted
    rw [if_neg fixed] at accepted
    by_cases shape : (resource.splitOn '/').length < 2 ∨
        (resource.splitOn '/').head? ≠ some ("policy" : Text)
    · rw [if_pos shape] at accepted
      cases accepted
    rw [if_neg shape] at accepted
    by_cases named : (resource.splitOn '/').getLast?.getD [] = []
    · rw [if_pos named] at accepted
      cases accepted
    rw [if_neg named] at accepted
    cases accepted
    have plainResource : ':' ∉ resource := pieces (by simp)
    rw [resource_eq_of_shape shape] at plainResource
    refine ⟨pieces (by simp), fun colon => plainResource ?_⟩
    exact List.mem_append_left _ (List.mem_append_right _ colon)
  · cases accepted

/-- **An ARN is taken apart into what it was joined from exactly when the account has no
colon and the path is plain.** -/
theorem parsePolicyArn_policyArn_iff {accountId path policyName : Text}
    (enclosed : EnclosedPath (insideOfPath path) path) (named : policyName ≠ [])
    (noColon : ':' ∉ policyName) (noSlash : '/' ∉ policyName) :
    parsePolicyArn (policyArn accountId path policyName) = .ok ⟨accountId, path, policyName⟩ ↔
      ':' ∉ accountId ∧ PlainPath path := by
  constructor
  · intro accepted
    obtain ⟨plainAccount, plainPath⟩ := noColon_of_parsePolicyArn accepted
    obtain ⟨spelled, separated, -⟩ := parsePolicyArn_eq_ok accepted
    have same : normalizeUserPath path = path := by
      have whole := policyArn_eq accountId path policyName
      rw [spelled] at whole
      exact ((spelling_eq_iff separated).mp whole).2
    obtain ⟨front, back⟩ := (normalizeUserPath_enclosedPath_iff enclosed).mp same
    exact ⟨plainAccount, plainPath, front, back⟩
  · rintro ⟨plainAccount, plain⟩
    exact parsePolicyArn_policyArn plainAccount enclosed plain named noColon noSlash

/-! ### Using an ARN in place of a policy -/

namespace IamDatabase

variable {database : IamDatabase}

/-- Names are unique, so looking a policy up by its name finds it. -/
theorem getManagedPolicy_of_mem (valid : database.Valid) {policy : ManagedPolicy}
    (stored : policy ∈ database.managedPolicies.rows) {accountId policyName path : Text}
    (named : isPolicyNamed accountId policyName path policy = true) :
    database.getManagedPolicy accountId policyName path = some policy := by
  have columns {row : ManagedPolicy} (wanted : isPolicyNamed accountId policyName path row = true) :
      (row.accountId, row.policyName, row.policyPath) = (accountId, policyName, some path) := by
    simpa [isPolicyNamed, and_assoc] using wanted
  cases found : database.getManagedPolicy accountId policyName path with
  | none => exact absurd (columns named) (getManagedPolicy_eq_none.mp found policy stored)
  | some row =>
      have wanted := RowTable.wanted_of_find_eq_some found
      rw [valid.policyName (RowTable.mem_of_find_eq_some found) stored
        ((columns wanted).trans (columns named).symm)]

/-- Likewise for principals. -/
theorem getPrincipalByIdentity_of_mem (valid : database.Valid) {principal : Principal}
    (stored : principal ∈ database.principals.rows) :
    database.getPrincipalByIdentity principal.accountId principal.kind principal.name =
      some principal := by
  cases found : database.getPrincipalByIdentity principal.accountId principal.kind
      principal.name with
  | none => exact absurd rfl (getPrincipalByIdentity_eq_none.mp found principal stored)
  | some row =>
      have same : (row.accountId, row.kind, row.name) =
          (principal.accountId, principal.kind, principal.name) := by
        simpa [and_assoc] using RowTable.wanted_of_find_eq_some found
      rw [valid.identity (RowTable.mem_of_find_eq_some found) stored same]

end IamDatabase

/-- **The ARN stands for the policy of that name.**  It is taken apart into the name, no
other policy whose ARN can be taken apart has it, and the policy can be fetched, attached
and deleted by it. -/
structure WorksByArn (parse : FormParser) (named : PolicyArn) (arn : Text) : Prop where
  names : parsePolicyArn arn = .ok named
  distinct : ∀ other : PolicyArn,
    parsePolicyArn (policyArn other.accountId other.policyPath other.policyName) = .ok other →
    policyArn other.accountId other.policyPath other.policyName = arn → other = named
  fetched : ∀ (request : ResolvedRequest) (version : Text) (database : IamDatabase),
    database.Valid → ∀ policy ∈ database.managedPolicies.rows,
    IamDatabase.isPolicyNamed named.accountId named.policyName named.policyPath policy = true →
    Program.Succeeds IamDatabase.serve ((getPolicyAction parse).handle request ⟨arn, version⟩)
      database (.ofManagedPolicy policy) database
  attached : ∀ (request : ResolvedRequest) (database : IamDatabase), database.Valid →
    ∀ policy ∈ database.managedPolicies.rows,
    IamDatabase.isPolicyNamed named.accountId named.policyName named.policyPath policy = true →
    request.accountId = named.accountId →
    ∀ user ∈ database.principals.rows, user.kind = "user" → user.accountId = named.accountId →
    policy ∉ database.getManagedPoliciesAttachedToPrincipal user.id →
    ∃ final, Program.Succeeds IamDatabase.serve
        ((attachUserPolicyAction parse).handle request ⟨user.name, arn⟩) database
        request.requestId final ∧
      policy ∈ final.getManagedPoliciesAttachedToPrincipal user.id
  deleted : ∀ (request : ResolvedRequest) (version : Text) (database : IamDatabase),
    database.Valid → ∀ policy ∈ database.managedPolicies.rows,
    IamDatabase.isPolicyNamed named.accountId named.policyName named.policyPath policy = true →
    request.accountId = named.accountId →
    ∃ final, Program.Succeeds IamDatabase.serve
        ((deletePolicyAction parse).handle request ⟨arn, version⟩) database
        request.requestId final ∧
      ∀ row, row ∈ final.managedPolicies.rows ↔
        row ∈ database.managedPolicies.rows ∧ row ≠ policy

section Works

variable {named : PolicyArn} {arn : Text} {request : ResolvedRequest} {database : IamDatabase}
  {policy : ManagedPolicy}

theorem succeeds_findManagedPolicy (valid : database.Valid)
    (stored : policy ∈ database.managedPolicies.rows)
    (isNamed : IamDatabase.isPolicyNamed named.accountId named.policyName named.policyPath
      policy = true) (spelled : Text) :
    Program.Succeeds IamDatabase.serve (findManagedPolicy named spelled) database policy
      database := by
  unfold Program.Succeeds
  rw [run_findManagedPolicy, IamDatabase.getManagedPolicy_of_mem valid stored isNamed]

theorem succeeds_handleGetPolicy (names : parsePolicyArn arn = .ok named)
    (valid : database.Valid) (stored : policy ∈ database.managedPolicies.rows)
    (isNamed : IamDatabase.isPolicyNamed named.accountId named.policyName named.policyPath
      policy = true) (version : Text) :
    Program.Succeeds IamDatabase.serve (handleGetPolicy request ⟨arn, version⟩) database
      (.ofManagedPolicy policy) database := by
  unfold handleGetPolicy
  rw [names, Program.liftExcept_ok_bind]
  exact Program.succeeds_bind.mpr ⟨policy, database,
    succeeds_findManagedPolicy valid stored isNamed arn, Program.succeeds_pure.mpr ⟨rfl, rfl⟩⟩

/-- A user is found by the name. -/
theorem succeeds_findUser (valid : database.Valid) {user : Principal}
    (stored : user ∈ database.principals.rows) (isUser : user.kind = "user") (missing : Text) :
    Program.Succeeds IamDatabase.serve (findUser user.accountId user.name missing) database user
      database := by
  have found := IamDatabase.getPrincipalByIdentity_of_mem valid stored
  rw [isUser] at found
  unfold Program.Succeeds findUser
  rw [Program.run_orFail_bind, run_iamCall]
  have answer : IamDatabase.serve (.getPrincipalByIdentity user.accountId "user" user.name)
      database = (.ok (some user), database) := by
    rw [← found]
    rfl
  rw [answer]
  rfl

theorem attached_handleAttachUserPolicy (names : parsePolicyArn arn = .ok named)
    (valid : database.Valid) (stored : policy ∈ database.managedPolicies.rows)
    (isNamed : IamDatabase.isPolicyNamed named.accountId named.policyName named.policyPath
      policy = true) (account : request.accountId = named.accountId) {user : Principal}
    (known : user ∈ database.principals.rows) (isUser : user.kind = "user")
    (sameAccount : user.accountId = named.accountId)
    (notYet : policy ∉ database.getManagedPoliciesAttachedToPrincipal user.id) :
    ∃ final, Program.Succeeds IamDatabase.serve (handleAttachUserPolicy request ⟨user.name, arn⟩)
        database request.requestId final ∧
      policy ∈ final.getManagedPoliciesAttachedToPrincipal user.id := by
  have free : ¬ database.attachments.rows.any (fun row =>
      row.userId = user.id && row.policyId = policy.id) = true := by
    intro attached
    refine notYet (List.mem_filter.mpr ⟨stored, ?_⟩)
    obtain ⟨row, member, pair⟩ := List.any_eq_true.mp attached
    rw [Bool.and_comm] at pair
    exact List.any_eq_true.mpr ⟨row, member, pair⟩
  have present : (database.hasPrincipal user.id &&
      database.managedPolicies.rows.any (·.id = policy.id)) = true := by
    rw [Bool.and_eq_true]
    exact ⟨IamDatabase.hasPrincipal_iff.mpr ⟨user, known, rfl⟩,
      List.any_eq_true.mpr ⟨policy, stored, decide_eq_true rfl⟩⟩
  obtain ⟨final, attaching, attachedTo⟩ : ∃ final,
      IamDatabase.serve (.attachPolicyToPrincipal policy.id user.id) database = (.ok (), final) ∧
      policy ∈ final.getManagedPoliciesAttachedToPrincipal user.id := by
    refine ⟨{ database.tick with
      attachments := database.attachments.insert
        (database.newAttachmentRow policy.id user.id) fun _ => rfl }, ?_, ?_⟩
    · change database.attachPolicyToPrincipal policy.id user.id = _
      unfold IamDatabase.attachPolicyToPrincipal
      rw [if_neg free, if_pos present]
    · refine List.mem_filter.mpr ⟨stored, List.any_eq_true.mpr
        ⟨database.newAttachmentRow policy.id user.id database.attachments.nextId, ?_, ?_⟩⟩
      · exact List.mem_append_right _ List.mem_cons_self
      · simp [IamDatabase.newAttachmentRow]
  have found := succeeds_findUser valid known isUser (("User " : Text) ++ user.name)
  rw [sameAccount, ← account] at found
  refine ⟨final, ?_, attachedTo⟩
  unfold handleAttachUserPolicy
  refine Program.succeeds_bind.mpr ⟨user, database, found, ?_⟩
  rw [names, Program.liftExcept_ok_bind, if_neg (not_not.mpr account.symm)]
  refine Program.succeeds_bind.mpr ⟨policy, database,
    succeeds_findManagedPolicy valid stored isNamed arn, ?_⟩
  refine Program.succeeds_bind.mpr ⟨(), final, Program.succeeds_orFail.mpr ?_,
    Program.succeeds_pure.mpr ⟨rfl, rfl⟩⟩
  rw [run_iamCall]
  exact attaching

theorem deleted_handleDeletePolicy (names : parsePolicyArn arn = .ok named)
    (valid : database.Valid) (stored : policy ∈ database.managedPolicies.rows)
    (isNamed : IamDatabase.isPolicyNamed named.accountId named.policyName named.policyPath
      policy = true) (account : request.accountId = named.accountId) (version : Text) :
    ∃ final, Program.Succeeds IamDatabase.serve (handleDeletePolicy request ⟨arn, version⟩)
        database request.requestId final ∧
      ∀ row, row ∈ final.managedPolicies.rows ↔
        row ∈ database.managedPolicies.rows ∧ row ≠ policy := by
  have deleting : IamDatabase.serve (.deleteManagedPolicy named.accountId named.policyName
      named.policyPath) database = (.ok (), database.deleteManagedPoliciesWhere
        (IamDatabase.isPolicyNamed named.accountId named.policyName named.policyPath)) := by
    change database.deleteManagedPolicy named.accountId named.policyName named.policyPath = _
    unfold IamDatabase.deleteManagedPolicy
    rw [if_pos (List.any_eq_true.mpr ⟨policy, stored, isNamed⟩)]
  refine ⟨database.deleteManagedPoliciesWhere
    (IamDatabase.isPolicyNamed named.accountId named.policyName named.policyPath), ?_, ?_⟩
  · unfold handleDeletePolicy
    rw [names, Program.liftExcept_ok_bind, if_neg (not_not.mpr account.symm)]
    refine Program.succeeds_bind.mpr ⟨(), _, Program.succeeds_orFail.mpr ?_,
      Program.succeeds_pure.mpr ⟨rfl, rfl⟩⟩
    rw [run_iamCall]
    exact deleting
  · intro row
    rw [IamDatabase.deleteManagedPoliciesWhere, RowTable.mem_filter]
    refine and_congr_right fun member => ?_
    constructor
    · rintro kept rfl
      rw [isNamed] at kept
      cases kept
    · intro other
      have unnamed : IamDatabase.isPolicyNamed named.accountId named.policyName named.policyPath
          row = false := by
        by_contra isNamed'
        have found := IamDatabase.getManagedPolicy_of_mem valid member (by simpa using isNamed')
        rw [IamDatabase.getManagedPolicy_of_mem valid stored isNamed] at found
        exact other (Option.some.inj found).symm
      rw [unnamed]
      rfl

/-- An ARN that is taken apart into the name of a policy works in its place. -/
theorem worksByArn_of_names {parse : FormParser} (names : parsePolicyArn arn = .ok named) :
    WorksByArn parse named arn where
  names := names
  distinct other taken same := by
    rw [same, names] at taken
    cases taken
    rfl
  fetched request version _ valid _ stored isNamed :=
    @succeeds_handleGetPolicy named arn request _ _ names valid stored isNamed version
  attached _ _ valid _ stored isNamed account _ known isUser sameAccount notYet :=
    attached_handleAttachUserPolicy names valid stored isNamed account known isUser sameAccount
      notYet
  deleted _ version _ valid _ stored isNamed account :=
    deleted_handleDeletePolicy names valid stored isNamed account version

end Works

/-! ### What is accepted -/

/-- An accepted name is not empty. -/
theorem ne_nil_of_validateIamName {fieldName value : Text} {maxLen : ℕ}
    (accepted : validateIamName fieldName value maxLen = .ok ()) : value ≠ [] := by
  rintro rfl
  unfold validateIamName at accepted
  rw [if_pos (.inl rfl)] at accepted
  cases accepted

/-- An accepted name has only characters that a name may have. -/
theorem not_mem_of_validateIamName {fieldName value : Text} {maxLen : ℕ}
    (accepted : validateIamName fieldName value maxLen = .ok ()) {c : Char}
    (forbidden : (c.isAlphanum || decide (c ∈ "_+=,.@-".toList)) = false) : c ∉ value := by
  intro member
  unfold validateIamName at accepted
  by_cases length : value = [] ∨ maxLen < (Text.utf8 value).length
  · rw [if_pos length] at accepted
    cases accepted
  rw [if_neg length] at accepted
  have bad : (!value.all fun c => c.isAlphanum || decide (c ∈ "_+=,.@-".toList)) = true := by
    rw [Bool.not_eq_true', List.all_eq_false]
    exact ⟨c, member, by rw [forbidden]; exact Bool.false_ne_true⟩
  rw [if_pos bad] at accepted
  cases accepted

/-- An accepted path begins and ends with a slash. -/
theorem enclosed_of_validateIamPath {fieldName path : Text}
    (accepted : validateIamPath fieldName path = .ok ()) :
    EnclosedPath (insideOfPath path) path := by
  unfold validateIamPath at accepted
  by_cases length : path = [] ∨ 512 < (Text.utf8 path).length
  · rw [if_pos length] at accepted
    cases accepted
  rw [if_neg length] at accepted
  by_cases ends : path.head? ≠ some '/' ∨ path.getLast? ≠ some '/'
  · rw [if_pos ends] at accepted
    cases accepted
  obtain ⟨first, last⟩ := not_or.mp ends
  exact enclosedPath_insideOfPath (not_not.mp first) (not_not.mp last)

theorem serve_insertManagedPolicy (policy : NewManagedPolicy) (database : IamDatabase) :
    IamDatabase.serve (.insertManagedPolicy policy) database =
      database.insertManagedPolicy policy := rfl

/-- What the handler of `CreatePolicy` leaves behind and answers. -/
theorem succeeds_handleCreatePolicy {generated : Generated} {request : ResolvedRequest}
    {payload : CreatePolicyRequest} {database final : IamDatabase} {response : IamPolicyXml × Text}
    (succeeds : Program.Succeeds IamDatabase.serve (handleCreatePolicy generated request payload)
      database response final) :
    ∃ policy ∈ final.managedPolicies.rows,
      IamDatabase.isPolicyNamed request.accountId payload.policyName
        (normalizePolicyPath payload.path) policy = true ∧
      response.1 = .ofManagedPolicy policy := by
  unfold handleCreatePolicy at succeeds
  obtain ⟨created, between, inserted, answered⟩ := Program.succeeds_bind.mp succeeds
  obtain ⟨rfl, rfl⟩ := Program.succeeds_pure.mp answered
  have inserting := Program.succeeds_orFail.mp inserted
  rw [run_iamCall] at inserting
  rw [serve_insertManagedPolicy] at inserting
  unfold IamDatabase.insertManagedPolicy at inserting
  dsimp only at inserting
  split_ifs at inserting with sameId sameName
  · cases inserting
  · cases inserting
  · cases inserting
    refine ⟨_, List.mem_append_right _ List.mem_cons_self, ?_, rfl⟩
    simp only [IamDatabase.isPolicyNamed, IamDatabase.newManagedPolicyRow, decide_true,
      Bool.and_self]

/-! ### The ARN of a created policy -/

/-- **The ARN of a created policy works exactly when the account has no colon and the path
is plain.** -/
theorem createdPolicy_worksByArn_iff {parse : FormParser} {readJson : JsonReader}
    {generated : Generated}
    {authorize : ResolvedRequest → AuthorizationCheck → IamProgram AuthorizationResult}
    {request : ResolvedRequest} {payload : CreatePolicyRequest} {database final : IamDatabase}
    {response : IamPolicyXml × Text}
    (decoded : (createPolicyAction parse readJson generated).parse request.request = .ok payload)
    (answered : ((createPolicyAction parse readJson generated).route authorize request).run
      IamDatabase.serve database = (.answered response, final)) :
    ∃ policy ∈ final.managedPolicies.rows,
      policy.accountId = request.accountId ∧ policy.policyName = payload.policyName ∧
      policy.policyPath = some (normalizePolicyPath payload.path) ∧
      response.1 = .ofManagedPolicy policy ∧
      (WorksByArn parse
          ⟨policy.accountId, normalizePolicyPath payload.path, policy.policyName⟩
          response.1.arn ↔
        ':' ∉ request.accountId ∧ PlainPath (normalizePolicyPath payload.path)) := by
  obtain ⟨check, resolved, decided, validated, -, -, validates, handles⟩ :=
    (TypedAwsAction.route_answered _).mp answered
  unfold TypedAwsAction.adaptedValidate at validates
  unfold TypedAwsAction.adaptedHandle at handles
  rw [decoded, Program.liftExcept_ok_bind] at validates handles
  obtain ⟨_, _, nameStep, rest⟩ := Program.succeeds_bind.mp validates
  obtain ⟨nameOk, rfl⟩ := Program.succeeds_liftExcept.mp nameStep
  obtain ⟨_, _, pathStep, -⟩ := Program.succeeds_bind.mp rest
  obtain ⟨pathOk, rfl⟩ := Program.succeeds_liftExcept.mp pathStep
  have enclosed := enclosed_of_validateIamPath pathOk
  obtain ⟨policy, stored, named, reported⟩ := succeeds_handleCreatePolicy handles
  obtain ⟨⟨account, name⟩, path⟩ : (policy.accountId = request.accountId ∧
      policy.policyName = payload.policyName) ∧
        policy.policyPath = some (normalizePolicyPath payload.path) := by
    simpa only [IamDatabase.isPolicyNamed, Bool.and_eq_true, decide_eq_true_eq] using named
  refine ⟨policy, stored, account, name, path, reported, ?_⟩
  have arn : response.1.arn =
      policyArn policy.accountId (normalizePolicyPath payload.path) policy.policyName := by
    rw [reported]
    change policyArn policy.accountId (normalizePolicyPath policy.policyPath) _ = _
    rw [path, normalizePolicyPath_enclosed enclosed]
  rw [arn, account, name, ← parsePolicyArn_policyArn_iff enclosed
    (ne_nil_of_validateIamName nameOk) (not_mem_of_validateIamName nameOk (by decide +kernel))
    (not_mem_of_validateIamName nameOk (by decide +kernel))]
  exact ⟨fun works => works.names, worksByArn_of_names⟩

/-! ### Two policies that cannot be named -/

/-- A request to create a policy under a path. -/
def createReadOnlyRequest (path : Text) : ResolvedRequest where
  requestId := "request"
  request := {
    host := "localhost"
    method := "POST"
    path := "/"
    query := none
    headers := fun name =>
      if name = "content-type" then some "application/x-www-form-urlencoded" else none
    body := Text.utf8 (("Action=CreatePolicy&PolicyName=readonly&Path=" : Text) ++ path ++
      "&PolicyDocument=\x7b\x7d".toList) }
  service := "iam"
  region := "us-east-1"
  authContext := {
    accessKey := "AKIATEST"
    principal := ⟨1, "000000000000", "user", "test", "/", "AIDATEST", 0⟩ }
  date := 0

/-- Such a request, as it is routed.  Every document reads as an object. -/
def routeCreateReadOnly (path : Text) : Routed IamError (IamPolicyXml × Text) × IamDatabase :=
  ((createPolicyAction plainForm (fun _ => .ok true) ⟨"ANPANEW", "AKIANEW", "secret"⟩).route
    (fun _ _ => pure .allow) (createReadOnlyRequest path)).run IamDatabase.serve ordersDatabase

/-- What is answered for a path that is kept. -/
def readOnlyCreated (path : Text) : IamPolicyXml × Text :=
  ({  path := path
      policyName := "readonly"
      defaultVersionId := "v1"
      policyId := "ANPANEW"
      arn := policyArn "000000000000" path "readonly"
      createDate := 0
      updateDate := 0 }, "request")

/-- A policy under `/team/` works by its ARN. -/
theorem createdPolicy_worksByArn_team :
    WorksByArn plainForm ⟨"000000000000", "/team/", "readonly"⟩
      "arn:aws:iam::000000000000:policy/team/readonly" := by
  have answered : routeCreateReadOnly "/team/" =
      (.answered (readOnlyCreated "/team/"), (routeCreateReadOnly "/team/").2) :=
    Prod.ext (by decide +kernel) rfl
  have decoded : (createPolicyAction plainForm (fun _ => .ok true)
      ⟨"ANPANEW", "AKIANEW", "secret"⟩).parse (createReadOnlyRequest "/team/").request =
        .ok ⟨some "/team/", "\x7b\x7d", "readonly"⟩ := by
    decide +kernel
  obtain ⟨policy, -, account, name, -, -, works⟩ := createdPolicy_worksByArn_iff decoded answered
  have arn : (readOnlyCreated "/team/").1.arn =
      ("arn:aws:iam::000000000000:policy/team/readonly" : Text) := by
    decide +kernel
  have path : normalizePolicyPath (some "/team/") = ("/team/" : Text) := by decide +kernel
  rw [arn, account, name, path] at works
  exact works.mpr ⟨by decide +kernel, by decide +kernel, by decide +kernel, by decide +kernel⟩

/-- Both paths are accepted.  The ARN of the first policy cannot be taken apart, and that
of the second is taken apart into another path. -/
theorem createdPolicy_lost :
    (routeCreateReadOnly "/team:a/").1 = .answered (readOnlyCreated "/team:a/") ∧
    (parsePolicyArn (readOnlyCreated "/team:a/").1.arn).toOption = none ∧
    (routeCreateReadOnly "//team/").1 = .answered (readOnlyCreated "//team/") ∧
    (parsePolicyArn (readOnlyCreated "//team/").1.arn).toOption =
      some ⟨"000000000000", "/team/", "readonly"⟩ ∧
    (routeCreateReadOnly "/team/").1 = .answered (readOnlyCreated "/team/") ∧
    (readOnlyCreated "//team/").1.arn = (readOnlyCreated "/team/").1.arn := by
  refine ⟨?_, ?_, ?_, ?_, ?_, ?_⟩ <;> decide +kernel

end Hiraeth
