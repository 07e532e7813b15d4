import Hiraeth.Core.PolicyDocument
import Hiraeth.Iam.PolicyNames
import Hiraeth.Sts.GetCallerIdentity

/-!
# User ARNs as principals

A policy of a resource names its principals by ARNs.  The parser of principals takes
everything after `user/` for the name of a user, and the authorizer names its caller by
account and name alone, so the path of a user is lost on one side and kept on the other.

## Main definitions

* `namingStatement` — a statement whose principal is an ARN
* `NamedByArn` — the ARN is accepted as a principal and stands for one user among others
* `ReportedArn` — the ARNs under which a user is told about itself

## Main results

* `parsePrincipal_userArn` — what a user ARN is read as
* `createdUser_namedByArn_iff` — the ARN of a created user stands for that user exactly
  when the path is the root and the account is a plain number
-/

namespace Hiraeth

open Interaction

/-! ### Patterns without wildcards -/

/-- Every text fits itself. -/
theorem wildcardMatch_self (pattern : Text) : wildcardMatch pattern pattern = true := by
  refine (wildcardMatch_iff pattern pattern).mpr (Glob.mem_language_map ?_ pattern)
  intro c
  unfold globToken
  split
  · exact trivial
  · exact ⟨_, rfl⟩
  · exact rfl

theorem globToken_literal {c : Char} (star : c ≠ '*') (mark : c ≠ '?') :
    globToken c = .literal c := by
  unfold globToken
  split
  · exact absurd rfl star
  · exact absurd rfl mark
  · rfl

/-- A pattern without wildcards fits itself alone. -/
theorem wildcardMatch_plain {pattern value : Text} (star : '*' ∉ pattern) (mark : '?' ∉ pattern) :
    wildcardMatch pattern value = true ↔ value = pattern := by
  have literals : pattern.map globToken = pattern.map Glob.Token.literal := by
    refine List.map_congr_left ?_
    intro c member
    refine globToken_literal ?_ ?_
    · rintro rfl
      exact star member
    · rintro rfl
      exact mark member
  rw [wildcardMatch_iff, patternLanguage, literals, Glob.mem_language_literals]

/-- What is no wildcard occurs in every text that fits. -/
theorem mem_of_wildcardMatch {pattern value : Text} (fits : wildcardMatch pattern value = true)
    {c : Char} (star : c ≠ '*') (mark : c ≠ '?') (member : c ∈ pattern) : c ∈ value := by
  refine Glob.mem_of_literal_mem ((wildcardMatch_iff pattern value).mp fits) ?_
  rw [← globToken_literal star mark]
  exact List.mem_map_of_mem member

/-! ### Reading the ARN of a user -/

theorem splitN_piece {separator : Char} {piece : Text} (plain : separator ∉ piece) (rest : Text)
    (count : ℕ) :
    splitN separator (count + 2) (piece ++ separator :: rest) =
      piece :: splitN separator (count + 1) rest := by
  rw [splitN, splitOnce, Separated.splitFirst_append plain]

/-- The resource field of a user ARN. -/
def userResource (path userName : Text) : Text := ("user" : Text) ++ path ++ userName

/-- The pieces of a user ARN, cut at its first five colons. -/
theorem splitN_userArn {accountId path userName first rest : Text} (plain : ':' ∉ first)
    (cut : accountId ++ ':' :: userResource (normalizeUserPath path) userName =
      first ++ ':' :: rest) :
    splitN ':' 6 (userArn accountId path userName) =
      [("arn" : Text), ("aws" : Text), ("iam" : Text), [], first, rest] := by
  have lead : ("arn:aws:iam::" : Text) = ("arn" : Text) ++ ':' :: (("aws" : Text) ++
      ':' :: (("iam" : Text) ++ ':' :: ([] ++ [':']))) := by
    decide +kernel
  have user : (":user" : Text) = ':' :: ("user" : Text) := by decide +kernel
  have pieces : ':' ∉ ("arn" : Text) ∧ ':' ∉ ("aws" : Text) ∧ ':' ∉ ("iam" : Text) := by
    decide +kernel
  have joined {arn aws iam : Text} : arn ++ ':' :: (aws ++ ':' :: (iam ++
        ':' :: (([] : Text) ++ [':']))) ++ accountId ++ ':' :: ("user" : Text) ++
          normalizeUserPath path ++ userName =
      arn ++ ':' :: (aws ++ ':' :: (iam ++ ':' :: (([] : Text) ++ ':' :: (accountId ++
        ':' :: userResource (normalizeUserPath path) userName)))) := by
    unfold userResource
    generalize ("user" : Text) = resource
    simp only [List.append_assoc, List.cons_append, List.nil_append]
  unfold userArn
  rw [lead, user, joined, cut, splitN_piece pieces.1, splitN_piece pieces.2.1,
    splitN_piece pieces.2.2, splitN_piece List.not_mem_nil, splitN_piece plain]
  rfl

/-- A user ARN is read by its account field and its resource. -/
theorem parsePrincipal_of_pieces {accountId path userName first rest : Text} (plain : ':' ∉ first)
    (cut : accountId ++ ':' :: userResource (normalizeUserPath path) userName =
      first ++ ':' :: rest) :
    parsePrincipal (userArn accountId path userName) =
      if !isAccountIdPattern first then
        .error (("invalid account id in principal ARN: '" : Text) ++
          userArn accountId path userName ++ "'".toList)
      else parseIamPrincipal first rest := by
  obtain ⟨tail, spelled⟩ : ∃ tail, userArn accountId path userName = 'a' :: tail := ⟨_, rfl⟩
  have notAny : userArn accountId path userName ≠ ("*" : Text) := by
    rw [spelled]
    intro same
    exact absurd (List.cons.inj same).1 (by decide)
  have notAccount : ¬ isAccountIdPattern (userArn accountId path userName) = true := by
    rw [spelled]
    intro pattern
    simp [isAccountIdPattern] at pattern
  have service : ("iam" : Text) = ("iam" : Text) := rfl
  have lead : ¬ ("arn" : Text) ≠ ("arn" : Text) := not_not.mpr rfl
  unfold parsePrincipal
  rw [if_neg notAny, if_neg notAccount, splitN_userArn plain cut]
  dsimp only
  rw [if_neg lead, if_pos service]

/-- A normalised path begins with a slash. -/
theorem normalizeUserPath_eq_cons (path : Text) :
    normalizeUserPath path = '/' :: (normalizeUserPath path).tail := by
  unfold normalizeUserPath
  dsimp only
  split_ifs
  · rfl
  · rfl

theorem colon_not_mem_of_isAccountIdPattern {accountId : Text}
    (pattern : isAccountIdPattern accountId = true) : ':' ∉ accountId := by
  intro member
  have all := (Bool.and_eq_true_iff.mp pattern).2
  exact absurd (List.all_eq_true.mp all ':' member) (by decide)

/-- **What a user ARN is read as.**  The path stays in front of the name. -/
theorem parsePrincipal_userArn {accountId : Text} (pattern : isAccountIdPattern accountId = true)
    (path userName : Text) :
    parsePrincipal (userArn accountId path userName) =
      .ok (.user accountId ((normalizeUserPath path).tail ++ userName)) := by
  have plain := colon_not_mem_of_isAccountIdPattern pattern
  rw [parsePrincipal_of_pieces plain rfl, pattern, Bool.not_true, if_neg Bool.false_ne_true]
  have spelled : userResource (normalizeUserPath path) userName =
      ("user/" : Text) ++ ((normalizeUserPath path).tail ++ userName) := by
    unfold userResource
    rw [normalizeUserPath_eq_cons, List.tail_cons]
    generalize (normalizeUserPath path).tail = tail
    rfl
  have notRoot : userResource (normalizeUserPath path) userName ≠ ("root" : Text) := by
    rw [spelled]
    intro same
    exact absurd (List.cons.inj same).1 (by decide)
  unfold parseIamPrincipal
  rw [if_neg notRoot, stripPrefix_eq_some.mpr spelled]

/-- When the account has a colon, the ARN is cut in the wrong place and what it is read as
does not fit the user. -/
theorem not_matches_of_colon {accountId path userName : Text} (colon : ':' ∈ accountId)
    (plainName : ':' ∉ userName) {pattern : PolicyPrincipal}
    (accepted : parsePrincipal (userArn accountId path userName) = .ok pattern) :
    ¬ principalMatchesPattern pattern (.user accountId userName) = true := by
  intro fits
  obtain ⟨first, post, cut, plain⟩ := List.eq_append_cons_of_mem colon
  have whole : accountId ++ ':' :: userResource (normalizeUserPath path) userName =
      first ++ ':' :: (post ++ ':' :: userResource (normalizeUserPath path) userName) := by
    rw [cut, List.append_assoc, List.cons_append]
  have inside : ':' ∈ post ++ ':' :: userResource (normalizeUserPath path) userName :=
    List.mem_append_right _ List.mem_cons_self
  rw [parsePrincipal_of_pieces plain whole] at accepted
  generalize post ++ ':' :: userResource (normalizeUserPath path) userName = rest at *
  by_cases account : (!isAccountIdPattern first) = true
  · rw [if_pos account] at accepted
    cases accepted
  rw [if_neg account] at accepted
  unfold parseIamPrincipal at accepted
  have notRoot : rest ≠ ("root" : Text) := by
    rintro rfl
    exact absurd inside (by decide +kernel)
  rw [if_neg notRoot] at accepted
  cases asUser : stripPrefix "user/" rest with
  | some name =>
      rw [asUser] at accepted
      cases accepted
      have spelled := stripPrefix_eq_some.mp asUser
      have later : ':' ∈ name := by
        rw [spelled, List.mem_append] at inside
        exact inside.resolve_left (by decide +kernel)
      have named := (Bool.and_eq_true_iff.mp fits).2
      exact plainName (mem_of_wildcardMatch named (by decide) (by decide) later)
  | none =>
      rw [asUser] at accepted
      cases asRole : stripPrefix "role/" rest with
      | none =>
          rw [asRole] at accepted
          cases accepted
      | some name =>
          rw [asRole] at accepted
          cases accepted
          exact Bool.false_ne_true fits

/-! ### Statements that name a user -/

/-- A statement whose one principal is given by an ARN. -/
def namingStatement (effect action resource arn : Text) : Json :=
  .object [(("Effect" : Text), .string effect), (("Action" : Text), .string action),
    (("Resource" : Text), .string resource),
    (("Principal" : Text), .object [(("AWS" : Text), .string arn)])]

theorem deserializePrincipals_aws (arn : Text) :
    deserializePrincipals (.object [(("AWS" : Text), .string arn)]) =
      ((parsePrincipal arn).mapError fun error =>
        ("failed to parse AWS principal: " : Text) ++ error).map fun pattern => [pattern] := by
  have decoded : decodePrincipalMap (.object [(("AWS" : Text), .string arn)]) = .ok ([arn], []) :=
    rfl
  have mapped : [arn].mapM parsePrincipal = (parsePrincipal arn).map fun pattern => [pattern] := by
    rw [List.mapM_cons, List.mapM_nil]
    cases parsePrincipal arn <;> rfl
  unfold deserializePrincipals
  rw [decoded]
  change (([arn].mapM parsePrincipal).mapError _ >>= fun _ => _) = _
  rw [mapped]
  cases parsePrincipal arn <;> rfl

/-- Such a statement is accepted exactly when the ARN is. -/
theorem decodePolicyStatement_naming {effect action resource arn : Text}
    {statement : PolicyStatement} :
    decodePolicyStatement (namingStatement effect action resource arn) = .ok statement ↔
      ∃ pattern, parsePrincipal arn = .ok pattern ∧
        statement = ⟨effect, [action], [resource], [pattern]⟩ := by
  let members : Fields := [(("Effect" : Text), .string effect),
    (("Action" : Text), .string action), (("Resource" : Text), .string resource),
    (("Principal" : Text), .object [(("AWS" : Text), .string arn)])]
  have read : Json.readFields "PolicyStatement" [⟨"Effect", false⟩, ⟨"Action", false⟩,
      ⟨"Resource", false⟩, ⟨"Principal", true⟩] (.object members) = .ok members := rfl
  have effectField : members.required "Effect" Json.asText = .ok effect := rfl
  have actionField : members.required "Action" decodeOneOrMany = .ok [action] := rfl
  have resourceField : members.required "Resource" decodeOneOrMany = .ok [resource] := rfl
  have principalField : members.defaulted "Principal" [] deserializeOptionalPrincipals =
      ((deserializePrincipals (.object [(("AWS" : Text), .string arn)])).map some).map
        (·.getD []) := rfl
  have decoded : decodePolicyStatement (namingStatement effect action resource arn) =
      (deserializePrincipals (.object [(("AWS" : Text), .string arn)])).map fun principal =>
        ⟨effect, [action], [resource], principal⟩ := by
    unfold decodePolicyStatement
    change (Json.readFields _ _ (.object members) >>= _) = _
    rw [read, ok_bind, effectField, ok_bind, actionField, ok_bind, resourceField, ok_bind,
      principalField]
    cases deserializePrincipals (.object [(("AWS" : Text), .string arn)]) <;> rfl
  rw [decoded, deserializePrincipals_aws]
  cases parsePrincipal arn with
  | error failure => simp [Except.map, Except.mapError]
  | ok pattern => simp [Except.map, Except.mapError, eq_comm]

/-- The statement names the caller of the request. -/
def PolicyStatement.Names (statement : PolicyStatement) (request : ResolvedRequest) : Prop :=
  ∃ principal, policyPrincipalFromRequest request = some principal ∧
    ∃ pattern ∈ statement.principal, principalMatchesPattern pattern principal = true

/-- The same account, path and name. -/
structure SameUser (left right : Principal) : Prop where
  accountId : left.accountId = right.accountId
  path : left.path = right.path
  name : left.name = right.name

/-- **The ARN stands for one user among others.**  A statement whose principal it is is
accepted, names the user in every request, and names no other user of `callers`. -/
structure NamedByArn (callers : Set Principal) (user : Principal) (arn : Text) : Prop where
  accepted : ∀ effect action resource, ∃ statement,
    decodePolicyStatement (namingStatement effect action resource arn) = .ok statement
  names : ∀ effect action resource statement,
    decodePolicyStatement (namingStatement effect action resource arn) = .ok statement →
    ∀ request : ResolvedRequest, request.authContext.principal = user → statement.Names request
  namesNoOther : ∀ effect action resource statement,
    decodePolicyStatement (namingStatement effect action resource arn) = .ok statement →
    ∀ request : ResolvedRequest, request.authContext.principal ∈ callers →
    request.authContext.principal.kind = "user" →
    ¬ SameUser request.authContext.principal user → ¬ statement.Names request

section Names

variable {effect action resource : Text} {pattern : PolicyPrincipal} {request : ResolvedRequest}

/-- Whom a statement with one principal names. -/
theorem names_singleton_iff (isUser : request.authContext.principal.kind = "user") :
    (⟨effect, [action], [resource], [pattern]⟩ : PolicyStatement).Names request ↔
      principalMatchesPattern pattern (.user request.authContext.principal.accountId
        request.authContext.principal.name) = true := by
  unfold PolicyStatement.Names policyPrincipalFromRequest
  rw [if_pos isUser]
  constructor
  · rintro ⟨principal, same, other, member, fits⟩
    cases same
    rwa [List.mem_singleton.mp member] at fits
  · intro fits
    exact ⟨_, rfl, pattern, List.mem_singleton.mpr rfl, fits⟩

end Names

/-! ### Normalised paths -/

/-- Nothing that is dropped is left at the ends. -/
theorem trimBy_trimBy (drop : Char → Bool) (text : Text) :
    trimBy drop (trimBy drop text) = trimBy drop text := by
  refine trimBy_eq_self_iff.mpr ⟨?_, ?_⟩
  · intro c first
    have ahead : (trimBy drop text) <+: text.dropWhile drop := by
      rw [← List.reverse_suffix, trimBy, List.reverse_reverse]
      exact List.dropWhile_suffix drop
    obtain ⟨rest, split⟩ := ahead
    have front : c ∈ (text.dropWhile drop).head? := by
      rw [← split, List.head?_append, Option.mem_def.mp first]
      rfl
    by_contra dropped
    have kept := List.head?_dropWhile_not drop text
    rw [Option.mem_def.mp front] at kept
    simp only [Bool.not_eq_false] at dropped kept
    rw [dropped] at kept
    exact Bool.false_ne_true kept.symm
  · intro c last
    rw [trimBy, List.getLast?_reverse] at last
    by_contra dropped
    have kept := List.head?_dropWhile_not drop (text.dropWhile drop).reverse
    rw [Option.mem_def.mp last] at kept
    simp only [Bool.not_eq_false] at dropped kept
    rw [dropped] at kept
    exact Bool.false_ne_true kept.symm

/-- Normalising twice is normalising once. -/
theorem normalizeUserPath_normalizeUserPath (path : Text) :
    normalizeUserPath (normalizeUserPath path) = normalizeUserPath path := by
  by_cases root : trim path = [] ∨ trim path = "/"
  · have spelled : normalizeUserPath path = "/" := by
      unfold normalizeUserPath
      dsimp only
      rw [if_pos root]
    rw [spelled, normalizeUserPath_root]
  · have spelled : normalizeUserPath path = '/' :: (trimMatches '/' (trim path) ++ ['/']) := by
      unfold normalizeUserPath
      dsimp only
      rw [if_neg root]
    rw [spelled]
    refine (normalizeUserPath_eq_self_iff _).mpr ?_
    have ends := trimBy_eq_self_iff.mp (trimBy_trimBy (fun c => decide (c = '/')) (trim path))
    refine ⟨?_, ?_⟩
    · intro slash
      exact absurd (ends.1 '/' slash) (by decide)
    · intro slash
      exact absurd (ends.2 '/' slash) (by decide)

/-- Behind its first slash a normalised path is empty or ends with another. -/
theorem slash_mem_tail_normalizeUserPath {path : Text} (inner : normalizeUserPath path ≠ "/") :
    '/' ∈ (normalizeUserPath path).tail := by
  revert inner
  unfold normalizeUserPath
  dsimp only
  split_ifs
  · intro inner
    exact absurd rfl inner
  · intro _
    rw [List.tail_cons]
    exact List.mem_append_right _ (List.mem_singleton.mpr rfl)

/-! ### Which ARNs stand for a user -/

/-- What a name may have neither of. -/
structure PlainName (name : Text) : Prop where
  colon : ':' ∉ name
  slash : '/' ∉ name
  star : '*' ∉ name
  mark : '?' ∉ name

section Stand

variable {user : Principal}

/-- The pattern a user ARN is read as fits the user exactly at the root. -/
theorem matches_own_iff {accountId path userName : Text} (plain : PlainName userName)
    {pattern : PolicyPrincipal}
    (accepted : parsePrincipal (userArn accountId path userName) = .ok pattern) :
    principalMatchesPattern pattern (.user accountId userName) = true ↔
      isAccountIdPattern accountId = true ∧ normalizeUserPath path = "/" := by
  constructor
  · intro fits
    have plainAccount : ':' ∉ accountId := by
      intro colon
      exact not_matches_of_colon colon plain.colon accepted fits
    have account : isAccountIdPattern accountId = true := by
      by_contra other
      rw [parsePrincipal_of_pieces plainAccount rfl, if_pos (by simpa using other)] at accepted
      cases accepted
    refine ⟨account, ?_⟩
    rw [parsePrincipal_userArn account] at accepted
    cases accepted
    by_contra inner
    have named := (Bool.and_eq_true_iff.mp fits).2
    -- the slash that ends the path would have to be part of the name
    refine plain.slash (mem_of_wildcardMatch named (by decide) (by decide) ?_)
    exact List.mem_append_left _ (slash_mem_tail_normalizeUserPath inner)
  · rintro ⟨account, root⟩
    rw [parsePrincipal_userArn account, root] at accepted
    cases accepted
    exact Bool.and_eq_true_iff.mpr ⟨wildcardMatch_self accountId, wildcardMatch_self userName⟩

/-- **A user ARN stands for its user among others exactly when** the account is a pattern of
account numbers, the path is the root, and no other caller has the name in an account that
fits. -/
theorem namedByArn_userArn_iff {callers : Set Principal} (isUser : user.kind = "user")
    (plain : PlainName user.name) (normal : normalizeUserPath user.path = user.path) :
    NamedByArn callers user (userArn user.accountId user.path user.name) ↔
      isAccountIdPattern user.accountId = true ∧ user.path = "/" ∧
      ∀ caller ∈ callers, caller.kind = "user" →
        wildcardMatch user.accountId caller.accountId = true → caller.name = user.name →
        SameUser caller user := by
  have requestOf (principal : Principal) : ∃ request : ResolvedRequest,
      request.authContext.principal = principal :=
    ⟨⟨[], ⟨[], [], [], none, fun _ => none, []⟩, [], [], ⟨[], principal⟩, 0⟩, rfl⟩
  constructor
  · intro named
    obtain ⟨statement, accepted⟩ := named.accepted [] [] []
    obtain ⟨pattern, parsed, rfl⟩ := decodePolicyStatement_naming.mp accepted
    obtain ⟨request, byUser⟩ := requestOf user
    have own := named.names [] [] [] _ accepted request byUser
    rw [names_singleton_iff (by rw [byUser, isUser]), byUser] at own
    obtain ⟨account, root⟩ := (matches_own_iff plain parsed).mp own
    rw [normal] at root
    refine ⟨account, root, ?_⟩
    intro caller member kind fits sameName
    by_contra different
    obtain ⟨request', byCaller⟩ := requestOf caller
    refine named.namesNoOther [] [] [] _ accepted request' (by rwa [byCaller])
      (by rwa [byCaller]) (by rwa [byCaller]) ?_
    rw [names_singleton_iff (by rw [byCaller, kind]), byCaller]
    rw [parsePrincipal_userArn account, normal, root] at parsed
    cases parsed
    rw [sameName]
    exact Bool.and_eq_true_iff.mpr ⟨fits, wildcardMatch_self user.name⟩
  · rintro ⟨account, root, alone⟩
    have parsed : parsePrincipal (userArn user.accountId user.path user.name) =
        .ok (.user user.accountId user.name) := by
      rw [parsePrincipal_userArn account, normal, root]
      rfl
    refine ⟨?_, ?_, ?_⟩
    · intro effect action resource
      exact ⟨_, decodePolicyStatement_naming.mpr ⟨_, parsed, rfl⟩⟩
    · intro effect action resource statement accepted request byUser
      obtain ⟨pattern, read, rfl⟩ := decodePolicyStatement_naming.mp accepted
      rw [names_singleton_iff (by rw [byUser, isUser]), byUser]
      exact (matches_own_iff plain read).mpr ⟨account, by rw [normal, root]⟩
    · intro effect action resource statement accepted request member kind different names
      obtain ⟨pattern, read, rfl⟩ := decodePolicyStatement_naming.mp accepted
      rw [names_singleton_iff kind] at names
      rw [parsed] at read
      cases read
      obtain ⟨fits, named⟩ := Bool.and_eq_true_iff.mp names
      exact different (alone _ member kind fits
        ((wildcardMatch_plain plain.star plain.mark).mp named))

end Stand

/-! ### Created users -/

theorem serve_createPrincipal (principal : NewPrincipal) (database : IamDatabase) :
    IamDatabase.serve (.createPrincipal principal) database =
      database.createPrincipal principal := rfl

/-- What the handler of `CreateUser` leaves behind and answers. -/
theorem succeeds_handleCreateUser {generated : Generated} {request : ResolvedRequest}
    {payload : CreateUserRequest} {database final : IamDatabase} {response : IamUserXml × Text}
    (succeeds : Program.Succeeds IamDatabase.serve (handleCreateUser generated request payload)
      database response final) :
    ∃ user ∈ final.principals.rows, user.accountId = request.accountId ∧ user.kind = "user" ∧
      user.name = payload.userName ∧ user.path = normalizeUserPath payload.path ∧
      response.1 = .ofPrincipal user := by
  unfold handleCreateUser at succeeds
  obtain ⟨created, between, inserted, answered⟩ := Program.succeeds_bind.mp succeeds
  obtain ⟨rfl, rfl⟩ := Program.succeeds_pure.mp answered
  have inserting := Program.succeeds_orFail.mp inserted
  rw [run_iamCall, serve_createPrincipal] at inserting
  unfold IamDatabase.createPrincipal at inserting
  dsimp only at inserting
  split_ifs at inserting with sameId sameName
  · cases inserting
  · cases inserting
  · cases inserting
    exact ⟨_, List.mem_append_right _ List.mem_cons_self, rfl, rfl, rfl, rfl, rfl⟩

/-- **The ARNs under which a user is reported**: when it is created, and when it asks who it
is while it is stored. -/
inductive ReportedArn (parse : FormParser) (created : IamUserXml × Text) (user : Principal) :
    Text → Prop
  | atCreation : ReportedArn parse created user created.1.arn
  | identified {request : ResolvedRequest} {database final : IamDatabase}
      {identity : GetCallerIdentityResponse} (byUser : request.authContext.principal = user)
      (valid : database.Valid) (stored : user ∈ database.principals.rows)
      (answered : Program.Succeeds IamDatabase.serve
        ((getCallerIdentityAction parse).adaptedHandle request) database identity final) :
      ReportedArn parse created user identity.arn

/-- Both are the ARN of the row. -/
theorem ReportedArn.eq_userArn {parse : FormParser} {created : IamUserXml × Text}
    {user : Principal} {arn : Text} (isUser : user.kind = "user")
    (row : created.1 = .ofPrincipal user) (reported : ReportedArn parse created user arn) :
    arn = userArn user.accountId user.path user.name := by
  cases reported with
  | atCreation => rw [row, IamUserXml.ofPrincipal]
  | @identified request database final identity byUser valid stored answered =>
      unfold TypedAwsAction.adaptedHandle at answered
      obtain ⟨payload, between, parsed, handled⟩ := Program.succeeds_bind.mp answered
      obtain ⟨-, rfl⟩ := Program.succeeds_liftExcept.mp parsed
      obtain ⟨found, looked, arn⟩ := @getCallerIdentity_arn _ _ _ payload _ _ _ handled
      have answer : IamDatabase.serve (.getPrincipalByIdentity request.accountId "user"
          request.authContext.principal.name) database = (.ok (some user), database) := by
        have known := IamDatabase.getPrincipalByIdentity_of_mem valid stored
        rw [isUser] at known
        rw [ResolvedRequest.accountId, byUser, ← known]
        rfl
      rw [answer] at looked
      cases looked
      rw [arn, ResolvedRequest.accountId, byUser]

/-- An accepted user name is plain. -/
theorem plainName_of_validateUserName {userName : Text}
    (accepted : validateUserName userName = .ok ()) : PlainName userName where
  colon := not_mem_of_validateIamName accepted (by decide +kernel)
  slash := not_mem_of_validateIamName accepted (by decide +kernel)
  star := not_mem_of_validateIamName accepted (by decide +kernel)
  mark := not_mem_of_validateIamName accepted (by decide +kernel)

/-- **The ARNs under which a created user is reported stand for it among others exactly
when** the account is a pattern of account numbers, the path is the root, and every caller of
that name whose account fits has the same account and the root for its path. -/
theorem createdUser_namedByArn_iff {parse : FormParser} {generated : Generated}
    {authorize : ResolvedRequest → AuthorizationCheck → IamProgram AuthorizationResult}
    {request : ResolvedRequest} {payload : CreateUserRequest} {database final : IamDatabase}
    {response : IamUserXml × Text}
    (decoded : (createUserAction parse generated).parse request.request = .ok payload)
    (answered : ((createUserAction parse generated).route authorize request).run
      IamDatabase.serve database = (.answered response, final)) :
    ∃ user ∈ final.principals.rows, user.accountId = request.accountId ∧ user.kind = "user" ∧
      user.name = payload.userName ∧ user.path = normalizeUserPath payload.path ∧
      ∀ arn, ReportedArn parse response user arn → ∀ callers : Set Principal,
        NamedByArn callers user arn ↔
          isAccountIdPattern request.accountId = true ∧ normalizeUserPath payload.path = "/" ∧
          ∀ caller ∈ callers, caller.kind = "user" →
            wildcardMatch request.accountId caller.accountId = true →
            caller.name = payload.userName →
            caller.accountId = request.accountId ∧ caller.path = "/" := by
  obtain ⟨check, resolved, decided, validated, -, -, validates, handles⟩ :=
    (TypedAwsAction.route_answered _).mp answered
  unfold TypedAwsAction.adaptedValidate at validates
  unfold TypedAwsAction.adaptedHandle at handles
  rw [decoded, Program.liftExcept_ok_bind] at validates handles
  obtain ⟨_, _, nameStep, -⟩ := Program.succeeds_bind.mp validates
  obtain ⟨nameOk, rfl⟩ := Program.succeeds_liftExcept.mp nameStep
  obtain ⟨user, stored, account, isUser, name, path, row⟩ := succeeds_handleCreateUser handles
  refine ⟨user, stored, account, isUser, name, path, ?_⟩
  intro arn reported callers
  have plain : PlainName user.name := by
    rw [name]
    exact plainName_of_validateUserName nameOk
  have normal : normalizeUserPath user.path = user.path := by
    rw [path, normalizeUserPath_normalizeUserPath]
  rw [reported.eq_userArn isUser row, namedByArn_userArn_iff isUser plain normal, account, name,
    path]
  refine and_congr_right fun _ => and_congr_right fun root => ?_
  constructor
  · intro alone caller member kind fits sameName
    have same := alone caller member kind fits sameName
    exact ⟨same.accountId.trans account, same.path.trans (path.trans root)⟩
  · intro alone caller member kind fits sameName
    obtain ⟨sameAccount, atRoot⟩ := alone caller member kind fits sameName
    exact ⟨sameAccount.trans account.symm, atRoot.trans (path.trans root).symm,
      sameName.trans name.symm⟩

/-! ### Two users -/

/-- A request to create the user `alice` under a path. -/
def createAliceRequest (path : Text) : ResolvedRequest :=
  { createReadOnlyRequest "/" with
    request := { (createReadOnlyRequest "/").request with
      body := Text.utf8 (("Action=CreateUser&UserName=alice&Path=" : Text) ++ path) } }

/-- Such a request, as it is routed. -/
def routeCreateAlice (path : Text) : Routed IamError (IamUserXml × Text) × IamDatabase :=
  ((createUserAction plainForm ⟨"AIDANEW", "AKIANEW", "secret"⟩).route
    (fun _ _ => pure .allow) (createAliceRequest path)).run IamDatabase.serve ordersDatabase

/-- What is answered for a normalised path. -/
def aliceCreated (path : Text) : IamUserXml × Text :=
  ({  path := path
      userName := "alice"
      userId := "AIDANEW"
      arn := userArn "000000000000" path "alice"
      createDate := 0 }, "request")

/-- A user at the root is named by its ARN among the stored users. -/
theorem createdUser_namedByArn_root :
    ∃ user ∈ (routeCreateAlice "/").2.principals.rows, user.name = "alice" ∧
      NamedByArn {caller | caller ∈ (routeCreateAlice "/").2.principals.rows} user
        "arn:aws:iam::000000000000:user/alice" := by
  have answered : routeCreateAlice "/" =
      (.answered (aliceCreated "/"), (routeCreateAlice "/").2) :=
    Prod.ext (by decide +kernel) rfl
  have decoded : (createUserAction plainForm ⟨"AIDANEW", "AKIANEW", "secret"⟩).parse
      (createAliceRequest "/").request = .ok ⟨"alice", "/", none⟩ := by
    decide +kernel
  obtain ⟨user, stored, -, -, name, -, works⟩ := createdUser_namedByArn_iff decoded answered
  have arn : (aliceCreated "/").1.arn = ("arn:aws:iam::000000000000:user/alice" : Text) := by
    decide +kernel
  have rows : (routeCreateAlice "/").2.principals.rows =
      [⟨1, "000000000000", "user", "test", "/", "AIDATEST", 0⟩,
        ⟨2, "000000000000", "user", "alice", "/", "AIDANEW", 0⟩] := by
    decide +kernel
  refine ⟨user, stored, name, ?_⟩
  rw [← arn]
  refine (works _ .atCreation _).mpr ⟨by decide +kernel, by decide +kernel, ?_⟩
  intro caller member _ _ _
  rw [Set.mem_ofPred_eq, rows] at member
  rcases List.mem_cons.mp member with rfl | later
  · exact ⟨rfl, rfl⟩
  · rw [List.mem_singleton.mp later]
    exact ⟨rfl, rfl⟩

/-- A user under a path is created and reported, the parser of principals accepts the ARN,
and what it is read as does not fit the user. -/
theorem createdUser_not_named :
    (routeCreateAlice "/team/").1 = .answered (aliceCreated "/team/") ∧
    (parsePrincipal (aliceCreated "/team/").1.arn).toOption =
      some (.user "000000000000" "team/alice") ∧
    principalMatchesPattern (.user "000000000000" "team/alice") (.user "000000000000" "alice") =
      false := by
  refine ⟨?_, ?_, ?_⟩ <;> decide +kernel

end Hiraeth
