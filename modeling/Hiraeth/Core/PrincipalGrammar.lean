import Hiraeth.Core.PolicyDocument

/-!
# The grammar of principals

Principals are written as `*`, as accounts, or as ARNs of users, roles and sessions.  The member
of a statement that holds them is a string or a map with one or many of them.

## Main definitions

* `PrincipalText` — how a principal is written
* `PrincipalMember` — how the principals of a statement are written

## Main results

* `parsePrincipal_eq_ok` — the parser accepts what the grammar allows
* `principals_grammar` — so does the decoder of the member
-/

namespace Hiraeth

open Interaction

/-- **The pattern of an account**: digits and wildcards. -/
def AccountPattern (value : Text) : Prop :=
  value ≠ [] ∧ ∀ c ∈ value, c.isDigit = true ∨ c = '*' ∨ c = '?'

/-- The ARN of a principal. -/
def principalArn (partition service region accountId resource : Text) : Text :=
  ("arn" : Text) ++ ':' :: (partition ++ ':' :: (service ++ ':' :: (region ++
    ':' :: (accountId ++ ':' :: resource))))

/-- **How a principal is written.** -/
inductive PrincipalText : Text → PolicyPrincipal → Prop
  | any : PrincipalText "*" .any
  | account {pattern : Text} (isPattern : AccountPattern pattern) (special : pattern ≠ ("*" : Text)) :
      PrincipalText pattern (.account pattern)
  | root {partition region accountId : Text} (plainPartition : ':' ∉ partition)
      (plainRegion : ':' ∉ region) (isPattern : AccountPattern accountId) :
      PrincipalText (principalArn partition "iam" region accountId "root") (.account accountId)
  | user {partition region accountId userName : Text} (plainPartition : ':' ∉ partition)
      (plainRegion : ':' ∉ region) (isPattern : AccountPattern accountId) :
      PrincipalText (principalArn partition "iam" region accountId (("user/" : Text) ++ userName))
        (.user accountId userName)
  | role {partition region accountId roleName : Text} (plainPartition : ':' ∉ partition)
      (plainRegion : ':' ∉ region) (isPattern : AccountPattern accountId) :
      PrincipalText (principalArn partition "iam" region accountId (("role/" : Text) ++ roleName))
        (.role accountId roleName)
  | assumedRole {partition region accountId roleName sessionName : Text}
      (plainPartition : ':' ∉ partition) (plainRegion : ':' ∉ region)
      (isPattern : AccountPattern accountId) (plainRole : '/' ∉ roleName) :
      PrincipalText (principalArn partition "sts" region accountId
        (("assumed-role/" : Text) ++ (roleName ++ '/' :: sessionName)))
        (.assumedRole accountId roleName sessionName)

/-- One text or many. -/
inductive Listed : Option Json → List Text → Prop
  | absent : Listed none []
  | null : Listed (some .null) []
  | one {value : Text} : Listed (some (.string value)) [value]
  | many {values : List Text} : Listed (some (.array (values.map .string))) values

/-- A map of principals: the last members of these names, or both in turn. -/
inductive PrincipalMap : Json → Option Json → Option Json → Prop
  | object {members : List (Text × Json)} :
      PrincipalMap (.object members) ((Json.object members).get "AWS")
        ((Json.object members).get "Service")
  | array {aws service : Json} : PrincipalMap (.array [aws, service]) (some aws) (some service)

/-- **How the principals of a statement are written.**  Without a value there are none. -/
inductive PrincipalMember : Json → List PolicyPrincipal → Prop
  | absent : PrincipalMember .null []
  | any : PrincipalMember (.string "*") [.any]
  | map {json : Json} {aws service : Option Json} {values names : List Text}
      {principals : List PolicyPrincipal} (isMap : PrincipalMap json aws service)
      (listedAws : Listed aws values) (listedService : Listed service names)
      (written : List.Forall₂ PrincipalText values principals)
      (nonempty : values ≠ [] ∨ names ≠ []) :
      PrincipalMember json (principals ++ names.map .service)

/-! ### Pieces -/

theorem isAccountIdPattern_iff {value : Text} :
    isAccountIdPattern value = true ↔ AccountPattern value := by
  simp only [isAccountIdPattern, AccountPattern, Bool.and_eq_true, decide_eq_true_iff,
    List.all_eq_true, Bool.or_eq_true, or_assoc]

/-- An account has no colons. -/
theorem AccountPattern.plain {value : Text} (isPattern : AccountPattern value) : ':' ∉ value := by
  intro isColon
  rcases isPattern.2 ':' isColon with digit | star | mark
  · exact absurd digit (by decide)
  · exact absurd star (by decide)
  · exact absurd mark (by decide)

/-- **One more piece** of a text that is split. -/
theorem splitN_eq_cons_cons {separator : Char} {count : ℕ} {text piece next : Text}
    {pieces : List Text} :
    splitN separator (count + 2) text = piece :: next :: pieces ↔
      separator ∉ piece ∧ ∃ rest, text = piece ++ separator :: rest ∧
        splitN separator (count + 1) rest = next :: pieces := by
  rw [splitN]
  cases cut : splitOnce separator text with
  | none =>
      have whole := Separated.splitFirst_eq_none.mp cut
      dsimp only
      constructor
      · intro same
        cases same
      · rintro ⟨-, rest, rfl, -⟩
        exact absurd (List.mem_append_right _ List.mem_cons_self) whole
  | some parts =>
      obtain ⟨before, after⟩ := parts
      obtain ⟨rfl, plain⟩ := Separated.splitFirst_eq_some.mp cut
      dsimp only
      constructor
      · intro same
        obtain ⟨rfl, rest⟩ := List.cons.inj same
        exact ⟨plain, after, rfl, rest⟩
      · rintro ⟨plainPiece, rest, same, split⟩
        obtain ⟨rfl, rfl⟩ := Separated.append_cons_inj plain plainPiece same
        rw [split]

/-- **The pieces of an ARN.**  The last of them holds the rest. -/
theorem splitN_six {value lead partition service region accountId resource : Text} :
    splitN ':' 6 value = [lead, partition, service, region, accountId, resource] ↔
      ':' ∉ lead ∧ ':' ∉ partition ∧ ':' ∉ service ∧ ':' ∉ region ∧ ':' ∉ accountId ∧
        value = lead ++ ':' :: (partition ++ ':' :: (service ++ ':' :: (region ++
          ':' :: (accountId ++ ':' :: resource)))) := by
  have last (text : Text) : splitN ':' 1 text = [resource] ↔ text = resource := by
    rw [splitN]
    exact List.singleton_inj
  simp only [splitN_eq_cons_cons, last]
  constructor
  · rintro ⟨h1, _, rfl, h2, _, rfl, h3, _, rfl, h4, _, rfl, h5, _, rfl, rfl⟩
    exact ⟨h1, h2, h3, h4, h5, rfl⟩
  · rintro ⟨h1, h2, h3, h4, h5, rfl⟩
    exact ⟨h1, _, rfl, h2, _, rfl, h3, _, rfl, h4, _, rfl, h5, _, rfl, rfl⟩

/-- An ARN is neither a wildcard nor an account. -/
theorem principalArn_special (partition service region accountId resource : Text) :
    principalArn partition service region accountId resource ≠ ("*" : Text) ∧
      ¬ isAccountIdPattern (principalArn partition service region accountId resource) = true := by
  obtain ⟨rest, spelled⟩ :
      ∃ rest, principalArn partition service region accountId resource = 'a' :: rest := ⟨_, rfl⟩
  rw [spelled, isAccountIdPattern_iff]
  refine ⟨fun same => absurd (List.cons.inj same).1 (by decide), fun isPattern => ?_⟩
  rcases isPattern.2 'a' List.mem_cons_self with digit | star | mark
  · exact absurd digit (by decide)
  · exact absurd star (by decide)
  · exact absurd mark (by decide)

/-! ### The parser -/

/-- What the parser does with an ARN. -/
theorem parsePrincipal_principalArn {partition service region accountId resource : Text}
    (plainPartition : ':' ∉ partition) (plainService : ':' ∉ service) (plainRegion : ':' ∉ region)
    (isPattern : AccountPattern accountId) :
    parsePrincipal (principalArn partition service region accountId resource) =
      if service = ("iam" : Text) then parseIamPrincipal accountId resource
      else if service = ("sts" : Text) then parseStsPrincipal accountId resource
      else .error (("unsupported service in principal ARN: '" : Text) ++ service ++
        "'".toList) := by
  obtain ⟨notAny, notAccount⟩ :=
    principalArn_special partition service region accountId resource
  have pieces : splitN ':' 6 (principalArn partition service region accountId resource) =
      [("arn" : Text), partition, service, region, accountId, resource] :=
    splitN_six.mpr ⟨by decide, plainPartition, plainService, plainRegion, isPattern.plain, rfl⟩
  have checked : ¬ (!isAccountIdPattern accountId) = true := by
    rw [isAccountIdPattern_iff.mpr isPattern]
    decide
  unfold parsePrincipal
  rw [if_neg notAny, if_neg notAccount, pieces]
  dsimp only
  rw [if_neg (not_not.mpr rfl), if_neg checked]

/-- **The resources of users and roles.** -/
theorem parseIamPrincipal_eq_ok {accountId resource : Text} {principal : PolicyPrincipal} :
    parseIamPrincipal accountId resource = .ok principal ↔
      (resource = ("root" : Text) ∧ principal = .account accountId) ∨
      (∃ userName, resource = ("user/" : Text) ++ userName ∧
        principal = .user accountId userName) ∨
      ∃ roleName, resource = ("role/" : Text) ++ roleName ∧
        principal = .role accountId roleName := by
  have rootUser (rest : Text) : ("root" : Text) ≠ ("user/" : Text) ++ rest := by
    intro same
    exact absurd (List.cons.inj same).1 (by decide)
  have rootRole (rest : Text) : ("root" : Text) ≠ ("role/" : Text) ++ rest := by
    intro same
    exact absurd (List.cons.inj (List.cons.inj (List.cons.inj same).2).2).1 (by decide)
  have userRole (rest rest' : Text) : ("user/" : Text) ++ rest ≠ ("role/" : Text) ++ rest' := by
    intro same
    exact absurd (List.cons.inj same).1 (by decide)
  unfold parseIamPrincipal
  constructor
  · intro parsed
    split_ifs at parsed with isRoot
    · exact Or.inl ⟨isRoot, (Except.ok.inj parsed).symm⟩
    · cases asUser : stripPrefix "user/" resource with
      | some userName =>
          rw [asUser] at parsed
          exact Or.inr (Or.inl ⟨userName, stripPrefix_eq_some.mp asUser,
            (Except.ok.inj parsed).symm⟩)
      | none =>
          cases asRole : stripPrefix "role/" resource with
          | some roleName =>
              rw [asUser, asRole] at parsed
              exact Or.inr (Or.inr ⟨roleName, stripPrefix_eq_some.mp asRole,
                (Except.ok.inj parsed).symm⟩)
          | none =>
              rw [asUser, asRole] at parsed
              cases parsed
  · rintro (⟨rfl, rfl⟩ | ⟨userName, rfl, rfl⟩ | ⟨roleName, rfl, rfl⟩)
    · exact if_pos rfl
    · rw [if_neg (rootUser userName).symm, stripPrefix_eq_some.mpr rfl]
    · have noUser : stripPrefix "user/" (("role/" : Text) ++ roleName) = none := by
        rw [Option.eq_none_iff_forall_ne_some]
        intro userName strips
        exact userRole userName roleName (stripPrefix_eq_some.mp strips).symm
      rw [if_neg (rootRole roleName).symm, noUser, stripPrefix_eq_some.mpr rfl]

/-- **The resources of sessions.** -/
theorem parseStsPrincipal_eq_ok {accountId resource : Text} {principal : PolicyPrincipal} :
    parseStsPrincipal accountId resource = .ok principal ↔
      ∃ roleName sessionName, '/' ∉ roleName ∧
        resource = ("assumed-role/" : Text) ++ (roleName ++ '/' :: sessionName) ∧
          principal = .assumedRole accountId roleName sessionName := by
  unfold parseStsPrincipal
  constructor
  · intro parsed
    split at parsed
    · cases parsed
    · rename_i session strips
      split at parsed
      · rename_i roleName sessionName cut
        obtain ⟨rfl, plain⟩ := Separated.splitFirst_eq_some.mp cut
        exact ⟨roleName, sessionName, plain, stripPrefix_eq_some.mp strips,
          (Except.ok.inj parsed).symm⟩
      · cases parsed
  · rintro ⟨roleName, sessionName, plain, rfl, rfl⟩
    rw [stripPrefix_eq_some.mpr rfl]
    dsimp only
    rw [splitOnce, Separated.splitFirst_append plain]

/-- **The parser accepts exactly what the grammar allows.** -/
theorem parsePrincipal_eq_ok {value : Text} {principal : PolicyPrincipal} :
    parsePrincipal value = .ok principal ↔ PrincipalText value principal := by
  constructor
  · intro parsed
    by_cases isAny : value = ("*" : Text)
    · subst isAny
      obtain rfl := Except.ok.inj parsed
      exact .any
    by_cases isAccount : isAccountIdPattern value = true
    · have isOk : parsePrincipal value = .ok (.account value) := by
        rw [parsePrincipal, if_neg isAny, if_pos isAccount]
      obtain rfl := Except.ok.inj (isOk.symm.trans parsed)
      exact .account (isAccountIdPattern_iff.mp isAccount) isAny
    have whole := parsed
    rw [parsePrincipal, if_neg isAny, if_neg isAccount] at parsed
    split at parsed
    · rename_i lead partition service region accountId resource pieces
      obtain ⟨-, plainPartition, plainService, plainRegion, -, isArn⟩ := splitN_six.mp pieces
      split_ifs at parsed with notArn notPattern isIam isSts
      all_goals
        obtain rfl := not_not.mp notArn
        have isPattern : AccountPattern accountId := by
          rw [Bool.not_eq_true'] at notPattern
          exact isAccountIdPattern_iff.mp (Bool.eq_true_of_not_eq_false notPattern)
        have written : value = principalArn partition service region accountId resource := isArn
      · subst isIam
        rw [written]
        rcases parseIamPrincipal_eq_ok.mp parsed with
          ⟨rfl, rfl⟩ | ⟨userName, rfl, rfl⟩ | ⟨roleName, rfl, rfl⟩
        · exact .root plainPartition plainRegion isPattern
        · exact .user plainPartition plainRegion isPattern
        · exact .role plainPartition plainRegion isPattern
      · subst isSts
        rw [written]
        obtain ⟨roleName, sessionName, plainRole, rfl, rfl⟩ := parseStsPrincipal_eq_ok.mp parsed
        exact .assumedRole plainPartition plainRegion isPattern plainRole
    · cases parsed
  · have iam : ':' ∉ ("iam" : Text) := by decide
    have sts : ':' ∉ ("sts" : Text) := by decide
    have stsIsNotIam : ("sts" : Text) ≠ ("iam" : Text) := by decide
    intro written
    cases written with
    | any => exact if_pos rfl
    | account isPattern special =>
        rw [parsePrincipal, if_neg special, if_pos (isAccountIdPattern_iff.mpr isPattern)]
    | root plainPartition plainRegion isPattern =>
        rw [parsePrincipal_principalArn plainPartition iam plainRegion isPattern, if_pos rfl]
        exact parseIamPrincipal_eq_ok.mpr (Or.inl ⟨rfl, rfl⟩)
    | user plainPartition plainRegion isPattern =>
        rw [parsePrincipal_principalArn plainPartition iam plainRegion isPattern, if_pos rfl]
        exact parseIamPrincipal_eq_ok.mpr (Or.inr (Or.inl ⟨_, rfl, rfl⟩))
    | role plainPartition plainRegion isPattern =>
        rw [parsePrincipal_principalArn plainPartition iam plainRegion isPattern, if_pos rfl]
        exact parseIamPrincipal_eq_ok.mpr (Or.inr (Or.inr ⟨_, rfl, rfl⟩))
    | assumedRole plainPartition plainRegion isPattern plainRole =>
        rw [parsePrincipal_principalArn plainPartition sts plainRegion isPattern,
          if_neg stsIsNotIam, if_pos rfl]
        exact parseStsPrincipal_eq_ok.mpr ⟨_, _, plainRole, rfl, rfl⟩

/-! ### The member of a statement -/

/-- One text or many, as the decoder reads them. -/
theorem decodeOneOrMany_eq_ok {json : Json} {values : List Text} :
    decodeOneOrMany json = .ok values ↔ json ≠ .null ∧ Listed (some json) values := by
  constructor
  · intro decoded
    cases json with
    | null => cases decoded
    | bool => cases decoded
    | integer => cases decoded
    | float => cases decoded
    | object => cases decoded
    | string value =>
        obtain rfl := Except.ok.inj decoded
        exact ⟨nofun, .one⟩
    | array items =>
        refine ⟨nofun, ?_⟩
        have texts := mapM_eq_ok.mp (mapError_eq_ok.mp decoded)
        have isTexts : items = values.map .string := by
          rw [← List.forall₂_eq_eq_eq, List.forall₂_map_right_iff]
          exact texts.imp fun _ _ isText => Json.asText_eq_ok.mp isText
        rw [isTexts]
        exact .many
  · rintro ⟨present, listed⟩
    cases listed with
    | null => exact absurd rfl present
    | one => rfl
    | many =>
        refine mapError_eq_ok.mpr (mapM_eq_ok.mpr ?_)
        rw [List.forall₂_map_left_iff]
        exact List.forall₂_same.mpr fun _ _ => rfl

/-- A field of the map, which may be missing. -/
theorem decodeField_eq_ok {json : Json} {values : List Text} :
    (json.asOption decodeOneOrMany).map (·.getD []) = .ok values ↔ Listed (some json) values := by
  by_cases isNull : json = .null
  · subst isNull
    constructor
    · intro decoded
      obtain rfl := Except.ok.inj decoded
      exact .null
    · intro listed
      cases listed with
      | null => rfl
  · have given : (json.asOption decodeOneOrMany).map (·.getD []) = decodeOneOrMany json := by
      rw [Json.asOption]
      · cases decodeOneOrMany json <;> rfl
      · exact isNull
    rw [given, decodeOneOrMany_eq_ok]
    exact and_iff_right isNull

/-- **A map of principals**, as the decoder reads it. -/
theorem decodePrincipalMap_eq_ok {json : Json} {values names : List Text} :
    decodePrincipalMap json = .ok (values, names) ↔
      ∃ aws service, PrincipalMap json aws service ∧ Listed aws values ∧ Listed service names := by
  unfold decodePrincipalMap
  extract_lets mismatch named
  have reads (field : Option Json) (values : List Text) :
      named field = .ok values ↔ Listed field values := by
    cases field with
    | none =>
        constructor
        · intro same
          obtain rfl := Except.ok.inj same
          exact .absent
        · intro listed
          cases listed with
          | absent => rfl
    | some json => exact mapError_eq_ok.trans decodeField_eq_ok
  have both (aws service : Option Json) :
      (do let aws ← named aws
          let service ← named service
          return (aws, service) : Except Text (List Text × List Text)) = .ok (values, names) ↔
        Listed aws values ∧ Listed service names := by
    rw [bind_eq_ok]
    constructor
    · rintro ⟨_, readsAws, rest⟩
      obtain ⟨_, readsService, same⟩ := bind_eq_ok.mp rest
      obtain ⟨rfl, rfl⟩ := Prod.mk.inj (Except.ok.inj same)
      exact ⟨(reads _ _).mp readsAws, (reads _ _).mp readsService⟩
    · rintro ⟨listedAws, listedService⟩
      exact ⟨_, (reads _ _).mpr listedAws,
        bind_eq_ok.mpr ⟨_, (reads _ _).mpr listedService, rfl⟩⟩
  constructor
  · intro decoded
    split at decoded
    · exact ⟨_, _, .object, (both _ _).mp decoded⟩
    · exact ⟨_, _, .array, (both _ _).mp decoded⟩
    · cases decoded
  · rintro ⟨aws, service, isMap, listed⟩
    cases isMap with
    | object => exact (both _ _).mpr listed
    | array => exact (both _ _).mpr listed

/-- What the decoder makes of the two lists of a map. -/
theorem principalsOfMap_eq_ok {values names : List Text} {principals : List PolicyPrincipal} :
    (do let accounts ← (values.mapM parsePrincipal).mapError fun error =>
            ("failed to parse AWS principal: " : Text) ++ error
        let principals := accounts ++ names.map .service
        if principals = [] then .error "principal map must contain at least one supported principal"
        else .ok principals : Except Text (List PolicyPrincipal)) = .ok principals ↔
      ∃ accounts, List.Forall₂ PrincipalText values accounts ∧ (values ≠ [] ∨ names ≠ []) ∧
        principals = accounts ++ names.map .service := by
  rw [bind_eq_ok]
  have parsed (accounts : List PolicyPrincipal) :
      (values.mapM parsePrincipal).mapError (fun error =>
          ("failed to parse AWS principal: " : Text) ++ error) = .ok accounts ↔
        List.Forall₂ PrincipalText values accounts := by
    rw [mapError_eq_ok, mapM_eq_ok]
    simp only [parsePrincipal_eq_ok]
  have empty {accounts : List PolicyPrincipal} (written : List.Forall₂ PrincipalText values accounts) :
      accounts ++ names.map .service = [] ↔ values = [] ∧ names = [] := by
    rw [List.append_eq_nil_iff, List.map_eq_nil_iff, ← List.length_eq_zero_iff,
      ← written.length_eq, List.length_eq_zero_iff]
  constructor
  · rintro ⟨accounts, reads, result⟩
    have written := (parsed accounts).mp reads
    dsimp only at result
    split_ifs at result with isEmpty
    refine ⟨accounts, written, ?_, (Except.ok.inj result).symm⟩
    rw [empty written] at isEmpty
    tauto
  · rintro ⟨accounts, written, nonempty, rfl⟩
    refine ⟨accounts, (parsed accounts).mpr written, if_neg ?_⟩
    rw [empty written]
    tauto

/-- **A map of principals is decoded** to one principal for each of its values, in order. -/
theorem deserializePrincipals_eq_ok {json : Json} (notText : ∀ value, json ≠ .string value)
    {principals : List PolicyPrincipal} :
    deserializePrincipals json = .ok principals ↔
      ∃ values names, decodePrincipalMap json = .ok (values, names) ∧
        ∃ accounts, List.Forall₂ PrincipalText values accounts ∧ (values ≠ [] ∨ names ≠ []) ∧
          principals = accounts ++ names.map .service := by
  unfold deserializePrincipals
  split
  · rename_i value
    exact absurd rfl (notText value)
  · rw [bind_eq_ok]
    constructor
    · rintro ⟨⟨values, names⟩, decoded, result⟩
      exact ⟨values, names, decoded, principalsOfMap_eq_ok.mp result⟩
    · rintro ⟨values, names, decoded, result⟩
      exact ⟨(values, names), decoded, principalsOfMap_eq_ok.mpr result⟩

/-- **The member of a statement**, as the decoder reads it. -/
theorem deserializeOptionalPrincipals_eq_ok {json : Json} {principals : List PolicyPrincipal} :
    deserializeOptionalPrincipals json = .ok principals ↔ PrincipalMember json principals := by
  by_cases isNull : json = .null
  · subst isNull
    constructor
    · intro decoded
      obtain rfl := Except.ok.inj decoded
      exact .absent
    · intro written
      cases written with
      | absent => rfl
      | map isMap => cases isMap
  have given : deserializeOptionalPrincipals json = deserializePrincipals json := by
    rw [deserializeOptionalPrincipals, Json.asOption]
    · cases deserializePrincipals json <;> rfl
    · exact isNull
  rw [given]
  by_cases isText : ∃ value, json = .string value
  · obtain ⟨value, rfl⟩ := isText
    constructor
    · intro decoded
      rw [deserializePrincipals] at decoded
      split_ifs at decoded with isAny
      obtain rfl := Except.ok.inj decoded
      subst isAny
      exact .any
    · intro written
      cases written with
      | any => rw [deserializePrincipals, if_pos rfl]
      | map isMap => cases isMap
  · rw [deserializePrincipals_eq_ok (not_exists.mp isText)]
    constructor
    · rintro ⟨values, names, decoded, accounts, written, nonempty, rfl⟩
      obtain ⟨aws, service, isMap, listedAws, listedService⟩ := decodePrincipalMap_eq_ok.mp decoded
      exact .map isMap listedAws listedService written nonempty
    · intro written
      cases written with
      | absent => exact absurd rfl isNull
      | any => exact absurd ⟨_, rfl⟩ isText
      | map isMap listedAws listedService written nonempty =>
          exact ⟨_, _, decodePrincipalMap_eq_ok.mpr ⟨_, _, isMap, listedAws, listedService⟩, _,
            written, nonempty, rfl⟩

/-- **Principals follow their grammar.**  The parser accepts what the grammar allows and returns
its parts.  The member of a statement is decoded to one principal for each value in turn, and to
none only where it has no value. -/
theorem principals_grammar :
    (∀ value principal, parsePrincipal value = .ok principal ↔ PrincipalText value principal) ∧
      ∀ json principals,
        deserializeOptionalPrincipals json = .ok principals ↔ PrincipalMember json principals :=
  ⟨fun _ _ => parsePrincipal_eq_ok, fun _ _ => deserializeOptionalPrincipals_eq_ok⟩

/-- A member without a value stands for no principals.  An array is read by positions, and of two
members with one name the first is not seen. -/
theorem principals_of_other_shapes :
    deserializeOptionalPrincipals .null = .ok [] ∧
      deserializeOptionalPrincipals (.array [.string "*", .null]) = .ok [.any] ∧
        deserializeOptionalPrincipals
            (.object [("AWS", .string "123456789012"), ("AWS", .string "*")]) = .ok [.any] := by
  decide +kernel

end Hiraeth
