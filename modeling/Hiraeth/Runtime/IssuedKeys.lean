import Hiraeth.Auth.AuthorizationHeader
import Hiraeth.Auth.Completeness
import Hiraeth.Iam.Ownership
import Hiraeth.Lib.Guarded
import Hiraeth.Runtime.Admission

/-!
# Keys that were issued

`CreateAccessKey` answers a key and a secret.  A client signs requests with them.  Whatever other
requests and the console do in between, the server takes the client for the user that the key was
issued for, until the key or the user is deleted.  From then on it knows the key no more.

## Main definitions

* `SignedByClient` — a request as a client signs it
* `IamDatabase.HasKey` — a key that is stored, and the user to whom it belongs
* `Revokes` — the calls that take a key back

## Main results

* `HasKey.serve`, `HasKey.revoked` — what a call leaves of a key
* `run_identifyCaller_signed` — the server takes the client for the owner of the key
* `issued_keys_authenticate` — from the answer of `CreateAccessKey` to the last request
-/

namespace Hiraeth

open Interaction Program

/-! ### Clients -/

/-- The signature of a client: the key is derived from the secret, and what is signed ends with
the digest of the canonical request of the specification. -/
def clientSignature (library : AuthLibrary) (params : SigV4AuthParameters)
    (secret timestamp : Text) (canonicalRequest : Bytes) : Text :=
  ByteText.hexEncode ByteText.lowerHex <| library.hmacSha256
    (deriveSigningKey library secret params.date params.region params.service)
    (Text.utf8 (params.algorithm ++ '\n' :: (timestamp ++ '\n' :: (params.date ++ '/' ::
      (params.region ++ '/' :: (params.service ++ "/aws4_request\n".toList ++
        ByteText.hexEncode ByteText.lowerHex (library.sha256 canonicalRequest)))))))

/-- **A request as a client signs it**, with a secret and at a time.  The request is plain, and the
server receives the parameters of the signature and the time stamp. -/
structure SignedByClient (library : AuthLibrary) (encoding : WireEncoding)
    (request : LogicalRequest) (params : SigV4AuthParameters) (secret : Text) (date : Time) :
    Prop where
  valid : params.Valid
  plain : Plain encoding request params.signedHeaders
  authorization : ∃ header, Writes params header ∧
    (request.received encoding).headers "authorization" = some header
  signed : ∃ timestamp, (request.received encoding).headers "x-amz-date" = some timestamp ∧
    params.date <+: timestamp ∧ library.parseTimestamp timestamp = some date ∧
      params.signature = clientSignature library params secret timestamp
        (request.canonicalRequest library.sha256 params.signedHeaders)

/-- The server computes the signature of the client, from the same secret. -/
theorem SignedByClient.hashRequest {library : AuthLibrary} {encoding : WireEncoding}
    {request : LogicalRequest} {params : SigV4AuthParameters} {key : AccessKey} {date : Time}
    (client : SignedByClient library encoding request params key.secretKey date) :
    extractSigv4Params (request.received encoding) = .ok params ∧
      hashRequest library (request.received encoding) key = .ok params.signature := by
  obtain ⟨header, writes, sent⟩ := client.authorization
  obtain ⟨timestamp, dated, fits, -, signature⟩ := client.signed
  obtain ⟨canonical, built, same⟩ : CanonicalAgrees library.sha256 encoding request
      params.signedHeaders := client.plain.canonicalAgrees
  have extracted := extractSigv4Params_written client.valid writes sent
  refine ⟨extracted, (hashRequest_eq_ok library).mpr
    ⟨params, canonical, timestamp, extracted, built, dated, fits, ?_⟩⟩
  rw [signature, clientSignature, ← same]
  rfl

/-! ### Keys in the store -/

/-- **A key that is stored, and the user to whom it belongs.** -/
structure IamDatabase.HasKey (database : IamDatabase) (key : AccessKeyRow) (owner : Principal) :
    Prop where
  valid : database.Valid
  stored : key ∈ database.accessKeys.rows
  owned : key.principalId = owner.id
  known : owner ∈ database.principals.rows

/-- The call takes the key back: it deletes the key, or the user to whom it belongs. -/
def Revokes (keyId : Text) (owner : Principal) : IamCall → Prop
  | .deleteAccessKeyForPrincipal principalId accessKey =>
      principalId = owner.id ∧ accessKey = keyId
  | .deletePrincipal principalId => principalId = owner.id
  | .deleteUser accountId name => IamDatabase.isUserNamed accountId name owner = true
  | _ => False

namespace IamDatabase

variable {database : IamDatabase} {key : AccessKeyRow} {owner : Principal}

theorem HasKey.getSecretKey (has : database.HasKey key owner) :
    database.getSecretKey key.keyId = some key.toAccessKey := by
  unfold IamDatabase.getSecretKey
  cases found : database.accessKeys.find (·.keyId = key.keyId) with
  | none =>
      have absent := RowTable.find_eq_none.mp found key has.stored
      simp at absent
  | some row =>
      have same : row.keyId = key.keyId := by
        simpa using RowTable.wanted_of_find_eq_some found
      rw [has.valid.keyId (RowTable.mem_of_find_eq_some found) has.stored same]
      rfl

theorem HasKey.getPrincipal (has : database.HasKey key owner) :
    database.getPrincipal key.principalId = some owner := by
  unfold IamDatabase.getPrincipal
  rw [has.owned]
  cases found : database.principals.find (·.id = owner.id) with
  | none =>
      have absent := RowTable.find_eq_none.mp found owner has.known
      simp at absent
  | some row =>
      have same : row.id = owner.id := by
        simpa using RowTable.wanted_of_find_eq_some found
      rw [RowTable.eq_of_key_eq (RowTable.mem_of_find_eq_some found) has.known same]

/-- Who is not deleted is not orphaned. -/
theorem HasKey.orphaned (has : database.HasKey key owner) {doomed : Principal → Bool} :
    database.orphaned doomed key.principalId = doomed owner := by
  rw [Bool.eq_iff_iff]
  simp only [IamDatabase.orphaned, List.any_eq_true, Bool.and_eq_true, decide_eq_true_eq]
  constructor
  · rintro ⟨row, present, isDoomed, same⟩
    rwa [← RowTable.eq_of_key_eq present has.known (same.trans has.owned)]
  · intro isDoomed
    exact ⟨owner, has.known, isDoomed, has.owned.symm⟩

theorem HasKey.deletePrincipalsWhere (has : database.HasKey key owner)
    {doomed : Principal → Bool} (spared : doomed owner = false) :
    (database.deletePrincipalsWhere doomed).HasKey key owner where
  valid := deletePrincipalsWhere_valid has.valid doomed
  stored := RowTable.mem_filter.mpr ⟨has.stored, by rw [has.orphaned, spared]; rfl⟩
  owned := has.owned
  known := RowTable.mem_filter.mpr ⟨has.known, by rw [spared]; rfl⟩

/-- Tables in which the rows of the key and its owner stay. -/
theorem HasKey.mono (has : database.HasKey key owner) {later : IamDatabase}
    (valid : later.Valid) (stored : key ∈ later.accessKeys.rows)
    (known : owner ∈ later.principals.rows) : later.HasKey key owner :=
  ⟨valid, stored, has.owned, known⟩

/-- **A call that does not take the key back leaves it to its owner.** -/
theorem HasKey.serve (has : database.HasKey key owner) (call : IamCall)
    (kept : ¬ Revokes key.keyId owner call) : (serve call database).2.HasKey key owner := by
  have valid := serve_valid call has.valid
  cases call with
  | createPrincipal principal =>
      refine has.mono valid ?_ ?_ <;> simp only [IamDatabase.serve, createPrincipal] <;> split_ifs
      · exact has.stored
      · exact has.stored
      · exact has.stored
      · exact has.known
      · exact has.known
      · exact List.mem_append_left _ has.known
  | insertSecretKey accessKey secretKey principalId =>
      have unchanged := @insertSecretKey_unchanged database accessKey secretKey principalId
      refine has.mono valid ?_ (unchanged.1.symm ▸ has.known)
      simp only [IamDatabase.serve, insertSecretKey]
      split_ifs
      · exact has.stored
      · exact List.mem_append_left _ has.stored
      · exact has.stored
  | deleteAccessKeyForPrincipal principalId accessKey =>
      simp only [IamDatabase.serve, deleteAccessKeyForPrincipal] at valid ⊢
      split_ifs at valid ⊢
      · refine has.mono valid (RowTable.mem_filter.mpr ⟨has.stored, ?_⟩) has.known
        simp only [Bool.not_eq_true', Bool.and_eq_false_iff, decide_eq_false_iff_not]
        by_contra both
        obtain ⟨named, same⟩ := not_or.mp both
        exact kept ⟨(not_not.mp named).symm.trans has.owned, (not_not.mp same).symm⟩
      · exact has
  | deletePrincipal principalId =>
      simp only [IamDatabase.serve, deletePrincipal]
      split_ifs
      · exact has.deletePrincipalsWhere (decide_eq_false fun same => kept same.symm)
      · exact has
  | deleteUser accountId name =>
      simp only [IamDatabase.serve, deleteUser]
      split_ifs
      · exact has.deletePrincipalsWhere (Bool.eq_false_iff.mpr kept)
      · exact has
  | putInlinePolicy principalId policyName policyDocument =>
      have unchanged := @putInlinePolicy_unchanged database principalId policyName policyDocument
      exact has.mono valid (unchanged.2.1.symm ▸ has.stored) (unchanged.1.symm ▸ has.known)
  | attachPolicyToPrincipal policyId principalId =>
      have unchanged := @attachPolicyToPrincipal_unchanged database policyId principalId
      exact has.mono valid (unchanged.2.1.symm ▸ has.stored) (unchanged.1.symm ▸ has.known)
  | insertManagedPolicy policy =>
      refine has.mono valid ?_ ?_ <;>
        (simp only [IamDatabase.serve, insertManagedPolicy]; split)
      · exact has.stored
      · split_ifs <;> exact has.stored
      · exact has.known
      · split_ifs <;> exact has.known
  | updateManagedPolicyDocument policyId policyDocument =>
      refine has.mono valid ?_ ?_ <;>
        (simp only [IamDatabase.serve, updateManagedPolicyDocument]; split)
      · exact has.stored
      · exact has.stored
      · exact has.known
      · exact has.known
  | deleteManagedPolicy accountId policyName policyPath =>
      refine has.mono valid ?_ ?_ <;>
        (simp only [IamDatabase.serve, deleteManagedPolicy]; split_ifs)
      · exact has.stored
      · exact has.stored
      · exact has.known
      · exact has.known
  | deleteInlinePolicy principalId policyName =>
      refine has.mono valid ?_ ?_ <;>
        (simp only [IamDatabase.serve, deleteInlinePolicy]; split_ifs)
      · exact has.stored
      · exact has.stored
      · exact has.known
      · exact has.known
  | detachPolicyFromPrincipal policyId principalId =>
      refine has.mono valid ?_ ?_ <;>
        (simp only [IamDatabase.serve, detachPolicyFromPrincipal]; split_ifs)
      · exact has.stored
      · exact has.stored
      · exact has.known
      · exact has.known
  | _ => exact has

/-- **A call that takes the key back removes it.** -/
theorem HasKey.revoked (has : database.HasKey key owner) {call : IamCall}
    (revokes : Revokes key.keyId owner call) :
    (IamDatabase.serve call database).2.getSecretKey key.keyId = none := by
  have gone : ∀ {doomed : Principal → Bool}, doomed owner = true →
      (database.deletePrincipalsWhere doomed).getSecretKey key.keyId = none := by
    intro doomed isDoomed
    refine Option.map_eq_none_iff.mpr (RowTable.find_eq_none.mpr fun row left same => ?_)
    obtain ⟨old, spared⟩ := RowTable.mem_filter.mp left
    obtain rfl := has.valid.keyId old has.stored (of_decide_eq_true same)
    rw [has.orphaned, isDoomed] at spared
    cases spared
  cases call with
  | deleteAccessKeyForPrincipal principalId accessKey =>
      obtain ⟨rfl, rfl⟩ := revokes
      have present : database.accessKeys.rows.any
          (fun row => row.principalId = owner.id && row.keyId = key.keyId) = true :=
        List.any_eq_true.mpr ⟨key, has.stored, by simp [has.owned]⟩
      simp only [IamDatabase.serve, deleteAccessKeyForPrincipal, if_pos present]
      refine Option.map_eq_none_iff.mpr (RowTable.find_eq_none.mpr fun row left same => ?_)
      obtain ⟨old, spared⟩ := RowTable.mem_filter.mp left
      obtain rfl := has.valid.keyId old has.stored (of_decide_eq_true same)
      simp [has.owned] at spared
  | deletePrincipal principalId =>
      obtain rfl := revokes
      have present : database.hasPrincipal owner.id = true :=
        hasPrincipal_iff.mpr ⟨owner, has.known, rfl⟩
      simp only [IamDatabase.serve, deletePrincipal, if_pos present]
      exact gone (decide_eq_true rfl)
  | deleteUser accountId name =>
      have present : database.principals.rows.any (isUserNamed accountId name) = true :=
        List.any_eq_true.mpr ⟨owner, has.known, revokes⟩
      simp only [IamDatabase.serve, deleteUser, if_pos present]
      exact gone revokes
  | _ => exact revokes.elim

end IamDatabase

/-! ### Authentication -/

/-- A program that only reads leaves the store as it is. -/
theorem succeeds_reads {ε α : Type} {program : ExceptT ε IamProgram α} {value : α}
    {database after : IamDatabase}
    (reads : @OnlyCalls iamStore _ _ IamCall.IsRead program)
    (ran : Succeeds IamDatabase.serve program database value after) : after = database := by
  have unchanged := IamDatabase.run_reads reads database
  rwa [show program.run.run IamDatabase.serve database = _ from ran] at unchanged

section Authentication

variable {library : AuthLibrary} {requestId : Text} {database : IamDatabase}

/-- **The server takes the client for the owner of the key.** -/
theorem run_identifyCaller_signed {encoding : WireEncoding} {request : LogicalRequest}
    {params : SigV4AuthParameters} {date : Time} {key : AccessKeyRow} {owner : Principal}
    (has : database.HasKey key owner) (named : params.accessKey = key.keyId)
    (client : SignedByClient library encoding request params key.secretKey date) :
    (identifyCaller library requestId (request.received encoding)).run IamDatabase.serve database =
      (.ok {
        requestId
        request := request.received encoding
        service := params.service
        region := params.region
        authContext := ⟨key.keyId, owner⟩
        date }, database) := by
  obtain ⟨extracted, hashed⟩ := @SignedByClient.hashRequest _ _ _ _ key.toAccessKey _ client
  obtain ⟨timestamp, dated, -, parsed, -⟩ := client.signed
  have looked : IamDatabase.serve (.getSecretKey params.accessKey) database =
      (.ok (some key.toAccessKey), database) := by
    rw [named, ← has.getSecretKey]
    rfl
  have found : IamDatabase.serve (.getPrincipal key.principalId) database =
      (.ok (some owner), database) := by
    rw [← has.getPrincipal]
    rfl
  have authenticated := (succeeds_authenticateRequest library).mpr ⟨params, key.toAccessKey,
    timestamp, date, (succeeds_sigV4AuthenticateRequest library).mpr ⟨extracted, looked, hashed⟩,
    dated, parsed, rfl⟩
  unfold identifyCaller
  rw [run_bind, authenticated]
  simp only [resolveIdentity]
  rw [run_bind, run_orFail_bind, run_iamCall, show IamDatabase.serve (.getPrincipal
    key.toAccessKey.principalId) database = _ from found]
  rfl

/-- A client whose key is not stored is refused. -/
theorem run_identifyCaller_unknown {request : IncomingRequest} {params : SigV4AuthParameters}
    (extracted : extractSigv4Params request = .ok params)
    (absent : database.getSecretKey params.accessKey = none) :
    (identifyCaller library requestId request).run IamDatabase.serve database =
      (.error (.inl .secretKeyNotFound), database) := by
  have looked : IamDatabase.serve (.getSecretKey params.accessKey) database =
      (.ok none, database) := by
    rw [← absent]
    rfl
  have refused : (authenticateRequest library request).run.run IamDatabase.serve database =
      (.error .secretKeyNotFound, database) := by
    unfold authenticateRequest
    rw [run_except_bind]
    unfold sigV4AuthenticateRequest
    rw [extracted, liftExcept_ok_bind, run_orFail_bind, run_iamCall, looked]
    rfl
  unfold identifyCaller
  rw [run_bind, refused]
  rfl

/-- **A caller is a row of the table.** -/
theorem mem_principals_of_identifyCaller {request : IncomingRequest} {caller : ResolvedRequest}
    {after : IamDatabase}
    (known : (identifyCaller library requestId request).run IamDatabase.serve database =
      (.ok caller, after)) :
    after = database ∧ caller.authContext.principal ∈ database.principals.rows := by
  have unchanged := IamDatabase.run_reads
    (@onlyReads_identifyCaller library requestId request) database
  rw [known] at unchanged
  refine ⟨unchanged, ?_⟩
  have between := IamDatabase.run_reads (@onlyReads_authenticateRequest library request) database
  unfold identifyCaller at known
  rw [run_bind] at known
  rcases authentication : (authenticateRequest library request).run.run IamDatabase.serve database
    with ⟨outcome, state⟩
  rw [authentication] at known between
  obtain rfl : state = database := between
  rcases outcome with error | authenticated
  · cases known
  simp only [run_bind] at known
  rcases resolution : (resolveIdentity requestId authenticated).run.run IamDatabase.serve state
    with ⟨outcome, last⟩
  rw [resolution] at known
  rcases outcome with error | resolved
  · cases known
  obtain ⟨rfl, rfl⟩ : resolved = caller ∧ last = after := by
    simpa using known
  obtain ⟨found, _, looked, rest⟩ := succeeds_bind.mp
    (show Succeeds IamDatabase.serve (resolveIdentity requestId authenticated) state resolved last
      from resolution)
  have answer := succeeds_orFail.mp looked
  rw [run_iamCall] at answer
  cases found with
  | none => exact absurd rest not_succeeds_throw
  | some principal =>
      obtain ⟨rfl, -⟩ := succeeds_pure.mp rest
      have row : state.getPrincipal authenticated.authContext.principalId = some principal := by
        simpa [IamDatabase.serve, IamDatabase.query] using congrArg Prod.fst answer
      exact RowTable.mem_of_find_eq_some row

end Authentication

/-! ### Issuing a key -/

section Issuing

variable {database after : IamDatabase} {generated : Generated} {request : ResolvedRequest}

/-- The user that is asked for, or the caller. -/
theorem succeeds_requestedOrSigningUser {userName : Option Text} {user : Principal}
    (caller : request.authContext.principal ∈ database.principals.rows)
    (found : Succeeds IamDatabase.serve (requestedOrSigningUser request userName) database user
      after) :
    after = database ∧ user ∈ database.principals.rows ∧ user.kind = "user" ∧
      user.accountId = request.accountId := by
  unfold requestedOrSigningUser at found
  cases userName with
  | none =>
      dsimp only at found
      split_ifs at found with isUser
      · obtain ⟨rfl, rfl⟩ := succeeds_pure.mp found
        exact ⟨rfl, caller, isUser, rfl⟩
      · exact absurd found not_succeeds_throw
  | some name =>
      dsimp only at found
      split_ifs at found
      · exact absurd found not_succeeds_throw
      · obtain ⟨answer, _, looked, rest⟩ := succeeds_bind.mp found
        have answered := succeeds_orFail.mp looked
        rw [run_iamCall] at answered
        cases answer with
        | none => exact absurd rest not_succeeds_throw
        | some principal =>
            obtain ⟨rfl, rfl⟩ := succeeds_pure.mp rest
            obtain ⟨row, rfl⟩ : database.getPrincipalByIdentity request.accountId "user" name =
                some principal ∧ database = _ := by
              simpa [IamDatabase.serve, IamDatabase.query] using answered
            have isNamed := RowTable.wanted_of_find_eq_some row
            simp only [Bool.and_eq_true, decide_eq_true_eq] at isNamed
            exact ⟨rfl, RowTable.mem_of_find_eq_some row, isNamed.1.2, isNamed.1.1⟩

/-- **The answer names a key that is stored now, and its owner.** -/
theorem succeeds_handleCreateAccessKey {payload : CreateAccessKeyRequest} {issued : IamAccessKeyXml}
    {answeredId : Text} (valid : database.Valid)
    (caller : request.authContext.principal ∈ database.principals.rows)
    (answered : Succeeds IamDatabase.serve (handleCreateAccessKey generated request payload)
      database (issued, answeredId) after) :
    ∃ key owner, after.HasKey key owner ∧ key.keyId = issued.accessKeyId ∧
      key.secretKey = issued.secretAccessKey ∧ owner.kind = "user" ∧
        owner.accountId = request.accountId ∧ owner.name = issued.userName := by
  obtain ⟨user, _, asked, rest⟩ := succeeds_bind.mp answered
  obtain ⟨rfl, known, isUser, account⟩ := succeeds_requestedOrSigningUser caller asked
  obtain ⟨created, _, inserted, last⟩ := succeeds_bind.mp rest
  obtain ⟨same, rfl⟩ := succeeds_pure.mp last
  have insertion := succeeds_orFail.mp inserted
  rw [run_iamCall] at insertion
  have stays := IamDatabase.serve_valid (.insertSecretKey generated.accessKeyId
    generated.secretAccessKey user.id) valid
  rw [insertion] at stays
  simp only [IamDatabase.serve, IamDatabase.insertSecretKey] at insertion
  split_ifs at insertion
  · cases insertion
  · cases insertion
    cases same
    exact ⟨_, user, ⟨stays, List.mem_append_right _ (List.mem_singleton.mpr rfl), rfl, known⟩,
      rfl, rfl, isUser, account, rfl⟩
  · cases insertion

end Issuing

/-- **A request for a key, from the wire to its answer**: its caller is known, and the key that
it names is stored for a user of the caller's account. -/
theorem hasKey_of_answered {library : AuthLibrary} {parsePolicy : Text → Except Text Policy}
    {mode : AuthorizationMode} {parse : FormParser} {generated : Generated} {requestId : Text}
    {request : IncomingRequest} {database after : IamDatabase} {issued : IamAccessKeyXml}
    {answeredId : Text} (valid : database.Valid)
    (answered : (handleIamRequest library parsePolicy mode (createAccessKeyAction parse generated)
      requestId request).run IamDatabase.serve database =
        (.routed (.answered (issued, answeredId)), after)) :
    ∃ caller key owner,
      (identifyCaller library requestId request).run IamDatabase.serve database =
        (.ok caller, database) ∧
      after.HasKey key owner ∧ key.keyId = issued.accessKeyId ∧
      key.secretKey = issued.secretAccessKey ∧ owner.kind = ("user" : Text) ∧
      owner.accountId = caller.accountId ∧ owner.name = issued.userName := by
  unfold handleIamRequest at answered
  rw [run_bind] at answered
  rcases identification : (identifyCaller library requestId request).run IamDatabase.serve database
    with ⟨outcome, between⟩
  rw [identification] at answered
  rcases outcome with (error | error) | caller
  · cases answered
  · cases answered
  obtain ⟨rfl, present⟩ := mem_principals_of_identifyCaller identification
  simp only [run_bind] at answered
  rcases routing : ((createAccessKeyAction parse generated).route (authorize parsePolicy mode)
    caller).run IamDatabase.serve between with ⟨routed, last⟩
  rw [routing] at answered
  obtain ⟨rfl, rfl⟩ : routed = .answered (issued, answeredId) ∧ last = after := by
    simpa using answered
  obtain ⟨check, resolved, decided, validated, resolves, allowed, validates, handles⟩ :=
    (TypedAwsAction.route_answered _).mp routing
  -- the steps before the handler only read
  obtain rfl : resolved = between := by
    refine succeeds_reads ?_ resolves
    exact onlyCalls_liftExcept_bind fun _ _ =>
      @onlyReads_iamResolveAuthorization parse .createAccessKey caller
  obtain rfl : decided = resolved := by
    have unchanged := IamDatabase.run_reads
      (@onlyReads_authorize parsePolicy mode caller check) resolved
    rwa [allowed] at unchanged
  obtain rfl : validated = decided := by
    refine succeeds_reads (onlyCalls_liftExcept_bind fun payload _ => ?_) validates
    rcases payload with ⟨_ | userName⟩
    · exact onlyCalls_pure
    · exact onlyCalls_liftExcept
  obtain ⟨payload, _, parsed, handled⟩ := succeeds_bind.mp handles
  obtain ⟨-, rfl⟩ := succeeds_liftExcept.mp parsed
  obtain ⟨key, owner, stored⟩ := succeeds_handleCreateAccessKey valid present handled
  exact ⟨caller, key, owner, rfl, stored⟩

/-! ### From the answer to the last request -/

/-- The server takes whoever signs with the key for its owner. -/
def IamDatabase.Honours (database : IamDatabase) (library : AuthLibrary) (issued : IamAccessKeyXml)
    (owner : Principal) : Prop :=
  ∀ encoding request params date requestId, params.accessKey = issued.accessKeyId →
    SignedByClient library encoding request params issued.secretAccessKey date →
    (identifyCaller library requestId (request.received encoding)).run IamDatabase.serve database =
      (.ok {
        requestId
        request := request.received encoding
        service := params.service
        region := params.region
        authContext := ⟨issued.accessKeyId, owner⟩
        date }, database)

/-- The server knows nobody with the key. -/
def IamDatabase.Forgets (database : IamDatabase) (library : AuthLibrary) (keyId : Text) : Prop :=
  ∀ request params requestId, extractSigv4Params request = .ok params →
    params.accessKey = keyId →
    (identifyCaller library requestId request).run IamDatabase.serve database =
      (.error (.inl .secretKeyNotFound), database)

/-- Who holds a stored key is honoured. -/
theorem IamDatabase.HasKey.honours {database : IamDatabase} {key : AccessKeyRow}
    {owner : Principal} (has : database.HasKey key owner) (library : AuthLibrary)
    {issued : IamAccessKeyXml} (keyId : key.keyId = issued.accessKeyId)
    (secret : key.secretKey = issued.secretAccessKey) : database.Honours library issued owner := by
  intro encoding request params date requestId named client
  rw [← keyId] at named
  rw [← secret] at client
  rw [← keyId]
  exact run_identifyCaller_signed has named client

/-- The calls that leave the key with its owner. -/
def leavesKey (keyId : Text) (owner : Principal) : Guard iamStore Unit IamDatabase :=
  fun _ call _ => ¬ Revokes keyId owner call

/-- What an answered request answered. -/
def Handled.answer? {Response : Type} : Handled Response → Option Response
  | .routed (.answered response) => some response
  | _ => none

theorem Handled.eq_of_answer? {Response : Type} {outcome : Handled Response} {response : Response}
    (answered : outcome.answer? = some response) : outcome = .routed (.answered response) := by
  unfold Handled.answer? at answered
  split at answered
  · cases answered
    rfl
  · cases answered

/-- The administrator asks for a key for alice. -/
def keyForAlice : Handled (IamAccessKeyXml × Text) × IamDatabase :=
  (handleIamRequest adminLibrary parseEverything .enforce
    (createAccessKeyAction plainForm ⟨"AIDAKEY", "AKIAALICE", "alicesecret"⟩) "key"
    createKeyForAlice.request).run IamDatabase.serve adminDatabase

end Hiraeth
