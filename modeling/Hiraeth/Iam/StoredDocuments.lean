import Hiraeth.Iam.PolicyNames
import Hiraeth.Lib.PercentDecoding

/-!
# Reading policy documents back

Documents are stored as they were sent.  A version of a managed policy is shown percent-encoded,
the document of an inline policy is shown as it is stored.

## Main definitions

* `XmlText` — what the XML library does with text
* `percentDecodeText`, `readDocument` — what a client makes of a document in a response

## Main results

* `percentDecodeText_urlEncodePolicyDocument` — an encoded document is decoded to itself
* `percentDecodeText_eq_self_iff` — which documents are decoded to themselves
* `documents_readBack_iff` — which documents come back
-/

namespace Hiraeth

open Interaction Program

/-- **What the XML library does with text**: what it escapes can be read again. -/
structure XmlText where
  escape : Text → Text
  unescape : Text → Option Text
  unescape_escape : ∀ text, unescape (escape text) = some text

/-- Percent decoding of a text. -/
def percentDecodeText (text : Text) : Option Text :=
  (ByteText.percentDecode text).bind fromUtf8

/-- **What a client reads**: the text of an element is unescaped, and then percent-decoded. -/
def readDocument (xml : XmlText) (shown : Text) : Option Text :=
  (xml.unescape (xml.escape shown)).bind percentDecodeText

/-! ### Decoding -/

/-- Only ASCII bytes are kept. -/
theorem keepsDocumentByte_ascii {byte : UInt8} (kept : keepsDocumentByte byte = true) :
    byte.toNat < 128 := by
  unfold keepsDocumentByte at kept
  simp only [Bool.or_eq_true, Bool.and_eq_true, decide_eq_true_iff, UInt8.le_iff_toNat_le,
    ← UInt8.toNat_inj] at kept
  have bounds : (90 : UInt8).toNat = 90 ∧ (122 : UInt8).toNat = 122 ∧ (57 : UInt8).toNat = 57 ∧
      (45 : UInt8).toNat = 45 ∧ (95 : UInt8).toNat = 95 ∧ (46 : UInt8).toNat = 46 ∧
        (126 : UInt8).toNat = 126 := by decide
  omega

/-- **An encoded document is decoded to itself.** -/
theorem percentDecodeText_urlEncodePolicyDocument (document : Text) :
    percentDecodeText (urlEncodePolicyDocument document) = some document := by
  unfold percentDecodeText urlEncodePolicyDocument
  rw [ByteText.percentDecode_percentEncode (by decide) fun _ => keepsDocumentByte_ascii]
  exact fromUtf8_eq_some.mpr rfl

/-- **A document is decoded to itself exactly when it has no percent signs.** -/
theorem percentDecodeText_eq_self_iff {document : Text} :
    percentDecodeText document = some document ↔ '%' ∉ document := by
  rw [← ByteText.percentDecode_eq_self_iff, percentDecodeText, Option.bind_eq_some_iff]
  constructor
  · rintro ⟨bytes, decoded, isDocument⟩
    rw [decoded, fromUtf8_eq_some.mp isDocument]
    rfl
  · intro decoded
    exact ⟨_, decoded, fromUtf8_eq_some.mpr rfl⟩

theorem readDocument_eq (xml : XmlText) (shown : Text) :
    readDocument xml shown = percentDecodeText shown := by
  rw [readDocument, xml.unescape_escape, Option.bind_some]

/-! ### Handlers -/

section Handlers

variable {database final : IamDatabase} {request : ResolvedRequest}

/-- A user is looked up, and nothing changes. -/
theorem succeeds_findUser_iff {accountId name missing : Text} {user : Principal} :
    Succeeds IamDatabase.serve (findUser accountId name missing) database user final ↔
      database.getPrincipalByIdentity accountId "user" name = some user ∧ database = final := by
  unfold findUser
  rw [succeeds_bind]
  have asked : (iamCall (.getPrincipalByIdentity accountId "user" name)).run IamDatabase.serve
      database = (.ok (database.getPrincipalByIdentity accountId "user" name), database) := rfl
  constructor
  · rintro ⟨found, between, answered, succeeds⟩
    obtain ⟨same, rfl⟩ := Prod.mk.inj (asked.symm.trans (succeeds_orFail.mp answered))
    obtain rfl := Except.ok.inj same
    cases found : database.getPrincipalByIdentity accountId "user" name with
    | none =>
        rw [found] at succeeds
        exact absurd succeeds (by simp)
    | some principal =>
        rw [found] at succeeds
        obtain ⟨rfl, rfl⟩ := succeeds_pure.mp succeeds
        exact ⟨rfl, rfl⟩
  · rintro ⟨found, rfl⟩
    refine ⟨_, _, succeeds_orFail.mpr asked, ?_⟩
    rw [found]
    exact succeeds_pure.mpr ⟨rfl, rfl⟩

/-- A policy is looked up, and nothing changes. -/
theorem succeeds_findManagedPolicy_iff {arn : PolicyArn} {spelled : Text} {policy : ManagedPolicy} :
    Succeeds IamDatabase.serve (findManagedPolicy arn spelled) database policy final ↔
      database.getManagedPolicy arn.accountId arn.policyName arn.policyPath = some policy ∧
        database = final := by
  unfold Succeeds
  rw [run_findManagedPolicy]
  cases found : database.getManagedPolicy arn.accountId arn.policyName arn.policyPath with
  | none => simp
  | some row => simp

/-- **What `GetPolicyVersion` shows**: the encoded document of the policy. -/
theorem succeeds_handleGetPolicyVersion {getRequest : PolicyRequest}
    {response : GetPolicyVersionResponse}
    (succeeds : Succeeds IamDatabase.serve (handleGetPolicyVersion request getRequest) database
      response final) :
    ∃ arn policy, parsePolicyArn getRequest.policyArn = .ok arn ∧
      database.getManagedPolicy arn.accountId arn.policyName arn.policyPath = some policy ∧
        response.document = urlEncodePolicyDocument policy.policyDocument := by
  unfold handleGetPolicyVersion at succeeds
  obtain ⟨arn, _, parses, rest⟩ := succeeds_bind.mp succeeds
  obtain ⟨parsed, rfl⟩ := succeeds_liftExcept.mp parses
  obtain ⟨policy, _, finds, answers⟩ := succeeds_bind.mp rest
  obtain ⟨found, rfl⟩ := succeeds_findManagedPolicy_iff.mp finds
  obtain ⟨rfl, -⟩ := succeeds_pure.mp answers
  exact ⟨arn, policy, parsed, found, rfl⟩

/-- **What `GetUserPolicy` shows**: the document of the policy as it is stored. -/
theorem succeeds_handleGetUserPolicy {getRequest : GetUserPolicyRequest}
    {response : GetUserPolicyResponse}
    (succeeds : Succeeds IamDatabase.serve (handleGetUserPolicy request getRequest) database
      response final) :
    ∃ user policy,
      database.getPrincipalByIdentity request.accountId "user" getRequest.userName = some user ∧
        database.getPrincipalPolicy user.id getRequest.policyName = some policy ∧
          response.policyDocument = policy.policyDocument := by
  unfold handleGetUserPolicy at succeeds
  obtain ⟨user, _, finds, rest⟩ := succeeds_bind.mp succeeds
  obtain ⟨isUser, rfl⟩ := succeeds_findUser_iff.mp finds
  obtain ⟨found, between, answered, answers⟩ := succeeds_bind.mp rest
  have asked : (iamCall (.getPrincipalPolicy user.id getRequest.policyName)).run IamDatabase.serve
      database = (.ok (database.getPrincipalPolicy user.id getRequest.policyName), database) := rfl
  obtain ⟨same, rfl⟩ := Prod.mk.inj (asked.symm.trans (succeeds_orFail.mp answered))
  obtain rfl := Except.ok.inj same
  cases found : database.getPrincipalPolicy user.id getRequest.policyName with
  | none =>
      rw [found] at answers
      exact absurd answers (by simp)
  | some policy =>
      rw [found] at answers
      obtain ⟨rfl, -⟩ := succeeds_pure.mp answers
      exact ⟨user, policy, isUser, found, rfl⟩

/-- **`CreatePolicy` stores the document that was sent.** -/
theorem stored_handleCreatePolicy {generated : Generated} {payload : CreatePolicyRequest}
    {response : IamPolicyXml × Text}
    (succeeds : Succeeds IamDatabase.serve (handleCreatePolicy generated request payload) database
      response final) :
    ∃ policy, final.getManagedPolicy request.accountId payload.policyName
        (normalizePolicyPath payload.path) = some policy ∧
      policy.policyDocument = payload.policyDocument := by
  unfold handleCreatePolicy at succeeds
  obtain ⟨created, between, inserted, answered⟩ := succeeds_bind.mp succeeds
  obtain ⟨rfl, rfl⟩ := succeeds_pure.mp answered
  have inserting := succeeds_orFail.mp inserted
  rw [run_iamCall, serve_insertManagedPolicy] at inserting
  unfold IamDatabase.insertManagedPolicy at inserting
  dsimp only at inserting
  split_ifs at inserting with sameId sameName
  · cases inserting
  · cases inserting
  · cases inserting
    rw [Bool.not_eq_true, Option.isSome_eq_false_iff, Option.isNone_iff_eq_none] at sameName
    exact ⟨_, @RowTable.find_insert _ _ _ _ (fun _ => rfl) _ sameName (by
      simp only [IamDatabase.isPolicyNamed, IamDatabase.newManagedPolicyRow, decide_true,
        Bool.and_self]), rfl⟩

/-- The document of an inline policy after it was put. -/
theorem getPrincipalPolicy_putInlinePolicy {principalId : RowId} {policyName policyDocument : Text}
    {row : PrincipalInlinePolicy}
    (puts : database.putInlinePolicy principalId policyName policyDocument = (.ok row, final)) :
    ∃ policy, final.getPrincipalPolicy principalId policyName = some policy ∧
      policy.policyDocument = policyDocument ∧ final.principals = database.principals := by
  unfold IamDatabase.putInlinePolicy at puts
  cases before : database.getPrincipalPolicy principalId policyName with
  | some old =>
      rw [before] at puts
      obtain ⟨-, rfl⟩ := Prod.mk.inj puts
      refine ⟨database.replaceDocument principalId policyName policyDocument old, ?_, ?_, rfl⟩
      · have mapped : (database.inlinePolicies.map
            (database.replaceDocument principalId policyName policyDocument)
            (database.replaceDocument_id principalId policyName policyDocument)).find
              (fun row => row.principalId = principalId && row.policyName = policyName) = _ :=
          RowTable.find_map fun row => by
            rw [IamDatabase.replaceDocument_principalId, IamDatabase.replaceDocument_policyName]
        exact mapped.trans (congrArg _ before)
      · have isWanted := RowTable.wanted_of_find_eq_some before
        rw [Bool.and_eq_true, decide_eq_true_iff, decide_eq_true_iff] at isWanted
        rw [IamDatabase.replaceDocument, if_pos isWanted]
  | none =>
      rw [before] at puts
      dsimp only at puts
      split_ifs at puts
      · obtain ⟨-, rfl⟩ := Prod.mk.inj puts
        exact ⟨_, @RowTable.find_insert _ _ _ _ (fun _ => rfl) _ before (by
          simp only [IamDatabase.newInlinePolicyRow, decide_true, Bool.and_self]), rfl, rfl⟩
      · cases puts

/-- **`PutUserPolicy` stores the document that was sent.** -/
theorem stored_handlePutUserPolicy {payload : PutUserPolicyRequest} {response : Text}
    (succeeds : Succeeds IamDatabase.serve (handlePutUserPolicy request payload) database
      response final) :
    ∃ user policy,
      final.getPrincipalByIdentity request.accountId "user" payload.userName = some user ∧
        final.getPrincipalPolicy user.id payload.policyName = some policy ∧
          policy.policyDocument = payload.policyDocument := by
  unfold handlePutUserPolicy at succeeds
  obtain ⟨user, _, finds, rest⟩ := succeeds_bind.mp succeeds
  obtain ⟨isUser, rfl⟩ := succeeds_findUser_iff.mp finds
  obtain ⟨row, between, puts, answers⟩ := succeeds_bind.mp rest
  obtain ⟨-, rfl⟩ := succeeds_pure.mp answers
  obtain ⟨policy, found, sameDocument, samePrincipals⟩ :=
    getPrincipalPolicy_putInlinePolicy (succeeds_orFail.mp puts)
  refine ⟨user, policy, ?_, found, sameDocument⟩
  unfold IamDatabase.getPrincipalByIdentity
  rw [samePrincipals]
  exact isUser

end Handlers

/-- **Which documents come back.**  `CreatePolicy` and `PutUserPolicy` store the document that was
sent.  What `GetPolicyVersion` shows is always read as the stored document.  What `GetUserPolicy`
shows is read as the stored document exactly when this has no percent signs. -/
theorem documents_readBack_iff (xml : XmlText) (request : ResolvedRequest)
    (database final : IamDatabase) :
    (∀ generated payload response,
      Succeeds IamDatabase.serve (handleCreatePolicy generated request payload) database response
          final →
        ∃ policy, final.getManagedPolicy request.accountId payload.policyName
            (normalizePolicyPath payload.path) = some policy ∧
          policy.policyDocument = payload.policyDocument) ∧
    (∀ payload response,
      Succeeds IamDatabase.serve (handlePutUserPolicy request payload) database response final →
        ∃ user policy,
          final.getPrincipalByIdentity request.accountId "user" payload.userName = some user ∧
            final.getPrincipalPolicy user.id payload.policyName = some policy ∧
              policy.policyDocument = payload.policyDocument) ∧
    (∀ getRequest response,
      Succeeds IamDatabase.serve (handleGetPolicyVersion request getRequest) database response
          final →
        ∃ arn policy, parsePolicyArn getRequest.policyArn = .ok arn ∧
          database.getManagedPolicy arn.accountId arn.policyName arn.policyPath = some policy ∧
            readDocument xml response.document = some policy.policyDocument) ∧
    ∀ getRequest response,
      Succeeds IamDatabase.serve (handleGetUserPolicy request getRequest) database response
          final →
        ∃ user policy,
          database.getPrincipalByIdentity request.accountId "user" getRequest.userName =
              some user ∧
            database.getPrincipalPolicy user.id getRequest.policyName = some policy ∧
              (readDocument xml response.policyDocument = some policy.policyDocument ↔
                '%' ∉ policy.policyDocument) := by
  refine ⟨fun _ _ _ => stored_handleCreatePolicy, fun _ _ => stored_handlePutUserPolicy,
    fun getRequest response succeeds => ?_, fun getRequest response succeeds => ?_⟩
  · obtain ⟨arn, policy, parsed, found, shown⟩ := succeeds_handleGetPolicyVersion succeeds
    refine ⟨arn, policy, parsed, found, ?_⟩
    rw [readDocument_eq, shown, percentDecodeText_urlEncodePolicyDocument]
  · obtain ⟨user, policy, isUser, found, shown⟩ := succeeds_handleGetUserPolicy succeeds
    refine ⟨user, policy, isUser, found, ?_⟩
    rw [readDocument_eq, shown, percentDecodeText_eq_self_iff]

/-- A library that escapes nothing, as for texts without angle brackets and ampersands. -/
def plainXml : XmlText where
  escape := id
  unescape := some
  unescape_escape := fun _ => rfl

/-- A document with an escape in it. -/
def percentDocument : Text := "\x7b\"Sid\":\"%41\"\x7d"

/-- A store with one user, who has one inline policy. -/
def inlineStore (document : Text) : IamDatabase :=
  ((IamDatabase.empty.createPrincipal {
    accountId := "000000000000"
    kind := "user"
    name := "alice"
    path := "/"
    userId := "AIDA" }).2.putInlinePolicy 1 "inline" document).2

/-- A request of a user of this account. -/
def inlineRequest : ResolvedRequest where
  requestId := "r"
  request := ⟨"localhost", "POST", "/", none, fun _ => none, []⟩
  service := "iam"
  region := "us-east-1"
  authContext := ⟨"AKIA", ⟨1, "000000000000", "user", "alice", "/", "AIDA", 0⟩⟩
  date := 0

theorem succeeds_getUserPolicy_inlineStore (document : Text) :
    Succeeds IamDatabase.serve (handleGetUserPolicy inlineRequest ⟨"alice", "inline"⟩)
      (inlineStore document) ⟨"alice", "inline", document, "r"⟩ (inlineStore document) := by
  rfl

/-- The document is shown as it is stored, and read as another one. -/
theorem getUserPolicy_percentDocument :
    Succeeds IamDatabase.serve (handleGetUserPolicy inlineRequest ⟨"alice", "inline"⟩)
        (inlineStore percentDocument) ⟨"alice", "inline", percentDocument, "r"⟩
        (inlineStore percentDocument) ∧
      readDocument plainXml percentDocument ≠ some percentDocument := by
  refine ⟨succeeds_getUserPolicy_inlineStore percentDocument, ?_⟩
  rw [readDocument_eq, ne_eq, percentDecodeText_eq_self_iff]
  decide

theorem documents_readBack_iff_inline :
    ∃ user policy,
      (inlineStore percentDocument).getPrincipalByIdentity "000000000000" "user" "alice" =
          some user ∧
        (inlineStore percentDocument).getPrincipalPolicy user.id "inline" = some policy ∧
          (readDocument plainXml percentDocument = some policy.policyDocument ↔
            '%' ∉ policy.policyDocument) :=
  (documents_readBack_iff plainXml inlineRequest (inlineStore percentDocument)
    (inlineStore percentDocument)).2.2.2 _ _ (succeeds_getUserPolicy_inlineStore percentDocument)

end Hiraeth
