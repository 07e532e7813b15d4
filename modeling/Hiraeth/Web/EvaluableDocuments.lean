import Hiraeth.Web.IamConsole

/-!
# Whether stored policy documents can be evaluated

`PutUserPolicy` and `CreatePolicy` accept every JSON object, and the console accepts all JSON.
The authorizer reads a policy, and denies the request when there is none.  The store neither
makes up documents nor alters them, so what the authorizer can read is decided by what was
written.

## Main definitions

* `IamDatabase.documents`, `IamDatabase.documentsOf` — the stored documents, and those of one
  principal
* `IamWork` — requests, forms of the console, and whatever writes no document
* `IamWork.Stores` — the documents that work may store

## Main results

* `documents_of_reachable` — every stored document was stored by some work
* `isSome_readPolicies_iff` — the authorizer reads the policies of a principal exactly when all
  documents of the principal are policies
* `documents_evaluable_iff` — both together, for every state that is reached
* `putUserPolicy_unevaluable` — a document that is accepted, and denies every request
-/

namespace Hiraeth

open Interaction Program

/-! ### Documents -/

namespace IamDatabase

/-- All stored documents. -/
def documents (database : IamDatabase) : List Text :=
  database.inlinePolicies.rows.map (·.policyDocument) ++
    database.managedPolicies.rows.map (·.policyDocument)

/-- The documents that a principal holds, inline or attached. -/
def documentsOf (database : IamDatabase) (principalId : RowId) : List Text :=
  (database.getInlinePoliciesForPrincipal principalId).map (·.policyDocument) ++
    (database.getManagedPoliciesAttachedToPrincipal principalId).map (·.policyDocument)

/-- Every stored document has a property. -/
structure DocumentsSatisfy (holds : Text → Prop) (database : IamDatabase) : Prop where
  inline : ∀ row ∈ database.inlinePolicies.rows, holds row.policyDocument
  managed : ∀ row ∈ database.managedPolicies.rows, holds row.policyDocument

variable {holds : Text → Prop} {database : IamDatabase}

theorem documentsSatisfy_iff :
    DocumentsSatisfy holds database ↔ ∀ document ∈ database.documents, holds document := by
  simp only [documents, List.mem_append, List.mem_map]
  constructor
  · rintro ⟨inline, managed⟩ document (⟨row, member, rfl⟩ | ⟨row, member, rfl⟩)
    · exact inline row member
    · exact managed row member
  · intro every
    exact ⟨fun row member => every _ (.inl ⟨row, member, rfl⟩),
      fun row member => every _ (.inr ⟨row, member, rfl⟩)⟩

/-- A principal holds stored documents. -/
theorem documentsOf_subset (principalId : RowId) :
    database.documentsOf principalId ⊆ database.documents := by
  intro document held
  rcases List.mem_append.mp held with inline | managed
  · obtain ⟨row, member, rfl⟩ := List.mem_map.mp inline
    exact List.mem_append_left _ (List.mem_map_of_mem (List.mem_of_mem_filter member))
  · obtain ⟨row, member, rfl⟩ := List.mem_map.mp managed
    exact List.mem_append_right _ (List.mem_map_of_mem (List.mem_of_mem_filter member))

/-- Rows that stay satisfy what they did. -/
theorem DocumentsSatisfy.of_subset (satisfied : DocumentsSatisfy holds database)
    {later : IamDatabase} (inline : later.inlinePolicies.rows ⊆ database.inlinePolicies.rows)
    (managed : later.managedPolicies.rows ⊆ database.managedPolicies.rows) :
    DocumentsSatisfy holds later :=
  ⟨fun row member => satisfied.inline row (inline member),
    fun row member => satisfied.managed row (managed member)⟩

end IamDatabase

/-- A call that writes only documents with a property. -/
def IamCall.WritesDocuments (holds : Text → Prop) : IamCall → Prop
  | .putInlinePolicy _ _ document => holds document
  | .insertManagedPolicy policy => holds policy.policyDocument
  | .updateManagedPolicyDocument _ document => holds document
  | _ => True

theorem IamCall.writesDocuments_of_writesNone {holds : Text → Prop} {request : IamCall}
    (writesNone : request.WritesNoDocument) : request.WritesDocuments holds := by
  cases request <;> first | exact trivial | exact writesNone.elim

section Store

open IamDatabase

variable {holds : Text → Prop} {database : IamDatabase}

/-- An inline policy that is put becomes a row, or replaces the document of one. -/
theorem documentsSatisfy_putInlinePolicy (satisfied : DocumentsSatisfy holds database)
    {principalId : RowId} {policyName document : Text} (isNew : holds document) :
    DocumentsSatisfy holds (database.putInlinePolicy principalId policyName document).2 := by
  unfold IamDatabase.putInlinePolicy
  cases database.getPrincipalPolicy principalId policyName with
  | some old =>
      refine ⟨fun row member => ?_, satisfied.managed⟩
      obtain ⟨before, stored, rfl⟩ := List.mem_map.mp member
      unfold IamDatabase.replaceDocument
      split_ifs
      · exact isNew
      · exact satisfied.inline before stored
  | none =>
      dsimp only
      split_ifs
      · refine ⟨fun row member => ?_, satisfied.managed⟩
        rcases (@RowTable.mem_insert _ _ _ _ (fun _ => rfl) _).mp member with stored | rfl
        · exact satisfied.inline row stored
        · exact isNew
      · exact satisfied

theorem documentsSatisfy_insertManagedPolicy (satisfied : DocumentsSatisfy holds database)
    {policy : NewManagedPolicy} (isNew : holds policy.policyDocument) :
    DocumentsSatisfy holds (database.insertManagedPolicy policy).2 := by
  unfold IamDatabase.insertManagedPolicy
  cases policy.policyPath with
  | none => exact satisfied
  | some path =>
      dsimp only
      split_ifs
      · exact satisfied
      · exact satisfied
      · refine ⟨satisfied.inline, fun row member => ?_⟩
        rcases (@RowTable.mem_insert _ _ _ _ (fun _ => rfl) _).mp member with stored | rfl
        · exact satisfied.managed row stored
        · exact isNew

theorem documentsSatisfy_updateManagedPolicyDocument (satisfied : DocumentsSatisfy holds database)
    {policyId : RowId} {document : Text} (isNew : holds document) :
    DocumentsSatisfy holds (database.updateManagedPolicyDocument policyId document).2 := by
  unfold IamDatabase.updateManagedPolicyDocument
  cases database.managedPolicies.find (·.id = policyId) with
  | none => exact satisfied
  | some old =>
      refine ⟨satisfied.inline, fun row member => ?_⟩
      obtain ⟨before, stored, rfl⟩ := List.mem_map.mp member
      unfold IamDatabase.updateDocument
      split_ifs
      · exact isNew
      · exact satisfied.managed before stored

/-- **No call makes up a document**: what is stored afterwards was stored before or is the
document of the call. -/
theorem callsKeep_documents :
    CallsKeep IamDatabase.serve (IamCall.WritesDocuments holds) (DocumentsSatisfy holds) := by
  intro request database writes satisfied
  cases request with
  | putInlinePolicy => exact documentsSatisfy_putInlinePolicy satisfied writes
  | insertManagedPolicy => exact documentsSatisfy_insertManagedPolicy satisfied writes
  | updateManagedPolicyDocument =>
      exact documentsSatisfy_updateManagedPolicyDocument satisfied writes
  | createPrincipal principal =>
      show DocumentsSatisfy holds (database.createPrincipal principal).2
      unfold IamDatabase.createPrincipal
      split_ifs <;> exact satisfied.of_subset (List.Subset.refl _) (List.Subset.refl _)
  | deletePrincipal principalId =>
      show DocumentsSatisfy holds (database.deletePrincipal principalId).2
      unfold IamDatabase.deletePrincipal
      split_ifs
      · exact satisfied.of_subset (fun _ => List.mem_of_mem_filter) (List.Subset.refl _)
      · exact satisfied
  | deleteUser accountId name =>
      show DocumentsSatisfy holds (database.deleteUser accountId name).2
      unfold IamDatabase.deleteUser
      split_ifs
      · exact satisfied.of_subset (fun _ => List.mem_of_mem_filter) (List.Subset.refl _)
      · exact satisfied
  | deleteInlinePolicy principalId policyName =>
      show DocumentsSatisfy holds (database.deleteInlinePolicy principalId policyName).2
      unfold IamDatabase.deleteInlinePolicy
      dsimp only
      split_ifs
      · exact satisfied.of_subset (fun _ => List.mem_of_mem_filter) (List.Subset.refl _)
      · exact satisfied
  | deleteManagedPolicy accountId policyName policyPath =>
      show DocumentsSatisfy holds (database.deleteManagedPolicy accountId policyName policyPath).2
      unfold IamDatabase.deleteManagedPolicy
      split_ifs
      · exact satisfied.of_subset (List.Subset.refl _) (fun _ => List.mem_of_mem_filter)
      · exact satisfied
  | insertSecretKey accessKey secretKey principalId =>
      show DocumentsSatisfy holds (database.insertSecretKey accessKey secretKey principalId).2
      unfold IamDatabase.insertSecretKey
      dsimp only
      split_ifs <;> exact satisfied.of_subset (List.Subset.refl _) (List.Subset.refl _)
  | deleteAccessKeyForPrincipal principalId accessKey =>
      show DocumentsSatisfy holds (database.deleteAccessKeyForPrincipal principalId accessKey).2
      unfold IamDatabase.deleteAccessKeyForPrincipal
      dsimp only
      split_ifs <;> exact satisfied.of_subset (List.Subset.refl _) (List.Subset.refl _)
  | attachPolicyToPrincipal policyId principalId =>
      show DocumentsSatisfy holds (database.attachPolicyToPrincipal policyId principalId).2
      unfold IamDatabase.attachPolicyToPrincipal
      split_ifs <;> exact satisfied.of_subset (List.Subset.refl _) (List.Subset.refl _)
  | detachPolicyFromPrincipal policyId principalId =>
      show DocumentsSatisfy holds (database.detachPolicyFromPrincipal policyId principalId).2
      unfold IamDatabase.detachPolicyFromPrincipal
      dsimp only
      split_ifs <;> exact satisfied.of_subset (List.Subset.refl _) (List.Subset.refl _)
  | getSecretKey | listAccessKeysForPrincipal | getPrincipal | getPrincipalByIdentity
  | listPrincipals | getInlinePoliciesForPrincipal | getPrincipalPolicy | getManagedPolicy
  | listManagedPolicies | getManagedPoliciesAttachedToPrincipal => exact satisfied

end Store

/-! ### Reading policies -/

section Reading

variable {library : JsonLibrary} {database : IamDatabase}

/-- All documents are parsed, or none. -/
theorem isSome_parseAll_iff {documents : List Text} :
    (parseAll (parsePolicyText library) documents).isSome ↔
      ∀ document ∈ documents, IsPolicy library document := by
  unfold parseAll
  induction documents with
  | nil => simp
  | cons document documents inductionHypothesis =>
      rw [List.forall_mem_cons, ← inductionHypothesis, List.mapM_cons]
      unfold IsPolicy
      cases parsePolicyText library document with
      | error failure => simp [Except.toOption]
      | ok policy =>
          have rest (later : Option (List Policy)) :
              (later.bind fun policies => some (policy :: policies)).isSome = later.isSome := by
            cases later <;> rfl
          exact (iff_of_eq (congrArg (· = true) (rest _))).trans (by simp)

/-- **The policies of a principal are read exactly when all documents of the principal are
policies.** -/
theorem isSome_readPolicies_iff {principalId : RowId} :
    (readPolicies (parsePolicyText library) IamDatabase.serve principalId database).isSome ↔
      ∀ document ∈ database.documentsOf principalId, IsPolicy library document := by
  have sources : readPolicies (parsePolicyText library) IamDatabase.serve principalId database =
      (parseAll (parsePolicyText library)
        ((database.getInlinePoliciesForPrincipal principalId).map (·.policyDocument))).bind
          fun inline => (parseAll (parsePolicyText library)
            ((database.getManagedPoliciesAttachedToPrincipal principalId).map
              (·.policyDocument))).bind fun managed => some (inline, managed) := rfl
  rw [sources, IamDatabase.documentsOf, List.forall_mem_append, ← isSome_parseAll_iff,
    ← isSome_parseAll_iff]
  cases parseAll (parsePolicyText library)
      ((database.getInlinePoliciesForPrincipal principalId).map (·.policyDocument)) with
  | none => simp
  | some inline =>
      cases parseAll (parsePolicyText library)
        ((database.getManagedPoliciesAttachedToPrincipal principalId).map (·.policyDocument)) with
      | none => simp
      | some managed => simp

/-- **Whoever holds another document is denied everything.** -/
theorem denied_of_unreadable {request : ResolvedRequest} {document : Text}
    (held : document ∈ database.documentsOf request.authContext.principal.id)
    (unreadable : ¬ IsPolicy library document) (check : AuthorizationCheck) :
    ((authorize (parsePolicyText library) .enforce request check).run IamDatabase.serve
      database).1 = .deny := by
  cases decision : ((authorize (parsePolicyText library) .enforce request check).run
      IamDatabase.serve database).1 with
  | deny => rfl
  | allow =>
      obtain ⟨inline, managed, read, -⟩ := (authorize_enforce request check database).mp decision
      have readable := isSome_readPolicies_iff.mp (Option.isSome_of_eq_some read)
      exact absurd (readable document held) unreadable

end Reading

/-! ### Work -/

/-- **What may go on at a store of identities**: requests, the forms of the console that write
policies, and whatever writes no policy document. -/
inductive IamWork where
  | request (task : IamTask)
  | form (sent : IamForm)
  | other (steps : IamProgram Unit)
      (writesNoDocument : @AllCalls iamStore _ IamCall.WritesNoDocument steps)

/-- Work as a program over the store. -/
def IamWork.program (parse : FormParser) (library : JsonLibrary) : IamWork → IamProgram Unit
  | .request task => task.program parse library.reader
  | .form sent => sent.program library
  | .other steps _ => steps

/-- **The documents that work may store**: that of an accepted payload as it was sent, and that
of a form as it was normalized. -/
inductive IamWork.Stores (parse : FormParser) (library : JsonLibrary) : IamWork → Text → Prop
  | putUserPolicy {task : IamTask} {payload : PutUserPolicyRequest}
      (isAction : task.action = .putUserPolicy)
      (accepted : (putUserPolicyAction parse library.reader).Accepts task.request payload) :
      Stores parse library (.request task) payload.policyDocument
  | createPolicy {task : IamTask} {payload : CreatePolicyRequest}
      (isAction : task.action = .createPolicy)
      (accepted : (createPolicyAction parse library.reader task.generated).Accepts task.request
        payload) :
      Stores parse library (.request task) payload.policyDocument
  | form {sent : IamForm} {document : Text}
      (normalized : normalizePolicyDocument library sent.document = .ok document) :
      Stores parse library (.form sent) document

section Work

variable {parse : FormParser} {library : JsonLibrary}

/-- **Work writes its own documents only.** -/
theorem IamWork.allCalls {holds : Text → Prop} (work : IamWork)
    (own : ∀ document, work.Stores parse library document → holds document) :
    @AllCalls iamStore _ (IamCall.WritesDocuments holds) (work.program parse library) := by
  have plain : ∀ request : IamCall, request.WritesNoDocument → request.WritesDocuments holds :=
    fun _ => IamCall.writesDocuments_of_writesNone
  cases work with
  | request task =>
      refine IamTask.allCalls plain fun request writes => ?_
      cases writes with
      | putUserPolicy isAction accepted => exact own _ (.putUserPolicy isAction accepted)
      | @createPolicy payload policy isAction accepted isDocument =>
          show holds policy.policyDocument
          rw [isDocument]
          exact own _ (.createPolicy isAction accepted)
  | form sent =>
      exact IamForm.allCalls sent plain (fun _ _ document normalized => own _ (.form normalized))
        (fun policy normalized => own _ (.form normalized))
        fun _ document normalized => own _ (.form normalized)
  | other steps writesNoDocument => exact AllCalls.mono writesNoDocument plain

/-- **Every stored document was stored by some work**, or was there from the start. -/
theorem documents_of_reachable {ι : Type} [DecidableEq ι] {work : ι → IamWork}
    {start config : Config iamStore Unit ι IamDatabase}
    (begins : ∀ thread, start.threads thread = (work thread).program parse library)
    (reachable : Reachable IamDatabase.serve (fun _ _ => True) start config) :
    ∀ document ∈ config.shared.documents, document ∈ start.shared.documents ∨
      ∃ thread, (work thread).Stores parse library document := by
  have initially : IamDatabase.DocumentsSatisfy (fun document =>
      document ∈ start.shared.documents ∨ ∃ thread, (work thread).Stores parse library document)
      start.shared :=
    IamDatabase.documentsSatisfy_iff.mpr fun document stored => .inl stored
  refine IamDatabase.documentsSatisfy_iff.mp
    (callsKeep_documents.reachable (fun thread => ?_) initially reachable).1
  rw [begins]
  exact (work thread).allCalls fun document stores => .inr ⟨thread, stores⟩

/-- **Which stored documents can be evaluated.**  In every state that work reaches, every
document is one that some work stored, or was there from the start.  The authorizer can read the
policies of a principal exactly when all the documents that the principal holds are policies,
and otherwise denies the principal everything.  So it can always read them when only policies
are accepted. -/
theorem documents_evaluable_iff {ι : Type} [DecidableEq ι] {work : ι → IamWork}
    {start config : Config iamStore Unit ι IamDatabase}
    (begins : ∀ thread, start.threads thread = (work thread).program parse library)
    (reachable : Reachable IamDatabase.serve (fun _ _ => True) start config) :
    (∀ document ∈ config.shared.documents, document ∈ start.shared.documents ∨
      ∃ thread, (work thread).Stores parse library document) ∧
    (∀ principalId,
      (readPolicies (parsePolicyText library) IamDatabase.serve principalId
        config.shared).isSome ↔
        ∀ document ∈ config.shared.documentsOf principalId, IsPolicy library document) ∧
    (∀ (request : ResolvedRequest) (check : AuthorizationCheck),
      (∃ document ∈ config.shared.documentsOf request.authContext.principal.id,
        ¬ IsPolicy library document) →
      ((authorize (parsePolicyText library) .enforce request check).run IamDatabase.serve
        config.shared).1 = .deny) ∧
    ((∀ document ∈ start.shared.documents, IsPolicy library document) →
      (∀ thread document, (work thread).Stores parse library document →
        IsPolicy library document) →
      ∀ principalId, (readPolicies (parsePolicyText library) IamDatabase.serve principalId
        config.shared).isSome) := by
  have provenance := documents_of_reachable begins reachable
  refine ⟨provenance, fun principalId => isSome_readPolicies_iff, ?_, ?_⟩
  · rintro request check ⟨document, held, unreadable⟩
    exact denied_of_unreadable held unreadable check
  · intro initially accepted principalId
    refine isSome_readPolicies_iff.mpr fun document held => ?_
    rcases provenance document (IamDatabase.documentsOf_subset principalId held) with
      old | ⟨thread, stores⟩
    · exact initially document old
    · exact accepted thread document stores

end Work

/-! ### A statement that is not in a list -/

/-- A statement that allows everything, as JSON. -/
def allowEverythingJson : Json :=
  .object [("Effect", .string "Allow"), ("Action", .string "*"), ("Resource", .string "*")]

/-- `{"Statement":{"Effect":"Allow","Action":"*","Resource":"*"}}`: one statement, and no list
around it. -/
def loneStatementDocument : Text :=
  ("\x7b\"Statement\":\x7b\"Effect\":\"Allow\"," : Text) ++
    "\"Action\":\"*\",\"Resource\":\"*\"\x7d\x7d".toList

/-- The JSON library on the documents that are stored below. -/
def statementLibrary : JsonLibrary where
  read := fun bytes =>
    if bytes = allowEverythingDocument.utf8 then
      .ok (.object [("Statement", .array [allowEverythingJson])])
    else if bytes = loneStatementDocument.utf8 then
      .ok (.object [("Statement", allowEverythingJson)])
    else .error "expected value at line 1 column 1"
  write := fun _ => allowEverythingDocument

/-- A request of a user of this account. -/
def aliceRequest (body : Text) : ResolvedRequest where
  requestId := "request"
  request := {
    host := "localhost"
    method := "POST"
    path := "/"
    query := none
    headers := fun _ => none
    body := body.utf8 }
  service := "iam"
  region := "us-east-1"
  authContext := {
    accessKey := "AKIAALICE"
    principal := ⟨1, "000000000000", "user", "alice", "/", "AIDAALICE", 0⟩ }
  date := 0

/-- A store with one user, who may do everything by an inline policy. -/
def aliceDatabase : IamDatabase :=
  ((IamDatabase.empty.createPrincipal
    ⟨"000000000000", "user", "alice", "/", "AIDAALICE"⟩).2.putInlinePolicy 1 "everything"
      allowEverythingDocument).2

/-- The user puts a second policy. -/
def putLoneStatement : IamTask where
  generated := ⟨[], [], []⟩
  parsePolicy := parsePolicyText statementLibrary
  mode := .enforce
  request := aliceRequest (("Action=PutUserPolicy&UserName=alice&PolicyName=lone&" : Text) ++
    "PolicyDocument=".toList ++ loneStatementDocument)
  action := .putUserPolicy

def putLoneStatementStart : Config iamStore Unit Unit IamDatabase where
  shared := aliceDatabase
  threads := fun _ => putLoneStatement.program plainForm statementLibrary.reader
  log := []

/-- The whole request. -/
def putLoneStatementRun : Config iamStore Unit Unit IamDatabase :=
  putLoneStatementStart.play IamDatabase.serve [(), (), (), (), ()]

theorem reachable_putLoneStatementRun :
    Reachable IamDatabase.serve (fun _ _ => True) putLoneStatementStart putLoneStatementRun :=
  Reachable.play (fun _ _ _ => trivial) .start Config.passes_true

/-- **A document is accepted that denies every request.**  The user may do everything, and puts
a document in which the statement is not in a list.  The request is authorized and answered, and
from then on the user's own policies cannot be read. -/
theorem putUserPolicy_unevaluable :
    (((putUserPolicyAction plainForm statementLibrary.reader).route
        (authorize (parsePolicyText statementLibrary) .enforce) putLoneStatement.request).run
          IamDatabase.serve aliceDatabase).1 = .answered ("request" : Text) ∧
      Reachable IamDatabase.serve (fun _ _ => True) putLoneStatementStart putLoneStatementRun ∧
      (readPolicies (parsePolicyText statementLibrary) IamDatabase.serve 1
        aliceDatabase).isSome = true ∧
      (readPolicies (parsePolicyText statementLibrary) IamDatabase.serve 1
        putLoneStatementRun.shared).isSome = false ∧
      ((authorize (parsePolicyText statementLibrary) .enforce (aliceRequest [])
        ⟨"sqs:SendMessage", localOrders, none⟩).run IamDatabase.serve aliceDatabase).1 = .allow ∧
      ((authorize (parsePolicyText statementLibrary) .enforce (aliceRequest [])
        ⟨"sqs:SendMessage", localOrders, none⟩).run IamDatabase.serve
          putLoneStatementRun.shared).1 = .deny :=
  ⟨by decide +kernel, reachable_putLoneStatementRun, by decide +kernel, by decide +kernel,
    by decide +kernel, by decide +kernel⟩

/-- The policies of this user can be read when no document but a policy is held. -/
theorem documents_evaluable_iff_loneStatement :
    (readPolicies (parsePolicyText statementLibrary) IamDatabase.serve 1
        putLoneStatementRun.shared).isSome ↔
      ∀ document ∈ putLoneStatementRun.shared.documentsOf 1,
        IsPolicy statementLibrary document :=
  (@documents_evaluable_iff plainForm statementLibrary Unit _ (fun _ => .request putLoneStatement)
    putLoneStatementStart _ (fun _ => rfl) reachable_putLoneStatementRun).2.1 1

end Hiraeth
