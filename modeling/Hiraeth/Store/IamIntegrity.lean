import Hiraeth.Store.SqliteIam

/-!
# The constraints of the IAM tables

The migrations declare unique columns and foreign keys.  This module states them
and shows that every call of the store keeps them.

## Main definitions

* `IamDatabase.Valid` — the declared constraints

## Main results

* `IamDatabase.serve_valid` — every call keeps the constraints
-/

namespace Hiraeth

open Interaction

namespace IamDatabase

/-- The constraints that the migrations declare. -/
structure Valid (database : IamDatabase) : Prop where
  userId : database.principals.UniqueOn Principal.userId
  identity : database.principals.UniqueOn fun row => (row.accountId, row.kind, row.name)
  keyId : database.accessKeys.UniqueOn AccessKeyRow.keyId
  keyOwner : database.accessKeys.References AccessKeyRow.principalId database.principals
  inlineName : database.inlinePolicies.UniqueOn fun row => (row.principalId, row.policyName)
  inlineOwner : database.inlinePolicies.References PrincipalInlinePolicy.principalId
    database.principals
  policyId : database.managedPolicies.UniqueOn ManagedPolicy.policyId
  policyName : database.managedPolicies.UniqueOn fun row =>
    (row.accountId, row.policyName, row.policyPath)
  attachment : database.attachments.UniqueOn fun row => (row.userId, row.policyId)
  attachedUser : database.attachments.References PolicyAttachment.userId database.principals
  attachedPolicy : database.attachments.References PolicyAttachment.policyId
    database.managedPolicies

variable {database : IamDatabase}

theorem empty_valid : empty.Valid where
  userId := RowTable.uniqueOn_empty
  identity := RowTable.uniqueOn_empty
  keyId := RowTable.uniqueOn_empty
  keyOwner := RowTable.references_empty
  inlineName := RowTable.uniqueOn_empty
  inlineOwner := RowTable.references_empty
  policyId := RowTable.uniqueOn_empty
  policyName := RowTable.uniqueOn_empty
  attachment := RowTable.uniqueOn_empty
  attachedUser := RowTable.references_empty
  attachedPolicy := RowTable.references_empty

theorem hasPrincipal_iff {principalId : RowId} :
    database.hasPrincipal principalId ↔
      ∃ row ∈ database.principals.rows, row.id = principalId := by
  simp [hasPrincipal]

/-! ### Principals -/

theorem getPrincipalByIdentity_eq_none {accountId kind name : Text} :
    database.getPrincipalByIdentity accountId kind name = none ↔
      ∀ row ∈ database.principals.rows,
        (row.accountId, row.kind, row.name) ≠ (accountId, kind, name) := by
  simp [getPrincipalByIdentity, RowTable.find_eq_none, and_assoc]

theorem createPrincipal_valid (valid : database.Valid) (principal : NewPrincipal) :
    (database.createPrincipal principal).2.Valid := by
  unfold createPrincipal
  split
  · exact valid
  · rename_i newUserId
    split
    · exact valid
    · rename_i newIdentity
      have userIds : ∀ row ∈ database.principals.rows, row.userId ≠ principal.userId := by
        simpa using newUserId
      have identities := getPrincipalByIdentity_eq_none.mp
        (Option.not_isSome_iff_eq_none.mp newIdentity)
      exact { valid with
        userId := valid.userId.insert (fun _ => rfl) userIds
        identity := valid.identity.insert (fun _ => rfl) identities
        keyOwner := valid.keyOwner.insertParent fun _ => rfl
        inlineOwner := valid.inlineOwner.insertParent fun _ => rfl
        attachedUser := valid.attachedUser.insertParent fun _ => rfl }

theorem deletePrincipalsWhere_valid (valid : database.Valid) (doomed : Principal → Bool) :
    (database.deletePrincipalsWhere doomed).Valid := by
  have cascades : ∀ parent ∈ database.principals.rows, doomed parent →
      database.orphaned doomed parent.id := by
    intro parent member spared
    simp only [orphaned, List.any_eq_true, Bool.and_eq_true, decide_eq_true_eq]
    exact ⟨parent, member, spared, rfl⟩
  exact {
    userId := valid.userId.filter _
    identity := valid.identity.filter _
    keyId := valid.keyId.filter _
    keyOwner := valid.keyOwner.cascade (database.orphaned doomed) cascades
    inlineName := valid.inlineName.filter _
    inlineOwner := valid.inlineOwner.cascade (database.orphaned doomed) cascades
    policyId := valid.policyId
    policyName := valid.policyName
    attachment := valid.attachment.filter _
    attachedUser := valid.attachedUser.cascade (database.orphaned doomed) cascades
    attachedPolicy := valid.attachedPolicy.filter _ }

/-! ### Access keys and inline policies -/

theorem insertSecretKey_valid (valid : database.Valid) (accessKey secretKey : Text)
    (principalId : RowId) :
    (database.insertSecretKey accessKey secretKey principalId).2.Valid := by
  unfold insertSecretKey
  simp only
  split
  · exact valid
  · rename_i newKeyId
    split
    · rename_i known
      have keyIds : ∀ row ∈ database.accessKeys.rows, row.keyId ≠ accessKey := by
        simpa using newKeyId
      exact { valid with
        keyId := valid.keyId.insert (fun _ => rfl) keyIds
        keyOwner := valid.keyOwner.insert (fun _ => rfl) (hasPrincipal_iff.mp known) }
    · exact valid

theorem getPrincipalPolicy_eq_none {principalId : RowId} {policyName : Text} :
    database.getPrincipalPolicy principalId policyName = none ↔
      ∀ row ∈ database.inlinePolicies.rows,
        (row.principalId, row.policyName) ≠ (principalId, policyName) := by
  simp [getPrincipalPolicy, RowTable.find_eq_none]

theorem replaceDocument_principalId (principalId : RowId) (policyName policyDocument : Text)
    (row : PrincipalInlinePolicy) :
    (database.replaceDocument principalId policyName policyDocument row).principalId =
      row.principalId := by
  unfold replaceDocument
  split <;> rfl

theorem replaceDocument_policyName (principalId : RowId) (policyName policyDocument : Text)
    (row : PrincipalInlinePolicy) :
    (database.replaceDocument principalId policyName policyDocument row).policyName =
      row.policyName := by
  unfold replaceDocument
  split <;> rfl

theorem putInlinePolicy_valid (valid : database.Valid) (principalId : RowId)
    (policyName policyDocument : Text) :
    (database.putInlinePolicy principalId policyName policyDocument).2.Valid := by
  unfold putInlinePolicy
  cases found : database.getPrincipalPolicy principalId policyName with
  | some row =>
      exact { valid with
        inlineName := valid.inlineName.map
          (database.replaceDocument_id principalId policyName policyDocument) fun row => by
            rw [replaceDocument_principalId, replaceDocument_policyName]
        inlineOwner := valid.inlineOwner.map
          (database.replaceDocument_id principalId policyName policyDocument) fun row => replaceDocument_principalId .. }
  | none =>
      simp only
      split
      · rename_i known
        exact { valid with
          inlineName := valid.inlineName.insert (fun _ => rfl) (getPrincipalPolicy_eq_none.mp found)
          inlineOwner := valid.inlineOwner.insert (fun _ => rfl) (hasPrincipal_iff.mp known) }
      · exact valid

/-! ### Managed policies and attachments -/

theorem getManagedPolicy_eq_none {accountId policyName policyPath : Text} :
    database.getManagedPolicy accountId policyName policyPath = none ↔
      ∀ row ∈ database.managedPolicies.rows,
        (row.accountId, row.policyName, row.policyPath) ≠
          (accountId, policyName, some policyPath) := by
  simp [getManagedPolicy, isPolicyNamed, RowTable.find_eq_none, and_assoc]

theorem insertManagedPolicy_valid (valid : database.Valid) (policy : NewManagedPolicy) :
    (database.insertManagedPolicy policy).2.Valid := by
  unfold insertManagedPolicy
  cases path : policy.policyPath with
  | none => exact valid
  | some policyPath =>
      simp only
      split
      · exact valid
      · rename_i newPolicyId
        split
        · exact valid
        · rename_i newName
          have policyIds : ∀ row ∈ database.managedPolicies.rows,
              row.policyId ≠ policy.policyId := by
            simpa using newPolicyId
          have names := getManagedPolicy_eq_none.mp
            (Option.not_isSome_iff_eq_none.mp newName)
          rw [← path] at names
          exact { valid with
            policyId := valid.policyId.insert (fun _ => rfl) policyIds
            policyName := valid.policyName.insert (fun _ => rfl) names
            attachedPolicy := valid.attachedPolicy.insertParent fun _ => rfl }

theorem updateManagedPolicyDocument_valid (valid : database.Valid) (policyId : RowId)
    (policyDocument : Text) :
    (database.updateManagedPolicyDocument policyId policyDocument).2.Valid := by
  have sameColumns : ∀ row : ManagedPolicy,
      let changed := database.updateDocument policyId policyDocument row
      changed.policyId = row.policyId ∧ changed.accountId = row.accountId ∧
        changed.policyName = row.policyName ∧ changed.policyPath = row.policyPath := by
    intro row
    simp only [updateDocument]
    split <;> exact ⟨rfl, rfl, rfl, rfl⟩
  unfold updateManagedPolicyDocument
  split
  · exact { valid with
      policyId := valid.policyId.map (database.updateDocument_id policyId policyDocument) fun row =>
        (sameColumns row).1
      policyName := valid.policyName.map (database.updateDocument_id policyId policyDocument) fun row => by
        obtain ⟨-, account, name, path⟩ := sameColumns row
        rw [account, name, path]
      attachedPolicy := valid.attachedPolicy.mapParent (database.updateDocument_id policyId policyDocument) }
  · exact valid

theorem deleteManagedPoliciesWhere_valid (valid : database.Valid)
    (doomed : ManagedPolicy → Bool) : (database.deleteManagedPoliciesWhere doomed).Valid := by
  have cascades : ∀ parent ∈ database.managedPolicies.rows, doomed parent →
      database.managedPolicies.rows.any fun policy => doomed policy && policy.id = parent.id := by
    intro parent member spared
    simp only [List.any_eq_true, Bool.and_eq_true, decide_eq_true_eq]
    exact ⟨parent, member, spared, rfl⟩
  exact { valid with
    policyId := valid.policyId.filter _
    policyName := valid.policyName.filter _
    attachment := valid.attachment.filter _
    attachedUser := valid.attachedUser.filter _
    attachedPolicy := valid.attachedPolicy.cascade
      (fun id => database.managedPolicies.rows.any fun policy => doomed policy && policy.id = id)
      cascades }

theorem attachPolicyToPrincipal_valid (valid : database.Valid) (policyId principalId : RowId) :
    (database.attachPolicyToPrincipal policyId principalId).2.Valid := by
  unfold attachPolicyToPrincipal
  split
  · exact valid
  · rename_i newAttachment
    split
    · rename_i known
      obtain ⟨user, policy⟩ := Bool.and_eq_true_iff.mp known
      have policyKnown : ∃ row ∈ database.managedPolicies.rows, row.id = policyId := by
        simpa using policy
      have attachments : ∀ row ∈ database.attachments.rows,
          (row.userId, row.policyId) ≠ (principalId, policyId) := by
        simpa using newAttachment
      exact { valid with
        attachment := valid.attachment.insert (fun _ => rfl) attachments
        attachedUser := valid.attachedUser.insert (fun _ => rfl) (hasPrincipal_iff.mp user)
        attachedPolicy := valid.attachedPolicy.insert (fun _ => rfl) policyKnown }
    · exact valid

/-! ### Every call -/

/-- **Every call of the store keeps the declared constraints.** -/
theorem serve_valid (request : IamCall) (valid : database.Valid) :
    (serve request database).2.Valid := by
  cases request with
  | insertSecretKey accessKey secretKey principalId =>
      exact insertSecretKey_valid valid accessKey secretKey principalId
  | createPrincipal principal => exact createPrincipal_valid valid principal
  | putInlinePolicy principalId policyName policyDocument =>
      exact putInlinePolicy_valid valid principalId policyName policyDocument
  | insertManagedPolicy policy => exact insertManagedPolicy_valid valid policy
  | updateManagedPolicyDocument policyId policyDocument =>
      exact updateManagedPolicyDocument_valid valid policyId policyDocument
  | attachPolicyToPrincipal policyId principalId =>
      exact attachPolicyToPrincipal_valid valid policyId principalId
  | deletePrincipal principalId =>
      simp only [serve, deletePrincipal]
      split
      · exact deletePrincipalsWhere_valid valid _
      · exact valid
  | deleteUser accountId name =>
      simp only [serve, deleteUser]
      split
      · exact deletePrincipalsWhere_valid valid _
      · exact valid
  | deleteManagedPolicy accountId policyName policyPath =>
      simp only [serve, deleteManagedPolicy]
      split
      · exact deleteManagedPoliciesWhere_valid valid _
      · exact valid
  | deleteAccessKeyForPrincipal principalId accessKey =>
      simp only [serve, deleteAccessKeyForPrincipal]
      split
      · exact { valid with keyId := valid.keyId.filter _, keyOwner := valid.keyOwner.filter _ }
      · exact valid
  | deleteInlinePolicy principalId policyName =>
      simp only [serve, deleteInlinePolicy]
      split
      · exact { valid with
          inlineName := valid.inlineName.filter _
          inlineOwner := valid.inlineOwner.filter _ }
      · exact valid
  | detachPolicyFromPrincipal policyId principalId =>
      simp only [serve, detachPolicyFromPrincipal]
      split
      · exact { valid with
          attachment := valid.attachment.filter _
          attachedUser := valid.attachedUser.filter _
          attachedPolicy := valid.attachedPolicy.filter _ }
      · exact valid
  | _ => exact valid

end IamDatabase

end Hiraeth
