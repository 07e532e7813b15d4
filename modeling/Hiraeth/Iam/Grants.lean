import Hiraeth.Store.IamIntegrity

/-!
# What users are given

Access keys, inline policies and attachments are stored under the row number of
their user.

## Main definitions

* `Grant`, `IamDatabase.Holds` — what is stored under a row number
* `grantOf`, `IamCall.names` — what a call grants, and to which number

## Main results

* `IamDatabase.holds_serve`, `IamDatabase.principal_serve` — what a call can add
-/

namespace Hiraeth

open Interaction

/-- What a user can be given. -/
inductive Grant where
  | accessKey (keyId secretKey : Text)
  | inlinePolicy (policyName policyDocument : Text)
  | attachment (policyId : RowId)
  deriving DecidableEq

/-- What is stored under the number of a principal. -/
inductive IamDatabase.Holds (database : IamDatabase) (principalId : RowId) : Grant → Prop
  | accessKey {row : AccessKeyRow} (stored : row ∈ database.accessKeys.rows)
      (owner : row.principalId = principalId) :
      database.Holds principalId (.accessKey row.keyId row.secretKey)
  | inlinePolicy {row : PrincipalInlinePolicy} (stored : row ∈ database.inlinePolicies.rows)
      (owner : row.principalId = principalId) :
      database.Holds principalId (.inlinePolicy row.policyName row.policyDocument)
  | attachment {row : PolicyAttachment} (stored : row ∈ database.attachments.rows)
      (owner : row.userId = principalId) :
      database.Holds principalId (.attachment row.policyId)

/-- What a call of the store grants, once it was answered. -/
def grantOf : Event iamStore → Option Grant
  | ⟨.insertSecretKey accessKey secretKey _, .ok _⟩ => some (.accessKey accessKey secretKey)
  | ⟨.putInlinePolicy _ policyName policyDocument, .ok _⟩ =>
      some (.inlinePolicy policyName policyDocument)
  | ⟨.attachPolicyToPrincipal policyId _, .ok _⟩ => some (.attachment policyId)
  | _ => none

/-- The number of a principal that a call names. -/
def IamCall.names : IamCall → Option RowId
  | .listAccessKeysForPrincipal principalId => some principalId
  | .insertSecretKey _ _ principalId => some principalId
  | .deleteAccessKeyForPrincipal principalId _ => some principalId
  | .getPrincipal principalId => some principalId
  | .deletePrincipal principalId => some principalId
  | .getInlinePoliciesForPrincipal principalId => some principalId
  | .putInlinePolicy principalId _ _ => some principalId
  | .deleteInlinePolicy principalId _ => some principalId
  | .getPrincipalPolicy principalId _ => some principalId
  | .attachPolicyToPrincipal _ principalId => some principalId
  | .detachPolicyFromPrincipal _ principalId => some principalId
  | .getManagedPoliciesAttachedToPrincipal principalId => some principalId
  | _ => none

/-- The call does not name the number. -/
def IamCall.Spares (principalId : RowId) (request : IamCall) : Prop :=
  request.names ≠ some principalId

namespace IamDatabase

section Holds

variable {database : IamDatabase} {principalId : RowId} {grant : Grant}

/-- Fewer rows hold less. -/
theorem Holds.mono {smaller : IamDatabase} (held : smaller.Holds principalId grant)
    (keys : ∀ row ∈ smaller.accessKeys.rows, row ∈ database.accessKeys.rows)
    (inlines : ∀ row ∈ smaller.inlinePolicies.rows, row ∈ database.inlinePolicies.rows)
    (attached : ∀ row ∈ smaller.attachments.rows, row ∈ database.attachments.rows) :
    database.Holds principalId grant := by
  cases held with
  | accessKey stored owner => exact .accessKey (keys _ stored) owner
  | inlinePolicy stored owner => exact .inlinePolicy (inlines _ stored) owner
  | attachment stored owner => exact .attachment (attached _ stored) owner

/-- Nothing is held under the number that is given out next. -/
theorem not_holds_nextId (valid : database.Valid) :
    ¬ database.Holds database.principals.nextId grant := by
  intro held
  cases held with
  | accessKey stored owner => exact Nat.ne_of_lt (valid.keyOwner.lt_nextId stored) owner
  | inlinePolicy stored owner => exact Nat.ne_of_lt (valid.inlineOwner.lt_nextId stored) owner
  | attachment stored owner => exact Nat.ne_of_lt (valid.attachedUser.lt_nextId stored) owner

theorem mem_accessKeys_insertSecretKey {accessKey secretKey : Text} {owner : RowId}
    {row : AccessKeyRow}
    (stored : row ∈ (database.insertSecretKey accessKey secretKey owner).2.accessKeys.rows) :
    row ∈ database.accessKeys.rows ∨
      (row.keyId = accessKey ∧ row.secretKey = secretKey ∧ row.principalId = owner) ∧
        ∃ created, (database.insertSecretKey accessKey secretKey owner).1 = .ok created := by
  unfold insertSecretKey at stored ⊢
  simp only at stored ⊢
  by_cases taken : database.accessKeys.rows.any (·.keyId = accessKey)
  · rw [if_pos taken] at stored
    exact .inl stored
  rw [if_neg taken] at stored ⊢
  by_cases known : database.hasPrincipal owner
  · rw [if_pos known] at stored ⊢
    have added : row ∈ (database.accessKeys.insert
        (database.newAccessKeyRow accessKey secretKey owner) fun _ => rfl).rows := stored
    rcases RowTable.mem_insert.mp added with old | rfl
    · exact .inl old
    · exact .inr ⟨⟨rfl, rfl, rfl⟩, _, rfl⟩
  · rw [if_neg known] at stored
    exact .inl stored

theorem insertSecretKey_unchanged (accessKey secretKey : Text) (owner : RowId) :
    (database.insertSecretKey accessKey secretKey owner).2.principals = database.principals ∧
      (database.insertSecretKey accessKey secretKey owner).2.inlinePolicies =
        database.inlinePolicies ∧
      (database.insertSecretKey accessKey secretKey owner).2.attachments =
        database.attachments := by
  unfold insertSecretKey
  simp only
  split_ifs <;> exact ⟨rfl, rfl, rfl⟩

theorem mem_inlinePolicies_putInlinePolicy {policyName policyDocument : Text} {owner : RowId}
    {row : PrincipalInlinePolicy}
    (stored : row ∈
      (database.putInlinePolicy owner policyName policyDocument).2.inlinePolicies.rows) :
    row ∈ database.inlinePolicies.rows ∨
      (row.policyName = policyName ∧ row.policyDocument = policyDocument ∧
        row.principalId = owner) ∧
        ∃ result, (database.putInlinePolicy owner policyName policyDocument).1 = .ok result := by
  unfold putInlinePolicy at stored ⊢
  cases found : database.getPrincipalPolicy owner policyName with
  | some existing =>
      rw [found] at stored
      have changed : row ∈ (database.inlinePolicies.map
          (database.replaceDocument owner policyName policyDocument)
          (database.replaceDocument_id owner policyName policyDocument)).rows := stored
      obtain ⟨old, member, rfl⟩ := RowTable.mem_map.mp changed
      by_cases same : old.principalId = owner ∧ old.policyName = policyName
      · refine .inr ⟨?_, _, rfl⟩
        rw [replaceDocument, if_pos same]
        exact ⟨same.2, rfl, same.1⟩
      · rw [replaceDocument, if_neg same]
        exact .inl member
  | none =>
      rw [found] at stored
      simp only at stored ⊢
      by_cases known : database.hasPrincipal owner
      · rw [if_pos known] at stored ⊢
        have added : row ∈ (database.inlinePolicies.insert
            (database.newInlinePolicyRow owner policyName policyDocument) fun _ => rfl).rows :=
          stored
        rcases RowTable.mem_insert.mp added with old | rfl
        · exact .inl old
        · exact .inr ⟨⟨rfl, rfl, rfl⟩, _, rfl⟩
      · rw [if_neg known] at stored
        exact .inl stored

theorem putInlinePolicy_unchanged (owner : RowId) (policyName policyDocument : Text) :
    (database.putInlinePolicy owner policyName policyDocument).2.principals =
        database.principals ∧
      (database.putInlinePolicy owner policyName policyDocument).2.accessKeys =
        database.accessKeys ∧
      (database.putInlinePolicy owner policyName policyDocument).2.attachments =
        database.attachments := by
  unfold putInlinePolicy
  cases database.getPrincipalPolicy owner policyName with
  | some existing => exact ⟨rfl, rfl, rfl⟩
  | none =>
      simp only
      split_ifs <;> exact ⟨rfl, rfl, rfl⟩

theorem mem_attachments_attachPolicyToPrincipal {policyId owner : RowId} {row : PolicyAttachment}
    (stored : row ∈ (database.attachPolicyToPrincipal policyId owner).2.attachments.rows) :
    row ∈ database.attachments.rows ∨ (row.policyId = policyId ∧ row.userId = owner) ∧
      (database.attachPolicyToPrincipal policyId owner).1 = .ok () := by
  unfold attachPolicyToPrincipal at stored ⊢
  by_cases taken : database.attachments.rows.any fun row =>
      row.userId = owner && row.policyId = policyId
  · rw [if_pos taken] at stored
    exact .inl stored
  rw [if_neg taken] at stored ⊢
  by_cases known : database.hasPrincipal owner &&
      database.managedPolicies.rows.any (·.id = policyId)
  · rw [if_pos known] at stored ⊢
    have added : row ∈ (database.attachments.insert
        (database.newAttachmentRow policyId owner) fun _ => rfl).rows := stored
    rcases RowTable.mem_insert.mp added with old | rfl
    · exact .inl old
    · exact .inr ⟨⟨rfl, rfl⟩, rfl⟩
  · rw [if_neg known] at stored
    exact .inl stored

theorem attachPolicyToPrincipal_unchanged (policyId owner : RowId) :
    (database.attachPolicyToPrincipal policyId owner).2.principals = database.principals ∧
      (database.attachPolicyToPrincipal policyId owner).2.accessKeys = database.accessKeys ∧
      (database.attachPolicyToPrincipal policyId owner).2.inlinePolicies =
        database.inlinePolicies := by
  unfold attachPolicyToPrincipal
  split_ifs <;> exact ⟨rfl, rfl, rfl⟩

/-- Deleting principals only takes away. -/
theorem holds_deletePrincipalsWhere {doomed : Principal → Bool}
    (held : (database.deletePrincipalsWhere doomed).Holds principalId grant) :
    database.Holds principalId grant :=
  held.mono (fun _ stored => (RowTable.mem_filter.mp stored).1)
    (fun _ stored => (RowTable.mem_filter.mp stored).1)
    fun _ stored => (RowTable.mem_filter.mp stored).1

/-- **What a call can add to what is held.**  It is what the call grants, to the
number that it names. -/
theorem holds_serve (request : IamCall) (held : (serve request database).2.Holds principalId grant) :
    database.Holds principalId grant ∨
      grantOf ⟨request, (serve request database).1⟩ = some grant ∧
        request.names = some principalId := by
  cases request with
  | insertSecretKey accessKey secretKey owner =>
      obtain ⟨-, inlines, attached⟩ :=
        @insertSecretKey_unchanged database accessKey secretKey owner
      cases held with
      | accessKey stored isOwner =>
          rcases mem_accessKeys_insertSecretKey stored with old | ⟨⟨rfl, rfl, rfl⟩, created, done⟩
          · exact .inl (.accessKey old isOwner)
          · refine .inr ⟨?_, congrArg some isOwner⟩
            rw [serve, done]
            rfl
      | inlinePolicy stored isOwner => exact .inl (.inlinePolicy (inlines ▸ stored) isOwner)
      | attachment stored isOwner => exact .inl (.attachment (attached ▸ stored) isOwner)
  | putInlinePolicy owner policyName policyDocument =>
      obtain ⟨-, keys, attached⟩ :=
        @putInlinePolicy_unchanged database owner policyName policyDocument
      cases held with
      | accessKey stored isOwner => exact .inl (.accessKey (keys ▸ stored) isOwner)
      | inlinePolicy stored isOwner =>
          rcases mem_inlinePolicies_putInlinePolicy stored with old | ⟨⟨rfl, rfl, rfl⟩, result, done⟩
          · exact .inl (.inlinePolicy old isOwner)
          · refine .inr ⟨?_, congrArg some isOwner⟩
            rw [serve, done]
            rfl
      | attachment stored isOwner => exact .inl (.attachment (attached ▸ stored) isOwner)
  | attachPolicyToPrincipal policyId owner =>
      obtain ⟨-, keys, inlines⟩ := @attachPolicyToPrincipal_unchanged database policyId owner
      cases held with
      | accessKey stored isOwner => exact .inl (.accessKey (keys ▸ stored) isOwner)
      | inlinePolicy stored isOwner => exact .inl (.inlinePolicy (inlines ▸ stored) isOwner)
      | attachment stored isOwner =>
          rcases mem_attachments_attachPolicyToPrincipal stored with old | ⟨⟨rfl, rfl⟩, done⟩
          · exact .inl (.attachment old isOwner)
          · refine .inr ⟨?_, congrArg some isOwner⟩
            rw [serve, done]
            rfl
  | createPrincipal principal =>
      left
      simp only [serve, createPrincipal] at held
      split_ifs at held <;>
        exact held.mono (fun _ => id) (fun _ => id) fun _ => id
  | insertManagedPolicy policy =>
      left
      simp only [serve, insertManagedPolicy] at held
      cases path : policy.policyPath with
      | none => exact (path ▸ held : _)
      | some policyPath =>
          rw [path] at held
          simp only at held
          split_ifs at held <;>
            exact held.mono (fun _ => id) (fun _ => id) fun _ => id
  | updateManagedPolicyDocument policyId policyDocument =>
      left
      simp only [serve, updateManagedPolicyDocument] at held
      split at held <;>
        exact held.mono (fun _ => id) (fun _ => id) fun _ => id
  | deletePrincipal owner =>
      left
      simp only [serve, deletePrincipal] at held
      split_ifs at held
      · exact holds_deletePrincipalsWhere held
      · exact held
  | deleteUser accountId name =>
      left
      simp only [serve, deleteUser] at held
      split_ifs at held
      · exact holds_deletePrincipalsWhere held
      · exact held
  | deleteManagedPolicy accountId policyName policyPath =>
      left
      simp only [serve, deleteManagedPolicy] at held
      split_ifs at held
      · exact held.mono (fun _ => id) (fun _ => id) fun _ stored => (RowTable.mem_filter.mp stored).1
      · exact held
  | deleteAccessKeyForPrincipal owner accessKey =>
      left
      simp only [serve, deleteAccessKeyForPrincipal] at held
      split_ifs at held
      · exact held.mono (fun _ stored => (RowTable.mem_filter.mp stored).1) (fun _ => id) fun _ => id
      · exact held
  | deleteInlinePolicy owner policyName =>
      left
      simp only [serve, deleteInlinePolicy] at held
      split_ifs at held
      · exact held.mono (fun _ => id) (fun _ stored => (RowTable.mem_filter.mp stored).1) fun _ => id
      · exact held
  | detachPolicyFromPrincipal policyId owner =>
      left
      simp only [serve, detachPolicyFromPrincipal] at held
      split_ifs at held
      · exact held.mono (fun _ => id) (fun _ => id) fun _ stored => (RowTable.mem_filter.mp stored).1
      · exact held
  | _ => exact .inl held

/-- **What a call can add to the principals.** -/
theorem principal_serve (request : IamCall) {row : Principal}
    (present : row ∈ (serve request database).2.principals.rows) :
    row ∈ database.principals.rows ∨
      ∃ principal, request = .createPrincipal principal ∧
        row = database.newPrincipalRow principal database.principals.nextId ∧
        (database.createPrincipal principal).1 = .ok row := by
  cases request with
  | createPrincipal principal =>
      simp only [serve, createPrincipal] at present ⊢
      split_ifs at present with userIdTaken identityTaken
      · exact .inl present
      · exact .inl present
      · have added : row ∈ (database.principals.insert
            (database.newPrincipalRow principal) fun _ => rfl).rows := present
        rcases RowTable.mem_insert.mp added with old | rfl
        · exact .inl old
        · refine .inr ⟨principal, rfl, rfl, ?_⟩
          rw [if_neg userIdTaken, if_neg identityTaken]
  | insertSecretKey accessKey secretKey owner =>
      exact .inl ((insertSecretKey_unchanged accessKey secretKey owner).1 ▸ present)
  | putInlinePolicy owner policyName policyDocument =>
      exact .inl ((putInlinePolicy_unchanged owner policyName policyDocument).1 ▸ present)
  | attachPolicyToPrincipal policyId owner =>
      exact .inl ((attachPolicyToPrincipal_unchanged policyId owner).1 ▸ present)
  | deletePrincipal owner =>
      left
      simp only [serve, deletePrincipal] at present
      split_ifs at present
      · exact (RowTable.mem_filter.mp present).1
      · exact present
  | deleteUser accountId name =>
      left
      simp only [serve, deleteUser] at present
      split_ifs at present
      · exact (RowTable.mem_filter.mp present).1
      · exact present
  | insertManagedPolicy policy =>
      left
      simp only [serve, insertManagedPolicy] at present
      cases path : policy.policyPath with
      | none => exact (path ▸ present : _)
      | some policyPath =>
          rw [path] at present
          simp only at present
          split_ifs at present <;> exact present
  | updateManagedPolicyDocument policyId policyDocument =>
      left
      simp only [serve, updateManagedPolicyDocument] at present
      split at present <;> exact present
  | deleteManagedPolicy accountId policyName policyPath =>
      left
      simp only [serve, deleteManagedPolicy] at present
      split_ifs at present <;> exact present
  | deleteAccessKeyForPrincipal owner accessKey =>
      left
      simp only [serve, deleteAccessKeyForPrincipal] at present
      split_ifs at present <;> exact present
  | deleteInlinePolicy owner policyName =>
      left
      simp only [serve, deleteInlinePolicy] at present
      split_ifs at present <;> exact present
  | detachPolicyFromPrincipal policyId owner =>
      left
      simp only [serve, detachPolicyFromPrincipal] at present
      split_ifs at present <;> exact present
  | _ => exact .inl present

end Holds

end IamDatabase

end Hiraeth
