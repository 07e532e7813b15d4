import Hiraeth.Lib.Untouched
import Hiraeth.Store.SqliteIam

/-!
# What belongs to an account

Users, policies and what is attached to them belong to accounts.  The calls of the store name
them by numbers, by names within an account, or by key ids; this module says which calls leave
an account alone.

## Main definitions

* `AccountContent` — what belongs to an account
* `IamCall.StaysOutside` — the calls that name nothing of an account


## Main results

* `IamDatabase.contentOf_serve` — such calls leave the content of the account as it is
-/

namespace Hiraeth

open Interaction

/-! ### The content of an account -/

/-- **What belongs to an account**: its principals, their keys, policies and attachments, and
its managed policies. -/
structure AccountContent where
  principals : List Principal
  accessKeys : List AccessKeyRow
  inlinePolicies : List PrincipalInlinePolicy
  managedPolicies : List ManagedPolicy
  attachments : List PolicyAttachment

/-- The numbers of the principals. -/
def AccountContent.numbers (content : AccountContent) : List RowId :=
  content.principals.map (·.id)

/-- Whatever is attached to a principal of the account is a policy of the account. -/
def AccountContent.Closed (content : AccountContent) : Prop :=
  ∀ row ∈ content.attachments, ∃ policy ∈ content.managedPolicies, policy.id = row.policyId

namespace IamDatabase

/-- The numbers of the principals of an account. -/
def numbersOf (database : IamDatabase) (account : Text) : List RowId :=
  (database.principals.rows.filter (·.accountId = account)).map (·.id)

/-- What is stored for an account. -/
def contentOf (database : IamDatabase) (account : Text) : AccountContent where
  principals := database.principals.rows.filter (·.accountId = account)
  accessKeys := database.accessKeys.rows.filter (·.principalId ∈ database.numbersOf account)
  inlinePolicies :=
    database.inlinePolicies.rows.filter (·.principalId ∈ database.numbersOf account)
  managedPolicies := database.managedPolicies.rows.filter (·.accountId = account)
  attachments := database.attachments.rows.filter (·.userId ∈ database.numbersOf account)

variable {database later : IamDatabase} {account : Text}

/-- The content is the same, when every table has the same rows for the account. -/
theorem contentOf_congr
    (principals : later.principals.rows.filter (·.accountId = account) =
      database.principals.rows.filter (·.accountId = account))
    (accessKeys : later.accessKeys.rows.filter (·.principalId ∈ database.numbersOf account) =
      database.accessKeys.rows.filter (·.principalId ∈ database.numbersOf account))
    (inlinePolicies :
      later.inlinePolicies.rows.filter (·.principalId ∈ database.numbersOf account) =
        database.inlinePolicies.rows.filter (·.principalId ∈ database.numbersOf account))
    (managedPolicies : later.managedPolicies.rows.filter (·.accountId = account) =
      database.managedPolicies.rows.filter (·.accountId = account))
    (attachments : later.attachments.rows.filter (·.userId ∈ database.numbersOf account) =
      database.attachments.rows.filter (·.userId ∈ database.numbersOf account)) :
    later.contentOf account = database.contentOf account := by
  have numbers : later.numbersOf account = database.numbersOf account :=
    congrArg (List.map Principal.id) principals
  unfold contentOf
  rw [numbers, principals, accessKeys, inlinePolicies, managedPolicies, attachments]

theorem mem_numbersOf {number : RowId} :
    number ∈ database.numbersOf account ↔
      ∃ row ∈ database.principals.rows, row.accountId = account ∧ row.id = number := by
  unfold numbersOf
  simp only [List.mem_map, List.mem_filter, decide_eq_true_eq, and_assoc]

/-- A principal with the number of one of the account is of the account. -/
theorem accountId_of_mem_numbersOf {row : Principal} (there : row ∈ database.principals.rows)
    (numbered : row.id ∈ database.numbersOf account) : row.accountId = account := by
  obtain ⟨other, isRow, isOf, same⟩ := mem_numbersOf.mp numbered
  rw [← RowTable.eq_of_key_eq isRow there same]
  exact isOf

/-! ### Deletions -/

/-- Principals are deleted with all that is theirs, and with nothing else. -/
theorem contentOf_deletePrincipalsWhere {doomed : Principal → Bool}
    (spares : ∀ row ∈ database.principals.rows, row.accountId = account → doomed row = false) :
    (database.deletePrincipalsWhere doomed).contentOf account = database.contentOf account := by
  have stays {number : RowId} (isOf : number ∈ database.numbersOf account) :
      (!database.orphaned doomed number) = true := by
    rw [Bool.not_eq_true', orphaned, List.any_eq_false]
    intro row there named
    simp only [Bool.and_eq_true, decide_eq_true_eq] at named
    obtain ⟨isDoomed, rfl⟩ := named
    rw [spares row there (accountId_of_mem_numbersOf there isOf)] at isDoomed
    cases isDoomed
  refine contentOf_congr ?_ ?_ ?_ rfl ?_
  · refine Untouched.filter_filter fun row there isOf => ?_
    rw [spares row there (of_decide_eq_true isOf), Bool.not_false]
  · exact Untouched.filter_filter fun row _ isOf => stays (of_decide_eq_true isOf)
  · exact Untouched.filter_filter fun row _ isOf => stays (of_decide_eq_true isOf)
  · exact Untouched.filter_filter fun row _ isOf => stays (of_decide_eq_true isOf)

/-- Policies are deleted with their attachments, none of which is of the account. -/
theorem contentOf_deleteManagedPoliciesWhere {doomed : ManagedPolicy → Bool}
    (closed : (database.contentOf account).Closed)
    (spares : ∀ row ∈ database.managedPolicies.rows, row.accountId = account →
      doomed row = false) :
    (database.deleteManagedPoliciesWhere doomed).contentOf account =
      database.contentOf account := by
  refine contentOf_congr rfl rfl rfl ?_ ?_
  · refine Untouched.filter_filter fun row there isOf => ?_
    rw [spares row there (of_decide_eq_true isOf), Bool.not_false]
  · refine Untouched.filter_filter fun row there isOf => ?_
    obtain ⟨policy, isPolicy, attached⟩ := closed row (List.mem_filter.mpr ⟨there, isOf⟩)
    obtain ⟨isRow, ofAccount⟩ := List.mem_filter.mp isPolicy
    rw [Bool.not_eq_true', List.any_eq_false]
    intro other isOther named
    simp only [Bool.and_eq_true, decide_eq_true_eq] at named
    obtain ⟨isDoomed, same⟩ := named
    obtain rfl := RowTable.eq_of_key_eq isOther isRow (same.trans attached.symm)
    rw [spares other isRow (of_decide_eq_true ofAccount)] at isDoomed
    cases isDoomed

end IamDatabase

/-! ### Calls -/

/-- **A call that names nothing of the account**: principals by numbers that are known to be
elsewhere, users and policies by the names of other accounts.  What only reads is not asked for
names, and nobody may change a managed policy by its number. -/
def IamCall.StaysOutside (account : Text) (numbers : List RowId) : IamCall → Prop
  | .insertSecretKey _ _ principalId | .deleteAccessKeyForPrincipal principalId _
  | .putInlinePolicy principalId _ _ | .deleteInlinePolicy principalId _
  | .attachPolicyToPrincipal _ principalId | .detachPolicyFromPrincipal _ principalId
  | .deletePrincipal principalId => principalId ∈ numbers
  | .createPrincipal principal => principal.accountId ≠ account
  | .insertManagedPolicy policy => policy.accountId ≠ account
  | .deleteUser accountId _ | .deleteManagedPolicy accountId _ _ => accountId ≠ account
  | .updateManagedPolicyDocument .. => False
  | _ => True

/-- **Calls that stay outside leave the account as it is.** -/
theorem IamDatabase.contentOf_serve {database : IamDatabase} {account : Text}
    {numbers : List RowId} (closed : (database.contentOf account).Closed)
    (elsewhere : ∀ number ∈ numbers, number ∉ database.numbersOf account) {call : IamCall}
    (outside : call.StaysOutside account numbers) :
    (serve call database).2.contentOf account = database.contentOf account := by
  cases call with
  | insertSecretKey accessKey secretKey principalId =>
      show (database.insertSecretKey accessKey secretKey principalId).2.contentOf account = _
      unfold IamDatabase.insertSecretKey
      dsimp only
      split_ifs
      · rfl
      · refine contentOf_congr rfl (Untouched.filter_append fun row member isOf => ?_) rfl rfl rfl
        obtain rfl := List.mem_singleton.mp member
        exact elsewhere _ outside (of_decide_eq_true isOf)
      · rfl
  | deleteAccessKeyForPrincipal principalId accessKey =>
      show (database.deleteAccessKeyForPrincipal principalId accessKey).2.contentOf account = _
      unfold IamDatabase.deleteAccessKeyForPrincipal
      dsimp only
      split_ifs
      · refine contentOf_congr rfl (Untouched.filter_filter fun row _ isOf => ?_) rfl rfl rfl
        have apart : row.principalId ≠ principalId := fun same =>
          elsewhere _ outside (same ▸ of_decide_eq_true isOf)
        rw [decide_eq_false apart, Bool.false_and, Bool.not_false]
      · rfl
  | putInlinePolicy principalId policyName policyDocument =>
      show (database.putInlinePolicy principalId policyName policyDocument).2.contentOf account = _
      unfold IamDatabase.putInlinePolicy
      split
      · refine contentOf_congr rfl rfl (Untouched.filter_map (fun row _ => ?_) ?_) rfl rfl
        · unfold IamDatabase.replaceDocument
          split_ifs <;> rfl
        · intro row _ isOf
          refine if_neg ?_
          rintro ⟨same, -⟩
          exact elsewhere _ outside (same ▸ of_decide_eq_true isOf)
      · dsimp only
        split_ifs
        · refine contentOf_congr rfl rfl (Untouched.filter_append fun row member isOf => ?_) rfl rfl
          obtain rfl := List.mem_singleton.mp member
          exact elsewhere _ outside (of_decide_eq_true isOf)
        · rfl
  | deleteInlinePolicy principalId policyName =>
      show (database.deleteInlinePolicy principalId policyName).2.contentOf account = _
      unfold IamDatabase.deleteInlinePolicy
      dsimp only
      split_ifs
      · refine contentOf_congr rfl rfl (Untouched.filter_filter fun row _ isOf => ?_) rfl rfl
        have apart : row.principalId ≠ principalId := fun same =>
          elsewhere _ outside (same ▸ of_decide_eq_true isOf)
        rw [decide_eq_false apart, Bool.false_and, Bool.not_false]
      · rfl
  | attachPolicyToPrincipal policyId principalId =>
      show (database.attachPolicyToPrincipal policyId principalId).2.contentOf account = _
      unfold IamDatabase.attachPolicyToPrincipal
      split_ifs
      · rfl
      · refine contentOf_congr rfl rfl rfl rfl (Untouched.filter_append fun row member isOf => ?_)
        obtain rfl := List.mem_singleton.mp member
        exact elsewhere _ outside (of_decide_eq_true isOf)
      · rfl
  | detachPolicyFromPrincipal policyId principalId =>
      show (database.detachPolicyFromPrincipal policyId principalId).2.contentOf account = _
      unfold IamDatabase.detachPolicyFromPrincipal
      dsimp only
      split_ifs
      · refine contentOf_congr rfl rfl rfl rfl (Untouched.filter_filter fun row _ isOf => ?_)
        have apart : row.userId ≠ principalId := fun same =>
          elsewhere _ outside (same ▸ of_decide_eq_true isOf)
        rw [decide_eq_false apart, Bool.and_false, Bool.not_false]
      · rfl
  | deletePrincipal principalId =>
      show (database.deletePrincipal principalId).2.contentOf account = _
      unfold IamDatabase.deletePrincipal
      split_ifs
      · refine contentOf_deletePrincipalsWhere fun row there isOf => ?_
        refine decide_eq_false fun same => elsewhere _ outside ?_
        exact mem_numbersOf.mpr ⟨row, there, isOf, same⟩
      · rfl
  | createPrincipal principal =>
      show (database.createPrincipal principal).2.contentOf account = _
      unfold IamDatabase.createPrincipal
      split_ifs
      · rfl
      · rfl
      · refine contentOf_congr (Untouched.filter_append fun row member isOf => ?_) rfl rfl rfl rfl
        obtain rfl := List.mem_singleton.mp member
        exact outside (of_decide_eq_true isOf)
  | deleteUser accountId name =>
      show (database.deleteUser accountId name).2.contentOf account = _
      unfold IamDatabase.deleteUser
      split_ifs
      · refine contentOf_deletePrincipalsWhere fun row _ isOf => ?_
        unfold isUserNamed
        have apart : row.accountId ≠ accountId := fun same => outside (same.symm.trans isOf)
        rw [decide_eq_false apart, Bool.and_false, Bool.false_and]
      · rfl
  | insertManagedPolicy policy =>
      show (database.insertManagedPolicy policy).2.contentOf account = _
      unfold IamDatabase.insertManagedPolicy
      split
      · rfl
      · split_ifs
        · rfl
        · rfl
        · refine contentOf_congr rfl rfl rfl (Untouched.filter_append fun row member isOf => ?_) rfl
          obtain rfl := List.mem_singleton.mp member
          exact outside (of_decide_eq_true isOf)
  | deleteManagedPolicy accountId policyName policyPath =>
      show (database.deleteManagedPolicy accountId policyName policyPath).2.contentOf account = _
      unfold IamDatabase.deleteManagedPolicy
      split_ifs
      · refine contentOf_deleteManagedPoliciesWhere closed fun row _ isOf => ?_
        unfold isPolicyNamed
        have apart : row.accountId ≠ accountId := fun same => outside (same.symm.trans isOf)
        rw [decide_eq_false apart, Bool.false_and, Bool.false_and]
      · rfl
  | updateManagedPolicyDocument policyId policyDocument => exact outside.elim
  | getSecretKey | listAccessKeysForPrincipal | getPrincipal | getPrincipalByIdentity
  | listPrincipals | getInlinePoliciesForPrincipal | getPrincipalPolicy | getManagedPolicy
  | listManagedPolicies | getManagedPoliciesAttachedToPrincipal => rfl

end Hiraeth
