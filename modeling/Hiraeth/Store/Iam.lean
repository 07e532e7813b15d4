import Hiraeth.Lib.Program
import Hiraeth.Store.Basic

/-!
# The IAM store

The records of the IAM store and the calls the services make on it.  What the
calls do is left to the implementation of the store.

## Main definitions

* `Principal`, `AccessKey`, `PrincipalInlinePolicy`, `ManagedPolicy` — records
* `IamCall`, `iamStore` — the calls and the interface they form
-/

namespace Hiraeth

open Interaction

structure Principal where
  id : RowId
  accountId : Text
  kind : Text
  name : Text
  path : Text
  userId : Text
  createdAt : Time
  deriving DecidableEq

structure NewPrincipal where
  accountId : Text
  kind : Text
  name : Text
  path : Text
  userId : Text
  deriving DecidableEq

structure AccessKey where
  keyId : Text
  principalId : RowId
  secretKey : Text
  createdAt : Time
  deriving DecidableEq

structure PrincipalInlinePolicy where
  id : RowId
  principalId : RowId
  policyName : Text
  policyDocument : Text
  createdAt : Time
  updatedAt : Time
  deriving DecidableEq

structure ManagedPolicy where
  id : RowId
  policyId : Text
  accountId : Text
  policyName : Text
  policyPath : Option Text
  policyDocument : Text
  createdAt : Time
  updatedAt : Time
  deriving DecidableEq

structure NewManagedPolicy where
  policyId : Text
  accountId : Text
  policyName : Text
  policyPath : Option Text
  policyDocument : Text
  deriving DecidableEq

/-- The calls of the access key, principal, inline policy and managed policy
stores. -/
inductive IamCall where
  | getSecretKey (accessKey : Text)
  | listAccessKeysForPrincipal (principalId : RowId)
  | insertSecretKey (accessKey secretKey : Text) (principalId : RowId)
  | deleteAccessKeyForPrincipal (principalId : RowId) (accessKey : Text)
  | getPrincipal (principalId : RowId)
  | getPrincipalByIdentity (accountId kind name : Text)
  | listPrincipals
  | createPrincipal (principal : NewPrincipal)
  | deletePrincipal (principalId : RowId)
  | deleteUser (accountId name : Text)
  | getInlinePoliciesForPrincipal (principalId : RowId)
  | putInlinePolicy (principalId : RowId) (policyName policyDocument : Text)
  | deleteInlinePolicy (principalId : RowId) (policyName : Text)
  | getPrincipalPolicy (principalId : RowId) (policyName : Text)
  | insertManagedPolicy (policy : NewManagedPolicy)
  | getManagedPolicy (accountId policyName policyPath : Text)
  | listManagedPolicies
  | updateManagedPolicyDocument (policyId : RowId) (policyDocument : Text)
  | attachPolicyToPrincipal (policyId principalId : RowId)
  | detachPolicyFromPrincipal (policyId principalId : RowId)
  | deleteManagedPolicy (accountId policyName policyPath : Text)
  | getManagedPoliciesAttachedToPrincipal (principalId : RowId)
  deriving DecidableEq

/-- What each call is answered with. -/
@[reducible]
def IamCall.Answer : IamCall → Type
  | getSecretKey _ => StoreResult (Option AccessKey)
  | listAccessKeysForPrincipal _ => StoreResult (List AccessKey)
  | insertSecretKey .. => StoreResult AccessKey
  | deleteAccessKeyForPrincipal .. => StoreResult Unit
  | getPrincipal _ => StoreResult (Option Principal)
  | getPrincipalByIdentity .. => StoreResult (Option Principal)
  | listPrincipals => StoreResult (List Principal)
  | createPrincipal _ => StoreResult Principal
  | deletePrincipal _ => StoreResult Unit
  | deleteUser .. => StoreResult Unit
  | getInlinePoliciesForPrincipal _ => StoreResult (List PrincipalInlinePolicy)
  | putInlinePolicy .. => StoreResult PrincipalInlinePolicy
  | deleteInlinePolicy .. => StoreResult Unit
  | getPrincipalPolicy .. => StoreResult (Option PrincipalInlinePolicy)
  | insertManagedPolicy _ => StoreResult ManagedPolicy
  | getManagedPolicy .. => StoreResult (Option ManagedPolicy)
  | listManagedPolicies => StoreResult (List ManagedPolicy)
  | updateManagedPolicyDocument .. => StoreResult ManagedPolicy
  | attachPolicyToPrincipal .. => StoreResult Unit
  | detachPolicyFromPrincipal .. => StoreResult Unit
  | deleteManagedPolicy .. => StoreResult Unit
  | getManagedPoliciesAttachedToPrincipal _ => StoreResult (List ManagedPolicy)

/-- The answer of a store that fails. -/
def IamCall.failed (error : StoreError) (request : IamCall) : request.Answer := by
  cases request <;> exact .error error

/-- The interface of the IAM store. -/
abbrev iamStore : Interface where
  Call := IamCall
  Answer := IamCall.Answer

/-- A program over the IAM store. -/
abbrev IamProgram := Program iamStore

/-- The program that makes one call on the IAM store. -/
def iamCall (request : IamCall) : IamProgram request.Answer :=
  @Program.perform iamStore request

theorem run_iamCall {S : Type} (serve : Serve iamStore S) (request : IamCall) (state : S) :
    (iamCall request).run serve state = serve request state := rfl

theorem events_iamCall {S : Type} (serve : Serve iamStore S) (request : IamCall) (state : S) :
    (iamCall request).events serve state = [⟨request, (serve request state).1⟩] := rfl

end Hiraeth
