import Hiraeth.Lib.RowTable
import Hiraeth.Store.Iam
import Mathlib.Data.List.Sort
import Mathlib.Order.Basic

/-!
# The IAM store in SQLite

The tables behind the IAM store and what each call does to them.  Every call is
one transaction.  The principal table has no `AUTOINCREMENT`, so the row number
of a deleted newest principal is given out again; foreign keys are enforced and
deletes cascade to access keys, inline policies and attachments.

## Main definitions

* `IamDatabase` — the tables, and the clock that `CURRENT_TIMESTAMP` reads
* `IamDatabase.serve` — the calls
-/

namespace Hiraeth

open Interaction

/-- A row of `iam_access_keys`. -/
structure AccessKeyRow where
  id : RowId
  keyId : Text
  secretKey : Text
  principalId : RowId
  createdAt : Time
  deriving DecidableEq

/-- A row of `iam_user_policy_attachments`. -/
structure PolicyAttachment where
  id : RowId
  userId : RowId
  policyId : RowId
  createdAt : Time
  deriving DecidableEq

/-- The tables of the IAM store.  `clock` lists the readings that
`CURRENT_TIMESTAMP` will give, `ticks` counts those already given. -/
structure IamDatabase where
  principals : RowTable Principal Principal.id
  accessKeys : RowTable AccessKeyRow AccessKeyRow.id
  inlinePolicies : RowTable PrincipalInlinePolicy PrincipalInlinePolicy.id
  managedPolicies : RowTable ManagedPolicy ManagedPolicy.id
  attachments : RowTable PolicyAttachment PolicyAttachment.id
  clock : ℕ → Time
  ticks : ℕ

/-- The columns of an access key that queries return. -/
def AccessKeyRow.toAccessKey (row : AccessKeyRow) : AccessKey where
  keyId := row.keyId
  principalId := row.principalId
  secretKey := row.secretKey
  createdAt := row.createdAt

namespace IamDatabase

/-- A store without rows, whose clock stands still. -/
def empty : IamDatabase where
  principals := .empty
  accessKeys := .empty
  inlinePolicies := .empty
  managedPolicies := .empty
  attachments := .empty
  clock := fun _ => 0
  ticks := 0

/-- The reading of the clock. -/
def now (database : IamDatabase) : Time :=
  database.clock database.ticks

/-- The database after one reading of the clock. -/
def tick (database : IamDatabase) : IamDatabase :=
  { database with ticks := database.ticks + 1 }

/-- `REFERENCES iam_principals(id)`. -/
def hasPrincipal (database : IamDatabase) (principalId : RowId) : Bool :=
  database.principals.rows.any (·.id = principalId)

/-! ### Principals -/

def getPrincipal (database : IamDatabase) (principalId : RowId) : Option Principal :=
  database.principals.find (·.id = principalId)

def getPrincipalByIdentity (database : IamDatabase) (accountId kind name : Text) :
    Option Principal :=
  database.principals.find fun row =>
    row.accountId = accountId && row.kind = kind && row.name = name

def listPrincipals (database : IamDatabase) : List Principal :=
  database.principals.rows.insertionSort fun left right =>
    left.accountId < right.accountId ∨ left.accountId = right.accountId ∧
      (left.kind < right.kind ∨ left.kind = right.kind ∧ left.name ≤ right.name)

/-- The row that a new principal becomes. -/
def newPrincipalRow (database : IamDatabase) (principal : NewPrincipal) (id : RowId) :
    Principal where
  id := id
  accountId := principal.accountId
  kind := principal.kind
  name := principal.name
  path := principal.path
  userId := principal.userId
  createdAt := database.now

def createPrincipal (database : IamDatabase) (principal : NewPrincipal) :
    StoreResult Principal × IamDatabase :=
  if database.principals.rows.any (·.userId = principal.userId) then
    (.error (uniqueViolation "iam_principals.user_id"), database)
  else if (database.getPrincipalByIdentity principal.accountId principal.kind
      principal.name).isSome then
    (.error (uniqueViolation
      "iam_principals.account_id, iam_principals.kind, iam_principals.name"), database)
  else
    (.ok (database.newPrincipalRow principal database.principals.nextId),
      { database.tick with
        principals := database.principals.insert (database.newPrincipalRow principal)
          fun _ => rfl })

/-- The row number belongs to a principal that is being deleted. -/
def orphaned (database : IamDatabase) (doomed : Principal → Bool) (principalId : RowId) : Bool :=
  database.principals.rows.any fun row => doomed row && row.id = principalId

/-- Delete principals together with everything that references them. -/
def deletePrincipalsWhere (database : IamDatabase) (doomed : Principal → Bool) : IamDatabase :=
  { database with
    principals := database.principals.filter fun row => !doomed row
    accessKeys := database.accessKeys.filter fun row => !database.orphaned doomed row.principalId
    inlinePolicies := database.inlinePolicies.filter fun row =>
      !database.orphaned doomed row.principalId
    attachments := database.attachments.filter fun row => !database.orphaned doomed row.userId }

def deletePrincipal (database : IamDatabase) (principalId : RowId) :
    StoreResult Unit × IamDatabase :=
  if database.hasPrincipal principalId then
    (.ok (), database.deletePrincipalsWhere (·.id = principalId))
  else
    (.error (.notFound (("Principal " : Text) ++ Nat.toDigits 10 principalId ++
      " not found".toList)), database)

def isUserNamed (accountId name : Text) (row : Principal) : Bool :=
  row.kind = "user" && row.accountId = accountId && row.name = name

def deleteUser (database : IamDatabase) (accountId name : Text) :
    StoreResult Unit × IamDatabase :=
  if database.principals.rows.any (isUserNamed accountId name) then
    (.ok (), database.deletePrincipalsWhere (isUserNamed accountId name))
  else
    (.error (.notFound (("User with account_id " : Text) ++ accountId ++ " and name ".toList ++
      name ++ " not found".toList)), database)

/-! ### Access keys -/

def getSecretKey (database : IamDatabase) (accessKey : Text) : Option AccessKey :=
  (database.accessKeys.find (·.keyId = accessKey)).map AccessKeyRow.toAccessKey

def listAccessKeysForPrincipal (database : IamDatabase) (principalId : RowId) :
    List AccessKey :=
  ((database.accessKeys.rows.filter (·.principalId = principalId)).map
    AccessKeyRow.toAccessKey).insertionSort fun left right =>
      right.createdAt < left.createdAt ∨ left.createdAt = right.createdAt ∧
        left.keyId ≤ right.keyId

/-- The row that a new access key becomes. -/
def newAccessKeyRow (database : IamDatabase) (accessKey secretKey : Text)
    (principalId : RowId) (id : RowId) : AccessKeyRow where
  id := id
  keyId := accessKey
  secretKey := secretKey
  principalId := principalId
  createdAt := database.now

def insertSecretKey (database : IamDatabase) (accessKey secretKey : Text)
    (principalId : RowId) : StoreResult AccessKey × IamDatabase :=
  let row := database.newAccessKeyRow accessKey secretKey principalId
  if database.accessKeys.rows.any (·.keyId = accessKey) then
    (.error (uniqueViolation "iam_access_keys.key_id"), database)
  else if database.hasPrincipal principalId then
    (.ok (row database.accessKeys.nextId).toAccessKey,
      { database.tick with accessKeys := database.accessKeys.insert row fun _ => rfl })
  else (.error foreignKeyViolation, database)

def deleteAccessKeyForPrincipal (database : IamDatabase) (principalId : RowId)
    (accessKey : Text) : StoreResult Unit × IamDatabase :=
  let doomed (row : AccessKeyRow) : Bool := row.principalId = principalId && row.keyId = accessKey
  if database.accessKeys.rows.any doomed then
    (.ok (), { database with accessKeys := database.accessKeys.filter fun row => !doomed row })
  else
    (.error (.notFound (("Access key " : Text) ++ accessKey ++ " not found for principal ".toList ++
      Nat.toDigits 10 principalId)), database)

/-! ### Inline policies -/

def getInlinePoliciesForPrincipal (database : IamDatabase) (principalId : RowId) :
    List PrincipalInlinePolicy :=
  database.inlinePolicies.rows.filter (·.principalId = principalId)

def getPrincipalPolicy (database : IamDatabase) (principalId : RowId) (policyName : Text) :
    Option PrincipalInlinePolicy :=
  database.inlinePolicies.find fun row =>
    row.principalId = principalId && row.policyName = policyName

/-- The row that a new inline policy becomes. -/
def newInlinePolicyRow (database : IamDatabase) (principalId : RowId)
    (policyName policyDocument : Text) (id : RowId) : PrincipalInlinePolicy where
  id := id
  principalId := principalId
  policyName := policyName
  policyDocument := policyDocument
  createdAt := database.now
  updatedAt := database.now

/-- The row after `DO UPDATE SET`, when it is the row in conflict. -/
def replaceDocument (database : IamDatabase) (principalId : RowId)
    (policyName policyDocument : Text) (row : PrincipalInlinePolicy) : PrincipalInlinePolicy :=
  if row.principalId = principalId ∧ row.policyName = policyName then
    { row with policyDocument := policyDocument, updatedAt := database.now }
  else row

theorem replaceDocument_id (database : IamDatabase) (principalId : RowId)
    (policyName policyDocument : Text) (row : PrincipalInlinePolicy) :
    (database.replaceDocument principalId policyName policyDocument row).id = row.id := by
  unfold replaceDocument
  split <;> rfl

def putInlinePolicy (database : IamDatabase) (principalId : RowId)
    (policyName policyDocument : Text) :
    StoreResult PrincipalInlinePolicy × IamDatabase :=
  match database.getPrincipalPolicy principalId policyName with
  | some row =>
      (.ok (database.replaceDocument principalId policyName policyDocument row),
        { database.tick with
          inlinePolicies := database.inlinePolicies.map
            (database.replaceDocument principalId policyName policyDocument)
            (database.replaceDocument_id principalId policyName policyDocument) })
  | none =>
      let row := database.newInlinePolicyRow principalId policyName policyDocument
      if database.hasPrincipal principalId then
        (.ok (row database.inlinePolicies.nextId),
          { database.tick with
            inlinePolicies := database.inlinePolicies.insert row fun _ => rfl })
      else (.error foreignKeyViolation, database)

def deleteInlinePolicy (database : IamDatabase) (principalId : RowId) (policyName : Text) :
    StoreResult Unit × IamDatabase :=
  let doomed (row : PrincipalInlinePolicy) : Bool :=
    row.principalId = principalId && row.policyName = policyName
  if database.inlinePolicies.rows.any doomed then
    (.ok (), { database with
      inlinePolicies := database.inlinePolicies.filter fun row => !doomed row })
  else
    (.error (.notFound (("Inline policy " : Text) ++ policyName ++
      " not found for principal ".toList ++ Nat.toDigits 10 principalId)), database)

/-! ### Managed policies -/

/-- The row that a new managed policy becomes. -/
def newManagedPolicyRow (database : IamDatabase) (policy : NewManagedPolicy) (id : RowId) :
    ManagedPolicy where
  id := id
  policyId := policy.policyId
  accountId := policy.accountId
  policyName := policy.policyName
  policyPath := policy.policyPath
  policyDocument := policy.policyDocument
  createdAt := database.now
  updatedAt := database.now

def isPolicyNamed (accountId policyName policyPath : Text) (row : ManagedPolicy) : Bool :=
  row.accountId = accountId && row.policyName = policyName && row.policyPath = some policyPath

def getManagedPolicy (database : IamDatabase) (accountId policyName policyPath : Text) :
    Option ManagedPolicy :=
  database.managedPolicies.find (isPolicyNamed accountId policyName policyPath)

def insertManagedPolicy (database : IamDatabase) (policy : NewManagedPolicy) :
    StoreResult ManagedPolicy × IamDatabase :=
  match policy.policyPath with
  | none => (.error (databaseFailure
      "(code: 1299) NOT NULL constraint failed: iam_managed_policies.policy_path"), database)
  | some policyPath =>
      if database.managedPolicies.rows.any (·.policyId = policy.policyId) then
        (.error (uniqueViolation "iam_managed_policies.policy_id"), database)
      else if (database.getManagedPolicy policy.accountId policy.policyName policyPath).isSome then
        (.error (uniqueViolation ("iam_managed_policies.account_id, ".toList ++
          "iam_managed_policies.policy_name, iam_managed_policies.policy_path".toList)), database)
      else
        (.ok (database.newManagedPolicyRow policy database.managedPolicies.nextId),
          { database.tick with
            managedPolicies := database.managedPolicies.insert
              (database.newManagedPolicyRow policy) fun _ => rfl })

def listManagedPolicies (database : IamDatabase) : List ManagedPolicy :=
  database.managedPolicies.rows.insertionSort fun left right =>
    left.accountId < right.accountId ∨ left.accountId = right.accountId ∧
      (left.policyPath.getD [] < right.policyPath.getD [] ∨
        left.policyPath = right.policyPath ∧ left.policyName ≤ right.policyName)

/-- The row after `UPDATE`, when it is the row that was named. -/
def updateDocument (database : IamDatabase) (policyId : RowId) (policyDocument : Text)
    (row : ManagedPolicy) : ManagedPolicy :=
  if row.id = policyId then
    { row with policyDocument := policyDocument, updatedAt := database.now }
  else row

theorem updateDocument_id (database : IamDatabase) (policyId : RowId) (policyDocument : Text)
    (row : ManagedPolicy) : (database.updateDocument policyId policyDocument row).id = row.id := by
  unfold updateDocument
  split <;> rfl

def updateManagedPolicyDocument (database : IamDatabase) (policyId : RowId)
    (policyDocument : Text) : StoreResult ManagedPolicy × IamDatabase :=
  match database.managedPolicies.find (·.id = policyId) with
  | some row =>
      (.ok (database.updateDocument policyId policyDocument row),
        { database.tick with
          managedPolicies := database.managedPolicies.map
            (database.updateDocument policyId policyDocument)
            (database.updateDocument_id policyId policyDocument) })
  | none => (.error (.notFound (("Managed policy not found: " : Text) ++
      Nat.toDigits 10 policyId)), database)

/-- Delete managed policies together with their attachments. -/
def deleteManagedPoliciesWhere (database : IamDatabase) (doomed : ManagedPolicy → Bool) :
    IamDatabase :=
  { database with
    managedPolicies := database.managedPolicies.filter fun row => !doomed row
    attachments := database.attachments.filter fun row =>
      !database.managedPolicies.rows.any fun policy => doomed policy && policy.id = row.policyId }

def deleteManagedPolicy (database : IamDatabase) (accountId policyName policyPath : Text) :
    StoreResult Unit × IamDatabase :=
  if database.managedPolicies.rows.any (isPolicyNamed accountId policyName policyPath) then
    (.ok (), database.deleteManagedPoliciesWhere (isPolicyNamed accountId policyName policyPath))
  else
    (.error (.notFound (("Managed policy " : Text) ++ policyName ++ " (path ".toList ++
      policyPath ++ ") not found for account ".toList ++ accountId)), database)

/-! ### Attachments -/

/-- The row that a new attachment becomes. -/
def newAttachmentRow (database : IamDatabase) (policyId principalId : RowId) (id : RowId) :
    PolicyAttachment where
  id := id
  userId := principalId
  policyId := policyId
  createdAt := database.now

def attachPolicyToPrincipal (database : IamDatabase) (policyId principalId : RowId) :
    StoreResult Unit × IamDatabase :=
  if database.attachments.rows.any fun row =>
      row.userId = principalId && row.policyId = policyId then
    (.error (uniqueViolation
      "iam_user_policy_attachments.user_id, iam_user_policy_attachments.policy_id"), database)
  else if database.hasPrincipal principalId &&
      database.managedPolicies.rows.any (·.id = policyId) then
    (.ok (), { database.tick with
      attachments := database.attachments.insert
        (database.newAttachmentRow policyId principalId) fun _ => rfl })
  else (.error foreignKeyViolation, database)

def detachPolicyFromPrincipal (database : IamDatabase) (policyId principalId : RowId) :
    StoreResult Unit × IamDatabase :=
  let doomed (row : PolicyAttachment) : Bool :=
    row.policyId = policyId && row.userId = principalId
  if database.attachments.rows.any doomed then
    (.ok (), { database with attachments := database.attachments.filter fun row => !doomed row })
  else
    (.error (.notFound (("No attachment found for policy_id " : Text) ++ Nat.toDigits 10 policyId ++
      " and principal_id ".toList ++ Nat.toDigits 10 principalId)), database)

def getManagedPoliciesAttachedToPrincipal (database : IamDatabase) (principalId : RowId) :
    List ManagedPolicy :=
  database.managedPolicies.rows.filter fun policy =>
    database.attachments.rows.any fun row =>
      row.policyId = policy.id && row.userId = principalId

/-! ### The calls -/

/-- A query leaves the database as it is. -/
def query {α : Type} (database : IamDatabase) (answer : α) : StoreResult α × IamDatabase :=
  (.ok answer, database)

/-- What each call of the store does. -/
def serve : Serve iamStore IamDatabase
  | .getSecretKey accessKey, database => database.query (database.getSecretKey accessKey)
  | .listAccessKeysForPrincipal principalId, database =>
      database.query (database.listAccessKeysForPrincipal principalId)
  | .insertSecretKey accessKey secretKey principalId, database =>
      database.insertSecretKey accessKey secretKey principalId
  | .deleteAccessKeyForPrincipal principalId accessKey, database =>
      database.deleteAccessKeyForPrincipal principalId accessKey
  | .getPrincipal principalId, database => database.query (database.getPrincipal principalId)
  | .getPrincipalByIdentity accountId kind name, database =>
      database.query (database.getPrincipalByIdentity accountId kind name)
  | .listPrincipals, database => database.query database.listPrincipals
  | .createPrincipal principal, database => database.createPrincipal principal
  | .deletePrincipal principalId, database => database.deletePrincipal principalId
  | .deleteUser accountId name, database => database.deleteUser accountId name
  | .getInlinePoliciesForPrincipal principalId, database =>
      database.query (database.getInlinePoliciesForPrincipal principalId)
  | .putInlinePolicy principalId policyName policyDocument, database =>
      database.putInlinePolicy principalId policyName policyDocument
  | .deleteInlinePolicy principalId policyName, database =>
      database.deleteInlinePolicy principalId policyName
  | .getPrincipalPolicy principalId policyName, database =>
      database.query (database.getPrincipalPolicy principalId policyName)
  | .insertManagedPolicy policy, database => database.insertManagedPolicy policy
  | .getManagedPolicy accountId policyName policyPath, database =>
      database.query (database.getManagedPolicy accountId policyName policyPath)
  | .listManagedPolicies, database => database.query database.listManagedPolicies
  | .updateManagedPolicyDocument policyId policyDocument, database =>
      database.updateManagedPolicyDocument policyId policyDocument
  | .attachPolicyToPrincipal policyId principalId, database =>
      database.attachPolicyToPrincipal policyId principalId
  | .detachPolicyFromPrincipal policyId principalId, database =>
      database.detachPolicyFromPrincipal policyId principalId
  | .deleteManagedPolicy accountId policyName policyPath, database =>
      database.deleteManagedPolicy accountId policyName policyPath
  | .getManagedPoliciesAttachedToPrincipal principalId, database =>
      database.query (database.getManagedPoliciesAttachedToPrincipal principalId)

end IamDatabase

end Hiraeth
