import Hiraeth.Auth.Binding
import Hiraeth.Iam.Entitlement
import Hiraeth.Iam.Grants

/-!
# To whom credentials and policies belong

Requests run interleaved, call by call, and each acts on row numbers it was told
some calls ago.  A number may have been given to another user by then, because
the table of principals gives numbers out again.

## Main definitions

* `GrantedTo` — to whom something was granted, by user id
* `CredentialsStay` — what is stored, and what is read, was granted to the user
  to whom it is applied
* `SparesNumbersInUse` — the steps on which no number in use is given out again

## Main results

* `credentials_stay` — in a run of such steps credentials stay with their user,
  and a deleted user stays deleted
* `createAccessKey_for_another` — a run with one other step, in which a new user
  gets the access key of a deleted one
-/

namespace Hiraeth

open Interaction

/-- Requests interleaved over the store. -/
abbrev IamConfig (ι : Type) := Config iamStore Unit ι IamDatabase

namespace Told

/-- What has been told after some events. -/
def after (history : List (Event iamStore)) : Told :=
  history.foldl learn nothing

theorem after_snoc (history : List (Event iamStore)) (event : Event iamStore) :
    after (history ++ [event]) = (after history).learn event := by
  rw [after, List.foldl_append]
  rfl

/-- The number is among what was told. -/
def Mentions (told : Told) (principalId : RowId) : Prop :=
  (∃ key, told.key = some key ∧ key.principalId = principalId) ∨
    ∃ principal, (told.caller = some principal ∨ told.target = some principal) ∧
      principal.id = principalId

/-- **What an answer tells about principals.**  Either it was known before or it
is a row of the table. -/
theorem learn_principal {told : Told} {database : IamDatabase} {request : IamCall}
    {principal : Principal}
    (learned :
      (told.learn ⟨request, (IamDatabase.serve request database).1⟩).caller = some principal ∨
      (told.learn ⟨request, (IamDatabase.serve request database).1⟩).target = some principal) :
    (∀ new, request ≠ .createPrincipal new) ∧
      ((told.caller = some principal ∨ told.target = some principal) ∨
        principal ∈ database.principals.rows) := by
  cases request with
  | createPrincipal new => rcases learned with impossible | impossible <;> cases impossible
  | getPrincipal principalId =>
      refine ⟨fun _ impossible => (by cases impossible), ?_⟩
      simp only [IamDatabase.serve, IamDatabase.query] at learned
      cases found : database.getPrincipal principalId with
      | none =>
          rw [found] at learned
          exact .inl learned
      | some row =>
          rw [found] at learned
          rcases learned with same | same <;> cases same <;>
            exact .inr (RowTable.mem_of_find_eq_some found)
  | getPrincipalByIdentity accountId kind name =>
      refine ⟨fun _ impossible => (by cases impossible), ?_⟩
      simp only [IamDatabase.serve, IamDatabase.query] at learned
      cases found : database.getPrincipalByIdentity accountId kind name with
      | none =>
          rw [found] at learned
          exact .inl learned
      | some row =>
          rw [found] at learned
          rcases learned with same | same
          · exact .inl (.inl same)
          · cases same
            exact .inr (RowTable.mem_of_find_eq_some found)
  | getSecretKey accessKey =>
      refine ⟨fun _ impossible => (by cases impossible), .inl ?_⟩
      simp only [IamDatabase.serve, IamDatabase.query] at learned
      cases found : database.getSecretKey accessKey <;> rw [found] at learned <;> exact learned
  | _ => exact ⟨fun _ impossible => (by cases impossible), .inl learned⟩

/-- **What an answer tells about keys.**  Likewise. -/
theorem learn_key {told : Told} {database : IamDatabase} {request : IamCall} {key : AccessKey}
    (learned :
      (told.learn ⟨request, (IamDatabase.serve request database).1⟩).key = some key) :
    (∀ new, request ≠ .createPrincipal new) ∧
      (told.key = some key ∨ ∃ row ∈ database.accessKeys.rows, row.toAccessKey = key) := by
  cases request with
  | createPrincipal new => cases learned
  | getSecretKey accessKey =>
      refine ⟨fun _ impossible => (by cases impossible), ?_⟩
      simp only [IamDatabase.serve, IamDatabase.query] at learned
      cases found : database.getSecretKey accessKey with
      | none =>
          rw [found] at learned
          exact .inl learned
      | some row =>
          rw [found] at learned
          cases learned
          obtain ⟨stored, isFound, same⟩ := Option.map_eq_some_iff.mp found
          exact .inr ⟨stored, RowTable.mem_of_find_eq_some isFound, same⟩
  | getPrincipal principalId =>
      refine ⟨fun _ impossible => (by cases impossible), .inl ?_⟩
      simp only [IamDatabase.serve, IamDatabase.query] at learned
      cases found : database.getPrincipal principalId <;> rw [found] at learned <;> exact learned
  | getPrincipalByIdentity accountId kind name =>
      refine ⟨fun _ impossible => (by cases impossible), .inl ?_⟩
      simp only [IamDatabase.serve, IamDatabase.query] at learned
      cases found : database.getPrincipalByIdentity accountId kind name <;>
        rw [found] at learned <;> exact learned
  | _ => exact ⟨fun _ impossible => (by cases impossible), .inl learned⟩

end Told

section Runs

variable {ι : Type} [DecidableEq ι]

/-- **To whom something was granted.**  It was held at the start, or a request
granted it, and then the user is the one the request had been told last. -/
inductive GrantedTo (start config : IamConfig ι) (userId : Text) (grant : Grant) : Prop
  | initially {owner : Principal} (present : owner ∈ start.shared.principals.rows)
      (named : owner.userId = userId) (held : start.shared.Holds owner.id grant)
  | request {thread : ι} {before later : List (Event iamStore)} {event : Event iamStore}
      {target : Principal} (happened : config.history thread = before ++ event :: later)
      (grants : grantOf event = some grant)
      (subject : (Told.after before).target = some target) (named : target.userId = userId)

/-- What a request reads applies to the right user: whom it takes for its caller
was granted the key of its signature, and the policies it is authorized by were
granted to its caller. -/
def Respected (start config : IamConfig ι) (told : Told) : Event iamStore → Prop
  | ⟨.getPrincipal _, .ok (some principal)⟩ => ∃ key, told.key = some key ∧
      GrantedTo start config principal.userId (.accessKey key.keyId key.secretKey)
  | ⟨.getInlinePoliciesForPrincipal _, .ok policies⟩ => ∀ policy ∈ policies,
      ∃ caller, told.caller = some caller ∧
        GrantedTo start config caller.userId (.inlinePolicy policy.policyName policy.policyDocument)
  | ⟨.getManagedPoliciesAttachedToPrincipal _, .ok policies⟩ => ∀ policy ∈ policies,
      ∃ caller, told.caller = some caller ∧
        GrantedTo start config caller.userId (.attachment policy.id)
  | _ => True

/-- **Credentials and policies stay with their user.**  Whatever is stored under
the number of a user was granted to this user, and every request that reads has
respected this. -/
structure CredentialsStay (start config : IamConfig ι) : Prop where
  held : ∀ owner ∈ config.shared.principals.rows, ∀ grant,
    config.shared.Holds owner.id grant → GrantedTo start config owner.userId grant
  read : ∀ thread before event later, config.history thread = before ++ event :: later →
    Respected start config (Told.after before) event

/-- A request still uses a number it was told: some answers lead it to a call
that names the number. -/
def InUse (config : IamConfig ι) (thread : ι) (principalId : RowId) : Prop :=
  (Told.after (config.history thread)).Mentions principalId ∧
    ¬ (config.threads thread).AllCalls (IamCall.Spares principalId)

/-- **No number in use is given out again.**  When the next call creates a user,
no other request uses the number that this user gets. -/
def SparesNumbersInUse (config : IamConfig ι) (thread : ι) : Prop :=
  ∀ principal next created, config.threads thread = .call (.createPrincipal principal) next →
    (config.shared.createPrincipal principal).1 = .ok created →
    ∀ other, other ≠ thread → ¬ InUse config other created.id

/-- How a run starts: requests that have not made a call, over a store that
meets its constraints.  Generated user ids are new and differ. -/
structure Opening (server : IamServer) (requests : ι → IamRequest) (start : IamConfig ι) :
    Prop where
  threads : ∀ thread, start.threads thread = (requests thread).program server
  log : start.log = []
  valid : start.shared.Valid
  distinct : Function.Injective fun thread => (requests thread).generated.userId
  unused : ∀ thread, ∀ row ∈ start.shared.principals.rows,
    row.userId ≠ (requests thread).generated.userId

/-! ### One step -/

section Step

variable {start config : IamConfig ι} {thread : ι} {request : IamCall}
  {next : IamCall.Answer request → IamProgram Unit}

/-- One step later, the history of a thread is longer or the same. -/
theorem history_answer (other : ι) :
    ∃ more, (config.answer IamDatabase.serve thread request next).history other =
      config.history other ++ more := by
  by_cases same : other = thread
  · subst same
    exact ⟨_, history_answer_self⟩
  · exact ⟨[], by rw [history_answer_ne same, List.append_nil]⟩

/-- What was granted stays granted. -/
theorem GrantedTo.answer {userId : Text} {grant : Grant}
    (granted : GrantedTo start config userId grant) :
    GrantedTo start (config.answer IamDatabase.serve thread request next) userId grant := by
  cases granted with
  | initially present named held => exact .initially present named held
  | @request other before later event target happened grants subject named =>
      obtain ⟨more, longer⟩ := @history_answer ι _ config thread request next other
      have stillHappened : (config.answer IamDatabase.serve thread request next).history other =
          before ++ event :: (later ++ more) := by
        rw [longer, happened, List.append_assoc, List.cons_append]
      exact .request stillHappened grants subject named

theorem Respected.answer {told : Told} {event : Event iamStore}
    (respected : Respected start config told event) :
    Respected start (config.answer IamDatabase.serve thread request next) told event := by
  unfold Respected at respected ⊢
  split
  · obtain ⟨key, isKey, granted⟩ := respected
    exact ⟨key, isKey, granted.answer⟩
  · intro policy member
    obtain ⟨caller, isCaller, granted⟩ := respected policy member
    exact ⟨caller, isCaller, granted.answer⟩
  · intro policy member
    obtain ⟨caller, isCaller, granted⟩ := respected policy member
    exact ⟨caller, isCaller, granted.answer⟩
  · trivial

/-- A number that is still used after a call was used before it. -/
theorem not_allCalls_of_answer (pending : config.threads thread = .call request next)
    {principalId : RowId}
    (uses : ¬ ((config.answer IamDatabase.serve thread request next).threads thread).AllCalls
      (IamCall.Spares principalId)) :
    ¬ (config.threads thread).AllCalls (IamCall.Spares principalId) := by
  intro every
  rw [pending] at every
  rw [threads_answer_self] at uses
  exact uses (every.2 _)

/-- The steps of another thread do not change whether a number is in use. -/
theorem inUse_answer_ne {other : ι} (different : other ≠ thread) {principalId : RowId} :
    InUse (config.answer IamDatabase.serve thread request next) other principalId ↔
      InUse config other principalId := by
  unfold InUse
  rw [history_answer_ne different, threads_answer_ne different]

end Step

/-! ### The invariant -/

/-- **The invariant of a run.**  A number in use still belongs to the user for
whom it was told, if it belongs to a user at all. -/
structure Sound (start config : IamConfig ι) : Prop extends CredentialsStay start config where
  valid : config.shared.Valid
  principal : ∀ thread principal,
    ((Told.after (config.history thread)).caller = some principal ∨
      (Told.after (config.history thread)).target = some principal) →
    InUse config thread principal.id → ∀ row ∈ config.shared.principals.rows,
    row.id = principal.id → row.userId = principal.userId
  key : ∀ thread key, (Told.after (config.history thread)).key = some key →
    InUse config thread key.principalId → ∀ row ∈ config.shared.principals.rows,
    row.id = key.principalId →
    GrantedTo start config row.userId (.accessKey key.keyId key.secretKey)

/-- A call that grants something names the user it was told last. -/
theorem Told.Entitles.of_grantOf {told : Told} {userId : Text} {request : IamCall}
    {answer : request.Answer} {grant : Grant} {principalId : RowId}
    (entitled : told.Entitles userId request) (grants : grantOf ⟨request, answer⟩ = some grant)
    (named : request.names = some principalId) :
    ∃ target, told.target = some target ∧ target.id = principalId := by
  cases request with
  | insertSecretKey accessKey secretKey owner =>
      cases named
      exact entitled
  | putInlinePolicy owner policyName policyDocument =>
      cases named
      exact entitled
  | attachPolicyToPrincipal policyId owner =>
      cases named
      exact entitled
  | _ => cases grants

section Preservation

variable {start config : IamConfig ι} {thread : ι} {request : IamCall}
  {next : IamCall.Answer request → IamProgram Unit} {userId : Text}

/-- A number that the pending call names is in use, if it was told. -/
theorem inUse_of_names (pending : config.threads thread = .call request next)
    {principalId : RowId} (named : request.names = some principalId)
    (mentioned : (Told.after (config.history thread)).Mentions principalId) :
    InUse config thread principalId := by
  refine ⟨mentioned, fun every => ?_⟩
  rw [pending] at every
  exact every.1 named

/-- What the pending call reads respects its users. -/
theorem Sound.respected (sound : Sound start config)
    (pending : config.threads thread = .call request next)
    (entitled : (Told.after (config.history thread)).Entitles userId request) :
    Respected start config (Told.after (config.history thread))
      ⟨request, (IamDatabase.serve request config.shared).1⟩ := by
  -- a policy that is read belongs to a row with the number of the caller
  have reads : ∀ {principalId : RowId} {grant : Grant}, request.names = some principalId →
      (∃ caller, (Told.after (config.history thread)).caller = some caller ∧
        caller.id = principalId) →
      config.shared.Holds principalId grant →
      (∃ owner ∈ config.shared.principals.rows, owner.id = principalId) →
      ∃ caller, (Told.after (config.history thread)).caller = some caller ∧
        GrantedTo start config caller.userId grant := by
    rintro principalId grant named ⟨caller, isCaller, rfl⟩ holds ⟨owner, present, same⟩
    refine ⟨caller, isCaller, ?_⟩
    have used := inUse_of_names pending named (.inr ⟨caller, .inl isCaller, rfl⟩)
    rw [← sound.principal thread caller (.inl isCaller) used owner present same]
    exact sound.held owner present grant (same ▸ holds)
  cases request with
  | getPrincipal principalId =>
      simp only [IamDatabase.serve, IamDatabase.query]
      cases found : config.shared.getPrincipal principalId with
      | none => trivial
      | some principal =>
          obtain ⟨key, isKey, rfl⟩ := entitled
          have used := inUse_of_names pending rfl (.inl ⟨key, isKey, rfl⟩)
          have same : principal.id = key.principalId := by
            simpa using RowTable.wanted_of_find_eq_some found
          exact ⟨key, isKey, sound.key thread key isKey used principal
            (RowTable.mem_of_find_eq_some found) same⟩
  | getInlinePoliciesForPrincipal principalId =>
      intro policy member
      obtain ⟨stored, isOwner⟩ := List.mem_filter.mp member
      have owner : policy.principalId = principalId := by simpa using isOwner
      refine reads rfl entitled (.inlinePolicy stored owner) ?_
      exact owner ▸ sound.valid.inlineOwner policy stored
  | getManagedPoliciesAttachedToPrincipal principalId =>
      intro policy member
      obtain ⟨row, stored, isAttached⟩ := List.any_eq_true.mp (List.mem_filter.mp member).2
      obtain ⟨samePolicy, owner⟩ : row.policyId = policy.id ∧ row.userId = principalId := by
        simpa using isAttached
      rw [← samePolicy]
      refine reads rfl entitled (.attachment stored owner) ?_
      exact owner ▸ sound.valid.attachedUser row stored
  | _ => trivial

/-- What is held after the pending call was granted to its holder. -/
theorem Sound.held_answer (sound : Sound start config)
    (pending : config.threads thread = .call request next)
    (entitled : (Told.after (config.history thread)).Entitles userId request)
    {owner : Principal}
    (present : owner ∈ (IamDatabase.serve request config.shared).2.principals.rows)
    {grant : Grant} (holds : (IamDatabase.serve request config.shared).2.Holds owner.id grant) :
    GrantedTo start (config.answer IamDatabase.serve thread request next) owner.userId grant := by
  rcases IamDatabase.holds_serve request holds with before | ⟨grants, named⟩
  · rcases IamDatabase.principal_serve request present with old | ⟨new, -, rfl, -⟩
    · exact (sound.held owner old grant before).answer
    · exact absurd before (IamDatabase.not_holds_nextId sound.valid)
  · obtain ⟨target, isTarget, same⟩ := entitled.of_grantOf grants named
    have used := inUse_of_names pending named (.inr ⟨target, .inr isTarget, same⟩)
    rcases IamDatabase.principal_serve request present with old | ⟨new, rfl, -, -⟩
    · refine .request history_answer_self grants isTarget ?_
      exact (sound.principal thread target (.inr isTarget) (same ▸ used) owner old same.symm).symm
    · cases named

/-- Of a longer history, the event is the last one or it was there before. -/
theorem history_snoc_split {history before later : List (Event iamStore)}
    {last event : Event iamStore} (split : history ++ [last] = before ++ event :: later) :
    before = history ∧ event = last ∨ ∃ earlier, history = before ++ event :: earlier := by
  rcases List.eq_nil_or_concat later with rfl | ⟨earlier, final, rfl⟩
  · obtain ⟨rfl, same⟩ := List.append_inj' split rfl
    cases same
    exact .inl ⟨rfl, rfl⟩
  · rw [List.concat_eq_append, ← List.cons_append, ← List.append_assoc] at split
    exact .inr ⟨earlier, (List.append_inj' split rfl).1⟩

/-- **The step lemma.** -/
theorem Sound.answer (sound : Sound start config) (spares : SparesNumbersInUse config thread)
    (pending : config.threads thread = .call request next)
    (entitled : (Told.after (config.history thread)).Entitles userId request) :
    Sound start (config.answer IamDatabase.serve thread request next) where
  valid := IamDatabase.serve_valid request sound.valid
  held owner present grant holds := sound.held_answer pending entitled present holds
  read other before event later happened := by
    by_cases same : other = thread
    · subst same
      rw [history_answer_self] at happened
      rcases history_snoc_split happened with ⟨rfl, rfl⟩ | ⟨earlier, old⟩
      · exact (sound.respected pending entitled).answer
      · exact (sound.read other before event earlier old).answer
    · rw [history_answer_ne same] at happened
      exact (sound.read other before event later happened).answer
  principal other principal known used row present same := by
    by_cases equal : other = thread
    · subst equal
      have stillUsed := not_allCalls_of_answer pending used.2
      rw [history_answer_self, Told.after_snoc] at known
      obtain ⟨creates, old | stored⟩ := Told.learn_principal known
      · rcases IamDatabase.principal_serve request present with before | ⟨new, isNew, -⟩
        · exact sound.principal other principal old ⟨.inr ⟨principal, old, rfl⟩, stillUsed⟩ row
            before same
        · exact absurd isNew (creates new)
      · rcases IamDatabase.principal_serve request present with before | ⟨new, isNew, -⟩
        · rw [RowTable.eq_of_key_eq before stored same]
        · exact absurd isNew (creates new)
    · rw [history_answer_ne equal] at known
      rw [inUse_answer_ne equal] at used
      rcases IamDatabase.principal_serve request present with before | ⟨new, rfl, -, created⟩
      · exact sound.principal other principal known used row before same
      · exact absurd (same ▸ used) (spares new next row pending created other equal)
  key other key known used row present same := by
    by_cases equal : other = thread
    · subst equal
      have stillUsed := not_allCalls_of_answer pending used.2
      rw [history_answer_self, Told.after_snoc] at known
      obtain ⟨creates, learned⟩ := Told.learn_key known
      rcases IamDatabase.principal_serve request present with before | ⟨new, isNew, -⟩
      · rcases learned with old | ⟨stored, isStored, rfl⟩
        · exact (sound.key other key old ⟨.inl ⟨key, old, rfl⟩, stillUsed⟩ row before same).answer
        · exact (sound.held row before _ (.accessKey isStored same.symm)).answer
      · exact absurd isNew (creates new)
    · rw [history_answer_ne equal] at known
      rw [inUse_answer_ne equal] at used
      rcases IamDatabase.principal_serve request present with before | ⟨new, rfl, -, created⟩
      · exact (sound.key other key known used row before same).answer
      · exact absurd (same ▸ used) (spares new next row pending created other equal)

end Preservation

/-! ### Runs -/

section Run

variable {server : IamServer} {requests : ι → IamRequest} {start config : IamConfig ι}

theorem Opening.history_eq_nil (opening : Opening server requests start) (thread : ι) :
    start.history thread = [] := by
  rw [Config.history, opening.log, List.filterMap_nil]

/-- At the start nobody has been told anything. -/
theorem Opening.sound (opening : Opening server requests start) : Sound start start where
  valid := opening.valid
  held owner present grant holds := .initially present rfl holds
  read thread before event later happened := by
    rw [opening.history_eq_nil] at happened
    simp at happened
  principal thread principal known := by
    rw [opening.history_eq_nil] at known
    rcases known with impossible | impossible <;> cases impossible
  key thread key known := by
    rw [opening.history_eq_nil] at known
    cases known

/-- Every request of the run obeys from what it has been told. -/
theorem Opening.obeys (opening : Opening server requests start)
    (reachable : Reachable IamDatabase.serve SparesNumbersInUse start config) (thread : ι) :
    (config.threads thread).Obeys (entitlement (requests thread).generated.userId)
      (fun _ _ => True) (Told.after (config.history thread)) := by
  refine reachable.obeys opening.log ?_
  rw [opening.threads]
  exact (requests thread).obeys

/-- **The run lemma.** -/
theorem Opening.reachable_sound (opening : Opening server requests start)
    (reachable : Reachable IamDatabase.serve SparesNumbersInUse start config) :
    Sound start config := by
  refine reachable.invariant (Sound start) opening.sound ?_
  intro config config' thread before sound spares taken
  obtain ⟨pending⟩ := taken
  have obeys := opening.obeys before thread
  rw [pending] at obeys
  exact sound.answer spares pending obeys.1

/-! ### Deleted users -/

/-- A user id has been taken: by a user of the start or by a request. -/
def Taken (requests : ι → IamRequest) (start config : IamConfig ι) (userId : Text) : Prop :=
  (∃ row ∈ start.shared.principals.rows, row.userId = userId) ∨
    ∃ thread, (requests thread).generated.userId = userId ∧
      (Told.after (config.history thread)).created = true

theorem Told.created_learn {told : Told} (created : told.created = true)
    (event : Event iamStore) : (told.learn event).created = true := by
  unfold learn
  split <;> first | exact created | rfl

theorem Taken.answer {userId : Text} {thread : ι} {request : IamCall}
    {next : IamCall.Answer request → IamProgram Unit} (taken : Taken requests start config userId) :
    Taken requests start (config.answer IamDatabase.serve thread request next) userId := by
  refine taken.imp_right ?_
  rintro ⟨other, named, created⟩
  refine ⟨other, named, ?_⟩
  by_cases same : other = thread
  · subst same
    rw [history_answer_self, Told.after_snoc]
    exact Told.created_learn created _
  · rw [history_answer_ne same]
    exact created

/-- Every user id in the table has been taken. -/
theorem Opening.taken (opening : Opening server requests start)
    (reachable : Reachable IamDatabase.serve SparesNumbersInUse start config) :
    ∀ row ∈ config.shared.principals.rows, Taken requests start config row.userId := by
  refine reachable.invariant (fun config => ∀ row ∈ config.shared.principals.rows,
    Taken requests start config row.userId) (fun row present => .inl ⟨row, present, rfl⟩) ?_
  intro config config' thread before known _ taken row present
  obtain ⟨pending⟩ := taken
  rcases IamDatabase.principal_serve _ present with old | ⟨new, rfl, rfl, -⟩
  · exact (known row old).answer
  · have obeys := opening.obeys before thread
    rw [pending] at obeys
    refine .inr ⟨thread, obeys.1.1.symm, ?_⟩
    rw [history_answer_self, Told.after_snoc]
    rfl

/-- The user whom a request takes for its caller. -/
def identified : Event iamStore → Option Text
  | ⟨.getPrincipal _, .ok (some principal)⟩ => some principal.userId
  | _ => none

/-- Only a row of the table is taken for a caller. -/
theorem exists_of_identified {database : IamDatabase} {request : IamCall} {userId : Text}
    (seen : identified ⟨request, (IamDatabase.serve request database).1⟩ = some userId) :
    ∃ row ∈ database.principals.rows, row.userId = userId := by
  cases request with
  | getPrincipal principalId =>
      simp only [IamDatabase.serve, IamDatabase.query] at seen
      cases found : database.getPrincipal principalId with
      | none => rw [found] at seen; cases seen
      | some row =>
          rw [found] at seen
          exact ⟨row, RowTable.mem_of_find_eq_some found, Option.some.inj seen⟩
  | _ => cases seen

/-- What stays true once a user id that was taken is gone. -/
structure Gone (requests : ι → IamRequest) (start config : IamConfig ι) (userId : Text)
    (later : IamConfig ι) : Prop where
  taken : Taken requests start later userId
  absent : ∀ row ∈ later.shared.principals.rows, row.userId ≠ userId
  unseen : ∃ more, later.log = config.log ++ more ∧
    ∀ entry ∈ more, identified entry.2 ≠ some userId

/-- **Who is gone stays gone.** -/
theorem Opening.gone (opening : Opening server requests start)
    (reachable : Reachable IamDatabase.serve SparesNumbersInUse start config) {userId : Text}
    (taken : Taken requests start config userId)
    (absent : ∀ row ∈ config.shared.principals.rows, row.userId ≠ userId)
    {later : IamConfig ι}
    (onwards : Reachable IamDatabase.serve SparesNumbersInUse config later) :
    Gone requests start config userId later := by
  refine onwards.invariant (Gone requests start config userId)
    ⟨taken, absent, [], (List.append_nil _).symm, by simp⟩ ?_
  rintro before after thread between ⟨isTaken, isAbsent, more, longer, unseen⟩ _ step
  obtain ⟨pending⟩ := step
  rename_i request next
  refine ⟨isTaken.answer, ?_,
    more ++ [(thread, ⟨request, (IamDatabase.serve request before.shared).1⟩)], ?_, ?_⟩
  · intro row present same
    rcases IamDatabase.principal_serve request present with old | ⟨new, rfl, rfl, -⟩
    · exact isAbsent row old same
    have obeys := opening.obeys (reachable.trans between) thread
    rw [pending] at obeys
    obtain ⟨generated, uncreated⟩ := obeys.1
    -- the id is one that this request has generated and not yet used
    have isGenerated : (requests thread).generated.userId = userId := generated.symm.trans same
    rcases isTaken with ⟨old, present, isOld⟩ | ⟨other, isOther, created⟩
    · exact opening.unused thread old present (isOld.trans isGenerated.symm)
    · obtain rfl : other = thread := opening.distinct (isOther.trans isGenerated.symm)
      rw [uncreated] at created
      cases created
  · rw [Config.answer, longer, List.append_assoc]
  · intro entry member
    rcases List.mem_append.mp member with old | last
    · exact unseen entry old
    · obtain rfl := List.mem_singleton.mp last
      intro seen
      obtain ⟨row, present, same⟩ := exists_of_identified seen
      exact isAbsent row present same

/-- Deleting a user removes the user id. -/
theorem IamDatabase.deleteUser_absent {database : IamDatabase} (valid : database.Valid)
    {accountId name : Text} {user : Principal} (present : user ∈ database.principals.rows)
    (named : IamDatabase.isUserNamed accountId name user) :
    ∀ row ∈ (database.deleteUser accountId name).2.principals.rows, row.userId ≠ user.userId := by
  intro row survives same
  unfold deleteUser at survives
  rw [if_pos (List.any_eq_true.mpr ⟨user, present, named⟩)] at survives
  obtain ⟨old, spared⟩ := RowTable.mem_filter.mp survives
  obtain rfl := valid.userId old present same
  rw [named] at spared
  cases spared

/-- **Credentials stay with their user.**  In every run in which no number in use
is given out again, whatever is stored or read was granted to the user to whom
it is applied, and once a user is deleted, no row has the user's id and no
request takes the user for its caller any more. -/
theorem credentials_stay (opening : Opening server requests start)
    (reachable : Reachable IamDatabase.serve SparesNumbersInUse start config) :
    CredentialsStay start config ∧
    ∀ thread accountId name next,
      config.threads thread = .call (.deleteUser accountId name) next →
      ∀ user ∈ config.shared.principals.rows, IamDatabase.isUserNamed accountId name user →
      ∀ later more, Reachable IamDatabase.serve SparesNumbersInUse
          (config.answer IamDatabase.serve thread (.deleteUser accountId name) next) later →
        later.log = (config.answer IamDatabase.serve thread (.deleteUser accountId name)
          next).log ++ more →
        (∀ row ∈ later.shared.principals.rows, row.userId ≠ user.userId) ∧
        ∀ entry ∈ more, identified entry.2 ≠ some user.userId := by
  have sound := opening.reachable_sound reachable
  refine ⟨sound.toCredentialsStay, ?_⟩
  intro thread accountId name next pending user present named later more onwards longer
  have deleted : Reachable IamDatabase.serve SparesNumbersInUse start
      (config.answer IamDatabase.serve thread (.deleteUser accountId name) next) := by
    refine .step reachable ?_ ⟨pending⟩
    intro principal other created creates
    rw [pending] at creates
    cases creates
  obtain ⟨-, absent, more', longer', unseen⟩ := opening.gone deleted
    (opening.taken reachable user present).answer
    (IamDatabase.deleteUser_absent sound.valid present named) onwards
  obtain rfl := List.append_cancel_left (longer.symm.trans longer')
  exact ⟨absent, unseen⟩

end Run

end Runs

/-! ### A key that goes to another user -/

/-- A form and the digests that occur while it is authenticated, as SHA-256 and
HMAC-SHA256 give them. -/
structure SignedForm where
  form : Text
  formDigest : Bytes
  canonicalDigest : Bytes
  signature : Bytes

def createKeyForAlice : SignedForm where
  form := "Action=CreateAccessKey&UserName=alice"
  formDigest :=
    [16, 113, 54, 142, 247, 125, 123, 233, 42, 156, 90, 90, 148, 80, 223,
     54, 96, 3, 45, 61, 171, 203, 4, 172, 182, 17, 10, 40, 178, 125, 130,
     169]
  canonicalDigest :=
    [94, 44, 40, 35, 138, 168, 53, 71, 4, 198, 87, 54, 40, 79, 79, 125,
     91, 94, 251, 4, 244, 188, 74, 138, 86, 49, 117, 210, 12, 140, 9, 123]
  signature :=
    [244, 78, 71, 112, 1, 48, 228, 211, 134, 231, 98, 211, 205, 197, 118,
     101, 103, 23, 163, 75, 196, 115, 102, 247, 235, 54, 75, 146, 105,
     242, 194, 31]

def deleteAlice : SignedForm where
  form := "Action=DeleteUser&UserName=alice"
  formDigest :=
    [130, 208, 194, 57, 200, 123, 145, 113, 35, 215, 250, 232, 135, 154,
     190, 105, 180, 58, 247, 115, 107, 202, 61, 60, 107, 14, 164, 111, 5,
     59, 16, 89]
  canonicalDigest :=
    [114, 97, 187, 12, 105, 31, 70, 22, 164, 221, 153, 69, 12, 77, 127,
     122, 94, 188, 223, 67, 137, 3, 111, 230, 224, 170, 84, 25, 60, 51,
     43, 122]
  signature :=
    [146, 92, 255, 149, 111, 123, 214, 198, 97, 226, 9, 173, 104, 108, 93,
     56, 1, 191, 248, 220, 0, 94, 188, 239, 221, 49, 223, 7, 133, 199,
     198, 96]

def createBob : SignedForm where
  form := "Action=CreateUser&UserName=bob"
  formDigest :=
    [39, 96, 210, 14, 117, 21, 150, 5, 133, 35, 119, 59, 141, 176, 188,
     179, 207, 233, 118, 58, 171, 43, 66, 174, 196, 20, 158, 67, 229, 40,
     125, 187]
  canonicalDigest :=
    [196, 37, 69, 188, 110, 254, 159, 96, 227, 143, 134, 176, 153, 187,
     96, 249, 130, 77, 143, 137, 174, 110, 27, 33, 32, 50, 203, 173, 169,
     106, 131, 127]
  signature :=
    [216, 210, 24, 165, 9, 32, 187, 121, 205, 161, 146, 232, 192, 32, 190,
     192, 169, 250, 93, 21, 218, 122, 155, 131, 118, 146, 155, 85, 246,
     114, 229, 191]

/-- The keys derived from the secret of the administrator. -/
def derivedKeys : List Bytes := [
    [143, 178, 128, 224, 145, 187, 144, 109, 161, 74, 116, 186, 116, 222,
     153, 7, 88, 157, 237, 234, 60, 109, 144, 19, 79, 158, 102, 205, 162,
     151, 171, 206],
    [215, 112, 173, 254, 122, 214, 72, 116, 38, 10, 203, 197, 184, 15, 94,
     37, 30, 113, 119, 90, 202, 167, 197, 38, 43, 249, 85, 140, 13, 51,
     114, 48],
    [240, 229, 67, 188, 219, 146, 77, 60, 83, 70, 100, 138, 136, 84, 241,
     71, 161, 153, 86, 145, 97, 39, 147, 248, 176, 168, 44, 86, 195, 114,
     7, 125],
    [108, 166, 200, 195, 196, 5, 100, 231, 170, 31, 105, 200, 204, 15, 62,
     234, 23, 180, 215, 172, 70, 9, 172, 194, 91, 81, 114, 130, 72, 67,
     57, 18]]

def signedForms : List SignedForm :=
  [createKeyForAlice, deleteAlice, createBob]

/-- The derivation of the keys, step by step. -/
def derivations : List ((Bytes × Bytes) × Bytes) :=
  ((Text.utf8 "AWS4adminsecret" :: derivedKeys).zip
    (["20260330", "us-east-1", "iam", "aws4_request"].map Text.utf8)).zip
      derivedKeys

def adminLibrary : AuthLibrary where
  sha256 := recorded (signedForms.flatMap fun signed => [
    (signed.form.utf8, signed.formDigest),
    (Text.utf8 ("POST\n/\n\nhost:localhost\n".toList ++
      "x-amz-date:20260330T120000Z\n\n".toList ++ "host;x-amz-date\n".toList ++
      ByteText.hexEncode ByteText.lowerHex signed.formDigest), signed.canonicalDigest)])
  hmacSha256 := fun key message => recorded (derivations ++ signedForms.map fun signed =>
    ((derivedKeys.getLastD [], Text.utf8 ("AWS4-HMAC-SHA256\n20260330T120000Z\n".toList ++
      "20260330/us-east-1/iam/aws4_request\n".toList ++
      ByteText.hexEncode ByteText.lowerHex signed.canonicalDigest)), signed.signature))
    (key, message)
  parseTimestamp := fun stamp =>
    if stamp = "20260330T120000Z" then some 1774872000000000000 else none

/-- The request of the administrator that carries the form. -/
def SignedForm.request (signed : SignedForm) : IncomingRequest :=
  .fromParts {
    method := "POST"
    path := "/"
    query := none
    headers := [
      ("host", Text.utf8 "localhost"),
      ("x-amz-date", Text.utf8 "20260330T120000Z"),
      ("authorization", Text.utf8 ("AWS4-HMAC-SHA256 ".toList ++
        "Credential=AKIAADMIN/20260330/us-east-1/iam/aws4_request, ".toList ++
        "SignedHeaders=host;x-amz-date, ".toList ++ "Signature=".toList ++
        ByteText.hexEncode ByteText.lowerHex signed.signature))] }
    signed.form.utf8

def adminServer : IamServer where
  library := adminLibrary
  parse := plainForm
  parsePolicy := parseEverything
  readJson := fun _ => .ok true
  mode := .enforce

/-- Three requests of the administrator: an access key for alice, the deletion
of alice, and a new user. -/
def adminRequests : Fin 3 → IamRequest
  | 0 => ⟨"key", createKeyForAlice.request, ⟨"AIDAKEY", "AKIAALICE", "alicesecret"⟩,
      .createAccessKey⟩
  | 1 => ⟨"delete", deleteAlice.request, ⟨"AIDADELETE", "AKIADELETE", "deletesecret"⟩,
      .deleteUser⟩
  | 2 => ⟨"create", createBob.request, ⟨"AIDABOB", "AKIABOB", "bobsecret"⟩, .createUser⟩

/-- A store with the administrator, who may do everything, and alice. -/
def adminDatabase : IamDatabase :=
  let admin := (IamDatabase.empty.createPrincipal ⟨"000000000000", "user", "admin", "/",
    "AIDAADMIN"⟩).2
  let alice := (admin.createPrincipal ⟨"000000000000", "user", "alice", "/", "AIDAALICE"⟩).2
  let signing := (alice.insertSecretKey "AKIAADMIN" "adminsecret" 1).2
  (signing.putInlinePolicy 1 "everything" allowEverythingDocument).2

def adminStart : IamConfig (Fin 3) where
  shared := adminDatabase
  threads := fun thread => (adminRequests thread).program adminServer
  log := []

theorem adminOpening : Opening adminServer adminRequests adminStart where
  threads _ := rfl
  log := rfl
  valid := by
    have empty : IamDatabase.empty.Valid := IamDatabase.empty_valid
    have admin := IamDatabase.createPrincipal_valid empty
      ⟨"000000000000", "user", "admin", "/", "AIDAADMIN"⟩
    have alice := IamDatabase.createPrincipal_valid admin
      ⟨"000000000000", "user", "alice", "/", "AIDAALICE"⟩
    have signing := IamDatabase.insertSecretKey_valid alice "AKIAADMIN" "adminsecret" 1
    exact IamDatabase.putInlinePolicy_valid signing 1 "everything" allowEverythingDocument
  distinct := by
    have different : ∀ left right : Fin 3, (adminRequests left).generated.userId =
        (adminRequests right).generated.userId → left = right := by
      decide
    exact fun left right => different left right
  unused := by decide

/-- One request after the other. -/
def sequentialSchedule : List (Fin 3) :=
  [0, 0, 0, 0, 0, 0, 0, 1, 1, 1, 1, 1, 1, 2, 2, 2, 2, 2]

/-- A user is created only when the other requests are done. -/
def createsLast (config : IamConfig (Fin 3)) (thread : Fin 3) : Bool :=
  match config.threads thread with
  | .call (.createPrincipal _) _ =>
      decide (∀ other, other ≠ thread → (config.threads other).isDone)
  | _ => true

theorem sparesNumbersInUse_of_createsLast (config : IamConfig (Fin 3)) (thread : Fin 3)
    (last : createsLast config thread) : SparesNumbersInUse config thread := by
  intro principal next created pending _ other different inUse
  unfold createsLast at last
  rw [pending] at last
  have done := of_decide_eq_true last other different
  obtain ⟨result, finished⟩ := Program.isDone_iff.mp done
  have used := inUse.2
  rw [finished] at used
  exact used trivial

theorem credentials_stay_sequential :
    CredentialsStay adminStart (adminStart.play IamDatabase.serve sequentialSchedule) :=
  (credentials_stay adminOpening
    (Reachable.play sparesNumbersInUse_of_createsLast .start (by decide +kernel))).1

/-- Whom a history grants what, by user id. -/
def grantees : Told → List (Event iamStore) → List (Grant × Text)
  | _, [] => []
  | told, event :: later =>
      match grantOf event, told.target with
      | some grant, some target => (grant, target.userId) :: grantees (told.learn event) later
      | _, _ => grantees (told.learn event) later

theorem mem_grantees {told : Told} {before later : List (Event iamStore)} {event : Event iamStore}
    {grant : Grant} {target : Principal} (grants : grantOf event = some grant)
    (subject : (before.foldl Told.learn told).target = some target) :
    (grant, target.userId) ∈ grantees told (before ++ event :: later) := by
  induction before generalizing told with
  | nil =>
      rw [List.nil_append, grantees, grants, show told.target = some target from subject]
      exact List.mem_cons_self
  | cons first before inductionHypothesis =>
      have later := inductionHypothesis subject
      rw [List.cons_append, grantees]
      split
      · exact List.mem_cons_of_mem _ later
      · exact later

/-- The key for alice is stored last, when bob has her number. -/
def overtakingSchedule : List (Fin 3) :=
  [0, 0, 0, 0, 0, 0, 1, 1, 1, 1, 1, 1, 2, 2, 2, 2, 2, 0]

def keyOfAlice : Grant := .accessKey "AKIAALICE" "alicesecret"

theorem play_overtaking :
    let config := adminStart.play IamDatabase.serve overtakingSchedule
    (∃ bob ∈ config.shared.principals.rows, bob.userId = "AIDABOB" ∧
      ∃ row ∈ config.shared.accessKeys.rows, row.principalId = bob.id ∧
        Grant.accessKey row.keyId row.secretKey = keyOfAlice) ∧
    ∀ thread, (keyOfAlice, ("AIDABOB" : Text)) ∉ grantees .nothing (config.history thread) := by
  decide +kernel

/-- **A new user can get the access key of a deleted one.** -/
theorem createAccessKey_for_another :
    Opening adminServer adminRequests adminStart ∧
      ¬ ∀ config, Reachable IamDatabase.serve (fun _ _ => True) adminStart config →
        CredentialsStay adminStart config := by
  refine ⟨adminOpening, fun always => ?_⟩
  obtain ⟨⟨bob, present, named, row, stored, owner, same⟩, ungranted⟩ := play_overtaking
  have reachable : Reachable IamDatabase.serve (fun _ _ => True) adminStart
      (adminStart.play IamDatabase.serve overtakingSchedule) :=
    Reachable.play (fun _ _ _ => trivial) .start Config.passes_true
  have granted := (always _ reachable).held bob present keyOfAlice (same ▸ .accessKey stored owner)
  rw [named] at granted
  cases granted with
  | @initially owner present isOwner _ =>
      have unknown : ∀ row ∈ adminDatabase.principals.rows, row.userId ≠ "AIDABOB" := by decide
      exact unknown owner present isOwner
  | @request thread before later event target happened grants subject isTarget =>
      refine ungranted thread ?_
      rw [happened, ← isTarget]
      exact mem_grantees grants subject

end Hiraeth
