import Hiraeth.Sqs.Service
import Hiraeth.Store.SqliteSqs
import Hiraeth.Web.SqsConsole

/-!
# What holds of every queue

Queues are written by three ways: a request creates one, a request changes the
attributes of one, and a form of the console creates one.  Each checks what it
writes for itself.  This module states what all of them guarantee, and shows that
it holds in every state that requests and forms reach together.

## Main definitions

* `QueueInvariant` — the bounds of the attributes, the name and the policy
* `SqsTask` — a request or a form, as a program over the store

## Main results

* `fromAttributeMap_valid`, `parseQueueAttributeUpdate_valid` — what is accepted
  is within its bounds
* `queues_satisfy_invariant` — the invariant holds in every reachable state
-/

namespace Hiraeth

open Interaction Program

/-- A number within bounds. -/
def Within (low high value : ℤ) : Prop :=
  low ≤ value ∧ value ≤ high

instance (low high value : ℤ) : Decidable (Within low high value) :=
  inferInstanceAs (Decidable (_ ∧ _))

/-- **A valid name**: at most eighty letters, digits, hyphens and underscores, which
the suffix of a FIFO queue may follow. -/
structure ValidQueueName (name : Text) : Prop where
  nonempty : name ≠ []
  short : (Text.utf8 name).length ≤ 80
  letters : ∃ stem, (name = stem ∨ name = stem ++ (".fifo" : Text)) ∧
    ∀ c ∈ stem, isNameChar c = true

/-- **What holds of every queue.** -/
structure QueueInvariant (library : JsonLibrary) (queue : SqsQueue) : Prop where
  name : ValidQueueName queue.name
  queueType : queue.queueType = ("standard" : Text) ∨ queue.queueType = ("fifo" : Text)
  suffix : (".fifo" : Text) <:+ queue.name ↔ queue.queueType = ("fifo" : Text)
  visibilityTimeout : Within 0 43200 queue.visibilityTimeoutSeconds
  delay : Within 0 900 queue.delaySeconds
  maximumMessageSize : Within 1024 1048576 queue.maximumMessageSize
  messageRetentionPeriod : Within 60 1209600 queue.messageRetentionPeriodSeconds
  receiveMessageWaitTime : Within 0 20 queue.receiveMessageWaitTimeSeconds
  kmsDataKeyReusePeriod : Within 60 86400 queue.kmsDataKeyReusePeriodSeconds
  deduplicationScope : queue.deduplicationScope ∈ [("queue" : Text), ("messageGroup" : Text)]
  fifoThroughputLimit :
    queue.fifoThroughputLimit ∈ [("perQueue" : Text), ("perMessageGroupId" : Text)]
  policy : ∃ policy, parsePolicyText library queue.policy = .ok policy

/-- How the JSON library reads the empty object, with blanks around it or
without. -/
structure ReadsEmptyObject (library : JsonLibrary) : Prop where
  plain : library.read (Text.utf8 "{}") = .ok (.object [])
  blanks : ∀ {text json}, trim text = ("{}" : Text) → library.read text.utf8 = .ok json →
    json = .object []

variable {library : JsonLibrary} {attributes : AttributeMap} {name : Text}

/-- The empty object is a policy. -/
theorem decodePolicy_empty : decodePolicy (.object []) = .ok Policy.default :=
  rfl

/-! ### Single attributes -/

theorem within_of_parseI64Attribute {low high value : ℤ}
    (parsed : parseI64Attribute attributes name low high = .ok (some value)) :
    Within low high value := by
  unfold parseI64Attribute at parsed
  cases given : attributes.get? name with
  | none =>
      rw [given] at parsed
      cases parsed
  | some raw =>
      rw [given] at parsed
      dsimp only at parsed
      cases number : parseI64 raw with
      | none =>
          rw [number] at parsed
          cases parsed
      | some read =>
          rw [number] at parsed
          dsimp only at parsed
          split_ifs at parsed with inRange
          cases parsed
          exact inRange

theorem within_of_getI64Attribute {default low high value : ℤ}
    (got : getI64Attribute attributes name default low high = .ok value)
    (fallback : Within low high default) : Within low high value := by
  unfold getI64Attribute at got
  obtain ⟨found, parsed, rfl⟩ := map_eq_ok.mp got
  cases found with
  | none => exact fallback
  | some value => exact within_of_parseI64Attribute parsed

theorem mem_of_parseAllowedStringAttribute {allowed : List Text} {value : Text}
    (parsed : parseAllowedStringAttribute attributes name allowed = .ok (some value)) :
    value ∈ allowed := by
  unfold parseAllowedStringAttribute at parsed
  cases given : attributes.get? name with
  | none =>
      rw [given] at parsed
      cases parsed
  | some raw =>
      rw [given] at parsed
      dsimp only at parsed
      split_ifs at parsed with isAllowed
      cases parsed
      exact List.contains_iff_mem.mp isAllowed

theorem mem_of_getAllowedStringAttribute {allowed : List Text} {default value : Text}
    (got : getAllowedStringAttribute attributes name default allowed = .ok value)
    (fallback : default ∈ allowed) : value ∈ allowed := by
  unfold getAllowedStringAttribute at got
  obtain ⟨found, parsed, rfl⟩ := map_eq_ok.mp got
  cases found with
  | none => exact fallback
  | some value => exact mem_of_parseAllowedStringAttribute parsed

/-- **An accepted policy is a policy.**  The empty object is accepted without the
second check, and is one. -/
theorem policy_of_parseJsonStringAttribute (reads : ReadsEmptyObject library) {value : Text}
    (parsed : parseJsonStringAttribute library attributes "Policy" = .ok (some value)) :
    ∃ policy, parsePolicyText library value = .ok policy := by
  unfold parseJsonStringAttribute at parsed
  cases given : attributes.get? "Policy" with
  | none =>
      rw [given] at parsed
      cases parsed
  | some raw =>
      rw [given] at parsed
      simp only [bind_eq_ok, mapError_eq_ok] at parsed
      obtain ⟨json, isJson, rest⟩ := parsed
      split_ifs at rest with checked
      · simp only [bind_eq_ok, mapError_eq_ok, pure_eq_ok, Except.ok.injEq,
          Option.some.injEq] at rest
        obtain ⟨policy, isPolicy, rfl⟩ := rest
        exact ⟨policy, isPolicy⟩
      · obtain rfl : raw = value := by simpa using rest
        have empty : trim raw = ("{}" : Text) := by
          by_contra other
          exact checked ⟨trivial, other⟩
        obtain rfl := reads.blanks empty isJson
        refine ⟨Policy.default, ?_⟩
        rw [parsePolicyText, isJson, ok_bind, decodePolicy_empty]

/-- The default policy is a policy. -/
theorem parsePolicyText_default (reads : ReadsEmptyObject library) :
    parsePolicyText library "{}" = .ok Policy.default := by
  rw [parsePolicyText, reads.plain, ok_bind, decodePolicy_empty]

theorem policy_of_getJsonStringAttribute (reads : ReadsEmptyObject library) {value : Text}
    (got : getJsonStringAttribute library attributes "Policy" "{}" = .ok value) :
    ∃ policy, parsePolicyText library value = .ok policy := by
  unfold getJsonStringAttribute at got
  obtain ⟨found, parsed, rfl⟩ := map_eq_ok.mp got
  cases found with
  | none => exact ⟨Policy.default, parsePolicyText_default reads⟩
  | some value => exact policy_of_parseJsonStringAttribute reads parsed

/-! ### All attributes -/

/-- The attributes of a new queue are within their bounds. -/
structure QueueAttributeValues.Valid (library : JsonLibrary) (values : QueueAttributeValues) :
    Prop where
  visibilityTimeout : Within 0 43200 values.visibilityTimeoutSeconds
  delay : Within 0 900 values.delaySeconds
  maximumMessageSize : Within 1024 1048576 values.maximumMessageSize
  messageRetentionPeriod : Within 60 1209600 values.messageRetentionPeriodSeconds
  receiveMessageWaitTime : Within 0 20 values.receiveMessageWaitTimeSeconds
  kmsDataKeyReusePeriod : Within 60 86400 values.kmsDataKeyReusePeriodSeconds
  deduplicationScope : values.deduplicationScope ∈ [("queue" : Text), ("messageGroup" : Text)]
  fifoThroughputLimit :
    values.fifoThroughputLimit ∈ [("perQueue" : Text), ("perMessageGroupId" : Text)]
  policy : ∃ policy, parsePolicyText library values.policy = .ok policy

/-- **What is accepted for a new queue is within its bounds.** -/
theorem fromAttributeMap_valid (reads : ReadsEmptyObject library) {values : QueueAttributeValues}
    (accepted : QueueAttributeValues.fromAttributeMap library attributes = .ok values) :
    values.Valid library := by
  simp only [QueueAttributeValues.fromAttributeMap, bind_eq_ok, pure_eq_ok,
    Except.ok.injEq] at accepted
  obtain ⟨_, -, visibility, isVisibility, delay, isDelay, size, isSize, retention, isRetention,
    wait, isWait, policy, isPolicy, _, -, _, -, _, -, reuse, isReuse, scope, isScope, limit, isLimit,
    _, -, _, -, rfl⟩ := accepted
  exact {
    visibilityTimeout := within_of_getI64Attribute isVisibility (by decide)
    delay := within_of_getI64Attribute isDelay (by decide)
    maximumMessageSize := within_of_getI64Attribute isSize (by decide)
    messageRetentionPeriod := within_of_getI64Attribute isRetention (by decide)
    receiveMessageWaitTime := within_of_getI64Attribute isWait (by decide)
    kmsDataKeyReusePeriod := within_of_getI64Attribute isReuse (by decide)
    deduplicationScope := mem_of_getAllowedStringAttribute isScope List.mem_cons_self
    fifoThroughputLimit := mem_of_getAllowedStringAttribute isLimit List.mem_cons_self
    policy := policy_of_getJsonStringAttribute reads isPolicy }

/-- The attributes to change are within their bounds. -/
structure SqsQueueAttributeUpdate.Valid (library : JsonLibrary)
    (update : SqsQueueAttributeUpdate) : Prop where
  visibilityTimeout : ∀ value ∈ update.visibilityTimeoutSeconds, Within 0 43200 value
  delay : ∀ value ∈ update.delaySeconds, Within 0 900 value
  maximumMessageSize : ∀ value ∈ update.maximumMessageSize, Within 1024 1048576 value
  messageRetentionPeriod : ∀ value ∈ update.messageRetentionPeriodSeconds, Within 60 1209600 value
  receiveMessageWaitTime : ∀ value ∈ update.receiveMessageWaitTimeSeconds, Within 0 20 value
  kmsDataKeyReusePeriod : ∀ value ∈ update.kmsDataKeyReusePeriodSeconds, Within 60 86400 value
  deduplicationScope : ∀ value ∈ update.deduplicationScope,
    value ∈ [("queue" : Text), ("messageGroup" : Text)]
  fifoThroughputLimit : ∀ value ∈ update.fifoThroughputLimit,
    value ∈ [("perQueue" : Text), ("perMessageGroupId" : Text)]
  policy : ∀ value ∈ update.policy, ∃ policy, parsePolicyText library value = .ok policy

/-- **What is accepted as a change is within its bounds.** -/
theorem parseQueueAttributeUpdate_valid (reads : ReadsEmptyObject library)
    {update : SqsQueueAttributeUpdate}
    (accepted : parseQueueAttributeUpdate library attributes = .ok update) :
    update.Valid library := by
  simp only [parseQueueAttributeUpdate, bind_eq_ok, pure_eq_ok, Except.ok.injEq] at accepted
  obtain ⟨_, -, visibility, isVisibility, delay, isDelay, size, isSize, retention, isRetention,
    wait, isWait, policy, isPolicy, _, -, _, -, reuse, isReuse, scope, isScope, limit, isLimit,
    _, -, _, -, rfl⟩ := accepted
  exact {
    visibilityTimeout := by
      rintro value rfl
      exact within_of_parseI64Attribute isVisibility
    delay := by
      rintro value rfl
      exact within_of_parseI64Attribute isDelay
    maximumMessageSize := by
      rintro value rfl
      exact within_of_parseI64Attribute isSize
    messageRetentionPeriod := by
      rintro value rfl
      exact within_of_parseI64Attribute isRetention
    receiveMessageWaitTime := by
      rintro value rfl
      exact within_of_parseI64Attribute isWait
    kmsDataKeyReusePeriod := by
      rintro value rfl
      exact within_of_parseI64Attribute isReuse
    deduplicationScope := by
      rintro value rfl
      exact mem_of_parseAllowedStringAttribute isScope
    fifoThroughputLimit := by
      rintro value rfl
      exact mem_of_parseAllowedStringAttribute isLimit
    policy := by
      rintro value rfl
      exact policy_of_parseJsonStringAttribute reads isPolicy }

/-- A column after a change, when both the change and the old value are fine. -/
theorem getD_of_forall {Value : Type} {holds : Value → Prop} {change : Option Value} {old : Value}
    (changed : ∀ value ∈ change, holds value) (before : holds old) : holds (change.getD old) := by
  cases change with
  | none => exact before
  | some value => exact changed value rfl

/-- **Changing attributes keeps the invariant.** -/
theorem QueueInvariant.update {queue : SqsQueue} (invariant : QueueInvariant library queue)
    {update : SqsQueueAttributeUpdate} (valid : update.Valid library) (time : Time) :
    QueueInvariant library (SqsDatabase.updateAttributes update time queue) where
  name := invariant.name
  queueType := invariant.queueType
  suffix := invariant.suffix
  visibilityTimeout := getD_of_forall valid.visibilityTimeout invariant.visibilityTimeout
  delay := getD_of_forall valid.delay invariant.delay
  maximumMessageSize := getD_of_forall valid.maximumMessageSize invariant.maximumMessageSize
  messageRetentionPeriod :=
    getD_of_forall valid.messageRetentionPeriod invariant.messageRetentionPeriod
  receiveMessageWaitTime :=
    getD_of_forall valid.receiveMessageWaitTime invariant.receiveMessageWaitTime
  kmsDataKeyReusePeriod :=
    getD_of_forall valid.kmsDataKeyReusePeriod invariant.kmsDataKeyReusePeriod
  deduplicationScope := getD_of_forall valid.deduplicationScope invariant.deduplicationScope
  fifoThroughputLimit := getD_of_forall valid.fifoThroughputLimit invariant.fifoThroughputLimit
  policy := getD_of_forall valid.policy invariant.policy

/-! ### Names -/

/-- The suffix of a name, as it is looked for. -/
theorem isSome_stripSuffix {tail text : Text} :
    (stripSuffix tail text).isSome = true ↔ tail <:+ text := by
  rw [Option.isSome_iff_exists]
  constructor
  · rintro ⟨rest, stripped⟩
    exact ⟨rest, (stripSuffix_eq_some.mp stripped).symm⟩
  · rintro ⟨rest, split⟩
    exact ⟨rest, stripSuffix_eq_some.mpr split.symm⟩

/-- A name is its stem, or its stem with the suffix. -/
theorem stem_of_stripSuffix {tail text : Text} :
    text = (stripSuffix tail text).getD text ∨ text = (stripSuffix tail text).getD text ++ tail := by
  cases stripped : stripSuffix tail text with
  | none => exact Or.inl rfl
  | some rest => exact Or.inr (stripSuffix_eq_some.mp stripped)

/-- **An accepted name is valid**, and its suffix says whether the queue is a FIFO
queue. -/
theorem validateQueueName_valid {queueName : Text} {fifoQueue : Bool}
    (accepted : validateQueueName queueName fifoQueue = .ok ()) :
    ValidQueueName queueName ∧ ((".fifo" : Text) <:+ queueName ↔ fifoQueue = true) := by
  unfold validateQueueName at accepted
  dsimp only at accepted
  split_ifs at accepted with length letters missing surplus
  push Not at length
  refine ⟨⟨length.1, length.2, (stripSuffix ".fifo" queueName).getD queueName,
    stem_of_stripSuffix, ?_⟩, ?_⟩
  · simpa using letters
  · rw [← isSome_stripSuffix]
    cases fifoQueue with
    | false => simpa using surplus
    | true => simpa [Option.isSome_iff_ne_none] using missing

theorem validateCreateQueueForm_valid {form : CreateQueueForm}
    (accepted : validateCreateQueueForm form = .ok ()) :
    ValidQueueName (trim form.queueName) ∧
      (trim form.queueType = ("standard" : Text) ∨ trim form.queueType = ("fifo" : Text)) ∧
      ((".fifo" : Text) <:+ trim form.queueName ↔ trim form.queueType = ("fifo" : Text)) := by
  simp only [validateCreateQueueForm, bind_eq_ok] at accepted
  obtain ⟨_, named, _, -, _, -, checked⟩ := accepted
  have nonempty : trim form.queueName ≠ [] := by
    intro empty
    rw [Console.validateRequired, if_pos empty] at named
    cases named
  unfold Console.validateQueueName at checked
  dsimp only at checked
  split_ifs at checked with known short letters missing surplus
  refine ⟨⟨nonempty, by omega, (stripSuffix ".fifo" (trim form.queueName)).getD _,
    stem_of_stripSuffix, by simpa using letters⟩, known, ?_⟩
  rw [← isSome_stripSuffix]
  constructor
  · intro suffix
    by_contra standard
    exact surplus ⟨standard, suffix⟩
  · intro fifo
    by_contra absent
    exact missing ⟨fifo, absent⟩

/-! ### The store -/

/-- Every queue of the store satisfies the invariant. -/
def QueuesValid (library : JsonLibrary) (database : SqsDatabase) : Prop :=
  ∀ queue ∈ database.queues.rows, QueueInvariant library queue

/-- What a call writes into the table of queues is fine. -/
def SqsCall.WritesValid (library : JsonLibrary) : SqsCall → Prop
  | .createQueue queue => QueueInvariant library queue
  | .setQueueAttributes _ attributes => attributes.Valid library
  | _ => True

/-- The number and the time of creation do not matter. -/
theorem QueueInvariant.newRow {queue : SqsQueue} (invariant : QueueInvariant library queue)
    (database : SqsDatabase) (id : RowId) :
    QueueInvariant library (database.newQueueRow queue id) :=
  { invariant with }

/-- **What holds of every queue is kept** by calls that write only such queues and
only such changes. -/
theorem callsKeep_queues {writes : SqsCall → Prop} {holds : SqsQueue → Prop}
    (created : ∀ queue, writes (.createQueue queue) → ∀ (database : SqsDatabase) id,
      holds (database.newQueueRow queue id))
    (changed : ∀ queueId attributes, writes (.setQueueAttributes queueId attributes) →
      ∀ row time, holds row → holds (SqsDatabase.updateAttributes attributes time row)) :
    CallsKeep SqsDatabase.serve writes fun database => ∀ queue ∈ database.queues.rows, holds queue := by
  intro call database written before
  rcases SqsDatabase.queues_serve call database with same | ⟨queue, rfl, -, added⟩ |
    ⟨queueId, -, left⟩ | ⟨queueId, attributes, rfl, updated⟩
  · rw [same]
    exact before
  · rw [added]
    intro row member
    rcases List.mem_append.mp member with old | isNew
    · exact before row old
    · rw [List.mem_singleton.mp isNew]
      exact created queue written database _
  · rw [left]
    intro row member
    exact before row (RowTable.mem_filter.mp member).1
  · rw [updated]
    intro row member
    obtain ⟨old, isOld, rfl⟩ := List.mem_map.mp member
    split_ifs
    · exact changed queueId attributes written old _ (before old isOld)
    · exact before old isOld

/-- **Such calls keep the invariant.** -/
theorem callsKeep_queuesValid :
    CallsKeep SqsDatabase.serve (SqsCall.WritesValid library) (QueuesValid library) :=
  callsKeep_queues (fun _ valid database id => QueueInvariant.newRow valid database id)
    fun _ _ valid _ time invariant => invariant.update valid time

/-! ### Requests and forms -/

/-- **A request or a form.**  A request comes with what the server draws for it and
with what the authorizer will decide. -/
inductive SqsTask where
  | routed (generated : SqsGenerated) (decision : AuthorizationCheck → AuthorizationResult)
      (request : ResolvedRequest) (action : SqsAction)
  | createQueueForm (now : Time) (form : CreateQueueForm)

/-- A task as a program over the store, without its answer. -/
def SqsTask.program (library : SqsLibrary) : SqsTask → SqsProgram Unit
  | .routed generated decision request action => do
      let _ ← (sqsAction library generated action).typed.route
        (fun _ check => return decision check) request
      return ()
  | .createQueueForm now form => do
      let _ ← (createQueueFromForm now form).run
      return ()

/-- A call that writes nothing into the table of queues, or only deletes from it. -/
def SqsCall.WritesNoQueue : SqsCall → Prop
  | .createQueue _ | .setQueueAttributes .. => False
  | _ => True

/-- **What tasks write into the table of queues.**  A property of calls that covers
what each of the three ways writes. -/
structure CoversWrites (library : SqsLibrary) (property : SqsCall → Prop) : Prop where
  others : ∀ call : SqsCall, call.WritesNoQueue → property call
  created : ∀ {now : Time} {request : ResolvedRequest} {payload : CreateQueueRequest}
    {values : QueueAttributeValues}, validateCreateQueue library payload = .ok values →
      property (.createQueue (newQueue now request payload.queueName values))
  changed : ∀ {queueId : RowId} {attributes : AttributeMap} {update : SqsQueueAttributeUpdate},
    parseQueueAttributeUpdate library.json attributes = .ok update →
      property (.setQueueAttributes queueId update)
  formed : ∀ {now : Time} {form : CreateQueueForm}, validateCreateQueueForm form = .ok () →
    property (.createQueue (queueOfForm now form))

/-- Looking up a queue writes nothing. -/
theorem writesNoQueue_of_isLookup {call : SqsCall} (isLookup : call.IsLookup) :
    call.WritesNoQueue := by
  cases call <;> first | exact isLookup.elim | exact trivial

/-- Only two actions write into the table of queues. -/
theorem writesNoQueue_of_mayCall {action : SqsAction} {call : SqsCall}
    (mayCall : action.MayCall call) (notCreate : action ≠ .createQueue)
    (notSet : action ≠ .setQueueAttributes) : call.WritesNoQueue := by
  cases call with
  | createQueue queue => cases action <;> first | exact mayCall.elim | exact absurd rfl notCreate
  | setQueueAttributes queueId attributes =>
      cases action <;> first | exact mayCall.elim | exact absurd rfl notSet
  | _ => exact trivial

section Handlers

variable {library : SqsLibrary} {request : ResolvedRequest}

/-- **A new queue satisfies the invariant.** -/
theorem newQueue_valid (reads : ReadsEmptyObject library.json) {now : Time}
    {payload : CreateQueueRequest} {values : QueueAttributeValues}
    (checked : validateCreateQueue library payload = .ok values) :
    QueueInvariant library.json (newQueue now request payload.queueName values) := by
  simp only [validateCreateQueue, bind_eq_ok, pure_eq_ok, Except.ok.injEq] at checked
  obtain ⟨accepted, fromMap, _, named, _, -, rfl⟩ := checked
  have valid := fromAttributeMap_valid reads fromMap
  obtain ⟨validName, suffix⟩ := validateQueueName_valid named
  refine { valid with name := validName, queueType := ?_, suffix := suffix.trans ?_ }
  · show (if _ then _ else _) = _ ∨ (if _ then _ else _) = _
    split_ifs
    · exact Or.inr rfl
    · exact Or.inl rfl
  · show accepted.fifoQueue = true ↔ (if _ then _ else _) = _
    cases accepted.fifoQueue <;> simp

/-- A queue of the console satisfies the invariant. -/
theorem queueOfForm_valid (reads : ReadsEmptyObject library.json) {now : Time}
    {form : CreateQueueForm} (checked : validateCreateQueueForm form = .ok ()) :
    QueueInvariant library.json (queueOfForm now form) := by
  obtain ⟨name, queueType, suffix⟩ := validateCreateQueueForm_valid checked
  exact {
    name, queueType, suffix
    visibilityTimeout := (by decide : Within 0 43200 30)
    delay := (by decide : Within 0 900 0)
    maximumMessageSize := (by decide : Within 1024 1048576 1048576)
    messageRetentionPeriod := (by decide : Within 60 1209600 345600)
    receiveMessageWaitTime := (by decide : Within 0 20 0)
    kmsDataKeyReusePeriod := (by decide : Within 60 86400 300)
    deduplicationScope := List.mem_cons_self
    fifoThroughputLimit := List.mem_cons_self
    policy := ⟨Policy.default, parsePolicyText_default reads⟩ }

/-- **The invariant covers what tasks write.** -/
theorem coversWrites_valid (reads : ReadsEmptyObject library.json) :
    CoversWrites library (SqsCall.WritesValid library.json) where
  others call writesNone := by cases call <;> first | exact writesNone.elim | exact trivial
  created := newQueue_valid reads
  changed := parseQueueAttributeUpdate_valid reads
  formed := queueOfForm_valid reads

end Handlers

/-- **A form** creates its queue and looks it up. -/
theorem onlyCalls_createQueueFromForm {property : SqsCall → Prop} {now : Time}
    {form : CreateQueueForm}
    (lookups : ∀ name region accountId, property (.getQueue name region accountId))
    (creates : validateCreateQueueForm form = .ok () →
      property (.createQueue (queueOfForm now form))) :
    @OnlyCalls sqsStore _ _ property (createQueueFromForm now form) := by
  unfold createQueueFromForm
  cases checked : validateCreateQueueForm form with
  | error failure => exact onlyCalls_pure
  | ok _ =>
      refine (onlyCalls_lift (allCalls_perform.mpr (creates checked))).bind fun created => ?_
      match created with
      | .error (.conflict _) => exact onlyCalls_pure
      | .error (.notFound _) => exact onlyCalls_throw
      | .error (.storageFailure _) => exact onlyCalls_throw
      | .ok () =>
          refine (onlyCalls_orFail (allCalls_perform.mpr (lookups _ _ _))).bind fun found => ?_
          cases found with
          | none => exact onlyCalls_throw
          | some queue => exact onlyCalls_pure

section Programs

variable {library : SqsLibrary} {property : SqsCall → Prop}
  (covers : CoversWrites library property)

include covers

theorem CoversWrites.handle {request : ResolvedRequest} {generated : SqsGenerated}
    (action : SqsAction) :
    @OnlyCalls sqsStore _ _ property
      ((sqsAction library generated action).typed.adaptedHandle request) := by
  have lookups : ∀ call : SqsCall, call.IsLookup → property call := fun call isLookup =>
    covers.others call (writesNoQueue_of_isLookup isLookup)
  by_cases creates : action = .createQueue
  · subst creates
    refine onlyCalls_liftExcept_bind fun payload _ => ?_
    exact onlyCalls_handleCreateQueue lookups (fun _ _ => covers.others (.tagQueue _ _) trivial)
      fun values checked => covers.created checked
  by_cases sets : action = .setQueueAttributes
  · subst sets
    refine onlyCalls_liftExcept_bind fun payload _ => ?_
    refine (onlyLookups_loadQueueFromUrl.mono lookups).bind fun queue => ?_
    refine onlyCalls_liftExcept_bind fun update accepted => ?_
    exact onlyCalls_orFail (allCalls_perform.mpr (covers.changed accepted))
  · exact (mayCall_handle action).mono fun call mayCall =>
      covers.others call (writesNoQueue_of_mayCall mayCall creates sets)

theorem CoversWrites.form {now : Time} {form : CreateQueueForm} :
    @OnlyCalls sqsStore _ _ property (createQueueFromForm now form) :=
  onlyCalls_createQueueFromForm (fun _ _ _ => covers.others (.getQueue ..) trivial) covers.formed

/-- **Every task makes only calls that are covered.** -/
theorem CoversWrites.program (task : SqsTask) :
    @AllCalls sqsStore _ property (task.program library) := by
  have lookups : ∀ call : SqsCall, call.IsLookup → property call := fun call isLookup =>
    covers.others call (writesNoQueue_of_isLookup isLookup)
  cases task with
  | routed generated decision request action =>
      refine AllCalls.bind ?_ fun _ => trivial
      exact TypedAwsAction.allCalls_route _
        ((onlyLookups_adaptedResolveAuthorization action).mono lookups) (fun _ => trivial)
        ((onlyLookups_validate action).mono lookups) (covers.handle action)
  | createQueueForm now form => exact AllCalls.bind covers.form fun _ => trivial

end Programs

/-! ### Every state -/

/-- **Every queue satisfies the invariant, in every state that requests and forms
reach together**, whatever they contain and in whatever order their calls are
answered.  Authorization then reads the policy of the queue, and not the empty
one. -/
theorem queues_satisfy_invariant {ι : Type} [DecidableEq ι] {library : SqsLibrary}
    (reads : ReadsEmptyObject library.json) {tasks : ι → SqsTask}
    {start config : Config sqsStore Unit ι SqsDatabase}
    (begins : ∀ thread, start.threads thread = (tasks thread).program library)
    (valid : QueuesValid library.json start.shared)
    (reachable : Reachable SqsDatabase.serve (fun _ _ => True) start config) :
    ∀ queue ∈ config.shared.queues.rows, QueueInvariant library.json queue ∧
      parsePolicyText library.json queue.policy = .ok (queuePolicy library queue) := by
  have every : ∀ thread,
      (start.threads thread).AllCalls (SqsCall.WritesValid library.json) := by
    intro thread
    rw [begins]
    exact (coversWrites_valid reads).program (tasks thread)
  intro queue member
  have invariant := (callsKeep_queuesValid.reachable every valid reachable).1 queue member
  obtain ⟨policy, isPolicy⟩ := invariant.policy
  refine ⟨invariant, ?_⟩
  rw [queuePolicy, isPolicy]

/-! ### A form of the console -/

/-- The library, which reads the empty object. -/
def emptyObjectLibrary : SqsLibrary where
  md5 bytes := bytes
  decodeBase64 _ := .error "Invalid padding"
  json := {
    read := fun bytes =>
      if bytes = Text.utf8 "{}" then .ok (.object []) else .error "expected value"
    write := fun _ => "{}" }
  url := {
    parseAuthority := some
    encodePathChar := fun c => [c]
    parseOther := fun _ => none }

theorem emptyObjectLibrary_reads : ReadsEmptyObject emptyObjectLibrary.json where
  plain := rfl
  blanks := by
    intro text json _ isRead
    simp only [emptyObjectLibrary] at isRead
    split_ifs at isRead
    cases isRead
    rfl

/-- A form that creates a queue. -/
def ordersForm : CreateQueueForm where
  queueName := " orders "
  region := "us-east-1"
  accountId := "000000000000"
  queueType := "standard"

/-- A form that is sent to a server without queues. -/
def formStart : Config sqsStore Unit Unit SqsDatabase where
  shared := SqsDatabase.empty (fun _ => 0) fun draw => List.replicate draw 'h'
  threads := fun _ => (SqsTask.createQueueForm 0 ordersForm).program emptyObjectLibrary
  log := []

/-- The queue of the form satisfies the invariant. -/
theorem queues_satisfy_invariant_form :
    (formStart.play SqsDatabase.serve [(), ()]).shared.queues.rows.map (·.name) =
        [("orders" : Text)] ∧
      ∀ queue ∈ (formStart.play SqsDatabase.serve [(), ()]).shared.queues.rows,
        QueueInvariant emptyObjectLibrary.json queue ∧
          parsePolicyText emptyObjectLibrary.json queue.policy =
            .ok (queuePolicy emptyObjectLibrary queue) := by
  constructor
  · decide +kernel
  · have noQueues : QueuesValid emptyObjectLibrary.json formStart.shared := by
      intro queue member
      exact absurd member List.not_mem_nil
    exact @queues_satisfy_invariant Unit _ emptyObjectLibrary emptyObjectLibrary_reads
      (fun _ => SqsTask.createQueueForm 0 ordersForm) formStart _ (fun _ => rfl) noQueues
      (Reachable.play (fun _ _ _ => trivial) .start Config.passes_true)

end Hiraeth
