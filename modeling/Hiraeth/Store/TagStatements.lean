import Hiraeth.Lib.Faults
import Hiraeth.Lib.Refine
import Hiraeth.Sqs.QueueTags

/-!
# Tags of queues, statement by statement

The calls that tag and untag a queue are no transactions: each looks up the queue, and then
executes one statement for every key.  As long as the database serves every statement this is
no different from a call that does all at once, whatever program makes the call.  Where a
statement fails, the keys before it are written and the others are not.

## Main definitions

* `sqsStatements` — the calls of the store, and the statements behind those on tags
* `tagQueueStatements`, `untagQueueStatements` — the two calls
* `LeftHalfway` — what they leave when a statement fails

## Main results

* `run_refine_statements` — the statements implement the calls
* `failed_tagging_leaves_part` — requests, whatever statement fails
-/

namespace Hiraeth

open Interaction Program

/-! ### Statements -/

/-- The statements of the calls on tags. -/
inductive TagStatement where
  | countQueues (queueId : RowId)
  | upsertTag (queueId : RowId) (key value : Text)
  | deleteTag (queueId : RowId) (key : Text)
  deriving DecidableEq

@[reducible]
def TagStatement.Answer : TagStatement → Type
  | countQueues _ => StoreResult ℕ
  | upsertTag .. => StoreResult Unit
  | deleteTag .. => StoreResult Unit

/-- The answer of a database that fails. -/
def TagStatement.failed (error : StoreError) (request : TagStatement) : request.Answer := by
  cases request <;> exact .error error

abbrev tagStatements : Interface where
  Call := TagStatement
  Answer := TagStatement.Answer

/-- The calls of the store, and the statements behind those on tags. -/
abbrev sqsStatements : Interface :=
  sqsStore.sum tagStatements

/-- A program of calls and statements. -/
abbrev SqsStatementProgram := Program sqsStatements

/-- The program that executes one statement. -/
def tagStatement (request : TagStatement) : SqsStatementProgram request.Answer :=
  @Program.perform sqsStatements (.inr request)

/-- `ensure_queue_exists`. -/
def ensureQueueExists (queueId : RowId) : ExceptT StoreError SqsStatementProgram Unit := do
  let queueCount ← (tagStatement (.countQueues queueId)).orFail id
  if queueCount = 0 then throw SqsDatabase.queueNotFound else return ()

/-- `tag_queue`. -/
def tagQueueStatements (queueId : RowId) (tags : List (Text × Text)) :
    ExceptT StoreError SqsStatementProgram Unit := do
  ensureQueueExists queueId
  tags.forM fun tag => (tagStatement (.upsertTag queueId tag.1 tag.2)).orFail id

/-- `untag_queue`. -/
def untagQueueStatements (queueId : RowId) (tagKeys : List Text) :
    ExceptT StoreError SqsStatementProgram Unit := do
  ensureQueueExists queueId
  tagKeys.forM fun key => (tagStatement (.deleteTag queueId key)).orFail id

/-- The calls on tags are implemented by their statements. -/
def sqsImplementation : (request : SqsCall) → SqsStatementProgram request.Answer
  | .tagQueue queueId tags => (tagQueueStatements queueId tags).run
  | .untagQueue queueId tagKeys => (untagQueueStatements queueId tagKeys).run
  | request => @Program.perform sqsStatements (.inl request)

namespace SqsDatabase

/-- The table without the tag of a queue under a key. -/
def dropTag (queueId : RowId) (tags : List QueueTag) (key : Text) : List QueueTag :=
  tags.filter fun tag => !(tag.queueId = queueId && tag.key = key)

/-- What each statement does.  The foreign key of the table is enforced. -/
def serveTags : Serve tagStatements SqsDatabase
  | .countQueues queueId, database =>
      (.ok (database.queues.rows.countP (·.id = queueId)), database)
  | .upsertTag queueId key value, database =>
      if database.hasQueue queueId then
        (.ok (), { database with tags := putTag queueId database.tags (key, value) })
      else (.error foreignKeyViolation, database)
  | .deleteTag queueId key, database =>
      (.ok (), { database with tags := dropTag queueId database.tags key })

/-- Calls and statements work on the same tables. -/
def serveStatements : Serve sqsStatements SqsDatabase
  | .inl request, database => serve request database
  | .inr request, database => serveTags request database

end SqsDatabase

/-- The answer of a database that fails, to a call or to a statement. -/
def sqsFailure (error : StoreError) : (request : SqsCall ⊕ TagStatement) →
    sqsStatements.Answer request
  | .inl request => request.failed error
  | .inr request => request.failed error

/-- A database that fails where a plan says so. -/
def failingStatements (plan : ℕ → Option StoreError) : Serve sqsStatements (SqsDatabase × ℕ) :=
  SqsDatabase.serveStatements.failingAt plan sqsFailure

variable {database : SqsDatabase} {queueId : RowId} {plan : ℕ → Option StoreError} {made : ℕ}

theorem countP_eq_zero_iff :
    database.queues.rows.countP (·.id = queueId) = 0 ↔ database.hasQueue queueId = false := by
  unfold SqsDatabase.hasQueue
  rw [List.countP_eq_zero, List.any_eq_false]

/-! ### One statement -/

theorem run_tagStatement {request : TagStatement} :
    (tagStatement request).run (failingStatements plan) (database, made) =
      failingStatements plan (.inr request) (database, made) := rfl

theorem failingStatements_none {request : TagStatement} (fine : plan made = none) :
    failingStatements plan (.inr request) (database, made) =
      ((SqsDatabase.serveTags request database).1, (SqsDatabase.serveTags request database).2,
        made + 1) :=
  failingAt_none fine

theorem failingStatements_some {request : TagStatement} {fault : StoreError}
    (fails : plan made = some fault) :
    failingStatements plan (.inr request) (database, made) =
      (request.failed fault, database, made + 1) :=
  failingAt_some fails

/-- The lookup of the queue, which changes nothing. -/
theorem run_ensureQueueExists :
    ∃ outcome, (ensureQueueExists queueId).run.run (failingStatements plan) (database, made) =
        (outcome, database, made + 1) ∧
      (outcome = .ok () ↔ plan made = none ∧ database.hasQueue queueId = true) ∧
      (plan made = none → database.hasQueue queueId = false →
        outcome = .error SqsDatabase.queueNotFound) := by
  unfold ensureQueueExists
  rw [run_orFail_bind, run_tagStatement]
  cases served : plan made with
  | some fault =>
      rw [failingStatements_some served]
      exact ⟨.error fault, rfl, iff_of_false nofun nofun, nofun⟩
  | none =>
      rw [failingStatements_none served]
      cases found : database.hasQueue queueId with
      | true =>
          have counted : database.queues.rows.countP (·.id = queueId) ≠ 0 := fun none => by
            rw [countP_eq_zero_iff.mp none] at found
            cases found
          refine ⟨.ok (), ?_, iff_of_true rfl ⟨rfl, rfl⟩, nofun⟩
          show (ite (_ = 0) _ _ : ExceptT StoreError SqsStatementProgram Unit).run.run _ _ = _
          rw [if_neg counted]
          rfl
      | false =>
          refine ⟨.error SqsDatabase.queueNotFound, ?_, iff_of_false nofun nofun, fun _ _ => rfl⟩
          show (ite (_ = 0) _ _ : ExceptT StoreError SqsStatementProgram Unit).run.run _ _ = _
          rw [if_pos (countP_eq_zero_iff.mpr found)]
          rfl

/-! ### Statements for a list of keys -/

/-- **One statement for each item**, in the order of the items: those before the first failure
have their effect, and the others have none. -/
theorem run_statements {Item : Type} {statement : Item → SqsStatementProgram (StoreResult Unit)}
    {effect : SqsDatabase → Item → SqsDatabase} {ready : SqsDatabase → Prop}
    (served : ∀ item database made, plan made = none → ready database →
      (statement item).run (failingStatements plan) (database, made) =
          (.ok (), effect database item, made + 1) ∧ ready (effect database item))
    (refused : ∀ item database made, (plan made).isSome ∨ ¬ ready database →
      ∃ error, (statement item).run (failingStatements plan) (database, made) =
        (.error error, database, made + 1))
    (items : List Item) (database : SqsDatabase) (made : ℕ) :
    ∃ outcome count after,
      (items.forM fun item => (statement item).orFail id).run.run (failingStatements plan)
          (database, made) = (outcome, (items.take count).foldl effect database, after) ∧
      (outcome = .ok () → items.take count = items) ∧
      ((∀ number, plan number = none) → ready database → outcome = .ok ()) := by
  induction items generalizing database made with
  | nil => exact ⟨.ok (), 0, made, rfl, fun _ => rfl, fun _ _ => rfl⟩
  | cons item items inductionHypothesis =>
      have begins : ((item :: items).forM fun item => (statement item).orFail id).run.run
          (failingStatements plan) (database, made) =
          ((statement item).orFail id >>= fun _ =>
            items.forM fun item => (statement item).orFail id).run.run
            (failingStatements plan) (database, made) := rfl
      rw [begins, run_orFail_bind]
      by_cases fine : plan made = none ∧ ready database
      · obtain ⟨ran, stillReady⟩ := served item database made fine.1 fine.2
        obtain ⟨outcome, count, after, later, whole, always⟩ :=
          inductionHypothesis (effect database item) (made + 1)
        rw [ran]
        refine ⟨outcome, count + 1, after, later, fun ok => ?_, fun none _ =>
          always none stillReady⟩
        rw [List.take_succ_cons, whole ok]
      · have fails : (plan made).isSome ∨ ¬ ready database := by
          rw [not_and_or] at fine
          exact fine.imp_left fun some => Option.isSome_iff_ne_none.mpr some
        obtain ⟨error, ran⟩ := refused item database made fails
        rw [ran]
        exact ⟨.error error, 0, made + 1, rfl, nofun, fun none isReady =>
          absurd ⟨none made, isReady⟩ fine⟩

/-- The database with these tags. -/
def SqsDatabase.withTags (database : SqsDatabase) (tags : List QueueTag) : SqsDatabase :=
  { database with tags := tags }

theorem foldl_withTags {Item : Type} {change : List QueueTag → Item → List QueueTag}
    (items : List Item) (database : SqsDatabase) :
    items.foldl (fun database item => database.withTags (change database.tags item)) database =
      database.withTags (items.foldl change database.tags) := by
  induction items generalizing database with
  | nil => rfl
  | cons item items inductionHypothesis => exact inductionHypothesis _

/-- The lookup of the queue, and the statements for the keys. -/
theorem run_ensured {outcome : Except StoreError Unit} {later : SqsDatabase} {after : ℕ}
    {rest : ExceptT StoreError SqsStatementProgram Unit} (found : database.hasQueue queueId = true)
    (fine : plan made = none)
    (ran : rest.run.run (failingStatements plan) (database, made + 1) = (outcome, later, after)) :
    (ensureQueueExists queueId >>= fun _ => rest).run.run (failingStatements plan)
      (database, made) = (outcome, later, after) := by
  obtain ⟨ensured, asked, exactly, -⟩ := @run_ensureQueueExists database queueId plan made
  obtain rfl := exactly.mpr ⟨fine, found⟩
  rw [run_except_bind, asked]
  exact ran

/-- The lookup of the queue, when it ends the call. -/
theorem run_unensured {rest : ExceptT StoreError SqsStatementProgram Unit}
    (refused : ¬ (plan made = none ∧ database.hasQueue queueId = true)) :
    ∃ error, (ensureQueueExists queueId >>= fun _ => rest).run.run (failingStatements plan)
        (database, made) = (.error error, database, made + 1) ∧
      (plan made = none → error = SqsDatabase.queueNotFound) := by
  obtain ⟨ensured, asked, exactly, missing⟩ := @run_ensureQueueExists database queueId plan made
  cases ensured with
  | ok _ => exact absurd (exactly.mp rfl) refused
  | error error =>
      refine ⟨error, ?_, fun fine => ?_⟩
      · rw [run_except_bind, asked]
      · have absent : database.hasQueue queueId = false :=
          Bool.eq_false_iff.mpr fun found => refused ⟨fine, found⟩
        exact Except.error.inj (missing fine absent)

/-- **What tagging does, whatever statement fails.** -/
theorem run_tagQueueStatements (queueId : RowId) (tags : List (Text × Text))
    (database : SqsDatabase) (made : ℕ) :
    ∃ outcome count after,
      (tagQueueStatements queueId tags).run.run (failingStatements plan) (database, made) =
        (outcome, database.withTags
          (queueTagColumns.putAll queueId database.tags (tags.take count)), after) ∧
      (database.hasQueue queueId = true ∨ count = 0) ∧
      (outcome = .ok () → tags.take count = tags) ∧
      ((∀ number, plan number = none) → (outcome, database.withTags
          (queueTagColumns.putAll queueId database.tags (tags.take count))) =
        database.tagQueue queueId tags) := by
  unfold tagQueueStatements SqsDatabase.tagQueue
  by_cases fine : plan made = none ∧ database.hasQueue queueId = true
  · obtain ⟨outcome, count, after, ran, whole, always⟩ := @run_statements plan _
      (fun tag : Text × Text => tagStatement (.upsertTag queueId tag.1 tag.2))
      (fun database tag => database.withTags (SqsDatabase.putTag queueId database.tags tag))
      (fun database => database.hasQueue queueId = true)
      (fun tag database made served isQueue => by
        rw [run_tagStatement, failingStatements_none served]
        refine ⟨?_, isQueue⟩
        show ((ite _ _ _ : StoreResult Unit × SqsDatabase).1, (ite _ _ _ : _ × _).2, _) = _
        rw [if_pos isQueue]
        rfl)
      (fun tag database made refused => by
        rw [run_tagStatement]
        cases served : plan made with
        | some fault => exact ⟨fault, failingStatements_some served⟩
        | none =>
            have noQueue : ¬ database.hasQueue queueId = true :=
              refused.resolve_left (by rw [served]; nofun)
            refine ⟨foreignKeyViolation, ?_⟩
            rw [failingStatements_none served]
            show ((ite _ _ _ : StoreResult Unit × SqsDatabase).1, (ite _ _ _ : _ × _).2, _) = _
            rw [if_neg noQueue])
      tags database (made + 1)
    rw [foldl_withTags, foldl_putTag] at ran
    refine ⟨outcome, count, after, run_ensured fine.2 fine.1 ran, .inl fine.2, whole,
      fun none => ?_⟩
    have ok := always none fine.2
    rw [if_pos fine.2, ok, whole ok, ← foldl_putTag]
    rfl
  · obtain ⟨error, ran, missing⟩ := run_unensured fine
    refine ⟨.error error, 0, made + 1, ran, .inr rfl, nofun, fun none => ?_⟩
    rw [if_neg fun found => fine ⟨none made, found⟩, missing (none made)]
    rfl

/-- Deleting key by key. -/
theorem foldl_dropTag (tagKeys : List Text) (tags : List QueueTag) :
    tagKeys.foldl (SqsDatabase.dropTag queueId) tags =
      tags.filter fun tag => !(tag.queueId = queueId && tagKeys.contains tag.key) := by
  induction tagKeys generalizing tags with
  | nil => simp
  | cons key tagKeys inductionHypothesis =>
      rw [List.foldl_cons, inductionHypothesis]
      unfold SqsDatabase.dropTag
      rw [List.filter_filter]
      congr 1
      funext tag
      rw [List.contains_cons]
      by_cases own : tag.queueId = queueId <;> by_cases here : tag.key = key <;> simp [own, here]

/-- **What untagging does, whatever statement fails.** -/
theorem run_untagQueueStatements (queueId : RowId) (tagKeys : List Text)
    (database : SqsDatabase) (made : ℕ) :
    ∃ outcome count after,
      (untagQueueStatements queueId tagKeys).run.run (failingStatements plan) (database, made) =
        (outcome, database.withTags
          ((tagKeys.take count).foldl (SqsDatabase.dropTag queueId) database.tags), after) ∧
      (database.hasQueue queueId = true ∨ count = 0) ∧
      (outcome = .ok () → tagKeys.take count = tagKeys) ∧
      ((∀ number, plan number = none) → (outcome, database.withTags
          ((tagKeys.take count).foldl (SqsDatabase.dropTag queueId) database.tags)) =
        database.untagQueue queueId tagKeys) := by
  unfold untagQueueStatements SqsDatabase.untagQueue
  by_cases fine : plan made = none ∧ database.hasQueue queueId = true
  · obtain ⟨outcome, count, after, ran, whole, always⟩ := @run_statements plan _
      (fun key : Text => tagStatement (.deleteTag queueId key))
      (fun database key => database.withTags (SqsDatabase.dropTag queueId database.tags key))
      (fun _ => True)
      (fun key database made served _ => by
        rw [run_tagStatement, failingStatements_none served]
        exact ⟨rfl, trivial⟩)
      (fun key database made refused => by
        obtain ⟨fault, fails⟩ :=
          Option.isSome_iff_exists.mp (refused.resolve_right fun no => no trivial)
        exact ⟨fault, run_tagStatement.trans (failingStatements_some fails)⟩)
      tagKeys database (made + 1)
    rw [foldl_withTags] at ran
    refine ⟨outcome, count, after, run_ensured fine.2 fine.1 ran, .inl fine.2, whole,
      fun none => ?_⟩
    have ok := always none trivial
    rw [if_pos fine.2, ok, whole ok, foldl_dropTag]
    rfl
  · obtain ⟨error, ran, missing⟩ := run_unensured fine
    refine ⟨.error error, 0, made + 1, ran, .inr rfl, nofun, fun none => ?_⟩
    rw [if_neg fun found => fine ⟨none made, found⟩, missing (none made)]
    rfl

/-! ### Implementation -/

/-- **The statements implement the calls**: as long as no statement fails, no program sees a
difference. -/
theorem run_refine_statements {α : Type} (program : SqsProgram α) (database : SqsDatabase) :
    (program.refine sqsImplementation).run SqsDatabase.serveStatements database =
      program.run SqsDatabase.serve database := by
  refine run_refine (fun request database => ?_) program database
  -- a database without a plan for failures serves as one with an empty plan
  have unfailing {answer : Type} (statements : SqsStatementProgram answer) :
      ∃ after, statements.run (failingStatements fun _ => none) (database, 0) =
        ((statements.run SqsDatabase.serveStatements database).1,
          (statements.run SqsDatabase.serveStatements database).2, after) := by
    obtain ⟨after, -, ran⟩ := @run_failingAt_of_none sqsStatements StoreError SqsDatabase answer
      (fun _ => none) sqsFailure SqsDatabase.serveStatements database 0 (fun _ _ => rfl) statements
    exact ⟨after, ran⟩
  cases request with
  | tagQueue queueId tags =>
      obtain ⟨outcome, count, _, ran, -, -, same⟩ :=
        @run_tagQueueStatements (fun _ => none) queueId tags database 0
      obtain ⟨after, plain⟩ := unfailing (tagQueueStatements queueId tags).run
      have both := plain.symm.trans ran
      refine Eq.trans (b := (outcome, _)) ?_ (same fun _ => rfl)
      exact Prod.ext (Prod.mk.inj both).1 (Prod.mk.inj (Prod.mk.inj both).2).1
  | untagQueue queueId tagKeys =>
      obtain ⟨outcome, count, _, ran, -, -, same⟩ :=
        @run_untagQueueStatements (fun _ => none) queueId tagKeys database 0
      obtain ⟨after, plain⟩ := unfailing (untagQueueStatements queueId tagKeys).run
      have both := plain.symm.trans ran
      refine Eq.trans (b := (outcome, _)) ?_ (same fun _ => rfl)
      exact Prod.ext (Prod.mk.inj both).1 (Prod.mk.inj (Prod.mk.inj both).2).1
  | createQueue | deleteQueue | getQueue | getMessageCount | getVisibleMessageCount
  | getMessagesDelayedCount | listQueues | purgeQueue | setQueueAttributes | listQueueTags
  | sendMessage | receiveMessages | deleteMessage | setMessageVisibleAt => rfl

/-! ### What a failure leaves -/

/-- The tags of a queue, as `ListQueueTags` answers them. -/
def tagMap (database : SqsDatabase) (queueId : RowId) : AttributeMap :=
  SortedMap.ofList (database.tagsOf queueId)

/-- **A call on the tags of a queue was left halfway.**  Every key has what it had or what was
asked for, nothing else has changed, and the same call has the effect that it would have had. -/
structure LeftHalfway (database final : SqsDatabase) (queueId : RowId) (call : SqsCall)
    (asked : Text → Option Text → Prop) : Prop where
  rest : final = database.withTags final.tags
  others : ∀ other, other ≠ queueId → tagMap final other = tagMap database other
  each : ∀ key, (tagMap final queueId).get? key = (tagMap database queueId).get? key ∨
    asked key ((tagMap final queueId).get? key)
  again : tagMap (SqsDatabase.serve call final).2 queueId =
    tagMap (SqsDatabase.serve call database).2 queueId

theorem leftHalfway_refl {call : SqsCall} {asked : Text → Option Text → Prop} :
    LeftHalfway database database queueId call asked :=
  ⟨rfl, fun _ _ => rfl, fun _ => .inl rfl, rfl⟩

theorem get?_tagMap (tidy : queueTagColumns.Tidy database.tags) {key : Text} :
    (tagMap database queueId).get? key = queueTagColumns.lookup database.tags queueId key := by
  unfold tagMap
  rw [ofList_tagsOf tidy, TagColumns.get?_ofList_entriesOf tidy]

/-- The first upserts of a call. -/
theorem leftHalfway_tagQueue (tidy : queueTagColumns.Tidy database.tags)
    (found : database.hasQueue queueId = true) (tags : List (Text × Text)) (count : ℕ) :
    LeftHalfway database
      (database.withTags (queueTagColumns.putAll queueId database.tags (tags.take count)))
      queueId (.tagQueue queueId tags)
      fun key value => ∃ content, (key, content) ∈ tags ∧ value = some content := by
  have laterTidy : queueTagColumns.Tidy
      (database.withTags (queueTagColumns.putAll queueId database.tags (tags.take count))).tags :=
    tidy.putAll
  have tagged (between : SqsDatabase) (isQueue : between.hasQueue queueId = true) :
      (SqsDatabase.serve (.tagQueue queueId tags) between).2 =
        between.withTags (queueTagColumns.putAll queueId between.tags tags) := by
    show (between.tagQueue queueId tags).2 = _
    unfold SqsDatabase.tagQueue
    rw [if_pos isQueue, ← foldl_putTag]
    rfl
  refine ⟨rfl, fun other different => ?_, fun key => ?_, ?_⟩
  · refine SortedMap.ext_get? fun key => ?_
    rw [get?_tagMap laterTidy, get?_tagMap tidy]
    exact TagColumns.lookup_putAll.trans (if_neg different)
  · rw [get?_tagMap laterTidy, get?_tagMap tidy]
    exact TagColumns.lookup_take_putAll
  · refine SortedMap.ext_get? fun key => ?_
    have after := tagged (database.withTags (queueTagColumns.putAll queueId database.tags
      (tags.take count))) found
    rw [after, tagged database found, get?_tagMap laterTidy.putAll, get?_tagMap tidy.putAll]
    exact TagColumns.lookup_retry

/-- What is found after keys were dropped. -/
theorem get?_dropTags (tidy : queueTagColumns.Tidy database.tags) {number : RowId}
    {tagKeys : List Text} {key : Text} :
    (tagMap (database.withTags (tagKeys.foldl (SqsDatabase.dropTag queueId) database.tags))
        number).get? key =
      if number = queueId ∧ key ∈ tagKeys then none else (tagMap database number).get? key := by
  have laterTidy : queueTagColumns.Tidy (database.withTags
      (tagKeys.foldl (SqsDatabase.dropTag queueId) database.tags)).tags := by
    rw [foldl_dropTag]
    exact tidy.filter _
  rw [get?_tagMap laterTidy, get?_tagMap tidy, foldl_dropTag]
  exact TagColumns.lookup_filter

/-- The first deletions of a call. -/
theorem leftHalfway_untagQueue (tidy : queueTagColumns.Tidy database.tags)
    (found : database.hasQueue queueId = true) (tagKeys : List Text) (count : ℕ) :
    LeftHalfway database
      (database.withTags ((tagKeys.take count).foldl (SqsDatabase.dropTag queueId) database.tags))
      queueId (.untagQueue queueId tagKeys) fun key value => key ∈ tagKeys ∧ value = none := by
  have laterTidy : queueTagColumns.Tidy (database.withTags
      ((tagKeys.take count).foldl (SqsDatabase.dropTag queueId) database.tags)).tags := by
    rw [foldl_dropTag]
    exact tidy.filter _
  have untagged (between : SqsDatabase) (isQueue : between.hasQueue queueId = true) :
      (SqsDatabase.serve (.untagQueue queueId tagKeys) between).2 =
        between.withTags (tagKeys.foldl (SqsDatabase.dropTag queueId) between.tags) := by
    show (between.untagQueue queueId tagKeys).2 = _
    unfold SqsDatabase.untagQueue
    rw [if_pos isQueue, foldl_dropTag]
    rfl
  refine ⟨rfl, fun other different => ?_, fun key => ?_, ?_⟩
  · refine SortedMap.ext_get? fun key => ?_
    rw [get?_dropTags tidy, if_neg fun own => different own.1]
  · rw [get?_dropTags tidy]
    split_ifs with dropped
    · exact .inr ⟨List.mem_of_mem_take dropped.2, rfl⟩
    · exact .inl rfl
  · refine SortedMap.ext_get? fun key => ?_
    have after := untagged (database.withTags ((tagKeys.take count).foldl
      (SqsDatabase.dropTag queueId) database.tags)) found
    rw [after, untagged database found, get?_dropTags laterTidy, get?_dropTags tidy,
      get?_dropTags tidy]
    split_ifs with all some <;> first | rfl | exact absurd ⟨some.1, List.mem_of_mem_take some.2⟩ all

/-! ### Requests -/

/-- Calls that read. -/
def SqsCall.ReadsTags : SqsCall → Prop
  | .getQueue .. | .listQueueTags _ => True
  | _ => False

/-- **A program that only reads leaves the database alone**, whatever call fails. -/
theorem run_refine_reads {α : Type} {program : SqsProgram α}
    (reads : @AllCalls sqsStore _ SqsCall.ReadsTags program) :
    ((program.refine sqsImplementation).run (failingStatements plan) (database, made)).2.1 =
      database := by
  induction program generalizing made with
  | done result => rfl
  | call request next inductionHypothesis =>
      obtain ⟨isRead, later⟩ := reads
      have single : (call request next).refine sqsImplementation = @Program.call sqsStatements _
          (.inl request) fun answer => (next answer).refine sqsImplementation := by
        cases request <;> first | exact isRead.elim | rfl
      have same : (SqsDatabase.serve request database).2 = database := by
        cases request <;> first | exact isRead.elim | rfl
      rw [single, run_call]
      unfold failingStatements
      cases served : plan made with
      | some fault =>
          rw [failingAt_some served]
          exact inductionHypothesis _ (later _)
      | none =>
          rw [failingAt_none served]
          have unchanged : (SqsDatabase.serveStatements (.inl request) database).2 = database :=
            same
          rw [unchanged]
          exact inductionHypothesis _ (later _)

/-- **A request that reads, and then makes one call that writes.** -/
theorem run_refine_read_write {reads : ExceptT SqsError SqsProgram SqsQueue}
    (onlyReads : @OnlyCalls sqsStore _ _ SqsCall.ReadsTags reads)
    (write : SqsQueue → SqsProgram (StoreResult Unit)) :
    let ran := ((reads >>= fun queue => (write queue).orFail SqsError.ofStoreError).run.refine
      sqsImplementation).run (failingStatements plan) (database, made)
    (∃ error, ran.1 = .error error ∧ ran.2.1 = database) ∨
    ∃ queue before outcome after,
      ((write queue).refine sqsImplementation).run (failingStatements plan) (database, before) =
        (outcome, after) ∧ ran = (outcome.mapError SqsError.ofStoreError, after) := by
  have unchanged := @run_refine_reads database plan made _ reads.run onlyReads
  dsimp only
  rw [ExceptT.run_bind, refine_bind, run_bind]
  generalize (reads.run.refine sqsImplementation).run (failingStatements plan)
    (database, made) = read at unchanged ⊢
  obtain ⟨outcome, between, after⟩ := read
  obtain rfl : between = database := unchanged
  cases outcome with
  | error error => exact .inl ⟨error, rfl, rfl⟩
  | ok queue =>
      refine .inr ⟨queue, after, _, _, rfl, ?_⟩
      show (((write queue) >>= fun outcome =>
        done (outcome.mapError SqsError.ofStoreError)).refine sqsImplementation).run _ _ = _
      rw [refine_bind, run_bind]
      rfl

/-- **What such a request leaves**, when its call writes the tags of the queue that was found. -/
theorem leftHalfway_read_write {reads : ExceptT SqsError SqsProgram SqsQueue}
    (onlyReads : @OnlyCalls sqsStore _ _ SqsCall.ReadsTags reads)
    {write : SqsQueue → SqsProgram (StoreResult Unit)}
    (statements : RowId → ExceptT StoreError SqsStatementProgram Unit)
    (implemented : ∀ queue, (write queue).refine sqsImplementation = (statements queue.id).run)
    {call : RowId → SqsCall} {asked : Text → Option Text → Prop} {whole : RowId → List QueueTag}
    (writes : ∀ queueId before, ∃ outcome final after,
      (statements queueId).run.run (failingStatements plan) (database, before) =
        (outcome, final, after) ∧
      LeftHalfway database final queueId (call queueId) asked ∧
        (outcome = .ok () → final = database.withTags (whole queueId))) :
    let ran := ((reads >>= fun queue => (write queue).orFail SqsError.ofStoreError).run.refine
      sqsImplementation).run (failingStatements plan) (database, made)
    ∃ queueId, LeftHalfway database ran.2.1 queueId (call queueId) asked ∧
      (ran.1 = .ok () → ran.2.1 = database.withTags (whole queueId)) := by
  intro ran
  rcases run_refine_read_write onlyReads write with
    ⟨error, failed, same⟩ | ⟨queue, before, outcome, after, wrote, ended⟩
  · refine ⟨0, ?_, fun ok => absurd (failed.symm.trans ok) nofun⟩
    rw [show ran.2.1 = database from same]
    exact leftHalfway_refl
  · obtain ⟨answer, final, last, executed, halfway, done⟩ := writes queue.id before
    rw [implemented] at wrote
    obtain ⟨rfl, rfl⟩ := Prod.mk.inj (wrote.symm.trans executed)
    have left : ran.2.1 = final := congrArg (fun result => result.2.1) ended
    refine ⟨queue.id, left ▸ halfway, fun ok => left.trans (done ?_)⟩
    exact mapError_eq_ok.mp ((congrArg Prod.fst ended).symm.trans ok)

variable {library : SqsLibrary} {request : ResolvedRequest}

/-- The queue that is tagged, once all checks have passed. -/
def taggableQueue (library : SqsLibrary) (request : ResolvedRequest) (payload : TagQueueRequest) :
    ExceptT SqsError SqsProgram SqsQueue := do
  liftExcept (validateTags payload.tags false)
  let queue ← loadQueueFromUrl library request payload.queueUrl
  let storedTags ← (sqsCall (.listQueueTags queue.id)).orFail SqsError.ofStoreError
  liftExcept (validateTags (SortedMap.ofList (storedTags ++ payload.tags.entries)) true)
  return queue

/-- The queue that is untagged, once all checks have passed. -/
def untaggableQueue (library : SqsLibrary) (request : ResolvedRequest)
    (payload : UntagQueueRequest) : ExceptT SqsError SqsProgram SqsQueue := do
  liftExcept (validateTagKeys payload.tagKeys false)
  loadQueueFromUrl library request payload.queueUrl

theorem handleTagQueue_eq {payload : TagQueueRequest} :
    (tagQueueAction library).handle request payload = (taggableQueue library request payload >>=
      fun queue => (sqsCall (.tagQueue queue.id payload.tags.entries)).orFail
        SqsError.ofStoreError) := by
  simp only [taggableQueue, LawfulMonad.bind_assoc, LawfulMonad.pure_bind]
  rfl

theorem handleUntagQueue_eq {payload : UntagQueueRequest} :
    (untagQueueAction library).handle request payload =
      (untaggableQueue library request payload >>= fun queue =>
        (sqsCall (.untagQueue queue.id payload.tagKeys)).orFail SqsError.ofStoreError) := by
  simp only [untaggableQueue, LawfulMonad.bind_assoc]
  rfl

theorem readsTags_of_isLookup (call : SqsCall) (isLookup : call.IsLookup) : call.ReadsTags := by
  cases call <;> first | exact isLookup.elim | exact trivial

theorem onlyReads_taggableQueue {payload : TagQueueRequest} :
    @OnlyCalls sqsStore _ _ SqsCall.ReadsTags (taggableQueue library request payload) :=
  onlyCalls_liftExcept_bind fun _ _ =>
    (onlyLookups_loadQueueFromUrl.mono readsTags_of_isLookup).bind fun _ =>
      (onlyCalls_orFail (allCalls_perform.mpr trivial)).bind fun _ =>
        onlyCalls_liftExcept_bind fun _ _ => onlyCalls_pure

theorem onlyReads_untaggableQueue {payload : UntagQueueRequest} :
    @OnlyCalls sqsStore _ _ SqsCall.ReadsTags (untaggableQueue library request payload) :=
  onlyCalls_liftExcept_bind fun _ _ => onlyLookups_loadQueueFromUrl.mono readsTags_of_isLookup

/-- **Tagging and untagging, whatever fails.**  A request whose calls and statements fail where
a plan says so leaves the tags of one queue halfway at most, and nothing else; if it is answered
with success, it has done everything.  Where nothing fails, no program can tell the statements
from calls that do all at once. -/
theorem failed_tagging_leaves_part (tidy : queueTagColumns.Tidy database.tags)
    (plan : ℕ → Option StoreError) :
    (∀ payload : TagQueueRequest,
      let ran := (((tagQueueAction library).handle request payload).run.refine
        sqsImplementation).run (failingStatements plan) (database, 0)
      ∃ queueId, LeftHalfway database ran.2.1 queueId (.tagQueue queueId payload.tags.entries)
          (fun key value => ∃ content, (key, content) ∈ payload.tags.entries ∧
            value = some content) ∧
        (ran.1 = .ok () → ran.2.1 = database.withTags
          (queueTagColumns.putAll queueId database.tags payload.tags.entries))) ∧
    (∀ payload : UntagQueueRequest,
      let ran := (((untagQueueAction library).handle request payload).run.refine
        sqsImplementation).run (failingStatements plan) (database, 0)
      ∃ queueId, LeftHalfway database ran.2.1 queueId (.untagQueue queueId payload.tagKeys)
          (fun key value => key ∈ payload.tagKeys ∧ value = none) ∧
        (ran.1 = .ok () → ran.2.1 = database.withTags
          (payload.tagKeys.foldl (SqsDatabase.dropTag queueId) database.tags))) ∧
    ∀ (program : SqsProgram Unit) (database : SqsDatabase),
      (program.refine sqsImplementation).run SqsDatabase.serveStatements database =
        program.run SqsDatabase.serve database := by
  refine ⟨fun payload => ?_, fun payload => ?_, run_refine_statements⟩
  · rw [handleTagQueue_eq]
    refine leftHalfway_read_write onlyReads_taggableQueue
      (fun queueId => tagQueueStatements queueId payload.tags.entries)
      (fun _ => refine_perform _) fun queueId before => ?_
    obtain ⟨outcome, count, after, executed, found, whole, -⟩ :=
      @run_tagQueueStatements plan queueId payload.tags.entries database before
    refine ⟨outcome, _, after, executed, ?_, fun ok => by rw [whole ok]⟩
    rcases found with isQueue | rfl
    · exact leftHalfway_tagQueue tidy isQueue payload.tags.entries count
    · exact leftHalfway_refl
  · rw [handleUntagQueue_eq]
    refine leftHalfway_read_write onlyReads_untaggableQueue
      (fun queueId => untagQueueStatements queueId payload.tagKeys)
      (fun _ => refine_perform _) fun queueId before => ?_
    obtain ⟨outcome, count, after, executed, found, whole, -⟩ :=
      @run_untagQueueStatements plan queueId payload.tagKeys database before
    refine ⟨outcome, _, after, executed, ?_, fun ok => by rw [whole ok]⟩
    rcases found with isQueue | rfl
    · exact leftHalfway_untagQueue tidy isQueue payload.tagKeys count
    · exact leftHalfway_refl

/-! ### A disk that fills up -/

/-- Two tags for a queue. -/
def twoTags : TagQueueRequest where
  queueUrl := "http://localhost:4566/000000000000/orders"
  tags := SortedMap.ofList [("a", "x"), ("b", "y")]

/-- The request that tags the queue, when the second tag cannot be written: the calls before it
look up the queue, list its tags, look it up again and write the first tag. -/
def halfTagged : Except SqsError Unit × SqsDatabase × ℕ :=
  (((tagQueueAction sampleLibrary).handle (userRequest 0 []) twoTags).run.refine
    sqsImplementation).run
      (failingStatements fun number => if number = 4 then some (.storageFailure "full") else none)
      (ordersStore, 0)

theorem failed_tagging_leaves_part_half :
    halfTagged.1 ≠ .ok () ∧ halfTagged.2.1.tagsOf 1 = [(("a" : Text), ("x" : Text))] ∧
      ∃ queueId, LeftHalfway ordersStore halfTagged.2.1 queueId
        (.tagQueue queueId twoTags.tags.entries)
        fun key value => ∃ content, (key, content) ∈ twoTags.tags.entries ∧
          value = some content := by
  have tidy : queueTagColumns.Tidy ordersStore.tags := List.nodup_nil
  obtain ⟨queueId, halfway, -⟩ := (@failed_tagging_leaves_part ordersStore sampleLibrary
    (userRequest 0 []) tidy fun number =>
      if number = 4 then some (.storageFailure "full") else none).1 twoTags
  exact ⟨by decide +kernel, by decide +kernel, queueId, halfway⟩

end Hiraeth
