import Hiraeth.Lib.Calls
import Hiraeth.Store.SqliteSns

/-!
# The SNS store, call by call

What a call of the SNS store does when its statements run one after the other and nothing
comes between them.

## Main definitions

* `SqliteSns.serve` — the store, whose steps are whole calls
* `SnsDatabase.topicOfArn` — the topic that an ARN names

## Main results

* `SqliteSns.topics_serve` — what a call does to the table of topics
* `SqliteSns.serve_setTopicAttributes`, `SqliteSns.serve_setSubscriptionAttributes` — an
  update changes the row that it found
-/

namespace Hiraeth

open Interaction Program

/-- The store, whose steps are whole calls. -/
def SqliteSns.serve : Serve snsStore SnsDatabase := fun call database =>
  (SqliteSns.perform call).run SnsDatabase.serve database

@[simp]
theorem run_snsCall {S : Type} {serve : Serve snsStore S} (call : SnsCall) (state : S) :
    (snsCall call).run serve state = serve call state := rfl

@[simp]
theorem run_snsStatement {S : Type} {serve : Serve snsStatements S} (statement : SnsStatement)
    (state : S) : (snsStatement statement).run serve state = serve statement state := rfl

namespace SnsDatabase

variable {database : SnsDatabase}

/-- The topic that an ARN names.  Only its last three parts are read. -/
def topicOfArn (database : SnsDatabase) (topicArn : Text) : Option SnsTopic :=
  match topicArn.splitOn ':' with
  | [_, _, _, region, accountId, name] => database.selectTopic name region accountId
  | _ => none

/-- The topics that an ARN does not name. -/
def topicsWithout (database : SnsDatabase) (topicArn : Text) : SequenceTable SnsTopic SnsTopic.id :=
  match topicArn.splitOn ':' with
  | [_, _, _, region, accountId, name] =>
      database.topics.filter fun topic => !isTopic name region accountId topic
  | _ => database.topics

theorem isTopic_iff {name region accountId : Text} {topic : SnsTopic} :
    isTopic name region accountId topic ↔
      topic.name = name ∧ topic.region = region ∧ topic.accountId = accountId := by
  simp [isTopic, and_assoc]

/-- What is found is stored, and has the parts that were looked for. -/
theorem selectTopic_eq_some {name region accountId : Text} {topic : SnsTopic}
    (found : database.selectTopic name region accountId = some topic) :
    topic ∈ database.topics.rows ∧
      topic.name = name ∧ topic.region = region ∧ topic.accountId = accountId :=
  ⟨List.mem_of_find?_eq_some found, isTopic_iff.mp (List.find?_some found)⟩

/-- The topic that an ARN names is stored. -/
theorem mem_of_topicOfArn {topicArn : Text} {topic : SnsTopic}
    (found : database.topicOfArn topicArn = some topic) : topic ∈ database.topics.rows := by
  unfold topicOfArn at found
  split at found
  · exact (selectTopic_eq_some found).1
  · cases found

/-- The parts of an ARN, none of which has a colon. -/
theorem splitOn_topicArn {region accountId name : Text} (plainRegion : ':' ∉ region)
    (plainAccount : ':' ∉ accountId) (plainName : ':' ∉ name) :
    (topicArn region accountId name).splitOn ':' =
      [("arn" : Text), ("aws" : Text), ("sns" : Text), region, accountId, name] := by
  have cut {piece : Text} (plain : ':' ∉ piece) (rest : Text) :
      (piece ++ ':' :: rest).splitOn ':' = piece :: rest.splitOn ':' := by
    rw [List.splitOn_append_cons_self, List.splitOn_eq_singleton plain, List.singleton_append]
  have lead : ("arn:aws:sns:" : Text) = ("arn" : Text) ++ ':' :: (("aws" : Text) ++
      ':' :: (("sns" : Text) ++ [':'])) := by
    decide +kernel
  have plain : ':' ∉ ("arn" : Text) ∧ ':' ∉ ("aws" : Text) ∧ ':' ∉ ("sns" : Text) := by
    decide +kernel
  unfold topicArn
  rw [lead]
  simp only [List.append_assoc, List.cons_append, List.nil_append]
  rw [cut plain.1, cut plain.2.1, cut plain.2.2, cut plainRegion, cut plainAccount,
    List.splitOn_eq_singleton plainName]

/-- An ARN with no colon in its parts names the topic with these parts. -/
theorem topicOfArn_topicArn {region accountId name : Text} (plainRegion : ':' ∉ region)
    (plainAccount : ':' ∉ accountId) (plainName : ':' ∉ name) :
    database.topicOfArn (topicArn region accountId name) =
      database.selectTopic name region accountId := by
  unfold topicOfArn
  rw [splitOn_topicArn plainRegion plainAccount plainName]

end SnsDatabase

/-! ### Calls -/

namespace SqliteSns

variable {database : SnsDatabase}

theorem run_getTopic (topicArn : Text) :
    (getTopic topicArn).run SnsDatabase.serve database =
      (.ok (database.topicOfArn topicArn), database) := by
  unfold getTopic SnsDatabase.topicOfArn
  generalize topicArn.splitOn ':' = parts
  rcases parts with _ | ⟨_, _ | ⟨_, _ | ⟨_, _ | ⟨_, _ | ⟨_, _ | ⟨_, _ | _⟩⟩⟩⟩⟩⟩ <;> rfl

/-- A statement in front of others. -/
theorem run_execute_bind {α β : Type} {statement : SnsSqlProgram (StoreResult α)}
    {rest : α → ExceptT StoreError SnsSqlProgram β} :
    (execute statement >>= rest).run.run SnsDatabase.serve database =
      match statement.run SnsDatabase.serve database with
      | (.ok value, between) => (rest value).run.run SnsDatabase.serve between
      | (.error failure, between) => (.error failure, between) := by
  unfold execute
  rw [run_except_bind, ExceptT.run_mk]
  rcases statement.run SnsDatabase.serve database with ⟨outcome, between⟩
  cases outcome <;> rfl

theorem run_requireTopic (topicArn : Text) :
    (requireTopic topicArn).run.run SnsDatabase.serve database =
      match database.topicOfArn topicArn with
      | some topic => (.ok topic, database)
      | none => (.error topicNotFound, database) := by
  unfold requireTopic
  rw [run_execute_bind, run_getTopic]
  cases database.topicOfArn topicArn <;> rfl

@[simp]
theorem serve_getTopic (topicArn : Text) :
    serve (.getTopic topicArn) database = (.ok (database.topicOfArn topicArn), database) :=
  run_getTopic topicArn

@[simp]
theorem serve_createTopic (topic : SnsTopic) :
    serve (.createTopic topic) database = database.insertTopic topic := rfl

@[simp]
theorem serve_createSubscription (subscription : SnsSubscription) :
    serve (.createSubscription subscription) database = database.insertSubscription subscription :=
  rfl

@[simp]
theorem serve_getSubscription (subscriptionArn : Text) :
    serve (.getSubscription subscriptionArn) database =
      (.ok (database.selectSubscription subscriptionArn), database) := rfl

/-- **An update changes the topic that it found.** -/
theorem serve_setTopicAttributes {accountId region topicName : Text}
    {update : SnsTopicAttributeUpdate} :
    serve (.setTopicAttributes accountId region topicName update) database =
      match database.topicOfArn (topicArn region accountId topicName) with
      | some topic =>
          (.ok (), (database.updateTopic topic.id (updatedTopic update topic.columns)).2)
      | none => (.error topicNotFound, database) := by
  show (setTopicAttributes accountId region topicName update).run.run SnsDatabase.serve database = _
  unfold setTopicAttributes
  rw [run_except_bind, run_requireTopic]
  cases database.topicOfArn (topicArn region accountId topicName) <;> rfl

/-- **An update changes the subscription that it found.** -/
theorem serve_setSubscriptionAttributes {subscriptionArn : Text}
    {update : SnsSubscriptionAttributeUpdate} :
    serve (.setSubscriptionAttributes subscriptionArn update) database =
      match database.selectSubscription subscriptionArn with
      | some subscription => (.ok (), (database.updateSubscription subscription.id
          (updatedSubscription update subscription.columns)).2)
      | none => (.error subscriptionNotFound, database) := by
  have selected : (snsStatement (.selectSubscription subscriptionArn)).run SnsDatabase.serve
      database = (.ok (database.selectSubscription subscriptionArn), database) := rfl
  show (setSubscriptionAttributes subscriptionArn update).run.run SnsDatabase.serve database = _
  unfold setSubscriptionAttributes
  rw [run_execute_bind, selected]
  cases database.selectSubscription subscriptionArn <;> rfl

/-! ### What a call does to the table of topics -/

end SqliteSns

/-- A statement that leaves the table of topics alone. -/
def SnsStatement.LeavesTopics : SnsStatement → Prop
  | .insertTopic _ | .deleteTopic .. | .updateTopic .. => False
  | _ => True

/-- A call that leaves the table of topics alone. -/
def SnsCall.LeavesTopics : SnsCall → Prop
  | .createTopic _ | .deleteTopic _ | .setTopicAttributes .. => False
  | _ => True

theorem SnsDatabase.topics_serve_of_leaves {statement : SnsStatement}
    (leaves : statement.LeavesTopics) (database : SnsDatabase) :
    (serve statement database).2.topics = database.topics := by
  cases statement with
  | insertTopic topic => exact leaves.elim
  | deleteTopic name region accountId => exact leaves.elim
  | updateTopic id columns => exact leaves.elim
  | insertSubscription subscription =>
      show (database.insertSubscription subscription).2.topics = _
      unfold insertSubscription
      split_ifs <;> rfl
  | upsertTags topicId tags =>
      show (database.upsertTags topicId tags).2.topics = _
      unfold upsertTags
      split_ifs <;> rfl
  | _ => rfl

namespace SqliteSns

section Leaves

variable {property : SnsStatement → Prop}

theorem onlyCalls_execute {α : Type} {statement : SnsSqlProgram (StoreResult α)}
    (every : statement.AllCalls property) : OnlyCalls property (execute statement) :=
  every

theorem allCalls_getTopic {arn : Text}
    (selects : ∀ name region accountId, property (.selectTopic name region accountId)) :
    @AllCalls snsStatements _ property (getTopic arn) := by
  unfold getTopic
  generalize arn.splitOn ':' = parts
  split
  · exact allCalls_perform.mpr (selects _ _ _)
  · exact trivial

theorem onlyCalls_requireTopic {arn : Text}
    (selects : ∀ name region accountId, property (.selectTopic name region accountId)) :
    @OnlyCalls snsStatements _ _ property (requireTopic arn) := by
  refine (onlyCalls_execute (allCalls_getTopic selects)).bind fun found => ?_
  cases found with
  | none => exact onlyCalls_throw
  | some topic => exact onlyCalls_pure

end Leaves

/-- A call that leaves the topics alone consists of such statements. -/
theorem allCalls_perform_of_leaves {call : SnsCall} (leaves : call.LeavesTopics) :
    @AllCalls snsStatements _ SnsStatement.LeavesTopics (perform call) := by
  have selects (name region accountId : Text) :
      (SnsStatement.selectTopic name region accountId).LeavesTopics := trivial
  have single (statement : SnsStatement) (alone : statement.LeavesTopics) :
      @AllCalls snsStatements _ SnsStatement.LeavesTopics (snsStatement statement) :=
    allCalls_perform.mpr alone
  cases call with
  | createTopic topic => exact leaves.elim
  | deleteTopic arn => exact leaves.elim
  | setTopicAttributes accountId region name update => exact leaves.elim
  | getTopic arn => exact allCalls_getTopic selects
  | getTopicById id => exact single (.selectTopicById id) trivial
  | listTopics region accountId start limit => exact single (.selectTopics ..) trivial
  | createSubscription subscription => exact single (.insertSubscription _) trivial
  | getSubscription arn => exact single (.selectSubscription _) trivial
  | getSubscriptionById id => exact single (.selectSubscriptionById _) trivial
  | listSubscriptions region accountId limit => exact single (.selectSubscriptions ..) trivial
  | listSubscriptionsByTopic arn => exact single (.selectSubscriptionsOfTopic _) trivial
  | deleteSubscription arn =>
      exact (onlyCalls_execute (single (.deleteSubscription _) trivial)).bind fun affected =>
        iteInduction (fun _ => onlyCalls_throw) fun _ => onlyCalls_pure
  | deleteSubscriptionById id =>
      exact (onlyCalls_execute (single (.deleteSubscriptionById _) trivial)).bind fun affected =>
        iteInduction (fun _ => onlyCalls_throw) fun _ => onlyCalls_pure
  | setSubscriptionAttributes arn update =>
      refine (onlyCalls_execute (single (.selectSubscription _) trivial)).bind fun found => ?_
      cases found with
      | none => exact onlyCalls_throw
      | some subscription =>
          exact (onlyCalls_execute (single (.updateSubscription ..) trivial)).bind
            fun _ => onlyCalls_pure
  | listTopicTags arn =>
      exact (onlyCalls_requireTopic selects).bind fun topic =>
        onlyCalls_execute (single (.selectTags _) trivial)
  | tagTopic arn tags =>
      exact (onlyCalls_requireTopic selects).bind fun topic =>
        onlyCalls_execute (single (.upsertTags ..) trivial)
  | untagTopic arn tagKeys =>
      exact (onlyCalls_requireTopic selects).bind fun topic =>
        onlyCalls_execute (single (.deleteTags ..) trivial)

/-- Such a call leaves the table of topics as it is. -/
theorem topics_serve_of_leaves {call : SnsCall} (leaves : call.LeavesTopics)
    (database : SnsDatabase) : (serve call database).2.topics = database.topics := by
  have keeps : CallsKeep SnsDatabase.serve SnsStatement.LeavesTopics
      fun later => later.topics = database.topics := by
    intro statement later alone same
    rw [SnsDatabase.topics_serve_of_leaves alone, same]
  exact keeps.run (allCalls_perform_of_leaves leaves) rfl

/-- **The table of topics after a topic was deleted.** -/
theorem topics_serve_deleteTopic (arn : Text) (database : SnsDatabase) :
    (serve (.deleteTopic arn) database).2.topics = database.topicsWithout arn := by
  show ((deleteTopic arn).run.run SnsDatabase.serve database).2.topics = _
  unfold deleteTopic SnsDatabase.topicsWithout
  generalize arn.splitOn ':' = parts
  rcases parts with
    _ | ⟨_, _ | ⟨_, _ | ⟨_, _ | ⟨region, _ | ⟨accountId, _ | ⟨name, _ | _⟩⟩⟩⟩⟩⟩
  iterate 6 · rfl
  · have first : (snsStatement (.deleteTagsOfTopic name region accountId)).run SnsDatabase.serve
        database = database.deleteTagsOfTopic name region accountId := rfl
    dsimp only
    rw [run_execute_bind, first]
    show ((execute (snsStatement (.deleteTopic name region accountId)) >>= _).run.run
      SnsDatabase.serve (database.deleteTagsOfTopic name region accountId).2).2.topics = _
    have second (later : SnsDatabase) :
        (snsStatement (.deleteTopic name region accountId)).run SnsDatabase.serve later =
          later.deleteTopic name region accountId := rfl
    rw [run_execute_bind, second]
    dsimp only [SnsDatabase.deleteTopic]
    split_ifs <;> rfl
  · rfl

/-- Deleting a topic deletes the row with its parts, if there are as many as there should
be. -/
theorem topics_deleteTopic (arn : Text) (database : SnsDatabase) :
    (serve (.deleteTopic arn) database).2.topics = database.topics ∨
    ∃ name region accountId, (serve (.deleteTopic arn) database).2.topics =
      database.topics.filter fun topic => !SnsDatabase.isTopic name region accountId topic := by
  rw [topics_serve_deleteTopic, SnsDatabase.topicsWithout]
  split
  · next _ _ _ region accountId name _ => exact Or.inr ⟨name, region, accountId, rfl⟩
  · exact Or.inl rfl

/-- **What a call does to the table of topics.** -/
theorem topics_serve (call : SnsCall) (database : SnsDatabase) :
    (serve call database).2.topics = database.topics ∨
    (∃ topic, call = .createTopic topic ∧
      database.selectTopic topic.name topic.region topic.accountId = none ∧
      (serve call database).2.topics =
        database.topics.insert (fun id => { topic with id := id }) fun _ => rfl) ∨
    (∃ arn name region accountId, call = .deleteTopic arn ∧
      (serve call database).2.topics = database.topics.filter
        fun topic => !SnsDatabase.isTopic name region accountId topic) ∨
    (∃ accountId region name update topic, call = .setTopicAttributes accountId region name update ∧
      database.topicOfArn (topicArn region accountId name) = some topic ∧
      (serve call database).2 =
        (database.updateTopic topic.id (updatedTopic update topic.columns)).2) := by
  by_cases leaves : call.LeavesTopics
  · exact Or.inl (topics_serve_of_leaves leaves database)
  cases call with
  | createTopic topic =>
      show (database.insertTopic topic).2.topics = _ ∨ _
      unfold SnsDatabase.insertTopic
      split_ifs with taken
      · exact Or.inl rfl
      · refine Or.inr (Or.inl ⟨topic, rfl, Option.not_isSome_iff_eq_none.mp taken, ?_⟩)
        show (database.insertTopic topic).2.topics = _
        rw [SnsDatabase.insertTopic, if_neg taken]
  | deleteTopic arn =>
      rcases topics_deleteTopic arn database with same | ⟨name, region, accountId, deleted⟩
      · exact Or.inl same
      · exact Or.inr (Or.inr (Or.inl ⟨arn, name, region, accountId, rfl, deleted⟩))
  | setTopicAttributes accountId region name update =>
      have served := @serve_setTopicAttributes database accountId region name update
      cases found : database.topicOfArn (topicArn region accountId name) with
      | none =>
          rw [found] at served
          exact Or.inl (congrArg (fun result => result.2.topics) served)
      | some topic =>
          rw [found] at served
          exact Or.inr (Or.inr (Or.inr ⟨_, _, _, _, topic, rfl, found,
            congrArg Prod.snd served⟩))
  | _ => exact absurd trivial leaves

end SqliteSns

end Hiraeth
