import Hiraeth.Store.SnsCalls

/-!
# What the tables of the SNS store guarantee

The constraints of the tables, as an invariant of the statements.  It holds whatever the
statements are and in whatever order they come.

## Main definitions

* `SnsDatabase.Valid` — the unique columns
* `SnsDatabase.execute` — some statements, one after the other

## Main results

* `SnsDatabase.Valid.serve`, `SnsDatabase.Valid.execute` — statements keep them unique
-/

namespace Hiraeth

open Interaction

namespace SnsDatabase

/-- **The unique columns.**  The parts of a topic's ARN, and the ARN of a subscription. -/
structure Valid (database : SnsDatabase) : Prop where
  identity : database.topics.UniqueOn identity
  subscriptionArn : database.subscriptions.UniqueOn SnsSubscription.subscriptionArn

variable {database : SnsDatabase}

theorem empty_valid : empty.Valid :=
  ⟨RowTable.uniqueOn_empty, RowTable.uniqueOn_empty⟩

/-- A topic that is not found has another identity than all others. -/
theorem identity_ne_of_selectTopic {topic : SnsTopic}
    (absent : ¬ (database.selectTopic topic.name topic.region topic.accountId).isSome)
    {row : SnsTopic} (member : row ∈ database.topics.rows) : identity row ≠ identity topic := by
  intro same
  rw [Bool.not_eq_true, Option.isSome_eq_false_iff, Option.isNone_iff_eq_none] at absent
  refine List.find?_eq_none.mp absent row member (isTopic_iff.mpr ?_)
  exact ⟨congrArg Prod.fst same, congrArg (·.2.1) same, congrArg (·.2.2) same⟩

/-- **Every statement keeps the unique columns unique.** -/
theorem Valid.serve (valid : database.Valid) (statement : SnsStatement) :
    (SnsDatabase.serve statement database).2.Valid := by
  obtain ⟨topics, subscriptions⟩ := valid
  cases statement with
  | insertTopic topic =>
      show (database.insertTopic topic).2.Valid
      unfold insertTopic
      split_ifs with found
      · exact ⟨topics, subscriptions⟩
      · exact ⟨SequenceTable.uniqueOn_insert topics (fun _ => rfl)
          fun row member => identity_ne_of_selectTopic found member, subscriptions⟩
  | insertSubscription subscription =>
      show (database.insertSubscription subscription).2.Valid
      unfold insertSubscription
      split_ifs with found
      · exact ⟨topics, subscriptions⟩
      · refine ⟨topics, SequenceTable.uniqueOn_insert subscriptions (fun _ => rfl)
          fun row member same => found ?_⟩
        exact List.any_eq_true.mpr ⟨row, member, decide_eq_true same⟩
  | deleteTopic name region accountId => exact ⟨topics.filter _, subscriptions⟩
  | deleteSubscriptionsOfTopic | deleteSubscription | deleteSubscriptionById =>
      exact ⟨topics, subscriptions.filter _⟩
  | updateTopic id columns =>
      refine ⟨topics.map (fun row => by split_ifs <;> rfl) fun row => ?_, subscriptions⟩
      show SnsDatabase.identity (if row.id = id then row.withColumns columns else row) =
        SnsDatabase.identity row
      split_ifs <;> rfl
  | updateSubscription id columns =>
      refine ⟨topics, subscriptions.map (fun row => by split_ifs <;> rfl) fun row => ?_⟩
      show (if row.id = id then row.withColumns columns else row).subscriptionArn =
        row.subscriptionArn
      split_ifs <;> rfl
  | upsertTags topicId tags =>
      show (database.upsertTags topicId tags).2.Valid
      unfold upsertTags
      split_ifs <;> exact ⟨topics, subscriptions⟩
  | selectTopic | selectTopicById | selectTopics | deleteTagsOfTopic | selectSubscription
  | selectSubscriptionById | selectSubscriptions | selectSubscriptionsOfTopic | selectTags
  | deleteTags => exact ⟨topics, subscriptions⟩

/-- Some statements, one after the other. -/
def execute (database : SnsDatabase) (statements : List SnsStatement) : SnsDatabase :=
  statements.foldl (fun state statement => (serve statement state).2) database

/-- **Whatever is executed, the columns stay unique.** -/
theorem Valid.execute (valid : database.Valid) (statements : List SnsStatement) :
    (database.execute statements).Valid := by
  induction statements generalizing database with
  | nil => exact valid
  | cons statement statements inductionHypothesis =>
      exact inductionHypothesis (valid.serve statement)

end SnsDatabase

end Hiraeth
