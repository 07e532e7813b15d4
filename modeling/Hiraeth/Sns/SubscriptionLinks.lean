import Hiraeth.Lib.Guarded
import Hiraeth.Sns.Topics

/-!
# Subscriptions and the topics they name

A subscription names its topic by its ARN, to which no foreign key belongs.  A request to
subscribe looks for the topic in one call, and stores the subscription in another; when the
topic is deleted in between, the subscription names no topic.  A topic that is created under
the same ARN later then has a subscriber from the beginning.

## Main definitions

* `SnsDatabase.Linked` — every subscription has the ARN of a stored topic
* `findsTopic`, `keepsTopic` — the states in which a call, or a statement, keeps the links

## Main results

* `SnsDatabase.Linked.startsEmpty` — then no subscription awaits a topic that does not exist
* `subscriptions_linked` — guarded runs keep the links
* `subscription_orphaned` — a run in which a topic is deleted before the subscription is stored
-/

namespace Hiraeth

open Interaction Program

namespace SnsDatabase

/-- An ARN is the one of a stored topic. -/
def NamesTopic (database : SnsDatabase) (arn : Text) : Prop :=
  ∃ topic ∈ database.topics.rows,
    parseSnsTopicArn arn = some ⟨topic.region, topic.accountId, topic.name⟩

/-- **Every subscription has the ARN of a stored topic.** -/
def Linked (database : SnsDatabase) : Prop :=
  ∀ subscription ∈ database.subscriptions.rows, database.NamesTopic subscription.topicArn

variable {database : SnsDatabase}

/-- The ARN of a linked subscription is the canonical one of its topic. -/
theorem Linked.canonical (linked : database.Linked) {subscription : SnsSubscription}
    (member : subscription ∈ database.subscriptions.rows) :
    ∃ topic ∈ database.topics.rows,
      subscription.topicArn = topicArn topic.region topic.accountId topic.name := by
  obtain ⟨topic, stored, parsed⟩ := linked subscription member
  exact ⟨topic, stored, (parseSnsTopicArn_eq_some parsed).1⟩

/-- An ARN with six parts has only one set of parts. -/
theorem topicArn_inj {region accountId name : Text} {topicId : TopicId}
    (plain : ':' ∉ topicId.region ∧ ':' ∉ topicId.accountId ∧ ':' ∉ topicId.name)
    (same : topicArn region accountId name =
      topicArn topicId.region topicId.accountId topicId.name) :
    (⟨region, accountId, name⟩ : TopicId) = topicId := by
  have colons := congrArg (List.count ':') same
  unfold topicArn at colons
  simp only [List.count_append, List.count_cons_self, List.count_eq_zero.mpr plain.1,
    List.count_eq_zero.mpr plain.2.1, List.count_eq_zero.mpr plain.2.2] at colons
  have plainRegion : ':' ∉ region := List.count_eq_zero.mp (by omega)
  have plainAccount : ':' ∉ accountId := List.count_eq_zero.mp (by omega)
  have plainName : ':' ∉ name := List.count_eq_zero.mp (by omega)
  have parts := congrArg (List.splitOn ':') same
  rw [splitOn_topicArn plainRegion plainAccount plainName,
    splitOn_topicArn plain.1 plain.2.1 plain.2.2] at parts
  simp only [List.cons.injEq, true_and, and_true] at parts
  obtain ⟨rfl, rfl, rfl⟩ := parts
  rfl

/-- **A topic that does not exist yet has no subscription.** -/
theorem Linked.startsEmpty (linked : database.Linked) {name region accountId : Text}
    (absent : database.selectTopic name region accountId = none)
    {subscription : SnsSubscription} (member : subscription ∈ database.subscriptions.rows) :
    subscription.topicArn ≠ topicArn region accountId name := by
  intro same
  obtain ⟨topic, stored, parsed⟩ := linked subscription member
  obtain ⟨isArn, plain⟩ := parseSnsTopicArn_eq_some parsed
  obtain ⟨rfl, rfl, rfl⟩ := TopicId.mk.inj (topicArn_inj plain (same.symm.trans isArn))
  exact List.find?_eq_none.mp absent topic stored (isTopic_iff.mpr ⟨rfl, rfl, rfl⟩)

end SnsDatabase

/-! ### Statements -/

/-- What a statement adds to the subscriptions has an ARN. -/
def SnsStatement.AddsNamed : SnsStatement → Prop
  | .insertSubscription subscription => (parseSnsTopicArn subscription.topicArn).isSome
  | _ => True

/-- **A subscription is stored while its topic is**, and a topic is deleted while it has no
subscriptions. -/
def keepsTopic : Guard snsStatements Unit SnsDatabase := fun _ statement database =>
  match statement with
  | .insertSubscription subscription => (database.topicOfArn subscription.topicArn).isSome
  | .deleteTopic name region accountId =>
      ∀ subscription ∈ database.subscriptions.rows,
        subscription.topicArn ≠ topicArn region accountId name
  | _ => True

namespace SnsDatabase

variable {database : SnsDatabase}

theorem NamesTopic.of_topics {later : SnsDatabase} {arn : Text}
    (names : database.NamesTopic arn)
    (kept : ∀ topic ∈ database.topics.rows, arn = topicArn topic.region topic.accountId topic.name →
      ∃ row ∈ later.topics.rows, identity row = identity topic) : later.NamesTopic arn := by
  obtain ⟨topic, stored, parsed⟩ := names
  obtain ⟨row, isStored, same⟩ := kept topic stored (parseSnsTopicArn_eq_some parsed).1
  refine ⟨row, isStored, ?_⟩
  obtain ⟨sameName, sameRest⟩ := Prod.mk.inj same
  obtain ⟨sameRegion, sameAccount⟩ := Prod.mk.inj sameRest
  rw [sameName, sameRegion, sameAccount]
  exact parsed

/-- A topic that an accepted ARN finds is named by it. -/
theorem namesTopic_of_found {arn : Text} (accepted : (parseSnsTopicArn arn).isSome)
    (found : (database.topicOfArn arn).isSome) : database.NamesTopic arn := by
  obtain ⟨topicId, parsed⟩ := Option.isSome_iff_exists.mp accepted
  obtain ⟨topic, isTopic⟩ := Option.isSome_iff_exists.mp found
  rw [topicOfArn_of_parse parsed] at isTopic
  obtain ⟨stored, sameName, sameRegion, sameAccount⟩ := selectTopic_eq_some isTopic
  exact ⟨topic, stored, by rw [sameName, sameRegion, sameAccount]; exact parsed⟩

/-- **Fewer subscriptions to more topics are linked as before.** -/
theorem Linked.of_le {later : SnsDatabase} (linked : database.Linked)
    (subscriptions : ∀ row ∈ later.subscriptions.rows, ∃ old ∈ database.subscriptions.rows,
      old.topicArn = row.topicArn)
    (topics : ∀ topic ∈ database.topics.rows, ∃ row ∈ later.topics.rows,
      identity row = identity topic) : later.Linked := by
  intro row member
  obtain ⟨old, isOld, same⟩ := subscriptions row member
  rw [← same]
  exact (linked old isOld).of_topics fun topic stored _ => topics topic stored

/-- **Every statement keeps the links when it may be made.** -/
theorem linked_serve : GuardedKeeps SnsDatabase.serve
    (Discipline.unlearned SnsStatement.AddsNamed) keepsTopic Linked := by
  intro known statement database named guarded linked
  have sameSubscriptions (row : SnsSubscription) (member : row ∈ database.subscriptions.rows) :
      ∃ old ∈ database.subscriptions.rows, old.topicArn = row.topicArn := ⟨row, member, rfl⟩
  have sameTopics (topic : SnsTopic) (stored : topic ∈ database.topics.rows) :
      ∃ row ∈ database.topics.rows, identity row = identity topic := ⟨topic, stored, rfl⟩
  cases statement with
  | insertTopic topic =>
      show (database.insertTopic topic).2.Linked
      unfold insertTopic
      split_ifs with taken
      · exact linked
      · exact linked.of_le sameSubscriptions fun old stored =>
          ⟨old, SequenceTable.mem_insert.mpr (.inl stored), rfl⟩
  | insertSubscription subscription =>
      show (database.insertSubscription subscription).2.Linked
      unfold insertSubscription
      split_ifs with taken
      · exact linked
      · intro row member
        rcases SequenceTable.mem_insert.mp member with old | rfl
        · exact linked row old
        · exact namesTopic_of_found named guarded
  | deleteTopic name region accountId =>
      intro row member
      refine (linked row member).of_topics fun topic stored isArn => ⟨topic, ?_, rfl⟩
      refine SequenceTable.mem_filter.mpr ⟨stored, ?_⟩
      rw [Bool.not_eq_true', Bool.eq_false_iff]
      intro doomed
      obtain ⟨rfl, rfl, rfl⟩ := isTopic_iff.mp doomed
      exact guarded row member isArn
  | updateTopic id columns =>
      refine linked.of_le sameSubscriptions fun topic stored =>
        ⟨_, SequenceTable.mem_map.mpr ⟨topic, stored, rfl⟩, ?_⟩
      show identity (if topic.id = id then topic.withColumns columns else topic) = _
      split_ifs <;> rfl
  | deleteSubscriptionsOfTopic | deleteSubscription | deleteSubscriptionById =>
      exact linked.of_le (fun row member => ⟨row, (SequenceTable.mem_filter.mp member).1, rfl⟩)
        sameTopics
  | updateSubscription id columns =>
      refine linked.of_le (fun row member => ?_) sameTopics
      obtain ⟨old, isOld, rfl⟩ := SequenceTable.mem_map.mp member
      refine ⟨old, isOld, ?_⟩
      split_ifs <;> rfl
  | upsertTags topicId tags =>
      show (database.upsertTags topicId tags).2.Linked
      unfold upsertTags
      split_ifs <;> exact linked
  | selectTopic | selectTopicById | selectTopics | deleteTagsOfTopic | selectSubscription
  | selectSubscriptionById | selectSubscriptions | selectSubscriptionsOfTopic | selectTags
  | deleteTags => exact linked

end SnsDatabase

/-! ### Whole calls -/

/-- What a call adds to the subscriptions has an ARN, and so has a topic that it deletes. -/
def SnsCall.HandlesNamed : SnsCall → Prop
  | .createSubscription subscription => (parseSnsTopicArn subscription.topicArn).isSome
  | .deleteTopic arn => (parseSnsTopicArn arn).isSome
  | _ => True

/-- **A subscription is stored while its topic is.** -/
def findsTopic : Guard snsStore Unit SnsDatabase := fun _ call database =>
  match call with
  | .createSubscription subscription => (database.topicOfArn subscription.topicArn).isSome
  | _ => True

namespace SqliteSns

variable {database : SnsDatabase}

/-- A statement that may always be made. -/
def AlwaysLinks : SnsStatement → Prop
  | .insertSubscription _ | .deleteTopic .. => False
  | _ => True

/-- **A call that neither subscribes nor deletes a topic** consists of such statements. -/
theorem allCalls_perform_alwaysLinks {call : SnsCall}
    (notSubscribes : ∀ subscription, call ≠ .createSubscription subscription)
    (notDeletes : ∀ arn, call ≠ .deleteTopic arn) :
    @AllCalls snsStatements _ AlwaysLinks (perform call) := by
  have single (statement : SnsStatement) (always : AlwaysLinks statement) :
      @AllCalls snsStatements _ AlwaysLinks (snsStatement statement) :=
    allCalls_perform.mpr always
  have selects (name region accountId : Text) :
      AlwaysLinks (.selectTopic name region accountId) := trivial
  cases call with
  | createSubscription subscription => exact absurd rfl (notSubscribes subscription)
  | deleteTopic arn => exact absurd rfl (notDeletes arn)
  | createTopic topic => exact single _ (by exact trivial)
  | getTopic arn => exact allCalls_getTopic selects
  | getTopicById | listTopics | getSubscription | getSubscriptionById | listSubscriptions
  | listSubscriptionsByTopic => exact single _ (by exact trivial)
  | deleteSubscription | deleteSubscriptionById =>
      exact (onlyCalls_execute (single _ (by exact trivial))).bind fun affected =>
        iteInduction (fun _ => onlyCalls_throw) fun _ => onlyCalls_pure
  | setSubscriptionAttributes arn update =>
      refine (onlyCalls_execute (single _ (by exact trivial))).bind fun found => ?_
      cases found with
      | none => exact onlyCalls_throw
      | some subscription =>
          exact (onlyCalls_execute (single _ (by exact trivial))).bind fun _ => onlyCalls_pure
  | setTopicAttributes accountId region name update =>
      exact (onlyCalls_requireTopic selects).bind fun topic =>
        (onlyCalls_execute (single _ (by exact trivial))).bind fun _ => onlyCalls_pure
  | listTopicTags | tagTopic | untagTopic =>
      exact (onlyCalls_requireTopic selects).bind fun topic =>
        onlyCalls_execute (single _ (by exact trivial))

/-- **Deleting a topic deletes its subscriptions**, so that those that are left are linked. -/
theorem linked_serve_deleteTopic {arn : Text} (accepted : (parseSnsTopicArn arn).isSome)
    (linked : database.Linked) : (serve (.deleteTopic arn) database).2.Linked := by
  obtain ⟨topicId, parsed⟩ := Option.isSome_iff_exists.mp accepted
  obtain ⟨isArn, plainRegion, plainAccount, plainName⟩ := parseSnsTopicArn_eq_some parsed
  have first : (snsStatement (.deleteTagsOfTopic topicId.name topicId.region
      topicId.accountId)).run SnsDatabase.serve database =
        database.deleteTagsOfTopic topicId.name topicId.region topicId.accountId := rfl
  have second (later : SnsDatabase) : (snsStatement (.deleteTopic topicId.name topicId.region
      topicId.accountId)).run SnsDatabase.serve later =
        later.deleteTopic topicId.name topicId.region topicId.accountId := rfl
  show ((deleteTopic arn).run.run SnsDatabase.serve database).2.Linked
  unfold deleteTopic
  rw [isArn, SnsDatabase.splitOn_topicArn plainRegion plainAccount plainName]
  dsimp only
  rw [run_execute_bind, first]
  show ((execute (snsStatement (.deleteTopic topicId.name topicId.region topicId.accountId)) >>=
    _).run.run SnsDatabase.serve
      (database.deleteTagsOfTopic topicId.name topicId.region topicId.accountId).2).2.Linked
  rw [run_execute_bind, second]
  dsimp only [SnsDatabase.deleteTopic]
  split_ifs with nothing
  · refine linked.of_le (fun row member => ⟨row, member, rfl⟩) fun topic stored => ⟨topic, ?_, rfl⟩
    have other := List.countP_eq_zero.mp nothing topic stored
    rw [Bool.not_eq_true, ← Bool.not_eq_true'] at other
    exact SequenceTable.mem_filter.mpr ⟨stored, other⟩
  · intro row member
    obtain ⟨isOld, otherArn⟩ := SequenceTable.mem_filter.mp member
    refine (linked row isOld).of_topics fun topic stored isTopicArn => ⟨topic, ?_, rfl⟩
    refine SequenceTable.mem_filter.mpr ⟨stored, ?_⟩
    rw [Bool.not_eq_true', Bool.eq_false_iff]
    intro doomed
    obtain ⟨sameName, sameRegion, sameAccount⟩ := SnsDatabase.isTopic_iff.mp doomed
    rw [sameName, sameRegion, sameAccount] at isTopicArn
    exact of_decide_eq_false (Bool.not_eq_true' _ ▸ otherArn) isTopicArn

/-- **Every call keeps the links when it may be made.** -/
theorem linked_serve : GuardedKeeps serve (Discipline.unlearned SnsCall.HandlesNamed) findsTopic
    SnsDatabase.Linked := by
  intro known call database named guarded linked
  have always : CallsKeep SnsDatabase.serve AlwaysLinks SnsDatabase.Linked := by
    intro statement later isAlways linked
    refine SnsDatabase.linked_serve () statement later ?_ ?_ linked
    · cases statement <;> first | exact trivial | exact isAlways.elim
    · cases statement <;> first | exact trivial | exact isAlways.elim
  cases call with
  | createSubscription subscription =>
      exact SnsDatabase.linked_serve () (.insertSubscription subscription) database named guarded
        linked
  | deleteTopic arn => exact linked_serve_deleteTopic named linked
  | _ => exact always.run (allCalls_perform_alwaysLinks (fun _ same => by cases same)
      fun _ same => by cases same) linked

end SqliteSns

/-! ### Runs -/

namespace SnsDatabase

/-- **The subscriptions and the topics fit together**: every subscription has the canonical ARN
of a topic, and no subscription has the ARN of a topic that is yet to be created. -/
structure Intact (database : SnsDatabase) : Prop where
  canonical : ∀ subscription ∈ database.subscriptions.rows, ∃ topic ∈ database.topics.rows,
    subscription.topicArn = topicArn topic.region topic.accountId topic.name
  startsEmpty : ∀ name region accountId, database.selectTopic name region accountId = none →
    ∀ subscription ∈ database.subscriptions.rows,
      subscription.topicArn ≠ topicArn region accountId name

theorem Linked.intact {database : SnsDatabase} (linked : database.Linked) : database.Intact where
  canonical _ member := linked.canonical member
  startsEmpty _ _ _ absent _ member := linked.startsEmpty absent member

theorem empty_linked : empty.Linked :=
  fun _ member => absurd member List.not_mem_nil

end SnsDatabase

theorem isSome_of_validateTopicArn {arn fieldName : Text}
    (checked : validateTopicArn arn fieldName = .ok ()) : (parseSnsTopicArn arn).isSome := by
  unfold validateTopicArn at checked
  split_ifs at checked
  cases parsed : parseSnsTopicArn arn with
  | none =>
      rw [parsed] at checked
      cases checked
  | some topicId => rfl

section Runs

variable {ι : Type} [DecidableEq ι] {library : SnsLibrary} {tasks : ι → SnsTask}

/-- **What a request writes has an ARN.** -/
theorem SnsTask.allCalls_handlesNamed (task : SnsTask) :
    @AllCalls snsStore _ SnsCall.HandlesNamed (task.program library) := by
  refine SnsTask.allCalls (fun call isRead => ?_) fun call writes => ?_
  · cases call <;> first | exact trivial | exact isRead.elim
  · cases writes with
    | deleteTopic isAction accepted =>
        obtain ⟨-, events, completes⟩ := accepted
        exact isSome_of_validateTopicArn (completes_liftExcept.mp completes).2
    | subscribe isAction accepted =>
        obtain ⟨-, events, completes⟩ := accepted
        obtain ⟨_, _, _, -, checked, -⟩ := completes_bind.mp completes
        exact isSome_of_validateTopicArn (completes_liftExcept.mp checked).2
    | _ => exact trivial

/-- The statements of such calls. -/
theorem allCalls_perform_addsNamed {call : SnsCall} (named : call.HandlesNamed) :
    @AllCalls snsStatements _ SnsStatement.AddsNamed (SqliteSns.perform call) := by
  have single (statement : SnsStatement) (adds : statement.AddsNamed) :
      @AllCalls snsStatements _ SnsStatement.AddsNamed (snsStatement statement) :=
    allCalls_perform.mpr adds
  have always {statement : SnsStatement} (isAlways : SqliteSns.AlwaysLinks statement) :
      statement.AddsNamed := by
    cases statement <;> first | exact trivial | exact isAlways.elim
  cases call with
  | createSubscription subscription => exact single _ named
  | deleteTopic arn =>
      show @OnlyCalls snsStatements _ _ _ (SqliteSns.deleteTopic arn)
      unfold SqliteSns.deleteTopic
      split
      · refine (SqliteSns.onlyCalls_execute (single (.deleteTagsOfTopic ..) trivial)).bind
          fun _ => ?_
        refine (SqliteSns.onlyCalls_execute (single (.deleteTopic ..) trivial)).bind fun _ => ?_
        refine iteInduction (fun _ => trivial) fun _ => ?_
        exact (SqliteSns.onlyCalls_execute (single (.deleteSubscriptionsOfTopic _) trivial)).bind
          fun _ => onlyCalls_pure
      · exact onlyCalls_throw
  | _ =>
      exact (SqliteSns.allCalls_perform_alwaysLinks (fun _ same => by cases same)
        fun _ same => by cases same).mono fun _ => always

/-- The requests before any of them has begun, as calls of the store. -/
def requestCalls (library : SnsLibrary) (tasks : ι → SnsTask) (database : SnsDatabase) :
    Config snsStore Unit ι SnsDatabase where
  shared := database
  threads thread := (tasks thread).program library
  log := []

/-- The requests before any of them has begun, as statements. -/
def requestStatements (library : SnsLibrary) (tasks : ι → SnsTask) (database : SnsDatabase) :
    Config snsStatements Unit ι SnsDatabase where
  shared := database
  threads thread := ((tasks thread).program library).refine SqliteSns.perform
  log := []

/-- **Subscriptions and topics fit together** in every state that is reached by calls each of
which finds the topic that it subscribes to, and in every state that is reached by statements
each of which finds this topic, or no subscription to the topic that it deletes. -/
theorem subscriptions_linked {database : SnsDatabase} (initially : database.Linked) :
    (∀ config, Reachable SqliteSns.serve
        (Config.Guarded (Discipline.unlearned SnsCall.HandlesNamed) () findsTopic)
        (requestCalls library tasks database) config → config.shared.Intact) ∧
    ∀ config, Reachable SnsDatabase.serve
      (Config.Guarded (Discipline.unlearned SnsStatement.AddsNamed) () keepsTopic)
      (requestStatements library tasks database) config → config.shared.Intact := by
  constructor
  · intro config reachable
    exact (SqliteSns.linked_serve.reachable rfl (fun thread =>
      (tasks thread).allCalls_handlesNamed.obeys_unlearned ()) initially reachable).intact
  · intro config reachable
    exact (SnsDatabase.linked_serve.reachable rfl (fun thread =>
      ((tasks thread).allCalls_handlesNamed.refine fun _ =>
        allCalls_perform_addsNamed).obeys_unlearned ()) initially reachable).intact

end Runs

/-! ### A subscription without a topic -/

/-- Three requests: one subscribes to a topic, one deletes it, and one creates it. -/
def topicTasks : Fin 3 → SnsTask
  | 0 => userTask .subscribe (("TopicArn=" : Text) ++ ordersTopicArn ++
      "&Protocol=sqs&Endpoint=arn:aws:sqs:us-east-1:000000000000:orders".toList)
  | 1 => userTask .deleteTopic (("TopicArn=" : Text) ++ ordersTopicArn)
  | 2 => userTask .createTopic "Name=orders"

/-- A run of these requests, call by call. -/
def topicRun (schedule : List (Fin 3)) : Config snsStore Unit (Fin 3) SnsDatabase :=
  (requestCalls sampleSnsLibrary topicTasks (topicStore "{}")).play SqliteSns.serve schedule

/-- Whether a call finds its topic can be seen. -/
instance findsTopicDecidable (known : Unit) (call : SnsCall) (database : SnsDatabase) :
    Decidable (findsTopic known call database) := by
  unfold findsTopic
  split <;> infer_instance

theorem topicStore_linked : (topicStore "{}").Linked :=
  fun _ member => absurd member List.not_mem_nil

/-- A topic that is subscribed to and then deleted leaves nothing behind. -/
theorem subscriptions_linked_sequential : (topicRun [0, 0, 0, 1, 1]).shared.Intact := by
  have reachable : Reachable SqliteSns.serve
      (Config.Guarded (Discipline.unlearned SnsCall.HandlesNamed) () findsTopic)
      (requestCalls sampleSnsLibrary topicTasks (topicStore "{}")) (topicRun [0, 0, 0, 1, 1]) :=
    Reachable.play Config.guarded_of_isGuarded .start (by decide +kernel)
  exact (subscriptions_linked topicStore_linked).1 _ reachable

/-- **A topic is deleted before the subscription is stored.**  The subscription is left without
a topic, and the topic that is created later has it from the beginning. -/
theorem subscription_orphaned :
    ∃ orphaned recreated : Config snsStore Unit (Fin 3) SnsDatabase,
      Reachable SqliteSns.serve (fun _ _ => True)
        (requestCalls sampleSnsLibrary topicTasks (topicStore "{}")) orphaned ∧
      ¬ orphaned.shared.Intact ∧
      Reachable SqliteSns.serve (fun _ _ => True) orphaned recreated ∧
      (recreated.log.map fun entry => entry.1) = [0, 0, 1, 1, 0, 2] ∧
      recreated.shared.topics.rows.map SnsTopic.name = [("orders" : Text)] ∧
      recreated.shared.subscriptions.rows.map SnsSubscription.topicArn = [ordersTopicArn] := by
  have noTopics : (topicRun [0, 0, 1, 1, 0]).shared.topics.rows = [] := by
    decide +kernel
  have oneSubscription : (topicRun [0, 0, 1, 1, 0]).shared.subscriptions.rows.length = 1 := by
    decide +kernel
  refine ⟨topicRun [0, 0, 1, 1, 0], (topicRun [0, 0, 1, 1, 0]).play SqliteSns.serve [2],
    Reachable.play (fun _ _ _ => trivial) .start Config.passes_true, fun intact => ?_,
    Reachable.play (fun _ _ _ => trivial) .start Config.passes_true, ?_, ?_, ?_⟩
  · obtain ⟨subscription, rows⟩ := List.length_eq_one_iff.mp oneSubscription
    obtain ⟨topic, stored, -⟩ := intact.canonical subscription (by simp [rows])
    rw [noTopics] at stored
    exact List.not_mem_nil stored
  · rfl
  · decide +kernel
  · decide +kernel

end Hiraeth
