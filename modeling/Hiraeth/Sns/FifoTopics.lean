import Hiraeth.Sns.TopicAttributes

/-!
# FIFO topics and their names

A topic is created FIFO exactly when its name ends in `.fifo`.  Its attribute can be set
later, and nothing compares the new value with the name.

## Main definitions

* `SaysFifo`, `FifoNamed` — the attribute, and its agreement with the name
* `SnsTask.SetsFifoByName` — a request that sets the attribute in agreement with the name

## Main results

* `fifoTopics_are_named` — in a run of such requests the topics stay in agreement
* `fifoTopic_is_not_named` — in other runs they do not
-/

namespace Hiraeth

open Interaction Program

/-- The name of a FIFO topic. -/
def IsFifoName (name : Text) : Prop :=
  (".fifo" : Text) <:+ name

/-- The value says that the topic is FIFO, in any case of its letters. -/
def SaysFifo (fifoTopic : Option Text) : Prop :=
  fifoTopic.map toAsciiLowercase = some ("true" : Text)

/-- **The name of a topic agrees with its attribute.** -/
def FifoNamed (topic : SnsTopic) : Prop :=
  IsFifoName topic.name ↔ SaysFifo topic.fifoTopic

instance : DecidablePred FifoNamed := fun topic =>
  inferInstanceAs (Decidable ((".fifo" : Text) <:+ topic.name ↔
    topic.fifoTopic.map toAsciiLowercase = some ("true" : Text)))

/-- The name of a topic that is created agrees with its attribute. -/
theorem fifoNamed_of_validateTopicName {name : Text} {fifoTopic : Option Text}
    (accepted : validateTopicName name fifoTopic = .ok ()) :
    IsFifoName name ↔ SaysFifo fifoTopic := by
  have requested : ((fifoTopic.map fun value =>
      decide (toAsciiLowercase value = ("true" : Text))).getD false = true) ↔
      SaysFifo fifoTopic := by
    unfold SaysFifo
    cases fifoTopic <;> simp
  have named : decide ((".fifo" : Text) <:+ name) = true ↔ IsFifoName name := by
    rw [decide_eq_true_iff, IsFifoName]
  rw [← requested, ← named]
  revert accepted
  unfold validateTopicName
  dsimp only
  generalize ((fifoTopic.map fun value =>
    decide (toAsciiLowercase value = ("true" : Text))).getD false) = isRequested
  generalize decide ((".fifo" : Text) <:+ name) = isNamed
  by_cases length : name.length = 0 ∨ 256 < name.length
  · rw [if_pos length]
    exact nofun
  by_cases characters : (!name.all fun c => isNameChar c || c = '.') = true
  · rw [if_neg length, if_pos characters]
    exact nofun
  rw [if_neg length, if_neg characters]
  cases isRequested <;> cases isNamed <;> simp

/-! ### What is written -/

/-- A call that keeps the agreement. -/
def SnsCall.KeepsFifoNamed : SnsCall → Prop
  | .createTopic topic => FifoNamed topic
  | .setTopicAttributes accountId region topicName update =>
      (':' ∉ region ∧ ':' ∉ accountId ∧ ':' ∉ topicName) ∧
        (update.fifoTopic = none ∨ (IsFifoName topicName ↔ SaysFifo update.fifoTopic))
  | _ => True

/-- **Such calls keep every topic in agreement.** -/
theorem callsKeep_fifoNamed : CallsKeep SqliteSns.serve SnsCall.KeepsFifoNamed
    fun database => ∀ topic ∈ database.topics.rows, FifoNamed topic := by
  intro call database keeps before
  rcases SqliteSns.topics_serve call database with same | ⟨topic, rfl, -, inserted⟩ |
    ⟨_, name, region, accountId, rfl, deleted⟩ |
    ⟨accountId, region, name, update, found, rfl, isFound, updated⟩
  · rw [same]
    exact before
  · rw [inserted]
    intro row member
    rcases SequenceTable.mem_insert.mp member with old | rfl
    · exact before row old
    · exact keeps
  · rw [deleted]
    intro row member
    exact before row (SequenceTable.mem_filter.mp member).1
  · rw [updated]
    intro row member
    obtain ⟨old, isOld, rfl⟩ := SequenceTable.mem_map.mp member
    split_ifs with same
    · obtain ⟨⟨plainRegion, plainAccount, plainName⟩, agrees⟩ := keeps
      rw [SnsDatabase.topicOfArn_topicArn plainRegion plainAccount plainName] at isFound
      obtain ⟨isTopic, rfl, -⟩ := SnsDatabase.selectTopic_eq_some isFound
      obtain rfl := database.topics.toRowTable.eq_of_key_eq isOld isTopic same
      show IsFifoName old.name ↔ SaysFifo (update.fifoTopic.or old.fifoTopic)
      cases isSet : update.fifoTopic with
      | none => exact before old isOld
      | some value =>
          rw [isSet] at agrees
          exact agrees.resolve_left nofun
    · exact before old isOld

/-! ### Requests -/

/-- The attribute that an update sets. -/
theorem fifoTopic_fromAttributeNameAndValue (name value : Text) :
    (SnsTopicAttributeUpdate.fromAttributeNameAndValue name value).fifoTopic =
      if name = ("FifoTopic" : Text) then some value else none := by
  have other {name : Text} (different : name ≠ ("FifoTopic" : Text)) :
      none = if name = ("FifoTopic" : Text) then some value else none := (if_neg different).symm
  refine @SnsTopicAttributeUpdate.cases_name
    (fun name update => update.fifoTopic = if name = ("FifoTopic" : Text) then some value else none)
    value ?_ ?_ ?_ ?_ ?_ ?_ ?_ ?_ ?_ ?_ ?_ name
  · exact other (by decide +kernel)
  · exact other (by decide +kernel)
  · exact other (by decide +kernel)
  · exact other (by decide +kernel)
  · exact other (by decide +kernel)
  · exact other (by decide +kernel)
  · exact (if_pos rfl).symm
  · exact other (by decide +kernel)
  · exact other (by decide +kernel)
  · exact other (by decide +kernel)
  · rintro name absent
    refine other ?_
    rintro rfl
    exact absent (by decide +kernel)

/-- **A request that sets the attribute** in agreement with the name in the ARN. -/
def SnsTask.SetsFifoByName (library : SnsLibrary) (task : SnsTask) : Prop :=
  task.action = .setTopicAttributes → ∀ payload topicId,
    (setTopicAttributesAction library).parse task.request.request = .ok payload →
    parseSnsTopicArn payload.topicArn = some topicId →
    payload.attributeName = ("FifoTopic" : Text) →
      (IsFifoName topicId.name ↔ SaysFifo (some payload.attributeValue))

variable {library : SnsLibrary} {task : SnsTask}

/-- Such a request writes what keeps the agreement. -/
theorem keepsFifoNamed_of_writes (byName : task.SetsFifoByName library) {call : SnsCall}
    (writes : task.Writes library call) : call.KeepsFifoNamed := by
  cases writes with
  | @createTopic payload isAction accepted =>
      obtain ⟨-, events, completes⟩ := accepted
      obtain ⟨_, _, _, -, named, -⟩ := completes_bind.mp completes
      exact fifoNamed_of_validateTopicName (completes_liftExcept.mp named).2
  | @setTopicAttributes payload topicId isAction accepted named =>
      refine ⟨(parseSnsTopicArn_eq_some named).2, ?_⟩
      rw [fifoTopic_fromAttributeNameAndValue]
      by_cases isFifo : payload.attributeName = ("FifoTopic" : Text)
      · rw [if_pos isFifo]
        exact Or.inr (byName isAction payload topicId accepted.1 named isFifo)
      · exact Or.inl (if_neg isFifo)
  | _ => exact trivial

/-- **FIFO topics are named as such** in every state that is reached by requests that set
the attribute, if at all, in agreement with the name. -/
theorem fifoTopics_are_named {ι : Type} [DecidableEq ι] {tasks : ι → SnsTask}
    {start config : Config snsStore Unit ι SnsDatabase}
    (begins : ∀ thread, start.threads thread = (tasks thread).program library)
    (byName : ∀ thread, (tasks thread).SetsFifoByName library)
    (initially : ∀ topic ∈ start.shared.topics.rows, FifoNamed topic)
    (reachable : Reachable SqliteSns.serve (fun _ _ => True) start config) :
    ∀ topic ∈ config.shared.topics.rows, FifoNamed topic := by
  refine (callsKeep_fifoNamed.reachable (fun thread => ?_) initially reachable).1
  rw [begins]
  refine SnsTask.allCalls (fun call isRead => ?_) fun call => keepsFifoNamed_of_writes (byName thread)
  cases call <;> first | exact trivial | exact isRead.elim

/-! ### Two requests -/

/-- A request on its way to a store. -/
def snsStart (store : SnsDatabase) (task : SnsTask) : Config snsStore Unit Unit SnsDatabase where
  shared := store
  threads := fun _ => task.program sampleSnsLibrary
  log := []

/-- A FIFO topic is created. -/
def createFifoTask : SnsTask :=
  userTask .createTopic (("Name=orders.fifo&Attributes.entry.1.key=FifoTopic" : Text) ++
    "&Attributes.entry.1.value=TRUE".toList)

/-- A topic that is not named as one becomes FIFO. -/
def setFifoTask : SnsTask :=
  userTask .setTopicAttributes (("TopicArn=" : Text) ++ ordersTopicArn ++
    "&AttributeName=FifoTopic&AttributeValue=true".toList)

/-- The new topic is named as it says. -/
theorem fifoTopics_are_named_created :
    ((snsStart .empty createFifoTask).play SqliteSns.serve [()]).shared.topics.rows.map
        (fun topic => (topic.name, topic.fifoTopic)) =
      [(("orders.fifo" : Text), some ("TRUE" : Text))] ∧
    ∀ topic ∈ ((snsStart .empty createFifoTask).play SqliteSns.serve [()]).shared.topics.rows,
      FifoNamed topic := by
  refine ⟨by decide +kernel, ?_⟩
  refine @fifoTopics_are_named sampleSnsLibrary Unit _ (fun _ => createFifoTask)
    (snsStart .empty createFifoTask) _ (fun _ => rfl) (fun _ => nofun) ?_
    (Reachable.play (fun _ _ _ => trivial) .start Config.passes_true)
  intro topic member
  exact absurd member List.not_mem_nil

/-- **A topic that is not named as one becomes FIFO.** -/
theorem fifoTopic_is_not_named :
    ∃ config, Reachable SqliteSns.serve (fun _ _ => True)
        (snsStart (topicStore "{}") setFifoTask) config ∧
      (∀ topic ∈ (topicStore "{}").topics.rows, FifoNamed topic) ∧
      ¬ ∀ topic ∈ config.shared.topics.rows, FifoNamed topic := by
  have before : (topicStore "{}").topics.rows.all FifoNamed = true := by decide +kernel
  have after : ((snsStart (topicStore "{}") setFifoTask).play SqliteSns.serve
      [(), ()]).shared.topics.rows.all FifoNamed = false := by
    decide +kernel
  refine ⟨(snsStart (topicStore "{}") setFifoTask).play SqliteSns.serve [(), ()],
    Reachable.play (fun _ _ _ => trivial) .start Config.passes_true, ?_, fun named => ?_⟩
  · exact fun topic member => of_decide_eq_true (List.all_eq_true.mp before topic member)
  · have every := List.all_eq_true.mpr fun topic member => decide_eq_true (named topic member)
    exact Bool.false_ne_true (after.symm.trans every)

end Hiraeth
