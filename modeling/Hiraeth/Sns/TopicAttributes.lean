import Hiraeth.Sns.Topics

/-!
# Reading back an attribute of a topic

Setting an attribute is accepted for more names than the store has columns, and an empty
policy is reported as the default one.  Apart from that, what was set is what is reported,
and no other attribute is reported differently.

## Main definitions

* `storedTopicAttributes` — the names that the store has columns for
* `Reported` — what is reported of a topic
* `SetAndRead` — what is reported before and after an attribute was set

## Main results

* `topicAttributes_read_back` — what is reported of an attribute that was set
* `feedbackRole_not_read_back` — an accepted name that is not reported
-/

namespace Hiraeth

open Interaction Program

/-! ### The reported attributes as a table -/

/-- What could be reported of a topic, by name. -/
def topicTable (library : SnsLibrary) (topic : SnsTopic) : List (Text × Option Text) :=
  let arn := topicArn topic.region topic.accountId topic.name
  [("TopicArn", some arn), ("Owner", some topic.accountId),
    ("Policy", some (topicPolicyAttributeValue library topic.policy arn topic.accountId)),
    ("DisplayName", topic.displayName), ("DeliveryPolicy", topic.deliveryPolicy),
    ("FifoTopic", topic.fifoTopic),
    ("ContentBasedDeduplication", topic.contentBasedDeduplication),
    ("SignatureVersion", topic.signatureVersion), ("TracingConfig", topic.tracingConfig),
    ("KmsMasterKeyId", topic.kmsMasterKeyId),
    ("DataProtectionPolicy", topic.dataProtectionPolicy),
    ("ArchivePolicy", topic.archivePolicy),
    ("BeginningArchiveTime", topic.beginningArchiveTime)]

/-- The names that can be reported. -/
def reportedTopicAttributes : List Text :=
  ["TopicArn", "Owner", "Policy", "DisplayName", "DeliveryPolicy", "FifoTopic",
    "ContentBasedDeduplication", "SignatureVersion", "TracingConfig", "KmsMasterKeyId",
    "DataProtectionPolicy", "ArchivePolicy", "BeginningArchiveTime"]

/-- The entries of a table that are set. -/
def setEntries (table : List (Text × Option Text)) : List (Text × Text) :=
  table.flatMap fun entry => optionalEntry entry.1 entry.2

theorem topicEntries_eq (library : SnsLibrary) (topic : SnsTopic) :
    topicEntries library topic = setEntries (topicTable library topic) := by
  unfold topicEntries setEntries topicTable
  simp only [List.flatMap_cons, List.flatMap_nil, List.append_nil, List.append_assoc]
  rfl

theorem names_topicTable (library : SnsLibrary) (topic : SnsTopic) :
    (topicTable library topic).map Prod.fst = reportedTopicAttributes := rfl

theorem nodup_reportedTopicAttributes : reportedTopicAttributes.Nodup := by
  decide +kernel

/-- A name that is not in the table is not reported. -/
theorem lookup_setEntries_of_not_mem {table : List (Text × Option Text)} {name : Text}
    (absent : name ∉ table.map Prod.fst) : (setEntries table).lookup name = none := by
  induction table with
  | nil => rfl
  | cons entry table inductionHypothesis =>
      obtain ⟨key, value⟩ := entry
      rw [List.map_cons, List.mem_cons, not_or] at absent
      have later : (setEntries table).lookup name = none := inductionHypothesis absent.2
      cases value with
      | none => exact later
      | some value =>
          show List.lookup name ((key, value) :: setEntries table) = none
          rw [List.lookup_cons, beq_false_of_ne absent.1]
          exact later

/-- What is reported under a name is what the table has under it. -/
theorem lookup_setEntries {table : List (Text × Option Text)}
    (distinct : (table.map Prod.fst).Nodup) {name : Text} {value : Option Text}
    (listed : (name, value) ∈ table) : (setEntries table).lookup name = value := by
  induction table with
  | nil => exact absurd listed List.not_mem_nil
  | cons entry table inductionHypothesis =>
      obtain ⟨key, own⟩ := entry
      rw [List.map_cons, List.nodup_cons] at distinct
      rcases List.mem_cons.mp listed with same | later
      · obtain ⟨rfl, rfl⟩ := Prod.mk.inj same
        cases value with
        | none =>
            show (setEntries table).lookup name = none
            exact lookup_setEntries_of_not_mem distinct.1
        | some value =>
            show List.lookup name ((name, value) :: setEntries table) = some value
            rw [List.lookup_cons, beq_self_eq_true]
      · have different : name ≠ key := by
          rintro rfl
          exact distinct.1 (List.mem_map.mpr ⟨_, later, rfl⟩)
        have rest : (setEntries table).lookup name = value := inductionHypothesis distinct.2 later
        cases own with
        | none => exact rest
        | some own =>
            show List.lookup name ((key, own) :: setEntries table) = value
            rw [List.lookup_cons, beq_false_of_ne different]
            exact rest

/-- **Setting one entry of a table** changes what is reported under its name alone. -/
theorem lookup_setEntries_set {table : List (Text × Option Text)}
    (distinct : (table.map Prod.fst).Nodup) {position : ℕ} {name : Text} {old value : Option Text}
    (listed : table[position]? = some (name, old)) :
    (setEntries (table.set position (name, value))).lookup name = value ∧
      ∀ other, other ≠ name →
        (setEntries (table.set position (name, value))).lookup other =
          (setEntries table).lookup other := by
  have inside : position < table.length := (List.getElem?_eq_some_iff.mp listed).1
  have sameNames : (table.set position (name, value)).map Prod.fst = table.map Prod.fst := by
    rw [List.map_set]
    refine List.ext_getElem? fun index => ?_
    by_cases same : position = index
    · subst same
      rw [List.getElem?_set_self (by simpa using inside), List.getElem?_map, listed]
      rfl
    · rw [List.getElem?_set_ne same]
  have distinct' : ((table.set position (name, value)).map Prod.fst).Nodup :=
    sameNames.symm ▸ distinct
  refine ⟨lookup_setEntries distinct' (List.mem_set inside _), fun other different => ?_⟩
  by_cases known : other ∈ table.map Prod.fst
  · obtain ⟨⟨other, kept⟩, member, rfl⟩ := List.mem_map.mp known
    obtain ⟨index, isAt⟩ := List.getElem?_of_mem member
    have elsewhere : position ≠ index := by
      rintro rfl
      rw [listed] at isAt
      exact different (congrArg Prod.fst (Option.some.inj isAt)).symm
    have still : (other, kept) ∈ table.set position (name, value) := by
      refine List.mem_iff_getElem?.mpr ⟨index, ?_⟩
      rw [List.getElem?_set_ne elsewhere]
      exact isAt
    rw [lookup_setEntries distinct' still, lookup_setEntries distinct member]
  · rw [lookup_setEntries_of_not_mem known, lookup_setEntries_of_not_mem (sameNames ▸ known)]

/-! ### What setting an attribute does to the table -/

/-- The names that the store has columns for. -/
def storedTopicAttributes : List Text :=
  ["DeliveryPolicy", "DisplayName", "Policy", "TracingConfig", "KmsMasterKeyId",
    "SignatureVersion", "FifoTopic", "DataProtectionPolicy", "ArchivePolicy",
    "ContentBasedDeduplication"]

/-- A policy that stands for the default one. -/
def isEmptyPolicy (policy : Text) : Bool :=
  trim policy = [] || trim policy = ("{}" : Text)

/-- What is reported of a stored attribute with this value. -/
def reportedValue (library : SnsLibrary) (topic : SnsTopic) (name value : Text) : Text :=
  if name = ("Policy" : Text) ∧ isEmptyPolicy value then
    defaultTopicPolicy library (topicArn topic.region topic.accountId topic.name) topic.accountId
  else value

/-- The topic after an attribute was set. -/
def SnsTopic.withAttribute (topic : SnsTopic) (name value : Text) : SnsTopic :=
  topic.withColumns (SqliteSns.updatedTopic (.fromAttributeNameAndValue name value) topic.columns)

theorem topicPolicyAttributeValue_eq (library : SnsLibrary) (topic : SnsTopic) (value : Text) :
    topicPolicyAttributeValue library value
        (topicArn topic.region topic.accountId topic.name) topic.accountId =
      reportedValue library topic "Policy" value := by
  unfold topicPolicyAttributeValue reportedValue isEmptyPolicy
  simp

theorem reportedValue_of_ne {library : SnsLibrary} {topic : SnsTopic} {name value : Text}
    (different : name ≠ ("Policy" : Text)) : reportedValue library topic name value = value :=
  if_neg fun both => different both.1

/-- **The cases of the chain of comparisons that picks the column.** -/
theorem SnsTopicAttributeUpdate.cases_name {motive : Text → SnsTopicAttributeUpdate → Prop}
    {value : Text}
    (deliveryPolicy : motive "DeliveryPolicy" { default with deliveryPolicy := some value })
    (displayName : motive "DisplayName" { default with displayName := some value })
    (policy : motive "Policy" { default with policy := some value })
    (tracingConfig : motive "TracingConfig" { default with tracingConfig := some value })
    (kmsMasterKeyId : motive "KmsMasterKeyId" { default with kmsMasterKeyId := some value })
    (signatureVersion : motive "SignatureVersion" { default with signatureVersion := some value })
    (fifoTopic : motive "FifoTopic" { default with fifoTopic := some value })
    (dataProtectionPolicy :
      motive "DataProtectionPolicy" { default with dataProtectionPolicy := some value })
    (archivePolicy : motive "ArchivePolicy" { default with archivePolicy := some value })
    (contentBasedDeduplication :
      motive "ContentBasedDeduplication" { default with contentBasedDeduplication := some value })
    (other : ∀ name, name ∉ storedTopicAttributes → motive name default) (name : Text) :
    motive name (fromAttributeNameAndValue name value) := by
  unfold fromAttributeNameAndValue
  refine iteInduction (fun same => same ▸ deliveryPolicy) fun isDelivery => ?_
  refine iteInduction (fun same => same ▸ displayName) fun isDisplay => ?_
  refine iteInduction (fun same => same ▸ policy) fun isPolicy => ?_
  refine iteInduction (fun same => same ▸ tracingConfig) fun isTracing => ?_
  refine iteInduction (fun same => same ▸ kmsMasterKeyId) fun isKey => ?_
  refine iteInduction (fun same => same ▸ signatureVersion) fun isSignature => ?_
  refine iteInduction (fun same => same ▸ fifoTopic) fun isFifo => ?_
  refine iteInduction (fun same => same ▸ dataProtectionPolicy) fun isProtection => ?_
  refine iteInduction (fun same => same ▸ archivePolicy) fun isArchive => ?_
  refine iteInduction (fun same => same ▸ contentBasedDeduplication) fun isContent => ?_
  refine other name ?_
  unfold storedTopicAttributes
  simp only [List.mem_cons, List.not_mem_nil, or_false, not_or]
  exact ⟨isDelivery, isDisplay, isPolicy, isTracing, isKey, isSignature, isFifo, isProtection,
    isArchive, isContent⟩

/-- An update of a topic sets the entry with this name. -/
def SetsEntry (library : SnsLibrary) (topic : SnsTopic) (value name : Text)
    (update : SnsTopicAttributeUpdate) : Prop :=
  ∃ (position : ℕ) (old : Option Text), (topicTable library topic)[position]? = some (name, old) ∧
    topicTable library (topic.withColumns (SqliteSns.updatedTopic update topic.columns)) =
      (topicTable library topic).set position
        (name, some (reportedValue library topic name value))

/-- **A stored attribute is one entry of the table**, and setting it changes this entry. -/
theorem topicTable_withAttribute (library : SnsLibrary) (topic : SnsTopic) (name value : Text) :
    (name ∈ storedTopicAttributes →
      SetsEntry library topic value name (.fromAttributeNameAndValue name value)) ∧
    (name ∉ storedTopicAttributes →
      topicTable library (topic.withAttribute name value) = topicTable library topic) := by
  let motive (name : Text) (update : SnsTopicAttributeUpdate) : Prop :=
    (name ∈ storedTopicAttributes → SetsEntry library topic value name update) ∧
    (name ∉ storedTopicAttributes →
      topicTable library (topic.withColumns (SqliteSns.updatedTopic update topic.columns)) =
        topicTable library topic)
  have entry {name : Text} {update : SnsTopicAttributeUpdate} (position : ℕ) {old : Option Text}
      (isStored : name ∈ storedTopicAttributes) (different : name ≠ ("Policy" : Text))
      (listed : (topicTable library topic)[position]? = some (name, old))
      (sets : topicTable library (topic.withColumns
        (SqliteSns.updatedTopic update topic.columns)) =
          (topicTable library topic).set position (name, some value)) : motive name update := by
    refine ⟨fun _ => ⟨position, old, listed, ?_⟩, fun absent => absurd isStored absent⟩
    rw [reportedValue_of_ne different]
    exact sets
  refine @SnsTopicAttributeUpdate.cases_name motive value ?_ ?_ ?_ ?_ ?_ ?_ ?_ ?_ ?_ ?_ ?_ name
  · exact entry 4 (by decide +kernel) (by decide +kernel) rfl rfl
  · exact entry 3 (by decide +kernel) (by decide +kernel) rfl rfl
  · refine ⟨fun _ => ⟨2, _, rfl, ?_⟩, fun absent => absurd (by decide +kernel) absent⟩
    rw [← topicPolicyAttributeValue_eq]
    rfl
  · exact entry 8 (by decide +kernel) (by decide +kernel) rfl rfl
  · exact entry 9 (by decide +kernel) (by decide +kernel) rfl rfl
  · exact entry 7 (by decide +kernel) (by decide +kernel) rfl rfl
  · exact entry 5 (by decide +kernel) (by decide +kernel) rfl rfl
  · exact entry 10 (by decide +kernel) (by decide +kernel) rfl rfl
  · exact entry 11 (by decide +kernel) (by decide +kernel) rfl rfl
  · exact entry 6 (by decide +kernel) (by decide +kernel) rfl rfl
  · rintro name absent
    exact ⟨fun isStored => absurd isStored absent, fun _ => rfl⟩

/-! ### Reading back -/

/-- What is reported of a topic. -/
def Reported (library : SnsLibrary) (asks : ResolvedRequest) (arn : Text)
    (database : SnsDatabase) (entries : List (Text × Text)) : Prop :=
  Succeeds SqliteSns.serve (handleGetTopicAttributes library asks ⟨arn⟩) database
    ⟨entries, asks.requestId⟩ database

/-- **What is reported before and after an attribute was set**: the value that is expected
for it, and of every other attribute what was reported before. -/
def SetAndRead (library : SnsLibrary) (asks : ResolvedRequest)
    (requestBody : SetTopicAttributesRequest) (database final : SnsDatabase)
    (expected : Option Text → Option Text) : Prop :=
  ∃ before after, Reported library asks requestBody.topicArn database before ∧
    Reported library asks requestBody.topicArn final after ∧
    after.lookup requestBody.attributeName = expected (before.lookup requestBody.attributeName) ∧
    ∀ other, other ≠ requestBody.attributeName → after.lookup other = before.lookup other

/-- What is reported of an attribute after it was set: a stored one is reported as it was
given, but for an empty policy, and any other as before. -/
def readBack (library : SnsLibrary) (topic : SnsTopic) (requestBody : SetTopicAttributesRequest)
    (before : Option Text) : Option Text :=
  if storedTopicAttributes.contains requestBody.attributeName then
    some (reportedValue library topic requestBody.attributeName requestBody.attributeValue)
  else before

variable {library : SnsLibrary} {request asks : ResolvedRequest}
  {requestBody : SetTopicAttributesRequest} {response : Text} {database final : SnsDatabase}

theorem reported_iff {arn : Text} {topic : SnsTopic} {entries : List (Text × Text)}
    (found : database.topicOfArn arn = some topic) :
    Reported library asks arn database entries ↔ topicEntries library topic = entries := by
  unfold Reported handleGetTopicAttributes
  rw [succeeds_bind]
  constructor
  · rintro ⟨other, _, loads, answers⟩
    obtain ⟨isOther, rfl⟩ := succeeds_loadTopic.mp loads
    obtain rfl := Option.some.inj (found.symm.trans isOther)
    obtain ⟨same, -⟩ := succeeds_pure.mp answers
    exact congrArg AttributesResponse.entries same
  · rintro rfl
    exact ⟨topic, database, succeeds_loadTopic.mpr ⟨found, rfl⟩, succeeds_pure.mpr ⟨rfl, rfl⟩⟩

/-- **An attribute that was set is read back** when the store has a column for it, an empty
policy as the default policy of the topic.  An attribute without a column changes nothing,
and every other attribute is reported as before. -/
theorem topicAttributes_read_back (succeeds : Succeeds SqliteSns.serve
      (handleSetTopicAttributes request requestBody) database response final) :
    ∃ topic, database.topicOfArn requestBody.topicArn = some topic ∧
      SetAndRead library asks requestBody database final
        (readBack library topic requestBody) := by
  obtain ⟨-, topicId, topic, -, found, rfl⟩ := succeeds_handleSetTopicAttributes.mp succeeds
  refine ⟨topic, found, _, _, (reported_iff found).mpr rfl,
    (reported_iff (topicOfArn_updateTopic found)).mpr rfl, ?_⟩
  obtain ⟨sets, keeps⟩ := topicTable_withAttribute library topic requestBody.attributeName
    requestBody.attributeValue
  unfold readBack
  rw [topicEntries_eq, topicEntries_eq]
  by_cases isStored : requestBody.attributeName ∈ storedTopicAttributes
  · obtain ⟨position, old, listed, sets⟩ := sets isStored
    rw [if_pos (List.contains_iff_mem.mpr isStored), sets]
    exact lookup_setEntries_set (names_topicTable library topic ▸ nodup_reportedTopicAttributes)
      listed
  · rw [if_neg fun listed => isStored (List.contains_iff_mem.mp listed)]
    have same := keeps isStored
    unfold SnsTopic.withAttribute at same
    rw [same]
    exact ⟨rfl, fun _ _ => rfl⟩

/-! ### A role for feedback -/

/-- A request to set this attribute. -/
def setAttributeRequest (name value : Text) : SetTopicAttributesRequest where
  topicArn := ordersTopicArn
  attributeName := name
  attributeValue := value

theorem succeeds_setAttributeRequest (policy name value : Text) :
    Succeeds SqliteSns.serve (handleSetTopicAttributes (userRequest 0 [])
      (setAttributeRequest name value)) (topicStore policy) (userRequest 0 []).requestId
      ((topicStore policy).updateTopic 1 (SqliteSns.updatedTopic
        (.fromAttributeNameAndValue name value) (ordersTopic policy).columns)).2 :=
  succeeds_handleSetTopicAttributes.mpr ⟨rfl, _, _, parseSnsTopicArn_ordersTopicArn,
    topicOfArn_topicStore policy, rfl⟩

/-- A display name is read back. -/
theorem topicAttributes_read_back_displayName :
    ∃ topic, (topicStore "{}").topicOfArn ordersTopicArn = some topic ∧
      SetAndRead sampleSnsLibrary (userRequest 0 [])
        (setAttributeRequest "DisplayName" "Orders") (topicStore "{}")
        ((topicStore "{}").updateTopic 1 (SqliteSns.updatedTopic
          (.fromAttributeNameAndValue "DisplayName" "Orders") (ordersTopic "{}").columns)).2
        (readBack sampleSnsLibrary topic (setAttributeRequest "DisplayName" "Orders")) :=
  topicAttributes_read_back (succeeds_setAttributeRequest "{}" "DisplayName" "Orders")

/-- **A role for feedback is accepted and not read back.** -/
theorem feedbackRole_not_read_back :
    ∃ final, Succeeds SqliteSns.serve ((setTopicAttributesAction sampleSnsLibrary).validate
        (userRequest 0 []) (setAttributeRequest "HTTPSuccessFeedbackRoleArn" "feedback"))
        (topicStore "{}") () (topicStore "{}") ∧
      Succeeds SqliteSns.serve (handleSetTopicAttributes (userRequest 0 [])
        (setAttributeRequest "HTTPSuccessFeedbackRoleArn" "feedback")) (topicStore "{}")
        (userRequest 0 []).requestId final ∧
      ¬ SetAndRead sampleSnsLibrary (userRequest 0 [])
        (setAttributeRequest "HTTPSuccessFeedbackRoleArn" "feedback") (topicStore "{}") final
        fun _ => some "feedback" := by
  refine ⟨_, ?_, succeeds_setAttributeRequest _ _ _, ?_⟩
  · refine succeeds_validateSetTopicAttributes.mpr ⟨⟨?_, ?_, ?_, ?_⟩, rfl⟩ <;> decide +kernel
  · rintro ⟨before, after, -, reported, same, -⟩
    obtain rfl := (reported_iff (topicOfArn_updateTopic (topicOfArn_topicStore "{}"))).mp reported
    rw [topicEntries_eq, lookup_setEntries_of_not_mem (by decide +kernel)] at same
    cases same

end Hiraeth
