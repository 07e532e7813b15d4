import Hiraeth.Core.Statements
import Hiraeth.Lib.WholeRows
import Hiraeth.Sns.TopicAttributes

/-!
# Attributes that are set at the same time

An attribute of a topic or of a subscription is set in two statements: the row is read, and
then written as a whole.  When another request writes the row in between, what it has set is
overwritten.  When no row is written that has changed since it was read, no attribute is
lost.

## Main definitions

* `topicAttribute`, `subscriptionAttribute` — the value that the store has for a name
* `TopicChanges`, `SubscriptionChanges` — requests that set different attributes
* `topicAccess`, `subscriptionAccess` — how their statements access the row

## Main results

* `attributes_kept` — no attribute is lost if every row is written as it was read
* `displayName_overwritten` — a run in which an attribute is lost
-/

namespace Hiraeth

open Interaction Program

/-! ### Attributes -/

/-- The columns of a topic that attributes stand for. -/
def attributeColumns (topic : SnsTopic) : List (Text × Option Text) :=
  [("DisplayName", topic.displayName), ("Policy", some topic.policy),
    ("DeliveryPolicy", topic.deliveryPolicy), ("FifoTopic", topic.fifoTopic),
    ("ContentBasedDeduplication", topic.contentBasedDeduplication),
    ("SignatureVersion", topic.signatureVersion), ("TracingConfig", topic.tracingConfig),
    ("KmsMasterKeyId", topic.kmsMasterKeyId),
    ("DataProtectionPolicy", topic.dataProtectionPolicy),
    ("ArchivePolicy", topic.archivePolicy),
    ("BeginningArchiveTime", topic.beginningArchiveTime)]

/-- The value that the store has for an attribute of a topic. -/
def topicAttribute (name : Text) (row : Option SnsTopic) : Option Text :=
  row.bind fun topic => (setEntries (attributeColumns topic)).lookup name

/-- The columns of a subscription that attributes stand for. -/
def subscriptionAttributeColumns (subscription : SnsSubscription) : List (Text × Option Text) :=
  [("DeliveryPolicy", subscription.deliveryPolicy), ("FilterPolicy", subscription.filterPolicy),
    ("FilterPolicyScope", subscription.filterPolicyScope),
    ("RawMessageDelivery", subscription.rawMessageDelivery),
    ("RedrivePolicy", subscription.redrivePolicy),
    ("SubscriptionRoleArn", subscription.subscriptionRoleArn),
    ("ReplayPolicy", subscription.replayPolicy)]

/-- The value that the store has for an attribute of a subscription. -/
def subscriptionAttribute (name : Text) (row : Option SnsSubscription) : Option Text :=
  row.bind fun subscription =>
    (setEntries (subscriptionAttributeColumns subscription)).lookup name

/-- One entry of a table is set. -/
def IsSetIn (table table' : List (Text × Option Text)) (name value : Text) : Prop :=
  ∃ (position : ℕ) (old : Option Text),
    table[position]? = some (name, old) ∧ table' = table.set position (name, some value)

/-- **The column of an attribute is set**, and the others are left alone. -/
theorem isSetIn_attributeColumns (topic : SnsTopic) {name value : Text}
    (isStored : name ∈ storedTopicAttributes) :
    IsSetIn (attributeColumns topic) (attributeColumns (topic.withAttribute name value)) name
      value := by
  let motive (name : Text) (update : SnsTopicAttributeUpdate) : Prop :=
    name ∈ storedTopicAttributes →
      IsSetIn (attributeColumns topic) (attributeColumns (topic.withColumns
        (SqliteSns.updatedTopic update topic.columns))) name value
  refine @SnsTopicAttributeUpdate.cases_name motive value ?_ ?_ ?_ ?_ ?_ ?_ ?_ ?_ ?_ ?_ ?_ name
    isStored
  · exact fun _ => ⟨2, _, rfl, rfl⟩
  · exact fun _ => ⟨0, _, rfl, rfl⟩
  · exact fun _ => ⟨1, _, rfl, rfl⟩
  · exact fun _ => ⟨6, _, rfl, rfl⟩
  · exact fun _ => ⟨7, _, rfl, rfl⟩
  · exact fun _ => ⟨5, _, rfl, rfl⟩
  · exact fun _ => ⟨3, _, rfl, rfl⟩
  · exact fun _ => ⟨8, _, rfl, rfl⟩
  · exact fun _ => ⟨9, _, rfl, rfl⟩
  · exact fun _ => ⟨4, _, rfl, rfl⟩
  · exact fun name absent isStored => absurd isStored absent

/-- The subscription after an attribute was set. -/
def SnsSubscription.withAttribute (subscription : SnsSubscription) (name value : Text) :
    SnsSubscription :=
  subscription.withColumns (SqliteSns.updatedSubscription
    (.fromAttributeNameAndValue name value) subscription.columns)

/-- **The cases of the chain of comparisons that picks the column.** -/
theorem SnsSubscriptionAttributeUpdate.cases_name
    {motive : Text → SnsSubscriptionAttributeUpdate → Prop} {value : Text}
    (deliveryPolicy : motive "DeliveryPolicy" { default with deliveryPolicy := some value })
    (filterPolicy : motive "FilterPolicy" { default with filterPolicy := some value })
    (filterPolicyScope :
      motive "FilterPolicyScope" { default with filterPolicyScope := some value })
    (rawMessageDelivery :
      motive "RawMessageDelivery" { default with rawMessageDelivery := some value })
    (redrivePolicy : motive "RedrivePolicy" { default with redrivePolicy := some value })
    (subscriptionRoleArn :
      motive "SubscriptionRoleArn" { default with subscriptionRoleArn := some value })
    (replayPolicy : motive "ReplayPolicy" { default with replayPolicy := some value })
    (other : ∀ name, name ∉ validSubscriptionAttributes → motive name default) (name : Text) :
    motive name (fromAttributeNameAndValue name value) := by
  unfold fromAttributeNameAndValue
  refine iteInduction (fun same => same ▸ deliveryPolicy) fun isDelivery => ?_
  refine iteInduction (fun same => same ▸ filterPolicy) fun isFilter => ?_
  refine iteInduction (fun same => same ▸ filterPolicyScope) fun isScope => ?_
  refine iteInduction (fun same => same ▸ rawMessageDelivery) fun isRaw => ?_
  refine iteInduction (fun same => same ▸ redrivePolicy) fun isRedrive => ?_
  refine iteInduction (fun same => same ▸ subscriptionRoleArn) fun isRole => ?_
  refine iteInduction (fun same => same ▸ replayPolicy) fun isReplay => ?_
  refine other name ?_
  unfold validSubscriptionAttributes
  simp only [List.mem_cons, List.not_mem_nil, or_false, not_or]
  exact ⟨isDelivery, isFilter, isScope, isRaw, isRedrive, isRole, isReplay⟩

/-- **The column of an attribute is set**, and the others are left alone. -/
theorem isSetIn_subscriptionAttributeColumns (subscription : SnsSubscription) {name value : Text}
    (isValid : name ∈ validSubscriptionAttributes) :
    IsSetIn (subscriptionAttributeColumns subscription)
      (subscriptionAttributeColumns (subscription.withAttribute name value)) name value := by
  let motive (name : Text) (update : SnsSubscriptionAttributeUpdate) : Prop :=
    name ∈ validSubscriptionAttributes →
      IsSetIn (subscriptionAttributeColumns subscription)
        (subscriptionAttributeColumns (subscription.withColumns
          (SqliteSns.updatedSubscription update subscription.columns))) name value
  refine @SnsSubscriptionAttributeUpdate.cases_name motive value ?_ ?_ ?_ ?_ ?_ ?_ ?_ ?_ name
    isValid
  · exact fun _ => ⟨0, _, rfl, rfl⟩
  · exact fun _ => ⟨1, _, rfl, rfl⟩
  · exact fun _ => ⟨2, _, rfl, rfl⟩
  · exact fun _ => ⟨3, _, rfl, rfl⟩
  · exact fun _ => ⟨4, _, rfl, rfl⟩
  · exact fun _ => ⟨5, _, rfl, rfl⟩
  · exact fun _ => ⟨6, _, rfl, rfl⟩
  · exact fun name absent isValid => absurd isValid absent

/-! ### Rows -/

theorem setsField_topicAttribute {topic : SnsTopic} {name value : Text}
    (isStored : name ∈ storedTopicAttributes) :
    SetsField topicAttribute name (some value) (some topic)
      (some (topic.withAttribute name value)) := by
  obtain ⟨position, old, listed, sets⟩ := @isSetIn_attributeColumns topic name value isStored
  have distinct : ((attributeColumns topic).map Prod.fst).Nodup :=
    (by decide +kernel : (["DisplayName", "Policy", "DeliveryPolicy", "FifoTopic",
      "ContentBasedDeduplication", "SignatureVersion", "TracingConfig", "KmsMasterKeyId",
      "DataProtectionPolicy", "ArchivePolicy", "BeginningArchiveTime"] : List Text).Nodup)
  unfold SetsField topicAttribute
  dsimp only [Option.bind_some]
  rw [sets]
  exact lookup_setEntries_set distinct listed

theorem setsField_subscriptionAttribute {subscription : SnsSubscription} {name value : Text}
    (isValid : name ∈ validSubscriptionAttributes) :
    SetsField subscriptionAttribute name (some value) (some subscription)
      (some (subscription.withAttribute name value)) := by
  obtain ⟨position, old, listed, sets⟩ :=
    @isSetIn_subscriptionAttributeColumns subscription name value isValid
  have distinct : ((subscriptionAttributeColumns subscription).map Prod.fst).Nodup :=
    (by decide +kernel : (["DeliveryPolicy", "FilterPolicy", "FilterPolicyScope",
      "RawMessageDelivery", "RedrivePolicy", "SubscriptionRoleArn", "ReplayPolicy"] :
        List Text).Nodup)
  unfold SetsField subscriptionAttribute
  dsimp only [Option.bind_some]
  rw [sets]
  exact lookup_setEntries_set distinct listed

/-- A statement that only reads. -/
def SnsStatement.IsSelect : SnsStatement → Prop
  | .selectTopic .. | .selectTopicById _ | .selectTopics .. | .selectSubscription _
  | .selectSubscriptionById _ | .selectSubscriptions .. | .selectSubscriptionsOfTopic _
  | .selectTags _ => True
  | _ => False

theorem SnsDatabase.serve_select {statement : SnsStatement} (isSelect : statement.IsSelect)
    (database : SnsDatabase) : (serve statement database).2 = database := by
  cases statement <;> first | rfl | exact isSelect.elim

/-- **How the row of a topic is accessed**: it is found by the parts of its ARN, and written by
its number. -/
def topicAccess (topicId : TopicId) : RowAccess snsStatements SnsDatabase (Option SnsTopic) where
  row database := database.selectTopic topicId.name topicId.region topicId.accountId
  finds
    | ⟨.selectTopic name region accountId, answer⟩ =>
        if name = topicId.name ∧ region = topicId.region ∧ accountId = topicId.accountId then
          answer.toOption
        else none
    | _ => none
  writes
    | .updateTopic id columns => some (Option.map fun topic =>
        if topic.id = id then topic.withColumns columns else topic)
    | _ => none

/-- **How the row of a subscription is accessed.** -/
def subscriptionAccess (subscriptionArn : Text) :
    RowAccess snsStatements SnsDatabase (Option SnsSubscription) where
  row database := database.selectSubscription subscriptionArn
  finds
    | ⟨.selectSubscription arn, answer⟩ =>
        if arn = subscriptionArn then answer.toOption else none
    | _ => none
  writes
    | .updateSubscription id columns => some (Option.map fun subscription =>
        if subscription.id = id then subscription.withColumns columns else subscription)
    | _ => none

/-- What a write of the row makes of it. -/
theorem row_updateTopic {topicId : TopicId} (id : RowId) (columns : TopicColumns)
    (database : SnsDatabase) :
    (topicAccess topicId).row (database.updateTopic id columns).2 =
      ((topicAccess topicId).row database).map fun topic =>
        if topic.id = id then topic.withColumns columns else topic := by
  let change (topic : SnsTopic) : SnsTopic :=
    if topic.id = id then topic.withColumns columns else topic
  have sameParts : SnsDatabase.isTopic topicId.name topicId.region topicId.accountId ∘ change =
      SnsDatabase.isTopic topicId.name topicId.region topicId.accountId := by
    funext topic
    show SnsDatabase.isTopic _ _ _ (change topic) = _
    unfold change
    split <;> rfl
  show (database.topics.rows.map change).find? _ = _
  rw [List.find?_map, sameParts]
  rfl

theorem row_updateSubscription {subscriptionArn : Text} (id : RowId)
    (columns : SubscriptionColumns) (database : SnsDatabase) :
    (subscriptionAccess subscriptionArn).row (database.updateSubscription id columns).2 =
      ((subscriptionAccess subscriptionArn).row database).map fun subscription =>
        if subscription.id = id then subscription.withColumns columns else subscription := by
  let change (subscription : SnsSubscription) : SnsSubscription :=
    if subscription.id = id then subscription.withColumns columns else subscription
  have sameArn : (fun subscription : SnsSubscription =>
      decide (subscription.subscriptionArn = subscriptionArn)) ∘ change =
      fun subscription => decide (subscription.subscriptionArn = subscriptionArn) := by
    funext subscription
    show decide ((change subscription).subscriptionArn = subscriptionArn) = _
    unfold change
    split <;> rfl
  show (database.subscriptions.rows.map change).find? _ = _
  rw [List.find?_map, sameArn]
  rfl

/-! ### Requests -/

section Requests

variable {ι : Type}

/-- **Requests that set different attributes of one topic.**  The store has a column for each
of them. -/
structure TopicChanges (library : SnsLibrary) (ι : Type) where
  decision : ι → AuthorizationCheck → AuthorizationResult
  requests : ι → ResolvedRequest
  payload : ι → SetTopicAttributesRequest
  topicId : TopicId
  accepted : ∀ thread, (setTopicAttributesAction library).Accepts (requests thread)
    (payload thread)
  named : ∀ thread, parseSnsTopicArn (payload thread).topicArn = some topicId
  distinct : Function.Injective fun thread => (payload thread).attributeName
  stored : ∀ thread, (payload thread).attributeName ∈ storedTopicAttributes

/-- The statements of each request. -/
def TopicChanges.threads {library : SnsLibrary} (changes : TopicChanges library ι) (thread : ι) :
    SnsSqlProgram (Routed SnsError Text) :=
  ((setTopicAttributesAction library).route
    (fun _ check => return changes.decision thread check) (changes.requests thread)).refine
      SqliteSns.perform

/-- **Requests that set different attributes of one subscription.** -/
structure SubscriptionChanges (library : SnsLibrary) (ι : Type) where
  decision : ι → AuthorizationCheck → AuthorizationResult
  requests : ι → ResolvedRequest
  payload : ι → SetSubscriptionAttributesRequest
  subscriptionArn : Text
  accepted : ∀ thread, (setSubscriptionAttributesAction library).Accepts (requests thread)
    (payload thread)
  named : ∀ thread, (payload thread).subscriptionArn = subscriptionArn
  distinct : Function.Injective fun thread => (payload thread).attributeName

/-- The statements of each request. -/
def SubscriptionChanges.threads {library : SnsLibrary} (changes : SubscriptionChanges library ι)
    (thread : ι) : SnsSqlProgram (Routed SnsError Text) :=
  ((setSubscriptionAttributesAction library).route
    (fun _ check => return changes.decision thread check) (changes.requests thread)).refine
      SqliteSns.perform

end Requests

/-- The calls that read are programs of statements that read. -/
theorem allCalls_perform_of_isRead {call : SnsCall} (isRead : call.IsRead) :
    @AllCalls snsStatements _ SnsStatement.IsSelect (SqliteSns.perform call) := by
  have single (statement : SnsStatement) (isSelect : statement.IsSelect) :
      @AllCalls snsStatements _ SnsStatement.IsSelect (snsStatement statement) :=
    allCalls_perform.mpr isSelect
  have selects (name region accountId : Text) :
      (SnsStatement.selectTopic name region accountId).IsSelect := trivial
  cases call with
  | getTopic arn => exact SqliteSns.allCalls_getTopic selects
  | getTopicById id => exact single (.selectTopicById _) trivial
  | listTopics region accountId start limit => exact single (.selectTopics ..) trivial
  | getSubscription arn => exact single (.selectSubscription _) trivial
  | getSubscriptionById id => exact single (.selectSubscriptionById _) trivial
  | listSubscriptions region accountId limit => exact single (.selectSubscriptions ..) trivial
  | listSubscriptionsByTopic arn => exact single (.selectSubscriptionsOfTopic _) trivial
  | listTopicTags arn =>
      exact (SqliteSns.onlyCalls_requireTopic selects).bind fun topic =>
        SqliteSns.onlyCalls_execute (single (.selectTags _) trivial)
  | createTopic | deleteTopic | createSubscription | deleteSubscription
  | deleteSubscriptionById | setSubscriptionAttributes | setTopicAttributes | tagTopic
  | untagTopic => exact isRead.elim

/-! ### What the statements of a request may do -/

/-- **The steps before the handler read**, and leave the row unwritten. -/
theorem obeys_of_onlyReads {R α : Type} {access : RowAccess snsStatements SnsDatabase R}
    {sets : R → R → Prop} {program : SnsProgram α} {known : RowKnown R}
    (selects : ∀ statement, SnsStatement.IsSelect statement → access.writes statement = none)
    (reads : @AllCalls snsStore _ SnsCall.IsRead program) (unwritten : known.wrote = false) :
    (program.refine SqliteSns.perform).Obeys (access.discipline SnsStatement.IsSelect sets)
      (fun _ after => after.wrote = false) known := by
  have every : @AllCalls snsStatements _ (fun statement =>
      SnsStatement.IsSelect statement ∧ access.writes statement = none)
      (program.refine SqliteSns.perform) :=
    reads.refine fun call isRead => (allCalls_perform_of_isRead isRead).mono
      fun statement isSelect => ⟨isSelect, selects statement isSelect⟩
  exact (access.obeys_of_allCalls every known).mono fun _ after same => same.trans unwritten

theorem topicAccess_selects {topicId : TopicId} (statement : SnsStatement)
    (isSelect : statement.IsSelect) : (topicAccess topicId).writes statement = none := by
  cases statement <;> first | rfl | exact isSelect.elim

theorem subscriptionAccess_selects {subscriptionArn : Text} (statement : SnsStatement)
    (isSelect : statement.IsSelect) :
    (subscriptionAccess subscriptionArn).writes statement = none := by
  cases statement <;> first | rfl | exact isSelect.elim

/-- **The statements that set an attribute of a topic**: the row is found, and what is written
is what was found with the attribute set. -/
theorem obeys_setTopicAttributes {topicId : TopicId} {name value : Text}
    (plain : ':' ∉ topicId.region ∧ ':' ∉ topicId.accountId ∧ ':' ∉ topicId.name)
    (isStored : name ∈ storedTopicAttributes) {known : RowKnown (Option SnsTopic)}
    (unwritten : known.wrote = false) :
    (SqliteSns.perform (.setTopicAttributes topicId.accountId topicId.region topicId.name
      (.fromAttributeNameAndValue name value))).Obeys
        ((topicAccess topicId).discipline SnsStatement.IsSelect
          (SetsField topicAttribute name (some value)))
        (fun outcome after => outcome = .ok () → after.wrote = true) known := by
  show (SqliteSns.setTopicAttributes _ _ _ _).run.Obeys _ _ known
  unfold SqliteSns.setTopicAttributes SqliteSns.requireTopic SqliteSns.getTopic
  rw [SnsDatabase.splitOn_topicArn plain.1 plain.2.1 plain.2.2]
  refine ⟨.inl ⟨trivial, rfl⟩, fun answer => ?_⟩
  rcases answer with failure | _ | topic
  · exact nofun
  · exact nofun
  refine ⟨.inr ⟨(Bool.or_false _).trans unwritten, _, some topic, rfl, ?_, ?_⟩, fun answer => ?_⟩
  · show (if _ then _ else none : Option (Option SnsTopic)).or known.found = _
    rw [if_pos ⟨rfl, rfl, rfl⟩]
    rfl
  · show SetsField _ _ _ (some topic) (some (if topic.id = topic.id then _ else topic))
    rw [if_pos rfl]
    exact setsField_topicAttribute isStored
  · cases answer with
    | error failure => exact nofun
    | ok affected => exact fun _ => Bool.or_true _

/-- **The statements that set an attribute of a subscription.** -/
theorem obeys_setSubscriptionAttributes {subscriptionArn name value : Text}
    (isValid : name ∈ validSubscriptionAttributes) {known : RowKnown (Option SnsSubscription)}
    (unwritten : known.wrote = false) :
    (SqliteSns.perform (.setSubscriptionAttributes subscriptionArn
      (.fromAttributeNameAndValue name value))).Obeys
        ((subscriptionAccess subscriptionArn).discipline SnsStatement.IsSelect
          (SetsField subscriptionAttribute name (some value)))
        (fun outcome after => outcome = .ok () → after.wrote = true) known := by
  show (SqliteSns.setSubscriptionAttributes _ _).run.Obeys _ _ known
  unfold SqliteSns.setSubscriptionAttributes
  refine ⟨.inl ⟨trivial, rfl⟩, fun answer => ?_⟩
  rcases answer with failure | _ | subscription
  · exact nofun
  · exact nofun
  refine ⟨.inr ⟨(Bool.or_false _).trans unwritten, _, some subscription, rfl, ?_, ?_⟩, fun answer => ?_⟩
  · show (if _ then _ else none : Option (Option SnsSubscription)).or known.found = _
    rw [if_pos rfl]
    rfl
  · show SetsField _ _ _ (some subscription)
      (some (if subscription.id = subscription.id then _ else subscription))
    rw [if_pos rfl]
    exact setsField_subscriptionAttribute isValid
  · cases answer with
    | error failure => exact nofun
    | ok affected => exact fun _ => Bool.or_true _

theorem refine_snsCall (call : SnsCall) :
    (snsCall call).refine SqliteSns.perform = SqliteSns.perform call :=
  @refine_perform snsStore snsStatements SqliteSns.perform call

/-- **A request that writes in its handler only.** -/
theorem obeys_writingRoute {R Request Response : Type}
    {action : TypedAwsAction snsStore SnsError Request Response}
    {access : RowAccess snsStatements SnsDatabase R} {sets : R → R → Prop}
    {decision : AuthorizationCheck → AuthorizationResult} {request : ResolvedRequest}
    {payload : Request}
    (selects : ∀ statement, SnsStatement.IsSelect statement → access.writes statement = none)
    (resolves : @OnlyCalls snsStore _ _ SnsCall.IsRead (action.adaptedResolveAuthorization request))
    (validates : @OnlyCalls snsStore _ _ SnsCall.IsRead (action.adaptedValidate request))
    (parsed : action.parse request.request = .ok payload)
    (handles : ∀ known : RowKnown R, known.wrote = false →
      ((action.handle request payload).run.refine SqliteSns.perform).Obeys
        (access.discipline SnsStatement.IsSelect sets)
        (fun outcome after => ∀ response, outcome = .ok response → after.wrote = true) known) :
    ((action.route (fun _ check => return decision check) request).refine
      SqliteSns.perform).Obeys (access.discipline SnsStatement.IsSelect sets)
        (fun outcome after => ∀ response, outcome = .answered response → after.wrote = true)
        ⟨none, false⟩ := by
  let unwritten (known : RowKnown R) : Prop := known.wrote = false
  let written (_ : Response) (after : RowKnown R) : Prop := after.wrote = true
  refine @TypedAwsAction.obeys_refine_route _ _ _ _ _ _ action _ _ _ _ unwritten written ?_ ?_ ?_
    ?_ _ rfl
  · exact fun known before => obeys_of_onlyReads selects resolves before
  · exact fun check known before => before
  · exact fun known before => obeys_of_onlyReads selects validates before
  · intro known before
    have handled : action.adaptedHandle request = action.handle request payload := by
      unfold TypedAwsAction.adaptedHandle
      rw [parsed, liftExcept_ok_bind]
    rw [handled]
    exact handles known before

section Runs

variable {ι : Type} {library : SnsLibrary}

/-- What is drawn for these requests does not matter. -/
def emptyGenerated : SnsGenerated where
  now := 0
  subscriptionId := []
  messageId := []
  deliveries := fun _ => ⟨0, 0, []⟩

/-- **Each request obeys**: it writes the row at most once, with its own attribute set, and has
written it when it is answered. -/
theorem TopicChanges.obeys (changes : TopicChanges library ι) (thread : ι) :
    (changes.threads thread).Obeys
      ((topicAccess changes.topicId).discipline SnsStatement.IsSelect
        (SetsField topicAttribute (changes.payload thread).attributeName
          (some (changes.payload thread).attributeValue)))
      (fun outcome after => ∀ response, outcome = .answered response → after.wrote = true)
      ⟨none, false⟩ := by
  refine obeys_writingRoute topicAccess_selects
    (@onlyReads_adaptedResolveAuthorization library emptyGenerated _ .setTopicAttributes)
    (@onlyCalls_adaptedValidate library emptyGenerated _ _ .setTopicAttributes)
    (changes.accepted thread).1 fun known unwritten => ?_
  have named := changes.named thread
  show ((handleSetTopicAttributes _ _).run.refine SqliteSns.perform).Obeys _ _ known
  unfold handleSetTopicAttributes
  rw [named]
  refine Obeys.refine_orFail_bind ?_
  rw [refine_snsCall]
  refine (obeys_setTopicAttributes (parseSnsTopicArn_eq_some named).2 (changes.stored thread)
    unwritten).mono fun outcome after wrote => ⟨fun _ _ => nofun, ?_⟩
  rintro ⟨⟩ answered response -
  exact wrote answered

/-- An attribute that was accepted is one that the store has a column for. -/
theorem SubscriptionChanges.valid (changes : SubscriptionChanges library ι) (thread : ι) :
    (changes.payload thread).attributeName ∈ validSubscriptionAttributes := by
  obtain ⟨-, events, completes⟩ := changes.accepted thread
  unfold setSubscriptionAttributesAction at completes
  dsimp only at completes
  obtain ⟨_, _, _, -, -, completes⟩ := completes_bind.mp completes
  split_ifs at completes with unnamed
  · obtain ⟨_, _, _, -, thrown, -⟩ := completes_bind.mp completes
    exact absurd thrown not_completes_throw
  · obtain ⟨-, checked⟩ := completes_liftExcept.mp completes
    by_contra isUnknown
    have isInvalid : ¬ isValidSubscriptionAttribute (changes.payload thread).attributeName :=
      fun isValid => isUnknown (List.contains_iff_mem.mp isValid)
    rw [validateSubscriptionAttribute, if_neg isInvalid] at checked
    cases checked

/-- **Each request obeys.** -/
theorem SubscriptionChanges.obeys (changes : SubscriptionChanges library ι) (thread : ι) :
    (changes.threads thread).Obeys
      ((subscriptionAccess changes.subscriptionArn).discipline SnsStatement.IsSelect
        (SetsField subscriptionAttribute (changes.payload thread).attributeName
          (some (changes.payload thread).attributeValue)))
      (fun outcome after => ∀ response, outcome = .answered response → after.wrote = true)
      ⟨none, false⟩ := by
  refine obeys_writingRoute subscriptionAccess_selects
    (@onlyReads_adaptedResolveAuthorization library emptyGenerated _ .setSubscriptionAttributes)
    (@onlyCalls_adaptedValidate library emptyGenerated _ _ .setSubscriptionAttributes)
    (changes.accepted thread).1 fun known unwritten => ?_
  show ((handleSetSubscriptionAttributes _ _).run.refine SqliteSns.perform).Obeys _ _ known
  unfold handleSetSubscriptionAttributes
  rw [changes.named thread]
  refine Obeys.refine_orFail_bind ?_
  rw [refine_snsCall]
  refine (obeys_setSubscriptionAttributes (changes.valid thread) unwritten).mono
    fun outcome after wrote => ⟨fun _ _ => nofun, ?_⟩
  rintro ⟨⟩ answered response -
  exact wrote answered

/-! ### Runs -/

variable [DecidableEq ι]

/-- The requests before any of them has begun. -/
def beginning (threads : ι → SnsSqlProgram (Routed SnsError Text)) (database : SnsDatabase) :
    Config snsStatements (Routed SnsError Text) ι SnsDatabase where
  shared := database
  threads := threads
  log := []

/-- All requests were answered. -/
def AllAnswered (config : Config snsStatements (Routed SnsError Text) ι SnsDatabase) : Prop :=
  ∀ thread, ∃ response, config.threads thread = .done (.answered response)

/-- The fields that were set are set when all requests were answered. -/
theorem carries_of_allAnswered {R N V : Type} {access : RowAccess snsStatements SnsDatabase R}
    {field : N → R → V} {names : ι → N} {values : ι → V}
    {threads : ι → SnsSqlProgram (Routed SnsError Text)} {database : SnsDatabase}
    {config : Config snsStatements (Routed SnsError Text) ι SnsDatabase}
    (distinct : Function.Injective names)
    (changes : ∀ statement change database, access.writes statement = some change →
      access.row (SnsDatabase.serve statement database).2 = change (access.row database))
    (obeys : ∀ thread, (threads thread).Obeys
      (access.discipline SnsStatement.IsSelect (SetsField field (names thread) (values thread)))
      (fun outcome after => ∀ response, outcome = .answered response → after.wrote = true)
      ⟨none, false⟩)
    (reachable : Reachable SnsDatabase.serve access.AsRead (beginning threads database) config)
    (answered : AllAnswered config) :
    Carries field names values (fun _ => True) (access.row database)
      (access.row config.shared) := by
  refine (RowAccess.carries_of_reachable distinct rfl ?_ changes obeys reachable).congr
    fun thread => ?_
  · exact fun statement state isSelect =>
      congrArg access.row (SnsDatabase.serve_select isSelect state)
  · obtain ⟨response, isAnswered⟩ := answered thread
    have obeyed := reachable.obeys rfl (obeys thread)
    rw [isAnswered] at obeyed
    exact iff_of_true trivial (obeyed response rfl)

/-- **No attribute is lost when every row is written as it was read.**  After requests that set
different attributes of one topic, each has its value, and all others are as they were; and so
for a subscription. -/
theorem attributes_kept :
    (∀ (changes : TopicChanges library ι) (database : SnsDatabase)
      (config : Config snsStatements (Routed SnsError Text) ι SnsDatabase),
      Reachable SnsDatabase.serve (topicAccess changes.topicId).AsRead
        (beginning changes.threads database) config →
      AllAnswered config →
      Carries topicAttribute (fun thread => (changes.payload thread).attributeName)
        (fun thread => some (changes.payload thread).attributeValue) (fun _ => True)
        ((topicAccess changes.topicId).row database)
        ((topicAccess changes.topicId).row config.shared)) ∧
    (∀ (changes : SubscriptionChanges library ι) (database : SnsDatabase)
      (config : Config snsStatements (Routed SnsError Text) ι SnsDatabase),
      Reachable SnsDatabase.serve (subscriptionAccess changes.subscriptionArn).AsRead
        (beginning changes.threads database) config →
      AllAnswered config →
      Carries subscriptionAttribute (fun thread => (changes.payload thread).attributeName)
        (fun thread => some (changes.payload thread).attributeValue) (fun _ => True)
        ((subscriptionAccess changes.subscriptionArn).row database)
        ((subscriptionAccess changes.subscriptionArn).row config.shared)) := by
  constructor
  · intro changes database config reachable answered
    refine carries_of_allAnswered changes.distinct ?_ changes.obeys reachable
      answered
    rintro statement change database isWrite
    cases statement with
    | updateTopic id columns =>
        obtain rfl := Option.some.inj isWrite
        exact row_updateTopic id columns database
    | _ => cases isWrite
  · intro changes database config reachable answered
    refine carries_of_allAnswered changes.distinct ?_ changes.obeys reachable
      answered
    rintro statement change database isWrite
    cases statement with
    | updateSubscription id columns =>
        obtain rfl := Option.some.inj isWrite
        exact row_updateSubscription id columns database
    | _ => cases isWrite

end Runs

/-! ### Two requests -/

/-- A request to set this attribute of the topic. -/
def attributeRequest (name value : Text) : ResolvedRequest :=
  userRequest 0 (("TopicArn=" : Text) ++ ordersTopicArn ++ "&AttributeName=".toList ++ name ++
    "&AttributeValue=".toList ++ value)

/-- The attributes that two requests set. -/
def twoAttributes : Bool → Text × Text
  | false => ("DisplayName", "Orders")
  | true => ("TracingConfig", "Active")

theorem accepts_attributeRequest (thread : Bool) :
    (setTopicAttributesAction sampleSnsLibrary).Accepts
      (attributeRequest (twoAttributes thread).1 (twoAttributes thread).2)
      ⟨ordersTopicArn, (twoAttributes thread).1, (twoAttributes thread).2⟩ := by
  let requestBody : SetTopicAttributesRequest :=
    ⟨ordersTopicArn, (twoAttributes thread).1, (twoAttributes thread).2⟩
  let validation := ((setTopicAttributesAction sampleSnsLibrary).validate
    (attributeRequest (twoAttributes thread).1 (twoAttributes thread).2) requestBody).run
  have checked : (validation.run SqliteSns.serve .empty).1 = .ok () := by
    cases thread <;> decide +kernel
  have finishes := finishes_run SqliteSns.serve validation .empty
  rw [checked] at finishes
  exact ⟨by cases thread <;> decide +kernel, _, finishes⟩

/-- Two requests at the same time. -/
def twoChanges : TopicChanges sampleSnsLibrary Bool where
  decision := fun _ _ => .allow
  requests thread := attributeRequest (twoAttributes thread).1 (twoAttributes thread).2
  payload thread := ⟨ordersTopicArn, (twoAttributes thread).1, (twoAttributes thread).2⟩
  topicId := ⟨"us-east-1", "000000000000", "orders"⟩
  accepted := accepts_attributeRequest
  named := fun _ => parseSnsTopicArn_ordersTopicArn
  distinct := by unfold Function.Injective; decide +kernel
  stored := by decide +kernel

/-- A run of the two requests. -/
def twoRun (schedule : List Bool) :
    Config snsStatements (Routed SnsError Text) Bool SnsDatabase :=
  (beginning twoChanges.threads (topicStore "{}")).play SnsDatabase.serve schedule

/-- One request after the other sets both attributes. -/
theorem attributes_kept_sequential :
    Carries topicAttribute (fun thread => (twoChanges.payload thread).attributeName)
      (fun thread => some (twoChanges.payload thread).attributeValue) (fun _ => True)
      ((topicAccess twoChanges.topicId).row (topicStore "{}"))
      ((topicAccess twoChanges.topicId).row
        (twoRun [false, false, false, true, true, true]).shared) := by
  have reachable : Reachable SnsDatabase.serve (topicAccess twoChanges.topicId).AsRead
      (beginning twoChanges.threads (topicStore "{}"))
      (twoRun [false, false, false, true, true, true]) :=
    Reachable.play (RowAccess.asRead_of_isAsRead _) .start (by decide +kernel)
  refine attributes_kept.1 twoChanges _ _ reachable fun thread => ?_
  cases thread
  · exact ⟨_, rfl⟩
  · exact ⟨_, rfl⟩

/-- **An attribute is overwritten.**  Both requests read the row before one of them writes it. -/
theorem displayName_overwritten :
    ∃ config, Reachable SnsDatabase.serve (fun _ _ => True)
        (beginning twoChanges.threads (topicStore "{}")) config ∧
      AllAnswered config ∧
      ((twoChanges.payload false).attributeName, (twoChanges.payload false).attributeValue) =
        (("DisplayName" : Text), ("Orders" : Text)) ∧
      topicAttribute "DisplayName" ((topicAccess twoChanges.topicId).row config.shared) = none := by
  refine ⟨twoRun [false, false, true, true, false, true],
    Reachable.play (fun _ _ _ => trivial) .start Config.passes_true, fun thread => ?_, rfl, ?_⟩
  · cases thread
    · exact ⟨_, rfl⟩
    · exact ⟨_, rfl⟩
  · decide +kernel

end Hiraeth
