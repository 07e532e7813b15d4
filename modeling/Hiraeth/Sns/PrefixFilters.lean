import Mathlib.Tactic.IntervalCases
import Mathlib.Tactic.Push
import Hiraeth.Sns.Topics

/-!
# Filters by a prefix

Topics and subscriptions are selected with `LIKE`, where `%` and `_` stand for other characters
and the case of letters does not matter.  Queues are selected by the characters themselves.

## Main definitions

* `LiteralStart` — prefixes that `LIKE` reads literally
* `SnsDatabase.topicsStarting`, `SnsDatabase.subscriptionsStarting` — literal listings

## Main results

* `sqlLike_start_iff` — a literal prefix is matched as it stands
* `exists_twin` — any other prefix is matched by a text that does not start with it
* `prefixFilters_literal_iff` — which listings are literal
-/

namespace Hiraeth

open Interaction

/-- **A prefix that `LIKE` reads literally**: no wildcards and no letters. -/
def LiteralStart (start : Text) : Prop :=
  ∀ c ∈ start, c ≠ '%' ∧ c ≠ '_' ∧ c.isAlpha = false

instance (start : Text) : Decidable (LiteralStart start) :=
  List.decidableBAll (fun c => c ≠ '%' ∧ c ≠ '_' ∧ c.isAlpha = false) start

namespace SnsDatabase

/-- The topics of a listing whose names start with these characters. -/
def topicsStarting (database : SnsDatabase) (region accountId start : Text) (limit : ℤ) :
    List SnsTopic :=
  let wanted (topic : SnsTopic) : Bool :=
    topic.region = region && topic.accountId = accountId && decide (start <+: topic.name)
  applyLimit limit
    ((database.topics.rows.filter wanted).insertionSort fun left right => left.name ≤ right.name)

/-- The subscriptions of a listing whose topics have ARNs that start with these characters. -/
def subscriptionsStarting (database : SnsDatabase) (ownerAccountId start : Text) (limit : ℤ) :
    List SnsSubscription :=
  let wanted (subscription : SnsSubscription) : Bool :=
    subscription.ownerAccountId = ownerAccountId && decide (start <+: subscription.topicArn)
  applyLimit limit ((database.subscriptions.rows.filter wanted).insertionSort
    fun left right => left.subscriptionArn ≤ right.subscriptionArn)

/-- Every topic that is subscribed to has an ARN of the service. -/
def SubscribedByArn (database : SnsDatabase) : Prop :=
  ∀ subscription ∈ database.subscriptions.rows,
    ("arn:aws:sns:" : Text) <+: subscription.topicArn

end SnsDatabase

/-! ### Letters -/

theorem isAlpha_iff {c : Char} : c.isAlpha = true ↔
    (c.val ≥ 'A'.val ∧ c.val ≤ 'Z'.val) ∨ (c.val ≥ 'a'.val ∧ c.val ≤ 'z'.val) := by
  show (decide (c.val ≥ 'A'.val ∧ c.val ≤ 'Z'.val) ||
    (decide (c.val ≥ 'a'.val) && decide (c.val ≤ 'z'.val))) = true ↔ _
  rw [Bool.or_eq_true, Bool.and_eq_true, decide_eq_true_iff, decide_eq_true_iff,
    decide_eq_true_iff]

/-- Only capitals are moved to lower case. -/
theorem toLower_of_not_isAlpha {c : Char} (notLetter : c.isAlpha = false) : c.toLower = c := by
  refine toLower_of_not_capital fun capital => ?_
  rw [isAlpha_iff.mpr (.inl capital)] at notLetter
  cases notLetter

theorem isAlpha_of_lower {c : Char} (low : 97 ≤ c.toNat) (high : c.toNat ≤ 122) :
    c.isAlpha = true :=
  isAlpha_iff.mpr (.inr ⟨UInt32.le_iff_toNat_le.mpr low, UInt32.le_iff_toNat_le.mpr high⟩)

/-- A character that is no letter is the lower case of itself only. -/
theorem eq_of_toLower_eq {c d : Char} (notLetter : c.isAlpha = false) (same : d.toLower = c) :
    d = c := by
  rcases toLower_cases d with stays | ⟨low, high⟩
  · exact stays.symm.trans same
  · rw [same] at low high
    rw [isAlpha_of_lower low high] at notLetter
    cases notLetter

/-- Every letter has the same lower case as another character. -/
theorem exists_otherCase {c : Char} (letter : c.isAlpha = true) :
    ∃ d : Char, d ≠ c ∧ d.toLower = c.toLower := by
  rw [← Char.ofNat_toNat c]
  rcases isAlpha_iff.mp letter with ⟨low, high⟩ | ⟨low, high⟩
  · have least : 65 ≤ c.toNat := UInt32.le_iff_toNat_le.mp low
    have most : c.toNat ≤ 90 := UInt32.le_iff_toNat_le.mp high
    refine ⟨Char.ofNat (c.toNat + 32), ?_⟩
    generalize c.toNat = number at least most
    interval_cases number
    all_goals decide
  · have least : 97 ≤ c.toNat := UInt32.le_iff_toNat_le.mp low
    have most : c.toNat ≤ 122 := UInt32.le_iff_toNat_le.mp high
    refine ⟨Char.ofNat (c.toNat - 32), ?_⟩
    generalize c.toNat = number at least most
    interval_cases number
    all_goals decide

/-! ### Patterns -/

theorem mem_language_likeToken (c : Char) : [c] ∈ (likeToken c).language := by
  unfold likeToken
  split_ifs
  · trivial
  · exact ⟨c, rfl⟩
  · rfl

/-- A pattern with a wildcard at its end. -/
theorem sqlLike_iff {start text : Text} :
    sqlLike (start ++ ['%']) text = true ↔
      toAsciiLowercase text ∈
        Glob.language ((toAsciiLowercase start).map likeToken ++ [Glob.Token.many]) := by
  have wildcard : (toAsciiLowercase (start ++ ['%'])).map likeToken =
      (toAsciiLowercase start).map likeToken ++ [Glob.Token.many] := by
    rw [toAsciiLowercase, List.map_append, List.map_append]
    rfl
  rw [sqlLike, Glob.isMatch_iff, wildcard]

/-- Characters that do not change, and stand for themselves. -/
theorem literalStart_tokens {start : Text} (literal : LiteralStart start) :
    (toAsciiLowercase start).map likeToken = start.map Glob.Token.literal := by
  rw [toAsciiLowercase, List.map_map]
  refine List.map_congr_left fun c isStart => ?_
  obtain ⟨notMany, notOne, notLetter⟩ := literal c isStart
  rw [Function.comp_apply, toLower_of_not_isAlpha notLetter, likeToken, if_neg notMany,
    if_neg notOne]

/-- Lower case does not hide how a text starts, where there are no letters. -/
theorem prefix_toAsciiLowercase_iff {start text : Text} (literal : LiteralStart start) :
    start <+: toAsciiLowercase text ↔ start <+: text := by
  induction start generalizing text with
  | nil => simp
  | cons c start inductionHypothesis =>
      have rest : LiteralStart start := fun d isStart =>
        literal d (List.mem_cons_of_mem c isStart)
      obtain ⟨-, -, notLetter⟩ := literal c List.mem_cons_self
      cases text with
      | nil => rfl
      | cons d text =>
          show c :: start <+: d.toLower :: toAsciiLowercase text ↔ c :: start <+: d :: text
          rw [List.cons_prefix_cons, List.cons_prefix_cons, inductionHypothesis rest]
          constructor
          · rintro ⟨same, starts⟩
            exact ⟨(eq_of_toLower_eq notLetter same.symm).symm, starts⟩
          · rintro ⟨rfl, starts⟩
            exact ⟨(toLower_of_not_isAlpha notLetter).symm, starts⟩

/-- **A literal prefix is matched as it stands.** -/
theorem sqlLike_start_iff {start text : Text} (literal : LiteralStart start) :
    sqlLike (start ++ ['%']) text = true ↔ start <+: text := by
  rw [sqlLike_iff, literalStart_tokens literal, Glob.mem_language_stem,
    prefix_toAsciiLowercase_iff literal]

/-- Texts that agree with a prefix up to wildcards and cases are matched. -/
theorem sqlLike_of_forall₂ {start text : Text}
    (fits : List.Forall₂ (fun c d => [Char.toLower d] ∈ (likeToken (Char.toLower c)).language)
      start text) : sqlLike (start ++ ['%']) text = true := by
  rw [sqlLike_iff, Glob.language_append, Language.mem_mul]
  refine ⟨toAsciiLowercase text, Glob.mem_language_of_forall₂ ?_, [], ?_, List.append_nil _⟩
  · rw [toAsciiLowercase, toAsciiLowercase, List.forall₂_map_left_iff,
      List.forall₂_map_left_iff, List.forall₂_map_right_iff]
    exact fits
  · exact (Glob.mem_language_many _ _).mpr
      ⟨[], List.nil_suffix, (Glob.mem_language_nil []).mpr rfl⟩

/-- **Any other prefix is matched by a text that does not start with it**: the two differ in one
character. -/
theorem exists_twin {start : Text} (notLiteral : ¬ LiteralStart start) :
    ∃ text : Text, sqlLike (start ++ ['%']) text = true ∧ ¬ start <+: text := by
  unfold LiteralStart at notLiteral
  push Not at notLiteral
  obtain ⟨c, isStart, special⟩ := notLiteral
  have twin : ∃ d : Char, d ≠ c ∧ [d.toLower] ∈ (likeToken c.toLower).language := by
    by_cases isMany : c = '%'
    · subst isMany
      exact ⟨'-', by decide, trivial⟩
    · by_cases isOne : c = '_'
      · subst isOne
        exact ⟨'-', by decide, ⟨'-', rfl⟩⟩
      · obtain ⟨d, different, sameCase⟩ :=
          exists_otherCase (Bool.eq_true_of_not_eq_false (special isMany isOne))
        refine ⟨d, different, ?_⟩
        rw [sameCase]
        exact mem_language_likeToken _
  obtain ⟨d, different, fits⟩ := twin
  obtain ⟨before, after, rfl⟩ := List.append_of_mem isStart
  have same (text : Text) : List.Forall₂
      (fun c d => [Char.toLower d] ∈ (likeToken (Char.toLower c)).language) text text :=
    List.forall₂_same.mpr fun c _ => mem_language_likeToken _
  refine ⟨before ++ d :: after, sqlLike_of_forall₂ ?_, ?_⟩
  · exact List.rel_append (same before) (List.Forall₂.cons fits (same after))
  · intro starts
    have equal := starts.eq_of_length (by simp)
    exact different (List.cons.inj (List.append_cancel_left equal)).1.symm

/-! ### Listings -/

/-- The rows of a listing without a limit. -/
theorem mem_listing {α : Type} {rows : List α} {wanted : α → Bool} {before : α → α → Prop}
    [DecidableRel before] {row : α} :
    row ∈ applyLimit (-1) ((rows.filter wanted).insertionSort before) ↔
      row ∈ rows ∧ wanted row = true := by
  rw [applyLimit, if_pos (by decide), (List.perm_insertionSort before _).mem_iff, List.mem_filter]

/-- A topic of this name. -/
def topicNamed (region accountId name : Text) : SnsTopic :=
  { ordersTopic [] with region := region, accountId := accountId, name := name }

/-- A subscription of this account to this topic. -/
def subscriptionTo (ownerAccountId topicArn : Text) : SnsSubscription where
  id := 1
  topicArn := topicArn
  protocol := "sqs"
  endpoint := "arn:aws:sqs:us-east-1:000000000000:orders"
  ownerAccountId := ownerAccountId
  subscriptionArn := topicArn ++ ":s".toList
  deliveryPolicy := none
  filterPolicy := none
  filterPolicyScope := none
  rawMessageDelivery := none
  redrivePolicy := none
  subscriptionRoleArn := none
  replayPolicy := none
  createdAt := 0

/-- A store with one topic. -/
def storeOfTopic (topic : SnsTopic) : SnsDatabase :=
  (SnsDatabase.empty.insertTopic topic).2

/-- A store with one subscription. -/
def storeOfSubscription (subscription : SnsSubscription) : SnsDatabase :=
  (SnsDatabase.empty.insertSubscription subscription).2

/-- The topics of a listing without a limit. -/
theorem mem_selectTopics {database : SnsDatabase} {region accountId start : Text}
    {topic : SnsTopic} :
    topic ∈ database.selectTopics region accountId (some start) (-1) ↔
      topic ∈ database.topics.rows ∧ topic.region = region ∧ topic.accountId = accountId ∧
        sqlLike (start ++ ['%']) topic.name = true := by
  rw [SnsDatabase.selectTopics, mem_listing]
  simp only [Bool.and_eq_true, decide_eq_true_iff, Option.all_some, and_assoc]

theorem mem_topicsStarting {database : SnsDatabase} {region accountId start : Text}
    {topic : SnsTopic} :
    topic ∈ database.topicsStarting region accountId start (-1) ↔
      topic ∈ database.topics.rows ∧ topic.region = region ∧ topic.accountId = accountId ∧
        start <+: topic.name := by
  rw [SnsDatabase.topicsStarting, mem_listing]
  simp only [Bool.and_eq_true, decide_eq_true_iff, and_assoc]

/-- The subscriptions of a listing without a limit. -/
theorem mem_selectSubscriptions {database : SnsDatabase} {ownerAccountId pattern : Text}
    {subscription : SnsSubscription} :
    subscription ∈ database.selectSubscriptions ownerAccountId pattern (-1) ↔
      subscription ∈ database.subscriptions.rows ∧ subscription.ownerAccountId = ownerAccountId ∧
        sqlLike pattern subscription.topicArn = true := by
  rw [SnsDatabase.selectSubscriptions, mem_listing]
  simp only [Bool.and_eq_true, decide_eq_true_iff]

theorem mem_subscriptionsStarting {database : SnsDatabase} {ownerAccountId start : Text}
    {subscription : SnsSubscription} :
    subscription ∈ database.subscriptionsStarting ownerAccountId start (-1) ↔
      subscription ∈ database.subscriptions.rows ∧ subscription.ownerAccountId = ownerAccountId ∧
        start <+: subscription.topicArn := by
  rw [SnsDatabase.subscriptionsStarting, mem_listing]
  simp only [Bool.and_eq_true, decide_eq_true_iff]

/-- **Topics are listed literally exactly when the prefix is literal.** -/
theorem listTopics_literal_iff (region accountId start : Text) :
    (∀ (database : SnsDatabase) (limit : Option ℤ),
      SqliteSns.serve (.listTopics region accountId (some start) limit) database =
        (.ok (database.topicsStarting region accountId start (limit.getD i64Max)), database)) ↔
      LiteralStart start := by
  constructor
  · intro literally
    by_contra notLiteral
    obtain ⟨name, isMatched, notStart⟩ := exists_twin notLiteral
    have sameRows :
        (storeOfTopic (topicNamed region accountId name)).selectTopics region accountId
            (some start) (-1) =
          (storeOfTopic (topicNamed region accountId name)).topicsStarting region accountId start
            (-1) :=
      Except.ok.inj (congrArg Prod.fst
        (literally (storeOfTopic (topicNamed region accountId name)) (some (-1))))
    have isListed : topicNamed region accountId name ∈
        (storeOfTopic (topicNamed region accountId name)).selectTopics region accountId
          (some start) (-1) :=
      mem_selectTopics.mpr ⟨List.mem_singleton.mpr rfl, rfl, rfl, isMatched⟩
    rw [sameRows, mem_topicsStarting] at isListed
    exact notStart isListed.2.2.2
  · intro literal database limit
    have sameRows (topic : SnsTopic) : sqlLike (start ++ ['%']) topic.name =
        decide (start <+: topic.name) := by
      rw [Bool.eq_iff_iff, sqlLike_start_iff literal, decide_eq_true_iff]
    show (Except.ok (database.selectTopics region accountId (some start) (limit.getD i64Max)),
      database) = _
    simp only [SnsDatabase.selectTopics, SnsDatabase.topicsStarting, Option.all_some, sameRows]

/-- The pattern that subscriptions are selected with. -/
theorem topicArn_wildcard (region accountId : Text) :
    topicArn region accountId ['%'] = topicArn region accountId [] ++ ['%'] := by
  have general (head : Text) : head ++ region ++ ':' :: accountId ++ ':' :: ['%'] =
      (head ++ region ++ ':' :: accountId ++ ':' :: []) ++ ['%'] := by simp
  exact general _

/-- The pattern after the letters at its start. -/
theorem topicArn_nil (region accountId : Text) :
    topicArn region accountId [] =
      ("arn:aws:sns:" : Text) ++ (region ++ ':' :: (accountId ++ [':'])) := by
  have general (head : Text) : head ++ region ++ ':' :: accountId ++ ':' :: [] =
      head ++ (region ++ ':' :: (accountId ++ [':'])) := by simp
  exact general _

/-- A store in which the listing shows a subscription to another topic. -/
theorem not_listSubscriptions_literal {region accountId arn : Text}
    (isMatched : sqlLike (topicArn region accountId [] ++ ['%']) arn = true)
    (notStart : ¬ topicArn region accountId [] <+: arn) :
    SqliteSns.serve (.listSubscriptions region accountId (some (-1)))
        (storeOfSubscription (subscriptionTo accountId arn)) ≠
      (.ok ((storeOfSubscription (subscriptionTo accountId arn)).subscriptionsStarting accountId
        (topicArn region accountId []) (-1)), storeOfSubscription (subscriptionTo accountId arn)) := by
  intro literally
  have sameRows :
      (storeOfSubscription (subscriptionTo accountId arn)).selectSubscriptions accountId
          (topicArn region accountId ['%']) (-1) =
        (storeOfSubscription (subscriptionTo accountId arn)).subscriptionsStarting accountId
          (topicArn region accountId []) (-1) :=
    Except.ok.inj (congrArg Prod.fst literally)
  rw [topicArn_wildcard] at sameRows
  have isListed : subscriptionTo accountId arn ∈
      (storeOfSubscription (subscriptionTo accountId arn)).selectSubscriptions accountId
        (topicArn region accountId [] ++ ['%']) (-1) :=
    mem_selectSubscriptions.mpr ⟨List.mem_singleton.mpr rfl, rfl, isMatched⟩
  rw [sameRows, mem_subscriptionsStarting] at isListed
  exact notStart isListed.2.2

/-- The account of an ARN is literal where both of its parts are. -/
theorem literalStart_scope {region accountId : Text} :
    LiteralStart (region ++ ':' :: (accountId ++ [':'])) ↔
      LiteralStart region ∧ LiteralStart accountId := by
  have colon : ':' ≠ '%' ∧ ':' ≠ '_' ∧ (':').isAlpha = false := by decide
  simp only [LiteralStart, List.mem_append, List.mem_cons, List.not_mem_nil, or_false]
  constructor
  · intro literal
    exact ⟨fun c isPart => literal c (Or.inl isPart),
      fun c isPart => literal c (Or.inr (Or.inr (Or.inl isPart)))⟩
  · rintro ⟨literalRegion, literalAccount⟩ c (isPart | rfl | isPart | rfl)
    · exact literalRegion c isPart
    · exact colon
    · exact literalAccount c isPart
    · exact colon

/-- A common start of letters makes no difference. -/
theorem sqlLike_append {head start text : Text} (notWild : ∀ c ∈ head, c ≠ '%' ∧ c ≠ '_') :
    sqlLike (head ++ start) (head ++ text) = sqlLike start text := by
  induction head with
  | nil => rfl
  | cons c head inductionHypothesis =>
      obtain ⟨notMany, notOne⟩ := notWild c List.mem_cons_self
      rw [← inductionHypothesis fun d isHead => notWild d (List.mem_cons_of_mem c isHead)]
      have token : likeToken c.toLower = .literal c.toLower := by
        rcases toLower_cases c with stays | ⟨low, high⟩
        · rw [stays, likeToken, if_neg notMany, if_neg notOne]
        · rw [likeToken, if_neg, if_neg]
          · intro same
            rw [same] at low
            exact absurd low (by decide)
          · intro same
            rw [same] at low
            exact absurd low (by decide)
      show Glob.isMatch (likeToken c.toLower :: _) (c.toLower :: _) = _
      rw [token, Glob.isMatch, decide_eq_true rfl, Bool.true_and]
      rfl

/-- The letters that all ARNs of topics start with. -/
theorem snsArnStart_notWild : ∀ c ∈ ("arn:aws:sns:" : Text), c ≠ '%' ∧ c ≠ '_' := by
  have checked : ("arn:aws:sns:" : Text).all (fun c => c != '%' && c != '_') = true := by
    decide +kernel
  intro c member
  have isPlain := List.all_eq_true.mp checked c member
  rwa [Bool.and_eq_true, bne_iff_ne, bne_iff_ne] at isPlain

/-- **Subscriptions are never listed literally in every store**: the service's part of the ARN is
read without regard to cases. -/
theorem not_listSubscriptions_literal_all (region accountId : Text) :
    ¬ ∀ (database : SnsDatabase) (limit : Option ℤ),
      SqliteSns.serve (.listSubscriptions region accountId limit) database =
        (.ok (database.subscriptionsStarting accountId (topicArn region accountId [])
          (limit.getD i64Max)), database) := by
  intro literally
  have letters : ¬ LiteralStart (topicArn region accountId []) := by
    intro literal
    have isStart : 'a' ∈ topicArn region accountId [] := by
      rw [topicArn_nil]
      exact List.mem_append_left _ (by decide)
    exact absurd (literal 'a' isStart).2.2 (by decide)
  obtain ⟨arn, isMatched, notStart⟩ := exists_twin letters
  exact not_listSubscriptions_literal isMatched notStart
    (literally (storeOfSubscription (subscriptionTo accountId arn)) (some (-1)))

/-- **Subscriptions to ARNs are listed literally exactly when region and account are literal.** -/
theorem listSubscriptions_literal_iff (region accountId : Text) :
    (∀ (database : SnsDatabase) (limit : Option ℤ), database.SubscribedByArn →
      SqliteSns.serve (.listSubscriptions region accountId limit) database =
        (.ok (database.subscriptionsStarting accountId (topicArn region accountId [])
          (limit.getD i64Max)), database)) ↔
      LiteralStart region ∧ LiteralStart accountId := by
  have sameMatch (text : Text) :
      sqlLike (topicArn region accountId [] ++ ['%']) (("arn:aws:sns:" : Text) ++ text) =
        sqlLike ((region ++ ':' :: (accountId ++ [':'])) ++ ['%']) text := by
    rw [topicArn_nil, List.append_assoc]
    exact sqlLike_append snsArnStart_notWild
  have starts (text : Text) :
      topicArn region accountId [] <+: ("arn:aws:sns:" : Text) ++ text ↔
        (region ++ ':' :: (accountId ++ [':'])) <+: text := by
    rw [topicArn_nil]
    exact List.prefix_append_right_inj _
  rw [← literalStart_scope]
  constructor
  · intro literally
    by_contra notLiteral
    obtain ⟨rest, isMatched, notStart⟩ := exists_twin notLiteral
    rw [← sameMatch] at isMatched
    rw [← starts] at notStart
    refine not_listSubscriptions_literal isMatched notStart (literally _ (some (-1)) ?_)
    intro subscription isRow
    obtain rfl := List.mem_singleton.mp isRow
    exact List.prefix_append _ _
  · intro literal database limit subscribed
    have sameRows (subscription : SnsSubscription)
        (isRow : subscription ∈ database.subscriptions.rows) :
        sqlLike (topicArn region accountId ['%']) subscription.topicArn =
          decide (topicArn region accountId [] <+: subscription.topicArn) := by
      obtain ⟨rest, isArn⟩ := subscribed subscription isRow
      rw [← isArn, topicArn_wildcard, sameMatch, Bool.eq_iff_iff, sqlLike_start_iff literal,
        decide_eq_true_iff, starts]
    show (Except.ok (database.selectSubscriptions accountId (topicArn region accountId ['%'])
      (limit.getD i64Max)), database) = _
    rw [SnsDatabase.selectSubscriptions, SnsDatabase.subscriptionsStarting,
      List.filter_congr fun subscription isRow => by rw [sameRows subscription isRow]]

end Hiraeth
