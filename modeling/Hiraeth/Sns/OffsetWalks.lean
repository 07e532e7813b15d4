import Hiraeth.Lib.Offsets
import Hiraeth.Sns.OffsetPages
import Hiraeth.Store.SnsIntegrity

/-!
# Following offsets to the end

A token is a number of items, and what is listed is sorted anew for every page.  Items that are
created or deleted in front of the offset move those behind it: an item that moves over the
offset is listed twice or not at all.

## Main definitions

* `SnsListing.InScope` — the items that a listing is about
* `SnsListing.contents` — what a listing would list on one endless page
* `WholeWalk` — pages from the first to the last, with other statements in between

## Main results

* `WholeWalk.arns_eq` — what the pages list, by the offsets
* `wholeWalk_complete` — an item that moves over no offset is listed once
* `listTopics_skips` — and one that does is not
-/

namespace Hiraeth

open Interaction Program

/-! ### What is listed -/

namespace SnsListing

/-- **The items that a listing is about**, by their ARNs. -/
def InScope (request : ResolvedRequest) (database : SnsDatabase) (arn : Text) : SnsListing → Prop
  | .topics => ∃ topic ∈ database.topics.rows, topic.region = request.region ∧
      topic.accountId = request.accountId ∧ topicSummary topic = arn
  | .subscriptions => ∃ subscription ∈ database.subscriptions.rows,
      subscription.ownerAccountId = request.accountId ∧
        sqlLike (topicArn request.region request.accountId ['%']) subscription.topicArn ∧
          subscription.subscriptionArn = arn
  | .subscriptionsOfTopic topicArn => ∃ subscription ∈ database.subscriptions.rows,
      subscription.topicArn = topicArn ∧ subscription.subscriptionArn = arn

/-- The ARNs in the order in which they are listed. -/
def contents (request : ResolvedRequest) (database : SnsDatabase) : SnsListing → List Text
  | .topics =>
      (database.selectTopics request.region request.accountId none i64Max).map topicSummary
  | .subscriptions =>
      (database.selectSubscriptions request.accountId
        (topicArn request.region request.accountId ['%']) i64Max).map (·.subscriptionArn)
  | .subscriptionsOfTopic topicArn =>
      (database.selectSubscriptionsOfTopic topicArn).map (·.subscriptionArn)

variable {request : ResolvedRequest} {database final : SnsDatabase} {listing : SnsListing}

/-- **The store answers with the contents**, and is not changed. -/
theorem eq_contents_of_lists {all : List Text}
    (lists : listing.Lists SqliteSns.serve request database all final) :
    all = listing.contents request database := by
  cases listing with
  | topics =>
      obtain ⟨topics, answered, rfl⟩ := lists
      exact congrArg _ (Except.ok.inj (congrArg Prod.fst answered)).symm
  | subscriptions =>
      obtain ⟨subscriptions, answered, rfl⟩ := lists
      exact congrArg _ (Except.ok.inj (congrArg Prod.fst answered)).symm
  | subscriptionsOfTopic topicArn =>
      obtain ⟨topic, between, subscriptions, loads, answered, rfl⟩ := lists
      obtain ⟨-, rfl⟩ := succeeds_loadTopic.mp loads
      exact congrArg _ (Except.ok.inj (congrArg Prod.fst answered)).symm

end SnsListing

/-- Row numbers are `i64`, so a table has no more rows. -/
structure SnsDatabase.Fits (database : SnsDatabase) : Prop where
  topics : database.topics.rows.length ≤ 9223372036854775807
  subscriptions : database.subscriptions.rows.length ≤ 9223372036854775807

/-- A limit that is not reached cuts nothing off. -/
theorem applyLimit_i64Max {α : Type} {rows : List α} (fits : rows.length ≤ 9223372036854775807) :
    applyLimit i64Max rows = rows := by
  have enough : rows.length ≤ i64Max.toNat := fits
  rw [applyLimit, if_neg (by decide), List.take_of_length_le enough]

namespace SnsListing

variable {request : ResolvedRequest} {database : SnsDatabase} {listing : SnsListing}

/-- **The contents are the items in scope.** -/
theorem mem_contents (fits : database.Fits) {arn : Text} :
    arn ∈ listing.contents request database ↔ listing.InScope request database arn := by
  have shorter {α : Type} {rows : List α} {wanted : α → Bool}
      (few : rows.length ≤ 9223372036854775807) :
      (rows.filter wanted).length ≤ 9223372036854775807 :=
    (List.length_filter_le _ _).trans few
  cases listing with
  | topics =>
      show arn ∈ (applyLimit i64Max (List.insertionSort _ _)).map _ ↔ _
      rw [applyLimit_i64Max (by rw [List.length_insertionSort]; exact shorter fits.topics)]
      simp only [List.mem_map, List.mem_insertionSort, List.mem_filter, Bool.and_eq_true,
        decide_eq_true_eq, Option.all_none, and_true, and_assoc, InScope]
  | subscriptions =>
      show arn ∈ (applyLimit i64Max (List.insertionSort _ _)).map _ ↔ _
      rw [applyLimit_i64Max (by rw [List.length_insertionSort]; exact shorter fits.subscriptions)]
      simp only [List.mem_map, List.mem_insertionSort, List.mem_filter, Bool.and_eq_true,
        decide_eq_true_eq, and_assoc, InScope]
  | subscriptionsOfTopic topicArn =>
      simp only [contents, SnsDatabase.selectSubscriptionsOfTopic, List.mem_map, List.mem_filter,
        decide_eq_true_eq, and_assoc, InScope]

/-- No more is listed than there is. -/
theorem length_contents_le (fits : database.Fits) :
    (listing.contents request database).length ≤ 9223372036854775807 := by
  have shorter {α : Type} {rows : List α} {wanted : α → Bool} {before : α → α → Prop}
      [DecidableRel before] (few : rows.length ≤ 9223372036854775807) :
      (applyLimit i64Max ((rows.filter wanted).insertionSort before)).length ≤
        9223372036854775807 := by
    have filtered := (List.length_filter_le wanted rows).trans few
    rw [applyLimit_i64Max (by rw [List.length_insertionSort]; exact filtered),
      List.length_insertionSort]
    exact filtered
  cases listing with
  | topics => exact (List.length_map _).trans_le (shorter fits.topics)
  | subscriptions => exact (List.length_map _).trans_le (shorter fits.subscriptions)
  | subscriptionsOfTopic topicArn =>
      exact (List.length_map _).trans_le ((List.length_filter_le _ _).trans fits.subscriptions)

/-- The rows of a table differ. -/
theorem nodup_rows {R : Type} {key : R → ℕ} (table : RowTable R key) : table.rows.Nodup :=
  table.ascending.imp fun smaller same => Nat.ne_of_lt smaller (congrArg key same)

/-- **Nothing is listed twice on one page.** -/
theorem nodup_contents (valid : database.Valid) : (listing.contents request database).Nodup := by
  have limited {α : Type} {rows : List α} {wanted : α → Bool} {before : α → α → Prop}
      [DecidableRel before] (differ : rows.Nodup) :
      (applyLimit i64Max ((rows.filter wanted).insertionSort before)).Nodup := by
    refine List.Nodup.sublist (List.take_sublist _ _) ?_
    exact (List.perm_insertionSort _ _).nodup_iff.mpr (differ.filter _)
  cases listing with
  | topics =>
      refine (limited (nodup_rows _)).map_on fun left isLeft right isRight same => ?_
      have leftRow := List.mem_insertionSort _ |>.mp (mem_of_mem_applyLimit isLeft)
      have rightRow := List.mem_insertionSort _ |>.mp (mem_of_mem_applyLimit isRight)
      simp only [List.mem_filter, Bool.and_eq_true, decide_eq_true_eq] at leftRow rightRow
      obtain ⟨leftRow, ⟨leftRegion, leftAccount⟩, -⟩ := leftRow
      obtain ⟨rightRow, ⟨rightRegion, rightAccount⟩, -⟩ := rightRow
      refine valid.identity leftRow rightRow ?_
      rw [topicSummary, topicSummary, leftRegion, rightRegion, leftAccount, rightAccount] at same
      have names : left.name = right.name := (List.cons.inj (List.append_cancel_left same)).2
      rw [SnsDatabase.identity, SnsDatabase.identity, names, leftRegion, rightRegion, leftAccount,
        rightAccount]
  | subscriptions =>
      refine (limited (nodup_rows _)).map_on fun left isLeft right isRight same => ?_
      have leftRow := List.mem_insertionSort _ |>.mp (mem_of_mem_applyLimit isLeft)
      have rightRow := List.mem_insertionSort _ |>.mp (mem_of_mem_applyLimit isRight)
      exact valid.subscriptionArn (List.mem_of_mem_filter leftRow)
        (List.mem_of_mem_filter rightRow) same
  | subscriptionsOfTopic topicArn =>
      refine ((nodup_rows _).filter _).map_on fun left isLeft right isRight same => ?_
      exact valid.subscriptionArn (List.mem_of_mem_filter isLeft)
        (List.mem_of_mem_filter isRight) same

end SnsListing

/-! ### Walks -/

/-- **A walk from the first page to the last.**  Each page is asked for with the token of the
page before it.  Between two pages any statements may be executed, of any requests. -/
structure WholeWalk (library : SnsLibrary) (request : ResolvedRequest) (listing : SnsListing)
    (pages : List (OffsetPage SnsDatabase)) : Prop
    extends OffsetWalk SqliteSns.serve library request listing pages where
  begins : pages.head?.map (·.token) = some none
  ends : pages.getLast?.map (·.next) = some none
  evolves : pages.IsChain fun page later =>
    ∃ statements, later.state = page.state.execute statements
  valid : ∀ first ∈ pages.head?, first.state.Valid
  fits : ∀ page ∈ pages, page.state.Fits

section Walks

variable {library : SnsLibrary} {request : ResolvedRequest} {listing : SnsListing}
  {pages : List (OffsetPage SnsDatabase)}

/-- The contents at each page of a walk. -/
def contentsOf (request : ResolvedRequest) (listing : SnsListing)
    (pages : List (OffsetPage SnsDatabase)) : List (List Text) :=
  pages.map fun page => listing.contents request page.state

/-- **What a page shows**, by its offset. -/
theorem answers_offset {page : OffsetPage SnsDatabase} {offset : ℕ}
    (answers : page.Answers SqliteSns.serve library request listing)
    (isOffset : offsetOfToken page.token = .ok offset) :
    page.arns = ((listing.contents request page.state).drop offset).take 100 ∧
      page.next = if usizeAdd offset 100 < (listing.contents request page.state).length then
        some (Nat.toDigits 10 (usizeAdd offset 100)) else none := by
  obtain ⟨final, succeeds⟩ := answers
  obtain ⟨offset', all, isOffset', lists, shown⟩ := succeeds_handle_listing.mp succeeds
  obtain rfl := Except.ok.inj (isOffset.symm.trans isOffset')
  obtain rfl := SnsListing.eq_contents_of_lists lists
  exact Prod.mk.inj shown

/-- **What the pages list**, from any page on.  An offset that was returned is less than the
number of items, so that the next one fits. -/
theorem flatMap_arns {first : OffsetPage SnsDatabase} {offset : ℕ}
    (walk : OffsetWalk SqliteSns.serve library request listing pages)
    (fits : ∀ page ∈ pages, page.state.Fits)
    (ends : pages.getLast?.map (·.next) = some none) (starts : pages.head? = some first)
    (isOffset : offsetOfToken first.token = .ok offset) (small : offset ≤ 9223372036854775807) :
    pages.flatMap (·.arns) = Offsets.listed 100 offset (contentsOf request listing pages) ∧
      Offsets.Ends 100 offset (contentsOf request listing pages) := by
  obtain ⟨answered, continued⟩ := walk
  have inRange (offset : ℕ) (small : offset ≤ 9223372036854775807) :
      usizeAdd offset 100 = offset + 100 := (usizeAdd_eq_iff _ _).mpr (by omega)
  induction pages generalizing first offset with
  | nil => cases starts
  | cons page rest inductionHypothesis =>
      obtain rfl := Option.some.inj starts
      obtain ⟨isArns, isNext⟩ := answers_offset (answered page List.mem_cons_self) isOffset
      rw [inRange offset small] at isNext
      rw [List.flatMap_cons, contentsOf, List.map_cons, Offsets.listed, isArns]
      cases rest with
      | nil =>
          have isLast : page.next = none := by simpa using ends
          rw [isLast] at isNext
          refine ⟨rfl, .last (not_lt.mp fun more => ?_)⟩
          rw [if_pos more] at isNext
          cases isNext
      | cons later rest =>
          obtain ⟨⟨more, sameToken⟩, continuedRest⟩ := List.isChain_cons_cons.mp continued
          have longer : offset + 100 < (listing.contents request page.state).length := by
            by_contra ended
            rw [isNext, if_neg ended] at more
            cases more
          have bounded := @SnsListing.length_contents_le request _ listing
            (fits page List.mem_cons_self)
          have isLater : offsetOfToken later.token = .ok (offset + 100) := by
            rw [sameToken, isNext, if_pos longer]
            exact offsetOfToken_toDigits (by omega)
          obtain ⟨listed, rests⟩ := inductionHypothesis
            (fun page isPage => fits page (List.mem_cons_of_mem _ isPage))
            (by simpa using ends) rfl isLater (by omega)
            (fun page isPage => answered page (List.mem_cons_of_mem _ isPage)) continuedRest
          exact ⟨congrArg _ listed, .more rests⟩

/-- **What a walk lists.** -/
theorem WholeWalk.arns_eq (walk : WholeWalk library request listing pages) :
    pages.flatMap (·.arns) = Offsets.listed 100 0 (contentsOf request listing pages) ∧
      Offsets.Ends 100 0 (contentsOf request listing pages) := by
  obtain ⟨first, isFirst, noToken⟩ := Option.map_eq_some_iff.mp walk.begins
  refine flatMap_arns walk.toOffsetWalk walk.fits walk.ends isFirst ?_ (Nat.zero_le _)
  rw [noToken]
  rfl

/-- The constraints hold at every page. -/
theorem WholeWalk.valid_of_mem (walk : WholeWalk library request listing pages) :
    ∀ page ∈ pages, page.state.Valid := by
  obtain ⟨-, -, -, evolves, valid, -⟩ := walk
  induction pages with
  | nil => exact fun page isPage => absurd isPage List.not_mem_nil
  | cons page rest inductionHypothesis =>
      intro other isPage
      rcases List.mem_cons.mp isPage with rfl | isLater
      · exact valid other rfl
      · cases rest with
        | nil => exact absurd isLater List.not_mem_nil
        | cons later rest =>
            obtain ⟨⟨statements, sameState⟩, evolvesRest⟩ := List.isChain_cons_cons.mp evolves
            refine inductionHypothesis evolvesRest ?_ other isLater
            rintro _ ⟨⟩
            rw [sameState]
            exact (valid page rfl).execute statements

end Walks

/-- **Which items a walk lists once.**  Along a walk on which no item that stays moves over the
offset of the next page, and none comes back that was deleted, no item is listed twice, and every
item that is in scope at every page is listed exactly once. -/
theorem wholeWalk_complete (library : SnsLibrary) (request : ResolvedRequest)
    (listing : SnsListing) {pages : List (OffsetPage SnsDatabase)}
    (walk : WholeWalk library request listing pages)
    (steady : Offsets.SteadyWalk 100 0 (contentsOf request listing pages))
    (staysGone : Offsets.StaysGone (contentsOf request listing pages)) :
    (pages.flatMap (·.arns)).Nodup ∧
      ∀ arn, (∀ page ∈ pages, listing.InScope request page.state arn) →
        (pages.flatMap (·.arns)).count arn = 1 := by
  obtain ⟨listed, ends⟩ := walk.arns_eq
  have once : ∀ items ∈ contentsOf request listing pages, items.Nodup := by
    intro items isContents
    obtain ⟨page, isPage, rfl⟩ := List.mem_map.mp isContents
    exact SnsListing.nodup_contents (walk.valid_of_mem page isPage)
  have nodup : (pages.flatMap (·.arns)).Nodup := by
    rw [listed]
    exact Offsets.nodup_listed once steady staysGone
  refine ⟨nodup, fun arn inScope => List.count_eq_one_of_mem nodup ?_⟩
  rw [listed]
  refine Offsets.mem_listed_of_present ends steady ?_ fun items _ => ?_
  · intro items isContents
    obtain ⟨page, isPage, rfl⟩ := List.mem_map.mp isContents
    exact (SnsListing.mem_contents (walk.fits page isPage)).mpr (inScope page isPage)
  · rw [List.take_zero]
    exact List.not_mem_nil

/-! ### A topic that is skipped -/

/-- Names of two letters, in order. -/
def twoLetterNames : List Text :=
  ("abcd" : Text).flatMap fun first =>
    ("abcdefghijklmnopqrstuvwxyz" : Text).map fun second => [first, second]

/-- The statement that inserts a topic of this name. -/
def insertNamed (name : Text) : SnsStatement :=
  .insertTopic { ordersTopic [] with name := name }

/-- The name of a topic of this account as its ARN. -/
def localTopicArn (name : Text) : Text :=
  topicArn "us-east-1" "000000000000" name

/-- A store with 104 topics. -/
@[irreducible]
def manyTopics : SnsDatabase :=
  SnsDatabase.empty.execute (twoLetterNames.map insertNamed)

/-- The statements that delete the first topic. -/
def deleteFirst : List SnsStatement :=
  [.deleteTagsOfTopic "aa" "us-east-1" "000000000000", .deleteTopic "aa" "us-east-1" "000000000000",
    .deleteSubscriptionsOfTopic (localTopicArn "aa")]

/-- The two pages of a walk, between which some statements are executed. -/
def topicPages (between : List SnsStatement) : List (OffsetPage SnsDatabase) :=
  [⟨none, manyTopics, (offsetPage 0 (SnsListing.topics.contents pageRequest manyTopics)).1,
      some "100"⟩,
    ⟨some "100", manyTopics.execute between,
      (offsetPage 100 (SnsListing.topics.contents pageRequest (manyTopics.execute between))).1,
      none⟩]

theorem valid_manyTopics : manyTopics.Valid := by
  unfold manyTopics
  exact SnsDatabase.empty_valid.execute _

/-- The facts about a store that the walks below need. -/
def ListsNames (database : SnsDatabase) (names : List Text) : Prop :=
  SnsListing.topics.contents pageRequest database = names.map localTopicArn ∧
    database.topics.rows.length ≤ 9223372036854775807 ∧
      database.subscriptions.rows.length ≤ 9223372036854775807

instance (database : SnsDatabase) (names : List Text) : Decidable (ListsNames database names) :=
  inferInstanceAs (Decidable (_ ∧ _))

theorem ListsNames.fits {database : SnsDatabase} {names : List Text}
    (lists : ListsNames database names) : database.Fits :=
  ⟨lists.2.1, lists.2.2⟩

/-- The names are in scope. -/
theorem ListsNames.inScope {database : SnsDatabase} {names : List Text}
    (lists : ListsNames database names) {name : Text} (member : name ∈ names) :
    SnsListing.topics.InScope pageRequest database (localTopicArn name) := by
  refine (SnsListing.mem_contents lists.fits).mp ?_
  rw [lists.1]
  exact List.mem_map_of_mem member

theorem manyTopics_lists : ListsNames manyTopics twoLetterNames := by
  decide +kernel

theorem deleteFirst_lists :
    ListsNames (manyTopics.execute deleteFirst) twoLetterNames.tail := by
  decide +kernel

/-- The statement that creates a topic behind all others. -/
def createLast : List SnsStatement :=
  [insertNamed "zz"]

theorem createLast_lists :
    ListsNames (manyTopics.execute createLast) (twoLetterNames ++ [("zz" : Text)]) := by
  decide +kernel

theorem succeeds_listTopics {token next : Option Text} {offset : ℕ} {database : SnsDatabase}
    (isOffset : offsetOfToken token = .ok offset)
    (isNext : (offsetPage offset (SnsListing.topics.contents pageRequest database)).2 = next) :
    OffsetPage.Answers SqliteSns.serve sampleSnsLibrary pageRequest .topics
      ⟨token, database, (offsetPage offset (SnsListing.topics.contents pageRequest database)).1,
        next⟩ :=
  ⟨database, succeeds_handle_listing.mpr
    ⟨offset, _, isOffset, ⟨_, rfl, rfl⟩, Prod.ext rfl isNext.symm⟩⟩

/-- The two pages are a walk. -/
theorem wholeWalk_topicPages {between : List SnsStatement} {names : List Text}
    (lists : ListsNames (manyTopics.execute between) names) (few : names.length ≤ 200) :
    WholeWalk sampleSnsLibrary pageRequest .topics (topicPages between) where
  answered := by
    intro page isPage
    rcases List.mem_pair.mp isPage with rfl | rfl
    · refine succeeds_listTopics rfl ?_
      rw [manyTopics_lists.1, offsetPage_map]
      decide +kernel
    · refine succeeds_listTopics (by decide +kernel) (if_neg ?_)
      have isSum : usizeAdd 100 100 = 200 := by decide
      rw [isSum, lists.1, List.length_map]
      exact not_lt.mpr few
  continued := List.isChain_cons_cons.mpr ⟨⟨rfl, rfl⟩, List.IsChain.singleton _⟩
  begins := rfl
  ends := rfl
  evolves := List.isChain_cons_cons.mpr ⟨⟨between, rfl⟩, List.IsChain.singleton _⟩
  valid := by
    intro first isFirst
    obtain rfl := Option.some.inj isFirst
    exact valid_manyTopics
  fits := by
    intro page isPage
    rcases List.mem_pair.mp isPage with rfl | rfl
    · exact manyTopics_lists.fits
    · exact lists.fits

/-- What the two pages list. -/
theorem arns_topicPages {between : List SnsStatement} {names : List Text}
    (lists : ListsNames (manyTopics.execute between) names) :
    (topicPages between).flatMap (·.arns) =
      ((offsetPage 0 twoLetterNames).1 ++ (offsetPage 100 names).1).map localTopicArn := by
  unfold topicPages
  rw [manyTopics_lists.1, lists.1, offsetPage_map, offsetPage_map, List.map_append]
  simp only [List.flatMap_cons, List.flatMap_nil, List.append_nil]

theorem localTopicArn_injective : Function.Injective localTopicArn :=
  fun _ _ same => (List.cons.inj (List.append_cancel_left same)).2

/-- **A topic is skipped.**  The first of 104 topics is deleted after the first page was listed.
The topic that was the first of the second page is then the last of the first page, and is listed
on neither. -/
theorem listTopics_skips :
    WholeWalk sampleSnsLibrary pageRequest .topics (topicPages deleteFirst) ∧
      (∀ page ∈ topicPages deleteFirst,
        SnsListing.topics.InScope pageRequest page.state (localTopicArn "dw")) ∧
      ((topicPages deleteFirst).flatMap (·.arns)).count (localTopicArn "dw") = 0 := by
  refine ⟨wholeWalk_topicPages deleteFirst_lists (by decide +kernel), ?_, ?_⟩
  · intro page isPage
    rcases List.mem_pair.mp isPage with rfl | rfl
    · exact manyTopics_lists.inScope (by decide +kernel)
    · exact deleteFirst_lists.inScope (by decide +kernel)
  · rw [arns_topicPages deleteFirst_lists, List.count_map_of_injective _ _ localTopicArn_injective]
    decide +kernel

/-- When a topic is created behind the offset instead, the same topic is listed once. -/
theorem wholeWalk_complete_createLast :
    ((topicPages createLast).flatMap (·.arns)).count (localTopicArn "dw") = 1 := by
  have contents : contentsOf pageRequest .topics (topicPages createLast) =
      [twoLetterNames.map localTopicArn,
        twoLetterNames.map localTopicArn ++ [localTopicArn "zz"]] := by
    unfold contentsOf topicPages
    rw [List.map_cons, List.map_singleton, manyTopics_lists.1, createLast_lists.1,
      List.map_append, List.map_singleton]
  refine (wholeWalk_complete sampleSnsLibrary pageRequest .topics
    (wholeWalk_topicPages createLast_lists (by decide +kernel)) ?_ ?_).2 _ ?_
  · rw [contents]
    exact ⟨Offsets.steady_append (by rw [List.length_map]; decide +kernel), trivial⟩
  · rw [contents]
    exact ⟨fun item _ _ items isLater => absurd isLater List.not_mem_nil, trivial⟩
  · intro page isPage
    rcases List.mem_pair.mp isPage with rfl | rfl
    · exact manyTopics_lists.inScope (by decide +kernel)
    · exact createLast_lists.inScope (by decide +kernel)

end Hiraeth
