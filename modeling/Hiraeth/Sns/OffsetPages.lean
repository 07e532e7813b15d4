import Hiraeth.Sns.PrefixFilters
import Hiraeth.Sns.SubscriptionActions

/-!
# Listing by offsets

Three actions list a hundred items at a time.  A token is the number of the items that were
listed before, and callers may send any number.

## Main definitions

* `SnsListing` — the three listings
* `OffsetPage`, `OffsetPage.Answers` — a page of a listing
* `OffsetWalk` — pages, each of which continues where the one before it ended
* `SafeOffset` — no overflow, and a token that is greater than the one before it

## Main results

* `succeeds_handle_listing` — what a page shows
* `nextToken_safe_iff` — which tokens are safe, and that walks along them end
-/

namespace Hiraeth

open Interaction Program

/-- **The actions that list by offsets.** -/
inductive SnsListing where
  | topics
  | subscriptions
  | subscriptionsOfTopic (topicArn : Text)
  deriving DecidableEq

namespace SnsListing

/-- The check of a request with this token. -/
def validate (library : SnsLibrary) (request : ResolvedRequest) (nextToken : Option Text) :
    SnsListing → ExceptT SnsError SnsProgram Unit
  | .topics => (listTopicsAction library).validate request ⟨nextToken⟩
  | .subscriptions => (listSubscriptionsAction library).validate request ⟨nextToken⟩
  | .subscriptionsOfTopic topicArn =>
      (listSubscriptionsByTopicAction library).validate request ⟨topicArn, nextToken⟩

/-- The ARNs that a request with this token is answered with, and the next token. -/
def handle (library : SnsLibrary) (request : ResolvedRequest) (nextToken : Option Text) :
    SnsListing → ExceptT SnsError SnsProgram (List Text × Option Text)
  | .topics => do
      let response ← (listTopicsAction library).handle request ⟨nextToken⟩
      return (response.topicArns, response.nextToken)
  | .subscriptions => do
      let response ← (listSubscriptionsAction library).handle request ⟨nextToken⟩
      return (response.subscriptions.map (·.subscriptionArn), response.nextToken)
  | .subscriptionsOfTopic topicArn => do
      let response ← (listSubscriptionsByTopicAction library).handle request ⟨topicArn, nextToken⟩
      return (response.subscriptions.map (·.subscriptionArn), response.nextToken)

/-- All that a listing is about, as the store answers it. -/
def Lists {S : Type} (serve : Serve snsStore S) (request : ResolvedRequest) (state : S)
    (all : List Text) (final : S) : SnsListing → Prop
  | .topics => ∃ topics,
      serve (.listTopics request.region request.accountId none none) state = (.ok topics, final) ∧
        all = topics.map topicSummary
  | .subscriptions => ∃ subscriptions,
      serve (.listSubscriptions request.region request.accountId none) state =
          (.ok subscriptions, final) ∧
        all = subscriptions.map (·.subscriptionArn)
  | .subscriptionsOfTopic topicArn => ∃ topic between subscriptions,
      Succeeds serve (loadTopic topicArn) state topic between ∧
        serve (.listSubscriptionsByTopic topicArn) between = (.ok subscriptions, final) ∧
          all = subscriptions.map (·.subscriptionArn)

end SnsListing

/-- A page: the token it was asked for with, the state of the store, and the answer. -/
structure OffsetPage (S : Type) where
  token : Option Text
  state : S
  arns : List Text
  next : Option Text

section Pages

variable {S : Type} (serve : Serve snsStore S) (library : SnsLibrary) (request : ResolvedRequest)
  (listing : SnsListing)

/-- A page is what a request is answered with. -/
def OffsetPage.Answers (page : OffsetPage S) : Prop :=
  ∃ final, Succeeds serve (listing.handle library request page.token) page.state
    (page.arns, page.next) final

/-- **Pages, each of which continues where the one before it ended.**  Anything may happen to the
store between them. -/
structure OffsetWalk (pages : List (OffsetPage S)) : Prop where
  answered : ∀ page ∈ pages, page.Answers serve library request listing
  continued : pages.IsChain fun page later => page.next.isSome ∧ later.token = page.next

/-- **A token that is safe**: the sum with the length of a page does not overflow, and every token
that it is answered with is greater. -/
def SafeOffset (nextToken : Option Text) (offset : ℕ) : Prop :=
  usizeAdd offset 100 = offset + 100 ∧
    ∀ (page : OffsetPage S) (next : Text), page.Answers serve library request listing →
      page.token = nextToken → page.next = some next →
        ∃ later, offsetOfToken (some next) = .ok later ∧ offset < later

end Pages

/-! ### Tokens -/

/-- A number that fits is read back. -/
theorem parseUsize_toDigits {number : ℕ} (inRange : number ≤ 18446744073709551615) :
    parseUsize (Nat.toDigits 10 number) = some number := by
  have reads := parseDigits_toString number
  rw [toString_digits] at reads
  unfold parseUsize
  split
  · rename_i digits isSigned
    have isDigit := Nat.isDigit_of_mem_toDigits (b := 10) (n := number) (by decide) (by decide)
      (isSigned ▸ List.mem_cons_self)
    exact absurd isDigit (by decide)
  · rw [reads]
    exact Option.filter_some_pos (decide_eq_true inRange)

theorem offsetOfToken_toDigits {number : ℕ} (inRange : number ≤ 18446744073709551615) :
    offsetOfToken (some (Nat.toDigits 10 number)) = .ok number := by
  rw [offsetOfToken, parseUsize_toDigits inRange]

/-! ### Pages -/

/-- A page of items, seen through one of their columns. -/
theorem offsetPage_map {α β : Type} (column : α → β) (offset : ℕ) (items : List α) :
    offsetPage offset (items.map column) =
      ((offsetPage offset items).1.map column, (offsetPage offset items).2) := by
  simp only [offsetPage, List.length_map, ← List.map_drop, ← List.map_take]

section Pages

variable {S : Type} {serve : Serve snsStore S} {library : SnsLibrary} {request : ResolvedRequest}
  {listing : SnsListing}

/-- **What a request with a token is answered with**: a page of all that is listed, from the offset
on that the token stands for. -/
theorem succeeds_handle_listing {nextToken next : Option Text} {state final : S}
    {arns : List Text} :
    Succeeds serve (listing.handle library request nextToken) state (arns, next) final ↔
      ∃ offset all, offsetOfToken nextToken = .ok offset ∧
        listing.Lists serve request state all final ∧ (arns, next) = offsetPage offset all := by
  cases listing with
  | topics =>
      simp only [SnsListing.handle, listTopicsAction, handleListTopics, SnsListing.Lists,
        succeeds_bind, succeeds_liftExcept, succeeds_orFail, succeeds_pure]
      constructor
      · rintro ⟨response, _, ⟨offset, _, ⟨isOffset, rfl⟩, topics, _, listed, rfl, rfl⟩, shown, rfl⟩
        exact ⟨offset, _, isOffset, ⟨topics, listed, rfl⟩,
          shown.symm.trans (offsetPage_map topicSummary offset topics).symm⟩
      · rintro ⟨offset, _, isOffset, ⟨topics, listed, rfl⟩, shown⟩
        exact ⟨_, _, ⟨offset, _, ⟨isOffset, rfl⟩, topics, _, listed, rfl, rfl⟩,
          (offsetPage_map topicSummary offset topics).symm.trans shown.symm, rfl⟩
  | subscriptions =>
      simp only [SnsListing.handle, listSubscriptionsAction, handleListSubscriptions,
        SnsListing.Lists, succeeds_bind, succeeds_liftExcept, succeeds_orFail, succeeds_pure]
      constructor
      · rintro ⟨response, _, ⟨offset, _, ⟨isOffset, rfl⟩, rows, _, listed, rfl, rfl⟩, shown, rfl⟩
        refine ⟨offset, _, isOffset, ⟨rows, listed, rfl⟩, shown.symm.trans ?_⟩
        rw [offsetPage_map, List.map_map]
        rfl
      · rintro ⟨offset, _, isOffset, ⟨rows, listed, rfl⟩, shown⟩
        refine ⟨_, _, ⟨offset, _, ⟨isOffset, rfl⟩, rows, _, listed, rfl, rfl⟩, ?_, rfl⟩
        rw [shown, offsetPage_map, List.map_map]
        rfl
  | subscriptionsOfTopic topicArn =>
      simp only [SnsListing.handle, listSubscriptionsByTopicAction, handleListSubscriptionsByTopic,
        SnsListing.Lists, succeeds_bind, succeeds_liftExcept, succeeds_orFail, succeeds_pure]
      constructor
      · rintro ⟨response, _, ⟨offset, _, ⟨isOffset, rfl⟩, topic, between, loads, rows, _, listed,
          rfl, rfl⟩, shown, rfl⟩
        refine ⟨offset, _, isOffset, ⟨topic, between, rows, loads, listed, rfl⟩,
          shown.symm.trans ?_⟩
        rw [offsetPage_map, List.map_map]
        rfl
      · rintro ⟨offset, _, isOffset, ⟨topic, between, rows, loads, listed, rfl⟩, shown⟩
        refine ⟨_, _, ⟨offset, _, ⟨isOffset, rfl⟩, topic, between, loads, rows, _, listed, rfl,
          rfl⟩, ?_, rfl⟩
        rw [shown, offsetPage_map, List.map_map]
        rfl

/-- **What a page tells**: its token is an offset, and a next token stands for the offset behind
the page. -/
theorem OffsetPage.Answers.next_eq {page : OffsetPage S} {next : Text}
    (answers : page.Answers serve library request listing) (more : page.next = some next) :
    ∃ offset, offsetOfToken page.token = .ok offset ∧
      offsetOfToken (some next) = .ok (usizeAdd offset 100) := by
  obtain ⟨final, succeeds⟩ := answers
  obtain ⟨offset, all, isOffset, -, shown⟩ := succeeds_handle_listing.mp succeeds
  have isNext : page.next = _ := congrArg Prod.snd shown
  rw [more, offsetPage] at isNext
  refine ⟨offset, isOffset, ?_⟩
  by_cases longer : usizeAdd offset 100 < all.length
  · rw [if_pos longer] at isNext
    obtain rfl := Option.some.inj isNext
    exact offsetOfToken_toDigits (Nat.le_of_lt_succ (Nat.mod_lt _ (by decide)))
  · rw [if_neg longer] at isNext
    cases isNext

/-- A sum that fits. -/
theorem usizeAdd_eq_iff (left right : ℕ) :
    usizeAdd left right = left + right ↔ left + right ≤ 18446744073709551615 := by
  unfold usizeAdd
  omega

/-- The check of a token, in each of the listings. -/
theorem offset_of_validated {nextToken : Option Text} {state final : S}
    (accepted : Succeeds serve (listing.validate library request nextToken) state () final) :
    ∃ offset, offsetOfToken nextToken = .ok offset := by
  have checked : validateNextToken nextToken = .ok () := by
    cases listing with
    | topics => exact (succeeds_liftExcept.mp accepted).1
    | subscriptions => exact (succeeds_liftExcept.mp accepted).1
    | subscriptionsOfTopic topicArn =>
        obtain ⟨-, _, -, checksToken⟩ := succeeds_bind.mp accepted
        exact (succeeds_liftExcept.mp checksToken).1
  unfold validateNextToken at checked
  cases isOffset : offsetOfToken nextToken with
  | ok offset => exact ⟨offset, rfl⟩
  | error failure => rw [isOffset] at checked; cases checked

/-- **A token is safe exactly when the sum fits.** -/
theorem safeOffset_iff {nextToken : Option Text} {offset : ℕ}
    (isOffset : offsetOfToken nextToken = .ok offset) :
    SafeOffset serve library request listing nextToken offset ↔
      offset + 100 ≤ 18446744073709551615 := by
  unfold SafeOffset
  rw [usizeAdd_eq_iff]
  refine ⟨fun safe => safe.1, fun inRange => ⟨inRange, ?_⟩⟩
  rintro page next answers rfl more
  obtain ⟨offset', isOffset', isNext⟩ := answers.next_eq more
  obtain rfl := Except.ok.inj (isOffset.symm.trans isOffset')
  refine ⟨_, isNext, ?_⟩
  rw [(usizeAdd_eq_iff _ _).mpr inRange]
  exact Nat.lt_add_of_pos_right (by decide)

/-- **A walk along safe tokens ends**: every page but the last moves a hundred items on. -/
theorem OffsetWalk.length_le {pages : List (OffsetPage S)}
    (walk : OffsetWalk serve library request listing pages)
    (safe : ∀ page ∈ pages, ∀ offset, offsetOfToken page.token = .ok offset →
      offset + 100 ≤ 18446744073709551615) {first : OffsetPage S} {offset : ℕ}
    (starts : pages.head? = some first) (isOffset : offsetOfToken first.token = .ok offset) :
    offset + 100 * pages.length ≤ 18446744073709551615 := by
  obtain ⟨answered, continued⟩ := walk
  induction pages generalizing first offset with
  | nil => cases starts
  | cons page rest inductionHypothesis =>
      obtain rfl := Option.some.inj starts
      have inRange := safe page List.mem_cons_self offset isOffset
      cases rest with
      | nil => simpa using inRange
      | cons later rest =>
          obtain ⟨⟨more, sameToken⟩, continuedRest⟩ := List.isChain_cons_cons.mp continued
          obtain ⟨next, isNext⟩ := Option.isSome_iff_exists.mp more
          obtain ⟨offset', isOffset', isLater⟩ :=
            (answered page List.mem_cons_self).next_eq isNext
          obtain rfl := Except.ok.inj (isOffset.symm.trans isOffset')
          rw [(usizeAdd_eq_iff _ _).mpr inRange, ← isNext, ← sameToken] at isLater
          have bound := inductionHypothesis
            (fun page isPage => safe page (List.mem_cons_of_mem _ isPage)) rfl isLater
            (fun page isPage => answered page (List.mem_cons_of_mem _ isPage)) continuedRest
          simp only [List.length_cons] at bound ⊢
          omega

end Pages

/-- **Which tokens are safe.**  A token that passes the check is safe exactly when its sum with the
length of a page fits into 64 bits.  Along such tokens, a walk ends. -/
theorem nextToken_safe_iff {S : Type} (serve : Serve snsStore S) (library : SnsLibrary)
    (request : ResolvedRequest) (listing : SnsListing) (nextToken : Option Text) (state final : S)
    (accepted : Succeeds serve (listing.validate library request nextToken) state () final) :
    ∃ offset, offsetOfToken nextToken = .ok offset ∧
      (SafeOffset serve library request listing nextToken offset ↔
        offset + 100 ≤ 18446744073709551615) ∧
      ∀ pages, OffsetWalk serve library request listing pages →
        pages.head?.map (·.token) = some nextToken →
          (∀ page ∈ pages, ∀ offset, offsetOfToken page.token = .ok offset →
            offset + 100 ≤ 18446744073709551615) →
          offset + 100 * pages.length ≤ 18446744073709551615 := by
  obtain ⟨offset, isOffset⟩ := offset_of_validated accepted
  refine ⟨offset, isOffset, safeOffset_iff isOffset, fun pages walk starts safe => ?_⟩
  obtain ⟨first, isFirst, rfl⟩ := Option.map_eq_some_iff.mp starts
  exact walk.length_le safe isFirst isOffset

/-- A request that asks for the page from this offset on. -/
def pageRequest : ResolvedRequest :=
  userRequest 0 "NextToken=18446744073709551516"

/-- The store with one topic answers it with the first page's token. -/
theorem not_safeOffset_wrapped :
    ¬ SafeOffset SqliteSns.serve sampleSnsLibrary pageRequest .topics
      (some "18446744073709551516") 18446744073709551516 := by
  rintro ⟨-, greater⟩
  have listed : (topicStore []).selectTopics pageRequest.region pageRequest.accountId none i64Max =
      [ordersTopic []] := by decide +kernel
  have answers : OffsetPage.Answers SqliteSns.serve sampleSnsLibrary pageRequest .topics
      ⟨some "18446744073709551516", topicStore [], [], some "0"⟩ :=
    ⟨topicStore [], succeeds_handle_listing.mpr
      ⟨18446744073709551516, [ordersTopicArn], by decide +kernel,
        ⟨[ordersTopic []], Prod.ext (congrArg Except.ok listed) rfl, by decide +kernel⟩,
        by decide +kernel⟩⟩
  obtain ⟨later, isLater, ascends⟩ := greater _ "0" answers rfl rfl
  have zero : offsetOfToken (some "0") = .ok 0 := by decide +kernel
  obtain rfl := Except.ok.inj (zero.symm.trans isLater)
  exact absurd ascends (Nat.not_lt_zero _)

/-- The token of the second page. -/
theorem nextToken_safe_iff_secondPage :
    ∃ offset, offsetOfToken (some "100") = .ok offset ∧
      (SafeOffset SqliteSns.serve sampleSnsLibrary pageRequest .topics (some "100") offset ↔
        offset + 100 ≤ 18446744073709551615) := by
  obtain ⟨offset, isOffset, safe, -⟩ := nextToken_safe_iff SqliteSns.serve sampleSnsLibrary
    pageRequest .topics (some "100") (topicStore []) (topicStore [])
    (succeeds_liftExcept.mpr
      ⟨(by decide +kernel : validateNextToken (some "100") = .ok ()), rfl⟩)
  exact ⟨offset, isOffset, safe⟩

end Hiraeth
