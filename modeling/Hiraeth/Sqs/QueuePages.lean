import Hiraeth.Lib.Cursor
import Hiraeth.Sqs.Accepted
import Hiraeth.Sqs.QueueActions

/-!
# Listing queues page by page

A request that lists queues asks the store for the queues behind the last name that
the page before it listed, and for one queue more than it answers.  Its pages are
pages behind a cursor, so that queues may be created and deleted between them.

## Main definitions

* `SqsDatabase.namesInScope` — the names that a listing is about
* `ListsQueues` — a listing, page by page, with other calls in between

## Main results

* `answer_of_handleListQueues` — an answer is the page behind the token
* `listQueues_complete` — a listing is complete, in order, and lists nothing twice
-/

namespace Hiraeth

open Interaction Program

namespace SqsDatabase

variable {database : SqsDatabase} {region accountId : Text} {start token : Option Text}

/-- The names of the queues of a region and an account that start with a prefix. -/
def namesInScope (database : SqsDatabase) (region accountId : Text) (start : Option Text) :
    Set Text :=
  { name | ∃ row ∈ database.queues.rows, row.name = name ∧ row.region = region ∧
    row.accountId = accountId ∧ ∀ lead ∈ start, lead <+: row.name }

/-- The queues behind a token, in order.  A negative limit is none. -/
def queuesBehind (database : SqsDatabase) (region accountId : Text) (start token : Option Text) :
    List SqsQueue :=
  database.listQueues region accountId start (some (-1)) token

/-- A limit cuts them off. -/
theorem listQueues_limit {limit : ℤ} (nonnegative : 0 ≤ limit) :
    database.listQueues region accountId start (some limit) token =
      (database.queuesBehind region accountId start token).take limit.toNat :=
  if_neg (not_lt.mpr nonnegative)

theorem mem_queuesBehind {queue : SqsQueue} :
    queue ∈ database.queuesBehind region accountId start token ↔
      queue ∈ database.queues.rows ∧ queue.region = region ∧ queue.accountId = accountId ∧
        (∀ lead ∈ start, lead <+: queue.name) ∧ Cursor.Beyond token queue.name := by
  show queue ∈ List.insertionSort _ (List.filter _ _) ↔ _
  simp only [List.mem_insertionSort, List.mem_filter, Bool.and_eq_true, decide_eq_true_eq,
    and_assoc, Option.all_eq_true, Cursor.Beyond, Option.mem_def]

/-- **A name is listed when it is in scope and lies behind the token.** -/
theorem mem_names_queuesBehind {name : Text} :
    name ∈ (database.queuesBehind region accountId start token).map (·.name) ↔
      name ∈ database.namesInScope region accountId start ∧ Cursor.Beyond token name := by
  simp only [List.mem_map, mem_queuesBehind, namesInScope, Set.mem_ofPred_eq]
  constructor
  · rintro ⟨queue, ⟨isRow, sameRegion, sameAccount, begins, beyond⟩, rfl⟩
    exact ⟨⟨queue, isRow, rfl, sameRegion, sameAccount, begins⟩, beyond⟩
  · rintro ⟨⟨queue, isRow, rfl, sameRegion, sameAccount, begins⟩, beyond⟩
    exact ⟨queue, ⟨isRow, sameRegion, sameAccount, begins, beyond⟩, rfl⟩

/-- **The names are in ascending order**, each of them once. -/
theorem pairwise_queuesBehind (unique : database.queues.UniqueOn identity) :
    ((database.queuesBehind region accountId start token).map (·.name)).Pairwise
      fun left right => left < right := by
  have rowsDiffer : database.queues.rows.Nodup :=
    database.queues.ascending.imp fun smaller same => Nat.ne_of_lt smaller (congrArg _ same)
  have listedOnce : (database.queuesBehind region accountId start token).Nodup :=
    (List.perm_insertionSort _ _).nodup_iff.mpr (rowsDiffer.filter _)
  have namesDiffer : ((database.queuesBehind region accountId start token).map (·.name)).Nodup := by
    refine listedOnce.map_on fun left isLeft right isRight same => ?_
    obtain ⟨leftRow, leftRegion, leftAccount, -⟩ := mem_queuesBehind.mp isLeft
    obtain ⟨rightRow, rightRegion, rightAccount, -⟩ := mem_queuesBehind.mp isRight
    refine unique leftRow rightRow ?_
    rw [identity, identity, same, leftRegion, rightRegion, leftAccount, rightAccount]
  have sorted : ((database.queuesBehind region accountId start token).map (·.name)).Pairwise
      fun left right => left ≤ right :=
    List.pairwise_map.mpr (List.pairwise_insertionSort _ _)
  exact (sorted.and namesDiffer).imp fun both => lt_of_le_of_ne both.1 both.2

end SqsDatabase

section Pages

variable {request : ResolvedRequest} {start token : Option Text} {maxResults : ℤ}
  {state final : SqsDatabase} {response : ListQueuesResponse}

/-- The URL of a queue of the caller. -/
def callerUrl (request : ResolvedRequest) (name : Text) : Text :=
  queueUrl request.request.host request.accountId name

/-- The page of a request, as a page behind a cursor. -/
def queuePage (request : ResolvedRequest) (start token : Option Text) (maxResults : ℤ)
    (state : SqsDatabase) : Cursor.Page Text :=
  Cursor.pageOf (state.namesInScope request.region request.accountId start) maxResults.toNat
    ((state.queuesBehind request.region request.accountId start token).map (·.name))

/-- It lists the names behind the token. -/
theorem follows_queuePage (positive : 0 < maxResults.toNat)
    (unique : state.queues.UniqueOn SqsDatabase.identity) :
    (queuePage request start token maxResults state).Follows token :=
  Cursor.follows_pageOf positive (SqsDatabase.pairwise_queuesBehind unique)
    fun _ => SqsDatabase.mem_names_queuesBehind

/-- **One queue more than is answered tells whether there are more.** -/
theorem pageOfQueues_take {queues : List SqsQueue} (nonnegative : 0 ≤ maxResults) :
    pageOfQueues (some maxResults) (queues.take (maxResults.toNat + 1)) =
      (queues.take maxResults.toNat, if maxResults.toNat < queues.length then
        (queues.take maxResults.toNat).getLast?.map (·.name) else none) := by
  dsimp only [pageOfQueues]
  rw [List.length_take, List.take_take]
  by_cases more : maxResults.toNat < queues.length
  · rw [if_pos (by omega), if_pos more, min_eq_left (Nat.le_succ _)]
  · rw [if_neg (by omega), if_neg more, List.take_of_length_le (by omega),
      List.take_of_length_le (by omega)]

/-- **An answer is the page behind the token**, and listing changes nothing. -/
theorem answer_of_handleListQueues
    (handles : Succeeds SqsDatabase.serve
      (handleListQueues request ⟨some maxResults, token, start⟩) state response final) :
    state = final ∧ 0 < maxResults.toNat ∧
      response.queueUrls =
        (queuePage request start token maxResults state).keys.map (callerUrl request) ∧
      response.nextToken = (queuePage request start token maxResults state).next := by
  simp only [handleListQueues, succeeds_bind, succeeds_liftExcept, succeeds_orFail] at handles
  obtain ⟨_, _, ⟨valid, rfl⟩, queues, _, asked, rest⟩ := handles
  obtain ⟨isAsked, rfl⟩ := Prod.mk.inj asked
  obtain ⟨rfl, rfl⟩ := succeeds_pure.mp rest
  have bounds : 1 ≤ maxResults ∧ maxResults ≤ 1000 := by
    simp only [validateListQueuesRequest] at valid
    split_ifs at valid with outside
    simpa using outside
  have limited : queues = (state.queuesBehind request.region request.accountId start token).take
      (maxResults.toNat + 1) := by
    have nonnegative : 0 ≤ min (maxResults + 1) 9223372036854775807 := by
      omega
    rw [← Except.ok.inj isAsked]
    refine (SqsDatabase.listQueues_limit nonnegative).trans ?_
    congr 1
    omega
  rw [limited, pageOfQueues_take (by omega)]
  refine ⟨rfl, by omega, ?_, ?_⟩
  · rw [queuePage, Cursor.pageOf, ← List.map_take, List.map_map]
    rfl
  · rw [queuePage, Cursor.pageOf, ← List.map_take, List.getLast?_map, List.length_map]

/-- What other requests do between two pages: any calls, one after the other. -/
def Evolves (state later : SqsDatabase) : Prop :=
  ∃ calls : List SqsCall,
    later = calls.foldl (fun database call => (SqsDatabase.serve call database).2) state

/-- No two queues have one identity, whatever is called. -/
theorem Evolves.unique {later : SqsDatabase} (evolves : Evolves state later)
    (unique : state.queues.UniqueOn SqsDatabase.identity) :
    later.queues.UniqueOn SqsDatabase.identity := by
  obtain ⟨calls, rfl⟩ := evolves
  induction calls generalizing state with
  | nil => exact unique
  | cons call calls inductionHypothesis =>
      exact inductionHypothesis (SqsDatabase.uniqueOn_serve call unique)

/-- **A listing, page by page.**  Each page is asked for with the token of the page
before it, and anything may be called in between. -/
inductive ListsQueues (request : ResolvedRequest) (start : Option Text) (maxResults : ℤ) :
    Option Text → SqsDatabase → List (SqsDatabase × ListQueuesResponse) → Prop
  | last {token : Option Text} {state final : SqsDatabase} {response : ListQueuesResponse}
      (handles : Succeeds SqsDatabase.serve
        (handleListQueues request ⟨some maxResults, token, start⟩) state response final)
      (ends : response.nextToken = none) :
      ListsQueues request start maxResults token state [(state, response)]
  | more {token : Option Text} {next : Text} {state final later : SqsDatabase}
      {response : ListQueuesResponse} {pages : List (SqsDatabase × ListQueuesResponse)}
      (handles : Succeeds SqsDatabase.serve
        (handleListQueues request ⟨some maxResults, token, start⟩) state response final)
      (continues : response.nextToken = some next) (evolves : Evolves final later)
      (rest : ListsQueues request start maxResults (some next) later pages) :
      ListsQueues request start maxResults token state ((state, response) :: pages)

/-- An answer of a request, and the page that it stands for. -/
structure AnswersPage (request : ResolvedRequest) (start : Option Text)
    (answer : SqsDatabase × ListQueuesResponse) (page : Cursor.Page Text) : Prop where
  present : page.present = answer.1.namesInScope request.region request.accountId start
  urls : answer.2.queueUrls = page.keys.map (callerUrl request)
  next : answer.2.nextToken = page.next

/-- Every answer stands for a page of the walk. -/
theorem exists_page {α β : Type} {related : α → β → Prop} {answers : List α} {walked : List β}
    (all : List.Forall₂ related answers walked) {answer : α} (member : answer ∈ answers) :
    ∃ page ∈ walked, related answer page := by
  induction all with
  | nil => exact absurd member List.not_mem_nil
  | cons first _ inductionHypothesis =>
      rcases List.mem_cons.mp member with rfl | later
      · exact ⟨_, List.mem_cons_self, first⟩
      · obtain ⟨page, isPage, answers⟩ := inductionHypothesis later
        exact ⟨page, List.mem_cons_of_mem _ isPage, answers⟩

/-- **A listing is a walk behind a cursor.** -/
theorem ListsQueues.walk {pages : List (SqsDatabase × ListQueuesResponse)}
    (lists : ListsQueues request start maxResults token state pages)
    (unique : state.queues.UniqueOn SqsDatabase.identity) :
    ∃ walked, List.Forall₂ (AnswersPage request start) pages walked ∧
      Cursor.Walk token walked := by
  induction lists with
  | @last token state final response handles ends =>
      obtain ⟨rfl, positive, isUrls, isNext⟩ := answer_of_handleListQueues handles
      have follows := @follows_queuePage request start token maxResults state positive unique
      refine ⟨[queuePage request start token maxResults state],
        .cons ⟨rfl, isUrls, isNext⟩ .nil, .last follows ?_⟩
      exact isNext.symm.trans ends
  | @more token next state final later response pages handles continues evolves _
      inductionHypothesis =>
      obtain ⟨rfl, positive, isUrls, isNext⟩ := answer_of_handleListQueues handles
      have follows := @follows_queuePage request start token maxResults state positive unique
      obtain ⟨walked, answer, walk⟩ := inductionHypothesis (evolves.unique unique)
      exact ⟨queuePage request start token maxResults state :: walked,
        .cons ⟨rfl, isUrls, isNext⟩ answer, .more follows (isNext.symm.trans continues) walk⟩

/-- Every request with such a limit is answered. -/
theorem exists_handleListQueues (low : 1 ≤ maxResults) (high : maxResults ≤ 1000) :
    ∃ response, Succeeds SqsDatabase.serve
      (handleListQueues request ⟨some maxResults, token, start⟩) state response state := by
  have valid : validateListQueuesRequest ⟨some maxResults, token, start⟩ = .ok () := by
    simp [validateListQueuesRequest, low, high]
  exact ⟨_, succeeds_bind.mpr ⟨(), state, succeeds_liftExcept.mpr ⟨valid, rfl⟩,
    succeeds_bind.mpr ⟨_, state, succeeds_orFail.mpr rfl, succeeds_pure.mpr ⟨rfl, rfl⟩⟩⟩⟩

/-- Different names have different URLs. -/
theorem callerUrl_injective (request : ResolvedRequest) :
    Function.Injective (callerUrl request) := by
  intro left right same
  exact (List.cons.inj (List.append_cancel_left same)).2

/-- **A listing is complete.**  It returns the names in ascending order, no queue twice,
every queue that is in scope at every page, and nothing else; and a token is the last
name of its page, and is returned only when there are more. -/
theorem listQueues_complete {pages : List (SqsDatabase × ListQueuesResponse)}
    (unique : state.queues.UniqueOn SqsDatabase.identity)
    (lists : ListsQueues request start maxResults none state pages) :
    ∃ names : List Text,
      pages.flatMap (fun page => page.2.queueUrls) = names.map (callerUrl request) ∧
      (pages.flatMap fun page => page.2.queueUrls).Nodup ∧
      names.Pairwise (fun left right => left < right) ∧
      (∀ name, (∀ page ∈ pages,
        name ∈ page.1.namesInScope request.region request.accountId start) → name ∈ names) ∧
      ∀ page ∈ pages,
        (∀ url ∈ page.2.queueUrls, ∃ name ∈
          page.1.namesInScope request.region request.accountId start, url = callerUrl request name) ∧
        ∀ token ∈ page.2.nextToken, callerUrl request token ∈ page.2.queueUrls ∧
          ∃ name ∈ page.1.namesInScope request.region request.accountId start, token < name := by
  obtain ⟨walked, answer, walk⟩ := lists.walk unique
  have urls : pages.flatMap (fun page => page.2.queueUrls) =
      (Cursor.keysOf walked).map (callerUrl request) := by
    clear walk lists
    induction answer with
    | nil => rfl
    | cons first _ inductionHypothesis =>
        rw [List.flatMap_cons, inductionHypothesis, first.urls, Cursor.keysOf, Cursor.keysOf,
          List.flatMap_cons, List.map_append]
  refine ⟨Cursor.keysOf walked, urls, ?_, walk.ascending, ?_, ?_⟩
  · rw [urls]
    exact (walk.ascending.imp ne_of_lt).map _ fun _ _ differ same =>
      differ (callerUrl_injective request same)
  · intro name inScope
    refine walk.mem_of_present (fun page member => ?_) Cursor.beyond_none
    obtain ⟨own, isOwn, answers⟩ := exists_page answer.flip member
    rw [answers.present]
    exact inScope own isOwn
  · intro page member
    obtain ⟨own, isOwn, answers⟩ := exists_page answer member
    obtain ⟨cursor, follows⟩ := walk.follows own isOwn
    constructor
    · intro url isUrl
      rw [answers.urls] at isUrl
      obtain ⟨name, isKey, rfl⟩ := List.mem_map.mp isUrl
      exact ⟨name, answers.present ▸ (follows.sound name isKey).1, rfl⟩
    · intro token isNext
      rw [answers.next] at isNext
      rw [answers.urls, ← answers.present]
      exact ⟨List.mem_map_of_mem (follows.last token isNext).1, follows.more token isNext⟩

end Pages

/-! ### Two pages, and a queue that is deleted between them -/

/-- A second queue. -/
def usersQueue : SqsQueue :=
  { ordersQueue with id := 2, name := "users" }

/-- A store with two queues. -/
def twoQueues : SqsDatabase :=
  { ordersStore with queues := ⟨[ordersQueue, usersQueue], by decide⟩ }

/-- The answers that list one queue each. -/
def ordersPage : ListQueuesResponse where
  queueUrls := [callerUrl (userRequest 0 []) "orders"]
  nextToken := some "orders"

def usersPage : ListQueuesResponse where
  queueUrls := [callerUrl (userRequest 0 []) "users"]
  nextToken := none

/-- The queue of the first page is deleted before the second page is asked for. -/
theorem lists_twoQueues : ListsQueues (userRequest 0 []) none 1 none twoQueues
    [(twoQueues, ordersPage), ((twoQueues.deleteQueue 1).2, usersPage)] := by
  have first : Succeeds SqsDatabase.serve (handleListQueues (userRequest 0 [])
      ⟨some 1, none, none⟩) twoQueues ordersPage twoQueues := rfl
  have second : Succeeds SqsDatabase.serve (handleListQueues (userRequest 0 [])
      ⟨some 1, some "orders", none⟩) (twoQueues.deleteQueue 1).2 usersPage
        (twoQueues.deleteQueue 1).2 := rfl
  exact .more first rfl ⟨[.deleteQueue 1], rfl⟩ (.last second rfl)

/-- Both queues are listed, although the first one is gone when the second is. -/
theorem listQueues_complete_twoQueues :
    ∃ names : List Text, [ordersPage, usersPage].flatMap (fun page => page.queueUrls) =
        names.map (callerUrl (userRequest 0 [])) ∧
      names.Pairwise (fun left right => left < right) ∧ ("users" : Text) ∈ names := by
  have namesDiffer : SqsDatabase.identity ordersQueue ≠ SqsDatabase.identity usersQueue := by
    decide +kernel
  have unique : twoQueues.queues.UniqueOn SqsDatabase.identity := by
    intro left isLeft right isRight same
    rcases List.mem_pair.mp isLeft with rfl | rfl <;> rcases List.mem_pair.mp isRight with rfl | rfl
    · rfl
    · exact absurd same namesDiffer
    · exact absurd same.symm namesDiffer
    · rfl
  obtain ⟨names, isUrls, -, ascending, complete, -⟩ := listQueues_complete unique lists_twoQueues
  refine ⟨names, isUrls, ascending, complete "users" fun page member => ?_⟩
  rcases List.mem_cons.mp member with rfl | second
  · exact ⟨usersQueue, List.mem_cons_of_mem _ List.mem_cons_self, rfl, rfl, rfl, nofun⟩
  · obtain rfl := List.mem_singleton.mp second
    exact ⟨usersQueue, List.mem_cons_self, rfl, rfl, rfl, nofun⟩

end Hiraeth
