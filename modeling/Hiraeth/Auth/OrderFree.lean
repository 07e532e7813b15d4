import Hiraeth.Auth.Completeness

/-!
# Canonicalisation does not see the order

A client may write its query pairs and list its signed headers in any order.
The server sorts both before it signs.  The sort is an unstable one, and the
pairs are compared by their encoded names and then by their encoded values.
Encoding is injective, so two pairs that compare as equal are the same pair:
the comparison is a total order and there is only one sorted arrangement.

## Main definitions

* `wirePairs` — the pieces of the query string

## Main results

* `extractQueryParams_unique`, `canonicalizeSignedHeaders_unique` — every sort
  gives the list of the model
* `canonicalQueryString_eq_iff` — the canonical query string is the same exactly
  for the same pairs in any order
* `canonicalisation_orderFree` — neither order nor letter case is seen, and the
  canonical list of names is its own canonical list
-/

namespace Hiraeth

/-! ### The order of the query pairs -/

/-- Of two pairs, one comes first. -/
instance encodedPairLe_total : Std.Total encodedPairLe where
  total left right := by
    rcases Std.lt_trichotomy (awsUriEncode left.1 true) (awsUriEncode right.1 true) with
      first | same | second
    · exact .inl (.inl first)
    · cases (Std.le_total : awsUriEncode left.2 true ≤ awsUriEncode right.2 true ∨ _) with
      | inl below => exact .inl (.inr ⟨same, below⟩)
      | inr above => exact .inr (.inr ⟨same.symm, above⟩)
    · exact .inr (.inl second)

/-- The comparison is transitive: the values are compared only under one name. -/
instance encodedPairLe_trans : IsTrans (Text × Text) encodedPairLe where
  trans left middle right := by
    rintro (first | ⟨same, below⟩) (second | ⟨same', below'⟩)
    · exact .inl (Std.lt_trans first second)
    · exact .inl (same' ▸ first)
    · exact .inl (same ▸ second)
    · exact .inr ⟨same.trans same', Std.le_trans below below'⟩

/-- **Pairs that compare as equal are the same pair.**  Nothing is lost by the
encoding, neither in the name nor in the value. -/
instance encodedPairLe_antisymm : Std.Antisymm encodedPairLe where
  antisymm left right := by
    rintro (first | ⟨same, below⟩) (second | ⟨same', above⟩)
    · exact absurd (Std.lt_trans first second) Std.lt_irrefl
    · exact absurd (same' ▸ first) Std.lt_irrefl
    · exact absurd (same ▸ second) Std.lt_irrefl
    · exact Prod.ext (awsUriEncode_injective true same)
        (awsUriEncode_injective true (Std.le_antisymm below above))

/-! ### The query string -/

section Query

variable {left right request : IncomingRequest}

/-- The pieces of the query string, as they stand between the ampersands. -/
def wirePairs (request : IncomingRequest) : List Text :=
  match request.query with
  | some query => query.splitOn '&'
  | none => []

/-- Each piece is read on its own. -/
theorem rawQueryPairs_eq_map (request : IncomingRequest) :
    rawQueryPairs request = (wirePairs request).map queryPair := by
  unfold rawQueryPairs wirePairs
  cases request.query with
  | none => rfl
  | some query => rfl

/-- **Every sort of the pairs is this one.**  It does not matter that the sort
is unstable. -/
theorem extractQueryParams_unique {params : List (Text × Text)}
    (arranged : params.Perm (rawQueryPairs request)) (sorted : params.Pairwise encodedPairLe) :
    params = extractQueryParams request := by
  have reference : (extractQueryParams request).Pairwise encodedPairLe :=
    List.pairwise_insertionSort encodedPairLe _
  have arrangement : params.Perm (extractQueryParams request) :=
    arranged.trans (List.perm_insertionSort encodedPairLe _).symm
  exact arrangement.eq_of_pairwise' sorted reference

/-- **The canonical query string is the multiset of the pairs.** -/
theorem canonicalQueryString_eq_iff :
    canonicalQueryString left = canonicalQueryString right ↔
      (rawQueryPairs left).Perm (rawQueryPairs right) := by
  constructor
  · exact rawQueryPairs_perm_of_canonicalQueryString_eq
  · intro arranged
    have params : extractQueryParams left = extractQueryParams right := by
      apply extractQueryParams_unique
      · exact (List.perm_insertionSort encodedPairLe _).trans arranged
      · exact List.pairwise_insertionSort encodedPairLe _
    rw [canonicalQueryString, canonicalQueryString, params]

end Query

/-! ### The signed headers -/

section SignedHeaders

variable {names others : List Text}

/-- The canonical names are in order, and none is there twice. -/
theorem pairwise_canonicalizeSignedHeaders (names : List Text) :
    (canonicalizeSignedHeaders names).Pairwise (· < ·) :=
  pairwise_dedup (List.pairwise_insertionSort (· ≤ ·) _)

/-- The canonical names are determined by which names there are in lower case. -/
theorem canonicalizeSignedHeaders_congr
    (same : ∀ name, name ∈ names.map toAsciiLowercase ↔ name ∈ others.map toAsciiLowercase) :
    canonicalizeSignedHeaders names = canonicalizeSignedHeaders others := by
  refine (pairwise_canonicalizeSignedHeaders names).eq_of_mem_iff
    (pairwise_canonicalizeSignedHeaders others) fun name => ?_
  rw [mem_canonicalizeSignedHeaders, mem_canonicalizeSignedHeaders]
  exact same name

/-- **Every sort of the names is this one.** -/
theorem canonicalizeSignedHeaders_unique {sorted : List Text}
    (arranged : sorted.Perm (names.map toAsciiLowercase)) (ordered : sorted.Pairwise (· ≤ ·)) :
    dedup sorted = canonicalizeSignedHeaders names := by
  refine (pairwise_dedup ordered).eq_of_mem_iff
    (pairwise_canonicalizeSignedHeaders names) fun name => ?_
  rw [mem_dedup, mem_canonicalizeSignedHeaders]
  exact arranged.mem_iff

/-- A character in lower case is no capital. -/
theorem isUpper_toLower (c : Char) : c.toLower.isUpper = false := by
  apply decide_eq_false
  rintro ⟨least, most⟩
  have high : c.toLower.toNat ≤ 90 := UInt32.le_iff_toNat_le.mp most
  rcases toLower_cases c with same | ⟨low, -⟩
  · -- A capital moves, so it is not its own lower case.
    rw [same] at least most high
    have moved := val_toLower ⟨least, most⟩
    have numbers : c.val.toNat = (c.val.toNat + 32) % 4294967296 := by
      rw [same] at moved
      exact (congrArg UInt32.toNat moved).trans (UInt32.toNat_add _ _)
    have small : c.val.toNat ≤ 90 := high
    omega
  · omega

/-- A canonical name has no capitals. -/
theorem isUpper_of_mem_canonicalizeSignedHeaders {name : Text}
    (listed : name ∈ canonicalizeSignedHeaders names) : ∀ c ∈ name, c.isUpper = false := by
  obtain ⟨header, -, rfl⟩ := List.mem_map.mp (mem_canonicalizeSignedHeaders.mp listed)
  intro c member
  obtain ⟨original, -, rfl⟩ := List.mem_map.mp member
  exact isUpper_toLower original

/-- The canonical names are their own canonical names. -/
theorem canonicalizeSignedHeaders_idempotent (names : List Text) :
    canonicalizeSignedHeaders (canonicalizeSignedHeaders names) =
      canonicalizeSignedHeaders names := by
  apply canonicalizeSignedHeaders_congr
  intro name
  simp only [List.mem_map, mem_canonicalizeSignedHeaders]
  constructor
  · rintro ⟨-, ⟨header, listed, rfl⟩, rfl⟩
    exact ⟨header, listed, (toAsciiLowercase_toAsciiLowercase header).symm⟩
  · rintro ⟨header, listed, rfl⟩
    exact ⟨_, ⟨header, listed, rfl⟩, toAsciiLowercase_toAsciiLowercase header⟩

end SignedHeaders

/-! ### Both -/

/-- **Canonicalisation does not see the order.**  Requests whose query strings
are arrangements of the same pieces have the same canonical query string,
whatever the names and values are.  The canonical names of signed headers are
sorted, different from each other and free of capitals, they are their own
canonical names, and every arrangement of the list in every letter case has the
same ones. -/
theorem canonicalisation_orderFree :
    (∀ left right : IncomingRequest, (wirePairs left).Perm (wirePairs right) →
      canonicalQueryString left = canonicalQueryString right) ∧
    ∀ names : List Text,
      (canonicalizeSignedHeaders names).Pairwise (· ≤ ·) ∧
      (canonicalizeSignedHeaders names).Nodup ∧
      (∀ name ∈ canonicalizeSignedHeaders names, ∀ c ∈ name, c.isUpper = false) ∧
      canonicalizeSignedHeaders (canonicalizeSignedHeaders names) =
        canonicalizeSignedHeaders names ∧
      ∀ others : List Text,
        (others.map toAsciiLowercase).Perm (names.map toAsciiLowercase) →
        canonicalizeSignedHeaders others = canonicalizeSignedHeaders names := by
  constructor
  · intro left right arranged
    rw [canonicalQueryString_eq_iff, rawQueryPairs_eq_map, rawQueryPairs_eq_map]
    exact arranged.map queryPair
  · intro names
    have strict := pairwise_canonicalizeSignedHeaders names
    refine ⟨strict.imp Std.le_of_lt, strict.imp Std.ne_of_lt, ?_, ?_, ?_⟩
    · exact fun name listed => isUpper_of_mem_canonicalizeSignedHeaders listed
    · exact canonicalizeSignedHeaders_idempotent names
    · intro others arranged
      exact canonicalizeSignedHeaders_congr fun name => arranged.mem_iff

/-- A name that is a prefix of another, a name that comes twice and a piece
without an equals sign, written in two orders.  And three headers in two orders
and two letter cases. -/
theorem canonicalisation_orderFree_repeated :
    canonicalQueryString (emptyBodyRequest "a=2&ab=0&a=1&a" "host") =
        canonicalQueryString (emptyBodyRequest "a&a=1&a=2&ab=0" "host") ∧
      canonicalizeSignedHeaders ["X-Amz-Date", "host", "HOST"] =
        canonicalizeSignedHeaders ["Host", "hOsT", "x-amz-date"] :=
  ⟨canonicalisation_orderFree.1 (emptyBodyRequest "a=2&ab=0&a=1&a" "host")
      (emptyBodyRequest "a&a=1&a=2&ab=0" "host") (by decide +kernel),
    (canonicalisation_orderFree.2 ["Host", "hOsT", "x-amz-date"]).2.2.2.2
      ["X-Amz-Date", "host", "HOST"] (by decide +kernel)⟩

end Hiraeth
