import Hiraeth.Http.IncomingRequest
import Hiraeth.Store.Basic
import Mathlib.Data.List.Sort
import Mathlib.Data.Set.Defs

/-!
# The canonical request of Signature Version 4

The server rebuilds the canonical request from what it received and from the
list of signed header names.  It is one string made by five encoders, each with
its own separator.  This module embeds the encoders and shows that none of the
separators is ambiguous.

The digest is a parameter: the results that need it assume that the two bodies
at hand do not collide.

## Main definitions

* `awsUriEncode`, `canonicalUri`, `canonicalQueryString`,
  `canonicalizeSignedHeaders`, `extractSignedHeaders` — the encoders
* `createCanonicalRequest` — the whole string
* `CoveredAgree` — what two requests share when it is the same string

## Main results

* `coveredAgree_of_createCanonicalRequest_eq` — equal canonical requests come
  from requests that agree on everything the string covers
-/

namespace Hiraeth

/-- The reasons for which a request is not authenticated. -/
inductive AuthError where
  | missingAuthorizationHeader
  | invalidAuthorizationHeader (message : Text)
  | missingSignedHeader (header : Text)
  | invalidSignature
  | secretKeyNotFound
  | keyStoreError (error : StoreError)
  deriving DecidableEq

/-! ### Percent encoding -/

/-- The bytes that are written as themselves. -/
def isUnreservedByte (byte : UInt8) : Bool :=
  (65 ≤ byte && byte ≤ 90) || (97 ≤ byte && byte ≤ 122) || (48 ≤ byte && byte ≤ 57) ||
    byte = 45 || byte = 95 || byte = 46 || byte = 126

/-- A byte is kept when it is unreserved, or a slash that stays. -/
def keptByte (encodeSlash : Bool) (byte : UInt8) : Bool :=
  isUnreservedByte byte || (byte = 47 && !encodeSlash)

/-- `aws_uri_encode`. -/
def awsUriEncode (value : Text) (encodeSlash : Bool) : Text :=
  ByteText.percentEncode ByteText.upperHex (keptByte encodeSlash) value.utf8

theorem awsUriEncode_injective (encodeSlash : Bool) :
    Function.Injective fun value => awsUriEncode value encodeSlash := by
  have escape : keptByte encodeSlash '%'.toUInt8 = false := by
    cases encodeSlash <;> decide
  exact (ByteText.percentEncode_injective escape).comp Text.utf8_injective

/-- A separator that is neither kept nor used by the encoding does not occur in
an encoded value. -/
theorem not_mem_awsUriEncode {c : Char} {encodeSlash : Bool} (percent : c ≠ '%')
    (digit : ∀ i, ByteText.upperHex.digit i ≠ c)
    (dropped : keptByte encodeSlash c.toUInt8 = false) (value : Text) :
    c ∉ awsUriEncode value encodeSlash :=
  ByteText.not_mem_percentEncode percent digit dropped _

/-! ### Path and query -/

/-- `canonical_uri`. -/
def canonicalUri (path : Text) : Text :=
  if path = [] then "/" else awsUriEncode path false

/-- The name and the value of one query pair.  A pair without `=` has the empty
value. -/
def queryPair (pair : Text) : Text × Text :=
  (splitOnce '=' pair).getD (pair, [])

/-- The query pairs as they were sent. -/
def rawQueryPairs (request : IncomingRequest) : List (Text × Text) :=
  match request.query with
  | some query => (query.splitOn '&').map queryPair
  | none => []

/-- The order of the query pairs: by encoded name, then by encoded value. -/
def encodedPairLe (left right : Text × Text) : Prop :=
  awsUriEncode left.1 true < awsUriEncode right.1 true ∨
    (awsUriEncode left.1 true = awsUriEncode right.1 true ∧
      awsUriEncode left.2 true ≤ awsUriEncode right.2 true)

instance : DecidableRel encodedPairLe := fun _ _ =>
  inferInstanceAs (Decidable (_ ∨ _))

/-- `extract_query_params`. -/
def extractQueryParams (request : IncomingRequest) : List (Text × Text) :=
  (rawQueryPairs request).insertionSort encodedPairLe

/-- A query pair as the canonical query string writes it. -/
def encodedPair (pair : Text × Text) : Text :=
  awsUriEncode pair.1 true ++ '=' :: awsUriEncode pair.2 true

/-- `canonical_query_string`. -/
def canonicalQueryString (request : IncomingRequest) : Text :=
  ['&'].intercalate ((extractQueryParams request).map encodedPair)

/-! ### Signed headers -/

/-- `Vec::dedup`: equal neighbours collapse into one. -/
def dedup : List Text → List Text
  | [] => []
  | [name] => [name]
  | name :: next :: names =>
      if name = next then dedup (next :: names) else name :: dedup (next :: names)

/-- `canonicalize_signed_headers`: the lower-case names, sorted, each once. -/
def canonicalizeSignedHeaders (signedHeaders : List Text) : List Text :=
  dedup ((signedHeaders.map toAsciiLowercase).insertionSort (· ≤ ·))

/-- `normalize_header_value`: the words of the value with one space between. -/
def normalizeHeaderValue (value : Text) : Text :=
  [' '].intercalate (splitWhitespace value)

/-- The line of one signed header. -/
def signedHeaderLine (header value : Text) : Text :=
  header ++ ':' :: normalizeHeaderValue value

/-- The lines of all signed headers.  A header that was not sent is an error. -/
def signedHeaderLines (request : IncomingRequest) :
    List Text → Except AuthError (List Text)
  | [] => .ok []
  | header :: headers =>
      match request.headers header with
      | none => .error (.missingSignedHeader header)
      | some value =>
          (signedHeaderLines request headers).map (signedHeaderLine header value :: ·)

/-- `extract_signed_headers`. -/
def extractSignedHeaders (request : IncomingRequest) (signedHeaders : List Text) :
    Except AuthError Text :=
  (signedHeaderLines request signedHeaders).map ['\n'].intercalate

/-- `create_canonical_request`. -/
def createCanonicalRequest (sha256 : Bytes → Bytes) (request : IncomingRequest)
    (signedHeaders : List Text) : Except AuthError Text :=
  let names := canonicalizeSignedHeaders signedHeaders
  (extractSignedHeaders request names).map fun headers =>
    request.method ++ '\n' :: (canonicalUri request.path ++ '\n' ::
      (canonicalQueryString request ++ '\n' :: (headers ++ '\n' :: '\n' ::
        ([';'].intercalate names ++ '\n' ::
          ByteText.hexEncode ByteText.lowerHex (sha256 request.body)))))

/-! ### The query string loses nothing but the order -/

theorem newline_not_mem_canonicalUri (path : Text) : '\n' ∉ canonicalUri path := by
  unfold canonicalUri
  split
  · decide
  · exact not_mem_awsUriEncode (by decide) (by decide) (by decide) path

/-- A nonempty path is determined by its canonical form. -/
theorem canonicalUri_inj {left right : Text} (nonempty : left ≠ [])
    (nonempty' : right ≠ []) (equal : canonicalUri left = canonicalUri right) :
    left = right := by
  rw [canonicalUri, canonicalUri, if_neg nonempty, if_neg nonempty'] at equal
  exact awsUriEncode_injective false equal

theorem not_mem_encodedPair {c : Char} (percent : c ≠ '%') (equals : c ≠ '=')
    (digit : ∀ i, ByteText.upperHex.digit i ≠ c)
    (dropped : keptByte true c.toUInt8 = false) (pair : Text × Text) :
    c ∉ encodedPair pair := by
  have name := not_mem_awsUriEncode percent digit dropped pair.1
  have value := not_mem_awsUriEncode percent digit dropped pair.2
  simp [encodedPair, name, value, equals]

theorem encodedPair_injective : Function.Injective encodedPair := by
  intro left right equal
  have free : ∀ value, '=' ∉ awsUriEncode value true :=
    not_mem_awsUriEncode (by decide) (by decide) (by decide)
  obtain ⟨name, value⟩ := Separated.append_cons_inj (free _) (free _) equal
  exact Prod.ext (awsUriEncode_injective true name) (awsUriEncode_injective true value)

theorem newline_not_mem_canonicalQueryString (request : IncomingRequest) :
    '\n' ∉ canonicalQueryString request := by
  refine Separated.not_mem_intercalate (by decide) ?_
  intro piece member
  obtain ⟨pair, -, rfl⟩ := List.mem_map.mp member
  exact not_mem_encodedPair (by decide) (by decide) (by decide) (by decide) pair

/-- **The canonical query string determines the query pairs up to order.** -/
theorem rawQueryPairs_perm_of_canonicalQueryString_eq {left right : IncomingRequest}
    (equal : canonicalQueryString left = canonicalQueryString right) :
    (rawQueryPairs left).Perm (rawQueryPairs right) := by
  have free : ∀ request : IncomingRequest,
      ∀ piece ∈ (extractQueryParams request).map encodedPair, '&' ∉ piece := by
    intro request piece member
    obtain ⟨pair, -, rfl⟩ := List.mem_map.mp member
    exact not_mem_encodedPair (by decide) (by decide) (by decide) (by decide) pair
  have full : ∀ request : IncomingRequest,
      ∀ piece ∈ (extractQueryParams request).map encodedPair, piece ≠ [] := by
    intro request piece member
    obtain ⟨pair, -, rfl⟩ := List.mem_map.mp member
    simp [encodedPair]
  have pieces := Separated.intercalate_inj_of_nonempty
    (free left) (free right) (full left) (full right) equal
  have sorted : extractQueryParams left = extractQueryParams right :=
    List.map_injective_iff.mpr encodedPair_injective pieces
  calc (rawQueryPairs left).Perm (extractQueryParams left) :=
        (List.perm_insertionSort encodedPairLe _).symm
    _ = extractQueryParams right := sorted
    List.Perm _ (rawQueryPairs right) := List.perm_insertionSort encodedPairLe _

/-! ### The signed headers -/

@[simp]
theorem mem_dedup {name : Text} {names : List Text} :
    name ∈ dedup names ↔ name ∈ names := by
  induction names using dedup.induct with
  | case1 => simp [dedup]
  | case2 => simp [dedup]
  | case3 next names inductionHypothesis =>
      rw [dedup, if_pos rfl, inductionHypothesis]
      simp
  | case4 first next names different inductionHypothesis =>
      rw [dedup, if_neg different, List.mem_cons, inductionHypothesis]
      simp only [List.mem_cons]

/-- The canonical names are the lower-case names of the list. -/
theorem mem_canonicalizeSignedHeaders {name : Text} {signedHeaders : List Text} :
    name ∈ canonicalizeSignedHeaders signedHeaders ↔
      name ∈ signedHeaders.map toAsciiLowercase := by
  rw [canonicalizeSignedHeaders, mem_dedup]
  exact (List.perm_insertionSort _ _).mem_iff

/-- Values are normalised to a single line. -/
theorem newline_not_mem_normalizeHeaderValue (value : Text) :
    '\n' ∉ normalizeHeaderValue value := by
  refine Separated.not_mem_intercalate (by decide) ?_
  intro word member
  exact not_mem_of_mem_splitWhitespace member (by decide)

/-- The lines are built exactly when every named header was sent, one line for
each name in turn. -/
theorem signedHeaderLines_eq_ok {request : IncomingRequest} {names lines : List Text} :
    signedHeaderLines request names = .ok lines ↔
      List.Forall₂ (fun name line => ∃ value, request.headers name = some value ∧
        line = signedHeaderLine name value) names lines := by
  induction names generalizing lines with
  | nil => simp [signedHeaderLines, eq_comm]
  | cons name names inductionHypothesis =>
      cases sent : request.headers name with
      | none => simp [signedHeaderLines, sent, List.forall₂_cons_left_iff]
      | some value =>
          simp only [signedHeaderLines, sent, List.forall₂_cons_left_iff]
          cases rest : signedHeaderLines request names with
          | error failure =>
              constructor
              · intro built
                exact nomatch built
              · rintro ⟨line, lines, -, later, rfl⟩
                rw [← inductionHypothesis, rest] at later
                exact nomatch later
          | ok tail =>
              constructor
              · intro built
                obtain rfl := Except.ok.inj built
                exact ⟨_, tail, ⟨value, rfl, rfl⟩, inductionHypothesis.mp rest, rfl⟩
              · rintro ⟨line, lines, ⟨_, ⟨rfl⟩, rfl⟩, later, rfl⟩
                rw [← inductionHypothesis, rest] at later
                obtain rfl := Except.ok.inj later
                rfl

section SignedHeaders

variable {left right : IncomingRequest}

/-- Every element of the first list has its counterpart in the second. -/
theorem exists_mem_of_forall₂ {α β : Type} {related : α → β → Prop} {first : List α}
    {second : List β} (pairwise : List.Forall₂ related first second) :
    ∀ a ∈ first, ∃ b ∈ second, related a b := by
  induction pairwise with
  | nil => simp
  | cons here _ inductionHypothesis =>
      intro a member
      rcases List.mem_cons.mp member with rfl | later
      · exact ⟨_, List.mem_cons_self, here⟩
      · obtain ⟨b, found, relation⟩ := inductionHypothesis a later
        exact ⟨b, List.mem_cons_of_mem _ found, relation⟩

/-- The canonical names of a request whose header lines could be built are
tokens. -/
theorem isToken_of_signedHeaderLines {request : IncomingRequest}
    (wellFormed : request.WellFormed) {names lines : List Text}
    (built : signedHeaderLines request names = .ok lines) :
    ∀ name ∈ names, IsToken name := by
  intro name member
  obtain ⟨line, -, value, sent, -⟩ :=
    exists_mem_of_forall₂ (signedHeaderLines_eq_ok.mp built) name member
  exact wellFormed.header_token sent

/-- A header line is a single nonempty line. -/
theorem signedHeaderLine_free {request : IncomingRequest}
    (wellFormed : request.WellFormed) {names lines : List Text}
    (built : signedHeaderLines request names = .ok lines) :
    ∀ line ∈ lines, '\n' ∉ line ∧ line ≠ [] := by
  intro line member
  obtain ⟨name, -, value, sent, rfl⟩ :=
    exists_mem_of_forall₂ (signedHeaderLines_eq_ok.mp built).flip line member
  have token := wellFormed.header_token sent
  have nameFree : '\n' ∉ name := token.not_mem (by decide)
  have valueFree := newline_not_mem_normalizeHeaderValue value
  exact ⟨by simp [signedHeaderLine, nameFree, valueFree], by simp [signedHeaderLine]⟩

theorem newline_not_mem_joinedNames {request : IncomingRequest}
    (wellFormed : request.WellFormed) {names lines : List Text}
    (built : signedHeaderLines request names = .ok lines) :
    '\n' ∉ [';'].intercalate names :=
  Separated.not_mem_intercalate (by decide) fun name member =>
    (isToken_of_signedHeaderLines wellFormed built name member).not_mem (by decide)

/-- The joined names determine the names. -/
theorem names_eq_of_intercalate_eq (leftFormed : left.WellFormed)
    (rightFormed : right.WellFormed) {leftNames rightNames leftLines rightLines : List Text}
    (leftBuilt : signedHeaderLines left leftNames = .ok leftLines)
    (rightBuilt : signedHeaderLines right rightNames = .ok rightLines)
    (equal : [';'].intercalate leftNames = [';'].intercalate rightNames) :
    leftNames = rightNames := by
  have leftTokens := isToken_of_signedHeaderLines leftFormed leftBuilt
  have rightTokens := isToken_of_signedHeaderLines rightFormed rightBuilt
  exact Separated.intercalate_inj_of_nonempty
    (fun name member => (leftTokens name member).not_mem (by decide))
    (fun name member => (rightTokens name member).not_mem (by decide))
    (fun name member => (leftTokens name member).1)
    (fun name member => (rightTokens name member).1) equal

/-- The joined header lines determine the normalised values. -/
theorem values_eq_of_intercalate_eq (leftFormed : left.WellFormed)
    (rightFormed : right.WellFormed) {names leftLines rightLines : List Text}
    (leftBuilt : signedHeaderLines left names = .ok leftLines)
    (rightBuilt : signedHeaderLines right names = .ok rightLines)
    (equal : ['\n'].intercalate leftLines = ['\n'].intercalate rightLines) :
    ∀ name ∈ names, (left.headers name).map normalizeHeaderValue =
      (right.headers name).map normalizeHeaderValue := by
  have leftFree := signedHeaderLine_free leftFormed leftBuilt
  have rightFree := signedHeaderLine_free rightFormed rightBuilt
  obtain rfl := Separated.intercalate_inj_of_nonempty
    (fun line member => (leftFree line member).1)
    (fun line member => (rightFree line member).1)
    (fun line member => (leftFree line member).2)
    (fun line member => (rightFree line member).2) equal
  have leftLine := signedHeaderLines_eq_ok.mp leftBuilt
  have rightLine := signedHeaderLines_eq_ok.mp rightBuilt
  clear leftBuilt rightBuilt equal leftFree rightFree
  induction leftLine with
  | nil => simp
  | cons here rest inductionHypothesis =>
      obtain ⟨leftValue, leftSent, rfl⟩ := here
      obtain ⟨⟨rightValue, rightSent, sameLine⟩, rightRest⟩ :=
        List.forall₂_cons.mp rightLine
      have sameValue : normalizeHeaderValue leftValue = normalizeHeaderValue rightValue := by
        simpa [signedHeaderLine] using sameLine
      intro name member
      rcases List.mem_cons.mp member with rfl | later
      · simp [leftSent, rightSent, sameValue]
      · exact inductionHypothesis rightRest name later

end SignedHeaders

/-! ### The whole string -/

theorem newline_not_mem_payloadHash (digest : Bytes) :
    '\n' ∉ ByteText.hexEncode ByteText.lowerHex digest :=
  ByteText.not_mem_hexEncode (by decide) digest

/-- A digest tells the given inputs apart. -/
def CollisionFree (digest : Bytes → Bytes) (inputs : List Bytes) : Prop :=
  ∀ left ∈ inputs, ∀ right ∈ inputs, digest left = digest right → left = right

instance (digest : Bytes → Bytes) (inputs : List Bytes) :
    Decidable (CollisionFree digest inputs) :=
  inferInstanceAs (Decidable (∀ left ∈ inputs, ∀ right ∈ inputs, _))

theorem CollisionFree.mono {digest : Bytes → Bytes} {inputs more : List Bytes}
    (collisionFree : CollisionFree digest more) (listed : inputs ⊆ more) :
    CollisionFree digest inputs := fun left leftMem right rightMem =>
  collisionFree left (listed leftMem) right (listed rightMem)

theorem CollisionFree.append_self {digest : Bytes → Bytes} {inputs : List Bytes}
    (collisionFree : CollisionFree digest inputs) : CollisionFree digest (inputs ++ inputs) :=
  collisionFree.mono (by simp)

/-- What two requests share when their canonical requests, for two lists of
signed headers, are the same string. -/
structure CoveredAgree (left right : IncomingRequest)
    (leftHeaders rightHeaders : List Text) : Prop where
  method : left.method = right.method
  path : left.path = right.path
  query : (rawQueryPairs left : Multiset (Text × Text)) = rawQueryPairs right
  names : ∀ name, name ∈ leftHeaders.map toAsciiLowercase ↔
    name ∈ rightHeaders.map toAsciiLowercase
  values : ∀ name ∈ leftHeaders.map toAsciiLowercase,
    (left.headers name).map normalizeHeaderValue =
      (right.headers name).map normalizeHeaderValue
  body : left.body = right.body

/-- The canonical request is built exactly when every signed header was sent. -/
theorem createCanonicalRequest_eq_ok {sha256 : Bytes → Bytes} {request : IncomingRequest}
    {signedHeaders : List Text} {canonical : Text} :
    createCanonicalRequest sha256 request signedHeaders = .ok canonical ↔
      ∃ lines, signedHeaderLines request (canonicalizeSignedHeaders signedHeaders) = .ok lines ∧
        canonical = request.method ++ '\n' :: (canonicalUri request.path ++ '\n' ::
          (canonicalQueryString request ++ '\n' :: (['\n'].intercalate lines ++ '\n' :: '\n' ::
            ([';'].intercalate (canonicalizeSignedHeaders signedHeaders) ++ '\n' ::
              ByteText.hexEncode ByteText.lowerHex (sha256 request.body))))) := by
  unfold createCanonicalRequest extractSignedHeaders
  cases built : signedHeaderLines request (canonicalizeSignedHeaders signedHeaders) with
  | error failure => simp [built, Except.map]
  | ok lines => simp [built, Except.map, eq_comm]

/-- **The canonical request is unambiguous.**  Each component is followed by a
separator that it does not contain, so the string can be cut back into its
parts from both ends. -/
theorem coveredAgree_of_createCanonicalRequest_eq {sha256 : Bytes → Bytes}
    {left right : IncomingRequest} {leftHeaders rightHeaders : List Text} {canonical : Text}
    (leftFormed : left.WellFormed) (rightFormed : right.WellFormed)
    (leftPath : left.path ≠ []) (rightPath : right.path ≠ [])
    (collisionFree : CollisionFree sha256 [left.body, right.body])
    (leftBuilt : createCanonicalRequest sha256 left leftHeaders = .ok canonical)
    (rightBuilt : createCanonicalRequest sha256 right rightHeaders = .ok canonical) :
    CoveredAgree left right leftHeaders rightHeaders := by
  obtain ⟨leftLines, leftLinesBuilt, rfl⟩ := createCanonicalRequest_eq_ok.mp leftBuilt
  obtain ⟨rightLines, rightLinesBuilt, equal⟩ := createCanonicalRequest_eq_ok.mp rightBuilt
  -- From the front: method, path and query string.
  obtain ⟨method, equal⟩ := Separated.append_cons_inj
    (leftFormed.method_token.not_mem (by decide))
    (rightFormed.method_token.not_mem (by decide)) equal
  obtain ⟨uri, equal⟩ := Separated.append_cons_inj
    (newline_not_mem_canonicalUri _) (newline_not_mem_canonicalUri _) equal
  obtain ⟨query, equal⟩ := Separated.append_cons_inj
    (newline_not_mem_canonicalQueryString _) (newline_not_mem_canonicalQueryString _) equal
  -- From the back: payload hash and names.  What is left are the header lines.
  have regroup : ∀ headers names hash : Text,
      headers ++ '\n' :: '\n' :: (names ++ '\n' :: hash) =
        ((headers ++ ['\n']) ++ '\n' :: names) ++ '\n' :: hash := by
    simp
  rw [regroup, regroup] at equal
  obtain ⟨equal, payload⟩ := Separated.append_cons_inj_right
    (newline_not_mem_payloadHash _) (newline_not_mem_payloadHash _) equal
  obtain ⟨headers, joined⟩ := Separated.append_cons_inj_right
    (newline_not_mem_joinedNames leftFormed leftLinesBuilt)
    (newline_not_mem_joinedNames rightFormed rightLinesBuilt) equal
  have names := names_eq_of_intercalate_eq leftFormed rightFormed
    leftLinesBuilt rightLinesBuilt joined
  rw [← names] at rightLinesBuilt
  have values := values_eq_of_intercalate_eq leftFormed rightFormed
    leftLinesBuilt rightLinesBuilt (List.append_cancel_right headers)
  have digests : sha256 left.body = sha256 right.body :=
    ByteText.hexEncode_injective _ payload
  exact
    { method := method
      path := canonicalUri_inj leftPath rightPath uri
      query := Multiset.coe_eq_coe.mpr (rawQueryPairs_perm_of_canonicalQueryString_eq query)
      names := fun name => by
        rw [← mem_canonicalizeSignedHeaders, names, mem_canonicalizeSignedHeaders]
      values := fun name member => values name (mem_canonicalizeSignedHeaders.mpr member)
      body := collisionFree _ (by simp) _ (by simp) digests }

/-- The signed headers of a request, each with its normalised value. -/
def signedHeaderSet (request : IncomingRequest) (signedHeaders : List Text) :
    Set (Text × Text) :=
  {header | header.1 ∈ signedHeaders.map toAsciiLowercase ∧
    (request.headers header.1).map normalizeHeaderValue = some header.2}

/-- **The canonical request is injective on what it covers.**  Two requests with
the same canonical request have the same method, path, multiset of query pairs,
signed headers with their normalised values, and body. -/
theorem createCanonicalRequest_injective (sha256 : Bytes → Bytes)
    (left right : IncomingRequest) (leftHeaders rightHeaders : List Text)
    (leftFormed : left.WellFormed) (rightFormed : right.WellFormed)
    (leftPath : left.path ≠ []) (rightPath : right.path ≠ [])
    (collisionFree : CollisionFree sha256 [left.body, right.body])
    (built : (createCanonicalRequest sha256 left leftHeaders).isOk)
    (equal : createCanonicalRequest sha256 left leftHeaders =
      createCanonicalRequest sha256 right rightHeaders) :
    left.method = right.method ∧ left.path = right.path ∧
      (rawQueryPairs left : Multiset (Text × Text)) = rawQueryPairs right ∧
      (leftHeaders.map toAsciiLowercase).toFinset =
        (rightHeaders.map toAsciiLowercase).toFinset ∧
      signedHeaderSet left leftHeaders = signedHeaderSet right rightHeaders ∧
      left.body = right.body := by
  cases leftBuilt : createCanonicalRequest sha256 left leftHeaders with
  | error failure =>
      rw [leftBuilt] at built
      exact nomatch built
  | ok canonical =>
      have agree := coveredAgree_of_createCanonicalRequest_eq leftFormed rightFormed
        leftPath rightPath collisionFree leftBuilt (equal.symm.trans leftBuilt)
      refine ⟨agree.method, agree.path, agree.query, ?_, ?_, agree.body⟩
      · ext name
        simpa using agree.names name
      · ext ⟨name, value⟩
        constructor
        · rintro ⟨listed, sent⟩
          exact ⟨(agree.names name).mp listed, agree.values name listed ▸ sent⟩
        · rintro ⟨listed, sent⟩
          have listedLeft := (agree.names name).mpr listed
          exact ⟨listedLeft, agree.values name listedLeft ▸ sent⟩

/-- A request without a body, with two signed headers and the given query. -/
def emptyBodyParts (query host : Text) : RequestParts where
  method := "POST"
  path := "/a b"
  query := some query
  headers := [("host", host.utf8), ("x-amz-date", Text.utf8 "20260330T120000Z")]

/-- The digest of the empty byte string, and nothing else. -/
def emptyBodySha256 (bytes : Bytes) : Bytes :=
  if bytes = [] then
    [227, 176, 196, 66, 152, 252, 28, 20, 154, 251, 244, 200, 153, 111, 185, 36,
      39, 174, 65, 228, 100, 155, 147, 76, 164, 149, 153, 27, 120, 82, 184, 85]
  else []

theorem emptyBodyParts_wellFormed (query host : Text) :
    (emptyBodyParts query host).WellFormed where
  method_token := (by decide : IsToken "POST")
  name_token := by
    simp only [emptyBodyParts, List.forall_mem_cons]
    decide
  name_lower := by
    simp only [emptyBodyParts, List.forall_mem_cons]
    decide

/-- The request with the given query and host. -/
def emptyBodyRequest (query host : Text) : IncomingRequest :=
  .fromParts (emptyBodyParts query host) []

@[simp]
theorem emptyBodyRequest_body (query host : Text) :
    (emptyBodyRequest query host).body = [] := rfl

theorem createCanonicalRequest_injective_reordered :
    signedHeaderSet (emptyBodyRequest "b=2&a=1" "local  host") ["Host", "x-amz-date"] =
      signedHeaderSet (emptyBodyRequest "a=1&b=2" "local host ")
        ["x-amz-date", "host", "host"] :=
  (createCanonicalRequest_injective emptyBodySha256
    (emptyBodyRequest "b=2&a=1" "local  host") (emptyBodyRequest "a=1&b=2" "local host ")
    ["Host", "x-amz-date"] ["x-amz-date", "host", "host"]
    (fromParts_wellFormed (emptyBodyParts_wellFormed _ _) [])
    (fromParts_wellFormed (emptyBodyParts_wellFormed _ _) [])
    (by decide) (by decide) (by simp [CollisionFree])
    (by decide +kernel) (by decide +kernel)).2.2.2.2.1

end Hiraeth
