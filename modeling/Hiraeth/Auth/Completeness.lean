import Hiraeth.Auth.Canonical
import Hiraeth.Lib.Words
import Mathlib.Algebra.GroupWithZero.Nat
import Mathlib.Algebra.Order.BigOperators.Group.List
import Mathlib.Algebra.Order.Group.Nat
import Mathlib.Data.List.Dedup

/-!
# What a correctly signed request comes to

A client signs a logical request: a method, a path, query names and values,
header lines and a body.  It writes the query percent-encoded and sends the
lines as they are.  The server rebuilds the canonical request from what it
received.  This module states the canonical request of the specification for
the logical request and says for which requests the two are the same.

## Main definitions

* `WireEncoding` — how a client writes query names and values
* `LogicalRequest`, `LogicalRequest.received` — what is signed, and what the
  server receives
* `LogicalRequest.canonicalRequest` — the string of the specification
* `Plain` — nothing is escaped, repeated, or outside printable ASCII

## Main results

* `canonicalAgrees_iff` — the server rebuilds the string exactly for plain
  requests
* `escapedRequest_disagrees` — and not for one with a space in a query value
-/

namespace Hiraeth

/-! ### The logical request -/

/-- How a client writes a query name or value: some ASCII bytes as themselves,
every other byte as `%` and two digits. -/
structure WireEncoding where
  keep : UInt8 → Bool
  digits : ByteText.HexDigits
  keep_ascii : ∀ byte, keep byte = true → byte.toNat < 128
  keep_percent : keep '%'.toUInt8 = false
  keep_ampersand : keep '&'.toUInt8 = false
  keep_equals : keep '='.toUInt8 = false
  digit_plain : ∀ i, (digits.digit i).toNat < 128 ∧
    isUnreservedByte (digits.digit i).toUInt8 = true

/-- A name or a value on the wire. -/
def WireEncoding.write (encoding : WireEncoding) (value : Text) : Text :=
  ByteText.percentEncode encoding.digits encoding.keep value.utf8

/-- A query pair on the wire. -/
def WireEncoding.writePair (encoding : WireEncoding) (pair : Text × Text) : Text × Text :=
  (encoding.write pair.1, encoding.write pair.2)

/-- A query on the wire. -/
def WireEncoding.writeQuery (encoding : WireEncoding) (pairs : List (Text × Text)) : Text :=
  ['&'].intercalate <| pairs.map fun pair =>
    encoding.write pair.1 ++ '=' :: encoding.write pair.2

/-- A byte that may stand in a header value: printable, a space, a tab, or
outside ASCII. -/
def isHeaderByte (byte : UInt8) : Bool :=
  byte = 9 || (32 ≤ byte && byte ≠ 127)

/-- What a client wants to send.  The path is the one that goes on the wire; a
query may be absent, or present and empty. -/
structure LogicalRequest where
  method : Text
  path : Text
  query : Option (List (Text × Text))
  headers : List (Text × Bytes)
  body : Bytes
  header_name : ∀ header ∈ headers, IsToken header.1
  header_value : ∀ header ∈ headers, ∀ byte ∈ header.2, isHeaderByte byte = true

/-- The request as the server receives it. -/
def LogicalRequest.received (request : LogicalRequest) (encoding : WireEncoding) :
    IncomingRequest :=
  .fromParts
    { method := request.method
      path := request.path
      query := request.query.map encoding.writeQuery
      headers := request.headers.map fun header => (toAsciiLowercase header.1, header.2) }
    request.body

/-! ### The canonical request of the specification -/

/-- The path: every segment encoded once more. -/
def specUri (path : Text) : Text :=
  if path = [] then "/"
  else ['/'].intercalate ((path.splitOn '/').map fun segment => awsUriEncode segment true)

/-- The query: names and values encoded once, sorted by encoded name and then by
encoded value. -/
def specQuery (pairs : List (Text × Text)) : Text :=
  ['&'].intercalate ((pairs.insertionSort encodedPairLe).map encodedPair)

/-- The names of the signed headers, each once and in order. -/
def specNames (signedHeaders : List Text) : List Text :=
  (signedHeaders.map toAsciiLowercase).dedup.insertionSort (· ≤ ·)

/-- The blanks that are trimmed from a header value. -/
def isBlankByte (byte : UInt8) : Bool :=
  byte = 32 || byte = 9

/-- A header value: trimmed, with runs of spaces merged. -/
def specHeaderValue (value : Bytes) : Bytes :=
  Words.collapse 32 (Words.strip isBlankByte value)

/-- The values of all header lines of a name, in order. -/
def LogicalRequest.values (request : LogicalRequest) (name : Text) : List Bytes :=
  (request.headers.filter fun header => toAsciiLowercase header.1 = name).map Prod.snd

/-- The line of a signed header: its values joined by commas. -/
def LogicalRequest.headerLine (request : LogicalRequest) (name : Text) : Bytes :=
  name.utf8 ++ ':'.toUInt8 ::
    [','.toUInt8].intercalate ((request.values name).map specHeaderValue)

/-- The canonical request. -/
def LogicalRequest.canonicalRequest (sha256 : Bytes → Bytes) (request : LogicalRequest)
    (signedHeaders : List Text) : Bytes :=
  let names := specNames signedHeaders
  request.method.utf8 ++ '\n'.toUInt8 :: ((specUri request.path).utf8 ++ '\n'.toUInt8 ::
    ((specQuery (request.query.getD [])).utf8 ++ '\n'.toUInt8 ::
      (['\n'.toUInt8].intercalate (names.map request.headerLine) ++
        '\n'.toUInt8 :: '\n'.toUInt8 :: (Text.utf8 ([';'].intercalate names) ++ '\n'.toUInt8 ::
          Text.utf8 (ByteText.hexEncode ByteText.lowerHex (sha256 request.body))))))

/-- The server rebuilds what the client signed. -/
def CanonicalAgrees (sha256 : Bytes → Bytes) (encoding : WireEncoding) (request : LogicalRequest)
    (signedHeaders : List Text) : Prop :=
  ∃ text, createCanonicalRequest sha256 (request.received encoding) signedHeaders = .ok text ∧
    text.utf8 = request.canonicalRequest sha256 signedHeaders

/-- The header was sent once, with printable ASCII between the blanks at its
ends. -/
def SentOnce (request : LogicalRequest) (name : Text) : Prop :=
  ∃ value, request.values name = [value] ∧
    ∀ byte ∈ Words.strip isBlankByte value, 32 ≤ byte ∧ byte < 127

/-- **Plain requests**: the query is absent or has pairs, nothing in it is
escaped on the wire, and every signed header is sent once and printable. -/
structure Plain (encoding : WireEncoding) (request : LogicalRequest) (signedHeaders : List Text) :
    Prop where
  query : request.query ≠ some []
  unescaped : ∀ pairs, request.query = some pairs → ∀ pair ∈ pairs,
    ∀ byte ∈ pair.1.utf8 ++ pair.2.utf8, encoding.keep byte = true
  headers : ∀ name ∈ signedHeaders.map toAsciiLowercase, SentOnce request name

/-! ### The path -/

/-- Without a slash, it does not matter what becomes of slashes. -/
theorem awsUriEncode_segment {segment : Text} (free : '/' ∉ segment) :
    awsUriEncode segment false = awsUriEncode segment true := by
  have absent : '/'.toUInt8 ∉ segment.utf8 := toUInt8_not_mem_utf8 (by decide) free
  unfold awsUriEncode ByteText.percentEncode
  apply List.flatMap_congr
  intro byte member
  have other : byte ≠ 47 := by
    rintro rfl
    exact absent member
  simp [ByteText.percentByte, keptByte, other]

/-- Encoding a path that keeps its slashes encodes its segments. -/
theorem awsUriEncode_intercalate (segments : List Text) :
    awsUriEncode (['/'].intercalate segments) false =
      ['/'].intercalate (segments.map fun segment => awsUriEncode segment false) := by
  induction segments with
  | nil => rfl
  | cons segment segments inductionHypothesis =>
      cases segments with
      | nil => simp
      | cons next others =>
          rw [List.map_cons] at inductionHypothesis
          rw [List.map_cons, List.map_cons, List.intercalate_cons_cons,
            List.intercalate_cons_cons, ← inductionHypothesis]
          simp only [awsUriEncode, ByteText.percentEncode, utf8_append, List.flatMap_append]
          rfl

/-- **The canonical path is the path with every segment encoded.** -/
theorem canonicalUri_eq_specUri (path : Text) : canonicalUri path = specUri path := by
  unfold canonicalUri specUri
  split
  · rfl
  · have segments : ∀ segment ∈ path.splitOn '/', '/' ∉ segment :=
      fun segment member => not_mem_of_mem_splitOnP member (by decide)
    calc awsUriEncode path false
        = awsUriEncode (['/'].intercalate (path.splitOn '/')) false := by
          rw [List.intercalate_splitOn]
      _ = ['/'].intercalate ((path.splitOn '/').map fun segment => awsUriEncode segment false) :=
          awsUriEncode_intercalate _
      _ = ['/'].intercalate ((path.splitOn '/').map fun segment => awsUriEncode segment true) := by
          congr 1
          exact List.map_congr_left fun segment member =>
            awsUriEncode_segment (segments segment member)

/-! ### Writing a value and encoding it again -/

section Write

variable {encoding : WireEncoding}

/-- What the server's encoding makes of one byte as the client writes it. -/
def WireEncoding.recoded (encoding : WireEncoding) (byte : UInt8) : Text :=
  (Text.utf8 (ByteText.percentByte encoding.digits encoding.keep byte)).flatMap
    (ByteText.percentByte ByteText.upperHex (keptByte true))

theorem awsUriEncode_write (encoding : WireEncoding) (value : Text) :
    awsUriEncode (encoding.write value) true = value.utf8.flatMap encoding.recoded := by
  unfold awsUriEncode ByteText.percentEncode WireEncoding.write ByteText.percentEncode
  generalize value.utf8 = bytes
  induction bytes with
  | nil => rfl
  | cons byte bytes inductionHypothesis =>
      rw [List.flatMap_cons, utf8_append, List.flatMap_append, inductionHypothesis]
      rfl

/-- A byte that is not escaped is encoded as it would have been. -/
theorem recoded_kept {byte : UInt8} (kept : encoding.keep byte = true) :
    encoding.recoded byte = ByteText.percentByte ByteText.upperHex (keptByte true) byte := by
  have ascii : (ByteText.charOfByte byte).toNat < 128 := by
    have small := encoding.keep_ascii byte kept
    rwa [ByteText.toNat_charOfByte]
  unfold WireEncoding.recoded
  rw [ByteText.percentByte, if_pos kept, utf8_cons, utf8_nil, utf8EncodeChar_ascii ascii,
    ByteText.toUInt8_charOfByte]
  simp

/-- A byte that is escaped is escaped once more, and takes five characters. -/
theorem length_recoded_escaped {byte : UInt8} (escaped : encoding.keep byte = false) :
    (encoding.recoded byte).length = 5 := by
  have digit : ∀ i, String.utf8EncodeChar (encoding.digits.digit i) =
      [(encoding.digits.digit i).toUInt8] :=
    fun i => utf8EncodeChar_ascii (encoding.digit_plain i).1
  have single : ∀ i, ByteText.percentByte ByteText.upperHex (keptByte true)
      (encoding.digits.digit i).toUInt8 =
        [ByteText.charOfByte (encoding.digits.digit i).toUInt8] := by
    intro i
    rw [ByteText.percentByte, if_pos (by simp [keptByte, (encoding.digit_plain i).2])]
  have percent : String.utf8EncodeChar '%' = ['%'.toUInt8] := utf8EncodeChar_ascii (by decide)
  have again : (ByteText.percentByte ByteText.upperHex (keptByte true) '%'.toUInt8).length = 3 := by
    decide
  unfold WireEncoding.recoded
  rw [ByteText.percentByte, if_neg (by simp [escaped])]
  simp [ByteText.HexDigits.pair, digit, single, percent, again]

theorem length_percentByte_le (byte : UInt8) :
    (ByteText.percentByte ByteText.upperHex (keptByte true) byte).length ≤ 3 := by
  unfold ByteText.percentByte
  split <;> simp [ByteText.HexDigits.pair]

/-- Encoding again never shortens a value. -/
theorem length_recoded_le (encoding : WireEncoding) (byte : UInt8) :
    (ByteText.percentByte ByteText.upperHex (keptByte true) byte).length ≤
      (encoding.recoded byte).length := by
  cases kept : encoding.keep byte with
  | true => rw [recoded_kept kept]
  | false =>
      have short := length_percentByte_le byte
      rw [length_recoded_escaped kept]
      omega

theorem length_awsUriEncode_le (encoding : WireEncoding) (value : Text) :
    (awsUriEncode value true).length ≤ (awsUriEncode (encoding.write value) true).length := by
  rw [awsUriEncode_write, awsUriEncode, ByteText.percentEncode, List.length_flatMap,
    List.length_flatMap]
  exact List.sum_le_sum fun byte _ => length_recoded_le encoding byte

/-- It lengthens every value in which a byte was escaped. -/
theorem length_awsUriEncode_lt {value : Text} {byte : UInt8} (member : byte ∈ value.utf8)
    (escaped : encoding.keep byte = false) :
    (awsUriEncode value true).length < (awsUriEncode (encoding.write value) true).length := by
  rw [awsUriEncode_write, awsUriEncode, ByteText.percentEncode, List.length_flatMap,
    List.length_flatMap]
  refine List.sum_lt_sum _ _ (fun byte _ => length_recoded_le encoding byte) ⟨byte, member, ?_⟩
  have short := length_percentByte_le byte
  rw [length_recoded_escaped escaped]
  omega

/-- A value in which nothing was escaped is encoded as it would have been. -/
theorem awsUriEncode_write_kept {value : Text} (kept : ∀ byte ∈ value.utf8, encoding.keep byte = true) :
    awsUriEncode (encoding.write value) true = awsUriEncode value true := by
  rw [awsUriEncode_write, awsUriEncode, ByteText.percentEncode]
  apply List.flatMap_congr
  intro byte member
  exact recoded_kept (kept byte member)

end Write

/-! ### The query -/

section Query

variable {encoding : WireEncoding} {request : LogicalRequest}

/-- A separator that is not kept does not occur in a written value. -/
theorem WireEncoding.not_mem_write (encoding : WireEncoding) {c : Char} (percent : c ≠ '%')
    (reserved : isUnreservedByte c.toUInt8 = false) (dropped : encoding.keep c.toUInt8 = false)
    (value : Text) : c ∉ encoding.write value := by
  refine ByteText.not_mem_percentEncode percent ?_ dropped _
  rintro i rfl
  rw [(encoding.digit_plain i).2] at reserved
  cases reserved

/-- **The server takes the pairs apart as the client wrote them.** -/
theorem rawQueryPairs_received (encoding : WireEncoding) {pairs : List (Text × Text)}
    (sent : request.query = some pairs)
    (nonempty : pairs ≠ []) :
    rawQueryPairs (request.received encoding) = pairs.map encoding.writePair := by
  have equals (value : Text) : '=' ∉ encoding.write value :=
    encoding.not_mem_write (by decide) (by decide) encoding.keep_equals value
  have ampersand (value : Text) : '&' ∉ encoding.write value :=
    encoding.not_mem_write (by decide) (by decide) encoding.keep_ampersand value
  have query : (request.received encoding).query = some (encoding.writeQuery pairs) := by
    simp [LogicalRequest.received, IncomingRequest.fromParts, sent]
  have free : ∀ piece ∈ pairs.map (fun pair => encoding.write pair.1 ++ '=' :: encoding.write pair.2),
      '&' ∉ piece := by
    intro piece member
    obtain ⟨pair, -, rfl⟩ := List.mem_map.mp member
    simp [ampersand]
  simp only [rawQueryPairs, query, WireEncoding.writeQuery]
  rw [List.splitOn_intercalate '&' free (by simpa using nonempty), List.map_map]
  apply List.map_congr_left
  intro pair _
  show queryPair (encoding.write pair.1 ++ '=' :: encoding.write pair.2) = encoding.writePair pair
  rw [queryPair, splitOnce, Separated.splitFirst_append (equals pair.1)]
  rfl

/-- The length of pieces glued by a separator. -/
theorem length_intercalate {separator : Char} {pieces : List Text} (nonempty : pieces ≠ []) :
    ([separator].intercalate pieces).length + 1 =
      (pieces.map fun piece => piece.length + 1).sum := by
  induction pieces with
  | nil => exact absurd rfl nonempty
  | cons piece pieces inductionHypothesis =>
      cases pieces with
      | nil => simp
      | cons next others =>
          have rest := inductionHypothesis (List.cons_ne_nil next others)
          rw [List.intercalate_cons_cons, List.map_cons, List.sum_cons, ← rest]
          simp only [List.length_append, List.length_singleton]
          omega

/-- The length of sorted pairs glued together does not depend on the order. -/
theorem length_sortedPairs {pairs : List (Text × Text)} (nonempty : pairs ≠ []) :
    (['&'].intercalate ((pairs.insertionSort encodedPairLe).map encodedPair)).length + 1 =
      (pairs.map fun pair => (encodedPair pair).length + 1).sum := by
  have sorted := List.perm_insertionSort encodedPairLe pairs
  have remains : (pairs.insertionSort encodedPairLe).map encodedPair ≠ [] := by
    intro empty
    rw [List.map_eq_nil_iff] at empty
    rw [empty] at sorted
    exact nonempty sorted.symm.eq_nil
  rw [length_intercalate remains, List.map_map]
  exact (sorted.map _).sum_eq

/-- Encoding the pairs again never shortens one. -/
theorem length_encodedPair_le (encoding : WireEncoding) (pair : Text × Text) :
    (encodedPair pair).length ≤ (encodedPair (encoding.writePair pair)).length := by
  have name := length_awsUriEncode_le encoding pair.1
  have value := length_awsUriEncode_le encoding pair.2
  simp only [encodedPair, WireEncoding.writePair, List.length_append, List.length_cons]
  omega

/-- It lengthens every pair in which a byte was escaped. -/
theorem length_encodedPair_lt {pair : Text × Text} {byte : UInt8}
    (member : byte ∈ pair.1.utf8 ++ pair.2.utf8) (escaped : encoding.keep byte = false) :
    (encodedPair pair).length < (encodedPair (encoding.writePair pair)).length := by
  have name := length_awsUriEncode_le encoding pair.1
  have value := length_awsUriEncode_le encoding pair.2
  rcases List.mem_append.mp member with inName | inValue
  · have longer := length_awsUriEncode_lt inName escaped
    simp only [encodedPair, WireEncoding.writePair, List.length_append, List.length_cons]
    omega
  · have longer := length_awsUriEncode_lt inValue escaped
    simp only [encodedPair, WireEncoding.writePair, List.length_append, List.length_cons]
    omega

/-- Pairs in which nothing is escaped are sorted and encoded as they would have
been. -/
theorem sortedPairs_kept {pairs : List (Text × Text)}
    (kept : ∀ pair ∈ pairs, ∀ byte ∈ pair.1.utf8 ++ pair.2.utf8, encoding.keep byte = true) :
    ((pairs.map encoding.writePair).insertionSort encodedPairLe).map encodedPair =
      (pairs.insertionSort encodedPairLe).map encodedPair := by
  have name : ∀ pair ∈ pairs, awsUriEncode (encoding.write pair.1) true = awsUriEncode pair.1 true :=
    fun pair member => awsUriEncode_write_kept fun byte inName =>
      kept pair member byte (List.mem_append_left _ inName)
  have value : ∀ pair ∈ pairs, awsUriEncode (encoding.write pair.2) true = awsUriEncode pair.2 true :=
    fun pair member => awsUriEncode_write_kept fun byte inValue =>
      kept pair member byte (List.mem_append_right _ inValue)
  rw [← List.map_insertionSort (r := encodedPairLe) (s := encodedPairLe), List.map_map]
  · apply List.map_congr_left
    intro pair sorted
    have member : pair ∈ pairs := (List.perm_insertionSort _ _).mem_iff.mp sorted
    simp only [Function.comp_apply, encodedPair, WireEncoding.writePair, name pair member,
      value pair member]
  · intro left leftMember right rightMember
    simp only [encodedPairLe, WireEncoding.writePair, name left leftMember,
      value left leftMember, name right rightMember, value right rightMember]

/-- **The query strings agree exactly when there is no `?` without pairs and
nothing is escaped.** -/
theorem canonicalQueryString_received_iff :
    canonicalQueryString (request.received encoding) = specQuery (request.query.getD []) ↔
      request.query ≠ some [] ∧ ∀ pairs, request.query = some pairs → ∀ pair ∈ pairs,
        ∀ byte ∈ pair.1.utf8 ++ pair.2.utf8, encoding.keep byte = true := by
  cases sent : request.query with
  | none =>
      have absent : rawQueryPairs (request.received encoding) = [] := by
        simp [rawQueryPairs, LogicalRequest.received, IncomingRequest.fromParts, sent]
      simp [canonicalQueryString, extractQueryParams, absent, specQuery]
  | some pairs =>
      by_cases nonempty : pairs = []
      · -- `?` alone is read as one pair with an empty name
        subst nonempty
        have single : rawQueryPairs (request.received encoding) = [([], [])] := by
          simp [rawQueryPairs, LogicalRequest.received, IncomingRequest.fromParts, sent,
            WireEncoding.writeQuery, queryPair, splitOnce]
        simp [canonicalQueryString, extractQueryParams, single, specQuery, encodedPair,
          awsUriEncode, ByteText.percentEncode]
      · have received := rawQueryPairs_received encoding sent nonempty
        simp only [canonicalQueryString, extractQueryParams, received, specQuery,
          Option.getD_some, Option.some.injEq, ne_eq, nonempty, not_false_eq_true, true_and,
          forall_eq']
        constructor
        · intro agree pair member byte inPair
          cases kept : encoding.keep byte with
          | true => rfl
          | false =>
              -- an escaped byte makes the rebuilt query string longer
              have longer : (pairs.map fun pair => (encodedPair pair).length + 1).sum <
                  (pairs.map fun pair => (encodedPair (encoding.writePair pair)).length + 1).sum :=
                List.sum_lt_sum _ _
                  (fun pair _ => Nat.succ_le_succ (length_encodedPair_le encoding pair))
                  ⟨pair, member, Nat.succ_lt_succ (length_encodedPair_lt inPair kept)⟩
              have remains : pairs.map encoding.writePair ≠ [] := by simpa using nonempty
              have rebuilt := length_sortedPairs remains
              rw [agree, length_sortedPairs nonempty, List.map_map] at rebuilt
              exact absurd rebuilt (Nat.ne_of_lt longer)
        · intro kept
          rw [sortedPairs_kept kept]

end Query

/-! ### Header values -/

section Value

/-- ASCII bytes read as characters are written as the same bytes. -/
theorem utf8_charOfByte {bytes : Bytes} (ascii : ∀ byte ∈ bytes, byte.toNat < 128) :
    Text.utf8 (bytes.map ByteText.charOfByte) = bytes := by
  induction bytes with
  | nil => rfl
  | cons byte bytes inductionHypothesis =>
      have small : (ByteText.charOfByte byte).toNat < 128 := by
        rw [ByteText.toNat_charOfByte]
        exact ascii byte List.mem_cons_self
      rw [List.map_cons, utf8_cons, utf8EncodeChar_ascii small, ByteText.toUInt8_charOfByte,
        inductionHypothesis fun other member => ascii other (List.mem_cons_of_mem _ member)]
      rfl

/-- Among the characters of a header value, the blanks are spaces and tabs. -/
theorem isWhitespace_charOfByte {byte : UInt8} (legal : isHeaderByte byte = true)
    (ascii : byte.toNat < 128) :
    isWhitespace (ByteText.charOfByte byte) = isBlankByte byte := by
  have value : (ByteText.charOfByte byte).toNat = byte.toNat :=
    ByteText.toNat_charOfByte byte
  have bound : byte.toNat = 9 ∨ 32 ≤ byte.toNat := by
    simp only [isHeaderByte, Bool.or_eq_true, decide_eq_true_eq, Bool.and_eq_true] at legal
    rcases legal with rfl | ⟨above, -⟩
    · left
      rfl
    · right
      exact UInt8.le_iff_toNat_le.mp above
  have tab : (byte = 9) ↔ byte.toNat = 9 := by
    rw [← UInt8.toNat_inj]
    rfl
  have space : (byte = 32) ↔ byte.toNat = 32 := by
    rw [← UInt8.toNat_inj]
    rfl
  rw [Bool.eq_iff_iff]
  simp only [isWhitespace, isBlankByte, value, Bool.or_eq_true, Bool.and_eq_true,
    decide_eq_true_eq, tab, space]
  omega

/-- The value the server normalises, and what it makes of it. -/
def rebuiltValue (value : Bytes) : Bytes :=
  Text.utf8 (normalizeHeaderValue ((headerValueToStr value).getD ""))

/-- The rebuilt value is printable ASCII. -/
theorem printable_rebuiltValue {value : Bytes} (legal : ∀ byte ∈ value, isHeaderByte byte = true)
    {byte : UInt8} (member : byte ∈ rebuiltValue value) : 32 ≤ byte ∧ byte < 127 := by
  unfold rebuiltValue headerValueToStr at member
  split at member
  · rename_i isText
    have ascii : ∀ byte ∈ value, byte.toNat < 128 := by
      intro other inside
      have allowed := List.all_eq_true.mp isText other inside
      simp only [Bool.or_eq_true, Bool.and_eq_true, decide_eq_true_eq] at allowed
      rcases allowed with ⟨-, below⟩ | rfl
      · exact Nat.lt_trans (UInt8.lt_iff_toNat_lt.mp below) (by decide)
      · decide
    -- a character of the normalised value is a space or a letter of the value
    have letter : ∀ c ∈ normalizeHeaderValue (value.map ByteText.charOfByte),
        ∃ original, c = ByteText.charOfByte original ∧ 32 ≤ original ∧ original < 127 := by
      intro c written
      rcases Words.mem_squeeze written with rfl | ⟨inside, notBlank⟩
      · exact ⟨32, by decide, by decide, by decide⟩
      · obtain ⟨original, sent, rfl⟩ := List.mem_map.mp inside
        refine ⟨original, rfl, ?_⟩
        have allowed := List.all_eq_true.mp isText original sent
        rw [isWhitespace_charOfByte (legal original sent) (ascii original sent)] at notBlank
        simp only [Bool.or_eq_true, Bool.and_eq_true, decide_eq_true_eq] at allowed
        simp only [isBlankByte, Bool.or_eq_false_iff, decide_eq_false_iff_not] at notBlank
        rcases allowed with within | tab
        · exact within
        · exact absurd tab notBlank.2
    obtain ⟨c, written, encoded⟩ := List.mem_flatMap.mp member
    obtain ⟨original, rfl, low, high⟩ := letter c written
    have small : (ByteText.charOfByte original).toNat < 128 := by
      have below := UInt8.lt_iff_toNat_lt.mp high
      have bound : original.toNat < 128 := Nat.lt_trans below (by decide)
      rwa [ByteText.toNat_charOfByte]
    rw [utf8EncodeChar_ascii small, ByteText.toUInt8_charOfByte, List.mem_singleton] at encoded
    exact encoded ▸ ⟨low, high⟩
  · simp [normalizeHeaderValue, splitWhitespace] at member

/-- **A printable value is rebuilt as the specification normalises it.** -/
theorem rebuiltValue_eq_specHeaderValue {value : Bytes}
    (legal : ∀ byte ∈ value, isHeaderByte byte = true)
    (printable : ∀ byte ∈ Words.strip isBlankByte value, 32 ≤ byte ∧ byte < 127) :
    rebuiltValue value = specHeaderValue value := by
  have allowed : ∀ byte ∈ value, (32 ≤ byte ∧ byte < 127) ∨ byte = 9 := by
    intro byte member
    cases blank : isBlankByte byte with
    | false => exact Or.inl (printable byte (Words.mem_strip blank member))
    | true =>
        simp only [isBlankByte, Bool.or_eq_true, decide_eq_true_eq] at blank
        rcases blank with rfl | rfl
        · exact Or.inl (by decide)
        · exact Or.inr rfl
  have ascii : ∀ byte ∈ value, byte.toNat < 128 := by
    intro byte member
    rcases allowed byte member with ⟨-, below⟩ | rfl
    · exact Nat.lt_trans (UInt8.lt_iff_toNat_lt.mp below) (by decide)
    · decide
  have isText : headerValueToStr value = some (value.map ByteText.charOfByte) := by
    refine if_pos (List.all_eq_true.mpr fun byte member => ?_)
    simpa using allowed byte member
  have blanks : ∀ byte ∈ value, isWhitespace (ByteText.charOfByte byte) = isBlankByte byte :=
    fun byte member => isWhitespace_charOfByte (legal byte member) (ascii byte member)
  have stripped : Words.strip isWhitespace (value.map ByteText.charOfByte) =
      (Words.strip isBlankByte value).map ByteText.charOfByte := Words.strip_map blanks
  have squeezed : normalizeHeaderValue (value.map ByteText.charOfByte) =
      (specHeaderValue value).map ByteText.charOfByte := by
    calc normalizeHeaderValue (value.map ByteText.charOfByte)
        = Words.squeeze isWhitespace ' ' (value.map ByteText.charOfByte) := rfl
      _ = Words.collapse ' ' (Words.strip isWhitespace (value.map ByteText.charOfByte)) := by
          refine Words.squeeze_eq_collapse (by decide) ?_
          rw [stripped]
          intro c inside isBlank
          obtain ⟨byte, member, rfl⟩ := List.mem_map.mp inside
          rw [blanks byte (Words.mem_of_mem_strip member)] at isBlank
          simp only [isBlankByte, Bool.or_eq_true, decide_eq_true_eq] at isBlank
          rcases isBlank with rfl | rfl
          · decide
          · exact absurd (printable 9 member).1 (by decide)
      _ = Words.collapse (ByteText.charOfByte 32)
            ((Words.strip isBlankByte value).map ByteText.charOfByte) := by
          rw [stripped]
          rfl
      _ = (specHeaderValue value).map ByteText.charOfByte :=
          Words.collapse_map ByteText.charOfByte_injective _
  rw [rebuiltValue, isText, Option.getD_some, squeezed, utf8_charOfByte]
  intro byte member
  exact ascii byte (Words.mem_of_mem_strip (Words.mem_collapse.mp member))

end Value

/-! ### Header lines -/

section Lines

variable {encoding : WireEncoding} {request : LogicalRequest}

/-- **The server keeps the last line of every name.** -/
theorem headers_received (encoding : WireEncoding) (request : LogicalRequest) (name : Text) :
    (request.received encoding).headers name =
      (request.values name).getLast?.map fun value => (headerValueToStr value).getD "" := by
  show collectHeaders _ name = _
  rw [collectHeaders_eq_getLast?, List.map_map, LogicalRequest.values, List.getLast?_map,
    List.filter_map, List.getLast?_map, Option.map_map, Option.map_map]
  have names : ((fun pair : Text × Text => decide (pair.1 = name)) ∘
      (fun header : Text × Bytes =>
        (toAsciiLowercase header.1, (headerValueToStr header.2).getD "")) ∘
      fun header : Text × Bytes => (toAsciiLowercase header.1, header.2)) =
        fun header => decide (toAsciiLowercase header.1 = name) := by
    funext header
    simp
  rw [names]
  rfl

/-- The values of a name are legal. -/
theorem LogicalRequest.values_legal (request : LogicalRequest) {name : Text} {value : Bytes}
    (sent : value ∈ request.values name) : ∀ byte ∈ value, isHeaderByte byte = true := by
  obtain ⟨header, listed, rfl⟩ := List.mem_map.mp sent
  exact request.header_value header (List.mem_of_mem_filter listed)

/-- A name that was sent is a single line. -/
theorem LogicalRequest.newline_not_mem_name (request : LogicalRequest) {name : Text} {value : Bytes}
    (sent : value ∈ request.values name) : '\n' ∉ name := by
  obtain ⟨header, listed, rfl⟩ := List.mem_map.mp sent
  obtain ⟨original, lowered⟩ := List.mem_filter.mp listed
  have free : '\n' ∉ header.1 := (request.header_name header original).not_mem (by decide)
  rw [← of_decide_eq_true lowered]
  exact not_mem_toAsciiLowercase free (by decide)

/-- A value as the specification writes it is on a single line. -/
theorem newline_not_mem_specHeaderValue {value : Bytes}
    (legal : ∀ byte ∈ value, isHeaderByte byte = true) : '\n'.toUInt8 ∉ specHeaderValue value := by
  intro member
  have inside := Words.mem_of_mem_strip (Words.mem_collapse.mp member)
  exact absurd (legal _ inside) (by decide)

/-- The line the server builds for a header it received. -/
theorem utf8_signedHeaderLine (name : Text) (value : Bytes) :
    Text.utf8 (signedHeaderLine name ((headerValueToStr value).getD "")) =
      name.utf8 ++ ':'.toUInt8 :: rebuiltValue value := by
  rw [signedHeaderLine, utf8_append, utf8_cons, utf8EncodeChar_ascii (by decide)]
  rfl

/-- **The lines of a name agree exactly when it was sent once, with a printable
value.**  Otherwise something is missing from the line of the server. -/
theorem headerLine_eq_iff {name : Text} {last : Bytes}
    (kept : (request.values name).getLast? = some last) :
    name.utf8 ++ ':'.toUInt8 :: rebuiltValue last = request.headerLine name ↔
      SentOnce request name := by
  obtain ⟨earlier, sent⟩ : ∃ earlier, request.values name = earlier ++ [last] :=
    List.getLast?_eq_some_iff.mp kept
  have legal : ∀ byte ∈ last, isHeaderByte byte = true :=
    request.values_legal (by rw [sent]; simp)
  unfold LogicalRequest.headerLine
  rw [List.append_cancel_left_eq, List.cons.injEq, and_iff_right rfl]
  constructor
  · intro agree
    -- the last value is part of the specified line, which is as printable as the rebuilt one
    have inLine : ∀ byte ∈ specHeaderValue last,
        byte ∈ [','.toUInt8].intercalate ((request.values name).map specHeaderValue) := by
      intro byte member
      rw [sent, List.map_append, List.map_cons, List.map_nil]
      by_cases none : earlier.map specHeaderValue = []
      · rw [none]
        simpa using member
      · rw [Separated.intercalate_concat _ none]
        exact List.mem_append_right _ member
    have printable : ∀ byte ∈ Words.strip isBlankByte last, 32 ≤ byte ∧ byte < 127 := by
      intro byte member
      have written := inLine byte (Words.mem_collapse.mpr member)
      rw [← agree] at written
      exact printable_rebuiltValue legal written
    refine ⟨last, ?_, printable⟩
    rw [rebuiltValue_eq_specHeaderValue legal printable, sent, List.map_append, List.map_cons,
      List.map_nil] at agree
    cases earlier with
    | nil => exact sent
    | cons value values =>
        -- an earlier value would make the specified line longer
        have lengths := congrArg List.length agree
        rw [Separated.intercalate_concat _ (by simp)] at lengths
        simp only [List.length_append, List.length_singleton] at lengths
        omega
  · rintro ⟨value, single, printable⟩
    rw [single] at kept
    obtain rfl : value = last := by simpa using kept
    rw [single, rebuiltValue_eq_specHeaderValue legal printable]
    simp

/-- The line the server builds for a name. -/
def LogicalRequest.rebuiltLine (request : LogicalRequest) (name : Text) : Text :=
  signedHeaderLine name
    ((headerValueToStr ((request.values name).getLast?.getD [])).getD "")

/-- The server builds its lines exactly when every name was sent. -/
theorem signedHeaderLines_received {names lines : List Text} :
    signedHeaderLines (request.received encoding) names = .ok lines ↔
      (∀ name ∈ names, request.values name ≠ []) ∧ lines = names.map request.rebuiltLine := by
  induction names generalizing lines with
  | nil =>
      rw [signedHeaderLines, List.map_nil, Except.ok.injEq]
      exact ⟨fun built => ⟨fun name member => absurd member List.not_mem_nil, built.symm⟩,
        fun built => built.2.symm⟩
  | cons name names inductionHypothesis =>
      rw [signedHeaderLines, headers_received]
      cases last : (request.values name).getLast? with
      | none => simp [List.getLast?_eq_none_iff.mp last]
      | some value =>
          have present : request.values name ≠ [] := by
            intro empty
            simp [empty] at last
          have line : request.rebuiltLine name =
              signedHeaderLine name ((headerValueToStr value).getD "") := by
            rw [LogicalRequest.rebuiltLine, last, Option.getD_some]
          simp only [Option.map_some]
          cases rest : signedHeaderLines (request.received encoding) names with
          | error failure =>
              have missing : ¬ ∀ name ∈ names, request.values name ≠ [] := by
                intro all
                rw [inductionHypothesis.mpr ⟨all, rfl⟩] at rest
                cases rest
              simp [Except.map, present, missing]
          | ok tail =>
              obtain ⟨all, rfl⟩ := inductionHypothesis.mp rest
              have every : ∀ other ∈ name :: names, request.values other ≠ [] := by
                intro other member
                rcases List.mem_cons.mp member with rfl | later
                · exact present
                · exact all other later
              simp only [Except.map, Except.ok.injEq, List.map_cons, line]
              exact ⟨fun built => ⟨every, built.symm⟩, fun built => built.2.symm⟩

/-- The rebuilt line of a name that was sent, as bytes. -/
theorem utf8_rebuiltLine {name : Text} {last : Bytes}
    (kept : (request.values name).getLast? = some last) :
    Text.utf8 (request.rebuiltLine name) = name.utf8 ++ ':'.toUInt8 :: rebuiltValue last := by
  rw [LogicalRequest.rebuiltLine, kept, Option.getD_some, utf8_signedHeaderLine]

/-- The last of some values. -/
theorem exists_last {name : Text} (present : request.values name ≠ []) :
    ∃ last ∈ request.values name, (request.values name).getLast? = some last :=
  ⟨_, List.getLast_mem present, List.getLast?_eq_some_getLast present⟩

theorem newline_not_mem_rebuiltLine {name : Text} (present : request.values name ≠ []) :
    '\n'.toUInt8 ∉ Text.utf8 (request.rebuiltLine name) := by
  obtain ⟨last, sent, kept⟩ := exists_last present
  have nameFree := toUInt8_not_mem_utf8 (by decide) (request.newline_not_mem_name sent)
  have valueFree : '\n'.toUInt8 ∉ rebuiltValue last := fun member =>
    absurd (printable_rebuiltValue (request.values_legal sent) member).1 (by decide)
  rw [utf8_rebuiltLine kept, List.mem_append, List.mem_cons]
  rintro (inName | separator | inValue)
  · exact nameFree inName
  · exact absurd separator (by decide)
  · exact valueFree inValue

theorem newline_not_mem_headerLine {name : Text} (present : request.values name ≠ []) :
    '\n'.toUInt8 ∉ request.headerLine name := by
  obtain ⟨last, sent, -⟩ := exists_last present
  have nameFree := toUInt8_not_mem_utf8 (by decide) (request.newline_not_mem_name sent)
  have valuesFree : '\n'.toUInt8 ∉
      [','.toUInt8].intercalate ((request.values name).map specHeaderValue) := by
    refine Separated.not_mem_intercalate (by decide) ?_
    intro piece member
    obtain ⟨value, listed, rfl⟩ := List.mem_map.mp member
    exact newline_not_mem_specHeaderValue (request.values_legal listed)
  rw [LogicalRequest.headerLine, List.mem_append, List.mem_cons]
  rintro (inName | separator | inValues)
  · exact nameFree inName
  · exact absurd separator (by decide)
  · exact valuesFree inValues

end Lines

/-! ### The names -/

/-- Dropping equal neighbours of a sorted list leaves it strictly sorted. -/
theorem pairwise_dedup {names : List Text} (sorted : names.Pairwise (· ≤ ·)) :
    (dedup names).Pairwise (· < ·) := by
  induction names using dedup.induct with
  | case1 => simp [dedup]
  | case2 => simp [dedup]
  | case3 next names inductionHypothesis =>
      rw [dedup, if_pos rfl]
      exact inductionHypothesis (List.pairwise_cons.mp sorted).2
  | case4 first next names different inductionHypothesis =>
      obtain ⟨least, rest⟩ := List.pairwise_cons.mp sorted
      rw [dedup, if_neg different]
      refine List.pairwise_cons.mpr ⟨?_, inductionHypothesis rest⟩
      intro name member
      have later : name ∈ next :: names := mem_dedup.mp member
      have beyond : next ≤ name := by
        rcases List.mem_cons.mp later with rfl | further
        · exact Std.le_refl _
        · exact (List.pairwise_cons.mp rest).1 name further
      exact Std.lt_of_lt_of_le (Std.lt_of_le_of_ne (least next List.mem_cons_self) different) beyond

/-- **The server's list of signed names is the one of the specification.** -/
theorem canonicalizeSignedHeaders_eq_specNames (signedHeaders : List Text) :
    canonicalizeSignedHeaders signedHeaders = specNames signedHeaders := by
  have server : (canonicalizeSignedHeaders signedHeaders).Pairwise (· < ·) :=
    pairwise_dedup (List.pairwise_insertionSort (· ≤ ·) _)
  have client : (specNames signedHeaders).Pairwise (· < ·) := by
    have sorted := List.pairwise_insertionSort (· ≤ ·) (signedHeaders.map toAsciiLowercase).dedup
    have once : (specNames signedHeaders).Nodup :=
      (List.perm_insertionSort (· ≤ ·) _).nodup_iff.mpr (List.nodup_dedup _)
    exact (sorted.and once).imp fun both => Std.lt_of_le_of_ne both.1 both.2
  refine server.eq_of_mem_iff client fun name => ?_
  rw [mem_canonicalizeSignedHeaders, specNames, (List.perm_insertionSort (· ≤ ·) _).mem_iff,
    List.mem_dedup]

/-! ### The whole string -/

section Whole

variable {sha256 : Bytes → Bytes} {encoding : WireEncoding} {request : LogicalRequest}
  {signedHeaders : List Text}

theorem newline_not_mem_specQuery (pairs : List (Text × Text)) : '\n' ∉ specQuery pairs := by
  refine Separated.not_mem_intercalate (by decide) ?_
  intro piece member
  obtain ⟨pair, -, rfl⟩ := List.mem_map.mp member
  exact not_mem_encodedPair (by decide) (by decide) (by decide) (by decide) pair

/-- Lines glued by newlines, as bytes. -/
theorem utf8_intercalate_newline (lines : List Text) :
    Text.utf8 (['\n'].intercalate lines) = ['\n'.toUInt8].intercalate (lines.map Text.utf8) := by
  have newline : String.utf8EncodeChar '\n' = ['\n'.toUInt8] := utf8EncodeChar_ascii (by decide)
  induction lines with
  | nil => rfl
  | cons line lines inductionHypothesis =>
      cases lines with
      | nil => simp
      | cons next others =>
          rw [List.map_cons] at inductionHypothesis
          rw [List.map_cons, List.map_cons, List.intercalate_cons_cons,
            List.intercalate_cons_cons, utf8_append, utf8_append, inductionHypothesis, utf8_cons,
            utf8_nil, newline, List.append_nil]

/-- The rebuilt string and the specified one agree when their queries and their
header lines do, and only then. -/
theorem canonicalAgrees_iff_parts :
    CanonicalAgrees sha256 encoding request signedHeaders ↔
      (∀ name ∈ specNames signedHeaders, request.values name ≠ []) ∧
        canonicalQueryString (request.received encoding) = specQuery (request.query.getD []) ∧
        ['\n'.toUInt8].intercalate
            ((specNames signedHeaders).map fun name => Text.utf8 (request.rebuiltLine name)) =
          ['\n'.toUInt8].intercalate ((specNames signedHeaders).map request.headerLine) := by
  have newline : String.utf8EncodeChar '\n' = ['\n'.toUInt8] := utf8EncodeChar_ascii (by decide)
  unfold CanonicalAgrees
  simp only [createCanonicalRequest_eq_ok, canonicalizeSignedHeaders_eq_specNames,
    signedHeaderLines_received, canonicalUri_eq_specUri]
  constructor
  · rintro ⟨text, ⟨lines, ⟨present, rfl⟩, rfl⟩, agree⟩
    simp only [utf8_append, utf8_cons, newline, LogicalRequest.canonicalRequest,
      List.singleton_append, utf8_intercalate_newline, List.map_map] at agree
    -- the method and the path are the same, and the query ends at the next newline
    have afterMethod := (List.cons.inj (List.append_cancel_left agree)).2
    have afterPath := (List.cons.inj (List.append_cancel_left afterMethod)).2
    have queryFree := toUInt8_not_mem_utf8 (by decide)
      (newline_not_mem_canonicalQueryString (request.received encoding))
    have queryFree' := toUInt8_not_mem_utf8 (by decide)
      (newline_not_mem_specQuery (request.query.getD []))
    obtain ⟨query, rest⟩ := Separated.append_cons_inj queryFree queryFree' afterPath
    exact ⟨present, Text.utf8_injective query, List.append_cancel_right rest⟩
  · rintro ⟨present, query, lines⟩
    refine ⟨_, ⟨_, ⟨present, rfl⟩, rfl⟩, ?_⟩
    simp only [utf8_append, utf8_cons, newline, LogicalRequest.canonicalRequest,
      List.singleton_append, utf8_intercalate_newline, List.map_map, query]
    have rebuilt : ['\n'.toUInt8].intercalate
        ((specNames signedHeaders).map (Text.utf8 ∘ request.rebuiltLine)) =
      ['\n'.toUInt8].intercalate ((specNames signedHeaders).map request.headerLine) := lines
    rw [rebuilt]
    rfl

/-- The glued lines agree exactly when every line does. -/
theorem lines_agree_iff (present : ∀ name ∈ specNames signedHeaders, request.values name ≠ []) :
    ['\n'.toUInt8].intercalate
        ((specNames signedHeaders).map fun name => Text.utf8 (request.rebuiltLine name)) =
      ['\n'.toUInt8].intercalate ((specNames signedHeaders).map request.headerLine) ↔
      ∀ name ∈ specNames signedHeaders, SentOnce request name := by
  have lineFull : ∀ name, Text.utf8 (request.rebuiltLine name) ≠ [] := by
    intro name
    rw [LogicalRequest.rebuiltLine, utf8_signedHeaderLine]
    simp
  have each : ∀ name ∈ specNames signedHeaders,
      (Text.utf8 (request.rebuiltLine name) = request.headerLine name ↔ SentOnce request name) := by
    intro name member
    obtain ⟨last, -, kept⟩ := exists_last (present name member)
    rw [utf8_rebuiltLine kept]
    exact headerLine_eq_iff kept
  constructor
  · intro glued name member
    have lines := Separated.intercalate_inj_of_nonempty
      (by
        intro piece listed
        obtain ⟨other, found, rfl⟩ := List.mem_map.mp listed
        exact newline_not_mem_rebuiltLine (present other found))
      (by
        intro piece listed
        obtain ⟨other, found, rfl⟩ := List.mem_map.mp listed
        exact newline_not_mem_headerLine (present other found))
      (by
        intro piece listed
        obtain ⟨other, -, rfl⟩ := List.mem_map.mp listed
        exact lineFull other)
      (by
        intro piece listed
        obtain ⟨other, -, rfl⟩ := List.mem_map.mp listed
        simp [LogicalRequest.headerLine])
      glued
    exact (each name member).mp (List.map_inj_left.mp lines name member)
  · intro once
    congr 1
    apply List.map_congr_left
    intro name member
    exact (each name member).mpr (once name member)

/-- The signed names are the names in lower case. -/
theorem mem_specNames {name : Text} :
    name ∈ specNames signedHeaders ↔ name ∈ signedHeaders.map toAsciiLowercase := by
  rw [← canonicalizeSignedHeaders_eq_specNames, mem_canonicalizeSignedHeaders]

/-- A request whose string the server rebuilds is plain. -/
theorem CanonicalAgrees.plain (agrees : CanonicalAgrees sha256 encoding request signedHeaders) :
    Plain encoding request signedHeaders := by
  obtain ⟨present, query, lines⟩ := canonicalAgrees_iff_parts.mp agrees
  obtain ⟨nonempty, unescaped⟩ := canonicalQueryString_received_iff.mp query
  have once := (lines_agree_iff present).mp lines
  exact ⟨nonempty, unescaped, fun name member => once name (mem_specNames.mpr member)⟩

/-- The server rebuilds the string of a plain request. -/
theorem Plain.canonicalAgrees (plain : Plain encoding request signedHeaders) :
    CanonicalAgrees sha256 encoding request signedHeaders := by
  have once : ∀ name ∈ specNames signedHeaders, SentOnce request name :=
    fun name member => plain.headers name (mem_specNames.mp member)
  have present : ∀ name ∈ specNames signedHeaders, request.values name ≠ [] := by
    intro name member
    obtain ⟨value, single, -⟩ := once name member
    rw [single]
    exact List.cons_ne_nil _ _
  exact canonicalAgrees_iff_parts.mpr ⟨present,
    canonicalQueryString_received_iff.mpr ⟨plain.query, plain.unescaped⟩,
    (lines_agree_iff present).mpr once⟩

end Whole

/-- **The server rebuilds the canonical request of the specification exactly for
plain requests.** -/
theorem canonicalAgrees_iff (sha256 : Bytes → Bytes) (encoding : WireEncoding)
    (request : LogicalRequest) (signedHeaders : List Text) :
    CanonicalAgrees sha256 encoding request signedHeaders ↔
      Plain encoding request signedHeaders :=
  ⟨CanonicalAgrees.plain, Plain.canonicalAgrees⟩

/-! ### A query value with a space -/

/-- The encoding of the specification itself: only unreserved bytes are kept. -/
def strictEncoding : WireEncoding where
  keep := isUnreservedByte
  digits := ByteText.upperHex
  keep_ascii := by
    intro byte kept
    by_contra big
    have above : 128 ≤ byte.toNat := Nat.le_of_not_lt big
    simp only [isUnreservedByte, Bool.or_eq_true, Bool.and_eq_true, decide_eq_true_eq,
      UInt8.le_iff_toNat_le, ← UInt8.toNat_inj] at kept
    simp at kept
    omega
  keep_percent := by decide
  keep_ampersand := by decide
  keep_equals := by decide
  digit_plain := by decide

/-- `GET /?name=a b`, with the host signed. -/
def escapedRequest : LogicalRequest where
  method := "GET"
  path := "/"
  query := some [("name", "a b")]
  headers := [("host", Text.utf8 "localhost")]
  body := []
  header_name := by decide
  header_value := by
    intro header listed
    obtain rfl := List.mem_singleton.mp listed
    exact List.all_eq_true.mp (by decide : (Text.utf8 "localhost").all isHeaderByte = true)

/-- The server rebuilds `name=a%2520b` where the client signed `name=a%20b`. -/
theorem escapedRequest_disagrees :
    ¬ CanonicalAgrees (fun _ => []) strictEncoding escapedRequest [("host" : Text)] := by
  intro agrees
  have kept := agrees.plain.unescaped _ rfl _ List.mem_cons_self 32 (by decide)
  exact absurd kept (by decide)

end Hiraeth
