import Hiraeth.Auth.SigV4
import Hiraeth.Core.ArnUtil
import Hiraeth.Lib.SortedMap

/-!
# Writing the `Authorization` header

Clients write the parameters of a signature as three pairs, in an order of their choice and with
spaces around them.  The parser reads the parameters back.

## Main definitions

* `SigV4AuthParameters.Valid` — parameters that can be written
* `authorizationPairs`, `Writes` — the pairs, and the headers that hold them

## Main results

* `collectAuthorizationPairs_written` — the last value of each parameter is collected
* `pieces_of_padded` — spaces around the pairs make no difference
* `extractSigv4Params_written` — what was written is read back
-/

namespace Hiraeth

open Interaction

/-- A text that does not end in a space. -/
def EndsPlain (text : Text) : Prop :=
  ∀ c ∈ text.getLast?, isWhitespace c = false

instance (text : Text) : Decidable (EndsPlain text) :=
  decidable_of_iff (text.getLast?.all (!isWhitespace ·) = true) (by
    unfold EndsPlain
    cases text.getLast? <;> simp)

/-- **Parameters that can be written**: no part holds the separator that ends it. -/
structure SigV4AuthParameters.Valid (params : SigV4AuthParameters) : Prop where
  algorithm : params.algorithm = ("AWS4-HMAC-SHA256" : Text)
  scope : ∀ part ∈ [params.accessKey, params.date, params.region, params.service],
    '/' ∉ part ∧ ',' ∉ part
  listed : params.signedHeaders ≠ []
  named : ∀ header ∈ params.signedHeaders,
    header ≠ [] ∧ ';' ∉ header ∧ ',' ∉ header ∧ EndsPlain header
  signed : params.signature ≠ [] ∧ ',' ∉ params.signature ∧ EndsPlain params.signature

/-- The value of the credential. -/
def credentialScope (params : SigV4AuthParameters) : Text :=
  ['/'].intercalate [params.accessKey, params.date, params.region, params.service, "aws4_request"]

/-- **The pairs of the header.** -/
def authorizationPairs (params : SigV4AuthParameters) : List (Text × Text) :=
  [("Credential", credentialScope params),
    ("SignedHeaders", [';'].intercalate params.signedHeaders),
    ("Signature", params.signature)]

/-- A pair as it is written. -/
def writtenPair (pair : Text × Text) : Text :=
  pair.1 ++ '=' :: pair.2

/-- A text with spaces around it. -/
def Padded (text padded : Text) : Prop :=
  ∃ before after : Text, (∀ c ∈ before, isWhitespace c = true) ∧
    (∀ c ∈ after, isWhitespace c = true) ∧ padded = before ++ (text ++ after)

/-- **A header that holds the pairs**, in any order and with any spaces around them. -/
def Writes (params : SigV4AuthParameters) (header : Text) : Prop :=
  ∃ (order : List (Text × Text)) (padded : List Text), order.Perm (authorizationPairs params) ∧
    List.Forall₂ Padded (order.map writtenPair) padded ∧
      header = ("AWS4-HMAC-SHA256" : Text) ++ ' ' :: [','].intercalate padded

/-! ### Pairs -/

/-- A value replaces the one that was collected before. -/
theorem get?_ofList_cons_or {key value name : Text} {pairs : List (Text × Text)}
    {kept : Option Text} :
    ((SortedMap.ofList ((key, value) :: pairs)).get? name).or kept =
      ((SortedMap.ofList pairs).get? name).or (if key = name then some value else kept) := by
  have split : (SortedMap.ofList ([(key, value)] ++ pairs)).get? name = _ :=
    SortedMap.get?_ofList_append
  rw [List.singleton_append] at split
  rw [split, SortedMap.get?_ofList_singleton, Option.or_assoc]
  congr 1
  by_cases same : key = name
  · rw [if_pos same, if_pos same.symm, Option.some_or]
  · rw [if_neg same, if_neg (Ne.symm same), Option.none_or]

/-- What a pair adds to the collected parameters, field by field. -/
theorem collected_fields (key value : Text) (collected : AuthorizationParameters) :
    (if key = ("Credential" : Text) then { collected with credential := some value }
      else if key = ("SignedHeaders" : Text) then { collected with signedHeaders := some value }
      else if key = ("Signature" : Text) then { collected with signature := some value }
      else collected) =
      { credential := if key = ("Credential" : Text) then some value else collected.credential
        signedHeaders :=
          if key = ("SignedHeaders" : Text) then some value else collected.signedHeaders
        signature := if key = ("Signature" : Text) then some value else collected.signature } := by
  by_cases isCredential : key = ("Credential" : Text)
  · rw [if_pos isCredential, if_pos isCredential, if_neg (by rw [isCredential]; decide),
      if_neg (by rw [isCredential]; decide)]
  · rw [if_neg isCredential, if_neg isCredential]
    by_cases isHeaders : key = ("SignedHeaders" : Text)
    · rw [if_pos isHeaders, if_pos isHeaders, if_neg (by rw [isHeaders]; decide)]
    · rw [if_neg isHeaders, if_neg isHeaders]
      by_cases isSignature : key = ("Signature" : Text)
      · rw [if_pos isSignature, if_pos isSignature]
      · rw [if_neg isSignature, if_neg isSignature]

/-- **The last value of each parameter is collected.** -/
theorem collectAuthorizationPairs_written (pairs : List (Text × Text))
    (plain : ∀ pair ∈ pairs, '=' ∉ pair.1) (collected : AuthorizationParameters) :
    collectAuthorizationPairs (pairs.map writtenPair) collected =
      .ok {
        credential := ((SortedMap.ofList pairs).get? "Credential").or collected.credential
        signedHeaders := ((SortedMap.ofList pairs).get? "SignedHeaders").or collected.signedHeaders
        signature := ((SortedMap.ofList pairs).get? "Signature").or collected.signature } := by
  induction pairs generalizing collected with
  | nil => rfl
  | cons pair pairs inductionHypothesis =>
      obtain ⟨key, value⟩ := pair
      have cut : splitOnce '=' (writtenPair (key, value)) = some (key, value) :=
        Separated.splitFirst_append (plain _ List.mem_cons_self) value
      rw [List.map_cons, collectAuthorizationPairs, cut]
      dsimp only
      rw [collected_fields,
        inductionHypothesis fun other isPair => plain other (List.mem_cons_of_mem _ isPair),
        get?_ofList_cons_or, get?_ofList_cons_or, get?_ofList_cons_or]

/-! ### Spaces -/

/-- Spaces around a text are trimmed. -/
theorem trim_before {before text : Text} (spaces : ∀ c ∈ before, isWhitespace c = true) :
    trim (before ++ text) = trim text := by
  induction before with
  | nil => rfl
  | cons c before inductionHypothesis =>
      rw [List.cons_append, trim, trimBy_cons (spaces c List.mem_cons_self)]
      exact inductionHypothesis fun d isSpace => spaces d (List.mem_cons_of_mem c isSpace)

theorem trim_after {text after : Text} (spaces : ∀ c ∈ after, isWhitespace c = true) :
    trim (text ++ after) = trim text := by
  induction after using List.reverseRecOn with
  | nil => rw [List.append_nil]
  | append_singleton after c inductionHypothesis =>
      rw [← List.append_assoc, trim, trimBy_concat (spaces c (by simp))]
      exact inductionHypothesis fun d isSpace => spaces d (List.mem_append_left _ isSpace)

/-- A text without spaces at its ends. -/
def Kept (text : Text) : Prop :=
  text ≠ [] ∧ trim text = text

/-- Texts without spaces at their ends, with anything between them. -/
theorem Kept.append {first last : Text} (keptFirst : Kept first) (keptLast : Kept last)
    (between : Text) : trim (first ++ (between ++ last)) = first ++ (between ++ last) := by
  obtain ⟨someFirst, sameFirst⟩ := keptFirst
  obtain ⟨someLast, sameLast⟩ := keptLast
  refine trimBy_eq_self_iff.mpr ⟨?_, ?_⟩
  · rw [List.head?_append_of_ne_nil _ someFirst]
    exact (trimBy_eq_self_iff.mp sameFirst).1
  · rw [← List.append_assoc, List.getLast?_append_of_ne_nil _ someLast]
    exact (trimBy_eq_self_iff.mp sameLast).2

/-- A comma is no space. -/
theorem comma_not_mem_of_spaces {spaces : Text} (all : ∀ c ∈ spaces, isWhitespace c = true) :
    ',' ∉ spaces :=
  fun isComma => absurd (all ',' isComma) (by decide)

/-- **Spaces around three pairs make no difference.** -/
theorem pieces_of_padded {first second third padded padded' padded'' : Text}
    (kept : Kept first) (kept' : Kept second) (kept'' : Kept third)
    (plain : ',' ∉ first) (plain' : ',' ∉ second) (plain'' : ',' ∉ third)
    (pads : Padded first padded) (pads' : Padded second padded') (pads'' : Padded third padded'') :
    ((trim ([','].intercalate [padded, padded', padded''])).splitOn ',').map trim =
      [first, second, third] := by
  obtain ⟨before, after, spacesBefore, spacesAfter, rfl⟩ := pads
  obtain ⟨before', after', spacesBefore', spacesAfter', rfl⟩ := pads'
  obtain ⟨before'', after'', spacesBefore'', spacesAfter'', rfl⟩ := pads''
  -- the spaces at both ends are trimmed, and those around the commas later
  have ends : trim ([','].intercalate [before ++ (first ++ after), before' ++ (second ++ after'),
      before'' ++ (third ++ after'')]) =
      [','].intercalate [first ++ after, before' ++ (second ++ after'), before'' ++ third] := by
    have outer : [','].intercalate [before ++ (first ++ after), before' ++ (second ++ after'),
        before'' ++ (third ++ after'')] =
        before ++ ((first ++ ((after ++ ',' :: (before' ++ (second ++ after') ++
          ',' :: before'')) ++ third)) ++ after'') := by
      simp [List.intercalate]
    have inner : [','].intercalate [first ++ after, before' ++ (second ++ after'),
        before'' ++ third] =
        first ++ ((after ++ ',' :: (before' ++ (second ++ after') ++ ',' :: before'')) ++
          third) := by
      simp [List.intercalate]
    rw [outer, inner, trim_before spacesBefore, trim_after spacesAfter'', kept.append kept'']
  have free : ∀ piece ∈ [first ++ after, before' ++ (second ++ after'), before'' ++ third],
      ',' ∉ piece := by
    have noComma := @comma_not_mem_of_spaces
    simp only [List.mem_cons, List.not_mem_nil, or_false]
    rintro piece (rfl | rfl | rfl)
    · simp only [List.mem_append, not_or]
      exact ⟨plain, noComma spacesAfter⟩
    · simp only [List.mem_append, not_or]
      exact ⟨noComma spacesBefore', plain', noComma spacesAfter'⟩
    · simp only [List.mem_append, not_or]
      exact ⟨noComma spacesBefore'', plain''⟩
  rw [ends, List.splitOn_intercalate ',' free (by simp)]
  simp only [List.map_cons, List.map_nil]
  rw [trim_after spacesAfter, trim_before spacesBefore', trim_after spacesAfter',
    trim_before spacesBefore'', kept.2, kept'.2, kept''.2]

/-! ### The header -/

section Header

variable {params : SigV4AuthParameters}

/-- The last character of what is glued is that of the last piece. -/
theorem endsPlain_append {front text : Text} (nonempty : text ≠ []) (plain : EndsPlain text) :
    EndsPlain (front ++ text) := by
  intro c isLast
  rw [List.getLast?_append_of_ne_nil _ nonempty] at isLast
  exact plain c isLast

/-- A pair has no spaces at its ends. -/
theorem kept_writtenPair {pair : Text × Text} (isKey : Kept pair.1) (nonempty : pair.2 ≠ [])
    (plain : EndsPlain pair.2) : Kept (writtenPair pair) := by
  obtain ⟨key, value⟩ := pair
  obtain ⟨someKey, sameKey⟩ := isKey
  refine ⟨by simp [writtenPair], trimBy_eq_self_iff.mpr ⟨?_, ?_⟩⟩
  · rw [writtenPair, List.head?_append_of_ne_nil _ someKey]
    exact (trimBy_eq_self_iff.mp sameKey).1
  · have split : writtenPair (key, value) = (key ++ ['=']) ++ value := by simp [writtenPair]
    rw [split]
    exact endsPlain_append nonempty plain

theorem endsPlain_intercalate {separator : Text} {pieces : List Text} (nonempty : pieces ≠ [])
    (plain : ∀ piece ∈ pieces, piece ≠ [] ∧ EndsPlain piece) :
    EndsPlain (separator.intercalate pieces) := by
  obtain ⟨front, last, rfl⟩ := (List.eq_nil_or_concat' pieces).resolve_left nonempty
  obtain ⟨someLast, plainLast⟩ := plain last (List.mem_append_right _ List.mem_cons_self)
  by_cases single : front = []
  · subst single
    simpa [List.intercalate] using plainLast
  · rw [Separated.intercalate_concat separator single]
    exact endsPlain_append someLast plainLast

/-- The credential of valid parameters. -/
theorem credentialScope_plain (valid : params.Valid) :
    credentialScope params ≠ [] ∧ ',' ∉ credentialScope params ∧
      EndsPlain (credentialScope params) := by
  have isConcat : credentialScope params =
      ['/'].intercalate [params.accessKey, params.date, params.region, params.service] ++ ['/'] ++
        ("aws4_request" : Text) := by
    have glued := @Separated.intercalate_concat Char ['/']
      [params.accessKey, params.date, params.region, params.service] (List.cons_ne_nil _ _)
      "aws4_request"
    exact glued
  refine ⟨?_, ?_, ?_⟩
  · rw [isConcat]
    simp
  · refine Separated.not_mem_intercalate (by decide) fun piece isPart => ?_
    rcases List.mem_append.mp (show piece ∈ [params.accessKey, params.date, params.region,
      params.service] ++ [("aws4_request" : Text)] from isPart) with isScope | isLast
    · exact (valid.scope piece isScope).2
    · rw [List.mem_singleton.mp isLast]
      decide
  · rw [isConcat]
    exact endsPlain_append (by decide) (by
      intro c isLast
      obtain rfl := Option.some.inj isLast
      decide)

/-- The pairs of valid parameters: their keys, no commas, and no spaces at their ends. -/
theorem authorizationPairs_plain (valid : params.Valid) :
    ∀ pair ∈ authorizationPairs params,
      '=' ∉ pair.1 ∧ Kept (writtenPair pair) ∧ ',' ∉ writtenPair pair := by
  -- a key of letters, before a value without commas
  have written {key value : Text} (plainKey : '=' ∉ key ∧ ',' ∉ key ∧ Kept key)
      (plainValue : value ≠ [] ∧ ',' ∉ value ∧ EndsPlain value) :
      '=' ∉ key ∧ Kept (writtenPair (key, value)) ∧ ',' ∉ writtenPair (key, value) := by
    obtain ⟨noEquals, noComma, keptKey⟩ := plainKey
    obtain ⟨nonempty, noComma', plain⟩ := plainValue
    refine ⟨noEquals, kept_writtenPair keptKey nonempty plain, ?_⟩
    simp [writtenPair, noComma, noComma']
  have credential : '=' ∉ ("Credential" : Text) ∧ ',' ∉ ("Credential" : Text) ∧
      Kept "Credential" := by
    unfold Kept
    decide
  have signedHeaders : '=' ∉ ("SignedHeaders" : Text) ∧ ',' ∉ ("SignedHeaders" : Text) ∧
      Kept "SignedHeaders" := by
    unfold Kept
    decide
  have signature : '=' ∉ ("Signature" : Text) ∧ ',' ∉ ("Signature" : Text) ∧
      Kept "Signature" := by
    unfold Kept
    decide
  intro pair isPair
  simp only [authorizationPairs, List.mem_cons, List.not_mem_nil, or_false] at isPair
  rcases isPair with rfl | rfl | rfl
  · exact written credential (credentialScope_plain valid)
  · refine written signedHeaders ⟨?_, ?_, ?_⟩
    · exact Separated.intercalate_ne_nil valid.listed fun header isHeader =>
        (valid.named header isHeader).1
    · exact Separated.not_mem_intercalate (by decide) fun header isHeader =>
        (valid.named header isHeader).2.2.1
    · exact endsPlain_intercalate valid.listed fun header isHeader =>
        ⟨(valid.named header isHeader).1, (valid.named header isHeader).2.2.2⟩
  · exact written signature valid.signed

/-- What is collected from the pairs, in any order. -/
theorem get?_authorizationPairs {order : List (Text × Text)}
    (sameOrder : order.Perm (authorizationPairs params)) {key value : Text}
    (isPair : (key, value) ∈ authorizationPairs params) :
    (SortedMap.ofList order).get? key = some value := by
  have different : ((authorizationPairs params).map (·.1)).Nodup := by
    show [("Credential" : Text), "SignedHeaders", "Signature"].Nodup
    decide
  have agree : SortedMap.Agree order := fun left isLeft right isRight same =>
    congrArg Prod.snd (List.inj_on_of_nodup_map different (sameOrder.subset isLeft)
      (sameOrder.subset isRight) same)
  exact agree.get?_ofList.mpr (sameOrder.symm.subset isPair)

/-- **The pairs of a written header**, as the parser sees them. -/
theorem pieces_written (valid : params.Valid) {order : List (Text × Text)} {padded : List Text}
    (sameOrder : order.Perm (authorizationPairs params))
    (pads : List.Forall₂ Padded (order.map writtenPair) padded) :
    ((trim ([','].intercalate padded)).splitOn ',').map trim = order.map writtenPair := by
  have plain (pair : Text × Text) (isPair : pair ∈ order) :=
    authorizationPairs_plain valid pair (sameOrder.subset isPair)
  obtain ⟨first, second, third, rfl⟩ := List.length_eq_three.mp sameOrder.length_eq
  simp only [List.map_cons, List.map_nil, List.forall₂_cons_left_iff,
    List.forall₂_nil_left_iff] at pads
  obtain ⟨_, _, pads, ⟨_, _, pads', ⟨_, _, pads'', rfl, rfl⟩, rfl⟩, rfl⟩ := pads
  obtain ⟨-, kept, free⟩ := plain first (by simp)
  obtain ⟨-, kept', free'⟩ := plain second (by simp)
  obtain ⟨-, kept'', free''⟩ := plain third (by simp)
  exact pieces_of_padded kept kept' kept'' free free' free'' pads pads' pads''

/-- **What was written is read back.** -/
theorem parseAuthorization_written (valid : params.Valid) {header : Text}
    (writes : Writes params header) : parseAuthorization header = .ok params := by
  obtain ⟨order, padded, sameOrder, pads, rfl⟩ := writes
  have cut : splitOnce ' ' (("AWS4-HMAC-SHA256" : Text) ++ ' ' :: [','].intercalate padded) =
      some (("AWS4-HMAC-SHA256" : Text), [','].intercalate padded) :=
    Separated.splitFirst_append (by decide) _
  have collects := collectAuthorizationPairs_written order
    (fun pair isPair => (authorizationPairs_plain valid pair (sameOrder.subset isPair)).1)
    ⟨none, none, none⟩
  rw [get?_authorizationPairs sameOrder List.mem_cons_self,
    get?_authorizationPairs sameOrder (List.mem_cons_of_mem _ List.mem_cons_self),
    get?_authorizationPairs sameOrder
      (List.mem_cons_of_mem _ (List.mem_cons_of_mem _ List.mem_cons_self))] at collects
  have scope : (credentialScope params).splitOn '/' = [params.accessKey, params.date,
      params.region, params.service, ("aws4_request" : Text)] := by
    refine List.splitOn_intercalate '/' (fun part isPart => ?_) (List.cons_ne_nil _ _)
    rcases List.mem_append.mp (show part ∈ [params.accessKey, params.date, params.region,
      params.service] ++ [("aws4_request" : Text)] from isPart) with isScope | isLast
    · exact (valid.scope part isScope).1
    · rw [List.mem_singleton.mp isLast]
      decide
  have headers : (([';'].intercalate params.signedHeaders).splitOn ';').filter (· ≠ []) =
      params.signedHeaders := by
    rw [List.splitOn_intercalate ';' (fun header isHeader => (valid.named header isHeader).2.1)
      valid.listed]
    exact List.filter_eq_self.mpr fun header isHeader =>
      decide_eq_true (valid.named header isHeader).1
  unfold parseAuthorization
  refine bind_eq_ok.mpr ⟨_, congrArg _ cut, ?_⟩
  refine (if_neg (not_not.mpr rfl)).trans ?_
  refine bind_eq_ok.mpr ⟨_, (congrArg (fun pieces => collectAuthorizationPairs pieces _)
    (pieces_written valid sameOrder pads)).trans collects, ?_⟩
  refine bind_eq_ok.mpr ⟨credentialScope params, rfl, ?_⟩
  rw [scope]
  refine (if_neg (not_not.mpr rfl)).trans ?_
  refine bind_eq_ok.mpr ⟨_, rfl, ?_⟩
  rw [headers]
  refine (if_neg valid.listed).trans ?_
  refine bind_eq_ok.mpr ⟨params.signature, rfl, ?_⟩
  refine (if_neg valid.signed.1).trans ?_
  rw [← valid.algorithm]
  rfl

end Header

/-- **Parsing undoes writing**: a request whose header holds the pairs of valid parameters, in any
order and with any spaces around them, carries these parameters. -/
theorem extractSigv4Params_written {params : SigV4AuthParameters} (valid : params.Valid)
    {header : Text} (writes : Writes params header) {request : IncomingRequest}
    (sent : request.headers "authorization" = some header) :
    extractSigv4Params request = .ok params := by
  unfold extractSigv4Params
  rw [sent]
  exact parseAuthorization_written valid writes

/-- Parameters of a signature. -/
def listQueuesParams : SigV4AuthParameters where
  algorithm := "AWS4-HMAC-SHA256"
  accessKey := "AKIA"
  date := "20260101"
  region := "us-east-1"
  service := "sqs"
  signedHeaders := ["host", "x-amz-date"]
  signature := "00ff"

/-- A request with these parameters, the signature first. -/
def listQueuesRequest : IncomingRequest where
  host := "localhost"
  method := "POST"
  path := "/"
  query := none
  headers := fun name => if name = ("authorization" : Text) then
    some (("AWS4-HMAC-SHA256 Signature=00ff, SignedHeaders=host;x-amz-date,  " : Text) ++
      ("Credential=AKIA/20260101/us-east-1/sqs/aws4_request" : Text)) else none
  body := []

theorem extractSigv4Params_written_listQueues :
    extractSigv4Params listQueuesRequest = .ok listQueuesParams := by
  have valid : listQueuesParams.Valid :=
    ⟨rfl, by decide +kernel, by decide +kernel, by decide +kernel, by decide +kernel⟩
  have padding {spaces : Text} (checked : spaces.all isWhitespace = true) :
      ∀ c ∈ spaces, isWhitespace c = true := List.all_eq_true.mp checked
  have pads : List.Forall₂ Padded ((authorizationPairs listQueuesParams).reverse.map writtenPair)
      ["Signature=00ff", " SignedHeaders=host;x-amz-date",
        "  Credential=AKIA/20260101/us-east-1/sqs/aws4_request"] :=
    .cons ⟨[], [], padding rfl, padding rfl, by decide +kernel⟩
      (.cons ⟨" ", [], padding (by decide +kernel), padding rfl, by decide +kernel⟩
        (.cons ⟨"  ", [], padding (by decide +kernel), padding rfl, by decide +kernel⟩ .nil))
  exact extractSigv4Params_written valid ⟨_, _, List.reverse_perm _, pads, by decide +kernel⟩ rfl

end Hiraeth
