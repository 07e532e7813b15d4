import Hiraeth.Core.Protocol
import Hiraeth.Lib.ByteText
import Hiraeth.Lib.Marked
import Mathlib.Data.List.Chain

/-!
# Stamping responses with the request id

Before a response is sent, the request id of the server is put into its headers
and into its body.  The body is searched as text: whatever stands between an
opening and a closing `RequestId` tag is replaced, in the answer of any service
and of any content type.

## Main definitions

* `withAwsRequestId`, `replaceXmlRequestIds` — the rewriting
* `Envelope` — where the request id of an XML response stands
* `Faithful` — what the rewriting may change
* `OwnRequestIdsOnly` — the responses it treats so

## Main results

* `faithful_iff` — the rewriting is faithful exactly on those responses
* `receiveMessage_body_rewritten` — and not on an answer that carries a message
  with such tags
-/

namespace Hiraeth

open Separated

/-! ### The request id -/

/-- A version 4 UUID, as its sixteen bytes. -/
structure Uuid where
  bytes : Bytes
  sixteen : bytes.length = 16

/-- `Uuid::to_string`: lower-case hexadecimal in five groups. -/
def Uuid.toText (id : Uuid) : Text :=
  let digits := ByteText.hexEncode ByteText.lowerHex id.bytes
  digits.take 8 ++ '-' :: (digits.drop 8).take 4 ++ '-' :: (digits.drop 12).take 4 ++
    '-' :: (digits.drop 16).take 4 ++ '-' :: digits.drop 20

/-- The text of a request id opens no tag. -/
theorem Uuid.not_mem_toText (id : Uuid) : '<' ∉ id.toText := by
  have digits : '<' ∉ ByteText.hexEncode ByteText.lowerHex id.bytes :=
    ByteText.not_mem_hexEncode (by decide) _
  have later (n : ℕ) : '<' ∉ (ByteText.hexEncode ByteText.lowerHex id.bytes).drop n :=
    fun member => digits (List.mem_of_mem_drop member)
  have part (n m : ℕ) : '<' ∉ ((ByteText.hexEncode ByteText.lowerHex id.bytes).drop n).take m :=
    fun member => later n (List.mem_of_mem_take member)
  have first : '<' ∉ (ByteText.hexEncode ByteText.lowerHex id.bytes).take 8 :=
    fun member => digits (List.mem_of_mem_take member)
  simp [Uuid.toText, first, later, part]

/-- `AWS_REQUEST_ID_HEADER`. -/
def awsRequestIdHeader : Text := "x-amzn-requestid"

/-! ### The rewriting -/

/-- The tags that are searched for. -/
def requestIdTags : Marks Char where
  opening := "<RequestId>".toList
  closing := "</RequestId>".toList
  lead := '<'
  opening_head := by decide
  closing_head := by decide
  opening_tail := by decide
  closing_tail := by decide
  apart := by
    intro after after' equal
    have second : '/' = 'R' := congrArg (fun text : Text => text.getD 1 ' ') equal
    exact absurd second (by decide)

/-- `replace_xml_request_ids`: from left to right, the text between an opening
tag and the next closing tag is replaced. -/
def replaceXmlRequestIds (body requestId : Text) : Text :=
  requestIdTags.replace requestId body

/-- `with_aws_request_id`. -/
def withAwsRequestId (response : ServiceResponse) (requestId : Text) : ServiceResponse :=
  { response with
    headers :=
      if response.headers.any fun header => toAsciiLowercase header.1 = awsRequestIdHeader then
        response.headers
      else response.headers ++ [(awsRequestIdHeader, requestId)]
    body :=
      match fromUtf8 response.body with
      | some body => (replaceXmlRequestIds body requestId).utf8
      | none => response.body }

/-! ### What may change -/

/-- The content type of the answers of AWS query services. -/
def ServiceResponse.IsXml (response : ServiceResponse) : Prop :=
  ∃ header ∈ response.headers, toAsciiLowercase header.1 = ("content-type" : Text) ∧
    ("text/xml" : Text) <+: header.2

/-- **Where the request id of an XML response stands**: in the metadata that end
the document, or at the end of an error document. -/
def Envelope (before after : Text) : Prop :=
  (∃ name inside : Text, '<' ∉ name ∧
    before = '<' :: name ++ ' ' :: inside ++ "<ResponseMetadata>".toList ∧
    after = "</ResponseMetadata></".toList ++ name ++ ['>']) ∨
  ∃ inside : Text, before = "<ErrorResponse ".toList ++ inside ++ "</Error>".toList ∧
    after = "</ErrorResponse>".toList

/-- Behind an envelope, tags are only closed. -/
def ClosesOnly (text : Text) : Prop :=
  text.IsChain fun c d => c = '<' → d = '/'

/-- An opening tag is not a closing one. -/
theorem ClosesOnly.unopened {text : Text} (closes : ClosesOnly text) :
    ¬ requestIdTags.opening <:+: text := by
  intro opens
  have start : ClosesOnly requestIdTags.opening := List.IsChain.infix closes opens
  exact absurd start (by unfold ClosesOnly; decide)

theorem Envelope.closesOnly {before after : Text} (envelope : Envelope before after) :
    ClosesOnly after := by
  rcases envelope with ⟨name, inside, plain, -, rfl⟩ | ⟨inside, -, rfl⟩
  · -- the name of the root element opens nothing
    have named : ClosesOnly (name ++ ['>']) := by
      have free : ∀ c ∈ name, c ≠ '<' := fun c member equal => plain (equal ▸ member)
      clear plain
      induction name with
      | nil => exact List.isChain_singleton _
      | cons c name inductionHypothesis =>
          have rest := inductionHypothesis fun d member => free d (List.mem_cons_of_mem _ member)
          refine List.IsChain.cons rest ?_
          intro d _ opens
          exact absurd opens (free c List.mem_cons_self)
    rw [List.append_assoc]
    refine List.IsChain.append (by decide) named ?_
    intro c last d _ opens
    obtain rfl : c = '/' := by simpa using last.symm
    exact absurd opens (by decide)
  · unfold ClosesOnly
    decide

/-- The rewriting leaves everything alone but the headers that carry a request
id and, in an XML response, the request id of its envelope. -/
structure Faithful (answered sent : ServiceResponse) : Prop where
  statusCode : sent.statusCode = answered.statusCode
  headers : (sent.headers.filter fun header => toAsciiLowercase header.1 ≠ awsRequestIdHeader) =
    answered.headers.filter fun header => toAsciiLowercase header.1 ≠ awsRequestIdHeader
  body : sent.body = answered.body ∨
    answered.IsXml ∧ ∃ before old new after, Envelope before after ∧ '<' ∉ old ∧
      answered.body = Text.utf8 (requestIdTags.passage before old after) ∧
      sent.body = Text.utf8 (requestIdTags.passage before new after)

/-- Every passage of a response between the two tags is the request id of the
request already, or belongs to the envelope of an XML response. -/
def OwnRequestIdsOnly (response : ServiceResponse) (requestId : Text) : Prop :=
  ∀ before old after, response.body = Text.utf8 (requestIdTags.passage before old after) →
    ¬ requestIdTags.closing <:+: old →
      old = requestId ∨ (response.IsXml ∧ Envelope before after ∧ '<' ∉ old)

/-! ### When it does -/

/-- The headers are extended at most by a request id. -/
theorem withAwsRequestId_headers (response : ServiceResponse) (requestId : Text) :
    ((withAwsRequestId response requestId).headers.filter
        fun header => toAsciiLowercase header.1 ≠ awsRequestIdHeader) =
      response.headers.filter fun header => toAsciiLowercase header.1 ≠ awsRequestIdHeader := by
  unfold withAwsRequestId
  dsimp only
  split
  · rfl
  · have own : toAsciiLowercase awsRequestIdHeader = awsRequestIdHeader := by decide
    simp [List.filter_append, own]

/-- The passages a rewriting may change, in a given response. -/
def ServiceResponse.Permits (response : ServiceResponse) (before after : Text) : Prop :=
  response.IsXml ∧ Envelope before after

/-- What the rewriting does to the text of a body. -/
theorem keeps_iff_settled (response : ServiceResponse) (id : Uuid) (body : Text) :
    requestIdTags.Keeps id.toText response.Permits body ↔
      requestIdTags.Settled id.toText response.Permits body :=
  Marks.keeps_iff id.not_mem_toText fun _ _ permitted => permitted.2.closesOnly.unopened

/-- The body that is sent, for a body that is text. -/
theorem withAwsRequestId_body {response : ServiceResponse} {body : Text}
    (isText : response.body = body.utf8) (requestId : Text) :
    (withAwsRequestId response requestId).body =
      Text.utf8 (requestIdTags.replace requestId body) := by
  have decoded : fromUtf8 response.body = some body := fromUtf8_eq_some.mpr isText
  simp [withAwsRequestId, decoded, replaceXmlRequestIds]

/-- In a response that is treated faithfully, no passage is foreign. -/
theorem Faithful.ownRequestIdsOnly {response : ServiceResponse} {id : Uuid}
    (faithful : Faithful response (withAwsRequestId response id.toText)) :
    OwnRequestIdsOnly response id.toText := by
  intro before old after isText free
  have kept : requestIdTags.Keeps id.toText response.Permits
      (requestIdTags.passage before old after) := by
    rcases faithful.body with same | ⟨isXml, left, inner, new, right, envelope, plain, split, joined⟩
    · rw [withAwsRequestId_body isText, isText] at same
      exact Or.inl (Text.utf8_injective same)
    · rw [isText] at split
      rw [withAwsRequestId_body isText] at joined
      exact Or.inr ⟨left, inner, new, right, ⟨isXml, envelope⟩, plain,
        Text.utf8_injective split, Text.utf8_injective joined⟩
  have settled := (keeps_iff_settled response id _).mp kept
  refine (settled before old after rfl free).imp_right ?_
  rintro ⟨⟨isXml, envelope⟩, plain⟩
  exact ⟨isXml, envelope, plain⟩

/-- A response without foreign passages is treated faithfully. -/
theorem OwnRequestIdsOnly.faithful {response : ServiceResponse} {id : Uuid}
    (own : OwnRequestIdsOnly response id.toText) :
    Faithful response (withAwsRequestId response id.toText) := by
  refine ⟨rfl, withAwsRequestId_headers response id.toText, ?_⟩
  cases decoded : fromUtf8 response.body with
  | none =>
      left
      simp [withAwsRequestId, decoded]
  | some body =>
      have isText : response.body = body.utf8 := fromUtf8_eq_some.mp decoded
      have settled : requestIdTags.Settled id.toText response.Permits body := by
        intro before old after split free
        refine (own before old after (by rw [isText, split]) free).imp_right ?_
        rintro ⟨isXml, envelope, plain⟩
        exact ⟨⟨isXml, envelope⟩, plain⟩
      rw [withAwsRequestId_body isText, isText]
      rcases (keeps_iff_settled response id body).mpr settled with
        same | ⟨before, old, new, after, ⟨isXml, envelope⟩, plain, split, joined⟩
      · exact Or.inl (by rw [same])
      · exact Or.inr ⟨isXml, before, old, new, after, envelope, plain, by rw [split],
          by rw [joined]⟩

/-- **The rewriting is faithful exactly on the responses in which every passage
between the tags is their own request id.**  No other response is, whatever its
service and its content type. -/
theorem faithful_iff (response : ServiceResponse) (id : Uuid) :
    Faithful response (withAwsRequestId response id.toText) ↔
      OwnRequestIdsOnly response id.toText :=
  ⟨Faithful.ownRequestIdsOnly, OwnRequestIdsOnly.faithful⟩

/-! ### A message with tags in its body -/

/-- The id of some request. -/
def someRequestId : Uuid where
  bytes := [0x7a, 0x62, 0xc4, 0x9f, 0x34, 0x7e, 0x4f, 0xc4, 0x93, 0x31, 0x6e, 0x8e, 0x01, 0x02,
    0x03, 0x04]
  sixteen := rfl

/-- What ReceiveMessage answers when it returns a message whose body is
`<RequestId>x</RequestId>`. -/
def taggedMessageAnswer : ServiceResponse where
  statusCode := 200
  headers := []
  body := Text.utf8 (requestIdTags.passage
    (("\x7b\"Messages\":[\x7b\"MessageId\":\"c0ffee00-0000-4000-8000-000000000001\"," : Text) ++
      "\"ReceiptHandle\":\"c0ffee00-0000-4000-8000-000000000002\",\"Body\":\"".toList)
    "x" ("\",\"MD5OfBody\":\"f480fb26292c181e87ae699936a8d1e7\"\x7d]\x7d" : Text))

/-- The client does not receive the body that was sent: the text between the
tags is replaced, and the digest beside it is not. -/
theorem receiveMessage_body_rewritten :
    ¬ Faithful taggedMessageAnswer
      (withAwsRequestId taggedMessageAnswer someRequestId.toText) := by
  intro faithful
  rcases faithful.ownRequestIdsOnly _ _ _ rfl (by decide) with same | ⟨⟨header, member, -⟩, -⟩
  · have lengths := congrArg List.length same
    revert lengths
    decide
  · cases member

end Hiraeth
