import Hiraeth.Core.Text
import Hiraeth.Lib.ByteText
import Mathlib.Logic.Function.Basic

/-!
# Incoming requests

The adapter that turns the parts of an HTTP request into the record every
service reads.  A header that is sent several times is treated in two ways: the
host is taken from its first value, and the header map keeps the last one.

## Main definitions

* `RequestParts` — what the HTTP library parsed
* `IncomingRequest`, `IncomingRequest.fromParts` — the record and the adapter
* `IncomingRequest.WellFormed` — what the HTTP library guarantees

## Main results

* `fromParts_wellFormed` — the adapter keeps that guarantee
* `fromParts_host` — with a single `Host` header the two treatments agree
-/

namespace Hiraeth

/-- The parts of a request as the HTTP library parsed them.  The headers are in
the order in which they were received. -/
structure RequestParts where
  method : Text
  path : Text
  query : Option Text
  headers : List (Text × Bytes)
  deriving DecidableEq

/-- The request every service reads.  The header map is a finite partial map
from lower-case names. -/
structure IncomingRequest where
  host : Text
  method : Text
  path : Text
  query : Option Text
  headers : Text → Option Text
  body : Bytes

/-- `HeaderValue::to_str`: only visible ASCII, spaces and tabs are text. -/
def headerValueToStr (value : Bytes) : Option Text :=
  if value.all fun byte => (32 ≤ byte && byte < 127) || byte = 9 then
    some (value.map ByteText.charOfByte)
  else none

/-- Collecting pairs into a map: a later pair replaces an earlier one. -/
def collectHeaders (pairs : List (Text × Text)) : Text → Option Text :=
  fun name => pairs.reverse.lookup name

/-- The adapter from the HTTP library's request. -/
def IncomingRequest.fromParts (parts : RequestParts) (body : Bytes) :
    IncomingRequest where
  host := ((parts.headers.lookup ("host" : Text)).bind headerValueToStr).getD ""
  method := parts.method
  path := parts.path
  query := parts.query
  headers := collectHeaders <| parts.headers.map fun header =>
    (toAsciiLowercase header.1, (headerValueToStr header.2).getD "")
  body := body

/-- The same request with one entry of the header map replaced. -/
def IncomingRequest.withHeader (request : IncomingRequest) (name : Text)
    (value : Option Text) : IncomingRequest :=
  { request with headers := Function.update request.headers name value }

theorem IncomingRequest.headers_withHeader_of_ne {name other : Text} (different : other ≠ name)
    (request : IncomingRequest) (value : Option Text) :
    (request.withHeader name value).headers other = request.headers other :=
  Function.update_of_ne different _ _

/-! ### Well-formed requests -/

/-- The characters of an HTTP token. -/
def isTokenChar (c : Char) : Bool :=
  c.isAlphanum || c ∈ "!#$%&'*+-.^_`|~".toList

/-- An HTTP token, such as a method or a header name. -/
def IsToken (text : Text) : Prop :=
  text ≠ [] ∧ ∀ c ∈ text, isTokenChar c

instance (text : Text) : Decidable (IsToken text) :=
  decidable_of_iff (text ≠ [] ∧ text.all isTokenChar) (by simp [IsToken])

theorem IsToken.not_mem {text : Text} (token : IsToken text) {c : Char}
    (outside : isTokenChar c = false) : c ∉ text := by
  intro member
  rw [token.2 c member] at outside
  exact Bool.noConfusion outside

/-- What the HTTP library guarantees of the parts: the method is a token and
the header names are tokens without capitals. -/
structure RequestParts.WellFormed (parts : RequestParts) : Prop where
  method_token : IsToken parts.method
  name_token : ∀ header ∈ parts.headers, IsToken header.1
  name_lower : ∀ header ∈ parts.headers, toAsciiLowercase header.1 = header.1

/-- What the services may rely on: the method and the header names are
tokens. -/
structure IncomingRequest.WellFormed (request : IncomingRequest) : Prop where
  method_token : IsToken request.method
  header_token : ∀ {name value}, request.headers name = some value → IsToken name

theorem IncomingRequest.WellFormed.withHeader {request : IncomingRequest}
    (wellFormed : request.WellFormed) {name : Text} (token : IsToken name)
    (value : Option Text) : (request.withHeader name value).WellFormed where
  method_token := wellFormed.method_token
  header_token := by
    intro other found sent
    by_cases equal : other = name
    · exact equal ▸ token
    · rw [IncomingRequest.headers_withHeader_of_ne equal] at sent
      exact wellFormed.header_token sent

/-- A collected entry stems from one of the pairs. -/
theorem mem_of_collectHeaders {pairs : List (Text × Text)} {name value : Text}
    (found : collectHeaders pairs name = some value) : (name, value) ∈ pairs := by
  obtain ⟨before, after, decomposition, -⟩ := List.lookup_eq_some_iff.mp found
  have member : (name, value) ∈ pairs.reverse := by
    rw [decomposition]
    simp
  simpa using member

/-- The entry of a name is its last pair. -/
theorem collectHeaders_eq_getLast? (pairs : List (Text × Text)) (name : Text) :
    collectHeaders pairs name =
      ((pairs.filter fun pair => pair.1 = name).getLast?).map Prod.snd := by
  induction pairs using List.reverseRecOn with
  | nil => rfl
  | append_singleton pairs pair inductionHypothesis =>
      rw [collectHeaders, List.reverse_append, List.reverse_singleton, List.singleton_append,
        List.lookup_cons, List.filter_append]
      by_cases equal : pair.1 = name
      · simp [equal]
      · have different : (name == pair.1) = false := by
          simpa using fun swapped : name = pair.1 => equal swapped.symm
        rw [different]
        simpa [equal, collectHeaders] using inductionHypothesis

/-- **The adapter keeps the guarantee.** -/
theorem fromParts_wellFormed {parts : RequestParts} (wellFormed : parts.WellFormed)
    (body : Bytes) : (IncomingRequest.fromParts parts body).WellFormed where
  method_token := wellFormed.method_token
  header_token := by
    intro name value found
    obtain ⟨header, member, equal⟩ := List.mem_map.mp (mem_of_collectHeaders found)
    obtain ⟨rfl, -⟩ := Prod.mk.inj equal
    rw [wellFormed.name_lower header member]
    exact wellFormed.name_token header member

/-- **With a single `Host` header the host is the header the map keeps.** -/
theorem fromParts_host {parts : RequestParts} (wellFormed : parts.WellFormed)
    {before after : List (Text × Bytes)} {value : Bytes} {body : Bytes}
    (headers : parts.headers = before ++ (("host" : Text), value) :: after)
    (first : ∀ header ∈ before, header.1 ≠ "host")
    (last : ∀ header ∈ after, header.1 ≠ "host") :
    (IncomingRequest.fromParts parts body).headers "host" =
      some (IncomingRequest.fromParts parts body).host := by
  have host : parts.headers.lookup ("host" : Text) = some value := by
    refine List.lookup_eq_some_iff.mpr ⟨before, after, headers, ?_⟩
    intro header member
    simpa using (first header member).symm
  have kept : (IncomingRequest.fromParts parts body).headers "host" =
      some ((headerValueToStr value).getD "") := by
    refine List.lookup_eq_some_iff.mpr
      ⟨(after.map fun header =>
          (toAsciiLowercase header.1, (headerValueToStr header.2).getD "")).reverse,
        (before.map fun header =>
          (toAsciiLowercase header.1, (headerValueToStr header.2).getD "")).reverse,
        ?_, ?_⟩
    · simp only [headers, List.map_append, List.map_cons, List.reverse_append,
        List.reverse_cons, List.append_assoc, List.singleton_append]
      rfl
    · intro pair member
      obtain ⟨header, original, rfl⟩ := List.mem_map.mp (List.mem_reverse.mp member)
      have listed : header ∈ parts.headers := by
        rw [headers]
        simp [original]
      simpa [wellFormed.name_lower header listed] using (last header original).symm
  rw [kept]
  simp only [IncomingRequest.fromParts, host, Option.bind_some]

end Hiraeth
