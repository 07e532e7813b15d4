import Hiraeth.Auth.SigV4

/-!
# What a signature binds

Two requests that carry the same `Authorization` header and are both
authenticated went through the same computation with the same key.  As long as
the digests involved do not collide, they agree on the inputs of the
computation: on the method, the path, the query pairs, the body, the time stamp
and the headers the client chose to sign.  They need not agree on anything
else, and in particular not on a target header that was left unsigned.

## Main definitions

* `hashedInputs`, `signedInputs` — the byte strings that are digested

## Main results

* `hashRequest_inj` — equal signatures come from equal canonical requests
* `authenticateRequest_binds` — what two authenticated requests agree on
* `authenticateRequest_target_unbound` — what they need not agree on
-/

namespace Hiraeth

open Interaction

variable (library : AuthLibrary)

/-- The canonical request of a request, for the headers it lists itself. -/
def canonicalRequestOf (request : IncomingRequest) : Except AuthError Text := do
  let params ← extractSigv4Params request
  createCanonicalRequest library.sha256 request params.signedHeaders

/-- The string a request is signed with. -/
def stringToSignOf (request : IncomingRequest) : Except AuthError Text := do
  let params ← extractSigv4Params request
  let canonical ← createCanonicalRequest library.sha256 request params.signedHeaders
  return stringToSign library params ((request.headers "x-amz-date").getD []) canonical

/-- The inputs of SHA-256 while a request is authenticated. -/
def hashedInputs (request : IncomingRequest) : List Bytes :=
  request.body :: (canonicalRequestOf library request).toOption.toList.map Text.utf8

/-- The input of the last HMAC while a request is authenticated. -/
def signedInputs (request : IncomingRequest) : List Bytes :=
  (stringToSignOf library request).toOption.toList.map Text.utf8

/-! ### Equal signatures -/

/-- The string to sign determines the time stamp and the digest of the
canonical request. -/
theorem stringToSign_inj {params : SigV4AuthParameters} {timestamp timestamp' canonical
    canonical' : Text}
    (equal : stringToSign library params timestamp canonical =
      stringToSign library params timestamp' canonical') :
    timestamp = timestamp' ∧ library.sha256 canonical.utf8 = library.sha256 canonical'.utf8 := by
  have regroup : ∀ (stamp : Text) (hash : Text),
      params.algorithm ++ '\n' :: (stamp ++ '\n' :: (params.date ++ '/' ::
        (params.region ++ '/' :: (params.service ++ "/aws4_request\n".toList ++ hash)))) =
      (params.algorithm ++ '\n' :: (stamp ++ ('\n' :: (params.date ++ '/' ::
        (params.region ++ '/' :: (params.service ++ "/aws4_request".toList)))))) ++
        '\n' :: hash := by
    intro stamp hash
    simp
  rw [stringToSign, stringToSign, regroup, regroup] at equal
  obtain ⟨scope, hash⟩ := Separated.append_cons_inj_right
    (newline_not_mem_payloadHash _) (newline_not_mem_payloadHash _) equal
  have stamps := (List.cons.inj (List.append_cancel_left scope)).2
  exact ⟨List.append_cancel_right stamps, ByteText.hexEncode_injective _ hash⟩

/-- **Equal signatures come from equal canonical requests and time stamps.** -/
theorem hashRequest_inj {left right : IncomingRequest} {accessKey : AccessKey}
    {signature : Text}
    (authorization : left.headers "authorization" = right.headers "authorization")
    (hash : CollisionFree library.sha256
      (hashedInputs library left ++ hashedInputs library right))
    (mac : ∀ key, CollisionFree (library.hmacSha256 key)
      (signedInputs library left ++ signedInputs library right))
    (leftHashed : hashRequest library left accessKey = .ok signature)
    (rightHashed : hashRequest library right accessKey = .ok signature) :
    ∃ params canonical timestamp,
      extractSigv4Params left = .ok params ∧ extractSigv4Params right = .ok params ∧
        createCanonicalRequest library.sha256 left params.signedHeaders = .ok canonical ∧
        createCanonicalRequest library.sha256 right params.signedHeaders = .ok canonical ∧
        left.headers "x-amz-date" = some timestamp ∧
        right.headers "x-amz-date" = some timestamp := by
  obtain ⟨params, leftCanonical, leftStamp, leftParams, leftBuilt, leftDated, -, rfl⟩ :=
    (hashRequest_eq_ok library).mp leftHashed
  obtain ⟨params', rightCanonical, rightStamp, rightParams, rightBuilt, rightDated, -, equal⟩ :=
    (hashRequest_eq_ok library).mp rightHashed
  have sameParams : extractSigv4Params left = extractSigv4Params right := by
    rw [extractSigv4Params, extractSigv4Params, authorization]
  obtain rfl : params = params' :=
    Except.ok.inj (leftParams.symm.trans (sameParams.trans rightParams))
  have leftSigned : Text.utf8 (stringToSign library params leftStamp leftCanonical) ∈
      signedInputs library left := by
    simp [signedInputs, stringToSignOf, leftParams, leftBuilt, leftDated, Except.toOption,
      -String.reduceToList]
  have rightSigned : Text.utf8 (stringToSign library params rightStamp rightCanonical) ∈
      signedInputs library right := by
    simp [signedInputs, stringToSignOf, rightParams, rightBuilt, rightDated, Except.toOption,
      -String.reduceToList]
  have strings := Text.utf8_injective <| mac _ _ (List.mem_append_left _ leftSigned)
    _ (List.mem_append_right _ rightSigned) (ByteText.hexEncode_injective _ equal)
  obtain ⟨rfl, digests⟩ := stringToSign_inj library strings
  have leftDigested : leftCanonical.utf8 ∈ hashedInputs library left := by
    simp [hashedInputs, canonicalRequestOf, leftParams, leftBuilt, Except.toOption]
  have rightDigested : rightCanonical.utf8 ∈ hashedInputs library right := by
    simp [hashedInputs, canonicalRequestOf, rightParams, rightBuilt, Except.toOption]
  obtain rfl := Text.utf8_injective <| hash _ (List.mem_append_left _ leftDigested)
    _ (List.mem_append_right _ rightDigested) digests
  exact ⟨params, leftCanonical, leftStamp, leftParams, rightParams, leftBuilt, rightBuilt,
    leftDated, rightDated⟩

/-! ### Two authenticated requests -/

section Bound

variable {S : Type} {serve : Serve iamStore S} {state leftFinal rightFinal : S}

/-- **What two requests with one `Authorization` header agree on**, once both
are authenticated against the same key store.  The host and the target header
are bound exactly like any other header: when they are signed, and up to
whitespace. -/
theorem authenticateRequest_binds {left right : IncomingRequest}
    (leftFormed : left.WellFormed) (rightFormed : right.WellFormed)
    (leftPath : left.path ≠ []) (rightPath : right.path ≠ [])
    (authorization : left.headers "authorization" = right.headers "authorization")
    (hash : CollisionFree library.sha256
      (hashedInputs library left ++ hashedInputs library right))
    (mac : ∀ key, CollisionFree (library.hmacSha256 key)
      (signedInputs library left ++ signedInputs library right))
    {leftSeen rightSeen : AuthenticatedRequest}
    (leftAccepted : Program.Succeeds serve (authenticateRequest library left) state
      leftSeen leftFinal)
    (rightAccepted : Program.Succeeds serve (authenticateRequest library right) state
      rightSeen rightFinal) :
    left.method = right.method ∧ left.path = right.path ∧
      (rawQueryPairs left : Multiset (Text × Text)) = rawQueryPairs right ∧
      left.body = right.body ∧
      left.headers "x-amz-date" = right.headers "x-amz-date" ∧
      leftSeen.date = rightSeen.date ∧ leftSeen.service = rightSeen.service ∧
      leftSeen.region = rightSeen.region ∧ leftSeen.authContext = rightSeen.authContext ∧
      ∃ params, extractSigv4Params left = .ok params ∧ extractSigv4Params right = .ok params ∧
        ∀ name ∈ params.signedHeaders.map toAsciiLowercase,
          (left.headers name).map normalizeHeaderValue =
            (right.headers name).map normalizeHeaderValue := by
  obtain ⟨params, accessKey, leftStamp, leftDate, leftKnown, leftDated, leftParsed, rfl⟩ :=
    (succeeds_authenticateRequest library).mp leftAccepted
  obtain ⟨params', accessKey', rightStamp, rightDate, rightKnown, rightDated, rightParsed, rfl⟩ :=
    (succeeds_authenticateRequest library).mp rightAccepted
  obtain ⟨leftParams, leftFound, leftHashed⟩ :=
    (succeeds_sigV4AuthenticateRequest library).mp leftKnown
  obtain ⟨rightParams, rightFound, rightHashed⟩ :=
    (succeeds_sigV4AuthenticateRequest library).mp rightKnown
  -- The same header names the same key, and the store answers the same.
  have sameParams : extractSigv4Params left = extractSigv4Params right := by
    rw [extractSigv4Params, extractSigv4Params, authorization]
  obtain rfl : params = params' :=
    Except.ok.inj (leftParams.symm.trans (sameParams.trans rightParams))
  obtain ⟨sameKey, -⟩ := Prod.mk.inj (leftFound.symm.trans rightFound)
  obtain rfl : accessKey = accessKey' := Option.some.inj (Except.ok.inj sameKey)
  obtain ⟨found, canonical, timestamp, leftAgain, -, leftBuilt, rightBuilt, leftStamped,
    rightStamped⟩ := hashRequest_inj library authorization hash mac leftHashed rightHashed
  obtain rfl : params = found := Except.ok.inj (leftParams.symm.trans leftAgain)
  have bodies : CollisionFree library.sha256 [left.body, right.body] :=
    hash.mono (by simp [hashedInputs])
  have agree := coveredAgree_of_createCanonicalRequest_eq leftFormed rightFormed
    leftPath rightPath bodies leftBuilt rightBuilt
  have stamps : left.headers "x-amz-date" = right.headers "x-amz-date" :=
    leftStamped.trans rightStamped.symm
  obtain rfl : leftStamp = rightStamp :=
    Option.some.inj (leftDated.symm.trans (stamps.trans rightDated))
  have dates : leftDate = rightDate :=
    Option.some.inj (leftParsed.symm.trans rightParsed)
  exact ⟨agree.method, agree.path, agree.query, agree.body, stamps, dates, rfl, rfl, rfl,
    params, leftParams, rightParams, agree.values⟩

end Bound

/-! ### An unsigned header is not bound -/

section Unbound

variable {request : IncomingRequest} {name : Text} {value : Option Text}

theorem signedHeaderLines_withHeader {names : List Text} (unlisted : name ∉ names) :
    signedHeaderLines (request.withHeader name value) names =
      signedHeaderLines request names := by
  induction names with
  | nil => rfl
  | cons first names inductionHypothesis =>
      obtain ⟨different, rest⟩ := not_or.mp (List.mem_cons.not.mp unlisted)
      rw [signedHeaderLines, signedHeaderLines,
        request.headers_withHeader_of_ne (Ne.symm different), inductionHypothesis rest]

theorem extractSigv4Params_withHeader (other : name ≠ "authorization") :
    extractSigv4Params (request.withHeader name value) = extractSigv4Params request := by
  rw [extractSigv4Params, extractSigv4Params,
    request.headers_withHeader_of_ne (Ne.symm other)]

theorem createCanonicalRequest_withHeader {signedHeaders : List Text}
    (unsigned : name ∉ signedHeaders.map toAsciiLowercase) :
    createCanonicalRequest library.sha256 (request.withHeader name value) signedHeaders =
      createCanonicalRequest library.sha256 request signedHeaders := by
  have unlisted : name ∉ canonicalizeSignedHeaders signedHeaders :=
    mem_canonicalizeSignedHeaders.not.mpr unsigned
  simp only [createCanonicalRequest, extractSignedHeaders,
    signedHeaderLines_withHeader unlisted]
  rfl

/-- The signature does not depend on a header that is not signed. -/
theorem hashRequest_withHeader (accessKey : AccessKey) (otherAuth : name ≠ "authorization")
    (otherDate : name ≠ "x-amz-date")
    (unsigned : ∀ params, extractSigv4Params request = .ok params →
      name ∉ params.signedHeaders.map toAsciiLowercase) :
    hashRequest library (request.withHeader name value) accessKey =
      hashRequest library request accessKey := by
  have date := request.headers_withHeader_of_ne (Ne.symm otherDate) value
  unfold hashRequest
  rw [extractSigv4Params_withHeader otherAuth, date]
  cases extracted : extractSigv4Params request with
  | error failure => rfl
  | ok params =>
      rw [ok_bind, ok_bind, createCanonicalRequest_withHeader library (unsigned params extracted)]

theorem hashedInputs_withHeader (otherAuth : name ≠ "authorization")
    (unsigned : ∀ params, extractSigv4Params request = .ok params →
      name ∉ params.signedHeaders.map toAsciiLowercase) :
    hashedInputs library (request.withHeader name value) = hashedInputs library request := by
  unfold hashedInputs canonicalRequestOf
  rw [extractSigv4Params_withHeader otherAuth]
  cases extracted : extractSigv4Params request with
  | error failure => rfl
  | ok params =>
      rw [ok_bind, ok_bind, createCanonicalRequest_withHeader library (unsigned params extracted)]
      rfl

theorem signedInputs_withHeader (otherAuth : name ≠ "authorization")
    (otherDate : name ≠ "x-amz-date")
    (unsigned : ∀ params, extractSigv4Params request = .ok params →
      name ∉ params.signedHeaders.map toAsciiLowercase) :
    signedInputs library (request.withHeader name value) = signedInputs library request := by
  have date := request.headers_withHeader_of_ne (Ne.symm otherDate) value
  unfold signedInputs stringToSignOf
  rw [extractSigv4Params_withHeader otherAuth, date]
  cases extracted : extractSigv4Params request with
  | error failure => rfl
  | ok params =>
      rw [ok_bind, ok_bind, createCanonicalRequest_withHeader library (unsigned params extracted)]

/-- One request signs at most one string. -/
theorem collisionFree_signedInputs (digest : Bytes → Bytes) :
    CollisionFree digest (signedInputs library request) := by
  unfold CollisionFree signedInputs
  cases stringToSignOf library request with
  | error failure => simp [Except.toOption]
  | ok signed => simp [Except.toOption]

/-- **A header that is not signed can be replaced at will.** -/
theorem succeeds_authenticateRequest_withHeader {S : Type} {serve : Serve iamStore S}
    {state final : S} {seen : AuthenticatedRequest}
    (otherAuth : name ≠ "authorization") (otherDate : name ≠ "x-amz-date")
    (unsigned : ∀ params, extractSigv4Params request = .ok params →
      name ∉ params.signedHeaders.map toAsciiLowercase)
    (accepted : Program.Succeeds serve (authenticateRequest library request) state seen final) :
    Program.Succeeds serve (authenticateRequest library (request.withHeader name value)) state
      { seen with request := request.withHeader name value } final := by
  obtain ⟨params, accessKey, timestamp, date, known, dated, parsed, rfl⟩ :=
    (succeeds_authenticateRequest library).mp accepted
  obtain ⟨extracted, found, hashed⟩ := (succeeds_sigV4AuthenticateRequest library).mp known
  refine (succeeds_authenticateRequest library).mpr
    ⟨params, accessKey, timestamp, date, ?_, ?_, parsed, rfl⟩
  · refine (succeeds_sigV4AuthenticateRequest library).mpr ⟨?_, found, ?_⟩
    · rw [extractSigv4Params_withHeader otherAuth, extracted]
    · rw [hashRequest_withHeader library accessKey otherAuth otherDate unsigned, hashed]
  · rw [request.headers_withHeader_of_ne (Ne.symm otherDate), dated]

end Unbound

/-- The request for the given target.  The target header is not signed. -/
def targetParts (target : Text) : RequestParts where
  method := "POST"
  path := "/"
  query := none
  headers := [
    ("host", Text.utf8 "localhost"),
    ("x-amz-date", Text.utf8 "20260330T120000Z"),
    ("x-amz-target", target.utf8),
    ("authorization", Text.utf8 ("AWS4-HMAC-SHA256 ".toList ++
      "Credential=test/20260330/us-east-1/sqs/aws4_request, ".toList ++
      "SignedHeaders=host;x-amz-date, ".toList ++ "Signature=".toList ++
      "51eb73dfcf47cf863082a03b62859e90".toList ++
      "d659d26252673cd9cb0f6636d17cf657".toList))]

def targetRequest (target : Text) : IncomingRequest :=
  .fromParts (targetParts target) (Text.utf8 "{}")

/-- A function recorded at a few inputs. -/
def recorded {α : Type} [DecidableEq α] (table : List (α × Bytes)) (input : α) : Bytes :=
  (table.lookup input).getD []

/-- The digests that occur while the request is authenticated with the secret
`test`, as SHA-256 and HMAC-SHA256 give them. -/
def recordedLibrary : AuthLibrary where
  sha256 := recorded [
    (Text.utf8 "{}",
      [68, 19, 111, 163, 85, 179, 103, 138, 17, 70, 173, 22, 247, 232, 100, 158,
        148, 251, 79, 194, 31, 231, 126, 131, 16, 192, 96, 246, 28, 170, 255, 138]),
    (Text.utf8 ("POST\n/\n\nhost:localhost\n".toList ++
        "x-amz-date:20260330T120000Z\n\n".toList ++ "host;x-amz-date\n".toList ++
        "44136fa355b3678a1146ad16f7e8649e".toList ++
        "94fb4fc21fe77e8310c060f61caaff8a".toList),
      [199, 185, 204, 105, 210, 235, 232, 16, 77, 241, 184, 254, 50, 137, 243, 249,
        180, 94, 133, 39, 96, 104, 154, 31, 78, 48, 73, 195, 59, 231, 118, 140])]
  hmacSha256 := fun key message => recorded [
    ((Text.utf8 "AWS4test", Text.utf8 "20260330"),
      [237, 222, 131, 63, 154, 100, 109, 54, 120, 42, 159, 5, 160, 25, 99, 40,
        201, 176, 242, 255, 33, 91, 28, 155, 196, 55, 211, 77, 76, 245, 176, 168]),
    (([237, 222, 131, 63, 154, 100, 109, 54, 120, 42, 159, 5, 160, 25, 99, 40,
        201, 176, 242, 255, 33, 91, 28, 155, 196, 55, 211, 77, 76, 245, 176, 168],
        Text.utf8 "us-east-1"),
      [0, 121, 64, 176, 152, 173, 239, 23, 215, 117, 228, 3, 252, 75, 108, 74,
        38, 51, 30, 136, 131, 192, 100, 80, 11, 188, 2, 36, 29, 240, 69, 150]),
    (([0, 121, 64, 176, 152, 173, 239, 23, 215, 117, 228, 3, 252, 75, 108, 74,
        38, 51, 30, 136, 131, 192, 100, 80, 11, 188, 2, 36, 29, 240, 69, 150],
        Text.utf8 "sqs"),
      [235, 43, 144, 226, 88, 207, 71, 29, 115, 205, 197, 184, 141, 82, 177, 119,
        217, 180, 154, 124, 118, 188, 27, 242, 47, 88, 4, 193, 86, 248, 4, 145]),
    (([235, 43, 144, 226, 88, 207, 71, 29, 115, 205, 197, 184, 141, 82, 177, 119,
        217, 180, 154, 124, 118, 188, 27, 242, 47, 88, 4, 193, 86, 248, 4, 145],
        Text.utf8 "aws4_request"),
      [183, 5, 113, 86, 230, 209, 76, 236, 72, 205, 39, 108, 106, 7, 74, 24,
        45, 152, 144, 177, 10, 218, 224, 244, 160, 143, 246, 60, 191, 63, 246, 118]),
    (([183, 5, 113, 86, 230, 209, 76, 236, 72, 205, 39, 108, 106, 7, 74, 24,
        45, 152, 144, 177, 10, 218, 224, 244, 160, 143, 246, 60, 191, 63, 246, 118],
        Text.utf8 ("AWS4-HMAC-SHA256\n20260330T120000Z\n".toList ++
          "20260330/us-east-1/sqs/aws4_request\n".toList ++
          "c7b9cc69d2ebe8104df1b8fe3289f3f9".toList ++
          "b45e852760689a1f4e3049c33be7768c".toList)),
      [81, 235, 115, 223, 207, 71, 207, 134, 48, 130, 160, 59, 98, 133, 158, 144,
        214, 89, 210, 98, 82, 103, 60, 217, 203, 15, 102, 54, 209, 124, 246, 87])]
    (key, message)
  parseTimestamp := fun stamp =>
    if stamp = "20260330T120000Z" then some 1774872000000000000 else none

/-- A key store that knows the secret `test` of the key `test`. -/
def testKeyStore : Serve iamStore Unit
  | .getSecretKey accessKey, state =>
      (.ok (if accessKey = "test" then some ⟨"test", 1, "test", 0⟩ else none), state)
  | request, state => (request.failed (.storageFailure "not supported"), state)

/-- The signature parameters of the request. -/
def targetParams : SigV4AuthParameters where
  algorithm := "AWS4-HMAC-SHA256"
  accessKey := "test"
  date := "20260330"
  region := "us-east-1"
  service := "sqs"
  signedHeaders := ["host", "x-amz-date"]
  signature := "51eb73dfcf47cf863082a03b62859e90".toList ++
    "d659d26252673cd9cb0f6636d17cf657".toList

theorem extractSigv4Params_receive :
    extractSigv4Params (targetRequest "AmazonSQS.ReceiveMessage") = .ok targetParams := by
  decide +kernel

theorem succeeds_receive :
    Program.Succeeds testKeyStore
      (authenticateRequest recordedLibrary (targetRequest "AmazonSQS.ReceiveMessage")) ()
      ⟨targetRequest "AmazonSQS.ReceiveMessage", "sqs", "us-east-1", ⟨"test", 1⟩,
        1774872000000000000⟩ () := by
  refine (succeeds_authenticateRequest recordedLibrary).mpr
    ⟨targetParams, ⟨"test", 1, "test", 0⟩, "20260330T120000Z", 1774872000000000000, ?_,
      by decide +kernel, by decide +kernel, rfl⟩
  refine (succeeds_sigV4AuthenticateRequest recordedLibrary).mpr
    ⟨extractSigv4Params_receive, rfl, ?_⟩
  decide +kernel

/-- The same signed request aimed at another operation. -/
def retargetedRequest : IncomingRequest :=
  (targetRequest "AmazonSQS.ReceiveMessage").withHeader "x-amz-target"
    (some "AmazonSQS.PurgeQueue")

theorem target_unsigned (params : SigV4AuthParameters)
    (extracted : extractSigv4Params (targetRequest "AmazonSQS.ReceiveMessage") = .ok params) :
    ("x-amz-target" : Text) ∉ params.signedHeaders.map toAsciiLowercase := by
  obtain rfl := Except.ok.inj (extractSigv4Params_receive.symm.trans extracted)
  decide

theorem succeeds_retargeted :
    Program.Succeeds testKeyStore (authenticateRequest recordedLibrary retargetedRequest) ()
      ⟨retargetedRequest, "sqs", "us-east-1", ⟨"test", 1⟩, 1774872000000000000⟩ () :=
  succeeds_authenticateRequest_withHeader recordedLibrary (by decide) (by decide)
    target_unsigned succeeds_receive

theorem collisionFree_hashedInputs_retargeted :
    CollisionFree recordedLibrary.sha256
      (hashedInputs recordedLibrary (targetRequest "AmazonSQS.ReceiveMessage") ++
        hashedInputs recordedLibrary retargetedRequest) := by
  have once : CollisionFree recordedLibrary.sha256
      (hashedInputs recordedLibrary (targetRequest "AmazonSQS.ReceiveMessage")) := by
    decide +kernel
  rw [retargetedRequest, hashedInputs_withHeader recordedLibrary (by decide) target_unsigned]
  exact once.append_self

theorem collisionFree_signedInputs_retargeted (key : Bytes) :
    CollisionFree (recordedLibrary.hmacSha256 key)
      (signedInputs recordedLibrary (targetRequest "AmazonSQS.ReceiveMessage") ++
        signedInputs recordedLibrary retargetedRequest) := by
  rw [retargetedRequest, signedInputs_withHeader recordedLibrary (by decide) (by decide)
    target_unsigned]
  exact (collisionFree_signedInputs recordedLibrary _).append_self

/-- **The target header need not be bound.**  One `Authorization` header
authenticates a request to receive messages and a request to purge the queue. -/
theorem authenticateRequest_target_unbound :
    (targetRequest "AmazonSQS.ReceiveMessage").headers "authorization" =
        retargetedRequest.headers "authorization" ∧
      CollisionFree recordedLibrary.sha256
        (hashedInputs recordedLibrary (targetRequest "AmazonSQS.ReceiveMessage") ++
          hashedInputs recordedLibrary retargetedRequest) ∧
      (∀ key, CollisionFree (recordedLibrary.hmacSha256 key)
        (signedInputs recordedLibrary (targetRequest "AmazonSQS.ReceiveMessage") ++
          signedInputs recordedLibrary retargetedRequest)) ∧
      (∃ seen, Program.Succeeds testKeyStore
        (authenticateRequest recordedLibrary (targetRequest "AmazonSQS.ReceiveMessage"))
        () seen ()) ∧
      (∃ seen, Program.Succeeds testKeyStore
        (authenticateRequest recordedLibrary retargetedRequest) () seen ()) ∧
      (targetRequest "AmazonSQS.ReceiveMessage").headers "x-amz-target" ≠
        retargetedRequest.headers "x-amz-target" := by
  refine ⟨?_, collisionFree_hashedInputs_retargeted, collisionFree_signedInputs_retargeted,
    ⟨_, succeeds_receive⟩, ⟨_, succeeds_retargeted⟩, by decide +kernel⟩
  exact (IncomingRequest.headers_withHeader_of_ne (by decide) _ _).symm

theorem targetRequest_wellFormed : (targetRequest "AmazonSQS.ReceiveMessage").WellFormed :=
  fromParts_wellFormed
    { method_token := (by decide : IsToken "POST")
      name_token := by decide +kernel
      name_lower := by decide +kernel } _

theorem authenticateRequest_binds_retargeted :
    ∃ params, extractSigv4Params (targetRequest "AmazonSQS.ReceiveMessage") = .ok params ∧
      extractSigv4Params retargetedRequest = .ok params ∧
      ∀ name ∈ params.signedHeaders.map toAsciiLowercase,
        ((targetRequest "AmazonSQS.ReceiveMessage").headers name).map normalizeHeaderValue =
          (retargetedRequest.headers name).map normalizeHeaderValue :=
  (authenticateRequest_binds recordedLibrary targetRequest_wellFormed
    (targetRequest_wellFormed.withHeader (by decide) _) (by decide) (by decide)
    (IncomingRequest.headers_withHeader_of_ne (by decide) _ _).symm collisionFree_hashedInputs_retargeted
    collisionFree_signedInputs_retargeted succeeds_receive
    succeeds_retargeted).2.2.2.2.2.2.2.2.2

end Hiraeth
