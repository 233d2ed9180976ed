import Mathlib.Algebra.Order.Ring.Unbundled.Rat
import RlyGateway.Library.JsonText
import RlyGateway.Providers.Dispatch

/-!
# Failed provider responses

What an adapter throws when the provider answers its request with a failed response: the metadata
`parseProviderError` takes from the response, and the commitment each adapter attaches to it.
-/

namespace RlyGateway

variable (runtime : NodeRuntime)

/-! ## Bounded texts -/

/-- The characters `String.prototype.trim` removes. -/
def isTrimmed (c : Char) : Bool :=
  c.toNat ∈ [0x09, 0x0A, 0x0B, 0x0C, 0x0D, 0x20, 0xA0, 0x1680, 0x2028, 0x2029, 0x202F, 0x205F, 0x3000,
    0xFEFF] ∨ (0x2000 ≤ c.toNat ∧ c.toNat ≤ 0x200A)

/-- A text without white space at its ends. -/
def trimChars (text : List Char) : List Char :=
  ((text.dropWhile isTrimmed).reverse.dropWhile isTrimmed).reverse

/-- The first code units of a text. Half of a cut surrogate pair is kept as the replacement
character, as no scalar value stands for it. -/
def takeUnits : ℕ → List Char → List Char
  | 0, _ => []
  | _, [] => []
  | units + 1, c :: text =>
      if c.toNat < 0x10000 then c :: takeUnits units text
      else match units with
        | 0 => [Char.ofNat 0xFFFD]
        | units + 1 => c :: takeUnits units text

/-- A nonempty text of at most `max` code units. -/
def boundedString (value : Option Json) (max : ℕ) : Option String := do
  let text ← value.bind Json.str?
  let trimmed := trimChars text.toList
  if trimmed = [] then none else some (String.ofList (takeUnits max trimmed))

def MAX_MESSAGE_LENGTH : ℕ := 300

def MAX_CODE_LENGTH : ℕ := 64

/-! ## Responses -/

/-- Why the body of a response could not be read. -/
structure BodyFailure where
  name : String
  message : String
  code : Option String
  causeCode : Option String
deriving DecidableEq, Repr

/-- A failed response: its status, its headers, its decoded body or why it cannot be read, and
whether the adapter's own timeout has fired when the failure is handled. -/
structure FailedResponse where
  status : ℤ
  headers : String → Option String
  body : Except BodyFailure String
  timedOut : Bool

/-- What reading a header takes from the platform: `Number(text)` where it is finite, and
`Date.now()`. -/
structure HeaderPlatform where
  number : String → Option ℚ
  now : ℤ

variable (platform : HeaderPlatform)

/-- A header with a number that is not negative. -/
def headerNumber (response : FailedResponse) (name : String) : Option ℚ :=
  ((response.headers name).bind platform.number).filter (0 ≤ ·)

/-- The seconds of the `retry-after` header, a number or a date. -/
def retryAfterSecondsOf (response : FailedResponse) : Option ℚ := do
  let raw ← response.headers "retry-after"
  match (platform.number raw).filter (0 ≤ ·) with
  | some seconds => some (Rat.ceil seconds)
  | none =>
      let parsed ← runtime.dateParse raw
      some (max 0 (Rat.ceil ((parsed - platform.now : ℤ) / 1000)))

/-- The rate limit of the headers. -/
def rateLimitOf (response : FailedResponse) : Option ProviderRateLimit :=
  let limit := headerNumber platform response "x-ratelimit-limit"
  let remaining := headerNumber platform response "x-ratelimit-remaining"
  let resetSeconds := retryAfterSecondsOf runtime platform response
  if limit = none ∧ remaining = none ∧ resetSeconds = none then none
  else some ⟨limit, remaining, resetSeconds⟩

/-- The beginning of the body. -/
def readBoundedBodyText (response : FailedResponse) : Except BodyFailure String :=
  response.body.map fun text => String.ofList (takeUnits (32 * 1024) text.toList)

/-- The value, if it is a record. -/
def recordOf (value : Option Json) : Option Json :=
  value.filter fun value => value.obj?.isSome

/-- The field `error` of a body, if it is a record. -/
def errorField (body : Option Json) : Option Json :=
  recordOf ((recordOf body).bind (·.field? "error"))

/-- The record that describes the failure. -/
def errorCandidate (body : Option Json) : Option Json :=
  (errorField body).or (recordOf body)

/-- A bounded field of the record that describes the failure. -/
def candidateField (body : Option Json) (name : String) (max : ℕ) : Option String :=
  boundedString ((errorCandidate body).bind (·.field? name)) max

/-- The code a body gives: that of its record, its `error` text, or the type of its record. -/
def bodyCode (body : Option Json) : Option String :=
  let errorText := if errorField body = none then (recordOf body).bind (·.field? "error") else none
  ((candidateField body "code" MAX_CODE_LENGTH).or (boundedString errorText MAX_CODE_LENGTH)).or
    (candidateField body "type" MAX_CODE_LENGTH)

/-- The message a body gives. -/
def bodyMessage (body : Option Json) : Option String :=
  (candidateField body "message" MAX_MESSAGE_LENGTH).or
    (boundedString ((recordOf body).bind (·.field? "message")) MAX_MESSAGE_LENGTH)

/-- The code of a status. -/
def codeForStatus (statusCode : ℤ) : String :=
  if statusCode = 401 ∨ statusCode = 403 then "authentication_error"
  else if statusCode = 429 then "rate_limit_error"
  else if 400 ≤ statusCode ∧ statusCode < 500 then "invalid_request_error"
  else if 500 ≤ statusCode then "api_error"
  else "api_error"

/-- The metadata of a failed response. -/
def parseProviderError (response : FailedResponse) : Except BodyFailure ProviderErrorInfo := do
  let raw ← readBoundedBodyText response
  let body := Json.parse raw
  return {
    statusCode := response.status
    code := (bodyCode body).getD (codeForStatus response.status)
    type := candidateField body "type" MAX_CODE_LENGTH
    message := (bodyMessage body).getD
      ("Provider request failed (HTTP " ++ toString response.status ++ ")")
    param := candidateField body "param" MAX_CODE_LENGTH
    retryAfterSeconds := retryAfterSecondsOf runtime platform response
    rateLimit := rateLimitOf runtime platform response }

/-! ## Commitment -/

/-- The commitment of a failed response. -/
def commitmentForHttpFailure (status : ℤ) : CommitmentState :=
  if 400 ≤ status ∧ status < 500 ∧ status ≠ 408 ∧ status ≠ 409 then .notSent else .unknown

/-- The error of a failed response whose metadata could be read. -/
def httpFailure (info : ProviderErrorInfo) (status : ℤ) : Thrown :=
  .providerAdapterError ⟨info.code, info.message, some info, commitmentForHttpFailure status⟩

/-- The causes that prove that a request never reached the provider. -/
def CONNECTION_LEVEL_CODES : List String :=
  ["ECONNREFUSED", "ENOTFOUND", "EHOSTUNREACH", "ENETUNREACH", "EAI_AGAIN", "ECONNRESET"]

/-- What the Chat Completions path throws; its `catch` block also sees a body that cannot be
read. -/
def chatRejection (response : FailedResponse) : Thrown :=
  if response.timedOut then
    .providerAdapterError ⟨"api_error", "Provider request timed out", none, .unknown⟩
  else match parseProviderError runtime platform response with
    | .ok info => httpFailure info response.status
    | .error failure =>
        .providerAdapterError ⟨"api_error", "Provider request failed", none,
          if ∃ code ∈ CONNECTION_LEVEL_CODES, failure.causeCode = some code then .notSent
          else .unknown⟩

/-- What the Responses rail throws; a body that cannot be read fails on its own. -/
def responsesRejection (response : FailedResponse) : Thrown :=
  match parseProviderError runtime platform response with
  | .ok info => httpFailure info response.status
  | .error failure => .error failure.name failure.message failure.code

/-- The code of the Claude adapter for a status. -/
def invokeErrorCode (status : ℤ) : String :=
  if status = 401 ∨ status = 403 then "authentication_error"
  else if status = 429 then "rate_limit_error"
  else "api_error"

/-- What the Claude adapter throws: a code alone, so that the commitment is the default. -/
def claudeRejection (response : FailedResponse) : Thrown :=
  .providerAdapterError ⟨invokeErrorCode response.status, "Provider request failed", none, .unknown⟩

/-- What `invoke` throws when a request it sent gets a failed response. -/
def UpstreamRequest.rejection (response : FailedResponse) : UpstreamRequest → Thrown
  | .chatCompletions .. => chatRejection runtime platform response
  | .responses .. => responsesRejection runtime platform response
  | .messages .. => claudeRejection response

/-- A definite rejection is not sent. -/
theorem commitmentForHttpFailure_definite {status : ℤ}
    (h : status = 401 ∨ status = 403 ∨ status = 429) : commitmentForHttpFailure status = .notSent := by
  rcases h with rfl | rfl | rfl <;> rfl

/-- The code and the message of the metadata, from the body that was read. -/
theorem parseProviderError_eq_ok {response : FailedResponse} {info : ProviderErrorInfo}
    (h : parseProviderError runtime platform response = .ok info) :
    ∃ raw, readBoundedBodyText response = .ok raw ∧
      info.code = (bodyCode (Json.parse raw)).getD (codeForStatus response.status) ∧
      info.message = (bodyMessage (Json.parse raw)).getD
        ("Provider request failed (HTTP " ++ toString response.status ++ ")") := by
  unfold parseProviderError at h
  cases hraw : readBoundedBodyText response with
  | error failure =>
      rw [hraw] at h
      cases h
  | ok raw =>
      rw [hraw] at h
      cases h
      exact ⟨raw, rfl, rfl, rfl⟩

end RlyGateway
