import RlyGateway.Library.JsonRoundTrip
import RlyGateway.Providers.Delivery
import RlyGateway.Routing.Pools.Failover

/-!
# Rejected requests

What becomes of a request that a provider rejects. The outcome follows the status when the body
names no code of its own, or the one that belongs to the status, and does not pass for a
disconnected client. A definite rejection fails over on every rail but that of the Claude adapter,
which attaches no commitment to its errors.
-/

namespace RlyGateway

variable (runtime : NodeRuntime) (platform : HeaderPlatform)

/-! ## Statuses -/

/-- The outcome that belongs to a status. -/
def statusOutcome (status : ℤ) : Option RouteOutcomeClass :=
  if status = 401 ∨ status = 403 then some .auth
  else if status = 429 then some .quota
  else if 500 ≤ status ∧ status < 600 then some .transient
  else none

/-- The body of a response, as far as it is read. -/
def responseBody (response : FailedResponse) : Option Json :=
  match readBoundedBodyText response with
  | .ok raw => Json.parse raw
  | .error _ => none

/-- The body names no code, or the one that belongs to the status. -/
def CodeFollowsStatus (response : FailedResponse) : Prop :=
  ∀ code, bodyCode (responseBody response) = some code → code = codeForStatus response.status

/-- The message of the body passes for a disconnected client. -/
def PassesForAbort (response : FailedResponse) : Prop :=
  bodyMessage (responseBody response) = some "client disconnected"

/-- The one code of each class that is not fatal. -/
def classCode : RouteOutcomeClass → Option String
  | .auth => some "authentication_error"
  | .quota => some "rate_limit_error"
  | .transient => some "api_error"
  | .success | .fatal => none

theorem classifyProviderFailure_eq_iff {outcome : RouteOutcomeClass} {literal code : String}
    (h : classCode outcome = some literal) :
    classifyProviderFailure (some code) = outcome ↔ code = literal := by
  unfold classifyProviderFailure
  simp only [Option.some.injEq]
  constructor
  · intro hclass
    split_ifs at hclass with hauth hquota htransient
    all_goals
      subst hclass
      cases h
    · exact hauth
    · exact hquota
    · exact htransient
  · rintro rfl
    cases outcome
    all_goals cases h
    all_goals decide

/-- The code of a status is the one of its outcome. -/
theorem classCode_of_statusOutcome {status : ℤ} {outcome : RouteOutcomeClass}
    (h : statusOutcome status = some outcome) : classCode outcome = some (codeForStatus status) := by
  unfold statusOutcome at h
  split at h
  case isTrue hauth =>
    cases h
    rw [codeForStatus, if_pos hauth]
    rfl
  case isFalse hauth =>
    split at h
    case isTrue hquota =>
      cases h
      rw [codeForStatus, if_neg hauth, if_pos hquota]
      rfl
    case isFalse hquota =>
      split at h
      case isTrue hserver =>
        cases h
        have hclient : ¬ (400 ≤ status ∧ status < 500) := by omega
        rw [codeForStatus, if_neg hauth, if_neg hquota, if_neg hclient, if_pos hserver.1]
        rfl
      case isFalse => cases h

/-- The statuses of authentication and quota failures are definite rejections. -/
theorem definite_of_statusOutcome {status : ℤ} {outcome : RouteOutcomeClass}
    (h : statusOutcome status = some outcome) (hrotates : outcome = .auth ∨ outcome = .quota) :
    status = 401 ∨ status = 403 ∨ status = 429 := by
  unfold statusOutcome at h
  split_ifs at h with hauth hquota hserver
  · omega
  · omega
  · cases h
    simp at hrotates

/-! ## Failures with metadata -/

/-- The error of a response whose metadata was read passes for an abort exactly when the body's
message does. -/
theorem isAbortError_httpFailure {response : FailedResponse} {info : ProviderErrorInfo}
    (h : parseProviderError runtime platform response = .ok info) :
    isAbortError (httpFailure info response.status) = false ↔ ¬ PassesForAbort response := by
  obtain ⟨raw, hraw, -, hmessage⟩ := parseProviderError_eq_ok runtime platform h
  have hbody : responseBody response = Json.parse raw := by rw [responseBody, hraw]
  have hdefault : ("Provider request failed (HTTP " ++ toString response.status ++ ")") ≠
      "client disconnected" := by
    intro heq
    have hhead := congrArg (fun text => text.toList.head?) heq
    simp [String.toList_append] at hhead
  have habort : isAbortError (httpFailure info response.status) = true ↔
      info.message = "client disconnected" := by
    simp [isAbortError, httpFailure, Thrown.name?, Thrown.message?]
  rw [← Bool.not_eq_true, habort, hmessage, PassesForAbort, hbody]
  cases bodyMessage (Json.parse raw) with
  | none => exact iff_of_true hdefault (by simp)
  | some message => simp

/-- The code of that error, from the body. -/
theorem code_httpFailure {response : FailedResponse} {info : ProviderErrorInfo}
    (h : parseProviderError runtime platform response = .ok info) :
    (httpFailure info response.status).code? =
      some ((bodyCode (responseBody response)).getD (codeForStatus response.status)) := by
  obtain ⟨raw, hraw, hcode, -⟩ := parseProviderError_eq_ok runtime platform h
  rw [responseBody, hraw, ← hcode]
  rfl

theorem isRouteError_httpFailure (info : ProviderErrorInfo) (status : ℤ) :
    (httpFailure info status).isRouteError = false :=
  rfl

/-! ## The outcome of a status -/

/-- The outcome recorded for an error is the one of the status it came with, and the run goes on after
an authentication or quota failure. -/
def FollowsStatus (thrown : Thrown) (status : ℤ) : Prop :=
  ∀ outcome, statusOutcome status = some outcome →
    Records runtime thrown outcome ∧ (outcome = .auth ∨ outcome = .quota → FailsOver runtime thrown)

/-- The outcome of a failed response follows its status exactly when the body names no code or the
one of the status and does not pass for an abort. -/
theorem followsStatus_iff {response : FailedResponse} {info : ProviderErrorInfo}
    (hinfo : parseProviderError runtime platform response = .ok info) :
    FollowsStatus runtime (httpFailure info response.status) response.status ↔
      (statusOutcome response.status ≠ none →
        CodeFollowsStatus response ∧ ¬ PassesForAbort response) := by
  have hroute := isRouteError_httpFailure info response.status
  have hcode : ∀ outcome, statusOutcome response.status = some outcome →
      (classifyProviderFailure (httpFailure info response.status).code? = outcome ↔
        CodeFollowsStatus response) := by
    intro outcome houtcome
    rw [code_httpFailure runtime platform hinfo,
      classifyProviderFailure_eq_iff (classCode_of_statusOutcome houtcome), CodeFollowsStatus]
    cases bodyCode (responseBody response) with
    | none => simp
    | some code => simp
  constructor
  · intro h hsome
    obtain ⟨outcome, houtcome⟩ := Option.ne_none_iff_exists'.1 hsome
    obtain ⟨habort, hclass⟩ := (records_iff runtime hroute).1 (h outcome houtcome).1
    exact ⟨(hcode outcome houtcome).1 hclass,
      (isAbortError_httpFailure runtime platform hinfo).1 habort⟩
  · intro h outcome houtcome
    obtain ⟨hfollows, hnotAbort⟩ := h (by simp [houtcome])
    have habort := (isAbortError_httpFailure runtime platform hinfo).2 hnotAbort
    have hclass := (hcode outcome houtcome).2 hfollows
    refine ⟨(records_iff runtime hroute).2 ⟨habort, hclass⟩, fun hrotates => ?_⟩
    refine (failsOver_iff runtime hroute).2 ⟨habort, ?_, ?_⟩
    · exact commitmentForHttpFailure_definite (definite_of_statusOutcome houtcome hrotates)
    · rw [hclass]
      rcases hrotates with hauth | hquota
      · exact Or.inl hauth
      · exact Or.inr (Or.inl hquota)

/-- A rate-limited response whose body has a code and a message. -/
def rateLimited (code message : String) : FailedResponse where
  status := 429
  headers := fun _ => none
  body := .ok (Json.stringify
    (.obj [("error", .obj [("code", .str code), ("message", .str message)])]))
  timedOut := false

/-- A body that is not cut off is read as it was written. -/
theorem responseBody_rateLimited {code message : String}
    (hwhole : readBoundedBodyText (rateLimited code message) = (rateLimited code message).body) :
    responseBody (rateLimited code message) = some
      (.obj [("error", .obj [("code", .str code), ("message", .str message)])]) := by
  have herror : (Json.obj [("code", .str code), ("message", .str message)]).WellFormed := by
    refine .obj (show ["code", "message"].Nodup by decide) ?_
    intro field hfield
    rw [List.mem_cons, List.mem_singleton] at hfield
    rcases hfield with rfl | rfl
    · exact .str code
    · exact .str message
  have hbody : (Json.obj [("error", .obj [("code", .str code),
      ("message", .str message)])]).WellFormed := by
    refine .obj (List.nodup_singleton "error") ?_
    intro field hfield
    rw [List.mem_singleton.1 hfield]
    exact herror
  unfold responseBody
  rw [hwhole]
  exact Json.parse_stringify hbody

theorem responseBody_slowDown : responseBody (rateLimited "rate_limit_error" "slow down") =
    some (.obj [("error", .obj [("code", .str "rate_limit_error"),
      ("message", .str "slow down")])]) :=
  responseBody_rateLimited (by decide +kernel)

theorem not_passesForAbort_slowDown :
    ¬ PassesForAbort (rateLimited "rate_limit_error" "slow down") := by
  rw [PassesForAbort, responseBody_slowDown]
  decide +kernel

/-- A platform on which no header is a number. -/
def examplePlatform : HeaderPlatform := ⟨fun _ => none, 0⟩

/-- A rate-limited response with the code of its status follows it. -/
theorem followsStatus_rateLimitError : ∃ info,
    parseProviderError isoRuntime examplePlatform (rateLimited "rate_limit_error" "slow down") =
        .ok info ∧
      FollowsStatus isoRuntime (httpFailure info 429) 429 := by
  have hinfo : parseProviderError isoRuntime examplePlatform
      (rateLimited "rate_limit_error" "slow down") = .ok _ := rfl
  refine ⟨_, hinfo, (followsStatus_iff isoRuntime examplePlatform hinfo).2 fun _ => ⟨?_, ?_⟩⟩
  · have hcode : bodyCode (responseBody (rateLimited "rate_limit_error" "slow down")) =
        some "rate_limit_error" := by
      rw [responseBody_slowDown]
      decide +kernel
    intro code hsome
    rw [hcode, Option.some.injEq] at hsome
    rw [← hsome]
    rfl
  · exact not_passesForAbort_slowDown

/-- The code `insufficient_quota` makes a rate-limited response a fatal one. -/
theorem not_followsStatus_insufficientQuota : ∃ info,
    parseProviderError isoRuntime examplePlatform
        (rateLimited "insufficient_quota" "You exceeded your current quota") = .ok info ∧
      ¬ FollowsStatus isoRuntime (httpFailure info 429) 429 := by
  refine ⟨_, rfl, ?_⟩
  intro h
  have hclass := ((records_iff isoRuntime rfl).1 (h .quota rfl).1).2
  revert hclass
  decide +kernel

/-! ## Definite rejections -/

/-- An error says that the request was not sent, and the run goes on after it if its code is one of
an authentication or quota failure. -/
def RejectionFailsOver (thrown : Thrown) : Prop :=
  commitmentOf thrown = .notSent ∧
    (classifyProviderFailure thrown.code? = .auth ∨ classifyProviderFailure thrown.code? = .quota →
      FailsOver runtime thrown)

/-- A chat adapter reports a rejection as such. The Chat Completions path does so unless its timeout
has fired, and for a body it cannot read only where the cause is a lost connection. -/
def OpenAiChatAdapter.ReportsRejection (adapter : OpenAiChatAdapter) (request : CanonicalRequest)
    (response : FailedResponse) : Prop :=
  if adapter.usesResponsesRail request then ∃ text, response.body = .ok text
  else response.timedOut = false ∧ ∀ failure, response.body = .error failure →
    ∃ code ∈ CONNECTION_LEVEL_CODES, failure.causeCode = some code

/-- An adapter reports a rejection as such; the Claude adapter never does. -/
def ProviderAdapter.ReportsRejection (request : CanonicalRequest) (response : FailedResponse) :
    ProviderAdapter → Prop
  | .chat adapter => adapter.ReportsRejection request response
  | .claude _ _ => False
  | .antigravity accessToken baseUrl =>
      (BridgeChatAdapter (accessToken.getD "bridge") baseUrl).ReportsRejection request response

/-- The body gives a code of an authentication or quota failure and passes for a disconnected
client. -/
def LooksAborted (response : FailedResponse) : Prop :=
  let code := (bodyCode (responseBody response)).getD (codeForStatus response.status)
  PassesForAbort response ∧
    (classifyProviderFailure (some code) = .auth ∨ classifyProviderFailure (some code) = .quota)

section Rejection

variable {response : FailedResponse}

/-- A rejection whose metadata was read fails over unless its body looks aborted. -/
theorem rejectionFailsOver_httpFailure
    (hstatus : response.status = 401 ∨ response.status = 403 ∨ response.status = 429)
    {info : ProviderErrorInfo} (hinfo : parseProviderError runtime platform response = .ok info) :
    RejectionFailsOver runtime (httpFailure info response.status) ↔ ¬ LooksAborted response := by
  have hnotSent : commitmentOf (httpFailure info response.status) = .notSent :=
    commitmentForHttpFailure_definite hstatus
  have habort := isAbortError_httpFailure runtime platform hinfo
  rw [RejectionFailsOver, failsOver_iff runtime (isRouteError_httpFailure info response.status),
    LooksAborted, ← code_httpFailure runtime platform hinfo, not_and', ← habort]
  constructor
  · rintro ⟨-, h⟩ hclass
    exact (h hclass).1
  · intro h
    refine ⟨hnotSent, fun hclass => ⟨h hclass, hnotSent, ?_⟩⟩
    rcases hclass with hauth | hquota
    · exact Or.inl hauth
    · exact Or.inr (Or.inl hquota)

theorem not_looksAborted_of_unread {failure : BodyFailure} (h : response.body = .error failure) :
    ¬ LooksAborted response := by
  have hbody : responseBody response = none := by
    rw [responseBody, readBoundedBodyText, h]
    rfl
  rintro ⟨habort, -⟩
  rw [PassesForAbort, hbody] at habort
  revert habort
  decide

/-- The metadata can be read exactly when the body can. -/
theorem parseProviderError_cases (response : FailedResponse) :
    (∃ info, parseProviderError runtime platform response = .ok info ∧
        ∃ text, response.body = .ok text) ∨
      ∃ failure, parseProviderError runtime platform response = .error failure ∧
        response.body = .error failure := by
  cases hparse : parseProviderError runtime platform response with
  | ok info =>
      obtain ⟨raw, hraw, -, -⟩ := parseProviderError_eq_ok runtime platform hparse
      cases hbody : response.body with
      | ok text => exact Or.inl ⟨info, rfl, text, rfl⟩
      | error failure =>
          rw [readBoundedBodyText, hbody] at hraw
          cases hraw
  | error failure =>
      cases hbody : response.body with
      | ok text =>
          rw [parseProviderError, readBoundedBodyText, hbody] at hparse
          cases hparse
      | error failure' =>
          rw [parseProviderError, readBoundedBodyText, hbody] at hparse
          cases hparse
          exact Or.inr ⟨failure, rfl, rfl⟩

/-- The Chat Completions path. -/
theorem rejectionFailsOver_chatRejection
    (hstatus : response.status = 401 ∨ response.status = 403 ∨ response.status = 429) :
    RejectionFailsOver runtime (chatRejection runtime platform response) ↔
      (response.timedOut = false ∧ ∀ failure, response.body = .error failure →
        ∃ code ∈ CONNECTION_LEVEL_CODES, failure.causeCode = some code) ∧
      ¬ LooksAborted response := by
  unfold chatRejection
  cases htimeout : response.timedOut with
  | true => simp [RejectionFailsOver, commitmentOf]
  | false =>
      rw [if_neg Bool.false_ne_true]
      rcases parseProviderError_cases runtime platform response with
        ⟨info, hinfo, text, hbody⟩ | ⟨failure, herror, hbody⟩
      · rw [hinfo]
        dsimp only
        rw [rejectionFailsOver_httpFailure runtime platform hstatus hinfo]
        simp [hbody]
      · -- the code is `api_error`, which promises no rotation
        have hread := not_looksAborted_of_unread hbody
        have hclass : classifyProviderFailure (some "api_error") = .transient := by decide
        rw [herror]
        simp [RejectionFailsOver, commitmentOf, Thrown.code?, hclass, hbody, hread]

/-- The Responses rail. -/
theorem rejectionFailsOver_responsesRejection
    (hstatus : response.status = 401 ∨ response.status = 403 ∨ response.status = 429) :
    RejectionFailsOver runtime (responsesRejection runtime platform response) ↔
      (∃ text, response.body = .ok text) ∧ ¬ LooksAborted response := by
  unfold responsesRejection
  rcases parseProviderError_cases runtime platform response with
    ⟨info, hinfo, text, hbody⟩ | ⟨failure, herror, hbody⟩
  · rw [hinfo]
    dsimp only
    rw [rejectionFailsOver_httpFailure runtime platform hstatus hinfo]
    simp [hbody]
  · rw [herror]
    simp [RejectionFailsOver, commitmentOf, hbody]

/-- A request of a chat adapter. -/
theorem rejectionFailsOver_chat {adapter : OpenAiChatAdapter} {context : InvokeContext}
    {request : CanonicalRequest} {sent : UpstreamRequest}
    (hsent : adapter.invoke context request = .ok sent)
    (hstatus : response.status = 401 ∨ response.status = 403 ∨ response.status = 429) :
    RejectionFailsOver runtime (sent.rejection runtime platform response) ↔
      adapter.ReportsRejection request response ∧ ¬ LooksAborted response := by
  unfold OpenAiChatAdapter.invoke at hsent
  unfold OpenAiChatAdapter.ReportsRejection
  split at hsent
  case isTrue hrail =>
    obtain ⟨token, rfl⟩ := units_checkedPath hsent
    rw [if_pos hrail]
    exact rejectionFailsOver_responsesRejection runtime platform hstatus
  case isFalse hrail =>
    obtain ⟨token, rfl⟩ := units_checkedPath hsent
    rw [if_neg hrail]
    exact rejectionFailsOver_chatRejection runtime platform hstatus

/-- A definite rejection of a request that an adapter sent fails over exactly when the adapter
reports it as such and its body does not look aborted. -/
theorem rejectionFailsOver_iff {adapter : ProviderAdapter} {context : InvokeContext}
    {request : CanonicalRequest} {sent : UpstreamRequest}
    (hsent : adapter.invoke context request = .ok sent)
    (hstatus : response.status = 401 ∨ response.status = 403 ∨ response.status = 429) :
    RejectionFailsOver runtime (sent.rejection runtime platform response) ↔
      adapter.ReportsRejection request response ∧ ¬ LooksAborted response := by
  cases adapter with
  | chat adapter => exact rejectionFailsOver_chat runtime platform hsent hstatus
  | claude accessToken endpoint =>
      unfold ProviderAdapter.invoke invokeClaude at hsent
      dsimp only at hsent
      split at hsent
      · cases hsent
      · cases hsent
        simp [RejectionFailsOver, UpstreamRequest.rejection, claudeRejection, commitmentOf,
          ProviderAdapter.ReportsRejection]
  | antigravity accessToken baseUrl =>
      unfold ProviderAdapter.invoke invokeAntigravity at hsent
      dsimp only at hsent
      split at hsent
      · exact rejectionFailsOver_chat runtime platform hsent hstatus
      · cases hsent

end Rejection

/-- A request of one text. -/
def helloRequest : CanonicalRequest where
  id := "request-1"
  source := ⟨.anthropicMessages, none⟩
  requestedModel := "claude-sonnet-4-5"
  system := []
  input := []
  messages := [⟨.user, [.text "hello"]⟩]
  tools := []
  toolChoice := none
  stream := false
  store := none
  included := none
  inference := ⟨none, none, none, none, none, none⟩
  previousResponseId := none
  agent := none
  fidelity := none

/-- The chat adapter of a provider reports a rate limit. -/
theorem rejectionFailsOver_deepseek : ∃ sent,
    (ProviderAdapter.chat (DeepSeekAdapter none)).invoke exampleContext helloRequest = .ok sent ∧
      RejectionFailsOver isoRuntime (sent.rejection isoRuntime examplePlatform
        (rateLimited "rate_limit_error" "slow down")) := by
  have hsent : (ProviderAdapter.chat (DeepSeekAdapter none)).invoke exampleContext helloRequest =
      .ok _ := rfl
  refine ⟨_, hsent, (rejectionFailsOver_iff isoRuntime examplePlatform hsent
    (Or.inr (Or.inr rfl))).2 ⟨?_, ?_⟩⟩
  · refine ⟨rfl, ?_⟩
    intro failure hfailure
    cases hfailure
  · rintro ⟨habort, -⟩
    exact not_passesForAbort_slowDown habort

/-- The Claude adapter does not report a rate limit as one. -/
theorem not_rejectionFailsOver_claude : ∃ sent,
    (ProviderAdapter.claude "token" "https://api.anthropic.com").invoke exampleContext helloRequest =
        .ok sent ∧
      ¬ RejectionFailsOver isoRuntime (sent.rejection isoRuntime examplePlatform
        (rateLimited "rate_limit_error" "slow down")) := by
  refine ⟨_, rfl, ?_⟩
  rintro ⟨hcommitment, -⟩
  cases hcommitment

end RlyGateway
