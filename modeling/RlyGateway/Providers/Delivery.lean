import RlyGateway.Library.Fallible
import RlyGateway.Protocols.Anthropic.Decoder
import RlyGateway.Providers.Dispatch

/-!
# What reaches the provider

When an adapter sends a request at all, and when the request it sends carries everything the client
said, in order. The chat transcript drops what stands beside a tool result, and no rail carries an
image, a call or a result that a tool result nests.
-/

namespace RlyGateway

/-! ## When a request is sent -/

/-- The credential of the route is in the environment. -/
def CredentialAvailable (context : InvokeContext) : Prop :=
  context.credentialRef.kind = "env" ∧
    (context.environment context.credentialRef.name).filter (· ≠ "") ≠ none

/-- The path preserves all artifacts a request requires. -/
def PreservesRequired (supported : List OpaqueArtifactKind) (request : CanonicalRequest) : Prop :=
  unsupportedRequiredArtifacts request.fidelity supported = []

/-- A chat adapter sends the request. -/
def OpenAiChatAdapter.Sends (adapter : OpenAiChatAdapter) (context : InvokeContext)
    (request : CanonicalRequest) : Prop :=
  if adapter.usesResponsesRail request then
    PreservesRequired [.openaiReasoningEncryptedContent] request ∧ CredentialAvailable context
  else PreservesRequired [] request ∧ (adapter.accessToken = none → CredentialAvailable context)

/-- An adapter sends the request. -/
def ProviderAdapter.Sends (context : InvokeContext) (request : CanonicalRequest) :
    ProviderAdapter → Prop
  | .chat adapter => adapter.Sends context request
  | .claude _ _ => request.stream = false ∧ request.tools.isEmpty = true
  | .antigravity accessToken baseUrl => context.bridgeReady = true ∧
      (BridgeChatAdapter (accessToken.getD "bridge") baseUrl).Sends context request

/-! ## When a request is carried whole -/

/-- A chat adapter carries the request whole. -/
def OpenAiChatAdapter.Keeps (adapter : OpenAiChatAdapter) (request : CanonicalRequest) : Prop :=
  if adapter.usesResponsesRail request then
    (∀ item ∈ request.system, item.isTextual = true) ∧
      ∀ message ∈ request.messages, ∀ item ∈ message.content, item.KeptAsInput
  else ChatKeepsSystem request.system ∧ ∀ message ∈ request.messages, ChatKeeps message

/-- An adapter carries the request whole. -/
def ProviderAdapter.Keeps (request : CanonicalRequest) : ProviderAdapter → Prop
  | .chat adapter => adapter.Keeps request
  | .claude _ _ => (∀ item ∈ request.system, item.isTextual = true) ∧
      ∀ message ∈ request.messages, ∀ item ∈ message.content, item.isTextual = true
  | .antigravity accessToken baseUrl =>
      (BridgeChatAdapter (accessToken.getD "bridge") baseUrl).Keeps request

/-- Whatever upstream request is sent carries the whole conversation, in order. -/
def NothingDropped (context : InvokeContext) (request : CanonicalRequest)
    (adapter : ProviderAdapter) : Prop :=
  ∀ sent, adapter.invoke context request = .ok sent → request.units.Sublist sent.units

section

variable {context : InvokeContext} {request : CanonicalRequest}

theorem checkFidelity_eq_ok {message : String} {supported : List OpaqueArtifactKind} :
    checkFidelity message supported request = .ok () ↔ PreservesRequired supported request := by
  unfold checkFidelity PreservesRequired
  dsimp only
  split
  case isTrue h => simp [h]
  case isFalse h => simp [h]

theorem resolveEnvironmentCredential_isOk :
    (∃ secret, resolveEnvironmentCredential context = .ok secret) ↔
      CredentialAvailable context := by
  unfold resolveEnvironmentCredential CredentialAvailable
  split
  case isTrue hkind =>
    split
    case h_1 value hvalue =>
      rw [hvalue]
      exact ⟨fun _ => ⟨hkind, Option.some_ne_none value⟩, fun _ => ⟨value, rfl⟩⟩
    case h_2 hnone =>
      rw [hnone]
      simp
  case isFalse hkind => simp [hkind]

theorem resolveSecret_isOk {adapter : OpenAiChatAdapter} :
    (∃ secret, adapter.resolveSecret context = .ok secret) ↔
      (adapter.accessToken = none → CredentialAvailable context) := by
  unfold OpenAiChatAdapter.resolveSecret
  cases htoken : adapter.accessToken with
  | some token => simp
  | none =>
      rw [resolveEnvironmentCredential_isOk]
      simp

/-- A path that checks the artifacts and then takes its credential sends one request. -/
theorem checkedPath_isOk {message : String} {supported : List OpaqueArtifactKind}
    {secret : Except Thrown String} {make : String → UpstreamRequest} :
    (∃ sent, (checkFidelity message supported request >>= fun _ => secret >>= fun token =>
      .ok (make token)) = Except.ok sent) ↔
        PreservesRequired supported request ∧ ∃ token, secret = .ok token := by
  constructor
  · rintro ⟨sent, hsent⟩
    obtain ⟨⟨⟩, hfidelity, hrest⟩ := Except.bind_eq_ok.1 hsent
    obtain ⟨token, htoken, -⟩ := Except.bind_eq_ok.1 hrest
    exact ⟨checkFidelity_eq_ok.1 hfidelity, token, htoken⟩
  · rintro ⟨hpreserves, token, htoken⟩
    refine ⟨make token, Except.bind_eq_ok.2 ⟨(), checkFidelity_eq_ok.2 hpreserves, ?_⟩⟩
    exact Except.bind_eq_ok.2 ⟨token, htoken, rfl⟩

/-- The units a request on a checked path carries, whatever its credential. -/
theorem units_checkedPath {message : String} {supported : List OpaqueArtifactKind}
    {secret : Except Thrown String} {make : String → UpstreamRequest} {sent : UpstreamRequest}
    (h : (checkFidelity message supported request >>= fun _ => secret >>= fun token =>
      .ok (make token)) = Except.ok sent) : ∃ token, sent = make token := by
  obtain ⟨⟨⟩, -, hrest⟩ := Except.bind_eq_ok.1 h
  obtain ⟨token, -, hmake⟩ := Except.bind_eq_ok.1 hrest
  cases hmake
  exact ⟨token, rfl⟩

/-- When a chat adapter sends a request. -/
theorem OpenAiChatAdapter.invoke_isOk {adapter : OpenAiChatAdapter} :
    (∃ sent, adapter.invoke context request = .ok sent) ↔ adapter.Sends context request := by
  unfold OpenAiChatAdapter.invoke OpenAiChatAdapter.Sends
  split
  case isTrue => exact checkedPath_isOk.trans (and_congr_right fun _ =>
      resolveEnvironmentCredential_isOk)
  case isFalse => exact checkedPath_isOk.trans (and_congr_right fun _ => resolveSecret_isOk)

/-- What a chat adapter sends is the whole conversation exactly for the requests it keeps. -/
theorem OpenAiChatAdapter.units_sublist_iff {adapter : OpenAiChatAdapter} {sent : UpstreamRequest}
    (h : adapter.invoke context request = .ok sent) :
    request.units.Sublist sent.units ↔ adapter.Keeps request := by
  unfold OpenAiChatAdapter.invoke at h
  unfold OpenAiChatAdapter.Keeps
  split at h
  case isTrue hrail =>
    obtain ⟨token, rfl⟩ := units_checkedPath h
    rw [if_pos hrail]
    exact units_sublist_responsesUnits_iff request
  case isFalse hrail =>
    obtain ⟨token, rfl⟩ := units_checkedPath h
    rw [if_neg hrail]
    exact units_sublist_chatTranscript_iff adapter.replayReasoningContent request

theorem invokeClaude_isOk {accessToken endpoint : String} :
    (∃ sent, invokeClaude accessToken endpoint request = .ok sent) ↔
      request.stream = false ∧ request.tools.isEmpty = true := by
  unfold invokeClaude
  split
  case isTrue h =>
    rcases h with hstream | htools
    · simp [hstream]
    · simp [htools]
  case isFalse h =>
    rw [not_or, Bool.not_eq_true, Bool.not_eq_false] at h
    simp [h.1, h.2]

/-- When an adapter sends a request. -/
theorem ProviderAdapter.invoke_isOk {adapter : ProviderAdapter} :
    (∃ sent, adapter.invoke context request = .ok sent) ↔ adapter.Sends context request := by
  cases adapter with
  | chat adapter => exact OpenAiChatAdapter.invoke_isOk
  | claude accessToken endpoint => exact invokeClaude_isOk
  | antigravity accessToken baseUrl =>
      unfold ProviderAdapter.invoke invokeAntigravity ProviderAdapter.Sends
      dsimp only
      split
      case isTrue hready =>
        rw [OpenAiChatAdapter.invoke_isOk]
        simp [hready]
      case isFalse hready => simp [hready]

/-- What an adapter sends is the whole conversation exactly for the requests it keeps. -/
theorem ProviderAdapter.units_sublist_iff {adapter : ProviderAdapter} {sent : UpstreamRequest}
    (h : adapter.invoke context request = .ok sent) :
    request.units.Sublist sent.units ↔ adapter.Keeps request := by
  cases adapter with
  | chat adapter => exact OpenAiChatAdapter.units_sublist_iff h
  | claude accessToken endpoint =>
      unfold ProviderAdapter.invoke invokeClaude at h
      dsimp only at h
      split at h
      · cases h
      · cases h
        exact units_sublist_anthropicUnits_iff request
  | antigravity accessToken baseUrl =>
      unfold ProviderAdapter.invoke invokeAntigravity at h
      dsimp only at h
      split at h
      · exact OpenAiChatAdapter.units_sublist_iff h
      · cases h

end

/-- Nothing the client said is dropped exactly when the adapter sends nothing or keeps the whole
request. -/
theorem nothingDropped_iff (context : InvokeContext) (request : CanonicalRequest)
    (adapter : ProviderAdapter) :
    NothingDropped context request adapter ↔
      ¬ adapter.Sends context request ∨ adapter.Keeps request := by
  constructor
  · intro h
    by_cases hsends : adapter.Sends context request
    · obtain ⟨sent, hsent⟩ := ProviderAdapter.invoke_isOk.2 hsends
      exact Or.inr ((ProviderAdapter.units_sublist_iff hsent).1 (h sent hsent))
    · exact Or.inl hsends
  · rintro (hnot | hkeeps) sent hsent
    · exact absurd (ProviderAdapter.invoke_isOk.1 ⟨sent, hsent⟩) hnot
    · exact (ProviderAdapter.units_sublist_iff hsent).2 hkeeps

/-- A Messages request whose last turn answers a tool call and says something beside it. -/
def toolResultWithText : Json :=
  .obj [("model", .str "deepseek-chat"), ("max_tokens", .num 1024),
    ("messages", .arr [
      .obj [("role", .str "user"), ("content", .str "list the files")],
      .obj [("role", .str "assistant"), ("content", .arr [
        .obj [("type", .str "tool_use"), ("id", .str "toolu_1"), ("name", .str "Bash"),
          ("input", .obj [("command", .str "ls")])]])],
      .obj [("role", .str "user"), ("content", .arr [
        .obj [("type", .str "tool_result"), ("tool_use_id", .str "toolu_1"),
          ("content", .str "a.txt")],
        .obj [("type", .str "text"), ("text", .str "now open it")]])]])]

/-- A decoder's environment for the examples. -/
def exampleEnvironment : DecoderEnvironment := ⟨isoRuntime, "req-1", fun _ => []⟩

/-- An invocation with a credential in its environment. -/
def exampleContext : InvokeContext :=
  ⟨⟨"env", "DEEPSEEK_API_KEY"⟩, fun name => if name = "DEEPSEEK_API_KEY" then some "key" else none,
    none, true⟩

/-- The part of it that reaches the provider. -/
def carriedUnits : List ConversationUnit :=
  [.text "list the files", .toolCall "toolu_1" "Bash" (some (.obj [("command", .str "ls")])),
    .toolResult "toolu_1" [.text "a.txt"]]

/-- The text beside a tool result is dropped. -/
theorem not_nothingDropped_toolResultWithText :
    ¬ ∀ environment raw headers decoded, decodeAnthropicRequest environment raw headers =
      .ok decoded → ∀ parseUrl input adapter, createProviderAdapter parseUrl input = .ok adapter →
        ∀ context, NothingDropped context decoded.request adapter := by
  intro h
  have hsub : (carriedUnits ++ [ConversationUnit.text "now open it"]).Sublist carriedUnits :=
    h exampleEnvironment toolResultWithText [] _ rfl (fun _ => none)
      ⟨"deepseek", .direct, none, none⟩ _ rfl exampleContext _ rfl
  have hlength := hsub.length_le
  rw [List.length_append] at hlength
  exact absurd hlength (by simp)

end RlyGateway
