import RlyGateway.ControlPlane.Types
import RlyGateway.Providers.Direct.ResponsesPayload
import RlyGateway.Providers.OAuth.ClaudePayload

/-!
# The provider adapters

The adapters a provider record can get, and the upstream request each of them sends for a canonical
request, or what it throws before it sends anything.
-/

namespace RlyGateway

/-! ## Adapters -/

/-- How a provider is integrated. -/
inductive IntegrationMode where
  | direct
  | oauth
  | bridge
deriving DecidableEq, Repr

/-- The mode as it is written. -/
def IntegrationMode.name : IntegrationMode → String
  | .direct => "direct"
  | .oauth => "oauth"
  | .bridge => "bridge"

/-- An entry of the provider catalog, as dispatch reads it. -/
structure ProviderContract where
  name : String
  adapterId : String
  integrationMode : IntegrationMode
deriving DecidableEq, Repr

/-- The provider catalog. -/
def PROVIDER_CATALOG : List ProviderContract :=
  [⟨"openrouter", "openrouter-direct", .direct⟩, ⟨"deepseek", "deepseek-direct", .direct⟩,
    ⟨"codex", "codex-oauth", .oauth⟩, ⟨"gemini", "gemini-oauth", .oauth⟩,
    ⟨"antigravity", "antigravity-bridge", .bridge⟩, ⟨"cline", "cline-interop", .oauth⟩,
    ⟨"claude", "claude-oauth", .oauth⟩, ⟨"opencode-go", "opencode-go-direct", .direct⟩,
    ⟨"alibaba", "alibaba-direct", .direct⟩]

/-- A failure of the dispatch itself. -/
def dispatchFailure (code message : String) : Thrown :=
  .providerAdapterError ⟨code, message, none, .unknown⟩

/-- The adapter of a provider that is in the catalog with that mode. -/
def ProviderCatalog.adapterIdForProvider (name : String) (integrationMode : IntegrationMode) :
    Except Thrown String :=
  let unknown := dispatchFailure "unavailable"
    ("unknown provider " ++ name ++ "/" ++ integrationMode.name)
  match PROVIDER_CATALOG.find? fun contract => contract.name = name with
  | none => .error unknown
  | some contract =>
      if contract.integrationMode = integrationMode then .ok contract.adapterId
      else .error unknown

/-- An adapter for a Chat Completions endpoint; one without an access token takes its credential from
the environment. -/
structure OpenAiChatAdapter where
  id : String
  requestEndpoint : String
  replayReasoningContent : Bool
  supportsResponsesNativeRail : Bool
  accessToken : Option String
deriving DecidableEq, Repr

/-- A text without a slash at its end. -/
def withoutTrailingSlash (url : String) : String :=
  if url.toList.getLast? = some '/' then String.ofList url.toList.dropLast else url

/-- The endpoint of an adapter: its own unless another one is given. -/
def requestEndpoint (own : String) (override : Option String) : String :=
  (override.map withoutTrailingSlash).getD own

/-- The Gemini adapter. -/
def GeminiOAuthAdapter (accessToken : String) (endpoint : Option String) : OpenAiChatAdapter :=
  ⟨"gemini-oauth",
    requestEndpoint "https://generativelanguage.googleapis.com/v1beta/openai" endpoint, false,
    false, some accessToken⟩

/-- The Codex adapter. -/
def CodexOAuthAdapter (accessToken : String) (endpoint : Option String) : OpenAiChatAdapter :=
  ⟨"codex-oauth", requestEndpoint "https://chatgpt.com/backend-api/codex" endpoint, false, false,
    some accessToken⟩

/-- The Cline adapter. -/
def ClineInteropAdapter (accessToken : String) (endpoint : Option String) :
    Except Thrown OpenAiChatAdapter :=
  match endpoint.filter (· ≠ "") with
  | none => .error (dispatchFailure "unavailable"
      "cline interoperability requires an endpoint policy")
  | some endpoint => .ok ⟨"cline-interop", withoutTrailingSlash endpoint, false, false,
      some accessToken⟩

/-- The OpenCode Go adapter. -/
def OpenCodeGoAdapter (endpoint : Option String) : OpenAiChatAdapter :=
  ⟨"opencode-go-direct", requestEndpoint "https://opencode.ai/zen/go/v1" endpoint, false, false,
    none⟩

/-- The Alibaba adapter. -/
def AlibabaAdapter (endpoint : Option String) : OpenAiChatAdapter :=
  ⟨"alibaba-direct",
    requestEndpoint "https://dashscope.aliyuncs.com/compatible-mode/v1" endpoint, false, false,
    none⟩

/-- The DeepSeek adapter, which replays reasoning with tool calls. -/
def DeepSeekAdapter (endpoint : Option String) : OpenAiChatAdapter :=
  ⟨"deepseek-direct", requestEndpoint "https://api.deepseek.com" endpoint, true, false, none⟩

/-- The OpenRouter adapter, which has a Responses endpoint. -/
def OpenRouterAdapter (endpoint : Option String) : OpenAiChatAdapter :=
  ⟨"openrouter-direct", requestEndpoint "https://openrouter.ai/api/v1" endpoint, false, true, none⟩

/-- The chat adapter behind an Antigravity bridge. -/
def BridgeChatAdapter (accessToken baseUrl : String) : OpenAiChatAdapter :=
  ⟨"antigravity-bridge", withoutTrailingSlash baseUrl, false, false, some accessToken⟩

/-- An adapter. -/
inductive ProviderAdapter where
  | chat (adapter : OpenAiChatAdapter)
  | claude (accessToken endpoint : String)
  | antigravity (accessToken : Option String) (baseUrl : String)
deriving DecidableEq, Repr

/-- A parsed URL, its port filled in. -/
structure BridgeUrl where
  hostname : String
  port : ℕ
deriving DecidableEq, Repr

/-- Check that a bridge is on this host and not on a protected port. -/
def parseBridgeUrl (parseUrl : String → Option BridgeUrl) (baseUrl : String) : Except Thrown Unit :=
  match parseUrl baseUrl with
  | none => .error (.error "TypeError" "Invalid URL" (some "ERR_INVALID_URL"))
  | some url =>
      if url.hostname ≠ "127.0.0.1" then
        .error (dispatchFailure "invalid" "antigravity bridge must be loopback")
      else if url.port ∈ [10100, 8317, 17870] then
        .error (dispatchFailure "invalid" "antigravity bridge cannot use a protected port")
      else .ok ()

/-- The access token an adapter cannot do without. -/
def requireToken (adapterId : String) : Option String → Except Thrown String
  | some token => .ok token
  | none => .error (dispatchFailure "unauthenticated"
      (adapterId ++ " requires a request-scoped credential"))

/-- What an adapter is created from. -/
structure AdapterInput where
  name : String
  integrationMode : IntegrationMode
  endpointPolicy : Option String
  accessToken : Option String
deriving DecidableEq, Repr

/-- The adapter of a provider. -/
def createProviderAdapter (parseUrl : String → Option BridgeUrl) (input : AdapterInput) :
    Except Thrown ProviderAdapter := do
  let endpoint := input.endpointPolicy
  let adapterId ← ProviderCatalog.adapterIdForProvider input.name input.integrationMode
  if adapterId = "gemini-oauth" then
    let token ← requireToken adapterId input.accessToken
    return .chat (GeminiOAuthAdapter token endpoint)
  if adapterId = "claude-oauth" then
    let token ← requireToken adapterId input.accessToken
    return .claude token (endpoint.getD "https://api.anthropic.com")
  if adapterId = "codex-oauth" then
    let token ← requireToken adapterId input.accessToken
    return .chat (CodexOAuthAdapter token endpoint)
  if adapterId = "cline-interop" then
    let token ← requireToken adapterId input.accessToken
    let adapter ← ClineInteropAdapter token endpoint
    return .chat adapter
  if adapterId = "antigravity-bridge" then
    let baseUrl := endpoint.getD "http://127.0.0.1:17874"
    parseBridgeUrl parseUrl baseUrl
    return .antigravity input.accessToken baseUrl
  if adapterId = "opencode-go-direct" then return .chat (OpenCodeGoAdapter endpoint)
  if adapterId = "alibaba-direct" then return .chat (AlibabaAdapter endpoint)
  if adapterId = "deepseek-direct" then return .chat (DeepSeekAdapter endpoint)
  if adapterId = "openrouter-direct" then return .chat (OpenRouterAdapter endpoint)
  throw (dispatchFailure "unavailable" ("unknown adapter " ++ adapterId))

/-! ## The upstream request -/

/-- Where the credential of a route is kept. -/
structure CredentialRef where
  kind : String
  name : String
deriving DecidableEq, Repr

/-- What an invocation has around it: the credential of its route, the environment, the translated
reasoning and whether a bridge answers a probe as it should. -/
structure InvokeContext where
  credentialRef : CredentialRef
  environment : String → Option String
  resolvedReasoning : Option ResolvedReasoning
  bridgeReady : Bool

/-- The credential of a route. -/
def resolveEnvironmentCredential (context : InvokeContext) : Except Thrown String :=
  if context.credentialRef.kind = "env" then
    match (context.environment context.credentialRef.name).filter (· ≠ "") with
    | some value => .ok value
    | none => .error (.error "Error"
        ("Credential reference is not available: " ++ context.credentialRef.name) none)
  else .error (.error "Error"
    ("Credential resolver does not support " ++ context.credentialRef.kind) none)

/-- An artifact kind as it is written. -/
def OpaqueArtifactKind.name : OpaqueArtifactKind → String
  | .anthropicThinkingSignature => "anthropic-thinking-signature"
  | .openaiReasoningEncryptedContent => "openai-reasoning-encrypted-content"

/-- Refuse a request whose required artifacts the path cannot preserve. -/
def checkFidelity (message : String) (supported : List OpaqueArtifactKind)
    (request : CanonicalRequest) : Except Thrown Unit :=
  let unsupported := unsupportedRequiredArtifacts request.fidelity supported
  if unsupported = [] then .ok ()
  else .error (dispatchFailure "unsupported-fidelity"
    (message ++ String.intercalate ", " (unsupported.map (·.name))))

/-- The upstream request of an invocation. -/
inductive UpstreamRequest where
  | chatCompletions (url token : String) (replayReasoningContent : Bool)
      (request : CanonicalRequest) (reasoning : Option ResolvedReasoning)
  | responses (url token : String) (request : CanonicalRequest)
      (reasoning : Option ResolvedReasoning)
  | messages (url token : String) (request : CanonicalRequest)

/-- Its body. -/
def UpstreamRequest.body : UpstreamRequest → Json
  | .chatCompletions _ _ replay request reasoning => chatPayload replay request reasoning
  | .responses _ _ request reasoning => responsesPayload request reasoning
  | .messages _ _ request => toAnthropicPayload request

/-- What its body carries of a conversation. -/
def UpstreamRequest.units : UpstreamRequest → List ConversationUnit
  | .chatCompletions _ _ replay request _ => (chatTranscript replay request).flatMap
      ChatMessage.units
  | .responses _ _ request _ => responsesUnits request
  | .messages _ _ request => anthropicUnits request

/-- The Responses rail. -/
def invokeResponses (endpoint : String) (context : InvokeContext) (request : CanonicalRequest) :
    Except Thrown UpstreamRequest := do
  checkFidelity "The Responses rail cannot preserve required continuation artifact: "
    [.openaiReasoningEncryptedContent] request
  let secret ← resolveEnvironmentCredential context
  .ok (.responses (withoutTrailingSlash endpoint ++ "/responses") secret request
    context.resolvedReasoning)

/-- The credential of a chat adapter. -/
def OpenAiChatAdapter.resolveSecret (adapter : OpenAiChatAdapter) (context : InvokeContext) :
    Except Thrown String :=
  match adapter.accessToken with
  | some token => .ok token
  | none => resolveEnvironmentCredential context

/-- Whether a chat adapter sends a request to a Responses endpoint. -/
def OpenAiChatAdapter.usesResponsesRail (adapter : OpenAiChatAdapter) (request : CanonicalRequest) :
    Bool :=
  request.source.protocol = .openaiResponses ∧ adapter.supportsResponsesNativeRail

/-- A chat adapter; a Responses request stays on a Responses endpoint where there is one. -/
def OpenAiChatAdapter.invoke (adapter : OpenAiChatAdapter) (context : InvokeContext)
    (request : CanonicalRequest) : Except Thrown UpstreamRequest :=
  if adapter.usesResponsesRail request then
    invokeResponses adapter.requestEndpoint context request
  else do
    checkFidelity "Chat Completions cannot preserve required continuation artifact: " [] request
    let secret ← adapter.resolveSecret context
    .ok (.chatCompletions (adapter.requestEndpoint ++ "/chat/completions") secret
      adapter.replayReasoningContent request context.resolvedReasoning)

/-- The Claude adapter, which neither streams nor knows tools. -/
def invokeClaude (accessToken endpoint : String) (request : CanonicalRequest) :
    Except Thrown UpstreamRequest :=
  if request.stream = true ∨ request.tools.isEmpty = false then
    .error (dispatchFailure "unavailable" "claude oauth adapter does not support streaming or tools")
  else .ok (.messages (withoutTrailingSlash endpoint ++ "/v1/messages") accessToken request)

/-- The bridge adapter, which probes the bridge first. -/
def invokeAntigravity (accessToken : Option String) (baseUrl : String) (context : InvokeContext)
    (request : CanonicalRequest) : Except Thrown UpstreamRequest :=
  if context.bridgeReady then
    (BridgeChatAdapter (accessToken.getD "bridge") baseUrl).invoke context request
  else .error (dispatchFailure "unavailable" "antigravity bridge identity mismatch")

/-- The upstream request an adapter sends, or what it throws before it sends any. -/
def ProviderAdapter.invoke (context : InvokeContext) (request : CanonicalRequest) :
    ProviderAdapter → Except Thrown UpstreamRequest
  | .chat adapter => adapter.invoke context request
  | .claude accessToken endpoint => invokeClaude accessToken endpoint request
  | .antigravity accessToken baseUrl => invokeAntigravity accessToken baseUrl context request

end RlyGateway
