import RlyGateway.Canary.Classify
import RlyGateway.Library.Fallible
import RlyGateway.Protocols.Anthropic.Encoder

/-!
# The gate matrix

`src/canary/client-fixtures.ts`, `src/canary/shapes.ts` and `src/canary/matrix.ts`: the pinned contracts
of the clients, the synthetic shapes, and the checks that are run on them for one access path. The
checks use the decoder, the encoder and the header parser as they are.
-/

namespace RlyGateway

/-! ## Contracts -/

structure ModelDiscoveryContract where
  requestPath : String
  idPrefixFilter : List String
  cacheAcrossStartups : Bool
  rlyProjectionPrefix : String
deriving DecidableEq, Repr

structure AliasContract where
  tiers : List String
  exactIdsNotTiers : Bool
deriving DecidableEq, Repr

structure EffortContract where
  requestField : String
  effortLevels : List String
  optional : Bool
deriving DecidableEq, Repr

structure FramingContract where
  streamingEventOrder : List String
  cancellationPropagates : Bool
  sessionIsolatedFlag : String
deriving DecidableEq, Repr

/-- The contract of a client, as far as checks and evidence read it. -/
structure ClientContract where
  baseline : String
  client : ClientKind
  fixtureRevision : String
  /-- `attribution.parsedLowercase`. -/
  parsedLowercase : Bool
  modelDiscovery : ModelDiscoveryContract
  aliases : AliasContract
  effort : EffortContract
  framing : FramingContract
deriving DecidableEq, Repr

/-- `CLAUDE_CODE_CONTRACT`. -/
def claudeCodeContract : ClientContract where
  baseline := "claude-code-2.1.229"
  client := .claudeCode
  fixtureRevision := "claude-code-2.1.229-contract-v1"
  parsedLowercase := true
  modelDiscovery := ⟨"/v1/models", ["claude", "anthropic"], true, "claude-rly-"⟩
  aliases := ⟨["haiku", "sonnet", "opus", "fable"], true⟩
  effort := ⟨"effort", ["low", "medium", "high", "xhigh", "max"], true⟩
  framing := ⟨["message_start", "content_block_start", "content_block_delta", "content_block_stop",
    "message_delta", "message_stop"], true, "--no-session-persistence"⟩

/-- `CODEX_CLI_CONTRACT`. -/
def codexCliContract : ClientContract where
  baseline := "codex-cli-observed"
  client := .codexCli
  fixtureRevision := "codex-cli-observed-contract-v1"
  parsedLowercase := true
  modelDiscovery := ⟨"/v1/models", [], false, "claude-rly-"⟩
  aliases := ⟨[], true⟩
  effort := ⟨"reasoning.effort", ["low", "medium", "high"], true⟩
  framing := ⟨["response.created", "response.in_progress", "response.output_item.added",
    "response.output_text.delta", "response.output_item.done", "response.completed"], true,
    "--no-session-persistence"⟩

/-- `CLIENT_CONTRACTS`. -/
def clientContracts : ClientKind → ClientContract
  | .claudeCode => claudeCodeContract
  | .codexCli => codexCliContract

/-! ## Shapes -/

/-- The shapes that the checks run on: the synthetic ones, or what a drift test has in their place. -/
structure FixtureShapes where
  attributionHeaders : Headers
  attributionHeadersParallel : Headers
  effortRequest : Json
  toolRequest : Json
  textRequest : Json
  textStream : List CanonicalEvent
  toolRun : List CanonicalEvent
  multiToolRun : List CanonicalEvent
  reasoningToolRun : List CanonicalEvent

/-- The fields that synthetic requests begin with. -/
def syntheticRequest (fields : List (String × Json)) (text : String) : Json :=
  .obj ([("model", .str "claude-sonnet-4-5"), ("max_tokens", .num 1024)] ++ fields ++
    [("messages", .arr [.obj [("role", .str "user"), ("content", .str text)]])])

def syntheticTextRequest : Json := syntheticRequest [] "synthetic fixture text"

def syntheticEffortRequest : Json :=
  syntheticRequest [("thinking", .obj [("type", .str "enabled")]), ("effort", .str "high")]
    "synthetic fixture text"

def syntheticToolRequest : Json :=
  syntheticRequest [("tools", .arr [.obj [("name", .str "Bash"), ("description", .str "synthetic tool"),
    ("input_schema", .obj [("type", .str "object"),
      ("properties", .obj [("command", .obj [("type", .str "string")])])])]])]
    "synthetic tool fixture"

/-- The attribution headers of an agent of the session. -/
def syntheticAttribution (agentId : String) : Headers :=
  [("x-claude-code-session-id", .single "session-synthetic-0001"),
    ("x-claude-code-agent-id", .single agentId),
    ("x-claude-code-parent-agent-id", .single "parent-synthetic-0001")]

/-- The events of a run, numbered from 0. -/
def syntheticRun (payloads : List EventPayload) : List CanonicalEvent :=
  payloads.zipIdx.map fun (payload, sequence) =>
    ⟨"req_synthetic_0001", sequence, "1970-01-01T00:00:00.000Z", "synthetic-provider",
      "claude-sonnet-4-5", payload⟩

def syntheticTextStream : List CanonicalEvent :=
  syntheticRun [.responseStarted "msg_synthetic_0001", .contentStarted 0 .text none none none,
    .textDelta 0 "synthetic", .contentCompleted 0, .usageUpdated (some 2) (some 1),
    .responseCompleted "end_turn"]

def syntheticToolRun : List CanonicalEvent :=
  syntheticRun [.responseStarted "msg_synthetic_0002",
    .contentStarted 0 .toolCall (some "toolcall_synthetic_0001") (some "Bash") none,
    .toolArgumentsDelta 0 "toolcall_synthetic_0001" "\x7b\"command\":",
    .toolArgumentsDelta 0 "toolcall_synthetic_0001" "\"printf fixture\"\x7d",
    .contentCompleted 0, .responseCompleted "tool_use"]

def syntheticMultiToolRun : List CanonicalEvent :=
  syntheticRun [.responseStarted "msg_synthetic_0003",
    .contentStarted 0 .toolCall (some "toolcall_synthetic_0011") (some "Bash") none,
    .toolArgumentsDelta 0 "toolcall_synthetic_0011" "\x7b\"command\":\"a\"\x7d",
    .contentStarted 1 .toolCall (some "toolcall_synthetic_0012") (some "Read") none,
    .toolArgumentsDelta 1 "toolcall_synthetic_0012" "\x7b\"path\":\"b\"\x7d",
    .contentCompleted 0, .contentCompleted 1, .responseCompleted "tool_use"]

def syntheticReasoningToolRun : List CanonicalEvent :=
  syntheticRun [.responseStarted "msg_synthetic_0004", .contentStarted 0 .reasoning none none none,
    .reasoningDelta 0 "synthetic reasoning marker", .contentCompleted 0,
    .contentStarted 1 .toolCall (some "toolcall_synthetic_0021") (some "Bash") none,
    .toolArgumentsDelta 1 "toolcall_synthetic_0021" "\x7b\"command\":\"c\"\x7d",
    .contentCompleted 1, .responseCompleted "tool_use"]

def syntheticShapes : FixtureShapes where
  attributionHeaders := syntheticAttribution "agent-synthetic-0001"
  attributionHeadersParallel := syntheticAttribution "agent-synthetic-0002"
  effortRequest := syntheticEffortRequest
  toolRequest := syntheticToolRequest
  textRequest := syntheticTextRequest
  textStream := syntheticTextStream
  toolRun := syntheticToolRun
  multiToolRun := syntheticMultiToolRun
  reasoningToolRun := syntheticReasoningToolRun

/-! ## Checks -/

structure MatrixInput where
  environment : DecoderEnvironment
  evidence : ModelEvidence
  contract : ClientContract
  fixtures : FixtureShapes

def gatePasses (gate : ClaimFeature) : CanaryGateResult := ⟨gate, .passed, none⟩
def gateFails (gate : ClaimFeature) (reason : String) : CanaryGateResult :=
  ⟨gate, .failed, some reason⟩

def gateNotRun (gate : ClaimFeature) (reason : String) : CanaryGateResult :=
  ⟨gate, .notRun, some reason⟩

/-- Whether a request is decoded. -/
def decodeFixture (environment : DecoderEnvironment) (fixture : Json) : Bool :=
  (decodeAnthropicRequest environment fixture []).toOption.isSome

def checkText (input : MatrixInput) : CanaryGateResult :=
  if input.contract.client ≠ .claudeCode then gateNotRun .text "client-contract-not-applicable"
  else if decodeFixture input.environment input.fixtures.textRequest = false then
    gateFails .text "messages-request-invalid"
  else if input.evidence.capabilities.streaming = false then gateFails .text "capability-unsupported"
  else gatePasses .text

def checkStreaming (input : MatrixInput) : CanaryGateResult :=
  if input.evidence.capabilities.streaming = false then gateNotRun .streaming "no-streaming-evidence"
  else match encodeAnthropicEvents input.fixtures.textStream with
    | .error _ => gateFails .streaming "streaming-framing-changed"
    | .ok frames =>
        let order := frames.map (·.wire.1)
        let contractOrder := input.contract.framing.streamingEventOrder
        if "message_start" ∉ order ∨ "message_stop" ∉ order then
          gateFails .streaming "streaming-framing-changed"
        else if "message_start" ∉ contractOrder ∨ "message_stop" ∉ contractOrder then
          gateFails .streaming "streaming-framing-changed"
        else gatePasses .streaming

def checkCancellation (input : MatrixInput) : CanaryGateResult :=
  if input.contract.framing.cancellationPropagates = false then
    gateFails .cancellation "cancellation-contract-changed"
  else gatePasses .cancellation

/-- The blocks of tool calls. -/
def toolBlocks (message : AggregatedMessage) : List MessageBlock :=
  message.content.filter fun block => match block.body with
    | .toolUse _ _ => true
    | _ => false

def checkToolsSingle (input : MatrixInput) : CanaryGateResult :=
  if input.evidence.capabilities.tools = false then gateNotRun .toolsSingle "no-tool-evidence"
  else if decodeFixture input.environment input.fixtures.toolRequest = false then
    gateFails .toolsSingle "tool-request-invalid"
  else match (aggregateAnthropicEvents input.fixtures.toolRun).toOption.map toolBlocks with
    | some [block] =>
        match block.input with
        | some (.obj fields) =>
            if "command" ∈ fields.map (·.1) then gatePasses .toolsSingle
            else gateFails .toolsSingle "tool-result-invalid"
        | _ => gateFails .toolsSingle "tool-result-invalid"
    | _ => gateFails .toolsSingle "tool-result-invalid"

def checkToolsMulti (input : MatrixInput) : CanaryGateResult :=
  if input.evidence.capabilities.tools = false then gateNotRun .toolsMulti "no-tool-evidence"
  else match aggregateAnthropicEvents input.fixtures.multiToolRun with
    | .error _ => gateFails .toolsMulti "tool-continuation-invalid"
    | .ok aggregated =>
        if (toolBlocks aggregated).length ≠ 2 then gateFails .toolsMulti "tool-continuation-invalid"
        else gatePasses .toolsMulti

def checkToolsParallel (input : MatrixInput) : CanaryGateResult :=
  if input.evidence.capabilities.parallelTools = false then
    gateNotRun .toolsParallel "no-parallel-tool-evidence"
  else match encodeAnthropicEvents input.fixtures.multiToolRun with
    | .error _ => gateFails .toolsParallel "parallel-tool-unframed"
    | .ok frames =>
        if (frames.filter (·.wire.1 = "content_block_start")).length < 2 then
          gateFails .toolsParallel "parallel-tool-unframed"
        else gatePasses .toolsParallel

/-- The effort that is decoded from the request with one. -/
def decodedEffort (input : MatrixInput) :
    Except (DecodeFailure AnthropicProtocolError) (Option String) := do
  let decoded ← decodeAnthropicRequest input.environment input.fixtures.effortRequest []
  return decoded.request.inference.reasoning.bind (·.sourceEffort)

/-- The decoder's error is not caught here. -/
def checkReasoning (input : MatrixInput) :
    Except (DecodeFailure AnthropicProtocolError) CanaryGateResult :=
  if input.evidence.capabilities.reasoning = false then
    .ok (gateNotRun .reasoning "no-reasoning-evidence")
  else if input.contract.client = .claudeCode then
    if input.contract.effort.requestField ≠ "effort" then
      .ok (gateFails .reasoning "reasoning-shape-changed")
    else do
      let sourceEffort ← decodedEffort input
      if sourceEffort ≠ some "high" then return gateFails .reasoning "reasoning-effort-clamped"
      else return gatePasses .reasoning
  else .ok (gatePasses .reasoning)

def checkReasoningTools (input : MatrixInput) : CanaryGateResult :=
  if input.evidence.reasoning.reasoningWithTools = false then
    gateNotRun .reasoningTools "no-reasoning-with-tools-evidence"
  else if input.fixtures.reasoningToolRun.any (fun item => match item.payload with
      | .contentStarted .. => true
      | _ => false) = false then
    gateFails .reasoningTools "reasoning-tool-interleave-invalid"
  else gatePasses .reasoningTools

def checkModelDiscovery (input : MatrixInput) : CanaryGateResult :=
  let discovery := input.contract.modelDiscovery
  let allowed := discovery.idPrefixFilter
  if discovery.requestPath ≠ "/v1/models" then
    gateFails .modelDiscovery "gateway-model-request-changed"
  else if allowed = [] ∨ "claude" ∉ allowed ∨ "anthropic" ∉ allowed then
    gateFails .modelDiscovery "gateway-model-filter-changed"
  else if allowed.any (fun start =>
      start.toList.isPrefixOf discovery.rlyProjectionPrefix.toList) = false then
    gateFails .modelDiscovery "gateway-model-filter-changed"
  else if discovery.cacheAcrossStartups = false then
    gateFails .modelDiscovery "gateway-model-cache-changed"
  else gatePasses .modelDiscovery

def checkSessionAttribution (input : MatrixInput) : CanaryGateResult :=
  if input.contract.client ≠ .claudeCode then
    gateNotRun .sessionAttribution "client-contract-not-applicable"
  else
    let parsed := parseAgentContext input.environment.runtime input.fixtures.attributionHeaders
    if parsed.bind (·.claudeSessionId) ≠ some "session-synthetic-0001" then
      gateFails .sessionAttribution "missing-agent-header"
    else if parsed.bind (·.agentId) ≠ some "agent-synthetic-0001" then
      gateFails .sessionAttribution "missing-agent-header"
    else if parsed.bind (·.parentAgentId) ≠ some "parent-synthetic-0001" then
      gateFails .sessionAttribution "missing-agent-header"
    else if input.contract.parsedLowercase = false then
      gateFails .sessionAttribution "attribution-header-case-changed"
    else gatePasses .sessionAttribution

def checkSubagentRouting (input : MatrixInput) : CanaryGateResult :=
  let tiers := input.contract.aliases.tiers
  if input.contract.client ≠ .claudeCode then
    gateNotRun .subagentRouting "client-contract-not-applicable"
  else if "fable" ∉ tiers then gateFails .subagentRouting "fable-alias-unsupported"
  else if "haiku" ∉ tiers ∨ "sonnet" ∉ tiers ∨ "opus" ∉ tiers then
    gateFails .subagentRouting "tier-alias-unsupported"
  else if input.contract.aliases.exactIdsNotTiers = false then
    gateFails .subagentRouting "tier-alias-collision"
  else gatePasses .subagentRouting

def checkSubagentParallel (input : MatrixInput) : CanaryGateResult :=
  if input.contract.client ≠ .claudeCode then
    gateNotRun .subagentParallel "client-contract-not-applicable"
  else match parseAgentContext input.environment.runtime input.fixtures.attributionHeaders,
      parseAgentContext input.environment.runtime input.fixtures.attributionHeadersParallel with
    | some first, some second =>
        if first.agentId = second.agentId then
          gateFails .subagentParallel "parallel-attribution-collision"
        else if first.claudeSessionId ≠ second.claudeSessionId then
          gateFails .subagentParallel "parallel-attribution-collision"
        else gatePasses .subagentParallel
    | _, _ => gateFails .subagentParallel "parallel-attribution-collision"

/-- The decoder's error is not caught here. -/
def checkEffortSignal (input : MatrixInput) :
    Except (DecodeFailure AnthropicProtocolError) CanaryGateResult :=
  if input.contract.client ≠ .claudeCode then
    .ok (gateNotRun .effortSignal "client-contract-not-applicable")
  else do
    let sourceEffort ← decodedEffort input
    if sourceEffort ≠ some "high" then return gateFails .effortSignal "effort-signal-lost"
    else if input.contract.effort.optional = false then
      return gateFails .effortSignal "effort-signal-lost"
    else if "high" ∉ input.contract.effort.effortLevels then
      return gateFails .effortSignal "effort-level-unknown"
    else return gatePasses .effortSignal

def checkLongRunningSession (input : MatrixInput) : CanaryGateResult :=
  if input.contract.framing.sessionIsolatedFlag ≠ "--no-session-persistence" then
    gateFails .longRunningSession "session-contract-changed"
  else if input.contract.framing.cancellationPropagates = false then
    gateFails .longRunningSession "session-contract-changed"
  else if input.contract.client = .claudeCode ∧
      input.contract.modelDiscovery.cacheAcrossStartups = false then
    gateFails .longRunningSession "session-contract-changed"
  else gatePasses .longRunningSession

/-- The results of `CHECKS`, in their order. -/
def runGateMatrix (input : MatrixInput) :
    Except (DecodeFailure AnthropicProtocolError) (List CanaryGateResult) := do
  let reasoning ← checkReasoning input
  let effortSignal ← checkEffortSignal input
  return [checkText input, checkStreaming input, checkCancellation input, checkToolsSingle input,
    checkToolsMulti input, checkToolsParallel input, reasoning, checkReasoningTools input,
    checkModelDiscovery input, checkSessionAttribution input, checkSubagentRouting input,
    checkSubagentParallel input, effortSignal, checkLongRunningSession input]

/-- The matrix is run where the two checks that can throw are. -/
theorem runGateMatrix_eq_ok {input : MatrixInput} {reasoning effortSignal : CanaryGateResult}
    (hreasoning : checkReasoning input = .ok reasoning)
    (heffort : checkEffortSignal input = .ok effortSignal) : runGateMatrix input = .ok
      [checkText input, checkStreaming input, checkCancellation input, checkToolsSingle input,
        checkToolsMulti input, checkToolsParallel input, reasoning, checkReasoningTools input,
        checkModelDiscovery input, checkSessionAttribution input, checkSubagentRouting input,
        checkSubagentParallel input, effortSignal, checkLongRunningSession input] := by
  unfold runGateMatrix
  rw [hreasoning, heffort]
  rfl

/-! ## The synthetic shapes -/

section Synthetic

variable (environment : DecoderEnvironment) (evidence : ModelEvidence) (contract : ClientContract)

theorem decodeFixture_text : decodeFixture environment syntheticTextRequest = true := rfl

theorem decodeFixture_tool : decodeFixture environment syntheticToolRequest = true := rfl

theorem decodedEffort_synthetic :
    decodedEffort ⟨environment, evidence, contract, syntheticShapes⟩ = .ok (some "high") := rfl

theorem encode_syntheticTextStream : ∃ frames, encodeAnthropicEvents syntheticTextStream = .ok frames ∧
    "message_start" ∈ frames.map (·.wire.1) ∧ "message_stop" ∈ frames.map (·.wire.1) :=
  ⟨_, rfl, by decide, by decide⟩

theorem encode_syntheticMultiToolRun : ∃ frames,
    encodeAnthropicEvents syntheticMultiToolRun = .ok frames ∧
      (frames.filter (·.wire.1 = "content_block_start")).length = 2 :=
  ⟨_, rfl, by decide⟩

/-- The arguments of the one call are an object with a command. -/
theorem parse_syntheticToolRun : Json.parse ("\x7b\"command\":" ++ "\"printf fixture\"\x7d") =
    some (.obj [("command", .str "printf fixture")]) :=
  Json.parse_of_parseValue (show _ = String.ofList ['{', '"', 'c', 'o', 'm', 'm', 'a', 'n', 'd', '"',
    ':', '"', 'p', 'r', 'i', 'n', 't', 'f', ' ', 'f', 'i', 'x', 't', 'u', 'r', 'e', '"', '}'] from rfl)
    rfl

/-- The arguments of the two calls are valid. -/
theorem parse_syntheticMultiToolRun :
    Json.parse "\x7b\"command\":\"a\"\x7d" = some (.obj [("command", .str "a")]) ∧
      Json.parse "\x7b\"path\":\"b\"\x7d" = some (.obj [("path", .str "b")]) :=
  ⟨Json.parse_of_parseValue (show _ = String.ofList ['{', '"', 'c', 'o', 'm', 'm', 'a', 'n', 'd', '"',
      ':', '"', 'a', '"', '}'] from rfl) rfl,
    Json.parse_of_parseValue (show _ = String.ofList ['{', '"', 'p', 'a', 't', 'h', '"', ':', '"', 'b',
      '"', '}'] from rfl) rfl⟩

/-- A message is aggregated where its events are encoded and its arguments are valid. -/
theorem aggregateAnthropicEvents_of_parts {events : List CanonicalEvent}
    {frames : List AnthropicFrame} {context : MessageContext}
    (hframes : encodeAnthropicEvents events = .ok frames)
    (hcontext : applyMessages createMessageContext events = .ok context)
    (hvalid : ∀ entry ∈ context.toolJson.entries, (Json.parse entry.2).isSome) :
    aggregateAnthropicEvents events = .ok ⟨context.responseId, context.model,
      (finalizeBlocks context).sortedValues, context.stopReason, context.usage⟩ := by
  have hall : context.toolJson.entries.all (validInput context.blocks) = true := by
    rw [List.all_eq_true]
    intro entry hentry
    exact decide_eq_true (.inr (hvalid entry hentry))
  refine Except.bind_eq_ok.2 ⟨frames, hframes, Except.bind_eq_ok.2 ⟨context, hcontext, ?_⟩⟩
  rw [finalizeMessage, if_pos hall]

theorem aggregate_syntheticToolRun :
    (aggregateAnthropicEvents syntheticToolRun).toOption.map toolBlocks =
      some [⟨.toolUse "toolcall_synthetic_0001" "Bash",
        some (.obj [("command", .str "printf fixture")])⟩] := by
  obtain ⟨frames, hframes⟩ : ∃ frames, encodeAnthropicEvents syntheticToolRun = .ok frames := ⟨_, rfl⟩
  obtain ⟨context, hcontext, hjson, hblocks⟩ : ∃ context,
      applyMessages createMessageContext syntheticToolRun = .ok context ∧
        context.toolJson.entries = [(0, "\x7b\"command\":" ++ "\"printf fixture\"\x7d")] ∧
        (finalizeBlocks context).sortedValues = [⟨.toolUse "toolcall_synthetic_0001" "Bash",
          Json.parse ("\x7b\"command\":" ++ "\"printf fixture\"\x7d")⟩] := ⟨_, rfl, rfl, rfl⟩
  have hvalid : ∀ entry ∈ context.toolJson.entries, (Json.parse entry.2).isSome = true := by
    rw [hjson, List.forall_mem_singleton, parse_syntheticToolRun]
    rfl
  rw [aggregateAnthropicEvents_of_parts hframes hcontext hvalid, hblocks, parse_syntheticToolRun]
  rfl

theorem aggregate_syntheticMultiToolRun : ∃ aggregated,
    aggregateAnthropicEvents syntheticMultiToolRun = .ok aggregated ∧
      (toolBlocks aggregated).length = 2 := by
  obtain ⟨frames, hframes, -⟩ := encode_syntheticMultiToolRun
  obtain ⟨context, hcontext, hjson, hblocks⟩ : ∃ context,
      applyMessages createMessageContext syntheticMultiToolRun = .ok context ∧
        context.toolJson.entries =
          [(0, "\x7b\"command\":\"a\"\x7d"), (1, "\x7b\"path\":\"b\"\x7d")] ∧
        (finalizeBlocks context).sortedValues.map (·.body) =
          [.toolUse "toolcall_synthetic_0011" "Bash", .toolUse "toolcall_synthetic_0012" "Read"] :=
    ⟨_, rfl, rfl, rfl⟩
  have hvalid : ∀ entry ∈ context.toolJson.entries, (Json.parse entry.2).isSome = true := by
    rw [hjson, List.forall_mem_cons, List.forall_mem_singleton, parse_syntheticMultiToolRun.1,
      parse_syntheticMultiToolRun.2]
    exact ⟨rfl, rfl⟩
  refine ⟨_, aggregateAnthropicEvents_of_parts hframes hcontext hvalid, ?_⟩
  match hvalues : (finalizeBlocks context).sortedValues, hblocks with
  | [⟨_, _⟩, ⟨_, _⟩], hblocks =>
      obtain ⟨rfl, rfl⟩ := by simpa using hblocks
      rfl

theorem parseAgentContext_synthetic (agentId : String) (h : agentId ≠ "") :
    parseAgentContext environment.runtime (syntheticAttribution agentId) =
      some ⟨some "session-synthetic-0001", some agentId, some "parent-synthetic-0001"⟩ := by
  have hagent : singleValue environment.runtime (syntheticAttribution agentId)
      "x-claude-code-agent-id" = some agentId := if_neg h
  rw [parseAgentContext, hagent]
  rfl

end Synthetic

/-! ## The matrix of the pinned contracts -/

section Pinned

variable (environment : DecoderEnvironment) (evidence : ModelEvidence)

/-- The checks of an access path for a client. -/
def pinnedInput (client : ClientKind) : MatrixInput :=
  ⟨environment, evidence, clientContracts client, syntheticShapes⟩

/-- A check that needs reviewed evidence: it passes where there is some. -/
def gateOfEvidence (gate : ClaimFeature) (supported : Bool) (reason : String) : CanaryGateResult :=
  if supported then gatePasses gate else gateNotRun gate reason

theorem checkText_claudeCode : checkText (pinnedInput environment evidence .claudeCode) =
    if evidence.capabilities.streaming then gatePasses .text
    else gateFails .text "capability-unsupported" := by
  cases hstreaming : evidence.capabilities.streaming <;>
    simp [checkText, pinnedInput, clientContracts, claudeCodeContract, syntheticShapes,
      decodeFixture_text, hstreaming]

theorem checkStreaming_claudeCode : checkStreaming (pinnedInput environment evidence .claudeCode) =
    gateOfEvidence .streaming evidence.capabilities.streaming "no-streaming-evidence" := by
  obtain ⟨frames, hframes, hstart, hstop⟩ := encode_syntheticTextStream
  cases hstreaming : evidence.capabilities.streaming <;>
    simp [checkStreaming, gateOfEvidence, pinnedInput, clientContracts, claudeCodeContract,
      syntheticShapes, hframes, hstart, hstop, hstreaming]

theorem checkToolsSingle_claudeCode :
    checkToolsSingle (pinnedInput environment evidence .claudeCode) =
      gateOfEvidence .toolsSingle evidence.capabilities.tools "no-tool-evidence" := by
  cases htools : evidence.capabilities.tools <;>
    simp [checkToolsSingle, gateOfEvidence, pinnedInput, syntheticShapes, decodeFixture_tool,
      aggregate_syntheticToolRun, htools]

theorem checkToolsMulti_claudeCode : checkToolsMulti (pinnedInput environment evidence .claudeCode) =
    gateOfEvidence .toolsMulti evidence.capabilities.tools "no-tool-evidence" := by
  obtain ⟨aggregated, haggregated, hblocks⟩ := aggregate_syntheticMultiToolRun
  cases htools : evidence.capabilities.tools <;>
    simp [checkToolsMulti, gateOfEvidence, pinnedInput, syntheticShapes, haggregated, hblocks, htools]

theorem checkToolsParallel_claudeCode :
    checkToolsParallel (pinnedInput environment evidence .claudeCode) =
      gateOfEvidence .toolsParallel evidence.capabilities.parallelTools
        "no-parallel-tool-evidence" := by
  obtain ⟨frames, hframes, hstarts⟩ := encode_syntheticMultiToolRun
  cases hparallel : evidence.capabilities.parallelTools <;>
    simp [checkToolsParallel, gateOfEvidence, pinnedInput, syntheticShapes, hframes, hstarts, hparallel]

/-- The reasoning check of both clients. -/
theorem checkReasoning_pinned (client : ClientKind) :
    checkReasoning (pinnedInput environment evidence client) =
      .ok (gateOfEvidence .reasoning evidence.capabilities.reasoning "no-reasoning-evidence") := by
  unfold checkReasoning pinnedInput
  rw [decodedEffort_synthetic]
  cases client <;> cases evidence.capabilities.reasoning <;> rfl

theorem checkReasoningTools_claudeCode :
    checkReasoningTools (pinnedInput environment evidence .claudeCode) =
      gateOfEvidence .reasoningTools evidence.reasoning.reasoningWithTools
        "no-reasoning-with-tools-evidence" := by
  unfold checkReasoningTools pinnedInput
  cases evidence.reasoning.reasoningWithTools <;> rfl

theorem checkModelDiscovery_claudeCode :
    checkModelDiscovery (pinnedInput environment evidence .claudeCode) = gatePasses .modelDiscovery := by
  simp [checkModelDiscovery, pinnedInput, clientContracts, claudeCodeContract]

theorem checkSessionAttribution_claudeCode :
    checkSessionAttribution (pinnedInput environment evidence .claudeCode) =
      gatePasses .sessionAttribution := by
  have hparsed := parseAgentContext_synthetic environment "agent-synthetic-0001" (by decide)
  simp [checkSessionAttribution, pinnedInput, clientContracts, claudeCodeContract, syntheticShapes,
    hparsed]

theorem checkSubagentParallel_claudeCode :
    checkSubagentParallel (pinnedInput environment evidence .claudeCode) =
      gatePasses .subagentParallel := by
  have hparsed := parseAgentContext_synthetic environment "agent-synthetic-0001" (by decide)
  have hparallel := parseAgentContext_synthetic environment "agent-synthetic-0002" (by decide)
  simp [checkSubagentParallel, pinnedInput, clientContracts, claudeCodeContract, syntheticShapes,
    hparsed, hparallel]

theorem checkEffortSignal_claudeCode :
    checkEffortSignal (pinnedInput environment evidence .claudeCode) =
      .ok (gatePasses .effortSignal) := by
  unfold checkEffortSignal pinnedInput
  rw [decodedEffort_synthetic]
  rfl

/-- For Claude Code every check passes on the synthetic shapes, or is not run for want of evidence;
the text check alone fails without streaming. -/
theorem runGateMatrix_claudeCode : runGateMatrix (pinnedInput environment evidence .claudeCode) = .ok
    [if evidence.capabilities.streaming then gatePasses .text else gateFails .text "capability-unsupported",
      gateOfEvidence .streaming evidence.capabilities.streaming "no-streaming-evidence",
      gatePasses .cancellation,
      gateOfEvidence .toolsSingle evidence.capabilities.tools "no-tool-evidence",
      gateOfEvidence .toolsMulti evidence.capabilities.tools "no-tool-evidence",
      gateOfEvidence .toolsParallel evidence.capabilities.parallelTools "no-parallel-tool-evidence",
      gateOfEvidence .reasoning evidence.capabilities.reasoning "no-reasoning-evidence",
      gateOfEvidence .reasoningTools evidence.reasoning.reasoningWithTools
        "no-reasoning-with-tools-evidence",
      gatePasses .modelDiscovery, gatePasses .sessionAttribution, gatePasses .subagentRouting,
      gatePasses .subagentParallel, gatePasses .effortSignal, gatePasses .longRunningSession] := by
  have hcancellation : checkCancellation (pinnedInput environment evidence .claudeCode) =
      gatePasses .cancellation := rfl
  have hrouting : checkSubagentRouting (pinnedInput environment evidence .claudeCode) =
      gatePasses .subagentRouting := rfl
  have hlong : checkLongRunningSession (pinnedInput environment evidence .claudeCode) =
      gatePasses .longRunningSession := rfl
  rw [runGateMatrix_eq_ok (checkReasoning_pinned _ _ _) (checkEffortSignal_claudeCode _ _),
    checkText_claudeCode, checkStreaming_claudeCode, hcancellation, checkToolsSingle_claudeCode,
    checkToolsMulti_claudeCode, checkToolsParallel_claudeCode, checkReasoningTools_claudeCode,
    checkModelDiscovery_claudeCode, checkSessionAttribution_claudeCode, hrouting,
    checkSubagentParallel_claudeCode, hlong]

/-- For the Codex CLI the text check is not run, and model discovery fails. -/
theorem runGateMatrix_codexCli : ∃ rest, runGateMatrix (pinnedInput environment evidence .codexCli) =
      .ok (gateNotRun .text "client-contract-not-applicable" :: rest) ∧
    gateFails .modelDiscovery "gateway-model-filter-changed" ∈ rest := by
  have heffort : checkEffortSignal (pinnedInput environment evidence .codexCli) =
      .ok (gateNotRun .effortSignal "client-contract-not-applicable") := rfl
  have hdiscovery : checkModelDiscovery (pinnedInput environment evidence .codexCli) =
      gateFails .modelDiscovery "gateway-model-filter-changed" := rfl
  refine ⟨_, runGateMatrix_eq_ok (checkReasoning_pinned _ _ _) heffort, ?_⟩
  simp [hdiscovery]

end Pinned

end RlyGateway
