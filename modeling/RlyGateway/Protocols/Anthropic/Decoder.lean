import RlyGateway.Core.CanonicalRequest
import RlyGateway.Core.Capabilities
import RlyGateway.Library.Schema

/-!
# Decoding Messages requests

The validation of a Messages request and its translation to a canonical request. Only the outermost
content blocks are validated at first; the content of a tool result is validated when it is reached.
-/

namespace RlyGateway

/-- What a decoder takes from around it: the platform, the id of the request and the paths of the
issues the validator reports for a body. -/
structure DecoderEnvironment where
  runtime : NodeRuntime
  requestId : String
  issuePaths : Json → List String

/-- The paths of the first issues of a body, each once. -/
def DecoderEnvironment.issueText (environment : DecoderEnvironment) (raw : Json) : String :=
  String.intercalate ", " ((OrderedSet.ofList (environment.issuePaths raw)).elems.take 8)

/-- An error of the Messages protocol. -/
structure AnthropicProtocolError where
  code : String
  message : String
  statusCode : ℕ
deriving DecidableEq, Repr

/-- An error of the Messages protocol with the status of a bad request. -/
def anthropicRequestError (message : String) : DecodeFailure AnthropicProtocolError :=
  .protocolError ⟨"invalid_request_error", message, 400⟩

/-! ## Schemas -/

/-- The mark of a block that shall be cached. -/
def cacheControl (value : Json) : Option String := value.required "type" (Json.oneOf ["ephemeral"])

/-- A validated content block, the content of a tool result left as it is. -/
inductive ContentBlock where
  | text (text : String)
  | image (mediaType data : String)
  | toolUse (id name : String) (input : Option Json)
  | toolResult (toolUseId : String) (isError : Option Bool)
  | thinking (thinking : String) (signature : Option String)
  | redactedThinking (data : String)

/-- The content of a tool result: a text or any list. -/
def toolResultContent : Json → Option Unit
  | .str _ => some ()
  | .arr _ => some ()
  | _ => none

/-- The content block a value is. -/
def contentBlock (value : Json) : Option ContentBlock :=
  match value.strField? "type" with
  | some "text" => do
      let text ← value.required "text" Json.str?
      let _ ← value.optional "cache_control" cacheControl
      some (.text text)
  | some "image" => do
      let source ← value.required "source" Json.object
      let _ ← source.required "type" (Json.oneOf ["base64"])
      let mediaType ← source.required "media_type" Json.nonEmptyString
      let data ← source.required "data" Json.nonEmptyString
      let _ ← value.optional "cache_control" cacheControl
      some (.image mediaType data)
  | some "tool_use" => do
      let id ← value.required "id" Json.nonEmptyString
      let name ← value.required "name" Json.nonEmptyString
      some (.toolUse id name (value.field? "input"))
  | some "tool_result" => do
      let toolUseId ← value.required "tool_use_id" Json.nonEmptyString
      let _ ← value.optional "content" toolResultContent
      let isError ← value.optional "is_error" Json.bool?
      let _ ← value.optional "cache_control" cacheControl
      some (.toolResult toolUseId isError)
  | some "thinking" => do
      let thinking ← value.required "thinking" Json.str?
      let signature ← value.optional "signature" Json.str?
      some (.thinking thinking signature)
  | some "redacted_thinking" => do
      let data ← value.required "data" Json.str?
      some (.redactedThinking data)
  | _ => none

/-- The content of a message, validated but not yet translated. -/
def messageContent : Json → Option Json
  | .str text => some (.str text)
  | .arr items => (items.mapM contentBlock).map fun _ => .arr items
  | _ => none

/-- A text of the system prompt. -/
def systemTextBlock (value : Json) : Option String :=
  match contentBlock value with
  | some (.text text) => some text
  | _ => none

/-- The system prompt, as its texts. -/
def systemPrompt : Json → Option (List String)
  | .str text => some [text]
  | value => value.items systemTextBlock

/-- A tool the client offers. -/
def anthropicTool (value : Json) : Option CanonicalTool := do
  let name ← value.required "name" Json.nonEmptyString
  let description ← value.optional "description" Json.str?
  let inputSchema ← value.required "input_schema" Json.obj?
  some ⟨name, description, inputSchema⟩

/-- Which tool the model shall call. -/
def anthropicToolChoice (value : Json) : Option CanonicalToolChoice :=
  match value.strField? "type" with
  | some "auto" => some .auto
  | some "any" => some .any
  | some "none" => some .none
  | some "tool" => (value.required "name" Json.nonEmptyString).map .tool
  | _ => none

/-- The thinking mode. -/
def thinkingType (value : Json) : Option ReasoningSourceMode :=
  match value.str? with
  | some "enabled" => some .enabled
  | some "disabled" => some .disabled
  | some "adaptive" => some .adaptive
  | _ => none

/-- The thinking mode and its effort. -/
def thinkingField (value : Json) : Option (ReasoningSourceMode × Option String) := do
  let mode ← value.required "type" thinkingType
  let effort ← value.optional "effort" Json.str?
  some (mode, effort)

/-- A validated message. -/
structure RawMessage where
  role : String
  content : Json

/-- A message of the body. -/
def rawMessage (value : Json) : Option RawMessage := do
  let role ← value.required "role" Json.nonEmptyString
  let content ← value.required "content" messageContent
  some ⟨role, content⟩

/-- A validated Messages request. -/
structure RawMessagesRequest where
  model : String
  maxTokens : ℚ
  messages : List RawMessage
  system : Option (List String)
  tools : Option (List CanonicalTool)
  toolChoice : Option CanonicalToolChoice
  stream : Option Bool
  temperature : Option ℚ
  topP : Option ℚ
  stopSequences : Option (List String)
  thinking : Option (ReasoningSourceMode × Option String)
  effort : Option String
  keys : List String

/-- The Messages request a body is. -/
def rawMessagesRequest (raw : Json) : Option RawMessagesRequest := do
  let fields ← raw.obj?
  let model ← raw.required "model" Json.nonEmptyString
  let maxTokens ← raw.required "max_tokens" Json.positiveInteger
  let messages ← raw.required "messages" (Json.items rawMessage)
  let system ← raw.optional "system" systemPrompt
  let tools ← raw.optional "tools" (Json.items anthropicTool)
  let toolChoice ← raw.optional "tool_choice" anthropicToolChoice
  let stream ← raw.optional "stream" Json.bool?
  let temperature ← raw.optional "temperature" Json.unitNumber
  let topP ← raw.optional "top_p" Json.unitNumber
  let stopSequences ← raw.optional "stop_sequences" (Json.items Json.str?)
  let thinking ← raw.optional "thinking" thinkingField
  let effort ← raw.optional "effort" Json.str?
  let _ ← raw.optional "metadata" Json.object
  some ⟨model, maxTokens, messages, system, tools, toolChoice, stream, temperature, topP,
    stopSequences, thinking, effort, fields.map (·.1)⟩

/-! ## Content -/

mutual

/-- A content block; the content of a tool result is validated and translated in turn. -/
def decodeBlock : Json → Except (DecodeFailure AnthropicProtocolError) CanonicalContent
  | .obj fields =>
      match contentBlock (.obj fields) with
      | none => .error .validationError
      | some (.text text) => .ok (.text text)
      | some (.image mediaType data) => .ok (.image mediaType data)
      | some (.toolUse id name input) => .ok (.toolCall id name input)
      | some (.toolResult toolUseId isError) => do
          let content ← resultContent fields
          .ok (.toolResult toolUseId content (isError.getD false))
      | some (.thinking thinking _) => .ok (.reasoning thinking none)
      | some (.redactedThinking data) => .ok (.redactedReasoning data)
  | _ => .error .validationError

/-- The content among the fields of a tool result; one without content has none. -/
def resultContent :
    List (String × Json) → Except (DecodeFailure AnthropicProtocolError) (List CanonicalContent)
  | [] => .ok []
  | (name, value) :: fields => if name = "content" then blocks value else resultContent fields

/-- The content a text or a list of blocks is. -/
def blocks : Json → Except (DecodeFailure AnthropicProtocolError) (List CanonicalContent)
  | .str text => .ok [.text text]
  | .arr items => decodeBlocks items
  | _ => .ok []

/-- The blocks of a list, in order. -/
def decodeBlocks :
    List Json → Except (DecodeFailure AnthropicProtocolError) (List CanonicalContent)
  | [] => .ok []
  | item :: items => do
      let content ← decodeBlock item
      let rest ← decodeBlocks items
      .ok (content :: rest)

end

/-- Wire-significant signatures of thinking blocks, each with the position of its block. -/
def thinkingSignatureArtifacts (messages : List RawMessage) : List OpaqueArtifact :=
  messages.zipIdx.flatMap fun (message, messageIndex) =>
    (message.content.arr?.getD []).zipIdx.filterMap fun (block, blockIndex) =>
      match contentBlock block with
      | some (.thinking _ (some signature)) =>
          if signature = "" then none
          else some ⟨.anthropicThinkingSignature,
            toString messageIndex ++ ":" ++ toString blockIndex, signature⟩
      | _ => none

/-! ## Decoding -/

/-- The system prompt and the messages: system messages join the prompt. -/
def decodeMessages (system : List CanonicalContent) :
    List RawMessage → Except (DecodeFailure AnthropicProtocolError)
      (List CanonicalContent × List CanonicalMessage)
  | [] => .ok (system, [])
  | message :: rest => do
      let content ← blocks message.content
      if message.role = "system" then decodeMessages (system ++ content) rest
      else if message.role = "user" then do
        let (system, messages) ← decodeMessages system rest
        .ok (system, ⟨.user, content⟩ :: messages)
      else if message.role = "assistant" then do
        let (system, messages) ← decodeMessages system rest
        .ok (system, ⟨.assistant, content⟩ :: messages)
      else .error (anthropicRequestError ("Unsupported message role: " ++ message.role))

/-- The capabilities a Messages request needs. -/
def requiredCapabilities (value : RawMessagesRequest) (input : List CanonicalContent) :
    List CapabilityRequirement :=
  (if value.stream = some true then [.streaming] else []) ++
  (if (value.tools.getD []) = [] then [] else [.tools]) ++
  (if input.any (·.isImage) then [.images] else []) ++
  (if input.any (·.isReasoning) then [.reasoning] else []) ++
  (if input.any (·.isRedactedReasoning) then [.redactedReasoning] else []) ++
  (match value.thinking with
    | some (.enabled, _) => [.reasoning]
    | some (.adaptive, _) => [.reasoning]
    | _ => [])

/-- The fields of a Messages request the decoder knows. -/
def recognizedMessagesFields : List String :=
  ["model", "max_tokens", "messages", "system", "tools", "tool_choice", "stream", "temperature",
    "top_p", "stop_sequences", "thinking", "effort", "metadata"]

/-- The note on a field that is passed over. -/
def ignoredFieldNote (key : String) : FidelityNote :=
  ⟨key, .ignored, some "unknown additive field; not required for continuation"⟩

/-- The fidelity envelope of a Messages request. -/
def messagesFidelity (headers : Headers) (input : List CanonicalContent)
    (artifacts : List OpaqueArtifact) (ignored : List String) : Option FidelityEnvelope :=
  if artifacts = [] ∧ ignored = [] then none
  else
    let envelope := emptyFidelityEnvelope .anthropicMessages (headers.text? "anthropic-version")
    let envelope := withArtifacts envelope artifacts
    let envelope := withNotes envelope (
      (if input.any (fun item => item.isReasoning || item.isRedactedReasoning) then
        [⟨"messages[].content[].thinking", .translated,
          some "thinking text projected to semantic reasoning content"⟩] else []) ++
      artifacts.map (fun artifact => ⟨"messages[].content[].thinking.signature", .preservedNative,
        some ("preserved at " ++ artifact.association)⟩) ++
      ignored.map ignoredFieldNote)
    some (if artifacts = [] then envelope
      else withRequired envelope [.anthropicThinkingSignature])

/-- A decoded request, the capabilities it needs and the fields that were passed over. -/
structure DecodedRequest where
  request : CanonicalRequest
  required : List CapabilityRequirement
  ignoredAdditiveFields : List String

/-- The reasoning a Messages request asks for. -/
def messagesReasoning (value : RawMessagesRequest) : ReasoningRequest :=
  reasoningRequestFromWire (value.thinking.map (·.1))
    (value.effort.or (value.thinking.bind (·.2)))

/-- Decode a Messages request. -/
def decodeAnthropicRequest (environment : DecoderEnvironment) (raw : Json) (headers : Headers) :
    Except (DecodeFailure AnthropicProtocolError) DecodedRequest :=
  match rawMessagesRequest raw with
  | none => .error (anthropicRequestError ("Request does not match the supported Messages fields: "
      ++ environment.issueText raw))
  | some value => do
      let (system, messages) ← decodeMessages ((value.system.getD []).map .text) value.messages
      let input := messages.flatMap (·.content)
      let ignored := value.keys.filter (· ∉ recognizedMessagesFields)
      let artifacts := thinkingSignatureArtifacts value.messages
      .ok {
        request := {
          id := environment.requestId
          source := ⟨.anthropicMessages, headers.text? "anthropic-version"⟩
          requestedModel := value.model
          system, input, messages
          tools := value.tools.getD []
          toolChoice := value.toolChoice
          stream := value.stream.getD false
          store := none
          included := none
          inference := ⟨some value.maxTokens, value.temperature, value.topP, value.stopSequences,
            value.thinking.map (·.1), some (messagesReasoning value)⟩
          previousResponseId := none
          agent := parseAgentContext environment.runtime headers
          fidelity := messagesFidelity headers input artifacts ignored }
        required := requiredCapabilities value input
        ignoredAdditiveFields := ignored }

end RlyGateway
