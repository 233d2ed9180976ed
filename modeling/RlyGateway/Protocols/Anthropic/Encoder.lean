import RlyGateway.Library.JsonText
import RlyGateway.Library.MapUpdate
import RlyGateway.Protocols.Anthropic.Decoder
import RlyGateway.Protocols.OpenAiResponses.Encoder

/-!
# The Messages encoder

The frames of a Messages stream and the aggregated message, both from the same canonical events. The
stream keeps no more than the kinds of the open blocks; the aggregate keeps the blocks by index, and
beside them the arguments and the signatures, which it writes into the blocks at the end.
-/

namespace RlyGateway

/-! ## Blocks -/

/-- What a content block holds. -/
inductive BlockBody where
  | text (text : String)
  | thinking (thinking : String) (signature : Option String)
  | redactedThinking
  | toolUse (id name : String)
deriving DecidableEq, Repr

/-- A content block of a message, with the input written to it. -/
structure MessageBlock where
  body : BlockBody
  input : Option Json
deriving DecidableEq, Repr

/-- The block as it is written. -/
def MessageBlock.toJson (block : MessageBlock) : Json :=
  match block.body with
  | .text text => Json.mkObj [("type", some (.str "text")), ("text", some (.str text)),
      ("input", block.input)]
  | .thinking thinking signature => Json.mkObj [("type", some (.str "thinking")),
      ("thinking", some (.str thinking)), ("input", block.input),
      ("signature", signature.map .str)]
  | .redactedThinking => Json.mkObj [("type", some (.str "redacted_thinking")),
      ("data", some (.str "")), ("input", block.input)]
  | .toolUse id name => Json.mkObj [("type", some (.str "tool_use")), ("id", some (.str id)),
      ("name", some (.str name)), ("input", block.input)]

/-- The block a content starts as. -/
def startedBlock (contentType : ContentType) (toolCallId toolName : Option String) :
    Except AnthropicProtocolError MessageBlock :=
  match contentType with
  | .text => .ok ⟨.text "", none⟩
  | .reasoning => .ok ⟨.thinking "" none, none⟩
  | .redactedReasoning => .ok ⟨.redactedThinking, none⟩
  | .toolCall =>
      if !nonEmpty toolCallId ∨ !nonEmpty toolName then
        .error ⟨"invalid_event", "Tool content requires an ID and name", 500⟩
      else .ok ⟨.toolUse (toolCallId.getD "") (toolName.getD ""), some (.obj [])⟩

/-! ## Frames -/

/-- A frame of the stream. -/
inductive AnthropicFrame where
  | messageStart (id model : String)
  | contentBlockStart (index : ℚ) (block : MessageBlock)
  | textDelta (index : ℚ) (text : String)
  | thinkingDelta (index : ℚ) (thinking : String)
  | signatureDelta (index : ℚ) (signature : String)
  | inputJsonDelta (index : ℚ) (partialJson : String)
  | contentBlockStop (index : ℚ)
  | usageDelta (inputTokens outputTokens : Option ℚ)
  | stopDelta (stopReason : String)
  | messageStop
  | error (code message : String)
deriving DecidableEq, Repr

/-- The data of a delta frame. -/
def blockDelta (index : ℚ) (kind name text : String) : String × Json :=
  ("content_block_delta", .obj [("type", .str "content_block_delta"), ("index", .num index),
    ("delta", .obj [("type", .str kind), (name, .str text)])])

/-- A frame as it is written: the name of the event and its data. -/
def AnthropicFrame.wire : AnthropicFrame → String × Json
  | .messageStart id model => ("message_start", .obj [("type", .str "message_start"),
      ("message", .obj [("id", .str id), ("type", .str "message"), ("role", .str "assistant"),
        ("content", .arr []), ("model", .str model), ("stop_reason", .null),
        ("stop_sequence", .null),
        ("usage", .obj [("input_tokens", .num 0), ("output_tokens", .num 0)])])])
  | .contentBlockStart index block => ("content_block_start",
      .obj [("type", .str "content_block_start"), ("index", .num index),
        ("content_block", block.toJson)])
  | .textDelta index text => blockDelta index "text_delta" "text" text
  | .thinkingDelta index thinking => blockDelta index "thinking_delta" "thinking" thinking
  | .signatureDelta index signature => blockDelta index "signature_delta" "signature" signature
  | .inputJsonDelta index partialJson =>
      blockDelta index "input_json_delta" "partial_json" partialJson
  | .contentBlockStop index => ("content_block_stop",
      .obj [("type", .str "content_block_stop"), ("index", .num index)])
  | .usageDelta inputTokens outputTokens => ("message_delta",
      .obj [("type", .str "message_delta"), ("delta", .obj []),
        ("usage", Json.mkObj [("input_tokens", inputTokens.map .num),
          ("output_tokens", outputTokens.map .num)])])
  | .stopDelta stopReason => ("message_delta", .obj [("type", .str "message_delta"),
      ("delta", .obj [("stop_reason", .str stopReason), ("stop_sequence", .null)]),
      ("usage", .obj [])])
  | .messageStop => ("message_stop", .obj [("type", .str "message_stop")])
  | .error code message => ("error", .obj [("type", .str "error"),
      ("error", .obj [("type", .str code), ("message", .str message)])])

/-- The state of the encoder: the last sequence number, the request, and the open blocks with their
kinds. -/
structure AnthropicEncodeContext where
  lastSequence : ℤ
  requestId : Option String
  openBlocks : OrderedMap ℚ ContentType

/-- The state before the first event. -/
def createAnthropicContext : AnthropicEncodeContext := ⟨-1, none, .empty⟩

/-- The checks on an event's sequence number and request. -/
def checkAnthropicProvenance (context : AnthropicEncodeContext) (item : CanonicalEvent) :
    Except AnthropicProtocolError Unit :=
  if item.sequence ≤ context.lastSequence then
    .error ⟨"invalid_event_sequence", "Canonical event sequence is not monotonic", 500⟩
  else if nonEmpty context.requestId ∧ context.requestId ≠ some item.requestId then
    .error ⟨"invalid_event_provenance", "Canonical events have mixed provenance", 500⟩
  else .ok ()

/-- The frames of what an event says, and the open blocks after it. -/
def encodeAnthropicPayload (openBlocks : OrderedMap ℚ ContentType) (modelId : String) :
    EventPayload →
      Except AnthropicProtocolError (List AnthropicFrame × OrderedMap ℚ ContentType)
  | .responseStarted responseId => .ok ([.messageStart responseId modelId], openBlocks)
  | .contentStarted index contentType toolCallId toolName _ => do
      let block ← startedBlock contentType toolCallId toolName
      return ([.contentBlockStart index block], openBlocks.set index contentType)
  | .textDelta index text => .ok ([.textDelta index text], openBlocks)
  | .reasoningDelta index text => .ok ([.thinkingDelta index text], openBlocks)
  | .signatureDelta index signature =>
      if openBlocks.get? index ≠ some .reasoning then
        .error ⟨"invalid_event_order",
          "Signature delta before content start or on a non-thinking block", 500⟩
      else .ok ([.signatureDelta index signature], openBlocks)
  | .toolArgumentsDelta index _ partialJson =>
      .ok ([.inputJsonDelta index partialJson], openBlocks)
  | .contentCompleted index =>
      if (openBlocks.get? index).isNone then
        .error ⟨"invalid_event_order", "Content completed before start", 500⟩
      else .ok ([.contentBlockStop index], openBlocks.erase index)
  | .usageUpdated inputTokens outputTokens =>
      .ok ([.usageDelta inputTokens outputTokens], openBlocks)
  | .responseCompleted stopReason => .ok ([.stopDelta stopReason, .messageStop], openBlocks)
  | .responseFailed code message => .ok ([.error code message], openBlocks)
  | .fidelityArtifacts _ => .ok ([], openBlocks)

/-- Encode one event. -/
def encodeAnthropicEvent (context : AnthropicEncodeContext) (item : CanonicalEvent) :
    Except AnthropicProtocolError (List AnthropicFrame × AnthropicEncodeContext) := do
  checkAnthropicProvenance context item
  let (frames, openBlocks) ← encodeAnthropicPayload context.openBlocks item.modelId item.payload
  return (frames, ⟨item.sequence, context.requestId.or (some item.requestId), openBlocks⟩)

/-- A response must not end with open content. -/
def assertAnthropicClosed (context : AnthropicEncodeContext) : Except AnthropicProtocolError Unit :=
  if 0 < context.openBlocks.size then
    .error ⟨"invalid_event_order", "Response ended with open content", 500⟩
  else .ok ()

/-- Push events one after the other. -/
def pushAnthropicAll (context : AnthropicEncodeContext) :
    List CanonicalEvent → Except AnthropicProtocolError (List AnthropicFrame × AnthropicEncodeContext)
  | [] => .ok ([], context)
  | item :: items => do
      let (frames, context) ← encodeAnthropicEvent context item
      let (rest, context) ← pushAnthropicAll context items
      return (frames ++ rest, context)

/-- The frames of a stream. -/
def encodeAnthropicEvents (events : List CanonicalEvent) :
    Except AnthropicProtocolError (List AnthropicFrame) := do
  let (frames, context) ← pushAnthropicAll createAnthropicContext events
  assertAnthropicClosed context
  return frames

/-! ## The aggregate -/

/-- The usage of a message, as far as it was reported. -/
structure MessageUsage where
  inputTokens : Option ℚ
  outputTokens : Option ℚ
deriving DecidableEq, Repr

/-- A usage with the reported counts of another one. -/
def MessageUsage.merge (usage : MessageUsage) (inputTokens outputTokens : Option ℚ) :
    MessageUsage :=
  ⟨inputTokens.or usage.inputTokens, outputTokens.or usage.outputTokens⟩

/-- A message as it is aggregated. -/
structure AggregatedMessage where
  id : String
  model : String
  content : List MessageBlock
  stopReason : Option String
  usage : MessageUsage
deriving DecidableEq, Repr

/-- The message as it is written. -/
def AggregatedMessage.toJson (message : AggregatedMessage) : Json :=
  .obj [("id", .str message.id), ("type", .str "message"), ("role", .str "assistant"),
    ("content", .arr (message.content.map MessageBlock.toJson)), ("model", .str message.model),
    ("stop_reason", message.stopReason.elim .null .str), ("stop_sequence", .null),
    ("usage", Json.mkObj [("input_tokens", message.usage.inputTokens.map .num),
      ("output_tokens", message.usage.outputTokens.map .num)])]

/-- The aggregate of the events seen so far. -/
structure MessageContext where
  blocks : OrderedMap ℚ MessageBlock
  toolJson : OrderedMap ℚ String
  signatures : OrderedMap ℚ String
  responseId : String
  model : String
  stopReason : Option String
  usage : MessageUsage

/-- The aggregate of no events. -/
def createMessageContext : MessageContext :=
  ⟨.empty, .empty, .empty, "msg_unknown", "unknown", none, ⟨none, none⟩⟩

/-- Append to a text block. -/
def MessageBlock.appendText (block : MessageBlock) (text : String) : MessageBlock :=
  match block.body with
  | .text old => { block with body := .text (old ++ text) }
  | _ => block

/-- Append to a thinking block. -/
def MessageBlock.appendThinking (block : MessageBlock) (text : String) : MessageBlock :=
  match block.body with
  | .thinking old signature => { block with body := .thinking (old ++ text) signature }
  | _ => block

/-- Write the input of a block, whatever its kind. -/
def MessageBlock.setInput (block : MessageBlock) (text : String) : MessageBlock :=
  { block with input := Json.parse text }

/-- Write the signature of a thinking block. -/
def MessageBlock.setSignature (block : MessageBlock) (signature : String) : MessageBlock :=
  match block.body with
  | .thinking thinking _ => { block with body := .thinking thinking (some signature) }
  | _ => block

/-- The aggregate after an event. -/
def applyMessage (context : MessageContext) (item : CanonicalEvent) :
    Except AnthropicProtocolError MessageContext :=
  match item.payload with
  | .responseStarted responseId => .ok { context with responseId, model := item.modelId }
  | .contentStarted index contentType toolCallId toolName _ => do
      let block ← startedBlock contentType toolCallId toolName
      return { context with blocks := context.blocks.set index block }
  | .textDelta index text =>
      .ok { context with blocks :=
        context.blocks.updateOne MessageBlock.appendText (index, text) }
  | .reasoningDelta index text =>
      .ok { context with blocks :=
        context.blocks.updateOne MessageBlock.appendThinking (index, text) }
  | .signatureDelta index signature =>
      .ok { context with signatures := context.signatures.set index signature }
  | .toolArgumentsDelta index _ partialJson =>
      .ok { context with toolJson := appendDelta context.toolJson index partialJson }
  | .usageUpdated inputTokens outputTokens =>
      .ok { context with usage := context.usage.merge inputTokens outputTokens }
  | .responseCompleted stopReason => .ok { context with stopReason := some stopReason }
  | .responseFailed code message => .error ⟨code, message, 502⟩
  | .contentCompleted _ | .fidelityArtifacts _ => .ok context

/-- The aggregate of a history. -/
def applyMessages (context : MessageContext) :
    List CanonicalEvent → Except AnthropicProtocolError MessageContext
  | [] => .ok context
  | item :: items => do
      let context ← applyMessage context item
      applyMessages context items

/-- The arguments of an index are valid JSON, if there is a block to write them to. -/
def validInput (blocks : OrderedMap ℚ MessageBlock) (entry : ℚ × String) : Bool :=
  (blocks.get? entry.1).isNone ∨ (Json.parse entry.2).isSome

/-- The blocks with the arguments and the signatures written into them. -/
def finalizeBlocks (context : MessageContext) : OrderedMap ℚ MessageBlock :=
  let blocks := context.blocks.updateEach MessageBlock.setInput context.toolJson
  blocks.updateEach MessageBlock.setSignature context.signatures

/-- The message an aggregate makes. -/
def finalizeMessage (context : MessageContext) : Except AnthropicProtocolError AggregatedMessage :=
  if context.toolJson.entries.all (validInput context.blocks) then
    .ok ⟨context.responseId, context.model, (finalizeBlocks context).sortedValues,
      context.stopReason, context.usage⟩
  else .error ⟨"invalid_tool_arguments", "Tool argument deltas are not valid JSON", 502⟩

/-- The batch message. -/
def aggregateAnthropicEvents (events : List CanonicalEvent) :
    Except AnthropicProtocolError AggregatedMessage := do
  let _ ← encodeAnthropicEvents events
  let context ← applyMessages createMessageContext events
  finalizeMessage context

end RlyGateway
