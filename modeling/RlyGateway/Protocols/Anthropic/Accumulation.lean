import RlyGateway.Core.ContentBlocks
import RlyGateway.Library.Fallible
import RlyGateway.Protocols.Anthropic.Encoder

/-!
# What a client makes of a Messages stream

A client builds a message from the frames: it appends the deltas of a block while that is open,
reads the arguments of a tool block as JSON, keeps the last signature and merges the usage. The
aggregate builds a message from the events. The encoder checks only signatures against the open
blocks, so the two agree exactly where every delta fits an open block, where the arguments are read
alike, and where the zero counts of a start are replaced.
-/

namespace RlyGateway

/-! ## The client -/

/-- A block a client is building. -/
structure StreamedBlock where
  body : BlockBody
  partialJson : String
  isOpen : Bool
deriving DecidableEq, Repr

/-- A message a client is building. -/
structure StreamedMessage where
  id : String
  model : String
  blocks : OrderedMap ℚ StreamedBlock
  stopReason : Option String
  usage : MessageUsage

/-- The message of no frames. -/
def StreamedMessage.initial : StreamedMessage :=
  ⟨"msg_unknown", "unknown", .empty, none, ⟨none, none⟩⟩

/-- Append a text to a text block. -/
def StreamedBlock.appendText (block : StreamedBlock) (text : String) : Option StreamedBlock :=
  match block.body with
  | .text old => some { block with body := .text (old ++ text) }
  | _ => none

/-- Append a text to a thinking block. -/
def StreamedBlock.appendThinking (block : StreamedBlock) (text : String) : Option StreamedBlock :=
  match block.body with
  | .thinking old signature => some { block with body := .thinking (old ++ text) signature }
  | _ => none

/-- Keep the signature of a thinking block. -/
def StreamedBlock.keepSignature (block : StreamedBlock) (signature : String) :
    Option StreamedBlock :=
  match block.body with
  | .thinking thinking _ => some { block with body := .thinking thinking (some signature) }
  | _ => none

/-- Append to the arguments of a tool block. -/
def StreamedBlock.appendJson (block : StreamedBlock) (partialJson : String) :
    Option StreamedBlock :=
  match block.body with
  | .toolUse _ _ => some { block with partialJson := block.partialJson ++ partialJson }
  | _ => none

/-- A delta of the block that is open at an index. There must be one, and the delta must fit it. -/
def StreamedMessage.delta (message : StreamedMessage) (index : ℚ)
    (write : StreamedBlock → Option StreamedBlock) : Option StreamedMessage := do
  let block ← message.blocks.get? index
  let block ← if block.isOpen then write block else none
  return { message with blocks := message.blocks.set index block }

/-- The message after a frame, if the frame is valid. -/
def accumulate (message : StreamedMessage) : AnthropicFrame → Option StreamedMessage
  | .messageStart id model => some { message with id, model, usage := ⟨some 0, some 0⟩ }
  | .contentBlockStart index block =>
      some { message with blocks := message.blocks.set index ⟨block.body, "", true⟩ }
  | .textDelta index text => message.delta index (·.appendText text)
  | .thinkingDelta index thinking => message.delta index (·.appendThinking thinking)
  | .signatureDelta index signature => message.delta index (·.keepSignature signature)
  | .inputJsonDelta index partialJson => message.delta index (·.appendJson partialJson)
  | .contentBlockStop index =>
      some { message with blocks :=
        message.blocks.updateOne (fun block _ => { block with isOpen := false }) (index, ()) }
  | .usageDelta inputTokens outputTokens =>
      some { message with usage := message.usage.merge inputTokens outputTokens }
  | .stopDelta stopReason => some { message with stopReason := some stopReason }
  | .messageStop => some message
  | .error _ _ => none

/-- The message after frames, if they are valid. -/
def accumulateAll (message : StreamedMessage) : List AnthropicFrame → Option StreamedMessage
  | [] => some message
  | frame :: frames => (accumulate message frame).bind fun message => accumulateAll message frames

/-- The input that arguments stand for: without a text it is the empty object. -/
def toolInput (partialJson : String) : Option Json :=
  if partialJson = "" then some (.obj []) else Json.parse partialJson

/-- The finished block. The arguments of a tool block must be JSON. -/
def StreamedBlock.finish (block : StreamedBlock) : Option MessageBlock :=
  match block.body with
  | .toolUse _ _ => (toolInput block.partialJson).map fun input => ⟨block.body, some input⟩
  | _ => some ⟨block.body, none⟩

/-- The content of the finished message. -/
def StreamedMessage.content (message : StreamedMessage) : Option (List MessageBlock) :=
  message.blocks.sortedValues.mapM StreamedBlock.finish

/-- The frames of the events are a valid stream, the aggregate does not throw, and a client that
folds the frames gets the content, the stop reason and the usage of the aggregate. -/
def StreamAgreesWithBatch (events : List CanonicalEvent) : Prop :=
  ∃ frames streamed message,
    encodeAnthropicEvents events = .ok frames ∧
    accumulateAll .initial frames = some streamed ∧
    aggregateAnthropicEvents events = .ok message ∧
    streamed.content = some message.content ∧
    streamed.stopReason = message.stopReason ∧ streamed.usage = message.usage

/-! ## When they agree -/

/-- The block a delta of the Messages stream is for. -/
def messagesTarget? : EventPayload → Option (ℚ × List ContentType)
  | .textDelta index _ => some (index, [.text])
  | .reasoningDelta index _ => some (index, [.reasoning])
  | .signatureDelta index _ => some (index, [.reasoning])
  | .toolArgumentsDelta index _ _ => some (index, [.toolCall])
  | _ => none

/-- The input tokens an event reports. -/
def inputTokens? : EventPayload → Option ℚ
  | .usageUpdated inputTokens _ => inputTokens
  | _ => none

/-- The output tokens an event reports. -/
def outputTokens? : EventPayload → Option ℚ
  | .usageUpdated _ outputTokens => outputTokens
  | _ => none

/-- A token count is reported after every start of the response, unless it was zero before. -/
def ReportedAfterStarts (tokens? : EventPayload → Option ℚ) (payloads : List EventPayload) : Prop :=
  ∀ before payload after, payloads = before ++ payload :: after → isResponseStarted payload →
    (after.latest? tokens?).isSome ∨ before.latest? tokens? = some 0

/-- The events under which stream and aggregate agree: every delta fits the block that is open at
its index; where an index has arguments, its last block is a tool block, all of them together are
JSON, and those of the last block alone stand for the same value; a thinking block at an index that
had a signature has one of its own; and every start is followed by both token counts. -/
structure Coherent (payloads : List EventPayload) : Prop where
  targeted : Targeted messagesTarget? payloads
  arguments : ∀ index, payloads.filterMap (argumentsOf? index) ≠ [] →
    lastKind index payloads = some .toolCall ∧
      ∃ input, Json.parse (joined (argumentsOf? index) payloads) = some input ∧
        toolInput (joined (argumentsOf? index) (sinceStart index payloads)) = some input
  signatures : ∀ index, lastKind index payloads = some .reasoning →
    payloads.filterMap (signatureOf? index) ≠ [] →
      (sinceStart index payloads).filterMap (signatureOf? index) ≠ []
  inputTokens : ReportedAfterStarts inputTokens? payloads
  outputTokens : ReportedAfterStarts outputTokens? payloads

end RlyGateway
