import Mathlib.Algebra.Order.Ring.Unbundled.Rat
import RlyGateway.Core.ResponseStream
import RlyGateway.Library.MapUpdate
import RlyGateway.Protocols.OpenAiResponses.Decoder

/-!
# The Responses encoder

The frames of a Responses stream and the aggregated response, both from the same canonical events.
The encoder keeps the aggregate of what it has seen and finalizes it when the response completes;
the batch aggregate folds the whole history and finalizes it once. Finalizing writes into the items,
so the items of an encoder stay finalized afterwards.
-/

namespace RlyGateway

/-! ## Items -/

/-- An item of the output. A message without a text is in progress. -/
inductive OutputItem where
  | message (id : String) (text : Option String)
  | reasoning (id : String) (summary encryptedContent : Option String)
  | functionCall (id callId name arguments : String)
deriving DecidableEq, Repr

/-- The item as it is written. -/
def OutputItem.toJson : OutputItem → Json
  | .message id text => .obj [("type", .str "message"), ("id", .str id),
      ("role", .str "assistant"),
      ("status", .str (if text.isSome then "completed" else "in_progress")),
      ("content", .arr (text.elim [] fun text =>
        [.obj [("type", .str "output_text"), ("text", .str text)]]))]
  | .reasoning id summary encryptedContent => Json.mkObj [("type", some (.str "reasoning")),
      ("id", some (.str id)),
      ("summary", some (.arr (summary.elim [] fun text =>
        [.obj [("type", .str "summary_text"), ("text", .str text)]]))),
      ("encrypted_content", encryptedContent.map .str)]
  | .functionCall id callId name arguments => .obj [("type", .str "function_call"),
      ("id", .str id), ("call_id", .str callId), ("name", .str name),
      ("arguments", .str arguments)]

/-- The local id of an item. -/
def itemId (index : ℚ) (kind : String) : String := kind ++ "_" ++ Json.numberText index

/-- Whether an optional text is present and not empty. -/
def nonEmpty (text : Option String) : Bool := text.any (· ≠ "")

/-- The item a content starts as. -/
def startItem (index : ℚ) (contentType : ContentType)
    (toolCallId toolName providerId : Option String) :
    Except ResponsesProtocolError OutputItem :=
  match contentType with
  | .text => .ok (.message (providerId.getD (itemId index "msg")) none)
  | .reasoning | .redactedReasoning =>
      .ok (.reasoning (providerId.getD (itemId index "rs")) none none)
  | .toolCall =>
      if !nonEmpty toolCallId ∨ !nonEmpty toolName then
        .error ⟨"invalid_event", "Function call content requires an ID and name", 500⟩
      else .ok (.functionCall (providerId.getD (itemId index "fc")) (toolCallId.getD "")
        (toolName.getD "") "")

/-! ## The aggregate -/

/-- The usage of a response. -/
structure Usage where
  inputTokens : ℚ
  outputTokens : ℚ
deriving DecidableEq, Repr

/-- The aggregate of the events seen so far. -/
structure AggregateContext where
  items : OrderedMap ℚ OutputItem
  toolJson : OrderedMap ℚ String
  text : OrderedMap ℚ String
  reasoning : OrderedMap ℚ String
  responseId : String
  model : String
  usage : Usage
  artifacts : List OpaqueArtifact

/-- The aggregate of no events. -/
def createAggregateContext : AggregateContext :=
  ⟨.empty, .empty, .empty, .empty, "resp_unknown", "unknown", ⟨0, 0⟩, []⟩

/-- Append to the text of an index. -/
def appendDelta (texts : OrderedMap ℚ String) (index : ℚ) (delta : String) :
    OrderedMap ℚ String :=
  texts.set index ((texts.get? index).getD "" ++ delta)

/-- The aggregate after an event. -/
def applyAggregate (context : AggregateContext) (item : CanonicalEvent) :
    Except ResponsesProtocolError AggregateContext :=
  match item.payload with
  | .responseStarted responseId => .ok { context with responseId, model := item.modelId }
  | .contentStarted index contentType toolCallId toolName providerId => do
      let started ← startItem index contentType toolCallId toolName providerId
      return { context with items := context.items.set index started }
  | .textDelta index text => .ok { context with text := appendDelta context.text index text }
  | .reasoningDelta index text =>
      .ok { context with reasoning := appendDelta context.reasoning index text }
  | .toolArgumentsDelta index _ partialJson =>
      .ok { context with toolJson := appendDelta context.toolJson index partialJson }
  | .usageUpdated inputTokens outputTokens =>
      .ok { context with usage := ⟨inputTokens.getD 0, outputTokens.getD 0⟩ }
  | .fidelityArtifacts artifacts =>
      .ok { context with artifacts := context.artifacts ++ artifacts }
  | _ => .ok context

/-- Write the text of a message. -/
def OutputItem.setText : OutputItem → String → OutputItem
  | .message id _, text => .message id (some text)
  | item, _ => item

/-- Write the summary of a reasoning item. -/
def OutputItem.setSummary : OutputItem → String → OutputItem
  | .reasoning id _ encryptedContent, text => .reasoning id (some text) encryptedContent
  | item, _ => item

/-- Write the arguments of a function call. -/
def OutputItem.setArguments : OutputItem → String → OutputItem
  | .functionCall id callId name _, arguments => .functionCall id callId name arguments
  | item, _ => item

/-- The encrypted content kept for a reasoning item. -/
def encryptedContent? (artifacts : List OpaqueArtifact) (id : String) : Option String :=
  artifactValue (some ⟨.openaiResponses, none, artifacts, [], []⟩) .openaiReasoningEncryptedContent
    id

/-- Attach the encrypted content to the reasoning item it belongs to. -/
def OutputItem.attach (artifacts : List OpaqueArtifact) : OutputItem → OutputItem
  | .reasoning id summary old => .reasoning id summary ((encryptedContent? artifacts id).or old)
  | item => item

/-- The items with everything written into them. -/
def finalizeItems (context : AggregateContext) : OrderedMap ℚ OutputItem :=
  let items := context.items.updateEach OutputItem.setText context.text
  let items := items.updateEach OutputItem.setSummary context.reasoning
  let items := items.mapValues (OutputItem.attach context.artifacts)
  items.updateEach OutputItem.setArguments context.toolJson

/-- Whether the arguments of an index are valid JSON, if a function call has them. -/
def validArguments (items : OrderedMap ℚ OutputItem) (entry : ℚ × String) : Bool :=
  match items.get? entry.1 with
  | some (.functionCall _ _ _ _) => (Json.parse entry.2).isSome
  | _ => true

/-- A response as it is aggregated. -/
structure AggregatedResponse where
  id : String
  model : String
  output : List OutputItem
  usage : Usage
deriving DecidableEq, Repr

/-- The response object as it is written. -/
def AggregatedResponse.toJson (response : AggregatedResponse) : Json :=
  .obj [("id", .str response.id), ("object", .str "response"), ("status", .str "completed"),
    ("model", .str response.model), ("output", .arr (response.output.map OutputItem.toJson)),
    ("usage", .obj [("input_tokens", .num response.usage.inputTokens),
      ("output_tokens", .num response.usage.outputTokens)])]

/-- Finalize an aggregate: the response, and the aggregate with its items written. -/
def finalizeAggregate (context : AggregateContext) :
    Except ResponsesProtocolError (AggregatedResponse × AggregateContext) :=
  if context.toolJson.entries.all (validArguments context.items) then
    let items := finalizeItems context
    .ok (⟨context.responseId, context.model, items.sortedValues, context.usage⟩,
      { context with items })
  else
    .error ⟨"invalid_tool_arguments", "Function argument deltas are not valid JSON", 502⟩

/-! ## Frames -/

/-- A frame of the stream. -/
inductive ResponsesFrame where
  | created (responseId model : String)
  | inProgress (responseId model : String)
  | outputItemAdded (index : ℚ) (item : OutputItem)
  | contentPartAdded (index : ℚ)
  | outputTextDelta (index : ℚ) (delta : String)
  | reasoningSummaryTextDelta (index : ℚ) (delta : String)
  | functionCallArgumentsDelta (index : ℚ) (delta : String)
  | outputItemDone (index : ℚ)
  | completed (response : AggregatedResponse)
  | failed (responseId code message : String)
deriving DecidableEq, Repr

/-- The response object before there is output. -/
def responseRecord (id model status : String) : Json :=
  .obj [("id", .str id), ("object", .str "response"), ("status", .str status),
    ("model", .str model), ("output", .arr []),
    ("usage", .obj [("input_tokens", .num 0), ("output_tokens", .num 0)])]

/-- A frame as it is written: the name of the event and its data. -/
def ResponsesFrame.wire : ResponsesFrame → String × Json
  | .created responseId model => ("response.created", .obj [("type", .str "response.created"),
      ("response", responseRecord responseId model "in_progress")])
  | .inProgress responseId model => ("response.in_progress",
      .obj [("type", .str "response.in_progress"),
        ("response", responseRecord responseId model "in_progress")])
  | .outputItemAdded index item => ("response.output_item.added",
      .obj [("type", .str "response.output_item.added"), ("output_index", .num index),
        ("item", item.toJson)])
  | .contentPartAdded index => ("response.content_part.added",
      .obj [("type", .str "response.content_part.added"), ("output_index", .num index),
        ("content_index", .num 0),
        ("part", .obj [("type", .str "output_text"), ("text", .str "")])])
  | .outputTextDelta index delta => ("response.output_text.delta",
      .obj [("type", .str "response.output_text.delta"), ("output_index", .num index),
        ("content_index", .num 0), ("delta", .str delta)])
  | .reasoningSummaryTextDelta index delta => ("response.reasoning_summary_text.delta",
      .obj [("type", .str "response.reasoning_summary_text.delta"), ("output_index", .num index),
        ("delta", .str delta)])
  | .functionCallArgumentsDelta index delta => ("response.function_call_arguments.delta",
      .obj [("type", .str "response.function_call_arguments.delta"), ("output_index", .num index),
        ("delta", .str delta)])
  | .outputItemDone index => ("response.output_item.done",
      .obj [("type", .str "response.output_item.done"), ("output_index", .num index)])
  | .completed response => ("response.completed", .obj [("type", .str "response.completed"),
      ("response", response.toJson)])
  | .failed responseId code message => ("response.failed", .obj [("type", .str "response.failed"),
      ("response", .obj [("id", .str responseId), ("object", .str "response"),
        ("status", .str "failed"),
        ("error", .obj [("code", .str code), ("message", .str message)])])])

/-- The terminal state of a stream. -/
inductive StreamStatus where
  | idle
  | completed
  | failed
deriving DecidableEq, Repr

/-- The state of the encoder. -/
structure EncodeContext where
  lastSequence : ℤ
  requestId : Option String
  openIndexes : OrderedSet ℚ
  aggregate : AggregateContext
  status : StreamStatus

/-- The state before the first event. -/
def createContext : EncodeContext := ⟨-1, none, .empty, createAggregateContext, .idle⟩

/-- The checks on an event's sequence number and request. -/
def checkProvenance (context : EncodeContext) (item : CanonicalEvent) :
    Except ResponsesProtocolError Unit :=
  if item.sequence ≤ context.lastSequence then
    .error ⟨"invalid_event_sequence", "Canonical event sequence is not monotonic", 500⟩
  else if nonEmpty context.requestId ∧ context.requestId ≠ some item.requestId then
    .error ⟨"invalid_event_provenance", "Canonical events have mixed provenance", 500⟩
  else .ok ()

/-- The frames of an event, and the state after it, once it is checked and aggregated. -/
def encodePayload (context : EncodeContext) :
    EventPayload → Except ResponsesProtocolError (List ResponsesFrame × EncodeContext)
  | .responseStarted _ => .ok ([
      .created context.aggregate.responseId context.aggregate.model,
      .inProgress context.aggregate.responseId context.aggregate.model], context)
  | .contentStarted index contentType toolCallId toolName providerId => do
      let started ← startItem index contentType toolCallId toolName providerId
      return (.outputItemAdded index started ::
        (if contentType = .text then [.contentPartAdded index] else []),
        { context with openIndexes := context.openIndexes.add index })
  | .textDelta index text => .ok ([.outputTextDelta index text], context)
  | .reasoningDelta index text => .ok ([.reasoningSummaryTextDelta index text], context)
  | .toolArgumentsDelta index _ partialJson =>
      .ok ([.functionCallArgumentsDelta index partialJson], context)
  | .contentCompleted index =>
      if index ∈ context.openIndexes then
        .ok ([.outputItemDone index],
          { context with openIndexes := context.openIndexes.delete index })
      else .error ⟨"invalid_event_order", "Content completed before start", 500⟩
  | .responseCompleted _ => do
      let (response, aggregate) ← finalizeAggregate context.aggregate
      return ([.completed response], { context with aggregate, status := .completed })
  | .responseFailed code message =>
      .ok ([.failed context.aggregate.responseId code message], { context with status := .failed })
  | .usageUpdated _ _ | .signatureDelta _ _ | .fidelityArtifacts _ => .ok ([], context)

/-- Encode one event. -/
def encodeResponsesEvent (context : EncodeContext) (item : CanonicalEvent) :
    Except ResponsesProtocolError (List ResponsesFrame × EncodeContext) := do
  checkProvenance context item
  let aggregate ← applyAggregate context.aggregate item
  encodePayload { context with
    requestId := context.requestId.or (some item.requestId)
    lastSequence := item.sequence
    aggregate } item.payload

/-- A response must not end with open content. -/
def assertClosed (context : EncodeContext) : Except ResponsesProtocolError Unit :=
  if 0 < context.openIndexes.size then
    .error ⟨"invalid_event_order", "Response ended with open content", 500⟩
  else .ok ()

/-! ## Whole streams -/

/-- Push events one after the other. -/
def pushAll (context : EncodeContext) :
    List CanonicalEvent → Except ResponsesProtocolError (List ResponsesFrame × EncodeContext)
  | [] => .ok ([], context)
  | item :: items => do
      let (frames, context) ← encodeResponsesEvent context item
      let (rest, context) ← pushAll context items
      return (frames ++ rest, context)

/-- The frames of a stream. -/
def encodeResponsesEvents (events : List CanonicalEvent) :
    Except ResponsesProtocolError (List ResponsesFrame) := do
  let (frames, context) ← pushAll createContext events
  assertClosed context
  return frames

/-- The aggregate of a history. -/
def aggregateAll (context : AggregateContext) :
    List CanonicalEvent → Except ResponsesProtocolError AggregateContext
  | [] => .ok context
  | item :: items => do
      let context ← applyAggregate context item
      aggregateAll context items

/-- The response of a history, finalized once. -/
def outputFromEvents (events : List CanonicalEvent) :
    Except ResponsesProtocolError AggregatedResponse := do
  let context ← aggregateAll createAggregateContext events
  let (response, _) ← finalizeAggregate context
  return response

/-- The first failure of a history. -/
def firstFailure (events : List CanonicalEvent) : Option (String × String) :=
  events.findSome? fun item =>
    match item.payload with
    | .responseFailed code message => some (code, message)
    | _ => none

/-- The batch response. -/
def aggregateResponsesEvents (events : List CanonicalEvent) :
    Except ResponsesProtocolError AggregatedResponse := do
  let _ ← encodeResponsesEvents events
  match firstFailure events with
  | some (code, message) => .error ⟨code, message, 502⟩
  | none => outputFromEvents events

/-- What `aggregate()` gives after a stream was pushed. -/
def incrementalAggregate (events : List CanonicalEvent) :
    Except ResponsesProtocolError AggregatedResponse := do
  let (_, context) ← pushAll createContext events
  let (response, _) ← finalizeAggregate context.aggregate
  return response

end RlyGateway
