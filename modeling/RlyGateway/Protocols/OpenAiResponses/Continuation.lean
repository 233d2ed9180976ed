import Mathlib.Logic.Function.Basic
import RlyGateway.Protocols.OpenAiResponses.Encoder

/-!
# Stored responses

The responses kept for continuation. A continued request gets the messages of the stored response it
names in front of its own, and a response is stored with the messages of its request and of its
output.
-/

namespace RlyGateway

/-- A stored response. -/
structure StoredResponse where
  id : String
  createdAt : String
  model : String
  messages : List CanonicalMessage
  fidelity : Option FidelityEnvelope

/-- The stored responses, by the id their file is named after. -/
abbrev ResponseContinuationStore := String → Option StoredResponse

/-! ## Messages of an output -/

/-- The text of a part. -/
def textField (value : Json) : Option String := value.strField? "text"

/-- The call id of a function call. -/
def outputCallId (item : Json) : String :=
  ((item.strField? "call_id").or (item.strField? "id")).getD "tool"

/-- The texts of a message. -/
def outputMessageTexts (item : Json) : List String :=
  (((item.field? "content").bind Json.arr?).getD []).filterMap textField

/-- The summary of a reasoning item; a part without a text counts as an empty one. -/
def outputSummary (item : Json) : String :=
  String.intercalate "\n" ((((item.field? "summary").bind Json.arr?).getD []).map fun part =>
    (textField part).getD "")

/-- The types of output items that are stored. -/
inductive OutputItemKind where
  | message
  | functionCall
  | reasoning
  | other
deriving DecidableEq, Repr

/-- The type of an output item. -/
def outputItemKind (item : Json) : OutputItemKind :=
  match item.strField? "type" with
  | some "message" => .message
  | some "function_call" => .functionCall
  | some "reasoning" => .reasoning
  | _ => .other

/-- The messages of an output item; an item of another type has none. -/
def messageFromOutput (item : Json) : List CanonicalMessage :=
  match outputItemKind item with
  | .message =>
      let texts := outputMessageTexts item
      if texts = [] then [] else [⟨.assistant, texts.map .text⟩]
  | .functionCall =>
      let input := ((item.strField? "arguments").map parseJsonOrRaw).getD (.obj [])
      let name := (item.strField? "name").getD "unknown"
      [⟨.assistant, [.toolCall (outputCallId item) name (some input)]⟩]
  | .reasoning => [⟨.assistant, [.reasoning (outputSummary item) (item.strField? "id")]⟩]
  | .other => []

/-- The messages of an output. -/
def messagesFromOutput (output : List Json) : List CanonicalMessage :=
  output.flatMap messageFromOutput

/-- The artifact of a reasoning item with an id and encrypted content. -/
def artifactFromOutput? (item : Json) : Option OpaqueArtifact :=
  if outputItemKind item = .reasoning then do
    let itemId ← item.strField? "id"
    let encrypted ← (item.strField? "encrypted_content").filter (· ≠ "")
    some ⟨.openaiReasoningEncryptedContent, itemId, encrypted⟩
  else none

/-- The artifacts of an output. -/
def artifactsFromAggregated (output : List Json) : List OpaqueArtifact :=
  output.filterMap artifactFromOutput?

/-- The envelope to store with a response. -/
def fidelityForStorage (request : CanonicalRequest) (output : List Json) :
    Option FidelityEnvelope :=
  let providerArtifacts := artifactsFromAggregated output
  if providerArtifacts = [] then request.fidelity
  else mergeFidelity request.fidelity
    (some (withArtifacts (emptyFidelityEnvelope .openaiResponses none) providerArtifacts))

/-! ## The store -/

/-- A character of a stored id. -/
def isIdChar (c : Char) : Bool := c.isAlphanum ∨ c = '_' ∨ c = '-'

/-- Whether a file holds a stored response; the texts of one are not empty. -/
def StoredResponse.isValid (stored : StoredResponse) : Bool :=
  stored.id ≠ "" ∧ stored.createdAt ≠ "" ∧ stored.model ≠ ""

/-- Check that an id names a file of the store. -/
def fileFor (id : String) : Except ResponsesProtocolError Unit :=
  if id ≠ "" ∧ id.toList.all isIdChar then .ok ()
  else .error ⟨"invalid_request_error", "previous_response_id is not a stored response id", 400⟩

namespace ResponseContinuationStore

/-- Read a response; a file that holds none reads as if it was not there. -/
def get (store : ResponseContinuationStore) (id : String) :
    Except ResponsesProtocolError (Option StoredResponse) := do
  fileFor id
  .ok ((store id).filter StoredResponse.isValid)

/-- Write a response. -/
def put (store : ResponseContinuationStore) (record : StoredResponse) :
    Except ResponsesProtocolError ResponseContinuationStore := do
  fileFor record.id
  .ok (Function.update store record.id (some record))

/-- Continue a request from the response it names. -/
def apply (store : ResponseContinuationStore) (request : CanonicalRequest) :
    Except ResponsesProtocolError CanonicalRequest :=
  match request.previousResponseId with
  | none => .ok request
  | some previousId => do
      match ← get store previousId with
      | none => .error ⟨"compatibility_unready", "previous_response_id is unknown or expired", 409⟩
      | some previous => .ok { request with
          messages := previous.messages ++ request.messages
          input := previous.messages.flatMap (·.content) ++ request.input
          fidelity := mergeFidelity previous.fidelity request.fidelity }

/-- Store a response under its id. -/
def rememberAggregated (store : ResponseContinuationStore) (request : CanonicalRequest)
    (id model : String) (output : List Json) (createdAt : String) :
    Except ResponsesProtocolError (StoredResponse × ResponseContinuationStore) := do
  let stored : StoredResponse := ⟨id, createdAt, model,
    request.messages ++ messagesFromOutput output, fidelityForStorage request output⟩
  let store ← put store stored
  .ok (stored, store)

/-- Store the response of a history that has started and is completed. -/
def remember (store : ResponseContinuationStore) (request : CanonicalRequest)
    (events : List CanonicalEvent) (createdAt : String) :
    Except ResponsesProtocolError (Option StoredResponse × ResponseContinuationStore) :=
  if events.any (fun item => isResponseStarted item.payload) ∧
      events.any (fun item => isTerminal item.payload) then do
    let aggregated ← aggregateResponsesEvents events
    let (stored, store) ← rememberAggregated store request aggregated.id aggregated.model
      (aggregated.output.map OutputItem.toJson) createdAt
    .ok (some stored, store)
  else .ok (none, store)

end ResponseContinuationStore

/-! ## Reading a response back -/

/-- An output item of a response that is read back. -/
inductive ReadBackItem where
  | message (text : String)
  | functionCall (callId name : String) (input : Option Json)
  | reasoning (id : Option String) (text : String) (encryptedContent : Option String)
deriving DecidableEq, Repr

/-- The item as it is written. -/
def ReadBackItem.toJson : ReadBackItem → Json
  | .message text => .obj [("type", .str "message"), ("role", .str "assistant"),
      ("content", .arr [.obj [("type", .str "output_text"), ("text", .str text)]])]
  | .functionCall callId name input => Json.mkObj [("type", some (.str "function_call")),
      ("call_id", some (.str callId)), ("name", some (.str name)),
      ("arguments", input.map fun input => .str (Json.stringify input))]
  | .reasoning id text encryptedContent => Json.mkObj [("type", some (.str "reasoning")),
      ("id", id.map .str),
      ("summary", some (.arr [.obj [("type", .str "summary_text"), ("text", .str text)]])),
      ("encrypted_content", encryptedContent.map .str)]

/-- The output item of a piece of content. -/
def readBackItem? (fidelity : Option FidelityEnvelope) : CanonicalContent → Option ReadBackItem
  | .text text => some (.message text)
  | .toolCall id name input => some (.functionCall id name input)
  | .reasoning text id => some (.reasoning id text
      (artifactValue fidelity .openaiReasoningEncryptedContent (id.getD "reasoning-item")))
  | _ => none

/-- The output of a stored response: the content of all its assistant messages. -/
def StoredResponse.output (stored : StoredResponse) : List ReadBackItem :=
  stored.messages.flatMap fun message =>
    if message.role = .assistant then message.content.filterMap (readBackItem? stored.fidelity)
    else []

/-- The response object of an id, a model and an output. -/
def readBackObject (id model : String) (output : List ReadBackItem) : Json :=
  .obj [("id", .str id), ("object", .str "response"), ("status", .str "completed"),
    ("model", .str model), ("output", .arr (output.map ReadBackItem.toJson))]

/-- The response object of a stored response. -/
def toResponsesObject (stored : StoredResponse) : Json :=
  readBackObject stored.id stored.model stored.output

end RlyGateway
