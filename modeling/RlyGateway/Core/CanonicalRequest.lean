import RlyGateway.Core.Fidelity
import RlyGateway.Core.Reasoning
import RlyGateway.Core.Runtime
import RlyGateway.Library.InOrder

/-!
# Canonical requests

The provider-neutral request that protocol decoders build and adapters translate, and what a client
said in it: the texts, images, tool calls and tool results of its conversation, in order.
-/

namespace RlyGateway

variable (runtime : NodeRuntime)

/-! ## Headers -/

/-- The value of a request header. -/
inductive HeaderValue where
  | single (text : String)
  | many (texts : List String)
deriving DecidableEq, Repr

/-- The headers of a request. -/
abbrev Headers := List (String × HeaderValue)

/-- `headers[name]`. -/
def Headers.get? (headers : Headers) (name : String) : Option HeaderValue :=
  (headers.find? fun header => header.1 = name).map (·.2)

/-- A header that is one string. -/
def Headers.text? (headers : Headers) (name : String) : Option String :=
  match headers.get? name with
  | some (.single text) => some text
  | _ => none

/-- The first text of a value that is not empty. -/
def HeaderValue.nonEmpty? : HeaderValue → Option String
  | .single text => if text = "" then none else some text
  | .many texts => texts.find? (· ≠ "")

/-- A header's first text; a header of another case counts if there is none of the exact name. -/
def singleValue (headers : Headers) (name : String) : Option String :=
  match headers.get? name with
  | some value => value.nonEmpty?
  | none => (headers.find? fun header => runtime.toLowerCase header.1 = name).bind (·.2.nonEmpty?)

/-- The agent a request comes from. -/
structure AgentContext where
  claudeSessionId : Option String
  agentId : Option String
  parentAgentId : Option String
deriving DecidableEq, Repr

/-- The agent context of the attribution headers, if there is any of them. -/
def parseAgentContext (headers : Headers) : Option AgentContext :=
  let claudeSessionId := singleValue runtime headers "x-claude-code-session-id"
  let agentId := singleValue runtime headers "x-claude-code-agent-id"
  let parentAgentId := singleValue runtime headers "x-claude-code-parent-agent-id"
  if claudeSessionId = none ∧ agentId = none ∧ parentAgentId = none then none
  else some ⟨claudeSessionId, agentId, parentAgentId⟩

/-! ## The request -/

/-- A piece of content; a tool result nests any content. -/
inductive CanonicalContent where
  | text (text : String)
  | image (mediaType data : String)
  | toolCall (id name : String) (input : Option Json)
  | toolResult (toolCallId : String) (content : List CanonicalContent) (isError : Bool)
  | reasoning (text : String) (id : Option String)
  | redactedReasoning (data : String)
deriving Repr

/-- The role of a message. -/
inductive MessageRole where
  | user
  | assistant
deriving DecidableEq, Repr

/-- A message of the conversation. -/
structure CanonicalMessage where
  role : MessageRole
  content : List CanonicalContent
deriving Repr

/-- The content of messages, piece by piece, with the role it is said in. -/
def contentsOf (messages : List CanonicalMessage) : List (MessageRole × CanonicalContent) :=
  messages.flatMap fun message => message.content.map fun item => (message.role, item)

theorem mem_contentsOf {messages : List CanonicalMessage} {said : MessageRole × CanonicalContent} :
    said ∈ contentsOf messages ↔
      ∃ message ∈ messages, message.role = said.1 ∧ said.2 ∈ message.content := by
  unfold contentsOf
  rw [List.mem_flatMap]
  refine exists_congr fun message => and_congr_right fun _ => ?_
  rw [List.mem_map]
  constructor
  · rintro ⟨item, hitem, rfl⟩
    exact ⟨rfl, hitem⟩
  · rintro ⟨hrole, hitem⟩
    exact ⟨said.2, hitem, by rw [hrole]⟩

theorem contentsOf_append (messages others : List CanonicalMessage) :
    contentsOf (messages ++ others) = contentsOf messages ++ contentsOf others :=
  List.flatMap_append

/-- A tool the client offers. -/
structure CanonicalTool where
  name : String
  description : Option String
  inputSchema : List (String × Json)
deriving Repr

/-- Which tool the model shall call. -/
inductive CanonicalToolChoice where
  | auto
  | any
  | none
  | tool (name : String)
deriving DecidableEq, Repr

/-- The source protocol of a request. -/
structure RequestSource where
  protocol : EndpointContract
  protocolVersion : Option String
deriving DecidableEq, Repr

/-- The inference parameters of a request. -/
structure InferenceParameters where
  maxOutputTokens : Option ℚ
  temperature : Option ℚ
  topP : Option ℚ
  stopSequences : Option (List String)
  thinking : Option ReasoningSourceMode
  reasoning : Option ReasoningRequest
deriving DecidableEq, Repr

/-- A canonical request. -/
structure CanonicalRequest where
  id : String
  source : RequestSource
  requestedModel : String
  system : List CanonicalContent
  input : List CanonicalContent
  messages : List CanonicalMessage
  tools : List CanonicalTool
  toolChoice : Option CanonicalToolChoice
  stream : Bool
  store : Option Bool
  included : Option (List String)
  inference : InferenceParameters
  previousResponseId : Option String
  agent : Option AgentContext
  fidelity : Option FidelityEnvelope
deriving Repr

namespace CanonicalContent

/-- Whether a piece is an image. -/
def isImage : CanonicalContent → Bool
  | .image _ _ => true
  | _ => false

/-- Whether a piece is reasoning. -/
def isReasoning : CanonicalContent → Bool
  | .reasoning _ _ => true
  | _ => false

/-- Whether a piece is redacted reasoning. -/
def isRedactedReasoning : CanonicalContent → Bool
  | .redactedReasoning _ => true
  | _ => false

/-- Whether a piece is a tool call. -/
def isToolCall : CanonicalContent → Bool
  | .toolCall _ _ _ => true
  | _ => false

/-- Whether a piece is a tool result. -/
def isToolResult : CanonicalContent → Bool
  | .toolResult _ _ _ => true
  | _ => false

/-- Whether a piece is a text or any reasoning. -/
def isTextual : CanonicalContent → Bool
  | .text _ => true
  | .reasoning _ _ => true
  | .redactedReasoning _ => true
  | _ => false

end CanonicalContent

/-! ## What the client said -/

/-- What a conversation consists of: texts that are not empty, images, tool calls and tool results
with what they consist of. -/
inductive ConversationUnit where
  | text (text : String)
  | image (mediaType data : String)
  | toolCall (id name : String) (input : Option Json)
  | toolResult (toolCallId : String) (content : List ConversationUnit)

/-- Whether a unit is a tool call. -/
def ConversationUnit.isToolCall : ConversationUnit → Bool
  | .toolCall _ _ _ => true
  | _ => false

/-- The unit of a text. -/
def textUnit (text : String) : List ConversationUnit := if text = "" then [] else [.text text]

theorem mem_textUnit {text : String} {unit : ConversationUnit} :
    unit ∈ textUnit text ↔ text ≠ "" ∧ unit = .text text := by
  unfold textUnit
  split
  case isTrue h => simp [h]
  case isFalse h => simp [h]

mutual

/-- The units of a piece of content. -/
def CanonicalContent.units : CanonicalContent → List ConversationUnit
  | .text text => textUnit text
  | .image mediaType data => [.image mediaType data]
  | .toolCall id name input => [.toolCall id name input]
  | .toolResult toolCallId content _ => [.toolResult toolCallId (contentUnits content)]
  | .reasoning _ _ => []
  | .redactedReasoning _ => []

/-- The units of content, in order. -/
def contentUnits : List CanonicalContent → List ConversationUnit
  | [] => []
  | item :: content => item.units ++ contentUnits content

end

theorem contentUnits_eq_flatMap (content : List CanonicalContent) :
    contentUnits content = content.flatMap CanonicalContent.units := by
  induction content with
  | nil => rfl
  | cons item content ih => rw [contentUnits, ih, List.flatMap_cons]

/-- The units of a whole conversation: the system's and then the messages'. -/
def CanonicalRequest.units (request : CanonicalRequest) : List ConversationUnit :=
  contentUnits request.system ++ request.messages.flatMap fun message => contentUnits message.content

/-- A payload that carries the system prompt piece by piece and the conversation message by message,
and nothing twice, carries all of it exactly where it carries all of each piece and message. -/
theorem CanonicalRequest.units_sublist_iff (request : CanonicalRequest)
    {ofSystem : CanonicalContent → List ConversationUnit}
    {ofMessage : CanonicalMessage → List ConversationUnit}
    (hsystem : ∀ item, (ofSystem item).length ≤ item.units.length)
    (hmessage : ∀ message, (ofMessage message).length ≤ (contentUnits message.content).length) :
    request.units.Sublist (request.system.flatMap ofSystem ++ request.messages.flatMap ofMessage) ↔
      (∀ item ∈ request.system, item.units = ofSystem item) ∧
        ∀ message ∈ request.messages, contentUnits message.content = ofMessage message := by
  have hsystems : (request.system.flatMap ofSystem).length ≤
      (request.system.flatMap CanonicalContent.units).length :=
    List.length_flatMap_le fun item _ => hsystem item
  have hmessages : (request.messages.flatMap ofMessage).length ≤
      (request.messages.flatMap fun message => contentUnits message.content).length :=
    List.length_flatMap_le fun message _ => hmessage message
  unfold CanonicalRequest.units
  rw [contentUnits_eq_flatMap, List.append_sublist_append_iff hsystems hmessages,
    List.flatMap_eq_flatMap_iff fun item _ => hsystem item,
    List.flatMap_eq_flatMap_iff fun message _ => hmessage message]

end RlyGateway
