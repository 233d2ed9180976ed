import RlyGateway.Core.CanonicalRequest
import RlyGateway.Library.JsonText

/-!
# The Chat Completions payload

The body the Chat Completions adapter sends, and what of a conversation it carries. The texts of a
joined string are kept apart until the body is written, so that it stays visible which of them are
texts of the conversation and which are reasoning.
-/

namespace RlyGateway

/-! ## Joined texts -/

/-- A text that is joined with others: one of the conversation or of its reasoning. -/
inductive JoinedItem where
  | text (text : String)
  | reasoning (text : String)
deriving DecidableEq, Repr

/-- The text itself. -/
def JoinedItem.value : JoinedItem → String
  | .text s => s
  | .reasoning s => s

/-- Texts joined by line breaks. -/
structure JoinedText where
  items : List JoinedItem
deriving DecidableEq, Repr

/-- The string they are joined to. -/
def JoinedText.value (text : JoinedText) : String :=
  String.intercalate "\n" (text.items.map (·.value))

/-- The text or reasoning a piece of content is. -/
def CanonicalContent.joinedItem? : CanonicalContent → Option JoinedItem
  | .text s => some (.text s)
  | .reasoning s _ => some (.reasoning s)
  | _ => none

/-- The text a piece of content is. -/
def CanonicalContent.textItem? : CanonicalContent → Option JoinedItem
  | .text s => some (.text s)
  | _ => none

/-- The texts and the reasoning of content, joined. -/
def textOf (content : List CanonicalContent) : JoinedText :=
  ⟨content.filterMap CanonicalContent.joinedItem?⟩

/-- The texts of content alone, joined. -/
def plainTextOf (content : List CanonicalContent) : JoinedText :=
  ⟨content.filterMap CanonicalContent.textItem?⟩

/-- The units a joined item carries. -/
def JoinedItem.units : JoinedItem → List ConversationUnit
  | .text s => textUnit s
  | .reasoning _ => []

/-- The units joined texts carry. -/
def JoinedText.units (text : JoinedText) : List ConversationUnit :=
  text.items.flatMap JoinedItem.units

/-! ## Messages -/

/-- A part of a content that has images. -/
inductive ChatPart where
  | text (text : String)
  | imageUrl (mediaType data : String)
deriving DecidableEq, Repr

/-- The content of a message: a string, or parts where there are images. -/
inductive ChatContent where
  | joined (text : JoinedText)
  | parts (parts : List ChatPart)
deriving DecidableEq, Repr

/-- The role of a message that is no tool's. -/
inductive ChatRole where
  | system
  | user
  | assistant
deriving DecidableEq, Repr

/-- The role as it is written. -/
def ChatRole.name : ChatRole → String
  | .system => "system"
  | .user => "user"
  | .assistant => "assistant"

/-- The role of a message of the conversation. -/
def MessageRole.chatRole : MessageRole → ChatRole
  | .user => .user
  | .assistant => .assistant

/-- A tool call of a message. -/
structure ChatToolCall where
  id : String
  name : String
  input : Option Json
deriving DecidableEq, Repr

/-- A message of the transcript. -/
inductive ChatMessage where
  | message (role : ChatRole) (content : ChatContent) (toolCalls : List ChatToolCall)
      (reasoningContent : Option String)
  | tool (toolCallId : String) (content : JoinedText)
deriving DecidableEq, Repr

/-- The part a piece of content is. -/
def CanonicalContent.chatPart? : CanonicalContent → Option ChatPart
  | .text s => some (.text s)
  | .image mediaType data => some (.imageUrl mediaType data)
  | _ => none

/-- The content of a message: a joined string unless there is an image. -/
def contentValue (content : List CanonicalContent) : ChatContent :=
  if content.any (·.isImage) then .parts (content.filterMap CanonicalContent.chatPart?)
  else .joined (textOf content)

/-- The tool message a tool result becomes. -/
def CanonicalContent.toolMessage? : CanonicalContent → Option ChatMessage
  | .toolResult toolCallId content _ => some (.tool toolCallId (textOf content))
  | _ => none

/-- The tool call a piece of content is. -/
def CanonicalContent.chatToolCall? : CanonicalContent → Option ChatToolCall
  | .toolCall id name input => some ⟨id, name, input⟩
  | _ => none

/-- The reasoning text a piece of content is. -/
def CanonicalContent.reasoningText? : CanonicalContent → Option String
  | .reasoning s _ => some s
  | _ => none

/-- The chat messages of one message: its tool results, if it has any, or else itself. -/
def chatMessagesOf (includeReasoningReplay : Bool) (message : CanonicalMessage) :
    List ChatMessage :=
  let toolResults := message.content.filterMap CanonicalContent.toolMessage?
  if toolResults ≠ [] then toolResults
  else
    let toolCalls := message.content.filterMap CanonicalContent.chatToolCall?
    let reasoning := String.intercalate "\n"
      (message.content.filterMap CanonicalContent.reasoningText?)
    [.message message.role.chatRole (contentValue message.content) toolCalls
      (if includeReasoningReplay ∧ reasoning ≠ "" ∧ toolCalls ≠ [] then some reasoning else none)]

/-- The chat messages of a conversation. -/
def toChatMessages (messages : List CanonicalMessage) (includeReasoningReplay : Bool) :
    List ChatMessage :=
  messages.flatMap (chatMessagesOf includeReasoningReplay)

/-- The message of the system prompt. -/
def systemMessages (system : List CanonicalContent) : List ChatMessage :=
  if system = [] then [] else [.message .system (contentValue system) [] none]

/-- The transcript of a request. -/
def chatTranscript (replayReasoningContent : Bool) (request : CanonicalRequest) :
    List ChatMessage :=
  systemMessages request.system ++ toChatMessages request.messages replayReasoningContent

/-! ## The body -/

/-- A part as it is written. -/
def ChatPart.toJson : ChatPart → Json
  | .text s => .obj [("type", .str "text"), ("text", .str s)]
  | .imageUrl mediaType data => .obj [("type", .str "image_url"),
      ("image_url", .obj [("url", .str ("data:" ++ mediaType ++ ";base64," ++ data))])]

/-- A content as it is written. -/
def ChatContent.toJson : ChatContent → Json
  | .joined text => .str text.value
  | .parts items => .arr (items.map ChatPart.toJson)

/-- A tool call as it is written. -/
def ChatToolCall.toJson (call : ChatToolCall) : Json :=
  .obj [("id", .str call.id), ("type", .str "function"),
    ("function", Json.mkObj [("name", some (.str call.name)),
      ("arguments", call.input.map fun input => .str (Json.stringify input))])]

/-- A message as it is written. -/
def ChatMessage.toJson : ChatMessage → Json
  | .message role content toolCalls reasoningContent =>
      Json.mkObj [("role", some (.str role.name)), ("content", some content.toJson),
        ("tool_calls", if toolCalls = [] then none
          else some (.arr (toolCalls.map ChatToolCall.toJson))),
        ("reasoning_content", reasoningContent.map .str)]
  | .tool toolCallId content =>
      .obj [("role", .str "tool"), ("tool_call_id", .str toolCallId), ("content", .str content.value)]

/-- A tool as it is written. -/
def chatTool (tool : CanonicalTool) : Json :=
  .obj [("type", .str "function"),
    ("function", Json.mkObj [("name", some (.str tool.name)),
      ("description", tool.description.map .str), ("parameters", some (.obj tool.inputSchema))])]

/-- The tool choice as it is written. -/
def chatToolChoice : CanonicalToolChoice → Json
  | .auto => .str "auto"
  | .any => .str "any"
  | .none => .str "none"
  | .tool name => .obj [("type", .str "function"), ("function", .obj [("name", .str name)])]

/-- The reasoning control. -/
def chatReasoning (resolved : Option ResolvedReasoning) : Option Json :=
  resolved.bind fun resolved => match resolved.effective with
    | .off => some (.obj [("enabled", .bool false)])
    | .providerDefault => none
    | .binary enabled => some (.obj [("enabled", .bool enabled)])
    | .effort level => some (.obj [("enabled", .bool true), ("effort", .str level)])
    | .adaptive _ => some (.obj [("enabled", .bool true)])
    | .budget budgetTokens =>
        some (.obj [("enabled", .bool true), ("max_tokens", .num budgetTokens)])

/-- The body of a request. -/
def chatPayload (replayReasoningContent : Bool) (request : CanonicalRequest)
    (reasoning : Option ResolvedReasoning) : Json :=
  Json.mkObj [("model", some (.str request.requestedModel)),
    ("messages", some (.arr ((chatTranscript replayReasoningContent request).map
      ChatMessage.toJson))),
    ("tools", if request.tools.isEmpty then none else some (.arr (request.tools.map chatTool))),
    ("tool_choice", request.toolChoice.map chatToolChoice),
    ("stream", some (.bool request.stream)),
    ("stream_options", if request.stream then some (.obj [("include_usage", .bool true)])
      else none),
    ("max_tokens", request.inference.maxOutputTokens.map .num),
    ("temperature", request.inference.temperature.map .num),
    ("top_p", request.inference.topP.map .num),
    ("stop", request.inference.stopSequences.map fun texts => .arr (texts.map .str)),
    ("reasoning", chatReasoning reasoning)]

/-! ## What a transcript carries -/

/-- The units a part carries. -/
def ChatPart.units : ChatPart → List ConversationUnit
  | .text s => textUnit s
  | .imageUrl mediaType data => [.image mediaType data]

/-- The units a content carries. -/
def ChatContent.units : ChatContent → List ConversationUnit
  | .joined text => text.units
  | .parts items => items.flatMap ChatPart.units

/-- The units a message carries: its content and then its tool calls, or a tool result. -/
def ChatMessage.units : ChatMessage → List ConversationUnit
  | .message _ content toolCalls _ =>
      content.units ++ toolCalls.map fun call => .toolCall call.id call.name call.input
  | .tool toolCallId content => [.toolResult toolCallId content.units]

/-- A text stands in what it is joined to. -/
theorem infix_intercalate {separator text : String} {texts : List String} (h : text ∈ texts) :
    text.toList <:+: (String.intercalate separator texts).toList := by
  induction texts with
  | nil => cases h
  | cons head tail ih =>
      cases tail with
      | nil =>
          rw [List.mem_singleton] at h
          have hsingle : String.intercalate separator [head] = head := String.intercalate_singleton
          simp only [h, hsingle, List.infix_rfl]
      | cons next rest =>
          rw [String.intercalate_cons_cons, String.toList_append, String.toList_append]
          rcases List.mem_cons.1 h with rfl | htail
          · exact (List.prefix_append _ _).isInfix.trans (List.prefix_append _ _).isInfix
          · exact (ih htail).trans (List.suffix_append _ _).isInfix

/-- A text that is carried by joined texts stands in the string they are written as. -/
theorem JoinedText.infix_value {joined : JoinedText} {text : String}
    (h : ConversationUnit.text text ∈ joined.units) :
    text.toList <:+: joined.value.toList := by
  obtain ⟨item, hitem, hunit⟩ := List.mem_flatMap.1 h
  cases item with
  | reasoning s => cases hunit
  | text s =>
      obtain ⟨-, htext⟩ := mem_textUnit.1 hunit
      apply infix_intercalate
      refine List.mem_map.2 ⟨.text s, hitem, ?_⟩
      cases htext
      rfl

/-- The units of a piece of content that is a text. -/
def CanonicalContent.textUnits : CanonicalContent → List ConversationUnit
  | .text s => textUnit s
  | _ => []

/-- The units of a piece of content that is a text or an image. -/
def CanonicalContent.shownUnits : CanonicalContent → List ConversationUnit
  | .text s => textUnit s
  | .image mediaType data => [.image mediaType data]
  | _ => []

/-- The units of a tool result, of which the texts are kept. -/
def CanonicalContent.resultUnits : CanonicalContent → List ConversationUnit
  | .toolResult toolCallId content _ => [.toolResult toolCallId (textOf content).units]
  | _ => []

theorem units_textOf (content : List CanonicalContent) :
    (textOf content).units = content.flatMap CanonicalContent.textUnits := by
  apply List.flatMap_filterMap_eq
  intro item _
  cases item <;> simp [CanonicalContent.joinedItem?, JoinedItem.units, CanonicalContent.textUnits]

theorem units_plainTextOf (content : List CanonicalContent) :
    (plainTextOf content).units = content.flatMap CanonicalContent.textUnits := by
  apply List.flatMap_filterMap_eq
  intro item _
  cases item <;> simp [CanonicalContent.textItem?, JoinedItem.units, CanonicalContent.textUnits]

/-- The content of a message carries its texts and its images. -/
theorem units_contentValue (content : List CanonicalContent) :
    (contentValue content).units = content.flatMap CanonicalContent.shownUnits := by
  unfold contentValue
  split
  case isTrue =>
    apply List.flatMap_filterMap_eq
    intro item _
    cases item <;> simp [CanonicalContent.chatPart?, ChatPart.units, CanonicalContent.shownUnits]
  case isFalse hnone =>
    -- without images the joined string shows everything a list of parts would
    rw [ChatContent.units, units_textOf]
    apply List.flatMap_congr
    intro item hitem
    cases item with
    | image mediaType data => exact absurd (List.any_eq_true.2 ⟨_, hitem, rfl⟩) hnone
    | _ => rfl

/-- A joined string carries all of a piece that is a text or reasoning. -/
theorem units_eq_textUnits_iff (item : CanonicalContent) :
    item.units = item.textUnits ↔ item.isTextual = true := by
  cases item <;> simp [CanonicalContent.units, CanonicalContent.textUnits,
    CanonicalContent.isTextual]

/-- A content carries all of a piece that is no tool call and no tool result. -/
theorem units_eq_shownUnits_iff (item : CanonicalContent) :
    item.units = item.shownUnits ↔ item.isToolCall = false ∧ item.isToolResult = false := by
  cases item <;> simp [CanonicalContent.units, CanonicalContent.shownUnits,
    CanonicalContent.isToolCall, CanonicalContent.isToolResult]

theorem length_textUnits_le (item : CanonicalContent) :
    item.textUnits.length ≤ item.units.length := by
  cases item <;> simp [CanonicalContent.units, CanonicalContent.textUnits]

theorem length_shownUnits_le (item : CanonicalContent) :
    item.shownUnits.length ≤ item.units.length := by
  cases item <;> simp [CanonicalContent.units, CanonicalContent.shownUnits]

theorem length_resultUnits_le (item : CanonicalContent) :
    item.resultUnits.length ≤ item.units.length := by
  cases item <;> simp [CanonicalContent.units, CanonicalContent.resultUnits]

/-- Joined texts carry content without images, tool calls and tool results. -/
theorem contentUnits_eq_textUnits_iff (content : List CanonicalContent) :
    contentUnits content = content.flatMap CanonicalContent.textUnits ↔
      ∀ item ∈ content, item.isTextual = true := by
  rw [contentUnits_eq_flatMap, List.flatMap_eq_flatMap_iff fun item _ => length_textUnits_le item]
  refine forall₂_congr fun item _ => ?_
  exact units_eq_textUnits_iff item

/-- What stays of a piece of content beside tool results: itself if it is one of texts, and nothing
of a piece that says nothing. -/
def CanonicalContent.KeptAsResult : CanonicalContent → Prop
  | .text s => s = ""
  | .toolResult _ content _ => ∀ item ∈ content, item.isTextual = true
  | .image _ _ => False
  | .toolCall _ _ _ => False
  | .reasoning _ _ => True
  | .redactedReasoning _ => True

theorem units_eq_resultUnits_iff (item : CanonicalContent) :
    item.units = item.resultUnits ↔ item.KeptAsResult := by
  cases item with
  | text s =>
      show textUnit s = [] ↔ s = ""
      unfold textUnit
      split
      case isTrue hempty => simp [hempty]
      case isFalse hnonempty => simp [hnonempty]
  | toolResult toolCallId content isError =>
      show [ConversationUnit.toolResult toolCallId (contentUnits content)] =
        [.toolResult toolCallId (textOf content).units] ↔ _
      rw [units_textOf, CanonicalContent.KeptAsResult, ← contentUnits_eq_textUnits_iff]
      simp
  | _ => simp [CanonicalContent.units, CanonicalContent.resultUnits, CanonicalContent.KeptAsResult]

/-- A message the transcript carries whole. Its tool results, if it has any, are of texts, and the
message consists of them; or else no text and no image stands behind a tool call. -/
def ChatKeeps (message : CanonicalMessage) : Prop :=
  if message.content.any (·.isToolResult) then ∀ item ∈ message.content, item.KeptAsResult
  else (contentUnits message.content).Pairwise fun a b =>
    a.isToolCall = true → b.isToolCall = true

theorem toolMessages_eq_nil_iff (content : List CanonicalContent) :
    content.filterMap CanonicalContent.toolMessage? = [] ↔
      ¬ content.any (·.isToolResult) = true := by
  rw [List.filterMap_eq_nil_iff, Bool.not_eq_true, List.any_eq_false]
  refine forall₂_congr fun item _ => ?_
  cases item <;> simp [CanonicalContent.toolMessage?, CanonicalContent.isToolResult]

/-- A message with tool results carries these. -/
theorem units_chatMessagesOf_results (replay : Bool) {message : CanonicalMessage}
    (h : message.content.any (·.isToolResult) = true) :
    (chatMessagesOf replay message).flatMap ChatMessage.units =
      message.content.flatMap CanonicalContent.resultUnits := by
  have hresults : message.content.filterMap CanonicalContent.toolMessage? ≠ [] := by
    rw [Ne, toolMessages_eq_nil_iff, not_not]
    exact h
  unfold chatMessagesOf
  dsimp only
  rw [if_pos hresults]
  apply List.flatMap_filterMap_eq
  intro item _
  cases item <;> simp [CanonicalContent.toolMessage?, CanonicalContent.resultUnits,
    ChatMessage.units]

/-- A message without tool results carries its texts and images and then its tool calls. -/
theorem units_chatMessagesOf_message (replay : Bool) {message : CanonicalMessage}
    (h : ¬ message.content.any (·.isToolResult) = true) :
    (chatMessagesOf replay message).flatMap ChatMessage.units =
      (contentUnits message.content).filter (fun unit => !unit.isToolCall) ++
        (contentUnits message.content).filter (·.isToolCall) := by
  have hresults : ¬ message.content.filterMap CanonicalContent.toolMessage? ≠ [] := by
    rw [not_not, toolMessages_eq_nil_iff]
    exact h
  have hnone : ∀ item ∈ message.content, item.isToolResult = false := by
    rw [Bool.not_eq_true, List.any_eq_false] at h
    intro item hitem
    exact Bool.not_eq_true _ ▸ h item hitem
  -- texts and images go to the content, tool calls to the message beside it
  have hshown : (contentValue message.content).units =
      (contentUnits message.content).filter fun unit => !unit.isToolCall := by
    rw [units_contentValue, contentUnits_eq_flatMap, List.filter_flatMap]
    apply List.flatMap_congr
    intro item hitem
    have hresult := hnone item hitem
    cases item with
    | toolResult _ _ _ => cases hresult
    | text s =>
        show textUnit s = (textUnit s).filter _
        unfold textUnit
        split <;> rfl
    | _ => rfl
  have hcalls : (message.content.filterMap CanonicalContent.chatToolCall?).map
      (fun call => ConversationUnit.toolCall call.id call.name call.input) =
        (contentUnits message.content).filter (·.isToolCall) := by
    rw [contentUnits_eq_flatMap, List.filter_flatMap, List.map_filterMap,
      List.filterMap_eq_flatMap_toList]
    apply List.flatMap_congr
    intro item _
    cases item with
    | text s =>
        show [] = (textUnit s).filter _
        unfold textUnit
        split <;> rfl
    | _ => rfl
  unfold chatMessagesOf
  dsimp only
  rw [if_neg hresults, List.flatMap_singleton, ChatMessage.units, hshown, hcalls]

/-- The transcript never carries more of a message than the message says. -/
theorem length_chatMessagesOf_le (replay : Bool) (message : CanonicalMessage) :
    ((chatMessagesOf replay message).flatMap ChatMessage.units).length ≤
      (contentUnits message.content).length := by
  by_cases h : message.content.any (·.isToolResult) = true
  · rw [units_chatMessagesOf_results replay h, contentUnits_eq_flatMap]
    exact List.length_flatMap_le fun item _ => length_resultUnits_le item
  · rw [units_chatMessagesOf_message replay h]
    apply Nat.le_of_eq
    -- here nothing is lost, only moved
    have hperm := List.filter_append_perm (fun unit => !unit.isToolCall)
      (contentUnits message.content)
    simpa using hperm.length_eq

/-- What is carried of a message is all of it exactly for the messages that are kept whole. -/
theorem contentUnits_eq_chatMessagesOf_iff (replay : Bool) (message : CanonicalMessage) :
    contentUnits message.content = (chatMessagesOf replay message).flatMap ChatMessage.units ↔
      ChatKeeps message := by
  unfold ChatKeeps
  by_cases h : message.content.any (·.isToolResult) = true
  · rw [if_pos h, units_chatMessagesOf_results replay h, contentUnits_eq_flatMap,
      List.flatMap_eq_flatMap_iff fun item _ => length_resultUnits_le item]
    exact forall₂_congr fun item _ => units_eq_resultUnits_iff item
  · rw [if_neg h, units_chatMessagesOf_message replay h, eq_comm,
      List.filter_not_append_filter_eq_iff]

/-- A system prompt that is carried whole. -/
def ChatKeepsSystem (system : List CanonicalContent) : Prop :=
  ∀ item ∈ system, item.isToolCall = false ∧ item.isToolResult = false

theorem units_systemMessages (system : List CanonicalContent) :
    (systemMessages system).flatMap ChatMessage.units =
      system.flatMap CanonicalContent.shownUnits := by
  unfold systemMessages
  split
  case isTrue hempty => rw [hempty, List.flatMap_nil, List.flatMap_nil]
  case isFalse =>
    rw [List.flatMap_singleton, ChatMessage.units, List.map_nil, List.append_nil,
      units_contentValue]

/-- The transcript carries a conversation whole, in order, exactly when it keeps its system prompt
and each of its messages. -/
theorem units_sublist_chatTranscript_iff (replay : Bool) (request : CanonicalRequest) :
    request.units.Sublist ((chatTranscript replay request).flatMap ChatMessage.units) ↔
      ChatKeepsSystem request.system ∧ ∀ message ∈ request.messages, ChatKeeps message := by
  have hcarried : (chatTranscript replay request).flatMap ChatMessage.units =
      request.system.flatMap CanonicalContent.shownUnits ++ request.messages.flatMap fun message =>
        (chatMessagesOf replay message).flatMap ChatMessage.units := by
    unfold chatTranscript toChatMessages
    rw [List.flatMap_append, units_systemMessages, List.flatMap_assoc]
  rw [hcarried, request.units_sublist_iff length_shownUnits_le (length_chatMessagesOf_le replay)]
  refine and_congr ?_ ?_
  · exact forall₂_congr fun item _ => units_eq_shownUnits_iff item
  · exact forall₂_congr fun message _ => contentUnits_eq_chatMessagesOf_iff replay message

end RlyGateway
