import RlyGateway.Providers.Direct.ChatPayload

/-!
# The Responses payload

The body the Responses adapter sends: one input item for each piece of content, and what of a
conversation the items carry.
-/

namespace RlyGateway

/-! ## Input items -/

/-- An input item. -/
inductive ResponsesItem where
  | message (role : MessageRole) (text : String)
  | image (role : MessageRole) (mediaType data : String)
  | functionCall (callId name : String) (input : Option Json)
  | functionCallOutput (callId : String) (output : JoinedText)
  | reasoning (id : Option String) (text : String) (encryptedContent : Option String)
deriving DecidableEq, Repr

/-- The input item of a piece of content; redacted reasoning has none. -/
def responsesItem? (fidelity : Option FidelityEnvelope) (role : MessageRole) :
    CanonicalContent → Option ResponsesItem
  | .text s => some (.message role s)
  | .image mediaType data => some (.image role mediaType data)
  | .toolCall id name input => some (.functionCall id name input)
  | .toolResult toolCallId content _ => some (.functionCallOutput toolCallId (plainTextOf content))
  | .reasoning s id =>
      some (.reasoning id s (id.bind (artifactValue fidelity .openaiReasoningEncryptedContent)))
  | .redactedReasoning _ => none

/-- The input items of a request. -/
def responsesInput (request : CanonicalRequest) : List ResponsesItem :=
  request.messages.flatMap fun message =>
    message.content.filterMap (responsesItem? request.fidelity message.role)

/-- The instructions of a request. -/
def responsesInstructions (request : CanonicalRequest) : Option JoinedText :=
  if request.system = [] then none else some (plainTextOf request.system)

/-! ## The body -/

/-- A role as it is written. -/
def MessageRole.name (role : MessageRole) : String := role.chatRole.name

/-- The type of a text of a role. -/
def MessageRole.textType : MessageRole → String
  | .assistant => "output_text"
  | .user => "input_text"

/-- An input item as it is written. -/
def ResponsesItem.toJson : ResponsesItem → Json
  | .message role s => .obj [("type", .str "message"), ("role", .str role.name),
      ("content", .arr [.obj [("type", .str role.textType), ("text", .str s)]])]
  | .image role mediaType data => .obj [("type", .str "message"), ("role", .str role.name),
      ("content", .arr [.obj [("type", .str "input_image"),
        ("image_url", .str ("data:" ++ mediaType ++ ";base64," ++ data))]])]
  | .functionCall callId name input => Json.mkObj [("type", some (.str "function_call")),
      ("call_id", some (.str callId)), ("name", some (.str name)),
      ("arguments", input.map fun input => .str (Json.stringify input))]
  | .functionCallOutput callId output => .obj [("type", .str "function_call_output"),
      ("call_id", .str callId), ("output", .str output.value)]
  | .reasoning id s encryptedContent => Json.mkObj [("type", some (.str "reasoning")),
      ("id", id.map .str),
      ("summary", some (.arr [.obj [("type", .str "summary_text"), ("text", .str s)]])),
      ("encrypted_content", encryptedContent.map .str)]

/-- A tool as it is written. -/
def responsesToolJson (tool : CanonicalTool) : Json :=
  Json.mkObj [("type", some (.str "function")), ("name", some (.str tool.name)),
    ("description", tool.description.map .str),
    ("parameters", if tool.inputSchema.isEmpty then none else some (.obj tool.inputSchema))]

/-- The tool choice as it is written. -/
def responsesToolChoice : CanonicalToolChoice → Json
  | .auto => .str "auto"
  | .any => .str "required"
  | .none => .str "none"
  | .tool name => .obj [("type", .str "function"), ("name", .str name)]

/-- The efforts of the Responses vocabulary. -/
def responsesEffortLevels : List String := ["none", "low", "medium", "high"]

/-- The effort of a translated reasoning control. -/
def responsesEffort : NativeReasoningControl → Option String
  | .off => some "none"
  | .providerDefault => none
  | .binary enabled => some (if enabled then "medium" else "none")
  | .effort level => some (if level ∈ responsesEffortLevels then level else "medium")
  | .adaptive enabled => if enabled then some "medium" else none
  | .budget _ => some "medium"

/-- The effort of a request: an explicit one of the vocabulary, or the translated one. -/
def responsesReasoningEffort (request : CanonicalRequest) (resolved : Option ResolvedReasoning) :
    Option String :=
  match (request.inference.reasoning.filter (·.explicit)).bind (·.sourceEffort) with
  | some effort =>
      if effort ∈ responsesEffortLevels then some effort
      else resolved.bind fun resolved => responsesEffort resolved.effective
  | none => resolved.bind fun resolved => responsesEffort resolved.effective

/-- The include request of a request: its own, or one that its artifacts imply. -/
def responsesInclude (request : CanonicalRequest) : Option (List String) :=
  match request.included with
  | some included => some included
  | none =>
      if (request.fidelity.elim [] (·.artifacts)) = [] then none
      else some ["reasoning.encrypted_content"]

/-- The body of a request. -/
def responsesPayload (request : CanonicalRequest) (reasoning : Option ResolvedReasoning) : Json :=
  Json.mkObj [("model", some (.str request.requestedModel)),
    ("input", some (.arr ((responsesInput request).map ResponsesItem.toJson))),
    ("instructions", (responsesInstructions request).map fun text => .str text.value),
    ("tools", if request.tools.isEmpty then none
      else some (.arr (request.tools.map responsesToolJson))),
    ("tool_choice", request.toolChoice.map responsesToolChoice),
    ("stream", some (.bool request.stream)),
    ("previous_response_id", request.previousResponseId.map .str),
    ("max_output_tokens", request.inference.maxOutputTokens.map .num),
    ("temperature", request.inference.temperature.map .num),
    ("top_p", request.inference.topP.map .num),
    ("reasoning", (responsesReasoningEffort request reasoning).map fun effort =>
      .obj [("effort", .str effort)]),
    ("store", request.store.map .bool),
    ("include", (responsesInclude request).map fun names => .arr (names.map .str))]

/-! ## What the items carry -/

/-- The units an input item carries. -/
def ResponsesItem.units : ResponsesItem → List ConversationUnit
  | .message _ s => textUnit s
  | .image _ mediaType data => [.image mediaType data]
  | .functionCall callId name input => [.toolCall callId name input]
  | .functionCallOutput callId output => [.toolResult callId output.units]
  | .reasoning _ _ _ => []

/-- The units the body carries: those of the instructions, which precede the input, and those of the
input. -/
def responsesUnits (request : CanonicalRequest) : List ConversationUnit :=
  (responsesInstructions request).elim [] JoinedText.units ++
    (responsesInput request).flatMap ResponsesItem.units

/-- The units of a piece of content, a tool result's texts only. -/
def CanonicalContent.inputUnits : CanonicalContent → List ConversationUnit
  | .toolResult toolCallId content _ => [.toolResult toolCallId (plainTextOf content).units]
  | item => item.units

/-- A piece of content the input carries whole: a tool result has to be one of texts. -/
def CanonicalContent.KeptAsInput : CanonicalContent → Prop
  | .toolResult _ content _ => ∀ item ∈ content, item.isTextual = true
  | _ => True

/-- The items of a message carry its content, of tool results the texts only. -/
theorem units_messageItems (fidelity : Option FidelityEnvelope) (message : CanonicalMessage) :
    (message.content.filterMap (responsesItem? fidelity message.role)).flatMap
      ResponsesItem.units = message.content.flatMap CanonicalContent.inputUnits := by
  apply List.flatMap_filterMap_eq
  intro item _
  cases item with
  | toolResult toolCallId content isError => rfl
  | _ => simp [responsesItem?, ResponsesItem.units, CanonicalContent.inputUnits,
      CanonicalContent.units]

theorem units_eq_inputUnits_iff (item : CanonicalContent) :
    item.units = item.inputUnits ↔ item.KeptAsInput := by
  cases item with
  | toolResult toolCallId content isError =>
      show [ConversationUnit.toolResult toolCallId (contentUnits content)] =
        [.toolResult toolCallId (plainTextOf content).units] ↔ _
      rw [units_plainTextOf, CanonicalContent.KeptAsInput, ← contentUnits_eq_textUnits_iff]
      simp
  | _ => exact ⟨fun _ => trivial, fun _ => rfl⟩

theorem length_inputUnits_le (item : CanonicalContent) :
    item.inputUnits.length ≤ item.units.length := by
  cases item <;> simp [CanonicalContent.inputUnits, CanonicalContent.units]

/-- The instructions carry the texts of the system prompt. -/
theorem units_responsesInstructions (request : CanonicalRequest) :
    (responsesInstructions request).elim [] JoinedText.units =
      request.system.flatMap CanonicalContent.textUnits := by
  unfold responsesInstructions
  split
  case isTrue hempty => rw [hempty]; rfl
  case isFalse => exact units_plainTextOf request.system

theorem length_messageInputUnits_le (message : CanonicalMessage) :
    (message.content.flatMap CanonicalContent.inputUnits).length ≤
      (contentUnits message.content).length := by
  rw [contentUnits_eq_flatMap]
  exact List.length_flatMap_le fun item _ => length_inputUnits_le item

/-- The body carries a conversation whole, in order, exactly when its system prompt is one of texts
and each of its tool results is. -/
theorem units_sublist_responsesUnits_iff (request : CanonicalRequest) :
    request.units.Sublist (responsesUnits request) ↔
      (∀ item ∈ request.system, item.isTextual = true) ∧
        ∀ message ∈ request.messages, ∀ item ∈ message.content, item.KeptAsInput := by
  have hcarried : responsesUnits request =
      request.system.flatMap CanonicalContent.textUnits ++ request.messages.flatMap fun message =>
        message.content.flatMap CanonicalContent.inputUnits := by
    unfold responsesUnits responsesInput
    rw [units_responsesInstructions, List.flatMap_assoc]
    congr 2
    funext message
    exact units_messageItems request.fidelity message
  rw [hcarried, request.units_sublist_iff length_textUnits_le length_messageInputUnits_le]
  refine and_congr ?_ ?_
  · exact forall₂_congr fun item _ => units_eq_textUnits_iff item
  · refine forall₂_congr fun message _ => ?_
    rw [contentUnits_eq_flatMap, List.flatMap_eq_flatMap_iff fun item _ => length_inputUnits_le item]
    exact forall₂_congr fun item _ => units_eq_inputUnits_iff item

end RlyGateway
