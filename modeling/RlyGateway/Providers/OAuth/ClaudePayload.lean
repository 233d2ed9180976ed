import RlyGateway.Providers.Direct.ChatPayload

/-!
# The payload of the Claude adapter

The Messages body the Claude adapter sends: the joined texts of each message, and what of a
conversation they carry.
-/

namespace RlyGateway

/-- The role and the text of each message. -/
def anthropicMessages (request : CanonicalRequest) : List (MessageRole × JoinedText) :=
  request.messages.map fun message => (message.role, plainTextOf message.content)

/-- The text of the system prompt. -/
def anthropicSystem (request : CanonicalRequest) : Option JoinedText :=
  if request.system = [] then none else some (plainTextOf request.system)

/-- The body of a request. -/
def toAnthropicPayload (request : CanonicalRequest) : Json :=
  Json.mkObj [("model", some (.str request.requestedModel)),
    ("max_tokens", some (.num (request.inference.maxOutputTokens.getD 1024))),
    ("messages", some (.arr ((anthropicMessages request).map fun (role, text) =>
      .obj [("role", .str role.chatRole.name), ("content", .str text.value)]))),
    ("system", (anthropicSystem request).map fun text => .str text.value)]

/-- The units the body carries: those of the system prompt, which precedes the messages, and those
of the messages. -/
def anthropicUnits (request : CanonicalRequest) : List ConversationUnit :=
  (anthropicSystem request).elim [] JoinedText.units ++
    (anthropicMessages request).flatMap fun message => message.2.units

theorem units_anthropicSystem (request : CanonicalRequest) :
    (anthropicSystem request).elim [] JoinedText.units =
      request.system.flatMap CanonicalContent.textUnits := by
  unfold anthropicSystem
  split
  case isTrue hempty => rw [hempty]; rfl
  case isFalse => exact units_plainTextOf request.system

theorem length_messageTextUnits_le (message : CanonicalMessage) :
    (message.content.flatMap CanonicalContent.textUnits).length ≤
      (contentUnits message.content).length := by
  rw [contentUnits_eq_flatMap]
  exact List.length_flatMap_le fun item _ => length_textUnits_le item

/-- The body carries a conversation whole, in order, exactly when it is one of texts. -/
theorem units_sublist_anthropicUnits_iff (request : CanonicalRequest) :
    request.units.Sublist (anthropicUnits request) ↔
      (∀ item ∈ request.system, item.isTextual = true) ∧
        ∀ message ∈ request.messages, ∀ item ∈ message.content, item.isTextual = true := by
  have hcarried : anthropicUnits request =
      request.system.flatMap CanonicalContent.textUnits ++ request.messages.flatMap fun message =>
        message.content.flatMap CanonicalContent.textUnits := by
    unfold anthropicUnits anthropicMessages
    rw [units_anthropicSystem, List.flatMap_map]
    congr 2
    funext message
    exact units_plainTextOf message.content
  rw [hcarried, request.units_sublist_iff length_textUnits_le length_messageTextUnits_le]
  refine and_congr ?_ ?_
  · exact forall₂_congr fun item _ => units_eq_textUnits_iff item
  · exact forall₂_congr fun message _ => contentUnits_eq_textUnits_iff message.content

end RlyGateway
