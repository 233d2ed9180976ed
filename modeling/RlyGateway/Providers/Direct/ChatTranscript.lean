import RlyGateway.Protocols.OpenAiResponses.Conversation
import RlyGateway.Providers.Direct.ChatPayload

/-!
# Tool calls and results in chat transcripts

A Chat Completions transcript has to answer the tool calls of a message right behind it. The items of
a Responses conversation become one message each, so the transcript obeys the rule exactly when each
function call item is directly followed by its own output.
-/

namespace RlyGateway

/-! ## The rule -/

/-- The ids of the tool messages a transcript begins with. -/
def leadingToolIds : List ChatMessage → List String
  | .tool toolCallId _ :: messages => toolCallId :: leadingToolIds messages
  | _ => []

/-- Behind every message stand the tool messages for its calls, one for each, and no others. -/
def AnswersCalls : List ChatMessage → Prop
  | [] => True
  | .tool _ _ :: messages => AnswersCalls messages
  | .message _ _ toolCalls _ :: messages =>
      (leadingToolIds messages).Perm (toolCalls.map (·.id)) ∧ AnswersCalls messages

/-- The rule of the Chat Completions API: the tool messages behind a message answer its calls, and
there are no other ones. -/
def ObeysChatRule (messages : List ChatMessage) : Prop :=
  leadingToolIds messages = [] ∧ AnswersCalls messages

/-! ## Answered calls -/

/-- The outputs for a call before the next user message. -/
def answersBeforeUser (callId : String) : List TranscriptItem → ℕ
  | [] => 0
  | .message .user :: _ => 0
  | .output callId' :: items =>
      (if callId' = callId then 1 else 0) + answersBeforeUser callId items
  | _ :: items => answersBeforeUser callId items

/-- Every call is answered by exactly one output before the next user message. -/
def Answered : List TranscriptItem → Prop
  | [] => True
  | .call callId :: items => answersBeforeUser callId items = 1 ∧ Answered items
  | _ :: items => Answered items

/-- Every call is directly followed by its output, and there are no other outputs. -/
def DirectlyAnswered : List TranscriptItem → Prop
  | [] => True
  | .call callId :: .output callId' :: items => callId' = callId ∧ DirectlyAnswered items
  | .call _ :: _ => False
  | .output _ :: _ => False
  | .message _ :: items => DirectlyAnswered items

/-! ## The transcript of a conversation -/

/-- An output becomes a tool message. -/
theorem chatMessagesOf_output (replay : Bool) (callId : String) (content : List CanonicalContent)
    (isError : Bool) :
    chatMessagesOf replay ⟨.user, [.toolResult callId content isError]⟩ =
      [.tool callId (textOf content)] := rfl

/-- Any other message becomes a message without calls. -/
theorem chatMessagesOf_message (replay : Bool) (role : MessageRole)
    {content : List CanonicalContent}
    (h : ∀ item ∈ content, item.isToolCall = false ∧ item.isToolResult = false) :
    ∃ shown reasoning, chatMessagesOf replay ⟨role, content⟩ =
      [.message role.chatRole shown [] reasoning] := by
  have hresults : content.filterMap CanonicalContent.toolMessage? = [] := by
    rw [toolMessages_eq_nil_iff, Bool.not_eq_true, List.any_eq_false]
    intro item hitem
    rw [(h item hitem).2]
    exact Bool.false_ne_true
  have hcalls : content.filterMap CanonicalContent.chatToolCall? = [] := by
    rw [List.filterMap_eq_nil_iff]
    intro item hitem
    have hcall := (h item hitem).1
    cases item with
    | toolCall _ _ _ => cases hcall
    | _ => rfl
  unfold chatMessagesOf
  dsimp only
  rw [hresults, hcalls, if_neg (fun hne => hne rfl)]
  exact ⟨_, _, rfl⟩

section

variable {role : ChatRole} {content : ChatContent} {reasoning : Option String} {call : ChatToolCall}
  {messages : List ChatMessage}

/-- A message without calls leaves it to the rest of the transcript. -/
theorem obeysChatRule_message :
    ObeysChatRule (.message role content [] reasoning :: messages) ↔ ObeysChatRule messages := by
  unfold ObeysChatRule
  rw [leadingToolIds, AnswersCalls, List.map_nil, List.perm_nil, and_iff_right rfl]
  intro callId shown rest hcons
  cases hcons

/-- A call with its tool message leaves it to the rest of the transcript. -/
theorem obeysChatRule_call_tool {toolCallId : String} {shown : JoinedText} :
    ObeysChatRule (.message role content [call] reasoning :: .tool toolCallId shown :: messages) ↔
      toolCallId = call.id ∧ ObeysChatRule messages := by
  unfold ObeysChatRule
  rw [AnswersCalls, AnswersCalls, leadingToolIds, leadingToolIds, and_iff_right rfl, ← and_assoc]
  · refine and_congr_left fun _ => ?_
    rw [List.map_cons, List.map_nil]
    constructor
    · intro hperm
      have hsingle := List.perm_singleton.1 hperm
      rw [List.cons.injEq] at hsingle
      exact hsingle
    · rintro ⟨hid, hnone⟩
      rw [hid, hnone]
  · intro callId shown rest hcons
    cases hcons

/-- A call that no tool message follows breaks the rule. -/
theorem not_obeysChatRule_call (h : leadingToolIds messages = []) :
    ¬ ObeysChatRule (.message role content [call] reasoning :: messages) := by
  unfold ObeysChatRule
  rw [AnswersCalls, h]
  rintro ⟨-, hperm, -⟩
  have hlength := hperm.length_eq
  cases hlength

/-- A tool message at the start breaks the rule. -/
theorem not_obeysChatRule_tool {toolCallId : String} {shown : JoinedText} :
    ¬ ObeysChatRule (.tool toolCallId shown :: messages) := by
  rintro ⟨hnone, -⟩
  cases hnone

end

/-- A transcript begins with a tool message only where the conversation begins with an output. -/
theorem leadingToolIds_toChatMessages (replay : Bool) {messages : List CanonicalMessage}
    {items : List TranscriptItem} (h : List.Forall₂ Shows messages items)
    (hfirst : ∀ callId rest, items ≠ .output callId :: rest) :
    leadingToolIds (toChatMessages messages replay) = [] := by
  cases h with
  | nil => rfl
  | cons hshows _ =>
      unfold toChatMessages
      rw [List.flatMap_cons]
      cases hshows with
      | call callId name input => rfl
      | output callId content isError => exact absurd rfl (hfirst callId _)
      | message role content hplain =>
          obtain ⟨shown, reasoning, hmessages⟩ := chatMessagesOf_message replay role hplain
          rw [hmessages]
          rfl

/-- The transcript of a conversation obeys the rule exactly when its calls are directly answered. -/
theorem obeysChatRule_toChatMessages_iff {replay : Bool} {messages : List CanonicalMessage}
    {items : List TranscriptItem} (h : List.Forall₂ Shows messages items) :
    ObeysChatRule (toChatMessages messages replay) ↔ DirectlyAnswered items := by
  -- on the items: the case of a call takes the output behind it along
  fun_induction DirectlyAnswered items generalizing messages with
  | case1 =>
      cases h
      exact ⟨fun _ => trivial, fun _ => ⟨rfl, trivial⟩⟩
  | case2 callId callId' items ih =>
      obtain ⟨_, _, hcall, hbehind, rfl⟩ := List.forall₂_cons_right_iff.1 h
      obtain ⟨_, _, houtput, hrest, rfl⟩ := List.forall₂_cons_right_iff.1 hbehind
      cases hcall with
      | call callId name input =>
          cases houtput with
          | output callId' content isError =>
              unfold toChatMessages at ih ⊢
              rw [List.flatMap_cons, List.flatMap_cons, chatMessagesOf_output]
              exact obeysChatRule_call_tool.trans (and_congr_right fun _ => ih hrest)
  | case3 callId items hnot =>
      obtain ⟨_, _, hcall, hrest, rfl⟩ := List.forall₂_cons_right_iff.1 h
      cases hcall with
      | call callId name input =>
          have hnone := leadingToolIds_toChatMessages replay hrest fun callId' rest =>
            hnot callId' rest
          unfold toChatMessages at hnone ⊢
          rw [List.flatMap_cons]
          exact iff_of_false (not_obeysChatRule_call hnone) id
  | case4 callId items =>
      obtain ⟨_, _, houtput, hrest, rfl⟩ := List.forall₂_cons_right_iff.1 h
      cases houtput with
      | output callId content isError => exact iff_of_false not_obeysChatRule_tool id
  | case5 role items ih =>
      obtain ⟨_, _, hmessage, hrest, rfl⟩ := List.forall₂_cons_right_iff.1 h
      cases hmessage with
      | message role content hplain =>
          obtain ⟨shown, reasoning, hmessages⟩ := chatMessagesOf_message replay role hplain
          unfold toChatMessages at ih ⊢
          rw [List.flatMap_cons, hmessages]
          exact obeysChatRule_message.trans (ih hrest)

/-- The system prompt in front changes nothing. -/
theorem obeysChatRule_chatTranscript_iff (replay : Bool) (request : CanonicalRequest) :
    ObeysChatRule (chatTranscript replay request) ↔
      ObeysChatRule (toChatMessages request.messages replay) := by
  unfold chatTranscript systemMessages
  split
  · rfl
  · exact obeysChatRule_message

/-- The transcript of a Responses request, continued from any stored conversation or none, obeys the
rule exactly when each function call of the conversation is directly followed by its output and there
are no other outputs. -/
theorem obeysChatRule_responses_iff {store : ResponseContinuationStore} {items : ConversationItems}
    {environment : DecoderEnvironment} {raw : Json} {headers : Headers} {decoded : DecodedRequest}
    {request : CanonicalRequest} (hstore : StoreRun store items)
    (hdecoded : decodeResponsesRequest environment raw headers = .ok decoded)
    (happly : store.apply decoded.request = .ok request) (replay : Bool) :
    ObeysChatRule (chatTranscript replay request) ↔
      DirectlyAnswered (earlierItems items raw ++ inputItems raw) := by
  rw [obeysChatRule_chatTranscript_iff]
  exact obeysChatRule_toChatMessages_iff (hstore.shows.apply hdecoded happly)

/-- A function call item. -/
def callItem (callId : String) : Json :=
  .obj [("type", .str "function_call"), ("call_id", .str callId), ("name", .str "read_file"),
    ("arguments", .str "\x7b\x7d")]

/-- The item of a function's output. -/
def resultItem (callId : String) : Json :=
  .obj [("type", .str "function_call_output"), ("call_id", .str callId), ("output", .str "done")]

/-- A body with a question and these items. -/
def conversationBody (items : List Json) : Json :=
  .obj [("model", .str "deepseek-chat"),
    ("input", .arr (.obj [("type", .str "message"), ("role", .str "user"),
      ("content", .str "compare the files")] :: items))]

/-- A decoder's environment for the examples. -/
def transcriptEnvironment : DecoderEnvironment := ⟨isoRuntime, "req-1", fun _ => []⟩

/-- Two calls, each with its output right behind it. -/
def sequentialCalls : Json :=
  conversationBody [callItem "call-1", resultItem "call-1", callItem "call-2", resultItem "call-2"]

theorem obeysChatRule_sequentialCalls :
    ∃ decoded, decodeResponsesRequest transcriptEnvironment sequentialCalls [] = .ok decoded ∧
      ObeysChatRule (chatTranscript false decoded.request) := by
  have hdecoded : decodeResponsesRequest transcriptEnvironment sequentialCalls [] = .ok _ := rfl
  have hitems : DirectlyAnswered (earlierItems (fun _ => []) sequentialCalls ++
      inputItems sequentialCalls) := ⟨rfl, rfl, trivial⟩
  exact ⟨_, hdecoded, (obeysChatRule_responses_iff StoreRun.empty hdecoded rfl false).2 hitems⟩

/-- Two parallel calls, whose outputs follow both of them. -/
def parallelCalls : Json :=
  conversationBody [callItem "call-1", callItem "call-2", resultItem "call-1", resultItem "call-2"]

/-- Two parallel calls become two messages, and only the second one is followed by tool messages. -/
theorem not_obeysChatRule_parallelCalls :
    ¬ ∀ store items environment raw headers decoded request, StoreRun store items →
      decodeResponsesRequest environment raw headers = .ok decoded →
        store.apply decoded.request = .ok request →
          Answered (earlierItems items raw ++ inputItems raw) →
            ∀ replay, ObeysChatRule (chatTranscript replay request) := by
  intro h
  have hdecoded : decodeResponsesRequest transcriptEnvironment parallelCalls [] = .ok _ := rfl
  have hanswered : Answered (earlierItems (fun _ => []) parallelCalls ++
      inputItems parallelCalls) := ⟨rfl, rfl, trivial⟩
  have hrule := h _ _ _ _ _ _ _ StoreRun.empty hdecoded rfl hanswered false
  obtain ⟨-, -, hperm, -⟩ := hrule
  have hlength := hperm.length_eq
  cases hlength

end RlyGateway
