import RlyGateway.Library.JsonRoundTrip
import RlyGateway.Protocols.OpenAiResponses.ReasoningItems

/-!
# Responses that are read back

What a stored response is read back as. Its output has the assistant's items of the whole
conversation, those of the earlier turns and those the client sent itself in front of those that were
delivered with it.
-/

namespace RlyGateway

/-! ## Items -/

/-- Whether content of the assistant is an output item. -/
def CanonicalContent.isOutput : CanonicalContent → Bool
  | .text _ => true
  | .toolCall _ _ _ => true
  | .reasoning _ _ => true
  | _ => false

/-- The output items the assistant has in messages. -/
def assistantItems (messages : List CanonicalMessage) : List CanonicalContent :=
  messages.flatMap fun message =>
    if message.role = .assistant then message.content.filter (·.isOutput) else []

/-- An item of the history is read back; any encrypted content can come with it. -/
inductive ReadsAs : CanonicalContent → ReadBackItem → Prop
  | text (text : String) : ReadsAs (.text text) (.message text)
  | toolCall (id name : String) (input : Option Json) :
      ReadsAs (.toolCall id name input) (.functionCall id name input)
  | reasoning (text : String) (id encryptedContent : Option String) :
      ReadsAs (.reasoning text id) (.reasoning id text encryptedContent)

/-- A delivered item is read back as it was delivered, the arguments of a call as the value they are
written for. -/
inductive Delivers : OutputItem → ReadBackItem → Prop
  | message (id text : String) : Delivers (.message id (some text)) (.message text)
  | functionCall (id callId name : String) {arguments : String} {input : Json}
      (h : Json.parse arguments = some input) :
      Delivers (.functionCall id callId name arguments) (.functionCall callId name (some input))
  | reasoning (id summary : String) (encryptedContent : Option String) :
      Delivers (.reasoning id (some summary) encryptedContent)
        (.reasoning (some id) summary encryptedContent)

/-- An item that is complete: a message has a text, a call has arguments, and a reasoning item has a
summary and shares its id only with items of the same encrypted content. -/
def OutputItem.IsComplete (items : List ReasoningItem) : OutputItem → Prop
  | .message _ text => text ≠ none
  | .functionCall _ _ _ arguments => Json.parse arguments ≠ none
  | .reasoning id summary encryptedContent => summary ≠ none ∧
      ∀ item ∈ items, item.association = id → item.encryptedContent = encryptedContent

/-- The reasoning items of a conversation. -/
def Chain.reasoningItems (chain : Chain) : List ReasoningItem :=
  chain.turns.flatMap Turn.reasoningItems

/-! ## The output of a stored response -/

theorem assistantItems_append (messages others : List CanonicalMessage) :
    assistantItems (messages ++ others) = assistantItems messages ++ assistantItems others :=
  List.flatMap_append

theorem assistantItems_flatMap {α : Type*} (f : α → List CanonicalMessage) (l : List α) :
    assistantItems (l.flatMap f) = l.flatMap fun a => assistantItems (f a) :=
  List.flatMap_assoc

/-- The output is read item by item. -/
theorem StoredResponse.output_eq (stored : StoredResponse) :
    stored.output = (assistantItems stored.messages).filterMap (readBackItem? stored.fidelity) := by
  unfold StoredResponse.output assistantItems
  rw [List.filterMap_flatMap]
  congr 1
  funext message
  split
  · rw [List.filterMap_filter]
    apply List.filterMap_congr
    intro item _
    cases item <;> rfl
  · rfl

/-- Items of the history are read back one by one. -/
theorem readsAs_filterMap (fidelity : Option FidelityEnvelope) (messages : List CanonicalMessage) :
    List.Forall₂ ReadsAs (assistantItems messages)
      ((assistantItems messages).filterMap (readBackItem? fidelity)) := by
  apply List.forall₂_filterMap
  intro item hitem
  obtain ⟨message, -, hmem⟩ := List.mem_flatMap.1 hitem
  have houtput : item.isOutput = true := by
    split at hmem
    · exact (List.mem_filter.1 hmem).2
    · exact absurd hmem List.not_mem_nil
  cases item with
  | text text => exact ⟨_, rfl, .text text⟩
  | toolCall id name input => exact ⟨_, rfl, .toolCall id name input⟩
  | reasoning text id => exact ⟨_, rfl, .reasoning text id _⟩
  | image mediaType data => cases houtput
  | toolResult id content isError => cases houtput
  | redactedReasoning data => cases houtput

/-- The items a delivered item is read back as. -/
def readBackPiece (fidelity : Option FidelityEnvelope) (item : OutputItem) : List ReadBackItem :=
  (assistantItems (messageFromOutput item.toJson)).filterMap (readBackItem? fidelity)

theorem filterMap_readBack_messagesFromOutput (fidelity : Option FidelityEnvelope)
    (output : List OutputItem) :
    (assistantItems (messagesFromOutput (output.map OutputItem.toJson))).filterMap
      (readBackItem? fidelity) = (output.map (readBackPiece fidelity)).flatten := by
  unfold messagesFromOutput
  rw [assistantItems_flatMap, List.filterMap_flatMap, List.flatMap_map, List.flatMap_def]
  rfl

/-- A delivered reasoning item is one of its conversation. -/
theorem Chain.exists_reasoningItem {chain : Chain} {id : String}
    {summary encryptedContent : Option String}
    (h : OutputItem.reasoning id summary encryptedContent ∈ chain.last.response.output) :
    ∃ item ∈ chain.reasoningItems, item.association = id := by
  have hread : ∃ read, readReasoning (OutputItem.reasoning id summary encryptedContent).toJson =
      some read ∧ read.association = id := by
    rcases encryptedContent with _ | encryptedContent
    · exact ⟨_, rfl, rfl⟩
    · exact ⟨_, rfl, rfl⟩
  obtain ⟨read, hsome, hassociation⟩ := hread
  refine ⟨read, ?_, hassociation⟩
  have hlast : read ∈ chain.last.reasoningItems := by
    apply List.mem_filterMap.2
    exact ⟨_, List.mem_append_right _ (List.mem_map.2 ⟨_, h, rfl⟩), hsome⟩
  apply List.mem_flatMap.2
  exact ⟨chain.last, List.mem_append_right _ List.mem_cons_self, hlast⟩

/-- A complete item is read back as it was delivered. -/
theorem Chain.delivers_readBackPiece {chain : Chain} {fidelity : Option FidelityEnvelope}
    (hartifacts : envelopeArtifacts fidelity =
      chain.reasoningItems.filterMap ReasoningItem.artifact?)
    {item : OutputItem} (hitem : item ∈ chain.last.response.output)
    (hcomplete : item.IsComplete chain.reasoningItems) :
    ∃ read, readBackPiece fidelity item = [read] ∧ Delivers item read := by
  cases item with
  | message id text =>
      obtain ⟨text, rfl⟩ := Option.ne_none_iff_exists'.1 hcomplete
      exact ⟨_, rfl, .message id text⟩
  | functionCall id callId name arguments =>
      obtain ⟨input, hinput⟩ := Option.ne_none_iff_exists'.1 hcomplete
      have hparsed : parseJsonOrRaw arguments = input := by
        unfold parseJsonOrRaw
        rw [hinput, Option.getD_some]
      refine ⟨.functionCall callId name (some input), ?_, .functionCall id callId name hinput⟩
      rw [← hparsed]
      rfl
  | reasoning id summary encryptedContent =>
      obtain ⟨hsummary, hagree⟩ := hcomplete
      obtain ⟨text, rfl⟩ := Option.ne_none_iff_exists'.1 hsummary
      have hvalue : artifactValue fidelity .openaiReasoningEncryptedContent id =
          encryptedContent := by
        rw [artifactValue_eq_firstFor hartifacts]
        exact List.firstFor_eq_of_forall (Chain.exists_reasoningItem hitem) hagree
      have htext : String.intercalate "\n" [text] = text := String.intercalate_singleton
      refine ⟨.reasoning (some id) text encryptedContent, ?_, .reasoning id text encryptedContent⟩
      rw [← hvalue]
      rcases encryptedContent with _ | encryptedContent
      · exact congrArg (fun t => [ReadBackItem.reasoning (some id) t
          (artifactValue fidelity .openaiReasoningEncryptedContent id)]) htext
      · exact congrArg (fun t => [ReadBackItem.reasoning (some id) t
          (artifactValue fidelity .openaiReasoningEncryptedContent id)]) htext

/-! ## Responses of a run -/

/-- The messages of a conversation in front of the output that ends it. -/
def Chain.history (chain : Chain) : List CanonicalMessage :=
  chain.earlier.flatMap Turn.messages ++ chain.last.received.request.messages

/-- A read back output: the assistant's items of the history, one by one, and then the delivered
items, the complete ones among them as they were delivered. -/
def ReadsBackAfterHistory (chain : Chain) (output : List ReadBackItem) : Prop :=
  ∃ history pieces, output = history ++ pieces.flatten ∧
    List.Forall₂ ReadsAs (assistantItems chain.history) history ∧
    List.Forall₂ (fun item piece => item.IsComplete chain.reasoningItems →
      ∃ read, piece = [read] ∧ Delivers item read) chain.last.response.output pieces

/-- A stored response has the output of its conversation. -/
theorem Chain.StoredAs.readsBackAfterHistory {chain : Chain} {stored : StoredResponse}
    (h : chain.StoredAs stored) : ReadsBackAfterHistory chain stored.output := by
  have hartifacts : envelopeArtifacts stored.fidelity =
      chain.reasoningItems.filterMap ReasoningItem.artifact? := by
    rw [h.artifacts, Chain.reasoningItems, List.filterMap_flatMap]
    congr 1
    funext turn
    exact turn.artifacts_eq
  have hmessages : stored.messages = chain.history ++ messagesFromOutput chain.last.output := by
    rw [h.messages, Chain.turns, List.flatMap_append, List.flatMap_singleton, Turn.messages,
      Chain.history, List.append_assoc]
  have hpieces := filterMap_readBack_messagesFromOutput stored.fidelity chain.last.response.output
  refine ⟨_, chain.last.response.output.map (readBackPiece stored.fidelity), ?_,
    readsAs_filterMap stored.fidelity chain.history, ?_⟩
  · rw [stored.output_eq, hmessages, assistantItems_append, List.filterMap_append, Turn.output,
      hpieces]
  · rw [List.forall₂_map_right_iff, List.forall₂_same]
    intro item hitem hcomplete
    exact Chain.delivers_readBackPiece hartifacts hitem hcomplete

/-- The turn after the first one. -/
def secondTurn : Turn :=
  ⟨secondQuestion, "resp_2", "gpt-5.6-sol", [.message "msg_0" (some "bye")], 7, 1⟩

/-- The store of both. -/
def secondStore : ResponseContinuationStore :=
  Function.update (firstTurn.store "2026-01-01T00:00:00.000Z") "resp_2"
    (some (secondTurn.record continuedQuestion "2026-01-01T00:00:01.000Z"))

/-- The conversations of that store. -/
def secondChains : Chains := Function.update firstTurn.chains "resp_2" (some ⟨[firstTurn], secondTurn⟩)

theorem conversationRun_secondStore : ConversationRun secondStore secondChains := by
  have happly : (firstTurn.store "2026-01-01T00:00:00.000Z").apply secondTurn.received.request =
      .ok continuedQuestion := apply_secondQuestion
  have hclock : "2026-01-01T00:00:01.000Z" ≠ "" := by decide
  exact conversationRun_firstTurn.next happly rfl hclock

/-- A response reads back as it was delivered. -/
def ReadsBackAsDelivered (id : String) (response : AggregatedResponse) (object : Json) : Prop :=
  ∃ output, object = readBackObject id response.model output ∧
    List.Forall₂ Delivers response.output output

end RlyGateway
