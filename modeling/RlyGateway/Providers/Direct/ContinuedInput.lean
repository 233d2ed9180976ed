import RlyGateway.Protocols.OpenAiResponses.Turns
import RlyGateway.Providers.Direct.ResponsesPayload

/-!
# The input of a continued request

What the Responses adapter sends upstream when a request continues a stored response: its input has
the whole history in front of the request's own items, each piece of content once, and the body
names the response all the same.
-/

namespace RlyGateway

/-! ## The history in the input -/

/-- An input item says what a piece of content says; any encrypted content can come with it. -/
inductive Inlines : MessageRole × CanonicalContent → ResponsesItem → Prop
  | text (role : MessageRole) (s : String) : Inlines (role, .text s) (.message role s)
  | image (role : MessageRole) (mediaType data : String) :
      Inlines (role, .image mediaType data) (.image role mediaType data)
  | toolCall (role : MessageRole) (id name : String) (input : Option Json) :
      Inlines (role, .toolCall id name input) (.functionCall id name input)
  | toolResult (role : MessageRole) (id s : String) (isError : Bool) {output : JoinedText}
      (h : output.value = s) :
      Inlines (role, .toolResult id [.text s] isError) (.functionCallOutput id output)
  | reasoning (role : MessageRole) (s : String) (id encryptedContent : Option String) :
      Inlines (role, .reasoning s id) (.reasoning id s encryptedContent)

/-- The content of a Responses conversation: no redacted reasoning, and one text in each result. -/
def CanonicalContent.IsResponses : CanonicalContent → Prop
  | .toolResult _ content _ => ∃ s, content = [.text s]
  | .redactedReasoning _ => False
  | _ => True

theorem exists_inlines (fidelity : Option FidelityEnvelope) (role : MessageRole)
    {item : CanonicalContent} (h : item.IsResponses) :
    ∃ sent, responsesItem? fidelity role item = some sent ∧ Inlines (role, item) sent := by
  cases item with
  | text s => exact ⟨_, rfl, .text role s⟩
  | image mediaType data => exact ⟨_, rfl, .image role mediaType data⟩
  | toolCall id name input => exact ⟨_, rfl, .toolCall role id name input⟩
  | toolResult id content isError =>
      obtain ⟨s, rfl⟩ := h
      have hvalue : (plainTextOf [.text s]).value = s := String.intercalate_singleton
      exact ⟨_, rfl, .toolResult role id s isError hvalue⟩
  | reasoning s id => exact ⟨_, rfl, .reasoning role s id _⟩
  | redactedReasoning data => exact h.elim

/-- The input of a request is picked from the content of its messages. -/
theorem responsesInput_eq (request : CanonicalRequest) :
    responsesInput request = (contentsOf request.messages).filterMap fun said =>
      responsesItem? request.fidelity said.1 said.2 := by
  unfold responsesInput contentsOf
  rw [List.filterMap_flatMap]
  congr 1
  funext message
  rw [List.filterMap_map]
  rfl

/-- The input has one item for each piece of content, in order. -/
theorem inlines_responsesInput {request : CanonicalRequest}
    (h : ∀ said ∈ contentsOf request.messages, said.2.IsResponses) :
    List.Forall₂ Inlines (contentsOf request.messages) (responsesInput request) := by
  rw [responsesInput_eq]
  apply List.forall₂_filterMap
  intro said hsaid
  exact exists_inlines request.fidelity said.1 (h said hsaid)

/-! ## The content of a conversation -/

/-- The content of a message item is content of a Responses conversation. -/
theorem isResponses_of_parseMessageContent {raw : String ⊕ List Json}
    {content : List CanonicalContent} (h : parseMessageContent raw = .ok content) :
    ∀ item ∈ content, item.IsResponses := by
  intro item hitem
  rcases parseMessageContent_eq_ok h item hitem with ⟨s, rfl⟩ | ⟨mediaType, data, rfl⟩
  · trivial
  · trivial

/-- What an item decodes to is content of a Responses conversation. -/
theorem DecodesTo.isResponses {known : KnownItem} {decoded : DecodedItem}
    (h : DecodesTo known decoded) : ∀ item ∈ decoded.content, item.IsResponses := by
  cases h with
  | system _ => exact fun item hitem => absurd hitem List.not_mem_nil
  | user hparsed => exact isResponses_of_parseMessageContent hparsed
  | assistant hparsed => exact isResponses_of_parseMessageContent hparsed
  | functionCall callId name arguments => exact List.forall_mem_singleton.2 trivial
  | functionCallOutput callId output => exact List.forall_mem_singleton.2 ⟨_, rfl⟩
  | reasoning id summary encryptedContent => exact List.forall_mem_singleton.2 trivial

/-- What a client sends is content of a Responses conversation. -/
theorem ReceivedRequest.isResponses (received : ReceivedRequest) :
    ∀ said ∈ contentsOf received.request.messages, said.2.IsResponses := by
  obtain ⟨items, hitems, hmessages, -, -⟩ := decodeResponsesRequest_eq_ok received.isDecoded
  intro said hsaid
  obtain ⟨message, hmessage, -, hcontent⟩ := mem_contentsOf.1 hsaid
  rw [ReceivedRequest.request, hmessages] at hmessage
  obtain ⟨decoded, hdecoded, hmem⟩ := List.mem_flatMap.1 hmessage
  obtain ⟨raw, -, hparse⟩ := hitems.exists_left hdecoded
  obtain ⟨known, -, hdecodes⟩ := parseItem_eq_ok hparse
  rw [content_of_mem_messages hmem] at hcontent
  exact hdecodes.isResponses _ hcontent

/-- So is what an output is stored as. -/
theorem isResponses_messageFromOutput (item : Json) :
    ∀ message ∈ messageFromOutput item, ∀ content ∈ message.content, content.IsResponses := by
  unfold messageFromOutput
  cases outputItemKind item with
  | message =>
      dsimp only
      split
      · exact fun message hmessage => absurd hmessage List.not_mem_nil
      · refine List.forall_mem_singleton.2 fun content hcontent => ?_
        obtain ⟨text, -, rfl⟩ := List.mem_map.1 hcontent
        trivial
  | functionCall => exact List.forall_mem_singleton.2 (List.forall_mem_singleton.2 trivial)
  | reasoning => exact List.forall_mem_singleton.2 (List.forall_mem_singleton.2 trivial)
  | other => exact fun message hmessage => absurd hmessage List.not_mem_nil

/-- A turn is content of a Responses conversation. -/
theorem Turn.isResponses (turn : Turn) :
    ∀ said ∈ contentsOf turn.messages, said.2.IsResponses := by
  intro said hsaid
  rw [Turn.messages, contentsOf_append] at hsaid
  rcases List.mem_append.1 hsaid with hrequest | houtput
  · exact turn.received.isResponses said hrequest
  · obtain ⟨message, hmessage, -, hcontent⟩ := mem_contentsOf.1 houtput
    obtain ⟨item, -, hitem⟩ := List.mem_flatMap.1 hmessage
    exact isResponses_messageFromOutput item message hitem said.2 hcontent

/-- And so is a continued request. -/
theorem Continues.isResponses {earlier : List Turn} {received : ReceivedRequest}
    {request : CanonicalRequest} (h : Continues earlier received request) :
    ∀ said ∈ contentsOf request.messages, said.2.IsResponses := by
  intro said hsaid
  rw [h.messages, contentsOf_append] at hsaid
  rcases List.mem_append.1 hsaid with hearlier | hown
  · obtain ⟨message, hmessage, hrole, hcontent⟩ := mem_contentsOf.1 hearlier
    obtain ⟨turn, -, hturn⟩ := List.mem_flatMap.1 hmessage
    exact turn.isResponses said (mem_contentsOf.2 ⟨message, hturn, hrole, hcontent⟩)
  · exact received.isResponses said hown

/-! ## The body of a continued request -/

/-- The body the adapter builds for a request, for the model it is routed to. -/
def continuedBody (request : CanonicalRequest) (modelId : String)
    (reasoning : Option ResolvedReasoning) : Json :=
  responsesPayload { request with requestedModel := modelId } reasoning

/-- The input of a body has each message of the history once, and then the request's own. -/
def InlinesHistory (earlier : List Turn) (received : ReceivedRequest) (body : Json) : Prop :=
  ∃ items : List ResponsesItem, body.field? "input" = some (.arr (items.map ResponsesItem.toJson)) ∧
    List.Forall₂ Inlines
      (contentsOf (earlier.flatMap Turn.messages ++ received.request.messages)) items

/-- The body names the response that the provider shall take the history from. -/
def DelegatesHistory (received : ReceivedRequest) (body : Json) : Prop :=
  ∃ id, received.request.previousResponseId = some id ∧
    body.field? "previous_response_id" = some (.str id)

/-- The body names the response that the request names. -/
theorem field?_responsesPayload_previous (request : CanonicalRequest)
    (reasoning : Option ResolvedReasoning) :
    (responsesPayload request reasoning).field? "previous_response_id" =
      request.previousResponseId.map .str := by
  unfold responsesPayload
  iterate 6 rw [Json.field?_mkObj_ne (by decide)]
  apply Json.field?_mkObj_self
  iterate 6 rw [Json.field?_mkObj_ne (by decide)]
  rfl

/-- A continued request has its history inlined. -/
theorem Continues.inlinesHistory {earlier : List Turn} {received : ReceivedRequest}
    {request : CanonicalRequest} (h : Continues earlier received request) (modelId : String)
    (reasoning : Option ResolvedReasoning) :
    InlinesHistory earlier received (continuedBody request modelId reasoning) := by
  refine ⟨responsesInput request, rfl, ?_⟩
  rw [← h.messages]
  exact inlines_responsesInput h.isResponses

/-- In every run, the body of a request has each message of its history exactly once, in order and in
front of its own messages, and it names the response the request continues all the same. -/
theorem continuedBody_inlines_and_names {store : ResponseContinuationStore} {chains : Chains}
    (hrun : ConversationRun store chains) {received : ReceivedRequest} {request : CanonicalRequest}
    (happly : store.apply received.request = .ok request) (modelId : String)
    (reasoning : Option ResolvedReasoning) :
    InlinesHistory (earlierTurns chains received) received
        (continuedBody request modelId reasoning) ∧
      (continuedBody request modelId reasoning).field? "previous_response_id" =
        received.request.previousResponseId.map .str := by
  have hcontinues := hrun.continues happly
  refine ⟨hcontinues.inlinesHistory modelId reasoning, ?_⟩
  rw [← hcontinues.previous]
  exact field?_responsesPayload_previous _ reasoning

/-- The follow-up carries the first turn in its input and names it as well. -/
theorem continuedBody_secondQuestion :
    InlinesHistory [firstTurn] secondQuestion (continuedBody continuedQuestion "gpt-5.6-sol" none) ∧
      (continuedBody continuedQuestion "gpt-5.6-sol" none).field? "previous_response_id" =
        some (.str "resp_1") :=
  continuedBody_inlines_and_names conversationRun_firstTurn apply_secondQuestion "gpt-5.6-sol" none

/-- It reaches the provider twice, inlined and delegated. -/
theorem not_xor_secondQuestion :
    ¬ ∀ store chains received request, ConversationRun store chains →
      store.apply received.request = .ok request → received.request.previousResponseId ≠ none →
        ∀ modelId reasoning,
          Xor (InlinesHistory (earlierTurns chains received) received
              (continuedBody request modelId reasoning))
            (DelegatesHistory received (continuedBody request modelId reasoning)) := by
  intro h
  have hinlines := (conversationRun_firstTurn.continues apply_secondQuestion).inlinesHistory
    "gpt-5.6-sol" none
  have hdelegates : DelegatesHistory secondQuestion
      (continuedBody continuedQuestion "gpt-5.6-sol" none) := ⟨"resp_1", rfl, rfl⟩
  have hprevious : secondQuestion.request.previousResponseId ≠ none := Option.some_ne_none "resp_1"
  rcases h _ _ _ _ conversationRun_firstTurn apply_secondQuestion hprevious "gpt-5.6-sol" none with
    ⟨-, hnot⟩ | ⟨-, hnot⟩
  · exact hnot hdelegates
  · exact hnot hinlines

end RlyGateway
