import RlyGateway.Protocols.OpenAiResponses.ReasoningItems
import RlyGateway.Providers.Direct.ContinuedInput

/-!
# Encrypted reasoning of a continued request

Which encrypted contents of a conversation a continued request sends upstream. The values are found
by the ids of their items, so each item of the earlier turns is sent with its own exactly where all
items that have one have an id, and those of one id have the same.
-/

namespace RlyGateway

/-- The reasoning items of a body's input. -/
def bodyReasoning (body : Json) : List ReasoningItem :=
  (((body.field? "input").bind Json.arr?).getD []).filterMap readReasoning

/-- An item is sent as itself, with its encrypted content if it has one. -/
structure ReasoningItem.SentAs (item sent : ReasoningItem) : Prop where
  id : sent.id = item.id
  summary : sent.summary = item.summary
  encryptedContent : ∀ value, item.encryptedContent = some value →
    sent.encryptedContent = some value

/-- The reasoning items in front of those that a body adds are sent as themselves, in order. -/
def KeepsReasoning (items : List ReasoningItem) (body : Json) : Prop :=
  ∃ sent added, bodyReasoning body = sent ++ added ∧ List.Forall₂ ReasoningItem.SentAs items sent

/-- Items that have an encrypted content have an id, and those of one id have the same. -/
structure EncryptedById (items : List ReasoningItem) : Prop where
  identified : ∀ item ∈ items, item.encryptedContent ≠ none → item.id ≠ none
  agree : ∀ a ∈ items, ∀ b ∈ items, a.encryptedContent ≠ none → b.encryptedContent ≠ none →
    a.id = b.id → a.encryptedContent = b.encryptedContent

/-- The condition by the keys of the items. -/
theorem encryptedById_iff {items : List ReasoningItem} :
    EncryptedById items ↔ (∀ item ∈ items, item.encryptedContent ≠ none → item.id ≠ none) ∧
      items.AgreesByKey ReasoningItem.association ReasoningItem.encryptedContent := by
  constructor
  · intro h
    refine ⟨h.identified, fun a ha b hb hva hvb hkey => h.agree a ha b hb hva hvb ?_⟩
    obtain ⟨ida, hida⟩ := Option.ne_none_iff_exists'.1 (h.identified a ha hva)
    obtain ⟨idb, hidb⟩ := Option.ne_none_iff_exists'.1 (h.identified b hb hvb)
    unfold ReasoningItem.association at hkey
    rw [hida, hidb, Option.getD_some, Option.getD_some] at hkey
    rw [hida, hidb, hkey]
  · rintro ⟨hidentified, hagree⟩
    refine ⟨hidentified, fun a ha b hb hva hvb hid => hagree a ha b hb hva hvb ?_⟩
    unfold ReasoningItem.association
    rw [hid]

/-! ## What is sent -/

/-- The item that is sent for an id and a summary. -/
def sentReasoning (fidelity : Option FidelityEnvelope) (part : Option String × String) :
    ReasoningItem :=
  ⟨part.1, part.2,
    (part.1.bind (artifactValue fidelity .openaiReasoningEncryptedContent)).filter (· ≠ "")⟩

theorem readReasoning_toJson {fidelity : Option FidelityEnvelope} {role : MessageRole}
    (item : CanonicalContent) :
    ((responsesItem? fidelity role item).bind fun sent => readReasoning sent.toJson) =
      item.reasoningPart?.map (sentReasoning fidelity) := by
  cases item with
  | text s => rfl
  | image mediaType data => rfl
  | toolCall id name input => cases input <;> rfl
  | toolResult id content isError => rfl
  | redactedReasoning data => rfl
  | reasoning s id =>
      have hsummary : String.intercalate "\n" [s] = s := String.intercalate_singleton
      show readReasoning (ResponsesItem.toJson (.reasoning id s _)) = some (sentReasoning _ (id, s))
      unfold sentReasoning
      dsimp only
      cases hvalue : id.bind (artifactValue fidelity .openaiReasoningEncryptedContent) with
      | none =>
          cases id with
          | none => exact congrArg (fun t => some (ReasoningItem.mk none t none)) hsummary
          | some id => exact congrArg (fun t => some (ReasoningItem.mk (some id) t none)) hsummary
      | some value =>
          cases id with
          | none => cases hvalue
          | some id =>
              exact congrArg (fun t => some (ReasoningItem.mk (some id) t
                ((some value).filter (· ≠ "")))) hsummary

/-- The reasoning items of a body are sent for the reasoning of the messages. -/
theorem bodyReasoning_continuedBody (request : CanonicalRequest) (modelId : String)
    (reasoning : Option ResolvedReasoning) :
    bodyReasoning (continuedBody request modelId reasoning) =
      (reasoningParts request.messages).map (sentReasoning request.fidelity) := by
  have hinput : (continuedBody request modelId reasoning).field? "input" =
      some (.arr ((responsesInput request).map ResponsesItem.toJson)) := rfl
  unfold bodyReasoning reasoningParts
  rw [hinput, Option.bind_some, Json.arr?, Option.getD_some, List.filterMap_map, responsesInput_eq,
    List.filterMap_filterMap, List.map_filterMap]
  apply List.filterMap_congr
  intro said _
  exact readReasoning_toJson said.2

/-- A continued request has the reasoning items of the turns before it and then its own. -/
theorem Continues.keeps_reasoning {earlier : List Turn} {received : ReceivedRequest}
    {request : CanonicalRequest} (h : Continues earlier received request) :
    ∃ own, reasoningParts request.messages =
        (earlier.flatMap Turn.reasoningItems ++ own).map ReasoningItem.part ∧
      envelopeArtifacts request.fidelity =
        (earlier.flatMap Turn.reasoningItems ++ own).filterMap ReasoningItem.artifact? := by
  obtain ⟨hparts, hartifacts⟩ := received.keeps_reasoning
  refine ⟨(rawItems received.raw).filterMap readReasoning, ?_, ?_⟩
  · rw [h.messages, reasoningParts_append, reasoningParts_flatMap, hparts, List.map_append,
      List.map_flatMap]
    congr 2
    funext turn
    exact turn.reasoningParts_messages
  · rw [h.artifacts, hartifacts, List.filterMap_append, List.filterMap_flatMap]
    congr 2
    funext turn
    exact turn.artifacts_eq

/-- The items of turns have no empty encrypted contents. -/
theorem reasoningItems_ne_empty {turns : List Turn} {item : ReasoningItem} {value : String}
    (hitem : item ∈ turns.flatMap Turn.reasoningItems) (hvalue : item.encryptedContent = some value) :
    value ≠ "" := by
  obtain ⟨turn, -, hturn⟩ := List.mem_flatMap.1 hitem
  obtain ⟨raw, -, hread⟩ := List.mem_filterMap.1 hturn
  exact encryptedContent_ne_empty hread hvalue

/-- An item is sent as itself exactly where its encrypted content is the first one for its id. -/
theorem sentAs_sentReasoning_iff {fidelity : Option FidelityEnvelope} {items own : List ReasoningItem}
    (hartifacts : envelopeArtifacts fidelity = (items ++ own).filterMap ReasoningItem.artifact?)
    {item : ReasoningItem} (hitem : item ∈ items)
    (hempty : ∀ value, item.encryptedContent = some value → value ≠ "") :
    item.SentAs (sentReasoning fidelity item.part) ↔ ∀ value, item.encryptedContent = some value →
      item.id ≠ none ∧ items.firstFor ReasoningItem.association ReasoningItem.encryptedContent
        item.association = some value := by
  have hsent : ∀ value, item.encryptedContent = some value →
      ((sentReasoning fidelity item.part).encryptedContent = some value ↔
        item.id ≠ none ∧ items.firstFor ReasoningItem.association ReasoningItem.encryptedContent
          item.association = some value) := by
    intro value hvalue
    have hcarries : item.encryptedContent ≠ none := by
      rw [hvalue]
      exact Option.some_ne_none value
    -- the request's own items stand behind those of the turns
    have hfirst : (items ++ own).firstFor ReasoningItem.association
        ReasoningItem.encryptedContent item.association =
          items.firstFor ReasoningItem.association ReasoningItem.encryptedContent
            item.association := List.firstFor_append_of_mem hitem hcarries
    unfold sentReasoning ReasoningItem.part
    cases hid : item.id with
    | none => simp
    | some id =>
        have hkey : item.association = id := by
          unfold ReasoningItem.association
          rw [hid, Option.getD_some]
        rw [Option.bind_some, artifactValue_eq_firstFor hartifacts, ← hkey, hfirst,
          Option.filter_eq_some_iff]
        have hne := hempty value hvalue
        simp [hne]
  constructor
  · intro h value hvalue
    exact (hsent value hvalue).1 (h.encryptedContent value hvalue)
  · intro h
    exact ⟨rfl, rfl, fun value hvalue => (hsent value hvalue).2 (h value hvalue)⟩

/-- The items in front of the added ones are sent as themselves exactly where each is. -/
theorem keepsReasoning_iff {fidelity : Option FidelityEnvelope} {items own : List ReasoningItem}
    {body : Json} (hbody : bodyReasoning body =
      ((items ++ own).map ReasoningItem.part).map (sentReasoning fidelity)) :
    KeepsReasoning items body ↔
      ∀ item ∈ items, item.SentAs (sentReasoning fidelity item.part) := by
  rw [List.map_map, List.map_append] at hbody
  have hsame : List.Forall₂ ReasoningItem.SentAs items
      (items.map (sentReasoning fidelity ∘ ReasoningItem.part)) ↔
        ∀ item ∈ items, item.SentAs (sentReasoning fidelity item.part) := by
    rw [List.forall₂_map_right_iff]
    exact List.forall₂_same
  constructor
  · rintro ⟨sent, added, hsplit, hsent⟩
    rw [hbody] at hsplit
    have hlength : (items.map (sentReasoning fidelity ∘ ReasoningItem.part)).length =
        sent.length := by
      rw [List.length_map, hsent.length_eq]
    have hparts := List.append_inj hsplit hlength
    rw [← hparts.1] at hsent
    exact hsame.1 hsent
  · intro h
    exact ⟨_, _, hbody, hsame.2 h⟩

/-- In every run, a request is sent with the reasoning items of the turns it continues, each with its
own encrypted content, exactly where those that have one have an id, and those of one id have the
same. -/
theorem keepsReasoning_continuedBody_iff {store : ResponseContinuationStore} {chains : Chains}
    (hrun : ConversationRun store chains) {received : ReceivedRequest} {request : CanonicalRequest}
    (happly : store.apply received.request = .ok request) (modelId : String)
    (reasoning : Option ResolvedReasoning) :
    KeepsReasoning ((earlierTurns chains received).flatMap Turn.reasoningItems)
        (continuedBody request modelId reasoning) ↔
      EncryptedById ((earlierTurns chains received).flatMap Turn.reasoningItems) := by
  obtain ⟨own, hparts, hartifacts⟩ := (hrun.continues happly).keeps_reasoning
  have hbody := bodyReasoning_continuedBody request modelId reasoning
  rw [hparts] at hbody
  rw [keepsReasoning_iff hbody, encryptedById_iff, ← List.forall_firstFor_iff]
  constructor
  · intro h
    have hfirst := fun item hitem => (sentAs_sentReasoning_iff hartifacts hitem
      fun _ => reasoningItems_ne_empty hitem).1 (h item hitem)
    refine ⟨fun item hitem hcarries => ?_, fun item hitem value hvalue => ?_⟩
    · obtain ⟨value, hvalue⟩ := Option.ne_none_iff_exists'.1 hcarries
      exact (hfirst item hitem value hvalue).1
    · exact (hfirst item hitem value hvalue).2
  · rintro ⟨hidentified, hfirst⟩ item hitem
    refine (sentAs_sentReasoning_iff hartifacts hitem fun _ => reasoningItems_ne_empty hitem).2 ?_
    intro value hvalue
    refine ⟨hidentified item hitem ?_, hfirst item hitem value hvalue⟩
    rw [hvalue]
    exact Option.some_ne_none value

/-! ## A replayed thought -/

/-- A request that replays a reasoning item, with these fields beside its content. -/
def thoughtBody (fields : List (String × Json)) : Json :=
  .obj [("model", .str "gpt-5.6-sol"), ("input", .arr [
    .obj ([("type", .str "reasoning"), ("summary", .arr []),
      ("encrypted_content", .str "gAAAAABclient")] ++ fields),
    .obj [("type", .str "message"), ("role", .str "user"), ("content", .str "hello")]])]

/-- A replayed item with its id. -/
def identifiedThought : ReceivedRequest where
  environment := ⟨isoRuntime, "req-1", fun _ => []⟩
  raw := thoughtBody [("id", .str "rs_client")]
  headers := []
  decoded := _
  isDecoded := rfl

/-- A replayed item without an id. -/
def anonymousThought : ReceivedRequest where
  environment := ⟨isoRuntime, "req-1", fun _ => []⟩
  raw := thoughtBody []
  headers := []
  decoded := _
  isDecoded := rfl

/-- A turn that answers such a request with a thought of its own. -/
def thoughtTurn (received : ReceivedRequest) : Turn :=
  ⟨received, "resp_1", "gpt-5.6-sol",
    [.reasoning "rs_provider" (some "a greeting") (some "gAAAAABprovider"),
      .message "msg_1" (some "hi")], 3, 1⟩

/-- The store after it. -/
def thoughtStore (received : ReceivedRequest) : ResponseContinuationStore :=
  (thoughtTurn received).store "2026-01-01T00:00:00.000Z"

/-- The follow-up with such a turn in front of it. -/
def thoughtContinued (received : ReceivedRequest) : CanonicalRequest :=
  continueFrom ((thoughtTurn received).record received.request "2026-01-01T00:00:00.000Z")
    secondQuestion.request

theorem conversationRun_thoughtStore {received : ReceivedRequest}
    (h : received.request.previousResponseId = none) :
    ConversationRun (thoughtStore received) (thoughtTurn received).chains := by
  have hfile : fileFor "resp_1" = .ok () := rfl
  exact (thoughtTurn received).conversationRun h hfile (by decide)

theorem apply_thoughtStore (received : ReceivedRequest) :
    (thoughtStore received).apply secondQuestion.request = .ok (thoughtContinued received) := by
  have hfile : fileFor "resp_1" = .ok () := rfl
  exact (thoughtTurn received).apply_store rfl hfile rfl

/-- Items with ids of their own are sent with their encrypted contents. -/
theorem keepsReasoning_identifiedThought :
    KeepsReasoning [⟨some "rs_client", "", some "gAAAAABclient"⟩,
        ⟨some "rs_provider", "a greeting", some "gAAAAABprovider"⟩]
      (continuedBody (thoughtContinued identifiedThought) "gpt-5.6-sol" none) := by
  have hkeeps := keepsReasoning_continuedBody_iff (conversationRun_thoughtStore rfl)
    (apply_thoughtStore identifiedThought) "gpt-5.6-sol" none
  have hitems : (earlierTurns (thoughtTurn identifiedThought).chains secondQuestion).flatMap
      Turn.reasoningItems = [⟨some "rs_client", "", some "gAAAAABclient"⟩,
        ⟨some "rs_provider", "a greeting", some "gAAAAABprovider"⟩] := rfl
  rw [hitems] at hkeeps
  exact hkeeps.2 ⟨by decide, by decide⟩

/-- An item without an id loses its encrypted content. -/
theorem not_keepsReasoning_anonymousThought :
    ¬ ∀ store chains received request, ConversationRun store chains →
      store.apply received.request = .ok request → ∀ modelId reasoning,
        KeepsReasoning ((earlierTurns chains received).flatMap Turn.reasoningItems)
          (continuedBody request modelId reasoning) := by
  intro h
  have hkeeps := h _ _ _ _ (conversationRun_thoughtStore rfl)
    (apply_thoughtStore anonymousThought) "gpt-5.6-sol" none
  obtain ⟨sent, added, hbody, hsent⟩ := hkeeps
  have hread : bodyReasoning (continuedBody (thoughtContinued anonymousThought) "gpt-5.6-sol" none) =
      [⟨none, "", none⟩, ⟨some "rs_provider", "a greeting", some "gAAAAABprovider"⟩] := rfl
  rw [hread] at hbody
  have hitems : (earlierTurns (thoughtTurn anonymousThought).chains secondQuestion).flatMap
      Turn.reasoningItems = [⟨none, "", some "gAAAAABclient"⟩,
        ⟨some "rs_provider", "a greeting", some "gAAAAABprovider"⟩] := rfl
  rw [hitems] at hsent
  cases hsent with
  | cons hfirst _ =>
      rw [List.cons_append, List.cons.injEq] at hbody
      have hvalue := hfirst.encryptedContent "gAAAAABclient" rfl
      rw [← hbody.1] at hvalue
      cases hvalue

end RlyGateway
