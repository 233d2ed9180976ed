import RlyGateway.Library.Keyed
import RlyGateway.Protocols.OpenAiResponses.Turns

/-!
# Reasoning items

The reasoning items of a conversation as they stand on the wire, and what becomes of them inside the
gateway: the content of a message has their ids and summaries, and the artifacts of an envelope have
their encrypted contents, under their ids. An item without an id leaves its encrypted content under a
key that all such items share.
-/

namespace RlyGateway

/-- A reasoning item. -/
structure ReasoningItem where
  id : Option String
  summary : String
  encryptedContent : Option String
deriving DecidableEq, Repr

/-- The reasoning item a value is; an empty encrypted content counts as none. -/
def readReasoning (item : Json) : Option ReasoningItem :=
  if outputItemKind item = .reasoning then
    some ⟨item.strField? "id", outputSummary item,
      (item.strField? "encrypted_content").filter (· ≠ "")⟩
  else none

/-- The reasoning items of a turn, as its client sent them and as they were delivered to it. -/
def Turn.reasoningItems (turn : Turn) : List ReasoningItem :=
  (rawItems turn.received.raw ++ turn.output).filterMap readReasoning

/-- The key the encrypted content of an item is kept under. -/
def ReasoningItem.association (item : ReasoningItem) : String := item.id.getD "reasoning-item"

/-- The artifact of an item. -/
def ReasoningItem.artifact? (item : ReasoningItem) : Option OpaqueArtifact :=
  item.encryptedContent.map fun value =>
    ⟨.openaiReasoningEncryptedContent, item.association, value⟩

/-- The id and the summary of a piece of content that is reasoning. -/
def CanonicalContent.reasoningPart? : CanonicalContent → Option (Option String × String)
  | .reasoning s id => some (id, s)
  | _ => none

/-- The reasoning of messages. -/
def reasoningParts (messages : List CanonicalMessage) : List (Option String × String) :=
  (contentsOf messages).filterMap fun said => said.2.reasoningPart?

/-- What the messages keep of an item. -/
def ReasoningItem.part (item : ReasoningItem) : Option String × String := (item.id, item.summary)

theorem reasoningParts_append (messages others : List CanonicalMessage) :
    reasoningParts (messages ++ others) = reasoningParts messages ++ reasoningParts others := by
  unfold reasoningParts
  rw [contentsOf_append, List.filterMap_append]

theorem reasoningParts_flatMap {α : Type*} (f : α → List CanonicalMessage) (l : List α) :
    reasoningParts (l.flatMap f) = l.flatMap fun a => reasoningParts (f a) := by
  induction l with
  | nil => rfl
  | cons a l ih => rw [List.flatMap_cons, List.flatMap_cons, reasoningParts_append, ih]

/-! ## Items of a request -/

/-- The reasoning item a known item is. -/
def KnownItem.reasoningItem? : KnownItem → Option ReasoningItem
  | .reasoning id summary encryptedContent =>
      some ⟨id, String.intercalate "\n" (summary.getD []), encryptedContent.filter (· ≠ "")⟩
  | _ => none

/-- The texts of a summary are read part by part. -/
theorem textField_getD_of_summaryText {part : Json} {text : String}
    (h : summaryText part = some text) : (textField part).getD "" = text := by
  obtain ⟨type, -, htext⟩ := Option.bind_eq_some_iff.1 h
  unfold Json.required at htext
  rw [textField, Json.strField?, htext, Option.getD_some]

theorem map_textField_of_summaryTexts {parts : List Json} {texts : List String}
    (h : parts.mapM summaryText = some texts) :
    parts.map (fun part => (textField part).getD "") = texts := by
  induction parts generalizing texts with
  | nil =>
      cases h
      rfl
  | cons part parts ih =>
      rw [List.mapM_cons] at h
      obtain ⟨text, htext, h⟩ := Option.bind_eq_some_iff.1 h
      obtain ⟨rest, hrest, h⟩ := Option.bind_eq_some_iff.1 h
      cases h
      rw [List.map_cons, textField_getD_of_summaryText htext, ih hrest]

/-- The summary of an item that is accepted. -/
theorem outputSummary_of_optional {raw : Json} {summary : Option (List String)}
    (h : raw.optional "summary" (Json.items summaryText) = some summary) :
    outputSummary raw = String.intercalate "\n" (summary.getD []) := by
  have hsummary := Json.eq_bind_of_optional_eq_some h
  unfold outputSummary
  congr 1
  cases hfield : raw.field? "summary" with
  | none =>
      rw [hfield] at hsummary
      rw [hsummary]
      rfl
  | some field =>
      unfold Json.optional at h
      rw [hfield] at h
      obtain ⟨texts, htexts, rfl⟩ := Option.map_eq_some_iff.1 h
      obtain ⟨parts, hparts, hread⟩ := Option.bind_eq_some_iff.1 htexts
      rw [Option.bind_some, hparts, Option.getD_some, Option.getD_some]
      exact map_textField_of_summaryTexts hread

/-- The id of an item that is accepted. -/
theorem strField?_of_optional_nonEmptyString {raw : Json} {name : String} {text : Option String}
    (h : raw.optional name Json.nonEmptyString = some text) : raw.strField? name = text := by
  unfold Json.optional at h
  unfold Json.strField?
  cases hfield : raw.field? name with
  | none =>
      rw [hfield] at h
      cases h
      rfl
  | some field =>
      rw [hfield] at h
      obtain ⟨s, hs, rfl⟩ := Option.map_eq_some_iff.1 h
      exact (Option.filter_eq_some_iff.1 hs).1

/-- An item is read as it is decoded. -/
theorem readReasoning_of_knownItem {raw : Json} {known : KnownItem}
    (h : knownItem raw = some known) : readReasoning raw = known.reasoningItem? := by
  unfold knownItem at h
  unfold readReasoning outputItemKind
  split at h
  case h_1 htype =>
    obtain ⟨role, -, h⟩ := Option.bind_eq_some_iff.1 h
    obtain ⟨content, -, h⟩ := Option.bind_eq_some_iff.1 h
    cases h
    rw [htype]
    rfl
  case h_2 htype =>
    obtain ⟨callId, -, h⟩ := Option.bind_eq_some_iff.1 h
    obtain ⟨name, -, h⟩ := Option.bind_eq_some_iff.1 h
    obtain ⟨arguments, -, h⟩ := Option.bind_eq_some_iff.1 h
    cases h
    rw [htype]
    rfl
  case h_3 htype =>
    obtain ⟨callId, -, h⟩ := Option.bind_eq_some_iff.1 h
    obtain ⟨output, -, h⟩ := Option.bind_eq_some_iff.1 h
    cases h
    simp [htype, KnownItem.reasoningItem?]
  case h_4 htype =>
    obtain ⟨id, hid, h⟩ := Option.bind_eq_some_iff.1 h
    obtain ⟨summary, hsummary, h⟩ := Option.bind_eq_some_iff.1 h
    obtain ⟨encryptedContent, hencrypted, h⟩ := Option.bind_eq_some_iff.1 h
    cases h
    have hvalue : raw.strField? "encrypted_content" = encryptedContent :=
      (Json.eq_bind_of_optional_eq_some hencrypted).symm
    rw [htype, strField?_of_optional_nonEmptyString hid, outputSummary_of_optional hsummary,
      hvalue]
    rfl
  case h_5 => cases h

/-- Messages of texts and images have no reasoning. -/
theorem reasoningParts_of_parseMessageContent (role : Option MessageRole) (system : List CanonicalContent)
    {raw : String ⊕ List Json} {content : List CanonicalContent}
    (h : parseMessageContent raw = .ok content) :
    reasoningParts (DecodedItem.messages ⟨role, content, system, []⟩) = [] := by
  apply List.filterMap_eq_nil_iff.2
  intro said hsaid
  obtain ⟨message, hmessage, -, hcontent⟩ := mem_contentsOf.1 hsaid
  rw [content_of_mem_messages hmessage] at hcontent
  rcases parseMessageContent_eq_ok h said.2 hcontent with ⟨s, hs⟩ | ⟨mediaType, data, hs⟩
  · rw [hs]
    rfl
  · rw [hs]
    rfl

/-- The messages of an item keep its id and its summary. -/
theorem DecodesTo.reasoningParts {known : KnownItem} {decoded : DecodedItem}
    (h : DecodesTo known decoded) :
    RlyGateway.reasoningParts decoded.messages =
      known.reasoningItem?.toList.map ReasoningItem.part := by
  cases h with
  | system _ => rfl
  | user hparsed => exact reasoningParts_of_parseMessageContent _ [] hparsed
  | assistant hparsed => exact reasoningParts_of_parseMessageContent _ [] hparsed
  | functionCall callId name arguments => rfl
  | functionCallOutput callId output => rfl
  | reasoning id summary encryptedContent => rfl

theorem filterMap_artifact?_singleton (item : ReasoningItem) :
    [item].filterMap ReasoningItem.artifact? = item.encryptedContent.toList.map fun value =>
      ⟨.openaiReasoningEncryptedContent, item.association, value⟩ := by
  rcases item with ⟨id, summary, _ | value⟩
  · rfl
  · rfl

/-- The artifacts of an item keep its encrypted content. -/
theorem DecodesTo.artifacts {known : KnownItem} {decoded : DecodedItem}
    (h : DecodesTo known decoded) :
    decoded.artifacts = known.reasoningItem?.toList.filterMap ReasoningItem.artifact? := by
  cases h with
  | system _ => rfl
  | user _ => rfl
  | assistant _ => rfl
  | functionCall callId name arguments => rfl
  | functionCallOutput callId output => rfl
  | reasoning id summary encryptedContent =>
      exact (filterMap_artifact?_singleton ⟨id, _, encryptedContent.filter (· ≠ "")⟩).symm

/-- The items of an input are kept one by one. -/
theorem keeps_reasoning_of_parseItems {raws : List Json} {items : List DecodedItem}
    (h : List.Forall₂ (fun raw item => parseItem raw = .ok item) raws items) :
    reasoningParts (items.flatMap DecodedItem.messages) =
        (raws.filterMap readReasoning).map ReasoningItem.part ∧
      items.flatMap (·.artifacts) =
        (raws.filterMap readReasoning).filterMap ReasoningItem.artifact? := by
  rw [reasoningParts_flatMap]
  induction h with
  | nil => exact ⟨rfl, rfl⟩
  | @cons raw item raws items hparse _ ih =>
      obtain ⟨known, hknown, hdecodes⟩ := parseItem_eq_ok hparse
      have hread : (raw :: raws).filterMap readReasoning =
          known.reasoningItem?.toList ++ raws.filterMap readReasoning := by
        rw [← readReasoning_of_knownItem hknown]
        cases hitem : readReasoning raw with
        | none => exact List.filterMap_cons_none hitem
        | some read => exact List.filterMap_cons_some hitem
      rw [hread, List.map_append, List.filterMap_append, List.flatMap_cons, List.flatMap_cons,
        hdecodes.reasoningParts, hdecodes.artifacts, ih.1, ih.2]
      exact ⟨rfl, rfl⟩

/-- A received request keeps the reasoning items of its input. -/
theorem ReceivedRequest.keeps_reasoning (received : ReceivedRequest) :
    reasoningParts received.request.messages =
        ((rawItems received.raw).filterMap readReasoning).map ReasoningItem.part ∧
      envelopeArtifacts received.request.fidelity =
        ((rawItems received.raw).filterMap readReasoning).filterMap ReasoningItem.artifact? := by
  obtain ⟨items, hitems, hmessages, hartifacts, -⟩ := decodeResponsesRequest_eq_ok received.isDecoded
  unfold ReceivedRequest.request
  rw [hmessages, hartifacts]
  exact keeps_reasoning_of_parseItems hitems

/-! ## Items of an output -/

/-- The message of an item of an output keeps its id and its summary. -/
theorem reasoningParts_messageFromOutput (item : Json) :
    reasoningParts (messageFromOutput item) =
      (readReasoning item).toList.map ReasoningItem.part := by
  unfold messageFromOutput readReasoning
  cases outputItemKind item with
  | message =>
      dsimp only
      split
      · rfl
      · apply List.filterMap_eq_nil_iff.2
        intro said hsaid
        obtain ⟨message, hmessage, -, hcontent⟩ := mem_contentsOf.1 hsaid
        rw [List.mem_singleton.1 hmessage] at hcontent
        obtain ⟨text, -, htext⟩ := List.mem_map.1 hcontent
        rw [← htext]
        rfl
  | functionCall => rfl
  | reasoning => rfl
  | other => rfl

/-- The artifact of an item with an id keeps its encrypted content. -/
theorem artifactFromOutput?_of_id {item : Json} {id : String} (hid : item.strField? "id" = some id) :
    artifactFromOutput? item = (readReasoning item).bind ReasoningItem.artifact? := by
  unfold artifactFromOutput? readReasoning
  by_cases hkind : outputItemKind item = .reasoning
  · rw [if_pos hkind, if_pos hkind, hid]
    cases (item.strField? "encrypted_content").filter (· ≠ "") with
    | none => rfl
    | some value => rfl
  · rw [if_neg hkind, if_neg hkind, Option.bind_none]

/-- Every item that is delivered has an id. -/
theorem strField?_id_toJson (item : OutputItem) : ∃ id, item.toJson.strField? "id" = some id := by
  cases item with
  | message id text => exact ⟨id, rfl⟩
  | reasoning id summary encryptedContent => exact ⟨id, rfl⟩
  | functionCall id callId name arguments => exact ⟨id, rfl⟩

/-- The messages of a turn keep its reasoning items, in order. -/
theorem Turn.reasoningParts_messages (turn : Turn) :
    reasoningParts turn.messages = turn.reasoningItems.map ReasoningItem.part := by
  have houtput : reasoningParts (messagesFromOutput turn.output) =
      (turn.output.filterMap readReasoning).map ReasoningItem.part := by
    unfold messagesFromOutput
    rw [reasoningParts_flatMap]
    induction turn.output with
    | nil => rfl
    | cons item output ih =>
        rw [List.flatMap_cons, ih, reasoningParts_messageFromOutput]
        cases hread : readReasoning item with
        | none => rw [List.filterMap_cons_none hread]; rfl
        | some read => rw [List.filterMap_cons_some hread]; rfl
  unfold Turn.messages Turn.reasoningItems
  rw [reasoningParts_append, turn.received.keeps_reasoning.1, houtput, List.filterMap_append,
    List.map_append]

/-- The artifacts of a turn are those of its reasoning items. -/
theorem Turn.artifacts_eq (turn : Turn) :
    turn.artifacts = turn.reasoningItems.filterMap ReasoningItem.artifact? := by
  have houtput : artifactsFromAggregated turn.output =
      (turn.output.filterMap readReasoning).filterMap ReasoningItem.artifact? := by
    unfold artifactsFromAggregated
    rw [List.filterMap_filterMap]
    apply List.filterMap_congr
    intro item hitem
    obtain ⟨delivered, -, rfl⟩ := List.mem_map.1 hitem
    obtain ⟨id, hid⟩ := strField?_id_toJson delivered
    exact artifactFromOutput?_of_id hid
  unfold Turn.artifacts Turn.reasoningItems
  rw [turn.received.keeps_reasoning.2, houtput, List.filterMap_append, List.filterMap_append]

/-! ## Encrypted contents -/

/-- An encrypted content is read only if it is not empty. -/
theorem encryptedContent_ne_empty {item : Json} {read : ReasoningItem} {value : String}
    (h : readReasoning item = some read) (hvalue : read.encryptedContent = some value) :
    value ≠ "" := by
  unfold readReasoning at h
  split at h
  · cases h
    have hfilter := (Option.filter_eq_some_iff.1 hvalue).2
    exact of_decide_eq_true hfilter
  · cases h

/-- An envelope has the first encrypted content of its items for an id. -/
theorem artifactValue_eq_firstFor {envelope : Option FidelityEnvelope} {items : List ReasoningItem}
    (h : envelopeArtifacts envelope = items.filterMap ReasoningItem.artifact?) (id : String) :
    artifactValue envelope .openaiReasoningEncryptedContent id =
      items.firstFor ReasoningItem.association ReasoningItem.encryptedContent id := by
  rw [artifactValue_eq, h]
  clear h
  induction items with
  | nil => rfl
  | cons item items ih =>
      unfold List.firstFor at ih ⊢
      rw [List.findSome?_cons]
      cases hvalue : item.encryptedContent with
      | none =>
          have hartifact : item.artifact? = none := by
            unfold ReasoningItem.artifact?
            rw [hvalue, Option.map_none]
          rw [List.filterMap_cons_none hartifact, ite_self]
          exact ih
      | some value =>
          have hartifact : item.artifact? =
              some ⟨.openaiReasoningEncryptedContent, item.association, value⟩ := by
            unfold ReasoningItem.artifact?
            rw [hvalue, Option.map_some]
          rw [List.filterMap_cons_some hartifact]
          by_cases hid : item.association = id
          · rw [List.find?_cons_of_pos (by simp [hid]), if_pos hid]
            rfl
          · rw [List.find?_cons_of_neg (by simp [hid]), if_neg hid]
            exact ih

end RlyGateway
