import RlyGateway.Library.Fallible
import RlyGateway.Protocols.OpenAiResponses.Continuation

/-!
# Responses conversations

The items of a conversation, as the client and the provider sent them turn by turn, and the canonical
messages that stand for them. A continued request has the messages of all items of its conversation,
one for each item, whatever turns were stored before it.
-/

namespace RlyGateway

/-! ## Items -/

/-- An item of a conversation: a function call, an output, or a message of a role that says anything
else. -/
inductive TranscriptItem where
  | call (callId : String)
  | output (callId : String)
  | message (role : MessageRole)
deriving DecidableEq, Repr

/-- The conversation item of a message item; one that says nothing has none. -/
def messageItems (role : ItemRole) (content : String ⊕ List Json) : List TranscriptItem :=
  if content = .inr [] then []
  else match role with
    | .user => [.message .user]
    | .assistant => [.message .assistant]
    | .system => []

/-- The conversation items of an input item. -/
def inputItem (raw : Json) : List TranscriptItem :=
  match knownItem raw with
  | some (.message role content) => messageItems role content
  | some (.functionCall callId _ _) => [.call callId]
  | some (.functionCallOutput callId _) => [.output callId]
  | some (.reasoning _ _ _) => [.message .assistant]
  | none => []

/-- The conversation items of a body's input. -/
def inputItems (raw : Json) : List TranscriptItem :=
  (((raw.field? "input").bind rawInput).getD []).flatMap inputItem

/-- The conversation items of an output item. -/
def outputItem (item : Json) : List TranscriptItem :=
  match outputItemKind item with
  | .message => if outputMessageTexts item = [] then [] else [.message .assistant]
  | .functionCall => [.call (outputCallId item)]
  | .reasoning => [.message .assistant]
  | .other => []

/-- The canonical message of a conversation item. -/
inductive Shows : CanonicalMessage → TranscriptItem → Prop
  | call (callId name : String) (input : Option Json) :
      Shows ⟨.assistant, [.toolCall callId name input]⟩ (.call callId)
  | output (callId : String) (content : List CanonicalContent) (isError : Bool) :
      Shows ⟨.user, [.toolResult callId content isError]⟩ (.output callId)
  | message (role : MessageRole) (content : List CanonicalContent)
      (h : ∀ item ∈ content, item.isToolCall = false ∧ item.isToolResult = false) :
      Shows ⟨role, content⟩ (.message role)

/-- A single reasoning item is a message without calls and results. -/
theorem shows_reasoning (text : String) (id : Option String) :
    Shows ⟨.assistant, [.reasoning text id]⟩ (.message .assistant) := by
  refine .message .assistant _ fun item hitem => ?_
  rw [List.mem_singleton] at hitem
  rw [hitem]
  exact ⟨rfl, rfl⟩

/-! ## Decoding -/

/-- A part of a message is a text or an image. -/
theorem parsePart_eq_ok {part : Json} {item : CanonicalContent} (h : parsePart part = .ok item) :
    (∃ s, item = .text s) ∨ ∃ mediaType data, item = .image mediaType data := by
  unfold parsePart parseImage at h
  dsimp only at h
  split at h
  · split at h
    · cases h
      exact .inl ⟨_, rfl⟩
    · split at h
      · cases h
        exact .inl ⟨_, rfl⟩
      · cases h
  · split at h
    · split at h
      · cases h
        exact .inr ⟨_, _, rfl⟩
      · split at h
        · cases h
          exact .inr ⟨_, _, rfl⟩
        · cases h
      · cases h
    · cases h

/-- The content of a message item is one of texts and images. -/
theorem parseMessageContent_eq_ok {raw : String ⊕ List Json} {content : List CanonicalContent}
    (h : parseMessageContent raw = .ok content) :
    ∀ item ∈ content, (∃ s, item = .text s) ∨ ∃ mediaType data, item = .image mediaType data := by
  intro item hitem
  cases raw with
  | inl text =>
      cases h
      exact .inl ⟨text, List.mem_singleton.1 hitem⟩
  | inr parts =>
      obtain ⟨part, -, hpart⟩ := (Except.forall₂_of_mapM_eq_ok h).exists_left hitem
      exact parsePart_eq_ok hpart

/-- The content of a message item has no calls and results, and there is some where the item has
any. -/
theorem parseMessageContent_plain {raw : String ⊕ List Json} {content : List CanonicalContent}
    (h : parseMessageContent raw = .ok content) :
    (∀ item ∈ content, item.isToolCall = false ∧ item.isToolResult = false) ∧
      (content = [] ↔ raw = .inr []) := by
  constructor
  · intro item hitem
    rcases parseMessageContent_eq_ok h item hitem with ⟨s, rfl⟩ | ⟨mediaType, data, rfl⟩
    · exact ⟨rfl, rfl⟩
    · exact ⟨rfl, rfl⟩
  · cases raw with
    | inl text =>
        cases h
        simp
    | inr parts =>
        rw [Sum.inr.injEq, ← List.length_eq_zero_iff, ← List.length_eq_zero_iff,
          (Except.forall₂_of_mapM_eq_ok h).length_eq]

/-- The message of a user's or an assistant's item stands for it; one that says nothing has none. -/
theorem shows_messageItem (role : MessageRole) {raw : String ⊕ List Json}
    {content : List CanonicalContent} (h : parseMessageContent raw = .ok content) :
    List.Forall₂ Shows (DecodedItem.messages ⟨some role, content, [], []⟩)
      (if raw = .inr [] then [] else [.message role]) := by
  obtain ⟨hplain, hempty⟩ := parseMessageContent_plain h
  unfold DecodedItem.messages
  dsimp only
  by_cases hnone : content = []
  · rw [if_pos hnone, if_pos (hempty.1 hnone)]
    exact List.Forall₂.nil
  · rw [if_neg hnone, if_neg (hempty.not.1 hnone)]
    exact List.Forall₂.cons (.message role content hplain) List.Forall₂.nil

/-- The message of an item has the content of the item. -/
theorem content_of_mem_messages {decoded : DecodedItem} {message : CanonicalMessage}
    (h : message ∈ decoded.messages) : message.content = decoded.content := by
  unfold DecodedItem.messages at h
  split at h
  · split at h
    · exact absurd h List.not_mem_nil
    · rw [List.mem_singleton.1 h]
  · exact absurd h List.not_mem_nil

/-- What a known item decodes to; a system item joins the instructions and is no message. -/
inductive DecodesTo : KnownItem → DecodedItem → Prop
  | system {content : String ⊕ List Json} {parsed : List CanonicalContent}
      (h : parseMessageContent content = .ok parsed) :
      DecodesTo (.message .system content) ⟨none, [], parsed, []⟩
  | user {content : String ⊕ List Json} {parsed : List CanonicalContent}
      (h : parseMessageContent content = .ok parsed) :
      DecodesTo (.message .user content) ⟨some .user, parsed, [], []⟩
  | assistant {content : String ⊕ List Json} {parsed : List CanonicalContent}
      (h : parseMessageContent content = .ok parsed) :
      DecodesTo (.message .assistant content) ⟨some .assistant, parsed, [], []⟩
  | functionCall (callId name : String) (arguments : Option String) :
      DecodesTo (.functionCall callId name arguments)
        ⟨some .assistant, [.toolCall callId name (some (functionCallInput arguments))], [], []⟩
  | functionCallOutput (callId : String) (output : Json) :
      DecodesTo (.functionCallOutput callId output)
        ⟨some .user, [.toolResult callId [.text (functionOutputText output)] false], [], []⟩
  | reasoning (id : Option String) (summary : Option (List String))
      (encryptedContent : Option String) :
      DecodesTo (.reasoning id summary encryptedContent)
        ⟨some .assistant, [.reasoning (String.intercalate "\n" (summary.getD [])) id], [],
          (encryptedContent.filter (· ≠ "")).toList.map fun value =>
            ⟨.openaiReasoningEncryptedContent, id.getD "reasoning-item", value⟩⟩

/-- An item that is accepted is a known one. -/
theorem parseItem_eq_ok {raw : Json} {item : DecodedItem} (h : parseItem raw = .ok item) :
    ∃ known, knownItem raw = some known ∧ DecodesTo known item := by
  unfold parseItem at h
  split at h
  · cases h
  · split at h
    · cases h
    case h_2 role content hknown =>
      obtain ⟨parsed, hparsed, hrole⟩ := Except.bind_eq_ok.1 h
      cases role with
      | system =>
          cases hrole
          exact ⟨_, hknown, .system hparsed⟩
      | user =>
          cases hrole
          exact ⟨_, hknown, .user hparsed⟩
      | assistant =>
          cases hrole
          exact ⟨_, hknown, .assistant hparsed⟩
    case h_3 callId name arguments hknown =>
      cases h
      exact ⟨_, hknown, .functionCall callId name arguments⟩
    case h_4 callId output hknown =>
      cases h
      exact ⟨_, hknown, .functionCallOutput callId output⟩
    case h_5 id summary encryptedContent hknown =>
      cases h
      exact ⟨_, hknown, .reasoning id summary encryptedContent⟩

/-- The message of an input item stands for it. -/
theorem shows_parseItem {raw : Json} {item : DecodedItem} (h : parseItem raw = .ok item) :
    List.Forall₂ Shows item.messages (inputItem raw) := by
  obtain ⟨known, hknown, hdecodes⟩ := parseItem_eq_ok h
  unfold inputItem
  rw [hknown]
  cases hdecodes with
  | @system content parsed _ =>
      show List.Forall₂ Shows [] (if content = .inr [] then [] else [])
      rw [ite_self]
      exact List.Forall₂.nil
  | user hparsed => exact shows_messageItem .user hparsed
  | assistant hparsed => exact shows_messageItem .assistant hparsed
  | functionCall callId name arguments =>
      exact List.Forall₂.cons (.call callId name _) List.Forall₂.nil
  | functionCallOutput callId output =>
      exact List.Forall₂.cons (.output callId _ false) List.Forall₂.nil
  | reasoning id summary encryptedContent =>
      exact List.Forall₂.cons (shows_reasoning _ id) List.Forall₂.nil

/-- The loop decodes its items one by one. -/
theorem decodeItems_eq_ok {items result : DecodedItems} {raws : List Json}
    (h : decodeItems items raws = .ok result) :
    ∃ decoded, List.Forall₂ (fun raw item => parseItem raw = .ok item) raws decoded ∧
      result.messages = items.messages ++ decoded.flatMap DecodedItem.messages ∧
      result.artifacts = items.artifacts ++ decoded.flatMap (·.artifacts) := by
  induction raws generalizing items with
  | nil =>
      cases h
      exact ⟨[], List.Forall₂.nil, (List.append_nil _).symm, (List.append_nil _).symm⟩
  | cons raw raws ih =>
      obtain ⟨item, hitem, hrest⟩ := Except.bind_eq_ok.1 h
      obtain ⟨decoded, hdecoded, hmessages, hartifacts⟩ := ih hrest
      refine ⟨item :: decoded, List.Forall₂.cons hitem hdecoded, ?_, ?_⟩
      · rw [hmessages, List.flatMap_cons, ← List.append_assoc]
        rfl
      · rw [hartifacts, List.flatMap_cons, ← List.append_assoc]
        rfl

/-- The response a body continues from. -/
def previousId (raw : Json) : Option String :=
  (raw.field? "previous_response_id").bind Json.nonEmptyString

/-- The input and the previous response of a validated body. -/
theorem rawResponsesRequest_eq_some {raw : Json} {value : RawResponsesRequest}
    (h : rawResponsesRequest raw = some value) :
    value.input = (raw.field? "input").bind rawInput ∧
      value.previousResponseId = previousId raw := by
  unfold rawResponsesRequest at h
  obtain ⟨fields, -, h⟩ := Option.bind_eq_some_iff.1 h
  obtain ⟨model, -, h⟩ := Option.bind_eq_some_iff.1 h
  obtain ⟨input, hinput, h⟩ := Option.bind_eq_some_iff.1 h
  obtain ⟨instructions, -, h⟩ := Option.bind_eq_some_iff.1 h
  obtain ⟨tools, -, h⟩ := Option.bind_eq_some_iff.1 h
  obtain ⟨toolChoice, -, h⟩ := Option.bind_eq_some_iff.1 h
  obtain ⟨stream, -, h⟩ := Option.bind_eq_some_iff.1 h
  obtain ⟨previous, hprevious, h⟩ := Option.bind_eq_some_iff.1 h
  obtain ⟨maxOutputTokens, -, h⟩ := Option.bind_eq_some_iff.1 h
  obtain ⟨temperature, -, h⟩ := Option.bind_eq_some_iff.1 h
  obtain ⟨topP, -, h⟩ := Option.bind_eq_some_iff.1 h
  obtain ⟨reasoning, -, h⟩ := Option.bind_eq_some_iff.1 h
  obtain ⟨included, -, h⟩ := Option.bind_eq_some_iff.1 h
  obtain ⟨storeField, -, h⟩ := Option.bind_eq_some_iff.1 h
  obtain ⟨metadata, -, h⟩ := Option.bind_eq_some_iff.1 h
  cases h
  exact ⟨Json.eq_bind_of_optional_eq_some hinput, Json.eq_bind_of_optional_eq_some hprevious⟩

/-- The items of a body's input. -/
def rawItems (raw : Json) : List Json := ((raw.field? "input").bind rawInput).getD []

/-- The envelope of a request has the artifacts of its items. -/
theorem envelopeArtifacts_responsesFidelity (headers : Headers) (input : List CanonicalContent)
    (artifacts : List OpaqueArtifact) (included : Option (List String)) (ignored : List String) :
    envelopeArtifacts (responsesFidelity headers input artifacts included ignored) = artifacts := by
  unfold responsesFidelity
  split
  case isTrue hnone => exact hnone.1.symm
  case isFalse =>
    dsimp only
    split
    · rfl
    · rfl

/-- The messages and the artifacts of a decoded request are those of the items of its input. -/
theorem decodeResponsesRequest_eq_ok {environment : DecoderEnvironment} {raw : Json}
    {headers : Headers} {decoded : DecodedRequest}
    (h : decodeResponsesRequest environment raw headers = .ok decoded) :
    ∃ items, List.Forall₂ (fun raw item => parseItem raw = .ok item) (rawItems raw) items ∧
      decoded.request.messages = items.flatMap DecodedItem.messages ∧
      envelopeArtifacts decoded.request.fidelity = items.flatMap (·.artifacts) ∧
      decoded.request.previousResponseId = previousId raw := by
  unfold decodeResponsesRequest at h
  split at h
  · cases h
  case h_2 value hvalue =>
    obtain ⟨hinput, hprevious⟩ := rawResponsesRequest_eq_some hvalue
    obtain ⟨⟨⟩, -, h⟩ := Except.bind_eq_ok.1 h
    obtain ⟨result, hresult, h⟩ := Except.bind_eq_ok.1 h
    obtain ⟨tools, -, h⟩ := Except.bind_eq_ok.1 h
    obtain ⟨items, hitems, hmessages, hartifacts⟩ := decodeItems_eq_ok hresult
    rw [hinput] at hitems
    cases h
    refine ⟨items, hitems, hmessages, ?_, hprevious⟩
    rw [envelopeArtifacts_responsesFidelity, hartifacts]
    rfl

/-- The messages of a decoded request stand for the items of its input. -/
theorem shows_decodeResponsesRequest {environment : DecoderEnvironment} {raw : Json}
    {headers : Headers} {decoded : DecodedRequest}
    (h : decodeResponsesRequest environment raw headers = .ok decoded) :
    List.Forall₂ Shows decoded.request.messages (inputItems raw) ∧
      decoded.request.previousResponseId = previousId raw := by
  obtain ⟨items, hitems, hmessages, -, hprevious⟩ := decodeResponsesRequest_eq_ok h
  refine ⟨?_, hprevious⟩
  rw [hmessages]
  exact List.rel_flatMap hitems.flip fun item raw hitem => shows_parseItem hitem

/-! ## Turns -/

/-- The messages of an output item stand for it. -/
theorem shows_messageFromOutput (item : Json) :
    List.Forall₂ Shows (messageFromOutput item) (outputItem item) := by
  unfold messageFromOutput outputItem
  cases outputItemKind item with
  | message =>
      dsimp only
      split
      · exact List.Forall₂.nil
      · refine List.Forall₂.cons (Shows.message .assistant _ ?_) List.Forall₂.nil
        intro content hcontent
        obtain ⟨text, -, rfl⟩ := List.mem_map.1 hcontent
        exact ⟨rfl, rfl⟩
  | functionCall => exact List.Forall₂.cons (Shows.call _ _ _) List.Forall₂.nil
  | reasoning => exact List.Forall₂.cons (shows_reasoning _ _) List.Forall₂.nil
  | other => exact List.Forall₂.nil

theorem shows_messagesFromOutput (output : List Json) :
    List.Forall₂ Shows (messagesFromOutput output) (output.flatMap outputItem) := by
  induction output with
  | nil => exact List.Forall₂.nil
  | cons item output ih => exact List.rel_append (shows_messageFromOutput item) ih

/-- The items of the conversation a response ends, for each stored response. -/
abbrev ConversationItems := String → List TranscriptItem

/-- The items in front of a request: those of the conversation it continues. -/
def earlierItems (items : ConversationItems) (raw : Json) : List TranscriptItem :=
  (previousId raw).elim [] items

/-- The stores that requests lead to, and the items of the conversation behind each of their
responses. A response is stored after any others that were stored since its request was continued,
and a file can be removed at any time. -/
inductive StoreRun : ResponseContinuationStore → ConversationItems → Prop
  | empty : StoreRun (fun _ => none) fun _ => []
  | remember {store before : ResponseContinuationStore} {items itemsBefore : ConversationItems}
      {environment : DecoderEnvironment} {raw : Json} {headers : Headers}
      {decoded : DecodedRequest} {request : CanonicalRequest} {id model createdAt : String}
      {output : List Json} {stored : StoredResponse} {after : ResponseContinuationStore}
      (hbefore : StoreRun before itemsBefore) (hstore : StoreRun store items)
      (hdecoded : decodeResponsesRequest environment raw headers = .ok decoded)
      (happly : before.apply decoded.request = .ok request)
      (hremember : store.rememberAggregated request id model output createdAt =
        .ok (stored, after)) :
      StoreRun after (Function.update items id
        (earlierItems itemsBefore raw ++ inputItems raw ++ output.flatMap outputItem))
  | remove {store : ResponseContinuationStore} {items : ConversationItems} (id : String)
      (hstore : StoreRun store items) : StoreRun (Function.update store id none) items

/-- The messages of each stored response stand for the items of its conversation. -/
def StoreShows (store : ResponseContinuationStore) (items : ConversationItems) : Prop :=
  ∀ id, ∀ stored ∈ store id, List.Forall₂ Shows stored.messages (items id)

/-- A continued request stands for its whole conversation. -/
theorem StoreShows.apply {store : ResponseContinuationStore} {items : ConversationItems}
    (h : StoreShows store items) {environment : DecoderEnvironment} {raw : Json} {headers : Headers}
    {decoded : DecodedRequest} {request : CanonicalRequest}
    (hdecoded : decodeResponsesRequest environment raw headers = .ok decoded)
    (happly : store.apply decoded.request = .ok request) :
    List.Forall₂ Shows request.messages (earlierItems items raw ++ inputItems raw) := by
  obtain ⟨hshows, hprevious⟩ := shows_decodeResponsesRequest hdecoded
  unfold ResponseContinuationStore.apply earlierItems at *
  rw [hprevious] at happly
  cases hid : previousId raw with
  | none =>
      rw [hid] at happly
      cases happly
      exact hshows
  | some id =>
      rw [hid] at happly
      obtain ⟨found, hget, happly⟩ := Except.bind_eq_ok.1 happly
      obtain ⟨⟨⟩, -, hfound⟩ := Except.bind_eq_ok.1 hget
      cases hfound
      split at happly
      · cases happly
      case h_2 previous hprevious =>
        cases happly
        have hstored := (Option.filter_eq_some_iff.1 hprevious).1
        exact List.rel_append (h id previous hstored) hshows

/-- Whatever was stored, the messages stand for the items. -/
theorem StoreRun.shows {store : ResponseContinuationStore} {items : ConversationItems}
    (h : StoreRun store items) : StoreShows store items := by
  induction h with
  | empty =>
      intro id stored hstored
      cases hstored
  | @remember store before items itemsBefore environment raw headers decoded request id model
      createdAt output stored after _ _ hdecoded happly hremember ihbefore ihstore =>
      obtain ⟨next, hput, hnext⟩ := Except.bind_eq_ok.1 hremember
      obtain ⟨⟨⟩, -, hfile⟩ := Except.bind_eq_ok.1 hput
      cases hfile
      cases hnext
      intro id' found hfound
      -- the turn is stored under its own id, and every other response stays
      by_cases hid : id' = id
      · subst hid
        rw [Function.update_self] at hfound ⊢
        cases hfound
        exact List.rel_append (ihbefore.apply hdecoded happly) (shows_messagesFromOutput output)
      · rw [Function.update_of_ne hid] at hfound ⊢
        exact ihstore id' found hfound
  -- a removed response is continued by no one
  | @remove store items id _ ih =>
      intro id' found hfound
      by_cases hid : id' = id
      · subst hid
        rw [Function.update_self] at hfound
        cases hfound
      · rw [Function.update_of_ne hid] at hfound
        exact ih id' found hfound

end RlyGateway
