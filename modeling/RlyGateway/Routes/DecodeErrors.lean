import RlyGateway.Library.DecodeFailures
import RlyGateway.Protocols.OpenAiResponses.Decoder

/-!
# What a refused body is answered

`statusFor` of the Messages and of the Responses route: the status of an error by its class, where
an error of no known class counts as a failure of the upstream. What a decoder refuses is a client's
error only as an error of its protocol.
-/

namespace RlyGateway

open DecodeFailure (Escapes Untranslated ErrorsAre)

/-! ## The status of an error -/

/-- The errors that a route tells apart. A provider's error may have information, which is
translated to a status. -/
inductive RouteError (ε : Type) where
  | protocolError (failure : ε)
  | unsupportedRoute
  | profileActivation
  | noEligibleAccount
  | providerAdapter (translatedStatus : Option ℕ)
  | other

/-- The status of an error without information about a provider, by the protocol of the route. -/
inductive ErrorTarget where
  | openaiResponses
  | anthropicMessages
deriving DecidableEq, Repr

def ErrorTarget.upstreamStatus : ErrorTarget → ℕ
  | .openaiResponses => 502
  | .anthropicMessages => 529

def providerErrorStatus {ε : Type} (target : ErrorTarget) : RouteError ε → ℕ
  | .providerAdapter (some status) => status
  | _ => target.upstreamStatus

def statusFor {ε : Type} (target : ErrorTarget) (statusCode : ε → ℕ) : RouteError ε → ℕ
  | .protocolError failure => statusCode failure
  | .unsupportedRoute | .profileActivation => 400
  | .noEligibleAccount => 503
  | error => providerErrorStatus target error

/-- The error that a route catches from its decoder. -/
def thrownBy {ε : Type} : DecodeFailure ε → RouteError ε
  | .protocolError failure => .protocolError failure
  | .validationError | .conversionError => .other

/-- The class and the status of a refusal. -/
structure Refusal where
  isProtocolError : Bool
  status : ℕ
deriving DecidableEq, Repr

def refusalOf {ε : Type} (target : ErrorTarget) (statusCode : ε → ℕ)
    (failure : DecodeFailure ε) : Refusal where
  isProtocolError := match failure with
    | .protocolError _ => true
    | _ => false
  status := statusFor target statusCode (thrownBy failure)

/-- The refusal of a posted body, if its decoder refuses it. -/
def refusedBy (environment : DecoderEnvironment) (target : ErrorTarget) (raw : Json)
    (headers : Headers) : Option Refusal :=
  match target with
  | .anthropicMessages =>
      match decodeAnthropicRequest environment raw headers with
      | .ok _ => none
      | .error failure => some (refusalOf target AnthropicProtocolError.statusCode failure)
  | .openaiResponses =>
      match decodeResponsesRequest environment raw headers with
      | .ok _ => none
      | .error failure => some (refusalOf target ResponsesProtocolError.statusCode failure)

/-- A body is refused as an error of the client, if it is refused: with an error of the protocol and
a status that says so. -/
structure RefusesAsClientError (environment : DecoderEnvironment) (target : ErrorTarget)
    (raw : Json) (headers : Headers) : Prop where
  protocolError : ∀ refusal, refusedBy environment target raw headers = some refusal →
    refusal.isProtocolError = true
  clientStatus : ∀ refusal, refusedBy environment target raw headers = some refusal →
    400 ≤ refusal.status ∧ refusal.status < 500
  notRetryable : ∀ refusal, refusedBy environment target raw headers = some refusal →
    refusal.status ≠ 529 ∧ refusal.status ≠ 502

/-! ## Bodies whose refusal escapes the protocol -/

mutual

/-- A content block that holds content blocks only, in the contents of tool results at any depth. -/
def validBlock : Json → Bool
  | .obj fields =>
      match contentBlock (.obj fields) with
      | none => false
      | some (.toolResult _ _) => validResult fields
      | some _ => true
  | _ => false

def validResult : List (String × Json) → Bool
  | [] => true
  | (name, value) :: fields => if name = "content" then validContent value else validResult fields

def validContent : Json → Bool
  | .arr items => validBlocks items
  | _ => true

def validBlocks : List Json → Bool
  | [] => true
  | item :: items => validBlock item && validBlocks items

end

/-- A role that a message may have. -/
def supportedRole (role : String) : Bool := role ∈ ["system", "user", "assistant"]

/-- A message is reached whose content is not valid, before one whose role is not supported. -/
def MessagesEscape (messages : List RawMessage) : Prop :=
  messages.Meets (fun message => validContent message.content ∧ supportedRole message.role)
    fun message => validContent message.content = false

def partType (part : Json) : String := (part.strField? "type").getD ""

def isTextPart (part : Json) : Bool := partType part ∈ ["input_text", "output_text", "text"]

def isImagePart (part : Json) : Bool := partType part ∈ ["input_image", "image_url"]

/-- A text part whose text cannot be converted, or an image part that is not well formed. -/
def PartEscapes (part : Json) : Prop :=
  (isTextPart part ∧ ∃ value, part.field? "text" = some value ∧ value.hasText = false) ∨
    (isImagePart part ∧ (part.optional "image_url" imageUrl = none ∨
      part.optional "source" imageSource = none))

/-- A text part whose text can be converted, or an image part with a source or a data URL. -/
def PartAccepted (part : Json) : Prop :=
  (isTextPart part ∧ ∀ value, part.field? "text" = some value → value.hasText) ∨
    (isImagePart part ∧ ∃ url source, part.optional "image_url" imageUrl = some url ∧
      part.optional "source" imageSource = some source ∧
        (source.isSome ∨ (url.bind parseDataUrl).isSome))

/-- A message item in which a part is reached that escapes. -/
def ItemEscapes (raw : Json) : Prop :=
  ∃ role parts, knownItem raw = some (.message role (.inr parts)) ∧
    parts.Meets PartAccepted PartEscapes

/-- A known item, of whose parts all are accepted if it is a message of parts. -/
def ItemAccepted (raw : Json) : Prop :=
  ∃ item, knownItem raw = some item ∧
    ∀ role parts, item = .message role (.inr parts) → ∀ part ∈ parts, PartAccepted part

def ToolAccepted (tool : Json) : Prop := (responsesTool tool).isSome

/-- A tool that is not known, with a type that cannot be converted for the error that names it. -/
def ToolEscapes (tool : Json) : Prop :=
  responsesTool tool = none ∧ ∃ type, tool.field? "type" = some type ∧ type.hasText = false

/-- The includes are supported, and an item is reached that escapes, or all items are accepted and a
tool is reached that does. -/
def ResponsesEscape (value : RawResponsesRequest) : Prop :=
  (∀ name ∈ value.included.getD [], name ∈ supportedInclude) ∧
    ((value.input.getD []).Meets ItemAccepted ItemEscapes ∨
      ((∀ item ∈ value.input.getD [], ItemAccepted item) ∧
        (value.tools.getD []).Meets ToolAccepted ToolEscapes))

/-- The body matches the fields of the protocol, and what is in it is refused by a failure that
nobody translates. -/
def BodyEscapes (target : ErrorTarget) (raw : Json) : Prop :=
  match target with
  | .anthropicMessages => ∃ value, rawMessagesRequest raw = some value ∧ MessagesEscape value.messages
  | .openaiResponses => ∃ value, rawResponsesRequest raw = some value ∧ ResponsesEscape value

/-! ## Messages -/

/-- A decoder of content succeeds or fails by the validator. -/
def DecidedBy {α : Type} (valid : Bool) (x : Except (DecodeFailure AnthropicProtocolError) α) :
    Prop :=
  if valid then ∃ a, x = .ok a else x = .error .validationError

mutual

theorem decidedBy_decodeBlock : (value : Json) → DecidedBy (validBlock value) (decodeBlock value)
  | .obj fields => by
      have hresult := decidedBy_resultContent fields
      rw [validBlock, decodeBlock]
      split
      · rename_i hblock
        rw [hblock]
        rfl
      · rename_i id isError hblock
        rw [hblock]
        unfold DecidedBy at hresult ⊢
        split at hresult
        · rename_i hvalid
          obtain ⟨content, hcontent⟩ := hresult
          rw [if_pos hvalid]
          refine ⟨.toolResult id content (isError.getD false), ?_⟩
          simp only [hcontent]
          rfl
        · rename_i hvalid
          rw [if_neg hvalid]
          simp only [hresult]
          rfl
      · rename_i block hnot hblock
        rw [hblock]
        unfold DecidedBy
        rw [if_pos rfl]
        cases block with
        | toolResult id isError => exact absurd rfl (hnot id isError)
        | _ => exact ⟨_, rfl⟩
  | .null | .bool _ | .num _ | .str _ | .arr _ => by
      rw [validBlock, decodeBlock]
      · rfl
      all_goals simp

theorem decidedBy_resultContent :
    (fields : List (String × Json)) → DecidedBy (validResult fields) (resultContent fields)
  | [] => by
      rw [validResult, resultContent]
      exact ⟨[], rfl⟩
  | (name, value) :: fields => by
      rw [validResult, resultContent]
      split
      · exact decidedBy_blocks value
      · exact decidedBy_resultContent fields

theorem decidedBy_blocks : (value : Json) → DecidedBy (validContent value) (blocks value)
  | .arr items => by
      rw [validContent, blocks]
      exact decidedBy_decodeBlocks items
  | .str text => by
      rw [validContent, blocks]
      · exact ⟨[.text text], rfl⟩
      all_goals simp
  | .null | .bool _ | .num _ | .obj _ => by
      rw [validContent, blocks]
      · exact ⟨[], rfl⟩
      all_goals simp

theorem decidedBy_decodeBlocks :
    (items : List Json) → DecidedBy (validBlocks items) (decodeBlocks items)
  | [] => by
      rw [validBlocks, decodeBlocks]
      exact ⟨[], rfl⟩
  | item :: items => by
      have hitem := decidedBy_decodeBlock item
      have hrest := decidedBy_decodeBlocks items
      rw [validBlocks, decodeBlocks]
      unfold DecidedBy at hitem hrest ⊢
      cases hvalid : validBlock item with
      | false =>
          rw [hvalid] at hitem
          rw [(hitem : decodeBlock item = _)]
          rfl
      | true =>
          rw [hvalid] at hitem
          obtain ⟨content, hcontent⟩ := hitem
          rw [hcontent]
          cases hvalid' : validBlocks items with
          | false =>
              rw [hvalid'] at hrest
              rw [(hrest : decodeBlocks items = _)]
              rfl
          | true =>
              rw [hvalid'] at hrest
              obtain ⟨rest, hrest⟩ := hrest
              rw [hrest]
              exact ⟨content :: rest, rfl⟩

end

/-- Content decodes exactly when it is valid, and otherwise the failure escapes. -/
theorem blocks_eq_ok_iff (content : Json) :
    (∃ contents, blocks content = .ok contents) ↔ validContent content = true := by
  have h := decidedBy_blocks content
  cases hvalid : validContent content with
  | true =>
      rw [hvalid] at h
      exact iff_of_true h rfl
  | false =>
      rw [hvalid] at h
      rw [(h : blocks content = _)]
      simp

theorem escapes_blocks_iff (content : Json) :
    Escapes (blocks content) ↔ validContent content = false := by
  have h := decidedBy_blocks content
  cases hvalid : validContent content with
  | true =>
      rw [hvalid] at h
      obtain ⟨contents, hcontents⟩ := h
      rw [hcontents]
      simp
  | false =>
      rw [hvalid] at h
      rw [(h : blocks content = _)]
      simp

/-- The messages are decoded in order, each with its content before its role is looked at. -/
theorem escapes_decodeMessages_iff (system : List CanonicalContent) (messages : List RawMessage) :
    Escapes (decodeMessages system messages) ↔ MessagesEscape messages := by
  unfold MessagesEscape
  induction messages generalizing system with
  | nil =>
      rw [decodeMessages]
      exact iff_of_false (DecodeFailure.not_escapes_ok _) List.not_meets_nil
  | cons message rest ih =>
      rw [decodeMessages, DecodeFailure.escapes_bind, List.meets_cons, escapes_blocks_iff]
      refine or_congr Iff.rfl ?_
      -- past the content, what escapes does so in the rest
      have hlater : ∀ (content system : List CanonicalContent) (role : MessageRole),
          Escapes (do
            let decoded ← decodeMessages system rest
            .ok (decoded.1, (⟨role, content⟩ : CanonicalMessage) :: decoded.2)) ↔
            Escapes (decodeMessages system rest) := by
        intro content system role
        rw [DecodeFailure.escapes_bind]
        simp
      have hrest : ∀ content : List CanonicalContent,
          Escapes (if message.role = "system" then decodeMessages (system ++ content) rest
            else if message.role = "user" then do
              let decoded ← decodeMessages system rest
              .ok (decoded.1, (⟨.user, content⟩ : CanonicalMessage) :: decoded.2)
            else if message.role = "assistant" then do
              let decoded ← decodeMessages system rest
              .ok (decoded.1, ⟨.assistant, content⟩ :: decoded.2)
            else .error (anthropicRequestError ("Unsupported message role: " ++ message.role))) ↔
            supportedRole message.role = true ∧ rest.Meets
              (fun message => validContent message.content ∧ supportedRole message.role)
              fun message => validContent message.content = false := by
        intro content
        by_cases hsystem : message.role = "system"
        · rw [if_pos hsystem, ih]
          simp [supportedRole, hsystem]
        · rw [if_neg hsystem]
          by_cases huser : message.role = "user"
          · rw [if_pos huser]
            refine (hlater content system .user).trans ?_
            rw [ih]
            simp [supportedRole, huser]
          · rw [if_neg huser]
            by_cases hassistant : message.role = "assistant"
            · rw [if_pos hassistant]
              refine (hlater content system .assistant).trans ?_
              rw [ih]
              simp [supportedRole, hassistant]
            · rw [if_neg hassistant]
              refine iff_of_false (DecodeFailure.not_escapes_protocolError _) ?_
              rintro ⟨hrole, -⟩
              simp [supportedRole, hsystem, huser, hassistant] at hrole
      constructor
      · rintro ⟨content, hcontent, h⟩
        obtain ⟨hrole, hmeets⟩ := (hrest content).1 h
        exact ⟨⟨(blocks_eq_ok_iff _).1 ⟨content, hcontent⟩, hrole⟩, hmeets⟩
      · rintro ⟨⟨hvalid, hrole⟩, hmeets⟩
        obtain ⟨content, hcontent⟩ := (blocks_eq_ok_iff _).2 hvalid
        exact ⟨content, hcontent, (hrest content).2 ⟨hrole, hmeets⟩⟩

/-- A Messages body escapes exactly with its messages. -/
theorem escapes_decodeAnthropicRequest_iff (environment : DecoderEnvironment) (raw : Json)
    (headers : Headers) : Escapes (decodeAnthropicRequest environment raw headers) ↔
      BodyEscapes .anthropicMessages raw := by
  unfold BodyEscapes decodeAnthropicRequest
  dsimp only
  cases hraw : rawMessagesRequest raw with
  | none =>
      refine iff_of_false (DecodeFailure.not_escapes_protocolError _) ?_
      rintro ⟨value, h, -⟩
      cases h
  | some value =>
      dsimp only
      rw [DecodeFailure.escapes_bind, escapes_decodeMessages_iff]
      simp

/-! ## Responses -/

/-- An image part decodes with a source or with a data URL, and its failure escapes when it is not
well formed. -/
theorem parseImage_eq_ok_iff (part : Json) :
    (∃ content, parseImage part = .ok content) ↔
      ∃ url source, part.optional "image_url" imageUrl = some url ∧
        part.optional "source" imageSource = some source ∧
          (source.isSome ∨ (url.bind parseDataUrl).isSome) := by
  unfold parseImage
  rcases part.optional "image_url" imageUrl with _ | url
  · simp
  · rcases part.optional "source" imageSource with _ | _ | ⟨mediaType, data⟩
    · simp
    · cases hurl : url.bind parseDataUrl with
      | none => simp [hurl]
      | some found => simp [hurl]
    · simp

theorem escapes_parseImage_iff (part : Json) : Escapes (parseImage part) ↔
    part.optional "image_url" imageUrl = none ∨ part.optional "source" imageSource = none := by
  unfold parseImage
  rcases part.optional "image_url" imageUrl with _ | url
  · simp
  · rcases part.optional "source" imageSource with _ | _ | ⟨mediaType, data⟩
    · simp
    · cases hurl : url.bind parseDataUrl with
      | none => simp [hurl, responsesRequestError]
      | some found => simp [hurl]
    · simp

/-- A part is read by its type. -/
theorem parsePart_cases (part : Json) :
    (isTextPart part = true ∧ isImagePart part = false ∧
        parsePart part = match part.field? "text" with
          | none => .ok (.text "")
          | some value => if value.hasText then .ok (.text value.text) else .error .conversionError) ∨
      (isTextPart part = false ∧ isImagePart part = true ∧ parsePart part = parseImage part) ∨
        (isTextPart part = false ∧ isImagePart part = false ∧
          parsePart part = .error (compatibilityUnready
            ("Unsupported required content type: " ++ partType part))) := by
  unfold parsePart isTextPart isImagePart partType
  dsimp only
  generalize (part.strField? "type").getD "" = type
  by_cases htext : type = "input_text" ∨ type = "output_text" ∨ type = "text"
  · left
    rw [if_pos htext]
    rcases htext with rfl | rfl | rfl
    · exact ⟨by decide, by decide, rfl⟩
    · exact ⟨by decide, by decide, rfl⟩
    · exact ⟨by decide, by decide, rfl⟩
  · right
    rw [if_neg htext]
    have hnot : decide (type ∈ ["input_text", "output_text", "text"]) = false := by simpa using htext
    by_cases himage : type = "input_image" ∨ type = "image_url"
    · left
      rw [if_pos himage]
      exact ⟨hnot, by simpa using himage, rfl⟩
    · right
      rw [if_neg himage]
      exact ⟨hnot, by simpa using himage, rfl⟩

theorem parsePart_eq_ok_iff (part : Json) :
    (∃ content, parsePart part = .ok content) ↔ PartAccepted part := by
  unfold PartAccepted
  rcases parsePart_cases part with ⟨htext, himage, heq⟩ | ⟨htext, himage, heq⟩ | ⟨htext, himage, heq⟩
  · rw [heq, htext, himage]
    cases part.field? "text" with
    | none => simp
    | some value =>
        by_cases hvalue : value.hasText = true
        · simp [hvalue]
        · simp [hvalue]
  · rw [heq, htext, himage, parseImage_eq_ok_iff]
    simp
  · rw [heq, htext, himage]
    simp

theorem escapes_parsePart_iff (part : Json) : Escapes (parsePart part) ↔ PartEscapes part := by
  unfold PartEscapes
  rcases parsePart_cases part with ⟨htext, himage, heq⟩ | ⟨htext, himage, heq⟩ | ⟨htext, himage, heq⟩
  · rw [heq, htext, himage]
    cases part.field? "text" with
    | none => simp
    | some value =>
        by_cases hvalue : value.hasText = true
        · simp [hvalue]
        · simp [hvalue]
  · rw [heq, htext, himage, escapes_parseImage_iff]
    simp
  · rw [heq, htext, himage]
    simp [compatibilityUnready]

/-- An item that is known has a type. -/
theorem strField?_of_knownItem {raw : Json} {item : KnownItem} (h : knownItem raw = some item) :
    ∃ type, raw.strField? "type" = some type := by
  unfold knownItem at h
  cases htype : raw.strField? "type" with
  | none =>
      rw [htype] at h
      cases h
  | some type => exact ⟨type, rfl⟩

/-- The content of a message item decodes when all its parts do. -/
theorem parseMessageContent_eq_ok_iff (content : String ⊕ List Json) :
    (∃ contents, parseMessageContent content = .ok contents) ↔
      ∀ parts, content = .inr parts → ∀ part ∈ parts, PartAccepted part := by
  cases content with
  | inl text => simp [parseMessageContent]
  | inr parts =>
      rw [parseMessageContent]
      simp only [← parsePart_eq_ok_iff]
      constructor
      · rintro ⟨contents, h⟩ parts' heq part hpart
        cases heq
        obtain ⟨found, -, hfound⟩ := (Except.forall₂_of_mapM_eq_ok h).exists_right hpart
        exact ⟨found, hfound⟩
      · intro h
        exact Except.exists_mapM_eq_ok (h parts rfl)

theorem escapes_parseMessageContent_iff (content : String ⊕ List Json) :
    Escapes (parseMessageContent content) ↔
      ∃ parts, content = .inr parts ∧ parts.Meets PartAccepted PartEscapes := by
  cases content with
  | inl text => simp [parseMessageContent]
  | inr parts =>
      rw [parseMessageContent, DecodeFailure.escapes_mapM]
      simp only [parsePart_eq_ok_iff, escapes_parsePart_iff]
      simp

/-- A message item is read by its content. -/
theorem parseItem_of_message {raw : Json} {role : ItemRole} {content : String ⊕ List Json}
    (h : knownItem raw = some (.message role content)) :
    ((∃ item, parseItem raw = .ok item) ↔ ∃ contents, parseMessageContent content = .ok contents) ∧
      (Escapes (parseItem raw) ↔ Escapes (parseMessageContent content)) := by
  obtain ⟨type, htype⟩ := strField?_of_knownItem h
  unfold parseItem
  rw [htype, h]
  dsimp only
  rw [DecodeFailure.escapes_bind]
  cases parseMessageContent content with
  | ok contents =>
      constructor
      · refine iff_of_true ?_ ⟨contents, rfl⟩
        cases role <;> exact ⟨_, rfl⟩
      · cases role <;> simp
  | error failure =>
      constructor
      · refine iff_of_false ?_ ?_
        · rintro ⟨item, hitem⟩
          cases hitem
        · rintro ⟨contents, hcontents⟩
          cases hcontents
      · simp

/-- The other known items decode. -/
theorem parseItem_of_other {raw : Json} {item : KnownItem} (h : knownItem raw = some item)
    (hother : ∀ role content, item ≠ .message role content) :
    ∃ decoded, parseItem raw = .ok decoded := by
  obtain ⟨type, htype⟩ := strField?_of_knownItem h
  unfold parseItem
  rw [htype, h]
  cases item with
  | message role content => exact absurd rfl (hother role content)
  | _ => exact ⟨_, rfl⟩

theorem parseItem_of_unknown {raw : Json} (h : knownItem raw = none) :
    ∃ failure, parseItem raw = .error (.protocolError failure) := by
  unfold parseItem
  cases raw.strField? "type" with
  | none => exact ⟨_, rfl⟩
  | some type =>
      rw [h]
      exact ⟨_, rfl⟩

theorem parseItem_eq_ok_iff (raw : Json) :
    (∃ item, parseItem raw = .ok item) ↔ ItemAccepted raw := by
  unfold ItemAccepted
  cases hknown : knownItem raw with
  | none =>
      obtain ⟨failure, hfailure⟩ := parseItem_of_unknown hknown
      simp [hfailure]
  | some item =>
      by_cases hmessage : ∃ role content, item = .message role content
      · obtain ⟨role, content, rfl⟩ := hmessage
        rw [(parseItem_of_message hknown).1, parseMessageContent_eq_ok_iff]
        constructor
        · intro h
          refine ⟨_, rfl, ?_⟩
          intro role' parts heq
          cases heq
          exact h parts rfl
        · rintro ⟨item, heq, h⟩ parts rfl
          cases heq
          exact h role parts rfl
      · push Not at hmessage
        refine iff_of_true (parseItem_of_other hknown hmessage) ⟨item, rfl, ?_⟩
        intro role parts heq
        exact absurd heq (hmessage role _)

theorem escapes_parseItem_iff (raw : Json) : Escapes (parseItem raw) ↔ ItemEscapes raw := by
  unfold ItemEscapes
  cases hknown : knownItem raw with
  | none =>
      obtain ⟨failure, hfailure⟩ := parseItem_of_unknown hknown
      simp [hfailure]
  | some item =>
      by_cases hmessage : ∃ role content, item = .message role content
      · obtain ⟨role, content, rfl⟩ := hmessage
        rw [(parseItem_of_message hknown).2, escapes_parseMessageContent_iff]
        simp
      · push Not at hmessage
        obtain ⟨decoded, hdecoded⟩ := parseItem_of_other hknown hmessage
        rw [hdecoded]
        refine iff_of_false (DecodeFailure.not_escapes_ok _) ?_
        rintro ⟨role, parts, heq, -⟩
        exact hmessage role _ (Option.some.inj heq)

/-- The items are decoded in order. -/
theorem decodeItems_eq_ok_iff (items : DecodedItems) (raws : List Json) :
    (∃ decoded, decodeItems items raws = .ok decoded) ↔ ∀ raw ∈ raws, ItemAccepted raw := by
  induction raws generalizing items with
  | nil => exact iff_of_true ⟨items, rfl⟩ fun raw hraw => absurd hraw List.not_mem_nil
  | cons raw raws ih =>
      rw [List.forall_mem_cons, ← parseItem_eq_ok_iff, decodeItems]
      constructor
      · rintro ⟨decoded, h⟩
        obtain ⟨item, hitem, hrest⟩ := Except.bind_eq_ok.1 h
        exact ⟨⟨item, hitem⟩, (ih _).1 ⟨decoded, hrest⟩⟩
      · rintro ⟨⟨item, hitem⟩, hrest⟩
        obtain ⟨decoded, hdecoded⟩ := (ih (items.add item)).2 hrest
        exact ⟨decoded, Except.bind_eq_ok.2 ⟨item, hitem, hdecoded⟩⟩

theorem escapes_decodeItems_iff (items : DecodedItems) (raws : List Json) :
    Escapes (decodeItems items raws) ↔ raws.Meets ItemAccepted ItemEscapes := by
  induction raws generalizing items with
  | nil => exact iff_of_false (DecodeFailure.not_escapes_ok _) List.not_meets_nil
  | cons raw raws ih =>
      rw [decodeItems, DecodeFailure.escapes_bind, List.meets_cons, escapes_parseItem_iff,
        ← parseItem_eq_ok_iff]
      simp only [ih]
      simp

theorem checkInclude_eq_ok_iff (names : List String) :
    checkInclude names = .ok () ↔ ∀ name ∈ names, name ∈ supportedInclude := by
  induction names with
  | nil => simp [checkInclude]
  | cons name names ih =>
      rw [checkInclude, List.forall_mem_cons]
      by_cases h : name ∈ supportedInclude
      · rw [if_pos h, ih]
        simp [h]
      · rw [if_neg h]
        simp [h]

theorem not_escapes_checkInclude (names : List String) : ¬ Escapes (checkInclude names) := by
  induction names with
  | nil => exact DecodeFailure.not_escapes_ok _
  | cons name names ih =>
      rw [checkInclude]
      split
      · exact ih
      · exact DecodeFailure.not_escapes_protocolError _

theorem parseTool_eq_ok_iff (tool : Json) :
    (∃ parsed, parseTool tool = .ok parsed) ↔ ToolAccepted tool := by
  unfold parseTool ToolAccepted
  cases responsesTool tool with
  | some parsed => simp
  | none =>
      cases tool.field? "type" with
      | none => simp
      | some type => by_cases htype : type.hasText = true <;> simp [htype]

theorem escapes_parseTool_iff (tool : Json) : Escapes (parseTool tool) ↔ ToolEscapes tool := by
  unfold parseTool ToolEscapes
  cases responsesTool tool with
  | some parsed => simp
  | none =>
      cases tool.field? "type" with
      | none => simp [compatibilityUnready]
      | some type => by_cases htype : type.hasText = true <;> simp [htype, compatibilityUnready]

/-- A Responses body escapes exactly with its items, or after these with its tools. -/
theorem escapes_decodeResponsesRequest_iff (environment : DecoderEnvironment) (raw : Json)
    (headers : Headers) : Escapes (decodeResponsesRequest environment raw headers) ↔
      BodyEscapes .openaiResponses raw := by
  unfold BodyEscapes decodeResponsesRequest
  dsimp only
  cases hraw : rawResponsesRequest raw with
  | none =>
      refine iff_of_false (DecodeFailure.not_escapes_protocolError _) ?_
      rintro ⟨value, h, -⟩
      cases h
  | some value =>
      dsimp only
      rw [DecodeFailure.escapes_bind]
      simp only [not_escapes_checkInclude, false_or, DecodeFailure.escapes_bind,
        escapes_decodeItems_iff, DecodeFailure.escapes_mapM, parseTool_eq_ok_iff,
        escapes_parseTool_iff, DecodeFailure.not_escapes_ok, and_false, exists_const, or_false]
      unfold ResponsesEscape
      constructor
      · rintro ⟨checked, hincluded, h⟩
        refine ⟨value, rfl, (checkInclude_eq_ok_iff _).1 hincluded, ?_⟩
        rcases h with h | ⟨items, hitems, h⟩
        · exact .inl h
        · exact .inr ⟨(decodeItems_eq_ok_iff _ _).1 ⟨items, hitems⟩, h⟩
      · rintro ⟨value', heq, hincluded, h⟩
        cases heq
        refine ⟨(), (checkInclude_eq_ok_iff _).2 hincluded, ?_⟩
        rcases h with h | ⟨hitems, h⟩
        · exact .inl h
        · obtain ⟨items, hdecoded⟩ := (decodeItems_eq_ok_iff _ _).2 hitems
          exact .inr ⟨items, hdecoded, h⟩

/-! ## Errors of the protocols -/

/-- All errors of the Messages protocol that its decoder throws are bad requests. -/
theorem errorsAre_decodeMessages (system : List CanonicalContent) (messages : List RawMessage) :
    ErrorsAre (·.statusCode = 400) (decodeMessages system messages) := by
  have hblocks : ∀ content : Json, ErrorsAre (·.statusCode = 400) (blocks content) := by
    intro content failure h
    have hdecided := decidedBy_blocks content
    rw [h] at hdecided
    unfold DecidedBy at hdecided
    split at hdecided
    · obtain ⟨contents, hcontents⟩ := hdecided
      cases hcontents
    · cases hdecided
  induction messages generalizing system with
  | nil => exact DecodeFailure.errorsAre_ok _
  | cons message rest ih =>
      rw [decodeMessages]
      refine (hblocks _).bind fun content => ?_
      split
      · exact ih _
      · split
        · exact (ih _).bind fun decoded => DecodeFailure.errorsAre_ok _
        · split
          · exact (ih _).bind fun decoded => DecodeFailure.errorsAre_ok _
          · intro failure h
            cases h
            rfl

theorem errorsAre_decodeAnthropicRequest (environment : DecoderEnvironment) (raw : Json)
    (headers : Headers) :
    ErrorsAre (·.statusCode = 400) (decodeAnthropicRequest environment raw headers) := by
  unfold decodeAnthropicRequest
  split
  · intro failure h
    cases h
    rfl
  · exact (errorsAre_decodeMessages _ _).bind fun decoded => DecodeFailure.errorsAre_ok _

theorem errorsAre_parsePart (part : Json) : ErrorsAre (·.statusCode = 400) (parsePart part) := by
  intro failure h
  rcases parsePart_cases part with ⟨-, -, heq⟩ | ⟨-, -, heq⟩ | ⟨-, -, heq⟩
  · rw [heq] at h
    split at h
    · cases h
    · split at h <;> cases h
  · rw [heq] at h
    unfold parseImage at h
    split at h
    · cases h
    · split at h
      · cases h
      · cases h
        rfl
    · cases h
  · rw [heq] at h
    cases h
    rfl

theorem errorsAre_parseItem (raw : Json) : ErrorsAre (·.statusCode = 400) (parseItem raw) := by
  have hcontent : ∀ content, ErrorsAre (·.statusCode = 400) (parseMessageContent content) := by
    intro content
    cases content with
    | inl text => exact DecodeFailure.errorsAre_ok _
    | inr parts => exact DecodeFailure.ErrorsAre.mapM errorsAre_parsePart parts
  unfold parseItem
  split
  · intro failure h
    cases h
    rfl
  · split
    · intro failure h
      cases h
      rfl
    · refine (hcontent _).bind fun content => ?_
      split <;> exact DecodeFailure.errorsAre_ok _
    all_goals exact DecodeFailure.errorsAre_ok _

theorem errorsAre_decodeItems (items : DecodedItems) (raws : List Json) :
    ErrorsAre (·.statusCode = 400) (decodeItems items raws) := by
  induction raws generalizing items with
  | nil => exact DecodeFailure.errorsAre_ok _
  | cons raw raws ih =>
      rw [decodeItems]
      exact (errorsAre_parseItem raw).bind fun item => ih _

theorem errorsAre_checkInclude (names : List String) :
    ErrorsAre (·.statusCode = 400) (checkInclude names) := by
  induction names with
  | nil => exact DecodeFailure.errorsAre_ok _
  | cons name names ih =>
      rw [checkInclude]
      split
      · exact ih
      · intro failure h
        cases h
        rfl

theorem errorsAre_parseTool (tool : Json) : ErrorsAre (·.statusCode = 400) (parseTool tool) := by
  intro failure h
  unfold parseTool at h
  split at h
  · cases h
  · split at h
    · cases h
      rfl
    · split at h
      · cases h
        rfl
      · cases h

/-- All errors of the Responses protocol that its decoder throws are bad requests. -/
theorem errorsAre_decodeResponsesRequest (environment : DecoderEnvironment) (raw : Json)
    (headers : Headers) :
    ErrorsAre (·.statusCode = 400) (decodeResponsesRequest environment raw headers) := by
  unfold decodeResponsesRequest
  split
  · intro failure h
    cases h
    rfl
  · refine (errorsAre_checkInclude _).bind fun checked => ?_
    refine (errorsAre_decodeItems _ _).bind fun items => ?_
    exact (DecodeFailure.ErrorsAre.mapM errorsAre_parseTool _).bind
      fun tools => DecodeFailure.errorsAre_ok _

/-! ## Refusals -/

/-- A decoder whose errors are bad requests refuses as it should exactly when nothing escapes. -/
theorem refusesAsClientError_of {ε : Type} {environment : DecoderEnvironment}
    {target : ErrorTarget} {raw : Json} {headers : Headers} {statusCode : ε → ℕ}
    {x : Except (DecodeFailure ε) DecodedRequest}
    (hok : ∀ decoded, x = .ok decoded → refusedBy environment target raw headers = none)
    (hrefused : ∀ failure, x = .error failure →
      refusedBy environment target raw headers = some (refusalOf target statusCode failure))
    (herrors : ErrorsAre (statusCode · = 400) x) :
    RefusesAsClientError environment target raw headers ↔ ¬ Escapes x := by
  cases x with
  | ok decoded =>
      have hnone : ∀ refusal, refusedBy environment target raw headers ≠ some refusal := by
        intro refusal h
        rw [hok decoded rfl] at h
        cases h
      refine iff_of_true ⟨?_, ?_, ?_⟩ (DecodeFailure.not_escapes_ok _)
      all_goals exact fun refusal h => absurd h (hnone refusal)
  | error failure =>
      cases failure with
      | protocolError failure =>
          have hstatus : statusCode failure = 400 := herrors failure rfl
          refine iff_of_true ⟨?_, ?_, ?_⟩ (DecodeFailure.not_escapes_protocolError _)
          all_goals
            intro refusal h
            rw [hrefused _ rfl] at h
            cases h
            simp [refusalOf, statusFor, thrownBy, hstatus]
      | validationError =>
          refine iff_of_false ?_ (not_not.2 DecodeFailure.escapes_validationError)
          intro h
          exact absurd (h.protocolError _ (hrefused _ rfl)) (by simp [refusalOf])
      | conversionError =>
          refine iff_of_false ?_ (not_not.2 DecodeFailure.escapes_conversionError)
          intro h
          exact absurd (h.protocolError _ (hrefused _ rfl)) (by simp [refusalOf])

/-- The content of the tool result is a list of something that is no block. -/
def nestedBody : Json :=
  .obj [("model", .str "fixture-model"), ("max_tokens", .num 1), ("messages", .arr [
    .obj [("role", .str "user"), ("content", .arr [
      .obj [("type", .str "tool_result"), ("tool_use_id", .str "call-1"),
        ("content", .arr [.obj [("type", .str "document")]])]])]])]

end RlyGateway
