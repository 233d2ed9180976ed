import RlyGateway.Library.JsonRoundTrip
import RlyGateway.Providers.Direct.ContinuedInput

/-!
# The arguments of function calls

A function call reaches the upstream with its input written as JSON, whether a client sent it or an
earlier response of the conversation made it. Arguments that were valid JSON denote the same value
there. A text that is no JSON was kept as it is and is written as a JSON string, and so are the empty
arguments of a call that a response made.
-/

namespace RlyGateway

/-! ## Calls -/

/-- The arguments of a function call as they were given: by a client, or by the aggregated output of
a response. -/
inductive GivenCall where
  | decoded (arguments : Option String)
  | aggregated (arguments : String)
deriving DecidableEq

/-- The arguments. -/
def GivenCall.arguments : GivenCall → Option String
  | .decoded arguments => arguments
  | .aggregated arguments => some arguments

/-- The input that the arguments are read as. -/
def GivenCall.input : GivenCall → Json
  | .decoded arguments => functionCallInput arguments
  | .aggregated arguments => parseJsonOrRaw arguments

/-- The call of an input item. -/
def decodedCall? (item : Json) : Option GivenCall :=
  match knownItem item with
  | some (.functionCall _ _ arguments) => some (.decoded arguments)
  | _ => none

/-- The call of an output item. -/
def aggregatedCall? : OutputItem → Option GivenCall
  | .functionCall _ _ _ arguments => some (.aggregated arguments)
  | _ => none

/-- The calls of a request, without the history. -/
def ReceivedRequest.calls (received : ReceivedRequest) : List GivenCall :=
  (rawItems received.raw).filterMap decodedCall?

/-- The calls of a turn: those of its request and those of its response. -/
def Turn.calls (turn : Turn) : List GivenCall :=
  turn.received.calls ++ turn.response.output.filterMap aggregatedCall?

/-- The calls of a conversation up to a request. -/
def conversationCalls (chains : Chains) (received : ReceivedRequest) : List GivenCall :=
  (earlierTurns chains received).flatMap Turn.calls ++ received.calls

/-- The arguments of the function calls in the input that is sent upstream. -/
def sentArguments (request : CanonicalRequest) : List String :=
  (responsesInput request).filterMap fun item => item.toJson.strField? "arguments"

/-! ## What is sent -/

/-- The arguments that a piece of content is sent with. -/
def contentArguments? : CanonicalContent → Option String
  | .toolCall _ _ input => input.map Json.stringify
  | _ => none

/-- The arguments that the messages of a request are sent with. -/
def messageArguments (messages : List CanonicalMessage) : List String :=
  messages.flatMap fun message => message.content.filterMap contentArguments?

theorem messageArguments_append (messages others : List CanonicalMessage) :
    messageArguments (messages ++ others) = messageArguments messages ++ messageArguments others :=
  List.flatMap_append

theorem messageArguments_flatMap {α : Type*} (f : α → List CanonicalMessage) (l : List α) :
    messageArguments (l.flatMap f) = l.flatMap fun a => messageArguments (f a) :=
  List.flatMap_assoc

theorem arguments_reasoning (id : Option String) (s : String) (encryptedContent : Option String) :
    (ResponsesItem.reasoning id s encryptedContent).toJson.strField? "arguments" = none := by
  cases id <;> cases encryptedContent <;> rfl

theorem arguments_responsesItem (fidelity : Option FidelityEnvelope) (role : MessageRole)
    (content : CanonicalContent) :
    ((responsesItem? fidelity role content).bind fun item => item.toJson.strField? "arguments") =
      contentArguments? content := by
  cases content with
  | text s => rfl
  | image mediaType data => rfl
  | toolCall id name input => cases input <;> rfl
  | toolResult id output isError => rfl
  | reasoning s id => exact arguments_reasoning id s _
  | redactedReasoning data => rfl

/-- The arguments that are sent are those of the messages. -/
theorem sentArguments_eq (request : CanonicalRequest) :
    sentArguments request = messageArguments request.messages := by
  unfold sentArguments responsesInput messageArguments
  rw [List.filterMap_flatMap]
  congr 1
  funext message
  rw [List.filterMap_filterMap]
  congr 1
  funext content
  exact arguments_responsesItem request.fidelity message.role content

/-- A call is sent with its input as JSON. -/
def GivenCall.sent (call : GivenCall) : String := Json.stringify call.input

theorem filterMap_contentArguments_of_parse {raw : String ⊕ List Json}
    {content : List CanonicalContent} (h : parseMessageContent raw = .ok content) :
    content.filterMap contentArguments? = [] := by
  refine List.filterMap_eq_nil_iff.2 fun item hitem => ?_
  rcases parseMessageContent_eq_ok h item hitem with ⟨s, rfl⟩ | ⟨mediaType, data, rfl⟩ <;> rfl

theorem messageArguments_messages (decoded : DecodedItem) :
    messageArguments decoded.messages =
      decoded.role.elim [] fun _ => decoded.content.filterMap contentArguments? := by
  unfold DecodedItem.messages messageArguments
  cases decoded.role with
  | none => rfl
  | some role =>
      dsimp only [Option.elim_some]
      by_cases hcontent : decoded.content = []
      · rw [if_pos hcontent, hcontent]
        rfl
      · rw [if_neg hcontent, List.flatMap_singleton]

/-- The messages of an input item are sent with the arguments of its call. -/
theorem messageArguments_of_parseItem {raw : Json} {decoded : DecodedItem}
    (h : parseItem raw = .ok decoded) :
    messageArguments decoded.messages = (decodedCall? raw).toList.map GivenCall.sent := by
  obtain ⟨known, hknown, hdecodes⟩ := parseItem_eq_ok h
  rw [messageArguments_messages, decodedCall?, hknown]
  cases hdecodes with
  | system _ => rfl
  | user hparsed => exact filterMap_contentArguments_of_parse hparsed
  | assistant hparsed => exact filterMap_contentArguments_of_parse hparsed
  | functionCall callId name arguments => rfl
  | functionCallOutput callId output => rfl
  | reasoning id summary encryptedContent => rfl

theorem messageArguments_of_parseItems {raws : List Json} {items : List DecodedItem}
    (h : List.Forall₂ (fun raw item => parseItem raw = .ok item) raws items) :
    messageArguments (items.flatMap DecodedItem.messages) =
      (raws.filterMap decodedCall?).map GivenCall.sent := by
  induction h with
  | nil => rfl
  | @cons raw decoded raws items hparse _ ih =>
      rw [List.flatMap_cons, messageArguments_append, ih, messageArguments_of_parseItem hparse]
      cases hcall : decodedCall? raw with
      | none => rw [List.filterMap_cons_none hcall, Option.toList_none, List.map_nil, List.nil_append]
      | some call =>
          rw [List.filterMap_cons_some hcall, Option.toList_some, List.map_singleton, List.map_cons,
            List.singleton_append]

/-- A request is sent with the arguments of its calls, in order. -/
theorem ReceivedRequest.messageArguments_eq (received : ReceivedRequest) :
    messageArguments received.request.messages = received.calls.map GivenCall.sent := by
  obtain ⟨items, hitems, hmessages, -, -⟩ := decodeResponsesRequest_eq_ok received.isDecoded
  rw [ReceivedRequest.request, hmessages]
  exact messageArguments_of_parseItems hitems

/-- The messages of an output item are sent with the arguments of its call. -/
theorem messageArguments_messageFromOutput (item : OutputItem) :
    messageArguments (messageFromOutput item.toJson) =
      (aggregatedCall? item).toList.map GivenCall.sent := by
  cases item with
  | message id text => cases text <;> rfl
  | reasoning id summary encryptedContent =>
      cases summary <;> cases encryptedContent <;> rfl
  | functionCall id callId name arguments => rfl

/-- A turn is sent with the arguments of its calls, in order. -/
theorem Turn.messageArguments_eq (turn : Turn) :
    messageArguments turn.messages = turn.calls.map GivenCall.sent := by
  have houtput : messageArguments (messagesFromOutput turn.output) =
      (turn.response.output.filterMap aggregatedCall?).map GivenCall.sent := by
    rw [messagesFromOutput, messageArguments_flatMap, Turn.output, List.flatMap_map,
      List.map_filterMap]
    induction turn.response.output with
    | nil => rfl
    | cons item output ih =>
        rw [List.flatMap_cons, ih, messageArguments_messageFromOutput]
        cases hcall : aggregatedCall? item with
        | none => simp [hcall]
        | some call => simp [hcall]
  rw [Turn.messages, messageArguments_append, turn.received.messageArguments_eq, houtput,
    Turn.calls, List.map_append]

/-- The input of a continued request has the arguments of all calls of the conversation. -/
theorem Continues.sent_eq {chains : Chains} {received : ReceivedRequest}
    {request : CanonicalRequest} (h : Continues (earlierTurns chains received) received request) :
    sentArguments request = (conversationCalls chains received).map GivenCall.sent := by
  have hturns : messageArguments ((earlierTurns chains received).flatMap Turn.messages) =
      ((earlierTurns chains received).flatMap Turn.calls).map GivenCall.sent := by
    rw [messageArguments_flatMap, List.map_flatMap]
    congr 1
    funext turn
    exact turn.messageArguments_eq
  rw [sentArguments_eq, h.messages, messageArguments_append, received.messageArguments_eq, hturns,
    conversationCalls, List.map_append]

/-! ## What survives -/

/-- What is sent stands for the arguments that were given: the same value, an empty object for no
arguments, and the text itself where it is no JSON. -/
structure Survives (original : Option String) (sent : String) : Prop where
  valid : ∀ text value, original = some text → Json.parse text = some value →
    Json.parse sent = some value
  empty : original.getD "" = "" → Json.parse sent = some (.obj [])
  other : ∀ text, original = some text → text ≠ "" → Json.parse text = none → sent = text

/-- The arguments are kept: they are valid JSON, or a client left them out or empty. -/
def GivenCall.Kept : GivenCall → Prop
  | .decoded none => True
  | .decoded (some arguments) => arguments = "" ∨ Json.parse arguments ≠ none
  | .aggregated arguments => Json.parse arguments ≠ none

theorem parse_empty : Json.parse "" = none := rfl

/-- No arguments are sent as an empty object. -/
theorem survives_of_empty {original : Option String} (h : original.getD "" = "") :
    Survives original (Json.stringify (.obj [])) := by
  refine ⟨?_, fun _ => Json.parse_stringify (by simp), ?_⟩
  · rintro text value rfl hparse
    rw [show text = "" from h, parse_empty] at hparse
    cases hparse
  · rintro text rfl hne _
    exact absurd h hne

/-- Valid arguments are sent as the same value. -/
theorem survives_of_parse {text : String} {value : Json} (h : Json.parse text = some value) :
    Survives (some text) (Json.stringify value) := by
  refine ⟨?_, ?_, ?_⟩
  · rintro text' value' ⟨⟩ hvalue
    rw [h] at hvalue
    cases hvalue
    exact Json.parse_stringify_of_parse h
  · intro hempty
    rw [show text = "" from hempty, parse_empty] at h
    cases h
  · rintro text' ⟨⟩ _ hnone
    rw [h] at hnone
    cases hnone

/-- A text that is no JSON is sent as a JSON string, which is another text. -/
theorem not_survives_of_parse_eq_none {text : String} (h : Json.parse text = none) :
    ¬ Survives (some text) (Json.stringify (.str text)) := by
  intro hsurvives
  have hsent : Json.parse (Json.stringify (.str text)) = some (.str text) :=
    Json.parse_stringify (by simp)
  by_cases hempty : text = ""
  · have hobject := hsurvives.empty hempty
    rw [hsent] at hobject
    cases hobject
  · rw [hsurvives.other text rfl hempty h, h] at hsent
    cases hsent

/-- Arguments survive exactly where they are kept. -/
theorem GivenCall.survives_iff (call : GivenCall) :
    Survives call.arguments call.sent ↔ call.Kept := by
  have hraw : ∀ text, Survives (some text) (Json.stringify (parseJsonOrRaw text)) ↔
      Json.parse text ≠ none := by
    intro text
    unfold parseJsonOrRaw
    cases hparse : Json.parse text with
    | none => exact iff_of_false (not_survives_of_parse_eq_none hparse) (not_not.2 rfl)
    | some value => exact iff_of_true (survives_of_parse hparse) (by simp)
  cases call with
  | aggregated text => exact hraw text
  | decoded arguments =>
      cases arguments with
      | none => exact iff_of_true (survives_of_empty rfl) trivial
      | some text =>
          by_cases hempty : text = ""
          · subst hempty
            exact iff_of_true (survives_of_empty rfl) (.inl rfl)
          · have hinput : (GivenCall.decoded (some text)).sent =
                Json.stringify (parseJsonOrRaw text) :=
              congrArg Json.stringify (if_neg hempty)
            rw [hinput, GivenCall.Kept]
            exact (hraw text).trans (or_iff_right hempty).symm

/-- The arguments of calls survive exactly where all of them are kept. -/
theorem forall₂_survives_map_iff (calls : List GivenCall) :
    List.Forall₂ (fun call sent => Survives (GivenCall.arguments call) sent) calls
        (calls.map GivenCall.sent) ↔ ∀ call ∈ calls, call.Kept := by
  rw [List.forall₂_map_right_iff, List.forall₂_same]
  exact forall₂_congr fun call _ => call.survives_iff

/-- A request with a call whose arguments are no JSON. -/
def rawCall : ReceivedRequest where
  environment := ⟨isoRuntime, "req-1", fun _ => []⟩
  raw := .obj [("model", .str "gpt-5.6-sol"), ("input", .arr [.obj [
    ("type", .str "function_call"), ("call_id", .str "call_1"), ("name", .str "look_up"),
    ("arguments", .str "north")]])]
  headers := []
  decoded := _
  isDecoded := rfl

theorem apply_rawCall :
    ResponseContinuationStore.apply (fun _ => none) rawCall.request = .ok rawCall.request := rfl

theorem calls_rawCall : conversationCalls (fun _ => none) rawCall = [.decoded (some "north")] := rfl

end RlyGateway
