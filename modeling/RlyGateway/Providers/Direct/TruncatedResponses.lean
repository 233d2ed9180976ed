import RlyGateway.Providers.Direct.ResponsesRail

/-!
# Truncated responses

A result of the upstream that is incomplete comes as a whole body or as a stream that ends in a frame
that says so. The rail reads the reason of a body into the stop reason of the completion, and the
encoder drops it: the result has the status of a complete one. A stream's frame it passes over, and
the stream ends in an error. So an incomplete result is never reported as one.
-/

namespace RlyGateway

/-! ## Whole bodies -/

/-- The kind of an item of a whole body; one without a type is unknown. -/
def bodyItemKind (item : Json) : RailItemKind :=
  (item.strField? "type").elim .unknown railItemKind

/-- The call id of a function call of a whole body. -/
def bodyCallId (item : Json) (index : ℚ) : String :=
  ((item.strField? "call_id").or (item.strField? "id")).getD ("tool-" ++ Json.numberText index)

/-- The events of an item of a whole body. -/
def bodyItemEvents (index : ℚ) (item : Json) : List EventPayload :=
  let itemId := item.strField? "id"
  match bodyItemKind item with
  | .message =>
      .contentStarted index .text none none itemId ::
        (outputTexts (some item)).map (.textDelta index) ++ [.contentCompleted index]
  | .reasoning =>
      .contentStarted index .reasoning none none itemId ::
        (reasoningSummary (some item)).map (.reasoningDelta index) ++ [.contentCompleted index]
  | .functionCall =>
      let callId := bodyCallId item index
      let name := (item.strField? "name").getD "tool"
      .contentStarted index .toolCall (some callId) (some name) itemId ::
        ((item.strField? "arguments").filter (· ≠ "")).toList.map
          (.toolArgumentsDelta index callId) ++ [.contentCompleted index]
  | .unknown => []

/-- The events of the items of a whole body. An item of an unknown type keeps its index. -/
def bodyItemsEvents : ℕ → List Json → List EventPayload
  | _, [] => []
  | index, item :: items => bodyItemEvents index item ++ bodyItemsEvents (index + 1) items

/-- The artifacts of a whole body. -/
def bodyArtifacts (body : Json) : List OpaqueArtifact :=
  (outputItems (some body)).foldl captureReasoningArtifact []

/-- The events of a whole body before its completion. -/
def bodyBefore (body : Json) : List EventPayload :=
  let usage := recordField body "usage"
  .responseStarted ((body.strField? "id").getD "provider-response") ::
    bodyItemsEvents 0 (outputItems (some body)) ++
    (if bodyArtifacts body = [] then [] else [.fidelityArtifacts (bodyArtifacts body)]) ++
    [.usageUpdated (usage.bind (·.numField? "input_tokens"))
      (usage.bind (·.numField? "output_tokens"))]

/-- The events of a whole body. -/
def bodyPayloads (body : Json) : List EventPayload :=
  bodyBefore body ++ [.responseCompleted (stopReasonOf (some body))]

/-- The events of the non-streaming branch. A body that is no JSON is malformed, and one that is no
object counts as an empty one. -/
def decodeNonStreaming (source : EventSource) (body : Option Json) :
    List CanonicalEvent × Except Thrown Unit :=
  match body with
  | none => ([], .error (.providerAdapterError ⟨"api_error",
      "Provider returned a malformed response body", some ⟨502, "api_error", none,
        "Provider returned a malformed response body", none, none, none⟩, .providerAccepted⟩))
  | some body =>
      (eventsFrom source 0 (bodyPayloads (if body.obj?.isSome then body else .obj [])), .ok ())

/-! ## What a client gets -/

/-- The status of the response object that a frame carries. -/
def ResponsesFrame.status? (frame : ResponsesFrame) : Option String :=
  (frame.wire.2.field? "response").bind (·.strField? "status")

/-- The result of a whole body is delivered as an incomplete one. -/
def WholeReportsIncomplete (source : EventSource) (body : Json) : Prop :=
  ∃ response, (decodeNonStreaming source (some body)).2 = .ok () ∧
    aggregateResponsesEvents (decodeNonStreaming source (some body)).1 = .ok response ∧
    response.toJson.strField? "status" = some "incomplete"

/-- The result of a stream is delivered as an incomplete one: the stream ends without an error, and
one of its frames carries a response of that status. -/
def StreamReportsIncomplete (source : EventSource) (frames : List SseFrame) : Prop :=
  (streamRailEvents source frames).2 = .ok () ∧
    ∃ sent context, pushAll createContext (streamRailEvents source frames).1 = .ok (sent, context) ∧
      ∃ frame ∈ sent, frame.status? = some "incomplete"

/-- A frame that does not end the response. -/
def SseFrame.Running : SseFrame → Prop
  | .error => False
  | .data event fields =>
      frameKind event fields ≠ .completed ∧ frameKind event fields ≠ .failed ∧
        frameKind event fields ≠ .error

/-- A stream that ends in the frame of an incomplete response. -/
def EndsIncomplete (body : Json) (frames : List SseFrame) : Prop :=
  ∃ before event data, frames = before ++ [.data event data] ∧
    data.strField? "type" = some "response.incomplete" ∧ recordField data "response" = some body ∧
    ∀ frame ∈ before, frame.Running

/-- An incomplete result is reported as one, however it is delivered. -/
structure ReportsIncomplete (source : EventSource) (body : Json) : Prop where
  whole : WholeReportsIncomplete source body
  streamed : ∀ frames, EndsIncomplete body frames → StreamReportsIncomplete source frames

/-! ## Whole bodies are complete -/

/-- An event with another stop reason, if it has one. -/
def CanonicalEvent.withStopReason (stopReason : String) (event : CanonicalEvent) : CanonicalEvent :=
  match event.payload with
  | .responseCompleted _ => { event with payload := .responseCompleted stopReason }
  | _ => event

variable {source : EventSource}

theorem encodeResponsesEvent_withStopReason (stopReason : String) (context : EncodeContext)
    (event : CanonicalEvent) :
    encodeResponsesEvent context (event.withStopReason stopReason) =
      encodeResponsesEvent context event := by
  unfold CanonicalEvent.withStopReason
  cases hpayload : event.payload with
  | responseCompleted old => simp [encodeResponsesEvent, checkProvenance, applyAggregate, hpayload,
      encodePayload]
  | _ => rfl

theorem applyAggregate_withStopReason (stopReason : String) (context : AggregateContext)
    (event : CanonicalEvent) :
    applyAggregate context (event.withStopReason stopReason) = applyAggregate context event := by
  unfold CanonicalEvent.withStopReason
  cases hpayload : event.payload with
  | responseCompleted old => simp [applyAggregate, hpayload]
  | _ => rfl

theorem pushAll_withStopReason (stopReason : String) (context : EncodeContext)
    (events : List CanonicalEvent) :
    pushAll context (events.map (·.withStopReason stopReason)) = pushAll context events := by
  induction events generalizing context with
  | nil => rfl
  | cons event events ih =>
      rw [List.map_cons, pushAll, pushAll, encodeResponsesEvent_withStopReason]
      simp only [ih]

theorem aggregateAll_withStopReason (stopReason : String) (context : AggregateContext)
    (events : List CanonicalEvent) :
    aggregateAll context (events.map (·.withStopReason stopReason)) =
      aggregateAll context events := by
  induction events generalizing context with
  | nil => rfl
  | cons event events ih =>
      rw [List.map_cons, aggregateAll, aggregateAll, applyAggregate_withStopReason]
      simp only [ih]

theorem firstFailure_withStopReason (stopReason : String) (events : List CanonicalEvent) :
    firstFailure (events.map (·.withStopReason stopReason)) = firstFailure events := by
  rw [firstFailure, firstFailure, List.findSome?_map]
  congr 1
  funext event
  unfold CanonicalEvent.withStopReason
  cases hpayload : event.payload <;> simp [hpayload]

/-- The batch response does not depend on why the response stopped. -/
theorem aggregateResponsesEvents_withStopReason (stopReason : String)
    (events : List CanonicalEvent) :
    aggregateResponsesEvents (events.map (·.withStopReason stopReason)) =
      aggregateResponsesEvents events := by
  unfold aggregateResponsesEvents encodeResponsesEvents outputFromEvents
  rw [pushAll_withStopReason, firstFailure_withStopReason, aggregateAll_withStopReason]

theorem map_withStopReason_eventsFrom (stopReason : String) (start : ℕ)
    (payloads : List EventPayload) (old : String) (h : ∀ payload ∈ payloads, isTerminal payload = false) :
    (eventsFrom source start (payloads ++ [.responseCompleted old])).map
        (·.withStopReason stopReason) =
      eventsFrom source start (payloads ++ [.responseCompleted stopReason]) := by
  induction payloads generalizing start with
  | nil => rfl
  | cons payload payloads ih =>
      rw [List.forall_mem_cons] at h
      rw [List.cons_append, eventsFrom, List.map_cons, ih (start + 1) h.2]
      have hsame : (eventAt source start payload).withStopReason stopReason =
          eventAt source start payload := by
        cases payload <;> first | rfl | cases h.1
      rw [hsame]
      rfl

/-- The events of items do not complete the response. -/
theorem running_bodyItemsEvents (index : ℕ) (items : List Json) :
    ∀ payload ∈ bodyItemsEvents index items, isTerminal payload = false := by
  induction items generalizing index with
  | nil =>
      intro payload hmem
      cases hmem
  | cons item items ih =>
      intro payload hmem
      rcases List.mem_append.1 hmem with hmem | hmem
      · unfold bodyItemEvents at hmem
        cases hkind : bodyItemKind item <;> simp only [hkind] at hmem
        case unknown => cases hmem
        all_goals
          rcases List.mem_append.1 hmem with hmem | hmem
          · rcases List.mem_cons.1 hmem with rfl | hmem
            · rfl
            · obtain ⟨text, -, rfl⟩ := List.mem_map.1 hmem
              rfl
          · rw [List.mem_singleton.1 hmem]
            rfl
      · exact ih (index + 1) payload hmem

theorem running_bodyBefore (body : Json) :
    ∀ payload ∈ bodyBefore body, isTerminal payload = false := by
  intro payload hmem
  rcases List.mem_append.1 hmem with hmem | hmem
  · rcases List.mem_append.1 hmem with hmem | hmem
    · rcases List.mem_cons.1 hmem with rfl | hmem
      · rfl
      · exact running_bodyItemsEvents 0 _ payload hmem
    · split at hmem
      · cases hmem
      · rw [List.mem_singleton.1 hmem]
        rfl
  · rw [List.mem_singleton.1 hmem]
    rfl

/-- Of a body, only the id, the output and the usage reach the response. -/
structure SameResult (body body' : Json) : Prop where
  id : body.strField? "id" = body'.strField? "id"
  output : outputItems (some body) = outputItems (some body')
  usage : recordField body "usage" = recordField body' "usage"

/-- An incomplete body and the complete one with the same output give the same response. -/
theorem aggregate_decodeNonStreaming_congr {body body' : Json} (hobj : body.obj?.isSome)
    (hobj' : body'.obj?.isSome) (h : SameResult body body') :
    aggregateResponsesEvents (decodeNonStreaming source (some body)).1 =
      aggregateResponsesEvents (decodeNonStreaming source (some body')).1 := by
  have hbefore : bodyBefore body = bodyBefore body' := by
    unfold bodyBefore bodyArtifacts
    rw [h.id, h.output, h.usage]
  simp only [decodeNonStreaming, if_pos hobj, if_pos hobj', bodyPayloads]
  rw [← aggregateResponsesEvents_withStopReason (stopReasonOf (some body')), hbefore,
    map_withStopReason_eventsFrom _ _ _ _ (running_bodyBefore body')]

/-- A delivered batch response has the status of a complete one. -/
theorem status_toJson (response : AggregatedResponse) :
    response.toJson.strField? "status" = some "completed" := rfl

/-! ## Streams end in an error -/

/-- No step but the one of a terminal frame ends the response. -/
theorem railStep_running {state state' : RailState} {frame : SseFrame} (h : frame.Running)
    (hok : (railStep state frame).ending = .ok state') : state'.terminal = state.terminal := by
  cases frame with
  | error => cases h
  | data event data =>
      obtain ⟨hcompleted, hfailed, herror⟩ := h
      cases hkind : frameKind event data <;> simp only [railStep, hkind] at hok
      case completed => exact absurd hkind hcompleted
      case failed => exact absurd hkind hfailed
      case error => exact absurd hkind herror
      case ignored =>
        cases hok
        rfl
      case itemAdded =>
        unfold itemAddedFrame at hok
        dsimp only at hok
        split at hok <;> cases hok <;> rfl
      case started =>
        unfold responseStartedFrame at hok
        split at hok <;> cases hok <;> rfl
      case itemDone =>
        unfold itemDoneFrame at hok
        dsimp only at hok
        split at hok <;> cases hok <;> rfl
      -- a delta starts its content where that is not open, and is passed on
      all_goals
        obtain ⟨next, hstart, hpass⟩ := Yields.bind_ending_eq_ok.1 hok
        cases hpass
        unfold startAt at hstart
        split at hstart <;> cases hstart <;> rfl

/-- Running frames leave the stream without a terminal frame. -/
theorem forEach_railStep_running {frames : List SseFrame} (h : ∀ frame ∈ frames, frame.Running)
    {state state' : RailState} (hok : (Yields.forEach railStep state frames).ending = .ok state') :
    state'.terminal = state.terminal := by
  induction frames generalizing state with
  | nil =>
      cases hok
      rfl
  | cons frame frames ih =>
      rw [List.forall_mem_cons] at h
      obtain ⟨next, hfirst, hrest⟩ := Yields.bind_ending_eq_ok.1 hok
      exact (ih h.2 hrest).trans (railStep_running h.1 hfirst)

/-- A stream that ends in the frame of an incomplete response ends in an error. -/
theorem streamRailEvents_incomplete {body : Json} {frames : List SseFrame}
    (h : EndsIncomplete body frames) : ∃ failure, (streamRailEvents source frames).2 = .error failure := by
  obtain ⟨before, event, data, rfl, htype, -, hrunning⟩ := h
  have hignored : frameKind event data = .ignored := by
    rw [frameKind, htype]
    rfl
  have hall : ∀ frame ∈ before ++ [.data event data], frame.Running := by
    intro frame hmem
    rcases List.mem_append.1 hmem with hmem | hmem
    · exact hrunning frame hmem
    · rw [List.mem_singleton.1 hmem, SseFrame.Running, hignored]
      decide
  cases hending : (streamFrames (before ++ [.data event data])).ending with
  | error failure =>
      refine ⟨failure, ?_⟩
      rw [streamRailEvents, hending]
      rfl
  | ok state =>
      exfalso
      unfold streamFrames at hending
      obtain ⟨last, hframes, hlast⟩ := Yields.bind_ending_eq_ok.1 hending
      have hterminal : last.terminal = false := forEach_railStep_running hall hframes
      rw [hterminal] at hlast
      split at hlast <;> cases hlast

/-- An incomplete result is never reported as one: a whole body is reported as complete, and a
stream ends in an error. -/
theorem never_reportsIncomplete (source : EventSource) (body : Json) :
    ¬ WholeReportsIncomplete source body ∧
      ∀ frames, EndsIncomplete body frames → ¬ StreamReportsIncomplete source frames := by
  constructor
  · rintro ⟨response, -, -, hstatus⟩
    rw [status_toJson] at hstatus
    revert hstatus
    decide
  · rintro frames hends ⟨hended, -⟩
    obtain ⟨failure, hfailure⟩ : ∃ failure, (streamRailEvents source frames).2 = .error failure :=
      streamRailEvents_incomplete hends
    rw [hended] at hfailure
    cases hfailure

/-- A body that the token limit cut off. -/
def cutOffBody : Json :=
  .obj [("id", .str "resp-1"), ("status", .str "incomplete"),
    ("incomplete_details", .obj [("reason", .str "max_output_tokens")]),
    ("output", .arr [.obj [("type", .str "message"), ("id", .str "msg-1"),
      ("content", .arr [.obj [("type", .str "output_text"), ("text", .str "half a")]])]])]

theorem not_reportsIncomplete_cutOffBody :
    ¬ ∀ source body, body.strField? "status" = some "incomplete" → ReportsIncomplete source body := by
  intro h
  obtain ⟨response, -, -, hstatus⟩ := (h railSource cutOffBody (by rfl)).whole
  rw [status_toJson] at hstatus
  revert hstatus
  decide

end RlyGateway
