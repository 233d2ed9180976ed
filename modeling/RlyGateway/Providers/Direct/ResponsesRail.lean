import RlyGateway.Library.Yields
import RlyGateway.Protocols.OpenAiResponses.Acceptance
import RlyGateway.Providers.ProviderError

/-!
# The Responses rail

The streaming branch of the Responses adapter: one step for each frame of the upstream body, over
the indexes that are open, the names of the function calls and the artifacts not yet passed on.
Frames of an unknown type are passed over; an item of an unknown type still opens its index.
-/

namespace RlyGateway

/-! ## Reading a frame -/

/-- A frame of the body. Data that is no object has no properties. -/
inductive SseFrame where
  | error
  | data (event : Option String) (data : Json)
deriving DecidableEq, Repr

/-- The types of frames the adapter knows. -/
inductive RailFrameKind where
  | started
  | itemAdded
  | outputTextDelta
  | reasoningTextDelta
  | argumentsDelta
  | itemDone
  | completed
  | failed
  | error
  | ignored
deriving DecidableEq, Repr

/-- The kind of a frame with a type. -/
def railFrameKind (type : String) : RailFrameKind :=
  if type = "response.created" ∨ type = "response.in_progress" then .started
  else if type = "response.output_item.added" then .itemAdded
  else if type = "response.output_text.delta" then .outputTextDelta
  else if type = "response.reasoning_summary_text.delta" then .reasoningTextDelta
  else if type = "response.function_call_arguments.delta" then .argumentsDelta
  else if type = "response.output_item.done" then .itemDone
  else if type = "response.completed" then .completed
  else if type = "response.failed" then .failed
  else if type = "error" then .error
  else .ignored

/-- The kind of a frame: by the type in its data, or else by its event. -/
def frameKind (event : Option String) (data : Json) : RailFrameKind :=
  railFrameKind ((data.strField? "type").getD (event.getD ""))

/-- A property that is an object. -/
def recordField (value : Json) (name : String) : Option Json :=
  (value.field? name).filter fun field => field.obj?.isSome

/-- The types of items the adapter knows. -/
inductive RailItemKind where
  | message
  | reasoning
  | functionCall
  | unknown
deriving DecidableEq, Repr

/-- The kind of an item with a type. -/
def railItemKind (type : String) : RailItemKind :=
  if type = "message" then .message
  else if type = "reasoning" then .reasoning
  else if type = "function_call" then .functionCall
  else .unknown

/-- The kind of an added item; one without a type is a message. -/
def itemKind (item : Option Json) : RailItemKind :=
  railItemKind ((item.bind (·.strField? "type")).getD "message")

/-- The texts of an item's content. -/
def outputTexts (item : Option Json) : List String :=
  (((item.bind (·.field? "content")).bind Json.arr?).getD []).filterMap fun part =>
    if part.strField? "type" = some "output_text" then
      ((part.field? "text").filter Json.truthy).map Json.text
    else none

/-- The texts of a reasoning item's summary. -/
def reasoningSummary (item : Option Json) : List String :=
  (((item.bind (·.field? "summary")).bind Json.arr?).getD []).filterMap fun part =>
    (part.strField? "text").filter (· ≠ "")

/-- The items of a response's output. -/
def outputItems (response : Option Json) : List Json :=
  (((response.bind (·.field? "output")).bind Json.arr?).getD []).filter fun item =>
    item.obj?.isSome

/-- Why a response stopped. -/
def stopReasonOf (response : Option Json) : String :=
  match response.bind (recordField · "incomplete_details") with
  | some incomplete =>
      if incomplete.strField? "reason" = some "max_output_tokens" then "max_tokens"
      else if incomplete.strField? "reason" = some "content_filter" then "content_filter"
      else "incomplete"
  | none =>
      if response.bind (·.strField? "status") = some "incomplete" then "incomplete" else "end_turn"

/-- Keep the encrypted content of a reasoning item, once. -/
def captureReasoningArtifact (artifacts : List OpaqueArtifact) (item : Json) :
    List OpaqueArtifact :=
  match item.strField? "type", item.strField? "id",
      (item.strField? "encrypted_content").filter (· ≠ "") with
  | some "reasoning", some itemId, some encrypted =>
      let artifact : OpaqueArtifact := ⟨.openaiReasoningEncryptedContent, itemId, encrypted⟩
      if artifact ∈ artifacts then artifacts else artifacts ++ [artifact]
  | _, _, _ => artifacts

/-- The code, the type and the message of an upstream error. -/
def upstreamError (error : Option Json) (message : String) (commitment : CommitmentState) :
    Thrown :=
  let code := ((error.bind (·.strField? "code")).or (error.bind (·.strField? "type"))).getD
    "api_error"
  let message := (error.bind (·.strField? "message")).getD message
  .providerAdapterError ⟨code, message,
    some ⟨502, code, error.bind (·.strField? "type"), message, none, none, none⟩, commitment⟩

/-! ## The loop -/

/-- The state of the loop over the frames. -/
structure RailState where
  started : Bool
  openIndexes : OrderedSet ℚ
  toolNames : OrderedMap ℚ String
  artifacts : List OpaqueArtifact
  commitment : CommitmentState
  terminal : Bool

/-- The state before the first frame. -/
def RailState.initial : RailState := ⟨false, .empty, .empty, [], .providerAccepted, false⟩

/-- What a step of the loop does. -/
abbrev RailStep := Yields EventPayload Thrown RailState

/-- A failure of the rail itself. -/
def railFailure (message : String) (state : RailState) : Thrown :=
  .providerAdapterError ⟨"api_error", message, none, state.commitment⟩

/-- The response starts with the first frame that says so. -/
def responseStartedFrame (data : Json) (state : RailState) : RailStep :=
  if state.started then pure state
  else
    let responseId := ((recordField data "response").bind (·.strField? "id")).getD
      "provider-response"
    .emit [.responseStarted responseId] { state with started := true }

/-- The index an added item stands at. -/
def addedIndex (data : Json) (openIndexes : OrderedSet ℚ) : ℚ :=
  (data.numField? "output_index").getD openIndexes.size

/-- The index of any other frame. -/
def frameIndex (data : Json) : ℚ := (data.numField? "output_index").getD 0

/-- The call id of an added function call. -/
def addedCallId (item : Option Json) (index : ℚ) : String :=
  ((item.bind (·.strField? "call_id")).or (item.bind (·.strField? "id"))).getD
    ("tool-" ++ Json.numberText index)

/-- The name of an added function call. -/
def addedName (item : Option Json) : String := (item.bind (·.strField? "name")).getD "tool"

/-- The arguments an added function call already has. -/
def addedArguments (item : Option Json) : Option String :=
  (item.bind (·.strField? "arguments")).filter (· ≠ "")

/-- An item is added: its index opens, and an item of a known type starts. -/
def itemAddedFrame (data : Json) (state : RailState) : RailStep :=
  let item := recordField data "item"
  let index := addedIndex data state.openIndexes
  -- the index opens before the type of the item is looked at
  let state := { state with openIndexes := state.openIndexes.add index }
  let itemId := item.bind (·.strField? "id")
  match itemKind item with
  | .message =>
      .emit (.contentStarted index .text none none itemId ::
        (outputTexts item).map (.textDelta index)) state
  | .reasoning =>
      .emit (.contentStarted index .reasoning none none itemId ::
          (reasoningSummary item).map (.reasoningDelta index))
        { state with
          artifacts := item.elim state.artifacts (captureReasoningArtifact state.artifacts) }
  | .functionCall =>
      let callId := addedCallId item index
      let name := addedName item
      .emit (.contentStarted index .toolCall (some callId) (some name) itemId ::
          (addedArguments item).toList.map (.toolArgumentsDelta index callId))
        { state with
          toolNames := state.toolNames.set index name
          commitment := .toolBoundary }
  | .unknown => pure state

/-- Start a content whose index is not open. -/
def startAt (index : ℚ) (contentType : ContentType) (toolCallId toolName : Option String)
    (state : RailState) : RailStep :=
  if index ∈ state.openIndexes then pure state
  else .emit [.contentStarted index contentType toolCallId toolName none] { state with
    openIndexes := state.openIndexes.add index
    commitment := if contentType = .toolCall then .toolBoundary else state.commitment }

/-- The delta of a frame. -/
def passDelta (data : Json) (make : String → EventPayload) (state : RailState) : RailStep :=
  .emit ((data.strField? "delta").toList.map make) state

/-- A delta of a text. -/
def outputTextDeltaFrame (data : Json) (state : RailState) : RailStep := do
  let index := frameIndex data
  let state ← startAt index .text none none state
  passDelta data (.textDelta index) state

/-- A delta of a reasoning summary. -/
def reasoningTextDeltaFrame (data : Json) (state : RailState) : RailStep := do
  let index := frameIndex data
  let state ← startAt index .reasoning none none state
  passDelta data (.reasoningDelta index) state

/-- The call id an arguments frame gives. -/
def deltaCallId (data : Json) : String :=
  (data.strField? "item_id").getD ("tool-" ++ Json.numberText (frameIndex data))

/-- A delta of a function call's arguments. -/
def argumentsDeltaFrame (data : Json) (state : RailState) : RailStep := do
  let index := frameIndex data
  let name := (state.toolNames.get? index).getD "tool"
  let state ← startAt index .toolCall (some (deltaCallId data)) (some name) state
  passDelta data (.toolArgumentsDelta index (deltaCallId data)) state

/-- An item is done. -/
def itemDoneFrame (data : Json) (state : RailState) : RailStep :=
  let index := frameIndex data
  if index ∈ state.openIndexes then
    .emit [.contentCompleted index] { state with openIndexes := state.openIndexes.delete index }
  else pure state

/-- Pass the artifacts of a terminal frame on. -/
def passArtifacts (data : Json) (state : RailState) : RailStep :=
  let artifacts := (outputItems (recordField data "response")).foldl captureReasoningArtifact
    state.artifacts
  .emit (if artifacts = [] then [] else [.fidelityArtifacts artifacts]) { state with artifacts := [] }

/-- The response is completed. -/
def completedFrame (data : Json) (state : RailState) : RailStep := do
  let response := recordField data "response"
  let usage := response.bind (recordField · "usage")
  let state ← passArtifacts data { state with terminal := true }
  .emit [.usageUpdated (usage.bind (·.numField? "input_tokens"))
      (usage.bind (·.numField? "output_tokens")),
    .responseCompleted (stopReasonOf response)] { state with started := true }

/-- The response has failed. -/
def failedFrame (data : Json) (state : RailState) : RailStep := do
  let response := recordField data "response"
  let state ← passArtifacts data { state with terminal := true }
  .fail (upstreamError ((response.bind (recordField · "error")).or response)
    "Provider response failed" state.commitment)

/-- One frame. -/
def railStep (state : RailState) : SseFrame → RailStep
  | .error => .fail (railFailure "Provider returned a malformed stream frame" state)
  | .data event data =>
      match frameKind event data with
      | .started => responseStartedFrame data state
      | .itemAdded => itemAddedFrame data state
      | .outputTextDelta => outputTextDeltaFrame data state
      | .reasoningTextDelta => reasoningTextDeltaFrame data state
      | .argumentsDelta => argumentsDeltaFrame data state
      | .itemDone => itemDoneFrame data state
      | .completed => completedFrame data state
      | .failed => failedFrame data state
      | .error => .fail (upstreamError (some ((recordField data "error").getD data))
          "Provider stream error" state.commitment)
      | .ignored => pure state

/-- The whole stream; one without a start or a terminal frame is an error. -/
def streamFrames (frames : List SseFrame) : RailStep := do
  let state ← Yields.forEach railStep .initial frames
  if !state.started then
    .fail (railFailure "Provider stream ended before a response started" state)
  else if !state.terminal then
    .fail (railFailure "Provider stream ended without a terminal response" state)
  else pure state

/-- The events of the streaming branch, and how it ends. -/
def streamRailEvents (source : EventSource) (frames : List SseFrame) :
    List CanonicalEvent × Except Thrown Unit :=
  let run := streamFrames frames
  (eventsFrom source 0 run.values, run.ending.map fun _ => ())

/-! ## Tracking the frames -/

/-- What the frames of a stream have announced: the indexes that are open, those among them that
only an item of an unknown type opened, those whose last item is a function call, and the argument
texts. -/
structure FrameTrack where
  openIndexes : OrderedSet ℚ
  silent : OrderedSet ℚ
  calls : OrderedSet ℚ
  arguments : OrderedMap ℚ String

/-- The track before the first frame. -/
def FrameTrack.initial : FrameTrack := ⟨.empty, .empty, .empty, .empty⟩

/-- A content starts at an index. -/
def FrameTrack.start (track : FrameTrack) (index : ℚ) (contentType : ContentType) : FrameTrack :=
  { track with
    openIndexes := track.openIndexes.add index
    silent := track.silent.delete index
    calls := if contentType = .toolCall then track.calls.add index else track.calls.delete index }

/-- A content starts at an index that is not open. -/
def FrameTrack.startAt (track : FrameTrack) (index : ℚ) (contentType : ContentType) : FrameTrack :=
  if index ∈ track.openIndexes then track else track.start index contentType

/-- An item of an unknown type opens its index. -/
def FrameTrack.openSilently (track : FrameTrack) (index : ℚ) : FrameTrack :=
  if index ∈ track.openIndexes then track
  else { track with
    openIndexes := track.openIndexes.add index
    silent := track.silent.add index }

/-- Arguments are added at an index. -/
def FrameTrack.append (track : FrameTrack) (index : ℚ) (delta : Option String) : FrameTrack :=
  { track with arguments := delta.elim track.arguments (appendDelta track.arguments index) }

/-- An index is done. -/
def FrameTrack.close (track : FrameTrack) (index : ℚ) : FrameTrack :=
  { track with
    openIndexes := track.openIndexes.delete index
    silent := track.silent.delete index }

/-- The track after a frame. -/
def FrameTrack.next (track : FrameTrack) : SseFrame → FrameTrack
  | .error => track
  | .data event data =>
      match frameKind event data with
      | .itemAdded =>
          let item := recordField data "item"
          let index := addedIndex data track.openIndexes
          match itemKind item with
          | .message => track.start index .text
          | .reasoning => track.start index .reasoning
          | .functionCall => (track.start index .toolCall).append index (addedArguments item)
          | .unknown => track.openSilently index
      | .outputTextDelta => track.startAt (frameIndex data) .text
      | .reasoningTextDelta => track.startAt (frameIndex data) .reasoning
      | .argumentsDelta =>
          (track.startAt (frameIndex data) .toolCall).append (frameIndex data)
            (data.strField? "delta")
      | .itemDone => track.close (frameIndex data)
      | _ => track

/-- A frame of a kind that the encoder can follow: a function call that starts has an id and a name,
an item that is done was not opened by an item of an unknown type only, and a response that is
completed has valid arguments. -/
def FrameTrack.CleanKind (track : FrameTrack) (data : Json) : RailFrameKind → Prop
  | .itemAdded =>
      let item := recordField data "item"
      itemKind item = .functionCall →
        addedCallId item (addedIndex data track.openIndexes) ≠ "" ∧ addedName item ≠ ""
  | .argumentsDelta => frameIndex data ∉ track.openIndexes → deltaCallId data ≠ ""
  | .itemDone => frameIndex data ∉ track.silent
  | .completed => ValidTexts track.calls track.arguments
  | _ => True

/-- A frame the encoder can follow. -/
def FrameTrack.Clean (track : FrameTrack) : SseFrame → Prop
  | .error => True
  | .data event data => track.CleanKind data (frameKind event data)

/-- Frames the encoder can follow to the end, where all announced items are done. -/
def CleanFrames (track : FrameTrack) : List SseFrame → Prop
  | [] => ∀ index ∈ track.openIndexes, index ∈ track.silent
  | frame :: frames => track.Clean frame ∧ CleanFrames (track.next frame) frames

instance (track : FrameTrack) (data : Json) : (kind : RailFrameKind) →
    Decidable (track.CleanKind data kind)
  | .itemAdded => inferInstanceAs (Decidable (_ → _ ∧ _))
  | .argumentsDelta => inferInstanceAs (Decidable (_ → _))
  | .itemDone => inferInstanceAs (Decidable (¬ _))
  | .completed => inferInstanceAs (Decidable (ValidTexts _ _))
  | .started | .outputTextDelta | .reasoningTextDelta | .failed | .error | .ignored =>
      .isTrue trivial

instance (track : FrameTrack) : (frame : SseFrame) → Decidable (track.Clean frame)
  | .error => .isTrue trivial
  | .data event data => inferInstanceAs (Decidable (track.CleanKind data (frameKind event data)))

instance decidableCleanFrames (track : FrameTrack) : (frames : List SseFrame) →
    Decidable (CleanFrames track frames)
  | [] => inferInstanceAs (Decidable (∀ index ∈ track.openIndexes.elems, index ∈ track.silent))
  | frame :: frames =>
      have := decidableCleanFrames (track.next frame) frames
      inferInstanceAs (Decidable (track.Clean frame ∧ CleanFrames (track.next frame) frames))

/-! ## The rail and its encoder -/

/-- The rail's state, the track of its frames and the acceptor of its events, in step. -/
structure InStep (state : RailState) (track : FrameTrack) (acceptor : Acceptor) : Prop where
  opened : state.openIndexes = track.openIndexes
  announced : ∀ index, index ∈ acceptor.announced ↔
    index ∈ track.openIndexes ∧ index ∉ track.silent
  calls : acceptor.calls = track.calls
  arguments : acceptor.arguments = track.arguments
  silent : ∀ index ∈ track.silent, index ∈ track.openIndexes
  names : ∀ index, ∀ name ∈ state.toolNames.get? index, name ≠ ""

theorem inStep_initial : InStep .initial .initial .initial where
  opened := rfl
  announced index := by simp [Acceptor.initial, FrameTrack.initial]
  calls := rfl
  arguments := rfl
  silent index h := by cases h
  names index name h := by cases h

/-- Only the open indexes and the names of the state matter. -/
theorem InStep.congr {state state' : RailState} {track : FrameTrack} {acceptor : Acceptor}
    (h : InStep state track acceptor) (hopened : state'.openIndexes = state.openIndexes)
    (hnames : state'.toolNames = state.toolNames) : InStep state' track acceptor where
  opened := hopened.trans h.opened
  announced := h.announced
  calls := h.calls
  arguments := h.arguments
  silent := h.silent
  names := by
    rw [hnames]
    exact h.names

theorem nonEmpty_some {text : String} : nonEmpty (some text) = true ↔ text ≠ "" := by
  simp [nonEmpty]

/-- A content that starts. -/
theorem InStep.start {state : RailState} {track : FrameTrack} {acceptor : Acceptor}
    (h : InStep state track acceptor) (state' : RailState) (index : ℚ) (contentType : ContentType)
    (toolCallId toolName itemId : Option String)
    (htexts : contentType = .toolCall → nonEmpty toolCallId = true ∧ nonEmpty toolName = true)
    (hopened : state'.openIndexes = state.openIndexes.add index)
    (hnames : ∀ index, ∀ name ∈ state'.toolNames.get? index, name ≠ "") :
    ∃ acceptor', acceptor.push (.contentStarted index contentType toolCallId toolName itemId) =
      some acceptor' ∧ InStep state' (track.start index contentType) acceptor' := by
  refine ⟨_, Acceptor.push_contentStarted_eq_some.2 ⟨htexts, rfl⟩, ?_⟩
  refine ⟨?_, ?_, ?_, h.arguments, ?_, hnames⟩
  · rw [hopened, h.opened]
    rfl
  · intro index'
    show index' ∈ acceptor.announced.add index ↔
      index' ∈ track.openIndexes.add index ∧ index' ∉ track.silent.delete index
    rw [OrderedSet.mem_add, OrderedSet.mem_add, OrderedSet.mem_delete, h.announced]
    by_cases hindex : index' = index <;> simp [hindex]
  · show (if contentType = .toolCall then acceptor.calls.add index
      else acceptor.calls.delete index) = _
    rw [h.calls]
    rfl
  · intro index' hsilent
    have hmem := OrderedSet.mem_delete.1 hsilent
    exact OrderedSet.mem_add.2 (Or.inr (h.silent index' hmem.1))

/-- Deltas that the acceptor takes without a change, such as those of texts and reasoning. -/
def Acceptor.TakesAll (make : String → EventPayload) : Prop :=
  ∀ (acceptor : Acceptor) (text : String), acceptor.push (make text) = some acceptor

theorem takesAll_textDelta (index : ℚ) : Acceptor.TakesAll (.textDelta index) := fun _ _ => rfl

theorem takesAll_reasoningDelta (index : ℚ) : Acceptor.TakesAll (.reasoningDelta index) :=
  fun _ _ => rfl

theorem Acceptor.TakesAll.run {make : String → EventPayload} (h : Acceptor.TakesAll make)
    (acceptor : Acceptor) (texts : List String) :
    acceptor.run (texts.map make) = some acceptor := by
  induction texts with
  | nil => rfl
  | cons text texts ih =>
      rw [List.map_cons, Acceptor.run, h acceptor text]
      exact ih

/-- Arguments are appended. -/
theorem InStep.append {state : RailState} {track : FrameTrack} {acceptor : Acceptor}
    (h : InStep state track acceptor) (index : ℚ) (callId : String) (delta : Option String) :
    ∃ acceptor', acceptor.run (delta.toList.map (.toolArgumentsDelta index callId)) =
      some acceptor' ∧ InStep state (track.append index delta) acceptor' := by
  cases delta with
  | none => exact ⟨acceptor, rfl, h⟩
  | some text =>
      refine ⟨_, rfl, ⟨h.opened, h.announced, h.calls, ?_, h.silent, h.names⟩⟩
      show appendDelta acceptor.arguments index text = appendDelta track.arguments index text
      rw [h.arguments]

/-- What one frame does to the three of them: a clean frame keeps them in step, and any other one is
refused. -/
def FrameKeeps (track : FrameTrack) (acceptor : Acceptor) (frame : SseFrame) (step : RailStep) :
    Prop :=
  ∀ state', step.ending = .ok state' →
    (track.Clean frame → ∃ acceptor', acceptor.run step.values = some acceptor' ∧
      InStep state' (track.next frame) acceptor') ∧
        (¬ track.Clean frame → acceptor.run step.values = none)

/-- A frame that is always clean. -/
theorem frameKeeps_of_clean {track : FrameTrack} {acceptor : Acceptor} {frame : SseFrame}
    {step : RailStep} (hclean : track.Clean frame)
    (h : ∀ state', step.ending = .ok state' → ∃ acceptor', acceptor.run step.values =
      some acceptor' ∧ InStep state' (track.next frame) acceptor') :
    FrameKeeps track acceptor frame step :=
  fun state' hok => ⟨fun _ => h state' hok, fun hnot => absurd hclean hnot⟩

/-- A content started at an index that is not open. -/
theorem InStep.startAt {state : RailState} {track : FrameTrack} {acceptor : Acceptor}
    (h : InStep state track acceptor) (index : ℚ) (contentType : ContentType)
    (toolCallId toolName : Option String)
    (htexts : contentType = .toolCall → index ∉ track.openIndexes →
      nonEmpty toolCallId = true ∧ nonEmpty toolName = true) :
    ∃ values state' acceptor', RlyGateway.startAt index contentType toolCallId toolName state =
      .emit values state' ∧ acceptor.run values = some acceptor' ∧
        InStep state' (track.startAt index contentType) acceptor' := by
  unfold RlyGateway.startAt FrameTrack.startAt
  rw [h.opened]
  by_cases hopen : index ∈ track.openIndexes
  · rw [if_pos hopen, if_pos hopen]
    exact ⟨[], state, acceptor, rfl, rfl, h⟩
  · rw [if_neg hopen, if_neg hopen]
    obtain ⟨acceptor', hpush, hstep⟩ := h.start
      { state with
        openIndexes := track.openIndexes.add index
        commitment := if contentType = .toolCall then .toolBoundary else state.commitment }
      index contentType toolCallId toolName none (fun hcall => htexts hcall hopen)
      (by rw [h.opened]) h.names
    refine ⟨_, _, acceptor', rfl, ?_, hstep⟩
    rw [Acceptor.run, hpush]
    rfl

/-- The start of a response is taken and changes nothing the encoder keeps. -/
theorem frameKeeps_started {state : RailState} {track : FrameTrack} {acceptor : Acceptor}
    (h : InStep state track acceptor) {event : Option String} {data : Json}
    (hkind : frameKind event data = .started) :
    FrameKeeps track acceptor (.data event data) (responseStartedFrame data state) := by
  refine frameKeeps_of_clean (by simp only [FrameTrack.Clean, FrameTrack.CleanKind, hkind]) ?_
  intro state' hok
  simp only [FrameTrack.next, hkind]
  unfold responseStartedFrame at hok ⊢
  split at hok
  case isTrue hstarted =>
    cases hok
    rw [if_pos hstarted]
    exact ⟨acceptor, rfl, h⟩
  case isFalse hstarted =>
    cases hok
    rw [if_neg hstarted]
    exact ⟨acceptor, rfl, h.congr rfl rfl⟩

/-- A text or a reasoning delta opens its index if it has to. -/
theorem InStep.startAt_passDelta {state state' : RailState} {track : FrameTrack}
    {acceptor : Acceptor} (h : InStep state track acceptor) (data : Json) (index : ℚ)
    {contentType : ContentType} (htype : contentType ≠ .toolCall) {make : String → EventPayload}
    (hmake : Acceptor.TakesAll make)
    (hok : (RlyGateway.startAt index contentType none none state >>= passDelta data make).ending =
      .ok state') :
    ∃ acceptor', acceptor.run (RlyGateway.startAt index contentType none none state >>=
      passDelta data make).values = some acceptor' ∧
        InStep state' (track.startAt index contentType) acceptor' := by
  obtain ⟨values, next, acceptor', hstart, hrun, hstep⟩ := h.startAt index contentType none none
    fun hcall => absurd hcall htype
  rw [hstart, Yields.emit_bind] at hok ⊢
  cases hok
  refine ⟨acceptor', ?_, hstep⟩
  show acceptor.run (values ++ _) = _
  rw [Acceptor.run_append, hrun]
  exact hmake.run acceptor' _

theorem frameKeeps_outputTextDelta {state : RailState} {track : FrameTrack} {acceptor : Acceptor}
    (h : InStep state track acceptor) {event : Option String} {data : Json}
    (hkind : frameKind event data = .outputTextDelta) :
    FrameKeeps track acceptor (.data event data) (outputTextDeltaFrame data state) := by
  refine frameKeeps_of_clean (by simp only [FrameTrack.Clean, FrameTrack.CleanKind, hkind]) ?_
  intro state' hok
  simp only [FrameTrack.next, hkind]
  exact h.startAt_passDelta data (frameIndex data) (by decide) (takesAll_textDelta _) hok

theorem frameKeeps_reasoningTextDelta {state : RailState} {track : FrameTrack}
    {acceptor : Acceptor} (h : InStep state track acceptor) {event : Option String} {data : Json}
    (hkind : frameKind event data = .reasoningTextDelta) :
    FrameKeeps track acceptor (.data event data) (reasoningTextDeltaFrame data state) := by
  refine frameKeeps_of_clean (by simp only [FrameTrack.Clean, FrameTrack.CleanKind, hkind]) ?_
  intro state' hok
  simp only [FrameTrack.next, hkind]
  exact h.startAt_passDelta data (frameIndex data) (by decide) (takesAll_reasoningDelta _) hok

/-- The acceptor refuses a function call without an id or a name. -/
theorem Acceptor.push_toolCall_eq_none {acceptor : Acceptor} {index : ℚ} {callId name : String}
    {itemId : Option String} (h : ¬ (callId ≠ "" ∧ name ≠ "")) :
    acceptor.push (.contentStarted index .toolCall (some callId) (some name) itemId) = none := by
  unfold push
  dsimp only
  rw [if_pos rfl, if_neg]
  rwa [nonEmpty_some, nonEmpty_some]

/-- A run whose first event is refused is refused. -/
theorem Acceptor.run_eq_none {acceptor : Acceptor} {payload : EventPayload}
    (h : acceptor.push payload = none) (payloads : List EventPayload) :
    acceptor.run (payload :: payloads) = none := by
  rw [run, h]
  rfl

/-- A run whose first event is taken. -/
theorem Acceptor.run_of_push {acceptor acceptor' : Acceptor} {payload : EventPayload}
    (h : acceptor.push payload = some acceptor') (payloads : List EventPayload) :
    acceptor.run (payload :: payloads) = acceptor'.run payloads := by
  rw [run, h]
  rfl

/-- The names stay non-empty when a non-empty one is added. -/
theorem forall_get?_set_ne {names : OrderedMap ℚ String} {index : ℚ} {name : String}
    (h : ∀ index, ∀ name ∈ names.get? index, name ≠ "") (hname : name ≠ "") (index' : ℚ) :
    ∀ name' ∈ (names.set index name).get? index', name' ≠ "" := by
  intro name' hmem
  rw [OrderedMap.get?_set] at hmem
  split at hmem
  · cases hmem
    exact hname
  · exact h index' name' hmem

/-- The index an item of an unknown type opens announces nothing. -/
theorem InStep.openSilently {state : RailState} {track : FrameTrack} {acceptor : Acceptor}
    (h : InStep state track acceptor) (index : ℚ) :
    InStep { state with openIndexes := state.openIndexes.add index } (track.openSilently index)
      acceptor := by
  unfold FrameTrack.openSilently
  by_cases hopen : index ∈ track.openIndexes
  -- an index that is open already keeps what it has announced
  · rw [if_pos hopen]
    refine ⟨?_, h.announced, h.calls, h.arguments, h.silent, h.names⟩
    show state.openIndexes.add index = track.openIndexes
    rw [h.opened, OrderedSet.add_of_mem hopen]
  · rw [if_neg hopen]
    refine ⟨?_, ?_, h.calls, h.arguments, ?_, h.names⟩
    · show state.openIndexes.add index = track.openIndexes.add index
      rw [h.opened]
    · intro index'
      show index' ∈ acceptor.announced ↔
        index' ∈ track.openIndexes.add index ∧ index' ∉ track.silent.add index
      rw [h.announced, OrderedSet.mem_add, OrderedSet.mem_add]
      by_cases hindex : index' = index
      · subst hindex
        simp [hopen]
      · simp [hindex]
    · intro index' hsilent
      rcases OrderedSet.mem_add.1 hsilent with hindex | hold
      · exact OrderedSet.mem_add.2 (Or.inl hindex)
      · exact OrderedSet.mem_add.2 (Or.inr (h.silent index' hold))

/-- An item that is added is announced unless its type is unknown; a function call needs an id and a
name. -/
theorem frameKeeps_itemAdded {state : RailState} {track : FrameTrack} {acceptor : Acceptor}
    (h : InStep state track acceptor) {event : Option String} {data : Json}
    (hkind : frameKind event data = .itemAdded) :
    FrameKeeps track acceptor (.data event data) (itemAddedFrame data state) := by
  intro state' hok
  simp only [FrameTrack.next, FrameTrack.Clean, FrameTrack.CleanKind, hkind]
  unfold itemAddedFrame at hok ⊢
  dsimp only at hok ⊢
  rw [h.opened] at hok ⊢
  generalize recordField data "item" = item at hok ⊢
  generalize addedIndex data track.openIndexes = index at hok ⊢
  cases hitem : itemKind item with
  | message =>
      rw [hitem] at hok
      cases hok
      refine ⟨fun _ => ?_, fun hnot => absurd (fun hcall => by cases hcall) hnot⟩
      obtain ⟨acceptor', hpush, hstep⟩ := h.start
        { state with openIndexes := track.openIndexes.add index } index .text none none
        (item.bind (·.strField? "id")) (fun hcall => by cases hcall) (by rw [h.opened]) h.names
      refine ⟨acceptor', ?_, hstep⟩
      rw [Yields.values_emit, Acceptor.run_of_push hpush]
      exact (takesAll_textDelta index).run acceptor' (outputTexts item)
  | reasoning =>
      rw [hitem] at hok
      cases hok
      refine ⟨fun _ => ?_, fun hnot => absurd (fun hcall => by cases hcall) hnot⟩
      obtain ⟨acceptor', hpush, hstep⟩ := h.start
        { state with
          openIndexes := track.openIndexes.add index
          artifacts := item.elim state.artifacts (captureReasoningArtifact state.artifacts) }
        index .reasoning none none (item.bind (·.strField? "id")) (fun hcall => by cases hcall)
        (by rw [h.opened]) h.names
      refine ⟨acceptor', ?_, hstep⟩
      rw [Yields.values_emit, Acceptor.run_of_push hpush]
      exact (takesAll_reasoningDelta index).run acceptor' (reasoningSummary item)
  | functionCall =>
      rw [hitem] at hok
      cases hok
      constructor
      · intro hclean
        obtain ⟨hcallId, hname⟩ := hclean rfl
        obtain ⟨acceptor', hpush, hstep⟩ := h.start
          { state with
            openIndexes := track.openIndexes.add index
            toolNames := state.toolNames.set index (addedName item)
            commitment := .toolBoundary }
          index .toolCall (some (addedCallId item index)) (some (addedName item))
          (item.bind (·.strField? "id"))
          (fun _ => ⟨nonEmpty_some.2 hcallId, nonEmpty_some.2 hname⟩) (by rw [h.opened])
          (forall_get?_set_ne h.names hname)
        obtain ⟨acceptor'', hrun, happend⟩ := hstep.append index (addedCallId item index)
          (addedArguments item)
        refine ⟨acceptor'', ?_, happend⟩
        rw [Yields.values_emit, Acceptor.run_of_push hpush]
        exact hrun
      -- an empty id or name: the first event of the frame is refused
      · intro hnot
        refine Acceptor.run_eq_none (Acceptor.push_toolCall_eq_none fun hboth => ?_) _
        exact hnot fun _ => hboth
  -- the index is open in the adapter, and the encoder never hears of it
  | unknown =>
      rw [hitem] at hok
      cases hok
      refine ⟨fun _ => ?_, fun hnot => absurd (fun hcall => by cases hcall) hnot⟩
      refine ⟨acceptor, rfl, ?_⟩
      have hstep := h.openSilently index
      rw [h.opened] at hstep
      exact hstep

/-- A delta of arguments that opens its index needs an id. -/
theorem frameKeeps_argumentsDelta {state : RailState} {track : FrameTrack} {acceptor : Acceptor}
    (h : InStep state track acceptor) {event : Option String} {data : Json}
    (hkind : frameKind event data = .argumentsDelta) :
    FrameKeeps track acceptor (.data event data) (argumentsDeltaFrame data state) := by
  intro state' hok
  simp only [FrameTrack.next, FrameTrack.Clean, FrameTrack.CleanKind, hkind]
  unfold argumentsDeltaFrame at hok ⊢
  dsimp only at hok ⊢
  -- the name came with its item, or is the default
  have hname : (state.toolNames.get? (frameIndex data)).getD "tool" ≠ "" := by
    cases hget : state.toolNames.get? (frameIndex data) with
    | none => decide
    | some name => exact h.names _ name hget
  constructor
  · intro hclean
    obtain ⟨values, next, acceptor', hstart, hrun, hstep⟩ := h.startAt (frameIndex data) .toolCall
      (some (deltaCallId data)) (some ((state.toolNames.get? (frameIndex data)).getD "tool"))
      (fun _ hclosed => ⟨nonEmpty_some.2 (hclean hclosed), nonEmpty_some.2 hname⟩)
    rw [hstart, Yields.emit_bind] at hok ⊢
    cases hok
    obtain ⟨acceptor'', hrun', happend⟩ := hstep.append (frameIndex data) (deltaCallId data)
      (data.strField? "delta")
    refine ⟨acceptor'', ?_, happend⟩
    show acceptor.run (values ++ _) = _
    rw [Acceptor.run_append, hrun]
    exact hrun'
  · intro hnot
    obtain ⟨hclosed, hempty⟩ := Classical.not_imp.1 hnot
    unfold startAt at hok ⊢
    rw [h.opened, if_neg hclosed, Yields.emit_bind] at hok ⊢
    refine Acceptor.run_eq_none (Acceptor.push_toolCall_eq_none fun hboth => ?_) _
    exact hempty hboth.1

/-- An item that is done was announced, unless only an item of an unknown type opened its index. -/
theorem frameKeeps_itemDone {state : RailState} {track : FrameTrack} {acceptor : Acceptor}
    (h : InStep state track acceptor) {event : Option String} {data : Json}
    (hkind : frameKind event data = .itemDone) :
    FrameKeeps track acceptor (.data event data) (itemDoneFrame data state) := by
  intro state' hok
  simp only [FrameTrack.next, FrameTrack.Clean, FrameTrack.CleanKind, hkind]
  unfold itemDoneFrame at hok ⊢
  dsimp only at hok ⊢
  generalize frameIndex data = index at hok ⊢
  rw [h.opened] at hok ⊢
  by_cases hopen : index ∈ track.openIndexes
  · rw [if_pos hopen] at hok ⊢
    cases hok
    by_cases hsilent : index ∈ track.silent
    -- only an item of an unknown type opened the index: its end has no start
    · refine ⟨fun hclean => absurd hsilent hclean, fun _ => Acceptor.run_eq_none ?_ _⟩
      have hclosed : index ∉ acceptor.announced := fun hmem =>
        ((h.announced index).1 hmem).2 hsilent
      exact if_neg hclosed
    · refine ⟨fun _ => ?_, fun hnot => absurd hsilent hnot⟩
      have hannounced : index ∈ acceptor.announced := (h.announced index).2 ⟨hopen, hsilent⟩
      have hpush : acceptor.push (.contentCompleted index) =
          some { acceptor with announced := acceptor.announced.delete index } := if_pos hannounced
      refine ⟨_, Acceptor.run_of_push hpush [], rfl, ?_, h.calls, h.arguments, ?_, h.names⟩
      · intro index'
        show index' ∈ acceptor.announced.delete index ↔
          index' ∈ track.openIndexes.delete index ∧ index' ∉ track.silent.delete index
        rw [OrderedSet.mem_delete, OrderedSet.mem_delete, OrderedSet.mem_delete, h.announced]
        by_cases hindex : index' = index <;> simp [hindex]
      · intro index' hmem
        have hold := OrderedSet.mem_delete.1 hmem
        exact OrderedSet.mem_delete.2 ⟨h.silent index' hold.1, hold.2⟩
  · rw [if_neg hopen] at hok ⊢
    cases hok
    -- the frame of an index that is not open yields nothing
    have hsilent : index ∉ track.silent := fun hmem => hopen (h.silent index hmem)
    refine ⟨fun _ => ⟨acceptor, rfl, ?_⟩, fun hnot => absurd hsilent hnot⟩
    have hsame : track.close index = track := by
      unfold FrameTrack.close
      rw [OrderedSet.delete_of_not_mem hopen, OrderedSet.delete_of_not_mem hsilent]
    rw [hsame]
    exact h

/-- A response that is completed needs valid arguments. -/
theorem frameKeeps_completed {state : RailState} {track : FrameTrack} {acceptor : Acceptor}
    (h : InStep state track acceptor) {event : Option String} {data : Json}
    (hkind : frameKind event data = .completed) :
    FrameKeeps track acceptor (.data event data) (completedFrame data state) := by
  intro state' hok
  simp only [FrameTrack.next, FrameTrack.Clean, FrameTrack.CleanKind, hkind]
  unfold completedFrame passArtifacts at hok ⊢
  dsimp only at hok ⊢
  rw [Yields.emit_bind] at hok ⊢
  cases hok
  generalize (outputItems (recordField data "response")).foldl captureReasoningArtifact
    state.artifacts = artifacts
  -- the artifacts go first, and the acceptor takes them as they come
  have hartifacts : acceptor.run (if artifacts = [] then [] else [.fidelityArtifacts artifacts]) =
      some acceptor := by
    split <;> rfl
  show (_ → ∃ acceptor', acceptor.run (_ ++ [_, _]) = _ ∧ _) ∧ (_ → acceptor.run (_ ++ [_, _]) = _)
  rw [Acceptor.run_append, hartifacts, Option.bind_some, ← h.calls, ← h.arguments]
  constructor
  · intro hvalid
    have hpush : acceptor.push (.responseCompleted (stopReasonOf (recordField data "response"))) =
        some acceptor := if_pos hvalid
    refine ⟨acceptor, ?_, h.congr rfl rfl⟩
    exact (Acceptor.run_of_push rfl _).trans (Acceptor.run_of_push hpush [])
  · intro hvalid
    have hpush : acceptor.push (.responseCompleted (stopReasonOf (recordField data "response"))) =
        none := if_neg hvalid
    exact (Acceptor.run_of_push rfl _).trans (Acceptor.run_eq_none hpush [])

/-- A failed response throws. -/
theorem failedFrame_throws (data : Json) (state : RailState) :
    ∀ state', (failedFrame data state).ending ≠ .ok state' := by
  intro state' hok
  cases hok

/-- Every frame. -/
theorem InStep.railStep {state : RailState} {track : FrameTrack} {acceptor : Acceptor}
    (h : InStep state track acceptor) (frame : SseFrame) :
    FrameKeeps track acceptor frame (RlyGateway.railStep state frame) := by
  cases frame with
  | error =>
      intro state' hok
      cases hok
  | data event data =>
      unfold RlyGateway.railStep
      dsimp only
      cases hkind : frameKind event data with
      | started => exact frameKeeps_started h hkind
      | itemAdded => exact frameKeeps_itemAdded h hkind
      | outputTextDelta => exact frameKeeps_outputTextDelta h hkind
      | reasoningTextDelta => exact frameKeeps_reasoningTextDelta h hkind
      | argumentsDelta => exact frameKeeps_argumentsDelta h hkind
      | itemDone => exact frameKeeps_itemDone h hkind
      | completed => exact frameKeeps_completed h hkind
      | failed =>
          intro state' hok
          exact absurd hok (failedFrame_throws data state state')
      | error =>
          intro state' hok
          cases hok
      | ignored =>
          refine frameKeeps_of_clean (by simp only [FrameTrack.Clean, FrameTrack.CleanKind, hkind]) ?_
          intro state' hok
          cases hok
          simp only [FrameTrack.next, hkind]
          exact ⟨acceptor, rfl, h⟩

/-- At the end nothing is announced exactly when only items of an unknown type are open. -/
theorem InStep.announced_eq_empty {state : RailState} {track : FrameTrack} {acceptor : Acceptor}
    (h : InStep state track acceptor) :
    acceptor.announced = .empty ↔ ∀ index ∈ track.openIndexes, index ∈ track.silent := by
  rw [OrderedSet.eq_empty_iff]
  refine forall_congr' fun index => ?_
  rw [h.announced, not_and_not_right]

/-- All frames: the acceptor takes their events to the end exactly when the frames are clean. -/
theorem InStep.forEach {state state' : RailState} {track : FrameTrack} {acceptor : Acceptor}
    (h : InStep state track acceptor) {frames : List SseFrame}
    (hok : (Yields.forEach RlyGateway.railStep state frames).ending = .ok state') :
    (∃ acceptor', acceptor.run (Yields.forEach RlyGateway.railStep state frames).values =
      some acceptor' ∧ acceptor'.announced = .empty) ↔ CleanFrames track frames := by
  -- the events of a frame are taken or refused together, so the first unclean frame decides
  induction frames generalizing state track acceptor with
  | nil =>
      rw [CleanFrames, ← h.announced_eq_empty]
      constructor
      · rintro ⟨acceptor', hrun, hempty⟩
        cases hrun
        exact hempty
      · intro hempty
        exact ⟨acceptor, rfl, hempty⟩
  | cons frame frames ih =>
      rw [Yields.forEach] at hok ⊢
      obtain ⟨next, hfirst, hrest⟩ := Yields.bind_ending_eq_ok.1 hok
      obtain ⟨hclean, hunclean⟩ := h.railStep frame next hfirst
      rw [Yields.bind_of_ok hfirst, Acceptor.run_append, CleanFrames]
      by_cases hframe : track.Clean frame
      · obtain ⟨acceptor', hrun, hstep⟩ := hclean hframe
        rw [hrun, Option.bind_some, ih hstep hrest]
        exact ⟨fun hframes => ⟨hframe, hframes⟩, fun hboth => hboth.2⟩
      · rw [hunclean hframe]
        constructor
        · rintro ⟨acceptor', hrun, -⟩
          cases hrun
        · intro hboth
          exact absurd hboth.1 hframe

/-- A stream that ends without throwing yields what its frames yield. -/
theorem streamFrames_values {frames : List SseFrame} {state : RailState}
    (h : (streamFrames frames).ending = .ok state) :
    (Yields.forEach railStep .initial frames).ending = .ok state ∧
      (streamFrames frames).values = (Yields.forEach railStep .initial frames).values := by
  unfold streamFrames at h ⊢
  obtain ⟨last, hframes, hlast⟩ := Yields.bind_ending_eq_ok.1 h
  rw [Yields.bind_of_ok hframes]
  split at hlast
  · cases hlast
  case isFalse hstarted =>
    rw [if_neg hstarted]
    split at hlast
    · cases hlast
    case isFalse hterminal =>
      rw [if_neg hterminal]
      cases hlast
      exact ⟨hframes, List.append_nil _⟩

/-- The encoder takes the events of a stream that ends without throwing exactly when its frames are
clean. -/
theorem encoderAccepts_streamRailEvents_iff (source : EventSource) (frames : List SseFrame)
    (h : (streamRailEvents source frames).2 = .ok ()) :
    EncoderAccepts (streamRailEvents source frames).1 ↔ CleanFrames .initial frames := by
  unfold streamRailEvents at h ⊢
  dsimp only at h ⊢
  obtain ⟨state, hstate⟩ : ∃ state, (streamFrames frames).ending = .ok state := by
    cases hending : (streamFrames frames).ending with
    | error failure =>
        rw [hending] at h
        cases h
    | ok state => exact ⟨state, rfl⟩
  obtain ⟨hframes, hvalues⟩ := streamFrames_values hstate
  rw [encoderAccepts_iff, hvalues]
  exact inStep_initial.forEach hframes

/-- A frame of a type. -/
def typedFrame (type : String) (fields : List (String × Json)) : SseFrame :=
  .data none (.obj (("type", .str type) :: fields))

/-- A response of one item of a type, added, done and completed. -/
def itemFrames (itemType : String) : List SseFrame :=
  [typedFrame "response.created" [("response", .obj [("id", .str "resp-1")])],
    typedFrame "response.output_item.added" [("output_index", .num 0),
      ("item", .obj [("type", .str itemType)])],
    typedFrame "response.output_item.done" [("output_index", .num 0)],
    typedFrame "response.completed" [("response", .obj [("status", .str "completed")])]]

/-- Where the events of the examples come from. -/
def railSource : EventSource :=
  ⟨"req", "openai-responses", "model", fun _ => "1970-01-01T00:00:00.000Z"⟩

theorem encoderAccepts_message :
    EncoderAccepts (streamRailEvents railSource (itemFrames "message")).1 :=
  (encoderAccepts_streamRailEvents_iff railSource (itemFrames "message") (by rfl)).2
    (by decide)

/-- An item of a type the adapter does not know opens no content, but its end is passed on. -/
theorem not_encoderAccepts_unknownItem :
    ¬ ∀ source frames, (streamRailEvents source frames).2 = .ok () →
      EncoderAccepts (streamRailEvents source frames).1 := by
  intro h
  obtain ⟨frames, hframes⟩ := h railSource (itemFrames "web_search_call") (by rfl)
  have hrejected : encodeResponsesEvents (streamRailEvents railSource
      (itemFrames "web_search_call")).1 =
        .error ⟨"invalid_event_order", "Content completed before start", 500⟩ := by rfl
  rw [hrejected] at hframes
  cases hframes

end RlyGateway
