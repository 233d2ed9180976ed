import Mathlib.Data.List.TakeWhile
import RlyGateway.Core.ResponseStream
import RlyGateway.Library.JsonText
import RlyGateway.Library.OrderedMap
import RlyGateway.Library.Yields
import RlyGateway.Providers.ProviderError

/-!
# The Chat Completions stream

The streaming branch of the Chat Completions adapter: one step for each parsed chunk, over the
indexes that are open, the ids of the tool calls and the argument fragments that came before their
function's name. Text has index 0, reasoning index 1000 and the tool calls those after their own
index.
-/

namespace RlyGateway

/-! ## Reading a chunk -/

/-- A value that is a text and not empty. -/
def nonEmptyText? (value : Option Json) : Option String :=
  (value.bind Json.str?).filter (· ≠ "")

/-- `typeof value === "object"` for a value that is truthy. -/
def isObject : Json → Bool
  | .obj _ | .arr _ => true
  | _ => false

/-- `chunk.choices?.[0]`; an item of a text has no properties and counts as absent. -/
def chunkChoice (chunk : Json) : Option Json :=
  match chunk.field? "choices" with
  | some (.arr choices) => choices.head?
  | some (.obj fields) => Json.lookupField "0" fields
  | _ => none

/-- `choice?.delta`. -/
def chunkDelta (chunk : Json) : Option Json := (chunkChoice chunk).bind (·.field? "delta")

/-- The text a chunk adds. -/
def chunkText? (chunk : Json) : Option String :=
  nonEmptyText? ((chunkDelta chunk).bind (·.field? "content"))

/-- The reasoning a chunk adds. -/
def chunkReasoning? (chunk : Json) : Option String :=
  nonEmptyText? ((chunkDelta chunk).bind (·.field? "reasoning_content"))

/-- The tool calls of a chunk. -/
def chunkToolCalls (chunk : Json) : List Json :=
  (((chunkDelta chunk).bind (·.field? "tool_calls")).bind Json.arr?).getD []

/-- The usage of a chunk. -/
def chunkUsage? (chunk : Json) : Option Json := (chunk.field? "usage").filter Json.truthy

/-- The reason a chunk gives for the end. -/
def chunkFinish? (chunk : Json) : Option Json :=
  ((chunkChoice chunk).bind (·.field? "finish_reason")).filter Json.truthy

/-- `chunk.id ?? "provider-response"`. -/
def chunkResponseId (chunk : Json) : String :=
  match chunk.field? "id" with
  | none | some .null => "provider-response"
  | some id => id.text

/-- What a chunk throws at once: `null` has no properties, and a chunk can report an error. -/
def chunkFailure? (chunk : Json) : Option Thrown :=
  if chunk = .null then
    some (.error "TypeError" "Cannot read properties of null (reading 'error')" none)
  else ((chunk.field? "error").filter Json.truthy).map fun error =>
    .providerAdapterError
      ⟨(error.strField? "code").getD "api_error", "Provider request failed", none, .unknown⟩

/-- The index of a tool call among the contents. -/
def callIndex (call : Json) : ℚ :=
  match call.numField? "index" with
  | some index => index + 1
  | none => 1

/-- The name of a tool call's function. -/
def callName? (call : Json) : Option String :=
  (call.field? "function").bind (·.strField? "name")

/-- The argument fragment of a tool call. -/
def callArguments? (call : Json) : Option String :=
  nonEmptyText? ((call.field? "function").bind (·.field? "arguments"))

/-! ## The loop -/

/-- The state of the loop over the chunks. -/
structure ChatStreamState where
  started : Bool
  openIndexes : OrderedSet ℚ
  toolIds : OrderedMap ℚ String
  pendingToolArguments : OrderedMap ℚ (List String)
  completed : Bool

/-- The state before the first chunk. -/
def ChatStreamState.initial : ChatStreamState := ⟨false, .empty, .empty, .empty, false⟩

/-- What a step of the loop does. -/
abbrev ChatStep := Yields EventPayload Thrown ChatStreamState

/-- Start the response with the first chunk. -/
def startResponse (chunk : Json) (state : ChatStreamState) : ChatStep :=
  if state.started then pure state
  else .emit [.responseStarted (chunkResponseId chunk)] { state with started := true }

/-- Start a content that is not open. -/
def openContent (index : ℚ) (contentType : ContentType) (state : ChatStreamState) : ChatStep :=
  if index ∈ state.openIndexes then pure state
  else .emit [.contentStarted index contentType none none none]
    { state with openIndexes := state.openIndexes.add index }

/-- The text of a chunk. -/
def streamText (chunk : Json) (state : ChatStreamState) : ChatStep :=
  match chunkText? chunk with
  | none => pure state
  | some text => do
      let state ← openContent 0 .text state
      .emit [.textDelta 0 text] state

/-- The reasoning of a chunk. -/
def streamReasoning (chunk : Json) (state : ChatStreamState) : ChatStep :=
  match chunkReasoning? chunk with
  | none => pure state
  | some text => do
      let state ← openContent 1000 .reasoning state
      .emit [.reasoningDelta 1000 text] state

/-- Start a tool call once its function's name is known, with the fragments that came before. -/
def declareToolCall (call : Json) (index : ℚ) (id : String) (state : ChatStreamState) : ChatStep :=
  match callName? call with
  | none => pure state
  | some name =>
      if index ∈ state.openIndexes then pure state
      else
        let pending := (state.pendingToolArguments.get? index).getD []
        .emit (.contentStarted index .toolCall (some id) (some name) none ::
            pending.map (.toolArgumentsDelta index id))
          { state with
            openIndexes := state.openIndexes.add index
            pendingToolArguments := state.pendingToolArguments.erase index }

/-- The argument fragment of a tool call, kept back until the call is started. -/
def streamToolArguments (call : Json) (index : ℚ) (id : String) (state : ChatStreamState) :
    ChatStep :=
  match callArguments? call with
  | none => pure state
  | some fragment =>
      if index ∈ state.openIndexes then .emit [.toolArgumentsDelta index id fragment] state
      else
        let pending := (state.pendingToolArguments.get? index).getD []
        pure { state with
          pendingToolArguments := state.pendingToolArguments.set index (pending ++ [fragment]) }

/-- One tool call of a chunk. -/
def streamToolCall (state : ChatStreamState) (call : Json) : ChatStep :=
  if !isObject call then pure state
  else
    let index := callIndex call
    let id := (call.strField? "id").getD
      ((state.toolIds.get? index).getD ("tool-" ++ Json.numberText index))
    let state := { state with toolIds := state.toolIds.set index id }
    declareToolCall call index id state >>= streamToolArguments call index id

/-- The usage of a chunk. -/
def streamUsage (chunk : Json) (state : ChatStreamState) : ChatStep :=
  match chunkUsage? chunk with
  | none => pure state
  | some usage =>
      .emit [.usageUpdated (usage.numField? "prompt_tokens") (usage.numField? "completion_tokens")]
        state

/-- The end of the response, where a chunk gives a reason for it. -/
def finishResponse (chunk : Json) (state : ChatStreamState) : ChatStep :=
  match chunkFinish? chunk with
  | none => pure state
  | some reason =>
      if 0 < state.pendingToolArguments.size then
        .fail (.providerAdapterError ⟨"api_error",
          "Provider ended a tool stream before declaring its function name", none, .unknown⟩)
      else
        .emit (completions state.openIndexes.elems
            (if reason = .str "tool_calls" then "tool_use" else "end_turn"))
          { state with openIndexes := .empty, completed := true }

/-- One chunk. -/
def streamChunk (state : ChatStreamState) (chunk : Json) : ChatStep :=
  match chunkFailure? chunk with
  | some failure => .fail failure
  | none => do
      let state ← startResponse chunk state
      let state ← streamText chunk state
      let state ← streamReasoning chunk state
      let state ← Yields.forEach streamToolCall state (chunkToolCalls chunk)
      let state ← streamUsage chunk state
      finishResponse chunk state

/-- The whole stream; a stream without a start or an end is an error. -/
def streamChunks (chunks : List Json) : ChatStep := do
  let state ← Yields.forEach streamChunk .initial chunks
  if state.started ∧ state.completed then pure state
  else .fail (.providerAdapterError ⟨"api_error", "Provider request failed", none, .unknown⟩)

/-- The chunks of the data lines up to the end mark; a line that is no JSON is passed over. -/
def parsedChunks (lines : List String) : List Json :=
  (lines.takeWhile (· ≠ "[DONE]")).filterMap Json.parse

/-- The events of the streaming branch over chunks, and how it ends. -/
def streamChatEvents (source : EventSource) (chunks : List Json) :
    List CanonicalEvent × Except Thrown Unit :=
  let run := streamChunks chunks
  (eventsFrom source 0 run.values, run.ending.map fun _ => ())

/-- The streaming branch over the data lines of the upstream body. -/
def invokeChatStream (source : EventSource) (lines : List String) :
    List CanonicalEvent × Except Thrown Unit :=
  streamChatEvents source (parsedChunks lines)

/-! ## Until the response ends -/

/-- A response that has started and not ended, as the state describes it. -/
structure Streaming (yielded : List EventPayload) (state : ChatStreamState) : Prop where
  progress : InProgress state.openIndexes.elems yielded
  started : state.started = true
  running : state.completed = false
  begun : ∃ responseId rest, yielded = .responseStarted responseId :: rest ∧
    ∀ payload ∈ rest, isResponseStarted payload = false

/-- One more event of a response that has started. -/
theorem Streaming.snoc {yielded : List EventPayload} {state state' : ChatStreamState}
    {payload : EventPayload} (h : Streaming yielded state)
    (hopened : state'.openIndexes.elems =
      state.openIndexes.elems ++ (startIndex? payload).toList)
    (hstate : state'.started = state.started) (hrunning : state'.completed = state.completed)
    (hstarted : isResponseStarted payload = false)
    (hcomplete : completeIndex? payload = none) (hterminal : isTerminal payload = false)
    (hdelta : ∀ index ∈ deltaIndex? payload, index ∈ state.openIndexes) :
    Streaming (yielded ++ [payload]) state' where
  progress := h.progress.snoc hopened hcomplete hterminal hdelta
  started := hstate.trans h.started
  running := hrunning.trans h.running
  begun := by
    obtain ⟨responseId, rest, rfl, hrest⟩ := h.begun
    refine ⟨responseId, rest ++ [payload], rfl, ?_⟩
    intro payload' hmem
    rcases List.mem_append.1 hmem with hmem | hmem
    · exact hrest payload' hmem
    · rw [List.mem_singleton.1 hmem]
      exact hstarted

/-- An event that opens nothing leaves the state as it is. -/
theorem Streaming.delta {yielded : List EventPayload} {state : ChatStreamState}
    {payload : EventPayload} (h : Streaming yielded state) (hopened : startIndex? payload = none)
    (hstarted : isResponseStarted payload = false) (hcomplete : completeIndex? payload = none)
    (hterminal : isTerminal payload = false)
    (hdelta : ∀ index ∈ deltaIndex? payload, index ∈ state.openIndexes) :
    Streaming (yielded ++ [payload]) state :=
  h.snoc (by rw [hopened]; simp) rfl rfl hstarted hcomplete hterminal hdelta

/-- The fragments of an open tool call. -/
theorem Streaming.fragments {yielded : List EventPayload} {state : ChatStreamState} {index : ℚ}
    (h : Streaming yielded state) (hopen : index ∈ state.openIndexes) (id : String)
    (fragments : List String) :
    Streaming (yielded ++ fragments.map (.toolArgumentsDelta index id)) state := by
  induction fragments generalizing yielded with
  | nil => simpa using h
  | cons fragment fragments ih =>
      have hnext : Streaming (yielded ++ [.toolArgumentsDelta index id fragment]) state := by
        refine h.delta rfl rfl rfl rfl ?_
        intro index' hindex
        cases hindex
        exact hopen
      have hrest := ih hnext
      rwa [List.append_assoc] at hrest

theorem ensures_startResponse {yielded : List EventPayload} {state : ChatStreamState} {chunk : Json}
    (h : (yielded = [] ∧ state = .initial) ∨ Streaming yielded state) :
    (startResponse chunk state).Ensures yielded Streaming := by
  unfold startResponse
  rcases h with ⟨rfl, rfl⟩ | h
  · refine Yields.ensures_emit.2 ⟨?_, rfl, rfl, chunkResponseId chunk, [], rfl, by simp⟩
    exact InProgress.nil.snoc rfl rfl rfl (by simp [deltaIndex?])
  · rw [if_pos h.started]
    exact Yields.ensures_pure.2 h

theorem ensures_openContent {yielded : List EventPayload} {state : ChatStreamState} {index : ℚ}
    {contentType : ContentType} (h : Streaming yielded state) :
    (openContent index contentType state).Ensures yielded fun yielded state =>
      Streaming yielded state ∧ index ∈ state.openIndexes := by
  unfold openContent
  split
  case isTrue hopen => exact Yields.ensures_pure.2 ⟨h, hopen⟩
  case isFalse hopen =>
    refine Yields.ensures_emit.2 ⟨?_, by simp⟩
    refine h.snoc ?_ rfl rfl rfl rfl rfl (by simp [deltaIndex?])
    exact OrderedSet.elems_add_of_not_mem hopen

/-- A delta that starts its content where that is not open. -/
theorem ensures_contentDelta {yielded : List EventPayload} {state : ChatStreamState} {index : ℚ}
    {contentType : ContentType} {payload : EventPayload} (h : Streaming yielded state)
    (hopened : startIndex? payload = none) (hstarted : isResponseStarted payload = false)
    (hcomplete : completeIndex? payload = none) (hterminal : isTerminal payload = false)
    (hdelta : deltaIndex? payload = some index) :
    (openContent index contentType state >>= .emit [payload]).Ensures yielded Streaming := by
  rw [Yields.ensures_bind]
  refine (ensures_openContent h).mono ?_
  rintro yielded state ⟨h, hopen⟩
  refine Yields.ensures_emit.2 (h.delta hopened hstarted hcomplete hterminal ?_)
  intro index' hindex
  rw [hdelta] at hindex
  cases hindex
  exact hopen

theorem ensures_streamText {yielded : List EventPayload} {state : ChatStreamState} {chunk : Json}
    (h : Streaming yielded state) : (streamText chunk state).Ensures yielded Streaming := by
  unfold streamText
  split
  · exact Yields.ensures_pure.2 h
  · exact ensures_contentDelta h rfl rfl rfl rfl rfl

theorem ensures_streamReasoning {yielded : List EventPayload} {state : ChatStreamState}
    {chunk : Json} (h : Streaming yielded state) :
    (streamReasoning chunk state).Ensures yielded Streaming := by
  unfold streamReasoning
  split
  · exact Yields.ensures_pure.2 h
  · exact ensures_contentDelta h rfl rfl rfl rfl rfl

theorem ensures_declareToolCall {yielded : List EventPayload} {state : ChatStreamState}
    {call : Json} {index : ℚ} {id : String} (h : Streaming yielded state) :
    (declareToolCall call index id state).Ensures yielded Streaming := by
  unfold declareToolCall
  split
  · exact Yields.ensures_pure.2 h
  rename_i name _
  split
  case isTrue => exact Yields.ensures_pure.2 h
  case isFalse hopen =>
    refine Yields.ensures_emit.2 ?_
    have hstart : Streaming
        (yielded ++ [.contentStarted index .toolCall (some id) (some name) none])
        { state with
          openIndexes := state.openIndexes.add index
          pendingToolArguments := state.pendingToolArguments.erase index } := by
      refine h.snoc ?_ rfl rfl rfl rfl rfl (by simp [deltaIndex?])
      exact OrderedSet.elems_add_of_not_mem hopen
    have hadded : index ∈ state.openIndexes.add index := by simp
    -- the fragments that came before the name follow the start
    have hfragments := hstart.fragments hadded id
      ((state.pendingToolArguments.get? index).getD [])
    rwa [List.append_assoc] at hfragments

theorem ensures_streamToolArguments {yielded : List EventPayload} {state : ChatStreamState}
    {call : Json} {index : ℚ} {id : String} (h : Streaming yielded state) :
    (streamToolArguments call index id state).Ensures yielded Streaming := by
  unfold streamToolArguments
  split
  · exact Yields.ensures_pure.2 h
  split
  case isTrue hopen =>
    exact Yields.ensures_emit.2 (h.delta rfl rfl rfl rfl (by simp [deltaIndex?, hopen]))
  case isFalse => exact Yields.ensures_pure.2 ⟨h.progress, h.started, h.running, h.begun⟩

theorem ensures_streamToolCall {yielded : List EventPayload} {state : ChatStreamState}
    {call : Json} (h : Streaming yielded state) :
    (streamToolCall state call).Ensures yielded Streaming := by
  unfold streamToolCall
  split
  · exact Yields.ensures_pure.2 h
  · dsimp only
    rw [Yields.ensures_bind]
    refine Yields.Ensures.mono (ensures_declareToolCall
      ⟨h.progress, h.started, h.running, h.begun⟩) ?_
    intro yielded state h
    exact ensures_streamToolArguments h

theorem ensures_streamUsage {yielded : List EventPayload} {state : ChatStreamState} {chunk : Json}
    (h : Streaming yielded state) : (streamUsage chunk state).Ensures yielded Streaming := by
  unfold streamUsage
  split
  · exact Yields.ensures_pure.2 h
  · exact Yields.ensures_emit.2 (h.delta rfl rfl rfl rfl (by simp [deltaIndex?]))

/-- A response that has ended: nothing is open. -/
structure Ended (state : ChatStreamState) : Prop where
  started : state.started = true
  completed : state.completed = true
  closed : state.openIndexes = .empty

theorem ensures_finishResponse {yielded : List EventPayload} {state : ChatStreamState}
    {chunk : Json} (h : Streaming yielded state) :
    (finishResponse chunk state).Ensures yielded fun yielded state' =>
      if (chunkFinish? chunk).isSome then WellFormed yielded ∧ Ended state'
      else Streaming yielded state' := by
  unfold finishResponse
  cases hfinish : chunkFinish? chunk with
  | none => exact Yields.ensures_pure.2 h
  | some reason =>
      dsimp only
      by_cases hpending : 0 < state.pendingToolArguments.size
      · rw [if_pos hpending]
        exact Yields.ensures_fail
      · rw [if_neg hpending]
        refine Yields.ensures_emit.2 ⟨?_, h.started, rfl, rfl⟩
        obtain ⟨responseId, rest, rfl, hrest⟩ := h.begun
        exact h.progress.complete state.openIndexes.nodup hrest _

/-- One chunk before the response has ended. -/
theorem ensures_streamChunk {yielded : List EventPayload} {state : ChatStreamState} {chunk : Json}
    (h : (yielded = [] ∧ state = .initial) ∨ Streaming yielded state) :
    (streamChunk state chunk).Ensures yielded fun yielded state' =>
      if (chunkFinish? chunk).isSome then WellFormed yielded ∧ Ended state'
      else Streaming yielded state' := by
  unfold streamChunk
  split
  · exact Yields.ensures_fail
  rw [Yields.ensures_bind]
  refine (ensures_startResponse h).mono fun yielded state h => ?_
  rw [Yields.ensures_bind]
  refine (ensures_streamText h).mono fun yielded state h => ?_
  rw [Yields.ensures_bind]
  refine (ensures_streamReasoning h).mono fun yielded state h => ?_
  rw [Yields.ensures_bind]
  have hcalls : (Yields.forEach streamToolCall state (chunkToolCalls chunk)).Ensures yielded
      Streaming :=
    Yields.ensures_forEach (fun _ _ _ _ h => ensures_streamToolCall h) h
  refine hcalls.mono fun yielded state h => ?_
  rw [Yields.ensures_bind]
  refine (ensures_streamUsage h).mono fun yielded state h => ?_
  exact ensures_finishResponse h

/-! ## After the response has ended -/

/-- A chunk that adds nothing: no text, no reasoning, no named tool call, no usage and no reason to
end. -/
structure Inert (chunk : Json) : Prop where
  text : chunkText? chunk = none
  reasoning : chunkReasoning? chunk = none
  toolCalls : ∀ call ∈ chunkToolCalls chunk, callName? call = none
  usage : chunkUsage? chunk = none
  finish : chunkFinish? chunk = none

theorem inert_iff {chunk : Json} :
    Inert chunk ↔ chunkText? chunk = none ∧ chunkReasoning? chunk = none ∧
      (∀ call ∈ chunkToolCalls chunk, callName? call = none) ∧ chunkUsage? chunk = none ∧
        chunkFinish? chunk = none :=
  ⟨fun ⟨h₁, h₂, h₃, h₄, h₅⟩ => ⟨h₁, h₂, h₃, h₄, h₅⟩,
    fun ⟨h₁, h₂, h₃, h₄, h₅⟩ => ⟨h₁, h₂, h₃, h₄, h₅⟩⟩

theorem silent_startResponse (chunk : Json) :
    Yields.Silent Ended (startResponse chunk) True := by
  intro state h
  rw [startResponse, if_pos h.started]
  exact Yields.ensures_pure.2 ⟨by simp, fun _ => h⟩

theorem silent_streamText (chunk : Json) :
    Yields.Silent Ended (streamText chunk) (chunkText? chunk = none) := by
  intro state h
  unfold streamText
  cases htext : chunkText? chunk with
  | none => exact Yields.ensures_pure.2 ⟨by simp, fun _ => h⟩
  | some text =>
      dsimp only
      rw [Yields.ensures_bind]
      intro state' _
      exact Yields.ensures_emit.2 ⟨by simp, by simp⟩

theorem silent_streamReasoning (chunk : Json) :
    Yields.Silent Ended (streamReasoning chunk) (chunkReasoning? chunk = none) := by
  intro state h
  unfold streamReasoning
  cases htext : chunkReasoning? chunk with
  | none => exact Yields.ensures_pure.2 ⟨by simp, fun _ => h⟩
  | some text =>
      dsimp only
      rw [Yields.ensures_bind]
      intro state' _
      exact Yields.ensures_emit.2 ⟨by simp, by simp⟩

/-- A tool call without a name is kept back, and one with a name starts again. -/
theorem silent_streamToolCall (call : Json) :
    Yields.Silent Ended (streamToolCall · call) (callName? call = none) := by
  intro state h
  have hclosed : ∀ index, index ∉ state.openIndexes := by
    intro index
    rw [h.closed]
    exact OrderedSet.not_mem_empty index
  unfold streamToolCall
  dsimp only
  by_cases hobject : isObject call
  · rw [if_neg (by simp [hobject])]
    unfold declareToolCall
    cases hname : callName? call with
    -- without a name nothing opens, and fragments of a closed index are kept back
    | none =>
        dsimp only
        rw [Yields.pure_bind]
        unfold streamToolArguments
        split
        · exact Yields.ensures_pure.2 ⟨by simp, fun _ => ⟨h.started, h.completed, h.closed⟩⟩
        · rw [if_neg (hclosed _)]
          exact Yields.ensures_pure.2 ⟨by simp, fun _ => ⟨h.started, h.completed, h.closed⟩⟩
    -- everything was closed at the end, so the index is started again
    | some name =>
        dsimp only
        rw [if_neg (hclosed _), Yields.ensures_bind]
        refine Yields.ensures_emit.2 ?_
        intro state' _
        exact ⟨by simp, by simp⟩
  · have hname : callName? call = none := by
      cases call <;> first | rfl | exact absurd rfl hobject
    rw [if_pos (by simp [hobject]), hname]
    exact Yields.ensures_pure.2 ⟨by simp, fun _ => h⟩

theorem silent_streamUsage (chunk : Json) :
    Yields.Silent Ended (streamUsage chunk) (chunkUsage? chunk = none) := by
  intro state h
  unfold streamUsage
  cases husage : chunkUsage? chunk with
  | none => exact Yields.ensures_pure.2 ⟨by simp, fun _ => h⟩
  | some usage => exact Yields.ensures_emit.2 ⟨by simp, by simp⟩

theorem silent_finishResponse (chunk : Json) :
    Yields.Silent Ended (finishResponse chunk) (chunkFinish? chunk = none) := by
  intro state h
  unfold finishResponse
  cases hfinish : chunkFinish? chunk with
  | none => exact Yields.ensures_pure.2 ⟨by simp, fun _ => h⟩
  | some reason =>
      dsimp only
      by_cases hpending : 0 < state.pendingToolArguments.size
      · rw [if_pos hpending]
        exact Yields.ensures_fail
      · rw [if_neg hpending]
        exact Yields.ensures_emit.2 ⟨by simp [completions], by simp [completions]⟩

/-- After the end, exactly the inert chunks yield nothing. -/
theorem silent_streamChunk (chunk : Json) :
    Yields.Silent Ended (streamChunk · chunk) (Inert chunk) := by
  intro state h
  unfold streamChunk
  split
  · exact Yields.ensures_fail
  · have hsilent := (silent_startResponse chunk).andThen <| (silent_streamText chunk).andThen <|
      (silent_streamReasoning chunk).andThen <|
        (Yields.silent_forEach silent_streamToolCall (chunkToolCalls chunk)).andThen <|
          (silent_streamUsage chunk).andThen (silent_finishResponse chunk)
    rw [true_and, ← inert_iff] at hsilent
    exact hsilent state h

/-! ## Well-formed responses -/

/-- The chunks after the first one that gives a reason for the end. -/
def afterFinish (chunks : List Json) : List Json :=
  (chunks.dropWhile fun chunk => (chunkFinish? chunk).isNone).drop 1

/-- The chunks up to the end leave a response in progress, or none. -/
theorem ensures_beforeFinish {chunks : List Json}
    (hnone : ∀ chunk ∈ chunks, (chunkFinish? chunk).isNone) :
    (Yields.forEach streamChunk .initial chunks).Ensures [] fun yielded state =>
      (yielded = [] ∧ state = .initial) ∨ Streaming yielded state := by
  refine Yields.ensures_forEach ?_ (Or.inl ⟨rfl, rfl⟩)
  intro chunk hmem yielded state h
  refine (ensures_streamChunk h).mono fun yielded state hpost => ?_
  rw [Option.isNone_iff_eq_none.1 (hnone chunk hmem)] at hpost
  exact Or.inr hpost

/-- After a well-formed response, the stream stays well formed exactly when all chunks are inert. -/
theorem ensures_afterEnd {yielded : List EventPayload} {state : ChatStreamState}
    (hwell : WellFormed yielded) (hended : Ended state) (chunks : List Json) :
    (Yields.forEach streamChunk state chunks).Ensures yielded fun yielded _ =>
      WellFormed yielded ↔ ∀ chunk ∈ chunks, Inert chunk := by
  intro state' hrun
  have hsilent := Yields.silent_forEach silent_streamChunk chunks
  obtain ⟨hnothing, -⟩ := hsilent state hended state' hrun
  rw [List.nil_append] at hnothing
  rw [← hnothing]
  constructor
  · exact hwell.append_eq_nil
  · intro hvalues
    rw [hvalues, List.append_nil]
    exact hwell

theorem ensures_streamChunks (chunks : List Json) :
    (Yields.forEach streamChunk .initial chunks).Ensures [] fun yielded state =>
      state.completed = true → (WellFormed yielded ↔ ∀ chunk ∈ afterFinish chunks, Inert chunk) := by
  have hbefore : ∀ chunk ∈ chunks.takeWhile (fun chunk => (chunkFinish? chunk).isNone),
      (chunkFinish? chunk).isNone := fun _ => List.mem_takeWhile_imp
  have hsplit := List.takeWhile_append_dropWhile
    (p := fun chunk => (chunkFinish? chunk).isNone) (l := chunks)
  unfold afterFinish
  cases hrest : chunks.dropWhile (fun chunk => (chunkFinish? chunk).isNone) with
  | nil =>
      -- no chunk gives a reason for the end, so the response does not complete
      rw [hrest, List.append_nil] at hsplit
      rw [← hsplit]
      refine (ensures_beforeFinish hbefore).mono ?_
      rintro yielded state (⟨-, rfl⟩ | h) hcompleted
      · cases hcompleted
      · rw [h.running] at hcompleted
        cases hcompleted
  | cons finishing after =>
      have hfinishing : (chunkFinish? finishing).isSome := by
        have hhead := List.head?_dropWhile_not (fun chunk => (chunkFinish? chunk).isNone) chunks
        rw [hrest] at hhead
        simpa using hhead
      rw [← hsplit, hrest, Yields.forEach_append, Yields.ensures_bind]
      refine (ensures_beforeFinish hbefore).mono fun yielded state h => ?_
      rw [Yields.forEach, Yields.ensures_bind]
      refine (ensures_streamChunk h).mono fun yielded state hpost => ?_
      rw [if_pos hfinishing] at hpost
      exact (ensures_afterEnd hpost.1 hpost.2 after).mono fun _ _ h _ => h

/-- A stream that ends without an error is well formed exactly when the chunks after the first one
that gives a reason for the end are all inert. -/
theorem wellFormed_streamChatEvents_iff (source : EventSource) (chunks : List Json)
    (hended : (streamChatEvents source chunks).2 = .ok ()) :
    WellFormed ((streamChatEvents source chunks).1.map (·.payload)) ↔
      ∀ chunk ∈ afterFinish chunks, Inert chunk := by
  have hpayloads : (streamChatEvents source chunks).1.map (·.payload) =
      (streamChunks chunks).values := map_payload_eventsFrom source 0 _
  have hstream : (streamChunks chunks).Ensures [] fun yielded _ =>
      WellFormed yielded ↔ ∀ chunk ∈ afterFinish chunks, Inert chunk := by
    unfold streamChunks
    rw [Yields.ensures_bind]
    refine (ensures_streamChunks chunks).mono fun yielded state h => ?_
    split
    case isTrue hfinal => exact Yields.ensures_pure.2 (h hfinal.2)
    case isFalse => exact Yields.ensures_fail
  rw [hpayloads]
  cases hending : (streamChunks chunks).ending with
  | ok state => exact hstream state hending
  | error failure =>
      rw [streamChatEvents, hending] at hended
      cases hended

/-- A chunk with a text and the reason for the end. -/
def finishingChunk : Json :=
  .obj [("id", .str "chat-1"),
    ("choices", .arr [.obj [("delta", .obj [("content", .str "hi")]),
      ("finish_reason", .str "stop")]])]

/-- A chunk with the usage only. -/
def usageChunk : Json :=
  .obj [("choices", .arr []), ("usage", .obj [("prompt_tokens", .num 3),
    ("completion_tokens", .num 5)])]

/-- Where the events of the examples come from. -/
def chatSource : EventSource := ⟨"req", "openrouter", "model", fun _ => "1970-01-01T00:00:00.000Z"⟩

theorem wellFormed_usage_before_finish :
    WellFormed ((streamChatEvents chatSource [usageChunk, finishingChunk]).1.map (·.payload)) :=
  (wellFormed_streamChatEvents_iff chatSource [usageChunk, finishingChunk] (by rfl)).2 (by
    intro chunk hmem
    have hnone : afterFinish [usageChunk, finishingChunk] = [] := by decide
    rw [hnone] at hmem
    cases hmem)

/-- A usage chunk after the finishing chunk, as the upstream sends it, follows the completion. -/
theorem not_wellFormed_usage_after_finish :
    ¬ ∀ source chunks, (streamChatEvents source chunks).2 = .ok () →
      WellFormed ((streamChatEvents source chunks).1.map (·.payload)) := by
  intro h
  have hwell := h chatSource [finishingChunk, usageChunk] (by rfl)
  obtain ⟨before, stopReason, heq, -⟩ := hwell.completedLast
  have hlast : ((streamChatEvents chatSource [finishingChunk, usageChunk]).1.map
      (·.payload)).getLast? = some (.usageUpdated (some 3) (some 5)) := by decide
  rw [heq, List.getLast?_append] at hlast
  cases hlast

end RlyGateway
