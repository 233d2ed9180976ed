import RlyGateway.Library.Fallible
import RlyGateway.Protocols.OpenAiResponses.Agreement

/-!
# What the Responses encoder accepts

An abstract acceptor of event payloads: the indexes that are open, those whose last item is a
function call, and the argument texts. The encoder refines it, so a response is encoded without an
error exactly when the acceptor takes all of it and ends with nothing open.
-/

namespace RlyGateway

/-! ## The acceptor -/

/-- The state of the acceptor. -/
structure Acceptor where
  announced : OrderedSet ℚ
  calls : OrderedSet ℚ
  arguments : OrderedMap ℚ String

/-- The state before the first event. -/
def Acceptor.initial : Acceptor := ⟨.empty, .empty, .empty⟩

/-- The argument texts of the function calls are valid JSON, as far as there are any. -/
def ValidTexts (calls : OrderedSet ℚ) (arguments : OrderedMap ℚ String) : Prop :=
  ∀ entry ∈ arguments.entries, entry.1 ∈ calls → (Json.parse entry.2).isSome = true

instance (calls : OrderedSet ℚ) (arguments : OrderedMap ℚ String) :
    Decidable (ValidTexts calls arguments) :=
  inferInstanceAs (Decidable (∀ entry ∈ arguments.entries, _))

/-- One event. -/
def Acceptor.push (acceptor : Acceptor) : EventPayload → Option Acceptor
  | .contentStarted index contentType toolCallId toolName _ =>
      if contentType = .toolCall then
        if nonEmpty toolCallId ∧ nonEmpty toolName then
          some { acceptor with
            announced := acceptor.announced.add index
            calls := acceptor.calls.add index }
        else none
      else some { acceptor with
        announced := acceptor.announced.add index
        calls := acceptor.calls.delete index }
  | .toolArgumentsDelta index _ partialJson =>
      some { acceptor with arguments := appendDelta acceptor.arguments index partialJson }
  | .contentCompleted index =>
      if index ∈ acceptor.announced then
        some { acceptor with announced := acceptor.announced.delete index }
      else none
  | .responseCompleted _ =>
      if ValidTexts acceptor.calls acceptor.arguments then some acceptor else none
  | _ => some acceptor

/-- Events one after the other. -/
def Acceptor.run (acceptor : Acceptor) : List EventPayload → Option Acceptor
  | [] => some acceptor
  | payload :: payloads => (acceptor.push payload).bind (·.run payloads)

theorem Acceptor.run_append (acceptor : Acceptor) (payloads payloads' : List EventPayload) :
    acceptor.run (payloads ++ payloads') = (acceptor.run payloads).bind (·.run payloads') := by
  induction payloads generalizing acceptor with
  | nil => rfl
  | cons payload payloads ih =>
      rw [List.cons_append, run, run]
      cases acceptor.push payload with
      | none => rfl
      | some next => exact ih next

/-! ## The encoder refines it -/

/-- Whether an item is a function call. -/
def OutputItem.isCall : OutputItem → Bool
  | .functionCall _ _ _ _ => true
  | _ => false

/-- The encoder's state stands for the acceptor's, and the next event of the response has the number
`start`. -/
structure Encodes (source : EventSource) (start : ℕ) (acceptor : Acceptor)
    (context : EncodeContext) : Prop where
  opened : context.openIndexes = acceptor.announced
  calls : ∀ index, index ∈ acceptor.calls ↔
    (context.aggregate.items.get? index).any OutputItem.isCall = true
  arguments : context.aggregate.toolJson = acceptor.arguments
  sequence : context.lastSequence < start
  request : context.requestId = none ∨ context.requestId = some source.requestId

theorem encodes_initial (source : EventSource) : Encodes source 0 .initial createContext where
  opened := rfl
  calls index := by simp [Acceptor.initial, createContext, createAggregateContext]
  arguments := rfl
  sequence := by decide
  request := Or.inl rfl

theorem Encodes.checkProvenance {source : EventSource} {start : ℕ} {acceptor : Acceptor}
    {context : EncodeContext} (h : Encodes source start acceptor context) (payload : EventPayload) :
    checkProvenance context (eventAt source start payload) = .ok () := by
  have hsequence : ¬ (eventAt source start payload).sequence ≤ context.lastSequence :=
    not_le.2 h.sequence
  unfold RlyGateway.checkProvenance
  rw [if_neg hsequence]
  rcases h.request with hnone | hsome
  · rw [hnone]
    rfl
  · rw [hsome, if_neg]
    rintro ⟨-, hne⟩
    exact hne rfl

theorem isCall_finalizeItem (context : AggregateContext) (index : ℚ) (item : OutputItem) :
    (finalizeItem context index item).isCall = item.isCall := by
  cases item <;> rfl

/-- Finalizing leaves the kinds of the items. -/
theorem any_isCall_finalizeItems (context : AggregateContext) (index : ℚ) :
    ((finalizeItems context).get? index).any OutputItem.isCall =
      (context.items.get? index).any OutputItem.isCall := by
  rw [get?_finalizeItems]
  cases context.items.get? index with
  | none => rfl
  | some item => exact isCall_finalizeItem context index item

/-- The encoder's check of the arguments is the acceptor's. -/
theorem Encodes.validArguments {source : EventSource} {start : ℕ} {acceptor : Acceptor}
    {context : EncodeContext} (h : Encodes source start acceptor context) :
    context.aggregate.toolJson.entries.all (validArguments context.aggregate.items) = true ↔
      ValidTexts acceptor.calls acceptor.arguments := by
  rw [List.all_eq_true, h.arguments]
  refine forall₂_congr fun entry _ => ?_
  rw [h.calls]
  unfold RlyGateway.validArguments
  cases context.aggregate.items.get? entry.1 with
  | none => simp
  | some item => cases item <;> simp [OutputItem.isCall]

/-- The event of a number, checked. -/
theorem Encodes.encodeResponsesEvent {source : EventSource} {start : ℕ} {acceptor : Acceptor}
    {context : EncodeContext} (h : Encodes source start acceptor context) (payload : EventPayload) :
    encodeResponsesEvent context (eventAt source start payload) =
      applyAggregate context.aggregate (eventAt source start payload) >>= fun aggregate =>
        encodePayload (aggregated context (eventAt source start payload) aggregate) payload := by
  unfold RlyGateway.encodeResponsesEvent
  rw [h.checkProvenance payload]
  rfl

/-- The state after the event of a number. -/
theorem Encodes.next {source : EventSource} {start : ℕ} {acceptor acceptor' : Acceptor}
    {context context' : EncodeContext} (h : Encodes source start acceptor context)
    (hlast : context'.lastSequence = start)
    (hrequest : context'.requestId = context.requestId.or (some source.requestId))
    (hopened : context'.openIndexes = acceptor'.announced)
    (hcalls : ∀ index, index ∈ acceptor'.calls ↔
      (context'.aggregate.items.get? index).any OutputItem.isCall = true)
    (harguments : context'.aggregate.toolJson = acceptor'.arguments) :
    Encodes source (start + 1) acceptor' context' where
  opened := hopened
  calls := hcalls
  arguments := harguments
  sequence := by
    rw [hlast]
    push_cast
    omega
  request := by
    rw [hrequest]
    rcases h.request with hnone | hsome
    · exact Or.inr (by rw [hnone]; rfl)
    · exact Or.inr (by rw [hsome]; rfl)

/-- Whether an item that starts is a function call. -/
theorem isCall_startItem {index : ℚ} {contentType : ContentType}
    {toolCallId toolName providerId : Option String} {item : OutputItem}
    (h : startItem index contentType toolCallId toolName providerId = .ok item) :
    item.isCall = decide (contentType = .toolCall) := by
  unfold startItem at h
  split at h
  · cases h
    rfl
  · cases h
    rfl
  · cases h
    rfl
  · split at h
    · cases h
    · cases h
      rfl

/-- An item starts unless it is a function call without an id or a name. -/
theorem startItem_eq_ok {index : ℚ} {contentType : ContentType}
    {toolCallId toolName providerId : Option String} :
    (∃ item, startItem index contentType toolCallId toolName providerId = .ok item) ↔
      (contentType = .toolCall → nonEmpty toolCallId = true ∧ nonEmpty toolName = true) := by
  unfold startItem
  cases contentType with
  | toolCall =>
      by_cases hid : nonEmpty toolCallId = true <;> by_cases hname : nonEmpty toolName = true <;>
        simp [hid, hname]
  | _ => simp

/-- What the acceptor takes at the start of a content. -/
theorem Acceptor.push_contentStarted_eq_some {acceptor acceptor' : Acceptor} {index : ℚ}
    {contentType : ContentType} {toolCallId toolName providerId : Option String} :
    acceptor.push (.contentStarted index contentType toolCallId toolName providerId) =
        some acceptor' ↔
      (contentType = .toolCall → nonEmpty toolCallId = true ∧ nonEmpty toolName = true) ∧
        acceptor' = { acceptor with
          announced := acceptor.announced.add index
          calls := if contentType = .toolCall then acceptor.calls.add index
            else acceptor.calls.delete index } := by
  unfold push
  dsimp only
  by_cases hcall : contentType = .toolCall
  · rw [if_pos hcall, if_pos hcall]
    by_cases htexts : nonEmpty toolCallId = true ∧ nonEmpty toolName = true
    · rw [if_pos htexts]
      simp [htexts, eq_comm]
    · rw [if_neg htexts]
      simp [hcall, htexts]
  · rw [if_neg hcall, if_neg hcall, Option.some_inj, eq_comm]
    exact ⟨fun h => ⟨fun htool => absurd htool hcall, h⟩, fun h => h.2⟩

theorem mem_calls_set {calls : OrderedSet ℚ} {items : OrderedMap ℚ OutputItem}
    (h : ∀ index, index ∈ calls ↔ (items.get? index).any OutputItem.isCall = true) (index : ℚ)
    {item : OutputItem} {contentType : ContentType}
    (hitem : item.isCall = decide (contentType = .toolCall)) (index' : ℚ) :
    index' ∈ (if contentType = .toolCall then calls.add index else calls.delete index) ↔
      ((items.set index item).get? index').any OutputItem.isCall = true := by
  rw [OrderedMap.get?_set]
  by_cases hindex : index = index'
  · subst hindex
    rw [if_pos rfl, Option.any_some, hitem]
    by_cases hcall : contentType = .toolCall
    · simp [hcall]
    · simp [hcall]
  · rw [if_neg hindex, ← h index']
    by_cases hcall : contentType = .toolCall
    · simp [hcall, Ne.symm hindex]
    · simp [hcall, Ne.symm hindex]

theorem encodePayload_responseCompleted (context : EncodeContext) (stopReason : String) :
    encodePayload context (.responseCompleted stopReason) =
      if context.aggregate.toolJson.entries.all (validArguments context.aggregate.items) = true then
        .ok ([.completed (shownResponse context.aggregate)],
          { context with
            aggregate := { context.aggregate with items := finalizeItems context.aggregate }
            status := .completed })
      else
        .error ⟨"invalid_tool_arguments", "Function argument deltas are not valid JSON", 502⟩ := by
  unfold encodePayload finalizeAggregate
  dsimp only
  split <;> rfl

/-- What the acceptor takes, the encoder encodes. -/
theorem Encodes.push {source : EventSource} {start : ℕ} {acceptor acceptor' : Acceptor}
    {context : EncodeContext} (h : Encodes source start acceptor context) {payload : EventPayload}
    (hpush : acceptor.push payload = some acceptor') :
    ∃ frames context', RlyGateway.encodeResponsesEvent context (eventAt source start payload) =
      .ok (frames, context') ∧ Encodes source (start + 1) acceptor' context' := by
  rw [h.encodeResponsesEvent]
  cases payload with
  | contentStarted index contentType toolCallId toolName providerId =>
      obtain ⟨htexts, rfl⟩ := Acceptor.push_contentStarted_eq_some.1 hpush
      obtain ⟨item, hitem⟩ := startItem_eq_ok.2 htexts
      simp only [applyAggregate, eventAt, encodePayload]
      rw [hitem]
      refine ⟨_, _, rfl, h.next rfl rfl ?_ ?_ h.arguments⟩
      · show context.openIndexes.add index = acceptor.announced.add index
        rw [h.opened]
      · exact mem_calls_set h.calls index (isCall_startItem hitem)
  | toolArgumentsDelta index toolCallId partialJson =>
      cases hpush
      refine ⟨_, _, rfl, h.next rfl rfl h.opened h.calls ?_⟩
      show appendDelta context.aggregate.toolJson index partialJson = _
      rw [h.arguments]
  | contentCompleted index =>
      simp only [Acceptor.push] at hpush
      split at hpush
      case isTrue hannounced =>
        cases hpush
        have hopen : index ∈ context.openIndexes := by
          rw [h.opened]
          exact hannounced
        refine ⟨_, _, if_pos hopen, h.next rfl rfl ?_ h.calls h.arguments⟩
        show context.openIndexes.delete index = acceptor.announced.delete index
        rw [h.opened]
      case isFalse => cases hpush
  -- the frame is built from finalized items, which are of the same kinds
  | responseCompleted stopReason =>
      simp only [Acceptor.push] at hpush
      split at hpush
      case isTrue hvalid =>
        cases hpush
        refine ⟨_, _, (encodePayload_responseCompleted _ stopReason).trans
          (if_pos (h.validArguments.2 hvalid)), h.next rfl rfl h.opened ?_ h.arguments⟩
        intro index
        rw [h.calls, ← any_isCall_finalizeItems]
        rfl
      case isFalse => cases hpush
  -- the other payloads touch neither the open indexes, nor the items, nor the arguments
  | responseStarted _ | textDelta _ _ | reasoningDelta _ _ | usageUpdated _ _
  | fidelityArtifacts _ | signatureDelta _ _ | responseFailed _ _ =>
      cases hpush
      exact ⟨_, _, rfl, h.next rfl rfl h.opened h.calls h.arguments⟩

/-- What the acceptor refuses, the encoder rejects. -/
theorem Encodes.reject {source : EventSource} {start : ℕ} {acceptor : Acceptor}
    {context : EncodeContext} (h : Encodes source start acceptor context) {payload : EventPayload}
    (hpush : acceptor.push payload = none) :
    ∃ failure, RlyGateway.encodeResponsesEvent context (eventAt source start payload) =
      .error failure := by
  rw [h.encodeResponsesEvent]
  cases payload with
  | contentStarted index contentType toolCallId toolName providerId =>
      cases hitem : startItem index contentType toolCallId toolName providerId with
      | error failure =>
          simp only [applyAggregate, eventAt]
          rw [hitem]
          exact ⟨failure, rfl⟩
      | ok item =>
          have hsome : acceptor.push (.contentStarted index contentType toolCallId toolName
              providerId) = some _ :=
            Acceptor.push_contentStarted_eq_some.2 ⟨startItem_eq_ok.1 ⟨item, hitem⟩, rfl⟩
          rw [hsome] at hpush
          cases hpush
  | contentCompleted index =>
      simp only [Acceptor.push] at hpush
      split at hpush
      case isTrue => cases hpush
      case isFalse hannounced =>
        have hclosed : index ∉ context.openIndexes := by
          rw [h.opened]
          exact hannounced
        exact ⟨_, if_neg hclosed⟩
  | responseCompleted stopReason =>
      simp only [Acceptor.push] at hpush
      split at hpush
      case isTrue => cases hpush
      case isFalse hvalid =>
        exact ⟨_, (encodePayload_responseCompleted _ stopReason).trans
          (if_neg (h.validArguments.not.2 hvalid))⟩
  -- these are never refused
  | responseStarted _ | textDelta _ _ | reasoningDelta _ _ | toolArgumentsDelta _ _ _
  | usageUpdated _ _ | fidelityArtifacts _ | signatureDelta _ _ | responseFailed _ _ =>
      cases hpush

/-- The encoder pushes exactly the runs of the acceptor. -/
theorem Encodes.pushAll {source : EventSource} {start : ℕ} {acceptor : Acceptor}
    {context : EncodeContext} (h : Encodes source start acceptor context)
    (payloads : List EventPayload) :
    match acceptor.run payloads with
    | some acceptor' => ∃ frames context', RlyGateway.pushAll context
        (eventsFrom source start payloads) = .ok (frames, context') ∧
          context'.openIndexes = acceptor'.announced
    | none => ∃ failure, RlyGateway.pushAll context (eventsFrom source start payloads) =
        .error failure := by
  -- each taken event keeps the two in step, and the first refused one ends both
  induction payloads generalizing start acceptor context with
  | nil => exact ⟨[], context, rfl, h.opened⟩
  | cons payload payloads ih =>
      rw [Acceptor.run]
      cases hpush : acceptor.push payload with
      | none =>
          obtain ⟨failure, hfailure⟩ := h.reject hpush
          refine ⟨failure, ?_⟩
          rw [eventsFrom, RlyGateway.pushAll, hfailure]
          rfl
      | some next =>
          obtain ⟨frames, context', hencode, hnext⟩ := h.push hpush
          have hrest := ih hnext
          rw [Option.bind_some]
          cases hrun : next.run payloads with
          | none =>
              rw [hrun] at hrest
              obtain ⟨failure, hfailure⟩ := hrest
              refine ⟨failure, ?_⟩
              rw [eventsFrom, RlyGateway.pushAll, hencode]
              show (RlyGateway.pushAll context' (eventsFrom source (start + 1) payloads) >>= _) = _
              rw [hfailure]
              rfl
          | some final =>
              rw [hrun] at hrest
              obtain ⟨rest, context'', hpushed, hopened⟩ := hrest
              refine ⟨frames ++ rest, context'', ?_, hopened⟩
              rw [eventsFrom, RlyGateway.pushAll, hencode]
              show (RlyGateway.pushAll context' (eventsFrom source (start + 1) payloads) >>= _) = _
              rw [hpushed]
              rfl

/-- Push and finish raise no error. -/
def EncoderAccepts (events : List CanonicalEvent) : Prop :=
  ∃ frames, encodeResponsesEvents events = .ok frames

/-- A response is encoded without an error exactly when the acceptor takes all of it and ends with
nothing open. -/
theorem encoderAccepts_iff (source : EventSource) (payloads : List EventPayload) :
    EncoderAccepts (eventsFrom source 0 payloads) ↔
      ∃ acceptor, Acceptor.initial.run payloads = some acceptor ∧ acceptor.announced = .empty := by
  have hpushed := (encodes_initial source).pushAll payloads
  unfold EncoderAccepts encodeResponsesEvents
  cases hrun : Acceptor.initial.run payloads with
  | none =>
      rw [hrun] at hpushed
      obtain ⟨failure, hfailure⟩ := hpushed
      rw [hfailure]
      constructor
      · rintro ⟨frames, h⟩
        cases h
      · rintro ⟨acceptor, h, -⟩
        cases h
  | some acceptor =>
      rw [hrun] at hpushed
      obtain ⟨frames, context, hcontext, hopened⟩ := hpushed
      rw [hcontext]
      show (∃ frames', (assertClosed context >>= fun _ => Except.ok frames) = .ok frames') ↔ _
      -- `finish` adds one check: nothing is open
      have hclosed : assertClosed context = .ok () ↔ acceptor.announced = .empty := by
        unfold assertClosed
        rw [hopened, OrderedSet.size]
        constructor
        · intro h
          split at h
          · cases h
          case isFalse hsize =>
            exact OrderedSet.ext (List.eq_nil_of_length_eq_zero (by omega))
        · intro h
          rw [h]
          rfl
      constructor
      · rintro ⟨frames', h⟩
        obtain ⟨⟨⟩, hfinish, -⟩ := Except.bind_eq_ok.1 h
        exact ⟨acceptor, rfl, hclosed.1 hfinish⟩
      · rintro ⟨acceptor', hsame, hempty⟩
        cases hsame
        exact ⟨frames, Except.bind_eq_ok.2 ⟨(), hclosed.2 hempty, rfl⟩⟩

end RlyGateway
