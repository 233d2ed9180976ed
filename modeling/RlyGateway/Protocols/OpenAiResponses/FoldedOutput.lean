import RlyGateway.Core.ContentBlocks
import RlyGateway.Protocols.OpenAiResponses.Agreement

/-!
# What a client makes of a Responses stream

A client folds the frames: it adds the announced items, appends each delta to an item that is open
and of the matching type, and closes an item that is done. The completed frame shows the items of
the aggregate, whose texts are kept by index and never cleared. The two show the same items exactly
where every delta fits an open item, and where an index that was started again had said nothing
that its last item shows.
-/

namespace RlyGateway

/-! ## The client -/

/-- The type of an output item. -/
inductive ItemType where
  | message
  | reasoning
  | functionCall
deriving DecidableEq, Repr

/-- The type of an item. -/
def OutputItem.type : OutputItem → ItemType
  | .message _ _ => .message
  | .reasoning _ _ _ => .reasoning
  | .functionCall _ _ _ _ => .functionCall

/-- An item a client is building, with the text, the summary or the arguments it has seen. -/
structure FoldedItem where
  item : OutputItem
  words : String
  isOpen : Bool
deriving DecidableEq, Repr

/-- Append a delta to the item of an index. It must be open and of the delta's type. -/
def foldDelta (items : OrderedMap ℚ FoldedItem) (index : ℚ) (type : ItemType) (delta : String) :
    Option (OrderedMap ℚ FoldedItem) := do
  let folded ← items.get? index
  if folded.isOpen ∧ folded.item.type = type then
    some (items.set index { folded with words := folded.words ++ delta })
  else none

/-- The items after a frame, if the frame is valid. -/
def foldFrame (items : OrderedMap ℚ FoldedItem) :
    ResponsesFrame → Option (OrderedMap ℚ FoldedItem)
  | .outputItemAdded index item => some (items.set index ⟨item, "", true⟩)
  | .outputTextDelta index delta => foldDelta items index .message delta
  | .reasoningSummaryTextDelta index delta => foldDelta items index .reasoning delta
  | .functionCallArgumentsDelta index delta => foldDelta items index .functionCall delta
  | .outputItemDone index =>
      some (items.updateOne (fun folded _ => { folded with isOpen := false }) (index, ()))
  | .created _ _ | .inProgress _ _ | .contentPartAdded _ | .completed _ | .failed _ _ _ =>
      some items

/-- What an item is, and what it says: its text, its summary or its arguments. -/
structure ShownItem where
  item : OutputItem
  words : String
deriving DecidableEq, Repr

/-- An item without what was written into it. -/
def OutputItem.blank : OutputItem → OutputItem
  | .message id _ => .message id none
  | .reasoning id _ _ => .reasoning id none none
  | .functionCall id callId name _ => .functionCall id callId name ""

/-- What was written into an item. -/
def OutputItem.words : OutputItem → String
  | .message _ text => text.getD ""
  | .reasoning _ summary _ => summary.getD ""
  | .functionCall _ _ _ arguments => arguments

/-- What an item of the output shows. -/
def OutputItem.shown (item : OutputItem) : ShownItem := ⟨item.blank, item.words⟩

/-- What an item shows that a client built. -/
def FoldedItem.shown (folded : FoldedItem) : ShownItem := ⟨folded.item.blank, folded.words⟩

/-- The frames are valid, and a client that folds them shows the items of the completed frame. -/
def FoldsToOutput (frames : List ResponsesFrame) : Prop :=
  ∃ items response, List.run foldFrame .empty frames = some items ∧
    .completed response ∈ frames ∧
    items.sortedValues.map FoldedItem.shown = response.output.map OutputItem.shown

/-! ## When they agree -/

/-- The type of item a content starts as. -/
def ContentType.itemType : ContentType → ItemType
  | .text => .message
  | .reasoning | .redactedReasoning => .reasoning
  | .toolCall => .functionCall

/-- The block a delta of the Responses stream is for. -/
def responsesTarget? : EventPayload → Option (ℚ × List ContentType)
  | .textDelta index _ => some (index, [.text])
  | .reasoningDelta index _ => some (index, [.reasoning, .redactedReasoning])
  | .toolArgumentsDelta index _ _ => some (index, [.toolCall])
  | _ => none

/-- What an event adds to what an item of a type says. -/
def wordsOf? (index : ℚ) : ItemType → EventPayload → Option String
  | .message => textOf? index
  | .reasoning => reasoningOf? index
  | .functionCall => argumentsOf? index

/-- The events under which the frames fold to the output: every delta fits the block that is open at
its index, and before its last start nothing was said at an index that its last item shows. -/
structure Unrepeated (payloads : List EventPayload) : Prop where
  targeted : Targeted responsesTarget? payloads
  fresh : ∀ index kind, lastKind index payloads = some kind →
    ∀ words ∈ (beforeStart index payloads).filterMap (wordsOf? index kind.itemType), words = ""

/-! ## The items of a client -/

/-- The item an event announces at an index. -/
def announcedItem? (index : ℚ) : EventPayload → Option OutputItem
  | .contentStarted index' contentType toolCallId toolName providerId =>
      if index' = index then
        (startItem index' contentType toolCallId toolName providerId).toOption
      else none
  | _ => none

/-- The item of an index that frames of events fold to. -/
def foldedAt (index : ℚ) (payloads : List EventPayload) : Option FoldedItem :=
  (payloads.latest? (announcedItem? index)).map fun item =>
    ⟨item, joined (wordsOf? index item.type) (sinceStart index payloads),
      (openKind index payloads).isSome⟩

/-- The items a client has after the frames of some events. -/
structure FoldedTo (payloads : List EventPayload) (items : OrderedMap ℚ FoldedItem) : Prop where
  get? : ∀ index, items.get? index = foldedAt index payloads
  type : ∀ index, (payloads.latest? (announcedItem? index)).map OutputItem.type =
    (lastKind index payloads).map ContentType.itemType

variable {index : ℚ} {payloads : List EventPayload} {payload : EventPayload}
  {items items' : OrderedMap ℚ FoldedItem}

theorem foldedTo_nil : FoldedTo [] .empty := ⟨fun _ => rfl, fun _ => rfl⟩

theorem foldDelta_eq_some {type : ItemType} {delta : String} :
    foldDelta items index type delta = some items' ↔
      ∃ folded, items.get? index = some folded ∧ (folded.isOpen = true ∧ folded.item.type = type) ∧
        items.set index { folded with words := folded.words ++ delta } = items' := by
  unfold foldDelta
  rw [Option.bind_eq_bind, Option.bind_eq_some_iff]
  refine exists_congr fun folded => and_congr_right fun _ => ?_
  split
  case isTrue hopen => simp [hopen]
  case isFalse hopen => simp [hopen]

theorem startItem_type {contentType : ContentType} {toolCallId toolName providerId : Option String}
    {item : OutputItem} (h : startItem index contentType toolCallId toolName providerId = .ok item) :
    item.type = contentType.itemType := by
  cases contentType with
  | toolCall =>
      rw [startItem] at h
      split at h
      · cases h
      · cases h
        rfl
  | text | reasoning | redactedReasoning =>
      cases h
      rfl

/-- An event that neither starts nor completes a block leaves the items, if it says nothing that
one of them shows. -/
theorem foldedAt_idle (hstart : startKind? index payload = none)
    (hchange : openChange? index payload = none) (hitem : announcedItem? index payload = none)
    (hwords : ∀ item ∈ payloads.latest? (announcedItem? index),
      wordsOf? index item.type payload = none) :
    foldedAt index (payloads ++ [payload]) = foldedAt index payloads := by
  unfold foldedAt
  rw [List.latest?_concat, hitem, Option.none_or, sinceStart_concat, hstart,
    openKind_of_openChange?_eq_none hchange]
  cases hlatest : payloads.latest? (announcedItem? index) with
  | none => rfl
  | some item =>
      have hnone := hwords item hlatest
      simp [joined_concat, hnone]

/-- An event that neither announces nor completes an item leaves what is kept of their types. -/
theorem FoldedTo.idle (h : FoldedTo payloads items)
    (hstart : ∀ index, startKind? index payload = none)
    (hchange : ∀ index, openChange? index payload = none)
    (hitem : ∀ index, announcedItem? index payload = none)
    (hwords : ∀ index type, wordsOf? index type payload = none) :
    FoldedTo (payloads ++ [payload]) items where
  get? index := by
    rw [h.get?, foldedAt_idle (hstart index) (hchange index) (hitem index) fun item _ =>
      hwords index item.type]
  type index := by
    rw [List.latest?_concat, hitem, Option.none_or, lastKind_concat, hstart, Option.none_or, h.type]

/-- The item of an index is open and of a type exactly if a block is open there that starts as one
of that type. -/
theorem FoldedTo.open_iff (h : FoldedTo payloads items) {type : ItemType} :
    (∃ folded, items.get? index = some folded ∧
        (folded.isOpen = true ∧ folded.item.type = type)) ↔
      ∃ kind, openKind index payloads = some kind ∧ kind.itemType = type := by
  have htype := h.type index
  rw [h.get?, foldedAt]
  constructor
  · rintro ⟨folded, hfolded, hopen, rfl⟩
    obtain ⟨item, hitem, rfl⟩ := Option.map_eq_some_iff.1 hfolded
    obtain ⟨kind, hkind⟩ := Option.isSome_iff_exists.1 hopen
    rw [hitem, lastKind_of_openKind hkind] at htype
    exact ⟨kind, hkind, (Option.some.inj htype).symm⟩
  · rintro ⟨kind, hkind, rfl⟩
    rw [lastKind_of_openKind hkind] at htype
    obtain ⟨item, hitem, hsame⟩ := Option.map_eq_some_iff.1 htype
    exact ⟨_, by rw [hitem]; rfl, by rw [hkind]; rfl, hsame⟩

/-- What a delta of one type says, and where. -/
structure ItemDelta (payload : EventPayload) (index : ℚ) (type : ItemType) (delta : String) :
    Prop where
  start : ∀ other, startKind? other payload = none
  change : ∀ other, openChange? other payload = none
  item : ∀ other, announcedItem? other payload = none
  words : ∀ other type',
    wordsOf? other type' payload = if other = index ∧ type' = type then some delta else none

theorem ItemDelta.foldedTo {type : ItemType} {delta : String}
    (hdelta : ItemDelta payload index type delta) (h : FoldedTo payloads items)
    (hfold : foldDelta items index type delta = some items') :
    FoldedTo (payloads ++ [payload]) items' := by
  obtain ⟨folded, hfolded, ⟨-, htype⟩, rfl⟩ := foldDelta_eq_some.1 hfold
  constructor
  case type =>
    intro other
    rw [List.latest?_concat, hdelta.item, Option.none_or, lastKind_concat, hdelta.start,
      Option.none_or, h.type]
  case get? =>
    intro other
    rw [OrderedMap.get?_set]
    by_cases hother : index = other
    · subst hother
      rw [h.get?, foldedAt] at hfolded
      obtain ⟨item, hitem, rfl⟩ := Option.map_eq_some_iff.1 hfolded
      rw [if_pos rfl, foldedAt, List.latest?_concat, hdelta.item, Option.none_or, hitem,
        sinceStart_concat, hdelta.start, openKind_of_openChange?_eq_none (hdelta.change index)]
      have hwords := hdelta.words index item.type
      rw [if_pos ⟨rfl, htype⟩] at hwords
      simp [joined_concat, hwords]
    · rw [if_neg hother, h.get?]
      refine (foldedAt_idle (hdelta.start other) (hdelta.change other) (hdelta.item other)
        fun item _ => ?_).symm
      rw [hdelta.words, if_neg fun hsame => hother hsame.1.symm]

theorem itemDelta_text (index : ℚ) (text : String) :
    ItemDelta (.textDelta index text) index .message text where
  start _ := rfl
  change _ := rfl
  item _ := rfl
  words other type := by
    cases type <;> simp [wordsOf?, textOf?, reasoningOf?, argumentsOf?, eq_comm]

theorem itemDelta_reasoning (index : ℚ) (text : String) :
    ItemDelta (.reasoningDelta index text) index .reasoning text where
  start _ := rfl
  change _ := rfl
  item _ := rfl
  words other type := by
    cases type <;> simp [wordsOf?, textOf?, reasoningOf?, argumentsOf?, eq_comm]

theorem itemDelta_arguments (index : ℚ) (toolCallId partialJson : String) :
    ItemDelta (.toolArgumentsDelta index toolCallId partialJson) index .functionCall partialJson where
  start _ := rfl
  change _ := rfl
  item _ := rfl
  words other type := by
    cases type <;> simp [wordsOf?, textOf?, reasoningOf?, argumentsOf?, eq_comm]

theorem FoldedTo.announced (h : FoldedTo payloads items) {contentType : ContentType}
    {toolCallId toolName providerId : Option String} {item : OutputItem}
    (hitem : startItem index contentType toolCallId toolName providerId = .ok item) :
    FoldedTo (payloads ++ [.contentStarted index contentType toolCallId toolName providerId])
      (items.set index ⟨item, "", true⟩) := by
  have hannounced : announcedItem? index
      (.contentStarted index contentType toolCallId toolName providerId) = some item := by
    rw [announcedItem?, if_pos rfl, hitem]
    rfl
  have hkind : startKind? index
      (.contentStarted index contentType toolCallId toolName providerId) = some contentType :=
    if_pos rfl
  constructor
  case get? =>
    intro other
    rw [OrderedMap.get?_set]
    by_cases hother : index = other
    · subst hother
      rw [if_pos rfl, foldedAt, List.latest?_concat, hannounced, sinceStart_concat, hkind,
        openKind_concat, openChange?, if_pos rfl]
      rfl
    · have hstart : startKind? other
          (.contentStarted index contentType toolCallId toolName providerId) = none := if_neg hother
      have hchange : openChange? other
          (.contentStarted index contentType toolCallId toolName providerId) = none := if_neg hother
      have hnone : announcedItem? other
          (.contentStarted index contentType toolCallId toolName providerId) = none := if_neg hother
      rw [if_neg hother, h.get?]
      refine (foldedAt_idle hstart hchange hnone fun item _ => ?_).symm
      cases item.type <;> rfl
  case type =>
    intro other
    rw [List.latest?_concat, lastKind_concat]
    by_cases hother : index = other
    · subst hother
      rw [hannounced, hkind, Option.some_or, Option.some_or, Option.map_some, Option.map_some,
        startItem_type hitem]
    · rw [announcedItem?, if_neg hother, startKind?, if_neg hother, Option.none_or, Option.none_or,
        h.type]

theorem FoldedTo.done (h : FoldedTo payloads items) :
    FoldedTo (payloads ++ [.contentCompleted index])
      (items.updateOne (fun folded _ => { folded with isOpen := false }) (index, ())) := by
  constructor
  case get? =>
    intro other
    rw [OrderedMap.get?_updateOne]
    by_cases hother : index = other
    · subst hother
      rw [if_pos rfl, h.get?, foldedAt, foldedAt, List.latest?_concat, sinceStart_concat,
        openKind_concat, openChange?, if_pos rfl]
      cases payloads.latest? (announcedItem? index) with
      | none => rfl
      | some item =>
          have hnone : wordsOf? index item.type (.contentCompleted index) = none := by
            cases item.type <;> rfl
          simp [announcedItem?, startKind?, joined_concat, hnone]
    · have hchange : openChange? other (.contentCompleted index) = none := if_neg hother
      rw [if_neg hother, h.get?]
      refine (foldedAt_idle rfl hchange rfl fun item _ => ?_).symm
      cases item.type <;> rfl
  case type =>
    intro other
    rw [List.latest?_concat, lastKind_concat]
    exact h.type other

/-! ## One event -/

/-- A delta fits the block that is open at its index. -/
def FitsOpen (payloads : List EventPayload) (payload : EventPayload) : Prop :=
  ∀ index kinds, responsesTarget? payload = some (index, kinds) →
    ∃ kind ∈ kinds, openKind index payloads = some kind

/-- What the frames of one event fold to: they are valid exactly if it fits the open block. -/
def FoldsNext (payloads : List EventPayload) (payload : EventPayload)
    (items? : Option (OrderedMap ℚ FoldedItem)) : Prop :=
  (items?.isSome ↔ FitsOpen payloads payload) ∧
    ∀ items' ∈ items?, FoldedTo (payloads ++ [payload]) items'

theorem foldsNext_delta {type : ItemType} {delta : String} {kinds : List ContentType}
    (hdelta : ItemDelta payload index type delta)
    (htarget : responsesTarget? payload = some (index, kinds))
    (hkinds : ∀ kind, kind ∈ kinds ↔ kind.itemType = type) (h : FoldedTo payloads items) :
    FoldsNext payloads payload (foldDelta items index type delta) := by
  refine ⟨?_, fun items' hitems => hdelta.foldedTo h hitems⟩
  rw [Option.isSome_iff_exists]
  simp only [foldDelta_eq_some]
  constructor
  · rintro ⟨_, folded, hfolded, hopen, -⟩
    obtain ⟨kind, hkind, htype⟩ := h.open_iff.1 ⟨folded, hfolded, hopen⟩
    intro index' kinds' htarget'
    rw [htarget] at htarget'
    cases htarget'
    exact ⟨kind, (hkinds kind).2 htype, hkind⟩
  · intro hfits
    obtain ⟨kind, hmem, hkind⟩ := hfits index kinds htarget
    obtain ⟨folded, hfolded, hopen⟩ := h.open_iff.2 ⟨kind, hkind, (hkinds kind).1 hmem⟩
    exact ⟨_, folded, hfolded, hopen, rfl⟩

theorem foldsNext_some (htarget : responsesTarget? payload = none)
    (h : FoldedTo (payloads ++ [payload]) items') : FoldsNext payloads payload (some items') := by
  constructor
  · simp only [Option.isSome_some, true_iff]
    intro index kinds hsome
    rw [htarget] at hsome
    cases hsome
  · intro items hitems
    cases hitems
    exact h

/-- An event that is neither a delta nor about the items. -/
theorem foldsNext_idle (h : FoldedTo payloads items) (htarget : responsesTarget? payload = none)
    (hstart : ∀ index, startKind? index payload = none)
    (hchange : ∀ index, openChange? index payload = none)
    (hitem : ∀ index, announcedItem? index payload = none)
    (hwords : ∀ index type, wordsOf? index type payload = none) :
    FoldsNext payloads payload (some items) :=
  foldsNext_some htarget (h.idle hstart hchange hitem hwords)

theorem run_singleton {σ ι : Type*} (step : σ → ι → Option σ) (s : σ) (input : ι) :
    List.run step s [input] = step s input := by
  rw [List.run]
  exact Option.bind_fun_some _

theorem wordsOf?_eq_none (htext : ∀ index, textOf? index payload = none)
    (hreasoning : ∀ index, reasoningOf? index payload = none)
    (harguments : ∀ index, argumentsOf? index payload = none) (index : ℚ) (type : ItemType) :
    wordsOf? index type payload = none := by
  cases type with
  | message => exact htext index
  | reasoning => exact hreasoning index
  | functionCall => exact harguments index

theorem foldsNext_event {context context' : EncodeContext} {frames : List ResponsesFrame}
    (h : FoldedTo payloads items) (hencode : encodePayload context payload = .ok (frames, context')) :
    FoldsNext payloads payload (List.run foldFrame items frames) := by
  cases payload with
  | contentStarted index contentType toolCallId toolName providerId =>
      obtain ⟨item, hitem, hencode⟩ := Except.bind_eq_ok.1 hencode
      cases hencode
      have hrun : List.run foldFrame items (.outputItemAdded index item ::
          if contentType = .text then [.contentPartAdded index] else []) =
            some (items.set index ⟨item, "", true⟩) := by
        split <;> rfl
      rw [hrun]
      exact foldsNext_some rfl (h.announced hitem)
  | textDelta index text =>
      cases hencode
      rw [run_singleton]
      refine foldsNext_delta (itemDelta_text index text) rfl (fun kind => ?_) h
      cases kind <;> simp [ContentType.itemType]
  | reasoningDelta index text =>
      cases hencode
      rw [run_singleton]
      refine foldsNext_delta (itemDelta_reasoning index text) rfl (fun kind => ?_) h
      cases kind <;> simp [ContentType.itemType]
  | toolArgumentsDelta index toolCallId partialJson =>
      cases hencode
      rw [run_singleton]
      refine foldsNext_delta (itemDelta_arguments index toolCallId partialJson) rfl
        (fun kind => ?_) h
      cases kind <;> simp [ContentType.itemType]
  | contentCompleted index =>
      simp only [encodePayload] at hencode
      split at hencode
      · cases hencode
        exact foldsNext_some rfl h.done
      · cases hencode
  | responseCompleted stopReason =>
      obtain ⟨⟨response, aggregate⟩, -, hencode⟩ := Except.bind_eq_ok.1 hencode
      cases hencode
      exact foldsNext_idle h rfl (fun _ => rfl) (fun _ => rfl) (fun _ => rfl)
        (wordsOf?_eq_none (fun _ => rfl) (fun _ => rfl) fun _ => rfl)
  | responseStarted _ | usageUpdated _ _ | fidelityArtifacts _ | signatureDelta _ _
  | responseFailed _ _ =>
      cases hencode
      exact foldsNext_idle h rfl (fun _ => rfl) (fun _ => rfl) (fun _ => rfl)
        (wordsOf?_eq_none (fun _ => rfl) (fun _ => rfl) fun _ => rfl)

/-! ## Whole streams -/

theorem targeted_concat_iff :
    Targeted responsesTarget? (payloads ++ [payload]) ↔
      Targeted responsesTarget? payloads ∧ FitsOpen payloads payload :=
  List.lawful_concat

/-- The frames of accepted events are valid exactly if every delta is targeted, and then they fold
to the items of the events. -/
theorem FoldedTo.stream {context context' : EncodeContext} {events : List CanonicalEvent}
    {frames : List ResponsesFrame} (h : FoldedTo payloads items)
    (htargeted : Targeted responsesTarget? payloads)
    (hpush : pushAll context events = .ok (frames, context')) :
    ((List.run foldFrame items frames).isSome ↔
        Targeted responsesTarget? (payloads ++ events.map (·.payload))) ∧
      ∀ items' ∈ List.run foldFrame items frames,
        FoldedTo (payloads ++ events.map (·.payload)) items' := by
  induction events generalizing payloads context items frames with
  | nil =>
      cases hpush
      rw [List.map_nil, List.append_nil]
      refine ⟨by simp [List.run, htargeted], fun items' hitems => ?_⟩
      cases hitems
      exact h
  | cons event events ih =>
      obtain ⟨⟨first, next⟩, hfirst, hpush⟩ := Except.bind_eq_ok.1 hpush
      obtain ⟨⟨rest, last⟩, hrest, hpush⟩ := Except.bind_eq_ok.1 hpush
      cases hpush
      obtain ⟨-, aggregate, -, hencode⟩ := encodeResponsesEvent_eq_ok.1 hfirst
      obtain ⟨hiff, hnext⟩ := foldsNext_event h hencode
      have hsplit : payloads ++ (event :: events).map (·.payload) =
          (payloads ++ [event.payload]) ++ events.map (·.payload) := by simp
      rw [hsplit, List.run_append]
      cases hfold : List.run foldFrame items first with
      | some items' =>
          rw [hfold] at hiff hnext
          exact ih (hnext items' rfl) (targeted_concat_iff.2 ⟨htargeted, hiff.1 rfl⟩) hrest
      | none =>
          rw [hfold] at hiff
          refine ⟨⟨fun h => (by cases h), fun htargeted' => ?_⟩, fun _ h => (by cases h)⟩
          cases hiff.2 (targeted_concat_iff.1 htargeted'.of_append).2

/-! ## The output -/

theorem startedItem?_eq (index : ℚ) (event : CanonicalEvent) :
    startedItem? index event = announcedItem? index event.payload := by
  unfold startedItem? announcedItem?
  cases event.payload <;> rfl

theorem textDelta?_eq (index : ℚ) (event : CanonicalEvent) :
    textDelta? index event = textOf? index event.payload := by
  unfold textDelta? textOf?
  cases event.payload <;> rfl

theorem reasoningDelta?_eq (index : ℚ) (event : CanonicalEvent) :
    reasoningDelta? index event = reasoningOf? index event.payload := by
  unfold reasoningDelta? reasoningOf?
  cases event.payload <;> rfl

theorem argumentsDelta?_eq (index : ℚ) (event : CanonicalEvent) :
    argumentsDelta? index event = argumentsOf? index event.payload := by
  unfold argumentsDelta? argumentsOf?
  cases event.payload <;> rfl

theorem getD_appended (old : Option String) (deltas : List String) :
    (appended old deltas).getD "" = old.getD "" ++ String.join deltas := by
  induction deltas generalizing old with
  | nil => simp [appended]
  | cons delta deltas ih =>
      rw [appended, List.foldl_cons, ← appended, ih, Option.getD_some, String.join_cons,
        String.append_assoc]

/-- What the aggregate of events holds for an index, as it was said. -/
structure Gathers (payloads : List EventPayload) (context : AggregateContext) : Prop where
  items : ∀ index, context.items.get? index = payloads.latest? (announcedItem? index)
  text : ∀ index, (context.text.get? index).getD "" = joined (textOf? index) payloads
  reasoning : ∀ index, (context.reasoning.get? index).getD "" = joined (reasoningOf? index) payloads
  toolJson : ∀ index, (context.toolJson.get? index).getD "" = joined (argumentsOf? index) payloads

theorem AfterAll.gathers {events : List CanonicalEvent} {context : AggregateContext}
    (h : AfterAll createAggregateContext events context) :
    Gathers (events.map (·.payload)) context where
  items index := by
    rw [h.items, List.latest?, List.filterMap_map, funext (startedItem?_eq index)]
    exact Option.or_none
  text index := by
    rw [h.text, getD_appended, joined, List.filterMap_map, funext (textDelta?_eq index)]
    exact String.empty_append
  reasoning index := by
    rw [h.reasoning, getD_appended, joined, List.filterMap_map, funext (reasoningDelta?_eq index)]
    exact String.empty_append
  toolJson index := by
    rw [h.toolJson, getD_appended, joined, List.filterMap_map, funext (argumentsDelta?_eq index)]
    exact String.empty_append

/-- What a fresh item shows once everything said at its index is written into it. -/
theorem Gathers.shown_finalizeItem {context : AggregateContext} (h : Gathers payloads context)
    {item : OutputItem} (hfresh : item.Fresh) :
    (finalizeItem context index item).shown =
      ⟨item.blank, joined (wordsOf? index item.type) payloads⟩ := by
  cases item with
  | message id text =>
      cases hfresh
      simp only [finalizeItem, Option.or_none, OutputItem.shown, OutputItem.blank, OutputItem.words,
        h.text]
      rfl
  | reasoning id summary encryptedContent =>
      obtain ⟨rfl, rfl⟩ := hfresh
      simp only [finalizeItem, Option.or_none, OutputItem.shown, OutputItem.blank, OutputItem.words,
        h.reasoning]
      rfl
  | functionCall id callId name arguments =>
      cases hfresh
      simp only [finalizeItem, OutputItem.shown, OutputItem.blank, OutputItem.words, h.toolJson]
      rfl

/-- A client shows the item of an index as the output does exactly if what its item shows was said
since its last start. -/
theorem shown_eq_iff {context : AggregateContext} (h : FoldedTo payloads items)
    (hgathers : Gathers payloads context) (hfresh : FreshItems context) (index : ℚ) :
    (items.get? index).map FoldedItem.shown =
        ((finalizeItems context).get? index).map OutputItem.shown ↔
      ∀ kind, lastKind index payloads = some kind →
        ∀ words ∈ (beforeStart index payloads).filterMap (wordsOf? index kind.itemType),
          words = "" := by
  have htype := h.type index
  have hitems := hgathers.items index
  rw [h.get?, foldedAt, get?_finalizeItems, hitems]
  cases hitem : payloads.latest? (announcedItem? index) with
  | none =>
      rw [hitem, Option.map_none, eq_comm, Option.map_eq_none_iff] at htype
      simp [htype]
  | some item =>
      rw [hitem] at htype hitems
      obtain ⟨kind, hkind, hsame⟩ := Option.map_eq_some_iff.1 htype.symm
      have hshown := @Gathers.shown_finalizeItem index _ _ hgathers _ (hfresh index item hitems)
      rw [Option.map_some, Option.map_some, Option.map_some, Option.map_some, Option.some_inj,
        hshown, FoldedItem.shown, ShownItem.mk.injEq, joined_sinceStart_eq_iff, hkind, ← hsame]
      simp

/-- Events that end with the completion of the response, the only one. -/
def EndsCompleted (events : List CanonicalEvent) : Prop :=
  ∃ before last, events = before ++ [last] ∧ isTerminal last.payload = true ∧
    ∀ event ∈ before, isTerminal event.payload = false

/-- The completed frame of such events shows the aggregate of all of them. -/
theorem EndsCompleted.completed {events : List CanonicalEvent} {frames : List ResponsesFrame}
    {context' : EncodeContext} {context : AggregateContext} (h : EndsCompleted events)
    (hpushed : Pushed createAggregateContext events frames context')
    (hall : aggregateAll createAggregateContext events = .ok context) :
    ∃ response, .completed response ∈ frames ∧ shownResponse context = response ∧
      ∀ response', .completed response' ∈ frames → response' = response := by
  obtain ⟨before, last, rfl, hterminal, hrunning⟩ := h
  obtain ⟨next, hbefore, hrest⟩ := aggregateAll_append_eq_ok.1 hall
  obtain ⟨next', hnext', hrest⟩ := aggregateAll_cons_eq_ok.1 hrest
  rw [applyAggregate_terminal hterminal] at hnext'
  cases hnext'
  cases hrest
  obtain ⟨response, hresponse⟩ := hpushed.finalized before last [] _ rfl hterminal hbefore
  refine ⟨response, (hpushed.completed response).2
    ⟨before, last, [], _, rfl, hterminal, hbefore, hresponse⟩,
    (finalizeAggregate_eq_ok.1 hresponse).2, fun response' hmem => ?_⟩
  obtain ⟨before', item, after, context', heq, hitem, hbefore', hresponse'⟩ :=
    (hpushed.completed response').1 hmem
  -- no event before the last one completes a response
  rcases List.concat_eq_append_cons heq with ⟨rfl, -⟩ | ⟨after', rfl, -⟩
  · rw [hbefore] at hbefore'
    cases hbefore'
    rw [hresponse] at hresponse'
    cases hresponse'
    rfl
  · have hnot := hrunning item (by simp)
    rw [hitem] at hnot
    cases hnot

/-- The frames of accepted events that end with the completion fold to the items of its frame
exactly if every delta fits an open block and nothing said before the last start of an index is
shown. -/
theorem foldsToOutput_iff (events : List CanonicalEvent) (frames : List ResponsesFrame)
    (haccepted : encodeResponsesEvents events = .ok frames) (hcompleted : EndsCompleted events) :
    FoldsToOutput frames ↔ Unrepeated (events.map (·.payload)) := by
  obtain ⟨⟨frames', context'⟩, hpush, haccepted⟩ := Except.bind_eq_ok.1 haccepted
  obtain ⟨-, -, haccepted⟩ := Except.bind_eq_ok.1 haccepted
  cases haccepted
  have hpushed := pushed_of_pushAll (Refreshes.refl createAggregateContext) hpush
  obtain ⟨context, hall, -⟩ := hpushed.aggregate
  have hafter := afterAll_of_aggregateAll hall
  have hgathers := hafter.gathers
  have hfresh := hafter.freshItems freshItems_createAggregateContext
  obtain ⟨response, hmem, rfl, honly⟩ := hcompleted.completed hpushed hall
  obtain ⟨hiff, hfolded⟩ := foldedTo_nil.stream List.lawful_nil hpush
  rw [List.nil_append] at hiff hfolded
  have hshown : ∀ items, FoldedTo (events.map (·.payload)) items →
      (items.sortedValues.map FoldedItem.shown =
          (shownResponse context).output.map OutputItem.shown ↔
        ∀ index, (items.get? index).map FoldedItem.shown =
          ((finalizeItems context).get? index).map OutputItem.shown) := by
    intro items h
    refine OrderedMap.map_sortedValues_eq_iff fun index hindex => ?_
    obtain ⟨folded, hitem⟩ := OrderedMap.mem_keys_iff.1 hindex
    rw [h.get?, foldedAt] at hitem
    obtain ⟨item, hannounced, -⟩ := Option.map_eq_some_iff.1 hitem
    rw [keys_finalizeItems, OrderedMap.mem_keys_iff]
    exact ⟨item, (hgathers.items index).trans hannounced⟩
  constructor
  · rintro ⟨items, response', hrun, hresponse', hsame⟩
    rw [honly response' hresponse'] at hsame
    have h := hfolded items hrun
    exact
      { targeted := hiff.1 (Option.isSome_iff_exists.2 ⟨items, hrun⟩)
        fresh := fun index =>
          (shown_eq_iff h hgathers hfresh index).1 ((hshown items h).1 hsame index) }
  · intro hunrepeated
    obtain ⟨items, hrun⟩ := Option.isSome_iff_exists.1 (hiff.2 hunrepeated.targeted)
    have h := hfolded items hrun
    refine ⟨items, _, hrun, hmem, (hshown items h).2 fun index => ?_⟩
    exact (shown_eq_iff h hgathers hfresh index).2 (hunrepeated.fresh index)

/-! ### A greeting, and a text without an item -/

/-- A response of one message. -/
def greetingResponse : List CanonicalEvent :=
  [streamEvent 0 (.responseStarted "resp-1"),
    streamEvent 1 (.contentStarted 0 .text none none none), streamEvent 2 (.textDelta 0 "hello"),
    streamEvent 3 (.contentCompleted 0), streamEvent 4 (.responseCompleted "end_turn")]

/-- A response whose text comes after its message is done. -/
def lateText : List CanonicalEvent :=
  [streamEvent 0 (.responseStarted "resp-1"),
    streamEvent 1 (.contentStarted 0 .text none none none), streamEvent 2 (.contentCompleted 0),
    streamEvent 3 (.textDelta 0 "hello"), streamEvent 4 (.responseCompleted "end_turn")]

theorem endsCompleted_greetingResponse : EndsCompleted greetingResponse :=
  ⟨_, _, List.dropLast_append_getLast (by simp [greetingResponse]) |>.symm, by rfl, by decide⟩

theorem unrepeated_greetingResponse : Unrepeated (greetingResponse.map (·.payload)) :=
  (foldsToOutput_iff greetingResponse _ (by rfl) endsCompleted_greetingResponse).1
    ⟨_, _, by rfl, List.mem_of_getLast? (by rfl), by rfl⟩

theorem not_foldsToOutput_lateText :
    ¬ ∀ events frames, encodeResponsesEvents events = .ok frames → EndsCompleted events →
      firstFailure events = none → FoldsToOutput frames := by
  intro h
  have hends : EndsCompleted lateText :=
    ⟨_, _, List.dropLast_append_getLast (by simp [lateText]) |>.symm, by rfl, by decide⟩
  obtain ⟨items, response, hrun, -⟩ := h lateText _ (by rfl) hends (by rfl)
  cases hrun

end RlyGateway
