import RlyGateway.Library.Fallible
import RlyGateway.Protocols.OpenAiResponses.Encoder

/-!
# Streamed and batch responses

The response object of a completed frame is the aggregate of the events before it, the batch
response the aggregate of all of them. They are the same exactly when the events after the frame
leave everything it shows as it is. Finalizing an aggregate that was finalized before gives what
finalizing the untouched aggregate does, so the incremental aggregate is always the batch one.
-/

namespace RlyGateway

/-! ## Finalized items -/

/-- The item an aggregate makes of the item at an index. -/
def finalizeItem (context : AggregateContext) (index : ℚ) : OutputItem → OutputItem
  | .message id text => .message id ((context.text.get? index).or text)
  | .reasoning id summary encryptedContent =>
      .reasoning id ((context.reasoning.get? index).or summary)
        ((encryptedContent? context.artifacts id).or encryptedContent)
  | .functionCall id callId name arguments =>
      .functionCall id callId name ((context.toolJson.get? index).getD arguments)

theorem get?_finalizeItems (context : AggregateContext) (index : ℚ) :
    (finalizeItems context).get? index =
      (context.items.get? index).map (finalizeItem context index) := by
  unfold finalizeItems
  dsimp only
  rw [OrderedMap.get?_updateEach, OrderedMap.get?_mapValues, OrderedMap.get?_updateEach,
    OrderedMap.get?_updateEach, Option.map_map, Option.map_map, Option.map_map]
  refine Option.map_congr fun item _ => ?_
  dsimp only [Function.comp_apply]
  cases item with
  | message id text =>
      cases htext : context.text.get? index <;> cases context.reasoning.get? index <;>
        cases context.toolJson.get? index <;>
        simp [finalizeItem, htext, OutputItem.setText, OutputItem.setSummary, OutputItem.attach,
          OutputItem.setArguments]
  | reasoning id summary encryptedContent =>
      cases context.text.get? index <;> cases hreasoning : context.reasoning.get? index <;>
        cases context.toolJson.get? index <;>
        simp [finalizeItem, hreasoning, OutputItem.setText, OutputItem.setSummary,
          OutputItem.attach, OutputItem.setArguments]
  | functionCall id callId name arguments =>
      cases context.text.get? index <;> cases context.reasoning.get? index <;>
        cases hjson : context.toolJson.get? index <;>
        simp [finalizeItem, hjson, OutputItem.setText, OutputItem.setSummary, OutputItem.attach,
          OutputItem.setArguments]

theorem keys_finalizeItems (context : AggregateContext) :
    (finalizeItems context).keys = context.items.keys := by
  unfold finalizeItems
  dsimp only
  rw [OrderedMap.keys_updateEach, OrderedMap.keys_mapValues, OrderedMap.keys_updateEach,
    OrderedMap.keys_updateEach]

/-! ## Finalizing again -/

/-- An aggregate with every text and artifact of an earlier one. -/
structure Extends (earlier later : AggregateContext) : Prop where
  text : ∀ index, (earlier.text.get? index).isSome → (later.text.get? index).isSome
  reasoning : ∀ index, (earlier.reasoning.get? index).isSome → (later.reasoning.get? index).isSome
  toolJson : ∀ index, (earlier.toolJson.get? index).isSome → (later.toolJson.get? index).isSome
  artifacts : earlier.artifacts <+: later.artifacts

theorem Extends.refl (context : AggregateContext) : Extends context context :=
  ⟨fun _ => id, fun _ => id, fun _ => id, List.prefix_rfl⟩

theorem encryptedContent?_append (artifacts more : List OpaqueArtifact) (id : String) :
    encryptedContent? (artifacts ++ more) id =
      (encryptedContent? artifacts id).or (encryptedContent? more id) := by
  unfold encryptedContent? artifactValue
  dsimp only [Option.bind_some]
  rw [List.find?_append, Option.map_or]

theorem or_or_of_isSome {a b : Option String} (h : a.isSome → b.isSome) (c : Option String) :
    b.or (a.or c) = b.or c := by
  cases b with
  | some b => rfl
  | none =>
      cases a with
      | none => rfl
      | some a => cases h rfl

/-- What was written earlier is written over later. -/
theorem finalizeItem_finalizeItem {earlier later : AggregateContext} (h : Extends earlier later)
    (index : ℚ) (item : OutputItem) :
    finalizeItem later index (finalizeItem earlier index item) = finalizeItem later index item := by
  cases item with
  | message id text =>
      simp only [finalizeItem]
      rw [or_or_of_isSome (h.text index)]
  | reasoning id summary encryptedContent =>
      obtain ⟨more, hmore⟩ := h.artifacts
      have hencrypted : (encryptedContent? earlier.artifacts id).isSome →
          (encryptedContent? later.artifacts id).isSome := by
        intro hsome
        rw [← hmore, encryptedContent?_append, Option.isSome_or, hsome, Bool.true_or]
      simp only [finalizeItem]
      rw [or_or_of_isSome (h.reasoning index), or_or_of_isSome hencrypted]
  | functionCall id callId name arguments =>
      have hjson := h.toolJson index
      simp only [finalizeItem]
      cases hlater : later.toolJson.get? index with
      | some text => rfl
      | none =>
          cases hearlier : earlier.toolJson.get? index with
          | none => rfl
          | some text =>
              rw [hlater, hearlier] at hjson
              cases hjson rfl

/-- An aggregate whose items were finalized at earlier moments, beside the untouched one. -/
structure Refreshes (raw aggregate : AggregateContext) : Prop where
  same : aggregate = { raw with items := aggregate.items }
  keys : aggregate.items.keys = raw.items.keys
  items : ∀ index, aggregate.items.get? index = raw.items.get? index ∨
    ∃ earlier, Extends earlier raw ∧
      aggregate.items.get? index = (raw.items.get? index).map (finalizeItem earlier index)

theorem Refreshes.refl (raw : AggregateContext) : Refreshes raw raw :=
  ⟨rfl, rfl, fun _ => Or.inl rfl⟩

/-- The finalized items do not depend on earlier finalizations. -/
theorem Refreshes.get?_finalizeItems {raw aggregate : AggregateContext}
    (h : Refreshes raw aggregate) (index : ℚ) :
    (finalizeItems aggregate).get? index = (finalizeItems raw).get? index := by
  have hfinal : finalizeItem aggregate index = finalizeItem raw index := by
    funext item
    rw [h.same]
    cases item <;> rfl
  rw [RlyGateway.get?_finalizeItems, RlyGateway.get?_finalizeItems, hfinal]
  rcases h.items index with hitem | ⟨earlier, hextends, hitem⟩
  · rw [hitem]
  · rw [hitem, Option.map_map]
    exact Option.map_congr fun item _ => finalizeItem_finalizeItem hextends index item

theorem Refreshes.validArguments {raw aggregate : AggregateContext} (h : Refreshes raw aggregate)
    (entry : ℚ × String) :
    validArguments aggregate.items entry = validArguments raw.items entry := by
  unfold RlyGateway.validArguments
  rcases h.items entry.1 with hitem | ⟨earlier, -, hitem⟩
  · rw [hitem]
  · rw [hitem]
    cases raw.items.get? entry.1 with
    | none => rfl
    | some item => cases item <;> rfl

/-- The response does not depend on earlier finalizations. -/
theorem Refreshes.finalizeAggregate {raw aggregate : AggregateContext}
    (h : Refreshes raw aggregate) :
    (finalizeAggregate aggregate).map Prod.fst = (finalizeAggregate raw).map Prod.fst := by
  have hvalid : aggregate.toolJson.entries.all (RlyGateway.validArguments aggregate.items) =
      raw.toolJson.entries.all (RlyGateway.validArguments raw.items) := by
    rw [show aggregate.toolJson = raw.toolJson by rw [h.same],
      show RlyGateway.validArguments aggregate.items = RlyGateway.validArguments raw.items from
        funext h.validArguments]
  have houtput : (finalizeItems aggregate).sortedValues = (finalizeItems raw).sortedValues := by
    refine (OrderedMap.sortedValues_eq_iff fun index hindex => ?_).2 h.get?_finalizeItems
    rw [keys_finalizeItems] at hindex ⊢
    rwa [← h.keys]
  unfold RlyGateway.finalizeAggregate
  rw [hvalid]
  split
  · simp only [Except.map, houtput]
    rw [h.same]
  · rfl

/-! ## One event -/

theorem Extends.trans {first second third : AggregateContext} (h : Extends first second)
    (h' : Extends second third) : Extends first third where
  text index hsome := h'.text index (h.text index hsome)
  reasoning index hsome := h'.reasoning index (h.reasoning index hsome)
  toolJson index hsome := h'.toolJson index (h.toolJson index hsome)
  artifacts := h.artifacts.trans h'.artifacts

theorem get?_appendDelta (texts : OrderedMap ℚ String) (index index' : ℚ) (delta : String) :
    (appendDelta texts index delta).get? index' =
      if index = index' then some ((texts.get? index).getD "" ++ delta) else texts.get? index' :=
  OrderedMap.get?_set texts index index' _

theorem isSome_appendDelta {texts : OrderedMap ℚ String} {index index' : ℚ} {delta : String}
    (h : (texts.get? index').isSome) : ((appendDelta texts index delta).get? index').isSome := by
  rw [get?_appendDelta]
  split
  · rfl
  · exact h

theorem extends_applyAggregate {context context' : AggregateContext} {item : CanonicalEvent}
    (h : applyAggregate context item = .ok context') : Extends context context' := by
  have hrefl := Extends.refl context
  cases hpayload : item.payload with
  | contentStarted index contentType toolCallId toolName providerId =>
      simp only [applyAggregate, hpayload] at h
      obtain ⟨started, -, h⟩ := Except.bind_eq_ok.1 h
      cases h
      exact ⟨hrefl.text, hrefl.reasoning, hrefl.toolJson, hrefl.artifacts⟩
  | textDelta index text =>
      simp only [applyAggregate, hpayload] at h
      cases h
      exact ⟨fun _ => isSome_appendDelta, hrefl.reasoning, hrefl.toolJson, hrefl.artifacts⟩
  | reasoningDelta index text =>
      simp only [applyAggregate, hpayload] at h
      cases h
      exact ⟨hrefl.text, fun _ => isSome_appendDelta, hrefl.toolJson, hrefl.artifacts⟩
  | toolArgumentsDelta index toolCallId partialJson =>
      simp only [applyAggregate, hpayload] at h
      cases h
      exact ⟨hrefl.text, hrefl.reasoning, fun _ => isSome_appendDelta, hrefl.artifacts⟩
  | fidelityArtifacts artifacts =>
      simp only [applyAggregate, hpayload] at h
      cases h
      exact ⟨hrefl.text, hrefl.reasoning, hrefl.toolJson, List.prefix_append _ _⟩
  | responseStarted _ | usageUpdated _ _ | signatureDelta _ _ | contentCompleted _
  | responseCompleted _ | responseFailed _ _ =>
      simp only [applyAggregate, hpayload] at h
      cases h
      exact ⟨hrefl.text, hrefl.reasoning, hrefl.toolJson, hrefl.artifacts⟩

/-- An event that starts no content leaves the items to their finalizations. -/
theorem Refreshes.of_items_eq {raw raw' aggregate aggregate' : AggregateContext}
    (h : Refreshes raw aggregate) (hextends : Extends raw raw')
    (hsame : aggregate' = { raw' with items := aggregate'.items })
    (hitems : aggregate'.items = aggregate.items) (hraw : raw'.items = raw.items) :
    Refreshes raw' aggregate' where
  same := hsame
  keys := by rw [hitems, hraw, h.keys]
  items index := by
    rw [hitems, hraw]
    rcases h.items index with hitem | ⟨earlier, hearlier, hitem⟩
    · exact Or.inl hitem
    · exact Or.inr ⟨earlier, hearlier.trans hextends, hitem⟩

/-- A content that starts has the same item in both. -/
theorem Refreshes.set {raw aggregate : AggregateContext} (h : Refreshes raw aggregate)
    (index : ℚ) (started : OutputItem) :
    Refreshes { raw with items := raw.items.set index started }
      { aggregate with items := aggregate.items.set index started } where
  same := by rw [h.same]
  keys := by
    show (aggregate.items.set index started).keys = (raw.items.set index started).keys
    rw [OrderedMap.keys_set, OrderedMap.keys_set, h.keys]
  items index' := by
    show (aggregate.items.set index started).get? index' =
      (raw.items.set index started).get? index' ∨ ∃ earlier, Extends earlier _ ∧
        (aggregate.items.set index started).get? index' =
          ((raw.items.set index started).get? index').map (finalizeItem earlier index')
    rw [OrderedMap.get?_set, OrderedMap.get?_set]
    by_cases hindex : index = index'
    -- what a finalization wrote at the index is gone with the new item
    · rw [if_pos hindex, if_pos hindex]
      exact Or.inl rfl
    · rw [if_neg hindex, if_neg hindex]
      rcases h.items index' with hitem | ⟨earlier, hearlier, hitem⟩
      · exact Or.inl hitem
      · exact Or.inr ⟨earlier, ⟨hearlier.text, hearlier.reasoning, hearlier.toolJson,
          hearlier.artifacts⟩, hitem⟩

/-- Both aggregates take the same events. -/
theorem Refreshes.applyAggregate {raw aggregate aggregate' : AggregateContext}
    {item : CanonicalEvent} (h : Refreshes raw aggregate)
    (happly : applyAggregate aggregate item = .ok aggregate') :
    ∃ raw', RlyGateway.applyAggregate raw item = .ok raw' ∧ Refreshes raw' aggregate' := by
  cases hpayload : item.payload with
  | contentStarted index contentType toolCallId toolName providerId =>
      simp only [RlyGateway.applyAggregate, hpayload] at happly ⊢
      obtain ⟨started, hstarted, happly⟩ := Except.bind_eq_ok.1 happly
      cases happly
      exact ⟨_, Except.bind_eq_ok.2 ⟨started, hstarted, rfl⟩, h.set index started⟩
  -- the items stay as the finalizations left them
  | responseStarted _ | textDelta _ _ | reasoningDelta _ _ | toolArgumentsDelta _ _ _
  | usageUpdated _ _ | fidelityArtifacts _ | signatureDelta _ _ | contentCompleted _
  | responseCompleted _ | responseFailed _ _ =>
      obtain ⟨raw', hraw⟩ : ∃ raw', RlyGateway.applyAggregate raw item = .ok raw' := by
        simp only [RlyGateway.applyAggregate, hpayload]
        exact ⟨_, rfl⟩
      refine ⟨raw', hraw, h.of_items_eq (extends_applyAggregate hraw) ?_ ?_ ?_⟩
      all_goals
        simp only [RlyGateway.applyAggregate, hpayload] at happly hraw
        cases happly
        cases hraw
      · rw [h.same]
      · rfl
      · rfl

/-! ## What events leave behind -/

/-- The response and the model an event starts. -/
def startedResponse? (item : CanonicalEvent) : Option (String × String) :=
  match item.payload with
  | .responseStarted responseId => some (responseId, item.modelId)
  | _ => none

/-- The usage an event reports. -/
def usage? (item : CanonicalEvent) : Option Usage :=
  match item.payload with
  | .usageUpdated inputTokens outputTokens => some ⟨inputTokens.getD 0, outputTokens.getD 0⟩
  | _ => none

/-- The item an event starts at an index. -/
def startedItem? (index : ℚ) (item : CanonicalEvent) : Option OutputItem :=
  match item.payload with
  | .contentStarted index' contentType toolCallId toolName providerId =>
      if index' = index then
        (startItem index' contentType toolCallId toolName providerId).toOption
      else none
  | _ => none

/-- The text an event adds at an index. -/
def textDelta? (index : ℚ) (item : CanonicalEvent) : Option String :=
  match item.payload with
  | .textDelta index' text => if index' = index then some text else none
  | _ => none

/-- The reasoning an event adds at an index. -/
def reasoningDelta? (index : ℚ) (item : CanonicalEvent) : Option String :=
  match item.payload with
  | .reasoningDelta index' text => if index' = index then some text else none
  | _ => none

/-- The arguments an event adds at an index. -/
def argumentsDelta? (index : ℚ) (item : CanonicalEvent) : Option String :=
  match item.payload with
  | .toolArgumentsDelta index' _ partialJson => if index' = index then some partialJson else none
  | _ => none

/-- The artifacts an event brings. -/
def newArtifacts (item : CanonicalEvent) : List OpaqueArtifact :=
  match item.payload with
  | .fidelityArtifacts artifacts => artifacts
  | _ => []

/-- A text with deltas appended, where the first delta makes a text of none. -/
def appended (old : Option String) (deltas : List String) : Option String :=
  deltas.foldl (fun text delta => some (text.getD "" ++ delta)) old

theorem appended_append (old : Option String) (deltas deltas' : List String) :
    appended old (deltas ++ deltas') = appended (appended old deltas) deltas' :=
  List.foldl_append

/-- What a list of events makes of an aggregate. -/
structure AfterAll (context : AggregateContext) (events : List CanonicalEvent)
    (context' : AggregateContext) : Prop where
  response : (context'.responseId, context'.model) =
    (events.filterMap startedResponse?).getLast?.getD (context.responseId, context.model)
  usage : context'.usage = (events.filterMap usage?).getLast?.getD context.usage
  items : ∀ index, context'.items.get? index =
    (events.filterMap (startedItem? index)).getLast?.or (context.items.get? index)
  text : ∀ index, context'.text.get? index =
    appended (context.text.get? index) (events.filterMap (textDelta? index))
  reasoning : ∀ index, context'.reasoning.get? index =
    appended (context.reasoning.get? index) (events.filterMap (reasoningDelta? index))
  toolJson : ∀ index, context'.toolJson.get? index =
    appended (context.toolJson.get? index) (events.filterMap (argumentsDelta? index))
  artifacts : context'.artifacts = context.artifacts ++ events.flatMap newArtifacts

theorem AfterAll.nil (context : AggregateContext) : AfterAll context [] context := by
  constructor <;> simp [appended]

theorem AfterAll.append {first second third : AggregateContext}
    {events events' : List CanonicalEvent}
    (h : AfterAll first events second) (h' : AfterAll second events' third) :
    AfterAll first (events ++ events') third where
  response := by
    rw [h'.response, h.response, List.filterMap_append, List.getLast?_append, Option.getD_or]
  usage := by
    rw [h'.usage, h.usage, List.filterMap_append, List.getLast?_append, Option.getD_or]
  items index := by
    rw [h'.items, h.items, List.filterMap_append, List.getLast?_append, Option.or_assoc]
  text index := by rw [h'.text, h.text, List.filterMap_append, appended_append]
  reasoning index := by rw [h'.reasoning, h.reasoning, List.filterMap_append, appended_append]
  toolJson index := by rw [h'.toolJson, h.toolJson, List.filterMap_append, appended_append]
  artifacts := by rw [h'.artifacts, h.artifacts, List.flatMap_append, List.append_assoc]

/-- One delta, at its own index and at the others. -/
theorem get?_appendDelta_eq (texts : OrderedMap ℚ String) (index index' : ℚ) (delta : String) :
    (appendDelta texts index delta).get? index' =
      appended (texts.get? index') (if index = index' then some delta else none).toList := by
  rw [get?_appendDelta]
  by_cases hindex : index = index'
  · subst hindex
    rw [if_pos rfl, if_pos rfl]
    rfl
  · rw [if_neg hindex, if_neg hindex]
    rfl

theorem filterMap_singleton {α β : Type} (f : α → Option β) (a : α) :
    [a].filterMap f = (f a).toList := by
  cases h : f a <;> simp [h]

/-- What one event makes of an aggregate. -/
theorem afterAll_singleton {context context' : AggregateContext} {item : CanonicalEvent}
    (h : applyAggregate context item = .ok context') : AfterAll context [item] context' := by
  cases hpayload : item.payload with
  | contentStarted index contentType toolCallId toolName providerId =>
      simp only [applyAggregate, hpayload] at h
      obtain ⟨started, hstarted, h⟩ := Except.bind_eq_ok.1 h
      cases h
      constructor <;> (try intro index') <;>
        simp [filterMap_singleton, startedResponse?, usage?, startedItem?, textDelta?,
          reasoningDelta?, argumentsDelta?, newArtifacts, hpayload, appended]
      rw [OrderedMap.get?_set, hstarted]
      by_cases hindex : index = index'
      · rw [if_pos hindex, if_pos hindex]
        rfl
      · rw [if_neg hindex, if_neg hindex]
        rfl
  | responseStarted _ | textDelta _ _ | reasoningDelta _ _ | toolArgumentsDelta _ _ _
  | usageUpdated _ _ | fidelityArtifacts _ | signatureDelta _ _ | contentCompleted _
  | responseCompleted _ | responseFailed _ _ =>
      simp only [applyAggregate, hpayload] at h
      cases h
      constructor <;> (try intro index') <;>
        simp [filterMap_singleton, startedResponse?, usage?, startedItem?, textDelta?,
          reasoningDelta?, argumentsDelta?, newArtifacts, hpayload, get?_appendDelta_eq] <;>
        rfl

theorem aggregateAll_cons_eq_ok {context context' : AggregateContext} {item : CanonicalEvent}
    {items : List CanonicalEvent} :
    aggregateAll context (item :: items) = .ok context' ↔
      ∃ next, applyAggregate context item = .ok next ∧ aggregateAll next items = .ok context' :=
  Except.bind_eq_ok

theorem afterAll_of_aggregateAll {context context' : AggregateContext}
    {items : List CanonicalEvent} (h : aggregateAll context items = .ok context') :
    AfterAll context items context' := by
  induction items generalizing context with
  | nil =>
      cases h
      exact .nil _
  | cons item items ih =>
      obtain ⟨next, hnext, hrest⟩ := aggregateAll_cons_eq_ok.1 h
      exact (afterAll_singleton hnext).append (ih hrest)

/-! ## Fresh items -/

/-- An item that nothing was written into. -/
def OutputItem.Fresh : OutputItem → Prop
  | .message _ text => text = none
  | .reasoning _ summary encryptedContent => summary = none ∧ encryptedContent = none
  | .functionCall _ _ _ arguments => arguments = ""

/-- An aggregate that was never finalized. -/
def FreshItems (context : AggregateContext) : Prop :=
  ∀ index, ∀ item ∈ context.items.get? index, item.Fresh

theorem fresh_startItem {index : ℚ} {contentType : ContentType}
    {toolCallId toolName providerId : Option String} {item : OutputItem}
    (h : startItem index contentType toolCallId toolName providerId = .ok item) : item.Fresh := by
  unfold startItem at h
  split at h
  · cases h
    rfl
  · cases h
    exact ⟨rfl, rfl⟩
  · cases h
    exact ⟨rfl, rfl⟩
  · split at h
    · cases h
    · cases h
      rfl

theorem fresh_startedItem? {index : ℚ} {event : CanonicalEvent} {item : OutputItem}
    (h : startedItem? index event = some item) : item.Fresh := by
  unfold startedItem? at h
  split at h
  · split at h
    · rename_i index' contentType toolCallId toolName providerId _ _
      cases hstart : startItem index' contentType toolCallId toolName providerId with
      | error failure =>
          rw [hstart] at h
          cases h
      | ok started =>
          rw [hstart] at h
          cases h
          exact fresh_startItem hstart
    · cases h
  · cases h

theorem freshItems_createAggregateContext : FreshItems createAggregateContext := by
  intro index item hitem
  cases hitem

theorem AfterAll.freshItems {context context' : AggregateContext} {events : List CanonicalEvent}
    (h : AfterAll context events context') (hfresh : FreshItems context) : FreshItems context' := by
  intro index item hitem
  rw [h.items] at hitem
  rcases Option.or_eq_some_iff.1 hitem with hstarted | ⟨-, hold⟩
  · obtain ⟨event, -, hevent⟩ := List.mem_filterMap.1 (List.mem_of_getLast? hstarted)
    exact fresh_startedItem? hevent
  · exact hfresh index item hold

/-! ## Settled responses -/

/-- Deltas that leave a text as it is: none, or only empty ones where there is a text. -/
def Unaltered (old : Option String) (deltas : List String) : Prop :=
  deltas = [] ∨ (old.isSome ∧ ∀ delta ∈ deltas, delta = "")

/-- The events after a completed frame leave everything it shows as it is: the id and the model, the
usage, the items and what is written into them. -/
structure Settled (context : AggregateContext) (after : List CanonicalEvent) : Prop where
  response : ∀ started ∈ (after.filterMap startedResponse?).getLast?,
    started = (context.responseId, context.model)
  usage : ∀ usage ∈ (after.filterMap usage?).getLast?, usage = context.usage
  items : ∀ index, ∀ item ∈ (after.filterMap (startedItem? index)).getLast?,
    context.items.get? index = some item
  text : ∀ index id text, context.items.get? index = some (.message id text) →
    Unaltered (context.text.get? index) (after.filterMap (textDelta? index))
  reasoning : ∀ index id summary encryptedContent,
    context.items.get? index = some (.reasoning id summary encryptedContent) →
      Unaltered (context.reasoning.get? index) (after.filterMap (reasoningDelta? index))
  arguments : ∀ index id callId name arguments,
    context.items.get? index = some (.functionCall id callId name arguments) →
      Unaltered (context.toolJson.get? index) (after.filterMap (argumentsDelta? index))
  artifacts : ∀ index id summary encryptedContent,
    context.items.get? index = some (.reasoning id summary encryptedContent) →
      (encryptedContent? context.artifacts id).isSome ∨
        encryptedContent? (after.flatMap newArtifacts) id = none

theorem append_eq_self_iff {s t : String} : s ++ t = s ↔ t = "" := by
  constructor
  · intro h
    have hchars := congrArg String.toList h
    rw [String.toList_append] at hchars
    have hnil : t.toList = [] := List.append_right_eq_self.1 hchars
    exact String.toList_eq_nil_iff.1 hnil
  · rintro rfl
    exact String.append_empty

/-- Deltas appended to a text leave one, longer by what they say. -/
theorem appended_some (text : String) (deltas : List String) :
    ∃ rest, appended (some text) deltas = some (text ++ rest) ∧
      (rest = "" ↔ ∀ delta ∈ deltas, delta = "") := by
  induction deltas generalizing text with
  | nil => exact ⟨"", by simp [appended], by simp⟩
  | cons delta deltas ih =>
      obtain ⟨rest, hrest, hempty⟩ := ih (text ++ delta)
      refine ⟨delta ++ rest, ?_, ?_⟩
      · rw [appended, List.foldl_cons, ← appended, Option.getD_some, hrest, String.append_assoc]
      · rw [List.forall_mem_cons, ← hempty, String.append_eq_empty_iff]

/-- Deltas leave a text as it is exactly when they are unaltering. -/
theorem appended_eq_iff {old : Option String} {deltas : List String} :
    appended old deltas = old ↔ Unaltered old deltas := by
  unfold Unaltered
  cases deltas with
  | nil => simp [appended]
  | cons delta deltas =>
      cases old with
      | none =>
          obtain ⟨rest, hrest, -⟩ := appended_some delta deltas
          have hsome : appended none (delta :: deltas) = appended (some delta) deltas := by
            simp [appended]
          rw [hsome, hrest]
          simp
      | some text =>
          obtain ⟨rest, hrest, hempty⟩ := appended_some text (delta :: deltas)
          rw [hrest, Option.some_inj, append_eq_self_iff, hempty]
          simp

/-- The arguments of every function call are valid JSON. -/
def ValidCalls (context : AggregateContext) : Prop :=
  ∀ index id callId name arguments text,
    context.items.get? index = some (.functionCall id callId name arguments) →
      context.toolJson.get? index = some text → (Json.parse text).isSome = true

theorem validArguments_iff (context : AggregateContext) :
    context.toolJson.entries.all (validArguments context.items) = true ↔ ValidCalls context := by
  rw [List.all_eq_true]
  constructor
  · intro h index id callId name arguments text hitem htext
    have hvalid := h (index, text) (OrderedMap.get?_eq_some.1 htext)
    unfold validArguments at hvalid
    rwa [hitem] at hvalid
  · rintro h ⟨index, text⟩ hmem
    unfold validArguments
    split
    · rename_i id callId name arguments hitem
      exact h index id callId name arguments text hitem (OrderedMap.get?_eq_some.2 hmem)
    · rfl

/-- The response an aggregate shows. -/
def shownResponse (context : AggregateContext) : AggregatedResponse :=
  ⟨context.responseId, context.model, (finalizeItems context).sortedValues, context.usage⟩

theorem finalizeAggregate_eq_ok {context : AggregateContext} {response : AggregatedResponse} :
    (finalizeAggregate context).map Prod.fst = .ok response ↔
      ValidCalls context ∧ shownResponse context = response := by
  rw [← validArguments_iff]
  unfold finalizeAggregate
  split
  case isTrue hvalid =>
    rw [hvalid]
    simp [Except.map, shownResponse]
  case isFalse hvalid => simp [Except.map, hvalid]

/-- What two aggregates write into the same item. -/
def SameShown (first second : AggregateContext) (index : ℚ) : OutputItem → Prop
  | .message _ _ => second.text.get? index = first.text.get? index
  | .reasoning id _ _ => second.reasoning.get? index = first.reasoning.get? index ∧
      encryptedContent? second.artifacts id = encryptedContent? first.artifacts id
  | .functionCall _ _ _ _ =>
      (second.toolJson.get? index).getD "" = (first.toolJson.get? index).getD ""

theorem finalizeItem_eq_iff {first second : AggregateContext} {index : ℚ} {item item' : OutputItem}
    (hfresh : item.Fresh) (hfresh' : item'.Fresh) :
    finalizeItem first index item = finalizeItem second index item' ↔
      item' = item ∧ SameShown first second index item := by
  cases item with
  | message id text =>
      cases hfresh
      cases item' with
      | message id' text' =>
          cases hfresh'
          simp [finalizeItem, SameShown, eq_comm]
      -- a finalized item keeps its kind
      | _ => simp [finalizeItem]
  | reasoning id summary encryptedContent =>
      obtain ⟨rfl, rfl⟩ := hfresh
      cases item' with
      | reasoning id' summary' encryptedContent' =>
          obtain ⟨rfl, rfl⟩ := hfresh'
          simp only [finalizeItem, SameShown, Option.or_none, OutputItem.reasoning.injEq, and_true]
          constructor
          · rintro ⟨rfl, hreasoning, hencrypted⟩
            exact ⟨rfl, hreasoning.symm, hencrypted.symm⟩
          · rintro ⟨rfl, hreasoning, hencrypted⟩
            exact ⟨rfl, hreasoning.symm, hencrypted.symm⟩
      | _ => simp [finalizeItem]
  | functionCall id callId name arguments =>
      cases hfresh
      cases item' with
      | functionCall id' callId' name' arguments' =>
          cases hfresh'
          simp [finalizeItem, SameShown, eq_comm, and_assoc]
      | _ => simp [finalizeItem]

/-- Two aggregates finalize the item at an index alike exactly when they hold the same item there
and write the same into it. -/
theorem finalizeItem_map_eq_iff {first second : AggregateContext} {index : ℚ}
    (hfresh : FreshItems first) (hfresh' : FreshItems second) :
    (first.items.get? index).map (finalizeItem first index) =
        (second.items.get? index).map (finalizeItem second index) ↔
      second.items.get? index = first.items.get? index ∧
        ∀ item ∈ first.items.get? index, SameShown first second index item := by
  cases hfirst : first.items.get? index with
  | none => cases hsecond : second.items.get? index <;> simp
  | some item =>
      cases hsecond : second.items.get? index with
      | none => simp
      | some item' =>
          have hiff : finalizeItem first index item = finalizeItem second index item' ↔
              item' = item ∧ SameShown first second index item :=
            finalizeItem_eq_iff (hfresh index item hfirst) (hfresh' index item' hsecond)
          rw [Option.map_some, Option.map_some, Option.some_inj, hiff]
          simp

theorem getLast?_getD_eq_iff {α : Type} {values : List α} {a : α} :
    values.getLast?.getD a = a ↔ ∀ value ∈ values.getLast?, value = a := by
  cases values.getLast? <;> simp

/-- The events leave the item at every index as it is. -/
theorem AfterAll.items_eq_iff {context context' : AggregateContext} {events : List CanonicalEvent}
    (h : AfterAll context events context') (index : ℚ) :
    context'.items.get? index = context.items.get? index ↔
      ∀ item ∈ (events.filterMap (startedItem? index)).getLast?,
        context.items.get? index = some item := by
  rw [h.items]
  cases (events.filterMap (startedItem? index)).getLast? with
  | none => simp
  | some item => simp [eq_comm]

theorem AfterAll.artifacts_eq_iff {context context' : AggregateContext}
    {events : List CanonicalEvent} (h : AfterAll context events context') (id : String) :
    encryptedContent? context'.artifacts id = encryptedContent? context.artifacts id ↔
      (encryptedContent? context.artifacts id).isSome ∨
        encryptedContent? (events.flatMap newArtifacts) id = none := by
  rw [h.artifacts, encryptedContent?_append]
  cases encryptedContent? context.artifacts id <;> simp

theorem not_parse_empty : Json.parse "" = none := by decide

/-- With valid arguments on both sides, the arguments are the same only if the texts are. -/
theorem arguments_eq_iff {first second : AggregateContext} {index : ℚ}
    {id callId name arguments : String}
    (hitem : first.items.get? index = some (.functionCall id callId name arguments))
    (hitem' : second.items.get? index = some (.functionCall id callId name arguments))
    (hvalid : ValidCalls first) (hvalid' : ValidCalls second) :
    (second.toolJson.get? index).getD "" = (first.toolJson.get? index).getD "" ↔
      second.toolJson.get? index = first.toolJson.get? index := by
  -- the empty text is not valid JSON, so no call has it for its arguments
  have hne : ∀ context : AggregateContext, ValidCalls context →
      context.items.get? index = some (.functionCall id callId name arguments) →
        context.toolJson.get? index ≠ some "" := by
    intro context hvalid hitem hempty
    have hparse := hvalid index id callId name arguments "" hitem hempty
    rw [not_parse_empty] at hparse
    cases hparse
  have hfirst := hne first hvalid hitem
  have hsecond := hne second hvalid' hitem'
  constructor
  · intro h
    cases hold : first.toolJson.get? index <;> cases hnew : second.toolJson.get? index <;>
      simp_all
  · intro h
    rw [h]

theorem shownResponse_eq_iff {first second : AggregateContext}
    (hkeys : ∀ index ∈ first.items.keys, index ∈ second.items.keys)
    (hfresh : FreshItems first) (hfresh' : FreshItems second) :
    shownResponse second = shownResponse first ↔
      (second.responseId, second.model) = (first.responseId, first.model) ∧
        second.usage = first.usage ∧
          ∀ index, second.items.get? index = first.items.get? index ∧
            ∀ item ∈ first.items.get? index, SameShown first second index item := by
  have houtput : (finalizeItems second).sortedValues = (finalizeItems first).sortedValues ↔
      ∀ index, second.items.get? index = first.items.get? index ∧
        ∀ item ∈ first.items.get? index, SameShown first second index item := by
    rw [eq_comm, OrderedMap.sortedValues_eq_iff fun index hindex => by
      rw [keys_finalizeItems] at hindex ⊢
      exact hkeys index hindex]
    refine forall_congr' fun index => ?_
    rw [get?_finalizeItems, get?_finalizeItems, finalizeItem_map_eq_iff hfresh hfresh']
  rw [← houtput]
  simp [shownResponse, and_assoc, and_comm]

/-- After a completed frame, the aggregate of the whole stream is the frame's response exactly when
the events after the frame are settled. -/
theorem finalizeAggregate_eq_iff_settled {context context' : AggregateContext}
    {after : List CanonicalEvent} {response : AggregatedResponse} (hfresh : FreshItems context)
    (h : AfterAll context after context')
    (hresponse : (finalizeAggregate context).map Prod.fst = .ok response) :
    (finalizeAggregate context').map Prod.fst = .ok response ↔ Settled context after := by
  obtain ⟨hvalid, rfl⟩ := finalizeAggregate_eq_ok.1 hresponse
  -- an index never leaves the items
  have hkeys : ∀ index ∈ context.items.keys, index ∈ context'.items.keys := by
    intro index hindex
    obtain ⟨item, hitem⟩ := OrderedMap.mem_keys_iff.1 hindex
    rw [OrderedMap.mem_keys_iff, h.items, hitem]
    cases (after.filterMap (startedItem? index)).getLast? <;> simp
  rw [finalizeAggregate_eq_ok, shownResponse_eq_iff hkeys hfresh (h.freshItems hfresh)]
  constructor
  · rintro ⟨hvalid', hstarted, husage, hitems⟩
    have hsame : ∀ index item, context.items.get? index = some item →
        SameShown context context' index item := fun index => (hitems index).2
    refine ⟨?_, ?_, fun index => (h.items_eq_iff index).1 (hitems index).1, ?_, ?_, ?_, ?_⟩
    · rwa [h.response, getLast?_getD_eq_iff] at hstarted
    · rwa [h.usage, getLast?_getD_eq_iff] at husage
    · intro index id text hitem
      have htext : context'.text.get? index = context.text.get? index := hsame index _ hitem
      rwa [h.text, appended_eq_iff] at htext
    · intro index id summary encryptedContent hitem
      have hreasoning := (hsame index _ hitem).1
      rwa [h.reasoning, appended_eq_iff] at hreasoning
    · intro index id callId name arguments hitem
      have hitem' := (hitems index).1.trans hitem
      -- a missing text is shown as an empty one, which no valid argument text is
      have harguments := (arguments_eq_iff hitem hitem' hvalid hvalid').1 (hsame index _ hitem)
      rwa [h.toolJson, appended_eq_iff] at harguments
    · intro index id summary encryptedContent hitem
      exact (h.artifacts_eq_iff id).1 (hsame index _ hitem).2
  · intro hsettled
    have hitems : ∀ index, context'.items.get? index = context.items.get? index :=
      fun index => (h.items_eq_iff index).2 (hsettled.items index)
    have hcalls : ∀ index id callId name arguments,
        context.items.get? index = some (.functionCall id callId name arguments) →
          context'.toolJson.get? index = context.toolJson.get? index := by
      intro index id callId name arguments hitem
      rw [h.toolJson, appended_eq_iff]
      exact hsettled.arguments index id callId name arguments hitem
    refine ⟨?_, ?_, ?_, fun index => ⟨hitems index, ?_⟩⟩
    · intro index id callId name arguments text hitem htext
      rw [hitems] at hitem
      rw [hcalls index id callId name arguments hitem] at htext
      exact hvalid index id callId name arguments text hitem htext
    · rw [h.response, getLast?_getD_eq_iff]
      exact hsettled.response
    · rw [h.usage, getLast?_getD_eq_iff]
      exact hsettled.usage
    · intro item hitem
      cases item with
      | message id text =>
          show context'.text.get? index = context.text.get? index
          rw [h.text, appended_eq_iff]
          exact hsettled.text index id text hitem
      | reasoning id summary encryptedContent =>
          refine ⟨?_, (h.artifacts_eq_iff id).2
            (hsettled.artifacts index id summary encryptedContent hitem)⟩
          rw [h.reasoning, appended_eq_iff]
          exact hsettled.reasoning index id summary encryptedContent hitem
      | functionCall id callId name arguments =>
          show (context'.toolJson.get? index).getD "" = (context.toolJson.get? index).getD ""
          rw [hcalls index id callId name arguments hitem]

/-! ## Whole streams -/

/-- An aggregate stays a refreshed one when its items are finalized. -/
theorem Refreshes.finalized {raw aggregate : AggregateContext} (h : Refreshes raw aggregate) :
    Refreshes raw { aggregate with items := finalizeItems aggregate } where
  same := by rw [h.same]
  keys := by
    show (finalizeItems aggregate).keys = raw.items.keys
    rw [keys_finalizeItems, h.keys]
  items index := by
    refine Or.inr ⟨raw, Extends.refl raw, ?_⟩
    show (finalizeItems aggregate).get? index = _
    rw [h.get?_finalizeItems, RlyGateway.get?_finalizeItems]

/-- The state of the encoder once an event is checked and aggregated. -/
def aggregated (context : EncodeContext) (item : CanonicalEvent) (aggregate : AggregateContext) :
    EncodeContext :=
  { context with
    requestId := context.requestId.or (some item.requestId)
    lastSequence := item.sequence
    aggregate }

/-- Encoding an event checks it, aggregates it and makes its frames. -/
theorem encodeResponsesEvent_eq_ok {context context' : EncodeContext} {item : CanonicalEvent}
    {frames : List ResponsesFrame} :
    encodeResponsesEvent context item = .ok (frames, context') ↔
      checkProvenance context item = .ok () ∧
        ∃ aggregate, applyAggregate context.aggregate item = .ok aggregate ∧
          encodePayload (aggregated context item aggregate) item.payload = .ok (frames, context') := by
  unfold encodeResponsesEvent
  rw [Except.bind_eq_ok]
  constructor
  · rintro ⟨⟨⟩, hcheck, h⟩
    exact ⟨hcheck, Except.bind_eq_ok.1 h⟩
  · rintro ⟨hcheck, h⟩
    exact ⟨(), hcheck, Except.bind_eq_ok.2 h⟩

/-- A completed frame shows the finalized aggregate. -/
theorem encodePayload_terminal {context context' : EncodeContext} {payload : EventPayload}
    {frames : List ResponsesFrame} (hterminal : isTerminal payload = true)
    (h : encodePayload context payload = .ok (frames, context')) :
    ∃ response, (finalizeAggregate context.aggregate).map Prod.fst = .ok response ∧
      frames = [.completed response] ∧
        context'.aggregate =
          { context.aggregate with items := finalizeItems context.aggregate } := by
  cases payload with
  | responseCompleted stopReason =>
      obtain ⟨⟨response, aggregate⟩, hfinal, h⟩ := Except.bind_eq_ok.1 h
      cases h
      refine ⟨response, by rw [hfinal]; rfl, rfl, ?_⟩
      unfold finalizeAggregate at hfinal
      split at hfinal
      · cases hfinal
        rfl
      · cases hfinal
  | _ => cases hterminal

/-- Other events have other frames and leave the aggregate alone. -/
theorem encodePayload_running {context context' : EncodeContext} {payload : EventPayload}
    {frames : List ResponsesFrame} (hterminal : isTerminal payload = false)
    (h : encodePayload context payload = .ok (frames, context')) :
    (∀ response, .completed response ∉ frames) ∧ context'.aggregate = context.aggregate := by
  cases payload with
  | responseCompleted stopReason => cases hterminal
  | contentStarted index contentType toolCallId toolName providerId =>
      obtain ⟨started, -, h⟩ := Except.bind_eq_ok.1 h
      cases h
      refine ⟨fun response => ?_, rfl⟩
      by_cases htext : contentType = .text <;> simp [htext]
  | contentCompleted index =>
      simp only [encodePayload] at h
      split at h
      · cases h
        exact ⟨by simp, rfl⟩
      · cases h
  | responseStarted _ | textDelta _ _ | reasoningDelta _ _ | toolArgumentsDelta _ _ _
  | usageUpdated _ _ | fidelityArtifacts _ | signatureDelta _ _ | responseFailed _ _ =>
      cases h
      exact ⟨by simp, rfl⟩

/-- A completing event adds nothing to an aggregate. -/
theorem applyAggregate_terminal {context : AggregateContext} {item : CanonicalEvent}
    (h : isTerminal item.payload = true) : applyAggregate context item = .ok context := by
  unfold applyAggregate
  cases hpayload : item.payload <;> first | rfl | (rw [hpayload] at h; cases h)

/-- A response that is completed somewhere in a list of events: the aggregate of those before. -/
def CompletedIn (raw : AggregateContext) (events : List CanonicalEvent)
    (response : AggregatedResponse) : Prop :=
  ∃ before item after context, events = before ++ item :: after ∧
    isTerminal item.payload = true ∧ aggregateAll raw before = .ok context ∧
      (finalizeAggregate context).map Prod.fst = .ok response

theorem completedIn_nil (raw : AggregateContext) (response : AggregatedResponse) :
    ¬ CompletedIn raw [] response := by
  rintro ⟨before, item, after, context, heq, -⟩
  simp at heq

/-- A response is completed by the first event or by a later one. -/
theorem completedIn_cons {raw next : AggregateContext} {item : CanonicalEvent}
    {items : List CanonicalEvent} {response : AggregatedResponse}
    (hnext : applyAggregate raw item = .ok next) :
    CompletedIn raw (item :: items) response ↔
      (isTerminal item.payload = true ∧ (finalizeAggregate raw).map Prod.fst = .ok response) ∨
        CompletedIn next items response := by
  constructor
  · rintro ⟨before, terminal, after, context, heq, hterminal, hbefore, hresponse⟩
    cases before with
    | nil =>
        cases heq
        cases hbefore
        exact Or.inl ⟨hterminal, hresponse⟩
    | cons first before =>
        cases heq
        obtain ⟨next', hnext', hrest⟩ := aggregateAll_cons_eq_ok.1 hbefore
        rw [hnext] at hnext'
        cases hnext'
        exact Or.inr ⟨before, terminal, after, context, rfl, hterminal, hrest, hresponse⟩
  · rintro (⟨hterminal, hresponse⟩ |
      ⟨before, terminal, after, context, rfl, hterminal, hbefore, hresponse⟩)
    · exact ⟨[], item, items, raw, rfl, hterminal, rfl, hresponse⟩
    · exact ⟨item :: before, terminal, after, context, rfl, hterminal,
        aggregateAll_cons_eq_ok.2 ⟨next, hnext, hbefore⟩, hresponse⟩

/-- What a list of pushes leaves behind: the refreshed aggregate, and a completed frame for every
completing event and for nothing else. -/
structure Pushed (raw : AggregateContext) (events : List CanonicalEvent)
    (frames : List ResponsesFrame) (context' : EncodeContext) : Prop where
  aggregate : ∃ raw', aggregateAll raw events = .ok raw' ∧ Refreshes raw' context'.aggregate
  completed : ∀ response, .completed response ∈ frames ↔ CompletedIn raw events response
  finalized : ∀ before item after context, events = before ++ item :: after →
    isTerminal item.payload = true → aggregateAll raw before = .ok context →
      ∃ response, (finalizeAggregate context).map Prod.fst = .ok response

theorem pushed_of_pushAll {raw : AggregateContext} {context context' : EncodeContext}
    {events : List CanonicalEvent} {frames : List ResponsesFrame}
    (h : Refreshes raw context.aggregate) (hpush : pushAll context events = .ok (frames, context')) :
    Pushed raw events frames context' := by
  induction events generalizing raw context frames with
  | nil =>
      cases hpush
      refine ⟨⟨raw, rfl, h⟩, ?_, ?_⟩
      · intro response
        simp [completedIn_nil]
      · intro before item after context heq
        simp at heq
  | cons item items ih =>
      obtain ⟨⟨first, next⟩, hfirst, hpush⟩ := Except.bind_eq_ok.1 hpush
      obtain ⟨⟨rest, final⟩, hrest, hpush⟩ := Except.bind_eq_ok.1 hpush
      cases hpush
      obtain ⟨-, aggregate, happly, hpayload⟩ := encodeResponsesEvent_eq_ok.1 hfirst
      obtain ⟨raw', hraw, hrefreshed⟩ := h.applyAggregate happly
      -- the aggregate after this event, and what its frames complete
      have hnext : Refreshes raw' next.aggregate ∧ ∀ response, .completed response ∈ first ↔
          isTerminal item.payload = true ∧
            (finalizeAggregate raw).map Prod.fst = .ok response := by
        cases hterminal : isTerminal item.payload with
        | true =>
            obtain ⟨response, hresponse, rfl, hitems⟩ := encodePayload_terminal hterminal hpayload
            rw [applyAggregate_terminal hterminal] at hraw
            cases hraw
            have hsame : (finalizeAggregate raw).map Prod.fst = .ok response :=
              hrefreshed.finalizeAggregate.symm.trans hresponse
            refine ⟨by rw [hitems]; exact hrefreshed.finalized, fun response' => ?_⟩
            rw [hsame]
            simp [eq_comm]
        | false =>
            obtain ⟨hnone, hsame⟩ := encodePayload_running hterminal hpayload
            refine ⟨by rw [hsame]; exact hrefreshed, fun response => ?_⟩
            simp [hnone response]
      obtain ⟨hrefreshed', hframes⟩ := hnext
      have hpushed := ih hrefreshed' hrest
      obtain ⟨raw'', hraw'', hfinal⟩ := hpushed.aggregate
      refine ⟨⟨raw'', aggregateAll_cons_eq_ok.2 ⟨raw', hraw, hraw''⟩, hfinal⟩, ?_, ?_⟩
      · intro response
        rw [List.mem_append, hframes, hpushed.completed, completedIn_cons hraw]
      · intro before terminal after context'' heq hterminal hbefore
        cases before with
        | nil =>
            cases heq
            cases hbefore
            obtain ⟨response, -, rfl, -⟩ := encodePayload_terminal hterminal hpayload
            exact ⟨response, ((hframes response).1 (List.mem_singleton_self _)).2⟩
        | cons _ before =>
            cases heq
            obtain ⟨next', hnext', hbefore⟩ := aggregateAll_cons_eq_ok.1 hbefore
            rw [hraw] at hnext'
            cases hnext'
            exact hpushed.finalized before terminal after context'' rfl hterminal hbefore

/-- The aggregate of a list that continues another. -/
theorem aggregateAll_append_eq_ok {context context' : AggregateContext}
    {events events' : List CanonicalEvent} :
    aggregateAll context (events ++ events') = .ok context' ↔
      ∃ next, aggregateAll context events = .ok next ∧ aggregateAll next events' = .ok context' := by
  induction events generalizing context with
  | nil => simp [aggregateAll]
  | cons item events ih =>
      rw [List.cons_append, aggregateAll_cons_eq_ok]
      simp only [aggregateAll_cons_eq_ok, ih]
      constructor
      · rintro ⟨first, hfirst, next, hnext, hrest⟩
        exact ⟨next, ⟨first, hfirst, hnext⟩, hrest⟩
      · rintro ⟨next, ⟨first, hfirst, hnext⟩, hrest⟩
        exact ⟨first, hfirst, next, hnext, hrest⟩

/-- The completed frames of a stream, its batch response and its incremental aggregate are all the
same. -/
def ResponsesAgree (events : List CanonicalEvent) (frames : List ResponsesFrame) : Prop :=
  ∀ response, .completed response ∈ frames →
    aggregateResponsesEvents events = .ok response ∧ incrementalAggregate events = .ok response

/-- What follows each completing event of a stream leaves the response as it is. -/
def SettledAfterCompletion (events : List CanonicalEvent) : Prop :=
  ∀ before item after context, events = before ++ item :: after →
    isTerminal item.payload = true →
      aggregateAll createAggregateContext before = .ok context → Settled context after

/-- The batch response and the incremental aggregate of an accepted stream without failure are both
the finalized aggregate of its history. -/
theorem aggregates_eq {events : List CanonicalEvent} {frames : List ResponsesFrame}
    {context : EncodeContext} {raw : AggregateContext}
    (hpush : pushAll createContext events = .ok (frames, context))
    (hclosed : assertClosed context = .ok ()) (hfailure : firstFailure events = none)
    (hraw : aggregateAll createAggregateContext events = .ok raw)
    (hrefreshed : Refreshes raw context.aggregate) :
    aggregateResponsesEvents events = (finalizeAggregate raw).map Prod.fst ∧
      incrementalAggregate events = (finalizeAggregate raw).map Prod.fst := by
  have hencode : encodeResponsesEvents events = .ok frames := by
    unfold encodeResponsesEvents
    rw [hpush]
    show (assertClosed context >>= fun _ => Except.ok frames) = .ok frames
    rw [hclosed]
    rfl
  have hmap : ∀ result : Except ResponsesProtocolError (AggregatedResponse × AggregateContext),
      (result >>= fun pair => Except.ok pair.1) = result.map Prod.fst := by
    intro result
    cases result <;> rfl
  constructor
  · unfold aggregateResponsesEvents outputFromEvents
    rw [hencode, hfailure, hraw]
    exact hmap _
  · unfold incrementalAggregate
    rw [hpush, ← hrefreshed.finalizeAggregate]
    exact hmap _

/-- For an accepted stream without failure, the completed frames agree with the batch response and
the incremental aggregate exactly when what follows them leaves the response as it is. -/
theorem responsesAgree_iff (events : List CanonicalEvent) (frames : List ResponsesFrame)
    (haccepted : encodeResponsesEvents events = .ok frames)
    (hfailure : firstFailure events = none) :
    ResponsesAgree events frames ↔ SettledAfterCompletion events := by
  obtain ⟨⟨frames', context⟩, hpush, haccepted⟩ := Except.bind_eq_ok.1 haccepted
  obtain ⟨⟨⟩, hclosed, haccepted⟩ := Except.bind_eq_ok.1 haccepted
  cases haccepted
  have hpushed := pushed_of_pushAll (Refreshes.refl createAggregateContext) hpush
  obtain ⟨raw, hraw, hrefreshed⟩ := hpushed.aggregate
  obtain ⟨hbatch, hincremental⟩ := aggregates_eq hpush hclosed hfailure hraw hrefreshed
  -- the aggregate of the whole stream continues the one before each completing event
  have hafter : ∀ before item after context, events = before ++ item :: after →
      isTerminal item.payload = true → aggregateAll createAggregateContext before = .ok context →
        FreshItems context ∧ AfterAll context after raw := by
    rintro before item after context rfl hterminal hbefore
    obtain ⟨next, hnext, hrest⟩ := aggregateAll_append_eq_ok.1 hraw
    rw [hbefore] at hnext
    cases hnext
    obtain ⟨next, hnext, hrest⟩ := aggregateAll_cons_eq_ok.1 hrest
    rw [applyAggregate_terminal hterminal] at hnext
    cases hnext
    exact ⟨(afterAll_of_aggregateAll hbefore).freshItems freshItems_createAggregateContext,
      afterAll_of_aggregateAll hrest⟩
  unfold ResponsesAgree SettledAfterCompletion
  rw [hbatch, hincremental]
  constructor
  · intro h before item after context' heq hterminal hbefore
    obtain ⟨hfresh, hall⟩ := hafter before item after context' heq hterminal hbefore
    obtain ⟨response, hresponse⟩ :=
      hpushed.finalized before item after context' heq hterminal hbefore
    have hcompleted : .completed response ∈ frames :=
      (hpushed.completed response).2
        ⟨before, item, after, context', heq, hterminal, hbefore, hresponse⟩
    exact (finalizeAggregate_eq_iff_settled hfresh hall hresponse).1 (h response hcompleted).1
  · intro h response hcompleted
    obtain ⟨before, item, after, context', heq, hterminal, hbefore, hresponse⟩ :=
      (hpushed.completed response).1 hcompleted
    obtain ⟨hfresh, hall⟩ := hafter before item after context' heq hterminal hbefore
    have hsame := (finalizeAggregate_eq_iff_settled hfresh hall hresponse).2
      (h before item after context' heq hterminal hbefore)
    exact ⟨hsame, hsame⟩

/-! ### Usage before and after the completion -/

/-- An event of a short stream. -/
def streamEvent (sequence : ℤ) (payload : EventPayload) : CanonicalEvent :=
  ⟨"req", sequence, "1970-01-01T00:00:00.000Z", "openrouter", "model", payload⟩

/-- A response whose usage comes before its completion. -/
def usageThenCompletion : List CanonicalEvent :=
  [streamEvent 0 (.responseStarted "resp-1"), streamEvent 1 (.usageUpdated (some 3) (some 5)),
    streamEvent 2 (.responseCompleted "end_turn")]

/-- A response whose usage comes after its completion. -/
def completionThenUsage : List CanonicalEvent :=
  [streamEvent 0 (.responseStarted "resp-1"), streamEvent 1 (.responseCompleted "end_turn"),
    streamEvent 2 (.usageUpdated (some 3) (some 5))]

theorem Settled.nil (context : AggregateContext) : Settled context [] := by
  constructor <;> simp [Unaltered, encryptedContent?, artifactValue]

theorem responsesAgree_usageThenCompletion :
    ResponsesAgree usageThenCompletion [.created "resp-1" "model", .inProgress "resp-1" "model",
      .completed ⟨"resp-1", "model", [], ⟨3, 5⟩⟩] :=
  (responsesAgree_iff usageThenCompletion _ (by rfl) (by rfl)).2 (by
    intro before item after context heq hterminal _
    rcases before with _ | ⟨first, _ | ⟨second, _ | ⟨third, before⟩⟩⟩
    · cases heq
      cases hterminal
    · cases heq
      cases hterminal
    · cases heq
      exact Settled.nil context
    · exfalso
      have hlength := congrArg List.length heq
      simp only [usageThenCompletion, List.cons_append, List.length_cons, List.length_append,
        List.length_nil] at hlength
      omega)

theorem not_responsesAgree_completionThenUsage :
    ¬ ∀ events frames, encodeResponsesEvents events = .ok frames → firstFailure events = none →
      ResponsesAgree events frames := by
  intro h
  have hagree := h completionThenUsage [.created "resp-1" "model", .inProgress "resp-1" "model",
    .completed ⟨"resp-1", "model", [], ⟨0, 0⟩⟩] (by rfl) (by rfl)
  have hbatch : aggregateResponsesEvents completionThenUsage =
      .ok ⟨"resp-1", "model", [], ⟨3, 5⟩⟩ := by rfl
  obtain ⟨hsame, -⟩ := hagree ⟨"resp-1", "model", [], ⟨0, 0⟩⟩ (by simp)
  rw [hbatch] at hsame
  have husage : (3 : ℚ) = 0 := congrArg Usage.inputTokens
    (congrArg AggregatedResponse.usage (Except.ok.inj hsame))
  revert husage
  decide

end RlyGateway
