import RlyGateway.Protocols.OpenAiResponses.Agreement
import RlyGateway.Protocols.OpenAiResponses.Turns

/-!
# The Responses route

What a client gets for a request once its upstream has ended, and what the gateway stores for it. A
stream is encoded event by event and stored after its last frame; other responses are stored before
they are sent.
-/

namespace RlyGateway

/-! ## Replies -/

/-- What a client gets: a response object or an error, or the frames of a stream, which an error
frame may end. -/
inductive ClientReply where
  | object (response : AggregatedResponse)
  | error (failure : ResponsesProtocolError)
  | stream (frames : List ResponsesFrame)
  | brokenStream (frames : List ResponsesFrame) (failure : ResponsesProtocolError)
deriving DecidableEq, Repr

/-- The frames of a stream up to its end or its first failure. -/
def pumpStream (context : EncodeContext) :
    List CanonicalEvent → List ResponsesFrame × Except ResponsesProtocolError EncodeContext
  | [] => ([], .ok context)
  | item :: items =>
      match encodeResponsesEvent context item with
      | .error failure => ([], .error failure)
      | .ok (frames, context) =>
          let (rest, result) := pumpStream context items
          (frames ++ rest, result)

/-- Store a response, unless the request asks not to. -/
def onComplete (store : ResponseContinuationStore) (request : CanonicalRequest)
    (context : EncodeContext) (createdAt : String) :
    Except ResponsesProtocolError ResponseContinuationStore :=
  if context.status = .completed ∧ request.store ≠ some false then do
    let (response, _) ← finalizeAggregate context.aggregate
    let (_, store) ← store.rememberAggregated request response.id response.model
      (response.output.map OutputItem.toJson) createdAt
    .ok store
  else .ok store

/-- The reply to a request that streams. -/
def streamReply (store : ResponseContinuationStore) (request : CanonicalRequest)
    (events : List CanonicalEvent) (createdAt : String) : ClientReply × ResponseContinuationStore :=
  let (frames, result) := pumpStream createContext events
  match (do
    let context ← result
    assertClosed context
    onComplete store request context createdAt) with
  | .ok store => (.stream frames, store)
  | .error failure => (.brokenStream frames failure, store)

/-- The reply to any other request. -/
def batchReply (store : ResponseContinuationStore) (request : CanonicalRequest)
    (events : List CanonicalEvent) (createdAt : String) : ClientReply × ResponseContinuationStore :=
  let remembered := if request.store = some false then .ok store
    else (store.remember request events createdAt).map (·.2)
  match remembered with
  | .error failure => (.error failure, store)
  | .ok store =>
      match aggregateResponsesEvents events with
      | .ok response => (.object response, store)
      | .error failure => (.error failure, store)

/-- The reply to a request whose upstream ended with these events, and the store after it. -/
def responsesReply (store : ResponseContinuationStore) (request : CanonicalRequest)
    (events : List CanonicalEvent) (createdAt : String) : ClientReply × ResponseContinuationStore :=
  if request.stream then streamReply store request events createdAt
  else batchReply store request events createdAt

/-! ## Completed responses -/

/-- The response that the events of a stream complete. -/
def streamedResponse? (events : List CanonicalEvent) : Option AggregatedResponse :=
  match pushAll createContext events with
  | .error _ => none
  | .ok (_, context) =>
      if context.status = .completed then
        (do
          assertClosed context
          let (response, _) ← finalizeAggregate context.aggregate
          .ok response).toOption
      else none

/-- The response that collected events complete. -/
def batchResponse? (events : List CanonicalEvent) : Option AggregatedResponse :=
  if events.any (isTerminal ·.payload) then (aggregateResponsesEvents events).toOption else none

/-- The response that an upstream completes for a request. -/
def completedResponse? (request : CanonicalRequest) (events : List CanonicalEvent) :
    Option AggregatedResponse :=
  if request.stream then streamedResponse? events else batchResponse? events

/-- The id and the model of the response that events start last. -/
def upstreamIdentity (events : List CanonicalEvent) : String × String :=
  (events.filterMap startedResponse?).getLast?.getD ("resp_unknown", "unknown")

theorem streamedResponse?_eq_some {events : List CanonicalEvent} {response : AggregatedResponse} :
    streamedResponse? events = some response ↔
      ∃ frames context, pushAll createContext events = .ok (frames, context) ∧
        context.status = .completed ∧ assertClosed context = .ok () ∧
          (finalizeAggregate context.aggregate).map Prod.fst = .ok response := by
  unfold streamedResponse?
  constructor
  · intro h
    cases hpush : pushAll createContext events with
    | error failure =>
        rw [hpush] at h
        cases h
    | ok result =>
        rcases result with ⟨frames, context⟩
        rw [hpush] at h
        dsimp only at h
        split at h
        case isTrue hstatus =>
          rw [Except.toOption_eq_some] at h
          obtain ⟨⟨⟩, hclosed, h⟩ := Except.bind_eq_ok.1 h
          obtain ⟨⟨shown, aggregate⟩, hfinal, h⟩ := Except.bind_eq_ok.1 h
          cases h
          refine ⟨frames, context, rfl, hstatus, hclosed, ?_⟩
          rw [hfinal]
          rfl
        case isFalse => cases h
  · rintro ⟨frames, context, hpush, hstatus, hclosed, hfinal⟩
    rw [hpush]
    dsimp only
    rw [if_pos hstatus, Except.toOption_eq_some]
    cases hresult : finalizeAggregate context.aggregate with
    | error failure =>
        rw [hresult] at hfinal
        cases hfinal
    | ok result =>
        rw [hresult] at hfinal
        cases hfinal
        exact Except.bind_eq_ok.2 ⟨(), hclosed, rfl⟩

theorem batchResponse?_eq_some {events : List CanonicalEvent} {response : AggregatedResponse} :
    batchResponse? events = some response ↔
      events.any (isTerminal ·.payload) = true ∧ aggregateResponsesEvents events = .ok response := by
  unfold batchResponse?
  split
  case isTrue hterminal => rw [Except.toOption_eq_some, and_iff_right hterminal]
  case isFalse hrunning =>
    constructor
    · intro h
      cases h
    · intro h
      exact absurd h.1 hrunning

/-- A finalized aggregate has the id and the model that the events started. -/
theorem identity_of_finalizeAggregate {events : List CanonicalEvent} {context : AggregateContext}
    {response : AggregatedResponse} (hall : aggregateAll createAggregateContext events = .ok context)
    (h : (finalizeAggregate context).map Prod.fst = .ok response) :
    (response.id, response.model) = upstreamIdentity events := by
  obtain ⟨-, rfl⟩ := finalizeAggregate_eq_ok.1 h
  exact (afterAll_of_aggregateAll hall).response

/-! ## Streams that are encoded whole -/

/-- A stream is pumped whole where it is pushed whole. -/
theorem pumpStream_eq_ok {context context' : EncodeContext} {events : List CanonicalEvent}
    {frames : List ResponsesFrame} :
    pumpStream context events = (frames, .ok context') ↔
      pushAll context events = .ok (frames, context') := by
  induction events generalizing context frames with
  | nil =>
      unfold pumpStream pushAll
      constructor
      · intro h
        cases h
        rfl
      · intro h
        cases h
        rfl
  | cons item items ih =>
      have hpush : pushAll context (item :: items) = .ok (frames, context') ↔
          ∃ first next rest, encodeResponsesEvent context item = .ok (first, next) ∧
            pushAll next items = .ok (rest, context') ∧ frames = first ++ rest := by
        constructor
        · intro h
          obtain ⟨⟨first, next⟩, hfirst, h⟩ := Except.bind_eq_ok.1 h
          obtain ⟨⟨rest, final⟩, hrest, h⟩ := Except.bind_eq_ok.1 h
          cases h
          exact ⟨first, next, rest, hfirst, hrest, rfl⟩
        · rintro ⟨first, next, rest, hfirst, hrest, rfl⟩
          exact Except.bind_eq_ok.2 ⟨_, hfirst, Except.bind_eq_ok.2 ⟨_, hrest, rfl⟩⟩
      rw [hpush]
      unfold pumpStream
      constructor
      · intro h
        cases hfirst : encodeResponsesEvent context item with
        | error failure =>
            rw [hfirst] at h
            cases h
        | ok result =>
            rcases result with ⟨first, next⟩
            rcases hrest : pumpStream next items with ⟨rest, final⟩
            rw [hfirst] at h
            dsimp only at h
            rw [hrest] at h
            cases h
            exact ⟨first, next, rest, rfl, ih.1 hrest, rfl⟩
      · rintro ⟨first, next, rest, hfirst, hrest, rfl⟩
        rw [hfirst]
        dsimp only
        rw [ih.2 hrest]

/-- What an event does to the status of the encoder. -/
theorem status_of_encodePayload {context context' : EncodeContext} {payload : EventPayload}
    {frames : List ResponsesFrame} (h : encodePayload context payload = .ok (frames, context'))
    (hfailure : ∀ code message, payload ≠ .responseFailed code message) :
    context'.status = if isTerminal payload then .completed else context.status := by
  cases payload with
  | responseFailed code message => exact absurd rfl (hfailure code message)
  | responseCompleted stopReason =>
      obtain ⟨⟨response, aggregate⟩, -, h⟩ := Except.bind_eq_ok.1 h
      cases h
      rfl
  | contentStarted index contentType toolCallId toolName providerId =>
      obtain ⟨started, -, h⟩ := Except.bind_eq_ok.1 h
      cases h
      rfl
  | contentCompleted index =>
      simp only [encodePayload] at h
      split at h
      · cases h
        rfl
      · cases h
  | responseStarted _ | textDelta _ _ | reasoningDelta _ _ | toolArgumentsDelta _ _ _
  | usageUpdated _ _ | fidelityArtifacts _ | signatureDelta _ _ =>
      cases h
      rfl

/-- Only a completion completes a stream. -/
theorem isTerminal_of_status {context context' : EncodeContext} {payload : EventPayload}
    {frames : List ResponsesFrame} (h : encodePayload context payload = .ok (frames, context'))
    (hstatus : context'.status = .completed) :
    isTerminal payload = true ∨ context.status = .completed := by
  by_cases hterminal : isTerminal payload = true
  · exact .inl hterminal
  · right
    by_cases hfailure : ∃ code message, payload = .responseFailed code message
    · obtain ⟨code, message, rfl⟩ := hfailure
      cases h
      cases hstatus
    · have hafter := status_of_encodePayload h fun code message heq =>
        hfailure ⟨code, message, heq⟩
      rw [if_neg hterminal] at hafter
      exact hafter.symm.trans hstatus

/-- A stream that is completed at its end has a completion. -/
theorem exists_terminal_of_status {context context' : EncodeContext} {events : List CanonicalEvent}
    {frames : List ResponsesFrame} (h : pushAll context events = .ok (frames, context'))
    (hstatus : context'.status = .completed) :
    (∃ item ∈ events, isTerminal item.payload = true) ∨ context.status = .completed := by
  induction events generalizing context frames with
  | nil =>
      cases h
      exact .inr hstatus
  | cons item items ih =>
      obtain ⟨⟨first, next⟩, hfirst, h⟩ := Except.bind_eq_ok.1 h
      obtain ⟨⟨rest, final⟩, hrest, h⟩ := Except.bind_eq_ok.1 h
      cases h
      obtain ⟨-, aggregate, -, hpayload⟩ := encodeResponsesEvent_eq_ok.1 hfirst
      rcases ih hrest with ⟨later, hmem, hterminal⟩ | hnext
      · exact .inl ⟨later, List.mem_cons_of_mem item hmem, hterminal⟩
      · rcases isTerminal_of_status hpayload hnext with hterminal | hbefore
        · exact .inl ⟨item, List.mem_cons_self, hterminal⟩
        · exact .inr hbefore

/-- A response that is aggregated is the one an encoder has at the end of the same events. -/
theorem pushAll_of_aggregateResponsesEvents {events : List CanonicalEvent}
    {response : AggregatedResponse} (h : aggregateResponsesEvents events = .ok response) :
    firstFailure events = none ∧ ∃ frames context, encodeResponsesEvents events = .ok frames ∧
      pushAll createContext events = .ok (frames, context) ∧ assertClosed context = .ok () ∧
        (finalizeAggregate context.aggregate).map Prod.fst = .ok response := by
  obtain ⟨frames, hencode, hrest⟩ := Except.bind_eq_ok.1 h
  obtain ⟨⟨frames', context⟩, hpush, hframes⟩ := Except.bind_eq_ok.1 hencode
  obtain ⟨⟨⟩, hclosed, hframes⟩ := Except.bind_eq_ok.1 hframes
  cases hframes
  have hfailure : firstFailure events = none := by
    cases hfirst : firstFailure events with
    | none => rfl
    | some failure =>
        rw [hfirst] at hrest
        cases hrest
  have hpushed := pushed_of_pushAll (Refreshes.refl createAggregateContext) hpush
  obtain ⟨raw, hraw, hrefreshed⟩ := hpushed.aggregate
  have hbatch := (aggregates_eq hpush hclosed hfailure hraw hrefreshed).1
  refine ⟨hfailure, frames, context, hencode, hpush, hclosed, ?_⟩
  rw [hrefreshed.finalizeAggregate, ← hbatch, h]

/-- The aggregate of an encoder has the id and the model that the events started. -/
theorem identity_of_pushAll {events : List CanonicalEvent} {frames : List ResponsesFrame}
    {context : EncodeContext} {response : AggregatedResponse}
    (hpush : pushAll createContext events = .ok (frames, context))
    (h : (finalizeAggregate context.aggregate).map Prod.fst = .ok response) :
    (response.id, response.model) = upstreamIdentity events := by
  have hpushed := pushed_of_pushAll (Refreshes.refl createAggregateContext) hpush
  obtain ⟨raw, hraw, hrefreshed⟩ := hpushed.aggregate
  rw [hrefreshed.finalizeAggregate] at h
  exact identity_of_finalizeAggregate hraw h

/-- So has a response that is aggregated. -/
theorem identity_of_aggregateResponsesEvents {events : List CanonicalEvent}
    {response : AggregatedResponse} (h : aggregateResponsesEvents events = .ok response) :
    (response.id, response.model) = upstreamIdentity events := by
  obtain ⟨-, frames, context, -, hpush, -, hfinal⟩ := pushAll_of_aggregateResponsesEvents h
  exact identity_of_pushAll hpush hfinal

/-- A completed response has the id and the model that the events started. -/
theorem identity_of_completedResponse? {request : CanonicalRequest} {events : List CanonicalEvent}
    {response : AggregatedResponse} (h : completedResponse? request events = some response) :
    (response.id, response.model) = upstreamIdentity events := by
  unfold completedResponse? at h
  split at h
  · obtain ⟨frames, context, hpush, -, -, hfinal⟩ := streamedResponse?_eq_some.1 h
    exact identity_of_pushAll hpush hfinal
  · exact identity_of_aggregateResponsesEvents (batchResponse?_eq_some.1 h).2

/-! ## What a reply stores -/

/-- The store with a completed response in it, unless the request asks not to keep it. -/
def keepResponse (store : ResponseContinuationStore) (request : CanonicalRequest)
    (response : AggregatedResponse) (createdAt : String) :
    Except ResponsesProtocolError ResponseContinuationStore :=
  if request.store = some false then .ok store
  else do
    fileFor response.id
    .ok (Function.update store response.id (some (storedFor request response createdAt)))

theorem rememberAggregated_eq (store : ResponseContinuationStore) (request : CanonicalRequest)
    (response : AggregatedResponse) (createdAt : String) :
    store.rememberAggregated request response.id response.model
        (response.output.map OutputItem.toJson) createdAt =
      (fileFor response.id).map fun _ => (storedFor request response createdAt,
        Function.update store response.id (some (storedFor request response createdAt))) := by
  unfold ResponseContinuationStore.rememberAggregated ResponseContinuationStore.put
  dsimp only
  cases fileFor response.id with
  | error failure => rfl
  | ok found => rfl

/-- What is kept is stored under the id of the response. -/
theorem keepResponse_eq_ok {store after : ResponseContinuationStore} {request : CanonicalRequest}
    {response : AggregatedResponse} {createdAt : String} :
    keepResponse store request response createdAt = .ok after ↔
      (request.store = some false ∧ after = store) ∨
        (request.store ≠ some false ∧ fileFor response.id = .ok () ∧
          after = Function.update store response.id
            (some (storedFor request response createdAt))) := by
  unfold keepResponse
  split
  case isTrue hstore =>
    constructor
    · intro h
      cases h
      exact .inl ⟨hstore, rfl⟩
    · rintro (⟨-, rfl⟩ | ⟨hkept, -⟩)
      · rfl
      · exact absurd hstore hkept
  case isFalse hstore =>
    rw [Except.bind_eq_ok]
    constructor
    · rintro ⟨⟨⟩, hfile, h⟩
      cases h
      exact .inr ⟨hstore, hfile, rfl⟩
    · rintro (⟨hkept, -⟩ | ⟨-, hfile, rfl⟩)
      · exact absurd hkept hstore
      · exact ⟨(), hfile, rfl⟩

/-- The reply to a stream that is completed: its frames, if the response could be kept. -/
theorem streamReply_of_completed {store : ResponseContinuationStore} {request : CanonicalRequest}
    {events : List CanonicalEvent} {createdAt : String} {response : AggregatedResponse}
    (h : streamedResponse? events = some response) :
    streamReply store request events createdAt =
      match keepResponse store request response createdAt with
      | .ok store => (.stream (pumpStream createContext events).1, store)
      | .error failure => (.brokenStream (pumpStream createContext events).1 failure, store) := by
  obtain ⟨frames, context, hpush, hstatus, hclosed, hfinal⟩ := streamedResponse?_eq_some.1 h
  have hcomplete : onComplete store request context createdAt =
      keepResponse store request response createdAt := by
    unfold onComplete keepResponse
    by_cases hstore : request.store = some false
    · rw [if_neg (fun hkept => hkept.2 hstore), if_pos hstore]
    · rw [if_pos ⟨hstatus, hstore⟩, if_neg hstore]
      cases hresult : finalizeAggregate context.aggregate with
      | error failure =>
          rw [hresult] at hfinal
          cases hfinal
      | ok result =>
          rw [hresult] at hfinal
          cases hfinal
          show (store.rememberAggregated request result.1.id result.1.model
            (result.1.output.map OutputItem.toJson) createdAt >>= fun result => _) = _
          rw [rememberAggregated_eq]
          cases fileFor result.1.id with
          | error failure => rfl
          | ok found => rfl
  unfold streamReply
  rw [pumpStream_eq_ok.2 hpush]
  dsimp only
  have hrun : (do
      let context ← (.ok context : Except ResponsesProtocolError EncodeContext)
      assertClosed context
      onComplete store request context createdAt) =
        keepResponse store request response createdAt := by
    rw [← hcomplete]
    show (assertClosed context >>= fun _ => _) = _
    rw [hclosed]
    rfl
  rw [hrun]

/-- A stream that is not completed stores nothing. -/
theorem store_of_streamReply {store : ResponseContinuationStore} {request : CanonicalRequest}
    {events : List CanonicalEvent} {createdAt : String} (h : streamedResponse? events = none) :
    (streamReply store request events createdAt).2 = store := by
  unfold streamReply
  rcases hpump : pumpStream createContext events with ⟨frames, result⟩
  dsimp only
  split
  case h_2 => rfl
  case h_1 after hrun =>
    obtain ⟨context, hresult, hclose⟩ := Except.bind_eq_ok.1 hrun
    obtain ⟨closed, hclosed, hcomplete⟩ := Except.bind_eq_ok.1 hclose
    unfold onComplete at hcomplete
    split at hcomplete
    case isFalse =>
      cases hcomplete
      rfl
    case isTrue hkept =>
      obtain ⟨⟨response, aggregate⟩, hfinal, -⟩ := Except.bind_eq_ok.1 hcomplete
      rw [hresult] at hpump
      -- a store that changes means that the stream was completed
      have hcompleted : streamedResponse? events = some response := by
        refine streamedResponse?_eq_some.2
          ⟨frames, context, pumpStream_eq_ok.1 hpump, hkept.1, hclosed, ?_⟩
        rw [hfinal]
        rfl
      rw [h] at hcompleted
      cases hcompleted

/-- The reply to collected events that complete a response, and start it where it is to be kept. -/
theorem batchReply_of_completed {store : ResponseContinuationStore} {request : CanonicalRequest}
    {events : List CanonicalEvent} {createdAt : String} {response : AggregatedResponse}
    (h : batchResponse? events = some response)
    (hstarted : request.store ≠ some false → events.any (isResponseStarted ·.payload) = true) :
    batchReply store request events createdAt =
      match keepResponse store request response createdAt with
      | .ok store => (.object response, store)
      | .error failure => (.error failure, store) := by
  obtain ⟨hterminal, haggregate⟩ := batchResponse?_eq_some.1 h
  have hremembered : (if request.store = some false then .ok store
      else (store.remember request events createdAt).map (·.2)) =
        keepResponse store request response createdAt := by
    unfold keepResponse ResponseContinuationStore.remember
    by_cases hstore : request.store = some false
    · rw [if_pos hstore, if_pos hstore]
    · rw [if_neg hstore, if_neg hstore, if_pos ⟨hstarted hstore, hterminal⟩, haggregate]
      show Except.map _ (store.rememberAggregated request response.id response.model
        (response.output.map OutputItem.toJson) createdAt >>= fun result => _) = _
      rw [rememberAggregated_eq]
      cases fileFor response.id with
      | error failure => rfl
      | ok found => rfl
  unfold batchReply
  dsimp only
  rw [hremembered, haggregate]
  rcases keepResponse store request response createdAt with failure | kept
  · rfl
  · rfl

/-- Collected events that complete no response store nothing. -/
theorem store_of_batchReply {store : ResponseContinuationStore} {request : CanonicalRequest}
    {events : List CanonicalEvent} {createdAt : String}
    (h : batchResponse? events = none) :
    (batchReply store request events createdAt).2 = store := by
  have hremember : ∀ after, (if request.store = some false then .ok store
      else (store.remember request events createdAt).map (·.2)) = .ok after → after = store := by
    intro after hafter
    split at hafter
    case isTrue =>
      cases hafter
      rfl
    case isFalse =>
      unfold ResponseContinuationStore.remember at hafter
      split at hafter
      case isFalse =>
        cases hafter
        rfl
      case isTrue hboth =>
        cases haggregate : aggregateResponsesEvents events with
        | error failure =>
            rw [haggregate] at hafter
            cases hafter
        | ok response =>
            have hcompleted := batchResponse?_eq_some.2 ⟨hboth.2, haggregate⟩
            rw [h] at hcompleted
            cases hcompleted
  unfold batchReply
  dsimp only
  split
  case h_1 => rfl
  case h_2 after hafter =>
    cases hremember after hafter
    split
    · rfl
    · rfl

/-- Events that complete no response store nothing. -/
theorem store_of_responsesReply {store : ResponseContinuationStore} {request : CanonicalRequest}
    {events : List CanonicalEvent} {createdAt : String}
    (h : completedResponse? request events = none) :
    (responsesReply store request events createdAt).2 = store := by
  unfold completedResponse? at h
  unfold responsesReply
  split at h
  case isTrue hstream =>
    rw [if_pos hstream]
    exact store_of_streamReply h
  case isFalse hstream =>
    rw [if_neg hstream]
    exact store_of_batchReply h

/-! ## What a client is shown -/

/-- The ids of the completed frames. -/
def completedIds (frames : List ResponsesFrame) : List String :=
  frames.filterMap fun frame =>
    match frame with
    | .completed response => some response.id
    | _ => none

/-- The ids of the responses that a reply shows as completed. -/
def ClientReply.ids : ClientReply → List String
  | .object response => [response.id]
  | .error _ => []
  | .stream frames | .brokenStream frames _ => completedIds frames

/-- A reply that delivers a response as completed, and ends without an error. -/
def ClientReply.Completes (id : String) : ClientReply → Prop
  | .object response => response.id = id
  | .stream frames => id ∈ completedIds frames
  | .error _ | .brokenStream _ _ => False

theorem ClientReply.Completes.mem_ids {reply : ClientReply} {id : String}
    (h : reply.Completes id) : id ∈ reply.ids := by
  cases reply with
  | object response => exact List.mem_singleton.2 h.symm
  | stream frames => exact h
  | error failure => exact h.elim
  | brokenStream frames failure => exact h.elim

/-- Every completion comes under the id that the response ends with. -/
def KeepsId (events : List CanonicalEvent) : Prop :=
  ∀ before item after, events = before ++ item :: after → isTerminal item.payload = true →
    (upstreamIdentity before).1 = (upstreamIdentity events).1

theorem mem_completedIds {frames : List ResponsesFrame} {id : String} :
    id ∈ completedIds frames ↔ ∃ response, .completed response ∈ frames ∧ response.id = id := by
  unfold completedIds
  rw [List.mem_filterMap]
  constructor
  · rintro ⟨frame, hmem, hframe⟩
    cases frame with
    | completed response => exact ⟨response, hmem, Option.some.inj hframe⟩
    | _ => cases hframe
  · rintro ⟨response, hmem, rfl⟩
    exact ⟨.completed response, hmem, rfl⟩

/-- A completed stream shows its response as completed, under no other id. -/
theorem completedIds_of_streamedResponse? {events : List CanonicalEvent}
    {response : AggregatedResponse} (h : streamedResponse? events = some response)
    (hid : KeepsId events) :
    response.id ∈ completedIds (pumpStream createContext events).1 ∧
      ∀ id ∈ completedIds (pumpStream createContext events).1, id = response.id := by
  obtain ⟨frames, context, hpush, hstatus, -, hfinal⟩ := streamedResponse?_eq_some.1 h
  rw [pumpStream_eq_ok.2 hpush]
  have hpushed := pushed_of_pushAll (Refreshes.refl createAggregateContext) hpush
  have hidentity := identity_of_pushAll hpush hfinal
  have hshown : ∀ id ∈ completedIds frames, id = response.id := by
    intro id hmem
    obtain ⟨shown, hframe, rfl⟩ := mem_completedIds.1 hmem
    obtain ⟨before, item, after, context', rfl, hterminal, hbefore, hresponse⟩ :=
      (hpushed.completed shown).1 hframe
    calc shown.id = (upstreamIdentity before).1 :=
          congrArg Prod.fst (identity_of_finalizeAggregate hbefore hresponse)
      _ = (upstreamIdentity (before ++ item :: after)).1 := hid before item after rfl hterminal
      _ = response.id := (congrArg Prod.fst hidentity).symm
  refine ⟨?_, hshown⟩
  rcases exists_terminal_of_status hpush hstatus with ⟨item, hmem, hterminal⟩ | hidle
  · obtain ⟨before, after, heq⟩ := List.append_of_mem hmem
    obtain ⟨raw, hraw, -⟩ := hpushed.aggregate
    rw [heq] at hraw
    obtain ⟨context', hbefore, -⟩ := aggregateAll_append_eq_ok.1 hraw
    obtain ⟨shown, hresponse⟩ := hpushed.finalized before item after context' heq hterminal hbefore
    have hframe : .completed shown ∈ frames := (hpushed.completed shown).2
      ⟨before, item, after, context', heq, hterminal, hbefore, hresponse⟩
    have hmem : shown.id ∈ completedIds frames := mem_completedIds.2 ⟨shown, hframe, rfl⟩
    exact hshown shown.id hmem ▸ hmem
  · cases hidle

/-- A completed response that can be kept is delivered, under its own id only. -/
theorem responsesReply_of_completed {store after : ResponseContinuationStore}
    {request : CanonicalRequest} {events : List CanonicalEvent} {createdAt : String}
    {response : AggregatedResponse} (h : completedResponse? request events = some response)
    (hkept : keepResponse store request response createdAt = .ok after)
    (hstarted : request.store ≠ some false → events.any (isResponseStarted ·.payload) = true)
    (hid : request.stream = true → KeepsId events) :
    ∃ reply, responsesReply store request events createdAt = (reply, after) ∧
      reply.Completes response.id ∧ ∀ id ∈ reply.ids, id = response.id := by
  unfold completedResponse? at h
  unfold responsesReply
  split at h
  case isTrue hstream =>
    obtain ⟨hmem, hshown⟩ := completedIds_of_streamedResponse? h (hid hstream)
    rw [if_pos hstream, streamReply_of_completed h, hkept]
    exact ⟨_, rfl, hmem, hshown⟩
  case isFalse hstream =>
    rw [if_neg hstream, batchReply_of_completed h hstarted, hkept]
    exact ⟨_, rfl, rfl, fun id hmem => List.mem_singleton.1 hmem⟩

end RlyGateway
