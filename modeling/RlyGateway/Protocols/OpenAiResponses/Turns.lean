import RlyGateway.Protocols.OpenAiResponses.Conversation

/-!
# Turns of a conversation

The turns behind a stored response: the requests as they were received, and the responses they were
answered with. Each stored response holds the messages and the artifacts of all turns of its
conversation, in order, because the response it was continued from held those of all turns before.
-/

namespace RlyGateway

/-- A request the gateway could decode. -/
structure ReceivedRequest where
  environment : DecoderEnvironment
  raw : Json
  headers : Headers
  decoded : DecodedRequest
  isDecoded : decodeResponsesRequest environment raw headers = .ok decoded

/-- The request before it is continued. -/
def ReceivedRequest.request (received : ReceivedRequest) : CanonicalRequest :=
  received.decoded.request

/-- A request and the response that was delivered for it. -/
structure Turn where
  received : ReceivedRequest
  response : AggregatedResponse

/-- The output of a turn as it is stored. -/
def Turn.output (turn : Turn) : List Json := turn.response.output.map OutputItem.toJson

/-- The messages of a turn: those of its request, without the history, and those of its output. -/
def Turn.messages (turn : Turn) : List CanonicalMessage :=
  turn.received.request.messages ++ messagesFromOutput turn.output

/-- The artifacts of a turn, in the order of its messages. -/
def Turn.artifacts (turn : Turn) : List OpaqueArtifact :=
  envelopeArtifacts turn.received.request.fidelity ++ artifactsFromAggregated turn.output

/-- The turns of the conversation that a stored response ends. -/
structure Chain where
  earlier : List Turn
  last : Turn

/-- The turns in order. -/
def Chain.turns (chain : Chain) : List Turn := chain.earlier ++ [chain.last]

/-- The conversation behind each stored response. -/
abbrev Chains := String → Option Chain

/-- The turns in front of a request: those of the conversation it continues. -/
def earlierTurns (chains : Chains) (received : ReceivedRequest) : List Turn :=
  (received.request.previousResponseId.bind chains).elim [] Chain.turns

/-! ## Continuing a request -/

/-- A request with a stored response in front of it. -/
def continueFrom (previous : StoredResponse) (request : CanonicalRequest) : CanonicalRequest :=
  { request with
    messages := previous.messages ++ request.messages
    input := previous.messages.flatMap (·.content) ++ request.input
    fidelity := mergeFidelity previous.fidelity request.fidelity }

/-- A request is continued from the response that is read for the id it names. -/
theorem apply_eq_ok_of_some {store : ResponseContinuationStore} {request continued : CanonicalRequest}
    {id : String} (hprevious : request.previousResponseId = some id) :
    store.apply request = .ok continued ↔
      ∃ previous, store.get id = .ok (some previous) ∧ continued = continueFrom previous request := by
  unfold ResponseContinuationStore.apply
  split
  case h_1 hnone =>
    rw [hprevious] at hnone
    cases hnone
  case h_2 id' hid =>
    rw [hprevious] at hid
    cases hid
    rw [Except.bind_eq_ok]
    constructor
    · rintro ⟨found, hget, hfound⟩
      cases found with
      | none => cases hfound
      | some previous =>
          cases hfound
          exact ⟨previous, hget, rfl⟩
    · rintro ⟨previous, hget, rfl⟩
      exact ⟨some previous, hget, rfl⟩

/-- Only a response in the store is read. -/
theorem get_eq_ok {store : ResponseContinuationStore} {id : String} {stored : StoredResponse} :
    store.get id = .ok (some stored) ↔
      fileFor id = .ok () ∧ store id = some stored ∧ stored.isValid = true := by
  unfold ResponseContinuationStore.get
  rw [Except.bind_eq_ok]
  constructor
  · rintro ⟨⟨⟩, hfile, hfound⟩
    exact ⟨hfile, Option.filter_eq_some_iff.1 (Except.ok.inj hfound)⟩
  · rintro ⟨hfile, hstored, hvalid⟩
    refine ⟨(), hfile, ?_⟩
    rw [hstored, Option.filter_some, if_pos hvalid]

/-! ## Runs -/

/-- The stores that requests lead to, and the conversation behind each of their responses. Any other
responses may have been stored between the continuation of a request and the end of its response, a
later response of the same id takes the place of the first, and a file can be removed at any
time. -/
inductive ConversationRun : ResponseContinuationStore → Chains → Prop
  | empty : ConversationRun (fun _ => none) fun _ => none
  | remember {store before : ResponseContinuationStore} {chains chainsBefore : Chains} {turn : Turn}
      {request : CanonicalRequest} {createdAt : String} {stored : StoredResponse}
      {after : ResponseContinuationStore}
      (hbefore : ConversationRun before chainsBefore) (hstore : ConversationRun store chains)
      (happly : before.apply turn.received.request = .ok request)
      -- a date is written as some text
      (hclock : createdAt ≠ "")
      (hremember : store.rememberAggregated request turn.response.id turn.response.model
        turn.output createdAt = .ok (stored, after)) :
      ConversationRun after (Function.update chains turn.response.id
        (some ⟨earlierTurns chainsBefore turn.received, turn⟩))
  | remove {store : ResponseContinuationStore} {chains : Chains} (id : String)
      (hstore : ConversationRun store chains) :
      ConversationRun (Function.update store id none) (Function.update chains id none)

/-- A stored response holds what its conversation consists of. -/
structure Chain.StoredAs (chain : Chain) (stored : StoredResponse) : Prop where
  id : stored.id = chain.last.response.id
  model : stored.model = chain.last.response.model
  createdAt : stored.createdAt ≠ ""
  messages : stored.messages = chain.turns.flatMap Turn.messages
  artifacts : envelopeArtifacts stored.fidelity = chain.turns.flatMap Turn.artifacts

/-- A request is continued by the turns before it. -/
structure Continues (earlier : List Turn) (received : ReceivedRequest)
    (request : CanonicalRequest) : Prop where
  messages : request.messages = earlier.flatMap Turn.messages ++ received.request.messages
  artifacts : envelopeArtifacts request.fidelity =
    earlier.flatMap Turn.artifacts ++ envelopeArtifacts received.request.fidelity
  previous : request.previousResponseId = received.request.previousResponseId

/-- The responses of a store are those of the conversations. -/
def HoldsChains (store : ResponseContinuationStore) (chains : Chains) : Prop :=
  ∀ id, Option.Rel Chain.StoredAs (chains id) (store id)

/-- What is read under an id is the response that was stored last under it. -/
theorem HoldsChains.get {store : ResponseContinuationStore} {chains : Chains}
    (h : HoldsChains store chains) {id : String} {stored : StoredResponse}
    (hget : store.get id = .ok (some stored)) :
    ∃ chain, chains id = some chain ∧ chain.StoredAs stored := by
  obtain ⟨-, hstored, -⟩ := get_eq_ok.1 hget
  have hrel := h id
  rw [hstored] at hrel
  cases hchain : chains id with
  | none =>
      rw [hchain] at hrel
      cases hrel
  | some chain =>
      rw [hchain] at hrel
      cases hrel with
      | some hholds => exact ⟨chain, rfl, hholds⟩

/-- A request is continued by the conversation of the response it names. -/
theorem HoldsChains.apply {store : ResponseContinuationStore} {chains : Chains}
    (h : HoldsChains store chains) {received : ReceivedRequest} {request : CanonicalRequest}
    (happly : store.apply received.request = .ok request) :
    Continues (earlierTurns chains received) received request := by
  cases hid : received.request.previousResponseId with
  | none =>
      have hturns : earlierTurns chains received = [] := by
        unfold earlierTurns
        rw [hid, Option.bind_none, Option.elim_none]
      unfold ResponseContinuationStore.apply at happly
      rw [hid] at happly
      cases happly
      rw [hturns]
      exact ⟨rfl, rfl, rfl⟩
  | some id =>
      obtain ⟨previous, hget, rfl⟩ := (apply_eq_ok_of_some hid).1 happly
      obtain ⟨chain, hchain, hholds⟩ := h.get hget
      have hturns : earlierTurns chains received = chain.turns := by
        unfold earlierTurns
        rw [hid, Option.bind_some, hchain, Option.elim_some]
      rw [hturns]
      refine ⟨?_, ?_, rfl⟩
      · exact congrArg (· ++ received.request.messages) hholds.messages
      · show envelopeArtifacts (mergeFidelity _ _) = _
        rw [envelopeArtifacts_mergeFidelity, hholds.artifacts]

/-- The envelope stored with a response has the artifacts of the request and of the output. -/
theorem envelopeArtifacts_fidelityForStorage (request : CanonicalRequest) (output : List Json) :
    envelopeArtifacts (fidelityForStorage request output) =
      envelopeArtifacts request.fidelity ++ artifactsFromAggregated output := by
  unfold fidelityForStorage
  dsimp only
  split
  case isTrue hnone => rw [hnone, List.append_nil]
  case isFalse =>
    rw [envelopeArtifacts_mergeFidelity]
    rfl

/-- What is stored for the response to a request. -/
def storedFor (request : CanonicalRequest) (response : AggregatedResponse) (createdAt : String) :
    StoredResponse :=
  let output := response.output.map OutputItem.toJson
  ⟨response.id, createdAt, response.model, request.messages ++ messagesFromOutput output,
    fidelityForStorage request output⟩

/-- What is stored for a turn whose request was continued to this one. -/
def Turn.record (turn : Turn) (request : CanonicalRequest) (createdAt : String) : StoredResponse :=
  storedFor request turn.response createdAt

/-- A turn is stored with all turns before it. -/
theorem Continues.storedAs {earlier : List Turn} {turn : Turn} {request : CanonicalRequest}
    (h : Continues earlier turn.received request) {createdAt : String} (hclock : createdAt ≠ "") :
    Chain.StoredAs ⟨earlier, turn⟩ (turn.record request createdAt) := by
  have hmessages : request.messages ++ messagesFromOutput turn.output =
      (earlier ++ [turn]).flatMap Turn.messages := by
    rw [h.messages, List.flatMap_append, List.flatMap_singleton, Turn.messages, List.append_assoc]
  have hartifacts : envelopeArtifacts (fidelityForStorage request turn.output) =
      (earlier ++ [turn]).flatMap Turn.artifacts := by
    rw [envelopeArtifacts_fidelityForStorage, h.artifacts, List.flatMap_append,
      List.flatMap_singleton, Turn.artifacts, List.append_assoc]
  exact ⟨rfl, rfl, hclock, hmessages, hartifacts⟩

/-- A response that could be stored is in the store, and the other ones stay. -/
theorem rememberAggregated_eq_ok {store after : ResponseContinuationStore}
    {request : CanonicalRequest} {id model createdAt : String} {output : List Json}
    {stored : StoredResponse}
    (h : store.rememberAggregated request id model output createdAt = .ok (stored, after)) :
    fileFor id = .ok () ∧ stored = ⟨id, createdAt, model,
      request.messages ++ messagesFromOutput output, fidelityForStorage request output⟩ ∧
      after = Function.update store id (some stored) := by
  obtain ⟨next, hput, hnext⟩ := Except.bind_eq_ok.1 h
  obtain ⟨⟨⟩, hfile, hwritten⟩ := Except.bind_eq_ok.1 hput
  cases hwritten
  cases hnext
  exact ⟨hfile, rfl, rfl⟩

/-- Storing a response for a conversation under its id keeps the store right. -/
theorem HoldsChains.update {store : ResponseContinuationStore} {chains : Chains}
    (h : HoldsChains store chains) (id : String) {chain : Option Chain}
    {stored : Option StoredResponse} (hrel : Option.Rel Chain.StoredAs chain stored) :
    HoldsChains (Function.update store id stored) (Function.update chains id chain) := by
  intro id'
  by_cases hid : id' = id
  · subst hid
    rw [Function.update_self, Function.update_self]
    exact hrel
  · rw [Function.update_of_ne hid, Function.update_of_ne hid]
    exact h id'

/-- Whatever was stored and removed, each stored response holds its conversation. -/
theorem ConversationRun.holdsChains {store : ResponseContinuationStore} {chains : Chains}
    (h : ConversationRun store chains) : HoldsChains store chains := by
  induction h with
  | empty => exact fun _ => Option.Rel.none
  | remember _ _ happly hclock hremember ihbefore ihstore =>
      obtain ⟨-, rfl, rfl⟩ := rememberAggregated_eq_ok hremember
      have hstored := (ihbefore.apply happly).storedAs hclock
      exact ihstore.update _ (Option.Rel.some hstored)
  | remove id _ ih => exact ih.update id Option.Rel.none

/-- A conversation is found under the id of its last response, which names a file. -/
theorem ConversationRun.named {store : ResponseContinuationStore} {chains : Chains}
    (h : ConversationRun store chains) {id : String} {chain : Chain} (hchain : chains id = some chain) :
    chain.last.response.id = id ∧ fileFor id = .ok () := by
  induction h with
  | empty => cases hchain
  | @remember store before chains chainsBefore turn request createdAt stored after _ _ _ _ hremember
      _ ihstore =>
      by_cases hid : id = turn.response.id
      · subst hid
        rw [Function.update_self] at hchain
        cases hchain
        exact ⟨rfl, (rememberAggregated_eq_ok hremember).1⟩
      · rw [Function.update_of_ne hid] at hchain
        exact ihstore hchain
  | @remove store chains removed _ ih =>
      by_cases hid : id = removed
      · subst hid
        rw [Function.update_self] at hchain
        cases hchain
      · rw [Function.update_of_ne hid] at hchain
        exact ih hchain

/-- The response of a conversation can be read, if its model has a name. -/
theorem ConversationRun.exists_get {store : ResponseContinuationStore} {chains : Chains}
    (h : ConversationRun store chains) {id : String} {chain : Chain} (hchain : chains id = some chain)
    (hmodel : chain.last.response.model ≠ "") :
    ∃ stored, store.get id = .ok (some stored) ∧ chain.StoredAs stored := by
  obtain ⟨hid, hfile⟩ := h.named hchain
  have hrel := h.holdsChains id
  rw [hchain] at hrel
  cases hstored : store id with
  | none =>
      rw [hstored] at hrel
      cases hrel
  | some stored =>
      rw [hstored] at hrel
      cases hrel with
      | some hholds =>
          have hne : id ≠ "" := by
            rintro rfl
            cases hfile
          have hvalid : stored.isValid = true := by
            unfold StoredResponse.isValid
            rw [hholds.id, hid, hholds.model]
            exact decide_eq_true ⟨hne, hholds.createdAt, hmodel⟩
          exact ⟨stored, get_eq_ok.2 ⟨hfile, hstored, hvalid⟩, hholds⟩

/-- In every run, a request is continued by the conversation of the response it names. -/
theorem ConversationRun.continues {store : ResponseContinuationStore} {chains : Chains}
    (h : ConversationRun store chains) {received : ReceivedRequest} {request : CanonicalRequest}
    (happly : store.apply received.request = .ok request) :
    Continues (earlierTurns chains received) received request :=
  h.holdsChains.apply happly

/-! ## Conversations of two turns -/

/-- A response whose id names a file can be stored at once. -/
theorem ConversationRun.next {store : ResponseContinuationStore} {chains : Chains}
    (hrun : ConversationRun store chains) {turn : Turn} {request : CanonicalRequest}
    {createdAt : String} (happly : store.apply turn.received.request = .ok request)
    (hfile : fileFor turn.response.id = .ok ()) (hclock : createdAt ≠ "") :
    ConversationRun
      (Function.update store turn.response.id (some (turn.record request createdAt)))
      (Function.update chains turn.response.id
        (some ⟨earlierTurns chains turn.received, turn⟩)) := by
  have hremember : store.rememberAggregated request turn.response.id turn.response.model
      turn.output createdAt = .ok (turn.record request createdAt,
        Function.update store turn.response.id (some (turn.record request createdAt))) :=
    Except.bind_eq_ok.2 ⟨_, Except.bind_eq_ok.2 ⟨(), hfile, rfl⟩, rfl⟩
  exact .remember hrun hrun happly hclock hremember

/-- The store of one response, which continues no other. -/
def Turn.store (turn : Turn) (createdAt : String) : ResponseContinuationStore :=
  Function.update (fun _ => none) turn.response.id
    (some (turn.record turn.received.request createdAt))

/-- The conversation of that response. -/
def Turn.chains (turn : Turn) : Chains :=
  Function.update (fun _ => none) turn.response.id (some ⟨[], turn⟩)

/-- A turn that continues no other can be stored first. -/
theorem Turn.conversationRun (turn : Turn) {createdAt : String}
    (hprevious : turn.received.request.previousResponseId = none)
    (hfile : fileFor turn.response.id = .ok ()) (hclock : createdAt ≠ "") :
    ConversationRun (turn.store createdAt) turn.chains := by
  have happly : ResponseContinuationStore.apply (fun _ => none) turn.received.request =
      .ok turn.received.request := by
    unfold ResponseContinuationStore.apply
    rw [hprevious]
  have hearlier : earlierTurns (fun _ => none) turn.received = [] := by
    unfold earlierTurns
    rw [hprevious]
    rfl
  have hrun := ConversationRun.empty.next happly hfile hclock
  rw [hearlier] at hrun
  exact hrun

/-- A request that names the response is continued by its turn. -/
theorem Turn.apply_store (turn : Turn) {createdAt : String} {request : CanonicalRequest}
    (hprevious : request.previousResponseId = some turn.response.id)
    (hfile : fileFor turn.response.id = .ok ())
    (hvalid : (turn.record turn.received.request createdAt).isValid = true) :
    (turn.store createdAt).apply request =
      .ok (continueFrom (turn.record turn.received.request createdAt) request) := by
  refine (apply_eq_ok_of_some hprevious).2 ⟨_, get_eq_ok.2 ⟨hfile, ?_, hvalid⟩, rfl⟩
  exact Function.update_self _ _ _

/-- A first question. -/
def firstQuestion : ReceivedRequest where
  environment := ⟨isoRuntime, "req-1", fun _ => []⟩
  raw := .obj [("model", .str "gpt-5.6-sol"), ("input", .str "hello")]
  headers := []
  decoded := _
  isDecoded := rfl

/-- The first turn. -/
def firstTurn : Turn := ⟨firstQuestion, "resp_1", "gpt-5.6-sol", [.message "msg_0" (some "hi")], 3, 1⟩

/-- The question that follows up its answer. -/
def secondQuestion : ReceivedRequest where
  environment := ⟨isoRuntime, "req-2", fun _ => []⟩
  raw := .obj [("model", .str "gpt-5.6-sol"), ("previous_response_id", .str "resp_1"),
    ("input", .str "go on")]
  headers := []
  decoded := _
  isDecoded := rfl

theorem conversationRun_firstTurn :
    ConversationRun (firstTurn.store "2026-01-01T00:00:00.000Z") firstTurn.chains :=
  firstTurn.conversationRun rfl rfl (by decide)

/-- The follow-up with the first turn in front of it. -/
def continuedQuestion : CanonicalRequest :=
  continueFrom (firstTurn.record firstQuestion.request "2026-01-01T00:00:00.000Z")
    secondQuestion.request

theorem apply_secondQuestion :
    (firstTurn.store "2026-01-01T00:00:00.000Z").apply secondQuestion.request =
      .ok continuedQuestion :=
  firstTurn.apply_store rfl rfl rfl

end RlyGateway
