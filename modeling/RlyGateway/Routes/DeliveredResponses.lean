import Mathlib.Logic.Relation
import RlyGateway.Providers.Direct.ChatStream
import RlyGateway.Routes.OpenAiResponses

/-!
# Delivered responses

Requests of any conversations, in any interleaving: each is continued when it is received and
answered when its upstream has ended, and its response is kept under the id that the upstream gave
it. A delivered id names its own response as long as the upstreams give each response an id of its
own, which can name a file.
-/

namespace RlyGateway

/-! ## Runs of the gateway -/

/-- A request as it was received, and as it was continued. -/
structure ContinuedRequest where
  received : ReceivedRequest
  request : CanonicalRequest

/-- A request whose upstream has ended with these events. -/
structure EndedRequest extends ContinuedRequest where
  events : List CanonicalEvent

/-- A request with its whole reply. -/
structure AnsweredRequest extends EndedRequest where
  reply : ClientReply

/-- The store and the requests, by how far they are. -/
structure GatewayState where
  store : ResponseContinuationStore
  waiting : List ContinuedRequest
  ended : List EndedRequest
  answered : List AnsweredRequest
  removed : List String

/-- The state before the first request. -/
def GatewayState.initial : GatewayState := ⟨fun _ => none, [], [], [], []⟩

/-- What can happen next. A stream is sent while its upstream runs and stored after that, so that
other steps can come between its last frame and its answer. A request that fails or whose client
leaves is one that no step takes further. -/
inductive GatewayAction where
  | receive (received : ReceivedRequest)
  | finish (continued : ContinuedRequest) (events : List CanonicalEvent)
  | answer (ended : EndedRequest) (createdAt : String)
  | remove (id : String)

/-- The steps of the gateway. -/
inductive GatewayState.Step : GatewayState → GatewayAction → GatewayState → Prop
  | receive {state : GatewayState} {received : ReceivedRequest} {request : CanonicalRequest}
      (happly : state.store.apply received.request = .ok request) :
      Step state (.receive received)
        { state with waiting := ⟨received, request⟩ :: state.waiting }
  | finish {state : GatewayState} {before after : List ContinuedRequest}
      {continued : ContinuedRequest} (events : List CanonicalEvent)
      (hwaiting : state.waiting = before ++ continued :: after) :
      Step state (.finish continued events)
        { state with waiting := before ++ after, ended := ⟨continued, events⟩ :: state.ended }
  | answer {state : GatewayState} {before after : List EndedRequest} {ended : EndedRequest}
      {createdAt : String} (hended : state.ended = before ++ ended :: after)
      -- a date is written as some text
      (hclock : createdAt ≠ "") :
      Step state (.answer ended createdAt)
        { state with
          store := (responsesReply state.store ended.request ended.events createdAt).2
          ended := before ++ after
          answered :=
            ⟨ended, (responsesReply state.store ended.request ended.events createdAt).1⟩ ::
              state.answered }
  | remove {state : GatewayState} (id : String) :
      Step state (.remove id)
        { state with store := Function.update state.store id none, removed := id :: state.removed }

/-- The states that steps lead to, each of which meets a condition on the state before it. -/
def GatewayState.ReachableBy (condition : GatewayState → GatewayAction → Prop) :
    GatewayState → Prop :=
  Relation.ReflTransGen (fun state state' => ∃ action, state.Step action state' ∧
    condition state action) .initial

theorem GatewayState.ReachableBy.next {condition : GatewayState → GatewayAction → Prop}
    {state state' : GatewayState} {action : GatewayAction}
    (h : GatewayState.ReachableBy condition state) (hstep : state.Step action state')
    (hcondition : condition state action) : GatewayState.ReachableBy condition state' :=
  Relation.ReflTransGen.tail h ⟨action, hstep, hcondition⟩

/-! ## What a delivered id should name -/

/-- The response that the upstream completed. -/
def EndedRequest.response? (ended : EndedRequest) : Option AggregatedResponse :=
  completedResponse? ended.request ended.events

/-- The client did not ask to forget the response. -/
def EndedRequest.Kept (ended : EndedRequest) : Prop := ended.request.store ≠ some false

/-- The ids that a client has seen before its reply is over: those in the frames of a stream. -/
def EndedRequest.sentIds (ended : EndedRequest) : List String :=
  if ended.request.stream then completedIds (pumpStream createContext ended.events).1 else []

/-- An id that was delivered for a request. -/
def GatewayState.Delivers (state : GatewayState) (ended : EndedRequest) (id : String) : Prop :=
  (ended ∈ state.ended ∧ id ∈ ended.sentIds) ∨
    ∃ answered ∈ state.answered, answered.toEndedRequest = ended ∧ id ∈ answered.reply.ids

/-- A request is continued with the history of one response. -/
def EndedRequest.IsContinuedBy (ended : EndedRequest) (response : AggregatedResponse)
    (received : ReceivedRequest) (continued : CanonicalRequest) : Prop :=
  ∃ createdAt, continued =
    continueFrom (storedFor ended.request response createdAt) received.request

/-- Delivered ids name exactly their own responses. -/
structure GatewayState.NamesResponses (state : GatewayState) : Prop where
  completed : ∀ answered ∈ state.answered, ∀ response, answered.response? = some response →
    answered.Kept → answered.reply.Completes response.id
  noOther : ∀ ended response id, state.Delivers ended id → ended.response? = some response →
    ∀ received continued, received.request.previousResponseId = some id →
      state.store.apply received.request = .ok continued →
        ended.IsContinuedBy response received continued
  continued : ∀ answered ∈ state.answered, ∀ response, answered.response? = some response →
    answered.Kept → ∀ id ∈ answered.reply.ids, id ∉ state.removed →
      ∀ received : ReceivedRequest, received.request.previousResponseId = some id →
        ∃ continued, state.store.apply received.request = .ok continued ∧
          answered.IsContinuedBy response received continued

/-! ## What the ids of the upstreams must be -/

/-- The id that the upstream gave the response. -/
def EndedRequest.id (ended : EndedRequest) : String := (upstreamIdentity ended.events).1

/-- The model that the response is from. -/
def EndedRequest.model (ended : EndedRequest) : String := (upstreamIdentity ended.events).2

/-- The upstream started a response before it completed it, under one id, and a response to be kept
can be stored and read under it. -/
structure EndedRequest.Identified (ended : EndedRequest) : Prop where
  started : ended.Kept → ended.events.any (isResponseStarted ·.payload) = true
  keepsId : ended.request.stream = true → KeepsId ended.events
  named : ended.Kept → fileFor ended.id = .ok () ∧ ended.model ≠ ""

/-- Two completed responses have ids of their own, unless both are to be forgotten. -/
def EndedRequest.Apart (ended other : EndedRequest) : Prop :=
  ended.response? ≠ none → other.response? ≠ none → ended.Kept ∨ other.Kept → ended.id ≠ other.id

/-- All requests whose upstreams have ended. -/
def GatewayState.allEnded (state : GatewayState) : List EndedRequest :=
  state.ended ++ state.answered.map AnsweredRequest.toEndedRequest

/-- An upstream that completes a response identifies it, and as no other one. -/
def GatewayAction.Identified (state : GatewayState) : GatewayAction → Prop
  | .finish continued events => EndedRequest.response? ⟨continued, events⟩ ≠ none →
      EndedRequest.Identified ⟨continued, events⟩ ∧
        ∀ other ∈ state.allEnded, EndedRequest.Apart ⟨continued, events⟩ other
  | .receive _ | .answer _ _ | .remove _ => True

instance : Std.Symm EndedRequest.Apart where
  symm _ _ h := fun hother hended hkept => (h hended hother hkept.symm).symm

/-- The response has the id and the model that the upstream gave it. -/
theorem EndedRequest.identity {ended : EndedRequest} {response : AggregatedResponse}
    (h : ended.response? = some response) :
    response.id = ended.id ∧ response.model = ended.model := by
  have hidentity := identity_of_completedResponse? h
  exact ⟨congrArg Prod.fst hidentity, congrArg Prod.snd hidentity⟩

/-! ## The invariant -/

/-- What holds in a state of identified responses. -/
structure GatewayState.Consistent (state : GatewayState) : Prop where
  apart : state.allEnded.Pairwise EndedRequest.Apart
  identified : ∀ ended ∈ state.allEnded, ended.response? ≠ none → ended.Identified
  stored : ∀ id stored, state.store id = some stored →
    ∃ answered ∈ state.answered, ∃ response createdAt, answered.response? = some response ∧
      answered.Kept ∧ response.id = id ∧ stored = storedFor answered.request response createdAt
  shown : ∀ answered ∈ state.answered, ∀ response, answered.response? = some response →
    answered.reply.Completes response.id ∧ ∀ id ∈ answered.reply.ids, id = response.id
  kept : ∀ answered ∈ state.answered, ∀ response, answered.response? = some response →
    answered.Kept → response.id ∉ state.removed → ∃ createdAt ≠ "",
      state.store response.id = some (storedFor answered.request response createdAt)

theorem GatewayState.Consistent.initial : GatewayState.initial.Consistent where
  apart := List.Pairwise.nil
  identified _ h := by cases h
  stored id stored h := by cases h
  shown _ h := by cases h
  kept _ h := by cases h

/-- Two requests with one id are one request, if a response of theirs is to be kept. -/
theorem GatewayState.Consistent.eq_of_id {state : GatewayState} (h : state.Consistent)
    {ended other : EndedRequest} (hended : ended ∈ state.allEnded) (hother : other ∈ state.allEnded)
    (hresponse : ended.response? ≠ none) (hresponse' : other.response? ≠ none)
    (hkept : ended.Kept ∨ other.Kept) (hid : ended.id = other.id) : ended = other := by
  by_contra hne
  have hapart := h.apart.forall hended hother hne
  exact hapart hresponse hresponse' hkept hid

/-- A step that leaves the store alone keeps what is said about the answered requests. -/
theorem GatewayState.Consistent.finish {state : GatewayState} (h : state.Consistent)
    {waiting : List ContinuedRequest} {ended : EndedRequest}
    (hidentified : ended.response? ≠ none →
      ended.Identified ∧ ∀ other ∈ state.allEnded, ended.Apart other) :
    GatewayState.Consistent { state with waiting, ended := ended :: state.ended } where
  apart := by
    refine List.Pairwise.cons ?_ h.apart
    intro other hother hresponse
    exact (hidentified hresponse).2 other hother hresponse
  identified := by
    intro other hother hresponse
    rcases List.mem_cons.1 hother with rfl | hother
    · exact (hidentified hresponse).1
    · exact h.identified other hother hresponse
  stored := h.stored
  shown := h.shown
  kept := h.kept

theorem GatewayState.Consistent.remove {state : GatewayState} (h : state.Consistent)
    (id : String) :
    GatewayState.Consistent
      { state with store := Function.update state.store id none, removed := id :: state.removed } where
  apart := h.apart
  identified := h.identified
  stored := by
    intro id' stored hstored
    dsimp only at hstored
    by_cases hid : id' = id
    · subst hid
      rw [Function.update_self] at hstored
      cases hstored
    · rw [Function.update_of_ne hid] at hstored
      exact h.stored id' stored hstored
  shown := h.shown
  kept := by
    intro answered hanswered response hresponse hkept hremoved
    rw [List.mem_cons, not_or] at hremoved
    obtain ⟨createdAt, hclock, hstored⟩ :=
      h.kept answered hanswered response hresponse hkept hremoved.2
    exact ⟨createdAt, hclock, (Function.update_of_ne hremoved.1 none state.store).trans hstored⟩

/-- What an answer does to the store: it keeps the response, if there is one to keep. -/
theorem EndedRequest.answer {ended : EndedRequest} (hidentified : ended.response? ≠ none →
      ended.Identified) (store : ResponseContinuationStore) (createdAt : String) :
    ∃ reply after, responsesReply store ended.request ended.events createdAt = (reply, after) ∧
      (∀ response, ended.response? = some response →
        reply.Completes response.id ∧ ∀ id ∈ reply.ids, id = response.id) ∧
      ((after = store ∧ (ended.Kept → ended.response? = none)) ∨
        ∃ response, ended.response? = some response ∧ ended.Kept ∧
          after = Function.update store response.id
            (some (storedFor ended.request response createdAt))) := by
  cases hresponse : ended.response? with
  | none =>
      have hstore : (responsesReply store ended.request ended.events createdAt).2 = store :=
        store_of_responsesReply hresponse
      refine ⟨_, _, rfl, ?_, .inl ⟨hstore, fun _ => rfl⟩⟩
      intro response h
      cases h
  | some response =>
      have hof := hidentified (by rw [hresponse]; exact Option.some_ne_none response)
      have hkeep : ∃ after, keepResponse store ended.request response createdAt = .ok after ∧
          ((after = store ∧ ¬ ended.Kept) ∨ (ended.Kept ∧ after =
            Function.update store response.id
              (some (storedFor ended.request response createdAt)))) := by
        by_cases hkept : ended.Kept
        · have hfile := (hof.named hkept).1
          rw [← (EndedRequest.identity hresponse).1] at hfile
          exact ⟨_, keepResponse_eq_ok.2 (.inr ⟨hkept, hfile, rfl⟩), .inr ⟨hkept, rfl⟩⟩
        · exact ⟨store, keepResponse_eq_ok.2 (.inl ⟨not_not.1 hkept, rfl⟩), .inl ⟨rfl, hkept⟩⟩
      obtain ⟨after, hafter, hcases⟩ := hkeep
      obtain ⟨reply, hreply, hcompletes⟩ :=
        responsesReply_of_completed hresponse hafter hof.started hof.keepsId
      refine ⟨reply, after, hreply, ?_, ?_⟩
      · rintro _ ⟨⟩
        exact hcompletes
      · rcases hcases with ⟨hsame, hforget⟩ | ⟨hkept, hstored⟩
        · exact .inl ⟨hsame, fun hkept => absurd hkept hforget⟩
        · exact .inr ⟨response, rfl, hkept, hstored⟩

theorem GatewayState.Consistent.answer {state : GatewayState} (h : state.Consistent)
    {before after : List EndedRequest} {ended : EndedRequest} {createdAt : String}
    (hended : state.ended = before ++ ended :: after) (hclock : createdAt ≠ "") :
    GatewayState.Consistent
      { state with
        store := (responsesReply state.store ended.request ended.events createdAt).2
        ended := before ++ after
        answered := ⟨ended, (responsesReply state.store ended.request ended.events createdAt).1⟩ ::
          state.answered } := by
  -- the request goes from the ended to the answered ones
  have hperm : state.allEnded.Perm
      (ended :: (before ++ after ++ state.answered.map AnsweredRequest.toEndedRequest)) := by
    unfold GatewayState.allEnded
    rw [hended]
    exact List.perm_middle.append_right _
  have hall : state.allEnded.Perm
      (before ++ after ++ ended :: state.answered.map AnsweredRequest.toEndedRequest) :=
    hperm.trans List.perm_middle.symm
  have hapart :=
    (List.pairwise_cons.1 ((hperm.pairwise_iff fun h => Std.Symm.symm _ _ h).1 h.apart)).1
  have hmem : ended ∈ state.allEnded := hperm.mem_iff.2 List.mem_cons_self
  obtain ⟨reply, store, hreply, hshown, hstore⟩ :=
    EndedRequest.answer (h.identified ended hmem) state.store createdAt
  rw [hreply]
  constructor
  case apart => exact (hall.pairwise_iff fun h => Std.Symm.symm _ _ h).1 h.apart
  case identified =>
    intro other hother
    exact h.identified other (hall.mem_iff.2 hother)
  case stored =>
    intro id stored hstored
    dsimp only at hstored
    have hold : state.store id = some stored → ∃ answered ∈ (⟨ended, reply⟩ :: state.answered :
        List AnsweredRequest), ∃ response createdAt, answered.response? = some response ∧
          answered.Kept ∧ response.id = id ∧
            stored = storedFor answered.request response createdAt := by
      intro hbefore
      obtain ⟨answered, hanswered, hrest⟩ := h.stored id stored hbefore
      exact ⟨answered, List.mem_cons_of_mem _ hanswered, hrest⟩
    rcases hstore with ⟨rfl, -⟩ | ⟨response, hresponse, hkept, rfl⟩
    · exact hold hstored
    · by_cases hid : id = response.id
      · subst hid
        rw [Function.update_self] at hstored
        cases hstored
        exact ⟨⟨ended, reply⟩, List.mem_cons_self, response, createdAt, hresponse, hkept, rfl, rfl⟩
      · rw [Function.update_of_ne hid] at hstored
        exact hold hstored
  case shown =>
    intro answered hanswered
    rcases List.mem_cons.1 hanswered with rfl | hanswered
    · exact hshown
    · exact h.shown answered hanswered
  case kept =>
    intro answered hanswered response hresponse hkept hremoved
    rcases List.mem_cons.1 hanswered with rfl | hbefore
    · rcases hstore with ⟨-, hnone⟩ | ⟨response', hresponse', -, rfl⟩
      · have hboth := hresponse.symm.trans (hnone hkept)
        cases hboth
      · cases hresponse.symm.trans hresponse'
        exact ⟨createdAt, hclock, Function.update_self _ _ _⟩
    · obtain ⟨clock, hclock', hstored⟩ :=
        h.kept answered hbefore response hresponse hkept hremoved
      refine ⟨clock, hclock', ?_⟩
      rcases hstore with ⟨rfl, -⟩ | ⟨response', hresponse', -, rfl⟩
      · exact hstored
      · -- the response that is stored now has another id
        have hother : answered.toEndedRequest ∈
            before ++ after ++ state.answered.map AnsweredRequest.toEndedRequest :=
          List.mem_append_right _ (List.mem_map_of_mem hbefore)
        have hne := hapart _ hother (by rw [hresponse']; exact Option.some_ne_none _)
          (by rw [hresponse]; exact Option.some_ne_none _) (.inr hkept)
        rw [← (EndedRequest.identity hresponse').1, ← (EndedRequest.identity hresponse).1] at hne
        exact (Function.update_of_ne hne.symm _ _).trans hstored

/-- Every step with identified responses keeps the invariant. -/
theorem GatewayState.Consistent.step {state state' : GatewayState} {action : GatewayAction}
    (h : state.Consistent) (hstep : state.Step action state')
    (hidentified : action.Identified state) : state'.Consistent := by
  cases hstep with
  | receive happly => exact ⟨h.apart, h.identified, h.stored, h.shown, h.kept⟩
  | finish events hwaiting => exact h.finish hidentified
  | answer hended hclock => exact h.answer hended hclock
  | remove id => exact h.remove id

/-- So does every run. -/
theorem GatewayState.Consistent.of_reachableBy {state : GatewayState}
    (h : GatewayState.ReachableBy (fun state action => action.Identified state) state) :
    state.Consistent := by
  induction h with
  | refl => exact .initial
  | tail _ hstep ih =>
      obtain ⟨action, hstep, hidentified⟩ := hstep
      exact ih.step hstep hidentified

/-! ## Delivered ids -/

/-- What is delivered as completed is delivered under the id of the response. -/
theorem GatewayState.Consistent.id_of_delivers {state : GatewayState} (h : state.Consistent)
    {ended : EndedRequest} {id : String} {response : AggregatedResponse}
    (hdelivers : state.Delivers ended id) (hresponse : ended.response? = some response) :
    ended ∈ state.allEnded ∧ id = response.id := by
  rcases hdelivers with ⟨hended, hsent⟩ | ⟨answered, hanswered, rfl, hshown⟩
  · have hmem : ended ∈ state.allEnded := List.mem_append_left _ hended
    have hof := h.identified ended hmem (by rw [hresponse]; exact Option.some_ne_none _)
    refine ⟨hmem, ?_⟩
    unfold EndedRequest.sentIds at hsent
    unfold EndedRequest.response? completedResponse? at hresponse
    split at hsent
    case isTrue hstream =>
      rw [if_pos hstream] at hresponse
      exact (completedIds_of_streamedResponse? hresponse (hof.keepsId hstream)).2 id hsent
    case isFalse => cases hsent
  · exact ⟨List.mem_append_right _ (List.mem_map_of_mem hanswered),
      (h.shown answered hanswered response hresponse).2 id hshown⟩

/-- The invariant is enough for the delivered ids to name their responses. -/
theorem GatewayState.Consistent.namesResponses {state : GatewayState} (h : state.Consistent) :
    state.NamesResponses where
  completed := by
    intro answered hanswered response hresponse hkept
    exact (h.shown answered hanswered response hresponse).1
  noOther := by
    intro ended response id hdelivers hresponse received continued hprevious happly
    obtain ⟨hmem, rfl⟩ := h.id_of_delivers hdelivers hresponse
    obtain ⟨previous, hget, rfl⟩ := (apply_eq_ok_of_some hprevious).1 happly
    obtain ⟨-, hstored, -⟩ := get_eq_ok.1 hget
    obtain ⟨answered, hanswered, response', createdAt, hresponse', hkept, hid, rfl⟩ :=
      h.stored response.id previous hstored
    -- the stored response is that of the same request
    have hanswered' : answered.toEndedRequest ∈ state.allEnded :=
      List.mem_append_right _ (List.mem_map_of_mem hanswered)
    have hids : answered.id = ended.id := by
      rw [← (EndedRequest.identity hresponse').1, ← (EndedRequest.identity hresponse).1, hid]
    have hsame := h.eq_of_id hanswered' hmem (by rw [hresponse']; exact Option.some_ne_none _)
      (by rw [hresponse]; exact Option.some_ne_none _) (.inl hkept) hids
    subst hsame
    cases hresponse.symm.trans hresponse'
    exact ⟨createdAt, rfl⟩
  continued := by
    intro answered hanswered response hresponse hkept id hshown hremoved received hprevious
    obtain rfl := (h.shown answered hanswered response hresponse).2 id hshown
    obtain ⟨createdAt, hclock, hstored⟩ :=
      h.kept answered hanswered response hresponse hkept hremoved
    have hmem : answered.toEndedRequest ∈ state.allEnded :=
      List.mem_append_right _ (List.mem_map_of_mem hanswered)
    have hof := h.identified _ hmem (by rw [hresponse]; exact Option.some_ne_none _)
    obtain ⟨hfile, hmodel⟩ := hof.named hkept
    obtain ⟨hid, hof⟩ := EndedRequest.identity hresponse
    rw [← hid] at hfile
    rw [← hof] at hmodel
    have hvalid : (storedFor answered.request response createdAt).isValid = true := by
      have hne : response.id ≠ "" := by
        intro hempty
        rw [hempty] at hfile
        cases hfile
      exact decide_eq_true ⟨hne, hclock, hmodel⟩
    exact ⟨_, (apply_eq_ok_of_some hprevious).2 ⟨_, get_eq_ok.2 ⟨hfile, hstored, hvalid⟩, rfl⟩,
      createdAt, rfl⟩

/-- The question that starts a conversation. -/
def firstTopic : ReceivedRequest where
  environment := ⟨isoRuntime, "req-1", fun _ => []⟩
  raw := .obj [("model", .str "gpt-5.6-sol"), ("stream", .bool true), ("input", .str "hello")]
  headers := []
  decoded := _
  isDecoded := rfl

/-- The question that starts another one. -/
def otherTopic : ReceivedRequest where
  environment := ⟨isoRuntime, "req-2", fun _ => []⟩
  raw := .obj [("model", .str "gpt-5.6-sol"), ("stream", .bool true), ("input", .str "a secret")]
  headers := []
  decoded := _
  isDecoded := rfl

/-- The first conversation waits. -/
def firstWaiting : ContinuedRequest := ⟨firstTopic, firstTopic.request⟩

/-- The other conversation waits. -/
def otherWaiting : ContinuedRequest := ⟨otherTopic, otherTopic.request⟩

/-- The other conversation waits, and the upstream of the first has ended. -/
def firstEnded (events : List CanonicalEvent) : GatewayState :=
  { GatewayState.initial with waiting := [otherWaiting], ended := [⟨firstWaiting, events⟩] }

/-- The reply to the first conversation, and the store after it. -/
def firstReply (events : List CanonicalEvent) : ClientReply × ResponseContinuationStore :=
  responsesReply (fun _ => none) firstTopic.request events "2026-01-01T00:00:00.000Z"

/-- The reply to the other conversation, and the store after it. -/
def otherReply (events other : List CanonicalEvent) : ClientReply × ResponseContinuationStore :=
  responsesReply (firstReply events).2 otherTopic.request other "2026-01-01T00:00:01.000Z"

/-- Both conversations are answered. -/
def bothAnswered (events other : List CanonicalEvent) : GatewayState where
  store := (otherReply events other).2
  waiting := []
  ended := []
  answered := [⟨⟨otherWaiting, other⟩, (otherReply events other).1⟩,
    ⟨⟨firstWaiting, events⟩, (firstReply events).1⟩]
  removed := []

/-- Two conversations can be received and answered in turn. -/
theorem reachableBy_bothAnswered {condition : GatewayState → GatewayAction → Prop}
    {events other : List CanonicalEvent}
    (hreceive : ∀ state received, condition state (.receive received))
    (hanswer : ∀ state ended createdAt, condition state (.answer ended createdAt))
    (hfirst : condition { GatewayState.initial with waiting := [otherWaiting, firstWaiting] }
      (.finish firstWaiting events))
    (hother : condition (firstEnded events) (.finish otherWaiting other)) :
    GatewayState.ReachableBy condition (bothAnswered events other) := by
  have hstart : GatewayState.ReachableBy condition .initial := .refl
  have hfirstAsked := hstart.next
    (@GatewayState.Step.receive .initial firstTopic firstTopic.request rfl) (hreceive _ _)
  have hotherAsked := hfirstAsked.next
    (@GatewayState.Step.receive _ otherTopic otherTopic.request rfl) (hreceive _ _)
  have hfirstEnded := hotherAsked.next
    (@GatewayState.Step.finish _ [otherWaiting] [] firstWaiting events rfl) hfirst
  have hotherEnded := hfirstEnded.next
    (@GatewayState.Step.finish _ [] [] otherWaiting other rfl) hother
  have hfirstAnswered := hotherEnded.next
    (@GatewayState.Step.answer _ [⟨otherWaiting, other⟩] [] ⟨firstWaiting, events⟩
      "2026-01-01T00:00:00.000Z" rfl (by decide)) (hanswer _ _ _)
  exact hfirstAnswered.next
    (@GatewayState.Step.answer _ [] [] ⟨otherWaiting, other⟩ "2026-01-01T00:00:01.000Z" rfl
      (by decide)) (hanswer _ _ _)

/-- The events of a chat stream of one chunk with a text. -/
def chatEvents (requestId : String) (id : Option String) (text : String) : List CanonicalEvent :=
  let chunk := Json.mkObj [("id", id.map .str), ("choices", some (.arr [.obj [
    ("delta", .obj [("content", .str text)]), ("finish_reason", .str "stop")]]))]
  (streamChatEvents ⟨requestId, "openrouter", "gpt-5.6-sol", fun _ => "2026-01-01T00:00:00.000Z"⟩
    [chunk]).1

/-- Events that start one response at once and no other keep its id. -/
theorem keepsId_of_started {first : CanonicalEvent} {events : List CanonicalEvent}
    (hfirst : isResponseStarted first.payload = true)
    (hrest : events.filterMap startedResponse? = []) : KeepsId (first :: events) := by
  intro before item after heq hterminal
  cases before with
  | nil =>
      cases heq
      cases hpayload : first.payload with
      | responseStarted id =>
          rw [hpayload] at hterminal
          cases hterminal
      | _ =>
          rw [hpayload] at hfirst
          cases hfirst
  | cons start before =>
      obtain ⟨rfl, htail⟩ := List.cons.inj heq
      have hsplit : events = before ++ item :: after := htail
      rw [hsplit, List.filterMap_append, List.append_eq_nil_iff] at hrest
      unfold upstreamIdentity
      rw [heq, List.filterMap_append, hrest.2, List.append_nil]

/-- The ids in the first reply are delivered for the first conversation. -/
theorem delivers_bothAnswered {events other : List CanonicalEvent} {id : String}
    (hid : id ∈ (firstReply events).1.ids) :
    (bothAnswered events other).Delivers ⟨firstWaiting, events⟩ id :=
  .inr ⟨⟨⟨firstWaiting, events⟩, (firstReply events).1⟩,
    List.mem_cons_of_mem _ List.mem_cons_self, rfl, hid⟩

/-- The question that follows up the first answer. -/
def followUp : ReceivedRequest where
  environment := ⟨isoRuntime, "req-3", fun _ => []⟩
  raw := .obj [("model", .str "gpt-5.6-sol"), ("previous_response_id", .str "provider-response"),
    ("stream", .bool true), ("input", .str "go on")]
  headers := []
  decoded := _
  isDecoded := rfl

/-- The response of a chat stream without an id. -/
def chatResponse (text : String) : AggregatedResponse :=
  ⟨"provider-response", "gpt-5.6-sol", [.message "msg_0" (some text)], ⟨0, 0⟩⟩

theorem completedResponse?_withoutId :
    completedResponse? firstTopic.request (chatEvents "req-1" none "hi") =
        some (chatResponse "hi") ∧
      completedResponse? otherTopic.request (chatEvents "req-2" none "noted") =
        some (chatResponse "noted") :=
  ⟨by rfl, by rfl⟩

end RlyGateway
