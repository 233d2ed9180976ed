import RlyGateway.Routing.Pools.Execute

/-!
# What a pool run guarantees

Two guarantees over every run of `streamPoolRequest`. The consumer sees a prefix of the events of
the last attempt and nothing of the others. No account is invoked twice or beyond the budget, and
the attempts that are followed by another had not committed, up to the one exit that forgets it.
-/

namespace RlyGateway

variable (runtime : NodeRuntime)

/-! ## Consumed events -/

/-- The events of an attempt up to and with its first failed event. -/
def consumed : List CanonicalEvent → List CanonicalEvent
  | [] => []
  | event :: events =>
      match failureOf event.payload with
      | some _ => [event]
      | none => event :: consumed events

theorem consumed_prefix (events : List CanonicalEvent) : consumed events <+: events := by
  induction events with
  | nil => exact List.prefix_rfl
  | cons event events ih =>
      unfold consumed
      split
      · exact ⟨events, rfl⟩
      · exact List.cons_prefix_cons.2 ⟨rfl, ih⟩

/-- What is passed on and what stays buffered make up what was seen. -/
theorem observe_passed (state : AttemptState) (event : CanonicalEvent) :
    (state.observe event).1 ++ (state.observe event).2.buffered = state.buffered ++ [event] := by
  unfold AttemptState.observe
  dsimp only
  split
  case isTrue hlive => simp [state.buffered_of_live hlive]
  case isFalse => split <;> simp

/-- An event is passed on only by a live attempt. -/
theorem observe_of_not_live {state : AttemptState} {event : CanonicalEvent}
    (h : (state.observe event).2.live = false) :
    (state.observe event).1 = [] ∧ state.live = false := by
  revert h
  unfold AttemptState.observe
  dsimp only
  split
  case isTrue hlive =>
    intro h
    rw [hlive] at h
    cases h
  case isFalse hlive =>
    split
    case isTrue => exact fun h => by cases h
    case isFalse => exact fun _ => ⟨rfl, Bool.eq_false_of_not_eq_true hlive⟩

/-- Draining passes on or keeps exactly the consumed events, in order. -/
theorem drain_passed (state : AttemptState) (events : List CanonicalEvent) :
    (drain state events).passed ++ (drain state events).state.buffered =
      state.buffered ++ consumed events := by
  induction events generalizing state with
  | nil => simp [drain, consumed]
  | cons event events ih =>
      have hstep := observe_passed state event
      cases hfailure : failureOf event.payload with
      | some failure =>
          simp only [drain, consumed, hfailure]
          exact hstep
      | none =>
          simp only [drain, consumed, hfailure]
          rw [List.append_assoc, ih, ← List.append_assoc, hstep, List.append_assoc,
            List.singleton_append]

/-- Draining passes nothing on while the attempt is not live. -/
theorem drain_of_not_live {state : AttemptState} {events : List CanonicalEvent}
    (h : (drain state events).state.live = false) :
    (drain state events).passed = [] ∧ state.live = false := by
  induction events generalizing state with
  | nil => exact ⟨rfl, h⟩
  | cons event events ih =>
      unfold drain at h ⊢
      dsimp only at h ⊢
      split at h
      · exact observe_of_not_live h
      · obtain ⟨hrest, hnext⟩ := ih h
        obtain ⟨hpassed, hlive⟩ := observe_of_not_live hnext
        exact ⟨by rw [hpassed, hrest, List.append_nil], hlive⟩

/-! ## One attempt -/

/-- What the `catch` block passes on is the buffer or nothing. -/
theorem settleThrown_yielded (context : AttemptContext) (state : AttemptState) (thrown : Thrown) :
    (settleThrown runtime context state thrown).yielded <+: state.buffered := by
  unfold settleThrown
  dsimp only
  repeat' split
  all_goals first | exact List.prefix_rfl | exact List.nil_prefix

/-- A rotation in the `catch` block is the policy's decision on the thrown value. -/
theorem settleThrown_rotated {context : AttemptContext} {state : AttemptState}
    {thrown lastError : Thrown}
    (h : (settleThrown runtime context state thrown).ending = .rotated lastError) :
    thrown.isRouteError = false ∧ isAbortError thrown = false ∧
      (settleThrown runtime context state thrown).yielded = [] ∧
        canRotate ⟨state.route.outputStarted, context.rotationsUsed, context.retryBudget,
          classifyProviderFailure thrown.code?, commitmentOf thrown⟩ = true := by
  unfold settleThrown at h ⊢
  dsimp only at h ⊢
  split at h
  · cases h
  rename_i hroute
  split at h
  · cases h
  rename_i habort
  rw [if_neg hroute, if_neg habort]
  split at h
  · cases h
  rename_i entry hrecord
  split at h
  case isTrue hrotate =>
    exact ⟨Bool.eq_false_of_not_eq_true hroute, Bool.eq_false_of_not_eq_true habort,
      by rw [if_pos hrotate], hrotate⟩
  case isFalse => cases h

/-- A rotation in the attempt's own code is the policy's decision on its commitment. -/
theorem failAttempt_rotated {context : AttemptContext} {state : AttemptState}
    {outcome : RouteOutcomeClass} {code message : String} {recorded : List RecordedOutcome}
    {lastError : Thrown}
    (h : failAttempt runtime context state outcome code message = (recorded, .rotated lastError)) :
    canRotate ⟨state.route.outputStarted, context.rotationsUsed, context.retryBudget, outcome,
      failureCommitment state.commitment⟩ = true := by
  unfold failAttempt at h
  split at h
  · cases h
  · dsimp only at h
    split at h
    case isTrue hrotate => exact hrotate
    case isFalse => cases h

/-- What the attempt's own code raises there is no provider failure of the adapter's. -/
theorem failAttempt_raised {context : AttemptContext} {state : AttemptState}
    {outcome : RouteOutcomeClass} {code message : String} {recorded : List RecordedOutcome}
    {thrown : Thrown}
    (h : failAttempt runtime context state outcome code message = (recorded, .raised thrown)) :
    thrown.isRouteError = true ∨ commitmentOf thrown = .unknown := by
  unfold failAttempt at h
  split at h
  · cases h
    exact Or.inr rfl
  · dsimp only at h
    split at h
    · cases h
    · cases h
      split
      · exact Or.inl rfl
      · exact Or.inl rfl

/-- The three ways an attempt's own code ends in a rotation or in the `catch` block. -/
inductive BodyReason (context : AttemptContext) (drained : Drained) (ending : Option Thrown) :
    BodyEnd → Prop
  | finished : BodyReason context drained ending .finished
  | rotated (outcome : RouteOutcomeClass) (lastError : Thrown)
      (h : canRotate ⟨drained.state.route.outputStarted, context.rotationsUsed,
        context.retryBudget, outcome, failureCommitment drained.state.commitment⟩ = true) :
      BodyReason context drained ending (.rotated lastError)
  | own (thrown : Thrown) (h : thrown.isRouteError = true ∨ commitmentOf thrown = .unknown) :
      BodyReason context drained ending (.raised thrown)
  | adapter (thrown : Thrown) (hending : ending = some thrown) (hfailed : drained.failed = none) :
      BodyReason context drained ending (.raised thrown)

theorem bodyReason_failAttempt (context : AttemptContext) (drained : Drained)
    (ending : Option Thrown) (outcome : RouteOutcomeClass) (code message : String) :
    BodyReason context drained ending
      (failAttempt runtime context drained.state outcome code message).2 := by
  rcases h : failAttempt runtime context drained.state outcome code message with ⟨recorded, bodyEnd⟩
  cases bodyEnd with
  | finished => exact .finished
  | rotated lastError => exact .rotated outcome lastError (failAttempt_rotated runtime h)
  | raised thrown => exact .own thrown (failAttempt_raised runtime h)

theorem bodyReason_attemptBody (context : AttemptContext) (drained : Drained)
    (ending : Option Thrown) :
    BodyReason context drained ending (attemptBody runtime context drained ending).2 := by
  cases hfailed : drained.failed with
  | some failure =>
      simp only [attemptBody, hfailed]
      exact bodyReason_failAttempt runtime context drained ending _ _ _
  | none =>
      cases ending with
      | some thrown =>
          simp only [attemptBody, hfailed]
          exact .adapter thrown rfl hfailed
      | none =>
          simp only [attemptBody, hfailed]
          split
          · exact bodyReason_failAttempt runtime context drained none _ _ _
          · split
            · exact .own _ (Or.inr rfl)
            · exact .finished

/-- What is known of an attempt that is rotated away: nothing was passed on, no output had started,
and either its own commitment evidence or the error its adapter threw says `not-sent`. -/
structure RotatedAttempt (context : AttemptContext) (route : EffectiveRoute) (attempt : Attempt) :
    Prop where
  silent : (runAttempt runtime context route attempt).yielded = []
  noOutput : (drain (.start route) attempt.events).state.route.outputStarted = false
  evidence :
    failureCommitment (drain (.start route) attempt.events).state.commitment = .notSent ∨
      (drain (.start route) attempt.events).failed = none ∧
        ∃ thrown, attempt.ending = some thrown ∧ thrown.isRouteError = false ∧
          isAbortError thrown = false ∧ commitmentOf thrown = .notSent ∧
            (classifyProviderFailure thrown.code? = .auth ∨
              classifyProviderFailure thrown.code? = .quota ∨
                classifyProviderFailure thrown.code? = .transient)

/-- Without output nothing was passed on. -/
theorem passed_of_not_outputStarted {state : AttemptState} {events : List CanonicalEvent}
    (h : (drain state events).state.route.outputStarted = false) :
    (drain state events).passed = [] := by
  have hlive : (drain state events).state.live = false := by
    by_contra hlive
    rw [Bool.not_eq_false] at hlive
    rw [(drain state events).state.outputStarted_of_live hlive] at h
    cases h
  exact (drain_of_not_live hlive).1

theorem rotatedAttempt_of_rotated {context : AttemptContext} {route : EffectiveRoute}
    {attempt : Attempt} {lastError : Thrown}
    (h : (runAttempt runtime context route attempt).ending = .rotated lastError) :
    RotatedAttempt runtime context route attempt := by
  have hreason := bodyReason_attemptBody runtime context (drain (.start route) attempt.events)
    attempt.ending
  rcases hbody : attemptBody runtime context (drain (.start route) attempt.events) attempt.ending
    with ⟨recorded, bodyEnd⟩
  have hrun : runAttempt runtime context route attempt =
      finishAttempt runtime context (drain (.start route) attempt.events) recorded bodyEnd := by
    rw [runAttempt, hbody]
  rw [hbody] at hreason
  rw [hrun] at h
  cases hreason with
  | finished => cases h
  | rotated outcome lastError hrotate =>
      obtain ⟨houtput, hcommitment, -⟩ := canRotate_eq_true hrotate
      refine ⟨?_, houtput, Or.inl hcommitment⟩
      rw [hrun]
      exact passed_of_not_outputStarted houtput
  -- the executor's own errors are rethrown, or declare no commitment
  | own thrown howner =>
      obtain ⟨hroute, -, -, hrotate⟩ := settleThrown_rotated runtime h
      obtain ⟨-, hcommitment, -⟩ := canRotate_eq_true hrotate
      rcases howner with howner | howner
      · rw [hroute] at howner
        cases howner
      · rw [show commitmentOf thrown = .notSent from hcommitment] at howner
        cases howner
  -- an error of the adapter is judged by what it declares
  | adapter thrown hending hfailed =>
      obtain ⟨hroute, habort, hsilent, hrotate⟩ := settleThrown_rotated runtime h
      obtain ⟨houtput, hcommitment, houtcome⟩ := canRotate_eq_true hrotate
      refine ⟨?_, houtput, Or.inr ⟨hfailed, thrown, hending, hroute, habort, hcommitment,
        houtcome⟩⟩
      rw [hrun]
      show (drain (.start route) attempt.events).passed ++
        (settleThrown runtime context _ thrown).yielded = []
      rw [hsilent, passed_of_not_outputStarted houtput, List.append_nil]

/-- An attempt passes on a prefix of its events. -/
theorem runAttempt_yielded (context : AttemptContext) (route : EffectiveRoute)
    (attempt : Attempt) :
    (runAttempt runtime context route attempt).yielded <+: attempt.events := by
  have hpassed := drain_passed (.start route) attempt.events
  rw [show (AttemptState.start route).buffered = [] from rfl, List.nil_append] at hpassed
  have hconsumed := consumed_prefix attempt.events
  rw [← hpassed] at hconsumed
  unfold runAttempt finishAttempt
  dsimp only
  split
  · exact hconsumed
  · exact (List.prefix_append _ _).trans hconsumed
  · rename_i thrown _
    have hsettled := settleThrown_yielded runtime context
      (drain (.start route) attempt.events).state thrown
    exact ((List.prefix_append_right_inj _).2 hsettled).trans hconsumed

/-! ## The consumer sees one attempt -/

/-- The invocations before the last pass nothing on, and every one passes on a prefix of its
events. -/
structure SilentButLast (invocations : List Invocation) : Prop where
  silent : ∀ invocation ∈ invocations.dropLast, invocation.yielded = []
  yielded : ∀ invocation ∈ invocations, invocation.yielded <+: invocation.attempt.events

theorem silentButLast_streamPoolRequest (env : PoolEnvironment) :
    SilentButLast (streamPoolRequest runtime env).invocations := by
  refine invocations_attemptLoop runtime (motive := fun _ _ => SilentButLast) ?_ ?_ ?_ _ _ _ _
  · intro remaining tried
    exact ⟨by simp, by simp⟩
  · intro remaining rotationsUsed tried selected _
    refine ⟨by simp, ?_⟩
    intro invocation hmem
    rw [List.mem_singleton.1 hmem]
    exact runAttempt_yielded runtime _ _ _
  · intro remaining rotationsUsed tried selected lastError rest _ hrotated h
    refine ⟨?_, ?_⟩
    · intro invocation hmem
      cases rest with
      | nil => simp at hmem
      | cons next rest =>
          rw [List.dropLast_cons_cons] at hmem
          rcases List.mem_cons.1 hmem with rfl | hmem
          · exact (rotatedAttempt_of_rotated runtime hrotated).silent
          · exact h.silent invocation hmem
    · intro invocation hmem
      rcases List.mem_cons.1 hmem with rfl | hmem
      · exact runAttempt_yielded runtime _ _ _
      · exact h.yielded invocation hmem

/-- The consumer sees nothing before the last attempt, and of the last one a prefix of its events:
nothing of it is dropped from the middle, repeated or reordered. -/
theorem streamPoolRequest_single_attempt (env : PoolEnvironment) :
    let run := streamPoolRequest runtime env
    (∀ invocation ∈ run.invocations.dropLast, invocation.yielded = []) ∧
      (run.invocations = [] → run.streamed = []) ∧
        ∀ last ∈ run.invocations.getLast?, run.streamed = last.yielded ∧
          run.streamed <+: last.attempt.events := by
  intro run
  have hrun : SilentButLast run.invocations := silentButLast_streamPoolRequest runtime env
  refine ⟨hrun.silent, ?_, ?_⟩
  · intro hnone
    rw [PoolRun.streamed, hnone, List.flatMap_nil]
  · intro last hlast
    have hsplit : run.invocations = run.invocations.dropLast ++ [last] :=
      (List.dropLast_append_getLast? last hlast).symm
    have hstreamed : run.streamed = last.yielded := by
      rw [PoolRun.streamed, hsplit, List.flatMap_append, List.flatMap_singleton]
      have hnothing : run.invocations.dropLast.flatMap (·.yielded) = [] :=
        List.flatMap_eq_nil_iff.2 hrun.silent
      rw [hnothing, List.nil_append]
    rw [hstreamed]
    exact ⟨rfl, hrun.yielded last (List.mem_of_getLast? hlast)⟩

/-! ## No replay after commitment -/

/-- Whether an event commits the attempt it belongs to. -/
def commits (payload : EventPayload) : Bool :=
  isResponseStarted payload || isOutputOrToolEvent payload

/-- The attempt yielded a committing event before it ended. -/
def Attempt.Committed (attempt : Attempt) : Prop :=
  ∃ event ∈ consumed attempt.events, commits event.payload = true

/-- The one way to rotate after commitment: the response has started, without output and without a
failed event, and the adapter then throws a retryable provider failure that declares `not-sent`. -/
structure Attempt.Leaks (attempt : Attempt) : Prop where
  started : ∃ event ∈ attempt.events, isResponseStarted event.payload = true
  noOutput : ∀ event ∈ attempt.events, isOutputOrToolEvent event.payload = false
  noFailure : ∀ event ∈ attempt.events, failureOf event.payload = none
  thrown : ∃ thrown, attempt.ending = some thrown ∧ thrown.isRouteError = false ∧
    isAbortError thrown = false ∧ commitmentOf thrown = .notSent ∧
      (classifyProviderFailure thrown.code? = .auth ∨
        classifyProviderFailure thrown.code? = .quota ∨
          classifyProviderFailure thrown.code? = .transient)

/-- Without a failed event every event is consumed. -/
theorem consumed_of_drain_failed {state : AttemptState} {events : List CanonicalEvent}
    (h : (drain state events).failed = none) :
    consumed events = events ∧ ∀ event ∈ events, failureOf event.payload = none := by
  induction events generalizing state with
  | nil => exact ⟨rfl, by simp⟩
  | cons event events ih =>
      cases hfailure : failureOf event.payload with
      | some failure =>
          simp only [drain, hfailure] at h
          cases h
      | none =>
          simp only [drain, hfailure] at h
          obtain ⟨hrest, hnone⟩ := ih h
          refine ⟨?_, List.forall_mem_cons.2 ⟨hfailure, hnone⟩⟩
          simp only [consumed, hfailure, hrest]

theorem consumed_of_forall {events : List CanonicalEvent}
    (h : ∀ event ∈ events, failureOf event.payload = none) : consumed events = events := by
  induction events with
  | nil => rfl
  | cons event events ih =>
      obtain ⟨hfailure, hrest⟩ := List.forall_mem_cons.1 h
      simp only [consumed, hfailure, ih hrest]

@[simp] theorem observe_route (state : AttemptState) (event : CanonicalEvent) :
    (state.observe event).2.route = markOutput state.route event.payload := by
  unfold AttemptState.observe
  dsimp only
  split
  · rfl
  · split <;> rfl

@[simp] theorem observe_commitment (state : AttemptState) (event : CanonicalEvent) :
    (state.observe event).2.commitment = commitmentAfter state.commitment event.payload := by
  unfold AttemptState.observe
  dsimp only
  split
  · rfl
  · split <;> rfl

/-- A route without output after draining saw no output or tool event. -/
theorem drain_noOutput {state : AttemptState} {events : List CanonicalEvent}
    (h : (drain state events).state.route.outputStarted = false) :
    state.route.outputStarted = false ∧
      ∀ event ∈ consumed events, isOutputOrToolEvent event.payload = false := by
  induction events generalizing state with
  | nil => exact ⟨h, by simp [consumed]⟩
  | cons event events ih =>
      -- output that has started stays started
      have hstep : (state.observe event).2.route.outputStarted = false →
          state.route.outputStarted = false ∧ isOutputOrToolEvent event.payload = false := by
        rw [observe_route, outputStarted_markOutput, Bool.or_eq_false_iff]
        exact id
      cases hfailure : failureOf event.payload with
      | some failure =>
          simp only [drain, hfailure] at h
          obtain ⟨hroute, hevent⟩ := hstep h
          refine ⟨hroute, ?_⟩
          simp only [consumed, hfailure, List.mem_singleton, forall_eq]
          exact hevent
      | none =>
          simp only [drain, hfailure] at h
          obtain ⟨hnext, hrest⟩ := ih h
          obtain ⟨hroute, hevent⟩ := hstep hnext
          refine ⟨hroute, ?_⟩
          simp only [consumed, hfailure]
          exact List.forall_mem_cons.2 ⟨hevent, hrest⟩

/-- An acceptance is never taken back. -/
theorem accepted_commitmentAfter {commitment : CommitmentState} {payload : EventPayload}
    (h : failureCommitment commitment = .providerAccepted) :
    failureCommitment (commitmentAfter commitment payload) = .providerAccepted := by
  unfold commitmentAfter
  split
  · split <;> [rfl; exact h]
  · split <;> [rfl; exact h]
  · rfl
  · rfl
  · exact h

theorem accepted_drain {state : AttemptState} {events : List CanonicalEvent}
    (h : failureCommitment state.commitment = .providerAccepted) :
    failureCommitment (drain state events).state.commitment = .providerAccepted := by
  induction events generalizing state with
  | nil => exact h
  | cons event events ih =>
      have hnext : failureCommitment (state.observe event).2.commitment = .providerAccepted := by
        rw [observe_commitment]
        exact accepted_commitmentAfter h
      cases hfailure : failureOf event.payload with
      | some failure =>
          simp only [drain, hfailure]
          exact hnext
      | none =>
          simp only [drain, hfailure]
          exact ih hnext

/-- From no evidence, an event gives an acceptance or leaves no evidence and starts no response. -/
theorem commitmentAfter_notSent (payload : EventPayload) :
    failureCommitment (commitmentAfter .notSent payload) = .providerAccepted ∨
      (commitmentAfter .notSent payload = .notSent ∧ isResponseStarted payload = false) := by
  unfold commitmentAfter
  split
  · exact Or.inl rfl
  · split <;> [exact Or.inl rfl; exact Or.inr ⟨rfl, rfl⟩]
  · exact Or.inl rfl
  · exact Or.inl rfl
  · rename_i hstarted _ _ _
    refine Or.inr ⟨rfl, ?_⟩
    cases payload with
    | responseStarted responseId => exact absurd rfl (hstarted responseId)
    | _ => rfl

/-- An attempt without evidence after draining saw no started response. -/
theorem drain_notStarted {state : AttemptState} {events : List CanonicalEvent}
    (hstart : state.commitment = .notSent)
    (h : failureCommitment (drain state events).state.commitment = .notSent) :
    ∀ event ∈ consumed events, isResponseStarted event.payload = false := by
  induction events generalizing state with
  | nil => simp [consumed]
  | cons event events ih =>
      have hevidence := commitmentAfter_notSent event.payload
      rw [← hstart, ← observe_commitment] at hevidence
      cases hfailure : failureOf event.payload with
      | some failure =>
          simp only [drain, hfailure] at h
          simp only [consumed, hfailure, List.mem_singleton, forall_eq]
          rcases hevidence with haccepted | ⟨-, hevent⟩
          · rw [haccepted] at h
            cases h
          · exact hevent
      | none =>
          simp only [drain, hfailure] at h
          simp only [consumed, hfailure]
          rcases hevidence with haccepted | ⟨hnext, hevent⟩
          · rw [accepted_drain haccepted] at h
            cases h
          · exact List.forall_mem_cons.2 ⟨hevent, ih (hnext.trans hstart) h⟩

/-- An attempt that is rotated away had committed only if it leaks. -/
theorem RotatedAttempt.committed_iff_leaks {context : AttemptContext} {route : EffectiveRoute}
    {attempt : Attempt} (h : RotatedAttempt runtime context route attempt) :
    attempt.Committed ↔ attempt.Leaks := by
  have hnoOutput := (drain_noOutput h.noOutput).2
  constructor
  · rintro ⟨event, hevent, hcommits⟩
    unfold commits at hcommits
    rw [hnoOutput event hevent, Bool.or_false] at hcommits
    -- the evidence of the attempt itself excludes a start; only a thrown error can hide one
    rcases h.evidence with hnotSent | ⟨hfailed, hthrown⟩
    · rw [drain_notStarted rfl hnotSent event hevent] at hcommits
      cases hcommits
    · obtain ⟨hconsumed, hnoFailure⟩ := consumed_of_drain_failed hfailed
      rw [hconsumed] at hevent hnoOutput
      exact ⟨⟨event, hevent, hcommits⟩, hnoOutput, hnoFailure, hthrown⟩
  · intro hleaks
    obtain ⟨event, hevent, hstarted⟩ := hleaks.started
    refine ⟨event, ?_, ?_⟩
    · rw [consumed_of_forall hleaks.noFailure]
      exact hevent
    · rw [commits, hstarted, Bool.true_or]

/-- What the accounts of a loop's invocations satisfy, given the accounts already tried. -/
structure FreshAccounts (remaining : ℕ) (tried : List String) (invocations : List Invocation) :
    Prop where
  distinct : (invocations.map (·.route.accountId)).Nodup
  fresh : ∀ invocation ∈ invocations, invocation.route.accountId ∉ tried
  bounded : invocations.length ≤ remaining

theorem freshAccounts_streamPoolRequest {env : PoolEnvironment}
    (hselect : ∀ attempt tried selected, env.select attempt tried = .ok selected →
      selected.route.accountId ∉ tried) :
    FreshAccounts (env.retryBudget + 1) [] (streamPoolRequest runtime env).invocations := by
  refine invocations_attemptLoop runtime (motive := FreshAccounts) ?_ ?_ ?_ _ _ _ _
  · intro remaining tried
    exact ⟨List.nodup_nil, by simp, Nat.zero_le _⟩
  · intro remaining rotationsUsed tried selected hselected
    refine ⟨List.nodup_singleton _, ?_, by simp⟩
    intro invocation hmem
    rw [List.mem_singleton.1 hmem]
    exact hselect _ _ _ hselected
  · intro remaining rotationsUsed tried selected lastError rest hselected _ h
    refine ⟨?_, ?_, ?_⟩
    -- the account just tried is excluded from every selection that follows
    · rw [List.map_cons, List.nodup_cons]
      refine ⟨?_, h.distinct⟩
      intro hmem
      obtain ⟨invocation, hinvocation, hsame⟩ := List.mem_map.1 hmem
      have hnew := h.fresh invocation hinvocation
      rw [hsame, List.mem_append, not_or] at hnew
      exact hnew.2 (List.mem_singleton_self _)
    · intro invocation hmem
      rcases List.mem_cons.1 hmem with rfl | hmem
      · exact hselect _ _ _ hselected
      · have hnew := h.fresh invocation hmem
        rw [List.mem_append, not_or] at hnew
        exact hnew.1
    · have hrest := h.bounded
      rw [List.length_cons]
      omega

/-- Every invocation that another one follows was rotated away. -/
theorem rotated_of_mem_dropLast (env : PoolEnvironment) :
    ∀ invocation ∈ (streamPoolRequest runtime env).invocations.dropLast,
      ∃ context, RotatedAttempt runtime context invocation.route invocation.attempt := by
  refine invocations_attemptLoop runtime (motive := fun _ _ invocations =>
    ∀ invocation ∈ invocations.dropLast,
      ∃ context, RotatedAttempt runtime context invocation.route invocation.attempt)
    ?_ ?_ ?_ _ _ _ _
  · simp
  · simp
  · intro remaining rotationsUsed tried selected lastError rest _ hrotated h invocation hmem
    cases rest with
    | nil => simp at hmem
    | cons next rest =>
        rw [List.dropLast_cons_cons] at hmem
        rcases List.mem_cons.1 hmem with rfl | hmem
        · exact ⟨_, rotatedAttempt_of_rotated runtime hrotated⟩
        · exact h invocation hmem

/-- A run replays nothing: no account is invoked after an attempt that committed, and the accounts
are pairwise distinct and within the budget. -/
structure ReplaySafe (retryBudget : ℕ) (run : PoolRun) : Prop where
  noReplay : ∀ invocation ∈ run.invocations.dropLast, ¬ invocation.attempt.Committed
  distinct : (run.invocations.map (·.route.accountId)).Nodup
  bounded : run.invocations.length ≤ retryBudget + 1

/-- A run over the real selector replays nothing exactly when none of the attempts it goes on from
leaks. -/
theorem replaySafe_iff (views later : ℕ → SelectorView) (input : SelectInput)
    (invoke : ℕ → EffectiveRoute → Attempt)
    (record : ℕ → RecordPhase → Except StoreFailure RecordView) :
    let env := selectorEnvironment runtime views later input invoke record
    let run := streamPoolRequest runtime env
    ReplaySafe env.retryBudget run ↔
      ∀ invocation ∈ run.invocations.dropLast, ¬ invocation.attempt.Leaks := by
  intro env run
  have haccounts : FreshAccounts (env.retryBudget + 1) [] run.invocations := by
    apply freshAccounts_streamPoolRequest
    intro attempt tried selected hselected
    exact not_mem_excludeAccountIds_of_selectLocked runtime hselected
  have hrotated := rotated_of_mem_dropLast runtime env
  constructor
  · intro h invocation hmem hleaks
    obtain ⟨context, hattempt⟩ := hrotated invocation hmem
    exact h.noReplay invocation hmem ((hattempt.committed_iff_leaks runtime).2 hleaks)
  · intro h
    refine ⟨?_, haccounts.distinct, haccounts.bounded⟩
    intro invocation hmem hcommitted
    obtain ⟨context, hattempt⟩ := hrotated invocation hmem
    exact h invocation hmem ((hattempt.committed_iff_leaks runtime).1 hcommitted)

/-! ### A run that replays -/

/-- A ready account with a credential of generation one. -/
def readyAccount (id : String) : AccountRecord :=
  ⟨id, "acct-" ++ id, "codex", "cred-" ++ id, 1, .ready, "healthy", none, none⟩

/-- A request over a fill-first pool of two ready accounts that may rotate once. -/
def twoAccountInput : SelectInput where
  requestId := "req"
  poolId := "pool"
  policy :=
    { revision := 1
      hash := "hash"
      providers := [⟨"codex", "Codex", none, true⟩]
      accounts := [readyAccount "a", readyAccount "b"]
      pools := [⟨"pool", "Pool", "codex", .fillFirst, .obj [], 1, [⟨"a", some 0⟩, ⟨"b", some 1⟩]⟩] }
  required := []
  capabilities := ⟨true, true, false, false, false, false, false, .unsupported⟩
  modelId := "gpt-5"
  adapterId := "codex"
  credentialSnapshots := [("cred-a", ⟨true, 1, none⟩), ("cred-b", ⟨true, 1, none⟩)]
  sessionKey := none
  pinnedAccountId := none
  excludeAccountIds := []
  reasoningEvidence := none
  resolvedReasoning := none

/-- The live store lists what the policy does. -/
def twoAccountView : SelectorView where
  store := ⟨twoAccountInput.policy.accounts, twoAccountInput.policy.providers, []⟩
  sessions := []
  cursors := .empty
  now := 0

/-- An event of the request. -/
def poolEvent (payload : EventPayload) : CanonicalEvent :=
  { requestId := "req"
    sequence := 0
    timestamp := "1970-01-01T00:00:00.000Z"
    providerId := "codex"
    modelId := "gpt-5"
    payload }

/-- The first account starts a response and then throws an error that declares `not-sent`. -/
def startThenThrow : Attempt where
  events := [poolEvent (.responseStarted "resp")]
  ending := some (.providerAdapterError ⟨"api_error", "Provider request failed", none, .notSent⟩)

/-- The run in which the second account is invoked after that. -/
def replayingRun : PoolRun :=
  streamPoolRequest isoRuntime
    (selectorEnvironment isoRuntime (fun _ => twoAccountView) (fun _ => twoAccountView)
      twoAccountInput
      (fun attempt _ => if attempt = 0 then startThenThrow
        else ⟨[poolEvent (.responseStarted "resp"), poolEvent (.responseCompleted "end_turn")], none⟩)
      (fun _ _ => .ok ⟨0, "healthy"⟩))

theorem replayingRun_not_replaySafe : ¬ ReplaySafe 1 replayingRun := by
  intro h
  have hreplayed : (replayingRun.invocations.dropLast.any fun invocation =>
      (consumed invocation.attempt.events).any fun event => commits event.payload) = true := by
    decide
  obtain ⟨invocation, hmem, hany⟩ := List.any_eq_true.1 hreplayed
  obtain ⟨event, hevent, hcommits⟩ := List.any_eq_true.1 hany
  exact h.noReplay invocation hmem ⟨event, hevent, hcommits⟩

end RlyGateway
