import RlyGateway.Core.CanonicalEvent
import RlyGateway.Routing.Pools.Selector

/-!
# Execution of a request over a pool

`streamPoolRequest` invokes one account after the other until an attempt succeeds or cannot be
rotated. The events of an attempt are buffered until its output starts and then passed on live, so
a rotated attempt is never seen. What the selector, the store and the adapters do in a run is its
environment, indexed by the number of the attempt.
-/

namespace RlyGateway

variable (runtime : NodeRuntime)

/-! ## Retry policy -/

/-- Whether an event is client-visible output or a tool event. -/
def isOutputOrToolEvent : EventPayload → Bool
  | .textDelta _ _ => true
  | .reasoningDelta _ _ => true
  | .toolArgumentsDelta _ _ _ => true
  | .contentStarted _ contentType _ _ _ => contentType = .toolCall
  | _ => false

/-- What the decision to rotate takes. -/
structure RotationInput where
  outputStarted : Bool
  rotationsUsed : ℕ
  retryBudget : ℕ
  outcome : RouteOutcomeClass
  commitment : CommitmentState
deriving DecidableEq, Repr

/-- Whether another account may be tried. -/
def canRotate (input : RotationInput) : Bool :=
  if input.outputStarted then false
  else if input.retryBudget ≤ input.rotationsUsed then false
  else if !commitmentAllowsRetry input.commitment then false
  else input.outcome = .auth ∨ input.outcome = .quota ∨ input.outcome = .transient

/-- A rotation is made without output, on `not-sent` evidence and for a retryable outcome. -/
theorem canRotate_eq_true {input : RotationInput} (h : canRotate input = true) :
    input.outputStarted = false ∧ input.commitment = .notSent ∧
      (input.outcome = .auth ∨ input.outcome = .quota ∨ input.outcome = .transient) := by
  unfold canRotate at h
  split at h
  · cases h
  rename_i houtput
  split at h
  · cases h
  split at h
  · cases h
  rename_i hcommitment
  refine ⟨Bool.eq_false_of_not_eq_true houtput, ?_, of_decide_eq_true h⟩
  simpa [commitmentAllowsRetry] using hcommitment

/-! ## The environment of a run -/

/-- One invocation of an adapter: the events its iterator yields, and what it throws at the end. -/
structure Attempt where
  events : List CanonicalEvent
  ending : Option Thrown

/-- An error of the control-plane store. -/
structure StoreFailure where
  name : String
  message : String
  code : Option String

/-- The store's error as it is thrown. -/
def StoreFailure.thrown (failure : StoreFailure) : Thrown :=
  .error failure.name failure.message failure.code

/-- Where an outcome is recorded: in the attempt itself or in its `catch` block. -/
inductive RecordPhase where
  | inBody
  | inCatch

/-- What recording an outcome reads: the store's clock and the account's quota class. -/
structure RecordView where
  now : ℤ
  quotaClass : String

/-- What the executor's collaborators do in a run, by the number of the attempt. -/
structure PoolEnvironment where
  requestId : String
  retryBudget : ℕ
  cooldownSeconds : CooldownSeconds
  select : ℕ → List String → Except Thrown SelectResult
  revalidate : ℕ → EffectiveRoute → Option Thrown
  invoke : ℕ → EffectiveRoute → Attempt
  record : ℕ → RecordPhase → Except StoreFailure RecordView

/-! ## One attempt -/

/-- The state of an attempt while its events are consumed. Once it is live its output has started
and nothing is buffered. -/
structure AttemptState where
  route : EffectiveRoute
  buffered : List CanonicalEvent
  live : Bool
  commitment : CommitmentState
  terminal : Bool
  outputStarted_of_live : live = true → route.outputStarted = true
  buffered_of_live : live = true → buffered = []

/-- The state before the first event. -/
def AttemptState.start (route : EffectiveRoute) : AttemptState where
  route := route
  buffered := []
  live := false
  commitment := .notSent
  terminal := false
  outputStarted_of_live := by simp
  buffered_of_live := by simp

/-- The route after an event, sealed by the first output or tool event. -/
def markOutput (route : EffectiveRoute) (payload : EventPayload) : EffectiveRoute :=
  if !route.outputStarted ∧ isOutputOrToolEvent payload then { route with outputStarted := true }
  else route

/-- The commitment evidence after an event. -/
def commitmentAfter (commitment : CommitmentState) : EventPayload → CommitmentState
  | .responseStarted _ => if commitment = .notSent then .providerAccepted else commitment
  | .contentStarted _ contentType _ _ _ =>
      if contentType = .toolCall then .toolBoundary else commitment
  | .textDelta _ _ | .reasoningDelta _ _ => .clientOutputStarted
  | _ => commitment

theorem outputStarted_markOutput (route : EffectiveRoute) (payload : EventPayload) :
    (markOutput route payload).outputStarted =
      (route.outputStarted || isOutputOrToolEvent payload) := by
  unfold markOutput
  cases h : route.outputStarted <;> cases isOutputOrToolEvent payload <;> simp [h]

/-- One event: what is passed on to the consumer, and the next state. -/
def AttemptState.observe (state : AttemptState) (event : CanonicalEvent) :
    List CanonicalEvent × AttemptState :=
  let route := markOutput state.route event.payload
  let commitment := commitmentAfter state.commitment event.payload
  let terminal := state.terminal || isTerminal event.payload
  if hlive : state.live = true then
    ([event], { state with
      route, commitment, terminal
      outputStarted_of_live := by
        intro _
        rw [outputStarted_markOutput, state.outputStarted_of_live hlive, Bool.true_or] })
  else if hstarted : route.outputStarted = true then
    -- the buffer is flushed, and later events are passed on as they come
    (state.buffered ++ [event], { state with
      route, commitment, terminal
      live := true
      buffered := []
      outputStarted_of_live := fun _ => hstarted
      buffered_of_live := fun _ => rfl })
  else
    ([], { state with
      route, commitment, terminal
      buffered := state.buffered ++ [event]
      outputStarted_of_live := fun h => absurd h hlive
      buffered_of_live := fun h => absurd h hlive })

/-- The result of consuming the events of an attempt up to its first failed event. -/
structure Drained where
  passed : List CanonicalEvent
  state : AttemptState
  failed : Option (String × String)

/-- The code and the message of a failed event. -/
def failureOf : EventPayload → Option (String × String)
  | .responseFailed code message => some (code, message)
  | _ => none

/-- Consume events; a failed event is the last one consumed. -/
def drain (state : AttemptState) : List CanonicalEvent → Drained
  | [] => ⟨[], state, none⟩
  | event :: events =>
      let (passed, next) := state.observe event
      match failureOf event.payload with
      | some failure => ⟨passed, next, some failure⟩
      | none =>
          let rest := drain next events
          ⟨passed ++ rest.passed, rest.state, rest.failed⟩

/-- What the handling of an attempt takes besides its events. -/
structure AttemptContext where
  rotationsUsed : ℕ
  retryBudget : ℕ
  cooldownSeconds : CooldownSeconds
  record : RecordPhase → Except StoreFailure RecordView

/-- An outcome as it is recorded for an account. -/
abbrev RecordedOutcome := String × RouteOutcomeInput

/-- Record an outcome for the account of a route. -/
def recordOutcome (context : AttemptContext) (phase : RecordPhase) (route : EffectiveRoute)
    (outcome : RouteOutcomeClass) : Except StoreFailure RecordedOutcome := do
  let view ← context.record phase
  return (route.accountId,
    { outcome
      quotaClass := nextQuotaClass outcome view.quotaClass
      cooldownUntil := if outcome = .success then none
        else cooldownUntilFor runtime outcome view.now context.cooldownSeconds })

/-- How the attempt's own code ends. -/
inductive BodyEnd where
  | finished
  | rotated (lastError : Thrown)
  | raised (thrown : Thrown)

/-- The commitment of a failure that the provider reported or that cut the stream off. -/
def failureCommitment (commitment : CommitmentState) : CommitmentState :=
  if commitment = .providerAccepted ∨ commitment = .clientOutputStarted ∨
    commitment = .toolBoundary then .providerAccepted else .notSent

/-- The end of an attempt by a failed event or a truncated stream. -/
def failAttempt (context : AttemptContext) (state : AttemptState) (outcome : RouteOutcomeClass)
    (code message : String) : List RecordedOutcome × BodyEnd :=
  match recordOutcome runtime context .inBody state.route outcome with
  | .error failure => ([], .raised failure.thrown)
  | .ok entry =>
      let commitment := failureCommitment state.commitment
      let lastError := Thrown.routeFailure outcome ⟨code, message, none, commitment⟩
      if canRotate ⟨state.route.outputStarted, context.rotationsUsed, context.retryBudget, outcome,
          commitment⟩ then ([entry], .rotated lastError)
      else ([entry], .raised (if state.route.outputStarted then .routeSealed else lastError))

/-- The end of the attempt's own code after its events are consumed. -/
def attemptBody (context : AttemptContext) (drained : Drained) (ending : Option Thrown) :
    List RecordedOutcome × BodyEnd :=
  match drained.failed, ending with
  | some (code, message), _ =>
      failAttempt runtime context drained.state (classifyProviderFailure (some code)) code message
  | none, some thrown => ([], .raised thrown)
  | none, none =>
      if !drained.state.terminal then
        failAttempt runtime context drained.state .transient "incomplete-stream"
          "Provider stream ended without a terminal response"
      else match recordOutcome runtime context .inBody drained.state.route .success with
        | .error failure => ([], .raised failure.thrown)
        | .ok entry => ([entry], .finished)

/-- How an attempt ends for the executor. -/
inductive AttemptEnd where
  | finished
  | rotated (lastError : Thrown)
  | thrown (thrown : Thrown)

/-- What an attempt does: the events passed to the consumer, the outcomes recorded, its end. -/
structure AttemptResult where
  yielded : List CanonicalEvent
  recorded : List RecordedOutcome
  ending : AttemptEnd

/-- The error a thrown value is kept as. -/
def lastErrorOf : Thrown → Thrown
  | .nonError => .error "Error" "provider invoke failed" none
  | thrown => thrown

/-- The `catch` block: what it flushes and records, and how the attempt ends. -/
def settleThrown (context : AttemptContext) (state : AttemptState) (thrown : Thrown) :
    AttemptResult :=
  if thrown.isRouteError then ⟨state.buffered, [], .thrown thrown⟩
  else if isAbortError thrown then ⟨[], [], .thrown thrown⟩
  else
    let outcome := classifyProviderFailure thrown.code?
    match recordOutcome runtime context .inCatch state.route outcome with
    | .error failure => ⟨[], [], .thrown failure.thrown⟩
    | .ok entry =>
        -- the commitment is the error's own; the evidence of the attempt is not consulted
        if canRotate ⟨state.route.outputStarted, context.rotationsUsed, context.retryBudget,
            outcome, commitmentOf thrown⟩ then ⟨[], [entry], .rotated (lastErrorOf thrown)⟩
        else ⟨state.buffered, [entry], .thrown (lastErrorOf thrown)⟩

/-- The result of an attempt whose own code has ended. -/
def finishAttempt (context : AttemptContext) (drained : Drained) (recorded : List RecordedOutcome) :
    BodyEnd → AttemptResult
  | .finished => ⟨drained.passed ++ drained.state.buffered, recorded, .finished⟩
  | .rotated lastError => ⟨drained.passed, recorded, .rotated lastError⟩
  | .raised thrown =>
      let settled := settleThrown runtime context drained.state thrown
      ⟨drained.passed ++ settled.yielded, recorded ++ settled.recorded, settled.ending⟩

/-- One attempt over a route. -/
def runAttempt (context : AttemptContext) (route : EffectiveRoute) (attempt : Attempt) :
    AttemptResult :=
  let drained := drain (.start route) attempt.events
  let body := attemptBody runtime context drained attempt.ending
  finishAttempt runtime context drained body.1 body.2

/-! ## The loop -/

/-- One invocation of a run, with what was passed to the consumer while it lasted. -/
structure Invocation where
  route : EffectiveRoute
  attempt : Attempt
  yielded : List CanonicalEvent

/-- A run of the executor. -/
structure PoolRun where
  invocations : List Invocation
  traces : List DecisionTrace
  recorded : List RecordedOutcome
  result : Except Thrown Unit

/-- The events the consumer sees. -/
def PoolRun.streamed (run : PoolRun) : List CanonicalEvent :=
  run.invocations.flatMap (·.yielded)

/-- Whether an error says that no account is eligible. -/
def isNoEligibleAccount : Thrown → Bool
  | .noEligibleAccount _ => true
  | _ => false

/-- The context of an attempt of a run. -/
def PoolEnvironment.context (env : PoolEnvironment) (rotationsUsed : ℕ) : AttemptContext :=
  ⟨rotationsUsed, env.retryBudget, env.cooldownSeconds, env.record rotationsUsed⟩

/-- The attempt made over a route of a run. -/
def PoolEnvironment.attempt (env : PoolEnvironment) (rotationsUsed : ℕ) (route : EffectiveRoute) :
    AttemptResult :=
  runAttempt runtime (env.context rotationsUsed) route (env.invoke rotationsUsed route)

/-- The invocation made over a route of a run. -/
def PoolEnvironment.invocation (env : PoolEnvironment) (rotationsUsed : ℕ)
    (route : EffectiveRoute) : Invocation :=
  ⟨route, env.invoke rotationsUsed route, (env.attempt runtime rotationsUsed route).yielded⟩

/-- The attempts that remain. -/
def attemptLoop (env : PoolEnvironment) (remaining rotationsUsed : ℕ) (tried : List String)
    (lastError : Option Thrown) : PoolRun :=
  match remaining with
  -- reached after a rotation only, so there is a last error
  | 0 => ⟨[], [], [], .error (lastError.getD (.noEligibleAccount env.requestId))⟩
  | remaining + 1 =>
    match env.select rotationsUsed tried with
    | .error thrown =>
        ⟨[], [], [],
          .error (if isNoEligibleAccount thrown then lastError.getD thrown else thrown)⟩
    | .ok ⟨route, trace⟩ =>
      match env.revalidate rotationsUsed route with
      | some thrown => ⟨[], [trace], [], .error thrown⟩
      | none =>
        let result := env.attempt runtime rotationsUsed route
        let invocation := env.invocation runtime rotationsUsed route
        match result.ending with
        | .finished => ⟨[invocation], [trace], result.recorded, .ok ()⟩
        | .thrown thrown => ⟨[invocation], [trace], result.recorded, .error thrown⟩
        | .rotated lastError =>
            let rest := attemptLoop env remaining (rotationsUsed + 1) (tried ++ [route.accountId])
              (some lastError)
            ⟨invocation :: rest.invocations, trace :: rest.traces,
              result.recorded ++ rest.recorded, rest.result⟩

/-- The run of a request. -/
def streamPoolRequest (env : PoolEnvironment) : PoolRun :=
  attemptLoop runtime env (env.retryBudget + 1) 0 [] none

/-- The environment of a run over the real selector: `views` is what each selection reads, `later`
what the check just before each attempt reads. -/
def selectorEnvironment (views later : ℕ → SelectorView) (input : SelectInput)
    (invoke : ℕ → EffectiveRoute → Attempt)
    (record : ℕ → RecordPhase → Except StoreFailure RecordView) : PoolEnvironment :=
  let pool := input.policy.pools.find? (·.id = input.poolId)
  { requestId := input.requestId
    retryBudget := pool.elim 0 (·.retryBudget)
    cooldownSeconds := (parseAffinity (pool.elim .null (·.affinity))).cooldownSeconds
    select := fun attempt tried =>
      (selectLocked runtime (views attempt) { input with excludeAccountIds := tried }).1
    revalidate := fun attempt route => revalidate runtime (later attempt) route input
    invoke
    record }

/-- The induction over a run: the invocations of a loop are none, or the last one, or one that was
rotated away followed by those of the loop with one account more to exclude. -/
theorem invocations_attemptLoop {env : PoolEnvironment}
    {motive : ℕ → List String → List Invocation → Prop}
    (idle : ∀ remaining tried, motive remaining tried [])
    (last : ∀ remaining rotationsUsed tried selected,
      env.select rotationsUsed tried = .ok selected →
        motive (remaining + 1) tried [env.invocation runtime rotationsUsed selected.route])
    (rotated : ∀ remaining rotationsUsed tried selected lastError rest,
      env.select rotationsUsed tried = .ok selected →
        (env.attempt runtime rotationsUsed selected.route).ending = .rotated lastError →
          motive remaining (tried ++ [selected.route.accountId]) rest →
            motive (remaining + 1) tried
              (env.invocation runtime rotationsUsed selected.route :: rest))
    (remaining rotationsUsed : ℕ) (tried : List String) (lastError : Option Thrown) :
    motive remaining tried
      (attemptLoop runtime env remaining rotationsUsed tried lastError).invocations := by
  -- on the attempts that remain, whatever the attempt so far
  induction remaining generalizing rotationsUsed tried lastError with
  | zero => exact idle 0 tried
  | succ remaining ih =>
      unfold attemptLoop
      split
      · exact idle _ tried
      rename_i route trace hselect
      split
      · exact idle _ tried
      dsimp only
      split
      · exact last remaining rotationsUsed tried ⟨route, trace⟩ hselect
      · exact last remaining rotationsUsed tried ⟨route, trace⟩ hselect
      · rename_i lastError hrotated
        exact rotated remaining rotationsUsed tried ⟨route, trace⟩ lastError _ hselect hrotated
          (ih (rotationsUsed + 1) (tried ++ [route.accountId]) (some lastError))

end RlyGateway
