import RlyGateway.Providers.HttpFailure
import RlyGateway.Routing.Pools.Cooldowns

/-!
# Failing over to another account

What a run of the executor does with an error that an adapter throws before any event: the outcome
it records and whether it goes on to another account. For a failed HTTP response both depend on the
code and the message that the body supplies and on the commitment that the adapter attaches.
-/

namespace RlyGateway

variable (runtime : NodeRuntime)

/-! ## Runs, invocation by invocation -/

section Runs

variable {env : PoolEnvironment} {remaining rotationsUsed : ℕ} {tried : List String}
  {lastError : Option Thrown}

/-- The attempts that remain make no invocation, or a last one, or one that was rotated away and
those of the loop with one account more to exclude. -/
theorem attemptLoop_succ_cases :
    let run := attemptLoop runtime env (remaining + 1) rotationsUsed tried lastError
    run.invocations = [] ∨ ∃ route : EffectiveRoute,
      let result := env.attempt runtime rotationsUsed route
      (run.invocations = [env.invocation runtime rotationsUsed route] ∧
          run.recorded = result.recorded ∧ ∀ error, result.ending ≠ .rotated error) ∨
        ∃ error, result.ending = .rotated error ∧
          let rest := attemptLoop runtime env remaining (rotationsUsed + 1)
            (tried ++ [route.accountId]) (some error)
          run.invocations = env.invocation runtime rotationsUsed route :: rest.invocations ∧
            run.recorded = result.recorded ++ rest.recorded := by
  intro run
  have hrun : run = attemptLoop runtime env (remaining + 1) rotationsUsed tried lastError := rfl
  unfold attemptLoop at hrun
  split at hrun
  · exact Or.inl (by rw [hrun])
  rename_i route trace _
  split at hrun
  · exact Or.inl (by rw [hrun])
  refine Or.inr ⟨route, ?_⟩
  dsimp only at hrun ⊢
  split at hrun
  case h_1 hfinished => exact Or.inl ⟨by rw [hrun], by rw [hrun], by simp [hfinished]⟩
  case h_2 thrown hthrown => exact Or.inl ⟨by rw [hrun], by rw [hrun], by simp [hthrown]⟩
  case h_3 error hrotated => exact Or.inr ⟨error, hrotated, by rw [hrun], by rw [hrun]⟩

/-- A loop with an account to select invokes it. -/
theorem attemptLoop_head {selected : SelectResult}
    (hselect : env.select rotationsUsed tried = .ok selected)
    (hrevalidate : env.revalidate rotationsUsed selected.route = none) :
    (attemptLoop runtime env (remaining + 1) rotationsUsed tried lastError).invocations[0]? =
      some (env.invocation runtime rotationsUsed selected.route) := by
  obtain ⟨route, trace⟩ := selected
  unfold attemptLoop
  rw [hselect]
  simp only [hrevalidate]
  split <;> rfl

/-- The accounts a run has used up to an invocation. -/
def PoolRun.triedUpTo (run : PoolRun) (n : ℕ) : List String :=
  (run.invocations.take (n + 1)).map (·.route.accountId)

/-- What holds of the `n`th invocation of a loop: it is that of its attempt, what the attempt records
is recorded by the run, another one follows only after a rotation, and after a rotation an account
that can be selected is invoked next. -/
structure InvocationFollows (env : PoolEnvironment) (remaining rotationsUsed : ℕ)
    (tried : List String) (run : PoolRun) (n : ℕ) (invocation : Invocation) : Prop where
  attempted : invocation = env.invocation runtime (rotationsUsed + n) invocation.route
  recorded : (env.attempt runtime (rotationsUsed + n) invocation.route).recorded.Sublist run.recorded
  rotated : ∀ later, run.invocations[n + 1]? = some later → ∃ error,
    (env.attempt runtime (rotationsUsed + n) invocation.route).ending = .rotated error
  goesOn : ∀ error next,
    (env.attempt runtime (rotationsUsed + n) invocation.route).ending = .rotated error →
    n + 1 < remaining →
    env.select (rotationsUsed + n + 1) (tried ++ run.triedUpTo n) = .ok next →
    env.revalidate (rotationsUsed + n + 1) next.route = none →
    run.invocations[n + 1]? = some (env.invocation runtime (rotationsUsed + n + 1) next.route)

theorem invocationFollows_attemptLoop {n : ℕ} {invocation : Invocation}
    (h : (attemptLoop runtime env remaining rotationsUsed tried lastError).invocations[n]? =
      some invocation) :
    InvocationFollows runtime env remaining rotationsUsed tried
      (attemptLoop runtime env remaining rotationsUsed tried lastError) n invocation := by
  -- on the attempts that remain, whatever the attempt so far
  induction remaining generalizing n rotationsUsed tried lastError with
  | zero => cases h
  | succ remaining ih =>
      rcases attemptLoop_succ_cases runtime with
        hnone | ⟨route, ⟨hlast, hrecorded, hending⟩ | ⟨error, hrotated, hmore, hrecorded⟩⟩
      · rw [hnone] at h
        cases h
      · rw [hlast] at h
        rcases n with - | n
        · cases h
          refine ⟨rfl, ?_, ?_, fun error _ hrotated => absurd hrotated (hending error)⟩
          · rw [hrecorded]
            exact List.Sublist.refl _
          · intro later hlater
            rw [hlast] at hlater
            cases hlater
        · cases h
      · rw [hmore] at h
        rcases n with - | n
        · cases h
          refine ⟨rfl, ?_, fun _ _ => ⟨error, hrotated⟩, ?_⟩
          · rw [hrecorded]
            exact List.sublist_append_left _ _
          · intro _ next _ hremaining hselect hrevalidate
            rw [PoolRun.triedUpTo, hmore] at hselect
            obtain ⟨left, rfl⟩ : ∃ left, remaining = left + 1 := ⟨remaining - 1, by omega⟩
            rw [hmore]
            exact attemptLoop_head runtime hselect hrevalidate
        · have hrest := ih h
          have hnumber : rotationsUsed + 1 + n = rotationsUsed + (n + 1) := by omega
          refine ⟨?_, ?_, ?_, ?_⟩
          · rw [← hnumber]
            exact hrest.attempted
          · rw [← hnumber, hrecorded]
            exact hrest.recorded.trans (List.sublist_append_right _ _)
          · intro later hlater
            rw [hmore] at hlater
            rw [← hnumber]
            exact hrest.rotated later hlater
          · intro error' next hrotated' hremaining hselect hrevalidate
            have htried : (attemptLoop runtime env (remaining + 1) rotationsUsed tried
                lastError).triedUpTo (n + 1) = route.accountId ::
                  (attemptLoop runtime env remaining (rotationsUsed + 1)
                    (tried ++ [route.accountId]) (some error)).triedUpTo n := by
              rw [PoolRun.triedUpTo, hmore]
              rfl
            rw [htried, List.append_cons, ← hnumber] at hselect
            rw [← hnumber] at hrotated' hrevalidate ⊢
            rw [hmore]
            exact hrest.goesOn error' next hrotated' (by omega) hselect hrevalidate

end Runs

/-! ## An error before any event -/

/-- The `n`th attempt of a run fails with an error before any event, over a fresh route, and what its
outcome is recorded with can be read. -/
structure FailedAt (env : PoolEnvironment) (thrown : Thrown) (n : ℕ) (failed : Invocation)
    (view : RecordView) : Prop where
  invoked : (streamPoolRequest runtime env).invocations[n]? = some failed
  attempt : failed.attempt = ⟨[], some thrown⟩
  fresh : failed.route.outputStarted = false
  view : env.record n .inCatch = .ok view

/-- In every run, an attempt that fails so is recorded with this outcome, and with no other. -/
def Records (thrown : Thrown) (outcome : RouteOutcomeClass) : Prop :=
  ∀ env n failed view, FailedAt runtime env thrown n failed view →
    ∃ input : RouteOutcomeInput, input.outcome = outcome ∧
      input.cooldownUntil = cooldownUntilFor runtime outcome view.now env.cooldownSeconds ∧
      (env.attempt runtime n failed.route).recorded = [(failed.route.accountId, input)] ∧
      [(failed.route.accountId, input)].Sublist (streamPoolRequest runtime env).recorded

/-- In every run with budget left, an attempt that fails so is followed by one over the account that
is selected next. -/
def FailsOver (thrown : Thrown) : Prop :=
  ∀ env n failed view next, FailedAt runtime env thrown n failed view → n < env.retryBudget →
    env.select (n + 1) ((streamPoolRequest runtime env).triedUpTo n) = .ok next →
    env.revalidate (n + 1) next.route = none →
    (streamPoolRequest runtime env).invocations[n + 1]? =
      some (env.invocation runtime (n + 1) next.route)

/-- The policy rotates an outcome of this class. -/
def RouteOutcomeClass.Retryable (outcome : RouteOutcomeClass) : Prop :=
  outcome = .auth ∨ outcome = .quota ∨ outcome = .transient

theorem classifyProviderFailure_ne_success (code : Option String) :
    classifyProviderFailure code ≠ .success := by
  unfold classifyProviderFailure
  repeat' split
  all_goals simp

/-- An attempt that throws before any event ends as its `catch` block does. -/
theorem runAttempt_of_thrown (context : AttemptContext) (route : EffectiveRoute) (thrown : Thrown) :
    (runAttempt runtime context route ⟨[], some thrown⟩).recorded =
        (settleThrown runtime context (.start route) thrown).recorded ∧
      (runAttempt runtime context route ⟨[], some thrown⟩).ending =
        (settleThrown runtime context (.start route) thrown).ending :=
  ⟨rfl, rfl⟩

/-- What is recorded for the code of a thrown value. -/
def thrownOutcomeInput (seconds : CooldownSeconds) (view : RecordView) (thrown : Thrown) :
    RouteOutcomeInput :=
  let outcome := classifyProviderFailure thrown.code?
  ⟨outcome, nextQuotaClass outcome view.quotaClass,
    cooldownUntilFor runtime outcome view.now seconds⟩

theorem recordOutcome_thrown {context : AttemptContext} (route : EffectiveRoute) (thrown : Thrown)
    {view : RecordView} (hview : context.record .inCatch = .ok view) :
    recordOutcome runtime context .inCatch route (classifyProviderFailure thrown.code?) =
      .ok (route.accountId, thrownOutcomeInput runtime context.cooldownSeconds view thrown) := by
  rw [recordOutcome, hview]
  simp [thrownOutcomeInput, classifyProviderFailure_ne_success, bind, Except.bind, pure, Except.pure]

/-- The `catch` block records the class of the error's code, unless the error passes for an abort. -/
theorem settleThrown_recorded {context : AttemptContext} {state : AttemptState} {thrown : Thrown}
    {view : RecordView} (hroute : thrown.isRouteError = false)
    (hview : context.record .inCatch = .ok view) :
    (settleThrown runtime context state thrown).recorded =
      if isAbortError thrown then []
      else [(state.route.accountId,
        thrownOutcomeInput runtime context.cooldownSeconds view thrown)] := by
  unfold settleThrown
  rw [hroute, if_neg Bool.false_ne_true]
  split
  · rfl
  · dsimp only
    rw [recordOutcome_thrown runtime state.route thrown hview]
    dsimp only
    split
    · rfl
    · rfl

/-- The `catch` block rotates a fresh route within the budget exactly when the error is no abort, was
not sent and has a retryable class. -/
theorem settleThrown_rotates_iff {context : AttemptContext} {state : AttemptState} {thrown : Thrown}
    {view : RecordView} (hroute : thrown.isRouteError = false)
    (hview : context.record .inCatch = .ok view) (hfresh : state.route.outputStarted = false)
    (hbudget : context.rotationsUsed < context.retryBudget) :
    (∃ error, (settleThrown runtime context state thrown).ending = .rotated error) ↔
      isAbortError thrown = false ∧ commitmentOf thrown = .notSent ∧
        (classifyProviderFailure thrown.code?).Retryable := by
  have hrotate : canRotate ⟨state.route.outputStarted, context.rotationsUsed, context.retryBudget,
      classifyProviderFailure thrown.code?, commitmentOf thrown⟩ = true ↔
        commitmentOf thrown = .notSent ∧ (classifyProviderFailure thrown.code?).Retryable := by
    have hleft : ¬ context.retryBudget ≤ context.rotationsUsed := by omega
    rw [canRotate]
    simp [hfresh, hleft, commitmentAllowsRetry, RouteOutcomeClass.Retryable]
  unfold settleThrown
  rw [hroute, if_neg Bool.false_ne_true]
  cases habort : isAbortError thrown with
  | true => simp
  | false =>
      rw [if_neg Bool.false_ne_true, ← hrotate]
      dsimp only
      rw [recordOutcome_thrown runtime state.route thrown hview]
      dsimp only
      split
      · rename_i htrue
        exact ⟨fun _ => ⟨rfl, htrue⟩, fun _ => ⟨_, rfl⟩⟩
      · rename_i hfalse
        simp [hfalse]

/-! ## What decides the outcome and the rotation -/

section Decides

variable {env : PoolEnvironment} {thrown : Thrown} {n : ℕ} {failed : Invocation} {view : RecordView}

theorem FailedAt.follows (h : FailedAt runtime env thrown n failed view) :
    InvocationFollows runtime env (env.retryBudget + 1) 0 [] (streamPoolRequest runtime env) n
      failed :=
  invocationFollows_attemptLoop runtime h.invoked

/-- The attempt that fails is the one the run makes over its route. -/
theorem FailedAt.attempt_eq (h : FailedAt runtime env thrown n failed view) :
    env.attempt runtime n failed.route =
      runAttempt runtime (env.context n) failed.route ⟨[], some thrown⟩ := by
  have hfailed : failed = env.invocation runtime n failed.route := by
    have hattempted := (h.follows runtime).attempted
    rw [Nat.zero_add] at hattempted
    exact hattempted
  have hinvoke : env.invoke n failed.route = ⟨[], some thrown⟩ := by
    rw [← h.attempt, hfailed]
    rfl
  rw [PoolEnvironment.attempt, hinvoke]

/-- What the failing attempt records. -/
theorem FailedAt.recorded (h : FailedAt runtime env thrown n failed view)
    (hroute : thrown.isRouteError = false) :
    (env.attempt runtime n failed.route).recorded =
      if isAbortError thrown then []
      else [(failed.route.accountId,
        thrownOutcomeInput runtime env.cooldownSeconds view thrown)] := by
  have hview : (env.context n).record .inCatch = .ok view := h.view
  rw [h.attempt_eq, (runAttempt_of_thrown runtime _ _ _).1,
    settleThrown_recorded runtime hroute hview]
  rfl

/-- When the failing attempt is rotated away. -/
theorem FailedAt.rotates_iff (h : FailedAt runtime env thrown n failed view)
    (hroute : thrown.isRouteError = false) (hbudget : n < env.retryBudget) :
    (∃ error, (env.attempt runtime n failed.route).ending = .rotated error) ↔
      isAbortError thrown = false ∧ commitmentOf thrown = .notSent ∧
        (classifyProviderFailure thrown.code?).Retryable := by
  have hview : (env.context n).record .inCatch = .ok view := h.view
  rw [h.attempt_eq, (runAttempt_of_thrown runtime _ _ _).2]
  exact settleThrown_rotates_iff runtime hroute hview h.fresh hbudget

end Decides

/-- A run of two attempts over an account that fail with an error. -/
def failingEnvironment (thrown : Thrown) : PoolEnvironment where
  requestId := "request-1"
  retryBudget := 1
  cooldownSeconds := DEFAULT_COOLDOWN_SECONDS
  select _ _ := .ok ⟨accountRoute,
    ⟨"request-1", 1, "policy", .fillFirst, "pool:fill-first", [], none, "2026-01-01T00:00:00.000Z"⟩⟩
  revalidate _ _ := none
  invoke _ _ := ⟨[], some thrown⟩
  record _ _ := .ok ⟨0, "unknown"⟩

theorem failedAt_failingEnvironment (thrown : Thrown) :
    FailedAt runtime (failingEnvironment thrown) thrown 0
      ((failingEnvironment thrown).invocation runtime 0 accountRoute) ⟨0, "unknown"⟩ where
  invoked := by
    have hselect : (failingEnvironment thrown).select 0 [] = .ok _ := rfl
    exact attemptLoop_head runtime hselect rfl
  attempt := rfl
  fresh := rfl
  view := rfl

/-- An error is recorded with the class of its code exactly when it does not pass for an abort. -/
theorem records_iff {thrown : Thrown} {outcome : RouteOutcomeClass}
    (hroute : thrown.isRouteError = false) :
    Records runtime thrown outcome ↔
      isAbortError thrown = false ∧ classifyProviderFailure thrown.code? = outcome := by
  constructor
  · intro h
    have hfailed := failedAt_failingEnvironment runtime thrown
    obtain ⟨input, houtcome, -, hrecorded, -⟩ := h _ _ _ _ hfailed
    rw [hfailed.recorded runtime hroute] at hrecorded
    cases habort : isAbortError thrown with
    | true =>
        rw [habort, if_pos rfl] at hrecorded
        cases hrecorded
    | false =>
        rw [habort, if_neg Bool.false_ne_true] at hrecorded
        cases hrecorded
        exact ⟨rfl, houtcome⟩
  · rintro ⟨habort, rfl⟩ env n failed view hfailed
    have hrecorded := hfailed.recorded runtime hroute
    rw [habort, if_neg Bool.false_ne_true] at hrecorded
    have hsublist := (hfailed.follows runtime).recorded
    rw [Nat.zero_add, hrecorded] at hsublist
    exact ⟨_, rfl, rfl, hrecorded, hsublist⟩

/-- A run goes on after an error exactly when the error does not pass for an abort, was not sent and
has a retryable class. -/
theorem failsOver_iff {thrown : Thrown} (hroute : thrown.isRouteError = false) :
    FailsOver runtime thrown ↔
      isAbortError thrown = false ∧ commitmentOf thrown = .notSent ∧
        (classifyProviderFailure thrown.code?).Retryable := by
  constructor
  · intro h
    have hfailed := failedAt_failingEnvironment runtime thrown
    have hbudget : 0 < (failingEnvironment thrown).retryBudget := Nat.one_pos
    have hnext := h _ _ _ _ _ hfailed hbudget rfl rfl
    exact (hfailed.rotates_iff runtime hroute hbudget).1
      ((hfailed.follows runtime).rotated _ hnext)
  · intro hrotates env n failed view next hfailed hbudget hselect hrevalidate
    obtain ⟨error, hrotated⟩ := (hfailed.rotates_iff runtime hroute hbudget).2 hrotates
    have hgoesOn := (hfailed.follows runtime).goesOn error next
    rw [Nat.zero_add, List.nil_append] at hgoesOn
    exact hgoesOn hrotated (by omega) hselect hrevalidate

end RlyGateway
