import RlyGateway.ControlPlane.RouteOutcome
import RlyGateway.Routing.Pools.Execute

/-!
# Cooldowns over a run of outcomes

The outcomes that requests in flight record for one account, one after the other. Each call computes
its cooldown from its own outcome and clock alone, and the store takes it over: a failure that cools
the account down for less than what is left of the stored cooldown, or not at all, shortens it.
-/

namespace RlyGateway

variable (runtime : NodeRuntime)

/-- One call of `recordOutcome` for an account, by an attempt of some request, with the date the
store writes for it. -/
structure OutcomeCall where
  context : AttemptContext
  phase : RecordPhase
  route : EffectiveRoute
  outcome : RouteOutcomeClass
  updatedAt : String

/-- The executor's input as the store takes it: the executor passes `null` where it has no
cooldown. -/
def RouteOutcomeInput.forStore (input : RouteOutcomeInput) : StoreOutcomeInput where
  outcome := input.outcome
  quotaClass := some input.quotaClass
  cooldownUntil := match input.cooldownUntil with
    | none => .null
    | some date => .until date

/-- The rows of the account after a call. A call that throws writes nothing. -/
def recordCall (rows : AccountRows) (call : OutcomeCall) : AccountRows :=
  match recordOutcome runtime call.context call.phase call.route call.outcome with
  | .error _ => rows
  | .ok (_, input) => recordRouteOutcome rows input.forStore call.updatedAt

/-- The rows after a run of calls. -/
def recordCalls (rows : AccountRows) (calls : List OutcomeCall) : AccountRows :=
  calls.foldl (recordCall runtime) rows

/-- The call reads the clock at `now`. -/
def OutcomeCall.At (call : OutcomeCall) (now : ℤ) : Prop :=
  ∃ view, call.context.record call.phase = .ok view ∧ view.now = now

/-- The milliseconds for which a call cools the account down. -/
def OutcomeCall.duration (call : OutcomeCall) : ℤ :=
  cooldownDuration call.outcome call.context.cooldownSeconds * 1000

/-- The platform reads back the date that each call writes. -/
def ReadsCooldowns (calls : List OutcomeCall) : Prop :=
  ∀ call ∈ calls, ∀ now, call.At now → call.duration ≠ 0 →
    runtime.dateParse (runtime.isoString (now + call.duration)) = some (now + call.duration)

/-- The cooldown `after` is at least the cooldown `before` if that one is unexpired at `now`. -/
def Unshortened (now : ℤ) (before after : Option String) : Prop :=
  ∀ t, before.bind runtime.dateParse = some t → now < t →
    ∃ t', after.bind runtime.dateParse = some t' ∧ t ≤ t'

/-- What is left of a stored cooldown at `now` ends within the given time. -/
def EndsWithin (now duration : ℤ) (stored : Option String) : Prop :=
  ∀ t, stored.bind runtime.dateParse = some t → now < t → t ≤ now + duration

/-- Over a run of calls, the rows agree in every state and no failure shortens an unexpired cooldown
in either row. -/
structure CooldownsKept (rows : AccountRows) (calls : List OutcomeCall) : Prop where
  agree : ∀ done rest, calls = done ++ rest → (recordCalls runtime rows done).Agree
  kept : ∀ done call rest now, calls = done ++ call :: rest → call.outcome ≠ .success →
    call.At now →
    let before := recordCalls runtime rows done
    let after := recordCall runtime before call
    Unshortened runtime now before.account.cooldownUntil after.account.cooldownUntil ∧
      Unshortened runtime now before.healthCooldown after.healthCooldown

/-- Every failure of the run cools the account down for at least what is left of the cooldown it
finds. -/
def CooldownsCovered (rows : AccountRows) (calls : List OutcomeCall) : Prop :=
  ∀ done call rest now, calls = done ++ call :: rest → call.outcome ≠ .success → call.At now →
    EndsWithin runtime now call.duration (recordCalls runtime rows done).account.cooldownUntil

/-! ## One call -/

/-- What a failing call leaves: nothing without a duration, else the end of its own cooldown. -/
theorem recordCall_of_failure (rows : AccountRows) {call : OutcomeCall} {now : ℤ}
    (hat : call.At now) (hfailure : call.outcome ≠ .success) :
    let left := if call.duration = 0 then none else some (runtime.isoString (now + call.duration))
    (recordCall runtime rows call).account.cooldownUntil = left ∧
      (recordCall runtime rows call).healthCooldown = left := by
  obtain ⟨view, hview, rfl⟩ := hat
  have hcall : recordCall runtime rows call = recordRouteOutcome rows
      (RouteOutcomeInput.forStore ⟨call.outcome, nextQuotaClass call.outcome view.quotaClass,
        cooldownUntilFor runtime call.outcome view.now call.context.cooldownSeconds⟩)
      call.updatedAt := by
    rw [recordCall, recordOutcome, hview]
    simp [hfailure, bind, Except.bind, pure, Except.pure]
  have hleft : cooldownAfter rows.account.cooldownUntil
      (RouteOutcomeInput.forStore ⟨call.outcome, nextQuotaClass call.outcome view.quotaClass,
        cooldownUntilFor runtime call.outcome view.now call.context.cooldownSeconds⟩) =
        if call.duration = 0 then none
        else some (runtime.isoString (view.now + call.duration)) := by
    rw [cooldownAfter_of_failure hfailure, RouteOutcomeInput.forStore, cooldownUntilFor,
      OutcomeCall.duration]
    by_cases hduration : cooldownDuration call.outcome call.context.cooldownSeconds = 0
    · simp [hduration, CooldownInput.resolve]
    · simp [hduration, CooldownInput.resolve]
  rw [hcall, account_recordRouteOutcome, health_recordRouteOutcome, hleft]
  exact ⟨rfl, rfl⟩

/-- A failing call leaves a stored cooldown unshortened exactly when its own cooldown covers what is
left of it. -/
theorem unshortened_iff {now duration : ℤ} (stored : Option String)
    (hreads : duration ≠ 0 →
      runtime.dateParse (runtime.isoString (now + duration)) = some (now + duration)) :
    Unshortened runtime now stored
        (if duration = 0 then none else some (runtime.isoString (now + duration))) ↔
      EndsWithin runtime now duration stored := by
  constructor
  · intro h t ht hlt
    obtain ⟨t', ht', hle⟩ := h t ht hlt
    by_cases hzero : duration = 0
    · rw [if_pos hzero] at ht'
      cases ht'
    · rw [if_neg hzero, Option.bind_some, hreads hzero, Option.some.injEq] at ht'
      omega
  · intro h t ht hlt
    have hle := h t ht hlt
    have hne : duration ≠ 0 := by omega
    refine ⟨now + duration, ?_, hle⟩
    rw [if_neg hne, Option.bind_some, hreads hne]

/-! ## Every run -/

/-- A call makes the rows agree, or leaves them as they are. -/
theorem agree_recordCall {rows : AccountRows} (h : rows.Agree) (call : OutcomeCall) :
    (recordCall runtime rows call).Agree := by
  rw [recordCall]
  split
  · exact h
  · exact agree_recordRouteOutcome _ _ _

theorem agree_recordCalls {rows : AccountRows} (h : rows.Agree) (calls : List OutcomeCall) :
    (recordCalls runtime rows calls).Agree := by
  induction calls generalizing rows with
  | nil => exact h
  | cons call calls ih => exact ih (agree_recordCall runtime h call)

/-- In every run of outcomes, no failure shortens the cooldown exactly when every failure cools the
account down for at least what is left of the cooldown it finds. -/
theorem cooldownsKept_iff {rows : AccountRows} {calls : List OutcomeCall} (hagree : rows.Agree)
    (hreads : ReadsCooldowns runtime calls) :
    CooldownsKept runtime rows calls ↔ CooldownsCovered runtime rows calls := by
  have hstep : ∀ done call rest now, calls = done ++ call :: rest → call.outcome ≠ .success →
      call.At now →
      let before := recordCalls runtime rows done
      let after := recordCall runtime before call
      (Unshortened runtime now before.account.cooldownUntil after.account.cooldownUntil ↔
          EndsWithin runtime now call.duration before.account.cooldownUntil) ∧
        (Unshortened runtime now before.healthCooldown after.healthCooldown ↔
          EndsWithin runtime now call.duration before.account.cooldownUntil) := by
    intro done call rest now hcalls hfailure hat before after
    have hmem : call ∈ calls := by simp [hcalls]
    obtain ⟨haccount, hhealth⟩ := recordCall_of_failure runtime before hat hfailure
    have hbefore : before.healthCooldown = before.account.cooldownUntil :=
      agree_recordCalls runtime hagree done
    rw [haccount, hhealth, hbefore]
    have hiff := unshortened_iff runtime before.account.cooldownUntil
      (hreads call hmem now hat)
    exact ⟨hiff, hiff⟩
  constructor
  · intro h done call rest now hcalls hfailure hat
    exact (hstep done call rest now hcalls hfailure hat).1.1
      (h.kept done call rest now hcalls hfailure hat).1
  · intro h
    refine ⟨fun done _ _ => agree_recordCalls runtime hagree done, ?_⟩
    intro done call rest now hcalls hfailure hat
    have hcovered := h done call rest now hcalls hfailure hat
    obtain ⟨haccount, hhealth⟩ := hstep done call rest now hcalls hfailure hat
    exact ⟨haccount.2 hcovered, hhealth.2 hcovered⟩

/-! ## Two failures in flight -/

/-- The rows of a new account. -/
def newAccountRows : AccountRows where
  account := ⟨"account-1", "acct-1", "provider-1", "cred-1", 1, .ready, "unknown", none, none⟩
  version := 1
  updatedAt := "2026-01-01T00:00:00.000Z"
  health := some ⟨⟨"account-1", none⟩, none, none, 0⟩

/-- A route through the account. -/
def accountRoute : EffectiveRoute where
  requestId := "request-1"
  providerId := "provider-1"
  modelId := "gpt-5.6-sol"
  adapterId := "codex-oauth"
  accountId := "account-1"
  accountPseudonym := "acct-1"
  credentialHandle := "cred-1"
  credentialGeneration := 1
  sourceRule := "pool:fill-first"
  policyRevision := 1
  policyHash := "policy"
  capabilitySnapshot := ⟨true, true, true, false, true, false, true, .conservativeEstimate⟩
  decidedAt := "2026-01-01T00:00:00.000Z"
  outputStarted := false
  reasoningEvidence := none
  resolvedReasoning := none

/-- A call by a request with the default cooldowns, at a number of seconds of 2026. -/
def callAt (outcome : RouteOutcomeClass) (seconds : ℤ) : OutcomeCall where
  context := ⟨0, 0, DEFAULT_COOLDOWN_SECONDS, fun _ =>
    .ok ⟨1767225600000 + seconds * 1000, "unknown"⟩⟩
  phase := .inCatch
  route := accountRoute
  outcome := outcome
  updatedAt := isoInstantString (1767225600000 + seconds * 1000)

/-- Two failures of which the later one cools down for longer keep the cooldown. -/
theorem cooldownsKept_climbingCalls :
    CooldownsKept isoRuntime newAccountRows [callAt .transient 0, callAt .quota 10] := by
  have hreads : ReadsCooldowns isoRuntime [callAt .transient 0, callAt .quota 10] := by
    rintro call hcall now ⟨view, hview, rfl⟩ -
    rcases List.mem_cons.1 hcall with rfl | hcall
    · cases hview
      decide
    · rw [List.mem_singleton.1 hcall] at hview ⊢
      cases hview
      decide
  have hagree : newAccountRows.Agree := rfl
  refine (cooldownsKept_iff isoRuntime hagree hreads).2 ?_
  rintro done call rest now hcalls - ⟨view, hview, rfl⟩ t ht hlt
  rcases done with - | ⟨first, done⟩
  · -- nothing is stored before the first call
    cases ht
  · rcases done with - | ⟨second, done⟩
    · cases hcalls
      cases hview
      have hstored : (recordCalls isoRuntime newAccountRows
          [callAt .transient 0]).account.cooldownUntil.bind isoRuntime.dateParse =
            some 1767225615000 := by decide
      rw [hstored, Option.some.injEq] at ht
      have hend : (1767225600000 + 10 * 1000 : ℤ) + (callAt .quota 10).duration = 1767225910000 := by
        decide
      rw [hend]
      omega
    · simp at hcalls

/-- A quota failure and, ten seconds later, a transient one of another request. -/
def shorteningCalls : List OutcomeCall := [callAt .quota 0, callAt .transient 10]

/-- The transient failure takes most of the cooldown of the quota failure away. -/
theorem not_cooldownsKept_shorteningCalls :
    ¬ CooldownsKept isoRuntime newAccountRows shorteningCalls := by
  intro h
  obtain ⟨haccount, -⟩ := h.kept [callAt .quota 0] (callAt .transient 10) [] 1767225610000 rfl
    (by decide) ⟨_, rfl, rfl⟩
  obtain ⟨t', ht', hle⟩ := haccount 1767225900000 (by decide) (by decide)
  have hshort : (recordCalls isoRuntime newAccountRows shorteningCalls).account.cooldownUntil.bind
      isoRuntime.dateParse = some 1767225625000 := by decide
  have hend : t' = 1767225625000 := Option.some.inj (ht'.symm.trans hshort)
  omega

end RlyGateway
