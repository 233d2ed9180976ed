import RlyGateway.Runtime.Leases.LeaseManager
import Mathlib.Logic.Function.Basic

/-!
# The lease protocol

What a run of the manager has shown so far says which leases are held, whether a grace period has
gone by without a new one, and which invocations of `onIdle` have failed. The manager acts on its own
fields; that these agree is the invariant of its runs.
-/

namespace RlyGateway

variable {LeaseId : Type} [DecidableEq LeaseId]

/-! ## Laws -/

/-- The leases that are held behind an event. -/
def LeaseEvent.leases (ttlMs : ℕ) (held : LeaseId → Option ℕ) : LeaseEvent LeaseId → LeaseId → Option ℕ
  | .added leaseId time | .renewed leaseId time => Function.update held leaseId (some (time + ttlMs))
  | .released leaseId | .expired leaseId => Function.update held leaseId none
  | _ => held

/-- The leases that are held behind a list of events, and when each expires. -/
def heldLeases (ttlMs : ℕ) (events : List (LeaseEvent LeaseId)) : LeaseId → Option ℕ :=
  events.foldl (LeaseEvent.leases ttlMs) fun _ => none

/-- A lease was taken or renewed. -/
def LeaseEvent.adds : LeaseEvent LeaseId → Bool
  | .added _ _ | .renewed _ _ => true
  | _ => false

/-- A grace period has begun, and no lease was added in it. -/
def QuietSinceGrace (events : List (LeaseEvent LeaseId)) : Prop :=
  ∃ before since, events = before ++ .graceBegan :: since ∧ .graceBegan ∉ since ∧
    ∀ event ∈ since, event.adds = false

/-- What the events before it must have been for an event: `onIdle` is invoked again only behind
failures, and not while a lease is held or a new one came; only a lease that has not expired is
renewed; and one is refused only where `onIdle` runs or has completed. -/
def LeaseLaw (ttlMs : ℕ) (before : List (LeaseEvent LeaseId)) : LeaseEvent LeaseId → Prop
  | .renewed leaseId time => ∃ expiresAt, heldLeases ttlMs before leaseId = some expiresAt ∧
      time < expiresAt
  | .refused _ => ∃ index, .idleInvoked index ∈ before ∧ .idleRejected index ∉ before
  | .idleInvoked _ => (∀ index, .idleInvoked index ∈ before → .idleRejected index ∈ before) ∧
      (∀ leaseId, heldLeases ttlMs before leaseId = none) ∧ QuietSinceGrace before
  | _ => True

/-- No lease is held, and neither a grace period nor `onIdle` is under way. -/
def LeaseManager.Idle (manager : LeaseManager LeaseId) : Prop :=
  manager.expiresAt.size = 0 ∧ manager.idleTimer = none ∧
    ∀ invocation ∈ manager.invocations, invocation.outcome ≠ .running

/-- What a caller awaits has settled. -/
def LeaseManager.Settled (manager : LeaseManager LeaseId) (promise : Option ℕ) : Prop :=
  ∀ index, promise = some index → manager.promises[index]? = some true

/-- A caller waits in vain no longer: the manager is idle, or a lease was added behind the call. -/
def LeaseRun.Over (run : LeaseRun LeaseId) (wait : IdleWait) : Prop :=
  run.manager.Idle ∨ ∃ event ∈ run.events.drop wait.since, event.adds = true

/-! ## Conditions -/

/-- Every invocation of `onIdle` has failed. -/
def LeaseManager.Unstopped (manager : LeaseManager LeaseId) : Prop :=
  ∀ invocation ∈ manager.invocations, invocation.outcome = .rejected

/-- A lease is added neither behind failed invocations of `onIdle` alone nor while somebody waits for
the grace period that is under way; a lease is renewed before it expires; and nothing is released or
awaited once `onIdle` was invoked, unless it failed. -/
def LeaseRun.Careful (run : LeaseRun LeaseId) : LeaseInput LeaseId → Prop
  | .add _ _ => (run.manager.stopping = true → ¬ run.manager.Unstopped) ∧
      ∀ timer, run.manager.idleTimer = some timer → ∀ wait ∈ run.waits,
        wait.promise ≠ some timer.promise
  | .renew leaseId now => ∀ expiresAt, run.manager.expiresAt.get? leaseId = some expiresAt →
      now < expiresAt
  | .release _ _ => run.manager.Unstopped
  | .waitForIdle _ => run.manager.Unstopped
  | _ => True

/-! ## The methods -/

namespace LeaseManager

section Timers

variable {LeaseId : Type} {options : LeaseManagerOptions} {manager : LeaseManager LeaseId} {now : ℕ}

theorem scheduleIdleIfEmpty_of_busy
    (h : 0 < manager.expiresAt.size ∨ manager.idleTimer.isSome = true) :
    manager.scheduleIdleIfEmpty options now = manager :=
  if_pos h

/-- Where no lease is held and no grace period is under way, one begins, with a new promise. -/
theorem scheduleIdleIfEmpty_of_idle (hsize : manager.expiresAt.size = 0)
    (htimer : manager.idleTimer = none) :
    manager.scheduleIdleIfEmpty options now =
      { manager with
        idlePromise := some manager.promises.length
        idleTimer := some ⟨now + options.idleGraceMs, manager.generation, manager.promises.length⟩
        promises := manager.promises ++ [false] } := by
  refine if_neg ?_
  rw [hsize, htimer]
  simp

/-- Where no lease is held, a grace period is under way behind that. -/
theorem exists_idleTimer_scheduleIdleIfEmpty
    (h : ¬ 0 < (manager.scheduleIdleIfEmpty options now).expiresAt.size) :
    ∃ timer, (manager.scheduleIdleIfEmpty options now).idleTimer = some timer := by
  unfold scheduleIdleIfEmpty at h ⊢
  split
  · rename_i hbusy
    rw [if_pos hbusy] at h
    exact Option.isSome_iff_exists.1 (hbusy.resolve_left h)
  · exact ⟨_, rfl⟩

/-- A grace period that ends without a lease ends in `onIdle`. -/
theorem onIdleTimer_of_stillIdle {timer : IdleTimer} (hsize : manager.expiresAt.size = 0)
    (hgeneration : timer.generation = manager.generation) :
    manager.onIdleTimer timer =
      { manager with
        idleTimer := none
        stopping := true
        invocations := manager.invocations ++ [⟨timer.promise, .running⟩] } := by
  have hidle : ({ manager with idleTimer := none } : LeaseManager LeaseId).stillIdle
      timer.generation = true := by
    unfold stillIdle
    simp [hsize, hgeneration]
  unfold onIdleTimer
  simp only [hidle]
  rfl

/-- An expiry timer is armed only for a lease. -/
theorem size_pos_of_scheduleExpiry
    (h : (manager.scheduleExpiry now).timer.isSome = true) : 0 < manager.expiresAt.size := by
  unfold scheduleExpiry at h
  rw [Option.isSome_map, List.isSome_min?_iff] at h
  have hpos := List.length_pos_of_ne_nil h
  rwa [OrderedMap.values, List.length_map] at hpos

end Timers

variable {options : LeaseManagerOptions} {manager : LeaseManager LeaseId} {now : ℕ}

/-- A lease that is added is held for the time that it lives, and no grace period goes on. -/
theorem add_eq_ok {leaseId : LeaseId} {manager' : LeaseManager LeaseId}
    (h : manager.add options leaseId now = .ok manager') :
    manager.stopping = false ∧
      manager' =
        ({ manager with
          generation := manager.generation + 1
          idleTimer := none
          idlePromise := none
          expiresAt := manager.expiresAt.set leaseId (now + options.ttlMs) } :
          LeaseManager LeaseId).scheduleExpiry now := by
  unfold add at h
  split at h
  · cases h
  · rename_i hstopping
    cases h
    exact ⟨Bool.eq_false_iff.2 hstopping, rfl⟩

theorem add_eq_error {leaseId : LeaseId} {message : String}
    (h : manager.add options leaseId now = .error message) : manager.stopping = true := by
  unfold add at h
  split at h
  · assumption
  · cases h

theorem get?_set_eq_update (leases : OrderedMap LeaseId ℕ) (leaseId : LeaseId) (expiresAt : ℕ) :
    (leases.set leaseId expiresAt).get? =
      Function.update leases.get? leaseId (some expiresAt) := by
  funext key
  rw [OrderedMap.get?_set, Function.update_apply]
  exact if_congr eq_comm rfl rfl

theorem get?_erase_eq_update (leases : OrderedMap LeaseId ℕ) (leaseId : LeaseId) :
    (leases.erase leaseId).get? = Function.update leases.get? leaseId none := by
  funext key
  rw [OrderedMap.get?_erase, Function.update_apply]
  exact if_congr eq_comm rfl rfl

/-- The expiry timer changes nothing but the leases, and these as the removals say. -/
theorem removeExpired_spec (ttlMs : ℕ) (manager : LeaseManager LeaseId) (now : ℕ) :
    ∃ expiresAt, (manager.removeExpired now).1 = { manager with expiresAt } ∧
      expiresAt.get? = ((manager.removeExpired now).2.map LeaseEvent.expired).foldl
        (LeaseEvent.leases ttlMs) manager.expiresAt.get? ∧
      expiresAt.size ≤ manager.expiresAt.size := by
  unfold removeExpired
  generalize manager.expiresAt.entries = entries
  induction entries using List.reverseRecOn with
  | nil => exact ⟨manager.expiresAt, rfl, rfl, Nat.le_refl _⟩
  | append_singleton entries entry ih =>
      obtain ⟨expiresAt, hmanager, hget, hsize⟩ := ih
      rw [List.foldl_append, List.foldl_cons, List.foldl_nil]
      generalize List.foldl _ (manager, []) entries = result at hmanager hget
      obtain ⟨manager', expired⟩ := result
      cases hmanager
      by_cases hnow : now < entry.2
      · simp only [if_pos hnow]
        exact ⟨expiresAt, rfl, hget, hsize⟩
      · simp only [if_neg hnow]
        refine ⟨expiresAt.erase entry.1, rfl, ?_, ?_⟩
        · rw [get?_erase_eq_update, hget, List.map_append, List.foldl_append]
          rfl
        · exact Nat.le_trans (expiresAt.size_erase_le entry.1) hsize

end LeaseManager

/-! ## The invariant -/

/-- The manager's fields agree with what has been seen of it. -/
structure LeaseRun.Sound (options : LeaseManagerOptions) (run : LeaseRun LeaseId) : Prop where
  held : heldLeases options.ttlMs run.events = run.manager.expiresAt.get?
  armed : run.manager.timer.isSome = true → 0 < run.manager.expiresAt.size
  busy : 0 < run.manager.expiresAt.size → run.manager.stopping = false ∧
    run.manager.idlePromise = none ∧ run.manager.idleTimer = none
  stopping : run.manager.stopping = true ↔ run.manager.invocations ≠ []
  invoked : ∀ index, .idleInvoked index ∈ run.events ↔ index < run.manager.invocations.length
  rejected : ∀ index, .idleRejected index ∈ run.events ↔
    ∃ invocation, run.manager.invocations[index]? = some invocation ∧ invocation.outcome = .rejected
  grace : ∀ timer, run.manager.idleTimer = some timer →
    timer.generation = run.manager.generation ∧ run.manager.idlePromise = some timer.promise ∧
      timer.promise < run.manager.promises.length ∧ QuietSinceGrace run.events

/-! ## Steps -/

/-- A lease is given up, or a request for one comes to nothing. -/
def LeaseEvent.drops : LeaseEvent LeaseId → Bool
  | .released _ | .expired _ | .refused _ | .inactive _ => true
  | _ => false

theorem heldLeases_append (ttlMs : ℕ) (events more : List (LeaseEvent LeaseId)) :
    heldLeases ttlMs (events ++ more) =
      more.foldl (LeaseEvent.leases ttlMs) (heldLeases ttlMs events) :=
  List.foldl_append

section Quiet

variable {LeaseId : Type} {events more : List (LeaseEvent LeaseId)}

/-- A grace period stays quiet behind events that neither add a lease nor begin another. -/
theorem QuietSinceGrace.append (h : QuietSinceGrace events) (hgrace : .graceBegan ∉ more)
    (hadds : ∀ event ∈ more, event.adds = false) : QuietSinceGrace (events ++ more) := by
  obtain ⟨before, since, rfl, hnone, hquiet⟩ := h
  refine ⟨before, since ++ more, by simp, ?_, ?_⟩
  · rw [List.mem_append]
    rintro (hmem | hmem)
    · exact hnone hmem
    · exact hgrace hmem
  · intro event hevent
    rcases List.mem_append.1 hevent with hmem | hmem
    · exact hquiet event hmem
    · exact hadds event hmem

theorem quietSinceGrace_concat : QuietSinceGrace (events ++ [.graceBegan]) :=
  ⟨events, [], rfl, List.not_mem_nil, fun _ h => absurd h List.not_mem_nil⟩

/-- What only gives up leases neither begins a grace period nor adds one, and says nothing of
`onIdle`. -/
theorem not_mem_of_drops (h : ∀ event ∈ more, event.drops = true) :
    .graceBegan ∉ more ∧ (∀ event ∈ more, event.adds = false) ∧
      (∀ index, .idleInvoked index ∉ more) ∧ ∀ index, .idleRejected index ∉ more := by
  refine ⟨fun hmem => ?_, fun event hmem => ?_, fun index hmem => ?_, fun index hmem => ?_⟩
  · exact Bool.false_ne_true (h _ hmem)
  · have hdrops := h event hmem
    cases event <;> first | rfl | exact absurd hdrops Bool.false_ne_true
  · exact Bool.false_ne_true (h _ hmem)
  · exact Bool.false_ne_true (h _ hmem)

end Quiet

namespace LeaseRun

variable {now : ℕ} {options : LeaseManagerOptions} {run : LeaseRun LeaseId}
  {manager : LeaseManager LeaseId} {events : List (LeaseEvent LeaseId)}

omit [DecidableEq LeaseId] in
/-- Where no grace period begins, what is seen are the given events alone. -/
theorem next_of_timer (h : run.manager.idleTimer.isNone = true → manager.idleTimer.isSome = false) :
    run.next manager events = { run with manager, events := run.events ++ events } := by
  unfold next
  rw [if_neg (by rintro ⟨hnone, hsome⟩; rw [h hnone] at hsome; cases hsome), List.append_nil]

/-- Leases that are given up, and requests that come to nothing, keep the agreement. -/
theorem Sound.drop (h : run.Sound options) {expiresAt : OrderedMap LeaseId ℕ} {timer : Option ℕ}
    (hdrops : ∀ event ∈ events, event.drops = true)
    (hget : expiresAt.get? = events.foldl (LeaseEvent.leases options.ttlMs) run.manager.expiresAt.get?)
    (hsize : expiresAt.size ≤ run.manager.expiresAt.size)
    (htimer : timer.isSome = true → 0 < expiresAt.size) :
    Sound options { run with
      manager := { run.manager with expiresAt, timer }
      events := run.events ++ events } := by
  obtain ⟨hgrace, hadds, hinvoked, hrejected⟩ := not_mem_of_drops hdrops
  constructor
  · rw [heldLeases_append, h.held]
    exact hget.symm
  · exact htimer
  · intro hpos
    exact h.busy (Nat.lt_of_lt_of_le hpos hsize)
  · exact h.stopping
  · intro index
    rw [List.mem_append, or_iff_left (hinvoked index)]
    exact h.invoked index
  · intro index
    rw [List.mem_append, or_iff_left (hrejected index)]
    exact h.rejected index
  · intro timer' htimer'
    obtain ⟨hgeneration, hpromise, hlt, hquiet⟩ := h.grace timer' htimer'
    exact ⟨hgeneration, hpromise, hlt, hquiet.append hgrace hadds⟩

/-- A grace period that begins, if it does, keeps the agreement. -/
theorem Sound.schedule (h : run.Sound options) :
    Sound options (run.next (run.manager.scheduleIdleIfEmpty options now) []) := by
  by_cases hbusy : 0 < run.manager.expiresAt.size ∨ run.manager.idleTimer.isSome = true
  · rw [LeaseManager.scheduleIdleIfEmpty_of_busy hbusy, next_of_timer, List.append_nil]
    · exact h
    · intro hnone
      rw [← Option.not_isSome, Bool.not_eq_true'] at hnone
      exact hnone
  · rw [not_or, Nat.pos_iff_ne_zero, not_not, Option.not_isSome_iff_eq_none] at hbusy
    obtain ⟨hsize, hnone⟩ := hbusy
    rw [LeaseManager.scheduleIdleIfEmpty_of_idle hsize hnone]
    unfold next
    rw [if_pos ⟨by rw [hnone]; rfl, rfl⟩, List.append_nil]
    constructor
    · rw [heldLeases_append]
      exact h.held
    · exact h.armed
    · intro hpos
      rw [hsize] at hpos
      exact absurd hpos (Nat.lt_irrefl 0)
    · exact h.stopping
    · intro index
      simpa using h.invoked index
    · intro index
      simpa using h.rejected index
    · intro timer htimer
      cases htimer
      exact ⟨rfl, rfl, by simp, quietSinceGrace_concat⟩

/-- A lease that is added or renewed keeps the agreement. -/
theorem Sound.add (h : run.Sound options) {leaseId : LeaseId} {event : LeaseEvent LeaseId}
    (hadd : run.manager.add options leaseId now = .ok manager)
    (hevent : event = .added leaseId now ∨ event = .renewed leaseId now) :
    Sound options (run.next manager [event]) := by
  obtain ⟨hstopping, rfl⟩ := LeaseManager.add_eq_ok hadd
  rw [next_of_timer fun _ => rfl]
  constructor
  · rw [heldLeases_append, h.held]
    refine Eq.trans ?_ (LeaseManager.get?_set_eq_update run.manager.expiresAt leaseId _).symm
    rcases hevent with rfl | rfl <;> rfl
  · exact LeaseManager.size_pos_of_scheduleExpiry
  · intro _
    exact ⟨hstopping, rfl, rfl⟩
  · exact h.stopping
  · intro index
    rw [List.mem_append, or_iff_left]
    · exact h.invoked index
    · rcases hevent with rfl | rfl <;> simp
  · intro index
    rw [List.mem_append, or_iff_left]
    · exact h.rejected index
    · rcases hevent with rfl | rfl <;> simp
  · intro timer htimer
    cases htimer

/-- A grace period that ends keeps the agreement. It ends in `onIdle`. -/
theorem Sound.fire (h : run.Sound options) {timer : IdleTimer}
    (htimer : run.manager.idleTimer = some timer) :
    run.manager.onIdleTimer timer =
        { run.manager with
          idleTimer := none
          stopping := true
          invocations := run.manager.invocations ++ [⟨timer.promise, .running⟩] } ∧
      Sound options (run.next (run.manager.onIdleTimer timer)
        [.idleInvoked run.manager.invocations.length]) := by
  have hsize : run.manager.expiresAt.size = 0 := by
    by_contra hne
    have := (h.busy (Nat.pos_of_ne_zero hne)).2.2
    rw [htimer] at this
    cases this
  have hfire := LeaseManager.onIdleTimer_of_stillIdle hsize (h.grace timer htimer).1
  refine ⟨hfire, ?_⟩
  rw [hfire, next_of_timer fun _ => rfl]
  constructor
  · rw [heldLeases_append]
    exact h.held
  · exact h.armed
  · intro hpos
    exact absurd hsize (Nat.ne_of_gt hpos)
  · simp
  · intro index
    rw [List.mem_append, h.invoked index, List.mem_singleton, LeaseEvent.idleInvoked.injEq,
      List.length_append, List.length_singleton]
    omega
  · intro index
    rw [List.mem_append, h.rejected index, or_iff_left (by simp)]
    -- The new invocation runs, so the rejected ones are those from before.
    by_cases hindex : index < run.manager.invocations.length
    · simp [List.getElem?_append_left hindex]
    · rw [Nat.not_lt] at hindex
      simp only [List.getElem?_append_right hindex, List.getElem?_eq_none hindex,
        List.getElem?_singleton]
      grind
  · intro timer' htimer'
    cases htimer'

/-- The end of an invocation of `onIdle` keeps the agreement. -/
theorem Sound.ended (h : run.Sound options) {index : ℕ} {invocation : OnIdleInvocation}
    {outcome : OnIdleOutcome} {event : LeaseEvent LeaseId}
    (hrunning : run.running? index = some invocation)
    (hevent : event = .idleCompleted index ∧ outcome = .completed ∨
      event = .idleRejected index ∧ outcome = .rejected) :
    Sound options (run.next (run.manager.onIdleEnded index invocation outcome) [event]) := by
  obtain ⟨hget, houtcome⟩ := Option.filter_eq_some_iff.1 hrunning
  have hlt : index < run.manager.invocations.length := (List.getElem?_eq_some_iff.1 hget).1
  have htimer : (run.manager.onIdleEnded index invocation outcome).idleTimer =
      run.manager.idleTimer := rfl
  rw [next_of_timer (by rw [htimer]; cases run.manager.idleTimer <;> simp)]
  constructor
  · rw [heldLeases_append, h.held]
    rcases hevent with ⟨rfl, -⟩ | ⟨rfl, -⟩ <;> rfl
  · exact h.armed
  · exact h.busy
  · refine h.stopping.trans ?_
    simp [LeaseManager.onIdleEnded, LeaseManager.resolve]
  · intro index'
    rw [List.mem_append, h.invoked index', or_iff_left]
    · simp [LeaseManager.onIdleEnded, LeaseManager.resolve]
    · rcases hevent with ⟨rfl, -⟩ | ⟨rfl, -⟩ <;> simp
  · intro index'
    rw [List.mem_append, h.rejected index', List.mem_singleton]
    simp only [LeaseManager.onIdleEnded, LeaseManager.resolve, List.getElem?_set]
    rcases hevent with ⟨rfl, rfl⟩ | ⟨rfl, rfl⟩
    · grind
    · grind
  · intro timer' htimer'
    obtain ⟨hgeneration, hpromise, hlt', hquiet⟩ := h.grace timer' htimer'
    refine ⟨hgeneration, hpromise, ?_, hquiet.append ?_ ?_⟩
    · simpa [LeaseManager.onIdleEnded, LeaseManager.resolve] using hlt'
    · rcases hevent with ⟨rfl, -⟩ | ⟨rfl, -⟩ <;> simp
    · rcases hevent with ⟨rfl, -⟩ | ⟨rfl, -⟩ <;> simp [LeaseEvent.adds]

/-! ## Patience -/

omit [DecidableEq LeaseId] in
/-- Behind more events that add no lease, none was added since. -/
theorem adds_drop_append {more : List (LeaseEvent LeaseId)} {since : ℕ}
    (h : ∀ event ∈ events.drop since, event.adds = false)
    (hmore : ∀ event ∈ more, event.adds = false) :
    ∀ event ∈ (events ++ more).drop since, event.adds = false := by
  intro event hevent
  rw [List.drop_append] at hevent
  rcases List.mem_append.1 hevent with hmem | hmem
  · exact h event hmem
  · exact hmore event (List.mem_of_mem_drop hmem)

/-- Who waits is not forgotten, the next invocation of `onIdle` is due only behind failures, and what
has been seen is lawful. -/
structure Patient (options : LeaseManagerOptions) (run : LeaseRun LeaseId) : Prop where
  fresh : ∀ timer, run.manager.idleTimer = some timer → run.manager.Unstopped
  waits : ∀ wait ∈ run.waits, ∀ promise, wait.promise = some promise →
    run.manager.promises[promise]? = some true ∨
      ((∀ event ∈ run.events.drop wait.since, event.adds = false) ∧
        promise < run.manager.promises.length ∧
        ((∃ timer, run.manager.idleTimer = some timer ∧ timer.promise = promise) ∨
          ∃ invocation ∈ run.manager.invocations, invocation.promise = promise ∧
            invocation.outcome = .running))
  lawful : run.events.Lawful (LeaseLaw options.ttlMs)

theorem Patient.drop (h : run.Patient options) {expiresAt : OrderedMap LeaseId ℕ} {timer : Option ℕ}
    (hdrops : ∀ event ∈ events, event.drops = true)
    (hlaw : events.Lawful fun before => LeaseLaw options.ttlMs (run.events ++ before)) :
    Patient options { run with
      manager := { run.manager with expiresAt, timer }
      events := run.events ++ events } where
  fresh := h.fresh
  waits wait hwait promise hpromise := by
    refine (h.waits wait hwait promise hpromise).imp_right ?_
    rintro ⟨hquiet, hpending⟩
    exact ⟨adds_drop_append hquiet (not_mem_of_drops hdrops).2.1, hpending⟩
  lawful := List.lawful_append.2 ⟨h.lawful, hlaw⟩

/-- A grace period begins only where every invocation of `onIdle` has failed. -/
theorem Patient.schedule (h : run.Patient options)
    (hunstopped : run.manager.expiresAt.size = 0 → run.manager.Unstopped) :
    Patient options (run.next (run.manager.scheduleIdleIfEmpty options now) []) := by
  by_cases hbusy : 0 < run.manager.expiresAt.size ∨ run.manager.idleTimer.isSome = true
  · rw [LeaseManager.scheduleIdleIfEmpty_of_busy hbusy, next_of_timer, List.append_nil]
    · exact h
    · intro hnone
      rw [← Option.not_isSome, Bool.not_eq_true'] at hnone
      exact hnone
  · rw [not_or, Nat.pos_iff_ne_zero, not_not, Option.not_isSome_iff_eq_none] at hbusy
    obtain ⟨hsize, hnone⟩ := hbusy
    rw [LeaseManager.scheduleIdleIfEmpty_of_idle hsize hnone]
    unfold next
    rw [if_pos ⟨by rw [hnone]; rfl, rfl⟩, List.append_nil]
    constructor
    · intro _ _
      exact hunstopped hsize
    · intro wait hwait promise hpromise
      rcases h.waits wait hwait promise hpromise with hsettled | ⟨hquiet, hlt, htimer | hinvocation⟩
      · left
        rw [List.getElem?_append_left (List.getElem?_eq_some_iff.1 hsettled).1]
        exact hsettled
      · obtain ⟨timer, htimer, -⟩ := htimer
        rw [hnone] at htimer
        cases htimer
      · refine .inr ⟨adds_drop_append hquiet ?_, ?_, .inr hinvocation⟩
        · simp [LeaseEvent.adds]
        · simp only [List.length_append, List.length_singleton]
          omega
    · rw [List.lawful_concat]
      exact ⟨h.lawful, trivial⟩

/-- A lease is added only where nobody waits. -/
theorem Patient.add (h : run.Patient options) (hsound : run.Sound options) {leaseId : LeaseId}
    {event : LeaseEvent LeaseId} (hadd : run.manager.add options leaseId now = .ok manager)
    (hunawaited : ∀ timer, run.manager.idleTimer = some timer → ∀ wait ∈ run.waits,
      wait.promise ≠ some timer.promise)
    (hlaw : LeaseLaw options.ttlMs run.events event) :
    Patient options (run.next manager [event]) := by
  obtain ⟨hstopping, rfl⟩ := LeaseManager.add_eq_ok hadd
  rw [next_of_timer fun _ => rfl]
  constructor
  · intro timer htimer
    cases htimer
  · intro wait hwait promise hpromise
    rcases h.waits wait hwait promise hpromise with hsettled | ⟨-, -, htimer | hinvocation⟩
    · exact .inl hsettled
    · obtain ⟨timer, htimer, rfl⟩ := htimer
      exact absurd hpromise (hunawaited timer htimer wait hwait)
    · obtain ⟨invocation, hmem, -⟩ := hinvocation
      have hnone : run.manager.invocations = [] := by
        by_contra hne
        rw [hsound.stopping.2 hne] at hstopping
        cases hstopping
      rw [hnone] at hmem
      cases hmem
  · rw [List.lawful_concat]
    exact ⟨h.lawful, hlaw⟩

/-- A grace period that ends hands its callers on to the invocation of `onIdle`. -/
theorem Patient.fire (h : run.Patient options) (hsound : run.Sound options) {timer : IdleTimer}
    (htimer : run.manager.idleTimer = some timer) :
    Patient options (run.next (run.manager.onIdleTimer timer)
      [.idleInvoked run.manager.invocations.length]) := by
  have hunstopped := h.fresh timer htimer
  rw [(hsound.fire htimer).1, next_of_timer fun _ => rfl]
  constructor
  · intro timer' htimer'
    cases htimer'
  · intro wait hwait promise hpromise
    refine (h.waits wait hwait promise hpromise).imp_right ?_
    rintro ⟨hquiet, hlt, hpending⟩
    refine ⟨adds_drop_append hquiet (by simp [LeaseEvent.adds]), hlt, .inr ?_⟩
    rcases hpending with ⟨timer', htimer', hpromise'⟩ | ⟨invocation, hmem, hrest⟩
    · rw [htimer] at htimer'
      cases htimer'
      exact ⟨_, List.mem_append_right _ (List.mem_singleton_self _), hpromise', rfl⟩
    · exact ⟨invocation, List.mem_append_left _ hmem, hrest⟩
  · rw [List.lawful_concat]
    refine ⟨h.lawful, ?_, ?_, (hsound.grace timer htimer).2.2.2⟩
    · intro index hindex
      have hlt := (hsound.invoked index).1 hindex
      exact (hsound.rejected index).2
        ⟨_, List.getElem?_eq_getElem hlt, hunstopped _ (List.getElem_mem hlt)⟩
    · intro leaseId
      rw [hsound.held]
      have hsize : ¬ 0 < run.manager.expiresAt.size := by
        intro hpos
        have := (hsound.busy hpos).2.2
        rw [htimer] at this
        cases this
      cases hget : run.manager.expiresAt.get? leaseId with
      | none => rfl
      | some expiresAt => exact absurd (OrderedMap.size_pos_of_get? hget) hsize

/-- The end of an invocation of `onIdle` settles what its callers await. -/
theorem Patient.ended (h : run.Patient options) {index : ℕ} {invocation : OnIdleInvocation}
    {outcome : OnIdleOutcome} {event : LeaseEvent LeaseId}
    (hrunning : run.running? index = some invocation)
    (hevent : event = .idleCompleted index ∧ outcome = .completed ∨
      event = .idleRejected index ∧ outcome = .rejected) :
    Patient options (run.next (run.manager.onIdleEnded index invocation outcome) [event]) := by
  obtain ⟨hget, houtcome⟩ := Option.filter_eq_some_iff.1 hrunning
  rw [decide_eq_true_eq] at houtcome
  have htimer : (run.manager.onIdleEnded index invocation outcome).idleTimer =
      run.manager.idleTimer := rfl
  rw [next_of_timer (by rw [htimer]; cases run.manager.idleTimer <;> simp)]
  constructor
  · intro timer htimer'
    have := h.fresh timer htimer' invocation (List.mem_of_getElem? hget)
    rw [houtcome] at this
    cases this
  · intro wait hwait promise hpromise
    simp only [LeaseManager.onIdleEnded, LeaseManager.resolve, List.getElem?_set, List.length_set]
    rcases h.waits wait hwait promise hpromise with hsettled | ⟨hquiet, hlt, hpending⟩
    · left
      have hlt := (List.getElem?_eq_some_iff.1 hsettled).1
      split
      · rw [if_pos (by omega)]
      · exact hsettled
    · by_cases heq : invocation.promise = promise
      · left
        rw [if_pos heq, if_pos (by omega)]
      · refine .inr ⟨adds_drop_append hquiet ?_, hlt, ?_⟩
        · rcases hevent with ⟨rfl, -⟩ | ⟨rfl, -⟩ <;> simp [LeaseEvent.adds]
        · refine hpending.imp_right ?_
          rintro ⟨other, hmem, hother, hrest⟩
          obtain ⟨j, hj⟩ := List.mem_iff_getElem?.1 hmem
          refine ⟨other, List.mem_iff_getElem?.2 ⟨j, ?_⟩, hother, hrest⟩
          rw [List.getElem?_set_ne]
          · exact hj
          · rintro rfl
            rw [hget] at hj
            cases hj
            exact heq hother
  · rw [List.lawful_concat]
    refine ⟨h.lawful, ?_⟩
    rcases hevent with ⟨rfl, -⟩ | ⟨rfl, -⟩ <;> trivial

/-! ## Runs -/

/-- The agreement and the patience of a run, together. -/
def Kept (options : LeaseManagerOptions) (run : LeaseRun LeaseId) : Prop :=
  run.Sound options ∧ run.Patient options

/-- Leases are given up, and a grace period begins where none is left. -/
theorem Kept.dropAndSchedule (h : run.Kept options) {expiresAt : OrderedMap LeaseId ℕ}
    (hdrops : ∀ event ∈ events, event.drops = true)
    (hget : expiresAt.get? = events.foldl (LeaseEvent.leases options.ttlMs) run.manager.expiresAt.get?)
    (hsize : expiresAt.size ≤ run.manager.expiresAt.size)
    (hlaw : events.Lawful fun before => LeaseLaw options.ttlMs (run.events ++ before))
    (hunstopped : run.manager.Unstopped) :
    Kept options (run.next
      ((({ run.manager with expiresAt } : LeaseManager LeaseId).scheduleExpiry now).scheduleIdleIfEmpty
        options now) events) := by
  let manager := ({ run.manager with expiresAt } : LeaseManager LeaseId).scheduleExpiry now
  let dropped : LeaseRun LeaseId := { run with manager, events := run.events ++ events }
  have hsound : dropped.Sound options :=
    h.1.drop hdrops hget hsize LeaseManager.size_pos_of_scheduleExpiry
  have hpatient : dropped.Patient options := h.2.drop hdrops hlaw
  have hnext : run.next (manager.scheduleIdleIfEmpty options now) events =
      dropped.next (dropped.manager.scheduleIdleIfEmpty options now) [] := by
    unfold next
    rw [List.append_nil]
    rfl
  rw [hnext]
  exact ⟨hsound.schedule, hpatient.schedule fun _ => hunstopped⟩

/-- A request that comes to nothing leaves everything as it is. -/
theorem Kept.noted (h : run.Kept options) {event : LeaseEvent LeaseId} (hdrops : event.drops = true)
    (hheld : LeaseEvent.leases options.ttlMs run.manager.expiresAt.get? event =
      run.manager.expiresAt.get?)
    (hlaw : LeaseLaw options.ttlMs run.events event) : Kept options (run.next run.manager [event]) := by
  have hdrops' : ∀ event' ∈ [event], event'.drops = true := by
    intro event' hmem
    rw [List.mem_singleton.1 hmem]
    exact hdrops
  have hlaw' : List.Lawful (fun before => LeaseLaw options.ttlMs (run.events ++ before)) [event] := by
    refine List.lawful_concat.2 ⟨List.lawful_nil, ?_⟩
    rw [List.append_nil]
    exact hlaw
  rw [next_of_timer (by cases run.manager.idleTimer <;> simp)]
  exact ⟨h.1.drop hdrops' hheld.symm (Nat.le_refl _) h.1.armed, h.2.drop hdrops' hlaw'⟩

/-- While a lease is held, `onIdle` was never invoked. -/
theorem Sound.unstopped (h : run.Sound options) (hpos : 0 < run.manager.expiresAt.size) :
    run.manager.Unstopped := by
  have hnone : run.manager.invocations = [] := by
    by_contra hne
    have hstopping := h.stopping.2 hne
    rw [(h.busy hpos).1] at hstopping
    cases hstopping
  intro invocation hmem
  rw [hnone] at hmem
  cases hmem

/-- Who calls `waitForIdle` awaits the grace period that is under way, if he awaits anything. -/
theorem Kept.wait (h : run.Kept options) (hunstopped : run.manager.Unstopped) :
    Kept options { run.next (run.manager.waitForIdle options now).1 [] with
      waits := run.waits ++ [⟨(run.manager.waitForIdle options now).2, run.events.length⟩] } := by
  have hsound : Sound options (run.next (run.manager.scheduleIdleIfEmpty options now) []) :=
    h.1.schedule
  have hpatient : Patient options (run.next (run.manager.scheduleIdleIfEmpty options now) []) :=
    h.2.schedule fun _ => hunstopped
  refine ⟨{ hsound with }, hpatient.fresh, ?_, hpatient.lawful⟩
  intro wait hwait promise hpromise
  rcases List.mem_append.1 hwait with hold | hnew
  · exact hpatient.waits wait hold promise hpromise
  · rw [List.mem_singleton.1 hnew] at hpromise ⊢
    have hidle : ¬ 0 < (run.manager.scheduleIdleIfEmpty options now).expiresAt.size := by
      intro hpos
      have hnone := (hsound.busy hpos).2.1
      exact absurd (hnone.symm.trans hpromise) (by simp)
    obtain ⟨timer, htimer⟩ := LeaseManager.exists_idleTimer_scheduleIdleIfEmpty hidle
    obtain ⟨-, hpending, hlt, -⟩ := hsound.grace timer htimer
    have heq : timer.promise = promise := Option.some.inj (hpending.symm.trans hpromise)
    refine .inr ⟨?_, heq ▸ hlt, .inl ⟨timer, htimer, heq⟩⟩
    intro event hevent
    simp only [next, List.append_nil, List.drop_left] at hevent
    split at hevent
    · rw [List.mem_singleton.1 hevent]
      rfl
    · cases hevent

/-- The expiry timer gives up the leases that have expired. -/
theorem Kept.expire (h : run.Kept options) (harmed : run.manager.timer.isSome = true) :
    Kept options (run.next (run.manager.onExpiryTimer options now).1
      ((run.manager.onExpiryTimer options now).2.map .expired)) := by
  obtain ⟨expiresAt, hmanager, hget, hsize⟩ :=
    LeaseManager.removeExpired_spec options.ttlMs run.manager now
  unfold LeaseManager.onExpiryTimer
  generalize run.manager.removeExpired now = removed at hmanager hget
  obtain ⟨manager, expired⟩ := removed
  cases hmanager
  have hexpired : ∀ event ∈ expired.map LeaseEvent.expired, ∃ leaseId, event = .expired leaseId := by
    intro event hmem
    obtain ⟨leaseId, -, rfl⟩ := List.mem_map.1 hmem
    exact ⟨leaseId, rfl⟩
  refine h.dropAndSchedule ?_ hget hsize ?_ (h.1.unstopped (h.1.armed harmed))
  · intro event hmem
    obtain ⟨leaseId, rfl⟩ := hexpired event hmem
    rfl
  · intro before event after heq
    obtain ⟨leaseId, rfl⟩ := hexpired event (by rw [heq]; simp)
    trivial

/-- A careful step keeps the invariant. -/
theorem Kept.step (h : run.Kept options) {input : LeaseInput LeaseId} {run' : LeaseRun LeaseId}
    (hcareful : run.Careful input) (hstep : run.step options input = some run') :
    run'.Kept options := by
  obtain ⟨hsound, hpatient⟩ := h
  cases input with
  | add leaseId now =>
      obtain ⟨haccepting, hunawaited⟩ := hcareful
      rw [LeaseRun.step] at hstep
      split at hstep
      · rename_i message hadd
        cases hstep
        refine Kept.noted ⟨hsound, hpatient⟩ rfl rfl ?_
        have hstopped := haccepting (LeaseManager.add_eq_error hadd)
        unfold LeaseManager.Unstopped at hstopped
        push Not at hstopped
        obtain ⟨invocation, hmem, houtcome⟩ := hstopped
        obtain ⟨index, hindex⟩ := List.mem_iff_getElem?.1 hmem
        refine ⟨index, (hsound.invoked index).2 (List.getElem?_eq_some_iff.1 hindex).1, ?_⟩
        intro hrejected
        obtain ⟨other, hother, hothers⟩ := (hsound.rejected index).1 hrejected
        rw [hindex] at hother
        cases hother
        exact houtcome hothers
      · rename_i manager hadd
        cases hstep
        exact ⟨hsound.add hadd (.inl rfl), hpatient.add hsound hadd hunawaited trivial⟩
  | renew leaseId now =>
      rw [LeaseRun.step] at hstep
      split at hstep
      · cases hstep
        exact Kept.noted ⟨hsound, hpatient⟩ rfl rfl trivial
      · rename_i hheld
        obtain ⟨expiresAt, hexpires⟩ := Option.ne_none_iff_exists'.1 hheld
        have hpos := OrderedMap.size_pos_of_get? hexpires
        obtain ⟨hrunning, -, hnone⟩ := hsound.busy hpos
        rw [LeaseManager.renew, if_neg hheld] at hstep
        split at hstep
        · rename_i message hadd
          rw [LeaseManager.add_eq_error hadd] at hrunning
          cases hrunning
        · rename_i manager hadd
          cases hstep
          refine ⟨hsound.add hadd (.inr rfl), hpatient.add hsound hadd ?_ ?_⟩
          · intro timer htimer
            rw [hnone] at htimer
            cases htimer
          · refine ⟨expiresAt, ?_, hcareful expiresAt hexpires⟩
            rw [hsound.held]
            exact hexpires
  | release leaseId now =>
      cases hstep
      refine Kept.dropAndSchedule ⟨hsound, hpatient⟩ ?_ ?_ (OrderedMap.size_erase_le _ _) ?_ hcareful
      · intro event hmem
        rw [List.mem_singleton.1 hmem]
        rfl
      · exact LeaseManager.get?_erase_eq_update run.manager.expiresAt leaseId
      · exact List.lawful_concat.2 ⟨List.lawful_nil, trivial⟩
  | waitForIdle now =>
      cases hstep
      exact Kept.wait ⟨hsound, hpatient⟩ hcareful
  | expiryTimer now =>
      rw [LeaseRun.step] at hstep
      split at hstep
      · cases hstep
      · rename_i deadline htimer
        split at hstep
        · cases hstep
        · cases hstep
          exact Kept.expire ⟨hsound, hpatient⟩ (by rw [htimer]; rfl)
  | idleTimer now =>
      rw [LeaseRun.step] at hstep
      split at hstep
      · cases hstep
      · rename_i timer htimer
        split at hstep
        · cases hstep
        · cases hstep
          rw [if_neg]
          · exact ⟨(hsound.fire htimer).2, hpatient.fire hsound htimer⟩
          · rw [(hsound.fire htimer).1]
            simp
  | onIdleCompletes index =>
      obtain ⟨invocation, hrunning, rfl⟩ := Option.map_eq_some_iff.1 hstep
      exact ⟨hsound.ended hrunning (.inl ⟨rfl, rfl⟩), hpatient.ended hrunning (.inl ⟨rfl, rfl⟩)⟩
  | onIdleRejects index =>
      obtain ⟨invocation, hrunning, rfl⟩ := Option.map_eq_some_iff.1 hstep
      exact ⟨hsound.ended hrunning (.inr ⟨rfl, rfl⟩), hpatient.ended hrunning (.inr ⟨rfl, rfl⟩)⟩

/-- A manager that was just constructed keeps the invariant. -/
theorem kept_initial (options : LeaseManagerOptions) :
    (initial : LeaseRun LeaseId).Kept options := by
  refine ⟨⟨rfl, ?_, ?_, ?_, ?_, ?_, ?_⟩, ?_, ?_, List.lawful_nil⟩
  · intro h
    cases h
  · intro h
    cases h
  · simp [initial, LeaseManager.initial]
  · simp [initial, LeaseManager.initial]
  · simp [initial, LeaseManager.initial]
  · intro timer h
    cases h
  · intro timer h
    cases h
  · intro wait h
    cases h

/-- Every careful run keeps the invariant. -/
theorem kept_of_run {inputs : List (LeaseInput LeaseId)} {run : LeaseRun LeaseId}
    (hrun : List.run (step options) initial inputs = some run)
    (hcareful : List.Along Careful (step options) initial inputs) : run.Kept options := by
  refine List.run_induction
    (motive := fun inputs run => List.Along Careful (step options) initial inputs → run.Kept options)
    (fun _ => kept_initial options) ?_ hrun hcareful
  intro inputs run input run' hrun ih hstep halong
  obtain ⟨hbefore, hlast⟩ := (List.along_concat hrun).1 halong
  exact (ih hbefore).step hlast hstep

/-- Who waits is served where the manager is idle, or a lease was added behind the call. -/
theorem Patient.settled (h : run.Patient options) {wait : IdleWait} (hwait : wait ∈ run.waits)
    (hover : run.Over wait) : run.manager.Settled wait.promise := by
  intro promise hpromise
  rcases h.waits wait hwait promise hpromise with hsettled | ⟨hquiet, -, hpending⟩
  · exact hsettled
  · exfalso
    rcases hover with ⟨-, hnone, hrunning⟩ | ⟨event, hmem, hadds⟩
    · rcases hpending with ⟨timer, htimer, -⟩ | ⟨invocation, hmem, -, houtcome⟩
      · rw [hnone] at htimer
        cases htimer
      · exact hrunning invocation hmem houtcome
    · rw [hquiet event hmem] at hadds
      cases hadds

/-- In every careful run, `onIdle` is invoked again only behind failures and never while a lease is
held or a new one came in the grace period, only leases that have not expired are renewed, leases are
refused only where `onIdle` runs or has completed, and who waits for the manager to be idle is served
once it is or a lease was added. -/
theorem protocol_of_run (options : LeaseManagerOptions) {inputs : List (LeaseInput LeaseId)}
    {run : LeaseRun LeaseId} (hrun : List.run (step options) initial inputs = some run)
    (hcareful : List.Along Careful (step options) initial inputs) :
    run.events.Lawful (LeaseLaw options.ttlMs) ∧
      ∀ wait ∈ run.waits, run.Over wait → run.manager.Settled wait.promise := by
  obtain ⟨-, hpatient⟩ := kept_of_run hrun hcareful
  exact ⟨hpatient.lawful, fun wait hwait => hpatient.settled hwait⟩

/-! ## Careful and careless runs -/

/-- A lease lives for ten milliseconds, a grace period for two. -/
def briefLeases : LeaseManagerOptions := ⟨10, 2⟩

/-- Two leases, one renewed in time, a grace period that ends in `onIdle`, and who waits for it. -/
def carefulInputs : List (LeaseInput ℕ) :=
  [.add 0 0, .waitForIdle 1, .renew 0 5, .add 1 6, .expiryTimer 15, .release 1 16, .waitForIdle 16,
    .idleTimer 18, .add 2 19, .onIdleCompletes 0]

instance (manager : LeaseManager LeaseId) : Decidable manager.Unstopped :=
  inferInstanceAs (Decidable (∀ invocation ∈ manager.invocations, invocation.outcome = .rejected))

instance (run : LeaseRun LeaseId) (input : LeaseInput LeaseId) : Decidable (run.Careful input) :=
  match input with
  | .add _ _ =>
      inferInstanceAs (Decidable ((run.manager.stopping = true → ¬ run.manager.Unstopped) ∧
        ∀ timer ∈ run.manager.idleTimer, ∀ wait ∈ run.waits, wait.promise ≠ some timer.promise))
  | .renew leaseId now =>
      inferInstanceAs (Decidable (∀ expiresAt ∈ run.manager.expiresAt.get? leaseId, now < expiresAt))
  | .release _ _ | .waitForIdle _ => inferInstanceAs (Decidable run.manager.Unstopped)
  | .expiryTimer _ | .idleTimer _ | .onIdleCompletes _ | .onIdleRejects _ => isTrue trivial

theorem protocol_of_carefulInputs :
    ∃ run, List.run (step briefLeases) initial carefulInputs = some run ∧
      run.events.Lawful (LeaseLaw briefLeases.ttlMs) ∧
      ∀ wait ∈ run.waits, run.Over wait → run.manager.Settled wait.promise := by
  have hrun : (List.run (step briefLeases) initial carefulInputs).isSome = true := by decide
  obtain ⟨run, hrun⟩ := Option.isSome_iff_exists.1 hrun
  exact ⟨run, hrun, protocol_of_run briefLeases hrun (by decide +kernel)⟩

/-- A caller waits, and the lease that is added in the grace period drops his promise. -/
def forgottenWait : List (LeaseInput ℕ) :=
  [.add 0 0, .release 0 1, .waitForIdle 1, .add 1 2]

/-- A lease is renewed behind its expiry, before the timer has fired. -/
def lateRenewal : List (LeaseInput ℕ) :=
  [.add 0 0, .renew 0 11]

/-- The gateway does not shut down, and a lease is refused all the same. -/
def failedShutdown : List (LeaseInput ℕ) :=
  [.add 0 0, .release 0 1, .idleTimer 3, .onIdleRejects 0, .add 1 4]

/-- Somebody waits where the gateway has shut down, and it shuts down again. -/
def secondShutdown : List (LeaseInput ℕ) :=
  [.add 0 0, .release 0 1, .idleTimer 3, .onIdleCompletes 0, .waitForIdle 4, .idleTimer 6]

/-- What a careless run shows is not lawful, or leaves a caller waiting. -/
theorem protocol_violated :
    (∃ run, List.run (step briefLeases) initial forgottenWait = some run ∧
      ¬ ∀ wait ∈ run.waits, run.Over wait → run.manager.Settled wait.promise) ∧
    (∃ run, List.run (step briefLeases) initial lateRenewal = some run ∧
      ¬ run.events.Lawful (LeaseLaw briefLeases.ttlMs)) ∧
    (∃ run, List.run (step briefLeases) initial failedShutdown = some run ∧
      ¬ run.events.Lawful (LeaseLaw briefLeases.ttlMs)) ∧
    ∃ run, List.run (step briefLeases) initial secondShutdown = some run ∧
      ¬ run.events.Lawful (LeaseLaw briefLeases.ttlMs) := by
  refine ⟨⟨_, rfl, fun h => ?_⟩, ⟨_, rfl, fun h => ?_⟩, ⟨_, rfl, fun h => ?_⟩, ⟨_, rfl, fun h => ?_⟩⟩
  · have hsettled := h _ (List.mem_singleton_self _)
      (.inr ⟨.added 1 2, List.mem_singleton_self _, rfl⟩) 0 rfl
    cases hsettled
  · obtain ⟨expiresAt, hheld, hlate⟩ := h [.added 0 0] (.renewed 0 11) [] rfl
    cases hheld
    exact absurd hlate (by decide)
  · obtain ⟨index, hinvoked, hrejected⟩ :=
      h [.added 0 0, .released 0, .graceBegan, .idleInvoked 0, .idleRejected 0] (.refused 1) [] rfl
    refine hrejected ?_
    have hindex : index = 0 := by simpa using hinvoked
    simp [hindex]
  · have hrejected := (h
      [.added 0 0, .released 0, .graceBegan, .idleInvoked 0, .idleCompleted 0, .graceBegan]
      (.idleInvoked 1) [] rfl).1 0 (by decide)
    exact absurd hrejected (by decide)

end LeaseRun

end RlyGateway
