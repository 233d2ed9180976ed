import RlyGateway.Library.OrderedMap
import RlyGateway.Library.Runs

/-!
# The lease manager

A gateway serves as long as a launcher holds a lease. Leases expire unless they are renewed, and
where none is left for a grace period the gateway is asked to shut down. Each method and each timer
callback is one step: none of them awaits anything before it has changed the manager.
-/

namespace RlyGateway

variable {LeaseId : Type} [DecidableEq LeaseId]

/-! ## The manager -/

structure LeaseManagerOptions where
  ttlMs : ℕ
  idleGraceMs : ℕ

/-- The timer of a grace period: when it may fire, and what its callback has captured. -/
structure IdleTimer where
  deadline : ℕ
  generation : ℕ
  promise : ℕ

/-- What has become of an invocation of `onIdle`. -/
inductive OnIdleOutcome
  | running
  | completed
  | rejected
  deriving DecidableEq

/-- An invocation of `onIdle`, and the promise that is resolved behind it. -/
structure OnIdleInvocation where
  promise : ℕ
  outcome : OnIdleOutcome

/-- The fields of the manager, the promises that it has created, by number and whether each is
settled, and the invocations of `onIdle` that it has made. -/
structure LeaseManager (LeaseId : Type) where
  expiresAt : OrderedMap LeaseId ℕ
  timer : Option ℕ
  idleTimer : Option IdleTimer
  idlePromise : Option ℕ
  generation : ℕ
  stopping : Bool
  promises : List Bool
  invocations : List OnIdleInvocation

namespace LeaseManager

/-- The manager as it is constructed. -/
def initial : LeaseManager LeaseId := ⟨.empty, none, none, none, 0, false, [], []⟩

/-- Arms the timer for the lease that expires first. -/
def scheduleExpiry (manager : LeaseManager LeaseId) (now : ℕ) : LeaseManager LeaseId :=
  { manager with timer := manager.expiresAt.values.min?.map fun next => now + (next - now) }

/-- Drops the grace period that is under way, with its promise. -/
def cancelIdle (manager : LeaseManager LeaseId) : LeaseManager LeaseId :=
  { manager with idleTimer := none, idlePromise := none }

/-- Begins a grace period where no lease is held and none is under way. -/
def scheduleIdleIfEmpty (options : LeaseManagerOptions) (manager : LeaseManager LeaseId) (now : ℕ) :
    LeaseManager LeaseId :=
  if 0 < manager.expiresAt.size ∨ manager.idleTimer.isSome then manager
  else
    { manager with
      idlePromise := some manager.promises.length
      idleTimer := some ⟨now + options.idleGraceMs, manager.generation, manager.promises.length⟩
      promises := manager.promises ++ [false] }

def add (options : LeaseManagerOptions) (manager : LeaseManager LeaseId) (leaseId : LeaseId)
    (now : ℕ) : Except String (LeaseManager LeaseId) :=
  if manager.stopping then .error "Gateway is stopping"
  else
    let manager := { manager with generation := manager.generation + 1 }.cancelIdle
    let manager := { manager with expiresAt := manager.expiresAt.set leaseId (now + options.ttlMs) }
    .ok (manager.scheduleExpiry now)

def renew (options : LeaseManagerOptions) (manager : LeaseManager LeaseId) (leaseId : LeaseId)
    (now : ℕ) : Except String (LeaseManager LeaseId) :=
  if manager.expiresAt.get? leaseId = none then .error "Lease is not active"
  else manager.add options leaseId now

def release (options : LeaseManagerOptions) (manager : LeaseManager LeaseId) (leaseId : LeaseId)
    (now : ℕ) : LeaseManager LeaseId :=
  let manager := { manager with expiresAt := manager.expiresAt.erase leaseId }
  (manager.scheduleExpiry now).scheduleIdleIfEmpty options now

/-- The promise that the caller awaits, if it has to. -/
def waitForIdle (options : LeaseManagerOptions) (manager : LeaseManager LeaseId) (now : ℕ) :
    LeaseManager LeaseId × Option ℕ :=
  let manager := manager.scheduleIdleIfEmpty options now
  (manager, manager.idlePromise)

/-- Removes the leases that have expired and gives them, in the order of `onExpire`. -/
def removeExpired (manager : LeaseManager LeaseId) (now : ℕ) :
    LeaseManager LeaseId × List LeaseId :=
  manager.expiresAt.entries.foldl (fun (manager, expired) (leaseId, expiresAt) =>
    if now < expiresAt then (manager, expired)
    else ({ manager with expiresAt := manager.expiresAt.erase leaseId }, expired ++ [leaseId]))
    (manager, [])

/-- The callback of the expiry timer. -/
def onExpiryTimer (options : LeaseManagerOptions) (manager : LeaseManager LeaseId) (now : ℕ) :
    LeaseManager LeaseId × List LeaseId :=
  let (manager, expired) := manager.removeExpired now
  ((manager.scheduleExpiry now).scheduleIdleIfEmpty options now, expired)

/-- Settles a promise. -/
def resolve (manager : LeaseManager LeaseId) (promise : ℕ) : LeaseManager LeaseId :=
  { manager with promises := manager.promises.set promise true }

/-- Where this says so when the grace period ends, no lease has come in between. -/
def stillIdle (manager : LeaseManager LeaseId) (generation : ℕ) : Bool :=
  manager.expiresAt.size == 0 && manager.generation == generation

/-- The callback of the timer of a grace period. -/
def onIdleTimer (manager : LeaseManager LeaseId) (timer : IdleTimer) : LeaseManager LeaseId :=
  let manager := { manager with idleTimer := none }
  if !manager.stillIdle timer.generation then manager.resolve timer.promise
  else
    { manager with
      stopping := true
      invocations := manager.invocations ++ [⟨timer.promise, .running⟩] }

/-- An invocation of `onIdle` completes or rejects. The promise is resolved either way. -/
def onIdleEnded (manager : LeaseManager LeaseId) (index : ℕ) (invocation : OnIdleInvocation)
    (outcome : OnIdleOutcome) : LeaseManager LeaseId :=
  { manager with invocations := manager.invocations.set index { invocation with outcome } }.resolve
    invocation.promise

end LeaseManager

/-! ## Runs -/

/-- What is seen of a manager from outside. -/
inductive LeaseEvent (LeaseId : Type)
  | added (leaseId : LeaseId) (time : ℕ)
  | renewed (leaseId : LeaseId) (time : ℕ)
  | refused (leaseId : LeaseId)
  | inactive (leaseId : LeaseId)
  | released (leaseId : LeaseId)
  | expired (leaseId : LeaseId)
  | graceBegan
  | idleInvoked (index : ℕ)
  | idleCompleted (index : ℕ)
  | idleRejected (index : ℕ)
  deriving DecidableEq

/-- A call of `waitForIdle`: the promise that it awaits, and the events before it. -/
structure IdleWait where
  promise : Option ℕ
  since : ℕ

/-- A manager with what has been seen of it and who waits for it. -/
structure LeaseRun (LeaseId : Type) where
  manager : LeaseManager LeaseId
  events : List (LeaseEvent LeaseId)
  waits : List IdleWait

/-- A call, a timer that fires at or after its deadline, or the end of an invocation of `onIdle`. -/
inductive LeaseInput (LeaseId : Type)
  | add (leaseId : LeaseId) (now : ℕ)
  | renew (leaseId : LeaseId) (now : ℕ)
  | release (leaseId : LeaseId) (now : ℕ)
  | waitForIdle (now : ℕ)
  | expiryTimer (now : ℕ)
  | idleTimer (now : ℕ)
  | onIdleCompletes (index : ℕ)
  | onIdleRejects (index : ℕ)

namespace LeaseRun

/-- The run of a manager that was just constructed. -/
def initial : LeaseRun LeaseId := ⟨.initial, [], []⟩

/-- The manager moves on, and a grace period may have begun with that. -/
def next (run : LeaseRun LeaseId) (manager : LeaseManager LeaseId)
    (events : List (LeaseEvent LeaseId)) : LeaseRun LeaseId :=
  { run with
    manager
    events := run.events ++ events ++
      if run.manager.idleTimer.isNone ∧ manager.idleTimer.isSome then [.graceBegan] else [] }

/-- An invocation of `onIdle` that still runs. -/
def running? (run : LeaseRun LeaseId) (index : ℕ) : Option OnIdleInvocation :=
  (run.manager.invocations[index]?).filter fun invocation => invocation.outcome = .running

/-- One step. A timer that is not armed or not due does not fire. -/
def step (options : LeaseManagerOptions) (run : LeaseRun LeaseId) :
    LeaseInput LeaseId → Option (LeaseRun LeaseId)
  | .add leaseId now =>
      match run.manager.add options leaseId now with
      | .error _ => some (run.next run.manager [.refused leaseId])
      | .ok manager => some (run.next manager [.added leaseId now])
  | .renew leaseId now =>
      if run.manager.expiresAt.get? leaseId = none then
        some (run.next run.manager [.inactive leaseId])
      else
        match run.manager.renew options leaseId now with
        | .error _ => some (run.next run.manager [.refused leaseId])
        | .ok manager => some (run.next manager [.renewed leaseId now])
  | .release leaseId now =>
      some (run.next (run.manager.release options leaseId now) [.released leaseId])
  | .waitForIdle now =>
      let (manager, promise) := run.manager.waitForIdle options now
      some { run.next manager [] with waits := run.waits ++ [⟨promise, run.events.length⟩] }
  | .expiryTimer now =>
      match run.manager.timer with
      | none => none
      | some deadline =>
          if now < deadline then none
          else
            let (manager, expired) := run.manager.onExpiryTimer options now
            some (run.next manager (expired.map .expired))
  | .idleTimer now =>
      match run.manager.idleTimer with
      | none => none
      | some timer =>
          if now < timer.deadline then none
          else
            let manager := run.manager.onIdleTimer timer
            some (run.next manager
              (if manager.invocations.length = run.manager.invocations.length then []
              else [.idleInvoked run.manager.invocations.length]))
  | .onIdleCompletes index =>
      (run.running? index).map fun invocation =>
        run.next (run.manager.onIdleEnded index invocation .completed) [.idleCompleted index]
  | .onIdleRejects index =>
      (run.running? index).map fun invocation =>
        run.next (run.manager.onIdleEnded index invocation .rejected) [.idleRejected index]

end LeaseRun

end RlyGateway
