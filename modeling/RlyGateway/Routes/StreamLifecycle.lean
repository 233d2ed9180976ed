import Mathlib.Data.Int.Notation
import Mathlib.Data.Nat.Notation

/-!
# The lifecycle of a stream

The record a stream keeps of its terminal condition, its timers and its counts. The first terminal
condition stands; only a clean end of the stream takes a cancellation back.
-/

namespace RlyGateway

/-- Which policy timeout. -/
inductive TimeoutCategory where
  | setup
  | idle
deriving DecidableEq, Repr

/-- The terminal condition of a stream. -/
inductive StreamTerminal where
  | completed
  | error
  | cancelled
  | timeout (timeoutCategory : TimeoutCategory)
deriving DecidableEq, Repr

/-- What is reported of a stream; without a terminal condition its kind is `none`. -/
structure StreamMetrics where
  eventCount : ℕ
  frameCount : ℕ
  backpressureCount : ℕ
  durationMs : ℤ
  terminalKind : Option StreamTerminal
deriving DecidableEq, Repr

/-- The state of a lifecycle. A timer is `true` while it can fire, `clientBound` while the client's
abort is listened to, `aborted` once the merged signal is. -/
structure StreamLifecycle where
  startedAt : ℤ
  terminal : Option StreamTerminal
  aborted : Bool
  eventCount : ℕ
  frameCount : ℕ
  backpressureCount : ℕ
  finished : Bool
  setupTimer : Bool
  idleTimer : Bool
  clientBound : Bool
deriving DecidableEq, Repr

namespace StreamLifecycle

/-- Neither timer can fire. -/
def clearTimers (lifecycle : StreamLifecycle) : StreamLifecycle :=
  { lifecycle with setupTimer := false, idleTimer := false }

/-- Record a terminal condition, unless one stands. -/
def terminate (lifecycle : StreamLifecycle) (terminal : StreamTerminal) : StreamLifecycle :=
  if lifecycle.terminal.isSome then lifecycle
  else { lifecycle.clearTimers with terminal := some terminal, aborted := true }

/-- A cancellation or a timeout was recorded. -/
def isTerminated (lifecycle : StreamLifecycle) : Bool := lifecycle.terminal.isSome

/-- One event was consumed. -/
def noteEvent (lifecycle : StreamLifecycle) : StreamLifecycle :=
  { lifecycle.clearTimers with eventCount := lifecycle.eventCount + 1 }

/-- One frame was taken by the downstream. -/
def noteFrame (lifecycle : StreamLifecycle) : StreamLifecycle :=
  { lifecycle with frameCount := lifecycle.frameCount + 1 }

/-- The downstream signalled backpressure. -/
def noteBackpressure (lifecycle : StreamLifecycle) : StreamLifecycle :=
  { lifecycle with backpressureCount := lifecycle.backpressureCount + 1 }

/-- All frames of an event were written: the idle timer runs again. -/
def noteEventDone (lifecycle : StreamLifecycle) : StreamLifecycle :=
  if lifecycle.terminal.isSome ∨ lifecycle.idleTimer then lifecycle
  else { lifecycle with idleTimer := true }

/-- The terminal condition at the end: the recorded one, but a clean end is not a cancellation. -/
def finalTerminal (terminal : Option StreamTerminal) (failed cleanEnd : Bool) : StreamTerminal :=
  match terminal with
  | none => if cleanEnd then .completed else if failed then .error else .cancelled
  | some .cancelled => if cleanEnd then .completed else .cancelled
  | some terminal => terminal

/-- The end of the stream, once: timers and listener are gone, the terminal condition is final.
`failed` is the outcome `error`. -/
def finish (lifecycle : StreamLifecycle) (failed cleanEnd : Bool) : StreamLifecycle :=
  if lifecycle.finished then lifecycle
  else { lifecycle.clearTimers with
    finished := true
    clientBound := false
    terminal := some (finalTerminal lifecycle.terminal failed cleanEnd)
    aborted := true }

/-- The metrics at a time. -/
def metrics (lifecycle : StreamLifecycle) (now : ℤ) : StreamMetrics where
  eventCount := lifecycle.eventCount
  frameCount := lifecycle.frameCount
  backpressureCount := lifecycle.backpressureCount
  durationMs := now - lifecycle.startedAt
  terminalKind := lifecycle.terminal

end StreamLifecycle

/-- A new lifecycle. Where the client is already gone, it is cancelled from the start. -/
def createStreamLifecycle (clientAborted : Bool) (startedAt : ℤ) : StreamLifecycle :=
  let lifecycle : StreamLifecycle :=
    { startedAt
      terminal := none
      aborted := false
      eventCount := 0
      frameCount := 0
      backpressureCount := 0
      finished := false
      setupTimer := false
      idleTimer := false
      clientBound := false }
  let lifecycle := if clientAborted then lifecycle.terminate .cancelled
    else { lifecycle with clientBound := true }
  -- the setup timer is set in either case
  { lifecycle with setupTimer := true }

namespace StreamLifecycle

variable {lifecycle : StreamLifecycle} {terminal : StreamTerminal}

theorem terminate_of_none (h : lifecycle.terminal = none) :
    lifecycle.terminate terminal =
      { lifecycle.clearTimers with terminal := some terminal, aborted := true } := by
  rw [terminate, h]
  rfl

@[simp] theorem terminal_noteEvent : lifecycle.noteEvent.terminal = lifecycle.terminal := rfl

@[simp] theorem finished_noteEvent : lifecycle.noteEvent.finished = lifecycle.finished := rfl

@[simp] theorem terminal_noteFrame : lifecycle.noteFrame.terminal = lifecycle.terminal := rfl

@[simp] theorem finished_noteFrame : lifecycle.noteFrame.finished = lifecycle.finished := rfl

@[simp] theorem terminal_noteEventDone : lifecycle.noteEventDone.terminal = lifecycle.terminal := by
  unfold noteEventDone
  split <;> rfl

@[simp] theorem finished_noteEventDone : lifecycle.noteEventDone.finished = lifecycle.finished := by
  unfold noteEventDone
  split <;> rfl

theorem finish_of_unfinished (h : lifecycle.finished = false) (failed cleanEnd : Bool) :
    lifecycle.finish failed cleanEnd = { lifecycle.clearTimers with
      finished := true
      clientBound := false
      terminal := some (finalTerminal lifecycle.terminal failed cleanEnd)
      aborted := true } := by
  rw [finish, h]
  rfl

/-- At the end a timeout stands exactly if it was recorded. -/
theorem finalTerminal_eq_timeout {recorded : Option StreamTerminal} {failed cleanEnd : Bool}
    {category : TimeoutCategory} :
    finalTerminal recorded failed cleanEnd = .timeout category ↔
      recorded = some (.timeout category) := by
  rcases recorded with _ | _ | _ | _ | category' <;> cases failed <;> cases cleanEnd <;>
    simp [finalTerminal]

end StreamLifecycle

end RlyGateway
