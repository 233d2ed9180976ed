import Mathlib.Data.List.TakeWhile

/-!
# The launch of a client

`launchChild` in `src/runtime/child-launcher.ts` and the `ShutdownController` it stops its child with.
Signals, the abort of the caller, the timer of the shutdown and the end of the child come in any order.
-/

namespace RlyGateway

/-- What a child is killed with. -/
inductive ChildSignal where
  | interrupt
  | terminate
  | kill
deriving DecidableEq, Repr

/-- How a child ends: it is closed, with its exit code, or it could not be run. -/
inductive ChildEnd where
  | closed (code : Option ℤ)
  | error (message : String)
deriving DecidableEq, Repr

inductive LaunchEvent where
  /-- `SIGINT` or `SIGTERM` for the launcher. -/
  | interrupted
  | terminated
  /-- The caller aborts, or has aborted before. -/
  | aborted
  /-- The timer of the shutdown fires. -/
  | timedOut
  | ended (result : ChildEnd)
deriving DecidableEq, Repr

/-- The shutdown: whether it was asked for, and whether it is still waiting for the child. -/
inductive ShutdownState where
  | idle
  | waiting
  | settled
deriving DecidableEq, Repr

/-- A launch: the listeners that are there, the signal a stop is asked for with, the signals the child
was sent, and once the child has ended, its end; then the clean-up has been run this many times. -/
structure ChildLaunch where
  listensInterrupt : Bool
  listensTerminate : Bool
  listensAbort : Bool
  stopSignal : ChildSignal
  shutdown : ShutdownState
  kills : List ChildSignal
  result : Option ChildEnd
  cleanups : ℕ
deriving DecidableEq, Repr

namespace ChildLaunch

def start : ChildLaunch where
  listensInterrupt := true
  listensTerminate := true
  listensAbort := true
  stopSignal := .terminate
  shutdown := .idle
  kills := []
  result := none
  cleanups := 0

/-- `controller.shutdown(exit)`: the first call asks the child to stop and starts the timer. -/
def stopOnce (launch : ChildLaunch) : ChildLaunch :=
  match launch.shutdown with
  | .idle => { launch with shutdown := .waiting, kills := launch.kills ++ [launch.stopSignal] }
  | _ => launch

/-- The handlers; those of signals and of the abort are run once, and removed when the child has ended. -/
def step (launch : ChildLaunch) : LaunchEvent → ChildLaunch
  | .interrupted =>
      if launch.listensInterrupt then
        { launch with listensInterrupt := false, stopSignal := .interrupt }.stopOnce
      else launch
  | .terminated =>
      if launch.listensTerminate then
        { launch with listensTerminate := false, stopSignal := .terminate }.stopOnce
      else launch
  | .aborted =>
      if launch.listensAbort then { launch with listensAbort := false }.stopOnce else launch
  | .timedOut =>
      match launch.shutdown with
      | .waiting => { launch with shutdown := .settled, kills := launch.kills ++ [.kill] }
      | _ => launch
  | .ended result =>
      match launch.result with
      | some _ => launch
      | none =>
          { launch with
            listensInterrupt := false
            listensTerminate := false
            listensAbort := false
            -- the race of a shutdown goes to the child
            shutdown := if launch.shutdown = .waiting then .settled else launch.shutdown
            result := some result
            cleanups := launch.cleanups + 1 }

def run (events : List LaunchEvent) : ChildLaunch := events.foldl step start

end ChildLaunch

/-! ## What a launch does -/

/-- The signal an event asks the child to stop with. -/
def LaunchEvent.stopSignal? : LaunchEvent → Option ChildSignal
  | .interrupted => some .interrupt
  | .terminated | .aborted => some .terminate
  | _ => none

def LaunchEvent.result? : LaunchEvent → Option ChildEnd
  | .ended result => some result
  | _ => none

/-- What comes while the child runs. -/
def whileRunning (events : List LaunchEvent) : List LaunchEvent :=
  events.takeWhile fun event => event.result?.isNone

/-- The signals for the child: that of the first event that asks it to stop, and the kill if the timer
of the shutdown fires behind that. -/
def signalsFor : List LaunchEvent → List ChildSignal
  | [] => []
  | event :: events =>
      match event.stopSignal? with
      | none => signalsFor events
      | some signal => signal :: if .timedOut ∈ events then [.kill] else []

/-- The end of a child is the first one. -/
def firstEnd (events : List LaunchEvent) : Option ChildEnd := events.findSome? LaunchEvent.result?

namespace ChildLaunch

variable {launch : ChildLaunch} {events : List LaunchEvent}

/-- The child has ended, and nobody listens any more. -/
structure Over (launch : ChildLaunch) : Prop where
  interrupt : launch.listensInterrupt = false
  terminate : launch.listensTerminate = false
  abort : launch.listensAbort = false
  shutdown : launch.shutdown ≠ .waiting
  result : launch.result.isSome

theorem Over.step_eq (h : launch.Over) (event : LaunchEvent) : launch.step event = launch := by
  obtain ⟨result, hresult⟩ := Option.isSome_iff_exists.1 h.result
  cases event with
  | interrupted => rw [step, if_neg (by simp [h.interrupt])]
  | terminated => rw [step, if_neg (by simp [h.terminate])]
  | aborted => rw [step, if_neg (by simp [h.abort])]
  | timedOut =>
      have hshutdown := h.shutdown
      rw [step]
      split
      · contradiction
      · rfl
  | ended other => simp only [step, hresult]

theorem Over.foldl_eq (h : launch.Over) : events.foldl step launch = launch := by
  induction events with
  | nil => rfl
  | cons event events ih => rw [List.foldl_cons, h.step_eq, ih]

/-- The child ends: the launch is over, with this result and a clean-up more. -/
theorem over_ended (h : launch.result = none) (result : ChildEnd) :
    (launch.step (.ended result)).Over ∧
      (launch.step (.ended result)).kills = launch.kills ∧
        (launch.step (.ended result)).result = some result ∧
          (launch.step (.ended result)).cleanups = launch.cleanups + 1 := by
  simp only [step, h]
  refine ⟨⟨rfl, rfl, rfl, ?_, rfl⟩, trivial, trivial, trivial⟩
  show (if launch.shutdown = .waiting then ShutdownState.settled else launch.shutdown) ≠ .waiting
  split
  · decide
  · assumption

/-- What becomes of a launch whose child runs: the signals that are still sent, its result and the
clean-up that belongs to it. -/
structure Becomes (launch : ChildLaunch) (events : List LaunchEvent) (signals : List ChildSignal) :
    Prop where
  kills : (events.foldl step launch).kills = launch.kills ++ signals
  result : (events.foldl step launch).result = firstEnd events
  cleanups : (events.foldl step launch).cleanups =
    launch.cleanups + if (firstEnd events).isSome then 1 else 0

theorem becomes_nil (h : launch.result = none) : launch.Becomes [] [] :=
  ⟨(List.append_nil _).symm, h, rfl⟩

theorem becomes_ended (h : launch.result = none) (result : ChildEnd) (events : List LaunchEvent) :
    launch.Becomes (.ended result :: events) [] := by
  obtain ⟨hover, hkills, hresult, hcleanups⟩ := over_ended h result
  refine ⟨?_, ?_, ?_⟩
  all_goals rw [List.foldl_cons, hover.foldl_eq]
  · rw [hkills, List.append_nil]
  · exact hresult
  · exact hcleanups

/-- An event that is not the end of the child. -/
theorem Becomes.cons {event : LaunchEvent} {signals more : List ChildSignal}
    (h : (launch.step event).Becomes events more) (hevent : event.result? = none)
    (hkills : (launch.step event).kills = launch.kills ++ signals)
    (hcleanups : (launch.step event).cleanups = launch.cleanups) :
    launch.Becomes (event :: events) (signals ++ more) := by
  have hend : firstEnd (event :: events) = firstEnd events := by
    rw [firstEnd, List.findSome?_cons, hevent, firstEnd]
  refine ⟨?_, ?_, ?_⟩
  · rw [List.foldl_cons, h.kills, hkills, List.append_assoc]
  · rw [List.foldl_cons, h.result, hend]
  · rw [List.foldl_cons, h.cleanups, hcleanups, hend]

theorem whileRunning_cons {event : LaunchEvent} (h : event.result? = none) :
    whileRunning (event :: events) = event :: whileRunning events := by
  rw [whileRunning, List.takeWhile_cons_of_pos (by rw [h]; rfl), whileRunning]

/-- Once the child was asked to stop, only the timer does something to it. -/
theorem becomes_of_stopped (hidle : launch.shutdown ≠ .idle) (hresult : launch.result = none) :
    launch.Becomes events
      (if launch.shutdown = .waiting ∧ .timedOut ∈ whileRunning events then [.kill] else []) := by
  induction events generalizing launch with
  | nil =>
      rw [if_neg (by rintro ⟨-, ⟨⟩⟩)]
      exact becomes_nil hresult
  | cons event events ih =>
      -- what leaves the shutdown as it is
      have hkeeps (hevent : event.result? = none) (hother : event ≠ .timedOut)
          (hshutdown : (launch.step event).shutdown = launch.shutdown)
          (hresult' : (launch.step event).result = launch.result)
          (hkills : (launch.step event).kills = launch.kills)
          (hcleanups : (launch.step event).cleanups = launch.cleanups) :
          launch.Becomes (event :: events)
            (if launch.shutdown = .waiting ∧ .timedOut ∈ whileRunning (event :: events) then [.kill]
              else []) := by
        have hidle' : (launch.step event).shutdown ≠ .idle := by rwa [hshutdown]
        have hrest := ih hidle' (hresult'.trans hresult)
        rw [hshutdown] at hrest
        simp only [whileRunning_cons hevent, List.mem_cons, or_iff_right hother.symm]
        exact hrest.cons hevent (hkills.trans (List.append_nil _).symm) hcleanups
      have hstop (other : ChildLaunch) (hother : other.shutdown = launch.shutdown) :
          other.stopOnce = other := by
        rw [stopOnce]
        split
        · rename_i h
          exact absurd (hother.symm.trans h) hidle
        · rfl
      cases event with
      | interrupted =>
          by_cases hlistens : launch.listensInterrupt
          all_goals refine hkeeps rfl (by decide) ?_ ?_ ?_ ?_
          all_goals simp [step, hlistens, hstop]
      | terminated =>
          by_cases hlistens : launch.listensTerminate
          all_goals refine hkeeps rfl (by decide) ?_ ?_ ?_ ?_
          all_goals simp [step, hlistens, hstop]
      | aborted =>
          by_cases hlistens : launch.listensAbort
          all_goals refine hkeeps rfl (by decide) ?_ ?_ ?_ ?_
          all_goals simp [step, hlistens, hstop]
      | timedOut =>
          by_cases hwaiting : launch.shutdown = .waiting
          · have hidle' : (launch.step .timedOut).shutdown ≠ .idle := by simp [step, hwaiting]
            have hrest := ih hidle' (by simpa [step, hwaiting] using hresult)
            rw [if_neg (by simp [step, hwaiting])] at hrest
            rw [whileRunning_cons rfl, if_pos ⟨hwaiting, List.mem_cons_self⟩]
            have hkills : (launch.step .timedOut).kills = launch.kills ++ [.kill] := by
              simp [step, hwaiting]
            exact hrest.cons rfl hkills (by simp [step, hwaiting])
          · have hsettled : launch.step .timedOut = launch := by
              rw [step]
              split
              · contradiction
              · rfl
            have hrest := ih hidle hresult
            rw [if_neg fun h => hwaiting h.1] at hrest ⊢
            rw [← hsettled] at hrest
            exact hrest.cons rfl (by rw [hsettled, List.append_nil]) (by rw [hsettled])
      | ended result =>
          rw [if_neg (by rintro ⟨-, ⟨⟩⟩)]
          exact becomes_ended hresult result events

/-- A launch whose child has not been asked to stop. -/
theorem becomes_start (events : List LaunchEvent) :
    start.Becomes events (signalsFor (whileRunning events)) := by
  have hstopped {event : LaunchEvent} {signal : ChildSignal} (events : List LaunchEvent)
      (hevent : event.result? = none) (hsignal : event.stopSignal? = some signal)
      (hkills : (start.step event).kills = [signal]) (hwaiting : (start.step event).shutdown = .waiting)
      (hresult : (start.step event).result = none) (hcleanups : (start.step event).cleanups = 0) :
      start.Becomes (event :: events) (signalsFor (whileRunning (event :: events))) := by
    have hidle : (start.step event).shutdown ≠ .idle := by
      rw [hwaiting]
      decide
    have hrest : (start.step event).Becomes events _ := becomes_of_stopped hidle hresult
    rw [whileRunning_cons hevent, signalsFor, hsignal]
    simp only [hwaiting, true_and] at hrest
    exact hrest.cons hevent hkills hcleanups
  induction events with
  | nil => exact becomes_nil rfl
  | cons event events ih =>
      cases event with
      | interrupted => exact hstopped events rfl rfl rfl rfl rfl rfl
      | terminated => exact hstopped events rfl rfl rfl rfl rfl rfl
      | aborted => exact hstopped events rfl rfl rfl rfl rfl rfl
      | timedOut =>
          -- no timer has been started
          have hsame : start.step .timedOut = start := rfl
          rw [← hsame] at ih
          exact ih.cons rfl rfl rfl
      | ended result => exact becomes_ended rfl result events

end ChildLaunch

end RlyGateway
