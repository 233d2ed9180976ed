import RlyGateway.Core.CanonicalEvent
import RlyGateway.Library.Runs
import RlyGateway.Routes.StreamLifecycle

/-!
# The stream pump

`pumpStream` as a machine. Between two suspension points it runs on its own; at a suspension point
it waits for the source, for the consumer, or for `onComplete`, and the client, the timers and the
clock go on. An input is what happens next at a suspension point. The history is what an observer of
the pump sees, in order.
-/

namespace RlyGateway

/-- An incremental encoder: one event at a time, and a check at the end. -/
structure IncrementalEncoder (State Wire Failure : Type) where
  push : State → CanonicalEvent → Except Failure (List Wire × State)
  finish : State → Except Failure Unit

/-- The options of a pump. `hasOnComplete` says whether there is an `onComplete`. -/
structure StreamPumpOptions (State Wire Failure : Type) where
  encoder : IncrementalEncoder State Wire Failure
  initial : State
  frame : Wire → String
  errorFrame : Failure → String
  timeoutFrame : TimeoutCategory → String
  hasOnComplete : Bool

variable {State Wire Failure : Type}

/-- How the loop over the source is left while the source is still open. -/
inductive LoopExit (Failure : Type) where
  | broken
  | thrown (failure : Failure)
  | returned
deriving DecidableEq, Repr

/-- Where the pump is suspended. -/
inductive PumpControl (Wire Failure : Type) where
  | created
  | pulling
  | yielding (rest : List Wire)
  | closing (exit : LoopExit Failure)
  | completing
  | yieldingLast
  | done
deriving DecidableEq, Repr

/-- A chunk, by the function that formats it. -/
inductive PumpChunk where
  | frame (text : String)
  | error (text : String)
  | timeout (text : String)
deriving DecidableEq, Repr

/-- The chunk ends a stream. -/
def PumpChunk.isLast : PumpChunk → Bool
  | .frame _ => false
  | .error _ | .timeout _ => true

/-- The chunk is a timeout frame. -/
def PumpChunk.isTimeout : PumpChunk → Bool
  | .timeout _ => true
  | .frame _ | .error _ => false

/-- What is seen of a pump. -/
inductive PumpEntry where
  | pulled (event : CanonicalEvent)
  | exhausted
  | yielded (chunk : PumpChunk)
  | terminated (terminal : StreamTerminal)
  | left
  | onComplete
  | onFinished (metrics : StreamMetrics)
deriving DecidableEq, Repr

/-- The state of a pump. -/
structure PumpState (State Wire Failure : Type) where
  control : PumpControl Wire Failure
  lifecycle : StreamLifecycle
  encoder : State
  cleanEnd : Bool
  now : ℤ
  history : List PumpEntry

/-- What happens at a suspension point. -/
inductive PumpInput (Failure : Type) where
  | sourceEvent (event : CanonicalEvent)
  | sourceDone
  | sourceThrow (failure : Failure)
  | sourceClosed
  | sourceCloseThrow (failure : Failure)
  | consumerNext
  | consumerReturn
  | consumerThrow (failure : Failure)
  | onCompleteDone
  | onCompleteThrow (failure : Failure)
  | clientAbort
  | setupTimeout
  | idleTimeout
  | drain
  | tick (ms : ℕ)
deriving DecidableEq, Repr

namespace PumpState

/-- Add to the history. -/
def note (s : PumpState State Wire Failure) (entry : PumpEntry) : PumpState State Wire Failure :=
  { s with history := s.history ++ [entry] }

/-- Suspend. -/
def suspend (s : PumpState State Wire Failure) (control : PumpControl Wire Failure) :
    PumpState State Wire Failure :=
  { s with control }

/-- Change the lifecycle. -/
def update (s : PumpState State Wire Failure) (lifecycle : StreamLifecycle) :
    PumpState State Wire Failure :=
  { s with lifecycle }

/-- A terminal condition from outside. -/
def terminate (s : PumpState State Wire Failure) (terminal : StreamTerminal) :
    PumpState State Wire Failure :=
  if s.lifecycle.isTerminated then s
  else (s.update (s.lifecycle.terminate terminal)).note (.terminated terminal)

/-- Yield the last chunk of a stream that failed. -/
def sendLast (s : PumpState State Wire Failure) (chunk : PumpChunk) :
    PumpState State Wire Failure :=
  ({ s with cleanEnd := false }.note (.yielded chunk)).suspend .yieldingLast

end PumpState

namespace StreamPumpOptions

variable (options : StreamPumpOptions State Wire Failure)

/-- The `finally` block. -/
def finalize (s : PumpState State Wire Failure) : PumpState State Wire Failure :=
  let s := s.update (s.lifecycle.finish (!s.cleanEnd) s.cleanEnd)
  (s.note (.onFinished (s.lifecycle.metrics s.now))).suspend .done

/-- The `catch` block. -/
def handle (s : PumpState State Wire Failure) (failure : Failure) :
    PumpState State Wire Failure :=
  match s.lifecycle.terminal with
  | some .cancelled => finalize { s with cleanEnd := false }
  | some (.timeout category) => s.sendLast (.timeout (options.timeoutFrame category))
  | _ => s.sendLast (.error (options.errorFrame failure))

/-- What follows the loop. -/
def afterLoop (s : PumpState State Wire Failure) : PumpState State Wire Failure :=
  let s := { s with cleanEnd := s.lifecycle.terminal.isNone }
  if s.lifecycle.terminal.isNone then
    match options.encoder.finish s.encoder with
    | .error failure => options.handle s failure
    | .ok () =>
        -- without an `onComplete` there is nothing to wait for
        if options.hasOnComplete then (s.note .onComplete).suspend .completing else finalize s
  else finalize s

/-- The loop over the frames of an event. -/
def emitFrames (s : PumpState State Wire Failure) (frames : List Wire) :
    PumpState State Wire Failure :=
  match frames with
  | [] => (s.update s.lifecycle.noteEventDone).suspend .pulling
  | wire :: rest =>
      if s.lifecycle.isTerminated then (s.update s.lifecycle.noteEventDone).suspend .pulling
      else (s.note (.yielded (.frame (options.frame wire)))).suspend (.yielding rest)

/-- The body of the loop for an event. -/
def consume (s : PumpState State Wire Failure) (event : CanonicalEvent) :
    PumpState State Wire Failure :=
  let s := s.note (.pulled event)
  if s.lifecycle.isTerminated then s.suspend (.closing .broken)
  else
    let s := s.update s.lifecycle.noteEvent
    match options.encoder.push s.encoder event with
    | .error failure => s.suspend (.closing (.thrown failure))
    | .ok (frames, encoder) => options.emitFrames { s with encoder } frames

/-- The source was closed without an error. -/
def afterClose (s : PumpState State Wire Failure) :
    LoopExit Failure → PumpState State Wire Failure
  | .broken => options.afterLoop s
  | .thrown failure => options.handle s failure
  | .returned => finalize s

/-- The source threw when it was closed. An error that is already under way is kept. -/
def afterCloseThrow (s : PumpState State Wire Failure) (failure : Failure) :
    LoopExit Failure → PumpState State Wire Failure
  | .thrown earlier => options.handle s earlier
  | .broken | .returned => options.handle s failure

/-- What the consumer's `return` and `throw` do: before the start nothing of the body runs, in the
loop the source is closed, and behind the last chunk only the `finally` block is left. -/
def leave (s : PumpState State Wire Failure) (exit : LoopExit Failure) :
    Option (PumpState State Wire Failure) :=
  match s.control with
  | .created => some ((s.note .left).suspend .done)
  | .yielding _ => some ((s.note .left).suspend (.closing exit))
  | .yieldingLast => some (finalize s)
  | _ => none

/-- The pump up to its next suspension point. -/
def step (s : PumpState State Wire Failure) :
    PumpInput Failure → Option (PumpState State Wire Failure)
  | .sourceEvent event =>
      match s.control with
      | .pulling => some (options.consume s event)
      | _ => none
  | .sourceDone =>
      match s.control with
      | .pulling => some (options.afterLoop (s.note .exhausted))
      | _ => none
  | .sourceThrow failure =>
      match s.control with
      | .pulling => some (options.handle s failure)
      | _ => none
  | .sourceClosed =>
      match s.control with
      | .closing exit => some (options.afterClose s exit)
      | _ => none
  | .sourceCloseThrow failure =>
      match s.control with
      | .closing exit => some (options.afterCloseThrow s failure exit)
      | _ => none
  | .consumerNext =>
      match s.control with
      | .created => some (s.suspend .pulling)
      | .yielding rest => some (options.emitFrames (s.update s.lifecycle.noteFrame) rest)
      | .yieldingLast => some (finalize s)
      | _ => none
  | .consumerReturn => leave s .returned
  | .consumerThrow failure => leave s (.thrown failure)
  | .onCompleteDone =>
      match s.control with
      | .completing => some (finalize s)
      | _ => none
  | .onCompleteThrow failure =>
      match s.control with
      | .completing => some (options.handle s failure)
      | _ => none
  | .clientAbort => some (if s.lifecycle.clientBound then s.terminate .cancelled else s)
  | .setupTimeout =>
      if s.lifecycle.setupTimer then some (s.terminate (.timeout .setup)) else none
  | .idleTimeout => if s.lifecycle.idleTimer then some (s.terminate (.timeout .idle)) else none
  | .drain => some (s.update s.lifecycle.noteBackpressure)
  | .tick ms => some { s with now := s.now + ms }

/-- A pump that was not started. Where the client is already gone, it is cancelled. -/
def start (clientAborted : Bool) (startedAt : ℤ) : PumpState State Wire Failure where
  control := .created
  lifecycle := createStreamLifecycle clientAborted startedAt
  encoder := options.initial
  cleanEnd := false
  now := startedAt
  history := if clientAborted then [.terminated .cancelled] else []

/-- The state after a sequence of inputs. -/
def run (clientAborted : Bool) (startedAt : ℤ) (inputs : List (PumpInput Failure)) :
    Option (PumpState State Wire Failure) :=
  List.run options.step (options.start clientAborted startedAt) inputs

end StreamPumpOptions

end RlyGateway
