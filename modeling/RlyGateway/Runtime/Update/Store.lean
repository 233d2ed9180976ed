import RlyGateway.Library.Interrupted
import RlyGateway.Runtime.Update.Types

/-!
# The update store

An update runs against the files under the control-plane directory, and against what it finds
outside: the clock, the running gateway, the service manager, and failures of the file system. It
takes its steps one moment after the other, may be stopped at any of them, and a step that fails may
have taken effect or not. The durable record is read, written and taken from state to state here, and
recovered at the start of each run from what an earlier one left.
-/

namespace RlyGateway

/-! ## Files and steps -/

/-- The references to deployments. -/
inductive ReferenceName where
  | staged
  | active
  | previous
deriving DecidableEq, Repr

/-- The update record, the references and the immutable deployments. -/
structure UpdateFiles where
  record : Option UpdateStateRecord
  staged : Option String
  active : Option String
  previous : Option String
  deployments : OrderedMap String Deployment

/-- The operations of the installer. -/
inductive InstallerCall where
  | installCandidate
  | verifyCandidate
  | activateStaged
  | setActiveReferences
  | restorePrevious
  | readManifest
deriving DecidableEq, Repr

/-- The steps that can fail. -/
inductive UpdateStep where
  | acquireLock
  | readRecord
  | writeRecord (state : UpdateState)
  | installer (call : InstallerCall)
  | deploy
  | writeReference (call : InstallerCall) (reference : ReferenceName)
  | gateway
  | service
deriving DecidableEq, Repr

/-- What an update does and finds. -/
inductive UpdateAction where
  | wrote (record : UpdateStateRecord)
  | called (call : InstallerCall)
  | deployed (artifactId : String)
  | pointed (call : InstallerCall) (reference : ReferenceName) (target : Option String)
  | registered
  | restarted
  | started
  | inspected (runtime : RuntimeInspection)
  | fenceAttempted
  | drainRequested (status : ℕ)
  | identified (identity : Option RuntimeIdentity)
  | faulted (step : UpdateStep)
deriving DecidableEq, Repr

/-- An action, with its moment and the files before it. -/
structure UpdateEvent where
  moment : ℕ
  files : UpdateFiles
  action : UpdateAction

/-- The files, what has happened so far, and the moment of the run. -/
structure UpdateProgress where
  files : UpdateFiles
  events : List UpdateEvent
  moment : ℕ

/-- Why an update stops: the process is gone, or an error was thrown. -/
inductive UpdateStop where
  | crashed
  | thrown (message : String)
deriving DecidableEq, Repr

/-- The message of a thrown error. -/
def UpdateStop.message? : UpdateStop → Option String
  | crashed => none
  | thrown message => some message

/-- A failure of a step, that may have taken effect before it failed. -/
structure UpdateFault where
  landed : Bool
  message : String
deriving DecidableEq, Repr

/-- The options of a run, and what it finds outside at each of its moments. -/
structure UpdateRuntimeDependencies where
  candidate : Option InstallCandidateInput
  installOnly : Bool
  force : Bool
  serviceDefinition : Bool
  cliStateVersion : Option ℕ
  drainPolls : ℕ
  readinessPolls : ℕ
  now : ℕ → String
  crashes : ℕ → Bool
  fault : UpdateStep → ℕ → Option UpdateFault
  inspection : ℕ → RuntimeInspection
  instanceSecret : ℕ → Bool
  drainStatus : ℕ → ℕ
  identity : ℕ → Option RuntimeIdentity
  ready : ℕ → Bool

/-- A run without a candidate that finds no gateway running, and nothing that fails. -/
def UpdateRuntimeDependencies.undisturbed : UpdateRuntimeDependencies where
  candidate := none
  installOnly := false
  force := false
  serviceDefinition := false
  cliStateVersion := none
  drainPolls := 0
  readinessPolls := 0
  now _ := "2026-01-01T00:00:00.000Z"
  crashes _ := false
  fault _ _ := none
  inspection _ := .notRunning
  instanceSecret _ := true
  drainStatus _ := 200
  identity _ := none
  ready _ := true

/-- A program of an update. -/
abbrev UpdateM := EStateM UpdateStop UpdateProgress

variable (dependencies : UpdateRuntimeDependencies)

/-- The next moment, unless the process is gone. -/
def nextMoment : UpdateM ℕ := do
  let progress ← get
  if dependencies.crashes progress.moment then throw .crashed
  else
    set { progress with moment := progress.moment + 1 }
    pure progress.moment

/-- An action on the files, at a moment. -/
def UpdateProgress.act (progress : UpdateProgress) (moment : ℕ) (action : UpdateAction)
    (change : UpdateFiles → UpdateFiles) : UpdateProgress :=
  { progress with
    files := change progress.files
    events := progress.events ++ [⟨moment, progress.files, action⟩] }

/-- An action that changes nothing. -/
def note (moment : ℕ) (action : UpdateAction) : UpdateM Unit :=
  modify fun progress => progress.act moment action id

/-- The failure of a step. -/
def fail {α : Type} (step : UpdateStep) (moment : ℕ) (fault : UpdateFault) : UpdateM α := do
  note moment (.faulted step)
  throw (.thrown fault.message)

/-- A step that can fail and changes nothing. -/
def attempt (step : UpdateStep) : UpdateM ℕ := do
  let moment ← nextMoment dependencies
  match dependencies.fault step moment with
  | none => pure moment
  | some fault => fail step moment fault

/-- A step that takes effect, fails, or fails after it took effect. -/
def perform (step : UpdateStep) (action : UpdateAction) (change : UpdateFiles → UpdateFiles) :
    UpdateM Unit := do
  let moment ← nextMoment dependencies
  match dependencies.fault step moment with
  | none => modify fun progress => progress.act moment action change
  | some fault =>
      modify fun progress => if fault.landed then progress.act moment action change else progress
      fail step moment fault

/-- What the running gateway is found to be. -/
def observe {α : Type} (finding : ℕ → α) (action : α → UpdateAction) : UpdateM α := do
  let moment ← attempt dependencies .gateway
  note moment (action (finding moment))
  pure (finding moment)

/-- The time. -/
def currentTime : UpdateM String := do
  let moment ← nextMoment dependencies
  pure (dependencies.now moment)

/-- The files as they are. -/
def currentFiles : UpdateM UpdateFiles := do
  let progress ← get
  pure progress.files

/-- A program with the errors it throws handled; a crash is not an error. -/
def catching {α : Type} (body : UpdateM α) (handler : String → UpdateM α) : UpdateM α :=
  body.rescue UpdateStop.message? handler

/-! ## The record -/

namespace UpdateStateStore

/-- The record, if there is one. -/
def read : UpdateM (Option UpdateStateRecord) := do
  let _ ← attempt dependencies .readRecord
  let files ← currentFiles
  pure files.record

/-- The record replaced; one with an empty version is refused. -/
def write (record : UpdateStateRecord) : UpdateM Unit := do
  if "" ∈ record.versions then
    throw (.thrown "Too small: expected string to have >=1 characters")
  else
    perform dependencies (.writeRecord record.state) (.wrote record) fun files =>
      { files with record := some record }

/-- The text of the states a transition may start from. -/
def stateNames (states : List (Option UpdateState)) : String :=
  "|".intercalate (states.map fun state => state.elim "none" UpdateState.name)

/-- The record taken to its next state, if it is in one of the given ones. -/
def transitionUnderLock (start : List (Option UpdateState))
    (update : String → Option UpdateStateRecord → UpdateStateRecord) : UpdateM UpdateStateRecord := do
  let current ← read dependencies
  let observed := current.map (·.state)
  if start ≠ [] ∧ observed ∉ start then
    throw (.thrown ("update state transition blocked: expected " ++ stateNames start ++
      ", found " ++ observed.elim "none" UpdateState.name))
  else
    let now ← currentTime dependencies
    write dependencies (update now current)
    pure (update now current)

end UpdateStateStore

/-! ## Recovery -/

/-- The record of an interrupted activation with a journal, by the journal's phase. -/
def recoverTransaction (record : UpdateStateRecord) (transaction : UpdateTransaction) :
    UpdateStateRecord :=
  match transaction.phase with
  | .committed =>
      { record with
        state := .active
        currentVersion := transaction.candidateVersion
        pendingVersion := none
        currentArtifactId := some transaction.candidateArtifactId
        pendingArtifactId := none
        previousArtifactId := transaction.previousArtifactId
        lastActivationResult := some ⟨true, transaction.updatedAt, none⟩
        failureReason := none }
  | .staged | .draining => { record with state := .pendingActivation, failureReason := none }
  | .switching | .probation | .committing =>
      { record with
        state := .rollbackRequired
        failureReason := some ("activation transaction was interrupted during " ++
          transaction.phase.name ++
          "; rollback to the previous known-good version is required") }
  | .rollingBack =>
      if 1 ≤ transaction.rollbackAttempts then
        { record with
          state := .recoveryRequired
          failureReason :=
            some "rollback was interrupted after the bounded attempt; run rly doctor" }
      else
        { record with
          state := .rollbackRequired
          failureReason :=
            some "rollback was interrupted; one bounded rollback attempt will resume" }
  | .recoveryRequired => { record with state := .recoveryRequired }

/-- The record a run starts from, recovered from the one an earlier run left. -/
def recoverUpdateState (record : UpdateStateRecord) : UpdateStateRecord :=
  match record.transaction with
  | some transaction => recoverTransaction record transaction
  | none =>
      match record.state with
      | .installing =>
          { record with
            state := .failed
            failureReason :=
              some "update installation was interrupted; re-run rly update to retry" }
      | .pendingActivation =>
          if record.pendingVersion = none then
            { record with
              state := .failed
              failureReason :=
                some "pending activation lost its candidate reference; re-run rly update" }
          else record
      | .activating =>
          if record.previousVersion = none then
            { record with
              state := .failed
              failureReason :=
                some "activation interrupted without a rollback reference; run rly doctor" }
          else
            { record with
              state := .rollbackRequired
              failureReason := some ("activation was interrupted; " ++
                "rollback to the previous version is required") }
      | _ => record

end RlyGateway
