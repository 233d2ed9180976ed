import RlyGateway.Runtime.Update.Installer

/-!
# The update lifecycle

A run recovers the record an earlier run left, finishes a rollback that is due, and otherwise stages
a candidate, or resumes the activation of a staged one. An activation writes the phase it enters
before the step the phase stands for: it drains the running gateway, switches the active reference,
restarts the service, verifies what then serves, and commits; what fails after the switch is rolled
back once.
-/

namespace RlyGateway

variable (dependencies : UpdateRuntimeDependencies)

/-! ## Results -/

/-- How a run ends. -/
inductive UpdateOutcome where
  | installed
  | activated
  | pending
  | rolledBack
  | failed
  | noCandidate
deriving DecidableEq, Repr

/-- What a run returns. -/
structure UpdateRunResult where
  outcome : UpdateOutcome
  state : UpdateState
  phase : Option TransactionPhase
  currentVersion : String
  pendingVersion : Option String
  message : Option String
deriving DecidableEq, Repr

/-- The result that reports a record. -/
def resultOf (outcome : UpdateOutcome) (record : UpdateStateRecord) (message : Option String) :
    UpdateRunResult where
  outcome := outcome
  state := record.state
  phase := record.transaction.map (·.phase)
  currentVersion := record.currentVersion
  pendingVersion := record.pendingVersion
  message := message

/-! ## The running gateway -/

/-- What is found on the gateway's port. -/
def inspectRuntimeGateway : UpdateM RuntimeInspection :=
  observe dependencies dependencies.inspection .inspected

/-- The attested identity of the running gateway; what cannot be read is unknown. -/
def readRuntimeIdentity : UpdateM (Option RuntimeIdentity) := do
  let moment ← attempt dependencies .gateway
  if dependencies.instanceSecret moment = false then pure none
  else
    let now ← nextMoment dependencies
    note now (.identified (dependencies.identity now))
    pure (dependencies.identity now)

/-- Whether the running gateway answers an authenticated readiness check. -/
def authenticatedReadiness : UpdateM Bool := do
  let moment ← attempt dependencies .gateway
  if dependencies.instanceSecret moment = false then pure false
  else
    let now ← nextMoment dependencies
    pure (dependencies.ready now)

/-- The version of the running gateway, if it is attested. -/
def attestedVersion : RuntimeInspection → Option String
  | .attestedCompatible _ runtimeVersion => some (runtimeVersion.getD RUNTIME_VERSION)
  | _ => none

/-- Whether an inspection finds the attested resident gateway. -/
def isResident : RuntimeInspection → Bool
  | .attestedCompatible resident _ => resident
  | _ => false

/-- Why the running gateway may not be updated. -/
def assertUpdateableRuntime (runtime : RuntimeInspection) : UpdateM Unit :=
  match runtime with
  | .occupiedForeign =>
      throw (.thrown ("configured gateway or management port is owned by a foreign listener; " ++
        "refusing to update it (fail closed). Run rly doctor"))
  | .attestedIncompatible =>
      throw (.thrown ("configured gateway listener is attested but incompatible; " ++
        "align the configuration before updating"))
  | .attestedCompatible false _ =>
      throw (.thrown ("an active launcher-owned instance holds the gateway; " ++
        "RLY update only restarts attested resident runtimes, so it is left untouched"))
  | _ => pure ()

/-- The drain request: new sessions are refused from here on, if it is accepted. -/
def beginDrain : UpdateM Bool := do
  let progress ← get
  note progress.moment .fenceAttempted
  let state ← inspectRuntimeGateway dependencies
  if isResident state = false then pure false
  else
    let moment ← attempt dependencies .gateway
    if dependencies.instanceSecret moment = false then pure false
    else
      let status ← observe dependencies dependencies.drainStatus .drainRequested
      pure (decide (200 ≤ status ∧ status < 300 ∨ status = 409))

/-- The number of sessions, which is unknown where the identity cannot be read. -/
def currentActiveSessions : UpdateM (Option ℕ) := do
  let identity ← readRuntimeIdentity dependencies
  pure (identity.bind (·.activeSessions))

/-- The number of sessions, read until it is zero or the time is over. -/
def waitForSessionDrain : ℕ → UpdateM (Option ℕ)
  | 0 => currentActiveSessions dependencies
  | polls + 1 => do
      let activeSessions ← currentActiveSessions dependencies
      if activeSessions = some 0 then pure (some 0) else waitForSessionDrain polls

/-- The outcome of a service restart. -/
structure RestartResult where
  ok : Bool
  restarted : Bool
  reason : String

/-- The service registered, where there is a definition, and restarted or started. -/
def controlledRestart : UpdateM RestartResult := do
  let state ← inspectRuntimeGateway dependencies
  let running := isResident state
  let refused ← catching
    (do
      if dependencies.serviceDefinition then perform dependencies .service .registered id
      pure none)
    fun message => pure (some ("service definition registration failed: " ++ message))
  match refused with
  | some reason => pure ⟨false, false, reason⟩
  | none =>
      catching
        (do
          if running then perform dependencies .service .restarted id
          else perform dependencies .service .started id
          pure ⟨true, running, "service restarted"⟩)
        fun message => pure ⟨false, running, "service restart failed: " ++ message⟩

/-- Why an attested identity is not that of the candidate. -/
def identityMismatch (identity : RuntimeIdentity) (pendingVersion pendingArtifactId : Option String) :
    Option String :=
  if identity.protocolVersion.any (· ≠ RUNTIME_PROTOCOL_VERSION) then
    some ("restarted runtime management/data protocol " ++
      ((identity.protocolVersion.map toString).getD "undefined") ++
      " is not compatible with this RLY (" ++ toString RUNTIME_PROTOCOL_VERSION ++ ")")
  else if pendingVersion.isSome ∧ identity.runtimeVersion ≠ pendingVersion then
    some ("serving runtime version " ++ identity.runtimeVersion.getD "unknown" ++
      " does not match the pending candidate " ++ pendingVersion.getD "undefined")
  else
    match pendingArtifactId, identity.build with
    | some artifactId, some build =>
        match build.artifactId with
        | none => none
        | some serving =>
            if serving ≠ artifactId then
              some ("serving runtime artifact digest " ++ serving ++
                " does not match the pending candidate deployment " ++ artifactId ++
                "; same semantic version, different artifact")
            else if some build.semanticVersion ≠ pendingVersion then
              some ("serving build identity version " ++ build.semanticVersion ++
                " does not match the pending candidate " ++ pendingVersion.getD "undefined")
            else if build.controlProtocolVersion ≠ RUNTIME_PROTOCOL_VERSION then
              some ("serving build control protocol " ++ toString build.controlProtocolVersion ++
                " is not compatible (" ++ toString RUNTIME_PROTOCOL_VERSION ++ ")")
            else none
    | _, _ => none

/-- Why the attested gateway is not the candidate, ready to serve. -/
def verifyAttested (pendingVersion pendingArtifactId : Option String) : UpdateM (Option String) := do
  let identity ← readRuntimeIdentity dependencies
  match identity with
  | none => pure (some "restarted runtime identity could not be attested")
  | some identity =>
      match identityMismatch identity pendingVersion pendingArtifactId with
      | some reason => pure (some reason)
      | none =>
          if dependencies.cliStateVersion.any fun version =>
              !stateVersionsCompatible version identity.stateVersion then
            pure (some ("serving runtime state/schema version " ++
              ((identity.stateVersion.map toString).getD "undefined") ++
              " is not compatible with this RLY (" ++
              ((dependencies.cliStateVersion.map toString).getD "undefined") ++ ")"))
          else
            let ready ← authenticatedReadiness dependencies
            if ready then pure none
            else pure (some
              "restarted runtime readiness check failed (management/state open)")

/-- Why the restarted gateway is not the candidate, where an inspection settles it. -/
def verifyInspected (pendingVersion pendingArtifactId : Option String) :
    RuntimeInspection → Option (UpdateM (Option String))
  | .occupiedForeign =>
      some (pure (some ("configured gateway port is owned by a foreign listener after restart; " ++
        "RLY will not signal it (fail closed)")))
  | .attestedIncompatible =>
      some (pure (some
        "restarted runtime is attested but incompatible with the current configuration"))
  | .attestedCompatible _ _ => some (verifyAttested dependencies pendingVersion pendingArtifactId)
  | _ => none

/-- Why the restarted gateway is not the candidate, ready to serve; it is looked at until that is
settled or the time is over. -/
def verifyCandidateRuntime (pendingVersion pendingArtifactId : Option String) :
    ℕ → UpdateM (Option String)
  | 0 => do
      let state ← inspectRuntimeGateway dependencies
      (verifyInspected dependencies pendingVersion pendingArtifactId state).getD
        (pure (some ("restarted runtime did not become attested-compatible within the " ++
          "bounded window (state: " ++ state.name ++ ")")))
  | polls + 1 => do
      let state ← inspectRuntimeGateway dependencies
      (verifyInspected dependencies pendingVersion pendingArtifactId state).getD
        (verifyCandidateRuntime pendingVersion pendingArtifactId polls)

/-! ## Rollback -/

/-- The record of an update that only `rly doctor` can take further. -/
def recoveryRequiredRecord (record : UpdateStateRecord) (reason now : String) : UpdateStateRecord :=
  { record with
    state := .recoveryRequired
    transaction := record.transaction.map fun transaction =>
      { transaction with
        phase := .recoveryRequired
        recoveryReason := some reason
        updatedAt := now }
    updatedAt := now
    failureReason := some reason }

/-- The terminal state of an update. -/
def enterRecoveryRequired (record : UpdateStateRecord) (reason : String) :
    UpdateM UpdateRunResult := do
  let now ← currentTime dependencies
  let failed := recoveryRequiredRecord record reason now
  UpdateStateStore.write dependencies failed
  pure (resultOf .failed failed (some reason))

/-- The record of a rollback that has begun. -/
def rollingBackRecord (record : UpdateStateRecord) (reason now : String) : UpdateStateRecord :=
  { record with
    state := .rollbackRequired
    transaction := record.transaction.map fun transaction =>
      { transaction with
        phase := .rollingBack
        rollbackAttempts := 1
        lastRollbackOutcome := some ⟨false, now, some reason⟩
        updatedAt := now }
    updatedAt := now
    failureReason := some ("activation failed: " ++ reason) }

/-- The references restored, from the journal or through the previous reference. -/
def restoreReferences (record : UpdateStateRecord) : UpdateM CandidateInstallResult :=
  match record.transaction.bind fun transaction =>
      transaction.previousArtifactId.map fun artifactId => (transaction, artifactId) with
  | some (transaction, artifactId) => do
      LocalCandidateInstaller.setActiveReferences dependencies artifactId
        (some transaction.candidateArtifactId)
      pure
        { version := transaction.previousVersion.getD record.currentVersion
          artifactId
          previousVersion := some transaction.candidateVersion
          previousArtifactId := some transaction.candidateArtifactId }
  | none => LocalCandidateInstaller.restorePrevious dependencies

/-- The record of a rollback that has succeeded. -/
def rolledBackRecord (record : UpdateStateRecord) (restored : CandidateInstallResult)
    (reason now : String) (current : UpdateStateRecord) : UpdateStateRecord :=
  { current with
    state := .active
    currentVersion := restored.version
    pendingVersion := none
    currentArtifactId := some restored.artifactId
    previousArtifactId := restored.previousArtifactId.or current.previousArtifactId
    updatedAt := now
    lastActivationResult := some ⟨false, now, some reason⟩
    lastRollbackResult := some ⟨true, now, none⟩
    transaction := (record.transaction.map fun transaction =>
      { transaction with
        phase := .committed
        lastRollbackOutcome := some ⟨true, now, none⟩
        updatedAt := now }).or current.transaction
    failureReason := none }

/-- The service restarted, and the restored deployment verified. -/
def restartRestored (restored : CandidateInstallResult) : UpdateM Unit := do
  perform dependencies .service .restarted id
  let refused ← verifyCandidateRuntime dependencies (some restored.version)
    (some restored.artifactId) dependencies.readinessPolls
  match refused with
  | some reason => throw (.thrown ("rollback runtime verification failed: " ++ reason))
  | none => pure ()

/-- The body of a rollback: the references are restored, the service restarted where it serves the
candidate, and the restored deployment becomes the current one. -/
def rollbackBody (record rolledBack : UpdateStateRecord) (restart : Bool) (reason : String) :
    UpdateM UpdateRunResult := do
  let restored ← restoreReferences dependencies record
  if restart then restartRestored dependencies restored
  let active ← UpdateStateStore.transitionUnderLock dependencies [some .rollbackRequired]
    fun now current => rolledBackRecord record restored reason now (current.getD rolledBack)
  pure
    { resultOf .rolledBack active (some ("activation failed (" ++ reason ++
        "); rolled back to previous known-good version " ++ active.currentVersion)) with
      pendingVersion := none }

/-- The one rollback of an activation; one that fails is not tried again. -/
def rollback (record : UpdateStateRecord) (restart : Bool) (reason : String) :
    UpdateM UpdateRunResult := do
  if 1 ≤ (record.transaction.map (·.rollbackAttempts)).getD 0 then
    enterRecoveryRequired dependencies record
      ("rollback already attempted; activation failure is not automatically recoverable (" ++
        reason ++ "); run rly doctor")
  else
    let now ← currentTime dependencies
    UpdateStateStore.write dependencies (rollingBackRecord record reason now)
    catching (rollbackBody dependencies record (rollingBackRecord record reason now) restart reason)
      fun message => enterRecoveryRequired dependencies (rollingBackRecord record reason now)
        ("activation and rollback both failed: " ++ reason ++ "; " ++ message ++ "; run rly doctor")

/-! ## Activation -/

/-- The journal of an activation; a record without one is given one for the staged candidate. -/
def transactionFor (record : UpdateStateRecord) : UpdateM UpdateTransaction :=
  match record.transaction with
  | some transaction => pure transaction
  | none => do
      let verified ← LocalCandidateInstaller.verifyCandidate dependencies
      if verified.ok = false then
        throw (.thrown ("cannot resume activation: staged candidate failed verification: " ++
          verified.reason.getD "unknown" ++ "; run rly doctor"))
      else
        match verified.artifactId with
        | none =>
            throw (.thrown ("cannot resume activation: the staged candidate's immutable artifact " ++
              "identity is unavailable; re-run rly update"))
        | some artifactId =>
            let now ← currentTime dependencies
            pure
              { phase := .draining
                startedAt := record.updatedAt
                updatedAt := now
                candidateVersion := record.pendingVersion.getD verified.version
                candidateArtifactId := artifactId
                previousVersion := record.previousVersion
                previousArtifactId := record.previousArtifactId
                rollbackAttempts := 0
                lastRollbackOutcome := none
                recoveryReason := none }

/-- A record whose activation enters a phase. -/
def atPhase (state : UpdateState) (transaction : UpdateTransaction) (phase : TransactionPhase)
    (now : String) (current : UpdateStateRecord) : UpdateStateRecord :=
  { current with
    state
    transaction := some { transaction with phase, updatedAt := now }
    updatedAt := now }

/-- The record taken to a phase of its activation. -/
def enterPhase (start : List (Option UpdateState)) (state : UpdateState)
    (transaction : UpdateTransaction) (phase : TransactionPhase) (record : UpdateStateRecord) :
    UpdateM UpdateStateRecord :=
  UpdateStateStore.transitionUnderLock dependencies start fun now current =>
    atPhase state transaction phase now (current.getD record)

/-- An activation that waits for another run. -/
def leavePending (transaction : UpdateTransaction) (activating : UpdateStateRecord)
    (message : String) : UpdateM UpdateRunResult := do
  let pending ← enterPhase dependencies [some .activating] .pendingActivation transaction .draining
    activating
  pure (resultOf .pending pending (some message))

/-- The record of a committed activation. -/
def committedRecord (transaction : UpdateTransaction) (now : String) (current : UpdateStateRecord) :
    UpdateStateRecord :=
  { current with
    state := .active
    currentVersion := transaction.candidateVersion
    pendingVersion := none
    currentArtifactId := some transaction.candidateArtifactId
    pendingArtifactId := none
    previousVersion := transaction.previousVersion.or current.previousVersion
    previousArtifactId := transaction.previousArtifactId.or current.previousArtifactId
    transaction := some { transaction with phase := .committed, updatedAt := now }
    updatedAt := now
    lastActivationResult := some ⟨true, now, none⟩
    failureReason := none }

/-- The commit of an activation whose candidate is verified. -/
def commitActivation (transaction : UpdateTransaction) (probation : UpdateStateRecord) :
    UpdateM UpdateRunResult := do
  let committing ← enterPhase dependencies [some .activating] .activating transaction .committing
    probation
  let active ← UpdateStateStore.transitionUnderLock dependencies [some .activating]
    fun now current => committedRecord (committing.transaction.getD transaction) now
      (current.getD committing)
  pure
    { resultOf .activated active
        (some ("runtime activated at version " ++ active.currentVersion)) with
      pendingVersion := none }

/-- The candidate switched to, restarted, verified and committed; what fails is rolled back. -/
def activateSwitched (transaction : UpdateTransaction) (switching : UpdateStateRecord) :
    UpdateM UpdateRunResult := do
  let switchFailure ← catching
    (do
      let _ ← LocalCandidateInstaller.activateStaged dependencies
      pure none)
    fun message => pure (some ("activation reference switch failed: " ++ message))
  match switchFailure with
  | some reason => rollback dependencies switching false reason
  | none =>
      let restarted ← controlledRestart dependencies
      if restarted.ok = false then
        rollback dependencies switching restarted.restarted restarted.reason
      else
        let probation ← enterPhase dependencies [some .activating] .activating transaction .probation
          switching
        let journal := probation.transaction
        let refused ← verifyCandidateRuntime dependencies
          ((journal.map (·.candidateVersion)).or probation.pendingVersion)
          ((journal.map (·.candidateArtifactId)).or probation.pendingArtifactId)
          dependencies.readinessPolls
        match refused with
        | some reason => rollback dependencies probation true reason
        | none => commitActivation dependencies transaction probation

/-- The switch of the active reference, once the running gateway is drained. -/
def switchDrained (transaction : UpdateTransaction) (activating : UpdateStateRecord) :
    UpdateM UpdateRunResult := do
  let switching ← enterPhase dependencies [some .activating] .activating transaction .switching
    activating
  catching (activateSwitched dependencies transaction switching) fun message =>
    rollback dependencies activating true message

/-- Whether an inspection finds no gateway running. -/
def alreadyDown : RuntimeInspection → Bool
  | .notRunning | .staleRecord => true
  | _ => false

/-- The activation of a staged candidate. -/
def activate (record : UpdateStateRecord) (runtime : RuntimeInspection) : UpdateM UpdateRunResult := do
  let transaction ← transactionFor dependencies record
  let activating ← enterPhase dependencies [some .pendingActivation, some .activating] .activating
    transaction .draining record
  let fenceEngaged ← beginDrain dependencies
  if alreadyDown runtime = false ∧ dependencies.force = false ∧ fenceEngaged = false then
    leavePending dependencies transaction activating
      ("update installed; activation pending: the drain fence could not be established " ++
        "(runtime identity/secret unreadable or /drain unreachable). Existing sessions keep " ++
        "running; re-run rly update when the runtime is healthy, or use --force")
  else if alreadyDown runtime = false ∧ dependencies.force = false then
    let activeSessions ← waitForSessionDrain dependencies dependencies.drainPolls
    match activeSessions with
    | none =>
        leavePending dependencies transaction activating
          ("update installed; activation pending: the runtime session count could not be " ++
            "verified. Existing sessions keep running; re-run rly update when the runtime is " ++
            "healthy, or use --force")
    | some 0 => switchDrained dependencies transaction activating
    | some (sessions + 1) =>
        leavePending dependencies transaction activating
          ("update installed; activation pending drain (" ++ toString (sessions + 1) ++
            " session(s) active). Existing sessions keep running; re-run rly update when they " ++
            "end, or use --force")
  else switchDrained dependencies transaction activating

/-! ## Staging -/

/-- The record of a candidate that is being installed, without a journal. -/
def installingRecord (candidateVersion previousVersion now : String)
    (current : Option UpdateStateRecord) : UpdateStateRecord where
  state := .installing
  currentVersion := (current.map (·.currentVersion)).getD previousVersion
  pendingVersion := some candidateVersion
  previousVersion := current.bind (·.previousVersion)
  currentArtifactId := none
  pendingArtifactId := none
  previousArtifactId := none
  updatedAt := now
  lastActivationResult := current.bind (·.lastActivationResult)
  lastRollbackResult := current.bind (·.lastRollbackResult)
  failureReason := none
  transaction := none

/-- The record of a staged candidate, whose journal opens. -/
def pendingRecord (installing : UpdateStateRecord) (candidateVersion : String)
    (installed : CandidateInstallResult) (now : String) : UpdateStateRecord :=
  { installing with
    state := .pendingActivation
    pendingVersion := some candidateVersion
    previousVersion := installed.previousVersion.or installing.previousVersion
    pendingArtifactId := some installed.artifactId
    previousArtifactId := installed.previousArtifactId.or installing.previousArtifactId
    transaction := some
      { phase := .staged
        startedAt := now
        updatedAt := now
        candidateVersion
        candidateArtifactId := installed.artifactId
        previousVersion := installed.previousVersion
        previousArtifactId := installed.previousArtifactId
        rollbackAttempts := 0
        lastRollbackOutcome := none
        recoveryReason := none }
    updatedAt := now }

/-- The record of an update that has failed. -/
def failedRecord (record : UpdateStateRecord) (reason now : String) : UpdateStateRecord :=
  { record with state := .failed, failureReason := some reason, updatedAt := now }

/-- An update that ends as failed. -/
def failUpdate (record : UpdateStateRecord) (reason : String) : UpdateM UpdateRunResult := do
  let now ← currentTime dependencies
  UpdateStateStore.write dependencies (failedRecord record reason now)
  pure
    { outcome := .failed
      state := .failed
      phase := none
      currentVersion := record.currentVersion
      pendingVersion := record.pendingVersion
      message := some reason }

/-- Why a staged candidate may not be activated. -/
def preflightBlocker (pending : UpdateStateRecord) (candidateVersion : String)
    (cliStateVersion : Option ℕ) (manifest : CandidateManifest) : Option String :=
  match migrationPreflight pending (migrationClassOf (some manifest)) with
  | some blocker => some blocker
  | none =>
      cliStateVersion.bind fun version =>
        if stateVersionsCompatible version (some manifest.stateVersion) then none
        else some ("candidate " ++ candidateVersion ++ " requires durable state schema " ++
          toString manifest.stateVersion ++ " but this RLY understands " ++ toString version ++
          "; update is blocked before activation")

/-- A candidate installed and recorded as pending, unless it may not be activated: the pending record
to go on with, or the result of the failed update. -/
def stageCandidate (candidate : InstallCandidateInput) (runtime : RuntimeInspection)
    (record : Option UpdateStateRecord) : UpdateM (Except UpdateRunResult UpdateStateRecord) := do
  assertUpdateableRuntime runtime
  let previousVersion := ((attestedVersion runtime).or (record.map (·.currentVersion))).getD
    RUNTIME_VERSION
  let installing ← UpdateStateStore.transitionUnderLock dependencies
    [none, some .idle, some .active, some .failed, some .pendingActivation]
    fun now current => installingRecord candidate.version previousVersion now current
  let installed ← catching
    (do
      let installed ← LocalCandidateInstaller.installCandidate dependencies candidate
      pure (Except.ok installed))
    fun message => pure (Except.error message)
  match installed with
  | .error message => do
      let failed ← failUpdate dependencies installing
        ("candidate installation failed: " ++ message ++ "; the previous version keeps serving")
      pure (.error failed)
  | .ok installed => do
      let now ← currentTime dependencies
      let pending := pendingRecord installing candidate.version installed now
      UpdateStateStore.write dependencies pending
      let manifest ← catching (LocalCandidateInstaller.readManifest dependencies)
        fun _ => pure none
      match manifest.bind (preflightBlocker pending candidate.version dependencies.cliStateVersion) with
      | some blocker => do
          let failed ← failUpdate dependencies pending blocker
          pure (.error failed)
      | none => pure (.ok pending)

/-! ## Runs -/

/-- The result of a run with nothing to activate. -/
def noCandidateResult (record : Option UpdateStateRecord) (runtime : RuntimeInspection)
    (message : String) : UpdateRunResult where
  outcome := .noCandidate
  state := (record.map (·.state)).getD .idle
  phase := none
  currentVersion := ((attestedVersion runtime).or (record.map (·.currentVersion))).getD
    RUNTIME_VERSION
  pendingVersion := record.bind (·.pendingVersion)
  message := some message

/-- The activation of a staged candidate resumed, if it still verifies. -/
def resumeActivation (record : UpdateStateRecord) (runtime : RuntimeInspection) :
    UpdateM UpdateRunResult := do
  let verified ← LocalCandidateInstaller.verifyCandidate dependencies
  if verified.ok then activate dependencies record runtime
  else
    let reason := "installed candidate failed verification: " ++ verified.reason.getD "unknown" ++
      "; run rly doctor"
    UpdateStateStore.write dependencies
      { record with state := .failed, failureReason := some reason }
    pure
      { outcome := .failed
        state := .failed
        phase := none
        currentVersion := record.currentVersion
        pendingVersion := record.pendingVersion
        message := some reason }

/-- Whether a resumed rollback restarts the service: the resident gateway reports another version
than the record's current one. -/
def restartNeeded (record : UpdateStateRecord) : RuntimeInspection → Bool
  | .attestedCompatible resident runtimeVersion =>
      resident && decide (runtimeVersion.getD RUNTIME_VERSION ≠ record.currentVersion)
  | _ => false

/-- A run with a candidate: it is staged and, unless only installed, activated. -/
def updateTo (candidate : InstallCandidateInput) (record : Option UpdateStateRecord)
    (runtime : RuntimeInspection) : UpdateM UpdateRunResult := do
  let staged ← stageCandidate dependencies candidate runtime record
  match staged with
  | .error result => pure result
  | .ok pending =>
      if dependencies.installOnly then
        pure
          { outcome := .installed
            state := .pendingActivation
            phase := some .staged
            currentVersion := pending.currentVersion
            pendingVersion := pending.pendingVersion
            message := some ("candidate verified and installed; activation is pending (Wave 4). " ++
              "The serving runtime is unchanged — run `rly update` to activate") }
      else activate dependencies pending runtime

/-- A run without a candidate: a pending activation is resumed. -/
def updatePending (record : Option UpdateStateRecord) (runtime : RuntimeInspection) :
    UpdateM UpdateRunResult :=
  match record with
  | none =>
      pure (noCandidateResult none runtime "no update candidate provided; nothing to activate")
  | some record =>
      match record.state with
      | .idle | .active =>
          pure (noCandidateResult (some record) runtime
            "no update candidate provided; nothing to activate")
      | .pendingActivation => resumeActivation dependencies record runtime
      | state =>
          pure (noCandidateResult (some record) runtime ("update state is " ++ state.name ++
            "; a candidate artifact is required for activation " ++
            "(see rly update --help; distribution is #35)"))

/-- What a run does from the record it recovered. -/
def updateFrom (record : Option UpdateStateRecord) : UpdateM UpdateRunResult := do
  let runtime ← inspectRuntimeGateway dependencies
  match record.filter fun record => record.state = .recoveryRequired with
  | some record =>
      pure
        { resultOf .failed record (some (record.failureReason.getD
            "the update transaction requires manual recovery; run rly doctor")) with
          currentVersion := (attestedVersion runtime).getD record.currentVersion }
  | none =>
      match record.filter fun record => record.state = .rollbackRequired with
      | some record =>
          rollback dependencies record (restartNeeded record runtime) (record.failureReason.getD
            ("activation transaction was interrupted; " ++
              "rolling back to the previous known-good version"))
      | none =>
          match dependencies.candidate with
          | none => updatePending dependencies record runtime
          | some candidate => updateTo dependencies candidate record runtime

/-- One run of the update. -/
def runUpdate : UpdateM UpdateRunResult := do
  let _ ← attempt dependencies .acquireLock
  let current ← UpdateStateStore.read dependencies
  let recovered := current.map recoverUpdateState
  match recovered.filter fun record => current ≠ some record with
  | some record => UpdateStateStore.write dependencies record
  | none => pure ()
  updateFrom dependencies recovered

end RlyGateway
