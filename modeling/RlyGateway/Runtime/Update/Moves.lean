import RlyGateway.Runtime.Update.Lifecycle

/-!
# Moves of an update

What an update may do to its files, one action after the other, whatever fails and wherever it is
stopped: which record it may write over which, and which reference it may point where. The moves say
nothing of how a run goes on; every run leaves a trail of them.
-/

namespace RlyGateway

/-! ## Records and files -/

/-- What a journal says of its candidate and of the deployment it displaces. -/
structure TransactionEvidence where
  candidateVersion : String
  candidateArtifactId : String
  previousVersion : Option String
  previousArtifactId : Option String
deriving DecidableEq, Repr

/-- The evidence in a journal. -/
def UpdateTransaction.evidence (transaction : UpdateTransaction) : TransactionEvidence where
  candidateVersion := transaction.candidateVersion
  candidateArtifactId := transaction.candidateArtifactId
  previousVersion := transaction.previousVersion
  previousArtifactId := transaction.previousArtifactId

namespace UpdateStateRecord

variable (record : UpdateStateRecord)

/-- The evidence in a record's journal. -/
def evidence : Option TransactionEvidence := record.transaction.map (·.evidence)

/-- The phase of a record's journal. -/
def phase : Option TransactionPhase := record.transaction.map (·.phase)

/-- The rollbacks a record's journal has counted. -/
def rollbackAttempts : ℕ := (record.transaction.map (·.rollbackAttempts)).getD 0

/-- A record whose journal, if it has one, says the same as a transaction. -/
structure Journals (transaction : UpdateTransaction) : Prop where
  evidence : ∀ evidence, record.evidence = some evidence → evidence = transaction.evidence
  attempts : transaction.rollbackAttempts = record.rollbackAttempts

/-- A record whose activation has come as far as its switch. -/
def PastDraining : Prop :=
  record.phase ≠ some .staged ∧ record.phase ≠ some .draining ∧
    (record.phase = none → record.state ≠ .installing ∧ record.state ≠ .failed)

/-! ### Records that are written -/

section Written

variable {record} {held current : UpdateStateRecord} {reason now : String}

theorem evidence_rollingBackRecord : (rollingBackRecord held reason now).evidence = held.evidence := by
  unfold evidence rollingBackRecord
  cases held.transaction with
  | none => rfl
  | some transaction => rfl

theorem pastDraining_rollingBackRecord : (rollingBackRecord held reason now).PastDraining := by
  unfold PastDraining phase rollingBackRecord
  cases held.transaction with
  | none => exact ⟨by rintro ⟨⟩, by rintro ⟨⟩, fun _ => ⟨by rintro ⟨⟩, by rintro ⟨⟩⟩⟩
  | some transaction => exact ⟨by rintro ⟨⟩, by rintro ⟨⟩, by rintro ⟨⟩⟩

theorem phase_rollingBackRecord :
    (rollingBackRecord held reason now).phase = none ∨
      (rollingBackRecord held reason now).phase = some .rollingBack := by
  unfold phase rollingBackRecord
  cases held.transaction with
  | none => exact .inl rfl
  | some transaction => exact .inr rfl

theorem evidence_recoveryRequiredRecord :
    (recoveryRequiredRecord held reason now).evidence = held.evidence := by
  unfold evidence recoveryRequiredRecord
  cases held.transaction with
  | none => rfl
  | some transaction => rfl

theorem pastDraining_recoveryRequiredRecord :
    (recoveryRequiredRecord held reason now).PastDraining := by
  unfold PastDraining phase recoveryRequiredRecord
  cases held.transaction with
  | none => exact ⟨by rintro ⟨⟩, by rintro ⟨⟩, fun _ => ⟨by rintro ⟨⟩, by rintro ⟨⟩⟩⟩
  | some transaction => exact ⟨by rintro ⟨⟩, by rintro ⟨⟩, by rintro ⟨⟩⟩

theorem versions_recoveryRequiredRecord :
    (recoveryRequiredRecord held reason now).versions = held.versions := by
  unfold versions recoveryRequiredRecord
  cases held.transaction with
  | none => rfl
  | some transaction => rfl

theorem transaction_eq_none_of_evidence (h : held.evidence = current.evidence)
    (hnone : held.transaction = none) : current.transaction = none := by
  unfold evidence at h
  rw [hnone, Option.map_none] at h
  exact Option.map_eq_none_iff.1 h.symm

theorem evidence_rolledBackRecord {restored : CandidateInstallResult}
    (h : held.evidence = current.evidence) :
    (rolledBackRecord held restored reason now current).evidence = current.evidence := by
  cases htransaction : held.transaction with
  | none =>
      have hnone := transaction_eq_none_of_evidence h htransaction
      unfold evidence rolledBackRecord
      rw [htransaction, hnone]
      rfl
  | some transaction =>
      rw [← h]
      unfold evidence rolledBackRecord
      rw [htransaction]
      rfl

theorem pastDraining_rolledBackRecord {restored : CandidateInstallResult}
    (h : held.evidence = current.evidence) :
    (rolledBackRecord held restored reason now current).PastDraining := by
  cases htransaction : held.transaction with
  | none =>
      have hnone := transaction_eq_none_of_evidence h htransaction
      unfold PastDraining phase rolledBackRecord
      rw [htransaction, hnone]
      exact ⟨by rintro ⟨⟩, by rintro ⟨⟩, fun _ => ⟨by rintro ⟨⟩, by rintro ⟨⟩⟩⟩
  | some transaction =>
      unfold PastDraining phase rolledBackRecord
      rw [htransaction]
      exact ⟨by rintro ⟨⟩, by rintro ⟨⟩, by rintro ⟨⟩⟩

theorem evidence_atPhase {state : UpdateState} {transaction : UpdateTransaction}
    {phase : TransactionPhase} :
    (atPhase state transaction phase now current).evidence = some transaction.evidence := rfl

theorem phase_atPhase {state : UpdateState} {transaction : UpdateTransaction}
    {phase : TransactionPhase} :
    (atPhase state transaction phase now current).phase = some phase := rfl

theorem journals_atPhase {state : UpdateState} {transaction : UpdateTransaction}
    {phase : TransactionPhase} :
    (atPhase state transaction phase now current).Journals transaction :=
  ⟨fun _ h => (Option.some.inj h).symm, rfl⟩

end Written

end UpdateStateRecord

namespace UpdateFiles

variable (files : UpdateFiles)

/-- A deployment that is there and has a manifest or an entrypoint. -/
def Complete (artifactId : String) : Prop :=
  ∃ deployment, files.deployments.get? artifactId = some deployment ∧
    ¬ (deployment.manifest = none ∧ deployment.hasEntrypoint = false)

/-- The version of a deployment. -/
def version? (artifactId : String) : Option String :=
  (files.deployments.get? artifactId).map (·.metadata.version)

/-- What is reported of a deployment that has become the staged one. -/
structure Reports (installed : CandidateInstallResult) : Prop where
  staged : files.staged = some installed.artifactId
  complete : files.Complete installed.artifactId
  previous : installed.previousArtifactId = files.active
  previousVersion : installed.previousVersion = files.active.bind files.version?
  displaced : ∀ artifactId, files.active = some artifactId → files.Complete artifactId

end UpdateFiles

/-- A manifest that forbids to activate its deployment: its migration is forward-only, or its state
version is not the one the command line understands. -/
def CandidateManifest.Blocked (cliStateVersion : Option ℕ) (manifest : CandidateManifest) : Prop :=
  migrationClassOf (some manifest) = .forwardOnly ∨
    ∃ version, cliStateVersion = some version ∧
      stateVersionsCompatible version (some manifest.stateVersion) = false

/-- A deployment with a manifest that forbids to activate it. -/
def UpdateFiles.Blocked (files : UpdateFiles) (cliStateVersion : Option ℕ) (artifactId : String) :
    Prop :=
  ∃ deployment manifest, files.deployments.get? artifactId = some deployment ∧
    deployment.manifest = some manifest ∧ manifest.Blocked cliStateVersion

/-! ## What has happened in a run -/

section Events

variable (events : List UpdateEvent)

/-- The actions that change nothing, and begin neither a switch nor a rollback. -/
def UpdateAction.isFinding : UpdateAction → Bool
  | inspected _ | fenceAttempted | drainRequested _ | identified _ | faulted _ => true
  | called call => call = .installCandidate || call = .verifyCandidate || call = .readManifest
  | _ => false

/-- An action has been taken. -/
def Happened (action : UpdateAction) : Prop := ∃ event ∈ events, event.action = action

/-- No record has been written. -/
def Unwritten : Prop := ∀ record, ¬ Happened events (.wrote record)

/-- The activation has come to its switch. -/
def Switching : Prop := ∃ record, Happened events (.wrote record) ∧ record.phase = some .switching

/-- References are being restored. -/
def Restoring : Prop :=
  Happened events (.called .setActiveReferences) ∨ Happened events (.called .restorePrevious)

/-- The terminal record could not be written, or not for certain. -/
def RecoveryFaulted : Prop := Happened events (.faulted (.writeRecord .recoveryRequired))

/-- References are only restored for another time where the terminal record could not be written. -/
def RestoresOnce : Prop := Restoring events → RecoveryFaulted events

/-- References may be restored: for the first time, or in the run of the activation where the terminal
record could not be written. -/
def MayRestore : Prop := Restoring events → Switching events ∧ RecoveryFaulted events

/-- The drain has been accepted, and no session was counted behind that. -/
def SessionsDrained : Prop :=
  ∃ before accepted between counted after status identity,
    events = before ++ accepted :: between ++ counted :: after ∧
      accepted.action = .drainRequested status ∧ (200 ≤ status ∧ status < 300 ∨ status = 409) ∧
      counted.action = .identified (some identity) ∧ identity.activeSessions = some 0

end Events

variable (dependencies : UpdateRuntimeDependencies)

/-- The gate before the switch: the fence has been attempted, and an inspection before that found no
gateway running, the gateway is drained, or the activation is forced. -/
def DrainGate (events : List UpdateEvent) : Prop :=
  ∃ before fence after, events = before ++ fence :: after ∧ fence.action = .fenceAttempted ∧
    (dependencies.force = true ∨
      (∃ runtime, Happened before (.inspected runtime) ∧ alreadyDown runtime = true) ∨
      SessionsDrained events)

/-- What the switch relies on: the staged deployment is the one that an earlier run has left, or its
manifest has been looked at. -/
def Preflighted (start : UpdateFiles) (events : List UpdateEvent) (files : UpdateFiles) : Prop :=
  (dependencies.candidate = none ∧ files.staged = start.staged ∧
      files.deployments = start.deployments ∧
      (start.record.map recoverUpdateState).map (·.state) = some .pendingActivation) ∨
    (dependencies.candidate.isSome ∧
      ((∀ artifactId, files.staged = some artifactId →
          ¬ files.Blocked dependencies.cliStateVersion artifactId) ∨
        Happened events (.faulted (.installer .readManifest))))

/-! ## Moves -/

/-- The phases of an activation, each from the ones it is entered from. -/
inductive EntersPhase (start : UpdateFiles) (events : List UpdateEvent) (files : UpdateFiles)
    (record : UpdateStateRecord) : UpdateState → TransactionPhase → Prop
  | draining (hstate : record.state = .pendingActivation)
      (hphase : record.phase = none ∨ record.phase = some .staged ∨ record.phase = some .draining) :
      EntersPhase start events files record .activating .draining
  | pending (hstate : record.state = .activating) (hphase : record.phase = some .draining) :
      EntersPhase start events files record .pendingActivation .draining
  | switching (hstate : record.state = .activating) (hphase : record.phase = some .draining)
      (hpreflight : Preflighted dependencies start events files) :
      EntersPhase start events files record .activating .switching
  | probation (hstate : record.state = .activating) (hphase : record.phase = some .switching)
      (hswitched : files.staged.isSome ∧ files.active = files.staged) :
      EntersPhase start events files record .activating .probation
  | committing (hstate : record.state = .activating) (hphase : record.phase = some .probation) :
      EntersPhase start events files record .activating .committing

/-- What a rollback reports of the deployment it has restored: the one the journal names, or the one
the previous reference named. -/
def RestoredAs (held : UpdateStateRecord) (files : UpdateFiles) (restored : CandidateInstallResult) :
    Prop :=
  (∃ transaction artifactId, held.transaction = some transaction ∧
      transaction.previousArtifactId = some artifactId ∧
      restored =
        { version := transaction.previousVersion.getD held.currentVersion
          artifactId
          previousVersion := some transaction.candidateVersion
          previousArtifactId := some transaction.candidateArtifactId }) ∨
    ((held.transaction.bind (·.previousArtifactId)) = none ∧
      files.version? restored.artifactId = some restored.version)

/-- The records an update may write. -/
inductive UpdateWrite (start : UpdateFiles) (events : List UpdateEvent) (files : UpdateFiles) :
    UpdateStateRecord → Prop
  | recovered {current : UpdateStateRecord} (hrecord : files.record = some current)
      (hstart : start.record = some current) (hunwritten : Unwritten events) :
      UpdateWrite start events files (recoverUpdateState current)
  | installing {candidate : InstallCandidateInput} {previousVersion now : String}
      (hcandidate : dependencies.candidate = some candidate)
      (hrecord : files.record = start.record.map recoverUpdateState)
      (hstate : files.record.map (·.state) ∈
        [none, some .idle, some .active, some .failed, some .pendingActivation])
      (hrestoring : ¬ Restoring events) :
      UpdateWrite start events files
        (installingRecord candidate.version previousVersion now files.record)
  | pending {candidate : InstallCandidateInput} {installing : UpdateStateRecord}
      {installed : CandidateInstallResult} {now : String}
      (hcandidate : dependencies.candidate = some candidate)
      (hrecord : files.record = some installing) (hstate : installing.state = .installing)
      (hartifact : installed.artifactId = candidate.source.artifactId)
      (hreports : files.Reports installed) :
      UpdateWrite start events files (pendingRecord installing candidate.version installed now)
  | failed {record : UpdateStateRecord} {reason now : String} (hrecord : files.record = some record)
      (hstate : record.state = .installing ∨ record.state = .pendingActivation) :
      UpdateWrite start events files (failedRecord record reason now)
  | entered {record : UpdateStateRecord} {transaction : UpdateTransaction} {state : UpdateState}
      {phase : TransactionPhase} {now : String} (hrecord : files.record = some record)
      (hjournals : record.Journals transaction)
      (henters : EntersPhase dependencies start events files record state phase) :
      UpdateWrite start events files (atPhase state transaction phase now record)
  | committed {record : UpdateStateRecord} {transaction : UpdateTransaction} {now : String}
      (hrecord : files.record = some record) (hstate : record.state = .activating)
      (hphase : record.phase = some .committing) (hjournals : record.Journals transaction) :
      UpdateWrite start events files (committedRecord transaction now record)
  | rollingBack {held record : UpdateStateRecord} {reason now : String}
      (hrecord : files.record = some record) (hevidence : held.evidence = record.evidence)
      (hattempts : held.rollbackAttempts = 0) (hpast : record.PastDraining)
      (hentered : held = record ∧ record.state = .rollbackRequired ∨
        Switching events ∧ RestoresOnce events ∧
          (record.state = .recoveryRequired → RecoveryFaulted events)) :
      UpdateWrite start events files (rollingBackRecord held reason now)
  | rolledBack {held record : UpdateStateRecord} {restored : CandidateInstallResult}
      {reason now : String} (hrecord : files.record = some record)
      (hevidence : held.evidence = record.evidence) (hattempts : held.rollbackAttempts = 0)
      (hstate : record.state = .rollbackRequired) (hpast : record.PastDraining)
      (hrestored : RestoredAs held files restored)
      (hactive : files.active = some restored.artifactId) :
      UpdateWrite start events files (rolledBackRecord held restored reason now record)
  | recoveryRequired {held record : UpdateStateRecord} {reason now : String}
      (hrecord : files.record = some record) (hevidence : held.evidence = record.evidence)
      (hpast : record.PastDraining) :
      UpdateWrite start events files (recoveryRequiredRecord held reason now)

/-- The references an update may point elsewhere. -/
inductive UpdatePointing (events : List UpdateEvent) (files : UpdateFiles) :
    InstallerCall → ReferenceName → Option String → Prop
  | staged {candidate : InstallCandidateInput} {record : UpdateStateRecord}
      (hcandidate : dependencies.candidate = some candidate) (hrecord : files.record = some record)
      (hstate : record.state = .installing) (hcomplete : files.Complete candidate.source.artifactId) :
      UpdatePointing events files .installCandidate .staged (some candidate.source.artifactId)
  | displaced {record : UpdateStateRecord} (hrecord : files.record = some record)
      (hstate : record.state = .activating) (hphase : record.phase = some .switching)
      (hdiffers : files.active ≠ files.staged) :
      UpdatePointing events files .activateStaged .previous files.active
  | switched {record : UpdateStateRecord} {artifactId : String} (hrecord : files.record = some record)
      (hstate : record.state = .activating) (hphase : record.phase = some .switching)
      (hstaged : files.staged = some artifactId) (hcomplete : files.Complete artifactId)
      (hprevious : files.previous = files.active) :
      UpdatePointing events files .activateStaged .active (some artifactId)
  | aborted {record : UpdateStateRecord} {transaction : UpdateTransaction} {artifactId : String}
      (hrecord : files.record = some record) (hstate : record.state = .rollbackRequired)
      (htransaction : record.transaction = some transaction)
      (hphase : transaction.phase = .rollingBack)
      (hprevious : transaction.previousArtifactId = some artifactId)
      (hcomplete : files.Complete artifactId) :
      UpdatePointing events files .setActiveReferences .previous
        (some transaction.candidateArtifactId)
  | restored {record : UpdateStateRecord} {transaction : UpdateTransaction} {artifactId : String}
      (hrecord : files.record = some record) (hstate : record.state = .rollbackRequired)
      (htransaction : record.transaction = some transaction)
      (hphase : transaction.phase = .rollingBack)
      (hprevious : transaction.previousArtifactId = some artifactId)
      (hcomplete : files.Complete artifactId) :
      UpdatePointing events files .setActiveReferences .active (some artifactId)
  | reverted {record : UpdateStateRecord} {artifactId : String} (hrecord : files.record = some record)
      (hstate : record.state = .rollbackRequired)
      (hphase : record.phase = none ∨ record.phase = some .rollingBack)
      (hnone : record.transaction.bind (·.previousArtifactId) = none)
      (hprevious : files.previous = some artifactId) (hcomplete : files.Complete artifactId) :
      UpdatePointing events files .restorePrevious .active (some artifactId)
  | exchanged {record : UpdateStateRecord} {event : UpdateEvent} (hrecord : files.record = some record)
      (hstate : record.state = .rollbackRequired)
      (hphase : record.phase = none ∨ record.phase = some .rollingBack)
      (hnone : record.transaction.bind (·.previousArtifactId) = none) (hevent : event ∈ events) :
      UpdatePointing events files .restorePrevious .previous event.files.active

/-- What an update may do to its files. -/
inductive UpdateMove (start : UpdateFiles) (events : List UpdateEvent) (files : UpdateFiles) :
    UpdateAction → UpdateFiles → Prop
  | found {action : UpdateAction} (hfinding : action.isFinding = true) :
      UpdateMove start events files action files
  | activates {record : UpdateStateRecord} (hrecord : files.record = some record)
      (hstate : record.state = .activating) (hphase : record.phase = some .switching)
      (hgate : DrainGate dependencies events) :
      UpdateMove start events files (.called .activateStaged) files
  | restores {record : UpdateStateRecord} {call : InstallerCall}
      (hcall : call = .setActiveReferences ∨ call = .restorePrevious)
      (hrecord : files.record = some record) (hstate : record.state = .rollbackRequired)
      (hwrote : Happened events (.wrote record)) (hmay : MayRestore events)
      (hrolling : record.phase = none ∨ record.phase = some .rollingBack)
      (hpast : record.PastDraining) :
      UpdateMove start events files (.called call) files
  | serves {record : UpdateStateRecord} {action : UpdateAction}
      (haction : action = .registered ∨ action = .restarted ∨ action = .started)
      (hrecord : files.record = some record)
      (hstate : record.state = .activating ∨ record.state = .rollbackRequired)
      (hpast : record.PastDraining) :
      UpdateMove start events files action files
  | deployed {candidate : InstallCandidateInput} (hcandidate : dependencies.candidate = some candidate)
      (habsent : files.deployments.get? candidate.source.artifactId = none) :
      UpdateMove start events files (.deployed candidate.source.artifactId)
        { files with
          deployments := files.deployments.set candidate.source.artifactId
            (LocalCandidateInstaller.deploymentOf candidate) }
  | pointed {call : InstallerCall} {reference : ReferenceName} {target : Option String}
      (hpointing : UpdatePointing dependencies events files call reference target) :
      UpdateMove start events files (.pointed call reference target) (files.point target reference)
  | wrote {record : UpdateStateRecord} (hwrite : UpdateWrite dependencies start events files record) :
      UpdateMove start events files (.wrote record) { files with record := some record }

/-- What a run has done to the files it started from. -/
inductive UpdateTrail (start : UpdateFiles) : List UpdateEvent → UpdateFiles → Prop
  | start : UpdateTrail start [] start
  | move {events : List UpdateEvent} {files files' : UpdateFiles} {action : UpdateAction}
      (htrail : UpdateTrail start events files)
      (hmove : UpdateMove dependencies start events files action files') (moment : ℕ) :
      UpdateTrail start (events ++ [⟨moment, files, action⟩]) files'

end RlyGateway
