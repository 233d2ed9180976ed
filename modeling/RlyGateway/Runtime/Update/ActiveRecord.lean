import RlyGateway.Runtime.Update.Histories

/-!
# Records of active deployments

A record that says `active` names the deployment that the active reference is on, wherever the runs
are stopped, up to the run that starts behind a recorded rollback: that run takes the journal of the
rollback for the one of a commit.
-/

namespace RlyGateway

variable {dependencies : UpdateRuntimeDependencies} {start files files' : UpdateFiles}
  {record : UpdateStateRecord} {transaction : UpdateTransaction}

/-! ## What an active record says -/

/-- The active reference is on a complete deployment, and the record names that and its version. -/
structure UpdateFiles.Serves (files : UpdateFiles) (record : UpdateStateRecord) : Prop where
  active : files.active = record.currentArtifactId
  complete : ∃ artifactId, files.active = some artifactId ∧ files.Complete artifactId
  version : files.active.bind files.version? = some record.currentVersion

/-- The record names the candidate of its journal. -/
def UpdateStateRecord.NamesCandidate (record : UpdateStateRecord) : Prop :=
  ∃ transaction, record.transaction = some transaction ∧
    record.currentArtifactId = some transaction.candidateArtifactId ∧
    record.currentVersion = transaction.candidateVersion

/-- The last activation of a record has been rolled back. -/
def UpdateStateRecord.reverted (record : UpdateStateRecord) : Bool :=
  (record.lastActivationResult.map (·.ok)) = some false

/-- A record that says `active` serves what it names, and a journal names its candidate with the
version of its deployment. -/
structure UpdateFiles.Recorded (files : UpdateFiles) : Prop where
  sound : files.Sound
  complete : ∀ artifactId, files.active = some artifactId → files.Complete artifactId
  declared : ∀ record transaction, files.record = some record →
    record.transaction = some transaction → files.Complete transaction.candidateArtifactId ∧
      files.version? transaction.candidateArtifactId = some transaction.candidateVersion
  serves : ∀ record, files.record = some record → record.state = .active →
    files.Serves record ∧ (record.reverted = false → record.NamesCandidate)

/-- A candidate whose version is the one of its manifest, and of the deployment with its id. -/
def UpdateFiles.Declares (files : UpdateFiles) (dependencies : UpdateRuntimeDependencies) : Prop :=
  ∀ candidate, dependencies.candidate = some candidate →
    (LocalCandidateInstaller.deploymentOf candidate).metadata.version = candidate.version ∧
      ∀ deployment, files.deployments.get? candidate.source.artifactId = some deployment →
        deployment.metadata.version = candidate.version

/-- No rollback is recorded that the next run would take for a commit. -/
def UpdateFiles.Unreverted (files : UpdateFiles) : Prop :=
  ∀ record, files.record = some record → record.state = .active → record.reverted = false

/-! ## Moves -/

/-- What serves goes on to where deployments are only added. -/
theorem UpdateFiles.Serves.grows (h : files.Serves record) (hactive : files'.active = files.active)
    (hgrows : files.Grows files') : files'.Serves record := by
  obtain ⟨artifactId, hserving, hcomplete⟩ := h.complete
  refine ⟨hactive.trans h.active, ⟨artifactId, hactive.trans hserving, hcomplete.grows hgrows⟩, ?_⟩
  have hversion := h.version
  rw [hserving, Option.bind_some] at hversion
  rw [hactive, hserving, Option.bind_some, hcomplete.version?_eq hgrows, hversion]

theorem UpdateFiles.Declares.version? {candidate : InstallCandidateInput} {artifactId : String}
    (h : files.Declares dependencies) (hcandidate : dependencies.candidate = some candidate)
    (hartifact : artifactId = candidate.source.artifactId) (hcomplete : files.Complete artifactId) :
    files.version? artifactId = some candidate.version := by
  obtain ⟨deployment, hdeployment, -⟩ := hcomplete
  have hversion := (h candidate hcandidate).2 deployment (hartifact ▸ hdeployment)
  rw [UpdateFiles.version?, hdeployment, Option.map_some, hversion]

/-- The deployments that a run adds are those that its candidate declares. -/
theorem UpdateFiles.Declares.move {events : List UpdateEvent} {action : UpdateAction}
    (h : files.Declares dependencies)
    (hmove : UpdateMove dependencies start events files action files') :
    files'.Declares dependencies := by
  intro candidate hcandidate
  obtain ⟨hmanifest, hdeployed⟩ := h candidate hcandidate
  refine ⟨hmanifest, fun deployment hdeployment => ?_⟩
  cases hmove with
  | @deployed found hfound habsent =>
      obtain rfl := Option.some.inj (hcandidate.symm.trans hfound)
      change (files.deployments.set _ _).get? _ = _ at hdeployment
      rw [OrderedMap.get?_set_self] at hdeployment
      obtain rfl := Option.some.inj hdeployment
      exact hmanifest
  | @pointed call reference target hpointing =>
      cases reference <;> exact hdeployed deployment hdeployment
  | _ => exact hdeployed deployment hdeployment

/-- The active reference is only pointed at complete deployments. -/
theorem UpdatePointing.complete {events : List UpdateEvent} {call : InstallerCall}
    {reference : ReferenceName} {target : Option String} {artifactId : String}
    (hpointing : UpdatePointing dependencies events files call reference target)
    (h : ∀ artifactId, files.active = some artifactId → files.Complete artifactId)
    (hactive : (files.point target reference).active = some artifactId) :
    files.Complete artifactId := by
  cases hpointing with
  | staged | displaced | aborted | exchanged => exact h artifactId hactive
  | switched _ _ _ _ hcomplete | restored _ _ _ _ _ hcomplete | reverted _ _ _ _ _ hcomplete =>
      obtain rfl := Option.some.inj hactive
      exact hcomplete

/-- References are pointed elsewhere where no record says `active`. -/
theorem UpdatePointing.state_ne {events : List UpdateEvent} {call : InstallerCall}
    {reference : ReferenceName} {target : Option String}
    (hpointing : UpdatePointing dependencies events files call reference target)
    (hrecord : files.record = some record) : record.state ≠ .active := by
  cases hpointing with
  | staged _ hfound hstate | displaced hfound hstate | switched hfound hstate
  | aborted hfound hstate | restored hfound hstate | reverted hfound hstate
  | exchanged hfound hstate =>
      obtain rfl := Option.some.inj (hrecord.symm.trans hfound)
      rw [hstate]
      rintro ⟨⟩

/-- A rollback names the deployment it has restored with its version. -/
theorem RestoredAs.version? {held : UpdateStateRecord} {restored : CandidateInstallResult}
    (h : RestoredAs held files restored) (htransaction : held.transaction = some transaction)
    (hdisplaces : files.Displaces transaction.evidence) :
    files.version? restored.artifactId = some restored.version := by
  rcases h with ⟨found, artifactId, hfound, hprevious, rfl⟩ | ⟨-, hversion⟩
  · obtain rfl := Option.some.inj (htransaction.symm.trans hfound)
    obtain ⟨⟨deployment, hdeployment, -⟩, hversion⟩ := hdisplaces artifactId hprevious
    have hsome : files.version? artifactId = some deployment.metadata.version := by
      rw [UpdateFiles.version?, hdeployment]
      rfl
    have hjournal : transaction.previousVersion = some deployment.metadata.version :=
      hversion.trans hsome
    show files.version? artifactId = some (transaction.previousVersion.getD held.currentVersion)
    rw [hsome, hjournal]
    rfl
  · exact hversion

theorem candidate_eq_of_evidence {held : UpdateTransaction}
    (h : held.evidence = transaction.evidence) :
    held.candidateArtifactId = transaction.candidateArtifactId ∧
      held.candidateVersion = transaction.candidateVersion :=
  ⟨congrArg TransactionEvidence.candidateArtifactId h,
    congrArg TransactionEvidence.candidateVersion h⟩

/-- A record with a journal that is committed says `active`. -/
theorem Standing.active_of_committed {evidence : TransactionEvidence} {attempts : ℕ}
    {state : UpdateState} {phase : TransactionPhase}
    (h : Standing files evidence attempts state phase) (hphase : phase = .committed) :
    state = .active := by
  subst hphase
  cases h with
  | waiting _ _ hwaiting => rcases hwaiting with h | h <;> cases h
  | switching _ _ hswitching => cases hswitching
  | switched _ _ hswitched => rcases hswitched with h | h <;> cases h
  | ended hended =>
      rcases hended with ⟨-, hactive⟩ | ⟨h, -⟩ | ⟨h, -⟩
      · exact hactive
      · cases h
      · cases h

/-- A record that is written says `active` behind a commit or a rollback, or where it did before. -/
theorem UpdateFiles.Recorded.write {events : List UpdateEvent} {written : UpdateStateRecord}
    (h : files.Recorded) (hunreverted : start.Unreverted)
    (hwrite : UpdateWrite dependencies start events files written) (hstate : written.state = .active) :
    files.Serves written ∧ (written.reverted = false → written.NamesCandidate) := by
  cases hwrite with
  | installing | pending | failed | rollingBack | recoveryRequired => cases hstate
  | entered _ _ henters => cases henters <;> cases hstate
  | @recovered current hrecord hstart =>
      rcases h.sound current hrecord with ⟨hnone, hother⟩ | ⟨transaction, htransaction, hstanding, -⟩
      · -- without a journal an installation or a failure is recovered as a failure
        have hfailed : (recoverUpdateState current).state = .failed := by
          unfold recoverUpdateState
          rw [hnone]
          rcases hother with hother | hother
          · rw [hother]
          · rw [hother]
            exact hother
        rw [hfailed] at hstate
        cases hstate
      · have hphase : current.phase = some transaction.phase := by
          rw [UpdateStateRecord.phase, htransaction]
          rfl
        have hcommitted : transaction.phase = .committed := by
          rcases state_recoverUpdateState_of_phase current hphase with ⟨-, hcommitted⟩ | ⟨hother, -⟩ |
            ⟨hother, -⟩ | ⟨hother, -⟩
          · exact hcommitted
          all_goals
            rw [hother] at hstate
            cases hstate
        have hactive := hstanding.active_of_committed hcommitted
        obtain ⟨hserves, hnames⟩ := h.serves current hrecord hactive
        obtain ⟨found, hfound, hartifact, hversion⟩ := hnames (hunreverted current hstart hactive)
        obtain rfl := Option.some.inj (htransaction.symm.trans hfound)
        have hrecovered : recoverUpdateState current = { current with
            state := .active
            currentVersion := transaction.candidateVersion
            pendingVersion := none
            currentArtifactId := some transaction.candidateArtifactId
            pendingArtifactId := none
            previousArtifactId := transaction.previousArtifactId
            lastActivationResult := some ⟨true, transaction.updatedAt, none⟩
            failureReason := none } := by
          unfold recoverUpdateState recoverTransaction
          rw [htransaction]
          dsimp only
          rw [hcommitted]
        rw [hrecovered]
        refine ⟨⟨hserves.active.trans hartifact, hserves.complete, ?_⟩, fun _ =>
          ⟨transaction, htransaction, rfl, rfl⟩⟩
        exact hserves.version.trans (congrArg some hversion)
  | @committed record transaction now hrecord hactivating hphase hjournals =>
      obtain ⟨held, hheld, hstanding, -⟩ := h.sound.journal hrecord (.inr (by rw [hphase]; rintro ⟨⟩))
      obtain ⟨-, -, hactive, -⟩ := hstanding.switched_of_phase
        (.inr (phase_eq_of_transaction hheld hphase))
      obtain ⟨hcomplete, hversion⟩ := h.declared record held hrecord hheld
      obtain ⟨hartifact, hcandidate⟩ := candidate_eq_of_evidence (hjournals.eq hheld).1
      refine ⟨⟨hactive.trans (congrArg some hartifact), ⟨_, hactive, hcomplete⟩, ?_⟩, fun _ =>
        ⟨_, rfl, rfl, rfl⟩⟩
      rw [hactive, Option.bind_some]
      exact hversion.trans (congrArg some hcandidate)
  | @rolledBack held record restored reason now hrecord hevidence _ _ hpast hrestored hactive =>
      obtain ⟨transaction, htransaction, -, hdisplaces⟩ := h.sound.ended hrecord hpast hevidence
      refine ⟨⟨hactive, ⟨_, hactive, h.complete _ hactive⟩, ?_⟩, by rintro ⟨⟩⟩
      rw [hactive, Option.bind_some]
      exact hrestored.version? htransaction hdisplaces

theorem UpdateFiles.Recorded.move {events : List UpdateEvent} {action : UpdateAction}
    (h : files.Recorded) (hunreverted : start.Unreverted) (hdeclares : files.Declares dependencies)
    (hmove : UpdateMove dependencies start events files action files') : files'.Recorded := by
  have hgrows : files.Grows files' := hmove.grows
  have hcomplete : ∀ artifactId, files.active = some artifactId → files'.Complete artifactId :=
    fun artifactId hactive => (h.complete artifactId hactive).grows hgrows
  have hdeclared : files'.record = files.record → ∀ record transaction,
      files'.record = some record → record.transaction = some transaction →
        files'.Complete transaction.candidateArtifactId ∧
          files'.version? transaction.candidateArtifactId = some transaction.candidateVersion := by
    intro hsame record transaction hrecord htransaction
    obtain ⟨hcandidate, hversion⟩ := h.declared record transaction (hsame.symm.trans hrecord) htransaction
    exact ⟨hcandidate.grows hgrows, (hcandidate.version?_eq hgrows).trans hversion⟩
  refine ⟨h.sound.move hmove, ?_, ?_, ?_⟩
  · cases hmove with
    | pointed hpointing => exact fun artifactId hactive =>
        (hpointing.complete h.complete hactive).grows hgrows
    | _ => exact hcomplete
  · rcases hmove.record_cases with ⟨written, rfl, rfl, hwrite⟩ | ⟨-, hsame⟩
    · intro record transaction hrecord htransaction
      obtain rfl := Option.some.inj hrecord
      rcases hwrite.journal h.sound htransaction with ⟨record, held, hheld, hjournal, hevidence⟩ |
        ⟨-, -, candidate, hcandidate, hartifact, hversion, -, hthere⟩
      · obtain ⟨hartifact, hversion⟩ := candidate_eq_of_evidence hevidence
        rw [← hartifact, ← hversion]
        exact h.declared record held hheld hjournal
      · rw [hartifact, hversion]
        exact ⟨hthere, hdeclares.version? hcandidate rfl hthere⟩
    · exact hdeclared hsame
  · intro record hrecord hstate
    cases hmove with
    | wrote hwrite =>
        obtain rfl := Option.some.inj hrecord
        obtain ⟨hserves, hnames⟩ := h.write hunreverted hwrite hstate
        exact ⟨hserves.grows rfl hgrows, hnames⟩
    | @pointed call reference target hpointing =>
        have hsame : (files.point target reference).record = files.record := by
          cases reference <;> rfl
        exact absurd hstate (hpointing.state_ne (hsame.symm.trans hrecord))
    | found | activates | restores | serves | deployed =>
        obtain ⟨hserves, hnames⟩ := h.serves record hrecord hstate
        exact ⟨hserves.grows rfl hgrows, hnames⟩

/-! ## Histories -/

/-- A run keeps what is recorded, in all the files it comes through. -/
theorem UpdateFiles.Recorded.run (h : files.Recorded) (hunreverted : files.Unreverted)
    (hdeclares : files.Declares dependencies) :
    (runProgress dependencies files).files.Recorded ∧
      ∀ event ∈ (runProgress dependencies files).events, event.files.Recorded := by
  obtain ⟨hfiles, hevents⟩ := (runProgress_spec dependencies files).1.invariant
    (I := fun files => files.Recorded ∧ files.Declares dependencies) ⟨h, hdeclares⟩
    fun before event after files' _ hkept htrail hmove =>
      ⟨hkept.1.move hunreverted hkept.2 hmove, hkept.2.move hmove⟩
  exact ⟨hfiles.1, fun event hmem => (hevents event hmem).1⟩

/-- A run that activates the next candidate. -/
def nextRun : UpdateRuntimeDependencies :=
  { UpdateRuntimeDependencies.undisturbed with candidate := some nextCandidate }

end RlyGateway
