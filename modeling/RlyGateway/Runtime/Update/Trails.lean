import RlyGateway.Runtime.Update.ActivationTrails

/-!
# Runs leave trails

Every run of the update leaves a trail of moves, however it ends. Where it returns, the record is in a
state that runs end in.
-/

namespace RlyGateway

variable {dependencies : UpdateRuntimeDependencies} {start : UpdateFiles}

/-! ## Recovery -/

section Recovery

variable (record : UpdateStateRecord)

/-- A recovered record is not in the middle of an installation or an activation. -/
theorem state_recoverUpdateState :
    (recoverUpdateState record).state ≠ .installing ∧
      (recoverUpdateState record).state ≠ .activating := by
  unfold recoverUpdateState
  cases record.transaction with
  | some transaction =>
      simp only [recoverTransaction]
      cases transaction.phase with
      | rollingBack =>
          dsimp only
          split
          · exact ⟨by rintro ⟨⟩, by rintro ⟨⟩⟩
          · exact ⟨by rintro ⟨⟩, by rintro ⟨⟩⟩
      | _ => exact ⟨by rintro ⟨⟩, by rintro ⟨⟩⟩
  | none =>
      cases hstate : record.state with
      | installing => exact ⟨by rintro ⟨⟩, by rintro ⟨⟩⟩
      | pendingActivation =>
          dsimp only
          split
          · exact ⟨by rintro ⟨⟩, by rintro ⟨⟩⟩
          · rw [hstate]
            exact ⟨by rintro ⟨⟩, by rintro ⟨⟩⟩
      | activating =>
          dsimp only
          split
          · exact ⟨by rintro ⟨⟩, by rintro ⟨⟩⟩
          · exact ⟨by rintro ⟨⟩, by rintro ⟨⟩⟩
      | _ =>
          dsimp only
          rw [hstate]
          exact ⟨by rintro ⟨⟩, by rintro ⟨⟩⟩

theorem transaction_recoverUpdateState :
    (recoverUpdateState record).transaction = record.transaction := by
  unfold recoverUpdateState
  cases htransaction : record.transaction with
  | some transaction =>
      simp only [recoverTransaction]
      cases transaction.phase with
      | rollingBack =>
          dsimp only
          split
          · exact htransaction
          · exact htransaction
      | _ => exact htransaction
  | none =>
      cases record.state with
      | installing => rfl
      | pendingActivation =>
          dsimp only
          split
          · rfl
          · exact htransaction
      | activating =>
          dsimp only
          split
          · rfl
          · rfl
      | _ => exact htransaction

theorem phase_recoverUpdateState : (recoverUpdateState record).phase = record.phase := by
  unfold UpdateStateRecord.phase
  rw [transaction_recoverUpdateState]

/-- The state a journal is recovered to. -/
theorem state_recoverUpdateState_of_phase {phase : TransactionPhase}
    (hphase : record.phase = some phase) :
    (recoverUpdateState record).state = .active ∧ phase = .committed ∨
      (recoverUpdateState record).state = .pendingActivation ∧
        (phase = .staged ∨ phase = .draining) ∨
      (recoverUpdateState record).state = .rollbackRequired ∧
        phase ≠ .staged ∧ phase ≠ .draining ∧ phase ≠ .committed ∧ phase ≠ .recoveryRequired ∧
        (phase = .rollingBack → record.rollbackAttempts = 0) ∨
      (recoverUpdateState record).state = .recoveryRequired ∧
        (phase = .rollingBack ∧ 1 ≤ record.rollbackAttempts ∨ phase = .recoveryRequired) := by
  obtain ⟨transaction, htransaction, rfl⟩ := Option.map_eq_some_iff.1 hphase
  have hattempts : record.rollbackAttempts = transaction.rollbackAttempts := by
    unfold UpdateStateRecord.rollbackAttempts
    rw [htransaction]
    rfl
  rw [hattempts]
  unfold recoverUpdateState
  rw [htransaction]
  simp only [recoverTransaction]
  cases hphase : transaction.phase with
  | committed => exact .inl ⟨rfl, rfl⟩
  | staged => exact .inr (.inl ⟨rfl, .inl rfl⟩)
  | draining => exact .inr (.inl ⟨rfl, .inr rfl⟩)
  | rollingBack =>
      dsimp only
      split
      · rename_i hattempted
        exact .inr (.inr (.inr ⟨rfl, .inl ⟨rfl, hattempted⟩⟩))
      · refine .inr (.inr (.inl ⟨rfl, by decide, by decide, by decide, by decide, fun _ => ?_⟩))
        omega
  | recoveryRequired => exact .inr (.inr (.inr ⟨rfl, .inr rfl⟩))
  | _ => exact .inr (.inr (.inl ⟨rfl, by decide, by decide, by decide, by decide, by rintro ⟨⟩⟩))

variable {record}

/-- A recovered activation that can be resumed has not come to its switch. -/
theorem phase_of_recovered_pending (h : (recoverUpdateState record).state = .pendingActivation) :
    (recoverUpdateState record).phase = none ∨ (recoverUpdateState record).phase = some .staged ∨
      (recoverUpdateState record).phase = some .draining := by
  rw [phase_recoverUpdateState]
  cases hphase : record.phase with
  | none => exact .inl rfl
  | some phase =>
      rcases state_recoverUpdateState_of_phase record hphase with ⟨hstate, -⟩ | ⟨-, rfl | rfl⟩ |
        ⟨hstate, -⟩ | ⟨hstate, -⟩
      · rw [h] at hstate
        cases hstate
      · exact .inr (.inl rfl)
      · exact .inr (.inr rfl)
      · rw [h] at hstate
        cases hstate
      · rw [h] at hstate
        cases hstate

/-- A rollback is due only for a record behind its switch. -/
theorem pastDraining_of_recovered (h : (recoverUpdateState record).state = .rollbackRequired) :
    (recoverUpdateState record).PastDraining := by
  unfold UpdateStateRecord.PastDraining
  rw [phase_recoverUpdateState, h]
  cases hphase : record.phase with
  | none => exact ⟨by rintro ⟨⟩, by rintro ⟨⟩, fun _ => ⟨by rintro ⟨⟩, by rintro ⟨⟩⟩⟩
  | some phase =>
      rcases state_recoverUpdateState_of_phase record hphase with ⟨hstate, -⟩ | ⟨hstate, -⟩ |
        ⟨-, hstaged, hdraining, -⟩ | ⟨hstate, -⟩
      · rw [h] at hstate
        cases hstate
      · rw [h] at hstate
        cases hstate
      · exact ⟨fun heq => hstaged (Option.some.inj heq), fun heq => hdraining (Option.some.inj heq),
          by rintro ⟨⟩⟩
      · rw [h] at hstate
        cases hstate

end Recovery

/-! ## Staging -/

section Staging

variable {candidate : InstallCandidateInput} {record : UpdateStateRecord} {runtime : RuntimeInspection}

/-- Nothing has been restored, and an inspection has found this. -/
abbrev Untouched (runtime : RuntimeInspection) : UpdateAssertion := fun events _ =>
  ¬ Restoring events ∧ Happened events (.inspected runtime)

theorem stable_untouched : Stable (Untouched runtime) :=
  stable_not_restoring.and (stable_happened _)

theorem kept_untouched {events : List UpdateEvent} {event : UpdateEvent} {files files' : UpdateFiles}
    (hset : event.action ≠ .called .setActiveReferences)
    (hrestore : event.action ≠ .called .restorePrevious) (h : Untouched runtime events files) :
    Untouched runtime (events ++ [event]) files' :=
  ⟨kept_not_restoring _ _ hset hrestore h.1, h.2.append _⟩

/-- A candidate installed, and selected as the staged one. -/
theorem meets_installCandidate (hcandidate : dependencies.candidate = some candidate)
    (hstate : record.state = .installing) :
    EStateM.Meets (At (OfRecord dependencies start record (Untouched runtime)))
      (LocalCandidateInstaller.installCandidate dependencies candidate)
      (fun installed => At fun events files =>
        OfRecord dependencies start record (Untouched runtime) events files ∧
          installed.artifactId = candidate.source.artifactId ∧ files.Reports installed)
      fun _ => At (OfRecord dependencies start record (Untouched runtime)) := by
  have hstable : Stable (OfRecord dependencies start record (Untouched runtime)) :=
    stable_ofRecord stable_untouched
  refine EStateM.Meets.bind ((finds_ensureRuntimeLayout dependencies rfl : Finds Anything _ _ _).meets
    hstable (fun _ _ _ => trivial) fun _ _ _ hp => hp) fun _ => ?_
  refine EStateM.Meets.ite (fun _ => EStateM.meets_throw fun _ hp => hp.1) fun _ => ?_
  refine EStateM.Meets.through (fun _ => At (OfRecord dependencies start record (Untouched runtime)))
    ?_ fun _ => ?_
  · refine EStateM.Meets.through (fun found => At fun events files =>
      OfRecord dependencies start record (Untouched runtime) events files ∧ found = files)
      (fun s hp => ⟨hp.1, rfl⟩) fun found => ?_
    refine EStateM.Meets.ite (fun _ => EStateM.meets_pure fun _ hp => hp.1) fun habsent => ?_
    have hfound : Stable fun events files =>
        OfRecord dependencies start record (Untouched runtime) events files ∧ found = files :=
      hstable.and (stable_files _)
    refine (meets_perform dependencies hfound hstable ?_).mono (fun _ => id) (fun _ _ => id)
      fun _ _ hp => hp.1.elim And.left id
    rintro events files moment ⟨⟨htrail, hrecord, huntouched⟩, rfl⟩
    refine ⟨htrail.move (.deployed hcandidate ?_) moment, hrecord,
      kept_untouched (by rintro ⟨⟩) (by rintro ⟨⟩) huntouched⟩
    simpa using habsent
  refine EStateM.Meets.bind ((finds_validateDeployment dependencies candidate.source.artifactId :
    Finds Anything _ _ _).meets hstable (fun _ _ _ => trivial) fun _ _ _ hp => hp) fun metadata => ?_
  have hvalid : Stable fun events files =>
      OfRecord dependencies start record (Untouched runtime) events files ∧
        files.Complete candidate.source.artifactId := hstable.and (stable_files _)
  have hstaged : Stable fun events files =>
      OfRecord dependencies start record (Untouched runtime) events files ∧
        files.staged = some candidate.source.artifactId ∧
        files.Complete candidate.source.artifactId :=
    hstable.and ((stable_files fun files => files.staged = some candidate.source.artifactId).and
      (stable_files _))
  refine EStateM.Meets.through (fun _ => At fun events files =>
    OfRecord dependencies start record (Untouched runtime) events files ∧
      files.staged = some candidate.source.artifactId ∧
      files.Complete candidate.source.artifactId) ?_ fun _ => ?_
  · refine (meets_replaceReference hvalid hstaged ?_).mono (fun _ hp => ⟨hp.1, hp.2.1⟩)
      (fun _ _ => id) fun _ _ hp => hp.elim And.left And.left
    rintro events files moment ⟨⟨htrail, hrecord, huntouched⟩, hcomplete⟩
    exact ⟨⟨htrail.move (.pointed (.staged hcandidate hrecord hstate hcomplete)) moment, hrecord,
      kept_untouched (by rintro ⟨⟩) (by rintro ⟨⟩) huntouched⟩, rfl, hcomplete⟩
  refine EStateM.Meets.bind ((finds_resolveRef dependencies .active : Finds Anything _ _ _).meets
    hstaged (fun _ _ _ => trivial) fun _ _ _ hp => hp.1) fun active => EStateM.meets_pure ?_
  rintro s ⟨⟨hheld, hselected, hcomplete⟩, hactive, hversion, hdisplaced⟩
  exact ⟨hheld, rfl, hselected, hcomplete, hactive, hversion, hdisplaced⟩

/-- An update that ends as failed. -/
theorem meets_failUpdate {reason : String}
    (hstate : record.state = .installing ∨ record.state = .pendingActivation) :
    EStateM.Meets (At (OfRecord dependencies start record (Untouched runtime)))
      (failUpdate dependencies record reason) (fun result => At (RunEnded dependencies start result))
      fun stop => At (Stopped dependencies start stop) := by
  have hstable : Stable (OfRecord dependencies start record (Untouched runtime)) :=
    stable_ofRecord stable_untouched
  refine EStateM.Meets.bind ((finds_currentTime dependencies : Finds Anything _ _ Anything).meets
    hstable (fun _ _ _ => trivial) fun _ _ _ hp => stopped_of_not_restoring hp.1 hp.2.2.1) fun now => ?_
  have hfailed : Stable (OfRecord dependencies start (failedRecord record reason now)
    (Untouched runtime)) := stable_ofRecord stable_untouched
  refine EStateM.Meets.bind ((meets_write dependencies hstable hfailed ?_).mono (fun _ hp => hp.1)
    (fun _ _ => id) ?_) fun _ => EStateM.meets_pure ?_
  · rintro events files moment ⟨htrail, hrecord, huntouched⟩ -
    exact ⟨htrail.move (.wrote (.failed hrecord hstate)) moment, rfl,
      kept_untouched (by rintro ⟨⟩) (by rintro ⟨⟩) huntouched⟩
  · rintro stop s ⟨hp | hp, -⟩
    · exact stopped_of_not_restoring hp.1 hp.2.2.1
    · exact stopped_of_not_restoring hp.1 hp.2.2.1
  · rintro s ⟨htrail, hrecord, -⟩
    refine ⟨htrail, ?_, by rintro ⟨⟩⟩
    intro found hfound
    obtain rfl := Option.some.inj (hrecord.symm.trans hfound)
    exact ⟨by rintro ⟨⟩, by rintro ⟨⟩, by rintro ⟨⟩⟩

theorem not_blocked_of_preflightBlocker {pending : UpdateStateRecord} {version : String}
    {cliStateVersion : Option ℕ} {manifest : CandidateManifest}
    (h : preflightBlocker pending version cliStateVersion manifest = none) :
    ¬ manifest.Blocked cliStateVersion := by
  unfold preflightBlocker migrationPreflight at h
  rintro (hforward | ⟨cli, rfl, hincompatible⟩)
  · rw [if_neg (not_not_intro hforward)] at h
    cases h
  · split at h
    · cases h
    · rw [Option.bind_some, hincompatible] at h
      cases h

/-- A candidate staged, unless it may not be activated. -/
theorem meets_stageCandidate (hcandidate : dependencies.candidate = some candidate)
    {current : Option UpdateStateRecord} (hrecovered : current = start.record.map recoverUpdateState) :
    EStateM.Meets
      (At fun events files => UpdateTrail dependencies start events files ∧ files.record = current ∧
        Untouched runtime events files)
      (stageCandidate dependencies candidate runtime current)
      (fun
        | .error result => At (RunEnded dependencies start result)
        | .ok pending => At fun events files =>
            (pending.state = .pendingActivation ∧ pending.phase = some .staged) ∧
              OfRecord dependencies start pending (fun events files =>
                Undrained dependencies start events files ∧ Happened events (.inspected runtime))
                events files)
      fun stop => At (Stopped dependencies start stop) := by
  have hbegin : Stable fun events files => UpdateTrail dependencies start events files ∧
      files.record = current ∧ Untouched runtime events files :=
    (stable_trail dependencies start).and ((stable_files _).and stable_untouched)
  refine EStateM.Meets.bind ((finds_assertUpdateableRuntime runtime : Finds Anything _ _ _).meets
    hbegin (fun _ _ _ => trivial) fun _ _ _ hp => stopped_of_not_restoring hp.1 hp.2.2.1) fun _ => ?_
  -- The record of the installation has no journal.
  let installing : UpdateStateRecord → UpdateAssertion := fun record events files =>
    record.state = .installing ∧ OfRecord dependencies start record (Untouched runtime) events files
  have hinstalling : ∀ record, Stable (installing record) := fun record =>
    (stable_files fun _ => record.state = .installing).and (stable_ofRecord stable_untouched)
  refine EStateM.Meets.through (fun record => At (installing record)) ?_ fun record => ?_
  · refine (meets_transitionUnderLock dependencies hbegin hinstalling (fun _ _ hp => hp.2.1) ?_).mono
      (fun _ hp => hp.1) (fun _ _ => id) ?_
    · rintro now events files moment ⟨htrail, hrecord, huntouched⟩ hstates
      have hstate := hstates (by rintro ⟨⟩)
      rw [← hrecord] at hstate ⊢
      exact ⟨rfl, htrail.move (.wrote (.installing hcandidate (hrecord.trans hrecovered) hstate
        huntouched.1)) moment, rfl, kept_untouched (by rintro ⟨⟩) (by rintro ⟨⟩) huntouched⟩
    · rintro stop s (hp | ⟨record, -, hp⟩)
      · exact stopped_of_not_restoring hp.1 hp.2.2.1
      · exact stopped_of_not_restoring hp.1 hp.2.2.1
  refine EStateM.meets_of_pre fun hstate => ?_
  let installation : Except String CandidateInstallResult → UpdateAssertion
    | .ok installed => fun events files =>
        OfRecord dependencies start record (Untouched runtime) events files ∧
          installed.artifactId = candidate.source.artifactId ∧ files.Reports installed
    | .error _ => OfRecord dependencies start record (Untouched runtime)
  refine EStateM.Meets.through (fun installed => At (installation installed)) ?_ fun installed => ?_
  · have hinstalls : EStateM.Meets (At (OfRecord dependencies start record (Untouched runtime)))
        (do
          let installed ← LocalCandidateInstaller.installCandidate dependencies candidate
          pure (Except.ok installed))
        (fun installed => At (installation installed))
        fun _ => At (OfRecord dependencies start record (Untouched runtime)) :=
      (meets_installCandidate hcandidate hstate).bind fun _ => EStateM.meets_pure fun _ hp => hp
    refine hinstalls.rescue ?_ ?_
    · exact fun _ _ _ => EStateM.meets_pure fun _ hp => hp
    · exact fun _ _ _ hp => stopped_of_not_restoring hp.1 hp.2.2.1
  cases installed with
  | error message =>
      exact (meets_failUpdate (.inl hstate)).bind fun _ => EStateM.meets_pure fun _ hp => hp
  | ok installed =>
      dsimp only
      have hreported : Stable fun events files =>
          OfRecord dependencies start record (Untouched runtime) events files ∧
            installed.artifactId = candidate.source.artifactId ∧ files.Reports installed :=
        (stable_ofRecord stable_untouched).and (stable_files fun files =>
          installed.artifactId = candidate.source.artifactId ∧ files.Reports installed)
      refine EStateM.Meets.bind ((finds_currentTime dependencies : Finds Anything _ _ Anything).meets
        hreported (fun _ _ _ => trivial) fun _ _ _ hp => stopped_of_not_restoring hp.1.1 hp.1.2.2.1)
        fun now => ?_
      let pending := pendingRecord record candidate.version installed now
      let opened : UpdateAssertion := fun events files =>
        OfRecord dependencies start pending (Untouched runtime) events files ∧
          files.staged = some installed.artifactId ∧ files.Complete installed.artifactId
      have hopened : Stable opened := (stable_ofRecord stable_untouched).and (stable_files fun files =>
        files.staged = some installed.artifactId ∧ files.Complete installed.artifactId)
      refine EStateM.Meets.through (fun _ => At opened) ?_ fun _ => ?_
      · refine (meets_write dependencies hreported hopened ?_).mono (fun _ hp => hp.1) (fun _ _ => id)
          ?_
        · rintro events files moment ⟨⟨htrail, hrecord, huntouched⟩, hartifact, hreports⟩ -
          exact ⟨⟨htrail.move (.wrote (.pending hcandidate hrecord hstate hartifact hreports)) moment,
            rfl, kept_untouched (by rintro ⟨⟩) (by rintro ⟨⟩) huntouched⟩, hreports.staged,
            hreports.complete⟩
        · rintro stop s ⟨hp | hp, -⟩
          · exact stopped_of_not_restoring hp.1.1 hp.1.2.2.1
          · exact stopped_of_not_restoring hp.1.1 hp.1.2.2.1
      -- A manifest that cannot be read is taken for one that forbids nothing.
      let looked : Option CandidateManifest → UpdateAssertion := fun manifest events files =>
        manifest = files.staged.bind (fun artifactId =>
          (files.deployments.get? artifactId).bind (·.manifest)) ∨
        Happened events (.faulted (.installer .readManifest))
      have hreads : Finds opened (LocalCandidateInstaller.readManifest dependencies) _ _ :=
        (finds_readManifest dependencies : Finds (fun events files => Anything events files ∧
          ∀ artifactId, files.staged = some artifactId → files.Complete artifactId) _ _ _).mono
          (fun events files hp => ⟨trivial, fun artifactId hselected =>
            Option.some.inj (hp.2.1.symm.trans hselected) ▸ hp.2.2⟩)
          (fun _ _ _ _ h => h) fun _ _ _ h => h
      refine EStateM.Meets.through (fun manifest => At fun events files =>
        opened events files ∧ looked manifest events files) ?_ fun manifest => ?_
      · refine ((hreads opened hopened fun _ _ hp => hp).mono (fun _ => id)
          (fun manifest s hp => ⟨hp.1, .inl hp.2⟩) fun _ _ => id).rescue ?_ ?_
        · rintro stop message hmessage
          refine EStateM.meets_pure ?_
          rintro s ⟨hp, hcrashed | hfaulted⟩
          · rw [hcrashed] at hmessage
            cases hmessage
          · exact ⟨hp, .inr hfaulted⟩
        · exact fun stop s _ hp => stopped_of_not_restoring hp.1.1.1 hp.1.1.2.2.1
      split
      · exact ((meets_failUpdate (.inr rfl)).pre_of fun _ hp => hp.1.1).bind fun _ =>
          EStateM.meets_pure fun _ hp => hp
      · rename_i hblocker
        refine EStateM.meets_pure ?_
        rintro s ⟨⟨⟨htrail, hrecord, hrestoring, hinspected⟩, -⟩, hlooked⟩
        refine ⟨⟨rfl, rfl⟩, htrail, hrecord, ⟨.inr ⟨?_, ?_⟩, hrestoring⟩, hinspected⟩
        · rw [hcandidate]
          rfl
        · refine hlooked.imp_left ?_
          rintro hmanifest artifactId hstaged ⟨deployment, found, hdeployment, hfound, hblocked⟩
          rw [hstaged, Option.bind_some, hdeployment, Option.bind_some, hfound] at hmanifest
          rw [hmanifest, Option.bind_some] at hblocker
          exact not_blocked_of_preflightBlocker hblocker hblocked

end Staging

/-! ## Runs -/

section Runs

variable {record : UpdateStateRecord} {current : Option UpdateStateRecord} {runtime : RuntimeInspection}

variable (dependencies start) in
/-- What a run has behind it once the record it starts from is recovered. -/
def Begun (current : Option UpdateStateRecord) : UpdateAssertion := fun events files =>
  UpdateTrail dependencies start events files ∧ ¬ Restoring events ∧ files.record = current ∧
    files.staged = start.staged ∧ files.deployments = start.deployments

theorem stable_begun : Stable (Begun dependencies start current) :=
  (stable_trail dependencies start).and (stable_not_restoring.and (stable_files fun files =>
    files.record = current ∧ files.staged = start.staged ∧ files.deployments = start.deployments))

theorem Begun.stopped {stop : UpdateStop} {events : List UpdateEvent} {files : UpdateFiles}
    (h : Begun dependencies start current events files) : Stopped dependencies start stop events files :=
  stopped_of_not_restoring h.1 h.2.1

/-- A run that leaves the files as it found them. -/
theorem meets_nothing (hsettled : ∀ record, current = some record → record.state ≠ .installing ∧
      record.state ≠ .activating ∧ record.state ≠ .rollbackRequired) {result : UpdateRunResult}
    (houtcome : result.outcome ≠ .rolledBack) :
    EStateM.Meets (At (Begun dependencies start current)) (pure result)
      (fun result => At (RunEnded dependencies start result))
      fun stop => At (Stopped dependencies start stop) := by
  refine EStateM.meets_pure fun s hp => ⟨hp.1, ?_, fun h => absurd h houtcome⟩
  intro found hfound
  exact hsettled found (hp.2.2.1.symm.trans hfound)

/-- The activation of a staged candidate resumed. -/
theorem meets_resumeActivation (hcandidate : dependencies.candidate = none)
    (hrecovered : start.record.map recoverUpdateState = some record)
    (hstate : record.state = .pendingActivation) :
    EStateM.Meets
      (At fun events files => Begun dependencies start (some record) events files ∧
        Happened events (.inspected runtime))
      (resumeActivation dependencies record runtime)
      (fun result => At (RunEnded dependencies start result))
      fun stop => At (Stopped dependencies start stop) := by
  have hphase : record.phase = none ∨ record.phase = some .staged ∨ record.phase = some .draining := by
    obtain ⟨found, -, rfl⟩ := Option.map_eq_some_iff.1 hrecovered
    exact phase_of_recovered_pending hstate
  have hbegun : Stable fun events files => Begun dependencies start (some record) events files ∧
      Happened events (.inspected runtime) := stable_begun.and (stable_happened _)
  refine EStateM.Meets.bind ((finds_verifyCandidate dependencies : Finds Anything _ _ _).meets hbegun
    (fun _ _ _ => trivial) fun _ _ _ hp => hp.1.stopped) fun verified => ?_
  refine EStateM.Meets.ite (fun _ => ?_) fun _ => ?_
  · refine (meets_activate hstate hphase).pre_of ?_
    rintro s ⟨⟨⟨htrail, hrestoring, hrecord, hstaged, hdeployments⟩, hinspected⟩, -⟩
    refine ⟨htrail, hrecord, ⟨.inl ⟨hcandidate, hstaged, hdeployments, ?_⟩, hrestoring⟩, hinspected⟩
    rw [hrecovered, Option.map_some, hstate]
  · have hfailed : Stable (OfRecord dependencies start
        (failedRecord record ("installed candidate failed verification: " ++
          verified.reason.getD "unknown" ++ "; run rly doctor") record.updatedAt)
        (Untouched runtime)) := stable_ofRecord stable_untouched
    refine EStateM.Meets.bind ((meets_write dependencies hbegun hfailed ?_).mono (fun _ hp => hp.1)
      (fun _ _ => id) ?_) fun _ => EStateM.meets_pure ?_
    · rintro events files moment ⟨⟨htrail, hrestoring, hrecord, -⟩, hinspected⟩ -
      exact ⟨htrail.move (.wrote (.failed hrecord (.inr hstate))) moment, rfl,
        kept_untouched (by rintro ⟨⟩) (by rintro ⟨⟩)
          (show Untouched runtime events files from ⟨hrestoring, hinspected⟩)⟩
    · rintro stop s ⟨hp | hp, -⟩
      · exact hp.1.stopped
      · exact stopped_of_not_restoring hp.1 hp.2.2.1
    · rintro s ⟨htrail, hrecord, -⟩
      refine ⟨htrail, ?_, by rintro ⟨⟩⟩
      intro found hfound
      obtain rfl := Option.some.inj (hrecord.symm.trans hfound)
      exact ⟨by rintro ⟨⟩, by rintro ⟨⟩, by rintro ⟨⟩⟩

/-- A run without a candidate. -/
theorem meets_updatePending (hcandidate : dependencies.candidate = none)
    (hrecovered : start.record.map recoverUpdateState = current)
    (hrollback : ∀ record, current = some record → record.state ≠ .rollbackRequired) :
    EStateM.Meets
      (At fun events files => Begun dependencies start current events files ∧
        Happened events (.inspected runtime))
      (updatePending dependencies current runtime)
      (fun result => At (RunEnded dependencies start result))
      fun stop => At (Stopped dependencies start stop) := by
  have hsettled : ∀ record, current = some record → record.state ≠ .installing ∧
      record.state ≠ .activating ∧ record.state ≠ .rollbackRequired := by
    intro record hrecord
    obtain ⟨found, -, rfl⟩ := Option.map_eq_some_iff.1 (hrecovered.trans hrecord)
    obtain ⟨hinstalling, hactivating⟩ := state_recoverUpdateState found
    exact ⟨hinstalling, hactivating, hrollback _ hrecord⟩
  have hnothing : ∀ {result : UpdateRunResult}, result.outcome ≠ .rolledBack → EStateM.Meets
      (At fun events files => Begun dependencies start current events files ∧
        Happened events (.inspected runtime)) (pure result : UpdateM UpdateRunResult)
      (fun result => At (RunEnded dependencies start result))
      fun stop => At (Stopped dependencies start stop) := fun houtcome =>
    (meets_nothing hsettled houtcome).pre_of fun _ hp => hp.1
  unfold updatePending
  split
  · exact hnothing (by rintro ⟨⟩)
  · split
    · exact hnothing (by rintro ⟨⟩)
    · exact hnothing (by rintro ⟨⟩)
    · rename_i hstate
      exact meets_resumeActivation hcandidate hrecovered hstate
    · exact hnothing (by rintro ⟨⟩)

/-- A run with a candidate. -/
theorem meets_updateTo {candidate : InstallCandidateInput}
    (hcandidate : dependencies.candidate = some candidate)
    (hrecovered : current = start.record.map recoverUpdateState) :
    EStateM.Meets
      (At fun events files => Begun dependencies start current events files ∧
        Happened events (.inspected runtime))
      (updateTo dependencies candidate current runtime)
      (fun result => At (RunEnded dependencies start result))
      fun stop => At (Stopped dependencies start stop) := by
  refine EStateM.Meets.bind ((meets_stageCandidate hcandidate hrecovered).pre_of ?_) fun staged => ?_
  · rintro s ⟨⟨htrail, hrestoring, hrecord, -⟩, hinspected⟩
    exact ⟨htrail, hrecord, hrestoring, hinspected⟩
  cases staged with
  | error result => exact EStateM.meets_pure fun _ hp => hp
  | ok pending =>
      refine EStateM.meets_of_pre fun ⟨hstate, hphase⟩ => ?_
      refine EStateM.Meets.ite (fun _ => EStateM.meets_pure ?_) fun _ =>
        meets_activate hstate (.inr (.inl hphase))
      rintro s ⟨htrail, hrecord, -⟩
      refine ⟨htrail, ?_, by rintro ⟨⟩⟩
      intro found hfound
      obtain rfl := Option.some.inj (hrecord.symm.trans hfound)
      rw [hstate]
      exact ⟨by rintro ⟨⟩, by rintro ⟨⟩, by rintro ⟨⟩⟩

/-- What a run does from the record it recovered. -/
theorem meets_updateFrom (hrecovered : start.record.map recoverUpdateState = current) :
    EStateM.Meets (At (Begun dependencies start current)) (updateFrom dependencies current)
      (fun result => At (RunEnded dependencies start result))
      fun stop => At (Stopped dependencies start stop) := by
  refine EStateM.Meets.bind ((finds_inspectRuntimeGateway dependencies : Finds Anything _ _ _).meets
    stable_begun (fun _ _ _ => trivial) fun _ _ _ hp => hp.stopped) fun runtime => ?_
  split
  · rename_i record hrequired
    obtain ⟨hcurrent, hstate⟩ := Option.filter_eq_some_iff.1 hrequired
    refine (meets_nothing (fun found hfound => ?_) (by rintro ⟨⟩)).pre_of fun _ hp => hp.1
    obtain rfl := Option.some.inj (hcurrent.symm.trans hfound)
    rw [of_decide_eq_true hstate]
    exact ⟨by rintro ⟨⟩, by rintro ⟨⟩, by rintro ⟨⟩⟩
  split
  · rename_i record hrequired
    obtain ⟨hcurrent, hdue⟩ := Option.filter_eq_some_iff.1 hrequired
    have hstate : record.state = .rollbackRequired := of_decide_eq_true hdue
    have hpast : record.PastDraining := by
      obtain ⟨found, -, rfl⟩ := Option.map_eq_some_iff.1 (hrecovered.trans hcurrent)
      exact pastDraining_of_recovered hstate
    refine (meets_rollback (F := fun _ => True) fun _ _ _ => trivial).mono ?_ (fun _ _ => id)
      fun _ _ hp => hp.stopped
    rintro s ⟨⟨htrail, hrestoring, hrecord, -⟩, -⟩
    have hheld := hrecord.trans hcurrent
    refine ⟨⟨htrail, fun h => absurd h hrestoring, record, hheld, rfl, hpast, fun h => ?_⟩, trivial,
      .inl ⟨hheld, hstate, hrestoring⟩⟩
    rw [hstate] at h
    cases h
  · rename_i hrollback
    have hsettled : ∀ record, current = some record → record.state ≠ .rollbackRequired := by
      rintro record rfl hstate
      rw [Option.filter_some, if_pos (decide_eq_true hstate)] at hrollback
      cases hrollback
    split
    · rename_i hcandidate
      exact meets_updatePending hcandidate hrecovered hsettled
    · rename_i candidate hcandidate
      exact meets_updateTo hcandidate hrecovered.symm

variable (dependencies start) in
/-- Every run leaves a trail, and ends in a state that runs end in, or stops. -/
theorem meets_runUpdate (moment : ℕ) :
    EStateM.Meets (fun s => s = ⟨start, [], moment⟩) (runUpdate dependencies)
      (fun result => At (RunEnded dependencies start result))
      fun stop => At (Stopped dependencies start stop) := by
  let begun : UpdateAssertion := fun events files =>
    Begun dependencies start start.record events files ∧ Unwritten events
  have hbegun : Stable begun := stable_begun.and stable_unwritten
  have hstart : ∀ s : UpdateProgress, s = ⟨start, [], moment⟩ → At begun s := by
    rintro s rfl
    refine ⟨⟨.start, ?_, rfl, rfl, rfl⟩, ?_⟩
    · rintro (⟨_, ⟨⟩, -⟩ | ⟨_, ⟨⟩, -⟩)
    · rintro record ⟨_, ⟨⟩, -⟩
  refine EStateM.Meets.pre_of (EStateM.Meets.bind ((finds_attempt_anything dependencies _ :
    Finds Anything _ _ _).meets hbegun (fun _ _ _ => trivial) fun _ _ _ hp => hp.1.stopped) fun _ => ?_)
    hstart
  refine EStateM.Meets.through (fun found => At fun events files =>
    found = start.record ∧ begun events files) ?_ fun found => ?_
  · refine ((finds_read dependencies : Finds Anything _ _ _).meets hbegun (fun _ _ _ => trivial)
      fun _ _ _ hp => hp.1.stopped).mono (fun _ hp => hp.1) ?_ fun _ _ => id
    exact fun found s ⟨hp, hfound⟩ => ⟨hfound.trans hp.1.2.2.1, hp⟩
  refine EStateM.meets_of_pre fun hfound => ?_
  subst hfound
  dsimp only
  split
  · rename_i recovered hchanged
    obtain ⟨hrecovered, -⟩ := Option.filter_eq_some_iff.1 hchanged
    obtain ⟨current, hcurrent, rfl⟩ := Option.map_eq_some_iff.1 hrecovered
    refine EStateM.Meets.through (fun _ => At (Begun dependencies start
      (start.record.map recoverUpdateState))) ?_ fun _ => meets_updateFrom rfl
    refine (meets_write dependencies hbegun stable_begun ?_).mono (fun _ => id) (fun _ _ => id) ?_
    · rintro events files moment ⟨⟨htrail, hrestoring, hrecord, hstaged, hdeployments⟩, hunwritten⟩ -
      refine ⟨htrail.move (.wrote (.recovered (hrecord.trans hcurrent) hcurrent hunwritten)) moment,
        kept_not_restoring.wrote hrestoring moment files _, ?_, hstaged, hdeployments⟩
      rw [hcurrent]
      rfl
    · exact fun stop s ⟨hp, _⟩ => hp.elim (fun h => h.1.stopped) Begun.stopped
  · rename_i hsame
    refine (meets_updateFrom rfl).pre_of fun s hp => ?_
    have hrecord : start.record.map recoverUpdateState = start.record := by
      cases hcurrent : start.record with
      | none => rfl
      | some current =>
          rw [hcurrent, Option.map_some, Option.filter_some] at hsame
          by_contra hne
          have hchanged : some current ≠ some (recoverUpdateState current) := fun h => hne h.symm
          rw [if_pos (decide_eq_true hchanged)] at hsame
          cases hsame
    rw [hrecord]
    exact hp.1

end Runs

end RlyGateway
