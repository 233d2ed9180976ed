import RlyGateway.Runtime.Update.Histories

/-!
# Crash safety of activations

An activation that is interrupted leaves the active reference on a complete deployment. The deployment
it displaces stays the target of the active or of the previous reference, unless a rollback establishes
the previous reference anew while the active one is still on the candidate.
-/

namespace RlyGateway

variable {dependencies : UpdateRuntimeDependencies} {start files files' : UpdateFiles}
  {events : List UpdateEvent}

/-! ## What an interrupted activation leaves -/

/-- Files in which the active reference, where there has been one, is on a complete deployment, and
the deployment that a journal displaces is the target of the active or of the previous reference. -/
structure CrashSafe (start files : UpdateFiles) : Prop where
  serving : start.active.isSome → files.active.isSome
  complete : ∀ artifactId, files.active = some artifactId → files.Complete artifactId
  reachable : ∀ record transaction artifactId, files.record = some record →
    record.transaction = some transaction → transaction.previousArtifactId = some artifactId →
      files.active = some artifactId ∨ files.previous = some artifactId

/-- Files that a run has returned with: unless the record is in the terminal state, the active
reference is on the candidate only where the commit is recorded, and otherwise on the deployment that
is displaced. -/
def UpdateFiles.Settled (files : UpdateFiles) : Prop :=
  ∀ record transaction, files.record = some record → record.transaction = some transaction →
    record.state ≠ .recoveryRequired →
      (transaction.phase ≠ .committed → files.active = transaction.previousArtifactId) ∧
      (transaction.previousArtifactId.isSome → files.active ≠ some transaction.candidateArtifactId →
        files.active = transaction.previousArtifactId)

/-- The previous reference established anew by a rollback. -/
def UpdateEvent.aborts (event : UpdateEvent) : Bool :=
  match event.action with
  | .pointed .setActiveReferences .previous _ => true
  | _ => false

/-- A rollback establishes the previous reference anew only while the active one is on the deployment
that is restored. -/
def RestoresInPlace (events : List UpdateEvent) : Prop :=
  ∀ event ∈ events, event.aborts = true →
    event.files.active = (event.files.record.bind (·.transaction)).bind (·.previousArtifactId)

instance (events : List UpdateEvent) : Decidable (RestoresInPlace events) :=
  inferInstanceAs (Decidable (∀ event ∈ events, event.aborts = true →
    event.files.active = (event.files.record.bind (·.transaction)).bind (·.previousArtifactId)))

/-! ## Steps -/

theorem CrashSafe.move {before : List UpdateEvent} {event : UpdateEvent} (h : CrashSafe start event.files)
    (hsound : event.files.Sound) (hplace : RestoresInPlace [event]) {origin : UpdateFiles}
    (hmove : UpdateMove dependencies origin before event.files event.action files') :
    CrashSafe start files' := by
  obtain ⟨moment, files, action⟩ := event
  dsimp only at h hsound hmove
  have hgrows : files.Grows files' := hmove.grows
  have hcomplete : ∀ artifactId, files.active = some artifactId → files'.Complete artifactId :=
    fun artifactId hactive => (h.complete artifactId hactive).grows hgrows
  cases hmove with
  | found | activates | restores | serves => exact h
  | deployed => exact ⟨h.serving, hcomplete, h.reachable⟩
  | @wrote written hwrite =>
      refine ⟨h.serving, hcomplete, ?_⟩
      intro record transaction artifactId hrecord htransaction hprevious
      obtain rfl := Option.some.inj hrecord
      rcases hwrite.journal hsound htransaction with ⟨record, held, hrecord', hheld, heq⟩ |
        ⟨-, hopens, -⟩
      · refine h.reachable record held artifactId hrecord' hheld ?_
        exact (congrArg TransactionEvidence.previousArtifactId heq).trans hprevious
      · exact .inl (hopens.symm.trans hprevious)
  | pointed hpointing =>
      cases hpointing with
      | staged => exact ⟨h.serving, hcomplete, h.reachable⟩
      | @displaced record hrecord hstate hphase hdiffers =>
          refine ⟨h.serving, hcomplete, ?_⟩
          intro found transaction artifactId hfound htransaction hprevious
          obtain rfl := Option.some.inj (hrecord.symm.trans hfound)
          obtain ⟨-, -, hstaged, hactive⟩ := (hsound.standing hrecord htransaction).1.switching_of_phase
            (phase_eq_of_transaction htransaction hphase)
          have hunswitched := hactive.resolve_right fun hswitched =>
            hdiffers (hswitched.1.trans hstaged.symm)
          exact .inl (hunswitched.trans hprevious)
      | @switched record target hrecord hstate hphase hstaged htarget hdisplaced =>
          refine ⟨fun _ => rfl, fun artifactId hactive => ?_, ?_⟩
          · obtain rfl := Option.some.inj hactive
            exact htarget.grows hgrows
          · intro found transaction artifactId hfound htransaction hprevious
            right
            rcases h.reachable found transaction artifactId hfound htransaction hprevious with
              hactive | hprevious
            · exact hdisplaced.trans hactive
            · exact hprevious
      | @aborted record transaction target hrecord _ htransaction =>
          refine ⟨h.serving, hcomplete, ?_⟩
          intro found transaction' artifactId hfound htransaction' hprevious
          have hactive : files.active = (files.record.bind (·.transaction)).bind
              (·.previousArtifactId) := hplace _ (List.mem_singleton.2 rfl) rfl
          have hjournal : (files.record.bind (·.transaction)).bind (·.previousArtifactId) =
              transaction'.previousArtifactId := by
            rw [show files.record = some found from hfound, Option.bind_some, htransaction']
            rfl
          exact .inl (hactive.trans (hjournal.trans hprevious))
      | @restored record transaction target hrecord _ htransaction _ hrestored htarget =>
          refine ⟨fun _ => rfl, fun artifactId hactive => ?_, ?_⟩
          · obtain rfl := Option.some.inj hactive
            exact htarget.grows hgrows
          · intro found transaction' artifactId hfound htransaction' hprevious
            obtain rfl := Option.some.inj (hrecord.symm.trans hfound)
            obtain rfl := Option.some.inj (htransaction.symm.trans htransaction')
            exact .inl (hrestored.symm.trans hprevious)
      | @reverted record target hrecord _ _ hnone _ htarget =>
          refine ⟨fun _ => rfl, fun artifactId hactive => ?_, ?_⟩
          · obtain rfl := Option.some.inj hactive
            exact htarget.grows hgrows
          · intro found transaction artifactId hfound htransaction hprevious
            obtain rfl := Option.some.inj (hrecord.symm.trans hfound)
            rw [htransaction] at hnone
            cases hnone.symm.trans hprevious
      | @exchanged record event hrecord _ _ hnone =>
          refine ⟨h.serving, hcomplete, ?_⟩
          intro found transaction artifactId hfound htransaction hprevious
          obtain rfl := Option.some.inj (hrecord.symm.trans hfound)
          rw [htransaction] at hnone
          cases hnone.symm.trans hprevious

theorem RestoresInPlace.of_mem (h : RestoresInPlace events) {event : UpdateEvent}
    (hmem : event ∈ events) : RestoresInPlace [event] := by
  intro found hfound
  obtain rfl := List.mem_singleton.1 hfound
  exact h found hmem

/-- A run from crash-safe files is crash-safe throughout. -/
theorem CrashSafe.run (h : CrashSafe start files) (hsound : files.Sound)
    (hplace : RestoresInPlace (runProgress dependencies files).events) :
    CrashSafe start (runProgress dependencies files).files ∧
      ∀ event ∈ (runProgress dependencies files).events, CrashSafe start event.files := by
  refine (runProgress_spec dependencies files).1.invariant h ?_
  intro before event after files' heq hfiles htrail hmove
  exact hfiles.move (htrail.sound hsound) (hplace.of_mem (by rw [heq]; simp)) hmove

/-- References that agree with the record are settled where no run is under way. -/
theorem UpdateFiles.Sound.settled (h : files.Sound) (hsettled : SettledState files) :
    files.Settled := by
  intro record transaction hrecord htransaction hrequired
  obtain ⟨-, hactivating, hrollback⟩ := hsettled record hrecord
  obtain ⟨hstanding, -⟩ := h.standing hrecord htransaction
  cases hstanding with
  | waiting _ _ _ _ hactive => exact ⟨fun _ => hactive, fun _ _ => hactive⟩
  | switching _ hstate | switched _ hstate =>
      rcases hstate with hstate | hstate
      · exact absurd hstate hactivating
      · exact absurd hstate hrollback
  | ended hended hactive =>
      have hcommitted : transaction.phase = .committed := by
        rcases hended with ⟨hphase, -⟩ | ⟨-, -, hstate | hstate⟩ | ⟨-, hstate⟩
        · exact hphase
        · exact absurd hstate hrollback
        · exact absurd hstate hrequired
        · exact absurd hstate hrequired
      exact ⟨fun hphase => absurd hcommitted hphase, fun hsome hother =>
        (hactive hsome).resolve_right hother⟩

/-! ## Histories -/

/-- Over every history whose rollbacks establish the previous reference only where the active one is
on what is restored, every moment is crash-safe, and where the last run has returned the references
are settled. -/
theorem crashSafe_of_run {runs : List UpdateRuntimeDependencies} {history : UpdateHistory}
    (hstart : start.record = none)
    (hactive : ∀ artifactId, start.active = some artifactId → start.Complete artifactId)
    (hplace : List.Along
      (fun history dependencies => RestoresInPlace (runProgress dependencies history.files).events)
      UpdateHistory.step (.start start) runs)
    (h : List.run UpdateHistory.step (.start start) runs = some history) :
    (∀ event ∈ history.events, CrashSafe start event.files) ∧ CrashSafe start history.files ∧
      (history.result.isSome → history.files.Settled) := by
  have hsafe : CrashSafe start start := by
    refine ⟨id, hactive, fun record _ _ hrecord => ?_⟩
    rw [hstart] at hrecord
    cases hrecord
  have hkept : ∀ dependencies files, files.Sound ∧ CrashSafe start files →
      RestoresInPlace (runProgress dependencies files).events →
      ((runProgress dependencies files).files.Sound ∧
          CrashSafe start (runProgress dependencies files).files) ∧
        ∀ event ∈ (runProgress dependencies files).events,
          event.files.Sound ∧ CrashSafe start event.files := by
    rintro dependencies files ⟨hsound, hsafe⟩ hcondition
    obtain ⟨hfiles, hevents⟩ := hsafe.run hsound hcondition
    have htrail := (runProgress_spec dependencies files).1
    refine ⟨⟨htrail.sound hsound, hfiles⟩, fun event hmem => ⟨?_, hevents event hmem⟩⟩
    obtain ⟨before, after, heq⟩ := List.append_of_mem hmem
    exact (htrail.split heq).1.sound hsound
  obtain ⟨hfiles, hevents⟩ := invariant_of_run (fun files => files.Sound ∧ CrashSafe start files)
    (fun files dependencies => RestoresInPlace (runProgress dependencies files).events)
    ⟨sound_of_unrecorded hstart, hsafe⟩ hkept hplace h
  refine ⟨fun event hmem => (hevents event hmem).2, hfiles.2, fun hreturned => ?_⟩
  obtain ⟨result, hresult⟩ := Option.isSome_iff_exists.1 hreturned
  obtain ⟨before, dependencies, previous, -, -, -, hsettled, -⟩ := returned_of_run h hresult
  exact hfiles.1.settled hsettled

/-- A run whose switch of the active reference fails. -/
def refusedSwitch : UpdateRuntimeDependencies :=
  { UpdateRuntimeDependencies.undisturbed with
    candidate := some nextCandidate
    fault := fun step _ =>
      if step = .writeReference .activateStaged .active then some ⟨false, "EACCES"⟩ else none }

/-- A run that is interrupted while it rolls back, behind the previous reference. -/
def interruptedRollback : UpdateRuntimeDependencies :=
  { UpdateRuntimeDependencies.undisturbed with
    candidate := some nextCandidate
    crashes := fun moment => decide (moment = 44) }

/-- A switch that fails is rolled back where the active reference still is. -/
theorem crashSafe_of_run_refusedSwitch : ∃ history,
    List.run UpdateHistory.step (.start servingFiles) [refusedSwitch] = some history ∧
    (∀ event ∈ history.events, CrashSafe servingFiles event.files) ∧
    CrashSafe servingFiles history.files ∧
    (history.result.isSome → history.files.Settled) := by
  obtain ⟨history, hrun⟩ := exists_history (.start servingFiles) [refusedSwitch]
  refine ⟨history, hrun, crashSafe_of_run rfl complete_servingFiles ?_ hrun⟩
  have hplace : RestoresInPlace (runProgress refusedSwitch servingFiles).events := by decide
  exact List.along_cons.2 ⟨hplace, fun _ _ => List.along_nil _⟩

/-- A rollback that is interrupted can leave both references on the candidate. -/
theorem not_crashSafe_interruptedRollback :
    ¬ ∀ (start : UpdateFiles) (runs : List UpdateRuntimeDependencies) (history : UpdateHistory),
      start.record = none →
      (∀ artifactId, start.active = some artifactId → start.Complete artifactId) →
      List.run UpdateHistory.step (.start start) runs = some history →
      (∀ event ∈ history.events, CrashSafe start event.files) ∧ CrashSafe start history.files ∧
        (history.result.isSome → history.files.Settled) := by
  intro hclaim
  obtain ⟨history, hrun⟩ := exists_history (.start servingFiles) [interruptedRollback]
  obtain ⟨-, hsafe, -⟩ := hclaim servingFiles [interruptedRollback] history rfl
    complete_servingFiles hrun
  have hleft : (runProgress interruptedRollback servingFiles).files.active = some "candidate" ∧
      (runProgress interruptedRollback servingFiles).files.previous = some "candidate" ∧
      ((runProgress interruptedRollback servingFiles).files.record.bind (·.transaction)).bind
        (·.previousArtifactId) = some "known-good" := by
    decide +kernel
  rw [← (history_of_one hrun).1] at hleft
  obtain ⟨hactive, hprevious, hjournal⟩ := hleft
  obtain ⟨transaction, htransaction, hdisplaced⟩ := Option.bind_eq_some_iff.1 hjournal
  obtain ⟨record, hrecord, htransaction⟩ := Option.bind_eq_some_iff.1 htransaction
  rcases hsafe.reachable record transaction "known-good" hrecord htransaction hdisplaced with h | h
  · exact absurd (hactive.symm.trans h) (by decide)
  · exact absurd (hprevious.symm.trans h) (by decide)

end RlyGateway
