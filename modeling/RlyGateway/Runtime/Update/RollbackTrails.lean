import RlyGateway.Runtime.Update.Findings

/-!
# Trails of rollbacks

Steps that change the files are taken, or they fail before or behind that. A rollback of an update
takes them one after the other: where it returns, the references are restored or the terminal record
is written; where it stops by an error while references were being restored, the terminal record could
not be written.
-/

namespace RlyGateway

/-! ## Durable steps -/

section Steps

variable (dependencies : UpdateRuntimeDependencies) {P Q : UpdateAssertion}

/-- An action that is only noted. -/
theorem meets_note {moment : ℕ} {action : UpdateAction} {S : UpdateStop → UpdateAssertion}
    (hdone : ∀ events files, P events files → Q (events ++ [⟨moment, files, action⟩]) files) :
    EStateM.Meets (At P) (note moment action) (fun _ => At Q) fun stop => At (S stop) :=
  EStateM.meets_modify fun _ hp => hdone _ _ hp

/-- A step that is performed is done where it returns; where it stops it is done or not, and it has
failed unless the process is gone. -/
theorem meets_perform (hP : Stable P) (hQ : Stable Q) {step : UpdateStep} {action : UpdateAction}
    {change : UpdateFiles → UpdateFiles}
    (hdone : ∀ events files moment, P events files →
      Q (events ++ [⟨moment, files, action⟩]) (change files)) :
    EStateM.Meets (At P) (perform dependencies step action change) (fun _ => At Q)
      fun stop => At fun events files => (P events files ∨ Q events files) ∧
        (stop = .crashed ∨ Happened events (.faulted step)) := by
  refine EStateM.Meets.through (fun _ => At P) ?_ fun moment => ?_
  · refine ((finds_nextMoment dependencies : Finds Anything _ _ fun _ _ => False) P hP fun _ _ _ => trivial).mono (fun _ => id) (fun _ _ hp => hp.1) ?_
    rintro stop s ⟨hp, hcrashed | hfalse⟩
    · exact ⟨.inl hp, .inl hcrashed⟩
    · exact hfalse.elim
  · cases dependencies.fault step moment with
    | none => exact EStateM.meets_modify fun s hp => hdone _ _ moment hp
    | some fault =>
        refine EStateM.Meets.through (fun _ => At fun events files => P events files ∨ Q events files) ?_ fun _ => ?_
        · refine EStateM.meets_modify fun s hp => ?_
          split
          · exact .inr (hdone _ _ moment hp)
          · exact .inl hp
        · refine EStateM.Meets.through (fun _ => At fun events files =>
            (P events files ∨ Q events files) ∧ Happened events (.faulted step)) ?_ fun _ => ?_
          · exact meets_note fun events files hp =>
              ⟨hP.or hQ events files moment _ rfl hp, happened_concat.2 (.inr rfl)⟩
          · exact EStateM.meets_throw fun s hp => ⟨hp.1, .inr hp.2⟩

/-- A record that is written has no empty version. -/
theorem meets_write (hP : Stable P) (hQ : Stable Q) {record : UpdateStateRecord}
    (hdone : ∀ events files moment, P events files → "" ∉ record.versions →
      Q (events ++ [⟨moment, files, .wrote record⟩]) { files with record := some record }) :
    EStateM.Meets (At P) (UpdateStateStore.write dependencies record) (fun _ => At Q)
      fun stop => At fun events files => (P events files ∨ Q events files) ∧
        (stop = .crashed ∨ "" ∈ record.versions ∨
          Happened events (.faulted (.writeRecord record.state))) := by
  refine EStateM.Meets.ite (fun hempty => EStateM.meets_throw fun s hp => ⟨.inl hp, .inr (.inl hempty)⟩)
    fun hversions => ?_
  refine (meets_perform dependencies hP hQ fun events files moment hp =>
    hdone events files moment hp hversions).mono (fun _ => id) (fun _ _ => id) ?_
  exact fun stop s ⟨hp, hstop⟩ => ⟨hp, hstop.imp_right .inr⟩

/-- A record taken to its next state. -/
theorem meets_transitionUnderLock {Q : UpdateStateRecord → UpdateAssertion} (hP : Stable P)
    (hQ : ∀ record, Stable (Q record)) {start : List (Option UpdateState)}
    {update : String → Option UpdateStateRecord → UpdateStateRecord}
    {current : Option UpdateStateRecord}
    (hrecord : ∀ events files, P events files → files.record = current)
    (hdone : ∀ now events files moment, P events files →
      (start ≠ [] → current.map (·.state) ∈ start) →
      Q (update now current) (events ++ [⟨moment, files, .wrote (update now current)⟩])
        { files with record := some (update now current) }) :
    EStateM.Meets (At P) (UpdateStateStore.transitionUnderLock dependencies start update)
      (fun record => At (Q record))
      fun _ => At fun events files => P events files ∨ ∃ record, Q record events files := by
  refine EStateM.Meets.through (fun found => At fun events files =>
    P events files ∧ found = current) ?_ fun found => ?_
  · refine ((finds_read dependencies : Finds Anything _ _ _).meets hP (fun _ _ _ => trivial)
      (S := fun _ events files => P events files ∨ ∃ record, Q record events files)
      fun _ _ _ hp => .inl hp).post_of ?_
    exact fun found s ⟨hp, hfound⟩ => ⟨hp, hfound.trans (hrecord _ _ hp)⟩
  · refine EStateM.Meets.ite (fun _ => EStateM.meets_throw fun s hp => .inl hp.1) fun hstate => ?_
    refine EStateM.Meets.through (fun _ => At fun events files =>
      P events files ∧ found = current) ?_ fun now => ?_
    · exact ((finds_currentTime dependencies : Finds Anything _ _ Anything).meets
        (hP.and (stable_files fun _ => found = current)) (fun _ _ _ => trivial)
        fun _ _ _ hp => .inl hp.1).post_of fun _ s hp => hp.1
    · refine EStateM.Meets.through (fun _ => At fun events files =>
        Q (update now found) events files) ?_ fun _ => EStateM.meets_pure fun s hp => hp
      refine (meets_write dependencies (hP.and (stable_files fun _ => found = current))
        (hQ (update now found)) ?_).mono (fun _ => id) (fun _ _ => id) ?_
      · rintro events files moment ⟨hp, rfl⟩ -
        exact hdone now events files moment hp fun hne => by_contra fun hnot => hstate ⟨hne, hnot⟩
      · rintro stop s ⟨hp | hq, -⟩
        · exact .inl hp.1
        · exact .inr ⟨_, hq⟩

end Steps

variable (dependencies : UpdateRuntimeDependencies) (start : UpdateFiles)

theorem stable_trail : Stable (UpdateTrail dependencies start) :=
  fun _ _ moment _ hfinding h => h.move (.found hfinding) moment

/-! ## How a run ends -/

/-- What holds behind every action but the beginning of a restoration. -/
def Kept (F : List UpdateEvent → Prop) : Prop :=
  ∀ events event, event.action ≠ .called .setActiveReferences →
    event.action ≠ .called .restorePrevious → F events → F (events ++ [event])

theorem Kept.stable {F : List UpdateEvent → Prop} (h : Kept F) : Stable fun events _ => F events := by
  intro events files moment action hfinding hF
  refine h events _ ?_ ?_ hF
  · rintro rfl
    cases hfinding
  · rintro rfl
    cases hfinding

theorem kept_restoresOnce : Kept RestoresOnce := by
  intro events event hset hrestore h hrestoring
  rcases restoring_concat.1 hrestoring with hrestoring | haction | haction
  · exact (h hrestoring).append _
  · exact absurd haction hset
  · exact absurd haction hrestore

theorem kept_mayRestore : Kept MayRestore := by
  intro events event hset hrestore h hrestoring
  rcases restoring_concat.1 hrestoring with hrestoring | haction | haction
  · exact ⟨(h hrestoring).1.append _, (h hrestoring).2.append _⟩
  · exact absurd haction hset
  · exact absurd haction hrestore

theorem kept_not_restoring : Kept fun events => ¬ Restoring events := by
  intro events event hset hrestore h hrestoring
  rcases restoring_concat.1 hrestoring with hrestoring | haction | haction
  · exact h hrestoring
  · exact absurd haction hset
  · exact absurd haction hrestore

theorem kept_switching : Kept Switching := fun _ _ _ _ h => h.append _

/-- The states a run returns in. -/
def SettledState (files : UpdateFiles) : Prop :=
  ∀ record, files.record = some record →
    record.state ≠ .installing ∧ record.state ≠ .activating ∧ record.state ≠ .rollbackRequired

/-- The active reference has been restored, and has stayed where it was. -/
def RestoredBy (events : List UpdateEvent) (files : UpdateFiles) : Prop :=
  ∃ before restored after target, events = before ++ restored :: after ∧
    (restored.action = .pointed .setActiveReferences .active (some target) ∨
      restored.action = .pointed .restorePrevious .active (some target)) ∧
    files.active = some target ∧ ∀ event ∈ after, event.files.active = some target

/-- How a run ends that returns. -/
def RunEnded (result : UpdateRunResult) : UpdateAssertion := fun events files =>
  UpdateTrail dependencies start events files ∧ SettledState files ∧
    (result.outcome = .rolledBack → RestoredBy events files)

/-- A record behind a switch, with the evidence that is given. -/
def Backed (evidence : Option TransactionEvidence) : UpdateAssertion := fun events files =>
  UpdateTrail dependencies start events files ∧ RestoresOnce events ∧
    ∃ record, files.record = some record ∧ record.evidence = evidence ∧ record.PastDraining ∧
      (record.state = .recoveryRequired → RecoveryFaulted events)

/-- A record behind a switch, with the evidence of a record that is held. -/
def HeldBehind (held : UpdateStateRecord) (F : List UpdateEvent → Prop) : UpdateAssertion :=
  fun events files => UpdateTrail dependencies start events files ∧ F events ∧
    ∃ record, files.record = some record ∧ held.evidence = record.evidence ∧ record.PastDraining

theorem stable_heldBehind (held : UpdateStateRecord) {F : List UpdateEvent → Prop} (hF : Kept F) :
    Stable (HeldBehind dependencies start held F) :=
  (stable_trail dependencies start).and (hF.stable.and (stable_files _))

/-- A certain record with a fact about what has happened. -/
def Holding (record : UpdateStateRecord) (F : List UpdateEvent → Prop) : UpdateAssertion :=
  fun events files => UpdateTrail dependencies start events files ∧ F events ∧
    files.record = some record

theorem stable_holding (record : UpdateStateRecord) {F : List UpdateEvent → Prop} (hF : Kept F) :
    Stable (Holding dependencies start record F) :=
  (stable_trail dependencies start).and (hF.stable.and (stable_files _))

theorem stable_backed (evidence : Option TransactionEvidence) :
    Stable (Backed dependencies start evidence) := by
  refine (stable_trail dependencies start).and (stable_restoresOnce.and
    (Stable.exists fun record => ?_))
  intro events files moment action hfinding ⟨hrecord, hevidence, hpast, hfaulted⟩
  exact ⟨hrecord, hevidence, hpast, fun hstate => (hfaulted hstate).append _⟩

/-- A rollback that has been recorded, with what it has restored. -/
def Restored (held rolledBack : UpdateStateRecord) (F : List UpdateEvent → Prop)
    (restored : CandidateInstallResult) : UpdateAssertion := fun events files =>
  Holding dependencies start rolledBack F events files ∧ RestoredAs held files restored ∧
    files.active = some restored.artifactId ∧ RestoredBy events files

/-- A restored deployment that is recorded as the current one. -/
def RolledBack (held rolledBack : UpdateStateRecord) (F : List UpdateEvent → Prop) (reason : String)
    (restored : CandidateInstallResult) (record : UpdateStateRecord) : UpdateAssertion :=
  fun events files => (∃ now, record = rolledBackRecord held restored reason now rolledBack) ∧
    Holding dependencies start record F events files ∧ RestoredBy events files

/-- What a rollback starts from: the record that is held and due for it, or one of the same evidence
behind a switch in this run. -/
def DueForRollback (held : UpdateStateRecord) (F : List UpdateEvent → Prop) : UpdateAssertion :=
  fun events files => Backed dependencies start held.evidence events files ∧ F events ∧
    (files.record = some held ∧ held.state = .rollbackRequired ∧ ¬ Restoring events ∨
      Switching events)

/-- How a rollback stops: the process is gone, or the record is still behind its switch, and what
was restored is restored for another time only where the terminal record could not be written. -/
def Interrupted (held : UpdateStateRecord) (F : List UpdateEvent → Prop) (stop : UpdateStop) :
    UpdateAssertion := fun events files =>
  UpdateTrail dependencies start events files ∧
    (stop = .crashed ∨ Backed dependencies start held.evidence events files ∧ F events)

variable {dependencies start}

/-- A restored reference stays where it is behind what does not point it elsewhere. -/
theorem RestoredBy.append {events : List UpdateEvent} {files files' : UpdateFiles}
    (h : RestoredBy events files) (moment : ℕ) (action : UpdateAction)
    (hactive : files'.active = files.active) :
    RestoredBy (events ++ [⟨moment, files, action⟩]) files' := by
  obtain ⟨before, restored, after, target, rfl, haction, htarget, hafter⟩ := h
  refine ⟨before, restored, after ++ [⟨moment, files, action⟩], target, by simp, haction,
    hactive.trans htarget, ?_⟩
  intro event hmem
  rcases List.mem_append.1 hmem with hmem | hmem
  · exact hafter event hmem
  · obtain rfl := List.mem_singleton.1 hmem
    exact htarget

theorem stable_restoredBy : Stable RestoredBy :=
  fun _ _ moment action _ h => h.append moment action rfl

theorem Kept.and {F G : List UpdateEvent → Prop} (hF : Kept F) (hG : Kept G) :
    Kept fun events => F events ∧ G events :=
  fun events event hset hrestore h =>
    ⟨hF events event hset hrestore h.1, hG events event hset hrestore h.2⟩

/-- What holds behind every action. -/
def Lasting (F : List UpdateEvent → Prop) : Prop := ∀ events more, F events → F (events ++ more)

theorem Lasting.kept {F : List UpdateEvent → Prop} (h : Lasting F) : Kept F :=
  fun events event _ _ hF => h events [event] hF

theorem Lasting.and_happened {F : List UpdateEvent → Prop} (h : Lasting F) (action : UpdateAction) :
    Lasting fun events => F events ∧ Happened events action :=
  fun events more hF => ⟨h events more hF.1, hF.2.append more⟩

/-- A record that is written. -/
theorem Kept.wrote {F : List UpdateEvent → Prop} (hF : Kept F) {events : List UpdateEvent}
    (h : F events) (moment : ℕ) (files : UpdateFiles) (record : UpdateStateRecord) :
    F (events ++ [⟨moment, files, .wrote record⟩]) :=
  hF events _ (by rintro ⟨⟩) (by rintro ⟨⟩) h

/-! ## Rollback -/

section Rollback

variable {held : UpdateStateRecord} {reason : String} {F : List UpdateEvent → Prop}

/-- The terminal record is written, or it fails to be. -/
theorem meets_enterRecoveryRequired {P : UpdateAssertion} (hP : Stable P) (hF : Kept F)
    (hgiven : ∀ events files, P events files → HeldBehind dependencies start held F events files) :
    EStateM.Meets (At P) (enterRecoveryRequired dependencies held reason)
      (fun result => At (RunEnded dependencies start result))
      fun stop => At fun events files =>
        P events files ∧ (stop = .crashed ∨ "" ∈ held.versions ∨ RecoveryFaulted events) ∨
          HeldBehind dependencies start held F events files ∧
            (stop = .crashed ∨ RecoveryFaulted events) := by
  refine EStateM.Meets.through (fun _ => At P) ?_ fun now => ?_
  · refine ((finds_currentTime dependencies : Finds Anything _ _ fun _ _ => False) P hP
      fun _ _ _ => trivial).mono (fun _ => id) (fun _ _ hp => hp.1) ?_
    rintro stop s ⟨hp, hcrashed | hfalse⟩
    · exact .inl ⟨hp, .inl hcrashed⟩
    · exact hfalse.elim
  let failed := recoveryRequiredRecord held reason now
  have hfailed := (stable_holding dependencies start failed hF).and
    (stable_files fun _ => "" ∉ held.versions)
  refine EStateM.Meets.through (fun _ => At fun events files =>
    Holding dependencies start failed F events files ∧ "" ∉ held.versions) ?_ fun _ =>
    EStateM.meets_pure ?_
  · refine (meets_write dependencies hP hfailed ?_).mono (fun _ => id) (fun _ _ => id) ?_
    · intro events files moment hp hversions
      rw [UpdateStateRecord.versions_recoveryRequiredRecord] at hversions
      obtain ⟨htrail, hfacts, record, hrecord, hevidence, hpast⟩ := hgiven events files hp
      exact ⟨⟨htrail.move (.wrote (.recoveryRequired hrecord hevidence hpast)) moment,
        hF.wrote hfacts moment files failed, rfl⟩, hversions⟩
    · rintro stop s ⟨hheld, hstop⟩
      rw [UpdateStateRecord.versions_recoveryRequiredRecord] at hstop
      rcases hheld with hp | ⟨⟨htrail, hfacts, hrecord⟩, hversions⟩
      · exact .inl ⟨hp, hstop⟩
      · exact .inr ⟨⟨htrail, hfacts, failed, hrecord,
          UpdateStateRecord.evidence_recoveryRequiredRecord.symm,
          UpdateStateRecord.pastDraining_recoveryRequiredRecord⟩,
          hstop.imp_right fun h => h.resolve_left hversions⟩
  · rintro s ⟨⟨htrail, hfacts, hrecord⟩, -⟩
    refine ⟨htrail, ?_, by rintro ⟨⟩⟩
    intro record hsome
    obtain rfl := Option.some.inj (hrecord.symm.trans hsome)
    exact ⟨by rintro ⟨⟩, by rintro ⟨⟩, by rintro ⟨⟩⟩

/-! ### Restoring references -/

/-- A service action of an update that is behind its switch. -/
theorem meets_service {P : UpdateAssertion} (hP : Stable P) {action : UpdateAction}
    (hdone : ∀ events files moment, P events files → P (events ++ [⟨moment, files, action⟩]) files) :
    EStateM.Meets (At P) (perform dependencies .service action id) (fun _ => At P)
      fun _ => At P :=
  (meets_perform dependencies hP hP hdone).mono (fun _ => id) (fun _ _ => id)
    fun _ _ ⟨hp, _⟩ => hp.elim id id

/-- A call of the installer that is noted before it is attempted. -/
theorem meets_ensureRuntimeLayout {P Q : UpdateAssertion} (hQ : Stable Q) {call : InstallerCall}
    (hcalled : ∀ events files moment, P events files →
      Q (events ++ [⟨moment, files, .called call⟩]) files) :
    EStateM.Meets (At P) (LocalCandidateInstaller.ensureRuntimeLayout dependencies call)
      (fun _ => At Q) fun _ => At Q := by
  refine EStateM.Meets.through (fun (_ : UpdateProgress) => At P)
    (EStateM.meets_get fun _ hp => hp) fun progress => ?_
  refine EStateM.Meets.through (fun _ => At Q)
    (meets_note fun events files hp => hcalled events files _ hp) fun _ => ?_
  refine EStateM.Meets.through (fun _ => At Q) ?_ fun _ => EStateM.meets_pure fun _ hq => hq
  exact ((finds_attempt_anything dependencies _ : Finds Anything _ _ _).meets hQ
    (fun _ _ _ => trivial) fun _ _ _ hq => hq).post_of fun _ _ hq => hq.1

/-- A reference that is pointed elsewhere. -/
theorem meets_replaceReference {P Q : UpdateAssertion} (hP : Stable P) (hQ : Stable Q)
    {call : InstallerCall} {reference : ReferenceName} {target : Option String}
    (hdone : ∀ events files moment, P events files →
      Q (events ++ [⟨moment, files, .pointed call reference target⟩]) (files.point target reference)) :
    EStateM.Meets (At P) (LocalCandidateInstaller.replaceReference dependencies call reference target)
      (fun _ => At Q) fun _ => At fun events files => P events files ∨ Q events files :=
  (meets_perform dependencies hP hQ hdone).mono (fun _ => id) (fun _ _ => id) fun _ _ hp => hp.1

/-- The references established anew from a journal. -/
theorem meets_setActiveReferences {record : UpdateStateRecord} {transaction : UpdateTransaction}
    {artifactId : String} (hF : Lasting F) (hstate : record.state = .rollbackRequired)
    (htransaction : record.transaction = some transaction) (hphase : transaction.phase = .rollingBack)
    (hprevious : transaction.previousArtifactId = some artifactId)
    (hwrote : ∀ events, F events → Happened events (.wrote record)) :
    EStateM.Meets
      (At fun events files => Holding dependencies start record F events files ∧ MayRestore events)
      (LocalCandidateInstaller.setActiveReferences dependencies artifactId
        (some transaction.candidateArtifactId))
      (fun _ => At fun events files => Holding dependencies start record F events files ∧
        files.active = some artifactId ∧ RestoredBy events files)
      fun _ => At (Holding dependencies start record F) := by
  have hrolls : record.phase = some .rollingBack := by
    rw [UpdateStateRecord.phase, htransaction, Option.map_some, hphase]
  have hrolling : record.phase = none ∨ record.phase = some .rollingBack := .inr hrolls
  have hpast : record.PastDraining := by
    unfold UpdateStateRecord.PastDraining
    rw [hrolls]
    exact ⟨by rintro ⟨⟩, by rintro ⟨⟩, by rintro ⟨⟩⟩
  have hheld := stable_holding dependencies start record hF.kept
  refine EStateM.Meets.through (fun _ => At (Holding dependencies start record F))
    (meets_ensureRuntimeLayout hheld ?_) fun _ => ?_
  · rintro events files moment ⟨⟨htrail, hfacts, hrecord⟩, hmay⟩
    exact ⟨htrail.move (.restores (.inl rfl) hrecord hstate (hwrote events hfacts) hmay hrolling hpast) moment,
      hF _ _ hfacts, hrecord⟩
  let complete : UpdateAssertion := fun events files =>
    Holding dependencies start record F events files ∧ files.Complete artifactId
  have hcomplete : Stable complete := hheld.and (stable_files _)
  refine EStateM.Meets.through (fun _ => At complete) ?_ fun _ => ?_
  · exact ((finds_validateDeployment dependencies artifactId : Finds Anything _ _ _).meets hheld
      (fun _ _ _ => trivial) fun _ _ _ hp => hp).post_of fun _ _ hp => ⟨hp.1, hp.2.1⟩
  refine EStateM.Meets.through (fun _ => At complete) ?_ fun _ => ?_
  · exact ((finds_validateDeployment dependencies _ : Finds Anything _ _ _).meets hcomplete
      (fun _ _ _ => trivial) fun _ _ _ hp => hp.1).post_of fun _ _ hp => hp.1
  refine EStateM.Meets.through (fun _ => At complete) ?_ fun _ => ?_
  · refine (meets_replaceReference hcomplete hcomplete ?_).mono (fun _ => id) (fun _ _ => id)
      fun _ _ hp => hp.elim And.left And.left
    rintro events files moment ⟨⟨htrail, hfacts, hrecord⟩, hthere⟩
    exact ⟨⟨htrail.move (.pointed (.aborted hrecord hstate htransaction hphase hprevious hthere))
      moment, hF _ _ hfacts, hrecord⟩, hthere⟩
  refine (meets_replaceReference hcomplete
    (hheld.and ((stable_files fun files => files.active = some artifactId).and stable_restoredBy))
    ?_).mono (fun _ => id) (fun _ _ => id) fun _ _ hp => hp.elim And.left And.left
  rintro events files moment ⟨⟨htrail, hfacts, hrecord⟩, hthere⟩
  exact ⟨⟨htrail.move (.pointed (.restored hrecord hstate htransaction hphase hprevious hthere))
      moment, hF _ _ hfacts, hrecord⟩, rfl,
    ⟨events, _, [], artifactId, rfl, .inl rfl, rfl, by rintro _ ⟨⟩⟩⟩

/-- The previous deployment made active again. -/
theorem meets_restorePrevious {record : UpdateStateRecord} (hF : Lasting F)
    (hstate : record.state = .rollbackRequired) (hpast : record.PastDraining)
    (hrolling : record.phase = none ∨ record.phase = some .rollingBack)
    (hnone : record.transaction.bind (·.previousArtifactId) = none)
    (hwrote : ∀ events, F events → Happened events (.wrote record)) :
    EStateM.Meets
      (At fun events files => Holding dependencies start record F events files ∧ MayRestore events)
      (LocalCandidateInstaller.restorePrevious dependencies)
      (fun restored => At fun events files => Holding dependencies start record F events files ∧
        files.version? restored.artifactId = some restored.version ∧
        files.active = some restored.artifactId ∧ RestoredBy events files)
      fun _ => At (Holding dependencies start record F) := by
  have hheld := stable_holding dependencies start record hF.kept
  refine EStateM.Meets.through (fun _ => At (Holding dependencies start record F))
    (meets_ensureRuntimeLayout hheld ?_) fun _ => ?_
  · rintro events files moment ⟨⟨htrail, hfacts, hrecord⟩, hmay⟩
    exact ⟨htrail.move (.restores (.inr rfl) hrecord hstate (hwrote events hfacts) hmay hrolling hpast) moment,
      hF _ _ hfacts, hrecord⟩
  refine EStateM.Meets.bind ((finds_resolveRef dependencies .previous : Finds Anything _ _ _).meets
    hheld (fun _ _ _ => trivial) fun _ _ _ hp => hp) fun previous => ?_
  cases previous with
  | none => exact EStateM.meets_throw fun _ hp => hp.1
  | some previous =>
      obtain ⟨artifactId, version⟩ := previous
      dsimp only
      let found : UpdateAssertion := fun events files =>
        Holding dependencies start record F events files ∧
          Resolves .previous (some (artifactId, version)) files
      have hfound : Stable found := hheld.and (stable_files _)
      refine EStateM.Meets.bind ((finds_resolveRef dependencies .active : Finds Anything _ _ _).meets
        hfound (fun _ _ _ => trivial) fun _ _ _ hp => hp.1) fun active => ?_
      let switched : UpdateAssertion := fun events files =>
        Holding dependencies start record F events files ∧
          files.version? artifactId = some version ∧ files.active = some artifactId ∧
          RestoredBy events files ∧ ∃ event ∈ events, event.files.active = active.map Prod.fst
      have hswitched : Stable switched := by
        refine hheld.and ((stable_files _).and ((stable_files fun files =>
          files.active = some artifactId).and (stable_restoredBy.and ?_)))
        rintro events files moment action - ⟨event, hmem, hevent⟩
        exact ⟨event, List.mem_append_left _ hmem, hevent⟩
      refine EStateM.Meets.through (fun _ => At switched) ?_ fun _ => ?_
      · refine (meets_replaceReference (hfound.and (stable_files fun files =>
          Resolves .active active files)) hswitched ?_).mono (fun _ => id) (fun _ _ => id)
          fun _ _ hp => hp.elim (fun h => h.1.1) And.left
        rintro events files moment ⟨⟨⟨htrail, hfacts, hrecord⟩, htarget, hversion, hcomplete⟩, hactive⟩
        have hprevious : files.previous = some artifactId := htarget.symm
        have hthere := hcomplete artifactId hprevious
        refine ⟨⟨htrail.move (.pointed (.reverted hrecord hstate hrolling hnone hprevious hthere)) moment,
          hF _ _ hfacts, hrecord⟩, ?_, rfl,
          ⟨events, _, [], artifactId, rfl, .inr rfl, rfl, by rintro _ ⟨⟩⟩,
          ⟨_, List.mem_append_right _ (List.mem_singleton.2 rfl), hactive.1.symm⟩⟩
        change files.previous = _ at hprevious
        change some version = files.previous.bind files.version? at hversion
        rw [hprevious] at hversion
        exact hversion.symm
      refine EStateM.Meets.through (fun _ => At fun events files =>
        Holding dependencies start record F events files ∧
          files.version? artifactId = some version ∧ files.active = some artifactId ∧
          RestoredBy events files) ?_ fun _ => EStateM.meets_pure fun _ hp => hp
      refine (meets_replaceReference hswitched (hheld.and ((stable_files _).and ((stable_files
        fun files => files.active = some artifactId).and stable_restoredBy))) ?_).mono (fun _ => id)
        (fun _ _ => id) fun _ _ hp => hp.elim And.left And.left
      rintro events files moment ⟨⟨htrail, hfacts, hrecord⟩, hversion, hactive, hrestored, event,
        hmem, hevent⟩
      rw [← hevent]
      exact ⟨⟨htrail.move (.pointed (.exchanged hrecord hstate hrolling hnone hmem)) moment,
        hF _ _ hfacts, hrecord⟩, hversion, hactive, hrestored.append moment _ rfl⟩

/-- The references restored, from the journal or through the previous reference. -/
theorem meets_restoreReferences {now : String} (hF : Lasting F)
    (hwrote : ∀ events, F events → Happened events (.wrote (rollingBackRecord held reason now))) :
    EStateM.Meets
      (At fun events files => Holding dependencies start (rollingBackRecord held reason now) F events
        files ∧ MayRestore events)
      (restoreReferences dependencies held)
      (fun restored => At (Restored dependencies start held (rollingBackRecord held reason now) F
        restored))
      fun _ => At (Holding dependencies start (rollingBackRecord held reason now) F) := by
  unfold restoreReferences
  split
  · rename_i transaction artifactId heq
    obtain ⟨journal, htransaction, hmap⟩ := Option.bind_eq_some_iff.1 heq
    obtain ⟨previous, hprevious, hpair⟩ := Option.map_eq_some_iff.1 hmap
    obtain ⟨rfl, rfl⟩ := Prod.mk.inj hpair
    let rolledBack : UpdateTransaction :=
      { journal with
        phase := .rollingBack
        rollbackAttempts := 1
        lastRollbackOutcome := some ⟨false, now, some reason⟩
        updatedAt := now }
    have hjournal : (rollingBackRecord held reason now).transaction = some rolledBack := by
      unfold rollingBackRecord
      rw [htransaction]
      rfl
    refine EStateM.Meets.bind (show EStateM.Meets _ (LocalCandidateInstaller.setActiveReferences
      dependencies previous (some rolledBack.candidateArtifactId)) _ _ from
      meets_setActiveReferences hF rfl hjournal rfl hprevious hwrote) fun _ => EStateM.meets_pure ?_
    rintro s ⟨hheld, hactive, hrestored⟩
    exact ⟨hheld, .inl ⟨journal, _, htransaction, hprevious, rfl⟩, hactive, hrestored⟩
  · rename_i heq
    have hnone : held.transaction.bind (·.previousArtifactId) = none := by
      cases htransaction : held.transaction with
      | none => rfl
      | some transaction =>
          rw [htransaction, Option.bind_some, Option.map_eq_none_iff] at heq
          exact heq
    have hnone' : (rollingBackRecord held reason now).transaction.bind (·.previousArtifactId) =
        none := by
      unfold rollingBackRecord
      cases htransaction : held.transaction with
      | none => rfl
      | some transaction =>
          rw [htransaction] at hnone
          exact hnone
    refine (meets_restorePrevious hF rfl UpdateStateRecord.pastDraining_rollingBackRecord
      UpdateStateRecord.phase_rollingBackRecord hnone' hwrote).mono (fun _ => id) ?_ fun _ _ => id
    rintro restored s ⟨hheld, hversion, hactive, hrestored⟩
    exact ⟨hheld, .inr ⟨hnone, hversion⟩, hactive, hrestored⟩

theorem stable_restored (rolledBack : UpdateStateRecord) (hF : Kept F)
    (restored : CandidateInstallResult) :
    Stable (Restored dependencies start held rolledBack F restored) :=
  (stable_holding dependencies start rolledBack hF).and ((stable_files _).and ((stable_files fun files =>
    files.active = some restored.artifactId).and stable_restoredBy))

/-- The service restarted, and the restored deployment verified. -/
theorem meets_restartRestored {rolledBack : UpdateStateRecord} {restored : CandidateInstallResult}
    (hF : Kept F) (hstate : rolledBack.state = .rollbackRequired) (hpast : rolledBack.PastDraining) :
    EStateM.Meets (At (Restored dependencies start held rolledBack F restored))
      (restartRestored dependencies restored)
      (fun _ => At (Restored dependencies start held rolledBack F restored))
      fun _ => At (Restored dependencies start held rolledBack F restored) := by
  have hstable : Stable (Restored dependencies start held rolledBack F restored) :=
    stable_restored rolledBack hF restored
  refine EStateM.Meets.bind (meets_service hstable ?_) fun _ => ?_
  · rintro events files moment ⟨⟨htrail, hfacts, hrecord⟩, hreported, hactive, hrestored⟩
    exact ⟨⟨htrail.move (.serves (.inr (.inl rfl)) hrecord (.inr hstate) hpast) moment,
      hF _ _ (by rintro ⟨⟩) (by rintro ⟨⟩) hfacts, hrecord⟩, hreported, hactive,
      hrestored.append moment _ rfl⟩
  refine EStateM.Meets.bind ((finds_verifyCandidateRuntime dependencies _ _ _ :
    Finds Anything _ _ _).meets hstable (fun _ _ _ => trivial) fun _ _ _ hp => hp) fun refused => ?_
  cases refused with
  | none => exact EStateM.meets_pure fun _ hp => hp.1
  | some reason => exact EStateM.meets_throw fun _ hp => hp.1

/-- The restored deployment becomes the current one. -/
theorem meets_rolledBack {restored : CandidateInstallResult} {now : String} (hF : Lasting F)
    (hattempts : held.rollbackAttempts = 0) :
    EStateM.Meets (At (Restored dependencies start held (rollingBackRecord held reason now) F restored))
      (UpdateStateStore.transitionUnderLock dependencies [some .rollbackRequired]
        fun now' current => rolledBackRecord held restored reason now'
          (current.getD (rollingBackRecord held reason now)))
      (fun record => At (RolledBack dependencies start held (rollingBackRecord held reason now) F reason
        restored record))
      fun _ => At (HeldBehind dependencies start held F) := by
  let rolledBack := rollingBackRecord held reason now
  have hevidence : held.evidence = rolledBack.evidence :=
    UpdateStateRecord.evidence_rollingBackRecord.symm
  have hstable : ∀ record, Stable (RolledBack dependencies start held rolledBack F reason restored
      record) := fun record => (stable_files fun _ => _).and
    ((stable_holding dependencies start record hF.kept).and stable_restoredBy)
  refine (meets_transitionUnderLock dependencies (stable_restored rolledBack hF.kept restored) hstable
    (fun _ _ hp => hp.1.2.2) ?_).mono (fun _ => id) (fun _ _ => id) ?_
  · rintro now' events files moment ⟨⟨htrail, hfacts, hrecord⟩, hreported, htarget, hrestored⟩ -
    refine ⟨⟨now', rfl⟩, ⟨htrail.move (.wrote ?_) moment, hF _ _ hfacts, rfl⟩,
      hrestored.append moment _ rfl⟩
    exact .rolledBack hrecord hevidence hattempts rfl
      UpdateStateRecord.pastDraining_rollingBackRecord hreported htarget
  · rintro stop s (⟨hheld, -⟩ | ⟨record, ⟨now', rfl⟩, hheld, -⟩)
    · exact ⟨hheld.1, hheld.2.1, rolledBack, hheld.2.2, hevidence,
        UpdateStateRecord.pastDraining_rollingBackRecord⟩
    · exact ⟨hheld.1, hheld.2.1, _, hheld.2.2,
        hevidence.trans (UpdateStateRecord.evidence_rolledBackRecord hevidence).symm,
        UpdateStateRecord.pastDraining_rolledBackRecord hevidence⟩

/-- A rollback that has begun goes through, or stops with a record of the same evidence. -/
theorem meets_rollbackBody {restart : Bool} {now : String} (hF : Lasting F)
    (hattempts : held.rollbackAttempts = 0)
    (hwrote : ∀ events, F events → Happened events (.wrote (rollingBackRecord held reason now))) :
    EStateM.Meets
      (At fun events files => Holding dependencies start (rollingBackRecord held reason now) F events
        files ∧ MayRestore events)
      (rollbackBody dependencies held (rollingBackRecord held reason now) restart reason)
      (fun result => At (RunEnded dependencies start result))
      fun _ => At (HeldBehind dependencies start held F) := by
  have hcontinues : ∀ s, At (Holding dependencies start (rollingBackRecord held reason now) F) s →
      At (HeldBehind dependencies start held F) s := fun s hheld =>
    ⟨hheld.1, hheld.2.1, _, hheld.2.2, UpdateStateRecord.evidence_rollingBackRecord.symm,
      UpdateStateRecord.pastDraining_rollingBackRecord⟩
  have hended : ∀ restored record s (result : UpdateRunResult),
      At (RolledBack dependencies start held (rollingBackRecord held reason now) F reason restored
        record) s → At (RunEnded dependencies start result) s := by
    rintro restored _ s result ⟨⟨now', rfl⟩, hheld, hrestored⟩
    refine ⟨hheld.1, ?_, fun _ => hrestored⟩
    intro found hfound
    obtain rfl := Option.some.inj (hheld.2.2.symm.trans hfound)
    exact ⟨by rintro ⟨⟩, by rintro ⟨⟩, by rintro ⟨⟩⟩
  refine EStateM.Meets.bind ((meets_restoreReferences hF hwrote).mono (fun _ => id) (fun _ _ => id)
    fun _ => hcontinues) fun restored => ?_
  refine EStateM.Meets.ite (fun _ => EStateM.Meets.bind ((meets_restartRestored hF.kept rfl
    UpdateStateRecord.pastDraining_rollingBackRecord).mono (fun _ => id) (fun _ _ => id)
      fun _ s hp => hcontinues s hp.1) fun _ => ?_) fun _ => ?_
  · exact (meets_rolledBack hF hattempts).bind fun record =>
      EStateM.meets_pure fun s hp => hended restored record s _ hp
  · exact (meets_rolledBack hF hattempts).bind fun record =>
      EStateM.meets_pure fun s hp => hended restored record s _ hp

/-- A recorded rollback goes through, or ends in the terminal record. -/
theorem meets_recordedRollback {restart : Bool} {now : String} (hF : Lasting F)
    (hattempts : held.rollbackAttempts = 0)
    (hversions : "" ∉ (rollingBackRecord held reason now).versions) {text : String → String} :
    EStateM.Meets
      (At fun events files => Holding dependencies start (rollingBackRecord held reason now)
        (fun events => F events ∧ Happened events (.wrote (rollingBackRecord held reason now))) events
          files ∧ MayRestore events)
      (catching (rollbackBody dependencies held (rollingBackRecord held reason now) restart reason)
        fun message => enterRecoveryRequired dependencies (rollingBackRecord held reason now)
          (text message))
      (fun result => At (RunEnded dependencies start result))
      fun stop => At (Interrupted dependencies start held F stop) := by
  have hF' := hF.and_happened (.wrote (rollingBackRecord held reason now))
  refine (meets_rollbackBody hF' hattempts fun _ h => h.2).rescue ?_ ?_
  · intro stop message _
    refine (meets_enterRecoveryRequired (stable_heldBehind dependencies start held hF'.kept) hF.kept
      ?_).mono (fun _ => id) (fun _ _ => id) ?_
    · rintro events files ⟨htrail, hfacts, record, hrecord, hevidence, hpast⟩
      exact ⟨htrail, hfacts.1, record, hrecord,
        UpdateStateRecord.evidence_rollingBackRecord.trans hevidence, hpast⟩
    · rintro stop s (⟨⟨htrail, hfacts, record, hrecord, hevidence, hpast⟩, hstop⟩ |
        ⟨⟨htrail, hfacts, record, hrecord, hevidence, hpast⟩, hstop⟩)
      · refine ⟨htrail, hstop.imp_right fun h => ?_⟩
        have hfaulted := h.resolve_left hversions
        exact ⟨⟨htrail, fun _ => hfaulted, record, hrecord, hevidence.symm, hpast, fun _ => hfaulted⟩,
          hfacts.1⟩
      · refine ⟨htrail, hstop.imp_right fun hfaulted => ?_⟩
        rw [UpdateStateRecord.evidence_rollingBackRecord] at hevidence
        exact ⟨⟨htrail, fun _ => hfaulted, record, hrecord, hevidence.symm, hpast, fun _ => hfaulted⟩,
          hfacts⟩
  · rintro stop s hreason ⟨htrail, -⟩
    cases stop with
    | crashed => exact ⟨htrail, .inl rfl⟩
    | thrown message => cases hreason

/-- The one rollback of an activation. -/
theorem meets_rollback {restart : Bool} (hF : Lasting F) :
    EStateM.Meets (At (DueForRollback dependencies start held F))
      (rollback dependencies held restart reason)
      (fun result => At (RunEnded dependencies start result))
      fun stop => At (Interrupted dependencies start held F stop) := by
  have hdue : Stable (DueForRollback dependencies start held F) := by
    refine (stable_backed dependencies start held.evidence).and (hF.kept.stable.and
      (Stable.or ?_ ?_))
    · exact (stable_files fun files => files.record = some held).and
        ((stable_files fun _ => held.state = .rollbackRequired).and stable_not_restoring)
    · exact fun _ _ _ _ _ h => h.append _
  unfold rollback
  refine EStateM.Meets.ite (fun _ => ?_) fun hattempts => ?_
  · refine (meets_enterRecoveryRequired hdue (kept_restoresOnce.and hF.kept) ?_).mono (fun _ => id)
      (fun _ _ => id) ?_
    · rintro events files ⟨⟨htrail, honce, record, hrecord, hevidence, hpast, -⟩, hfacts, -⟩
      exact ⟨htrail, ⟨honce, hfacts⟩, record, hrecord, hevidence.symm, hpast⟩
    · rintro stop s (⟨⟨hbacked, hfacts, -⟩, -⟩ |
        ⟨⟨htrail, hfacts, record, hrecord, hevidence, hpast⟩, hstop⟩)
      · exact ⟨hbacked.1, .inr ⟨hbacked, hfacts⟩⟩
      · exact ⟨htrail, hstop.imp_right fun hfaulted => ⟨⟨htrail, hfacts.1, record, hrecord,
          hevidence.symm, hpast, fun _ => hfaulted⟩, hfacts.2⟩⟩
  · have hzero : held.rollbackAttempts = 0 := by
      change ¬ 1 ≤ held.rollbackAttempts at hattempts
      omega
    refine EStateM.Meets.through (fun _ => At (DueForRollback dependencies start held F)) ?_
      fun now => ?_
    · refine ((finds_currentTime dependencies : Finds Anything _ _ Anything).meets hdue
        (fun _ _ _ => trivial) ?_).post_of fun _ _ hp => hp.1
      exact fun stop events files hp => ⟨hp.1.1, .inr ⟨hp.1, hp.2.1⟩⟩
    let rolledBack := rollingBackRecord held reason now
    let recorded : UpdateAssertion := fun events files => "" ∉ rolledBack.versions ∧
      Holding dependencies start rolledBack
        (fun events => F events ∧ Happened events (.wrote rolledBack)) events files ∧
        MayRestore events
    have hrecorded : Stable recorded := (stable_files fun _ => "" ∉ rolledBack.versions).and
      ((stable_holding dependencies start rolledBack (hF.and_happened _).kept).and
        kept_mayRestore.stable)
    refine EStateM.Meets.through (fun _ => At recorded) ?_ fun _ => ?_
    · refine (meets_write dependencies hdue hrecorded ?_).mono (fun _ => id) (fun _ _ => id) ?_
      · rintro events files moment ⟨⟨htrail, honce, record, hrecord, hevidence, hpast, hfaulted⟩,
          hfacts, hentered⟩ hversions
        have hmay : MayRestore events := fun hrestoring =>
          hentered.elim (fun h => absurd hrestoring h.2.2) fun h => ⟨h, honce hrestoring⟩
        refine ⟨hversions, ⟨htrail.move (.wrote ?_) moment,
          ⟨hF _ _ hfacts, happened_concat.2 (.inr rfl)⟩, rfl⟩,
          kept_mayRestore.wrote hmay moment files rolledBack⟩
        refine .rollingBack hrecord hevidence.symm hzero hpast ?_
        rcases hentered with ⟨hheld, hstate, -⟩ | hswitching
        · obtain rfl := Option.some.inj (hrecord.symm.trans hheld)
          exact .inl ⟨rfl, hstate⟩
        · exact .inr ⟨hswitching, honce, hfaulted⟩
      · rintro stop s ⟨hp | ⟨-, ⟨htrail, hfacts, hrecord⟩, hmay⟩, -⟩
        · exact ⟨hp.1.1, .inr ⟨hp.1, hp.2.1⟩⟩
        · exact ⟨htrail, .inr ⟨⟨htrail, fun hrestoring => (hmay hrestoring).2, rolledBack, hrecord,
            UpdateStateRecord.evidence_rollingBackRecord,
            UpdateStateRecord.pastDraining_rollingBackRecord, by rintro ⟨⟩⟩, hfacts.1⟩⟩
    · intro s hs
      exact meets_recordedRollback hF hzero hs.1 s hs.2

end Rollback

end RlyGateway
