import RlyGateway.Runtime.Update.RollbackTrails

/-!
# Trails of activations

An activation takes its phases one after the other, each behind what it relies on: the switch behind
the drain gate and the preflight, the commit behind the verification. Behind the switch, what fails is
rolled back.
-/

namespace RlyGateway

variable {dependencies : UpdateRuntimeDependencies} {start : UpdateFiles}

section Activation

variable {record : UpdateStateRecord} {F : List UpdateEvent → Prop}

/-- The active reference switched to the staged deployment. -/
theorem meets_activateStaged (hF : Kept F) (hstate : record.state = .activating)
    (hphase : record.phase = some .switching) (hgate : ∀ events, F events →
      DrainGate dependencies events) :
    EStateM.Meets (At (Holding dependencies start record F))
      (LocalCandidateInstaller.activateStaged dependencies)
      (fun _ => At fun events files => Holding dependencies start record F events files ∧
        files.staged.isSome ∧ files.active = files.staged)
      fun _ => At (Holding dependencies start record F) := by
  have hheld := stable_holding dependencies start record hF
  refine EStateM.Meets.through (fun _ => At (Holding dependencies start record F))
    (meets_ensureRuntimeLayout hheld ?_) fun _ => ?_
  · rintro events files moment ⟨htrail, hfacts, hrecord⟩
    exact ⟨htrail.move (.activates hrecord hstate hphase (hgate events hfacts)) moment,
      hF _ _ (by rintro ⟨⟩) (by rintro ⟨⟩) hfacts, hrecord⟩
  refine EStateM.Meets.bind ((finds_resolveRef dependencies .staged : Finds Anything _ _ _).meets
    hheld (fun _ _ _ => trivial) fun _ _ _ hp => hp) fun staged => ?_
  cases staged with
  | none => exact EStateM.meets_throw fun _ hp => hp.1
  | some staged =>
      obtain ⟨artifactId, version⟩ := staged
      dsimp only
      let found : UpdateAssertion := fun events files =>
        Holding dependencies start record F events files ∧
          Resolves .staged (some (artifactId, version)) files
      have hfound : Stable found := hheld.and (stable_files _)
      refine EStateM.Meets.bind ((finds_resolveRef dependencies .active : Finds Anything _ _ _).meets
        hfound (fun _ _ _ => trivial) fun _ _ _ hp => hp.1) fun active => ?_
      refine EStateM.Meets.ite (fun hsame => EStateM.meets_pure ?_) fun hdiffers => ?_
      · rintro s ⟨⟨hholding, hstaged⟩, hactive⟩
        have htarget : s.files.staged = some artifactId := hstaged.1.symm
        refine ⟨hholding, ?_, ?_⟩
        · rw [htarget]
          rfl
        · exact (hactive.1.symm.trans hsame).trans htarget.symm
      let displaced : UpdateAssertion := fun events files =>
        Holding dependencies start record F events files ∧ files.staged = some artifactId ∧
          files.Complete artifactId ∧ files.previous = files.active
      have hdisplaced : Stable displaced := hheld.and (stable_files fun files =>
        files.staged = some artifactId ∧ files.Complete artifactId ∧ files.previous = files.active)
      refine EStateM.Meets.through (fun _ => At displaced) ?_ fun _ => ?_
      · refine (meets_replaceReference (hfound.and (stable_files fun files =>
          Resolves .active active files)) hdisplaced ?_).mono (fun _ => id) (fun _ _ => id)
          fun _ _ hp => hp.elim (fun h => h.1.1) And.left
        rintro events files moment ⟨⟨⟨htrail, hfacts, hrecord⟩, htarget, -, hcomplete⟩, hactive⟩
        have hstaged : files.staged = some artifactId := htarget.symm
        have hdisplaces : active.map Prod.fst = files.active := hactive.1
        rw [hdisplaces]
        refine ⟨⟨htrail.move (.pointed (.displaced hrecord hstate hphase ?_)) moment,
          hF _ _ (by rintro ⟨⟩) (by rintro ⟨⟩) hfacts, hrecord⟩, hstaged,
          hcomplete artifactId hstaged, rfl⟩
        exact fun hsame => hdiffers (hdisplaces.trans (hsame.trans hstaged))
      refine EStateM.Meets.through (fun _ => At fun events files =>
        Holding dependencies start record F events files ∧
          files.staged.isSome ∧ files.active = files.staged) ?_ fun _ =>
        EStateM.meets_pure fun _ hp => hp
      refine (meets_replaceReference hdisplaced (hheld.and (stable_files fun files =>
        files.staged.isSome ∧ files.active = files.staged)) ?_).mono (fun _ => id) (fun _ _ => id)
        fun _ _ hp => hp.elim And.left And.left
      rintro events files moment ⟨⟨htrail, hfacts, hrecord⟩, hstaged, hcomplete, hprevious⟩
      refine ⟨⟨htrail.move (.pointed (.switched hrecord hstate hphase hstaged hcomplete hprevious))
        moment, hF _ _ (by rintro ⟨⟩) (by rintro ⟨⟩) hfacts, hrecord⟩, ?_, hstaged.symm⟩
      change files.staged.isSome
      rw [hstaged]
      rfl

/-- The service registered and restarted or started. -/
theorem meets_controlledRestart {P : UpdateAssertion} (hP : Stable P)
    (hserves : ∀ events files moment action,
      action = .registered ∨ action = .restarted ∨ action = .started → P events files →
        P (events ++ [⟨moment, files, action⟩]) files) :
    EStateM.Meets (At P) (controlledRestart dependencies) (fun _ => At P) fun _ => At P := by
  have hservice : ∀ action, action = .registered ∨ action = .restarted ∨ action = .started →
      EStateM.Meets (At P) (perform dependencies .service action id) (fun _ => At P) fun _ => At P :=
    fun action haction => meets_service hP fun events files moment hp =>
      hserves events files moment action haction hp
  have hcatching : ∀ {α : Type} {x : UpdateM α} {handler : String → α},
      EStateM.Meets (At P) x (fun _ => At P) (fun _ => At P) →
      EStateM.Meets (At P) (catching x fun message => pure (handler message)) (fun _ => At P)
        fun _ => At P := fun hx =>
    hx.rescue (fun _ _ _ => EStateM.meets_pure fun _ hp => hp) fun _ _ _ hp => hp
  refine EStateM.Meets.through (fun _ => At P) ?_ fun runtime => ?_
  · exact ((finds_inspectRuntimeGateway dependencies : Finds Anything _ _ _).meets hP
      (fun _ _ _ => trivial) fun _ _ _ hp => hp).post_of fun _ _ hp => hp.1
  refine EStateM.Meets.through (fun _ => At P) (hcatching ?_) fun refused => ?_
  · exact EStateM.Meets.ite (fun _ => (hservice _ (.inl rfl)).bind fun _ =>
      EStateM.meets_pure fun _ hp => hp) fun _ => EStateM.meets_pure fun _ hp => hp
  cases refused with
  | some reason => exact EStateM.meets_pure fun _ hp => hp
  | none =>
      refine hcatching (EStateM.Meets.ite (fun _ => ?_) fun _ => ?_)
      · exact (hservice _ (.inr (.inl rfl))).bind fun _ => EStateM.meets_pure fun _ hp => hp
      · exact (hservice _ (.inr (.inr rfl))).bind fun _ => EStateM.meets_pure fun _ hp => hp

variable (dependencies start) in
/-- A record at a phase of an activation. -/
def AtPhase (state : UpdateState) (transaction : UpdateTransaction) (phase : TransactionPhase)
    (current : UpdateStateRecord) (G : UpdateAssertion) (found : UpdateStateRecord) :
    UpdateAssertion := fun events files =>
  (∃ now, found = atPhase state transaction phase now current) ∧
    UpdateTrail dependencies start events files ∧ files.record = some found ∧ G events files

variable (dependencies start) in
/-- A record an activation goes on with. -/
def OfRecord (record : UpdateStateRecord) (G : UpdateAssertion) : UpdateAssertion :=
  fun events files => UpdateTrail dependencies start events files ∧ files.record = some record ∧
    G events files

theorem stable_ofRecord {G : UpdateAssertion} (hG : Stable G) :
    Stable (OfRecord dependencies start record G) :=
  (stable_trail dependencies start).and ((stable_files _).and hG)

theorem stable_atPhase {G : UpdateAssertion} (hG : Stable G) {state : UpdateState}
    {transaction : UpdateTransaction} {phase : TransactionPhase} (found : UpdateStateRecord) :
    Stable (AtPhase dependencies start state transaction phase record G found) :=
  (stable_files fun _ => _).and (stable_ofRecord hG)

/-- A record taken to a phase of its activation. -/
theorem meets_enterPhase {G G' : UpdateAssertion} (hG : Stable G) (hG' : Stable G')
    {transaction : UpdateTransaction} {states : List (Option UpdateState)} {state : UpdateState}
    {phase : TransactionPhase} (hjournals : record.Journals transaction)
    (henters : ∀ events files, G events files →
      EntersPhase dependencies start events files record state phase)
    (hkept : ∀ events files moment found, found.phase = some phase → G events files →
      G' (events ++ [⟨moment, files, .wrote found⟩]) { files with record := some found }) :
    EStateM.Meets (At (OfRecord dependencies start record G))
      (enterPhase dependencies states state transaction phase record)
      (fun found => At (AtPhase dependencies start state transaction phase record G' found))
      fun _ => At fun events files => OfRecord dependencies start record G events files ∨
        ∃ found, AtPhase dependencies start state transaction phase record G' found events files := by
  refine meets_transitionUnderLock dependencies (stable_ofRecord hG)
    (fun found => stable_atPhase hG' found) (fun _ _ hp => hp.2.1) ?_
  rintro now events files moment ⟨htrail, hrecord, hgiven⟩ -
  exact ⟨⟨now, rfl⟩, htrail.move (.wrote (.entered hrecord hjournals (henters _ _ hgiven))) moment, rfl,
    hkept _ _ _ _ UpdateStateRecord.phase_atPhase hgiven⟩

/-- What has happened once the switch has begun. -/
def BehindGate (dependencies : UpdateRuntimeDependencies) (events : List UpdateEvent) : Prop :=
  Switching events ∧ RestoresOnce events ∧ DrainGate dependencies events

theorem DrainGate.append {events : List UpdateEvent} (h : DrainGate dependencies events)
    (more : List UpdateEvent) : DrainGate dependencies (events ++ more) := by
  obtain ⟨before, fence, after, rfl, hfence, hgate⟩ := h
  refine ⟨before, fence, after ++ more, by simp, hfence, hgate.imp_right fun hgate =>
    hgate.imp_right ?_⟩
  rintro ⟨first, accepted, between, counted, last, status, identity, heq, h⟩
  exact ⟨first, accepted, between, counted, last ++ more, status, identity, by
    rw [heq, List.append_assoc, List.cons_append, List.append_assoc, List.cons_append], h⟩

theorem lasting_switching : Lasting Switching := fun _ more h => h.append more

theorem kept_behindGate : Kept (BehindGate dependencies) :=
  kept_switching.and (kept_restoresOnce.and fun _ _ _ _ h => h.append _)

/-- Behind the switch a rollback is due for every record of the activation. -/
theorem dueForRollback_of_behindGate {held found : UpdateStateRecord} {events : List UpdateEvent}
    {files : UpdateFiles} (htrail : UpdateTrail dependencies start events files)
    (hgate : BehindGate dependencies events) (hrecord : files.record = some found)
    (hevidence : found.evidence = held.evidence) (hpast : found.PastDraining)
    (hstate : found.state ≠ .recoveryRequired) :
    DueForRollback dependencies start held Switching events files :=
  ⟨⟨htrail, hgate.2.1, found, hrecord, hevidence, hpast, fun h => absurd h hstate⟩, hgate.1,
    .inr hgate.1⟩

theorem interrupted_of_due {held : UpdateStateRecord} {stop : UpdateStop} {events : List UpdateEvent}
    {files : UpdateFiles} (h : DueForRollback dependencies start held Switching events files) :
    Interrupted dependencies start held Switching stop events files :=
  ⟨h.1.1, .inr ⟨h.1, h.2.1⟩⟩

section Switched

variable {transaction : UpdateTransaction} {held current : UpdateStateRecord}
  (hheld : held.evidence = some transaction.evidence)

include hheld

/-- A record of the activation from the switch to its commit. -/
theorem due_of_atPhase {phase : TransactionPhase} {found : UpdateStateRecord}
    (hphase : phase ≠ .staged) (hphase' : phase ≠ .draining) {G : UpdateAssertion}
    (hG : ∀ events files, G events files → BehindGate dependencies events)
    {events : List UpdateEvent} {files : UpdateFiles}
    (h : AtPhase dependencies start .activating transaction phase current G found events files) :
    DueForRollback dependencies start held Switching events files := by
  obtain ⟨⟨now, rfl⟩, htrail, hrecord, hgiven⟩ := h
  refine dueForRollback_of_behindGate htrail (hG _ _ hgiven) hrecord
    (UpdateStateRecord.evidence_atPhase.trans hheld.symm) ⟨?_, ?_, by rintro ⟨⟩⟩ (by rintro ⟨⟩)
  · rintro h
    exact hphase (Option.some.inj h)
  · rintro h
    exact hphase' (Option.some.inj h)

/-- The commit of an activation whose candidate is verified. -/
theorem meets_commitActivation {probation : UpdateStateRecord} :
    EStateM.Meets
      (At (AtPhase dependencies start .activating transaction .probation current
        (fun events _ => BehindGate dependencies events) probation))
      (commitActivation dependencies transaction probation)
      (fun result => At (RunEnded dependencies start result))
      fun stop => At (Interrupted dependencies start held Switching stop) := by
  have hbehind : Stable fun events (_ : UpdateFiles) => BehindGate dependencies events :=
    kept_behindGate.stable
  intro s hs
  obtain ⟨now, hnow⟩ := hs.1
  subst hnow
  refine EStateM.Meets.bind ((meets_enterPhase hbehind hbehind UpdateStateRecord.journals_atPhase
    (fun _ _ _ => .committing rfl rfl) ?_).mono (fun _ => id) (fun _ _ => id) ?_) (fun committing => ?_)
    s hs.2
  · exact fun events files moment found _ hgiven => kept_behindGate.wrote hgiven moment files found
  · rintro stop s (hs | ⟨found, hs⟩)
    · exact interrupted_of_due (due_of_atPhase hheld (by decide) (by decide) (fun _ _ h => h)
        ⟨⟨now, rfl⟩, hs⟩)
    · exact interrupted_of_due (due_of_atPhase hheld (by decide) (by decide) (fun _ _ h => h) hs)
  intro s hs
  obtain ⟨now', hnow'⟩ := hs.1
  subst hnow'
  let committing := atPhase .activating transaction .committing now'
    (atPhase .activating transaction .probation now current)
  let journal : UpdateTransaction := { transaction with phase := .committing, updatedAt := now' }
  let done : UpdateStateRecord → UpdateAssertion := fun record events files =>
    (∃ now, record = committedRecord journal now committing) ∧
      OfRecord dependencies start record (fun events _ => BehindGate dependencies events) events files
  refine EStateM.Meets.bind ((meets_transitionUnderLock (Q := done) dependencies
    (stable_ofRecord hbehind) (fun record => (stable_files fun _ => _).and (stable_ofRecord hbehind))
    (fun _ _ hp => hp.2.1) ?_).mono (fun _ => id) (fun _ _ => id) ?_)
    (fun record => EStateM.meets_pure ?_) s hs.2
  · rintro now events files moment ⟨htrail, hrecord, hgiven⟩ -
    exact ⟨⟨now, rfl⟩, htrail.move (.wrote (.committed hrecord rfl rfl
      ⟨fun _ h => (Option.some.inj h).symm, rfl⟩)) moment, rfl,
      kept_behindGate.wrote hgiven moment files _⟩
  · rintro stop s (hs | ⟨record, ⟨now, rfl⟩, htrail, hrecord, hgiven⟩)
    · exact interrupted_of_due (due_of_atPhase hheld (by decide) (by decide) (fun _ _ h => h)
        ⟨⟨now', rfl⟩, hs⟩)
    · exact interrupted_of_due (dueForRollback_of_behindGate htrail hgiven hrecord hheld.symm
        ⟨by rintro ⟨⟩, by rintro ⟨⟩, by rintro ⟨⟩⟩ (by rintro ⟨⟩))
  · rintro s ⟨⟨now, rfl⟩, htrail, hrecord, -⟩
    refine ⟨htrail, ?_, by rintro ⟨⟩⟩
    intro found hfound
    obtain rfl := Option.some.inj (hrecord.symm.trans hfound)
    exact ⟨by rintro ⟨⟩, by rintro ⟨⟩, by rintro ⟨⟩⟩

/-- The candidate switched to, restarted, verified and committed; what fails is rolled back, unless
it stops with a record that a rollback is due for. -/
theorem meets_activateSwitched {switching : UpdateStateRecord} :
    EStateM.Meets
      (At (AtPhase dependencies start .activating transaction .switching current
        (fun events _ => BehindGate dependencies events) switching))
      (activateSwitched dependencies transaction switching)
      (fun result => At (RunEnded dependencies start result))
      fun stop => At (Interrupted dependencies start held Switching stop) := by
  intro s hs
  obtain ⟨now, hnow⟩ := hs.1
  have hevidence : switching.evidence = held.evidence := by
    rw [hnow, hheld]
    rfl
  have hstate : switching.state = .activating := by rw [hnow]; rfl
  have hphase : switching.phase = some .switching := by rw [hnow]; rfl
  have hjournals : switching.Journals transaction := by
    rw [hnow]
    exact UpdateStateRecord.journals_atPhase
  have hpast : switching.PastDraining := by
    unfold UpdateStateRecord.PastDraining
    rw [hphase]
    exact ⟨by rintro ⟨⟩, by rintro ⟨⟩, by rintro ⟨⟩⟩
  let holding := Holding dependencies start switching (BehindGate dependencies)
  have hholding : Stable holding := stable_holding dependencies start switching kept_behindGate
  have hdue : ∀ held' : UpdateStateRecord, held'.evidence = held.evidence → ∀ events files,
      holding events files → DueForRollback dependencies start held' Switching events files := by
    rintro held' hheld' events files ⟨htrail, hgate, hrecord⟩
    exact dueForRollback_of_behindGate htrail hgate hrecord (hevidence.trans hheld'.symm) hpast
      (by rw [hstate]; rintro ⟨⟩)
  have hrolledBack : ∀ {held' : UpdateStateRecord} {restart : Bool} {reason : String},
      held'.evidence = held.evidence →
      EStateM.Meets (At (DueForRollback dependencies start held' Switching))
        (rollback dependencies held' restart reason)
        (fun result => At (RunEnded dependencies start result))
        fun stop => At (Interrupted dependencies start held Switching stop) := by
    intro held' restart reason hheld'
    refine (meets_rollback lasting_switching).mono (fun _ => id) (fun _ _ => id) ?_
    rintro stop s ⟨htrail, hstop⟩
    rw [hheld'] at hstop
    exact ⟨htrail, hstop⟩
  let switched : UpdateAssertion := fun events files =>
    holding events files ∧ files.staged.isSome ∧ files.active = files.staged
  have hswitched : Stable switched := hholding.and
    (stable_files fun files => files.staged.isSome ∧ files.active = files.staged)
  have hbegins : At holding s := ⟨hs.2.1, hs.2.2.2, hs.2.2.1⟩
  let tried : Option String → UpdateAssertion := fun failure events files =>
    holding events files ∧ (failure = none → files.staged.isSome ∧ files.active = files.staged)
  refine EStateM.Meets.through (fun failure => At (tried failure)) ?_ (fun failure => ?_) s hbegins
  · have hswitches : EStateM.Meets (At holding)
        (do
          let _ ← LocalCandidateInstaller.activateStaged dependencies
          pure none)
        (fun failure => At (tried failure)) fun _ => At holding :=
      (meets_activateStaged kept_behindGate hstate hphase fun _ h => h.2.2).bind fun _ =>
        EStateM.meets_pure fun _ hp => ⟨hp.1, fun _ => hp.2⟩
    refine hswitches.rescue ?_ ?_
    · exact fun _ _ _ => EStateM.meets_pure fun _ hp => ⟨hp, by rintro ⟨⟩⟩
    · exact fun _ _ _ hp => interrupted_of_due (hdue held rfl _ _ hp)
  cases failure with
  | some reason => exact (hrolledBack hevidence).pre_of fun s hp => hdue _ hevidence _ _ hp.1
  | none =>
      refine EStateM.Meets.through (fun _ => At switched) ?_ fun restarted => ?_
      · refine (meets_controlledRestart hswitched ?_).mono (fun _ hp => ⟨hp.1, hp.2 rfl⟩)
          (fun _ _ => id) fun _ _ hp => interrupted_of_due (hdue held rfl _ _ hp.1)
        rintro events files moment action haction ⟨⟨htrail, hgate, hrecord⟩, hactive⟩
        refine ⟨⟨htrail.move (.serves haction hrecord (.inl hstate) hpast) moment,
          kept_behindGate _ _ ?_ ?_ hgate, hrecord⟩, hactive⟩
        · rcases haction with rfl | rfl | rfl <;> rintro ⟨⟩
        · rcases haction with rfl | rfl | rfl <;> rintro ⟨⟩
      refine EStateM.Meets.ite (fun _ => (hrolledBack hevidence).pre_of fun s hp =>
        hdue _ hevidence _ _ hp.1) fun _ => ?_
      have hgate : Stable fun events files => BehindGate dependencies events ∧
          files.staged.isSome ∧ files.active = files.staged := kept_behindGate.stable.and
        (stable_files fun files => files.staged.isSome ∧ files.active = files.staged)
      refine EStateM.Meets.through (fun probation => At (AtPhase dependencies start .activating
        transaction .probation switching (fun events _ => BehindGate dependencies events) probation))
        ((meets_enterPhase hgate kept_behindGate.stable hjournals
          (fun _ _ h => .probation hstate hphase h.2) ?_).mono ?_ (fun _ _ => id) ?_)
        fun probation => ?_
      · exact fun events files moment found _ h => kept_behindGate.wrote h.1 moment files found
      · exact fun s hp => ⟨hp.1.1, hp.1.2.2, hp.1.2.1, hp.2⟩
      · rintro stop s (hp | ⟨found, hp⟩)
        · exact interrupted_of_due (hdue held rfl _ _ ⟨hp.1, hp.2.2.1, hp.2.1⟩)
        · exact interrupted_of_due (due_of_atPhase hheld (by decide) (by decide) (fun _ _ h => h) hp)
      have hprobation : Stable (AtPhase dependencies start .activating transaction .probation switching
          (fun events _ => BehindGate dependencies events) probation) :=
        stable_atPhase kept_behindGate.stable probation
      refine EStateM.Meets.bind ((finds_verifyCandidateRuntime dependencies _ _ _ :
        Finds Anything _ _ _).meets hprobation (fun _ _ _ => trivial) ?_) fun refused => ?_
      · exact fun _ _ _ hp =>
          interrupted_of_due (due_of_atPhase hheld (by decide) (by decide) (fun _ _ h => h) hp)
      cases refused with
      | some reason =>
          intro s hp
          obtain ⟨now', hnow'⟩ := hp.1.1
          have hevidence' : probation.evidence = held.evidence := by
            rw [hnow', hheld]
            rfl
          exact hrolledBack hevidence' s (due_of_atPhase (hevidence'.trans hheld) (by decide)
            (by decide) (fun _ _ h => h) hp.1)
      | none => exact (meets_commitActivation hheld).pre_of fun _ hp => hp.1

end Switched

variable (dependencies start) in
/-- How a run stops: the process is gone, or what was restored is restored for another time only where
the terminal record could not be written. -/
def Stopped (stop : UpdateStop) : UpdateAssertion := fun events files =>
  UpdateTrail dependencies start events files ∧ (stop = .crashed ∨ RestoresOnce events)

theorem Interrupted.stopped {held : UpdateStateRecord} {stop : UpdateStop} {events : List UpdateEvent}
    {files : UpdateFiles} (h : Interrupted dependencies start held F stop events files) :
    Stopped dependencies start stop events files :=
  ⟨h.1, h.2.imp_right fun h => h.1.2.1⟩

theorem stopped_of_not_restoring {stop : UpdateStop} {events : List UpdateEvent} {files : UpdateFiles}
    (htrail : UpdateTrail dependencies start events files) (h : ¬ Restoring events) :
    Stopped dependencies start stop events files :=
  ⟨htrail, .inr fun hrestoring => absurd hrestoring h⟩

section SessionsDrained

variable (dependencies start) in
/-- What an activation has behind it before its drain. -/
def Undrained : UpdateAssertion := fun events files =>
  Preflighted dependencies start events files ∧ ¬ Restoring events

variable (dependencies start) in
/-- What an activation has behind it when its drain is over. -/
def Ready : UpdateAssertion := fun events files =>
  Undrained dependencies start events files ∧ DrainGate dependencies events

theorem stable_undrained : Stable (Undrained dependencies start) := by
  refine Stable.and ?_ stable_not_restoring
  intro events files moment action _ h
  exact h.imp_right fun h => ⟨h.1, h.2.imp_right fun h => h.append _⟩

theorem stable_ready : Stable (Ready dependencies start) :=
  stable_undrained.and fun _ _ _ _ _ h => h.append _

theorem Undrained.wrote {events : List UpdateEvent} {files : UpdateFiles}
    (h : Undrained dependencies start events files) (moment : ℕ) (record : UpdateStateRecord) :
    Undrained dependencies start (events ++ [⟨moment, files, .wrote record⟩])
      { files with record := some record } :=
  ⟨h.1.imp_right fun h => ⟨h.1, h.2.imp_right fun h => h.append _⟩,
    kept_not_restoring.wrote h.2 moment files record⟩

variable {transaction : UpdateTransaction} {activating : UpdateStateRecord}

/-- The switch of the active reference, once the running gateway is drained. -/
theorem meets_switchDrained :
    EStateM.Meets
      (At (AtPhase dependencies start .activating transaction .draining record
        (Ready dependencies start) activating))
      (switchDrained dependencies transaction activating)
      (fun result => At (RunEnded dependencies start result))
      fun stop => At (Stopped dependencies start stop) := by
  have hbehind : Stable fun events (_ : UpdateFiles) => BehindGate dependencies events :=
    kept_behindGate.stable
  intro s hs
  obtain ⟨now, hnow⟩ := hs.1
  subst hnow
  refine EStateM.Meets.bind ((meets_enterPhase stable_ready hbehind
    UpdateStateRecord.journals_atPhase (fun _ _ h => .switching rfl rfl h.1.1) ?_).mono (fun _ => id)
    (fun _ _ => id) ?_) (fun switching => ?_) s hs.2
  · intro events files moment found hphase h
    refine ⟨⟨found, happened_concat.2 (.inr rfl), hphase⟩, ?_, h.2.append _⟩
    exact fun hrestoring => absurd hrestoring (kept_not_restoring.wrote h.1.2 moment files found)
  · rintro stop s (hp | ⟨found, -, htrail, -, hgate⟩)
    · exact stopped_of_not_restoring hp.1 hp.2.2.1.2
    · exact ⟨htrail, .inr hgate.2.1⟩
  have hheld : (atPhase .activating transaction .draining now record).evidence =
      some transaction.evidence := UpdateStateRecord.evidence_atPhase
  refine (meets_activateSwitched hheld).rescue (fun stop message hmessage => ?_) fun stop s _ hp => hp.stopped
  refine (meets_rollback lasting_switching).mono ?_ (fun _ _ => id) fun stop s hp => hp.stopped
  rintro s ⟨-, hcrashed | ⟨hbacked, hswitching⟩⟩
  · rw [hcrashed] at hmessage
    cases hmessage
  · exact ⟨hbacked, hswitching, .inr hswitching⟩

/-- An activation that waits for another run. -/
theorem meets_leavePending {message : String} :
    EStateM.Meets
      (At (AtPhase dependencies start .activating transaction .draining record
        (Undrained dependencies start) activating))
      (leavePending dependencies transaction activating message)
      (fun result => At (RunEnded dependencies start result))
      fun stop => At (Stopped dependencies start stop) := by
  intro s hs
  obtain ⟨now, hnow⟩ := hs.1
  subst hnow
  refine EStateM.Meets.bind ((meets_enterPhase stable_undrained stable_undrained
    UpdateStateRecord.journals_atPhase (fun _ _ _ => .pending rfl rfl)
    fun _ _ moment found _ h => h.wrote moment found).mono (fun _ => id) (fun _ _ => id) ?_)
    (fun pending => EStateM.meets_pure ?_) s hs.2
  · rintro stop s (hp | ⟨found, -, hp⟩)
    · exact stopped_of_not_restoring hp.1 hp.2.2.2
    · exact stopped_of_not_restoring hp.1 hp.2.2.2
  · rintro s ⟨⟨now', rfl⟩, htrail, hrecord, -⟩
    refine ⟨htrail, ?_, by rintro ⟨⟩⟩
    intro found hfound
    obtain rfl := Option.some.inj (hrecord.symm.trans hfound)
    exact ⟨by rintro ⟨⟩, by rintro ⟨⟩, by rintro ⟨⟩⟩

/-- A drain fence that was attempted behind an inspection. -/
abbrev Fenced (runtime : RuntimeInspection) (events : List UpdateEvent) : Prop :=
  TakenAfter (fun before _ => Happened before (.inspected runtime)) .fenceAttempted events

theorem drainGate_of_fenced {runtime : RuntimeInspection} {events : List UpdateEvent}
    (h : Fenced runtime events)
    (hgate : dependencies.force = true ∨ alreadyDown runtime = true ∨ SessionsDrained events) :
    DrainGate dependencies events := by
  obtain ⟨before, fence, after, heq, hfence, hinspected⟩ := h
  exact ⟨before, fence, after, heq, hfence,
    hgate.imp_right fun hgate => hgate.imp_left fun hdown => ⟨runtime, hinspected, hdown⟩⟩

/-- The activation of a staged candidate. -/
theorem meets_activate {runtime : RuntimeInspection} (hstate : record.state = .pendingActivation)
    (hphase : record.phase = none ∨ record.phase = some .staged ∨ record.phase = some .draining) :
    EStateM.Meets
      (At (OfRecord dependencies start record fun events files =>
        Undrained dependencies start events files ∧ Happened events (.inspected runtime)))
      (activate dependencies record runtime)
      (fun result => At (RunEnded dependencies start result))
      fun stop => At (Stopped dependencies start stop) := by
  have hstopped : ∀ {G : UpdateAssertion} stop events files,
      OfRecord dependencies start record (fun events files =>
        Undrained dependencies start events files ∧ G events files) events files →
      Stopped dependencies start stop events files :=
    fun _ _ _ hp => stopped_of_not_restoring hp.1 hp.2.2.1.2
  have hgiven : Stable fun events files => Undrained dependencies start events files ∧
      Happened events (.inspected runtime) := stable_undrained.and (stable_happened _)
  refine EStateM.Meets.bind ((finds_transactionFor dependencies record : Finds Anything _ _ _).meets
    (stable_ofRecord hgiven) (fun _ _ _ => trivial) hstopped) fun transaction => ?_
  rintro s ⟨hs, hjournals⟩
  refine EStateM.Meets.bind ((meets_enterPhase hgiven hgiven hjournals
    (fun _ _ _ => .draining hstate hphase) ?_).mono (fun _ => id) (fun _ _ => id) ?_)
    (fun activating => ?_) s hs
  · exact fun events files moment found _ h => ⟨h.1.wrote moment found, h.2.append _⟩
  · rintro stop s (hp | ⟨found, -, hp⟩)
    · exact hstopped _ _ _ hp
    · exact stopped_of_not_restoring hp.1 hp.2.2.1.2
  have hactivating : Stable (AtPhase dependencies start .activating transaction .draining record
      (fun events files => Undrained dependencies start events files ∧
        Happened events (.inspected runtime)) activating) := stable_atPhase hgiven activating
  refine EStateM.Meets.bind (((finds_beginDrain dependencies).mono (fun _ _ h => h.2.2.2.2)
    (fun _ _ _ _ h => h) fun _ _ _ h => h).meets hactivating (fun _ _ hp => hp) ?_)
    fun engaged => ?_
  · exact fun _ _ _ hp => stopped_of_not_restoring hp.2.1 hp.2.2.2.1.2
  have hready : ∀ events files, AtPhase dependencies start .activating transaction .draining record
      (fun events files => Undrained dependencies start events files ∧
        Happened events (.inspected runtime)) activating events files →
      DrainGate dependencies events → AtPhase dependencies start .activating transaction .draining
        record (Ready dependencies start) activating events files :=
    fun _ _ hp hgate => ⟨hp.1, hp.2.1, hp.2.2.1, hp.2.2.2.1, hgate⟩
  have hpending : ∀ events files, AtPhase dependencies start .activating transaction .draining record
      (fun events files => Undrained dependencies start events files ∧
        Happened events (.inspected runtime)) activating events files →
      AtPhase dependencies start .activating transaction .draining record
        (Undrained dependencies start) activating events files :=
    fun _ _ hp => ⟨hp.1, hp.2.1, hp.2.2.1, hp.2.2.2.1⟩
  refine EStateM.Meets.ite (fun _ => meets_leavePending.pre_of fun _ hp => hpending _ _ hp.1)
    fun hnotRefused => EStateM.Meets.ite (fun hgated => ?_) fun hopen => ?_
  · have hengaged : engaged = true := by
      by_contra hnot
      exact hnotRefused ⟨hgated.1, hgated.2, by simpa using hnot⟩
    have hfenced : Stable fun events files => AtPhase dependencies start .activating transaction
        .draining record (fun events files => Undrained dependencies start events files ∧
          Happened events (.inspected runtime)) activating events files ∧
        Fenced runtime events ∧ Accepted events :=
      hactivating.and ((stable_takenAfter _).and stable_accepted)
    refine EStateM.Meets.bind (((finds_waitForSessionDrain dependencies _).meets hfenced
      (fun _ _ hp => hp.2.2) ?_).pre_of ?_) fun sessions => ?_
    · exact fun _ _ _ hp => stopped_of_not_restoring hp.1.2.1 hp.1.2.2.2.1.2
    · exact fun s hp => ⟨hp.1, hp.2.1, hp.2.2 hengaged⟩
    match sessions with
    | none => exact meets_leavePending.pre_of fun _ hp => hpending _ _ hp.1.1
    | some 0 =>
        exact meets_switchDrained.pre_of fun _ hp =>
          hready _ _ hp.1.1 (drainGate_of_fenced hp.1.2.1 (.inr (.inr (hp.2 rfl))))
    | some (sessions + 1) => exact meets_leavePending.pre_of fun _ hp => hpending _ _ hp.1.1
  · refine meets_switchDrained.pre_of fun s hp => hready _ _ hp.1 (drainGate_of_fenced hp.2.1 ?_)
    cases hdown : alreadyDown runtime with
    | true => exact .inr (.inl rfl)
    | false =>
        refine .inl ?_
        by_contra hforce
        exact hopen ⟨hdown, by simpa using hforce⟩

end SessionsDrained

end Activation

end RlyGateway
