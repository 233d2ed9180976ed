import RlyGateway.Library.Runs
import RlyGateway.Runtime.Update.Trails

/-!
# Histories of updates

Runs of the update follow one another, each from the files the one before has left, whether that
returned, threw an error or was stopped. Over every history the references agree with the phase of
the journal.
-/

namespace RlyGateway

/-! ## Runs and histories -/

/-- The progress a run has come to when it ended. -/
def runProgress (dependencies : UpdateRuntimeDependencies) (start : UpdateFiles) : UpdateProgress :=
  match runUpdate dependencies ⟨start, [], 0⟩ with
  | .ok _ progress => progress
  | .error _ progress => progress

/-- The result of a run that returned. -/
def runResult? (dependencies : UpdateRuntimeDependencies) (start : UpdateFiles) :
    Option UpdateRunResult :=
  match runUpdate dependencies ⟨start, [], 0⟩ with
  | .ok result _ => some result
  | .error _ _ => none

/-- The files after a number of runs, what happened in them, and the result of the last one. -/
structure UpdateHistory where
  files : UpdateFiles
  events : List UpdateEvent
  result : Option UpdateRunResult

namespace UpdateHistory

/-- The history before the first run. -/
def start (files : UpdateFiles) : UpdateHistory := ⟨files, [], none⟩

/-- One more run. -/
def step (history : UpdateHistory) (dependencies : UpdateRuntimeDependencies) : Option UpdateHistory :=
  some
    { files := (runProgress dependencies history.files).files
      events := history.events ++ (runProgress dependencies history.files).events
      result := runResult? dependencies history.files }

end UpdateHistory

variable {dependencies : UpdateRuntimeDependencies} {start files files' : UpdateFiles}

/-- A run leaves a trail, and ends as runs do if it returns. -/
theorem runProgress_spec (dependencies : UpdateRuntimeDependencies) (start : UpdateFiles) :
    UpdateTrail dependencies start (runProgress dependencies start).events
        (runProgress dependencies start).files ∧
      ((∃ result, runResult? dependencies start = some result ∧
          RunEnded dependencies start result (runProgress dependencies start).events
            (runProgress dependencies start).files) ∨
        runResult? dependencies start = none ∧ ∃ stop,
          Stopped dependencies start stop (runProgress dependencies start).events
            (runProgress dependencies start).files) := by
  have hruns := meets_runUpdate dependencies start 0 ⟨start, [], 0⟩ rfl
  unfold runProgress runResult?
  cases hrun : runUpdate dependencies ⟨start, [], 0⟩ with
  | ok result progress =>
      rw [hrun] at hruns
      exact ⟨hruns.1, .inl ⟨result, rfl, hruns⟩⟩
  | error stop progress =>
      rw [hrun] at hruns
      exact ⟨hruns.1, .inr ⟨rfl, stop, hruns⟩⟩

/-! ## Deployments -/

/-- Deployments are added, and none is changed or taken away. -/
def UpdateFiles.Grows (files files' : UpdateFiles) : Prop :=
  ∀ artifactId deployment, files.deployments.get? artifactId = some deployment →
    files'.deployments.get? artifactId = some deployment

namespace UpdateFiles

theorem grows_refl (files : UpdateFiles) : files.Grows files := fun _ _ h => h

theorem Complete.grows {artifactId : String} (h : files.Complete artifactId)
    (hgrows : files.Grows files') : files'.Complete artifactId := by
  obtain ⟨deployment, hsome, hcomplete⟩ := h
  exact ⟨deployment, hgrows _ _ hsome, hcomplete⟩

theorem Complete.version?_eq {artifactId : String} (h : files.Complete artifactId)
    (hgrows : files.Grows files') : files'.version? artifactId = files.version? artifactId := by
  obtain ⟨deployment, hsome, -⟩ := h
  unfold UpdateFiles.version?
  rw [hsome, hgrows _ _ hsome]

end UpdateFiles

theorem UpdateMove.grows {events : List UpdateEvent} {action : UpdateAction}
    (h : UpdateMove dependencies start events files action files') : files.Grows files' := by
  cases h with
  | deployed _ habsent =>
      intro artifactId deployment hsome
      rw [OrderedMap.get?_set_ne]
      · exact hsome
      · rintro rfl
        rw [habsent] at hsome
        cases hsome
  | @pointed call reference target hpointing =>
      cases reference <;> exact UpdateFiles.grows_refl files
  | _ => exact UpdateFiles.grows_refl files

/-- A move writes the record, or leaves it as it is. -/
theorem UpdateMove.record_cases {events : List UpdateEvent} {action : UpdateAction}
    (h : UpdateMove dependencies start events files action files') :
    (∃ written, action = .wrote written ∧ files' = { files with record := some written } ∧
        UpdateWrite dependencies start events files written) ∨
      (∀ written, action ≠ .wrote written) ∧ files'.record = files.record := by
  cases h with
  | wrote hwrite => exact .inl ⟨_, rfl, rfl, hwrite⟩
  | found hfinding =>
      refine .inr ⟨?_, rfl⟩
      rintro written rfl
      cases hfinding
  | serves haction =>
      refine .inr ⟨?_, rfl⟩
      rintro written rfl
      rcases haction with h | h | h <;> cases h
  | @pointed call reference target hpointing =>
      refine .inr ⟨by rintro written ⟨⟩, ?_⟩
      cases reference <;> rfl
  | activates | restores | deployed => exact .inr ⟨by rintro written ⟨⟩, rfl⟩

/-! ## References and journals -/

/-- How the references stand in each phase of a journal, and the states the record is in. -/
inductive Standing (files : UpdateFiles) (evidence : TransactionEvidence) (attempts : ℕ)
    (state : UpdateState) (phase : TransactionPhase) : Prop
  | waiting (hattempts : attempts = 0)
      (hstate : state = .pendingActivation ∨ state = .activating ∨ state = .failed)
      (hphase : phase = .staged ∨ phase = .draining)
      (hstaged : files.staged = some evidence.candidateArtifactId)
      (hactive : files.active = evidence.previousArtifactId)
  | switching (hattempts : attempts = 0) (hstate : state = .activating ∨ state = .rollbackRequired)
      (hphase : phase = .switching) (hstaged : files.staged = some evidence.candidateArtifactId)
      (hactive : files.active = evidence.previousArtifactId ∨
        files.active = some evidence.candidateArtifactId ∧
          files.previous = evidence.previousArtifactId)
  | switched (hattempts : attempts = 0) (hstate : state = .activating ∨ state = .rollbackRequired)
      (hphase : phase = .probation ∨ phase = .committing)
      (hactive : files.active = some evidence.candidateArtifactId)
      (hprevious : files.active = evidence.previousArtifactId ∨
        files.previous = evidence.previousArtifactId)
  | ended
      (hended : phase = .committed ∧ state = .active ∨
        phase = .rollingBack ∧ attempts = 1 ∧
            (state = .rollbackRequired ∨ state = .recoveryRequired) ∨
          phase = .recoveryRequired ∧ state = .recoveryRequired)
      (hactive : evidence.previousArtifactId.isSome →
        files.active = evidence.previousArtifactId ∨
          files.active = some evidence.candidateArtifactId)

/-- What a journal says of the deployment its candidate displaces. -/
def UpdateFiles.Displaces (files : UpdateFiles) (evidence : TransactionEvidence) : Prop :=
  ∀ artifactId, evidence.previousArtifactId = some artifactId →
    files.Complete artifactId ∧ evidence.previousVersion = files.version? artifactId

/-- References that agree with the record: one without a journal is being installed or has failed to
be, and otherwise they stand as the phase of the journal says. -/
def UpdateFiles.Sound (files : UpdateFiles) : Prop :=
  ∀ record, files.record = some record →
    record.transaction = none ∧ (record.state = .installing ∨ record.state = .failed) ∨
      ∃ transaction, record.transaction = some transaction ∧
        Standing files transaction.evidence transaction.rollbackAttempts record.state
          transaction.phase ∧
        files.Displaces transaction.evidence

section Sound

variable {record : UpdateStateRecord} {transaction : UpdateTransaction}
  {evidence : TransactionEvidence} {attempts : ℕ} {state : UpdateState} {phase : TransactionPhase}

theorem Standing.congr (h : Standing files evidence attempts state phase)
    (hstaged : files'.staged = files.staged) (hactive : files'.active = files.active)
    (hprevious : files'.previous = files.previous) :
    Standing files' evidence attempts state phase := by
  cases h with
  | waiting hattempts hstate hphase hselected hserving =>
      exact .waiting hattempts hstate hphase (hstaged.trans hselected) (hactive.trans hserving)
  | switching hattempts hstate hphase hselected hserving =>
      refine .switching hattempts hstate hphase (hstaged.trans hselected) ?_
      rwa [hactive, hprevious]
  | switched hattempts hstate hphase hserving hdisplaced =>
      refine .switched hattempts hstate hphase (hactive.trans hserving) ?_
      rwa [hactive, hprevious]
  | ended hended hserving =>
      refine .ended hended ?_
      rwa [hactive]

/-- In every phase the active reference is on the candidate or on what it displaces. -/
theorem Standing.active (h : Standing files evidence attempts state phase)
    (hsome : evidence.previousArtifactId.isSome) :
    files.active = evidence.previousArtifactId ∨ files.active = some evidence.candidateArtifactId := by
  cases h with
  | waiting _ _ _ _ hactive => exact .inl hactive
  | switching _ _ _ _ hactive => exact hactive.imp_right And.left
  | switched _ _ _ hactive _ => exact .inr hactive
  | ended _ hactive => exact hactive hsome

theorem UpdateFiles.Displaces.grows (h : files.Displaces evidence) (hgrows : files.Grows files') :
    files'.Displaces evidence := by
  intro artifactId hprevious
  obtain ⟨hcomplete, hversion⟩ := h artifactId hprevious
  exact ⟨hcomplete.grows hgrows, hversion.trans (hcomplete.version?_eq hgrows).symm⟩

/-- A record with a journal. -/
theorem UpdateFiles.Sound.standing (h : files.Sound) (hrecord : files.record = some record)
    (htransaction : record.transaction = some transaction) :
    Standing files transaction.evidence transaction.rollbackAttempts record.state
        transaction.phase ∧
      files.Displaces transaction.evidence := by
  rcases h record hrecord with ⟨hnone, -⟩ | ⟨found, hfound, hstanding⟩
  · rw [htransaction] at hnone
    cases hnone
  · obtain rfl := Option.some.inj (htransaction.symm.trans hfound)
    exact hstanding

/-- A record that is neither being installed nor has failed to be has a journal. -/
theorem UpdateFiles.Sound.journal (h : files.Sound) (hrecord : files.record = some record)
    (hstate : record.state ≠ .installing ∧ record.state ≠ .failed ∨ record.phase ≠ none) :
    ∃ transaction, record.transaction = some transaction ∧
      Standing files transaction.evidence transaction.rollbackAttempts record.state
        transaction.phase ∧
      files.Displaces transaction.evidence := by
  rcases h record hrecord with ⟨hnone, hinstalling⟩ | hjournal
  · rcases hstate with ⟨hne, hne'⟩ | hphase
    · rcases hinstalling with hinstalling | hfailed
      · exact absurd hinstalling hne
      · exact absurd hfailed hne'
    · unfold UpdateStateRecord.phase at hphase
      rw [hnone] at hphase
      exact absurd rfl hphase
  · exact hjournal

/-- A record behind its switch has a journal. -/
theorem UpdateFiles.Sound.past (h : files.Sound) (hrecord : files.record = some record)
    (hpast : record.PastDraining) :
    ∃ transaction, record.transaction = some transaction ∧
      Standing files transaction.evidence transaction.rollbackAttempts record.state
        transaction.phase ∧
      files.Displaces transaction.evidence := by
  refine h.journal hrecord ?_
  by_cases hphase : record.phase = none
  · exact .inl (hpast.2.2 hphase)
  · exact .inr hphase

theorem phase_eq_of_transaction (htransaction : record.transaction = some transaction)
    (hphase : record.phase = some phase) : transaction.phase = phase := by
  unfold UpdateStateRecord.phase at hphase
  rw [htransaction] at hphase
  exact Option.some.inj hphase

/-- The journal that an activation goes on with says what the one of its record does. -/
theorem UpdateStateRecord.Journals.eq {held : UpdateTransaction}
    (h : record.Journals transaction) (hheld : record.transaction = some held) :
    held.evidence = transaction.evidence ∧ transaction.rollbackAttempts = held.rollbackAttempts := by
  refine ⟨h.evidence _ ?_, ?_⟩
  · rw [UpdateStateRecord.evidence, hheld]
    rfl
  · rw [h.attempts, UpdateStateRecord.rollbackAttempts, hheld]
    rfl

/-- What a record with a journal has to agree with. -/
theorem sound_of_journal (htransaction : record.transaction = some transaction)
    (hstanding : Standing files transaction.evidence transaction.rollbackAttempts record.state
      transaction.phase)
    (hdisplaces : files.Displaces transaction.evidence) :
    ({ files with record := some record } : UpdateFiles).Sound := by
  intro found hfound
  obtain rfl := Option.some.inj hfound
  exact .inr ⟨transaction, htransaction, hstanding.congr rfl rfl rfl,
    hdisplaces.grows fun _ _ h => h⟩

theorem Standing.waiting_of_phase (h : Standing files evidence attempts state phase)
    (hphase : phase = .staged ∨ phase = .draining) :
    attempts = 0 ∧ (state = .pendingActivation ∨ state = .activating ∨ state = .failed) ∧
      files.staged = some evidence.candidateArtifactId ∧
      files.active = evidence.previousArtifactId := by
  cases h with
  | waiting hattempts hstate _ hstaged hactive => exact ⟨hattempts, hstate, hstaged, hactive⟩
  | switching _ _ hphase' => rcases hphase with rfl | rfl <;> cases hphase'
  | switched _ _ hphase' => rcases hphase with rfl | rfl <;> rcases hphase' with h | h <;> cases h
  | ended hended =>
      rcases hphase with rfl | rfl <;> rcases hended with ⟨h, -⟩ | ⟨h, -⟩ | ⟨h, -⟩ <;> cases h

theorem Standing.recovered
    (h : Standing files transaction.evidence transaction.rollbackAttempts state transaction.phase)
    (htransaction : record.transaction = some transaction) :
    Standing files transaction.evidence transaction.rollbackAttempts (recoverUpdateState record).state
      transaction.phase := by
  have hphase : record.phase = some transaction.phase := by
    rw [UpdateStateRecord.phase, htransaction]
    rfl
  have hattempts : record.rollbackAttempts = transaction.rollbackAttempts := by
    rw [UpdateStateRecord.rollbackAttempts, htransaction]
    rfl
  rcases state_recoverUpdateState_of_phase record hphase with ⟨hstate, hcommitted⟩ |
    ⟨hstate, hwaiting⟩ | ⟨hstate, hstaged, hdraining, hcommitted, hrequired, -⟩ | ⟨hstate, hended⟩
  · exact .ended (.inl ⟨hcommitted, hstate⟩) h.active
  · obtain ⟨hzero, -, hselected, hactive⟩ := h.waiting_of_phase hwaiting
    exact .waiting hzero (.inl hstate) hwaiting hselected hactive
  · cases h with
    | waiting _ _ hwaiting => exact absurd hwaiting (not_or.2 ⟨hstaged, hdraining⟩)
    | switching hzero _ hswitching hselected hactive =>
        exact .switching hzero (.inr hstate) hswitching hselected hactive
    | switched hzero _ hswitched hactive hprevious =>
        exact .switched hzero (.inr hstate) hswitched hactive hprevious
    | ended hended hactive =>
        rcases hended with ⟨h, -⟩ | ⟨h, hone, -⟩ | ⟨h, -⟩
        · exact absurd h hcommitted
        · exact .ended (.inr (.inl ⟨h, hone, .inl hstate⟩)) hactive
        · exact absurd h hrequired
  · refine .ended ?_ h.active
    rcases hended with ⟨hrolling, hone⟩ | hrequired
    · refine .inr (.inl ⟨hrolling, ?_, .inr hstate⟩)
      cases h with
      | waiting hzero => omega
      | switching hzero => omega
      | switched hzero => omega
      | ended hended _ =>
          rcases hended with ⟨h, -⟩ | ⟨-, hone', -⟩ | ⟨h, -⟩
          · rw [hrolling] at h
            cases h
          · exact hone'
          · rw [hrolling] at h
            cases h
    · exact .inr (.inr ⟨hrequired, hstate⟩)

theorem Standing.switching_of_phase (h : Standing files evidence attempts state phase)
    (hphase : phase = .switching) :
    attempts = 0 ∧ (state = .activating ∨ state = .rollbackRequired) ∧
      files.staged = some evidence.candidateArtifactId ∧
      (files.active = evidence.previousArtifactId ∨
        files.active = some evidence.candidateArtifactId ∧
          files.previous = evidence.previousArtifactId) := by
  subst hphase
  cases h with
  | waiting _ _ hphase => rcases hphase with h | h <;> cases h
  | switching hattempts hstate _ hstaged hactive => exact ⟨hattempts, hstate, hstaged, hactive⟩
  | switched _ _ hphase => rcases hphase with h | h <;> cases h
  | ended hended => rcases hended with ⟨h, -⟩ | ⟨h, -⟩ | ⟨h, -⟩ <;> cases h

theorem Standing.switched_of_phase (h : Standing files evidence attempts state phase)
    (hphase : phase = .probation ∨ phase = .committing) :
    attempts = 0 ∧ (state = .activating ∨ state = .rollbackRequired) ∧
      files.active = some evidence.candidateArtifactId ∧
      (files.active = evidence.previousArtifactId ∨
        files.previous = evidence.previousArtifactId) := by
  cases h with
  | waiting _ _ hphase' => rcases hphase with rfl | rfl <;> rcases hphase' with h | h <;> cases h
  | switching _ _ hphase' => rcases hphase with rfl | rfl <;> cases hphase'
  | switched hattempts hstate _ hactive hprevious => exact ⟨hattempts, hstate, hactive, hprevious⟩
  | ended hended =>
      rcases hphase with rfl | rfl <;> rcases hended with ⟨h, -⟩ | ⟨h, -⟩ | ⟨h, -⟩ <;> cases h

/-- In a rollback only the active reference matters, and where nothing is displaced not even that. -/
theorem Standing.of_rollingBack (h : Standing files evidence attempts state phase)
    (hphase : phase = .rollingBack)
    (hactive : evidence.previousArtifactId.isSome →
      files'.active = evidence.previousArtifactId ∨
        files'.active = some evidence.candidateArtifactId) :
    Standing files' evidence attempts state phase := by
  subst hphase
  cases h with
  | waiting _ _ hphase => rcases hphase with h | h <;> cases h
  | switching _ _ hphase => cases hphase
  | switched _ _ hphase => rcases hphase with h | h <;> cases h
  | ended hended _ => exact .ended hended hactive

/-- A record that is behind its switch, due for a rollback or not, and written anew. -/
theorem UpdateFiles.Sound.ended {held : UpdateStateRecord} (h : files.Sound)
    (hrecord : files.record = some record) (hpast : record.PastDraining)
    (hevidence : held.evidence = record.evidence) :
    ∃ transaction, held.transaction = some transaction ∧
      (transaction.evidence.previousArtifactId.isSome →
        files.active = transaction.evidence.previousArtifactId ∨
          files.active = some transaction.evidence.candidateArtifactId) ∧
      files.Displaces transaction.evidence := by
  obtain ⟨found, hfound, hstanding, hdisplaces⟩ := h.past hrecord hpast
  have hsome : held.evidence = some found.evidence := by
    rw [hevidence, UpdateStateRecord.evidence, hfound]
    rfl
  obtain ⟨transaction, htransaction, heq⟩ := Option.map_eq_some_iff.1 hsome
  rw [← heq] at hstanding hdisplaces
  exact ⟨transaction, htransaction, hstanding.active, hdisplaces⟩

/-- A phase is entered from a record that is neither being installed nor has failed to be. -/
theorem EntersPhase.journaled {events : List UpdateEvent}
    (h : EntersPhase dependencies start events files record state phase) :
    record.state ≠ .installing ∧ record.state ≠ .failed ∨ record.phase ≠ none := by
  refine .inl ?_
  cases h with
  | draining hstate _ =>
      rw [hstate]
      exact ⟨by rintro ⟨⟩, by rintro ⟨⟩⟩
  | pending hstate _ | switching hstate _ _ | probation hstate _ _ | committing hstate _ =>
      rw [hstate]
      exact ⟨by rintro ⟨⟩, by rintro ⟨⟩⟩

/-- A phase of an activation keeps the references and the record in agreement. -/
theorem UpdateFiles.Sound.enters {events : List UpdateEvent} {now : String} (h : files.Sound)
    (hrecord : files.record = some record) (hjournals : record.Journals transaction)
    (henters : EntersPhase dependencies start events files record state phase) :
    ({ files with record := some (atPhase state transaction phase now record) } : UpdateFiles).Sound := by
  obtain ⟨held, hheld, hstanding, hdisplaces⟩ := h.journal hrecord henters.journaled
  obtain ⟨hevidence, hattempts⟩ := hjournals.eq hheld
  rw [hevidence] at hstanding hdisplaces
  have hphaseOf : ∀ {phase : TransactionPhase}, record.phase = some phase → held.phase = phase :=
    fun hphase => phase_eq_of_transaction hheld hphase
  refine sound_of_journal rfl ?_ hdisplaces
  change Standing files transaction.evidence transaction.rollbackAttempts state phase
  rw [hattempts]
  cases henters with
  | draining hstate hphase =>
      have hwaiting : held.phase = .staged ∨ held.phase = .draining := by
        rcases hphase with hnone | hphase
        · rw [UpdateStateRecord.phase, hheld] at hnone
          cases hnone
        · exact hphase.imp hphaseOf hphaseOf
      obtain ⟨hzero, -, hstaged, hactive⟩ := hstanding.waiting_of_phase hwaiting
      exact .waiting hzero (.inr (.inl rfl)) (.inr rfl) hstaged hactive
  | pending _ hphase =>
      obtain ⟨hzero, -, hstaged, hactive⟩ := hstanding.waiting_of_phase (.inr (hphaseOf hphase))
      exact .waiting hzero (.inl rfl) (.inr rfl) hstaged hactive
  | switching _ hphase _ =>
      obtain ⟨hzero, -, hstaged, hactive⟩ := hstanding.waiting_of_phase (.inr (hphaseOf hphase))
      exact .switching hzero (.inl rfl) rfl hstaged (.inl hactive)
  | probation _ hphase hswitched =>
      obtain ⟨hzero, -, hstaged, hactive⟩ := hstanding.switching_of_phase (hphaseOf hphase)
      refine .switched hzero (.inl rfl) (.inl rfl) (hswitched.2.trans hstaged) ?_
      exact hactive.imp_right And.right
  | committing _ hphase =>
      obtain ⟨hzero, -, hactive, hprevious⟩ := hstanding.switched_of_phase (.inl (hphaseOf hphase))
      exact .switched hzero (.inl rfl) (.inr rfl) hactive hprevious

/-- The record that is written agrees with the references. -/
theorem UpdateFiles.Sound.write {events : List UpdateEvent} {written : UpdateStateRecord}
    (h : files.Sound) (hwrite : UpdateWrite dependencies start events files written) :
    ({ files with record := some written } : UpdateFiles).Sound := by
  cases hwrite with
  | @recovered current hrecord hstart hunwritten =>
      rcases h current hrecord with ⟨hnone, hstate⟩ | ⟨transaction, htransaction, hstanding, hdisplaces⟩
      · intro found hfound
        obtain rfl := Option.some.inj hfound
        refine .inl ⟨(transaction_recoverUpdateState current).trans hnone, .inr ?_⟩
        unfold recoverUpdateState
        rw [hnone]
        rcases hstate with hstate | hstate
        · rw [hstate]
        · rw [hstate]
          exact hstate
      · exact sound_of_journal ((transaction_recoverUpdateState current).trans htransaction)
          (hstanding.recovered htransaction) hdisplaces
  | installing =>
      intro found hfound
      obtain rfl := Option.some.inj hfound
      exact .inl ⟨rfl, .inl rfl⟩
  | pending _ _ _ _ hreports =>
      refine sound_of_journal rfl
        (.waiting rfl (.inl rfl) (.inl rfl) hreports.staged hreports.previous.symm) ?_
      intro artifactId hprevious
      have hactive : files.active = some artifactId := hreports.previous.symm.trans hprevious
      refine ⟨hreports.displaced artifactId hactive, hreports.previousVersion.trans ?_⟩
      rw [hactive]
      rfl
  | @failed record reason now hrecord hstate =>
      rcases h record hrecord with ⟨hnone, -⟩ | ⟨transaction, htransaction, hstanding, hdisplaces⟩
      · intro found hfound
        obtain rfl := Option.some.inj hfound
        exact .inl ⟨hnone, .inr rfl⟩
      · refine sound_of_journal htransaction ?_ hdisplaces
        cases hstanding with
        | waiting hzero _ hphase hstaged hactive =>
            exact .waiting hzero (.inr (.inr rfl)) hphase hstaged hactive
        | switching _ hother | switched _ hother =>
            rcases hstate with hstate | hstate <;> rw [hstate] at hother <;>
              rcases hother with h | h <;> cases h
        | ended hended =>
            rcases hstate with hstate | hstate <;> rw [hstate] at hended <;>
              rcases hended with ⟨-, h⟩ | ⟨-, -, h | h⟩ | ⟨-, h⟩ <;> cases h
  | entered hrecord hjournals henters => exact h.enters hrecord hjournals henters
  | committed hrecord hstate hphase hjournals =>
      obtain ⟨held, hheld, hstanding, hdisplaces⟩ := h.journal hrecord (.inr (by rw [hphase]; rintro ⟨⟩))
      rw [(hjournals.eq hheld).1] at hstanding hdisplaces
      exact sound_of_journal rfl (.ended (.inl ⟨rfl, rfl⟩) hstanding.active) hdisplaces
  | @rollingBack held record reason now hrecord hevidence hattempts hpast hentered =>
      obtain ⟨transaction, htransaction, hactive, hdisplaces⟩ := h.ended hrecord hpast hevidence
      have hjournal : (rollingBackRecord held reason now).transaction = some { transaction with
          phase := .rollingBack
          rollbackAttempts := 1
          lastRollbackOutcome := some ⟨false, now, some reason⟩
          updatedAt := now } := by
        unfold rollingBackRecord
        rw [htransaction]
        rfl
      exact sound_of_journal hjournal (.ended (.inr (.inl ⟨rfl, rfl, .inl rfl⟩)) hactive) hdisplaces
  | @rolledBack held record restored reason now hrecord hevidence hattempts hstate hpast _ _ =>
      obtain ⟨transaction, htransaction, hactive, hdisplaces⟩ := h.ended hrecord hpast hevidence
      have hjournal : (rolledBackRecord held restored reason now record).transaction =
          some { transaction with
            phase := .committed
            lastRollbackOutcome := some ⟨true, now, none⟩
            updatedAt := now } := by
        unfold rolledBackRecord
        rw [htransaction]
        rfl
      exact sound_of_journal hjournal (.ended (.inl ⟨rfl, rfl⟩) hactive) hdisplaces
  | @recoveryRequired held record reason now hrecord hevidence hpast =>
      obtain ⟨transaction, htransaction, hactive, hdisplaces⟩ := h.ended hrecord hpast hevidence
      have hjournal : (recoveryRequiredRecord held reason now).transaction = some { transaction with
          phase := .recoveryRequired
          recoveryReason := some reason
          updatedAt := now } := by
        unfold recoveryRequiredRecord
        rw [htransaction]
        rfl
      exact sound_of_journal hjournal (.ended (.inr (.inr ⟨rfl, rfl⟩)) hactive) hdisplaces

/-- What a reference is pointed at agrees with the record. -/
theorem UpdateFiles.Sound.point {events : List UpdateEvent} {call : InstallerCall}
    {reference : ReferenceName} {target : Option String} (h : files.Sound)
    (hpointing : UpdatePointing dependencies events files call reference target) :
    (files.point target reference).Sound := by
  have hgrows : files.Grows (files.point target reference) := by
    cases reference <;> exact UpdateFiles.grows_refl files
  have hsame : (files.point target reference).record = files.record := by
    cases reference <;> rfl
  -- It is enough that the references stand as the phase says.
  have hstands : ∀ record, files.record = some record →
      (∀ transaction, record.transaction = some transaction →
        Standing files transaction.evidence transaction.rollbackAttempts record.state
            transaction.phase →
          Standing (files.point target reference) transaction.evidence transaction.rollbackAttempts
            record.state transaction.phase) →
      (files.point target reference).Sound := by
    intro record hrecord hkeeps found hfound
    obtain rfl := Option.some.inj (hrecord.symm.trans (hsame.symm.trans hfound))
    refine (h record hrecord).imp_right ?_
    rintro ⟨transaction, htransaction, hstanding, hdisplaces⟩
    exact ⟨transaction, htransaction, hkeeps transaction htransaction hstanding,
      hdisplaces.grows hgrows⟩
  cases hpointing with
  | @staged candidate record hcandidate hrecord hstate hcomplete =>
      refine hstands record hrecord fun transaction _ hstanding => ?_
      rw [hstate] at hstanding
      cases hstanding with
      | waiting _ h => rcases h with h | h | h <;> cases h
      | switching _ h | switched _ h => rcases h with h | h <;> cases h
      | ended hended =>
          rcases hended with ⟨-, h⟩ | ⟨-, -, h | h⟩ | ⟨-, h⟩ <;> cases h
  | @displaced record hrecord hstate hphase hdiffers =>
      refine hstands record hrecord fun transaction htransaction hstanding => ?_
      obtain ⟨hzero, hstates, hstaged, hactive⟩ :=
        hstanding.switching_of_phase (phase_eq_of_transaction htransaction hphase)
      have hunswitched : files.active = transaction.evidence.previousArtifactId :=
        hactive.resolve_right fun hswitched => hdiffers (hswitched.1.trans hstaged.symm)
      exact .switching hzero hstates (phase_eq_of_transaction htransaction hphase) hstaged
        (.inl hunswitched)
  | @switched record artifactId hrecord hstate hphase hstaged hcomplete hprevious =>
      refine hstands record hrecord fun transaction htransaction hstanding => ?_
      obtain ⟨hzero, hstates, hselected, hactive⟩ :=
        hstanding.switching_of_phase (phase_eq_of_transaction htransaction hphase)
      refine .switching hzero hstates (phase_eq_of_transaction htransaction hphase) hselected
        (.inr ⟨hstaged.symm.trans hselected, ?_⟩)
      exact hactive.elim (fun h => hprevious.trans h) And.right
  | @aborted record transaction artifactId hrecord hstate htransaction hphase _ _ =>
      refine hstands record hrecord fun found hfound hstanding => ?_
      obtain rfl := Option.some.inj (htransaction.symm.trans hfound)
      exact hstanding.of_rollingBack hphase hstanding.active
  | @restored record transaction artifactId hrecord hstate htransaction hphase hprevious _ =>
      refine hstands record hrecord fun found hfound hstanding => ?_
      obtain rfl := Option.some.inj (htransaction.symm.trans hfound)
      exact hstanding.of_rollingBack hphase fun _ => .inl hprevious.symm
  | @reverted record artifactId hrecord hstate hphase hnone _ _ =>
      refine hstands record hrecord fun transaction htransaction hstanding => ?_
      rw [htransaction] at hnone
      refine hstanding.of_rollingBack ?_ fun hsome => ?_
      · exact phase_eq_of_transaction htransaction
          (hphase.resolve_left fun h => by rw [UpdateStateRecord.phase, htransaction] at h; cases h)
      · change transaction.previousArtifactId.isSome at hsome
        rw [show transaction.previousArtifactId = none from hnone] at hsome
        cases hsome
  | @exchanged record event hrecord hstate hphase hnone hevent =>
      refine hstands record hrecord fun transaction htransaction hstanding => ?_
      rw [htransaction] at hnone
      refine hstanding.of_rollingBack ?_ hstanding.active
      exact phase_eq_of_transaction htransaction
        (hphase.resolve_left fun h => by rw [UpdateStateRecord.phase, htransaction] at h; cases h)

/-- Whatever an update does, the references agree with the record. -/
theorem UpdateFiles.Sound.move {events : List UpdateEvent} {action : UpdateAction} (h : files.Sound)
    (hmove : UpdateMove dependencies start events files action files') : files'.Sound := by
  cases hmove with
  | found | activates | restores | serves => exact h
  | deployed hcandidate habsent =>
      have hadds : UpdateMove dependencies start events files _ _ := .deployed hcandidate habsent
      intro record hrecord
      refine (h record hrecord).imp_right ?_
      rintro ⟨transaction, htransaction, hstanding, hdisplaces⟩
      exact ⟨transaction, htransaction, hstanding.congr rfl rfl rfl, hdisplaces.grows hadds.grows⟩
  | pointed hpointing => exact h.point hpointing
  | wrote hwrite => exact h.write hwrite

/-- An event of a trail is a move behind the trail before it. -/
theorem UpdateTrail.split {events before after : List UpdateEvent} {event : UpdateEvent}
    (h : UpdateTrail dependencies start events files) (heq : events = before ++ event :: after) :
    UpdateTrail dependencies start before event.files ∧ ∃ files',
      UpdateMove dependencies start before event.files event.action files' ∧
        UpdateTrail dependencies start (before ++ [event]) files' := by
  induction h generalizing after with
  | start => simp at heq
  | @move events files files' action htrail hmove moment ih =>
      rcases List.concat_eq_append_cons heq with ⟨rfl, rfl⟩ | ⟨after', rfl, -⟩
      · exact ⟨htrail, files', hmove, htrail.move hmove moment⟩
      · exact ih rfl

theorem UpdateTrail.sound {events : List UpdateEvent} (h : UpdateTrail dependencies start events files)
    (hstart : start.Sound) : files.Sound := by
  induction h with
  | start => exact hstart
  | move _ hmove _ ih => exact ih.move hmove

/-- A journal that is written is the one there was, or opens on the deployment that is active. -/
theorem UpdateWrite.journal {written : UpdateStateRecord} {transaction : UpdateTransaction}
    (hwrite : UpdateWrite dependencies start events files written) (hsound : files.Sound)
    (htransaction : written.transaction = some transaction) :
    (∃ record held, files.record = some record ∧ record.transaction = some held ∧
        held.evidence = transaction.evidence) ∨
      transaction.phase = .staged ∧ transaction.previousArtifactId = files.active ∧
        ∃ candidate, dependencies.candidate = some candidate ∧
          transaction.candidateArtifactId = candidate.source.artifactId ∧
          transaction.candidateVersion = candidate.version ∧
          files.staged = some candidate.source.artifactId ∧
          files.Complete candidate.source.artifactId := by
  -- A record whose evidence is that of the one it is written over.
  have hkept : ∀ {record : UpdateStateRecord}, files.record = some record →
      written.evidence = record.evidence → ∃ record held, files.record = some record ∧
        record.transaction = some held ∧ held.evidence = transaction.evidence := by
    intro record hrecord hevidence
    have hsome : record.evidence = some transaction.evidence := by
      rw [← hevidence, UpdateStateRecord.evidence, htransaction]
      rfl
    obtain ⟨held, hheld, heq⟩ := Option.map_eq_some_iff.1 hsome
    exact ⟨record, held, hrecord, hheld, heq⟩
  cases hwrite with
  | recovered hrecord =>
      refine .inl (hkept hrecord ?_)
      rw [UpdateStateRecord.evidence, transaction_recoverUpdateState]
      rfl
  | installing => cases htransaction
  | pending hcandidate _ _ hartifact hreports =>
      obtain rfl := Option.some.inj htransaction
      refine .inr ⟨rfl, hreports.previous, _, hcandidate, hartifact, rfl, ?_, ?_⟩
      · rw [← hartifact]
        exact hreports.staged
      · rw [← hartifact]
        exact hreports.complete
  | failed hrecord => exact .inl (hkept hrecord rfl)
  | entered hrecord hjournals henters =>
      obtain ⟨held, hheld, -⟩ := hsound.journal hrecord (henters.journaled)
      obtain rfl := Option.some.inj htransaction
      exact .inl ⟨_, held, hrecord, hheld, (hjournals.eq hheld).1⟩
  | committed hrecord _ hphase hjournals =>
      obtain ⟨held, hheld, -⟩ := hsound.journal hrecord (.inr (by rw [hphase]; rintro ⟨⟩))
      obtain rfl := Option.some.inj htransaction
      exact .inl ⟨_, held, hrecord, hheld, (hjournals.eq hheld).1⟩
  | rollingBack hrecord hevidence =>
      exact .inl (hkept hrecord (UpdateStateRecord.evidence_rollingBackRecord.trans hevidence))
  | rolledBack hrecord hevidence =>
      exact .inl (hkept hrecord (UpdateStateRecord.evidence_rolledBackRecord hevidence))
  | recoveryRequired hrecord hevidence =>
      exact .inl (hkept hrecord (UpdateStateRecord.evidence_recoveryRequiredRecord.trans hevidence))

theorem sound_of_unrecorded (h : start.record = none) : start.Sound := by
  intro record hrecord
  rw [h] at hrecord
  cases hrecord

end Sound

/-- Every sequence of runs has a history. -/
theorem exists_history (history : UpdateHistory) (runs : List UpdateRuntimeDependencies) :
    ∃ history', List.run UpdateHistory.step history runs = some history' := by
  induction runs generalizing history with
  | nil => exact ⟨history, rfl⟩
  | cons dependencies runs ih => exact ih _

/-- The history of one run. -/
theorem history_of_one {history : UpdateHistory}
    (h : List.run UpdateHistory.step (.start start) [dependencies] = some history) :
    history.files = (runProgress dependencies start).files ∧
      history.events = (runProgress dependencies start).events ∧
      history.result = runResult? dependencies start := by
  cases h
  exact ⟨rfl, rfl, rfl⟩

/-! ## Invariants -/

/-- What every move keeps holds of the files a trail comes to, and of those it has come through. -/
theorem UpdateTrail.invariant {I : UpdateFiles → Prop} {events : List UpdateEvent}
    (h : UpdateTrail dependencies start events files) (hstart : I start)
    (hmove : ∀ before event after files', events = before ++ event :: after → I event.files →
      UpdateTrail dependencies start before event.files →
      UpdateMove dependencies start before event.files event.action files' → I files') :
    I files ∧ ∀ event ∈ events, I event.files := by
  induction h with
  | start => exact ⟨hstart, by rintro _ ⟨⟩⟩
  | @move events files files' action htrail hkept moment ih =>
      obtain ⟨hfiles, hevents⟩ := ih fun before event after files' heq =>
        hmove before event (after ++ [⟨moment, files, action⟩]) files' (by rw [heq]; simp)
      refine ⟨hmove events ⟨moment, files, action⟩ [] files' rfl hfiles htrail hkept, ?_⟩
      intro event hmem
      rcases List.mem_append.1 hmem with hmem | hmem
      · exact hevents event hmem
      · obtain rfl := List.mem_singleton.1 hmem
        exact hfiles

/-- What every run keeps, that meets a condition, holds of the files a history comes to, and of those
it has come through. -/
theorem invariant_of_run (I : UpdateFiles → Prop)
    (condition : UpdateFiles → UpdateRuntimeDependencies → Prop)
    {runs : List UpdateRuntimeDependencies} {history : UpdateHistory} (hstart : I start)
    (hrun : ∀ dependencies files, I files → condition files dependencies →
      I (runProgress dependencies files).files ∧
        ∀ event ∈ (runProgress dependencies files).events, I event.files)
    (hcondition : List.Along (fun history dependencies => condition history.files dependencies)
      UpdateHistory.step (.start start) runs)
    (h : List.run UpdateHistory.step (.start start) runs = some history) :
    I history.files ∧ ∀ event ∈ history.events, I event.files := by
  have hkept : List.Along (fun history dependencies => condition history.files dependencies)
      UpdateHistory.step (.start start) runs →
      I history.files ∧ ∀ event ∈ history.events, I event.files := by
    refine List.run_induction (motive := fun runs history =>
      List.Along (fun history dependencies => condition history.files dependencies)
        UpdateHistory.step (.start start) runs →
      I history.files ∧ ∀ event ∈ history.events, I event.files) ?_ ?_ h
    · exact fun _ => ⟨hstart, by rintro _ ⟨⟩⟩
    · rintro runs history dependencies _ hbefore ih ⟨⟩ halong
      obtain ⟨hruns, hlast⟩ := (List.along_concat hbefore).1 halong
      obtain ⟨hfiles, hevents⟩ := ih hruns
      obtain ⟨hfiles', hevents'⟩ := hrun dependencies history.files hfiles hlast
      refine ⟨hfiles', fun event hmem => ?_⟩
      rcases List.mem_append.1 hmem with hmem | hmem
      · exact hevents event hmem
      · exact hevents' event hmem
  exact hkept hcondition

/-- A history whose last run has returned. -/
theorem returned_of_run {runs : List UpdateRuntimeDependencies} {history : UpdateHistory}
    {result : UpdateRunResult}
    (h : List.run UpdateHistory.step (.start start) runs = some history)
    (hresult : history.result = some result) :
    ∃ before dependencies previous, runs = before ++ [dependencies] ∧
      List.run UpdateHistory.step (.start start) before = some previous ∧
      RunEnded dependencies previous.files result (runProgress dependencies previous.files).events
        history.files := by
  rcases List.eq_nil_or_concat runs with rfl | ⟨before, dependencies, rfl⟩
  · cases h
    cases hresult
  · rw [List.concat_eq_append] at h
    obtain ⟨previous, hbefore, hstep⟩ := List.run_concat_eq_some.1 h
    refine ⟨before, dependencies, previous, List.concat_eq_append, hbefore, ?_⟩
    cases hstep
    rcases (runProgress_spec dependencies previous.files).2 with
      ⟨found, hfound, hended⟩ | ⟨hnone, -⟩
    · obtain rfl := Option.some.inj (hfound.symm.trans hresult)
      exact hended
    · cases hnone.symm.trans hresult

/-! ## A store with one deployment -/

/-- A deployment that serves, before the first update. -/
def servingFiles : UpdateFiles where
  record := none
  staged := none
  active := some "known-good"
  previous := none
  deployments := .ofList [("known-good",
    { metadata := ⟨"rly-gateway", "1.0.0"⟩
      manifest := some ⟨"1.0.0", 1, none, none⟩
      hasEntrypoint := true })]

/-- A candidate for the next version. -/
def nextCandidate : InstallCandidateInput where
  version := "2.0.0"
  source :=
    { artifactId := "candidate"
      manifest := some ⟨"2.0.0", 1, none, none⟩
      hasEntrypoint := true }

theorem complete_servingFiles :
    ∀ artifactId, servingFiles.active = some artifactId → servingFiles.Complete artifactId := by
  rintro artifactId ⟨⟩
  exact ⟨_, rfl, by rintro ⟨-, ⟨⟩⟩⟩

end RlyGateway
