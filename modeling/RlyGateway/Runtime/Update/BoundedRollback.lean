import RlyGateway.Runtime.Update.Histories

/-!
# Bounded rollbacks

The body of a rollback begins at most once for a journal, and nothing is restored or restarted behind
the terminal record, as long as no activation fails to write that record. A rollback that has begun is
recorded as done, or the next run comes to the terminal state.
-/

namespace RlyGateway

variable {dependencies : UpdateRuntimeDependencies} {start files files' : UpdateFiles}
  {events : List UpdateEvent}

/-! ## Rollbacks in a history -/

namespace UpdateEvent

variable (event : UpdateEvent)

/-- The beginning of the body of a rollback. -/
def restores : Bool :=
  match event.action with
  | .called .setActiveReferences | .called .restorePrevious => true
  | _ => false

/-- The opening of a journal, over the record of an installation. -/
def opens : Bool :=
  match event.action with
  | .wrote record =>
      decide (event.files.record.map (·.state) = some .installing ∧ record.phase = some .staged)
  | _ => false

/-- A service action, or a reference that is pointed elsewhere. -/
def touches : Bool :=
  match event.action with
  | .registered | .restarted | .started | .pointed _ _ _ => true
  | _ => false

/-- The terminal record written. -/
def terminates : Bool :=
  match event.action with
  | .wrote record => decide (record.state = .recoveryRequired)
  | _ => false

end UpdateEvent

/-- Whether the one rollback of the last journal has begun. -/
def spentFrom (spent : Bool) : List UpdateEvent → Bool
  | [] => spent
  | event :: events => spentFrom (event.restores || (spent && !event.opens)) events

/-- The body of a rollback begins at most once for a journal. -/
def RollsBackOnce (events : List UpdateEvent) : Prop :=
  events.Lawful fun before event => event.restores = true → spentFrom false before = false

/-- Nothing is restarted or pointed elsewhere behind the terminal record. -/
def TerminalIsFinal (events : List UpdateEvent) : Prop :=
  events.Lawful fun before event =>
    event.touches = true → ∀ earlier ∈ before, earlier.terminates = false

/-- What a rollback that has begun comes to: it is recorded as done, or the next run comes to the
terminal state. -/
def UpdateFiles.Concluded (files : UpdateFiles) : Prop :=
  ∃ record, files.record = some record ∧
    (record.state = .active ∧ record.phase = some .committed ∨
      (recoverUpdateState record).state = .recoveryRequired)

/-- A run that activates a candidate does not fail to write the terminal record. -/
def RecordsTerminal (events : List UpdateEvent) : Prop := Switching events → ¬ RecoveryFaulted events

theorem spentFrom_append (spent : Bool) (events events' : List UpdateEvent) :
    spentFrom spent (events ++ events') = spentFrom (spentFrom spent events) events' := by
  induction events generalizing spent with
  | nil => rfl
  | cons event events ih => exact ih _

theorem spentFrom_concat (spent : Bool) (events : List UpdateEvent) (event : UpdateEvent) :
    spentFrom spent (events ++ [event]) =
      (event.restores || (spentFrom spent events && !event.opens)) :=
  spentFrom_append spent events [event]

theorem restoring_concat_restores {event : UpdateEvent} :
    Restoring (events ++ [event]) ↔ Restoring events ∨ event.restores = true := by
  rw [restoring_concat]
  refine or_congr_right ?_
  unfold UpdateEvent.restores
  constructor
  · rintro (h | h)
    · rw [h]
    · rw [h]
  · intro h
    split at h
    · exact .inl ‹_›
    · exact .inr ‹_›
    · cases h

/-- In a run that may not restore again, nothing is restored twice. -/
theorem RecordsTerminal.not_restoring {more : List UpdateEvent} (h : RecordsTerminal (events ++ more))
    (hmay : MayRestore events) : ¬ Restoring events := by
  intro hrestoring
  obtain ⟨hswitching, hfaulted⟩ := hmay hrestoring
  exact h (hswitching.append more) (hfaulted.append more)

/-! ## Records behind a rollback -/

/-- A record whose one rollback has begun, or that has no journal any more. -/
def Spent (record : UpdateStateRecord) : Prop :=
  record.phase = none ∨ record.phase = some .rollingBack ∨ record.phase = some .recoveryRequired ∨
    record.phase = some .committed

section Spent

variable {record : UpdateStateRecord}

/-- The states of a record whose rollback has begun. -/
theorem Spent.state (h : Spent record) (hsound : files.Sound) (hrecord : files.record = some record) :
    record.phase = none ∧ (record.state = .installing ∨ record.state = .failed) ∨
      record.phase = some .committed ∧ record.state = .active ∨
      record.phase = some .rollingBack ∧ record.rollbackAttempts = 1 ∧
        (record.state = .rollbackRequired ∨ record.state = .recoveryRequired) ∨
      record.phase = some .recoveryRequired ∧ record.state = .recoveryRequired := by
  rcases hsound record hrecord with ⟨hnone, hstate⟩ | ⟨transaction, htransaction, hstanding, -⟩
  · refine .inl ⟨?_, hstate⟩
    rw [UpdateStateRecord.phase, hnone]
    rfl
  · have hphase : record.phase = some transaction.phase := by
      rw [UpdateStateRecord.phase, htransaction]
      rfl
    have hattempts : record.rollbackAttempts = transaction.rollbackAttempts := by
      rw [UpdateStateRecord.rollbackAttempts, htransaction]
      rfl
    unfold Spent at h
    rw [hphase] at h ⊢
    rw [hattempts]
    cases hstanding with
    | waiting _ _ hwaiting =>
        rcases hwaiting with hwaiting | hwaiting <;> rw [hwaiting] at h <;>
          rcases h with h | h | h | h <;> cases h
    | switching _ _ hswitching =>
        rw [hswitching] at h
        rcases h with h | h | h | h <;> cases h
    | switched _ _ hswitched =>
        rcases hswitched with hswitched | hswitched <;> rw [hswitched] at h <;>
          rcases h with h | h | h | h <;> cases h
    | ended hended =>
        rcases hended with ⟨hended, hstate⟩ | ⟨hended, hone, hstate⟩ | ⟨hended, hstate⟩
        · exact .inr (.inl ⟨by rw [hended], hstate⟩)
        · exact .inr (.inr (.inl ⟨by rw [hended], hone, hstate⟩))
        · exact .inr (.inr (.inr ⟨by rw [hended], hstate⟩))

theorem Spent.state_ne (h : Spent record) (hsound : files.Sound)
    (hrecord : files.record = some record) :
    record.state ≠ .pendingActivation ∧ record.state ≠ .activating := by
  rcases h.state hsound hrecord with ⟨-, hstate | hstate⟩ | ⟨-, hstate⟩ | ⟨-, -, hstate | hstate⟩ |
    ⟨-, hstate⟩ <;> rw [hstate] <;> exact ⟨by rintro ⟨⟩, by rintro ⟨⟩⟩

/-- A rollback is only due for a spent record that has counted one. -/
theorem Spent.attempts (h : Spent record) (hsound : files.Sound) (hrecord : files.record = some record)
    (hstate : record.state = .rollbackRequired) : record.rollbackAttempts = 1 := by
  rcases h.state hsound hrecord with ⟨-, h | h⟩ | ⟨-, h⟩ | ⟨-, hone, -⟩ | ⟨-, h⟩
  · rw [hstate] at h; cases h
  · rw [hstate] at h; cases h
  · rw [hstate] at h; cases h
  · exact hone
  · rw [hstate] at h; cases h

/-- A spent record is recovered to one that is spent, and for which no rollback is due. -/
theorem Spent.recovered (h : Spent record) (hsound : files.Sound)
    (hrecord : files.record = some record) :
    Spent (recoverUpdateState record) ∧ (recoverUpdateState record).state ≠ .rollbackRequired := by
  have hspent : Spent (recoverUpdateState record) := by
    unfold Spent
    rwa [phase_recoverUpdateState]
  refine ⟨hspent, fun hstate => ?_⟩
  rcases h.state hsound hrecord with ⟨hphase, hfailed⟩ | ⟨hphase, -⟩ | ⟨hphase, hone, -⟩ | ⟨hphase, -⟩
  · have hnone : record.transaction = none := Option.map_eq_none_iff.1 hphase
    unfold recoverUpdateState at hstate
    rw [hnone] at hstate
    rcases hfailed with hfailed | hfailed <;> simp [hfailed] at hstate
  all_goals
    rcases state_recoverUpdateState_of_phase record hphase with ⟨h, -⟩ | ⟨h, -⟩ |
      ⟨-, -, -, hcommitted, hrequired, hzero⟩ | ⟨h, -⟩
    · rw [hstate] at h; cases h
    · rw [hstate] at h; cases h
    · first
        | exact hcommitted rfl
        | exact hrequired rfl
        | exact absurd (hone.symm.trans (hzero rfl)) (by decide)
    · rw [hstate] at h; cases h

theorem phase_rolledBackRecord {held : UpdateStateRecord} {restored : CandidateInstallResult}
    {reason now : String} (h : held.evidence = record.evidence) :
    (rolledBackRecord held restored reason now record).phase = none ∨
      (rolledBackRecord held restored reason now record).phase = some .committed := by
  cases htransaction : held.transaction with
  | none =>
      have hnone := UpdateStateRecord.transaction_eq_none_of_evidence h htransaction
      unfold UpdateStateRecord.phase rolledBackRecord
      rw [htransaction, hnone]
      exact .inl rfl
  | some transaction =>
      unfold UpdateStateRecord.phase rolledBackRecord
      rw [htransaction]
      exact .inr rfl

theorem phase_recoveryRequiredRecord {reason now : String} :
    (recoveryRequiredRecord record reason now).phase = none ∨
      (recoveryRequiredRecord record reason now).phase = some .recoveryRequired := by
  unfold UpdateStateRecord.phase recoveryRequiredRecord
  cases record.transaction with
  | none => exact .inl rfl
  | some transaction => exact .inr rfl

/-- Over a spent record only the opening of a journal writes one that is not. -/
theorem Spent.write {written : UpdateStateRecord} {moment : ℕ}
    (h : ∀ record, files.record = some record → Spent record) (hsound : files.Sound)
    (hwrite : UpdateWrite dependencies start events files written)
    (hopens : (⟨moment, files, .wrote written⟩ : UpdateEvent).opens = false) : Spent written := by
  cases hwrite with
  | recovered hrecord => exact ((h _ hrecord).recovered hsound hrecord).1
  | installing => exact .inl rfl
  | pending _ hrecord hstate _ _ =>
      have hopening : files.record.map (·.state) = some .installing := by
        rw [hrecord, Option.map_some, hstate]
      exact absurd ⟨hopening, rfl⟩ (of_decide_eq_false hopens)
  | @failed record reason now hrecord =>
      have hspent : Spent record := h record hrecord
      exact hspent
  | entered hrecord _ henters =>
      obtain ⟨hpending, hactivating⟩ := (h _ hrecord).state_ne hsound hrecord
      cases henters with
      | draining hstate => exact absurd hstate hpending
      | pending hstate | switching hstate | probation hstate | committing hstate =>
          exact absurd hstate hactivating
  | committed => exact .inr (.inr (.inr rfl))
  | rollingBack =>
      exact UpdateStateRecord.phase_rollingBackRecord.imp_right .inl
  | rolledBack _ hevidence =>
      exact (phase_rolledBackRecord hevidence).imp_right fun h => .inr (.inr h)
  | recoveryRequired => exact phase_recoveryRequiredRecord.imp_right fun h => .inr (.inl h)

/-- Over a spent record no rollback becomes due, unless the run has come to a switch. -/
theorem Spent.write_state_ne {written : UpdateStateRecord}
    (h : ∀ record, files.record = some record → Spent record) (hsound : files.Sound)
    (hwrite : UpdateWrite dependencies start events files written) (hswitching : ¬ Switching events) :
    written.state ≠ .rollbackRequired := by
  cases hwrite with
  | recovered hrecord => exact ((h _ hrecord).recovered hsound hrecord).2
  | entered hrecord _ henters =>
      obtain ⟨hpending, hactivating⟩ := (h _ hrecord).state_ne hsound hrecord
      cases henters with
      | draining hstate => exact absurd hstate hpending
      | pending hstate | switching hstate | probation hstate | committing hstate =>
          exact absurd hstate hactivating
  | rollingBack hrecord _ hattempts _ hentered =>
      rcases hentered with ⟨rfl, hstate⟩ | ⟨hswitched, -⟩
      · have hone := (h _ hrecord).attempts hsound hrecord hstate
        omega
      · exact absurd hswitched hswitching
  | installing | pending | failed | committed | rolledBack | recoveryRequired => rintro ⟨⟩

end Spent

/-! ## Runs -/

/-- What holds of the rollbacks of a history in the middle of a run, from what was spent and whether
the terminal record had been written before it. -/
structure RollbackInvariant (spent terminated : Bool) (events : List UpdateEvent)
    (files : UpdateFiles) : Prop where
  kept : spentFrom spent events = true → ∀ record, files.record = some record → Spent record
  undue : spentFrom spent events = true → ¬ Restoring events → ¬ Switching events ∧
    (Unwritten events ∨ ∀ record, files.record = some record → record.state ≠ .rollbackRequired)
  begun : Restoring events → spentFrom spent events = true ∧
    ∃ record, files.record = some record ∧ record.phase ≠ none
  terminal : (terminated = true ∨ ∃ event ∈ events, event.terminates = true) →
    ∃ record, files.record = some record ∧ record.state = .recoveryRequired

section Step

variable {spent terminated : Bool} {event : UpdateEvent} {more : List UpdateEvent}

/-- The body of a rollback begins for a record that is rolled back, in a run that may restore. -/
theorem UpdateMove.restores_cases
    (h : UpdateMove dependencies start events event.files event.action files')
    (hrestores : event.restores = true) :
    ∃ record, event.files.record = some record ∧ record.state = .rollbackRequired ∧
      Happened events (.wrote record) ∧ MayRestore events ∧
      (record.phase = none ∨ record.phase = some .rollingBack) := by
  obtain ⟨moment, files, action⟩ := event
  unfold UpdateEvent.restores at hrestores
  dsimp only at h hrestores ⊢
  cases h with
  | restores _ hrecord hstate hwrote hmay hrolling => exact ⟨_, hrecord, hstate, hwrote, hmay, hrolling⟩
  | @found action hfinding =>
      split at hrestores
      · cases hfinding
      · cases hfinding
      · cases hrestores
  | serves haction => rcases haction with rfl | rfl | rfl <;> cases hrestores
  | activates | deployed | pointed | wrote => cases hrestores

/-- The body of a rollback begins only where the last journal's has not begun yet. -/
theorem RollbackInvariant.unspent (h : RollbackInvariant spent terminated events event.files)
    (hterminal : RecordsTerminal (events ++ more))
    (hmove : UpdateMove dependencies start events event.files event.action files')
    (hrestores : event.restores = true) : spentFrom spent events = false := by
  obtain ⟨record, hrecord, hstate, hwrote, hmay, -⟩ := hmove.restores_cases hrestores
  rw [← Bool.not_eq_true]
  intro hspent
  rcases (h.undue hspent (hterminal.not_restoring hmay)).2 with hunwritten | hnot
  · exact hunwritten record hwrote
  · exact hnot record hrecord hstate

theorem unwritten_concat (h : Unwritten events) (hwrote : ∀ written, event.action ≠ .wrote written) :
    Unwritten (events ++ [event]) := by
  intro record hhappened
  rcases happened_concat.1 hhappened with hhappened | haction
  · exact h record hhappened
  · exact hwrote record haction

/-- A switch begins where a record at its phase is written. -/
theorem switching_concat :
    Switching (events ++ [event]) ↔ Switching events ∨
      ∃ record, event.action = .wrote record ∧ record.phase = some .switching := by
  unfold Switching
  constructor
  · rintro ⟨record, hhappened, hphase⟩
    rcases happened_concat.1 hhappened with hhappened | haction
    · exact .inl ⟨record, hhappened, hphase⟩
    · exact .inr ⟨record, haction, hphase⟩
  · rintro (⟨record, hhappened, hphase⟩ | ⟨record, haction, hphase⟩)
    · exact ⟨record, hhappened.append _, hphase⟩
    · exact ⟨record, happened_concat.2 (.inr haction), hphase⟩

theorem Spent.phase_ne {record : UpdateStateRecord} (h : Spent record) :
    record.phase ≠ some .switching := by
  intro hphase
  unfold Spent at h
  rw [hphase] at h
  rcases h with h | h | h | h <;> cases h

theorem restores_eq_false_of_wrote {written : UpdateStateRecord}
    (haction : event.action = .wrote written) : event.restores = false := by
  unfold UpdateEvent.restores
  rw [haction]

theorem opens_eq_false_of_not_wrote (h : ∀ written, event.action ≠ .wrote written) :
    event.opens = false := by
  unfold UpdateEvent.opens
  split
  · exact absurd ‹_› (h _)
  · rfl

/-- Where a rollback has begun, its record keeps a journal. -/
theorem phase_ne_none_of_wrote {record written : UpdateStateRecord} (hsound : files.Sound)
    (hrecord : files.record = some record) (hphase : record.phase ≠ none) (hspent : Spent record)
    (hrestoring : Restoring events)
    (hwrite : UpdateWrite dependencies start events files written) :
    written.phase ≠ none ∧ (written.phase ≠ some .staged) := by
  obtain ⟨hpending, hactivating⟩ := hspent.state_ne hsound hrecord
  have hstaged : record.phase ≠ some .staged := by
    intro hphase
    unfold Spent at hspent
    rw [hphase] at hspent
    rcases hspent with h | h | h | h <;> cases h
  have hinstalling : record.state ≠ .installing := by
    intro hstate
    rcases hspent.state hsound hrecord with ⟨h, -⟩ | ⟨-, h⟩ | ⟨-, -, h | h⟩ | ⟨-, h⟩
    · exact hphase h
    all_goals rw [hstate] at h; cases h
  have hafter : ({ files with record := some written } : UpdateFiles).record = some written := rfl
  have hkept : written.state ≠ .installing ∧ written.state ≠ .failed → written.phase ≠ none := by
    intro hstate
    obtain ⟨transaction, htransaction, -⟩ := (hsound.write hwrite).journal hafter (.inl hstate)
    rw [UpdateStateRecord.phase, htransaction]
    rintro ⟨⟩
  have hsame : ∀ {current : UpdateStateRecord}, files.record = some current → current = record :=
    fun hcurrent => Option.some.inj (hcurrent.symm.trans hrecord)
  cases hwrite with
  | recovered hcurrent =>
      rw [phase_recoverUpdateState, hsame hcurrent]
      exact ⟨hphase, hstaged⟩
  | installing _ _ _ hrestoring' => exact absurd hrestoring hrestoring'
  | pending _ hcurrent hstate => exact absurd (hsame hcurrent ▸ hstate) hinstalling
  | failed hcurrent hstate =>
      rw [hsame hcurrent] at hstate
      exact absurd hstate (not_or.2 ⟨hinstalling, hpending⟩)
  | entered hcurrent _ henters =>
      rw [hsame hcurrent] at henters
      cases henters with
      | draining hstate => exact absurd hstate hpending
      | pending hstate | switching hstate | probation hstate | committing hstate =>
          exact absurd hstate hactivating
  | committed hcurrent hstate => exact absurd (hsame hcurrent ▸ hstate) hactivating
  | rollingBack =>
      refine ⟨hkept ⟨by rintro ⟨⟩, by rintro ⟨⟩⟩, fun h => ?_⟩
      exact UpdateStateRecord.pastDraining_rollingBackRecord.1 h
  | rolledBack _ hevidence =>
      refine ⟨hkept ⟨by rintro ⟨⟩, by rintro ⟨⟩⟩, fun h => ?_⟩
      exact (UpdateStateRecord.pastDraining_rolledBackRecord hevidence).1 h
  | recoveryRequired =>
      refine ⟨hkept ⟨by rintro ⟨⟩, by rintro ⟨⟩⟩, fun h => ?_⟩
      exact UpdateStateRecord.pastDraining_recoveryRequiredRecord.1 h

/-- The terminal record is recovered to itself. -/
theorem state_recovered_of_terminal {record : UpdateStateRecord} (hsound : files.Sound)
    (hrecord : files.record = some record) (hstate : record.state = .recoveryRequired) :
    (recoverUpdateState record).state = .recoveryRequired := by
  obtain ⟨transaction, htransaction, hstanding, -⟩ := hsound.journal hrecord
    (.inl (by rw [hstate]; exact ⟨by rintro ⟨⟩, by rintro ⟨⟩⟩))
  have hphase : record.phase = some transaction.phase := by
    rw [UpdateStateRecord.phase, htransaction]
    rfl
  have hattempts : record.rollbackAttempts = transaction.rollbackAttempts := by
    rw [UpdateStateRecord.rollbackAttempts, htransaction]
    rfl
  rw [hstate] at hstanding
  have hended : transaction.phase = .rollingBack ∧ transaction.rollbackAttempts = 1 ∨
      transaction.phase = .recoveryRequired := by
    cases hstanding with
    | waiting _ h => rcases h with h | h | h <;> cases h
    | switching _ h | switched _ h => rcases h with h | h <;> cases h
    | ended hended =>
        rcases hended with ⟨-, h⟩ | ⟨hphase, hone, -⟩ | ⟨hphase, -⟩
        · cases h
        · exact .inl ⟨hphase, hone⟩
        · exact .inr hphase
  rcases state_recoverUpdateState_of_phase record hphase with ⟨-, h⟩ | ⟨-, h⟩ |
    ⟨-, -, -, -, hrequired, hzero⟩ | ⟨h, -⟩
  · rcases hended with ⟨hphase, -⟩ | hphase <;> rw [hphase] at h <;> cases h
  · rcases hended with ⟨hphase, -⟩ | hphase <;> rw [hphase] at h <;> rcases h with h | h <;> cases h
  · rcases hended with ⟨hphase, hone⟩ | hphase
    · have := hzero hphase
      omega
    · exact absurd hphase hrequired
  · exact h

/-- From the terminal record nothing is touched, and it is left as it is. -/
theorem UpdateMove.terminal
    (h : UpdateMove dependencies start events event.files event.action files')
    (hterminal : RecordsTerminal (events ++ more)) (hsound : event.files.Sound)
    {record : UpdateStateRecord} (hrecord : event.files.record = some record)
    (hstate : record.state = .recoveryRequired) :
    event.touches = false ∧ ∃ record, files'.record = some record ∧ record.state = .recoveryRequired := by
  obtain ⟨moment, files, action⟩ := event
  dsimp only at h hsound hrecord
  have hsame : ∀ {current : UpdateStateRecord}, files.record = some current →
      current.state = .recoveryRequired := by
    intro current hcurrent
    rw [Option.some.inj (hcurrent.symm.trans hrecord)]
    exact hstate
  have hother : ∀ {current : UpdateStateRecord} {state : UpdateState}, files.record = some current →
      current.state = state → state = .recoveryRequired := fun hcurrent hstate =>
    hstate.symm.trans (hsame hcurrent)
  cases h with
  | @found action hfinding =>
      refine ⟨?_, record, hrecord, hstate⟩
      unfold UpdateEvent.touches
      cases action with
      | registered | restarted | started => cases hfinding
      | pointed => cases hfinding
      | _ => rfl
  | activates | restores | deployed => exact ⟨rfl, record, hrecord, hstate⟩
  | serves _ hcurrent hstates =>
      rcases hstates with h | h
      · cases hother hcurrent h
      · cases hother hcurrent h
  | pointed hpointing =>
      cases hpointing with
      | staged _ hcurrent h => cases hother hcurrent h
      | displaced hcurrent h | switched hcurrent h => cases hother hcurrent h
      | aborted hcurrent h | restored hcurrent h => cases hother hcurrent h
      | reverted hcurrent h | exchanged hcurrent h => cases hother hcurrent h
  | @wrote written hwrite =>
      refine ⟨rfl, written, rfl, ?_⟩
      cases hwrite with
      | recovered hcurrent => exact state_recovered_of_terminal hsound hcurrent (hsame hcurrent)
      | installing _ _ hstates =>
          rw [hrecord, Option.map_some, hstate] at hstates
          simp at hstates
      | pending _ hcurrent h => cases hother hcurrent h
      | failed hcurrent h =>
          rcases h with h | h
          · cases hother hcurrent h
          · cases hother hcurrent h
      | entered hcurrent _ henters =>
          cases henters with
          | draining h | pending h | switching h | probation h | committing h =>
              cases hother hcurrent h
      | committed hcurrent h => cases hother hcurrent h
      | rollingBack hcurrent _ _ _ hentered =>
          rcases hentered with ⟨-, h⟩ | ⟨hswitching, -, hfaulted⟩
          · cases hother hcurrent h
          · exact absurd ((hfaulted (hsame hcurrent)).append more) (hterminal (hswitching.append more))
      | rolledBack hcurrent _ _ h => cases hother hcurrent h
      | recoveryRequired => rfl

theorem terminates_eq_false_of_not_wrote (h : ∀ written, event.action ≠ .wrote written) :
    event.terminates = false := by
  unfold UpdateEvent.terminates
  split
  · exact absurd ‹_› (h _)
  · rfl

/-- Every move keeps what holds of the rollbacks. -/
theorem RollbackInvariant.move (h : RollbackInvariant spent terminated events event.files)
    (hterminal : RecordsTerminal (events ++ more)) (hsound : event.files.Sound)
    (hmove : UpdateMove dependencies start events event.files event.action files') :
    RollbackInvariant spent terminated (events ++ [event]) files' := by
  rcases hmove.record_cases with ⟨written, haction, rfl, hwrite⟩ | ⟨hnot, hsame⟩
  · have hrestores : event.restores = false := restores_eq_false_of_wrote haction
    have hevent : event = ⟨event.moment, event.files, .wrote written⟩ := by
      rw [← haction]
    have hrestoring : Restoring (events ++ [event]) ↔ Restoring events := by
      rw [restoring_concat_restores, hrestores]
      simp
    have hspent : spentFrom spent (events ++ [event]) = true ↔
        spentFrom spent events = true ∧ event.opens = false := by
      rw [spentFrom_concat, hrestores, Bool.false_or, Bool.and_eq_true, Bool.not_eq_true']
    have hwritten : spentFrom spent events = true → event.opens = false → Spent written :=
      fun hbefore hopens => Spent.write (h.kept hbefore) hsound hwrite (hevent ▸ hopens)
    constructor
    · intro hafter record hrecord
      obtain rfl := Option.some.inj hrecord
      exact hwritten (hspent.1 hafter).1 (hspent.1 hafter).2
    · intro hafter hnot
      rw [hrestoring] at hnot
      obtain ⟨hbefore, hopens⟩ := hspent.1 hafter
      obtain ⟨hswitching, -⟩ := h.undue hbefore hnot
      refine ⟨?_, .inr ?_⟩
      · rw [switching_concat]
        rintro (hswitching' | ⟨record, haction', hphase⟩)
        · exact hswitching hswitching'
        · obtain rfl := UpdateAction.wrote.inj (haction.symm.trans haction')
          exact (hwritten hbefore hopens).phase_ne hphase
      · intro record hrecord
        obtain rfl := Option.some.inj hrecord
        exact Spent.write_state_ne (h.kept hbefore) hsound hwrite hswitching
    · intro hafter
      rw [hrestoring] at hafter
      obtain ⟨hbefore, record, hrecord, hphase⟩ := h.begun hafter
      obtain ⟨hnone, hstaged⟩ := phase_ne_none_of_wrote hsound hrecord hphase
        (h.kept hbefore record hrecord) hafter hwrite
      refine ⟨hspent.2 ⟨hbefore, ?_⟩, written, rfl, hnone⟩
      unfold UpdateEvent.opens
      rw [haction]
      exact decide_eq_false fun h => hstaged h.2
    · intro hafter
      by_cases hterminates : event.terminates = true
      · refine ⟨written, rfl, ?_⟩
        unfold UpdateEvent.terminates at hterminates
        rw [haction] at hterminates
        exact of_decide_eq_true hterminates
      · obtain ⟨record, hrecord, hstate⟩ := h.terminal (hafter.imp_right fun hmem => by
          obtain ⟨earlier, hmem, hearlier⟩ := hmem
          rcases List.mem_append.1 hmem with hmem | hmem
          · exact ⟨earlier, hmem, hearlier⟩
          · rw [List.mem_singleton.1 hmem] at hearlier
            exact absurd hearlier hterminates)
        exact (hmove.terminal hterminal hsound hrecord hstate).2
  · have hopens := opens_eq_false_of_not_wrote hnot
    have hterminates := terminates_eq_false_of_not_wrote hnot
    have hspent : spentFrom spent (events ++ [event]) = true ↔
        event.restores = true ∨ spentFrom spent events = true := by
      rw [spentFrom_concat, hopens, Bool.or_eq_true, Bool.not_false, Bool.and_true]
    constructor
    · intro hafter record hrecord
      rw [hsame] at hrecord
      rcases hspent.1 hafter with hrestores | hbefore
      · obtain ⟨found, hfound, -, -, -, hrolling⟩ := hmove.restores_cases hrestores
        obtain rfl := Option.some.inj (hfound.symm.trans hrecord)
        exact hrolling.imp_right .inl
      · exact h.kept hbefore record hrecord
    · intro hafter hrestoring
      rw [restoring_concat_restores, not_or] at hrestoring
      obtain ⟨hswitching, hundue⟩ := h.undue ((hspent.1 hafter).resolve_left hrestoring.2) hrestoring.1
      refine ⟨?_, hundue.imp (fun hunwritten => unwritten_concat hunwritten hnot) ?_⟩
      · rw [switching_concat]
        rintro (hswitching' | ⟨record, haction, -⟩)
        · exact hswitching hswitching'
        · exact hnot record haction
      · rw [hsame]
        exact id
    · intro hrestoring
      rw [hsame]
      rcases restoring_concat_restores.1 hrestoring with hrestoring | hrestores
      · exact ⟨hspent.2 (.inr (h.begun hrestoring).1), (h.begun hrestoring).2⟩
      · obtain ⟨record, hrecord, hstate, -⟩ := hmove.restores_cases hrestores
        obtain ⟨transaction, htransaction, -⟩ := hsound.journal hrecord
          (.inl (by rw [hstate]; exact ⟨by rintro ⟨⟩, by rintro ⟨⟩⟩))
        refine ⟨hspent.2 (.inl hrestores), record, hrecord, ?_⟩
        rw [UpdateStateRecord.phase, htransaction]
        rintro ⟨⟩
    · intro hafter
      obtain ⟨record, hrecord, hstate⟩ := h.terminal (hafter.imp_right fun hmem => by
        obtain ⟨earlier, hmem, hearlier⟩ := hmem
        rcases List.mem_append.1 hmem with hmem | hmem
        · exact ⟨earlier, hmem, hearlier⟩
        · rw [List.mem_singleton.1 hmem, hterminates] at hearlier
          cases hearlier)
      exact (hmove.terminal hterminal hsound hrecord hstate).2

/-- A run in which the terminal record is written, if it has to be, keeps what holds of rollbacks. -/
theorem RollbackInvariant.trail (htrail : UpdateTrail dependencies start events files)
    (hstart : RollbackInvariant spent terminated [] start) (hsound : start.Sound)
    (hterminal : RecordsTerminal (events ++ more)) :
    RollbackInvariant spent terminated events files ∧
      (events.Lawful fun before event => event.restores = true → spentFrom spent before = false) ∧
      events.Lawful fun before event => event.touches = true →
        terminated = false ∧ ∀ earlier ∈ before, earlier.terminates = false := by
  induction htrail generalizing more with
  | start => exact ⟨hstart, List.lawful_nil, List.lawful_nil⟩
  | @move events files files' action htrail hmove moment ih =>
      rw [List.append_assoc] at hterminal
      obtain ⟨hbefore, honce, hfinal⟩ := ih hterminal
      let event : UpdateEvent := ⟨moment, files, action⟩
      have hkept : RollbackInvariant spent terminated events event.files := hbefore
      have hevent : UpdateMove dependencies start events event.files event.action files' := hmove
      refine ⟨hkept.move hterminal (htrail.sound hsound) hevent,
        List.lawful_concat.2 ⟨honce, hkept.unspent hterminal hevent⟩,
        List.lawful_concat.2 ⟨hfinal, fun htouches => ?_⟩⟩
      have huntouched : ¬ (terminated = true ∨ ∃ earlier ∈ events, earlier.terminates = true) := by
        intro hended
        obtain ⟨record, hrecord, hstate⟩ := hkept.terminal hended
        have hquiet := (hevent.terminal hterminal (htrail.sound hsound) hrecord hstate).1
        exact absurd htouches (by rw [hquiet]; decide)
      rw [not_or] at huntouched
      refine ⟨by simpa using huntouched.1, fun earlier hmem => ?_⟩
      by_contra hterminates
      exact huntouched.2 ⟨earlier, hmem, by simpa using hterminates⟩

/-- A rollback that has begun is recorded, or the next run comes to the terminal state. -/
theorem RollbackInvariant.concluded (h : RollbackInvariant spent terminated events files)
    (hsound : files.Sound) (hrestoring : Restoring events) : files.Concluded := by
  obtain ⟨hspent, record, hrecord, hphase⟩ := h.begun hrestoring
  refine ⟨record, hrecord, ?_⟩
  rcases (h.kept hspent record hrecord).state hsound hrecord with ⟨hnone, -⟩ | ⟨hcommitted, hstate⟩ |
    ⟨hrolling, hone, -⟩ | ⟨-, hstate⟩
  · exact absurd hnone hphase
  · exact .inl ⟨hstate, hcommitted⟩
  · right
    rcases state_recoverUpdateState_of_phase record hrolling with ⟨-, h⟩ | ⟨-, h | h⟩ |
      ⟨-, -, -, -, -, hzero⟩ | ⟨h, -⟩
    · cases h
    · cases h
    · cases h
    · have := hzero rfl
      omega
    · exact h
  · exact .inr (state_recovered_of_terminal hsound hrecord hstate)

end Step

/-! ## Histories -/

/-- What holds of the rollbacks of a history between two runs. -/
structure UpdateHistory.RolledBack (history : UpdateHistory) : Prop where
  sound : history.files.Sound
  kept : spentFrom false history.events = true →
    ∀ record, history.files.record = some record → Spent record
  terminal : (∃ event ∈ history.events, event.terminates = true) →
    ∃ record, history.files.record = some record ∧ record.state = .recoveryRequired
  once : RollsBackOnce history.events
  final : TerminalIsFinal history.events

/-- What a run in which the terminal record is written keeps, and what becomes of a rollback that it
begins. -/
theorem UpdateHistory.RolledBack.run {history : UpdateHistory} (h : history.RolledBack)
    (hterminal : RecordsTerminal (runProgress dependencies history.files).events) :
    UpdateHistory.RolledBack
      { files := (runProgress dependencies history.files).files
        events := history.events ++ (runProgress dependencies history.files).events
        result := runResult? dependencies history.files } ∧
      (Restoring (runProgress dependencies history.files).events →
        (runProgress dependencies history.files).files.Concluded) := by
  let terminated : Bool := history.events.any UpdateEvent.terminates
  have hterminated : terminated = true ↔ ∃ event ∈ history.events, event.terminates = true :=
    List.any_eq_true
  have hstart : RollbackInvariant (spentFrom false history.events) terminated [] history.files := by
    refine ⟨h.kept, fun _ _ => ⟨?_, .inl ?_⟩, ?_, fun hended => ?_⟩
    · rintro ⟨record, ⟨_, ⟨⟩, -⟩, -⟩
    · rintro record ⟨_, ⟨⟩, -⟩
    · rintro (⟨_, ⟨⟩, -⟩ | ⟨_, ⟨⟩, -⟩)
    · exact h.terminal (hterminated.1 (hended.resolve_right (by rintro ⟨_, ⟨⟩, -⟩)))
  have htrail := (runProgress_spec dependencies history.files).1
  have hsound := htrail.sound h.sound
  obtain ⟨hkept, honce, hfinal⟩ := hstart.trail htrail h.sound
    (show RecordsTerminal (_ ++ []) by rw [List.append_nil]; exact hterminal)
  refine ⟨⟨hsound, ?_, ?_, ?_, ?_⟩, hkept.concluded hsound⟩
  · intro hspent
    rw [spentFrom_append] at hspent
    exact hkept.kept hspent
  · rintro ⟨event, hmem, hterminates⟩
    refine hkept.terminal ?_
    rcases List.mem_append.1 hmem with hmem | hmem
    · exact .inl (hterminated.2 ⟨event, hmem, hterminates⟩)
    · exact .inr ⟨event, hmem, hterminates⟩
  · refine List.lawful_append.2 ⟨h.once, ?_⟩
    intro before event after heq hrestores
    rw [spentFrom_append]
    exact honce before event after heq hrestores
  · refine List.lawful_append.2 ⟨h.final, ?_⟩
    intro before event after heq htouches earlier hmem
    obtain ⟨hnone, hbefore⟩ := hfinal before event after heq htouches
    rcases List.mem_append.1 hmem with hmem | hmem
    · by_contra hterminates
      rw [hterminated.2 ⟨earlier, hmem, by simpa using hterminates⟩] at hnone
      cases hnone
    · exact hbefore earlier hmem

/-- Over every history in which no activation fails to write the terminal record, the body of a
rollback begins at most once for a journal, nothing is touched behind the terminal record, and a run
in which a rollback has begun leaves it recorded as done, or the next run comes to the terminal
state. -/
theorem rollsBackOnce_of_run {runs : List UpdateRuntimeDependencies} {history : UpdateHistory}
    (hstart : start.record = none)
    (hterminal : List.Along
      (fun history dependencies => RecordsTerminal (runProgress dependencies history.files).events)
      UpdateHistory.step (.start start) runs)
    (h : List.run UpdateHistory.step (.start start) runs = some history) :
    RollsBackOnce history.events ∧ TerminalIsFinal history.events ∧
      ∀ before dependencies after previous, runs = before ++ dependencies :: after →
        List.run UpdateHistory.step (.start start) before = some previous →
        Restoring (runProgress dependencies previous.files).events →
        (runProgress dependencies previous.files).files.Concluded := by
  have hrolledBack : ∀ {runs : List UpdateRuntimeDependencies} {history : UpdateHistory},
      List.run UpdateHistory.step (.start start) runs = some history →
      List.Along (fun history dependencies =>
        RecordsTerminal (runProgress dependencies history.files).events) UpdateHistory.step
          (.start start) runs → history.RolledBack := by
    intro runs history h
    refine List.run_induction (motive := fun runs history => List.Along (fun history dependencies =>
      RecordsTerminal (runProgress dependencies history.files).events) UpdateHistory.step
        (.start start) runs → history.RolledBack) ?_ ?_ h
    · exact fun _ => ⟨sound_of_unrecorded hstart, by rintro ⟨⟩, by rintro ⟨_, ⟨⟩, -⟩,
        List.lawful_nil, List.lawful_nil⟩
    · rintro runs history dependencies _ hbefore ih ⟨⟩ halong
      obtain ⟨hruns, hlast⟩ := (List.along_concat hbefore).1 halong
      exact ((ih hruns).run hlast).1
  refine ⟨(hrolledBack h hterminal).once, (hrolledBack h hterminal).final, ?_⟩
  rintro before dependencies after previous rfl hbefore hrestoring
  have hprevious : previous.RolledBack := by
    refine hrolledBack hbefore ?_
    rintro earlier dependencies' rest t rfl hearlier
    exact hterminal earlier dependencies' (rest ++ dependencies :: after) t (by simp) hearlier
  exact (hprevious.run (hterminal before dependencies after previous rfl hbefore)).2 hrestoring

/-- A candidate that cannot be verified, and neither can the deployment that is restored. -/
def unverifiedRun : UpdateRuntimeDependencies :=
  { UpdateRuntimeDependencies.undisturbed with candidate := some nextCandidate }

/-- The same run, in which the terminal record cannot be written. -/
def unrecordedRun : UpdateRuntimeDependencies :=
  { unverifiedRun with
    fault := fun step _ =>
      if step = .writeRecord .recoveryRequired then some ⟨false, "ENOSPC"⟩ else none }

theorem recordsTerminal_unverifiedRun :
    RecordsTerminal (runProgress unverifiedRun servingFiles).events := by
  have hnone : ∀ event ∈ (runProgress unverifiedRun servingFiles).events,
      event.action ≠ .faulted (.writeRecord .recoveryRequired) := by decide +kernel
  rintro - ⟨event, hmem, haction⟩
  exact hnone event hmem haction

/-- A rollback that fails is recorded, and not begun again. -/
theorem rollsBackOnce_of_run_unverifiedRun : ∃ history,
    List.run UpdateHistory.step (.start servingFiles) [unverifiedRun] = some history ∧
    RollsBackOnce history.events ∧ TerminalIsFinal history.events ∧
    ∀ before dependencies after previous, [unverifiedRun] = before ++ dependencies :: after →
      List.run UpdateHistory.step (.start servingFiles) before = some previous →
      Restoring (runProgress dependencies previous.files).events →
      (runProgress dependencies previous.files).files.Concluded := by
  obtain ⟨history, hrun⟩ := exists_history (.start servingFiles) [unverifiedRun]
  refine ⟨history, hrun, rollsBackOnce_of_run rfl ?_ hrun⟩
  exact List.along_cons.2 ⟨recordsTerminal_unverifiedRun, fun _ _ => List.along_nil _⟩

/-- An activation that fails to write the terminal record begins its rollback a second time. -/
theorem not_rollsBackOnce_unrecordedRun :
    ¬ ∀ (start : UpdateFiles) (runs : List UpdateRuntimeDependencies) (history : UpdateHistory),
      start.record = none →
      List.run UpdateHistory.step (.start start) runs = some history →
      RollsBackOnce history.events ∧ TerminalIsFinal history.events ∧
        ∀ before dependencies after previous, runs = before ++ dependencies :: after →
          List.run UpdateHistory.step (.start start) before = some previous →
          Restoring (runProgress dependencies previous.files).events →
          (runProgress dependencies previous.files).files.Concluded := by
  intro hclaim
  obtain ⟨history, hrun⟩ := exists_history (.start servingFiles) [unrecordedRun]
  obtain ⟨honce, -⟩ := hclaim servingFiles [unrecordedRun] history rfl hrun
  have hagain : ((runProgress unrecordedRun servingFiles).events[26]?).any UpdateEvent.restores =
        true ∧
      spentFrom false ((runProgress unrecordedRun servingFiles).events.take 26) = true := by
    decide +kernel
  rw [← (history_of_one hrun).2.1] at hagain
  obtain ⟨hrestores, hspent⟩ := hagain
  obtain ⟨event, hevent, hrestores⟩ := (Option.any_eq_true _ _).1 hrestores
  rw [honce.of_getElem? hevent hrestores] at hspent
  cases hspent

end RlyGateway
