import RlyGateway.Credentials.StoreFiles

/-!
# Commits and purges over their files

Whatever file operations fail and wherever a process ends, a commit is there as a whole or not at all,
and recovery changes nothing that is read. A purge that is stopped can leave the record before.
-/

namespace RlyGateway

namespace CredentialStore

open EStateM

/-! ## What files hold -/

/-- The files hold the texts of these records, of which the one in the backup is not the newer one. -/
structure Holds (files : CredentialFiles) (active backup : Option CredentialRecord) : Prop where
  activeText : files.active = active.map serializeRecord
  backupText : files.backup = backup.map serializeRecord
  storable : ∀ record, record ∈ active ∨ record ∈ backup → record.Storable
  older : ∀ current ∈ active, ∀ previous ∈ backup, previous.generation ≤ current.generation

/-- The record in a file. -/
def slot (active backup : Option CredentialRecord) : CredentialFile → Option CredentialRecord
  | .active => active
  | .backup => backup

variable {files files' : CredentialFiles} {x y x' y' : Option CredentialRecord}

theorem Holds.text (h : Holds files x y) (file : CredentialFile) :
    files.text file = (slot x y file).map serializeRecord := by
  cases file with
  | active => exact h.activeText
  | backup => exact h.backupText

theorem Holds.storable_slot (h : Holds files x y) (file : CredentialFile) :
    ∀ record ∈ slot x y file, record.Storable := by
  cases file with
  | active => exact fun record hrecord => h.storable record (.inl hrecord)
  | backup => exact fun record hrecord => h.storable record (.inr hrecord)

/-- What else is beside the files makes no difference. -/
theorem Holds.of_eq (h : Holds files x y) (hactive : files'.active = files.active)
    (hbackup : files'.backup = files.backup) : Holds files' x y :=
  ⟨hactive.trans h.activeText, hbackup.trans h.backupText, h.storable, h.older⟩

theorem bind_parseRecord_map {record : Option CredentialRecord}
    (h : ∀ r ∈ record, r.Storable) : (record.map serializeRecord).bind parseRecord = record := by
  cases record with
  | none => rfl
  | some r =>
      rw [Option.map_some, Option.bind_some]
      exact parseRecord_serializeRecord (h r rfl)

theorem Holds.record?_eq (h : Holds files x y) {directory : CredentialDirectory} {handle : String}
    (hfiles : directory handle = files) : directory.record? handle = x.or y := by
  have hactive : (x.map serializeRecord).bind parseRecord = x :=
    bind_parseRecord_map (h.storable_slot .active)
  have hbackup : (y.map serializeRecord).bind parseRecord = y :=
    bind_parseRecord_map (h.storable_slot .backup)
  rw [CredentialDirectory.record?, hfiles, h.activeText, h.backupText, hactive, hbackup]

theorem Holds.put_active (h : Holds files x y) {next : CredentialRecord} (hnext : next.Storable)
    (hle : ∀ previous ∈ y, previous.generation ≤ next.generation) :
    Holds (files.put (some (serializeRecord next)) .active) (some next) y where
  activeText := rfl
  backupText := h.backupText
  storable := by
    rintro record (hrecord | hrecord)
    · cases hrecord
      exact hnext
    · exact h.storable record (.inr hrecord)
  older := by
    rintro _ ⟨⟩ previous hprevious
    exact hle previous hprevious

theorem Holds.put_backup {current : CredentialRecord} (h : Holds files (some current) y) :
    Holds (files.put (some (serializeRecord current)) .backup) (some current) (some current) where
  activeText := h.activeText
  backupText := rfl
  storable := by
    rintro record (hrecord | hrecord)
    all_goals
      cases hrecord
      exact h.storable current (.inl rfl)
  older := by
    rintro _ ⟨⟩ _ ⟨⟩
    exact Nat.le_refl _

theorem Holds.drop_active (h : Holds files x y) : Holds (files.put none .active) none y where
  activeText := rfl
  backupText := h.backupText
  storable record hrecord := h.storable record (.inr (hrecord.resolve_left (Option.not_mem_none _)))
  older current hcurrent := absurd hcurrent (Option.not_mem_none current)

theorem Holds.drop_backup (h : Holds files x y) : Holds (files.put none .backup) x none where
  activeText := h.activeText
  backupText := rfl
  storable record hrecord := h.storable record (.inl (hrecord.resolve_right (Option.not_mem_none _)))
  older _ _ previous hprevious := absurd hprevious (Option.not_mem_none previous)

/-! ## Programs over files -/

def At (x y : Option CredentialRecord) (s : StoreRun) : Prop := Holds s.files x y

/-- The file operation failed, or the process ended. -/
def Interrupts (stop : StoreStop) : Prop := stop = .ended ∨ stop = .error .fileSystem

/-- A program is stopped where one of these records is read. -/
def Stops (shown : Option CredentialRecord → Prop) (stop : StoreStop) (s : StoreRun) : Prop :=
  Interrupts stop ∧ ∃ x y, At x y s ∧ shown (x.or y)

variable {shown : Option CredentialRecord → Prop}

theorem meets_fileStep_at {change : CredentialFiles → CredentialFiles}
    (hchange : ∀ files, Holds files x y → Holds (change files) x' y') :
    Meets (At x y) (fileStep change) (fun _ => At x' y')
      fun stop s => Interrupts stop ∧ At x y s := by
  rintro ⟨outcomes, files⟩ h
  cases outcomes with
  | nil => exact hchange files h
  | cons outcome outcomes =>
      cases outcome with
      | done => exact hchange files h
      | failed => exact ⟨.inr rfl, h⟩
      | ended => exact ⟨.inl rfl, h⟩

theorem meets_fileStep {change : CredentialFiles → CredentialFiles} (hshown : shown (x.or y))
    (hchange : ∀ files, Holds files x y → Holds (change files) x' y') :
    Meets (At x y) (fileStep change) (fun _ => At x' y') (Stops shown) :=
  (meets_fileStep_at hchange).mono (fun _ => id) (fun _ _ => id)
    fun _ _ h => ⟨h.1, x, y, h.2, hshown⟩

/-- A file is written as a whole or not at all. -/
theorem meets_writePrivateTextAtomically {opened unlinked renamed : CredentialFiles → CredentialFiles}
    (hopened : ∀ files, Holds files x y → Holds (opened files) x y)
    (hunlinked : ∀ files, Holds files x y → Holds (unlinked files) x y)
    (hrenamed : ∀ files, Holds files x y → Holds (renamed files) x' y')
    (hshown : shown (x.or y)) (hshown' : shown (x'.or y')) :
    Meets (At x y) (writePrivateTextAtomically opened unlinked renamed) (fun _ => At x' y')
      (Stops shown) := by
  have hstops : ∀ stop s, Interrupts stop ∧ At x y s → Stops shown stop s :=
    fun _ _ h => ⟨h.1, x, y, h.2, hshown⟩
  refine (meets_fileStep hshown hopened).bind fun _ => ?_
  refine (meets_fileStep hshown fun _ h => h).bind fun _ => ?_
  refine Meets.through (fun _ => At x' y') ?_ fun _ => meets_fileStep hshown' fun _ h => h
  refine (meets_fileStep_at hrenamed).rescue ?_ fun stop s _ h => hstops stop s h
  -- the rename failed: the file is still the one before
  intro stop reason hreason
  refine meets_of_pre fun hinterrupts => ?_
  have hreason' : reason = stop := by
    obtain rfl | rfl := hinterrupts
    · cases hreason
    · exact (Option.some.inj hreason).symm
  refine Meets.through (fun _ => At x y) ?_ fun _ => meets_throw fun s h => ?_
  · refine (meets_fileStep_at hunlinked).rescue ?_ fun stop s _ h => hstops stop s h
    exact fun _ _ _ => meets_of_pre fun _ => meets_pure fun _ h => h
  · rw [hreason']
    exact hstops stop s ⟨hinterrupts, h⟩

theorem meets_writeCredentialFile {file : CredentialFile} {text : String}
    (hput : ∀ files, Holds files x y → Holds (files.put (some text) file) x' y')
    (hshown : shown (x.or y)) (hshown' : shown (x'.or y')) :
    Meets (At x y) (writeCredentialFile file text) (fun _ => At x' y') (Stops shown) :=
  meets_writePrivateTextAtomically (fun _ h => h.of_eq rfl rfl) (fun _ h => h.of_eq rfl rfl)
    (fun files h => hput { files with temporaries := files.temporaries - 1 } (h.of_eq rfl rfl))
    hshown hshown'

theorem meets_readPrivateTextIfPresent (file : CredentialFile) (hshown : shown (x.or y)) :
    Meets (At x y) (readPrivateTextIfPresent file)
      (fun raw s => raw = (slot x y file).map serializeRecord ∧ At x y s) (Stops shown) := by
  refine (meets_fileStep hshown fun _ h => h).bind fun _ => ?_
  exact fun s h => ⟨h.text file, h⟩

theorem meets_parseFile (file : CredentialFile) (hshown : shown (x.or y)) :
    Meets (At x y) (parseFile file) (fun record s => record = slot x y file ∧ At x y s)
      (Stops shown) := by
  refine (meets_readPrivateTextIfPresent file hshown).bind fun raw => ?_
  refine meets_pure fun s h => ⟨?_, h.2⟩
  rw [h.1, bind_parseRecord_map (h.2.storable_slot file)]

theorem meets_readActiveOrBackup (hshown : shown (x.or y)) :
    Meets (At x y) readActiveOrBackup (fun record s => record = x.or y ∧ At x y s) (Stops shown) := by
  refine (meets_parseFile .active hshown).bind fun record => ?_
  refine meets_of_pre fun hrecord => ?_
  rw [hrecord, slot]
  cases x with
  | none => exact meets_parseFile .backup hshown
  | some current => exact meets_pure fun s h => ⟨rfl, h⟩

theorem meets_removeMatching {count : CredentialFiles → ℕ}
    {remove : CredentialFiles → CredentialFiles}
    (hremove : ∀ files, Holds files x y → Holds (remove files) x y) (hshown : shown (x.or y)) :
    Meets (At x y) (removeMatching count remove) (fun _ => At x y) (Stops shown) := by
  refine (meets_fileStep hshown fun _ h => h).bind fun _ => ?_
  refine meets_reads_bind (fun _ => True) (fun _ _ => trivial) fun n _ => ?_
  induction n with
  | zero => exact meets_pure fun _ h => h
  | succ n ih => exact (meets_fileStep hshown hremove).bind fun _ => ih

theorem meets_removeTemporary (hshown : shown (x.or y)) :
    Meets (At x y) removeTemporary (fun _ => At x y) (Stops shown) :=
  meets_removeMatching (fun _ h => h.of_eq rfl rfl) hshown

/-! ## The operations -/

theorem meets_replace {next : CredentialRecord} (hnext : next.Storable)
    (hle : ∀ current ∈ x.or y, current.generation ≤ next.generation)
    (hshown : shown (x.or y)) (hshown' : shown (some next)) :
    Meets (At x y) (replace next) (fun _ => At (some next) none) (Stops shown) := by
  -- with the files as they are once there is a backup
  have hbehind {y' : Option CredentialRecord} (hor : x.or y' = x.or y)
      (hle' : ∀ previous ∈ y', previous.generation ≤ next.generation) :
      Meets (At x y') (do
        writeCredentialFile .active (serializeRecord next)
        let verified ← parseFile .active
        if verified.map (·.generation) ≠ some next.generation then throw .commitFailed
        else
          removePrivateFileIfPresent .backup
          fsyncPrivateDirectory) (fun _ => At (some next) none) (Stops shown) := by
    have hnow : shown (x.or y') := by rwa [hor]
    have hthen : shown ((some next).or y') := hshown'
    refine (meets_writeCredentialFile (fun files h => h.put_active hnext hle') hnow hthen).bind
      fun _ => ?_
    refine (meets_parseFile .active hthen).bind fun verified => ?_
    refine meets_of_pre fun hverified => ?_
    rw [hverified]
    refine Meets.ite (fun hdiffers => absurd rfl hdiffers) fun _ => ?_
    refine (meets_fileStep hthen fun files h => h.drop_backup).bind fun _ => ?_
    exact meets_fileStep hshown' fun _ h => h
  refine (meets_readPrivateTextIfPresent .active hshown).bind fun active => ?_
  refine meets_of_pre fun hactive => ?_
  rw [hactive, slot]
  cases x with
  | none => exact hbehind rfl hle
  | some current =>
      have hput : ∀ files, Holds files (some current) y →
          Holds (files.put (some (serializeRecord current)) .backup) (some current) (some current) :=
        fun files h => h.put_backup
      refine (meets_writeCredentialFile hput hshown hshown).bind fun _ => hbehind rfl ?_
      rintro _ ⟨⟩
      exact hle current rfl

theorem meets_quarantineIfPresent {file : CredentialFile} (hnone : slot x y file = none)
    (hshown : shown (x.or y)) :
    Meets (At x y) (quarantineIfPresent file) (fun _ => At x y) (Stops shown) := by
  refine (meets_readPrivateTextIfPresent file hshown).bind fun raw => ?_
  refine meets_of_pre fun hraw => ?_
  rw [hraw, hnone]
  exact meets_pure fun _ h => h

/-- What recovery leaves is read as before, and what stops it changes nothing that is read. -/
theorem meets_recover (hshown : shown (x.or y)) :
    Meets (At x y) recover (fun _ => At (x.or y) none) (Stops shown) := by
  refine (meets_removeTemporary hshown).bind fun _ => ?_
  refine (meets_parseFile .active hshown).bind fun active => ?_
  refine meets_of_pre fun hactive => ?_
  rw [hactive, slot]
  cases x with
  | some current =>
      refine (meets_fileStep hshown fun files h => h.drop_backup).bind fun _ => ?_
      exact meets_pure fun _ h => h
  | none =>
      refine (meets_parseFile .backup hshown).bind fun backup => ?_
      refine meets_of_pre fun hbackup => ?_
      rw [hbackup, slot]
      cases y with
      | some previous =>
          have hput : ∀ files, Holds files none (some previous) →
              Holds (files.put (some (serializeRecord previous)) .active) (some previous)
                (some previous) := fun files h =>
            h.put_active (h.storable previous (.inr rfl)) fun _ hprevious => by
              cases hprevious
              exact Nat.le_refl _
          have hshown' : shown ((some previous).or (some previous)) := hshown
          refine (meets_writeCredentialFile hput hshown hshown').bind fun _ => ?_
          refine (meets_fileStep hshown' fun files h => h.drop_backup).bind fun _ => ?_
          have hafter : shown ((some previous).or none) := hshown
          refine (meets_fileStep hafter fun _ h => h).bind fun _ => ?_
          exact meets_pure fun _ h => h
      | none =>
          refine (meets_quarantineIfPresent rfl hshown).bind fun _ => ?_
          refine (meets_quarantineIfPresent rfl hshown).bind fun _ => ?_
          exact meets_pure fun _ h => h

theorem meets_purge (hshown : shown (x.or y)) (hbackup : shown y) (hnone : shown none) :
    Meets (At x y) purge (fun _ => At none none) (Stops shown) := by
  have hbackup' : shown (Option.or none y) := hbackup
  have hnone' : shown (Option.or none none) := hnone
  refine (meets_fileStep hshown fun files h => h.drop_active).bind fun _ => ?_
  refine (meets_fileStep hbackup' fun files h => h.drop_backup).bind fun _ => ?_
  refine (meets_removeTemporary hnone').bind fun _ => ?_
  have hquarantine : Meets (At none none) removeQuarantine (fun _ => At none none) (Stops shown) :=
    meets_removeMatching (fun _ h => h.of_eq rfl rfl) hnone'
  refine hquarantine.bind fun _ => ?_
  exact meets_fileStep hnone' fun _ h => h

/-- What a commit makes of the record that it finds. -/
def committed (handle : String) (expectedGeneration : ℕ) (next : CredentialRecord)
    (current : Option CredentialRecord) : Except CredentialError CredentialRecord :=
  if next.handle ≠ handle then .error .handleMismatch
  else if next.generation ≠ expectedGeneration + 1 then .error .staleGeneration
  else if current.elim 0 (·.generation) ≠ expectedGeneration then .error .staleGeneration
  else .ok next

variable {handle : String} {expectedGeneration : ℕ} {next : CredentialRecord}

theorem commit_eq_map (records : CredentialRecords) :
    records.commit handle expectedGeneration next =
      (committed handle expectedGeneration next (records.get? handle)).map
        (records.set handle) := by
  rw [CredentialRecords.commit, committed]
  cases records.get? handle with
  | none =>
      rw [Option.elim_none, apply_ite (Except.map _), apply_ite (Except.map _),
        apply_ite (Except.map _)]
      simp only [ne_comm (a := 0)]
      rfl
  | some current =>
      rw [Option.elim_some, apply_ite (Except.map _), apply_ite (Except.map _),
        apply_ite (Except.map _)]
      rfl

/-- A commit returned where it has come through. -/
def Commits (attempt : Except CredentialError CredentialRecord) (s : StoreRun) : Prop :=
  ∃ next, attempt = .ok next ∧ At (some next) none s

/-- A commit stopped: it was interrupted, before or behind the change, or it was refused. -/
def Halts (attempt : Except CredentialError CredentialRecord) (x y : Option CredentialRecord)
    (stop : StoreStop) (s : StoreRun) : Prop :=
  Stops (fun record => record = x.or y ∨ ∃ next, attempt = .ok next ∧ record = some next) stop s ∨
    ∃ error, stop = .error error ∧ attempt = .error error ∧ At x y s

theorem meets_refusal {attempt : Except CredentialError CredentialRecord} {error : CredentialError}
    (h : attempt = .error error) :
    Meets (At x y) (throw (.error error) : StoreM Unit) (fun _ => Commits attempt)
      (Halts attempt x y) :=
  meets_throw fun _ hs => .inr ⟨error, rfl, h, hs⟩

/-- A commit that is not refused is there as a whole, or not at all. -/
theorem meets_commit (hnext : next.Storable) :
    Meets (At x y) (commit handle expectedGeneration next)
      (fun _ => Commits (committed handle expectedGeneration next (x.or y)))
      (Halts (committed handle expectedGeneration next (x.or y)) x y) := by
  have hcommitted : committed handle expectedGeneration next (x.or y) =
      if next.handle ≠ handle then .error .handleMismatch
      else if next.generation ≠ expectedGeneration + 1 then .error .staleGeneration
      else if (x.or y).elim 0 (·.generation) ≠ expectedGeneration then .error .staleGeneration
      else .ok next := rfl
  generalize committed handle expectedGeneration next (x.or y) = attempt at hcommitted ⊢
  refine Meets.ite (fun hhandle => meets_refusal (by rw [hcommitted, if_pos hhandle]))
    fun hhandle => ?_
  rw [if_neg hhandle] at hcommitted
  refine Meets.ite (fun hstale => meets_refusal (by rw [hcommitted, if_pos hstale]))
    fun hgeneration => ?_
  rw [if_neg hgeneration] at hcommitted
  -- the record that is found has the generation that is expected, or the commit is refused
  have hchecked {stale : Prop} [Decidable stale]
      (hstale : stale ↔ (x.or y).elim 0 (·.generation) ≠ expectedGeneration) :
      Meets (At x y) (if stale then throw (.error .staleGeneration) else replace next)
        (fun _ => Commits attempt) (Halts attempt x y) := by
    refine Meets.ite (fun h => meets_refusal (by rw [hcommitted, if_pos (hstale.1 h)])) fun h => ?_
    have hfound := mt hstale.2 h
    rw [if_neg hfound] at hcommitted
    refine (meets_replace hnext ?_ (.inl rfl) (.inr ⟨next, hcommitted, rfl⟩)).mono (fun _ => id)
      (fun _ _ h => ⟨next, hcommitted, h⟩) fun _ _ => .inl
    intro current hcurrent
    rw [hcurrent, Option.elim_some] at hfound
    omega
  refine Meets.bind ((meets_readActiveOrBackup (.inl rfl)).mono (fun _ => id) (fun _ _ => id)
    fun _ _ => .inl) fun record => meets_of_pre fun hrecord => ?_
  cases record with
  | none =>
      refine hchecked ?_
      rw [← hrecord]
      exact ne_comm
  | some current =>
      refine hchecked ?_
      rw [← hrecord]
      exact Iff.rfl

/-! ## Histories -/

/-- The files are read as these records. -/
def Shows (directory : CredentialDirectory) (records : CredentialRecords) : Prop :=
  ∀ handle, ∃ x y, Holds (directory handle) x y ∧ x.or y = records.get? handle

variable {directory : CredentialDirectory} {records records' : CredentialRecords}

/-- What an operation makes of the record that is read, and of no other. -/
theorem exists_onHandle (operation : StoreM α) (outcomes : List FileOutcome)
    (P : Option StoreStop → Option CredentialRecord → Prop) (h : Shows directory records)
    (hmeets : ∀ x y, x.or y = records.get? handle → Meets (At x y) operation
      (fun _ s => ∃ x' y', At x' y' s ∧ P none (x'.or y'))
      fun stop s => ∃ x' y', At x' y' s ∧ P (some stop) (x'.or y')) :
    ∃ record, P (onHandle handle operation outcomes directory).stop? record ∧
      ∀ records' : CredentialRecords, (∀ other, records'.get? other =
          if other = handle then record else records.get? other) →
        Shows (onHandle handle operation outcomes directory).directory records' := by
  obtain ⟨x, y, hholds, hshown⟩ := h handle
  have hupdate {files : CredentialFiles} {x' y' : Option CredentialRecord} (hfiles : Holds files x' y')
      (records' : CredentialRecords) (hrecords : ∀ other, records'.get? other =
        if other = handle then x'.or y' else records.get? other) :
      Shows (Function.update directory handle files) records' := by
    intro other
    rw [hrecords]
    by_cases hother : other = handle
    · rw [hother, Function.update_self, if_pos rfl]
      exact ⟨x', y', hfiles, rfl⟩
    · rw [Function.update_of_ne hother, if_neg hother]
      exact h other
  have hrun := hmeets x y hshown ⟨outcomes, directory handle⟩ hholds
  rw [onHandle]
  cases hoperation : operation ⟨outcomes, directory handle⟩ with
  | ok a s =>
      rw [hoperation] at hrun
      obtain ⟨x', y', hat, hp⟩ := hrun
      exact ⟨_, hp, hupdate hat⟩
  | error stop s =>
      rw [hoperation] at hrun
      obtain ⟨x', y', hat, hp⟩ := hrun
      exact ⟨_, hp, hupdate hat⟩

/-- Recovery is not seen. -/
theorem shows_recoverAll (handles : List String) (outcomes : List FileOutcome)
    (h : Shows directory records) :
    (∀ stop, (recoverAll handles outcomes directory).stop? = some stop → Interrupts stop) ∧
      Shows (recoverAll handles outcomes directory).directory records := by
  induction handles generalizing outcomes directory with
  | nil => exact ⟨fun _ hstop => absurd hstop (by rintro ⟨⟩), h⟩
  | cons handle handles ih =>
      obtain ⟨record, ⟨hrecord, hstop⟩, hshows⟩ := exists_onHandle recover outcomes
        (fun stop? record => record = records.get? handle ∧
          ∀ stop, stop? = some stop → Interrupts stop) h fun x y hshown => by
        have hrecover : Meets (At x y) recover (fun _ => At (x.or y) none)
            (Stops (· = records.get? handle)) := meets_recover hshown
        refine hrecover.mono (fun _ => id)
          (fun _ s hs => ⟨_, _, hs, Option.or_none.trans hshown, by rintro _ ⟨⟩⟩) ?_
        rintro stop s ⟨hstop, x', y', hat, heq⟩
        exact ⟨x', y', hat, heq, fun _ hsame => Option.some.inj hsame ▸ hstop⟩
      have hsame := hshows records fun other => by
        split
        · rename_i hother
          rw [hother, hrecord]
        · rfl
      rw [recoverAll]
      cases hanswer : (onHandle handle recover outcomes directory).stop? with
      | none => exact ih _ hsame
      | some stop => exact ⟨hstop, hsame⟩

/-- What a call does to the records that are read. -/
inductive Takes (records : CredentialRecords) :
    StoreCall → Option StoreStop → CredentialRecords → Prop
  | committed {handle : String} {expectedGeneration : ℕ} {next : CredentialRecord}
      {records' : CredentialRecords}
      (hcommit : records.commit handle expectedGeneration next = .ok records') :
      Takes records (.commit handle expectedGeneration next) none records'
  | refused {handle : String} {expectedGeneration : ℕ} {next : CredentialRecord}
      {error : CredentialError}
      (hcommit : records.commit handle expectedGeneration next = .error error) :
      Takes records (.commit handle expectedGeneration next) (some (.error error)) records
  | purged (handle : String) : Takes records (.purge handle) none (records.purge handle)
  | recovered (handles : List String) : Takes records (.recoverAll handles) none records
  /-- What is interrupted can have changed nothing. -/
  | kept {stop : StoreStop} (call : StoreCall) (hstop : Interrupts stop) :
      Takes records call (some stop) records
  /-- What is interrupted can be there as a whole. -/
  | changed {call : StoreCall} {stop : StoreStop} {records' : CredentialRecords}
      (hstop : Interrupts stop) (hcall : Takes records call none records') :
      Takes records call (some stop) records'
  /-- A purge that is interrupted between its files leaves what the backup holds. -/
  | uncovered {handle : String} {stop : StoreStop} {current previous : CredentialRecord}
      (hstop : Interrupts stop) (hcurrent : records.get? handle = some current)
      (hle : previous.generation ≤ current.generation) :
      Takes records (.purge handle) (some stop) (records.set handle previous)

/-- A call leaves this record to be read for a handle, and the others as they are. -/
def Leaves (records : CredentialRecords) (call : StoreCall) (handle : String)
    (stop? : Option StoreStop) (record : Option CredentialRecord) : Prop :=
  ∃ records' : CredentialRecords, Takes records call stop? records' ∧
    ∀ other, records'.get? other = if other = handle then record else records.get? other

section Leaves

variable {call : StoreCall} {stop? : Option StoreStop} {record : CredentialRecord}

theorem leaves_same (h : Takes records call stop? records) :
    Leaves records call handle stop? (records.get? handle) := by
  refine ⟨records, h, fun other => ?_⟩
  split
  · rename_i hother
    rw [hother]
  · rfl

theorem leaves_set (h : Takes records call stop? (records.set handle record)) :
    Leaves records call handle stop? (some record) := by
  refine ⟨_, h, fun other => ?_⟩
  rw [OrderedMap.get?_set]
  simp only [eq_comm]

theorem leaves_erase (h : Takes records call stop? (records.purge handle)) :
    Leaves records call handle stop? none := by
  refine ⟨_, h, fun other => ?_⟩
  rw [CredentialRecords.purge, OrderedMap.get?_erase]
  simp only [eq_comm]

end Leaves

/-- A commit, as it is read. -/
theorem exists_takes_commit {outcomes : List FileOutcome} (hnext : next.Storable)
    (h : Shows directory records) : ∃ records',
      Takes records (.commit handle expectedGeneration next)
        (onHandle handle (commit handle expectedGeneration next) outcomes directory).stop? records' ∧
      Shows (onHandle handle (commit handle expectedGeneration next) outcomes directory).directory
        records' := by
  obtain ⟨record, ⟨records', htakes, hrecords⟩, hshows⟩ := exists_onHandle
    (commit handle expectedGeneration next) outcomes
    (Leaves records (.commit handle expectedGeneration next) handle) h fun x y hshown => by
      have hok {next' : CredentialRecord}
          (hattempt : committed handle expectedGeneration next (x.or y) = .ok next') :
          Takes records (.commit handle expectedGeneration next) none (records.set handle next') := by
        refine .committed ?_
        rw [commit_eq_map, ← hshown, hattempt]
        rfl
      refine (meets_commit hnext).mono (fun _ => id) ?_ ?_
      · rintro _ s ⟨next', hattempt, hat⟩
        exact ⟨_, _, hat, leaves_set (hok hattempt)⟩
      · rintro stop s (⟨hstop, x', y', hat, hsame | ⟨next', hattempt, hnew⟩⟩ | ⟨error, rfl, hattempt, hat⟩)
        · refine ⟨x', y', hat, ?_⟩
          rw [hsame, hshown]
          exact leaves_same (.kept _ hstop)
        · refine ⟨x', y', hat, ?_⟩
          rw [hnew]
          exact leaves_set (.changed hstop (hok hattempt))
        · refine ⟨x, y, hat, ?_⟩
          rw [hshown]
          refine leaves_same (.refused ?_)
          rw [commit_eq_map, ← hshown, hattempt]
          rfl
  exact ⟨records', htakes, hshows records' hrecords⟩

/-- A purge, as it is read. -/
theorem exists_takes_purge {outcomes : List FileOutcome} (h : Shows directory records) :
    ∃ records', Takes records (.purge handle) (onHandle handle purge outcomes directory).stop? records' ∧
      Shows (onHandle handle purge outcomes directory).directory records' := by
  obtain ⟨record, ⟨records', htakes, hrecords⟩, hshows⟩ := exists_onHandle purge outcomes
    (Leaves records (.purge handle) handle) h fun x y hshown => by
      intro s hs
      have hleaves {stop : StoreStop} (hstop : Interrupts stop) :
          Leaves records (.purge handle) handle (some stop) y := by
        cases x with
        | none =>
            rw [Option.none_or] at hshown
            rw [hshown]
            exact leaves_same (.kept _ hstop)
        | some current =>
            cases y with
            | none => exact leaves_erase (.changed hstop (.purged handle))
            | some previous =>
                exact leaves_set (.uncovered hstop hshown.symm (hs.older current rfl previous rfl))
      have hpurge : Meets (At x y) purge (fun _ => At none none)
          (Stops fun record => record = x.or y ∨ record = y ∨ record = none) :=
        meets_purge (.inl rfl) (.inr (.inl rfl)) (.inr (.inr rfl))
      refine hpurge.mono (fun _ => id) ?_ ?_ s hs
      · exact fun _ s hat => ⟨none, none, hat, leaves_erase (.purged handle)⟩
      · rintro stop s ⟨hstop, x', y', hat, hsame | hbackup | hnone⟩
        all_goals refine ⟨x', y', hat, ?_⟩
        · rw [hsame, hshown]
          exact leaves_same (.kept _ hstop)
        · rw [hbackup]
          exact hleaves hstop
        · rw [hnone]
          exact leaves_erase (.changed hstop (.purged handle))
  exact ⟨records', htakes, hshows records' hrecords⟩

/-- The records that are committed are of the schema. -/
def StoreCall.Storable : StoreCall → Prop
  | .commit _ _ next => next.Storable
  | _ => True

theorem exists_takes_serve {event : StoreEvent} (hstorable : StoreCall.Storable event.call)
    (h : Shows directory records) :
    ∃ records', Takes records event.call (serve event directory).stop? records' ∧
      Shows (serve event directory).directory records' := by
  obtain ⟨call, outcomes⟩ := event
  cases call with
  | commit handle expectedGeneration next => exact exists_takes_commit hstorable h
  | purge handle => exact exists_takes_purge h
  | recoverAll handles =>
      obtain ⟨hstops, hshows⟩ := shows_recoverAll handles outcomes h
      refine ⟨records, ?_, hshows⟩
      show Takes records _ (recoverAll handles outcomes directory).stop? records
      cases hstop : (recoverAll handles outcomes directory).stop? with
      | none => exact .recovered handles
      | some stop => exact .kept _ (hstops stop hstop)

/-- What a call but a purge does to the generation of a handle. -/
theorem Takes.generation_le {call : StoreCall} {stop? : Option StoreStop}
    (h : Takes records call stop? records') (hcall : ∀ handle, call ≠ .purge handle) (handle : String) :
    records.generation handle ≤ records'.generation handle := by
  induction h with
  | committed hcommit =>
      obtain ⟨-, hnext, hexpected, rfl⟩ := CredentialRecords.commit_eq_ok hcommit
      rw [CredentialRecords.generation, CredentialRecords.generation, OrderedMap.get?_set]
      split
      · rename_i hsame
        rw [← hsame]
        rw [CredentialRecords.generation] at hexpected
        rw [hexpected, Option.elim_some]
        omega
      · exact Nat.le_refl _
  | refused | recovered | kept => exact Nat.le_refl _
  | changed _ _ ih => exact ih hcall
  | purged handle => exact absurd rfl (hcall handle)
  | @uncovered handle => exact absurd rfl (hcall handle)

/-- The directory after calls one after another, none of which overlaps with the next. -/
def afterEvents : CredentialDirectory → List StoreEvent → CredentialDirectory
  | directory, [] => directory
  | directory, event :: events => afterEvents (serve event directory).directory events

/-- What the calls do one after another to the records that are read. -/
inductive Explains : CredentialRecords → CredentialDirectory → List StoreEvent → CredentialRecords → Prop
  | nil (records : CredentialRecords) (directory : CredentialDirectory) :
      Explains records directory [] records
  | cons {records next last : CredentialRecords} {directory : CredentialDirectory}
      {event : StoreEvent} {events : List StoreEvent}
      (htakes : Takes records event.call (serve event directory).stop? next)
      (hrest : Explains next (serve event directory).directory events last) :
      Explains records directory (event :: events) last

/-- A record of the schema. -/
def exampleRecord (generation : ℕ) : CredentialRecord where
  provider := .codex
  handle := "cred-a"
  pseudonym := "a"
  generation
  expiresAt := none
  refreshFingerprint := String.ofList (List.replicate 64 'f')
  sourceFingerprint := none
  material := ⟨"access", "refresh", none⟩

end CredentialStore

end RlyGateway
