import RlyGateway.Library.Runs
import RlyGateway.Installer.ObservedChannels

/-!
# Acquisitions

Any number of install and update commands acquire releases, each reading, evaluating and recording
in steps of its own, and each may stop between two steps. An update evaluates the metadata against
the mark it read; an install reads the mark only after it has accepted the metadata. Recording is a
reading of the file and, later, a writing of all of it.
-/

namespace RlyGateway

/-- The commands that acquire a release: an install from the network or from what the bootstrap
installer handed over, and an update. -/
inductive AcquisitionCommand where
  | install (handoff : Bool)
  | update
deriving DecidableEq, Repr

/-- How far an acquisition is. -/
inductive AcquisitionStage where
  | resolving (command : AcquisitionCommand) (channel : ReleaseChannel) (mark : ℕ)
  | accepted (command : AcquisitionCommand) (channel : ReleaseChannel) (version : ℕ+)
  | marked (channel : ReleaseChannel) (version target : ℕ+) (le : version ≤ target)
  | recording (channel : ReleaseChannel) (version target : ℕ+) (le : version ≤ target)
      (observed : ObservedChannels)
  | recorded
  | stopped
deriving DecidableEq, Repr

/-- The file of the marks, the acquisitions, and the versions accepted and recorded so far. -/
structure AcquisitionState where
  file : ObservedFile
  stage : ℕ → Option AcquisitionStage
  recorded : List (ReleaseChannel × ℕ+)

/-- The steps of the acquisitions. -/
inductive AcquisitionStep where
  | start (id : ℕ) (command : AcquisitionCommand) (channel : ReleaseChannel)
  | evaluate (id : ℕ) (metadata : ChannelMetadata) (now : String)
  | readMark (id : ℕ)
  | readObserved (id : ℕ)
  | writeObserved (id : ℕ) (now : String)
  | stop (id : ℕ)
deriving DecidableEq, Repr

open AcquisitionStateStore

/-- The mark an acquisition passes to the evaluation: an install passes none. -/
def AcquisitionCommand.mark (file : ObservedFile) (channel : ReleaseChannel) :
    AcquisitionCommand → ℕ
  | .install _ => 0
  | .update => highestObservedVersion file channel

/-- Whether metadata of another channel is refused. -/
def AcquisitionCommand.checksChannel : AcquisitionCommand → Bool
  | .install handoff => !handoff
  | .update => true

/-- What an install records: the higher of the mark it finds and the version it accepted. -/
def raisedMark (mark : ℕ) (version : ℕ+) : ℕ+ :=
  ⟨max mark version, lt_max_of_lt_right version.pos⟩

theorem le_raisedMark (mark : ℕ) (version : ℕ+) : version ≤ raisedMark mark version :=
  PNat.coe_le_coe _ _ |>.1 (le_max_right mark (version : ℕ))

namespace AcquisitionState

/-- An acquisition taken further. -/
def advance (s : AcquisitionState) (id : ℕ) (stage : AcquisitionStage) : AcquisitionState :=
  { s with stage := Function.update s.stage id (some stage) }

/-- A recording that is over. -/
def record (s : AcquisitionState) (id : ℕ) (channel : ReleaseChannel) (version : ℕ+)
    (file : ObservedFile) : AcquisitionState :=
  { s.advance id .recorded with file, recorded := (channel, version) :: s.recorded }

variable (runtime : NodeRuntime)

/-- Whether an acquisition accepts the metadata it is given. -/
def accepts (command : AcquisitionCommand) (channel : ReleaseChannel) (mark : ℕ)
    (metadata : ChannelMetadata) (now : String) : Bool :=
  decide (command.checksChannel = true → metadata.channel = channel) &&
    (evaluateChannelMetadata runtime metadata mark now).ok

/-- One step of one acquisition, if it is there to be taken. -/
def step (s : AcquisitionState) : AcquisitionStep → Option AcquisitionState
  | .start id command channel =>
      match s.stage id with
      | none => some (s.advance id (.resolving command channel (command.mark s.file channel)))
      | some _ => none
  | .evaluate id metadata now =>
      match s.stage id with
      | some (.resolving command channel mark) =>
          some (s.advance id
            (if accepts runtime command channel mark metadata now then
              .accepted command channel metadata.version else .stopped))
      | _ => none
  | .readMark id =>
      match s.stage id with
      | some (.accepted (.install _) channel version) =>
          some (s.advance id (.marked channel version
            (raisedMark (highestObservedVersion s.file channel) version) (le_raisedMark _ _)))
      | _ => none
  | .readObserved id =>
      match s.stage id with
      | some (.accepted .update channel version) =>
          some (s.advance id
            (.recording channel version version le_rfl (AcquisitionStateStore.readObserved s.file)))
      | some (.marked channel version target le) =>
          some (s.advance id
            (.recording channel version target le (AcquisitionStateStore.readObserved s.file)))
      | _ => none
  | .writeObserved id now =>
      match s.stage id with
      | some (.recording channel version target _ observed) =>
          match recordObserved observed channel target now with
          | none => some (s.record id channel version s.file)
          | some next => some (s.record id channel version (.valid next))
      | _ => none
  | .stop id =>
      match s.stage id with
      | some _ => some (s.advance id .stopped)
      | none => none

/-- What a step accepts: the channel and the version of its metadata. -/
def accepts? (s : AcquisitionState) : AcquisitionStep → Option (ReleaseChannel × ℕ+)
  | .evaluate id metadata now =>
      match s.stage id with
      | some (.resolving command channel mark) =>
          if accepts runtime command channel mark metadata now then some (channel, metadata.version)
          else none
      | _ => none
  | _ => none

/-- A step accepts no version below one of its channel that was accepted and recorded before. -/
def RefusesOlder (s : AcquisitionState) (step : AcquisitionStep) : Prop :=
  ∀ channel version, s.accepts? runtime step = some (channel, version) →
    ∀ earlier, (channel, earlier) ∈ s.recorded → earlier ≤ version

/-! ## Careful steps -/

/-- Metadata below the mark in the file is evaluated against that mark or a higher one, and what is
written lowers no mark of the file. -/
def Careful (s : AcquisitionState) : AcquisitionStep → Prop
  | .evaluate id metadata _ =>
      ∀ command channel mark, s.stage id = some (.resolving command channel mark) →
        (metadata.version : ℕ) < highestObservedVersion s.file channel →
        highestObservedVersion s.file channel ≤ mark
  | .writeObserved id now =>
      ∀ channel version target le observed next,
        s.stage id = some (.recording channel version target le observed) →
        recordObserved observed channel target now = some next →
        ∀ other, highestObservedVersion s.file other ≤ next.mark other
  | _ => True

/-- Every version that was recorded is below the mark of its channel, and so is every mark that was
read. -/
structure Sound (s : AcquisitionState) : Prop where
  recorded : ∀ channel version, (channel, version) ∈ s.recorded →
    (version : ℕ) ≤ highestObservedVersion s.file channel
  observed : ∀ id channel version target le observed,
    s.stage id = some (.recording channel version target le observed) →
    ∀ other, observed.mark other ≤ highestObservedVersion s.file other

variable {runtime} {s s' : AcquisitionState}

theorem advance_stage_self (id : ℕ) (stage : AcquisitionStage) :
    (s.advance id stage).stage id = some stage :=
  Function.update_self id _ _

theorem advance_stage_of_ne {id other : ℕ} (h : other ≠ id) (stage : AcquisitionStage) :
    (s.advance id stage).stage other = s.stage other :=
  Function.update_of_ne h _ _

/-- An acquisition that goes on to something else than a recording keeps the marks sound. -/
theorem Sound.advance (hsound : s.Sound) (id : ℕ) {stage : AcquisitionStage}
    (hstage : ∀ channel version target le observed,
      stage = .recording channel version target le observed →
      ∀ other, observed.mark other ≤ highestObservedVersion s.file other) :
    (s.advance id stage).Sound where
  recorded := hsound.recorded
  observed other channel version target le observed h := by
    by_cases hid : other = id
    · subst hid
      rw [advance_stage_self] at h
      exact hstage channel version target le observed (Option.some.inj h)
    · rw [advance_stage_of_ne hid] at h
      exact hsound.observed other channel version target le observed h

/-- A recording that lowers no mark, and after which the mark of its channel is not below its
version, keeps the marks sound. -/
theorem Sound.record (hsound : s.Sound) (id : ℕ) {channel : ReleaseChannel} {version : ℕ+}
    {file : ObservedFile}
    (hmarks : ∀ other, highestObservedVersion s.file other ≤ highestObservedVersion file other)
    (hversion : (version : ℕ) ≤ highestObservedVersion file channel) :
    (s.record id channel version file).Sound where
  recorded other earlier h := by
    rcases List.mem_cons.1 h with hnew | hold
    · cases hnew
      exact hversion
    · exact (hsound.recorded other earlier hold).trans (hmarks other)
  observed other channel' version' target le observed h := by
    by_cases hid : other = id
    · subst hid
      change (s.advance other .recorded).stage other = _ at h
      rw [advance_stage_self] at h
      cases h
    · change (s.advance id .recorded).stage other = _ at h
      rw [advance_stage_of_ne hid] at h
      exact fun c => (hsound.observed other channel' version' target le observed h c).trans (hmarks c)

/-- A careful step keeps the marks sound. -/
theorem Sound.step (hsound : s.Sound) {step : AcquisitionStep} (hcareful : s.Careful step)
    (h : s.step runtime step = some s') : s'.Sound := by
  cases step with
  | start id command channel =>
      simp only [AcquisitionState.step] at h
      split at h
      · cases h
        exact hsound.advance id (by rintro _ _ _ _ _ ⟨⟩)
      · cases h
  | evaluate id metadata now =>
      simp only [AcquisitionState.step] at h
      split at h
      · cases h
        refine hsound.advance id ?_
        intro _ _ _ _ _ hstage
        split at hstage
        · cases hstage
        · cases hstage
      · cases h
  | readMark id =>
      simp only [AcquisitionState.step] at h
      split at h
      · cases h
        exact hsound.advance id (by rintro _ _ _ _ _ ⟨⟩)
      · cases h
  | readObserved id =>
      simp only [AcquisitionState.step] at h
      split at h
      · cases h
        refine hsound.advance id ?_
        rintro _ _ _ _ _ ⟨⟩ other
        exact le_rfl
      · cases h
        refine hsound.advance id ?_
        rintro _ _ _ _ _ ⟨⟩ other
        exact le_rfl
      · cases h
  | writeObserved id now =>
      simp only [AcquisitionState.step] at h
      split at h
      · rename_i channel version target le observed hstage
        have hle : (version : ℕ) ≤ target := le
        split at h
        · rename_i hskip
          cases h
          refine hsound.record id (fun _ => le_rfl) (hle.trans ?_)
          exact (le_mark_of_recordObserved_eq_none hskip).trans
            (hsound.observed id channel version target le observed hstage channel)
        · rename_i next hnext
          cases h
          refine hsound.record id (hcareful channel version target le observed next hstage hnext) ?_
          obtain rfl := eq_set_of_recordObserved_eq_some hnext
          rw [highestObservedVersion_valid, ObservedChannels.mark_set_self]
          exact hle
      · cases h
  | stop id =>
      simp only [AcquisitionState.step] at h
      split at h
      · cases h
        exact hsound.advance id (by rintro _ _ _ _ _ ⟨⟩)
      · cases h

/-- Where the marks are sound, a careful evaluation accepts nothing below a recorded version. -/
theorem Sound.refusesOlder (hsound : s.Sound) {step : AcquisitionStep} (hcareful : s.Careful step) :
    s.RefusesOlder runtime step := by
  intro channel version h earlier hearlier
  cases step with
  | evaluate id metadata now =>
      simp only [accepts?] at h
      split at h
      · rename_i command channel' mark hstage
        split at h
        · rename_i haccepts
          cases h
          have hmark := le_of_evaluateChannelMetadata_ok (Bool.and_eq_true_iff.1 haccepts).2
          have hrecorded := hsound.recorded channel earlier hearlier
          have hknown := hcareful command channel mark hstage
          have hle : (earlier : ℕ) ≤ metadata.version := by omega
          exact hle
        · cases h
      · cases h
  | start _ _ _ => cases h
  | readMark _ => cases h
  | readObserved _ => cases h
  | writeObserved _ _ => cases h
  | stop _ => cases h

/-! ## Runs of acquisitions -/

/-- No acquisition has begun. -/
def fresh (file : ObservedFile) : AcquisitionState := ⟨file, fun _ => none, []⟩

theorem sound_fresh (file : ObservedFile) : (fresh file).Sound where
  recorded _ _ h := by cases h
  observed _ _ _ _ _ _ h := by cases h

/-- In a run of careful steps the marks stay sound. -/
theorem sound_of_run {file : ObservedFile} {steps : List AcquisitionStep}
    (hcareful : List.Along Careful (step runtime) (fresh file) steps)
    (h : List.run (step runtime) (fresh file) steps = some s) : s.Sound := by
  refine List.run_induction (motive := fun steps s =>
    List.Along Careful (step runtime) (fresh file) steps → s.Sound)
    (fun _ => sound_fresh file) ?_ h hcareful
  intro steps t step t' hrun ih hstep halong
  obtain ⟨hbefore, hlast⟩ := (List.along_concat hrun).1 halong
  exact (ih hbefore).step hlast hstep

/-! ## Updates one after the other -/

/-- The steps of an update that nothing comes between. -/
def updateSteps (id : ℕ) (metadata : ChannelMetadata) (now : String) : List AcquisitionStep :=
  [.start id .update metadata.channel, .evaluate id metadata now, .readObserved id,
    .writeObserved id now]

/-- An update that nothing comes between is careful. -/
theorem careful_updateSteps (s : AcquisitionState) (id : ℕ) (metadata : ChannelMetadata)
    (now : String) :
    List.Along Careful (step runtime) s (updateSteps id metadata now) := by
  refine List.along_cons.2 ⟨trivial, fun started hstarted => ?_⟩
  simp only [step] at hstarted
  split at hstarted
  swap
  · cases hstarted
  cases hstarted
  refine List.along_cons.2 ⟨?_, fun evaluated hevaluated => ?_⟩
  · intro command channel mark hstage hlt
    rw [advance_stage_self] at hstage
    cases hstage
    exact le_rfl
  simp only [step, advance_stage_self] at hevaluated
  cases hevaluated
  refine List.along_cons.2 ⟨trivial, fun observing hobserving => ?_⟩
  refine List.along_cons.2 ⟨?_, fun _ _ => List.along_nil _⟩
  have hfile : observing.file = s.file ∧ ∀ channel version target le observed,
      observing.stage id = some (.recording channel version target le observed) →
      observed = AcquisitionStateStore.readObserved s.file := by
    simp only [step, advance_stage_self] at hobserving
    split at hobserving
    · cases hobserving
      refine ⟨rfl, fun _ _ _ _ _ hstage => ?_⟩
      rw [advance_stage_self] at hstage
      cases hstage
      rfl
    · cases hobserving
      refine ⟨rfl, fun _ _ _ _ _ hstage => ?_⟩
      rw [advance_stage_self] at hstage
      cases hstage
      rfl
    · cases hobserving
  intro channel version target le observed next hstage hnext other
  obtain rfl := hfile.2 channel version target le observed hstage
  rw [hfile.1]
  exact mark_le_of_recordObserved_eq_some hnext other

/-! ## No rollback -/

/-- Metadata of the beta channel. -/
def betaMetadata (version : ℕ+) : ChannelMetadata :=
  ⟨.beta, version, "2026-01-01T00:00:00.000Z", 30, false⟩

end AcquisitionState

end RlyGateway
