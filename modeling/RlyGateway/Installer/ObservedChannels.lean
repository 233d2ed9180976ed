import Mathlib.Algebra.Order.Floor.Ring
import Mathlib.Data.PNat.Basic
import Mathlib.Data.Rat.Floor
import RlyGateway.Core.Runtime

/-!
# Channel metadata and its marks

Channel metadata carries a version that only grows. An updater refuses metadata below the highest
version it has observed, metadata that is too old, and a frozen channel. The observed versions are
kept in a file of their own, in which a version never replaces a higher one of the same channel.
-/

namespace RlyGateway

/-- The release channels. -/
inductive ReleaseChannel where
  | beta
  | stable
deriving DecidableEq, Repr

/-- What is evaluated of signed channel metadata. -/
structure ChannelMetadata where
  channel : ReleaseChannel
  version : ℕ+
  updatedAt : String
  maxAgeDays : ℚ
  frozen : Bool
deriving DecidableEq, Repr

/-- The verdict on channel metadata. -/
structure ChannelMetadataEvaluation where
  errors : List String
  rollbackDetected : Bool
  stale : Bool
  frozen : Bool
  ageDays : Option ℚ
deriving DecidableEq, Repr

/-- Metadata that is evaluated without an error. -/
def ChannelMetadataEvaluation.ok (evaluation : ChannelMetadataEvaluation) : Bool :=
  evaluation.errors.isEmpty

/-- A number with one decimal. -/
def toFixed1 (q : ℚ) : String :=
  let tenths := ⌊q * 10 + 1 / 2⌋
  toString (tenths / 10) ++ "." ++ toString (tenths % 10)

/-- The verdict on channel metadata at a time, for the highest version observed before. -/
def evaluateChannelMetadata (runtime : NodeRuntime) (metadata : ChannelMetadata)
    (highestObservedVersion : ℕ) (now : String) : ChannelMetadataEvaluation :=
  let rollbackDetected := decide ((metadata.version : ℕ) < highestObservedVersion)
  let ageDays := (runtime.dateParse now).bind fun now =>
    (runtime.dateParse metadata.updatedAt).map fun updatedAt => ((now - updatedAt : ℤ) : ℚ) / 86400000
  let stale := ageDays.any fun days => decide (metadata.maxAgeDays < days)
  { errors :=
      (if rollbackDetected then
        ["rollback detected: metadata version " ++ toString (metadata.version : ℕ) ++
          " < highest observed " ++ toString highestObservedVersion ++
          "; refusing to trust an older channel snapshot"] else []) ++
      (match ageDays with
        | none => ["cannot compute channel metadata age: updatedAt invalid"]
        | some days =>
            if stale then
              ["channel metadata is stale: " ++ toFixed1 days ++ " days old > " ++
                Json.numberText metadata.maxAgeDays ++ " day window"] else []) ++
      (if metadata.frozen then
        ["channel is frozen; refusing to activate beyond the frozen snapshot"] else [])
    rollbackDetected
    stale
    frozen := metadata.frozen
    ageDays }

/-- Metadata that is evaluated without an error is not below the highest version observed. -/
theorem le_of_evaluateChannelMetadata_ok {runtime : NodeRuntime} {metadata : ChannelMetadata}
    {highestObservedVersion : ℕ} {now : String}
    (h : (evaluateChannelMetadata runtime metadata highestObservedVersion now).ok = true) :
    highestObservedVersion ≤ metadata.version := by
  by_contra hlt
  unfold evaluateChannelMetadata ChannelMetadataEvaluation.ok at h
  rw [Nat.not_le] at hlt
  simp [hlt] at h

/-! ## The marks -/

/-- The highest version observed of a channel. -/
structure ObservedChannel where
  highestVersion : ℕ+
  updatedAt : String
deriving DecidableEq, Repr

/-- The versions observed. -/
structure ObservedChannels where
  beta : Option ObservedChannel
  stable : Option ObservedChannel
deriving DecidableEq, Repr

namespace ObservedChannels

/-- What is observed of a channel. -/
def channel (observed : ObservedChannels) : ReleaseChannel → Option ObservedChannel
  | .beta => observed.beta
  | .stable => observed.stable

/-- One channel replaced. -/
def set (observed : ObservedChannels) (entry : ObservedChannel) : ReleaseChannel → ObservedChannels
  | .beta => { observed with beta := some entry }
  | .stable => { observed with stable := some entry }

/-- The highest version observed of a channel, zero where there is none. -/
def mark (observed : ObservedChannels) (channel : ReleaseChannel) : ℕ :=
  ((observed.channel channel).map fun entry => (entry.highestVersion : ℕ)).getD 0

theorem channel_set_self (observed : ObservedChannels) (entry : ObservedChannel)
    (channel : ReleaseChannel) : (observed.set entry channel).channel channel = some entry := by
  cases channel <;> rfl

theorem channel_set_of_ne (observed : ObservedChannels) (entry : ObservedChannel)
    {channel other : ReleaseChannel} (h : other ≠ channel) :
    (observed.set entry channel).channel other = observed.channel other := by
  cases channel <;> cases other <;> first | rfl | exact absurd rfl h

@[simp] theorem mark_set_self (observed : ObservedChannels) (entry : ObservedChannel)
    (channel : ReleaseChannel) :
    (observed.set entry channel).mark channel = entry.highestVersion := by
  rw [mark, channel_set_self]
  rfl

theorem mark_set_of_ne (observed : ObservedChannels) (entry : ObservedChannel)
    {channel other : ReleaseChannel} (h : other ≠ channel) :
    (observed.set entry channel).mark other = observed.mark other := by
  rw [mark, channel_set_of_ne observed entry h, mark]

end ObservedChannels

/-- The contents of the file of the marks. -/
inductive ObservedFile where
  | missing
  | malformed
  | valid (observed : ObservedChannels)
deriving DecidableEq, Repr

namespace AcquisitionStateStore

/-- The versions observed; a file that is missing or malformed has observed none. -/
def readObserved : ObservedFile → ObservedChannels
  | .missing | .malformed => ⟨none, none⟩
  | .valid observed => observed

/-- The highest version observed of a channel. -/
def highestObservedVersion (file : ObservedFile) (channel : ReleaseChannel) : ℕ :=
  (readObserved file).mark channel

@[simp] theorem highestObservedVersion_valid (observed : ObservedChannels)
    (channel : ReleaseChannel) :
    highestObservedVersion (.valid observed) channel = observed.mark channel := rfl

/-- What recording a version writes over the versions it read, unless the channel is there with that
version or a higher one. -/
def recordObserved (observed : ObservedChannels) (channel : ReleaseChannel) (metadataVersion : ℕ+)
    (now : String) : Option ObservedChannels :=
  if (observed.channel channel).any fun current =>
      decide (metadataVersion ≤ current.highestVersion) then none
  else some (observed.set ⟨metadataVersion, now⟩ channel)

/-- A version that is not written is already there, or a higher one. -/
theorem le_mark_of_recordObserved_eq_none {observed : ObservedChannels} {channel : ReleaseChannel}
    {metadataVersion : ℕ+} {now : String}
    (h : recordObserved observed channel metadataVersion now = none) :
    (metadataVersion : ℕ) ≤ observed.mark channel := by
  unfold recordObserved at h
  split at h
  · rename_i hany
    cases hcurrent : observed.channel channel with
    | none =>
        rw [hcurrent] at hany
        cases hany
    | some current =>
        rw [hcurrent] at hany
        rw [ObservedChannels.mark, hcurrent]
        exact of_decide_eq_true hany
  · cases h

theorem eq_set_of_recordObserved_eq_some {observed next : ObservedChannels}
    {channel : ReleaseChannel} {metadataVersion : ℕ+} {now : String}
    (h : recordObserved observed channel metadataVersion now = some next) :
    next = observed.set ⟨metadataVersion, now⟩ channel := by
  unfold recordObserved at h
  split at h
  · cases h
  · exact (Option.some.inj h).symm

/-- What is written lowers none of the marks that were read. -/
theorem mark_le_of_recordObserved_eq_some {observed next : ObservedChannels}
    {channel : ReleaseChannel} {metadataVersion : ℕ+} {now : String}
    (h : recordObserved observed channel metadataVersion now = some next) (other : ReleaseChannel) :
    observed.mark other ≤ next.mark other := by
  obtain rfl := eq_set_of_recordObserved_eq_some h
  by_cases hother : other = channel
  · subst hother
    rw [ObservedChannels.mark_set_self]
    unfold recordObserved at h
    split at h
    · cases h
    · rename_i hany
      rw [ObservedChannels.mark]
      cases hcurrent : observed.channel other with
      | none => exact Nat.zero_le _
      | some current =>
          rw [hcurrent, Option.any_some, decide_eq_true_eq, not_le] at hany
          exact le_of_lt hany
  · rw [ObservedChannels.mark_set_of_ne observed _ hother]

end AcquisitionStateStore

end RlyGateway
