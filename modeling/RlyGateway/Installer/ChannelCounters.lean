import Mathlib.Order.Lattice.Nat
import RlyGateway.Installer.ReleaseMetadata

/-!
# Channel counters

`channelVersionFor` in `src/installer/metadata.ts` and in its mirror `scripts/release/channel.mjs`:
the counter of a release on its channel, by which an updater tells a rollback. The counter of the
beta channel is the number behind `beta` alone.
-/

namespace RlyGateway

/-! ## The publisher -/

/-- `channelVersionFor` of the publisher, which takes any text for a channel. -/
def publisherChannelVersionFor (releaseVersion channel : String) : Option (WithTop ℕ) :=
  if channel = "beta" then (releaseParts? releaseVersion .beta).bind (·.channelCounter .beta)
  else if channel = "stable" then
    (releaseParts? releaseVersion .stable).bind (·.channelCounter .stable)
  else none

/-- The version of `buildChannelMetadata`, where that does not throw. -/
def buildChannelVersion (releaseVersion channel : String) (previousHighestVersion : ℕ) :
    Option (WithTop ℕ) :=
  if channel ∈ releaseChannels then
    (publisherChannelVersionFor releaseVersion channel).map fun releaseCounter =>
      max ((previousHighestVersion + 1 : ℕ) : WithTop ℕ) releaseCounter
  else none

/-- The version that is published without a highest version from before: `validateChannelMetadata`
wants a positive integer. -/
def publishedVersion (releaseVersion channel : String) : Option ℕ+ :=
  (buildChannelVersion releaseVersion channel 0).bind fun version =>
    version.recTopCoe none fun n => if h : 0 < n then some ⟨n, h⟩ else none

theorem publisherChannelVersionFor_text (releaseVersion : String) (channel : ReleaseChannel) :
    publisherChannelVersionFor releaseVersion channel.text =
      channelVersionFor releaseVersion channel := by
  cases channel <;> rfl

/-- A finite counter is published as it is, or as 1 where it is 0. -/
theorem publishedVersion_of_coe {releaseVersion : String} {channel : ReleaseChannel} {n : ℕ}
    (h : channelVersionFor releaseVersion channel = some (n : WithTop ℕ)) :
    ∃ version : ℕ+, publishedVersion releaseVersion channel.text = some version ∧
      (version : ℕ) = max 1 n := by
  have hchannel : channel.text ∈ releaseChannels := by cases channel <;> decide
  refine ⟨⟨max 1 n, by omega⟩, ?_, rfl⟩
  unfold publishedVersion buildChannelVersion
  rw [if_pos hchannel, publisherChannelVersionFor_text, h]
  show (if h : 0 < max 1 n then some (⟨max 1 n, h⟩ : ℕ+) else none) = _
  exact dif_pos _

/-- What is published is finite. -/
theorem exists_coe_of_publishedVersion {releaseVersion : String} {channel : ReleaseChannel}
    {version : ℕ+} (h : publishedVersion releaseVersion channel.text = some version) :
    ∃ n : ℕ, channelVersionFor releaseVersion channel = some (n : WithTop ℕ) := by
  unfold publishedVersion buildChannelVersion at h
  obtain ⟨built, hbuilt, hfinite⟩ := Option.bind_eq_some_iff.1 h
  split at hbuilt
  · rw [publisherChannelVersionFor_text] at hbuilt
    obtain ⟨counter, hcounter, rfl⟩ := Option.map_eq_some_iff.1 hbuilt
    cases counter with
    | top =>
        rw [max_eq_right le_top] at hfinite
        cases hfinite
    | coe n => exact ⟨n, hcounter⟩
  · cases hbuilt

/-! ## Order of versions -/

/-- The precedence of versions of one channel: major, minor and patch, then the counter. -/
def ReleaseParts.Precedes (parts later : ReleaseParts) : Prop :=
  parts.major < later.major ∨ parts.major = later.major ∧
    (parts.minor < later.minor ∨ parts.minor = later.minor ∧
      (parts.patch < later.patch ∨ parts.patch = later.patch ∧ parts.counter < later.counter))

/-- Both texts are versions of the channel, and the first one precedes the second. -/
def ReleasePrecedes (channel : ReleaseChannel) (releaseVersion laterVersion : String) : Prop :=
  channelVersionFor releaseVersion channel ≠ none ∧ channelVersionFor laterVersion channel ≠ none ∧
    ∃ parts later, releaseParts? releaseVersion channel = some parts ∧
      releaseParts? laterVersion channel = some later ∧ parts.Precedes later

/-- Both copies give the same counter for every text. For a version that precedes another one it is
less, and the later one is published with a version that an updater which has observed the earlier
one does not refuse as a rollback. -/
structure CountersFollowOrder (channel : ReleaseChannel) (releaseVersion laterVersion : String) :
    Prop where
  agrees : ∀ text, publisherChannelVersionFor text channel.text = channelVersionFor text channel
  increases : ReleasePrecedes channel releaseVersion laterVersion →
    ∃ counter later, channelVersionFor releaseVersion channel = some counter ∧
      channelVersionFor laterVersion channel = some later ∧ counter < later
  published : ReleasePrecedes channel releaseVersion laterVersion →
    ∃ version, publishedVersion laterVersion channel.text = some version ∧
      ∀ observed, publishedVersion releaseVersion channel.text = some observed →
        ∀ (runtime : NodeRuntime) (metadata : ChannelMetadata) (now : String),
          metadata.version = version →
            (evaluateChannelMetadata runtime metadata observed now).rollbackDetected = false

/-- On the beta channel, the number behind `beta` grows with the version, to a finite double that is
not the one of the earlier number. -/
def BetaNumbersGrow (channel : ReleaseChannel) (releaseVersion laterVersion : String) : Prop :=
  channel = .beta → ∀ parts later, releaseParts? releaseVersion .beta = some parts →
    releaseParts? laterVersion .beta = some later → parts.Precedes later →
      parts.counter < later.counter ∧ Double.ofNat parts.counter ≠ Double.ofNat later.counter ∧
        Double.ofNat later.counter ≠ ⊤

/-! ## Counters -/

theorem channelVersionFor_beta {releaseVersion : String} {parts : ReleaseParts}
    (h : releaseParts? releaseVersion .beta = some parts) :
    channelVersionFor releaseVersion .beta = some (Double.ofNat parts.counter) := by
  rw [channelVersionFor, h]
  rfl

/-- The numbers of a stable version are bounded, and make up its counter. -/
theorem channelVersionFor_stable {releaseVersion : String} {parts : ReleaseParts}
    (h : releaseParts? releaseVersion .stable = some parts)
    (hvalid : channelVersionFor releaseVersion .stable ≠ none) :
    (parts.major ≤ 999 ∧ parts.minor ≤ 999 ∧ parts.patch ≤ 999 ∧ parts.counter = 0) ∧
      channelVersionFor releaseVersion .stable =
        some ((parts.major * 1000000 + parts.minor * 1000 + parts.patch : ℕ) : WithTop ℕ) := by
  have hcounter : parts.counter = 0 := by
    unfold releaseParts? at h
    split at h
    · rename_i hchannel _
      cases hchannel
    · obtain ⟨major, -, h⟩ := Option.bind_eq_some_iff.1 h
      obtain ⟨minor, -, h⟩ := Option.bind_eq_some_iff.1 h
      obtain ⟨patch, -, h⟩ := Option.bind_eq_some_iff.1 h
      cases h
      rfl
    · cases h
  rw [channelVersionFor, h] at hvalid ⊢
  show _ ∧ (if 999 < parts.major ∨ 999 < parts.minor ∨ 999 < parts.patch then none else _) = _
  by_cases hbound : 999 < parts.major ∨ 999 < parts.minor ∨ 999 < parts.patch
  · exact absurd (if_pos hbound) hvalid
  · rw [if_neg hbound]
    refine ⟨⟨?_, ?_, ?_, hcounter⟩, rfl⟩ <;> omega

/-- The counters of stable versions are in the order of the versions. -/
theorem increases_stable {releaseVersion laterVersion : String}
    (h : ReleasePrecedes .stable releaseVersion laterVersion) :
    ∃ counter later : ℕ, channelVersionFor releaseVersion .stable = some (counter : WithTop ℕ) ∧
      channelVersionFor laterVersion .stable = some (later : WithTop ℕ) ∧ counter < later := by
  obtain ⟨hvalid, hvalid', parts, later, hparts, hlater, hprecedes⟩ := h
  obtain ⟨hbounds, hcounter⟩ := channelVersionFor_stable hparts hvalid
  obtain ⟨hbounds', hcounter'⟩ := channelVersionFor_stable hlater hvalid'
  refine ⟨_, _, hcounter, hcounter', ?_⟩
  unfold ReleaseParts.Precedes at hprecedes
  omega

/-- With finite counters in order, the later version is not refused. -/
theorem published_of_lt {channel : ReleaseChannel} {releaseVersion laterVersion : String}
    {counter later : ℕ}
    (hcounter : channelVersionFor releaseVersion channel = some (counter : WithTop ℕ))
    (hlater : channelVersionFor laterVersion channel = some (later : WithTop ℕ))
    (hlt : counter < later) :
    ∃ version, publishedVersion laterVersion channel.text = some version ∧
      ∀ observed, publishedVersion releaseVersion channel.text = some observed →
        ∀ (runtime : NodeRuntime) (metadata : ChannelMetadata) (now : String),
          metadata.version = version →
            (evaluateChannelMetadata runtime metadata observed now).rollbackDetected = false := by
  obtain ⟨version, hversion, hmax⟩ := publishedVersion_of_coe hlater
  obtain ⟨own, hown, hmax'⟩ := publishedVersion_of_coe hcounter
  refine ⟨version, hversion, ?_⟩
  rintro observed hobserved runtime metadata now rfl
  rw [hown] at hobserved
  cases hobserved
  refine decide_eq_false ?_
  rw [not_lt, hmax', hmax]
  omega

/-! ## The condition -/

/-- The counters follow the order of two versions exactly where, on the beta channel, the numbers
behind `beta` do. -/
theorem countersFollowOrder_iff {channel : ReleaseChannel} {releaseVersion laterVersion : String} :
    CountersFollowOrder channel releaseVersion laterVersion ↔
      BetaNumbersGrow channel releaseVersion laterVersion := by
  constructor
  · rintro h rfl parts later hparts hlater hprecedes
    have hcounter := channelVersionFor_beta hparts
    have hcounter' := channelVersionFor_beta hlater
    have hversions : ReleasePrecedes .beta releaseVersion laterVersion := by
      refine ⟨?_, ?_, parts, later, hparts, hlater, hprecedes⟩
      · rw [hcounter]
        exact Option.some_ne_none _
      · rw [hcounter']
        exact Option.some_ne_none _
    obtain ⟨first, second, hfirst, hsecond, hlt⟩ := h.increases hversions
    obtain rfl := Option.some.inj (hcounter.symm.trans hfirst)
    obtain rfl := Option.some.inj (hcounter'.symm.trans hsecond)
    obtain ⟨hgrows, hne⟩ := Double.ofNat_lt_iff.1 hlt
    obtain ⟨version, hversion, -⟩ := h.published hversions
    obtain ⟨n, hfinite⟩ := exists_coe_of_publishedVersion hversion
    rw [hcounter'] at hfinite
    refine ⟨hgrows, hne, ?_⟩
    rw [Option.some.inj hfinite]
    exact WithTop.coe_ne_top
  · intro h
    have hcounters : ReleasePrecedes channel releaseVersion laterVersion →
        ∃ counter later : ℕ, channelVersionFor releaseVersion channel = some (counter : WithTop ℕ) ∧
          channelVersionFor laterVersion channel = some (later : WithTop ℕ) ∧ counter < later := by
      intro hversions
      cases channel with
      | stable => exact increases_stable hversions
      | beta =>
          obtain ⟨-, -, parts, later, hparts, hlater, hprecedes⟩ := hversions
          obtain ⟨hgrows, hne, hfinite⟩ := h rfl parts later hparts hlater hprecedes
          have hlt := Double.ofNat_lt_iff.2 ⟨hgrows, hne⟩
          obtain ⟨second, hsecond⟩ := WithTop.ne_top_iff_exists.1 hfinite
          obtain ⟨first, hfirst⟩ := WithTop.ne_top_iff_exists.1 (hlt.trans_le le_top).ne
          rw [← hfirst, ← hsecond, WithTop.coe_lt_coe] at hlt
          refine ⟨first, second, ?_, ?_, hlt⟩
          · rw [channelVersionFor_beta hparts]
            exact congrArg some hfirst.symm
          · rw [channelVersionFor_beta hlater]
            exact congrArg some hsecond.symm
    refine ⟨fun text => publisherChannelVersionFor_text text channel, ?_, ?_⟩
    · intro hversions
      obtain ⟨counter, later, hcounter, hlater, hlt⟩ := hcounters hversions
      exact ⟨_, _, hcounter, hlater, WithTop.coe_lt_coe.2 hlt⟩
    · intro hversions
      obtain ⟨counter, later, hcounter, hlater, hlt⟩ := hcounters hversions
      exact published_of_lt hcounter hlater hlt

/-- The first beta of a version after the fifth of the one before has a lower counter. -/
theorem not_countersFollowOrder_beta :
    ¬ ∀ (channel : ReleaseChannel) (releaseVersion laterVersion : String),
      CountersFollowOrder channel releaseVersion laterVersion := by
  intro h
  have hparts : releaseParts? "1.0.0-beta.5" .beta = some ⟨1, 0, 0, 5⟩ := by decide
  have hlater : releaseParts? "1.1.0-beta.1" .beta = some ⟨1, 1, 0, 1⟩ := by decide
  have hcounter := channelVersionFor_beta hparts
  have hcounter' := channelVersionFor_beta hlater
  have hversions : ReleasePrecedes .beta "1.0.0-beta.5" "1.1.0-beta.1" := by
    refine ⟨?_, ?_, _, _, hparts, hlater, .inr ⟨rfl, .inl (by decide)⟩⟩
    · rw [hcounter]
      exact Option.some_ne_none _
    · rw [hcounter']
      exact Option.some_ne_none _
  obtain ⟨first, second, hfirst, hsecond, hlt⟩ := (h _ _ _).increases hversions
  obtain rfl := Option.some.inj (hcounter.symm.trans hfirst)
  obtain rfl := Option.some.inj (hcounter'.symm.trans hsecond)
  exact absurd (Double.ofNat_lt_iff.1 hlt).1 (by decide)

end RlyGateway
