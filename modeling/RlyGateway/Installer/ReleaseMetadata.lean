import RlyGateway.Installer.Acquire
import RlyGateway.Installer.ObservedChannels
import RlyGateway.Library.Doubles
import RlyGateway.Library.Latest
import Mathlib.Data.List.Sort

/-!
# Release metadata

`src/installer/types.ts`, `src/installer/metadata.ts` and the canonical text of
`src/installer/signing.ts`: the schemas of the signed channel metadata and of the release manifest,
and what is read off them.
-/

namespace RlyGateway

/-! ## Channels and targets -/

def ReleaseChannel.text : ReleaseChannel → String
  | .beta => "beta"
  | .stable => "stable"

/-- `RELEASE_CHANNELS`. -/
def releaseChannels : List String := ["beta", "stable"]

/-- `SUPPORTED_TARGETS`. -/
inductive SupportedTarget where
  | darwinArm64
  | darwinX64
  | linuxX64
  | linuxArm64
deriving DecidableEq, Repr

def SupportedTarget.text : SupportedTarget → String
  | .darwinArm64 => "darwin-arm64"
  | .darwinX64 => "darwin-x64"
  | .linuxX64 => "linux-x64"
  | .linuxArm64 => "linux-arm64"

/-- The number that a text of digits writes. -/
def decimalText? (text : List Char) : Option ℕ :=
  if text ≠ [] ∧ text.all Char.isDigit then some (Json.digitsValue text) else none

/-- The numbers of a release version. A version of the stable channel has no counter. -/
structure ReleaseParts where
  major : ℕ
  minor : ℕ
  patch : ℕ
  counter : ℕ
deriving DecidableEq, Repr

/-- What the patterns of release versions match: `1.0.0-beta.3` on the channel `beta`, and `1.0.0` on
the channel `stable`. -/
def releaseParts? (releaseVersion : String) (channel : ReleaseChannel) : Option ReleaseParts :=
  match channel, releaseVersion.toList.splitOn '.' with
  | .beta, [major, minor, patch, counter] => do
      let major ← decimalText? major
      let minor ← decimalText? minor
      match patch.splitOn '-' with
      | [patch, label] => do
          let patch ← decimalText? patch
          let counter ← if label = "beta".toList then decimalText? counter else none
          return ⟨major, minor, patch, counter⟩
      | _ => none
  | .stable, [major, minor, patch] => do
      let major ← decimalText? major
      let minor ← decimalText? minor
      let patch ← decimalText? patch
      return ⟨major, minor, patch, 0⟩
  | _, _ => none

/-- The counter that `Number` makes of the numbers of a version; none where one is out of bounds. The
bounded ones are exact. -/
def ReleaseParts.channelCounter (parts : ReleaseParts) : ReleaseChannel → Option (WithTop ℕ)
  | .beta => some (Double.ofNat parts.counter)
  | .stable =>
      if 999 < parts.major ∨ 999 < parts.minor ∨ 999 < parts.patch then none
      else some (parts.major * 1000000 + parts.minor * 1000 + parts.patch : ℕ)

/-- The monotonic counter of a release version on a channel; none where the version is not one of the
channel. -/
def channelVersionFor (releaseVersion : String) (channel : ReleaseChannel) : Option (WithTop ℕ) :=
  (releaseParts? releaseVersion channel).bind (·.channelCounter channel)

/-- The newest of the listed tags that names a version of the channel. -/
def selectChannelRelease (tags : List String) (channel : ReleaseChannel) : Option String :=
  (tags.map fun tag => if tag.toList.head? = some 'v' then String.ofList (tag.toList.drop 1) else tag).find?
    fun candidate => (channelVersionFor candidate channel).isSome

/-! ## Instants -/

def isLeapYear (year : ℕ) : Bool := (year % 4 = 0 ∧ year % 100 ≠ 0) ∨ year % 400 = 0

def daysInMonth (year month : ℕ) : ℕ :=
  if month = 2 then (if isLeapYear year then 29 else 28)
  else if month ∈ [4, 6, 9, 11] then 30
  else 31

/-- What `z.iso.datetime()` accepts: a date, a time of at least hours and minutes, and `Z`. -/
def isIsoDatetime (text : String) : Bool :=
  let chars := text.toList
  let separators := [4, 7, 10, 13].map fun i => chars[i]?
  let date : Option Bool := do
    let year ← digitsAt chars 0 4
    let month ← digitsAt chars 5 2
    let day ← digitsAt chars 8 2
    let hour ← digitsAt chars 11 2
    let minute ← digitsAt chars 14 2
    some (1 ≤ month ∧ month ≤ 12 ∧ 1 ≤ day ∧ day ≤ daysInMonth year month ∧ hour ≤ 23 ∧ minute ≤ 59)
  let rest := chars.drop 16
  let seconds : Bool := match rest with
    | ['Z'] => true
    | ':' :: a :: b :: rest =>
        a.isDigit && a ≤ '5' && b.isDigit && (match rest with
          | ['Z'] => true
          | '.' :: rest =>
              let fraction := rest.takeWhile Char.isDigit
              fraction ≠ [] ∧ rest.drop fraction.length = ['Z']
          | _ => false)
    | _ => false
  decide (separators = ['-', '-', 'T', ':'].map some) && date.getD false && seconds

/-! ## Channel metadata -/

structure ChannelArtifact where
  sha256 : String
  artifactDigest : String
deriving DecidableEq, Repr

structure ChannelSnapshot where
  releaseVersion : String
  artifacts : List (String × ChannelArtifact)
  qualificationStatus : String
  state : Option String
deriving DecidableEq, Repr

/-- Signed channel metadata, with its snapshots. -/
structure ChannelDocument extends ChannelMetadata where
  snapshots : List ChannelSnapshot
deriving DecidableEq, Repr

/-- The entry of a target. -/
def ChannelSnapshot.artifact? (snapshot : ChannelSnapshot) (target : String) :
    Option ChannelArtifact :=
  (snapshot.artifacts.find? (·.1 = target)).map (·.2)

def isoDatetime (value : Json) : Option String := value.str?.filter (isIsoDatetime ·)

def sha256Text (value : Json) : Option String := value.str?.filter (isSha256Hex ·)

def channelArtifactSchema (value : Json) : Option ChannelArtifact := do
  let value ← value.object
  let sha256 ← value.required "sha256" sha256Text
  let artifactDigest ← value.required "artifactDigest" sha256Text
  some { sha256, artifactDigest }

/-- A record of values that all match. The validator passes over `__proto__`. -/
def schemaRecord {α : Type} (read : Json → Option α) (value : Json) : Option (List (String × α)) :=
  value.obj?.bind fun fields =>
    (fields.filter (·.1 ≠ "__proto__")).mapM fun (name, field) => (read field).map (name, ·)

/-- The statuses of a qualification. -/
def qualificationStatuses : List String := ["qualified", "experimental-gaps", "not-qualified"]

def channelSnapshotSchema (value : Json) : Option ChannelSnapshot := do
  let value ← value.object
  let releaseVersion ← value.required "releaseVersion" Json.nonEmptyString
  let _ ← value.required "sourceCommit" Json.nonEmptyString
  let _ ← value.required "buildId" Json.nonEmptyString
  let _ ← value.required "publishedAt" isoDatetime
  let _ ← value.required "manifestRef" Json.nonEmptyString
  let artifacts ← value.required "artifacts" (schemaRecord channelArtifactSchema)
  let qualificationStatus ← value.required "qualification" fun value => do
    let value ← value.object
    let status ← value.required "status" (Json.oneOf qualificationStatuses)
    let _ ← value.optional "detail" Json.str?
    some status
  let state ← value.optional "state" Json.str?
  some { releaseVersion, artifacts, qualificationStatus, state }

def releaseChannelSchema (value : Json) : Option ReleaseChannel :=
  match value with
  | .str "beta" => some .beta
  | .str "stable" => some .stable
  | _ => none

def channelMetadataSchema (value : Json) : Option ChannelDocument := do
  let value ← value.object
  let _ ← value.required "channelSchemaVersion" fun value => value.num?.filter (· = 1)
  let channel ← value.required "channel" releaseChannelSchema
  let version ← value.required "version" Json.positiveInteger
  let updatedAt ← value.required "updatedAt" isoDatetime
  let maxAgeDays ← value.required "staleness" fun value => do
    let value ← value.object
    value.required "maxAgeDays" fun value => value.num?.filter (0 < ·)
  let frozen ← value.required "freeze" fun value => do
    let value ← value.object
    let frozen ← value.required "frozen" Json.bool?
    let _ ← value.optional "frozenAt" isoDatetime
    let _ ← value.optional "reason" Json.str?
    some frozen
  let snapshots ← value.required "snapshots" (Json.items channelSnapshotSchema)
  some { channel, version := version.num.toNat.toPNat', updatedAt, maxAgeDays, frozen, snapshots }

/-! ## Release manifest -/

structure ManifestArtifact extends ExpectedArtifact where
  target : String
  targetStatus : String
deriving DecidableEq, Repr

structure ReleaseManifest extends ManifestFields where
  artifacts : List ManifestArtifact
deriving DecidableEq, Repr

/-- A list of nonempty texts that is not empty. -/
def nonEmptyTexts (value : Json) : Option (List String) :=
  (Json.items Json.nonEmptyString value).filter (· ≠ [])

/-- An integer from 0 in the range of exact integers. -/
def naturalNumber (value : Json) : Option ℕ :=
  (value.num?.filter fun n => n.den = 1 ∧ 0 ≤ n ∧ n ≤ 9007199254740991).map fun n => n.num.toNat

def manifestArtifactSchema (value : Json) : Option ManifestArtifact := do
  let value ← value.object
  let target ← value.required "target" Json.nonEmptyString
  let filename ← value.required "filename" Json.nonEmptyString
  let sizeBytes ← value.required "sizeBytes" naturalNumber
  let sha256 ← value.required "sha256" sha256Text
  let artifactDigest ← value.required "artifactDigest" sha256Text
  let targetStatus ← value.required "targetStatus" (Json.oneOf ["supported", "experimental"])
  let _ ← value.required "requiredSignatures" nonEmptyTexts
  let _ ← value.required "attestations" nonEmptyTexts
  some { filename, sizeBytes, sha256, artifactDigest, target, targetStatus }

def releaseManifestSchema (value : Json) : Option ReleaseManifest := do
  let value ← value.object
  let _ ← value.required "manifestSchemaVersion" fun value => value.num?.filter (· = 1)
  let _ ← value.required "product" (Json.oneOf ["rly-gateway"])
  let releaseVersion ← value.required "releaseVersion" Json.nonEmptyString
  let releaseChannel ← value.required "releaseChannel" (Json.oneOf releaseChannels)
  let sourceCommit ← value.required "sourceCommit" Json.nonEmptyString
  let buildId ← value.required "buildId" Json.nonEmptyString
  let stateSchemaVersion ← value.required "stateSchemaVersion" Json.positiveInteger
  let controlProtocolVersion ← value.required "controlProtocolVersion" Json.positiveInteger
  let dataProtocolVersion ← value.required "dataProtocolVersion" Json.positiveInteger
  let _ ← value.required "publishedAt" isoDatetime
  let _ ← value.required "requiredSignatures" nonEmptyTexts
  let _ ← value.required "requiredAttestations" nonEmptyTexts
  let artifacts ← value.required "artifacts" fun value =>
    (Json.items manifestArtifactSchema value).filter (· ≠ [])
  some
    { releaseVersion, sourceCommit, buildId, releaseChannel, controlProtocolVersion,
      dataProtocolVersion, stateSchemaVersion, artifacts }

/-- The artifact of the manifest for a target, if the channel admits it. -/
def resolveTargetArtifact (manifest : ReleaseManifest) (channel : ReleaseChannel) (target : String)
    (channelQualificationStatus : String) : Except AcquisitionFailure ManifestArtifact :=
  match manifest.artifacts.find? (·.target = target) with
  | none => .error (.acquisition .targetUnsupported
      ("release " ++ manifest.releaseVersion ++ " has no artifact for target " ++ target ++
        "; available targets: " ++ ", ".intercalate (manifest.artifacts.map (·.target))))
  | some artifact =>
      if channel = .stable ∧ artifact.targetStatus ≠ "supported" then
        .error (.acquisition .targetUnsupported ("target " ++ target ++ " is " ++
          artifact.targetStatus ++
          " on the stable channel; stable requires a supported, qualified target"))
      else if channel = .stable ∧ channelQualificationStatus ≠ "qualified" then
        .error (.acquisition .targetNotQualified ("target " ++ target ++
          " is not stable-qualified (channel qualification: " ++ channelQualificationStatus ++
          "); stable requires exact-byte qualification on the published digest"))
      else if channelQualificationStatus = "not-qualified" then
        .error (.acquisition .targetNotQualified ("target " ++ target ++ " qualification is " ++
          channelQualificationStatus ++ " for channel " ++ channel.text ++
          "; refusing to install unqualified bytes"))
      else .ok artifact

/-! ## Signed documents -/

mutual

/-- `canonicalJsonStringify` of a JSON value: no white space, the fields by their names. -/
def canonicalJsonStringify : Json → String
  | .null => "null"
  | .bool b => if b then "true" else "false"
  | .num n => Json.numberText n
  | .str s => Json.quote s
  | .arr items => "[" ++ ",".intercalate (canonicalItems items) ++ "]"
  | .obj fields =>
      "\x7b" ++ ",".intercalate
        (((canonicalFields fields).insertionSort fun left right => textLt right.1 left.1 = false).map (·.2)) ++
        "\x7d"

def canonicalItems : List Json → List String
  | [] => []
  | item :: items => canonicalJsonStringify item :: canonicalItems items

/-- The fields, each under its name. -/
def canonicalFields : List (String × Json) → List (String × String)
  | [] => []
  | (name, value) :: fields =>
      (name, Json.quote name ++ ":" ++ canonicalJsonStringify value) :: canonicalFields fields

end

/-- Whether a signature of the canonical text of a value verifies against a public key. -/
def verifyJsonSignature {Bytes : Type} (platform : AcquisitionPlatform Bytes)
    (publicKeyPem : String) (value envelope : Json) : Except String Bool :=
  verifySignature platform publicKeyPem (canonicalJsonStringify value) envelope

end RlyGateway
