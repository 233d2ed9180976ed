import RlyGateway.Installer.ReleaseMetadata

/-!
# Remote and local acquisition

`acquireVerifiedCandidate` and `verifyLocalAcquisition` of `src/installer/acquire.ts`: the chain from
the signed channel metadata over the release manifest to the artifact, once over downloads of a
release and once over files that have been downloaded before.
-/

namespace RlyGateway

variable {Bytes : Type}

/-- Sizes of files, and the engine's own words for a text that is not JSON. -/
structure DownloadPlatform (Bytes : Type) extends AcquisitionPlatform Bytes where
  byteLength : Bytes → ℕ
  syntaxError : Bytes → String

/-- The files of a release: its metadata, its artifact and their signatures, where they are there. -/
structure ReleaseFiles (Bytes : Type) where
  channel : Option Bytes
  channelSignature : Option Bytes
  manifest : Option Bytes
  manifestSignature : Option Bytes
  tarball : Option Bytes
  tarballSignature : Option Bytes

/-- What both acquisitions are asked for. -/
structure AcquisitionRequest where
  channel : ReleaseChannel
  target : SupportedTarget
  publicKeyPem : String
  now : String
  highestObservedVersion : ℕ
deriving DecidableEq, Repr

/-- The verified, immutable handoff of an acquisition. -/
structure VerifiedCandidate where
  version : String
  channel : ReleaseChannel
  target : SupportedTarget
  filename : String
  sha256 : String
  artifactDigest : String
  buildId : String
  commitRevision : String
  controlProtocolVersion : ℚ
  dataProtocolVersion : ℚ
  stateVersion : ℚ
  qualificationStatus : String
  sourceDirectory : String
  metadataVersion : ℕ+
deriving DecidableEq, Repr

variable (runtime : NodeRuntime) (platform : DownloadPlatform Bytes) (request : AcquisitionRequest)
  (files : ReleaseFiles Bytes)

/-- `rly-channel-<channel>.json`. -/
def channelMetadataFilename (channel : ReleaseChannel) : String :=
  "rly-channel-" ++ channel.text ++ ".json"

/-- The verdict on channel metadata, as an error where it is a refusal. -/
def checkEvaluation (metadata : ChannelDocument) : Except AcquisitionFailure Unit :=
  let evaluation := evaluateChannelMetadata runtime metadata.toChannelMetadata
    request.highestObservedVersion request.now
  if evaluation.ok then .ok ()
  else .error (.acquisition
    (if evaluation.rollbackDetected then .channelRollbackDetected
      else if evaluation.stale then .channelStale else .channelFrozen)
    ("channel metadata evaluation failed: " ++ "; ".intercalate evaluation.errors))

/-- The channel snapshot and the manifest must agree on the exact bytes. -/
def checkSameBytes (channelArtifact : ChannelArtifact) (artifact : ManifestArtifact) :
    Except AcquisitionFailure Unit :=
  if channelArtifact.sha256 ≠ artifact.sha256 ∨
      channelArtifact.artifactDigest ≠ artifact.artifactDigest then
    .error (.acquisition .manifestIdentityMismatch
      ("channel metadata and release manifest disagree on " ++ request.target.text ++
        " bytes; refusing"))
  else .ok ()

/-- The entry of the target in a snapshot. -/
def snapshotArtifact (snapshot : ChannelSnapshot) : Except AcquisitionFailure ChannelArtifact :=
  match snapshot.artifact? request.target.text with
  | some entry => .ok entry
  | none => .error (.acquisition .targetUnsupported
      ("channel snapshot has no artifact entry for target " ++ request.target.text))

/-- The candidate of a verified artifact. -/
def candidateOf (version : String) (snapshot : ChannelSnapshot) (metadata : ChannelDocument)
    (artifact : ManifestArtifact) (verified : VerifiedArtifact Bytes) (sourceDirectory : String) :
    VerifiedCandidate where
  version := version
  channel := request.channel
  target := request.target
  filename := artifact.filename
  sha256 := verified.sha256
  artifactDigest := verified.artifactDigest
  buildId := verified.buildMeta.buildId
  commitRevision := verified.buildMeta.commitRevision
  controlProtocolVersion := verified.buildMeta.controlProtocolVersion
  dataProtocolVersion := verified.buildMeta.dataProtocolVersion
  stateVersion := verified.buildMeta.stateSchemaVersion
  qualificationStatus := snapshot.qualificationStatus
  sourceDirectory := sourceDirectory
  metadataVersion := metadata.version

/-- The name of the directory that an artifact is unpacked to. -/
def unpackedName (filename : String) : String :=
  let name := (filename.toList.splitOn '/').getLastD []
  String.ofList (if ".tar.gz".toList.isSuffixOf name ∧ name ≠ ".tar.gz".toList then
    name.take (name.length - 7) else name) ++ ".unpacked"

/-! ## Remote -/

/-- `https://github.com/trungtaottn/RLY-Gateway` and the like: where a release file is. -/
def releaseAssetUrl (origin releaseVersion filename : String) : String :=
  String.ofList (origin.toList.reverse.dropWhile (· = '/')).reverse ++ "/releases/download/v" ++
    releaseVersion ++ "/" ++ filename

/-- A download within a bound, or the message of the failure. -/
def downloadWithin (url : String) (file : Option Bytes) (maxBytes : ℕ) : Except String Bytes :=
  match file with
  | none => .error ("download failed with HTTP 404 for " ++ url)
  | some bytes =>
      if maxBytes < platform.byteLength bytes then
        .error ("download " ++ url ++ " exceeds the " ++ toString maxBytes ++ " byte bound")
      else .ok bytes

/-- A download that has to succeed. -/
def downloadBytes (url : String) (file : Option Bytes) (maxBytes : ℕ) :
    Except AcquisitionFailure Bytes :=
  (downloadWithin platform url file maxBytes).mapError (.acquisition .network)

def parseRawJson (bytes : Bytes) (what : String) : Except AcquisitionFailure Json :=
  match Json.parse (platform.decode bytes) with
  | none => .error (.acquisition .network (what ++ " is not valid JSON"))
  | some value => .ok value

/-- A signed JSON release file, read after its signature has been verified. -/
def fetchSignedJsonAsset {α : Type} (url : String) (body signature : Option Bytes)
    (name : String) (schema : Json → Option α) (what : String) : Except AcquisitionFailure α := do
  let bodyBytes ← downloadBytes platform url body 1000000
  let sigBytes ← downloadBytes platform (url ++ ".sig") signature 16384
  let raw ← parseRawJson platform bodyBytes what
  let signatureVerified : Except String Bool := match Json.parse (platform.decode sigBytes) with
    | none => .error (platform.syntaxError sigBytes)
    | some envelope =>
        verifyJsonSignature platform.toAcquisitionPlatform request.publicKeyPem raw envelope
  match signatureVerified with
  | .error message => .error (.acquisition .channelSignatureInvalid
      (what ++ " signature verification failed: " ++ message))
  | .ok false => .error (.acquisition .channelSignatureInvalid
      (what ++ " signature does not verify against the release public key"))
  | .ok true =>
      match schema raw with
      | none => .error (.acquisition .channelMetadataInvalid
          (what ++ " failed validation: " ++ platform.issues name raw))
      | some value => .ok value

/-- What a remote acquisition is asked for besides. -/
structure RemoteOptions where
  origin : String
  /-- The pinned version; the newest one of the channel where it is absent. -/
  version : Option String
  stagingDirectory : String
  /-- The tags of the published releases, newest first. -/
  releases : Except AcquisitionFailure (List String)

/-- The version that is resolved: the pinned one, or the newest of the channel. -/
def selectReleaseVersion (options : RemoteOptions) : Except AcquisitionFailure String :=
  match options.version with
  | some version => .ok version
  | none => do
      let tags ← options.releases
      match selectChannelRelease tags request.channel with
      | some version => .ok version
      | none => .error (.acquisition .channelUnknownVersion
          ("no " ++ request.channel.text ++ " release found on " ++ options.origin))

/-- The channel metadata of a release that is not refused, and the version it was resolved for. -/
def resolveChannelMetadata (options : RemoteOptions) :
    Except AcquisitionFailure (ChannelDocument × String) := do
  let releaseVersion ← selectReleaseVersion request options
  let filename := channelMetadataFilename request.channel
  let metadata ← fetchSignedJsonAsset platform request
    (releaseAssetUrl options.origin releaseVersion filename) files.channel files.channelSignature
    "channelMetadata" channelMetadataSchema ("channel metadata " ++ filename)
  if metadata.channel ≠ request.channel then
    .error (.acquisition .channelMetadataInvalid ("channel metadata declares channel " ++
      metadata.channel.text ++ ", not " ++ request.channel.text))
  else if (metadata.snapshots.find? (·.releaseVersion = releaseVersion)).isNone then
    .error (.acquisition .channelUnknownVersion ("channel metadata " ++ filename ++
      " has no snapshot for release " ++ releaseVersion ++
      "; refusing an unknown release identity"))
  else do
    let _ ← checkEvaluation runtime request metadata
    pure (metadata, releaseVersion)

/-- The release manifest of a version. -/
def resolveReleaseManifest (origin releaseVersion : String) :
    Except AcquisitionFailure ReleaseManifest := do
  let manifest ← fetchSignedJsonAsset platform request
    (releaseAssetUrl origin releaseVersion "rly-release.json") files.manifest files.manifestSignature
    "releaseManifest" releaseManifestSchema "release manifest rly-release.json"
  if manifest.releaseVersion ≠ releaseVersion then
    .error (.acquisition .manifestIdentityMismatch ("release manifest version " ++
      manifest.releaseVersion ++ " does not match the channel snapshot " ++ releaseVersion))
  else if manifest.releaseChannel ≠ request.channel.text then
    .error (.acquisition .manifestIdentityMismatch ("release manifest channel " ++
      manifest.releaseChannel ++ " does not match " ++ request.channel.text))
  else pure manifest

/-- The artifact downloaded into the staging directory, verified and unpacked beside it. -/
def verifyAndUnpackArtifact (url stagingDirectory : String) (artifact : ManifestArtifact)
    (manifest : ReleaseManifest) : Except AcquisitionFailure (VerifiedArtifact Bytes) := do
  let tarballBytes ← downloadBytes platform url files.tarball (256 * 1024 * 1024)
  let signatureBytes ←
    (downloadWithin platform (url ++ ".sig") files.tarballSignature 16384).mapError fun message =>
      .acquisition .artifactSignatureMissing ("artifact signature " ++ artifact.filename ++
        ".sig is unavailable: " ++ message)
  verifyUnpackedArtifact runtime platform.toAcquisitionPlatform
    { tarballPath := stagingDirectory ++ "/" ++ artifact.filename
      tarball := .ok tarballBytes
      tarballSize := some (platform.byteLength tarballBytes)
      unpackedDirectory := stagingDirectory ++ "/" ++ unpackedName artifact.filename
      publicKeyPem := request.publicKeyPem
      expected := artifact.toExpectedArtifact
      manifest := manifest.toManifestFields
      signatureBytes := some signatureBytes
      signatureFile := .ok signatureBytes }

/-- Full verified remote acquisition. -/
def acquireVerifiedCandidate (options : RemoteOptions) :
    Except AcquisitionFailure VerifiedCandidate := do
  let (metadata, releaseVersion) ← resolveChannelMetadata runtime platform request files options
  match metadata.snapshots.find? (·.releaseVersion = releaseVersion) with
  | none => .error (.acquisition .channelUnknownVersion
      ("channel snapshot for " ++ releaseVersion ++ " is missing"))
  | some snapshot => do
      let channelArtifact ← snapshotArtifact request snapshot
      let manifest ← resolveReleaseManifest platform request files options.origin releaseVersion
      let artifact ← resolveTargetArtifact manifest request.channel request.target.text
        snapshot.qualificationStatus
      let _ ← checkSameBytes request channelArtifact artifact
      let verified ← verifyAndUnpackArtifact runtime platform request files
        (releaseAssetUrl options.origin releaseVersion artifact.filename) options.stagingDirectory
        artifact manifest
      pure (candidateOf request releaseVersion snapshot metadata artifact verified
        (options.stagingDirectory ++ "/" ++ unpackedName artifact.filename))

/-! ## Local -/

/-- What a local acquisition is asked for besides. -/
structure LocalOptions where
  metadataDirectory : String
  /-- The directory and the name of the tarball. -/
  tarballDirectory : String
  tarballName : String
deriving DecidableEq, Repr

/-- The reading of a file. -/
def fileReading (file : Option Bytes) : Except String Bytes :=
  match file with
  | some bytes => .ok bytes
  | none => .error "ENOENT: no such file or directory"

def parseSignature (bytes : Bytes) (what : String) : Except AcquisitionFailure Json :=
  match Json.parse (platform.decode bytes) with
  | none => .error (.acquisition .channelSignatureInvalid (what ++ " signature is not valid JSON"))
  | some value => .ok value

/-- A signature that has to verify. A malformed one throws an error of its own. -/
def requireSignature (raw envelope : Json) (failure : AcquisitionFailure) :
    Except AcquisitionFailure Unit :=
  match verifyJsonSignature platform.toAcquisitionPlatform request.publicKeyPem raw envelope with
  | .error message => .error (.plain message)
  | .ok false => .error failure
  | .ok true => .ok ()

/-- The channel metadata in the metadata directory. -/
def readChannelMetadata (options : LocalOptions) : Except AcquisitionFailure ChannelDocument := do
  let filename := channelMetadataFilename request.channel
  let path := options.metadataDirectory ++ "/" ++ filename
  let channelBytes ←
    readFileRequired path ("channel metadata " ++ filename) (fileReading files.channel)
  let channelSig ← readFileRequired (path ++ ".sig") (filename ++ " signature")
    (fileReading files.channelSignature)
  let raw ← parseRawJson platform channelBytes ("channel metadata " ++ filename)
  let envelope ← parseSignature platform channelSig filename
  let _ ← requireSignature platform request raw envelope (.acquisition .channelSignatureInvalid
    ("channel metadata " ++ filename ++ " signature does not verify"))
  match channelMetadataSchema raw with
  | none => .error (.acquisition .channelMetadataInvalid ("channel metadata " ++ filename ++
      " failed validation: " ++ platform.issues "channelMetadata" raw))
  | some metadata => .ok metadata

/-- The release manifest in the metadata directory. -/
def readReleaseManifest (options : LocalOptions) : Except AcquisitionFailure ReleaseManifest := do
  let path := options.metadataDirectory ++ "/rly-release.json"
  let manifestBytes ← readFileRequired path "release manifest rly-release.json"
    (fileReading files.manifest)
  let manifestSig ← readFileRequired (path ++ ".sig") "release manifest signature"
    (fileReading files.manifestSignature)
  let raw ← parseRawJson platform manifestBytes "release manifest rly-release.json"
  match releaseManifestSchema raw with
  | none => .error (.acquisition .manifestInvalid
      ("release manifest failed validation: " ++ platform.issues "releaseManifest" raw))
  | some manifest => do
      let envelope ← parseSignature platform manifestSig "rly-release.json"
      let _ ← requireSignature platform request raw envelope (.acquisition .manifestSignatureInvalid
        "release manifest signature does not verify")
      pure manifest

/-- An acquisition that has been downloaded before, verified again. -/
def verifyLocalAcquisition (options : LocalOptions) :
    Except AcquisitionFailure VerifiedCandidate := do
  let metadata ← readChannelMetadata platform request files options
  let _ ← checkEvaluation runtime request metadata
  match (metadata.snapshots.find? (·.state = some "current")).or metadata.snapshots.head? with
  | none => .error (.acquisition .channelMetadataInvalid ("channel metadata " ++
      channelMetadataFilename request.channel ++ " carries no snapshot"))
  | some snapshot => do
      let channelArtifact ← snapshotArtifact request snapshot
      let manifest ← readReleaseManifest platform request files options
      if manifest.releaseVersion ≠ snapshot.releaseVersion then
        .error (.acquisition .manifestIdentityMismatch ("release manifest version " ++
          manifest.releaseVersion ++ " does not match the channel snapshot " ++
          snapshot.releaseVersion))
      else if manifest.releaseChannel ≠ request.channel.text then
        .error (.acquisition .manifestIdentityMismatch ("release manifest channel " ++
          manifest.releaseChannel ++ " does not match " ++ request.channel.text))
      else do
        let artifact ← resolveTargetArtifact manifest request.channel request.target.text
          snapshot.qualificationStatus
        let _ ← checkSameBytes request channelArtifact artifact
        let tarballPath := options.tarballDirectory ++ "/" ++ options.tarballName
        let unpackedDirectory :=
          options.tarballDirectory ++ "/" ++ unpackedName options.tarballName
        let verified ← verifyUnpackedArtifact runtime platform.toAcquisitionPlatform
          { tarballPath := tarballPath
            tarball := fileReading files.tarball
            tarballSize := files.tarball.map platform.byteLength
            unpackedDirectory := unpackedDirectory
            publicKeyPem := request.publicKeyPem
            expected := artifact.toExpectedArtifact
            manifest := manifest.toManifestFields
            signatureBytes := none
            signatureFile := fileReading files.tarballSignature }
        pure (candidateOf request snapshot.releaseVersion snapshot metadata artifact verified
          unpackedDirectory)

end RlyGateway
