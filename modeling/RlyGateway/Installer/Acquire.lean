import RlyGateway.Library.Schema
import RlyGateway.Runtime.Update.ArtifactId

/-!
# Verification of a downloaded artifact

A tarball is accepted if its bytes are those the signed metadata names, their digest statement is
signed by the release key, the tree it unpacks to carries the build identity of the release manifest,
and the digest of that tree is the signed one. That digest leaves out the file that carries it.
-/

namespace RlyGateway

/-- The errors of an acquisition, by their codes. -/
inductive AcquisitionErrorCode where
  | network
  | channelMetadataInvalid
  | channelSignatureInvalid
  | channelRollbackDetected
  | channelStale
  | channelFrozen
  | channelUnknownVersion
  | manifestInvalid
  | manifestSignatureInvalid
  | targetUnsupported
  | targetNotQualified
  | artifactSha256Mismatch
  | artifactSizeMismatch
  | artifactSignatureMissing
  | artifactSignatureInvalid
  | artifactTreeInvalid
  | artifactDigestMismatch
  | manifestIdentityMismatch
  | candidateInvalid
deriving DecidableEq, Repr

/-- Why an artifact is not accepted: an error of the acquisition, one of the signature verifier that
nobody translates, or a text that is not JSON. -/
inductive AcquisitionFailure where
  | acquisition (code : AcquisitionErrorCode) (message : String)
  | plain (message : String)
  | syntaxError
deriving DecidableEq, Repr

/-- The artifact the signed metadata names. -/
structure ExpectedArtifact where
  filename : String
  sizeBytes : ℕ
  sha256 : String
  artifactDigest : String
deriving DecidableEq, Repr

/-- What the release manifest says of the build. -/
structure ManifestFields where
  releaseVersion : String
  sourceCommit : String
  buildId : String
  releaseChannel : String
  controlProtocolVersion : ℚ
  dataProtocolVersion : ℚ
  stateSchemaVersion : ℚ
deriving DecidableEq, Repr

/-- The build identity in an artifact. -/
structure BuildIdentity where
  semanticVersion : String
  commitRevision : String
  buildId : String
  releaseChannel : String
  controlProtocolVersion : ℚ
  dataProtocolVersion : ℚ
  stateSchemaVersion : ℚ
deriving DecidableEq, Repr

/-- The release key, the archiver and the validator's own words. -/
structure AcquisitionPlatform (Bytes : Type) extends ContentPlatform Bytes where
  /-- The fingerprint of a public key, or why it is not one. -/
  publicKeyFingerprint : String → Except String String
  /-- Whether a base64 signature of a text verifies against a public key. -/
  verify : String → String → String → Except String Bool
  /-- The tree a tarball unpacks to, or the message of the failure. -/
  untar : Bytes → Except String (DirectoryListing Bytes)
  /-- The issues a schema, named by its file, finds in a value. -/
  issues : String → Json → String

/-- The files of an acquisition: what reading them gives, or the message of the failure. -/
structure UnpackInput (Bytes : Type) where
  tarballPath : String
  tarball : Except String Bytes
  /-- The size of the tarball, where it can be inspected. -/
  tarballSize : Option ℕ
  unpackedDirectory : String
  publicKeyPem : String
  expected : ExpectedArtifact
  manifest : ManifestFields
  signatureBytes : Option Bytes
  signatureFile : Except String Bytes

/-- An accepted artifact, with the tree it was unpacked to. -/
structure VerifiedArtifact (Bytes : Type) where
  sha256 : String
  artifactDigest : String
  buildMeta : BuildIdentity
  tree : DirectoryListing Bytes
deriving DecidableEq

variable {Bytes : Type} (runtime : NodeRuntime) (platform : AcquisitionPlatform Bytes)

/-! ## The digest of the tree -/

/-- The walk of the acquisition over an unpacked tree. -/
def acquisitionWalk (exclude : List String) : TreeWalk Bytes AcquisitionFailure where
  skips path := decide (path ∈ exclude)
  precedes left right := !textLt right left
  fileLabel := platform.sha256Of
  linkLabel path target :=
    if target.toList.head? = some '/' ∨ hasDriveLetter target then
      .error (.acquisition .artifactTreeInvalid
        ("artifact contains an absolute symlink " ++ path ++ " -> " ++ target ++ "; refusing"))
    else .ok ("link:" ++ target)
  refusal path :=
    .acquisition .artifactTreeInvalid ("artifact contains a special file: " ++ path)

/-- The digest of a tree, with some of its paths left out. -/
def treeDigestExcluding (tree : DirectoryListing Bytes) (exclude : List String) :
    Except AcquisitionFailure String :=
  ((acquisitionWalk platform exclude).leaves tree).map fun leaves =>
    runtime.sha256Hex (leavesText leaves)

/-! ## The files of the tree -/

/-- The reading of a name in the root of a tree. -/
def readTreeFile (tree : DirectoryListing Bytes) (name : String) : Except String Bytes :=
  match tree.lookup name with
  | none => .error "ENOENT: no such file or directory"
  | some (.file contents) => .ok contents
  | some (.link _) => platform.readThrough tree name
  | some (.directory _) => .error "EISDIR: illegal operation on a directory"
  | some .special => .error "ENXIO: no such device or address"

/-- A reading that has to succeed. -/
def readFileRequired (path what : String) (reading : Except String Bytes) :
    Except AcquisitionFailure Bytes :=
  reading.mapError fun message =>
    .acquisition .network (what ++ " is unavailable at " ++ path ++ ": " ++ message)

/-- A text of 64 lowercase hexadecimal digits. -/
def isSha256Hex (text : String) : Bool :=
  text.toList.length = 64 ∧ text.toList.all fun c => c.isDigit ∨ 'a' ≤ c ∧ c ≤ 'f'

/-- The JSON value of a file in the root of a tree. -/
def readTreeJson (root filename name : String) (tree : DirectoryListing Bytes) :
    Except AcquisitionFailure Json := do
  let bytes ← readFileRequired (root ++ "/" ++ name) ("artifact " ++ filename ++ " " ++ name)
    (readTreeFile platform tree name)
  match Json.parse (platform.decode bytes) with
  | none => .error .syntaxError
  | some value => .ok value

/-- The channels a release is built for. -/
def buildChannels : List String := ["dev", "beta", "stable"]

/-- The schema of the build identity. -/
def buildIdentitySchema (value : Json) : Option BuildIdentity := do
  let value ← value.object
  let _ ← value.optional "identitySchemaVersion" Json.positiveInteger
  let _ ← value.optional "product" Json.str?
  let semanticVersion ← value.required "semanticVersion" Json.nonEmptyString
  let commitRevision ← value.required "commitRevision" Json.nonEmptyString
  let buildId ← value.required "buildId" Json.nonEmptyString
  let releaseChannel ← value.required "releaseChannel" (Json.oneOf buildChannels)
  let controlProtocolVersion ← value.required "controlProtocolVersion" Json.positiveInteger
  let dataProtocolVersion ← value.required "dataProtocolVersion" Json.positiveInteger
  let stateSchemaVersion ← value.required "stateSchemaVersion" Json.positiveInteger
  let _ ← value.optional "artifactId" fun value => value.str?.filter (isSha256Hex ·)
  some
    { semanticVersion, commitRevision, buildId, releaseChannel, controlProtocolVersion,
      dataProtocolVersion, stateSchemaVersion }

/-- The schema of the artifact metadata: the digest it carries, if it carries one. -/
def artifactMetadataSchema (value : Json) : Option (Option String) := do
  let value ← value.object
  let _ ← value.optional "artifactSchemaVersion" fun value => value.num?.filter (· = 1)
  let _ ← value.optional "product" Json.str?
  let _ ← value.optional "semanticVersion" Json.str?
  let _ ← value.optional "commitRevision" Json.str?
  let _ ← value.optional "buildId" Json.str?
  let _ ← value.optional "releaseChannel" (Json.oneOf buildChannels)
  let _ ← value.optional "controlProtocolVersion" Json.positiveInteger
  let _ ← value.optional "dataProtocolVersion" Json.positiveInteger
  let _ ← value.optional "stateSchemaVersion" Json.positiveInteger
  let _ ← value.optional "targetPlatform" Json.str?
  let _ ← value.optional "targetStatus" Json.str?
  let artifactDigest ← value.optional "artifactDigest" fun value =>
    value.str?.filter (isSha256Hex ·)
  let _ ← value.optional "fileCount" fun value =>
    value.num?.filter fun n => n.den = 1 ∧ 0 ≤ n ∧ n ≤ 9007199254740991
  some artifactDigest

/-- The schema of the candidate manifest: the version it declares. -/
def candidateManifestSchema (value : Json) : Option String := do
  let value ← value.object
  let _ ← value.required "product" (Json.oneOf ["rly-gateway"])
  let version ← value.required "version" Json.nonEmptyString
  let _ ← value.required "stateVersion" Json.positiveInteger
  let _ ← value.optional "migrationForwardOnly" Json.bool?
  let _ ← value.optional "migrationClass" (Json.oneOf
    ["none", "backward-compatible-expand", "transactional-replace", "forward-only"])
  let _ ← value.optional "buildId" Json.nonEmptyString
  let _ ← value.optional "commitRevision" Json.nonEmptyString
  let _ ← value.optional "releaseChannel" (Json.oneOf buildChannels)
  let _ ← value.optional "controlProtocolVersion" Json.positiveInteger
  let _ ← value.optional "dataProtocolVersion" Json.positiveInteger
  some version

/-- A value that has to match the schema of its file. -/
def checkSchema {α : Type} (filename name : String) (schema : Json → Option α) (value : Json) :
    Except AcquisitionFailure α :=
  match schema value with
  | some result => .ok result
  | none => .error (.acquisition .artifactTreeInvalid
      ("artifact " ++ filename ++ " " ++ name ++ " is invalid: " ++ platform.issues name value))

/-- The build identity of an unpacked tree. -/
def readBuildIdentity (root filename : String) (tree : DirectoryListing Bytes) :
    Except AcquisitionFailure BuildIdentity := do
  let value ← readTreeJson platform root filename "rly-build.json" tree
  checkSchema platform filename "rly-build.json" buildIdentitySchema value

/-- The digest an unpacked tree says it has. -/
def readArtifactMetadata (root filename : String) (tree : DirectoryListing Bytes) :
    Except AcquisitionFailure (Option String) := do
  let value ← readTreeJson platform root filename "rly-artifact.json" tree
  checkSchema platform filename "rly-artifact.json" artifactMetadataSchema value

/-- The candidate manifest of an unpacked tree, if it is a valid one. -/
def readCandidateManifest (root filename : String) (tree : DirectoryListing Bytes) :
    Except AcquisitionFailure (Option String) := do
  let value ← readTreeJson platform root filename "rly.json" tree
  pure (candidateManifestSchema value)

/-- Where the release manifest and the build identity differ. -/
def releaseManifestMatchesIdentity (manifest : ManifestFields) (buildMeta : BuildIdentity) :
    List String :=
  let texts : List (String × String × String × String) :=
    [("releaseVersion", manifest.releaseVersion, "semanticVersion", buildMeta.semanticVersion),
      ("sourceCommit", manifest.sourceCommit, "commitRevision", buildMeta.commitRevision),
      ("buildId", manifest.buildId, "buildId", buildMeta.buildId),
      ("releaseChannel", manifest.releaseChannel, "releaseChannel", buildMeta.releaseChannel)]
  let numbers : List (String × ℚ × ℚ) :=
    [("controlProtocolVersion", manifest.controlProtocolVersion, buildMeta.controlProtocolVersion),
      ("dataProtocolVersion", manifest.dataProtocolVersion, buildMeta.dataProtocolVersion),
      ("stateSchemaVersion", manifest.stateSchemaVersion, buildMeta.stateSchemaVersion)]
  (texts.filterMap fun (field, ours, name, theirs) =>
    if ours ≠ theirs then
      some (field ++ " " ++ ours ++ " != build identity " ++ name ++ " " ++ theirs)
    else none) ++
  numbers.filterMap fun (field, ours, theirs) =>
    if ours ≠ theirs then
      some (field ++ " mismatch: " ++ Json.numberText ours ++ " != " ++ Json.numberText theirs)
    else none

/-! ## The signed digest -/

/-- The schema of a signature: the fingerprint of its key, and the signature. -/
def signatureEnvelopeSchema (value : Json) : Option (String × String) := do
  let value ← value.object
  let _ ← value.required "algorithm" (Json.oneOf ["ed25519"])
  let _ ← value.required "schemaVersion" fun value => value.num?.filter (· = 1)
  let keyFingerprint ← value.required "keyFingerprint" fun value =>
    value.str?.filter (isSha256Hex ·)
  let signature ← value.required "signature" Json.nonEmptyString
  some (keyFingerprint, signature)

/-- Whether a signature of a text verifies against a public key. -/
def verifySignature (publicKeyPem data : String) (envelope : Json) : Except String Bool :=
  match signatureEnvelopeSchema envelope with
  | none => .error ("signature envelope is invalid: " ++ platform.issues "signature" envelope)
  | some (keyFingerprint, signature) => do
      let fingerprint ← platform.publicKeyFingerprint publicKeyPem
      if keyFingerprint ≠ fingerprint then
        .error ("signature key fingerprint " ++ keyFingerprint ++
          " does not match the release public key")
      else platform.verify publicKeyPem data signature

/-- Whether the statement of a digest is signed. -/
def verifyDigestStatement (publicKeyPem sha256 : String) (envelope : Json) : Except String Bool :=
  if isSha256Hex sha256 then
    verifySignature platform publicKeyPem ("sha256:" ++ sha256 ++ "\n") envelope
  else .error ("invalid sha256 digest for verification: " ++ sha256)

/-- The bytes of the signature, where they have not been downloaded before. -/
def signatureOf (input : UnpackInput Bytes) : Except AcquisitionFailure Bytes :=
  match input.signatureBytes with
  | some bytes => .ok bytes
  | none => input.signatureFile.mapError fun message =>
      .acquisition .artifactSignatureMissing ("artifact signature " ++ input.expected.filename ++
        ".sig is unavailable: artifact signature " ++ input.expected.filename ++
        ".sig is unavailable at " ++ input.tarballPath ++ ".sig: " ++ message)

/-- The digest statement checked against the signature. -/
def checkSignature (input : UnpackInput Bytes) (sha256 : String) (bytes : Bytes) :
    Except AcquisitionFailure Unit :=
  let verified : Except String Bool := match Json.parse (platform.decode bytes) with
    | none => .error (input.expected.filename ++ ".sig signature is not valid JSON")
    | some envelope => verifyDigestStatement platform input.publicKeyPem sha256 envelope
  match verified with
  | .error message => .error (.acquisition .artifactSignatureInvalid
      ("artifact signature verification failed: " ++ message))
  | .ok false => .error (.acquisition .artifactSignatureInvalid
      ("artifact " ++ input.expected.filename ++
        " digest statement does not verify against the release public key"))
  | .ok true => .ok ()

/-! ## Acceptance -/

/-- The unpacked tree checked against the release manifest and the signed digest. -/
def verifyTree (input : UnpackInput Bytes) (sha256 : String) (tree : DirectoryListing Bytes) :
    Except AcquisitionFailure (VerifiedArtifact Bytes) := do
  let filename := input.expected.filename
  let buildMeta ← readBuildIdentity platform input.unpackedDirectory filename tree
  let identityErrors := releaseManifestMatchesIdentity input.manifest buildMeta
  if identityErrors ≠ [] then
    .error (.acquisition .manifestIdentityMismatch
      ("unpacked build identity diverges from the release manifest: " ++
        "; ".intercalate identityErrors))
  else
    let declared ← readArtifactMetadata platform input.unpackedDirectory filename tree
    if declared.any (· ≠ input.expected.artifactDigest) then
      .error (.acquisition .artifactDigestMismatch
        ("unpacked rly-artifact.json digest " ++ declared.getD "" ++
          " does not match the manifest " ++ input.expected.artifactDigest))
    else
      let candidate ← readCandidateManifest platform input.unpackedDirectory filename tree
      if candidate = none then
        .error (.acquisition .candidateInvalid ("unpacked artifact " ++ filename ++
          " lacks a valid rly.json candidate manifest"))
      else
        let treeDigest ← treeDigestExcluding runtime platform tree ["rly-artifact.json"]
        if treeDigest ≠ input.expected.artifactDigest then
          .error (.acquisition .artifactDigestMismatch ("unpacked tree digest " ++ treeDigest ++
            " does not equal the signed artifact digest " ++ input.expected.artifactDigest))
        else pure ⟨sha256, treeDigest, buildMeta, tree⟩

/-- A tarball accepted, or refused before anything of it is installed. -/
def verifyUnpackedArtifact (input : UnpackInput Bytes) :
    Except AcquisitionFailure (VerifiedArtifact Bytes) := do
  let filename := input.expected.filename
  let tarball ← readFileRequired input.tarballPath ("artifact " ++ filename) input.tarball
  let sha256 := platform.sha256Of tarball
  if sha256 ≠ input.expected.sha256 then
    .error (.acquisition .artifactSha256Mismatch ("artifact " ++ filename ++ " sha256 " ++ sha256 ++
      " does not match the signed metadata " ++ input.expected.sha256 ++
      "; refusing before install"))
  else if input.tarballSize.any (· ≠ input.expected.sizeBytes) then
    .error (.acquisition .artifactSizeMismatch ("artifact " ++ filename ++ " size " ++
      toString (input.tarballSize.getD 0) ++ " does not match the manifest " ++
      toString input.expected.sizeBytes))
  else
    let signatureBytes ← signatureOf input
    let _ ← checkSignature platform input sha256 signatureBytes
    match platform.untar tarball with
    | .error message => .error (.acquisition .artifactTreeInvalid
        ("artifact " ++ filename ++ " could not be unpacked: " ++ message))
    | .ok tree => verifyTree runtime platform input sha256 tree

/-! ## What acceptance says -/

theorem lookup_of_readTreeFile_eq_ok {tree : DirectoryListing Bytes} {name : String} {bytes : Bytes}
    (h : readTreeFile platform tree name = .ok bytes) :
    ∃ leaf, tree.lookup name = some leaf ∧ leaf.IsLeaf := by
  unfold readTreeFile at h
  split at h
  · cases h
  · rename_i contents hlookup
    exact ⟨_, hlookup, trivial⟩
  · rename_i target hlookup
    exact ⟨_, hlookup, trivial⟩
  · cases h
  · cases h

theorem readTreeFile_of_readTreeJson_eq_ok {root filename name : String}
    {tree : DirectoryListing Bytes} {value : Json}
    (h : readTreeJson platform root filename name tree = .ok value) :
    ∃ bytes, readTreeFile platform tree name = .ok bytes := by
  obtain ⟨bytes, hbytes, -⟩ := Except.bind_eq_ok.1 h
  obtain hread := Except.mapError_eq_ok.1 hbytes
  exact ⟨bytes, hread⟩

/-- An accepted tree has the file that carries its digest, and the digest without that file is the
accepted one. -/
theorem verifyTree_eq_ok {input : UnpackInput Bytes} {sha256 : String}
    {tree : DirectoryListing Bytes} {verified : VerifiedArtifact Bytes}
    (h : verifyTree runtime platform input sha256 tree = .ok verified) :
    verified.tree = tree ∧
      treeDigestExcluding runtime platform tree ["rly-artifact.json"] =
        .ok verified.artifactDigest ∧
      ∃ leaf, tree.lookup "rly-artifact.json" = some leaf ∧ leaf.IsLeaf := by
  obtain ⟨buildMeta, -, h⟩ := Except.bind_eq_ok.1 h
  dsimp only at h
  split at h
  · cases h
  obtain ⟨declared, hdeclared, h⟩ := Except.bind_eq_ok.1 h
  split at h
  · cases h
  obtain ⟨candidate, -, h⟩ := Except.bind_eq_ok.1 h
  split at h
  · cases h
  obtain ⟨treeDigest, hdigest, h⟩ := Except.bind_eq_ok.1 h
  split at h
  · cases h
  cases h
  obtain ⟨value, hvalue, -⟩ := Except.bind_eq_ok.1 hdeclared
  obtain ⟨bytes, hbytes⟩ := readTreeFile_of_readTreeJson_eq_ok platform hvalue
  exact ⟨rfl, hdigest, lookup_of_readTreeFile_eq_ok platform hbytes⟩

theorem verifyUnpackedArtifact_eq_ok {input : UnpackInput Bytes} {verified : VerifiedArtifact Bytes}
    (h : verifyUnpackedArtifact runtime platform input = .ok verified) :
    treeDigestExcluding runtime platform verified.tree ["rly-artifact.json"] =
        .ok verified.artifactDigest ∧
      ∃ leaf, verified.tree.lookup "rly-artifact.json" = some leaf ∧ leaf.IsLeaf := by
  obtain ⟨tarball, -, h⟩ := Except.bind_eq_ok.1 h
  dsimp only at h
  split at h
  · cases h
  split at h
  · cases h
  obtain ⟨signatureBytes, -, h⟩ := Except.bind_eq_ok.1 h
  obtain ⟨_, -, h⟩ := Except.bind_eq_ok.1 h
  split at h
  · cases h
  · obtain ⟨rfl, hdigest, hleaf⟩ := verifyTree_eq_ok runtime platform h
    exact ⟨hdigest, hleaf⟩

/-! ## What is accepted -/

section Accepted

variable {runtime} {platform} {input : UnpackInput Bytes} {tree : DirectoryListing Bytes}
  {bytes tarball : Bytes}

theorem readTreeJson_of_parse {name text : String} {value : Json}
    (hfile : readTreeFile platform tree name = .ok bytes) (htext : platform.decode bytes = text)
    (hparse : Json.parse text = some value) (root filename : String) :
    readTreeJson platform root filename name tree = .ok value := by
  unfold readTreeJson
  rw [hfile]
  show (match Json.parse (platform.decode bytes) with
    | none => .error AcquisitionFailure.syntaxError
    | some value => .ok value) = Except.ok value
  rw [htext, hparse]

/-- A digest whose statement is signed by the release key passes. -/
theorem checkSignature_of_verify {sha256 text fingerprint signature : String} {envelope : Json}
    (htext : platform.decode bytes = text) (hparse : Json.parse text = some envelope)
    (hsha256 : isSha256Hex sha256 = true)
    (henvelope : signatureEnvelopeSchema envelope = some (fingerprint, signature))
    (hkey : platform.publicKeyFingerprint input.publicKeyPem = .ok fingerprint)
    (hverify : platform.verify input.publicKeyPem ("sha256:" ++ sha256 ++ "\n") signature =
      .ok true) :
    checkSignature platform input sha256 bytes = .ok () := by
  have hstatement : verifyDigestStatement platform input.publicKeyPem sha256 envelope =
      .ok true := by
    unfold verifyDigestStatement verifySignature
    rw [if_pos hsha256, henvelope]
    dsimp only
    rw [hkey]
    exact (if_neg (not_not_intro rfl)).trans hverify
  unfold checkSignature
  rw [htext, hparse]
  dsimp only
  rw [hstatement]

/-- A tarball of the expected digest and size that is signed and whose tree is accepted is
accepted. -/
theorem verifyUnpackedArtifact_of_verifyTree {verified : VerifiedArtifact Bytes}
    (htarball : input.tarball = .ok tarball)
    (hsha256 : platform.sha256Of tarball = input.expected.sha256)
    (hsize : input.tarballSize.any (· ≠ input.expected.sizeBytes) = false)
    (hbytes : signatureOf input = .ok bytes)
    (hsignature : checkSignature platform input input.expected.sha256 bytes = .ok ())
    (huntar : platform.untar tarball = .ok tree)
    (htree : verifyTree runtime platform input input.expected.sha256 tree = .ok verified) :
    verifyUnpackedArtifact runtime platform input = .ok verified := by
  unfold verifyUnpackedArtifact readFileRequired
  rw [htarball, hbytes]
  simp only [Except.mapError, bind, Except.bind, hsha256, ne_eq, not_true_eq_false, if_false, hsize,
    Bool.false_eq_true, hsignature, huntar]
  exact htree

end Accepted

end RlyGateway
