import RlyGateway.Cli.Install
import RlyGateway.Installer.RemoteAcquisition
import RlyGateway.Library.JsonRoundTrip

/-!
# Agreement of remote and local acquisition

Both chains accept by the same checks but three: the remote one compares the declared channel, bounds
its downloads, and takes the snapshot of the release version, where the local one takes the current
snapshot.
-/

namespace RlyGateway

variable {Bytes : Type} (runtime : NodeRuntime) (platform : DownloadPlatform Bytes)
  (request : AcquisitionRequest) (files : ReleaseFiles Bytes)

/-! ## Shared checks -/

/-- A signed document: its text and its signature are JSON, the signature verifies and the document
matches its schema. -/
def signedDocument {α : Type} (schema : Json → Option α) (body signature : Option Bytes) :
    Option α := do
  let raw ← body.bind fun bytes => Json.parse (platform.decode bytes)
  let envelope ← signature.bind fun bytes => Json.parse (platform.decode bytes)
  match verifyJsonSignature platform.toAcquisitionPlatform request.publicKeyPem raw envelope with
  | .ok true => schema raw
  | _ => none

/-- A file is there and within a bound. -/
def FileWithin (file : Option Bytes) (maxBytes : ℕ) : Prop :=
  ∀ bytes, file = some bytes → platform.byteLength bytes ≤ maxBytes

theorem downloadWithin_eq_ok {url : String} {file : Option Bytes} {maxBytes : ℕ} {bytes : Bytes} :
    downloadWithin platform url file maxBytes = .ok bytes ↔
      file = some bytes ∧ platform.byteLength bytes ≤ maxBytes := by
  cases file with
  | none => simp [downloadWithin]
  | some found =>
      rw [downloadWithin]
      split
      · rename_i hlt
        constructor
        · intro h
          cases h
        · rintro ⟨hfound, hle⟩
          cases hfound
          omega
      · rename_i hle
        constructor
        · intro h
          cases h
          exact ⟨rfl, by omega⟩
        · rintro ⟨hfound, -⟩
          cases hfound
          rfl

theorem downloadBytes_eq_ok {url : String} {file : Option Bytes} {maxBytes : ℕ} {bytes : Bytes} :
    downloadBytes platform url file maxBytes = .ok bytes ↔
      file = some bytes ∧ platform.byteLength bytes ≤ maxBytes := by
  rw [downloadBytes, Except.mapError_eq_ok, downloadWithin_eq_ok]

/-- A file is read exactly if it is there. -/
theorem readFileRequired_fileReading_eq_ok {path what : String} {file : Option Bytes}
    {bytes : Bytes} : readFileRequired path what (fileReading file) = .ok bytes ↔ file = some bytes := by
  rw [readFileRequired, Except.mapError_eq_ok]
  cases file <;> simp [fileReading]

theorem parseRawJson_eq_ok {bytes : Bytes} {what : String} {value : Json} :
    parseRawJson platform bytes what = .ok value ↔
      Json.parse (platform.decode bytes) = some value := by
  rw [parseRawJson]
  split <;> simp_all

theorem parseSignature_eq_ok {bytes : Bytes} {what : String} {value : Json} :
    parseSignature platform bytes what = .ok value ↔
      Json.parse (platform.decode bytes) = some value := by
  rw [parseSignature]
  split <;> simp_all

theorem requireSignature_eq_ok {raw envelope : Json} {failure : AcquisitionFailure} :
    requireSignature platform request raw envelope failure = .ok () ↔
      verifyJsonSignature platform.toAcquisitionPlatform request.publicKeyPem raw envelope =
        .ok true := by
  rw [requireSignature]
  split <;> simp_all

theorem signedDocument_eq_some {α : Type} {schema : Json → Option α} {body signature : Option Bytes}
    {document : α} :
    signedDocument platform request schema body signature = some document ↔
      ∃ bytes sigBytes raw envelope, body = some bytes ∧ signature = some sigBytes ∧
        Json.parse (platform.decode bytes) = some raw ∧
        Json.parse (platform.decode sigBytes) = some envelope ∧
        verifyJsonSignature platform.toAcquisitionPlatform request.publicKeyPem raw envelope =
          .ok true ∧ schema raw = some document := by
  constructor
  · intro h
    obtain ⟨raw, hraw, h⟩ := Option.bind_eq_some_iff.1 h
    obtain ⟨envelope, henvelope, h⟩ := Option.bind_eq_some_iff.1 h
    obtain ⟨bytes, hbody, hraw⟩ := Option.bind_eq_some_iff.1 hraw
    obtain ⟨sigBytes, hsignature, henvelope⟩ := Option.bind_eq_some_iff.1 henvelope
    split at h
    · rename_i hverified
      exact ⟨bytes, sigBytes, raw, envelope, hbody, hsignature, hraw, henvelope, hverified, h⟩
    · cases h
  · rintro ⟨bytes, sigBytes, raw, envelope, rfl, rfl, hraw, henvelope, hverified, hschema⟩
    simp [signedDocument, hraw, henvelope, hverified, hschema]

/-- The remote reading of a signed document: within the bounds. -/
theorem fetchSignedJsonAsset_eq_ok {α : Type} {url name what : String}
    {schema : Json → Option α} {body signature : Option Bytes} {document : α} :
    fetchSignedJsonAsset platform request url body signature name schema what = .ok document ↔
      signedDocument platform request schema body signature = some document ∧
        FileWithin platform body 1000000 ∧ FileWithin platform signature 16384 := by
  rw [signedDocument_eq_some]
  constructor
  · intro h
    obtain ⟨bytes, hbytes, h⟩ := Except.bind_eq_ok.1 h
    obtain ⟨sigBytes, hsigBytes, h⟩ := Except.bind_eq_ok.1 h
    obtain ⟨raw, hraw, h⟩ := Except.bind_eq_ok.1 h
    obtain ⟨hbody, hbound⟩ := (downloadBytes_eq_ok platform).1 hbytes
    obtain ⟨hsignature, hsigBound⟩ := (downloadBytes_eq_ok platform).1 hsigBytes
    have hraw := (parseRawJson_eq_ok platform).1 hraw
    dsimp only at h
    split at h
    · cases h
    · cases h
    · rename_i hverified
      split at hverified
      · cases hverified
      · rename_i envelope henvelope
        split at h
        · cases h
        · rename_i value hschema
          cases h
          refine ⟨⟨bytes, sigBytes, raw, envelope, hbody, hsignature, hraw, henvelope, hverified,
            hschema⟩, ?_, ?_⟩
          · intro found hfound
            cases hbody.symm.trans hfound
            exact hbound
          · intro found hfound
            cases hsignature.symm.trans hfound
            exact hsigBound
  · rintro ⟨⟨bytes, sigBytes, raw, envelope, rfl, rfl, hraw, henvelope, hverified, hschema⟩,
      hbound, hsigBound⟩
    have hbytes : downloadBytes platform url (some bytes) 1000000 = .ok bytes :=
      (downloadBytes_eq_ok platform).2 ⟨rfl, hbound bytes rfl⟩
    have hsigBytes : downloadBytes platform (url ++ ".sig") (some sigBytes) 16384 = .ok sigBytes :=
      (downloadBytes_eq_ok platform).2 ⟨rfl, hsigBound sigBytes rfl⟩
    have hraw : parseRawJson platform bytes what = .ok raw := (parseRawJson_eq_ok platform).2 hraw
    simp [fetchSignedJsonAsset, hbytes, hsigBytes, hraw, henvelope, hverified, hschema, bind,
      Except.bind]

/-- The local readings, without bounds. -/
theorem readChannelMetadata_eq_ok {options : LocalOptions} {metadata : ChannelDocument} :
    readChannelMetadata platform request files options = .ok metadata ↔
      signedDocument platform request channelMetadataSchema files.channel files.channelSignature =
        some metadata := by
  rw [signedDocument_eq_some]
  constructor
  · intro h
    obtain ⟨bytes, hbytes, h⟩ := Except.bind_eq_ok.1 h
    obtain ⟨sigBytes, hsigBytes, h⟩ := Except.bind_eq_ok.1 h
    obtain ⟨raw, hraw, h⟩ := Except.bind_eq_ok.1 h
    obtain ⟨envelope, henvelope, h⟩ := Except.bind_eq_ok.1 h
    obtain ⟨_, hverified, h⟩ := Except.bind_eq_ok.1 h
    split at h
    · cases h
    · rename_i value hschema
      cases h
      exact ⟨bytes, sigBytes, raw, envelope, readFileRequired_fileReading_eq_ok.1 hbytes,
        readFileRequired_fileReading_eq_ok.1 hsigBytes, (parseRawJson_eq_ok platform).1 hraw,
        (parseSignature_eq_ok platform).1 henvelope,
        (requireSignature_eq_ok platform request).1 hverified, hschema⟩
  · rintro ⟨bytes, sigBytes, raw, envelope, hbody, hsignature, hraw, henvelope, hverified, hschema⟩
    refine Except.bind_eq_ok.2 ⟨bytes, readFileRequired_fileReading_eq_ok.2 hbody, ?_⟩
    refine Except.bind_eq_ok.2 ⟨sigBytes, readFileRequired_fileReading_eq_ok.2 hsignature, ?_⟩
    refine Except.bind_eq_ok.2 ⟨raw, (parseRawJson_eq_ok platform).2 hraw, ?_⟩
    refine Except.bind_eq_ok.2 ⟨envelope, (parseSignature_eq_ok platform).2 henvelope, ?_⟩
    refine Except.bind_eq_ok.2 ⟨(), (requireSignature_eq_ok platform request).2 hverified, ?_⟩
    rw [hschema]

theorem readReleaseManifest_eq_ok {options : LocalOptions} {manifest : ReleaseManifest} :
    readReleaseManifest platform request files options = .ok manifest ↔
      signedDocument platform request releaseManifestSchema files.manifest
        files.manifestSignature = some manifest := by
  rw [signedDocument_eq_some]
  constructor
  · intro h
    obtain ⟨bytes, hbytes, h⟩ := Except.bind_eq_ok.1 h
    obtain ⟨sigBytes, hsigBytes, h⟩ := Except.bind_eq_ok.1 h
    obtain ⟨raw, hraw, h⟩ := Except.bind_eq_ok.1 h
    split at h
    · cases h
    · rename_i value hschema
      obtain ⟨envelope, henvelope, h⟩ := Except.bind_eq_ok.1 h
      obtain ⟨_, hverified, h⟩ := Except.bind_eq_ok.1 h
      cases h
      exact ⟨bytes, sigBytes, raw, envelope, readFileRequired_fileReading_eq_ok.1 hbytes,
        readFileRequired_fileReading_eq_ok.1 hsigBytes, (parseRawJson_eq_ok platform).1 hraw,
        (parseSignature_eq_ok platform).1 henvelope,
        (requireSignature_eq_ok platform request).1 hverified, hschema⟩
  · rintro ⟨bytes, sigBytes, raw, envelope, hbody, hsignature, hraw, henvelope, hverified, hschema⟩
    refine Except.bind_eq_ok.2 ⟨bytes, readFileRequired_fileReading_eq_ok.2 hbody, ?_⟩
    refine Except.bind_eq_ok.2 ⟨sigBytes, readFileRequired_fileReading_eq_ok.2 hsignature, ?_⟩
    refine Except.bind_eq_ok.2 ⟨raw, (parseRawJson_eq_ok platform).2 hraw, ?_⟩
    rw [hschema]
    refine Except.bind_eq_ok.2 ⟨envelope, (parseSignature_eq_ok platform).2 henvelope, ?_⟩
    exact Except.bind_eq_ok.2 ⟨(), (requireSignature_eq_ok platform request).2 hverified, rfl⟩

/-! ## The artifact -/

theorem checkEvaluation_eq_ok {metadata : ChannelDocument} :
    checkEvaluation runtime request metadata = .ok () ↔
      (evaluateChannelMetadata runtime metadata.toChannelMetadata request.highestObservedVersion
        request.now).ok = true := by
  rw [checkEvaluation]
  split <;> simp_all

theorem checkSameBytes_eq_ok {entry : ChannelArtifact} {artifact : ManifestArtifact} :
    checkSameBytes request entry artifact = .ok () ↔
      entry.sha256 = artifact.sha256 ∧ entry.artifactDigest = artifact.artifactDigest := by
  rw [checkSameBytes]
  split
  · rename_i hne
    constructor
    · intro h
      cases h
    · rintro ⟨hsha256, hdigest⟩
      rcases hne with hne | hne
      · exact absurd hsha256 hne
      · exact absurd hdigest hne
  · rename_i heq
    push Not at heq
    exact ⟨fun _ => heq, fun _ => rfl⟩

theorem snapshotArtifact_eq_ok {snapshot : ChannelSnapshot} {entry : ChannelArtifact} :
    snapshotArtifact request snapshot = .ok entry ↔
      snapshot.artifact? request.target.text = some entry := by
  rw [snapshotArtifact]
  split <;> simp_all

/-- A file of a tree is read the same wherever the tree is. -/
theorem readTreeJson_eq_ok {root filename name : String} {tree : DirectoryListing Bytes}
    {value : Json} :
    readTreeJson platform.toAcquisitionPlatform root filename name tree = .ok value ↔
      ∃ bytes, readTreeFile platform.toAcquisitionPlatform tree name = .ok bytes ∧
        Json.parse (platform.decode bytes) = some value := by
  rw [readTreeJson, Except.bind_eq_ok]
  refine exists_congr fun bytes => and_congr Except.mapError_eq_ok ?_
  split <;> simp_all

/-- What the root files of a tree hold does not depend on where the tree is. -/
theorem readTreeJson_of_root {root root' filename name : String} {tree : DirectoryListing Bytes}
    {value : Json} (h : readTreeJson platform.toAcquisitionPlatform root filename name tree = .ok value) :
    readTreeJson platform.toAcquisitionPlatform root' filename name tree = .ok value :=
  (readTreeJson_eq_ok platform).2 ((readTreeJson_eq_ok platform).1 h)

/-- Two verifications of the same artifact, wherever its files are. -/
structure SameArtifact (input input' : UnpackInput Bytes) : Prop where
  tarball : ∀ bytes, input.tarball = .ok bytes → input'.tarball = .ok bytes
  tarballSize : input'.tarballSize = input.tarballSize
  publicKeyPem : input'.publicKeyPem = input.publicKeyPem
  expected : input'.expected = input.expected
  manifest : input'.manifest = input.manifest
  signature : ∀ bytes, signatureOf input = .ok bytes → signatureOf input' = .ok bytes

section Same

variable {runtime} {platform} {input input' : UnpackInput Bytes}

theorem SameArtifact.verifyTree (h : SameArtifact input input') {sha256 : String}
    {tree : DirectoryListing Bytes} {verified : VerifiedArtifact Bytes}
    (hverify : RlyGateway.verifyTree runtime platform.toAcquisitionPlatform input sha256 tree =
      .ok verified) :
    RlyGateway.verifyTree runtime platform.toAcquisitionPlatform input' sha256 tree =
      .ok verified := by
  unfold RlyGateway.verifyTree at hverify ⊢
  rw [h.expected, h.manifest]
  obtain ⟨buildMeta, hbuild, hverify⟩ := Except.bind_eq_ok.1 hverify
  obtain ⟨value, hvalue, hschema⟩ := Except.bind_eq_ok.1 hbuild
  refine Except.bind_eq_ok.2 ⟨buildMeta,
    Except.bind_eq_ok.2 ⟨value, readTreeJson_of_root platform hvalue, hschema⟩, ?_⟩
  dsimp only at hverify ⊢
  split at hverify
  · cases hverify
  rename_i hidentity
  rw [if_neg hidentity]
  obtain ⟨declared, hdeclared, hverify⟩ := Except.bind_eq_ok.1 hverify
  obtain ⟨value, hvalue, hschema⟩ := Except.bind_eq_ok.1 hdeclared
  refine Except.bind_eq_ok.2 ⟨declared,
    Except.bind_eq_ok.2 ⟨value, readTreeJson_of_root platform hvalue, hschema⟩, ?_⟩
  split at hverify
  · cases hverify
  rename_i hdigest
  rw [if_neg hdigest]
  obtain ⟨candidate, hcandidate, hverify⟩ := Except.bind_eq_ok.1 hverify
  obtain ⟨value, hvalue, hschema⟩ := Except.bind_eq_ok.1 hcandidate
  exact Except.bind_eq_ok.2 ⟨candidate,
    Except.bind_eq_ok.2 ⟨value, readTreeJson_of_root platform hvalue, hschema⟩, hverify⟩

theorem SameArtifact.verifyUnpackedArtifact (h : SameArtifact input input')
    {verified : VerifiedArtifact Bytes}
    (hverify : RlyGateway.verifyUnpackedArtifact runtime platform.toAcquisitionPlatform input =
      .ok verified) :
    RlyGateway.verifyUnpackedArtifact runtime platform.toAcquisitionPlatform input' =
      .ok verified := by
  unfold RlyGateway.verifyUnpackedArtifact at hverify ⊢
  obtain ⟨tarball, htarball, hverify⟩ := Except.bind_eq_ok.1 hverify
  have htarball := h.tarball tarball (Except.mapError_eq_ok.1 htarball)
  refine Except.bind_eq_ok.2 ⟨tarball, Except.mapError_eq_ok.2 htarball, ?_⟩
  rw [h.expected, h.tarballSize]
  dsimp only at hverify ⊢
  split at hverify
  · cases hverify
  rename_i hsha256
  rw [if_neg hsha256]
  split at hverify
  · cases hverify
  rename_i hsize
  rw [if_neg hsize]
  obtain ⟨signatureBytes, hsignature, hverify⟩ := Except.bind_eq_ok.1 hverify
  obtain ⟨_, hchecked, hverify⟩ := Except.bind_eq_ok.1 hverify
  refine Except.bind_eq_ok.2 ⟨signatureBytes, h.signature signatureBytes hsignature, ?_⟩
  refine Except.bind_eq_ok.2 ⟨(), ?_, ?_⟩
  · unfold checkSignature at hchecked ⊢
    rw [h.expected, h.publicKeyPem]
    exact hchecked
  · cases huntar : platform.untar tarball with
    | error message =>
        rw [huntar] at hverify
        cases hverify
    | ok tree =>
        rw [huntar] at hverify
        exact h.verifyTree hverify

/-- An accepted artifact has a signature. -/
theorem exists_signatureOf_of_verifyUnpackedArtifact {verified : VerifiedArtifact Bytes}
    (h : RlyGateway.verifyUnpackedArtifact runtime platform.toAcquisitionPlatform input =
      .ok verified) : ∃ bytes, signatureOf input = .ok bytes := by
  unfold RlyGateway.verifyUnpackedArtifact at h
  obtain ⟨tarball, -, h⟩ := Except.bind_eq_ok.1 h
  dsimp only at h
  split at h
  · cases h
  split at h
  · cases h
  obtain ⟨bytes, hbytes, -⟩ := Except.bind_eq_ok.1 h
  exact ⟨bytes, hbytes⟩

end Same

/-- The verification of the artifact among the files. -/
def heldInput (manifest : ReleaseManifest) (artifact : ManifestArtifact)
    (tarballPath unpackedDirectory : String) : UnpackInput Bytes where
  tarballPath := tarballPath
  tarball := fileReading files.tarball
  tarballSize := files.tarball.map platform.byteLength
  unpackedDirectory := unpackedDirectory
  publicKeyPem := request.publicKeyPem
  expected := artifact.toExpectedArtifact
  manifest := manifest.toManifestFields
  signatureBytes := none
  signatureFile := fileReading files.tarballSignature

theorem signatureOf_heldInput_eq_ok {manifest : ReleaseManifest} {artifact : ManifestArtifact}
    {tarballPath unpackedDirectory : String} {bytes : Bytes} :
    signatureOf (heldInput platform request files manifest artifact tarballPath unpackedDirectory) =
        .ok bytes ↔ files.tarballSignature = some bytes := by
  change (fileReading files.tarballSignature).mapError _ = .ok bytes ↔ _
  rw [Except.mapError_eq_ok]
  cases files.tarballSignature <;> simp [fileReading]

/-- The artifact among the files is verified, as it is wherever the files are. -/
def Verified (manifest : ReleaseManifest) (artifact : ManifestArtifact)
    (verified : VerifiedArtifact Bytes) : Prop :=
  verifyUnpackedArtifact runtime platform.toAcquisitionPlatform
    (heldInput platform request files manifest artifact "" "") = .ok verified

theorem verified_iff {manifest : ReleaseManifest} {artifact : ManifestArtifact}
    {verified : VerifiedArtifact Bytes} (tarballPath unpackedDirectory : String) :
    Verified runtime platform request files manifest artifact verified ↔
      verifyUnpackedArtifact runtime platform.toAcquisitionPlatform
        (heldInput platform request files manifest artifact tarballPath unpackedDirectory) =
          .ok verified := by
  have hsame (path path' directory directory' : String) : SameArtifact
      (heldInput platform request files manifest artifact path directory)
      (heldInput platform request files manifest artifact path' directory') :=
    { tarball := fun _ h => h
      tarballSize := rfl
      publicKeyPem := rfl
      expected := rfl
      manifest := rfl
      signature := fun _ h => (signatureOf_heldInput_eq_ok platform request files).2
        ((signatureOf_heldInput_eq_ok platform request files).1 h) }
  exact ⟨(hsame _ _ _ _).verifyUnpackedArtifact, (hsame _ _ _ _).verifyUnpackedArtifact⟩

/-- The verification of a downloaded artifact. -/
def downloadedInput (manifest : ReleaseManifest) (artifact : ManifestArtifact)
    (tarball signature : Bytes) (tarballPath unpackedDirectory : String) : UnpackInput Bytes where
  tarballPath := tarballPath
  tarball := .ok tarball
  tarballSize := some (platform.byteLength tarball)
  unpackedDirectory := unpackedDirectory
  publicKeyPem := request.publicKeyPem
  expected := artifact.toExpectedArtifact
  manifest := manifest.toManifestFields
  signatureBytes := some signature
  signatureFile := .ok signature

/-- The downloads of the artifact, within their bounds, are verified as the files are. -/
theorem verifyAndUnpackArtifact_eq_ok {url stagingDirectory : String} {artifact : ManifestArtifact}
    {manifest : ReleaseManifest} {verified : VerifiedArtifact Bytes} :
    verifyAndUnpackArtifact runtime platform request files url stagingDirectory artifact manifest =
        .ok verified ↔
      Verified runtime platform request files manifest artifact verified ∧
        FileWithin platform files.tarball (256 * 1024 * 1024) ∧
        FileWithin platform files.tarballSignature 16384 := by
  have hsame {tarball signature : Bytes} (htarball : files.tarball = some tarball)
      (hsignature : files.tarballSignature = some signature) (path directory : String) :
      verifyUnpackedArtifact runtime platform.toAcquisitionPlatform
          (downloadedInput platform request manifest artifact tarball signature path directory) =
            .ok verified ↔
        Verified runtime platform request files manifest artifact verified := by
    have hheld : SameArtifact
        (downloadedInput platform request manifest artifact tarball signature path directory)
        (heldInput platform request files manifest artifact "" "") := by
      refine ⟨?_, ?_, rfl, rfl, rfl, ?_⟩
      · rintro bytes ⟨⟩
        simp [heldInput, htarball, fileReading]
      · simp [heldInput, downloadedInput, htarball]
      · rintro bytes ⟨⟩
        exact (signatureOf_heldInput_eq_ok platform request files).2 hsignature
    have hdownloaded : SameArtifact (heldInput platform request files manifest artifact "" "")
        (downloadedInput platform request manifest artifact tarball signature path directory) := by
      refine ⟨?_, ?_, rfl, rfl, rfl, ?_⟩
      · intro bytes hbytes
        simpa [heldInput, downloadedInput, htarball, fileReading] using hbytes
      · simp [heldInput, downloadedInput, htarball]
      · intro bytes hbytes
        rw [(signatureOf_heldInput_eq_ok platform request files).1 hbytes] at hsignature
        cases hsignature
        rfl
    exact ⟨hheld.verifyUnpackedArtifact, hdownloaded.verifyUnpackedArtifact⟩
  constructor
  · intro h
    obtain ⟨tarball, htarball, h⟩ := Except.bind_eq_ok.1 h
    obtain ⟨signature, hsignature, h⟩ := Except.bind_eq_ok.1 h
    obtain ⟨htarball, hbound⟩ := (downloadBytes_eq_ok platform).1 htarball
    obtain ⟨hsignature, hsigBound⟩ :=
      (downloadWithin_eq_ok platform).1 (Except.mapError_eq_ok.1 hsignature)
    refine ⟨(hsame htarball hsignature _ _).1 h, ?_, ?_⟩
    · intro bytes hbytes
      cases htarball.symm.trans hbytes
      exact hbound
    · intro bytes hbytes
      cases hsignature.symm.trans hbytes
      exact hsigBound
  · rintro ⟨hverified, hbound, hsigBound⟩
    obtain ⟨tarball, htarball, -⟩ := Except.bind_eq_ok.1 hverified
    have htarball : files.tarball = some tarball :=
      readFileRequired_fileReading_eq_ok.1 htarball
    obtain ⟨signature, hsignature⟩ := exists_signatureOf_of_verifyUnpackedArtifact hverified
    have hsignature := (signatureOf_heldInput_eq_ok platform request files).1 hsignature
    refine Except.bind_eq_ok.2 ⟨tarball,
      (downloadBytes_eq_ok platform).2 ⟨htarball, hbound tarball htarball⟩, ?_⟩
    refine Except.bind_eq_ok.2 ⟨signature, Except.mapError_eq_ok.2
      ((downloadWithin_eq_ok platform).2 ⟨hsignature, hsigBound signature hsignature⟩), ?_⟩
    exact (hsame htarball hsignature _ _).2 hverified

/-! ## Acceptance -/

/-- The checks that do not look at a snapshot. -/
structure SharedChecks (metadata : ChannelDocument) (manifest : ReleaseManifest) : Prop where
  metadataSigned : signedDocument platform request channelMetadataSchema files.channel
    files.channelSignature = some metadata
  evaluated : (evaluateChannelMetadata runtime metadata.toChannelMetadata
    request.highestObservedVersion request.now).ok = true
  manifestSigned : signedDocument platform request releaseManifestSchema files.manifest
    files.manifestSignature = some manifest
  manifestChannel : manifest.releaseChannel = request.channel.text

/-- A snapshot admits an artifact of the manifest, and the artifact is verified. -/
structure Admits (manifest : ReleaseManifest) (snapshot : ChannelSnapshot)
    (artifact : ManifestArtifact) (verified : VerifiedArtifact Bytes) : Prop where
  listed : ∃ entry, snapshot.artifact? request.target.text = some entry ∧
    entry.sha256 = artifact.sha256 ∧ entry.artifactDigest = artifact.artifactDigest
  resolved : resolveTargetArtifact manifest request.channel request.target.text
    snapshot.qualificationStatus = .ok artifact
  verified : Verified runtime platform request files manifest artifact verified

/-- The downloads are within their bounds. -/
structure WithinBounds : Prop where
  channel : FileWithin platform files.channel 1000000
  channelSignature : FileWithin platform files.channelSignature 16384
  manifest : FileWithin platform files.manifest 1000000
  manifestSignature : FileWithin platform files.manifestSignature 16384
  tarball : FileWithin platform files.tarball (256 * 1024 * 1024)
  tarballSignature : FileWithin platform files.tarballSignature 16384

/-- The snapshot of a release version. -/
def releaseSnapshot (metadata : ChannelDocument) (releaseVersion : String) :
    Option ChannelSnapshot :=
  metadata.snapshots.find? (·.releaseVersion = releaseVersion)

/-- The current snapshot, or else the first one. -/
def currentSnapshot (metadata : ChannelDocument) : Option ChannelSnapshot :=
  (metadata.snapshots.find? (·.state = some "current")).or metadata.snapshots.head?

/-- A remote acquisition pinned to a version accepts. -/
theorem acquireVerifiedCandidate_eq_ok {options : RemoteOptions} {version : String}
    (hversion : options.version = some version) {candidate : VerifiedCandidate} :
    acquireVerifiedCandidate runtime platform request files options = .ok candidate ↔
      ∃ metadata manifest snapshot artifact verified,
        SharedChecks runtime platform request files metadata manifest ∧
        manifest.releaseVersion = version ∧ metadata.channel = request.channel ∧
        WithinBounds platform files ∧ releaseSnapshot metadata version = some snapshot ∧
        Admits runtime platform request files manifest snapshot artifact verified ∧
        candidate = candidateOf request version snapshot metadata artifact verified
          (options.stagingDirectory ++ "/" ++ unpackedName artifact.filename) := by
  constructor
  · intro h
    obtain ⟨⟨metadata, releaseVersion⟩, hresolved, h⟩ := Except.bind_eq_ok.1 h
    obtain ⟨releaseVersion', hpinned, hresolved⟩ := Except.bind_eq_ok.1 hresolved
    rw [selectReleaseVersion, hversion] at hpinned
    cases hpinned
    obtain ⟨metadata', hfetched, hresolved⟩ := Except.bind_eq_ok.1 hresolved
    split at hresolved
    · cases hresolved
    rename_i hchannel
    split at hresolved
    · cases hresolved
    obtain ⟨_, hevaluated, hresolved⟩ := Except.bind_eq_ok.1 hresolved
    cases hresolved
    obtain ⟨hmetadata, hbound, hsigBound⟩ := (fetchSignedJsonAsset_eq_ok platform request).1 hfetched
    dsimp only at h
    split at h
    · cases h
    rename_i snapshot hsnapshot
    obtain ⟨entry, hentry, h⟩ := Except.bind_eq_ok.1 h
    obtain ⟨manifest, hmanifest, h⟩ := Except.bind_eq_ok.1 h
    obtain ⟨artifact, hartifact, h⟩ := Except.bind_eq_ok.1 h
    obtain ⟨_, hsame, h⟩ := Except.bind_eq_ok.1 h
    obtain ⟨verified, hverified, h⟩ := Except.bind_eq_ok.1 h
    cases h
    obtain ⟨manifest', hfetchedManifest, hmanifest⟩ := Except.bind_eq_ok.1 hmanifest
    split at hmanifest
    · cases hmanifest
    rename_i hmanifestVersion
    split at hmanifest
    · cases hmanifest
    rename_i hmanifestChannel
    cases hmanifest
    obtain ⟨hmanifest, hmanifestBound, hmanifestSigBound⟩ :=
      (fetchSignedJsonAsset_eq_ok platform request).1 hfetchedManifest
    obtain ⟨hverified, htarballBound, htarballSigBound⟩ :=
      (verifyAndUnpackArtifact_eq_ok runtime platform request files).1 hverified
    exact ⟨metadata, manifest, snapshot, artifact, verified,
      ⟨hmetadata, (checkEvaluation_eq_ok runtime request).1 hevaluated, hmanifest,
        not_not.1 hmanifestChannel⟩,
      not_not.1 hmanifestVersion, not_not.1 hchannel,
      ⟨hbound, hsigBound, hmanifestBound, hmanifestSigBound, htarballBound, htarballSigBound⟩,
      hsnapshot,
      ⟨⟨entry, (snapshotArtifact_eq_ok request).1 hentry, (checkSameBytes_eq_ok request).1 hsame⟩,
        hartifact, hverified⟩, rfl⟩
  · rintro ⟨metadata, manifest, snapshot, artifact, verified, hshared, hmanifestVersion, hchannel,
      hbounds, hsnapshot, hadmits, rfl⟩
    obtain ⟨entry, hentry, hsame⟩ := hadmits.listed
    have hsnapshot : metadata.snapshots.find? (·.releaseVersion = version) = some snapshot :=
      hsnapshot
    have hresolved : resolveChannelMetadata runtime platform request files options =
        .ok (metadata, version) := by
      refine Except.bind_eq_ok.2 ⟨version, ?_, ?_⟩
      · rw [selectReleaseVersion, hversion]
      refine Except.bind_eq_ok.2 ⟨metadata, (fetchSignedJsonAsset_eq_ok platform request).2
        ⟨hshared.metadataSigned, hbounds.channel, hbounds.channelSignature⟩, ?_⟩
      rw [if_neg (not_not.2 hchannel), hsnapshot, if_neg (by simp)]
      exact Except.bind_eq_ok.2
        ⟨(), (checkEvaluation_eq_ok runtime request).2 hshared.evaluated, rfl⟩
    have hmanifest : resolveReleaseManifest platform request files options.origin version =
        .ok manifest := by
      refine Except.bind_eq_ok.2 ⟨manifest, (fetchSignedJsonAsset_eq_ok platform request).2
        ⟨hshared.manifestSigned, hbounds.manifest, hbounds.manifestSignature⟩, ?_⟩
      rw [if_neg (not_not.2 hmanifestVersion), if_neg (not_not.2 hshared.manifestChannel)]
      rfl
    refine Except.bind_eq_ok.2 ⟨(metadata, version), hresolved, ?_⟩
    dsimp only
    rw [hsnapshot]
    refine Except.bind_eq_ok.2 ⟨entry, (snapshotArtifact_eq_ok request).2 hentry, ?_⟩
    refine Except.bind_eq_ok.2 ⟨manifest, hmanifest, ?_⟩
    refine Except.bind_eq_ok.2 ⟨artifact, hadmits.resolved, ?_⟩
    refine Except.bind_eq_ok.2 ⟨(), (checkSameBytes_eq_ok request).2 hsame, ?_⟩
    exact Except.bind_eq_ok.2 ⟨verified, (verifyAndUnpackArtifact_eq_ok runtime platform request
      files).2 ⟨hadmits.verified, hbounds.tarball, hbounds.tarballSignature⟩, rfl⟩

/-- A local acquisition accepts. -/
theorem verifyLocalAcquisition_eq_ok {options : LocalOptions} {candidate : VerifiedCandidate} :
    verifyLocalAcquisition runtime platform request files options = .ok candidate ↔
      ∃ metadata manifest snapshot artifact verified,
        SharedChecks runtime platform request files metadata manifest ∧
        currentSnapshot metadata = some snapshot ∧
        manifest.releaseVersion = snapshot.releaseVersion ∧
        Admits runtime platform request files manifest snapshot artifact verified ∧
        candidate = candidateOf request snapshot.releaseVersion snapshot metadata artifact verified
          (options.tarballDirectory ++ "/" ++ unpackedName options.tarballName) := by
  constructor
  · intro h
    obtain ⟨metadata, hmetadata, h⟩ := Except.bind_eq_ok.1 h
    obtain ⟨_, hevaluated, h⟩ := Except.bind_eq_ok.1 h
    split at h
    · cases h
    rename_i snapshot hsnapshot
    obtain ⟨entry, hentry, h⟩ := Except.bind_eq_ok.1 h
    obtain ⟨manifest, hmanifest, h⟩ := Except.bind_eq_ok.1 h
    split at h
    · cases h
    rename_i hmanifestVersion
    split at h
    · cases h
    rename_i hmanifestChannel
    obtain ⟨artifact, hartifact, h⟩ := Except.bind_eq_ok.1 h
    obtain ⟨_, hsame, h⟩ := Except.bind_eq_ok.1 h
    obtain ⟨verified, hverified, h⟩ := Except.bind_eq_ok.1 h
    cases h
    exact ⟨metadata, manifest, snapshot, artifact, verified,
      ⟨(readChannelMetadata_eq_ok platform request files).1 hmetadata,
        (checkEvaluation_eq_ok runtime request).1 hevaluated,
        (readReleaseManifest_eq_ok platform request files).1 hmanifest,
        not_not.1 hmanifestChannel⟩,
      hsnapshot, not_not.1 hmanifestVersion,
      ⟨⟨entry, (snapshotArtifact_eq_ok request).1 hentry, (checkSameBytes_eq_ok request).1 hsame⟩,
        hartifact, (verified_iff runtime platform request files _ _).2 hverified⟩, rfl⟩
  · rintro ⟨metadata, manifest, snapshot, artifact, verified, hshared, hsnapshot, hmanifestVersion,
      hadmits, rfl⟩
    obtain ⟨entry, hentry, hsame⟩ := hadmits.listed
    refine Except.bind_eq_ok.2
      ⟨metadata, (readChannelMetadata_eq_ok platform request files).2 hshared.metadataSigned, ?_⟩
    refine Except.bind_eq_ok.2
      ⟨(), (checkEvaluation_eq_ok runtime request).2 hshared.evaluated, ?_⟩
    unfold currentSnapshot at hsnapshot
    rw [hsnapshot]
    refine Except.bind_eq_ok.2 ⟨entry, (snapshotArtifact_eq_ok request).2 hentry, ?_⟩
    refine Except.bind_eq_ok.2
      ⟨manifest, (readReleaseManifest_eq_ok platform request files).2 hshared.manifestSigned, ?_⟩
    rw [if_neg (not_not.2 hmanifestVersion), if_neg (not_not.2 hshared.manifestChannel)]
    refine Except.bind_eq_ok.2 ⟨artifact, hadmits.resolved, ?_⟩
    refine Except.bind_eq_ok.2 ⟨(), (checkSameBytes_eq_ok request).2 hsame, ?_⟩
    exact Except.bind_eq_ok.2
      ⟨verified, (verified_iff runtime platform request files _ _).1 hadmits.verified, rfl⟩

/-! ## Agreement -/

/-- Two candidates of the same release, bytes, build identity, qualification and metadata. -/
structure VerifiedCandidate.SameAs (candidate other : VerifiedCandidate) : Prop where
  version : candidate.version = other.version
  sha256 : candidate.sha256 = other.sha256
  artifactDigest : candidate.artifactDigest = other.artifactDigest
  buildId : candidate.buildId = other.buildId
  commitRevision : candidate.commitRevision = other.commitRevision
  controlProtocolVersion : candidate.controlProtocolVersion = other.controlProtocolVersion
  dataProtocolVersion : candidate.dataProtocolVersion = other.dataProtocolVersion
  stateVersion : candidate.stateVersion = other.stateVersion
  qualificationStatus : candidate.qualificationStatus = other.qualificationStatus
  metadataVersion : candidate.metadataVersion = other.metadataVersion

/-- Both accept the same, or both refuse. -/
def AcquisitionsAgree :
    Except AcquisitionFailure VerifiedCandidate → Except AcquisitionFailure VerifiedCandidate → Prop
  | .ok candidate, .ok other => candidate.SameAs other
  | .error _, .error _ => True
  | _, _ => False

/-- The release version of the manifest among the files. -/
def manifestVersion : String :=
  ((signedDocument platform request releaseManifestSchema files.manifest
    files.manifestSignature).map (·.releaseVersion)).getD ""

/-- The remote chain takes a snapshot: that of the manifest's version, of metadata that declares the
channel, within the bounds of the downloads. -/
structure TakenRemotely (metadata : ChannelDocument) (manifest : ReleaseManifest)
    (snapshot : ChannelSnapshot) : Prop where
  declared : metadata.channel = request.channel
  bounds : WithinBounds platform files
  selected : releaseSnapshot metadata manifest.releaseVersion = some snapshot
  admitted : ∃ artifact verified,
    Admits runtime platform request files manifest snapshot artifact verified

/-- The local chain takes a snapshot: the current one, if it is of the manifest's version. -/
structure TakenLocally (metadata : ChannelDocument) (manifest : ReleaseManifest)
    (snapshot : ChannelSnapshot) : Prop where
  selected : currentSnapshot metadata = some snapshot
  version : manifest.releaseVersion = snapshot.releaseVersion
  admitted : ∃ artifact verified,
    Admits runtime platform request files manifest snapshot artifact verified

/-- Where one chain takes a snapshot, so does the other, with the same qualification. -/
structure SelectionsAgree (metadata : ChannelDocument) (manifest : ReleaseManifest) : Prop where
  takenRemotely : ∀ snapshot, TakenLocally runtime platform request files metadata manifest snapshot →
    ∃ other, TakenRemotely runtime platform request files metadata manifest other ∧
      other.qualificationStatus = snapshot.qualificationStatus
  takenLocally : ∀ snapshot, TakenRemotely runtime platform request files metadata manifest snapshot →
    ∃ other, TakenLocally runtime platform request files metadata manifest other

section Unique

variable {runtime} {platform} {request} {files} {metadata metadata' : ChannelDocument}
  {manifest manifest' : ReleaseManifest} {snapshot snapshot' : ChannelSnapshot}
  {artifact artifact' : ManifestArtifact} {verified verified' : VerifiedArtifact Bytes}

theorem SharedChecks.unique (h : SharedChecks runtime platform request files metadata manifest)
    (h' : SharedChecks runtime platform request files metadata' manifest') :
    metadata' = metadata ∧ manifest' = manifest :=
  ⟨Option.some.inj (h'.metadataSigned.symm.trans h.metadataSigned),
    Option.some.inj (h'.manifestSigned.symm.trans h.manifestSigned)⟩

theorem SharedChecks.manifestVersion
    (h : SharedChecks runtime platform request files metadata manifest) :
    manifestVersion platform request files = manifest.releaseVersion := by
  rw [RlyGateway.manifestVersion, h.manifestSigned]
  rfl

theorem find?_of_resolveTargetArtifact {channel : ReleaseChannel} {target status : String}
    (h : resolveTargetArtifact manifest channel target status = .ok artifact) :
    manifest.artifacts.find? (·.target = target) = some artifact := by
  unfold resolveTargetArtifact at h
  split at h
  · cases h
  rename_i found hfound
  rw [hfound]
  split at h
  · cases h
  split at h
  · cases h
  split at h
  · cases h
  cases h
  rfl

/-- Whatever the snapshot, it is the same artifact that is verified. -/
theorem Admits.unique (h : Admits runtime platform request files manifest snapshot artifact verified)
    (h' : Admits runtime platform request files manifest snapshot' artifact' verified') :
    artifact' = artifact ∧ verified' = verified := by
  have hartifact : artifact' = artifact := Option.some.inj
    ((find?_of_resolveTargetArtifact h'.resolved).symm.trans
      (find?_of_resolveTargetArtifact h.resolved))
  subst hartifact
  refine ⟨rfl, ?_⟩
  have hverified := h'.verified
  rw [Verified, (h.verified : _ = _)] at hverified
  exact (Except.ok.inj hverified).symm

end Unique

variable (remoteOptions : RemoteOptions) (localOptions : LocalOptions)

/-- The remote acquisition pinned to the manifest's version. -/
def acquirePinned : Except AcquisitionFailure VerifiedCandidate :=
  acquireVerifiedCandidate runtime platform request files
    { remoteOptions with version := some (manifestVersion platform request files) }

theorem acquirePinned_eq_ok {candidate : VerifiedCandidate} :
    acquirePinned runtime platform request files remoteOptions = .ok candidate ↔
      ∃ metadata manifest snapshot artifact verified,
        SharedChecks runtime platform request files metadata manifest ∧
        TakenRemotely runtime platform request files metadata manifest snapshot ∧
        Admits runtime platform request files manifest snapshot artifact verified ∧
        candidate = candidateOf request manifest.releaseVersion snapshot metadata artifact verified
          (remoteOptions.stagingDirectory ++ "/" ++ unpackedName artifact.filename) := by
  rw [acquirePinned, acquireVerifiedCandidate_eq_ok runtime platform request files rfl]
  constructor
  · rintro ⟨metadata, manifest, snapshot, artifact, verified, hshared, hversion, hdeclared, hbounds,
      hselected, hadmits, rfl⟩
    rw [← hversion] at hselected ⊢
    exact ⟨metadata, manifest, snapshot, artifact, verified, hshared,
      ⟨hdeclared, hbounds, hselected, artifact, verified, hadmits⟩, hadmits, rfl⟩
  · rintro ⟨metadata, manifest, snapshot, artifact, verified, hshared, htaken, hadmits, rfl⟩
    rw [hshared.manifestVersion]
    exact ⟨metadata, manifest, snapshot, artifact, verified, hshared, rfl, htaken.declared,
      htaken.bounds, htaken.selected, hadmits, rfl⟩

theorem verifyLocalAcquisition_eq_ok_iff_taken {candidate : VerifiedCandidate} :
    verifyLocalAcquisition runtime platform request files localOptions = .ok candidate ↔
      ∃ metadata manifest snapshot artifact verified,
        SharedChecks runtime platform request files metadata manifest ∧
        TakenLocally runtime platform request files metadata manifest snapshot ∧
        Admits runtime platform request files manifest snapshot artifact verified ∧
        candidate = candidateOf request manifest.releaseVersion snapshot metadata artifact verified
          (localOptions.tarballDirectory ++ "/" ++ unpackedName localOptions.tarballName) := by
  rw [verifyLocalAcquisition_eq_ok]
  constructor
  · rintro ⟨metadata, manifest, snapshot, artifact, verified, hshared, hselected, hversion, hadmits,
      rfl⟩
    rw [← hversion]
    exact ⟨metadata, manifest, snapshot, artifact, verified, hshared,
      ⟨hselected, hversion, artifact, verified, hadmits⟩, hadmits, rfl⟩
  · rintro ⟨metadata, manifest, snapshot, artifact, verified, hshared, htaken, hadmits, rfl⟩
    rw [htaken.version]
    exact ⟨metadata, manifest, snapshot, artifact, verified, hshared, htaken.selected,
      htaken.version, hadmits, rfl⟩

def downloadPlatform : DownloadPlatform String :=
  { releasePlatform with byteLength := String.length, syntaxError := fun _ => "Unexpected token" }

/-- The artifact of the small release, and what its metadata says of it. -/
def releaseArtifact : ManifestArtifact where
  filename := "rly.tar.gz"
  sizeBytes := 7
  sha256 := "db4b4d0d1cb480bf9aeea253771c00febe627f236765fa37d6a5614f079a3aa0"
  artifactDigest := "3ed09afbcc2eb46660a0bb2284a83c8a916c00705170539b49fc0da7c9c32cbb"
  target := "linux-x64"
  targetStatus := "supported"

def digestFields : List (String × Json) :=
  [("sha256", .str releaseArtifact.sha256), ("artifactDigest", .str releaseArtifact.artifactDigest)]

/-- Metadata of the small release that declares a channel. -/
def channelJson (declared : ReleaseChannel) : Json :=
  .obj [("channelSchemaVersion", .num 1), ("channel", .str declared.text), ("version", .num 1),
    ("updatedAt", .str "2026-01-01T00:00:00.000Z"),
    ("staleness", .obj [("maxAgeDays", .num 30)]), ("freeze", .obj [("frozen", .bool false)]),
    ("snapshots", .arr [.obj [("releaseVersion", .str "1"), ("sourceCommit", .str "c"),
      ("buildId", .str "b"), ("publishedAt", .str "2026-01-01T00:00:00.000Z"),
      ("manifestRef", .str "rly-release.json"),
      ("artifacts", .obj [("linux-x64", .obj digestFields)]),
      ("qualification", .obj [("status", .str "qualified")]), ("state", .str "current")]])]

def manifestJson : Json :=
  .obj [("manifestSchemaVersion", .num 1), ("product", .str "rly-gateway"),
    ("releaseVersion", .str "1"), ("releaseChannel", .str "beta"), ("sourceCommit", .str "c"),
    ("buildId", .str "b"), ("stateSchemaVersion", .num 1), ("controlProtocolVersion", .num 1),
    ("dataProtocolVersion", .num 1), ("publishedAt", .str "2026-01-01T00:00:00.000Z"),
    ("requiredSignatures", .arr [.str "s"]), ("requiredAttestations", .arr [.str "a"]),
    ("artifacts", .arr [.obj ([("target", .str "linux-x64"), ("filename", .str "rly.tar.gz"),
      ("sizeBytes", .num 7)] ++ digestFields ++ [("targetStatus", .str "supported"),
      ("requiredSignatures", .arr [.str "s"]), ("attestations", .arr [.str "a"])])])]

def signatureJson : Json :=
  .obj [("algorithm", .str "ed25519"), ("schemaVersion", .num 1),
    ("keyFingerprint", .str releaseArtifact.sha256), ("signature", .str "s")]

/-- The files of the small release, with metadata that declares a channel. -/
def releaseFiles (declared : ReleaseChannel) : ReleaseFiles String where
  channel := some (Json.stringify (channelJson declared))
  channelSignature := some (Json.stringify signatureJson)
  manifest := some (Json.stringify manifestJson)
  manifestSignature := some (Json.stringify signatureJson)
  tarball := some "tarball"
  tarballSignature := releaseInput.signatureBytes

/-- The acquisition of a beta release. -/
def betaRequest : AcquisitionRequest where
  channel := .beta
  target := .linuxX64
  publicKeyPem := ""
  now := "2026-01-01T00:00:00.000Z"
  highestObservedVersion := 0

def smallSnapshot : ChannelSnapshot where
  releaseVersion := "1"
  artifacts := [("linux-x64", ⟨releaseArtifact.sha256, releaseArtifact.artifactDigest⟩)]
  qualificationStatus := "qualified"
  state := some "current"

def releaseMetadata (declared : ReleaseChannel) : ChannelDocument where
  channel := declared
  version := 1
  updatedAt := "2026-01-01T00:00:00.000Z"
  maxAgeDays := 30
  frozen := false
  snapshots := [smallSnapshot]

def smallManifest : ReleaseManifest where
  toManifestFields := releaseInput.manifest
  artifacts := [releaseArtifact]

theorem wellFormed_channelJson (declared : ReleaseChannel) :
    (channelJson declared).WellFormed := by
  simp [channelJson, digestFields]

theorem wellFormed_manifestJson : manifestJson.WellFormed := by
  simp [manifestJson, digestFields]

theorem wellFormed_signatureJson : signatureJson.WellFormed := by
  simp [signatureJson]

theorem signatureEnvelopeSchema_signatureJson :
    signatureEnvelopeSchema signatureJson = some (releaseArtifact.sha256, "s") :=
  signatureEnvelopeSchema_releaseEnvelope

theorem publicKeyFingerprint_release :
    downloadPlatform.publicKeyFingerprint betaRequest.publicKeyPem = .ok releaseArtifact.sha256 :=
  congrArg Except.ok releaseSha256_empty

theorem channelMetadataSchema_channelJson :
    channelMetadataSchema (channelJson .stable) = some (releaseMetadata .stable) := by
  rfl

theorem releaseManifestSchema_manifestJson :
    releaseManifestSchema manifestJson = some smallManifest := by
  decide

/-- Both documents of the small release are signed. -/
theorem signedDocument_stringify {α : Type} {schema : Json → Option α} {value : Json} {document : α}
    (hformed : value.WellFormed) (hschema : schema value = some document) :
    signedDocument downloadPlatform betaRequest schema (some (Json.stringify value))
      (some (Json.stringify signatureJson)) = some document := by
  have hverified : verifyJsonSignature downloadPlatform.toAcquisitionPlatform
      betaRequest.publicKeyPem value signatureJson = .ok true := by
    unfold verifyJsonSignature verifySignature
    simp only [signatureEnvelopeSchema_signatureJson, publicKeyFingerprint_release]
    exact Except.bind_eq_ok.2 ⟨_, rfl, if_neg (not_not.2 rfl)⟩
  exact (signedDocument_eq_some downloadPlatform betaRequest).2
    ⟨_, _, value, signatureJson, rfl, rfl, Json.parse_stringify hformed,
      Json.parse_stringify wellFormed_signatureJson, hverified, hschema⟩

theorem sharedChecks_releaseFiles :
    SharedChecks releaseRuntime downloadPlatform betaRequest (releaseFiles .stable)
      (releaseMetadata .stable) smallManifest where
  metadataSigned :=
    signedDocument_stringify (wellFormed_channelJson .stable) channelMetadataSchema_channelJson
  evaluated := by decide +kernel
  manifestSigned :=
    signedDocument_stringify wellFormed_manifestJson releaseManifestSchema_manifestJson
  manifestChannel := rfl

theorem artifact?_smallSnapshot :
    smallSnapshot.artifact? betaRequest.target.text =
      some ⟨releaseArtifact.sha256, releaseArtifact.artifactDigest⟩ := by
  rfl

theorem expectedArtifact_release :
    releaseArtifact.toExpectedArtifact = releaseInput.expected := by
  simp only [releaseInput, releaseSha256_tarball]
  rfl

theorem verified_releaseFiles :
    Verified releaseRuntime downloadPlatform betaRequest (releaseFiles .stable) smallManifest
      releaseArtifact releaseVerified := by
  have hsame : SameArtifact releaseInput (heldInput downloadPlatform betaRequest
      (releaseFiles .stable) smallManifest releaseArtifact "" "") :=
    ⟨fun _ h => h, rfl, rfl, expectedArtifact_release, rfl, fun _ h => h⟩
  exact hsame.verifyUnpackedArtifact verifyUnpackedArtifact_release

theorem resolveTargetArtifact_release :
    resolveTargetArtifact smallManifest betaRequest.channel betaRequest.target.text
      smallSnapshot.qualificationStatus = .ok releaseArtifact := by
  rfl

theorem admits_releaseFiles :
    Admits releaseRuntime downloadPlatform betaRequest (releaseFiles .stable) smallManifest
      smallSnapshot releaseArtifact releaseVerified :=
  ⟨⟨_, artifact?_smallSnapshot, rfl, rfl⟩, resolveTargetArtifact_release, verified_releaseFiles⟩

theorem currentSnapshot_release :
    currentSnapshot (releaseMetadata .stable) = some smallSnapshot := by
  rfl

theorem releaseVersion_release : smallManifest.releaseVersion = smallSnapshot.releaseVersion := by
  rfl

def pinnedOptions : RemoteOptions := ⟨"https://github.com/o/r", none, "/staging", .ok []⟩

def downloadedOptions : LocalOptions := ⟨"/metadata", "/downloads", "rly.tar.gz"⟩

theorem acquirePinned_release :
    ∃ failure, acquirePinned releaseRuntime downloadPlatform betaRequest (releaseFiles .stable)
      pinnedOptions = .error failure := by
  cases hremote : acquirePinned releaseRuntime downloadPlatform betaRequest (releaseFiles .stable)
      pinnedOptions with
  | error failure => exact ⟨failure, rfl⟩
  | ok candidate =>
      obtain ⟨metadata, manifest, snapshot, -, -, hshared, htaken, -, -⟩ :=
        (acquirePinned_eq_ok releaseRuntime downloadPlatform betaRequest _ _).1 hremote
      have hdeclared := htaken.declared
      rw [(sharedChecks_releaseFiles.unique hshared).1] at hdeclared
      cases hdeclared

theorem verifyLocalAcquisition_release :
    ∃ candidate, verifyLocalAcquisition releaseRuntime downloadPlatform betaRequest
      (releaseFiles .stable) downloadedOptions = .ok candidate :=
  ⟨_, (verifyLocalAcquisition_eq_ok releaseRuntime downloadPlatform betaRequest _).2
    ⟨_, _, _, _, _, sharedChecks_releaseFiles, currentSnapshot_release, releaseVersion_release,
      admits_releaseFiles, rfl⟩⟩

end RlyGateway
