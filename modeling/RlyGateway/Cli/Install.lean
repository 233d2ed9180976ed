import RlyGateway.Library.Transaction
import RlyGateway.Installer.Acquire
import RlyGateway.Runtime.Update.Installer

/-!
# Repair of an installation

A verified artifact is compared with the serving deployment, by the digest the acquisition took of
its tree and the identity the store gave it. The store's identity counts every file of the tree, and
the acquisition's digest leaves one of them out, so the two never agree.
-/

namespace RlyGateway

/-- What a repair reports. -/
structure RepairResult where
  code : ℤ
  updated : Bool
  message : String
deriving DecidableEq, Repr

/-- What a repair takes from a verified artifact. -/
structure RepairCandidate where
  version : String
  channel : String
  artifactDigest : String
deriving DecidableEq, Repr

/-- The target of a reference to a deployment. -/
def refTarget (artifactId : String) : String := "../versions/" ++ artifactId

/-- The deployment a reference with a target points at. -/
def servingArtifactOf (target : String) : Option String :=
  let artifactId := String.ofList (target.toList.drop "../versions/".length)
  if target = refTarget artifactId ∧ isSha256Hex artifactId then some artifactId else none

/-- The first 16 characters of a digest. -/
def shortDigest (digest : String) : String := String.ofList (digest.toList.take 16)

/-- The repair of an installation: its record of where the configuration is, the target of the active
reference, and the code the initialization ends with. -/
def repairInstall (installation activeTarget : Option String) (candidate : RepairCandidate)
    (runInit : String → ℤ) : RepairResult :=
  match installation with
  | none => ⟨1, false, "no RLY installation record exists; run `rly install` on a clean home"⟩
  | some configPath =>
      match activeTarget.bind servingArtifactOf with
      | none => ⟨1, false, "the installation has no committed active deployment; " ++
          "run `rly init` or `rly doctor` to recover"⟩
      | some servingArtifact =>
          let sameArtifact := decide (servingArtifact = candidate.artifactDigest)
          let code := runInit configPath
          if code ≠ 0 then ⟨code, false, "service repair failed; run `rly doctor`"⟩
          else
            ⟨0, !sameArtifact,
              if sameArtifact then "serving artifact " ++ shortDigest servingArtifact ++
                "… verified; bootstrap and service definitions repaired idempotently"
              else "verified update " ++ candidate.version ++ " is available (serving " ++
                shortDigest servingArtifact ++ "…); run `rly update --channel " ++
                candidate.channel ++ "` to install and activate (INSTALL != ACTIVATE)"⟩

/-- The repair finds the serving deployment to be the verified artifact. -/
def RepairResult.ReportsSame (result : RepairResult) : Prop :=
  result.code = 0 ∧ result.updated = false

theorem eq_of_servingArtifactOf_eq_some {artifactId serving : String}
    (h : servingArtifactOf (refTarget artifactId) = some serving) : serving = artifactId := by
  have hdrop : String.ofList ((refTarget artifactId).toList.drop "../versions/".length) =
      artifactId := by
    unfold refTarget
    rw [String.toList_append, List.drop_left' (by rfl), String.ofList_toList]
  unfold servingArtifactOf at h
  simp only [hdrop] at h
  split at h
  · exact (Option.some.inj h).symm
  · cases h

/-- A repair that finds the same artifact has compared two equal digests. -/
theorem RepairResult.ReportsSame.eq {installation : Option String} {artifactId : String}
    {candidate : RepairCandidate} {runInit : String → ℤ}
    (h : (repairInstall installation (some (refTarget artifactId)) candidate runInit).ReportsSame) :
    artifactId = candidate.artifactDigest := by
  obtain ⟨hcode, hupdated⟩ := h
  unfold repairInstall at hcode hupdated
  cases installation with
  | none => cases hcode
  | some configPath =>
      rw [Option.bind_some] at hcode hupdated
      cases hserving : servingArtifactOf (refTarget artifactId) with
      | none =>
          rw [hserving] at hcode
          cases hcode
      | some serving =>
          rw [hserving] at hcode hupdated
          dsimp only at hcode hupdated
          split at hcode
          · rename_i hne
            exact absurd hcode hne
          · rename_i hzero
            rw [if_neg hzero] at hupdated
            have hsame : serving = candidate.artifactDigest := by
              rw [Bool.not_eq_false'] at hupdated
              exact of_decide_eq_true hupdated
            rw [← eq_of_servingArtifactOf_eq_some hserving]
            exact hsame

/-! ## Installations -/

variable {Bytes : Type} (runtime : NodeRuntime) (platform : AcquisitionPlatform Bytes)

/-- A tree at a directory was installed as a deployment. -/
def InstalledAs (sourceDirectory : List String) (tree : DirectoryListing Bytes)
    (artifactId : String) : Prop :=
  ∃ (dependencies : UpdateRuntimeDependencies) (input : InstallCandidateInput)
    (before after : UpdateProgress) (result : CandidateInstallResult),
    computeArtifactId runtime platform.toContentPlatform sourceDirectory tree =
        .ok input.source.artifactId ∧
      LocalCandidateInstaller.installCandidate dependencies input before = .ok result after ∧
      result.artifactId = artifactId

/-- An installation reports the identity of the tree it installed. -/
theorem installCandidate_artifactId {dependencies : UpdateRuntimeDependencies}
    {input : InstallCandidateInput} {before after : UpdateProgress} {result : CandidateInstallResult}
    (h : LocalCandidateInstaller.installCandidate dependencies input before = .ok result after) :
    result.artifactId = input.source.artifactId := by
  obtain ⟨_, _, -, h⟩ := EStateM.bind_eq_ok.1 h
  split at h
  · exact absurd h EStateM.throw_ne_ok
  · obtain ⟨_, _, -, h⟩ := EStateM.bind_eq_ok.1 h
    obtain ⟨metadata, _, -, h⟩ := EStateM.bind_eq_ok.1 h
    obtain ⟨_, _, -, h⟩ := EStateM.bind_eq_ok.1 h
    obtain ⟨active, _, -, h⟩ := EStateM.bind_eq_ok.1 h
    rw [(EStateM.pure_eq_ok.1 h).1]
    rfl

theorem InstalledAs.computeArtifactId_eq {sourceDirectory : List String}
    {tree : DirectoryListing Bytes} {artifactId : String}
    (h : InstalledAs runtime platform sourceDirectory tree artifactId) :
    computeArtifactId runtime platform.toContentPlatform sourceDirectory tree = .ok artifactId := by
  obtain ⟨dependencies, input, before, after, result, hcompute, hinstall, rfl⟩ := h
  rw [hcompute, installCandidate_artifactId hinstall]

/-! ## The two digests -/

/-- The repair reports the same artifact just for the deployments installed from the accepted
tree. -/
def AgreesWithRepair (verified : VerifiedArtifact Bytes) : Prop :=
  ∀ (sourceDirectory : List String) (tree : DirectoryListing Bytes) (artifactId : String),
    InstalledAs runtime platform sourceDirectory tree artifactId →
    ∀ (configPath version channel : String) (runInit : String → ℤ), runInit configPath = 0 →
      ((repairInstall (some configPath) (some (refTarget artifactId))
          ⟨version, channel, verified.artifactDigest⟩ runInit).ReportsSame ↔
        tree.SameTree verified.tree)

/-- SHA-256 does not collide on the two texts that the digests of a tree are taken over. -/
def DigestsApart (sourceDirectory : List String) (tree : DirectoryListing Bytes) : Prop :=
  ∀ acquired installed,
    (acquisitionWalk platform ["rly-artifact.json"]).leaves tree = .ok acquired →
    (deploymentWalk runtime platform.toContentPlatform sourceDirectory).leaves tree =
      .ok installed →
    runtime.sha256Hex (leavesText acquired) = runtime.sha256Hex (leavesText installed) →
    leavesText acquired = leavesText installed

/-- The store's walk covers that of the acquisition. -/
theorem deploymentWalk_covers (sourceDirectory exclude : List String) :
    (deploymentWalk runtime platform.toContentPlatform sourceDirectory).Covers
      (acquisitionWalk platform exclude) where
  skips _ := rfl
  fileLabel _ := rfl
  linkLabel path target label label' h h' := by
    unfold deploymentWalk at h
    unfold acquisitionWalk at h'
    dsimp only at h h'
    split at h
    · split at h'
      · cases h'
      · cases h
        cases h'
        rfl
    · cases h

/-- The acquisition's digest of an accepted tree is not the store's identity of it. -/
theorem artifactDigest_ne_of_computeArtifactId {input : UnpackInput Bytes}
    {verified : VerifiedArtifact Bytes}
    (haccepted : verifyUnpackedArtifact runtime platform input = .ok verified)
    {sourceDirectory : List String} {artifactId : String}
    (hcompute : computeArtifactId runtime platform.toContentPlatform sourceDirectory verified.tree =
      .ok artifactId)
    (hapart : DigestsApart runtime platform sourceDirectory verified.tree) :
    artifactId ≠ verified.artifactDigest := by
  obtain ⟨hdigest, leaf, hlookup, hleaf⟩ := verifyUnpackedArtifact_eq_ok runtime platform haccepted
  obtain ⟨acquired, hacquired, hacquiredId⟩ := Except.map_eq_ok.1 hdigest
  obtain ⟨installed, hinstalled, hinstalledId⟩ := Except.map_eq_ok.1 hcompute
  obtain ⟨others, hothers, hperm⟩ :=
    (deploymentWalk_covers runtime platform sourceDirectory ["rly-artifact.json"]).leaves
      (by rfl) hlookup hleaf hacquired hinstalled
  intro heq
  have hsha : runtime.sha256Hex (leavesText acquired) = runtime.sha256Hex (leavesText installed) := by
    rw [hacquiredId, hinstalledId, heq]
  have htext := hapart acquired installed hacquired hinstalled hsha
  have hlt := length_leavesText_lt hothers hperm
  rw [htext] at hlt
  exact lt_irrefl _ hlt

/-! ## A release with three files -/

/-- The contents of the files of a small release. -/
def releaseBuildText : String :=
  "\x7b\"semanticVersion\":\"1\",\"commitRevision\":\"c\",\"buildId\":\"b\",\"releaseChannel\":\"beta\",\"controlProtocolVersion\":1,\"dataProtocolVersion\":1,\"stateSchemaVersion\":1\x7d"

def releaseManifestText : String :=
  "\x7b\"product\":\"rly-gateway\",\"version\":\"1\",\"stateVersion\":1\x7d"

/-- The tree of a small release. -/
def releaseTree : DirectoryListing String :=
  .entry "rly.json" (.file releaseManifestText) <|
  .entry "rly-build.json" (.file releaseBuildText) <|
  .entry "rly-artifact.json" (.file "\x7b\x7d") .empty

/-- The SHA-256 digests of what is hashed of it. -/
def releaseSha256 (text : String) : String :=
  if text = releaseBuildText then
    "fede50b8156895d4a444896c9e7ad5fcaf404cc7558488557980769abcd7c848"
  else if text = releaseManifestText then
    "e91730bd72bdbd666dcdbf22f162484ba777cb70b59042d9ff134ff84eafe58d"
  else if text = "\x7b\x7d" then
    "44136fa355b3678a1146ad16f7e8649e94fb4fc21fe77e8310c060f61caaff8a"
  else if text = "rly-build.json\x00fede50b8156895d4a444896c9e7ad5fcaf404cc7558488557980769abcd7c848\x00rly.json\x00e91730bd72bdbd666dcdbf22f162484ba777cb70b59042d9ff134ff84eafe58d\x00" then
    "3ed09afbcc2eb46660a0bb2284a83c8a916c00705170539b49fc0da7c9c32cbb"
  else if text = "rly-artifact.json\x0044136fa355b3678a1146ad16f7e8649e94fb4fc21fe77e8310c060f61caaff8a\x00rly-build.json\x00fede50b8156895d4a444896c9e7ad5fcaf404cc7558488557980769abcd7c848\x00rly.json\x00e91730bd72bdbd666dcdbf22f162484ba777cb70b59042d9ff134ff84eafe58d\x00" then
    "b6b80fdb6b065f2aca13248005a6a32a3e0007f11e8beee0d735aa3521c52e10"
  else "db4b4d0d1cb480bf9aeea253771c00febe627f236765fa37d6a5614f079a3aa0"

/-- A platform on which the small release is what the tarball unpacks to. -/
def releasePlatform : AcquisitionPlatform String where
  sha256Of := releaseSha256
  decode := id
  readThrough _ _ := .error "ENOENT: no such file or directory"
  publicKeyFingerprint _ := .ok (releaseSha256 "")
  verify _ _ _ := .ok true
  untar _ := .ok releaseTree
  issues _ _ := ""

def releaseRuntime : NodeRuntime := { isoRuntime with sha256Hex := releaseSha256 }

/-- The acquisition of the small release. -/
def releaseInput : UnpackInput String where
  tarballPath := "/staging/rly.tar.gz"
  tarball := .ok "tarball"
  tarballSize := some 7
  unpackedDirectory := "/staging/rly.unpacked"
  publicKeyPem := ""
  expected := ⟨"rly.tar.gz", 7, releaseSha256 "tarball", "3ed09afbcc2eb46660a0bb2284a83c8a916c00705170539b49fc0da7c9c32cbb"⟩
  manifest := ⟨"1", "c", "b", "beta", 1, 1, 1⟩
  signatureBytes := some
    "\x7b\"algorithm\":\"ed25519\",\"schemaVersion\":1,\"keyFingerprint\":\"db4b4d0d1cb480bf9aeea253771c00febe627f236765fa37d6a5614f079a3aa0\",\"signature\":\"s\"\x7d"
  signatureFile := .error ""

/-- The small release as it is accepted. -/
def releaseVerified : VerifiedArtifact String where
  sha256 := releaseSha256 "tarball"
  artifactDigest := "3ed09afbcc2eb46660a0bb2284a83c8a916c00705170539b49fc0da7c9c32cbb"
  buildMeta := ⟨"1", "c", "b", "beta", 1, 1, 1⟩
  tree := releaseTree

/-! ### Its files -/

set_option maxRecDepth 4000 in
theorem parse_releaseBuildText : Json.parse releaseBuildText = some (.obj
    [("semanticVersion", .str "1"), ("commitRevision", .str "c"), ("buildId", .str "b"),
      ("releaseChannel", .str "beta"), ("controlProtocolVersion", .num 1),
      ("dataProtocolVersion", .num 1), ("stateSchemaVersion", .num 1)]) :=
  Json.parse_of_parseValue rfl (by decide +kernel)

theorem parse_releaseManifestText : Json.parse releaseManifestText = some (.obj
    [("product", .str "rly-gateway"), ("version", .str "1"), ("stateVersion", .num 1)]) :=
  Json.parse_of_parseValue rfl (by decide +kernel)

theorem readBuildIdentity_release (root filename : String) :
    readBuildIdentity releasePlatform root filename releaseTree =
      .ok releaseVerified.buildMeta := by
  have hfile : readTreeFile releasePlatform releaseTree "rly-build.json" =
      .ok releaseBuildText := by
    simp [readTreeFile, releaseTree, DirectoryListing.lookup]
  unfold readBuildIdentity
  rw [readTreeJson_of_parse hfile rfl parse_releaseBuildText]
  rfl

theorem readCandidateManifest_release (root filename : String) :
    readCandidateManifest releasePlatform root filename releaseTree = .ok (some "1") := by
  have hfile : readTreeFile releasePlatform releaseTree "rly.json" = .ok releaseManifestText := by
    simp [readTreeFile, releaseTree, DirectoryListing.lookup]
  unfold readCandidateManifest
  rw [readTreeJson_of_parse hfile rfl parse_releaseManifestText]
  rfl

theorem readArtifactMetadata_release (root filename : String) :
    readArtifactMetadata releasePlatform root filename releaseTree = .ok none := by
  have hfile : readTreeFile releasePlatform releaseTree "rly-artifact.json" = .ok "\x7b\x7d" := by
    simp [readTreeFile, releaseTree, DirectoryListing.lookup]
  have hparse : Json.parse "\x7b\x7d" = some (.obj []) := Json.parse_of_parseValue rfl rfl
  unfold readArtifactMetadata
  rw [readTreeJson_of_parse hfile rfl hparse]
  rfl

theorem treeDigestExcluding_release :
    treeDigestExcluding releaseRuntime releasePlatform releaseTree ["rly-artifact.json"] =
      .ok releaseVerified.artifactDigest := by
  decide +kernel

theorem verifyTree_release (sha256 : String) :
    verifyTree releaseRuntime releasePlatform releaseInput sha256 releaseTree =
      .ok { releaseVerified with sha256 } := by
  have hidentity : releaseManifestMatchesIdentity releaseInput.manifest releaseVerified.buildMeta =
      [] := rfl
  unfold verifyTree
  dsimp only
  rw [readBuildIdentity_release, readCandidateManifest_release, readArtifactMetadata_release,
    treeDigestExcluding_release]
  simp only [bind, Except.bind, hidentity]
  rfl

/-! ### Its signature -/

/-- What the signature of the small release says. -/
def releaseEnvelope : Json :=
  .obj [("algorithm", .str "ed25519"), ("schemaVersion", .num 1),
    ("keyFingerprint",
      .str "db4b4d0d1cb480bf9aeea253771c00febe627f236765fa37d6a5614f079a3aa0"),
    ("signature", .str "s")]

set_option maxRecDepth 4000 in
theorem parse_releaseSignature :
    Json.parse (releaseInput.signatureBytes.getD "") = some releaseEnvelope :=
  Json.parse_of_parseValue rfl (by decide +kernel)

theorem releaseSha256_empty : releaseSha256 "" =
    "db4b4d0d1cb480bf9aeea253771c00febe627f236765fa37d6a5614f079a3aa0" := by
  simp [releaseSha256, releaseBuildText, releaseManifestText]

theorem releaseSha256_tarball : releaseSha256 "tarball" =
    "db4b4d0d1cb480bf9aeea253771c00febe627f236765fa37d6a5614f079a3aa0" := by
  simp [releaseSha256, releaseBuildText, releaseManifestText]

theorem isSha256Hex_fingerprint : isSha256Hex
    "db4b4d0d1cb480bf9aeea253771c00febe627f236765fa37d6a5614f079a3aa0" = true := by
  decide

theorem signatureEnvelopeSchema_releaseEnvelope : signatureEnvelopeSchema releaseEnvelope =
    some ("db4b4d0d1cb480bf9aeea253771c00febe627f236765fa37d6a5614f079a3aa0", "s") := by
  decide

theorem sha256_releaseInput : releaseInput.expected.sha256 = releaseSha256 "tarball" := by
  simp only [releaseInput]

theorem checkSignature_release :
    checkSignature releasePlatform releaseInput releaseInput.expected.sha256
      (releaseInput.signatureBytes.getD "") = .ok () := by
  have htext : releasePlatform.decode (releaseInput.signatureBytes.getD "") =
      releaseInput.signatureBytes.getD "" := rfl
  have hsha256 : isSha256Hex releaseInput.expected.sha256 = true := by
    rw [sha256_releaseInput, releaseSha256_tarball]
    exact isSha256Hex_fingerprint
  have hkey : releasePlatform.publicKeyFingerprint releaseInput.publicKeyPem =
      .ok "db4b4d0d1cb480bf9aeea253771c00febe627f236765fa37d6a5614f079a3aa0" := by
    show Except.ok (releaseSha256 "") = _
    rw [releaseSha256_empty]
  exact checkSignature_of_verify htext parse_releaseSignature hsha256
    signatureEnvelopeSchema_releaseEnvelope hkey rfl

theorem verifyUnpackedArtifact_release :
    verifyUnpackedArtifact releaseRuntime releasePlatform releaseInput = .ok releaseVerified := by
  have htarball : releaseInput.tarball = .ok "tarball" := rfl
  have hbytes : signatureOf releaseInput = .ok (releaseInput.signatureBytes.getD "") := rfl
  have huntar : releasePlatform.untar "tarball" = .ok releaseTree := rfl
  have hsize : releaseInput.tarballSize.any (· ≠ releaseInput.expected.sizeBytes) = false := rfl
  have hsha256 : releasePlatform.sha256Of "tarball" = releaseInput.expected.sha256 := by
    simp only [releasePlatform, sha256_releaseInput]
  have htree := verifyTree_release releaseInput.expected.sha256
  rw [sha256_releaseInput] at htree
  refine verifyUnpackedArtifact_of_verifyTree htarball hsha256 hsize hbytes checkSignature_release
    huntar ?_
  rw [sha256_releaseInput]
  exact htree

/-- The identity the store gives the small release. -/
def releaseArtifactId : String :=
  "b6b80fdb6b065f2aca13248005a6a32a3e0007f11e8beee0d735aa3521c52e10"

theorem computeArtifactId_release :
    computeArtifactId releaseRuntime releasePlatform.toContentPlatform ["staging", "rly.unpacked"]
      releaseTree = .ok releaseArtifactId := by
  decide +kernel

/-- The small release is installed where nothing fails. -/
theorem installedAs_release :
    InstalledAs releaseRuntime releasePlatform ["staging", "rly.unpacked"] releaseTree
      releaseArtifactId :=
  ⟨.undisturbed, ⟨"1", ⟨releaseArtifactId, some ⟨"1", 1, none, none⟩, false⟩⟩,
    ⟨⟨none, none, none, none, .empty⟩, [], 0⟩, _, _, computeArtifactId_release, rfl, rfl⟩

theorem digestsApart_release :
    DigestsApart releaseRuntime releasePlatform ["staging", "rly.unpacked"] releaseTree := by
  intro acquired installed hacquired hinstalled hsha
  have hacquiredId := treeDigestExcluding_release
  have hinstalledId := computeArtifactId_release
  unfold treeDigestExcluding at hacquiredId
  unfold computeArtifactId at hinstalledId
  rw [hacquired] at hacquiredId
  rw [hinstalled] at hinstalledId
  have hids : releaseVerified.artifactDigest = releaseArtifactId := by
    rw [← Except.ok.inj hacquiredId, ← Except.ok.inj hinstalledId]
    exact hsha
  exact absurd hids (by decide)

/-! ## The repair of an installed artifact -/

/-- The repair never finds an installed artifact to be the same as itself. -/
theorem not_agreesWithRepair {input : UnpackInput Bytes} {verified : VerifiedArtifact Bytes}
    (haccepted : verifyUnpackedArtifact runtime platform input = .ok verified)
    {sourceDirectory : List String} {artifactId : String}
    (hinstalled : InstalledAs runtime platform sourceDirectory verified.tree artifactId)
    (hapart : DigestsApart runtime platform sourceDirectory verified.tree) :
    ¬ AgreesWithRepair runtime platform verified := by
  intro hagrees
  have hsame := (hagrees sourceDirectory verified.tree artifactId hinstalled "" "" "" (fun _ => 0)
    rfl).2 fun _ => rfl
  exact artifactDigest_ne_of_computeArtifactId runtime platform haccepted
    (hinstalled.computeArtifactId_eq runtime platform) hapart hsame.eq

theorem not_agreesWithRepair_release :
    ¬ AgreesWithRepair releaseRuntime releasePlatform releaseVerified :=
  not_agreesWithRepair releaseRuntime releasePlatform verifyUnpackedArtifact_release
    installedAs_release digestsApart_release

/-- Accepted and installed is not enough for the repair to tell the same artifact from another. -/
theorem repairInstall_release_updates :
    ¬ ∀ verified : VerifiedArtifact String,
      (∃ input, verifyUnpackedArtifact releaseRuntime releasePlatform input = .ok verified) →
      (∃ sourceDirectory artifactId,
        InstalledAs releaseRuntime releasePlatform sourceDirectory verified.tree artifactId) →
      AgreesWithRepair releaseRuntime releasePlatform verified := by
  intro hagrees
  have hsame := (hagrees releaseVerified ⟨_, verifyUnpackedArtifact_release⟩
    ⟨_, _, installedAs_release⟩ _ releaseTree _ installedAs_release "" "1" "beta" (fun _ => 0)
    rfl).2 fun _ => rfl
  have hupdated : (repairInstall (some "") (some (refTarget releaseArtifactId))
      ⟨"1", "beta", releaseVerified.artifactDigest⟩ fun _ => 0).updated = true := by
    decide
  exact absurd hsame.2 (by rw [hupdated]; decide)

end RlyGateway
