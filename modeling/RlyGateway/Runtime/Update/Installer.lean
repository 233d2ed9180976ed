import RlyGateway.Runtime.Update.Store

/-!
# The local installer

Candidates are installed as immutable deployments, named by the digest of their bytes. Installing
changes only the staged reference; the active one is switched by an activation and by a rollback,
one reference after the other.
-/

namespace RlyGateway

variable (dependencies : UpdateRuntimeDependencies)

/-- A reference of the files. -/
def UpdateFiles.target (files : UpdateFiles) : ReferenceName → Option String
  | .staged => files.staged
  | .active => files.active
  | .previous => files.previous

/-- A reference pointed elsewhere. -/
def UpdateFiles.point (files : UpdateFiles) (target : Option String) : ReferenceName → UpdateFiles
  | .staged => { files with staged := target }
  | .active => { files with active := target }
  | .previous => { files with previous := target }

namespace LocalCandidateInstaller

/-- The product the installer installs. -/
def product : String := "rly-gateway"

/-- The layout of the store, which exists and has been migrated. -/
def ensureRuntimeLayout (call : InstallerCall) : UpdateM Unit := do
  let progress ← get
  note progress.moment (.called call)
  let _ ← attempt dependencies (.installer call)
  pure ()

/-- The metadata of a complete deployment. -/
def validateDeployment (call : InstallerCall) (artifactId : String) : UpdateM DeploymentMetadata := do
  let _ ← attempt dependencies (.installer call)
  let files ← currentFiles
  match files.deployments.get? artifactId with
  | none =>
      throw (.thrown ("deployment is missing: " ++ artifactId ++
        "; run rly update to re-install or rly doctor"))
  | some deployment =>
      if deployment.manifest = none ∧ deployment.hasEntrypoint = false then
        throw (.thrown ("deployment layout is incomplete (no rly.json or dist/cli/main.js): " ++
          artifactId ++ "; run rly doctor"))
      else pure deployment.metadata

/-- The deployment a reference points at, and its version. -/
def resolveRef (call : InstallerCall) (reference : ReferenceName) :
    UpdateM (Option (String × String)) := do
  let _ ← attempt dependencies (.installer call)
  let files ← currentFiles
  match files.target reference with
  | none => pure none
  | some artifactId =>
      let metadata ← validateDeployment dependencies call artifactId
      pure (some (artifactId, metadata.version))

/-- A reference replaced or removed. -/
def replaceReference (call : InstallerCall) (reference : ReferenceName) (target : Option String) :
    UpdateM Unit :=
  perform dependencies (.writeReference call reference) (.pointed call reference target) fun files =>
    files.point target reference

/-- What is reported of a deployment and of the one it displaces. -/
def installResult (version artifactId : String) (displaced : Option (String × String)) :
    CandidateInstallResult where
  version := version
  artifactId := artifactId
  previousVersion := displaced.map Prod.snd
  previousArtifactId := displaced.map Prod.fst

/-- The deployment a candidate becomes. -/
def deploymentOf (input : InstallCandidateInput) : Deployment where
  metadata := ⟨product, (input.source.manifest.map (·.version)).getD input.version⟩
  manifest := input.source.manifest
  hasEntrypoint := input.source.hasEntrypoint

/-- A candidate's tree copied to the deployments, unless it is there. -/
def deploy (input : InstallCandidateInput) : UpdateM Unit := do
  let files ← currentFiles
  if (files.deployments.get? input.source.artifactId).isSome then pure ()
  else
    perform dependencies .deploy (.deployed input.source.artifactId) fun files =>
      { files with
        deployments := files.deployments.set input.source.artifactId (deploymentOf input) }

/-- A candidate staged as an immutable deployment; one that is there is left as it is. -/
def installCandidate (input : InstallCandidateInput) : UpdateM CandidateInstallResult := do
  ensureRuntimeLayout dependencies .installCandidate
  if input.source.manifest = none ∧ input.source.hasEntrypoint = false then
    throw (.thrown ("candidate is not a valid RLY runtime candidate: " ++
      "expected rly.json or dist/cli/main.js"))
  else
    deploy dependencies input
    let metadata ← validateDeployment dependencies .installCandidate input.source.artifactId
    replaceReference dependencies .installCandidate .staged (some input.source.artifactId)
    let active ← resolveRef dependencies .installCandidate .active
    pure (installResult metadata.version input.source.artifactId active)

/-- Whether the staged candidate is present and valid. -/
def verifyCandidate : UpdateM CandidateVerification := do
  ensureRuntimeLayout dependencies .verifyCandidate
  let staged ← resolveRef dependencies .verifyCandidate .staged
  match staged with
  | none => pure ⟨false, "none", none, some "no staged candidate is selected"⟩
  | some (artifactId, version) =>
      catching
        (do
          let metadata ← validateDeployment dependencies .verifyCandidate artifactId
          if metadata.product ≠ product then
            pure ⟨false, version, none, some ("candidate product is " ++ metadata.product ++
              ", not " ++ product)⟩
          else pure ⟨true, version, some artifactId, none⟩)
        fun message =>
          pure ⟨false, version, none, some ("staged candidate deployment is missing or malformed: " ++
            message ++ "; run rly doctor")⟩

/-- The active reference switched to the staged deployment. The displaced deployment becomes the
previous one before the switch. -/
def activateStaged : UpdateM CandidateInstallResult := do
  ensureRuntimeLayout dependencies .activateStaged
  let staged ← resolveRef dependencies .activateStaged .staged
  match staged with
  | none =>
      throw (.thrown "no staged candidate is available to activate; re-run rly update")
  | some (artifactId, version) =>
      let active ← resolveRef dependencies .activateStaged .active
      if active.map Prod.fst = some artifactId then
        pure (installResult version artifactId active)
      else
        replaceReference dependencies .activateStaged .previous (active.map Prod.fst)
        replaceReference dependencies .activateStaged .active (some artifactId)
        pure (installResult version artifactId active)

/-- The active and the previous reference established anew from the journal, the previous one
first. -/
def setActiveReferences (activeArtifactId : String) (previousArtifactId : Option String) :
    UpdateM Unit := do
  ensureRuntimeLayout dependencies .setActiveReferences
  let _ ← validateDeployment dependencies .setActiveReferences activeArtifactId
  if let some artifactId := previousArtifactId then
    let _ ← validateDeployment dependencies .setActiveReferences artifactId
  replaceReference dependencies .setActiveReferences .previous previousArtifactId
  replaceReference dependencies .setActiveReferences .active (some activeArtifactId)

/-- The previous deployment made active again. -/
def restorePrevious : UpdateM CandidateInstallResult := do
  ensureRuntimeLayout dependencies .restorePrevious
  let previous ← resolveRef dependencies .restorePrevious .previous
  match previous with
  | none =>
      throw (.thrown "no previous known-good version is available for rollback")
  | some (artifactId, version) =>
      let active ← resolveRef dependencies .restorePrevious .active
      replaceReference dependencies .restorePrevious .active (some artifactId)
      replaceReference dependencies .restorePrevious .previous (active.map Prod.fst)
      pure (installResult version artifactId active)

/-- The manifest of the staged candidate. -/
def readManifest : UpdateM (Option CandidateManifest) := do
  ensureRuntimeLayout dependencies .readManifest
  let staged ← resolveRef dependencies .readManifest .staged
  match staged with
  | none => pure none
  | some (artifactId, _) =>
      let _ ← attempt dependencies (.installer .readManifest)
      let files ← currentFiles
      pure ((files.deployments.get? artifactId).bind (·.manifest))

end LocalCandidateInstaller

end RlyGateway
