import Mathlib.Data.Set.Function
import RlyGateway.Core.Runtime
import RlyGateway.Installer.Acquire
import RlyGateway.Library.JsonNumber

/-!
# Reuse of a running gateway

A launcher takes a gateway that is running for its own if the gateway attests the instance and the
configuration of the record, and the very build whose digest the record has: `src/runtime/build-identity.ts`
and the reuse gate of `src/runtime/gateway-attestation.ts`.
-/

namespace RlyGateway

/-- The build a gateway serves, and its deployment if it serves one. -/
structure ServedBuild where
  semanticVersion : String
  commitRevision : String
  buildId : String
  releaseChannel : String
  controlProtocolVersion : ℕ
  dataProtocolVersion : ℕ
  stateSchemaVersion : ℕ
  artifactId : Option String
deriving DecidableEq, Repr

/-- What a gateway says of itself, with a proof that has been verified. -/
structure GatewayIdentity where
  instanceId : String
  configFingerprint : String
  build : Option ServedBuild
deriving DecidableEq, Repr

/-- The record of the gateway that was started last. -/
structure OwnershipRecord where
  instanceId : String
  executableFingerprint : String
  configFingerprint : String
deriving DecidableEq, Repr

/-- `String` of a version number. -/
def versionText (n : ℕ) : List Char := Nat.toDigits 10 n

/-- What is joined to be digested. -/
def ServedBuild.texts (build : ServedBuild) : List (List Char) :=
  ["rly-gateway".toList, build.semanticVersion.toList, build.commitRevision.toList, build.buildId.toList,
    build.releaseChannel.toList, versionText build.controlProtocolVersion,
    versionText build.dataProtocolVersion, versionText build.stateSchemaVersion,
    (build.artifactId.getD "").toList]

def ServedBuild.text (build : ServedBuild) : String :=
  String.ofList (['\x00'].intercalate build.texts)

/-- The text of a gateway that knows no builds. -/
def LEGACY_EXECUTABLE : String := "rly-gateway:0.1.0"

variable (runtime : NodeRuntime)

def buildIdentityDigest (build : ServedBuild) : String := runtime.sha256Hex build.text

def buildMatchesRecord (record : OwnershipRecord) (identity : GatewayIdentity) : Bool :=
  if record.executableFingerprint = runtime.sha256Hex LEGACY_EXECUTABLE then identity.build.isNone
  else identity.build.any fun build => buildIdentityDigest runtime build = record.executableFingerprint

def reusableRecord (record : OwnershipRecord) (identity : GatewayIdentity)
    (configFingerprint : String) : Bool :=
  record.instanceId = identity.instanceId && record.configFingerprint = configFingerprint &&
    identity.configFingerprint = configFingerprint && buildMatchesRecord runtime record identity

/-- A build of the schema, whose texts have no NUL in them. -/
structure ServedBuild.Valid (build : ServedBuild) : Prop where
  semanticVersion : '\x00' ∉ build.semanticVersion.toList
  commitRevision : '\x00' ∉ build.commitRevision.toList
  buildId : '\x00' ∉ build.buildId.toList
  releaseChannel : build.releaseChannel ∈ buildChannels
  artifactId : ∀ artifactId ∈ build.artifactId, isSha256Hex artifactId = true

theorem versionText_injective : Function.Injective versionText := by
  intro n m h
  rw [← Json.digitsValue_toDigits n, ← Json.digitsValue_toDigits m]
  exact congrArg Json.digitsValue h

theorem nul_not_mem_versionText (n : ℕ) : '\x00' ∉ versionText n :=
  fun h => absurd (Json.areDigits_toDigits n _ h) (by decide)

theorem nul_not_mem_of_isSha256Hex {text : String} (h : isSha256Hex text = true) :
    '\x00' ∉ text.toList := by
  obtain ⟨-, hall⟩ := of_decide_eq_true h
  intro hmem
  have hhex := of_decide_eq_true (List.all_eq_true.1 hall _ hmem)
  revert hhex
  decide

namespace ServedBuild

variable {build other : ServedBuild}

theorem Valid.nul_not_mem (h : build.Valid) : ∀ text ∈ build.texts, '\x00' ∉ text := by
  have hchannel : ∀ channel ∈ buildChannels, '\x00' ∉ channel.toList := by decide
  have hartifact : '\x00' ∉ (build.artifactId.getD "").toList := by
    cases hid : build.artifactId with
    | none => decide
    | some artifactId => exact nul_not_mem_of_isSha256Hex (h.artifactId artifactId hid)
  simp only [texts, List.forall_mem_cons]
  exact ⟨by decide, h.semanticVersion, h.commitRevision, h.buildId, hchannel _ h.releaseChannel,
    nul_not_mem_versionText _, nul_not_mem_versionText _, nul_not_mem_versionText _, hartifact,
    List.forall_mem_nil _⟩

/-- No deployment is taken for none. -/
theorem Valid.artifactId_eq (h : build.Valid) (h' : other.Valid)
    (heq : build.artifactId.getD "" = other.artifactId.getD "") :
    build.artifactId = other.artifactId := by
  have hne {build : ServedBuild} (h : build.Valid) : build.artifactId ≠ some "" := by
    intro hid
    exact absurd (h.artifactId "" hid) (by decide)
  have hbuild := hne h
  have hother := hne h'
  generalize build.artifactId = deployment, other.artifactId = deployment' at heq hbuild hother ⊢
  cases deployment with
  | none =>
      cases deployment' with
      | none => rfl
      | some artifactId' => exact absurd (congrArg some heq.symm) hother
  | some artifactId =>
      cases deployment' with
      | none => exact absurd (congrArg some heq) hbuild
      | some artifactId' => exact congrArg some heq

/-- The text of a build tells the build. -/
theorem Valid.text_inj (h : build.Valid) (h' : other.Valid) (heq : build.text = other.text) :
    build = other := by
  have htexts : build.texts = other.texts := by
    rw [← List.splitOn_intercalate '\x00' h.nul_not_mem (List.cons_ne_nil _ _),
      ← List.splitOn_intercalate '\x00' h'.nul_not_mem (List.cons_ne_nil _ _)]
    exact congrArg (List.splitOn '\x00') (String.ofList_injective heq)
  simp only [texts, List.cons.injEq, String.toList_inj, versionText_injective.eq_iff, true_and,
    and_true] at htexts
  obtain ⟨hsemantic, hcommit, hbuild, hchannel, hcontrol, hdata, hstate, hartifact⟩ := htexts
  have hartifact := h.artifactId_eq h' hartifact
  cases build
  cases other
  simp_all

/-- A text with no NUL is that of no build. -/
theorem text_ne_legacy : build.text ≠ LEGACY_EXECUTABLE := by
  intro h
  have hmem : '\x00' ∈ build.text.toList := by
    rw [text, String.toList_ofList, texts, List.intercalate_cons_cons]
    simp
  rw [h] at hmem
  revert hmem
  decide

end ServedBuild

end RlyGateway
