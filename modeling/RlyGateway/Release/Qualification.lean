import RlyGateway.Library.Keyed
import RlyGateway.Library.Latest
import RlyGateway.Library.OrderedMap
import Mathlib.Data.List.Dedup
import Mathlib.Data.List.Sort

/-!
# Qualification of release artifacts

`scripts/release/qualification.mjs` and `qualificationStatusForChannel` of
`scripts/release/channel.mjs`. Three functions judge the same gates: `deriveQualificationResult` looks
for gates that did not pass, `qualificationBlocksStable` for required gates, and the status that a
channel publishes is read off the recorded results. They agree exactly where no required gate is
missing.
-/

namespace RlyGateway

/-! ## Gates -/

inductive GateStatus where
  | passed
  | failed
  | skipped
deriving DecidableEq, Repr

def GateStatus.text : GateStatus → String
  | .passed => "passed"
  | .failed => "failed"
  | .skipped => "skipped"

structure GateResult where
  id : String
  status : GateStatus
  detail : String
deriving DecidableEq, Repr

/-- `QUALIFICATION_GATES`, by their ids; every one is required for the stable channel. -/
def requiredGatesForStable : List String :=
  ["clean-install", "identity", "permissions", "platform-signing", "runtime-readiness",
    "update-handoff", "init-service-registration", "uninstall", "verified-install"]

/-- `QUALIFICATION_RESULTS`. -/
inductive QualificationResult where
  | qualified
  | experimentalGaps
  | notQualified
deriving DecidableEq, Repr

def QualificationResult.text : QualificationResult → String
  | .qualified => "qualified"
  | .experimentalGaps => "experimental-gaps"
  | .notQualified => "not-qualified"

def deriveQualificationResult (gates : List GateResult) : QualificationResult :=
  if gates.filter (·.status = .failed) ≠ [] then .notQualified
  else if gates.filter (·.status = .skipped) ≠ [] then .experimentalGaps
  else .qualified

/-- The gates have evidence for every required one. -/
def CoversRequiredGates (gates : List GateResult) : Prop :=
  ∀ id ∈ requiredGatesForStable, ∃ gate ∈ gates, gate.id = id

/-! ## Evidence -/

structure QualifiedBytes where
  filename : Option String
  sha256 : Option String
  artifactDigest : Option String
deriving DecidableEq, Repr

/-- The record of one target, as a file holds it: any field may be missing. -/
structure QualificationRecord where
  releaseVersion : Option String
  channel : Option String
  target : Option String
  qualifiedBytes : Option QualifiedBytes
  gates : Option (List GateResult)
  result : Option String
  status : Option String
deriving DecidableEq

/-- A qualification document: its records by target. -/
structure QualificationEvidence where
  targets : Option (OrderedMap String QualificationRecord)
deriving DecidableEq

/-- The records by target, none where the document is missing. -/
def qualificationByTarget (qualification : Option QualificationEvidence) :
    OrderedMap String QualificationRecord :=
  (qualification.bind (·.targets)).getD OrderedMap.empty

/-- A published artifact. -/
structure ReleaseArtifact where
  target : String
  filename : String
  sha256 : String
  artifactDigest : String
deriving DecidableEq, Repr

/-! ## The stable checks -/

def qualificationTargetSetErrors (artifactTargets : List String)
    (qualification : Option QualificationEvidence) : List String :=
  let expected := artifactTargets.dedup.insertionSort textLe
  let actual := (qualificationByTarget qualification).keys.insertionSort textLe
  let missing := expected.filter (· ∉ actual)
  let extra := actual.filter (· ∉ expected)
  (if missing ≠ [] then
    ["artifact targets missing qualification evidence: " ++ ", ".intercalate missing] else []) ++
  (if extra ≠ [] then
    ["qualification targets missing from release artifacts: " ++ ", ".intercalate extra] else [])

/-- What a record must say of an artifact: the field, what it holds and what is expected. -/
def bindingChecks (artifact : ReleaseArtifact) (record : QualificationRecord)
    (releaseVersion channel : String) : List (String × Option String × String) :=
  [("releaseVersion", record.releaseVersion, releaseVersion),
    ("channel", record.channel, channel),
    ("target", record.target, artifact.target),
    ("qualifiedBytes.filename", record.qualifiedBytes.bind (·.filename), artifact.filename),
    ("qualifiedBytes.sha256", record.qualifiedBytes.bind (·.sha256), artifact.sha256),
    ("qualifiedBytes.artifactDigest", record.qualifiedBytes.bind (·.artifactDigest),
      artifact.artifactDigest)]

def qualificationArtifactBindingErrors (artifacts : List ReleaseArtifact)
    (qualification : Option QualificationEvidence) (releaseVersion channel : String) :
    List String :=
  artifacts.flatMap fun artifact =>
    match (qualificationByTarget qualification).get? artifact.target with
    | none => []
    | some record =>
        ((bindingChecks artifact record releaseVersion channel).filter fun check =>
          check.2.1 ≠ some check.2.2).map fun check =>
            artifact.target ++ " " ++ check.1 ++ " " ++ check.2.1.getD "(missing)" ++ " != " ++
              check.2.2

/-- What is recorded for a target. -/
def recordedStatus (qualificationByTarget : OrderedMap String QualificationRecord)
    (target : String) : Option String :=
  (qualificationByTarget.get? target).bind fun record => record.result.or record.status

def qualificationStatusForChannel (qualificationByTarget : OrderedMap String QualificationRecord)
    (channel : String) : QualificationResult :=
  let targets := qualificationByTarget.keys.insertionSort textLe
  let statusOf := recordedStatus qualificationByTarget
  if targets = [] then .notQualified
  else if channel = "stable" then
    if ∀ target ∈ targets, statusOf target = some "qualified" then .qualified else .notQualified
  else if ∃ target ∈ targets, statusOf target = some "not-qualified" then .notQualified
  else if ∃ target ∈ targets, statusOf target = some "experimental-gaps" then .experimentalGaps
  else .qualified

/-- What blocks a required gate: that it has no evidence, or did not pass. -/
def requiredGateBlocker (gates : List GateResult) (id : String) : Option String :=
  match gates.find? (·.id = id) with
  | none => some ("required gate " ++ id ++ " has no evidence (not-run)")
  | some gate =>
      if gate.status ≠ .passed then
        some ("required gate " ++ id ++ " is " ++ gate.status.text ++
          if gate.detail ≠ "" then ": " ++ gate.detail else "")
      else none

/-- The reasons that block a target from the stable channel. `undefined` is printed for a missing
result. -/
def qualificationBlocksStable (qualification : Option QualificationRecord) (requireResult : Bool) :
    List String :=
  match qualification with
  | none => ["no qualification record exists for the exact artifact bytes"]
  | some qualification =>
      (if requireResult ∧ qualification.result ≠ some "qualified" then
        ["qualification result is " ++ qualification.result.getD "undefined" ++
          "; stable requires qualified on the exact bytes"] else []) ++
      requiredGatesForStable.filterMap (requiredGateBlocker (qualification.gates.getD []))

/-- The publisher's checks pass for the stable channel, over results that were derived. -/
structure PublishedAsStable (artifacts : List ReleaseArtifact)
    (qualification : Option QualificationEvidence) (releaseVersion : String) : Prop where
  derived : ∀ target record, (qualificationByTarget qualification).get? target = some record →
    ∃ gates, record.gates = some gates ∧
      record.result = some (deriveQualificationResult gates).text
  targetSet : qualificationTargetSetErrors (artifacts.map (·.target)) qualification = []
  binding :
    qualificationArtifactBindingErrors artifacts qualification releaseVersion "stable" = []
  status : qualificationStatusForChannel (qualificationByTarget qualification) "stable" = .qualified

/-! ## What the checks say -/

section Checks

variable {qualification : Option QualificationEvidence} {artifacts : List ReleaseArtifact}

/-- The target sets agree: every artifact has a record, and every record an artifact. -/
theorem qualificationTargetSetErrors_eq_nil_iff {artifactTargets : List String} :
    qualificationTargetSetErrors artifactTargets qualification = [] ↔
      ∀ target, target ∈ artifactTargets ↔ target ∈ (qualificationByTarget qualification).keys := by
  have hshape : ∀ {texts : List String} {message : String},
      (if texts ≠ [] then [message] else []) = [] ↔ texts = [] := by
    intro texts message
    by_cases htexts : texts = [] <;> simp [htexts]
  unfold qualificationTargetSetErrors
  rw [List.append_eq_nil_iff, hshape, hshape, List.filter_eq_nil_iff, List.filter_eq_nil_iff]
  simp only [List.mem_insertionSort, List.mem_dedup, decide_eq_true_eq, not_not]
  constructor
  · rintro ⟨hmissing, hextra⟩ target
    exact ⟨hmissing target, hextra target⟩
  · intro h
    exact ⟨fun target => (h target).1, fun target => (h target).2⟩

/-- The records are bound: each says of its artifact what the release says. -/
theorem qualificationArtifactBindingErrors_eq_nil_iff {releaseVersion channel : String} :
    qualificationArtifactBindingErrors artifacts qualification releaseVersion channel = [] ↔
      ∀ artifact ∈ artifacts, ∀ record,
        (qualificationByTarget qualification).get? artifact.target = some record →
          ∀ check ∈ bindingChecks artifact record releaseVersion channel,
            check.2.1 = some check.2.2 := by
  unfold qualificationArtifactBindingErrors
  rw [List.flatMap_eq_nil_iff]
  refine forall₂_congr fun artifact _ => ?_
  cases hrecord : (qualificationByTarget qualification).get? artifact.target with
  | none => simp
  | some record =>
      simp only [List.map_eq_nil_iff, List.filter_eq_nil_iff, decide_eq_true_eq, not_not,
        Option.some.injEq, forall_eq']

/-- The stable status is read off the records: there is one, and all are qualified. -/
theorem qualificationStatusForChannel_stable_iff
    {records : OrderedMap String QualificationRecord} :
    qualificationStatusForChannel records "stable" = .qualified ↔
      records.keys ≠ [] ∧ ∀ target ∈ records.keys, recordedStatus records target = some "qualified" := by
  have hempty : records.keys.insertionSort textLe = [] ↔ records.keys = [] := by
    rw [← List.length_eq_zero_iff, List.length_insertionSort, List.length_eq_zero_iff]
  unfold qualificationStatusForChannel
  simp only [List.mem_insertionSort, if_true]
  by_cases hkeys : records.keys.insertionSort textLe = []
  · simp [hempty.1 hkeys]
  · rw [if_neg hkeys]
    split
    · rename_i hall
      exact ⟨fun _ => ⟨fun h => hkeys (hempty.2 h), hall⟩, fun _ => rfl⟩
    · rename_i hall
      exact ⟨fun h => (by cases h), fun h => absurd h.2 hall⟩

end Checks

/-! ## What is derived, and what blocks -/

section Gates

variable {gates : List GateResult}

/-- A derived result is `qualified` where every gate that is listed passed. -/
theorem deriveQualificationResult_eq_qualified_iff :
    deriveQualificationResult gates = .qualified ↔ ∀ gate ∈ gates, gate.status = .passed := by
  unfold deriveQualificationResult
  simp only [ne_eq, List.filter_eq_nil_iff, decide_eq_true_eq]
  split
  · rename_i hfailed
    refine ⟨fun h => (by cases h), fun h => absurd (fun gate hgate => ?_) hfailed⟩
    rw [h gate hgate]
    decide
  · rename_i hfailed
    split
    · rename_i hskipped
      refine ⟨fun h => (by cases h), fun h => absurd (fun gate hgate => ?_) hskipped⟩
      rw [h gate hgate]
      decide
    · rename_i hskipped
      refine ⟨fun _ gate hgate => ?_, fun _ => rfl⟩
      have hnotFailed := not_not.1 hfailed gate hgate
      have hnotSkipped := not_not.1 hskipped gate hgate
      cases hstatus : gate.status with
      | passed => rfl
      | failed => exact absurd hstatus hnotFailed
      | skipped => exact absurd hstatus hnotSkipped

theorem QualificationResult.text_injective : Function.Injective QualificationResult.text := by
  intro result other h
  cases result <;> cases other <;> first | rfl | exact absurd h (by decide)

/-- A required gate does not block where its first evidence passed. -/
theorem requiredGateBlocker_eq_none_iff {id : String} :
    requiredGateBlocker gates id = none ↔
      ∃ gate, gates.find? (·.id = id) = some gate ∧ gate.status = .passed := by
  unfold requiredGateBlocker
  cases hgate : gates.find? (·.id = id) with
  | none => simp
  | some gate => by_cases hstatus : gate.status = .passed <;> simp [hstatus]

/-- Nothing blocks a record that is `qualified` and whose required gates passed. -/
theorem qualificationBlocksStable_eq_nil_iff {record : QualificationRecord} :
    qualificationBlocksStable (some record) true = [] ↔
      record.result = some "qualified" ∧ ∀ id ∈ requiredGatesForStable,
        ∃ gate, (record.gates.getD []).find? (·.id = id) = some gate ∧ gate.status = .passed := by
  simp only [qualificationBlocksStable, List.append_eq_nil_iff, List.filterMap_eq_nil_iff,
    requiredGateBlocker_eq_none_iff]
  by_cases hresult : record.result = some "qualified" <;> simp [hresult]

/-- Where every gate that is listed passed, a required one blocks only for want of evidence. -/
theorem forall_passed_iff_coversRequiredGates (hpassed : ∀ gate ∈ gates, gate.status = .passed) :
    (∀ id ∈ requiredGatesForStable,
      ∃ gate, gates.find? (·.id = id) = some gate ∧ gate.status = .passed) ↔
      CoversRequiredGates gates := by
  refine forall₂_congr fun id _ => ?_
  constructor
  · rintro ⟨gate, hgate, -⟩
    exact ⟨gate, List.find?_decide_eq_some hgate⟩
  · rintro ⟨gate, hgate, hid⟩
    obtain ⟨first, hfirst, hmem, -⟩ :=
      List.exists_find?_decide (p := fun gate : GateResult => gate.id = id) hgate hid
    exact ⟨first, hfirst, hpassed first hmem⟩

end Gates

/-! ## Published as stable -/

section Published

variable {artifacts : List ReleaseArtifact} {qualification : Option QualificationEvidence}
  {releaseVersion : String}

/-- Every published target has a record, of gates that all passed. -/
theorem PublishedAsStable.exists_record
    (h : PublishedAsStable artifacts qualification releaseVersion) {artifact : ReleaseArtifact}
    (hartifact : artifact ∈ artifacts) :
    ∃ record gates, (qualificationByTarget qualification).get? artifact.target = some record ∧
      record.gates = some gates ∧ record.result = some "qualified" ∧
      ∀ gate ∈ gates, gate.status = .passed := by
  have hkey : artifact.target ∈ (qualificationByTarget qualification).keys :=
    (qualificationTargetSetErrors_eq_nil_iff.1 h.targetSet _).1
      (List.mem_map.2 ⟨artifact, hartifact, rfl⟩)
  obtain ⟨record, hrecord⟩ := OrderedMap.mem_keys_iff.1 hkey
  obtain ⟨gates, hgates, hresult⟩ := h.derived _ record hrecord
  have hstatus := (qualificationStatusForChannel_stable_iff.1 h.status).2 _ hkey
  rw [recordedStatus, hrecord, Option.bind_some, hresult, Option.some_or] at hstatus
  have hderived : deriveQualificationResult gates = .qualified :=
    QualificationResult.text_injective (Option.some.inj hstatus)
  refine ⟨record, gates, hrecord, hgates, ?_, deriveQualificationResult_eq_qualified_iff.1 hderived⟩
  rw [hresult, hderived]
  rfl

/-- What is published as stable is not blocked from it exactly where the gates of every published
target cover the required ones. -/
theorem publishedAsStable_unblocked_iff
    (h : PublishedAsStable artifacts qualification releaseVersion) :
    (∀ artifact ∈ artifacts, qualificationBlocksStable
      ((qualificationByTarget qualification).get? artifact.target) true = []) ↔
      ∀ artifact ∈ artifacts, ∀ record,
        (qualificationByTarget qualification).get? artifact.target = some record →
          CoversRequiredGates (record.gates.getD []) := by
  refine forall₂_congr fun artifact hartifact => ?_
  obtain ⟨record, gates, hrecord, hgates, hresult, hpassed⟩ := h.exists_record hartifact
  rw [hrecord, qualificationBlocksStable_eq_nil_iff, hgates, Option.getD_some,
    forall_passed_iff_coversRequiredGates hpassed]
  constructor
  · rintro ⟨-, hcovers⟩ other hother
    rw [← Option.some.inj hother, hgates]
    exact hcovers
  · intro hcovers
    have hrecordCovers := hcovers record rfl
    rw [hgates] at hrecordCovers
    exact ⟨hresult, hrecordCovers⟩

end Published

/-! ### A release for Linux -/

/-- The artifact of a release. -/
def linuxArtifact : ReleaseArtifact :=
  ⟨"linux-x64", "rly-1.0.0-linux-x64.tar.gz", "9f86d081", "60303ae2"⟩

/-- The evidence for the artifact, over gates of the given ids that passed. -/
def linuxEvidence (ids : List String) : QualificationEvidence :=
  ⟨some (OrderedMap.ofList [("linux-x64",
    { releaseVersion := some "1.0.0"
      channel := some "stable"
      target := some "linux-x64"
      qualifiedBytes := some
        ⟨some "rly-1.0.0-linux-x64.tar.gz", some "9f86d081", some "60303ae2"⟩
      gates := some (ids.map fun id => ⟨id, .passed, ""⟩)
      result := some "qualified"
      status := none })])⟩

/-- Gates that passed qualify the artifact, whichever they are. -/
theorem linuxEvidence_publishedAsStable (ids : List String) :
    PublishedAsStable [linuxArtifact] (some (linuxEvidence ids)) "1.0.0" where
  derived target record hrecord := by
    obtain ⟨-, rfl⟩ : target = "linux-x64" ∧ _ = record := by
      have hmem := OrderedMap.get?_eq_some.1 hrecord
      simpa [eq_comm] using List.mem_singleton.1 hmem
    refine ⟨_, rfl, ?_⟩
    have hpassed : deriveQualificationResult (ids.map fun id => ⟨id, .passed, ""⟩) = .qualified :=
      deriveQualificationResult_eq_qualified_iff.2 (by simp)
    rw [hpassed]
    rfl
  targetSet := qualificationTargetSetErrors_eq_nil_iff.2 fun _ => Iff.rfl
  binding := by
    refine qualificationArtifactBindingErrors_eq_nil_iff.2 fun artifact hartifact record hrecord => ?_
    obtain rfl := List.mem_singleton.1 hartifact
    obtain rfl := Option.some.inj hrecord
    simp [bindingChecks, linuxArtifact]
  status := by
    refine qualificationStatusForChannel_stable_iff.2 ⟨List.cons_ne_nil "linux-x64" [], ?_⟩
    intro target htarget
    obtain rfl : target = "linux-x64" := List.mem_singleton.1 htarget
    rfl

/-- With evidence for every gate, the artifact is published and nothing blocks it. -/
theorem publishedAsStable_unblocked_linux :
    PublishedAsStable [linuxArtifact] (some (linuxEvidence requiredGatesForStable)) "1.0.0" ∧
      ∀ artifact ∈ [linuxArtifact], qualificationBlocksStable
        ((qualificationByTarget (some (linuxEvidence requiredGatesForStable))).get?
          artifact.target) true = [] := by
  refine ⟨linuxEvidence_publishedAsStable _, ?_⟩
  refine (publishedAsStable_unblocked_iff (linuxEvidence_publishedAsStable _)).2 ?_
  intro artifact hartifact record hrecord id hid
  obtain rfl := List.mem_singleton.1 hartifact
  obtain rfl := Option.some.inj hrecord
  exact ⟨⟨id, .passed, ""⟩, List.mem_map.2 ⟨id, hid, rfl⟩, rfl⟩

/-- With two of the nine gates the artifact is published as well, and is blocked. -/
theorem not_publishedAsStable_unblocked :
    ¬ ∀ (artifacts : List ReleaseArtifact) (qualification : Option QualificationEvidence)
        (releaseVersion : String), PublishedAsStable artifacts qualification releaseVersion →
      ∀ artifact ∈ artifacts, qualificationBlocksStable
        ((qualificationByTarget qualification).get? artifact.target) true = [] := by
  intro h
  have hblocked := h _ _ _ (linuxEvidence_publishedAsStable ["clean-install", "identity"])
    linuxArtifact List.mem_cons_self
  obtain ⟨-, hgates⟩ := qualificationBlocksStable_eq_nil_iff.1 hblocked
  obtain ⟨gate, hgate, -⟩ := hgates "uninstall" (by decide)
  cases hgate

end RlyGateway
