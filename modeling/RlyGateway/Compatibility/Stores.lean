import Mathlib.Data.List.Nodup
import RlyGateway.Compatibility.Types
import RlyGateway.Library.Fallible
import RlyGateway.Library.Replacing

/-!
# The evidence stores

The stores of review decisions, quarantine records and claim evidence: each call reads one document,
appends to it and replaces the whole file. Nothing keeps another call from replacing the document in
between, and what that one wrote is lost then.
-/

namespace RlyGateway

variable (runtime : NodeRuntime)

/-! ## Documents -/

/-- The decisions about one claim and feature. -/
structure ReviewDocument where
  claimKey : String
  feature : ClaimFeature
  decisions : List ReviewDecision
deriving DecidableEq

/-- The quarantine records of one claim and feature. -/
structure QuarantineDocument where
  claimKey : String
  feature : ClaimFeature
  records : List QuarantineRecord
deriving DecidableEq

/-- A document as a file of a store holds it. -/
inductive EvidenceDocument where
  | reviews (doc : ReviewDocument)
  | quarantines (doc : QuarantineDocument)
  | claim (doc : CompatibilityClaimDocument)
deriving DecidableEq

/-- Whether a decision has the shape that is read. -/
def ReviewDecision.isValid (decision : ReviewDecision) : Bool :=
  decision.claimKey ≠ "" ∧ decision.evidenceRevision ≠ "" ∧ decision.reviewer ≠ "" ∧
    decision.source ≠ "" ∧ decision.reason ≠ "" ∧ decision.decidedAt ≠ "" ∧
      0 < decision.decisionRevision

/-- Whether a record has the shape that is read. -/
def QuarantineRecord.isValid (record : QuarantineRecord) : Bool :=
  record.claimKey ≠ "" ∧ record.reason ≠ "" ∧ record.source ≠ "" ∧ record.quarantinedAt ≠ "" ∧
    0 < record.quarantineRevision

/-- Whether an observation has the shape that is read. -/
def EvidenceArtifactV2.isValid (record : EvidenceArtifactV2) : Bool :=
  record.claimKey ≠ "" ∧ record.fixtureRevision ≠ "" ∧ record.runnerVersion ≠ "" ∧
    record.checkedAt ≠ ""

/-- Whether an identity has the shape that is read. -/
def CompatibilityClaimIdentity.isValid (identity : CompatibilityClaimIdentity) : Bool :=
  identity.clientVersion ≠ "" ∧ identity.protocolRevision ≠ "" ∧ identity.adapterId ≠ "" ∧
    identity.accessProviderId ≠ "" ∧ identity.physicalModelId ≠ ""

/-- Whether a file holds a document that is read; otherwise reading it throws. -/
def EvidenceDocument.isValid : EvidenceDocument → Bool
  | .reviews doc => doc.claimKey ≠ "" ∧ doc.decisions.all ReviewDecision.isValid
  | .quarantines doc => doc.claimKey ≠ "" ∧ doc.records.all QuarantineRecord.isValid
  | .claim doc => doc.claimKey ≠ "" ∧ doc.claimIdentity.isValid ∧
      doc.records.all EvidenceArtifactV2.isValid

/-- The files of the stores. -/
inductive EvidencePath where
  | reviews (claimKeyHash : String) (feature : ClaimFeature)
  | quarantines (claimKeyHash : String) (feature : ClaimFeature)
  | claim (claimKeyHash : String)
deriving DecidableEq

/-- The part of a file's name that stands for a claim key. -/
def claimKeyHash (claimKey : String) : String := runtime.sha256Hex claimKey

/-- The quarantine records of a file. -/
def recordsFor : Option EvidenceDocument → Option (List QuarantineRecord)
  | none => some []
  | some (.quarantines doc) =>
      if (EvidenceDocument.quarantines doc).isValid then some doc.records else none
  | some _ => none

/-- The decisions of a file. -/
def decisionsFor : Option EvidenceDocument → Option (List ReviewDecision)
  | none => some []
  | some (.reviews doc) =>
      if (EvidenceDocument.reviews doc).isValid then some doc.decisions else none
  | some _ => none

/-- The claim document of a file, if there is one. -/
def loadClaim : Option EvidenceDocument → Option (Option CompatibilityClaimDocument)
  | none => some none
  | some (.claim doc) => if (EvidenceDocument.claim doc).isValid then some (some doc) else none
  | some _ => none

/-! ## Operations -/

/-- A quarantine record before it has a revision. -/
structure QuarantineInput where
  claimKey : String
  feature : ClaimFeature
  reason : String
  source : String
  quarantinedAt : String
  rlyBuildVersion : Option String

/-- A decision before it has a revision. -/
structure DecisionInput where
  claimKey : String
  feature : ClaimFeature
  decision : ReviewDecisionKind
  evidenceRevision : String
  reviewer : String
  source : String
  reason : String
  decidedAt : String
  rlyBuildVersion : Option String

/-- The observations of one claim of a run, under the key of the claim. -/
structure ClaimObservations where
  claimKey : String
  claimIdentity : CompatibilityClaimIdentity
  feature : ClaimFeature
  records : List EvidenceArtifactV2
  ref : Option String
  isKey : claimKeyFor claimIdentity feature = .ok claimKey

/-- The observations as they are appended. -/
def ClaimObservations.withRef (claim : ClaimObservations) : List EvidenceArtifactV2 :=
  claim.records.map fun record =>
    match claim.ref with
    | none => record
    | some ref => { record with ref := some ref }

/-- What a call does to one document. A run of the canary is one of these for each of its claims. -/
inductive EvidenceOperation where
  | quarantine (input : QuarantineInput)
  | lift (claimKey : String) (feature : ClaimFeature) (by' reason liftedAt : String)
  | addDecision (input : DecisionInput)
  | appendClaim (claim : ClaimObservations)

/-- What a call returns, with the observations that it has appended. -/
inductive EvidenceResultOf where
  | record (record : QuarantineRecord)
  | decision (decision : ReviewDecision)
  | observations (records : List EvidenceArtifactV2)

/-- The file that an operation reads. -/
def EvidenceOperation.path : EvidenceOperation → EvidencePath
  | .quarantine input => .quarantines (claimKeyHash runtime input.claimKey) input.feature
  | .lift claimKey feature _ _ _ => .quarantines (claimKeyHash runtime claimKey) feature
  | .addDecision input => .reviews (claimKeyHash runtime input.claimKey) input.feature
  | .appendClaim claim => .claim (claimKeyHash runtime claim.claimKey)

/-- The file that a document is written to: a claim document goes under its own key. -/
def EvidenceOperation.target (op : EvidenceOperation) : EvidenceDocument → EvidencePath
  | .claim doc => .claim (claimKeyHash runtime doc.claimKey)
  | _ => op.path runtime

/-- The record of a quarantine after those that exist. -/
def QuarantineInput.record (input : QuarantineInput) (existing : List QuarantineRecord) :
    QuarantineRecord where
  claimKey := input.claimKey
  feature := input.feature
  reason := input.reason
  source := input.source
  quarantinedAt := input.quarantinedAt
  quarantineRevision := nextQuarantineRevision existing
  rlyBuildVersion := input.rlyBuildVersion
  liftedAt := none
  liftedBy := none
  liftReason := none

/-- The decision after those that exist. -/
def DecisionInput.reviewed (input : DecisionInput) (existing : List ReviewDecision) :
    ReviewDecision where
  claimKey := input.claimKey
  feature := input.feature
  decision := input.decision
  evidenceRevision := input.evidenceRevision
  reviewer := input.reviewer
  source := input.source
  reason := input.reason
  decidedAt := input.decidedAt
  decisionRevision := nextDecisionRevision existing
  rlyBuildVersion := input.rlyBuildVersion

/-- A record that is lifted. -/
def QuarantineRecord.lift (record : QuarantineRecord) (by' reason liftedAt : String) :
    QuarantineRecord :=
  { record with liftedAt := some liftedAt, liftedBy := some by', liftReason := some reason }

/-- The records with one revision replaced. -/
def replaceRevision (existing : List QuarantineRecord) (record : QuarantineRecord) :
    List QuarantineRecord :=
  existing.map fun other =>
    if other.quarantineRevision = record.quarantineRevision then record else other

/-- What an operation makes of a file. -/
def EvidenceOperation.replace (op : EvidenceOperation) (seen : Option EvidenceDocument) :
    Option (EvidenceDocument × EvidenceResultOf) :=
  match op with
  | .quarantine input => do
      let existing ← recordsFor seen
      let record := input.record existing
      some (.quarantines ⟨input.claimKey, input.feature, existing ++ [record]⟩, .record record)
  | .lift claimKey feature by' reason liftedAt => do
      let existing ← recordsFor seen
      let active ← latestQuarantine existing
      let lifted := active.lift by' reason liftedAt
      some (.quarantines ⟨claimKey, feature, replaceRevision existing lifted⟩, .record lifted)
  | .addDecision input => do
      let existing ← decisionsFor seen
      let decision := input.reviewed existing
      some (.reviews ⟨input.claimKey, input.feature, existing ++ [decision]⟩, .decision decision)
  | .appendClaim claim => do
      let loaded ← loadClaim seen
      let doc ← loaded.or (emptyClaimDocument claim.claimIdentity claim.feature).toOption
      some (.claim (claim.withRef.foldl appendObservation doc), .observations claim.withRef)

/-- The operations of the stores. -/
def evidenceOperations :
    Replacing EvidenceOperation EvidencePath EvidenceDocument EvidenceResultOf where
  path := EvidenceOperation.path runtime
  replace := EvidenceOperation.replace
  target := EvidenceOperation.target runtime

/-! ## What is kept -/

/-- A record is kept as it is, or lifted. A lifted one stays as it is. -/
def QuarantineRecord.KeptAs (record kept : QuarantineRecord) : Prop :=
  kept = record ∨ record.active = true ∧
    ∃ by' reason liftedAt, kept = record.lift by' reason liftedAt

/-- A document holds what a call has returned. -/
def EvidenceDocument.Holds : EvidenceDocument → EvidenceResultOf → Prop
  | .quarantines doc, .record record => ∃ kept ∈ doc.records, record.KeptAs kept
  | .reviews doc, .decision decision => decision ∈ doc.decisions
  | .claim doc, .observations records =>
      ∀ record ∈ records, ∃ existing ∈ doc.records, sameObservation existing record = true
  | _, _ => False

/-- The quarantine revisions of a document are distinct. -/
def EvidenceDocument.Distinct : EvidenceDocument → Prop
  | .quarantines doc => (doc.records.map (·.quarantineRevision)).Nodup
  | _ => True

/-- The files of the stores as they are before any call: the revisions of a document are distinct,
and a claim document is in the file of its own key. -/
structure SoundFiles (docs : EvidencePath → Option EvidenceDocument) : Prop where
  distinct : ∀ path doc, docs path = some doc → doc.Distinct
  filed : ∀ path doc, docs path = some (.claim doc) →
    path = .claim (claimKeyHash runtime doc.claimKey)

/-- Nothing is lost: the document of a call that has returned holds what it returned, and the
quarantine revisions of every document are distinct. -/
structure NothingLost (docs : EvidencePath → Option EvidenceDocument)
    (returned : List (EvidenceOperation × EvidenceResultOf)) : Prop where
  kept : ∀ op result, (op, result) ∈ returned →
    ∃ doc, docs (op.path runtime) = some doc ∧ doc.Holds result
  distinct : ∀ path doc, docs path = some doc → doc.Distinct

theorem QuarantineRecord.KeptAs.refl (record : QuarantineRecord) : record.KeptAs record := .inl rfl

theorem QuarantineRecord.not_active_lift (record : QuarantineRecord)
    (by' reason liftedAt : String) : (record.lift by' reason liftedAt).active = false := rfl

theorem QuarantineRecord.KeptAs.trans {record kept later : QuarantineRecord}
    (h : record.KeptAs kept) (hlater : kept.KeptAs later) : record.KeptAs later := by
  rcases h with rfl | ⟨hactive, by', reason, liftedAt, rfl⟩
  · exact hlater
  · rcases hlater with rfl | ⟨hlifted, -⟩
    · exact .inr ⟨hactive, by', reason, liftedAt, rfl⟩
    · rw [not_active_lift] at hlifted
      cases hlifted

/-! ### Revisions -/

theorem le_foldl_max {α : Type*} (revision : α → ℕ) (items : List α) (start : ℕ) :
    start ≤ items.foldl (fun latest item => max latest (revision item)) start ∧
      ∀ item ∈ items,
        revision item ≤ items.foldl (fun latest item => max latest (revision item)) start := by
  induction items generalizing start with
  | nil => simp
  | cons head items ih =>
      obtain ⟨hstart, hitems⟩ := ih (max start (revision head))
      rw [List.foldl_cons]
      refine ⟨(le_max_left _ _).trans hstart, List.forall_mem_cons.2 ⟨?_, hitems⟩⟩
      exact (le_max_right _ _).trans hstart

/-- A new revision is greater than those that exist. -/
theorem lt_nextQuarantineRevision {existing : List QuarantineRecord} {record : QuarantineRecord}
    (h : record ∈ existing) : record.quarantineRevision < nextQuarantineRevision existing :=
  Nat.lt_succ_of_le ((le_foldl_max QuarantineRecord.quarantineRevision existing 0).2 record h)

theorem nodup_append_record {existing : List QuarantineRecord}
    (h : (existing.map (·.quarantineRevision)).Nodup) (input : QuarantineInput) :
    ((existing ++ [input.record existing]).map (·.quarantineRevision)).Nodup := by
  rw [List.map_append, List.map_singleton]
  refine List.nodup_append.2 ⟨h, List.nodup_singleton _, ?_⟩
  intro revision hrevision other hother
  obtain ⟨record, hrecord, rfl⟩ := List.mem_map.1 hrevision
  rw [List.mem_singleton.1 hother]
  exact (lt_nextQuarantineRevision hrecord).ne

/-- Replacing a record leaves the revisions as they are. -/
theorem map_revision_replaceRevision (existing : List QuarantineRecord)
    (record : QuarantineRecord) :
    (replaceRevision existing record).map (·.quarantineRevision) =
      existing.map (·.quarantineRevision) := by
  unfold replaceRevision
  rw [List.map_map]
  refine List.map_congr_left fun other _ => ?_
  by_cases hrevision : other.quarantineRevision = record.quarantineRevision
  · simp [hrevision]
  · simp [hrevision]

/-- Lifting the active record keeps every record of distinct revisions. -/
theorem keptAs_replaceRevision {existing : List QuarantineRecord} {active : QuarantineRecord}
    (hdistinct : (existing.map (·.quarantineRevision)).Nodup)
    (hactive : latestQuarantine existing = some active) (by' reason liftedAt : String)
    {record : QuarantineRecord} (hrecord : record ∈ existing) :
    ∃ kept ∈ replaceRevision existing (active.lift by' reason liftedAt), record.KeptAs kept := by
  obtain ⟨hmem, hisActive⟩ := latestBy_mem hactive
  refine ⟨_, List.mem_map_of_mem hrecord, ?_⟩
  by_cases hrevision : record.quarantineRevision =
      (active.lift by' reason liftedAt).quarantineRevision
  · rw [if_pos hrevision]
    obtain rfl : record = active := List.inj_on_of_nodup_map hdistinct hrecord hmem hrevision
    exact .inr ⟨hisActive, by', reason, liftedAt, rfl⟩
  · rw [if_neg hrevision]
    exact .refl record

theorem lift_mem_replaceRevision {existing : List QuarantineRecord} {active : QuarantineRecord}
    (hactive : latestQuarantine existing = some active) (by' reason liftedAt : String) :
    active.lift by' reason liftedAt ∈
      replaceRevision existing (active.lift by' reason liftedAt) :=
  List.mem_map.2 ⟨active, (latestBy_mem hactive).1, if_pos rfl⟩

/-! ### Observations -/

theorem sameObservation_refl (record : EvidenceArtifactV2) :
    sameObservation record record = true := by
  simp [sameObservation]

theorem subset_appendObservation (doc : CompatibilityClaimDocument) (record : EvidenceArtifactV2) :
    doc.records ⊆ (appendObservation doc record).records := by
  unfold appendObservation
  split
  · exact List.Subset.refl _
  · exact List.subset_append_left _ _

/-- An observation that is appended is there, or the same one is. -/
theorem exists_same_appendObservation (doc : CompatibilityClaimDocument)
    (record : EvidenceArtifactV2) :
    ∃ existing ∈ (appendObservation doc record).records,
      sameObservation existing record = true := by
  unfold appendObservation
  split
  · rename_i h
    exact List.any_eq_true.1 h
  · exact ⟨record, List.mem_append_right _ (List.mem_singleton_self _), sameObservation_refl record⟩

theorem subset_foldl_appendObservation (records : List EvidenceArtifactV2)
    (doc : CompatibilityClaimDocument) :
    doc.records ⊆ (records.foldl appendObservation doc).records := by
  induction records generalizing doc with
  | nil => exact List.Subset.refl _
  | cons record records ih =>
      exact List.Subset.trans (subset_appendObservation doc record) (ih _)

theorem exists_same_foldl_appendObservation (records : List EvidenceArtifactV2)
    (doc : CompatibilityClaimDocument) :
    ∀ record ∈ records, ∃ existing ∈ (records.foldl appendObservation doc).records,
      sameObservation existing record = true := by
  induction records generalizing doc with
  | nil => simp
  | cons head records ih =>
      refine List.forall_mem_cons.2 ⟨?_, ih (appendObservation doc head)⟩
      obtain ⟨existing, hmem, hsame⟩ := exists_same_appendObservation doc head
      exact ⟨existing, subset_foldl_appendObservation records _ hmem, hsame⟩

theorem claimKey_foldl_appendObservation (records : List EvidenceArtifactV2)
    (doc : CompatibilityClaimDocument) :
    (records.foldl appendObservation doc).claimKey = doc.claimKey := by
  induction records generalizing doc with
  | nil => rfl
  | cons record records ih =>
      rw [List.foldl_cons, ih, appendObservation]
      split <;> rfl

/-! ### One operation -/

/-- What an operation does to a document: the new one holds what is returned and all that the old
one held, its revisions are distinct if the old one's are, and it is written where the old one was
read. -/
structure Appends (op : EvidenceOperation) (seen : Option EvidenceDocument) (doc : EvidenceDocument)
    (result : EvidenceResultOf) : Prop where
  holds : doc.Holds result
  extends' : ∀ old, seen = some old → ∀ earlier, old.Holds earlier → doc.Holds earlier
  distinct : doc.Distinct
  target : op.target runtime doc = op.path runtime
  filed : ∀ claim, doc = .claim claim →
    op.path runtime = .claim (claimKeyHash runtime claim.claimKey)

theorem recordsFor_eq_some {seen : Option EvidenceDocument} {existing : List QuarantineRecord}
    (h : recordsFor seen = some existing) :
    (seen = none ∧ existing = []) ∨
      ∃ doc, seen = some (.quarantines doc) ∧ existing = doc.records := by
  unfold recordsFor at h
  split at h
  · cases h
    exact .inl ⟨rfl, rfl⟩
  · rename_i doc
    split at h
    · cases h
      exact .inr ⟨doc, rfl, rfl⟩
    · cases h
  · cases h

theorem decisionsFor_eq_some {seen : Option EvidenceDocument} {existing : List ReviewDecision}
    (h : decisionsFor seen = some existing) :
    (seen = none ∧ existing = []) ∨
      ∃ doc, seen = some (.reviews doc) ∧ existing = doc.decisions := by
  unfold decisionsFor at h
  split at h
  · cases h
    exact .inl ⟨rfl, rfl⟩
  · rename_i doc
    split at h
    · cases h
      exact .inr ⟨doc, rfl, rfl⟩
    · cases h
  · cases h

theorem loadClaim_eq_some {seen : Option EvidenceDocument}
    {loaded : Option CompatibilityClaimDocument} (h : loadClaim seen = some loaded) :
    (seen = none ∧ loaded = none) ∨ ∃ doc, seen = some (.claim doc) ∧ loaded = some doc := by
  unfold loadClaim at h
  split at h
  · cases h
    exact .inl ⟨rfl, rfl⟩
  · rename_i doc
    split at h
    · cases h
      exact .inr ⟨doc, rfl, rfl⟩
    · cases h
  · cases h

/-- The revisions of the records that are read are distinct. -/
theorem nodup_recordsFor {seen : Option EvidenceDocument} {existing : List QuarantineRecord}
    (h : recordsFor seen = some existing) (hdistinct : ∀ old, seen = some old → old.Distinct) :
    (existing.map (·.quarantineRevision)).Nodup := by
  rcases recordsFor_eq_some h with ⟨-, rfl⟩ | ⟨doc, rfl, rfl⟩
  · exact List.nodup_nil
  · exact hdistinct _ rfl

/-- A quarantine appends its record. -/
theorem appends_quarantine {input : QuarantineInput} {seen : Option EvidenceDocument}
    {existing : List QuarantineRecord} (hexisting : recordsFor seen = some existing)
    (hdistinct : ∀ old, seen = some old → old.Distinct) :
    Appends runtime (.quarantine input) seen
      (.quarantines ⟨input.claimKey, input.feature, existing ++ [input.record existing]⟩)
      (.record (input.record existing)) where
  holds := ⟨_, List.mem_append_right _ (List.mem_singleton_self _), .refl _⟩
  extends' := by
    rintro old rfl earlier hearlier
    rcases recordsFor_eq_some hexisting with ⟨hnone, -⟩ | ⟨doc, hdoc, rfl⟩
    · cases hnone
    · cases hdoc
      cases earlier with
      | record record =>
          obtain ⟨kept, hmem, hkept⟩ := hearlier
          exact ⟨kept, List.mem_append_left _ hmem, hkept⟩
      | decision decision => exact hearlier.elim
      | observations records => exact hearlier.elim
  distinct := nodup_append_record (nodup_recordsFor hexisting hdistinct) input
  target := rfl
  filed := by
    rintro claim ⟨⟩

/-- Lifting a quarantine replaces its record by the lifted one. -/
theorem appends_lift {claimKey : String} {feature : ClaimFeature} {by' reason liftedAt : String}
    {seen : Option EvidenceDocument} {existing : List QuarantineRecord} {active : QuarantineRecord}
    (hexisting : recordsFor seen = some existing)
    (hactive : latestQuarantine existing = some active)
    (hdistinct : ∀ old, seen = some old → old.Distinct) :
    Appends runtime (.lift claimKey feature by' reason liftedAt) seen
      (.quarantines ⟨claimKey, feature,
        replaceRevision existing (active.lift by' reason liftedAt)⟩)
      (.record (active.lift by' reason liftedAt)) where
  holds := ⟨_, lift_mem_replaceRevision hactive by' reason liftedAt, .refl _⟩
  extends' := by
    rintro old rfl earlier hearlier
    have hnodup := nodup_recordsFor hexisting hdistinct
    rcases recordsFor_eq_some hexisting with ⟨hnone, -⟩ | ⟨doc, hdoc, rfl⟩
    · cases hnone
    · cases hdoc
      cases earlier with
      | record record =>
          obtain ⟨kept, hmem, hkept⟩ := hearlier
          obtain ⟨later, hlater, hkept'⟩ :=
            keptAs_replaceRevision hnodup hactive by' reason liftedAt hmem
          exact ⟨later, hlater, hkept.trans hkept'⟩
      | decision decision => exact hearlier.elim
      | observations records => exact hearlier.elim
  distinct := by
    show ((replaceRevision existing _).map (·.quarantineRevision)).Nodup
    rw [map_revision_replaceRevision]
    exact nodup_recordsFor hexisting hdistinct
  target := rfl
  filed := by
    rintro claim ⟨⟩

/-- A decision is appended. -/
theorem appends_addDecision {input : DecisionInput} {seen : Option EvidenceDocument}
    {existing : List ReviewDecision} (hexisting : decisionsFor seen = some existing) :
    Appends runtime (.addDecision input) seen
      (.reviews ⟨input.claimKey, input.feature, existing ++ [input.reviewed existing]⟩)
      (.decision (input.reviewed existing)) where
  holds := List.mem_append_right _ (List.mem_singleton_self _)
  extends' := by
    rintro old rfl earlier hearlier
    rcases decisionsFor_eq_some hexisting with ⟨hnone, -⟩ | ⟨doc, hdoc, rfl⟩
    · cases hnone
    · cases hdoc
      cases earlier with
      | record record => exact hearlier.elim
      | decision decision => exact List.mem_append_left _ hearlier
      | observations records => exact hearlier.elim
  distinct := trivial
  target := rfl
  filed := by
    rintro claim ⟨⟩

/-- The observations of a claim are appended, to the document under its key. -/
theorem appends_appendClaim {claim : ClaimObservations} {seen : Option EvidenceDocument}
    {loaded : Option CompatibilityClaimDocument} {doc : CompatibilityClaimDocument}
    (hloaded : loadClaim seen = some loaded)
    (hdoc : loaded.or (emptyClaimDocument claim.claimIdentity claim.feature).toOption = some doc)
    (hfiled : ∀ old, seen = some (.claim old) →
      claimKeyHash runtime claim.claimKey = claimKeyHash runtime old.claimKey) :
    Appends runtime (.appendClaim claim) seen
      (.claim (claim.withRef.foldl appendObservation doc)) (.observations claim.withRef) := by
  have hkey : claimKeyHash runtime doc.claimKey = claimKeyHash runtime claim.claimKey := by
    rcases loadClaim_eq_some hloaded with ⟨-, rfl⟩ | ⟨old, hseen, rfl⟩
    · rw [Option.none_or, emptyClaimDocument, claim.isKey] at hdoc
      cases hdoc
      rfl
    · cases hdoc
      exact (hfiled _ hseen).symm
  have hpath : (EvidenceOperation.appendClaim claim).path runtime =
      .claim (claimKeyHash runtime (claim.withRef.foldl appendObservation doc).claimKey) := by
    rw [claimKey_foldl_appendObservation, hkey]
    rfl
  refine ⟨exists_same_foldl_appendObservation _ doc, ?_, trivial, hpath.symm, ?_⟩
  · rintro old rfl earlier hearlier
    rcases loadClaim_eq_some hloaded with ⟨hnone, -⟩ | ⟨old', hold, rfl⟩
    · cases hnone
    · cases hold
      cases hdoc
      cases earlier with
      | record record => exact hearlier.elim
      | decision decision => exact hearlier.elim
      | observations records =>
          intro record hrecord
          obtain ⟨existing, hmem, hsame⟩ := hearlier record hrecord
          exact ⟨existing, subset_foldl_appendObservation _ _ hmem, hsame⟩
  · rintro _ ⟨⟩
    exact hpath

/-- Every operation appends. -/
theorem appends_of_replace {docs : EvidencePath → Option EvidenceDocument}
    (hsound : SoundFiles runtime docs) {op : EvidenceOperation} {doc : EvidenceDocument}
    {result : EvidenceResultOf} (h : op.replace (docs (op.path runtime)) = some (doc, result)) :
    Appends runtime op (docs (op.path runtime)) doc result := by
  have hdistinct : ∀ old, docs (op.path runtime) = some old → old.Distinct :=
    hsound.distinct (op.path runtime)
  cases op with
  | quarantine input =>
      obtain ⟨existing, hexisting, h⟩ := Option.bind_eq_some_iff.1 h
      cases h
      exact appends_quarantine runtime hexisting hdistinct
  | lift claimKey feature by' reason liftedAt =>
      obtain ⟨existing, hexisting, h⟩ := Option.bind_eq_some_iff.1 h
      obtain ⟨active, hactive, h⟩ := Option.bind_eq_some_iff.1 h
      cases h
      exact appends_lift runtime hexisting hactive hdistinct
  | addDecision input =>
      obtain ⟨existing, hexisting, h⟩ := Option.bind_eq_some_iff.1 h
      cases h
      exact appends_addDecision runtime hexisting
  | appendClaim claim =>
      obtain ⟨loaded, hloaded, h⟩ := Option.bind_eq_some_iff.1 h
      obtain ⟨old, hold, h⟩ := Option.bind_eq_some_iff.1 h
      cases h
      refine appends_appendClaim runtime hloaded hold fun old hold => ?_
      exact EvidencePath.claim.inj (hsound.filed _ old hold)

/-! ### Runs -/

/-- What an operation appends at once leaves the files sound and loses nothing. -/
theorem kept_of_appends {docs : EvidencePath → Option EvidenceDocument}
    {returned : List (EvidenceOperation × EvidenceResultOf)} {op : EvidenceOperation}
    {doc : EvidenceDocument} {result : EvidenceResultOf} (hsound : SoundFiles runtime docs)
    (hkept : NothingLost runtime docs returned)
    (h : Appends runtime op (docs (op.path runtime)) doc result) :
    SoundFiles runtime (Function.update docs (op.target runtime doc) (some doc)) ∧
      NothingLost runtime (Function.update docs (op.target runtime doc) (some doc))
        (returned ++ [(op, result)]) := by
  rw [h.target]
  have hdistinct : ∀ path other,
      Function.update docs (op.path runtime) (some doc) path = some other → other.Distinct := by
    intro path other hother
    by_cases hpath : path = op.path runtime
    · rw [hpath, Function.update_self] at hother
      cases hother
      exact h.distinct
    · rw [Function.update_of_ne hpath] at hother
      exact hsound.distinct path other hother
  refine ⟨⟨hdistinct, ?_⟩, ⟨?_, hdistinct⟩⟩
  · intro path claim hclaim
    by_cases hpath : path = op.path runtime
    · rw [hpath, Function.update_self] at hclaim
      rw [hpath]
      exact h.filed claim (Option.some.inj hclaim)
    · rw [Function.update_of_ne hpath] at hclaim
      exact hsound.filed path claim hclaim
  · intro other earlier hmem
    rcases List.mem_append.1 hmem with hmem | hmem
    · obtain ⟨old, hold, hholds⟩ := hkept.kept other earlier hmem
      by_cases hpath : other.path runtime = op.path runtime
      · rw [hpath, Function.update_self]
        rw [hpath] at hold
        exact ⟨doc, rfl, h.extends' old hold earlier hholds⟩
      · rw [Function.update_of_ne hpath]
        exact ⟨old, hold, hholds⟩
    · cases List.mem_singleton.1 hmem
      rw [Function.update_self]
      exact ⟨doc, rfl, h.holds⟩

/-- Two quarantines of one claim and feature. -/
def firstQuarantine : QuarantineInput where
  claimKey := "k"
  feature := .toolsSingle
  reason := "first"
  source := "rly-compat-quarantine"
  quarantinedAt := "2026-01-01T00:00:00.000Z"
  rlyBuildVersion := none

def secondQuarantine : QuarantineInput := { firstQuarantine with reason := "second" }

theorem soundFiles_none : SoundFiles runtime fun _ => none where
  distinct := by
    intro path doc h
    cases h
  filed := by
    intro path doc h
    cases h

end RlyGateway
