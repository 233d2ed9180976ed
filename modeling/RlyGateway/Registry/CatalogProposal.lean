import RlyGateway.Library.SortedBy
import RlyGateway.Routing.ReverseMapping

/-!
# Propose-only catalog drift

`src/registry/catalog-proposal.ts`: a discovery snapshot of one provider is compared with the reviewed
registry. Rows are matched with candidates by their upstream id, and candidates with rows by the
logical id that provider and upstream id are joined to.
-/

namespace RlyGateway

/-! ## Snapshots -/

/-- Metadata that a provider reports. -/
structure DeclaredMetadata where
  tools : Option Bool
  reasoning : Option Bool
  contextWindow : Option ℕ
  maxOutput : Option ℕ
deriving DecidableEq, Repr

structure DiscoveryCandidate where
  accessProviderId : String
  upstreamModelId : String
  modelFamily : Option String
  observedLimits : Option ModelLimits
  declared : Option DeclaredMetadata
deriving DecidableEq, Repr

structure DiscoverySnapshot where
  source : String
  discoveredAt : String
  catalogueVersion : Option String
  models : List DiscoveryCandidate
deriving DecidableEq, Repr

/-! ## Metadata -/

inductive DeclaredMetadataField where
  | modelFamily
  | contextWindow
  | maxOutput
  | tools
  | reasoning
deriving DecidableEq, Repr

/-- `string | number | boolean`. -/
inductive MetadataValue where
  | text (value : String)
  | number (value : ℕ)
  | flag (value : Bool)
deriving DecidableEq, Repr

structure DeclaredMetadataChange where
  field : DeclaredMetadataField
  trusted : Option MetadataValue
  observed : MetadataValue
deriving DecidableEq, Repr

/-- The reviewed value of a field. -/
def trustedMetadata (evidence : ModelEvidence) : DeclaredMetadataField → Option MetadataValue
  | .modelFamily => evidence.identity.modelFamily.map .text
  | .contextWindow => evidence.limits.contextWindow.map .number
  | .maxOutput => evidence.limits.maxOutput.map .number
  | .tools => some (.flag evidence.capabilities.tools)
  | .reasoning => some (.flag evidence.capabilities.reasoning)

/-- The discovered value of a field; a declared limit goes before an observed one. -/
def observedMetadata (candidate : DiscoveryCandidate) : DeclaredMetadataField → Option MetadataValue
  | .modelFamily => candidate.modelFamily.map .text
  | .contextWindow =>
      ((candidate.declared.bind (·.contextWindow)).or
        (candidate.observedLimits.bind (·.contextWindow))).map .number
  | .maxOutput =>
      ((candidate.declared.bind (·.maxOutput)).or
        (candidate.observedLimits.bind (·.maxOutput))).map .number
  | .tools => (candidate.declared.bind (·.tools)).map .flag
  | .reasoning => (candidate.declared.bind (·.reasoning)).map .flag

/-- The change of a field whose value was discovered and is not the reviewed one. -/
def fieldChange (field : DeclaredMetadataField) (trusted observed : Option MetadataValue) :
    Option DeclaredMetadataChange :=
  observed.bind fun value => if trusted = some value then none else some ⟨field, trusted, value⟩

def metadataChanges (evidence : ModelEvidence) (candidate : DiscoveryCandidate) :
    List DeclaredMetadataChange :=
  [.modelFamily, .contextWindow, .maxOutput, .tools, .reasoning].filterMap fun field =>
    fieldChange field (trustedMetadata evidence field) (observedMetadata candidate field)

/-! ## Reports -/

structure ChangedCandidate where
  logicalId : String
  identity : ModelIdentity
  changes : List DeclaredMetadataChange
deriving DecidableEq, Repr

structure RemovedModel where
  logicalId : String
  identity : ModelIdentity
  observedAt : String
  reason : String
deriving DecidableEq, Repr

structure NewCandidateProposal where
  identity : ModelIdentity
  proposedAt : String
  reason : String
  observedLimits : Option ModelLimits
  declared : Option DeclaredMetadata
deriving DecidableEq, Repr

structure CatalogProposalReport where
  providerId : String
  source : String
  discoveredAt : String
  catalogueVersion : Option String
  registryRevision : ℕ
  unchanged : List ModelEvidence
  new : List NewCandidateProposal
  changed : List ChangedCandidate
  removed : List RemovedModel
  compatibilityEvidenceRefs : List String
deriving DecidableEq, Repr

/-- What the pass over the trusted rows has collected. -/
structure DriftState where
  unchanged : List ModelEvidence
  changed : List ChangedCandidate
  removed : List RemovedModel
  reviewedEvidenceRefs : OrderedSet String

/-- The entry of a row that the snapshot misses. -/
def removedModel (snapshot : DiscoverySnapshot) (evidence : ModelEvidence) : RemovedModel :=
  ⟨evidence.logicalId, evidence.identity, snapshot.discoveredAt, "not-in-snapshot"⟩

/-- The step of the pass over the trusted rows. -/
def reviewTrusted (snapshot : DiscoverySnapshot)
    (candidatesByUpstreamId : OrderedMap String DiscoveryCandidate) (state : DriftState)
    (evidence : ModelEvidence) : DriftState :=
  match candidatesByUpstreamId.get? evidence.identity.upstreamModelId with
  | none => { state with removed := state.removed ++ [removedModel snapshot evidence] }
  | some candidate =>
      let refs := state.reviewedEvidenceRefs.add evidence.compatibility.evidenceRef
      let changes := metadataChanges evidence candidate
      if changes = [] then
        { state with unchanged := state.unchanged ++ [evidence], reviewedEvidenceRefs := refs }
      else
        { state with
          changed := state.changed ++ [⟨evidence.logicalId, evidence.identity, changes⟩]
          reviewedEvidenceRefs := refs }

/-- The proposal of a candidate without trusted evidence. -/
def newCandidateProposal (snapshot : DiscoverySnapshot) (candidate : DiscoveryCandidate) :
    NewCandidateProposal where
  identity := ⟨candidate.accessProviderId, candidate.upstreamModelId, candidate.modelFamily⟩
  proposedAt := snapshot.discoveredAt
  reason := "no-exact-evidence"
  observedLimits := candidate.observedLimits
  declared := candidate.declared

/-- Provider and model, joined. -/
def accessPath (identity : ModelIdentity) : String :=
  identity.accessProviderId ++ "/" ++ identity.upstreamModelId

/-- The report over candidates that have been checked. -/
def driftReport (snapshot : DiscoverySnapshot) (providerId : String) (registry : RegistryDocument)
    (candidatesByUpstreamId : OrderedMap String DiscoveryCandidate) : CatalogProposalReport :=
  let trusted := modelsForProvider registry providerId
  let state := trusted.foldl (reviewTrusted snapshot candidatesByUpstreamId)
    ⟨[], [], [], OrderedSet.empty⟩
  let newCandidates := (snapshot.models.filter fun candidate =>
    findModelEvidence registry candidate.accessProviderId candidate.upstreamModelId = none).map
      (newCandidateProposal snapshot)
  { providerId
    source := snapshot.source
    discoveredAt := snapshot.discoveredAt
    catalogueVersion := snapshot.catalogueVersion
    registryRevision := registry.registryRevision
    unchanged := state.unchanged.insertionSort fun left right =>
      textLe left.logicalId right.logicalId
    new := newCandidates.insertionSort fun left right =>
      textLe (accessPath left.identity) (accessPath right.identity)
    changed := state.changed.insertionSort fun left right => textLe left.logicalId right.logicalId
    removed := state.removed.insertionSort fun left right => textLe left.logicalId right.logicalId
    compatibilityEvidenceRefs := state.reviewedEvidenceRefs.elems.insertionSort textLe }

/-- The candidates are of the provider. -/
def checkAccessProvider (providerId : String) : List DiscoveryCandidate → Except String Unit
  | [] => .ok ()
  | candidate :: candidates =>
      if candidate.accessProviderId ≠ providerId then
        .error ("discovery snapshot mixes access providers (expected " ++ providerId ++
          ", found " ++ candidate.accessProviderId ++ ")")
      else checkAccessProvider providerId candidates

/-- The candidates by upstream id, added to those seen before. -/
def indexCandidates (providerId : String) (seen : OrderedMap String DiscoveryCandidate) :
    List DiscoveryCandidate → Except String (OrderedMap String DiscoveryCandidate)
  | [] => .ok seen
  | candidate :: candidates =>
      if candidate.upstreamModelId ∈ seen.keys then
        .error ("discovery snapshot contains duplicate access path " ++ providerId ++ "/" ++
          candidate.upstreamModelId)
      else indexCandidates providerId (seen.set candidate.upstreamModelId candidate) candidates

def proposeCatalogDrift (snapshot : DiscoverySnapshot) (providerId : String)
    (registry : RegistryDocument) : Except String CatalogProposalReport := do
  checkAccessProvider providerId snapshot.models
  let candidatesByUpstreamId ← indexCandidates providerId OrderedMap.empty snapshot.models
  return driftReport snapshot providerId registry candidatesByUpstreamId

/-! ## Specification -/

/-- The row is of the provider and model of the candidate. -/
def NamesPath (row : ModelEvidence) (candidate : DiscoveryCandidate) : Prop :=
  row.identity.accessProviderId = candidate.accessProviderId ∧
    row.identity.upstreamModelId = candidate.upstreamModelId

/-- A value was discovered that is not the reviewed one. -/
def Drifts (row : ModelEvidence) (candidate : DiscoveryCandidate) : Prop :=
  ∃ field value, observedMetadata candidate field = some value ∧
    trustedMetadata row field ≠ some value

/-- One of three statements holds, and no other. -/
def ExactlyOne (a b c : Prop) : Prop :=
  (a ∧ ¬ b ∧ ¬ c) ∨ (¬ a ∧ b ∧ ¬ c) ∨ (¬ a ∧ ¬ b ∧ c)

/-- Lists that are equal up to the order of entries of one logical id. -/
def SameUpToIds {α : Type} (logicalId : α → String) (entries entries' : List α) : Prop :=
  entries.Perm entries' ∧ entries.map logicalId = entries'.map logicalId

/-- Reports that are equal up to the order of rows of one logical id. -/
structure SameReport (report report' : CatalogProposalReport) : Prop where
  unchanged : SameUpToIds (·.logicalId) report.unchanged report'.unchanged
  changed : SameUpToIds (·.logicalId) report.changed report'.changed
  removed : SameUpToIds (·.logicalId) report.removed report'.removed
  rest : { report with unchanged := [], changed := [], removed := [] } =
    { report' with unchanged := [], changed := [], removed := [] }

section Specification

variable (registry : RegistryDocument) (snapshot : DiscoverySnapshot) (providerId : String)
  (report : CatalogProposalReport)

/-- Every row of the provider is in one part of the report, and every candidate is; the parts are told
by provider and upstream id; and the order of rows and candidates does not matter. -/
structure PartitionsDrift : Prop where
  rows : ∀ row ∈ registry.models, row.identity.accessProviderId = providerId → ExactlyOne
    (∃ entry ∈ report.unchanged, entry.logicalId = row.logicalId ∧ entry.identity = row.identity)
    (∃ entry ∈ report.changed, entry.logicalId = row.logicalId ∧ entry.identity = row.identity)
    (∃ entry ∈ report.removed, entry.logicalId = row.logicalId ∧ entry.identity = row.identity)
  removed : ∀ row ∈ registry.models, row.identity.accessProviderId = providerId →
    ((∃ entry ∈ report.removed, entry.logicalId = row.logicalId ∧ entry.identity = row.identity) ↔
      ∀ candidate ∈ snapshot.models, candidate.upstreamModelId ≠ row.identity.upstreamModelId)
  candidates : ∀ candidate ∈ snapshot.models, ExactlyOne
    (∃ entry ∈ report.new, entry.identity.accessProviderId = candidate.accessProviderId ∧
      entry.identity.upstreamModelId = candidate.upstreamModelId)
    (∃ entry ∈ report.unchanged, NamesPath entry candidate)
    (∃ entry ∈ report.changed, entry.identity.accessProviderId = candidate.accessProviderId ∧
      entry.identity.upstreamModelId = candidate.upstreamModelId)
  new : ∀ candidate ∈ snapshot.models,
    ((∃ entry ∈ report.new, entry.identity.accessProviderId = candidate.accessProviderId ∧
      entry.identity.upstreamModelId = candidate.upstreamModelId) ↔
      ∀ row ∈ registry.models, ¬ NamesPath row candidate)
  order : ∀ rows candidates, registry.models.Perm rows → snapshot.models.Perm candidates →
    ∃ report', proposeCatalogDrift { snapshot with models := candidates } providerId
        { registry with models := rows } = .ok report' ∧ SameReport report report'

/-- The rows agree on the paths of the candidates: a row has the logical id of a path where one is of
its provider and model, and the rows of one path drift alike. -/
structure PathsAgree : Prop where
  ids : ∀ candidate ∈ snapshot.models,
    (∃ row ∈ registry.models, row.logicalId =
      candidate.accessProviderId ++ "/" ++ candidate.upstreamModelId) ↔
      ∃ row ∈ registry.models, NamesPath row candidate
  drift : ∀ candidate ∈ snapshot.models, ∀ row ∈ registry.models, ∀ other ∈ registry.models,
    NamesPath row candidate → NamesPath other candidate →
      (Drifts row candidate ↔ Drifts other candidate)

end Specification

/-! ## The checks -/

section Checks

variable {providerId : String} {candidates : List DiscoveryCandidate}

theorem checkAccessProvider_eq_ok_iff :
    checkAccessProvider providerId candidates = .ok () ↔
      ∀ candidate ∈ candidates, candidate.accessProviderId = providerId := by
  induction candidates with
  | nil => simp [checkAccessProvider]
  | cons candidate candidates ih =>
      rw [checkAccessProvider, List.forall_mem_cons, ← ih]
      by_cases hprovider : candidate.accessProviderId = providerId <;> simp [hprovider]

/-- Candidates of different upstream ids are indexed. -/
theorem exists_indexCandidates_iff {seen : OrderedMap String DiscoveryCandidate} :
    (∃ index, indexCandidates providerId seen candidates = .ok index) ↔
      (candidates.map (·.upstreamModelId)).Nodup ∧
        ∀ candidate ∈ candidates, candidate.upstreamModelId ∉ seen.keys := by
  induction candidates generalizing seen with
  | nil => simp [indexCandidates]
  | cons candidate candidates ih =>
      rw [indexCandidates, List.map_cons, List.nodup_cons, List.forall_mem_cons]
      by_cases hseen : candidate.upstreamModelId ∈ seen.keys
      · simp [hseen]
      · have hkeys : (seen.set candidate.upstreamModelId candidate).keys =
            seen.keys ++ [candidate.upstreamModelId] := by
          rw [OrderedMap.keys_set, if_neg hseen]
        rw [if_neg hseen, ih, hkeys]
        simp only [List.mem_append, List.mem_singleton, not_or, List.mem_map, not_exists, not_and]
        constructor
        · rintro ⟨hnodup, hfresh⟩
          exact ⟨⟨fun other hother => (hfresh other hother).2, hnodup⟩, hseen,
            fun other hother => (hfresh other hother).1⟩
        · rintro ⟨⟨hne, hnodup⟩, -, hfresh⟩
          exact ⟨hnodup, fun other hother => ⟨hfresh other hother, hne other hother⟩⟩

/-- What is indexed is found by its upstream id. -/
theorem get?_indexCandidates {seen index : OrderedMap String DiscoveryCandidate}
    (h : indexCandidates providerId seen candidates = .ok index) (id : String)
    (found : DiscoveryCandidate) :
    index.get? id = some found ↔
      seen.get? id = some found ∨ found ∈ candidates ∧ found.upstreamModelId = id := by
  induction candidates generalizing seen with
  | nil =>
      cases h
      simp
  | cons candidate candidates ih =>
      rw [indexCandidates] at h
      split at h
      · cases h
      · rename_i hseen
        rw [ih h, OrderedMap.get?_set, List.mem_cons]
        by_cases hid : candidate.upstreamModelId = id
        · have hnone : seen.get? id = none := OrderedMap.get?_eq_none.2 (hid ▸ hseen)
          rw [if_pos hid, hnone]
          constructor
          · rintro (hfirst | ⟨hmem, hfound⟩)
            · cases hfirst
              exact .inr ⟨.inl rfl, hid⟩
            · exact .inr ⟨.inr hmem, hfound⟩
          · rintro (hnothing | ⟨rfl | hmem, hfound⟩)
            · cases hnothing
            · exact .inl rfl
            · exact .inr ⟨hmem, hfound⟩
        · rw [if_neg hid]
          constructor
          · rintro (hbefore | ⟨hmem, hfound⟩)
            · exact .inl hbefore
            · exact .inr ⟨.inr hmem, hfound⟩
          · rintro (hbefore | ⟨rfl | hmem, hfound⟩)
            · exact .inl hbefore
            · exact absurd hfound hid
            · exact .inr ⟨hmem, hfound⟩

end Checks

section Accepted

variable {registry : RegistryDocument} {snapshot : DiscoverySnapshot} {providerId : String}

/-- A snapshot is accepted where it is of one provider and lists no upstream id twice. -/
theorem exists_proposeCatalogDrift_iff :
    (∃ report, proposeCatalogDrift snapshot providerId registry = .ok report) ↔
      (∀ candidate ∈ snapshot.models, candidate.accessProviderId = providerId) ∧
        (snapshot.models.map (·.upstreamModelId)).Nodup := by
  have hindexed : (∃ index, indexCandidates providerId OrderedMap.empty snapshot.models = .ok index) ↔
      (snapshot.models.map (·.upstreamModelId)).Nodup := by
    rw [exists_indexCandidates_iff, and_iff_left]
    exact fun _ _ => List.not_mem_nil
  rw [← hindexed, ← checkAccessProvider_eq_ok_iff]
  unfold proposeCatalogDrift
  constructor
  · rintro ⟨report, h⟩
    obtain ⟨_, hprovider, h⟩ := Except.bind_eq_ok.1 h
    obtain ⟨index, hindex, -⟩ := Except.bind_eq_ok.1 h
    exact ⟨hprovider, index, hindex⟩
  · rintro ⟨hprovider, index, hindex⟩
    exact ⟨_, Except.bind_eq_ok.2 ⟨(), hprovider, Except.bind_eq_ok.2 ⟨index, hindex, rfl⟩⟩⟩

/-- An index of the candidates finds those of the snapshot. -/
def Indexes (index : OrderedMap String DiscoveryCandidate) (candidates : List DiscoveryCandidate) :
    Prop :=
  ∀ id found, index.get? id = some found ↔ found ∈ candidates ∧ found.upstreamModelId = id

/-- A report is made over an index of the candidates. -/
theorem exists_index_of_proposeCatalogDrift {report : CatalogProposalReport}
    (h : proposeCatalogDrift snapshot providerId registry = .ok report) :
    ∃ index, Indexes index snapshot.models ∧
      report = driftReport snapshot providerId registry index := by
  unfold proposeCatalogDrift at h
  obtain ⟨_, -, h⟩ := Except.bind_eq_ok.1 h
  obtain ⟨index, hindex, h⟩ := Except.bind_eq_ok.1 h
  refine ⟨index, fun id found => ?_, (Except.ok.inj h).symm⟩
  rw [get?_indexCandidates hindex, OrderedMap.get?_empty]
  exact or_iff_right fun hnothing => by cases hnothing

end Accepted

/-! ## The pass over the trusted rows -/

/-- Nothing changed where no value drifts. -/
theorem metadataChanges_eq_nil_iff {row : ModelEvidence} {candidate : DiscoveryCandidate} :
    metadataChanges row candidate = [] ↔ ¬ Drifts row candidate := by
  have hfields : ∀ field : DeclaredMetadataField,
      field ∈ [DeclaredMetadataField.modelFamily, .contextWindow, .maxOutput, .tools, .reasoning] := by
    intro field
    cases field <;> simp
  unfold metadataChanges Drifts fieldChange
  rw [List.filterMap_eq_nil_iff]
  simp only [hfields, true_imp_iff, Option.bind_eq_none_iff, not_exists, not_and, not_not]
  refine forall_congr' fun field => forall₂_congr fun value _ => ?_
  by_cases hsame : trustedMetadata row field = some value <;> simp [hsame]

section Review

variable {snapshot : DiscoverySnapshot} {index : OrderedMap String DiscoveryCandidate}

/-- The changes of a row whose upstream id is in the snapshot. -/
def rowChanges (index : OrderedMap String DiscoveryCandidate) (row : ModelEvidence) :
    Option (List DeclaredMetadataChange) :=
  (index.get? row.identity.upstreamModelId).map (metadataChanges row)

/-- The entry of a row that changed. -/
def changedCandidate? (index : OrderedMap String DiscoveryCandidate) (row : ModelEvidence) :
    Option ChangedCandidate :=
  ((rowChanges index row).filter (· ≠ [])).map fun changes => ⟨row.logicalId, row.identity, changes⟩

/-- One row goes to one part of the report. -/
theorem reviewTrusted_eq (state : DriftState) (row : ModelEvidence) :
    reviewTrusted snapshot index state row =
      { unchanged := state.unchanged ++ [row].filter fun row => rowChanges index row = some []
        changed := state.changed ++ [row].filterMap (changedCandidate? index)
        removed := state.removed ++
          ([row].filter fun row => rowChanges index row = none).map (removedModel snapshot)
        reviewedEvidenceRefs := ([row].filter fun row => rowChanges index row ≠ none).foldl
          (fun refs row => refs.add row.compatibility.evidenceRef) state.reviewedEvidenceRefs } := by
  cases hfound : index.get? row.identity.upstreamModelId with
  | none =>
      have hdrift : rowChanges index row = none := by rw [rowChanges, hfound, Option.map_none]
      have hchanged : changedCandidate? index row = none := by
        rw [changedCandidate?, hdrift, Option.filter_none, Option.map_none]
      simp [reviewTrusted, hfound, hdrift, hchanged]
  | some candidate =>
      have hdrift : rowChanges index row = some (metadataChanges row candidate) := by
        rw [rowChanges, hfound, Option.map_some]
      by_cases hchanges : metadataChanges row candidate = []
      · have hchanged : changedCandidate? index row = none := by
          simp [changedCandidate?, hdrift, hchanges]
        simp [reviewTrusted, hfound, hdrift, hchanged, hchanges]
      · have hchanged : changedCandidate? index row =
            some ⟨row.logicalId, row.identity, metadataChanges row candidate⟩ := by
          simp [changedCandidate?, hdrift, hchanges]
        simp [reviewTrusted, hfound, hdrift, hchanged, hchanges]

/-- The pass sorts the rows into the parts of the report. -/
theorem foldl_reviewTrusted (rows : List ModelEvidence) (state : DriftState) :
    rows.foldl (reviewTrusted snapshot index) state =
      { unchanged := state.unchanged ++ rows.filter fun row => rowChanges index row = some []
        changed := state.changed ++ rows.filterMap (changedCandidate? index)
        removed := state.removed ++
          (rows.filter fun row => rowChanges index row = none).map (removedModel snapshot)
        reviewedEvidenceRefs := (rows.filter fun row => rowChanges index row ≠ none).foldl
          (fun refs row => refs.add row.compatibility.evidenceRef) state.reviewedEvidenceRefs } := by
  induction rows generalizing state with
  | nil => simp
  | cons row rows ih =>
      have hcons : row :: rows = [row] ++ rows := rfl
      rw [List.foldl_cons, ih, reviewTrusted_eq, hcons]
      simp only [List.filter_append, List.filterMap_append, List.map_append, List.append_assoc,
        List.foldl_append]

end Review

/-! ## The parts of a report -/

section Parts

variable {registry : RegistryDocument} {snapshot : DiscoverySnapshot} {providerId : String}
  {index : OrderedMap String DiscoveryCandidate}

theorem driftReport_unchanged : (driftReport snapshot providerId registry index).unchanged =
    ((modelsForProvider registry providerId).filter fun row =>
      rowChanges index row = some []).insertionSort fun left right =>
        textLe left.logicalId right.logicalId := by
  rw [driftReport, foldl_reviewTrusted]
  rfl

theorem driftReport_changed : (driftReport snapshot providerId registry index).changed =
    ((modelsForProvider registry providerId).filterMap
      (changedCandidate? index)).insertionSort fun left right =>
        textLe left.logicalId right.logicalId := by
  rw [driftReport, foldl_reviewTrusted]
  rfl

theorem driftReport_removed : (driftReport snapshot providerId registry index).removed =
    (((modelsForProvider registry providerId).filter fun row =>
      rowChanges index row = none).map (removedModel snapshot)).insertionSort fun left right =>
        textLe left.logicalId right.logicalId := by
  rw [driftReport, foldl_reviewTrusted]
  rfl

theorem driftReport_refs : (driftReport snapshot providerId registry index).compatibilityEvidenceRefs =
    (OrderedSet.ofList (((modelsForProvider registry providerId).filter fun row =>
      rowChanges index row ≠ none).map (·.compatibility.evidenceRef))).elems.insertionSort
        textLe := by
  rw [driftReport, foldl_reviewTrusted, OrderedSet.ofList, List.foldl_map]

theorem driftReport_new : (driftReport snapshot providerId registry index).new =
    ((snapshot.models.filter fun candidate =>
      findModelEvidence registry candidate.accessProviderId candidate.upstreamModelId = none).map
        (newCandidateProposal snapshot)).insertionSort fun left right =>
          textLe (accessPath left.identity) (accessPath right.identity) :=
  rfl

theorem mem_modelsForProvider {row : ModelEvidence} :
    row ∈ modelsForProvider registry providerId ↔
      row ∈ registry.models ∧ row.identity.accessProviderId = providerId := by
  rw [modelsForProvider, List.mem_filter, decide_eq_true_eq]

section Index

variable (hindex : Indexes index snapshot.models)

include hindex

/-- The snapshot misses a row. -/
theorem Indexes.rowChanges_eq_none_iff {row : ModelEvidence} : rowChanges index row = none ↔
    ∀ candidate ∈ snapshot.models, candidate.upstreamModelId ≠ row.identity.upstreamModelId := by
  rw [rowChanges, Option.map_eq_none_iff, Option.eq_none_iff_forall_ne_some]
  refine forall_congr' fun candidate => ?_
  rw [ne_eq, hindex, not_and]

/-- The snapshot has a row, with these changes. -/
theorem Indexes.rowChanges_eq_some_iff {row : ModelEvidence}
    {changes : List DeclaredMetadataChange} : rowChanges index row = some changes ↔
      ∃ candidate ∈ snapshot.models,
        candidate.upstreamModelId = row.identity.upstreamModelId ∧
          metadataChanges row candidate = changes := by
  rw [rowChanges, Option.map_eq_some_iff]
  refine exists_congr fun candidate => ?_
  rw [hindex, and_assoc]

theorem Indexes.mem_unchanged {row : ModelEvidence} :
    row ∈ (driftReport snapshot providerId registry index).unchanged ↔
      row ∈ modelsForProvider registry providerId ∧ ∃ candidate ∈ snapshot.models,
        candidate.upstreamModelId = row.identity.upstreamModelId ∧ ¬ Drifts row candidate := by
  rw [driftReport_unchanged, List.mem_insertionSort, List.mem_filter, decide_eq_true_eq,
    hindex.rowChanges_eq_some_iff]
  simp only [metadataChanges_eq_nil_iff]

theorem Indexes.mem_changed {entry : ChangedCandidate} :
    entry ∈ (driftReport snapshot providerId registry index).changed ↔
      ∃ row ∈ modelsForProvider registry providerId, ∃ candidate ∈ snapshot.models,
        candidate.upstreamModelId = row.identity.upstreamModelId ∧ Drifts row candidate ∧
          ⟨row.logicalId, row.identity, metadataChanges row candidate⟩ = entry := by
  rw [driftReport_changed, List.mem_insertionSort, List.mem_filterMap]
  refine exists_congr fun row => and_congr_right fun _ => ?_
  rw [changedCandidate?, Option.map_eq_some_iff]
  constructor
  · rintro ⟨changes, hfilter, hentry⟩
    obtain ⟨hsome, hne⟩ := Option.filter_eq_some_iff.1 hfilter
    obtain ⟨candidate, hcandidate, hid, rfl⟩ := hindex.rowChanges_eq_some_iff.1 hsome
    have hdrifts : Drifts row candidate := by
      by_contra hnot
      exact of_decide_eq_true hne (metadataChanges_eq_nil_iff.2 hnot)
    exact ⟨candidate, hcandidate, hid, hdrifts, hentry⟩
  · rintro ⟨candidate, hcandidate, hid, hdrifts, hentry⟩
    have hne : metadataChanges row candidate ≠ [] := fun hnil =>
      metadataChanges_eq_nil_iff.1 hnil hdrifts
    exact ⟨_, Option.filter_eq_some_iff.2
      ⟨hindex.rowChanges_eq_some_iff.2 ⟨candidate, hcandidate, hid, rfl⟩, decide_eq_true hne⟩,
      hentry⟩

theorem Indexes.mem_removed {entry : RemovedModel} :
    entry ∈ (driftReport snapshot providerId registry index).removed ↔
      ∃ row ∈ modelsForProvider registry providerId,
        (∀ candidate ∈ snapshot.models,
          candidate.upstreamModelId ≠ row.identity.upstreamModelId) ∧
        removedModel snapshot row = entry := by
  rw [driftReport_removed, List.mem_insertionSort, List.mem_map]
  refine exists_congr fun row => ?_
  rw [List.mem_filter, decide_eq_true_eq, hindex.rowChanges_eq_none_iff, and_assoc]

end Index

/-- A model is found where a row has the joined logical id. -/
theorem findModelEvidence_eq_none_iff {accessProviderId upstreamModelId : String} :
    findModelEvidence registry accessProviderId upstreamModelId = none ↔
      ¬ ∃ row ∈ registry.models, row.logicalId = accessProviderId ++ "/" ++ upstreamModelId := by
  rw [findModelEvidence, List.find?_eq_none]
  simp

theorem mem_new {entry : NewCandidateProposal} :
    entry ∈ (driftReport snapshot providerId registry index).new ↔
      ∃ candidate ∈ snapshot.models,
        (¬ ∃ row ∈ registry.models, row.logicalId =
          candidate.accessProviderId ++ "/" ++ candidate.upstreamModelId) ∧
        newCandidateProposal snapshot candidate = entry := by
  rw [driftReport_new, List.mem_insertionSort, List.mem_map]
  refine exists_congr fun candidate => ?_
  rw [List.mem_filter, decide_eq_true_eq, findModelEvidence_eq_none_iff, and_assoc]

end Parts

/-! ## The order of rows and candidates -/

section Order

/-- Sorted lists of the same entries are equal up to the order of entries of one logical id. -/
theorem sameUpToIds_insertionSort {α : Type} (logicalId : α → String) {entries entries' : List α}
    (h : entries.Perm entries') :
    SameUpToIds logicalId
      (entries.insertionSort fun left right => textLe (logicalId left) (logicalId right))
      (entries'.insertionSort fun left right => textLe (logicalId left) (logicalId right)) := by
  have hsorts := List.perm_insertionSort fun left right => textLe (logicalId left) (logicalId right)
  refine ⟨(hsorts entries).trans (h.trans (hsorts entries').symm), ?_⟩
  exact List.map_insertionSort_eq_of_perm textLe logicalId textLe_total textLe_trans textLe_antisymm
    (h.map logicalId)

/-- Sets of the same texts are listed the same when they are sorted. -/
theorem insertionSort_elems_eq {refs refs' : OrderedSet String} (h : ∀ ref, ref ∈ refs ↔ ref ∈ refs') :
    refs.elems.insertionSort textLe = refs'.elems.insertionSort textLe := by
  have hperm : refs.elems.Perm refs'.elems :=
    (List.perm_ext_iff_of_nodup refs.nodup refs'.nodup).2 h
  have hnodup : (refs.elems.map id).Nodup := by
    rw [List.map_id]
    exact refs.nodup
  exact List.insertionSort_eq_of_perm textLe id textLe_total textLe_trans textLe_antisymm hnodup hperm

variable {registry : RegistryDocument} {snapshot : DiscoverySnapshot} {providerId : String}

/-- Candidates of one provider and of different upstream ids have different paths. -/
theorem nodup_accessPath (hprovider : ∀ candidate ∈ snapshot.models,
    candidate.accessProviderId = providerId)
    (hnodup : (snapshot.models.map (·.upstreamModelId)).Nodup) :
    ((snapshot.models.map (newCandidateProposal snapshot)).map fun entry =>
      accessPath entry.identity).Nodup := by
  rw [List.map_map]
  refine List.Nodup.map_on ?_ (List.Nodup.of_map _ hnodup)
  intro candidate hcandidate other hother hpath
  refine List.inj_on_of_nodup_map hnodup hcandidate hother ?_
  have hjoined : providerId ++ "/" ++ candidate.upstreamModelId =
      providerId ++ "/" ++ other.upstreamModelId := by
    have hpaths : candidate.accessProviderId ++ "/" ++ candidate.upstreamModelId =
      other.accessProviderId ++ "/" ++ other.upstreamModelId := hpath
    rw [hprovider _ hcandidate, hprovider _ hother] at hpaths
    exact hpaths
  have hchars := congrArg String.toList hjoined
  rw [toList_logicalId, toList_logicalId] at hchars
  exact String.toList_inj.1 (List.cons.inj (List.append_cancel_left hchars)).2

/-- The candidates without trusted evidence are told by the joined logical ids alone. -/
theorem driftReport_new_eq (index index' : OrderedMap String DiscoveryCandidate)
    {rows : List ModelEvidence} {candidates : List DiscoveryCandidate}
    (hprovider : ∀ candidate ∈ snapshot.models, candidate.accessProviderId = providerId)
    (hnodup : (snapshot.models.map (·.upstreamModelId)).Nodup) (hrows : registry.models.Perm rows)
    (hcandidates : snapshot.models.Perm candidates) :
    (driftReport snapshot providerId registry index).new =
      (driftReport { snapshot with models := candidates } providerId
        { registry with models := rows } index').new := by
  have hfound : ∀ candidate ∈ candidates,
      decide (findModelEvidence { registry with models := rows } candidate.accessProviderId
          candidate.upstreamModelId = none) =
        decide (findModelEvidence registry candidate.accessProviderId candidate.upstreamModelId =
          none) := by
    intro candidate _
    simp only [findModelEvidence_eq_none_iff, hrows.mem_iff]
  have hperm := (hcandidates.filter fun candidate => findModelEvidence registry
    candidate.accessProviderId candidate.upstreamModelId = none).map (newCandidateProposal snapshot)
  have hsublist : (((snapshot.models.filter fun candidate => findModelEvidence registry
      candidate.accessProviderId candidate.upstreamModelId = none).map
        (newCandidateProposal snapshot)).map fun entry => accessPath entry.identity).Sublist
      ((snapshot.models.map (newCandidateProposal snapshot)).map fun entry =>
        accessPath entry.identity) :=
    (List.filter_sublist.map _).map _
  have hpaths := hsublist.nodup (nodup_accessPath hprovider hnodup)
  have hproposal : newCandidateProposal { snapshot with models := candidates } =
      newCandidateProposal snapshot := rfl
  rw [driftReport_new, driftReport_new, List.filter_congr hfound, hproposal]
  exact List.insertionSort_eq_of_perm textLe _ textLe_total textLe_trans textLe_antisymm hpaths hperm

/-- The report does not depend on the order of rows and candidates. -/
theorem proposeCatalogDrift_order {report : CatalogProposalReport}
    (h : proposeCatalogDrift snapshot providerId registry = .ok report) {rows : List ModelEvidence}
    {candidates : List DiscoveryCandidate} (hrows : registry.models.Perm rows)
    (hcandidates : snapshot.models.Perm candidates) :
    ∃ report', proposeCatalogDrift { snapshot with models := candidates } providerId
      { registry with models := rows } = .ok report' ∧ SameReport report report' := by
  obtain ⟨hprovider, hnodup⟩ := exists_proposeCatalogDrift_iff.1 ⟨report, h⟩
  have haccepted : ∃ report', proposeCatalogDrift { snapshot with models := candidates } providerId
      { registry with models := rows } = .ok report' := by
    refine exists_proposeCatalogDrift_iff.2 ⟨fun candidate hcandidate => ?_, ?_⟩
    · exact hprovider candidate (hcandidates.mem_iff.2 hcandidate)
    · exact ((hcandidates.map _).nodup_iff).1 hnodup
  obtain ⟨report', h'⟩ := haccepted
  refine ⟨report', h', ?_⟩
  obtain ⟨index, hindex, rfl⟩ := exists_index_of_proposeCatalogDrift h
  obtain ⟨index', hindex', rfl⟩ := exists_index_of_proposeCatalogDrift h'
  -- both indexes find the same candidates, and so every row has the same changes
  have hfind : ∀ id, index'.get? id = index.get? id := by
    intro id
    refine Option.ext fun found => ?_
    rw [hindex' id found, hindex id found, hcandidates.mem_iff]
  have hchanges : rowChanges index' = rowChanges index := by
    funext row
    rw [rowChanges, rowChanges, hfind]
  have hchanged : changedCandidate? index' = changedCandidate? index := by
    funext row
    rw [changedCandidate?, changedCandidate?, hchanges]
  have htrusted : (modelsForProvider registry providerId).Perm
      (modelsForProvider { registry with models := rows } providerId) := hrows.filter _
  refine ⟨?_, ?_, ?_, ?_⟩
  · rw [driftReport_unchanged, driftReport_unchanged, hchanges]
    exact sameUpToIds_insertionSort ModelEvidence.logicalId (htrusted.filter _)
  · rw [driftReport_changed, driftReport_changed, hchanged]
    exact sameUpToIds_insertionSort ChangedCandidate.logicalId (htrusted.filterMap _)
  · rw [driftReport_removed, driftReport_removed, hchanges]
    exact sameUpToIds_insertionSort RemovedModel.logicalId ((htrusted.filter _).map _)
  · have hnew := driftReport_new_eq index index' hprovider hnodup hrows hcandidates
    have hrefs : (driftReport snapshot providerId registry index).compatibilityEvidenceRefs =
        (driftReport { snapshot with models := candidates } providerId
          { registry with models := rows } index').compatibilityEvidenceRefs := by
      rw [driftReport_refs, driftReport_refs, hchanges]
      refine insertionSort_elems_eq fun ref => ?_
      rw [OrderedSet.mem_ofList, OrderedSet.mem_ofList]
      exact ((htrusted.filter _).map _).mem_iff
    rw [hnew, hrefs]
    rfl

end Order

/-! ## The parts are a partition -/

section Partition

variable {registry : RegistryDocument} {snapshot : DiscoverySnapshot} {providerId : String}
  {index : OrderedMap String DiscoveryCandidate}

variable (registry providerId index) in
/-- A candidate is new where no row has the joined logical id. -/
theorem candidate_new_iff (hnodup : (snapshot.models.map (·.upstreamModelId)).Nodup)
    {candidate : DiscoveryCandidate} (hcandidate : candidate ∈ snapshot.models) :
    (∃ entry ∈ (driftReport snapshot providerId registry index).new,
      entry.identity.accessProviderId = candidate.accessProviderId ∧
        entry.identity.upstreamModelId = candidate.upstreamModelId) ↔
      ¬ ∃ row ∈ registry.models, row.logicalId =
        candidate.accessProviderId ++ "/" ++ candidate.upstreamModelId := by
  constructor
  · rintro ⟨entry, hentry, -, hid⟩
    obtain ⟨other, hother, hnone, rfl⟩ := mem_new.1 hentry
    obtain rfl : other = candidate := List.inj_on_of_nodup_map hnodup hother hcandidate hid
    exact hnone
  · intro hnone
    exact ⟨_, mem_new.2 ⟨candidate, hcandidate, hnone, rfl⟩, rfl, rfl⟩

section Index

variable (hindex : Indexes index snapshot.models)
  (hprovider : ∀ candidate ∈ snapshot.models, candidate.accessProviderId = providerId)
  (hnodup : (snapshot.models.map (·.upstreamModelId)).Nodup)

include hindex

/-- A row is removed where the snapshot misses its upstream id. -/
theorem Indexes.removed_iff {row : ModelEvidence} (hrow : row ∈ modelsForProvider registry providerId) :
    (∃ entry ∈ (driftReport snapshot providerId registry index).removed,
      entry.logicalId = row.logicalId ∧ entry.identity = row.identity) ↔
      ∀ candidate ∈ snapshot.models,
        candidate.upstreamModelId ≠ row.identity.upstreamModelId := by
  constructor
  · rintro ⟨entry, hentry, -, hidentity⟩
    obtain ⟨other, -, habsent, rfl⟩ := hindex.mem_removed.1 hentry
    have hsame : other.identity = row.identity := hidentity
    rw [← hsame]
    exact habsent
  · intro habsent
    exact ⟨removedModel snapshot row, hindex.mem_removed.2 ⟨row, hrow, habsent, rfl⟩, rfl, rfl⟩

include hprovider hnodup

variable (registry) in
/-- A candidate is unchanged where a row of its path does not drift. -/
theorem Indexes.candidate_unchanged_iff {candidate : DiscoveryCandidate}
    (hcandidate : candidate ∈ snapshot.models) :
    (∃ row ∈ (driftReport snapshot providerId registry index).unchanged, NamesPath row candidate) ↔
      ∃ row ∈ registry.models, NamesPath row candidate ∧ ¬ Drifts row candidate := by
  constructor
  · rintro ⟨row, hrow, hpath⟩
    obtain ⟨htrusted, other, hother, hid, hdrift⟩ := hindex.mem_unchanged.1 hrow
    obtain rfl : other = candidate :=
      List.inj_on_of_nodup_map hnodup hother hcandidate (hid.trans hpath.2)
    exact ⟨row, mem_of_mem_modelsForProvider htrusted, hpath, hdrift⟩
  · rintro ⟨row, hrow, hpath, hdrift⟩
    have htrusted : row ∈ modelsForProvider registry providerId :=
      mem_modelsForProvider.2 ⟨hrow, hpath.1.trans (hprovider _ hcandidate)⟩
    exact ⟨row, hindex.mem_unchanged.2 ⟨htrusted, candidate, hcandidate, hpath.2.symm, hdrift⟩, hpath⟩

variable (registry) in
/-- A candidate is changed where a row of its path drifts. -/
theorem Indexes.candidate_changed_iff {candidate : DiscoveryCandidate}
    (hcandidate : candidate ∈ snapshot.models) :
    (∃ entry ∈ (driftReport snapshot providerId registry index).changed,
      entry.identity.accessProviderId = candidate.accessProviderId ∧
        entry.identity.upstreamModelId = candidate.upstreamModelId) ↔
      ∃ row ∈ registry.models, NamesPath row candidate ∧ Drifts row candidate := by
  constructor
  · rintro ⟨entry, hentry, hprovided, hid⟩
    obtain ⟨row, htrusted, other, hother, hsame, hdrift, rfl⟩ := hindex.mem_changed.1 hentry
    obtain rfl : other = candidate :=
      List.inj_on_of_nodup_map hnodup hother hcandidate (hsame.trans hid)
    exact ⟨row, mem_of_mem_modelsForProvider htrusted, ⟨hprovided, hid⟩, hdrift⟩
  · rintro ⟨row, hrow, hpath, hdrift⟩
    have htrusted : row ∈ modelsForProvider registry providerId :=
      mem_modelsForProvider.2 ⟨hrow, hpath.1.trans (hprovider _ hcandidate)⟩
    exact ⟨_, hindex.mem_changed.2
      ⟨row, htrusted, candidate, hcandidate, hpath.2.symm, hdrift, rfl⟩, hpath.1, hpath.2⟩

omit hprovider in
/-- A row that the snapshot has is unchanged where a row of its logical id and identity does not
drift, and changed where one does. -/
theorem Indexes.row_iff {row : ModelEvidence} {candidate : DiscoveryCandidate}
    (hrow : row ∈ modelsForProvider registry providerId) (hcandidate : candidate ∈ snapshot.models)
    (hid : candidate.upstreamModelId = row.identity.upstreamModelId) :
    ((∃ entry ∈ (driftReport snapshot providerId registry index).unchanged,
      entry.logicalId = row.logicalId ∧ entry.identity = row.identity) ↔
        ∃ other ∈ registry.models, other.logicalId = row.logicalId ∧
          other.identity = row.identity ∧ ¬ Drifts other candidate) ∧
    ((∃ entry ∈ (driftReport snapshot providerId registry index).changed,
      entry.logicalId = row.logicalId ∧ entry.identity = row.identity) ↔
        ∃ other ∈ registry.models, other.logicalId = row.logicalId ∧
          other.identity = row.identity ∧ Drifts other candidate) := by
  have htrusted : ∀ other ∈ registry.models, other.identity = row.identity →
      other ∈ modelsForProvider registry providerId ∧
        candidate.upstreamModelId = other.identity.upstreamModelId := by
    intro other hother hidentity
    rw [mem_modelsForProvider, hidentity]
    exact ⟨⟨hother, (mem_modelsForProvider.1 hrow).2⟩, hid⟩
  have hsame : ∀ found ∈ snapshot.models, ∀ other : ModelEvidence, other.identity = row.identity →
      found.upstreamModelId = other.identity.upstreamModelId → found = candidate := by
    intro found hfound other hidentity hother
    refine List.inj_on_of_nodup_map hnodup hfound hcandidate ?_
    rw [hother, hidentity]
    exact hid.symm
  constructor
  · constructor
    · rintro ⟨other, hother, hlogical, hidentity⟩
      obtain ⟨hmem, found, hfound, hup, hdrift⟩ := hindex.mem_unchanged.1 hother
      obtain rfl := hsame found hfound other hidentity hup
      exact ⟨other, mem_of_mem_modelsForProvider hmem, hlogical, hidentity, hdrift⟩
    · rintro ⟨other, hother, hlogical, hidentity, hdrift⟩
      obtain ⟨hmem, hup⟩ := htrusted other hother hidentity
      exact ⟨other, hindex.mem_unchanged.2 ⟨hmem, candidate, hcandidate, hup, hdrift⟩, hlogical,
        hidentity⟩
  · constructor
    · rintro ⟨entry, hentry, hlogical, hidentity⟩
      obtain ⟨other, hmem, found, hfound, hup, hdrift, rfl⟩ := hindex.mem_changed.1 hentry
      obtain rfl := hsame found hfound other hidentity hup
      exact ⟨other, mem_of_mem_modelsForProvider hmem, hlogical, hidentity, hdrift⟩
    · rintro ⟨other, hother, hlogical, hidentity, hdrift⟩
      obtain ⟨hmem, hup⟩ := htrusted other hother hidentity
      exact ⟨_, hindex.mem_changed.2 ⟨other, hmem, candidate, hcandidate, hup, hdrift, rfl⟩,
        hlogical, hidentity⟩

omit hprovider hnodup in
/-- A row that the snapshot misses is neither unchanged nor changed. -/
theorem Indexes.row_absent {row : ModelEvidence} (habsent : ∀ candidate ∈ snapshot.models,
    candidate.upstreamModelId ≠ row.identity.upstreamModelId) :
    (¬ ∃ entry ∈ (driftReport snapshot providerId registry index).unchanged,
      entry.logicalId = row.logicalId ∧ entry.identity = row.identity) ∧
    ¬ ∃ entry ∈ (driftReport snapshot providerId registry index).changed,
      entry.logicalId = row.logicalId ∧ entry.identity = row.identity := by
  constructor
  · rintro ⟨other, hother, -, hidentity⟩
    obtain ⟨-, found, hfound, hup, -⟩ := hindex.mem_unchanged.1 hother
    exact habsent found hfound (hup.trans (congrArg (·.upstreamModelId) hidentity))
  · rintro ⟨entry, hentry, -, hidentity⟩
    obtain ⟨other, -, found, hfound, hup, -, rfl⟩ := hindex.mem_changed.1 hentry
    exact habsent found hfound (hup.trans (congrArg (·.upstreamModelId) hidentity))

end Index

/-- The rows of one path that drift alike, and are found by their path. -/
theorem partitionsDrift_of_pathsAgree {report : CatalogProposalReport}
    (h : proposeCatalogDrift snapshot providerId registry = .ok report)
    (hagree : PathsAgree registry snapshot) :
    PartitionsDrift registry snapshot providerId report := by
  obtain ⟨hprovider, hnodup⟩ := exists_proposeCatalogDrift_iff.1 ⟨report, h⟩
  obtain ⟨index, hindex, rfl⟩ := exists_index_of_proposeCatalogDrift h
  refine ⟨fun row hrow hname => ?_, fun row hrow hname => ?_, fun candidate hcandidate => ?_,
    fun candidate hcandidate => ?_, fun rows candidates => proposeCatalogDrift_order h⟩
  · have htrusted : row ∈ modelsForProvider registry providerId :=
      mem_modelsForProvider.2 ⟨hrow, hname⟩
    by_cases habsent : ∀ candidate ∈ snapshot.models,
        candidate.upstreamModelId ≠ row.identity.upstreamModelId
    · exact .inr (.inr ⟨(hindex.row_absent habsent).1, (hindex.row_absent habsent).2,
        (hindex.removed_iff htrusted).2 habsent⟩)
    · have hpresent := habsent
      push Not at hpresent
      obtain ⟨candidate, hcandidate, hid⟩ := hpresent
      obtain ⟨hunchanged, hchanged⟩ := hindex.row_iff hnodup htrusted hcandidate hid
      have hremoved := mt (hindex.removed_iff htrusted).1 habsent
      have hpath : ∀ other : ModelEvidence, other.identity = row.identity →
          NamesPath other candidate := by
        intro other hidentity
        rw [NamesPath, hidentity, hname]
        exact ⟨(hprovider _ hcandidate).symm, hid.symm⟩
      have halike : ∀ other ∈ registry.models, other.identity = row.identity →
          (Drifts other candidate ↔ Drifts row candidate) := fun other hother hidentity =>
        hagree.drift candidate hcandidate other hother row hrow (hpath other hidentity) (hpath row rfl)
      by_cases hdrift : Drifts row candidate
      · refine .inr (.inl ⟨?_, hchanged.2 ⟨row, hrow, rfl, rfl, hdrift⟩, hremoved⟩)
        rw [hunchanged]
        rintro ⟨other, hother, -, hidentity, hnot⟩
        exact hnot ((halike other hother hidentity).2 hdrift)
      · refine .inl ⟨hunchanged.2 ⟨row, hrow, rfl, rfl, hdrift⟩, ?_, hremoved⟩
        rw [hchanged]
        rintro ⟨other, hother, -, hidentity, hyes⟩
        exact hdrift ((halike other hother hidentity).1 hyes)
  · exact hindex.removed_iff (mem_modelsForProvider.2 ⟨hrow, hname⟩)
  · have hids := hagree.ids candidate hcandidate
    have hnew := candidate_new_iff registry providerId index hnodup hcandidate
    have hunchanged := hindex.candidate_unchanged_iff registry hprovider hnodup hcandidate
    have hchanged := hindex.candidate_changed_iff registry hprovider hnodup hcandidate
    by_cases hfound : ∃ row ∈ registry.models, NamesPath row candidate
    · have hnotNew := mt hnew.1 (not_not_intro (hids.2 hfound))
      obtain ⟨row, hrow, hpath⟩ := hfound
      have halike := hagree.drift candidate hcandidate
      by_cases hdrift : Drifts row candidate
      · refine .inr (.inr ⟨hnotNew, ?_, hchanged.2 ⟨row, hrow, hpath, hdrift⟩⟩)
        rw [hunchanged]
        rintro ⟨other, hother, hpath', hnot⟩
        exact hnot ((halike row hrow other hother hpath hpath').1 hdrift)
      · refine .inr (.inl ⟨hnotNew, hunchanged.2 ⟨row, hrow, hpath, hdrift⟩, ?_⟩)
        rw [hchanged]
        rintro ⟨other, hother, hpath', hyes⟩
        exact hdrift ((halike row hrow other hother hpath hpath').2 hyes)
    · refine .inl ⟨hnew.2 (mt hids.1 hfound), ?_, ?_⟩
      · rw [hunchanged]
        rintro ⟨row, hrow, hpath, -⟩
        exact hfound ⟨row, hrow, hpath⟩
      · rw [hchanged]
        rintro ⟨row, hrow, hpath, -⟩
        exact hfound ⟨row, hrow, hpath⟩
  · rw [candidate_new_iff _ _ _ hnodup hcandidate, hagree.ids candidate hcandidate]
    simp only [not_exists, not_and]

/-- The report of an accepted snapshot is a partition exactly where the rows agree on the paths of its
candidates. -/
theorem partitionsDrift_iff {report : CatalogProposalReport}
    (h : proposeCatalogDrift snapshot providerId registry = .ok report) :
    PartitionsDrift registry snapshot providerId report ↔ PathsAgree registry snapshot := by
  refine ⟨fun hpartition => ?_, partitionsDrift_of_pathsAgree h⟩
  obtain ⟨hprovider, hnodup⟩ := exists_proposeCatalogDrift_iff.1 ⟨report, h⟩
  obtain ⟨index, hindex, rfl⟩ := exists_index_of_proposeCatalogDrift h
  have halike : ∀ candidate ∈ snapshot.models, ∀ row ∈ registry.models,
      ∀ other ∈ registry.models, NamesPath row candidate → NamesPath other candidate →
        Drifts row candidate → Drifts other candidate := by
    intro candidate hcandidate row hrow other hother hpath hpath' hdrift
    by_contra hnot
    have hunchanged := (hindex.candidate_unchanged_iff _ hprovider hnodup hcandidate).2
      ⟨other, hother, hpath', hnot⟩
    have hchanged := (hindex.candidate_changed_iff _ hprovider hnodup hcandidate).2
      ⟨row, hrow, hpath, hdrift⟩
    rcases hpartition.candidates candidate hcandidate with
      ⟨-, hnone, -⟩ | ⟨-, -, hnone⟩ | ⟨-, hnone, -⟩
    · exact hnone hunchanged
    · exact hnone hchanged
    · exact hnone hunchanged
  refine ⟨fun candidate hcandidate => ?_, fun candidate hcandidate row hrow other hother hpath hpath' =>
    ⟨halike candidate hcandidate row hrow other hother hpath hpath',
      halike candidate hcandidate other hother row hrow hpath' hpath⟩⟩
  rw [← not_iff_not, ← candidate_new_iff _ _ _ hnodup hcandidate, hpartition.new candidate hcandidate]
  simp only [not_exists, not_and]

end Partition

/-! ## Reviewed registries -/

/-- Reviewed rows of different logical ids agree on the paths of a snapshot where no provider's name
has a slash. -/
theorem pathsAgree_of_reviewed {registry : RegistryDocument} {snapshot : DiscoverySnapshot}
    (hreviewed : ∀ row ∈ registry.models, ∃ input, row = reviewedModel input)
    (hids : (registry.models.map (·.logicalId)).Nodup)
    (hrows : ∀ row ∈ registry.models, '/' ∉ row.identity.accessProviderId.toList)
    (hcandidates : ∀ candidate ∈ snapshot.models, '/' ∉ candidate.accessProviderId.toList) :
    PathsAgree registry snapshot := by
  have hjoined : ∀ row ∈ registry.models, row.logicalId =
      row.identity.accessProviderId ++ "/" ++ row.identity.upstreamModelId := by
    intro row hrow
    obtain ⟨input, rfl⟩ := hreviewed row hrow
    rfl
  refine ⟨fun candidate hcandidate => ⟨?_, ?_⟩, ?_⟩
  · rintro ⟨row, hrow, hid⟩
    have hchars := congrArg String.toList ((hjoined row hrow).symm.trans hid)
    rw [toList_logicalId, toList_logicalId] at hchars
    obtain ⟨hprovider, hmodel⟩ := List.first_cut_unique hchars (hrows row hrow)
      (hcandidates candidate hcandidate)
    exact ⟨row, hrow, String.toList_inj.1 hprovider, String.toList_inj.1 hmodel⟩
  · rintro ⟨row, hrow, hprovider, hmodel⟩
    refine ⟨row, hrow, ?_⟩
    rw [hjoined row hrow, hprovider, hmodel]
  · intro candidate _ row hrow other hother hpath hpath'
    have hlogical : row.logicalId = other.logicalId := by
      rw [hjoined row hrow, hjoined other hother, hpath.1, hpath.2, hpath'.1, hpath'.2]
    rw [List.inj_on_of_nodup_map hids hrow hother hlogical]

/-- A snapshot of one model of Codex. -/
def codexDiscovery : DiscoverySnapshot where
  source := "codex-api-v1"
  discoveredAt := "2026-08-22T00:00:00.000Z"
  catalogueVersion := none
  models := [⟨"codex", "gpt-5.4", some "openai/codex", none, none⟩]

theorem partitionsDrift_codex : ∃ report,
    proposeCatalogDrift codexDiscovery "codex" ⟨5, [gpt54Model]⟩ = .ok report ∧
      PartitionsDrift ⟨5, [gpt54Model]⟩ codexDiscovery "codex" report := by
  have haccepted : ∃ report,
      proposeCatalogDrift codexDiscovery "codex" ⟨5, [gpt54Model]⟩ = .ok report :=
    exists_proposeCatalogDrift_iff.2 ⟨by decide, by decide⟩
  obtain ⟨report, h⟩ := haccepted
  refine ⟨report, h, (partitionsDrift_iff h).2 (pathsAgree_of_reviewed ?_ ?_ ?_ ?_)⟩
  · intro row hrow
    exact ⟨_, List.mem_singleton.1 hrow⟩
  · exact List.nodup_singleton _
  · decide
  · decide

/-- A migrated row whose logical id shortens its upstream id. -/
def shortenedModel : LegacyModelEvidence where
  logicalId := "openrouter/nemotron-3.5-lightning"
  upstreamId := "nvidia/nemotron-3.5-lightning:free"
  verifiedAt := "2026-08-13"
  fixtureVersion := "openai-chat-v1"
  capabilities := conservativeCapabilities

/-- The snapshot that lists the model of the migrated row. -/
def openRouterDiscovery : DiscoverySnapshot where
  source := "openrouter-api-v1"
  discoveredAt := "2026-08-22T00:00:00.000Z"
  catalogueVersion := none
  models := [⟨"openrouter", "nvidia/nemotron-3.5-lightning:free", none, none, none⟩]

/-- The model of the migrated row is unchanged, and new as well. -/
theorem not_partitionsDrift_shortened :
    ¬ ∀ (models : List LegacyModelEvidence) (revision : ℕ) (snapshot : DiscoverySnapshot)
        (providerId : String) (report : CatalogProposalReport),
      proposeCatalogDrift snapshot providerId (migrateRegistryDocument models revision) =
          .ok report →
        PartitionsDrift (migrateRegistryDocument models revision) snapshot providerId report := by
  intro hall
  have haccepted : ∃ report, proposeCatalogDrift openRouterDiscovery "openrouter"
      (migrateRegistryDocument [shortenedModel] 5) = .ok report :=
    exists_proposeCatalogDrift_iff.2 ⟨by decide, by decide⟩
  obtain ⟨report, h⟩ := haccepted
  have hagree := (partitionsDrift_iff h).1 (hall _ _ _ _ _ h)
  obtain ⟨row, hrow, hlogical⟩ := (hagree.ids _ List.mem_cons_self).2
    ⟨migrateModel shortenedModel, List.mem_singleton_self _, by decide, rfl⟩
  rw [List.mem_singleton.1 hrow] at hlogical
  exact absurd hlogical (by decide)

end RlyGateway
