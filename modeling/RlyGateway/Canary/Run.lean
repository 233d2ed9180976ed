import RlyGateway.Canary.Matrix
import RlyGateway.Routing.ReverseMapping

/-!
# Canary runs

`runCanary` of `src/canary/run.ts`: the matrix is run for every reviewed row that is not known to be
broken, and the run is ok where no verdict is `BROKEN`. The text gate comes first and is not run for
the Codex CLI, so that no other gate counts there.
-/

namespace RlyGateway

/-- What a run is made with: the clock gives the reading of every number. -/
structure RunCanaryOptions where
  decoder : DecoderEnvironment
  registry : RegistryDocument
  client : ClientKind
  now : ℕ → String
  environment : EvidenceEnvironment

/-- The evidence for one exact access path. -/
structure CanaryEvidence extends CompatibilityClaimIdentity where
  fixtureRevision : String
  testedGates : List CanaryGateResult
  checkedAt : String
  evidenceLayer : EvidenceLayer
  verdict : CanaryVerdict
  reason : Option String
deriving DecidableEq

structure CanaryRunSummary where
  ok : Bool
  clientBaseline : String
  results : List CanaryEvidence
  evidence : List EvidenceArtifactV2
  claims : List CompatibilityClaimDocument
  error : Option String

/-- What a run can throw. -/
inductive CanaryFailure where
  | decode (failure : DecodeFailure AnthropicProtocolError)
  | claim (message : String)
deriving DecidableEq, Repr

/-- What a run has collected, and how often it has read the clock. -/
structure CanaryState where
  results : List CanaryEvidence
  evidence : List EvidenceArtifactV2
  claimsByKey : OrderedMap String CompatibilityClaimDocument
  readings : ℕ

/-- `claimsByKey.get(claimKey) ?? emptyClaimDocument(...)`. -/
def existingClaim (claimsByKey : OrderedMap String CompatibilityClaimDocument) (claimKey : String)
    (claimIdentity : CompatibilityClaimIdentity) (feature : ClaimFeature) :
    Except CanaryFailure CompatibilityClaimDocument :=
  match claimsByKey.get? claimKey with
  | some existing => .ok existing
  | none => (emptyClaimDocument claimIdentity feature).mapError .claim

/-- The evidence record of one gate, and the claim it is added to. -/
def recordGate (options : RunCanaryOptions) (claimIdentity : CompatibilityClaimIdentity)
    (state : CanaryState) (gate : CanaryGateResult) : Except CanaryFailure CanaryState := do
  let claimKey ← (claimKeyFor claimIdentity gate.gate).mapError .claim
  let record : EvidenceArtifactV2 :=
    { claimKey
      feature := gate.gate
      layer := .A
      kind := .deterministicFakeMatrix
      fixtureRevision := (clientContracts options.client).fixtureRevision
      runnerVersion := "rly-canary-runner/2.0"
      checkedAt := options.now state.readings
      result := gate.status
      failureReason := gate.reason
      environment := some options.environment
      ref := none
      timingMs := none }
  let existing ← existingClaim state.claimsByKey claimKey claimIdentity gate.gate
  return { state with
    evidence := state.evidence ++ [record]
    claimsByKey := state.claimsByKey.set claimKey (appendObservation existing record)
    readings := state.readings + 1 }

/-- The records of the gates, one after the other. -/
def recordGates (options : RunCanaryOptions) (claimIdentity : CompatibilityClaimIdentity)
    (state : CanaryState) : List CanaryGateResult → Except CanaryFailure CanaryState
  | [] => .ok state
  | gate :: gates => do
      let state ← recordGate options claimIdentity state gate
      recordGates options claimIdentity state gates

/-- The identity of the claims about a row. -/
def pathIdentity (options : RunCanaryOptions) (model : ModelEvidence) : CompatibilityClaimIdentity :=
  let contract := clientContracts options.client
  claimIdentityFor options.client contract.baseline contract.fixtureRevision
    (adapterIdForProvider model.identity.accessProviderId) model.identity.accessProviderId
    model.identity.upstreamModelId model.identity.modelFamily

/-- The gates of a row. -/
def pathGates (options : RunCanaryOptions) (model : ModelEvidence) :
    Except (DecodeFailure AnthropicProtocolError) (List CanaryGateResult) :=
  runGateMatrix (pinnedInput options.decoder model options.client)

/-- The loop over the rows. -/
def runPaths (options : RunCanaryOptions) (state : CanaryState) :
    List ModelEvidence → Except CanaryFailure CanaryState
  | [] => .ok state
  | model :: models =>
      if model.compatibility.state = .BROKEN then runPaths options state models
      else do
        let gateResults ← (pathGates options model).mapError .decode
        let classified := classifyVerdict gateResults (requiredGatesFor model) true
        let state ← recordGates options (pathIdentity options model) state gateResults
        let result : CanaryEvidence :=
          { pathIdentity options model with
            fixtureRevision := (clientContracts options.client).fixtureRevision
            testedGates := gateResults
            checkedAt := options.now state.readings
            evidenceLayer := .A
            verdict := classified.1
            reason := classified.2 }
        runPaths options
          { state with results := state.results ++ [result], readings := state.readings + 1 } models

def runCanary (options : RunCanaryOptions) : Except CanaryFailure CanaryRunSummary := do
  let state ← runPaths options ⟨[], [], OrderedMap.empty, 0⟩ options.registry.models
  let ok := state.results.all (·.verdict ≠ .state .BROKEN)
  return {
    ok
    clientBaseline := (clientContracts options.client).baseline
    results := state.results
    evidence := state.evidence
    claims := state.claimsByKey.values
    error := if ok then none else some "at-least-one-access-path-broken" }

/-! ## Specification -/

/-- The run is not ok where a required gate of some path failed. -/
def ReportsFailures (options : RunCanaryOptions) (summary : CanaryRunSummary) : Prop :=
  ∀ model ∈ options.registry.models, model.compatibility.state ≠ .BROKEN →
    ∀ gates, pathGates options model = .ok gates →
      RequiredResult gates (requiredGatesFor model) .failed → summary.ok = false

/-- An entry of the summary is the one of a row. -/
def IsPathResult (options : RunCanaryOptions) (model : ModelEvidence) (entry : CanaryEvidence) :
    Prop :=
  ∃ gates, pathGates options model = .ok gates ∧ entry.testedGates = gates ∧
    entry.verdict = (classifyVerdict gates (requiredGatesFor model) true).1

/-! ## The rows of a run -/

section Runs

variable {options : RunCanaryOptions}

/-- Recording the gates leaves the results as they are. -/
theorem recordGates_results {claimIdentity : CompatibilityClaimIdentity} {state state' : CanaryState}
    {gates : List CanaryGateResult} (h : recordGates options claimIdentity state gates = .ok state') :
    state'.results = state.results := by
  induction gates generalizing state with
  | nil =>
      cases h
      rfl
  | cons gate gates ih =>
      obtain ⟨middle, hgate, hgates⟩ := Except.bind_eq_ok.1 h
      obtain ⟨key, -, hgate⟩ := Except.bind_eq_ok.1 hgate
      obtain ⟨existing, -, hgate⟩ := Except.bind_eq_ok.1 hgate
      cases hgate
      have hrest := ih hgates
      exact hrest

/-- The results are those of the rows that are not broken, in their order. -/
theorem runPaths_results {models : List ModelEvidence} {state state' : CanaryState}
    (h : runPaths options state models = .ok state') : ∃ entries,
      state'.results = state.results ++ entries ∧
      List.Forall₂ (IsPathResult options)
        (models.filter fun model => model.compatibility.state ≠ .BROKEN) entries := by
  induction models generalizing state with
  | nil =>
      cases h
      exact ⟨[], (List.append_nil _).symm, .nil⟩
  | cons model models ih =>
      rw [runPaths] at h
      by_cases hbroken : model.compatibility.state = .BROKEN
      · rw [if_pos hbroken] at h
        rw [List.filter_cons_of_neg (by simpa using hbroken)]
        exact ih h
      · rw [if_neg hbroken] at h
        obtain ⟨gates, hgates, h⟩ := Except.bind_eq_ok.1 h
        obtain ⟨recorded, hrecorded, h⟩ := Except.bind_eq_ok.1 h
        obtain ⟨entries, hentries, hpaths⟩ := ih h
        rw [List.filter_cons_of_pos (by simpa using hbroken)]
        rw [recordGates_results hrecorded, List.append_assoc, List.singleton_append] at hentries
        exact ⟨_, hentries, .cons ⟨gates, Except.mapError_eq_ok.1 hgates, rfl, rfl⟩ hpaths⟩

/-- A run lists the paths, and is ok where none is broken. -/
theorem runCanary_results {summary : CanaryRunSummary} (h : runCanary options = .ok summary) :
    List.Forall₂ (IsPathResult options)
      (options.registry.models.filter fun model => model.compatibility.state ≠ .BROKEN)
      summary.results ∧
    (summary.ok = true ↔ ∀ entry ∈ summary.results, entry.verdict ≠ .state .BROKEN) := by
  obtain ⟨state, hstate, h⟩ := Except.bind_eq_ok.1 h
  obtain ⟨entries, hentries, hpaths⟩ := runPaths_results hstate
  cases h
  rw [List.nil_append] at hentries
  refine ⟨?_, ?_⟩
  · rw [hentries]
    exact hpaths
  · simp only [List.all_eq_true, decide_eq_true_eq]

/-- Where no key of a claim is refused, the gates are recorded. -/
theorem exists_recordGates {claimIdentity : CompatibilityClaimIdentity}
    (hkeys : ∀ feature, ∃ key, claimKeyFor claimIdentity feature = .ok key)
    (gates : List CanaryGateResult) (state : CanaryState) :
    ∃ state', recordGates options claimIdentity state gates = .ok state' := by
  induction gates generalizing state with
  | nil => exact ⟨state, rfl⟩
  | cons gate gates ih =>
      obtain ⟨key, hkey⟩ := hkeys gate.gate
      have hempty : emptyClaimDocument claimIdentity gate.gate =
          .ok ⟨key, claimIdentity, gate.gate, []⟩ := Except.bind_eq_ok.2 ⟨key, hkey, rfl⟩
      have hexisting : ∃ existing,
          existingClaim state.claimsByKey key claimIdentity gate.gate = .ok existing := by
        unfold existingClaim
        cases state.claimsByKey.get? key with
        | some existing => exact ⟨existing, rfl⟩
        | none => exact ⟨_, Except.mapError_eq_ok.2 hempty⟩
      obtain ⟨existing, hexisting⟩ := hexisting
      have hgate : ∃ middle, recordGate options claimIdentity state gate = .ok middle :=
        ⟨_, Except.bind_eq_ok.2 ⟨key, Except.mapError_eq_ok.2 hkey,
          Except.bind_eq_ok.2 ⟨existing, hexisting, rfl⟩⟩⟩
      obtain ⟨middle, hgate⟩ := hgate
      obtain ⟨state', hstate'⟩ := ih middle
      exact ⟨state', Except.bind_eq_ok.2 ⟨middle, hgate, hstate'⟩⟩

/-- The gates of a path are always found on the synthetic shapes. -/
theorem exists_pathGates (options : RunCanaryOptions) (model : ModelEvidence) :
    ∃ gates, pathGates options model = .ok gates := by
  unfold pathGates
  cases options.client with
  | claudeCode => exact ⟨_, runGateMatrix_claudeCode _ _⟩
  | codexCli =>
      obtain ⟨rest, hgates, -⟩ := runGateMatrix_codexCli options.decoder model
      exact ⟨_, hgates⟩

/-- Where no key of a claim is refused, the run ends. -/
theorem exists_runCanary (hkeys : ∀ model ∈ options.registry.models, ∀ feature,
    ∃ key, claimKeyFor (pathIdentity options model) feature = .ok key) :
    ∃ summary, runCanary options = .ok summary := by
  have hpaths : ∀ (models : List ModelEvidence) (state : CanaryState),
      (∀ model ∈ models, ∀ feature, ∃ key, claimKeyFor (pathIdentity options model) feature = .ok key) →
        ∃ state', runPaths options state models = .ok state' := by
    intro models
    induction models with
    | nil => exact fun state _ => ⟨state, rfl⟩
    | cons model models ih =>
        intro state hkeys
        obtain ⟨hmodel, hmodels⟩ := List.forall_mem_cons.1 hkeys
        rw [runPaths]
        by_cases hbroken : model.compatibility.state = .BROKEN
        · rw [if_pos hbroken]
          exact ih state hmodels
        · rw [if_neg hbroken]
          obtain ⟨gates, hgates⟩ := exists_pathGates options model
          obtain ⟨recorded, hrecorded⟩ := exists_recordGates hmodel gates state
          obtain ⟨state', hstate'⟩ := ih _ hmodels
          exact ⟨state', Except.bind_eq_ok.2 ⟨gates, Except.mapError_eq_ok.2 hgates,
            Except.bind_eq_ok.2 ⟨recorded, hrecorded, hstate'⟩⟩⟩
  obtain ⟨state, hstate⟩ := hpaths _ _ hkeys
  exact ⟨_, Except.bind_eq_ok.2 ⟨state, hstate, rfl⟩⟩

end Runs

/-! ## The clients -/

section Clients

variable {options : RunCanaryOptions} {model : ModelEvidence} {gates : List CanaryGateResult}

/-- For Claude Code a required gate that failed makes the path broken: it is the first one. -/
theorem classifyVerdict_claudeCode (hclient : options.client = .claudeCode)
    (hgates : pathGates options model = .ok gates)
    (hfailed : RequiredResult gates (requiredGatesFor model) .failed) :
    (classifyVerdict gates (requiredGatesFor model) true).1 = .state .BROKEN := by
  rw [pathGates, hclient, runGateMatrix_claudeCode] at hgates
  obtain rfl := Except.ok.inj hgates
  cases hstreaming : model.capabilities.streaming with
  | false =>
      exact classifyResults_cons (name_mem_requiredGatesFor (by decide)) (by decide) _
  | true =>
      -- with streaming, no gate failed
      have hsupported : ∀ gate supported reason,
          (gateOfEvidence gate supported reason).status ≠ .failed := by
        intro gate supported reason
        cases supported <;> exact fun h => by cases h
      obtain ⟨result, hresult, -, hstatus⟩ := hfailed
      simp only [hstreaming, if_true, List.mem_cons, List.not_mem_nil, or_false] at hresult
      rcases hresult with rfl | rfl | rfl | rfl | rfl | rfl | rfl | rfl | rfl | rfl | rfl | rfl |
        rfl | rfl <;> first | exact absurd hstatus (hsupported _ _ _) | cases hstatus

/-- For the Codex CLI a required gate fails on every path, and the verdict is `unknown`. -/
theorem classifyVerdict_codexCli (hclient : options.client = .codexCli)
    (hgates : pathGates options model = .ok gates) :
    RequiredResult gates (requiredGatesFor model) .failed ∧
      (classifyVerdict gates (requiredGatesFor model) true).1 = .unknown := by
  obtain ⟨rest, hmatrix, hdiscovery⟩ := runGateMatrix_codexCli options.decoder model
  rw [pathGates, hclient, hmatrix] at hgates
  obtain rfl := Except.ok.inj hgates
  exact ⟨⟨_, List.mem_cons_of_mem _ hdiscovery, name_mem_requiredGatesFor (by decide), rfl⟩,
    classifyResults_cons (name_mem_requiredGatesFor (by decide)) (by decide) _⟩

/-- A run reports the failures of its paths where the client is Claude Code, or there is no path. -/
theorem reportsFailures_iff {summary : CanaryRunSummary} (h : runCanary options = .ok summary) :
    ReportsFailures options summary ↔ options.client = .claudeCode ∨
      ∀ model ∈ options.registry.models, model.compatibility.state = .BROKEN := by
  obtain ⟨hpaths, hok⟩ := runCanary_results h
  constructor
  · intro hreports
    cases hclient : options.client with
    | claudeCode => exact .inl rfl
    | codexCli =>
        refine .inr fun model hmodel => ?_
        by_contra hbroken
        obtain ⟨gates, hgates⟩ := exists_pathGates options model
        have hnotOk := hreports model hmodel hbroken gates hgates
          (classifyVerdict_codexCli hclient hgates).1
        have hisOk : summary.ok = true := hok.2 fun entry hentry => by
          obtain ⟨other, -, gates, hgates, -, hverdict⟩ := hpaths.exists_left hentry
          rw [hverdict, (classifyVerdict_codexCli hclient hgates).2]
          decide
        rw [hisOk] at hnotOk
        cases hnotOk
  · rintro (hclient | hbroken) model hmodel hstate gates hgates hfailed
    · have hlisted : model ∈ options.registry.models.filter
          fun model => model.compatibility.state ≠ .BROKEN :=
        List.mem_filter.2 ⟨hmodel, decide_eq_true hstate⟩
      obtain ⟨entry, hentry, gates', hgates', -, hverdict⟩ := hpaths.exists_right hlisted
      rw [hgates] at hgates'
      obtain rfl := Except.ok.inj hgates'
      rw [classifyVerdict_claudeCode hclient hgates hfailed] at hverdict
      by_contra hok'
      exact hok.1 (Bool.eq_true_of_not_eq_false hok') entry hentry hverdict
    · exact absurd (hbroken model hmodel) hstate

end Clients

/-! ## Verdicts and runs -/

/-- The verdict of a matrix follows the gates exactly where they decide it, and a run reports the
failures of its paths exactly where its client is Claude Code, or every row is known to be broken. -/
theorem canaryVerdict_iff (results : List CanaryGateResult) (requiredGates : List String)
    (options : RunCanaryOptions) (summary : CanaryRunSummary) (h : runCanary options = .ok summary) :
    (VerdictFollowsGates results requiredGates ↔ GatesDecide results requiredGates) ∧
      (ReportsFailures options summary ↔ options.client = .claudeCode ∨
        ∀ model ∈ options.registry.models, model.compatibility.state = .BROKEN) :=
  ⟨verdictFollowsGates_iff, reportsFailures_iff h⟩

/-- A run over one row of Codex. -/
def codexRun (client : ClientKind) : RunCanaryOptions where
  decoder := ⟨isoRuntime, "request-1", fun _ => []⟩
  registry := ⟨5, [gpt54Model]⟩
  client := client
  now := fun _ => "2026-08-22T00:00:00.000Z"
  environment := ⟨"linux", "v24.0.0"⟩

theorem exists_codexRun (client : ClientKind) : ∃ summary, runCanary (codexRun client) = .ok summary := by
  refine exists_runCanary fun model hmodel feature => ?_
  rw [List.mem_singleton.1 hmodel]
  cases client <;> cases feature <;> exact ⟨_, rfl⟩

/-- With Claude Code the run reports the failures of its paths. -/
theorem reportsFailures_codexRun : ∃ summary,
    runCanary (codexRun .claudeCode) = .ok summary ∧
      ReportsFailures (codexRun .claudeCode) summary := by
  obtain ⟨summary, h⟩ := exists_codexRun .claudeCode
  exact ⟨summary, h, (canaryVerdict_iff [] [] _ _ h).2.2 (.inl rfl)⟩

/-- A required gate that was not run hides one that failed, and a required gate without a result does
not count; and with the Codex CLI the run is ok while model discovery fails. -/
theorem not_canaryVerdict :
    (¬ ∀ (results : List CanaryGateResult) (requiredGates : List String),
      VerdictFollowsGates results requiredGates) ∧
    ¬ ∀ (options : RunCanaryOptions) (summary : CanaryRunSummary),
      runCanary options = .ok summary → ReportsFailures options summary := by
  constructor
  · intro h
    have hdecide := (h [] ["text"]).gatesDecide
    rcases hdecide.2 ⟨"text", List.mem_singleton_self _, by simp⟩ with
      ⟨result, hresult, -⟩ | ⟨result, hresult, -⟩ <;> cases hresult
  · intro h
    obtain ⟨summary, hrun⟩ := exists_codexRun .codexCli
    rcases (reportsFailures_iff hrun).1 (h _ _ hrun) with hclient | hbroken
    · cases hclient
    · exact absurd (hbroken gpt54Model List.mem_cons_self) (by decide)

end RlyGateway
