import RlyGateway.Canary.Claim
import RlyGateway.Library.Keyed
import RlyGateway.Registry.ModelRegistry

/-!
# Canary classification

`src/canary/classify.ts` and the required gates of `src/canary/types.ts`. The classification returns at
the first required result that did not pass, and does not ask whether every required gate has one.
-/

namespace RlyGateway

/-! ## Gates -/

/-- The result of one gate. Gates are features of claims. -/
structure CanaryGateResult where
  gate : ClaimFeature
  status : EvidenceResult
  reason : Option String
deriving DecidableEq, Repr

/-- `REQUIRED_VERIFIED_GATES`. -/
def requiredVerifiedGates : List ClaimFeature :=
  [.text, .streaming, .cancellation, .toolsSingle, .reasoning, .modelDiscovery,
    .sessionAttribution, .effortSignal, .longRunningSession]

/-- Which gates the evidence of an access path makes mandatory. -/
def gatesRequiredForEvidence (capabilities : ProviderCapabilities)
    (reasoning : ReasoningCapabilityEvidence) : List ClaimFeature :=
  let gates := OrderedSet.ofList requiredVerifiedGates
  let gates := if capabilities.tools then gates.add .toolsMulti else gates
  let gates := if capabilities.parallelTools then gates.add .toolsParallel else gates
  let gates := if reasoning.reasoningWithTools then gates.add .reasoningTools else gates
  let gates := if capabilities.reasoning then gates.add .reasoning else gates
  gates.elems

def requiredGatesFor (evidence : ModelEvidence) : List String :=
  (gatesRequiredForEvidence evidence.capabilities evidence.reasoning).map ClaimFeature.name

theorem name_mem_requiredGatesFor {evidence : ModelEvidence} {gate : ClaimFeature}
    (h : gate ∈ requiredVerifiedGates) : gate.name ∈ requiredGatesFor evidence := by
  refine List.mem_map_of_mem ?_
  have hbase : gate ∈ OrderedSet.ofList requiredVerifiedGates := OrderedSet.mem_ofList.2 h
  have hadd : ∀ (condition : Bool) (other : ClaimFeature) (gates : OrderedSet ClaimFeature),
      gate ∈ gates → gate ∈ (if condition = true then gates.add other else gates) := by
    intro condition other gates hgates
    cases condition with
    | false => exact hgates
    | true => exact OrderedSet.mem_add.2 (.inr hgates)
  exact hadd _ _ _ (hadd _ _ _ (hadd _ _ _ (hadd _ _ _ hbase)))

/-! ## Verdicts -/

/-- `CompatibilityState | "unknown"`. -/
inductive CanaryVerdict where
  | state (state : CompatibilityState)
  | unknown
deriving DecidableEq, Repr

/-- The loop over the results. -/
def classifyResults (requiredGates : List String) :
    List CanaryGateResult → CanaryVerdict × Option String
  | [] => (.state .EXPERIMENTAL, some "production-claim-not-established")
  | result :: results =>
      if result.gate.name ∈ requiredGates then
        match result.status with
        | .failed => (.state .BROKEN, some (result.reason.getD "required-gate-failed"))
        | .notRun => (.unknown, some (result.gate.name ++ "-not-run"))
        | .passed => classifyResults requiredGates results
      else classifyResults requiredGates results

def classifyVerdict (results : List CanaryGateResult) (requiredGates : List String)
    (fakeMatrixRan : Bool) : CanaryVerdict × Option String :=
  if fakeMatrixRan then classifyResults requiredGates results
  else (.unknown, some "fake-matrix-not-run")

/-! ## Specification -/

section Specification

variable (results : List CanaryGateResult) (requiredGates : List String)

/-- A required gate has a result of this status. -/
def RequiredResult (status : EvidenceResult) : Prop :=
  ∃ result ∈ results, result.gate.name ∈ requiredGates ∧ result.status = status

/-- A required gate has no result. -/
def RequiredMissing : Prop :=
  ∃ gate ∈ requiredGates, ∀ result ∈ results, result.gate.name ≠ gate

/-- The verdict after a matrix run has its documented meaning, in any order of the results. -/
structure VerdictFollowsGates : Prop where
  broken : (classifyVerdict results requiredGates true).1 = .state .BROKEN ↔
    RequiredResult results requiredGates .failed
  unknown : (classifyVerdict results requiredGates true).1 = .unknown ↔
    ¬ RequiredResult results requiredGates .failed ∧
      (RequiredResult results requiredGates .notRun ∨ RequiredMissing results requiredGates)
  experimental : (classifyVerdict results requiredGates true).1 = .state .EXPERIMENTAL ↔
    ∀ gate ∈ requiredGates, (∃ result ∈ results, result.gate.name = gate) ∧
      ∀ result ∈ results, result.gate.name = gate → result.status = .passed
  order : ∀ others, results.Perm others →
    (classifyVerdict others requiredGates true).1 = (classifyVerdict results requiredGates true).1

/-- No required gate failed while one was not run, and where no required gate failed or was not run,
none is missing. -/
def GatesDecide : Prop :=
  ¬ (RequiredResult results requiredGates .failed ∧ RequiredResult results requiredGates .notRun) ∧
    (RequiredMissing results requiredGates →
      RequiredResult results requiredGates .failed ∨ RequiredResult results requiredGates .notRun)

end Specification

/-! ## The first required result that did not pass -/

section Classification

variable {results : List CanaryGateResult} {requiredGates : List String}

/-- The verdict that a result decides. -/
def statusVerdict : EvidenceResult → CanaryVerdict
  | .failed => .state .BROKEN
  | .notRun => .unknown
  | .passed => .state .EXPERIMENTAL

/-- Results that passed, or are not required, decide nothing. -/
theorem classifyResults_append {before : List CanaryGateResult}
    (hbefore : ∀ result ∈ before, ¬ (result.gate.name ∈ requiredGates ∧ result.status ≠ .passed))
    (after : List CanaryGateResult) :
    classifyResults requiredGates (before ++ after) = classifyResults requiredGates after := by
  induction before with
  | nil => rfl
  | cons result before ih =>
      obtain ⟨hresult, hbefore⟩ := List.forall_mem_cons.1 hbefore
      rw [List.cons_append, classifyResults]
      by_cases hrequired : result.gate.name ∈ requiredGates
      · have hpassed : result.status = .passed := not_not.1 fun hne => hresult ⟨hrequired, hne⟩
        rw [if_pos hrequired, hpassed]
        exact ih hbefore
      · rw [if_neg hrequired]
        exact ih hbefore

/-- A required result that did not pass decides the verdict. -/
theorem classifyResults_cons {result : CanaryGateResult} (hrequired : result.gate.name ∈ requiredGates)
    (hstatus : result.status ≠ .passed) (after : List CanaryGateResult) :
    (classifyResults requiredGates (result :: after)).1 = statusVerdict result.status := by
  rw [classifyResults, if_pos hrequired]
  cases hcase : result.status with
  | passed => exact absurd hcase hstatus
  | failed => rfl
  | notRun => rfl

/-- The first required result that did not pass decides the verdict; without one it is
`EXPERIMENTAL`. -/
theorem classifyResults_first (requiredGates : List String) (results : List CanaryGateResult) :
    ((∀ result ∈ results, result.gate.name ∈ requiredGates → result.status = .passed) ∧
      (classifyResults requiredGates results).1 = .state .EXPERIMENTAL) ∨
    ∃ before result after, results = before ++ result :: after ∧
      (∀ other ∈ before, other.gate.name ∈ requiredGates → other.status = .passed) ∧
      result.gate.name ∈ requiredGates ∧ result.status ≠ .passed ∧
      (classifyResults requiredGates results).1 = statusVerdict result.status := by
  have hpassed : ∀ {result : CanaryGateResult},
      ¬ (result.gate.name ∈ requiredGates ∧ result.status ≠ .passed) →
        result.gate.name ∈ requiredGates → result.status = .passed :=
    fun h hrequired => not_not.1 fun hne => h ⟨hrequired, hne⟩
  rcases List.exists_first (fun result : CanaryGateResult => result.gate.name ∈ requiredGates ∧
    result.status ≠ .passed) results with hnone | ⟨before, result, after, rfl, hbefore, hresult⟩
  · refine .inl ⟨fun result hresult => hpassed (hnone result hresult), ?_⟩
    have hall := classifyResults_append hnone []
    rw [List.append_nil] at hall
    rw [hall]
    rfl
  · refine .inr ⟨before, result, after, rfl, fun other hother => hpassed (hbefore other hother),
      hresult.1, hresult.2, ?_⟩
    rw [classifyResults_append hbefore]
    exact classifyResults_cons hresult.1 hresult.2 after

theorem RequiredResult.perm {others : List CanaryGateResult} {status : EvidenceResult}
    (h : RequiredResult results requiredGates status) (hperm : results.Perm others) :
    RequiredResult others requiredGates status := by
  obtain ⟨result, hresult, hrequired⟩ := h
  exact ⟨result, hperm.mem_iff.1 hresult, hrequired⟩

theorem GatesDecide.perm {others : List CanaryGateResult} (h : GatesDecide results requiredGates)
    (hperm : results.Perm others) : GatesDecide others requiredGates := by
  refine ⟨fun hboth => h.1 ⟨hboth.1.perm hperm.symm, hboth.2.perm hperm.symm⟩, fun hmissing => ?_⟩
  obtain ⟨gate, hgate, hnone⟩ := hmissing
  rcases h.2 ⟨gate, hgate, fun result hresult => hnone result (hperm.mem_iff.1 hresult)⟩ with
    hfailed | hnotRun
  · exact .inl (hfailed.perm hperm)
  · exact .inr (hnotRun.perm hperm)

/-- A result that stands first decides the verdict. -/
theorem RequiredResult.exists_perm {status : EvidenceResult}
    (h : RequiredResult results requiredGates status) (hstatus : status ≠ .passed) :
    ∃ others, results.Perm others ∧
      (classifyVerdict others requiredGates true).1 = statusVerdict status := by
  obtain ⟨result, hresult, hrequired, rfl⟩ := h
  obtain ⟨before, after, rfl⟩ := List.append_of_mem hresult
  exact ⟨result :: (before ++ after), List.perm_middle, classifyResults_cons hrequired hstatus _⟩

/-- Where the gates decide, the verdict is the one of the gates. -/
theorem GatesDecide.classifyVerdict_eq (h : GatesDecide results requiredGates) :
    (RequiredResult results requiredGates .failed ∧
      (classifyVerdict results requiredGates true).1 = .state .BROKEN) ∨
    (¬ RequiredResult results requiredGates .failed ∧
      RequiredResult results requiredGates .notRun ∧
      (classifyVerdict results requiredGates true).1 = .unknown) ∨
    (¬ RequiredResult results requiredGates .failed ∧
      ¬ RequiredResult results requiredGates .notRun ∧
      ¬ RequiredMissing results requiredGates ∧
      (classifyVerdict results requiredGates true).1 = .state .EXPERIMENTAL) := by
  show (_ ∧ (classifyResults requiredGates results).1 = _) ∨
    (_ ∧ _ ∧ (classifyResults requiredGates results).1 = _) ∨
    (_ ∧ _ ∧ _ ∧ (classifyResults requiredGates results).1 = _)
  rcases classifyResults_first requiredGates results with ⟨hall, hverdict⟩ |
    ⟨before, result, after, hresults, -, hrequired, hstatus, hverdict⟩
  · have hnone : ∀ status, status ≠ .passed → ¬ RequiredResult results requiredGates status := by
      rintro status hstatus ⟨result, hresult, hrequired, rfl⟩
      exact hstatus (hall result hresult hrequired)
    have hfailed := hnone .failed (by decide)
    have hnotRun := hnone .notRun (by decide)
    refine .inr (.inr ⟨hfailed, hnotRun, fun hmissing => ?_, hverdict⟩)
    exact (h.2 hmissing).elim hfailed hnotRun
  · have hfound : RequiredResult results requiredGates result.status := by
      refine ⟨result, ?_, hrequired, rfl⟩
      rw [hresults]
      exact List.mem_append_right _ List.mem_cons_self
    cases hcase : result.status with
    | passed => exact absurd hcase hstatus
    | failed =>
        rw [hcase] at hfound hverdict
        exact .inl ⟨hfound, hverdict⟩
    | notRun =>
        rw [hcase] at hfound hverdict
        exact .inr (.inl ⟨fun hfailed => h.1 ⟨hfailed, hfound⟩, hfound, hverdict⟩)

/-- Every required gate has results, all of them passed, where none failed, was not run or is
missing. -/
theorem forall_passed_iff :
    (∀ gate ∈ requiredGates, (∃ result ∈ results, result.gate.name = gate) ∧
      ∀ result ∈ results, result.gate.name = gate → result.status = .passed) ↔
      ¬ RequiredResult results requiredGates .failed ∧
        ¬ RequiredResult results requiredGates .notRun ∧
        ¬ RequiredMissing results requiredGates := by
  constructor
  · intro hall
    have hnone : ∀ status, status ≠ .passed → ¬ RequiredResult results requiredGates status := by
      rintro status hstatus ⟨result, hresult, hrequired, rfl⟩
      exact hstatus ((hall _ hrequired).2 result hresult rfl)
    refine ⟨hnone .failed (by decide), hnone .notRun (by decide), ?_⟩
    rintro ⟨gate, hgate, hmissing⟩
    obtain ⟨result, hresult, hname⟩ := (hall gate hgate).1
    exact hmissing result hresult hname
  · rintro ⟨hfailed, hnotRun, hmissing⟩ gate hgate
    refine ⟨?_, fun result hresult hname => ?_⟩
    · by_contra hnone
      exact hmissing ⟨gate, hgate, fun result hresult hname => hnone ⟨result, hresult, hname⟩⟩
    · have hrequired : result.gate.name ∈ requiredGates := by
        rw [hname]
        exact hgate
      cases hcase : result.status with
      | passed => rfl
      | failed => exact absurd ⟨result, hresult, hrequired, hcase⟩ hfailed
      | notRun => exact absurd ⟨result, hresult, hrequired, hcase⟩ hnotRun

/-- The verdict is the same in any order where the gates decide it. -/
theorem GatesDecide.classifyVerdict_perm (h : GatesDecide results requiredGates)
    {others : List CanaryGateResult} (hperm : results.Perm others) :
    (classifyVerdict others requiredGates true).1 =
      (classifyVerdict results requiredGates true).1 := by
  have hback : ∀ {status}, RequiredResult others requiredGates status →
      RequiredResult results requiredGates status := fun hothers => hothers.perm hperm.symm
  rcases h.classifyVerdict_eq with ⟨hfailed, hv⟩ | ⟨hfailed, hnotRun, hv⟩ | ⟨hfailed, hnotRun, -, hv⟩
  · rcases (h.perm hperm).classifyVerdict_eq with ⟨-, hv'⟩ | ⟨hfailed', -⟩ | ⟨hfailed', -⟩
    · rw [hv, hv']
    · exact absurd (hfailed.perm hperm) hfailed'
    · exact absurd (hfailed.perm hperm) hfailed'
  · rcases (h.perm hperm).classifyVerdict_eq with ⟨hfailed', -⟩ | ⟨-, -, hv'⟩ | ⟨-, hnotRun', -⟩
    · exact absurd (hback hfailed') hfailed
    · rw [hv, hv']
    · exact absurd (hnotRun.perm hperm) hnotRun'
  · rcases (h.perm hperm).classifyVerdict_eq with ⟨hfailed', -⟩ | ⟨-, hnotRun', -⟩ | ⟨-, -, -, hv'⟩
    · exact absurd (hback hfailed') hfailed
    · exact absurd (hback hnotRun') hnotRun
    · rw [hv, hv']

theorem GatesDecide.verdictFollowsGates (h : GatesDecide results requiredGates) :
    VerdictFollowsGates results requiredGates := by
  refine ⟨?_, ?_, ?_, fun others => h.classifyVerdict_perm⟩
  · rcases h.classifyVerdict_eq with ⟨hfailed, hv⟩ | ⟨hfailed, -, hv⟩ | ⟨hfailed, -, -, hv⟩ <;>
      simp [hv, hfailed]
  · rcases h.classifyVerdict_eq with ⟨hfailed, hv⟩ | ⟨hfailed, hnotRun, hv⟩ |
      ⟨hfailed, hnotRun, hmissing, hv⟩
    · simp [hv, hfailed]
    · simp [hv, hfailed, hnotRun]
    · simp [hv, hnotRun, hmissing]
  · rw [forall_passed_iff]
    rcases h.classifyVerdict_eq with ⟨hfailed, hv⟩ | ⟨hfailed, hnotRun, hv⟩ |
      ⟨hfailed, hnotRun, hmissing, hv⟩
    · simp [hv, hfailed]
    · simp [hv, hnotRun]
    · simp [hv, hfailed, hnotRun, hmissing]

theorem VerdictFollowsGates.gatesDecide (h : VerdictFollowsGates results requiredGates) :
    GatesDecide results requiredGates := by
  refine ⟨fun hboth => ?_, fun hmissing => ?_⟩
  · -- either result may stand first, and then the verdicts differ
    obtain ⟨others, hperm, hbroken⟩ := hboth.1.exists_perm (by decide)
    obtain ⟨others', hperm', hunknown⟩ := hboth.2.exists_perm (by decide)
    have hsame := (h.order others hperm).trans (h.order others' hperm').symm
    rw [hbroken, hunknown] at hsame
    cases hsame
  · by_contra hneither
    have hunknown : (classifyResults requiredGates results).1 = .unknown :=
      h.unknown.2 ⟨fun hfailed => hneither (.inl hfailed), .inr hmissing⟩
    rcases classifyResults_first requiredGates results with ⟨-, hverdict⟩ |
      ⟨before, result, after, hresults, -, hrequired, hstatus, -⟩
    · rw [hunknown] at hverdict
      cases hverdict
    · have hmem : result ∈ results := by
        rw [hresults]
        exact List.mem_append_right _ List.mem_cons_self
      cases hcase : result.status with
      | passed => exact hstatus hcase
      | failed => exact hneither (.inl ⟨result, hmem, hrequired, hcase⟩)
      | notRun => exact hneither (.inr ⟨result, hmem, hrequired, hcase⟩)

/-- The verdict follows the gates exactly where they decide it. -/
theorem verdictFollowsGates_iff :
    VerdictFollowsGates results requiredGates ↔ GatesDecide results requiredGates :=
  ⟨VerdictFollowsGates.gatesDecide, GatesDecide.verdictFollowsGates⟩

end Classification

end RlyGateway
