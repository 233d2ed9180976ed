import RlyGateway.Library.Schema
import RlyGateway.Profiles.ProjectedRoute

/-!
# Profile activation

`src/profiles/activate.ts`, `schema.ts` and `helper-map.ts`: a named profile is validated for launch,
and a requested model is mapped to one of its roles. No account is bound here.
-/

namespace RlyGateway

/-! ## Policies of a profile -/

structure CapabilityPolicy where
  streaming : Option Bool
  tools : Option Bool
  parallelTools : Option Bool
  images : Option Bool
  reasoning : Option Bool
  redactedReasoning : Option Bool
  structuredOutput : Option Bool
  tokenCounting : Option TokenCountingQuality

structure LaunchPolicy where
  executable : Option String
  env : Option (List (String × String))
  model : Option String

/-- The quality of a name. -/
def tokenCountingOf : Json → Option TokenCountingQuality
  | .str "upstream" => some .upstream
  | .str "exact-local" => some .exactLocal
  | .str "conservative-estimate" => some .conservativeEstimate
  | .str "unsupported" => some .unsupported
  | _ => none

/-- An object all of whose keys are known. -/
def strictObject (keys : List String) (value : Json) : Option Json :=
  match value with
  | .obj fields => if fields.all fun field => field.1 ∈ keys then some value else none
  | _ => none

/-- The policy of a value, unless the schema rejects it. -/
def parseCapabilityPolicy (value : Option Json) : Option CapabilityPolicy :=
  match value with
  | none | some .null => some ⟨none, none, none, none, none, none, none, none⟩
  | some value => do
      let value ← strictObject ["streaming", "tools", "parallelTools", "images", "reasoning",
        "redactedReasoning", "structuredOutput", "tokenCounting"] value
      return ⟨← value.optional "streaming" Json.bool?, ← value.optional "tools" Json.bool?,
        ← value.optional "parallelTools" Json.bool?, ← value.optional "images" Json.bool?,
        ← value.optional "reasoning" Json.bool?, ← value.optional "redactedReasoning" Json.bool?,
        ← value.optional "structuredOutput" Json.bool?,
        ← value.optional "tokenCounting" tokenCountingOf⟩

/-- An object whose values are strings. -/
def stringRecord (value : Json) : Option (List (String × String)) :=
  value.obj?.bind fun fields => fields.mapM fun field => field.2.str?.map fun text => (field.1, text)

def parseLaunchPolicy (value : Option Json) : Option LaunchPolicy :=
  match value with
  | none | some .null => some ⟨none, none, none⟩
  | some value => do
      let value ← strictObject ["executable", "env", "model"] value
      return ⟨← value.optional "executable" Json.nonEmptyString,
        ← value.optional "env" stringRecord, ← value.optional "model" Json.nonEmptyString⟩

def applyCapabilityPolicy (base : ProviderCapabilities) (policy : CapabilityPolicy) :
    ProviderCapabilities where
  streaming := policy.streaming.getD base.streaming
  tools := policy.tools.getD base.tools
  parallelTools := policy.parallelTools.getD base.parallelTools
  images := policy.images.getD base.images
  reasoning := policy.reasoning.getD base.reasoning
  redactedReasoning := policy.redactedReasoning.getD base.redactedReasoning
  structuredOutput := policy.structuredOutput.getD base.structuredOutput
  tokenCounting := policy.tokenCounting.getD base.tokenCounting

/-! ## Failures -/

/-- What ends the resolution of a profile route. -/
inductive ProfileRouteError where
  | activation (code : ProfileActivationCode) (message : String) (modelFailure tierFailure
      tierCause intentFailure : Option String)
  | adapter (thrown : Thrown)
  | unsupportedRoute (missing : List CapabilityRequirement)
  | stores (message : String)

/-- A failure with the message that all of them have by default. -/
def ProfileRouteError.ofCode (code : ProfileActivationCode) : ProfileRouteError :=
  .activation code "Profile cannot be activated" none none none none

/-! ## Roles -/

/-- A profile, as routing reads it. -/
structure ProfileRecord where
  id : String
  name : String
  harness : String
  poolId : Option String
  modelRoles : OrderedMap String String
  capabilityPolicy : Option Json
  launchPolicy : Option Json

def MODEL_ROLE_NAMES : List String := ["primary", "fast", "reasoning"]

/-- The role that a helper model of the client stands for. -/
def helperRoleFor (runtime : NodeRuntime) (requestedModel : String) : Option String :=
  let name := runtime.toLowerCase requestedModel
  if name = "claude-haiku-4-5" then some "fast"
  else if name = "claude-sonnet-5" ∨ name = "claude-opus-4-8" then some "primary"
  else none

/-- The role of a requested model: by its own name, by its model, or by the helper it is. -/
def resolveProfileRole (runtime : NodeRuntime) (requestedModel : String)
    (modelRoles : OrderedMap String String) : Option (String × String) :=
  let named :=
    if requestedModel ∈ MODEL_ROLE_NAMES then
      ((modelRoles.get? requestedModel).filter (· ≠ "")).map fun modelId =>
        (requestedModel, modelId)
    else none
  let exact := modelRoles.entries.find? fun entry => entry.2 = requestedModel
  let helper := (helperRoleFor runtime requestedModel).bind fun role =>
    (modelRoles.get? role).map fun modelId => (role, modelId)
  (named.or exact).or helper

/-! ## Activation -/

def findProfileByName (profiles : List ProfileRecord) (name : String) : Option ProfileRecord :=
  profiles.find? fun profile => profile.name = name

def findProfileById (profiles : List ProfileRecord) (id : String) : Option ProfileRecord :=
  profiles.find? fun profile => profile.id = id

/-- The name that the profile of an id has now. -/
def currentName (profiles : List ProfileRecord) (id fallback : String) : String :=
  ((findProfileById profiles id).map (·.name)).getD fallback

/-- A profile that can be launched. -/
structure LaunchableProfile where
  profile : ProfileRecord
  launchPolicy : LaunchPolicy
  poolId : String

/-- The checks of one profile. -/
def inspectProfile (profile : ProfileRecord) : Except ProfileRouteError LaunchableProfile :=
  if profile.harness ≠ "claude" then .error (.ofCode .profileNotClaude)
  else
    match profile.poolId, parseLaunchPolicy profile.launchPolicy with
    | none, _ => .error (.ofCode .profileHasNoPool)
    | some _, none => .error (.ofCode .invalidLaunchPolicy)
    | some poolId, some launchPolicy => .ok ⟨profile, launchPolicy, poolId⟩

/-- A profile is looked up by its name. -/
def inspectLaunchableProfile (profiles : List ProfileRecord) (name : String) :
    Except ProfileRouteError LaunchableProfile :=
  match findProfileByName profiles name with
  | none => .error (.ofCode .profileNotFound)
  | some profile => inspectProfile profile

/-- What a profile route is activated with. -/
structure ActivationInput where
  name : String
  profileId : String
  required : List CapabilityRequirement
  baseCapabilities : ProviderCapabilities
  /-- The role and the model that the intent was resolved to. -/
  resolved : String × String

structure ActivatedProfile where
  poolId : String
  role : String
  modelId : String
  capabilities : ProviderCapabilities
  launchPolicy : LaunchPolicy

/-- The capabilities that a launchable profile leaves, with what is required among them. -/
def activateLaunchable (launchable : LaunchableProfile) (input : ActivationInput) :
    Except ProfileRouteError ActivatedProfile :=
  match parseCapabilityPolicy launchable.profile.capabilityPolicy with
  | none => .error (.ofCode .invalidLaunchPolicy)
  | some policy =>
      let capabilities := applyCapabilityPolicy input.baseCapabilities policy
      if missingCapabilities capabilities input.required ≠ [] then
        .error (.ofCode .capabilityRejected)
      else .ok ⟨launchable.poolId, input.resolved.1, input.resolved.2, capabilities,
        launchable.launchPolicy⟩

def activateProfile (profiles : List ProfileRecord) (input : ActivationInput) :
    Except ProfileRouteError ActivatedProfile := do
  let launchable ← inspectLaunchableProfile profiles
    (currentName profiles input.profileId input.name)
  if launchable.profile.id ≠ input.profileId then .error (.ofCode .profileNotFound)
  else activateLaunchable launchable input

/-- A launchable profile is the one that was inspected. -/
theorem profile_of_inspectProfile {profile : ProfileRecord} {launchable : LaunchableProfile}
    (h : inspectProfile profile = .ok launchable) :
    launchable.profile = profile ∧ profile.poolId = some launchable.poolId := by
  unfold inspectProfile at h
  split at h
  · cases h
  · split at h
    · cases h
    · cases h
    · rename_i poolId launchPolicy hpool hlaunch
      cases h
      exact ⟨rfl, hpool⟩

end RlyGateway
