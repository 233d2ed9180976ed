import RlyGateway.Library.Runs
import RlyGateway.ServiceManager.Adapters

/-!
# Registration of the service

`src/service-manager/reconcile.ts` over either adapter, and what follows for the definition that the
manager has loaded after any number of calls.
-/

namespace RlyGateway

/-! ## Reconciliation -/

inductive DefinitionReconciliationState where
  | ok
  | missing
  | stale
  | repaired
  | failed
deriving DecidableEq, Repr

structure DefinitionReconciliation where
  status : DefinitionReconciliationState
  definitionPath : String
  /-- The hash of the definition on disk. -/
  revision : Option String
  expectedRevision : String
  changed : Bool
  /-- A legacy definition was found. -/
  migrated : Bool
  message : Option String
deriving DecidableEq, Repr

/-- Where a definition starts with a path to a Node binary, or one follows a slash. -/
def runsNode : List Char → Bool
  | [] => false
  | c :: rest =>
      let ends : List Char → Bool
        | [] => true
        | c :: _ => isTrimmed c || c == '"' || c == '<'
      (c == '/' && "node".toList.isPrefixOf rest &&
        (ends (rest.drop 4) || (".exe".toList.isPrefixOf (rest.drop 4) && ends (rest.drop 8)))) ||
      runsNode rest

/-- A definition that still encodes a legacy execution identity. Either slash separates a path. -/
def isLegacyDefinition (content : String) : Bool :=
  let path := content.toList.map fun c => if c = '\\' then '/' else c
  (["dist/cli/init.js", "dist/cli/main.js", "runtime/refs/"].any fun part => part.toList <:+: path) ||
    runsNode ('/' :: path)

/-- What a reconciliation uses of an adapter. -/
structure ServiceManagerAdapter where
  definitionPath : String
  renderDefinition : ServiceDefinitionInput → String
  register : ServiceEnvironment → ServiceDefinitionInput → ServiceM Unit
  unregister : ServiceEnvironment → ServiceM Unit

section Reconciliation

variable (hash : String → String) (manager : ServiceManagerAdapter) (env : ServiceEnvironment)

/-- `detectDefinition` of an adapter that renders its definitions. -/
def detectDefinition (call : ServiceFileCall) (expected : ServiceDefinitionInput) :
    ServiceM DefinitionReconciliation := do
  let expectedContent := manager.renderDefinition expected
  let answer (status : DefinitionReconciliationState) (current : Option String) (changed : Bool) :
      DefinitionReconciliation :=
    { status := status
      definitionPath := manager.definitionPath
      revision := (current.filter fun text => text ≠ "").map hash
      expectedRevision := hash expectedContent
      changed := changed
      migrated := changed && current.any isLegacyDefinition
      message := none }
  match ← readDefinition env call with
  | none => pure (answer .missing none true)
  | some current =>
      if current ≠ expectedContent then pure (answer .stale (some current) true)
      else pure (answer .ok (some current) false)

def reconcileDefinition (expected : ServiceDefinitionInput) : ServiceM DefinitionReconciliation := do
  let before ← detectDefinition hash manager env .detectBefore expected
  if before.status = .ok then pure before
  else do
    let error ← EStateM.rescue (manager.register env expected >>= fun _ => pure none)
      ServiceStop.message? fun message => pure (some message)
    match error with
    | some message =>
        pure { before with
          status := .failed
          changed := true
          migrated := false
          message := some message }
    | none => do
        let after ← detectDefinition hash manager env .detectAfter expected
        pure { after with status := .repaired, migrated := before.migrated || after.migrated }

end Reconciliation

/-! ## Calls of an adapter -/

/-- The systemd adapter. -/
def SystemdUserAdapter.manager (adapter : SystemdUserAdapter) (definitionPath : String) :
    ServiceManagerAdapter where
  definitionPath := definitionPath
  renderDefinition := adapter.renderDefinition
  register env input := SystemdUserAdapter.register env adapter input
  unregister env := SystemdUserAdapter.unregister env adapter

/-- The LaunchAgent adapter. -/
def LaunchAgentAdapter.manager (adapter : LaunchAgentAdapter) (definitionPath : String) :
    ServiceManagerAdapter where
  definitionPath := definitionPath
  renderDefinition := adapter.renderDefinition
  register env input := LaunchAgentAdapter.register env adapter input
  unregister env := LaunchAgentAdapter.unregister env adapter

inductive ServiceCall where
  | register (input : ServiceDefinitionInput)
  | reconcile (expected : ServiceDefinitionInput)
  | unregister
deriving DecidableEq, Repr

/-- A call, and what the calls come to that are made during it. -/
structure ServiceEvent where
  call : ServiceCall
  env : ServiceEnvironment

section Calls

variable (hash : String → String) (manager : ServiceManagerAdapter)

/-- What a call answers: the input whose definition it says is in place, if it says so of one. -/
def serve (event : ServiceEvent) : ServiceM (Option ServiceDefinitionInput) :=
  match event.call with
  | .register input => do
      manager.register event.env input
      pure (some input)
  | .reconcile expected => do
      let answer ← reconcileDefinition hash manager event.env expected
      pure (if answer.status = .ok ∨ answer.status = .repaired then some expected else none)
  | .unregister => do
      manager.unregister event.env
      pure none

/-- The state after a call, however it ended. -/
def serviceStep (state : ServiceState) (event : ServiceEvent) : Option ServiceState :=
  match serve hash manager event state with
  | .ok _ state => some state
  | .error _ state => some state

/-- Where a call says that the definition of an input is in place, the manager has it loaded. -/
def TakesEffect (state : ServiceState) (event : ServiceEvent) : Prop :=
  ∀ input state', serve hash manager event state = .ok (some input) state' →
    state'.loaded = some (manager.renderDefinition input)

end Calls

/-! ## When a definition is loaded -/

/-- What has to hold of the text that was found, the text that is to be there and the state before a
registration, for the text to be loaded when it returns. -/
abbrev LoadCondition := ServiceEnvironment → Option String → String → ServiceState → Prop

/-- systemd is only told of a text that was not there: one that was has to be loaded already. -/
def SystemdUserAdapter.Loads : LoadCondition := fun _ previous text s =>
  previous = some text → s.loaded = some text

/-- launchd loads a text where no job is, or where the old one has been told to go since another text
was found; a job that stays has to be the one of the text. -/
def LaunchAgentAdapter.Loads : LoadCondition := fun env previous text s =>
  let unloads := previous ≠ none ∧ previous ≠ some text ∧ env.DropsJob
  (s.loaded = some text ∧ ¬ unloads) ∨ ((s.loaded = none ∨ unloads) ∧ env.TakesJob)

/-- A registration that returns has the definition loaded exactly if the condition held. -/
def LoadsUnder (manager : ServiceManagerAdapter) (Loads : LoadCondition) : Prop :=
  ∀ env input s, EStateM.Meets (· = s) (manager.register env input)
    (fun _ t => t.loaded = some (manager.renderDefinition input) ↔
      Loads env (env.read .readPrevious s) (manager.renderDefinition input) s) fun _ _ => True

theorem SystemdUserAdapter.loadsUnder (adapter : SystemdUserAdapter) (definitionPath : String) :
    LoadsUnder (adapter.manager definitionPath) SystemdUserAdapter.Loads := by
  intro env input s
  refine (SystemdUserAdapter.register_meets adapter input s).mono (fun _ h => h) ?_
    fun _ _ _ => trivial
  rintro _ t (⟨hprevious, rfl⟩ | ⟨hprevious, rfl⟩)
  · exact ⟨fun h _ => h, fun h => h hprevious⟩
  · exact ⟨fun _ h => absurd h hprevious, fun _ => rfl⟩

theorem LaunchAgentAdapter.loadsUnder (adapter : LaunchAgentAdapter) (definitionPath : String) :
    LoadsUnder (adapter.manager definitionPath) LaunchAgentAdapter.Loads := by
  intro env input s
  refine (LaunchAgentAdapter.register_meets adapter input s).mono (fun _ h => h) ?_
    fun _ _ _ => trivial
  rintro _ t ⟨u, hu, ht⟩
  change t.loaded = some (adapter.renderDefinition input) ↔ LaunchAgentAdapter.Loads env
    (env.read .readPrevious s) (adapter.renderDefinition input) s
  unfold LaunchAgentAdapter.Loads
  generalize adapter.renderDefinition input = text at hu ⊢
  -- a job that is there is not loaded over
  have htaken : t.loaded = some text ↔
      u.loaded = some text ∨ (u.loaded = none ∧ u.file = some text ∧ env.TakesJob) := by
    rcases ht with ⟨htakes, rfl⟩ | ⟨htakes, rfl⟩
    · have htakes : env.TakesJob := htakes
      cases hloaded : u.loaded with
      | none => simp [ServiceCommand.effect, hloaded, htakes]
      | some old => simp [ServiceCommand.effect, hloaded]
    · have hno : ¬ env.TakesJob := htakes
      simp [hno]
  rw [htaken]
  unfold LaunchAgentAdapter.Rewritten at hu
  split at hu
  · rename_i hchanged
    rcases hu with ⟨hdrops, rfl⟩ | ⟨hdrops, rfl⟩
    · have hdrops : env.DropsJob := hdrops
      simp [hchanged, hdrops, ServiceCommand.effect]
    · have hdrops : ¬ env.DropsJob := hdrops
      simp [hdrops]
  · rename_i hsame
    subst hu
    have hno : ¬ (env.read .readPrevious s ≠ none ∧ env.read .readPrevious s ≠ some text ∧
        env.DropsJob) := fun h => hsame ⟨h.1, h.2.1⟩
    simp [hno]

/-! ## Calls that take effect -/

section Effect

open EStateM

variable (hash : String → String) {manager : ServiceManagerAdapter} {Loads : LoadCondition}

/-- A call that finds the definition in the file finds it loaded; one that registers it does so under
the condition of the adapter. -/
def Careful (manager : ServiceManagerAdapter) (Loads : LoadCondition) (s : ServiceState) :
    ServiceEvent → Prop
  | ⟨.register input, env⟩ =>
      Loads env (env.read .readPrevious s) (manager.renderDefinition input) s
  | ⟨.reconcile expected, env⟩ =>
      if env.read .detectBefore s = some (manager.renderDefinition expected) then
        s.loaded = some (manager.renderDefinition expected)
      else Loads env (env.read .readPrevious s) (manager.renderDefinition expected) s
  | ⟨.unregister, _⟩ => True

theorem detectDefinition_meets {env : ServiceEnvironment} {call : ServiceFileCall}
    {expected : ServiceDefinitionInput} {s : ServiceState}
    {stopped : ServiceStop → ServiceState → Prop} (hstopped : ∀ e, stopped e s) :
    Meets (· = s) (detectDefinition hash manager env call expected)
      (fun answer t => (answer.status = .ok ↔
        env.read call s = some (manager.renderDefinition expected)) ∧ t = s) stopped := by
  refine (ServiceState.meets_readDefinition hstopped).bind fun text => meets_of_pre fun htext => ?_
  rw [← htext]
  cases text with
  | none => exact meets_pure fun t ht => ⟨by simp, ht⟩
  | some current =>
      refine Meets.ite (fun hstale => meets_pure fun t ht => ⟨?_, ht⟩)
        fun hsame => meets_pure fun t ht => ⟨?_, ht⟩
      · simpa using hstale
      · simpa using hsame

/-- A reconciliation answers `ok` of what it found, and `repaired` of what it has registered. -/
theorem reconcileDefinition_meets (hloads : LoadsUnder manager Loads) {env : ServiceEnvironment}
    {expected : ServiceDefinitionInput} {s : ServiceState} :
    Meets (· = s) (reconcileDefinition hash manager env expected)
      (fun answer t => answer.status = .ok ∨ answer.status = .repaired →
        (t.loaded = some (manager.renderDefinition expected) ↔
          Careful manager Loads s ⟨.reconcile expected, env⟩)) fun _ _ => True := by
  refine (detectDefinition_meets hash fun _ => trivial).bind fun before => meets_of_pre fun hbefore =>
    Meets.ite (fun hok => ?_) fun hnot => ?_
  · refine meets_pure ?_
    rintro t rfl _
    rw [Careful, if_pos (hbefore.1 hok)]
  · have hcareful : Careful manager Loads s ⟨.reconcile expected, env⟩ ↔
        Loads env (env.read .readPrevious s) (manager.renderDefinition expected) s := by
      rw [Careful, if_neg fun h => hnot (hbefore.2 h)]
    have hregister : Meets (· = s)
        (EStateM.rescue (manager.register env expected >>= fun _ => pure none)
          ServiceStop.message? fun message => pure (some message))
        (fun error t => error = none → (t.loaded = some (manager.renderDefinition expected) ↔
          Careful manager Loads s ⟨.reconcile expected, env⟩)) fun _ _ => True := by
      rw [hcareful]
      refine ((hloads env expected s).bind fun _ => meets_pure fun t ht _ => ht).rescue
        (fun e message _ => meets_pure fun t _ h => ?_) fun _ _ _ _ => trivial
      cases h
    refine hregister.bind fun error => ?_
    cases error with
    | some message =>
        refine meets_pure fun t _ h => ?_
        rcases h with h | h <;> cases h
    | none =>
        intro t ht
        refine ((detectDefinition_meets hash fun _ => trivial).bind fun after => meets_pure ?_) t rfl
        rintro u ⟨-, rfl⟩ _
        exact ht rfl

/-- What registrations keep of a state, a reconciliation keeps. -/
theorem reconcileDefinition_keeps {env : ServiceEnvironment} {expected : ServiceDefinitionInput}
    {s : ServiceState} {post : ServiceState → Prop} (hs : post s)
    (hregister : Meets (· = s) (manager.register env expected) (fun _ => post) fun _ => post) :
    Meets (· = s) (reconcileDefinition hash manager env expected) (fun _ => post)
      fun _ => post := by
  refine (detectDefinition_meets hash fun _ => hs).bind fun before => meets_of_pre fun _ =>
    Meets.ite (fun _ => meets_pure fun t ht => ht ▸ hs) fun _ => ?_
  have hcaught : Meets (· = s)
      (EStateM.rescue (manager.register env expected >>= fun _ => pure none)
        ServiceStop.message? fun message => pure (some message))
      (fun _ => post) fun _ => post :=
    (hregister.bind fun _ => meets_pure fun _ ht => ht).rescue
      (fun _ _ _ => meets_pure fun _ ht => ht) fun _ _ _ ht => ht
  refine hcaught.bind fun error => ?_
  cases error with
  | some message => exact meets_pure fun _ ht => ht
  | none =>
      intro t ht
      refine ((detectDefinition_meets hash fun _ => ht).bind fun after => meets_pure ?_) t rfl
      rintro u ⟨-, rfl⟩
      exact ht

/-- The input that a call registers. -/
def ServiceCall.input? : ServiceCall → Option ServiceDefinitionInput
  | .register input => some input
  | .reconcile expected => some expected
  | .unregister => none

/-- What is kept by registrations and by removals is kept by every call. -/
theorem serviceStep_keeps {s s' : ServiceState} {event : ServiceEvent} {post : ServiceState → Prop}
    (hs : post s)
    (hregister : ∀ input, event.call.input? = some input →
      Meets (· = s) (manager.register event.env input) (fun _ => post) fun _ => post)
    (hunregister : event.call = .unregister →
      Meets (· = s) (manager.unregister event.env) (fun _ => post) fun _ => post)
    (hstep : serviceStep hash manager s event = some s') : post s' := by
  obtain ⟨call, env⟩ := event
  have hserve : Meets (· = s) (serve hash manager ⟨call, env⟩) (fun _ => post) fun _ => post := by
    cases call with
    | register input => exact (hregister input rfl).bind fun _ => meets_pure fun _ ht => ht
    | reconcile expected =>
        exact (reconcileDefinition_keeps hash hs (hregister expected rfl)).bind
          fun _ => meets_pure fun _ ht => ht
    | unregister => exact (hunregister rfl).bind fun _ => meets_pure fun _ ht => ht
  have hend := hserve s rfl
  unfold serviceStep at hstep
  cases hrun : serve hash manager ⟨call, env⟩ s with
  | ok answer t =>
      rw [hrun] at hend hstep
      cases hstep
      exact hend
  | error e t =>
      rw [hrun] at hend hstep
      cases hstep
      exact hend

/-- Where a call says that a definition is in place, the manager has it loaded exactly if the call
was careful. -/
theorem loaded_iff_careful (hloads : LoadsUnder manager Loads) {s s' : ServiceState}
    {event : ServiceEvent} {input : ServiceDefinitionInput}
    (h : serve hash manager event s = .ok (some input) s') :
    s'.loaded = some (manager.renderDefinition input) ↔ Careful manager Loads s event := by
  obtain ⟨call, env⟩ := event
  have hmeets {x : ServiceM (Option ServiceDefinitionInput)}
      (hx : serve hash manager ⟨call, env⟩ = x)
      (hmeets : Meets (· = s) x (fun answer t => ∀ input, answer = some input →
        (t.loaded = some (manager.renderDefinition input) ↔
          Careful manager Loads s ⟨call, env⟩)) fun _ _ => True) :
      s'.loaded = some (manager.renderDefinition input) ↔ Careful manager Loads s ⟨call, env⟩ := by
    have hrun := hmeets s rfl
    rw [← hx, h] at hrun
    exact hrun input rfl
  cases call with
  | register registered =>
      refine hmeets rfl ((hloads env registered s).bind fun _ => meets_pure ?_)
      rintro t ht _ ⟨⟩
      exact ht
  | reconcile expected =>
      refine hmeets rfl ((reconcileDefinition_meets hash hloads).bind fun answer => meets_pure ?_)
      intro t ht expected' hexpected
      split at hexpected
      · rename_i hstatus
        cases hexpected
        exact ht hstatus
      · cases hexpected
  | unregister =>
      have htrue : Meets (· = s) (manager.unregister env) (fun _ _ => True) fun _ _ => True := by
        intro s _
        split <;> trivial
      refine hmeets rfl (htrue.bind fun _ => meets_pure ?_)
      rintro t _ _ ⟨⟩

end Effect

end RlyGateway
