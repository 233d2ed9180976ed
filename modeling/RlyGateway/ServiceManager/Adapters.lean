import Mathlib.Data.List.Infix
import RlyGateway.Library.Interrupted
import RlyGateway.ServiceManager.Definitions

/-!
# Service manager adapters

`src/service-manager/systemd-user.ts` and `src/service-manager/launch-agent.ts`: how a definition is
written to its file, and how the service manager is told. Every call of the file system and every
command of the manager has an outcome of its own, which may be that the process ends there.
-/

namespace RlyGateway

/-! ## The service manager -/

structure ServiceCommandResult where
  code : ℤ
  stdout : String
  stderr : String
deriving DecidableEq, Repr

/-- The definition on disk, and the one that the manager has loaded for the label. -/
structure ServiceState where
  file : Option String
  loaded : Option String
deriving DecidableEq, Repr

/-- The commands of `systemctl --user` and of `launchctl`. -/
inductive ServiceCommand where
  | showEnvironment
  | daemonReload
  | disable
  | bootstrap
  | load
  | bootout
  | unload
deriving DecidableEq, Repr

/-- What a command does where it succeeds. A job that is loaded is not loaded again. -/
def ServiceCommand.effect (state : ServiceState) : ServiceCommand → ServiceState
  | .daemonReload => { state with loaded := state.file }
  | .bootstrap | .load =>
      if state.loaded = none then { state with loaded := state.file } else state
  | .bootout | .unload => { state with loaded := none }
  | .showEnvironment | .disable => state

/-! ## Outcomes -/

/-- The calls of the file system. -/
inductive ServiceFileCall where
  | makeDirectory
  | protectDirectory
  | makeLogDirectory
  | readPrevious
  | writeTemporary
  | protectTemporary
  | renameTemporary
  | removeTemporary
  | removeDefinition
  | detectBefore
  | detectAfter
deriving DecidableEq, Repr

inductive FileOutcome where
  | done
  | failed (message : String)
  | crashed
deriving DecidableEq, Repr

inductive CommandOutcome where
  | exited (result : ServiceCommandResult)
  | rejected (message : String)
  | crashed
deriving DecidableEq, Repr

/-- What the calls come to that are made during one call of an adapter. -/
structure ServiceEnvironment where
  files : ServiceFileCall → FileOutcome
  commands : ServiceCommand → CommandOutcome

/-- Why a call of an adapter does not return. -/
inductive ServiceStop where
  | threw (message : String)
  | crashed
deriving DecidableEq, Repr

def ServiceStop.message? : ServiceStop → Option String
  | .threw message => some message
  | .crashed => none

abbrev ServiceM := EStateM ServiceStop ServiceState

section Calls

variable (env : ServiceEnvironment)

/-- A call of the file system that changes the state. -/
def callFiles (call : ServiceFileCall) (effect : ServiceState → ServiceState) : ServiceM Unit :=
  match env.files call with
  | .done => modify effect
  | .failed message => throw (.threw message)
  | .crashed => throw .crashed

/-- The text of the definition; none where it cannot be read. -/
def readDefinition (call : ServiceFileCall) : ServiceM (Option String) :=
  match env.files call with
  | .done => EStateM.reads ServiceState.file
  | .failed _ => pure none
  | .crashed => throw .crashed

def runner (command : ServiceCommand) : ServiceM ServiceCommandResult :=
  match env.commands command with
  | .exited result =>
      if result.code = 0 then do
        modify fun state => command.effect state
        pure result
      else pure result
  | .rejected message => throw (.threw message)
  | .crashed => throw .crashed

/-- `x.catch(() => undefined)`. -/
def ignoring {α : Type} (x : ServiceM α) : ServiceM Unit :=
  EStateM.rescue (x >>= fun _ => pure ()) ServiceStop.message? fun _ => pure ()

/-- The text is written beside the definition and renamed to it. -/
def writeAtomically (text : String) : ServiceM Unit :=
  EStateM.rescue
    (do
      callFiles env .writeTemporary id
      callFiles env .protectTemporary id
      callFiles env .renameTemporary fun state => { state with file := some text })
    ServiceStop.message?
    fun message => do
      ignoring (callFiles env .removeTemporary id)
      throw (.threw message)

/-- The definition is removed; it need not be there. -/
def unlinkDefinition : ServiceM Unit :=
  callFiles env .removeDefinition fun state => { state with file := none }

end Calls

/-! ## Results of commands -/

/-- Whether one of the texts occurs in a text, whatever the case of its letters. -/
def mentions (texts : List String) (text : String) : Bool :=
  texts.any fun part => part.toList.map Char.toLower <:+: text.toList.map Char.toLower

/-- The error of the process: its trimmed output, or its exit code. -/
def ServiceCommandResult.problem (result : ServiceCommandResult) : String :=
  match trimChars result.stderr.toList with
  | [] => "exit " ++ toString result.code
  | text => String.ofList text

/-- Per-user services must never be registered or managed as root. -/
def assertNotRoot (uid : Option ℕ) : ServiceM Unit :=
  if uid = some 0 then
    throw (.threw
      "RLY per-user service registration must not run as root; run rly init without sudo")
  else pure ()

/-! ## systemd -/

structure SystemdUserAdapter where
  uid : Option ℕ
  logPath : Option String
  workingDirectory : Option String
deriving DecidableEq, Repr

/-- `systemctl --user` fails this way when no per-user systemd manager bus exists. -/
def isNoUserManager (result : ServiceCommandResult) : Bool :=
  mentions ["Failed to connect to bus", "System has not been booted with systemd", "Cannot open bus",
    "Connection refused"] result.stderr

def systemctlError (action : String) (result : ServiceCommandResult) : String :=
  if isNoUserManager result then
    "RLY cannot " ++ action ++ ": no reachable systemd user manager (" ++ result.problem ++ "). " ++
      "This usually means the session has no user D-Bus, common in containers, minimal distros, " ++
      "or WSL without systemd. RLY deliberately does not enable \x60loginctl enable-linger\x60 " ++
      "because it changes OS account behavior beyond the login lifetime; run \x60rly init\x60 from " ++
      "a logged-in terminal session on a systemd host."
  else "RLY cannot " ++ action ++ ": " ++ result.problem

namespace SystemdUserAdapter

variable (env : ServiceEnvironment) (adapter : SystemdUserAdapter)

def assertUserManagerAvailable (action : String) : ServiceM Unit := do
  let probe ← runner env .showEnvironment
  if probe.code ≠ 0 then throw (.threw (systemctlError action probe)) else pure ()

def systemctl (action : String) (command : ServiceCommand) : ServiceM Unit := do
  let result ← runner env command
  if result.code ≠ 0 then throw (.threw (systemctlError action result)) else pure ()

def renderDefinition (input : ServiceDefinitionInput) : String :=
  buildSystemdUserUnit { input with logPath := input.logPath.or adapter.logPath }
    adapter.workingDirectory

def register (input : ServiceDefinitionInput) : ServiceM Unit := do
  assertNotRoot adapter.uid
  assertUserManagerAvailable env "register the per-user service"
  callFiles env .makeDirectory id
  ignoring (callFiles env .protectDirectory id)
  if (input.logPath.or adapter.logPath).isSome then callFiles env .makeLogDirectory id else pure ()
  let unit := adapter.renderDefinition input
  let previous ← readDefinition env .readPrevious
  -- an unchanged definition is neither written nor loaded
  if previous ≠ some unit then do
    writeAtomically env unit
    systemctl env "register the per-user service" .daemonReload
  else pure ()

def unregister : ServiceM Unit := do
  assertNotRoot adapter.uid
  ignoring (runner env .disable)
  unlinkDefinition env
  ignoring (runner env .daemonReload)

end SystemdUserAdapter

/-! ## launchd -/

structure LaunchAgentAdapter where
  uid : Option ℕ
  label : String
  logPath : Option String
  workingDirectory : Option String
deriving DecidableEq, Repr

/-- launchctl returns EINVAL or EALREADY when the job is already loaded. -/
def isTolerableLoadError (result : ServiceCommandResult) : Bool :=
  result.code = 0 || result.code = 5 || mentions ["already", "EALREADY", "bootstrapped"] result.stderr

/-- Unloading a job that is not loaded is not a failure. -/
def isTolerableStopError (result : ServiceCommandResult) : Bool :=
  result.code = 0 ||
    mentions ["no such process", "ENOENT", "not found", "EINVAL", "invalid"] result.stderr

def isLegacyUnsupported (result : ServiceCommandResult) : Bool :=
  result.code ≠ 0 && mentions ["not supported", "no such subcommand", "unknown subcommand",
    "invalid subcommand"] result.stderr

def launchctlError (action : String) (result : ServiceCommandResult) : String :=
  "launchctl " ++ action ++ " failed: " ++ result.problem

namespace LaunchAgentAdapter

variable (env : ServiceEnvironment) (adapter : LaunchAgentAdapter)

def bootout : ServiceM ServiceCommandResult := do
  let result ← runner env .bootout
  if result.code ≠ 0 ∧ !isTolerableStopError result ∧ isLegacyUnsupported result then
    runner env .unload
  else pure result

def bootstrap : ServiceM Unit := do
  let result ← runner env .bootstrap
  if isTolerableLoadError result then pure ()
  else if isLegacyUnsupported result then do
    let legacy ← runner env .load
    if legacy.code ≠ 0 ∧ !isTolerableLoadError legacy then
      throw (.threw (launchctlError "load" legacy))
    else pure ()
  else throw (.threw (launchctlError "bootstrap" result))

/-- A job is unloaded, unless that fails in a way that is not tolerated. -/
def unloadJob : ServiceM Unit := do
  let result ← bootout env
  if result.code ≠ 0 ∧ !isTolerableStopError result then
    throw (.threw (launchctlError "bootout" result))
  else pure ()

def renderDefinition (input : ServiceDefinitionInput) : String :=
  buildLaunchAgentPlist { input with logPath := input.logPath.or adapter.logPath } adapter.label
    adapter.workingDirectory

def register (input : ServiceDefinitionInput) : ServiceM Unit := do
  assertNotRoot adapter.uid
  callFiles env .makeDirectory id
  ignoring (callFiles env .protectDirectory id)
  if (input.logPath.or adapter.logPath).isSome then callFiles env .makeLogDirectory id else pure ()
  let plist := adapter.renderDefinition input
  let previous ← readDefinition env .readPrevious
  writeAtomically env plist
  -- a changed definition is unloaded before the new one is loaded
  if previous ≠ none ∧ previous ≠ some plist then unloadJob env else pure ()
  bootstrap env

def stop : ServiceM Unit := do
  assertNotRoot adapter.uid
  unloadJob env

def unregister : ServiceM Unit := do
  ignoring (stop env adapter)
  unlinkDefinition env

end LaunchAgentAdapter

/-! ## What the calls do -/

/-- The definition as a read finds it. -/
def ServiceEnvironment.read (env : ServiceEnvironment) (call : ServiceFileCall)
    (state : ServiceState) : Option String :=
  match env.files call with
  | .done => state.file
  | _ => none

/-- A command succeeds. -/
def ServiceEnvironment.Succeeds (env : ServiceEnvironment) (command : ServiceCommand) : Prop :=
  ∃ result, env.commands command = .exited result ∧ result.code = 0

theorem ServiceEnvironment.succeeds_iff {env : ServiceEnvironment} {command : ServiceCommand}
    {result : ServiceCommandResult} (h : env.commands command = .exited result) :
    env.Succeeds command ↔ result.code = 0 := by
  constructor
  · rintro ⟨result', hresult', hcode⟩
    rw [h] at hresult'
    cases hresult'
    exact hcode
  · intro hcode
    exact ⟨result, h, hcode⟩

theorem ServiceEnvironment.not_succeeds {env : ServiceEnvironment} {command : ServiceCommand}
    (h : ∀ result, env.commands command ≠ .exited result) : ¬ env.Succeeds command := by
  rintro ⟨result, hresult, -⟩
  exact h result hresult

/-- launchd does not know a command, as the adapter reads its result. -/
def ServiceEnvironment.Unsupported (env : ServiceEnvironment) (command : ServiceCommand)
    (tolerable : ServiceCommandResult → Bool) : Prop :=
  ∃ result, env.commands command = .exited result ∧ tolerable result = false ∧
    isLegacyUnsupported result = true

/-- A command of launchd is carried out, by itself or by its legacy form. -/
def ServiceEnvironment.Achieves (env : ServiceEnvironment) (command legacy : ServiceCommand)
    (tolerable : ServiceCommandResult → Bool) : Prop :=
  env.Succeeds command ∨ env.Unsupported command tolerable ∧ env.Succeeds legacy

/-- The job is unloaded. -/
def ServiceEnvironment.DropsJob (env : ServiceEnvironment) : Prop :=
  env.Achieves .bootout .unload isTolerableStopError

/-- The definition on disk is loaded, where no job is. -/
def ServiceEnvironment.TakesJob (env : ServiceEnvironment) : Prop :=
  env.Achieves .bootstrap .load isTolerableLoadError

namespace ServiceState

open EStateM

variable {env : ServiceEnvironment} {s : ServiceState} {pre post : ServiceState → Prop}
  {stopped : ServiceStop → ServiceState → Prop}

theorem meets_callFiles {call : ServiceFileCall} {effect : ServiceState → ServiceState}
    (hdone : ∀ t, pre t → post (effect t))
    (hstopped : env.files call ≠ .done → ∀ e t, pre t → stopped e t) :
    Meets pre (callFiles env call effect) (fun _ => post) stopped := by
  unfold callFiles
  cases hcall : env.files call with
  | done => exact meets_modify hdone
  | failed message => exact meets_throw fun t => hstopped (by simp [hcall]) _ t
  | crashed => exact meets_throw fun t => hstopped (by simp [hcall]) _ t

theorem meets_ignoring {α : Type} {x : ServiceM α} {stopped' : ServiceStop → ServiceState → Prop}
    (h : Meets pre x (fun _ => post) stopped') (hgoes : ∀ e t, stopped' e t → post t)
    (hstopped : ∀ e t, stopped' e t → stopped e t) :
    Meets pre (ignoring x) (fun _ => post) stopped := by
  have hx : Meets pre (x >>= fun _ => (pure () : ServiceM Unit)) (fun _ => post) stopped' :=
    h.bind fun _ => meets_pure fun _ ht => ht
  exact hx.rescue (fun e _ _ => meets_pure fun t ht => hgoes e t ht) fun e t _ ht => hstopped e t ht

theorem meets_readDefinition {call : ServiceFileCall} (hstopped : ∀ e, stopped e s) :
    Meets (· = s) (readDefinition env call) (fun text t => text = env.read call s ∧ t = s)
      stopped := by
  unfold readDefinition ServiceEnvironment.read
  cases env.files call with
  | done =>
      rintro t rfl
      exact ⟨rfl, rfl⟩
  | failed message => exact meets_pure fun t ht => ⟨rfl, ht⟩
  | crashed =>
      rintro t rfl
      exact hstopped _

theorem meets_runner {command : ServiceCommand}
    (hstopped : ∀ e, (∀ result, env.commands command ≠ .exited result) → stopped e s) :
    Meets (· = s) (runner env command)
      (fun result t => env.commands command = .exited result ∧
        t = if result.code = 0 then command.effect s else s) stopped := by
  unfold runner
  cases hcommand : env.commands command with
  | exited result =>
      refine Meets.ite (fun hcode => ?_) fun hcode => ?_
      · rintro t rfl
        exact ⟨rfl, (if_pos hcode).symm⟩
      · rintro t rfl
        exact ⟨rfl, (if_neg hcode).symm⟩
  | rejected message =>
      rintro t rfl
      exact hstopped _ (by simp [hcommand])
  | crashed =>
      rintro t rfl
      exact hstopped _ (by simp [hcommand])

/-- The definition is written whole, or left as it was. -/
theorem meets_writeAtomically {text : String} (hstopped : ∀ e, stopped e s) :
    Meets (· = s) (writeAtomically env text) (fun _ t => t = { s with file := some text })
      stopped := by
  have hkeeps {call : ServiceFileCall} :
      Meets (· = s) (callFiles env call id) (fun _ => (· = s)) fun _ => (· = s) :=
    meets_callFiles (fun _ ht => ht) fun _ _ _ ht => ht
  have hrename : Meets (· = s)
      (callFiles env .renameTemporary fun state => { state with file := some text })
      (fun _ t => t = { s with file := some text }) fun _ => (· = s) := by
    refine meets_callFiles ?_ fun _ _ _ ht => ht
    rintro t rfl
    rfl
  unfold writeAtomically
  refine (hkeeps.bind fun _ => hkeeps.bind fun _ => hrename).rescue ?_ ?_
  · intro e message _
    refine (meets_ignoring hkeeps (fun _ _ ht => ht) fun e t ht => ?_).bind fun _ => meets_throw fun t ht => ?_
    · rw [ht]
      exact hstopped e
    · rw [ht]
      exact hstopped _
  · intro e t _ ht
    rw [ht]
    exact hstopped e

theorem meets_assertNotRoot {uid : Option ℕ} (hstopped : ∀ e, uid = some 0 → stopped e s) :
    Meets (· = s) (assertNotRoot uid) (fun _ => (· = s)) stopped := by
  unfold assertNotRoot
  refine Meets.ite (fun hroot => meets_throw fun t ht => ?_) fun _ => meets_pure fun t ht => ht
  rw [ht]
  exact hstopped _ hroot

theorem meets_assertUserManagerAvailable {action : String} (hstopped : ∀ e, stopped e s) :
    Meets (· = s) (SystemdUserAdapter.assertUserManagerAvailable env action) (fun _ => (· = s))
      stopped := by
  refine (meets_runner fun e _ => hstopped e).bind fun probe => Meets.ite (fun hcode => ?_) fun hcode => ?_
  · rintro t ⟨-, rfl⟩
    rw [if_neg hcode]
    exact hstopped _
  · refine meets_pure ?_
    rintro t ⟨-, rfl⟩
    split <;> rfl

/-- A registration up to where the definition is read: nothing is changed. -/
theorem meets_prepare {logs : Bool} (hstopped : ∀ e, stopped e s) {x : ServiceM Unit}
    {post : Unit → ServiceState → Prop}
    (hx : Meets (· = s) x post stopped) :
    Meets (· = s) (do
      callFiles env .makeDirectory id
      ignoring (callFiles env .protectDirectory id)
      if logs then callFiles env .makeLogDirectory id else pure ()
      x) post stopped := by
  have hstopped' (e : ServiceStop) (t : ServiceState) (ht : t = s) : stopped e t := by
    rw [ht]
    exact hstopped e
  refine (meets_callFiles (fun _ ht => ht) fun _ => hstopped').bind fun _ => ?_
  refine (meets_ignoring (meets_callFiles (fun _ ht => ht) fun _ _ _ ht => ht) (fun _ _ ht => ht)
    hstopped').bind fun _ => ?_
  cases logs with
  | true => exact (meets_callFiles (fun _ ht => ht) fun _ => hstopped').bind fun _ => hx
  | false => exact hx

end ServiceState

/-! ## systemd -/

namespace SystemdUserAdapter

open EStateM ServiceState

variable {env : ServiceEnvironment} (adapter : SystemdUserAdapter) (input : ServiceDefinitionInput)
  (s : ServiceState)

omit adapter input in
variable {s} in
/-- A command that has to succeed. -/
theorem meets_systemctl {action : String} {command : ServiceCommand} {post : ServiceState → Prop}
    {stopped : ServiceStop → ServiceState → Prop} (hdone : post (command.effect s))
    (hstopped : ∀ e, ¬ env.Succeeds command → stopped e s) :
    Meets (· = s) (systemctl env action command) (fun _ => post) stopped := by
  refine (meets_runner fun e hne => hstopped e (ServiceEnvironment.not_succeeds hne)).bind
    fun result => Meets.ite (fun hcode => ?_) fun hcode => ?_
  · refine meets_throw ?_
    rintro t ⟨hresult, rfl⟩
    rw [if_neg hcode]
    exact hstopped _ fun hsucceeds => hcode ((ServiceEnvironment.succeeds_iff hresult).1 hsucceeds)
  · refine meets_pure ?_
    rintro t ⟨-, rfl⟩
    rw [if_pos (not_not.1 hcode)]
    exact hdone

/-- A registration returns where the file has the definition already, or has written it and loaded
it. Where it stops after it has written, the definition has not been loaded. -/
theorem register_meets :
    Meets (· = s) (register env adapter input)
      (fun _ t => (env.read .readPrevious s = some (adapter.renderDefinition input) ∧ t = s) ∨
        (env.read .readPrevious s ≠ some (adapter.renderDefinition input) ∧
          t = ⟨some (adapter.renderDefinition input), some (adapter.renderDefinition input)⟩))
      (fun _ t => t = s ∨
        (t = { s with file := some (adapter.renderDefinition input) } ∧
          ¬ env.Succeeds .daemonReload)) := by
  have hs (e : ServiceStop) : s = s ∨ (s = { s with file := some (adapter.renderDefinition input) } ∧
      ¬ env.Succeeds .daemonReload) := Or.inl rfl
  unfold register
  refine (meets_assertNotRoot fun e _ => hs e).bind fun _ => ?_
  refine (meets_assertUserManagerAvailable hs).bind fun _ => ?_
  refine meets_prepare hs ?_
  refine (meets_readDefinition hs).bind fun previous => meets_of_pre fun hprevious => ?_
  rw [← hprevious]
  refine Meets.ite (fun hchanged => ?_) fun hsame => ?_
  · refine (meets_writeAtomically hs).bind fun _ => ?_
    exact meets_systemctl (Or.inr ⟨hchanged, rfl⟩) fun _ hfails => Or.inr ⟨rfl, hfails⟩
  · refine meets_pure ?_
    rintro t rfl
    exact Or.inl ⟨not_not.1 hsame, rfl⟩

/-- Whatever becomes of it, a removal leaves the definition as it was, or none. -/
theorem unregister_meets :
    Meets (· = s) (unregister env adapter)
      (fun _ t => t.file = none)
      (fun _ t => t = s ∨ t.file = none) := by
  have hs (e : ServiceStop) : s = s ∨ s.file = none := Or.inl rfl
  unfold unregister
  refine (meets_assertNotRoot fun e _ => hs e).bind fun _ => ?_
  have hrunner (u : ServiceState) (command : ServiceCommand) :
      Meets (· = u) (runner env command)
        (fun result t => env.commands command = .exited result ∧
          t = if result.code = 0 then command.effect u else u) fun _ t => t = u :=
    meets_runner fun _ _ => rfl
  have hdisable : Meets (· = s) (runner env .disable) (fun _ => (· = s)) fun _ => (· = s) := by
    refine (hrunner s .disable).post_of ?_
    rintro result t ⟨-, rfl⟩
    split <;> rfl
  refine (meets_ignoring hdisable (fun _ _ ht => ht) fun _ _ ht => Or.inl ht).bind fun _ => ?_
  refine Meets.through (fun _ t => t.file = none)
    (meets_callFiles (fun _ _ => rfl) fun _ _ _ ht => Or.inl ht) fun _ => ?_
  intro t ht
  have hreload : Meets (· = t) (runner env .daemonReload) (fun _ u => u.file = none)
      fun _ u => u.file = none := by
    refine (hrunner t .daemonReload).mono (fun _ hu => hu) ?_ fun _ u hu => hu ▸ ht
    rintro result u ⟨-, rfl⟩
    split <;> exact ht
  exact meets_ignoring hreload (fun _ _ hu => hu) (fun _ _ hu => Or.inr hu) t rfl

end SystemdUserAdapter

/-! ## launchd -/

namespace LaunchAgentAdapter

open EStateM ServiceState

variable {env : ServiceEnvironment} (adapter : LaunchAgentAdapter) (input : ServiceDefinitionInput)
  (s : ServiceState)

/-- What comes of a command, or of its legacy form: its effect, or nothing. -/
def Told (env : ServiceEnvironment) (command legacy : ServiceCommand)
    (tolerable : ServiceCommandResult → Bool) (s t : ServiceState) : Prop :=
  (env.Achieves command legacy tolerable ∧ t = command.effect s) ∨
    (¬ env.Achieves command legacy tolerable ∧ t = s)

section Told

variable {s : ServiceState} {command legacy : ServiceCommand}
  {tolerable : ServiceCommandResult → Bool} {result : ServiceCommandResult}

theorem not_achieves_of_stopped (hne : ∀ result, env.commands command ≠ .exited result) :
    ¬ env.Achieves command legacy tolerable := by
  rintro (hsucceeds | ⟨⟨result, hresult, -⟩, -⟩)
  · exact ServiceEnvironment.not_succeeds hne hsucceeds
  · exact hne result hresult

/-- Where the legacy form is not tried, the command is achieved exactly if it succeeds. -/
theorem achieves_of_exited (hresult : env.commands command = .exited result)
    (hno : ¬ (tolerable result = false ∧ isLegacyUnsupported result = true)) :
    env.Achieves command legacy tolerable ↔ result.code = 0 := by
  constructor
  · rintro (hsucceeds | ⟨⟨result', hresult', hunsupported⟩, -⟩)
    · exact (ServiceEnvironment.succeeds_iff hresult).1 hsucceeds
    · rw [hresult] at hresult'
      cases hresult'
      exact absurd hunsupported hno
  · intro hcode
    exact Or.inl ((ServiceEnvironment.succeeds_iff hresult).2 hcode)

theorem told_of_code {t : ServiceState}
    (hachieves : env.Achieves command legacy tolerable ↔ result.code = 0)
    (ht : t = if result.code = 0 then command.effect s else s) :
    Told env command legacy tolerable s t := by
  by_cases hcode : result.code = 0
  · rw [if_pos hcode] at ht
    exact Or.inl ⟨hachieves.2 hcode, ht⟩
  · rw [if_neg hcode] at ht
    exact Or.inr ⟨fun h => hcode (hachieves.1 h), ht⟩

/-- The legacy form of a command that launchd does not know. -/
theorem legacy_meets (hresult : env.commands command = .exited result) (hcode : result.code ≠ 0)
    (htolerable : tolerable result = false) (hlegacy : isLegacyUnsupported result = true)
    (heffect : legacy.effect s = command.effect s) :
    Meets (· = s) (runner env legacy)
      (fun result t => (env.Achieves command legacy tolerable ↔ result.code = 0) ∧
        t = if result.code = 0 then command.effect s else s)
      fun _ t => ¬ env.Achieves command legacy tolerable ∧ t = s := by
  have hachieves : env.Achieves command legacy tolerable ↔ env.Succeeds legacy := by
    constructor
    · rintro (hsucceeds | ⟨-, hlegacy⟩)
      · exact absurd ((ServiceEnvironment.succeeds_iff hresult).1 hsucceeds) hcode
      · exact hlegacy
    · intro hsucceeds
      exact Or.inr ⟨⟨result, hresult, htolerable, hlegacy⟩, hsucceeds⟩
  rw [hachieves, ← heffect]
  refine (meets_runner fun e hne => ⟨ServiceEnvironment.not_succeeds hne, rfl⟩).post_of ?_
  rintro result' t ⟨hresult', ht⟩
  exact ⟨ServiceEnvironment.succeeds_iff hresult', ht⟩

end Told

/-- What is left of the job once it has been told to go. -/
def Dropped (env : ServiceEnvironment) (s t : ServiceState) : Prop :=
  Told env .bootout .unload isTolerableStopError s t

/-- What is loaded once the job has been told to come. -/
def Taken (env : ServiceEnvironment) (s t : ServiceState) : Prop :=
  Told env .bootstrap .load isTolerableLoadError s t

theorem bootout_meets :
    Meets (· = s) (bootout env)
      (fun result t => (env.DropsJob ↔ result.code = 0) ∧
        t = if result.code = 0 then ServiceCommand.bootout.effect s else s)
      (fun _ t => ¬ env.DropsJob ∧ t = s) := by
  refine (meets_runner fun e hne => ⟨not_achieves_of_stopped hne, rfl⟩).bind fun result =>
    Meets.ite (fun hlegacy => ?_) fun hno => ?_
  · obtain ⟨hcode, htolerable, hlegacy⟩ := hlegacy
    rintro t ⟨hresult, rfl⟩
    rw [if_neg hcode]
    exact legacy_meets hresult hcode (by simpa using htolerable) hlegacy
      (rfl : ServiceCommand.unload.effect s = ServiceCommand.bootout.effect s) s rfl
  · refine meets_pure ?_
    rintro t ⟨hresult, ht⟩
    refine ⟨achieves_of_exited hresult ?_, ht⟩
    rintro ⟨htolerable, hlegacy⟩
    have hcode : result.code ≠ 0 := by
      intro hcode
      simp [isTolerableStopError, hcode] at htolerable
    exact hno ⟨hcode, by simpa using htolerable, hlegacy⟩

theorem unloadJob_meets :
    Meets (· = s) (unloadJob env) (fun _ t => Dropped env s t)
      fun _ t => ¬ env.DropsJob ∧ t = s := by
  refine (bootout_meets s).bind fun result => Meets.ite (fun hfailed => ?_) fun _ => ?_
  · refine meets_throw ?_
    rintro t ⟨hdrops, ht⟩
    rw [if_neg hfailed.1] at ht
    exact ⟨fun h => hfailed.1 (hdrops.1 h), ht⟩
  · refine meets_pure ?_
    rintro t ⟨hdrops, ht⟩
    exact told_of_code hdrops ht

theorem bootstrap_meets :
    Meets (· = s) (bootstrap env) (fun _ t => Taken env s t)
      fun _ t => ¬ env.TakesJob ∧ t = s := by
  have hzero {result : ServiceCommandResult} (htolerable : ¬ isTolerableLoadError result = true) :
      result.code ≠ 0 := by
    intro hcode
    exact htolerable (by simp [isTolerableLoadError, hcode])
  refine (meets_runner fun e hne => ⟨not_achieves_of_stopped hne, rfl⟩).bind fun result =>
    Meets.ite (fun htolerable => ?_) fun htolerable => Meets.ite (fun hlegacy => ?_) fun hlegacy => ?_
  · refine meets_pure ?_
    rintro t ⟨hresult, ht⟩
    exact told_of_code (achieves_of_exited hresult (by simp [htolerable])) ht
  · rintro t ⟨hresult, rfl⟩
    rw [if_neg (hzero htolerable)]
    have hload := legacy_meets hresult (hzero htolerable) (by simpa using htolerable) hlegacy
      (rfl : ServiceCommand.load.effect s = ServiceCommand.bootstrap.effect s)
    refine hload.bind (fun legacy => Meets.ite (fun hfailed => ?_) fun _ => ?_) s rfl
    · refine meets_throw ?_
      rintro t ⟨htakes, ht⟩
      rw [if_neg hfailed.1] at ht
      exact ⟨fun h => hfailed.1 (htakes.1 h), ht⟩
    · refine meets_pure ?_
      rintro t ⟨htakes, ht⟩
      exact told_of_code htakes ht
  · refine meets_throw ?_
    rintro t ⟨hresult, ht⟩
    rw [if_neg (hzero htolerable)] at ht
    have htakes : env.TakesJob ↔ result.code = 0 :=
      achieves_of_exited hresult fun h => hlegacy h.2
    exact ⟨fun h => hzero htolerable (htakes.1 h), ht⟩

/-- A registration has written a text, and if it found another one before, has told the old job to
go. -/
def Rewritten (env : ServiceEnvironment) (previous : Option String) (text : String)
    (s t : ServiceState) : Prop :=
  if previous ≠ none ∧ previous ≠ some text then Dropped env { s with file := some text } t
  else t = { s with file := some text }

/-- A registration that returns has told launchd everything. One that stops has changed nothing; or
it has written the definition, and what launchd was told then was of no avail. -/
theorem register_meets :
    Meets (· = s) (register env adapter input)
      (fun _ t => ∃ u,
        Rewritten env (env.read .readPrevious s) (adapter.renderDefinition input) s u ∧ Taken env u t)
      (fun _ t => t = s ∨
        (Rewritten env (env.read .readPrevious s) (adapter.renderDefinition input) s t ∧
          ((env.read .readPrevious s ≠ none ∧
              env.read .readPrevious s ≠ some (adapter.renderDefinition input) ∧ ¬ env.DropsJob) ∨
            ¬ env.TakesJob))) := by
  unfold register
  refine (meets_assertNotRoot fun _ _ => Or.inl rfl).bind fun _ => ?_
  refine meets_prepare (fun _ => Or.inl rfl) ?_
  refine (meets_readDefinition fun _ => Or.inl rfl).bind fun previous =>
    meets_of_pre fun hprevious => ?_
  rw [← hprevious]
  refine (meets_writeAtomically fun _ => Or.inl rfl).bind fun _ => ?_
  generalize adapter.renderDefinition input = text
  have hload : Meets (fun t => Rewritten env previous text s t) (bootstrap env)
      (fun _ t => ∃ u, Rewritten env previous text s u ∧ Taken env u t)
      (fun _ t => t = s ∨ (Rewritten env previous text s t ∧
        ((previous ≠ none ∧ previous ≠ some text ∧ ¬ env.DropsJob) ∨ ¬ env.TakesJob))) := by
    intro u hu
    refine (bootstrap_meets u).mono (fun _ h => h) (fun _ t ht => ⟨u, hu, ht⟩) ?_ u rfl
    rintro _ t ⟨htakes, rfl⟩
    exact Or.inr ⟨hu, Or.inr htakes⟩
  refine Meets.ite (fun hchanged => ?_) fun hsame => ?_
  · have hunload : Meets (· = { s with file := some text }) (unloadJob env)
        (fun _ t => Rewritten env previous text s t)
        (fun _ t => t = s ∨ (Rewritten env previous text s t ∧
          ((previous ≠ none ∧ previous ≠ some text ∧ ¬ env.DropsJob) ∨ ¬ env.TakesJob))) := by
      refine (unloadJob_meets _).mono (fun _ h => h) (fun _ t ht => (if_pos hchanged).mpr ht) ?_
      rintro _ t ⟨hdrops, ht⟩
      exact Or.inr ⟨(if_pos hchanged).mpr (Or.inr ⟨hdrops, ht⟩),
        Or.inl ⟨hchanged.1, hchanged.2, hdrops⟩⟩
    exact hunload.bind fun _ => hload
  · exact hload.pre_of fun t ht => (if_neg hsame).mpr ht

/-- A removal tells the old job to go, whether or not that is heard, and removes the definition. -/
theorem unregister_meets (huid : adapter.uid ≠ some 0) :
    Meets (· = s) (unregister env adapter)
      (fun _ t => ∃ u, Dropped env s u ∧ t = { u with file := none })
      (fun _ t => (¬ env.DropsJob ∧ t = s) ∨ env.files .removeDefinition ≠ .done) := by
  unfold unregister stop
  have hstop : Meets (· = s) (assertNotRoot adapter.uid >>= fun _ => unloadJob env)
      (fun _ t => Dropped env s t) fun _ t => ¬ env.DropsJob ∧ t = s :=
    (meets_assertNotRoot fun _ hroot => absurd hroot huid).bind fun _ => unloadJob_meets s
  refine (meets_ignoring hstop (fun _ _ ht => Or.inr ht) fun _ _ ht => Or.inl ht).bind fun _ => ?_
  exact meets_callFiles (fun t ht => ⟨t, ht, rfl⟩) fun hnot _ _ _ => Or.inr hnot

end LaunchAgentAdapter

end RlyGateway
