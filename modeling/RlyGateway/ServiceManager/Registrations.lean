import RlyGateway.ServiceManager.Reconcile

/-!
# Runs of registrations

Calls of an adapter one after another, of which any may fail or end with the process. Where the file
and the manager agree at the start and no call ends half way, they agree after every call.
-/

namespace RlyGateway

inductive PlatformAdapter where
  | linux (adapter : SystemdUserAdapter)
  | darwin (adapter : LaunchAgentAdapter)
deriving DecidableEq, Repr

namespace PlatformAdapter

def manager (definitionPath : String) : PlatformAdapter → ServiceManagerAdapter
  | .linux adapter => adapter.manager definitionPath
  | .darwin adapter => adapter.manager definitionPath

def Loads : PlatformAdapter → LoadCondition
  | .linux _ => SystemdUserAdapter.Loads
  | .darwin _ => LaunchAgentAdapter.Loads

theorem loadsUnder (platform : PlatformAdapter) (definitionPath : String) :
    LoadsUnder (platform.manager definitionPath) platform.Loads := by
  cases platform with
  | linux adapter => exact adapter.loadsUnder definitionPath
  | darwin adapter => exact adapter.loadsUnder definitionPath

end PlatformAdapter

section Runs

variable (hash : String → String) (platform : PlatformAdapter) (definitionPath : String)

/-- The call says that a definition is in place: a registration that returns, or a reconciliation
that answers `ok` or `repaired`. -/
def SaysInPlace (s : ServiceState) (event : ServiceEvent) : Prop :=
  ∃ input s', serve hash (platform.manager definitionPath) event s = .ok (some input) s'

theorem takesEffect_iff_careful {s : ServiceState} {event : ServiceEvent} :
    TakesEffect hash (platform.manager definitionPath) s event ↔
      (SaysInPlace hash platform definitionPath s event →
        Careful (platform.manager definitionPath) platform.Loads s event) := by
  have hloads := platform.loadsUnder definitionPath
  constructor
  · rintro h ⟨input, s', hserve⟩
    exact (loaded_iff_careful hash hloads hserve).1 (h input s' hserve)
  · intro h input s' hserve
    exact (loaded_iff_careful hash hloads hserve).2 (h ⟨input, s', hserve⟩)

/-- In a run every call that says so has its definition loaded, exactly if every one of them was
careful. -/
theorem registrationsTakeEffect_iff {start : ServiceState} {events : List ServiceEvent} :
    events.Along (TakesEffect hash (platform.manager definitionPath))
        (serviceStep hash (platform.manager definitionPath)) start ↔
      events.Along (fun s event => SaysInPlace hash platform definitionPath s event →
          Careful (platform.manager definitionPath) platform.Loads s event)
        (serviceStep hash (platform.manager definitionPath)) start := by
  constructor
  · intro h before event after s heq hrun
    exact (takesEffect_iff_careful hash platform definitionPath).1 (h before event after s heq hrun)
  · intro h before event after s heq hrun
    exact (takesEffect_iff_careful hash platform definitionPath).2 (h before event after s heq hrun)

/-- Nothing fails, but what is named. -/
def environmentBut (command : ServiceCommand) (code : ℤ) : ServiceEnvironment where
  files _ := .done
  commands named := .exited ⟨if named = command then code else 0, "", ""⟩

section Retried

variable (adapter : SystemdUserAdapter) (input : ServiceDefinitionInput)
  (huid : adapter.uid ≠ some 0) (hlog : input.logPath.or adapter.logPath = none)

include huid hlog

/-- A definition is written, and the reload fails. -/
theorem serviceStep_failedReload :
    serviceStep hash (adapter.manager definitionPath) ⟨none, none⟩
        ⟨.register input, environmentBut .daemonReload 1⟩ =
      some ⟨some (adapter.renderDefinition input), none⟩ := by
  simp only [serviceStep, serve, SystemdUserAdapter.manager, SystemdUserAdapter.register]
  generalize adapter.renderDefinition input = unit
  rw [hlog]
  simp [huid, assertNotRoot, SystemdUserAdapter.assertUserManagerAvailable, environmentBut, runner,
    callFiles, ignoring, readDefinition, EStateM.reads, writeAtomically, SystemdUserAdapter.systemctl,
    EStateM.throw_apply, EStateM.modify_apply, bind, EStateM.bind, pure, EStateM.pure,
    EStateM.rescue, ServiceCommand.effect]

/-- The same registration again finds its definition and returns. -/
theorem serve_writtenBefore :
    serve hash (adapter.manager definitionPath)
        ⟨.register input, environmentBut .daemonReload 0⟩
        ⟨some (adapter.renderDefinition input), none⟩ =
      .ok (some input) ⟨some (adapter.renderDefinition input), none⟩ := by
  simp only [serve, SystemdUserAdapter.manager, SystemdUserAdapter.register]
  generalize adapter.renderDefinition input = unit
  rw [hlog]
  simp [huid, assertNotRoot, SystemdUserAdapter.assertUserManagerAvailable, environmentBut, runner,
    callFiles, ignoring, readDefinition, EStateM.reads, EStateM.modify_apply, bind, EStateM.bind,
    pure, EStateM.pure, EStateM.rescue, ServiceCommand.effect]

end Retried

/-- A registration whose reload fails, and that is tried again: the second one returns, and nothing is
loaded. -/
theorem not_registrationsTakeEffect :
    ¬ ∀ (hash : String → String) (platform : PlatformAdapter) (definitionPath : String)
      (start : ServiceState) (events : List ServiceEvent),
      events.Along (TakesEffect hash (platform.manager definitionPath))
        (serviceStep hash (platform.manager definitionPath)) start := by
  intro h
  let input : ServiceDefinitionInput := ⟨"rly-gateway", "/opt/rly/bootstrap", none, "/etc/rly", none⟩
  let adapter : SystemdUserAdapter := ⟨some 501, none, none⟩
  have huid : adapter.uid ≠ some 0 := by decide
  have hrun : List.run (serviceStep id (adapter.manager "unit")) ⟨none, none⟩
      [⟨.register input, environmentBut .daemonReload 1⟩] =
        some ⟨some (adapter.renderDefinition input), none⟩ := by
    rw [List.run, serviceStep_failedReload id "unit" adapter input huid rfl]
    rfl
  have heffect := h id (.linux adapter) "unit" ⟨none, none⟩
    [⟨.register input, environmentBut .daemonReload 1⟩,
      ⟨.register input, environmentBut .daemonReload 0⟩]
    _ _ _ _ rfl hrun input _ (serve_writtenBefore id "unit" adapter input huid rfl)
  cases heffect

end Runs

/-! ## Agreement of the file and the manager -/

/-- launchd hears of a text that is written: that the job of another text is to go, and that of this
one is to come. -/
def LaunchAgentAdapter.Hears (env : ServiceEnvironment) (text : String) (s : ServiceState) : Prop :=
  s.file = some text ∨
    (s.file = none ∨ env.read .readPrevious s = s.file ∧ env.DropsJob) ∧ env.TakesJob

namespace PlatformAdapter

/-- The manager has loaded what the file holds. systemd may keep a unit whose file is gone. -/
def Synced : PlatformAdapter → ServiceState → Prop
  | .linux _, s => s.file = none ∨ s.loaded = s.file
  | .darwin _, s => s.loaded = s.file

/-- Once a call has changed the file, the manager hears of it: of a text that is written, and with
launchd that the job of another one or of a removed one is to go. -/
def Uninterrupted (s : ServiceState) (event : ServiceEvent) : PlatformAdapter → Prop
  | .linux adapter => ∀ input, event.call.input? = some input →
      s.file = some (adapter.renderDefinition input) ∨ event.env.Succeeds .daemonReload
  | .darwin adapter =>
      (∀ input, event.call.input? = some input →
        LaunchAgentAdapter.Hears event.env (adapter.renderDefinition input) s) ∧
      (event.call = .unregister → adapter.uid ≠ some 0 ∧
        event.env.files .removeDefinition = .done ∧ (s.loaded = none ∨ event.env.DropsJob))

end PlatformAdapter

section Sync

open EStateM

variable (hash : String → String) (definitionPath : String) {s s' : ServiceState}
  {event : ServiceEvent}

/-- A read finds what the file holds, or nothing. -/
theorem ServiceEnvironment.file_of_read {env : ServiceEnvironment} {call : ServiceFileCall}
    {text : String} (h : env.read call s = some text) : s.file = some text := by
  unfold ServiceEnvironment.read at h
  split at h
  · exact h
  · cases h

theorem SystemdUserAdapter.synced_step (adapter : SystemdUserAdapter)
    (hsync : PlatformAdapter.Synced (.linux adapter) s)
    (hevent : PlatformAdapter.Uninterrupted s event (.linux adapter))
    (hstep : serviceStep hash (adapter.manager definitionPath) s event = some s') :
    PlatformAdapter.Synced (.linux adapter) s' := by
  refine serviceStep_keeps hash hsync ?_ ?_ hstep
  · intro input hinput
    refine (adapter.register_meets input s).mono (fun _ h => h) ?_ ?_
    · rintro _ t (⟨-, rfl⟩ | ⟨-, rfl⟩)
      · exact hsync
      · exact Or.inr rfl
    · rintro _ t (rfl | ⟨rfl, hfails⟩)
      · exact hsync
      · -- what was written was there before
        have hfile := (hevent input hinput).resolve_right hfails
        rcases hsync with hnone | hloaded
        · rw [hfile] at hnone
          cases hnone
        · exact Or.inr (hloaded.trans hfile)
  · intro _
    refine (adapter.unregister_meets s).mono (fun _ h => h) (fun _ t ht => Or.inl ht) ?_
    rintro _ t (rfl | ht)
    · exact hsync
    · exact Or.inl ht

theorem SystemdUserAdapter.careful_of_synced (adapter : SystemdUserAdapter)
    (hsync : PlatformAdapter.Synced (.linux adapter) s) :
    Careful (adapter.manager definitionPath) SystemdUserAdapter.Loads s event := by
  have hloaded {call : ServiceFileCall} {text : String} (hread : event.env.read call s = some text) :
      s.loaded = some text := by
    have hfile := ServiceEnvironment.file_of_read hread
    rcases hsync with hnone | hloaded
    · rw [hfile] at hnone
      cases hnone
    · exact hloaded.trans hfile
  obtain ⟨call, env⟩ := event
  cases call with
  | register input => exact hloaded
  | reconcile expected =>
      rw [Careful]
      split
      · rename_i hread
        exact hloaded hread
      · exact hloaded
  | unregister => trivial

/-- Where launchd hears of it, a text that was found and is replaced has its job dropped. -/
theorem LaunchAgentAdapter.Hears.drops {env : ServiceEnvironment} {text : String}
    (h : LaunchAgentAdapter.Hears env text s) (hnone : env.read .readPrevious s ≠ none)
    (htext : env.read .readPrevious s ≠ some text) : env.DropsJob ∧ env.TakesJob := by
  obtain ⟨previous, hprevious⟩ := Option.ne_none_iff_exists'.1 hnone
  have hfile := ServiceEnvironment.file_of_read hprevious
  rcases h with hsame | ⟨hgone | ⟨-, hdrops⟩, htakes⟩
  · rw [hprevious, ← hfile] at htext
    exact absurd hsame htext
  · rw [hfile] at hgone
    cases hgone
  · exact ⟨hdrops, htakes⟩

/-- Where launchd hears of it, the state before is that of the text, or no job is there and the one
of the text will come. -/
theorem LaunchAgentAdapter.Hears.kept {env : ServiceEnvironment} {text : String}
    (h : LaunchAgentAdapter.Hears env text s) (hsync : s.loaded = s.file)
    (hkept : ¬ (env.read .readPrevious s ≠ none ∧ env.read .readPrevious s ≠ some text)) :
    s.loaded = some text ∨ (s.loaded = none ∧ env.TakesJob) := by
  rw [hsync]
  rcases h with hsame | ⟨hgone | ⟨hread, -⟩, htakes⟩
  · exact Or.inl hsame
  · exact Or.inr ⟨hgone, htakes⟩
  · rw [hread] at hkept
    by_cases hnone : s.file = none
    · exact Or.inr ⟨hnone, htakes⟩
    · exact Or.inl (not_not.1 fun htext => hkept ⟨hnone, htext⟩)

theorem LaunchAgentAdapter.Hears.loads {env : ServiceEnvironment} {text : String}
    (h : LaunchAgentAdapter.Hears env text s) (hsync : s.loaded = s.file) :
    LaunchAgentAdapter.Loads env (env.read .readPrevious s) text s := by
  by_cases hchanged : env.read .readPrevious s ≠ none ∧ env.read .readPrevious s ≠ some text
  · obtain ⟨hdrops, htakes⟩ := h.drops hchanged.1 hchanged.2
    exact Or.inr ⟨Or.inr ⟨hchanged.1, hchanged.2, hdrops⟩, htakes⟩
  · rcases h.kept hsync hchanged with hloaded | ⟨hnone, htakes⟩
    · exact Or.inl ⟨hloaded, fun hunloads => hchanged ⟨hunloads.1, hunloads.2.1⟩⟩
    · exact Or.inr ⟨Or.inl hnone, htakes⟩

/-- What is loaded once the text is written: the text, or nothing yet. -/
theorem LaunchAgentAdapter.Hears.rewritten {env : ServiceEnvironment} {text : String}
    (h : LaunchAgentAdapter.Hears env text s) (hsync : s.loaded = s.file) {u : ServiceState}
    (hu : LaunchAgentAdapter.Rewritten env (env.read .readPrevious s) text s u) :
    u = ⟨some text, some text⟩ ∨ (u = ⟨some text, none⟩ ∧ env.TakesJob) := by
  unfold LaunchAgentAdapter.Rewritten at hu
  split at hu
  · rename_i hchanged
    obtain ⟨hdrops, htakes⟩ := h.drops hchanged.1 hchanged.2
    rcases hu with ⟨-, rfl⟩ | ⟨hno, -⟩
    · exact Or.inr ⟨rfl, htakes⟩
    · exact absurd hdrops hno
  · rename_i hkept
    rw [hu]
    rcases h.kept hsync hkept with hloaded | ⟨hnone, htakes⟩
    · rw [hloaded]
      exact Or.inl rfl
    · rw [hnone]
      exact Or.inr ⟨rfl, htakes⟩

theorem LaunchAgentAdapter.synced_step (adapter : LaunchAgentAdapter)
    (hsync : PlatformAdapter.Synced (.darwin adapter) s)
    (hevent : PlatformAdapter.Uninterrupted s event (.darwin adapter))
    (hstep : serviceStep hash (adapter.manager definitionPath) s event = some s') :
    PlatformAdapter.Synced (.darwin adapter) s' := by
  have hsync' : s.loaded = s.file := hsync
  refine serviceStep_keeps hash hsync ?_ ?_ hstep
  · intro input hinput
    have hhears := hevent.1 input hinput
    refine (adapter.register_meets input s).mono (fun _ h => h) ?_ ?_
    · rintro _ t ⟨u, hu, ht⟩
      rcases hhears.rewritten hsync' hu with rfl | ⟨rfl, htakes⟩
      · rcases ht with ⟨-, rfl⟩ | ⟨-, rfl⟩ <;> rfl
      · rcases ht with ⟨-, rfl⟩ | ⟨hno, -⟩
        · rfl
        · exact absurd htakes hno
    · rintro _ t (rfl | ⟨hu, hvain⟩)
      · exact hsync
      · rcases hhears.rewritten hsync' hu with rfl | ⟨rfl, htakes⟩
        · rfl
        · rcases hvain with ⟨hnone, htext, hno⟩ | hno
          · exact absurd (hhears.drops hnone htext).1 hno
          · exact absurd htakes hno
  · intro hunregister
    obtain ⟨huid, hremoved, hdrops⟩ := hevent.2 hunregister
    refine (adapter.unregister_meets s huid).mono (fun _ h => h) ?_ ?_
    · rintro _ t ⟨u, hu, rfl⟩
      rcases hu with ⟨-, rfl⟩ | ⟨hno, rfl⟩
      · rfl
      · exact hdrops.resolve_right hno
    · rintro _ t (⟨-, rfl⟩ | hnot)
      · exact hsync
      · exact absurd hremoved hnot

theorem LaunchAgentAdapter.careful_of_synced (adapter : LaunchAgentAdapter)
    (hsync : PlatformAdapter.Synced (.darwin adapter) s)
    (hevent : PlatformAdapter.Uninterrupted s event (.darwin adapter)) :
    Careful (adapter.manager definitionPath) LaunchAgentAdapter.Loads s event := by
  obtain ⟨call, env⟩ := event
  cases call with
  | register input => exact (hevent.1 input rfl).loads hsync
  | reconcile expected =>
      rw [Careful]
      split
      · rename_i hread
        exact Eq.trans hsync (ServiceEnvironment.file_of_read hread)
      · exact (hevent.1 expected rfl).loads hsync
  | unregister => trivial

variable (platform : PlatformAdapter)

/-- A run that starts with the file and the manager agreed, and in which the manager hears of every
change, has them agreed at its end. -/
theorem PlatformAdapter.synced_run {start : ServiceState} {events : List ServiceEvent}
    {last : ServiceState} (hsync : platform.Synced start)
    (halong : events.Along (fun s event => platform.Uninterrupted s event)
      (serviceStep hash (platform.manager definitionPath)) start)
    (hrun : List.run (serviceStep hash (platform.manager definitionPath)) start events =
      some last) : platform.Synced last := by
  revert halong
  refine List.run_induction (motive := fun events last =>
    events.Along (fun s event => platform.Uninterrupted s event)
      (serviceStep hash (platform.manager definitionPath)) start → platform.Synced last)
    (fun _ => hsync) ?_ hrun
  intro events s event s' hrun ih hstep halong
  obtain ⟨hbefore, hevent⟩ := (List.along_concat hrun).1 halong
  cases platform with
  | linux adapter => exact adapter.synced_step hash definitionPath (ih hbefore) hevent hstep
  | darwin adapter => exact adapter.synced_step hash definitionPath (ih hbefore) hevent hstep

end Sync

end RlyGateway
