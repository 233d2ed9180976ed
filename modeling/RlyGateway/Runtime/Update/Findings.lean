import RlyGateway.Runtime.Update.Moves

/-!
# Findings of an update

Most of a run finds things out and changes nothing. What holds of the files and of what has happened
is kept by that, however it ends, and what was found holds behind it.
-/

namespace RlyGateway

/-! ## Assertions -/

/-- A statement about what has happened in a run and the files it has come to. -/
abbrev UpdateAssertion := List UpdateEvent → UpdateFiles → Prop

/-- A statement about the progress of a run. -/
def At (P : UpdateAssertion) (progress : UpdateProgress) : Prop := P progress.events progress.files

/-- A statement that findings keep. -/
def Stable (P : UpdateAssertion) : Prop :=
  ∀ events files moment action, action.isFinding = true → P events files →
    P (events ++ [⟨moment, files, action⟩]) files

theorem Stable.and {P Q : UpdateAssertion} (hP : Stable P) (hQ : Stable Q) :
    Stable fun events files => P events files ∧ Q events files :=
  fun events files moment action hfinding h =>
    ⟨hP events files moment action hfinding h.1, hQ events files moment action hfinding h.2⟩

theorem Stable.or {P Q : UpdateAssertion} (hP : Stable P) (hQ : Stable Q) :
    Stable fun events files => P events files ∨ Q events files :=
  fun events files moment action hfinding h =>
    h.imp (hP events files moment action hfinding) (hQ events files moment action hfinding)

theorem Stable.exists {α : Type} {P : α → UpdateAssertion} (hP : ∀ a, Stable (P a)) :
    Stable fun events files => ∃ a, P a events files := by
  rintro events files moment action hfinding ⟨a, ha⟩
  exact ⟨a, hP a events files moment action hfinding ha⟩

theorem stable_files (p : UpdateFiles → Prop) : Stable fun _ files => p files :=
  fun _ _ _ _ _ h => h

theorem Happened.append {events : List UpdateEvent} {action : UpdateAction}
    (h : Happened events action) (more : List UpdateEvent) : Happened (events ++ more) action := by
  obtain ⟨event, hmem, haction⟩ := h
  exact ⟨event, List.mem_append_left more hmem, haction⟩

theorem happened_concat {events : List UpdateEvent} {event : UpdateEvent} {action : UpdateAction} :
    Happened (events ++ [event]) action ↔ Happened events action ∨ event.action = action := by
  constructor
  · rintro ⟨found, hmem, haction⟩
    rcases List.mem_append.1 hmem with hmem | hmem
    · exact .inl ⟨found, hmem, haction⟩
    · obtain rfl := List.mem_singleton.1 hmem
      exact .inr haction
  · rintro (h | h)
    · exact h.append [event]
    · exact ⟨event, List.mem_append_right events (List.mem_singleton.2 rfl), h⟩

theorem stable_happened (action : UpdateAction) : Stable fun events _ => Happened events action :=
  fun _ _ _ _ _ h => h.append _

theorem Switching.append {events : List UpdateEvent} (h : Switching events)
    (more : List UpdateEvent) : Switching (events ++ more) := by
  obtain ⟨record, hwrote, hphase⟩ := h
  exact ⟨record, hwrote.append more, hphase⟩

/-- References are being restored where they were, or where that begins. -/
theorem restoring_concat {events : List UpdateEvent} {event : UpdateEvent} :
    Restoring (events ++ [event]) ↔ Restoring events ∨
      event.action = .called .setActiveReferences ∨ event.action = .called .restorePrevious := by
  unfold Restoring
  rw [happened_concat, happened_concat]
  tauto

theorem restoring_concat_of_finding {events : List UpdateEvent} {moment : ℕ} {files : UpdateFiles}
    {action : UpdateAction} (hfinding : action.isFinding = true) :
    Restoring (events ++ [⟨moment, files, action⟩]) ↔ Restoring events := by
  rw [restoring_concat]
  constructor
  · rintro (h | rfl | rfl)
    · exact h
    · cases hfinding
    · cases hfinding
  · exact Or.inl

theorem stable_not_restoring : Stable fun events _ => ¬ Restoring events := by
  intro events files moment action hfinding h
  rwa [restoring_concat_of_finding hfinding]

theorem stable_restoresOnce : Stable fun events _ => RestoresOnce events := by
  intro events files moment action hfinding h
  unfold RestoresOnce
  rw [restoring_concat_of_finding hfinding]
  exact fun hrestoring => (h hrestoring).append _

theorem stable_unwritten : Stable fun events _ => Unwritten events := by
  intro events files moment action hfinding h record hwrote
  rcases happened_concat.1 hwrote with hwrote | rfl
  · exact h record hwrote
  · cases hfinding

section Programs

variable {α β : Type} {given : UpdateAssertion} {found : α → UpdateAssertion}
  {thrown : UpdateAssertion} {x : UpdateM α}

/-- A program that only finds things out: what findings keep holds however it ends. Given a
statement, what it has found is true where it returns, and a second statement where it throws. -/
def Finds (given : UpdateAssertion) (x : UpdateM α) (found : α → UpdateAssertion)
    (thrown : UpdateAssertion) : Prop :=
  ∀ P : UpdateAssertion, Stable P → (∀ events files, P events files → given events files) →
    EStateM.Meets (At P) x (fun a => At fun events files => P events files ∧ found a events files)
      fun stop => At fun events files =>
        P events files ∧ (stop = .crashed ∨ thrown events files)

theorem Finds.mono (h : Finds given x found thrown) {given' thrown' : UpdateAssertion}
    {found' : α → UpdateAssertion}
    (hgiven : ∀ events files, given' events files → given events files)
    (hfound : ∀ a events files, given' events files → found a events files →
      found' a events files)
    (hthrown : ∀ events files, given' events files → thrown events files → thrown' events files) :
    Finds given' x found' thrown' := by
  intro P hstable hP
  refine (h P hstable fun events files hp => hgiven events files (hP events files hp)).mono
    (fun _ => id) ?_ ?_
  · exact fun a s ⟨hp, hfinds⟩ => ⟨hp, hfound a _ _ (hP _ _ hp) hfinds⟩
  · exact fun stop s ⟨hp, hstop⟩ => ⟨hp, hstop.imp_right (hthrown _ _ (hP _ _ hp))⟩

theorem finds_pure {a : α} (h : ∀ events files, given events files → found a events files) :
    Finds given (pure a) found thrown :=
  fun _ _ hP => EStateM.meets_pure fun _ hp => ⟨hp, h _ _ (hP _ _ hp)⟩

theorem finds_throw {stop : UpdateStop}
    (h : ∀ events files, given events files → thrown events files) :
    Finds given (throw stop) found thrown :=
  fun _ _ hP => EStateM.meets_throw fun _ hp => ⟨hp, .inr (h _ _ (hP _ _ hp))⟩

/-- What the first part has found is given to the second. -/
theorem Finds.bind {f : α → UpdateM β} {found' : β → UpdateAssertion}
    (hx : Finds given x found thrown) (hstable : ∀ a, Stable (found a))
    (hf : ∀ a, Finds (fun events files => given events files ∧ found a events files) (f a) found'
      thrown) : Finds given (x >>= f) found' thrown := by
  intro P hP hgiven
  refine (hx P hP hgiven).bind fun a => ?_
  refine (hf a _ (hP.and (hstable a)) fun events files h => ⟨hgiven events files h.1, h.2⟩).mono
    (fun _ => id) ?_ ?_
  · exact fun b s ⟨hp, hfound⟩ => ⟨hp.1, hfound⟩
  · exact fun stop s ⟨hp, hstop⟩ => ⟨hp.1, hstop⟩

theorem Finds.through {f : α → UpdateM β} {found' : β → UpdateAssertion} (found : α → UpdateAssertion)
    (hx : Finds given x found thrown) (hstable : ∀ a, Stable (found a))
    (hf : ∀ a, Finds (fun events files => given events files ∧ found a events files) (f a) found'
      thrown) : Finds given (x >>= f) found' thrown :=
  hx.bind hstable hf

theorem Finds.ite {p : Prop} [Decidable p] {y : UpdateM α} (hx : p → Finds given x found thrown)
    (hy : ¬ p → Finds given y found thrown) : Finds given (if p then x else y) found thrown := by
  split
  · rename_i hp
    exact hx hp
  · rename_i hp
    exact hy hp

theorem Finds.catching {handler : String → UpdateM α} (thrown' : UpdateAssertion)
    (hx : Finds given x found thrown') (hstable : Stable thrown')
    (hhandler : ∀ message, Finds (fun events files => given events files ∧ thrown' events files)
      (handler message) found thrown) : Finds given (catching x handler) found thrown := by
  intro P hP hgiven
  refine (hx P hP hgiven).rescue ?_ ?_
  · rintro stop message hreason
    cases stop with
    | crashed => cases hreason
    | thrown text =>
        cases hreason
        refine (hhandler message _ (hP.and hstable) fun events files h =>
          ⟨hgiven events files h.1, h.2⟩).mono ?_ ?_ ?_
        · rintro s ⟨hp, hcrashed | hthrown⟩
          · cases hcrashed
          · exact ⟨hp, hthrown⟩
        · exact fun b s ⟨hp, hfound⟩ => ⟨hp.1, hfound⟩
        · exact fun stop s ⟨hp, hstop⟩ => ⟨hp.1, hstop⟩
  · rintro stop s hreason ⟨hp, -⟩
    cases stop with
    | crashed => exact ⟨hp, .inl rfl⟩
    | thrown message => cases hreason

/-- What findings keep holds where a finding program returns, with what it has found, and where it
stops. -/
theorem Finds.meets (h : Finds given x found thrown) {P : UpdateAssertion} (hP : Stable P)
    (hgiven : ∀ events files, P events files → given events files) {S : UpdateStop → UpdateAssertion}
    (hstop : ∀ stop events files, P events files → S stop events files) :
    EStateM.Meets (At P) x (fun a => At fun events files => P events files ∧ found a events files)
      fun stop => At (S stop) :=
  (h P hP hgiven).mono (fun _ => id) (fun _ _ => id) fun stop _ hp => hstop stop _ _ hp.1

end Programs

/-! ## Findings -/

variable (dependencies : UpdateRuntimeDependencies)

/-- Nothing in particular. -/
abbrev Anything : UpdateAssertion := fun _ _ => True

theorem stable_anything : Stable Anything := fun _ _ _ _ _ _ => trivial

section Findings

variable {given thrown : UpdateAssertion}

theorem finds_currentFiles :
    Finds given currentFiles (fun found _ files => found = files) thrown := by
  intro P _ _ s hp
  exact ⟨hp, rfl⟩

theorem finds_nextMoment : Finds given (nextMoment dependencies) (fun _ => Anything) thrown := by
  intro P _ _
  refine EStateM.Meets.through (fun progress s => s = progress ∧ At P s)
    (EStateM.meets_get fun s hp => ⟨rfl, hp⟩) fun progress => ?_
  refine EStateM.Meets.ite (fun _ => EStateM.meets_throw ?_) fun _ =>
    EStateM.Meets.through (fun _ => At P) ?_ fun _ => EStateM.meets_pure ?_
  · rintro s ⟨rfl, hp⟩
    exact ⟨hp, .inl rfl⟩
  · rintro s ⟨rfl, hp⟩
    exact hp
  · exact fun s hp => ⟨hp, trivial⟩

theorem finds_note {moment : ℕ} {action : UpdateAction} (hfinding : action.isFinding = true)
    {found : UpdateAssertion}
    (hfound : ∀ events files, given events files → found (events ++ [⟨moment, files, action⟩]) files) :
    Finds given (note moment action) (fun _ => found) thrown := by
  intro P hP hgiven
  refine EStateM.meets_modify fun s hp => ⟨?_, ?_⟩
  · exact hP _ _ moment action hfinding hp
  · exact hfound _ _ (hgiven _ _ hp)

/-- A step that fails has happened to fail. -/
theorem finds_attempt (step : UpdateStep) :
    Finds given (attempt dependencies step) (fun _ => Anything)
      fun events _ => Happened events (.faulted step) := by
  refine (finds_nextMoment dependencies).bind (fun _ => stable_anything) fun moment => ?_
  cases dependencies.fault step moment with
  | none => exact finds_pure fun _ _ _ => trivial
  | some fault =>
      refine Finds.through (fun _ events _ => Happened events (.faulted step))
        (finds_note rfl fun events files _ => ?_) (fun _ => stable_happened _) fun _ => ?_
      · exact happened_concat.2 (.inr rfl)
      · exact finds_throw fun _ _ h => h.2

theorem finds_attempt_anything (step : UpdateStep) :
    Finds given (attempt dependencies step) (fun _ => Anything) Anything :=
  (finds_attempt dependencies step).mono (fun _ _ h => h) (fun _ _ _ _ h => h) fun _ _ _ _ => trivial

theorem finds_currentTime : Finds given (currentTime dependencies) (fun _ => Anything) thrown :=
  (finds_nextMoment dependencies).bind (fun _ => stable_anything) fun _ =>
    finds_pure fun _ _ _ => trivial

/-- What is observed has happened to be observed. -/
theorem finds_observe {α : Type} (finding : ℕ → α) {action : α → UpdateAction}
    (hfinding : ∀ a, (action a).isFinding = true) :
    Finds given (observe dependencies finding action)
      (fun a events _ => Happened events (action a)) Anything := by
  refine (finds_attempt_anything dependencies _).bind (fun _ => stable_anything) fun moment => ?_
  refine Finds.through (fun _ events _ => Happened events (action (finding moment)))
    (finds_note (hfinding _) fun events files _ => ?_) (fun _ => stable_happened _) fun _ => ?_
  · exact happened_concat.2 (.inr rfl)
  · exact finds_pure fun _ _ h => h.2

theorem finds_inspectRuntimeGateway :
    Finds given (inspectRuntimeGateway dependencies)
      (fun runtime events _ => Happened events (.inspected runtime)) Anything :=
  finds_observe dependencies _ fun _ => rfl

theorem finds_read :
    Finds given (UpdateStateStore.read dependencies) (fun found _ files => found = files.record)
      Anything := by
  refine (finds_attempt_anything dependencies _).bind (fun _ => stable_anything) fun _ => ?_
  refine Finds.bind finds_currentFiles (fun found => stable_files (found = ·)) fun files => ?_
  exact finds_pure fun _ _ h => congrArg _ h.2

/-! ### The installer -/

section Installer

variable {call : InstallerCall}

theorem finds_ensureRuntimeLayout (hcall : (UpdateAction.called call).isFinding = true) :
    Finds given (LocalCandidateInstaller.ensureRuntimeLayout dependencies call) (fun _ => Anything)
      fun events _ => Happened events (.faulted (.installer call)) := by
  intro P hP hgiven s hp
  refine EStateM.Meets.through (fun (_ : UpdateProgress) => At P) (EStateM.meets_get fun _ h => h)
    (fun progress => ?_) s hp
  exact (Finds.through (fun _ => Anything) (finds_note hcall fun _ _ _ => trivial)
    (fun _ => stable_anything) fun _ => (finds_attempt dependencies _).bind (fun _ => stable_anything)
      fun _ => finds_pure fun _ _ _ => trivial) P hP hgiven

/-- A deployment that is validated is complete, and of the version that is reported. -/
theorem finds_validateDeployment (artifactId : String) :
    Finds given (LocalCandidateInstaller.validateDeployment dependencies call artifactId)
      (fun metadata _ files => files.Complete artifactId ∧
        files.version? artifactId = some metadata.version)
      fun events files => files.Complete artifactId → Happened events (.faulted (.installer call)) := by
  refine Finds.bind ((finds_attempt dependencies (.installer call)).mono (fun _ _ h => h)
    (fun _ _ _ _ h => h) fun _ _ _ h _ => h) (fun _ => stable_anything) fun _ => ?_
  refine Finds.bind finds_currentFiles (fun found => stable_files (found = ·)) fun files => ?_
  cases hdeployment : files.deployments.get? artifactId with
  | none =>
      refine finds_throw ?_
      rintro events _ ⟨-, rfl⟩ ⟨deployment, hsome, -⟩
      rw [hdeployment] at hsome
      cases hsome
  | some deployment =>
      dsimp only
      refine Finds.ite (fun hincomplete => finds_throw ?_) fun hcomplete => finds_pure ?_
      · rintro events _ ⟨-, rfl⟩ ⟨deployment', hsome, hcomplete⟩
        rw [hdeployment] at hsome
        cases hsome
        exact absurd hincomplete hcomplete
      · rintro events _ ⟨-, rfl⟩
        refine ⟨⟨deployment, hdeployment, hcomplete⟩, ?_⟩
        rw [UpdateFiles.version?, hdeployment]
        rfl

/-- What a reference resolves to. -/
def Resolves (reference : ReferenceName) (found : Option (String × String)) (files : UpdateFiles) :
    Prop :=
  found.map Prod.fst = files.target reference ∧
    found.map Prod.snd = (files.target reference).bind files.version? ∧
    ∀ artifactId, files.target reference = some artifactId → files.Complete artifactId

theorem finds_resolveRef (reference : ReferenceName) :
    Finds given (LocalCandidateInstaller.resolveRef dependencies call reference)
      (fun found _ files => Resolves reference found files)
      fun events files => (∀ artifactId, files.target reference = some artifactId →
        files.Complete artifactId) → Happened events (.faulted (.installer call)) := by
  refine Finds.bind ((finds_attempt dependencies (.installer call)).mono (fun _ _ h => h)
    (fun _ _ _ _ h => h) fun _ _ _ h _ => h) (fun _ => stable_anything) fun _ => ?_
  refine Finds.bind finds_currentFiles (fun found => stable_files (found = ·)) fun files => ?_
  cases htarget : files.target reference with
  | none =>
      refine finds_pure ?_
      rintro events _ ⟨-, rfl⟩
      unfold Resolves
      rw [htarget]
      exact ⟨rfl, rfl, by rintro _ ⟨⟩⟩
  | some artifactId =>
      dsimp only
      refine Finds.bind ((finds_validateDeployment dependencies artifactId).mono (fun _ _ h => h)
        (fun _ _ _ _ h => h) ?_) (fun metadata => stable_files _) fun metadata => finds_pure ?_
      · rintro events _ ⟨-, rfl⟩ hthrown hcomplete
        exact hthrown (hcomplete artifactId htarget)
      · rintro events _ ⟨⟨-, rfl⟩, hcomplete, hversion⟩
        unfold Resolves
        rw [htarget]
        refine ⟨rfl, hversion.symm, ?_⟩
        rintro _ ⟨⟩
        exact hcomplete

theorem finds_verifyCandidate :
    Finds given (LocalCandidateInstaller.verifyCandidate dependencies) (fun _ => Anything) Anything := by
  refine Finds.through (fun _ => Anything) ((finds_ensureRuntimeLayout dependencies rfl).mono
    (fun _ _ h => h) (fun _ _ _ _ h => h) fun _ _ _ _ => trivial) (fun _ => stable_anything) fun _ => ?_
  refine Finds.through (fun _ => Anything) ((finds_resolveRef dependencies .staged).mono
    (fun _ _ h => h) (fun _ _ _ _ _ => trivial) fun _ _ _ _ => trivial) (fun _ => stable_anything)
    fun staged => ?_
  cases staged with
  | none => exact finds_pure fun _ _ _ => trivial
  | some staged =>
      obtain ⟨artifactId, version⟩ := staged
      refine Finds.catching Anything ?_ stable_anything fun message =>
        finds_pure fun _ _ _ => trivial
      refine Finds.through (fun _ => Anything)
        ((finds_validateDeployment dependencies artifactId).mono (fun _ _ h => h)
          (fun _ _ _ _ _ => trivial) fun _ _ _ _ => trivial) (fun _ => stable_anything)
        fun metadata => ?_
      exact Finds.ite (fun _ => finds_pure fun _ _ _ => trivial) fun _ =>
        finds_pure fun _ _ _ => trivial

/-- The manifest that is read is that of the staged deployment, which is read if it is complete and
nothing fails. -/
theorem finds_readManifest :
    Finds (fun events files => given events files ∧
        ∀ artifactId, files.staged = some artifactId → files.Complete artifactId)
      (LocalCandidateInstaller.readManifest dependencies)
      (fun found _ files => found = files.staged.bind fun artifactId =>
        (files.deployments.get? artifactId).bind (·.manifest))
      fun events _ => Happened events (.faulted (.installer .readManifest)) := by
  refine (finds_ensureRuntimeLayout dependencies rfl).bind (fun _ => stable_anything) fun _ => ?_
  refine Finds.bind ((finds_resolveRef dependencies .staged).mono (fun _ _ h => h)
    (fun _ _ _ _ h => h) ?_) (fun found => stable_files _) fun staged => ?_
  · rintro events files ⟨⟨-, hcomplete⟩, -⟩ hthrown
    exact hthrown hcomplete
  cases staged with
  | none =>
      refine finds_pure ?_
      rintro events files ⟨-, hstaged, -, -⟩
      change none = files.staged at hstaged
      rw [← hstaged]
      rfl
  | some staged =>
      obtain ⟨artifactId, version⟩ := staged
      refine (finds_attempt dependencies _).bind (fun _ => stable_anything) fun _ => ?_
      refine Finds.bind finds_currentFiles (fun found => stable_files (found = ·)) fun files =>
        finds_pure ?_
      rintro events _ ⟨⟨⟨-, hstaged, -, -⟩, -⟩, rfl⟩
      change some artifactId = files.staged at hstaged
      rw [← hstaged]
      rfl

end Installer

/-! ### The running gateway -/

/-- An action that was taken when a statement held. -/
def TakenAfter (given : UpdateAssertion) (action : UpdateAction) (events : List UpdateEvent) : Prop :=
  ∃ before event after, events = before ++ event :: after ∧ event.action = action ∧
    given before event.files

theorem stable_takenAfter (action : UpdateAction) :
    Stable fun events _ => TakenAfter given action events := by
  rintro events files moment found - ⟨before, event, after, rfl, haction, hgiven⟩
  exact ⟨before, event, after ++ [⟨moment, files, found⟩], by simp, haction, hgiven⟩

theorem finds_note_takenAfter {moment : ℕ} {action : UpdateAction}
    (hfinding : action.isFinding = true) :
    Finds given (note moment action) (fun _ events _ => TakenAfter given action events) thrown :=
  finds_note hfinding fun events _ hgiven => ⟨events, _, [], rfl, rfl, hgiven⟩

/-- An identity that is read has been read behind what was given. -/
theorem finds_readRuntimeIdentity :
    Finds given (readRuntimeIdentity dependencies)
      (fun found events _ => found.isSome → TakenAfter given (.identified found) events) Anything := by
  refine (finds_attempt_anything dependencies _).bind (fun _ => stable_anything) fun moment => ?_
  refine Finds.ite (fun _ => finds_pure fun _ _ _ => by rintro ⟨⟩) fun _ => ?_
  refine (finds_nextMoment dependencies).bind (fun _ => stable_anything) fun now => ?_
  refine Finds.through (fun _ events _ =>
      TakenAfter given (.identified (dependencies.identity now)) events)
    ((finds_note_takenAfter rfl).mono (fun _ _ h => h.1.1) (fun _ _ _ _ h => h) fun _ _ _ h => h)
    (fun _ => stable_takenAfter _) fun _ => ?_
  exact finds_pure fun _ _ h _ => h.2

theorem finds_authenticatedReadiness :
    Finds given (authenticatedReadiness dependencies) (fun _ => Anything) Anything := by
  refine (finds_attempt_anything dependencies _).bind (fun _ => stable_anything) fun moment => ?_
  refine Finds.ite (fun _ => finds_pure fun _ _ _ => trivial) fun _ => ?_
  exact (finds_nextMoment dependencies).bind (fun _ => stable_anything) fun now =>
    finds_pure fun _ _ _ => trivial

theorem finds_verifyAttested (pendingVersion pendingArtifactId : Option String) :
    Finds given (verifyAttested dependencies pendingVersion pendingArtifactId) (fun _ => Anything)
      Anything := by
  refine Finds.through (fun _ => Anything) ((finds_readRuntimeIdentity dependencies).mono
    (fun _ _ h => h) (fun _ _ _ _ _ => trivial) fun _ _ _ h => h) (fun _ => stable_anything)
    fun identity => ?_
  cases identity with
  | none => exact finds_pure fun _ _ _ => trivial
  | some identity =>
      dsimp only
      cases identityMismatch identity pendingVersion pendingArtifactId with
      | some reason => exact finds_pure fun _ _ _ => trivial
      | none =>
          refine Finds.ite (fun _ => finds_pure fun _ _ _ => trivial) fun _ => ?_
          refine (finds_authenticatedReadiness dependencies).bind (fun _ => stable_anything)
            fun ready => ?_
          exact Finds.ite (fun _ => finds_pure fun _ _ _ => trivial) fun _ =>
            finds_pure fun _ _ _ => trivial

theorem finds_verifyInspected {pendingVersion pendingArtifactId : Option String}
    {runtime : RuntimeInspection} {rest : UpdateM (Option String)}
    (hrest : Finds given rest (fun _ => Anything) Anything) :
    Finds given ((verifyInspected dependencies pendingVersion pendingArtifactId runtime).getD rest)
      (fun _ => Anything) Anything := by
  cases runtime with
  | notRunning => exact hrest
  | attestedCompatible resident version => exact finds_verifyAttested dependencies _ _
  | attestedIncompatible => exact finds_pure fun _ _ _ => trivial
  | occupiedForeign => exact finds_pure fun _ _ _ => trivial
  | staleRecord => exact hrest

theorem finds_verifyCandidateRuntime (pendingVersion pendingArtifactId : Option String)
    (polls : ℕ) :
    Finds given (verifyCandidateRuntime dependencies pendingVersion pendingArtifactId polls)
      (fun _ => Anything) Anything := by
  induction polls generalizing given with
  | zero =>
      refine Finds.through (fun _ => Anything) ((finds_inspectRuntimeGateway dependencies).mono
        (fun _ _ h => h) (fun _ _ _ _ _ => trivial) fun _ _ _ h => h) (fun _ => stable_anything)
        fun runtime => ?_
      exact finds_verifyInspected dependencies (finds_pure fun _ _ _ => trivial)
  | succ polls ih =>
      refine Finds.through (fun _ => Anything) ((finds_inspectRuntimeGateway dependencies).mono
        (fun _ _ h => h) (fun _ _ _ _ _ => trivial) fun _ _ _ h => h) (fun _ => stable_anything)
        fun runtime => ?_
      exact finds_verifyInspected dependencies ih

/-- The drain request has been accepted. -/
def Accepted (events : List UpdateEvent) : Prop :=
  ∃ status, Happened events (.drainRequested status) ∧ (200 ≤ status ∧ status < 300 ∨ status = 409)

theorem stable_accepted : Stable fun events _ => Accepted events :=
  Stable.exists fun _ => (stable_happened _).and (stable_files fun _ => _)

theorem finds_beginDrain :
    Finds given (beginDrain dependencies)
      (fun engaged events _ => TakenAfter given .fenceAttempted events ∧
        (engaged = true → Accepted events)) Anything := by
  intro P hP hgiven s hp
  refine EStateM.Meets.through (fun (_ : UpdateProgress) => At P) (EStateM.meets_get fun _ h => h)
    (fun progress => ?_) s hp
  refine (Finds.through (fun _ events _ => TakenAfter given .fenceAttempted events)
    (finds_note_takenAfter rfl) (fun _ => stable_takenAfter _) fun _ => ?_) P hP hgiven
  refine Finds.through (fun _ => Anything) ((finds_inspectRuntimeGateway dependencies).mono
    (fun _ _ h => h) (fun _ _ _ _ _ => trivial) fun _ _ _ h => h) (fun _ => stable_anything)
    fun runtime => ?_
  refine Finds.ite (fun _ => finds_pure fun _ _ h => ⟨h.1.2, by rintro ⟨⟩⟩) fun _ => ?_
  refine (finds_attempt_anything dependencies _).bind (fun _ => stable_anything) fun moment => ?_
  refine Finds.ite (fun _ => finds_pure fun _ _ h => ⟨h.1.1.2, by rintro ⟨⟩⟩) fun _ => ?_
  refine Finds.bind (finds_observe dependencies _ fun _ => rfl) (fun _ => stable_happened _)
    fun status => finds_pure fun events _ h => ⟨h.1.1.1.2, fun haccepted => ?_⟩
  exact ⟨status, h.2, of_decide_eq_true haccepted⟩

theorem finds_currentActiveSessions :
    Finds given (currentActiveSessions dependencies)
      (fun sessions events _ => ∀ n, sessions = some n → ∃ identity,
        TakenAfter given (.identified (some identity)) events ∧ identity.activeSessions = some n)
      Anything := by
  refine Finds.bind (finds_readRuntimeIdentity dependencies) (fun found => ?_) fun identity =>
    finds_pure ?_
  · intro events files moment action hfinding h hsome
    exact stable_takenAfter _ events files moment action hfinding (h hsome)
  · rintro events files ⟨-, hidentity⟩ n hn
    cases identity with
    | none => cases hn
    | some identity => exact ⟨identity, hidentity rfl, hn⟩

theorem stable_sessionsDrained : Stable fun events _ => SessionsDrained events := by
  rintro events files moment action - ⟨before, accepted, between, counted, after, status, identity,
    rfl, h⟩
  exact ⟨before, accepted, between, counted, after ++ [⟨moment, files, action⟩], status, identity,
    by simp, h⟩

theorem sessionsDrained_of_takenAfter {events : List UpdateEvent} {identity : RuntimeIdentity}
    (h : TakenAfter (fun events _ => Accepted events) (.identified (some identity)) events)
    (hzero : identity.activeSessions = some 0) : SessionsDrained events := by
  obtain ⟨before, counted, after, rfl, hcounted, status, ⟨accepted, hmem, haccepted⟩, hstatus⟩ := h
  obtain ⟨first, between, rfl⟩ := List.append_of_mem hmem
  exact ⟨first, accepted, between, counted, after, status, identity, by simp, haccepted, hstatus,
    hcounted, hzero⟩

/-- The sessions are counted until none is left. -/
theorem finds_waitForSessionDrain (polls : ℕ) :
    Finds (fun events _ => Accepted events) (waitForSessionDrain dependencies polls)
      (fun sessions events _ => sessions = some 0 → SessionsDrained events) Anything := by
  have hcount : Finds (fun events _ => Accepted events) (currentActiveSessions dependencies)
      (fun sessions events _ => sessions = some 0 → SessionsDrained events) Anything := by
    refine (finds_currentActiveSessions dependencies).mono (fun _ _ h => h) ?_ fun _ _ _ h => h
    intro sessions events files _ h hzero
    obtain ⟨identity, htaken, hidentity⟩ := h 0 hzero
    exact sessionsDrained_of_takenAfter htaken hidentity
  induction polls with
  | zero => exact hcount
  | succ polls ih =>
      refine Finds.bind hcount (fun sessions => ?_) fun sessions => ?_
      · intro events files moment action hfinding h hzero
        exact stable_sessionsDrained events files moment action hfinding (h hzero)
      · refine Finds.ite (fun hzero => finds_pure fun _ _ h _ => h.2 hzero) fun _ => ?_
        exact ih.mono (fun _ _ h => h.1) (fun _ _ _ _ h => h) fun _ _ _ h => h

theorem finds_assertUpdateableRuntime (runtime : RuntimeInspection) :
    Finds given (assertUpdateableRuntime runtime) (fun _ => Anything) Anything := by
  unfold assertUpdateableRuntime
  split
  · exact finds_throw fun _ _ _ => trivial
  · exact finds_throw fun _ _ _ => trivial
  · exact finds_throw fun _ _ _ => trivial
  · exact finds_pure fun _ _ _ => trivial

/-- The journal of an activation says what that of the record does. -/
theorem finds_transactionFor (record : UpdateStateRecord) :
    Finds given (transactionFor dependencies record)
      (fun transaction _ _ => record.Journals transaction) Anything := by
  unfold transactionFor
  split
  · rename_i transaction htransaction
    refine finds_pure fun _ _ _ => ⟨?_, ?_⟩
    · intro evidence hevidence
      rw [UpdateStateRecord.evidence, htransaction] at hevidence
      exact (Option.some.inj hevidence).symm
    · rw [UpdateStateRecord.rollbackAttempts, htransaction]
      rfl
  · rename_i hnone
    refine (finds_verifyCandidate dependencies).bind (fun _ => stable_anything) fun verified => ?_
    refine Finds.ite (fun _ => finds_throw fun _ _ _ => trivial) fun _ => ?_
    cases verified.artifactId with
    | none => exact finds_throw fun _ _ _ => trivial
    | some artifactId =>
        refine (finds_currentTime dependencies).bind (fun _ => stable_anything) fun now =>
          finds_pure fun _ _ _ => ⟨?_, ?_⟩
        · intro evidence hevidence
          rw [UpdateStateRecord.evidence, hnone] at hevidence
          cases hevidence
        · rw [UpdateStateRecord.rollbackAttempts, hnone]
          rfl

end Findings

end RlyGateway
