import RlyGateway.Runtime.Update.Histories

/-!
# The drain fence

Before the active reference is switched the running gateway is drained: none is running where the
fence is attempted, or one instance accepts the drain and then attests that it has no session left.
The fence, the drain and the count are observed at different moments, so this needs that the gateway
is not started or exchanged between them.
-/

namespace RlyGateway

variable {α : Type} {dependencies : UpdateRuntimeDependencies} {start files : UpdateFiles}
  {events : List UpdateEvent}

/-! ## Instances -/

/-- A drain request that is accepted: new sessions are refused from here on. -/
def accepts (status : ℕ) : Prop := 200 ≤ status ∧ status < 300 ∨ status = 409

instance (status : ℕ) : Decidable (accepts status) :=
  inferInstanceAs (Decidable (200 ≤ status ∧ status < 300 ∨ status = 409))

/-- What is observed of the gateway is true of the instance that runs at that moment: an inspection
finds none exactly where none runs, and only a running instance answers. -/
def UpdateEvent.attested (running : ℕ → Option α) (event : UpdateEvent) : Bool :=
  match event.action with
  | .inspected runtime => alreadyDown runtime == (running event.moment).isNone
  | .drainRequested status => !decide (accepts status) || (running event.moment).isSome
  | .identified (some _) => (running event.moment).isSome
  | _ => true

/-- What is observed in a run is true of the instances that run. -/
def Attested (running : ℕ → Option α) (events : List UpdateEvent) : Prop :=
  ∀ event ∈ events, event.attested running = true

instance (running : ℕ → Option α) (events : List UpdateEvent) : Decidable (Attested running events) :=
  inferInstanceAs (Decidable (∀ event ∈ events, event.attested running = true))

/-- The gateway is out of the way: none ran where the fence was attempted, or one instance accepted
the drain and attested behind that that it has no session. -/
def OutOfTheWay (running : ℕ → Option α) (events : List UpdateEvent) : Prop :=
  (∃ fence ∈ events, fence.action = .fenceAttempted ∧ running fence.moment = none) ∨
    ∃ before accepted between counted after status identity found,
      events = before ++ accepted :: between ++ counted :: after ∧
        accepted.action = .drainRequested status ∧ accepts status ∧
        running accepted.moment = some found ∧
        counted.action = .identified (some identity) ∧ identity.activeSessions = some 0 ∧
        running counted.moment = some found

/-- A gateway that an inspection did not find has not been started where the fence is attempted, and
the instance that counts no session is the one that accepted the drain. -/
structure Unchanged (running : ℕ → Option α) (events : List UpdateEvent) : Prop where
  down : ∀ before inspected between fence after runtime,
    events = before ++ inspected :: between ++ fence :: after →
      inspected.action = .inspected runtime → alreadyDown runtime = true →
      fence.action = .fenceAttempted → running fence.moment = none
  same : ∀ before accepted between counted after status identity,
    events = before ++ accepted :: between ++ counted :: after →
      accepted.action = .drainRequested status → accepts status →
      counted.action = .identified (some identity) → identity.activeSessions = some 0 →
      running counted.moment = running accepted.moment

/-! ## The gate -/

theorem Unchanged.of_append {running : ℕ → Option α} {more : List UpdateEvent}
    (h : Unchanged running (events ++ more)) : Unchanged running events where
  down before inspected between fence after runtime heq :=
    h.down before inspected between fence (after ++ more) runtime (by rw [heq]; simp)
  same before accepted between counted after status identity heq :=
    h.same before accepted between counted (after ++ more) status identity (by rw [heq]; simp)

/-- Behind the drain gate of an activation that is not forced the gateway is out of the way. -/
theorem DrainGate.outOfTheWay {running : ℕ → Option α} (h : DrainGate dependencies events)
    (hforce : dependencies.force = false) (hattested : Attested running events)
    (hunchanged : Unchanged running events) : OutOfTheWay running events := by
  obtain ⟨before, fence, after, heq, hfence, hforced | ⟨runtime, hinspected, hdown⟩ | hdrained⟩ := h
  · rw [hforce] at hforced
    cases hforced
  · obtain ⟨inspected, hmem, hinspected⟩ := hinspected
    obtain ⟨first, between, rfl⟩ := List.append_of_mem hmem
    refine .inl ⟨fence, ?_, hfence, ?_⟩
    · rw [heq]
      simp
    · exact hunchanged.down first inspected between fence after runtime heq hinspected hdown hfence
  · obtain ⟨first, accepted, between, counted, last, status, identity, hsplit, haccepted, hstatus,
      hcounted, hzero⟩ := hdrained
    have hanswered : (running accepted.moment).isSome = true := by
      have := hattested accepted (by rw [hsplit]; simp)
      unfold UpdateEvent.attested at this
      rw [haccepted] at this
      have haccepts : decide (accepts status) = true := decide_eq_true hstatus
      simpa [haccepts] using this
    obtain ⟨found, hfound⟩ := Option.isSome_iff_exists.1 hanswered
    refine .inr ⟨first, accepted, between, counted, last, status, identity, found, hsplit, haccepted,
      hstatus, hfound, hcounted, hzero, ?_⟩
    rw [hunchanged.same first accepted between counted last status identity hsplit haccepted hstatus
      hcounted hzero]
    exact hfound

/-- A run against one instance, which has no session. -/
def drainedRun : UpdateRuntimeDependencies :=
  { UpdateRuntimeDependencies.undisturbed with
    candidate := some nextCandidate
    inspection := fun _ => .attestedCompatible true none
    identity := fun _ => some ⟨none, none, some 0, none, none⟩ }

/-- A run against an instance with three sessions, that is started behind the first inspection. -/
def startedRun : UpdateRuntimeDependencies :=
  { UpdateRuntimeDependencies.undisturbed with
    candidate := some nextCandidate
    inspection := fun moment => if moment ≤ 10 then .notRunning else .attestedCompatible true none
    identity := fun _ => some ⟨none, none, some 3, none, none⟩ }

/-- The instances of that run. -/
def startedInstance : ℕ → Option ℕ := fun moment => if moment ≤ 10 then none else some 0

end RlyGateway
