import RlyGateway.Library.Keyed
import RlyGateway.Library.Runs
import RlyGateway.Profiles.AgentContexts

/-!
# Isolation of the agent execution contexts

The registry of contexts keeps the contexts of all sessions in one map, under lease, client session
and agent joined by bars, and finds those of a session by a prefix of the key. A lookup drops what it
finds of a lease that is not active any more. What the lookups answer is compared with what was
recorded, over any sequence of calls.
-/

namespace RlyGateway

/-! ## Calls -/

/-- The key under which a context is recorded. -/
def ExecutionContext.key (context : ExecutionContext) : String :=
  agentSessionKey context.leaseId context.claudeSessionId context.agentId

/-- The prefix of the keys of a client session. -/
def agentSessionPrefix (leaseId claudeSessionId : String) : List Char :=
  (leaseId ++ "|" ++ claudeSessionId ++ "|").toList

namespace AgentExecutionContextRegistry

/-- The registry after the context of a key was looked up. -/
def afterValid (registry : AgentExecutionContextRegistry) (key : String) :
    AgentExecutionContextRegistry :=
  { registry with
    contexts := registry.contexts.filter fun key' context =>
      key' ≠ key || registry.leaseActive context.leaseId }

/-- The registry after the contexts of a client session were looked up. -/
def afterContextsForSession (registry : AgentExecutionContextRegistry)
    (leaseId claudeSessionId : String) : AgentExecutionContextRegistry :=
  { registry with
    contexts := registry.contexts.filter fun key context =>
      !(agentSessionPrefix leaseId claudeSessionId).isPrefixOf key.toList ||
        registry.leaseActive context.leaseId }

/-- Every context of a lease is dropped. -/
def dropLease (registry : AgentExecutionContextRegistry) (leaseId : String) :
    AgentExecutionContextRegistry :=
  { registry with contexts := registry.contexts.filter fun _ context => context.leaseId ≠ leaseId }

end AgentExecutionContextRegistry

/-- A call on the registry, or a change of the leases that are active. -/
inductive ContextCall where
  | leases (active : String → Bool)
  | record (context : ExecutionContext)
  | resolve (leaseId claudeSessionId agentId : String)
  | mainContext (leaseId claudeSessionId : String)
  | contextsForSession (leaseId claudeSessionId : String)
  | dropLease (leaseId : String)

/-- What a call did or answered, with whether the lease it asked for was active. -/
inductive ContextEvent where
  | recorded (context : ExecutionContext)
  | resolved (leaseId claudeSessionId agentId : String) (active : Bool)
      (answer : Option ExecutionContext)
  | main (leaseId claudeSessionId : String) (active : Bool) (answer : Option ExecutionContext)
  | listed (leaseId claudeSessionId : String) (active : Bool) (answer : List ExecutionContext)
  | dropped (leaseId : String)

/-- The registry and what its calls did so far. -/
structure ContextHistory where
  registry : AgentExecutionContextRegistry
  events : List ContextEvent

namespace ContextHistory

/-- A registry without contexts. -/
def start (active : String → Bool) : ContextHistory := ⟨⟨.empty, active⟩, []⟩

/-- One call. A record of an empty id or of an inactive lease does nothing. -/
def step (history : ContextHistory) : ContextCall → Option ContextHistory
  | .leases active => some { history with registry.leaseActive := active }
  | .record context =>
      if context.agentId = "" ∨ context.claudeSessionId = "" ∨
          history.registry.leaseActive context.leaseId = false then some history
      else some ⟨history.registry.record context, history.events ++ [.recorded context]⟩
  | .resolve leaseId claudeSessionId agentId =>
      some ⟨history.registry.afterValid (agentSessionKey leaseId claudeSessionId agentId),
        history.events ++ [.resolved leaseId claudeSessionId agentId
          (history.registry.leaseActive leaseId)
          (history.registry.resolve leaseId claudeSessionId agentId)]⟩
  | .mainContext leaseId claudeSessionId =>
      some ⟨history.registry.afterContextsForSession leaseId claudeSessionId,
        history.events ++ [.main leaseId claudeSessionId (history.registry.leaseActive leaseId)
          (history.registry.mainContext leaseId claudeSessionId)]⟩
  | .contextsForSession leaseId claudeSessionId =>
      some ⟨history.registry.afterContextsForSession leaseId claudeSessionId,
        history.events ++ [.listed leaseId claudeSessionId (history.registry.leaseActive leaseId)
          (history.registry.contextsForSession leaseId claudeSessionId)]⟩
  | .dropLease leaseId =>
      some ⟨history.registry.dropLease leaseId, history.events ++ [.dropped leaseId]⟩

end ContextHistory

/-! ## Specification -/

/-- The context is one of a lease, a client session and an agent. -/
def ExecutionContext.OfAgent (context : ExecutionContext)
    (leaseId claudeSessionId agentId : String) : Prop :=
  (context.leaseId = leaseId ∧ context.claudeSessionId = claudeSessionId) ∧
    context.agentId = agentId

/-- What ends that a context is recorded: another one of its agent, a lookup that finds its lease
inactive, and that its lease is dropped. -/
def ExecutionContext.EndedBy (context : ExecutionContext) : ContextEvent → Prop
  | .recorded other => context.OfAgent other.leaseId other.claudeSessionId other.agentId
  | .resolved leaseId claudeSessionId agentId active _ =>
      active = false ∧ context.OfAgent leaseId claudeSessionId agentId
  | .main leaseId claudeSessionId active _ | .listed leaseId claudeSessionId active _ =>
      active = false ∧ context.leaseId = leaseId ∧ context.claudeSessionId = claudeSessionId
  | .dropped leaseId => context.leaseId = leaseId

/-- The context was the last one recorded of its agent, and nothing has ended that since. -/
def Recorded (events : List ContextEvent) (context : ExecutionContext) : Prop :=
  List.Since (fun _ event => event = .recorded context) (fun _ event => context.EndedBy event) events

/-- The lookups answer with what is recorded under exactly their ids, while the lease is active. -/
def Isolated (before : List ContextEvent) : ContextEvent → Prop
  | .resolved leaseId claudeSessionId agentId active answer =>
      ∀ context, answer = some context ↔
        Recorded before context ∧ context.OfAgent leaseId claudeSessionId agentId ∧ active = true
  | .main leaseId claudeSessionId active answer =>
      (∀ context, answer = some context → Recorded before context ∧
        (context.leaseId = leaseId ∧ context.claudeSessionId = claudeSessionId) ∧
          context.role = .main) ∧
      (answer = none → active = true → ∀ context, Recorded before context →
        context.leaseId = leaseId ∧ context.claudeSessionId = claudeSessionId → context.role ≠ .main)
  | .listed leaseId claudeSessionId active answer =>
      answer.Nodup ∧ ∀ context, context ∈ answer ↔ Recorded before context ∧
        (context.leaseId = leaseId ∧ context.claudeSessionId = claudeSessionId) ∧ active = true
  | .recorded _ | .dropped _ => True

/-- What is stored under the key of a call, or under its prefix, is of the ids of the call. -/
def ContextHistory.Apart (history : ContextHistory) : ContextCall → Prop
  | .record context => ∀ stored, history.registry.contexts.get? context.key = some stored →
      stored.OfAgent context.leaseId context.claudeSessionId context.agentId
  | .resolve leaseId claudeSessionId agentId => ∀ stored,
      history.registry.contexts.get? (agentSessionKey leaseId claudeSessionId agentId) =
        some stored → stored.OfAgent leaseId claudeSessionId agentId
  | .mainContext leaseId claudeSessionId | .contextsForSession leaseId claudeSessionId =>
      ∀ key stored, history.registry.contexts.get? key = some stored →
        agentSessionPrefix leaseId claudeSessionId <+: key.toList →
          stored.leaseId = leaseId ∧ stored.claudeSessionId = claudeSessionId
  | .leases _ | .dropLease _ => True

/-! ## Lookups -/

section Lookups

variable {registry : AgentExecutionContextRegistry} {leaseId claudeSessionId agentId : String}

theorem prefix_key (context : ExecutionContext) :
    agentSessionPrefix context.leaseId context.claudeSessionId <+: context.key.toList := by
  refine ⟨context.agentId.toList, ?_⟩
  simp [agentSessionPrefix, ExecutionContext.key, agentSessionKey]

theorem resolve_eq_some_iff {context : ExecutionContext} :
    registry.resolve leaseId claudeSessionId agentId = some context ↔
      registry.contexts.get? (agentSessionKey leaseId claudeSessionId agentId) = some context ∧
        registry.leaseActive context.leaseId = true := by
  rw [AgentExecutionContextRegistry.resolve, Option.filter_eq_some_iff]

theorem mem_contextsForSession_iff {context : ExecutionContext} :
    context ∈ registry.contextsForSession leaseId claudeSessionId ↔
      ∃ key, registry.contexts.get? key = some context ∧
        agentSessionPrefix leaseId claudeSessionId <+: key.toList ∧
          registry.leaseActive context.leaseId = true := by
  unfold AgentExecutionContextRegistry.contextsForSession
  rw [List.mem_map]
  constructor
  · rintro ⟨⟨key, _⟩, hentry, rfl⟩
    obtain ⟨hentry, hkept⟩ := List.mem_filter.1 hentry
    obtain ⟨hstarts, hactive⟩ := Bool.and_eq_true_iff.1 hkept
    exact ⟨key, OrderedMap.get?_eq_some.2 hentry, List.isPrefixOf_iff_prefix.1 hstarts, hactive⟩
  · rintro ⟨key, hget, hstarts, hactive⟩
    refine ⟨(key, context), List.mem_filter.2 ⟨OrderedMap.get?_eq_some.1 hget, ?_⟩, rfl⟩
    exact Bool.and_eq_true_iff.2 ⟨List.isPrefixOf_iff_prefix.2 hstarts, hactive⟩

/-- Contexts that are kept under their own keys are listed once. -/
theorem nodup_contextsForSession
    (hkeyed : ∀ key context, registry.contexts.get? key = some context → key = context.key) :
    (registry.contextsForSession leaseId claudeSessionId).Nodup := by
  unfold AgentExecutionContextRegistry.contextsForSession
  have hentries : registry.contexts.entries.Nodup := List.Nodup.of_map _ registry.contexts.nodup
  refine List.Nodup.map_on ?_ (hentries.filter _)
  rintro ⟨key, context⟩ hentry ⟨key', context'⟩ hentry' heq
  dsimp only at heq
  subst heq
  have hkey := hkeyed key context (OrderedMap.get?_eq_some.2 (List.mem_of_mem_filter hentry))
  have hkey' := hkeyed key' context (OrderedMap.get?_eq_some.2 (List.mem_of_mem_filter hentry'))
  rw [hkey, hkey']

end Lookups

/-! ## Steps -/

namespace ContextHistory

/-- The map holds exactly what is recorded, under its own keys, and the lookups so far were
isolated. -/
structure Sound (history : ContextHistory) : Prop where
  keyed : ∀ key context, history.registry.contexts.get? key = some context → key = context.key
  stored : ∀ context, Recorded history.events context ↔
    history.registry.contexts.get? context.key = some context
  isolated : history.events.Lawful Isolated

theorem sound_start (active : String → Bool) : (start active).Sound where
  keyed _ _ hget := by cases hget
  stored _ := iff_of_false List.not_since_nil (by rintro ⟨⟩)
  isolated := List.lawful_nil

variable {history : ContextHistory}

/-- A lookup, or a drop, leaves exactly what it does not end. -/
theorem Sound.filter (h : history.Sound) {kept : String → ExecutionContext → Bool}
    {event : ContextEvent} (hnew : ∀ context, event ≠ .recorded context)
    (hends : ∀ context, history.registry.contexts.get? context.key = some context →
      (kept context.key context = true ↔ ¬ context.EndedBy event))
    (hisolated : Isolated history.events event) :
    Sound ⟨{ history.registry with contexts := history.registry.contexts.filter kept },
      history.events ++ [event]⟩ where
  keyed := by
    intro key context hget
    rw [OrderedMap.get?_filter] at hget
    exact h.keyed key context (Option.filter_eq_some_iff.1 hget).1
  stored := by
    intro context
    rw [OrderedMap.get?_filter, Option.filter_eq_some_iff, Recorded, List.since_concat,
      or_iff_right (hnew context)]
    constructor
    · rintro ⟨hrecorded, hnot⟩
      have hget := (h.stored context).1 hrecorded
      exact ⟨hget, (hends context hget).2 hnot⟩
    · rintro ⟨hget, hkept⟩
      exact ⟨(h.stored context).2 hget, (hends context hget).1 hkept⟩
  isolated := List.lawful_concat.2 ⟨h.isolated, hisolated⟩

theorem Sound.leases (h : history.Sound) (active : String → Bool) :
    Sound { history with registry.leaseActive := active } :=
  ⟨h.keyed, h.stored, h.isolated⟩

/-- A new context takes the place of the one of its agent. -/
theorem Sound.record (h : history.Sound) {context : ExecutionContext}
    (hapart : history.Apart (.record context)) :
    Sound ⟨{ history.registry with
      contexts := history.registry.contexts.set context.key context },
        history.events ++ [.recorded context]⟩ where
  keyed := by
    intro key other hget
    rw [OrderedMap.get?_set] at hget
    split at hget
    · rename_i hkey
      cases hget
      exact hkey.symm
    · exact h.keyed key other hget
  stored := by
    intro other
    rw [OrderedMap.get?_set, Recorded, List.since_concat]
    constructor
    · rintro (hnew | ⟨hrecorded, hnot⟩)
      · cases hnew
        rw [if_pos rfl]
      · have hget := (h.stored other).1 hrecorded
        rw [if_neg]
        · exact hget
        · -- what had the key is of the same agent, and was ended
          intro hkey
          exact hnot (hapart other (hkey ▸ hget))
    · split
      · rintro ⟨⟩
        exact .inl rfl
      · rename_i hkey
        intro hget
        refine .inr ⟨(h.stored other).2 hget, ?_⟩
        rintro ⟨⟨hlease, hsession⟩, hagent⟩
        refine hkey ?_
        rw [ExecutionContext.key, ExecutionContext.key, hlease, hsession, hagent]
  isolated := List.lawful_concat.2 ⟨h.isolated, trivial⟩

theorem Sound.resolve (h : history.Sound) {leaseId claudeSessionId agentId : String}
    (hapart : history.Apart (.resolve leaseId claudeSessionId agentId)) :
    Sound ⟨history.registry.afterValid (agentSessionKey leaseId claudeSessionId agentId),
      history.events ++ [.resolved leaseId claudeSessionId agentId
        (history.registry.leaseActive leaseId)
        (history.registry.resolve leaseId claudeSessionId agentId)]⟩ := by
  refine h.filter (by rintro _ ⟨⟩) ?_ ?_
  · intro context hget
    rw [Bool.or_eq_true, decide_eq_true_eq]
    by_cases hkey : context.key = agentSessionKey leaseId claudeSessionId agentId
    · have hof := hapart context (hkey ▸ hget)
      simp [hkey, ExecutionContext.EndedBy, hof, hof.1.1]
    · refine iff_of_true (.inl hkey) ?_
      rintro ⟨-, ⟨hlease, hsession⟩, hagent⟩
      exact hkey (by rw [ExecutionContext.key, hlease, hsession, hagent])
  · intro context
    rw [resolve_eq_some_iff, h.stored]
    constructor
    · rintro ⟨hget, hactive⟩
      obtain ⟨⟨rfl, rfl⟩, rfl⟩ := hapart context hget
      exact ⟨hget, ⟨⟨rfl, rfl⟩, rfl⟩, hactive⟩
    · rintro ⟨hget, ⟨⟨rfl, rfl⟩, rfl⟩, hactive⟩
      exact ⟨hget, hactive⟩

/-- What a lookup of a client session finds is what is recorded of it. -/
theorem Sound.mem_contextsForSession_iff (h : history.Sound) {leaseId claudeSessionId : String}
    (hapart : history.Apart (.contextsForSession leaseId claudeSessionId))
    {context : ExecutionContext} :
    context ∈ history.registry.contextsForSession leaseId claudeSessionId ↔
      Recorded history.events context ∧
        (context.leaseId = leaseId ∧ context.claudeSessionId = claudeSessionId) ∧
          history.registry.leaseActive leaseId = true := by
  rw [RlyGateway.mem_contextsForSession_iff, h.stored]
  constructor
  · rintro ⟨key, hget, hstarts, hactive⟩
    obtain ⟨rfl, rfl⟩ := hapart key context hget hstarts
    rw [← h.keyed _ _ hget]
    exact ⟨hget, ⟨rfl, rfl⟩, hactive⟩
  · rintro ⟨hget, ⟨rfl, rfl⟩, hactive⟩
    exact ⟨context.key, hget, prefix_key context, hactive⟩

/-- A lookup of a client session drops its contexts exactly where its lease is not active. -/
theorem Sound.afterContextsForSession (h : history.Sound) {leaseId claudeSessionId : String}
    (hapart : history.Apart (.contextsForSession leaseId claudeSessionId)) {event : ContextEvent}
    (hnew : ∀ context, event ≠ .recorded context)
    (hends : ∀ context : ExecutionContext, context.EndedBy event ↔
      history.registry.leaseActive leaseId = false ∧
        context.leaseId = leaseId ∧ context.claudeSessionId = claudeSessionId)
    (hisolated : Isolated history.events event) :
    Sound ⟨history.registry.afterContextsForSession leaseId claudeSessionId,
      history.events ++ [event]⟩ := by
  refine h.filter hnew ?_ hisolated
  intro context hget
  rw [hends, Bool.or_eq_true, Bool.not_eq_true', Bool.eq_false_iff, Ne,
    List.isPrefixOf_iff_prefix]
  by_cases hstarts : agentSessionPrefix leaseId claudeSessionId <+: context.key.toList
  · have hof := hapart context.key context hget hstarts
    simp [hstarts, hof]
  · refine iff_of_true (.inl hstarts) ?_
    rintro ⟨-, rfl, rfl⟩
    exact hstarts (prefix_key context)

theorem Sound.contextsForSession (h : history.Sound) {leaseId claudeSessionId : String}
    (hapart : history.Apart (.contextsForSession leaseId claudeSessionId)) :
    Sound ⟨history.registry.afterContextsForSession leaseId claudeSessionId,
      history.events ++ [.listed leaseId claudeSessionId (history.registry.leaseActive leaseId)
        (history.registry.contextsForSession leaseId claudeSessionId)]⟩ := by
  refine h.afterContextsForSession hapart (by rintro _ ⟨⟩) (fun _ => Iff.rfl) ⟨?_, ?_⟩
  · exact nodup_contextsForSession h.keyed
  · exact fun context => h.mem_contextsForSession_iff hapart

theorem Sound.mainContext (h : history.Sound) {leaseId claudeSessionId : String}
    (hapart : history.Apart (.mainContext leaseId claudeSessionId)) :
    Sound ⟨history.registry.afterContextsForSession leaseId claudeSessionId,
      history.events ++ [.main leaseId claudeSessionId (history.registry.leaseActive leaseId)
        (history.registry.mainContext leaseId claudeSessionId)]⟩ := by
  refine h.afterContextsForSession hapart (by rintro _ ⟨⟩) (fun _ => Iff.rfl) ⟨?_, ?_⟩
  · intro context hmain
    obtain ⟨hmem, hrole⟩ := List.find?_decide_eq_some hmain
    obtain ⟨hrecorded, hof, -⟩ := (h.mem_contextsForSession_iff hapart).1 hmem
    exact ⟨hrecorded, hof, hrole⟩
  · intro hnone hactive context hrecorded hof hrole
    have hmem := (h.mem_contextsForSession_iff hapart).2 ⟨hrecorded, hof, hactive⟩
    exact absurd (decide_eq_true hrole) (List.find?_eq_none.1 hnone context hmem)

theorem Sound.dropLease (h : history.Sound) (leaseId : String) :
    Sound ⟨history.registry.dropLease leaseId, history.events ++ [.dropped leaseId]⟩ :=
  h.filter (by rintro _ ⟨⟩) (fun _ _ => decide_eq_true_iff) trivial

/-- A call that finds only contexts of its own ids keeps the history sound. -/
theorem Sound.step (h : history.Sound) {call : ContextCall} (hapart : history.Apart call)
    {history' : ContextHistory} (hstep : history.step call = some history') : history'.Sound := by
  cases call with
  | leases active =>
      cases hstep
      exact h.leases active
  | record context =>
      simp only [ContextHistory.step] at hstep
      split at hstep
      · cases hstep
        exact h
      · rename_i haccepted
        cases hstep
        have hrecord : history.registry.record context = { history.registry with
            contexts := history.registry.contexts.set context.key context } := by
          simp only [not_or, Bool.not_eq_false] at haccepted
          unfold AgentExecutionContextRegistry.record
          simp [haccepted, ExecutionContext.key]
        rw [hrecord]
        exact h.record hapart
  | resolve leaseId claudeSessionId agentId =>
      cases hstep
      exact h.resolve hapart
  | mainContext leaseId claudeSessionId =>
      cases hstep
      exact h.mainContext hapart
  | contextsForSession leaseId claudeSessionId =>
      cases hstep
      exact h.contextsForSession hapart
  | dropLease leaseId =>
      cases hstep
      exact h.dropLease leaseId

/-! ## Runs -/

/-- Where every call finds only contexts of its own ids, no context crosses sessions. -/
theorem isolated_of_run {active : String → Bool} {calls : List ContextCall}
    (hrun : List.run step (start active) calls = some history)
    (hapart : List.Along Apart step (start active) calls) :
    history.events.Lawful Isolated := by
  have hsound : List.Along Apart step (start active) calls → history.Sound := by
    refine List.run_induction (motive := fun calls history =>
      List.Along Apart step (start active) calls → history.Sound) ?_ ?_ hrun
    · exact fun _ => sound_start active
    · intro calls before call after hbefore ih hstep halong
      obtain ⟨hcalls, hcall⟩ := (List.along_concat hbefore).1 halong
      exact (ih hcalls).step hcall hstep
  exact (hsound hapart).isolated

end ContextHistory

/-! ## Ids without bars -/

/-- The lease and the client session of a call have no bar. The agent may have any. -/
def ContextCall.WithoutBars : ContextCall → Prop
  | .record context => '|' ∉ context.leaseId.toList ∧ '|' ∉ context.claudeSessionId.toList
  | .resolve leaseId claudeSessionId _ | .mainContext leaseId claudeSessionId
  | .contextsForSession leaseId claudeSessionId =>
      '|' ∉ leaseId.toList ∧ '|' ∉ claudeSessionId.toList
  | .leases _ | .dropLease _ => True

theorem toList_agentSessionKey (leaseId claudeSessionId agentId : String) :
    (agentSessionKey leaseId claudeSessionId agentId).toList =
      leaseId.toList ++ '|' :: (claudeSessionId.toList ++ '|' :: agentId.toList) := by
  simp [agentSessionKey]

/-- Behind the bars of a key, lease, client session and agent are cut in one way. -/
theorem ids_of_cut {leaseId claudeSessionId leaseId' claudeSessionId' : String}
    {rest rest' : List Char}
    (h : leaseId.toList ++ '|' :: (claudeSessionId.toList ++ '|' :: rest) =
      leaseId'.toList ++ '|' :: (claudeSessionId'.toList ++ '|' :: rest'))
    (hlease : '|' ∉ leaseId.toList) (hsession : '|' ∉ claudeSessionId.toList)
    (hlease' : '|' ∉ leaseId'.toList) (hsession' : '|' ∉ claudeSessionId'.toList) :
    (leaseId = leaseId' ∧ claudeSessionId = claudeSessionId') ∧ rest = rest' := by
  obtain ⟨hleases, hrest⟩ := List.first_cut_unique h hlease hlease'
  obtain ⟨hsessions, hrest⟩ := List.first_cut_unique hrest hsession hsession'
  exact ⟨⟨String.toList_inj.1 hleases, String.toList_inj.1 hsessions⟩, hrest⟩

namespace ContextHistory

/-- What is stored is under its own key, whose lease and client session have no bar. -/
def StoresWithoutBars (history : ContextHistory) : Prop :=
  ∀ key context, history.registry.contexts.get? key = some context →
    key = context.key ∧ '|' ∉ context.leaseId.toList ∧ '|' ∉ context.claudeSessionId.toList

variable {history : ContextHistory}

theorem StoresWithoutBars.filter (h : history.StoresWithoutBars)
    (kept : String → ExecutionContext → Bool) (events : List ContextEvent) :
    StoresWithoutBars ⟨{ history.registry with
      contexts := history.registry.contexts.filter kept }, events⟩ := by
  intro key context hget
  rw [OrderedMap.get?_filter] at hget
  exact h key context (Option.filter_eq_some_iff.1 hget).1

theorem StoresWithoutBars.step (h : history.StoresWithoutBars) {call : ContextCall}
    (hcall : call.WithoutBars) {history' : ContextHistory}
    (hstep : history.step call = some history') : history'.StoresWithoutBars := by
  cases call with
  | leases active =>
      cases hstep
      exact h
  | record context =>
      simp only [ContextHistory.step] at hstep
      split at hstep
      · cases hstep
        exact h
      · cases hstep
        intro key other hget
        unfold AgentExecutionContextRegistry.record at hget
        split at hget
        · exact h key other hget
        split at hget
        · exact h key other hget
        · rw [OrderedMap.get?_set] at hget
          split at hget
          · rename_i hkey
            cases hget
            exact ⟨hkey.symm, hcall⟩
          · exact h key other hget
  | resolve leaseId claudeSessionId agentId =>
      cases hstep
      exact h.filter _ _
  | mainContext leaseId claudeSessionId =>
      cases hstep
      exact h.filter _ _
  | contextsForSession leaseId claudeSessionId =>
      cases hstep
      exact h.filter _ _
  | dropLease leaseId =>
      cases hstep
      exact h.filter _ _

/-- The keys of calls without bars are those of their own ids only. -/
theorem StoresWithoutBars.apart (h : history.StoresWithoutBars) {call : ContextCall}
    (hcall : call.WithoutBars) : history.Apart call := by
  have hkeys : ∀ leaseId claudeSessionId agentId, '|' ∉ leaseId.toList →
      '|' ∉ claudeSessionId.toList → ∀ stored, history.registry.contexts.get?
        (agentSessionKey leaseId claudeSessionId agentId) = some stored →
          stored.OfAgent leaseId claudeSessionId agentId := by
    intro leaseId claudeSessionId agentId hlease hsession stored hget
    obtain ⟨hkey, hlease', hsession'⟩ := h _ stored hget
    have hchars := congrArg String.toList hkey.symm
    rw [ExecutionContext.key, toList_agentSessionKey, toList_agentSessionKey] at hchars
    obtain ⟨hids, hagent⟩ := ids_of_cut hchars hlease' hsession' hlease hsession
    exact ⟨hids, String.toList_inj.1 hagent⟩
  have hprefixes : ∀ leaseId claudeSessionId, '|' ∉ leaseId.toList →
      '|' ∉ claudeSessionId.toList → ∀ key stored,
        history.registry.contexts.get? key = some stored →
          agentSessionPrefix leaseId claudeSessionId <+: key.toList →
            stored.leaseId = leaseId ∧ stored.claudeSessionId = claudeSessionId := by
    rintro leaseId claudeSessionId hlease hsession key stored hget ⟨rest, hrest⟩
    obtain ⟨rfl, hlease', hsession'⟩ := h key stored hget
    rw [ExecutionContext.key, toList_agentSessionKey] at hrest
    have hcut : stored.leaseId.toList ++ '|' ::
        (stored.claudeSessionId.toList ++ '|' :: stored.agentId.toList) =
          leaseId.toList ++ '|' :: (claudeSessionId.toList ++ '|' :: rest) := by
      rw [← hrest]
      simp [agentSessionPrefix]
    exact (ids_of_cut hcut hlease' hsession' hlease hsession).1
  cases call with
  | leases active => trivial
  | record context => exact hkeys _ _ _ hcall.1 hcall.2
  | resolve leaseId claudeSessionId agentId => exact hkeys _ _ _ hcall.1 hcall.2
  | mainContext leaseId claudeSessionId => exact hprefixes _ _ hcall.1 hcall.2
  | contextsForSession leaseId claudeSessionId => exact hprefixes _ _ hcall.1 hcall.2
  | dropLease leaseId => trivial

/-- Where no lease and no client session has a bar, every call finds only contexts of its own ids. -/
theorem along_apart_of_withoutBars (active : String → Bool) {calls : List ContextCall}
    (hcalls : ∀ call ∈ calls, call.WithoutBars) :
    List.Along Apart step (start active) calls := by
  rintro before call after history rfl hrun
  have hstores : (∀ call ∈ before, call.WithoutBars) → history.StoresWithoutBars := by
    refine List.run_induction (motive := fun calls history =>
      (∀ call ∈ calls, call.WithoutBars) → history.StoresWithoutBars) ?_ ?_ hrun
    · rintro - _ _ ⟨⟩
    · intro calls t input t' _ ih hstep hall
      have hearlier : ∀ call ∈ calls, call.WithoutBars :=
        fun call hcall => hall call (List.mem_append_left _ hcall)
      exact (ih hearlier).step (hall input (by simp)) hstep
  have hbefore : ∀ call ∈ before, call.WithoutBars :=
    fun call hcall => hcalls call (List.mem_append_left _ hcall)
  exact (hstores hbefore).apart (hcalls call (by simp))

end ContextHistory

/-! ## Sessions with bars -/

/-- The context of an agent of a lease. -/
def contextOf (claudeSessionId agentId : String) : ExecutionContext :=
  ⟨claudeSessionId, agentId, none, .main, "lease", "profile", "default", "codex", "gpt-5.4",
    some "openai/codex", none, none, none⟩

/-- The contexts of two sessions are recorded and looked up. -/
def twoSessions (first second agentId : String) : List ContextCall :=
  [.record (contextOf first "agent"), .record (contextOf second "agent"),
    .resolve "lease" second agentId, .contextsForSession "lease" first, .dropLease "lease",
    .mainContext "lease" first]

theorem isolated_twoSessions : ∃ history,
    List.run ContextHistory.step (.start fun _ => true) (twoSessions "one" "two" "agent") =
        some history ∧ history.events.Lawful Isolated := by
  have hbars : ∀ call ∈ twoSessions "one" "two" "agent", call.WithoutBars := by
    simp [twoSessions, contextOf, ContextCall.WithoutBars]
  have hrun : List.run ContextHistory.step (.start fun _ => true)
      (twoSessions "one" "two" "agent") = some _ := rfl
  exact ⟨_, hrun, ContextHistory.isolated_of_run hrun
    (ContextHistory.along_apart_of_withoutBars _ hbars)⟩

/-- A session is given the context that another one has recorded. -/
theorem isolated_violated :
    ¬ ∀ (active : String → Bool) (calls : List ContextCall) (history : ContextHistory),
      List.run ContextHistory.step (.start active) calls = some history →
        history.events.Lawful Isolated := by
  intro h
  have hlawful := h (fun _ => true)
    [.record (contextOf "one|two" "agent"), .resolve "lease" "one" "two|agent"] _ rfl
  have hanswer := (hlawful.of_getElem? (i := 1) rfl (contextOf "one|two" "agent")).1 rfl
  exact absurd hanswer.2.1.1.2 (by decide)

end RlyGateway
