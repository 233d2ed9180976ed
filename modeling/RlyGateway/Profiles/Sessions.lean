import Mathlib.Data.List.Induction
import RlyGateway.Core.Runtime
import RlyGateway.Library.OrderedMap

/-!
# Launch sessions

`src/profiles/sessions.ts`: the registry of child tokens, each bound to a lease and a profile. A
session is found by the digest of its token, and only while its lease is active.
-/

namespace RlyGateway

/-- A session and the lease that it is bound to. -/
structure LeasedSession (Session : Type) where
  leaseId : String
  session : Session

/-- The sessions by the digest of their tokens. -/
abbrev LaunchSessionRegistry (Session : Type) := OrderedMap String (LeasedSession Session)

variable {Session : Type}

def tokenHash (runtime : NodeRuntime) (token : String) : String := runtime.sha256Hex token

namespace LaunchSessionRegistry

/-- A session is issued under a fresh token, while its lease is active. -/
def issue (runtime : NodeRuntime) (leaseActive : String → Bool) (token : String)
    (session : LeasedSession Session) (registry : LaunchSessionRegistry Session) :
    Except String (LaunchSessionRegistry Session) :=
  if !leaseActive session.leaseId then .error "lease-not-active"
  else .ok (registry.set (tokenHash runtime token) session)

/-- The session of a token. One whose lease has ended is removed. -/
def resolve (runtime : NodeRuntime) (leaseActive : String → Bool) (token : String)
    (registry : LaunchSessionRegistry Session) :
    Option (LeasedSession Session) × LaunchSessionRegistry Session :=
  match registry.get? (tokenHash runtime token) with
  | none => (none, registry)
  | some session =>
      if leaseActive session.leaseId then (some session, registry)
      else (none, registry.erase (tokenHash runtime token))

def dropLease (leaseId : String) (registry : LaunchSessionRegistry Session) :
    LaunchSessionRegistry Session :=
  registry.entries.foldl (fun registry entry =>
    if entry.2.leaseId = leaseId then registry.erase entry.1 else registry) registry

end LaunchSessionRegistry

/-! ## Histories -/

/-- A call of the registry, with the leases that are active at the time. -/
inductive SessionEvent (Session : Type) where
  | issue (token : String) (session : LeasedSession Session) (leaseActive : String → Bool)
  | resolve (token : String) (leaseActive : String → Bool)
  | dropLease (leaseId : String)

/-- The registry after a call. -/
def SessionEvent.apply (runtime : NodeRuntime) (registry : LaunchSessionRegistry Session) :
    SessionEvent Session → LaunchSessionRegistry Session
  | .issue token session leaseActive =>
      match registry.issue runtime leaseActive token session with
      | .ok registry => registry
      | .error _ => registry
  | .resolve token leaseActive => (registry.resolve runtime leaseActive token).2
  | .dropLease leaseId => registry.dropLease leaseId

/-- The registry of a gateway after the calls made so far. -/
def registryAfter (runtime : NodeRuntime) (events : List (SessionEvent Session)) :
    LaunchSessionRegistry Session :=
  events.foldl (SessionEvent.apply runtime) .empty

/-- The token was issued for a session whose lease was active then and has not been dropped since. -/
def Issued (events : List (SessionEvent Session)) (token : String)
    (session : LeasedSession Session) : Prop :=
  ∃ before after leaseActive, events = before ++ .issue token session leaseActive :: after ∧
    leaseActive session.leaseId = true ∧ .dropLease session.leaseId ∉ after

theorem Issued.concat {events : List (SessionEvent Session)} {token : String}
    {session : LeasedSession Session} (h : Issued events token session)
    {event : SessionEvent Session} (hevent : event ≠ .dropLease session.leaseId) :
    Issued (events ++ [event]) token session := by
  obtain ⟨before, after, leaseActive, rfl, hactive, hafter⟩ := h
  refine ⟨before, after ++ [event], leaseActive, by simp, hactive, ?_⟩
  rw [List.mem_append, List.mem_singleton, not_or]
  exact ⟨hafter, hevent.symm⟩

theorem issued_concat_issue {events : List (SessionEvent Session)} {token : String}
    {session : LeasedSession Session} {leaseActive : String → Bool}
    (hactive : leaseActive session.leaseId = true) :
    Issued (events ++ [.issue token session leaseActive]) token session :=
  ⟨events, [], leaseActive, rfl, hactive, List.not_mem_nil⟩

/-- Dropping a lease keeps the sessions of the others only. -/
theorem get?_dropLease {registry : LaunchSessionRegistry Session} {leaseId hash : String}
    {session : LeasedSession Session} (h : (registry.dropLease leaseId).get? hash = some session) :
    registry.get? hash = some session ∧ session.leaseId ≠ leaseId := by
  have hfold : ∀ (entries : List (String × LeasedSession Session))
      (kept : LaunchSessionRegistry Session),
      (entries.foldl (fun registry entry =>
        if entry.2.leaseId = leaseId then registry.erase entry.1 else registry) kept).get? hash =
          some session →
        kept.get? hash = some session ∧
          ∀ entry ∈ entries, entry.1 = hash → entry.2.leaseId ≠ leaseId := by
    intro entries
    induction entries with
    | nil => exact fun kept h => ⟨h, fun entry hentry => absurd hentry List.not_mem_nil⟩
    | cons entry entries ih =>
        intro kept h
        obtain ⟨hkept, hrest⟩ := ih _ h
        dsimp only at hkept
        by_cases hlease : entry.2.leaseId = leaseId
        · rw [if_pos hlease, OrderedMap.get?_erase] at hkept
          split at hkept
          · cases hkept
          · rename_i hne
            exact ⟨hkept, List.forall_mem_cons.2 ⟨fun heq => absurd heq hne, hrest⟩⟩
        · rw [if_neg hlease] at hkept
          exact ⟨hkept, List.forall_mem_cons.2 ⟨fun _ => hlease, hrest⟩⟩
  obtain ⟨hget, hothers⟩ := hfold registry.entries registry h
  exact ⟨hget, hothers (hash, session) (OrderedMap.get?_eq_some.1 hget) rfl⟩

/-- A session of the registry was issued under a token with its digest. -/
theorem exists_issued (runtime : NodeRuntime) (events : List (SessionEvent Session)) {hash : String}
    {session : LeasedSession Session}
    (h : (registryAfter runtime events).get? hash = some session) :
    ∃ token, tokenHash runtime token = hash ∧ Issued events token session := by
  induction events using List.reverseRecOn generalizing session with
  | nil => cases h
  | append_singleton events event ih =>
      rw [registryAfter, List.foldl_append] at h
      have hkept : (registryAfter runtime events).get? hash = some session →
          event ≠ .dropLease session.leaseId →
          ∃ token, tokenHash runtime token = hash ∧ Issued (events ++ [event]) token session :=
        fun hget hevent =>
          (ih hget).imp fun token htoken => ⟨htoken.1, htoken.2.concat hevent⟩
      cases event with
      | issue token issued leaseActive =>
          simp only [List.foldl_cons, List.foldl_nil, SessionEvent.apply,
            LaunchSessionRegistry.issue] at h
          by_cases hactive : leaseActive issued.leaseId = true
          · simp only [hactive, Bool.not_true, Bool.false_eq_true, if_false] at h
            rw [OrderedMap.get?_set] at h
            split at h
            · rename_i hhash
              cases h
              exact ⟨token, hhash, issued_concat_issue hactive⟩
            · exact hkept h (by simp)
          · simp only [hactive, Bool.not_false, if_true] at h
            exact hkept h (by simp)
      | resolve token leaseActive =>
          refine hkept ?_ (by simp)
          simp only [List.foldl_cons, List.foldl_nil, SessionEvent.apply,
            LaunchSessionRegistry.resolve] at h
          split at h
          · exact h
          · split at h
            · exact h
            · rw [OrderedMap.get?_erase] at h
              split at h
              · cases h
              · exact h
      | dropLease leaseId =>
          obtain ⟨hget, hlease⟩ := get?_dropLease h
          refine hkept hget fun heq => ?_
          cases heq
          exact hlease rfl

/-- A session that is found for a token was issued, and its lease is active. -/
theorem exists_issued_of_resolve (runtime : NodeRuntime) (events : List (SessionEvent Session))
    {leaseActive : String → Bool} {token : String} {session : LeasedSession Session}
    (h : ((registryAfter runtime events).resolve runtime leaseActive token).1 = some session) :
    leaseActive session.leaseId = true ∧
      ∃ issued, tokenHash runtime issued = tokenHash runtime token ∧
        Issued events issued session := by
  unfold LaunchSessionRegistry.resolve at h
  split at h
  · cases h
  · rename_i found hfound
    split at h
    · rename_i hactive
      cases h
      exact ⟨hactive, exists_issued runtime events hfound⟩
    · cases h

end RlyGateway
