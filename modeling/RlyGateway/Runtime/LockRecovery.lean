import Mathlib.Logic.Relation
import RlyGateway.Core.Runtime
import RlyGateway.Runtime.LockRecords

/-!
# Locks of crashed processes

A process creates the lock file empty, writes its record into it and removes the file when it is
done; it may stop after any of these steps. A later process finds what is left: it takes the lock if
there is no file, or if the file reads as a record whose owner is gone.
-/

namespace RlyGateway

/-- Why a lock is not acquired: it is held, or its file is not what a lock file has to be. -/
inductive LockFailure where
  | unavailable (message : String)
  | malformed
deriving DecidableEq, Repr

/-- How an acquisition ends, and the lock file behind it. -/
abbrev Acquisition := Except LockFailure Unit × Option String

variable (runtime : NodeRuntime) (formats : LockFormats)

/-! ## The update lock -/

namespace UpdateStateStore

/-- Whether the owner of a lock is taken to be alive. -/
def ownerAlive (ownPid : ℕ) (processIdentityLookup : Option (ℕ → Option String))
    (lock : LockRecord) : Bool :=
  if lock.owner.pid = ownPid then true
  else if lock.owner.identityVerified = some false then true
  else
    match processIdentityLookup with
    | none => true
    | some lookup =>
        match lookup lock.owner.pid with
        | none => false
        | some startedAt => decide (startedAt = lock.owner.processStartedAt)

/-- The record of a file and the hash of its contents. -/
def readJsonIfPresent (contents : String) : Option (LockRecord × String) := do
  let value ← Json.parse contents
  let lock ← updateLockSchema formats value
  some (lock, runtime.sha256Hex contents)

/-- The file, removed if its contents still have a hash. -/
def unlinkIfUnchanged (expectedHash : String) (file : Option String) : Option String :=
  file.filter fun current => runtime.sha256Hex current ≠ expectedHash

/-- The attempts of an acquisition that nothing else runs beside. -/
def acquireLock (ownPid : ℕ) (processIdentityLookup : Option (ℕ → Option String))
    (lock : LockRecord) : ℕ → Option String → Acquisition
  | 0, file => (.error (.unavailable "the RLY update lock could not be acquired"), file)
  | _ + 1, none => (.ok (), some (lockText lock))
  | attempts + 1, some contents =>
      match readJsonIfPresent runtime formats contents with
      | none => (.error .malformed, some contents)
      | some (existing, contentsHash) =>
          if ownerAlive ownPid processIdentityLookup existing then
            (.error (.unavailable
              "another RLY update is already in progress; wait for it to finish"), some contents)
          else
            acquireLock ownPid processIdentityLookup lock attempts
              (unlinkIfUnchanged runtime contentsHash (some contents))

end UpdateStateStore

/-! ## The locks of the runtime store -/

namespace RuntimeStore

/-- The record of a file, if it reads as one, and the hash of its contents. -/
def readLockIfPresent (contents : String) : Option LockRecord × String :=
  ((Json.parse contents).bind (startupLockSchema formats), runtime.sha256Hex contents)

/-- The file, removed if it is JSON whose text still has a hash; what is not JSON is an error. -/
def unlinkIfUnchanged (expectedHash contents : String) : Option (Option String) :=
  (Json.parse contents).map fun _ =>
    if runtime.sha256Hex contents = expectedHash then none else some contents

/-- The attempts of an acquisition that nothing else runs beside. -/
def acquireLock (name : String) (attestStaleLock : Option (Option LockRecord → Bool))
    (lock : LockRecord) : ℕ → Option String → Acquisition
  | 0, file => (.error (.unavailable ("runtime lock could not be acquired: " ++ name)), file)
  | _ + 1, none => (.ok (), some (lockText lock))
  | attempts + 1, some contents =>
      let existing := readLockIfPresent runtime formats contents
      match attestStaleLock with
      | none => (.error (.unavailable ("runtime lock is held: " ++ name)), some contents)
      | some attest =>
          if attest existing.1 = false then
            (.error (.unavailable ("runtime lock is held: " ++ name)), some contents)
          else
            match unlinkIfUnchanged runtime existing.2 contents with
            | none => (.error .malformed, some contents)
            | some file => acquireLock name attestStaleLock lock attempts file

end RuntimeStore

/-! ## What a crash leaves -/

/-- What a process does to the lock file while it acquires or releases its lock. -/
inductive LockFileStep (lock : LockRecord) : Option String → Option String → Prop where
  | create : LockFileStep lock none (some (writtenPart lock 0))
  | write {written more : ℕ} (hle : written ≤ more) :
      LockFileStep lock (some (writtenPart lock written)) (some (writtenPart lock more))
  | reclaim (contents : String) : LockFileStep lock (some contents) none
  | release : LockFileStep lock (some (lockText lock)) none

/-- What processes that are gone have left, each stopped somewhere in its steps. -/
def LeftBehind (crashed : List LockRecord) (file : Option String) : Prop :=
  Relation.ReflTransGen (fun before after => ∃ lock ∈ crashed, LockFileStep lock before after) none
    file

/-- There is no file, or one with the beginning of a record. -/
theorem LeftBehind.cases {crashed : List LockRecord} {file : Option String}
    (h : LeftBehind crashed file) :
    file = none ∨ ∃ lock ∈ crashed, ∃ written, file = some (writtenPart lock written) := by
  induction h with
  | refl => exact .inl rfl
  | tail _ hstep _ =>
      obtain ⟨lock, hmem, hstep⟩ := hstep
      cases hstep with
      | create => exact .inr ⟨lock, hmem, 0, rfl⟩
      | write hle => exact .inr ⟨lock, hmem, _, rfl⟩
      | reclaim contents => exact .inl rfl
      | release => exact .inl rfl

/-! ## Recovery -/

variable {runtime} {formats}

/-- A later process takes over the update lock from a valid record whose owner is not alive. -/
theorem UpdateStateStore.acquireLock_of_written {ownPid : ℕ} {lookup : ℕ → Option String}
    {own lock : LockRecord} (hvalid : lock.Valid formats)
    {written : ℕ} (hle : (lockText lock).length ≤ written + 1) (attempts : ℕ) :
    (acquireLock runtime formats ownPid (some lookup) own (attempts + 2)
        (some (writtenPart lock written))).1 = .ok () ↔
      ownerAlive ownPid (some lookup) lock = false := by
  have hread : readJsonIfPresent runtime formats (writtenPart lock written) =
      some (lock, runtime.sha256Hex (writtenPart lock written)) := by
    unfold readJsonIfPresent
    rw [parse_writtenPart_of_le hle, Option.bind_eq_bind, Option.bind_some,
      updateLockSchema_fields hvalid]
    rfl
  rw [acquireLock, hread]
  dsimp only
  cases halive : ownerAlive ownPid (some lookup) lock with
  | true => simp
  | false =>
      rw [unlinkIfUnchanged, Option.filter_some, if_neg (by simp)]
      simp [acquireLock]

/-- The beginning of a record is no lock that a later process takes over. -/
theorem UpdateStateStore.acquireLock_of_cut {ownPid : ℕ} {lookup : Option (ℕ → Option String)}
    {own lock : LockRecord} {written : ℕ} (hlt : written + 1 < (lockText lock).length)
    (attempts : ℕ) :
    acquireLock runtime formats ownPid lookup own (attempts + 1) (some (writtenPart lock written)) =
      (.error .malformed, some (writtenPart lock written)) := by
  rw [acquireLock, readJsonIfPresent, parse_writtenPart_of_lt hlt]
  rfl

/-- A later process takes over a lock of the runtime store from a record that is attested to be
stale. -/
theorem RuntimeStore.acquireLock_of_written {name : String} {attest : Option LockRecord → Bool}
    {own lock : LockRecord} (hvalid : lock.Valid formats)
    (hattest : attest (some { lock with owner := { lock.owner with identityVerified := none } }) =
      true)
    {written : ℕ} (hle : (lockText lock).length ≤ written + 1) (attempts : ℕ) :
    (acquireLock runtime formats name (some attest) own (attempts + 2)
        (some (writtenPart lock written))).1 = .ok () := by
  have hread : readLockIfPresent runtime formats (writtenPart lock written) =
      (some { lock with owner := { lock.owner with identityVerified := none } },
        runtime.sha256Hex (writtenPart lock written)) := by
    unfold readLockIfPresent
    rw [parse_writtenPart_of_le hle, Option.bind_some, startupLockSchema_fields hvalid]
  rw [acquireLock, hread]
  dsimp only
  rw [hattest, if_neg (by decide), unlinkIfUnchanged, parse_writtenPart_of_le hle, Option.map_some,
    if_pos rfl]
  rfl

/-- The beginning of a record is attested to be stale and then refused. -/
theorem RuntimeStore.acquireLock_of_cut {name : String} {attest : Option LockRecord → Bool}
    {own lock : LockRecord} (hattest : attest none = true) {written : ℕ}
    (hlt : written + 1 < (lockText lock).length) (attempts : ℕ) :
    acquireLock runtime formats name (some attest) own (attempts + 1)
        (some (writtenPart lock written)) =
      (.error .malformed, some (writtenPart lock written)) := by
  have hread : readLockIfPresent runtime formats (writtenPart lock written) =
      (none, runtime.sha256Hex (writtenPart lock written)) := by
    unfold readLockIfPresent
    rw [parse_writtenPart_of_lt hlt, Option.bind_none]
  rw [acquireLock, hread]
  dsimp only
  rw [hattest, if_neg (by decide), unlinkIfUnchanged, parse_writtenPart_of_lt hlt]
  rfl

/-- What a later process knows of processes that are gone: it has another process id than they had,
no process with the identity of one of them is found, and every record that cannot be read or is of
one of them is attested to be stale. -/
structure KnowsGone (crashed : List LockRecord) (ownPid : ℕ) (lookup : ℕ → Option String)
    (attest : Option LockRecord → Bool) : Prop where
  ownPid : ∀ lock ∈ crashed, lock.owner.pid ≠ ownPid
  lookup : ∀ lock ∈ crashed, lookup lock.owner.pid ≠ some lock.owner.processStartedAt
  unreadable : attest none = true
  stale : ∀ lock ∈ crashed,
    attest (some { lock with owner := { lock.owner with identityVerified := none } }) = true

/-- A process that is gone is not taken to be alive, if it had read its own identity. -/
theorem UpdateStateStore.ownerAlive_eq_false_iff {crashed : List LockRecord} {ownPid : ℕ}
    {lookup : ℕ → Option String} {attest : Option LockRecord → Bool}
    (hgone : KnowsGone crashed ownPid lookup attest) {lock : LockRecord} (hmem : lock ∈ crashed) :
    ownerAlive ownPid (some lookup) lock = false ↔ lock.owner.identityVerified ≠ some false := by
  unfold ownerAlive
  rw [if_neg (hgone.ownPid lock hmem)]
  by_cases hverified : lock.owner.identityVerified = some false
  · simp [hverified]
  · rw [if_neg hverified]
    have hlookup := hgone.lookup lock hmem
    cases hfound : lookup lock.owner.pid with
    | none => simp [hverified, hfound]
    | some startedAt =>
        rw [hfound] at hlookup
        have hne : startedAt ≠ lock.owner.processStartedAt := fun heq => hlookup (by rw [heq])
        simp [hverified, hfound, hne]

/-- A crashed process has left a file with only a part of its record in it. -/
def LeftUnreadable (crashed : List LockRecord) (file : Option String) : Prop :=
  ∃ lock ∈ crashed, ∃ written, file = some (writtenPart lock written) ∧
    written + 1 < (lockText lock).length

/-- A later process acquires a lock exactly if the crash left no file with only a part of a record in
it and, for the update lock, no record whose owner had not read its own identity. -/
theorem acquireLock_after_crash_iff {crashed : List LockRecord} {file : Option String}
    (hvalid : ∀ lock ∈ crashed, lock.Valid formats) (hleft : LeftBehind crashed file)
    {ownPid : ℕ} {lookup : ℕ → Option String} {attest : Option LockRecord → Bool}
    (hgone : KnowsGone crashed ownPid lookup attest) (own : LockRecord) (name : String) :
    ((UpdateStateStore.acquireLock runtime formats ownPid (some lookup) own 40 file).1 = .ok () ↔
      ¬ LeftUnreadable crashed file ∧
        ∀ lock ∈ crashed, ∀ written, file = some (writtenPart lock written) →
          lock.owner.identityVerified ≠ some false) ∧
    ((RuntimeStore.acquireLock runtime formats name (some attest) own 3 file).1 = .ok () ↔
      ¬ LeftUnreadable crashed file) := by
  have hwritten : ∀ lock ∈ crashed, ∀ written, ¬ LeftUnreadable crashed file →
      file = some (writtenPart lock written) → (lockText lock).length ≤ written + 1 := by
    intro lock hmem written hreadable hfile
    by_contra hlt
    exact hreadable ⟨lock, hmem, written, hfile, by omega⟩
  constructor
  · constructor
    · intro hok
      have hreadable : ¬ LeftUnreadable crashed file := by
        rintro ⟨lock, hmem, written, rfl, hlt⟩
        rw [UpdateStateStore.acquireLock_of_cut hlt 39] at hok
        cases hok
      refine ⟨hreadable, ?_⟩
      rintro lock hmem written rfl
      have hle := hwritten lock hmem written hreadable rfl
      rw [UpdateStateStore.acquireLock_of_written (hvalid lock hmem) hle 38] at hok
      exact (UpdateStateStore.ownerAlive_eq_false_iff hgone hmem).1 hok
    · rintro ⟨hreadable, hverified⟩
      rcases hleft.cases with rfl | ⟨lock, hmem, written, rfl⟩
      · rfl
      · have hle := hwritten lock hmem written hreadable rfl
        rw [UpdateStateStore.acquireLock_of_written (hvalid lock hmem) hle 38]
        exact (UpdateStateStore.ownerAlive_eq_false_iff hgone hmem).2
          (hverified lock hmem written rfl)
  · constructor
    · rintro hok ⟨lock, hmem, written, rfl, hlt⟩
      rw [RuntimeStore.acquireLock_of_cut hgone.unreadable hlt 2] at hok
      cases hok
    · intro hreadable
      rcases hleft.cases with rfl | ⟨lock, hmem, written, rfl⟩
      · rfl
      · have hle := hwritten lock hmem written hreadable rfl
        exact RuntimeStore.acquireLock_of_written (hvalid lock hmem) (hgone.stale lock hmem) hle 1

/-- A process that went with its lock file still empty. -/
def crashedLock : LockRecord where
  lockId := "6f1c2a52-3f5e-4a1b-9a53-0d8f3f6c7b10"
  createdAt := "2026-01-01T00:00:01.000Z"
  owner := ⟨4242, "2026-01-01T00:00:00.000Z", some true⟩

/-- The formats of a validator that accepts every text. -/
def anyFormats : LockFormats := ⟨fun _ => true, fun _ => true⟩

theorem crashedLock_valid : ∀ lock ∈ [crashedLock], lock.Valid anyFormats := by
  intro lock hmem
  obtain rfl := List.mem_singleton.1 hmem
  exact ⟨rfl, rfl, rfl, by decide, by decide⟩

theorem leftBehind_crashedLock : LeftBehind [crashedLock] (some (writtenPart crashedLock 0)) :=
  .single ⟨crashedLock, List.mem_singleton.2 rfl, .create⟩

theorem knowsGone_crashedLock :
    KnowsGone [crashedLock] 4343 (fun _ => none) fun _ => true where
  ownPid lock hmem := by
    obtain rfl := List.mem_singleton.1 hmem
    decide
  lookup _ _ := by rintro ⟨⟩
  unreadable := rfl
  stale _ _ := rfl

theorem acquireLock_after_crash_empty :
    ((UpdateStateStore.acquireLock isoRuntime anyFormats 4343 (some fun _ => none) crashedLock 40
        (some (writtenPart crashedLock 0))).1 = .ok () ↔
      ¬ LeftUnreadable [crashedLock] (some (writtenPart crashedLock 0)) ∧
        ∀ lock ∈ [crashedLock], ∀ written,
          some (writtenPart crashedLock 0) = some (writtenPart lock written) →
          lock.owner.identityVerified ≠ some false) ∧
    ((RuntimeStore.acquireLock isoRuntime anyFormats "startup.lock" (some fun _ => true) crashedLock 3
        (some (writtenPart crashedLock 0))).1 = .ok () ↔
      ¬ LeftUnreadable [crashedLock] (some (writtenPart crashedLock 0))) :=
  acquireLock_after_crash_iff crashedLock_valid leftBehind_crashedLock knowsGone_crashedLock
    crashedLock "startup.lock"

theorem one_lt_length_lockText (lock : LockRecord) : 1 < (lockText lock).length := by
  unfold lockText Json.lineText
  rw [Json.stringify]
  simp only [String.length_append]
  have hbrace : "\x7b".length = 1 := rfl
  have hbreak : "\n".length = 1 := rfl
  omega

/-- Behind a process that goes between creating its lock file and writing to it, neither lock is
acquired again. -/
theorem not_acquireLock_after_crash :
    ¬ ∀ (formats : LockFormats) (crashed : List LockRecord) (file : Option String),
      (∀ lock ∈ crashed, lock.Valid formats) → LeftBehind crashed file →
      ∀ (ownPid : ℕ) (lookup : ℕ → Option String) (attest : Option LockRecord → Bool),
        KnowsGone crashed ownPid lookup attest → ∀ (own : LockRecord) (name : String),
        (UpdateStateStore.acquireLock isoRuntime formats ownPid (some lookup) own 40 file).1 =
            .ok () ∧
          (RuntimeStore.acquireLock isoRuntime formats name (some attest) own 3 file).1 = .ok () := by
  intro hclaim
  have hok := (hclaim anyFormats _ _ crashedLock_valid leftBehind_crashedLock _ _ _
    knowsGone_crashedLock crashedLock "startup.lock").1
  rw [UpdateStateStore.acquireLock_of_cut (one_lt_length_lockText _) 39] at hok
  cases hok

end RlyGateway
