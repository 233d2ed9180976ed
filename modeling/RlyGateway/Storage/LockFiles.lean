import RlyGateway.Core.Runtime
import RlyGateway.Library.LockFile
import RlyGateway.Runtime.LockRecords

/-!
# The locks of processes that run together

Three implementations lock by a file: the ownership lock, the locks of the runtime store and the
update lock. They write records of the same form, and each has its own way to judge a record and to
see that the file is still the one it judged.
-/

namespace RlyGateway

/-- The implementations of a lock file. -/
inductive LockImplementation where
  | ownershipLock
  | runtimeStore
  | updateStore
deriving DecidableEq, Repr

/-- The record of a process whose start is not said to be verified. -/
def LockRecord.unverified (lock : LockRecord) : LockRecord :=
  { lock with owner := { lock.owner with identityVerified := none } }

/-! ## The ownership lock -/

/-- The fields of a record with the resource that is locked. -/
def ownershipLockFields (lock : LockRecord) (resource : Option String) : List (String × Json) :=
  lock.unverified.fields ++ (resource.map fun resource => ("resource", Json.str resource)).toList

/-- Whether a text is not the record of a process that is found with its identity. -/
def isStaleOwnershipLock (readProcessIdentity : ℚ → Option String) (raw : String) : Bool :=
  match Json.parse raw with
  | none => true
  | some lock =>
      let owner := lock.field? "owner"
      match owner.bind (Json.numField? · "pid"),
        owner.bind (Json.strField? · "processStartedAt") with
      | some pid, some processStartedAt =>
          !(readProcessIdentity pid).any (processStartedAt = ·)
      | _, _ => true

/-- The id a text gives its lock. -/
def lockIdFrom (raw : String) : Option String :=
  (Json.parse raw).bind (Json.strField? · "lockId")

/-! ## Processes -/

/-- What the processes that use a lock file are, and what they can find out about one another while
some of them are alive. -/
structure LockWorld (Process : Type) where
  runtime : NodeRuntime
  formats : LockFormats
  /-- The process ids. -/
  pid : Process → ℕ
  /-- The record a process makes at its acquisition with a number. -/
  record : Process → ℕ → LockRecord
  /-- The resource an ownership lock names. -/
  resource : Option String
  /-- Whether an ownership lock that is held is waited for. -/
  waits : Bool
  /-- When the process with an id was started, if it is found. -/
  readProcessIdentity : (Process → Bool) → ℚ → Option String
  /-- The lookup the update store is given. -/
  processIdentityLookup : Option ((Process → Bool) → ℕ → Option String)
  /-- The attestation the runtime store is given. -/
  attestStaleLock : Option ((Process → Bool) → Process → Option LockRecord → Bool)

namespace LockWorld

variable {Process : Type} (world : LockWorld Process)

/-- The fields a process writes. -/
def fields (p : Process) (acquisition : ℕ) : LockImplementation → List (String × Json)
  | .ownershipLock => ownershipLockFields (world.record p acquisition) world.resource
  | .runtimeStore => (world.record p acquisition).unverified.fields
  | .updateStore => (world.record p acquisition).fields

/-- Whether the update store takes the owner of a lock to be alive. -/
def ownerAlive (live : Process → Bool) (p : Process) (lock : LockRecord) : Bool :=
  if lock.owner.pid = world.pid p then true
  else if lock.owner.identityVerified = some false then true
  else
    match world.processIdentityLookup with
    | none => true
    | some lookup => (lookup live lock.owner.pid).any (· = lock.owner.processStartedAt)

/-- What a process makes of the contents of a lock file. -/
def verdict (live : Process → Bool) (p : Process) (raw : String) :
    LockImplementation → LockFile.Verdict
  | .ownershipLock =>
      if isStaleOwnershipLock (world.readProcessIdentity live) raw then .stale
      else if world.waits then .held
      else .refused
  | .runtimeStore =>
      let existing := (Json.parse raw).bind (startupLockSchema world.formats)
      if world.attestStaleLock.any fun attest => attest live p existing then .stale else .refused
  | .updateStore =>
      match (Json.parse raw).bind (updateLockSchema world.formats) with
      | none => .refused
      | some existing => if world.ownerAlive live p existing then .refused else .stale

/-- How the contents that are there now compare with those that were judged. -/
def recheck (existing current : String) : LockImplementation → LockFile.Recheck
  | .ownershipLock => if current = existing then .same else .changed
  | .runtimeStore =>
      match Json.parse current with
      | none => .refused
      | some _ =>
          if world.runtime.sha256Hex current = world.runtime.sha256Hex existing then .same
          else .changed
  | .updateStore =>
      if world.runtime.sha256Hex current = world.runtime.sha256Hex existing then .same else .changed

/-- The lock id a process reads in the contents before it removes its own file. -/
def currentLockId (raw : String) : LockImplementation → Option String
  | .ownershipLock => lockIdFrom raw
  | .runtimeStore =>
      ((Json.parse raw).bind (startupLockSchema world.formats)).map LockRecord.lockId
  | .updateStore => ((Json.parse raw).bind (updateLockSchema world.formats)).map LockRecord.lockId

/-- The rules of an implementation. -/
def rules (implementation : LockImplementation) : LockFile.Rules Process where
  text p acquisition := (Json.lineText (world.fields p acquisition implementation)).toList
  verdict live p contents := world.verdict live p (String.ofList contents) implementation
  recheck existing current :=
    world.recheck (String.ofList existing) (String.ofList current) implementation
  owns p acquisition contents :=
    world.currentLockId (String.ofList contents) implementation =
      some (world.record p acquisition).lockId

theorem rules_verdict (implementation : LockImplementation) (live : Process → Bool) (p : Process)
    (contents : List Char) : (world.rules implementation).verdict live p contents =
      world.verdict live p (String.ofList contents) implementation := rfl

theorem rules_recheck (implementation : LockImplementation) (existing current : List Char) :
    (world.rules implementation).recheck existing current =
      world.recheck (String.ofList existing) (String.ofList current) implementation := rfl

/-- Evidence that is right for a record that is written: a process that is alive is found with the
identity it has recorded, if it could read it, and is not attested to be gone. -/
structure Correct : Prop where
  valid : ∀ p acquisition, (world.record p acquisition).Valid world.formats
  observed : ∀ live p acquisition, live p = true →
    world.readProcessIdentity live (world.record p acquisition).owner.pid =
      some (world.record p acquisition).owner.processStartedAt
  found : ∀ lookup, world.processIdentityLookup = some lookup → ∀ live p acquisition,
    live p = true → (world.record p acquisition).owner.identityVerified ≠ some false →
    lookup live (world.record p acquisition).owner.pid =
      some (world.record p acquisition).owner.processStartedAt
  attested : ∀ attest, world.attestStaleLock = some attest → ∀ live p q acquisition,
    live q = true → attest live p (some (world.record q acquisition).unverified) = false

variable {world}

theorem Correct.unverified_valid (hcorrect : world.Correct) (p : Process) (acquisition : ℕ) :
    (world.record p acquisition).unverified.Valid world.formats := by
  have hvalid := hcorrect.valid p acquisition
  exact ⟨hvalid.lockId, hvalid.createdAt, hvalid.processStartedAt, hvalid.pid, hvalid.exact⟩

theorem wellFormed_ownershipLockFields (lock : LockRecord) (resource : Option String) :
    (Json.obj (ownershipLockFields lock resource)).WellFormed := by
  cases resource with
  | none =>
      rw [ownershipLockFields, Option.map_none, Option.toList_none, List.append_nil]
      exact lock.unverified.wellFormed
  | some resource =>
      refine .obj (show ["lockId", "createdAt", "owner", "resource"].Nodup by decide) ?_
      intro field hfield
      simp only [ownershipLockFields, LockRecord.fields, Option.map_some, Option.toList_some,
        List.cons_append, List.nil_append, List.mem_cons, List.not_mem_nil, or_false] at hfield
      rcases hfield with rfl | rfl | rfl | rfl
      · exact .str _
      · exact .str _
      · exact lock.unverified.owner.wellFormed
      · exact .str _

theorem wellFormed_fields (p : Process) (acquisition : ℕ) (implementation : LockImplementation) :
    (Json.obj (world.fields p acquisition implementation)).WellFormed := by
  cases implementation with
  | ownershipLock => exact wellFormed_ownershipLockFields _ _
  | runtimeStore => exact LockRecord.wellFormed _
  | updateStore => exact LockRecord.wellFormed _

/-- A complete record reads as its fields. -/
theorem parse_of_complete {implementation : LockImplementation} {p : Process} {acquisition : ℕ}
    {contents : List Char}
    (h : LockFile.Complete ((world.rules implementation).text p acquisition) contents) :
    Json.parse (String.ofList contents) = some (.obj (world.fields p acquisition implementation)) := by
  obtain ⟨ hprefix, hlength⟩ := h
  rw [List.prefix_iff_eq_take.1 hprefix]
  refine Json.parse_take_lineText_of_le (wellFormed_fields p acquisition implementation) ?_
  rw [← String.length_toList]
  exact hlength

section Records

variable {live : Process → Bool} {p q : Process} {acquisition : ℕ} {raw : String}

/-- What the ownership lock makes of a record. -/
theorem verdict_ownershipLock
    (hparse : Json.parse raw = some (.obj (world.fields q acquisition .ownershipLock))) :
    world.verdict live p raw .ownershipLock =
      if (world.readProcessIdentity live (world.record q acquisition).owner.pid).any
          ((world.record q acquisition).owner.processStartedAt = ·) then
        if world.waits then .held else .refused
      else .stale := by
  have howner : (Json.obj (world.fields q acquisition .ownershipLock)).field? "owner" =
      some (.obj (world.record q acquisition).unverified.owner.fields) := rfl
  have hpid : (Json.obj (world.record q acquisition).unverified.owner.fields).numField? "pid" =
      some ((world.record q acquisition).owner.pid : ℚ) := rfl
  have hstarted : (Json.obj (world.record q acquisition).unverified.owner.fields).strField?
      "processStartedAt" = some (world.record q acquisition).owner.processStartedAt := rfl
  rw [verdict, isStaleOwnershipLock]
  simp only [hparse, howner, Option.bind_some, hpid, hstarted]
  cases (world.readProcessIdentity live (world.record q acquisition).owner.pid).any
    ((world.record q acquisition).owner.processStartedAt = ·) with
  | true => rfl
  | false => rfl

/-- What the runtime store makes of a record. -/
theorem Correct.verdict_runtimeStore (hcorrect : world.Correct)
    (hparse : Json.parse raw = some (.obj (world.fields q acquisition .runtimeStore))) :
    world.verdict live p raw .runtimeStore =
      if world.attestStaleLock.any fun attest =>
          attest live p (some (world.record q acquisition).unverified) then .stale
      else .refused := by
  have hschema := startupLockSchema_fields (hcorrect.unverified_valid q acquisition)
  simp only [verdict, hparse, Option.bind_some]
  rw [show world.fields q acquisition .runtimeStore =
    (world.record q acquisition).unverified.fields from rfl, hschema]
  rfl

/-- What the update store makes of a record. -/
theorem Correct.verdict_updateStore (hcorrect : world.Correct)
    (hparse : Json.parse raw = some (.obj (world.fields q acquisition .updateStore))) :
    world.verdict live p raw .updateStore =
      if world.ownerAlive live p (world.record q acquisition) then .refused else .stale := by
  have hschema := updateLockSchema_fields (hcorrect.valid q acquisition)
  simp only [verdict, hparse, Option.bind_some]
  rw [show world.fields q acquisition .updateStore = (world.record q acquisition).fields from rfl,
    hschema]

/-- The update store takes the owner of a record to be alive that is. -/
theorem Correct.ownerAlive (hcorrect : world.Correct) (hlive : live q = true) :
    world.ownerAlive live p (world.record q acquisition) = true := by
  unfold LockWorld.ownerAlive
  split
  · rfl
  · split
    · rfl
    · rename_i hverified
      split
      · rfl
      · rename_i lookup hlookup
        rw [hcorrect.found lookup hlookup live q acquisition hlive hverified]
        simp

/-- Contents that are JSON are the ones that were judged if nothing has changed. -/
theorem recheck_self (implementation : LockImplementation) {value : Json}
    (hparse : Json.parse raw = some value) : world.recheck raw raw implementation = .same := by
  cases implementation with
  | ownershipLock => rw [recheck, if_pos rfl]
  | runtimeStore => simp only [recheck, hparse, if_true]
  | updateStore => rw [recheck, if_pos rfl]

end Records

/-- A record that is judged stale is of a process that is gone. -/
theorem Correct.sound_rules (hcorrect : world.Correct) (implementation : LockImplementation) :
    (world.rules implementation).Sound := by
  intro live p q acquisition contents hcomplete hstale
  by_contra hne
  have hlive : live q = true := by simpa using hne
  have hparse := parse_of_complete hcomplete
  rw [rules_verdict] at hstale
  cases implementation with
  | ownershipLock =>
      rw [verdict_ownershipLock hparse, hcorrect.observed live q acquisition hlive,
        if_pos (by simp)] at hstale
      split at hstale
      · cases hstale
      · cases hstale
  | runtimeStore =>
      rw [hcorrect.verdict_runtimeStore hparse] at hstale
      split at hstale
      · rename_i hattested
        cases hattest : world.attestStaleLock with
        | none =>
            rw [hattest] at hattested
            cases hattested
        | some attest =>
            rw [hattest] at hattested
            have hheld := hcorrect.attested attest hattest live p q acquisition hlive
            exact Bool.false_ne_true (hheld.symm.trans hattested)
      · cases hstale
  | updateStore =>
      rw [hcorrect.verdict_updateStore hparse, if_pos (hcorrect.ownerAlive hlive)] at hstale
      cases hstale

/-- When the process with an id was started, of three processes with the ids 1, 2 and 3. -/
def raceLookup (live : Fin 3 → Bool) (pid : ℚ) : Option String :=
  ((List.finRange 3).find? fun p => live p && decide (pid = p.val + 1)).map fun _ =>
    "2026-01-01T00:00:00.000Z"

/-- Three processes that find one another, and write records that differ in their ids. -/
def raceWorld : LockWorld (Fin 3) where
  runtime := isoRuntime
  formats := ⟨fun _ => true, fun _ => true⟩
  pid p := p.val + 1
  record p _ :=
    ⟨toString p.val, "2026-01-01T00:00:01.000Z",
      ⟨p.val + 1, "2026-01-01T00:00:00.000Z", some true⟩⟩
  resource := none
  waits := false
  readProcessIdentity := raceLookup
  processIdentityLookup := some fun live pid => raceLookup live pid
  attestStaleLock := some fun live _ lock => !lock.any fun lock =>
    (raceLookup live lock.owner.pid).any (· = lock.owner.processStartedAt)

theorem raceLookup_of_live (live : Fin 3 → Bool) (p : Fin 3) (h : live p = true) :
    raceLookup live ((p.val + 1 : ℕ) : ℚ) = some "2026-01-01T00:00:00.000Z" := by
  have hfound : ((List.finRange 3).find? fun q =>
      live q && decide (((p.val + 1 : ℕ) : ℚ) = q.val + 1)).isSome = true := by
    rw [List.find?_isSome]
    refine ⟨p, List.mem_finRange p, ?_⟩
    rw [h]
    simp
  obtain ⟨q, hq⟩ := Option.isSome_iff_exists.1 hfound
  rw [raceLookup, hq]
  rfl

theorem correct_raceWorld : raceWorld.Correct where
  valid p _ := ⟨rfl, rfl, rfl, Nat.succ_pos _, by
    have hp := p.isLt
    change p.val + 1 ≤ 9007199254740991
    omega⟩
  observed live p _ h := raceLookup_of_live live p h
  found := by
    rintro lookup ⟨⟩ live p _ h -
    exact raceLookup_of_live live p h
  attested := by
    rintro attest ⟨⟩ live p q _ h
    have hfound := raceLookup_of_live live q h
    simp only [LockRecord.unverified, Option.any_some, raceWorld, hfound]
    rfl

/-- The first process is not found when it is gone. -/
theorem raceLookup_of_gone {live : Fin 3 → Bool} (h : live 0 = false) : raceLookup live 1 = none := by
  rw [raceLookup, Option.map_eq_none_iff, List.find?_eq_none]
  intro p _
  match p with
  | 0 => simp [h]
  | 1 => simp
  | 2 => simp

/-- The text of a record reads as its fields. -/
theorem parse_raceWorld (implementation : LockImplementation) :
    Json.parse (String.ofList ((raceWorld.rules implementation).text 0 1)) =
      some (.obj (raceWorld.fields 0 1 implementation)) :=
  parse_of_complete ⟨List.prefix_rfl, Nat.le_succ _⟩

/-- The record of the first process is stale to the others when it is gone. -/
theorem stale_raceWorld (implementation : LockImplementation) {live : Fin 3 → Bool}
    (hlive : live 0 = false) {p : Fin 3} (hp : p ≠ 0) {raw : String}
    (hparse : Json.parse raw = some (.obj (raceWorld.fields 0 1 implementation))) :
    raceWorld.verdict live p raw implementation = .stale := by
  have hgone : raceLookup live (raceWorld.record 0 1).owner.pid = none := by
    rw [show (raceWorld.record 0 1).owner.pid = 1 from rfl, Nat.cast_one]
    exact raceLookup_of_gone hlive
  cases implementation with
  | ownershipLock =>
      rw [verdict_ownershipLock hparse, show raceWorld.readProcessIdentity live = raceLookup live
        from rfl, hgone, Option.any_none, if_neg (by decide)]
  | runtimeStore =>
      have hattested : (raceWorld.attestStaleLock.any fun attest =>
          attest live p (some (raceWorld.record 0 1).unverified)) =
          !(raceLookup live (raceWorld.record 0 1).owner.pid).any
            (· = (raceWorld.record 0 1).owner.processStartedAt) := rfl
      rw [correct_raceWorld.verdict_runtimeStore hparse, hattested, hgone, Option.any_none,
        if_pos (by decide)]
  | updateStore =>
      have hpid : (raceWorld.record 0 1).owner.pid ≠ raceWorld.pid p := by
        intro hpid
        exact hp (Fin.ext (Nat.succ.inj hpid).symm)
      have hdead : raceWorld.ownerAlive live p (raceWorld.record 0 1) =
          (raceLookup live (raceWorld.record 0 1).owner.pid).any
            (· = (raceWorld.record 0 1).owner.processStartedAt) := by
        unfold LockWorld.ownerAlive
        rw [if_neg hpid, if_neg (by decide)]
        rfl
      rw [correct_raceWorld.verdict_updateStore hparse, hdead, hgone, Option.any_none,
        if_neg (by decide)]

end LockWorld

end RlyGateway
