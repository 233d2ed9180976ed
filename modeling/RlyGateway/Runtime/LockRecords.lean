import RlyGateway.Library.JsonPrefix
import RlyGateway.Library.Schema

/-!
# Lock records

A lock file holds one record: the lock's own id, when it was created, and the process that owns it.
It is written behind the creation of the file, so a process that goes in between leaves the file
empty, or with the beginning of the record.
-/

namespace RlyGateway

/-- The texts the validator accepts as a UUID and as an instant. -/
structure LockFormats where
  isUuid : String → Bool
  isDatetime : String → Bool

/-- The process that owns a lock, and whether its start is that of the operating system. -/
structure LockOwner where
  pid : ℕ
  processStartedAt : String
  identityVerified : Option Bool
deriving DecidableEq, Repr

/-- The record in a lock file. -/
structure LockRecord where
  lockId : String
  createdAt : String
  owner : LockOwner
deriving DecidableEq, Repr

/-- The fields of an owner. -/
def LockOwner.fields (owner : LockOwner) : List (String × Json) :=
  [("pid", .num owner.pid), ("processStartedAt", .str owner.processStartedAt)] ++
    (owner.identityVerified.map fun verified => ("identityVerified", Json.bool verified)).toList

/-- The fields of a record. -/
def LockRecord.fields (lock : LockRecord) : List (String × Json) :=
  [("lockId", .str lock.lockId), ("createdAt", .str lock.createdAt),
    ("owner", .obj lock.owner.fields)]

/-- The text of a record. -/
def lockText (lock : LockRecord) : String := Json.lineText lock.fields

variable (formats : LockFormats)

/-- The schema of a process identity. -/
def processIdentitySchema (value : Json) : Option LockOwner := do
  let value ← value.object
  let pid ← value.required "pid" Json.positiveInteger
  let processStartedAt ← value.required "processStartedAt" fun value =>
    value.str?.filter (formats.isDatetime ·)
  some ⟨pid.num.toNat, processStartedAt, none⟩

/-- The schema of the owner of an update lock. -/
def updateLockOwnerSchema (value : Json) : Option LockOwner := do
  let owner ← processIdentitySchema formats value
  let identityVerified ← value.optional "identityVerified" Json.bool?
  some { owner with identityVerified }

/-- The schema of a record with a schema of its owner. -/
def lockSchema (ownerSchema : Json → Option LockOwner) (value : Json) : Option LockRecord := do
  let value ← value.object
  let lockId ← value.required "lockId" fun value => value.str?.filter (formats.isUuid ·)
  let createdAt ← value.required "createdAt" fun value =>
    value.str?.filter (formats.isDatetime ·)
  let owner ← value.required "owner" ownerSchema
  some ⟨lockId, createdAt, owner⟩

/-- The schema of the locks of the runtime store. -/
def startupLockSchema : Json → Option LockRecord := lockSchema formats (processIdentitySchema formats)

/-- The schema of the update lock. -/
def updateLockSchema : Json → Option LockRecord := lockSchema formats (updateLockOwnerSchema formats)

/-- A record a process writes of itself. -/
structure LockRecord.Valid (lock : LockRecord) : Prop where
  lockId : formats.isUuid lock.lockId = true
  createdAt : formats.isDatetime lock.createdAt = true
  processStartedAt : formats.isDatetime lock.owner.processStartedAt = true
  pid : 0 < lock.owner.pid
  exact : lock.owner.pid ≤ 9007199254740991

/-! ## Records and their texts -/

theorem LockOwner.wellFormed (owner : LockOwner) : (Json.obj owner.fields).WellFormed := by
  have hpid : (Json.num (owner.pid : ℚ)).WellFormed := .num ⟨0, by rw [Rat.den_natCast, pow_zero]⟩
  unfold LockOwner.fields
  cases owner.identityVerified with
  | none =>
      refine .obj (show ["pid", "processStartedAt"].Nodup by decide) ?_
      intro field hfield
      simp only [Option.map_none, Option.toList_none, List.append_nil, List.mem_cons,
        List.not_mem_nil, or_false] at hfield
      rcases hfield with rfl | rfl
      · exact hpid
      · exact .str _
  | some verified =>
      refine .obj (show ["pid", "processStartedAt", "identityVerified"].Nodup by decide) ?_
      intro field hfield
      simp only [Option.map_some, Option.toList_some, List.cons_append, List.nil_append,
        List.mem_cons, List.not_mem_nil, or_false] at hfield
      rcases hfield with rfl | rfl | rfl
      · exact hpid
      · exact .str _
      · exact .bool _

theorem LockRecord.wellFormed (lock : LockRecord) : (Json.obj lock.fields).WellFormed := by
  refine .obj (show ["lockId", "createdAt", "owner"].Nodup by decide) ?_
  intro field hfield
  simp only [LockRecord.fields, List.mem_cons, List.not_mem_nil, or_false] at hfield
  rcases hfield with rfl | rfl | rfl
  · exact .str _
  · exact .str _
  · exact lock.owner.wellFormed

variable {formats}

theorem positiveInteger_natCast {n : ℕ} (hpos : 0 < n) (hexact : n ≤ 9007199254740991) :
    (Json.num (n : ℚ)).positiveInteger = some (n : ℚ) := by
  have hle : (n : ℚ) ≤ 9007199254740991 := by exact_mod_cast hexact
  unfold Json.positiveInteger Json.num?
  rw [Option.filter_some, if_pos]
  exact decide_eq_true ⟨Rat.den_natCast n, Nat.cast_pos.2 hpos, hle⟩

theorem processIdentitySchema_fields {owner : LockOwner}
    (hstarted : formats.isDatetime owner.processStartedAt = true) (hpid : 0 < owner.pid)
    (hexact : owner.pid ≤ 9007199254740991) :
    processIdentitySchema formats (.obj owner.fields) =
      some { owner with identityVerified := none } := by
  have hobject : (Json.obj owner.fields).object = some (.obj owner.fields) := rfl
  have hpid' : (Json.obj owner.fields).required "pid" Json.positiveInteger =
      some (owner.pid : ℚ) := positiveInteger_natCast hpid hexact
  have hstarted' : (Json.obj owner.fields).required "processStartedAt"
      (fun value => value.str?.filter (formats.isDatetime ·)) = some owner.processStartedAt :=
    Option.filter_some.trans (if_pos hstarted)
  unfold processIdentitySchema
  rw [hobject, Option.bind_eq_bind, Option.bind_some, hpid', Option.bind_eq_bind, Option.bind_some,
    hstarted', Option.bind_eq_bind, Option.bind_some, Rat.num_natCast, Int.toNat_natCast]

theorem updateLockOwnerSchema_fields {owner : LockOwner}
    (hstarted : formats.isDatetime owner.processStartedAt = true) (hpid : 0 < owner.pid)
    (hexact : owner.pid ≤ 9007199254740991) :
    updateLockOwnerSchema formats (.obj owner.fields) = some owner := by
  have hverified : (Json.obj owner.fields).optional "identityVerified" Json.bool? =
      some owner.identityVerified := by
    obtain ⟨pid, processStartedAt, identityVerified⟩ := owner
    cases identityVerified with
    | none => rfl
    | some verified => rfl
  unfold updateLockOwnerSchema
  rw [processIdentitySchema_fields hstarted hpid hexact, Option.bind_eq_bind, Option.bind_some,
    hverified, Option.bind_eq_bind, Option.bind_some]

/-- What the fields of a record match as, where its owner matches. -/
theorem lockSchema_fields {lock : LockRecord} {owner : LockOwner}
    {ownerSchema : Json → Option LockOwner} (hvalid : lock.Valid formats)
    (howner : ownerSchema (.obj lock.owner.fields) = some owner) :
    lockSchema formats ownerSchema (.obj lock.fields) = some { lock with owner } := by
  have hlockId : (Json.obj lock.fields).required "lockId"
      (fun value => value.str?.filter (formats.isUuid ·)) = some lock.lockId :=
    Option.filter_some.trans (if_pos hvalid.lockId)
  have hcreatedAt : (Json.obj lock.fields).required "createdAt"
      (fun value => value.str?.filter (formats.isDatetime ·)) = some lock.createdAt :=
    Option.filter_some.trans (if_pos hvalid.createdAt)
  have howner' : (Json.obj lock.fields).required "owner" ownerSchema = some owner := howner
  unfold lockSchema
  rw [show (Json.obj lock.fields).object = some (.obj lock.fields) from rfl, Option.bind_eq_bind,
    Option.bind_some, hlockId, Option.bind_eq_bind, Option.bind_some, hcreatedAt,
    Option.bind_eq_bind, Option.bind_some, howner']
  rfl

theorem updateLockSchema_fields {lock : LockRecord} (hvalid : lock.Valid formats) :
    updateLockSchema formats (.obj lock.fields) = some lock :=
  lockSchema_fields hvalid
    (updateLockOwnerSchema_fields hvalid.processStartedAt hvalid.pid hvalid.exact)

theorem startupLockSchema_fields {lock : LockRecord} (hvalid : lock.Valid formats) :
    startupLockSchema formats (.obj lock.fields) =
      some { lock with owner := { lock.owner with identityVerified := none } } :=
  lockSchema_fields hvalid
    (processIdentitySchema_fields hvalid.processStartedAt hvalid.pid hvalid.exact)

/-! ## Records cut off -/

/-- The beginning of a record's text. -/
def writtenPart (lock : LockRecord) (written : ℕ) : String :=
  String.ofList ((lockText lock).toList.take written)

theorem parse_writtenPart_of_le {lock : LockRecord} {written : ℕ}
    (hle : (lockText lock).length ≤ written + 1) :
    Json.parse (writtenPart lock written) = some (.obj lock.fields) :=
  Json.parse_take_lineText_of_le lock.wellFormed hle

theorem parse_writtenPart_of_lt {lock : LockRecord} {written : ℕ}
    (hlt : written + 1 < (lockText lock).length) : Json.parse (writtenPart lock written) = none :=
  Json.parse_take_lineText_of_lt lock.wellFormed hlt

end RlyGateway
