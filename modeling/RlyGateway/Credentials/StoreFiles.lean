import RlyGateway.Credentials.Records
import RlyGateway.Installer.ReleaseMetadata
import RlyGateway.Library.Interrupted
import RlyGateway.Library.JsonPrefix
import Mathlib.Logic.Function.Basic

/-!
# The files of the credential store

`src/credentials/store.ts` keeps a record in one file, and the one before it in another while it is
replaced. Every file operation can fail, and the process can end in front of every one.
-/

namespace RlyGateway

/-! ## The text of a record -/

def CredentialProviderName.text : CredentialProviderName → String
  | .codex => "codex"
  | .gemini => "gemini"
  | .claude => "claude"
  | .cline => "cline"

def CredentialMaterial.fields (material : CredentialMaterial) : List (String × Json) :=
  [("accessToken", .str material.accessToken), ("refreshToken", .str material.refreshToken)] ++
    (material.accountId.map fun accountId => ("accountId", Json.str accountId)).toList

def CredentialRecord.fields (record : CredentialRecord) : List (String × Json) :=
  [("schemaVersion", .num 1), ("provider", .str record.provider.text), ("handle", .str record.handle),
    ("pseudonym", .str record.pseudonym), ("generation", .num record.generation)] ++
  ((record.expiresAt.map fun expiresAt => ("expiresAt", Json.str expiresAt)).toList ++
    ([("refreshFingerprint", .str record.refreshFingerprint)] ++
      ((record.sourceFingerprint.map fun source => ("sourceFingerprint", Json.str source)).toList ++
        [("material", .obj record.material.fields)])))

def serializeRecord (record : CredentialRecord) : String := Json.lineText record.fields

/-- A string of some code units, and not too many. -/
def credentialText (longest : ℕ) (value : Json) : Option String :=
  value.str?.filter fun text => 0 < (utf16Units text).length ∧ (utf16Units text).length ≤ longest

/-- An object with no fields but these. -/
def objectWith (names : List String) (value : Json) : Option Json :=
  value.obj?.bind fun fields => if ∀ field ∈ fields, field.1 ∈ names then some value else none

/-- `/^cred-[A-Za-z0-9_-]{1,64}$/`. -/
def isCredentialHandle (text : String) : Bool :=
  let name := text.toList.drop 5
  text.toList.take 5 = "cred-".toList ∧ 0 < name.length ∧ name.length ≤ 64 ∧
    name.all fun c => c.isAlphanum ∨ c = '_' ∨ c = '-'

def materialSchema (value : Json) : Option CredentialMaterial := do
  let value ← objectWith ["accessToken", "refreshToken", "accountId"] value
  let accessToken ← value.required "accessToken" (credentialText 16384)
  let refreshToken ← value.required "refreshToken" (credentialText 16384)
  let accountId ← value.optional "accountId" (credentialText 256)
  some { accessToken, refreshToken, accountId }

def credentialRecordSchema (value : Json) : Option CredentialRecord := do
  let value ← objectWith ["schemaVersion", "provider", "handle", "pseudonym", "generation",
    "expiresAt", "refreshFingerprint", "sourceFingerprint", "material"] value
  let _ ← value.required "schemaVersion" fun value => value.num?.filter (· = 1)
  let provider ← value.required "provider" fun value =>
    [CredentialProviderName.codex, .gemini, .claude, .cline].find? fun provider =>
      value.str? = some provider.text
  let handle ← value.required "handle" fun value => value.str?.filter (isCredentialHandle ·)
  let pseudonym ← value.required "pseudonym" (credentialText 128)
  let generation ← value.required "generation" Json.positiveInteger
  let expiresAt ← value.optional "expiresAt" isoDatetime
  let refreshFingerprint ← value.required "refreshFingerprint" sha256Text
  let sourceFingerprint ← value.optional "sourceFingerprint" sha256Text
  let material ← value.required "material" materialSchema
  some ⟨provider, handle, pseudonym, generation.num.toNat, expiresAt, refreshFingerprint,
    sourceFingerprint, material⟩

/-- A record that its schema takes as it is. -/
def CredentialRecord.Storable (record : CredentialRecord) : Prop :=
  credentialRecordSchema (.obj record.fields) = some record

instance (record : CredentialRecord) : Decidable record.Storable :=
  inferInstanceAs (Decidable (_ = _))

/-- What a text is read as. -/
def parseRecord (text : String) : Option CredentialRecord :=
  (Json.parse text).bind credentialRecordSchema

theorem CredentialMaterial.wellFormed (material : CredentialMaterial) :
    (Json.obj material.fields).WellFormed := by
  rw [CredentialMaterial.fields]
  cases material.accountId with
  | none =>
      refine .obj (show ["accessToken", "refreshToken"].Nodup by decide) ?_
      simp only [Option.map_none, Option.toList_none, List.append_nil, List.forall_mem_cons]
      exact ⟨.str _, .str _, List.forall_mem_nil _⟩
  | some accountId =>
      refine .obj (show ["accessToken", "refreshToken", "accountId"].Nodup by decide) ?_
      simp only [Option.map_some, Option.toList_some, List.cons_append, List.nil_append,
        List.forall_mem_cons]
      exact ⟨.str _, .str _, .str _, List.forall_mem_nil _⟩

/-- Fields of which any may be left out are those of an object where all of them are. -/
theorem CredentialRecord.wellFormed (record : CredentialRecord) :
    (Json.obj record.fields).WellFormed := by
  have hgeneration : (Json.num (record.generation : ℚ)).WellFormed :=
    .num ⟨0, by rw [Rat.den_natCast, pow_zero]⟩
  have hversion : (Json.num 1).WellFormed := .num ⟨0, by rw [Rat.den_one, pow_zero]⟩
  have hmaterial := record.material.wellFormed
  rw [CredentialRecord.fields]
  have hnames : ["schemaVersion", "provider", "handle", "pseudonym", "generation", "expiresAt",
      "refreshFingerprint", "sourceFingerprint", "material"].Nodup := by decide
  refine .obj (hnames.sublist ?_) ?_
  · cases record.expiresAt <;> cases record.sourceFingerprint <;>
      simp only [Option.map_none, Option.map_some, Option.toList_none, Option.toList_some,
        List.map_cons, List.map_nil, List.nil_append, List.cons_append] <;> decide
  · intro field hfield
    simp only [List.mem_append, Option.mem_toList, Option.map_eq_some_iff,
      List.mem_cons, List.not_mem_nil, or_false] at hfield
    obtain (rfl | rfl | rfl | rfl | rfl) | ⟨_, -, rfl⟩ | rfl | ⟨_, -, rfl⟩ | rfl := hfield
    · exact hversion
    · exact .str _
    · exact .str _
    · exact .str _
    · exact hgeneration
    · exact .str _
    · exact .str _
    · exact .str _
    · exact hmaterial

/-- A record is read back from its text. -/
theorem parseRecord_serializeRecord {record : CredentialRecord} (h : record.Storable) :
    parseRecord (serializeRecord record) = some record := by
  rw [parseRecord, serializeRecord, Json.lineText, Json.parse_stringify_newline record.wellFormed,
    Option.bind_some]
  exact h

namespace CredentialStore

/-! ## Files -/

/-- The files that are read for a handle. -/
inductive CredentialFile where
  | active
  | backup
deriving DecidableEq, Repr

/-- The files of a handle: those that are read, the number of temporary ones that are left beside
them, and the texts in quarantine. -/
structure CredentialFiles where
  active : Option String
  backup : Option String
  temporaries : ℕ
  quarantine : List String
deriving DecidableEq, Repr

namespace CredentialFiles

def text (files : CredentialFiles) : CredentialFile → Option String
  | .active => files.active
  | .backup => files.backup

def put (files : CredentialFiles) (text : Option String) : CredentialFile → CredentialFiles
  | .active => { files with active := text }
  | .backup => { files with backup := text }

end CredentialFiles

/-- How a file operation goes. -/
inductive FileOutcome where
  | done
  | failed
  /-- The process ends in front of it. -/
  | ended
deriving DecidableEq, Repr

/-- The files of a handle, and how the operations on them will go; those behind the list are done. -/
structure StoreRun where
  outcomes : List FileOutcome
  files : CredentialFiles
deriving DecidableEq, Repr

/-- Why an operation of the store stops. -/
inductive StoreStop where
  | error (error : CredentialError)
  | commitFailed
  | ended
deriving DecidableEq, Repr

abbrev StoreM := EStateM StoreStop StoreRun

/-- A file operation. -/
def fileStep (change : CredentialFiles → CredentialFiles) : StoreM Unit := fun s =>
  match s.outcomes with
  | [] => .ok () { s with files := change s.files }
  | .done :: outcomes => .ok () ⟨outcomes, change s.files⟩
  | .failed :: outcomes => .error (.error .fileSystem) ⟨outcomes, s.files⟩
  | .ended :: outcomes => .error .ended ⟨outcomes, s.files⟩

/-- What a process goes on from. -/
def failure? : StoreStop → Option StoreStop
  | .ended => none
  | stop => some stop

/-- The temporary file is in the directory of the file that it becomes. -/
def writePrivateTextAtomically (opened unlinked renamed : CredentialFiles → CredentialFiles) :
    StoreM Unit := do
  fileStep opened
  -- a file that is not written to its end is a temporary one
  fileStep id
  EStateM.rescue (fileStep renamed) failure? fun stop => do
    EStateM.rescue (fileStep unlinked) failure? fun _ => pure ()
    throw stop
  -- behind the rename nothing is left to be unlinked
  fileStep id

def writeCredentialFile (file : CredentialFile) (text : String) : StoreM Unit :=
  writePrivateTextAtomically (fun files => { files with temporaries := files.temporaries + 1 })
    (fun files => { files with temporaries := files.temporaries - 1 })
    fun files => { files with temporaries := files.temporaries - 1 }.put (some text) file

def readPrivateTextIfPresent (file : CredentialFile) : StoreM (Option String) := do
  fileStep id
  EStateM.reads fun s => s.files.text file

def removePrivateFileIfPresent (file : CredentialFile) : StoreM Unit :=
  fileStep fun files => files.put none file

def fsyncPrivateDirectory : StoreM Unit := fileStep id

/-- Files that are removed one after another. -/
def removeTimes (remove : CredentialFiles → CredentialFiles) : ℕ → StoreM Unit
  | 0 => pure ()
  | n + 1 => do
      fileStep remove
      removeTimes remove n

/-- `removeMatching`: the directory is listed, and what matches is removed. -/
def removeMatching (count : CredentialFiles → ℕ) (remove : CredentialFiles → CredentialFiles) :
    StoreM Unit := do
  fileStep id
  let n ← EStateM.reads fun s => count s.files
  removeTimes remove n

def removeTemporary : StoreM Unit :=
  removeMatching (·.temporaries) fun files => { files with temporaries := files.temporaries - 1 }

def removeQuarantine : StoreM Unit :=
  removeMatching (·.quarantine.length) fun files => { files with quarantine := files.quarantine.drop 1 }

/-! ## The operations on a handle -/

def parseFile (file : CredentialFile) : StoreM (Option CredentialRecord) := do
  let raw ← readPrivateTextIfPresent file
  pure (raw.bind parseRecord)

def readActiveOrBackup : StoreM (Option CredentialRecord) := do
  match ← parseFile .active with
  | some record => pure (some record)
  | none => parseFile .backup

def replace (next : CredentialRecord) : StoreM Unit := do
  let active ← readPrivateTextIfPresent .active
  match active with
  | some text => writeCredentialFile .backup text
  | none => pure ()
  writeCredentialFile .active (serializeRecord next)
  let verified ← parseFile .active
  if verified.map (·.generation) ≠ some next.generation then throw .commitFailed
  else
    removePrivateFileIfPresent .backup
    fsyncPrivateDirectory

/-- `commit`, under the lock of the handle. -/
def commit (handle : String) (expectedGeneration : ℕ) (next : CredentialRecord) : StoreM Unit :=
  if next.handle ≠ handle then throw (.error .handleMismatch)
  else if next.generation ≠ expectedGeneration + 1 then throw (.error .staleGeneration)
  else do
    match ← readActiveOrBackup with
    | some current =>
        if current.generation ≠ expectedGeneration then throw (.error .staleGeneration)
        else replace next
    | none =>
        if expectedGeneration ≠ 0 then throw (.error .staleGeneration)
        else replace next

/-- `purge`, under the lock of the handle. -/
def purge : StoreM Unit := do
  removePrivateFileIfPresent .active
  removePrivateFileIfPresent .backup
  removeTemporary
  removeQuarantine
  fsyncPrivateDirectory

def quarantineIfPresent (file : CredentialFile) : StoreM Unit := do
  match ← readPrivateTextIfPresent file with
  | none => pure ()
  | some raw =>
      writePrivateTextAtomically id id fun files =>
        { files with quarantine := files.quarantine ++ [raw] }
      removePrivateFileIfPresent file
      fsyncPrivateDirectory
      fsyncPrivateDirectory

def recover : StoreM (Option CredentialRecord) := do
  removeTemporary
  match ← parseFile .active with
  | some active =>
      removePrivateFileIfPresent .backup
      pure (some active)
  | none =>
      match ← parseFile .backup with
      | some backup =>
          writeCredentialFile .active (serializeRecord backup)
          removePrivateFileIfPresent .backup
          fsyncPrivateDirectory
          pure (some backup)
      | none =>
          quarantineIfPresent .active
          quarantineIfPresent .backup
          pure none

/-! ## The directory -/

/-- The files of every handle. -/
abbrev CredentialDirectory := String → CredentialFiles

/-- The record that `read` finds for a handle, if no file operation fails. -/
def CredentialDirectory.record? (directory : CredentialDirectory) (handle : String) :
    Option CredentialRecord :=
  ((directory handle).active.bind parseRecord).or ((directory handle).backup.bind parseRecord)

inductive StoreCall where
  | commit (handle : String) (expectedGeneration : ℕ) (next : CredentialRecord)
  | purge (handle : String)
  /-- `recoverAll`, with the handles in the order in which they are listed. -/
  | recoverAll (handles : List String)
deriving DecidableEq, Repr

/-- A call and how its file operations go. -/
structure StoreEvent where
  call : StoreCall
  outcomes : List FileOutcome
deriving DecidableEq, Repr

/-- How a call ends, and the directory it leaves: with the outcomes it has not used. -/
structure StoreAnswer where
  stop? : Option StoreStop
  outcomes : List FileOutcome
  directory : CredentialDirectory

/-- An operation on the files of a handle. -/
def onHandle {α : Type} (handle : String) (operation : StoreM α) (outcomes : List FileOutcome)
    (directory : CredentialDirectory) : StoreAnswer :=
  match operation ⟨outcomes, directory handle⟩ with
  | .ok _ s => ⟨none, s.outcomes, Function.update directory handle s.files⟩
  | .error stop s => ⟨some stop, s.outcomes, Function.update directory handle s.files⟩

def recoverAll : List String → List FileOutcome → CredentialDirectory → StoreAnswer
  | [], outcomes, directory => ⟨none, outcomes, directory⟩
  | handle :: handles, outcomes, directory =>
      let answer := onHandle handle recover outcomes directory
      match answer.stop? with
      | none => recoverAll handles answer.outcomes answer.directory
      | some _ => answer

def serve (event : StoreEvent) (directory : CredentialDirectory) : StoreAnswer :=
  match event.call with
  | .commit handle expectedGeneration next =>
      onHandle handle (commit handle expectedGeneration next) event.outcomes directory
  | .purge handle => onHandle handle purge event.outcomes directory
  | .recoverAll handles => recoverAll handles event.outcomes directory

end CredentialStore

end RlyGateway
