import RlyGateway.Core.Runtime
import RlyGateway.Library.Interrupted
import RlyGateway.Library.Schema
import RlyGateway.Storage.PrivateFiles

/-!
# Retention

What is older than the age of its class is deleted, class by class. A marker lists the classes that
are still to be applied, so that a run that was interrupted is taken up by the next one.

Of the control plane and of the credential store only whether they can be opened is represented, and
the times of the audit events. What recovery moves into the quarantine is younger than any cutoff.
-/

namespace RlyGateway

/-! ## Policies -/

inductive RetentionClassName
  | logs
  | audit
  | continuation
  | backups
  | expiredCredentials
  deriving DecidableEq, Repr

namespace RetentionClassName

def text : RetentionClassName → String
  | .logs => "logs"
  | .audit => "audit"
  | .continuation => "continuation"
  | .backups => "backups"
  | .expiredCredentials => "expiredCredentials"

/-- The class that an item of a marker names. -/
def ofJson? : Json → Option RetentionClassName
  | .str "logs" => some .logs
  | .str "audit" => some .audit
  | .str "continuation" => some .continuation
  | .str "backups" => some .backups
  | .str "expiredCredentials" => some .expiredCredentials
  | _ => none

end RetentionClassName

structure RetentionClass where
  owner : String
  maxAgeMs : ℤ

structure RetentionPolicy where
  version : ℕ
  classes : RetentionClassName → RetentionClass

def DEFAULT_RETENTION_POLICY : RetentionPolicy where
  version := 1
  classes
    | .logs => ⟨"runtime", 7 * 24 * 60 * 60 * 1000⟩
    | .audit => ⟨"control-plane", 30 * 24 * 60 * 60 * 1000⟩
    | .continuation => ⟨"responses", 24 * 60 * 60 * 1000⟩
    | .backups => ⟨"storage", 14 * 24 * 60 * 60 * 1000⟩
    | .expiredCredentials => ⟨"credential-broker", 0⟩

def CLASS_ORDER : List RetentionClassName :=
  [.logs, .audit, .continuation, .backups, .expiredCredentials]

/-- Why a run of the retention throws. -/
inductive RetentionError
  | policy (message : String)
  | privateFile (error : PrivateFileError)
  | invalidJson
  | invalidResponseId
  | notAnObject
  | unknownClass
  | credentialStore
  deriving DecidableEq, Repr

def assertRetentionPolicy (policy : RetentionPolicy) : Except RetentionError Unit := do
  if policy.version < 1 then throw (.policy "retention policy version is missing")
  for className in CLASS_ORDER do
    let item := policy.classes className
    if item.owner = "" ∨ item.maxAgeMs < 0 then
      throw (.policy s!"retention class {className.text} lacks an owner or duration")

/-! ## The state directory -/

/-- The directories that the retention reads. -/
inductive RetentionDirectory
  | logs
  | responses
  | backups
  | quarantine
  deriving DecidableEq, Repr

/-- The file of the marker. -/
inductive MarkerFile
  | absent
  | file (text : String)
  | unsafeEntry
  deriving DecidableEq, Repr

/-- The state directory, as far as the retention sees it. -/
structure StateDirectory where
  usable : Bool
  marker : MarkerFile
  directories : RetentionDirectory → PrivateDirectory
  /-- The times of the audit events, if the control plane can be opened. -/
  audit : Option (List String)
  /-- Whether the credential store can be opened. -/
  credentialStore : Bool

namespace StateDirectory

/-- One of the directories replaced. -/
def update (state : StateDirectory) (which : RetentionDirectory) (directory : PrivateDirectory) :
    StateDirectory :=
  { state with
    directories := fun other => if other = which then directory else state.directories other }

end StateDirectory

/-- What a run of the retention has done, and how it has ended where it was not killed. -/
inductive RetentionEvent
  | applied (className : RetentionClassName)
  | markerRemoved
  | failed
  | completed (policy : RetentionPolicy) (now : ℤ) (state : StateDirectory)

/-- The state directory, the events of the run, and the durable changes that are made before the
process is killed, if it is. -/
structure RetentionWorld where
  state : StateDirectory
  events : List RetentionEvent
  crashIn : Option ℕ

/-- How a run ends that does not return. -/
inductive RetentionStop
  | crashed
  | thrown (error : RetentionError)

abbrev RetentionM := EStateM RetentionStop RetentionWorld

/-- A durable change of the state directory, unless the process is killed before it. -/
def changeState (change : StateDirectory → StateDirectory) : RetentionM Unit := fun world =>
  match world.crashIn with
  | some 0 => .error .crashed world
  | some (n + 1) => .ok () { world with state := change world.state, crashIn := some n }
  | none => .ok () { world with state := change world.state }

def noteEvent (event : RetentionEvent) : RetentionM Unit :=
  modify fun world => { world with events := world.events ++ [event] }

def liftRetention {α : Type} (result : Except RetentionError α) : RetentionM α :=
  match result with
  | .ok a => pure a
  | .error error => throw (.thrown error)

def liftPrivateFile {α : Type} (result : Except PrivateFileError α) : RetentionM α :=
  liftRetention (result.mapError .privateFile)

/-- What is read off the state directory. -/
def readState {α : Type} (read : StateDirectory → α) : RetentionM α :=
  EStateM.reads fun world => read world.state

/-! ## Stored responses -/

/-- Every field of an object has one of the names. -/
def strictFields (names : List String) (value : Json) : Bool :=
  (value.obj?.getD []).all fun field => decide (field.1 ∈ names)

/-- The artifacts, notes and kinds of an envelope match. -/
def fidelityEnvelopeSchema (value : Json) : Option Json := do
  let artifactKinds := ["anthropic-thinking-signature", "openai-reasoning-encrypted-content"]
  let _ ← value.required "version" fun version => version.num?.filter (· = 1)
  let _ ← value.required "sourceProtocol" (Json.oneOf ["anthropic-messages", "openai-responses"])
  let _ ← value.optional "protocolRevision" Json.str?
  let _ ← value.required "artifacts" (Json.items fun artifact => do
    let _ ← artifact.required "kind" (Json.oneOf artifactKinds)
    let _ ← artifact.required "association" Json.str?
    artifact.required "value" Json.str?)
  let _ ← value.required "notes" (Json.items fun note => do
    let _ ← note.required "field" Json.str?
    let _ ← note.required "disposition"
      (Json.oneOf ["preserved-native", "translated", "ignored", "unsupported"])
    note.optional "reason" Json.str?)
  let _ ← value.required "required" (Json.items (Json.oneOf artifactKinds))
  return value

/-- The time at which a stored response was created, if the value is one. -/
def storedSchema (value : Json) : Option String := do
  let _ ← value.required "id" Json.nonEmptyString
  let createdAt ← value.required "createdAt" Json.nonEmptyString
  let _ ← value.required "model" Json.nonEmptyString
  let _ ← value.required "messages" (Json.items fun message => do
    let _ ← message.required "role" (Json.oneOf ["user", "assistant"])
    message.required "content" Json.arr?)
  let _ ← value.optional "fidelity" fidelityEnvelopeSchema
  if strictFields ["id", "createdAt", "model", "messages", "fidelity"] value then some createdAt
  else none

def jsonSuffix : List Char := ['.', 'j', 's', 'o', 'n']

/-- The ids of the stored responses, by the names of their files. -/
def responseIds (names : List String) : List String :=
  (names.filter fun name => jsonSuffix <:+ name.toList).map fun name =>
    String.ofList (name.toList.take (name.toList.length - 5))

/-- An id that a stored response can have. -/
def isResponseId (id : String) : Bool :=
  !id.toList.isEmpty && id.toList.all fun c =>
    ('A' ≤ c && c ≤ 'Z') || ('a' ≤ c && c ≤ 'z') || ('0' ≤ c && c ≤ '9') || c == '_' || c == '-'

/-- The name of the file of a stored response. -/
def responseFileFor (id : String) : Except RetentionError String :=
  if isResponseId id then .ok (id ++ ".json") else .error .invalidResponseId

/-- `prepare`: the state directory and the directory of the responses can be used. -/
def prepareResponses (state : StateDirectory) : Except PrivateFileError Unit := do
  if !state.usable then .error .unsafeDirectory
  else (state.directories .responses).ensurePrivateDirectory

def listResponses (state : StateDirectory) : Except RetentionError (List String) := do
  (prepareResponses state).mapError .privateFile
  let names ← (state.directories .responses).listPrivateDirectory.mapError .privateFile
  return responseIds names

/-- The time at which a stored response was created, if there is one of that id. -/
def getResponse (state : StateDirectory) (id : String) : Except RetentionError (Option String) := do
  (prepareResponses state).mapError .privateFile
  let name ← responseFileFor id
  let raw ← ((state.directories .responses).readPrivateTextIfPresent name).mapError .privateFile
  match raw with
  | none => return none
  | some raw =>
      match Json.parse raw with
      | none => throw .invalidJson
      | some value => return storedSchema value

/-! ## Classes -/

def removePrivateFileIfPresent (which : RetentionDirectory) (name : String) : RetentionM Unit := do
  let found ← readState fun state => (state.directories which).checkRemoval name
  if ← liftPrivateFile found then
    changeState fun state => state.update which ((state.directories which).unlink name)

/-- Deletes the entries of a directory in turn, as long as they are old. -/
def deleteOlderEntries (which : RetentionDirectory) (cutoffMs : ℤ) : List String → RetentionM ℕ
  | [] => return 0
  | name :: names => do
      let entry ← readState fun state => (state.directories which).entries.get? name
      if entry.any fun entry => entry.mtimeMs < (cutoffMs : ℚ) then
        removePrivateFileIfPresent which name
        return (← deleteOlderEntries which cutoffMs names) + 1
      else deleteOlderEntries which cutoffMs names

def deleteOlderFiles (which : RetentionDirectory) (cutoffMs : ℤ) : RetentionM ℕ := do
  let directory ← readState fun state => state.directories which
  if !directory.usable then return 0
  deleteOlderEntries which cutoffMs directory.entries.keys

/-- A record that was created before the cutoff. A time that cannot be read is not. -/
def createdBefore (runtime : NodeRuntime) (cutoffMs : ℤ) (createdAt : String) : Bool :=
  (runtime.dateParse createdAt).any fun time => time < cutoffMs

def deleteOlderResponses (runtime : NodeRuntime) (cutoffMs : ℤ) : List String → RetentionM ℕ
  | [] => return 0
  | id :: ids => do
      let record ← liftRetention (← readState fun state => getResponse state id)
      if record.any (createdBefore runtime cutoffMs) then
        removePrivateFileIfPresent .responses (← liftRetention (responseFileFor id))
        return (← deleteOlderResponses runtime cutoffMs ids) + 1
      else deleteOlderResponses runtime cutoffMs ids

def deleteOlderContinuations (runtime : NodeRuntime) (cutoffMs : ℤ) : RetentionM ℕ := do
  deleteOlderResponses runtime cutoffMs (← liftRetention (← readState listResponses))

/-- Deletes the audit events from before the cutoff. A control plane that cannot be opened is passed
over. -/
def deleteOlderAudit (runtime : NodeRuntime) (cutoffMs : ℤ) : RetentionM ℕ := do
  match ← readState StateDirectory.audit with
  | none => return 0
  | some times =>
      let kept := times.filter fun time => !textLt time (runtime.isoString cutoffMs)
      changeState fun state => { state with audit := some kept }
      return times.length - kept.length

def deleteExpiredCredentials (cutoffMs : ℤ) : RetentionM ℕ := do
  if !(← readState StateDirectory.credentialStore) then throw (.thrown .credentialStore)
  deleteOlderFiles .quarantine cutoffMs

def applyClass (runtime : NodeRuntime) (policy : RetentionPolicy) (className : RetentionClassName)
    (now : ℤ) : RetentionM ℕ :=
  let cutoff := now - (policy.classes className).maxAgeMs
  match className with
  | .logs => deleteOlderFiles .logs cutoff
  | .backups => deleteOlderFiles .backups cutoff
  | .continuation => deleteOlderContinuations runtime cutoff
  | .audit => deleteOlderAudit runtime cutoff
  | .expiredCredentials => deleteExpiredCredentials cutoff

/-! ## Runs -/

/-- The text of a marker. -/
def markerText (remaining : List Json) (policy : RetentionPolicy) : String :=
  Json.stringify (.obj [("remaining", .arr remaining), ("policyVersion", .num policy.version)]) ++ "\n"

/-- The classes that a marker leaves, if it is there and has a list of them. -/
def readMarker (state : StateDirectory) : Except RetentionError (Option (List Json)) :=
  match state.marker with
  | .absent => .ok none
  | .unsafeEntry => .error (.privateFile (.notRegular "retention.marker"))
  | .file text =>
      match Json.parse text with
      | none => .error .invalidJson
      | some .null => .error .notAnObject
      | some value => .ok ((value.field? "remaining").bind Json.arr?)

def writeMarker (remaining : List Json) (policy : RetentionPolicy) : RetentionM Unit := do
  if (← readState StateDirectory.marker) = .unsafeEntry then
    throw (.thrown (.privateFile (.notRegular "retention.marker")))
  changeState fun state => { state with marker := .file (markerText remaining policy) }

def removeMarker : RetentionM Unit := do
  changeState fun state => { state with marker := .absent }
  noteEvent .markerRemoved

/-- Says in the marker what is left, or that nothing is. -/
def leaveMarker (next : List Json) (policy : RetentionPolicy) : RetentionM Unit :=
  if next.isEmpty then removeMarker else writeMarker next policy

structure RetentionClassResult where
  className : RetentionClassName
  deleted : ℕ

/-- Applies the classes that remain, and says in the marker which these are. -/
def applyClasses (runtime : NodeRuntime) (policy : RetentionPolicy) (now : ℤ) :
    List Json → RetentionM (List RetentionClassResult)
  | [] => return []
  | item :: next => do
      match RetentionClassName.ofJson? item with
      | none => throw (.thrown .unknownClass)
      | some className =>
          let deleted ← applyClass runtime policy className now
          noteEvent (.applied className)
          leaveMarker next policy
          return ⟨className, deleted⟩ :: (← applyClasses runtime policy now next)

structure RetentionRun where
  policyVersion : ℕ
  applied : List RetentionClassResult
  resumed : Bool

def applyRetentionPolicy (runtime : NodeRuntime) (policy : RetentionPolicy) (now : ℤ) :
    RetentionM RetentionRun := do
  liftRetention (assertRetentionPolicy policy)
  if !(← readState StateDirectory.usable) then throw (.thrown (.privateFile .unsafeDirectory))
  let existing ← liftRetention (← readState readMarker)
  let remaining := existing.getD (CLASS_ORDER.map fun className => .str className.text)
  writeMarker remaining policy
  let applied ← applyClasses runtime policy now remaining
  return ⟨policy.version, applied, existing.isSome⟩

end RlyGateway
