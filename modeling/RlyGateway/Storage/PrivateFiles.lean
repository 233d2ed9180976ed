import Mathlib.Data.Rat.Defs
import RlyGateway.Library.OrderedMap

/-!
# Private files

Directories that only their owner may use, and the regular files in them. An entry that is not a
safe regular file is refused where it is read or removed, and a directory passes that check only to
fail behind it.
-/

namespace RlyGateway

/-- What a name in a directory stands for, links not followed. -/
inductive EntryKind
  | file
  | directory
  | other
  deriving DecidableEq, Repr

/-- An entry: whether it is the current user's alone, with one link and mode `0600`, and what is
read off it as a file. -/
structure PrivateEntry where
  kind : EntryKind
  restricted : Bool
  mtimeMs : ℚ
  text : String

/-- Why a private file is refused. -/
inductive PrivateFileError
  | unsafeDirectory
  | notRegular (name : String)
  | changedWhileOpening (name : String)
  | isDirectory (name : String)
  deriving DecidableEq, Repr

/-- A directory, whether `ensurePrivateDirectory` accepts or can create it, and its entries. -/
structure PrivateDirectory where
  usable : Bool
  entries : OrderedMap String PrivateEntry

/-- A safe regular file. -/
def isSafePrivateFile (entry : PrivateEntry) : Bool :=
  decide (entry.kind = .file) && entry.restricted

namespace PrivateDirectory

def ensurePrivateDirectory (directory : PrivateDirectory) : Except PrivateFileError Unit :=
  if directory.usable then .ok () else .error .unsafeDirectory

def assertSafeFilePath (directory : PrivateDirectory) (name : String) :
    Except PrivateFileError Unit :=
  match directory.entries.get? name with
  | none => .ok ()
  | some entry =>
      if !isSafePrivateFile entry && !decide (entry.kind = .directory) then .error (.notRegular name)
      else .ok ()

def readPrivateTextIfPresent (directory : PrivateDirectory) (name : String) :
    Except PrivateFileError (Option String) := do
  directory.assertSafeFilePath name
  match directory.entries.get? name with
  | none => .ok none
  | some entry =>
      if isSafePrivateFile entry then .ok (some entry.text) else .error (.changedWhileOpening name)

/-- Whether there is a file to be unlinked. -/
def checkRemoval (directory : PrivateDirectory) (name : String) : Except PrivateFileError Bool := do
  directory.assertSafeFilePath name
  match directory.entries.get? name with
  | none => .ok false
  | some entry => if entry.kind = .directory then .error (.isDirectory name) else .ok true

/-- The directory without an entry. -/
def unlink (directory : PrivateDirectory) (name : String) : PrivateDirectory :=
  { directory with entries := directory.entries.erase name }

/-- The names of the regular files, whoever may use them. -/
def regularFiles (directory : PrivateDirectory) : List String :=
  (directory.entries.entries.filter fun entry => entry.2.kind = .file).map Prod.fst

def listPrivateDirectory (directory : PrivateDirectory) : Except PrivateFileError (List String) := do
  directory.ensurePrivateDirectory
  .ok directory.regularFiles

theorem mem_regularFiles {directory : PrivateDirectory} {name : String} :
    name ∈ directory.regularFiles ↔
      ∃ entry, directory.entries.get? name = some entry ∧ entry.kind = .file := by
  unfold regularFiles
  constructor
  · intro h
    obtain ⟨⟨name', entry⟩, hmem, rfl⟩ := List.mem_map.1 h
    obtain ⟨hmem, hkind⟩ := List.mem_filter.1 hmem
    exact ⟨entry, OrderedMap.get?_eq_some.2 hmem, of_decide_eq_true hkind⟩
  · rintro ⟨entry, hentry, hkind⟩
    exact List.mem_map.2 ⟨(name, entry),
      List.mem_filter.2 ⟨OrderedMap.get?_eq_some.1 hentry, decide_eq_true hkind⟩, rfl⟩

theorem listPrivateDirectory_of_usable {directory : PrivateDirectory} (h : directory.usable = true) :
    directory.listPrivateDirectory = .ok directory.regularFiles := by
  unfold listPrivateDirectory ensurePrivateDirectory
  rw [if_pos h]
  rfl

/-! ## What is left -/

/-- A directory after some of its entries were removed. -/
structure Trimmed (directory directory' : PrivateDirectory) : Prop where
  usable : directory.usable = directory'.usable
  entries : ∀ name entry, directory.entries.get? name = some entry →
    directory'.entries.get? name = some entry

theorem Trimmed.refl (directory : PrivateDirectory) : Trimmed directory directory :=
  ⟨rfl, fun _ _ h => h⟩

theorem Trimmed.trans {d d' d'' : PrivateDirectory} (h : Trimmed d d') (h' : Trimmed d' d'') :
    Trimmed d d'' :=
  ⟨h.usable.trans h'.usable, fun name entry hentry => h'.entries name entry (h.entries name entry hentry)⟩

theorem trimmed_unlink (directory : PrivateDirectory) (name : String) :
    Trimmed (directory.unlink name) directory := by
  refine ⟨rfl, fun name' entry hentry => ?_⟩
  unfold unlink at hentry
  rw [OrderedMap.get?_erase] at hentry
  split at hentry
  · cases hentry
  · exact hentry

/-- A safe regular file is read and can be removed. -/
theorem of_isSafePrivateFile {directory : PrivateDirectory} {name : String} {entry : PrivateEntry}
    (hentry : directory.entries.get? name = some entry) (hsafe : isSafePrivateFile entry = true) :
    directory.readPrivateTextIfPresent name = .ok (some entry.text) ∧
      directory.checkRemoval name = .ok true := by
  have hassert : directory.assertSafeFilePath name = .ok () := by
    unfold assertSafeFilePath
    rw [hentry]
    simp [hsafe]
  have hkind : entry.kind ≠ .directory := by
    intro hkind
    unfold isSafePrivateFile at hsafe
    rw [hkind] at hsafe
    cases hsafe
  constructor
  · unfold readPrivateTextIfPresent
    rw [hassert, hentry]
    simp only [bind, Except.bind, if_pos hsafe]
  · unfold checkRemoval
    rw [hassert, hentry]
    simp only [bind, Except.bind, if_neg hkind]

end PrivateDirectory

end RlyGateway
