import RlyGateway.Library.DirectoryTree
import RlyGateway.Library.JsonText
import RlyGateway.Runtime.Overlay.ComposedSettings

/-!
# The files of a Claude view

What `src/runtime/claude-overlay.ts` reads and writes: the native directory, the files of a view,
and the marker and the ownership manifest, each read from any JSON value. Operations of the file
system are taken to succeed.
-/

namespace RlyGateway.ViewPreparation

variable {Bytes : Type}

/-! ## Files -/

/-- A file and the time of its last write. -/
structure StampedFile (Bytes : Type) where
  bytes : Bytes
  mtimeMs : ℕ

/-- Texts and hashes of the contents of files. -/
structure OverlayRuntime (Bytes : Type) where
  decode : Bytes → String
  encode : String → Bytes
  decode_encode : ∀ text, decode (encode text) = text
  sha256 : Bytes → String

abbrev NativeNode (Bytes : Type) := TreeNode (StampedFile Bytes)

/-- The Claude directory of the user. -/
structure NativeDirectory (Bytes : Type) where
  entries : DirectoryListing (StampedFile Bytes)
  /-- What a link leads to. -/
  resolve : String → Option (NativeNode Bytes)
  /-- The regular files at paths that leave the directory. -/
  outside : String → Option (StampedFile Bytes)

/-- The files of a view, by their paths in it. -/
abbrev ViewFiles (Bytes : Type) := String → Option (StampedFile Bytes)

def ViewFiles.write (files : ViewFiles Bytes) (path : String) (file : StampedFile Bytes) :
    ViewFiles Bytes :=
  fun other => if other = path then some file else files other

def ViewFiles.unlink (files : ViewFiles Bytes) (path : String) : ViewFiles Bytes :=
  fun other => if other = path then none else files other

theorem ViewFiles.write_of_ne (files : ViewFiles Bytes) {path other : String} (h : other ≠ path)
    (file : StampedFile Bytes) : files.write path file other = files other := if_neg h

namespace NativeDirectory

variable (native : NativeDirectory Bytes)

def follow : NativeNode Bytes → Option (NativeNode Bytes)
  | .link target => native.resolve target
  | node => some node

/-- What stands at a path of names; links on the way are followed. -/
def nodeAt : List String → DirectoryListing (StampedFile Bytes) → Option (NativeNode Bytes)
  | [], _ => none
  | name :: rest, entries =>
      if rest = [] then entries.lookup name
      else
        match (entries.lookup name).bind native.follow with
        | some (.directory below) => nodeAt rest below
        | _ => none

/-- The file at a path, unless a link or something else is there. -/
def regularFile (names : List String) : Option (StampedFile Bytes) :=
  match native.nodeAt names native.entries with
  | some (.file file) => some file
  | _ => none

/-- The file that is read at a path. -/
def readFile (names : List String) : Option (StampedFile Bytes) :=
  match (native.nodeAt names native.entries).bind native.follow with
  | some (.file file) => some file
  | _ => none

/-- The names in a directory, which a link may lead to. -/
def readdir (name : String) : DirectoryListing (StampedFile Bytes) :=
  match (native.entries.lookup name).bind native.follow with
  | some (.directory entries) => entries
  | _ => .empty

end NativeDirectory

/-- Dependency and version-control directories, which are never copied. -/
def SKILLS_EXCLUDED_DIRECTORIES : List String := ["node_modules", ".git"]

mutual

/-- The regular files that a name of a directory stands for. -/
def nodeFiles (recursive : Bool) (path name : String) :
    NativeNode Bytes → List (String × StampedFile Bytes)
  | .file file => [(path ++ name, file)]
  | .directory entries =>
      if recursive && name ∉ SKILLS_EXCLUDED_DIRECTORIES then
        listFiles true (path ++ name ++ "/") entries
      else []
  | .link _ => []
  | .special => []

/-- Lists regular files below a directory. Links are never followed. -/
def listFiles (recursive : Bool) (path : String) :
    DirectoryListing (StampedFile Bytes) → List (String × StampedFile Bytes)
  | .empty => []
  | .entry name node rest => nodeFiles recursive path name node ++ listFiles recursive path rest

end

/-- The names of a path without those that lead nowhere or back, behind the names so far. -/
def normalizeNames : List String → List String → List String
  | stack, [] => stack.reverse
  | stack, name :: rest =>
      if name = "" ∨ name = "." then normalizeNames stack rest
      else if name = ".." ∧ stack.head? ≠ none ∧ stack.head? ≠ some ".." then
        normalizeNames stack.tail rest
      else normalizeNames (name :: stack) rest

def normalize (path : String) : List String := normalizeNames [] (path.splitOn "/")

/-- The path in the view that a path of the manifest stands for. -/
def viewPath (relativePath : String) : String := "/".intercalate (normalize relativePath)

/-- Whether a path of the manifest is a regular file of the native directory. -/
def NativeDirectory.isRegularFile (native : NativeDirectory Bytes) (relativePath : String) : Bool :=
  if (normalize relativePath).head? = some ".." then
    (native.outside (viewPath relativePath)).isSome
  else (native.regularFile (normalize relativePath)).isSome

/-! ## JSON documents -/

mutual

/-- `JSON.stringify(value, null, 2)` behind a margin. -/
def indented (margin : String) : Json → String
  | .arr [] => "[]"
  | .obj [] => "\x7b\x7d"
  | .arr items =>
      "[\n" ++ ",\n".intercalate (indentedItems (margin ++ "  ") items) ++ "\n" ++ margin ++ "]"
  | .obj fields =>
      "\x7b\n" ++ ",\n".intercalate (indentedFields (margin ++ "  ") fields) ++ "\n" ++ margin ++
        "\x7d"
  | value => value.stringify

def indentedItems (margin : String) : List Json → List String
  | [] => []
  | item :: items => (margin ++ indented margin item) :: indentedItems margin items

def indentedFields (margin : String) : List (String × Json) → List String
  | [] => []
  | (name, value) :: fields =>
      (margin ++ Json.quote name ++ ": " ++ indented margin value) :: indentedFields margin fields

end

section

variable (runtime : OverlayRuntime Bytes)

/-- A file that is missing or malformed counts as absent. -/
def readJsonFile (file : Option (StampedFile Bytes)) : Option Json :=
  file.bind fun file => Json.parse (runtime.decode file.bytes)

def fileHash (file : Option (StampedFile Bytes)) : Option String :=
  file.map fun file => runtime.sha256 file.bytes

/-- The text of a value, as a file. -/
def jsonFile (value : Json) (mtimeMs : ℕ) : StampedFile Bytes :=
  ⟨runtime.encode (indented "" value ++ "\n"), mtimeMs⟩

end

/-- The source is newer, or the target is missing. -/
def needsRefresh (source target : Option (StampedFile Bytes)) : Bool :=
  match source, target with
  | some source, some target => source.mtimeMs > target.mtimeMs
  | _, _ => true

/-- What composing makes of the value of a settings file. -/
def parsedSettings : Option Json → ParsedSettings
  | none => .undefined
  | some (.obj fields) => .record (.ofList fields)
  | some _ => .notAnObject

/-- `value[name]`, which throws on no value and on `null`. -/
def property (value : Option Json) (name : String) : Except String (Option Json) :=
  match value with
  | none => throw ("Cannot read properties of undefined (reading \x27" ++ name ++ "\x27)")
  | some .null => throw ("Cannot read properties of null (reading \x27" ++ name ++ "\x27)")
  | some value => return value.field? name

/-- The number of units of a text, of which some characters take two. -/
def unitCount (text : String) : ℕ :=
  (text.toList.map fun c => if 0x10000 ≤ c.toNat then 2 else 1).sum

/-- `Object.keys(value)`, which throws on no value and on `null`. -/
def objectKeys (value : Option Json) : Except String (List String) :=
  match value with
  | none => throw "Cannot convert undefined or null to object"
  | some .null => throw "Cannot convert undefined or null to object"
  | some (.str text) => return (List.range (unitCount text)).map toString
  | some value => return (spread (some value)).keys

/-! ## Marker and manifest -/

structure OverlayMarker where
  allowlistVersion : Option ℚ
  source : Option String
  lastComposedAt : Option String
  migratedFromShared : Option Bool

/-- Every object is a marker, and so is every array. -/
def readMarker : Option Json → Option OverlayMarker
  | some (.obj fields) =>
      some
        { allowlistVersion := (Json.obj fields).numField? "allowlistVersion"
          source := (Json.obj fields).strField? "source"
          lastComposedAt := (Json.obj fields).strField? "lastComposedAt"
          migratedFromShared := ((Json.obj fields).field? "migratedFromShared").bind Json.bool? }
  | some (.arr _) => some ⟨none, none, none, none⟩
  | _ => none

def OverlayMarker.toJson (marker : OverlayMarker) : Json :=
  .mkObj [("allowlistVersion", marker.allowlistVersion.map .num),
    ("source", marker.source.map .str), ("lastComposedAt", marker.lastComposedAt.map .str),
    ("migratedFromShared", marker.migratedFromShared.map .bool)]

/-- Ownership manifest categories. -/
inductive ManifestEntryCategory where
  | nativeImported
  | rlyGenerated
  | viewOwned
deriving DecidableEq

def ManifestEntryCategory.text : ManifestEntryCategory → String
  | .nativeImported => "native-imported"
  | .rlyGenerated => "rly-generated"
  | .viewOwned => "view-owned"

structure ManifestEntry where
  category : ManifestEntryCategory
  /-- Native-relative path of the import source. -/
  source : Option String
  sourceHash : Option String
  viewHash : Option String
  importedAt : Option String
  lastRefreshedAt : Option String
  settingsSourceKeys : Option (List String)

structure OwnershipManifest where
  allowlistVersion : ℚ
  source : String
  lastReconciledAt : Option String
  entries : OrderedMap String ManifestEntry

/-- An entry of a known category; its other fields count where they have their types. -/
def readEntry (item : Json) : Option ManifestEntry :=
  ([.nativeImported, .rlyGenerated, .viewOwned].find? fun category =>
    item.strField? "category" = some (ManifestEntryCategory.text category)).map fun category =>
    { category
      source := item.strField? "source"
      sourceHash := item.strField? "sourceHash"
      viewHash := item.strField? "viewHash"
      importedAt := item.strField? "importedAt"
      lastRefreshedAt := item.strField? "lastRefreshedAt"
      settingsSourceKeys := ((item.field? "settingsSourceKeys").bind Json.arr?).map
        (·.filterMap Json.str?) }

/-- The entries of a manifest; an array has its indices for paths, and assigning `__proto__` makes no
entry. -/
def readEntries (value : Option Json) : OrderedMap String ManifestEntry :=
  .ofList (((spread value).entries.filter fun entry => entry.1 ≠ "__proto__").filterMap fun entry =>
    (readEntry entry.2).map (entry.1, ·))

def readManifest (value : Option Json) : Option OwnershipManifest :=
  value.bind fun record =>
    if record.field? "schemaVersion" = some (.num 1) then
      (record.numField? "allowlistVersion").map fun version =>
        { allowlistVersion := version
          source := (record.strField? "source").getD ""
          lastReconciledAt := record.strField? "lastReconciledAt"
          entries := readEntries (record.field? "entries") }
    else none

def ManifestEntry.toJson (entry : ManifestEntry) : Json :=
  .mkObj [("category", some (.str entry.category.text)), ("source", entry.source.map .str),
    ("sourceHash", entry.sourceHash.map .str), ("viewHash", entry.viewHash.map .str),
    ("importedAt", entry.importedAt.map .str),
    ("lastRefreshedAt", entry.lastRefreshedAt.map .str),
    ("settingsSourceKeys", entry.settingsSourceKeys.map fun keys => .arr (keys.map .str))]

def OwnershipManifest.toJson (manifest : OwnershipManifest) : Json :=
  .mkObj [("schemaVersion", some (.num 1)),
    ("allowlistVersion", some (.num manifest.allowlistVersion)),
    ("source", some (.str manifest.source)),
    ("lastReconciledAt", manifest.lastReconciledAt.map .str),
    ("entries", some (.obj (manifest.entries.entries.map fun entry => (entry.1, entry.2.toJson))))]

end RlyGateway.ViewPreparation
