import Mathlib.Algebra.BigOperators.Group.List.Basic
import Mathlib.Algebra.GroupWithZero.Nat
import RlyGateway.Library.DirectoryTree
import RlyGateway.Core.Runtime

/-!
# Artifact identity

The immutable store names a deployment by the digest of its tree: the paths of its files and links in
the order of the locale, each with the digest of its contents or with its target. A link that leaves
the tree, and what is neither a file nor a link nor a directory, is refused.
-/

namespace RlyGateway

/-- What reading a file gives, and the digests of its bytes. -/
structure ContentPlatform (Bytes : Type) where
  /-- `createHash("sha256").update(contents).digest("hex")`. -/
  sha256Of : Bytes → String
  /-- `Buffer.from(contents).toString("utf8")`. -/
  decode : Bytes → String
  /-- What reading through a link in the root of a tree gives, or the message of the failure. -/
  readThrough : DirectoryListing Bytes → String → Except String Bytes

variable {Bytes : Type} (runtime : NodeRuntime) (platform : ContentPlatform Bytes)

/-- What a digest of a tree is taken over. -/
def leavesText (leaves : List TreeLeaf) : String :=
  String.join (leaves.map fun leaf => leaf.path ++ "\x00" ++ leaf.label ++ "\x00")

/-- The segments of a path. -/
def pathSegments (path : String) : List String :=
  (path.toList.splitOn '/').map String.ofList

/-- A directory with one more segment resolved against it. -/
def resolveSegment (directory : List String) (segment : String) : List String :=
  if segment = "" ∨ segment = "." then directory
  else if segment = ".." then directory.dropLast
  else directory ++ [segment]

/-- A relative path resolved against a directory. -/
def resolvePath (directory : List String) (path : String) : List String :=
  (pathSegments path).foldl resolveSegment directory

/-- Whether a path starts with a drive letter. -/
def hasDriveLetter (path : String) : Bool :=
  match path.toList with
  | letter :: ':' :: _ => letter.isAlpha
  | _ => false

/-- Whether the target of a link is relative and resolves inside the candidate's tree. -/
def isSelfContainedLink (root : List String) (path target : String) : Bool :=
  if target = "" ∨ target.toList.head? = some '/' ∨ hasDriveLetter target then false
  else
    let resolved := resolvePath (resolvePath root path).dropLast target
    decide (resolved = root ∨ root ≠ [] ∧ root <+: resolved)

/-- The walk of the store over a candidate's tree. -/
def deploymentWalk (root : List String) : TreeWalk Bytes String where
  skips _ := false
  precedes := runtime.localeLe
  fileLabel := platform.sha256Of
  linkLabel path target :=
    if isSelfContainedLink root path target then .ok ("link:" ++ target)
    else .error ("candidate contains an unsafe symlink (" ++ path ++ " -> " ++ target ++
      "); refusing non-self-contained deployment")
  refusal path := "candidate contains a non-file entry; refusing deployment: " ++ path

/-- The immutable identity of a candidate's tree at a directory. -/
def computeArtifactId (sourceDirectory : List String) (tree : DirectoryListing Bytes) :
    Except String String :=
  ((deploymentWalk runtime platform sourceDirectory).leaves tree).map fun leaves =>
    runtime.sha256Hex (leavesText leaves)

/-! ## The text of a digest -/

/-- The length of the text grows with every leaf, and does not depend on their order. -/
theorem length_leavesText (leaves : List TreeLeaf) :
    (leavesText leaves).length =
      (leaves.map fun leaf => leaf.path.length + leaf.label.length + 2).sum := by
  unfold leavesText
  induction leaves with
  | nil => rfl
  | cons leaf leaves ih =>
      rw [List.map_cons, String.join_cons, String.length_append, ih, List.map_cons, List.sum_cons]
      simp only [String.length_append, show "\x00".length = 1 from rfl]
      omega

theorem length_leavesText_lt {leaves leaves' others : List TreeLeaf} (hothers : others ≠ [])
    (hperm : leaves'.Perm (leaves ++ others)) :
    (leavesText leaves).length < (leavesText leaves').length := by
  obtain ⟨leaf, others, rfl⟩ := List.exists_cons_of_ne_nil hothers
  rw [length_leavesText, length_leavesText, (hperm.map _).sum_eq, List.map_append, List.sum_append,
    List.map_cons, List.sum_cons]
  omega

end RlyGateway
