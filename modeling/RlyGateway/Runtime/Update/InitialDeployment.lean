import RlyGateway.Library.LinkFollowing
import RlyGateway.Runtime.Update.ArtifactId

/-!
# The initial deployment

`src/runtime/bootstrap.ts`: the installed runtime tree is copied with its links as they stand, and the
copy gets its identity from the store. Every path leads in the copy to where it leads in the installed
tree, and none leads out of the copy.
-/

namespace RlyGateway

def initialDeploymentAllowlist : List String :=
  ["package.json", "dist", "node_modules", "LICENSE", "rly.json"]

/-- pnpm metadata that may carry absolute paths. -/
def pnpmMetadataFiles : List String :=
  [".modules.yaml", ".package-map.json", ".pnpm-workspace-state-v1.json", "lock.yaml"]

/-- The endings that `/\.(test|spec)\.[cm]?[jt]sx?$/i` accepts. -/
def testEndings : List String :=
  [".test.", ".spec."].flatMap fun kind => ["", "c", "m"].flatMap fun modules =>
    ["j", "t"].flatMap fun language => ["s", "sx"].map fun last => kind ++ modules ++ language ++ last

/-- Dependency test artifacts, which are never required at runtime. -/
def isTestArtifactPath (name : String) : Bool :=
  (pathSegments name).any (["tests", "__tests__", "__snapshots__"].contains ·) ||
    testEndings.any fun ending => ending.toList.isSuffixOf (name.toList.map Char.toLower)

def isWithinNodeModules (path : List String) : Bool :=
  path.contains "node_modules"

/-- Whether the target of a link is relative and resolves inside the source tree. -/
def isSafeSelfContainedLink (linkPath : List String) (linkTarget : String)
    (sourceRoot : List String) : Bool :=
  if linkTarget = "" ∨ linkTarget.toList.head? = some '/' ∨ hasDriveLetter linkTarget then false
  else
    let resolved := resolvePath linkPath.dropLast linkTarget
    decide (resolved = sourceRoot ∨ sourceRoot ≠ [] ∧ sourceRoot <+: resolved)

/-- The children of a directory that are not copied. -/
def isPruned (source : List String) (child : String) : Bool :=
  isWithinNodeModules source &&
    (pnpmMetadataFiles.contains child || child == ".bin" || isTestArtifactPath child)

def absolutePath (path : List String) : String := "/" ++ "/".intercalate path

section Copy

/- `realpath`, which fails where a link leads nowhere. -/
variable {Bytes : Type} (realpath : List String → Except String String) (sourceRoot : List String)

mutual

def copyEntry (source : List String) : TreeNode Bytes → Except String (TreeNode Bytes)
  | .link linkTarget =>
      if isSafeSelfContainedLink source linkTarget sourceRoot then
        (realpath source).map fun _ => .link linkTarget
      else .error ("runtime tree contains an unsafe symlink (" ++ absolutePath source ++ " -> " ++
        linkTarget ++ "); refusing to bootstrap a deployment")
  | .directory entries => (copyChildren source entries).map .directory
  | .file contents => .ok (.file contents)
  | .special => .error ("runtime tree contains a non-file entry (" ++ absolutePath source ++
      "); refusing to bootstrap an initial deployment")

def copyChildren (source : List String) :
    DirectoryListing Bytes → Except String (DirectoryListing Bytes)
  | .empty => .ok .empty
  | .entry child node rest =>
      if isPruned source child then copyChildren source rest
      else do
        let entry ← copyEntry (source ++ [child]) node
        let others ← copyChildren source rest
        pure (.entry child entry others)

end

/-- The named entries of the source tree, of which any may be missing. -/
def copyNamed (tree : DirectoryListing Bytes) :
    List String → Except String (DirectoryListing Bytes)
  | [] => .ok .empty
  | name :: names =>
      match tree.lookup name with
      | none => copyNamed tree names
      | some node => do
          let entry ← copyEntry realpath sourceRoot (sourceRoot ++ [name]) node
          let others ← copyNamed tree names
          pure (.entry name entry others)

def materializeRuntimeTree (tree : DirectoryListing Bytes) :
    Except String (DirectoryListing Bytes) :=
  copyNamed realpath sourceRoot tree initialDeploymentAllowlist

/-- The tree of the initial deployment and its identity: the copy is made in a staging directory. -/
def initialDeployment (runtime : NodeRuntime) (platform : ContentPlatform Bytes)
    (staging : List String) (tree : DirectoryListing Bytes) :
    Except String (DirectoryListing Bytes × String) := do
  let deployed ← materializeRuntimeTree realpath sourceRoot tree
  let artifactId ← computeArtifactId runtime platform staging deployed
  pure (deployed, artifactId)

/-! ## What is shipped -/

/-- The entries of the source tree that the deployment is to have. -/
def isShipped (path : List String) (name : String) : Bool :=
  if path = [] then initialDeploymentAllowlist.contains name
  else !isPruned (sourceRoot ++ path) name

variable {realpath sourceRoot}

/-- One node is the copy of another one. -/
def Copied (realpath : List String → Except String String) (sourceRoot source : List String)
    (copy node : TreeNode Bytes) : Prop :=
  copyEntry realpath sourceRoot source node = .ok copy

theorem Copied.alike {source : List String} {copy node : TreeNode Bytes}
    (h : Copied realpath sourceRoot source copy node)
    {r : DirectoryListing Bytes → DirectoryListing Bytes → Prop}
    (hr : ∀ {entries copied}, copyChildren realpath sourceRoot source entries = .ok copied →
      r copied entries) : copy.Alike r node := by
  cases node with
  | file contents =>
      cases h
      exact .file contents
  | link target =>
      rw [Copied, copyEntry] at h
      split_ifs at h
      obtain ⟨-, -, rfl⟩ := Except.map_eq_ok.1 h
      exact .link target
  | directory entries =>
      rw [Copied, copyEntry] at h
      obtain ⟨copied, hcopied, rfl⟩ := Except.map_eq_ok.1 h
      exact .directory (hr hcopied)
  | special => cases h

theorem lookup_copyChildren {source : List String} (name : String) :
    ∀ {entries copied : DirectoryListing Bytes},
      copyChildren realpath sourceRoot source entries = .ok copied →
      Option.Rel (Copied realpath sourceRoot (source ++ [name])) (copied.lookup name)
        (if isPruned source name then none else entries.lookup name)
  | .empty, copied, h => by
      cases h
      rw [DirectoryListing.lookup, ite_self]
      exact .none
  | .entry child node rest, copied, h => by
      rw [copyChildren] at h
      split_ifs at h with hpruned
      · have ih := lookup_copyChildren name h
        split_ifs at ih ⊢ with hname
        · exact ih
        · rwa [DirectoryListing.lookup, if_neg (by rintro rfl; exact hname hpruned)]
      · obtain ⟨entry, hentry, h⟩ := Except.bind_eq_ok.1 h
        obtain ⟨others, hothers, h⟩ := Except.bind_eq_ok.1 h
        cases h
        have ih := lookup_copyChildren name hothers
        rw [DirectoryListing.lookup, DirectoryListing.lookup]
        by_cases hname : child = name
        · subst hname
          rw [if_pos rfl, if_neg hpruned, if_pos rfl]
          exact .some hentry
        · rwa [if_neg hname, if_neg hname]

theorem lookup_copyNamed {tree : DirectoryListing Bytes} (name : String) :
    ∀ {names : List String} {copied : DirectoryListing Bytes},
      copyNamed realpath sourceRoot tree names = .ok copied →
      Option.Rel (Copied realpath sourceRoot (sourceRoot ++ [name])) (copied.lookup name)
        (if names.contains name then tree.lookup name else none)
  | [], copied, h => by
      cases h
      exact .none
  | first :: names, copied, h => by
      have hfirst (hname : first ≠ name) :
          (first :: names).contains name = names.contains name := by simp [hname.symm]
      rw [copyNamed] at h
      cases hlookup : tree.lookup first with
      | none =>
          rw [hlookup] at h
          have ih := lookup_copyNamed name h
          by_cases hname : first = name
          · subst hname
            rwa [hlookup, ite_self] at ih ⊢
          · rwa [hfirst hname]
      | some node =>
          rw [hlookup] at h
          obtain ⟨entry, hentry, h⟩ := Except.bind_eq_ok.1 h
          obtain ⟨others, hothers, h⟩ := Except.bind_eq_ok.1 h
          cases h
          rw [DirectoryListing.lookup]
          by_cases hname : first = name
          · subst hname
            rw [if_pos rfl, if_pos (by simp), hlookup]
            exact .some hentry
          · rw [if_neg hname, hfirst hname]
            exact lookup_copyNamed name hothers

/-- A place of the deployment and the one of the source tree that it is copied from. -/
def CopiedPlace (realpath : List String → Except String String) (sourceRoot : List String)
    (copy place : Place Bytes) : Prop :=
  copy.path = place.path ∧
    if place.path = [] then
      materializeRuntimeTree realpath sourceRoot place.entries = .ok copy.entries
    else copyChildren realpath sourceRoot (sourceRoot ++ place.path) place.entries = .ok copy.entries

/-- The deployment shows what is shipped of the source tree. -/
theorem showsAlike_copiedPlace :
    ShowsAlike (fun _ _ => true) (isShipped sourceRoot)
      (CopiedPlace realpath sourceRoot : Place Bytes → Place Bytes → Prop) := by
  rintro ⟨path, copied⟩ ⟨path', entries⟩ ⟨hpath, hcopied⟩ name
  obtain rfl : path = path' := hpath
  have hlook : Option.Rel (Copied realpath sourceRoot (sourceRoot ++ (path ++ [name])))
      (copied.lookup name) (Place.look (isShipped sourceRoot) ⟨path, entries⟩ name) := by
    rw [Place.look, isShipped]
    by_cases hroot : path = []
    · subst hroot
      exact lookup_copyNamed name hcopied
    · rw [if_neg hroot] at hcopied ⊢
      have hchildren := lookup_copyChildren name hcopied
      rw [← List.append_assoc]
      cases hpruned : isPruned (sourceRoot ++ path) name <;> simpa [hpruned] using hchildren
  change Option.Rel _ (copied.lookup name) _
  generalize copied.lookup name = copy, Place.look _ ⟨path, entries⟩ name = node at hlook ⊢
  cases hlook with
  | none => exact .none
  | some hcopy =>
      refine .some (hcopy.alike fun hchildren => ⟨rfl, ?_⟩)
      rwa [if_neg (by simp [Place.enter])]

end Copy

/-! ## Links that the store accepts -/

/-- The names of the target of a link that is not absolute. -/
def linkNames (target : String) : Option (List String) :=
  if target.toList.head? = some '/' then none else some (pathSegments target)

/-- A name that stands for one entry of its directory. -/
def IsEntryName (name : String) : Prop :=
  name ≠ "" ∧ name ≠ "." ∧ name ≠ ".." ∧ '/' ∉ name.toList

/-- The target of a link climbs before it descends, and does not name the directory the tree is in. -/
def ClimbsFirst (directory target : String) : Prop :=
  (∃ depth, ClimbsWithin depth (pathSegments target)) ∧ directory ∉ pathSegments target

theorem resolvePath_empty (root : List String) : resolvePath root "" = root := by
  simp [resolvePath, pathSegments, resolveSegment]

/-- A path with one more name resolves to one more segment. -/
theorem resolvePath_entryPath {root : List String} {relative name : String}
    (hname : IsEntryName name) :
    resolvePath root (TreeWalk.entryPath relative name) = resolvePath root relative ++ [name] := by
  obtain ⟨hempty, hdot, hup, hslash⟩ := hname
  have hsegments : pathSegments name = [name] := by
    rw [pathSegments, List.splitOn_eq_singleton hslash, List.map_singleton, String.ofList_toList]
  have hone (directory : List String) : resolvePath directory name = directory ++ [name] := by
    simp [resolvePath, hsegments, resolveSegment, hempty, hdot, hup]
  rw [TreeWalk.entryPath]
  split_ifs with hrelative
  · rw [hrelative, resolvePath_empty, hone]
  · have hjoined : pathSegments (relative ++ "/" ++ name) = pathSegments relative ++ [name] := by
      rw [← hsegments, pathSegments, pathSegments, pathSegments, ← List.map_append,
        ← List.splitOn_append_cons_self]
      simp
    rw [← hone, resolvePath, hjoined, List.foldl_append, resolvePath, resolvePath, hsegments]

/-- A name that is not among those that follow does not come to stand where it does not. -/
theorem getElem?_foldl_resolveSegment_ne {fresh : String} {i : ℕ} {names : List String}
    (hfresh : fresh ∉ names) {directory : List String} (h : directory[i]? ≠ some fresh) :
    (names.foldl resolveSegment directory)[i]? ≠ some fresh := by
  induction names generalizing directory with
  | nil => exact h
  | cons name names ih =>
      obtain ⟨hname, hnames⟩ := not_or.1 (List.mem_cons.not.1 hfresh)
      refine ih hnames fun hfound => ?_
      unfold resolveSegment at hfound
      split_ifs at hfound
      · exact h hfound
      · rw [List.getElem?_dropLast] at hfound
        split_ifs at hfound
        exact h hfound
      · rw [List.getElem?_append] at hfound
        split_ifs at hfound
        · exact h hfound
        · exact hname (List.mem_singleton.1 (List.mem_of_getElem? hfound))

/-- Names that stay in a directory without naming it climb no higher than they start below it. -/
theorem climbsWithin_of_prefix {base : List String} {fresh : String} :
    ∀ {names below : List String}, (∃ depth, ClimbsWithin depth names) → fresh ∉ names →
      base ++ [fresh] <+: names.foldl resolveSegment (base ++ [fresh] ++ below) →
      ClimbsWithin below.length names
  | [], _, _, _, _ => trivial
  | name :: names, below, ⟨depth, hclimbs⟩, hfresh, hwithin => by
      obtain ⟨-, hnames⟩ := not_or.1 (List.mem_cons.not.1 hfresh)
      rw [ClimbsWithin] at hclimbs ⊢
      rw [List.foldl_cons, resolveSegment] at hwithin
      split_ifs at hclimbs hwithin ⊢ with hempty hup
      · exact climbsWithin_of_prefix ⟨depth, hclimbs⟩ hnames hwithin
      · rcases List.eq_nil_or_concat below with rfl | ⟨below, last, rfl⟩
        · -- the directory itself is left, and no name leads back to it
          rw [List.append_nil, List.dropLast_concat] at hwithin
          have hbase : base[base.length]? ≠ some fresh := by simp
          refine (getElem?_foldl_resolveSegment_ne hnames hbase ?_).elim
          obtain ⟨rest, hrest⟩ := hwithin
          simp [← hrest]
        · rw [List.concat_eq_append, ← List.append_assoc, List.dropLast_concat] at hwithin
          rw [List.concat_eq_append, List.length_append]
          exact ⟨by simp, climbsWithin_of_prefix ⟨_, hclimbs.2⟩ hnames hwithin⟩
      · exact hclimbs

section Accepted

variable {Bytes : Type} {runtime : NodeRuntime} {platform : ContentPlatform Bytes}
  {base : List String} {fresh : String}

mutual

/-- Where the store accepts a tree, its links stay in it. -/
theorem within_of_node : ∀ {node : TreeNode Bytes} {path : String} {below : List String}
    {name : String} {found : List TreeLeaf},
    (deploymentWalk runtime platform (base ++ [fresh])).node path node = .ok found →
    resolvePath (base ++ [fresh]) path = base ++ [fresh] ++ below ++ [name] →
    node.All IsEntryName (fun _ => ClimbsFirst fresh) below.length →
    node.All (fun _ => True) (LinkWithin linkNames) below.length
  | .file _, _, _, _, _, _, _, _ => trivial
  | .special, _, _, _, _, h, _, _ => by cases h
  | .link target, path, below, name, found, h, hpath, hall => by
      obtain ⟨label, hlabel, -⟩ := Except.map_eq_ok.1 h
      simp only [deploymentWalk] at hlabel
      split_ifs at hlabel with hself
      rw [isSelfContainedLink] at hself
      split_ifs at hself with hrefused
      obtain ⟨habsolute, -⟩ := not_or.1 (not_or.1 hrefused).2
      rw [hpath, List.dropLast_concat] at hself
      have hwithin : base ++ [fresh] <+: resolvePath (base ++ [fresh] ++ below) target := by
        obtain heq | ⟨-, hwithin⟩ := of_decide_eq_true hself
        · exact ⟨[], by rw [List.append_nil, heq]⟩
        · exact hwithin
      exact ⟨pathSegments target, if_neg habsolute, climbsWithin_of_prefix hall.1 hall.2 hwithin⟩
  | .directory entries, path, below, name, found, h, hpath, hall => by
      obtain ⟨listed, hlisted, -⟩ := TreeWalk.gather_listing_of_sorted h
      have hall' : entries.All IsEntryName (fun _ => ClimbsFirst fresh) (below ++ [name]).length := by
        rw [List.length_append]
        exact hall
      have hwithin := within_of_listing hlisted (by rw [hpath, List.append_assoc]) hall'
      rw [List.length_append] at hwithin
      exact hwithin

theorem within_of_listing : ∀ {entries : DirectoryListing Bytes} {relative : String}
    {below : List String} {found : List TreeLeaf},
    TreeWalk.gather ((deploymentWalk runtime platform (base ++ [fresh])).listing relative entries) =
      .ok found →
    resolvePath (base ++ [fresh]) relative = base ++ [fresh] ++ below →
    entries.All IsEntryName (fun _ => ClimbsFirst fresh) below.length →
    entries.All (fun _ => True) (LinkWithin linkNames) below.length
  | .empty, _, _, _, _, _, _ => trivial
  | .entry name node rest, relative, below, found, h, hrelative, hall => by
      obtain ⟨first, others, hfirst, hothers, -⟩ := TreeWalk.gather_cons_eq_ok.1 h
      obtain ⟨hname, hnode, hrest⟩ := hall
      have hpath := @resolvePath_entryPath (base ++ [fresh]) relative name hname
      rw [hrelative] at hpath
      exact ⟨trivial, within_of_node hfirst hpath hnode, within_of_listing hothers hrelative hrest⟩

end

end Accepted

end RlyGateway
