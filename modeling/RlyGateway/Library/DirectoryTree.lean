import Mathlib.Data.List.Sort
import RlyGateway.Library.Fallible

/-!
# Directory trees

A directory is a listing of names, each a file, a link, a directory or something else. A walk over a
tree reports a leaf for every file and every link, in an order of its own, with a label read off it;
it may skip paths and refuse links. Two walks that label files and links alike report the same leaves
up to their order, apart from what one of them skips.
-/

mutual

/-- What a name in a directory stands for. -/
inductive TreeNode (Bytes : Type) where
  | file (contents : Bytes)
  | link (target : String)
  | directory (entries : DirectoryListing Bytes)
  | special

/-- The names in a directory. -/
inductive DirectoryListing (Bytes : Type) where
  | empty
  | entry (name : String) (node : TreeNode Bytes) (rest : DirectoryListing Bytes)

end

deriving instance DecidableEq for TreeNode, DirectoryListing

/-- A file or a link: its path from the root, and what is read off it. -/
structure TreeLeaf where
  path : String
  label : String
deriving DecidableEq, Repr

/-- How a walk goes over a tree. -/
structure TreeWalk (Bytes ε : Type) where
  /-- The paths that are passed over. -/
  skips : String → Bool
  /-- The order of the names in a directory. -/
  precedes : String → String → Bool
  /-- What is read off a file. -/
  fileLabel : Bytes → String
  /-- What is read off a link at a path. -/
  linkLabel : String → String → Except ε String
  /-- The refusal of what is neither a file nor a link nor a directory. -/
  refusal : String → ε

/-- What a name stands for. -/
def DirectoryListing.lookup {Bytes : Type} (name : String) :
    DirectoryListing Bytes → Option (TreeNode Bytes)
  | .empty => none
  | .entry first node rest => if first = name then some node else rest.lookup name

/-- The file or link at a path of names. -/
def DirectoryListing.leafAt {Bytes : Type} :
    List String → DirectoryListing Bytes → Option (TreeNode Bytes)
  | [], _ => none
  | name :: rest, entries =>
      match entries.lookup name with
      | some (.directory entries) => entries.leafAt rest
      | found => if rest = [] then found else none

/-- Trees with the same files and links at the same paths. -/
def DirectoryListing.SameTree {Bytes : Type} (tree other : DirectoryListing Bytes) : Prop :=
  ∀ path, tree.leafAt path = other.leafAt path

/-- A file or a link, which a walk reports as one leaf. -/
def TreeNode.IsLeaf {Bytes : Type} : TreeNode Bytes → Prop
  | .file _ | .link _ => True
  | .directory _ | .special => False

namespace TreeWalk

variable {Bytes ε : Type}

/-- The path of a name in the directory at a path. -/
def entryPath (relative name : String) : String :=
  if relative = "" then name else relative ++ "/" ++ name

/-- The leaves of the entries of a directory, one entry after the other, up to the first refusal. -/
def gather : List (String × Except ε (List TreeLeaf)) → Except ε (List TreeLeaf)
  | [] => .ok []
  | (_, leaves) :: rest => do
      let first ← leaves
      let others ← gather rest
      pure (first ++ others)

/-- The entries of a directory in the order of the walk. -/
def sorted (walk : TreeWalk Bytes ε) (entries : List (String × Except ε (List TreeLeaf))) :
    List (String × Except ε (List TreeLeaf)) :=
  entries.insertionSort fun left right => walk.precedes left.1 right.1

mutual

/-- The leaves of what stands at a path. -/
def node (walk : TreeWalk Bytes ε) (path : String) : TreeNode Bytes → Except ε (List TreeLeaf)
  | .file contents => .ok [⟨path, walk.fileLabel contents⟩]
  | .link target => (walk.linkLabel path target).map fun label => [⟨path, label⟩]
  | .directory entries => gather (walk.sorted (walk.listing path entries))
  | .special => .error (walk.refusal path)

/-- The leaves below each name of the directory at a path. -/
def listing (walk : TreeWalk Bytes ε) (relative : String) :
    DirectoryListing Bytes → List (String × Except ε (List TreeLeaf))
  | .empty => []
  | .entry name entry rest =>
      (name,
        if walk.skips (entryPath relative name) then .ok []
        else walk.node (entryPath relative name) entry) :: walk.listing relative rest

end

/-- The leaves of a tree. -/
def leaves (walk : TreeWalk Bytes ε) (root : DirectoryListing Bytes) : Except ε (List TreeLeaf) :=
  gather (walk.sorted (walk.listing "" root))

/-! ## What is gathered -/

theorem gather_cons_eq_ok {entry : String × Except ε (List TreeLeaf)}
    {rest : List (String × Except ε (List TreeLeaf))} {found : List TreeLeaf} :
    gather (entry :: rest) = .ok found ↔
      ∃ first others, entry.2 = .ok first ∧ gather rest = .ok others ∧ found = first ++ others := by
  obtain ⟨name, leaves⟩ := entry
  cases leaves with
  | error e => simp [gather, bind, Except.bind]
  | ok first =>
      cases hrest : gather rest with
      | error e => simp [gather, bind, Except.bind, hrest]
      | ok others => simp [gather, bind, Except.bind, hrest, pure, Except.pure, eq_comm]

/-- The order of the entries changes only the order of what is gathered. -/
theorem gather_of_perm {entries entries' : List (String × Except ε (List TreeLeaf))}
    (hperm : entries.Perm entries') :
    ∀ {found : List TreeLeaf}, gather entries = .ok found →
      ∃ found', gather entries' = .ok found' ∧ found.Perm found' := by
  induction hperm with
  | nil => exact fun h => ⟨_, h, .refl _⟩
  | cons entry _ ih =>
      intro found h
      obtain ⟨first, others, hfirst, hothers, rfl⟩ := gather_cons_eq_ok.1 h
      obtain ⟨others', hothers', hperm⟩ := ih hothers
      exact ⟨first ++ others', gather_cons_eq_ok.2 ⟨_, _, hfirst, hothers', rfl⟩,
        hperm.append_left first⟩
  | swap entry entry' rest =>
      intro found h
      obtain ⟨first, tail, hfirst, htail, rfl⟩ := gather_cons_eq_ok.1 h
      obtain ⟨second, others, hsecond, hothers, rfl⟩ := gather_cons_eq_ok.1 htail
      refine ⟨second ++ (first ++ others), gather_cons_eq_ok.2 ⟨_, _, hsecond,
        gather_cons_eq_ok.2 ⟨_, _, hfirst, hothers, rfl⟩, rfl⟩, ?_⟩
      rw [← List.append_assoc, ← List.append_assoc]
      exact List.perm_append_comm.append_right others
  | trans _ _ ih ih' =>
      intro found h
      obtain ⟨middle, hmiddle, hperm⟩ := ih h
      obtain ⟨last, hlast, hperm'⟩ := ih' hmiddle
      exact ⟨last, hlast, hperm.trans hperm'⟩

/-- What a walk finds below a directory is gathered from its entries as they are listed. -/
theorem gather_listing_of_sorted {walk : TreeWalk Bytes ε}
    {entries : List (String × Except ε (List TreeLeaf))} {found : List TreeLeaf}
    (h : gather (walk.sorted entries) = .ok found) :
    ∃ found', gather entries = .ok found' ∧ found.Perm found' :=
  gather_of_perm (List.perm_insertionSort _ entries) h

/-! ## Two walks over one tree -/

/-- A walk that labels files and links as another one does, and skips nothing. -/
structure Covers {δ : Type} (wide : TreeWalk Bytes δ) (walk : TreeWalk Bytes ε) : Prop where
  skips : ∀ path, wide.skips path = false
  fileLabel : ∀ contents, wide.fileLabel contents = walk.fileLabel contents
  linkLabel : ∀ path target label label', wide.linkLabel path target = .ok label →
    walk.linkLabel path target = .ok label' → label = label'

variable {δ : Type} {wide : TreeWalk Bytes δ} {walk : TreeWalk Bytes ε}

mutual

/-- The leaves a walk reports are among those of a walk that covers it. -/
theorem Covers.node (hcovers : wide.Covers walk) (path : String) :
    ∀ (entry : TreeNode Bytes) {found found' : List TreeLeaf},
      walk.node path entry = .ok found → wide.node path entry = .ok found' →
      ∃ others, found'.Perm (found ++ others)
  | .file contents, found, found', h, h' => by
      cases h
      cases h'
      exact ⟨[], by rw [hcovers.fileLabel, List.append_nil]⟩
  | .link target, found, found', h, h' => by
      obtain ⟨label, hlabel, rfl⟩ := Except.map_eq_ok.1 h
      obtain ⟨label', hlabel', rfl⟩ := Except.map_eq_ok.1 h'
      cases hcovers.linkLabel path target label' label hlabel' hlabel
      exact ⟨[], by rw [List.append_nil]⟩
  | .directory entries, found, found', h, h' => by
      obtain ⟨listed, hlisted, hperm⟩ := gather_listing_of_sorted h
      obtain ⟨listed', hlisted', hperm'⟩ := gather_listing_of_sorted h'
      obtain ⟨others, hothers⟩ := Covers.listing hcovers path entries hlisted hlisted'
      exact ⟨others, (hperm'.trans hothers).trans (hperm.symm.append_right others)⟩
  | .special, found, found', h, h' => by cases h

/-- The leaves gathered below a directory are among those gathered by a walk that covers it. -/
theorem Covers.listing (hcovers : wide.Covers walk) (relative : String) :
    ∀ (entries : DirectoryListing Bytes) {found found' : List TreeLeaf},
      gather (walk.listing relative entries) = .ok found →
      gather (wide.listing relative entries) = .ok found' →
      ∃ others, found'.Perm (found ++ others)
  | .empty, found, found', h, h' => by
      cases h
      cases h'
      exact ⟨[], .refl _⟩
  | .entry name entry rest, found, found', h, h' => by
      obtain ⟨first, last, hfirst, hlast, rfl⟩ := gather_cons_eq_ok.1 h
      obtain ⟨first', last', hfirst', hlast', rfl⟩ := gather_cons_eq_ok.1 h'
      obtain ⟨others, hothers⟩ := Covers.listing hcovers relative rest hlast hlast'
      have hentry : ∃ extra, first'.Perm (first ++ extra) := by
        rw [if_neg (by simp [hcovers.skips])] at hfirst'
        split at hfirst
        · cases hfirst
          exact ⟨first', .refl _⟩
        · exact Covers.node hcovers _ entry hfirst hfirst'
      obtain ⟨extra, hextra⟩ := hentry
      refine ⟨extra ++ others, (hextra.append hothers).trans ?_⟩
      rw [List.append_assoc, List.append_assoc]
      refine List.Perm.append_left first ?_
      rw [← List.append_assoc, ← List.append_assoc]
      exact List.perm_append_comm.append_right others

end

theorem Covers.length_le (hcovers : wide.Covers walk) {relative : String}
    {entries : DirectoryListing Bytes} {found found' : List TreeLeaf}
    (h : gather (walk.listing relative entries) = .ok found)
    (h' : gather (wide.listing relative entries) = .ok found') : found.length ≤ found'.length := by
  obtain ⟨others, hothers⟩ := hcovers.listing relative entries h h'
  rw [hothers.length_eq, List.length_append]
  omega

/-- A file or a link is one leaf. -/
theorem length_of_isLeaf {entry : TreeNode Bytes} (hleaf : entry.IsLeaf) {path : String}
    {found : List TreeLeaf} (h : walk.node path entry = .ok found) : found.length = 1 := by
  cases entry with
  | file contents =>
      cases h
      rfl
  | link target =>
      obtain ⟨label, -, rfl⟩ := Except.map_eq_ok.1 h
      rfl
  | directory entries => exact hleaf.elim
  | special => exact hleaf.elim

/-- A leaf that is skipped is missing. -/
theorem Covers.length_lt (hcovers : wide.Covers walk) {relative name : String}
    (hskips : walk.skips (entryPath relative name) = true) {leaf : TreeNode Bytes}
    (hleaf : leaf.IsLeaf) :
    ∀ {entries : DirectoryListing Bytes} {found found' : List TreeLeaf},
      entries.lookup name = some leaf → gather (walk.listing relative entries) = .ok found →
      gather (wide.listing relative entries) = .ok found' → found.length < found'.length
  | .empty, found, found', hlookup, h, h' => by cases hlookup
  | .entry first entry rest, found, found', hlookup, h, h' => by
      obtain ⟨head, last, hhead, hlast, rfl⟩ := gather_cons_eq_ok.1 h
      obtain ⟨head', last', hhead', hlast', rfl⟩ := gather_cons_eq_ok.1 h'
      rw [if_neg (by simp [hcovers.skips])] at hhead'
      rw [List.length_append, List.length_append]
      by_cases hname : first = name
      · subst hname
        rw [DirectoryListing.lookup, if_pos rfl] at hlookup
        cases hlookup
        rw [if_pos hskips] at hhead
        cases hhead
        have hone := length_of_isLeaf hleaf hhead'
        have hrest := hcovers.length_le hlast hlast'
        rw [List.length_nil]
        omega
      · rw [DirectoryListing.lookup, if_neg hname] at hlookup
        have hrest := hcovers.length_lt hskips hleaf hlookup hlast hlast'
        have hfirst : head.length ≤ head'.length := by
          split at hhead
          · cases hhead
            exact Nat.zero_le _
          · obtain ⟨others, hothers⟩ := hcovers.node _ entry hhead hhead'
            rw [hothers.length_eq, List.length_append]
            omega
        omega

/-- A walk reports fewer leaves than one that covers it where it skips a leaf of the root. -/
theorem Covers.leaves (hcovers : wide.Covers walk) {root : DirectoryListing Bytes} {name : String}
    (hskips : walk.skips name = true) {leaf : TreeNode Bytes} (hlookup : root.lookup name = some leaf)
    (hleaf : leaf.IsLeaf) {found found' : List TreeLeaf} (h : walk.leaves root = .ok found)
    (h' : wide.leaves root = .ok found') :
    ∃ others, others ≠ [] ∧ found'.Perm (found ++ others) := by
  obtain ⟨listed, hlisted, hperm⟩ := gather_listing_of_sorted h
  obtain ⟨listed', hlisted', hperm'⟩ := gather_listing_of_sorted h'
  obtain ⟨others, hothers⟩ := hcovers.listing "" root hlisted hlisted'
  have hroot : walk.skips (entryPath "" name) = true := hskips
  have hlt := hcovers.length_lt hroot hleaf hlookup hlisted hlisted'
  refine ⟨others, ?_, (hperm'.trans hothers).trans (hperm.symm.append_right others)⟩
  rintro rfl
  rw [hothers.length_eq, List.append_nil] at hlt
  exact lt_irrefl _ hlt

end TreeWalk
