import Mathlib.Data.List.Forall2
import RlyGateway.Library.DirectoryTree

/-!
# Following links

A path is followed through a tree as an operating system follows it: name by name, with the
directories that were entered behind it, a link by the names of its target from the directory in which
it stands, and only so many links. Entries of a tree may be hidden. Two trees that show the same are
followed alike; and where no link climbs higher than its directory is deep, none leads out of the tree.
-/

variable {Bytes : Type}

/-- Where a path ends. -/
inductive Followed (Bytes : Type) where
  | file (contents : Bytes)
  | directory
  | special
  | missing
  | notDirectory
  | looped
  | outside
deriving DecidableEq, Repr

/-- What is no directory has nothing below it. -/
def Followed.below (found : Followed Bytes) : List String → Followed Bytes
  | [] => found
  | _ :: _ => .notDirectory

/-- A directory, and where it is in its tree. -/
structure Place (Bytes : Type) where
  path : List String
  entries : DirectoryListing Bytes

def Place.enter (place : Place Bytes) (name : String) (entries : DirectoryListing Bytes) :
    Place Bytes :=
  ⟨place.path ++ [name], entries⟩

/-- What a directory shows under a name. -/
def Place.look (shown : List String → String → Bool) (place : Place Bytes) (name : String) :
    Option (TreeNode Bytes) :=
  if shown place.path name then place.entries.lookup name else none

/-- The names of a target, which has none where it does not start from the directory of its link. -/
abbrev TargetNames := String → Option (List String)

/-- The end of a path from the first of the directories, each of which is in the next one. -/
def follow (names : TargetNames) (shown : List String → String → Bool) :
    ℕ → List (Place Bytes) → List String → Followed Bytes
  | _, [], _ => .outside
  | _, _ :: _, [] => .directory
  | links, here :: above, name :: rest =>
      if name = "" ∨ name = "." then follow names shown links (here :: above) rest
      else if name = ".." then follow names shown links above rest
      else match here.look shown name with
        | none => .missing
        | some (.file contents) => (Followed.file contents).below rest
        | some .special => Followed.special.below rest
        | some (.directory entries) =>
            follow names shown links (here.enter name entries :: here :: above) rest
        | some (.link target) =>
            match names target, links with
            | none, _ => .outside
            | some _, 0 => .looped
            | some target, links + 1 => follow names shown links (here :: above) (target ++ rest)
termination_by links _ path => (links, path.length)

/-! ## Trees that show the same -/

/-- Nodes of which the directories are related. -/
inductive TreeNode.Alike (r : DirectoryListing Bytes → DirectoryListing Bytes → Prop) :
    TreeNode Bytes → TreeNode Bytes → Prop
  | file (contents : Bytes) : Alike r (.file contents) (.file contents)
  | link (target : String) : Alike r (.link target) (.link target)
  | special : Alike r .special .special
  | directory {entries entries' : DirectoryListing Bytes} (h : r entries entries') :
      Alike r (.directory entries) (.directory entries')

/-- Related directories show the same under every name, as far down as they go. -/
def ShowsAlike (shown shown' : List String → String → Bool)
    (r : Place Bytes → Place Bytes → Prop) : Prop :=
  ∀ ⦃place place'⦄, r place place' → ∀ name,
    Option.Rel (TreeNode.Alike fun entries entries' =>
        r (place.enter name entries) (place'.enter name entries'))
      (place.look shown name) (place'.look shown' name)

section Alike

variable {names : TargetNames} {shown shown' : List String → String → Bool}

/-- Trees that show the same are followed alike. -/
theorem ShowsAlike.follow_eq {r : Place Bytes → Place Bytes → Prop}
    (hshows : ShowsAlike shown shown' r) (links : ℕ) {places places' : List (Place Bytes)}
    (hplaces : List.Forall₂ r places places') (path : List String) :
    follow names shown links places path = follow names shown' links places' path := by
  cases hplaces with
  | nil => rw [follow, follow]
  | cons hplace habove =>
      cases path with
      | nil => rw [follow, follow]
      | cons name rest =>
          have halike := hshows hplace name
          rw [follow, follow]
          refine ite_congr rfl (fun _ => hshows.follow_eq links (.cons hplace habove) rest) fun _ =>
            ite_congr rfl (fun _ => hshows.follow_eq links habove rest) fun _ => ?_
          generalize Place.look shown _ name = found, Place.look shown' _ name = found' at halike ⊢
          cases halike with
          | none => rfl
          | some halike =>
              cases halike with
              | file contents => rfl
              | special => rfl
              | directory hentries =>
                  exact hshows.follow_eq links (.cons hentries (.cons hplace habove)) rest
              | link target =>
                  dsimp only
                  cases names target with
                  | none => rfl
                  | some target =>
                      cases links with
                      | zero => rfl
                      | succ links =>
                          exact hshows.follow_eq links (.cons hplace habove) (target ++ rest)
termination_by (links, path.length)

end Alike

/-! ## Links that stay in their tree -/

/-- Names that climb at most so high, and only before they descend. -/
def ClimbsWithin : ℕ → List String → Prop
  | _, [] => True
  | depth, name :: rest =>
      if name = "" ∨ name = "." then ClimbsWithin depth rest
      else if name = ".." then 0 < depth ∧ ClimbsWithin (depth - 1) rest
      else ".." ∉ rest

theorem climbsWithin_of_not_mem {depth : ℕ} {path : List String} (h : ".." ∉ path) :
    ClimbsWithin depth path := by
  induction path with
  | nil => trivial
  | cons name rest ih =>
      obtain ⟨hname, hrest⟩ := not_or.1 (List.mem_cons.not.1 h)
      rw [ClimbsWithin]
      split_ifs with hempty hup
      · exact ih hrest
      · exact absurd hup.symm hname
      · exact hrest

theorem ClimbsWithin.append {rest : List String} (hrest : ".." ∉ rest) :
    ∀ {path : List String} {depth : ℕ}, ClimbsWithin depth path → ClimbsWithin depth (path ++ rest)
  | [], _, _ => climbsWithin_of_not_mem hrest
  | name :: path, depth, h => by
      rw [List.cons_append, ClimbsWithin]
      rw [ClimbsWithin] at h
      split_ifs at h ⊢ with hempty hup
      · exact ClimbsWithin.append hrest h
      · exact ⟨h.1, ClimbsWithin.append hrest h.2⟩
      · exact fun hmem => (List.mem_append.1 hmem).elim h hrest

mutual

/-- What is said of the names in a tree, and of its links by the depth of their directory. -/
def TreeNode.All (name : String → Prop) (link : ℕ → String → Prop) (depth : ℕ) :
    TreeNode Bytes → Prop
  | .link target => link depth target
  | .directory entries => entries.All name link (depth + 1)
  | .file _ | .special => True

def DirectoryListing.All (name : String → Prop) (link : ℕ → String → Prop) (depth : ℕ) :
    DirectoryListing Bytes → Prop
  | .empty => True
  | .entry first node rest => name first ∧ node.All name link depth ∧ rest.All name link depth

end

theorem DirectoryListing.All.lookup {name : String → Prop} {link : ℕ → String → Prop} {depth : ℕ}
    {wanted : String} {node : TreeNode Bytes} :
    ∀ {entries : DirectoryListing Bytes}, entries.All name link depth →
      entries.lookup wanted = some node → node.All name link depth
  | .empty, _, hlookup => by cases hlookup
  | .entry _ _ _, hall, hlookup => by
      obtain ⟨-, hentry, hrest⟩ := hall
      rw [DirectoryListing.lookup] at hlookup
      split_ifs at hlookup
      · cases hlookup
        exact hentry
      · exact hrest.lookup hlookup

/-- The target of a link climbs no higher than its directory is deep. -/
def LinkWithin (names : TargetNames) (depth : ℕ) (target : String) : Prop :=
  ∃ path, names target = some path ∧ ClimbsWithin depth path

/-- Directories one in the other, the links of which stay in the last one. -/
def PlacesWithin (names : TargetNames) : List (Place Bytes) → Prop
  | [] => True
  | here :: above =>
      here.entries.All (fun _ => True) (LinkWithin names) above.length ∧ PlacesWithin names above

/-- Where the links of a tree stay in it, no path that does leads out of it. -/
theorem follow_ne_outside {names : TargetNames} {shown : List String → String → Bool} (links : ℕ)
    {here : Place Bytes} {above : List (Place Bytes)} (hplaces : PlacesWithin names (here :: above))
    (path : List String) (hpath : ClimbsWithin above.length path) :
    follow names shown links (here :: above) path ≠ .outside := by
  cases path with
  | nil =>
      rw [follow]
      nofun
  | cons name rest =>
      rw [ClimbsWithin] at hpath
      rw [follow]
      by_cases hempty : name = "" ∨ name = "."
      · rw [if_pos hempty] at hpath ⊢
        exact follow_ne_outside links hplaces rest hpath
      rw [if_neg hempty] at hpath ⊢
      by_cases hup : name = ".."
      · rw [if_pos hup] at hpath ⊢
        cases above with
        | nil => exact absurd hpath.1 (lt_irrefl 0)
        | cons parent above => exact follow_ne_outside links hplaces.2 rest hpath.2
      rw [if_neg hup] at hpath ⊢
      cases hlook : here.look shown name with
      | none => nofun
      | some node =>
          rw [Place.look] at hlook
          split_ifs at hlook
          have hnode := hplaces.1.lookup hlook
          cases node with
          | file contents => cases rest <;> nofun
          | special => cases rest <;> nofun
          | directory entries =>
              have hentered : PlacesWithin names (here.enter name entries :: here :: above) :=
                ⟨hnode, hplaces⟩
              exact follow_ne_outside links hentered rest (climbsWithin_of_not_mem hpath)
          | link target =>
              obtain ⟨path, htarget, hclimbs⟩ := hnode
              simp only [htarget]
              cases links with
              | zero => nofun
              | succ links =>
                  exact follow_ne_outside links hplaces (path ++ rest) (hclimbs.append hpath)
termination_by (links, path.length)
