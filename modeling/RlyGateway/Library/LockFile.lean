import Mathlib.Logic.Function.Basic
import RlyGateway.Library.Runs

/-!
# Lock files

Any number of processes use one file as a lock. A process takes it by creating the file where there
is none and writing a record of itself into it, and gives it up by removing the file. One that finds
the file reads it, judges whether the record's owner is gone, reads it again, and removes it by its
path. Every one of these is a step of its own, and a process may be gone after any of them.
-/

namespace LockFile

/-- What a process makes of the contents of a lock file. -/
inductive Verdict where
  | held
  | stale
  | refused
deriving DecidableEq, Repr

/-- How contents compare with those that were judged. -/
inductive Recheck where
  | same
  | changed
  | refused
deriving DecidableEq, Repr

/-- The rules the processes follow. -/
structure Rules (Process : Type) where
  /-- The record a process writes at its acquisition with a number. -/
  text : Process → ℕ → List Char
  /-- What a process makes of contents, for the processes that are alive. -/
  verdict : (Process → Bool) → Process → List Char → Verdict
  /-- How the contents read again compare with those that were judged. -/
  recheck : List Char → List Char → Recheck
  /-- Whether contents are the record of a process at its acquisition with a number. -/
  owns : Process → ℕ → List Char → Bool

/-- Where a process is. -/
inductive Phase where
  | idle
  | opening
  | writing (inode : ℕ)
  | restricting (inode : ℕ)
  | holding (inode : ℕ)
  | reading (acquiring : Bool)
  | judging (acquiring : Bool) (contents : List Char)
  | rereading (acquiring : Bool) (contents : List Char)
  | unlinking (acquiring : Bool) (contents : List Char)
  | releasing (inode : ℕ)
  | removing (inode : ℕ)
deriving DecidableEq, Repr

/-- The file a process has created and not given up. -/
def Phase.inode? : Phase → Option ℕ
  | writing inode | restricting inode | holding inode | releasing inode | removing inode =>
      some inode
  | _ => none

/-- The contents a process has judged to be those of a process that is gone. -/
def Phase.judged? : Phase → Option (List Char)
  | rereading _ contents | unlinking _ contents => some contents
  | _ => none

/-- Where a process goes on after it has dealt with a file: to the next attempt, if it acquires. -/
def Phase.resume (acquiring : Bool) : Phase := if acquiring then opening else idle

/-- The file at the path, the contents of all files with the processes that created them, and the
processes. -/
structure State (Process : Type) where
  path : Option ℕ
  contents : ℕ → List Char
  creator : ℕ → Process
  next : ℕ
  phase : Process → Phase
  acquisition : Process → ℕ
  live : Process → Bool

/-- The steps of the processes. -/
inductive Action (Process : Type) where
  | acquire (p : Process)
  | reclaim (p : Process)
  | openExclusive (p : Process)
  | write (p : Process) (written : ℕ)
  | restrict (p : Process)
  | read (p : Process)
  | judge (p : Process)
  | reread (p : Process)
  | unlink (p : Process)
  | giveUp (p : Process)
  | release (p : Process)
  | readOwn (p : Process)
  | remove (p : Process)
  | crash (p : Process)

variable {Process : Type}

/-- The process that takes a step. -/
def Action.process : Action Process → Process
  | acquire p | reclaim p | openExclusive p | write p _ | restrict p | read p | judge p | reread p
  | unlink p | giveUp p | release p | readOwn p | remove p | crash p => p

variable [DecidableEq Process] (rules : Rules Process)

namespace State

/-- A process taken to another phase. -/
def go (s : State Process) (p : Process) (phase : Phase) : State Process :=
  { s with phase := Function.update s.phase p phase }

/-- The contents at the path. -/
def current (s : State Process) : Option (List Char) := s.path.map s.contents

/-- The step of a process that is alive, if it is there to be taken. -/
def stepAlive (s : State Process) : Action Process → Option (State Process)
  | .acquire p =>
      match s.phase p with
      | .idle =>
          some { s.go p .opening with
            acquisition := Function.update s.acquisition p (s.acquisition p + 1) }
      | _ => none
  | .reclaim p =>
      match s.phase p with
      | .idle => some (s.go p (.reading false))
      | _ => none
  | .openExclusive p =>
      match s.phase p with
      | .opening =>
          match s.path with
          | some _ => some (s.go p (.reading true))
          | none =>
              some { s.go p (.writing s.next) with
                path := some s.next
                contents := Function.update s.contents s.next []
                creator := Function.update s.creator s.next p
                next := s.next + 1 }
      | _ => none
  | .write p written =>
      match s.phase p with
      | .writing inode =>
          let text := rules.text p (s.acquisition p)
          some
            { s.go p (if text.length ≤ written then .restricting inode else .writing inode) with
              contents := Function.update s.contents inode (text.take written) }
      | _ => none
  | .restrict p =>
      match s.phase p with
      | .restricting inode => some (s.go p (if s.path = none then .idle else .holding inode))
      | _ => none
  | .read p =>
      match s.phase p with
      | .reading acquiring =>
          some (s.go p
            (match s.current with
              | none => .resume acquiring
              | some contents => .judging acquiring contents))
      | _ => none
  | .judge p =>
      match s.phase p with
      | .judging acquiring contents =>
          some (s.go p
            (match rules.verdict s.live p contents with
              | .held => .resume acquiring
              | .stale => .rereading acquiring contents
              | .refused => .idle))
      | _ => none
  | .reread p =>
      match s.phase p with
      | .rereading acquiring contents =>
          some (s.go p
            (match s.current with
              | none => .resume acquiring
              | some again =>
                  match rules.recheck contents again with
                  | .same => .unlinking acquiring contents
                  | .changed => .resume acquiring
                  | .refused => .idle))
      | _ => none
  | .unlink p =>
      match s.phase p with
      | .unlinking acquiring _ => some { s.go p (.resume acquiring) with path := none }
      | _ => none
  | .giveUp p =>
      match s.phase p with
      | .idle | .holding _ => none
      | _ => some (s.go p .idle)
  | .release p =>
      match s.phase p with
      | .holding inode => some (s.go p (.releasing inode))
      | _ => none
  | .readOwn p =>
      match s.phase p with
      | .releasing inode =>
          some (s.go p
            (if s.current.any (rules.owns p (s.acquisition p)) then .removing inode
              else .idle))
      | _ => none
  | .remove p =>
      match s.phase p with
      | .removing _ => some { s.go p .idle with path := none }
      | _ => none
  | .crash p => some { s with live := Function.update s.live p false }

/-- A step of a process, that has to be alive. -/
def step (s : State Process) (action : Action Process) : Option (State Process) :=
  if s.live action.process then s.stepAlive rules action else none

/-- No file is there, and no process uses the lock. -/
def start (first : Process) : State Process where
  path := none
  contents _ := []
  creator _ := first
  next := 0
  phase _ := .idle
  acquisition _ := 0
  live _ := true

/-- A process holds the lock. -/
def Holds (s : State Process) (p : Process) : Prop := ∃ inode, s.phase p = .holding inode

/-- No two processes that are alive hold the lock. -/
def Exclusive (s : State Process) : Prop :=
  ∀ p q, s.live p = true → s.live q = true → s.Holds p → s.Holds q → p = q

/-! ## Careful steps -/

end State

/-- Contents are a record of which no more than the last character is missing. -/
def Complete (text contents : List Char) : Prop :=
  contents <+: text ∧ text.length ≤ contents.length + 1

/-- The evidence about a complete record is right. -/
def Rules.Sound (rules : Rules Process) : Prop :=
  ∀ live p q n contents, Complete (rules.text q n) contents →
    rules.verdict live p contents = .stale → live q = false

namespace State

/-- What is removed by its path is what was judged, and no process that is alive is still writing it. -/
def Careful (s : State Process) : Action Process → Prop
  | .unlink p => ∀ acquiring contents, s.phase p = .unlinking acquiring contents →
      ∀ inode, s.path = some inode →
        s.contents inode = contents ∧
          ∀ q, s.live q = true → s.phase q = .writing inode →
            Complete (rules.text q (s.acquisition q)) contents
  | _ => True

/-- The file of a process that is alive is at the path, with its record once that is written; and the
owner of what was judged is gone. -/
structure Sound (s : State Process) : Prop where
  owned : ∀ p inode, s.live p = true → (s.phase p).inode? = some inode →
    s.path = some inode ∧ s.creator inode = p ∧
      (s.phase p = .writing inode ∨ s.contents inode = rules.text p (s.acquisition p))
  judged : ∀ p contents, (s.phase p).judged? = some contents →
    ∀ q n, Complete (rules.text q n) contents → s.live q = false

variable {rules} {s s' : State Process}

theorem go_phase_self (p : Process) (phase : Phase) : (s.go p phase).phase p = phase := by
  simp only [go, Function.update_self]

theorem go_phase_of_ne {p q : Process} (h : q ≠ p) (phase : Phase) :
    (s.go p phase).phase q = s.phase q := by
  simp only [go, Function.update_of_ne h]

omit [DecidableEq Process] in
/-- Two live processes cannot both have created files that they have not given up. -/
theorem Sound.eq_of_inode (hsound : s.Sound rules) {p q : Process} {inode inode' : ℕ}
    (hp : s.live p = true) (hq : s.live q = true) (hpi : (s.phase p).inode? = some inode)
    (hqi : (s.phase q).inode? = some inode') : p = q := by
  obtain ⟨hpath, hcreator, -⟩ := hsound.owned p inode hp hpi
  obtain ⟨hpath', hcreator', -⟩ := hsound.owned q inode' hq hqi
  obtain rfl : inode = inode' := Option.some.inj (hpath.symm.trans hpath')
  exact hcreator.symm.trans hcreator'

omit [DecidableEq Process] in
theorem Sound.exclusive (hsound : s.Sound rules) : s.Exclusive := by
  rintro p q hp hq ⟨inode, hpi⟩ ⟨inode', hqi⟩
  exact hsound.eq_of_inode hp hq (by rw [hpi]; rfl) (by rw [hqi]; rfl)

/-- A process that goes to a phase with no file but its own, which it has written, and with no
judgement that is wrong, keeps the state sound. -/
theorem Sound.go (hsound : s.Sound rules) (p : Process) (phase : Phase)
    (hinode : ∀ inode, phase.inode? = some inode →
      (s.phase p).inode? = some inode ∧ s.phase p ≠ .writing inode)
    (hjudged : ∀ contents, phase.judged? = some contents →
      ∀ q n, Complete (rules.text q n) contents → s.live q = false) :
    (s.go p phase).Sound rules where
  owned q inode hlive h := by
    by_cases hq : q = p
    · subst hq
      rw [go_phase_self] at h
      obtain ⟨hsame, hne⟩ := hinode inode h
      obtain ⟨hpath, hcreator, hwritten⟩ := hsound.owned q inode hlive hsame
      exact ⟨hpath, hcreator, .inr (hwritten.resolve_left hne)⟩
    · rw [go_phase_of_ne hq] at h ⊢
      exact hsound.owned q inode hlive h
  judged q contents h := by
    by_cases hq : q = p
    · subst hq
      rw [go_phase_self] at h
      exact hjudged contents h
    · rw [go_phase_of_ne hq] at h
      exact hsound.judged q contents h

omit [DecidableEq Process] in
/-- What is kept where nothing but the number of an acquisition, the next file or the processes that
are alive differs. -/
theorem Sound.of_eq {t : State Process} (hsound : s.Sound rules) (hpath : t.path = s.path)
    (hcontents : t.contents = s.contents) (hcreator : t.creator = s.creator)
    (hphase : t.phase = s.phase)
    (halive : ∀ p, t.live p = true → s.live p = true)
    (hacquisition : ∀ p inode, (s.phase p).inode? = some inode →
      t.acquisition p = s.acquisition p) : t.Sound rules where
  owned p inode hlive h := by
    rw [hphase] at h ⊢
    rw [hpath, hcontents, hcreator, hacquisition p inode h]
    exact hsound.owned p inode (halive p hlive) h
  judged p contents h q n hcomplete := by
    rw [hphase] at h
    have hgone := hsound.judged p contents h q n hcomplete
    cases hlive : t.live q with
    | false => rfl
    | true =>
        rw [halive q hlive] at hgone
        cases hgone

omit [DecidableEq Process] in
/-- A file that no process alive has created can be removed. -/
theorem Sound.remove (hsound : s.Sound rules)
    (hnone : ∀ p inode, s.live p = true → (s.phase p).inode? ≠ some inode) :
    ({ s with path := none } : State Process).Sound rules where
  owned p inode hlive h := absurd h (hnone p inode hlive)
  judged := hsound.judged

/-- A file created where there is none is that of its creator. -/
theorem Sound.create (hsound : s.Sound rules) (hpath : s.path = none) (p : Process) :
    ({ s.go p (.writing s.next) with
        path := some s.next
        contents := Function.update s.contents s.next []
        creator := Function.update s.creator s.next p
        next := s.next + 1 } : State Process).Sound rules where
  owned q inode hlive h := by
    change ((s.go p (.writing s.next)).phase q).inode? = some inode at h
    by_cases hq : q = p
    · subst hq
      rw [go_phase_self] at h
      cases h
      exact ⟨rfl, Function.update_self _ _ _, .inl (go_phase_self q _)⟩
    · rw [go_phase_of_ne hq] at h
      rw [(hsound.owned q inode hlive h).1] at hpath
      cases hpath
  judged q contents h := by
    change ((s.go p (.writing s.next)).phase q).judged? = some contents at h
    by_cases hq : q = p
    · subst hq
      rw [go_phase_self] at h
      cases h
    · rw [go_phase_of_ne hq] at h
      exact hsound.judged q contents h

/-- A process writes to its own file, until its record is there. -/
theorem Sound.write (hsound : s.Sound rules) {p : Process} {inode : ℕ} (hlive : s.live p = true)
    (hwriting : s.phase p = .writing inode) {phase : Phase} {contents : List Char}
    (hphase : phase = .writing inode ∨
      phase = .restricting inode ∧ contents = rules.text p (s.acquisition p)) :
    ({ s.go p phase with
        contents := Function.update s.contents inode contents } : State Process).Sound rules where
  owned q inode' hq h := by
    change ((s.go p phase).phase q).inode? = some inode' at h
    obtain ⟨hpath, hcreator, -⟩ := hsound.owned p inode hlive (by rw [hwriting]; rfl)
    by_cases hqp : q = p
    · subst hqp
      rw [go_phase_self] at h
      have hsame : inode' = inode := by
        rcases hphase with rfl | ⟨rfl, -⟩
        · exact (Option.some.inj h).symm
        · exact (Option.some.inj h).symm
      subst hsame
      refine ⟨hpath, hcreator, ?_⟩
      rcases hphase with rfl | ⟨-, rfl⟩
      · exact .inl (go_phase_self q _)
      · exact .inr (Function.update_self _ _ _)
    · rw [go_phase_of_ne hqp] at h
      exact absurd (hsound.eq_of_inode hq hlive h (by rw [hwriting]; rfl)) hqp
  judged q contents h := by
    change ((s.go p phase).phase q).judged? = some contents at h
    by_cases hqp : q = p
    · subst hqp
      rw [go_phase_self] at h
      rcases hphase with rfl | ⟨rfl, -⟩
      · cases h
      · cases h
    · rw [go_phase_of_ne hqp] at h
      exact hsound.judged q contents h

omit [DecidableEq Process] in
/-- The file that a careful process removes is of no process that is alive. -/
theorem Sound.ne_inode_of_careful (hsound : s.Sound rules) {p : Process}
    (hcareful : s.Careful rules (.unlink p)) {acquiring : Bool} {contents : List Char}
    (hphase : s.phase p = .unlinking acquiring contents) (q : Process) (inode : ℕ)
    (hlive : s.live q = true) : (s.phase q).inode? ≠ some inode := by
  intro hinode
  obtain ⟨hpath, -, hwritten⟩ := hsound.owned q inode hlive hinode
  obtain ⟨hsame, hwriting⟩ := hcareful acquiring contents hphase inode hpath
  have hcomplete : Complete (rules.text q (s.acquisition q)) contents := by
    rcases hwritten with hwritten | hwritten
    · exact hwriting q hlive hwritten
    · rw [← hsame, hwritten]
      exact ⟨List.prefix_rfl, Nat.le_succ _⟩
  have hgone := hsound.judged p contents (by rw [hphase]; rfl) q _ hcomplete
  rw [hgone] at hlive
  cases hlive

omit [DecidableEq Process] in
/-- A process that is done with its own file leaves none of a process that is alive. -/
theorem Sound.ne_inode_of_removing (hsound : s.Sound rules) {p : Process} {inode : ℕ}
    (hlive : s.live p = true) (hphase : s.phase p = .removing inode) (q : Process) (inode' : ℕ)
    (hq : s.live q = true) (hne : q ≠ p) : (s.phase q).inode? ≠ some inode' := by
  intro hinode
  exact hne (hsound.eq_of_inode hq hlive hinode (by rw [hphase]; rfl))

/-- A careful step keeps the state sound. -/
theorem Sound.stepAlive (hsound : s.Sound rules) (hrules : rules.Sound) {action : Action Process}
    (hcareful : s.Careful rules action) (hlive : s.live action.process = true)
    (h : s.stepAlive rules action = some s') : s'.Sound rules := by
  cases action with
  | acquire p =>
      simp only [State.stepAlive] at h
      split at h
      · cases h
        refine (hsound.go p .opening (by rintro _ ⟨⟩) (by rintro _ ⟨⟩)).of_eq rfl rfl rfl
          rfl (fun _ => id) ?_
        intro q inode hinode
        have hne : q ≠ p := by
          rintro rfl
          rw [go_phase_self] at hinode
          cases hinode
        exact Function.update_of_ne hne _ _
      · cases h
  | reclaim p =>
      simp only [State.stepAlive] at h
      split at h
      · cases h
        exact hsound.go p _ (by rintro _ ⟨⟩) (by rintro _ ⟨⟩)
      · cases h
  | openExclusive p =>
      simp only [State.stepAlive] at h
      split at h
      · split at h
        · cases h
          exact hsound.go p _ (by rintro _ ⟨⟩) (by rintro _ ⟨⟩)
        · rename_i hpath
          cases h
          exact hsound.create hpath p
      · cases h
  | write p written =>
      simp only [State.stepAlive] at h
      split at h
      · rename_i inode hwriting
        cases h
        refine hsound.write hlive hwriting ?_
        by_cases hall : (rules.text p (s.acquisition p)).length ≤ written
        · rw [if_pos hall, List.take_of_length_le hall]
          exact .inr ⟨rfl, rfl⟩
        · rw [if_neg hall]
          exact .inl rfl
      · cases h
  | restrict p =>
      simp only [State.stepAlive] at h
      split at h
      · rename_i inode hphase
        cases h
        refine hsound.go p _ ?_ ?_
        · intro inode' hinode
          split at hinode
          · cases hinode
          · rw [hphase]
            exact ⟨hinode, by rintro ⟨⟩⟩
        · intro contents hjudged
          split at hjudged
          · cases hjudged
          · cases hjudged
      · cases h
  | read p =>
      simp only [State.stepAlive] at h
      split at h
      · rename_i acquiring hphase
        cases h
        refine hsound.go p _ ?_ ?_
        · intro inode hinode
          split at hinode
          · cases acquiring <;> cases hinode
          · cases hinode
        · intro contents hjudged
          split at hjudged
          · cases acquiring <;> cases hjudged
          · cases hjudged
      · cases h
  | judge p =>
      simp only [State.stepAlive] at h
      split at h
      · rename_i acquiring contents hphase
        cases h
        refine hsound.go p _ ?_ ?_
        · intro inode hinode
          split at hinode
          · cases acquiring <;> cases hinode
          · cases hinode
          · cases hinode
        · intro contents' hjudged
          split at hjudged
          · cases acquiring <;> cases hjudged
          · rename_i hstale
            cases hjudged
            exact fun q n hcomplete => hrules s.live p q n _ hcomplete hstale
          · cases hjudged
      · cases h
  | reread p =>
      simp only [State.stepAlive] at h
      split at h
      · rename_i acquiring contents hphase
        cases h
        refine hsound.go p _ ?_ ?_
        · intro inode hinode
          split at hinode
          · cases acquiring <;> cases hinode
          · split at hinode
            · cases hinode
            · cases acquiring <;> cases hinode
            · cases hinode
        · intro contents' hjudged
          split at hjudged
          · cases acquiring <;> cases hjudged
          · split at hjudged
            · cases hjudged
              exact hsound.judged p contents (by rw [hphase]; rfl)
            · cases acquiring <;> cases hjudged
            · cases hjudged
      · cases h
  | unlink p =>
      simp only [State.stepAlive] at h
      split at h
      · rename_i acquiring contents hphase
        cases h
        have hgone := (hsound.remove
          (hsound.ne_inode_of_careful hcareful hphase)).go p (.resume acquiring)
        exact hgone (by cases acquiring <;> rintro _ ⟨⟩) (by cases acquiring <;> rintro _ ⟨⟩)
      · cases h
  | giveUp p =>
      simp only [State.stepAlive] at h
      split at h
      · cases h
      · cases h
      · cases h
        exact hsound.go p _ (by rintro _ ⟨⟩) (by rintro _ ⟨⟩)
  | release p =>
      simp only [State.stepAlive] at h
      split at h
      · rename_i inode hphase
        cases h
        refine hsound.go p _ ?_ (by rintro _ ⟨⟩)
        rw [hphase]
        exact fun inode' hinode => ⟨hinode, by rintro ⟨⟩⟩
      · cases h
  | readOwn p =>
      simp only [State.stepAlive] at h
      split at h
      · rename_i inode hphase
        cases h
        refine hsound.go p _ ?_ ?_
        · intro inode' hinode
          split at hinode
          · rw [hphase]
            exact ⟨hinode, by rintro ⟨⟩⟩
          · cases hinode
        · intro contents hjudged
          split at hjudged
          · cases hjudged
          · cases hjudged
      · cases h
  | remove p =>
      simp only [State.stepAlive] at h
      split at h
      · rename_i inode hphase
        cases h
        have hidle := hsound.go p .idle (by rintro _ ⟨⟩) (by rintro _ ⟨⟩)
        refine hidle.remove ?_
        intro q inode' hq
        by_cases hqp : q = p
        · subst hqp
          rw [go_phase_self]
          rintro ⟨⟩
        · rw [go_phase_of_ne hqp]
          exact hsound.ne_inode_of_removing hlive hphase q inode' hq hqp
      · cases h
  | crash p =>
      cases h
      refine hsound.of_eq rfl rfl rfl rfl ?_ fun _ _ _ => rfl
      intro q hq
      by_cases hqp : q = p
      · subst hqp
        change Function.update s.live q false q = true at hq
        rw [Function.update_self] at hq
        cases hq
      · change Function.update s.live p false q = true at hq
        rwa [Function.update_of_ne hqp] at hq

/-- A careful step keeps the state sound. -/
theorem Sound.step (hsound : s.Sound rules) (hrules : rules.Sound) {action : Action Process}
    (hcareful : s.Careful rules action) (h : s.step rules action = some s') : s'.Sound rules := by
  unfold State.step at h
  split at h
  · rename_i hlive
    exact hsound.stepAlive hrules hcareful hlive h
  · cases h

omit [DecidableEq Process] in
theorem sound_start (first : Process) : (start first).Sound rules where
  owned := by rintro p inode _ ⟨⟩
  judged := by rintro p contents ⟨⟩

/-- Along careful steps the state stays sound. -/
theorem sound_of_run (hrules : rules.Sound) {first : Process} {actions : List (Action Process)}
    (hcareful : List.Along (Careful rules) (State.step rules) (start first) actions)
    (h : List.run (State.step rules) (start first) actions = some s) : s.Sound rules := by
  refine List.run_induction (motive := fun actions s =>
    List.Along (Careful rules) (State.step rules) (start first) actions → s.Sound rules)
    (fun _ => sound_start first) ?_ h hcareful
  intro actions t action t' hrun ih hstep halong
  obtain ⟨hbefore, hlast⟩ := (List.along_concat hrun).1 halong
  exact (ih hbefore).step hrules hlast hstep

/-- Along careful steps no two processes hold the lock. -/
theorem exclusive_of_run (hrules : rules.Sound) {first : Process} {actions : List (Action Process)}
    (hcareful : List.Along (Careful rules) (State.step rules) (start first) actions)
    (h : List.run (State.step rules) (start first) actions = some s) : s.Exclusive :=
  (sound_of_run hrules hcareful h).exclusive

/-! ## Two processes that judge one file -/

variable (rules) in
/-- A state that steps of the processes lead to. -/
def Reaches (s t : State Process) : Prop :=
  ∃ actions, List.run (State.step rules) s actions = some t

theorem Reaches.trans {t u : State Process} (h : s.Reaches rules t) (h' : t.Reaches rules u) :
    s.Reaches rules u := by
  obtain ⟨actions, hrun⟩ := h
  obtain ⟨actions', hrun'⟩ := h'
  refine ⟨actions ++ actions', ?_⟩
  rw [List.run_append, hrun]
  exact hrun'

theorem Reaches.of_stepAlive {t : State Process} (action : Action Process)
    (hlive : s.live action.process = true) (h : s.stepAlive rules action = some t) :
    s.Reaches rules t := by
  refine ⟨[action], ?_⟩
  rw [List.run, State.step, if_pos hlive, h]
  rfl

variable (rules) in
/-- A process that finds no file creates one, writes its record and holds the lock. -/
theorem reaches_holding {p : Process} (hlive : s.live p = true) (hphase : s.phase p = .opening)
    (hpath : s.path = none) :
    ∃ t : State Process, s.Reaches rules t ∧
      t.phase = Function.update s.phase p (.holding s.next) ∧ t.path = some s.next ∧
      t.contents s.next = rules.text p (s.acquisition p) ∧ t.live = s.live ∧
      t.acquisition = s.acquisition := by
  let s₁ : State Process :=
    { s.go p (.writing s.next) with
      path := some s.next
      contents := Function.update s.contents s.next []
      creator := Function.update s.creator s.next p
      next := s.next + 1 }
  let s₂ : State Process :=
    { s₁.go p (.restricting s.next) with
      contents := Function.update s₁.contents s.next (rules.text p (s.acquisition p)) }
  have hopen : s.Reaches rules s₁ := by
    refine .of_stepAlive (.openExclusive p) hlive ?_
    simp only [stepAlive, hphase, hpath]
    rfl
  have hwrite : s₁.Reaches rules s₂ := by
    refine .of_stepAlive (.write p (rules.text p (s.acquisition p)).length) hlive ?_
    simp only [stepAlive, show s₁.phase p = .writing s.next from go_phase_self p _]
    rw [show s₁.acquisition = s.acquisition from rfl, if_pos (Nat.le_refl _), List.take_length]
  have hrestrict : s₂.Reaches rules (s₂.go p (.holding s.next)) := by
    refine .of_stepAlive (.restrict p) hlive ?_
    simp only [stepAlive, show s₂.phase p = .restricting s.next from go_phase_self p _]
    rfl
  refine ⟨_, (hopen.trans hwrite).trans hrestrict, ?_, rfl, Function.update_self _ _ _, rfl, rfl⟩
  funext q
  by_cases hq : q = p
  · subst hq
    rw [go_phase_self, Function.update_self]
  · rw [go_phase_of_ne hq, Function.update_of_ne hq]
    exact (go_phase_of_ne (s := s₁) hq _).trans (go_phase_of_ne (s := s) hq _)

variable (rules) in
/-- A process comes to remove a file by its path that it judges stale. -/
theorem reaches_unlinking {p : Process} {inode : ℕ} (hlive : s.live p = true)
    (hphase : s.phase p = .idle) (hpath : s.path = some inode)
    (hstale : rules.verdict s.live p (s.contents inode) = .stale)
    (hsame : rules.recheck (s.contents inode) (s.contents inode) = .same) :
    ∃ t : State Process, s.Reaches rules t ∧
      t.phase = Function.update s.phase p (.unlinking true (s.contents inode)) ∧
      t.path = s.path ∧ t.contents = s.contents ∧ t.live = s.live := by
  let s₀ : State Process :=
    { s.go p .opening with
      acquisition := Function.update s.acquisition p (s.acquisition p + 1) }
  let s₁ := s₀.go p (.reading true)
  let s₂ := s₁.go p (.judging true (s.contents inode))
  let s₃ := s₂.go p (.rereading true (s.contents inode))
  have hcurrent : ∀ t : State Process, t.path = s.path → t.contents = s.contents →
      t.current = some (s.contents inode) := by
    intro t htpath htcontents
    rw [current, htpath, hpath, htcontents]
    rfl
  have hacquire : s.Reaches rules s₀ := by
    refine .of_stepAlive (.acquire p) hlive ?_
    simp only [stepAlive, hphase]
    rfl
  have hopen : s₀.Reaches rules s₁ := by
    refine .of_stepAlive (.openExclusive p) hlive ?_
    simp only [stepAlive, show s₀.phase p = .opening from go_phase_self p _,
      show s₀.path = some inode from hpath]
    rfl
  have hread : s₁.Reaches rules s₂ := by
    refine .of_stepAlive (.read p) hlive ?_
    simp only [stepAlive, show s₁.phase p = .reading true from go_phase_self p _,
      hcurrent s₁ rfl rfl]
    rfl
  have hjudge : s₂.Reaches rules s₃ := by
    refine .of_stepAlive (.judge p) hlive ?_
    simp only [stepAlive,
      show s₂.phase p = .judging true (s.contents inode) from go_phase_self p _,
      show rules.verdict s₂.live p (s.contents inode) = .stale from hstale]
    rfl
  have hreread : s₃.Reaches rules (s₃.go p (.unlinking true (s.contents inode))) := by
    refine .of_stepAlive (.reread p) hlive ?_
    simp only [stepAlive,
      show s₃.phase p = .rereading true (s.contents inode) from go_phase_self p _,
      hcurrent s₃ rfl rfl, hsame]
  refine ⟨_, (((hacquire.trans hopen).trans hread).trans hjudge).trans hreread, ?_, rfl, rfl, rfl⟩
  funext q
  by_cases hq : q = p
  · subst hq
    rw [go_phase_self, Function.update_self]
  · simp only [s₃, s₂, s₁, s₀, go, Function.update_of_ne hq]

variable (rules) in
/-- A process removes the file at the path. -/
theorem reaches_opening {p : Process} {contents : List Char} (hlive : s.live p = true)
    (hphase : s.phase p = .unlinking true contents) :
    ∃ t : State Process, s.Reaches rules t ∧ t.phase = Function.update s.phase p .opening ∧
      t.path = none ∧ t.live = s.live := by
  refine ⟨{ s with path := none, phase := Function.update s.phase p .opening },
    .of_stepAlive (.unlink p) hlive ?_, rfl, rfl, rfl⟩
  simp only [stepAlive, hphase]
  rfl

variable (rules) in
/-- A process takes the lock and is gone. -/
theorem exists_gone (first : Process) :
    ∃ s : State Process, (start first).Reaches rules s ∧ s.path = some 0 ∧
      s.contents 0 = rules.text first 1 ∧ s.live first = false ∧
      ∀ p, p ≠ first → s.live p = true ∧ s.phase p = .idle := by
  let s₀ : State Process :=
    { (start first).go first .opening with acquisition := Function.update (fun _ => 0) first 1 }
  have hacquire : (start first).Reaches rules s₀ := .of_stepAlive (.acquire first) rfl rfl
  obtain ⟨s₁, hcreated, hphase, hpath, hcontents, hlive, -⟩ :=
    reaches_holding rules (s := s₀) rfl (go_phase_self first _) rfl
  have hcrash : s₁.Reaches rules { s₁ with live := Function.update s₁.live first false } := by
    refine .of_stepAlive (.crash first) ?_ rfl
    rw [hlive]
    rfl
  refine ⟨_, (hacquire.trans hcreated).trans hcrash, hpath, ?_, Function.update_self _ _ _, ?_⟩
  · refine hcontents.trans ?_
    change rules.text first (Function.update (fun _ => 0) first 1 first) = _
    rw [Function.update_self]
  · intro p hp
    constructor
    · change Function.update s₁.live first false p = true
      rw [Function.update_of_ne hp, hlive]
      rfl
    · change s₁.phase p = .idle
      rw [hphase, Function.update_of_ne hp]
      exact go_phase_of_ne hp _

variable (rules) in
/-- Two processes that are about to remove the file at the path can come to hold the lock both. -/
theorem exists_not_exclusive_of_unlinking {second third : Process} (hne : second ≠ third)
    (hlive : s.live second = true) (hlive' : s.live third = true) {contents : List Char}
    (hphase : s.phase second = .unlinking true contents)
    (hphase' : s.phase third = .unlinking true contents) :
    ∃ t : State Process, s.Reaches rules t ∧ ¬ t.Exclusive := by
  -- the third one removes the file and takes the lock
  obtain ⟨t, hopening, htphase, htpath, htlive⟩ := reaches_opening rules hlive' hphase'
  rw [← htlive] at hlive hlive'
  obtain ⟨u, hcreated, huphase, -, -, hulive, -⟩ :=
    reaches_holding rules hlive' (by rw [htphase, Function.update_self]) htpath
  have hunlinking : u.phase second = .unlinking true contents := by
    rw [huphase, Function.update_of_ne hne, htphase, Function.update_of_ne hne]
    exact hphase
  -- the second one removes what it has not judged, and takes it again
  rw [← hulive] at hlive hlive'
  obtain ⟨v, hopening', hvphase, hvpath, hvlive⟩ := reaches_opening rules hlive hunlinking
  rw [← hvlive] at hlive hlive'
  obtain ⟨w, hcreated', hwphase, -, -, hwlive, -⟩ :=
    reaches_holding rules hlive (by rw [hvphase, Function.update_self]) hvpath
  rw [← hwlive] at hlive hlive'
  refine ⟨w, ((hopening.trans hcreated).trans hopening').trans hcreated', ?_⟩
  intro hexclusive
  have hsecond : w.Holds second := ⟨v.next, by rw [hwphase, Function.update_self]⟩
  have hthird : w.Holds third := by
    refine ⟨t.next, ?_⟩
    rw [hwphase, Function.update_of_ne hne.symm, hvphase, Function.update_of_ne hne.symm, huphase,
      Function.update_self]
  exact hne (hexclusive second third hlive hlive' hsecond hthird)

/-- Whatever the rules are: where two processes may judge the record of a third one stale that is
gone, there is a run after which they both hold the lock. -/
theorem exists_not_exclusive {first second third : Process} (hfirst : second ≠ first)
    (hfirst' : third ≠ first) (hne : second ≠ third)
    (hstale : ∀ live : Process → Bool, live first = false → ∀ p, p ≠ first →
      rules.verdict live p (rules.text first 1) = .stale)
    (hsame : rules.recheck (rules.text first 1) (rules.text first 1) = .same) :
    ∃ s : State Process, (start first).Reaches rules s ∧ ¬ s.Exclusive := by
  obtain ⟨s, hleft, hpath, htext, hgone, hothers⟩ := exists_gone rules first
  have hverdict : ∀ p, p ≠ first → rules.verdict s.live p (s.contents 0) = .stale := by
    intro p hp
    rw [htext]
    exact hstale s.live hgone p hp
  have hrecheck : rules.recheck (s.contents 0) (s.contents 0) = .same := by
    rw [htext]
    exact hsame
  obtain ⟨hlive, hidle⟩ := hothers second hfirst
  obtain ⟨hlive', hidle'⟩ := hothers third hfirst'
  obtain ⟨t, hjudged, htphase, htpath, htcontents, htlive⟩ :=
    reaches_unlinking rules hlive hidle hpath (hverdict second hfirst) hrecheck
  have htidle : t.phase third = .idle := by
    rw [htphase, Function.update_of_ne hne.symm]
    exact hidle'
  rw [← htlive] at hlive hlive'
  obtain ⟨u, hjudged', huphase, -, -, hulive⟩ :=
    reaches_unlinking rules hlive' htidle (htpath.trans hpath)
      (by rw [htlive, htcontents]; exact hverdict third hfirst')
      (by rw [htcontents]; exact hrecheck)
  rw [← hulive] at hlive hlive'
  have hunlinking : u.phase second = .unlinking true (s.contents 0) := by
    rw [huphase, Function.update_of_ne hne, htphase, Function.update_self]
  have hunlinking' : u.phase third = .unlinking true (s.contents 0) := by
    rw [huphase, Function.update_self, htcontents]
  obtain ⟨v, hreaches, hnot⟩ :=
    exists_not_exclusive_of_unlinking rules hne hlive hlive' hunlinking hunlinking'
  exact ⟨v, ((hleft.trans hjudged).trans hjudged').trans hreaches, hnot⟩

end State

end LockFile
