import Mathlib.Data.List.Infix

/-!
# Replacing every match

A pattern looks at the front of a text. The matches are searched from left to right, do not overlap,
and each is replaced. A text in two parts is searched by searching the first one with the second in
sight, and then what the last match leaves of the second.
-/

universe u

/-- What stands for a match at the front of a text, and how many items behind the first it covers. -/
abbrev MatchPattern (α : Type u) := List α → Option (List α × ℕ)

namespace MatchPattern

variable {α : Type u} (p : MatchPattern α)

/-- Replace the matches behind the next `skip` items, which the last match covers. -/
def replaceFrom : ℕ → List α → List α
  | _, [] => []
  | skip + 1, _ :: rest => replaceFrom skip rest
  | 0, item :: rest =>
      match p (item :: rest) with
      | some (replacement, more) => replacement ++ replaceFrom more rest
      | none => item :: replaceFrom 0 rest

/-- Replace every match. -/
def replaceAll (text : List α) : List α := p.replaceFrom 0 text

/-- Search the front of a text: what is written for it, and how many items of the rest its last
match covers. -/
def scan (rest : List α) : ℕ → List α → List α × ℕ
  | skip, [] => ([], skip)
  | skip + 1, _ :: front => scan rest skip front
  | 0, item :: front =>
      match p (item :: (front ++ rest)) with
      | some (replacement, more) =>
          (replacement ++ (scan rest more front).1, (scan rest more front).2)
      | none => (item :: (scan rest 0 front).1, (scan rest 0 front).2)

/-- How many items of the rest a match covers that begins in front of it. -/
def overlap (front rest : List α) : ℕ := (p.scan rest 0 front).2

/-- A match ends where the text ends. -/
def Bounded : Prop := ∀ text replacement more, p text = some (replacement, more) → more < text.length

/-- An item that no match looks beyond. -/
def Bars (bar : α) : Prop :=
  (∀ rest, p (bar :: rest) = none) ∧
    ∀ item front rest, p (item :: (front ++ bar :: rest)) = p (item :: front)

variable {p}

/-! ## Texts in two parts -/

theorem replaceFrom_eq (skip : ℕ) (text : List α) :
    p.replaceFrom skip text = p.replaceAll (text.drop skip) := by
  induction text generalizing skip with
  | nil =>
      rw [List.drop_nil]
      cases skip <;> rfl
  | cons item text ih =>
      cases skip with
      | zero => rfl
      | succ skip => exact ih skip

theorem replaceFrom_append (skip : ℕ) (front rest : List α) :
    p.replaceFrom skip (front ++ rest) =
      (p.scan rest skip front).1 ++ p.replaceFrom (p.scan rest skip front).2 rest := by
  induction front generalizing skip with
  | nil => rfl
  | cons item front ih =>
      cases skip with
      | succ skip => exact ih skip
      | zero =>
          rw [List.cons_append, replaceFrom, scan]
          cases p (item :: (front ++ rest)) with
          | none => exact congrArg (item :: ·) (ih 0)
          | some found =>
              show found.1 ++ p.replaceFrom found.2 (front ++ rest) = _
              rw [ih found.2, ← List.append_assoc]

theorem replaceAll_append (front rest : List α) :
    p.replaceAll (front ++ rest) =
      (p.scan rest 0 front).1 ++ p.replaceAll (rest.drop (p.overlap front rest)) := by
  rw [← replaceFrom_eq]
  exact replaceFrom_append 0 front rest

theorem replaceAll_append_of_overlap {front rest : List α} (h : p.overlap front rest = 0) :
    p.replaceAll (front ++ rest) = (p.scan rest 0 front).1 ++ p.replaceAll rest := by
  rw [replaceAll_append, h, List.drop_zero]

theorem scan_append (front middle rest : List α) (skip : ℕ) :
    p.scan rest skip (front ++ middle) =
      ((p.scan (middle ++ rest) skip front).1 ++
          (p.scan rest (p.scan (middle ++ rest) skip front).2 middle).1,
        (p.scan rest (p.scan (middle ++ rest) skip front).2 middle).2) := by
  induction front generalizing skip with
  | nil => rfl
  | cons item front ih =>
      cases skip with
      | succ skip => exact ih skip
      | zero =>
          rw [List.cons_append, scan, scan, List.append_assoc]
          cases p (item :: (front ++ (middle ++ rest))) with
          | none => simp only [ih 0, List.cons_append]
          | some found => simp only [ih found.2, List.append_assoc]

/-- Covered items are passed over. -/
theorem scan_eq_drop {skip : ℕ} {front : List α} (h : skip ≤ front.length) (rest : List α) :
    p.scan rest skip front = p.scan rest 0 (front.drop skip) := by
  induction front generalizing skip with
  | nil =>
      rw [Nat.le_zero.1 h, List.drop_nil]
  | cons item front ih =>
      cases skip with
      | zero => rfl
      | succ skip => exact ih (Nat.le_of_succ_le_succ h)

theorem scan_of_length_le {skip : ℕ} {front : List α} (h : front.length ≤ skip) (rest : List α) :
    p.scan rest skip front = ([], skip - front.length) := by
  induction front generalizing skip with
  | nil => rfl
  | cons item front ih =>
      cases skip with
      | zero => exact absurd h (by simp)
      | succ skip =>
          rw [List.length_cons, Nat.add_sub_add_right]
          exact ih (Nat.le_of_succ_le_succ h)

theorem replaceAll_cons_of_none {item : α} {rest : List α} (h : p (item :: rest) = none) :
    p.replaceAll (item :: rest) = item :: p.replaceAll rest := by
  rw [replaceAll, replaceFrom, h]
  rfl

theorem replaceAll_cons_of_some {item : α} {rest replacement : List α} {more : ℕ}
    (h : p (item :: rest) = some (replacement, more)) :
    p.replaceAll (item :: rest) = replacement ++ p.replaceAll (rest.drop more) := by
  rw [replaceAll, replaceFrom, h]
  exact congrArg (replacement ++ ·) (replaceFrom_eq more rest)

/-! ## Searches that agree -/

/-- The search of a front does not see a rest beyond what the pattern sees. -/
theorem scan_congr {front rest rest' : List α} (skip : ℕ)
    (h : ∀ item tail, p (item :: (tail ++ rest)) = p (item :: (tail ++ rest'))) :
    p.scan rest skip front = p.scan rest' skip front := by
  induction front generalizing skip with
  | nil => rfl
  | cons item front ih =>
      cases skip with
      | succ skip => exact ih skip
      | zero =>
          rw [scan, scan, h]
          simp only [ih]

/-- Nothing is found. -/
theorem scan_of_none {front rest : List α}
    (h : ∀ item tail, item :: tail <:+ front → p (item :: (tail ++ rest)) = none) :
    p.scan rest 0 front = (front, 0) := by
  induction front with
  | nil => rfl
  | cons item front ih =>
      have htail := ih fun item' tail hsuffix => h item' tail (hsuffix.trans (List.suffix_cons _ _))
      rw [scan, h item front (List.suffix_refl _)]
      simp only [htail]

theorem replaceAll_append_of_none {front : List α} (rest : List α)
    (h : ∀ item tail, item :: tail <:+ front → p (item :: (tail ++ rest)) = none) :
    p.replaceAll (front ++ rest) = front ++ p.replaceAll rest := by
  rw [replaceAll_append, overlap, scan_of_none h, List.drop_zero]

/-- A match that covers items of the rest is found at some end of the front, and nothing is written
after it. -/
theorem exists_of_overlap {front rest : List α} (h : 0 < p.overlap front rest) :
    ∃ written item tail replacement more, item :: tail <:+ front ∧
      p (item :: (tail ++ rest)) = some (replacement, more) ∧
      p.overlap front rest = more - tail.length ∧
      (p.scan rest 0 front).1 = written ++ replacement := by
  suffices hskip : ∀ skip ≤ front.length, 0 < (p.scan rest skip front).2 →
      ∃ written item tail replacement more, item :: tail <:+ front ∧
        p (item :: (tail ++ rest)) = some (replacement, more) ∧
        (p.scan rest skip front).2 = more - tail.length ∧
        (p.scan rest skip front).1 = written ++ replacement from hskip 0 (Nat.zero_le _) h
  clear h
  induction front with
  | nil =>
      intro skip hle h
      exact absurd (Nat.le_zero.1 hle) h.ne'
  | cons item front ih =>
      intro skip hle h
      cases skip with
      | succ skip =>
          obtain ⟨written, first, tail, replacement, more, hsuffix, hrest⟩ :=
            ih skip (Nat.le_of_succ_le_succ hle) h
          exact ⟨written, first, tail, replacement, more,
            hsuffix.trans (List.suffix_cons _ _), hrest⟩
      | zero =>
          rw [scan] at h ⊢
          cases hfound : p (item :: (front ++ rest)) with
          | none =>
              rw [hfound] at h
              obtain ⟨written, first, tail, replacement, more, hsuffix, hp, hoverlap, hwritten⟩ :=
                ih 0 (Nat.zero_le _) h
              exact ⟨item :: written, first, tail, replacement, more,
                hsuffix.trans (List.suffix_cons _ _), hp, hoverlap, congrArg (item :: ·) hwritten⟩
          | some found =>
              rw [hfound] at h
              by_cases hmore : found.2 ≤ front.length
              · obtain ⟨written, first, tail, replacement, more, hsuffix, hp, hoverlap, hwritten⟩ :=
                  ih found.2 hmore h
                exact ⟨found.1 ++ written, first, tail, replacement, more,
                  hsuffix.trans (List.suffix_cons _ _), hp, hoverlap, by
                    rw [List.append_assoc, ← hwritten]⟩
              · have hscan := scan_of_length_le (p := p) (Nat.le_of_not_le hmore) rest
                refine ⟨[], item, front, found.1, found.2, List.suffix_refl _, hfound, ?_, ?_⟩
                · exact congrArg Prod.snd hscan
                · show found.1 ++ (p.scan rest found.2 front).1 = [] ++ found.1
                  rw [hscan, List.append_nil, List.nil_append]

/-- Two rests are searched alike, or the search comes to an end of the front where the pattern tells
them apart. -/
theorem scan_eq_or_exists (front rest rest' : List α) :
    p.scan rest 0 front = p.scan rest' 0 front ∨
      ∃ written item tail, item :: tail <:+ front ∧
        p (item :: (tail ++ rest)) ≠ p (item :: (tail ++ rest')) ∧
        p.overlap front rest = p.overlap (item :: tail) rest ∧
        (p.scan rest' 0 front).1 = written ++ (p.scan rest' 0 (item :: tail)).1 := by
  suffices hskip : ∀ skip, p.scan rest skip front = p.scan rest' skip front ∨
      ∃ written item tail, item :: tail <:+ front ∧
        p (item :: (tail ++ rest)) ≠ p (item :: (tail ++ rest')) ∧
        (p.scan rest skip front).2 = p.overlap (item :: tail) rest ∧
        (p.scan rest' skip front).1 = written ++ (p.scan rest' 0 (item :: tail)).1 from hskip 0
  induction front with
  | nil => exact fun skip => .inl rfl
  | cons item front ih =>
      intro skip
      cases skip with
      | succ skip =>
          obtain heq | ⟨written, first, tail, hsuffix, hrest⟩ := ih skip
          · exact .inl heq
          · exact .inr ⟨written, first, tail, hsuffix.trans (List.suffix_cons _ _), hrest⟩
      | zero =>
          by_cases hp : p (item :: (front ++ rest)) = p (item :: (front ++ rest'))
          · rw [scan, scan, hp]
            cases p (item :: (front ++ rest')) with
            | none =>
                obtain heq | ⟨written, first, tail, hsuffix, hne, hoverlap, hwritten⟩ := ih 0
                · exact .inl (by simp only [heq])
                · exact .inr ⟨item :: written, first, tail, hsuffix.trans (List.suffix_cons _ _),
                    hne, hoverlap, congrArg (item :: ·) hwritten⟩
            | some found =>
                obtain heq | ⟨written, first, tail, hsuffix, hne, hoverlap, hwritten⟩ := ih found.2
                · exact .inl (by simp only [heq])
                · refine .inr ⟨found.1 ++ written, first, tail,
                    hsuffix.trans (List.suffix_cons _ _), hne, hoverlap, ?_⟩
                  rw [List.append_assoc, ← hwritten]
          · exact .inr ⟨[], item, front, List.suffix_refl _, hp, rfl, rfl⟩

/-- A search that covers items of the rest is the same over every rest that the pattern does not tell
apart from this one, at the ends of the front that hold what a match over the boundary needs. -/
theorem scan_eq_of_overlap {front rest rest' : List α} (needed : List α → Prop)
    (hmono : ∀ tail text, tail <:+ text → needed tail → needed text)
    (hneeded : ∀ item tail replacement more, p (item :: (tail ++ rest)) = some (replacement, more) →
      tail.length < more → needed (item :: tail))
    (hsame : ∀ item tail, needed (item :: tail) →
      p (item :: (tail ++ rest)) = p (item :: (tail ++ rest')))
    (h : 0 < p.overlap front rest) : p.scan rest' 0 front = p.scan rest 0 front := by
  obtain heq | ⟨written, item, tail, hsuffix, hne, hoverlap, -⟩ :=
    scan_eq_or_exists (p := p) front rest rest'
  · exact heq.symm
  · rw [hoverlap] at h
    obtain ⟨-, first, after, replacement, more, hlater, hfound, hcovered, -⟩ := exists_of_overlap h
    have hafter : needed (first :: after) :=
      hneeded first after replacement more hfound (Nat.lt_of_sub_pos (hcovered ▸ h))
    exact absurd (hsame item tail (hmono _ _ hlater hafter)) hne

/-! ## Bars -/

theorem scan_bar {bar : α} (hbounded : p.Bounded) (hbars : p.Bars bar) (rest : List α) {skip : ℕ}
    {front : List α} (hskip : skip ≤ front.length) :
    p.scan (bar :: rest) skip front = (p.replaceFrom skip front, 0) := by
  induction front generalizing skip with
  | nil =>
      rw [Nat.le_zero.1 hskip]
      rfl
  | cons item front ih =>
      cases skip with
      | succ skip => exact ih (Nat.le_of_succ_le_succ hskip)
      | zero =>
          rw [scan, replaceFrom, hbars.2]
          cases hfound : p (item :: front) with
          | none => simp only [ih (Nat.zero_le _)]
          | some found =>
              have hmore := hbounded _ _ _ hfound
              simp only [ih (Nat.le_of_lt_succ hmore)]

/-- The text before a bar and the one behind it are searched for themselves. -/
theorem replaceAll_bar {bar : α} (hbounded : p.Bounded) (hbars : p.Bars bar)
    (front rest : List α) :
    p.replaceAll (front ++ bar :: rest) = p.replaceAll front ++ bar :: p.replaceAll rest := by
  have hscan := scan_bar hbounded hbars rest (Nat.zero_le front.length)
  rw [replaceAll_append, overlap, hscan, List.drop_zero, replaceAll_cons_of_none (hbars.1 rest)]
  rfl

/-- No match goes on behind a bar. -/
theorem overlap_append_bar {bar : α} (hbounded : p.Bounded) (hbars : p.Bars bar)
    (front rest : List α) : p.overlap (front ++ [bar]) rest = 0 := by
  have hscan := scan_bar hbounded hbars rest (Nat.zero_le front.length)
  rw [overlap, scan_append, List.singleton_append, hscan, scan, List.nil_append, hbars.1]
  rfl

end MatchPattern

/-! ## Runs behind spaces -/

section SpacedRun

variable {α : Type u} (space inRun : α → Bool)

/-- The length of a run of items behind any number of spaces. -/
def spacedRun : List α → Option ℕ
  | [] => none
  | item :: rest =>
      if space item then (spacedRun rest).map (· + 1)
      else if inRun item then some ((rest.takeWhile inRun).length + 1)
      else none

variable {space inRun}

theorem spacedRun_le {text : List α} {length : ℕ} (h : spacedRun space inRun text = some length) :
    0 < length ∧ length ≤ text.length := by
  induction text generalizing length with
  | nil => cases h
  | cons item text ih =>
      rw [spacedRun] at h
      split at h
      · obtain ⟨inner, hinner, rfl⟩ := Option.map_eq_some_iff.1 h
        have := ih hinner
        rw [List.length_cons]
        omega
      · split at h
        · have := (List.takeWhile_prefix inRun (l := text)).length_le
          cases h
          rw [List.length_cons]
          omega
        · cases h

theorem takeWhile_bar {bar : α} (hrun : inRun bar = false) (front rest : List α) :
    (front ++ bar :: rest).takeWhile inRun = front.takeWhile inRun := by
  rw [List.takeWhile_append, List.takeWhile_cons_of_neg (by simp [hrun]), List.append_nil]
  split
  · next hlength => exact ((List.takeWhile_prefix inRun).eq_of_length hlength).symm
  · rfl

/-- An item that is neither a space nor in a run is not passed. -/
theorem spacedRun_bar {bar : α} (hspace : space bar = false) (hrun : inRun bar = false)
    (front rest : List α) :
    spacedRun space inRun (front ++ bar :: rest) = spacedRun space inRun front := by
  induction front with
  | nil => simp [spacedRun, hspace, hrun]
  | cons item front ih =>
      rw [List.cons_append, spacedRun, spacedRun, ih, takeWhile_bar hrun]

theorem spacedRun_spaces {spaces : List α} (h : ∀ item ∈ spaces, space item = true)
    (rest : List α) :
    spacedRun space inRun (spaces ++ rest) =
      (spacedRun space inRun rest).map (· + spaces.length) := by
  induction spaces with
  | nil => simp
  | cons item spaces ih =>
      obtain ⟨hitem, hspaces⟩ := List.forall_mem_cons.1 h
      rw [List.cons_append, spacedRun, if_pos hitem, ih hspaces, Option.map_map]
      rfl

theorem spacedRun_of_spaces {spaces : List α} (h : ∀ item ∈ spaces, space item = true) :
    spacedRun space inRun spaces = none := by
  rw [← List.append_nil spaces, spacedRun_spaces h]
  rfl

/-- What follows tells only where all that is there so far is spaces, or a run that is still open. -/
theorem spacedRun_append (front rest : List α) :
    spacedRun space inRun (front ++ rest) = spacedRun space inRun front ∨
      (∀ item ∈ front, space item = true) ∨
        spacedRun space inRun front = some front.length := by
  induction front with
  | nil => exact .inr (.inl (by simp))
  | cons item front ih =>
      rw [List.cons_append, spacedRun, spacedRun]
      by_cases hitem : space item = true
      · simp only [if_pos hitem]
        obtain heq | hspaces | hopen := ih
        · exact .inl (congrArg _ heq)
        · exact .inr (.inl (List.forall_mem_cons.2 ⟨hitem, hspaces⟩))
        · exact .inr (.inr (by rw [hopen]; rfl))
      · simp only [if_neg hitem]
        by_cases hrun : inRun item = true
        · simp only [if_pos hrun]
          rw [List.takeWhile_append]
          split
          · next hlength => exact .inr (.inr (by rw [hlength]; rfl))
          · exact .inl rfl
        · exact .inl (by simp only [if_neg hrun])

/-- A run ends at a space. -/
theorem spacedRun_stop {front rest : List α} {item after : α} {length : ℕ}
    (hitem : space item = false) (hafter : space after = true)
    (hspaces : ∀ item, inRun item = true → space item = false)
    (h : spacedRun space inRun (front ++ item :: after :: rest) = some length) :
    length ≤ front.length + 1 := by
  have hstop : inRun after = false := by
    cases hrun : inRun after with
    | false => rfl
    | true =>
        rw [hspaces after hrun] at hafter
        cases hafter
  induction front generalizing length with
  | nil =>
      rw [List.nil_append, spacedRun, if_neg (by simp [hitem]),
        List.takeWhile_cons_of_neg (by simp [hstop])] at h
      split at h
      · cases h
        exact le_rfl
      · cases h
  | cons first front ih =>
      rw [List.cons_append, spacedRun] at h
      rw [List.length_cons]
      split at h
      · obtain ⟨inner, hinner, rfl⟩ := Option.map_eq_some_iff.1 h
        have := ih hinner
        omega
      · split at h
        · have hrun : ((front ++ item :: after :: rest).takeWhile inRun).length ≤
              front.length + 1 := by
            rw [show front ++ item :: after :: rest = (front ++ [item]) ++ after :: rest by simp,
              List.takeWhile_append, List.takeWhile_cons_of_neg (by simp [hstop]), List.append_nil]
            have hle := (List.takeWhile_prefix inRun (l := front ++ [item])).length_le
            rw [List.length_append, List.length_singleton] at hle
            split
            · simp
            · exact hle
          cases h
          omega
        · cases h

theorem length_takeWhile_append_run {run : List α} (hrun : ∀ item ∈ run, inRun item = true)
    {rest : List α} (hrest : rest.takeWhile inRun = []) (front : List α) :
    ((front ++ (run ++ rest)).takeWhile inRun).length =
      if (front.takeWhile inRun).length = front.length then front.length + run.length
      else (front.takeWhile inRun).length := by
  rw [List.takeWhile_append, List.takeWhile_append_of_pos hrun, hrest, List.append_nil]
  split
  · exact List.length_append
  · rfl

variable {run : List α} (hrun : ∀ item ∈ run, inRun item = true)
  (hspaces : ∀ item, inRun item = true → space item = false)
include hrun hspaces

theorem spacedRun_run (hne : run ≠ []) {rest : List α} (hrest : rest.takeWhile inRun = []) :
    spacedRun space inRun (run ++ rest) = some run.length := by
  cases run with
  | nil => exact absurd rfl hne
  | cons item run =>
      obtain ⟨hitem, hrun⟩ := List.forall_mem_cons.1 hrun
      rw [List.cons_append, spacedRun, if_neg (by rw [hspaces _ hitem]; decide), if_pos hitem,
        List.takeWhile_append_of_pos hrun, hrest, List.append_nil]
      rfl

/-- A match that reaches into a run covers it. -/
theorem le_spacedRun {front rest : List α} {length : ℕ}
    (h : spacedRun space inRun (front ++ (run ++ rest)) = some length)
    (hlength : front.length < length) : front.length + run.length ≤ length := by
  induction front generalizing length with
  | nil =>
      cases run with
      | nil => simp
      | cons item run =>
          obtain ⟨hitem, hrun⟩ := List.forall_mem_cons.1 hrun
          rw [List.nil_append, List.cons_append, spacedRun,
            if_neg (by rw [hspaces _ hitem]; decide), if_pos hitem,
            List.takeWhile_append_of_pos hrun, List.length_append] at h
          cases h
          simp only [List.length_cons, List.length_nil]
          omega
  | cons item front ih =>
      rw [List.cons_append, spacedRun] at h
      rw [List.length_cons] at hlength ⊢
      split at h
      · obtain ⟨inner, hinner, rfl⟩ := Option.map_eq_some_iff.1 h
        have := ih hinner (by omega)
        omega
      · split at h
        · rw [List.takeWhile_append] at h
          split at h
          · next hfront =>
              rw [List.takeWhile_append_of_pos hrun] at h
              cases h
              simp only [List.length_append]
              omega
          · have := (List.takeWhile_prefix inRun (l := front)).length_le
            cases h
            omega
        · cases h

/-- Runs of one length are not told apart. -/
theorem spacedRun_congr {run' : List α} (hrun' : ∀ item ∈ run', inRun item = true)
    (hlength : run.length = run'.length) {rest rest' : List α} (hrest : rest.takeWhile inRun = [])
    (hrest' : rest'.takeWhile inRun = []) (hne : run ≠ []) (front : List α) :
    spacedRun space inRun (front ++ (run ++ rest)) =
      spacedRun space inRun (front ++ (run' ++ rest')) := by
  induction front with
  | nil =>
      have hne' : run' ≠ [] := fun h => hne (List.length_eq_zero_iff.1 (by rw [hlength, h]; rfl))
      rw [List.nil_append, List.nil_append, spacedRun_run hrun hspaces hne hrest,
        spacedRun_run hrun' hspaces hne' hrest', hlength]
  | cons item front ih =>
      have htake := length_takeWhile_append_run hrun hrest front
      rw [hlength, ← length_takeWhile_append_run hrun' hrest' front] at htake
      rw [List.cons_append, List.cons_append, spacedRun, spacedRun, ih, htake]

end SpacedRun
