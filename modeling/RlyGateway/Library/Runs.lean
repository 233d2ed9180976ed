import Mathlib.Data.List.Induction

/-!
# Runs and histories

A machine takes one input at a time, or refuses it. A run is what a sequence of inputs leads to, and
a condition on steps is met along it. The history of a run is a list that only grows, and it is
lawful where each of its entries was allowed by those before it.
-/

namespace List

variable {σ ι : Type*} (step : σ → ι → Option σ)

/-- Where a list with one more item is split at an item, that is the last one or an earlier one. -/
theorem concat_eq_append_cons {α : Type*} {l before after : List α} {last a : α}
    (h : l ++ [last] = before ++ a :: after) :
    (l = before ∧ last = a) ∨ ∃ after', l = before ++ a :: after' ∧ after = after' ++ [last] := by
  rcases eq_nil_or_concat after with rfl | ⟨after', last', rfl⟩
  · obtain ⟨hl, hlast⟩ := append_inj' h rfl
    exact Or.inl ⟨hl, (cons.inj hlast).1⟩
  · rw [concat_eq_append, ← cons_append, ← append_assoc] at h
    obtain ⟨hl, hlast⟩ := append_inj' h rfl
    cases hlast
    exact Or.inr ⟨after', hl, concat_eq_append⟩

/-! ## Runs -/

/-- The state after a sequence of inputs, if none is refused. -/
def run : σ → List ι → Option σ
  | s, [] => some s
  | s, input :: inputs => (step s input).bind fun s => run s inputs

variable {step} {s : σ}

theorem run_append (inputs inputs' : List ι) :
    run step s (inputs ++ inputs') = (run step s inputs).bind fun s => run step s inputs' := by
  induction inputs generalizing s with
  | nil => rfl
  | cons input inputs ih =>
      rw [cons_append, run, run, Option.bind_assoc]
      congr 1
      funext s
      exact ih

/-- The last step of a run. -/
theorem run_concat_eq_some {inputs : List ι} {input : ι} {s' : σ} :
    run step s (inputs ++ [input]) = some s' ↔
      ∃ t, run step s inputs = some t ∧ step t input = some s' := by
  rw [run_append, Option.bind_eq_some_iff]
  simp only [run, Option.bind_fun_some]

/-- What holds at the start and is kept by every step holds after every run. -/
theorem run_induction {motive : List ι → σ → Prop} (start : motive [] s)
    (next : ∀ inputs t input t', run step s inputs = some t → motive inputs t →
      step t input = some t' → motive (inputs ++ [input]) t')
    {inputs : List ι} {t : σ} (h : run step s inputs = some t) : motive inputs t := by
  induction inputs using List.reverseRecOn generalizing t with
  | nil =>
      cases h
      exact start
  | append_singleton inputs input ih =>
      obtain ⟨t', hrun, hstep⟩ := run_concat_eq_some.1 h
      exact next inputs t' input t hrun (ih hrun) hstep

/-- A condition on steps holds of every step of a run. -/
def Along (condition : σ → ι → Prop) (step : σ → ι → Option σ) (s : σ) (inputs : List ι) : Prop :=
  ∀ before input after t, inputs = before ++ input :: after → run step s before = some t →
    condition t input

theorem along_nil (condition : σ → ι → Prop) : Along condition step s [] := by
  intro before input after t h
  simp at h

/-- A condition holds along a run exactly if it does at the first step and along the rest. -/
theorem along_cons {condition : σ → ι → Prop} {input : ι} {inputs : List ι} :
    Along condition step s (input :: inputs) ↔
      condition s input ∧ ∀ t, step s input = some t → Along condition step t inputs := by
  constructor
  · intro h
    refine ⟨h [] input inputs s rfl rfl, ?_⟩
    rintro t hstep before input' after t' rfl hbefore
    refine h (input :: before) input' after t' rfl ?_
    rw [run, hstep]
    exact hbefore
  · rintro ⟨hfirst, hrest⟩ before input' after t heq hbefore
    cases before with
    | nil =>
        cases heq
        cases hbefore
        exact hfirst
    | cons head before =>
        cases heq
        obtain ⟨t', hstep, hrun⟩ := Option.bind_eq_some_iff.1 hbefore
        exact hrest t' hstep before input' after t rfl hrun

/-- A condition that can be decided at a step can be decided along a run. -/
instance decidableAlong (condition : σ → ι → Prop) [∀ s input, Decidable (condition s input)] :
    (s : σ) → (inputs : List ι) → Decidable (Along condition step s inputs)
  | _, [] => isTrue (along_nil condition)
  | s, input :: inputs =>
      match hstep : step s input with
      | none => decidable_of_iff (condition s input) (by simp [along_cons, hstep])
      | some t =>
          have := decidableAlong condition t inputs
          decidable_of_iff (condition s input ∧ Along condition step t inputs)
            (by simp [along_cons, hstep])

/-- A condition that holds along a run holds along what is left of it. -/
theorem Along.of_append {condition : σ → ι → Prop} {before rest : List ι} {t : σ}
    (h : Along condition step s (before ++ rest)) (hbefore : run step s before = some t) :
    Along condition step t rest := by
  rintro before' input after t' rfl hbefore'
  refine h (before ++ before') input after t' (append_assoc before before' _).symm ?_
  rw [run_append, hbefore]
  exact hbefore'

/-- A condition that holds along a run holds along its beginning. -/
theorem Along.of_append_left {condition : σ → ι → Prop} {before rest : List ι}
    (h : Along condition step s (before ++ rest)) : Along condition step s before := by
  rintro before' input after t rfl hbefore'
  exact h before' input (after ++ rest) t (by simp) hbefore'

/-- A condition holds along a run exactly if it does before the last step and of that step. -/
theorem along_concat {condition : σ → ι → Prop} {inputs : List ι} {input : ι} {t : σ}
    (hrun : run step s inputs = some t) :
    Along condition step s (inputs ++ [input]) ↔
      Along condition step s inputs ∧ condition t input := by
  constructor
  · intro h
    refine ⟨?_, h inputs input [] t rfl hrun⟩
    rintro before input' after t' rfl hbefore
    exact h before input' (after ++ [input]) t' (by simp) hbefore
  · rintro ⟨halong, hlast⟩ before input' after t' heq hbefore
    rcases concat_eq_append_cons heq with ⟨rfl, rfl⟩ | ⟨after', hsplit, -⟩
    · rw [hrun] at hbefore
      cases hbefore
      exact hlast
    · exact halong before input' after' t' hsplit hbefore

/-! ## Histories -/

variable {α : Type*} {allowed : List α → α → Prop}

/-- Every entry of a history was allowed by the entries before it. -/
def Lawful (allowed : List α → α → Prop) (history : List α) : Prop :=
  ∀ before entry after, history = before ++ entry :: after → allowed before entry

theorem lawful_nil : Lawful allowed [] := by
  intro before entry after h
  simp at h

/-- A history stays lawful exactly with an entry that it allows. -/
theorem lawful_concat {history : List α} {entry : α} :
    Lawful allowed (history ++ [entry]) ↔ Lawful allowed history ∧ allowed history entry := by
  constructor
  · intro h
    refine ⟨?_, h history entry [] rfl⟩
    rintro before entry' after rfl
    exact h before entry' (after ++ [entry]) (by simp)
  · rintro ⟨hlawful, hlast⟩ before entry' after heq
    rcases concat_eq_append_cons heq with ⟨rfl, rfl⟩ | ⟨after', hsplit, -⟩
    · exact hlast
    · exact hlawful before entry' after' hsplit

/-- An entry of a lawful history was allowed by those before its place. -/
theorem Lawful.of_getElem? {history : List α} (h : Lawful allowed history) {i : ℕ} {entry : α}
    (hentry : history[i]? = some entry) : allowed (history.take i) entry := by
  obtain ⟨hi, rfl⟩ := getElem?_eq_some_iff.1 hentry
  refine h (history.take i) history[i] (history.drop (i + 1)) ?_
  rw [getElem_cons_drop, take_append_drop]

/-- A history stays lawful exactly with more that is lawful behind it. -/
theorem lawful_append {history later : List α} :
    Lawful allowed (history ++ later) ↔
      Lawful allowed history ∧ Lawful (fun before entry => allowed (history ++ before) entry) later := by
  induction later using List.reverseRecOn with
  | nil => simp [lawful_nil]
  | append_singleton later entry ih =>
      rw [← append_assoc, lawful_concat, ih, lawful_concat, and_assoc]

/-- The beginning of a lawful history is lawful. -/
theorem Lawful.of_append {history later : List α} (h : Lawful allowed (history ++ later)) :
    Lawful allowed history := by
  rintro before entry after rfl
  exact h before entry (after ++ later) (by simp)

/-! ## What has begun and not ended -/

/-- An entry began it, and none since has ended it. What an entry does depends on those before. -/
def Since (begins ends : List α → α → Prop) (history : List α) : Prop :=
  ∃ before entry between, history = before ++ entry :: between ∧ begins before entry ∧
    ∀ middle other rest, between = middle ++ other :: rest →
      ¬ ends (before ++ entry :: middle) other

section Since

variable {begins ends begins' ends' : List α → α → Prop}

theorem not_since_nil : ¬ Since begins ends ([] : List α) := by
  rintro ⟨before, entry, between, h, -⟩
  simp at h

/-- With one more entry, that one begins it, or it had begun and that one does not end it. -/
theorem since_concat {history : List α} {last : α} :
    Since begins ends (history ++ [last]) ↔
      begins history last ∨ (Since begins ends history ∧ ¬ ends history last) := by
  constructor
  · rintro ⟨before, entry, between, heq, hbegins, hkept⟩
    rcases concat_eq_append_cons heq with ⟨rfl, rfl⟩ | ⟨between', rfl, rfl⟩
    · exact .inl hbegins
    · refine .inr ⟨⟨before, entry, between', rfl, hbegins, ?_⟩, hkept between' last [] rfl⟩
      rintro middle other rest rfl
      exact hkept middle other (rest ++ [last]) (by simp)
  · rintro (hbegins | ⟨⟨before, entry, between, rfl, hbegins, hkept⟩, hlast⟩)
    · refine ⟨history, last, [], rfl, hbegins, ?_⟩
      intro middle other rest h
      simp at h
    · refine ⟨before, entry, between ++ [last], by simp, hbegins, ?_⟩
      intro middle other rest heq
      rcases concat_eq_append_cons heq with ⟨rfl, rfl⟩ | ⟨rest', rfl, -⟩
      · exact hlast
      · exact hkept middle other rest' rfl

/-- What begins more often and ends less often is still on. -/
theorem Since.mono {history : List α} (h : Since begins ends history)
    (hbegins : ∀ before entry, begins before entry → begins' before entry)
    (hends : ∀ before entry, ends' before entry → ends before entry) :
    Since begins' ends' history := by
  obtain ⟨before, entry, between, heq, hentry, hkept⟩ := h
  exact ⟨before, entry, between, heq, hbegins _ _ hentry,
    fun middle other rest hsplit hother => hkept middle other rest hsplit (hends _ _ hother)⟩

end Since

/-- The value that the last entry with one gives. -/
def latest? {β : Type*} (value? : α → Option β) (history : List α) : Option β :=
  (history.filterMap value?).getLast?

@[simp] theorem latest?_nil {β : Type*} (value? : α → Option β) : latest? value? [] = none := rfl

theorem latest?_concat {β : Type*} (value? : α → Option β) (history : List α) (entry : α) :
    latest? value? (history ++ [entry]) = (value? entry).or (latest? value? history) := by
  rw [latest?, latest?, filterMap_append, getLast?_append]
  cases hvalue : value? entry with
  | none => simp [hvalue]
  | some value => simp [hvalue]

theorem latest?_append {β : Type*} (value? : α → Option β) (history later : List α) :
    latest? value? (history ++ later) = (latest? value? later).or (latest? value? history) := by
  rw [latest?, filterMap_append, getLast?_append]
  rfl

/-- An entry gives a value exactly where there is a last one. -/
theorem isSome_latest? {β : Type*} {value? : α → Option β} {history : List α} :
    (latest? value? history).isSome ↔ history.filterMap value? ≠ [] := by
  rw [latest?, getLast?_isSome]

end List
