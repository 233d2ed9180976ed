import Mathlib.Data.List.Basic

/-!
# Generators

A generator yields values and then goes on with a state or throws. `Yields` is such a run, `Ensures`
its partial-correctness judgment: what holds of everything yielded so far and of the state, if the
run does not throw. The judgment has one rule for each way to build a generator, a loop over a list
included.
-/

universe u v w

/-- What a generator does: the values it yields, then the state it goes on with or what it
throws. -/
structure Yields (ω : Type u) (ε : Type v) (σ : Type w) where
  values : List ω
  ending : Except ε σ

namespace Yields

variable {ω : Type u} {ε : Type v} {σ τ : Type w} {ι : Type*}

/-! ## Building generators -/

/-- Yield nothing and go on. -/
def done (s : σ) : Yields ω ε σ := ⟨[], .ok s⟩

/-- Throw. -/
def fail (failure : ε) : Yields ω ε σ := ⟨[], .error failure⟩

/-- Yield values and go on. -/
def emit (values : List ω) (s : σ) : Yields ω ε σ := ⟨values, .ok s⟩

/-- Run one generator after the other. -/
def andThen (first : Yields ω ε σ) (next : σ → Yields ω ε τ) : Yields ω ε τ :=
  match first.ending with
  | .error failure => ⟨first.values, .error failure⟩
  | .ok s => ⟨first.values ++ (next s).values, (next s).ending⟩

instance : Monad (Yields ω ε) where
  pure := done
  bind := andThen

/-- Run a step for each item of a list. -/
def forEach (step : σ → ι → Yields ω ε σ) (s : σ) : List ι → Yields ω ε σ
  | [] => done s
  | item :: items => step s item >>= fun s => forEach step s items

@[simp] theorem values_emit (values : List ω) (s : σ) :
    (emit values s : Yields ω ε σ).values = values := rfl

@[simp] theorem ending_emit (values : List ω) (s : σ) :
    (emit values s : Yields ω ε σ).ending = .ok s := rfl

@[simp] theorem values_pure (s : σ) : (pure s : Yields ω ε σ).values = [] := rfl

@[simp] theorem ending_pure (s : σ) : (pure s : Yields ω ε σ).ending = .ok s := rfl

theorem bind_def (first : Yields ω ε σ) (next : σ → Yields ω ε τ) :
    first >>= next = andThen first next := rfl

theorem bind_of_ok {first : Yields ω ε σ} {s : σ} (h : first.ending = .ok s)
    (next : σ → Yields ω ε τ) :
    first >>= next = ⟨first.values ++ (next s).values, (next s).ending⟩ := by
  rw [bind_def, andThen, h]

theorem bind_of_error {first : Yields ω ε σ} {failure : ε} (h : first.ending = .error failure)
    (next : σ → Yields ω ε τ) : first >>= next = ⟨first.values, .error failure⟩ := by
  rw [bind_def, andThen, h]

theorem pure_bind (s : σ) (next : σ → Yields ω ε τ) :
    (pure s : Yields ω ε σ) >>= next = next s := rfl

theorem emit_bind (values : List ω) (s : σ) (next : σ → Yields ω ε τ) :
    (emit values s : Yields ω ε σ) >>= next = ⟨values ++ (next s).values, (next s).ending⟩ := rfl

theorem bind_assoc {υ : Type w} (first : Yields ω ε σ) (second : σ → Yields ω ε τ)
    (third : τ → Yields ω ε υ) :
    first >>= second >>= third = first >>= fun s => second s >>= third := by
  cases h : first.ending with
  | error failure => rw [bind_of_error h, bind_of_error h, bind_of_error rfl]
  | ok s =>
      rw [bind_of_ok h, bind_of_ok h]
      cases h' : (second s).ending with
      | error failure => rw [bind_of_error rfl, bind_of_error h']
      | ok t =>
          rw [bind_of_ok rfl, bind_of_ok h']
          simp only [List.append_assoc]

/-- A run that goes on went on at every step. -/
theorem bind_ending_eq_ok {first : Yields ω ε σ} {next : σ → Yields ω ε τ} {t : τ} :
    (first >>= next).ending = .ok t ↔
      ∃ s, first.ending = .ok s ∧ (next s).ending = .ok t := by
  cases h : first.ending with
  | error failure =>
      rw [bind_of_error h]
      simp
  | ok s =>
      rw [bind_of_ok h]
      simp

/-- A loop over two lists runs the first and then the second. -/
theorem forEach_append (step : σ → ι → Yields ω ε σ) (s : σ) (items items' : List ι) :
    forEach step s (items ++ items') =
      forEach step s items >>= fun s => forEach step s items' := by
  induction items generalizing s with
  | nil => rfl
  | cons item items ih =>
      rw [List.cons_append, forEach, forEach, bind_assoc]
      congr 1
      funext s
      exact ih s

/-! ## Partial correctness -/

/-- If the run does not throw, the postcondition holds of everything yielded, what was yielded
before included, and of the state it goes on with. -/
def Ensures (yielded : List ω) (run : Yields ω ε σ) (post : List ω → σ → Prop) : Prop :=
  ∀ s, run.ending = .ok s → post (yielded ++ run.values) s

variable {yielded : List ω} {post post' : List ω → σ → Prop}

theorem ensures_pure {s : σ} : Ensures yielded (pure s : Yields ω ε σ) post ↔ post yielded s := by
  simp [Ensures]

theorem ensures_emit {values : List ω} {s : σ} :
    Ensures yielded (emit values s : Yields ω ε σ) post ↔ post (yielded ++ values) s := by
  simp [Ensures]

theorem ensures_fail {failure : ε} : Ensures yielded (fail failure : Yields ω ε σ) post := by
  intro s h
  cases h

theorem ensures_bind {first : Yields ω ε σ} {next : σ → Yields ω ε τ}
    {post : List ω → τ → Prop} :
    Ensures yielded (first >>= next) post ↔
      Ensures yielded first fun yielded s => Ensures yielded (next s) post := by
  constructor
  · intro h s hfirst t hnext
    rw [bind_of_ok hfirst] at h
    have hpost := h t hnext
    rwa [← List.append_assoc] at hpost
  · intro h t hrun
    obtain ⟨s, hfirst, hnext⟩ := bind_ending_eq_ok.1 hrun
    have hpost := h s hfirst t hnext
    rw [bind_of_ok hfirst, ← List.append_assoc]
    exact hpost

theorem Ensures.mono {run : Yields ω ε σ} (h : Ensures yielded run post)
    (himp : ∀ yielded s, post yielded s → post' yielded s) : Ensures yielded run post' :=
  fun s hrun => himp _ _ (h s hrun)

/-- The rule of a loop: what each step preserves, the loop preserves. -/
theorem ensures_forEach {step : σ → ι → Yields ω ε σ} {items : List ι}
    (hstep : ∀ item ∈ items, ∀ yielded s, post yielded s → Ensures yielded (step s item) post)
    {s : σ} (h : post yielded s) : Ensures yielded (forEach step s items) post := by
  induction items generalizing yielded s with
  | nil => exact ensures_pure.2 h
  | cons item items ih =>
      rw [forEach, ensures_bind]
      have hhead := hstep item List.mem_cons_self yielded s h
      refine hhead.mono fun yielded s hpost => ?_
      exact ih (fun item hmem => hstep item (List.mem_cons_of_mem _ hmem)) hpost

/-! ## Silence -/

/-- From a quiet state the step yields nothing exactly under a condition, and then the state stays
quiet. -/
def Silent (quiet : σ → Prop) (step : σ → Yields ω ε σ) (condition : Prop) : Prop :=
  ∀ s, quiet s → Ensures [] (step s) fun yielded s =>
    (yielded = [] ↔ condition) ∧ (yielded = [] → quiet s)

variable {quiet : σ → Prop} {step next : σ → Yields ω ε σ} {condition condition' : Prop}

/-- Two steps are silent together if both of them are. -/
theorem Silent.andThen (hstep : Silent quiet step condition)
    (hnext : Silent quiet next condition') :
    Silent quiet (fun s => step s >>= next) (condition ∧ condition') := by
  intro s hquiet t hrun
  obtain ⟨s', hfirst, hrest⟩ := bind_ending_eq_ok.1 hrun
  obtain ⟨hcondition, hstill⟩ := hstep s hquiet s' hfirst
  rw [List.nil_append] at hcondition hstill ⊢
  show ((step s >>= next).values = [] ↔ _) ∧ ((step s >>= next).values = [] → _)
  rw [bind_of_ok hfirst, List.append_eq_nil_iff]
  by_cases hvalues : (step s).values = []
  · obtain ⟨hcondition', hstill'⟩ := hnext s' (hstill hvalues) t hrest
    rw [List.nil_append] at hcondition' hstill'
    rw [hcondition, hcondition']
    exact ⟨Iff.rfl, fun h => hstill' (hcondition'.2 h.2)⟩
  · have hnot : ¬ condition := hcondition.not.1 hvalues
    exact ⟨⟨fun h => absurd h.1 hvalues, fun h => absurd h.1 hnot⟩, fun h => absurd h.1 hvalues⟩

/-- A loop is silent if every step of it is. -/
theorem silent_forEach {step : σ → ι → Yields ω ε σ} {condition : ι → Prop}
    (hstep : ∀ item, Silent quiet (step · item) (condition item)) (items : List ι) :
    Silent quiet (forEach step · items) (∀ item ∈ items, condition item) := by
  induction items with
  | nil =>
      intro s hquiet
      exact ensures_pure.2 ⟨by simp, fun _ => hquiet⟩
  | cons item items ih =>
      have hboth := (hstep item).andThen ih
      rw [← List.forall_mem_cons] at hboth
      exact hboth

end Yields
