import Mathlib.Tactic.Basic

/-!
# Programs that stop part way

A program over a state can stop in the state it has reached, and a handler can go on from there. What
holds of such a program is stated for both ways it ends: the result and the state it returns in, and
the reason and the state it stops in.
-/

namespace EStateM

variable {ε σ α β γ : Type}

/-- From the states of the precondition a program returns in the postcondition, or stops in the
other one. -/
def Meets (pre : σ → Prop) (x : EStateM ε σ α) (post : α → σ → Prop) (stopped : ε → σ → Prop) :
    Prop :=
  ∀ s, pre s → match x s with
    | .ok a t => post a t
    | .error e t => stopped e t

/-- What is read off the state. -/
def reads (read : σ → α) : EStateM ε σ α := fun s => .ok (read s) s

theorem throw_apply (e : ε) (s : σ) : (throw e : EStateM ε σ α) s = .error e s := rfl

theorem modify_apply (f : σ → σ) (s : σ) : (modify f : EStateM ε σ PUnit) s = .ok ⟨⟩ (f s) := rfl

/-- A program that goes on with a handler where it stops for a reason that can be handled. -/
def rescue (x : EStateM ε σ α) (reason : ε → Option γ) (handler : γ → EStateM ε σ α) :
    EStateM ε σ α := fun s =>
  match x s with
  | .ok a t => .ok a t
  | .error e t =>
      match reason e with
      | some c => handler c t
      | none => .error e t

variable {pre pre' : σ → Prop} {post post' : α → σ → Prop} {stopped stopped' : ε → σ → Prop}
  {x : EStateM ε σ α}

theorem Meets.mono (h : Meets pre x post stopped) (hpre : ∀ s, pre' s → pre s)
    (hpost : ∀ a s, post a s → post' a s) (hstopped : ∀ e s, stopped e s → stopped' e s) :
    Meets pre' x post' stopped' := by
  intro s hs
  have hx := h s (hpre s hs)
  cases hrun : x s with
  | ok a t =>
      rw [hrun] at hx
      exact hpost a t hx
  | error e t =>
      rw [hrun] at hx
      exact hstopped e t hx

theorem Meets.pre_of (h : Meets pre x post stopped) (hpre : ∀ s, pre' s → pre s) :
    Meets pre' x post stopped :=
  h.mono hpre (fun _ _ => id) fun _ _ => id

theorem Meets.post_of (h : Meets pre x post stopped) (hpost : ∀ a s, post a s → post' a s) :
    Meets pre x post' stopped :=
  h.mono (fun _ => id) hpost fun _ _ => id

/-- A fact that does not depend on the state can be taken out of a precondition. -/
theorem meets_of_pre {p : Prop} (h : p → Meets pre x post stopped) :
    Meets (fun s => p ∧ pre s) x post stopped :=
  fun s hs => h hs.1 s hs.2

theorem meets_pure {a : α} (h : ∀ s, pre s → post a s) : Meets pre (pure a) post stopped :=
  fun s hs => h s hs

theorem meets_throw {e : ε} (h : ∀ s, pre s → stopped e s) :
    Meets pre (throw e : EStateM ε σ α) post stopped :=
  fun s hs => h s hs

theorem meets_get {post : σ → σ → Prop} (h : ∀ s, pre s → post s s) :
    Meets pre (get : EStateM ε σ σ) post stopped :=
  fun s hs => h s hs

theorem meets_modify {f : σ → σ} {post : PUnit → σ → Prop} (h : ∀ s, pre s → post ⟨⟩ (f s)) :
    Meets pre (modify f : EStateM ε σ PUnit) post stopped :=
  fun s hs => h s hs

/-- The second part of a program starts where the first returned. -/
theorem Meets.bind {f : α → EStateM ε σ β} {post' : β → σ → Prop} (hx : Meets pre x post stopped)
    (hf : ∀ a, Meets (post a) (f a) post' stopped) : Meets pre (x >>= f) post' stopped := by
  intro s hs
  have hfirst := hx s hs
  change match EStateM.bind x f s with
    | .ok a t => post' a t
    | .error e t => stopped e t
  unfold EStateM.bind
  cases hrun : x s with
  | ok a t =>
      rw [hrun] at hfirst
      exact hf a t hfirst
  | error e t =>
      rw [hrun] at hfirst
      exact hfirst

/-- The second part of a program starts where the first returned, as it is stated. -/
theorem Meets.through {f : α → EStateM ε σ β} {post' : β → σ → Prop} (post : α → σ → Prop)
    (hx : Meets pre x post stopped) (hf : ∀ a, Meets (post a) (f a) post' stopped) :
    Meets pre (x >>= f) post' stopped :=
  hx.bind hf

/-- The second part of a program goes on with what was read, of which something is known. -/
theorem meets_reads_bind {read : σ → γ} {f : γ → EStateM ε σ α} (known : γ → Prop)
    (hknown : ∀ s, pre s → known (read s)) (hf : ∀ c, known c → Meets pre (f c) post stopped) :
    Meets pre (reads read >>= f) post stopped :=
  fun s hs => hf (read s) (hknown s hs) s hs

theorem Meets.ite {p : Prop} [Decidable p] {y : EStateM ε σ α}
    (hx : p → Meets pre x post stopped) (hy : ¬ p → Meets pre y post stopped) :
    Meets pre (if p then x else y) post stopped := by
  split
  · rename_i hp
    exact hx hp
  · rename_i hp
    exact hy hp

/-- A handler starts where the program stopped. -/
theorem Meets.rescue {reason : ε → Option γ} {handler : γ → EStateM ε σ α}
    (hx : Meets pre x post stopped')
    (hhandler : ∀ e c, reason e = some c → Meets (stopped' e) (handler c) post stopped)
    (hrest : ∀ e s, reason e = none → stopped' e s → stopped e s) :
    Meets pre (rescue x reason handler) post stopped := by
  intro s hs
  have hfirst := hx s hs
  unfold EStateM.rescue
  cases hrun : x s with
  | ok a t =>
      rw [hrun] at hfirst
      exact hfirst
  | error e t =>
      rw [hrun] at hfirst
      dsimp only
      cases hreason : reason e with
      | none => exact hrest e t hreason hfirst
      | some c => exact hhandler e c hreason t hfirst

end EStateM
