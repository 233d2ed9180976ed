import Mathlib.Logic.Function.Basic
import RlyGateway.Library.Runs

/-!
# Documents that are replaced

Operations that read one document each and then replace it by what they make of it, with no lock in
between. A step that replaces a document which is still as it was read does what the operation does
at once, so what the operations keep one by one is kept by every run of such steps.
-/

universe u

/-- Operations on documents: where one reads, what it makes of what it has read and gives back, and
where it writes that. One that makes nothing of it throws. -/
structure Replacing (ω κ δ ρ : Type u) where
  path : ω → κ
  replace : ω → Option δ → Option (δ × ρ)
  target : ω → δ → κ

namespace Replacing

/-- The documents, the operations in flight with what they have read, and those that have
returned. -/
structure State (ω κ δ ρ : Type u) where
  docs : κ → Option δ
  inFlight : List (ω × Option δ)
  returned : List (ω × ρ)

/-- What happens next: an operation begins and reads, one in flight replaces its document, or one in
flight ends without that. -/
inductive Event (ω : Type u) where
  | read (op : ω)
  | write (position : ℕ)
  | fail (position : ℕ)
deriving DecidableEq

variable {ω κ δ ρ : Type u}

/-- Nothing has begun. -/
def State.initial (docs : κ → Option δ) : State ω κ δ ρ := ⟨docs, [], []⟩

variable [DecidableEq κ] (operations : Replacing ω κ δ ρ)

/-- One step. -/
def step (s : State ω κ δ ρ) : Event ω → Option (State ω κ δ ρ)
  | .read op =>
      some { s with inFlight := s.inFlight ++ [(op, s.docs (operations.path op))] }
  | .write position => do
      let (op, seen) ← s.inFlight[position]?
      let (doc, result) ← operations.replace op seen
      some {
        docs := Function.update s.docs (operations.target op doc) (some doc)
        inFlight := s.inFlight.eraseIdx position
        returned := s.returned ++ [(op, result)] }
  | .fail position => do
      let _ ← s.inFlight[position]?
      some { s with inFlight := s.inFlight.eraseIdx position }

/-- A document that is replaced is still as the operation has read it. -/
def Current (s : State ω κ δ ρ) : Event ω → Prop
  | .write position => ∀ op seen, s.inFlight[position]? = some (op, seen) →
      s.docs (operations.path op) = seen
  | _ => True

variable {operations} in
/-- What a step does to the documents and the results: nothing, or what an operation makes of what
it has read. -/
theorem step_cases {s t : State ω κ δ ρ} {event : Event ω}
    (h : operations.step s event = some t) :
    (t.docs = s.docs ∧ t.returned = s.returned) ∨
      ∃ position op seen doc result, event = .write position ∧
        s.inFlight[position]? = some (op, seen) ∧
        operations.replace op seen = some (doc, result) ∧
        t.docs = Function.update s.docs (operations.target op doc) (some doc) ∧
        t.returned = s.returned ++ [(op, result)] := by
  cases event with
  | read op =>
      cases h
      exact .inl ⟨rfl, rfl⟩
  | write position =>
      obtain ⟨⟨op, seen⟩, hflight, h⟩ := Option.bind_eq_some_iff.1 h
      obtain ⟨⟨doc, result⟩, hreplace, h⟩ := Option.bind_eq_some_iff.1 h
      cases h
      exact .inr ⟨position, op, seen, doc, result, rfl, hflight, hreplace, rfl, rfl⟩
  | fail position =>
      obtain ⟨_, -, h⟩ := Option.bind_eq_some_iff.1 h
      cases h
      exact .inl ⟨rfl, rfl⟩

/-- What every operation keeps when it is done at once is kept by every run that replaces only
documents that are as they were read. -/
theorem run_keeps (Kept : (κ → Option δ) → List (ω × ρ) → Prop)
    (hatomic : ∀ docs returned op doc result, Kept docs returned →
      operations.replace op (docs (operations.path op)) = some (doc, result) →
      Kept (Function.update docs (operations.target op doc) (some doc))
        (returned ++ [(op, result)]))
    {s t : State ω κ δ ρ} {events : List (Event ω)}
    (hrun : List.run operations.step s events = some t)
    (hcurrent : List.Along operations.Current operations.step s events)
    (h : Kept s.docs s.returned) : Kept t.docs t.returned := by
  refine List.run_induction (s := s) (motive := fun events t =>
    List.Along operations.Current operations.step s events → Kept t.docs t.returned)
    (fun _ => h) ?_ hrun hcurrent
  intro events t event t' hevents ih hstep halong
  obtain ⟨hbefore, hlast⟩ := (List.along_concat hevents).1 halong
  rcases step_cases hstep with ⟨hdocs, hreturned⟩ |
    ⟨position, op, seen, doc, result, rfl, hflight, hreplace, hdocs, hreturned⟩
  · rw [hdocs, hreturned]
    exact ih hbefore
  · rw [hdocs, hreturned]
    rw [← hlast op seen hflight] at hreplace
    exact hatomic _ _ op doc result (ih hbefore) hreplace

end Replacing
