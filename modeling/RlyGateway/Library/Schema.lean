import RlyGateway.Library.Json

/-!
# Schemas

What a validator reads off a JSON value, with `none` for a value that does not match. A reader of an
object reads its fields by name, required or optional, and passes over the others.
-/

namespace Json

variable {α : Type*}

/-- An object, its fields not looked at. -/
def object (value : Json) : Option Json := value.obj?.map fun _ => value

/-- A string that is not empty. -/
def nonEmptyString (value : Json) : Option String := value.str?.filter (· ≠ "")

/-- One of a list of strings. -/
def oneOf (texts : List String) (value : Json) : Option String := value.str?.filter (· ∈ texts)

/-- A positive integer in the range of exact integers. -/
def positiveInteger (value : Json) : Option ℚ :=
  value.num?.filter fun n => n.den = 1 ∧ 0 < n ∧ n ≤ 9007199254740991

/-- A number from 0 to 1. -/
def unitNumber (value : Json) : Option ℚ := value.num?.filter fun n => 0 ≤ n ∧ n ≤ 1

/-- A list of values that all match. -/
def items (read : Json → Option α) (value : Json) : Option (List α) :=
  value.arr?.bind fun items => items.mapM read

/-- A field that has to be there. -/
def required (name : String) (read : Json → Option α) (value : Json) : Option α :=
  (value.field? name).bind read

/-- A field that may be absent, but has to match where it is there. -/
def optional (name : String) (read : Json → Option α) (value : Json) : Option (Option α) :=
  match value.field? name with
  | none => some none
  | some field => (read field).map some

/-- A field that matches where it is there gives what it reads as. -/
theorem eq_bind_of_optional_eq_some {name : String} {read : Json → Option α} {value : Json}
    {result : Option α} (h : value.optional name read = some result) :
    result = (value.field? name).bind read := by
  unfold optional at h
  cases hfield : value.field? name with
  | none =>
      rw [hfield] at h
      cases h
      rfl
  | some field =>
      rw [hfield] at h
      obtain ⟨a, hread, rfl⟩ := Option.map_eq_some_iff.1 h
      exact hread.symm

end Json

/-- Why a decoder gives up: with an error of its protocol, or with a failure that nobody translates,
of the validator or of the conversion of a value to a text. -/
inductive DecodeFailure (ε : Type*) where
  | protocolError (failure : ε)
  | validationError
  | conversionError
deriving DecidableEq, Repr
