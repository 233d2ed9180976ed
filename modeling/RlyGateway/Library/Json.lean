import Mathlib.Data.Rat.Defs
import Mathlib.Data.String.Basic

/-!
# JSON values

JSON values with exact rational numbers and fields in insertion order, and the reads a dynamically
typed program makes of them: property access, type tests and truthiness. Rounding of numbers to
binary floating point is not represented.
-/

/-- A JSON value. -/
inductive Json where
  | null
  | bool (b : Bool)
  | num (n : ℚ)
  | str (s : String)
  | arr (items : List Json)
  | obj (fields : List (String × Json))
deriving Repr, Inhabited

namespace Json

/-! ## Decidable equality -/

mutual

/-- Equality of JSON values is decidable. -/
def decEq : (a b : Json) → Decidable (a = b)
  | .null, .null => isTrue rfl
  | .bool a, .bool b => decidable_of_iff (a = b) (by simp)
  | .num a, .num b => decidable_of_iff (a = b) (by simp)
  | .str a, .str b => decidable_of_iff (a = b) (by simp)
  | .arr a, .arr b =>
      match decEqItems a b with
      | isTrue h => isTrue (by rw [h])
      | isFalse h => isFalse (by simpa using h)
  | .obj a, .obj b =>
      match decEqFields a b with
      | isTrue h => isTrue (by rw [h])
      | isFalse h => isFalse (by simpa using h)
  | .null, .bool _ | .null, .num _ | .null, .str _ | .null, .arr _ | .null, .obj _
  | .bool _, .null | .bool _, .num _ | .bool _, .str _ | .bool _, .arr _ | .bool _, .obj _
  | .num _, .null | .num _, .bool _ | .num _, .str _ | .num _, .arr _ | .num _, .obj _
  | .str _, .null | .str _, .bool _ | .str _, .num _ | .str _, .arr _ | .str _, .obj _
  | .arr _, .null | .arr _, .bool _ | .arr _, .num _ | .arr _, .str _ | .arr _, .obj _
  | .obj _, .null | .obj _, .bool _ | .obj _, .num _ | .obj _, .str _ | .obj _, .arr _ =>
      isFalse (by simp)

/-- Equality of item lists is decidable. -/
def decEqItems : (a b : List Json) → Decidable (a = b)
  | [], [] => isTrue rfl
  | [], _ :: _ => isFalse (by simp)
  | _ :: _, [] => isFalse (by simp)
  | a :: as, b :: bs =>
      match decEq a b, decEqItems as bs with
      | isTrue h, isTrue hs => isTrue (by rw [h, hs])
      | isFalse h, _ => isFalse (by simp [h])
      | _, isFalse hs => isFalse (by simp [hs])

/-- Equality of field lists is decidable. -/
def decEqFields : (a b : List (String × Json)) → Decidable (a = b)
  | [], [] => isTrue rfl
  | [], _ :: _ => isFalse (by simp)
  | _ :: _, [] => isFalse (by simp)
  | (k, a) :: as, (l, b) :: bs =>
      match decEq a b, decEqFields as bs with
      | isTrue h, isTrue hs =>
          if hk : k = l then isTrue (by rw [hk, h, hs]) else isFalse (by simp [hk])
      | isFalse h, _ => isFalse (by simp [h])
      | _, isFalse hs => isFalse (by simp [hs])

end

instance : DecidableEq Json := decEq

/-! ## Property access and type tests -/

/-- The value of the first field called `name`. -/
def lookupField (name : String) : List (String × Json) → Option Json
  | [] => none
  | (key, value) :: rest => if key = name then some value else lookupField name rest

/-- `value.name`, where a value without that property gives `none`. -/
def field? (value : Json) (name : String) : Option Json :=
  match value with
  | .obj fields => lookupField name fields
  | _ => none

/-- The string a value is, under `typeof value === "string"`. -/
def str? : Json → Option String
  | .str s => some s
  | _ => none

/-- The number a value is, under `typeof value === "number"`. -/
def num? : Json → Option ℚ
  | .num n => some n
  | _ => none

/-- The boolean a value is, under `typeof value === "boolean"`. -/
def bool? : Json → Option Bool
  | .bool b => some b
  | _ => none

/-- The items a value has, under `Array.isArray(value)`. -/
def arr? : Json → Option (List Json)
  | .arr items => some items
  | _ => none

/-- The fields of a value that is an object and neither `null` nor an array. -/
def obj? : Json → Option (List (String × Json))
  | .obj fields => some fields
  | _ => none

/-- The string property `name`. -/
def strField? (value : Json) (name : String) : Option String :=
  (value.field? name).bind str?

/-- The number property `name`. -/
def numField? (value : Json) (name : String) : Option ℚ :=
  (value.field? name).bind num?

/-- Whether a value counts as true in a condition. -/
def truthy : Json → Bool
  | .null => false
  | .bool b => b
  | .num n => n ≠ 0
  | .str s => s ≠ ""
  | .arr _ => true
  | .obj _ => true

/-- An object whose optional fields are left out where they are `none`. -/
def mkObj (fields : List (String × Option Json)) : Json :=
  .obj (fields.filterMap fun field => field.2.map fun value => (field.1, value))

@[simp] theorem str?_str (s : String) : (Json.str s).str? = some s := rfl

@[simp] theorem field?_obj (fields : List (String × Json)) (name : String) :
    (Json.obj fields).field? name = lookupField name fields := rfl

theorem field?_mkObj_ne {key name : String} (h : key ≠ name) (value : Option Json)
    (fields : List (String × Option Json)) :
    (mkObj ((key, value) :: fields)).field? name = (mkObj fields).field? name := by
  rcases value with _ | value
  · rfl
  · exact if_neg h

/-- The first field of an object decides, if no other one has its name. -/
theorem field?_mkObj_self {name : String} {fields : List (String × Option Json)}
    (h : (mkObj fields).field? name = none) (value : Option Json) :
    (mkObj ((name, value) :: fields)).field? name = value := by
  rcases value with _ | value
  · exact h
  · exact if_pos rfl

end Json
