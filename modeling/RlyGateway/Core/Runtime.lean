import RlyGateway.Library.Latest
import RlyGateway.Library.JsonText

/-!
# The platform under the gateway

What the modelled code takes from Node: the digest of a text, the reading of a date, the case
mappings of Unicode and the order `localeCompare` puts on texts. The values stand for the platform's own functions, and every result
holds for all of them.
-/

namespace RlyGateway

/-- The platform functions the modelled code calls. -/
structure NodeRuntime where
  /-- `createHash("sha256").update(text, "utf8").digest("hex")`. -/
  sha256Hex : String → String
  /-- `Date.parse`, with `none` for `NaN`. -/
  dateParse : String → Option ℤ
  /-- `new Date(milliseconds).toISOString()`. -/
  isoString : ℤ → String
  /-- `left.localeCompare(right) <= 0`. -/
  localeLe : String → String → Bool
  /-- `text.toLowerCase()`. -/
  toLowerCase : String → String
  /-- `text.toUpperCase()`. -/
  toUpperCase : String → String

/-! ## A concrete platform

Reads the instants `Date.prototype.toISOString` writes, and maps the case of ASCII letters. Nothing
evaluated over it compares digests, so a text stands for its digest.
-/

/-- Days from 1970-01-01 to a date of the proleptic Gregorian calendar. -/
def daysFromCivil (year month day : ℤ) : ℤ :=
  -- years are counted from March, so that the leap day is the last day of a year
  let y := if month ≤ 2 then year - 1 else year
  let m := (month + 9) % 12
  365 * y + y / 4 - y / 100 + y / 400 + (153 * m + 2) / 5 + day - 719469

/-- The number at a position of a text, if only digits stand there. -/
def digitsAt (text : List Char) (start count : ℕ) : Option ℕ :=
  let digits := (text.drop start).take count
  if digits.all Char.isDigit then some (Json.digitsValue digits) else none

/-- The milliseconds of an instant written as `YYYY-MM-DDTHH:mm:ss.sssZ`. -/
def isoDateParse (text : String) : Option ℤ :=
  let chars := text.toList
  let separators := [4, 7, 10, 13, 16, 19, 23].map fun i => chars[i]?
  if chars.length = 24 ∧ separators = ['-', '-', 'T', ':', ':', '.', 'Z'].map some then do
    let year ← digitsAt chars 0 4
    let month ← digitsAt chars 5 2
    let day ← digitsAt chars 8 2
    let hour ← digitsAt chars 11 2
    let minute ← digitsAt chars 14 2
    let second ← digitsAt chars 17 2
    let millisecond ← digitsAt chars 20 3
    if 1 ≤ month ∧ month ≤ 12 ∧ 1 ≤ day ∧ day ≤ 31 ∧ hour ≤ 23 ∧ minute ≤ 59 ∧ second ≤ 59 then
      some ((((daysFromCivil year month day * 24 + hour) * 60 + minute) * 60 + second) * 1000
        + millisecond)
    else none
  else none

/-- A number written with at least `width` decimal digits. -/
def padded (width n : ℕ) : String :=
  let digits := (toString n).toList
  String.ofList (List.replicate (width - digits.length) '0' ++ digits)

/-- The date of a day counted from 1970-01-01. -/
def civilFromDays (days : ℤ) : ℤ × ℤ × ℤ :=
  let z := days + 719468
  let era := z / 146097
  let doe := z % 146097
  let yoe := (doe - doe / 1460 + doe / 36524 - doe / 146096) / 365
  let doy := doe - (365 * yoe + yoe / 4 - yoe / 100)
  let mp := (5 * doy + 2) / 153
  let month := if mp < 10 then mp + 3 else mp - 9
  (yoe + era * 400 + (if month ≤ 2 then 1 else 0), month, doy - (153 * mp + 2) / 5 + 1)

/-- An instant of a year with four digits, written as `YYYY-MM-DDTHH:mm:ss.sssZ`. -/
def isoInstantString (milliseconds : ℤ) : String :=
  let days := milliseconds / 86400000
  let rest := (milliseconds % 86400000).toNat
  let (year, month, day) := civilFromDays days
  padded 4 year.toNat ++ "-" ++ padded 2 month.toNat ++ "-" ++ padded 2 day.toNat ++ "T" ++
    padded 2 (rest / 3600000) ++ ":" ++ padded 2 (rest / 60000 % 60) ++ ":" ++
    padded 2 (rest / 1000 % 60) ++ "." ++ padded 3 (rest % 1000) ++ "Z"

/-- The platform whose dates are ISO instants, whose text order is by code units and whose letters
are those of ASCII. -/
def isoRuntime : NodeRuntime where
  sha256Hex := id
  dateParse := isoDateParse
  isoString := isoInstantString
  localeLe left right := !textLt right left
  toLowerCase := String.map Char.toLower
  toUpperCase := String.map Char.toUpper

example : isoDateParse (isoInstantString 1767225600123) = some 1767225600123 := by decide

end RlyGateway
