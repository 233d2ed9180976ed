import RlyGateway.Library.Json
import Mathlib.Data.Nat.Log

/-!
# JSON text

`Json.parse` accepts the grammar of RFC 8259 and `Json.stringify` writes it without white space, as
`JSON.parse` and `JSON.stringify` do. The parser runs on fuel that its entry point sets to twice the
length of the text: every second call consumes a character.

A `\u` escape that names half of a surrogate pair has no Unicode scalar value and is read as the
replacement character.
-/

namespace Json

/-! ## Numbers -/

/-- The number written by a list of decimal digits. -/
def digitsValue (digits : List Char) : ℕ :=
  digits.foldl (fun n c => 10 * n + (c.toNat - '0'.toNat)) 0

/-- The exponent part of a number, and what follows it. -/
def parseExponent : List Char → Option (ℤ × List Char)
  | c :: rest =>
      if c = 'e' ∨ c = 'E' then
        let signed : Bool × List Char := match rest with
          | '-' :: tail => (true, tail)
          | '+' :: tail => (false, tail)
          | tail => (false, tail)
        match signed.2.span Char.isDigit with
        | ([], _) => none
        | (digits, tail) =>
            some (if signed.1 then -(digitsValue digits : ℤ) else digitsValue digits, tail)
      else some (0, c :: rest)
  | [] => some (0, [])

/-- The fraction digits of a number, and what follows them. -/
def parseFraction : List Char → Option (List Char × List Char)
  | '.' :: rest =>
      match rest.span Char.isDigit with
      | ([], _) => none
      | (digits, tail) => some (digits, tail)
  | rest => some ([], rest)

/-- A number without its sign; a leading zero stands alone. -/
def parseUnsigned (text : List Char) : Option (ℚ × List Char) :=
  match text.span Char.isDigit with
  | ([], _) => none
  | ('0' :: _ :: _, _) => none
  | (digits, tail) => do
      let (fraction, tail) ← parseFraction tail
      let (exponent, tail) ← parseExponent tail
      some ((digitsValue (digits ++ fraction) : ℚ)
        * (10 : ℚ) ^ (exponent - (fraction.length : ℤ)), tail)

/-- A number at the head of the text. -/
def parseNumber : List Char → Option (ℚ × List Char)
  | '-' :: rest => (parseUnsigned rest).map fun (n, tail) => (-n, tail)
  | text => parseUnsigned text

/-! ## Strings -/

/-- The value of a hexadecimal digit. -/
def hexDigit? (c : Char) : Option ℕ :=
  if c.isDigit then some (c.toNat - '0'.toNat)
  else if 'a' ≤ c ∧ c ≤ 'f' then some (c.toNat - 'a'.toNat + 10)
  else if 'A' ≤ c ∧ c ≤ 'F' then some (c.toNat - 'A'.toNat + 10)
  else none

/-- The code unit written by four hexadecimal digits, and what follows them. -/
def parseUnit : List Char → Option (ℕ × List Char)
  | a :: b :: c :: d :: rest => do
      let a ← hexDigit? a
      let b ← hexDigit? b
      let c ← hexDigit? c
      let d ← hexDigit? d
      some (((a * 16 + b) * 16 + c) * 16 + d, rest)
  | _ => none

/-- The character of a `\u` escape; a high surrogate takes the low one that follows it. -/
def parseUnicodeEscape (text : List Char) : Option (Char × List Char) := do
  let (high, rest) ← parseUnit text
  match rest with
  | '\\' :: 'u' :: tail =>
      match parseUnit tail with
      | some (low, after) =>
          if 0xD800 ≤ high ∧ high < 0xDC00 ∧ 0xDC00 ≤ low ∧ low < 0xE000 then
            some (Char.ofNat (0x10000 + (high - 0xD800) * 0x400 + (low - 0xDC00)), after)
          else some (if 0xD800 ≤ high ∧ high < 0xE000 then '\uFFFD' else Char.ofNat high, rest)
      | none => some (if 0xD800 ≤ high ∧ high < 0xE000 then '\uFFFD' else Char.ofNat high, rest)
  | _ => some (if 0xD800 ≤ high ∧ high < 0xE000 then '\uFFFD' else Char.ofNat high, rest)

/-- The character of an escape, after its backslash. -/
def parseEscape : List Char → Option (Char × List Char)
  | '\x22' :: rest => some ('\x22', rest)
  | '\\' :: rest => some ('\\', rest)
  | '/' :: rest => some ('/', rest)
  | 'b' :: rest => some ('\x08', rest)
  | 'f' :: rest => some ('\x0c', rest)
  | 'n' :: rest => some ('\n', rest)
  | 'r' :: rest => some ('\r', rest)
  | 't' :: rest => some ('\t', rest)
  | 'u' :: rest => parseUnicodeEscape rest
  | _ => none

/-- The characters of a string after its opening quote, and what follows the closing one. -/
def parseChars : ℕ → List Char → Option (List Char × List Char)
  | 0, _ => none
  | _ + 1, [] => none
  | fuel + 1, c :: rest =>
      if c = '\x22' then some ([], rest)
      else if c = '\\' then do
        let (escaped, rest) ← parseEscape rest
        let (tail, rest) ← parseChars fuel rest
        some (escaped :: tail, rest)
      else if c < ' ' then none
      else do
        let (tail, rest) ← parseChars fuel rest
        some (c :: tail, rest)

/-! ## Values -/

/-- White space between tokens. -/
def isSpace (c : Char) : Bool :=
  c = ' ' ∨ c = '\n' ∨ c = '\r' ∨ c = '\t'

/-- The text after leading white space. -/
def skipSpace (text : List Char) : List Char := text.dropWhile isSpace

/-- Write a field: a name that occurs twice keeps its first position and takes the last value. -/
def setField (name : String) (value : Json) : List (String × Json) → List (String × Json)
  | [] => [(name, value)]
  | (key, old) :: rest =>
      if key = name then (key, value) :: rest else (key, old) :: setField name value rest

mutual

/-- A value at the head of the text, and what follows it. -/
def parseValue : ℕ → List Char → Option (Json × List Char)
  | 0, _ => none
  | fuel + 1, text =>
      match text with
      | 'n' :: 'u' :: 'l' :: 'l' :: rest => some (.null, rest)
      | 't' :: 'r' :: 'u' :: 'e' :: rest => some (.bool true, rest)
      | 'f' :: 'a' :: 'l' :: 's' :: 'e' :: rest => some (.bool false, rest)
      | '\x22' :: rest =>
          (parseChars (rest.length + 1) rest).map fun (chars, tail) =>
            (.str (String.ofList chars), tail)
      | '[' :: rest =>
          match skipSpace rest with
          | ']' :: tail => some (.arr [], tail)
          | body => (parseItems fuel body).map fun (items, tail) => (.arr items, tail)
      | '\x7b' :: rest =>
          match skipSpace rest with
          | '\x7d' :: tail => some (.obj [], tail)
          | body => (parseFields fuel [] body).map fun (fields, tail) => (.obj fields, tail)
      | _ => (parseNumber text).map fun (n, tail) => (.num n, tail)

/-- The items of a nonempty array up to and with its closing bracket. -/
def parseItems : ℕ → List Char → Option (List Json × List Char)
  | 0, _ => none
  | fuel + 1, text =>
      match parseValue fuel (skipSpace text) with
      | none => none
      | some (item, rest) =>
          match skipSpace rest with
          | ',' :: tail => (parseItems fuel tail).map fun (items, tail) => (item :: items, tail)
          | ']' :: tail => some ([item], tail)
          | _ => none

/-- The fields of a nonempty object up to and with its closing brace, after those already read. -/
def parseFields : ℕ → List (String × Json) → List Char → Option (List (String × Json) × List Char)
  | 0, _, _ => none
  | fuel + 1, fields, text =>
      match skipSpace text with
      | '\x22' :: rest =>
          match parseChars (rest.length + 1) rest with
          | none => none
          | some (name, rest) =>
              match skipSpace rest with
              | ':' :: rest =>
                  match parseValue fuel (skipSpace rest) with
                  | none => none
                  | some (value, rest) =>
                      let fields := setField (String.ofList name) value fields
                      match skipSpace rest with
                      | ',' :: tail => parseFields fuel fields tail
                      | '\x7d' :: tail => some (fields, tail)
                      | _ => none
              | _ => none
      | _ => none

end

/-- `JSON.parse`, with `none` for a syntax error. -/
def parse (text : String) : Option Json :=
  match parseValue (2 * text.length + 1) (skipSpace text.toList) with
  | some (value, rest) => if skipSpace rest = [] then some value else none
  | none => none

/-- What the characters of a text are parsed to is what the text is parsed to. -/
theorem parse_of_parseValue {text : String} {chars : List Char} {value : Json}
    (htext : text = String.ofList chars)
    (hvalue : parseValue (2 * chars.length + 1) (skipSpace chars) = some (value, [])) :
    parse text = some value := by
  unfold parse
  rw [htext, String.length_ofList, String.toList_ofList, hvalue]
  rfl

/-! ## Writing -/

/-- Decimal digits without trailing zeros, and the number of zeros taken off. -/
def stripZeros (digits : List Char) : List Char × ℕ :=
  let stripped := (digits.reverse.dropWhile (· = '0')).reverse
  (stripped, digits.length - stripped.length)

/-- The significant digits of a positive number and the position of its decimal point, for a number
that is a finite decimal. -/
def decimalDigits (q : ℚ) : Option (List Char × ℤ) :=
  ((List.range (Nat.log 2 q.den + 1)).find? fun k => q.den ∣ 10 ^ k).map fun (k : ℕ) =>
    let digits := (toString (q.num.natAbs * ((10 : ℕ) ^ k / q.den))).toList
    let (significant, zeros) := stripZeros digits
    (significant, (significant.length : ℤ) + zeros - k)

/-- Digits and the position of the decimal point in the notation `Number.prototype.toString`
chooses. -/
def decimalText (digits : List Char) (point : ℤ) : String :=
  let k := digits.length
  if (k : ℤ) ≤ point ∧ point ≤ 21 then
    String.ofList (digits ++ List.replicate (point.toNat - k) '0')
  else if 0 < point ∧ point ≤ 21 then
    String.ofList (digits.take point.toNat ++ '.' :: digits.drop point.toNat)
  else if -6 < point ∧ point ≤ 0 then
    String.ofList ('0' :: '.' :: (List.replicate (-point).toNat '0' ++ digits))
  else
    let exponent := point - 1
    let mantissa := match digits with
      | [] => []
      | [d] => [d]
      | d :: rest => d :: '.' :: rest
    String.ofList mantissa ++ "e" ++ (if exponent < 0 then "-" else "+") ++
      toString exponent.natAbs

/-- `String(n)`. A rational that is no finite decimal is the value of no number literal. -/
def numberText (n : ℚ) : String :=
  if n = 0 then "0"
  else match decimalDigits n with
    | none => "null"
    | some (digits, point) => (if n < 0 then "-" else "") ++ decimalText digits point

/-- The escape of a character inside a string. -/
def escapeChar (c : Char) : List Char :=
  if c = '\x22' then ['\\', '\x22']
  else if c = '\\' then ['\\', '\\']
  else if c = '\x08' then ['\\', 'b']
  else if c = '\x0c' then ['\\', 'f']
  else if c = '\n' then ['\\', 'n']
  else if c = '\r' then ['\\', 'r']
  else if c = '\t' then ['\\', 't']
  else if c < ' ' then
    ['\\', 'u', '0', '0', (Nat.digitChar (c.toNat / 16)), (Nat.digitChar (c.toNat % 16))]
  else [c]

/-- A string between quotes. -/
def quote (s : String) : String :=
  String.ofList ('\x22' :: (s.toList.flatMap escapeChar ++ ['\x22']))

mutual

/-- `JSON.stringify`. -/
def stringify : Json → String
  | .null => "null"
  | .bool b => if b then "true" else "false"
  | .num n => numberText n
  | .str s => quote s
  | .arr items => "[" ++ String.intercalate "," (stringifyItems items) ++ "]"
  | .obj fields => "\x7b" ++ String.intercalate "," (stringifyFields fields) ++ "\x7d"

/-- The texts of the items of an array. -/
def stringifyItems : List Json → List String
  | [] => []
  | item :: items => stringify item :: stringifyItems items

/-- The texts of the fields of an object. -/
def stringifyFields : List (String × Json) → List String
  | [] => []
  | (name, value) :: fields => (quote name ++ ":" ++ stringify value) :: stringifyFields fields

end

mutual

/-- `String(value)`, the text a template makes of a value. -/
def text : Json → String
  | .null => "null"
  | .bool b => if b then "true" else "false"
  | .num n => numberText n
  | .str s => s
  | .arr items => String.intercalate "," (itemTexts items)
  | .obj _ => "[object Object]"

/-- The texts of the items of an array; `null` has none. -/
def itemTexts : List Json → List String
  | [] => []
  | .null :: items => "" :: itemTexts items
  | item :: items => text item :: itemTexts items

end

mutual

/-- `String(value)` does not throw. An object with a field `toString` has no method to call. -/
def hasText : Json → Bool
  | .arr items => itemsHaveText items
  | .obj fields => fields.all (·.1 ≠ "toString")
  | _ => true

def itemsHaveText : List Json → Bool
  | [] => true
  | item :: items => hasText item && itemsHaveText items

end

end Json
