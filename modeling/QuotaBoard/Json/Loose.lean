import QuotaBoard.Json.Text
import QuotaBoard.Json.Document
import QuotaBoard.Text.LetterCase

/-!
# Loosely typed fields

Vendors change between two spellings of a key (`reset_time`, `resetTime`), send numbers as
texts, and leave fields out.  Everything read from them goes through this module.  A *reader*
takes a value for what it can mean, or for missing; the look-ups try a key as given and then in
its other spelling.
-/

namespace QuotaBoard.Json

/-! ## Readers -/

/-- A text: trimmed and not blank; a number counts as the text that is written for it. -/
def asText? : Json → Option String
  | string s => Text.trimmed? s
  | number n => some n.text
  | _ => none

/-- The number that a text spells in decimal: digits with an optional point among them, around
them or at either end, and an optional sign and exponent. -/
def numberOfText? (s : String) : Option Double := do
  let (negative, cs) := match s.toList with
    | '-' :: rest => (true, rest)
    | '+' :: rest => (false, rest)
    | cs => (false, cs)
  let whole := cs.takeWhile Char.isDigit
  let (fraction, cs) := match cs.dropWhile Char.isDigit with
    | '.' :: rest => (rest.takeWhile Char.isDigit, rest.dropWhile Char.isDigit)
    | rest => ([], rest)
  guard !(whole.isEmpty && fraction.isEmpty)
  let (exponent?, cs) ← Document.readExponent? cs
  guard cs.isEmpty
  Document.Numeral.toDouble? ⟨negative, whole, fraction, exponent?.getD 0⟩

/-- A finite number, or a text that spells one. -/
def asNumber? : Json → Option Double
  | number n => some n.toDouble
  | string s => numberOfText? (Text.trim s)
  | _ => none

/-- A fraction of one.  A number outside `[0, 1]` counts as missing and is not moved into it: a
vendor that changed its unit must not look like a real reading. -/
def asFraction? (v : Json) : Option Double :=
  v.asNumber?.filter fun x => 0 ≤ x ∧ x ≤ 1

/-- A percentage, moved into `[0, 100]`: vendors report slightly more when a window is
overrun. -/
def asPercent? (v : Json) : Option Double :=
  v.asNumber?.map (·.clamp 0 100)

/-- A plan type, in lower case. -/
def asPlan? (v : Json) : Option String :=
  v.asText?.map Text.lower

/-- The index under which the management API knows a credential: a text or an integer. -/
def asIndex? : Json → Option String
  | number (.integer n) => some (Number.integer n).text
  | number (.double _) => none
  | v => v.asText?

/-- A flag: a boolean, or one of the words for it in any case. -/
def asFlag? : Json → Option Bool
  | bool b => some b
  | string s =>
    let word := Text.lowerAscii (Text.trim s)
    if word = "true" ∨ word = "1" ∨ word = "yes" then some true
    else if word = "false" ∨ word = "0" ∨ word = "no" then some false
    else none
  | _ => none

/-! ## Look-ups under both spellings -/

/-- The characters of a key without its underscores, the one after each in upper case. -/
def camelChars : (afterUnderscore : Bool) → List Char → List Char
  | _, [] => []
  | afterUnderscore, c :: rest =>
    if c = '_' then camelChars true rest
    else (if afterUnderscore then Text.upperOf c else [c]) ++ camelChars false rest

/-- The other spelling of a key. -/
def camelCase (key : String) : String :=
  String.ofList (camelChars false key.toList)

/-- What a reader takes from the field of a key, under its own spelling or else the other. -/
def probe? (v : Json) (key : String) (read : Json → Option α) : Option α :=
  ((v.get? key).bind read).or ((v.get? (camelCase key)).bind read)

/-- The value of a field, `null` counting as absent. -/
def present? (v : Json) (key : String) : Option Json :=
  v.probe? key fun field => if field.isNull then none else some field

/-- The object that a field holds. -/
def objectAt? (v : Json) (key : String) : Option Json :=
  v.probe? key fun field => if field.isObject then some field else none

/-- The text that a field holds. -/
def textAt? (v : Json) (key : String) : Option String := v.probe? key asText?

/-- The number that a field holds. -/
def numberAt? (v : Json) (key : String) : Option Double := v.probe? key asNumber?

/-- The fraction that a field holds. -/
def fractionAt? (v : Json) (key : String) : Option Double := v.probe? key asFraction?

/-- The percentage that a field holds. -/
def percentAt? (v : Json) (key : String) : Option Double := v.probe? key asPercent?

/-- The flag that a field holds. -/
def flagAt? (v : Json) (key : String) : Option Bool := v.probe? key asFlag?

end QuotaBoard.Json

namespace QuotaBoard.Double

/-- The lower of two readings, of which either may be missing. -/
def lowest (current candidate : Option Double) : Option Double :=
  match current, candidate with
  | some a, some b => some (a.lower b)
  | a, b => a.or b

end QuotaBoard.Double
