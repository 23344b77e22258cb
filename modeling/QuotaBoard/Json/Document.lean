import QuotaBoard.Json.Basic
import QuotaBoard.Text.Blank

/-!
# JSON documents: the text as written

Reading a JSON text has two steps.  `Document.ofText?` checks the grammar and keeps what the
text says, in its order: an object may repeat a key, and a part may be well written without
denoting a value (`unreadable`: a number beyond the doubles, a string with half of a surrogate
pair, an array or object nested too deeply).  `Document.value?` takes a document for a value,
which fails if any part is unreadable; repeated keys are settled by the last.

The steps are apart because a settings file is read field by field: there a repeated field is an
error, and what an unknown field holds does not matter as long as it is well written.
-/

namespace QuotaBoard

/-- A JSON text after reading. -/
inductive Document where
  /-- Well written, but no value. -/
  | unreadable
  | null
  | bool (b : Bool)
  | number (n : Json.Number)
  | string (s : String)
  | array (items : List Document)
  /-- Members as written; a key is `none` if it is unreadable. -/
  | object (members : List (Option String × Document))
deriving Inhabited

namespace Document

/-! ## Documents and values -/

mutual

/-- The value that a document denotes. -/
def value? : Document → Option Json
  | unreadable => none
  | null => some .null
  | bool b => some (.bool b)
  | number n => some (.number n)
  | string s => some (.string s)
  | array items => (values? items).map .array
  | object members => (memberValues? members).map fun ms => .object (Json.sortMembers ms)

/-- The values of all of some documents. -/
def values? : List Document → Option (List Json)
  | [] => some []
  | d :: rest => do
    let v ← value? d
    let vs ← values? rest
    some (v :: vs)

/-- The keys and values of all of some members. -/
def memberValues? : List (Option String × Document) → Option (List (String × Json))
  | [] => some []
  | (k?, d) :: rest => do
    let k ← k?
    let v ← value? d
    let ms ← memberValues? rest
    some ((k, v) :: ms)

end

mutual

/-- A value as a document: every part is readable. -/
def ofJson : Json → Document
  | .null => null
  | .bool b => bool b
  | .number n => number n
  | .string s => string s
  | .array items => array (ofItems items)
  | .object members => object (ofMembers members)

/-- Items as documents. -/
def ofItems : List Json → List Document
  | [] => []
  | v :: rest => ofJson v :: ofItems rest

/-- Members as documents. -/
def ofMembers : List (String × Json) → List (Option String × Document)
  | [] => []
  | (k, v) :: rest => (some k, ofJson v) :: ofMembers rest

end

/-! ## Numbers -/

/-- The number that decimal digits spell. -/
def digitsValue (digits : List Char) : Nat :=
  digits.foldl (fun n c => 10 * n + (c.toNat - '0'.toNat)) 0

/-- A sign, digits before and after a point, and an exponent: what a decimal text spells. -/
structure Numeral where
  negative : Bool
  whole : List Char
  fraction : List Char
  exponent : Int

/-- The double nearest to a numeral, if it is finite: what a text that is a number stands for. -/
def Numeral.toDouble? (n : Numeral) : Option Double :=
  Double.ofDecimal? n.negative (digitsValue (n.whole ++ n.fraction))
    (n.exponent - n.fraction.length)

/-- A number with further digits behind it as long as it fits 64 bits, and the count of the digits
that are left over then. -/
def takeDigits (n : Nat) : List Char → Nat × Nat
  | [] => (n, 0)
  | c :: cs =>
    let m := 10 * n + (c.toNat - '0'.toNat)
    if m < 0x10000000000000000 then takeDigits m cs else (n, (c :: cs).length)

/-- The double that a numeral is read as in a document.  Of its digits those count that fit 64 bits
together, and it is made from them by way of doubles, so it may lie beside the nearest one. -/
def Numeral.approximate? (n : Numeral) : Option Double :=
  let (significand, dropped) := takeDigits 0 n.whole
  let (significand, left) := takeDigits significand n.fraction
  let taken : Nat := n.fraction.length - left
  (Double.scaleByTen? significand (n.exponent + dropped - taken)).map fun x =>
    { x with negative := n.negative }

/-- An exponent, if the text goes on with `e` or `E`: a sign is optional, a digit is not. -/
def readExponent? : List Char → Option (Option Int × List Char)
  | 'e' :: rest | 'E' :: rest =>
    let (negative, rest) := match rest with
      | '-' :: rest => (true, rest)
      | '+' :: rest => (false, rest)
      | rest => (false, rest)
    let digits := rest.takeWhile Char.isDigit
    if digits.isEmpty then none
    else
      let n : Int := digitsValue digits
      some (some (if negative then -n else n), rest.dropWhile Char.isDigit)
  | rest => some (none, rest)

/-- A number: no superfluous zero in front, digits on both sides of a point.  One without point
and exponent is an integer if it fits, except that `-0` is a double. -/
def readNumber? (cs : List Char) : Option (Document × List Char) := do
  let (negative, cs) := match cs with
    | '-' :: rest => (true, rest)
    | rest => (false, rest)
  let whole := cs.takeWhile Char.isDigit
  let cs := cs.dropWhile Char.isDigit
  guard (!whole.isEmpty && (whole.length == 1 || whole.head? != some '0'))
  let (fraction?, cs) ← match cs with
    | '.' :: rest =>
      let fraction := rest.takeWhile Char.isDigit
      if fraction.isEmpty then none else some (some fraction, rest.dropWhile Char.isDigit)
    | rest => some (none, rest)
  let (exponent?, cs) ← readExponent? cs
  let n := digitsValue whole
  let signed : Int := if negative then -n else n
  let number? :=
    if fraction?.isNone && exponent?.isNone && !(negative && n == 0) && Json.Number.fits signed then
      some (Json.Number.integer signed)
    else
      (Numeral.approximate? ⟨negative, whole, fraction?.getD [], exponent?.getD 0⟩).map .double
  some (match number? with
    | some n => .number n
    | none => .unreadable, cs)

/-! ## Strings -/

/-- What a string is made of: characters, and sixteen-bit units given by their number. -/
inductive Piece where
  | char (c : Char)
  | unit (n : Nat)

/-- The value of a hexadecimal digit. -/
def hexValue? (c : Char) : Option Nat :=
  if '0' ≤ c ∧ c ≤ '9' then some (c.toNat - 48)
  else if 'a' ≤ c ∧ c ≤ 'f' then some (c.toNat - 87)
  else if 'A' ≤ c ∧ c ≤ 'F' then some (c.toNat - 55)
  else none

/-- The unit of four hexadecimal digits. -/
def unit? (a b c d : Char) : Option Nat := do
  some ((((← hexValue? a) * 16 + (← hexValue? b)) * 16 + (← hexValue? c)) * 16 + (← hexValue? d))

/-- The character of a two-character escape. -/
def escape? (c : Char) : Option Char :=
  if c = '"' then some '"'
  else if c = '\\' then some '\\'
  else if c = '/' then some '/'
  else if c = 'b' then some '\x08'
  else if c = 'f' then some '\x0c'
  else if c = 'n' then some '\n'
  else if c = 'r' then some '\r'
  else if c = 't' then some '\t'
  else none

/-- The pieces of a string after its opening quote, and what follows its closing one.  A control
character must be escaped. -/
def readPieces? : List Char → Option (List Piece × List Char)
  | [] => none
  | '"' :: rest => some ([], rest)
  | '\\' :: 'u' :: a :: b :: c :: d :: rest => do
    let n ← unit? a b c d
    let (pieces, rest) ← readPieces? rest
    some (.unit n :: pieces, rest)
  | '\\' :: e :: rest => do
    let c ← escape? e
    let (pieces, rest) ← readPieces? rest
    some (.char c :: pieces, rest)
  | c :: rest => do
    guard (32 ≤ c.toNat && c != '\\')
    let (pieces, rest) ← readPieces? rest
    some (.char c :: pieces, rest)

/-- Whether a unit is the first or the second half of a surrogate pair. -/
def isHighHalf (n : Nat) : Bool := 0xD800 ≤ n && n < 0xDC00

/-- Whether a unit is the second half of a surrogate pair. -/
def isLowHalf (n : Nat) : Bool := 0xDC00 ≤ n && n < 0xE000

/-- The characters of some pieces; `none` if half of a surrogate pair stands alone. -/
def joinPieces? : List Piece → Option (List Char)
  | [] => some []
  | .char c :: rest => (joinPieces? rest).map (c :: ·)
  | .unit high :: .unit low :: rest =>
    if isHighHalf high && isLowHalf low then
      (joinPieces? rest).map
        (Char.ofNat (0x10000 + (high - 0xD800) * 0x400 + (low - 0xDC00)) :: ·)
    else if isHighHalf high || isLowHalf high then none
    else (joinPieces? (.unit low :: rest)).map (Char.ofNat high :: ·)
  | .unit n :: rest =>
    if isHighHalf n || isLowHalf n then none
    else (joinPieces? rest).map (Char.ofNat n :: ·)

/-- A string after its opening quote; the text is `none` if it is unreadable. -/
def readString? (cs : List Char) : Option (Option String × List Char) := do
  let (pieces, rest) ← readPieces? cs
  some ((joinPieces? pieces).map String.ofList, rest)

/-! ## Values -/

/-- The space that may stand between the parts of a document. -/
def isSpace (c : Char) : Bool := c = ' ' || c = '\n' || c = '\t' || c = '\r'

/-- The text from the next part on. -/
def skipSpace (cs : List Char) : List Char := cs.dropWhile isSpace

/-- How deeply arrays and objects may be nested in a value. -/
def nestingLimit : Nat := 127

/-- A document read at a place enclosed by `depth` arrays and objects: too deep a one is
unreadable. -/
def atDepth (depth : Nat) (d : Document) : Document :=
  if depth < nestingLimit then d else .unreadable

mutual

/-- A document at the start of a text, and what follows it.  `fuel` bounds the parts that are
entered, `depth` counts the arrays and objects around. -/
def read? : (fuel : Nat) → (depth : Nat) → List Char → Option (Document × List Char)
  | 0, _, _ => none
  | fuel + 1, depth, cs =>
    match skipSpace cs with
    | 'n' :: 'u' :: 'l' :: 'l' :: rest => some (.null, rest)
    | 't' :: 'r' :: 'u' :: 'e' :: rest => some (.bool true, rest)
    | 'f' :: 'a' :: 'l' :: 's' :: 'e' :: rest => some (.bool false, rest)
    | '"' :: rest => do
      let (s?, rest) ← readString? rest
      some (match s? with
        | some s => .string s
        | none => .unreadable, rest)
    | '[' :: rest =>
      match skipSpace rest with
      | ']' :: rest => some (atDepth depth (.array []), rest)
      | rest => do
        let (items, rest) ← readItems? fuel (depth + 1) rest
        some (atDepth depth (.array items), rest)
    | '{' :: rest =>
      match skipSpace rest with
      | '}' :: rest => some (atDepth depth (.object []), rest)
      | rest => do
        let (members, rest) ← readMembers? fuel (depth + 1) rest
        some (atDepth depth (.object members), rest)
    | cs => readNumber? cs

/-- The items of an array up to its closing bracket; there is at least one. -/
def readItems? : (fuel : Nat) → (depth : Nat) → List Char → Option (List Document × List Char)
  | 0, _, _ => none
  | fuel + 1, depth, cs => do
    let (d, rest) ← read? fuel depth cs
    match skipSpace rest with
    | ',' :: rest => do
      let (items, rest) ← readItems? fuel depth rest
      some (d :: items, rest)
    | ']' :: rest => some ([d], rest)
    | _ => none

/-- The members of an object up to its closing brace; there is at least one. -/
def readMembers? : (fuel : Nat) → (depth : Nat) → List Char →
    Option (List (Option String × Document) × List Char)
  | 0, _, _ => none
  | fuel + 1, depth, cs =>
    match skipSpace cs with
    | '"' :: rest => do
      let (key, rest) ← readString? rest
      match skipSpace rest with
      | ':' :: rest => do
        let (d, rest) ← read? fuel depth rest
        match skipSpace rest with
        | ',' :: rest => do
          let (members, rest) ← readMembers? fuel depth rest
          some ((key, d) :: members, rest)
        | '}' :: rest => some ([(key, d)], rest)
        | _ => none
      | _ => none
    | _ => none

end

/-- The document that a whole text spells. -/
def ofChars? (cs : List Char) : Option Document := do
  let (d, rest) ← read? (2 * cs.length + 2) 0 cs
  guard (skipSpace rest).isEmpty
  some d

/-- The document that a whole text spells. -/
def ofText? (s : String) : Option Document := ofChars? s.toList

end Document

namespace Json

/-- The value that a whole text denotes. -/
def ofText? (s : String) : Option Json := (Document.ofText? s).bind Document.value?

/-- The value that a text denotes once the blanks around it are gone; nothing is left of a
blank text. -/
def ofBody? (s : String) : Option Json := (Text.trimmed? s).bind ofText?

end Json

end QuotaBoard
