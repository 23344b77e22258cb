import QuotaBoard.Json.Basic
import QuotaBoard.Double.Text

/-!
# The text of a JSON value

Two layouts: `text`, on one line without space, for request bodies, and `pretty`, indented by
two, for files and the terminal.  A string escapes the quote, the backslash and the control
characters below the space, and nothing else.
-/

namespace QuotaBoard.Json

/-! ## Leaves -/

/-- A digit of a hexadecimal escape. -/
def hexDigit (n : Nat) : Char :=
  if n < 10 then Char.ofNat (48 + n) else Char.ofNat (87 + n)

/-- How one character stands in a string. -/
def escaped (c : Char) : List Char :=
  if c = '"' then ['\\', '"']
  else if c = '\\' then ['\\', '\\']
  else if c = '\x08' then ['\\', 'b']
  else if c = '\x0c' then ['\\', 'f']
  else if c = '\n' then ['\\', 'n']
  else if c = '\r' then ['\\', 'r']
  else if c = '\t' then ['\\', 't']
  else if c.toNat < 32 then
    ['\\', 'u', '0', '0', hexDigit (c.toNat / 16), hexDigit (c.toNat % 16)]
  else [c]

/-- A string between quotes. -/
def quoted (s : String) : List Char :=
  '"' :: s.toList.flatMap escaped ++ ['"']

/-- The text of a number. -/
def Number.chars : Number → List Char
  | integer (.ofNat n) => Nat.toDigits 10 n
  | integer (.negSucc n) => '-' :: Nat.toDigits 10 (n + 1)
  | double x => x.chars

/-- The text of a number. -/
def Number.text (n : Number) : String := String.ofList n.chars

/-! ## On one line -/

mutual

/-- A value on one line. -/
def chars : Json → List Char
  | null => ['n', 'u', 'l', 'l']
  | bool true => ['t', 'r', 'u', 'e']
  | bool false => ['f', 'a', 'l', 's', 'e']
  | number n => n.chars
  | string s => quoted s
  | array items => '[' :: itemChars items ++ [']']
  | object members => '{' :: memberChars members ++ ['}']

/-- Items with a comma between them. -/
def itemChars : List Json → List Char
  | [] => []
  | [v] => v.chars
  | v :: rest => v.chars ++ ',' :: itemChars rest

/-- Members with a comma between them. -/
def memberChars : List (String × Json) → List Char
  | [] => []
  | [(k, v)] => quoted k ++ ':' :: v.chars
  | (k, v) :: rest => quoted k ++ ':' :: v.chars ++ ',' :: memberChars rest

end

/-- A value on one line. -/
def text (v : Json) : String := String.ofList v.chars

/-! ## Indented -/

/-- A new line at a depth of indentation. -/
def newLine (depth : Nat) : List Char :=
  '\n' :: List.replicate (2 * depth) ' '

mutual

/-- A value whose inner lines stand at `depth + 1`. -/
def prettyChars (depth : Nat) : Json → List Char
  | array (v :: rest) =>
    '[' :: newLine (depth + 1) ++ prettyChars (depth + 1) v ++ prettyItems (depth + 1) rest
      ++ newLine depth ++ [']']
  | object ((k, v) :: rest) =>
    '{' :: newLine (depth + 1) ++ quoted k ++ ':' :: ' ' :: prettyChars (depth + 1) v
      ++ prettyMembers (depth + 1) rest ++ newLine depth ++ ['}']
  | v => v.chars

/-- The items after the first, each after a comma and on a line of its own. -/
def prettyItems (depth : Nat) : List Json → List Char
  | [] => []
  | v :: rest => ',' :: newLine depth ++ prettyChars depth v ++ prettyItems depth rest

/-- The members after the first, each after a comma and on a line of its own. -/
def prettyMembers (depth : Nat) : List (String × Json) → List Char
  | [] => []
  | (k, v) :: rest =>
    ',' :: newLine depth ++ quoted k ++ ':' :: ' ' :: prettyChars depth v
      ++ prettyMembers depth rest

end

/-- A value over several lines; empty arrays and objects stay on one. -/
def pretty (v : Json) : String := String.ofList (v.prettyChars 0)

end QuotaBoard.Json
