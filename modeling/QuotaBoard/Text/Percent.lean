import QuotaBoard.Text.Utf8

/-!
# Percent encoding

A byte that may not stand in some part of a URL is written as `%` and two hexadecimal digits.
Which characters those are depends on the part; what is not ASCII is always encoded.
-/

namespace QuotaBoard.Percent

/-- A hexadecimal digit in upper case. -/
def digit (n : Nat) : Char :=
  if n < 10 then Char.ofNat (48 + n) else Char.ofNat (55 + n)

/-- The escape of a byte. -/
def escape (b : UInt8) : List Char :=
  ['%', digit (b.toNat / 16), digit (b.toNat % 16)]

/-- The escapes of the bytes of a character. -/
def escapeChar (c : Char) : List Char :=
  (Utf8.bytes (String.singleton c)).flatMap escape

/-- A text with the characters of a set escaped. -/
def encode (reserved : Char → Bool) (cs : List Char) : List Char :=
  cs.flatMap fun c => if 128 ≤ c.toNat || reserved c then escapeChar c else [c]

/-- The value of a hexadecimal digit. -/
def value? (c : Char) : Option Nat :=
  if '0' ≤ c ∧ c ≤ '9' then some (c.toNat - 48)
  else if 'a' ≤ c ∧ c ≤ 'f' then some (c.toNat - 87)
  else if 'A' ≤ c ∧ c ≤ 'F' then some (c.toNat - 55)
  else none

/-- The bytes of a text, in which escapes stand for the byte that they name. -/
def decode : List Char → List UInt8
  | [] => []
  | '%' :: a :: b :: rest =>
    match value? a, value? b with
    | some high, some low => UInt8.ofNat (16 * high + low) :: decode rest
    | _, _ => 37 :: decode (a :: b :: rest)
  | c :: rest => Utf8.bytes (String.singleton c) ++ decode rest

/-! ## Sets -/

/-- Control characters. -/
def control (c : Char) : Bool := c.toNat < 32 || c.toNat = 127

/-- What is escaped in a fragment. -/
def fragment (c : Char) : Bool := control c || " \"<>`".toList.contains c

/-- What is escaped in a query. -/
def query (c : Char) : Bool := control c || " \"#<>".toList.contains c

/-- What is escaped in the query of a web address. -/
def webQuery (c : Char) : Bool := query c || c = '\''

/-- What is escaped in a path. -/
def path (c : Char) : Bool := fragment c || "#?\x7b\x7d".toList.contains c

/-- What is escaped in a user name or password. -/
def userinfo (c : Char) : Bool := path c || "/:;=@[\\]^|".toList.contains c

/-! ## Forms -/

/-- A name or value of a form: letters, digits and `*-._` stand for themselves, a plus for a
space. -/
def formEncode (s : String) : List Char :=
  s.toList.flatMap fun c =>
    if c = ' ' then ['+']
    else if c.isAlphanum || "*-._".toList.contains c then [c]
    else escapeChar c

end QuotaBoard.Percent
