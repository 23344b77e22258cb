/-!
# Base64

Bytes as digits of six bits, in groups of four that are filled up with `=`.  `decode?` accepts the
digits of the standard alphabet with exactly the padding that fills their last group; the bits of
the last digit that belong to no byte must be zero, so every byte string has one form.  Digits of
the alphabet that is safe in URLs are exchanged for those of the standard one before they are read
(`standardDigit`), and padding that was left out is put back (`fill`).
-/

namespace QuotaBoard.Base64

/-- The value of a digit of the standard alphabet. -/
def digitValue? (c : Char) : Option Nat :=
  if 'A' ≤ c ∧ c ≤ 'Z' then some (c.toNat - 65)
  else if 'a' ≤ c ∧ c ≤ 'z' then some (c.toNat - 71)
  else if '0' ≤ c ∧ c ≤ '9' then some (c.toNat + 4)
  else if c = '+' then some 62
  else if c = '/' then some 63
  else none

/-- The digit of the standard alphabet for one of the alphabet that is safe in URLs; anything else
stays as it is. -/
def standardDigit (c : Char) : Char :=
  if c = '-' then '+' else if c = '_' then '/' else c

/-- The digit of a value in the alphabet that is safe in URLs. -/
def urlDigit (n : Nat) : Char :=
  if n < 26 then Char.ofNat (n + 65)
  else if n < 52 then Char.ofNat (n + 71)
  else if n < 62 then Char.ofNat (n - 4)
  else if n = 62 then '-'
  else '_'

/-- The digit values of some bytes. -/
def sextets : List UInt8 → List Nat
  | [] => []
  | [a] => [a.toNat / 4, a.toNat % 4 * 16]
  | [a, b] => [a.toNat / 4, a.toNat % 4 * 16 + b.toNat / 16, b.toNat % 16 * 4]
  | a :: b :: c :: rest =>
    [a.toNat / 4, a.toNat % 4 * 16 + b.toNat / 16, b.toNat % 16 * 4 + c.toNat / 64,
      c.toNat % 64] ++ sextets rest

/-- The bytes of some digit values: four digits make three bytes, and a rest of two or three
digits makes one or two, its spare bits being zero. -/
def ofSextets? : List Nat → Option (List UInt8)
  | [] => some []
  | [_] => none
  | [a, b] => if b % 16 = 0 then some [UInt8.ofNat (a * 4 + b / 16)] else none
  | [a, b, c] =>
    if c % 4 = 0 then
      some [UInt8.ofNat (a * 4 + b / 16), UInt8.ofNat (b % 16 * 16 + c / 4)]
    else none
  | a :: b :: c :: d :: rest => do
    let bytes ← ofSextets? rest
    some ([UInt8.ofNat (a * 4 + b / 16), UInt8.ofNat (b % 16 * 16 + c / 4),
      UInt8.ofNat (c % 4 * 64 + d)] ++ bytes)

/-- The bytes of some digits. -/
def ofDigits? (digits : List Char) : Option (List UInt8) := do
  ofSextets? (← digits.mapM digitValue?)

/-- How many `=` fill the last group of four. -/
def paddingOf (count : Nat) : Nat :=
  (4 - count % 4) % 4

/-- A text with `=` behind it that fill its last group of four bytes. -/
def fill (cs : List Char) : List Char :=
  cs ++ List.replicate (paddingOf (String.ofList cs).utf8ByteSize) '='

/-- The bytes of some digits and the padding that fills their last group of four, no more of it and
no less. -/
def decode? (cs : List Char) : Option (List UInt8) := do
  let digits := cs.takeWhile (· ≠ '=')
  guard (cs.dropWhile (· ≠ '=') = List.replicate (paddingOf digits.length) '=')
  ofDigits? digits

/-- The digits of some bytes in the alphabet that is safe in URLs, without padding. -/
def encodeUrl (bytes : List UInt8) : List Char :=
  (sextets bytes).map urlDigit

end QuotaBoard.Base64
