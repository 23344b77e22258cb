/-!
# Punycode

A host label with letters beyond ASCII is written with ASCII letters and digits: the ASCII
letters first, then for each further letter in order of code points how far it lies from the one
before, as a number of variable length.
-/

namespace QuotaBoard.Punycode

/-- The digit of a value below 36. -/
def digit (n : Nat) : Char :=
  if n < 26 then Char.ofNat (97 + n) else Char.ofNat (22 + n)

/-- The value of a digit. -/
def value? (c : Char) : Option Nat :=
  if 'a' ≤ c ∧ c ≤ 'z' then some (c.toNat - 97)
  else if 'A' ≤ c ∧ c ≤ 'Z' then some (c.toNat - 65)
  else if '0' ≤ c ∧ c ≤ '9' then some (c.toNat - 22)
  else none

/-- How often `delta` is divided by 35 until it is at most 455, and what is left. -/
def divisions : (fuel : Nat) → (delta k : Nat) → Nat × Nat
  | 0, delta, k => (k, delta)
  | fuel + 1, delta, k => if 455 < delta then divisions fuel (delta / 35) (k + 36) else (k, delta)

/-- The bias after a step of `delta`, with `count` characters written. -/
def adapt (delta count : Nat) (first : Bool) : Nat :=
  let delta := if first then delta / 700 else delta / 2
  let (k, delta) := divisions 64 (delta + delta / count) 0
  k + 36 * delta / (delta + 38)

/-- The threshold of the digit at a position. -/
def threshold (k bias : Nat) : Nat :=
  if k ≤ bias then 1 else if bias + 26 ≤ k then 26 else k - bias

/-- The digits of a number under a bias. -/
def digits (bias : Nat) : (fuel : Nat) → (k q : Nat) → List Char
  | 0, _, _ => []
  | fuel + 1, k, q =>
    let t := threshold k bias
    if q < t then [digit q]
    else digit (t + (q - t) % (36 - t)) :: digits bias fuel (k + 36) ((q - t) / (36 - t))

/-- What is carried through the characters of a text while one code point is written. -/
structure State where
  delta : Nat
  bias : Nat
  written : Nat
  first : Bool
  out : List Char

/-- Writes every occurrence of the code point `n`. -/
def writeOccurrences (n : Nat) (cs : List Char) (s : State) : State :=
  cs.foldl (fun s c =>
    if c.toNat < n then { s with delta := s.delta + 1 }
    else if c.toNat = n then
      { delta := 0
        bias := adapt s.delta (s.written + 1) s.first
        written := s.written + 1
        first := false
        out := s.out ++ digits s.bias 64 36 s.delta }
    else s) s

/-- Writes all code points from `n` on. -/
def writeFrom (cs : List Char) : (fuel : Nat) → (n : Nat) → State → List Char
  | 0, _, s => s.out
  | fuel + 1, n, s =>
    match ((cs.map Char.toNat).filter (n ≤ ·)).min? with
    | none => s.out
    | some m =>
      let s := writeOccurrences m cs { s with delta := s.delta + (m - n) * (s.written + 1) }
      writeFrom cs fuel (m + 1) { s with delta := s.delta + 1 }

/-- The Punycode of a text. -/
def encode (cs : List Char) : List Char :=
  let basic := cs.filter (·.toNat < 128)
  let start := if basic.isEmpty then [] else basic ++ ['-']
  writeFrom cs cs.length 128 ⟨0, 72, basic.length, true, start⟩

/-- The least number that is too large to be read; no text needs it. -/
def bound : Nat := 0x100000000

/-- Reads one number under a bias: its value and what follows it. -/
def readNumber? (bias : Nat) : (k weight i : Nat) → List Char → Option (Nat × List Char)
  | _, _, _, [] => none
  | k, weight, i, c :: rest => do
    let d ← value? c
    let i := i + d * weight
    guard (i < bound)
    let t := threshold k bias
    if d < t then some (i, rest)
    else
      guard (weight * (36 - t) < bound)
      readNumber? bias (k + 36) (weight * (36 - t)) i rest

/-- Reads the letters beyond ASCII and puts each where it belongs. -/
def readLetters? : (fuel : Nat) → (n i bias : Nat) → (out digits : List Char) →
    Option (List Char)
  | _, _, _, _, out, [] => some out
  | 0, _, _, _, _, _ => none
  | fuel + 1, n, i, bias, out, digits => do
    let (j, rest) ← readNumber? bias 36 1 i digits
    let count := out.length + 1
    let n := n + j / count
    guard (Nat.isValidChar n)
    let place := j % count
    readLetters? fuel n (place + 1) (adapt (j - i) count (i = 0))
      (out.take place ++ Char.ofNat n :: out.drop place) rest

/-- The text of some Punycode.  The last hyphen ends the ASCII letters; without any it is not
written. -/
def decode? (cs : List Char) : Option (List Char) := do
  guard (cs.all (·.toNat < 128))
  let reversed := cs.reverse
  let digits := (reversed.takeWhile (· ≠ '-')).reverse
  let basic := ((reversed.dropWhile (· ≠ '-')).drop 1).reverse
  let digits := if basic.isEmpty then cs else digits
  readLetters? digits.length 128 0 72 basic digits

end QuotaBoard.Punycode
