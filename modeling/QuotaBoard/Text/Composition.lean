import QuotaBoard.Text.CompositionTable
import QuotaBoard.Text.Ranges

/-!
# Composition

One letter with marks can be written in several ways: `é` is one character, or an `e` and an
accent, and two marks that do not touch may stand in either order.  `compose` picks one of these
writings, the Unicode normal form C: every character is taken apart, the marks are put in order,
and what makes one character is put together again.
-/

namespace QuotaBoard.Text

namespace Composition

/-! ## Hangul

A Korean syllable is put together by its number: 19 leading consonants, 21 vowels, and 27 trailing
consonants or none. -/

/-- The syllable of two parts: a consonant and a vowel, or a syllable that is still open and a
trailing consonant. -/
def syllable? (a b : Char) : Option Char :=
  let (a, b) := (a.toNat, b.toNat)
  if 0x1100 ≤ a ∧ a < 0x1113 ∧ 0x1161 ≤ b ∧ b < 0x1176 then
    some (Char.ofNat (0xAC00 + 28 * (21 * (a - 0x1100) + (b - 0x1161))))
  else if 0xAC00 ≤ a ∧ a < 0xD7A4 ∧ (a - 0xAC00) % 28 = 0 ∧ 0x11A7 < b ∧ b < 0x11C3 then
    some (Char.ofNat (a + (b - 0x11A7)))
  else none

/-- The two parts of a syllable. -/
def syllableParts? (c : Char) : Option (Char × Char) :=
  if 0xAC00 ≤ c.toNat ∧ c.toNat < 0xD7A4 then
    let n := c.toNat - 0xAC00
    if n % 28 = 0 then some (Char.ofNat (0x1100 + n / 588), Char.ofNat (0x1161 + n % 588 / 28))
    else some (Char.ofNat (c.toNat - n % 28), Char.ofNat (0x11A7 + n % 28))
  else none

/-! ## Pairs -/

/-- The character that two make. -/
def join? (a b : Char) : Option Char := do
  guard (0x300 ≤ b.toNat)
  match composites.find? (·.1 == b.toNat) with
  | some (_, pairs) => (pairs.find? (·.1 == a.toNat)).map (Char.ofNat ·.2)
  | none => syllable? a b

/-- The two characters that one stands for. -/
def parts? (c : Char) : Option (Char × Char) := do
  guard (0xC0 ≤ c.toNat)
  let entry := composites.findSome? fun (b, pairs) =>
    (pairs.find? (·.2 == c.toNat)).map fun (a, _) => (Char.ofNat a, Char.ofNat b)
  entry.or (syllableParts? c)

/-- What a character stands for when it is taken apart up to `depth` times. -/
def apart : (depth : Nat) → Char → List Char
  | 0, c => [c]
  | depth + 1, c =>
    match parts? c with
    | some (a, b) => apart depth a ++ [b]
    | none => [c]

/-! ## Order of marks -/

/-- The class of a mark; it is 0 for all that keeps its place. -/
def markClass (c : Char) : Nat :=
  if c.toNat < 0x300 then 0
  else match classes.find? fun (_, ranges) => isWithin ranges c with
    | some (n, _) => n
    | none => 0

/-- Adds a character to a text that is written from its end: a mark goes in front of the marks of
higher classes. -/
def place (c : Char) : List Char → List Char
  | [] => [c]
  | d :: rest =>
    if 0 < markClass c && markClass c < markClass d then d :: place c rest else c :: d :: rest

/-- A text whose marks are in order. -/
def arrange (cs : List Char) : List Char :=
  (cs.foldl (fun placed c => place c placed) []).reverse

/-! ## Putting together -/

/-- Puts together what follows `base` and the `marks` after it, the last of them first.  A mark
reaches its base past marks of lower classes only. -/
def together (base : Char) (marks : List Char) : List Char → List Char
  | [] => base :: marks.reverse
  | c :: rest =>
    let reaches := match marks with
      | [] => true
      | d :: _ => markClass d < markClass c
    match if reaches then join? base c else none with
    | some joined => together joined marks rest
    | none =>
      if markClass c = 0 then base :: (marks.reverse ++ together c [] rest)
      else together base (c :: marks) rest

/-- Puts together an arranged text; marks without a base stay. -/
def assemble : List Char → List Char
  | [] => []
  | c :: rest => if markClass c = 0 then together c [] rest else c :: assemble rest

end Composition

/-- Whether a mark takes away the vowel of the letter before; these marks have a class of their
own. -/
def mutesVowel (c : Char) : Bool := Composition.markClass c == 9

/-- The normal form C of a text.  No character has to be taken apart more than three times. -/
def compose (cs : List Char) : List Char :=
  Composition.assemble (Composition.arrange (cs.flatMap (Composition.apart 3)))

end QuotaBoard.Text
