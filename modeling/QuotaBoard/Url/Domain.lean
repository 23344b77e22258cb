import QuotaBoard.Text.Blank
import QuotaBoard.Text.Composition
import QuotaBoard.Text.Direction
import QuotaBoard.Text.Joining
import QuotaBoard.Text.LetterCase
import QuotaBoard.Text.Percent
import QuotaBoard.Text.Punycode
import QuotaBoard.Url.DomainTable

/-!
# Domains

How the name of a domain is read.  Different writings of one name are made equal: letters lose
their case, compatible forms give way to the plain ones, and marks are composed with their
letters.  Then each label, the text between two points, has to be fit for a name, and one with
letters beyond ASCII is written in Punycode.
-/

namespace QuotaBoard.Url.Domain

/-! ## Characters -/

/-- Characters that no domain may have. -/
def forbidden (c : Char) : Bool :=
  Percent.control c || " #/:<>?@[\\]^|%".toList.contains c

/-- The text that a character is replaced by. -/
def replacement? (c : Char) : Option (List Char) := do
  let block ← replaced.find? fun b => b.first ≤ c.toNat && c.toNat ≤ b.last
  (Text.splitOnChar ' ' block.words.toList)[c.toNat - block.first]?

/-- What a character means in a domain; some have no business there. -/
def meaning? (c : Char) : Option (List Char) :=
  if c.toNat < 128 then some [c.toLower]
  else if Text.isWithin ignored c then some []
  else if Text.isWithin excluded c then none
  else match Text.partner? shifted c with
    | some d => some [d]
    | none => some ((replacement? c).getD (Text.lowerOf c))

/-- What a text means in a domain. -/
def meaningOf? (cs : List Char) : Option (List Char) :=
  (cs.mapM meaning?).map fun meanings => Text.compose meanings.flatten

/-! ## Labels -/

/-- Whether a text is all of ASCII. -/
def isAscii (cs : List Char) : Bool := cs.all (·.toNat < 128)

/-- The letters that a label stands for.  One in Punycode has to stand for a text beyond ASCII
that means itself, and has a bounded length. -/
def letters? (label : List Char) : Option (List Char) :=
  match label with
  | 'x' :: 'n' :: '-' :: '-' :: code => do
    guard (code.length ≤ 2000)
    let letters ← Punycode.decode? code
    guard (!isAscii letters && meaningOf? letters = some letters)
    some letters
  | _ => some label

/-- A sign that joins letters which are apart. -/
def joiner : Char := '\u200D'

/-- A sign that keeps letters apart which would be joined. -/
def nonJoiner : Char := '\u200C'

/-- Whether every joiner has something to do, with `before` what stands in front, the last
character first.  After a sign that mutes a vowel both are fit; but for that, letters must be
there to be kept apart. -/
def joinersFit (before : List Char) : List Char → Bool
  | [] => true
  | c :: rest =>
    let muted := before.head?.any Text.mutesVowel
    let keptApart := (before.find? (!Text.isCrossed ·)).any Text.joinsOnward &&
      (rest.find? (!Text.isCrossed ·)).any Text.joinsBackward
    let fits :=
      if c = joiner then muted
      else if c = nonJoiner then muted || keptApart
      else true
    fits && joinersFit (c :: before) rest

/-- Whether letters are fit for a label. -/
def isFit (letters : List Char) : Bool :=
  isAscii letters ||
    (!(letters.head?.any Text.isMark) && joinersFit [] letters && letters.length ≤ 1000)

/-! ## Directions

A name that is written from right to left anywhere must not change its look with what stands
around its labels: each of them keeps to one direction from its first character to its last. -/

/-- Whether a character makes a name one with two directions; none of ASCII does. -/
def turns (c : Char) : Bool :=
  !(c.toNat < 128) &&
    match Text.direction c with
    | .leftward | .arabicDigit => true
    | _ => false

/-- Whether a label keeps to the direction of its first character, which has to be a letter, up
to its last one but for marks, which has to be a letter or a digit. -/
def keepsDirection (letters : List Char) : Bool :=
  let directions := letters.map Text.direction
  let last? := directions.reverse.find? (· ≠ .mark)
  match directions with
  | [] => true
  | .rightward :: _ =>
    directions.all (fun d => d ≠ .leftward && d ≠ .arabicDigit) &&
      last?.any (fun d => d = .rightward || d = .europeanDigit)
  | .leftward :: _ =>
    directions.all (· ≠ .rightward) && last?.any (· ≠ .neutral) &&
      !(directions.contains .europeanDigit && directions.contains .arabicDigit)
  | _ => false

/-! ## Names -/

/-- A label in ASCII. -/
def asciiLabel (label : List Char) : List Char :=
  if isAscii label then label else "xn--".toList ++ Punycode.encode label

/-- The domain that a text names, each label in ASCII. -/
def ascii? (cs : List Char) : Option (List Char) := do
  let name ← meaningOf? cs
  guard !name.any forbidden
  let labels := Text.splitOnChar '.' name
  let letters ← labels.mapM letters?
  guard (letters.all isFit)
  guard (!letters.any (·.any turns) || letters.all keepsDirection)
  some (['.'].intercalate (labels.map asciiLabel))

end QuotaBoard.Url.Domain
