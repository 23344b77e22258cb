import QuotaBoard.Text.CaseTable

/-!
# Letter case

Full Unicode case mapping of texts, independent of any language.  Upper case may lengthen a
character (`ß` becomes `SS`).  In lower case one letter looks at its neighbours: a capital sigma
at the end of a word becomes `ς`, anywhere else `σ`.
-/

namespace QuotaBoard.Text

namespace LetterCase

/-- Whether a character has case and is not passed over beside a sigma. -/
def isCased (c : Char) : Bool := isWithin cased c

/-- Whether a character is passed over beside a sigma. -/
def isIgnorable (c : Char) : Bool := isWithin caseIgnorable c

/-- Whether the nearest character that is not passed over has case. -/
def nextIsCased (cs : List Char) : Bool :=
  match cs.dropWhile isIgnorable with
  | [] => false
  | c :: _ => isCased c

end LetterCase

/-- The upper case of one character. -/
def upperOf (c : Char) : List Char :=
  if c.toNat < 128 then [c.toUpper]
  else match LetterCase.upperLong.find? (·.1 == c.toNat) with
    | some (_, long) => long.map Char.ofNat
    | none => [(partner? LetterCase.upperRuns c).getD c]

/-- The lower case of one character away from the end of a word. -/
def lowerOf (c : Char) : List Char :=
  if c.toNat < 128 then [c.toLower]
  else if c = '\u0130' then ['i', '\u0307']
  else [(partner? LetterCase.lowerRuns c).getD c]

/-- The lower case of the characters after `before`, which holds what precedes them, nearest
first. -/
def lowerList (before : List Char) : List Char → List Char
  | [] => []
  | c :: cs =>
    (if c = 'Σ' && LetterCase.nextIsCased before && !LetterCase.nextIsCased cs then ['ς']
      else lowerOf c) ++ lowerList (c :: before) cs

/-- The lower case of a text. -/
def lower (s : String) : String :=
  String.ofList (lowerList [] s.toList)

/-- A text whose ASCII letters are in lower case. -/
def lowerAscii (s : String) : String :=
  String.ofList (s.toList.map Char.toLower)

end QuotaBoard.Text
