import QuotaBoard.Text.DirectionTable
import QuotaBoard.Text.Mark

/-!
# Writing direction

How a character bears on the direction of the line it stands in.
-/

namespace QuotaBoard.Text

/-- What a character says about the direction of writing. -/
inductive Direction where
  /-- Written from left to right. -/
  | rightward
  /-- Written from right to left. -/
  | leftward
  | europeanDigit
  /-- A digit that stands among letters from right to left. -/
  | arabicDigit
  /-- A sign that goes with its neighbours. -/
  | neutral
  /-- A mark, which goes with the character before. -/
  | mark
deriving DecidableEq

/-- The direction of a character; those that only command a direction count as rightward. -/
def direction (c : Char) : Direction :=
  if isWithin Direction.europeanDigits c then .europeanDigit
  else if isWithin Direction.arabicDigits c then .arabicDigit
  else if isWithin Direction.leftwardLetters c then .leftward
  else if isWithin Direction.neutrals c then .neutral
  else if isNonspacingMark c && !isWithin Direction.directedMarks c then .mark
  else .rightward

end QuotaBoard.Text
