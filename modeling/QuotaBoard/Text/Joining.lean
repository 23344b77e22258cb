import QuotaBoard.Text.JoiningTable
import QuotaBoard.Text.Mark

/-!
# Joined writing

In scripts such as Arabic, letters are joined to their neighbours, with marks in between passed
over.
-/

namespace QuotaBoard.Text

/-- Whether a letter can be joined to what follows it. -/
def joinsOnward (c : Char) : Bool := isWithin Joining.bothSides c || isWithin Joining.onward c

/-- Whether a letter can be joined to what precedes it. -/
def joinsBackward (c : Char) : Bool := isWithin Joining.bothSides c || isWithin Joining.backward c

/-- Whether letters are joined across a character. -/
def isCrossed (c : Char) : Bool := isNonspacingMark c || isWithin Joining.crossed c

end QuotaBoard.Text
