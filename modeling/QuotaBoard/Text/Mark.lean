import QuotaBoard.Text.MarkTable
import QuotaBoard.Text.Ranges

/-!
# Combining marks

Which characters join the one before them and so cannot begin a text.
-/

namespace QuotaBoard.Text

/-- Whether a character is a mark that takes no place of its own. -/
def isNonspacingMark (c : Char) : Bool := isWithin Mark.nonspacing c

/-- Whether a character is a combining mark. -/
def isMark (c : Char) : Bool := isNonspacingMark c || isWithin Mark.spacing c

end QuotaBoard.Text
