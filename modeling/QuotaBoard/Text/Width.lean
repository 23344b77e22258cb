import QuotaBoard.Text.Ranges
import QuotaBoard.Text.WidthTable

/-!
# Widths on a terminal

How many columns a text takes on a terminal.
-/

namespace QuotaBoard.Text

/-- The columns that a character takes. -/
def charWidth (c : Char) : Nat :=
  if c.toNat < 0x80 then 1
  else if isWithin Width.empty c then 0
  else if isWithin Width.wide c then 2
  else 1

/-- The columns that some characters take. -/
def width (cs : List Char) : Nat := cs.foldl (fun columns c => columns + charWidth c) 0

end QuotaBoard.Text
