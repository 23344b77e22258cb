import QuotaBoard.Text.Blank
import QuotaBoard.Text.Width

/-!
# Tables on the terminal

A table has a header and rows.  A cell may have several lines; each column is as wide as its
widest line, with a space on both sides.
-/

namespace QuotaBoard.CommandLine.Table

/-- The lines of a cell. -/
abbrev Cell := List (List Char)

/-- The cell of a text. -/
def cellOf (s : String) : Cell := Text.splitOnChar '\n' s.toList

/-- The columns that a cell takes. -/
def cellWidth (cell : Cell) : Nat := (cell.map Text.width).foldl max 0

/-- The wider of two lists of columns, column by column. -/
def widest : List Nat → List Nat → List Nat
  | a :: as, b :: bs => max a b :: widest as bs
  | [], bs => bs
  | as, [] => as

/-- The width of each column of some rows. -/
def widths (rows : List (List Cell)) : List Nat :=
  (rows.map (·.map cellWidth)).foldl widest []

/-- How a horizontal rule is drawn. -/
structure Rule where
  left : Char
  line : Char
  crossing : Char
  right : Char

/-- The rule above the table. -/
def top : Rule := ⟨'┌', '─', '┬', '┐'⟩

/-- The rule below the header. -/
def belowHeader : Rule := ⟨'╞', '═', '╪', '╡'⟩

/-- The rule between two rows. -/
def between : Rule := ⟨'├', '╌', '┼', '┤'⟩

/-- The rule below the table. -/
def bottom : Rule := ⟨'└', '─', '┴', '┘'⟩

/-- A rule across columns of some widths. -/
def Rule.across (r : Rule) (widths : List Nat) : List Char :=
  r.left :: [r.crossing].intercalate (widths.map fun n => List.replicate (n + 2) r.line)
    ++ [r.right]

/-- A line of a cell between its spaces. -/
def padded (n : Nat) (line : List Char) : List Char :=
  ' ' :: line ++ List.replicate (n - Text.width line) ' ' ++ [' ']

/-- One line across some cells. -/
def lineAcross (widths : List Nat) (lines : List (List Char)) : List Char :=
  '│' :: ['┆'].intercalate (List.zipWith padded widths lines) ++ ['│']

/-- The lines of a row. -/
def rowLines (widths : List Nat) (row : List Cell) : List (List Char) :=
  (List.range ((row.map List.length).foldl max 0)).map fun i =>
    lineAcross widths (row.map fun cell => cell.getD i [])

/-- A table with a header and at least one row. -/
def render (header : List String) (rows : List (List String)) : String :=
  let header := header.map cellOf
  let rows := rows.map (·.map cellOf)
  let widths := widths (header :: rows)
  let body := [between.across widths].intercalate (rows.map (rowLines widths))
  let lines := top.across widths :: rowLines widths header ++
    belowHeader.across widths :: body ++ [bottom.across widths]
  String.ofList (['\n'].intercalate lines)

end QuotaBoard.CommandLine.Table
