import QuotaBoard.Double.Basic

/-!
# The shortest text of a double

Of all decimals that read back as a given number, the one with the fewest digits is written; of
several with equally few digits, the nearest to the number, and on a tie the even one.  The
search walks from coarse decimal grids to fine ones and looks at the two neighbours of the
number on each: if any point of a grid reads back, so does one of these two.

How the digits are laid out is a decision of the number format, held in one record
(`Layout.plain`).
-/

namespace QuotaBoard

/-- A decimal `digits · 10 ^ exponent`. -/
structure Decimal where
  digits : Nat
  exponent : Int
deriving DecidableEq

namespace Double

/-! ## Which decimal -/

/-- The points that read back as the double of one rank, measured in half steps: those between
`low` and `high`, the ends included when `closed`. -/
structure ReadsBack where
  low : Nat
  high : Nat
  closed : Bool

/-- The points nearer to the magnitude of `rank` than to its neighbours; a point half-way
belongs to the even rank. -/
def readsBack (rank : Nat) : ReadsBack where
  low := units (rank - 1) + units rank
  high := units rank + units (rank + 1)
  closed := rank % 2 == 0

/-- Whether `point / scale` half steps read back. -/
def ReadsBack.admits (r : ReadsBack) (point scale : Nat) : Bool :=
  if r.closed then r.low * scale ≤ point && point ≤ r.high * scale
  else r.low * scale < point && point < r.high * scale

/-- The multiple of `10 ^ exponent` that reads back as the magnitude of `rank` and is nearest to
it, if there is one. -/
def onGrid? (rank : Nat) (exponent : Int) : Option Nat :=
  let scale := Nat.pow 10 (-exponent).toNat
  let step := Nat.pow 10 exponent.toNat * (2 * one)
  let value := 2 * units rank * scale
  let below := value / step
  let above := below + 1
  let r := readsBack rank
  match r.admits (below * step) scale, r.admits (above * step) scale with
  | false, false => none
  | true, false => some below
  | false, true => some above
  | true, true => some (roundHalfEven value step)

/-- The first hit on the grids `10 ^ exponent`, `10 ^ (exponent - 1)`, …; `tries` bounds how many
are looked at. -/
def searchGrids (rank : Nat) : (tries : Nat) → (exponent : Int) → Decimal
  | 0, exponent => ⟨0, exponent⟩
  | tries + 1, exponent =>
    match onGrid? rank exponent with
    | some digits => ⟨digits, exponent⟩
    | none => searchGrids rank tries (exponent - 1)

/-- The shortest decimal that reads back as the magnitude of a positive rank.  The search starts
above the magnitude and seventeen significant digits always suffice. -/
def shortest (rank : Nat) : Decimal :=
  let binaryExponent : Int := (units rank).log2 - 1074
  searchGrids rank 22 ((binaryExponent * 30103).fdiv 100000 + 2)

/-! ## How it is written -/

/-- How a decimal is laid out. -/
structure Layout where
  /-- The least and greatest exponent of the first digit that is written positionally. -/
  positionalFrom : Int
  positionalTo : Int

/-- The layout of numbers in JSON texts: positional from `0.00001` to below `10 ^ 16`, with at
least one decimal; otherwise scientific with the sign of the exponent. -/
def Layout.plain : Layout := ⟨-5, 15⟩

/-- Digits with a point after the first `whole` of them; a missing part is a zero. -/
def pointed (digits : List Char) (whole : Nat) : List Char :=
  let before := digits.take whole
  let after := digits.drop whole
  (if before.isEmpty then ['0'] else before) ++ '.' :: (if after.isEmpty then ['0'] else after)

/-- The text of a decimal. -/
def Layout.write (layout : Layout) (d : Decimal) : List Char :=
  let digits := Nat.toDigits 10 d.digits
  let first : Int := d.exponent + (digits.length - 1 : Nat)
  if layout.positionalFrom ≤ first ∧ first ≤ layout.positionalTo then
    if 0 ≤ d.exponent then
      digits ++ List.replicate d.exponent.toNat '0' ++ ['.', '0']
    else if 0 ≤ first then
      pointed digits (first.toNat + 1)
    else
      '0' :: '.' :: List.replicate ((-first).toNat - 1) '0' ++ digits
  else
    let mantissa := match digits with
      | [] => []
      | [c] => [c]
      | c :: rest => c :: '.' :: rest
    mantissa ++ 'e' :: (if first < 0 then '-' else '+') :: Nat.toDigits 10 first.natAbs

/-- The text of a number: its sign and its shortest decimal. -/
def chars (x : Double) : List Char :=
  let magnitude := if x.rank = 0 then ['0', '.', '0'] else Layout.plain.write (shortest x.rank)
  if x.negative then '-' :: magnitude else magnitude

/-- The text of a number. -/
def text (x : Double) : String := String.ofList x.chars

/-- The number without decimals, a half going to the even neighbour of the exact value. -/
def wholeText (x : Double) : String :=
  let digits := Nat.toDigits 10 (roundHalfEven (units x.rank) one)
  String.ofList (if x.negative then '-' :: digits else digits)

end Double

end QuotaBoard
