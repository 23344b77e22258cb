/-!
# Finite binary64 numbers, exactly

Vendors report fractions and amounts as JSON numbers, which are binary64 numbers.  Everything
shown to a user is compared, rounded or printed from them, so they are kept as exact values and
no step depends on a processor's arithmetic.

A magnitude is named by its *rank*: its place among the magnitudes of the format, counted from
zero.  `units` gives the value of a rank as a whole number of steps of `2 ^ (-1074)`, the
smallest positive magnitude.  Two facts make the rest short: ranks and values have the same
order, and rounding a quotient to the nearest double is one rounding to the nearest whole
number (`nearestRank`), a carry into the next binade included.
-/

namespace QuotaBoard

/-- The magnitudes of one binade, of which the format has 2046 and the subnormal one. -/
def binade : Nat := Nat.pow 2 52

/-- The first rank that is no longer finite. -/
def rankLimit : Nat := 2047 * binade

/-- A finite binary64 number: a sign and the rank of its magnitude. Zero has two signs. -/
structure Double where
  negative : Bool
  rank : Nat
  rank_lt : rank < rankLimit := by decide
deriving DecidableEq

namespace Double

/-- The quotient `num / den` as a whole number, a half going to the even neighbour. -/
def roundHalfEven (num den : Nat) : Nat :=
  let q := num / den
  let twice := 2 * (num % den)
  if twice < den then q
  else if den < twice then q + 1
  else if q % 2 = 0 then q else q + 1

/-- The quotient `num / den` as a whole number, a half going up. -/
def roundHalfUp (num den : Nat) : Nat :=
  (2 * num + den) / (2 * den)

/-! ## Ranks and values -/

/-- How often the step of the format has doubled at a rank, counted from the smallest step. -/
def doublings (rank : Nat) : Nat :=
  rank / binade - 1

/-- The magnitude of a rank, in steps of `2 ^ (-1074)`. -/
def units (rank : Nat) : Nat :=
  (rank - doublings rank * binade) * Nat.pow 2 (doublings rank)

/-- The steps of `2 ^ (-1074)` that make up one. -/
def one : Nat := Nat.pow 2 1074

/-- The rank nearest to `num / den` steps, of two equally near the even one.  It may lie at or
beyond `rankLimit`; then the quotient has no finite double. -/
def nearestRank (num den : Nat) : Nat :=
  let s := (num / den).log2 - 52
  s * binade + roundHalfEven num (den * Nat.pow 2 s)

/-- The value of a number in steps of `2 ^ (-1074)`; both zeros have the value zero. -/
def scaled (x : Double) : Int :=
  if x.negative then -(units x.rank : Int) else units x.rank

/-- The number of a given sign and rank, if the rank is finite. -/
def ofRank? (negative : Bool) (rank : Nat) : Option Double :=
  if h : rank < rankLimit then some ⟨negative, rank, h⟩ else none

/-- The number of a given sign and rank; beyond the finite ranks the largest of them. -/
def ofRank (negative : Bool) (rank : Nat) : Double :=
  ⟨negative, min rank (rankLimit - 1), by
    have : 0 < rankLimit := by decide
    omega⟩

/-- Positive zero. -/
def zero : Double := ⟨false, 0, by decide⟩

/-- The double nearest to a whole number. -/
def ofInt (n : Int) : Double :=
  ofRank (decide (n < 0)) (nearestRank (n.natAbs * one) 1)

instance (n : Nat) : OfNat Double n := ⟨ofInt n⟩

/-! ## Order

`≤` and `<` compare values, so the two zeros are equal under them. -/

instance : LE Double := ⟨fun x y => x.scaled ≤ y.scaled⟩

instance : LT Double := ⟨fun x y => x.scaled < y.scaled⟩

instance (x y : Double) : Decidable (x ≤ y) :=
  inferInstanceAs (Decidable (x.scaled ≤ y.scaled))

instance (x y : Double) : Decidable (x < y) :=
  inferInstanceAs (Decidable (x.scaled < y.scaled))

/-- The smaller of two numbers; of equal ones the first. -/
def lower (x y : Double) : Double :=
  if y < x then y else x

/-- The number moved into `[lo, hi]`; one that lies in it already stays as it is, sign of zero
included. -/
def clamp (x lo hi : Double) : Double :=
  if x < lo then lo else if hi < x then hi else x

/-- Whether `x` comes strictly before `y` when negative zero is put before positive zero. -/
def precedes (x y : Double) : Bool :=
  x < y || (x.scaled == y.scaled && x.negative && !y.negative)

/-! ## Whole numbers and percentages -/

/-- The whole part, cut toward zero. -/
def truncate (x : Double) : Int :=
  x.scaled.tdiv one

/-- The nearest whole number, a half going away from zero. -/
def round (x : Double) : Int :=
  let n := roundHalfUp (units x.rank) one
  if x.negative then -(n : Int) else n

/-- The nearest whole number as a double again; a negative number that rounds to zero keeps its
sign. -/
def roundToWhole (x : Double) : Double :=
  ofRank x.negative (nearestRank (roundHalfUp (units x.rank) one * one) 1)

/-- A hundred times the number, rounded to the nearest double. -/
def hundredfold (x : Double) : Double :=
  ofRank x.negative (nearestRank (units x.rank * 100) 1)

/-- A fraction of one as a whole percentage; anything outside `[0, 1]` counts as its nearer end. -/
def percentOfOne (x : Double) : Double :=
  (x.clamp 0 1).hundredfold.roundToWhole

/-! ## From decimals -/

/-- The double nearest to `coefficient · 10 ^ exponent`; `none` when that lies beyond the finite
ones.  What is too small for the format becomes a zero of the given sign.  The size is judged by
the count of digits first, so that an absurd exponent costs nothing. -/
def ofDecimal? (negative : Bool) (coefficient : Nat) (exponent : Int) : Option Double :=
  let size : Int := (Nat.toDigits 10 coefficient).length + exponent
  if coefficient = 0 ∨ size < -330 then some ⟨negative, 0, by decide⟩
  else if 310 < size then none
  else match exponent with
    | .ofNat e => ofRank? negative (nearestRank (coefficient * Nat.pow 10 e * one) 1)
    | .negSucc e => ofRank? negative (nearestRank (coefficient * one) (Nat.pow 10 (e + 1)))

/-! ## Decimals by way of doubles

A decimal can also be made from its significand by multiplying or dividing doubles.  Each of these
steps is rounded, so the result may lie beside the nearest double. -/

/-- The double nearest to a product, if it is finite. -/
def times? (x y : Double) : Option Double :=
  ofRank? (x.negative != y.negative) (nearestRank (units x.rank * units y.rank) one)

/-- The double nearest to a quotient, or the largest one beyond the finite ones. -/
def dividedBy (x y : Double) : Double :=
  ofRank (x.negative != y.negative) (nearestRank (units x.rank * one) (units y.rank))

/-- The double nearest to a power of ten. -/
def powerOfTen (n : Nat) : Double := ofRank false (nearestRank (Nat.pow 10 n * one) 1)

/-- A number after so many divisions by `10 ^ 308`; nothing more is done to a zero. -/
def shrink : Nat → Double → Double
  | 0, x => x
  | count + 1, x => if x.rank = 0 then x else shrink count (x.dividedBy (powerOfTen 308))

/-- A double for `significand · 10 ^ exponent`, by powers of ten up to the greatest finite one. -/
def scaleByTen? (significand : Nat) (exponent : Int) : Option Double :=
  let x := ofInt significand
  match exponent with
  | .ofNat e =>
    if e ≤ 308 then x.times? (powerOfTen e)
    else if significand = 0 then some x
    else none
  | .negSucc e => some ((shrink (e / 308) x).dividedBy (powerOfTen (e + 1 - e / 308 * 308)))

end Double

end QuotaBoard
