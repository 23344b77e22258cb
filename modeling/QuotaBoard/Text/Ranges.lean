/-!
# Sets of characters

How tables of characters are written: as closed ranges of code points, and as runs of characters
whose partners all lie the same distance away.
-/

namespace QuotaBoard.Text

/-- Whether a character lies in one of some closed ranges of code points. -/
def isWithin (ranges : List (Nat × Nat)) (c : Char) : Bool :=
  ranges.any fun (first, last) => first ≤ c.toNat && c.toNat ≤ last

/-- The characters `first`, `first + step`, …, `last`, whose partner lies `shift` further. -/
structure Run where
  first : Nat
  last : Nat
  step : Nat
  shift : Int

/-- Whether a character belongs to the run. -/
def Run.covers (r : Run) (c : Char) : Bool :=
  r.first ≤ c.toNat && c.toNat ≤ r.last && (c.toNat - r.first) % r.step == 0

/-- The partner of a character under some runs, if one of them covers it. -/
def partner? (runs : List Run) (c : Char) : Option Char :=
  (runs.find? (·.covers c)).map fun r => Char.ofNat ((c.toNat : Int) + r.shift).toNat

end QuotaBoard.Text
