import QuotaBoard.Double.Basic

/-!
# JSON values

The values that vendors send, that credentials carry and that settings files hold.  A number is
an integer when it is written as one and fits 64 bits, and a double otherwise.

The members of an object are a list of pairs.  Values that were read are `Canonical`: their
objects have their keys in strictly ascending order, so no key twice, and their integers fit.
What this library writes itself may list members in any order; look-ups take the first hit.
-/

namespace QuotaBoard

namespace Json

/-- A JSON number. -/
inductive Number where
  | integer (n : Int)
  | double (x : Double)
deriving DecidableEq

/-- The integers that a number keeps exactly. -/
def Number.fits (n : Int) : Prop := -0x8000000000000000 ≤ n ∧ n < 0x10000000000000000

instance (n : Int) : Decidable (Number.fits n) := inferInstanceAs (Decidable (_ ∧ _))

/-- The number as a double, an integer rounded to the nearest one. -/
def Number.toDouble : Number → Double
  | integer n => Double.ofInt n
  | double x => x

end Json

/-- A JSON value. -/
inductive Json where
  | null
  | bool (b : Bool)
  | number (n : Json.Number)
  | string (s : String)
  | array (items : List Json)
  | object (members : List (String × Json))
deriving Inhabited

namespace Json

/-- A whole number as a value. -/
def ofInt (n : Int) : Json := .number (.integer n)

/-- A double as a value. -/
def ofDouble (x : Double) : Json := .number (.double x)

/-- The items of an array. -/
def items? : Json → Option (List Json)
  | array items => some items
  | _ => none

/-- The members of an object. -/
def members? : Json → Option (List (String × Json))
  | object members => some members
  | _ => none

/-- The text of a string. -/
def text? : Json → Option String
  | string s => some s
  | _ => none

/-- Whether the value is an object. -/
def isObject : Json → Bool
  | object _ => true
  | _ => false

/-- Whether the value is `null`. -/
def isNull : Json → Bool
  | null => true
  | _ => false

/-- The member of an object under a key; `none` for any other value. -/
def get? (v : Json) (key : String) : Option Json :=
  v.members?.bind (·.lookup key)

/-! ## Members in key order -/

/-- Members with one of them put in key order; one under the same key is replaced. -/
def insertMember (key : String) (value : α) : List (String × α) → List (String × α)
  | [] => [(key, value)]
  | (k, v) :: rest =>
    if key < k then (key, value) :: (k, v) :: rest
    else if key = k then (key, value) :: rest
    else (k, v) :: insertMember key value rest

/-- Members in key order; of several under one key the last one counts. -/
def sortMembers (members : List (String × α)) : List (String × α) :=
  members.foldl (fun sorted (key, value) => insertMember key value sorted) []

/-- Members without those under a key. -/
def eraseMember (key : String) (members : List (String × α)) : List (String × α) :=
  members.filter (·.1 ≠ key)

/-- Keys in strictly ascending order. -/
def Ascending (members : List (String × α)) : Prop :=
  members.Pairwise (·.1 < ·.1)

/-- What a value that was read has: integers that fit, and in every object the keys in strictly
ascending order. -/
inductive Canonical : Json → Prop where
  | null : Canonical null
  | bool (b : Bool) : Canonical (bool b)
  | integer (n : Int) (h : Number.fits n) : Canonical (number (.integer n))
  | double (x : Double) : Canonical (number (.double x))
  | string (s : String) : Canonical (string s)
  | array (items : List Json) (h : ∀ v ∈ items, Canonical v) : Canonical (array items)
  | object (members : List (String × Json)) (sorted : Ascending members)
      (h : ∀ m ∈ members, Canonical m.2) : Canonical (object members)

end Json

end QuotaBoard
