import QuotaBoard.Json.Document

/-!
# Records in JSON documents

How the library's own record types are read.  A record is written as an object, whose unknown
fields are ignored and whose known fields may stand in any order but only once, or as an array
of its fields in their order, of which the last ones may be missing if they have a default.
-/

namespace QuotaBoard

namespace Document

/-! ## Leaves -/

/-- The text of a string. -/
def text? : Document → Option String
  | string s => some s
  | _ => none

/-- A boolean. -/
def bool? : Document → Option Bool
  | bool b => some b
  | _ => none

/-- A number of either kind as a double. -/
def double? : Document → Option Double
  | number n => some n.toDouble
  | _ => none

/-- An integer from zero to below `limit`; a double is no integer, even a whole one. -/
def natBelow? (limit : Nat) : Document → Option Nat
  | number (.integer (.ofNat n)) => if n < limit then some n else none
  | _ => none

/-- An HTTP status. -/
def status? (d : Document) : Option UInt16 :=
  (d.natBelow? 0x10000).map UInt16.ofNat

/-- A value that may be `null`. -/
def nullable? (read : Document → Option α) : Document → Option (Option α)
  | null => some none
  | d => (read d).map some

/-- The items of an array, each read in one way. -/
def list? (read : Document → Option α) : Document → Option (List α)
  | array items => items.mapM read
  | _ => none

/-- The members of an object read as values, in key order. -/
def map? : Document → Option (List (String × Json))
  | object members => (memberValues? members).map Json.sortMembers
  | _ => none

end Document

/-! ## Records -/

/-- Where the fields of a record are looked up. -/
inductive Record where
  | named (members : List (String × Document))
  | positional (items : List Document)

namespace Record

/-- A member whose key is readable. -/
def readKey? : Option String × Document → Option (String × Document)
  | (some key, d) => some (key, d)
  | (none, _) => none

/-- The fields that a document gives to a record of `size` fields. -/
def of? (size : Nat) : Document → Option Record
  | .object members =>
    (members.mapM readKey?).map named
  | .array items => if items.length ≤ size then some (positional items) else none
  | _ => none

/-- What is written for the field at a position, known by any of some names: nothing, or one
thing.  A field written twice is refused. -/
def find? (r : Record) (position : Nat) (names : List String) : Option (Option Document) :=
  match r with
  | named members =>
    match members.filter (names.contains ·.1) with
    | [] => some none
    | [(_, d)] => some (some d)
    | _ => none
  | positional items => some items[position]?

/-- A field that must be written. -/
def required? (r : Record) (position : Nat) (names : List String)
    (read : Document → Option α) : Option α := do
  (← r.find? position names).bind read

/-- A field that takes a default when it is not written. -/
def withDefault? (r : Record) (position : Nat) (names : List String)
    (read : Document → Option α) (default : α) : Option α := do
  match ← r.find? position names with
  | some d => read d
  | none => some default

/-- A field that may be left out or be `null`. -/
def optional? (r : Record) (position : Nat) (names : List String)
    (read : Document → Option α) : Option (Option α) :=
  r.withDefault? position names (Document.nullable? read) none

/-- A field that may be `null`, and be left out of an object though not of an array. -/
def nullable? (r : Record) (position : Nat) (names : List String)
    (read : Document → Option α) : Option (Option α) :=
  match r with
  | named _ => r.optional? position names read
  | positional _ => r.required? position names (Document.nullable? read)

end Record

namespace Json

/-! ## Writing records -/

/-- An optional value, `null` if it is missing. -/
def ofOption (write : α → Json) : Option α → Json
  | some a => write a
  | none => null

/-- A member that is left out when its value is missing. -/
def memberIfAny (key : String) (write : α → Json) : Option α → List (String × Json)
  | some a => [(key, write a)]
  | none => []

/-- A status as a value. -/
def ofStatus (status : UInt16) : Json := ofInt status.toNat

end Json

end QuotaBoard
