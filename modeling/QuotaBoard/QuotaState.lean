import QuotaBoard.FetchError

/-!
# The state of one credential

A credential that was never fetched is idle.  A refresh makes it loading, and then it has
settled: with quota data or with an error.
-/

namespace QuotaBoard

/-- The state of one credential's quota. -/
inductive QuotaState (α : Type) where
  | idle
  | loading
  | success (data : α)
  | error (message : String) (status : Option UInt16)
deriving DecidableEq

namespace QuotaState

instance : Inhabited (QuotaState α) := ⟨idle⟩

/-- The state of a credential whose fetch has settled. -/
def ofResult : Except FetchError α → QuotaState α
  | .ok data => success data
  | .error e => error e.message e.status

/-- Whether a fetch is under way. -/
def isLoading : QuotaState α → Bool
  | loading => true
  | _ => false

/-- Whether the last fetch has settled. -/
def isSettled : QuotaState α → Bool
  | success _ | error .. => true
  | _ => false

/-- The quota data. -/
def data? : QuotaState α → Option α
  | success data => some data
  | _ => none

/-- The text of the error. -/
def errorMessage? : QuotaState α → Option String
  | error m _ => some m
  | _ => none

/-- The status of the error. -/
def errorStatus? : QuotaState α → Option UInt16
  | error _ s => s
  | _ => none

/-! ## In JSON -/

/-- The state as a value: its name beside its fields. -/
def toJson (write : α → Json) : QuotaState α → Json
  | idle => .object [("state", .string "idle")]
  | loading => .object [("state", .string "loading")]
  | success data => .object [("state", .string "success"), ("data", write data)]
  | error m s => .object (("state", .string "error") :: ("message", .string m) ::
      Json.memberIfAny "status" .ofStatus s)

/-- The state with a name and with fields, which stand in an object or, after the name, in an
array. -/
def ofFields? (read : Document → Option α) (name : String) (d : Document) : Option (QuotaState α) :=
  if name = "idle" ∨ name = "loading" then
    match d with
    | .array (_ :: _) => none
    | _ => some (if name = "idle" then idle else loading)
  else if name = "success" then do
    some (success (← (← Record.of? 1 d).required? 0 ["data"] read))
  else if name = "error" then do
    let r ← Record.of? 2 d
    some (error (← r.required? 0 ["message"] Document.text?)
      (← r.optional? 1 ["status"] Document.status?))
  else none

/-- The state that a document describes. -/
def ofDocument? (read : Document → Option α) : Document → Option (QuotaState α)
  | .object members => do
    let name ← (← Record.of? 0 (.object members)).required? 0 ["state"] Document.text?
    ofFields? read name (.object (members.filter (·.1 ≠ some "state")))
  | .array (.string name :: fields) => ofFields? read name (.array fields)
  | _ => none

end QuotaState

end QuotaBoard
