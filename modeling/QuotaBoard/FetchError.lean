import QuotaBoard.Json.Record

/-!
# Errors of one credential

What can go wrong while the quota of one credential is fetched.  None of these ends a refresh:
each becomes the state of its credential.
-/

namespace QuotaBoard

/-- Why the quota of a credential could not be fetched. -/
inductive FetchError where
  /-- The credential lacks an identifier, and nothing was asked. -/
  | configuration (message : String)
  /-- The vendor answered with a status that is no success. -/
  | vendorStatus (status : UInt16) (message : String)
  /-- The vendor answered, but not with what a quota is made of. -/
  | emptyPayload (message : String)
  /-- The call failed on the way, perhaps with a status. -/
  | transport (message : String) (status : Option UInt16)
  /-- The answer could not be read. -/
  | parse (message : String)
deriving DecidableEq

namespace FetchError

/-- The error of a missing identifier. -/
def missing (what : String) : FetchError := configuration ("Missing " ++ what)

/-- The text that is shown. -/
def message : FetchError → String
  | configuration m | vendorStatus _ m | emptyPayload m | transport m _ | parse m => m

/-- The status that came with the error. -/
def status : FetchError → Option UInt16
  | vendorStatus s _ => some s
  | transport _ s => s
  | _ => none

/-- Whether the vendor itself refused with a status that settles the matter across fallback
addresses.  A refusal on the way to the vendor never does. -/
def isDefinitive : FetchError → Bool
  | vendorStatus s _ => s = 403 || s = 404
  | _ => false

/-- Whether the error was found before anything was asked. -/
def isConfiguration : FetchError → Bool
  | configuration _ => true
  | _ => false

/-! ## In JSON -/

/-- The kind of the error. -/
def kind : FetchError → String
  | configuration _ => "Configuration"
  | vendorStatus .. => "UpstreamStatus"
  | emptyPayload _ => "EmptyPayload"
  | transport .. => "Transport"
  | parse _ => "Parse"

/-- The fields of the error. -/
def details : FetchError → List (String × Json)
  | vendorStatus s m => [("status", .ofStatus s), ("message", .string m)]
  | transport m s => [("message", .string m), ("status", .ofOption .ofStatus s)]
  | configuration m | emptyPayload m | parse m => [("message", .string m)]

/-- The error as a value: its kind and its fields. -/
def toJson (e : FetchError) : Json :=
  .object [("type", .string e.kind), ("details", .object e.details)]

/-- The name of a kind: a text, or an object whose only member has that name and is `null`. -/
def kind? : Document → Option String
  | .string s => some s
  | .object [(some s, .null)] => some s
  | _ => none

/-- The error of a kind with fields. -/
def ofDetails? (kind : String) (d : Document) : Option FetchError :=
  if kind = "Configuration" then do
    some (configuration (← (← Record.of? 1 d).required? 0 ["message"] Document.text?))
  else if kind = "UpstreamStatus" then do
    let r ← Record.of? 2 d
    some (vendorStatus (← r.required? 0 ["status"] Document.status?)
      (← r.required? 1 ["message"] Document.text?))
  else if kind = "EmptyPayload" then do
    some (emptyPayload (← (← Record.of? 1 d).required? 0 ["message"] Document.text?))
  else if kind = "Transport" then do
    let r ← Record.of? 2 d
    some (transport (← r.required? 0 ["message"] Document.text?)
      (← r.nullable? 1 ["status"] Document.status?))
  else if kind = "Parse" then do
    some (parse (← (← Record.of? 1 d).required? 0 ["message"] Document.text?))
  else none

/-- The error that a document describes. -/
def ofDocument? (d : Document) : Option FetchError := do
  let r ← Record.of? 2 d
  ofDetails? (← r.required? 0 ["type"] kind?) (← r.required? 1 ["details"] some)

end FetchError

end QuotaBoard
