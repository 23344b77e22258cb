import QuotaBoard.Exchange

/-!
# What a fetch asks for

To fetch the quota of a credential a provider makes calls, reads the credential's token file and
looks at the clock, each step depending on the answers so far.  `Fetch` is that plan as data, so
that the same plan can be carried out (`run`), or looked at when no call is answered
(`beforeReplies`).  `both` stands for two plans under way at once, neither of which sees what the
other is told.
-/

namespace QuotaBoard

/-- A plan that ends with a result. -/
inductive Fetch : Type → Type 1 where
  | done {α : Type} (result : α) : Fetch α
  /-- A call, and what follows its reply or its failure. -/
  | call {α : Type} (request : ApiRequest) (next : Except FetchError ApiReply → Fetch α) : Fetch α
  /-- The token file of a credential, and what follows its content, if it can be read. -/
  | tokenFile {α : Type} (name : String) (next : Option String → Fetch α) : Fetch α
  /-- The present second, and what follows it. -/
  | clock {α : Type} (next : Int → Fetch α) : Fetch α
  /-- Two plans at once, and what follows when both have ended. -/
  | both {α β γ : Type} (left : Fetch β) (right : Fetch γ) (next : β → γ → Fetch α) : Fetch α

/-- Who carries out a plan. -/
structure Carrier (m : Type → Type) where
  call : ApiRequest → m (Except FetchError ApiReply)
  tokenFile : String → m (Option String)
  clock : m Int
  /-- Whether calls are answered only when nothing else can go on. -/
  held : Bool := false
  /-- How late the fetch settles that a pass begins at a position. -/
  delay : Nat → Nat := fun _ => 0

/-- The same carrier, which also notes whether a call was made. -/
def Carrier.noting {m : Type → Type} [Monad m] (carrier : Carrier m) :
    Carrier (StateT Bool m) where
  call request := do
    set true
    carrier.call request
  tokenFile name := carrier.tokenFile name
  clock := carrier.clock
  held := carrier.held
  delay := carrier.delay

namespace Fetch

/-- The result of a plan when its steps are carried out one after the other; of two plans at
once, the left one first. -/
def run {m : Type → Type} [Monad m] (carrier : Carrier m) {α : Type} : Fetch α → m α
  | done result => pure result
  | call request next => do (next (← carrier.call request)).run carrier
  | tokenFile name next => do (next (← carrier.tokenFile name)).run carrier
  | clock next => do (next (← carrier.clock)).run carrier
  | both left right next => do
    let a ← left.run carrier
    let b ← right.run carrier
    (next a b).run carrier

/-- How far a plan gets before any call is answered. -/
inductive Standstill (α : Type) where
  | settled (result : α)
  | waiting (requests : List ApiRequest)

/-- The calls that are out. -/
def Standstill.requests : Standstill α → List ApiRequest
  | settled _ => []
  | waiting requests => requests

/-- How far a plan gets when token files and the clock can be read but no call is answered: it
ends, or some calls are out. -/
def beforeReplies (files : String → Option String) (now : Int) {α : Type} :
    Fetch α → Standstill α
  | done result => .settled result
  | call request _ => .waiting [request]
  | tokenFile name next => (next (files name)).beforeReplies files now
  | clock next => (next now).beforeReplies files now
  | both left right next =>
    match left.beforeReplies files now, right.beforeReplies files now with
    | .settled a, .settled b => (next a b).beforeReplies files now
    | a, b => .waiting (a.requests ++ b.requests)

end Fetch

end QuotaBoard
