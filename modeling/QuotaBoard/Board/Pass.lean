import QuotaBoard.Credential
import QuotaBoard.Fetch
import QuotaBoard.QuotaState
import Std.Data.ExtTreeMap

/-!
# A pass over the credentials of one provider

Each provider has a slot: a state for each name of a credential.  A pass drops the names that the
provider no longer fetches, marks all others as loading, and whenever a fetch settles it writes
the result over the mark and counts it.  The fetches settle in any order, so a pass is described
by its single steps: `retain`, `markLoading` and `settle`.
-/

namespace QuotaBoard

/-- The states of a provider's credentials, by name. -/
abbrev Slot (α : Type) := Std.ExtTreeMap String (QuotaState α)

/-- How one provider's quotas are fetched. -/
structure Adapter (α : Type) where
  provider : Provider
  accepts : Credential → Bool
  fetch : Credential → Fetch (Except FetchError α)

/-- A credential whose fetch has settled. -/
abbrev Outcome (α : Type) := Credential × Except FetchError α

/-- What is reported of a pass. -/
structure Summary where
  provider : Provider
  dispatched : Nat
  succeeded : Nat
  failed : Nat
deriving DecidableEq

/-- The summary before any fetch has settled. -/
def Summary.start (p : Provider) (dispatched : Nat) : Summary := ⟨p, dispatched, 0, 0⟩

/-- The summary with one more result. -/
def Summary.count (s : Summary) : Except FetchError α → Summary
  | .ok _ => { s with succeeded := s.succeeded + 1 }
  | .error _ => { s with failed := s.failed + 1 }

/-- The summary as a value. -/
def Summary.toJson (s : Summary) : Json :=
  .object [("provider", .string s.provider.name), ("dispatched", .ofInt s.dispatched),
    ("succeeded", .ofInt s.succeeded), ("failed", .ofInt s.failed)]

namespace Slot

/-- The slot without the names that are not listed. -/
def retain (slot : Slot α) (names : List String) : Slot α :=
  slot.filter fun name _ => names.contains name

/-- The slot with a name marked as loading. -/
def markLoading (slot : Slot α) (name : String) : Slot α := slot.insert name .loading

/-- The slot with the result of a settled fetch. -/
def settle (slot : Slot α) (outcome : Outcome α) : Slot α :=
  slot.insert outcome.1.name (QuotaState.ofResult outcome.2)

/-- The state of a name; one that was never fetched is idle. -/
def state (slot : Slot α) (name : String) : QuotaState α := slot[name]?.getD .idle

/-- The slot as a value. -/
def toJson (write : α → Json) (slot : Slot α) : Json :=
  .object (slot.toList.map fun (name, state) => (name, state.toJson write))

end Slot

/-- A pass under way: the slot as it stands, and the summary so far. -/
structure Pass (α : Type) where
  slot : Slot α
  summary : Summary

/-- The pass once a fetch has settled. -/
def Pass.settle (p : Pass α) (outcome : Outcome α) : Pass α :=
  ⟨p.slot.settle outcome, p.summary.count outcome.2⟩

/-- Items in the order of the delays of their positions; of equal ones the first comes first. -/
def arrange (delay : Nat → Nat) (items : List β) : List β :=
  (items.zipIdx.mergeSort fun x y => delay x.2 ≤ delay y.2).map (·.1)

namespace Adapter

/-- The credentials of a listing that the provider fetches. -/
def targets (a : Adapter α) (listing : List Credential) : List Credential :=
  listing.filter a.accepts

/-- The slot once a pass has marked all targets. -/
def start (targets : List Credential) (slot : Slot α) : Slot α :=
  (targets.map (·.name)).foldl Slot.markLoading (slot.retain (targets.map (·.name)))

/-- The pass once it has marked all targets, when no fetch has settled. -/
def begin (a : Adapter α) (targets : List Credential) (slot : Slot α) : Pass α :=
  ⟨start targets slot, .start a.provider targets.length⟩

/-- The outcomes of the fetches of some targets, in the order in which they settle: that of their
delays, except that fetches without calls come first when calls are held back. -/
def outcomes {m : Type → Type} [Monad m] (a : Adapter α) (carrier : Carrier m)
    (targets : List Credential) : m (List (Outcome α)) :=
  if carrier.held then do
    let noted ← targets.mapM fun c => return (c, ← ((a.fetch c).run carrier.noting).run false)
    let (late, early) := noted.partition (·.2.2)
    return (early ++ late).map fun (c, result, _) => (c, result)
  else do
    let settled ← targets.mapM fun c => return (c, ← (a.fetch c).run carrier)
    return arrange carrier.delay settled

/-- A whole pass over a listing. -/
def pass {m : Type → Type} [Monad m] (a : Adapter α) (carrier : Carrier m)
    (listing : List Credential) (slot : Slot α) : m (Slot α × Summary) := do
  let targets := a.targets listing
  let ended := (← a.outcomes carrier targets).foldl Pass.settle (a.begin targets slot)
  return (ended.slot, ended.summary)

/-- A target and how far its fetch gets before any call is answered. -/
def standstills (a : Adapter α) (files : String → Option String) (now : Int)
    (targets : List Credential) : List (Credential × Fetch.Standstill (Except FetchError α)) :=
  targets.map fun c => (c, (a.fetch c).beforeReplies files now)

/-- The slot of a pass of which no call is answered, and the calls that are out. -/
def heldPass (a : Adapter α) (files : String → Option String) (now : Int)
    (listing : List Credential) (slot : Slot α) : Slot α × List ApiRequest :=
  let targets := a.targets listing
  let stills := a.standstills files now targets
  let settled := stills.filterMap fun (c, still) =>
    match still with
    | .settled r => some (c, r)
    | .waiting _ => none
  (settled.foldl Slot.settle (start targets slot), stills.flatMap (·.2.requests))

end Adapter

end QuotaBoard
