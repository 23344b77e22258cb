import QuotaBoard.Failure
import QuotaBoard.Text.Blank

/-!
# The primary API key

The key is the first that is not blank among those in the configuration, or else among those
that the management API lists.  Once found it is kept until it is forgotten; a listing that
fails or has no key leaves nothing behind.
-/

namespace QuotaBoard

/-- The key that was found last, if it has not been forgotten. -/
structure KeyCache where
  cached : Option String := none
deriving DecidableEq

namespace KeyCache

/-- The first key that is not blank, trimmed. -/
def firstUsable? (keys : List String) : Option String := keys.findSome? Text.trimmed?

/-- The cache after a listing, and what the listing comes to. -/
def keep (listed : Except Failure (List String)) : Except Failure (Option String) × KeyCache :=
  match listed with
  | .error e => (.error e, ⟨none⟩)
  | .ok keys => (.ok (firstUsable? keys), ⟨firstUsable? keys⟩)

/-- The primary key, and the cache from then on.  The listing is asked for only if nothing is
cached and no local key can be used. -/
def resolve {m : Type → Type} [Monad m] (cache : KeyCache) (localKeys : List String)
    (listing : m (Except Failure (List String))) :
    m (Except Failure (Option String) × KeyCache) :=
  match cache.cached.or (firstUsable? localKeys) with
  | some key => pure (.ok (some key), ⟨some key⟩)
  | none => return keep (← listing)

/-- The cache without its key. -/
def forget (_ : KeyCache) : KeyCache := ⟨none⟩

end KeyCache

end QuotaBoard
