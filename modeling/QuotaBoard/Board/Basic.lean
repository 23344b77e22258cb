import QuotaBoard.Antigravity.Fetch
import QuotaBoard.Board.Store
import QuotaBoard.Codex.Fetch
import QuotaBoard.Config.Basic
import QuotaBoard.GeminiCli.Fetch
import QuotaBoard.KeyCache
import QuotaBoard.TestCommand

/-!
# The board

The board holds the states of all credentials and the primary key.  A refresh lists the
credentials once and runs a pass for each provider; if the listing fails nothing else happens.
A forced refresh forgets the primary key first, whether the listing then fails or not.
-/

namespace QuotaBoard

/-! ## Adapters -/

namespace Config

/-- Where Antigravity quotas are asked for. -/
def antigravitySettings (c : Config) : Antigravity.Settings :=
  ⟨c.endpoints.antigravityQuotaUrls, c.endpoints.antigravityTierUrls, c.defaultProjectId⟩

/-- How Antigravity quotas are fetched. -/
def antigravity (c : Config) : Adapter Antigravity.Quota :=
  ⟨.antigravity, (·.isFetchedBy .antigravity), c.antigravitySettings.fetch⟩

/-- How Codex quotas are fetched. -/
def codex (c : Config) : Adapter Codex.Quota :=
  ⟨.codex, (·.isFetchedBy .codex), Codex.fetch c.endpoints.codexUsageUrl⟩

/-- How Gemini CLI quotas are fetched. -/
def geminiCli (c : Config) : Adapter GeminiCli.Quota :=
  ⟨.geminiCli, (·.isFetchedBy .geminiCli), GeminiCli.fetch c.endpoints.geminiCliQuotaUrl⟩

/-- How the quotas of a provider are fetched. -/
def adapter (c : Config) : (p : Provider) → Adapter p.Quota
  | .antigravity => c.antigravity
  | .codex => c.codex
  | .geminiCli => c.geminiCli

theorem accepts_adapter (c : Config) (p : Provider) :
    (c.adapter p).accepts = (·.isFetchedBy p) := by
  cases p <;> simp only [adapter, antigravity, codex, geminiCli]

end Config

/-! ## The board -/

/-- What the board asks of the management API. -/
structure Service (m : Type → Type) extends Carrier m where
  credentials : m (Except Failure (List Credential))
  apiKeys : m (Except Failure (List String))

/-- The states of all credentials, and the primary key. -/
structure Board where
  config : Config
  store : Store := .empty
  keys : KeyCache := {}

/-- The summaries of a refresh. -/
structure Report where
  antigravity : Summary
  codex : Summary
  geminiCli : Summary
deriving DecidableEq

namespace Report

/-- The summary of a provider. -/
def summary (r : Report) : Provider → Summary
  | .antigravity => r.antigravity
  | .codex => r.codex
  | .geminiCli => r.geminiCli

/-- The summaries in the order of the providers. -/
def summaries (r : Report) : List Summary := Provider.all.map r.summary

/-- How many fetches failed. -/
def failed (r : Report) : Nat := r.antigravity.failed + r.codex.failed + r.geminiCli.failed

/-- The report as a value. -/
def toJson (r : Report) : Json :=
  .object [("antigravity", r.antigravity.toJson), ("codex", r.codex.toJson),
    ("gemini_cli", r.geminiCli.toJson)]

end Report

namespace Board

variable {m : Type → Type} [Monad m]

/-- The board without its key, if it is to be forgotten. -/
def forgetIf (b : Board) (force : Bool) : Board :=
  if force then { b with keys := b.keys.forget } else b

/-- A pass of one provider over a listing. -/
def refreshFrom (b : Board) (carrier : Carrier m) (p : Provider) (listing : List Credential) :
    m (Summary × Board) := do
  let (slot, summary) ← (b.config.adapter p).pass carrier listing (b.store.slot p)
  return (summary, { b with store := b.store.setSlot p slot })

/-- A refresh of all providers. -/
def refresh (b : Board) (service : Service m) (force : Bool) :
    m (Except Failure Report × Board) := do
  let b := b.forgetIf force
  match ← service.credentials with
  | .error e => return (.error e, b)
  | .ok listing =>
    let (antigravity, b) ← b.refreshFrom service.toCarrier .antigravity listing
    let (codex, b) ← b.refreshFrom service.toCarrier .codex listing
    let (geminiCli, b) ← b.refreshFrom service.toCarrier .geminiCli listing
    return (.ok ⟨antigravity, codex, geminiCli⟩, b)

/-- A refresh of one provider. -/
def refreshProvider (b : Board) (service : Service m) (p : Provider) (force : Bool) :
    m (Except Failure Summary × Board) := do
  let b := b.forgetIf force
  match ← service.credentials with
  | .error e => return (.error e, b)
  | .ok listing =>
    let (summary, b) ← b.refreshFrom service.toCarrier p listing
    return (.ok summary, b)

/-- The primary key. -/
def primaryKey (b : Board) (service : Service m) :
    m (Except Failure (Option String) × Board) := do
  let (key, keys) ← b.keys.resolve b.config.apiKeys service.apiKeys
  return (key, { b with keys })

/-- The test command for a model, if there is a primary key. -/
def testCommand (b : Board) (service : Service m) (model : String) :
    m (Except Failure (Option String) × Board) := do
  let (key, b) ← b.primaryKey service
  return (key.map (·.map (TestCommand.build b.config.management.baseUrl · model)), b)

/-- The board without any state; its key stays. -/
def clear (b : Board) : Board := { b with store := .empty }

/-- The board during a refresh of which no call is answered, and the calls that are out. -/
def heldRefresh (b : Board) (files : String → Option String) (now : Int)
    (listing : List Credential) : Board × List ApiRequest :=
  let (antigravity, first) :=
    b.config.antigravity.heldPass files now listing b.store.antigravity
  let (codex, second) := b.config.codex.heldPass files now listing b.store.codex
  let (geminiCli, third) := b.config.geminiCli.heldPass files now listing b.store.geminiCli
  ({ b with store := ⟨antigravity, codex, geminiCli⟩ }, first ++ second ++ third)

end Board

end QuotaBoard
