import QuotaBoard.Failure
import QuotaBoard.Files
import QuotaBoard.Json.Text
import QuotaBoard.Text.Blank

/-!
# The model mapping

The settings file of another tool says which model stands for each of its three tiers.  Only
those three fields are read and written; whatever else the file holds stays.
-/

namespace QuotaBoard

/-- The models of the three tiers; an empty text means that none is set. -/
structure ModelMapping where
  opus : String := ""
  sonnet : String := ""
  haiku : String := ""
deriving DecidableEq

namespace ModelMapping

/-- The fields of the settings file and what they hold. -/
def entries (m : ModelMapping) : List (String × String) :=
  [("opus_model", m.opus), ("sonnet_model", m.sonnet), ("haiku_model", m.haiku)]

/-- The mapping as a value. -/
def toJson (m : ModelMapping) : Json :=
  .object (m.entries.map fun (key, model) => (key, .string model))

/-- The mapping that a document describes. -/
def ofDocument? (d : Document) : Option ModelMapping := do
  let r ← Record.of? 3 d
  some
    { opus := ← r.withDefault? 0 ["opus_model"] Document.text? ""
      sonnet := ← r.withDefault? 1 ["sonnet_model"] Document.text? ""
      haiku := ← r.withDefault? 2 ["haiku_model"] Document.text? "" }

/-- The mapping with some tiers replaced. -/
def replace (m : ModelMapping) (opus sonnet haiku : Option String) : ModelMapping :=
  ⟨opus.getD m.opus, sonnet.getD m.sonnet, haiku.getD m.haiku⟩

/-! ## The settings -/

/-- The fields of a settings file; what is no JSON object has none. -/
def settingsOf : FileContent → Except Failure (List (String × Json))
  | .missing => .ok []
  | .blocked message | .unreadable message => .error (.io message)
  | .text content => .ok (((Json.ofText? content).bind Json.members?).getD [])

/-- The mapping in some settings; what is no text counts as not set. -/
def ofSettings (settings : List (String × Json)) : ModelMapping :=
  let model := fun key => ((settings.lookup key).bind Json.text?).getD ""
  ⟨model "opus_model", model "sonnet_model", model "haiku_model"⟩

/-- Settings with one tier set to a model; a blank one removes the field. -/
def setTier (settings : List (String × Json)) (key model : String) : List (String × Json) :=
  match Text.trimmed? model with
  | some model => Json.insertMember key (.string model) settings
  | none => Json.eraseMember key settings

/-- Settings with the three tiers set. -/
def intoSettings (m : ModelMapping) (settings : List (String × Json)) : List (String × Json) :=
  m.entries.foldl (fun settings (key, model) => setTier settings key model) settings

/-- The text of a settings file after the mapping is written to it. -/
def updated (m : ModelMapping) (content : FileContent) : Except Failure String :=
  (settingsOf content).map fun settings => (Json.object (m.intoSettings settings)).pretty

/-! ## The settings file -/

/-- The mapping in the settings file at a path. -/
def read {μ : Type → Type} [Monad μ] (files : Files μ) (path : String) :
    μ (Except Failure ModelMapping) :=
  return (settingsOf (← files.read path)).map ofSettings

/-- Writes the mapping into the settings file at a path. -/
def write {μ : Type → Type} [Monad μ] (files : Files μ) (path : String) (m : ModelMapping) :
    μ (Except Failure Unit) := do
  match ← files.makeDirectory (Path.parent path) with
  | .error message => return .error (.io message)
  | .ok () =>
    match m.updated (← files.read path) with
    | .error e => return .error e
    | .ok content => return (← files.write path content).mapError .io

end ModelMapping

end QuotaBoard
