import QuotaBoard.Text.Blank
import QuotaBoard.Text.LetterCase

/-!
# Providers

The three kinds of account whose quota can be fetched.
-/

namespace QuotaBoard

/-- A kind of account. -/
inductive Provider where
  | antigravity
  | codex
  | geminiCli
deriving DecidableEq

namespace Provider

/-- All of them, in the order in which they are reported. -/
def all : List Provider := [antigravity, codex, geminiCli]

/-- The name in catalogs and on the command line. -/
def name : Provider → String
  | antigravity => "antigravity"
  | codex => "codex"
  | geminiCli => "gemini-cli"

/-- The name for people. -/
def displayName : Provider → String
  | antigravity => "Antigravity"
  | codex => "Codex"
  | geminiCli => "Gemini CLI"

/-- The provider of a name, in any case and with blanks around it. -/
def ofName? (s : String) : Option Provider :=
  let name := Text.lower (Text.trim s)
  if name = "antigravity" then some antigravity
  else if name = "codex" then some codex
  else if name = "gemini-cli" ∨ name = "gemini_cli" ∨ name = "geminicli" then some geminiCli
  else none

/-- What is said about a name that no provider has. -/
def unknownMessage (s : String) : String := "Unknown provider type: " ++ s

end Provider

end QuotaBoard
