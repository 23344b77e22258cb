import QuotaBoard.CommandLine.Arguments
import QuotaBoard.CommandLine.Output
import QuotaBoard.CommandLine.Surroundings

/-!
# Carrying out a command

A command either prints its whole output or fails with a complaint.  The program ends with 0
after output, help or the version, with 1 after a complaint, and with 2 if its words ask for no
command.
-/

namespace QuotaBoard.CommandLine

/-! ## Complaints and outcomes -/

/-- Why a command failed: what could not be done, and what was in the way, if that says more. -/
structure Complaint where
  message : String
  cause : Option String := none

/-- The complaint that a failure is by itself. -/
def Complaint.ofFailure (f : Failure) : Complaint := { message := f.message }

/-- The complaint as it is shown. -/
def Complaint.text (c : Complaint) : String :=
  "Error: " ++ c.message ++ "\n" ++
    match c.cause with
    | some cause => "\nCaused by:\n    " ++ cause ++ "\n"
    | none => ""

/-- What the program ends with. -/
structure Outcome where
  exit : UInt8
  output : String
  errors : String

namespace Outcome

/-- The end after some output. -/
def printed (output : String) : Outcome := ⟨0, output, ""⟩

/-- The end of words that ask for no command. -/
def ofEnding : Ending → Outcome
  | .help place => printed place.help
  | .version name => printed (versionText name)
  | .misuse => ⟨2, "", "error: no such command\n\n" ++ Place.program.help⟩

/-- The end of a command. -/
def ofResult : Except Complaint String → Outcome
  | .ok output => printed output
  | .error complaint => ⟨1, "", complaint.text⟩

end Outcome

/-! ## Commands -/

variable {m : Type → Type} [Monad m]

/-- A command under way, which a complaint ends. -/
abbrev Action (m : Type → Type) := ExceptT Complaint m

/-- A step of which a failure is the complaint. -/
def orFail (step : m (Except Failure α)) : Action m α :=
  ExceptT.mk do return (← step).mapError Complaint.ofFailure

/-- A step of which the complaint says what could not be done. -/
def orSay (message : String) (step : m (Except Failure α)) : Action m α :=
  ExceptT.mk do return (← step).mapError fun f => ⟨message, some f.message⟩

namespace Surroundings

/-- The place of the configuration. -/
def chosenPath (s : Surroundings m) (chosen : Option String) : m (Except Failure String) :=
  match chosen with
  | some path => return .ok path
  | none => s.configPath

/-- The configuration in use. -/
def config (s : Surroundings m) (i : Invocation) : Action m Config := do
  let path ← orSay "Failed to locate data directory" (s.chosenPath i.config)
  let content ← (s.files.read path : m FileContent)
  orSay ("Failed to load config from " ++ path)
    (pure (Config.load path content s.overrides ⟨i.managementUrl, i.managementKey⟩))

/-- What the board asks of the management API. -/
def service (s : Surroundings m) (c : Config) : Except Complaint (Service m) :=
  match Management.Client.ofConfig c with
  | .ok client => .ok (client.service s.send s.clock)
  | .error e => .error ⟨"Failed to create management client", some e.message⟩

/-- The passes that are asked for. -/
def passes (b : Board) (service : Service m) (force : Bool) :
    Option Provider → m (Except Failure (List Summary) × Board)
  | some p => do
    let (summary, b) ← b.refreshProvider service p force
    return (summary.map fun s => [s], b)
  | none => do
    let (report, b) ← b.refresh service force
    return (report.map Report.summaries, b)

/-- Fetches quotas and shows the board. -/
def refresh (s : Surroundings m) (c : Config) (provider : Option Provider) (asJson force : Bool) :
    Action m String := do
  let service ← s.service c
  let (summaries, b) ← (passes { config := c } service force provider : m _)
  let summaries ← orFail (pure summaries)
  return if asJson then Output.boardJson summaries b.store
    else Output.board s.inColour summaries b.store

/-- Shows the test command. -/
def testCommand (s : Surroundings m) (c : Config) (model : String) : Action m String := do
  let service ← s.service c
  let (command, _) ← (({ config := c } : Board).testCommand service model : m _)
  return Output.testCommand s.inColour (← orFail (pure command))

/-- The model mapping in the settings file. -/
def readMapping (s : Surroundings m) : m (Except Failure ModelMapping) :=
  match s.settingsPath with
  | .error f => return .error f
  | .ok path => ModelMapping.read s.files path

/-- Writes the model mapping into the settings file. -/
def writeMapping (s : Surroundings m) (mapping : ModelMapping) : m (Except Failure Unit) :=
  match s.settingsPath with
  | .error f => return .error f
  | .ok path => mapping.write s.files path

/-- Replaces some tiers of the model mapping; there must be at least one. -/
def setMapping (s : Surroundings m) (opus sonnet haiku : Option String) : Action m String := do
  if opus.isNone ∧ sonnet.isNone ∧ haiku.isNone then
    throw { message := "Specify at least one of --opus, --sonnet or --haiku" }
  let current ← orSay "Failed to read Claude Code settings" s.readMapping
  orSay "Failed to write Claude Code settings"
    (s.writeMapping (current.replace opus sonnet haiku))
  return Output.mappingChanged s.inColour

/-- Carries out a command. -/
def perform (s : Surroundings m) (i : Invocation) : Action m String :=
  match i.command with
  | .refresh provider asJson force => do s.refresh (← s.config i) provider asJson force
  | .testCommand model => do s.testCommand (← s.config i) model
  | .showMapping asJson => do
    let mapping ← orSay "Failed to read Claude Code settings" s.readMapping
    return if asJson then Output.json mapping.toJson else Output.mapping s.inColour mapping
  | .setMapping opus sonnet haiku => s.setMapping opus sonnet haiku
  | .showConfig asJson => do
    let c ← s.config i
    return if asJson then Output.configJson c else Output.config s.inColour c
  | .configPath => do return (← orFail (s.chosenPath i.config)) ++ "\n"

/-- Does what some words ask for. -/
def run (s : Surroundings m) (words : List String) : m Outcome :=
  match Invocation.ofWords words with
  | .error ending => return .ofEnding ending
  | .ok invocation => return .ofResult (← (s.perform invocation).run)

end Surroundings

end QuotaBoard.CommandLine
