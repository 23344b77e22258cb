import QuotaBoard.Config.Layers
import QuotaBoard.Management.Client

/-!
# The surroundings of the command line

What a command finds around it: environment variables, files, the way to the management API, and
the clock.  From the variables follow the places of its files, the second layer of the
configuration, and whether it writes in colour.
-/

namespace QuotaBoard.CommandLine

/-- What a command finds around it. -/
structure Surroundings (m : Type → Type) where
  /-- The value of an environment variable. -/
  lookup : String → Option String
  /-- The home directory that the account has when no variable names one, if it is known. -/
  accountHome : Option String
  /-- Whether the output goes to a terminal. -/
  isTerminal : Bool
  files : Files m
  send : Management.Transport m
  clock : m Int

namespace Surroundings

variable {m : Type → Type} [Monad m]

/-! ## Places of files -/

/-- The home directory. -/
def home? (s : Surroundings m) : Option String :=
  ((s.lookup "HOME").filter (· ≠ "")).or s.accountHome

/-- The directory of all configurations. -/
def configHome? (s : Surroundings m) : Option String :=
  ((s.lookup "XDG_CONFIG_HOME").filter (Path.isAbsolute ·)).or
    (s.home?.map (Path.join · ".config"))

/-- The directory of the program's own files. -/
def dataDirectory? (s : Surroundings m) : Option String :=
  (s.lookup "PROXY_QUOTA_DATA_DIR").or (s.configHome?.map (Path.join · "proxy-quota"))

/-- Makes a directory unless something stands there. -/
def ensure (s : Surroundings m) (directory : String) : m (Except Failure Unit) := do
  match ← s.files.read directory with
  | .missing | .blocked _ => return (← s.files.makeDirectory directory).mapError .io
  | .unreadable _ | .text _ => return .ok ()

/-- The usual place of the configuration, whose directory is made if it is missing. -/
def configPath (s : Surroundings m) : m (Except Failure String) := do
  match s.dataDirectory? with
  | none => return .error (.unknown "Cannot determine user config directory")
  | some directory =>
    return (← s.ensure directory).map fun () => Path.join directory "config.json"

/-- The settings file that holds the model mapping. -/
def settingsPath (s : Surroundings m) : Except Failure String :=
  match s.home? with
  | none => .error (.unknown "Cannot determine home directory")
  | some home => .ok (Path.join (Path.join home ".claude") "settings.json")

/-! ## The configuration and colours -/

/-- The layer of the configuration that the variables give. -/
def overrides (s : Surroundings m) : Config.Overrides :=
  ⟨s.lookup "PROXY_QUOTA_MANAGEMENT_URL", s.lookup "PROXY_QUOTA_MANAGEMENT_KEY"⟩

/-- Whether output is in colour: a variable forces it, another forbids it, and else it is if it
goes to a terminal and is not switched off. -/
def inColour (s : Surroundings m) : Bool :=
  if (s.lookup "CLICOLOR_FORCE").any (· ≠ "0") then true
  else if (s.lookup "NO_COLOR").isSome then false
  else s.isTerminal && (s.lookup "CLICOLOR").all (· ≠ "0")

end Surroundings

end QuotaBoard.CommandLine
