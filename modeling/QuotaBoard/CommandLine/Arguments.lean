import QuotaBoard.Provider
import QuotaBoard.TestCommand

/-!
# What is asked for on the command line

The words after the program's name lead from the program down to a command: each plain word names
a place inside the one before.  At every place some switches may be given, each at most once;
four of them are known everywhere, and of those the one given furthest down counts.

A switch has a long name (`--model`) and perhaps a letter (`-m`).  Its value stands behind an
equals sign, right behind the letter, or in the next word if that does not start with a dash;
letters of switches without a value may stand together.  A value in a word of its own is looked
at only when the next switch of that place, or the end, is reached.
-/

namespace QuotaBoard.CommandLine

/-! ## Places and switches -/

/-- A place on the way to a command. -/
inductive Place where
  | program
  | refresh
  | testCommand
  | mapping
  | mappingShow
  | mappingSet
  | config
  | configShow
  | configPath
deriving DecidableEq

/-- What a switch does. -/
inductive Switch.Effect where
  /-- Asks for help and nothing else. -/
  | help
  /-- Asks for the version and nothing else. -/
  | version
  | flag
  /-- Gives a value, which not every text can be. -/
  | value (accepts : String → Bool)

/-- A switch. -/
structure Switch where
  long : String
  letter : Option Char
  effect : Switch.Effect
  about : String

/-- A switch whose value may be any text. -/
def Switch.text (long : String) (letter : Option Char) (about : String) : Switch :=
  ⟨long, letter, .value fun _ => true, about⟩

/-- The switches that are known everywhere. -/
def Switch.everywhere : List Switch :=
  [⟨"config", some 'c', .value (· ≠ ""), "Path to config.json (default: data directory)"⟩,
    .text "log-level" (some 'l') "How much is logged",
    .text "management-url" none "Management API base URL override",
    .text "management-key" none "Management key override",
    ⟨"help", some 'h', .help, "Print help"⟩,
    ⟨"version", some 'V', .version, "Print version"⟩]

/-- The switch for output as JSON. -/
def Switch.json : Switch := ⟨"json", some 'j', .flag, "Output as JSON"⟩

/-- The switches that are known at a place only. -/
def Place.ownSwitches : Place → List Switch
  | refresh =>
    [⟨"provider", some 'p', .value fun s => (Provider.ofName? s).isSome,
        "Only refresh one provider (antigravity, codex, gemini-cli)"⟩,
      .json, ⟨"force", some 'f', .flag, "Also drop the cached primary API key"⟩]
  | testCommand => [.text "model" (some 'm') "The model that is asked"]
  | mappingSet =>
    [.text "opus" none "Model for the opus tier", .text "sonnet" none "Model for the sonnet tier",
      .text "haiku" none "Model for the haiku tier"]
  | mappingShow | configShow => [.json]
  | _ => []

/-- The switches that are known at a place. -/
def Place.switches (p : Place) : List Switch := p.ownSwitches ++ Switch.everywhere

/-- A place inside another one. -/
structure Inner where
  word : String
  place : Place
  about : String

/-- The places inside a place; a place with none is a command. -/
def Place.inner : Place → List Inner
  | program =>
    [⟨"refresh", refresh, "Fetch quota for every stored credential"⟩,
      ⟨"test-command", testCommand, "Print a curl command that exercises the proxy"⟩,
      ⟨"claude-config", mapping, "Claude Code CLI model mapping (~/.claude/settings.json)"⟩,
      ⟨"config", config, "View configuration"⟩]
  | mapping =>
    [⟨"show", mappingShow, "Show the current model mapping"⟩,
      ⟨"set", mappingSet, "Set the model mapping; an empty value removes the key"⟩]
  | config =>
    [⟨"show", configShow, "Show current configuration"⟩,
      ⟨"path", configPath, "Print the config file path"⟩]
  | _ => []

/-- The place that a word names inside another one. -/
def Place.find? (p : Place) (word : String) : Option Place :=
  (p.inner.find? (·.word = word)).map (·.place)

/-- Whether a place is a command. -/
def Place.isCommand (p : Place) : Bool := p.inner.isEmpty

/-! ## Words -/

/-- A word by its form. -/
inductive Word where
  /-- `--`, after which nothing else may stand. -/
  | last
  | long (name : String) (value : Option String)
  | letters (cs : List Char)
  | plain (text : String)

/-- The form of a word. -/
def Word.ofString (s : String) : Word :=
  match s.toList with
  | ['-', '-'] => last
  | '-' :: '-' :: rest =>
    long (String.ofList (rest.takeWhile (· ≠ '='))) <|
      match rest.dropWhile (· ≠ '=') with
      | _ :: value => some (String.ofList value)
      | [] => none
  | '-' :: c :: rest => letters (c :: rest)
  | _ => plain s

/-- Why no command is carried out. -/
inductive Ending where
  | help (place : Place)
  /-- The version is asked for, under the name of a place. -/
  | version (name : String)
  | misuse
deriving DecidableEq

/-- A switch that was given at a place, with its value if it has one. -/
structure Given where
  place : Place
  switch : Switch
  value : String

/-- Whether the value is one that the switch takes. -/
def Given.isAccepted (g : Given) : Bool :=
  match g.switch.effect with
  | .value accepts => accepts g.value
  | _ => true

/-- Whether two switches are the same one given at the same place. -/
def Given.repeats (g h : Given) : Bool := g.place = h.place && g.switch.long = h.switch.long

/-- Whether some switches are as they should be: their values accepted, and none given twice. -/
def Given.areSound : List Given → Bool
  | [] => true
  | g :: rest => g.isAccepted && !rest.any g.repeats && areSound rest

/-- How far the words have been read. -/
structure Reading where
  place : Place := .program
  name : String
  /-- The switches so far, the latest first. -/
  given : List Given := []
  /-- The switch whose value must come next. -/
  awaiting : Option Switch := none

namespace Reading

/-- Whether the switches of the present place are as they should be. -/
def isSound (r : Reading) : Bool := Given.areSound (r.given.filter (·.place = r.place))

/-- The reading with one more switch. -/
def add (r : Reading) (s : Switch) (value : String) : Reading :=
  { r with given := ⟨r.place, s, value⟩ :: r.given, awaiting := none }

/-- The reading, if the switches of the present place are as they should be. -/
def checked (r : Reading) : Except Ending Reading := if r.isSound then .ok r else .error .misuse

/-- The reading after a switch with what is attached to it. -/
def take (r : Reading) (s : Switch) (attached : Option String) : Except Ending Reading := do
  let r ← r.checked
  match s.effect, attached with
  | .value _, some value => (r.add s value).checked
  | .value _, none => .ok { r with awaiting := some s }
  | .flag, none => (r.add s "").checked
  | .help, none => .error (.help r.place)
  | .version, none => .error (.version r.name)
  | _, some _ => .error .misuse

/-- What follows the letter of a switch with a value in the same word. -/
def attachedTo : List Char → Option String
  | [] => none
  | '=' :: value => some (String.ofList value)
  | value => some (String.ofList value)

/-- The reading after a word of letters. -/
def takeLetters (r : Reading) : List Char → Except Ending Reading
  | [] => .ok r
  | c :: rest =>
    match r.place.switches.find? (·.letter = some c) with
    | none => .error .misuse
    | some s =>
      match s.effect with
      | .value _ => r.take s (attachedTo rest)
      | _ => do (← r.take s none).takeLetters rest

/-- The reading after a long switch. -/
def takeLong (r : Reading) (name : String) (value : Option String) : Except Ending Reading :=
  match r.place.switches.find? (·.long = name) with
  | none => .error .misuse
  | some s => r.take s value

/-- What comes of asking for help on the place that some words lead to. -/
def helpOn (p : Place) : List String → Ending
  | [] => .help p
  | word :: rest =>
    match p.find? word with
    | some inner => helpOn inner rest
    | none => if word = "help" ∧ !p.isCommand ∧ rest.isEmpty then .help p else .misuse

/-- The reading at the end of the words. -/
def finish (r : Reading) : Except Ending Reading :=
  if r.awaiting.isNone && r.place.isCommand && Given.areSound r.given then .ok r
  else .error .misuse

/-- The reading after all words. -/
def run (r : Reading) : List String → Except Ending Reading
  | [] => r.finish
  | word :: rest =>
    match r.awaiting, Word.ofString word with
    | some s, .plain value => (r.add s value).run rest
    | some _, _ => .error .misuse
    | none, .plain word =>
      match r.place.find? word with
      | some inner => { r with place := inner, name := r.name ++ "-" ++ word : Reading }.run rest
      | none =>
        .error (if word = "help" ∧ !r.place.isCommand then helpOn r.place rest else .misuse)
    | none, .last => if rest.isEmpty then r.finish else .error .misuse
    | none, .long name value => do (← r.takeLong name value).run rest
    | none, .letters cs => do (← r.takeLetters cs).run rest

/-- The value given for a switch; of several places the innermost counts. -/
def value? (r : Reading) (long : String) : Option String :=
  (r.given.find? (·.switch.long = long)).map (·.value)

/-- Whether a switch was given. -/
def has (r : Reading) (long : String) : Bool := (r.value? long).isSome

end Reading

/-! ## Commands -/

/-- A command. -/
inductive Command where
  | refresh (provider : Option Provider) (json : Bool) (force : Bool)
  | testCommand (model : String)
  | showMapping (json : Bool)
  | setMapping (opus sonnet haiku : Option String)
  | showConfig (json : Bool)
  | configPath
deriving DecidableEq

/-- What is asked for. -/
structure Invocation where
  command : Command
  /-- Where the configuration is, if not at its usual place. -/
  config : Option String := none
  managementUrl : Option String := none
  managementKey : Option String := none
deriving DecidableEq

/-- The command that was read, if the words led to one. -/
def Reading.command? (r : Reading) : Option Command :=
  match r.place with
  | .refresh => some (.refresh ((r.value? "provider").bind Provider.ofName?) (r.has "json")
      (r.has "force"))
  | .testCommand => some (.testCommand ((r.value? "model").getD TestCommand.defaultModel))
  | .mappingShow => some (.showMapping (r.has "json"))
  | .mappingSet => some (.setMapping (r.value? "opus") (r.value? "sonnet") (r.value? "haiku"))
  | .configShow => some (.showConfig (r.has "json"))
  | .configPath => some .configPath
  | .program | .mapping | .config => none

/-- The name of the program. -/
def programName : String := "proxy-quota"

/-- The version of the program. -/
def programVersion : String := "0.4.0"

/-- What some words ask for. -/
def Invocation.ofWords (words : List String) : Except Ending Invocation := do
  let r ← ({ name := programName } : Reading).run words
  match r.command? with
  | some command =>
    return ⟨command, r.value? "config", r.value? "management-url", r.value? "management-key"⟩
  | none => throw .misuse

/-! ## Help -/

/-- The line that a switch has in the help. -/
def Switch.helpLine (s : Switch) : String :=
  let letter := match s.letter with
    | some c => "-" ++ c.toString ++ ", "
    | none => "    "
  let value := match s.effect with
    | .value _ =>
      " <" ++ String.ofList (s.long.toList.map fun c => if c = '-' then '_' else c.toUpper) ++ ">"
    | _ => ""
  "  " ++ letter ++ "--" ++ s.long ++ value ++ "  " ++ s.about

/-- The help on a place. -/
def Place.help (p : Place) : String :=
  let commands := if p.isCommand then [] else
    "Commands:" :: p.inner.map (fun i => "  " ++ i.word ++ "  " ++ i.about) ++ [""]
  "\n".intercalate (commands ++ "Options:" :: p.switches.map Switch.helpLine) ++ "\n"

/-- The answer to a question for the version. -/
def versionText (name : String) : String := name ++ " " ++ programVersion ++ "\n"

end QuotaBoard.CommandLine
