import QuotaBoard.FetchError

/-!
# Failures of whole operations

What can go wrong when no single credential is to blame: files, the configuration, the listing
of credentials or keys.
-/

namespace QuotaBoard

/-- Why a configuration cannot be used. -/
inductive ConfigError where
  /-- The file at a path is no configuration. -/
  | parse (path message : String)
  /-- A field holds something that the program cannot run with. -/
  | invalid (field message : String)
deriving DecidableEq

/-- The text that is shown. -/
def ConfigError.message : ConfigError → String
  | parse path m => "Config parse error in " ++ path ++ ": " ++ m
  | invalid field m => "Invalid config value for " ++ field ++ ": " ++ m

/-- The field that is to blame. -/
def ConfigError.field? : ConfigError → Option String
  | invalid field _ => some field
  | parse .. => none

/-- Why an operation failed. -/
inductive Failure where
  | io (message : String)
  | json (message : String)
  | quota (error : FetchError)
  | config (error : ConfigError)
  | catalog (message : String)
  | unknown (message : String)
deriving DecidableEq

/-- The text that is shown. -/
def Failure.message : Failure → String
  | io m => "IO error: " ++ m
  | json m => "JSON error: " ++ m
  | quota e => "Quota error: " ++ e.message
  | config e => "Configuration error: " ++ e.message
  | catalog m => "Catalog error: " ++ m
  | unknown m => "Unknown error: " ++ m

/-- The failure as a value. -/
def Failure.toJson (f : Failure) : Json := .string f.message

end QuotaBoard
