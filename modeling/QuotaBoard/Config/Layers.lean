import QuotaBoard.Config.Basic
import QuotaBoard.Files
import QuotaBoard.Text.Blank
import QuotaBoard.Url.Basic

/-!
# Layers of the configuration

The configuration in use is made of three layers: the file, the environment, and what was said
on the command line, each above the one before.  The upper two can replace the address and the
key of the management API only.  What comes out is checked last, so that a good override can
repair a bad file.
-/

namespace QuotaBoard.Config

/-! ## Overrides -/

/-- What a layer above the file says. -/
structure Overrides where
  baseUrl : Option String := none
  key : Option String := none

/-- The address that an override gives, if it is that of a web server. -/
def usableUrl? (override : String) : Option String :=
  (Text.trimmed? override).bind fun url =>
    if Url.isWebAddress url then some (Text.dropTrailingSlashes url) else none

/-- The configuration under a layer; what is blank or no address is passed over. -/
def override (c : Config) (layer : Overrides) : Config :=
  { c with management :=
    { c.management with
      baseUrl := (layer.baseUrl.bind usableUrl?).getD c.management.baseUrl
      key := (layer.key.bind Text.trimmed?).getD c.management.key } }

/-! ## Requirements -/

/-- Something that a configuration must have. -/
structure Requirement where
  field : String
  message : String
  holds : Config → Bool

/-- What a configuration must have; the first that is missing is reported. -/
def requirements : List Requirement :=
  [⟨"management.base_url", "must not be empty",
      fun c => (Text.trimmed? c.management.baseUrl).isSome⟩,
    ⟨"management.timeout_secs", "must be greater than zero",
      fun c => c.management.timeoutSecs ≠ 0⟩,
    ⟨"endpoints.antigravity_quota_urls", "must list at least one URL",
      fun c => !c.endpoints.antigravityQuotaUrls.isEmpty⟩,
    ⟨"endpoints.antigravity_tier_urls", "must list at least one URL",
      fun c => !c.endpoints.antigravityTierUrls.isEmpty⟩,
    ⟨"default_project_id", "must not be empty",
      fun c => (Text.trimmed? c.defaultProjectId).isSome⟩]

/-- The configuration, if it has all that it must have. -/
def validate (c : Config) : Except ConfigError Config :=
  match requirements.find? (!·.holds c) with
  | some r => .error (.invalid r.field r.message)
  | none => .ok c

/-! ## All layers -/

/-- The configuration that a file holds; where there is none it is the default. -/
def ofFile (path : String) : FileContent → Except Failure Config
  | .missing | .blocked _ => .ok default
  | .unreadable message => .error (.io message)
  | .text content =>
    match (Document.ofText? content).bind ofDocument? with
    | some c => .ok c
    | none => .error (.config (.parse path "not a configuration"))

/-- The configuration in use. -/
def load (path : String) (content : FileContent) (environment explicit : Overrides) :
    Except Failure Config := do
  let c ← ofFile path content
  ((c.override environment).override explicit).validate.mapError .config

end QuotaBoard.Config
