import QuotaBoard.Failure

/-!
# The configuration

Where the management API is and how it is entered, where quotas are asked for, and which API
keys are known without asking.  Every field of the file may be left out and then has its
default; a field that is there must be of the right kind.
-/

namespace QuotaBoard

/-- How the management API is reached. -/
structure Config.Management where
  baseUrl : String
  key : String
  timeoutSecs : UInt64
deriving DecidableEq

/-- Where quotas are asked for; addresses in lists are tried in order. -/
structure Config.Endpoints where
  antigravityQuotaUrls : List String
  antigravityTierUrls : List String
  codexUsageUrl : String
  geminiCliQuotaUrl : String
deriving DecidableEq

/-- The whole configuration. -/
structure Config where
  management : Config.Management
  endpoints : Config.Endpoints
  /-- The project of Antigravity credentials that name none. -/
  defaultProjectId : String
  /-- Known API keys, of which the first that is not blank counts. -/
  apiKeys : List String
deriving DecidableEq

namespace Config

/-! ## Defaults -/

/-- The management API on this machine. -/
def Management.default : Management := ⟨"http://127.0.0.1:8317", "", 30⟩

/-- The addresses of a method of the code assistant. -/
def assistantUrls (method : String) : List String :=
  ["https://daily-cloudcode-pa.googleapis.com",
    "https://daily-cloudcode-pa.sandbox.googleapis.com",
    "https://cloudcode-pa.googleapis.com"].map (· ++ "/v1internal:" ++ method)

/-- The addresses of the vendors. -/
def Endpoints.default : Endpoints where
  antigravityQuotaUrls := assistantUrls "fetchAvailableModels"
  antigravityTierUrls := assistantUrls "loadCodeAssist"
  codexUsageUrl := "https://chatgpt.com/backend-api/wham/usage"
  geminiCliQuotaUrl := "https://cloudcode-pa.googleapis.com/v1internal:retrieveUserQuota"

/-- The configuration of an empty file. -/
def default : Config := ⟨.default, .default, "bamboo-precept-lgxtn", []⟩

instance : Inhabited Config := ⟨default⟩

/-! ## In JSON -/

/-- A list of texts as a value. -/
def textsToJson (texts : List String) : Json := .array (texts.map .string)

/-- A block of the configuration as a value. -/
def Management.toJson (m : Management) : Json :=
  .object [("base_url", .string m.baseUrl), ("key", .string m.key),
    ("timeout_secs", .ofInt m.timeoutSecs.toNat)]

/-- A block of the configuration as a value. -/
def Endpoints.toJson (e : Endpoints) : Json :=
  .object [("antigravity_quota_urls", textsToJson e.antigravityQuotaUrls),
    ("antigravity_tier_urls", textsToJson e.antigravityTierUrls),
    ("codex_usage_url", .string e.codexUsageUrl),
    ("gemini_cli_quota_url", .string e.geminiCliQuotaUrl)]

/-- The configuration as a value. -/
def toJson (c : Config) : Json :=
  .object [("management", c.management.toJson), ("endpoints", c.endpoints.toJson),
    ("default_project_id", .string c.defaultProjectId), ("api_keys", textsToJson c.apiKeys)]

/-- The block that a document describes. -/
def Management.ofDocument? (d : Document) : Option Management := do
  let r ← Record.of? 3 d
  some
    { baseUrl := ← r.withDefault? 0 ["base_url"] Document.text? Management.default.baseUrl
      key := ← r.withDefault? 1 ["key"] Document.text? Management.default.key
      timeoutSecs := ← r.withDefault? 2 ["timeout_secs"]
        (fun d => (d.natBelow? 0x10000000000000000).map UInt64.ofNat) Management.default.timeoutSecs }

/-- The block that a document describes. -/
def Endpoints.ofDocument? (d : Document) : Option Endpoints := do
  let r ← Record.of? 4 d
  let texts := Document.list? Document.text?
  some
    { antigravityQuotaUrls := ← r.withDefault? 0 ["antigravity_quota_urls"] texts
        Endpoints.default.antigravityQuotaUrls
      antigravityTierUrls := ← r.withDefault? 1 ["antigravity_tier_urls"] texts
        Endpoints.default.antigravityTierUrls
      codexUsageUrl := ← r.withDefault? 2 ["codex_usage_url"] Document.text?
        Endpoints.default.codexUsageUrl
      geminiCliQuotaUrl := ← r.withDefault? 3 ["gemini_cli_quota_url"] Document.text?
        Endpoints.default.geminiCliQuotaUrl }

/-- The configuration that a document describes. -/
def ofDocument? (d : Document) : Option Config := do
  let r ← Record.of? 4 d
  some
    { management := ← r.withDefault? 0 ["management"] Management.ofDocument? default.management
      endpoints := ← r.withDefault? 1 ["endpoints"] Endpoints.ofDocument? default.endpoints
      defaultProjectId := ← r.withDefault? 2 ["default_project_id"] Document.text?
        default.defaultProjectId
      apiKeys := ← r.withDefault? 3 ["api_keys"] (Document.list? Document.text?)
        default.apiKeys }

end Config

end QuotaBoard
