import QuotaBoard.Board.Basic
import QuotaBoard.CommandLine.Table
import QuotaBoard.ModelMapping

/-!
# What commands print

The texts that commands print when they succeed, each ending with a line break.
-/

namespace QuotaBoard.CommandLine.Output

/-! ## Colours -/

/-- A text in a colour, given by the number of the terminal's code for it. -/
def paint (inColour : Bool) (code text : String) : String :=
  if inColour then "\x1b[" ++ code ++ "m" ++ text ++ "\x1b[0m" else text

/-- A heading: bold and cyan. -/
def heading (inColour : Bool) (text : String) : String := paint inColour "1;36" text ++ "\n"

/-- A remark: yellow. -/
def remark (inColour : Bool) (text : String) : String := paint inColour "33" text ++ "\n"

/-! ## Readings -/

/-- A percentage without decimals. -/
def percent (x : Option Double) : String := (x.map (·.wholeText ++ "%")).getD "-"

/-- The lines on an Antigravity quota. -/
def antigravityLines (q : Antigravity.Quota) : List String :=
  (q.subscriptionTier.map ("tier: " ++ ·)).toList ++
    q.groups.map fun g => g.label ++ ": " ++ percent g.remainingPercent

/-- The lines on a Codex quota. -/
def codexLines (q : Codex.Quota) : List String :=
  (q.planType.map ("plan: " ++ ·)).toList ++
    q.windows.map fun w =>
      w.label ++ ": " ++ percent w.usedPercent ++ " used, resets " ++ w.resetLabel

/-- The lines on a Gemini CLI quota. -/
def geminiCliLines (q : GeminiCli.Quota) : List String :=
  q.buckets.map fun b =>
    b.modelId ++ ": " ++ percent (b.remaining.map Double.hundredfold) ++
      (match b.tokenType with
        | some type => " [" ++ type ++ "]"
        | none => "")

/-! ## The board -/

/-- The word for a state, and what is said about it. -/
def stateCells (lines : α → List String) : QuotaState α → String × String
  | .success data => ("ok", "\n".intercalate (lines data))
  | .error message (some status) => ("error", message ++ " (" ++ toString status.toNat ++ ")")
  | .error message none => ("error", message)
  | .loading => ("loading", "")
  | .idle => ("idle", "")

/-- The rows of a provider's slot. -/
def slotRows (p : Provider) (lines : α → List String) (slot : Slot α) : List (List String) :=
  slot.toList.map fun (name, state) =>
    let (word, details) := stateCells lines state
    [p.displayName, name, word, details]

/-- The rows of one provider. -/
def providerRows (store : Store) : Provider → List (List String)
  | .antigravity => slotRows .antigravity antigravityLines store.antigravity
  | .codex => slotRows .codex codexLines store.codex
  | .geminiCli => slotRows .geminiCli geminiCliLines store.geminiCli

/-- The line on what a pass came to. -/
def summaryLine (inColour : Bool) (s : Summary) : String :=
  let failed := toString s.failed ++ " failed"
  s.provider.displayName ++ ": " ++ toString s.dispatched ++ " checked, " ++
    toString s.succeeded ++ " ok, " ++
    (if 0 < s.failed then paint inColour "31" failed else failed) ++ "\n"

/-- The board after some passes. -/
def board (inColour : Bool) (summaries : List Summary) (store : Store) : String :=
  let rows := summaries.flatMap fun s => providerRows store s.provider
  let table :=
    if rows.isEmpty then remark inColour "No matching credentials found."
    else Table.render ["Provider", "Credential", "Status", "Details"] rows ++ "\n"
  table ++ "".intercalate (summaries.map (summaryLine inColour))

/-- A value over several lines. -/
def json (v : Json) : String := v.pretty ++ "\n"

/-- The board after some passes, as JSON. -/
def boardJson (summaries : List Summary) (store : Store) : String :=
  json (.object [("summaries", .array (summaries.map Summary.toJson)),
    ("snapshot", store.toJson)])

/-- The test command, if there is a key for it. -/
def testCommand (inColour : Bool) : Option String → String
  | some command => command ++ "\n"
  | none => remark inColour "No proxy API key available."

/-! ## The model mapping -/

/-- A text, or a dash for an empty one. -/
def orDash (s : String) : String := if s = "" then "-" else s

/-- A line with a name and what stands under it. -/
def entry (name value : String) : String := "  " ++ name ++ ": " ++ value ++ "\n"

/-- The model mapping. -/
def mapping (inColour : Bool) (m : ModelMapping) : String :=
  heading inColour "Claude Code model mapping:" ++
    "".intercalate (m.entries.map fun (key, model) => entry key (orDash model))

/-- The answer to a change of the model mapping. -/
def mappingChanged (inColour : Bool) : String :=
  paint inColour "32" "✓" ++ " Claude Code settings updated\n"

/-! ## The configuration -/

/-- A key that cannot be read off the screen: its ends at most, and of a short one nothing. -/
def masked (key : String) : String :=
  let cs := key.toList
  if cs.length ≤ 8 then String.ofList (List.replicate cs.length '*')
  else String.ofList (cs.take 4 ++ ['.', '.', '.'] ++ cs.drop (cs.length - 4))

/-- The configuration with all keys masked. -/
def maskKeys (c : Config) : Config :=
  { c with
    management := { c.management with key := masked c.management.key }
    apiKeys := c.apiKeys.map masked }

/-- A list of addresses. -/
def addresses (urls : List String) : String := ", ".intercalate urls

/-- The configuration. -/
def config (inColour : Bool) (c : Config) : String :=
  let c := maskKeys c
  heading inColour "Management API:" ++
    entry "URL" c.management.baseUrl ++
    entry "Key" (orDash c.management.key) ++
    entry "Timeout" (toString c.management.timeoutSecs.toNat ++ "s") ++
    heading inColour "Endpoints:" ++
    entry "Antigravity quota" (addresses c.endpoints.antigravityQuotaUrls) ++
    entry "Antigravity tier" (addresses c.endpoints.antigravityTierUrls) ++
    entry "Codex usage" c.endpoints.codexUsageUrl ++
    entry "Gemini CLI quota" c.endpoints.geminiCliQuotaUrl ++
    entry "Default project" c.defaultProjectId ++
    entry "Local API keys" (toString c.apiKeys.length)

/-- The configuration, as JSON. -/
def configJson (c : Config) : String := json (maskKeys c).toJson

end QuotaBoard.CommandLine.Output
