import QuotaBoard.Json.Text
import QuotaBoard.Text.Blank

/-!
# The test command

A command for the shell that sends one chat message through the server, with the primary API
key.
-/

namespace QuotaBoard.TestCommand

/-- The model that is asked when none is named. -/
def defaultModel : String := "gemini-2.5-flash"

/-- The message that is sent to a model. -/
def body (model : String) : Json :=
  .object [("messages", .array [.object [("content", .string "Hello"), ("role", .string "user")]]),
    ("model", .string model)]

/-- A text within single quotes: a quote ends the quotation, stands escaped, and opens another
one. -/
def quoteChars (cs : List Char) : List Char :=
  cs.flatMap fun c => if c = '\'' then ['\'', '\\', '\'', '\''] else [c]

/-- The address that the message is sent to. -/
def endpoint (baseUrl : String) : String :=
  Text.dropTrailingSlashes (Text.trim baseUrl) ++ "/v1/chat/completions"

/-- The command. -/
def build (baseUrl key model : String) : String :=
  "curl " ++ endpoint baseUrl ++ " \\\n  -H \"Content-Type: application/json\"" ++
    " \\\n  -H \"Authorization: Bearer " ++ key ++ "\"" ++
    " \\\n  -d '" ++ String.ofList (quoteChars (body model).chars) ++ "'"

end QuotaBoard.TestCommand
