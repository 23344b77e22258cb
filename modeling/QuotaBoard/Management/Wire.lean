import QuotaBoard.Credential
import QuotaBoard.Exchange

/-!
# What the management API sends and takes

The bodies of its four endpoints: the call that it makes on behalf of a credential, the vendor's
reply to that, the listing of credentials, and the listing of API keys.
-/

namespace QuotaBoard.Management

/-- The body of a call that is to be made. -/
def callBody (r : ApiRequest) : Json :=
  .object ([("authIndex", .string r.authIndex), ("method", .string r.method.name),
      ("url", .string r.url),
      ("header", .object (r.headers.map fun (name, value) => (name, .string value)))] ++
    Json.memberIfAny "data" .string r.body)

/-- A vendor's reply as the management API hands it on: the body is a text, or JSON in place. -/
structure CallResult where
  status : UInt16
  header : List (String × Json)
  body : Json

/-- The result that a document describes. -/
def CallResult.ofDocument? (d : Document) : Option CallResult := do
  let r ← Record.of? 3 d
  some
    { status := ← r.required? 0 ["status_code", "statusCode"] Document.status?
      header := ← r.withDefault? 1 ["header"] Document.map? []
      body := ← r.withDefault? 2 ["body"] Document.value? .null }

/-- The text of the body. -/
def CallResult.bodyText (r : CallResult) : String :=
  match r.body with
  | .null => ""
  | .string s => s
  | v => v.text

/-- The reply that the result hands on. -/
def CallResult.reply (r : CallResult) : ApiReply := .ofText r.status r.bodyText

/-- The items of a listing that has one field, known by any of some names. -/
def listing? (names : List String) (d : Document) : Option (List Json) := do
  (← Record.of? 1 d).withDefault? 0 names (Document.list? Document.value?) []

/-- The credentials in a listing; entries without a name are passed over. -/
def credentials? (d : Document) : Option (List Credential) :=
  (listing? ["files"] d).map (·.filterMap Credential.ofEntry?)

/-- The key of an entry: a text, or an object that holds one. -/
def keyOf? : Json → Option String
  | .string key => some key
  | v => ((v.get? "key").or (v.get? "api-key")).bind Json.text?

/-- The API keys in a listing. -/
def apiKeys? (d : Document) : Option (List String) :=
  (listing? ["api-keys", "apiKeys", "api_keys"] d).map (·.filterMap keyOf?)

end QuotaBoard.Management
