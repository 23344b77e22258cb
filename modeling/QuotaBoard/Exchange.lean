import QuotaBoard.FetchError
import QuotaBoard.Json.Loose

/-!
# Calls on behalf of a credential

The management API performs a call to a vendor with the access token of a stored credential.
Here are the request that is handed to it and the reply that comes back.
-/

namespace QuotaBoard

/-! ## Requests -/

/-- The methods in use. -/
inductive Method where
  | get
  | post
deriving DecidableEq

/-- The name of a method. -/
def Method.name : Method → String
  | get => "GET"
  | post => "POST"

/-- A call to be made on behalf of the credential with an index. -/
structure ApiRequest where
  authIndex : String
  method : Method
  url : String
  /-- In order of their names. -/
  headers : List (String × String)
  body : Option String
deriving DecidableEq

namespace ApiRequest

/-- A request without a body. -/
def get (authIndex url : String) : ApiRequest := ⟨authIndex, .get, url, [], none⟩

/-- A request with a JSON body. -/
def post (authIndex url : String) (body : Json) : ApiRequest :=
  ⟨authIndex, .post, url, [], some body.text⟩

/-- The request with a header; one of that name is replaced. -/
def withHeader (r : ApiRequest) (name value : String) : ApiRequest :=
  { r with headers := Json.insertMember name value r.headers }

/-- The request with several headers. -/
def withHeaders (r : ApiRequest) (headers : List (String × String)) : ApiRequest :=
  headers.foldl (fun r (name, value) => r.withHeader name value) r

/-- The request as a value. -/
def toJson (r : ApiRequest) : Json :=
  .object [("auth_index", .string r.authIndex), ("method", .string r.method.name),
    ("url", .string r.url),
    ("headers", .object (r.headers.map fun (name, value) => (name, .string value))),
    ("body", .ofOption .string r.body)]

end ApiRequest

/-- The headers of every call: the caller puts the access token in place of `$TOKEN$`. -/
def authorizedHeaders : List (String × String) :=
  [("Authorization", "Bearer $TOKEN$"), ("Content-Type", "application/json")]

/-! ## Replies -/

/-- A vendor's reply: its text, and its value if the text is JSON. -/
structure ApiReply where
  status : UInt16
  body : Option Json
  text : String

namespace ApiReply

/-- A reply from its text. -/
def ofText (status : UInt16) (text : String) : ApiReply := ⟨status, Json.ofBody? text, text⟩

/-- A reply from its value. -/
def ofJson (status : UInt16) (body : Json) : ApiReply := ⟨status, some body, body.text⟩

/-- Whether the status is a success. -/
def isSuccess (r : ApiReply) : Bool := 200 ≤ r.status && r.status < 300

/-- The text of an error in a JSON body: that of its `error` object, its `error`, or its
`message`. -/
def bodyMessage? (body : Json) : Option String :=
  ((body.get? "error").bind (·.textAt? "message")).or
    ((body.textAt? "error").or (body.textAt? "message"))

/-- The best text for an error reply: one from its JSON body, else the text as it is, else the
status. -/
def errorMessage (r : ApiReply) : String :=
  ((r.body.bind bodyMessage?).or (Text.trimmed? r.text)).getD
    ("HTTP " ++ toString r.status.toNat)

/-- The error of a reply that is no success. -/
def statusError (r : ApiReply) : FetchError := .vendorStatus r.status r.errorMessage

end ApiReply

end QuotaBoard
