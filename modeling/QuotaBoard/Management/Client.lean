import QuotaBoard.Board.Basic
import QuotaBoard.Management.Wire
import QuotaBoard.Url.Basic

/-!
# The client of the management API

How the requests to the management API are made up and its answers are read.  Sending is left to
a transport, so everything here is a function of what the transport brings back.
-/

namespace QuotaBoard.Management

/-! ## Errors -/

/-- Why a request came to nothing. -/
inductive RequestFault where
  /-- It could not be made up: its address is none, or its key cannot stand in a header. -/
  | unbuildable
  /-- Its address cannot be written into a request. -/
  | unwritable (url : String)
  /-- It could not be sent to an address. -/
  | unsent (url : String)
deriving DecidableEq

/-- The text that is shown. -/
def RequestFault.message : RequestFault → String
  | unbuildable => "builder error"
  | unwritable url => "builder error for url (" ++ url ++ ")"
  | unsent url => "error sending request for url (" ++ url ++ ")"

/-- Why the client failed. -/
inductive ClientError where
  | request (fault : RequestFault)
  | invalidResponse (message : String)
  | serverError (status : UInt16) (message : String)
  | invalidConfig (message : String)
deriving DecidableEq

namespace ClientError

/-- The text that is shown. -/
def message : ClientError → String
  | request fault => "Request failed: " ++ fault.message
  | invalidResponse m => "Invalid response: " ++ m
  | serverError s m => "Server error (" ++ toString s.toNat ++ "): " ++ m
  | invalidConfig m => "Invalid configuration: " ++ m

/-- The status with which the management API refused. -/
def status : ClientError → Option UInt16
  | serverError s _ => some s
  | _ => none

/-- The error of a credential whose call failed so. -/
def toFetchError : ClientError → FetchError
  | invalidResponse m => .parse m
  | e => .transport e.message e.status

/-- The failure of a listing or a download. -/
def toFailure (e : ClientError) : Failure := .catalog e.message

end ClientError

/-! ## Requests and answers -/

/-- A request over HTTP. -/
structure HttpRequest where
  method : Method
  url : Url
  authorization : Option String
  /-- A JSON body. -/
  body : Option Json

/-- An answer over HTTP. -/
structure HttpAnswer where
  status : UInt16
  body : List UInt8

/-- Whatever sends requests. -/
abbrev Transport (m : Type → Type) := HttpRequest → m (Except RequestFault HttpAnswer)

/-! ## The client -/

/-- A client: where the management API is, and the key with which it is entered. -/
structure Client where
  baseUrl : String
  key : String

namespace Client

/-- The client for an address; it has to be that of a web server. -/
def open? (baseUrl key : String) : Except ClientError Client :=
  match Url.parse baseUrl with
  | .error e => .error (.invalidConfig ("base URL " ++ baseUrl ++ ": " ++ e.message))
  | .ok url =>
    if url.isWeb then .ok ⟨baseUrl, key⟩
    else .error (.invalidConfig ("unsupported scheme: " ++ url.scheme))

/-- The client that a configuration asks for. -/
def ofConfig (c : Config) : Except ClientError Client :=
  open? c.management.baseUrl c.management.key

/-- The address of an endpoint. -/
def endpoint (c : Client) (path : String) : String :=
  Text.dropTrailingSlashes c.baseUrl ++ "/v0/management" ++ path

/-- Whether a text may stand in a header. -/
def fitsHeader (s : String) : Bool := s.toList.all fun c => c = '\t' || !Percent.control c

/-- Whether an address may be written into a request: it has a bounded length, and its host none
of the few characters that a domain may have but a request may not. -/
def fitsRequest (url : Url) : Bool :=
  let host := (url.host.map (·.text)).getD ""
  url.text.utf8ByteSize ≤ 65534 && !host.toList.any ['"', '\x60', '\x7b', '\x7d'].contains

/-- The header with which the client identifies itself; without a key there is none. -/
def authorization (c : Client) : Option String := (Text.trimmed? c.key).map ("Bearer " ++ ·)

/-- A request to an endpoint. -/
def request (c : Client) (method : Method) (path : String) (query : Option (String × String))
    (body : Option Json) : Except RequestFault HttpRequest :=
  match Url.parse (c.endpoint path) with
  | .error _ => .error .unbuildable
  | .ok url =>
    if c.authorization.all fitsHeader then
      let url := url.withoutCredentials
      let url := match query with
        | some (name, value) => url.withQueryPair name value
        | none => url
      if fitsRequest url then .ok ⟨method, url, c.authorization, body⟩
      else .error (.unwritable url.text)
    else .error .unbuildable

/-- The bytes of an answer that is a success. -/
def accept (answer : Except RequestFault HttpAnswer) : Except ClientError (List UInt8) :=
  match answer with
  | .error fault => .error (.request fault)
  | .ok answer =>
    if 200 ≤ answer.status ∧ answer.status < 300 then .ok answer.body
    else .error (.serverError answer.status (Utf8.lossy answer.body))

/-- What an answer in JSON says. -/
def decode (read : Document → Option α) (bytes : List UInt8) : Except ClientError α :=
  match ((Utf8.text? bytes).bind Document.ofText?).bind read with
  | some a => .ok a
  | none => .error (.invalidResponse "error decoding response body")

variable {m : Type → Type} [Monad m]

/-- Makes up a request, sends it, and reads what comes back. -/
def exchange (send : Transport m) (request : Except RequestFault HttpRequest)
    (read : List UInt8 → Except ClientError α) : m (Except ClientError α) :=
  match request with
  | .error fault => pure (.error (.request fault))
  | .ok request => return (accept (← send request)).bind read

/-- Makes a call on behalf of a credential. -/
def call (c : Client) (send : Transport m) (r : ApiRequest) : m (Except ClientError ApiReply) :=
  exchange send (c.request .post "/api-call" none (some (callBody r)))
    fun bytes => (decode CallResult.ofDocument? bytes).map CallResult.reply

/-- The stored credentials. -/
def credentials (c : Client) (send : Transport m) : m (Except ClientError (List Credential)) :=
  exchange send (c.request .get "/auth-files" none none) (decode credentials?)

/-- The token file of a credential. -/
def tokenFile (c : Client) (send : Transport m) (name : String) :
    m (Except ClientError String) :=
  exchange send (c.request .get "/auth-files/download" (some ("name", name)) none)
    fun bytes => .ok (Utf8.lossy bytes)

/-- The API keys. -/
def apiKeys (c : Client) (send : Transport m) : m (Except ClientError (List String)) :=
  exchange send (c.request .get "/api-keys" none none) (decode apiKeys?)

/-- What the board asks of the management API, asked through the client. -/
def service (c : Client) (send : Transport m) (clock : m Int) : Service m where
  call r := return (← c.call send r).mapError ClientError.toFetchError
  tokenFile name := return (← c.tokenFile send name).toOption
  clock := clock
  credentials := return (← c.credentials send).mapError ClientError.toFailure
  apiKeys := return (← c.apiKeys send).mapError ClientError.toFailure

end Client

end QuotaBoard.Management
