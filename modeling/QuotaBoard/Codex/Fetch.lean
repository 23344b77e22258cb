import QuotaBoard.Codex.Quota
import QuotaBoard.Credential
import QuotaBoard.Fetch

/-!
# Fetching Codex usage

One call, made under the account that the credential's id token names.
-/

namespace QuotaBoard.Codex

/-- The headers of a call for an account. -/
def headers (account : String) : List (String × String) :=
  authorizedHeaders ++
    [("User-Agent", "codex_cli_rs/0.76.0 (Debian 13.0.0; x86_64) WindowsTerminal"),
      ("Chatgpt-Account-Id", account)]

/-- The request for the usage of an account. -/
def usageRequest (authIndex account url : String) : ApiRequest :=
  (ApiRequest.get authIndex url).withHeaders (headers account)

/-- The payload of a reply, or why it has none. -/
def payloadOf : Except FetchError ApiReply → Except FetchError Json
  | .error e => .error e
  | .ok reply =>
    if !reply.isSuccess then .error reply.statusError
    else match reply.body with
      | some payload => .ok payload
      | none => .error (.parse "Failed to parse Codex usage response")

/-- The plan for the quota of a credential, asked for at a URL. -/
def fetch (url : String) (c : Credential) : Fetch (Except FetchError Quota) :=
  match c.authIndex?, c.accountId? with
  | none, _ => .done (.error (.missing "auth index"))
  | _, none => .done (.error (.missing "ChatGPT account id"))
  | some authIndex, some account => .call (usageRequest authIndex account url) fun reply =>
    match payloadOf reply with
    | .error e => .done (.error e)
    | .ok payload => .clock fun now => .done (.ok (quotaOf payload c.planType? now))

end QuotaBoard.Codex
