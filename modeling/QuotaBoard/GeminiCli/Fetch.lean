import QuotaBoard.Credential
import QuotaBoard.Fetch
import QuotaBoard.GeminiCli.Quota

/-!
# Fetching Gemini CLI quotas

One call, made for the project of the credential.
-/

namespace QuotaBoard.GeminiCli

/-- The request for the quota of a project. -/
def quotaRequest (authIndex project url : String) : ApiRequest :=
  (ApiRequest.post authIndex url (.object [("project", .string project)])).withHeaders
    authorizedHeaders

/-- The quota of a reply, or why it has none. -/
def quotaOfReply : Except FetchError ApiReply → Except FetchError Quota
  | .error e => .error e
  | .ok reply =>
    if !reply.isSuccess then .error reply.statusError
    else match reply.body with
      | some payload => .ok (quotaOf payload)
      | none => .error (.parse "Failed to parse Gemini CLI quota response")

/-- The plan for the quota of a credential, asked for at a URL. -/
def fetch (url : String) (c : Credential) : Fetch (Except FetchError Quota) :=
  match c.authIndex?, c.projectId? with
  | none, _ => .done (.error (.missing "auth index"))
  | _, none => .done (.error (.missing "project id"))
  | some authIndex, some project => .call (quotaRequest authIndex project url) fun reply =>
    .done (quotaOfReply reply)

end QuotaBoard.GeminiCli
