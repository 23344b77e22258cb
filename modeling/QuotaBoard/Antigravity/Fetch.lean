import QuotaBoard.Antigravity.Quota
import QuotaBoard.Credential
import QuotaBoard.Fetch

/-!
# Fetching Antigravity quotas

The vendor has several addresses for the quota and for the subscription tier, tried in order.
The two lines run at once and do not look at each other: the quota line decides whether the
fetch succeeds, the tier is added if it can be had.
-/

namespace QuotaBoard.Antigravity

/-- The headers of a call. -/
def headers : List (String × String) :=
  authorizedHeaders ++ [("User-Agent", "antigravity/1.11.5 windows/amd64")]

/-! ## The quota line -/

/-- What one address had to say. -/
inductive Candidate where
  | groups (found : List Group)
  /-- An answer of the right form without any group. -/
  | noGroups
  | failed (error : FetchError)

/-- What a reply from one address says. -/
def judge : Except FetchError ApiReply → Candidate
  | .error e => .failed e
  | .ok reply =>
    if !reply.isSuccess then .failed reply.statusError
    else match reply.body with
      | none => .failed (.parse "Failed to parse Antigravity quota response")
      | some payload =>
        match (payload.objectAt? "models").bind Json.members? with
        | none => .failed (.emptyPayload "No models in Antigravity quota response")
        | some models =>
          match groupsOf models with
          | [] => .noGroups
          | found => .groups found

/-- What is remembered of the addresses that gave no groups. -/
structure Ledger where
  /-- Whether one of them answered in the right form. -/
  answered : Bool := false
  /-- The first error with which the vendor settled the matter. -/
  definitive : Option FetchError := none
  /-- The error of the last one that failed. -/
  last : Option FetchError := none

/-- The ledger after one more failure. -/
def Ledger.record (l : Ledger) (e : FetchError) : Ledger :=
  { l with
    definitive := l.definitive.or (if e.isDefinitive then some e else none)
    last := some e }

/-- What the quota line ends with when no address gave groups. -/
def Ledger.verdict (l : Ledger) : Except FetchError (List Group) :=
  if l.answered then .ok []
  else .error ((l.definitive.or l.last).getD
    (.configuration "No Antigravity quota endpoints configured"))

/-- The request for the quota from one address. -/
def quotaRequest (authIndex project url : String) : ApiRequest :=
  (ApiRequest.post authIndex url (.object [("project", .string project)])).withHeaders headers

/-- The quota line: the addresses in order until one gives groups. -/
def askQuota (authIndex project : String) (ledger : Ledger) :
    List String → Fetch (Except FetchError (List Group))
  | [] => .done ledger.verdict
  | url :: urls => .call (quotaRequest authIndex project url) fun reply =>
    match judge reply with
    | .groups found => .done (.ok found)
    | .noGroups => askQuota authIndex project { ledger with answered := true } urls
    | .failed e => askQuota authIndex project (ledger.record e) urls

/-! ## The tier line -/

/-- The request for the tier from one address. -/
def tierRequest (authIndex url : String) : ApiRequest :=
  (ApiRequest.post authIndex url (.object [("metadata", .object
    [("ideType", .string "ANTIGRAVITY"), ("platform", .string "PLATFORM_UNSPECIFIED"),
      ("pluginType", .string "GEMINI")])])).withHeaders headers

/-- The tier that a reply names. -/
def tierOfReply? : Except FetchError ApiReply → Option String
  | .error _ => none
  | .ok reply => if reply.isSuccess then reply.body.bind tierOf? else none

/-- The tier line: the addresses in order until one names a tier. -/
def askTier (authIndex : String) : List String → Fetch (Option String)
  | [] => .done none
  | url :: urls => .call (tierRequest authIndex url) fun reply =>
    match tierOfReply? reply with
    | some tier => .done (some tier)
    | none => askTier authIndex urls

/-! ## Both -/

/-- Where Antigravity quotas are asked for. -/
structure Settings where
  quotaUrls : List String
  tierUrls : List String
  /-- The project of credentials whose token file names none. -/
  defaultProject : String

/-- The project that a call is made for, from the content of the token file. -/
def Settings.project (s : Settings) (content : Option String) : String :=
  (content.bind projectOfTokenFile?).getD s.defaultProject

/-- The plan for the quota of a credential. -/
def Settings.fetch (s : Settings) (c : Credential) : Fetch (Except FetchError Quota) :=
  match c.authIndex? with
  | none => .done (.error (.missing "auth index"))
  | some authIndex => .tokenFile c.name fun content =>
    .both (askQuota authIndex (s.project content) {} s.quotaUrls) (askTier authIndex s.tierUrls)
      fun groups tier => .done (groups.map fun groups => ⟨groups, tier⟩)

end QuotaBoard.Antigravity
