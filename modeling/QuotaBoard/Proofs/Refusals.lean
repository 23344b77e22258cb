import QuotaBoard.Proofs.Fallback
import QuotaBoard.Proofs.FieldTexts
import QuotaBoard.Proofs.Requests
import QuotaBoard.Proofs.Results

/-!
# What is shown of a refusal

A vendor that does not give a quota says why, somewhere: in one of three fields of a JSON body, in a
text, or with no more than a status.  The message that is shown is the first of these that is of use
(`ApiReply.Message`), so there is always one, it is not blank, and there are no blanks around it.

The message and the status come to the slot unchanged, along with the errors of calls that were not
answered at all.  For a provider with one address that is a matter of the single answer
(`shows_of_result`).  A line of addresses ends with an error exactly when every answer is one
(`exists_error_iff`).  The answer that is reported then is the first refusal that settles the
matter, or else the last one, and of that one the same holds (`Antigravity.fetch_hears`).

What was answered is told by the exchanges on which a fetch ended (`Fetch.Hears`); that a pass
writes what its fetches end with is the invariant of passes.
-/

namespace QuotaBoard

/-! ## 1. The message of a reply -/

/-- What a JSON body says of an error: the message in its `error`, its `error`, or its `message`,
whichever is the first of use. -/
inductive BodySays (body : Json) (m : String) : Prop where
  | inner {error : Json} (herror : body.get? "error" = some error) (h : error.SaysAt "message" m)
  | error (hinner : ∀ error, body.get? "error" = some error → ∀ s, ¬ error.SaysAt "message" s)
      (h : body.SaysAt "error" m)
  | message (hinner : ∀ error, body.get? "error" = some error → ∀ s, ¬ error.SaysAt "message" s)
      (herror : ∀ s, ¬ body.SaysAt "error" s) (h : body.SaysAt "message" m)

/-- What a body says is the text of one of its fields. -/
theorem BodySays.says {body : Json} {m : String} (h : BodySays body m) :
    ∃ field : Json, field.Says m := by
  obtain ⟨-, field, -, h⟩ | ⟨-, field, -, h⟩ | ⟨-, -, field, -, h⟩ := h <;> exact ⟨field, h⟩

namespace ApiReply

/-- The keys of an error have one spelling. -/
theorem textAt?_eq_some_iff {key : String} (hkey : key ∈ ["error", "message"]) {v : Json}
    {s : String} : v.textAt? key = some s ↔ v.SaysAt key s := by
  have hspelling : ∀ key ∈ ["error", "message"], Json.camelCase key = key := by decide +kernel
  rw [Json.textAt?_eq_some_iff, Json.saysUnder_iff_of_camelCase_eq (hspelling key hkey)]

theorem bodyMessage?_eq_some_iff {body : Json} {m : String} :
    bodyMessage? body = some m ↔ BodySays body m := by
  have hmessage : ∀ {v : Json} {s}, v.textAt? "message" = some s ↔ v.SaysAt "message" s :=
    textAt?_eq_some_iff (by simp)
  have herror : ∀ {v : Json} {s}, v.textAt? "error" = some s ↔ v.SaysAt "error" s :=
    textAt?_eq_some_iff (by simp)
  have hinner : ∀ s, (body.get? "error").bind (·.textAt? "message") = some s ↔
      ∃ error, body.get? "error" = some error ∧ error.SaysAt "message" s := by
    intro s
    simp only [Option.bind_eq_some_iff, hmessage]
  have hnone : (body.get? "error").bind (·.textAt? "message") = none ↔
      ∀ error, body.get? "error" = some error → ∀ s, ¬ error.SaysAt "message" s := by
    simp only [Option.eq_none_iff_forall_ne_some, ne_eq, hinner]
    grind
  have hsilent : body.textAt? "error" = none ↔ ∀ s, ¬ body.SaysAt "error" s := by
    simp only [Option.eq_none_iff_forall_ne_some, ne_eq, herror]
  rw [bodyMessage?, Option.or_eq_some_iff, Option.or_eq_some_iff, hinner, hnone, hsilent, herror,
    hmessage]
  constructor
  · rintro (⟨error, hget, h⟩ | ⟨hinner, h | ⟨herror, h⟩⟩)
    · exact .inner hget h
    · exact .error hinner h
    · exact .message hinner herror h
  · rintro (⟨hget, h⟩ | ⟨hinner, h⟩ | ⟨hinner, herror, h⟩)
    · exact .inl ⟨_, hget, h⟩
    · exact .inr ⟨hinner, .inl h⟩
    · exact .inr ⟨hinner, .inr ⟨herror, h⟩⟩

/-- The message of a reply: what its JSON body says, or else its text without the blanks around it,
or else its status. -/
inductive Message (reply : ApiReply) (m : String) : Prop where
  | body {body : Json} (hbody : reply.body = some body) (h : BodySays body m)
  | text (hbody : ∀ body, reply.body = some body → ∀ s, ¬ BodySays body s)
      (hblank : ¬ Text.Blank reply.text) (h : m = Text.trim reply.text)
  | status (hbody : ∀ body, reply.body = some body → ∀ s, ¬ BodySays body s)
      (hblank : Text.Blank reply.text) (h : m = "HTTP " ++ toString reply.status.toNat)

/-- **The message of an error is the first text of use.** -/
theorem message_errorMessage (reply : ApiReply) : reply.Message reply.errorMessage := by
  cases hbody : reply.body.bind bodyMessage? with
  | some m =>
    obtain ⟨body, hsome, hm⟩ := Option.bind_eq_some_iff.mp hbody
    rw [errorMessage, hbody]
    exact .body hsome (bodyMessage?_eq_some_iff.mp hm)
  | none =>
    have hnone : ∀ body, reply.body = some body → ∀ s, ¬ BodySays body s := by
      intro body hsome s hsays
      rw [hsome, Option.bind_some, bodyMessage?_eq_some_iff.mpr hsays] at hbody
      cases hbody
    cases htext : Text.trimmed? reply.text with
    | some m =>
      obtain ⟨hblank, rfl⟩ := Text.trimmed?_eq_some_iff.mp htext
      rw [errorMessage, hbody, htext]
      exact .text hnone hblank rfl
    | none =>
      rw [errorMessage, hbody, htext]
      exact .status hnone (Text.trimmed?_eq_none_iff.mp htext) rfl

/-- The status in words is fit to be shown. -/
theorem trim_status (n : Nat) :
    Text.trim ("HTTP " ++ toString n) = "HTTP " ++ toString n ∧
      ¬ Text.Blank ("HTTP " ++ toString n) := by
  have hlist : ("HTTP " ++ toString n).toList = "HTTP ".toList ++ Nat.toDigits 10 n := by
    simp [toString]
  constructor
  · rw [Text.trim, hlist, Text.trimList_of_ends, ← hlist, String.ofList_toList]
    · intro c hc
      obtain rfl : 'H' = c := Option.some.inj hc
      decide
    · intro c hc
      rw [List.getLast?_append_of_ne_nil _ Nat.toDigits_ne_nil] at hc
      exact Text.isBlank_of_isDigit (Nat.isDigit_of_mem_toDigits (by decide) (by decide)
        (List.mem_of_getLast? hc))
  · intro hblank
    exact absurd (hblank 'H' (by simp)) (by decide)

/-- **A message is never blank and has no blanks around it.** -/
theorem Message.shown {reply : ApiReply} {m : String} (h : reply.Message m) :
    Text.trim m = m ∧ ¬ Text.Blank m := by
  obtain ⟨-, hsays⟩ | ⟨-, hblank, rfl⟩ | ⟨-, -, rfl⟩ := h
  · obtain ⟨field, hfield⟩ := hsays.says
    exact ⟨hfield.trim_eq, hfield.not_blank⟩
  · exact ⟨Text.trim_trim _, Text.not_blank_trim hblank⟩
  · exact trim_status _

end ApiReply

/-! ## 2. What a state shows of an answer -/

/-- A state shows what became of the call that decided it. -/
structure ShowsAnswer {α : Type} (answer : Except FetchError ApiReply) (state : QuotaState α) :
    Prop where
  /-- A reply that is no success is an error with its status and its message. -/
  refused : ∀ reply, answer = .ok reply → reply.status < 200 ∨ 300 ≤ reply.status →
    ∃ m, state = .error m (some reply.status) ∧ reply.Message m ∧ Text.trim m = m ∧ ¬ Text.Blank m
  /-- A call that failed is an error with the message and the status of the failure. -/
  lost : ∀ e : FetchError, answer = .error e → state = .error e.message e.status
  /-- A success that is not JSON is an error without a status. -/
  unread : ∀ reply, answer = .ok reply → 200 ≤ reply.status → reply.status < 300 →
    reply.body = none → ∃ m, state = .error m none

theorem ApiReply.isSuccess_iff {reply : ApiReply} :
    reply.isSuccess = true ↔ 200 ≤ reply.status ∧ reply.status < 300 := by
  simp [isSuccess]

theorem ApiReply.isSuccess_eq_false {reply : ApiReply}
    (h : reply.status < 200 ∨ 300 ≤ reply.status) : reply.isSuccess = false := by
  rw [Bool.eq_false_iff, ne_eq, isSuccess_iff, UInt16.le_iff_toNat_le, UInt16.lt_iff_toNat_lt]
  rw [UInt16.le_iff_toNat_le, UInt16.lt_iff_toNat_lt] at h
  omega

/-- A provider that reports its answers one by one. -/
theorem shows_of_result {α : Type} {answer : Except FetchError ApiReply}
    {result : Except FetchError α}
    (hrefused : ∀ reply, answer = .ok reply → reply.isSuccess = false →
      result = .error reply.statusError)
    (hlost : ∀ e, answer = .error e → result = .error e)
    (hunread : ∀ reply, answer = .ok reply → reply.isSuccess = true → reply.body = none →
      ∃ m, result = .error (.parse m)) : ShowsAnswer answer (QuotaState.ofResult result) where
  refused reply hreply hstatus := by
    have hmessage := reply.message_errorMessage
    refine ⟨reply.errorMessage, ?_, hmessage, hmessage.shown⟩
    rw [hrefused reply hreply (ApiReply.isSuccess_eq_false hstatus)]
    rfl
  lost e he := by
    rw [hlost e he]
    rfl
  unread reply hreply hlow hhigh hbody := by
    obtain ⟨m, hm⟩ := hunread reply hreply (ApiReply.isSuccess_iff.mpr ⟨hlow, hhigh⟩) hbody
    exact ⟨m, by rw [hm]; rfl⟩

variable {c : Credential} {heard : List Exchange}

/-- **A Codex credential shows its single answer.** -/
theorem Codex.fetch_hears {url : String} {result : Except FetchError Codex.Quota}
    (hcomplete : c.isComplete .codex = true) (h : (Codex.fetch url c).Hears result heard) :
    ∃ request answer, heard = [(request, answer)] ∧
      ShowsAnswer answer (QuotaState.ofResult result) := by
  obtain ⟨authIndex, account, hindex, haccount⟩ := Credential.isComplete_codex_iff.mp hcomplete
  simp only [Codex.fetch, hindex, haccount] at h
  obtain ⟨answer, rest, rfl, hrest⟩ := h
  have hresult : rest = [] ∧
      ∃ now, result = (payloadOf answer).map (quotaOf · c.planType? now) := by
    cases hpayload : payloadOf answer with
    | error e =>
      simp only [hpayload] at hrest
      exact ⟨hrest.2, 0, hrest.1⟩
    | ok payload =>
      simp only [hpayload] at hrest
      obtain ⟨now, hdone, hnone⟩ := hrest
      exact ⟨hnone, now, hdone⟩
  obtain ⟨rfl, now, rfl⟩ := hresult
  refine ⟨_, answer, rfl, shows_of_result ?_ ?_ ?_⟩
  · rintro reply rfl h
    simp [payloadOf, h, Except.map]
  · rintro e rfl
    rfl
  · rintro reply rfl h hbody
    exact ⟨_, by simp [payloadOf, h, hbody, Except.map]; rfl⟩

/-- **A Gemini CLI credential shows its single answer.** -/
theorem GeminiCli.fetch_hears {url : String} {result : Except FetchError GeminiCli.Quota}
    (hcomplete : c.isComplete .geminiCli = true) (h : (GeminiCli.fetch url c).Hears result heard) :
    ∃ request answer, heard = [(request, answer)] ∧
      ShowsAnswer answer (QuotaState.ofResult result) := by
  obtain ⟨authIndex, project, hindex, hproject⟩ := Credential.isComplete_geminiCli_iff.mp hcomplete
  simp only [GeminiCli.fetch, hindex, hproject] at h
  obtain ⟨answer, rest, rfl, rfl, rfl⟩ := h
  refine ⟨_, answer, rfl, shows_of_result ?_ ?_ ?_⟩
  · rintro reply rfl h
    simp [quotaOfReply, h]
  · rintro e rfl
    rfl
  · rintro reply rfl h hbody
    exact ⟨_, by simp [quotaOfReply, h, hbody]; rfl⟩

/-! ## 3. The answer that a line of addresses reports -/

namespace Antigravity

/-- An answer shows in the error that it says. -/
theorem Says.shows {α : Type} {answer : Answer} {e : FetchError} (h : Says answer (.failed e)) :
    ShowsAnswer answer (QuotaState.ofResult (.error e : Except FetchError α)) := by
  refine shows_of_result ?_ ?_ ?_
  · rintro reply rfl hsuccess
    rw [← judge_eq_iff] at h
    simp [judge, hsuccess] at h
    rw [h]
  · rintro e' rfl
    cases h
    rfl
  · rintro reply rfl hsuccess hbody
    rw [← judge_eq_iff] at h
    simp [judge, hsuccess, hbody] at h
    exact ⟨_, congrArg Except.error h.symm⟩

/-- What a line asks of its candidates, and what they say. -/
def exchanges (authIndex project : String) (candidates : List (String × Answer)) : List Exchange :=
  candidates.map fun x => (quotaRequest authIndex project x.1, x.2)

/-- An answer gave groups, and they are the result. -/
def Served (candidates : List (String × Answer)) (result : Except FetchError (List Group)) : Prop :=
  ∃ x ∈ candidates, ∃ found, Says x.2 (.groups found) ∧ result = .ok found

/-- A line that came to its end has asked all its addresses, none gave groups, and its result is the
verdict of its ledger. -/
structure Exhausts (ledger : Ledger) (urls : List String) (candidates : List (String × Answer))
    (result : Except FetchError (List Group)) : Prop where
  all : candidates.map (·.1) = urls
  noGroups : ∀ x ∈ candidates, ∀ found, ¬ Says x.2 (.groups found)
  verdict : (ledger.after (candidates.map (·.2))).verdict = result

/-- An answer with groups that is heard later is one that is heard. -/
theorem Served.cons {x : String × Answer} {candidates : List (String × Answer)}
    {result : Except FetchError (List Group)} (h : Served candidates result) :
    Served (x :: candidates) result := by
  obtain ⟨y, hy, found, hsays, hresult⟩ := h
  exact ⟨y, List.mem_cons_of_mem x hy, found, hsays, hresult⟩

/-- One more address without groups. -/
theorem Exhausts.cons {ledger : Ledger} {url : String} {urls : List String} {answer : Answer}
    {candidates : List (String × Answer)} {result : Except FetchError (List Group)}
    (hanswer : ∀ found, judge answer ≠ .groups found)
    (h : Exhausts (ledger.note (judge answer)) urls candidates result) :
    Exhausts ledger (url :: urls) ((url, answer) :: candidates) result where
  all := by rw [List.map_cons, h.all]
  noGroups := List.forall_mem_cons.mpr
    ⟨fun found hsays => hanswer found (judge_eq_iff.mpr hsays), h.noGroups⟩
  verdict := h.verdict

/-- **What a line of addresses hears**: the answers of the first of them, up to the one with groups
or of all. -/
theorem askQuota_hears {authIndex project : String} {ledger : Ledger} {urls : List String}
    {result : Except FetchError (List Group)}
    (h : (askQuota authIndex project ledger urls).Hears result heard) :
    ∃ candidates, heard = exchanges authIndex project candidates ∧
      candidates.map (·.1) <+: urls ∧
      (Served candidates result ∨ Exhausts ledger urls candidates result) := by
  induction urls generalizing ledger heard with
  | nil =>
    obtain ⟨rfl, rfl⟩ := h
    exact ⟨[], rfl, List.prefix_rfl, .inr ⟨rfl, by simp, rfl⟩⟩
  | cons url urls ih =>
    obtain ⟨answer, rest, rfl, hrest⟩ := h
    have hmore : (∀ found, judge answer ≠ .groups found) →
        (askQuota authIndex project (ledger.note (judge answer)) urls).Hears result rest →
        ∃ candidates, (quotaRequest authIndex project url, answer) :: rest =
            exchanges authIndex project candidates ∧
          candidates.map (·.1) <+: url :: urls ∧
          (Served candidates result ∨ Exhausts ledger (url :: urls) candidates result) := by
      intro hanswer hrest
      obtain ⟨candidates, rfl, hprefix, hends⟩ := ih hrest
      refine ⟨(url, answer) :: candidates, rfl, (List.prefix_cons_inj url).mpr hprefix, ?_⟩
      rcases hends with hserved | hexhausts
      · exact .inl hserved.cons
      · exact .inr (hexhausts.cons hanswer)
    cases hjudge : judge answer with
    | groups found =>
      simp only [hjudge] at hrest
      obtain ⟨rfl, rfl⟩ := hrest
      exact ⟨[(url, answer)], rfl, ⟨urls, rfl⟩,
        .inl ⟨(url, answer), by simp, found, judge_eq_iff.mp hjudge, rfl⟩⟩
    | noGroups =>
      simp only [hjudge] at hrest hmore
      exact hmore (by simp) hrest
    | failed e =>
      simp only [hjudge] at hrest hmore
      exact hmore (by simp) hrest

/-- **A line fails exactly when all its candidates do.** -/
theorem exists_error_iff {urls : List String} {candidates : List (String × Answer)}
    {result : Except FetchError (List Group)}
    (h : Served candidates result ∨ Exhausts {} urls candidates result) :
    (∃ e, result = .error e) ↔ AllFail candidates := by
  rcases h with ⟨x, hx, found, hsays, rfl⟩ | hexhausts
  · constructor
    · rintro ⟨e, he⟩
      cases he
    · intro hall
      obtain ⟨e, hfailed⟩ := hall x hx
      cases hsays.judge_eq.symm.trans hfailed.judge_eq
  · rw [← hexhausts.verdict]
    exact exists_verdict_error_iff hexhausts.noGroups

/-- A line of candidates that all fail has come to its end. -/
theorem AllFail.exhausts {urls : List String} {candidates : List (String × Answer)}
    {result : Except FetchError (List Group)} (hall : AllFail candidates)
    (h : Served candidates result ∨ Exhausts {} urls candidates result) :
    ∃ e, Exhausts {} urls candidates (.error e) ∧ result = .error e := by
  obtain ⟨e, rfl⟩ := (exists_error_iff h).mpr hall
  rcases h with ⟨-, -, found, -, hresult⟩ | hexhausts
  · cases hresult
  · exact ⟨e, hexhausts, rfl⟩

/-- What a line of addresses for the tier asks. -/
theorem askTier_hears {authIndex : String} {urls : List String} {result : Option String}
    (h : (askTier authIndex urls).Hears result heard) :
    ∀ x ∈ heard, ∃ url ∈ urls, x.1 = tierRequest authIndex url := by
  induction urls generalizing heard with
  | nil =>
    obtain ⟨-, rfl⟩ := h
    simp
  | cons url urls ih =>
    obtain ⟨answer, rest, rfl, hrest⟩ := h
    have hothers : ∀ x ∈ rest, ∃ url' ∈ url :: urls, x.1 = tierRequest authIndex url' := by
      cases htier : tierOfReply? answer with
      | some tier =>
        simp only [htier] at hrest
        obtain ⟨-, rfl⟩ := hrest
        simp
      | none =>
        simp only [htier] at hrest
        intro x hx
        obtain ⟨url', hurl, hx⟩ := ih hrest x hx
        exact ⟨url', List.mem_cons_of_mem url hurl, hx⟩
    exact List.forall_mem_cons.mpr ⟨⟨url, List.mem_cons_self, rfl⟩, hothers⟩

/-- What an Antigravity credential shows: what was asked are candidates for the quota, in the order
of their addresses, and addresses for the tier.  An error shows if no candidate gave groups or
answered in the right form, and only then; it is the answer of the candidate that is reported. -/
structure ShowsReported (s : Settings) (authIndex : String) (heard : List Exchange)
    (state : QuotaState Quota) (project : String) (candidates : List (String × Answer))
    (tiers : List Exchange) : Prop where
  asked : heard.Perm (exchanges authIndex project candidates ++ tiers)
  inOrder : candidates.map (·.1) <+: s.quotaUrls
  tierLine : ∀ x ∈ tiers, ∃ url ∈ s.tierUrls, x.1 = tierRequest authIndex url
  error_iff : (∃ m status, state = .error m status) ↔ AllFail candidates
  /-- No address is left out before an error. -/
  all : AllFail candidates → candidates.map (·.1) = s.quotaUrls
  reported : AllFail candidates → s.quotaUrls ≠ [] →
    ∃ x, Reported candidates x ∧ ShowsAnswer x.2 state

/-- The state of a result is an error if the result is. -/
theorem exists_error_ofResult_iff {α : Type} {result : Except FetchError α} :
    (∃ m status, QuotaState.ofResult result = .error m status) ↔ ∃ e, result = .error e := by
  cases result with
  | ok data => simp [QuotaState.ofResult]
  | error e => simp [QuotaState.ofResult]

/-- **An Antigravity credential shows the candidate that is reported.** -/
theorem fetch_hears {s : Settings} {authIndex : String} {result : Except FetchError Quota}
    (hindex : c.authIndex? = some authIndex) (h : (s.fetch c).Hears result heard) :
    ∃ project candidates tiers,
      ShowsReported s authIndex heard (QuotaState.ofResult result) project candidates tiers := by
  simp only [Settings.fetch, hindex] at h
  obtain ⟨content, groups, first, tier, tiers, mixed, rest, hquota, htier, hmixed, hdone, rfl⟩ := h
  obtain ⟨rfl, rfl⟩ := hdone
  obtain ⟨candidates, rfl, hprefix, hends⟩ := askQuota_hears hquota
  rw [List.append_nil]
  refine ⟨s.project content, candidates, tiers, hmixed, hprefix, askTier_hears htier, ?_, ?_, ?_⟩
  · rw [exists_error_ofResult_iff, ← exists_error_iff hends]
    cases groups <;> simp [Except.map]
  · intro hall
    obtain ⟨e, hexhausts, -⟩ := hall.exhausts hends
    exact hexhausts.all
  · intro hall hurls
    obtain ⟨e, hexhausts, rfl⟩ := hall.exhausts hends
    have hne : candidates ≠ [] := by
      rintro rfl
      exact hurls hexhausts.all.symm
    obtain ⟨x, hx, hsays⟩ := exists_reported hall hne hexhausts.verdict
    exact ⟨x, hx, hsays.shows⟩

end Antigravity

/-! ## 4. What a slot holds -/

/-- What the slot of a provider holds of a credential, after the exchanges of its fetch. -/
def Config.Shows (config : Config) (c : Credential) (heard : List Exchange) :
    (p : Provider) → QuotaState p.Quota → Prop
  | .antigravity, state => ∃ authIndex project candidates tiers, c.authIndex? = some authIndex ∧
    Antigravity.ShowsReported config.antigravitySettings authIndex heard state project candidates
      tiers
  | .codex, state => ∃ request answer, heard = [(request, answer)] ∧ ShowsAnswer answer state
  | .geminiCli, state => ∃ request answer, heard = [(request, answer)] ∧ ShowsAnswer answer state

theorem Config.shows_of_hears {config : Config} {p : Provider} {result : Except FetchError p.Quota}
    (hcomplete : c.isComplete p = true)
    (h : ((config.adapter p).fetch c).Hears result heard) :
    config.Shows c heard p (QuotaState.ofResult result) := by
  cases p with
  | antigravity =>
    obtain ⟨authIndex, hindex⟩ := Option.isSome_iff_exists.mp hcomplete
    obtain ⟨project, candidates, tiers, hshows⟩ := Antigravity.fetch_hears hindex h
    exact ⟨authIndex, project, candidates, tiers, hindex, hshows⟩
  | codex => exact Codex.fetch_hears hcomplete h
  | geminiCli => exact GeminiCli.fetch_hears hcomplete h

/-- **What is shown of a refusal.**  At every point of a pass, a credential with its identifiers
whose fetch has settled shows the answer that decided it: a reply that is no success with its status
and its message, a call that failed with its own message and status.  And the pass that is run takes
a course on which every fetch has settled after exchanges of its own. -/
theorem Config.pass_shows {σ : Type} (config : Config) (p : Provider) (listing : List Credential)
    (slot : Slot p.Quota) :
    (∀ pending before c result after ended,
      (config.adapter p).Underway listing slot pending (before ++ (c, result) :: after) ended →
      (∀ later ∈ after, later.1.name ≠ c.name) → c.isComplete p = true →
      ∀ heard, ((config.adapter p).fetch c).Hears result heard →
        ∃ state, ended.slot[c.name]? = some state ∧ config.Shows c heard p state) ∧
    ∀ (carrier : Carrier (StateM σ)) (w : σ), ∃ settled ended,
      (config.adapter p).Underway listing slot [] settled ended ∧
        (((config.adapter p).pass carrier listing slot).run w).1 = (ended.slot, ended.summary) ∧
        ∀ o ∈ settled, ∃ heard, ((config.adapter p).fetch o.1).Hears o.2 heard ∧
          ∀ x ∈ heard, carrier.Gives x := by
  refine ⟨?_, fun carrier w => (config.adapter p).pass_hears carrier listing slot w⟩
  intro pending before c result after ended h hlast hcomplete heard hheard
  exact ⟨_, h.tracks.latest before (c, result) after rfl hlast,
    Config.shows_of_hears hcomplete hheard⟩

/-- A refusal whose inner message is blank: the outer one is shown, with the status. -/
theorem Config.pass_shows_refused :
    let reply : ApiReply := .ofJson 503
      (.object [("error", .object [("message", .string " ")]), ("message", .string " busy\n")])
    let ended := ((Config.default.adapter .geminiCli).begin [.sampleGeminiCli] ∅).settle
      (.sampleGeminiCli, .error reply.statusError)
    ∃ m, ended.slot["g.json"]? = some (.error m (some 503)) ∧ reply.Message m ∧
      Text.trim m = m ∧ ¬ Text.Blank m := by
  intro reply ended
  have htargets : (Config.default.adapter .geminiCli).targets [.sampleGeminiCli] =
      [.sampleGeminiCli] := by
    rw [Config.targets_adapter, List.filter_cons_of_pos, List.filter_nil]
    exact decide_eq_true Credential.fetchedBy?_sampleGeminiCli
  have hbegun : (Config.default.adapter .geminiCli).Underway [.sampleGeminiCli] ∅
      ([] ++ .sampleGeminiCli :: []) []
      ((Config.default.adapter .geminiCli).begin [.sampleGeminiCli] ∅) := by
    have h : (Config.default.adapter .geminiCli).Underway [.sampleGeminiCli] ∅ _ [] _ := .begun
    rwa [htargets] at h
  have hindex : Credential.sampleGeminiCli.authIndex? = some "7" := by decide +kernel
  have hproject : Credential.sampleGeminiCli.projectId? = some "p" := by decide +kernel
  have hheard : (GeminiCli.fetch Config.default.endpoints.geminiCliQuotaUrl .sampleGeminiCli).Hears
      (.error reply.statusError)
      [(GeminiCli.quotaRequest "7" "p" Config.default.endpoints.geminiCliQuotaUrl, .ok reply)] := by
    simp only [GeminiCli.fetch, hindex, hproject]
    exact ⟨_, [], rfl, rfl, rfl⟩
  obtain ⟨state, hstate, request, answer, hexchange, hshows⟩ :=
    (Config.default.pass_shows (σ := Unit) .geminiCli _ ∅).1 _ [] _ _ [] _
      (hbegun.settled (.error reply.statusError)) (by simp) (by decide +kernel) _ hheard
  obtain ⟨-, rfl⟩ := Prod.mk.inj (List.singleton_inj.mp hexchange)
  obtain ⟨m, rfl, hm⟩ := hshows.refused reply rfl (.inr (by decide))
  exact ⟨m, hstate, hm⟩

end QuotaBoard
