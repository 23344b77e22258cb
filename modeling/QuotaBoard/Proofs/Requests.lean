import QuotaBoard.Proofs.Courses
import QuotaBoard.Proofs.Projects

/-!
# No request on behalf of anybody else

A request bears the index of a credential and the identifiers of its account or project.  If those
of two credentials were mixed up, one account would be asked about the quota of another; and a
request for a credential that is disabled should not be made at all.

`Config.AsksFor` says what a request on behalf of a credential is.  All requests of a refresh are
of this kind, and a credential that lacks an identifier is reported without any request.
-/

namespace QuotaBoard

/-! ## 1. Requests on behalf of a credential -/

namespace Config

/-- The addresses of a provider. -/
def urls (config : Config) : Provider → List String
  | .antigravity =>
    config.endpoints.antigravityQuotaUrls ++ config.endpoints.antigravityTierUrls
  | .codex => [config.endpoints.codexUsageUrl]
  | .geminiCli => [config.endpoints.geminiCliQuotaUrl]

/-- The identifiers in a request are those of a credential: the project that its token file names
or else the default one, except where only the tier is asked for; its account; its project. -/
def Identifies (config : Config) (files : String → Option String) (c : Credential)
    (request : ApiRequest) : Provider → Prop
  | .antigravity =>
    (request.url ∈ config.endpoints.antigravityQuotaUrls ∧
      ∃ project, config.antigravitySettings.CallsFor (files c.name) project ∧
        request.body = some (Json.object [("project", .string project)]).text) ∨
    (request.url ∈ config.endpoints.antigravityTierUrls ∧
      request.body = (Antigravity.tierRequest request.authIndex request.url).body)
  | .codex =>
    request.body = none ∧
      ∀ account, ("Chatgpt-Account-Id", account) ∈ request.headers ↔ c.accountId? = some account
  | .geminiCli =>
    ∃ project, c.projectId? = some project ∧
      request.body = some (Json.object [("project", .string project)]).text

/-- The request is one that a provider may be asked on behalf of a credential. -/
structure AsksFor (config : Config) (files : String → Option String) (c : Credential)
    (p : Provider) (request : ApiRequest) : Prop where
  fetched : c.fetchedBy? = some p
  enabled : c.disabled = false
  stored : c.runtimeOnly = true → p = .geminiCli ∧ c.projectId?.isSome = true
  authIndex : c.authIndex? = some request.authIndex
  url : request.url ∈ config.urls p
  identifiers : config.Identifies files c request p

end Config

/-- Whether a credential has the identifiers without which its provider is not asked. -/
def Credential.isComplete (c : Credential) : Provider → Bool
  | .antigravity => c.authIndex?.isSome
  | .codex => c.authIndex?.isSome && c.accountId?.isSome
  | .geminiCli => c.authIndex?.isSome && c.projectId?.isSome

theorem Credential.isComplete_codex_iff {c : Credential} :
    c.isComplete .codex = true ↔
      ∃ authIndex account, c.authIndex? = some authIndex ∧ c.accountId? = some account := by
  simp only [isComplete, Bool.and_eq_true, Option.isSome_iff_exists, exists_and_left,
    exists_and_right]

theorem Credential.isComplete_geminiCli_iff {c : Credential} :
    c.isComplete .geminiCli = true ↔
      ∃ authIndex project, c.authIndex? = some authIndex ∧ c.projectId? = some project := by
  simp only [isComplete, Bool.and_eq_true, Option.isSome_iff_exists, exists_and_left,
    exists_and_right]

theorem Credential.stored_of_isFetchedBy {c : Credential} {p : Provider}
    (h : c.isFetchedBy p = true) (hr : c.runtimeOnly = true) :
    p = .geminiCli ∧ c.projectId?.isSome = true := by
  cases p with
  | antigravity =>
    rw [isFetchedBy_antigravity, isStored, hr, Bool.not_true, Bool.and_false] at h
    cases h
  | codex =>
    rw [isFetchedBy_codex, isStored, hr, Bool.not_true, Bool.and_false] at h
    cases h
  | geminiCli =>
    rw [isFetchedBy_geminiCli, hr, Bool.not_true, Bool.false_or, Bool.and_eq_true] at h
    exact ⟨rfl, h.2⟩

/-! ## 2. What each provider is asked -/

/-- The requests of a fetch are all on behalf of its credential, and there is one if nothing is
missing. -/
structure Config.Serves (config : Config) (files : String → Option String) (c : Credential)
    (p : Provider) (sent : List ApiRequest) : Prop where
  own : ∀ request ∈ sent, c.authIndex? = some request.authIndex ∧
    request.url ∈ config.urls p ∧ config.Identifies files c request p
  ne_nil : c.isComplete p = true → config.urls p ≠ [] → sent ≠ []

/-- A fetch without requests serves a credential that lacks an identifier. -/
theorem Config.Serves.nil {config : Config} {files : String → Option String} {c : Credential}
    {p : Provider} (h : c.isComplete p = false) : config.Serves files c p [] where
  own _ hr := by cases hr
  ne_nil hcomplete := by
    rw [h] at hcomplete
    cases hcomplete

variable {σ : Type} {files : String → Option String} {c : Credential} {sent : List ApiRequest}

/-- **A line of addresses asks only its addresses.**  A plan that goes through a list asks for the
first address in any case, and then it is done or goes through the others, whatever it remembers
of the reply. -/
theorem line_course {μ α : Type} (line : μ → List String → Fetch α) {ask : String → ApiRequest}
    (hnil : ∀ {memory result sent}, (line memory []).Course files result sent → sent = [])
    (hcons : ∀ {memory url urls result sent}, (line memory (url :: urls)).Course files result sent →
      ∃ rest, sent = ask url :: rest ∧
        (rest = [] ∨ ∃ memory', (line memory' urls).Course files result rest))
    (memory : μ) {urls : List String} {result : α}
    (h : (line memory urls).Course files result sent) :
    (∀ request ∈ sent, ∃ url ∈ urls, request = ask url) ∧ (urls ≠ [] → sent ≠ []) := by
  induction urls generalizing memory sent with
  | nil =>
    obtain rfl := hnil h
    simp
  | cons url urls ih =>
    obtain ⟨rest, rfl, hrest⟩ := hcons h
    have hothers : ∀ request ∈ rest, ∃ url' ∈ urls, request = ask url' := by
      rcases hrest with rfl | ⟨memory', hrest⟩
      · simp
      · exact (ih memory' hrest).1
    refine ⟨fun request hr => ?_, fun _ => List.cons_ne_nil _ _⟩
    rcases List.mem_cons.mp hr with rfl | hr
    · exact ⟨url, List.mem_cons_self, rfl⟩
    · obtain ⟨url', hurl, heq⟩ := hothers request hr
      exact ⟨url', List.mem_cons_of_mem url hurl, heq⟩

namespace Antigravity

/-- The quota line asks its addresses, each with the same project. -/
theorem askQuota_course {authIndex project : String} {ledger : Ledger} {urls : List String}
    {result : Except FetchError (List Group)}
    (h : (askQuota authIndex project ledger urls).Course files result sent) :
    (∀ request ∈ sent, ∃ url ∈ urls, request = quotaRequest authIndex project url) ∧
      (urls ≠ [] → sent ≠ []) := by
  refine line_course (askQuota authIndex project) (fun h => h.2) ?_ ledger h
  rintro ledger url urls result _ ⟨reply, rest, rfl, hrest⟩
  refine ⟨rest, rfl, ?_⟩
  cases hjudge : judge reply with
  | groups found =>
    simp only [hjudge] at hrest
    exact .inl hrest.2
  | noGroups =>
    simp only [hjudge] at hrest
    exact .inr ⟨_, hrest⟩
  | failed e =>
    simp only [hjudge] at hrest
    exact .inr ⟨_, hrest⟩

/-- The tier line asks its addresses. -/
theorem askTier_course {authIndex : String} {urls : List String} {result : Option String}
    (h : (askTier authIndex urls).Course files result sent) :
    (∀ request ∈ sent, ∃ url ∈ urls, request = tierRequest authIndex url) ∧
      (urls ≠ [] → sent ≠ []) := by
  -- this line remembers nothing
  refine line_course (fun _ : Unit => askTier authIndex) (fun h => h.2) ?_ () h
  rintro _ url urls result _ ⟨reply, rest, rfl, hrest⟩
  refine ⟨rest, rfl, ?_⟩
  cases htier : tierOfReply? reply with
  | some tier =>
    simp only [htier] at hrest
    exact .inl hrest.2
  | none =>
    simp only [htier] at hrest
    exact .inr ⟨(), hrest⟩

/-- **Both lines ask on behalf of the credential.** -/
theorem fetch_course {config : Config} {authIndex : String} {result : Except FetchError Quota}
    (hindex : c.authIndex? = some authIndex)
    (h : (config.antigravitySettings.fetch c).Course files result sent) :
    config.Serves files c .antigravity sent := by
  simp only [Settings.fetch, hindex] at h
  obtain ⟨groups, first, tier, second, mixed, rest, hquota, htier, hmixed, ⟨-, rfl⟩, rfl⟩ := h
  have hasked := askQuota_course hquota
  have htiers := askTier_course htier
  rw [List.append_nil]
  constructor
  · intro request hr
    rcases List.mem_append.mp (hmixed.subset hr) with hr | hr
    · obtain ⟨url, hurl, rfl⟩ := hasked.1 request hr
      exact ⟨hindex, List.mem_append_left _ hurl, .inl
        ⟨hurl, _, Settings.project_eq_iff.mp rfl, rfl⟩⟩
    · obtain ⟨url, hurl, rfl⟩ := htiers.1 request hr
      exact ⟨hindex, List.mem_append_right _ hurl, .inr ⟨hurl, rfl⟩⟩
  · rintro - hurls rfl
    have hnone := List.append_eq_nil_iff.mp hmixed.nil_eq.symm
    refine hurls (List.append_eq_nil_iff.mpr ⟨?_, ?_⟩)
    · exact Classical.byContradiction fun hquotas => hasked.2 hquotas hnone.1
    · exact Classical.byContradiction fun htierUrls => htiers.2 htierUrls hnone.2

end Antigravity

/-- The headers name the account, and nobody else. -/
theorem Codex.usageRequest_headers (authIndex account url : String) :
    (Codex.usageRequest authIndex account url).headers =
      [("Authorization", "Bearer $TOKEN$"), ("Chatgpt-Account-Id", account),
        ("Content-Type", "application/json"),
        ("User-Agent", "codex_cli_rs/0.76.0 (Debian 13.0.0; x86_64) WindowsTerminal")] := by
  rfl

theorem Codex.fetch_course {config : Config} {authIndex account : String}
    {result : Except FetchError Codex.Quota} (hindex : c.authIndex? = some authIndex)
    (haccount : c.accountId? = some account)
    (h : (Codex.fetch config.endpoints.codexUsageUrl c).Course files result sent) :
    config.Serves files c .codex sent := by
  simp only [Codex.fetch, hindex, haccount] at h
  obtain ⟨reply, rest, rfl, hrest⟩ := h
  obtain rfl : rest = [] := by
    cases hpayload : payloadOf reply with
    | error e =>
      simp only [hpayload] at hrest
      exact hrest.2
    | ok payload =>
      simp only [hpayload] at hrest
      obtain ⟨now, -, hnone⟩ := hrest
      exact hnone
  refine ⟨fun request hr => ?_, fun _ _ => List.cons_ne_nil _ _⟩
  obtain rfl := List.mem_singleton.mp hr
  refine ⟨hindex, List.mem_cons_self, rfl, fun v => ?_⟩
  rw [Codex.usageRequest_headers, haccount]
  simp [eq_comm]

theorem GeminiCli.fetch_course {config : Config} {authIndex project : String}
    {result : Except FetchError GeminiCli.Quota} (hindex : c.authIndex? = some authIndex)
    (hproject : c.projectId? = some project)
    (h : (GeminiCli.fetch config.endpoints.geminiCliQuotaUrl c).Course files result sent) :
    config.Serves files c .geminiCli sent := by
  simp only [GeminiCli.fetch, hindex, hproject] at h
  obtain ⟨reply, rest, rfl, -, rfl⟩ := h
  refine ⟨fun request hr => ?_, fun _ _ => List.cons_ne_nil _ _⟩
  obtain rfl := List.mem_singleton.mp hr
  exact ⟨hindex, List.mem_cons_self, project, hproject, rfl⟩

/-- **Without its identifiers a credential is not asked about.** -/
theorem Config.fetch_of_not_isComplete (config : Config) {p : Provider}
    (h : c.isComplete p = false) :
    ∃ e : FetchError, e.isConfiguration = true ∧ (config.adapter p).fetch c = .done (.error e) := by
  cases p with
  | antigravity =>
    have hindex : c.authIndex? = none := by simpa [Credential.isComplete] using h
    refine ⟨.missing "auth index", rfl, ?_⟩
    change config.antigravitySettings.fetch c = _
    simp only [Antigravity.Settings.fetch, hindex]
  | codex =>
    change ∃ e : FetchError, _ ∧ Codex.fetch config.endpoints.codexUsageUrl c = _
    cases hindex : c.authIndex? with
    | none => exact ⟨.missing "auth index", rfl, by simp only [Codex.fetch, hindex]⟩
    | some authIndex =>
      have haccount : c.accountId? = none := by simpa [Credential.isComplete, hindex] using h
      exact ⟨.missing "ChatGPT account id", rfl, by simp only [Codex.fetch, hindex, haccount]⟩
  | geminiCli =>
    change ∃ e : FetchError, _ ∧ GeminiCli.fetch config.endpoints.geminiCliQuotaUrl c = _
    cases hindex : c.authIndex? with
    | none => exact ⟨.missing "auth index", rfl, by simp only [GeminiCli.fetch, hindex]⟩
    | some authIndex =>
      have hproject : c.projectId? = none := by simpa [Credential.isComplete, hindex] using h
      exact ⟨.missing "project id", rfl, by simp only [GeminiCli.fetch, hindex, hproject]⟩

/-- **Whatever is sent for a credential is sent on its behalf.**  And something is, if it has its
identifiers and its provider has an address. -/
theorem Config.serves {config : Config} {p : Provider}
    (h : (config.adapter p).CanSend files c sent) : config.Serves files c p sent := by
  obtain ⟨result, hcourse⟩ := h
  cases hcomplete : c.isComplete p with
  | false =>
    obtain ⟨e, -, hdone⟩ := config.fetch_of_not_isComplete hcomplete
    rw [hdone] at hcourse
    obtain ⟨-, rfl⟩ := hcourse
    exact .nil hcomplete
  | true =>
    cases p with
    | antigravity =>
      obtain ⟨authIndex, hindex⟩ := Option.isSome_iff_exists.mp hcomplete
      exact Antigravity.fetch_course hindex hcourse
    | codex =>
      obtain ⟨authIndex, account, hindex, haccount⟩ := Credential.isComplete_codex_iff.mp hcomplete
      exact Codex.fetch_course hindex haccount hcourse
    | geminiCli =>
      obtain ⟨authIndex, project, hindex, hproject⟩ :=
        Credential.isComplete_geminiCli_iff.mp hcomplete
      exact GeminiCli.fetch_course hindex hproject hcourse

/-! ## 3. A whole refresh -/

theorem Config.asksFor {config : Config} {p : Provider} (hp : c.fetchedBy? = some p)
    (h : (config.adapter p).CanSend files c sent) {request : ApiRequest} (hr : request ∈ sent) :
    config.AsksFor files c p request := by
  have hfetched := Credential.fetchedBy?_eq_some_iff.mp hp
  obtain ⟨hindex, hurl, hidentifiers⟩ := (Config.serves h).own request hr
  exact ⟨hp, Credential.not_disabled_of_isFetchedBy hfetched,
    Credential.stored_of_isFetchedBy hfetched, hindex, hurl, hidentifiers⟩

/-- The targets of a provider are the credentials that it is the one to fetch. -/
theorem Config.targets_adapter (config : Config) (p : Provider) (listing : List Credential) :
    (config.adapter p).targets listing = listing.filter fun c => c.fetchedBy? = some p := by
  rw [Adapter.targets, Config.accepts_adapter]
  refine List.filter_congr fun c _ => ?_
  rw [Bool.eq_iff_iff, decide_eq_true_iff, Credential.fetchedBy?_eq_some_iff]

/-- Each credential that is fetched is counted for one provider. -/
theorem length_fetchedBy (listing : List Credential) :
    (listing.filter fun c => c.fetchedBy? = some .antigravity).length +
        (listing.filter fun c => c.fetchedBy? = some .codex).length +
        (listing.filter fun c => c.fetchedBy? = some .geminiCli).length =
      (listing.filter (·.fetchedBy?.isSome)).length := by
  induction listing with
  | nil => rfl
  | cons c rest ih =>
    cases hc : c.fetchedBy? with
    | none => simpa [hc] using ih
    | some p => cases p <;> simp [hc] <;> omega

/-- **Every request of a refresh is on behalf of a credential that is fetched.**  Whatever is
listed and whatever is answered, each request is one that the provider of a listed credential may
be asked on its behalf, with its index, at one of the provider's addresses, and with its own
identifiers; and this holds of each single fetch, in whatever order the fetches go on.  The fetch
of a credential that lacks an identifier ends with an error and without a request, and for every
other one there is a request if its provider has an address.  The report counts the credentials
that each provider fetches. -/
theorem Board.refresh_requests (b : Board) (service : Service (StateM σ)) (force : Bool)
    (files : String → Option String) (listing : List Credential) (w : σ)
    (hfiles : ∀ name w, ((service.tokenFile name).run w).1 = files name)
    (hlisted : (service.credentials.run w).1 = .ok listing) :
    ∃ report sent, ((b.refresh service.recording force).run (w, [])).1.1 = .ok report ∧
      ((b.refresh service.recording force).run (w, [])).2.2 = sent ∧
      (∀ request ∈ sent, ∃ c ∈ listing, ∃ p, b.config.AsksFor files c p request) ∧
      (∀ c ∈ listing, ∀ p, c.fetchedBy? = some p →
        (∀ own, (b.config.adapter p).CanSend files c own →
          ∀ request ∈ own, b.config.AsksFor files c p request) ∧
        (c.isComplete p = false → ∃ e : FetchError, e.isConfiguration = true ∧
          ∀ (carrier : Carrier (StateM σ)) w sent,
            (((b.config.adapter p).fetch c).run carrier.recording).run (w, sent) =
              (.error e, (w, sent))) ∧
        (c.isComplete p = true → b.config.urls p ≠ [] →
          (∀ own, (b.config.adapter p).CanSend files c own → own ≠ []) ∧
          ∃ request ∈ sent, b.config.AsksFor files c p request)) ∧
      (∀ p, (report.summary p).dispatched =
        (listing.filter fun c => c.fetchedBy? = some p).length) ∧
      report.antigravity.dispatched + report.codex.dispatched + report.geminiCli.dispatched =
        (listing.filter (·.fetchedBy?.isSome)).length := by
  obtain ⟨report, hreport, hpasses⟩ :=
    b.refresh_pass service.recording force (w := (w, [])) hlisted
  obtain ⟨shares, hsent, hshares⟩ := Board.refresh_sends hfiles b force hlisted []
  have hdispatched : ∀ p, (report.summary p).dispatched =
      (listing.filter fun c => c.fetchedBy? = some p).length := by
    intro p
    obtain ⟨w', hpass⟩ := hpasses p
    obtain ⟨settled, ended, hunderway, hended⟩ := (b.config.adapter p).pass_underway
      service.recording.toCarrier listing (b.store.slot p) w'
    have hsummary : report.summary p = ended.summary :=
      congrArg Prod.snd (hpass.trans hended)
    rw [← b.config.targets_adapter, ← hunderway.tracks.dispatched, hsummary]
  refine ⟨report, _, hreport, hsent, ?_, ?_, hdispatched, ?_⟩
  · intro request hr
    obtain ⟨p, -, hshare⟩ := List.mem_flatMap.mp hr
    obtain ⟨c, hc, own, hown, hmem⟩ := (hshares p).exists_item hshare
    rw [b.config.targets_adapter, List.mem_filter, decide_eq_true_iff] at hc
    exact ⟨c, hc.1, p, Config.asksFor hc.2 hown hmem⟩
  · intro c hc p hp
    refine ⟨fun own hown request hr => Config.asksFor hp hown hr, ?_, ?_⟩
    · intro hincomplete
      obtain ⟨e, he, hdone⟩ := b.config.fetch_of_not_isComplete hincomplete
      exact ⟨e, he, fun carrier w sent => by rw [hdone, Fetch.run_done]⟩
    · intro hcomplete hurls
      refine ⟨fun own hown => (Config.serves hown).ne_nil hcomplete hurls, ?_⟩
      have htarget : c ∈ (b.config.adapter p).targets listing := by
        rw [b.config.targets_adapter, List.mem_filter, decide_eq_true_iff]
        exact ⟨hc, hp⟩
      obtain ⟨own, hown, hmem⟩ := (hshares p).exists_share htarget
      obtain ⟨request, hr⟩ :=
        List.exists_mem_of_ne_nil own ((Config.serves hown).ne_nil hcomplete hurls)
      have hall : p ∈ Provider.all := by cases p <;> decide
      exact ⟨request, List.mem_flatMap.mpr ⟨p, hall, hmem request hr⟩,
        Config.asksFor hp hown hr⟩
  · rw [← length_fetchedBy, ← hdispatched .antigravity, ← hdispatched .codex,
      ← hdispatched .geminiCli]
    rfl

/-- A Gemini CLI credential that exists only in memory, with a project. -/
def Credential.sampleGeminiCli : Credential :=
  ⟨"g.json", "gemini-cli", some "7", false, true, .object [("project_id", .string "p")]⟩

theorem Credential.fetchedBy?_sampleGeminiCli : sampleGeminiCli.fetchedBy? = some .geminiCli := by
  have hof : sampleGeminiCli.isOf .geminiCli = true := by decide +kernel
  have hproject : sampleGeminiCli.projectId?.isSome = true := by decide +kernel
  rw [fetchedBy?_eq_some_iff, isFetchedBy_geminiCli, hof, hproject]
  rfl

/-- A Codex credential has no account and a Gemini CLI credential has its project: the first one
ends with an error, for the second one there is a request with its index, and both are counted. -/
theorem Board.refresh_requests_incomplete :
    let listing := [Credential.sampleCodex "a.json" (some "1") false, .sampleGeminiCli]
    let b : Board := { config := .default }
    let run := (b.refresh (scriptedListing (.ok listing)).recording false).run ([], [])
    ∃ report, run.1.1 = .ok report ∧
      (∃ request ∈ run.2.2, request.authIndex = "7") ∧
      (∃ e : FetchError, e.isConfiguration = true ∧
        (((b.config.adapter .codex).fetch (.sampleCodex "a.json" (some "1") false)).run
          scripted.recording).run ([], []) = (.error e, ([], []))) ∧
      report.codex.dispatched = 1 := by
  intro listing b run
  have hcodex : (Credential.sampleCodex "a.json" (some "1") false).fetchedBy? = some .codex := by
    rw [Credential.fetchedBy?_eq_some_iff, Credential.isFetchedBy_sampleCodex, Bool.not_false]
  have hgeminiCli := Credential.fetchedBy?_sampleGeminiCli
  obtain ⟨report, sent, hreport, hsent, -, hfetches, hdispatched, -⟩ :=
    b.refresh_requests (scriptedListing (.ok listing)) false (fun _ => none) listing []
      (fun _ _ => rfl) rfl
  refine ⟨report, hreport, ?_, ?_, ?_⟩
  · obtain ⟨-, request, hr, hasks⟩ := (hfetches .sampleGeminiCli (by simp [listing]) .geminiCli
      hgeminiCli).2.2 (by decide +kernel) (List.cons_ne_nil _ _)
    have hindex : Credential.sampleGeminiCli.authIndex? = some "7" := by decide +kernel
    refine ⟨request, hsent ▸ hr, ?_⟩
    exact (Option.some.inj (hindex.symm.trans hasks.authIndex)).symm
  · obtain ⟨e, he, hrun⟩ := (hfetches (.sampleCodex "a.json" (some "1") false)
      (by simp [listing]) .codex hcodex).2.1 (by decide +kernel)
    exact ⟨e, he, hrun scripted [] []⟩
  · have h := hdispatched .codex
    simpa [listing, hcodex, hgeminiCli, Report.summary] using h

end QuotaBoard
