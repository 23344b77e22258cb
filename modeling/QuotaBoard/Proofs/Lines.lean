import QuotaBoard.Proofs.Fallback
import QuotaBoard.Proofs.Interleaving

/-!
# The quota line and the tier line do not disturb each other

An Antigravity fetch goes through the addresses for the quota and through those for the tier at
once.  The replies to one line come in between those to the other, in any order.  This makes no
difference: each line asks the addresses that it would ask by itself, the quota line decides
whether the fetch succeeds and with which groups, and the tier line decides on the tier.

* `Tries` says which addresses a line asks: all up to the first whose reply settles the matter.
* `Answers.line_tries` is that a line does so, for any line that goes through its addresses.
-/

namespace QuotaBoard

/-! ## 1. Lines of addresses -/

/-- Which of some addresses are asked, and what they come to: one after the other, until the reply
to one of them settles the matter. -/
inductive Tries {β : Type} (settles : String → β → Prop) :
    List String → List String → Option β → Prop where
  | nil : Tries settles [] [] none
  | found {url : String} {b : β} (h : settles url b) (urls : List String) :
      Tries settles (url :: urls) [url] (some b)
  | next {url : String} {urls tried : List String} {found : Option β}
      (h : ∀ b, ¬ settles url b) (hrest : Tries settles urls tried found) :
      Tries settles (url :: urls) (url :: tried) found

/-- What is sent by a plan that has no parts. -/
def alone (requests : List ApiRequest) (part : List Side) : List ApiRequest :=
  if part = [] then requests else []

theorem alone_nil : alone [] = fun _ => [] := funext fun _ => ite_self _

/-- The outlook of a plan that makes a call, where every request is answered. -/
theorem Answers.outlook_call (x : Answers) {α : Type} (request : ApiRequest)
    (next : Except FetchError ApiReply → Fetch α) :
    x.world.outlook (.call request next) =
      ((x.world.outlook (next (x.call request))).before []).before [([], request)] := rfl

/-- Plans that come to rest at the same point have the same result. -/
theorem Answers.result_eq_of_rest_eq {x y : Answers} {α : Type} {plan plan' : Fetch α}
    (h : (x.world.outlook plan).rest = (y.world.outlook plan').rest) :
    x.result plan = y.result plan' := by
  rw [x.rest_outlook, y.rest_outlook] at h
  injection h with _ hdone
  injection hdone

/-- Answers that differ at most in the replies to some requests. -/
structure Answers.AgreesUpTo (x y : Answers) (exempt : ApiRequest → Prop) : Prop where
  tokenFile : y.tokenFile = x.tokenFile
  now : y.now = x.now
  call : ∀ request, ¬ exempt request → y.call request = x.call request

/-- **A line asks its addresses in order until one settles the matter.**  What it remembers of the
replies on the way makes no difference to that. -/
theorem Answers.line_tries (x : Answers) {μ α β : Type} (line : μ → List String → Fetch α)
    (ask : String → ApiRequest) (settles : String → β → Prop) (finish : β → α)
    (hnil : ∀ memory, ∃ result, line memory [] = .done result)
    (hfound : ∀ memory url urls b, settles url b →
      x.world.outlook (line memory (url :: urls)) =
        ((x.world.outlook (.done (finish b))).before []).before [([], ask url)])
    (hnext : ∀ memory url urls, (∀ b, ¬ settles url b) → ∃ memory',
      x.world.outlook (line memory (url :: urls)) =
        ((x.world.outlook (line memory' urls)).before []).before [([], ask url)])
    (memory : μ) (urls : List String) :
    ∃ tried found memory', Tries settles urls tried found ∧
      (x.world.outlook (line memory urls)).sends = alone (tried.map ask) ∧
      x.result (line memory urls) = (found.map finish).getD (x.result (line memory' [])) := by
  induction urls generalizing memory with
  | nil =>
    obtain ⟨result, hdone⟩ := hnil memory
    refine ⟨[], none, memory, .nil, ?_, rfl⟩
    rw [hdone, List.map_nil, alone_nil]
    rfl
  | cons url urls ih =>
    have hresult {plan : Fetch α} (h : x.world.outlook (line memory (url :: urls)) =
        ((x.world.outlook plan).before []).before [([], ask url)]) :
        x.result (line memory (url :: urls)) = x.result plan := by
      refine Answers.result_eq_of_rest_eq ?_
      rw [h]
      rfl
    have hsends {plan : Fetch α} {requests : List ApiRequest}
        (h : x.world.outlook (line memory (url :: urls)) =
          ((x.world.outlook plan).before []).before [([], ask url)])
        (hplan : (x.world.outlook plan).sends = alone requests) :
        (x.world.outlook (line memory (url :: urls))).sends = alone (ask url :: requests) := by
      funext part
      rw [h]
      simp only [Outlook.before, hplan, alone]
      by_cases hpart : part = []
      · subst hpart
        rfl
      · simp [hpart, sentBy, Ne.symm hpart]
    by_cases hsettles : ∃ b, settles url b
    · obtain ⟨b, hb⟩ := hsettles
      have hline := hfound memory url urls b hb
      exact ⟨[url], some b, memory, .found hb urls, hsends hline alone_nil.symm, hresult hline⟩
    · have hnone : ∀ b, ¬ settles url b := fun b hb => hsettles ⟨b, hb⟩
      obtain ⟨memory', hline⟩ := hnext memory url urls hnone
      obtain ⟨tried, found, last, htries, hrest, hend⟩ := ih memory'
      exact ⟨url :: tried, found, last, .next hnone htries, hsends hline hrest,
        (hresult hline).trans hend⟩

namespace Antigravity

/-! ## 2. The two lines -/

/-- A reply names a tier: it is a success, and its body has a paid tier with this id or, if it has
no paid one with an id, a current tier with this id. -/
inductive NamesTier : Answer → String → Prop where
  | paid {reply : ApiReply} {payload tier : Json} {id : String} (h : reply.isSuccess = true)
      (hbody : reply.body = some payload) (htier : payload.objectAt? "paid_tier" = some tier)
      (hid : tier.textAt? "id" = some id) : NamesTier (.ok reply) id
  | current {reply : ApiReply} {payload tier : Json} {id : String} (h : reply.isSuccess = true)
      (hbody : reply.body = some payload)
      (hpaid : ∀ paid, payload.objectAt? "paid_tier" = some paid → paid.textAt? "id" = none)
      (htier : payload.objectAt? "current_tier" = some tier) (hid : tier.textAt? "id" = some id) :
      NamesTier (.ok reply) id

theorem tierOfReply?_eq_some_iff {answer : Answer} {id : String} :
    tierOfReply? answer = some id ↔ NamesTier answer id := by
  constructor
  · intro h
    cases answer with
    | error e => cases h
    | ok reply =>
      cases hsuccess : reply.isSuccess with
      | false => simp [tierOfReply?, hsuccess] at h
      | true =>
        simp only [tierOfReply?, hsuccess, if_true, Option.bind_eq_some_iff] at h
        obtain ⟨payload, hbody, htier⟩ := h
        rw [tierOf?, Option.or_eq_some_iff] at htier
        rcases htier with hpaid | ⟨hpaid, hcurrent⟩
        · obtain ⟨tier, htier, hid⟩ := Option.bind_eq_some_iff.mp hpaid
          exact .paid hsuccess hbody htier hid
        · obtain ⟨tier, htier, hid⟩ := Option.bind_eq_some_iff.mp hcurrent
          exact .current hsuccess hbody (Option.bind_eq_none_iff.mp hpaid) htier hid
  · intro h
    cases h with
    | paid h hbody htier hid => simp [tierOfReply?, h, hbody, tierOf?, htier, hid]
    | current h hbody hpaid htier hid =>
      simp [tierOfReply?, h, hbody, tierOf?, Option.bind_eq_none_iff.mpr hpaid, htier, hid]

/-- The request asks for the tier on behalf of a credential. -/
def AsksTier (authIndex : String) (request : ApiRequest) : Prop :=
  ∃ url, request = tierRequest authIndex url

/-- The request asks for the quota on behalf of a credential. -/
def AsksQuota (authIndex : String) (request : ApiRequest) : Prop :=
  ∃ project url, request = quotaRequest authIndex project url

/-- A request for the quota is none for the tier. -/
theorem quotaRequest_ne_tierRequest (authIndex project url authIndex' url' : String) :
    quotaRequest authIndex project url ≠ tierRequest authIndex' url' := by
  intro h
  -- the bodies differ in their third character
  have hbody : some (Json.object [("project", .string project)]).text =
      (tierRequest authIndex' url').body := congrArg ApiRequest.body h
  have hchar := congrArg (fun body => body.bind fun text => text.toList[2]?) hbody
  have hquota : (Json.object [("project", .string project)]).text.toList[2]? = some 'p' := by
    rw [Json.text, String.toList_ofList]
    rfl
  have htier : (tierRequest authIndex' url').body.bind (fun text => text.toList[2]?) =
      some 'm' := by
    rfl
  simp only [htier, Option.bind_some, hquota] at hchar
  exact absurd hchar (by decide)

variable (x : Answers) (authIndex project : String)

/-- **The tier line asks its addresses until one names a tier**, and that is its result. -/
theorem askTier_tries (urls : List String) :
    ∃ tried tier,
      Tries (fun url => NamesTier (x.call (tierRequest authIndex url))) urls tried tier ∧
      (x.world.outlook (askTier authIndex urls)).sends =
        alone (tried.map (tierRequest authIndex)) ∧
      x.result (askTier authIndex urls) = tier := by
  have hfound : ∀ url urls tier, NamesTier (x.call (tierRequest authIndex url)) tier →
      x.world.outlook (askTier authIndex (url :: urls)) =
        ((x.world.outlook (.done (some tier))).before []).before
          [([], tierRequest authIndex url)] := by
    intro url urls tier htier
    rw [askTier, x.outlook_call, tierOfReply?_eq_some_iff.mpr htier]
  have hnext : ∀ url urls, (∀ tier, ¬ NamesTier (x.call (tierRequest authIndex url)) tier) →
      x.world.outlook (askTier authIndex (url :: urls)) =
        ((x.world.outlook (askTier authIndex urls)).before []).before
          [([], tierRequest authIndex url)] := by
    intro url urls hnone
    have htier : tierOfReply? (x.call (tierRequest authIndex url)) = none := by
      rw [Option.eq_none_iff_forall_ne_some]
      exact fun id h => hnone id (tierOfReply?_eq_some_iff.mp h)
    rw [askTier, x.outlook_call, htier]
  -- this line remembers nothing
  obtain ⟨tried, tier, _, htries, hsends, hresult⟩ :=
    x.line_tries (fun _ : Unit => askTier authIndex) (tierRequest authIndex) _ some
      (fun _ => ⟨none, rfl⟩) (fun _ => hfound) (fun _ url urls h => ⟨(), hnext url urls h⟩) () urls
  refine ⟨tried, tier, htries, hsends, hresult.trans ?_⟩
  cases tier <;> rfl

/-- **The quota line asks its addresses until one gives groups**, and these are its result. -/
theorem askQuota_tries (urls : List String) :
    ∃ asked found, Tries (fun url groups =>
        Says (x.call (quotaRequest authIndex project url)) (.groups groups)) urls asked found ∧
      (x.world.outlook (askQuota authIndex project {} urls)).sends =
        alone (asked.map (quotaRequest authIndex project)) ∧
      ∀ groups, found = some groups →
        x.result (askQuota authIndex project {} urls) = .ok groups := by
  have hfound : ∀ ledger url urls groups,
      Says (x.call (quotaRequest authIndex project url)) (.groups groups) →
      x.world.outlook (askQuota authIndex project ledger (url :: urls)) =
        ((x.world.outlook (.done (.ok groups))).before []).before
          [([], quotaRequest authIndex project url)] := by
    intro ledger url urls groups hgroups
    rw [askQuota, x.outlook_call, hgroups.judge_eq]
  have hnext : ∀ ledger url urls,
      (∀ groups, ¬ Says (x.call (quotaRequest authIndex project url)) (.groups groups)) →
      ∃ ledger', x.world.outlook (askQuota authIndex project ledger (url :: urls)) =
        ((x.world.outlook (askQuota authIndex project ledger' urls)).before []).before
          [([], quotaRequest authIndex project url)] := by
    intro ledger url urls hnone
    rw [askQuota, x.outlook_call]
    cases hsaid : judge (x.call (quotaRequest authIndex project url)) with
    | groups groups => exact absurd (judge_eq_iff.mp hsaid) (hnone groups)
    | noGroups => exact ⟨_, rfl⟩
    | failed e => exact ⟨_, rfl⟩
  obtain ⟨asked, found, ledger, htries, hsends, hresult⟩ :=
    x.line_tries (askQuota authIndex project) (quotaRequest authIndex project) _ .ok
      (fun ledger => ⟨ledger.verdict, rfl⟩) hfound hnext {} urls
  refine ⟨asked, found, htries, hsends, ?_⟩
  rintro groups rfl
  exact hresult

/-! ## 3. Each line by itself -/

variable {x} {y : Answers} {authIndex}

/-- The tier line takes notice of the replies to its own requests only. -/
theorem outlook_askTier_congr
    (h : ∀ url, y.call (tierRequest authIndex url) = x.call (tierRequest authIndex url))
    (urls : List String) :
    y.world.outlook (askTier authIndex urls) = x.world.outlook (askTier authIndex urls) := by
  induction urls with
  | nil => rfl
  | cons url urls ih =>
    rw [askTier, y.outlook_call, x.outlook_call, h]
    cases tierOfReply? (x.call (tierRequest authIndex url)) with
    | some tier => rfl
    | none => simp only [ih]

/-- The quota line takes notice of the replies to its own requests only. -/
theorem outlook_askQuota_congr (h : ∀ url,
      y.call (quotaRequest authIndex project url) = x.call (quotaRequest authIndex project url))
    (ledger : Ledger) (urls : List String) :
    y.world.outlook (askQuota authIndex project ledger urls) =
      x.world.outlook (askQuota authIndex project ledger urls) := by
  induction urls generalizing ledger with
  | nil => rfl
  | cons url urls ih =>
    rw [askQuota, y.outlook_call, x.outlook_call, h]
    cases judge (x.call (quotaRequest authIndex project url)) with
    | groups found => rfl
    | noGroups => simp only [ih]
    | failed e => simp only [ih]

/-- What is sent by the parts of a plan that are two lines. -/
def lanes (left right : List ApiRequest) : List Side → List ApiRequest
  | [] => []
  | .left :: part => alone left part
  | .right :: part => alone right part

section Fetch

variable {s : Settings} {c : Credential} (h : c.authIndex? = some authIndex)
include h

/-- The result of a fetch is made of those of the two lines. -/
theorem result_fetch (x : Answers) :
    x.result (s.fetch c) =
      (x.result (askQuota authIndex (s.project (x.tokenFile c.name)) {} s.quotaUrls)).map
        fun groups => ⟨groups, x.result (askTier authIndex s.tierUrls)⟩ := by
  rw [Settings.fetch, h]
  rfl

/-- **However the lines take turns, each sends what it sends by itself.** -/
theorem fetch_comesTo {asked tried : List ApiRequest}
    (hquota : (x.world.outlook
      (askQuota authIndex (s.project (x.tokenFile c.name)) {} s.quotaUrls)).sends = alone asked)
    (htier : (x.world.outlook (askTier authIndex s.tierUrls)).sends = alone tried) :
    (s.fetch c).ComesTo x.world (x.result (s.fetch c)) (lanes asked tried) := by
  have hsends : (x.world.outlook (s.fetch c)).sends = lanes asked tried := by
    funext part
    rw [Settings.fetch, h]
    simp only [World.outlook, Outlook.before, Outlook.join, x.rest_outlook, Progress.result?,
      Outlook.still, sentBy_nil, List.nil_append, List.append_nil]
    rcases part with _ | ⟨_ | _, part⟩
    · rfl
    · exact (List.append_nil _).trans (congrFun hquota part)
    · exact congrFun htier part
  rw [← hsends]
  exact x.comesTo (s.fetch c)

/-- **The quota line is all that counts for success, groups and errors.** -/
theorem fetch_of_agreesUpTo_tier {asked : List ApiRequest}
    (hquota : (x.world.outlook
      (askQuota authIndex (s.project (x.tokenFile c.name)) {} s.quotaUrls)).sends = alone asked)
    (hy : x.AgreesUpTo y (AsksTier authIndex)) :
    (y.result (s.fetch c)).map Quota.groups = (x.result (s.fetch c)).map Quota.groups ∧
      ∃ tried, (s.fetch c).ComesTo y.world (y.result (s.fetch c)) (lanes asked tried) := by
  let project := s.project (x.tokenFile c.name)
  have hsame : y.world.outlook (askQuota authIndex project {} s.quotaUrls) =
      x.world.outlook (askQuota authIndex project {} s.quotaUrls) :=
    outlook_askQuota_congr project (fun url => hy.call _ fun ⟨url', heq⟩ =>
      quotaRequest_ne_tierRequest authIndex project url authIndex url' heq) {} s.quotaUrls
  constructor
  · rw [result_fetch h y, result_fetch h x, hy.tokenFile,
      Answers.result_eq_of_rest_eq (congrArg Outlook.rest hsame)]
    cases x.result (askQuota authIndex project {} s.quotaUrls) <;> rfl
  · obtain ⟨tried, -, -, htier, -⟩ := askTier_tries y authIndex s.tierUrls
    refine ⟨_, fetch_comesTo h ?_ htier⟩
    rw [hy.tokenFile]
    exact (congrArg Outlook.sends hsame).trans hquota

/-- A quota has the tier of its tier line. -/
theorem tier_of_result_fetch {quota : Quota} (hquota : x.result (s.fetch c) = .ok quota) :
    quota.subscriptionTier = x.result (askTier authIndex s.tierUrls) := by
  rw [result_fetch h x] at hquota
  cases hline : x.result (askQuota authIndex (s.project (x.tokenFile c.name)) {} s.quotaUrls) with
  | error e =>
    rw [hline] at hquota
    cases hquota
  | ok groups =>
    rw [hline] at hquota
    cases hquota
    rfl

/-- **The tier line is all that counts for the tier.** -/
theorem fetch_of_agreesUpTo_quota {tried : List ApiRequest}
    (htier : (x.world.outlook (askTier authIndex s.tierUrls)).sends = alone tried)
    (hy : x.AgreesUpTo y (AsksQuota authIndex)) :
    (∀ quota, y.result (s.fetch c) = .ok quota →
        quota.subscriptionTier = x.result (askTier authIndex s.tierUrls)) ∧
      ∃ asked, (s.fetch c).ComesTo y.world (y.result (s.fetch c)) (lanes asked tried) := by
  have hsame : y.world.outlook (askTier authIndex s.tierUrls) =
      x.world.outlook (askTier authIndex s.tierUrls) :=
    outlook_askTier_congr (fun url => hy.call _ fun ⟨project, url', heq⟩ =>
      quotaRequest_ne_tierRequest authIndex project url' authIndex url heq.symm) s.tierUrls
  constructor
  · intro quota hquota
    rw [tier_of_result_fetch h hquota]
    exact Answers.result_eq_of_rest_eq (congrArg Outlook.rest hsame)
  · obtain ⟨asked, -, -, hquota, -⟩ := askQuota_tries y authIndex
      (s.project (y.tokenFile c.name)) s.quotaUrls
    exact ⟨_, fetch_comesTo h hquota ((congrArg Outlook.sends hsame).trans htier)⟩

end Fetch

/-! ## 4. Summary -/

/-- **The two lines take turns in any order, and it makes no difference.**  There is one result, and
each line asks what it asks by itself.  The quota line is all that counts for success, groups and
errors, whatever is said to the tier line, and the tier line is all that counts for the tier,
whatever is said to the quota line. -/
theorem fetch_takes_turns (s : Settings) {c : Credential} {authIndex : String}
    (h : c.authIndex? = some authIndex) (x : Answers) :
    let project := s.project (x.tokenFile c.name)
    ∃ asked found tried tier,
      Tries (fun url groups => Says (x.call (quotaRequest authIndex project url)) (.groups groups))
        s.quotaUrls asked found ∧
      Tries (fun url => NamesTier (x.call (tierRequest authIndex url))) s.tierUrls tried tier ∧
      (s.fetch c).ComesTo x.world (x.result (s.fetch c))
        (lanes (asked.map (quotaRequest authIndex project)) (tried.map (tierRequest authIndex))) ∧
      (∀ groups, found = some groups → x.result (s.fetch c) = .ok ⟨groups, tier⟩) ∧
      (∀ quota, x.result (s.fetch c) = .ok quota → quota.subscriptionTier = tier) ∧
      (∀ y : Answers, x.AgreesUpTo y (AsksTier authIndex) →
        (y.result (s.fetch c)).map Quota.groups = (x.result (s.fetch c)).map Quota.groups ∧
        ∃ tried', (s.fetch c).ComesTo y.world (y.result (s.fetch c))
          (lanes (asked.map (quotaRequest authIndex project)) tried')) ∧
      (∀ y : Answers, x.AgreesUpTo y (AsksQuota authIndex) →
        (∀ quota, y.result (s.fetch c) = .ok quota → quota.subscriptionTier = tier) ∧
        ∃ asked', (s.fetch c).ComesTo y.world (y.result (s.fetch c))
          (lanes asked' (tried.map (tierRequest authIndex)))) := by
  intro project
  obtain ⟨asked, found, hasked, hquota, hfound⟩ := askQuota_tries x authIndex project s.quotaUrls
  obtain ⟨tried, tier, htried, htier, rfl⟩ := askTier_tries x authIndex s.tierUrls
  refine ⟨asked, found, tried, _, hasked, htried, fetch_comesTo h hquota htier, ?_,
    fun quota => tier_of_result_fetch h, fun y => fetch_of_agreesUpTo_tier h hquota,
    fun y => fetch_of_agreesUpTo_quota h htier⟩
  intro groups hsome
  rw [result_fetch h x, hfound groups hsome]
  rfl

/-- The quota line has one address, and it is busy; of the three for the tier the second one names a
paid tier.  The third one is not asked, and with any replies to the quota line the tier is the
same. -/
theorem fetch_takes_turns_paid :
    let s : Settings := ⟨["https://a"], ["https://b", "https://c", "https://d"], "p"⟩
    let c := { Credential.sampleGeminiCli with provider := "antigravity" }
    let busy : ApiReply := ⟨500, none, "busy"⟩
    let paid : ApiReply :=
      .ofJson 200 (.object [("paidTier", .object [("id", .string "g1-pro-tier")])])
    let x : Answers :=
      ⟨fun request => .ok (if request.url = "https://c" then paid else busy), fun _ => none, 0⟩
    (s.fetch c).ComesTo x.world (.error busy.statusError)
        (lanes [quotaRequest "7" "p" "https://a"]
          [tierRequest "7" "https://b", tierRequest "7" "https://c"]) ∧
      ∀ y : Answers, x.AgreesUpTo y (AsksQuota "7") →
        ∀ quota, y.result (s.fetch c) = .ok quota →
          quota.subscriptionTier = some "g1-pro-tier" := by
  intro s c busy paid x
  have hindex : c.authIndex? = some "7" := by decide +kernel
  have hpaid : NamesTier (x.call (tierRequest "7" "https://c")) "g1-pro-tier" :=
    tierOfReply?_eq_some_iff.mp (by decide +kernel)
  have hbusy : ∀ id, ¬ NamesTier (x.call (tierRequest "7" "https://b")) id := fun id h => by
    have hnone : tierOfReply? (x.call (tierRequest "7" "https://b")) = none := by decide +kernel
    rw [tierOfReply?_eq_some_iff.mpr h] at hnone
    cases hnone
  have hrefused : ∀ groups,
      ¬ Says (x.call (quotaRequest "7" "p" "https://a")) (.groups groups) := fun groups h => by
    have hsays : Says (x.call (quotaRequest "7" "p" "https://a")) (.failed busy.statusError) :=
      .refused rfl
    exact absurd (h.judge_eq.symm.trans hsays.judge_eq) (by simp)
  obtain ⟨asked, found, tried, tier, hasked, htried, hcomes, -, -, -, hquota⟩ :=
    fetch_takes_turns s hindex x
  have hask : asked = ["https://a"] ∧ found = none := by
    cases hasked with
    | found h => exact absurd h (hrefused _)
    | next _ hrest => cases hrest; exact ⟨rfl, rfl⟩
  have htry : tried = ["https://b", "https://c"] ∧ tier = some "g1-pro-tier" := by
    cases htried with
    | found h => exact absurd h (hbusy _)
    | next _ hrest =>
      cases hrest with
      | found h =>
        refine ⟨rfl, ?_⟩
        rw [← tierOfReply?_eq_some_iff.mpr h, tierOfReply?_eq_some_iff.mpr hpaid]
      | next hnone => exact absurd hpaid (hnone _)
  obtain ⟨rfl, rfl⟩ := hask
  obtain ⟨rfl, rfl⟩ := htry
  have hresult : x.result (s.fetch c) = .error busy.statusError := by
    rw [result_fetch hindex]
    rfl
  exact ⟨hresult ▸ hcomes, fun y hy => (hquota y hy).1⟩

end Antigravity

end QuotaBoard
