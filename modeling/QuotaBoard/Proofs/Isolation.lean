import QuotaBoard.Proofs.Requests
import QuotaBoard.Proofs.Results

/-!
# What is shown of a credential depends on that credential alone

Other credentials are fetched in the same pass, at the same time and by the same means, and their
vendors may be slow, refuse or send nonsense.  None of it shows in the state of a credential whose
name is its own: that state is made of its fetch, and its fetch reads its own record, its own token
file, the clock, and the replies to its own requests.

* `Answers` is a world as one fetch sees it, and `Answers.result` is what a plan ends with in it.
* `Fetch.ReadsOnly` says whose token file a plan reads; no fetch reads that of another credential
  (`Config.fetch_readsOnly`).
* `Fetch.run_eq_result` carries a plan from a world in which other things happen, too, to the world
  that it sees.
-/

namespace QuotaBoard

variable {σ τ α : Type}

/-! ## 1. A plan in a world that it can rely on -/

/-- A world as one fetch sees it: a reply for each request, a content for each token file, and what
the clock shows. -/
structure Answers where
  call : ApiRequest → Except FetchError ApiReply
  tokenFile : String → Option String
  now : Int

/-- Who answers so. -/
def Answers.carrier (x : Answers) : Carrier Id where
  call := x.call
  tokenFile := x.tokenFile
  clock := x.now

/-- What a plan ends with when it is answered so. -/
def Answers.result (x : Answers) (plan : Fetch α) : α := (plan.run x.carrier).run

/-- The plan reads no token file but one. -/
def Fetch.ReadsOnly (name : String) {α : Type} : Fetch α → Prop
  | done _ => True
  | call _ next => ∀ reply, (next reply).ReadsOnly name
  | tokenFile other next => other = name ∧ ∀ content, (next content).ReadsOnly name
  | clock next => ∀ now, (next now).ReadsOnly name
  | both left right next =>
    left.ReadsOnly name ∧ right.ReadsOnly name ∧ ∀ a b, (next a b).ReadsOnly name

/-- What a plan ends with is the end of one of its courses. -/
theorem Answers.exists_course (x : Answers) {α : Type} (plan : Fetch α) :
    ∃ sent, plan.Course x.tokenFile (x.result plan) sent := by
  induction plan with
  | done result => exact ⟨[], rfl, rfl⟩
  | call request next ih =>
    obtain ⟨sent, hsent⟩ := ih (x.call request)
    exact ⟨request :: sent, x.call request, sent, rfl, hsent⟩
  | tokenFile name next ih =>
    obtain ⟨sent, hsent⟩ := ih (x.tokenFile name)
    exact ⟨sent, hsent⟩
  | clock next ih =>
    obtain ⟨sent, hsent⟩ := ih x.now
    exact ⟨sent, x.now, hsent⟩
  | both left right next ihleft ihright ihnext =>
    obtain ⟨first, hleft⟩ := ihleft
    obtain ⟨second, hright⟩ := ihright
    obtain ⟨rest, hrest⟩ := ihnext (x.result left) (x.result right)
    exact ⟨(first ++ second) ++ rest, x.result left, first, x.result right, second,
      first ++ second, rest, hleft, hright, .rfl, hrest, rfl⟩

/-- **Only what a plan asks matters to it.**  A world that gives these answers to the requests that
the plan can make, to the token file that it reads and to a look at the clock makes it end as they
do, whatever it answers to anything else and whatever state it is in. -/
theorem Fetch.run_eq_result {x : Answers} {carrier : Carrier (StateM σ)} {name : String}
    (hfile : ∀ w, ((carrier.tokenFile name).run w).1 = x.tokenFile name)
    (hclock : ∀ w, (carrier.clock.run w).1 = x.now) {α : Type} {plan : Fetch α}
    (hreads : plan.ReadsOnly name)
    (hcalls : ∀ result sent, plan.Course x.tokenFile result sent → ∀ request ∈ sent,
      ∀ w, ((carrier.call request).run w).1 = x.call request) (w : σ) :
    ((plan.run carrier).run w).1 = x.result plan := by
  induction plan generalizing w with
  | done result => rfl
  | call request next ih =>
    obtain ⟨sent, hsent⟩ := x.exists_course (next (x.call request))
    have hreply : ((carrier.call request).run w).1 = x.call request :=
      hcalls _ (request :: sent) ⟨x.call request, sent, rfl, hsent⟩ request List.mem_cons_self w
    rw [run_call, hreply]
    refine ih _ (hreads _) (fun result sent hcourse other hother => ?_) _
    exact hcalls result (request :: sent) ⟨x.call request, sent, rfl, hcourse⟩ other
      (List.mem_cons_of_mem request hother)
  | tokenFile other next ih =>
    obtain ⟨rfl, hnext⟩ := hreads
    rw [run_tokenFile, hfile w]
    exact ih _ (hnext _) hcalls _
  | clock next ih =>
    rw [run_clock, hclock w]
    exact ih _ (hreads _) (fun result sent hcourse => hcalls result sent ⟨x.now, hcourse⟩) _
  | both left right next ihleft ihright ihnext =>
    obtain ⟨hleft, hright, hnext⟩ := hreads
    obtain ⟨first, hfirst⟩ := x.exists_course left
    obtain ⟨second, hsecond⟩ := x.exists_course right
    -- a course of one part is part of a course of the whole
    have hmixed : ∀ {a first b second result rest}, left.Course x.tokenFile a first →
        right.Course x.tokenFile b second → (next a b).Course x.tokenFile result rest →
        ∀ request, request ∈ first ∨ request ∈ second ∨ request ∈ rest →
          ∀ w, ((carrier.call request).run w).1 = x.call request := by
      intro a first b second result rest ha hb hresult request hrequest
      refine hcalls result ((first ++ second) ++ rest)
        ⟨a, first, b, second, first ++ second, rest, ha, hb, .rfl, hresult, rfl⟩ request ?_
      simpa [or_assoc] using hrequest
    have hone : ∀ w, ((left.run carrier).run w).1 = x.result left := by
      refine fun w => ihleft hleft (fun a sent ha request hrequest => ?_) w
      obtain ⟨rest, hrest⟩ := x.exists_course (next a (x.result right))
      exact hmixed ha hsecond hrest request (.inl hrequest)
    have htwo : ∀ w, ((right.run carrier).run w).1 = x.result right := by
      refine fun w => ihright hright (fun b sent hb request hrequest => ?_) w
      obtain ⟨rest, hrest⟩ := x.exists_course (next (x.result left) b)
      exact hmixed hfirst hb hrest request (.inr (.inl hrequest))
    change (((next ((left.run carrier).run w).1
      ((right.run carrier).run ((left.run carrier).run w).2).1).run carrier).run _).1 = _
    rw [hone, htwo]
    refine ihnext _ _ (hnext _ _) (fun result rest hrest request hrequest => ?_) _
    exact hmixed hfirst hsecond hrest request (.inr (.inr hrequest))

/-! ## 2. What the fetch of a credential reads -/

namespace Antigravity

theorem askQuota_readsOnly (name authIndex project : String) (ledger : Ledger)
    (urls : List String) : (askQuota authIndex project ledger urls).ReadsOnly name := by
  induction urls generalizing ledger with
  | nil => exact trivial
  | cons url urls ih =>
    intro reply
    dsimp only
    split
    · exact trivial
    · exact ih _
    · exact ih _

theorem askTier_readsOnly (name authIndex : String) (urls : List String) :
    (askTier authIndex urls).ReadsOnly name := by
  induction urls with
  | nil => exact trivial
  | cons url urls ih =>
    intro reply
    dsimp only
    split
    · exact trivial
    · exact ih

theorem fetch_readsOnly (s : Settings) (c : Credential) : (s.fetch c).ReadsOnly c.name := by
  unfold Settings.fetch
  split
  · exact trivial
  · exact ⟨rfl, fun content =>
      ⟨askQuota_readsOnly _ _ _ _ _, askTier_readsOnly _ _ _, fun _ _ => trivial⟩⟩

end Antigravity

/-- **No fetch reads the token file of another credential.** -/
theorem Config.fetch_readsOnly (config : Config) (p : Provider) (c : Credential) :
    ((config.adapter p).fetch c).ReadsOnly c.name := by
  cases p with
  | antigravity => exact Antigravity.fetch_readsOnly config.antigravitySettings c
  | codex =>
    change (Codex.fetch config.endpoints.codexUsageUrl c).ReadsOnly c.name
    unfold Codex.fetch
    split
    · exact trivial
    · exact trivial
    · intro reply
      dsimp only
      split
      · exact trivial
      · exact fun now => trivial
  | geminiCli =>
    change (GeminiCli.fetch config.endpoints.geminiCliQuotaUrl c).ReadsOnly c.name
    unfold GeminiCli.fetch
    split
    · exact trivial
    · exact trivial
    · exact fun reply => trivial

/-! ## 3. What the pass shows of it -/

/-- The credential is one of the targets of a listing, and no other target has its name. -/
def Adapter.Alone (a : Adapter α) (c : Credential) (listing : List Credential) : Prop :=
  c ∈ a.targets listing ∧ ∀ other ∈ a.targets listing, other.name = c.name → other = c

/-- The world gives the fetch of a credential these answers: to every request that this fetch can
make, for the token file of the credential, and on the clock.  Of what else is asked in this world,
and of what is answered to it, nothing is said. -/
structure Carrier.GivesTo (carrier : Carrier (StateM σ)) (a : Adapter α) (c : Credential)
    (x : Answers) : Prop where
  call : ∀ sent, a.CanSend x.tokenFile c sent → ∀ request ∈ sent,
    ∀ w, ((carrier.call request).run w).1 = x.call request
  tokenFile : ∀ w, ((carrier.tokenFile c.name).run w).1 = x.tokenFile c.name
  clock : ∀ w, (carrier.clock.run w).1 = x.now

/-- The state in which the fetch of a credential leaves it, in a world that gives these answers. -/
def Adapter.stateIn (a : Adapter α) (x : Answers) (c : Credential) : QuotaState α :=
  .ofResult (x.result (a.fetch c))

/-- **On any course, a credential of its own name ends in the state of its own fetch.**  All other
fetches may have settled before it or after it, with any results. -/
theorem Adapter.Underway.getElem?_of_alone {a : Adapter α} {listing : List Credential}
    {slot : Slot α} {settled : List (Outcome α)} {p : Pass α} {c : Credential} {x : Answers}
    (h : a.Underway listing slot [] settled p) (halone : a.Alone c listing)
    (hown : ∀ o ∈ settled, o.1 = c → o.2 = x.result (a.fetch c)) :
    p.slot[c.name]? = some (a.stateIn x c) := by
  obtain ⟨hc, honly⟩ := halone
  have hperm : (settled.map (·.1)).Perm (a.targets listing) := by simpa using h.perm
  have hsettled : ∃ o ∈ settled, o.1.name = c.name := by
    obtain ⟨o, ho, hoc⟩ := List.mem_map.mp (hperm.symm.subset hc)
    exact ⟨o, ho, congrArg Credential.name hoc⟩
  obtain ⟨before, o, after, hsplit, hname, hafter⟩ := exists_last_of_name hsettled
  have ho : o ∈ settled := by simp [hsplit]
  have hoc : o.1 = c := honly o.1 (hperm.subset (List.mem_map_of_mem ho)) hname
  have hshown : p.slot[o.1.name]? = some (.ofResult o.2) :=
    h.tracks.latest before o after hsplit (by simpa [hname] using hafter)
  rw [hown o ho hoc, hname] at hshown
  exact hshown

/-- **A pass that is run ends on such a course.** -/
theorem Config.getElem?_pass_of_alone (config : Config) {p : Provider} {c : Credential}
    {x : Answers} {carrier : Carrier (StateM σ)} (hx : carrier.GivesTo (config.adapter p) c x)
    {listing : List Credential} (halone : (config.adapter p).Alone c listing)
    (slot : Slot p.Quota) (w : σ) :
    ((((config.adapter p).pass carrier listing slot).run w).1.1)[c.name]? =
      some ((config.adapter p).stateIn x c) := by
  obtain ⟨settled, ended, hunderway, hended, hresults⟩ :=
    (config.adapter p).pass_settled carrier listing slot w
  rw [hended]
  refine hunderway.getElem?_of_alone halone fun o ho hoc => ?_
  obtain ⟨w', hresult⟩ := hresults o ho
  rw [hresult, hoc]
  exact Fetch.run_eq_result hx.tokenFile hx.clock (config.fetch_readsOnly p c)
    (fun result sent hcourse => hx.call sent ⟨result, hcourse⟩) w'

/-! ## 4. Two passes -/

/-- **Two passes that give a credential the same answers leave it in the same state.**  Both are
passes of one provider under one configuration, and the name of the credential is its own in both
listings; what else is listed, what was on the board, what is answered to the fetches of others and
when each fetch settles may differ in any way.  The worlds have to agree on what is answered to the
requests that the fetch of this credential can make, on its token file and on the clock, for
example because both answer each request by a function of the request and the two functions agree
on these.  The state is the result of a fetch, and it is the one on every course of a pass on which
this fetch has that result, in whatever order the fetches settle. -/
theorem Config.pass_isolated (config : Config) {p : Provider} {c : Credential} {x : Answers}
    {one : Carrier (StateM σ)} {two : Carrier (StateM τ)}
    (hone : one.GivesTo (config.adapter p) c x) (htwo : two.GivesTo (config.adapter p) c x)
    {first second : List Credential} (hfirst : (config.adapter p).Alone c first)
    (hsecond : (config.adapter p).Alone c second) (before before' : Slot p.Quota)
    (w : σ) (w' : τ) :
    ∃ state : QuotaState p.Quota, state.isSettled = true ∧
      ((((config.adapter p).pass one first before).run w).1.1)[c.name]? = some state ∧
      ((((config.adapter p).pass two second before').run w').1.1)[c.name]? = some state ∧
      ∀ listing slot settled ended,
        (config.adapter p).Underway listing slot [] settled ended →
        (config.adapter p).Alone c listing →
        (∀ o ∈ settled, o.1 = c → o.2 = x.result ((config.adapter p).fetch c)) →
        ended.slot[c.name]? = some state := by
  refine ⟨(config.adapter p).stateIn x c, QuotaState.isSettled_ofResult _,
    config.getElem?_pass_of_alone hone hfirst before w,
    config.getElem?_pass_of_alone htwo hsecond before' w', ?_⟩
  intro listing slot settled ended hunderway halone hown
  exact hunderway.getElem?_of_alone halone hown

/-- Another credential is listed before this one in the second pass, the calls for it break off, the
world counts what it is asked, and the fetch that was begun first settles last: this makes no
difference. -/
theorem Config.pass_isolated_refused :
    let c := Credential.sampleGeminiCli
    let other : Credential := { c with name := "h.json", authIndex := some "8" }
    let refused : ApiReply := ⟨500, none, "backend unavailable"⟩
    let one : Carrier (StateM Unit) :=
      ⟨fun _ => pure (.ok refused), fun _ => pure none, pure 0, false, fun _ => 0⟩
    let two : Carrier (StateM Nat) :=
      ⟨fun request calls =>
        (if request.authIndex = "7" then .ok refused else .error (.transport "reset" none), calls + 1),
        fun _ => pure none, pure 0, false, fun position => 1 - position⟩
    ∃ state : QuotaState Provider.geminiCli.Quota, state.isSettled = true ∧
      ((((Config.default.adapter .geminiCli).pass one [c] ∅).run ()).1.1)[c.name]? = some state ∧
      ((((Config.default.adapter .geminiCli).pass two [other, c] ∅).run 3).1.1)[c.name]? =
        some state := by
  intro c other refused one two
  let x : Answers := ⟨fun _ => .ok refused, fun _ => none, 0⟩
  have hindex : c.authIndex? = some "7" := by decide +kernel
  have hone : one.GivesTo (Config.default.adapter .geminiCli) c x :=
    ⟨fun _ _ _ _ _ => rfl, fun _ => rfl, fun _ => rfl⟩
  have htwo : two.GivesTo (Config.default.adapter .geminiCli) c x := by
    refine ⟨fun sent hsent request hrequest w => ?_, fun _ => rfl, fun _ => rfl⟩
    have hown := ((Config.serves hsent).own request hrequest).1
    have hseven : request.authIndex = "7" := (Option.some.inj (hindex.symm.trans hown)).symm
    exact if_pos hseven
  have hc : (Config.default.adapter .geminiCli).accepts c = true := by decide +kernel
  have hother : (Config.default.adapter .geminiCli).accepts other = true := by decide +kernel
  have hfirst : (Config.default.adapter .geminiCli).Alone c [c] := by
    refine ⟨by simp [Adapter.targets, hc], fun member hmember _ => ?_⟩
    simpa [Adapter.targets, hc] using hmember
  have hsecond : (Config.default.adapter .geminiCli).Alone c [other, c] := by
    refine ⟨by simp [Adapter.targets, hc, hother], fun member hmember hname => ?_⟩
    have hmember' : member = other ∨ member = c := by
      simpa [Adapter.targets, hc, hother] using hmember
    rcases hmember' with rfl | rfl
    · exact absurd hname (by decide)
    · rfl
  obtain ⟨state, hsettled, hstate, hstate', -⟩ :=
    Config.default.pass_isolated hone htwo hfirst hsecond ∅ ∅ () 3
  exact ⟨state, hsettled, hstate, hstate'⟩

end QuotaBoard
