import Mathlib.Data.List.Perm.Basic
import QuotaBoard.Config.Layers
import QuotaBoard.Proofs.Passes
import QuotaBoard.Proofs.Requests
import QuotaBoard.Proofs.Summaries

/-!
# All requests of a refresh go out at once

A refresh is made and no request is answered, so it goes on until nothing can go on any more.  Then
every fetch has sent what it opens with: no credential waits for the reply to another one, and no
provider for another provider.  Where a refresh stands then does not depend on the order in which
its passes went on.

* `Adapter.Course` is where a pass can be that nobody disturbs, in a world that does not change.
* `Adapter.Course.rests` is what it has come to once it only waits: each fetch is where it comes to
  rest by itself.
* `Config.opening` are the requests with which a fetch opens, and `Config.rest_fetch` is that it
  rests there.
* `Scene.Refreshing.outstanding_perm` and `Scene.Refreshing.slot_at_rest` put the passes together.
-/

namespace QuotaBoard

/-! ## 1. A pass that nobody disturbs -/

/-- What the slot shows of a fetch that stands still. -/
def Progress.state {α : Type} (p : Progress (Except FetchError α)) : QuotaState α :=
  match p.result? with
  | some result => .ofResult result
  | none => .loading

/-- Where the fetch of a credential comes to rest in a world that does not change. -/
def Adapter.rest {α : Type} (a : Adapter α) (x : World) (c : Credential) :
    Progress (Except FetchError α) := (x.outlook (a.fetch c)).rest

/-- Where a pass over a listing can be, from an old slot, in a world that does not change. -/
inductive Adapter.Course {α : Type} (a : Adapter α) (x : World) (listing : List Credential)
    (old : Slot α) : Stage α × Slot α → Prop where
  | listed : a.Course x listing old (.listed (a.targets listing), old)
  | marking {marked unmarked : List Credential} (h : marked ++ unmarked = a.targets listing) :
      a.Course x listing old (.marking marked unmarked,
        (marked.map (·.name)).foldl Slot.markLoading
          (old.retain ((a.targets listing).map (·.name))))
  | fetching {settled : List (Outcome α)} {fetches : List (Begun α)} {p : Pass α}
      (h : a.Underway listing old (fetches.map (·.1)) settled p)
      (hfetches : ∀ fetch ∈ fetches,
        (x.foresee fetch.2).rest = a.rest x fetch.1)
      (hsettled : ∀ o ∈ settled, a.rest x o.1 = .ready (.done o.2)) :
      a.Course x listing old (.fetching p.summary fetches, p.slot)

namespace Adapter

variable {α : Type} {a : Adapter α} {x : World} {listing : List Credential} {old : Slot α}

/-- **A pass stays on its course.** -/
theorem Course.step {s s' : Stage α × Slot α} (h : a.Course x listing old s)
    (hstep : a.Step (· = x) s s') : a.Course x listing old s' := by
  cases hstep with
  | drop targets slot =>
    cases h
    exact .marking (List.nil_append _)
  | mark marked c unmarked slot =>
    cases h with
    | marking h =>
      have hmarked : (marked ++ [c]) ++ unmarked = a.targets listing := by
        rw [List.append_assoc, List.singleton_append, h]
      have hnext : a.Course x listing old _ := .marking hmarked
      rwa [List.map_append, List.foldl_append] at hnext
  | begin targets slot =>
    cases h with
    | marking h =>
      obtain rfl : targets = a.targets listing := by rw [← h, List.append_nil]
      have hbegun : a.Underway listing old (((a.targets listing).map a.begun).map (·.1)) []
          (a.begin (a.targets listing) old) := by
        have hfst : ((a.targets listing).map a.begun).map (·.1) = a.targets listing := by
          rw [List.map_map]
          exact List.map_id _
        rw [hfst]
        exact .begun
      refine .fetching hbegun ?_ fun o ho => (List.not_mem_nil ho).elim
      intro fetch hfetch
      obtain ⟨c, -, rfl⟩ := List.mem_map.mp hfetch
      rfl
  | @fetch y hy p p' sent hp summary before c after slot =>
    obtain rfl := hy
    cases h with
    | fetching h hfetches hsettled =>
      refine .fetching ?_ ?_ hsettled
      · simpa using h
      · intro fetch hfetch
        rcases List.mem_append.mp hfetch with hbefore | hrest
        · exact hfetches fetch (List.mem_append_left _ hbefore)
        · rcases List.mem_cons.mp hrest with rfl | hafter
          · have hown := hfetches (c, p) (by simp)
            rw [hp.foresee_eq] at hown
            exact hown
          · exact hfetches fetch (by simp [hafter])
  | settle summary before c result after slot =>
    cases h with
    | @fetching settled fetches p h hfetches hsettled =>
      have hunderway :
          a.Underway listing old (before.map (·.1) ++ c :: after.map (·.1)) settled p := by
        simpa using h
      have hnext := hunderway.settled result
      rw [← List.map_append] at hnext
      refine .fetching (p := p.settle (c, result)) hnext ?_ ?_
      · intro fetch hfetch
        refine hfetches fetch ?_
        rcases List.mem_append.mp hfetch with hbefore | hafter
        · exact List.mem_append_left _ hbefore
        · exact List.mem_append_right _ (List.mem_cons_of_mem _ hafter)
      · intro o ho
        rcases List.mem_append.mp ho with hold | hnew
        · exact hsettled o hold
        · obtain rfl := List.mem_singleton.mp hnew
          exact (hfetches (c, .ready (.done result)) (by simp)).symm

/-- **What a pass has come to that only waits.**  Each fetch is where it comes to rest by itself:
the calls that are out are those of all these points, the names are those of the targets, and if
they are distinct each one shows where its fetch rests. -/
theorem Course.rests {stage : Stage α} {slot : Slot α} (h : a.Course x listing old (stage, slot))
    (hwaits : stage.Waits x) :
    stage.outstanding.Perm
        ((a.targets listing).flatMap fun c => (a.rest x c).outstanding) ∧
      (∀ name, name ∈ slot ↔ ∃ c ∈ a.targets listing, c.name = name) ∧
      (((a.targets listing).map (·.name)).Nodup → ∀ c ∈ a.targets listing,
        slot[c.name]? = some (a.rest x c).state) := by
  cases h with
  | listed | marking => exact hwaits.elim
  | @fetching settled fetches p h hfetches hsettled =>
    have hrest : ∀ fetch ∈ fetches, fetch.2 = a.rest x fetch.1 ∧
        fetch.2.result? = none := by
      intro fetch hfetch
      obtain ⟨hstill, hnone⟩ := hwaits fetch hfetch
      have hown := hfetches fetch hfetch
      rw [hstill] at hown
      exact ⟨hown, hnone⟩
    refine ⟨?_, h.tracks.names, ?_⟩
    · have hsent : (settled.map (·.1)).flatMap
          (fun c => (a.rest x c).outstanding) = [] := by
        rw [List.flatMap_eq_nil_iff]
        intro c hc
        obtain ⟨o, ho, rfl⟩ := List.mem_map.mp hc
        rw [hsettled o ho]
        rfl
      have hout : fetches.flatMap (·.2.outstanding) = (fetches.map (·.1)).flatMap
          (fun c => (a.rest x c).outstanding) := by
        rw [List.flatMap_map]
        exact List.flatMap_congr fun fetch hfetch =>
          congrArg Progress.outstanding (hrest fetch hfetch).1
      have hperm := h.perm.flatMap_right fun c => (a.rest x c).outstanding
      rw [List.flatMap_append, hsent, List.nil_append, ← hout] at hperm
      exact hperm
    · intro hnodup c hc
      have honly : ∀ c' ∈ a.targets listing, c'.name = c.name → c' = c := fun c' hc' hname =>
        List.inj_on_of_nodup_map hnodup hc' hc hname
      have htarget : ∀ o ∈ settled, o.1 ∈ a.targets listing := fun o ho =>
        h.perm.subset (List.mem_append_left _ (List.mem_map_of_mem ho))
      by_cases hown : ∃ o ∈ settled, o.1.name = c.name
      · obtain ⟨before, o, after, rfl, hname, hafter⟩ := exists_last_of_name hown
        have ho : o ∈ before ++ o :: after := by simp
        have hc : o.1 = c := honly o.1 (htarget o ho) hname
        have hlatest := h.tracks.latest before o after rfl (by simpa [hname] using hafter)
        rw [← hc, hlatest, Progress.state, hsettled o ho]
        rfl
      · -- no fetch of this name has settled, so this one is among those that wait
        have hmem : c ∈ settled.map (·.1) ++ fetches.map (·.1) := h.perm.symm.subset hc
        have hload := (h.tracks.loading c.name).mpr
          ⟨⟨c, hc, rfl⟩, fun o ho hname => hown ⟨o, ho, hname⟩⟩
        rcases List.mem_append.mp hmem with hmem | hmem
        · obtain ⟨o, ho, rfl⟩ := List.mem_map.mp hmem
          exact absurd ⟨o, ho, rfl⟩ hown
        · obtain ⟨fetch, hfetch, rfl⟩ := List.mem_map.mp hmem
          obtain ⟨hfetch, hnone⟩ := hrest fetch hfetch
          rw [hload, Progress.state, ← hfetch, hnone]

end Adapter

/-! ## 2. All passes of a refresh -/

/-- Where a refresh can be that was made by itself: one pass of each provider, each on its
course. -/
structure Scene.Refreshing (config : Config) (x : World) (listing : List Credential) (old : Store)
    (scene : Scene) : Prop where
  providers : scene.passes.map (·.1) = Provider.all
  course : ∀ pass ∈ scene.passes, (config.adapter pass.1).Course x listing (old.slot pass.1)
    (pass.2, scene.store.slot pass.1)

namespace Scene.Refreshing

variable {config : Config} {x : World} {listing : List Credential} {old : Store}
  {scene scene' : Scene}

theorem begin (b : Board) (x : World) (force : Bool) (listing : List Credential) :
    (b.scene [⟨.refresh force, .ok listing⟩]).Refreshing b.config x listing b.store := by
  have hpasses : (b.scene [⟨.refresh force, .ok listing⟩]).passes =
      Provider.all.map fun p => ⟨p, .listed ((b.config.adapter p).targets listing)⟩ := rfl
  refine ⟨by rw [hpasses]; rfl, ?_⟩
  rw [hpasses]
  rintro pass hpass
  obtain ⟨p, -, rfl⟩ := List.mem_map.mp hpass
  exact .listed

/-- A step of one pass leaves the others where they are, for they are in other slots. -/
theorem step (h : scene.Refreshing config x listing old)
    (hstep : Step config (· = x) scene scene') : scene'.Refreshing config x listing old := by
  cases hstep with
  | @pass store p stage stage' slot hstep before after =>
    obtain ⟨hproviders, hcourse⟩ := h
    simp only [List.map_append, List.map_cons] at hproviders
    have hnodup : (before.map (·.1) ++ p :: after.map (·.1)).Nodup := by
      rw [hproviders]
      decide
    rw [List.nodup_middle, List.nodup_cons, ← List.map_append] at hnodup
    have hothers : ∀ pass ∈ before ++ after, pass.1 ≠ p := fun pass hpass heq =>
      hnodup.1 (heq ▸ List.mem_map_of_mem hpass)
    have hkeeps : ∀ pass ∈ before ++ after, (config.adapter pass.1).Course x listing
        (old.slot pass.1) (pass.2, (store.setSlot p slot).slot pass.1) := by
      intro pass hpass
      rw [Store.slot_setSlot_of_ne store (hothers pass hpass)]
      refine hcourse pass ?_
      rcases List.mem_append.mp hpass with hbefore | hafter
      · exact List.mem_append_left _ hbefore
      · exact List.mem_append_right _ (List.mem_cons_of_mem _ hafter)
    have hown := (hcourse ⟨p, stage⟩ (by simp)).step hstep
    refine ⟨by simpa using hproviders, fun pass hpass => ?_⟩
    rcases List.mem_append.mp hpass with hbefore | hrest
    · exact hkeeps pass (List.mem_append_left _ hbefore)
    · rcases List.mem_cons.mp hrest with rfl | hafter
      · change (config.adapter p).Course x listing (old.slot p)
          (stage', (store.setSlot p slot).slot p)
        rwa [Store.slot_setSlot_self]
      · exact hkeeps pass (List.mem_append_right _ hafter)

theorem leads (h : scene.Refreshing config x listing old)
    (hrun : Leads config (· = x) scene scene') :
    scene'.Refreshing config x listing old := by
  induction hrun with
  | refl => exact h
  | tail _ hstep ih => exact ih.step hstep

end Scene.Refreshing

/-! ## 3. With what a fetch opens -/

/-- What a provider is asked first on behalf of a credential, where these are the first addresses
for an Antigravity quota and for an Antigravity tier. -/
def Config.asksFirst (config : Config) (quotaUrl tierUrl : String)
    (files : String → Option String) (c : Credential) : Provider → List ApiRequest
  | .antigravity => c.authIndex?.toList.flatMap fun authIndex =>
    let project := config.antigravitySettings.project (files c.name)
    [Antigravity.quotaRequest authIndex project quotaUrl, Antigravity.tierRequest authIndex tierUrl]
  | .codex => c.authIndex?.toList.flatMap fun authIndex =>
    c.accountId?.toList.map fun account =>
      Codex.usageRequest authIndex account config.endpoints.codexUsageUrl
  | .geminiCli => c.authIndex?.toList.flatMap fun authIndex =>
    c.projectId?.toList.map fun project =>
      GeminiCli.quotaRequest authIndex project config.endpoints.geminiCliQuotaUrl

/-- The requests with which the fetch of a credential opens. -/
def Config.opening (config : Config) (quotaUrl tierUrl : String) (files : String → Option String)
    (c : Credential) : List ApiRequest :=
  c.fetchedBy?.toList.flatMap (config.asksFirst quotaUrl tierUrl files c)

section Opening

variable {config : Config} {quotaUrl tierUrl : String} {quotaUrls tierUrls : List String}
  (files : String → Option String) {c : Credential} {p : Provider}

theorem Config.opening_of_fetchedBy? (hp : c.fetchedBy? = some p) :
    config.opening quotaUrl tierUrl files c = config.asksFirst quotaUrl tierUrl files c p := by
  rw [opening, hp, Option.toList_some, List.flatMap_singleton]

/-- A credential that lacks an identifier is not asked about. -/
theorem Config.opening_of_not_isComplete (hp : c.fetchedBy? = some p)
    (h : c.isComplete p = false) : config.opening quotaUrl tierUrl files c = [] := by
  rw [opening_of_fetchedBy? files hp]
  cases p with
  | antigravity =>
    have hindex : c.authIndex? = none := by simpa [Credential.isComplete] using h
    simp [asksFirst, hindex]
  | codex =>
    rw [Credential.isComplete, Bool.and_eq_false_iff, Option.isSome_eq_false_iff,
      Option.isSome_eq_false_iff, Option.isNone_iff_eq_none, Option.isNone_iff_eq_none] at h
    rcases h with hindex | haccount
    · simp [asksFirst, hindex]
    · simp [asksFirst, haccount]
  | geminiCli =>
    rw [Credential.isComplete, Bool.and_eq_false_iff, Option.isSome_eq_false_iff,
      Option.isSome_eq_false_iff, Option.isNone_iff_eq_none, Option.isNone_iff_eq_none] at h
    rcases h with hindex | hproject
    · simp [asksFirst, hindex]
    · simp [asksFirst, hproject]

/-- **Without replies a fetch rests where it has sent what it opens with.** -/
theorem Config.rest_fetch (hquota : config.endpoints.antigravityQuotaUrls = quotaUrl :: quotaUrls)
    (htier : config.endpoints.antigravityTierUrls = tierUrl :: tierUrls) (now : Int)
    (hp : c.fetchedBy? = some p) :
    let rest := (config.adapter p).rest (World.mute files now) c
    rest.outstanding = config.opening quotaUrl tierUrl files c ∧
      (c.isComplete p = false → ∃ message status, rest.state = .error message status) ∧
      (c.isComplete p = true → rest.state = .loading) := by
  intro rest
  cases hcomplete : c.isComplete p with
  | false =>
    obtain ⟨e, -, hdone⟩ := config.fetch_of_not_isComplete hcomplete
    have hrest : rest = .ready (.done (.error e)) := by
      change (config.adapter p).rest (World.mute files now) c = _
      rw [Adapter.rest, hdone]
      rfl
    rw [hrest, opening_of_not_isComplete files hp hcomplete]
    exact ⟨rfl, fun _ => ⟨_, _, rfl⟩, fun h => nomatch h⟩
  | true =>
    suffices h : rest.outstanding = config.opening quotaUrl tierUrl files c ∧
        rest.result? = none by
      refine ⟨h.1, fun hfalse => absurd hfalse (by decide), fun _ => ?_⟩
      rw [Progress.state, h.2]
    rw [opening_of_fetchedBy? files hp]
    cases p with
    | antigravity =>
      obtain ⟨authIndex, hindex⟩ := Option.isSome_iff_exists.mp hcomplete
      have hrest : rest = ((World.mute files now).outlook
          (config.antigravitySettings.fetch c)).rest := rfl
      simp only [asksFirst, hrest, Antigravity.Settings.fetch, hindex, antigravitySettings, hquota,
        htier]
      exact ⟨rfl, rfl⟩
    | codex =>
      rw [Credential.isComplete, Bool.and_eq_true, Option.isSome_iff_exists,
        Option.isSome_iff_exists] at hcomplete
      obtain ⟨⟨authIndex, hindex⟩, account, haccount⟩ := hcomplete
      have hrest : rest = ((World.mute files now).outlook
          (Codex.fetch config.endpoints.codexUsageUrl c)).rest := rfl
      simp only [asksFirst, hrest, Codex.fetch, hindex, haccount]
      exact ⟨rfl, rfl⟩
    | geminiCli =>
      rw [Credential.isComplete, Bool.and_eq_true, Option.isSome_iff_exists,
        Option.isSome_iff_exists] at hcomplete
      obtain ⟨⟨authIndex, hindex⟩, project, hproject⟩ := hcomplete
      have hrest : rest = ((World.mute files now).outlook
          (GeminiCli.fetch config.endpoints.geminiCliQuotaUrl c)).rest := rfl
      simp only [asksFirst, hrest, GeminiCli.fetch, hindex, hproject]
      exact ⟨rfl, rfl⟩

end Opening

/-- Credentials taken by provider are the credentials taken in their order, but for those that
nobody fetches. -/
theorem flatMap_fetchedBy_perm {β : Type} {f : Credential → List β}
    (hnone : ∀ c : Credential, c.fetchedBy? = none → f c = []) (listing : List Credential) :
    (Provider.all.flatMap fun p =>
      (listing.filter fun c => c.fetchedBy? = some p).flatMap f).Perm (listing.flatMap f) := by
  induction listing with
  | nil => exact .refl _
  | cons c listing ih =>
    let share (p : Provider) : List β :=
      (listing.filter fun c => c.fetchedBy? = some p).flatMap f
    simp only [Provider.all, List.flatMap_cons, List.flatMap_nil, List.append_nil] at ih ⊢
    cases hp : c.fetchedBy? with
    | none => simpa [List.filter_cons, hp, hnone c hp] using ih
    | some p =>
      refine List.Perm.trans ?_ (ih.append_left (f c))
      -- the share of the provider comes after those of the providers before it
      cases p <;> simp only [List.filter_cons, hp, decide_true, decide_false, if_true, if_false,
        List.flatMap_cons, List.append_assoc, Option.some.injEq, reduceCtorEq, Bool.false_eq_true]
      · exact .refl _
      · exact List.perm_append_comm_assoc _ _ _
      · have hlast := List.perm_append_comm_assoc (share .antigravity ++ share .codex) (f c)
          (share .geminiCli)
        simpa only [List.append_assoc, share] using hlast

/-! ## 4. The refresh that is held -/

namespace Adapter

variable {α : Type} {a : Adapter α} {listing : List Credential}

/-- Of some fetches those settle that have a result, in their order. -/
theorem Underway.settle_results {slot : Slot α} {kept rest : List Credential}
    {settled : List (Outcome α)} {p : Pass α}
    (result? : Credential → Option (Except FetchError α))
    (h : a.Underway listing slot (kept ++ rest) settled p) :
    let outcomes := rest.filterMap fun c => (result? c).map (c, ·)
    a.Underway listing slot (kept ++ rest.filter fun c => (result? c).isNone)
      (settled ++ outcomes) (outcomes.foldl Pass.settle p) := by
  induction rest generalizing kept settled p with
  | nil => simpa using h
  | cons c rest ih =>
    cases hresult : result? c with
    | none =>
      have hkept : a.Underway listing slot (kept ++ [c] ++ rest) settled p := by
        simpa using h
      simpa [hresult] using ih hkept
    | some result => simpa [hresult] using ih (h.settled result)

/-- Items that contribute nothing may be left out. -/
theorem flatMap_filter_of_nil {β γ : Type} {q : β → Bool} {f : β → List γ}
    (h : ∀ item, q item = false → f item = []) (items : List β) :
    (items.filter q).flatMap f = items.flatMap f := by
  induction items with
  | nil => rfl
  | cons item items ih =>
    cases hq : q item <;> simp [hq, ih, h]

theorem slot_foldl_settle (outcomes : List (Outcome α)) (p : Pass α) :
    (outcomes.foldl Pass.settle p).slot = outcomes.foldl Slot.settle p.slot := by
  induction outcomes generalizing p with
  | nil => rfl
  | cons o outcomes ih => exact ih (p.settle o)

/-- Each of some fetches goes as far as it can. -/
theorem leads_rest (x : World) (summary : Summary) (before fetches : List (Begun α))
    (slot : Slot α) :
    a.Leads (· = x) (.fetching summary (before ++ fetches), slot)
      (.fetching summary (before ++ fetches.map fun fetch => (fetch.1, (x.foresee fetch.2).rest)),
        slot) := by
  induction fetches generalizing before with
  | nil => exact .refl
  | cons fetch fetches ih =>
    have hfetch := leads_fetch (a := a) (fetch.2.leads_rest x) summary before fetch.1 fetches slot
    have hrest := ih (before ++ [(fetch.1, (x.foresee fetch.2).rest)])
    rw [List.append_assoc, List.append_assoc] at hrest
    exact hfetch.trans hrest

/-- The outcomes of those fetches that come to an end without replies. -/
def endedIn (a : Adapter α) (x : World) (targets : List Credential) : List (Outcome α) :=
  targets.filterMap fun c => (a.rest x c).result?.map (c, ·)

/-- A pass that is held writes these outcomes, and what is out is what each fetch has out where it
comes to rest. -/
theorem heldPass_eq (a : Adapter α) (files : String → Option String) (now : Int)
    (listing : List Credential) (slot : Slot α) :
    let x := World.mute files now
    a.heldPass files now listing slot =
      ((a.endedIn x (a.targets listing)).foldl Slot.settle (start (a.targets listing) slot),
        (a.targets listing).flatMap fun c => (a.rest x c).outstanding) := by
  intro x
  have hstill : ∀ c, (a.fetch c).beforeReplies files now = (a.rest x c).standstill := fun c =>
    (World.standstill_rest_mute files now (a.fetch c)).symm
  have hsent : (a.standstills files now (a.targets listing)).flatMap (·.2.requests) =
      (a.targets listing).flatMap fun c => (a.rest x c).outstanding := by
    rw [standstills, List.flatMap_map]
    exact List.flatMap_congr fun c _ => by rw [hstill, Progress.requests_standstill]
  refine Prod.ext ?_ hsent
  simp only [heldPass, standstills, endedIn, List.filterMap_map]
  congr 1
  refine List.filterMap_congr fun c _ => ?_
  simp only [Function.comp_def, hstill, Progress.standstill]
  cases (a.rest x c).result? <;> rfl

/-- **A pass that is held is a run that comes to wait.** -/
theorem heldPass_leads (a : Adapter α) (files : String → Option String) (now : Int)
    (listing : List Credential) (slot : Slot α) :
    ∃ stage : Stage α, stage.Waits (World.mute files now) ∧
      stage.outstanding = (a.heldPass files now listing slot).2 ∧
      a.Leads (· = World.mute files now) (.listed (a.targets listing), slot)
        (stage, (a.heldPass files now listing slot).1) := by
  let x := World.mute files now
  let outcomes := a.endedIn x (a.targets listing)
  let waiting := (a.targets listing).filter fun c => (a.rest x c).result?.isNone
  let p := outcomes.foldl Pass.settle (a.begin (a.targets listing) slot)
  rw [heldPass_eq]
  -- those that have a result settle, and then the others go as far as they can
  have hbegun : a.Underway listing slot ([] ++ a.targets listing) []
    (a.begin (a.targets listing) slot) := .begun
  have hunderway : a.Underway listing slot waiting outcomes p :=
    hbegun.settle_results fun c => (a.rest x c).result?
  have hsettle := hunderway.leads fun o ho => by
    obtain ⟨c, -, hc⟩ := List.mem_filterMap.mp ho
    obtain ⟨result, hresult, rfl⟩ := Option.map_eq_some_iff.mp hc
    rw [← Progress.result?_eq_some_iff.mp hresult]
    exact Progress.leads_rest x (.ready (a.fetch c))
  have hwait := leads_rest (a := a) x p.summary [] (waiting.map a.begun) p.slot
  have hstage : (waiting.map a.begun).map (fun fetch => (fetch.1, (x.foresee fetch.2).rest)) =
      waiting.map fun c => (c, a.rest x c) := by
    rw [List.map_map]
    rfl
  rw [List.nil_append, List.nil_append, hstage] at hwait
  refine ⟨.fetching p.summary (waiting.map fun c => (c, a.rest x c)), ?_, ?_, ?_⟩
  · intro fetch hfetch
    obtain ⟨c, hc, rfl⟩ := List.mem_map.mp hfetch
    exact ⟨Progress.foresee_rest x (.ready (a.fetch c)),
      Option.isNone_iff_eq_none.mp (List.mem_filter.mp hc).2⟩
  · have hnone : ∀ c, (a.rest x c).result?.isNone = false → (a.rest x c).outstanding = [] := by
      intro c hc
      obtain ⟨result, hresult⟩ := Option.isSome_iff_exists.mp (Option.isNone_eq_false_iff.mp hc)
      rw [Progress.result?_eq_some_iff.mp hresult]
      rfl
    rw [Stage.outstanding, List.flatMap_map]
    exact flatMap_filter_of_nil hnone (a.targets listing)
  · have hslot : p.slot = outcomes.foldl Slot.settle (start (a.targets listing) slot) :=
      slot_foldl_settle outcomes _
    rw [hslot] at hsettle hwait
    exact hsettle.trans hwait

end Adapter

/-- Passes that wait stay where they are. -/
theorem Scene.not_step_of_waits {config : Config} {x : World} {scene : Scene}
    (h : ∀ pass ∈ scene.passes, pass.2.Waits x) (later : Scene) :
    ¬ Scene.Step config (· = x) scene later := by
  rintro ⟨hstep, before, after⟩
  exact (h _ (List.mem_append_right before List.mem_cons_self)).not_step _ _ hstep

/-- **A refresh that is held is a run that comes to wait.** -/
theorem Board.heldRefresh_leads (b : Board) (files : String → Option String) (now : Int)
    (force : Bool) (listing : List Credential) :
    ∃ scene : Scene, Scene.Leads b.config (· = World.mute files now)
        (b.scene [⟨.refresh force, .ok listing⟩]) scene ∧
      (∀ pass ∈ scene.passes, pass.2.Waits (World.mute files now)) ∧
      scene.store = (b.heldRefresh files now listing).1.store ∧
      scene.outstanding = (b.heldRefresh files now listing).2 := by
  let held (p : Provider) := (b.config.adapter p).heldPass files now listing (b.store.slot p)
  have hslot : ∀ p, (b.heldRefresh files now listing).1.store.slot p = (held p).1 := by
    intro p
    cases p <;> rfl
  have hpasses : ∀ p ∈ Provider.all, ∃ stage : Stage p.Quota,
      (stage.Waits (World.mute files now) ∧ stage.outstanding = (held p).2) ∧
        (b.config.adapter p).Leads (· = World.mute files now)
          (.listed ((b.config.adapter p).targets listing), b.store.slot p)
          (stage, (b.heldRefresh files now listing).1.store.slot p) := by
    intro p _
    obtain ⟨stage, hwaits, hsent, hleads⟩ :=
      (b.config.adapter p).heldPass_leads files now listing (b.store.slot p)
    rw [hslot]
    exact ⟨stage, ⟨hwaits, hsent⟩, hleads⟩
  have hnodup : Provider.all.Nodup := by decide
  have hall : ∀ p : Provider, p ∈ Provider.all := by
    intro p
    cases p <;> decide
  obtain ⟨passes, hproviders, hwanted, hrun⟩ := Scene.leads_passes listing hnodup hpasses
    (fun p hp => absurd (hall p) hp) [] []
  rw [List.nil_append, List.append_nil, List.nil_append, List.append_nil] at hrun
  refine ⟨_, hrun, fun pass hpass => (hwanted pass hpass).1, rfl, ?_⟩
  calc passes.flatMap (·.2.outstanding)
      = passes.flatMap fun pass => (held pass.1).2 :=
        List.flatMap_congr fun pass hpass => (hwanted pass hpass).2
    _ = Provider.all.flatMap fun p => (held p).2 := by rw [← hproviders, List.flatMap_map]
    _ = (b.heldRefresh files now listing).2 := by
      simp only [Provider.all, List.flatMap_cons, List.flatMap_nil, List.append_nil,
        ← List.append_assoc]
      rfl

/-! ## 5. Where a refresh rests -/

section AtRest

variable {config : Config} {quotaUrl tierUrl : String} {quotaUrls tierUrls : List String}
  {files : String → Option String} {now : Int} {listing : List Credential} {old : Store}
  {scene : Scene}

/-- **Where a refresh rests, the calls that are out are those with which the fetches open.** -/
theorem Scene.Refreshing.outstanding_perm
    (h : scene.Refreshing config (World.mute files now) listing old)
    (hwaits : ∀ pass ∈ scene.passes, pass.2.Waits (World.mute files now))
    (hquota : config.endpoints.antigravityQuotaUrls = quotaUrl :: quotaUrls)
    (htier : config.endpoints.antigravityTierUrls = tierUrl :: tierUrls) :
    scene.outstanding.Perm (listing.flatMap (config.opening quotaUrl tierUrl files)) := by
  let share (p : Provider) : List ApiRequest := (listing.filter fun c =>
    c.fetchedBy? = some p).flatMap (config.opening quotaUrl tierUrl files)
  have hshare : ∀ pass ∈ scene.passes, pass.2.outstanding.Perm (share pass.1) := by
    intro pass hpass
    obtain ⟨hsent, -, -⟩ := (h.course pass hpass).rests (hwaits pass hpass)
    refine hsent.trans (List.Perm.of_eq ?_)
    rw [config.targets_adapter]
    refine List.flatMap_congr fun c hc => ?_
    have hp : c.fetchedBy? = some pass.1 := of_decide_eq_true (List.mem_filter.mp hc).2
    exact (config.rest_fetch files hquota htier now hp).1
  have hshares : scene.passes.flatMap (fun pass => share pass.1) =
      Provider.all.flatMap share := by
    rw [← h.providers, List.flatMap_map]
  have hperm : scene.outstanding.Perm (Provider.all.flatMap share) :=
    hshares ▸ List.Perm.flatMap_left scene.passes hshare
  refine hperm.trans (flatMap_fetchedBy_perm (fun c hnone => ?_) listing)
  rw [Config.opening, hnone]
  rfl

/-- **Where a refresh rests, a slot shows the names that are fetched for it**, each as its fetch
stands. -/
theorem Scene.Refreshing.slot_at_rest
    (h : scene.Refreshing config (World.mute files now) listing old)
    (hwaits : ∀ pass ∈ scene.passes, pass.2.Waits (World.mute files now))
    {p : Provider} (hnodup : (namesFetchedBy p listing).Nodup) :
    (∀ name, name ∈ scene.store.slot p ↔ name ∈ namesFetchedBy p listing) ∧
      ∀ c ∈ listing, c.fetchedBy? = some p → (scene.store.slot p)[c.name]? =
        some ((config.adapter p).rest (World.mute files now) c).state := by
  have hall : p ∈ Provider.all := by cases p <;> decide
  rw [← h.providers] at hall
  obtain ⟨pass, hpass, rfl⟩ := List.mem_map.mp hall
  obtain ⟨-, hnames, hstates⟩ := (h.course pass hpass).rests (hwaits pass hpass)
  rw [← config.names_targets] at hnodup ⊢
  refine ⟨fun name => (hnames name).trans List.mem_map.symm, fun c hc hp => ?_⟩
  refine hstates hnodup c ?_
  rw [config.targets_adapter, List.mem_filter, decide_eq_true_iff]
  exact ⟨hc, hp⟩

end AtRest

/-! ## 6. Summary -/

/-- A configuration that is valid has an address for Antigravity quotas and one for tiers. -/
theorem Config.exists_urls_of_validate {config : Config} (h : config.validate = .ok config) :
    (∃ url urls, config.endpoints.antigravityQuotaUrls = url :: urls) ∧
      ∃ url urls, config.endpoints.antigravityTierUrls = url :: urls := by
  have hholds : ∀ r ∈ requirements, r.holds config = true := by
    unfold validate at h
    split at h
    · cases h
    · rename_i hnone
      simpa using List.find?_eq_none.mp hnone
  simp only [requirements, List.forall_mem_cons] at hholds
  obtain ⟨-, -, hquota, htier, -⟩ := hholds
  exact ⟨List.exists_cons_of_ne_nil (by simpa using hquota),
    List.exists_cons_of_ne_nil (by simpa using htier)⟩

/-- **All requests of a refresh go out at once.**  A refresh is made by itself on a board with a
valid configuration, whatever it showed before, and no request is answered.  No run goes on for
ever, and where one can go no further the calls that are out are those with which the fetches open,
each as often as its credential is listed.  Where the names that a provider is to fetch are
distinct, these are all the names that it shows; those that lack an identifier show an error, and
all others are loading.  The refresh that is held is one of these runs. -/
theorem Board.refresh_fans_out (b : Board) (hvalid : b.config.validate = .ok b.config)
    (force : Bool) (files : String → Option String) (now : Int) (listing : List Credential) :
    let begun := b.scene [⟨.refresh force, .ok listing⟩]
    let Step := Scene.Step b.config (· = World.mute files now)
    let Leads := Scene.Leads b.config (· = World.mute files now)
    ∃ quotaUrl quotaUrls tierUrl tierUrls,
      b.config.endpoints.antigravityQuotaUrls = quotaUrl :: quotaUrls ∧
      b.config.endpoints.antigravityTierUrls = tierUrl :: tierUrls ∧
      Acc (fun later earlier => Step earlier later) begun ∧
      (∀ scene, Leads begun scene → (∀ later, ¬ Step scene later) →
        scene.outstanding.Perm (listing.flatMap (b.config.opening quotaUrl tierUrl files)) ∧
        ∀ p, (namesFetchedBy p listing).Nodup →
          (∀ name, name ∈ scene.store.slot p ↔ name ∈ namesFetchedBy p listing) ∧
          ∀ c ∈ listing, c.fetchedBy? = some p →
            (c.isComplete p = false →
              ∃ message status, (scene.store.slot p)[c.name]? = some (.error message status)) ∧
            (c.isComplete p = true → (scene.store.slot p)[c.name]? = some .loading)) ∧
      ∃ scene, Leads begun scene ∧ (∀ later, ¬ Step scene later) ∧
        scene.store = (b.heldRefresh files now listing).1.store ∧
        scene.outstanding = (b.heldRefresh files now listing).2 := by
  intro begun Step Leads
  obtain ⟨⟨quotaUrl, quotaUrls, hquota⟩, tierUrl, tierUrls, htier⟩ :=
    b.config.exists_urls_of_validate hvalid
  refine ⟨quotaUrl, quotaUrls, tierUrl, tierUrls, hquota, htier,
    Scene.acc_step b.config (World.mute files now) begun, ?_, ?_⟩
  · intro scene hrun hstill
    have hrefreshing := (Scene.Refreshing.begin b (World.mute files now) force listing).leads hrun
    have hwaits := (scene.exists_step_or b.config (World.mute files now)).resolve_left
      fun ⟨later, hstep⟩ => hstill later hstep
    refine ⟨hrefreshing.outstanding_perm hwaits hquota htier, fun p hnodup => ?_⟩
    obtain ⟨hnames, hstates⟩ := hrefreshing.slot_at_rest hwaits hnodup
    refine ⟨hnames, fun c hc hp => ?_⟩
    obtain ⟨-, herror, hloading⟩ := b.config.rest_fetch files hquota htier now hp
    rw [hstates c hc hp]
    refine ⟨fun hincomplete => ?_, fun hcomplete => congrArg some (hloading hcomplete)⟩
    obtain ⟨message, status, hstate⟩ := herror hincomplete
    exact ⟨message, status, congrArg some hstate⟩
  · obtain ⟨scene, hrun, hwaits, hstore, hsent⟩ := b.heldRefresh_leads files now force listing
    exact ⟨scene, hrun, Scene.not_step_of_waits hwaits, hstore, hsent⟩

/-- A Codex credential has no account and a Gemini CLI credential has its project, and both were
loading before, beside a name that is listed no more.  The one request is out, the first one holds
an error, the second one is loading, and the old name is gone. -/
theorem Board.refresh_fans_out_incomplete :
    let listing := [Credential.sampleCodex "a.json" (some "1") false, .sampleGeminiCli]
    let old : Slot Codex.Quota :=
      ((∅ : Slot Codex.Quota).insert "a.json" .loading).insert "b.json" .loading
    let b : Board := { config := .default, store := { codex := old } }
    let unanswered := World.mute (fun _ => none) 0
    ∃ scene, Scene.Leads b.config (· = unanswered) (b.scene [⟨.refresh true, .ok listing⟩]) scene ∧
      (∀ later, ¬ Scene.Step b.config (· = unanswered) scene later) ∧
      scene.outstanding = [GeminiCli.quotaRequest "7" "p"
        Config.default.endpoints.geminiCliQuotaUrl] ∧
      (∃ message status,
        (scene.store.slot .codex)["a.json"]? = some (.error message status)) ∧
      "b.json" ∉ scene.store.slot .codex ∧
      (scene.store.slot .geminiCli)["g.json"]? = some .loading := by
  intro listing old b unanswered
  have hvalid : b.config.validate = .ok b.config := by
    have hnone : Config.requirements.find? (!·.holds Config.default) = none := by decide +kernel
    simp only [b, Config.validate, hnone]
  have hcodex : (Credential.sampleCodex "a.json" (some "1") false).fetchedBy? = some .codex := by
    rw [Credential.fetchedBy?_eq_some_iff, Credential.isFetchedBy_sampleCodex, Bool.not_false]
  have hgeminiCli := Credential.fetchedBy?_sampleGeminiCli
  have hcodexNames : namesFetchedBy .codex listing = ["a.json"] := by decide +kernel
  have hgeminiCliNames : namesFetchedBy .geminiCli listing = ["g.json"] := by decide +kernel
  obtain ⟨quotaUrl, _, tierUrl, _, -, -, -, hrests, scene, hrun, hstill, -, -⟩ :=
    b.refresh_fans_out hvalid true (fun _ => none) 0 listing
  obtain ⟨hsent, hslots⟩ := hrests scene hrun hstill
  obtain ⟨hnames, hstates⟩ := hslots .codex (by rw [hcodexNames]; decide)
  obtain ⟨-, hstates'⟩ := hslots .geminiCli (by rw [hgeminiCliNames]; decide)
  refine ⟨scene, hrun, hstill, ?_, ?_, ?_, ?_⟩
  · have hopening : listing.flatMap (b.config.opening quotaUrl tierUrl fun _ => none) =
        [GeminiCli.quotaRequest "7" "p" Config.default.endpoints.geminiCliQuotaUrl] := by
      have hindex : Credential.sampleGeminiCli.authIndex? = some "7" := by decide +kernel
      have hproject : Credential.sampleGeminiCli.projectId? = some "p" := by decide +kernel
      have hfirst : b.config.opening quotaUrl tierUrl (fun _ => none)
          (.sampleCodex "a.json" (some "1") false) = [] :=
        Config.opening_of_not_isComplete _ hcodex (by decide +kernel)
      have hsecond : b.config.opening quotaUrl tierUrl (fun _ => none) .sampleGeminiCli =
          [GeminiCli.quotaRequest "7" "p" Config.default.endpoints.geminiCliQuotaUrl] := by
        rw [Config.opening_of_fetchedBy? _ hgeminiCli, Config.asksFirst, hindex, hproject]
        rfl
      rw [List.flatMap_cons, List.flatMap_cons, List.flatMap_nil, hfirst, hsecond]
      rfl
    rw [hopening] at hsent
    exact List.perm_singleton.mp hsent
  · exact (hstates _ List.mem_cons_self hcodex).1 (by decide +kernel)
  · rw [hnames, hcodexNames]
    decide
  · exact (hstates' .sampleGeminiCli (by simp [listing]) hgeminiCli).2 (by decide +kernel)

end QuotaBoard
