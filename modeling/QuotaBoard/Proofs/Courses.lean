import QuotaBoard.Proofs.BoardRuns

/-!
# The requests that are made on the way

A plan says what is asked for next once it is known what was answered.  The lists of requests that
it can make, under any replies, are its courses.  What is in the notebook after a refresh is made
of one course for each credential that is fetched, and of nothing else, so what is proved of the
courses of single credentials is proved of whole refreshes.

* `Fetch.Course` are the courses of a plan.
* `Sends` is what a step writes into the notebook, whatever the world.
* `Shares` cuts a notebook into the courses of several credentials.
-/

namespace QuotaBoard

variable {σ : Type}

/-! ## 1. The courses of a plan -/

/-- `plan.Course files result sent`: where the token files are those of `files`, the plan can end
with `result` once it has made the requests of `sent`.  The replies and the clock say what they
like, and the requests of two plans at once are made in any order. -/
def Fetch.Course (files : String → Option String) {α : Type} :
    Fetch α → α → List ApiRequest → Prop
  | done a, result, sent => result = a ∧ sent = []
  | call request next, result, sent =>
    ∃ reply rest, sent = request :: rest ∧ (next reply).Course files result rest
  | tokenFile name next, result, sent => (next (files name)).Course files result sent
  | clock next, result, sent => ∃ now, (next now).Course files result sent
  | both left right next, result, sent =>
    ∃ a first b second mixed rest,
      left.Course files a first ∧ right.Course files b second ∧
        mixed.Perm (first ++ second) ∧ (next a b).Course files result rest ∧
        sent = mixed ++ rest

/-! ## 2. What a step sends -/

/-- Whatever the world and the notebook, the step only writes behind what is there, and what it
writes goes with its result as `P` says. -/
def Sends {α : Type} (step : StateM (σ × List ApiRequest) α)
    (P : α → List ApiRequest → Prop) : Prop :=
  ∀ w sent, ∃ new, (step.run (w, sent)).2.2 = sent ++ new ∧ P (step.run (w, sent)).1 new

namespace Sends

variable {α β : Type} {P : α → List ApiRequest → Prop} {Q : β → List ApiRequest → Prop}

theorem pure {a : α} (h : P a []) : Sends (σ := σ) (pure a) P :=
  fun _ sent => ⟨[], (List.append_nil sent).symm, h⟩

theorem bind {step : StateM (σ × List ApiRequest) α}
    {next : α → StateM (σ × List ApiRequest) β} (h : Sends step P)
    (hnext : ∀ a new, P a new → Sends (next a) fun b more => Q b (new ++ more)) :
    Sends (step >>= next) Q := by
  intro w sent
  obtain ⟨new, hnew, ha⟩ := h w sent
  rw [StateT.run_bind]
  generalize step.run (w, sent) = after at hnew ha
  obtain ⟨a, w', sent'⟩ := after
  obtain ⟨more, hmore, hb⟩ := hnext a new ha w' sent'
  refine ⟨new ++ more, ?_, hb⟩
  rw [← List.append_assoc, ← hnew]
  exact hmore

/-- What is made of the result sends nothing. -/
theorem returning {R : List ApiRequest → Prop} {step : StateM (σ × List ApiRequest) α}
    (h : Sends step fun _ new => R new) (f : α → β) :
    Sends (step >>= fun a => Pure.pure (f a)) fun _ new => R new :=
  h.bind fun _ new hnew => .pure ((List.append_nil new).symm ▸ hnew)

theorem imp {P' : α → List ApiRequest → Prop} {step : StateM (σ × List ApiRequest) α}
    (h : Sends step P) (himp : ∀ a new, P a new → P' a new) : Sends step P' := by
  intro w sent
  obtain ⟨new, hnew, ha⟩ := h w sent
  exact ⟨new, hnew, himp _ _ ha⟩

end Sends

/-- A step that writes nothing down. -/
theorem sends_silently {α : Type} (step : StateM σ α) :
    Sends (silently step) fun _ new => new = [] :=
  fun _ sent => ⟨[], (List.append_nil sent).symm, rfl⟩

/-- **A plan that is carried out takes one of its courses.** -/
theorem Fetch.run_sends {files : String → Option String} {carrier : Carrier (StateM σ)}
    (hfiles : ∀ name w, ((carrier.tokenFile name).run w).1 = files name) {α : Type}
    (plan : Fetch α) : Sends (plan.run carrier.recording) (plan.Course files) := by
  induction plan with
  | done result => exact .pure ⟨rfl, rfl⟩
  | call request next ih =>
    have hcall : Sends (carrier.recording.call request) fun _ new => new = [request] :=
      fun _ _ => ⟨[request], rfl, rfl⟩
    refine hcall.bind fun reply new hnew => (ih reply).imp fun result more hmore => ?_
    subst hnew
    exact ⟨reply, more, rfl, hmore⟩
  | tokenFile name next ih =>
    have hread : Sends (carrier.recording.tokenFile name)
        fun content new => content = files name ∧ new = [] :=
      fun w sent => ⟨[], (List.append_nil sent).symm, hfiles name w, rfl⟩
    refine hread.bind fun content new hnew => (ih content).imp fun result more hmore => ?_
    obtain ⟨rfl, rfl⟩ := hnew
    exact hmore
  | clock next ih =>
    refine (sends_silently carrier.clock).bind fun now new hnew =>
      (ih now).imp fun result more hmore => ?_
    subst hnew
    exact ⟨now, hmore⟩
  | both left right next ihleft ihright ihnext =>
    refine ihleft.bind fun a first hfirst => ihright.bind fun b second hsecond =>
      (ihnext a b).imp fun result more hmore => ?_
    exact ⟨a, first, b, second, first ++ second, more, hfirst, hsecond, .rfl, hmore,
      (List.append_assoc ..).symm⟩

/-- To note whether a call was made changes neither the result nor the world. -/
theorem Fetch.run_noting (carrier : Carrier (StateM σ)) {α : Type} (plan : Fetch α)
    (noted : Bool) (w : σ) :
    ∃ noted', ((plan.run carrier.noting).run noted).run w =
      ((((plan.run carrier).run w).1, noted'), ((plan.run carrier).run w).2) := by
  induction plan generalizing noted w with
  | done result => exact ⟨noted, rfl⟩
  | call request next ih => exact ih _ true _
  | tokenFile name next ih => exact ih _ noted _
  | clock next ih => exact ih _ noted _
  | both left right next ihleft ihright ihnext =>
    obtain ⟨noted₁, hleft⟩ := ihleft noted w
    obtain ⟨noted₂, hright⟩ := ihright noted₁ ((left.run carrier).run w).2
    obtain ⟨noted₃, hnext⟩ := ihnext ((left.run carrier).run w).1
      ((right.run carrier).run ((left.run carrier).run w).2).1 noted₂
      ((right.run carrier).run ((left.run carrier).run w).2).2
    refine ⟨noted₃, ?_⟩
    simp only [run, StateT.run_bind]
    simp only [bind, hleft, hright, hnext]

/-! ## 3. The shares of several credentials -/

/-- The requests of `sent` are those of the items, the share of one after that of the other; of
each share `P` holds. -/
inductive Shares {β : Type} (P : β → List ApiRequest → Prop) :
    List β → List ApiRequest → Prop where
  | nil : Shares P [] []
  | cons {c : β} {share : List ApiRequest} {items : List β} {rest : List ApiRequest}
      (h : P c share) (hrest : Shares P items rest) : Shares P (c :: items) (share ++ rest)

namespace Shares

variable {β : Type} {P : β → List ApiRequest → Prop} {items : List β} {sent : List ApiRequest}

/-- Every request is in the share of an item. -/
theorem exists_item (h : Shares P items sent) {request : ApiRequest} (hr : request ∈ sent) :
    ∃ c ∈ items, ∃ share, P c share ∧ request ∈ share := by
  induction h with
  | nil => cases hr
  | @cons c share items rest hshare _ ih =>
    rcases List.mem_append.mp hr with hown | hother
    · exact ⟨c, List.mem_cons_self, share, hshare, hown⟩
    · obtain ⟨c', hc', hmem⟩ := ih hother
      exact ⟨c', List.mem_cons_of_mem c hc', hmem⟩

/-- Every item has a share. -/
theorem exists_share (h : Shares P items sent) {c : β} (hc : c ∈ items) :
    ∃ share, P c share ∧ ∀ request ∈ share, request ∈ sent := by
  induction h with
  | nil => cases hc
  | @cons c' share items rest hshare _ ih =>
    rcases List.mem_cons.mp hc with rfl | hother
    · exact ⟨share, hshare, fun request hr => List.mem_append_left rest hr⟩
    · obtain ⟨share', hshare', hmem⟩ := ih hother
      exact ⟨share', hshare', fun request hr => List.mem_append_right share (hmem request hr)⟩

end Shares

theorem sends_mapM {β γ : Type} {ask : β → StateM (σ × List ApiRequest) γ}
    {P : β → List ApiRequest → Prop} (h : ∀ c, Sends (ask c) fun _ new => P c new)
    (items : List β) : Sends (items.mapM ask) fun _ new => Shares P items new := by
  induction items with
  | nil => exact .pure .nil
  | cons c rest ih =>
    rw [List.mapM_cons]
    refine (h c).bind fun b share hshare => ih.bind fun bs others hothers => ?_
    refine .pure ?_
    rw [List.append_nil]
    exact .cons hshare hothers

variable {α : Type} {files : String → Option String} {carrier : Carrier (StateM σ)}

/-- The requests that the fetch of a credential can make. -/
def Adapter.CanSend (a : Adapter α) (files : String → Option String) (c : Credential)
    (sent : List ApiRequest) : Prop :=
  ∃ result, (a.fetch c).Course files result sent

/-- **A pass sends a course for each target.** -/
theorem Adapter.outcomes_sends
    (hfiles : ∀ name w, ((carrier.tokenFile name).run w).1 = files name) (a : Adapter α)
    (targets : List Credential) :
    Sends (a.outcomes carrier.recording targets) fun _ sent =>
      Shares (a.CanSend files) targets sent := by
  have hplain : ∀ c, Sends ((a.fetch c).run carrier.recording)
      fun _ share => a.CanSend files c share :=
    fun c => (Fetch.run_sends hfiles (a.fetch c)).imp fun result _ h => ⟨result, h⟩
  have hnoting : ∀ c, Sends (((a.fetch c).run carrier.recording.noting).run false)
      fun _ share => a.CanSend files c share := by
    intro c w sent
    obtain ⟨noted, hrun⟩ := (a.fetch c).run_noting carrier.recording false (w, sent)
    rw [hrun]
    exact hplain c w sent
  unfold Adapter.outcomes
  split
  · exact (sends_mapM (fun c => (hnoting c).returning (c, ·)) targets).returning _
  · exact (sends_mapM (fun c => (hplain c).returning (c, ·)) targets).returning _

theorem Adapter.pass_sends (hfiles : ∀ name w, ((carrier.tokenFile name).run w).1 = files name)
    (a : Adapter α) (listing : List Credential) (slot : Slot α) :
    Sends (a.pass carrier.recording listing slot) fun _ sent =>
      Shares (a.CanSend files) (a.targets listing) sent :=
  (a.outcomes_sends hfiles (a.targets listing)).returning _

/-- **A refresh sends the shares of all providers.**  Each provider has its own, and each of its
targets has a course in it. -/
theorem Board.refresh_sends {service : Service (StateM σ)}
    (hfiles : ∀ name w, ((service.tokenFile name).run w).1 = files name) (b : Board)
    (force : Bool) {w : σ} {listing : List Credential}
    (h : (service.credentials.run w).1 = .ok listing) (sent : List ApiRequest) :
    ∃ shares : Provider → List ApiRequest,
      ((b.refresh service.recording force).run (w, sent)).2.2 =
        sent ++ Provider.all.flatMap shares ∧
      ∀ p, Shares ((b.config.adapter p).CanSend files) ((b.config.adapter p).targets listing)
        (shares p) := by
  have hpass := fun p => (b.config.adapter p).pass_sends hfiles listing (b.store.slot p)
  rw [b.refresh_run_ok service.recording force (w := (w, sent)) h]
  dsimp only
  -- each pass writes behind what the one before it has left
  obtain ⟨first, hfirst, hantigravity⟩ := hpass .antigravity (service.credentials.run w).2 sent
  generalize hone : ((b.config.adapter .antigravity).pass service.recording.toCarrier listing
    (b.store.slot .antigravity)).run (service.recording.credentials.run (w, sent)).2 = one
  obtain ⟨second, hsecond, hcodex⟩ := hpass .codex one.2.1 one.2.2
  generalize htwo : ((b.config.adapter .codex).pass service.recording.toCarrier listing
    (b.store.slot .codex)).run one.2 = two
  obtain ⟨third, hthird, hgeminiCli⟩ := hpass .geminiCli two.2.1 two.2.2
  refine ⟨Provider.rec (motive := fun _ => List ApiRequest) first second third, ?_, ?_⟩
  · have hone' : one.2.2 = sent ++ first := hone ▸ hfirst
    have htwo' : two.2.2 = one.2.2 ++ second := htwo ▸ hsecond
    refine hthird.trans ?_
    rw [htwo', hone']
    simp [Provider.all]
  · intro p
    cases p with
    | antigravity => exact hantigravity
    | codex => exact hcodex
    | geminiCli => exact hgeminiCli

end QuotaBoard
