import QuotaBoard.Proofs.Passes

/-!
# Overlapping passes leave nothing loading

Any number of refreshes may be made at once on one board, of all providers or of one, each with a
listing of its own.  Their passes go through the same slots: one may drop what another has just
written, or mark again what another has just settled.  No name stays marked for all that.  A mark
is made by a pass that still has a fetch of that name before it, and whoever settles that fetch
overwrites the mark; so for each mark in a slot some pass answers, as long as the mark is there.

* `Slot.Accounted` says this of a slot, and `Adapter.Step.accounted` that every step keeps it,
  whatever is owed by others.
* `Scene.Accounted` is the invariant of all slots, and holds on every run.
* `Board.run_leads` is that turns that are taken one after the other are one of these runs.
-/

namespace QuotaBoard

/-! ## 1. One pass among others -/

/-- The pass has marked this name, and a fetch of this name has not settled. -/
def Stage.Owes {α : Type} (name : String) : Stage α → Prop
  | listed _ => False
  | marking marked _ => ∃ c ∈ marked, c.name = name
  | fetching _ fetches => ∃ fetch ∈ fetches, fetch.1.name = name

/-- Whatever is in the slot is settled, or it is a mark of a name that somebody owes. -/
def Slot.Accounted {α : Type} (owed : String → Prop) (slot : Slot α) : Prop :=
  ∀ (name : String) state, slot[name]? = some state →
    state.isSettled = true ∨ state = .loading ∧ owed name

namespace Slot.Accounted

variable {α : Type} {slot : Slot α} {owed owed' : String → Prop}

theorem imp (h : slot.Accounted owed) (howed : ∀ name, owed name → owed' name) :
    slot.Accounted owed' := fun name state hstate =>
  (h name state hstate).imp_right fun ⟨hload, hname⟩ => ⟨hload, howed name hname⟩

/-- Nobody owes anything, so everything is settled. -/
theorem isSettled (h : slot.Accounted owed) (hnone : ∀ name, ¬ owed name) {name : String}
    {state : QuotaState α} (hstate : slot[name]? = some state) : state.isSettled = true :=
  (h name state hstate).resolve_right fun ⟨_, hname⟩ => hnone name hname

theorem retain (h : slot.Accounted owed) (names : List String) :
    (slot.retain names).Accounted owed := by
  intro name state hstate
  rw [getElem?_retain] at hstate
  split at hstate
  · exact h name state hstate
  · cases hstate

/-- A new mark is owed. -/
theorem markLoading (h : slot.Accounted owed) {marked : String} (hmarked : owed marked) :
    (slot.markLoading marked).Accounted owed := by
  intro name state hstate
  rw [getElem?_markLoading] at hstate
  split at hstate
  · rename_i hname
    cases hstate
    exact .inr ⟨rfl, hname ▸ hmarked⟩
  · exact h name state hstate

/-- What is written over a mark needs nobody to answer for it. -/
theorem settle {o : Outcome α} (h : slot.Accounted fun name => owed name ∨ o.1.name = name) :
    (slot.settle o).Accounted owed := by
  intro name state hstate
  rw [getElem?_settle] at hstate
  split at hstate
  · cases hstate
    exact .inl (QuotaState.isSettled_ofResult o.2)
  · rename_i hname
    exact (h name state hstate).imp_right fun ⟨hload, howed⟩ =>
      ⟨hload, howed.resolve_right hname⟩

end Slot.Accounted

/-- **No step of a pass leaves a mark for which nobody answers.**  Besides this pass, others may
answer for marks as well, and they do so afterwards as before. -/
theorem Adapter.Step.accounted {α : Type} {a : Adapter α} {worlds : World → Prop}
    {s s' : Stage α × Slot α} (h : a.Step worlds s s') {others : String → Prop}
    (hslot : s.2.Accounted fun name => others name ∨ s.1.Owes name) :
    s'.2.Accounted fun name => others name ∨ s'.1.Owes name := by
  cases h with
  | drop targets slot =>
    refine (hslot.imp fun name howed => ?_).retain _
    exact .inl (howed.resolve_right id)
  | mark marked c unmarked slot =>
    refine (hslot.imp fun name howed => ?_).markLoading (.inr ⟨c, by simp, rfl⟩)
    exact howed.imp_right fun ⟨c', hc', hname⟩ => ⟨c', List.mem_append_left _ hc', hname⟩
  | begin targets slot =>
    refine hslot.imp fun name howed => howed.imp_right fun ⟨c, hc, hname⟩ => ?_
    exact ⟨a.begun c, List.mem_map_of_mem hc, hname⟩
  | fetch hx h summary before c after slot =>
    refine hslot.imp fun name howed => howed.imp_right fun ⟨own, hown, hname⟩ => ?_
    -- the fetch that goes on keeps its name
    rcases List.mem_append.mp hown with hbefore | hrest
    · exact ⟨own, List.mem_append_left _ hbefore, hname⟩
    · rcases List.mem_cons.mp hrest with rfl | hafter
      · exact ⟨(c, _), List.mem_append_right before List.mem_cons_self, hname⟩
      · exact ⟨own, by simp [hafter], hname⟩
  | settle summary before c result after slot =>
    refine (hslot.imp fun name howed => ?_).settle
    rcases howed with hothers | ⟨own, hown, hname⟩
    · exact .inl (.inl hothers)
    · -- another fetch of the pass may have the same name
      rcases List.mem_append.mp hown with hbefore | hrest
      · exact .inl (.inr ⟨own, List.mem_append_left _ hbefore, hname⟩)
      · rcases List.mem_cons.mp hrest with rfl | hafter
        · exact .inr hname
        · exact .inl (.inr ⟨own, List.mem_append_right _ hafter, hname⟩)

/-! ## 2. All passes -/

namespace Scene

/-- Some pass of the provider owes the name. -/
def Owes (scene : Scene) (p : Provider) (name : String) : Prop :=
  ∃ pass ∈ scene.passes, pass.1 = p ∧ pass.2.Owes name

/-- For every mark in a slot some pass of its provider answers, and all else is settled. -/
def Accounted (scene : Scene) : Prop := ∀ p, (scene.store.slot p).Accounted (scene.Owes p)

variable {config : Config} {worlds : World → Prop} {scene scene' : Scene}

/-- **Every step keeps every mark accounted for.** -/
theorem Step.accounted (h : Step config worlds scene scene') (hscene : scene.Accounted) :
    scene'.Accounted := by
  cases h with
  | @pass store p stage stage' slot h before after =>
    -- what the passes owe that do not take this step
    let others (q : Provider) (name : String) : Prop :=
      ∃ pass ∈ before ++ after, pass.1 = q ∧ pass.2.Owes name
    have howes : ∀ (stage : Stage p.Quota) (store : Store) q name,
        Owes ⟨store, before ++ ⟨p, stage⟩ :: after⟩ q name ↔
          others q name ∨ p = q ∧ stage.Owes name := by
      intro stage store q name
      simp only [Owes, others, List.mem_append, List.mem_cons, or_and_right, exists_or,
        exists_eq_left]
      constructor
      · rintro (hbefore | hpass | hafter)
        · exact .inl (.inl hbefore)
        · exact .inr hpass
        · exact .inl (.inr hafter)
      · rintro ((hbefore | hafter) | hpass)
        · exact .inl hbefore
        · exact .inr (.inr hafter)
        · exact .inr (.inl hpass)
    intro q
    by_cases hq : p = q
    · subst hq
      have hslot : (store.slot p).Accounted fun name => others p name ∨ stage.Owes name :=
        (hscene p).imp fun name howed => ((howes stage store p name).mp howed).imp_right (·.2)
      rw [Store.slot_setSlot_self]
      exact (h.accounted hslot).imp fun name howed =>
        (howes stage' _ p name).mpr (howed.imp_right fun hstage => ⟨rfl, hstage⟩)
    · rw [Store.slot_setSlot_of_ne store (Ne.symm hq)]
      refine (hscene q).imp fun name howed => (howes stage' _ q name).mpr ?_
      exact .inl (((howes stage store q name).mp howed).resolve_right fun ⟨heq, _⟩ => hq heq)

theorem accounted_of_leads (hrun : Leads config worlds scene scene')
    (h : scene.Accounted) : scene'.Accounted := by
  induction hrun with
  | refl => exact h
  | tail _ hstep ih => exact hstep.accounted ih

/-- A pass that has ended owes nothing. -/
theorem Returned.not_owes (h : scene.Returned) (p : Provider) (name : String) :
    ¬ scene.Owes p name := by
  rintro ⟨⟨q, stage⟩, hpass, -, howes⟩
  have hended := h _ hpass
  match stage with
  | .listed _ => exact howes
  | .marking .. => cases hended
  | .fetching _ [] =>
    obtain ⟨fetch, hfetch, -⟩ := howes
    cases hfetch
  | .fetching _ (_ :: _) => cases hended

end Scene

/-! ## 3. Every run can be carried on to the end -/

theorem Scene.Step.imp {config : Config} {worlds worlds' : World → Prop} {scene scene' : Scene}
    (h : Step config worlds scene scene') (himp : ∀ x, worlds x → worlds' x) :
    Step config worlds' scene scene' := by
  obtain ⟨hstep, before, after⟩ := h
  refine .pass ?_ before after
  cases hstep with
  | drop | mark | begin | settle => constructor
  | fetch hx h => exact .fetch (himp _ hx) h ..

/-- A fetch that is under way ends, if every request is answered. -/
theorem Answers.exists_rest_foresee (x : Answers) {α : Type} (p : Progress α) :
    ∃ a, (x.world.foresee p).rest = .ready (.done a) := by
  induction p with
  | ready plan => exact ⟨_, x.rest_outlook plan⟩
  | waiting request next => exact ⟨_, x.rest_outlook (next (x.call request))⟩
  | both left right next ihleft ihright =>
    obtain ⟨a, ha⟩ := ihleft
    obtain ⟨b, hb⟩ := ihright
    refine ⟨x.result (next a b), ?_⟩
    simp only [World.foresee, Outlook.join, ha, hb, Progress.result?, x.rest_outlook]

/-- A pass that waits where every request is answered has ended. -/
theorem Stage.Waits.ended {α : Type} {x : Answers} {stage : Stage α} (h : stage.Waits x.world) :
    stage.summary?.isSome = true := by
  match stage with
  | .listed _ | .marking .. => exact h.elim
  | .fetching summary [] => rfl
  | .fetching summary (fetch :: rest) =>
    obtain ⟨hstill, hnone⟩ := h fetch List.mem_cons_self
    obtain ⟨a, ha⟩ := x.exists_rest_foresee fetch.2
    rw [hstill] at ha
    have hdone : fetch.2 = .ready (.done a) := ha
    rw [hdone] at hnone
    cases hnone

/-- **Wherever a run has come, all passes can still end.** -/
theorem Scene.exists_returned (config : Config) (scene : Scene) :
    ∃ later, Leads config World.Any scene later ∧ later.Returned := by
  let x : Answers := ⟨fun _ => .error (.missing "reply"), fun _ => none, 0⟩
  induction acc_step config x.world scene with
  | intro scene _ ih =>
    rcases scene.exists_step_or config x.world with ⟨next, hstep⟩ | hwaits
    · obtain ⟨later, hrun, hreturned⟩ := ih next hstep
      exact ⟨later, .head (hstep.imp fun _ _ => trivial) hrun, hreturned⟩
    · exact ⟨scene, .refl, fun pass hpass => (hwaits pass hpass).ended⟩

/-! ## 4. One turn after the other -/

variable {σ : Type}

/-- The call that a turn makes. -/
def Turn.call (t : Turn σ) : Call := ⟨t.action, t.listed⟩

/-- A pass that is run is a run of its steps. -/
theorem Adapter.pass_leads {α : Type} (a : Adapter α) (carrier : Carrier (StateM σ))
    (listing : List Credential) (slot : Slot α) (w : σ) :
    a.Leads World.Any (.listed (a.targets listing), slot)
      (.fetching ((a.pass carrier listing slot).run w).1.2 [],
        ((a.pass carrier listing slot).run w).1.1) := by
  obtain ⟨settled, p, hunderway, hpass, hresults⟩ := a.pass_settled carrier listing slot w
  rw [hpass]
  refine hunderway.leads fun o ho => ?_
  obtain ⟨w', hresult⟩ := hresults o ho
  have hends := (a.fetch o.1).run_ends carrier w'
  rw [← hresult] at hends
  exact hends.leads

namespace Board

/-- **A turn is a run of the passes of its call.** -/
theorem take_leads (b : Board) (t : Turn σ)
    (before after : List ((p : Provider) × Stage p.Quota)) :
    ∃ ended, (∀ pass ∈ ended, pass.2.summary?.isSome = true) ∧
      Scene.Leads b.config World.Any
        ⟨b.store, before ++ t.call.passes b.config ++ after⟩
        ⟨(b.take t).2.1.store, before ++ ended ++ after⟩ := by
  have hstill : t.call.passes b.config = [] → (b.take t).2.1.store = b.store →
      ∃ ended, (∀ pass ∈ ended, pass.2.summary?.isSome = true) ∧
        Scene.Leads b.config World.Any
          ⟨b.store, before ++ t.call.passes b.config ++ after⟩
          ⟨(b.take t).2.1.store, before ++ ended ++ after⟩ := by
    intro hpasses hstore
    rw [hpasses, hstore]
    exact ⟨[], fun _ h => (List.not_mem_nil h).elim, .refl⟩
  cases hlists : t.action.lists with
  | false =>
    have hcovers : ∀ p, t.action.covers p = false := fun p => by
      rw [← Bool.not_eq_true]
      exact fun hcovers => absurd (hlists.symm.trans (Action.lists_of_covers hcovers)) (by decide)
    refine hstill ?_ (take_store_of_not_lists b hlists)
    unfold Call.passes
    split
    · rfl
    · simp [Turn.call, hcovers]
  | true =>
    cases hlisted : t.listed with
    | error e =>
      refine hstill ?_ (take_of_unlisted b hlists hlisted).2.2
      simp only [Call.passes, Turn.call, hlisted]
    | ok listing =>
      have hnodup : (Provider.all.filter t.action.covers).Nodup := by
        have hall : Provider.all.Nodup := by decide
        exact hall.filter _
      have hmem : ∀ p, p ∈ Provider.all.filter t.action.covers ↔ t.action.covers p = true := by
        intro p
        have hall : p ∈ Provider.all := by cases p <;> decide
        rw [List.mem_filter, and_iff_right hall]
      simp only [Call.passes, Turn.call, hlisted]
      have hpasses : ∀ p ∈ Provider.all.filter t.action.covers, ∃ stage : Stage p.Quota,
          stage.summary?.isSome = true ∧ (b.config.adapter p).Leads World.Any
            (.listed ((b.config.adapter p).targets listing), b.store.slot p)
            (stage, (b.take t).2.1.store.slot p) := by
        intro p hp
        obtain ⟨w, hslot⟩ := take_pass b ((hmem p).mp hp) hlisted
        rw [hslot]
        exact ⟨_, rfl, (b.config.adapter p).pass_leads _ listing _ w⟩
      obtain ⟨ended, -, hended, hrun⟩ := Scene.leads_passes listing hnodup hpasses
        (fun p hp => take_slot_of_not_passes b fun hpasses => hp ((hmem p).mpr hpasses.1))
        before after
      exact ⟨ended, hended, hrun⟩

/-- **Turns that are taken one after the other are a run of all their calls.** -/
theorem run_leads (b : Board) (turns : List (Turn σ)) :
    ∃ scene : Scene, Scene.Leads b.config World.Any
        (b.scene (turns.map Turn.call)) scene ∧
      scene.Returned ∧ scene.store = (b.run turns).store := by
  -- the passes of earlier turns have ended and stand before those of later ones
  suffices h : ∀ (b : Board) (before : List ((p : Provider) × Stage p.Quota)),
      (∀ pass ∈ before, pass.2.summary?.isSome = true) →
      ∃ passes, (∀ pass ∈ passes, pass.2.summary?.isSome = true) ∧
        Scene.Leads b.config World.Any
          ⟨b.store, before ++ (turns.map Turn.call).flatMap (·.passes b.config)⟩
          ⟨(b.run turns).store, passes⟩ by
    obtain ⟨passes, hended, hrun⟩ := h b [] fun _ h => (List.not_mem_nil h).elim
    exact ⟨⟨(b.run turns).store, passes⟩, hrun, hended, rfl⟩
  induction turns with
  | nil =>
    intro b before hbefore
    rw [List.map_nil, List.flatMap_nil, List.append_nil]
    exact ⟨before, hbefore, .refl⟩
  | cons t turns ih =>
    intro b before hbefore
    obtain ⟨ended, hended, htake⟩ := b.take_leads t before
      ((turns.map Turn.call).flatMap (·.passes b.config))
    have hboth : ∀ pass ∈ before ++ ended, pass.2.summary?.isSome = true := fun pass hpass =>
      (List.mem_append.mp hpass).elim (hbefore pass) (hended pass)
    obtain ⟨passes, hpasses, hrest⟩ := ih (b.take t).2.1 (before ++ ended) hboth
    refine ⟨passes, hpasses, ?_⟩
    rw [take_config] at hrest
    rw [List.map_cons, List.flatMap_cons, ← List.append_assoc, run_cons]
    exact htake.trans hrest

/-! ## 5. Summary -/

/-- **Calls that overlap leave nothing loading.**  On a board on which everything is settled, some
calls are made, each with its listing, and their passes take turns in any order, with any replies.
Once all have ended, everything is settled again; and they can end, wherever they have come.  Turns
that are taken one after the other are one of these runs. -/
theorem calls_settle (b : Board)
    (hsettled : ∀ p (name : String) state, (b.store.slot p)[name]? = some state →
      state.isSettled = true) :
    (∀ (calls : List Call) scene,
      Scene.Leads b.config World.Any (b.scene calls) scene →
      (scene.Returned → ∀ p (name : String) state, (scene.store.slot p)[name]? = some state →
        state.isSettled = true) ∧
      ∃ later, Scene.Leads b.config World.Any scene later ∧ later.Returned) ∧
    ∀ turns : List (Turn σ), ∃ scene,
      Scene.Leads b.config World.Any (b.scene (turns.map Turn.call)) scene ∧
      scene.Returned ∧ scene.store = (b.run turns).store := by
  refine ⟨fun calls scene hrun => ⟨fun hreturned p name state hstate => ?_, ?_⟩, b.run_leads⟩
  · have hbegin : (b.scene calls).Accounted := fun p name state hstate =>
      .inl (hsettled p name state hstate)
    have haccounted := Scene.accounted_of_leads hrun hbegin
    exact (haccounted p).isSettled (hreturned.not_owes p) hstate
  · exact Scene.exists_returned b.config scene

/-- Two calls for the same credential, which lacks its index.  The second pass drops what is not
live; then the first one has its whole course, and its call returns; then the second one marks the
name again.  This is owed, and settled when the second call returns. -/
theorem calls_settle_marked_again :
    let c := Credential.sampleCodex "a.json" none false
    let b : Board := { config := .default }
    let call : Call := ⟨.refreshProvider .codex false, .ok [c]⟩
    ∃ between later : Scene,
      Scene.Leads b.config World.Any (b.scene [call, call]) between ∧
      (∃ pass ∈ between.passes, pass.2.summary?.isSome = true) ∧
      (between.store.slot .codex)["a.json"]? = some .loading ∧
      Scene.Leads b.config World.Any between later ∧ later.Returned ∧
      ∀ p (name : String) state, (later.store.slot p)[name]? = some state →
        state.isSettled = true := by
  intro c b call
  let a := b.config.adapter .codex
  have hc : a.accepts c = true := by
    rw [b.config.accepts_adapter]
    exact Credential.isFetchedBy_sampleCodex "a.json" none false
  have htargets : a.targets [c] = [c] := by
    rw [Adapter.targets, List.filter_cons, if_pos hc, List.filter_nil]
  have hpasses : call.passes b.config = [⟨.codex, .listed [c]⟩] := by
    change [(⟨.codex, .listed (a.targets [c])⟩ : (p : Provider) × Stage p.Quota)] = _
    rw [htargets]
  have hscene : b.scene [call, call] =
      ⟨.empty, [⟨.codex, .listed [c]⟩, ⟨.codex, .listed [c]⟩]⟩ := by
    simp only [Board.scene, List.flatMap_cons, List.flatMap_nil, hpasses]
    rfl
  -- the second pass drops what is not live
  let dropped := Store.empty.setSlot .codex ((Store.empty.slot .codex).retain ["a.json"])
  have hdrop : Scene.Leads b.config World.Any (b.scene [call, call])
      ⟨dropped, [⟨.codex, .listed [c]⟩, ⟨.codex, .marking [] [c]⟩]⟩ := by
    rw [hscene]
    exact Scene.leads_pass (.single (.drop [c] _)) [⟨.codex, .listed [c]⟩] []
  -- the first one has its course
  have hcourse := a.pass_leads scripted [c] (dropped.slot .codex) []
  rw [htargets] at hcourse
  have hfirst := Scene.leads_pass hcourse [] [⟨.codex, .marking [] [c]⟩]
  generalize ((a.pass scripted [c] (dropped.slot .codex)).run []).1.1 = slot at hfirst
  generalize ((a.pass scripted [c] (dropped.slot .codex)).run []).1.2 = summary at hfirst
  -- the second one marks the name again
  let first := dropped.setSlot .codex slot
  let marked := first.setSlot .codex ((first.slot .codex).markLoading "a.json")
  have hmark : Scene.Leads b.config World.Any
      ⟨first, [⟨.codex, .fetching summary []⟩, ⟨.codex, .marking [] [c]⟩]⟩
      ⟨marked, [⟨.codex, .fetching summary []⟩, ⟨.codex, .marking [c] []⟩]⟩ :=
    Scene.leads_pass (.single (.mark [] c [] _)) [⟨.codex, .fetching summary []⟩] []
  have hbetween := (hdrop.trans hfirst).trans hmark
  obtain ⟨hruns, -⟩ := b.calls_settle (σ := Unit) fun p name state h => by
    simp [b, Store.slot_empty] at h
  obtain ⟨-, later, hlater, hreturned⟩ := hruns [call, call] _ hbetween
  refine ⟨_, later, hbetween, ⟨⟨.codex, .fetching summary []⟩, by simp, rfl⟩, ?_, hlater, hreturned,
    (hruns [call, call] later (hbetween.trans hlater)).1 hreturned⟩
  rw [Store.slot_setSlot_self, Slot.getElem?_markLoading, if_pos rfl]

end Board

end QuotaBoard
