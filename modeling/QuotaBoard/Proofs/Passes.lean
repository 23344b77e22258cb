import QuotaBoard.Proofs.BoardRuns
import QuotaBoard.Proofs.Interleaving
import QuotaBoard.Proofs.Results
import Mathlib.Algebra.GroupWithZero.Nat
import Mathlib.Logic.Relation

/-!
# Passes under way, one small step after the other

Any number of passes may be under way on one board, of one provider or of several, and each goes on
whenever it can.  A pass touches the slot of its provider in single steps: it drops the names that
are no targets, marks one target after the other, and writes one result after the other.  Between
any two of these other passes may have done any of theirs.

* `Adapter.Step` are the steps of one pass, with those of its fetches among them.
* `Scene.Step` is a step of one of the passes that are under way on a board.
* `Scene.ahead` counts the steps before a scene in a world that does not change, so no run goes on
  for ever; `Scene.exists_step_or` says where it ends.
-/

namespace QuotaBoard

/-! ## 1. The steps of a pass -/

/-- A fetch that was begun: the credential, and how far its plan has got. -/
abbrev Begun (α : Type) := Credential × Progress (Except FetchError α)

/-- How far a pass has got. -/
inductive Stage (α : Type) where
  /-- The targets are known, and nothing was written. -/
  | listed (targets : List Credential)
  /-- The names that are no targets were dropped; some targets were marked, others were not yet. -/
  | marking (marked unmarked : List Credential)
  /-- All targets were marked, and these fetches have not settled. -/
  | fetching (summary : Summary) (fetches : List (Begun α))

namespace Stage

variable {α : Type}

/-- The summary with which the pass has ended. -/
def summary? : Stage α → Option Summary
  | fetching summary [] => some summary
  | _ => none

/-- The calls that are out. -/
def outstanding : Stage α → List ApiRequest
  | fetching _ fetches => fetches.flatMap (·.2.outstanding)
  | _ => []

end Stage

/-- A fetch of which no step was taken. -/
def Adapter.begun {α : Type} (a : Adapter α) (c : Credential) : Begun α := (c, .ready (a.fetch c))

/-- A single step of a pass, in one of some worlds: what becomes of its stage, and of the slot. -/
inductive Adapter.Step {α : Type} (a : Adapter α) (worlds : World → Prop) :
    Stage α × Slot α → Stage α × Slot α → Prop where
  | drop (targets : List Credential) (slot : Slot α) :
      a.Step worlds (.listed targets, slot)
        (.marking [] targets, slot.retain (targets.map (·.name)))
  | mark (marked : List Credential) (c : Credential) (unmarked : List Credential) (slot : Slot α) :
      a.Step worlds (.marking marked (c :: unmarked), slot)
        (.marking (marked ++ [c]) unmarked, slot.markLoading c.name)
  | begin (targets : List Credential) (slot : Slot α) :
      a.Step worlds (.marking targets [], slot)
        (.fetching (.start a.provider targets.length) (targets.map a.begun), slot)
  | fetch {x : World} (hx : worlds x) {p p' : Progress (Except FetchError α)} {sent : List Sent}
      (h : p.Step x sent p') (summary : Summary) (before : List (Begun α)) (c : Credential)
      (after : List (Begun α)) (slot : Slot α) :
      a.Step worlds (.fetching summary (before ++ (c, p) :: after), slot)
        (.fetching summary (before ++ (c, p') :: after), slot)
  | settle (summary : Summary) (before : List (Begun α)) (c : Credential)
      (result : Except FetchError α) (after : List (Begun α)) (slot : Slot α) :
      a.Step worlds (.fetching summary (before ++ (c, .ready (.done result)) :: after), slot)
        (.fetching (summary.count result) (before ++ after), slot.settle (c, result))

/-! ## 2. The steps of all passes -/

/-- A board with the passes that are under way on it. -/
structure Scene where
  store : Store
  passes : List ((p : Provider) × Stage p.Quota)

namespace Scene

/-- A step of one of the passes. -/
inductive Step (config : Config) (worlds : World → Prop) : Scene → Scene → Prop where
  | pass {store : Store} {p : Provider} {stage stage' : Stage p.Quota} {slot : Slot p.Quota}
      (h : (config.adapter p).Step worlds (stage, store.slot p) (stage', slot))
      (before after : List ((p : Provider) × Stage p.Quota)) :
      Step config worlds ⟨store, before ++ ⟨p, stage⟩ :: after⟩
        ⟨store.setSlot p slot, before ++ ⟨p, stage'⟩ :: after⟩

/-- The calls that are out. -/
def outstanding (scene : Scene) : List ApiRequest := scene.passes.flatMap (·.2.outstanding)

/-- All passes have ended. -/
def Returned (scene : Scene) : Prop := ∀ pass ∈ scene.passes, pass.2.summary?.isSome = true

end Scene

/-- A call that is made on a board, and what it is told when it lists the credentials. -/
structure Call where
  action : Action
  listed : Except Failure (List Credential)

/-- The passes of a call before their first step; there is none if the listing fails. -/
def Call.passes (config : Config) (call : Call) : List ((p : Provider) × Stage p.Quota) :=
  match call.listed with
  | .error _ => []
  | .ok listing => (Provider.all.filter call.action.covers).map fun p =>
    ⟨p, .listed ((config.adapter p).targets listing)⟩

/-- A board on which some calls are made, before the first step of any of them. -/
def Board.scene (b : Board) (calls : List Call) : Scene :=
  ⟨b.store, calls.flatMap (·.passes b.config)⟩

/-! ## 3. How many steps there are -/

/-- How many steps a fetch has before it in a world that does not change, and one to settle. -/
def World.ahead (x : World) {α : Type} (fetch : Begun α) : Nat := (x.foresee fetch.2).steps + 1

/-- How many steps a pass has before it in a world that does not change, if all its fetches
settle. -/
def Stage.ahead {α : Type} (a : Adapter α) (x : World) : Stage α → Nat
  | listed targets => targets.length + 2 + ((targets.map a.begun).map x.ahead).sum
  | marking marked unmarked =>
    unmarked.length + 1 + (((marked ++ unmarked).map a.begun).map x.ahead).sum
  | fetching _ fetches => (fetches.map x.ahead).sum

/-- **A step of a pass takes one of the steps before it.** -/
theorem Adapter.Step.ahead_eq {α : Type} {a : Adapter α} {x : World} {s s' : Stage α × Slot α}
    (h : a.Step (· = x) s s') : s.1.ahead a x = s'.1.ahead a x + 1 := by
  cases h with
  | drop targets slot => simp only [Stage.ahead, List.nil_append]; omega
  | mark marked c unmarked slot =>
    simp only [Stage.ahead, List.append_assoc, List.singleton_append, List.length_cons]
    omega
  | begin targets slot => simp [Stage.ahead, Nat.add_comm]
  | fetch hx h summary before c after slot =>
    obtain rfl := hx
    simp only [Stage.ahead, List.map_append, List.map_cons, List.sum_append, List.sum_cons,
      World.ahead, h.foresee_eq, Outlook.before]
    omega
  | settle summary before c result after slot =>
    have hdone : x.ahead ((c, .ready (.done result)) : Begun α) = 1 := rfl
    simp only [Stage.ahead, List.map_append, List.map_cons, List.sum_append, List.sum_cons, hdone]
    omega

/-- All that a pass still does is wait for replies: no fetch can go on, and none can settle. -/
def Stage.Waits {α : Type} (x : World) : Stage α → Prop
  | fetching _ fetches => ∀ fetch ∈ fetches,
    x.foresee fetch.2 = .still fetch.2 ∧ fetch.2.result? = none
  | _ => False

/-- **A pass goes on until all that it does is wait for replies.** -/
theorem Adapter.exists_step_or {α : Type} (a : Adapter α) (x : World) (stage : Stage α)
    (slot : Slot α) :
    (∃ s', a.Step (· = x) (stage, slot) s') ∨ stage.Waits x := by
  cases stage with
  | listed targets => exact .inl ⟨_, .drop targets slot⟩
  | marking marked unmarked =>
    cases unmarked with
    | nil => exact .inl ⟨_, .begin marked slot⟩
    | cons c unmarked => exact .inl ⟨_, .mark marked c unmarked slot⟩
  | fetching summary fetches =>
    by_cases hwaits : (Stage.fetching summary fetches).Waits x
    · exact .inr hwaits
    · -- some fetch can go on or has its result
      simp only [Stage.Waits, Classical.not_forall] at hwaits
      obtain ⟨⟨c, p⟩, hmem, hfetch⟩ := hwaits
      obtain ⟨before, after, rfl⟩ := List.append_of_mem hmem
      rcases p.exists_step_or_still x with ⟨sent, p', hstep⟩ | hstill
      · refine .inl ⟨(.fetching summary (before ++ (c, p') :: after), slot), ?_⟩
        refine .fetch (x := x) ?_ hstep summary before c after slot
        rfl
      · have hsome : p.result? ≠ none := fun hnone => hfetch ⟨hstill, hnone⟩
        obtain ⟨result, hresult⟩ := Option.ne_none_iff_exists'.mp hsome
        obtain rfl := Progress.result?_eq_some_iff.mp hresult
        exact .inl ⟨_, .settle summary before c result after slot⟩

/-- A pass that waits for replies takes no step without one. -/
theorem Stage.Waits.not_step {α : Type} {a : Adapter α} {x : World} {stage : Stage α}
    (h : stage.Waits x) (slot : Slot α) (s' : Stage α × Slot α) :
    ¬ a.Step (· = x) (stage, slot) s' := by
  intro hstep
  cases hstep with
  | drop | mark | begin => exact h
  | fetch hx hp summary before c after slot =>
    obtain rfl := hx
    exact Progress.still_iff.mp (h (c, _) (by simp)).1 _ _ hp
  | settle summary before c result after slot =>
    exact absurd (h (c, .ready (.done result)) (by simp)).2 (by simp [Progress.result?])

namespace Scene

variable {config : Config} {x : World} {scene scene' : Scene}

/-- How many steps all passes have before them. -/
def ahead (config : Config) (x : World) (scene : Scene) : Nat :=
  (scene.passes.map fun pass => pass.2.ahead (config.adapter pass.1) x).sum

theorem Step.ahead_eq (h : Step config (· = x) scene scene') :
    scene.ahead config x = scene'.ahead config x + 1 := by
  cases h with
  | pass h before after =>
    have hahead := h.ahead_eq
    simp only [ahead, List.map_append, List.map_cons, List.sum_append, List.sum_cons] at hahead ⊢
    omega

/-- **No run goes on for ever.** -/
theorem acc_step (config : Config) (x : World) (scene : Scene) :
    Acc (fun later earlier => Step config (· = x) earlier later) scene := by
  refine Subrelation.accessible (fun {later earlier} h => ?_)
    (InvImage.accessible (ahead config x) (Nat.lt_wfRel.wf.apply (scene.ahead config x)))
  change later.ahead config x < earlier.ahead config x
  rw [h.ahead_eq]
  exact Nat.lt_succ_self _

/-- **A scene goes on until all that any pass does is wait for replies.** -/
theorem exists_step_or (config : Config) (x : World) (scene : Scene) :
    (∃ later, Step config (· = x) scene later) ∨ ∀ pass ∈ scene.passes, pass.2.Waits x := by
  by_cases hwaits : ∀ pass ∈ scene.passes, pass.2.Waits x
  · exact .inr hwaits
  · simp only [Classical.not_forall] at hwaits
    obtain ⟨⟨p, stage⟩, hmem, hpass⟩ := hwaits
    obtain ⟨store, passes⟩ := scene
    obtain ⟨before, after, rfl⟩ := List.append_of_mem hmem
    rcases (config.adapter p).exists_step_or x stage (store.slot p) with ⟨s', hstep⟩ | hwaits
    · exact .inl ⟨_, .pass hstep before after⟩
    · exact absurd hwaits hpass

end Scene

/-! ## 4. Runs -/

open Relation (ReflTransGen)

/-- Any world: it may be another one at each step. -/
abbrev World.Any (_ : World) : Prop := True

/-- Where the steps of a plan can lead in some worlds. -/
def Progress.Leads (worlds : World → Prop) {α : Type} :
    Progress α → Progress α → Prop :=
  ReflTransGen fun p p' => ∃ x sent, worlds x ∧ p.Step x sent p'

namespace Progress

variable {worlds : World → Prop} {α : Type}

theorem Run.leads {x : World} (hx : worlds x) {p p' : Progress α} {n : Nat} {sent : List Sent}
    (h : p.Run x n sent p') : p.Leads worlds p' := by
  induction h with
  | refl p => exact .refl
  | step h _ ih => exact .head ⟨_, _, hx, h⟩ ih

/-- A plan can come to where it comes to rest. -/
theorem leads_rest (x : World) (p : Progress α) : p.Leads (· = x) (x.foresee p).rest := by
  obtain ⟨sent, hrun⟩ := exists_run_rest x p
  refine Run.leads ?_ hrun
  rfl

theorem Leads.left {β γ : Type} {left left' : Progress β} (h : left.Leads worlds left')
    (right : Progress γ) (next : β → γ → Fetch α) :
    (both left right next).Leads worlds (both left' right next) :=
  ReflTransGen.lift (both · right next)
    (fun _ _ ⟨x, _, hx, hstep⟩ => ⟨x, _, hx, .left hstep right next⟩) _ _ h

theorem Leads.right {β γ : Type} {right right' : Progress γ} (h : right.Leads worlds right')
    (left : Progress β) (next : β → γ → Fetch α) :
    (both left right next).Leads worlds (both left right' next) :=
  ReflTransGen.lift (both left · next)
    (fun _ _ ⟨x, _, hx, hstep⟩ => ⟨x, _, hx, .right hstep left next⟩) _ _ h

end Progress

/-- **Whatever a plan can end with, some run comes to it**, if any worlds are allowed. -/
theorem Fetch.Ends.leads {α : Type} {plan : Fetch α} {result : α} (h : plan.Ends result) :
    (Progress.ready plan).Leads World.Any (.ready (.done result)) := by
  induction plan with
  | done a =>
    obtain rfl := h
    exact .refl
  | call request next ih =>
    obtain ⟨reply, hnext⟩ := h
    let x : World := ⟨fun _ => some reply, fun _ => none, 0⟩
    have hsend : (Progress.ready (.call request next)).Step x _ _ := .send request next
    have hhear : (Progress.waiting request next).Step x _ _ := .hear rfl next
    exact .head ⟨x, _, trivial, hsend⟩ (.head ⟨x, _, trivial, hhear⟩ (ih reply hnext))
  | tokenFile name next ih =>
    obtain ⟨content, hnext⟩ := h
    let x : World := ⟨fun _ => none, fun _ => content, 0⟩
    have hread : (Progress.ready (.tokenFile name next)).Step x _ _ := .read name next
    exact .head ⟨x, _, trivial, hread⟩ (ih content hnext)
  | clock next ih =>
    obtain ⟨now, hnext⟩ := h
    let x : World := ⟨fun _ => none, fun _ => none, now⟩
    have hlook : (Progress.ready (.clock next)).Step x _ _ := .look next
    exact .head ⟨x, _, trivial, hlook⟩ (ih now hnext)
  | both left right next ihleft ihright ihnext =>
    obtain ⟨a, b, hleft, hright, hnext⟩ := h
    let x : World := ⟨fun _ => none, fun _ => none, 0⟩
    have hpart : (Progress.ready (.both left right next)).Step x _ _ := .part left right next
    have hjoin : (Progress.both (.ready (.done a)) (.ready (.done b)) next).Step x _ _ :=
      .join a b next
    exact .head ⟨x, _, trivial, hpart⟩ (((ihleft hleft).left _ next).trans
      (((ihright hright).right _ next).trans (.head ⟨x, _, trivial, hjoin⟩ (ihnext a b hnext))))

/-- Where the steps of a pass can lead in some worlds. -/
def Adapter.Leads {α : Type} (a : Adapter α) (worlds : World → Prop) :
    Stage α × Slot α → Stage α × Slot α → Prop :=
  ReflTransGen (a.Step worlds)

namespace Adapter

variable {α : Type} {a : Adapter α} {worlds : World → Prop}

theorem leads_fetch {p p' : Progress (Except FetchError α)} (h : p.Leads worlds p')
    (summary : Summary) (before : List (Begun α)) (c : Credential) (after : List (Begun α))
    (slot : Slot α) :
    a.Leads worlds (.fetching summary (before ++ (c, p) :: after), slot)
      (.fetching summary (before ++ (c, p') :: after), slot) :=
  ReflTransGen.lift (p := a.Step worlds)
    (fun p => (Stage.fetching summary (before ++ (c, p) :: after), slot))
    (fun _ _ ⟨_, _, hx, hstep⟩ => .fetch hx hstep summary before c after slot) _ _ h

theorem leads_marked (marked unmarked : List Credential) (slot : Slot α) :
    a.Leads worlds (.marking marked unmarked, slot)
      (.marking (marked ++ unmarked) [], (unmarked.map (·.name)).foldl Slot.markLoading slot) := by
  induction unmarked generalizing marked slot with
  | nil =>
    rw [List.append_nil]
    exact .refl
  | cons c unmarked ih =>
    have hrest := ih (marked ++ [c]) (slot.markLoading c.name)
    rw [List.append_assoc, List.singleton_append] at hrest
    exact .head (.mark marked c unmarked slot) hrest

/-- A pass begins as `begin` says. -/
theorem leads_begin (targets : List Credential) (slot : Slot α) :
    a.Leads worlds (.listed targets, slot)
      (.fetching (a.begin targets slot).summary (targets.map a.begun),
        (a.begin targets slot).slot) := by
  refine .head (.drop targets slot) ?_
  exact ReflTransGen.tail (leads_marked [] targets _) (.begin targets _)

/-- **A course that a pass can take is one of its runs**, if some run of each fetch comes to the
result with which the fetch settles. -/
theorem Underway.leads {listing pending : List Credential} {slot : Slot α}
    {settled : List (Outcome α)} {p : Pass α} (h : a.Underway listing slot pending settled p)
    (hresults : ∀ o ∈ settled, (Progress.ready (a.fetch o.1)).Leads worlds (.ready (.done o.2))) :
    a.Leads worlds (.listed (a.targets listing), slot)
      (.fetching p.summary (pending.map a.begun), p.slot) := by
  induction h with
  | begun => exact leads_begin _ slot
  | @settled before after c settled p _ result ih =>
    have hpending := ih fun o ho => hresults o (List.mem_append_left _ ho)
    rw [List.map_append, List.map_cons] at hpending
    have hfetch := leads_fetch (a := a) (hresults (c, result) (by simp)) p.summary
      (before.map a.begun) c (after.map a.begun) p.slot
    rw [List.map_append]
    exact (hpending.trans hfetch).tail
      (.settle p.summary (before.map a.begun) c result (after.map a.begun) p.slot)

end Adapter

namespace Scene

/-- Where the steps of all passes can lead in some worlds. -/
def Leads (config : Config) (worlds : World → Prop) : Scene → Scene → Prop :=
  ReflTransGen (Step config worlds)

variable {config : Config} {worlds : World → Prop}

/-- The steps of one pass are steps of the scene. -/
theorem leads_pass {store : Store} {p : Provider} {stage stage' : Stage p.Quota}
    {slot : Slot p.Quota}
    (h : (config.adapter p).Leads worlds (stage, store.slot p) (stage', slot))
    (before after : List ((p : Provider) × Stage p.Quota)) :
    Leads config worlds ⟨store, before ++ ⟨p, stage⟩ :: after⟩
      ⟨store.setSlot p slot, before ++ ⟨p, stage'⟩ :: after⟩ := by
  let scene (s : Stage p.Quota × Slot p.Quota) : Scene :=
    ⟨store.setSlot p s.2, before ++ ⟨p, s.1⟩ :: after⟩
  have hstep : ∀ s s', (config.adapter p).Step worlds s s' →
      Step config worlds (scene s) (scene s') := by
    rintro ⟨stage, slot⟩ s' hstep
    have hown : (config.adapter p).Step worlds (stage, (store.setSlot p slot).slot p) s' := by
      rwa [Store.slot_setSlot_self]
    have hscene := Step.pass hown before after
    rwa [Store.setSlot_setSlot] at hscene
  have hlift := ReflTransGen.lift (p := Step config worlds) scene hstep _ _ h
  simpa only [Leads, Function.onFun, scene, Store.setSlot_slot] using hlift

/-- **Passes of several providers, one after the other.**  Each goes on in its own slot until it has
come to a stage that is wanted. -/
theorem leads_passes (listing : List Credential) {providers : List Provider}
    (hnodup : providers.Nodup) {wanted : ∀ {p : Provider}, Stage p.Quota → Prop}
    {store store' : Store}
    (hpasses : ∀ p ∈ providers, ∃ stage : Stage p.Quota, wanted stage ∧
      (config.adapter p).Leads worlds (.listed ((config.adapter p).targets listing), store.slot p)
        (stage, store'.slot p))
    (hothers : ∀ p ∉ providers, store'.slot p = store.slot p)
    (before after : List ((p : Provider) × Stage p.Quota)) :
    ∃ passes : List ((p : Provider) × Stage p.Quota), passes.map (·.1) = providers ∧
      (∀ pass ∈ passes, wanted pass.2) ∧
      Leads config worlds
        ⟨store, before ++ (providers.map fun p =>
          ⟨p, .listed ((config.adapter p).targets listing)⟩) ++ after⟩
        ⟨store', before ++ passes ++ after⟩ := by
  induction providers generalizing store before with
  | nil =>
    obtain rfl : store' = store := Store.ext_slot fun p => hothers p List.not_mem_nil
    exact ⟨[], rfl, fun _ h => (List.not_mem_nil h).elim, .refl⟩
  | cons p providers ih =>
    obtain ⟨hp, hnodup⟩ := List.nodup_cons.mp hnodup
    obtain ⟨stage, hstage, hpass⟩ := hpasses p List.mem_cons_self
    have hkeeps : ∀ q, q ≠ p → (store.setSlot p (store'.slot p)).slot q = store.slot q :=
      fun q hq => Store.slot_setSlot_of_ne store hq _
    have hrest : ∀ q ∈ providers, ∃ stage : Stage q.Quota, wanted stage ∧
        (config.adapter q).Leads worlds
          (.listed ((config.adapter q).targets listing),
            (store.setSlot p (store'.slot p)).slot q) (stage, store'.slot q) := by
      intro q hq
      rw [hkeeps q fun heq => hp (heq ▸ hq)]
      exact hpasses q (List.mem_cons_of_mem p hq)
    have hrestothers : ∀ q ∉ providers,
        store'.slot q = (store.setSlot p (store'.slot p)).slot q := by
      intro q hq
      by_cases heq : q = p
      · subst heq
        rw [Store.slot_setSlot_self]
      · rw [hkeeps q heq]
        exact hothers q fun hmem => (List.mem_cons.mp hmem).elim heq hq
    obtain ⟨passes, hproviders, hwanted, hrun⟩ :=
      ih hnodup hrest hrestothers (before ++ [⟨p, stage⟩])
    refine ⟨⟨p, stage⟩ :: passes, ?_, List.forall_mem_cons.mpr ⟨hstage, hwanted⟩, ?_⟩
    · rw [List.map_cons, hproviders]
    · have hfirst := leads_pass hpass before
        ((providers.map fun p => ⟨p, .listed ((config.adapter p).targets listing)⟩) ++ after)
      simp only [List.map_cons, List.append_assoc, List.cons_append, List.nil_append]
        at hfirst hrun ⊢
      exact hfirst.trans hrun

end Scene

end QuotaBoard
