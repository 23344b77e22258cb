import QuotaBoard.Proofs.Overlap
import QuotaBoard.Proofs.Requests
import Mathlib.Data.List.Nodup

/-!
# A late result brings a dropped name back

A pass drops the names that are none of its targets, once and before anything else.  If an older
pass of the same provider is still under way, this does not reach it: whatever fetch it has begun
settles some time, and its result is written under the name that was dropped.  Nobody drops the name
again, so it is still there when both calls have returned.

This is the only way in which a dropped name comes back.  What counts is how far the older pass has
got at the moment of the drop (`Stage.Writes`):

* from there on, a name that no pass is still to write stays away (`Scene.Step.keepsOut`);
* a name that some pass is still to write, and no pass is still to drop, ends up in the slot
  (`Scene.Step.bringsBack`).
-/

namespace QuotaBoard

/-! ## 1. One pass -/

namespace Stage

variable {α : Type}

/-- The pass has still to write under this name: a mark, or the result of a fetch. -/
def Writes (name : String) : Stage α → Prop
  | listed targets => ∃ c ∈ targets, c.name = name
  | marking marked unmarked => ∃ c ∈ marked ++ unmarked, c.name = name
  | fetching _ fetches => ∃ fetch ∈ fetches, fetch.1.name = name

/-- The pass does not drop this name any more, or never does. -/
def Spares (name : String) : Stage α → Prop
  | listed targets => ∃ c ∈ targets, c.name = name
  | _ => True

theorem spares_of_writes {name : String} {stage : Stage α} (h : stage.Writes name) :
    stage.Spares name := by
  cases stage with
  | listed targets => exact h
  | marking | fetching => exact trivial

/-- A pass that has ended writes nothing. -/
theorem not_writes_of_ended {stage : Stage α} (h : stage.summary?.isSome = true) (name : String) :
    ¬ stage.Writes name := by
  match stage with
  | .listed _ | .marking .. => cases h
  | .fetching _ [] => rintro ⟨fetch, hfetch, -⟩; cases hfetch
  | .fetching _ (_ :: _) => cases h

end Stage

namespace Slot

variable {α : Type} {slot : Slot α} {name : String}

theorem mem_retain {names : List String} :
    name ∈ slot.retain names ↔ name ∈ slot ∧ name ∈ names := by
  simp only [mem_iff_getElem?, getElem?_retain]
  by_cases h : name ∈ names <;> simp [h]

theorem mem_markLoading {marked : String} :
    name ∈ slot.markLoading marked ↔ marked = name ∨ name ∈ slot := by
  simp only [mem_iff_getElem?, getElem?_markLoading]
  by_cases h : marked = name <;> simp [h]

theorem mem_settle {o : Outcome α} : name ∈ slot.settle o ↔ o.1.name = name ∨ name ∈ slot := by
  simp only [mem_iff_getElem?, getElem?_settle]
  by_cases h : o.1.name = name <;> simp [h]

end Slot

namespace Adapter.Step

variable {α : Type} {a : Adapter α} {worlds : World → Prop} {s s' : Stage α × Slot α}
  {name : String}

/-- **A pass that is not to write under a name leaves it out.** -/
theorem keepsOut (h : a.Step worlds s s') (hslot : name ∉ s.2) (hwrites : ¬ s.1.Writes name) :
    name ∉ s'.2 ∧ ¬ s'.1.Writes name := by
  cases h with
  | drop targets slot => exact ⟨fun hmem => hslot (Slot.mem_retain.mp hmem).1, hwrites⟩
  | mark marked c unmarked slot =>
    have hc : c.name ≠ name := fun hname => hwrites ⟨c, by simp, hname⟩
    refine ⟨fun hmem => (Slot.mem_markLoading.mp hmem).elim hc hslot, fun hlater => hwrites ?_⟩
    simpa only [Stage.Writes, List.append_assoc, List.singleton_append] using hlater
  | begin targets slot =>
    refine ⟨hslot, fun ⟨own, hown, hname⟩ => hwrites ?_⟩
    obtain ⟨c, hc, rfl⟩ := List.mem_map.mp hown
    exact ⟨c, by simpa using hc, hname⟩
  | fetch hx h summary before c after slot =>
    refine ⟨hslot, fun hlater => hwrites ?_⟩
    simpa only [Stage.Writes, List.mem_append, List.mem_cons, or_and_right, exists_or,
      exists_eq_left] using hlater
  | settle summary before c result after slot =>
    have hc : c.name ≠ name := fun hname => hwrites ⟨(c, .ready (.done result)), by simp, hname⟩
    refine ⟨fun hmem => (Slot.mem_settle.mp hmem).elim hc hslot, fun ⟨own, hown, hname⟩ => ?_⟩
    refine hwrites ⟨own, ?_, hname⟩
    exact (List.mem_append.mp hown).elim (List.mem_append_left _)
      fun hafter => List.mem_append_right _ (List.mem_cons_of_mem _ hafter)

/-- **A name that a pass writes, and does not drop, is written by its end.** -/
theorem bringsBack (h : a.Step worlds s s') (hspares : s.1.Spares name)
    {others : Prop} (hname : name ∈ s.2 ∨ s.1.Writes name ∨ others) :
    s'.1.Spares name ∧ (name ∈ s'.2 ∨ s'.1.Writes name ∨ others) := by
  cases h with
  | drop targets slot =>
    -- the name is one of the targets, so it is still to be written
    exact ⟨trivial, .inr (.inl hspares)⟩
  | mark marked c unmarked slot =>
    refine ⟨trivial, ?_⟩
    simpa only [Stage.Writes, List.append_assoc, List.singleton_append] using
      hname.imp_left fun hmem => Slot.mem_markLoading.mpr (.inr hmem)
  | begin targets slot =>
    refine ⟨trivial, hname.imp_right (Or.imp_left fun ⟨c, hc, hcname⟩ => ?_)⟩
    exact ⟨a.begun c, List.mem_map_of_mem (by simpa using hc), hcname⟩
  | fetch hx h summary before c after slot =>
    refine ⟨trivial, hname.imp_right (Or.imp_left fun hwrites => ?_)⟩
    simpa only [Stage.Writes, List.mem_append, List.mem_cons, or_and_right, exists_or,
      exists_eq_left] using hwrites
  | settle summary before c result after slot =>
    refine ⟨trivial, ?_⟩
    rcases hname with hmem | ⟨own, hown, hcname⟩ | hothers
    · exact .inl (Slot.mem_settle.mpr (.inr hmem))
    · rcases List.mem_append.mp hown with hbefore | hrest
      · exact .inr (.inl ⟨own, List.mem_append_left _ hbefore, hcname⟩)
      · rcases List.mem_cons.mp hrest with rfl | hafter
        · exact .inl (Slot.mem_settle.mpr (.inl hcname))
        · exact .inr (.inl ⟨own, List.mem_append_right _ hafter, hcname⟩)
    · exact .inr (.inr hothers)

end Adapter.Step

/-! ## 2. All passes -/

namespace Scene

/-- Some pass of the provider has still to write under the name. -/
def Writes (scene : Scene) (p : Provider) (name : String) : Prop :=
  ∃ pass ∈ scene.passes, pass.1 = p ∧ pass.2.Writes name

/-- No pass of the provider drops the name any more. -/
def Spares (scene : Scene) (p : Provider) (name : String) : Prop :=
  ∀ pass ∈ scene.passes, pass.1 = p → pass.2.Spares name

variable {config : Config} {worlds : World → Prop} {scene scene' : Scene} {p : Provider}
  {name : String}

/-- Where all have ended, nobody writes. -/
theorem Returned.not_writes (h : scene.Returned) (p : Provider) (name : String) :
    ¬ scene.Writes p name := by
  rintro ⟨pass, hpass, -, hwrites⟩
  exact Stage.not_writes_of_ended (h pass hpass) name hwrites

/-- **A name that nobody is to write stays away.** -/
theorem Step.keepsOut (h : Step config worlds scene scene') (hslot : name ∉ scene.store.slot p)
    (hwrites : ¬ scene.Writes p name) : name ∉ scene'.store.slot p ∧ ¬ scene'.Writes p name := by
  cases h with
  | @pass store q stage stage' slot h before after =>
    simp only [Writes, List.perm_middle.mem_iff, List.mem_cons, or_and_right, exists_or,
      exists_eq_left, not_or] at hwrites ⊢
    obtain ⟨hstage, hothers⟩ := hwrites
    by_cases hq : q = p
    · subst hq
      obtain ⟨hmem, hlater⟩ := h.keepsOut hslot fun hwrites => hstage ⟨rfl, hwrites⟩
      rw [Store.slot_setSlot_self]
      exact ⟨hmem, fun ⟨_, hwrites⟩ => hlater hwrites, hothers⟩
    · rw [Store.slot_setSlot_of_ne store (Ne.symm hq)]
      exact ⟨hslot, fun ⟨heq, _⟩ => hq heq, hothers⟩

/-- **A name that somebody is to write, and nobody drops, is there in the end.** -/
theorem Step.bringsBack (h : Step config worlds scene scene') (hspares : scene.Spares p name)
    (hname : name ∈ scene.store.slot p ∨ scene.Writes p name) :
    scene'.Spares p name ∧ (name ∈ scene'.store.slot p ∨ scene'.Writes p name) := by
  cases h with
  | @pass store q stage stage' slot h before after =>
    simp only [Writes, Spares, List.perm_middle.mem_iff, List.mem_cons, or_and_right, exists_or,
      exists_eq_left, forall_eq_or_imp] at hspares hname ⊢
    obtain ⟨hstage, hothers⟩ := hspares
    by_cases hq : q = p
    · subst hq
      simp only [true_and, forall_const, Store.slot_setSlot_self] at hstage hname ⊢
      obtain ⟨hlater, hname⟩ := h.bringsBack hstage hname
      exact ⟨⟨hlater, hothers⟩, hname⟩
    · rw [Store.slot_setSlot_of_ne store (Ne.symm hq)]
      simp only [hq, false_and, false_or, false_implies, true_and] at hname ⊢
      exact ⟨hothers, hname⟩

theorem Leads.keepsOut (hrun : Leads config worlds scene scene')
    (hslot : name ∉ scene.store.slot p) (hwrites : ¬ scene.Writes p name) :
    name ∉ scene'.store.slot p ∧ ¬ scene'.Writes p name := by
  induction hrun with
  | refl => exact ⟨hslot, hwrites⟩
  | tail _ hstep ih => exact hstep.keepsOut ih.1 ih.2

theorem Leads.bringsBack (hrun : Leads config worlds scene scene') (hspares : scene.Spares p name)
    (hname : name ∈ scene.store.slot p ∨ scene.Writes p name) :
    scene'.Spares p name ∧ (name ∈ scene'.store.slot p ∨ scene'.Writes p name) := by
  induction hrun with
  | refl => exact ⟨hspares, hname⟩
  | tail _ hstep ih => exact hstep.bringsBack ih.1 ih.2

/-! ## 3. The drop -/

/-- No pass changes its provider. -/
theorem Leads.providers_eq (hrun : Leads config worlds scene scene') :
    scene'.passes.map (·.1) = scene.passes.map (·.1) := by
  induction hrun with
  | refl => rfl
  | tail _ hstep ih =>
    rw [← ih]
    obtain ⟨-, before, after⟩ := hstep
    simp only [List.map_append, List.map_cons]

/-- A step is one of a given pass, or it leaves that pass as it is. -/
theorem Step.own_or_other {store : Store} {stage : Stage p.Quota}
    {before after : List ((p : Provider) × Stage p.Quota)}
    (h : Step config worlds ⟨store, before ++ ⟨p, stage⟩ :: after⟩ scene') :
    (∃ stage' slot, (config.adapter p).Step worlds (stage, store.slot p) (stage', slot) ∧
      scene' = ⟨store.setSlot p slot, before ++ ⟨p, stage'⟩ :: after⟩) ∨
    ∃ store' before' after', before'.map (·.1) = before.map (·.1) ∧
      scene' = ⟨store', before' ++ ⟨p, stage⟩ :: after'⟩ := by
  generalize hscene : (⟨store, before ++ ⟨p, stage⟩ :: after⟩ : Scene) = scene at h
  obtain @⟨_, q, stage₁, stage₂, slot, h, before₁, after₁⟩ := h
  obtain ⟨rfl, hpasses⟩ := Scene.mk.injEq .. ▸ hscene
  rcases List.append_eq_append_iff.mp hpasses with ⟨rest, rfl, hrest⟩ | ⟨rest, rfl, hrest⟩
  · cases rest with
    | nil =>
      obtain ⟨hpass, rfl⟩ := List.cons.inj hrest
      cases hpass
      exact .inl ⟨stage₂, slot, h, by simp⟩
    | cons pass rest =>
      obtain ⟨rfl, rfl⟩ := List.cons.inj hrest
      exact .inr ⟨store.setSlot q slot, before, rest ++ ⟨q, stage₂⟩ :: after₁, rfl, by simp⟩
  · cases rest with
    | nil =>
      obtain ⟨hpass, rfl⟩ := List.cons.inj hrest
      cases hpass
      exact .inl ⟨stage₂, slot, h, by simp⟩
    | cons pass rest =>
      obtain ⟨rfl, rfl⟩ := List.cons.inj hrest
      exact .inr ⟨store.setSlot q slot, before₁ ++ ⟨q, stage₂⟩ :: rest, after, by simp, by simp⟩

/-- **A pass that has ended has dropped names at some moment.** -/
theorem exists_drop {store : Store} {targets : List Credential} {last : Scene}
    {before after : List ((p : Provider) × Stage p.Quota)}
    (hrun : Leads config worlds ⟨store, before ++ ⟨p, .listed targets⟩ :: after⟩ last)
    (hreturned : last.Returned) :
    ∃ store' before' after', before'.map (·.1) = before.map (·.1) ∧
      Leads config worlds ⟨store, before ++ ⟨p, .listed targets⟩ :: after⟩
        ⟨store', before' ++ ⟨p, .listed targets⟩ :: after'⟩ ∧
      Leads config worlds
        ⟨store'.setSlot p ((store'.slot p).retain (targets.map (·.name))),
          before' ++ ⟨p, .marking [] targets⟩ :: after'⟩ last := by
  generalize hscene : (⟨store, before ++ ⟨p, .listed targets⟩ :: after⟩ : Scene) = scene at hrun
  induction hrun using Relation.ReflTransGen.head_induction_on generalizing store before after with
  | refl =>
    subst hscene
    cases hreturned ⟨p, .listed targets⟩ (by simp)
  | head hstep hrest ih =>
    subst hscene
    rcases hstep.own_or_other with ⟨stage', slot, hown, rfl⟩ | ⟨store', before', after', hsame, rfl⟩
    · cases hown with
      | drop => exact ⟨store, before, after, rfl, .refl, hrest⟩
    · obtain ⟨store'', before'', after'', hsame', hfirst, hlater⟩ := ih rfl
      exact ⟨store'', before'', after'', hsame'.trans hsame, .head hstep hfirst, hlater⟩

/-- A run on which the later one of two passes drops all names but those of its targets, when the
older one is at some stage. -/
def DropsAt (config : Config) (scene last : Scene) (p : Provider) (targets : List Credential)
    (older : Stage p.Quota) : Prop :=
  ∃ (store : Store) (before between after : List ((p : Provider) × Stage p.Quota)),
    Leads config World.Any scene
      ⟨store, before ++ ⟨p, older⟩ :: (between ++ ⟨p, .listed targets⟩ :: after)⟩ ∧
    Leads config World.Any
      ⟨store.setSlot p ((store.slot p).retain (targets.map (·.name))),
        before ++ ⟨p, older⟩ :: (between ++ ⟨p, .marking [] targets⟩ :: after)⟩ last

theorem DropsAt.trans {last later : Scene} {targets : List Credential} {older : Stage p.Quota}
    (h : DropsAt config scene last p targets older) (hrun : Leads config World.Any last later) :
    DropsAt config scene later p targets older := by
  obtain ⟨store, before, between, after, hfirst, hlast⟩ := h
  exact ⟨store, before, between, after, hfirst, hlast.trans hrun⟩

/-- The drop is one of the steps of the run. -/
theorem DropsAt.leads {last : Scene} {targets : List Credential} {older : Stage p.Quota}
    (h : DropsAt config scene last p targets older) : Leads config World.Any scene last := by
  obtain ⟨store, before, between, after, hfirst, hlast⟩ := h
  have hdrop : Step config World.Any
      ⟨store, before ++ ⟨p, older⟩ :: (between ++ ⟨p, .listed targets⟩ :: after)⟩
      ⟨store.setSlot p ((store.slot p).retain (targets.map (·.name))),
        before ++ ⟨p, older⟩ :: (between ++ ⟨p, .marking [] targets⟩ :: after)⟩ := by
    simpa only [List.append_assoc, List.cons_append] using
      Step.pass (.drop targets (store.slot p)) (before ++ ⟨p, older⟩ :: between) after
  exact (hfirst.tail hdrop).trans hlast

/-- **A name that is dropped comes back exactly if the older pass is still to write it.** -/
theorem DropsAt.mem_iff {last : Scene} {targets : List Credential} {older : Stage p.Quota}
    (h : DropsAt config scene last p targets older)
    (htwo : (scene.passes.map (·.1)).count p = 2) (hreturned : last.Returned)
    (hname : ∀ c ∈ targets, c.name ≠ name) :
    name ∈ last.store.slot p ↔ older.Writes name := by
  obtain ⟨store, before, between, after, hfirst, hlater⟩ := h
  have hpasses : ∀ pass ∈ before ++ ⟨p, older⟩ :: (between ++ ⟨p, .marking [] targets⟩ :: after),
      pass.1 = p → pass = ⟨p, older⟩ ∨ pass = ⟨p, .marking [] targets⟩ := by
    -- there are two passes of this provider, and these are the two
    have hcount := hfirst.providers_eq ▸ htwo
    simp only [List.map_append, List.map_cons, List.count_append, List.count_cons_self] at hcount
    have hnone : ∀ rest : List ((p : Provider) × Stage p.Quota),
        (rest.map (·.1)).count p = 0 → ∀ pass ∈ rest, pass.1 ≠ p :=
      fun rest hzero pass hpass heq => List.count_eq_zero.mp hzero (heq ▸ List.mem_map_of_mem hpass)
    intro pass hpass heq
    simp only [List.mem_append, List.mem_cons] at hpass
    rcases hpass with hpass | hpass | hpass | hpass | hpass
    · exact absurd heq (hnone before (by omega) pass hpass)
    · exact .inl hpass
    · exact absurd heq (hnone between (by omega) pass hpass)
    · exact .inr hpass
    · exact absurd heq (hnone after (by omega) pass hpass)
  have hdropper : ¬ (Stage.marking [] targets : Stage p.Quota).Writes name :=
    fun ⟨c, hc, hcname⟩ => hname c hc hcname
  constructor
  · intro hmem
    refine Classical.byContradiction fun hwrites => (hlater.keepsOut ?_ ?_).1 hmem
    · rw [Store.slot_setSlot_self]
      intro hkept
      obtain ⟨c, hc, hcname⟩ := List.mem_map.mp (Slot.mem_retain.mp hkept).2
      exact hname c hc hcname
    · rintro ⟨pass, hpass, heq, hpassWrites⟩
      rcases hpasses pass hpass heq with rfl | rfl
      · exact hwrites hpassWrites
      · exact hdropper hpassWrites
  · intro hwrites
    have hspares : Spares ⟨store.setSlot p ((store.slot p).retain (targets.map (·.name))),
        before ++ ⟨p, older⟩ :: (between ++ ⟨p, .marking [] targets⟩ :: after)⟩ p name := by
      intro pass hpass heq
      rcases hpasses pass hpass heq with rfl | rfl
      · exact Stage.spares_of_writes hwrites
      · exact trivial
    obtain ⟨-, hmem⟩ := hlater.bringsBack hspares (.inr ⟨⟨p, older⟩, by simp, rfl, hwrites⟩)
    exact hmem.resolve_right (hreturned.not_writes p name)

end Scene

/-! ## 4. Two calls -/

/-- A call that covers a provider has one pass of it. -/
theorem Call.passes_split (config : Config) {call : Call} {p : Provider}
    {listing : List Credential} (hcovers : call.action.covers p = true)
    (hlisted : call.listed = .ok listing) :
    ((call.passes config).map (·.1)).count p = 1 ∧
      ∃ before after, call.passes config =
        before ++ ⟨p, .listed ((config.adapter p).targets listing)⟩ :: after := by
  have hmem : p ∈ Provider.all.filter call.action.covers := by
    rw [List.mem_filter]
    exact ⟨by cases p <;> decide, hcovers⟩
  have hpasses : call.passes config = (Provider.all.filter call.action.covers).map fun p =>
      ⟨p, .listed ((config.adapter p).targets listing)⟩ := by
    rw [Call.passes, hlisted]
  constructor
  · have hnodup : (Provider.all.filter call.action.covers).Nodup := by
      have hall : Provider.all.Nodup := by decide
      exact hall.filter _
    rw [hpasses, List.map_map, Function.comp_def, List.map_id']
    exact List.count_eq_one_of_mem hnodup hmem
  · obtain ⟨before, after, hsplit⟩ := List.append_of_mem hmem
    rw [hpasses, hsplit, List.map_append, List.map_cons]
    exact ⟨_, _, rfl⟩

/-- **A dropped name comes back exactly if the older pass is still to write it at the drop.**  Two
calls run a pass of one provider, and the second one takes its listing after the first.  However the
steps of all passes come in between each other, and whatever is answered, the pass of the second
call drops the names that its listing does not match at some moment.  When both calls have returned,
such a name is in the slot if the first pass was still to write it at that moment, and else it is
not. -/
theorem Board.dropped_comes_back_iff (b : Board) {first second : Call} {p : Provider}
    {older newer : List Credential} (hfirst : first.action.covers p = true)
    (hsecond : second.action.covers p = true) (holder : first.listed = .ok older)
    (hnewer : second.listed = .ok newer) {last : Scene}
    (hrun : Scene.Leads b.config World.Any (b.scene [first, second]) last)
    (hreturned : last.Returned) :
    let targets := (b.config.adapter p).targets newer
    (∃ stage, Scene.DropsAt b.config (b.scene [first, second]) last p targets stage) ∧
      ∀ stage, Scene.DropsAt b.config (b.scene [first, second]) last p targets stage →
        ∀ name, (∀ c ∈ targets, c.name ≠ name) →
          (name ∈ last.store.slot p ↔ stage.Writes name) := by
  intro targets
  obtain ⟨hone, before, after, hpasses⟩ := first.passes_split b.config hfirst holder
  obtain ⟨hone', before', after', hpasses'⟩ := second.passes_split b.config hsecond hnewer
  have hscene : b.scene [first, second] =
      ⟨b.store, (first.passes b.config ++ before') ++ ⟨p, .listed targets⟩ :: after'⟩ := by
    simp only [Board.scene, List.flatMap_cons, List.flatMap_nil, List.append_nil, hpasses',
      List.append_assoc, targets]
  constructor
  · rw [hscene] at hrun ⊢
    obtain ⟨store, passes, rest, hsame, hto, hfrom⟩ := Scene.exists_drop hrun hreturned
    -- the pass of the first call is among those before
    have hmem : p ∈ passes.map (·.1) := by
      rw [hsame, hpasses]
      simp
    obtain ⟨⟨q, stage⟩, hstage, rfl⟩ := List.mem_map.mp hmem
    obtain ⟨done, between, rfl⟩ := List.append_of_mem hstage
    simp only [List.append_assoc, List.cons_append] at hto hfrom
    exact ⟨stage, store, done, between, rest, by simpa using hto, hfrom⟩
  · intro stage hdrops name hname
    refine hdrops.mem_iff ?_ hreturned hname
    simp only [Board.scene, List.flatMap_cons, List.flatMap_nil, List.append_nil, List.map_append,
      List.count_append, hone, hone']

/-! ## 5. An instance -/

/-- A refresh of the Gemini CLI quotas that is told a listing. -/
def Call.sampleGeminiCli (listing : List Credential) : Call :=
  ⟨.refreshProvider .geminiCli false, .ok listing⟩

/-- The catalog lists a credential for the first call and none for the second.  The first one asks
for the quota; the second one drops the name and returns; then the reply comes. -/
theorem Scene.exists_late_run (reply : Except FetchError ApiReply) :
    let c := Credential.sampleGeminiCli
    let b : Board := { config := .default }
    let start := b.scene [.sampleGeminiCli [c], .sampleGeminiCli []]
    ∃ (waiting ended : Stage GeminiCli.Quota) (dropped last : Scene),
      waiting.Writes c.name ∧ waiting.outstanding ≠ [] ∧
      Scene.DropsAt b.config start dropped .geminiCli [] waiting ∧
      dropped.passes = [⟨.geminiCli, waiting⟩, ⟨.geminiCli, ended⟩] ∧
      ended.summary?.isSome = true ∧ c.name ∉ dropped.store.slot .geminiCli ∧
      Scene.Leads b.config World.Any dropped last ∧ last.Returned ∧
      (last.store.slot .geminiCli)[c.name]? =
        some (.ofResult (GeminiCli.quotaOfReply reply)) := by
  intro c b start
  let a := b.config.adapter .geminiCli
  have htargets : a.targets [c] = [c] := by
    have hc := Credential.fetchedBy?_eq_some_iff.mp Credential.fetchedBy?_sampleGeminiCli
    rw [Adapter.targets, b.config.accepts_adapter, List.filter_cons, if_pos hc, List.filter_nil]
  have hstart : start =
      ⟨.empty, [⟨.geminiCli, .listed [c]⟩, ⟨.geminiCli, .listed []⟩]⟩ := by
    change (⟨.empty, [⟨.geminiCli, .listed (a.targets [c])⟩, _]⟩ : Scene) = _
    rw [htargets]
    rfl
  let request := GeminiCli.quotaRequest "7" "p" b.config.endpoints.geminiCliQuotaUrl
  let next (reply : Except FetchError ApiReply) := Fetch.done (GeminiCli.quotaOfReply reply)
  have hfetch : a.fetch c = .call request next := by
    have hindex : c.authIndex? = some "7" := by decide +kernel
    have hproject : c.projectId? = some "p" := by decide +kernel
    change GeminiCli.fetch _ c = _
    rw [GeminiCli.fetch, hindex, hproject]
  let x : World := ⟨fun _ => some reply, fun _ => none, 0⟩
  let summary := Summary.start .geminiCli 1
  let waiting : Stage GeminiCli.Quota := .fetching summary [(c, .waiting request next)]
  -- the first pass marks the name, and its request goes out
  let marked := Store.empty.setSlot .geminiCli (a.begin [c] (Store.empty.slot .geminiCli)).slot
  have hsend : a.Leads World.Any (.listed [c], Store.empty.slot .geminiCli)
      (waiting, (a.begin [c] (Store.empty.slot .geminiCli)).slot) := by
    have hstep : Progress.Step x (.ready (a.fetch c)) [([], request)] (.waiting request next) :=
      hfetch ▸ .send request next
    exact .tail (a.leads_begin [c] _) (.fetch trivial hstep summary [] c [] _)
  have hmarked : Scene.Leads b.config World.Any
      ⟨.empty, [⟨.geminiCli, .listed [c]⟩, ⟨.geminiCli, .listed []⟩]⟩
      ⟨marked, [⟨.geminiCli, waiting⟩, ⟨.geminiCli, .listed []⟩]⟩ :=
    Scene.leads_pass hsend [] [⟨.geminiCli, .listed []⟩]
  -- the second pass drops the name, and has nothing else to do
  let slot := (marked.slot .geminiCli).retain []
  let dropped : Scene := ⟨marked.setSlot .geminiCli slot,
    [⟨.geminiCli, waiting⟩, ⟨.geminiCli, .fetching (.start a.provider 0) []⟩]⟩
  have hbegin : a.Leads World.Any (.marking [] [], slot)
      (.fetching (.start a.provider 0) [], slot) := .single (.begin [] slot)
  have hdropped : Scene.Leads b.config World.Any
      ⟨marked.setSlot .geminiCli slot, [⟨.geminiCli, waiting⟩, ⟨.geminiCli, .marking [] []⟩]⟩
      dropped := by
    have hbegin' : a.Leads World.Any
        (.marking [] [], (marked.setSlot .geminiCli slot).slot .geminiCli) _ := hbegin
    exact Scene.leads_pass hbegin' [⟨.geminiCli, waiting⟩] []
  -- the reply comes, and the first pass writes the result
  have hsettle : a.Leads World.Any (waiting, slot)
      (.fetching (summary.count (GeminiCli.quotaOfReply reply)) [],
        slot.settle (c, GeminiCli.quotaOfReply reply)) := by
    have hhear : Progress.Step x (.waiting request next) [] (.ready (next reply)) := .hear rfl next
    exact .tail (.single (.fetch trivial hhear summary [] c [] slot))
      (.settle summary [] c (GeminiCli.quotaOfReply reply) [] slot)
  have hlast : Scene.Leads b.config World.Any dropped
      ⟨dropped.store.setSlot .geminiCli (slot.settle (c, GeminiCli.quotaOfReply reply)),
        [⟨.geminiCli, .fetching (summary.count (GeminiCli.quotaOfReply reply)) []⟩,
          ⟨.geminiCli, .fetching (.start a.provider 0) []⟩]⟩ :=
    Scene.leads_pass hsettle [] [⟨.geminiCli, .fetching (.start a.provider 0) []⟩]
  have hdrops : Scene.DropsAt b.config start dropped .geminiCli [] waiting :=
    ⟨marked, [], [], [], hstart ▸ hmarked, hdropped⟩
  refine ⟨waiting, .fetching (.start a.provider 0) [], dropped, _,
    ⟨_, List.mem_singleton_self _, rfl⟩, List.cons_ne_nil _ _, hdrops, rfl, rfl, ?_, hlast, ?_, ?_⟩
  · exact fun hmem => List.not_mem_nil (Slot.mem_retain.mp hmem).2
  · simp [Scene.Returned, Stage.summary?]
  · rw [Store.slot_setSlot_self, Slot.getElem?_settle, if_pos rfl]

/-- **A dropped name does not stay dropped.**  The second listing is empty.  When its call has
returned the name is gone, while the first call still waits for a reply; when both have returned the
name is there again, with an error. -/
theorem Board.dropped_comes_back :
    let c := Credential.sampleGeminiCli
    let b : Board := { config := .default }
    let start := b.scene [.sampleGeminiCli [c], .sampleGeminiCli []]
    ∃ (waiting ended : Stage GeminiCli.Quota) (dropped last : Scene),
      Scene.Leads b.config World.Any start dropped ∧
      dropped.passes = [⟨.geminiCli, waiting⟩, ⟨.geminiCli, ended⟩] ∧
      waiting.outstanding ≠ [] ∧ ended.summary?.isSome = true ∧
      c.name ∉ dropped.store.slot .geminiCli ∧
      Scene.Leads b.config World.Any dropped last ∧ last.Returned ∧
      (∀ target ∈ (b.config.adapter .geminiCli).targets [], target.name ≠ c.name) ∧
      (last.store.slot .geminiCli)[c.name]? = some (.error "denied" (some 403)) := by
  intro c b start
  obtain ⟨waiting, ended, dropped, last, -, hout, hdrops, hpasses, hended, hgone, hlast, hreturned,
    hstate⟩ := Scene.exists_late_run (.ok ⟨403, none, "denied"⟩)
  refine ⟨waiting, ended, dropped, last, hdrops.leads, hpasses, hout, hended, hgone, hlast,
    hreturned, fun _ h => (List.not_mem_nil h).elim, ?_⟩
  rw [hstate]
  decide +kernel

/-- The first call waits for a reply when the second one drops the name, so the name comes back. -/
theorem Board.dropped_comes_back_iff_waiting :
    let c := Credential.sampleGeminiCli
    let b : Board := { config := .default }
    let first := Call.sampleGeminiCli [c]
    let second := Call.sampleGeminiCli []
    first.action.covers .geminiCli = true ∧ second.action.covers .geminiCli = true ∧
    first.listed = .ok [c] ∧ second.listed = .ok [] ∧
    ∃ last stage, Scene.Leads b.config World.Any (b.scene [first, second]) last ∧ last.Returned ∧
      Scene.DropsAt b.config (b.scene [first, second]) last .geminiCli
        ((b.config.adapter .geminiCli).targets []) stage ∧
      (∀ target ∈ (b.config.adapter .geminiCli).targets [], target.name ≠ c.name) ∧
      stage.Writes c.name ∧ c.name ∈ last.store.slot .geminiCli := by
  intro c b first second
  obtain ⟨waiting, -, dropped, last, hwrites, -, hdrops, -, -, -, hlast, hreturned, -⟩ :=
    Scene.exists_late_run (.error (.transport "connection reset" none))
  have hnone : ∀ target ∈ (b.config.adapter .geminiCli).targets [], target.name ≠ c.name :=
    fun _ h => (List.not_mem_nil h).elim
  have hlater := hdrops.trans hlast
  have hrun : Scene.Leads b.config World.Any (b.scene [first, second]) last :=
    hdrops.leads.trans hlast
  obtain ⟨-, hiff⟩ := b.dropped_comes_back_iff (p := .geminiCli) (by decide) (by decide)
    rfl rfl hrun hreturned
  exact ⟨by decide, by decide, rfl, rfl, last, waiting, hrun, hreturned, hlater, hnone, hwrites,
    (hiff waiting hlater c.name hnone).mpr hwrites⟩

end QuotaBoard
