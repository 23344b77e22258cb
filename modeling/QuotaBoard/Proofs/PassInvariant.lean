import QuotaBoard.Board.Basic

/-!
# What the slot of a pass holds, whatever the order of the fetches

A pass marks its targets and then writes one result after the other, in an order that the vendors
decide.  Between two writes somebody may look at the slot, so what it holds has to be right at
every one of these points and not only at the end.

* `Adapter.Underway` is the pass as its surroundings see it: any target whose fetch has not
  settled may be the next to settle, and with any result.
* `Pass.Tracks` is the invariant: the slot and the summary are what the targets and the fetches
  that have settled make of them.  The slot that was there before does not occur in it.
* `Adapter.pass_underway` ties the two to the pass that is run: whoever carries it out, it ends
  as one of these.
-/

namespace QuotaBoard

/-! ## 1. The slot under single writes -/

namespace Slot

variable {α : Type}

theorem getElem?_retain (slot : Slot α) (names : List String) (name : String) :
    (slot.retain names)[name]? = if name ∈ names then slot[name]? else none := by
  rw [retain, Std.ExtTreeMap.getElem?_filter']
  by_cases h : name ∈ names <;> cases slot[name]? <;> simp [h]

theorem getElem?_markLoading (slot : Slot α) (marked name : String) :
    (slot.markLoading marked)[name]? = if marked = name then some .loading else slot[name]? := by
  rw [markLoading, Std.ExtTreeMap.getElem?_insert]
  simp

theorem getElem?_settle (slot : Slot α) (o : Outcome α) (name : String) :
    (slot.settle o)[name]? =
      if o.1.name = name then some (.ofResult o.2) else slot[name]? := by
  rw [settle, Std.ExtTreeMap.getElem?_insert]
  simp

theorem getElem?_foldl_markLoading (names : List String) (slot : Slot α) (name : String) :
    (names.foldl markLoading slot)[name]? =
      if name ∈ names then some .loading else slot[name]? := by
  induction names generalizing slot with
  | nil => simp
  | cons marked rest ih =>
    rw [List.foldl_cons, ih, getElem?_markLoading]
    by_cases hrest : name ∈ rest
    · simp [hrest]
    · by_cases h : marked = name
      · simp [h]
      · simp [h, hrest, Ne.symm h]

/-- A state is in the slot exactly under the names of the slot. -/
theorem mem_iff_getElem? (slot : Slot α) (name : String) :
    name ∈ slot ↔ ∃ state, slot[name]? = some state := by
  rw [Std.ExtTreeMap.mem_iff_isSome_getElem?, Option.isSome_iff_exists]

end Slot

/-- A fetch that has settled leaves no mark of loading. -/
theorem QuotaState.isSettled_ofResult {α : Type} (result : Except FetchError α) :
    (QuotaState.ofResult result).isSettled = true := by
  cases result <;> rfl

theorem QuotaState.ofResult_ne_loading {α : Type} (result : Except FetchError α) :
    QuotaState.ofResult result ≠ .loading := by
  cases result <;> simp [QuotaState.ofResult]

/-- **A pass starts from its targets alone.**  Names that are not targets are dropped and all
targets are marked, so nothing of the old slot is left. -/
theorem Adapter.getElem?_start {α : Type} (targets : List Credential) (slot : Slot α)
    (name : String) :
    (Adapter.start targets slot)[name]? =
      if name ∈ targets.map (·.name) then some .loading else none := by
  rw [Adapter.start, Slot.getElem?_foldl_markLoading, Slot.getElem?_retain]
  by_cases h : name ∈ targets.map (·.name) <;> simp [h]

/-! ## 2. The courses a pass can take -/

/-- A pass of `a` over `listing`, from the slot `slot`, at a point after all targets were marked:
the fetches of `pending` have not settled, those of `settled` have, in this order, and the pass
has come to stand as the last argument says. -/
inductive Adapter.Underway {α : Type} (a : Adapter α) (listing : List Credential)
    (slot : Slot α) : List Credential → List (Outcome α) → Pass α → Prop where
  | begun : a.Underway listing slot (a.targets listing) [] (a.begin (a.targets listing) slot)
  | settled {before after : List Credential} {c : Credential} {settled : List (Outcome α)}
      {p : Pass α} (h : a.Underway listing slot (before ++ c :: after) settled p)
      (result : Except FetchError α) :
      a.Underway listing slot (before ++ after) (settled ++ [(c, result)]) (p.settle (c, result))

/-- Every target is pending or has settled, and only once. -/
theorem Adapter.Underway.perm {α : Type} {a : Adapter α} {listing : List Credential}
    {slot : Slot α} {pending : List Credential} {settled : List (Outcome α)} {p : Pass α}
    (h : a.Underway listing slot pending settled p) :
    (settled.map (·.1) ++ pending).Perm (a.targets listing) := by
  induction h with
  | begun => simp
  | @settled before after c settled p _ result ih =>
    refine List.Perm.trans ?_ ih
    have hmove : (c :: (before ++ after)).Perm (before ++ c :: after) := List.perm_middle.symm
    simpa using hmove.append_left (settled.map (·.1))

/-! ## 3. The invariant -/

/-- What a pass over `targets` has come to once the fetches of `settled` have settled in this
order. -/
structure Pass.Tracks {α : Type} (targets : List Credential) (settled : List (Outcome α))
    (p : Pass α) : Prop where
  /-- The names of the slot are those of the targets. -/
  names : ∀ name, name ∈ p.slot ↔ ∃ c ∈ targets, c.name = name
  /-- A name is loading as long as no target of that name has settled. -/
  loading : ∀ name, p.slot[name]? = some .loading ↔
    (∃ c ∈ targets, c.name = name) ∧ ∀ o ∈ settled, o.1.name ≠ name
  /-- After that it holds the result of the target that has settled last. -/
  latest : ∀ before o after, settled = before ++ o :: after →
    (∀ later ∈ after, later.1.name ≠ o.1.name) →
    p.slot[o.1.name]? = some (QuotaState.ofResult o.2)
  dispatched : p.summary.dispatched = targets.length
  /-- Each fetch is counted once. -/
  counted : p.summary.succeeded + p.summary.failed = settled.length

variable {α : Type} {targets : List Credential}

/-- No fetch has settled: all targets are loading. -/
theorem Pass.Tracks.begin (a : Adapter α) (targets : List Credential) (slot : Slot α) :
    (a.begin targets slot).Tracks targets [] where
  names name := by
    rw [Slot.mem_iff_getElem?]
    simp [Adapter.begin, Adapter.getElem?_start]
  loading name := by simp [Adapter.begin, Adapter.getElem?_start]
  latest before o after h := absurd h (by simp)
  dispatched := rfl
  counted := rfl

/-- **One more fetch settles.**  Its name takes the new state, all others keep theirs. -/
theorem Pass.Tracks.settle {settled : List (Outcome α)} {p : Pass α} (h : p.Tracks targets settled)
    {o : Outcome α} (ho : o.1 ∈ targets) : (p.settle o).Tracks targets (settled ++ [o]) where
  names name := by
    rw [Slot.mem_iff_getElem?, Pass.settle, Slot.getElem?_settle]
    by_cases hname : o.1.name = name
    · simp only [hname, if_true]
      exact ⟨fun _ => ⟨o.1, ho, hname⟩, fun _ => ⟨_, rfl⟩⟩
    · rw [if_neg hname, ← Slot.mem_iff_getElem?]
      exact h.names name
  loading name := by
    rw [Pass.settle, Slot.getElem?_settle]
    by_cases hname : o.1.name = name
    · rw [if_pos hname]
      constructor
      · intro hload
        exact absurd (Option.some.inj hload) (QuotaState.ofResult_ne_loading o.2)
      · rintro ⟨-, hnone⟩
        exact absurd hname (hnone o (by simp))
    · rw [if_neg hname, h.loading name]
      simp [hname, or_imp, forall_and]
  latest before last after hsplit hlast := by
    rw [Pass.settle, Slot.getElem?_settle]
    rcases List.eq_nil_or_concat after with rfl | ⟨after', o', rfl⟩
    · -- the new outcome is the last of its name
      obtain ⟨-, hlast'⟩ := List.append_inj' hsplit rfl
      obtain rfl : o = last := by simpa using hlast'
      simp
    · -- an older one is, so the new one has another name
      rw [List.concat_eq_append] at hsplit hlast
      have hsplit' : settled ++ [o] = (before ++ last :: after') ++ [o'] := by simpa using hsplit
      obtain ⟨hold, hnew⟩ := List.append_inj' hsplit' rfl
      obtain rfl : o = o' := by simpa using hnew
      rw [if_neg (hlast o (by simp))]
      exact h.latest before last after' hold fun later hlater => hlast later (by simp [hlater])
  dispatched := by
    rw [Pass.settle, ← h.dispatched]
    cases o.2 <;> rfl
  counted := by
    have hcounted := h.counted
    rw [Pass.settle, List.length_append, List.length_singleton, ← hcounted]
    cases o.2 <;> simp only [Summary.count] <;> omega

/-- The invariant holds at every point of a pass. -/
theorem Adapter.Underway.tracks {a : Adapter α} {listing : List Credential} {slot : Slot α}
    {pending : List Credential} {settled : List (Outcome α)} {p : Pass α}
    (h : a.Underway listing slot pending settled p) : p.Tracks (a.targets listing) settled := by
  induction h with
  | begun => exact .begin a _ slot
  | settled h result ih => exact ih.settle (h.perm.subset (by simp))

/-- When no fetch is pending, no name is loading. -/
theorem Adapter.Underway.not_loading {a : Adapter α} {listing : List Credential} {slot : Slot α}
    {settled : List (Outcome α)} {p : Pass α} (h : a.Underway listing slot [] settled p)
    (name : String) : p.slot[name]? ≠ some .loading := by
  intro hload
  obtain ⟨⟨c, hc, hname⟩, hnone⟩ := (h.tracks.loading name).mp hload
  have hc' : c ∈ settled.map (·.1) := by simpa using h.perm.symm.subset hc
  obtain ⟨o, ho, rfl⟩ := List.mem_map.mp hc'
  exact hnone o ho hname

/-- When no fetch is pending, all targets are counted. -/
theorem Adapter.Underway.length_settled {a : Adapter α} {listing : List Credential}
    {slot : Slot α} {settled : List (Outcome α)} {p : Pass α}
    (h : a.Underway listing slot [] settled p) : settled.length = (a.targets listing).length := by
  simpa using h.perm.length_eq

/-- Among outcomes of which one has a name there is a last one that has it. -/
theorem exists_last_of_name {settled : List (Outcome α)} {name : String}
    (h : ∃ o ∈ settled, o.1.name = name) :
    ∃ before o after, settled = before ++ o :: after ∧ o.1.name = name ∧
      ∀ later ∈ after, later.1.name ≠ name := by
  induction settled with
  | nil => simp at h
  | cons o rest ih =>
    by_cases hrest : ∃ later ∈ rest, later.1.name = name
    · obtain ⟨before, last, after, rfl, hlast, hafter⟩ := ih hrest
      exact ⟨o :: before, last, after, rfl, hlast, hafter⟩
    · have ho : o.1.name = name := by simpa [hrest] using h
      exact ⟨[], o, rest, rfl, ho, fun later hlater hname => hrest ⟨later, hlater, hname⟩⟩

/-- Every state of a slot in which no name is loading is the result of a fetch. -/
theorem Pass.Tracks.isSettled {settled : List (Outcome α)} {p : Pass α}
    (h : p.Tracks targets settled) {name : String} {state : QuotaState α}
    (hstate : p.slot[name]? = some state) (hload : p.slot[name]? ≠ some .loading) :
    state.isSettled = true := by
  have htarget := (h.names name).mp ((Slot.mem_iff_getElem? p.slot name).mpr ⟨state, hstate⟩)
  have hsettled : ∃ o ∈ settled, o.1.name = name := by
    refine Classical.byContradiction fun hnone => hload ((h.loading name).mpr ⟨htarget, ?_⟩)
    exact fun o ho hname => hnone ⟨o, ho, hname⟩
  obtain ⟨before, o, after, hsplit, rfl, hafter⟩ := exists_last_of_name hsettled
  rw [h.latest before o after hsplit hafter, Option.some.injEq] at hstate
  rw [← hstate]
  exact QuotaState.isSettled_ofResult o.2

/-! ## 4. The pass that is run -/

/-- Fetches that settle in any order of the targets, with any results, are a course that a pass
can take. -/
theorem Adapter.Underway.foldl_settle {a : Adapter α} {listing : List Credential} {slot : Slot α}
    {pending : List Credential} {settled : List (Outcome α)} {p : Pass α}
    (h : a.Underway listing slot pending settled p) {rest : List (Outcome α)}
    (hrest : (rest.map (·.1)).Perm pending) :
    a.Underway listing slot [] (settled ++ rest) (rest.foldl Pass.settle p) := by
  induction rest generalizing pending settled p with
  | nil =>
    obtain rfl : pending = [] := hrest.nil_eq.symm
    simpa using h
  | cons o rest ih =>
    obtain ⟨before, after, rfl⟩ : ∃ before after, pending = before ++ o.1 :: after :=
      List.append_of_mem (hrest.subset (by simp))
    have hrest' : (rest.map (·.1)).Perm (before ++ after) :=
      (List.perm_cons o.1).mp (hrest.trans List.perm_middle)
    simpa using ih (h.settled o.2) hrest'

theorem arrange_perm {β : Type} (delay : Nat → Nat) (items : List β) :
    (arrange delay items).Perm items := by
  have h := (List.mergeSort_perm items.zipIdx fun x y => delay x.2 ≤ delay y.2).map (·.1)
  rwa [List.zipIdx_map_fst] at h

/-- What is asked for each item stands beside the item. -/
theorem map_fst_mapM {σ β γ : Type} (ask : β → StateM σ γ) (items : List β) (w : σ) :
    ((items.mapM fun c => do return (c, ← ask c) : StateM σ (List (β × γ))).run w).1.map (·.1)
      = items := by
  induction items generalizing w with
  | nil => rfl
  | cons c rest ih =>
    rw [List.mapM_cons]
    exact congrArg (c :: ·) (ih (ask c w).2)

/-- Each target has one outcome, however the calls are answered. -/
theorem Adapter.outcomes_perm {σ : Type} (a : Adapter α) (carrier : Carrier (StateM σ))
    (targets : List Credential) (w : σ) :
    (((a.outcomes carrier targets).run w).1.map (·.1)).Perm targets := by
  unfold Adapter.outcomes
  split
  · have hfst := map_fst_mapM (fun c => ((a.fetch c).run carrier.noting).run false) targets w
    generalize hnoted : ((targets.mapM fun c => do
      return (c, ← ((a.fetch c).run carrier.noting).run false)).run w).1 = noted at hfst
    have hparts : ((noted.partition (·.2.2)).2 ++ (noted.partition (·.2.2)).1).Perm noted := by
      rw [List.partition_eq_filter_filter]
      exact List.perm_append_comm.trans (List.filter_append_perm (·.2.2) noted)
    have h := hparts.map (·.1)
    rw [hfst] at h
    subst hnoted
    change (List.map _ (List.map _ (_ ++ _))).Perm targets
    rw [List.map_map]
    exact h
  · have h := (arrange_perm carrier.delay
      ((targets.mapM fun c => do return (c, ← (a.fetch c).run carrier)).run w).1).map (·.1)
    rw [map_fst_mapM] at h
    exact h

/-- **The pass that is run takes one of the courses.**  Whoever carries it out, what it returns is
where a course ends on which no fetch is pending. -/
theorem Adapter.pass_underway {σ : Type} (a : Adapter α) (carrier : Carrier (StateM σ))
    (listing : List Credential) (slot : Slot α) (w : σ) :
    ∃ settled p, a.Underway listing slot [] settled p ∧
      ((a.pass carrier listing slot).run w).1 = (p.slot, p.summary) :=
  ⟨_, _, Adapter.Underway.begun.foldl_settle (a.outcomes_perm carrier (a.targets listing) w), rfl⟩

/-! ## 5. Summary -/

/-- **What a pass holds at every point.**  Each matching credential is pending or has settled,
once.  The names of the slot are those of the matching credentials; a name is loading until the
first credential of that name settles, and then it holds what the last one to settle made of it.
The slot from before the pass has no part in any of this.  When nothing is pending no name is
loading and every matching credential is counted, and that is how the pass that is run ends. -/
theorem Adapter.pass_invariant {σ : Type} (a : Adapter α) (listing : List Credential)
    (slot : Slot α) :
    (∀ pending settled p, a.Underway listing slot pending settled p →
      (settled.map (·.1) ++ pending).Perm (listing.filter a.accepts) ∧
      (∀ name, name ∈ p.slot ↔ ∃ c ∈ listing, a.accepts c = true ∧ c.name = name) ∧
      (∀ name, p.slot[name]? = some .loading ↔
        (∃ c ∈ listing, a.accepts c = true ∧ c.name = name) ∧ ∀ o ∈ settled, o.1.name ≠ name) ∧
      (∀ before o after, settled = before ++ o :: after →
        (∀ later ∈ after, later.1.name ≠ o.1.name) →
        p.slot[o.1.name]? = some (QuotaState.ofResult o.2) ∧
          (QuotaState.ofResult o.2).isSettled = true) ∧
      (pending = [] →
        (∀ name : String, p.slot[name]? ≠ some .loading) ∧
        p.summary.dispatched = p.summary.succeeded + p.summary.failed ∧
        p.summary.dispatched = (listing.filter a.accepts).length)) ∧
    ∀ (carrier : Carrier (StateM σ)) (w : σ),
      ∃ settled p, a.Underway listing slot [] settled p ∧
        ((a.pass carrier listing slot).run w).1 = (p.slot, p.summary) := by
  refine ⟨fun pending settled p h => ⟨h.perm, ?_, ?_, ?_, ?_⟩,
    fun carrier w => a.pass_underway carrier listing slot w⟩
  · intro name
    rw [h.tracks.names name]
    simp [Adapter.targets, and_assoc]
  · intro name
    rw [h.tracks.loading name]
    simp [Adapter.targets, and_assoc]
  · intro before o after hsplit hlast
    exact ⟨h.tracks.latest before o after hsplit hlast, QuotaState.isSettled_ofResult o.2⟩
  · rintro rfl
    refine ⟨h.not_loading, ?_, h.tracks.dispatched⟩
    rw [h.tracks.counted, h.length_settled]
    exact h.tracks.dispatched

/-! ## 6. An instance -/

/-- A Codex credential of which little is known. -/
def Credential.sampleCodex (name : String) (authIndex : Option String) (disabled : Bool) :
    Credential := ⟨name, "codex", authIndex, disabled, false, .null⟩

theorem Credential.isOf_sampleCodex (name : String) (authIndex : Option String)
    (disabled : Bool) : (sampleCodex name authIndex disabled).isOf .codex = true := by
  have hname : Provider.ofName? "codex" = some .codex := by decide
  rw [isOf, provider?, sampleCodex, hname, decide_eq_true rfl]

theorem Credential.isFetchedBy_sampleCodex (name : String) (authIndex : Option String)
    (disabled : Bool) : (sampleCodex name authIndex disabled).isFetchedBy .codex = !disabled := by
  rw [isFetchedBy_codex, isStored, isOf_sampleCodex]
  simp [sampleCodex]

theorem Credential.accepts_sampleCodex (name : String) (authIndex : Option String)
    (disabled : Bool) :
    Config.default.codex.accepts (sampleCodex name authIndex disabled) = !disabled := by
  simp only [Config.codex, isFetchedBy_sampleCodex]

/-- Two credentials share a name, and the second one settles while the first is pending: the name
holds its error, and the name of a credential that is now disabled is gone. -/
theorem Adapter.pass_invariant_shared_name :
    let pending := Credential.sampleCodex "a.json" (some "1") false
    let settled := Credential.sampleCodex "a.json" none false
    let disabled := Credential.sampleCodex "b.json" (some "2") true
    let old : Slot Codex.Quota := ((∅ : Slot Codex.Quota).insert "a.json" .idle).insert "b.json"
      (.success ⟨[], none⟩)
    let p := (Config.default.codex.begin [pending, settled] old).settle
      (settled, .error (.missing "auth index"))
    Config.default.codex.Underway [pending, disabled, settled] old [pending]
        [(settled, .error (.missing "auth index"))] p ∧
      p.slot["a.json"]? = some (.ofResult (.error (.missing "auth index"))) ∧
      "b.json" ∉ p.slot := by
  intro pending settled disabled old p
  have htargets : Config.default.codex.targets [pending, disabled, settled]
      = [pending, settled] := by
    simp only [Adapter.targets, pending, disabled, settled, List.filter_cons, List.filter_nil,
      Credential.accepts_sampleCodex]
    rfl
  have hbegun : Config.default.codex.Underway [pending, disabled, settled] old
      ([pending] ++ settled :: []) [] (Config.default.codex.begin [pending, settled] old) := by
    have h : Config.default.codex.Underway [pending, disabled, settled] old _ [] _ := .begun
    rwa [htargets] at h
  have h : Config.default.codex.Underway [pending, disabled, settled] old [pending]
      [(settled, .error (.missing "auth index"))] p :=
    hbegun.settled (.error (.missing "auth index"))
  obtain ⟨-, hnames, -, hlatest, -⟩ :=
    (Config.default.codex.pass_invariant (σ := Unit) _ old).1 _ _ _ h
  have hlast := hlatest [] (settled, .error (.missing "auth index")) [] rfl (by simp)
  refine ⟨h, hlast.1, ?_⟩
  rw [hnames]
  rintro ⟨c, hc, haccepts, hname⟩
  simp only [List.mem_cons, List.not_mem_nil, or_false] at hc
  rcases hc with rfl | rfl | rfl
  · exact absurd hname (by decide)
  · rw [Credential.accepts_sampleCodex] at haccepts
    exact absurd haccepts (by decide)
  · exact absurd hname (by decide)

end QuotaBoard
