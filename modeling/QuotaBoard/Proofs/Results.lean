import QuotaBoard.Proofs.Courses

/-!
# What fetches end with, and what of it a pass writes

A pass writes what its fetches end with and nothing else.  Each outcome of a pass is the result of
the fetch of its own credential, carried out at some state of the world, whether calls are held
back or not (`Adapter.mem_outcomes`); so what is proved of the results of single fetches holds of
everything that a pass writes.

`Fetch.Ends` are the results that a plan can have when nothing is assumed of the world, and
`Fetch.Hears` tells with each of them the answers that led to it.
-/

namespace QuotaBoard

variable {σ α : Type}

/-! ## 1. The results of a plan -/

/-- `plan.Ends result`: the plan can end with `result`.  Replies, token files and the clock say
what they like, and may say another thing each time. -/
def Fetch.Ends {α : Type} : Fetch α → α → Prop
  | done a, result => result = a
  | call _ next, result => ∃ reply, (next reply).Ends result
  | tokenFile _ next, result => ∃ content, (next content).Ends result
  | clock next, result => ∃ now, (next now).Ends result
  | both left right next, result =>
    ∃ a b, left.Ends a ∧ right.Ends b ∧ (next a b).Ends result

/-- **A plan that is carried out ends with one of its results.** -/
theorem Fetch.run_ends (carrier : Carrier (StateM σ)) {α : Type} (plan : Fetch α) (w : σ) :
    plan.Ends ((plan.run carrier).run w).1 := by
  induction plan generalizing w with
  | done result => exact rfl
  | call request next ih => exact ⟨_, ih _ _⟩
  | tokenFile name next ih => exact ⟨_, ih _ _⟩
  | clock next ih => exact ⟨_, ih _ _⟩
  | both left right next ihleft ihright ihnext => exact ⟨_, _, ihleft _, ihright _, ihnext _ _ _⟩

/-! ## 2. The outcomes of a pass -/

/-- What comes of asking for each item comes of asking for one of them, at some state. -/
theorem exists_of_mem_mapM {β γ : Type} {ask : β → StateM σ γ} {items : List β} {w : σ} {x : γ}
    (h : x ∈ ((items.mapM ask).run w).1) : ∃ c ∈ items, ∃ w', x = ((ask c).run w').1 := by
  induction items generalizing w with
  | nil => cases h
  | cons c rest ih =>
    rw [List.mapM_cons] at h
    rcases List.mem_cons.mp h with rfl | hrest
    · exact ⟨c, List.mem_cons_self, w, rfl⟩
    · obtain ⟨c', hc', hx⟩ := ih hrest
      exact ⟨c', List.mem_cons_of_mem c hc', hx⟩

/-- **An outcome is what the fetch of its credential ends with.** -/
theorem Adapter.mem_outcomes {a : Adapter α} {carrier : Carrier (StateM σ)}
    {targets : List Credential} {w : σ} {o : Outcome α}
    (h : o ∈ ((a.outcomes carrier targets).run w).1) :
    ∃ w', o.2 = (((a.fetch o.1).run carrier).run w').1 := by
  unfold Adapter.outcomes at h
  split at h
  · -- calls are held back: the note beside each result is dropped
    obtain ⟨⟨c, result, note⟩, hmem, rfl⟩ := List.mem_map.mp h
    generalize hnoted : ((targets.mapM fun c => do
      return (c, ← ((a.fetch c).run carrier.noting).run false)).run w).1 = noted
    have hparts : (c, result, note) ∈ (noted.partition (·.2.2)).2 ++ (noted.partition (·.2.2)).1 := by
      subst hnoted
      exact hmem
    have hmem' : (c, result, note) ∈ noted := by
      rw [List.partition_eq_filter_filter, List.mem_append] at hparts
      rcases hparts with hearly | hlate
      · exact (List.mem_filter.mp hearly).1
      · exact (List.mem_filter.mp hlate).1
    subst hnoted
    obtain ⟨c', -, w', hasked⟩ := exists_of_mem_mapM hmem'
    obtain ⟨note', hrun⟩ := (a.fetch c').run_noting carrier false w'
    have hboth : (c, result, note) =
        (c', ((((a.fetch c').run carrier.noting).run false).run w').1) := hasked
    rw [hrun] at hboth
    obtain ⟨rfl, rfl, -⟩ := hboth
    exact ⟨w', rfl⟩
  · have hmem := (arrange_perm carrier.delay _).subset h
    obtain ⟨c, -, w', rfl⟩ := exists_of_mem_mapM hmem
    exact ⟨w', rfl⟩

/-- **The pass that is run takes a course on which each fetch settles with a result of its own.** -/
theorem Adapter.pass_settled (a : Adapter α) (carrier : Carrier (StateM σ))
    (listing : List Credential) (slot : Slot α) (w : σ) :
    ∃ settled p, a.Underway listing slot [] settled p ∧
      ((a.pass carrier listing slot).run w).1 = (p.slot, p.summary) ∧
      ∀ o ∈ settled, ∃ w', o.2 = (((a.fetch o.1).run carrier).run w').1 :=
  ⟨_, _, Adapter.Underway.begun.foldl_settle (a.outcomes_perm carrier (a.targets listing) w), rfl,
    fun _ ho => Adapter.mem_outcomes ho⟩

/-! ## 3. What is heard on the way -/

/-- A request and what came back for it. -/
abbrev Exchange := ApiRequest × Except FetchError ApiReply

/-- `plan.Hears result heard`: the plan can end with `result` after the exchanges of `heard`.  Token
files and the clock say what they like, and the exchanges of two plans at once come in any order. -/
def Fetch.Hears {α : Type} : Fetch α → α → List Exchange → Prop
  | done a, result, heard => result = a ∧ heard = []
  | call request next, result, heard =>
    ∃ answer rest, heard = (request, answer) :: rest ∧ (next answer).Hears result rest
  | tokenFile _ next, result, heard => ∃ content, (next content).Hears result heard
  | clock next, result, heard => ∃ now, (next now).Hears result heard
  | both left right next, result, heard =>
    ∃ a first b second mixed rest,
      left.Hears a first ∧ right.Hears b second ∧ mixed.Perm (first ++ second) ∧
        (next a b).Hears result rest ∧ heard = mixed ++ rest

/-- The carrier answers a request so, in some state of its world. -/
def Carrier.Gives (carrier : Carrier (StateM σ)) (x : Exchange) : Prop :=
  ∃ w, x.2 = ((carrier.call x.1).run w).1

/-- **A plan that is carried out hears what its carrier gives.** -/
theorem Fetch.run_hears (carrier : Carrier (StateM σ)) {α : Type} (plan : Fetch α) (w : σ) :
    ∃ heard, plan.Hears ((plan.run carrier).run w).1 heard ∧ ∀ x ∈ heard, carrier.Gives x := by
  induction plan generalizing w with
  | done result => exact ⟨[], ⟨rfl, rfl⟩, by simp⟩
  | call request next ih =>
    obtain ⟨rest, hrest, hgiven⟩ := ih _ ((carrier.call request).run w).2
    exact ⟨_, ⟨_, rest, rfl, hrest⟩, List.forall_mem_cons.mpr ⟨⟨w, rfl⟩, hgiven⟩⟩
  | tokenFile name next ih =>
    obtain ⟨heard, hheard, hgiven⟩ := ih _ ((carrier.tokenFile name).run w).2
    exact ⟨heard, ⟨_, hheard⟩, hgiven⟩
  | clock next ih =>
    obtain ⟨heard, hheard, hgiven⟩ := ih _ (carrier.clock.run w).2
    exact ⟨heard, ⟨_, hheard⟩, hgiven⟩
  | both left right next ihleft ihright ihnext =>
    obtain ⟨first, hfirst, hleft⟩ := ihleft w
    obtain ⟨second, hsecond, hright⟩ := ihright ((left.run carrier).run w).2
    obtain ⟨rest, hrest, hnext⟩ :=
      ihnext _ _ ((right.run carrier).run ((left.run carrier).run w).2).2
    refine ⟨_, ⟨_, first, _, second, first ++ second, rest, hfirst, hsecond, .rfl, hrest, rfl⟩, ?_⟩
    intro x hx
    rcases List.mem_append.mp hx with hx | hx
    · exact (List.mem_append.mp hx).elim (hleft x) (hright x)
    · exact hnext x hx

/-- **Each fetch of the pass that is run settles after exchanges of its own.** -/
theorem Adapter.pass_hears (a : Adapter α) (carrier : Carrier (StateM σ))
    (listing : List Credential) (slot : Slot α) (w : σ) :
    ∃ settled p, a.Underway listing slot [] settled p ∧
      ((a.pass carrier listing slot).run w).1 = (p.slot, p.summary) ∧
      ∀ o ∈ settled, ∃ heard, (a.fetch o.1).Hears o.2 heard ∧ ∀ x ∈ heard, carrier.Gives x := by
  obtain ⟨settled, p, hunderway, hrun, hsettled⟩ := a.pass_settled carrier listing slot w
  refine ⟨settled, p, hunderway, hrun, fun o ho => ?_⟩
  obtain ⟨w', hresult⟩ := hsettled o ho
  rw [hresult]
  exact Fetch.run_hears carrier (a.fetch o.1) w'

end QuotaBoard
