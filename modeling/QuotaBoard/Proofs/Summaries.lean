import Mathlib.Data.List.Dedup
import QuotaBoard.Proofs.BoardRuns

/-!
# When the report of a refresh tells what the board shows

A summary counts fetches, and a slot has one state for each name.  These are two bookkeepings, and
nothing on the way from a catalog to a pass keeps two credentials from having the same name: an
entry may be named by its `name` or by its `id`, with blanks around it or without.  Two credentials
of one name are fetched twice and shown once.

* `Summary.Describes` says that a summary counts what a slot shows.
* `Adapter.Underway.describes_iff`: of a pass that has come to its end, in whatever order and with
  whatever results its fetches settled, this holds exactly when no two targets share a name.
-/

namespace QuotaBoard

variable {α : Type}

/-! ## 1. What a slot shows -/

namespace Slot

/-- How many names show quota data. -/
def succeeded (slot : Slot α) : Nat := slot.toList.countP (·.2.data?.isSome)

/-- How many names show an error. -/
def failed (slot : Slot α) : Nat := slot.toList.countP (·.2.errorMessage?.isSome)

/-- No name stands twice among the entries of a slot. -/
theorem nodup_toList (slot : Slot α) : slot.toList.Nodup := by
  have hkeys : (slot.toList.map Prod.fst).Nodup := by
    rw [Std.ExtTreeMap.map_fst_toList_eq_keys]
    exact Std.ExtTreeMap.nodup_keys
  exact hkeys.of_map

end Slot

/-- The summary counts what the slot shows: an entry for each fetch, one with data for each that
succeeded, and one with an error for each that failed. -/
structure Summary.Describes (s : Summary) (slot : Slot α) : Prop where
  dispatched : s.dispatched = slot.size
  succeeded : s.succeeded = slot.succeeded
  failed : s.failed = slot.failed

/-- What is written for a fetch that has settled: its name, and the state that its result makes. -/
def Outcome.entry (o : Outcome α) : String × QuotaState α := (o.1.name, .ofResult o.2)

theorem isSome_data?_ofResult (result : Except FetchError α) :
    (QuotaState.ofResult result).data?.isSome = result.isOk := by
  cases result <;> rfl

theorem isSome_errorMessage?_ofResult (result : Except FetchError α) :
    (QuotaState.ofResult result).errorMessage?.isSome = !result.isOk := by
  cases result <;> rfl

/-! ## 2. The end of a pass -/

namespace Adapter.Underway

variable {a : Adapter α} {listing : List Credential} {slot : Slot α}
  {pending : List Credential} {settled : List (Outcome α)} {p : Pass α}

/-- Each fetch that has settled is counted under what it ended with. -/
theorem summary_counts (h : a.Underway listing slot pending settled p) :
    p.summary.succeeded = settled.countP (·.2.isOk) ∧
      p.summary.failed = settled.countP (!·.2.isOk) := by
  induction h with
  | begun => exact ⟨rfl, rfl⟩
  | settled _ result ih =>
    obtain ⟨hsucceeded, hfailed⟩ := ih
    cases result <;> simp [Pass.settle, Summary.count, Except.isOk, Except.toBool, *]

/-- The names of the fetches that have settled are those of the targets. -/
theorem names_perm (h : a.Underway listing slot [] settled p) :
    (settled.map (·.1.name)).Perm ((a.targets listing).map (·.name)) := by
  have hperm : (settled.map (·.1)).Perm (a.targets listing) := by simpa using h.perm
  have hnames := hperm.map (·.name)
  rwa [List.map_map] at hnames

/-- **A slot has an entry for each name.**  How many targets bear it does not matter. -/
theorem size_eq (h : a.Underway listing slot [] settled p) :
    p.slot.size = ((a.targets listing).map (·.name)).dedup.length := by
  have hperm : p.slot.keys.Perm ((a.targets listing).map (·.name)).dedup := by
    refine (List.perm_ext_iff_of_nodup Std.ExtTreeMap.nodup_keys (List.nodup_dedup _)).mpr ?_
    intro name
    rw [Std.ExtTreeMap.mem_keys, h.tracks.names name, List.mem_dedup, List.mem_map]
  rw [← Std.ExtTreeMap.length_keys, hperm.length_eq]

/-- **If no two targets share a name, each fetch has an entry of its own.** -/
theorem toList_perm (h : a.Underway listing slot [] settled p)
    (hnames : ((a.targets listing).map (·.name)).Nodup) :
    p.slot.toList.Perm (settled.map Outcome.entry) := by
  have hsettled : (settled.map (·.1.name)).Nodup := h.names_perm.nodup_iff.mpr hnames
  have hentries : (settled.map Outcome.entry).Nodup := by
    have hfst : ((settled.map Outcome.entry).map Prod.fst).Nodup := by
      rw [List.map_map]
      exact hsettled
    exact hfst.of_map
  -- a fetch has no later one of its name, so its own result is what stands in the slot
  have hshown : ∀ o ∈ settled, p.slot[o.1.name]? = some (QuotaState.ofResult o.2) := by
    intro o ho
    obtain ⟨before, after, rfl⟩ := List.append_of_mem ho
    refine h.tracks.latest before o after rfl fun later hlater hname => ?_
    rw [List.map_append, List.map_cons, List.nodup_append] at hsettled
    have hnotin := (List.nodup_cons.mp hsettled.2.1).1
    exact hnotin (List.mem_map.mpr ⟨later, hlater, hname⟩)
  refine (List.perm_ext_iff_of_nodup p.slot.nodup_toList hentries).mpr ?_
  rintro ⟨name, state⟩
  rw [Std.ExtTreeMap.mem_toList_iff_getElem?_eq_some, List.mem_map]
  constructor
  · intro hstate
    have hmem : name ∈ p.slot := (Slot.mem_iff_getElem? p.slot name).mpr ⟨state, hstate⟩
    have hname : name ∈ settled.map (·.1.name) := by
      obtain ⟨c, hc, rfl⟩ := (h.tracks.names name).mp hmem
      exact h.names_perm.symm.subset (List.mem_map_of_mem hc)
    obtain ⟨o, ho, rfl⟩ := List.mem_map.mp hname
    refine ⟨o, ho, ?_⟩
    rw [hshown o ho, Option.some.injEq] at hstate
    rw [Outcome.entry, hstate]
  · rintro ⟨o, ho, hentry⟩
    obtain ⟨rfl, rfl⟩ := Prod.mk.inj hentry
    exact hshown o ho

/-- **The summary counts what the slot shows exactly when no two targets share a name.** -/
theorem describes_iff (h : a.Underway listing slot [] settled p) :
    p.summary.Describes p.slot ↔ ((a.targets listing).map (·.name)).Nodup := by
  obtain ⟨hsucceeded, hfailed⟩ := h.summary_counts
  have hdispatched : p.summary.dispatched = ((a.targets listing).map (·.name)).length := by
    rw [h.tracks.dispatched, List.length_map]
  constructor
  · intro hdescribes
    have hlength : ((a.targets listing).map (·.name)).dedup.length
        = ((a.targets listing).map (·.name)).length := by
      rw [← h.size_eq, ← hdescribes.dispatched, hdispatched]
    exact List.dedup_eq_self.mp ((List.dedup_sublist _).eq_of_length hlength)
  · intro hnames
    have hperm := h.toList_perm hnames
    constructor
    · rw [h.size_eq, hnames.dedup, hdispatched]
    · rw [Slot.succeeded, hperm.countP_eq, List.countP_map, hsucceeded]
      exact List.countP_congr fun o _ => by
        simp [Outcome.entry, isSome_data?_ofResult]
    · rw [Slot.failed, hperm.countP_eq, List.countP_map, hfailed]
      exact List.countP_congr fun o _ => by
        simp [Outcome.entry, isSome_errorMessage?_ofResult]

end Adapter.Underway

/-! ## 3. A refresh -/

variable {σ : Type}

/-- The names of the credentials of a listing that a provider is to fetch. -/
def namesFetchedBy (p : Provider) (listing : List Credential) : List String :=
  (listing.filter fun c => c.isFetchedBy p).map (·.name)

theorem Config.names_targets (config : Config) (p : Provider) (listing : List Credential) :
    ((config.adapter p).targets listing).map (·.name) = namesFetchedBy p listing := by
  rw [Adapter.targets, Config.accepts_adapter, namesFetchedBy]

/-- The summary of a pass counts the credentials that the provider is to fetch, and its slot has
an entry for each of their names. -/
theorem Config.pass_counts (config : Config) (p : Provider) (carrier : Carrier (StateM σ))
    (listing : List Credential) (slot : Slot p.Quota) (w : σ) :
    let left := (((config.adapter p).pass carrier listing slot).run w).1
    left.2.dispatched = (namesFetchedBy p listing).length ∧
      left.1.size = (namesFetchedBy p listing).dedup.length ∧
      (left.2.Describes left.1 ↔ (namesFetchedBy p listing).Nodup) := by
  intro left
  obtain ⟨settled, ended, hunderway, hended⟩ :=
    (config.adapter p).pass_underway carrier listing slot w
  have hleft : left = (ended.slot, ended.summary) := hended
  rw [hleft]
  have hnames := config.names_targets p listing
  refine ⟨?_, ?_, ?_⟩
  · rw [← hnames, List.length_map]
    exact hunderway.tracks.dispatched
  · rw [← hnames]
    exact hunderway.size_eq
  · rw [← hnames]
    exact hunderway.describes_iff

/-- **The report describes the board exactly when names are not shared.**  After a refresh, in
whatever order its fetches settled and with whatever results, the summary of a provider counts the
credentials that the provider fetches and its slot has an entry for each of their names; entries,
successes and errors are as many as the summary says if and only if no two of these credentials
have the same name. -/
theorem Board.refresh_describes_iff (b : Board) (service : Service (StateM σ)) (force : Bool)
    (listing : List Credential) (w : σ) (h : (service.credentials.run w).1 = .ok listing) :
    let after := ((b.refresh service force).run w).1
    ∃ report, after.1 = .ok report ∧ ∀ p,
      (report.summary p).dispatched = (namesFetchedBy p listing).length ∧
      (after.2.store.slot p).size = (namesFetchedBy p listing).dedup.length ∧
      ((report.summary p).Describes (after.2.store.slot p) ↔
        (namesFetchedBy p listing).Nodup) := by
  intro after
  obtain ⟨report, hreport, hpass⟩ := b.refresh_pass service force h
  refine ⟨report, hreport, fun p => ?_⟩
  obtain ⟨w', hw'⟩ := hpass p
  have hcounts := Config.pass_counts b.config p service.toCarrier listing (b.store.slot p) w'
  rw [← hw'] at hcounts
  exact hcounts

/-- Two credentials of different names, of which one is disabled: the report describes the board. -/
theorem Board.refresh_describes_own_names :
    let listing := [Credential.sampleCodex "a.json" none false, .sampleCodex "b.json" none false,
      .sampleCodex "a.json" none true]
    let after := ((({ config := .default } : Board).refresh
      (Board.scriptedListing (.ok listing)) false).run []).1
    ∃ report, after.1 = .ok report ∧
      (report.summary .codex).Describes (after.2.store.slot .codex) := by
  intro listing after
  obtain ⟨report, hreport, hcounts⟩ := ({ config := .default } : Board).refresh_describes_iff
    (Board.scriptedListing (.ok listing)) false listing [] rfl
  refine ⟨report, hreport, (hcounts .codex).2.2.mpr ?_⟩
  have hnames : namesFetchedBy .codex listing = ["a.json", "b.json"] := by decide +kernel
  rw [hnames]
  decide

/-- **Two credentials of one name are counted twice and shown once.**  A catalog has an entry that
is named and another one whose id is that name.  Both fetches fail for want of an index, the report
counts both, and the slot of the provider has a single entry. -/
theorem Board.refresh_shared_name :
    let entries : List Json :=
      [.object [("name", .string "a.json"), ("provider", .string "codex")],
        .object [("id", .string "a.json"), ("type", .string "codex")]]
    let listing := entries.filterMap Credential.ofEntry?
    let after := ((({ config := .default } : Board).refresh
      (Board.scriptedListing (.ok listing)) false).run []).1
    ∃ report, after.1 = .ok report ∧ report.codex.dispatched = 2 ∧
      (after.2.store.slot .codex).size = 1 ∧
      ¬ (report.summary .codex).Describes (after.2.store.slot .codex) := by
  intro entries listing after
  let b : Board := { config := .default }
  let service := Board.scriptedListing (.ok listing)
  have hnames : namesFetchedBy .codex listing = ["a.json", "a.json"] := by decide +kernel
  obtain ⟨report, hreport, hpass⟩ := b.refresh_pass service false (w := []) rfl
  obtain ⟨w, hw⟩ := hpass .codex
  have hcounts :=
    Config.pass_counts b.config .codex service.toCarrier listing (b.store.slot .codex) w
  rw [hnames, ← hw] at hcounts
  obtain ⟨hdispatched, hsize, hdescribes⟩ := hcounts
  refine ⟨report, hreport, hdispatched, hsize, ?_⟩
  rw [hdescribes]
  decide

end QuotaBoard
