import QuotaBoard.Proofs.Grouping

/-!
# When the ids of the groups tell the groups apart

A group has the id of its family, or that of its only model.  No two families have one id, and no
two models, but a model may have the id of a family and belong to none: the ids of families are
written with hyphens, `gemini-2-5-pro`, where those of their models have points, `gemini-2.5-pro`.
If such a model is sent beside one of the family, two groups have one id (`groupsOf_same_id`).
Nothing else makes two groups have one id (`ids_distinct_iff`), and only five ids come to it
(`openIds`).
-/

namespace QuotaBoard.Antigravity

section

variable {models : List Model} {family : Family} {g g' : Group}

/-! ## 1. Groups of families and of single models -/

theorem groupIn?_eq_some_iff :
    groupIn? families models family = some g ↔
      (∃ m ∈ models, firstFamily? families m = some family) ∧
        groupOf family.id family.label
          (models.filter fun m => firstFamily? families m = some family) = g := by
  have hmember : (models.filter fun m => firstFamily? families m = some family) ≠ [] ↔
      ∃ m ∈ models, firstFamily? families m = some family := by
    simp [List.filter_eq_nil_iff]
  rw [← hmember]
  simp only [groupIn?]
  split
  · rename_i hnone
    simp [hnone]
  · rename_i hsome
    simp [hsome]

theorem id_of_groupIn? (h : groupIn? families models family = some g) : g.id = family.id := by
  obtain ⟨-, rfl⟩ := groupIn?_eq_some_iff.mp h
  rfl

/-- A group of a family, and that of a model that has the family's id and belongs to none. -/
def Collide (models : List Model) (g g' : Group) : Prop :=
  ∃ family ∈ families, ∃ m ∈ outsiders families models,
    m.id = family.id ∧ groupIn? families models family = some g ∧ soloGroup m = g'

theorem Collide.id_eq (h : Collide models g g') : g.id = g'.id := by
  obtain ⟨family, -, m, -, hid, hgroup, rfl⟩ := h
  exact (id_of_groupIn? hgroup).trans hid.symm

/-- The ids of families under which a model can be sent that belongs to none. -/
def openIds : List String :=
  ["gemini-2-5-pro", "gemini-2-5-flash", "gemini-2-5-flash-lite", "gemini-2-5-cu", "gemini-image"]

theorem mem_openIds_iff : ∀ family ∈ families,
    family.id ∈ openIds ↔ ∀ other ∈ families, other.rule.holds family.id = false := by
  decide +kernel

theorem Collide.mem_openIds (h : Collide models g g') : g'.id ∈ openIds := by
  obtain ⟨family, hfamily, m, hm, hid, -, rfl⟩ := h
  have hnone : firstFamily? families m = none := by simpa using (List.mem_filter.mp hm).2
  change m.id ∈ openIds
  rw [hid, mem_openIds_iff family hfamily, ← hid]
  simpa [firstFamily?] using hnone

/-! ## 2. Any two groups -/

theorem pairwise_id_families : families.Pairwise fun a b => a.id ≠ b.id := by decide +kernel

theorem pairwise_id_familyGroups (models : List Model) :
    (families.filterMap (groupIn? families models)).Pairwise fun g g' => g.id ≠ g'.id := by
  rw [List.pairwise_filterMap]
  refine pairwise_id_families.imp fun hne g hg g' hg' => ?_
  rw [id_of_groupIn? hg, id_of_groupIn? hg']
  exact hne

theorem pairwise_id_soloGroups (h : models.Pairwise fun m n => m.id < n.id) :
    ((outsiders families models).map soloGroup).Pairwise fun g g' => g.id ≠ g'.id := by
  rw [List.pairwise_map]
  refine (h.filter _).imp fun {m n} hlt heq => ?_
  have hids : m.id = n.id := heq
  exact String.lt_irrefl n.id (hids ▸ hlt)

end

/-- **Two groups have one id exactly if they collide.** -/
theorem pairwise_id_iff_collide {models : List (String × Json)} (h : Json.Ascending models) :
    (groupsOf models).Pairwise fun g g' => g.id = g'.id ↔ Collide (readModels models) g g' := by
  rw [groupsOf_eq h, List.pairwise_append]
  have hapart : ∀ {g g' : Group}, g.id ≠ g'.id →
      (g.id = g'.id ↔ Collide (readModels models) g g') :=
    fun hne => ⟨fun heq => absurd heq hne, Collide.id_eq⟩
  refine ⟨(pairwise_id_familyGroups _).imp hapart,
    (pairwise_id_soloGroups (ascending_readModels h)).imp hapart, fun g hg g' hg' => ?_⟩
  obtain ⟨family, hfamily, hgroup⟩ := List.mem_filterMap.mp hg
  obtain ⟨m, hm, rfl⟩ := List.mem_map.mp hg'
  refine ⟨fun heq => ⟨family, hfamily, m, hm, ?_, hgroup, rfl⟩, Collide.id_eq⟩
  exact heq.symm.trans (id_of_groupIn? hgroup)

/-! ## 3. All groups -/

/-- **The ids of the groups are distinct** exactly if no model of no family has the id of a family
that is shown.  Two groups with one id are always of this kind, and theirs is one of five ids. -/
theorem ids_distinct_iff {models : List (String × Json)} (h : Json.Ascending models) :
    (((groupsOf models).map Group.id).Nodup ↔
      ∀ family ∈ families, (∃ m ∈ readModels models, firstFamily? families m = some family) →
        ∀ m ∈ readModels models, firstFamily? families m = none → m.id ≠ family.id) ∧
    ((groupsOf models).Pairwise fun g g' =>
      g.id = g'.id ↔ Collide (readModels models) g g') ∧
    ∀ g g', Collide (readModels models) g g' → g'.id ∈ openIds := by
  refine ⟨?_, pairwise_id_iff_collide h, fun _ _ => Collide.mem_openIds⟩
  rw [List.Nodup, List.pairwise_map]
  constructor
  · intro hdistinct family hfamily hshown m hm hnone hid
    rw [groupsOf_eq h, List.pairwise_append] at hdistinct
    have hgroup := groupIn?_eq_some_iff.mpr ⟨hshown, rfl⟩
    have hne := hdistinct.2.2 _ (List.mem_filterMap.mpr ⟨family, hfamily, hgroup⟩) (soloGroup m)
      (List.mem_map.mpr ⟨m, List.mem_filter.mpr ⟨hm, by simpa using hnone⟩, rfl⟩)
    exact hne ((id_of_groupIn? hgroup).trans hid.symm)
  · intro hapart
    refine (pairwise_id_iff_collide h).imp fun hcollide heq => ?_
    obtain ⟨family, hfamily, m, hm, hid, hgroup, -⟩ := hcollide.mp heq
    obtain ⟨hsent, hnone⟩ := List.mem_filter.mp hm
    exact hapart family hfamily (groupIn?_eq_some_iff.mp hgroup).1 m hsent
      (by simpa using hnone) hid

/-- A model with the id of a family, without a model of that family. -/
def posingModel : List (String × Json) := [("gemini-2-5-pro", .object [("quotaInfo", .object [])])]

theorem ids_distinct_iff_posing :
    Json.Ascending posingModel ∧ ((groupsOf posingModel).map Group.id).Nodup := by
  have hascending : Json.Ascending posingModel := List.pairwise_singleton _ _
  refine ⟨hascending, (ids_distinct_iff hascending).1.mpr fun family _ hshown => ?_⟩
  obtain ⟨m, hm, hfamily⟩ := hshown
  have hnone : ∀ m ∈ readModels posingModel, firstFamily? families m = none := by decide +kernel
  rw [hnone m hm] at hfamily
  cases hfamily

/-- The same model beside one of the family. -/
def clashingModels : List (String × Json) :=
  posingModel ++ [("gemini-2.5-pro", .object [("quotaInfo", .object [])])]

/-- **Two groups have one id**, the family's and that of the model. -/
theorem groupsOf_same_id :
    Json.Ascending clashingModels ∧
      (groupsOf clashingModels).map (fun g => (g.id, g.models.map Model.id)) =
        [("gemini-2-5-pro", ["gemini-2.5-pro"]), ("gemini-2-5-pro", ["gemini-2-5-pro"])] ∧
      ¬ ((groupsOf clashingModels).map Group.id).Nodup := by
  have hascending : Json.Ascending clashingModels := by
    unfold Json.Ascending clashingModels posingModel
    decide +kernel
  exact ⟨hascending, by decide +kernel, by decide +kernel⟩

end QuotaBoard.Antigravity
