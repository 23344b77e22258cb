import Mathlib.Data.List.Basic
import QuotaBoard.Antigravity.Quota
import QuotaBoard.Proofs.Extremes
import QuotaBoard.Proofs.SchemaDrift

/-!
# Every model is shown in one group

The groups of an Antigravity account are taken off one after the other: each family takes its
members out of the models that are left, and what no family takes is sorted and shown by itself.
Told without the models that are left, a family has the models of which it is the first family
(`takeFamilies_eq`), and the sorting changes nothing, for the models come in the order of their ids
(`sortById_of_ascending`).  So the groups are a partition of the models that name a quota
(`perm_groupsOf`), and the two readings of a group are those of its members that are the least
(`groupOf_summarizes`).
-/

namespace QuotaBoard.Antigravity

/-! ## 1. Models -/

/-- Whether an object of quota information stands under either spelling of its key. -/
def hasQuotaInfo (info : Json) : Bool :=
  ["quota_info", "quotaInfo"].any fun key => (info.get? key).any Json.isObject

/-- The models that name a quota, as they are read. -/
def readModels (models : List (String × Json)) : List Model :=
  models.filterMap fun m => modelOf? m.1 m.2

theorem id_of_modelOf? {id : String} {info : Json} {m : Model} (h : modelOf? id info = some m) :
    m.id = id := by
  rw [modelOf?_eq] at h
  obtain ⟨quota, -, rfl⟩ := Option.map_eq_some_iff.mp h
  rfl

theorem isSome_modelOf? (id : String) (info : Json) :
    (modelOf? id info).isSome = hasQuotaInfo info := by
  have hcamel : Json.camelCase "quota_info" = "quotaInfo" := by decide +kernel
  have hread : ∀ v? : Option Json,
      (v?.bind fun v => if v.isObject then some v else none).isSome = v?.any Json.isObject := by
    intro v?
    cases v? with
    | none => rfl
    | some v => cases hv : v.isObject <;> simp [hv]
  rw [modelOf?_eq, Option.isSome_map, Json.objectAt?, Json.probe?, hcamel, Option.isSome_or, hread,
    hread]
  simp [hasQuotaInfo]

theorem map_id_readModels (models : List (String × Json)) :
    (readModels models).map Model.id =
      (models.filter fun m => hasQuotaInfo m.2).map Prod.fst := by
  induction models with
  | nil => rfl
  | cons m rest ih =>
    obtain ⟨id, info⟩ := m
    have hsome := isSome_modelOf? id info
    cases hmodel : modelOf? id info with
    | none =>
      rw [hmodel] at hsome
      rw [List.filter_cons_of_neg (by simp [← hsome]), ← ih]
      simp [readModels, hmodel]
    | some m =>
      rw [hmodel] at hsome
      rw [List.filter_cons_of_pos (by simp [← hsome]), List.map_cons, ← ih]
      simp [readModels, hmodel, id_of_modelOf? hmodel]

/-- Models that come with their ids in order are read in that order. -/
theorem ascending_readModels {models : List (String × Json)} (h : Json.Ascending models) :
    (readModels models).Pairwise fun m n => m.id < n.id := by
  rw [← List.pairwise_map (R := fun a b : String => a < b), map_id_readModels, List.pairwise_map]
  exact List.Pairwise.filter _ h

/-! ## 2. Families -/

section

variable {families : List Family} {models : List Model}

/-- The first of some families that a model belongs to. -/
def firstFamily? (families : List Family) (m : Model) : Option Family :=
  families.find? fun family => family.rule.holds m.id

/-- The group of a family, if it is the first family of a model. -/
def groupIn? (families : List Family) (models : List Model) (family : Family) : Option Group :=
  let members := models.filter fun m => firstFamily? families m = some family
  if members = [] then none else some (groupOf family.id family.label members)

/-- The models of no family. -/
def outsiders (families : List Family) (models : List Model) : List Model :=
  models.filter fun m => firstFamily? families m = none

theorem firstFamily?_cons (family : Family) (rest : List Family) (m : Model) :
    firstFamily? (family :: rest) m =
      if family.rule.holds m.id then some family else firstFamily? rest m := by
  rw [firstFamily?, List.find?_cons]
  cases family.rule.holds m.id <;> rfl

/-- A family that comes first has all that follow its rule. -/
theorem filter_first {family : Family} {rest : List Family} (h : family ∉ rest)
    (models : List Model) :
    models.filter (fun m => firstFamily? (family :: rest) m = some family) =
      models.filter fun m => family.rule.holds m.id := by
  refine List.filter_congr fun m _ => ?_
  rw [firstFamily?_cons]
  cases family.rule.holds m.id with
  | true => simp
  | false =>
    have hrest : firstFamily? rest m ≠ some family := fun hm => h (List.mem_of_find?_eq_some hm)
    simp [hrest]

/-- What becomes of the others is settled among those that it leaves. -/
theorem filter_later {family : Family} {other : Option Family} (h : other ≠ some family)
    (rest : List Family) (models : List Model) :
    models.filter (fun m => firstFamily? (family :: rest) m = other) =
      (models.filter fun m => !family.rule.holds m.id).filter
        fun m => firstFamily? rest m = other := by
  rw [List.filter_filter]
  refine List.filter_congr fun m _ => ?_
  rw [firstFamily?_cons]
  cases family.rule.holds m.id with
  | true => simpa using h.symm
  | false => simp

/-- **What the families take**, told of all models at once. -/
theorem takeFamilies_eq (hfamilies : families.Nodup) (models : List Model) :
    takeFamilies families models =
      (families.filterMap (groupIn? families models), outsiders families models) := by
  induction families generalizing models with
  | nil =>
    have hall : outsiders [] models = models := List.filter_eq_self.mpr fun m _ => rfl
    rw [hall]
    rfl
  | cons family rest ih =>
    obtain ⟨hfamily, hrest⟩ := List.nodup_cons.mp hfamilies
    have hgroups : rest.filterMap (groupIn? (family :: rest) models) =
        rest.filterMap (groupIn? rest (models.filter fun m => !family.rule.holds m.id)) := by
      refine List.filterMap_congr fun other hmem => ?_
      have hne : some other ≠ some family := fun h => hfamily (Option.some.inj h ▸ hmem)
      simp only [groupIn?, filter_later hne]
    have hleft : outsiders (family :: rest) models =
        outsiders rest (models.filter fun m => !family.rule.holds m.id) :=
      filter_later (Option.some_ne_none family).symm rest models
    have hothers : models.filter (not ∘ fun m => family.rule.holds m.id) =
        models.filter fun m => !family.rule.holds m.id := rfl
    simp only [takeFamilies, List.partition_eq_filter_filter]
    rw [hothers, ih hrest, List.filterMap_cons, hgroups, hleft, groupIn?, filter_first hfamily]
    cases models.filter fun m => family.rule.holds m.id <;> rfl

/-- The families and the models of none have all models between them. -/
theorem perm_takeFamilies (families : List Family) (models : List Model) :
    ((takeFamilies families models).1.flatMap Group.models ++ (takeFamilies families models).2).Perm
      models := by
  induction families generalizing models with
  | nil => exact .refl models
  | cons family rest ih =>
    have hothers := ih (models.filter fun m => !family.rule.holds m.id)
    have hall := List.filter_append_perm (fun m => family.rule.holds m.id) models
    simp only [takeFamilies, List.partition_eq_filter_filter]
    have hgroups : ∀ (members : List Model) (groups : List Group),
        (if members.isEmpty then groups
          else groupOf family.id family.label members :: groups).flatMap Group.models =
            members ++ groups.flatMap Group.models := by
      intro members groups
      cases members <;> rfl
    rw [hgroups, List.append_assoc]
    exact (hothers.append_left _).trans hall

end

/-! ## 3. Groups -/

/-- Sorting changes nothing in models that come in order. -/
theorem sortById_of_ascending {models : List Model} (h : models.Pairwise fun m n => m.id < n.id) :
    sortById models = models :=
  List.mergeSort_of_pairwise <| h.imp fun hlt =>
    decide_eq_true (String.not_lt.mp (String.lt_asymm hlt))

/-- The families' groups come first, in the order of the families, and then the others, sorted. -/
theorem groupsOf_sorted (models : List (String × Json)) :
    groupsOf models =
      families.filterMap (groupIn? families (readModels models)) ++
        (sortById (outsiders families (readModels models))).map soloGroup := by
  have hnodup : families.Nodup := by decide
  have hread : models.filterMap (fun m => modelOf? m.1 m.2) = readModels models := rfl
  simp only [groupsOf, hread]
  rw [takeFamilies_eq hnodup]

/-- Models that come in order need no sorting. -/
theorem groupsOf_eq {models : List (String × Json)} (h : Json.Ascending models) :
    groupsOf models =
      families.filterMap (groupIn? families (readModels models)) ++
        (outsiders families (readModels models)).map soloGroup := by
  have hsorted : (outsiders families (readModels models)).Pairwise
      fun m n => m.id < n.id := (ascending_readModels h).filter _
  rw [groupsOf_sorted, sortById_of_ascending hsorted]

/-- **The groups have the models between them.** -/
theorem perm_groupsOf (models : List (String × Json)) :
    ((groupsOf models).flatMap Group.models).Perm (readModels models) := by
  have hnodup : families.Nodup := by decide
  have hsolo : ∀ ms : List Model, (ms.map soloGroup).flatMap Group.models = ms := by
    intro ms
    induction ms with
    | nil => rfl
    | cons m rest ih => exact congrArg (m :: ·) ih
  have hperm := perm_takeFamilies families (readModels models)
  rw [takeFamilies_eq hnodup] at hperm
  rw [groupsOf_sorted, List.flatMap_append, hsolo]
  exact ((List.mergeSort_perm _ _).append_left _).trans hperm

/-- What a group says of its members: the least that is left to one, and the first of their earliest
resets. -/
structure Group.Summarizes (g : Group) : Prop where
  unknown : g.remaining = none ↔ ∀ m ∈ g.models, m.remaining = none
  lowest : ∀ x ∈ g.remaining, (∃ m ∈ g.models, m.remaining = some x) ∧
    ∀ m ∈ g.models, ∀ y ∈ m.remaining, x ≤ y
  noReset : g.resetTime = none ↔ ∀ m ∈ g.models, m.resetTime = none
  earliest : (∀ m ∈ g.models, ∀ s ∈ m.resetTime, Timestamp.NamesInstant s) →
    ∀ s ∈ g.resetTime, FirstLeast Timestamp.Precedes (g.models.filterMap Model.resetTime) s

theorem groupOf_summarizes (key label : String) (models : List Model) :
    (groupOf key label models).Summarizes where
  unknown := by
    rw [groupOf, Double.foldl_lowest_eq_none_iff]
    simp
  lowest x hx := by
    obtain ⟨hmem, hleast⟩ := Double.least_of_foldl_lowest hx
    rw [List.filterMap_map, Function.id_comp] at hmem hleast
    exact ⟨List.mem_filterMap.mp hmem,
      fun m hm y hy => hleast y (List.mem_filterMap.mpr ⟨m, hm, hy⟩)⟩
  noReset := by
    rw [groupOf, Timestamp.foldl_earliest_eq_none_iff]
    simp
  earliest hall s hs := by
    have hnames : ∀ t ∈ (models.map Model.resetTime).filterMap id, Timestamp.NamesInstant t := by
      intro t ht
      rw [List.filterMap_map, Function.id_comp] at ht
      obtain ⟨m, hm, hmt⟩ := List.mem_filterMap.mp ht
      exact hall m hm t hmt
    have hleast := Timestamp.firstLeast_of_foldl_earliest hnames hs
    rwa [List.filterMap_map, Function.id_comp] at hleast

/-! ## 4. All groups -/

/-- What the groups of some models are. -/
structure Partitions (models : List (String × Json)) (groups : List Group) : Prop where
  /-- Every model that names a quota is in a group, and nothing else is. -/
  shown : (groups.flatMap fun g => g.models.map Model.id).Perm
    ((models.filter fun m => hasQuotaInfo m.2).map Prod.fst)
  /-- No model is in two groups, or twice in one. -/
  once : (groups.flatMap fun g => g.models.map Model.id).Nodup
  /-- What is shown of a model is what was sent under its id. -/
  sent : ∀ g ∈ groups, ∀ m ∈ g.models, ∃ info, (m.id, info) ∈ models ∧ modelOf? m.id info = some m
  /-- The groups of the families come first, in the order of the families, and then the models of no
  family, each by itself. -/
  split : groups = families.filterMap (groupIn? families (readModels models)) ++
    (outsiders families (readModels models)).map soloGroup
  familiesInOrder : ∀ g ∈ groups, g.models.Pairwise fun m n => m.id < n.id
  outsidersInOrder : (outsiders families (readModels models)).Pairwise fun m n => m.id < n.id
  summaries : ∀ g ∈ groups, g.Summarizes
  empty : groups = [] ↔ ∀ m ∈ models, hasQuotaInfo m.2 = false

theorem mem_groupsOf {models : List (String × Json)} {g : Group} (hg : g ∈ groupsOf models) :
    ∃ id label members, g = groupOf id label members ∧ members.Sublist (readModels models) := by
  rw [groupsOf_sorted] at hg
  rcases List.mem_append.mp hg with hg | hg
  · obtain ⟨family, -, hgroup⟩ := List.mem_filterMap.mp hg
    simp only [groupIn?] at hgroup
    split at hgroup
    · cases hgroup
    · exact ⟨_, _, _, (Option.some.inj hgroup).symm, List.filter_sublist⟩
  · obtain ⟨m, hm, rfl⟩ := List.mem_map.mp hg
    have hmem := (List.mergeSort_perm _ _).subset hm
    exact ⟨_, _, _, rfl, List.singleton_sublist.mpr (List.mem_filter.mp hmem).1⟩

/-- **The groups are a partition of the models that name a quota.** -/
theorem groupsOf_partitions {models : List (String × Json)} (h : Json.Ascending models) :
    Partitions models (groupsOf models) := by
  have hperm := perm_groupsOf models
  have hids : ((groupsOf models).flatMap fun g => g.models.map Model.id).Perm
      ((readModels models).map Model.id) := by
    have := hperm.map Model.id
    rwa [List.map_flatMap] at this
  exact {
    shown := map_id_readModels models ▸ hids
    once := by
      rw [hids.nodup_iff, List.Nodup, List.pairwise_map]
      refine (ascending_readModels h).imp fun {m n} hlt heq => ?_
      exact String.lt_irrefl n.id (heq ▸ hlt)
    sent := by
      intro g hg m hm
      have hmem : m ∈ readModels models := hperm.subset (List.mem_flatMap.mpr ⟨g, hg, hm⟩)
      obtain ⟨⟨id, info⟩, hsent, hread⟩ := List.mem_filterMap.mp hmem
      obtain rfl := id_of_modelOf? hread
      exact ⟨info, hsent, hread⟩
    split := groupsOf_eq h
    familiesInOrder := by
      intro g hg
      obtain ⟨id, label, members, rfl, hsub⟩ := mem_groupsOf hg
      exact (ascending_readModels h).sublist hsub
    outsidersInOrder := (ascending_readModels h).filter _
    summaries := by
      intro g hg
      obtain ⟨id, label, members, rfl, -⟩ := mem_groupsOf hg
      exact groupOf_summarizes id label members
    empty := by
      have hread : readModels models = [] ↔ ∀ m ∈ models, hasQuotaInfo m.2 = false := by
        rw [← List.map_eq_nil_iff (f := Model.id), map_id_readModels, List.map_eq_nil_iff,
          List.filter_eq_nil_iff]
        simp
      rw [← hread]
      constructor
      · intro hnil
        rw [hnil] at hperm
        exact hperm.symm.eq_nil
      · intro hnil
        rw [groupsOf_eq h, hnil]
        rfl }

/-- Two models of one family, one without a quota, and one of no family. -/
def sampleModels : List (String × Json) :=
  [("claude-4", .object [("quotaInfo", .object [("resetTime", .string "2026-01-02T00:00:00Z")])]),
    ("gemini-3-flash", .object [("quotaInfo", .null)]),
    ("gpt-5", .object [("quota_info", .object [("reset_time", .string "2026-01-01T23:00:00Z")])]),
    ("swift", .object [("displayName", .string "Swift"), ("quotaInfo", .object [])])]

theorem groupsOf_partitions_sample :
    Partitions sampleModels (groupsOf sampleModels) ∧
      (groupsOf sampleModels).map (fun g => (g.label, g.models.map Model.id, g.resetTime)) =
        [("Claude/GPT", ["claude-4", "gpt-5"], some "2026-01-01T23:00:00Z"),
          ("Swift", ["swift"], none)] := by
  have hascending : Json.Ascending sampleModels := by
    unfold Json.Ascending sampleModels
    decide +kernel
  exact ⟨groupsOf_partitions hascending, by decide +kernel⟩

end QuotaBoard.Antigravity
