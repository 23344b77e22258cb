import QuotaBoard.Proofs.Grouping
import QuotaBoard.Proofs.Rounding

/-!
# The least percentage of an account is that of its most depleted model

What is left to an account is told by one number.  It is found in three steps: each group takes the
least fraction of its models, that fraction becomes a whole percentage, and the least of these
percentages is shown.  However the models are split into groups, this is the percentage of the least
fraction of all models.

Rounding does not get in the way, for a lesser fraction never has the greater percentage
(`Double.percentOfOne_le`): a group that has the most depleted model shows the percentage of that
model, and no other group shows less (`tellsLeast_of_partition`).  The percentages are
compared in an order in which negative zero comes before zero (`orders_precedes`); which of the two
is shown is left open, and all numbers here are compared by their values.
-/

namespace QuotaBoard

/-! ## 1. The least of several percentages -/

theorem Double.precedes_iff {x y : Double} :
    x.precedes y = true ↔
      x.scaled < y.scaled ∨ x.scaled = y.scaled ∧ x.negative = true ∧ y.negative = false := by
  have hlt : x < y ↔ x.scaled < y.scaled := Iff.rfl
  simp [precedes, hlt, and_assoc]

theorem Double.orders_precedes :
    Orders (fun _ => True) fun x y : Double => x.precedes y = true where
  asymm x y _ _ hxy hyx := by
    rw [precedes_iff] at hxy hyx
    grind
  weak x y z _ _ _ hxy hzy := by
    rw [precedes_iff] at hxy hzy ⊢
    grind

namespace Antigravity

theorem leastPercent_eq_none_iff {ps : List Double} : leastPercent ps = none ↔ ps = [] := by
  cases ps <;> simp [leastPercent]

/-- What is shown of several percentages is one of them, and none of them is less. -/
theorem least_of_leastPercent {ps : List Double} {p : Double} (h : leastPercent ps = some p) :
    p ∈ ps ∧ ∀ r ∈ ps, p ≤ r := by
  cases ps with
  | nil => cases h
  | cons q rest =>
    have hleast : FirstLeast (fun x y : Double => x.precedes y = true) (q :: rest) p := by
      obtain rfl := Option.some.inj h
      exact firstLeast_foldl Double.orders_precedes trivial fun _ _ => trivial
    refine ⟨hleast.mem, fun r hr => ?_⟩
    have hnot := hleast.not_lt Double.orders_precedes (fun _ _ => trivial) hr
    rw [Double.precedes_iff] at hnot
    change p.scaled ≤ r.scaled
    omega

/-! ## 2. Groups that have some models between them -/

/-- A fraction is the least that is known to be left to one of some models. -/
structure LeastLeft (models : List Model) (x : Double) : Prop where
  known : ∃ m ∈ models, m.remaining = some x
  least : ∀ m ∈ models, ∀ y ∈ m.remaining, x ≤ y

/-- What the least percentage of an account says of the models that it was read from. -/
structure Quota.TellsLeast (q : Quota) (models : List Model) : Prop where
  unknown : q.leastRemainingPercent = none ↔ ∀ m ∈ models, m.remaining = none
  least : ∀ p ∈ q.leastRemainingPercent, ∃ x, LeastLeft models x
  /-- It is the percentage of the least fraction. -/
  mostDepleted : ∀ p ∈ q.leastRemainingPercent, ∀ x, LeastLeft models x →
    p.scaled = x.percentOfOne.scaled
  whole : ∀ p ∈ q.leastRemainingPercent, ∃ n ≤ 100, p.scaled = (n * Double.one : Nat)
  models : ∀ p ∈ q.leastRemainingPercent, ∀ m ∈ models, ∀ r ∈ m.remainingPercent, p ≤ r
  groups : ∀ p ∈ q.leastRemainingPercent, ∀ g ∈ q.groups, ∀ r ∈ g.remainingPercent, p ≤ r

/-- A known fraction makes a least one. -/
theorem exists_leastLeft {models : List Model} {m : Model} {y : Double} (hm : m ∈ models)
    (hy : m.remaining = some y) : ∃ x, LeastLeft models x := by
  have htold := groupOf_summarizes "" "" models
  cases hx : (groupOf "" "" models).remaining with
  | none =>
    rw [htold.unknown.mp hx m hm] at hy
    cases hy
  | some x => exact ⟨x, (htold.lowest x hx).1, (htold.lowest x hx).2⟩

section

variable {q : Quota} {models : List Model} {m : Model} {x y : Double}
  (hperm : (q.groups.flatMap Group.models).Perm models) (hgroups : ∀ g ∈ q.groups, g.Summarizes)

include hperm hgroups

/-- The group of a model knows a fraction that is not greater than the model's. -/
theorem exists_group_le (hm : m ∈ models) (hy : m.remaining = some y) :
    ∃ g ∈ q.groups, ∃ x, g.remaining = some x ∧ x ≤ y := by
  obtain ⟨g, hg, hmg⟩ := List.mem_flatMap.mp (hperm.mem_iff.mpr hm)
  refine ⟨g, hg, ?_⟩
  cases hx : g.remaining with
  | none =>
    rw [(hgroups g hg).unknown.mp hx m hmg] at hy
    cases hy
  | some x => exact ⟨x, rfl, ((hgroups g hg).lowest x hx).2 m hmg y hy⟩

/-- What a group knows to be left is left to one of the models. -/
theorem exists_model_of_group {g : Group} (hg : g ∈ q.groups) (hx : g.remaining = some x) :
    ∃ m ∈ models, m.remaining = some x := by
  obtain ⟨m, hm, hmx⟩ := ((hgroups g hg).lowest x hx).1
  exact ⟨m, hperm.mem_iff.mp (List.mem_flatMap.mpr ⟨g, hg, hm⟩), hmx⟩

/-- What is shown is the percentage of one of the groups, and no group's is less. -/
theorem eq_percentOfOne_of_least {p : Double} (hp : q.leastRemainingPercent = some p) :
    ∃ z, p = z.percentOfOne ∧ (∃ m ∈ models, m.remaining = some z) ∧
      ∀ g ∈ q.groups, ∀ x ∈ g.remaining, p ≤ x.percentOfOne := by
  obtain ⟨hmem, hleast⟩ := least_of_leastPercent hp
  obtain ⟨g, hg, hpercent⟩ := List.mem_filterMap.mp hmem
  obtain ⟨z, hz, rfl⟩ := Option.map_eq_some_iff.mp hpercent
  refine ⟨z, rfl, exists_model_of_group hperm hgroups hg hz, fun g' hg' x hx => ?_⟩
  exact hleast _ (List.mem_filterMap.mpr ⟨g', hg', Option.map_eq_some_iff.mpr ⟨x, hx, rfl⟩⟩)

/-- **However the models are split**, the least percentage is that of the most depleted one. -/
theorem tellsLeast_of_partition : q.TellsLeast models := by
  have hmodels : ∀ p ∈ q.leastRemainingPercent, ∀ m ∈ models, ∀ y ∈ m.remaining,
      p ≤ y.percentOfOne := by
    intro p hp m hm y hy
    obtain ⟨-, -, -, hleast⟩ := eq_percentOfOne_of_least hperm hgroups hp
    obtain ⟨g, hg, x, hx, hle⟩ := exists_group_le hperm hgroups hm hy
    exact Int.le_trans (hleast g hg x hx) (Double.percentOfOne_le hle)
  refine { unknown := ?_, least := ?_, mostDepleted := ?_, whole := ?_, models := ?_, groups := ?_ }
  · rw [Quota.leastRemainingPercent, leastPercent_eq_none_iff, List.filterMap_eq_nil_iff]
    constructor
    · intro hnone m hm
      rw [Option.eq_none_iff_forall_ne_some]
      intro y hy
      obtain ⟨g, hg, x, hx, -⟩ := exists_group_le hperm hgroups hm hy
      have hpercent := hnone g hg
      rw [Group.remainingPercent, hx] at hpercent
      cases hpercent
    · intro hnone g hg
      rw [Group.remainingPercent, Option.map_eq_none_iff, Option.eq_none_iff_forall_ne_some]
      intro x hx
      obtain ⟨m, hm, hmx⟩ := exists_model_of_group hperm hgroups hg hx
      rw [hnone m hm] at hmx
      cases hmx
  · intro p hp
    obtain ⟨z, -, ⟨m, hm, hmz⟩, -⟩ := eq_percentOfOne_of_least hperm hgroups hp
    exact exists_leastLeft hm hmz
  · intro p hp x hx
    obtain ⟨z, rfl, ⟨m, hm, hmz⟩, -⟩ := eq_percentOfOne_of_least hperm hgroups hp
    obtain ⟨m', hm', hmx⟩ := hx.known
    -- the fraction that is shown is not less than the least, and its percentage is not greater
    exact Int.le_antisymm (hmodels _ hp m' hm' x hmx) (Double.percentOfOne_le (hx.least m hm z hmz))
  · intro p hp
    obtain ⟨z, rfl, -⟩ := eq_percentOfOne_of_least hperm hgroups hp
    exact z.percentOfOne_whole
  · intro p hp m hm r hr
    obtain ⟨y, hy, rfl⟩ := Option.map_eq_some_iff.mp hr
    exact hmodels p hp m hm y hy
  · intro p hp g hg r hr
    obtain ⟨x, hx, rfl⟩ := Option.map_eq_some_iff.mp hr
    obtain ⟨-, -, -, hleast⟩ := eq_percentOfOne_of_least hperm hgroups hp
    exact hleast g hg x hx

end

/-- **The least percentage of an account** is that of the least fraction that is known to be left to
one of its models. -/
theorem leastRemainingPercent_tells (models : List (String × Json)) (tier : Option String) :
    Quota.TellsLeast ⟨groupsOf models, tier⟩ (readModels models) := by
  refine tellsLeast_of_partition (perm_groupsOf models) fun g hg => ?_
  obtain ⟨id, label, members, rfl, -⟩ := mem_groupsOf hg
  exact groupOf_summarizes id label members

/-- Half a percent is rounded up, here of the model that is shown by itself. -/
example :
    let left : Json → Json := fun x => .object [("quotaInfo", .object [("remainingFraction", x)])]
    Quota.leastRemainingPercent ⟨groupsOf [("claude-4", left (.ofInt 1)),
      ("gpt-5", left (.string "0.5")), ("swift", left (.string "0.125"))], none⟩ = some 13 := by
  decide +kernel

end Antigravity

end QuotaBoard
