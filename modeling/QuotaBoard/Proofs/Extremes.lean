import QuotaBoard.Instant
import QuotaBoard.Json.Loose

/-!
# The least of several readings

Readings that are shown as one are folded two at a time, and any of them may be missing.  What comes
out is the first of the least (`FirstLeast`) of those that are there, under the order by which two
are compared; nothing comes out only if none is there.

For numbers the order is that of their values (`Double.least_of_foldl_lowest`).  For timestamps
it is that of their instants if all of them name one (`Timestamp.firstLeast_of_foldl_earliest`).
Otherwise some pairs are compared as instants and some as texts, and there is no such order.
-/

namespace QuotaBoard

variable {α : Type} {lt : α → α → Prop} {pick : α → α → α} {p : α → Prop} {x : α} {xs : List α}

/-! ## 1. The first of the least -/

/-- An element comes before all that stand in front of it in a list, and none of those behind it
comes before it. -/
def FirstLeast (lt : α → α → Prop) (xs : List α) (x : α) : Prop :=
  ∃ before after, xs = before ++ x :: after ∧ (∀ y ∈ before, lt x y) ∧ ∀ y ∈ after, ¬ lt y x

theorem FirstLeast.mem (h : FirstLeast lt xs x) : x ∈ xs := by
  obtain ⟨before, after, rfl, -, -⟩ := h
  simp

theorem FirstLeast.congr {lt' : α → α → Prop} (h : FirstLeast lt xs x)
    (hlt : ∀ a ∈ xs, ∀ b ∈ xs, lt a b ↔ lt' a b) : FirstLeast lt' xs x := by
  have hx := h.mem
  obtain ⟨before, after, rfl, hbefore, hafter⟩ := h
  refine ⟨before, after, rfl, fun y hy => ?_, fun y hy => ?_⟩
  · exact (hlt x hx y (by simp [hy])).mp (hbefore y hy)
  · exact fun h => hafter y hy ((hlt y (by simp [hy]) x hx).mpr h)

/-- An order among the elements of some kind: none comes before itself in a circle of two, and what
does not come before one of two is not between them. -/
structure Orders (p : α → Prop) (lt : α → α → Prop) : Prop where
  asymm : ∀ a b, p a → p b → lt a b → ¬ lt b a
  weak : ∀ a b c, p a → p b → p c → lt a b → ¬ lt c b → lt a c

/-- None comes before it. -/
theorem FirstLeast.not_lt (h : FirstLeast lt xs x) (hlt : Orders p lt) (hxs : ∀ y ∈ xs, p y) {y : α}
    (hy : y ∈ xs) : ¬ lt y x := by
  have hx : p x := hxs x h.mem
  have hyp : p y := hxs y hy
  obtain ⟨before, after, rfl, hbefore, hafter⟩ := h
  rcases List.mem_append.mp hy with hmem | hmem
  · exact hlt.asymm x y hx hyp (hbefore y hmem)
  · rcases List.mem_cons.mp hmem with rfl | hmem
    · exact fun h => hlt.asymm y y hyp hyp h h
    · exact hafter y hmem

/-- What a step of the fold does: one more element is compared with the first of the least. -/
theorem FirstLeast.concat [DecidableRel lt] (h : FirstLeast lt xs x) (hlt : Orders p lt) {y : α}
    (hxs : ∀ z ∈ xs, p z) (hy : p y) : FirstLeast lt (xs ++ [y]) (if lt y x then y else x) := by
  have hx : p x := hxs x h.mem
  split
  · rename_i hyx
    exact ⟨xs, [], rfl,
      fun z hz => hlt.weak y x z hy hx (hxs z hz) hyx (h.not_lt hlt hxs hz), by simp⟩
  · rename_i hyx
    obtain ⟨before, after, rfl, hbefore, hafter⟩ := h
    refine ⟨before, after ++ [y], by simp, hbefore, fun z hz => ?_⟩
    rcases List.mem_append.mp hz with hz | hz
    · exact hafter z hz
    · exact List.mem_singleton.mp hz ▸ hyx

/-- **A fold that keeps the lesser of two ends with the first of the least.** -/
theorem firstLeast_foldl [DecidableRel lt] (hlt : Orders p lt) (hx : p x) (hxs : ∀ y ∈ xs, p y) :
    FirstLeast lt (x :: xs) (xs.foldl (fun a b => if lt b a then b else a) x) := by
  have hfold : ∀ (rest seen : List α) (least : α), (∀ y ∈ seen ++ rest, p y) →
      FirstLeast lt seen least →
      FirstLeast lt (seen ++ rest) (rest.foldl (fun a b => if lt b a then b else a) least) := by
    intro rest
    induction rest with
    | nil =>
      intro seen least _ h
      rwa [List.append_nil]
    | cons y rest ih =>
      intro seen least hall h
      rw [List.append_cons] at hall ⊢
      refine ih _ _ hall (h.concat hlt (fun z hz => hall z ?_) (hall y (by simp)))
      simp [hz]
  exact hfold xs [x] x (by simpa using ⟨hx, hxs⟩) ⟨[], [], rfl, by simp, by simp⟩

/-! ## 2. Readings that may be missing -/

theorem foldl_merge_some (pick : α → α → α) (readings : List (Option α)) (x : α) :
    readings.foldl (Option.merge pick) (some x) = some ((readings.filterMap id).foldl pick x) := by
  induction readings generalizing x with
  | nil => rfl
  | cons reading rest ih => cases reading <;> exact ih _

theorem foldl_merge_none (pick : α → α → α) (readings : List (Option α)) :
    readings.foldl (Option.merge pick) none =
      match readings.filterMap id with
      | [] => none
      | x :: rest => some (rest.foldl pick x) := by
  induction readings with
  | nil => rfl
  | cons reading rest ih =>
    cases reading with
    | none => exact ih
    | some x => exact foldl_merge_some pick rest x

/-- Nothing comes out only of nothing. -/
theorem foldl_merge_eq_none_iff {readings : List (Option α)} :
    readings.foldl (Option.merge pick) none = none ↔ ∀ reading ∈ readings, reading = none := by
  rw [foldl_merge_none]
  cases hthere : readings.filterMap id with
  | nil => simpa [List.filterMap_eq_nil_iff] using hthere
  | cons x rest =>
    have hx : some x ∈ readings := by
      have : x ∈ readings.filterMap id := hthere ▸ List.mem_cons_self
      simpa using this
    simp only [reduceCtorEq, false_iff]
    exact fun h => nomatch h _ hx

theorem firstLeast_of_foldl_merge [DecidableRel lt] (hlt : Orders p lt)
    {readings : List (Option α)} (hreadings : ∀ y ∈ readings.filterMap id, p y)
    (h : readings.foldl (Option.merge fun a b => if lt b a then b else a) none = some x) :
    FirstLeast lt (readings.filterMap id) x := by
  rw [foldl_merge_none] at h
  cases hthere : readings.filterMap id with
  | nil =>
    rw [hthere] at h
    cases h
  | cons y rest =>
    rw [hthere] at h hreadings
    obtain rfl := Option.some.inj h
    obtain ⟨hy, hrest⟩ := List.forall_mem_cons.mp hreadings
    exact firstLeast_foldl hlt hy hrest

/-! ## 3. Numbers -/

namespace Double

theorem lowest_eq_merge : lowest = Option.merge fun x y => if y < x then y else x := by
  funext a b
  cases a <;> cases b <;> rfl

theorem orders_lt : Orders (fun _ => True) (fun x y : Double => x < y) where
  asymm x y _ _ hxy hyx := by
    change x.scaled < y.scaled at hxy
    change y.scaled < x.scaled at hyx
    omega
  weak x y z _ _ _ hxy hzy := by
    change x.scaled < y.scaled at hxy
    change ¬ z.scaled < y.scaled at hzy
    change x.scaled < z.scaled
    omega

theorem foldl_lowest_eq_none_iff {readings : List (Option Double)} :
    readings.foldl lowest none = none ↔ ∀ reading ∈ readings, reading = none := by
  rw [lowest_eq_merge]
  exact foldl_merge_eq_none_iff

/-- **The lowest of several readings** is one of them, and none of them is less. -/
theorem least_of_foldl_lowest {readings : List (Option Double)} {x : Double}
    (h : readings.foldl lowest none = some x) :
    x ∈ readings.filterMap id ∧ ∀ y ∈ readings.filterMap id, x ≤ y := by
  rw [lowest_eq_merge] at h
  have hleast := firstLeast_of_foldl_merge orders_lt (fun _ _ => trivial) h
  refine ⟨hleast.mem, fun y hy => ?_⟩
  have hnot : ¬ y.scaled < x.scaled := hleast.not_lt orders_lt (fun _ _ => trivial) hy
  change x.scaled ≤ y.scaled
  omega

/-- The least of the readings that are there; it is missing only if all are. -/
structure LeastOf (readings : List (Option Double)) (least : Option Double) : Prop where
  missing : least = none ↔ ∀ reading ∈ readings, reading = none
  least : ∀ x ∈ least, some x ∈ readings ∧ ∀ y, some y ∈ readings → x ≤ y

theorem leastOf_foldl_lowest (readings : List (Option Double)) :
    LeastOf readings (readings.foldl lowest none) where
  missing := foldl_lowest_eq_none_iff
  least x hx := by
    obtain ⟨hmem, hleast⟩ := least_of_foldl_lowest hx
    exact ⟨by simpa using hmem, fun y hy => hleast y (by simpa using hy)⟩

end Double

/-! ## 4. Timestamps -/

theorem Instant.before_iff {i j : Instant} :
    i.before j = true ↔ i.seconds < j.seconds ∨ (i.seconds = j.seconds ∧ i.nanos < j.nanos) := by
  simp [before]

namespace Timestamp

/-- A text names an instant. -/
def NamesInstant (s : String) : Prop := ∃ i, Instant.ofText? s = some i

/-- One text names an instant before that of another one. -/
def Precedes (s t : String) : Prop :=
  ∃ i j, Instant.ofText? s = some i ∧ Instant.ofText? t = some j ∧ i.before j = true

theorem isEarlier_iff {s t : String} (hs : NamesInstant s) (ht : NamesInstant t) :
    isEarlier t s = true ↔ Precedes s t := by
  obtain ⟨i, hi⟩ := hs
  obtain ⟨j, hj⟩ := ht
  simp [isEarlier, Precedes, hi, hj]

theorem orders_isEarlier : Orders NamesInstant fun s t => isEarlier t s = true where
  asymm s t hs ht hst hts := by
    obtain ⟨i, j, hi, hj, hij⟩ := (isEarlier_iff hs ht).mp hst
    obtain ⟨j', i', hj', hi', hji⟩ := (isEarlier_iff ht hs).mp hts
    obtain rfl := Option.some.inj (hi.symm.trans hi')
    obtain rfl := Option.some.inj (hj.symm.trans hj')
    rw [Instant.before_iff] at hij hji
    omega
  weak s t u hs ht hu hst hut := by
    obtain ⟨k, hk⟩ := id hu
    obtain ⟨i, j, hi, hj, hij⟩ := (isEarlier_iff hs ht).mp hst
    have hkj : ¬ k.before j = true :=
      fun h => hut ((isEarlier_iff hu ht).mpr ⟨k, j, hk, hj, h⟩)
    refine (isEarlier_iff hs hu).mpr ⟨i, k, hi, hk, ?_⟩
    rw [Instant.before_iff] at hij hkj ⊢
    omega

theorem earliest_eq_merge :
    earliest = Option.merge fun a b => if isEarlier a b = true then b else a := by
  funext a b
  cases a <;> cases b <;> rfl

theorem foldl_earliest_eq_none_iff {readings : List (Option String)} :
    readings.foldl earliest none = none ↔ ∀ reading ∈ readings, reading = none := by
  rw [earliest_eq_merge]
  exact foldl_merge_eq_none_iff

/-- **The earliest of several timestamps** is the first of those whose instant none comes before, if
all of them name an instant. -/
theorem firstLeast_of_foldl_earliest {readings : List (Option String)} {s : String}
    (hall : ∀ t ∈ readings.filterMap id, NamesInstant t)
    (h : readings.foldl earliest none = some s) :
    FirstLeast Precedes (readings.filterMap id) s := by
  rw [earliest_eq_merge] at h
  exact (firstLeast_of_foldl_merge orders_isEarlier hall h).congr
    fun a ha b hb => isEarlier_iff (hall a ha) (hall b hb)

/-- The first of the earliest timestamps among those that are there; it is missing only if all are.
Nothing more is said of timestamps of which one names no instant. -/
structure EarliestOf (readings : List (Option String)) (earliest : Option String) : Prop where
  missing : earliest = none ↔ ∀ reading ∈ readings, reading = none
  earliest : (∀ t, some t ∈ readings → NamesInstant t) →
    ∀ s ∈ earliest, FirstLeast Precedes (readings.filterMap id) s

theorem earliestOf_foldl_earliest (readings : List (Option String)) :
    EarliestOf readings (readings.foldl Timestamp.earliest none) where
  missing := foldl_earliest_eq_none_iff
  earliest hall s hs :=
    firstLeast_of_foldl_earliest (fun t ht => hall t (by simpa using ht)) hs

end Timestamp

end QuotaBoard
