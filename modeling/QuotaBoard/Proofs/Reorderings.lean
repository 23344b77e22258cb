import Mathlib.Data.List.Forall2
import QuotaBoard.Proofs.Buckets

/-!
# The same entries in another order

The entries of a Gemini CLI account come in no order that means anything, so the order should not
decide what is shown of them.  For the keys, the models and the numbers it does not: keys are put in
order, and the least of some numbers is the same number in any order (`Double.LeastOf.scaled_eq`).

Reset times are compared two at a time, as instants where both are one and as texts otherwise.
These two ways of comparing need not fit together, and three timestamps may come before each other
in a circle.  Section 1 says exactly when the order does not matter in spite of this: if some
element is *undisputed*, that is, if those that agree with it come before all others
(`undisputed_iff`).
Timestamps of one format always have such an element (`Timestamp.undisputed_of_one_format`).

`quotaOf_reordered` puts this together for a payload, and `quotaOf_order_matters` has three entries
whose order decides when their bucket is reset.
-/

namespace QuotaBoard

/-! ## 1. Keeping one of two, in any order -/

section

variable {α : Type} {lt agree : α → α → Prop} {first : α} {xs : List α}

/-- Of two elements at most one comes before the other, and if none does they agree. -/
structure Compares (lt agree : α → α → Prop) : Prop where
  equivalence : Equivalence agree
  asymm : ∀ {a b}, lt a b → ¬ lt b a
  not_lt : ∀ {a b}, agree a b → ¬ lt a b
  agree : ∀ {a b}, ¬ lt a b → ¬ lt b a → agree a b

/-- An element and those that agree with it come before all others. -/
def Settles (lt agree : α → α → Prop) (xs : List α) (first : α) : Prop :=
  ∀ y ∈ xs, agree y first → ∀ z ∈ xs, ¬ agree z first → lt y z

/-- Some element settles the list, if it has any. -/
def Undisputed (lt agree : α → α → Prop) (xs : List α) : Prop :=
  xs ≠ [] → ∃ first ∈ xs, Settles lt agree xs first

/-- One of two: the second if it comes before the first. -/
def lesser (lt : α → α → Prop) [DecidableRel lt] (a b : α) : α := if lt b a then b else a

/-- The element that is left when a list is folded so. -/
def winner? (lt : α → α → Prop) [DecidableRel lt] : List α → Option α
  | [] => none
  | x :: xs => some (xs.foldl (lesser lt) x)

theorem lesser_eq_or (lt : α → α → Prop) [DecidableRel lt] (a b : α) :
    lesser lt a b = a ∨ lesser lt a b = b := by
  unfold lesser
  split
  · exact .inr rfl
  · exact .inl rfl

theorem foldl_lesser_mem (lt : α → α → Prop) [DecidableRel lt] (xs : List α) (x : α) :
    xs.foldl (lesser lt) x ∈ x :: xs := by
  induction xs generalizing x with
  | nil => exact List.mem_singleton_self x
  | cons y rest ih =>
    rcases List.mem_cons.mp (ih (lesser lt x y)) with heq | hmem
    · rw [List.foldl_cons, heq]
      rcases lesser_eq_or lt x y with hkept | hkept <;> simp [hkept]
    · exact List.mem_cons_of_mem x (List.mem_cons_of_mem y hmem)

/-- None comes before what settles the list. -/
theorem Settles.not_lt (h : Settles lt agree xs first) (hlt : Compares lt agree) {y z : α}
    (hy : y ∈ xs) (hagree : agree y first) (hz : z ∈ xs) : ¬ lt z y := by
  by_cases hzfirst : agree z first
  · exact hlt.not_lt (hlt.equivalence.trans hzfirst (hlt.equivalence.symm hagree))
  · exact hlt.asymm (h y hy hagree z hz hzfirst)

variable [DecidableRel lt]

theorem foldl_lesser_of_not_lt {x : α} (h : ∀ y ∈ xs, ¬ lt y x) :
    xs.foldl (lesser lt) x = x := by
  induction xs with
  | nil => rfl
  | cons y rest ih =>
    obtain ⟨hy, hrest⟩ := List.forall_mem_cons.mp h
    have hstep : lesser lt x y = x := if_neg hy
    rw [List.foldl_cons, hstep, ih hrest]

/-- One step keeps what agrees with the undisputed element, and takes it up where it comes. -/
theorem Settles.agree_lesser (h : Settles lt agree xs first) (hlt : Compares lt agree) {a b : α}
    (ha : a ∈ xs) (hb : b ∈ xs) (hagree : agree a first ∨ agree b first) :
    agree (lesser lt a b) first := by
  by_cases hbfirst : agree b first
  · by_cases hafirst : agree a first
    · rcases lesser_eq_or lt a b with heq | heq <;> rw [heq] <;> assumption
    · have hba : lt b a := h b hb hbfirst a ha hafirst
      rwa [lesser, if_pos hba]
  · have hafirst := hagree.resolve_right hbfirst
    have hab : lt a b := h a ha hafirst b hb hbfirst
    rwa [lesser, if_neg (hlt.asymm hab)]

/-- A run over any of the elements ends with one that agrees, if it meets one. -/
theorem Settles.agree_foldl (h : Settles lt agree xs first) (hlt : Compares lt agree)
    {rest : List α} {a : α} (ha : a ∈ xs) (hrest : ∀ b ∈ rest, b ∈ xs)
    (hmeets : ∃ b ∈ a :: rest, agree b first) : agree (rest.foldl (lesser lt) a) first := by
  induction rest generalizing a with
  | nil =>
    obtain ⟨b, hb, hagree⟩ := hmeets
    obtain rfl := List.mem_singleton.mp hb
    exact hagree
  | cons b rest ih =>
    obtain ⟨hb, hrest⟩ := List.forall_mem_cons.mp hrest
    have hkept : lesser lt a b ∈ xs := by
      rcases lesser_eq_or lt a b with heq | heq <;> rw [heq] <;> assumption
    refine ih hkept hrest ?_
    by_cases hstep : agree a first ∨ agree b first
    · exact ⟨_, List.mem_cons_self, h.agree_lesser hlt ha hb hstep⟩
    · obtain ⟨c, hc, hagree⟩ := hmeets
      simp only [List.mem_cons] at hc
      rcases hc with rfl | rfl | hc
      · exact absurd (.inl hagree) hstep
      · exact absurd (.inr hagree) hstep
      · exact ⟨c, List.mem_cons_of_mem _ hc, hagree⟩

/-- In any order one of those that settle the list wins. -/
theorem Settles.exists_winner? (h : Settles lt agree xs first) (hlt : Compares lt agree)
    (hfirst : first ∈ xs) {ys : List α} (hperm : xs.Perm ys) :
    ∃ w ∈ xs, winner? lt ys = some w ∧ agree w first := by
  cases ys with
  | nil =>
    rw [hperm.eq_nil] at hfirst
    cases hfirst
  | cons y ys =>
    have hback : ∀ z ∈ y :: ys, z ∈ xs := fun z hz => hperm.mem_iff.mpr hz
    obtain ⟨hy, hys⟩ := List.forall_mem_cons.mp hback
    refine ⟨_, hback _ (foldl_lesser_mem lt ys y), rfl, h.agree_foldl hlt hy hys ?_⟩
    exact ⟨first, hperm.mem_iff.mp hfirst, hlt.equivalence.refl first⟩

/-- Put an element in front, behind it all that do not come before it, and those that do at the end:
if there are any, one of them wins. -/
theorem exists_winner?_lt (hirrefl : ∀ a, ¬ lt a a) {y z : α} (hy : y ∈ xs) (hz : z ∈ xs)
    (hzy : lt z y) : ∃ ys w, xs.Perm ys ∧ winner? lt ys = some w ∧ lt w y := by
  obtain ⟨before, after, rfl⟩ := List.append_of_mem hy
  let others := before ++ after
  let earlier := others.filter fun a => lt a y
  let later := others.filter fun a => !decide (lt a y)
  have hperm : (before ++ y :: after).Perm (y :: (later ++ earlier)) := by
    have hothers : (later ++ earlier).Perm others :=
      List.perm_append_comm.trans (List.filter_append_perm (fun a => lt a y) others)
    exact List.perm_middle.trans (hothers.symm.cons y)
  have hlater : later.foldl (lesser lt) y = y :=
    foldl_lesser_of_not_lt fun a ha => by simpa using (List.mem_filter.mp ha).2
  have hearlier : ∀ a ∈ earlier, lt a y := fun a ha => of_decide_eq_true (List.mem_filter.mp ha).2
  cases hcons : earlier with
  | nil =>
    have hzothers : z ∈ others := by
      have hzne : z ≠ y := fun heq => hirrefl y (heq ▸ hzy)
      simpa [others, hzne] using hz
    have hzearlier : z ∈ earlier := List.mem_filter.mpr ⟨hzothers, decide_eq_true hzy⟩
    rw [hcons] at hzearlier
    cases hzearlier
  | cons a rest =>
    rw [hcons] at hperm hearlier
    have hstep : lesser lt y a = a := if_pos (hearlier a List.mem_cons_self)
    have hwinner : winner? lt (y :: (later ++ a :: rest)) = some (rest.foldl (lesser lt) a) := by
      rw [winner?, List.foldl_append, hlater, List.foldl_cons, hstep]
    exact ⟨_, _, hperm, hwinner, hearlier _ (foldl_lesser_mem lt rest a)⟩

/-- **The order does not matter exactly if some element is undisputed.** -/
theorem undisputed_iff (hlt : Compares lt agree) :
    Undisputed lt agree xs ↔
      ∀ ys, xs.Perm ys → Option.Rel agree (winner? lt xs) (winner? lt ys) := by
  have hequiv := hlt.equivalence
  constructor
  · intro h ys hperm
    by_cases hne : xs = []
    · subst hne
      obtain rfl := hperm.nil_eq
      exact .none
    · obtain ⟨first, hfirst, hsettles⟩ := h hne
      obtain ⟨w, -, hw, hwfirst⟩ := hsettles.exists_winner? hlt hfirst (.refl xs)
      obtain ⟨v, -, hv, hvfirst⟩ := hsettles.exists_winner? hlt hfirst hperm
      rw [hw, hv]
      exact .some (hequiv.trans hwfirst (hequiv.symm hvfirst))
  · intro h hne
    obtain ⟨x, rest, rfl⟩ := List.exists_cons_of_ne_nil hne
    refine ⟨_, foldl_lesser_mem lt rest x, fun y hy hyfirst z hz hzfirst => ?_⟩
    by_contra hyz
    have hzy : lt z y := by
      by_contra hzy
      exact hzfirst (hequiv.trans (hequiv.symm (hlt.agree hyz hzy)) hyfirst)
    -- then something that comes before `y`, and so does not agree with it, wins in some order
    obtain ⟨ys, w, hperm, hw, hwy⟩ :=
      exists_winner?_lt (fun a => hlt.not_lt (hequiv.refl a)) hy hz hzy
    have hrel := h ys hperm
    rw [hw, winner?, Option.rel_some_some] at hrel
    exact hlt.not_lt (hequiv.trans (hequiv.symm hrel) (hequiv.symm hyfirst)) hwy

/-- Where the elements are in an order, one of the least is undisputed. -/
theorem undisputed_of_orders {p : α → Prop} (hlt : Compares lt agree) (horders : Orders p lt)
    (hxs : ∀ x ∈ xs, p x) : Undisputed lt agree xs := by
  intro hne
  obtain ⟨x, rest, rfl⟩ := List.exists_cons_of_ne_nil hne
  obtain ⟨hx, hrest⟩ := List.forall_mem_cons.mp hxs
  have hleast := firstLeast_foldl horders hx hrest
  refine ⟨_, hleast.mem, fun y hy hyleast z hz hzleast => ?_⟩
  have hz' := hleast.not_lt horders hxs hz
  by_contra hyz
  have hlt' := not_imp_comm.mp (fun h => hlt.agree hz' h) hzleast
  exact hlt.not_lt (hlt.equivalence.symm hyleast)
    (horders.weak _ z y (hxs _ hleast.mem) (hxs z hz) (hxs y hy) hlt' hyz)

end

/-! ## 2. Timestamps -/

namespace Timestamp

/-- Two timestamps are the same text or name the same instant. -/
def Agree (s t : String) : Prop :=
  s = t ∨ ∃ i, Instant.ofText? s = some i ∧ Instant.ofText? t = some i

/-- The first of two timestamps is taken for the earlier one. -/
def Before (s t : String) : Prop := isEarlier t s = true

instance : DecidableRel Before := fun s t => inferInstanceAs (Decidable (isEarlier t s = true))

theorem Precedes.before {s t : String} (h : Precedes s t) : Before s t := by
  obtain ⟨i, j, hi, hj, -⟩ := id h
  exact (isEarlier_iff ⟨i, hi⟩ ⟨j, hj⟩).mpr h

/-- Where one of two timestamps names no instant, they are compared as texts. -/
theorem before_iff_lt {s t : String} (h : ¬ (NamesInstant s ∧ NamesInstant t)) :
    Before s t ↔ s < t := by
  unfold Before isEarlier
  cases ht : Instant.ofText? t with
  | none => exact decide_eq_true_iff
  | some j =>
    cases hs : Instant.ofText? s with
    | none => exact decide_eq_true_iff
    | some i => exact absurd ⟨⟨i, hs⟩, ⟨j, ht⟩⟩ h

theorem agree_equivalence : Equivalence Agree where
  refl s := .inl rfl
  symm := by
    rintro s t (rfl | ⟨i, hs, ht⟩)
    · exact .inl rfl
    · exact .inr ⟨i, ht, hs⟩
  trans := by
    rintro s t u (rfl | ⟨i, hs, ht⟩) (rfl | ⟨j, ht', hu⟩)
    · exact .inl rfl
    · exact .inr ⟨j, ht', hu⟩
    · exact .inr ⟨i, hs, ht⟩
    · obtain rfl := Option.some.inj (ht.symm.trans ht')
      exact .inr ⟨i, hs, hu⟩

theorem compares_before : Compares Before Agree where
  equivalence := agree_equivalence
  asymm {s t} hst := by
    by_cases h : NamesInstant s ∧ NamesInstant t
    · exact orders_isEarlier.asymm s t h.1 h.2 hst
    · rw [before_iff_lt h] at hst
      rw [before_iff_lt fun h' => h h'.symm]
      exact String.lt_asymm hst
  not_lt {s t} hagree hst := by
    by_cases h : NamesInstant s ∧ NamesInstant t
    · obtain ⟨i, j, hs, ht, hij⟩ := (isEarlier_iff h.1 h.2).mp hst
      have heq : i = j := by
        rcases hagree with rfl | ⟨k, hs', ht'⟩
        · exact Option.some.inj (hs.symm.trans ht)
        · exact Option.some.inj ((hs.symm.trans hs').trans (ht'.symm.trans ht))
      rw [heq, Instant.before_iff] at hij
      omega
    · rcases hagree with rfl | ⟨k, hs, ht⟩
      · exact String.lt_irrefl s ((before_iff_lt h).mp hst)
      · exact h ⟨⟨k, hs⟩, ⟨k, ht⟩⟩
  agree {s t} hst hts := by
    by_cases h : NamesInstant s ∧ NamesInstant t
    · obtain ⟨i, hs⟩ := h.1
      obtain ⟨j, ht⟩ := h.2
      have hij : ¬ i.before j = true := fun hij => hst (Precedes.before ⟨i, j, hs, ht, hij⟩)
      have hji : ¬ j.before i = true := fun hji => hts (Precedes.before ⟨j, i, ht, hs, hji⟩)
      rw [Instant.before_iff] at hij hji
      obtain ⟨seconds, nanos⟩ := i
      obtain ⟨seconds', nanos'⟩ := j
      dsimp only at hij hji
      obtain rfl : seconds = seconds' := by omega
      obtain rfl : nanos = nanos' := by omega
      exact .inr ⟨_, hs, ht⟩
    · rw [before_iff_lt h] at hst
      rw [before_iff_lt fun h' => h h'.symm] at hts
      exact .inl (String.le_antisymm (String.not_lt.mp hts) (String.not_lt.mp hst))

theorem orders_before_of_not_instant : Orders (fun s => ¬ NamesInstant s) Before where
  asymm _ _ _ _ := compares_before.asymm
  weak s t u hs ht hu hst hut := by
    rw [before_iff_lt fun h => hs h.1] at hst ⊢
    rw [before_iff_lt fun h => hu h.1] at hut
    exact Std.lt_of_lt_of_le hst (String.not_lt.mp hut)

/-- **Timestamps of one format are not in dispute**, be it the format of instants or another one. -/
theorem undisputed_of_one_format {times : List String}
    (h : (∀ t ∈ times, NamesInstant t) ∨ ∀ t ∈ times, ¬ NamesInstant t) :
    Undisputed Before Agree times := by
  rcases h with h | h
  · exact undisputed_of_orders compares_before orders_isEarlier h
  · exact undisputed_of_orders compares_before orders_before_of_not_instant h

theorem foldl_earliest_eq_winner? (readings : List (Option String)) :
    readings.foldl earliest none = winner? Before (readings.filterMap id) := by
  rw [earliest_eq_merge, foldl_merge_none]
  cases readings.filterMap id <;> rfl

end Timestamp

/-! ## 3. Numbers -/

/-- **The least of some readings is the same number in any order.**  Which of two zeros it is may
depend on the order. -/
theorem Double.LeastOf.scaled_eq {readings readings' : List (Option Double)} {x x' : Option Double}
    (h : LeastOf readings x) (h' : LeastOf readings' x') (hperm : readings.Perm readings') :
    x.map scaled = x'.map scaled := by
  have hmissing : x = none ↔ x' = none := by
    rw [h.missing, h'.missing]
    exact ⟨fun hall r hr => hall r (hperm.mem_iff.mpr hr),
      fun hall r hr => hall r (hperm.mem_iff.mp hr)⟩
  cases x with
  | none => rw [hmissing.mp rfl]
  | some a =>
    cases x' with
    | none => exact absurd (hmissing.mpr rfl) (by simp)
    | some b =>
      obtain ⟨ha, hleast⟩ := h.least a rfl
      obtain ⟨hb, hleast'⟩ := h'.least b rfl
      have hab : a.scaled ≤ b.scaled := hleast b (hperm.mem_iff.mpr hb)
      have hba : b.scaled ≤ a.scaled := hleast' a (hperm.mem_iff.mp ha)
      simp only [Option.map_some]
      rw [Int.le_antisymm hab hba]

namespace GeminiCli

/-! ## 4. Buckets -/

/-- Two buckets tell the same of the same models, except for their resets.  Numbers are compared by
their values. -/
structure Bucket.SameReadings (b b' : Bucket) : Prop where
  modelId : b.modelId = b'.modelId
  tokenType : b.tokenType = b'.tokenType
  remaining : b.remaining.map Double.scaled = b'.remaining.map Double.scaled
  amount : b.amount.map Double.scaled = b'.amount.map Double.scaled
  modelIds : ∀ id, id ∈ b.modelIds ↔ id ∈ b'.modelIds

theorem sameReadings_combined {buckets buckets' : List Bucket} (k : Key)
    (h : buckets.Perm buckets') : (combined k buckets).SameReadings (combined k buckets') where
  modelId := rfl
  tokenType := rfl
  remaining := (summarizes_combined k buckets).remaining.scaled_eq
    (summarizes_combined k buckets').remaining (h.map _)
  amount := (summarizes_combined k buckets).amount.scaled_eq
    (summarizes_combined k buckets').amount (h.map _)
  modelIds id := by
    simp only [combined, List.mem_eraseDups]
    exact (h.map Bucket.modelId).mem_iff

/-- Keys are put in order, so they come in the same one. -/
theorem keysOf_perm {buckets buckets' : List Bucket} (h : buckets.Perm buckets') :
    keysOf buckets = keysOf buckets' := by
  have hnodup : ∀ buckets, (keysOf buckets).Nodup := fun buckets =>
    (ordered_keysOf buckets).imp Key.Precedes.ne
  have hperm : (keysOf buckets).Perm (keysOf buckets') := by
    refine (List.perm_ext_iff_of_nodup (hnodup _) (hnodup _)).mpr fun k => ?_
    simp only [mem_keysOf, h.mem_iff]
  refine hperm.eq_of_pairwise (fun a b _ _ hab hba => ?_) (ordered_keysOf _) (ordered_keysOf _)
  exact absurd rfl (hab.trans hba).ne

theorem members_perm {sent sent' : List Json} (h : sent.Perm sent') (k : Key) :
    (members sent k).Perm (members sent' k) := h.filter _

/-! ## 5. Payloads -/

/-- The reset times that are sent for a key. -/
def resetTimes (sent : List Json) (k : Key) : List String :=
  (members sent k).filterMap (·.textAt? "reset_time")

theorem resetTime_of_bucketOf? {raw : Json} {b : Bucket} (h : bucketOf? raw = some b) :
    b.resetTime = raw.textAt? "reset_time" := by
  obtain ⟨id, -, hb⟩ := Option.bind_eq_some_iff.mp h
  obtain rfl := Option.some.inj hb
  rfl

/-- The reset that is shown for a key is the winner among those that are sent for it. -/
theorem resetTime_combined (sent : List Json) (k : Key) :
    (combined k ((members sent k).filterMap bucketOf?)).resetTime =
      winner? Timestamp.Before (resetTimes sent k) := by
  have htimes : (((members sent k).filterMap bucketOf?).map Bucket.resetTime).filterMap id =
      resetTimes sent k := by
    rw [List.filterMap_map, List.filterMap_filterMap, resetTimes]
    refine List.filterMap_congr fun raw hraw => ?_
    have hkey := hasKey_iff.mp (of_decide_eq_true (List.mem_filter.mp hraw).2)
    obtain ⟨b, hb, -⟩ := Option.map_eq_some_iff.mp hkey
    rw [hb]
    exact resetTime_of_bucketOf? hb
  rw [combined, Timestamp.foldl_earliest_eq_winner?, htimes]

/-- What is read from a list can be put in any order by putting the list in some order. -/
theorem exists_perm_filterMap {α β : Type} {f : α → Option β} {xs : List α} {ys : List β}
    (h : (xs.filterMap f).Perm ys) : ∃ xs', xs.Perm xs' ∧ xs'.filterMap f = ys := by
  induction ys generalizing xs with
  | nil => exact ⟨xs, .refl xs, h.eq_nil⟩
  | cons y rest ih =>
    obtain ⟨x, hx, hfx⟩ := List.mem_filterMap.mp (h.mem_iff.mpr List.mem_cons_self)
    obtain ⟨before, after, rfl⟩ := List.append_of_mem hx
    have hothers : ((before ++ after).filterMap f).Perm rest := by
      refine List.Perm.cons_inv (a := y) (.trans ?_ h)
      rw [List.filterMap_append, List.filterMap_append, List.filterMap_cons_some hfx]
      exact List.perm_middle.symm
    obtain ⟨xs', hperm, rfl⟩ := ih hothers
    exact ⟨x :: xs', List.perm_middle.trans (hperm.cons x), List.filterMap_cons_some hfx⟩

/-- The entries can be sent in an order that puts the reset times of a key in any order. -/
theorem exists_perm_resetTimes {sent : List Json} {k : Key} {times : List String}
    (h : (resetTimes sent k).Perm times) :
    ∃ sent', sent.Perm sent' ∧ resetTimes sent' k = times := by
  simp only [resetTimes, members, List.filterMap_filter] at h ⊢
  exact exists_perm_filterMap h

theorem buckets_eq_combined (payload : Json) :
    (quotaOf payload).buckets =
      (keysOf ((entries payload).filterMap bucketOf?)).map fun k =>
        combined k ((members (entries payload) k).filterMap bucketOf?) := by
  rw [quotaOf_eq_entries, groupBuckets_filterMap]

theorem mem_buckets_iff {payload : Json} {b : Bucket} :
    b ∈ (quotaOf payload).buckets ↔
      (∃ raw ∈ entries payload, HasKey raw b.shownKey) ∧
        b = combined b.shownKey ((members (entries payload) b.shownKey).filterMap bucketOf?) := by
  rw [buckets_eq_combined, List.mem_map]
  constructor
  · rintro ⟨k, hk, rfl⟩
    exact ⟨exists_key_iff.mp (mem_keysOf.mp hk), rfl⟩
  · rintro ⟨hsent, hb⟩
    exact ⟨b.shownKey, mem_keysOf.mpr (exists_key_iff.mpr hsent), hb.symm⟩

theorem resetTime_eq_winner? {payload : Json} {b : Bucket} (h : b ∈ (quotaOf payload).buckets) :
    b.resetTime = winner? Timestamp.Before (resetTimes (entries payload) b.shownKey) := by
  rw [← resetTime_combined, ← (mem_buckets_iff.mp h).2]

theorem resetTimes_perm {sent sent' : List Json} (h : sent.Perm sent') (k : Key) :
    (resetTimes sent k).Perm (resetTimes sent' k) := (members_perm h k).filterMap _

/-- **The same entries in another order.**  They are shown as the same buckets with the same
readings.  The reset of a bucket is the same, and not after that of any of its entries, whatever the
order is, exactly if the reset times that are sent for it are not in dispute. -/
theorem quotaOf_reordered (payload : Json) :
    (∀ other, (entries payload).Perm (entries other) →
      List.Forall₂ Bucket.SameReadings (quotaOf payload).buckets (quotaOf other).buckets) ∧
    ∀ b ∈ (quotaOf payload).buckets,
      Undisputed Timestamp.Before Timestamp.Agree (resetTimes (entries payload) b.shownKey) ↔
        ∀ other, (entries payload).Perm (entries other) →
          ∀ b' ∈ (quotaOf other).buckets, b'.shownKey = b.shownKey →
            Option.Rel Timestamp.Agree b.resetTime b'.resetTime ∧
              ∀ shown ∈ b'.resetTime, ∀ sent ∈ resetTimes (entries other) b'.shownKey,
                ¬ Timestamp.Precedes sent shown := by
  constructor
  · intro other hperm
    rw [buckets_eq_combined, buckets_eq_combined, keysOf_perm (hperm.filterMap bucketOf?),
      List.forall₂_map_left_iff, List.forall₂_map_right_iff, List.forall₂_same]
    exact fun k _ => sameReadings_combined k ((members_perm hperm k).filterMap bucketOf?)
  · intro b hb
    rw [resetTime_eq_winner? hb]
    constructor
    · intro h other hperm b' hb' hkey
      have htimes := resetTimes_perm hperm b.shownKey
      rw [resetTime_eq_winner? hb', hkey]
      refine ⟨(undisputed_iff Timestamp.compares_before).mp h _ htimes, ?_⟩
      intro shown hshown sent hsent hprecedes
      obtain ⟨first, hfirst, hsettles⟩ := h (List.ne_nil_of_mem (htimes.mem_iff.mpr hsent))
      obtain ⟨w, hw, hwinner, hagree⟩ :=
        hsettles.exists_winner? Timestamp.compares_before hfirst htimes
      obtain rfl := Option.some.inj (hshown.symm.trans hwinner)
      exact hsettles.not_lt Timestamp.compares_before hw hagree (htimes.mem_iff.mpr hsent)
        hprecedes.before
    · intro h
      refine (undisputed_iff Timestamp.compares_before).mpr fun times htimes => ?_
      obtain ⟨sent, hperm, rfl⟩ := exists_perm_resetTimes htimes
      let b' := combined b.shownKey ((members sent b.shownKey).filterMap bucketOf?)
      have hb' : b' ∈ (quotaOf (.object [("buckets", .array sent)])).buckets := by
        obtain ⟨⟨raw, hraw, hkey⟩, -⟩ := mem_buckets_iff.mp hb
        exact mem_buckets_iff.mpr ⟨⟨raw, hperm.mem_iff.mp hraw, hkey⟩, rfl⟩
      have hrel := (h (.object [("buckets", .array sent)]) hperm b' hb' rfl).1
      rwa [resetTime_eq_winner? hb'] at hrel

/-- An entry that is reset at some time. -/
def entryAt (time : String) : Json :=
  .object [("modelId", .string "m"), ("resetTime", .string time)]

/-- Entries of one model that are reset at some times. -/
def sentAt (times : List String) : Json := .object [("buckets", .array (times.map entryAt))]

theorem entries_sentAt (times : List String) : entries (sentAt times) = times.map entryAt := rfl

/-- Two entries in both orders, with instants that are no earlier as texts. -/
theorem quotaOf_reordered_instants :
    let times := ["2026-01-01T16:00:00Z", "2026-01-02T00:30:00+09:00"]
    (entries (sentAt times)).Perm (entries (sentAt times.reverse)) ∧
      List.Forall₂ Bucket.SameReadings (quotaOf (sentAt times)).buckets
        (quotaOf (sentAt times.reverse)).buckets ∧
      ∀ b ∈ (quotaOf (sentAt times)).buckets, ∀ b' ∈ (quotaOf (sentAt times.reverse)).buckets,
        b'.shownKey = b.shownKey → Option.Rel Timestamp.Agree b.resetTime b'.resetTime := by
  intro times
  have hperm : (entries (sentAt times)).Perm (entries (sentAt times.reverse)) := by
    rw [entries_sentAt, entries_sentAt]
    exact times.reverse_perm.symm.map entryAt
  have hinstants : ∀ t ∈ times, Timestamp.NamesInstant t := by
    have hfirst : Instant.ofText? "2026-01-01T16:00:00Z" = some ⟨1767283200, 0⟩ := by
      decide +kernel
    have hsecond : Instant.ofText? "2026-01-02T00:30:00+09:00" = some ⟨1767281400, 0⟩ := by
      decide +kernel
    exact List.forall_mem_cons.mpr ⟨⟨_, hfirst⟩, List.forall_mem_singleton.mpr ⟨_, hsecond⟩⟩
  have htimes : resetTimes (entries (sentAt times)) ⟨"m", none⟩ = times := by decide +kernel
  obtain ⟨hsame, hresets⟩ := quotaOf_reordered (sentAt times)
  refine ⟨hperm, hsame _ hperm, fun b hb b' hb' hkey => ?_⟩
  have hundisputed : Undisputed Timestamp.Before Timestamp.Agree
      (resetTimes (entries (sentAt times)) b.shownKey) := by
    have hshown : (quotaOf (sentAt times)).buckets.map Bucket.shownKey = [⟨"m", none⟩] := by
      decide +kernel
    have hkey : b.shownKey = ⟨"m", none⟩ := by
      have hmem := List.mem_map_of_mem (f := Bucket.shownKey) hb
      rwa [hshown, List.mem_singleton] at hmem
    rw [hkey, htimes]
    exact Timestamp.undisputed_of_one_format (.inl hinstants)
  exact ((hresets b hb).mp hundisputed _ hperm b' hb' hkey).1

/-- **A circle of three timestamps.**  The one without a zone is no instant; as texts it stands
between two others, whose instants come the other way round.  The order in which the three are sent
decides when their bucket is reset, and in one order that is after the reset of one entry. -/
theorem quotaOf_order_matters :
    let early := "2026-01-02T00:30:00+09:00"
    let zoneless := "2026-01-01T23:00"
    let late := "2026-01-01T16:00:00Z"
    (entries (sentAt [zoneless, early, late])).Perm (entries (sentAt [late, zoneless, early])) ∧
      (quotaOf (sentAt [zoneless, early, late])).buckets.map Bucket.resetTime = [some late] ∧
      (quotaOf (sentAt [late, zoneless, early])).buckets.map Bucket.resetTime = [some early] ∧
      Timestamp.Precedes early late ∧ ¬ Timestamp.Agree early late := by
  intro early zoneless late
  have hearly : Instant.ofText? early = some ⟨1767281400, 0⟩ := by decide +kernel
  have hlate : Instant.ofText? late = some ⟨1767283200, 0⟩ := by decide +kernel
  have hprecedes : Timestamp.Precedes early late := ⟨_, _, hearly, hlate, by decide⟩
  have hperm : [zoneless, early, late].Perm [late, zoneless, early] := by decide
  rw [entries_sentAt, entries_sentAt]
  exact ⟨hperm.map entryAt, by decide +kernel, by decide +kernel, hprecedes,
    fun hagree => Timestamp.compares_before.not_lt hagree hprecedes.before⟩

end GeminiCli

end QuotaBoard
