import Mathlib.Data.List.Forall2
import QuotaBoard.Codex.Quota
import QuotaBoard.Proofs.Drift

/-!
# What a window of usage says

A Codex payload has three places for windows; one window is shown for each object that stands in
them, and what it says depends on that object and the one around it (`Window.Tells`): a share that
was sent, moved into its range, or a hundred where the limit is reached and the reset is known, or
nothing.

A reset is named by its second or by the seconds until then.  Both are kept within 64 bits when they
are read, a span must fit its own bounds, and its whole days are added to the date.  From a clock
that the calendar covers, all this comes to one test (`bind_later?`): either way of telling counts
just if the second that is meant lies in the years of the calendar.  The label of a time is never
that of an unknown reset (`label_ne`), so a window that is compared by its label alone is compared
by whether its reset is known (`resetLabelOf_ne_iff`).
-/

namespace QuotaBoard

/-! ## 1. Numbers and labels -/

/-- One number moved into the percentages: itself, or the end of them that it lies beyond. -/
inductive Double.MovedToPercent (x : Double) : Double → Prop where
  | below (h : x < 0) : MovedToPercent x 0
  | inside (hlow : 0 ≤ x) (hhigh : x ≤ 100) : MovedToPercent x x
  | above (h : 100 < x) : MovedToPercent x 100

theorem Double.movedToPercent_clamp (x : Double) : x.MovedToPercent (x.clamp 0 100) := by
  unfold clamp
  split
  · rename_i hlow
    exact .below hlow
  · rename_i hlow
    split
    · rename_i hhigh
      exact .above hhigh
    · rename_i hhigh
      exact .inside (Int.not_lt.mp hlow) (Int.not_lt.mp hhigh)

namespace Calendar

/-- Seconds from 1 January of the year -262143 to 31 December of the year 262142. -/
theorem covers_iff {second : Int} :
    covers second = true ↔ -8334601228800 ≤ second ∧ second ≤ 8210266876799 := by
  have hfirst : firstSecond = -8334601228800 := by decide
  have hlast : lastSecond = 8210266876799 := by decide
  simp [covers, hfirst, hlast]

theorem time?_eq_some_iff {s second : Int} :
    time? s = some second ↔ s = second ∧ -8334601228800 ≤ second ∧ second ≤ 8210266876799 := by
  unfold time?
  split
  · rename_i h
    rw [covers_iff] at h
    grind
  · rename_i h
    rw [covers_iff] at h
    grind

/-- A time beyond either end of the calendar is none. -/
theorem time?_eq_none {s : Int} (h : s < -8334601228800 ∨ 8210266876799 < s) : time? s = none := by
  rw [Option.eq_none_iff_forall_ne_some]
  intro second hsecond
  obtain ⟨rfl, hfirst, hlast⟩ := time?_eq_some_iff.mp hsecond
  omega

/-- The date is one of the years covered just if the second is. -/
theorem later?_eq (time span : Int) : later? time span = time? (time + span) := by
  have hfirst : firstDay = -96465292 := by decide
  have hlast : lastDay = 95026236 := by decide
  have hsum : (time / 86400 + (time % 86400 + span) / 86400) * 86400 +
      (time % 86400 + span) % 86400 = time + span := by omega
  unfold later? time?
  dsimp only
  rw [hfirst, hlast, hsum]
  refine if_congr ?_ rfl rfl
  rw [covers_iff]
  omega

/-- Month, day, hour and minute are never a mere stroke. -/
theorem label_ne (second : Int) : label second ≠ "-" := by
  intro h
  have hlength : (label second).length = 11 := by
    simp only [label, twoDigits, String.length_append, String.length_ofList]
    rfl
  rw [h] at hlength
  cases hlength

end Calendar

namespace Codex

variable {window parent : Json} {now : Int}

/-! ## 2. Flags and resets -/

/-- A flag as the window has it or, if it has none, as the object around it does. -/
def HasFlag (window parent : Json) (key : String) (b : Bool) : Prop :=
  window.flagAt? key = some b ∨ window.flagAt? key = none ∧ parent.flagAt? key = some b

/-- The limit is said to be reached, or use is said not to be allowed. -/
def Exhausted (window parent : Json) : Prop :=
  HasFlag window parent "limit_reached" true ∨ HasFlag window parent "allowed" false

theorem or_eq_some_iff {key : String} {b : Bool} :
    (window.flagAt? key).or (parent.flagAt? key) = some b ↔ HasFlag window parent key b := by
  cases h : window.flagAt? key <;> simp [HasFlag, h]

theorem isExhausted_iff : isExhausted window parent = true ↔ Exhausted window parent := by
  have hgetD : ∀ flag : Option Bool, flag.getD false = true ↔ flag = some true := by
    intro flag
    cases flag <;> simp
  rw [isExhausted, Bool.or_eq_true, hgetD, beq_iff_eq, or_eq_some_iff, or_eq_some_iff, Exhausted]

/-- The second of the reset is named: it is positive and in the years of the calendar. -/
def NamesReset (window : Json) (second : Int) : Prop :=
  ∃ x, window.numberAt? "reset_at" = some x ∧ 0 < x ∧ x.truncate = second ∧
    -8334601228800 ≤ second ∧ second ≤ 8210266876799

/-- The seconds until the reset are told: they are not negative and lead to a second in the years
of the calendar. -/
def CountsToReset (window : Json) (now second : Int) : Prop :=
  ∃ x, window.numberAt? "reset_after_seconds" = some x ∧ 0 ≤ x ∧ now + x.truncate = second ∧
    -8334601228800 ≤ second ∧ second ≤ 8210266876799

/-- The reset is known, one way or the other. -/
def KnowsReset (window : Json) (now : Int) : Prop :=
  ∃ second, NamesReset window second ∨ CountsToReset window now second

/-- A number that does not fit 64 bits is beyond the calendar, and stays so when it is kept within
them. -/
theorem time?_within64 (n : Int) : Calendar.time? (within64 n) = Calendar.time? n := by
  by_cases h : -0x8000000000000000 ≤ n ∧ n ≤ 0x7fffffffffffffff
  · have hkept : within64 n = n := by
      unfold within64
      omega
    rw [hkept]
  · have hbeyond : within64 n < -8334601228800 ∨ 8210266876799 < within64 n := by
      unfold within64
      omega
    rw [Calendar.time?_eq_none hbeyond, Calendar.time?_eq_none (by omega)]

/-- **From a clock in range, a span leads to a time just if the sum is one.**  A span that is out of
its own bounds would lead beyond the calendar from any such clock. -/
theorem bind_later? (hnow : Calendar.covers now = true) (n : Int) :
    (Calendar.span? (within64 n)).bind (Calendar.later? now) = Calendar.time? (now + n) := by
  have hclock := Calendar.covers_iff.mp hnow
  unfold Calendar.span?
  split
  · rename_i hspan
    have hkept : within64 n = n := by
      unfold within64 at hspan ⊢
      omega
    rw [hkept, Option.bind_some, Calendar.later?_eq]
  · rename_i hspan
    have hbeyond : now + n < -8334601228800 ∨ 8210266876799 < now + n := by
      unfold within64 at hspan
      omega
    rw [Option.bind_none, Calendar.time?_eq_none hbeyond]

/-- Both ways of telling of a reset as times. -/
theorem resetTime?_eq (window : Json) (hnow : Calendar.covers now = true) :
    resetTime? window now =
      (((window.numberAt? "reset_at").filter (0 < ·)).bind fun x => Calendar.time? x.truncate).or
        (((window.numberAt? "reset_after_seconds").filter (0 ≤ ·)).bind fun x =>
          Calendar.time? (now + x.truncate)) := by
  simp only [resetTime?, time?_within64, bind_later? hnow]

/-- A field that is read for a second passes the test for its sign, and the second is covered. -/
theorem bind_time?_eq_some_iff {field : Option Double} {p : Double → Prop} [DecidablePred p]
    {f : Double → Int} {second : Int} :
    ((field.filter p).bind fun x => Calendar.time? (f x)) = some second ↔
      ∃ x, field = some x ∧ p x ∧ f x = second ∧
        -8334601228800 ≤ second ∧ second ≤ 8210266876799 := by
  simp only [Option.bind_eq_some_iff, Option.filter_eq_some_iff, decide_eq_true_eq,
    Calendar.time?_eq_some_iff, and_assoc]

section

variable (hnow : Calendar.covers now = true)
include hnow

theorem resetTime?_eq_some_iff {second : Int} :
    resetTime? window now = some second ↔
      NamesReset window second ∨
        (∀ s, ¬ NamesReset window s) ∧ CountsToReset window now second := by
  simp only [resetTime?_eq window hnow, Option.or_eq_some_iff, Option.eq_none_iff_forall_ne_some,
    ne_eq, bind_time?_eq_some_iff]
  rfl

theorem isSome_resetTime? : (resetTime? window now).isSome = true ↔ KnowsReset window now := by
  rw [Option.isSome_iff_exists, KnowsReset]
  constructor
  · rintro ⟨second, h⟩
    exact ⟨second, ((resetTime?_eq_some_iff hnow).mp h).imp_right And.right⟩
  · rintro ⟨second, h⟩
    by_cases hnamed : ∃ s, NamesReset window s
    · obtain ⟨s, hs⟩ := hnamed
      exact ⟨s, (resetTime?_eq_some_iff hnow).mpr (.inl hs)⟩
    · rw [not_exists] at hnamed
      exact ⟨second, (resetTime?_eq_some_iff hnow).mpr
        (.inr ⟨hnamed, h.resolve_left (hnamed second)⟩)⟩

end

theorem resetLabelOf_eq {second : Int} (h : resetTime? window now = some second) :
    resetLabelOf window now = Calendar.label second := by
  rw [resetLabelOf, h]
  rfl

/-- **A label is that of a time just if there is one.** -/
theorem resetLabelOf_ne_iff :
    resetLabelOf window now ≠ unknownReset ↔ (resetTime? window now).isSome = true := by
  cases h : resetTime? window now with
  | none => simp [resetLabelOf, h]
  | some second =>
    rw [resetLabelOf_eq h]
    exact iff_of_true (Calendar.label_ne second) rfl

/-! ## 3. One window -/

/-- What a window says of the object that stands in its place and of the one around it. -/
structure Window.Tells (w : Window) (window parent : Json) (now : Int) : Prop where
  /-- A share that was sent is shown, moved into the percentages. -/
  sent : ∀ x, window.numberAt? "used_percent" = some x →
    ∃ p, w.usedPercent = some p ∧ x.MovedToPercent p
  /-- Without one, a hundred is concluded if the limit is reached and the reset is known. -/
  concluded : window.numberAt? "used_percent" = none →
    Exhausted window parent ∧ KnowsReset window now → w.usedPercent = some 100
  missing : window.numberAt? "used_percent" = none →
    ¬ (Exhausted window parent ∧ KnowsReset window now) → w.usedPercent = none
  /-- No share below a hundred is made up. -/
  notMadeUp : ∀ p, w.usedPercent = some p → p < 100 →
    ∃ x, window.numberAt? "used_percent" = some x ∧ x.MovedToPercent p
  unknown : w.resetLabel = "-" ↔ ¬ KnowsReset window now
  named : ∀ second, NamesReset window second → w.resetLabel = Calendar.label second
  counted : (∀ s, ¬ NamesReset window s) → ∀ second, CountsToReset window now second →
    w.resetLabel = Calendar.label second

section

variable (id fallback : String) (window parent : Json)

theorem usedPercent_windowOf (now : Int) :
    (windowOf id fallback window parent now).usedPercent =
      ((window.numberAt? "used_percent").map (·.clamp 0 100)).or
        (if isExhausted window parent && resetLabelOf window now ≠ unknownReset then some 100
          else none) := by
  rw [Json.numberAt?, Json.map_probe?]
  rfl

theorem tells_windowOf (hnow : Calendar.covers now = true) :
    (windowOf id fallback window parent now).Tells window parent now := by
  have hknown : resetLabelOf window now ≠ unknownReset ↔ KnowsReset window now :=
    resetLabelOf_ne_iff.trans (isSome_resetTime? hnow)
  have hconcluded : (isExhausted window parent &&
      decide (resetLabelOf window now ≠ unknownReset)) = true ↔
        Exhausted window parent ∧ KnowsReset window now := by
    rw [Bool.and_eq_true, isExhausted_iff, decide_eq_true_iff, hknown]
  have hused := usedPercent_windowOf id fallback window parent now
  exact {
    sent := fun x hx => ⟨x.clamp 0 100, by rw [hused, hx]; rfl, x.movedToPercent_clamp⟩
    concluded := fun hx h => by rw [hused, hx, if_pos (hconcluded.mpr h)]; rfl
    missing := fun hx h => by rw [hused, hx, if_neg (hconcluded.not.mpr h)]; rfl
    notMadeUp := by
      intro p hp hlt
      rw [hused] at hp
      cases hx : window.numberAt? "used_percent" with
      | some x =>
        rw [hx] at hp
        obtain rfl := Option.some.inj hp
        exact ⟨x, rfl, x.movedToPercent_clamp⟩
      | none =>
        rw [hx, Option.map_none, Option.none_or] at hp
        split at hp
        · obtain rfl := Option.some.inj hp
          exact absurd hlt (Int.lt_irrefl _)
        · cases hp
    unknown := not_ne_iff.symm.trans hknown.not
    named := fun second h => resetLabelOf_eq ((resetTime?_eq_some_iff hnow).mpr (.inl h))
    counted := fun hnamed second h =>
      resetLabelOf_eq ((resetTime?_eq_some_iff hnow).mpr (.inr ⟨hnamed, h⟩)) }

end

/-- To say that a window is for code reviews changes its label only. -/
theorem Window.Tells.asReview {w : Window} (h : w.Tells window parent now) :
    w.asReview.Tells window parent now := by
  unfold Window.asReview
  split
  · exact h
  · exact ⟨h.sent, h.concluded, h.missing, h.notMadeUp, h.unknown, h.named, h.counted⟩

theorem id_asReview (w : Window) : w.asReview.id = w.id := by
  unfold Window.asReview
  split <;> rfl

/-! ## 4. All windows -/

/-- A place for a window in a payload: the id under which it is shown and the keys that lead to
it. -/
structure Place where
  id : String
  limits : String
  window : String

/-- The places in the order in which they are shown. -/
def places : List Place :=
  [⟨"primary", "rate_limit", "primary_window"⟩, ⟨"secondary", "rate_limit", "secondary_window"⟩,
    ⟨"code-review", "code_review_rate_limit", "primary_window"⟩]

/-- An object that stands in a place, and the object around it. -/
structure Sent where
  id : String
  window : Json
  parent : Json

/-- The object that stands in a place, if there is one. -/
def Place.sent? (payload : Json) (place : Place) : Option Sent :=
  (payload.objectAt? place.limits).bind fun parent =>
    (parent.objectAt? place.window).map fun window => ⟨place.id, window, parent⟩

/-- A window is shown for an object: it has its id, and tells of it. -/
def Sent.ShownAs (now : Int) (sent : Sent) (w : Window) : Prop :=
  w.id = sent.id ∧ w.Tells sent.window sent.parent now

/-- A window is shown in a place just if an object stands there. -/
theorem rel_windowAt? (payload : Json) (place : Place) (fallback : String)
    (hnow : Calendar.covers now = true) :
    Option.Rel (Sent.ShownAs now) (place.sent? payload)
      ((payload.objectAt? place.limits).bind
        (windowAt? place.id fallback place.window · now)) := by
  unfold Place.sent?
  cases payload.objectAt? place.limits with
  | none => exact .none
  | some parent =>
    rw [Option.bind_some, Option.bind_some, windowAt?]
    cases parent.objectAt? place.window with
    | none => exact .none
    | some window => exact .some ⟨rfl, tells_windowOf _ _ _ _ hnow⟩

theorem rel_map_asReview {sent? : Option Sent} {w? : Option Window}
    (h : Option.Rel (Sent.ShownAs now) sent? w?) :
    Option.Rel (Sent.ShownAs now) sent? (w?.map Window.asReview) := by
  cases h with
  | none => exact .none
  | some h => exact .some ⟨(id_asReview _).trans h.1, h.2.asReview⟩

/-- The ids of what stands in some places are among those of the places, in their order. -/
theorem sublist_map_id (payload : Json) (places : List Place) :
    ((places.filterMap (Place.sent? payload)).map Sent.id).Sublist (places.map Place.id) := by
  induction places with
  | nil => exact .slnil
  | cons place rest ih =>
    cases hsent : place.sent? payload with
    | none =>
      rw [List.filterMap_cons_none hsent]
      exact ih.cons place.id
    | some sent =>
      have hid : sent.id = place.id := by
        obtain ⟨parent, -, hmap⟩ := Option.bind_eq_some_iff.mp hsent
        obtain ⟨window, -, rfl⟩ := Option.map_eq_some_iff.mp hmap
        rfl
      rw [List.filterMap_cons_some hsent, List.map_cons, List.map_cons, hid]
      exact ih.cons_cons place.id

/-- **The windows of a payload**: one for each object that stands in a place, in the order of the
places, and each tells of its own object. -/
theorem quotaOf_windows (payload : Json) (plan : Option String) {now : Int}
    (hnow : Calendar.covers now = true) :
    List.Forall₂ (Sent.ShownAs now) (places.filterMap (Place.sent? payload))
      (quotaOf payload plan now).windows ∧
    ((quotaOf payload plan now).windows.map Window.id).Sublist
      ["primary", "secondary", "code-review"] ∧
    ((quotaOf payload plan now).windows.map Window.id).Nodup := by
  have hall : List.Forall₂ (Sent.ShownAs now) (places.filterMap (Place.sent? payload))
      (quotaOf payload plan now).windows := by
    refine List.rel_filterMap
      (R := fun place w? => Option.Rel (Sent.ShownAs now) (place.sent? payload) w?)
      (fun _ _ h => h) ?_
    exact .cons (rel_windowAt? payload _ "Primary" hnow)
      (.cons (rel_windowAt? payload _ "Secondary" hnow)
        (.cons (rel_map_asReview (rel_windowAt? payload _ reviewFallback hnow)) .nil))
  have hids : List.Forall₂ (· = ·) ((places.filterMap (Place.sent? payload)).map Sent.id)
      ((quotaOf payload plan now).windows.map Window.id) :=
    List.forall₂_map_left_iff.mpr (List.forall₂_map_right_iff.mpr (hall.imp fun _ _ h => h.1.symm))
  rw [List.forall₂_eq_eq_eq] at hids
  have hsublist := sublist_map_id payload places
  rw [hids] at hsublist
  exact ⟨hall, hsublist, hsublist.nodup (by decide)⟩

/-- At the last second of the calendar no reset is a second away, and none is named that does not
fit 64 bits: nothing is concluded from the limit. -/
theorem quotaOf_windows_last_second :
    let window : Json := .object [("allowed", .bool false), ("reset_after_seconds", .ofInt 1),
      ("resetAt", .string "1e300")]
    let payload : Json := .object [("rateLimit", .object [("primaryWindow", window)])]
    Calendar.covers 8210266876799 = true ∧
      ∃ w, (quotaOf payload none 8210266876799).windows = [w] ∧ w.id = "primary" ∧
        w.resetLabel = "-" ∧ w.usedPercent = none := by
  intro window payload
  have hnow : Calendar.covers 8210266876799 = true := by decide
  have hsent : places.filterMap (Place.sent? payload) =
      [⟨"primary", window, .object [("primaryWindow", window)]⟩] := rfl
  have hshown := (quotaOf_windows payload none hnow).1
  rw [hsent] at hshown
  obtain ⟨w, rest, ⟨hid, htells⟩, hrest, hwindows⟩ := List.forall₂_cons_left_iff.mp hshown
  obtain rfl := List.forall₂_nil_left_iff.mp hrest
  have hnone : (resetTime? window 8210266876799).isSome = false := by decide +kernel
  have hunknown : ¬ KnowsReset window 8210266876799 := by
    rw [← isSome_resetTime? hnow, hnone]
    exact Bool.false_ne_true
  have hshare : window.numberAt? "used_percent" = none := by decide +kernel
  exact ⟨hnow, w, hwindows, hid, htells.unknown.mpr hunknown,
    htells.missing hshare fun h => hunknown h.2⟩

end Codex

end QuotaBoard
