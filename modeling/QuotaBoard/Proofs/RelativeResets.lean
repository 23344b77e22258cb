import QuotaBoard.Proofs.Rounding
import QuotaBoard.Proofs.Windows

/-!
# A reset named by its second and one that is counted to

One payload names the second of a reset, another one tells how many seconds are left until then.
The two are read in different ways: the second must be positive and in the years of the calendar,
while what is left must not be negative, must be a span within its bounds, and is added to the clock
day by day, which must lead to a date in those years.  Both are doubles before they are seconds, and
both are kept within 64 bits.

They come out alike all the same (`resetTime?_names`, `resetTime?_counts`).  From a clock in range
the tests of a span and of a date are that of the sum (`bind_later?`).  What has at most 53 bits is
not rounded, and what has more stays beyond the calendar when it is rounded, even if it is added to
the earliest clock there is (`time?_add_ofInt`).  So two windows that differ in how they tell of
their reset, and in nothing else that is read, are shown alike (`windowOf_congr`).

A window may tell of its reset in both ways.  The second counts, unless it lies beyond the calendar;
then it is as if only the time until then had been told (`resetTime?_second`).
-/

namespace QuotaBoard.Codex

variable {now t : Int} {window : Json}

/-! ## 1. Seconds that are doubles -/

/-- A number of seconds leads into the calendar just if it does so before it is read. -/
theorem time?_add_ofInt {now : Int} (hnow : -8334601228800 ≤ now) (m : Nat) :
    Calendar.time? (now + (Double.ofInt m).truncate) = Calendar.time? (now + m) := by
  rcases Nat.lt_or_ge m 9007199254740991 with hlt | hge
  · rw [Double.truncate_ofInt (Nat.lt_trans hlt (by decide))]
  · have hlarge := Double.le_truncate_ofInt (by decide) hge
    rw [Calendar.time?_eq_none (.inr (by omega)), Calendar.time?_eq_none (.inr (by omega))]

/-- The second of a reset is read as it was meant, and so is what is left until then. -/
theorem time?_ofInt (h : 0 ≤ t) :
    Calendar.time? (Double.ofInt t).truncate = Calendar.time? t := by
  obtain ⟨m, rfl⟩ := Int.eq_ofNat_of_zero_le h
  have hzero : -8334601228800 ≤ (0 : Int) := by decide
  simpa using time?_add_ofInt hzero m

theorem time?_add_ofInt_sub (hnow : Calendar.covers now = true) (h : now ≤ t) :
    Calendar.time? (now + (Double.ofInt (t - now)).truncate) = Calendar.time? t := by
  obtain ⟨m, hm⟩ := Int.eq_ofNat_of_zero_le (Int.sub_nonneg_of_le h)
  have hsum : now + m = t := by omega
  rw [hm, time?_add_ofInt (Calendar.covers_iff.mp hnow).1, hsum]

/-! ## 2. Two ways to tell of a reset -/

/-- A window names the second of its reset, and what it tells of the time until then, if anything,
does not speak against it. -/
structure Names (window : Json) (now t : Int) : Prop where
  second : window.numberAt? "reset_at" = some (.ofInt t)
  unopposed : Calendar.covers t = true ∨ window.numberAt? "reset_after_seconds" = none ∨
    window.numberAt? "reset_after_seconds" = some (.ofInt (t - now))

/-- A window only tells how many seconds are left until its reset. -/
structure Counts (window : Json) (now t : Int) : Prop where
  noSecond : window.numberAt? "reset_at" = none
  left : window.numberAt? "reset_after_seconds" = some (.ofInt (t - now))

/-- The reset that the time until then leads to, if it is told. -/
def leftTime? (window : Json) (now : Int) : Option Int :=
  ((window.numberAt? "reset_after_seconds").filter (0 ≤ ·)).bind fun x =>
    (Calendar.span? (within64 x.truncate)).bind (Calendar.later? now)

theorem leftTime?_left (hnow : Calendar.covers now = true) (hle : now ≤ t)
    (h : window.numberAt? "reset_after_seconds" = some (.ofInt (t - now))) :
    leftTime? window now = Calendar.time? t := by
  rw [leftTime?, h, Option.filter_some, if_pos, Option.bind_some, bind_later? hnow,
    time?_add_ofInt_sub hnow hle]
  exact decide_eq_true (Double.ofInt_nonneg (Int.sub_nonneg_of_le hle))

/-- A second that is named counts if the calendar covers it, and else the time until the reset. -/
theorem resetTime?_second (h : window.numberAt? "reset_at" = some (.ofInt t)) (hpos : 0 < t) :
    resetTime? window now = (Calendar.time? t).or (leftTime? window now) := by
  have hnamed : ((window.numberAt? "reset_at").filter (0 < ·)).bind
      (fun x => Calendar.time? (within64 x.truncate)) = Calendar.time? t := by
    rw [h, Option.filter_some, if_pos (decide_eq_true (Double.ofInt_pos hpos)),
      Option.bind_some, time?_within64, time?_ofInt (Int.le_of_lt hpos)]
  rw [resetTime?, hnamed, leftTime?]

theorem resetTime?_names (h : Names window now t) (hnow : Calendar.covers now = true)
    (hpos : 0 < t) (hle : now ≤ t) : resetTime? window now = Calendar.time? t := by
  rw [resetTime?_second h.second hpos]
  rcases h.unopposed with hcovers | hnone | hleft
  · rw [Calendar.time?, if_pos hcovers, Option.some_or]
  · rw [leftTime?, hnone, Option.filter_none, Option.bind_none, Option.or_none]
  · rw [leftTime?_left hnow hle hleft, Option.or_self]

theorem resetTime?_counts (h : Counts window now t) (hnow : Calendar.covers now = true)
    (hle : now ≤ t) : resetTime? window now = Calendar.time? t := by
  rw [resetTime?, h.noSecond, Option.filter_none, Option.bind_none, Option.none_or]
  exact leftTime?_left hnow hle h.left

/-! ## 3. Windows that are alike otherwise -/

/-- The keys under which a reset is told. -/
def resetKeys : List String := Json.spellings "reset_at" ++ Json.spellings "reset_after_seconds"

/-- Two objects that stand in a place of their payloads have the same fields, those of their reset
aside, and the flags around them are the same. -/
structure Sent.AlikeApart (a b : Sent) : Prop where
  fields : ∀ key, key ∉ resetKeys → a.window.get? key = b.window.get? key
  flags : ∀ key ∈ ["limit_reached", "allowed"], a.parent.flagAt? key = b.parent.flagAt? key

theorem Sent.AlikeApart.probe? {a b : Sent} {α : Type} (h : a.AlikeApart b) {key : String}
    (hkey : ∀ s ∈ Json.spellings key, s ∉ resetKeys) (read : Json → Option α) :
    a.window.probe? key read = b.window.probe? key read :=
  Json.probe?_congr fun s hs => by rw [h.fields s (hkey s hs)]

/-- **Windows that are alike apart from how their reset is told, and have the same reset, are shown
alike.** -/
theorem windowOf_congr {a b : Sent} (h : a.AlikeApart b)
    (hreset : resetTime? a.window now = resetTime? b.window now) (id fallback : String) :
    windowOf id fallback a.window a.parent now = windowOf id fallback b.window b.parent now := by
  have hlength : lengthOf? a.window = lengthOf? b.window :=
    congrArg (Option.map _) (h.probe? (by decide +kernel) _)
  have hshare : a.window.percentAt? "used_percent" = b.window.percentAt? "used_percent" :=
    h.probe? (by decide +kernel) _
  have hreached : a.window.flagAt? "limit_reached" = b.window.flagAt? "limit_reached" :=
    h.probe? (by decide +kernel) _
  have hallowed : a.window.flagAt? "allowed" = b.window.flagAt? "allowed" :=
    h.probe? (by decide +kernel) _
  have hexhausted : isExhausted a.window a.parent = isExhausted b.window b.parent := by
    rw [isExhausted, isExhausted, hreached, hallowed, h.flags "limit_reached" (by simp),
      h.flags "allowed" (by simp)]
  rw [windowOf, windowOf, resetLabelOf, resetLabelOf, hlength, hshare, hexhausted, hreset]

/-! ## 4. Windows of a quota -/

/-- The name of a window of no known length in a place. -/
def Place.fallback (place : Place) : String :=
  if place.id = "primary" then "Primary"
  else if place.id = "secondary" then "Secondary"
  else reviewFallback

/-- What is shown for the object in a place. -/
def Place.shown (place : Place) (now : Int) (sent : Sent) : Window :=
  let w := windowOf place.id place.fallback sent.window sent.parent now
  if place.id = "code-review" then w.asReview else w

theorem id_shown (place : Place) (now : Int) (sent : Sent) :
    (place.shown now sent).id = place.id := by
  unfold Place.shown
  split
  · exact id_asReview _
  · rfl

theorem resetLabel_shown (place : Place) (now : Int) (sent : Sent) :
    (place.shown now sent).resetLabel = resetLabelOf sent.window now := by
  have hreview : ∀ w : Window, w.asReview.resetLabel = w.resetLabel := by
    intro w
    unfold Window.asReview
    split <;> rfl
  unfold Place.shown
  split
  · exact hreview _
  · rfl

/-- The windows of a payload, place by place. -/
theorem windows_quotaOf (payload : Json) (plan : Option String) (now : Int) :
    (quotaOf payload plan now).windows =
      places.filterMap fun place => (place.sent? payload).map (place.shown now) := by
  have hplace : ∀ place : Place, (place.sent? payload).map (place.shown now) =
      ((payload.objectAt? place.limits).bind
        (windowAt? place.id place.fallback place.window · now)).map
          (if place.id = "code-review" then Window.asReview else id) := by
    intro place
    unfold Place.sent? windowAt? Place.shown
    cases payload.objectAt? place.limits with
    | none => rfl
    | some parent =>
      simp only [Option.bind_some, Option.map_map]
      refine congrArg (Option.map · _) (funext fun window => ?_)
      split_ifs with h <;> simp [h]
  simp [quotaOf, places, hplace, List.filterMap_cons, Place.fallback]

theorem window?_quotaOf {payload : Json} {place : Place} {sent : Sent} (hplace : place ∈ places)
    (hsent : place.sent? payload = some sent) (plan : Option String) (now : Int) :
    (quotaOf payload plan now).window? place.id = some (place.shown now sent) := by
  have hfind : places.find? (fun p =>
      ((p.sent? payload).map (p.shown now)).any (·.id = place.id)) = some place := by
    have hother : ∀ p : Place, p.id ≠ place.id →
        ((p.sent? payload).map (p.shown now)).any (·.id = place.id) = false := by
      intro p hp
      cases p.sent? payload <;> simp [id_shown, hp]
    have hself : ((place.sent? payload).map (place.shown now)).any (·.id = place.id) = true := by
      simp [hsent, id_shown]
    simp only [places, List.mem_cons, List.not_mem_nil, or_false] at hplace
    rcases hplace with rfl | rfl | rfl <;> simp [places, hother, hself]
  rw [Quota.window?, windows_quotaOf, List.find?_filterMap, hfind]
  simp [hsent]

/-- **A reset that is named and one that is counted to are shown alike**: under the second that was
meant, or as unknown if that lies beyond the calendar.  Windows that are sent alike otherwise are
the same, their used share included. -/
theorem quotaOf_resets_agree {payload payload' : Json} {place : Place} {sent sent' : Sent}
    (hplace : place ∈ places) (hsent : place.sent? payload = some sent)
    (hsent' : place.sent? payload' = some sent') (hnow : Calendar.covers now = true) (hpos : 0 < t)
    (hle : now ≤ t) (hnames : Names sent.window now t) (hcounts : Counts sent'.window now t)
    (plan plan' : Option String) :
    ∃ w w', (quotaOf payload plan now).window? place.id = some w ∧
      (quotaOf payload' plan' now).window? place.id = some w' ∧
      w.resetLabel = w'.resetLabel ∧
      (Calendar.covers t = true → w.resetLabel = Calendar.label t) ∧
      (Calendar.covers t = false → w.resetLabel = "-") ∧
      (sent.AlikeApart sent' → w = w') := by
  have hreset := resetTime?_names hnames hnow hpos hle
  have hreset' := resetTime?_counts hcounts hnow hle
  refine ⟨_, _, window?_quotaOf hplace hsent plan now, window?_quotaOf hplace hsent' plan' now,
    ?_, fun hcovers => ?_, fun hbeyond => ?_, fun halike => ?_⟩
  · rw [resetLabel_shown, resetLabel_shown, resetLabelOf, resetLabelOf, hreset, hreset']
  · rw [resetLabel_shown, resetLabelOf, hreset, Calendar.time?, if_pos hcovers]
    rfl
  · rw [resetLabel_shown, resetLabelOf, hreset, Calendar.time?, if_neg (by simp [hbeyond])]
    rfl
  · unfold Place.shown
    rw [windowOf_congr halike (hreset.trans hreset'.symm)]

/-- Two windows of which nothing more may be used until the last second of the calendar: the one
names it, the other one counts to it. -/
def sampleNamed : Sent where
  id := "primary"
  window := .object [("reset_at", .ofInt 8210266876799)]
  parent := .object [("allowed", .bool false),
    ("primary_window", .object [("reset_at", .ofInt 8210266876799)])]

def sampleCounted : Sent where
  id := "primary"
  window := .object [("resetAfterSeconds", .string "90")]
  parent := .object [("allowed", .bool false),
    ("primary_window", .object [("resetAfterSeconds", .string "90")])]

theorem quotaOf_resets_agree_sample :
    let payload : Json := .object [("rate_limit", sampleNamed.parent)]
    let payload' : Json := .object [("rate_limit", sampleCounted.parent)]
    ∃ w w', (quotaOf payload none 8210266876709).window? "primary" = some w ∧
      (quotaOf payload' none 8210266876709).window? "primary" = some w' ∧
      w = w' ∧ w.resetLabel = "12/31 23:59" := by
  intro payload payload'
  let place : Place := ⟨"primary", "rate_limit", "primary_window"⟩
  have hplace : place ∈ places := by simp [place, places]
  have hsent : place.sent? payload = some sampleNamed := rfl
  have hsent' : place.sent? payload' = some sampleCounted := rfl
  have hnames : Names sampleNamed.window 8210266876709 8210266876799 :=
    ⟨by decide +kernel, .inl (by decide +kernel)⟩
  have hcounts : Counts sampleCounted.window 8210266876709 8210266876799 :=
    ⟨by decide +kernel, by decide +kernel⟩
  obtain ⟨w, w', hw, hw', -, hlabel, -, hsame⟩ :=
    quotaOf_resets_agree hplace hsent hsent' (by decide +kernel) (by decide) (by decide) hnames
      hcounts none none
  refine ⟨w, w', hw, hw', hsame ⟨fun key hkey => ?_, by decide +kernel⟩, ?_⟩
  · have hkeys : resetKeys =
        ["reset_at", "resetAt", "reset_after_seconds", "resetAfterSeconds"] := by decide +kernel
    simp only [hkeys, List.mem_cons, List.not_mem_nil, or_false, not_or] at hkey
    simp [sampleNamed, sampleCounted, Json.get?, Json.members?, Json.lookup_cons_ite, hkey]
  · rw [hlabel (by decide +kernel)]
    decide +kernel

end QuotaBoard.Codex
