import QuotaBoard.Antigravity.Quota
import QuotaBoard.GeminiCli.Quota
import QuotaBoard.Proofs.Drift

/-!
# Fractions that are sent and cannot be read

A number outside `[0, 1]` is not taken for a fraction, so that a vendor that changed its unit does
not look like a real reading.  But from there on nothing tells a fraction that cannot be read from
one that is not sent at all, and of the latter a reset time is taken to say that nothing is left.

So a malformed fraction is shown as unknown only where no reset is sent with it
(`malformed_followsReset`).  Percentages next to a reset time are shown as exhausted
(`malformed_exhausts`).
-/

namespace QuotaBoard

namespace Json

variable {v : Json} {key : String}

/-! ## 1. Fields that hold no fraction -/

/-- A number between zero and one, or a text that spells one. -/
def IsFraction (v : Json) : Prop := ∃ x, v.asNumber? = some x ∧ 0 ≤ x ∧ x ≤ 1

/-- A field is there and is no fraction: under one of its spellings it holds something other than
`null`, and under none a fraction. -/
structure Malformed (v : Json) (key : String) : Prop where
  present : ∃ s ∈ spellings key, ∃ field, v.get? s = some field ∧ field ≠ .null
  noFraction : ∀ s ∈ spellings key, ∀ field, v.get? s = some field → ¬ field.IsFraction

theorem asFraction?_eq_none_iff : v.asFraction? = none ↔ ¬ v.IsFraction := by
  rw [asFraction?, Option.filter_eq_none_iff, IsFraction]
  simp only [decide_eq_true_iff, not_exists, not_and]

/-- A look-up finds nothing if nothing is read under either spelling. -/
theorem probe?_eq_none_iff {α : Type} {read : Json → Option α} :
    v.probe? key read = none ↔
      ∀ s ∈ spellings key, ∀ field, v.get? s = some field → read field = none := by
  simp [probe?, spellings, Option.or_eq_none_iff, Option.bind_eq_none_iff]

theorem fractionAt?_eq_none_iff :
    v.fractionAt? key = none ↔
      ∀ s ∈ spellings key, ∀ field, v.get? s = some field → ¬ field.IsFraction := by
  simp only [fractionAt?, probe?_eq_none_iff, asFraction?_eq_none_iff]

theorem present?_eq_none_iff :
    v.present? key = none ↔
      ∀ s ∈ spellings key, ∀ field, v.get? s = some field → field = .null := by
  have hread : ∀ field : Json, (if field.isNull then none else some field) = none ↔
      field = .null := fun field => by cases field <;> simp [isNull]
  simp only [present?, probe?_eq_none_iff, hread]

theorem malformed_iff :
    v.Malformed key ↔ (v.present? key).isSome = true ∧ v.fractionAt? key = none := by
  rw [Option.isSome_iff_ne_none, ne_eq, present?_eq_none_iff, fractionAt?_eq_none_iff]
  simp only [not_forall, exists_prop, ← ne_eq]
  exact ⟨fun h => ⟨h.present, h.noFraction⟩, fun h => ⟨h.1, h.2⟩⟩

instance : Decidable (v.Malformed key) := decidable_of_iff' _ malformed_iff

/-- A percentage, a word, and a fraction beside a malformed one. -/
example : [[("f", Json.ofInt 75)], [("f", .string "half")], [("f", .null)]].map
    (fun members => decide ((Json.object members).Malformed "f")) = [true, true, false] ∧
    ¬ (Json.object [("f_x", .ofInt 75), ("fX", .string " 0.5 ")]).Malformed "f_x" := by
  decide +kernel

end Json

/-! ## 2. What is shown of them -/

/-- What is shown of a fraction follows from the reset alone: it is unknown if no reset is sent, and
otherwise nothing is left. -/
structure FollowsReset (remaining : Option Double) (reset : Option String) : Prop where
  unknown : remaining = none ↔ reset = none
  exhausted : ∀ x ∈ remaining, x = .zero

theorem followsReset_map (reset : Option String) :
    FollowsReset (reset.map fun _ => .zero) reset where
  unknown := Option.map_eq_none_iff
  exhausted x hx := by
    obtain ⟨_, -, rfl⟩ := Option.map_eq_some_iff.mp hx
    rfl

/-- **A malformed fraction is shown as unknown exactly if no reset is sent with it**, and else as
exhausted: that of a model, and that of a bucket of which no amount is sent. -/
theorem malformed_followsReset {sent : Json} (hmalformed : sent.Malformed "remaining_fraction") :
    (∀ id info, info.objectAt? "quota_info" = some sent →
      ∃ m, Antigravity.modelOf? id info = some m ∧
        FollowsReset m.remaining (sent.textAt? "reset_time")) ∧
    ∀ b, GeminiCli.bucketOf? sent = some b → sent.numberAt? "remaining_amount" = none →
      FollowsReset b.remaining (sent.textAt? "reset_time") := by
  have hunread : sent.fractionAt? "remaining_fraction" = none :=
    (Json.malformed_iff.mp hmalformed).2
  constructor
  · intro id info hquota
    rw [Antigravity.modelOf?, hquota]
    refine ⟨_, rfl, ?_⟩
    dsimp only
    rw [hunread, Option.none_or]
    exact followsReset_map _
  · intro b hb hamount
    obtain ⟨modelId, -, hb⟩ := Option.bind_eq_some_iff.mp hb
    obtain rfl := Option.some.inj hb
    dsimp only
    rw [hunread, hamount, Option.none_or]
    exact followsReset_map _

/-- A percentage in a model and in a bucket, without a reset. -/
theorem malformed_followsReset_unknown :
    let sent := Json.object [("modelId", .string "m"), ("remainingFraction", .ofInt 75)]
    sent.Malformed "remaining_fraction" ∧
      (∃ m, Antigravity.modelOf? "m" (.object [("quotaInfo", sent)]) = some m ∧
        m.remaining = none) ∧
      ∃ b, GeminiCli.bucketOf? sent = some b ∧ b.remaining = none := by
  intro sent
  have hmalformed : sent.Malformed "remaining_fraction" := by decide +kernel
  have hreset : sent.textAt? "reset_time" = none := by decide +kernel
  have hb : GeminiCli.bucketOf? sent = some ⟨"m", none, none, none, none, ["m"]⟩ := by
    decide +kernel
  obtain ⟨hmodel, hbucket⟩ := malformed_followsReset hmalformed
  obtain ⟨m, hm, hfollows⟩ := hmodel "m" (.object [("quotaInfo", sent)]) rfl
  exact ⟨hmalformed, ⟨m, hm, hfollows.unknown.mpr hreset⟩,
    _, hb, (hbucket _ hb (by decide +kernel)).unknown.mpr hreset⟩

/-- **Percentages next to a reset time are shown as exhausted.** -/
theorem malformed_exhausts :
    let quota := Json.object [("remainingFraction", .ofInt 75),
      ("resetTime", .string "2026-01-02T00:00:00Z")]
    let raw := Json.object [("modelId", .string "m"), ("remainingFraction", .ofInt 75),
      ("resetTime", .string "2026-01-02T00:00:00Z")]
    quota.Malformed "remaining_fraction" ∧ raw.Malformed "remaining_fraction" ∧
      raw.numberAt? "remaining_amount" = none ∧
      (Antigravity.modelOf? "m" (.object [("quotaInfo", quota)])).map (·.remaining) =
        some (some .zero) ∧
      (GeminiCli.bucketOf? raw).map (·.remaining) = some (some .zero) := by
  decide +kernel

end QuotaBoard
