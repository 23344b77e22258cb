import QuotaBoard.Instant
import QuotaBoard.Json.Loose
import QuotaBoard.Json.Record

/-!
# Codex usage

A Codex account has up to three windows of time, each with a share that is used up and a time
at which it starts afresh.  A share of a hundred is concluded only for a window whose limit is
said to be reached and whose reset is known; no other share is ever made up.
-/

namespace QuotaBoard.Codex

/-! ## Readings -/

/-- One window. -/
structure Window where
  id : String
  label : String
  /-- The used share in percent, if it is known. -/
  usedPercent : Option Double
  /-- The reset as month, day, hour and minute, or `-`. -/
  resetLabel : String
deriving DecidableEq

/-- The quota of an account. -/
structure Quota where
  windows : List Window
  planType : Option String
deriving DecidableEq

/-- The window of an id. -/
def Quota.window? (q : Quota) (id : String) : Option Window := q.windows.find? (·.id = id)

/-! ## From what the vendor sends -/

/-- A whole number kept within 64 bits. -/
def within64 (n : Int) : Int := max (-0x8000000000000000) (min 0x7fffffffffffffff n)

/-- The length of a window in whole seconds. -/
def lengthOf? (window : Json) : Option Int :=
  (window.numberAt? "limit_window_seconds").map fun x => within64 x.round

/-- The name of a window of a length, or of one whose length says nothing. -/
def labelOf (fallback : String) : Option Int → String
  | none => fallback
  | some seconds =>
    if seconds = 5 * 3600 then "5h limit"
    else if seconds = 7 * 86400 then "Weekly limit"
    else if 0 < seconds ∧ seconds % 86400 = 0 then toString (seconds / 86400) ++ "d limit"
    else if 0 < seconds ∧ seconds % 3600 = 0 then toString (seconds / 3600) ++ "h limit"
    else fallback

/-- The time of the reset: a positive second that is named, or else so many seconds from now. -/
def resetTime? (window : Json) (now : Int) : Option Int :=
  let named := ((window.numberAt? "reset_at").filter (0 < ·)).bind fun x =>
    Calendar.time? (within64 x.truncate)
  named.or <|
    ((window.numberAt? "reset_after_seconds").filter (0 ≤ ·)).bind fun x =>
      (Calendar.span? (within64 x.truncate)).bind (Calendar.later? now)

/-- What is shown for a reset that is not known. -/
def unknownReset : String := "-"

/-- What is shown for the reset of a window. -/
def resetLabelOf (window : Json) (now : Int) : String :=
  ((resetTime? window now).map Calendar.label).getD unknownReset

/-- Whether the limit of a window is reached, by its own flags or else those around it. -/
def isExhausted (window parent : Json) : Bool :=
  ((window.flagAt? "limit_reached").or (parent.flagAt? "limit_reached")).getD false ||
    ((window.flagAt? "allowed").or (parent.flagAt? "allowed")) == some false

/-- A window, from what is sent for it and around it. -/
def windowOf (id fallback : String) (window parent : Json) (now : Int) : Window :=
  let resetLabel := resetLabelOf window now
  { id
    label := labelOf fallback (lengthOf? window)
    usedPercent := (window.percentAt? "used_percent").or
      (if isExhausted window parent && resetLabel ≠ unknownReset then some 100 else none)
    resetLabel }

/-- The window under a key of its parent, if one is sent. -/
def windowAt? (id fallback key : String) (parent : Json) (now : Int) : Option Window :=
  (parent.objectAt? key).map fun window => windowOf id fallback window parent now

/-- The name of the window for code reviews. -/
def reviewFallback : String := "Code review"

/-- A window for code reviews says so in front of the name of its length. -/
def Window.asReview (w : Window) : Window :=
  if w.label = reviewFallback then w
  else { w with label := reviewFallback ++ " (" ++ w.label ++ ")" }

/-- The quota of a payload.  The plan is the payload's, else the one that is stored. -/
def quotaOf (payload : Json) (storedPlan : Option String) (now : Int) : Quota where
  windows :=
    let limits := payload.objectAt? "rate_limit"
    let review := payload.objectAt? "code_review_rate_limit"
    [limits.bind (windowAt? "primary" "Primary" "primary_window" · now),
      limits.bind (windowAt? "secondary" "Secondary" "secondary_window" · now),
      (review.bind (windowAt? "code-review" reviewFallback "primary_window" · now)).map
        Window.asReview].filterMap id
  planType := (payload.probe? "plan_type" Json.asPlan?).or storedPlan

/-! ## In JSON -/

/-- A window as a value. -/
def Window.toJson (w : Window) : Json :=
  .object [("id", .string w.id), ("label", .string w.label),
    ("used_percent", .ofOption .ofDouble w.usedPercent), ("reset_label", .string w.resetLabel)]

/-- The quota of an account as a value. -/
def Quota.toJson (q : Quota) : Json :=
  .object (("windows", .array (q.windows.map Window.toJson)) ::
    Json.memberIfAny "plan_type" .string q.planType)

/-- The window that a document describes. -/
def Window.ofDocument? (d : Document) : Option Window := do
  let r ← Record.of? 4 d
  some
    { id := ← r.required? 0 ["id"] Document.text?
      label := ← r.required? 1 ["label"] Document.text?
      usedPercent := ← r.nullable? 2 ["used_percent"] Document.double?
      resetLabel := ← r.required? 3 ["reset_label"] Document.text? }

/-- The quota of an account that a document describes. -/
def Quota.ofDocument? (d : Document) : Option Quota := do
  let r ← Record.of? 2 d
  some
    { windows := ← r.required? 0 ["windows"] (Document.list? Window.ofDocument?)
      planType := ← r.optional? 1 ["plan_type"] Document.text? }

end QuotaBoard.Codex
