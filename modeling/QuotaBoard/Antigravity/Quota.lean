import QuotaBoard.Instant
import QuotaBoard.Json.Loose
import QuotaBoard.Json.Record

/-!
# Antigravity quotas

An Antigravity account has a quota for each model.  Models are shown in groups: one for each
family below that has a member, in this order, and then one for every other model by itself.
-/

namespace QuotaBoard.Antigravity

/-! ## Readings -/

/-- The quota of one model. -/
structure Model where
  id : String
  displayName : Option String
  /-- What is left, as a fraction of one. -/
  remaining : Option Double
  resetTime : Option String
deriving DecidableEq

/-- What is left of a model's quota, in percent. -/
def Model.remainingPercent (m : Model) : Option Double := m.remaining.map Double.percentOfOne

/-- Models that are shown together. -/
structure Group where
  id : String
  label : String
  models : List Model
  /-- The least of what is known to be left to its models. -/
  remaining : Option Double
  /-- The earliest reset of its models. -/
  resetTime : Option String
deriving DecidableEq

/-- What is left to the group, in percent. -/
def Group.remainingPercent (g : Group) : Option Double := g.remaining.map Double.percentOfOne

/-- The quota of an account. -/
structure Quota where
  groups : List Group
  subscriptionTier : Option String
deriving DecidableEq

/-- The first of some numbers that none of the others precedes. -/
def leastPercent : List Double → Option Double
  | [] => none
  | x :: rest => some (rest.foldl (fun least y => if y.precedes least then y else least) x)

/-- The least percentage left to any group. -/
def Quota.leastRemainingPercent (q : Quota) : Option Double :=
  leastPercent (q.groups.filterMap Group.remainingPercent)

/-! ## Families -/

/-- How a family tells its models. -/
inductive Rule where
  | oneOf (ids : List String)
  | startingWith (starts : List String)
deriving DecidableEq

/-- Whether a model follows the rule. -/
def Rule.holds : Rule → String → Bool
  | oneOf ids, id => ids.contains id
  | startingWith starts, id => starts.any fun start => start.toList.isPrefixOf id.toList

/-- A family of models. -/
structure Family where
  id : String
  label : String
  rule : Rule
deriving DecidableEq

/-- The families, of which the first that a model belongs to counts. -/
def families : List Family :=
  [⟨"claude-gpt", "Claude/GPT", .startingWith ["claude-", "gpt-"]⟩,
    ⟨"gemini-3-pro", "Gemini 3 Pro",
      .oneOf ["gemini-3-pro-high", "gemini-3-pro-low", "gemini-3-pro"]⟩,
    ⟨"gemini-3-flash", "Gemini 3 Flash", .oneOf ["gemini-3-flash"]⟩,
    ⟨"gemini-2-5-pro", "Gemini 2.5 Pro", .oneOf ["gemini-2.5-pro"]⟩,
    ⟨"gemini-2-5-flash", "Gemini 2.5 Flash",
      .oneOf ["gemini-2.5-flash", "gemini-2.5-flash-thinking"]⟩,
    ⟨"gemini-2-5-flash-lite", "Gemini 2.5 Flash Lite", .oneOf ["gemini-2.5-flash-lite"]⟩,
    ⟨"gemini-2-5-cu", "Gemini 2.5 CU", .oneOf ["rev19-uic3-1p", "gemini-2.5-computer-use"]⟩,
    ⟨"gemini-image", "Gemini Image", .oneOf ["gemini-3-pro-image", "gemini-2.5-flash-image"]⟩]

/-! ## From what the vendor sends -/

/-- The quota of one model, from what is sent for its id; without an object of quota
information there is none.  A model that only names its reset is exhausted. -/
def modelOf? (id : String) (info : Json) : Option Model := do
  let quota ← info.objectAt? "quota_info"
  let resetTime := quota.textAt? "reset_time"
  some
    { id
      displayName := info.textAt? "display_name"
      remaining := (quota.fractionAt? "remaining_fraction").or (resetTime.map fun _ => .zero)
      resetTime }

/-- A group of some models. -/
def groupOf (id label : String) (models : List Model) : Group where
  id := id
  label := label
  models := models
  remaining := (models.map Model.remaining).foldl Double.lowest none
  resetTime := (models.map Model.resetTime).foldl Timestamp.earliest none

/-- The groups of the families that have members among some models, and the models that are
left. -/
def takeFamilies : List Family → List Model → List Group × List Model
  | [], models => ([], models)
  | family :: rest, models =>
    let (members, others) := models.partition fun m => family.rule.holds m.id
    let (groups, left) := takeFamilies rest others
    (if members.isEmpty then groups else groupOf family.id family.label members :: groups, left)

/-- Models in the order of their ids; those of one id keep their order. -/
def sortById (models : List Model) : List Model :=
  models.mergeSort fun a b => a.id ≤ b.id

/-- The group of a model that belongs to no family. -/
def soloGroup (m : Model) : Group := groupOf m.id (m.displayName.getD m.id) [m]

/-- The groups of what is sent for each model id. -/
def groupsOf (models : List (String × Json)) : List Group :=
  let (groups, left) := takeFamilies families (models.filterMap fun (id, info) => modelOf? id info)
  groups ++ (sortById left).map soloGroup

/-- The tier of a subscription: the paid one, else the current one. -/
def tierOf? (payload : Json) : Option String :=
  ((payload.objectAt? "paid_tier").bind (·.textAt? "id")).or
    ((payload.objectAt? "current_tier").bind (·.textAt? "id"))

/-- The project that a token file names: at its top, or in its `installed` or `web` part. -/
def projectOfTokenFile? (content : String) : Option String := do
  let file ← Json.ofBody? content
  (file :: [file.objectAt? "installed", file.objectAt? "web"].filterMap id).findSome?
    (·.textAt? "project_id")

/-! ## In JSON -/

/-- The quota of a model as a value. -/
def Model.toJson (m : Model) : Json :=
  .object ([("model_id", .string m.id)] ++
    Json.memberIfAny "display_name" .string m.displayName ++
    [("remaining_fraction", .ofOption .ofDouble m.remaining)] ++
    Json.memberIfAny "reset_time" .string m.resetTime)

/-- A group as a value. -/
def Group.toJson (g : Group) : Json :=
  .object ([("id", .string g.id), ("label", .string g.label),
      ("models", .array (g.models.map Model.toJson)),
      ("remaining_fraction", .ofOption .ofDouble g.remaining)] ++
    Json.memberIfAny "reset_time" .string g.resetTime)

/-- The quota of an account as a value. -/
def Quota.toJson (q : Quota) : Json :=
  .object (("groups", .array (q.groups.map Group.toJson)) ::
    Json.memberIfAny "subscription_tier" .string q.subscriptionTier)

/-- The quota of a model that a document describes. -/
def Model.ofDocument? (d : Document) : Option Model := do
  let r ← Record.of? 4 d
  some
    { id := ← r.required? 0 ["model_id"] Document.text?
      displayName := ← r.optional? 1 ["display_name"] Document.text?
      remaining := ← r.nullable? 2 ["remaining_fraction"] Document.double?
      resetTime := ← r.optional? 3 ["reset_time"] Document.text? }

/-- The group that a document describes. -/
def Group.ofDocument? (d : Document) : Option Group := do
  let r ← Record.of? 5 d
  some
    { id := ← r.required? 0 ["id"] Document.text?
      label := ← r.required? 1 ["label"] Document.text?
      models := ← r.required? 2 ["models"] (Document.list? Model.ofDocument?)
      remaining := ← r.nullable? 3 ["remaining_fraction"] Document.double?
      resetTime := ← r.optional? 4 ["reset_time"] Document.text? }

/-- The quota of an account that a document describes. -/
def Quota.ofDocument? (d : Document) : Option Quota := do
  let r ← Record.of? 2 d
  some
    { groups := ← r.required? 0 ["groups"] (Document.list? Group.ofDocument?)
      subscriptionTier := ← r.optional? 1 ["subscription_tier"] Document.text? }

end QuotaBoard.Antigravity
