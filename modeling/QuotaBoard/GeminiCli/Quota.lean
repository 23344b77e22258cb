import QuotaBoard.Instant
import QuotaBoard.Json.Loose
import QuotaBoard.Json.Record

/-!
# Gemini CLI quotas

A Gemini CLI account has buckets, one for a model and a type of token.  A model served twice,
under its name and under the same name with `_vertex` at its end, is shown as one bucket that
holds the worse of the two readings.
-/

namespace QuotaBoard.GeminiCli

/-! ## Readings -/

/-- A bucket. -/
structure Bucket where
  modelId : String
  tokenType : Option String
  /-- What is left, as a fraction of one. -/
  remaining : Option Double
  /-- What is left, as an amount. -/
  amount : Option Double
  resetTime : Option String
  /-- The models that share the bucket. -/
  modelIds : List String
deriving DecidableEq

/-- The quota of an account. -/
structure Quota where
  buckets : List Bucket
deriving DecidableEq

/-! ## From what the vendor sends -/

/-- The bucket that is sent, unless it names no model.  Without a fraction, an amount of nothing
left means exhausted, and so does a reset without an amount. -/
def bucketOf? (raw : Json) : Option Bucket := do
  let modelId ← raw.textAt? "model_id"
  let amount := raw.numberAt? "remaining_amount"
  let resetTime := raw.textAt? "reset_time"
  let derived := match amount with
    | some x => if x ≤ 0 then some .zero else none
    | none => resetTime.map fun _ => .zero
  some
    { modelId
      tokenType := raw.textAt? "token_type"
      remaining := (raw.fractionAt? "remaining_fraction").or derived
      amount
      resetTime
      modelIds := [modelId] }

/-! ## Buckets shown as one -/

/-- What the buckets that are shown as one have in common. -/
structure Key where
  modelId : String
  tokenType : Option String
deriving DecidableEq

/-- Whether a type of token comes before another; none comes before any. -/
def typeBefore : Option String → Option String → Bool
  | none, some _ => true
  | some a, some b => a < b
  | _, none => false

/-- The order in which buckets are shown: by model, then by type of token. -/
def Key.before (a b : Key) : Bool :=
  a.modelId < b.modelId || (a.modelId = b.modelId && typeBefore a.tokenType b.tokenType)

/-- A model id without one `_vertex` at its end. -/
def baseModel (id : String) : String :=
  let suffix := "_vertex".toList
  let cs := id.toList
  if suffix.isSuffixOf cs then String.ofList (cs.take (cs.length - suffix.length)) else id

/-- The key under which a bucket is shown. -/
def Bucket.key (b : Bucket) : Key := ⟨baseModel b.modelId, b.tokenType⟩

/-- A list with those of some further texts that it does not have yet. -/
def addNew (ids more : List String) : List String :=
  more.foldl (fun ids id => if ids.contains id then ids else ids ++ [id]) ids

/-- A bucket that takes another one in. -/
def Bucket.absorb (b other : Bucket) : Bucket :=
  { b with
    remaining := Double.lowest b.remaining other.remaining
    amount := Double.lowest b.amount other.amount
    resetTime := Timestamp.earliest b.resetTime other.resetTime
    modelIds := addNew b.modelIds other.modelIds }

/-- Buckets, each under its key, in the order of the keys. -/
abbrev BucketMap : Type := List (Key × Bucket)

/-- A map with a bucket put under a key, in place of the one that is there. -/
def BucketMap.insert (k : Key) (b : Bucket) : BucketMap → BucketMap
  | [] => [(k, b)]
  | (k', b') :: rest =>
    if k.before k' then (k, b) :: (k', b') :: rest
    else if k = k' then (k, b) :: rest
    else (k', b') :: BucketMap.insert k b rest

/-- The buckets that are shown, with one more that is sent: the one under its key takes it in, or
else it is shown itself, under the id without `_vertex`. -/
def BucketMap.add (shown : BucketMap) (b : Bucket) : BucketMap :=
  match List.lookup b.key shown with
  | some group => shown.insert b.key (group.absorb b)
  | none => shown.insert b.key { b with modelId := b.key.modelId }

/-- Buckets as they are shown: they are added one after the other. -/
def groupBuckets (buckets : List Bucket) : List Bucket :=
  (buckets.foldl BucketMap.add []).map Prod.snd

/-- The quota of a payload. -/
def quotaOf (payload : Json) : Quota :=
  let raw := ((payload.present? "buckets").bind Json.items?).getD []
  ⟨groupBuckets (raw.filterMap bucketOf?)⟩

/-! ## In JSON -/

/-- A bucket as a value. -/
def Bucket.toJson (b : Bucket) : Json :=
  .object ([("model_id", .string b.modelId)] ++
    Json.memberIfAny "token_type" .string b.tokenType ++
    [("remaining_fraction", .ofOption .ofDouble b.remaining),
      ("remaining_amount", .ofOption .ofDouble b.amount)] ++
    Json.memberIfAny "reset_time" .string b.resetTime ++
    [("model_ids", .array (b.modelIds.map .string))])

/-- The quota of an account as a value. -/
def Quota.toJson (q : Quota) : Json := .object [("buckets", .array (q.buckets.map Bucket.toJson))]

/-- The bucket that a document describes. -/
def Bucket.ofDocument? (d : Document) : Option Bucket := do
  let r ← Record.of? 6 d
  some
    { modelId := ← r.required? 0 ["model_id"] Document.text?
      tokenType := ← r.optional? 1 ["token_type"] Document.text?
      remaining := ← r.nullable? 2 ["remaining_fraction"] Document.double?
      amount := ← r.nullable? 3 ["remaining_amount"] Document.double?
      resetTime := ← r.optional? 4 ["reset_time"] Document.text?
      modelIds := ← r.withDefault? 5 ["model_ids"] (Document.list? Document.text?) [] }

/-- The quota of an account that a document describes. -/
def Quota.ofDocument? (d : Document) : Option Quota := do
  let r ← Record.of? 1 d
  some ⟨← r.required? 0 ["buckets"] (Document.list? Bucket.ofDocument?)⟩

end QuotaBoard.GeminiCli
