import Mathlib.Data.List.Basic
import Mathlib.Data.String.Basic
import QuotaBoard.GeminiCli.Quota
import QuotaBoard.Proofs.Extremes

/-!
# Entries that are shown as one bucket

A Gemini CLI account is sent as a list of entries; those of one model and one type of token are
shown as one bucket.  The entries are added to a map one after the other, and each is taken in by
the bucket under its key or starts one.  The map is told by its keys and by what stands under them.
Its keys are those of the entries, put in order (`ordered_insertKey`), so the buckets come out
sorted and no key stands twice.  Under a key stands what the entries of this key alone lead to,
whatever comes between them (`lookup_foldl_add`).  So the map is a grouping of the entries by their
keys (`groupBuckets_eq_filterMap`), and each of its buckets is told of all entries of its key at
once (`foldl_absorb`, `groupBuckets_eq`).

Every entry that names a model has one key, so the keys divide the entries among them
(`perm_flatMap_members`).  `quotaOf_groups` puts this together for any payload.
-/

namespace QuotaBoard.GeminiCli

/-! ## 1. Keys in order -/

/-- One key before another: by the model, and for one model no type of token before any type, and
two types by their texts. -/
inductive Key.Precedes : Key → Key → Prop where
  | model {a b : Key} (h : a.modelId < b.modelId) : Precedes a b
  | untyped {id type : String} : Precedes ⟨id, none⟩ ⟨id, some type⟩
  | type {id s t : String} (h : s < t) : Precedes ⟨id, some s⟩ ⟨id, some t⟩

section

variable {a b c k : Key} {keys : List Key}

/-- Keys in order, with one more put among them. -/
def insertKey (k : Key) : List Key → List Key
  | [] => [k]
  | k' :: rest =>
    if k.before k' then k :: k' :: rest
    else if k = k' then k' :: rest
    else k' :: insertKey k rest

/-- The keys of some buckets, each once and in order. -/
def keysOf (buckets : List Bucket) : List Key :=
  buckets.foldl (fun keys b => insertKey b.key keys) []

theorem Key.before_iff : a.before b = true ↔ a.Precedes b := by
  obtain ⟨id, type⟩ := a
  obtain ⟨id', type'⟩ := b
  simp only [before, Bool.or_eq_true, Bool.and_eq_true, decide_eq_true_eq]
  constructor
  · rintro (h | ⟨rfl, h⟩)
    · exact .model h
    · cases type with
      | none =>
        cases type' with
        | none => cases h
        | some t => exact .untyped
      | some s =>
        cases type' with
        | none => cases h
        | some t => exact .type (of_decide_eq_true h)
  · rintro (h | _ | h)
    · exact .inl h
    · exact .inr ⟨rfl, rfl⟩
    · exact .inr ⟨rfl, decide_eq_true h⟩

theorem Key.Precedes.trans (hab : a.Precedes b) (hbc : b.Precedes c) : a.Precedes c := by
  cases hab with
  | model h =>
    cases hbc with
    | model h' => exact .model (String.lt_trans h h')
    | untyped => exact .model h
    | type => exact .model h
  | untyped =>
    cases hbc with
    | model h' => exact .model h'
    | type => exact .untyped
  | type h =>
    cases hbc with
    | model h' => exact .model h'
    | type h' => exact .type (String.lt_trans h h')

theorem Key.Precedes.ne (h : a.Precedes b) : a ≠ b := by
  rintro rfl
  cases h with
  | model h => exact String.lt_irrefl _ h
  | type h => exact String.lt_irrefl _ h

theorem Key.precedes_of_not_precedes (h : ¬ a.Precedes b) (hne : a ≠ b) : b.Precedes a := by
  obtain ⟨id, type⟩ := a
  obtain ⟨id', type'⟩ := b
  have hle : id' ≤ id := String.not_lt.mp fun hlt => h (.model hlt)
  by_cases hid : id' = id
  · subst hid
    cases type with
    | none =>
      cases type' with
      | none => exact absurd rfl hne
      | some t => exact absurd .untyped h
    | some s =>
      cases type' with
      | none => exact .untyped
      | some t =>
        have hts : t ≤ s := String.not_lt.mp fun hlt => h (.type hlt)
        exact .type (Std.lt_of_le_of_ne hts fun heq => hne (by rw [heq]))
  · exact .model (Std.lt_of_le_of_ne hle hid)

theorem mem_insertKey : c ∈ insertKey k keys ↔ c = k ∨ c ∈ keys := by
  induction keys with
  | nil => simp [insertKey]
  | cons k' rest ih =>
    unfold insertKey
    split
    · simp
    · split
      · rename_i heq
        simp [heq]
      · simp only [List.mem_cons, ih]
        tauto

theorem ordered_insertKey (h : keys.Pairwise Key.Precedes) :
    (insertKey k keys).Pairwise Key.Precedes := by
  induction keys with
  | nil => exact List.pairwise_singleton ..
  | cons k' rest ih =>
    obtain ⟨hfirst, hrest⟩ := List.pairwise_cons.mp h
    unfold insertKey
    split
    · rename_i hbefore
      have hk := Key.before_iff.mp hbefore
      refine List.pairwise_cons.mpr ⟨List.forall_mem_cons.mpr ⟨hk, fun c hc => ?_⟩, h⟩
      exact hk.trans (hfirst c hc)
    · rename_i hbefore
      split
      · exact h
      · rename_i hne
        refine List.pairwise_cons.mpr ⟨fun c hc => ?_, ih hrest⟩
        rcases mem_insertKey.mp hc with rfl | hc
        · exact Key.precedes_of_not_precedes (fun hk => hbefore (Key.before_iff.mpr hk)) hne
        · exact hfirst c hc

end

theorem ordered_foldl_insertKey (buckets : List Bucket) {keys : List Key}
    (h : keys.Pairwise Key.Precedes) :
    (buckets.foldl (fun keys b => insertKey b.key keys) keys).Pairwise Key.Precedes := by
  induction buckets generalizing keys with
  | nil => exact h
  | cons b rest ih => exact ih (ordered_insertKey h)

theorem mem_foldl_insertKey {buckets : List Bucket} {keys : List Key} {k : Key} :
    k ∈ buckets.foldl (fun keys b => insertKey b.key keys) keys ↔
      k ∈ keys ∨ ∃ b ∈ buckets, b.key = k := by
  induction buckets generalizing keys with
  | nil => simp
  | cons b rest ih =>
    rw [List.foldl_cons, ih, mem_insertKey, List.exists_mem_cons_iff, eq_comm (a := k)]
    tauto

theorem ordered_keysOf (buckets : List Bucket) : (keysOf buckets).Pairwise Key.Precedes :=
  ordered_foldl_insertKey buckets .nil

theorem mem_keysOf {buckets : List Bucket} {k : Key} :
    k ∈ keysOf buckets ↔ ∃ b ∈ buckets, b.key = k := by
  rw [keysOf, mem_foldl_insertKey]
  simp

/-! ## 2. The map of the buckets -/

section

variable {k k' : Key} {b : Bucket} {shown : BucketMap}

/-- What is under a key once a bucket of this key is added. -/
def takenIn (group? : Option Bucket) (b : Bucket) : Bucket :=
  match group? with
  | some group => group.absorb b
  | none => { b with modelId := b.key.modelId }

theorem BucketMap.add_eq (shown : BucketMap) (b : Bucket) :
    shown.add b = shown.insert b.key (takenIn (List.lookup b.key shown) b) := by
  unfold add takenIn
  cases List.lookup b.key shown <;> rfl

theorem BucketMap.keys_insert :
    (shown.insert k b).map Prod.fst = insertKey k (shown.map Prod.fst) := by
  induction shown with
  | nil => rfl
  | cons entry rest ih =>
    obtain ⟨k', b'⟩ := entry
    simp only [insert, insertKey, List.map_cons]
    split_ifs with hbefore heq
    · rfl
    · rw [heq, List.map_cons]
    · rw [List.map_cons, ih]

/-- One key is set, and nothing else changes. -/
theorem BucketMap.lookup_insert :
    List.lookup k' (shown.insert k b) = if k' = k then some b else List.lookup k' shown := by
  induction shown with
  | nil => grind [insert]
  | cons entry rest ih =>
    obtain ⟨k'', b''⟩ := entry
    unfold insert
    split_ifs with hbefore heq <;> grind

/-- The keys of a map after some buckets. -/
theorem BucketMap.keys_foldl_add (buckets : List Bucket) (shown : BucketMap) :
    (buckets.foldl add shown).map Prod.fst =
      buckets.foldl (fun keys b => insertKey b.key keys) (shown.map Prod.fst) := by
  induction buckets generalizing shown with
  | nil => rfl
  | cons b rest ih => rw [List.foldl_cons, ih, add_eq, keys_insert, List.foldl_cons]

/-- **What is under a key after some buckets** is made by those of this key alone. -/
theorem BucketMap.lookup_foldl_add (buckets : List Bucket) (shown : BucketMap) (k : Key) :
    List.lookup k (buckets.foldl add shown) =
      (buckets.filter (·.key = k)).foldl (fun group? b => some (takenIn group? b))
        (List.lookup k shown) := by
  induction buckets generalizing shown with
  | nil => rfl
  | cons b rest ih =>
    rw [List.foldl_cons, ih, add_eq, lookup_insert]
    by_cases h : b.key = k
    · simp [h]
    · simp [h, Ne.symm h]

/-- A map in which no key stands twice is told by its keys and by what is under them. -/
theorem BucketMap.buckets_eq {shown : BucketMap} (h : (shown.map Prod.fst).Nodup) :
    shown.map Prod.snd = (shown.map Prod.fst).filterMap fun k => List.lookup k shown := by
  induction shown with
  | nil => rfl
  | cons entry rest ih =>
    obtain ⟨k, b⟩ := entry
    obtain ⟨hk, hrest⟩ := List.nodup_cons.mp h
    have hothers : ∀ k' ∈ rest.map Prod.fst,
        List.lookup k' ((k, b) :: rest) = List.lookup k' rest := by
      intro k' hk'
      have hne : (k' == k) = false := beq_false_of_ne (ne_of_mem_of_not_mem hk' hk)
      rw [List.lookup_cons, hne]
    rw [List.map_cons, List.map_cons, List.filterMap_cons, List.lookup_cons_self,
      List.filterMap_congr hothers, ih hrest]

end

/-- The bucket that some buckets of one key are shown as. -/
def merge? (members : List Bucket) : Option Bucket :=
  members.foldl (fun group? b => some (takenIn group? b)) none

/-- **Adding the buckets one by one groups them by their keys.** -/
theorem groupBuckets_eq_filterMap (buckets : List Bucket) :
    groupBuckets buckets =
      (keysOf buckets).filterMap fun k => merge? (buckets.filter (·.key = k)) := by
  have hkeys : (buckets.foldl BucketMap.add []).map Prod.fst = keysOf buckets :=
    BucketMap.keys_foldl_add buckets []
  have hnodup : (keysOf buckets).Nodup := (ordered_keysOf buckets).imp Key.Precedes.ne
  rw [groupBuckets, BucketMap.buckets_eq (hkeys ▸ hnodup), hkeys]
  exact List.filterMap_congr fun k _ => BucketMap.lookup_foldl_add buckets [] k

/-! ## 3. One bucket from several -/

/-- A bucket that is shown has its key in its own fields: nothing more is removed from its model. -/
def Bucket.shownKey (b : Bucket) : Key := ⟨b.modelId, b.tokenType⟩

/-- What a bucket says of those that are shown as it: the models that share it, each once and in the
order in which they came, the least that is left of any, and the first of the earliest resets. -/
structure Bucket.Summarizes (b : Bucket) (members : List Bucket) : Prop where
  modelIds : b.modelIds = (members.map Bucket.modelId).eraseDups
  remaining : Double.LeastOf (members.map Bucket.remaining) b.remaining
  amount : Double.LeastOf (members.map Bucket.amount) b.amount
  resetTime : Timestamp.EarliestOf (members.map Bucket.resetTime) b.resetTime

/-- Buckets of one key as one bucket, told of all of them at once. -/
def combined (k : Key) (members : List Bucket) : Bucket where
  modelId := k.modelId
  tokenType := k.tokenType
  remaining := (members.map Bucket.remaining).foldl Double.lowest none
  amount := (members.map Bucket.amount).foldl Double.lowest none
  resetTime := (members.map Bucket.resetTime).foldl Timestamp.earliest none
  modelIds := (members.map Bucket.modelId).eraseDups

theorem summarizes_combined (k : Key) (members : List Bucket) :
    (combined k members).Summarizes members where
  modelIds := rfl
  remaining := Double.leastOf_foldl_lowest _
  amount := Double.leastOf_foldl_lowest _
  resetTime := Timestamp.earliestOf_foldl_earliest _

theorem addNew_eraseDups (seen : List String) (id : String) :
    addNew seen.eraseDups [id] = (seen ++ [id]).eraseDups := by
  rw [List.eraseDups_append]
  by_cases h : id ∈ seen <;> simp [addNew, List.removeAll, List.eraseDups_cons, h]

/-- What a step of the fold does to each reading. -/
theorem foldl_absorb (rest : List Bucket) (b : Bucket) (seen : List String)
    (hids : b.modelIds = seen.eraseDups) (hrest : ∀ m ∈ rest, m.modelIds = [m.modelId]) :
    rest.foldl Bucket.absorb b =
      { b with
        remaining := (rest.map Bucket.remaining).foldl Double.lowest b.remaining
        amount := (rest.map Bucket.amount).foldl Double.lowest b.amount
        resetTime := (rest.map Bucket.resetTime).foldl Timestamp.earliest b.resetTime
        modelIds := (seen ++ rest.map Bucket.modelId).eraseDups } := by
  induction rest generalizing b seen with
  | nil => simp [← hids]
  | cons m rest ih =>
    obtain ⟨hm, hrest⟩ := List.forall_mem_cons.mp hrest
    have hstep : (b.absorb m).modelIds = (seen ++ [m.modelId]).eraseDups := by
      rw [Bucket.absorb, hids, hm, addNew_eraseDups]
    rw [List.foldl_cons, ih (b.absorb m) _ hstep hrest, List.append_assoc]
    rfl

/-- The first of some buckets is shown under its new name and takes the others in. -/
theorem merge?_cons (m : Bucket) (rest : List Bucket) :
    merge? (m :: rest) = some (rest.foldl Bucket.absorb { m with modelId := m.key.modelId }) := by
  have hrun : ∀ (rest : List Bucket) (group : Bucket),
      rest.foldl (fun group? b => some (takenIn group? b)) (some group) =
        some (rest.foldl Bucket.absorb group) := by
    intro rest
    induction rest with
    | nil => exact fun _ => rfl
    | cons b rest ih => exact fun group => ih (group.absorb b)
  exact hrun rest _

theorem merge?_eq {members : List Bucket} {k : Key} (hne : members ≠ [])
    (hkey : ∀ m ∈ members, m.key = k) (hids : ∀ m ∈ members, m.modelIds = [m.modelId]) :
    merge? members = some (combined k members) := by
  cases members with
  | nil => exact absurd rfl hne
  | cons m rest =>
    obtain ⟨hm, hrest⟩ := List.forall_mem_cons.mp hids
    obtain rfl := hkey m List.mem_cons_self
    let first : Bucket := { m with modelId := m.key.modelId }
    have hfirst : first.modelIds = [m.modelId].eraseDups := by
      simpa [List.eraseDups_cons] using hm
    rw [merge?_cons, foldl_absorb rest first [m.modelId] hfirst hrest]
    cases m
    rfl

/-- **The buckets that are shown**, told of all members of a key at once. -/
theorem groupBuckets_eq {buckets : List Bucket} (hids : ∀ b ∈ buckets, b.modelIds = [b.modelId]) :
    groupBuckets buckets =
      (keysOf buckets).map fun k => combined k (buckets.filter (·.key = k)) := by
  rw [groupBuckets_eq_filterMap, ← List.filterMap_eq_map]
  refine List.filterMap_congr fun k hk => ?_
  obtain ⟨b, hb, hkey⟩ := mem_keysOf.mp hk
  refine merge?_eq ?_ ?_ ?_
  · exact List.ne_nil_of_mem (List.mem_filter.mpr ⟨hb, decide_eq_true hkey⟩)
  · exact fun m hm => of_decide_eq_true (List.mem_filter.mp hm).2
  · exact fun m hm => hids m (List.mem_filter.mp hm).1

/-! ## 4. Entries and their keys -/

/-- A model id without one `_vertex` at its end, if it has that end. -/
def IsBase (id base : String) : Prop :=
  id = base ++ "_vertex" ∨ id = base ∧ ∀ s : String, id ≠ s ++ "_vertex"

theorem baseModel_append (s : String) : baseModel (s ++ "_vertex") = s := by
  have hsuffix : "_vertex".toList.isSuffixOf (s.toList ++ "_vertex".toList) = true :=
    List.isSuffixOf_iff_suffix.mpr (List.suffix_append _ _)
  rw [baseModel, String.toList_append, if_pos hsuffix]
  simp

theorem baseModel_of_ne {id : String} (h : ∀ s : String, id ≠ s ++ "_vertex") :
    baseModel id = id := by
  rw [baseModel, if_neg]
  intro hsuffix
  obtain ⟨cs, hcs⟩ := List.isSuffixOf_iff_suffix.mp hsuffix
  refine h (String.ofList cs) (String.toList_inj.mp ?_)
  rw [String.toList_append, String.toList_ofList, hcs]

theorem baseModel_eq_iff {id base : String} : baseModel id = base ↔ IsBase id base := by
  constructor
  · rintro rfl
    by_cases h : ∃ s : String, id = s ++ "_vertex"
    · obtain ⟨s, rfl⟩ := h
      exact .inl (by rw [baseModel_append])
    · have hne : ∀ s : String, id ≠ s ++ "_vertex" := fun s hs => h ⟨s, hs⟩
      exact .inr ⟨(baseModel_of_ne hne).symm, hne⟩
  · rintro (rfl | ⟨rfl, h⟩)
    · exact baseModel_append base
    · exact baseModel_of_ne h

/-- An entry names a model, and this is the key under which it is shown. -/
def HasKey (raw : Json) (k : Key) : Prop :=
  (∃ id, raw.textAt? "model_id" = some id ∧ IsBase id k.modelId) ∧
    raw.textAt? "token_type" = k.tokenType

theorem hasKey_iff {raw : Json} {k : Key} :
    HasKey raw k ↔ (bucketOf? raw).map Bucket.key = some k := by
  obtain ⟨base, type⟩ := k
  cases hid : raw.textAt? "model_id" with
  | none => simp [HasKey, bucketOf?, hid]
  | some id => simp [HasKey, bucketOf?, hid, Bucket.key, baseModel_eq_iff]

instance (raw : Json) (k : Key) : Decidable (HasKey raw k) := decidable_of_iff' _ hasKey_iff

/-- The entries of some that are shown under a key. -/
def members (sent : List Json) (k : Key) : List Json := sent.filter fun raw => HasKey raw k

theorem modelIds_of_bucketOf? {raw : Json} {b : Bucket} (h : bucketOf? raw = some b) :
    b.modelIds = [b.modelId] := by
  obtain ⟨id, -, hb⟩ := Option.bind_eq_some_iff.mp h
  obtain rfl := Option.some.inj hb
  rfl

/-- An entry has a key if it names a model, and then it has only one. -/
theorem exists_hasKey_iff {raw : Json} :
    (∃ k, HasKey raw k) ↔ (raw.textAt? "model_id").isSome = true := by
  simp only [hasKey_iff, ← Option.isSome_iff_exists, Option.isSome_map]
  cases hid : raw.textAt? "model_id" <;> simp [bucketOf?, hid]

theorem HasKey.unique {raw : Json} {k k' : Key} (h : HasKey raw k) (h' : HasKey raw k') : k = k' :=
  Option.some.inj ((hasKey_iff.mp h).symm.trans (hasKey_iff.mp h'))

/-- The buckets of a key are read from its entries. -/
theorem filter_filterMap_bucketOf? (sent : List Json) (k : Key) :
    (sent.filterMap bucketOf?).filter (·.key = k) = (members sent k).filterMap bucketOf? := by
  rw [members, List.filter_filterMap, List.filterMap_filter]
  refine List.filterMap_congr fun raw _ => ?_
  cases hb : bucketOf? raw with
  | none => simp
  | some b => by_cases hk : b.key = k <;> simp [hasKey_iff, hb, hk]

theorem exists_key_iff {sent : List Json} {k : Key} :
    (∃ b ∈ sent.filterMap bucketOf?, b.key = k) ↔ ∃ raw ∈ sent, HasKey raw k := by
  simp only [List.mem_filterMap, hasKey_iff, Option.map_eq_some_iff]
  constructor
  · rintro ⟨b, ⟨raw, hraw, hb⟩, hk⟩
    exact ⟨raw, hraw, b, hb, hk⟩
  · rintro ⟨raw, hraw, b, hb, hk⟩
    exact ⟨b, ⟨raw, hraw, hb⟩, hk⟩

/-- **Different keys divide the entries that have one of them.** -/
theorem perm_flatMap_members {keys : List Key} (h : keys.Nodup) (sent : List Json) :
    (keys.flatMap (members sent)).Perm (sent.filter fun raw => ∃ k ∈ keys, HasKey raw k) := by
  induction keys with
  | nil => simp
  | cons k rest ih =>
    obtain ⟨hk, hrest⟩ := List.nodup_cons.mp h
    let either := sent.filter fun raw => ∃ k' ∈ k :: rest, HasKey raw k'
    have hfirst : members sent k = either.filter fun raw => HasKey raw k := by
      rw [List.filter_filter]
      refine List.filter_congr fun raw _ => ?_
      by_cases hraw : HasKey raw k <;> simp [hraw]
    have hlater : (sent.filter fun raw => ∃ k' ∈ rest, HasKey raw k') =
        either.filter fun raw => !decide (HasKey raw k) := by
      rw [List.filter_filter]
      refine List.filter_congr fun raw _ => ?_
      by_cases hraw : HasKey raw k
      · have hnone : ¬ ∃ k' ∈ rest, HasKey raw k' :=
          fun ⟨k', hk', hraw'⟩ => hk (hraw.unique hraw' ▸ hk')
        simp [hraw, hnone]
      · simp [hraw]
    rw [List.flatMap_cons]
    refine ((ih hrest).append_left _).trans ?_
    rw [hfirst, hlater]
    exact List.filter_append_perm _ either

/-! ## 5. Payloads -/

/-- The entries of a payload. -/
def entries (payload : Json) : List Json :=
  match payload.get? "buckets" with
  | some (.array sent) => sent
  | _ => []

theorem quotaOf_eq_entries (payload : Json) :
    quotaOf payload = ⟨groupBuckets ((entries payload).filterMap bucketOf?)⟩ := by
  have hcamel : Json.camelCase "buckets" = "buckets" := by decide +kernel
  have hentries : ((payload.present? "buckets").bind Json.items?).getD [] = entries payload := by
    rw [Json.present?, Json.probe?, hcamel, Option.or_self, entries]
    cases payload.get? "buckets" with
    | none => rfl
    | some v => cases v <;> rfl
  rw [quotaOf, hentries]

/-- How some entries are shown. -/
structure Groups (sent : List Json) (buckets : List Bucket) : Prop where
  /-- The buckets come in the order of their keys, so no two have the same one. -/
  inOrder : buckets.Pairwise fun a b => a.shownKey.Precedes b.shownKey
  /-- There is a bucket for each key of an entry, and no other. -/
  keys : ∀ k, (∃ b ∈ buckets, b.shownKey = k) ↔ ∃ raw ∈ sent, HasKey raw k
  /-- The entries that name a model are divided among the buckets. -/
  divided : (buckets.flatMap fun b => members sent b.shownKey).Perm
    (sent.filter fun raw => (raw.textAt? "model_id").isSome)
  once : ∀ raw ∈ sent, (raw.textAt? "model_id").isSome →
    ∃ b ∈ buckets, HasKey raw b.shownKey ∧ ∀ b' ∈ buckets, HasKey raw b'.shownKey → b' = b
  summaries : ∀ b ∈ buckets, b.Summarizes ((members sent b.shownKey).filterMap bucketOf?)

/-- The buckets of some entries, each put together from the entries of its key. -/
theorem groupBuckets_filterMap (sent : List Json) :
    groupBuckets (sent.filterMap bucketOf?) =
      (keysOf (sent.filterMap bucketOf?)).map fun k =>
        combined k ((members sent k).filterMap bucketOf?) := by
  have hids : ∀ b ∈ sent.filterMap bucketOf?, b.modelIds = [b.modelId] := by
    intro b hb
    obtain ⟨raw, -, hraw⟩ := List.mem_filterMap.mp hb
    exact modelIds_of_bucketOf? hraw
  simp only [groupBuckets_eq hids, filter_filterMap_bucketOf?]

theorem groupBuckets_groups (sent : List Json) :
    Groups sent (groupBuckets (sent.filterMap bucketOf?)) := by
  let keys := keysOf (sent.filterMap bucketOf?)
  have hshown : groupBuckets (sent.filterMap bucketOf?) =
      keys.map fun k => combined k ((members sent k).filterMap bucketOf?) :=
    groupBuckets_filterMap sent
  have hmem : ∀ k, k ∈ keys ↔ ∃ raw ∈ sent, HasKey raw k :=
    fun k => mem_keysOf.trans exists_key_iff
  have hordered : keys.Pairwise Key.Precedes := ordered_keysOf _
  have hnodup : keys.Nodup := hordered.imp Key.Precedes.ne
  rw [hshown]
  exact {
    inOrder := List.pairwise_map.mpr hordered
    keys := fun k => by
      rw [← hmem]
      simp [Bucket.shownKey, combined]
    divided := by
      rw [List.flatMap_map]
      refine (perm_flatMap_members hnodup sent).trans (.of_eq ?_)
      refine List.filter_congr fun raw hraw => ?_
      rw [Bool.eq_iff_iff, decide_eq_true_iff, ← exists_hasKey_iff]
      exact ⟨fun ⟨k, _, hk⟩ => ⟨k, hk⟩, fun ⟨k, hk⟩ => ⟨k, (hmem k).mpr ⟨raw, hraw, hk⟩, hk⟩⟩
    once := by
      intro raw hraw hmodel
      obtain ⟨k, hk⟩ := exists_hasKey_iff.mpr hmodel
      refine ⟨_, List.mem_map.mpr ⟨k, (hmem k).mpr ⟨raw, hraw, hk⟩, rfl⟩, hk, fun b' hb' hk' => ?_⟩
      obtain ⟨k', -, rfl⟩ := List.mem_map.mp hb'
      obtain rfl : k = k' := hk.unique hk'
      rfl
    summaries := by
      intro b hb
      obtain ⟨k, -, rfl⟩ := List.mem_map.mp hb
      exact summarizes_combined k _ }

/-- **The buckets of a payload.** -/
theorem quotaOf_groups (payload : Json) : Groups (entries payload) (quotaOf payload).buckets := by
  rw [quotaOf_eq_entries]
  exact groupBuckets_groups _

/-- A model under both of its names, and one of which only the type of token is known. -/
example :
    let sent : List Json := [
      .object [("modelId", .string "b"), ("tokenType", .string "REQUESTS")],
      .object [("model_id", .string "a_vertex"), ("resetTime", .string "2026-01-02T00:00:00Z")],
      .object [("modelId", .string "a"), ("resetTime", .string "2026-01-02T00:30:00+01:00")]]
    (quotaOf (.object [("buckets", .array sent)])).buckets =
      [⟨"a", none, some .zero, none, some "2026-01-02T00:30:00+01:00", ["a_vertex", "a"]⟩,
        ⟨"b", some "REQUESTS", none, none, none, ["b"]⟩] := by decide +kernel

end QuotaBoard.GeminiCli
