import QuotaBoard.Proofs.Fallback
import QuotaBoard.Proofs.Requests
import QuotaBoard.Proofs.Results

/-!
# Every number that is shown lies in its range

Vendors send numbers as numbers and as texts, with any size and any sign, and some readings are not
sent but concluded or put together from several others.  Whatever is sent, a used share in percent
lies between zero and a hundred, a fraction that is left between zero and one, and an amount is
finite; otherwise it is not shown at all.

Ranges are stated of exact values: `Double.scaled` counts the steps of `2 ^ (-1074)`, of which
`Double.one` make up one, so nothing is rounded when a number is compared with a bound.

* The readers and `Double.lowest` keep the ranges (sections 1 and 2), so every payload gives a quota
  in range (section 3).
* A slot shows nothing but what fetches ended with (`Adapter.Underway.success_of`), so the ranges
  hold at every point of every pass and after any turns of a board (sections 4 and 5).
-/

namespace QuotaBoard

/-! ## 1. Bounds of exact values -/

namespace Double

/-- The value lies between zero and a whole number, both included. -/
def UpTo (n : Nat) (x : Double) : Prop := 0 ≤ x.scaled ∧ x.scaled ≤ (n * one : Nat)

/-- The value lies where the format has finite numbers: below `2 ^ 1024`, on either side of zero. -/
def IsFinite (x : Double) : Prop := x.scaled.natAbs < Nat.pow 2 1024 * one

theorem upTo_zero (n : Nat) : zero.UpTo n := by
  have hzero : zero.scaled = 0 := by decide +kernel
  rw [UpTo, hzero]
  omega

theorem upTo_hundred : UpTo 100 100 := by
  have hhundred : (100 : Double).scaled = (100 * one : Nat) := by decide +kernel
  rw [UpTo, hhundred]
  omega

/-- **What is moved into a range lies in it.** -/
theorem upTo_clamp (x : Double) : (x.clamp 0 100).UpTo 100 := by
  have hzero : (0 : Double).scaled = 0 := by decide +kernel
  have hhundred : (100 : Double).scaled = (100 * one : Nat) := by decide +kernel
  unfold clamp
  split
  · rw [UpTo, hzero]
    omega
  · rename_i hlow
    split
    · exact upTo_hundred
    · rename_i hhigh
      change ¬ x.scaled < (0 : Double).scaled at hlow
      change ¬ (100 : Double).scaled < x.scaled at hhigh
      rw [hzero] at hlow
      rw [hhundred] at hhigh
      exact ⟨by omega, by omega⟩

/-- What is compared with zero and one lies between them. -/
theorem upTo_one {x : Double} (hlow : 0 ≤ x) (hhigh : x ≤ 1) : x.UpTo 1 := by
  have hzero : (0 : Double).scaled = 0 := by decide +kernel
  have hone : (1 : Double).scaled = (1 * one : Nat) := by decide +kernel
  change (0 : Double).scaled ≤ x.scaled at hlow
  change x.scaled ≤ (1 : Double).scaled at hhigh
  rw [hzero] at hlow
  rw [hone] at hhigh
  exact ⟨hlow, hhigh⟩

/-- The step of the format doubles at most 2045 times. -/
theorem doublings_le {rank : Nat} (h : rank < rankLimit) : doublings rank ≤ 2045 := by
  rw [rankLimit, Nat.mul_comm] at h
  have hquotient : rank / binade < 2047 := Nat.div_lt_of_lt_mul h
  unfold doublings
  omega

/-- A magnitude is less than two binades of its own steps. -/
theorem sub_doublings_lt (rank : Nat) : rank - doublings rank * binade < 2 * binade := by
  have hbinade : 0 < binade := by decide
  have hsplit := Nat.div_add_mod rank binade
  have hrest := Nat.mod_lt rank hbinade
  unfold doublings
  cases hq : rank / binade with
  | zero =>
    rw [hq] at hsplit
    omega
  | succ k =>
    rw [hq, Nat.mul_succ, Nat.mul_comm binade k] at hsplit
    simp only [Nat.add_sub_cancel]
    omega

/-- A magnitude whose step has doubled at most so often is less than two binades of such steps. -/
theorem units_lt {rank d limit : Nat} (h : doublings rank ≤ d)
    (hlimit : 2 * binade * Nat.pow 2 d = limit) : units rank < limit := by
  rw [← hlimit]
  exact Nat.mul_lt_mul_of_lt_of_le (sub_doublings_lt rank)
    (Nat.pow_le_pow_right (by decide) h) (Nat.pow_pos (by decide))

/-- **Every number of the type is finite.**  Neither an infinity nor a number that is none can be
written down in it. -/
theorem isFinite (x : Double) : x.IsFinite := by
  have hmagnitude : x.scaled.natAbs = units x.rank := by
    unfold scaled
    split <;> omega
  rw [IsFinite, hmagnitude]
  exact units_lt (doublings_le x.rank_lt) (by decide +kernel)

variable {P : Double → Prop}

/-- The lower of two readings is one of them. -/
theorem of_mem_lowest {a b : Option Double} (ha : ∀ x ∈ a, P x) (hb : ∀ x ∈ b, P x) :
    ∀ x ∈ lowest a b, P x := by
  intro x hx
  cases a with
  | none => exact hb x (by cases b <;> exact hx)
  | some y =>
    cases b with
    | none => exact ha x hx
    | some z =>
      obtain rfl : y.lower z = x := Option.some.inj hx
      unfold lower
      split
      · exact hb z rfl
      · exact ha y rfl

/-- The lowest of some readings is one of them. -/
theorem of_mem_foldl_lowest {readings : List (Option Double)} {start : Option Double}
    (hstart : ∀ x ∈ start, P x) (hreadings : ∀ r ∈ readings, ∀ x ∈ r, P x) :
    ∀ x ∈ readings.foldl lowest start, P x := by
  induction readings generalizing start with
  | nil => exact hstart
  | cons r rest ih =>
    refine ih ?_ fun r' hr' => hreadings r' (List.mem_cons_of_mem r hr')
    exact of_mem_lowest hstart (hreadings r List.mem_cons_self)

end Double

/-! ## 2. Readers -/

namespace Json

/-- What a field is read as is what its reader makes of some value. -/
theorem of_mem_probe? {α : Type} {P : α → Prop} {v : Json} {key : String} {read : Json → Option α}
    (h : ∀ field, ∀ x ∈ read field, P x) : ∀ x ∈ v.probe? key read, P x := by
  intro x hx
  have heither : (v.get? key).bind read = some x ∨
      (v.get? (camelCase key)).bind read = some x := by
    unfold probe? at hx
    cases hown : (v.get? key).bind read with
    | none => exact .inr (by simpa [hown] using hx)
    | some y => exact .inl (by simpa [hown] using hx)
  rcases heither with hfield | hfield <;>
    · obtain ⟨field, -, hread⟩ := Option.bind_eq_some_iff.mp hfield
      exact h field x hread

/-- **A fraction that is read lies between zero and one.** -/
theorem upTo_of_mem_fractionAt? (v : Json) (key : String) :
    ∀ x ∈ v.fractionAt? key, x.UpTo 1 := by
  refine of_mem_probe? fun field x hx => ?_
  have hbounds := (Option.filter_eq_some_iff.mp hx).2
  rw [decide_eq_true_iff] at hbounds
  exact Double.upTo_one hbounds.1 hbounds.2

/-- **A percentage that is read lies between zero and a hundred.** -/
theorem upTo_of_mem_percentAt? (v : Json) (key : String) :
    ∀ x ∈ v.percentAt? key, x.UpTo 100 := by
  refine of_mem_probe? fun field x hx => ?_
  obtain ⟨y, -, rfl⟩ := Option.map_eq_some_iff.mp hx
  exact y.upTo_clamp

/-- The words for what is no number, or not a finite one, are not read. -/
example : ["NaN", "inf", "-Infinity", "1e999"].map (fun s => asPercent? (.string s)) =
    [none, none, none, none] := by decide +kernel

/-- Of two readings in range, the one that is taken is in range. -/
theorem upTo_of_mem_or {n : Nat} {a b : Option Double} (ha : ∀ x ∈ a, x.UpTo n)
    (hb : ∀ x ∈ b, x.UpTo n) : ∀ x ∈ a.or b, x.UpTo n := by
  intro x hx
  cases a with
  | none => exact hb x hx
  | some y => exact ha x hx

end Json

/-! ## 3. Quotas -/

/-- Each used share is missing or lies between zero and a hundred. -/
def Codex.Quota.InRange (q : Codex.Quota) : Prop :=
  ∀ w ∈ q.windows, ∀ x ∈ w.usedPercent, x.UpTo 100

/-- Each fraction, that of the group and those of its models, is missing or lies between zero and
one. -/
def Antigravity.Group.InRange (g : Antigravity.Group) : Prop :=
  (∀ x ∈ g.remaining, x.UpTo 1) ∧ ∀ m ∈ g.models, ∀ x ∈ m.remaining, x.UpTo 1

/-- All groups are in range. -/
def Antigravity.Quota.InRange (q : Antigravity.Quota) : Prop := ∀ g ∈ q.groups, g.InRange

/-- The fraction is missing or lies between zero and one, and the amount is missing or finite. -/
def GeminiCli.Bucket.InRange (b : GeminiCli.Bucket) : Prop :=
  (∀ x ∈ b.remaining, x.UpTo 1) ∧ ∀ x ∈ b.amount, x.IsFinite

/-- All buckets are in range. -/
def GeminiCli.Quota.InRange (q : GeminiCli.Quota) : Prop := ∀ b ∈ q.buckets, b.InRange

namespace Codex

/-- A share that is read is in range, and so is the hundred that is concluded. -/
theorem upTo_usedPercent (id fallback : String) (window parent : Json) (now : Int) :
    ∀ x ∈ (windowOf id fallback window parent now).usedPercent, x.UpTo 100 := by
  refine Json.upTo_of_mem_or (window.upTo_of_mem_percentAt? "used_percent") fun x hx => ?_
  split at hx
  · obtain rfl : (100 : Double) = x := Option.some.inj hx
    exact Double.upTo_hundred
  · cases hx

theorem upTo_of_mem_windowAt? {id fallback key : String} {parent : Json} {now : Int} {w : Window}
    (h : w ∈ windowAt? id fallback key parent now) : ∀ x ∈ w.usedPercent, x.UpTo 100 := by
  obtain ⟨window, -, rfl⟩ := Option.map_eq_some_iff.mp h
  exact upTo_usedPercent id fallback window parent now

/-- To say that a window is for code reviews changes no number. -/
theorem usedPercent_asReview (w : Window) : w.asReview.usedPercent = w.usedPercent := by
  unfold Window.asReview
  split <;> rfl

/-- **The usage of any payload is in range.** -/
theorem quotaOf_inRange (payload : Json) (plan : Option String) (now : Int) :
    (quotaOf payload plan now).InRange := by
  intro w hw
  simp only [quotaOf, List.mem_filterMap, List.mem_cons, List.not_mem_nil, or_false, id_eq,
    exists_eq_right] at hw
  rcases hw with hw | hw | hw
  · obtain ⟨limits, -, hwindow⟩ := Option.bind_eq_some_iff.mp hw.symm
    exact upTo_of_mem_windowAt? hwindow
  · obtain ⟨limits, -, hwindow⟩ := Option.bind_eq_some_iff.mp hw.symm
    exact upTo_of_mem_windowAt? hwindow
  · obtain ⟨window, hreview, rfl⟩ := Option.map_eq_some_iff.mp hw.symm
    obtain ⟨review, -, hwindow⟩ := Option.bind_eq_some_iff.mp hreview
    rw [usedPercent_asReview]
    exact upTo_of_mem_windowAt? hwindow

end Codex

namespace Antigravity

theorem upTo_of_mem_modelOf? {id : String} {info : Json} {m : Model} (h : m ∈ modelOf? id info) :
    ∀ x ∈ m.remaining, x.UpTo 1 := by
  obtain ⟨quota, -, hm⟩ := Option.bind_eq_some_iff.mp h
  obtain rfl := Option.some.inj hm
  refine Json.upTo_of_mem_or (quota.upTo_of_mem_fractionAt? "remaining_fraction") fun x hx => ?_
  -- a model that only names its reset is exhausted
  obtain ⟨reset, -, rfl⟩ := Option.map_eq_some_iff.mp hx
  exact Double.upTo_zero 1

/-- Models in range make a group in range. -/
theorem groupOf_inRange {id label : String} {models : List Model}
    (h : ∀ m ∈ models, ∀ x ∈ m.remaining, x.UpTo 1) : (groupOf id label models).InRange := by
  refine ⟨Double.of_mem_foldl_lowest (fun x hx => nomatch hx) ?_, h⟩
  intro reading hreading
  obtain ⟨m, hm, rfl⟩ := List.mem_map.mp hreading
  exact h m hm

theorem takeFamilies_inRange (families : List Family) {models : List Model}
    (h : ∀ m ∈ models, ∀ x ∈ m.remaining, x.UpTo 1) :
    (∀ g ∈ (takeFamilies families models).1, g.InRange) ∧
      ∀ m ∈ (takeFamilies families models).2, ∀ x ∈ m.remaining, x.UpTo 1 := by
  induction families generalizing models with
  | nil => exact ⟨fun g hg => (nomatch hg), h⟩
  | cons family rest ih =>
    have hmembers : ∀ m ∈ models.filter (family.rule.holds ·.id), ∀ x ∈ m.remaining, x.UpTo 1 :=
      fun m hm => h m (List.mem_filter.mp hm).1
    have hothers : ∀ m ∈ models.filter (!family.rule.holds ·.id), ∀ x ∈ m.remaining, x.UpTo 1 :=
      fun m hm => h m (List.mem_filter.mp hm).1
    obtain ⟨hgroups, hleft⟩ := ih hothers
    simp only [takeFamilies, List.partition_eq_filter_filter]
    refine ⟨fun g hg => ?_, hleft⟩
    split at hg
    · exact hgroups g hg
    · rcases List.mem_cons.mp hg with rfl | hg
      · exact groupOf_inRange hmembers
      · exact hgroups g hg

/-- **The groups of any models are in range.** -/
theorem groupsOf_inRange (models : List (String × Json)) : ∀ g ∈ groupsOf models, g.InRange := by
  have hmodels : ∀ m ∈ models.filterMap (fun m => modelOf? m.1 m.2),
      ∀ x ∈ m.remaining, x.UpTo 1 := by
    intro m hm
    obtain ⟨sent, -, hmodel⟩ := List.mem_filterMap.mp hm
    exact upTo_of_mem_modelOf? hmodel
  obtain ⟨hfamilies, hleft⟩ := takeFamilies_inRange families hmodels
  intro g hg
  rcases List.mem_append.mp hg with hg | hg
  · exact hfamilies g hg
  · obtain ⟨m, hm, rfl⟩ := List.mem_map.mp hg
    have hmem := (List.mergeSort_perm _ _).subset hm
    refine groupOf_inRange fun m' hm' => ?_
    obtain rfl := List.mem_singleton.mp hm'
    exact hleft m' hmem

end Antigravity

namespace GeminiCli

theorem bucketOf?_inRange {raw : Json} {b : Bucket} (h : b ∈ bucketOf? raw) : b.InRange := by
  obtain ⟨modelId, -, hb⟩ := Option.bind_eq_some_iff.mp h
  obtain rfl := Option.some.inj hb
  refine ⟨?_, fun x _ => x.isFinite⟩
  refine Json.upTo_of_mem_or (raw.upTo_of_mem_fractionAt? "remaining_fraction") fun x hx => ?_
  -- the only fraction that is concluded is that nothing is left
  split at hx
  · split at hx
    · obtain rfl := Option.some.inj hx
      exact Double.upTo_zero 1
    · cases hx
  · obtain ⟨reset, -, rfl⟩ := Option.map_eq_some_iff.mp hx
    exact Double.upTo_zero 1

/-- A bucket that takes another one in stays in range. -/
theorem absorb_inRange {b other : Bucket} (hb : b.InRange) (hother : other.InRange) :
    (b.absorb other).InRange :=
  ⟨Double.of_mem_lowest hb.1 hother.1, Double.of_mem_lowest hb.2 hother.2⟩

/-- All buckets of a map are in range. -/
def BucketMap.InRange (shown : BucketMap) : Prop := ∀ entry ∈ shown, entry.2.InRange

theorem BucketMap.insert_inRange {shown : BucketMap} {k : Key} {b : Bucket}
    (hshown : shown.InRange) (hb : b.InRange) : (shown.insert k b).InRange := by
  induction shown with
  | nil => exact List.forall_mem_singleton.mpr hb
  | cons entry rest ih =>
    obtain ⟨hentry, hrest⟩ := List.forall_mem_cons.mp hshown
    unfold insert
    split
    · exact List.forall_mem_cons.mpr ⟨hb, hshown⟩
    · split
      · exact List.forall_mem_cons.mpr ⟨hb, hrest⟩
      · exact List.forall_mem_cons.mpr ⟨hentry, ih hrest⟩

/-- One more bucket, taken in or shown itself, keeps the map in range. -/
theorem BucketMap.add_inRange {shown : BucketMap} {b : Bucket} (hshown : shown.InRange)
    (hb : b.InRange) : (shown.add b).InRange := by
  unfold add
  split
  · rename_i group hgroup
    obtain ⟨before, after, hsplit, -⟩ := List.lookup_eq_some_iff.mp hgroup
    have hmem : (b.key, group) ∈ shown := by simp [hsplit]
    exact insert_inRange hshown (absorb_inRange (hshown _ hmem) hb)
  · -- the model that is shown does not touch the readings
    exact insert_inRange hshown hb

theorem BucketMap.foldl_add_inRange {buckets : List Bucket} {shown : BucketMap}
    (hshown : shown.InRange) (hbuckets : ∀ b ∈ buckets, b.InRange) :
    (buckets.foldl add shown).InRange := by
  induction buckets generalizing shown with
  | nil => exact hshown
  | cons b rest ih =>
    obtain ⟨hb, hrest⟩ := List.forall_mem_cons.mp hbuckets
    exact ih (add_inRange hshown hb) hrest

/-- **The quota of any payload is in range.** -/
theorem quotaOf_inRange (payload : Json) : (quotaOf payload).InRange := by
  have hsent : ∀ b ∈ (((payload.present? "buckets").bind Json.items?).getD []).filterMap bucketOf?,
      b.InRange := by
    intro b hb
    obtain ⟨raw, -, hbucket⟩ := List.mem_filterMap.mp hb
    exact bucketOf?_inRange hbucket
  have hnone : BucketMap.InRange [] := fun _ hentry => nomatch hentry
  exact List.forall_mem_map.mpr (BucketMap.foldl_add_inRange hnone hsent)

end GeminiCli

/-- All numbers of a quota lie in their ranges. -/
def Provider.InRange : (p : Provider) → p.Quota → Prop
  | .antigravity, q => Antigravity.Quota.InRange q
  | .codex, q => Codex.Quota.InRange q
  | .geminiCli, q => GeminiCli.Quota.InRange q

/-! ## 4. Fetches and passes -/

namespace Antigravity

/-- Groups that the quota line ends with come from a payload, or there are none. -/
theorem askQuota_inRange {authIndex project : String} {ledger : Ledger} {urls : List String}
    {groups : List Group} (h : (askQuota authIndex project ledger urls).Ends (.ok groups)) :
    ∀ g ∈ groups, g.InRange := by
  induction urls generalizing ledger with
  | nil =>
    have hverdict : ledger.verdict = .ok groups := h.symm
    unfold Ledger.verdict at hverdict
    split at hverdict
    · obtain rfl := Except.ok.inj hverdict
      exact fun g hg => nomatch hg
    · cases hverdict
  | cons url urls ih =>
    obtain ⟨reply, hnext⟩ := h
    dsimp only at hnext
    split at hnext
    · rename_i found hjudge
      obtain rfl : groups = found := Except.ok.inj hnext
      cases judge_eq_iff.mp hjudge with
      | @groups reply payload models _ _ _ _ hgroups =>
        rw [← hgroups]
        exact groupsOf_inRange models
    · exact ih hnext
    · exact ih hnext

theorem fetch_inRange {s : Settings} {c : Credential} {q : Quota}
    (h : (s.fetch c).Ends (.ok q)) : q.InRange := by
  unfold Settings.fetch at h
  split at h
  · cases h
  · obtain ⟨content, groups, tier, hquota, -, hresult⟩ := h
    cases groups with
    | error e => cases hresult
    | ok groups =>
      obtain rfl : q = ⟨groups, tier⟩ := Except.ok.inj hresult
      exact askQuota_inRange hquota

end Antigravity

theorem Codex.fetch_inRange {url : String} {c : Credential} {q : Quota}
    (h : (fetch url c).Ends (.ok q)) : q.InRange := by
  unfold fetch at h
  split at h
  · cases h
  · cases h
  · obtain ⟨reply, h⟩ := h
    dsimp only at h
    split at h
    · cases h
    · obtain ⟨now, h⟩ := h
      obtain rfl := Except.ok.inj h
      exact quotaOf_inRange _ _ _

theorem GeminiCli.fetch_inRange {url : String} {c : Credential} {q : Quota}
    (h : (fetch url c).Ends (.ok q)) : q.InRange := by
  unfold fetch at h
  split at h
  · cases h
  · cases h
  · obtain ⟨reply, h⟩ := h
    have hreply : quotaOfReply reply = .ok q := Eq.symm h
    unfold quotaOfReply at hreply
    split at hreply
    · cases hreply
    · split at hreply
      · cases hreply
      · split at hreply
        · obtain rfl := Except.ok.inj hreply
          exact quotaOf_inRange _
        · cases hreply

/-- **Whatever a fetch is told, the quota that it ends with is in range.** -/
theorem Config.fetch_inRange {config : Config} {p : Provider} {c : Credential} {q : p.Quota}
    (h : ((config.adapter p).fetch c).Ends (.ok q)) : p.InRange q := by
  cases p with
  | antigravity => exact Antigravity.fetch_inRange h
  | codex => exact Codex.fetch_inRange h
  | geminiCli => exact GeminiCli.fetch_inRange h

/-- **A slot shows nothing but what fetches ended with.**  This holds at every point of a pass, and
not only at its end. -/
theorem Adapter.Underway.exists_of_success {α : Type} {a : Adapter α} {listing : List Credential}
    {slot : Slot α} {pending : List Credential} {settled : List (Outcome α)} {p : Pass α}
    (h : a.Underway listing slot pending settled p) {name : String} {data : α}
    (hdata : p.slot[name]? = some (.success data)) : ∃ o ∈ settled, o.2 = .ok data := by
  induction h with
  | begun =>
    have hstart := Adapter.getElem?_start (a.targets listing) slot name
    rw [show (a.begin (a.targets listing) slot).slot = start (a.targets listing) slot from rfl,
      hstart] at hdata
    split at hdata <;> simp at hdata
  | @settled before after c settled p _ result ih =>
    have hwrite := Slot.getElem?_settle p.slot (c, result) name
    rw [show (p.settle (c, result)).slot = p.slot.settle (c, result) from rfl, hwrite] at hdata
    split at hdata
    · -- the name holds the newest result
      refine ⟨(c, result), by simp, ?_⟩
      cases result with
      | ok data' => simpa [QuotaState.ofResult] using hdata
      | error e => simp [QuotaState.ofResult] at hdata
    · obtain ⟨o, ho, hok⟩ := ih hdata
      exact ⟨o, List.mem_append_left _ ho, hok⟩

/-! ## 5. Boards -/

/-- All quotas that a slot shows are in range. -/
def Provider.SlotInRange (p : Provider) (slot : Slot p.Quota) : Prop :=
  ∀ (name : String) (data : p.Quota), slot[name]? = some (.success data) → p.InRange data

/-- **A pass is in range at every point**, whatever the fetches are told and in whatever order they
settle. -/
theorem Adapter.Underway.inRange {config : Config} {p : Provider} {listing : List Credential}
    {slot : Slot p.Quota} {pending : List Credential} {settled : List (Outcome p.Quota)}
    {ended : Pass p.Quota} (h : (config.adapter p).Underway listing slot pending settled ended)
    (hends : ∀ o ∈ settled, ((config.adapter p).fetch o.1).Ends o.2) :
    p.SlotInRange ended.slot := by
  intro name data hdata
  obtain ⟨o, ho, hok⟩ := h.exists_of_success hdata
  have hend := hends o ho
  rw [hok] at hend
  exact Config.fetch_inRange hend

namespace Board

variable {σ : Type}

/-- One turn keeps the range of a slot. -/
theorem take_inRange (b : Board) (t : Turn σ) {p : Provider}
    (h : p.SlotInRange (b.store.slot p)) : p.SlotInRange ((b.take t).2.1.store.slot p) := by
  by_cases hpasses : t.Passes p
  · obtain ⟨hcovers, listing, hlisted⟩ := hpasses
    obtain ⟨w, hpass⟩ := take_pass b hcovers hlisted
    obtain ⟨settled, ended, hunderway, hended, hresults⟩ :=
      (b.config.adapter p).pass_settled t.service.recording.toCarrier listing (b.store.slot p) w
    rw [hpass, hended]
    refine hunderway.inRange fun o ho => ?_
    obtain ⟨w', hresult⟩ := hresults o ho
    rw [hresult]
    exact Fetch.run_ends _ _ w'
  · rwa [take_slot_of_not_passes b hpasses]

/-- Any number of turns keeps it. -/
theorem run_slot_inRange (b : Board) (turns : List (Turn σ)) {p : Provider}
    (h : p.SlotInRange (b.store.slot p)) : p.SlotInRange ((b.run turns).store.slot p) := by
  induction turns generalizing b with
  | nil => exact h
  | cons t rest ih =>
    rw [run_cons]
    exact ih _ (take_inRange b t h)

/-- **Every number that is shown lies in its range.**  Any payload gives a quota in range: used
shares lie between zero and a hundred, fractions between zero and one, amounts are finite, unless
they are missing.  So after any turns of a new board every slot is in range, and it stays so at
every point of a pass that is begun then, whatever replies, token files and clocks say and in
whatever order the fetches settle. -/
theorem run_inRange (config : Config) (turns : List (Turn σ)) :
    (∀ payload plan now, (Codex.quotaOf payload plan now).InRange) ∧
    (∀ models, ∀ g ∈ Antigravity.groupsOf models, g.InRange) ∧
    (∀ payload, (GeminiCli.quotaOf payload).InRange) ∧
    ∀ p : Provider, p.SlotInRange ((({ config } : Board).run turns).store.slot p) ∧
      ∀ listing pending settled ended,
        (config.adapter p).Underway listing ((({ config } : Board).run turns).store.slot p)
          pending settled ended →
        (∀ o ∈ settled, ((config.adapter p).fetch o.1).Ends o.2) →
        p.SlotInRange ended.slot := by
  refine ⟨Codex.quotaOf_inRange, Antigravity.groupsOf_inRange, GeminiCli.quotaOf_inRange,
    fun p => ⟨run_slot_inRange _ turns ?_, ?_⟩⟩
  · intro name data hdata
    rw [show ({ config } : Board).store.slot p = ∅ from Store.slot_empty p] at hdata
    simp at hdata
  · intro listing pending settled ended hunderway hends
    exact hunderway.inRange hends

/-- A bucket of a pass on a new board: its fraction, sent as a text, is a quarter, and its amount,
which is beyond all finite numbers, is not shown. -/
theorem run_inRange_quarter :
    let c := Credential.sampleGeminiCli
    let payload : Json := .object [("buckets", .array [.object [("modelId", .string "m"),
      ("remainingAmount", .string "1e400"), ("remaining_fraction", .string " 0.25 ")]])]
    let shown : Provider.geminiCli.Quota := ⟨[⟨"m", none,
      some ⟨false, 1021 * binade, by decide⟩, none, none, ["m"]⟩]⟩
    let ended : Pass Provider.geminiCli.Quota :=
      ((Config.default.adapter .geminiCli).begin [c] ∅).settle (c, .ok (GeminiCli.quotaOf payload))
    ended.slot[c.name]? = some (.success shown) ∧ Provider.geminiCli.SlotInRange ended.slot := by
  intro c payload shown ended
  have hindex : c.authIndex? = some "7" := by decide +kernel
  have hproject : c.projectId? = some "p" := by decide +kernel
  have hshown : GeminiCli.quotaOf payload = shown := by decide +kernel
  have htargets : (Config.default.adapter .geminiCli).targets [c] = [c] := by
    have hc : (Config.default.adapter .geminiCli).accepts c = true := by decide +kernel
    simp [Adapter.targets, hc]
  have hbegun : (Config.default.adapter .geminiCli).Underway [c] ∅ ([] ++ c :: []) []
      ((Config.default.adapter .geminiCli).begin [c] ∅) := by
    have h : (Config.default.adapter .geminiCli).Underway [c] ∅ _ [] _ := .begun
    rwa [htargets] at h
  have hunderway : (Config.default.adapter .geminiCli).Underway [c] ∅ []
      [(c, .ok (GeminiCli.quotaOf payload))] ended := hbegun.settled _
  have hends : ((Config.default.adapter .geminiCli).fetch c).Ends
      (.ok (GeminiCli.quotaOf payload)) := by
    change (GeminiCli.fetch Config.default.endpoints.geminiCliQuotaUrl c).Ends _
    rw [GeminiCli.fetch, hindex, hproject]
    exact ⟨.ok ⟨200, some payload, ""⟩, rfl⟩
  constructor
  · rw [show ended.slot = Slot.settle _ (c, .ok (GeminiCli.quotaOf payload)) from rfl,
      Slot.getElem?_settle, hshown]
    simp [QuotaState.ofResult]
  · refine ((run_inRange (σ := Unit) .default []).2.2.2 .geminiCli).2 [c] [] _ ended hunderway
      fun o ho => ?_
    obtain rfl := List.mem_singleton.mp ho
    exact hends

end Board

end QuotaBoard
