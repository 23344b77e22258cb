import QuotaBoard.Proofs.BoardRuns
import QuotaBoard.Proofs.Scanning

/-!
# Which primary key is served

A key that was found is served until it is forgotten, even if the known keys change in the
meantime, and the management API is asked again only after that.  A listing without a key, or one
that fails, is not remembered, so the next question asks again.

* `KeyCache.log` is what happens at a cache that is asked one thing after the other, in the order in
  which its lock is taken.
* `Event.Fits` is all that one event can be; what holds of a whole log follows from it.
* `Board.run_keys`: the turns of a board ask its cache such things, and nothing else reaches it.
-/

namespace QuotaBoard

/-! ## 1. Usable keys -/

namespace KeyCache

/-- The key is the first of these that is not blank, without the blanks around it. -/
def IsFirst (keys : List String) (key : String) : Prop :=
  ∃ before found after, keys = before ++ found :: after ∧ (∀ k ∈ before, Text.Blank k) ∧
    ¬ Text.Blank found ∧ key = Text.trim found

theorem firstUsable?_eq_none_iff {keys : List String} :
    firstUsable? keys = none ↔ ∀ k ∈ keys, Text.Blank k := by
  rw [firstUsable?, List.findSome?_eq_none_iff]
  exact forall₂_congr fun k _ => Text.trimmed?_eq_none_iff

theorem firstUsable?_eq_some_iff {keys : List String} {key : String} :
    firstUsable? keys = some key ↔ IsFirst keys key := by
  rw [firstUsable?, List.findSome?_eq_some_iff]
  constructor
  · rintro ⟨before, found, after, rfl, hfound, hbefore⟩
    obtain ⟨hblank, hkey⟩ := Text.trimmed?_eq_some_iff.mp hfound
    exact ⟨before, found, after, rfl,
      fun k hk => Text.trimmed?_eq_none_iff.mp (hbefore k hk), hblank, hkey⟩
  · rintro ⟨before, found, after, rfl, hbefore, hblank, hkey⟩
    exact ⟨before, found, after, rfl, Text.trimmed?_eq_some_iff.mpr ⟨hblank, hkey⟩,
      fun k hk => Text.trimmed?_eq_none_iff.mpr (hbefore k hk)⟩

theorem IsFirst.not_forall_blank {keys : List String} {key : String} (h : IsFirst keys key) :
    ¬ ∀ k ∈ keys, Text.Blank k := by
  rw [← firstUsable?_eq_none_iff, firstUsable?_eq_some_iff.mpr h]
  exact Option.some_ne_none key

theorem IsFirst.unique {keys : List String} {key key' : String} (h : IsFirst keys key)
    (h' : IsFirst keys key') : key = key' := by
  rw [← firstUsable?_eq_some_iff] at h h'
  exact Option.some.inj (h.symm.trans h')

theorem IsFirst.not_blank {keys : List String} {key : String} (h : IsFirst keys key) :
    ¬ Text.Blank key := by
  obtain ⟨_, found, _, -, -, hblank, rfl⟩ := h
  exact Text.not_blank_trim hblank

/-! ## 2. What happens at a cache -/

/-- What is asked of a cache: the key, where these keys are known and a listing of the management
API would come to this; or to forget its key. -/
inductive Demand where
  | key (known : List String) (listing : Except Failure (List String))
  | forget

/-- The key that a question finds if nothing is cached: one that is known, or else one that is
listed. -/
def Demand.Yields : Demand → String → Prop
  | .key known listing, found => IsFirst known found ∨
      (∀ k ∈ known, Text.Blank k) ∧ ∃ keys, listing = .ok keys ∧ IsFirst keys found
  | .forget, _ => False

/-- A demand that was met. -/
structure Event where
  /-- The cache as it was before. -/
  found : KeyCache
  demand : Demand
  /-- The answer to a question for the key. -/
  answer : Option (Except Failure (Option String))
  /-- Whether the management API was asked for its keys. -/
  listed : Bool
  /-- The cache from then on. -/
  left : KeyCache

/-- The key that was served. -/
def Event.key? (e : Event) : Option String :=
  match e.answer with
  | some (.ok key) => key
  | _ => none

/-- To meet a demand.  The listing notes that it was asked for. -/
def serve (c : KeyCache) : Demand → Event
  | .key known listing =>
    let noted : StateM Bool (Except Failure (List String)) := fun _ => (listing, true)
    let ((answer, left), listed) := (c.resolve known noted).run false
    ⟨c, .key known listing, some answer, listed, left⟩
  | .forget => ⟨c, .forget, none, false, c.forget⟩

/-- What happens when some demands are met, one after the other. -/
def log (c : KeyCache) : List Demand → List Event
  | [] => []
  | d :: rest => c.serve d :: (c.serve d).left.log rest

/-- The cache after some demands. -/
def after (c : KeyCache) (demands : List Demand) : KeyCache :=
  demands.foldl (fun c d => (c.serve d).left) c

/-- All that an event can be. -/
inductive Event.Fits : Event → Prop where
  | forgot (c : KeyCache) : Fits ⟨c, .forget, none, false, ⟨none⟩⟩
  /-- The key is there. -/
  | kept (key : String) (known : List String) (listing : Except Failure (List String)) :
      Fits ⟨⟨some key⟩, .key known listing, some (.ok (some key)), false, ⟨some key⟩⟩
  /-- A known key is found. -/
  | known {known : List String} {key : String} (listing : Except Failure (List String))
      (h : IsFirst known key) :
      Fits ⟨⟨none⟩, .key known listing, some (.ok (some key)), false, ⟨some key⟩⟩
  /-- A listed key is found. -/
  | listed {known keys : List String} {key : String} (hknown : ∀ k ∈ known, Text.Blank k)
      (h : IsFirst keys key) :
      Fits ⟨⟨none⟩, .key known (.ok keys), some (.ok (some key)), true, ⟨some key⟩⟩
  /-- No key is found. -/
  | keyless {known keys : List String} (hknown : ∀ k ∈ known, Text.Blank k)
      (h : ∀ k ∈ keys, Text.Blank k) :
      Fits ⟨⟨none⟩, .key known (.ok keys), some (.ok none), true, ⟨none⟩⟩
  /-- The keys cannot be listed. -/
  | failed {known : List String} (hknown : ∀ k ∈ known, Text.Blank k) (e : Failure) :
      Fits ⟨⟨none⟩, .key known (.error e), some (.error e), true, ⟨none⟩⟩

/-- What a question comes to, whoever lists the keys. -/
theorem resolve_run {σ : Type} (c : KeyCache) (known : List String)
    (listing : StateM σ (Except Failure (List String))) (w : σ) :
    (c.resolve known listing).run w =
      match c.cached.or (firstUsable? known) with
      | some key => ((.ok (some key), ⟨some key⟩), w)
      | none => (keep (listing.run w).1, (listing.run w).2) := by
  rw [resolve]
  cases c.cached.or (firstUsable? known) <;> rfl

/-- **A demand is met in one of these ways.** -/
theorem serve_fits (c : KeyCache) (d : Demand) : (c.serve d).Fits := by
  cases d with
  | forget => exact .forgot c
  | key known listing =>
    obtain ⟨cached⟩ := c
    rw [serve, resolve_run]
    cases cached with
    | some key => exact .kept key known listing
    | none =>
      cases hknown : firstUsable? known with
      | some key => exact .known listing (firstUsable?_eq_some_iff.mp hknown)
      | none =>
        have hblank := firstUsable?_eq_none_iff.mp hknown
        cases listing with
        | error e => exact .failed hblank e
        | ok keys =>
          change Event.Fits ⟨⟨none⟩, _, some (.ok (firstUsable? keys)), true, ⟨firstUsable? keys⟩⟩
          cases hkeys : firstUsable? keys with
          | none => exact .keyless hblank (firstUsable?_eq_none_iff.mp hkeys)
          | some key => exact .listed hblank (firstUsable?_eq_some_iff.mp hkeys)

@[simp] theorem serve_found (c : KeyCache) (d : Demand) : (c.serve d).found = c := by
  cases d <;> rfl

@[simp] theorem serve_demand (c : KeyCache) (d : Demand) : (c.serve d).demand = d := by
  cases d <;> rfl

namespace Event.Fits

variable {e : Event} {key : String}

/-- What is cached is what was answered. -/
theorem cached_left (h : e.Fits) : e.left.cached = e.key? := by
  cases h <;> rfl

/-- A key that is there is served, and nobody is asked for it. -/
theorem of_cached (h : e.Fits) (hfound : e.found.cached = some key) (hd : e.demand ≠ .forget) :
    e.key? = some key ∧ e.listed = false := by
  cases h with
  | forgot c => exact absurd rfl hd
  | kept cached known listing => exact ⟨hfound, rfl⟩
  | known | listed | keyless | failed => cases hfound

/-- The keys are listed if there is none and none is known, and only then. -/
theorem listed_iff (h : e.Fits) : e.listed = true ↔ e.found.cached = none ∧
    ∃ known listing, e.demand = .key known listing ∧ ∀ k ∈ known, Text.Blank k := by
  cases h with
  | forgot c => simp
  | kept key known listing => simp
  | known listing h => simpa using h.not_forall_blank
  | listed hknown h => simpa using hknown
  | keyless hknown h => simpa using hknown
  | failed hknown e => simpa using hknown

/-- A listing that fails is not remembered. -/
theorem of_failed {known : List String} {f : Failure} (h : e.Fits)
    (hd : e.demand = .key known (.error f)) (hlisted : e.listed = true) :
    e.answer = some (.error f) ∧ e.left.cached = none := by
  cases h with
  | forgot | kept | known => cases hlisted
  | listed | keyless => cases hd
  | failed hknown f' =>
    cases hd
    exact ⟨rfl, rfl⟩

/-- A listing without a usable key is not remembered. -/
theorem of_keyless {known keys : List String} (h : e.Fits)
    (hd : e.demand = .key known (.ok keys)) (hlisted : e.listed = true)
    (hkeys : ∀ k ∈ keys, Text.Blank k) : e.answer = some (.ok none) ∧ e.left.cached = none := by
  cases h with
  | forgot | kept | known => cases hlisted
  | listed hknown hfirst =>
    cases hd
    exact absurd hkeys hfirst.not_forall_blank
  | keyless => exact ⟨rfl, rfl⟩
  | failed => cases hd

/-- If there is none, the key that is served is the one that the question finds. -/
theorem key_iff (h : e.Fits) (hfound : e.found.cached = none) :
    e.key? = some key ↔ e.demand.Yields key := by
  cases h with
  | forgot c => simp [Event.key?, Demand.Yields]
  | kept key known listing => cases hfound
  | @known known first listing h =>
    constructor
    · rintro ⟨⟩
      exact .inl h
    · rintro (hkey | ⟨hblank, -⟩)
      · exact congrArg some (h.unique hkey)
      · exact absurd hblank h.not_forall_blank
  | @listed known keys first hknown h =>
    constructor
    · rintro ⟨⟩
      exact .inr ⟨hknown, keys, rfl, h⟩
    · rintro (hkey | ⟨-, _, hkeys, hkey⟩)
      · exact absurd hknown hkey.not_forall_blank
      · cases hkeys
        exact congrArg some (h.unique hkey)
  | @keyless known keys hknown h =>
    constructor
    · rintro ⟨⟩
    · rintro (hkey | ⟨-, _, hkeys, hkey⟩)
      · exact absurd hknown hkey.not_forall_blank
      · cases hkeys
        exact absurd h hkey.not_forall_blank
  | @failed known hknown e =>
    constructor
    · rintro ⟨⟩
    · rintro (hkey | ⟨-, _, hkeys, -⟩)
      · exact absurd hknown hkey.not_forall_blank
      · cases hkeys

end Event.Fits

/-! ## 3. Whole logs -/

variable {c : KeyCache} {key : String}

theorem after_cons (c : KeyCache) (d : Demand) (rest : List Demand) :
    c.after (d :: rest) = (c.serve d).left.after rest := rfl

theorem after_append (c : KeyCache) (before rest : List Demand) :
    c.after (before ++ rest) = (c.after before).after rest := List.foldl_append

theorem log_append (c : KeyCache) (first second : List Demand) :
    c.log (first ++ second) = c.log first ++ (c.after first).log second := by
  induction first generalizing c with
  | nil => rfl
  | cons d first ih => rw [List.cons_append, log, log, ih, after_cons, List.cons_append]

/-- Where a log is cut, its demands can be cut, too. -/
theorem exists_of_log_eq_append {demands : List Demand} {before rest : List Event}
    (h : c.log demands = before ++ rest) :
    ∃ first second, demands = first ++ second ∧ c.log first = before ∧
      (c.after first).log second = rest := by
  induction before generalizing c demands with
  | nil => exact ⟨[], demands, rfl, rfl, h⟩
  | cons x before ih =>
    cases demands with
    | nil => cases h
    | cons d demands =>
      obtain ⟨rfl, htail⟩ := List.cons.inj h
      obtain ⟨first, second, rfl, rfl, hrest⟩ := ih htail
      exact ⟨d :: first, second, rfl, rfl, hrest⟩

/-- An event of a log meets its demand at the cache that the demands before it have left. -/
theorem exists_of_log_eq {demands : List Demand} {before after : List Event} {e : Event}
    (h : c.log demands = before ++ e :: after) :
    ∃ first d rest, demands = first ++ d :: rest ∧ c.log first = before ∧
      e = (c.after first).serve d ∧ e.left.log rest = after := by
  obtain ⟨first, second, rfl, hbefore, hsecond⟩ := exists_of_log_eq_append h
  cases second with
  | nil => cases hsecond
  | cons d rest =>
    obtain ⟨rfl, hrest⟩ := List.cons.inj hsecond
    exact ⟨first, d, rest, rfl, hbefore, rfl, hrest⟩

/-- Every event of a log is one of those that an event can be. -/
theorem fits_of_mem_log {demands : List Demand} {e : Event} (h : e ∈ c.log demands) : e.Fits := by
  obtain ⟨before, after, hsplit⟩ := List.append_of_mem h
  obtain ⟨first, d, rest, -, -, rfl, -⟩ := exists_of_log_eq hsplit
  exact serve_fits _ d

/-- **A key is kept until it is forgotten.**  As long as nobody has it forgotten, each question is
answered with it and nothing is listed. -/
theorem of_cached {demands : List Demand} (hc : c.cached = some key)
    (hkept : ∀ e ∈ c.log demands, e.demand ≠ .forget) :
    (∀ e ∈ c.log demands, e.key? = some key ∧ e.listed = false) ∧
      (c.after demands).cached = some key := by
  induction demands generalizing c with
  | nil => exact ⟨by simp [log], hc⟩
  | cons d rest ih =>
    have hhead := (serve_fits c d).of_cached (by simpa using hc) (hkept _ List.mem_cons_self)
    have hleft : (c.serve d).left.cached = some key := (serve_fits c d).cached_left.trans hhead.1
    obtain ⟨hrest, hafter⟩ := ih hleft fun e he => hkept e (List.mem_cons_of_mem _ he)
    exact ⟨List.forall_mem_cons.mpr ⟨hhead, hrest⟩, hafter⟩

/-- **A key that was looked up and not forgotten.**  An event of the log has found no key in the
cache and has served the one that its question yields, and since then nobody has had it
forgotten. -/
def Remembered (log : List Event) (key : String) : Prop :=
  ∃ older lookup since, log = older ++ lookup :: since ∧ (∀ e ∈ since, e.demand ≠ .forget) ∧
    lookup.found.cached = none ∧ lookup.demand.Yields key ∧ lookup.key? = some key

theorem Remembered.cons {log : List Event} (h : Remembered log key) (e : Event) :
    Remembered (e :: log) key := by
  obtain ⟨older, lookup, since, rfl, hlookup⟩ := h
  exact ⟨e :: older, lookup, since, rfl, hlookup⟩

theorem Remembered.not_blank {log : List Event} (h : Remembered log key) : ¬ Text.Blank key := by
  obtain ⟨_, lookup, _, -, -, -, hyields, -⟩ := h
  cases hdemand : lookup.demand with
  | forget =>
    rw [hdemand] at hyields
    exact hyields.elim
  | key known listing =>
    rw [hdemand] at hyields
    rcases hyields with hkey | ⟨-, keys, -, hkey⟩
    · exact hkey.not_blank
    · exact hkey.not_blank

/-- What is in a cache was there before or was looked up, and nobody has had it forgotten since. -/
theorem kept_or_remembered {demands : List Demand} (h : (c.after demands).cached = some key) :
    (c.cached = some key ∧ ∀ e ∈ c.log demands, e.demand ≠ .forget) ∨
      Remembered (c.log demands) key := by
  induction demands generalizing c with
  | nil => exact .inl ⟨h, by simp [log]⟩
  | cons d rest ih =>
    rw [after_cons] at h
    have hfits := serve_fits c d
    rcases ih h with ⟨hleft, hrest⟩ | hremembered
    · have hkey : (c.serve d).key? = some key := hfits.cached_left.symm.trans hleft
      cases hc : c.cached with
      | none =>
        have hfound : (c.serve d).found.cached = none := by simpa using hc
        exact .inr ⟨[], c.serve d, _, rfl, hrest, hfound, (hfits.key_iff hfound).mp hkey, hkey⟩
      | some cached =>
        have hd : (c.serve d).demand ≠ .forget := by
          intro hforget
          rw [serve_demand] at hforget
          subst hforget
          cases hkey
        have hserved := hfits.of_cached (by simpa using hc) hd
        rw [← hserved.1.symm.trans hkey]
        exact .inl ⟨rfl, List.forall_mem_cons.mpr ⟨hd, hrest⟩⟩
    · exact .inr (hremembered.cons _)

/-- **What was served is served again.** -/
theorem served_again {demands : List Demand} {before between after : List Event} {e later : Event}
    (h : c.log demands = before ++ e :: (between ++ later :: after)) (hkey : e.key? = some key)
    (hbetween : ∀ x ∈ between, x.demand ≠ .forget) (hlater : later.demand ≠ .forget) :
    later.key? = some key ∧ later.listed = false := by
  obtain ⟨first, d, rest, -, -, rfl, hrest⟩ := exists_of_log_eq h
  obtain ⟨second, d', _, -, rfl, rfl, -⟩ := exists_of_log_eq hrest
  have hcached := (of_cached ((serve_fits _ d).cached_left.trans hkey) hbetween).2
  exact (serve_fits _ d').of_cached (by simpa using hcached) hlater

/-- **A new cache holds the key that is remembered**, and none if there is no such key. -/
theorem cached_after_iff (demands : List Demand) :
    (({} : KeyCache).after demands).cached = some key ↔
      Remembered (({} : KeyCache).log demands) key := by
  constructor
  · intro h
    rcases kept_or_remembered h with ⟨hnone, -⟩ | hremembered
    · cases hnone
    · exact hremembered
  · rintro ⟨older, lookup, since, hsplit, hsince, -, -, hkey⟩
    obtain ⟨first, d, rest, rfl, -, rfl, rfl⟩ := exists_of_log_eq hsplit
    rw [after_append, after_cons]
    exact (of_cached ((serve_fits _ d).cached_left.trans hkey) hsince).2

/-- A listing that yields a key. -/
def Event.listsKey (e : Event) : Bool := e.listed && e.key?.isSome

/-- **As long as nobody has it forgotten, at most one listing yields a key.** -/
theorem countP_listsKey_le {demands : List Demand}
    (hkept : ∀ e ∈ c.log demands, e.demand ≠ .forget) :
    (c.log demands).countP Event.listsKey ≤ 1 := by
  induction demands generalizing c with
  | nil => simp [log]
  | cons d rest ih =>
    obtain ⟨hd, hrest⟩ := List.forall_mem_cons.mp hkept
    cases hkey : (c.serve d).key? with
    | none =>
      have hnot : ¬ (c.serve d).listsKey = true := by simp [Event.listsKey, hkey]
      rw [log, List.countP_cons_of_neg hnot]
      exact ih hrest
    | some key =>
      -- from here on the key is there, so nothing is listed any more
      have hserved := (of_cached ((serve_fits c d).cached_left.trans hkey) hrest).1
      have hzero : ((c.serve d).left.log rest).countP Event.listsKey = 0 := by
        rw [List.countP_eq_zero]
        intro e he
        simp [Event.listsKey, (hserved e he).2]
      rw [log, List.countP_cons, hzero]
      split <;> omega

end KeyCache

/-! ## 4. The cache of a board -/

/-- What a turn asks of the cache of its board. -/
def Turn.demands {σ : Type} (config : Config) (t : Turn σ) : List KeyCache.Demand :=
  match t.action with
  | .refresh force | .refreshProvider _ force => if force then [.forget] else []
  | .primaryKey | .testCommand _ => [.key config.apiKeys (t.service.apiKeys.run t.world).1]

namespace Board

variable {σ : Type}

/-- **A forced refresh forgets the key, whether its listing fails or not**, and no other refresh
does. -/
theorem take_keys_of_refresh (b : Board) {t : Turn σ} {force : Bool}
    (h : t.action = .refresh force ∨ ∃ p, t.action = .refreshProvider p force) :
    (b.take t).2.1.keys = if force then {} else b.keys := by
  have hforget : (b.forgetIf force).keys = if force then {} else b.keys := by
    cases force <;> rfl
  rw [← hforget]
  rcases h with h | ⟨p, h⟩
  · simp only [take, h]
    cases hlisted : (t.service.recording.credentials.run (t.world, [])).1 with
    | error e => rw [refresh_run_error b t.service.recording force hlisted]
    | ok listing => rw [refresh_run_ok b t.service.recording force hlisted]
  · simp only [take, h]
    cases hlisted : (t.service.recording.credentials.run (t.world, [])).1 with
    | error e => rw [refreshProvider_run_error b t.service.recording p force hlisted]
    | ok listing => rw [refreshProvider_run_ok b t.service.recording p force hlisted]

/-- The question that a turn for the key or for a command puts to the cache. -/
def question (b : Board) (t : Turn σ) : KeyCache.Event :=
  b.keys.serve (.key b.config.apiKeys (t.service.apiKeys.run t.world).1)

/-- The key that a board answers with is the one that its cache serves. -/
theorem primaryKey_run (b : Board) (t : Turn σ) :
    some ((b.primaryKey t.service.recording).run (t.world, [])).1.1 = (b.question t).answer ∧
      ((b.primaryKey t.service.recording).run (t.world, [])).1.2 =
        { b with keys := (b.question t).left } := by
  rw [primaryKey, StateT.run_bind, KeyCache.resolve_run, question, KeyCache.serve,
    KeyCache.resolve_run]
  cases b.keys.cached.or (KeyCache.firstUsable? b.config.apiKeys) <;> exact ⟨rfl, rfl⟩

theorem take_primaryKey (b : Board) {t : Turn σ} (h : t.action = .primaryKey) :
    some (b.take t).1 = (b.question t).answer.map .text ∧
      (b.take t).2.1.keys = (b.question t).left := by
  obtain ⟨hanswer, hboard⟩ := b.primaryKey_run t
  rw [← hanswer]
  simp only [take, h]
  exact ⟨rfl, congrArg Board.keys hboard⟩

theorem take_testCommand (b : Board) {t : Turn σ} {model : String}
    (h : t.action = .testCommand model) :
    some (b.take t).1 = (b.question t).answer.map (fun key =>
        .text (key.map (·.map (TestCommand.build b.config.management.baseUrl · model)))) ∧
      (b.take t).2.1.keys = (b.question t).left := by
  obtain ⟨hanswer, hboard⟩ := b.primaryKey_run t
  rw [← hanswer]
  simp only [take, h]
  refine ⟨?_, congrArg Board.keys hboard⟩
  rw [Option.map_some, ← congrArg Board.config hboard]
  rfl

theorem take_keys (b : Board) (t : Turn σ) :
    (b.take t).2.1.keys = b.keys.after (t.demands b.config) := by
  cases h : t.action with
  | refresh force =>
    rw [b.take_keys_of_refresh (.inl h), Turn.demands, h]
    cases force <;> rfl
  | refreshProvider p force =>
    rw [b.take_keys_of_refresh (.inr ⟨p, h⟩), Turn.demands, h]
    cases force <;> rfl
  | primaryKey =>
    rw [(b.take_primaryKey h).2, Turn.demands, h]
    rfl
  | testCommand model =>
    rw [(b.take_testCommand h).2, Turn.demands, h]
    rfl

/-- **The turns of a board ask its cache these things, and nothing else reaches it.** -/
theorem run_keys (b : Board) (turns : List (Turn σ)) :
    (b.run turns).keys = b.keys.after (turns.flatMap (Turn.demands b.config)) := by
  induction turns generalizing b with
  | nil => rfl
  | cons t rest ih =>
    rw [run_cons, ih, take_config, take_keys, List.flatMap_cons, KeyCache.after_append]

end Board

/-! ## 5. Summary -/

/-- **Which key is served, over any number of questions and in any order.**  A key is in the cache
exactly if it was looked up and nobody has had it forgotten since.  Only a question that finds
none, and for which no known key is usable, lists the keys of the management API.  A question that
finds none is answered with the first known key that is not blank, else with the first listed one,
in both cases without the blanks around it; if the listing fails or has no usable key, nothing is
remembered.  A key that was served is served again until it is forgotten, without any listing, so
in between at most one listing yields a key, and a key that is served was looked up after the last
time that it was forgotten.  A board asks its cache just so: a forced refresh, of all providers or
of one, has the key forgotten, however its listing of credentials ends, no other refresh touches
it, and a question for the key is one to the cache. -/
theorem KeyCache.log_remembers {σ : Type} (demands : List Demand) :
    (∀ before e after, ({} : KeyCache).log demands = before ++ e :: after →
      (∀ key, e.found.cached = some key ↔ Remembered before key) ∧
      (e.listed = true ↔ e.found.cached = none ∧
        ∃ known listing, e.demand = .key known listing ∧ ∀ k ∈ known, Text.Blank k) ∧
      (e.found.cached = none → ∀ key, e.key? = some key ↔ e.demand.Yields key) ∧
      e.left.cached = e.key? ∧
      (∀ known f, e.demand = .key known (.error f) → e.listed = true →
        e.answer = some (.error f) ∧ e.left.cached = none) ∧
      (∀ known keys, e.demand = .key known (.ok keys) → e.listed = true →
        (∀ k ∈ keys, Text.Blank k) → e.answer = some (.ok none) ∧ e.left.cached = none) ∧
      ∀ key, e.key? = some key → ¬ Text.Blank key ∧ Remembered (before ++ [e]) key ∧
        ∀ between later rest, after = between ++ later :: rest →
          (∀ x ∈ between, x.demand ≠ .forget) → later.demand ≠ .forget →
          later.key? = some key ∧ later.listed = false) ∧
    (∀ before stretch after, ({} : KeyCache).log demands = before ++ stretch ++ after →
      (∀ e ∈ stretch, e.demand ≠ .forget) → stretch.countP Event.listsKey ≤ 1) ∧
    ∀ b : Board,
      (∀ (t : Turn σ) force,
        (t.action = .refresh force ∨ ∃ p, t.action = .refreshProvider p force) →
        (b.take t).2.1.keys = if force then {} else b.keys) ∧
      (∀ t : Turn σ, t.action = .primaryKey →
        some (b.take t).1 = (b.question t).answer.map .text) ∧
      ∀ turns : List (Turn σ),
        (b.run turns).keys = b.keys.after (turns.flatMap (Turn.demands b.config)) := by
  refine ⟨?_, ?_, fun b => ⟨fun t force => b.take_keys_of_refresh,
    fun t ht => (b.take_primaryKey ht).1, b.run_keys⟩⟩
  · intro before e after hlog
    have hfits : e.Fits := fits_of_mem_log (by rw [hlog]; simp)
    obtain ⟨first, d, rest, -, rfl, he, hrest⟩ := exists_of_log_eq hlog
    refine ⟨fun key => ?_, hfits.listed_iff, fun hfound key => hfits.key_iff hfound,
      hfits.cached_left, fun known f => hfits.of_failed, fun known keys => hfits.of_keyless,
      fun key hkey => ?_⟩
    · rw [he, serve_found]
      exact cached_after_iff first
    · have hremembered : Remembered (({} : KeyCache).log first ++ [e]) key := by
        have hlast : ({} : KeyCache).log (first ++ [d]) = ({} : KeyCache).log first ++ [e] := by
          rw [log_append, he]
          rfl
        rw [← hlast, ← cached_after_iff, after_append, after_cons, ← he]
        exact hfits.cached_left.trans hkey
      refine ⟨hremembered.not_blank, hremembered, ?_⟩
      rintro between later others rfl hbetween hlater
      exact served_again hlog hkey hbetween hlater
  · intro before stretch after hlog hkept
    rw [List.append_assoc] at hlog
    obtain ⟨first, second, -, -, hsecond⟩ := exists_of_log_eq_append hlog
    obtain ⟨third, _, -, rfl, -⟩ := exists_of_log_eq_append hsecond
    exact countP_listsKey_le hkept

/-- The keys cannot be listed at first; then one of them is found, and it is served although another
one has become known meanwhile. -/
theorem KeyCache.log_remembers_changed :
    let failed := ({} : KeyCache).serve (.key [" "] (.error (.unknown "no connection")))
    let found := failed.left.serve (.key [] (.ok ["", " sk-1\n", "sk-2"]))
    let changed := found.left.serve (.key ["sk-3"] (.ok ["sk-4"]))
    failed.left.cached = none ∧ found.key? = some "sk-1" ∧ changed.key? = some "sk-1" ∧
      changed.listed = false := by
  intro failed found changed
  obtain ⟨hevents, -⟩ := log_remembers (σ := Unit) [.key [" "] (.error (.unknown "no connection")),
    .key [] (.ok ["", " sk-1\n", "sk-2"]), .key ["sk-3"] (.ok ["sk-4"])]
  obtain ⟨-, hlisted, -, -, hfailed, -⟩ := hevents [] failed [found, changed] rfl
  have hnone : failed.left.cached = none :=
    (hfailed _ _ rfl (hlisted.mpr ⟨rfl, _, _, rfl, by decide +kernel⟩)).2
  obtain ⟨-, -, hyields, -, -, -, hserved⟩ := hevents [failed] found [changed] rfl
  have hkey : found.key? = some "sk-1" := by
    refine (hyields hnone "sk-1").mpr (.inr ⟨by simp, _, rfl, ?_⟩)
    exact ⟨[""], " sk-1\n", ["sk-2"], rfl, by decide +kernel, by decide +kernel,
      by decide +kernel⟩
  obtain ⟨-, -, hagain⟩ := hserved "sk-1" hkey
  exact ⟨hnone, hkey, hagain [] changed [] rfl (by simp) (by simp [changed])⟩

end QuotaBoard
