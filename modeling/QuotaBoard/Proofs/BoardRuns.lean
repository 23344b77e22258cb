import QuotaBoard.Proofs.PassInvariant
import QuotaBoard.Proofs.Recording

/-!
# What the board shows after any number of turns

A board takes turns: refreshes of all providers or of one, forced or not, and questions for the
primary key.  Each turn finds a world of its own, in which catalogs, replies and failures are as
they happen to be.  After any turns, the slot of a provider is what the last pass of that provider
left there, and a turn that could not list the credentials has left no trace in any slot.

* `Board.take` is one turn, with a notebook of the requests; `Board.run` is a run of turns.
* `Board.Effect` is all that a turn can do; what holds of any number of turns follows from it.
-/

namespace QuotaBoard

variable {σ : Type}

/-! ## 1. Turns -/

/-- What a board is asked for. -/
inductive Action where
  | refresh (force : Bool)
  | refreshProvider (p : Provider) (force : Bool)
  | primaryKey
  | testCommand (model : String)

namespace Action

/-- Whether the action lists the credentials. -/
def lists : Action → Bool
  | refresh _ | refreshProvider .. => true
  | _ => false

/-- Whether the action runs a pass of a provider, if it can list the credentials. -/
def covers : Action → Provider → Bool
  | refresh _, _ => true
  | refreshProvider p _, q => p = q
  | _, _ => false

theorem lists_of_covers {a : Action} {p : Provider} (h : a.covers p = true) :
    a.lists = true := by
  cases a with
  | refresh | refreshProvider => rfl
  | primaryKey | testCommand => cases h

end Action

/-- What the board answers. -/
inductive Answer where
  | report (r : Except Failure Report)
  | summary (s : Except Failure Summary)
  | text (t : Except Failure (Option String))

/-- The failure that was answered. -/
def Answer.failure? : Answer → Option Failure
  | report (.error e) | summary (.error e) | text (.error e) => some e
  | _ => none

/-- A turn: what is asked, and the world that is found. -/
structure Turn (σ : Type) where
  action : Action
  service : Service (StateM σ)
  world : σ

namespace Turn

/-- The credentials that can be listed in the turn. -/
def listed (t : Turn σ) : Except Failure (List Credential) := (t.service.credentials.run t.world).1

/-- Whether the turn runs a pass of a provider. -/
def Passes (t : Turn σ) (p : Provider) : Prop :=
  t.action.covers p = true ∧ ∃ listing, t.listed = .ok listing

end Turn

namespace Board

/-- A turn of the board: the answer, the board from then on, and the requests that were made. -/
def take (b : Board) (t : Turn σ) : Answer × Board × List ApiRequest :=
  let record := t.service.recording
  match t.action with
  | .refresh force =>
    let ((report, b'), (_, sent)) := (b.refresh record force).run (t.world, [])
    (.report report, b', sent)
  | .refreshProvider p force =>
    let ((summary, b'), (_, sent)) := (b.refreshProvider record p force).run (t.world, [])
    (.summary summary, b', sent)
  | .primaryKey =>
    let ((key, b'), (_, sent)) := (b.primaryKey record).run (t.world, [])
    (.text key, b', sent)
  | .testCommand model =>
    let ((command, b'), (_, sent)) := (b.testCommand record model).run (t.world, [])
    (.text command, b', sent)

/-- The board after some turns. -/
def run (b : Board) (turns : List (Turn σ)) : Board :=
  turns.foldl (fun b t => (b.take t).2.1) b

theorem run_append (b : Board) (before after : List (Turn σ)) :
    b.run (before ++ after) = (b.run before).run after := List.foldl_append

theorem run_cons (b : Board) (t : Turn σ) (rest : List (Turn σ)) :
    b.run (t :: rest) = ((b.take t).2.1).run rest := rfl

/-! ## 2. One refresh -/

/-- To forget the key changes nothing else. -/
theorem forgetIf_eq (b : Board) (force : Bool) : ∃ keys, b.forgetIf force = { b with keys } := by
  cases force
  · exact ⟨b.keys, rfl⟩
  · exact ⟨b.keys.forget, rfl⟩

/-- **A listing that fails is the end of a refresh.**  The failure is handed on, and the world is
left as the listing left it. -/
theorem refresh_run_error (b : Board) (service : Service (StateM σ)) (force : Bool) {w : σ}
    {e : Failure} (h : (service.credentials.run w).1 = .error e) :
    (b.refresh service force).run w =
      ((.error e, b.forgetIf force), (service.credentials.run w).2) := by
  rw [refresh, StateT.run_bind]
  generalize service.credentials.run w = listed at h
  obtain ⟨result, w'⟩ := listed
  obtain rfl : result = .error e := h
  rfl

theorem refreshProvider_run_error (b : Board) (service : Service (StateM σ)) (p : Provider)
    (force : Bool) {w : σ} {e : Failure} (h : (service.credentials.run w).1 = .error e) :
    (b.refreshProvider service p force).run w =
      ((.error e, b.forgetIf force), (service.credentials.run w).2) := by
  rw [refreshProvider, StateT.run_bind]
  generalize service.credentials.run w = listed at h
  obtain ⟨result, w'⟩ := listed
  obtain rfl : result = .error e := h
  rfl

/-- With a listing, a refresh runs one pass after the other, each in the slot that its provider
had before. -/
theorem refresh_run_ok (b : Board) (service : Service (StateM σ)) (force : Bool) {w : σ}
    {listing : List Credential} (h : (service.credentials.run w).1 = .ok listing) :
    let pass (p : Provider) (w : σ) :=
      ((b.config.adapter p).pass service.toCarrier listing (b.store.slot p)).run w
    let first := pass .antigravity (service.credentials.run w).2
    let second := pass .codex first.2
    let third := pass .geminiCli second.2
    (b.refresh service force).run w =
      ((.ok ⟨first.1.2, second.1.2, third.1.2⟩,
        { b.forgetIf force with store := ⟨first.1.1, second.1.1, third.1.1⟩ }), third.2) := by
  rw [refresh, StateT.run_bind]
  generalize service.credentials.run w = listed at h
  obtain ⟨result, w'⟩ := listed
  obtain rfl : result = .ok listing := h
  cases force <;> rfl

theorem refreshProvider_run_ok (b : Board) (service : Service (StateM σ)) (p : Provider)
    (force : Bool) {w : σ} {listing : List Credential}
    (h : (service.credentials.run w).1 = .ok listing) :
    let done := ((b.config.adapter p).pass service.toCarrier listing (b.store.slot p)).run
      (service.credentials.run w).2
    (b.refreshProvider service p force).run w =
      ((.ok done.1.2, { b.forgetIf force with store := b.store.setSlot p done.1.1 }),
        done.2) := by
  rw [refreshProvider, StateT.run_bind]
  generalize service.credentials.run w = listed at h
  obtain ⟨result, w'⟩ := listed
  obtain rfl : result = .ok listing := h
  cases force <;> rfl

/-- **Each provider has its own pass.**  After a refresh the slot and the summary of a provider
are those of its pass over the listing, from the slot that the provider had before. -/
theorem refresh_pass (b : Board) (service : Service (StateM σ)) (force : Bool) {w : σ}
    {listing : List Credential} (h : (service.credentials.run w).1 = .ok listing) :
    ∃ report, ((b.refresh service force).run w).1.1 = .ok report ∧ ∀ p, ∃ w',
      (((b.refresh service force).run w).1.2.store.slot p, report.summary p) =
        (((b.config.adapter p).pass service.toCarrier listing (b.store.slot p)).run w').1 := by
  rw [refresh_run_ok b service force h]
  refine ⟨_, rfl, fun p => ?_⟩
  cases p <;> exact ⟨_, rfl⟩

/-! ## 3. One turn -/

/-- All that a turn can do. -/
inductive Effect (b : Board) (t : Turn σ) : Answer × Board × List ApiRequest → Prop where
  /-- The turn asks for the key. -/
  | asked {answer : Answer} {keys : KeyCache} {sent : List ApiRequest}
      (hlists : t.action.lists = false) : b.Effect t (answer, { b with keys }, sent)
  /-- The credentials cannot be listed: that is the answer, and nothing is sent. -/
  | unlisted {answer : Answer} {keys : KeyCache} {e : Failure} (hlists : t.action.lists = true)
      (hlisted : t.listed = .error e) (hanswer : answer.failure? = some e) :
      b.Effect t (answer, { b with keys }, [])
  /-- The credentials are listed, and the providers that the turn covers have a pass. -/
  | passed {answer : Answer} {b' : Board} {sent : List ApiRequest} {listing : List Credential}
      (hlists : t.action.lists = true) (hlisted : t.listed = .ok listing)
      (hconfig : b'.config = b.config)
      (hcovered : ∀ p, t.action.covers p = true → ∃ w, b'.store.slot p =
        (((b.config.adapter p).pass t.service.recording.toCarrier listing
          (b.store.slot p)).run w).1.1)
      (hothers : ∀ p, t.action.covers p = false → b'.store.slot p = b.store.slot p) :
      b.Effect t (answer, b', sent)

/-- **A turn does one of these.** -/
theorem take_effect (b : Board) (t : Turn σ) : b.Effect t (b.take t) := by
  obtain ⟨action, service, world⟩ := t
  cases action with
  | primaryKey | testCommand => exact .asked rfl
  | refresh force =>
    obtain ⟨keys, hkeys⟩ := b.forgetIf_eq force
    cases hlisted : (service.recording.credentials.run (world, [])).1 with
    | error e =>
      simp only [take, refresh_run_error b service.recording force hlisted, hkeys]
      exact .unlisted rfl hlisted rfl
    | ok listing =>
      have hrun := refresh_run_ok b service.recording force hlisted
      obtain ⟨_, _, hpass⟩ := refresh_pass b service.recording force hlisted
      refine .passed rfl hlisted ?_ (fun p _ => ?_) (fun p hp => nomatch hp)
      · change ((b.refresh service.recording force).run (world, [])).1.2.config = b.config
        rw [hrun, hkeys]
      · obtain ⟨w, hw⟩ := hpass p
        exact ⟨w, congrArg Prod.fst hw⟩
  | refreshProvider q force =>
    obtain ⟨keys, hkeys⟩ := b.forgetIf_eq force
    cases hlisted : (service.recording.credentials.run (world, [])).1 with
    | error e =>
      simp only [take, refreshProvider_run_error b service.recording q force hlisted, hkeys]
      exact .unlisted rfl hlisted rfl
    | ok listing =>
      simp only [take, refreshProvider_run_ok b service.recording q force hlisted, hkeys]
      refine .passed rfl hlisted rfl (fun p hp => ?_) (fun p hp => ?_)
      · obtain rfl : q = p := of_decide_eq_true hp
        exact ⟨_, Store.slot_setSlot_self _ _ _⟩
      · exact Store.slot_setSlot_of_ne b.store (Ne.symm (of_decide_eq_false hp)) _

@[simp] theorem take_config (b : Board) (t : Turn σ) : (b.take t).2.1.config = b.config := by
  have h := b.take_effect t
  generalize b.take t = out at h
  cases h with
  | asked | unlisted => rfl
  | passed _ _ hconfig => exact hconfig

/-- **Keys are no states.**  A question for the primary key changes no slot. -/
theorem take_store_of_not_lists (b : Board) {t : Turn σ} (h : t.action.lists = false) :
    (b.take t).2.1.store = b.store := by
  have heffect := b.take_effect t
  generalize b.take t = out at heffect
  cases heffect with
  | asked => rfl
  | unlisted hlists | passed hlists => exact absurd (h.symm.trans hlists) (by decide)

/-- **A listing that fails leaves no trace.**  Its failure is the answer, no request is made, and
no slot changes. -/
theorem take_of_unlisted (b : Board) {t : Turn σ} {e : Failure} (hl : t.action.lists = true)
    (h : t.listed = .error e) :
    (b.take t).1.failure? = some e ∧ (b.take t).2.2 = [] ∧ (b.take t).2.1.store = b.store := by
  have heffect := b.take_effect t
  generalize b.take t = out at heffect
  cases heffect with
  | asked hlists => exact absurd (hlists.symm.trans hl) (by decide)
  | unlisted _ hlisted hanswer =>
    obtain rfl := Except.error.inj (h.symm.trans hlisted)
    exact ⟨hanswer, rfl, rfl⟩
  | passed _ hlisted => cases h.symm.trans hlisted

/-- The slot of a provider changes only in a turn that runs its pass. -/
theorem take_slot_of_not_passes (b : Board) {t : Turn σ} {p : Provider} (h : ¬ t.Passes p) :
    (b.take t).2.1.store.slot p = b.store.slot p := by
  have heffect := b.take_effect t
  generalize b.take t = out at heffect
  cases heffect with
  | asked | unlisted => rfl
  | passed _ hlisted _ _ hothers =>
    refine hothers p ?_
    rw [← Bool.not_eq_true]
    exact fun hcovers => h ⟨hcovers, _, hlisted⟩

/-- **A turn that covers a provider and lists the credentials runs its pass.** -/
theorem take_pass (b : Board) {t : Turn σ} {p : Provider} {listing : List Credential}
    (hp : t.action.covers p = true) (h : t.listed = .ok listing) :
    ∃ w, (b.take t).2.1.store.slot p = (((b.config.adapter p).pass t.service.recording.toCarrier
      listing (b.store.slot p)).run w).1.1 := by
  have heffect := b.take_effect t
  generalize b.take t = out at heffect
  cases heffect with
  | asked hlists => exact absurd (hlists.symm.trans (Action.lists_of_covers hp)) (by decide)
  | unlisted _ hlisted => cases h.symm.trans hlisted
  | passed _ hlisted _ hcovered =>
    obtain rfl := Except.ok.inj (h.symm.trans hlisted)
    exact hcovered p hp

/-- A pass leaves the names that the provider fetches, each with the result of a fetch. -/
theorem pass_leaves (config : Config) (p : Provider) (carrier : Carrier (StateM σ))
    (listing : List Credential) (slot : Slot p.Quota) (w : σ) :
    let left := (((config.adapter p).pass carrier listing slot).run w).1.1
    (∀ name, name ∈ left ↔ ∃ c ∈ listing, c.isFetchedBy p = true ∧ c.name = name) ∧
      ∀ (name : String) state, left[name]? = some state → state.isSettled = true := by
  intro left
  obtain ⟨settled, ended, hunderway, hended⟩ :=
    (config.adapter p).pass_underway carrier listing slot w
  have hleft : left = ended.slot := congrArg Prod.fst hended
  rw [hleft]
  constructor
  · intro name
    rw [hunderway.tracks.names name]
    simp [Adapter.targets, Config.accepts_adapter, and_assoc]
  · intro name state hstate
    exact hunderway.tracks.isSettled hstate (hunderway.not_loading name)

/-! ## 4. Any number of turns -/

@[simp] theorem run_config (b : Board) (turns : List (Turn σ)) :
    (b.run turns).config = b.config := by
  induction turns generalizing b with
  | nil => rfl
  | cons t rest ih => rw [run_cons, ih, take_config]

/-- Turns without a pass of a provider leave its slot as it is. -/
theorem run_slot_of_not_passes (b : Board) {turns : List (Turn σ)} {p : Provider}
    (h : ∀ t ∈ turns, ¬ t.Passes p) : (b.run turns).store.slot p = b.store.slot p := by
  induction turns generalizing b with
  | nil => rfl
  | cons t rest ih =>
    rw [run_cons, ih _ fun later hlater => h later (List.mem_cons_of_mem t hlater)]
    exact take_slot_of_not_passes b (h t List.mem_cons_self)

/-- **What the last pass left is what is shown.** -/
theorem run_slot_of_last (b : Board) {before after : List (Turn σ)} {t : Turn σ} {p : Provider}
    (h : ∀ later ∈ after, ¬ later.Passes p) :
    (b.run (before ++ t :: after)).store.slot p =
      ((b.run before).take t).2.1.store.slot p := by
  rw [run_append, run_cons]
  exact run_slot_of_not_passes _ h

/-- **The slots after any turns of a new board.**  The slot of a provider is empty until a turn
runs its pass, and from then on it is what the last such pass left: the names that the provider
fetches of that listing, each with the result of a fetch.  A turn whose listing fails answers that
failure, makes no request and leaves no trace; a refresh of another provider and a question for
the primary key leave the slot as it is. -/
theorem run_slot (config : Config) (turns : List (Turn σ)) (p : Provider) :
    ((∀ t ∈ turns, ¬ t.Passes p) → (({ config } : Board).run turns).store.slot p = ∅) ∧
    (∀ before t after listing, turns = before ++ t :: after →
      t.action.covers p = true → t.listed = .ok listing →
      (∀ later ∈ after, ¬ later.Passes p) →
      let shown := (({ config } : Board).run turns).store.slot p
      shown = ((({ config } : Board).run before).take t).2.1.store.slot p ∧
      (∃ w, shown = (((config.adapter p).pass t.service.recording.toCarrier listing
        ((({ config } : Board).run before).store.slot p)).run w).1.1) ∧
      (∀ name, name ∈ shown ↔ ∃ c ∈ listing, c.isFetchedBy p = true ∧ c.name = name) ∧
      (∀ name, (∀ c ∈ listing, c.name = name → c.disabled = true) → name ∉ shown) ∧
      ∀ (name : String) state, shown[name]? = some state → state.isSettled = true) ∧
    ∀ before t after, turns = before ++ t :: after →
      let b := ({ config } : Board).run before
      (∀ e, t.action.lists = true → t.listed = .error e →
        (b.take t).1.failure? = some e ∧ (b.take t).2.2 = [] ∧
          (b.take t).2.1.store = b.store) ∧
      (∀ q force, t.action = .refreshProvider q force → p ≠ q →
        (b.take t).2.1.store.slot p = b.store.slot p) ∧
      (t.action.lists = false → (b.take t).2.1.store = b.store) := by
  refine ⟨fun h => ?_, ?_, ?_⟩
  · rw [run_slot_of_not_passes _ h]
    exact Store.slot_empty p
  · intro before t after listing hturns hcovers hlisted hlast shown
    have hshown : shown = ((({ config } : Board).run before).take t).2.1.store.slot p := by
      rw [← run_slot_of_last _ hlast, ← hturns]
    obtain ⟨w, hpass⟩ := take_pass (({ config } : Board).run before) hcovers hlisted
    rw [run_config] at hpass
    have hleft := pass_leaves config p t.service.recording.toCarrier listing
      ((({ config } : Board).run before).store.slot p) w
    rw [← hpass, ← hshown] at hleft
    refine ⟨hshown, ⟨w, hshown.trans hpass⟩, hleft.1, ?_, hleft.2⟩
    intro name hdisabled hname
    obtain ⟨c, hc, hfetched, hcname⟩ := (hleft.1 name).mp hname
    have hused := Credential.not_disabled_of_isFetchedBy hfetched
    rw [hdisabled c hc hcname] at hused
    cases hused
  · intro before t after _ b
    refine ⟨fun e hlists he => take_of_unlisted b hlists he, ?_,
      fun h => take_store_of_not_lists b h⟩
    intro q force haction hpq
    refine take_slot_of_not_passes b ?_
    rintro ⟨hcovers, -⟩
    rw [haction] at hcovers
    exact hpq (of_decide_eq_true hcovers).symm

/-- The listing of a script, which comes with its replies. -/
def scriptedListing (listed : Except Failure (List Credential)) :
    Service (StateM (List (Except FetchError ApiReply))) :=
  { scripted with credentials := pure listed, apiKeys := pure (.ok []) }

/-- A credential is disabled between two refreshes, and then a listing fails: the provider shows
the other credential, and not the disabled one. -/
theorem run_slot_disabled :
    let kept := Credential.sampleCodex "a.json" (some "1") false
    let inUse := Credential.sampleCodex "b.json" (some "2") false
    let disabled := Credential.sampleCodex "b.json" (some "2") true
    let first : Turn (List (Except FetchError ApiReply)) :=
      ⟨.refresh true, scriptedListing (.ok [kept, inUse]), []⟩
    let second : Turn (List (Except FetchError ApiReply)) :=
      ⟨.refreshProvider .codex false, scriptedListing (.ok [kept, disabled]), []⟩
    let third : Turn (List (Except FetchError ApiReply)) :=
      ⟨.refresh false, scriptedListing (.error (.unknown "no connection")), []⟩
    let b := ({ config := .default } : Board).run [first, second, third]
    "a.json" ∈ b.store.slot .codex ∧ "b.json" ∉ b.store.slot .codex := by
  intro kept inUse disabled first second third b
  have hlast : ∀ later ∈ [third], ¬ later.Passes .codex := by
    rintro later hlater ⟨-, listing, hlisted⟩
    obtain rfl := List.mem_singleton.mp hlater
    cases hlisted
  obtain ⟨-, -, hnames, hgone, -⟩ := (run_slot .default [first, second, third] .codex).2.1
    [first] second [third] [kept, disabled] rfl rfl rfl hlast
  refine ⟨(hnames "a.json").mpr ⟨kept, by simp, ?_, rfl⟩, hgone "b.json" ?_⟩
  · rw [Credential.isFetchedBy_sampleCodex, Bool.not_false]
  · intro c hc hname
    simp only [List.mem_cons, List.not_mem_nil, or_false] at hc
    rcases hc with rfl | rfl
    · exact absurd hname (by decide)
    · rfl

end Board

end QuotaBoard
