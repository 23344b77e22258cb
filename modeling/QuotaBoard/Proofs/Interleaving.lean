import QuotaBoard.Proofs.Isolation

/-!
# Plans under way, one small step after the other

A plan that has two parts at once goes on in either of them, as replies happen to come.  Here a
plan is carried out in small steps: a request goes out, its reply comes in, a file is read, one of
two parts goes on, both have ended.  Which step is next is nobody's choice, so what is proved of
all runs holds in whatever order the replies come.

* `World` says what is answered if anything is: a request may also stay without a reply.
* `Progress.Step` are the steps, with the requests that they send and the parts that send them.
* `World.foresee` is what becomes of a plan, however its parts take turns: where it comes to a
  standstill, after how many steps, and what each part has sent by then.  `Step.foresee_eq` is that
  each step keeps what is foreseen, so every run ends in the same way (`Run.foresee_eq`).
-/

namespace QuotaBoard

/-! ## 1. Steps -/

/-- What a plan is told: a reply to a request, or none as yet, the content of a token file, and what
the clock shows. -/
structure World where
  reply? : ApiRequest → Option (Except FetchError ApiReply)
  tokenFile : String → Option String
  now : Int

/-- A plan that is being carried out. -/
inductive Progress : Type → Type 1 where
  /-- It is about to do what comes next. -/
  | ready {α : Type} (plan : Fetch α) : Progress α
  /-- A call is out. -/
  | waiting {α : Type} (request : ApiRequest) (next : Except FetchError ApiReply → Fetch α) :
      Progress α
  /-- Two plans are under way at once. -/
  | both {α β γ : Type} (left : Progress β) (right : Progress γ) (next : β → γ → Fetch α) :
      Progress α

/-- One of two plans at once. -/
inductive Side where
  | left
  | right
deriving DecidableEq

/-- A request and the part of the plan that sends it: the sides to take, from the outside in. -/
abbrev Sent := List Side × ApiRequest

/-- The request as one of a part on a side. -/
def Sent.on (side : Side) (sent : Sent) : Sent := (side :: sent.1, sent.2)

/-- The requests that a part has sent. -/
def sentBy (part : List Side) (sent : List Sent) : List ApiRequest :=
  (sent.filter (·.1 = part)).map (·.2)

namespace Progress

/-- The result of a plan that has ended. -/
def result? {α : Type} : Progress α → Option α
  | ready (.done a) => some a
  | _ => none

/-- The calls that are out. -/
def outstanding {α : Type} : Progress α → List ApiRequest
  | ready _ => []
  | waiting request _ => [request]
  | both left right _ => left.outstanding ++ right.outstanding

/-- A single step of a plan, with the requests that it sends. -/
inductive Step (x : World) : {α : Type} → Progress α → List Sent → Progress α → Prop where
  | send {α : Type} (request : ApiRequest) (next : Except FetchError ApiReply → Fetch α) :
      Step x (ready (.call request next)) [([], request)] (waiting request next)
  | hear {α : Type} {request : ApiRequest} {reply : Except FetchError ApiReply}
      (h : x.reply? request = some reply) (next : Except FetchError ApiReply → Fetch α) :
      Step x (waiting request next) [] (ready (next reply))
  | read {α : Type} (name : String) (next : Option String → Fetch α) :
      Step x (ready (.tokenFile name next)) [] (ready (next (x.tokenFile name)))
  | look {α : Type} (next : Int → Fetch α) :
      Step x (ready (.clock next)) [] (ready (next x.now))
  | part {α β γ : Type} (left : Fetch β) (right : Fetch γ) (next : β → γ → Fetch α) :
      Step x (ready (.both left right next)) [] (both (ready left) (ready right) next)
  | left {α β γ : Type} {left left' : Progress β} {sent : List Sent} (h : Step x left sent left')
      (right : Progress γ) (next : β → γ → Fetch α) :
      Step x (both left right next) (sent.map (Sent.on .left)) (both left' right next)
  | right {α β γ : Type} {right right' : Progress γ} {sent : List Sent}
      (h : Step x right sent right') (left : Progress β) (next : β → γ → Fetch α) :
      Step x (both left right next) (sent.map (Sent.on .right)) (both left right' next)
  | join {α β γ : Type} (a : β) (b : γ) (next : β → γ → Fetch α) :
      Step x (both (ready (.done a)) (ready (.done b)) next) [] (ready (next a b))

/-- A run: how many steps it takes, and what is sent on it. -/
inductive Run (x : World) {α : Type} : Progress α → Nat → List Sent → Progress α → Prop where
  | refl (p : Progress α) : Run x p 0 [] p
  | step {p p' p'' : Progress α} {n : Nat} {sent more : List Sent} (h : p.Step x sent p')
      (hrest : Run x p' n more p'') : Run x p (n + 1) (sent ++ more) p''

theorem result?_eq_some_iff {α : Type} {p : Progress α} {a : α} :
    p.result? = some a ↔ p = ready (.done a) := by
  cases p with
  | ready plan => cases plan <;> simp [result?]
  | waiting | both => simp [result?]

end Progress

/-! ## 2. What becomes of a plan -/

/-- What becomes of a plan: where it comes to a standstill, after how many steps, and what each part
has sent by then. -/
@[ext] structure Outlook (α : Type) where
  rest : Progress α
  steps : Nat
  sends : List Side → List ApiRequest

namespace Outlook

variable {α β γ : Type}

/-- A plan that can go no further. -/
def still (p : Progress α) : Outlook α := ⟨p, 0, fun _ => []⟩

/-- The outlook before one more step. -/
def before (o : Outlook α) (sent : List Sent) : Outlook α :=
  ⟨o.rest, o.steps + 1, fun part => sentBy part sent ++ o.sends part⟩

/-- What a part of the whole sends that is the part of a side. -/
def sendsOn (o : Outlook α) (side : Side) : List Side → List ApiRequest
  | [] => []
  | s :: part => if s = side then o.sends part else []

/-- Two plans at once, and what follows if both come to an end. -/
def join (left : Outlook β) (right : Outlook γ) (next : β → γ → Fetch α)
    (afterwards : β → γ → Outlook α) : Outlook α :=
  match left.rest.result?, right.rest.result? with
  | some a, some b =>
    ⟨(afterwards a b).rest, left.steps + right.steps + 1 + (afterwards a b).steps, fun part =>
      left.sendsOn .left part ++ right.sendsOn .right part ++ (afterwards a b).sends part⟩
  | _, _ =>
    ⟨.both left.rest right.rest next, left.steps + right.steps, fun part =>
      left.sendsOn .left part ++ right.sendsOn .right part⟩

end Outlook

namespace World

variable {α β γ : Type}

/-- What becomes of a plan that waits for a reply. -/
def awaiting (x : World) (request : ApiRequest) (next : Except FetchError ApiReply → Fetch α)
    (afterwards : Except FetchError ApiReply → Outlook α) : Outlook α :=
  match x.reply? request with
  | none => .still (.waiting request next)
  | some reply => (afterwards reply).before []

/-- What becomes of a plan from its beginning. -/
def outlook (x : World) {α : Type} : Fetch α → Outlook α
  | .done a => .still (.ready (.done a))
  | .call request next =>
    (x.awaiting request next fun reply => x.outlook (next reply)).before [([], request)]
  | .tokenFile name next => (x.outlook (next (x.tokenFile name))).before []
  | .clock next => (x.outlook (next x.now)).before []
  | .both left right next =>
    ((x.outlook left).join (x.outlook right) next fun a b => x.outlook (next a b)).before []

/-- What becomes of a plan that is under way. -/
def foresee (x : World) {α : Type} : Progress α → Outlook α
  | .ready plan => x.outlook plan
  | .waiting request next => x.awaiting request next fun reply => x.outlook (next reply)
  | .both left right next =>
    (x.foresee left).join (x.foresee right) next fun a b => x.outlook (next a b)

end World

/-! ## 3. Every run comes to this -/

theorem sentBy_nil (part : List Side) : sentBy part [] = [] := rfl

theorem sentBy_append (part : List Side) (sent more : List Sent) :
    sentBy part (sent ++ more) = sentBy part sent ++ sentBy part more := by
  simp [sentBy]

theorem sentBy_on_self (side : Side) (part : List Side) (sent : List Sent) :
    sentBy (side :: part) (sent.map (Sent.on side)) = sentBy part sent := by
  simp [sentBy, List.filter_map, Function.comp_def, Sent.on]

theorem sentBy_on_of_ne {side other : Side} (h : side ≠ other) (part : List Side)
    (sent : List Sent) : sentBy (other :: part) (sent.map (Sent.on side)) = [] := by
  simp [sentBy, List.filter_map, Function.comp_def, Sent.on, h]

theorem sentBy_nil_on (side : Side) (sent : List Sent) :
    sentBy [] (sent.map (Sent.on side)) = [] := by
  simp [sentBy, List.filter_map, Function.comp_def, Sent.on]

namespace Outlook

variable {α β γ : Type}

theorem sendsOn_before (o : Outlook β) (sent : List Sent) (side : Side) (part : List Side) :
    (o.before sent).sendsOn side part =
      sentBy part (sent.map (Sent.on side)) ++ o.sendsOn side part := by
  cases part with
  | nil => simp [sendsOn, sentBy_nil_on]
  | cons s part =>
    by_cases h : s = side
    · subst h
      simp [sendsOn, before, sentBy_on_self]
    · simp [sendsOn, h, sentBy_on_of_ne (Ne.symm h)]

/-- What one side sends does not come before or after what the other one sends, for no part is on
both sides. -/
theorem sendsOn_left_comm (o : Outlook β) (sent : List Sent) (part : List Side) :
    o.sendsOn .left part ++ sentBy part (sent.map (Sent.on .right)) =
      sentBy part (sent.map (Sent.on .right)) ++ o.sendsOn .left part := by
  match part with
  | [] => simp [sendsOn]
  | .left :: part => simp [sentBy_on_of_ne (show Side.right ≠ .left by decide)]
  | .right :: part => simp [sendsOn]

theorem join_before_left (left : Outlook β) (right : Outlook γ) (next : β → γ → Fetch α)
    (afterwards : β → γ → Outlook α) (sent : List Sent) :
    (left.before sent).join right next afterwards =
      (left.join right next afterwards).before (sent.map (Sent.on .left)) := by
  simp only [join, sendsOn_before]
  have hrest : (left.before sent).rest = left.rest := rfl
  have hsteps : (left.before sent).steps = left.steps + 1 := rfl
  rw [hrest, hsteps]
  cases left.rest.result? <;> cases right.rest.result? <;>
    simp only [before, mk.injEq, true_and, List.append_assoc, and_true] <;> omega

theorem join_before_right (left : Outlook β) (right : Outlook γ) (next : β → γ → Fetch α)
    (afterwards : β → γ → Outlook α) (sent : List Sent) :
    left.join (right.before sent) next afterwards =
      (left.join right next afterwards).before (sent.map (Sent.on .right)) := by
  simp only [join, sendsOn_before, ← List.append_assoc, sendsOn_left_comm]
  have hrest : (right.before sent).rest = right.rest := rfl
  have hsteps : (right.before sent).steps = right.steps + 1 := rfl
  rw [hrest, hsteps]
  cases left.rest.result? <;> cases right.rest.result? <;>
    simp only [before, mk.injEq, true_and, List.append_assoc, and_true] <;> omega

theorem sendsOn_still {δ : Type} (p : Progress δ) (side : Side) (part : List Side) :
    (still p).sendsOn side part = [] := by
  cases part <;> simp [sendsOn, still]

/-- Both plans have ended. -/
theorem join_ended (a : β) (b : γ) (next : β → γ → Fetch α) (afterwards : β → γ → Outlook α) :
    (still (.ready (.done a))).join (still (.ready (.done b))) next afterwards =
      (afterwards a b).before [] := by
  simp only [join, sendsOn_still]
  simp [still, Progress.result?, before, sentBy_nil]
  omega

/-- One of the plans stands still without a result, and so does the whole. -/
theorem join_still (left : Progress β) (right : Progress γ) (next : β → γ → Fetch α)
    (afterwards : β → γ → Outlook α)
    (h : ∀ a b, left.result? = some a → right.result? ≠ some b) :
    (still left).join (still right) next afterwards = still (.both left right next) := by
  simp only [join, sendsOn_still]
  cases ha : left.result? with
  | none => simp [still, ha]
  | some a =>
    cases hb : right.result? with
    | none => simp [still, ha, hb]
    | some b => exact absurd hb (h a b ha)

end Outlook

/-- **A step changes nothing of what becomes of a plan.** -/
theorem Progress.Step.foresee_eq {x : World} {α : Type} {p p' : Progress α} {sent : List Sent}
    (h : p.Step x sent p') : x.foresee p = (x.foresee p').before sent := by
  induction h with
  | send request next => rfl
  | hear h next =>
    simp only [World.foresee, World.awaiting, h]
  | read name next => rfl
  | look next => rfl
  | part left right next => rfl
  | left h right next ih => rw [World.foresee, ih, Outlook.join_before_left, World.foresee]
  | right h left next ih => rw [World.foresee, ih, Outlook.join_before_right, World.foresee]
  | join a b next => exact Outlook.join_ended a b next _

/-- **A plan goes on until it stands still.** -/
theorem Progress.exists_step_or_still (x : World) {α : Type} (p : Progress α) :
    (∃ sent p', p.Step x sent p') ∨ x.foresee p = .still p := by
  induction p with
  | ready plan =>
    cases plan with
    | done a => exact .inr rfl
    | call request next => exact .inl ⟨_, _, .send request next⟩
    | tokenFile name next => exact .inl ⟨_, _, .read name next⟩
    | clock next => exact .inl ⟨_, _, .look next⟩
    | both left right next => exact .inl ⟨_, _, .part left right next⟩
  | waiting request next =>
    cases hreply : x.reply? request with
    | none => exact .inr (by simp only [World.foresee, World.awaiting, hreply])
    | some reply => exact .inl ⟨_, _, .hear hreply next⟩
  | both left right next ihleft ihright =>
    rcases ihleft with ⟨sent, left', hleft⟩ | hleft
    · exact .inl ⟨_, _, .left hleft right next⟩
    rcases ihright with ⟨sent, right', hright⟩ | hright
    · exact .inl ⟨_, _, .right hright left next⟩
    by_cases hended : ∃ a b, left.result? = some a ∧ right.result? = some b
    · obtain ⟨a, b, ha, hb⟩ := hended
      obtain rfl := Progress.result?_eq_some_iff.mp ha
      obtain rfl := Progress.result?_eq_some_iff.mp hb
      exact .inl ⟨_, _, .join a b next⟩
    · refine .inr ?_
      rw [World.foresee, hleft, hright]
      exact Outlook.join_still _ _ _ _ fun a b ha hb => hended ⟨a, b, ha, hb⟩

namespace Progress

variable {x : World} {α : Type} {p p' : Progress α} {n : Nat} {sent : List Sent}

/-- **No plan stands still that has steps before it**, and one that has none stands still. -/
theorem still_iff : x.foresee p = .still p ↔ ∀ sent p', ¬ p.Step x sent p' := by
  constructor
  · intro hstill sent p' hstep
    have hsteps := congrArg Outlook.steps (hstep.foresee_eq.symm.trans hstill)
    exact absurd hsteps (Nat.succ_ne_zero _)
  · intro h
    rcases p.exists_step_or_still x with ⟨sent, p', hstep⟩ | hstill
    · exact absurd hstep (h sent p')
    · exact hstill

/-- **A run takes its share of what becomes of the plan.** -/
theorem Run.foresee_eq (h : p.Run x n sent p') :
    (x.foresee p).rest = (x.foresee p').rest ∧ (x.foresee p).steps = n + (x.foresee p').steps ∧
      ∀ part, (x.foresee p).sends part = sentBy part sent ++ (x.foresee p').sends part := by
  induction h with
  | refl p => exact ⟨rfl, (Nat.zero_add _).symm, fun part => by simp [sentBy_nil]⟩
  | @step p p' p'' n sent more h hrest ih =>
    obtain ⟨hend, hsteps, hsends⟩ := ih
    rw [h.foresee_eq]
    refine ⟨hend, ?_, fun part => ?_⟩
    · simp only [Outlook.before, hsteps]
      omega
    · simp only [Outlook.before, hsends, sentBy_append, List.append_assoc]

/-- **A run that can go no further has come to the standstill that was foreseen**, in as many steps,
and each part has sent what was foreseen. -/
theorem Run.eq_of_still (h : p.Run x n sent p') (hstill : ∀ more p'', ¬ p'.Step x more p'') :
    p' = (x.foresee p).rest ∧ n = (x.foresee p).steps ∧
      ∀ part, sentBy part sent = (x.foresee p).sends part := by
  obtain ⟨hend, hsteps, hsends⟩ := h.foresee_eq
  rw [still_iff.mpr hstill] at hend hsteps hsends
  refine ⟨hend.symm, hsteps.symm, fun part => ?_⟩
  rw [hsends part]
  exact (List.append_nil _).symm

/-- **Every run can be carried on to the standstill.** -/
theorem exists_run_rest (x : World) (p : Progress α) :
    ∃ sent, p.Run x (x.foresee p).steps sent (x.foresee p).rest := by
  induction hn : (x.foresee p).steps generalizing p with
  | zero =>
    rcases p.exists_step_or_still x with ⟨sent, p', hstep⟩ | hstill
    · rw [hstep.foresee_eq] at hn
      cases hn
    · rw [hstill]
      exact ⟨[], .refl p⟩
  | succ n ih =>
    rcases p.exists_step_or_still x with ⟨sent, p', hstep⟩ | hstill
    · rw [hstep.foresee_eq] at hn ⊢
      obtain ⟨more, hrun⟩ := ih p' (Nat.succ.inj hn)
      exact ⟨sent ++ more, .step hstep hrun⟩
    · rw [hstill] at hn
      cases hn

/-- What was foreseen to be the standstill is one. -/
theorem foresee_rest (x : World) (p : Progress α) :
    x.foresee (x.foresee p).rest = .still (x.foresee p).rest := by
  obtain ⟨sent, hrun⟩ := exists_run_rest x p
  obtain ⟨-, hsteps, -⟩ := hrun.foresee_eq
  rcases (x.foresee p).rest.exists_step_or_still x with ⟨more, p', hstep⟩ | hstill
  · rw [hstep.foresee_eq] at hsteps
    simp only [Outlook.before] at hsteps
    omega
  · exact hstill

end Progress

/-! ## 4. Where every request is answered -/

/-- However its parts take turns, the plan comes to this result, and each part sends these
requests: no run goes on for ever, and one that cannot go on has ended so. -/
def Fetch.ComesTo (x : World) {α : Type} (plan : Fetch α) (result : α)
    (sends : List Side → List ApiRequest) : Prop :=
  ∃ steps, ∀ n sent p, (Progress.ready plan).Run x n sent p → n ≤ steps ∧
    ((∃ more p', p.Step x more p') ∨
      (p = .ready (.done result) ∧ n = steps ∧ ∀ part, sentBy part sent = sends part))

/-- The world in which these answers are given. -/
def Answers.world (x : Answers) : World :=
  ⟨fun request => some (x.call request), x.tokenFile, x.now⟩

/-- A plan of which every request is answered ends, and with the result that it has when its steps
are carried out one after the other. -/
theorem Answers.rest_outlook (x : Answers) {α : Type} (plan : Fetch α) :
    (x.world.outlook plan).rest = .ready (.done (x.result plan)) := by
  induction plan with
  | done result => rfl
  | call request next ih => exact ih (x.call request)
  | tokenFile name next ih => exact ih (x.tokenFile name)
  | clock next ih => exact ih x.now
  | both left right next ihleft ihright ihnext =>
    have hrest := ihnext (x.result left) (x.result right)
    simp only [World.outlook, Outlook.before, Outlook.join, ihleft, ihright, Progress.result?]
    exact hrest

/-- **With every request answered, there is one result**, whatever the order of the replies. -/
theorem Answers.comesTo (x : Answers) {α : Type} (plan : Fetch α) :
    plan.ComesTo x.world (x.result plan) (x.world.outlook plan).sends := by
  refine ⟨(x.world.outlook plan).steps, fun n sent p hrun => ⟨?_, ?_⟩⟩
  · exact hrun.foresee_eq.2.1.symm ▸ Nat.le_add_right n _
  · by_cases hstill : ∃ more p', p.Step x.world more p'
    · exact .inl hstill
    · obtain ⟨hrest, hsteps, hsends⟩ :=
        hrun.eq_of_still fun more p' h => hstill ⟨more, p', h⟩
      exact .inr ⟨hrest.trans (x.rest_outlook plan), hsteps, hsends⟩

/-! ## 5. Where no request is answered -/

/-- The world in which token files and the clock can be read and no request is answered. -/
def World.mute (files : String → Option String) (now : Int) : World := ⟨fun _ => none, files, now⟩

/-- How far a plan has got that stands still. -/
def Progress.standstill {α : Type} (p : Progress α) : Fetch.Standstill α :=
  match p.result? with
  | some a => .settled a
  | none => .waiting p.outstanding

theorem Progress.requests_standstill {α : Type} (p : Progress α) :
    p.standstill.requests = p.outstanding := by
  unfold standstill
  cases hp : p.result? with
  | none => rfl
  | some a =>
    obtain rfl := result?_eq_some_iff.mp hp
    rfl

/-- **Without replies a plan gets as far as `beforeReplies` says.** -/
theorem World.standstill_rest_mute (files : String → Option String) (now : Int) {α : Type}
    (plan : Fetch α) :
    ((mute files now).outlook plan).rest.standstill = plan.beforeReplies files now := by
  induction plan with
  | done result => rfl
  | call request next ih => rfl
  | tokenFile name next ih => exact ih (files name)
  | clock next ih => exact ih now
  | both left right next ihleft ihright ihnext =>
    rw [Fetch.beforeReplies, ← ihleft, ← ihright]
    simp only [World.outlook, Outlook.before, Outlook.join]
    generalize ((mute files now).outlook left).rest = l
    generalize ((mute files now).outlook right).rest = r
    have hwaiting : (Progress.both l r next).standstill =
        .waiting (l.standstill.requests ++ r.standstill.requests) := by
      rw [l.requests_standstill, r.requests_standstill]
      rfl
    cases ha : l.result? with
    | none =>
      have hl : l.standstill = .waiting l.outstanding := by rw [Progress.standstill, ha]
      rw [hl] at hwaiting ⊢
      exact hwaiting
    | some a =>
      obtain rfl := Progress.result?_eq_some_iff.mp ha
      cases hb : r.result? with
      | none =>
        have hr : r.standstill = .waiting r.outstanding := by rw [Progress.standstill, hb]
        rw [hr] at hwaiting ⊢
        exact hwaiting
      | some b =>
        obtain rfl := Progress.result?_eq_some_iff.mp hb
        exact ihnext a b

end QuotaBoard
