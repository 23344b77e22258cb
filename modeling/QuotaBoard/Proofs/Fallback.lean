import QuotaBoard.Management.Client
import QuotaBoard.Proofs.FirstFound
import QuotaBoard.Proofs.Recording

/-!
# Which address decides the Antigravity quota

The addresses for the quota are asked one after the other, and each reply says one of three
things: some groups, no groups, or an error.  Groups end the matter at once.  Otherwise all
addresses are asked, and what they said is weighed at the end: one answer in the right form
outweighs every error, the vendor's own refusal outweighs other errors, and among equals the
first refusal and the last other error count.

* `Says` lists the kinds of reply and what each says; `judge_eq_iff` is that `judge` reads them so.
* `Ledger.after` is the ledger of a whole line of addresses, and `lineRun_groups` and
  `lineRun_no_groups` are the two ways in which the line can go.
* `exists_verdict_error_iff` is when the verdict of a ledger is an error, and `exists_reported` is
  whose error it is then.
-/

namespace QuotaBoard.Antigravity

/-- What came back for a request. -/
abbrev Answer := Except FetchError ApiReply

/-! ## 1. What a reply says -/

/-- What an answer says about the quota: one case for each kind of answer. -/
inductive Says : Answer → Candidate → Prop where
  /-- The call failed. -/
  | lost (e : FetchError) : Says (.error e) (.failed e)
  /-- The vendor refused. -/
  | refused {reply : ApiReply} (h : reply.isSuccess = false) :
      Says (.ok reply) (.failed (.vendorStatus reply.status reply.errorMessage))
  /-- A success that is not JSON. -/
  | unread {reply : ApiReply} (h : reply.isSuccess = true) (hbody : reply.body = none) :
      Says (.ok reply) (.failed (.parse "Failed to parse Antigravity quota response"))
  /-- JSON without an object of models. -/
  | noModels {reply : ApiReply} {payload : Json} (h : reply.isSuccess = true)
      (hbody : reply.body = some payload)
      (hmodels : ∀ models, payload.objectAt? "models" ≠ some (.object models)) :
      Says (.ok reply) (.failed (.emptyPayload "No models in Antigravity quota response"))
  /-- Models of which none makes a group. -/
  | noGroups {reply : ApiReply} {payload : Json} {models : List (String × Json)}
      (h : reply.isSuccess = true) (hbody : reply.body = some payload)
      (hmodels : payload.objectAt? "models" = some (.object models))
      (hgroups : groupsOf models = []) : Says (.ok reply) .noGroups
  /-- Models that make groups. -/
  | groups {reply : ApiReply} {payload : Json} {models : List (String × Json)}
      {found : List Group} (h : reply.isSuccess = true) (hbody : reply.body = some payload)
      (hmodels : payload.objectAt? "models" = some (.object models))
      (hgroups : groupsOf models = found) (hfound : found ≠ []) :
      Says (.ok reply) (.groups found)

/-- The members of a field that holds an object. -/
theorem members_objectAt? (payload : Json) (key : String) (members : List (String × Json)) :
    (payload.objectAt? key).bind Json.members? = some members ↔
      payload.objectAt? key = some (.object members) := by
  rw [Option.bind_eq_some_iff]
  constructor
  · rintro ⟨v, hv, hmembers⟩
    cases v <;> simp_all [Json.members?]
  · intro h
    exact ⟨_, h, rfl⟩

theorem Says.judge_eq {answer : Answer} {said : Candidate} (h : Says answer said) :
    judge answer = said := by
  cases h with
  | lost e => rfl
  | refused h => simp [judge, h, ApiReply.statusError]
  | unread h hbody => simp [judge, h, hbody]
  | @noModels reply payload h hbody hmodels =>
    have hnone : (payload.objectAt? "models").bind Json.members? = none := by
      rw [Option.eq_none_iff_forall_ne_some]
      intro models hsome
      exact hmodels models ((members_objectAt? payload "models" models).mp hsome)
    simp [judge, h, hbody, hnone]
  | noGroups h hbody hmodels hgroups =>
    simp [judge, h, hbody, (members_objectAt? _ _ _).mpr hmodels, hgroups]
  | @groups reply payload models found h hbody hmodels hgroups hfound =>
    cases found with
    | nil => exact absurd rfl hfound
    | cons g rest => simp [judge, h, hbody, (members_objectAt? _ _ _).mpr hmodels, hgroups]

/-- Every answer is of one of the kinds. -/
theorem exists_says (answer : Answer) : ∃ said, Says answer said := by
  cases answer with
  | error e => exact ⟨_, .lost e⟩
  | ok reply =>
    cases hsuccess : reply.isSuccess with
    | false => exact ⟨_, .refused hsuccess⟩
    | true =>
      cases hbody : reply.body with
      | none => exact ⟨_, .unread hsuccess hbody⟩
      | some payload =>
        by_cases hmodels : ∃ models, payload.objectAt? "models" = some (.object models)
        · obtain ⟨models, hmodels⟩ := hmodels
          by_cases hgroups : groupsOf models = []
          · exact ⟨_, .noGroups hsuccess hbody hmodels hgroups⟩
          · exact ⟨_, .groups hsuccess hbody hmodels rfl hgroups⟩
        · exact ⟨_, .noModels hsuccess hbody (not_exists.mp hmodels)⟩

/-- **`judge` reads every answer for what it says.** -/
theorem judge_eq_iff {answer : Answer} {said : Candidate} :
    judge answer = said ↔ Says answer said := by
  constructor
  · rintro rfl
    obtain ⟨said, h⟩ := exists_says answer
    rwa [h.judge_eq]
  · exact Says.judge_eq

/-! ## 2. The ledger of a line of addresses -/

/-- The ledger after an answer that gave no groups. -/
def Ledger.note (l : Ledger) : Candidate → Ledger
  | .groups _ => l
  | .noGroups => { l with answered := true }
  | .failed e => l.record e

/-- The ledger after some answers that gave no groups. -/
def Ledger.after (l : Ledger) (answers : List Answer) : Ledger :=
  answers.foldl (fun l answer => l.note (judge answer)) l

/-- The error of an answer that gives none but that. -/
def errorOf? (answer : Answer) : Option FetchError :=
  match judge answer with
  | .failed e => some e
  | _ => none

theorem errorOf?_eq_some {answer : Answer} {e : FetchError} :
    errorOf? answer = some e ↔ Says answer (.failed e) := by
  rw [← judge_eq_iff, errorOf?]
  cases judge answer <;> simp

theorem Ledger.after_answered (l : Ledger) (answers : List Answer) :
    (l.after answers).answered = true ↔
      l.answered = true ∨ ∃ answer ∈ answers, Says answer .noGroups := by
  induction answers generalizing l with
  | nil => simp [after]
  | cons answer rest ih =>
    have hrest : (l.after (answer :: rest)) = (l.note (judge answer)).after rest := rfl
    rw [hrest, ih]
    cases hsaid : judge answer <;>
      simp [note, Ledger.record, ← judge_eq_iff, hsaid]

theorem Ledger.after_definitive (l : Ledger) (answers : List Answer) :
    (l.after answers).definitive =
      l.definitive.or ((answers.filterMap errorOf?).find? (·.isDefinitive)) := by
  induction answers generalizing l with
  | nil => simp [after]
  | cons answer rest ih =>
    have hrest : (l.after (answer :: rest)) = (l.note (judge answer)).after rest := rfl
    rw [hrest, ih]
    cases hsaid : judge answer with
    | groups found => simp [note, errorOf?, hsaid]
    | noGroups => simp [note, errorOf?, hsaid]
    | failed e =>
      cases hdef : e.isDefinitive <;>
        simp [note, Ledger.record, errorOf?, hsaid, hdef]

theorem Ledger.after_last (l : Ledger) (answers : List Answer) :
    (l.after answers).last = ((answers.filterMap errorOf?).getLast?).or l.last := by
  induction answers generalizing l with
  | nil => simp [after]
  | cons answer rest ih =>
    have hrest : (l.after (answer :: rest)) = (l.note (judge answer)).after rest := rfl
    rw [hrest, ih]
    cases hsaid : judge answer with
    | groups found => simp [note, errorOf?, hsaid]
    | noGroups => simp [note, errorOf?, hsaid]
    | failed e =>
      simp only [note, Ledger.record, errorOf?, hsaid, List.filterMap_cons, List.getLast?_cons]
      cases (rest.filterMap errorOf?).getLast? <;> rfl

/-! ## 3. The two ways in which the line can go -/

section Line

variable (authIndex project : String)

/-- The quota line with a ledger, asking some addresses in a world with some answers left, after
some requests. -/
def lineRun (l : Ledger) (urls : List String) (answers : List Answer) (sent : List ApiRequest) :
    Except FetchError (List Group) × List Answer × List ApiRequest :=
  ((askQuota authIndex project l urls).run scripted.recording).run (answers, sent)

theorem lineRun_nil (l : Ledger) (sent : List ApiRequest) :
    lineRun authIndex project l [] [] sent = (l.verdict, [], sent) := rfl

/-- One address: groups end the line, anything else is noted and the line goes on. -/
theorem lineRun_cons (l : Ledger) (url : String) (urls : List String) (answer : Answer)
    (answers : List Answer) (sent : List ApiRequest) :
    lineRun authIndex project l (url :: urls) (answer :: answers) sent =
      match judge answer with
      | .groups found => (.ok found, answers, sent ++ [quotaRequest authIndex project url])
      | said => lineRun authIndex project (l.note said) urls answers
          (sent ++ [quotaRequest authIndex project url]) := by
  rw [lineRun, askQuota]
  cases hsaid : judge answer <;> simp [hsaid, lineRun, Ledger.note]

/-- **The line stops at the first answer with groups.**  Those before it are asked, those after
it are not, and the groups are the answer's own. -/
theorem lineRun_groups (l : Ledger) (before : List (String × Answer)) (url : String)
    (answer : Answer) (after : List (String × Answer)) (found : List Group)
    (hbefore : ∀ x ∈ before, ∀ earlier, ¬ Says x.2 (.groups earlier))
    (h : Says answer (.groups found)) (sent : List ApiRequest) :
    lineRun authIndex project l ((before ++ (url, answer) :: after).map (·.1))
        ((before ++ (url, answer) :: after).map (·.2)) sent =
      (.ok found, after.map (·.2),
        sent ++ (before.map (·.1) ++ [url]).map (quotaRequest authIndex project)) := by
  induction before generalizing l sent with
  | nil =>
    rw [List.nil_append, List.map_cons, List.map_cons, lineRun_cons, h.judge_eq]
    rfl
  | cons x rest ih =>
    have hx := hbefore x (by simp)
    have hrest : ∀ y ∈ rest, ∀ earlier, ¬ Says y.2 (.groups earlier) :=
      fun y hy => hbefore y (by simp [hy])
    rw [List.cons_append, List.map_cons, List.map_cons, lineRun_cons]
    cases hsaid : judge x.2 with
    | groups earlier => exact absurd (judge_eq_iff.mp hsaid) (hx earlier)
    | noGroups =>
      simpa using ih (l.note .noGroups) hrest (sent ++ [quotaRequest authIndex project x.1])
    | failed e =>
      simpa using ih (l.note (.failed e)) hrest (sent ++ [quotaRequest authIndex project x.1])

/-- **Without groups the line asks all addresses** and ends with the verdict of its ledger. -/
theorem lineRun_no_groups (l : Ledger) (candidates : List (String × Answer))
    (h : ∀ x ∈ candidates, ∀ found, ¬ Says x.2 (.groups found)) (sent : List ApiRequest) :
    lineRun authIndex project l (candidates.map (·.1)) (candidates.map (·.2)) sent =
      ((l.after (candidates.map (·.2))).verdict, [],
        sent ++ candidates.map fun x => quotaRequest authIndex project x.1) := by
  induction candidates generalizing l sent with
  | nil => simp [lineRun_nil, Ledger.after]
  | cons x rest ih =>
    have hx := h x (by simp)
    have hrest : ∀ y ∈ rest, ∀ found, ¬ Says y.2 (.groups found) :=
      fun y hy => h y (by simp [hy])
    rw [List.map_cons, List.map_cons, lineRun_cons]
    cases hsaid : judge x.2 with
    | groups found => exact absurd (judge_eq_iff.mp hsaid) (hx found)
    | noGroups =>
      simpa [Ledger.after, hsaid] using
        ih (l.note .noGroups) hrest (sent ++ [quotaRequest authIndex project x.1])
    | failed e =>
      simpa [Ledger.after, hsaid] using
        ih (l.note (.failed e)) hrest (sent ++ [quotaRequest authIndex project x.1])

end Line

/-! ## 4. The verdict -/

/-- A refusal that settles the matter: the vendor itself answered with 403 or 404. -/
def Refusal (e : FetchError) : Prop :=
  ∃ status message, e = .vendorStatus status message ∧ (status = 403 ∨ status = 404)

theorem isDefinitive_iff (e : FetchError) : e.isDefinitive = true ↔ Refusal e := by
  cases e <;> simp [FetchError.isDefinitive, Refusal]

/-- A refusal by the management API is never one by the vendor, whatever its status. -/
theorem not_refusal_toFetchError (e : Management.ClientError) : ¬ Refusal e.toFetchError := by
  rintro ⟨status, message, h, -⟩
  cases e <;> simp [Management.ClientError.toFetchError] at h

/-- The verdict on answers in the right form. -/
theorem verdict_answered {answers : List Answer} (h : ∃ answer ∈ answers, Says answer .noGroups) :
    (Ledger.after {} answers).verdict = .ok [] := by
  rw [Ledger.verdict, if_pos ((Ledger.after_answered {} answers).mpr (Or.inr h))]

/-- The verdict when no answer is in the right form. -/
theorem verdict_failed {answers : List Answer} (h : ∀ answer ∈ answers, ¬ Says answer .noGroups) :
    (Ledger.after {} answers).verdict =
      .error ((((answers.filterMap errorOf?).find? (·.isDefinitive)).or
        (answers.filterMap errorOf?).getLast?).getD
          (.configuration "No Antigravity quota endpoints configured")) := by
  have hanswered : ¬ (Ledger.after {} answers).answered = true := by
    rw [Ledger.after_answered]
    rintro (hfalse | ⟨answer, hmem, hsays⟩)
    · exact absurd hfalse (by simp)
    · exact h answer hmem hsays
  rw [Ledger.verdict, if_neg hanswered, Ledger.after_definitive, Ledger.after_last]
  simp

/-- The first refusal is found before all later errors. -/
theorem find?_refusal {before after : List Answer} {answer : Answer} {e : FetchError}
    (h : Says answer (.failed e)) (hrefusal : Refusal e)
    (hbefore : ∀ y ∈ before, ∀ e', Says y (.failed e') → ¬ Refusal e') :
    ((before ++ answer :: after).filterMap errorOf?).find? (·.isDefinitive) = some e := by
  have hnone : (before.filterMap errorOf?).find? (·.isDefinitive) = none := by
    rw [List.find?_eq_none]
    intro e' he' hdef
    obtain ⟨y, hy, hey⟩ := List.mem_filterMap.mp he'
    exact hbefore y hy e' (errorOf?_eq_some.mp hey) ((isDefinitive_iff e').mp hdef)
  have hdef : e.isDefinitive = true := (isDefinitive_iff e).mpr hrefusal
  rw [List.filterMap_append, List.find?_append, hnone, List.filterMap_cons,
    errorOf?_eq_some.mpr h]
  simp [hdef]

theorem find?_no_refusal {answers : List Answer}
    (h : ∀ y ∈ answers, ∀ e, Says y (.failed e) → ¬ Refusal e) :
    (answers.filterMap errorOf?).find? (·.isDefinitive) = none := by
  rw [List.find?_eq_none]
  intro e he hdef
  obtain ⟨y, hy, hey⟩ := List.mem_filterMap.mp he
  exact h y hy e (errorOf?_eq_some.mp hey) ((isDefinitive_iff e).mp hdef)

theorem getLast?_errors {init : List Answer} {answer : Answer} {e : FetchError}
    (h : Says answer (.failed e)) :
    ((init ++ [answer]).filterMap errorOf?).getLast? = some e := by
  simp [List.filterMap_append, errorOf?_eq_some.mpr h]

/-- No candidate gave groups or answered in the right form. -/
def AllFail (candidates : List (String × Answer)) : Prop :=
  ∀ x ∈ candidates, ∃ e, Says x.2 (.failed e)

/-- Of candidates that all fail none answered in the right form. -/
theorem AllFail.not_noGroups {candidates : List (String × Answer)} (h : AllFail candidates) :
    ∀ answer ∈ candidates.map (·.2), ¬ Says answer .noGroups := by
  rw [List.forall_mem_map]
  intro x hx hsays
  obtain ⟨e, hfailed⟩ := h x hx
  cases hsays.judge_eq.symm.trans hfailed.judge_eq

/-- **The verdict is an error exactly when all candidates fail.** -/
theorem exists_verdict_error_iff {candidates : List (String × Answer)}
    (hgroups : ∀ x ∈ candidates, ∀ found, ¬ Says x.2 (.groups found)) :
    (∃ e, (Ledger.after {} (candidates.map (·.2))).verdict = .error e) ↔ AllFail candidates := by
  constructor
  · rintro ⟨e, hverdict⟩ x hx
    obtain ⟨said, hsaid⟩ := exists_says x.2
    cases said with
    | groups found => exact absurd hsaid (hgroups x hx found)
    | noGroups =>
      rw [verdict_answered ⟨x.2, List.mem_map_of_mem hx, hsaid⟩] at hverdict
      cases hverdict
    | failed e' => exact ⟨e', hsaid⟩
  · intro hall
    rw [verdict_failed hall.not_noGroups]
    exact ⟨_, rfl⟩

/-- An answer is a refusal that settles the matter. -/
def Refuses (answer : Answer) : Prop := ∃ e, Says answer (.failed e) ∧ Refusal e

/-- The candidate that is reported of those that were asked: the first whose refusal settles the
matter or, if there is none, the last. -/
def Reported (candidates : List (String × Answer)) (x : String × Answer) : Prop :=
  ∃ before after, candidates = before ++ x :: after ∧
    (Refuses x.2 ∧ (∀ y ∈ before, ¬ Refuses y.2) ∨ after = [] ∧ ∀ y ∈ candidates, ¬ Refuses y.2)

/-- **The error of a verdict is that of the candidate that is reported.** -/
theorem exists_reported {candidates : List (String × Answer)} {e : FetchError}
    (hall : AllFail candidates) (hne : candidates ≠ [])
    (hverdict : (Ledger.after {} (candidates.map (·.2))).verdict = .error e) :
    ∃ x, Reported candidates x ∧ Says x.2 (.failed e) := by
  rw [verdict_failed hall.not_noGroups, Except.error.injEq] at hverdict
  by_cases hrefuses : ∃ x ∈ candidates, Refuses x.2
  · obtain ⟨before, x, after, rfl, hx, hbefore⟩ := exists_first hrefuses
    obtain ⟨e', hsays, hrefusal⟩ := id hx
    have hfirst : ∀ y ∈ before.map (·.2), ∀ e', Says y (.failed e') → ¬ Refusal e' :=
      List.forall_mem_map.mpr fun y hy e' hsays' hrefusal' => hbefore y hy ⟨e', hsays', hrefusal'⟩
    rw [List.map_append, List.map_cons, find?_refusal hsays hrefusal hfirst] at hverdict
    obtain rfl : e' = e := hverdict
    exact ⟨x, ⟨before, after, rfl, .inl ⟨hx, hbefore⟩⟩, hsays⟩
  · have hnone : ∀ x ∈ candidates, ¬ Refuses x.2 := fun x hx hr => hrefuses ⟨x, hx, hr⟩
    obtain ⟨init, x, rfl⟩ := List.eq_nil_or_concat candidates |>.resolve_left hne
    rw [List.concat_eq_append] at *
    obtain ⟨last, hsaid⟩ := hall x (by simp)
    have hno : ∀ y ∈ (init ++ [x]).map (·.2), ∀ e', Says y (.failed e') → ¬ Refusal e' :=
      List.forall_mem_map.mpr fun y hy e' hsays' hrefusal' => hnone y hy ⟨e', hsays', hrefusal'⟩
    rw [find?_no_refusal hno, List.map_append, List.map_singleton, getLast?_errors hsaid]
      at hverdict
    obtain rfl : last = e := hverdict
    exact ⟨x, ⟨init, [], rfl, .inr ⟨rfl, hnone⟩⟩, hsaid⟩

/-- The error of a verdict is one that an address gave: the last one, or else a refusal. -/
theorem verdict_error {candidates : List (String × Answer)} (hne : candidates ≠ [])
    (hgroups : ∀ x ∈ candidates, ∀ found, ¬ Says x.2 (.groups found)) {e : FetchError}
    (h : (Ledger.after {} (candidates.map (·.2))).verdict = .error e) :
    ∃ before x after, candidates = before ++ x :: after ∧ Says x.2 (.failed e) ∧
      (after = [] ∨ Refusal e) := by
  have hall : AllFail candidates := (exists_verdict_error_iff hgroups).mp ⟨e, h⟩
  obtain ⟨x, ⟨before, after, hsplit, hx⟩, hsays⟩ := exists_reported hall hne h
  refine ⟨before, x, after, hsplit, hsays, ?_⟩
  rcases hx with ⟨⟨e', hsays', hrefusal⟩, -⟩ | ⟨hlast, -⟩
  · obtain rfl : e' = e := Candidate.failed.inj (hsays'.judge_eq.symm.trans hsays.judge_eq)
    exact .inr hrefusal
  · exact .inl hlast

/-- The quota line decides what becomes of the whole fetch. -/
theorem fetch_groups {σ : Type} (s : Settings) {c : Credential} {authIndex : String}
    (h : c.authIndex? = some authIndex) (carrier : Carrier (StateM σ)) (w : σ) :
    (((s.fetch c).run carrier).run w).1.map Quota.groups =
      (((askQuota authIndex (s.project ((carrier.tokenFile c.name).run w).1) {}
        s.quotaUrls).run carrier).run ((carrier.tokenFile c.name).run w).2).1 := by
  rw [Settings.fetch, h, Fetch.run_tokenFile, Fetch.run_both]
  simp only [Fetch.run_done]
  generalize ((askQuota authIndex _ {} s.quotaUrls).run carrier).run _ = line
  obtain ⟨result, w'⟩ := line
  cases result <;> rfl

/-! ## 5. Summary -/

/-- Among some addresses of which one gives groups there is a first one that does. -/
theorem exists_first_groups {candidates : List (String × Answer)}
    (h : ∃ x ∈ candidates, ∃ found, Says x.2 (.groups found)) :
    ∃ before url answer after found, candidates = before ++ (url, answer) :: after ∧
      (∀ x ∈ before, ∀ earlier, ¬ Says x.2 (.groups earlier)) ∧ Says answer (.groups found) := by
  obtain ⟨before, ⟨url, answer⟩, after, hsplit, ⟨found, hfound⟩, hbefore⟩ := exists_first h
  exact ⟨before, url, answer, after, found, hsplit,
    fun x hx earlier hsays => hbefore x hx ⟨earlier, hsays⟩, hfound⟩

/-- **How the addresses for the quota are tried.**  `candidates` are the addresses, each with the
answer it would give.  The line asks them in order and stops at the first that gives groups.  If
none does it asks all of them: one answer in the right form is enough for an empty quota, else the
first refusal counts, else the last error.  So an error is always one that an address gave, and
one that the management API gave is not preferred to a later one.  A fetch has the groups or the
error of its quota line. -/
theorem askQuota_falls_back {σ : Type} (authIndex project : String)
    (candidates : List (String × Answer)) :
    let line := ((askQuota authIndex project {} (candidates.map (·.1))).run
      scripted.recording).run (candidates.map (·.2), [])
    (∀ before url answer after found, candidates = before ++ (url, answer) :: after →
      (∀ x ∈ before, ∀ earlier, ¬ Says x.2 (.groups earlier)) → Says answer (.groups found) →
      line.1 = .ok found ∧
        line.2.2 = (before.map (·.1) ++ [url]).map (quotaRequest authIndex project)) ∧
    ((∀ x ∈ candidates, ∀ found, ¬ Says x.2 (.groups found)) →
      line.2.2 = candidates.map (fun x => quotaRequest authIndex project x.1) ∧
      ((∃ x ∈ candidates, Says x.2 .noGroups) → line.1 = .ok []) ∧
      ((∀ x ∈ candidates, ¬ Says x.2 .noGroups) →
        (∀ before url answer after e, candidates = before ++ (url, answer) :: after →
          Says answer (.failed e) → Refusal e →
          (∀ x ∈ before, ∀ e', Says x.2 (.failed e') → ¬ Refusal e') → line.1 = .error e) ∧
        (∀ before url answer e, candidates = before ++ [(url, answer)] →
          Says answer (.failed e) →
          (∀ x ∈ candidates, ∀ e', Says x.2 (.failed e') → ¬ Refusal e') →
          line.1 = .error e) ∧
        (candidates = [] →
          line.1 = .error (.configuration "No Antigravity quota endpoints configured")))) ∧
    (candidates ≠ [] → ∀ e, line.1 = .error e →
      ∃ before x after, candidates = before ++ x :: after ∧ Says x.2 (.failed e) ∧
        (after = [] ∨ Refusal e)) ∧
    (∀ e : Management.ClientError, ¬ Refusal e.toFetchError) ∧
    (∀ (s : Settings) (c : Credential), c.authIndex? = some authIndex →
      ∀ (carrier : Carrier (StateM σ)) (w : σ),
        (((s.fetch c).run carrier).run w).1.map Quota.groups =
          (((askQuota authIndex (s.project ((carrier.tokenFile c.name).run w).1) {}
            s.quotaUrls).run carrier).run ((carrier.tokenFile c.name).run w).2).1) := by
  intro line
  have hgroups : ∀ before url answer after found,
      candidates = before ++ (url, answer) :: after →
      (∀ x ∈ before, ∀ earlier, ¬ Says x.2 (.groups earlier)) → Says answer (.groups found) →
      line.1 = .ok found ∧
        line.2.2 = (before.map (·.1) ++ [url]).map (quotaRequest authIndex project) := by
    rintro before url answer after found rfl hbefore hfound
    have h := lineRun_groups authIndex project {} before url answer after found hbefore hfound []
    rw [List.nil_append] at h
    exact ⟨congrArg (·.1) h, congrArg (·.2.2) h⟩
  have hall : (∀ x ∈ candidates, ∀ found, ¬ Says x.2 (.groups found)) →
      line.1 = (Ledger.after {} (candidates.map (·.2))).verdict ∧
        line.2.2 = candidates.map fun x => quotaRequest authIndex project x.1 := by
    intro hnone
    have h := lineRun_no_groups authIndex project {} candidates hnone []
    rw [List.nil_append] at h
    exact ⟨congrArg (·.1) h, congrArg (·.2.2) h⟩
  refine ⟨hgroups, fun hnone => ?_, fun hne e herror => ?_, not_refusal_toFetchError,
    fun s c h carrier w => fetch_groups s h carrier w⟩
  · obtain ⟨hverdict, hsent⟩ := hall hnone
    refine ⟨hsent, fun hanswered => ?_, fun hfailed => ?_⟩
    · obtain ⟨x, hx, hsays⟩ := hanswered
      rw [hverdict, verdict_answered ⟨x.2, List.mem_map_of_mem hx, hsays⟩]
    · rw [hverdict, verdict_failed (List.forall_mem_map.mpr hfailed)]
      refine ⟨?_, ?_, ?_⟩
      · rintro before url answer after e rfl hsays hrefusal hbefore
        rw [List.map_append, List.map_cons,
          find?_refusal hsays hrefusal (List.forall_mem_map.mpr hbefore)]
        rfl
      · rintro before url answer e rfl hsays hno
        rw [find?_no_refusal (List.forall_mem_map.mpr hno), List.map_append, List.map_singleton,
          getLast?_errors hsays]
        rfl
      · rintro rfl
        rfl
  · -- an error means that no address gave groups
    have hnone : ∀ x ∈ candidates, ∀ found, ¬ Says x.2 (.groups found) := by
      intro x hx found hsays
      obtain ⟨before, url, answer, after, first, hsplit, hbefore, hfirst⟩ :=
        exists_first_groups ⟨x, hx, found, hsays⟩
      rw [(hgroups before url answer after first hsplit hbefore hfirst).1] at herror
      exact absurd herror (by simp)
    rw [(hall hnone).1] at herror
    exact verdict_error hne hnone herror

/-- The management API refuses with 403, the vendor with 404 and then with 500: all three are asked
and the vendor's 404 counts. -/
theorem askQuota_falls_back_refused :
    let unreached : Answer := .error (Management.ClientError.serverError 403 "").toFetchError
    let gone : ApiReply := ⟨404, none, "gone"⟩
    let busy : ApiReply := ⟨500, none, "busy"⟩
    (((askQuota "7" "p" {} ["https://a", "https://b", "https://c"]).run scripted.recording).run
      ([unreached, .ok gone, .ok busy], [])).1 = .error gone.statusError := by
  intro unreached gone busy
  have hgone : gone.isSuccess = false := by decide
  have hbusy : busy.isSuccess = false := by decide
  have hsays : ∀ x ∈ [("https://a", unreached), ("https://b", .ok gone), ("https://c", .ok busy)],
      ∃ e, Says x.2 (.failed e) := by
    simp only [List.forall_mem_cons, List.not_mem_nil, false_implies, implies_true, and_true]
    exact ⟨⟨_, .lost _⟩, ⟨_, .refused hgone⟩, ⟨_, .refused hbusy⟩⟩
  have hother : ∀ x ∈ [("https://a", unreached), ("https://b", .ok gone), ("https://c", .ok busy)],
      ∀ said, Says x.2 said → ∃ e, said = .failed e := by
    intro x hx said h
    obtain ⟨e, he⟩ := hsays x hx
    exact ⟨e, h.judge_eq.symm.trans he.judge_eq⟩
  obtain ⟨-, hnone, -, hclient, -⟩ := askQuota_falls_back (σ := Unit) "7" "p"
    [("https://a", unreached), ("https://b", .ok gone), ("https://c", .ok busy)]
  obtain ⟨-, -, hfailed⟩ := hnone fun x hx found h => by
    obtain ⟨e, he⟩ := hother x hx _ h
    exact absurd he (by simp)
  obtain ⟨hfirst, -, -⟩ := hfailed fun x hx h => by
    obtain ⟨e, he⟩ := hother x hx _ h
    exact absurd he (by simp)
  refine hfirst [("https://a", unreached)] "https://b" (.ok gone) _ gone.statusError rfl
    (.refused hgone) ⟨404, _, rfl, Or.inr rfl⟩ ?_
  intro x hx e he
  obtain rfl := List.mem_singleton.mp hx
  cases he
  exact hclient _

end QuotaBoard.Antigravity
