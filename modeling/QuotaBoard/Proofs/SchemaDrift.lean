import QuotaBoard.Antigravity.Quota
import QuotaBoard.Codex.Quota
import QuotaBoard.Credential
import QuotaBoard.GeminiCli.Quota
import QuotaBoard.Proofs.Drift

/-!
# Respelled keys and numbers sent as texts change no result

Each provider's payloads, the token files and the catalog entries have a layout here: the fields
that are read, at every depth, each with the way in which its value may change.  A whole number may
become the text of its digits, an object inside may change by its own layout, and a flag keeps its
value, since the word for a flag is not the text of a number.

What is left to show for each reader is that it looks at these fields only, through readers that
absorb their changes.  Where the limits around a window or the description of a model are read next
to an object inside them, the two are separated first (`Codex.windowOf_parent`,
`Antigravity.modelOf?_eq`), because one step changes one of them.
-/

namespace QuotaBoard

open Drift (Digits Still Items Members)

/-! ## 1. Codex -/

namespace Codex

/-- What is read of a window. -/
def windowLayout : Layout where
  fields := [("used_percent", Digits), ("limit_window_seconds", Digits), ("reset_at", Digits),
    ("reset_after_seconds", Digits), ("limit_reached", Still), ("allowed", Still)]
  apart := by decide +kernel

/-- What is read of the limits that hold the windows. -/
def limitsLayout : Layout where
  fields := [("primary_window", windowLayout.Step), ("secondary_window", windowLayout.Step),
    ("limit_reached", Still), ("allowed", Still)]
  apart := by decide +kernel

/-- What is read of a payload. -/
def payloadLayout : Layout where
  fields := [("rate_limit", limitsLayout.Step), ("code_review_rate_limit", limitsLayout.Step),
    ("plan_type", Digits)]
  apart := by decide +kernel

theorem absorbs_lengthOf? : Absorbs windowLayout.Step lengthOf? :=
  (Layout.absorbs_numberAt? (by simp [windowLayout])).comp _

theorem absorbs_resetLabelOf (now : Int) : Absorbs windowLayout.Step (resetLabelOf · now) := by
  intro w w' h
  have hnamed : w.numberAt? "reset_at" = w'.numberAt? "reset_at" :=
    Layout.absorbs_numberAt? (by simp [windowLayout]) w w' h
  have hafter : w.numberAt? "reset_after_seconds" = w'.numberAt? "reset_after_seconds" :=
    Layout.absorbs_numberAt? (by simp [windowLayout]) w w' h
  simp only [resetLabelOf, resetTime?, hnamed, hafter]

/-- Whether a window is exhausted is said by two flags of its own and by two of the limits around
it. -/
theorem isExhausted_congr {w w' parent parent' : Json}
    (hwindow : ∀ key ∈ ["limit_reached", "allowed"], w.flagAt? key = w'.flagAt? key)
    (hparent : ∀ key ∈ ["limit_reached", "allowed"], parent.flagAt? key = parent'.flagAt? key) :
    isExhausted w parent = isExhausted w' parent' := by
  rw [isExhausted, isExhausted, hwindow "limit_reached" (by simp), hwindow "allowed" (by simp),
    hparent "limit_reached" (by simp), hparent "allowed" (by simp)]

theorem absorbs_windowOf (id fallback : String) (parent : Json) (now : Int) :
    Absorbs windowLayout.Step (windowOf id fallback · parent now) := by
  intro w w' h
  have hlength : lengthOf? w = lengthOf? w' := absorbs_lengthOf? w w' h
  have hreset : resetLabelOf w now = resetLabelOf w' now := absorbs_resetLabelOf now w w' h
  have hused : w.percentAt? "used_percent" = w'.percentAt? "used_percent" :=
    Layout.absorbs_percentAt? (by simp [windowLayout]) w w' h
  have hexhausted : isExhausted w parent = isExhausted w' parent := by
    refine isExhausted_congr (fun key hkey => ?_) fun _ _ => rfl
    have hflag : (key, Still) ∈ windowLayout.fields := by
      simp only [List.mem_cons, List.not_mem_nil, or_false] at hkey
      rcases hkey with rfl | rfl <;> simp [windowLayout]
    exact Layout.absorbs_flagAt? hflag w w' h
  dsimp only [windowOf]
  rw [hlength, hreset, hused, hexhausted]

/-- The limits around a window matter for their flags alone. -/
theorem windowOf_parent (id fallback : String) (window : Json) (now : Int) {parent parent' : Json}
    (h : limitsLayout.Step parent parent') :
    windowOf id fallback window parent now = windowOf id fallback window parent' now := by
  have hexhausted : isExhausted window parent = isExhausted window parent' := by
    refine isExhausted_congr (fun _ _ => rfl) fun key hkey => ?_
    have hflag : (key, Still) ∈ limitsLayout.fields := by
      simp only [List.mem_cons, List.not_mem_nil, or_false] at hkey
      rcases hkey with rfl | rfl <;> simp [limitsLayout]
    exact Layout.absorbs_flagAt? hflag parent parent' h
  dsimp only [windowOf]
  rw [hexhausted]

theorem absorbs_windowAt? (id fallback : String) (now : Int) {key : String}
    (hkey : (key, windowLayout.Step) ∈ limitsLayout.fields) :
    Absorbs limitsLayout.Step (windowAt? id fallback key · now) := by
  intro parent parent' h
  calc windowAt? id fallback key parent now
      = (parent.objectAt? key).map (windowOf id fallback · parent' now) := by
        simp only [windowAt?, windowOf_parent id fallback _ now h]
    _ = (parent'.objectAt? key).map (windowOf id fallback · parent' now) :=
        Layout.absorbs_objectAt? hkey (absorbs_windowOf id fallback parent' now) parent parent' h

/-- **The usage of a payload absorbs the changes of its schema.** -/
theorem absorbs_quotaOf (plan : Option String) (now : Int) :
    Absorbs payloadLayout.Step (quotaOf · plan now) := by
  intro v v' h
  have hwindow : ∀ id fallback key limits,
      (limits, limitsLayout.Step) ∈ payloadLayout.fields →
      (key, windowLayout.Step) ∈ limitsLayout.fields →
      (v.objectAt? limits).bind (windowAt? id fallback key · now) =
        (v'.objectAt? limits).bind (windowAt? id fallback key · now) :=
    fun id fallback key limits hlimits hkey =>
      Layout.absorbs_bind_objectAt? hlimits (absorbs_windowAt? id fallback now hkey) v v' h
  have hprimary := hwindow "primary" "Primary" "primary_window" "rate_limit"
    (by simp [payloadLayout]) (by simp [limitsLayout])
  have hsecondary := hwindow "secondary" "Secondary" "secondary_window" "rate_limit"
    (by simp [payloadLayout]) (by simp [limitsLayout])
  have hreview := hwindow "code-review" reviewFallback "primary_window" "code_review_rate_limit"
    (by simp [payloadLayout]) (by simp [limitsLayout])
  have hplan : v.probe? "plan_type" Json.asPlan? = v'.probe? "plan_type" Json.asPlan? :=
    Layout.absorbs_probe? (by simp [payloadLayout]) .asPlan? v v' h
  simp only [quotaOf, hprimary, hsecondary, hreview, hplan]

end Codex

/-! ## 2. Gemini CLI -/

namespace GeminiCli

/-- What is read of a bucket. -/
def bucketLayout : Layout where
  fields := [("model_id", Digits), ("token_type", Digits), ("remaining_fraction", Digits),
    ("remaining_amount", Digits), ("reset_time", Digits)]
  apart := by decide +kernel

/-- What is read of a payload. -/
def payloadLayout : Layout where
  fields := [("buckets", Items bucketLayout.Step)]
  apart := by decide +kernel

theorem absorbs_bucketOf? : Absorbs bucketLayout.Step bucketOf? := by
  intro b b' h
  have htext : ∀ key, (key, Digits) ∈ bucketLayout.fields → b.textAt? key = b'.textAt? key :=
    fun key hkey => Layout.absorbs_textAt? hkey b b' h
  have hmodel := htext "model_id" (by simp [bucketLayout])
  have htype := htext "token_type" (by simp [bucketLayout])
  have hreset := htext "reset_time" (by simp [bucketLayout])
  have hfraction : b.fractionAt? "remaining_fraction" = b'.fractionAt? "remaining_fraction" :=
    Layout.absorbs_fractionAt? (by simp [bucketLayout]) b b' h
  have hamount : b.numberAt? "remaining_amount" = b'.numberAt? "remaining_amount" :=
    Layout.absorbs_numberAt? (by simp [bucketLayout]) b b' h
  simp only [bucketOf?, hmodel, htype, hreset, hfraction, hamount]

/-- The quota is made of the buckets that can be read. -/
theorem quotaOf_eq : quotaOf = fun payload => ⟨groupBuckets (((payload.present? "buckets").bind
    fun field => field.items?.map (·.filterMap bucketOf?)).getD [])⟩ := by
  funext payload
  unfold quotaOf
  cases payload.present? "buckets" with
  | none => rfl
  | some field => cases hitems : field.items? <;> simp [hitems]

/-- **The quota of a payload absorbs the changes of its schema.** -/
theorem absorbs_quotaOf : Absorbs payloadLayout.Step quotaOf := by
  have hbuckets : Absorbs payloadLayout.Step fun payload => (payload.present? "buckets").bind
      fun field => field.items?.map (·.filterMap bucketOf?) :=
    Layout.absorbs_bind_present? (by simp [payloadLayout]) (.isNull_items _)
      absorbs_bucketOf?.filterMap_items
  rw [quotaOf_eq]
  exact hbuckets.comp fun buckets => Quota.mk (groupBuckets (buckets.getD []))

end GeminiCli

/-! ## 3. Antigravity -/

namespace Antigravity

/-- What is read of the quota of a model. -/
def quotaLayout : Layout where
  fields := [("remaining_fraction", Digits), ("reset_time", Digits)]
  apart := by decide +kernel

/-- What is read of a model. -/
def infoLayout : Layout where
  fields := [("quota_info", quotaLayout.Step), ("display_name", Digits)]
  apart := by decide +kernel

/-- What is read of a tier. -/
def tierLayout : Layout where
  fields := [("id", Digits)]
  apart := by decide +kernel

/-- What is read of a payload about tiers. -/
def tierPayloadLayout : Layout where
  fields := [("paid_tier", tierLayout.Step), ("current_tier", tierLayout.Step)]
  apart := by decide +kernel

/-- What is read of a part of a token file. -/
def tokenPartLayout : Layout where
  fields := [("project_id", Digits)]
  apart := by decide +kernel

/-- What is read of a token file. -/
def tokenFileLayout : Layout where
  fields := [("project_id", Digits), ("installed", tokenPartLayout.Step),
    ("web", tokenPartLayout.Step)]
  apart := by decide +kernel

/-- A model of a given name, from its quota. -/
theorem modelOf?_eq (id : String) (info : Json) :
    modelOf? id info = (info.objectAt? "quota_info").map fun quota =>
      { id
        displayName := info.textAt? "display_name"
        remaining := (quota.fractionAt? "remaining_fraction").or
          ((quota.textAt? "reset_time").map fun _ => .zero)
        resetTime := quota.textAt? "reset_time" } := by
  unfold modelOf?
  cases info.objectAt? "quota_info" <;> rfl

theorem absorbs_modelOf? (id : String) : Absorbs infoLayout.Step (modelOf? id) := by
  intro info info' h
  have hname : info.textAt? "display_name" = info'.textAt? "display_name" :=
    Layout.absorbs_textAt? (by simp [infoLayout]) info info' h
  have hquota : Absorbs quotaLayout.Step fun quota : Json =>
      ({ id
         displayName := info'.textAt? "display_name"
         remaining := (quota.fractionAt? "remaining_fraction").or
           ((quota.textAt? "reset_time").map fun _ => .zero)
         resetTime := quota.textAt? "reset_time" } : Model) := by
    intro quota quota' hstep
    have hreset : quota.textAt? "reset_time" = quota'.textAt? "reset_time" :=
      Layout.absorbs_textAt? (by simp [quotaLayout]) quota quota' hstep
    have hfraction :
        quota.fractionAt? "remaining_fraction" = quota'.fractionAt? "remaining_fraction" :=
      Layout.absorbs_fractionAt? (by simp [quotaLayout]) quota quota' hstep
    simp only [hreset, hfraction]
  rw [modelOf?_eq, modelOf?_eq, hname]
  exact Layout.absorbs_objectAt? (by simp [infoLayout]) hquota info info' h

/-- **The groups of some models absorb the changes inside the models.** -/
theorem groupsOf_eq_of_variants {models models' : List (String × Json)}
    (h : Variants (Members infoLayout.Step) (.object models) (.object models')) :
    groupsOf models = groupsOf models' := by
  have hmodels := (Absorbs.filterMap_members absorbs_modelOf?).eq_of_variants h
  simp only [Json.members?, Option.map_some, Option.some.injEq] at hmodels
  simp only [groupsOf, hmodels]

/-- **The tier of a payload absorbs the changes of its schema.** -/
theorem absorbs_tierOf? : Absorbs tierPayloadLayout.Step tierOf? := by
  intro v v' h
  have htier : ∀ key, (key, tierLayout.Step) ∈ tierPayloadLayout.fields →
      (v.objectAt? key).bind (·.textAt? "id") = (v'.objectAt? key).bind (·.textAt? "id") :=
    fun key hkey => Layout.absorbs_bind_objectAt? hkey
      (Layout.absorbs_textAt? (by simp [tierLayout])) v v' h
  rw [tierOf?, tierOf?, htier "paid_tier" (by simp [tierPayloadLayout]),
    htier "current_tier" (by simp [tierPayloadLayout])]

/-- **The project of a token file absorbs the changes of its schema**, however the file is
written. -/
theorem projectOfTokenFile?_eq_of_variants {content content' : String} {file file' : Json}
    (hfile : Json.ofBody? content = some file) (hfile' : Json.ofBody? content' = some file')
    (h : Variants tokenFileLayout.Step file file') :
    projectOfTokenFile? content = projectOfTokenFile? content' := by
  have hproject : Absorbs tokenPartLayout.Step (·.textAt? "project_id") :=
    Layout.absorbs_textAt? (by simp [tokenPartLayout])
  have hparts : Absorbs tokenFileLayout.Step fun file : Json =>
      (file :: [file.objectAt? "installed", file.objectAt? "web"].filterMap id).filterMap
        (·.textAt? "project_id") :=
    Layout.absorbs_parts (by simp [tokenFileLayout]) (by simp [tokenFileLayout])
      (Layout.absorbs_textAt? (by simp [tokenFileLayout])) hproject hproject
  have hnamed := (hparts.comp List.head?).eq_of_variants h
  simp only [List.head?_filterMap] at hnamed
  rw [projectOfTokenFile?, projectOfTokenFile?, hfile, hfile']
  exact hnamed

end Antigravity

/-! ## 4. Credentials -/

namespace Credential

/-- What is read of the metadata of a catalog entry. -/
def metadataLayout : Layout where
  fields := [("id_token", Digits), ("plan_type", Digits), ("project_id", Digits)]
  apart := by decide +kernel

/-- What is read of the attributes of a catalog entry. -/
def attributesLayout : Layout where
  fields := [("id_token", Digits)]
  apart := by decide +kernel

/-- What is read of a catalog entry.  The claims of an id token are no part of it. -/
def entryLayout : Layout where
  fields := [("name", Digits), ("id", Digits), ("provider", Digits), ("type", Digits),
    ("auth_index", Digits), ("disabled", Still), ("runtime_only", Still), ("id_token", Digits),
    ("plan_type", Digits), ("project_id", Digits), ("account", Digits),
    ("metadata", metadataLayout.Step), ("attributes", attributesLayout.Step)]
  apart := by decide +kernel

/-- All that is known of a credential but the entry itself. -/
structure Known where
  name : String
  provider : String
  authIndex : Option String
  disabled : Bool
  runtimeOnly : Bool
  usableIndex : Option String
  account : Option String
  plan : Option String
  project : Option String
  fetchedBy : Option Provider

/-- What is known of a credential. -/
def known (c : Credential) : Known :=
  ⟨c.name, c.provider, c.authIndex, c.disabled, c.runtimeOnly, c.authIndex?, c.accountId?,
    c.planType?, c.projectId?, c.fetchedBy?⟩

/-- What is known of the credential of a catalog entry. -/
def knownFrom? (entry : Json) : Option Known := ofEntry? entry |>.map known

/-- What an object says in an id token. -/
theorem absorbs_claims {l : Layout} (hkey : ("id_token", Digits) ∈ l.fields) :
    Absorbs l.Step fun scope => (scope.present? "id_token").bind IdToken.claims? :=
  Layout.absorbs_bind_present? hkey .isNull .claims?

theorem absorbs_tokenClaims : Absorbs entryLayout.Step tokenClaims := by
  have hmetadata := absorbs_claims (l := metadataLayout) (by simp [metadataLayout])
  have hattributes := absorbs_claims (l := attributesLayout) (by simp [attributesLayout])
  exact Layout.absorbs_parts (by simp [entryLayout]) (by simp [entryLayout])
    (absorbs_claims (by simp [entryLayout])) hmetadata hattributes

variable (c : Credential) {entry : Json}

theorem accountId?_of_step (h : entryLayout.Step c.fields entry) :
    ({ c with fields := entry } : Credential).accountId? = c.accountId? := by
  rw [accountId?, accountId?, absorbs_tokenClaims _ _ h]

theorem planType?_of_step (h : entryLayout.Step c.fields entry) :
    ({ c with fields := entry } : Credential).planType? = c.planType? := by
  have hinner : Absorbs metadataLayout.Step (·.probe? "plan_type" Json.asPlan?) :=
    Layout.absorbs_probe? (by simp [metadataLayout]) .asPlan?
  have hown : c.fields.probe? "plan_type" Json.asPlan? = entry.probe? "plan_type" Json.asPlan? :=
    Layout.absorbs_probe? (by simp [entryLayout]) .asPlan? c.fields entry h
  have hmetadata : (c.fields.objectAt? "metadata").bind (·.probe? "plan_type" Json.asPlan?) =
      (entry.objectAt? "metadata").bind (·.probe? "plan_type" Json.asPlan?) :=
    Layout.absorbs_bind_objectAt? (by simp [entryLayout]) hinner c.fields entry h
  simp only [planType?, absorbs_tokenClaims c.fields entry h, hown, hmetadata]

theorem projectId?_of_step (h : entryLayout.Step c.fields entry) :
    ({ c with fields := entry } : Credential).projectId? = c.projectId? := by
  have hinner : Absorbs metadataLayout.Step (·.textAt? "project_id") :=
    Layout.absorbs_textAt? (by simp [metadataLayout])
  have hown : c.fields.textAt? "project_id" = entry.textAt? "project_id" :=
    Layout.absorbs_textAt? (by simp [entryLayout]) c.fields entry h
  have haccount : c.fields.textAt? "account" = entry.textAt? "account" :=
    Layout.absorbs_textAt? (by simp [entryLayout]) c.fields entry h
  have hmetadata : (c.fields.objectAt? "metadata").bind (·.textAt? "project_id") =
      (entry.objectAt? "metadata").bind (·.textAt? "project_id") :=
    Layout.absorbs_bind_objectAt? (by simp [entryLayout]) hinner c.fields entry h
  simp only [projectId?, hown, haccount, hmetadata]

/-- A provider looks at the record and, for Gemini CLI, at the project. -/
theorem isFetchedBy_of_step (h : entryLayout.Step c.fields entry) :
    ({ c with fields := entry } : Credential).isFetchedBy = c.isFetchedBy := by
  funext p
  cases p with
  | antigravity | codex => rfl
  | geminiCli =>
    rw [isFetchedBy_geminiCli, isFetchedBy_geminiCli, projectId?_of_step c h]
    rfl

/-- A credential is known alike when its entry has changed. -/
theorem known_of_step (h : entryLayout.Step c.fields entry) :
    ({ c with fields := entry } : Credential).known = c.known := by
  simp only [known, fetchedBy?, authIndex?, accountId?_of_step c h, planType?_of_step c h,
    projectId?_of_step c h, isFetchedBy_of_step c h]

/-- The credential of an entry that names one. -/
theorem ofEntry?_eq (entry : Json) :
    ofEntry? entry = ((entry.textAt? "name").or (entry.textAt? "id")).map fun name =>
      { name
        provider := Text.lower (((entry.textAt? "provider").or (entry.textAt? "type")).getD "")
        authIndex := entry.probe? "auth_index" Json.asIndex?
        disabled := (entry.flagAt? "disabled").getD false
        runtimeOnly := (entry.flagAt? "runtime_only").getD false
        fields := entry } := by
  unfold ofEntry?
  cases (entry.textAt? "name").or (entry.textAt? "id") <;> rfl

/-- **What is known of a credential absorbs the changes of its catalog entry.** -/
theorem absorbs_knownFrom? : Absorbs entryLayout.Step knownFrom? := by
  intro entry entry' h
  have htext : ∀ key, (key, Digits) ∈ entryLayout.fields → entry.textAt? key = entry'.textAt? key :=
    fun key hkey => Layout.absorbs_textAt? hkey entry entry' h
  have hflag : ∀ key, (key, Still) ∈ entryLayout.fields → entry.flagAt? key = entry'.flagAt? key :=
    fun key hkey => Layout.absorbs_flagAt? hkey entry entry' h
  have hindex : entry.probe? "auth_index" Json.asIndex? =
      entry'.probe? "auth_index" Json.asIndex? :=
    Layout.absorbs_probe? (by simp [entryLayout]) .asIndex? entry entry' h
  simp only [knownFrom?, ofEntry?_eq, Option.map_map]
  rw [htext "name" (by simp [entryLayout]), htext "id" (by simp [entryLayout]),
    htext "provider" (by simp [entryLayout]), htext "type" (by simp [entryLayout]), hindex,
    hflag "disabled" (by simp [entryLayout]), hflag "runtime_only" (by simp [entryLayout])]
  exact Option.map_congr fun name _ => (known_of_step _ h).symm

end Credential

/-! ## 5. All readers -/

/-- **Schema drift is absorbed.**  Let two values arise from each other by any number of changes, at
any depth at which a field is read: a key is respelled in an object that does not have the other
spelling, or a whole number up to `2 ^ 53` that is no flag becomes the text of its digits.  Then the
usage of a Codex account, the quota of a Gemini CLI account, the groups of Antigravity models, the
tier, the project of a token file, however the file is written, and all that is known of a
credential but its entry are the same. -/
theorem drift_absorbed :
    (∀ payload payload' plan now, Variants Codex.payloadLayout.Step payload payload' →
      Codex.quotaOf payload plan now = Codex.quotaOf payload' plan now) ∧
    (∀ payload payload', Variants GeminiCli.payloadLayout.Step payload payload' →
      GeminiCli.quotaOf payload = GeminiCli.quotaOf payload') ∧
    (∀ models models',
      Variants (Members Antigravity.infoLayout.Step) (.object models) (.object models') →
      Antigravity.groupsOf models = Antigravity.groupsOf models') ∧
    (∀ payload payload', Variants Antigravity.tierPayloadLayout.Step payload payload' →
      Antigravity.tierOf? payload = Antigravity.tierOf? payload') ∧
    (∀ content content' file file', Json.ofBody? content = some file →
      Json.ofBody? content' = some file' → Variants Antigravity.tokenFileLayout.Step file file' →
      Antigravity.projectOfTokenFile? content = Antigravity.projectOfTokenFile? content') ∧
    ∀ entry entry', Variants Credential.entryLayout.Step entry entry' →
      Credential.knownFrom? entry = Credential.knownFrom? entry' := by
  refine ⟨?_, ?_, ?_, ?_, ?_, ?_⟩
  · intro payload payload' plan now h
    exact (Codex.absorbs_quotaOf plan now).eq_of_variants h
  · intro payload payload' h
    exact GeminiCli.absorbs_quotaOf.eq_of_variants h
  · intro models models' h
    exact Antigravity.groupsOf_eq_of_variants h
  · intro payload payload' h
    exact Antigravity.absorbs_tierOf?.eq_of_variants h
  · intro content content' file file' hfile hfile' h
    exact Antigravity.projectOfTokenFile?_eq_of_variants hfile hfile' h
  · intro entry entry' h
    exact Credential.absorbs_knownFrom?.eq_of_variants h

/-- A payload of Codex usage with one window. -/
def Codex.samplePayload : Json :=
  .object [("rate_limit", .object [("primary_window",
    .object [("limit_window_seconds", .ofInt 18000), ("used_percent", .ofInt 85)])])]

/-- The same payload from a vendor that respells the limits and the window and sends the used share
as a text. -/
def Codex.sampleDrifted : Json :=
  .object [("rateLimit", .object [("primaryWindow",
    .object [("limit_window_seconds", .ofInt 18000), ("used_percent", .string "85")])])]

theorem Codex.variants_sample : Variants payloadLayout.Step samplePayload sampleDrifted := by
  have hlimits : ("rate_limit", limitsLayout.Step) ∈ payloadLayout.fields := by
    simp [payloadLayout]
  have hwindow : ("primary_window", windowLayout.Step) ∈ limitsLayout.fields := by
    simp [limitsLayout]
  have hused : ("used_percent", Digits) ∈ windowLayout.fields := by
    simp [windowLayout]
  let window : Json := .object [("limit_window_seconds", .ofInt 18000), ("used_percent", .ofInt 85)]
  have houter : payloadLayout.Step samplePayload
      (.object [("rateLimit", .object [("primary_window", window)])]) :=
    .respelled hlimits (Json.mem_spellings_self _) (by decide +kernel) rfl rfl
  have hinner : payloadLayout.Step
      (.object [("rateLimit", .object [("primary_window", window)])])
      (.object [("rateLimit", .object [("primaryWindow", window)])]) :=
    @Layout.Step.inside _ _ "rateLimit" _ [] [] _ _ hlimits (by decide +kernel)
      (.respelled hwindow (Json.mem_spellings_self _) (by decide +kernel) rfl rfl)
  have hdigits : payloadLayout.Step
      (.object [("rateLimit", .object [("primaryWindow", window)])]) sampleDrifted :=
    @Layout.Step.inside _ _ "rateLimit" _ [] [] _ _ hlimits (by decide +kernel)
      (@Layout.Step.inside _ _ "primaryWindow" _ [] [] _ _ hwindow (by decide +kernel)
        (@Layout.Step.inside _ _ "used_percent" _ [_] [] _ _ hused (Json.mem_spellings_self _)
          (.spelled 85 (by decide))))
  exact .trans _ _ _ (.rel _ _ houter) (.trans _ _ _ (.rel _ _ hinner) (.rel _ _ hdigits))

/-- How a text is read that holds an object with one member, a text. -/
theorem Json.ofBody?_eq_single {content key s : String}
    (h : ((ofBody? content).bind members?).map (·.map fun m => (m.1, m.2.text?)) =
      some [(key, some s)]) : ofBody? content = some (.object [(key, .string s)]) := by
  obtain ⟨members, hmembers, hlist⟩ := Option.map_eq_some_iff.mp h
  obtain ⟨file, hfile, hobject⟩ := Option.bind_eq_some_iff.mp hmembers
  obtain ⟨⟨k, v⟩, rfl, hmember⟩ := List.map_eq_singleton_iff.mp hlist
  obtain ⟨rfl, htext⟩ := Prod.mk.inj hmember
  cases file with
  | object ms =>
    obtain rfl : ms = [(k, v)] := Option.some.inj hobject
    cases v with
    | string s' =>
      obtain rfl : s' = s := Option.some.inj htext
      exact hfile
    | _ => cases htext
  | _ => cases hobject

/-- The two payloads show the same usage, and two token files of different spelling name the same
project. -/
theorem drift_absorbed_respelled :
    Codex.quotaOf Codex.sampleDrifted none 0 = ⟨[⟨"primary", "5h limit", some 85, "-"⟩], none⟩ ∧
      Antigravity.projectOfTokenFile? " \x7b\"projectId\": \"p\"\x7d " = some "p" := by
  obtain ⟨hcodex, -, -, -, htokenFile, -⟩ := drift_absorbed
  constructor
  · rw [← hcodex Codex.samplePayload Codex.sampleDrifted none 0 Codex.variants_sample]
    decide +kernel
  · have hfile : Json.ofBody? "\x7b\"project_id\":\"p\"\x7d" =
        some (.object [("project_id", .string "p")]) := Json.ofBody?_eq_single (by decide +kernel)
    have hfile' : Json.ofBody? " \x7b\"projectId\": \"p\"\x7d " =
        some (.object [("projectId", .string "p")]) := Json.ofBody?_eq_single (by decide +kernel)
    have hproject : ("project_id", Digits) ∈ Antigravity.tokenFileLayout.fields := by
      simp [Antigravity.tokenFileLayout]
    have hrespelled : Antigravity.tokenFileLayout.Step (.object [("project_id", .string "p")])
        (.object [("projectId", .string "p")]) :=
      .respelled hproject (Json.mem_spellings_self _) (by decide +kernel) rfl rfl
    rw [← htokenFile _ _ _ _ hfile hfile' (.rel _ _ hrespelled)]
    decide +kernel

end QuotaBoard
