import Mathlib.Data.Finset.Basic
import QuotaBoard.Config.Basic
import QuotaBoard.Proofs.Renderings

/-!
# Configurations with fields left out

A configuration is written in two levels, and fields may be left out at both.  What is read then has
every missing field at its default, and a missing block has all of its fields there
(`Config.ofDocument?_of_rendering`).  No field has the name of another one, whatever their levels
(`Field.name_injective`), so the fields to leave out are told by their names: `Json.without` takes
them out of what was written, and `Config.without` says what is left.
-/

namespace QuotaBoard

open Document (Rendering ReadsBack readsBack_text)
open Document.Rendering (exact array record)

namespace Json

/-! ## 1. Objects without some of their members -/

/-- A value without the members of some names, in the objects down to a number of levels. -/
def without (gone : String → Bool) : (levels : Nat) → Json → Json
  | levels + 1, object members =>
    object ((members.filter fun m => !gone m.1).map fun m => (m.1, m.2.without gone levels))
  | _, v => v

/-- The members that are left of an object. -/
def membersWithout (gone : String → Bool) (levels : Nat) (members : List (String × Json)) :
    List (String × Json) :=
  (members.filter fun m => !gone m.1).map fun m => (m.1, m.2.without gone levels)

variable (gone : String → Bool) (levels : Nat) (members : List (String × Json))

theorem lookup_membersWithout (name : String) :
    (membersWithout gone levels members).lookup name =
      if gone name then none else (members.lookup name).map (without gone levels) := by
  unfold membersWithout
  induction members with
  | nil => simp
  | cons m rest ih =>
    obtain ⟨key, v⟩ := m
    by_cases hgone : gone key = true
    · rw [List.filter_cons_of_neg (by simp [hgone]), ih, lookup_cons_ite]
      by_cases hname : name = key
      · simp [hname, hgone]
      · simp [hname]
    · rw [List.filter_cons_of_pos (by simp [hgone]), List.map_cons, lookup_cons_ite, ih,
        lookup_cons_ite]
      by_cases hname : name = key
      · simp [hname, hgone]
      · simp [hname]

theorem keys_membersWithout :
    ((membersWithout gone levels members).map Prod.fst).Sublist (members.map Prod.fst) := by
  have hkeys : (membersWithout gone levels members).map Prod.fst =
      (members.filter fun m => !gone m.1).map Prod.fst := by
    rw [membersWithout, List.map_map]
    rfl
  rw [hkeys]
  exact List.filter_sublist.map _

end Json

namespace Record

variable {α : Type} {fields : List (String × Rendering)} {members : List (String × Json)}
  {gone : String → Bool} {levels : Nat} {name : String}

theorem of?_of_renders_without (hfields : (fields.map Prod.fst).Nodup)
    (hmembers : (members.map Prod.fst).Nodup) {d : Document}
    (h : record fields ((Json.object members).without gone (levels + 1)) d) (size : Nat) :
    ∃ r, of? size d = some r ∧ r.Renders fields (Json.membersWithout gone levels members) :=
  of?_of_renders hfields (hmembers.sublist (Json.keys_membersWithout gone levels members)) h size

/-- A field that may have been left out. -/
theorem Renders.withDefault?_without {r : Record} {rendering : Rendering}
    {read : Document → Option α} {v : Json} {a default : α}
    (h : r.Renders fields (Json.membersWithout gone levels members))
    (hfield : (name, rendering) ∈ fields) (position : Nat) (hlookup : members.lookup name = some v)
    (hread : ∀ d, rendering (v.without gone levels) d → read d = some a) :
    r.withDefault? position [name] read default = some (if gone name then default else a) := by
  have hlookup' := Json.lookup_membersWithout gone levels members name
  rw [hlookup, Option.map_some] at hlookup'
  by_cases hgone : gone name = true
  · rw [if_pos hgone] at hlookup' ⊢
    refine h.withDefault?_eq hfield position (fun v' d hv _ => ?_) fun _ => rfl
    rw [hlookup'] at hv
    cases hv
  · rw [if_neg hgone] at hlookup' ⊢
    refine h.withDefault?_eq hfield position (fun v' d hv hd => ?_) fun hnone => ?_
    · obtain rfl : v.without gone levels = v' := by simpa [hlookup'] using hv
      exact hread d hd
    · simp [hlookup'] at hnone

end Record

namespace Config

/-! ## 2. Fields -/

/-- The fields of a configuration that may be left out, at both levels. -/
inductive Field where
  | management
  | baseUrl
  | key
  | timeoutSecs
  | endpoints
  | antigravityQuotaUrls
  | antigravityTierUrls
  | codexUsageUrl
  | geminiCliQuotaUrl
  | defaultProjectId
  | apiKeys
deriving DecidableEq

namespace Field

/-- The name of a field. -/
@[simp]
def name : Field → String
  | management => "management"
  | baseUrl => "base_url"
  | key => "key"
  | timeoutSecs => "timeout_secs"
  | endpoints => "endpoints"
  | antigravityQuotaUrls => "antigravity_quota_urls"
  | antigravityTierUrls => "antigravity_tier_urls"
  | codexUsageUrl => "codex_usage_url"
  | geminiCliQuotaUrl => "gemini_cli_quota_url"
  | defaultProjectId => "default_project_id"
  | apiKeys => "api_keys"

theorem name_injective {f g : Field} (h : f.name = g.name) : f = g := by
  cases f <;> cases g <;> first | rfl | exact absurd h (by decide)

/-- Whether a name is that of one of some fields. -/
def names (fields : Finset Field) (name : String) : Bool := ∃ f ∈ fields, f.name = name

theorem names_name {fields : Finset Field} {f : Field} :
    names fields f.name = true ↔ f ∈ fields := by
  rw [names, decide_eq_true_eq]
  constructor
  · rintro ⟨g, hg, hname⟩
    exact name_injective hname ▸ hg
  · exact fun h => ⟨f, h, rfl⟩

end Field

/-- The management block with some fields at their defaults. -/
def Management.without (gone : Finset Field) (m : Management) : Management where
  baseUrl := if .baseUrl ∈ gone then default.baseUrl else m.baseUrl
  key := if .key ∈ gone then default.key else m.key
  timeoutSecs := if .timeoutSecs ∈ gone then default.timeoutSecs else m.timeoutSecs

/-- The endpoints with some fields at their defaults. -/
def Endpoints.without (gone : Finset Field) (e : Endpoints) : Endpoints where
  antigravityQuotaUrls :=
    if .antigravityQuotaUrls ∈ gone then default.antigravityQuotaUrls else e.antigravityQuotaUrls
  antigravityTierUrls :=
    if .antigravityTierUrls ∈ gone then default.antigravityTierUrls else e.antigravityTierUrls
  codexUsageUrl := if .codexUsageUrl ∈ gone then default.codexUsageUrl else e.codexUsageUrl
  geminiCliQuotaUrl :=
    if .geminiCliQuotaUrl ∈ gone then default.geminiCliQuotaUrl else e.geminiCliQuotaUrl

/-- The configuration with some fields at their defaults. -/
def without (gone : Finset Field) (c : Config) : Config where
  management := if .management ∈ gone then .default else c.management.without gone
  endpoints := if .endpoints ∈ gone then .default else c.endpoints.without gone
  defaultProjectId :=
    if .defaultProjectId ∈ gone then default.defaultProjectId else c.defaultProjectId
  apiKeys := if .apiKeys ∈ gone then default.apiKeys else c.apiKeys

theorem without_empty (c : Config) : c.without ∅ = c := by
  simp [without, Management.without, Endpoints.without]

/-! ## 3. Documents -/

/-- The management block comes back with its fields. -/
def Management.rendering : Rendering :=
  record [("base_url", exact), ("key", exact), ("timeout_secs", exact)]

/-- The endpoints come back with their fields. -/
def Endpoints.rendering : Rendering :=
  record [("antigravity_quota_urls", array exact), ("antigravity_tier_urls", array exact),
    ("codex_usage_url", exact), ("gemini_cli_quota_url", exact)]

/-- A configuration comes back with its blocks. -/
def rendering : Rendering :=
  record [("management", Management.rendering), ("endpoints", Endpoints.rendering),
    ("default_project_id", exact), ("api_keys", array exact)]

variable {gone : Finset Field} {d : Document}

theorem readsBack_seconds : ReadsBack exact (fun n : UInt64 => .ofInt n.toNat)
    fun d => (d.natBelow? 0x10000000000000000).map UInt64.ofNat := by
  rintro n _ rfl
  dsimp only
  rw [Document.natBelow?_ofInt n.toNat_lt, Option.map_some, UInt64.ofNat_toNat]

/-- What is read for a field. -/
theorem read_field {α : Type} {fields : List (String × Rendering)} {members : List (String × Json)}
    {levels : Nat} {r : Record}
    (hr : r.Renders fields (Json.membersWithout (Field.names gone) levels members)) (f : Field)
    (v : Json) {rendering : Rendering} (hfield : (f.name, rendering) ∈ fields) (position : Nat)
    {read : Document → Option α} {a default : α}
    (hlookup : members.lookup f.name = some v)
    (hread : ∀ d, rendering (v.without (Field.names gone) levels) d → read d = some a) :
    r.withDefault? position [f.name] read default = some (if f ∈ gone then default else a) := by
  rw [hr.withDefault?_without hfield position hlookup hread]
  simp only [Field.names_name]

theorem Management.ofDocument?_of_rendering {m : Management}
    (hd : rendering (m.toJson.without (Field.names gone) 1) d) :
    ofDocument? d = some (m.without gone) := by
  obtain ⟨r, hof, hr⟩ := Record.of?_of_renders_without (by decide) (by simp) hd 3
  have hbaseUrl : r.withDefault? 0 ["base_url"] Document.text? default.baseUrl =
      some (m.without gone).baseUrl :=
    read_field hr .baseUrl (.string m.baseUrl) (by simp) 0 (by simp) (readsBack_text _)
  have hkey : r.withDefault? 1 ["key"] Document.text? default.key = some (m.without gone).key :=
    read_field hr .key (.string m.key) (by simp) 1 (by simp [Json.lookup_cons_ite])
      (readsBack_text _)
  have hseconds : r.withDefault? 2 ["timeout_secs"]
      (fun d => (d.natBelow? 0x10000000000000000).map UInt64.ofNat) default.timeoutSecs =
        some (m.without gone).timeoutSecs :=
    read_field hr .timeoutSecs (.ofInt m.timeoutSecs.toNat) (by simp) 2
      (by simp [Json.lookup_cons_ite]) (readsBack_seconds _)
  rw [ofDocument?, hof]
  simp [hbaseUrl, hkey, hseconds]

theorem Endpoints.ofDocument?_of_rendering {e : Endpoints}
    (hd : rendering (e.toJson.without (Field.names gone) 1) d) :
    ofDocument? d = some (e.without gone) := by
  obtain ⟨r, hof, hr⟩ := Record.of?_of_renders_without (by decide) (by simp) hd 4
  have hquota : r.withDefault? 0 ["antigravity_quota_urls"] (Document.list? Document.text?)
      default.antigravityQuotaUrls = some (e.without gone).antigravityQuotaUrls :=
    read_field hr .antigravityQuotaUrls (textsToJson e.antigravityQuotaUrls) (by simp) 0
      (by simp) (readsBack_text.list _)
  have htier : r.withDefault? 1 ["antigravity_tier_urls"] (Document.list? Document.text?)
      default.antigravityTierUrls = some (e.without gone).antigravityTierUrls :=
    read_field hr .antigravityTierUrls (textsToJson e.antigravityTierUrls) (by simp) 1
      (by simp [Json.lookup_cons_ite]) (readsBack_text.list _)
  have husage : r.withDefault? 2 ["codex_usage_url"] Document.text? default.codexUsageUrl =
      some (e.without gone).codexUsageUrl :=
    read_field hr .codexUsageUrl (.string e.codexUsageUrl) (by simp) 2
      (by simp [Json.lookup_cons_ite]) (readsBack_text _)
  have hbuckets : r.withDefault? 3 ["gemini_cli_quota_url"] Document.text?
      default.geminiCliQuotaUrl = some (e.without gone).geminiCliQuotaUrl :=
    read_field hr .geminiCliQuotaUrl (.string e.geminiCliQuotaUrl) (by simp) 3
      (by simp [Json.lookup_cons_ite]) (readsBack_text _)
  rw [ofDocument?, hof]
  simp [hquota, htier, husage, hbuckets]

theorem ofDocument?_of_rendering {c : Config}
    (hd : rendering (c.toJson.without (Field.names gone) 2) d) :
    ofDocument? d = some (c.without gone) := by
  obtain ⟨r, hof, hr⟩ := Record.of?_of_renders_without (by simp) (by simp) hd 4
  have hmanagement : r.withDefault? 0 ["management"] Management.ofDocument? default.management =
      some (c.without gone).management :=
    read_field hr .management c.management.toJson (by simp) 0 (by simp)
      fun _ => Management.ofDocument?_of_rendering
  have hendpoints : r.withDefault? 1 ["endpoints"] Endpoints.ofDocument? default.endpoints =
      some (c.without gone).endpoints :=
    read_field hr .endpoints c.endpoints.toJson (by simp) 1
      (by simp [Json.lookup_cons_ite]) fun _ => Endpoints.ofDocument?_of_rendering
  have hproject : r.withDefault? 2 ["default_project_id"] Document.text? default.defaultProjectId =
      some (c.without gone).defaultProjectId :=
    read_field hr .defaultProjectId (.string c.defaultProjectId) (by simp) 2
      (by simp [Json.lookup_cons_ite]) (readsBack_text _)
  have hkeys : r.withDefault? 3 ["api_keys"] (Document.list? Document.text?) default.apiKeys =
      some (c.without gone).apiKeys :=
    read_field hr .apiKeys (textsToJson c.apiKeys) (by simp) 3
      (by simp [Json.lookup_cons_ite]) (readsBack_text.list _)
  rw [ofDocument?, hof]
  simp [hmanagement, hendpoints, hproject, hkeys]

theorem toJson_without_empty (c : Config) : c.toJson.without (Field.names ∅) 2 = c.toJson := by
  have hnames : ∀ name, Field.names ∅ name = false := by
    intro name
    simp [Field.names]
  simp [toJson, Management.toJson, Endpoints.toJson, Json.without, hnames, Json.ofInt, textsToJson]

/-- **A configuration with fields left out is read with these at their defaults**, whatever the
order of its members and whatever stands among them; with nothing left out it is read as it was
written. -/
theorem partial_read_back (c : Config) :
    (∀ (gone : Finset Field) d, rendering (c.toJson.without (Field.names gone) 2) d →
      ofDocument? d = some (c.without gone)) ∧
    ∀ d, rendering c.toJson d → ofDocument? d = some c := by
  refine ⟨fun gone d => ofDocument?_of_rendering, fun d hd => ?_⟩
  rw [← c.toJson_without_empty] at hd
  rw [ofDocument?_of_rendering hd, without_empty]

theorem partial_read_back_key :
    ofDocument? (.ofFields [("note", .null),
      ("management", .ofFields [("note", .null), ("key", .string "k")])]) =
        some { default with management := ⟨"http://127.0.0.1:8317", "k", 30⟩ } := by
  -- the configuration that was written, of which nothing but the key is left
  have hrendering : rendering (Json.without
      (Field.names {.baseUrl, .timeoutSecs, .endpoints, .defaultProjectId, .apiKeys}) 2
      (toJson ⟨⟨"http://localhost:8400", "k", 5⟩, .default, "p", ["a"]⟩))
      (.ofFields [("note", .null),
        ("management", .ofFields [("note", .null), ("key", .string "k")])]) := by
    change rendering (.object [("management", .object [("key", .string "k")])]) _
    refine .reversed [("management", _)] [("note", .null)] ?_ (by simp)
    refine .cons ⟨rfl, Management.rendering, by simp, ?_⟩ .nil
    refine .reversed [("key", .string "k")] [("note", .null)] ?_ (by simp)
    exact .cons ⟨rfl, exact, by simp, rfl⟩ .nil
  exact (partial_read_back _).1 _ _ hrendering

end Config

end QuotaBoard
