import QuotaBoard.Antigravity.Quota
import QuotaBoard.Credential
import QuotaBoard.FetchError
import QuotaBoard.GeminiCli.Quota
import QuotaBoard.Proofs.ReadBack
import QuotaBoard.Proofs.Renderings

/-!
# What is written about credentials and quotas is read again

Writer and reader of a record agree if each field is found again as it was written, and if what is
left out for want of a value, or written as `null`, is read as the want of it.  For each record the
rendering names its fields, and the proof goes through them: what the writer put under the name is
a look-up in its members, and the rest is the reader of the field.

An error writes its fields in an object of their own, next to the kind that says which fields those
are, so its rendering depends on the error.
-/

namespace QuotaBoard

open Document (Rendering ReadsBack readsBack_text readsBack_bool readsBack_double readsBack_status)
open Document.Rendering (exact array record)

namespace Json

/-! ## 1. Members that may be left out -/

@[simp]
theorem lookup_memberIfAny {α : Type} (key other : String) (write : α → Json) (a? : Option α) :
    (memberIfAny key write a?).lookup other = if other = key then a?.map write else none := by
  cases a? with
  | none => simp [memberIfAny]
  | some a =>
    rw [memberIfAny, lookup_cons_ite]
    rfl

theorem string_ne_null (s : String) : Json.string s ≠ .null := fun h => nomatch h

theorem ofDouble_ne_null (x : Double) : ofDouble x ≠ .null := fun h => nomatch h

theorem ofStatus_ne_null (status : UInt16) : ofStatus status ≠ .null := fun h => nomatch h

end Json

/-! ## 2. Credentials -/

/-- A credential comes back with all it has of its catalog entry. -/
def Credential.rendering : Rendering :=
  record [("name", exact), ("provider", exact), ("auth_index", exact), ("disabled", exact),
    ("runtime_only", exact), ("fields", exact)]

theorem Credential.ofDocument?_of_rendering {c : Credential} (hc : c.fields.Canonical)
    {d : Document} (hd : rendering c.toJson d) : ofDocument? d = some c := by
  obtain ⟨r, hof, hr⟩ := Record.of?_of_renders (by decide)
    (by cases c.authIndex <;> simp [Json.memberIfAny]) hd 6
  have hname : r.required? 0 ["name"] Document.text? = some c.name :=
    hr.required?_eq (by simp) 0 (by simp) readsBack_text
  have hprovider : r.required? 1 ["provider"] Document.text? = some c.provider :=
    hr.required?_eq (by simp) 1 (by simp [Json.lookup_cons_ite]) readsBack_text
  have hindex : r.optional? 2 ["auth_index"] Document.text? = some c.authIndex :=
    hr.optional?_eq (by simp) 2 (by simp [List.lookup_append, Json.lookup_cons_ite])
      readsBack_text Json.string_ne_null
  have hdisabled : r.withDefault? 3 ["disabled"] Document.bool? false = some c.disabled :=
    hr.withWritten?_eq (by simp) 3 (by simp [List.lookup_append, Json.lookup_cons_ite])
      readsBack_bool
  have hruntime : r.withDefault? 4 ["runtime_only"] Document.bool? false = some c.runtimeOnly :=
    hr.withWritten?_eq (by simp) 4 (by simp [List.lookup_append, Json.lookup_cons_ite])
      readsBack_bool
  have hfields : r.withDefault? 5 ["fields"] Document.value? .null = some c.fields := by
    refine hr.withDefault?_eq (show ("fields", exact) ∈ _ by simp) 5 ?_ ?_
    · rintro v _ hv rfl
      obtain rfl : c.fields = v := by simpa [List.lookup_append, Json.lookup_cons_ite] using hv
      exact Json.value?_ofJson hc
    · simp [List.lookup_append, Json.lookup_cons_ite]
  rw [ofDocument?, hof]
  simp [hname, hprovider, hindex, hdisabled, hruntime, hfields]

/-! ## 3. Errors -/

namespace FetchError

/-- An error comes back with its kind and with the fields that the kind has. -/
def rendering (e : FetchError) : Rendering :=
  record [("type", exact), ("details", record (e.details.map fun m => (m.1, exact)))]

theorem readsBack_kind : ReadsBack exact .string kind? := by
  rintro s _ rfl
  rfl

/-- The fields of an error that has nothing but a message. -/
theorem message?_of_rendering {m : String} {d : Document}
    (hd : record [("message", exact)] (.object [("message", .string m)]) d) :
    ∃ r, Record.of? 1 d = some r ∧ r.required? 0 ["message"] Document.text? = some m := by
  obtain ⟨r, hof, hr⟩ := Record.of?_of_renders (by simp) (by simp) hd 1
  exact ⟨r, hof, hr.required?_eq (by simp) 0 (by simp) readsBack_text⟩

theorem ofDetails?_of_rendering (e : FetchError) {d : Document}
    (hd : record (e.details.map fun m => (m.1, exact)) (.object e.details) d) :
    ofDetails? e.kind d = some e := by
  cases e with
  | configuration m =>
    obtain ⟨r, hof, hmessage⟩ := message?_of_rendering hd
    simp [ofDetails?, kind, hof, hmessage]
  | emptyPayload m =>
    obtain ⟨r, hof, hmessage⟩ := message?_of_rendering hd
    simp [ofDetails?, kind, hof, hmessage]
  | parse m =>
    obtain ⟨r, hof, hmessage⟩ := message?_of_rendering hd
    simp [ofDetails?, kind, hof, hmessage]
  | vendorStatus s m =>
    change record [("status", exact), ("message", exact)]
      (.object [("status", .ofStatus s), ("message", .string m)]) d at hd
    obtain ⟨r, hof, hr⟩ := Record.of?_of_renders (by simp) (by simp) hd 2
    have hstatus : r.required? 0 ["status"] Document.status? = some s :=
      hr.required?_eq (by simp) 0 (by simp) readsBack_status
    have hmessage : r.required? 1 ["message"] Document.text? = some m :=
      hr.required?_eq (by simp) 1 (by simp [Json.lookup_cons_ite]) readsBack_text
    simp [ofDetails?, kind, hof, hstatus, hmessage]
  | transport m s =>
    change record [("message", exact), ("status", exact)]
      (.object [("message", .string m), ("status", .ofOption .ofStatus s)]) d at hd
    obtain ⟨r, hof, hr⟩ := Record.of?_of_renders (by simp) (by simp) hd 2
    have hmessage : r.required? 0 ["message"] Document.text? = some m :=
      hr.required?_eq (by simp) 0 (by simp) readsBack_text
    have hstatus : r.nullable? 1 ["status"] Document.status? = some s :=
      hr.nullable?_eq (by simp) 1 (by simp [Json.lookup_cons_ite]) readsBack_status
        Json.ofStatus_ne_null
    simp [ofDetails?, kind, hof, hmessage, hstatus]

theorem ofDocument?_of_rendering {e : FetchError} {d : Document} (hd : e.rendering e.toJson d) :
    ofDocument? d = some e := by
  obtain ⟨r, hof, hr⟩ := Record.of?_of_renders (by simp) (by simp) hd 2
  have htype : r.required? 0 ["type"] kind? = some e.kind :=
    hr.required?_eq (by simp) 0 (by simp) readsBack_kind
  have hlookup : [("type", Json.string e.kind), ("details", .object e.details)].lookup "details" =
      some (.object e.details) := by simp [Json.lookup_cons_ite]
  obtain ⟨details, hdetails, hrequired⟩ := hr.exists_required?
    (show ("details", record (e.details.map fun m => (m.1, exact))) ∈ _ by simp) 1 hlookup
  rw [ofDocument?, hof]
  simp [htype, hrequired, ofDetails?_of_rendering e hdetails]

end FetchError

/-! ## 4. Quotas -/

namespace Antigravity

/-- A model comes back with what is known about it. -/
def Model.rendering : Rendering :=
  record [("model_id", exact), ("display_name", exact), ("remaining_fraction", exact),
    ("reset_time", exact)]

theorem readsBack_model : ReadsBack Model.rendering Model.toJson Model.ofDocument? := by
  intro m d hd
  obtain ⟨r, hof, hr⟩ := Record.of?_of_renders (by decide)
    (by cases m.displayName <;> cases m.resetTime <;> simp [Json.memberIfAny]) hd 4
  have hid : r.required? 0 ["model_id"] Document.text? = some m.id :=
    hr.required?_eq (by simp) 0 (by simp) readsBack_text
  have hname : r.optional? 1 ["display_name"] Document.text? = some m.displayName :=
    hr.optional?_eq (by simp) 1 (by simp [List.lookup_append, Json.lookup_cons_ite])
      readsBack_text Json.string_ne_null
  have hremaining : r.nullable? 2 ["remaining_fraction"] Document.double? = some m.remaining :=
    hr.nullable?_eq (by simp) 2 (by simp [List.lookup_append, Json.lookup_cons_ite])
      readsBack_double Json.ofDouble_ne_null
  have htime : r.optional? 3 ["reset_time"] Document.text? = some m.resetTime :=
    hr.optional?_eq (by simp) 3 (by simp [List.lookup_append, Json.lookup_cons_ite])
      readsBack_text Json.string_ne_null
  rw [Model.ofDocument?, hof]
  simp [hid, hname, hremaining, htime]

/-- A group comes back with its models. -/
def Group.rendering : Rendering :=
  record [("id", exact), ("label", exact), ("models", array Model.rendering),
    ("remaining_fraction", exact), ("reset_time", exact)]

theorem readsBack_group : ReadsBack Group.rendering Group.toJson Group.ofDocument? := by
  intro g d hd
  obtain ⟨r, hof, hr⟩ := Record.of?_of_renders (by decide)
    (by cases g.resetTime <;> simp [Json.memberIfAny]) hd 5
  have hid : r.required? 0 ["id"] Document.text? = some g.id :=
    hr.required?_eq (by simp) 0 (by simp) readsBack_text
  have hlabel : r.required? 1 ["label"] Document.text? = some g.label :=
    hr.required?_eq (by simp) 1 (by simp [Json.lookup_cons_ite]) readsBack_text
  have hmodels : r.required? 2 ["models"] (Document.list? Model.ofDocument?) = some g.models :=
    hr.required?_eq (by simp) 2 (by simp [Json.lookup_cons_ite])
      readsBack_model.list
  have hremaining : r.nullable? 3 ["remaining_fraction"] Document.double? = some g.remaining :=
    hr.nullable?_eq (by simp) 3 (by simp [Json.lookup_cons_ite])
      readsBack_double Json.ofDouble_ne_null
  have htime : r.optional? 4 ["reset_time"] Document.text? = some g.resetTime :=
    hr.optional?_eq (by simp) 4 (by simp [Json.lookup_cons_ite])
      readsBack_text Json.string_ne_null
  rw [Group.ofDocument?, hof]
  simp [hid, hlabel, hmodels, hremaining, htime]

/-- A quota comes back with its groups. -/
def Quota.rendering : Rendering :=
  record [("groups", array Group.rendering), ("subscription_tier", exact)]

theorem readsBack_quota : ReadsBack Quota.rendering Quota.toJson Quota.ofDocument? := by
  intro q d hd
  obtain ⟨r, hof, hr⟩ := Record.of?_of_renders (by decide)
    (by cases q.subscriptionTier <;> simp [Json.memberIfAny]) hd 2
  have hgroups : r.required? 0 ["groups"] (Document.list? Group.ofDocument?) = some q.groups :=
    hr.required?_eq (by simp) 0 (by simp) readsBack_group.list
  have htier : r.optional? 1 ["subscription_tier"] Document.text? = some q.subscriptionTier :=
    hr.optional?_eq (by simp) 1 (by simp [Json.lookup_cons_ite]) readsBack_text Json.string_ne_null
  rw [Quota.ofDocument?, hof]
  simp [hgroups, htier]

end Antigravity

namespace GeminiCli

/-- A bucket comes back with what is known about it. -/
def Bucket.rendering : Rendering :=
  record [("model_id", exact), ("token_type", exact), ("remaining_fraction", exact),
    ("remaining_amount", exact), ("reset_time", exact), ("model_ids", array exact)]

theorem readsBack_bucket : ReadsBack Bucket.rendering Bucket.toJson Bucket.ofDocument? := by
  intro b d hd
  obtain ⟨r, hof, hr⟩ := Record.of?_of_renders (by decide)
    (by cases b.tokenType <;> cases b.resetTime <;> simp [Json.memberIfAny]) hd 6
  have hid : r.required? 0 ["model_id"] Document.text? = some b.modelId :=
    hr.required?_eq (by simp) 0 (by simp) readsBack_text
  have htype : r.optional? 1 ["token_type"] Document.text? = some b.tokenType :=
    hr.optional?_eq (by simp) 1 (by simp [List.lookup_append, Json.lookup_cons_ite])
      readsBack_text Json.string_ne_null
  have hremaining : r.nullable? 2 ["remaining_fraction"] Document.double? = some b.remaining :=
    hr.nullable?_eq (by simp) 2 (by simp [List.lookup_append, Json.lookup_cons_ite])
      readsBack_double Json.ofDouble_ne_null
  have hamount : r.nullable? 3 ["remaining_amount"] Document.double? = some b.amount :=
    hr.nullable?_eq (by simp) 3 (by simp [List.lookup_append, Json.lookup_cons_ite])
      readsBack_double Json.ofDouble_ne_null
  have htime : r.optional? 4 ["reset_time"] Document.text? = some b.resetTime :=
    hr.optional?_eq (by simp) 4 (by simp [List.lookup_append, Json.lookup_cons_ite])
      readsBack_text Json.string_ne_null
  have hids : r.withDefault? 5 ["model_ids"] (Document.list? Document.text?) [] = some b.modelIds :=
    hr.withWritten?_eq (by simp) 5 (by simp [List.lookup_append, Json.lookup_cons_ite])
      readsBack_text.list
  rw [Bucket.ofDocument?, hof]
  simp [hid, htype, hremaining, hamount, htime, hids]

end GeminiCli

/-! ## 5. All of them -/

/-- **What is written about credentials, errors and quotas is read again**, with the members of each
record in any order and with others among them. -/
theorem records_read_back :
    (∀ c : Credential, c.fields.Canonical →
      ∀ d, Credential.rendering c.toJson d → Credential.ofDocument? d = some c) ∧
    (∀ (e : FetchError) d, e.rendering e.toJson d → FetchError.ofDocument? d = some e) ∧
    (∀ (q : Antigravity.Quota) d, Antigravity.Quota.rendering q.toJson d →
      Antigravity.Quota.ofDocument? d = some q) ∧
    (∀ (b : GeminiCli.Bucket) d, GeminiCli.Bucket.rendering b.toJson d →
      GeminiCli.Bucket.ofDocument? d = some b) :=
  ⟨fun _ hc _ hd => Credential.ofDocument?_of_rendering hc hd,
    fun _ _ hd => FetchError.ofDocument?_of_rendering hd, Antigravity.readsBack_quota,
    GeminiCli.readsBack_bucket⟩

theorem records_read_back_reordered :
    Credential.ofDocument? (.ofFields [("seen", .null), ("fields", .null),
      ("runtime_only", .bool false), ("disabled", .bool true), ("provider", .string "codex"),
      ("name", .string "a.json")]) = some ⟨"a.json", "codex", none, true, false, .null⟩ ∧
    FetchError.ofDocument? (.ofFields [("details", .ofFields [("host", .null), ("status", .null),
      ("message", .string "timeout")]), ("type", .string "Transport")]) =
        some (.transport "timeout" none) ∧
    Antigravity.Quota.ofDocument? (.ofFields [("subscription_tier", .string "paid"),
      ("groups", .array [.ofFields [("seen", .null), ("remaining_fraction", .null),
        ("models", .array []), ("label", .string "Models"), ("id", .string "models")]])]) =
          some ⟨[⟨"models", "Models", [], none, none⟩], some "paid"⟩ ∧
    GeminiCli.Bucket.ofDocument? (.ofFields [("model_ids", .array [.string "m"]),
      ("remaining_amount", .null), ("remaining_fraction", .null),
      ("token_type", .string "REQUESTS"), ("model_id", .string "m")]) = some ⟨"m", some "REQUESTS", none, none, none, ["m"]⟩ := by
  have hexact : ∀ {names : List (String × Rendering)} {name : String} (v : Json),
      (name, exact) ∈ names → ∃ rendering, (name, rendering) ∈ names ∧ rendering v (.ofJson v) :=
    fun v h => ⟨exact, h, rfl⟩
  refine ⟨records_read_back.1 _ .null _ ?_, records_read_back.2.1 _ _ ?_,
    records_read_back.2.2.1 _ _ ?_, records_read_back.2.2.2 _ _ ?_⟩
  · refine .reversed [("name", .string "a.json"), ("provider", .string "codex"),
      ("disabled", .bool true), ("runtime_only", .bool false), ("fields", .null)]
      [("seen", .null)] ?_ (by simp)
    exact .cons ⟨rfl, hexact _ (by simp)⟩ <| .cons ⟨rfl, hexact _ (by simp)⟩ <|
      .cons ⟨rfl, hexact _ (by simp)⟩ <| .cons ⟨rfl, hexact _ (by simp)⟩ <|
      .cons ⟨rfl, hexact _ (by simp)⟩ .nil
  · refine .reversed [("type", .string "Transport"), ("details", _)] [] ?_ (by simp)
    refine .cons ⟨rfl, hexact _ (by simp)⟩ <|
      .cons ⟨rfl, record [("message", exact), ("status", exact)],
        by simp [FetchError.details], ?_⟩ .nil
    refine .reversed [("message", .string "timeout"), ("status", .null)] [("host", .null)] ?_
      (by simp)
    exact .cons ⟨rfl, hexact _ (by simp)⟩ <| .cons ⟨rfl, hexact _ (by simp)⟩ .nil
  · refine .reversed [("groups", .array [_]), ("subscription_tier", .string "paid")] [] ?_ (by simp)
    refine .cons ⟨rfl, array Antigravity.Group.rendering, by simp, .mk <| .cons ?_ .nil⟩ <|
      .cons ⟨rfl, hexact _ (by simp)⟩ .nil
    refine .reversed [("id", .string "models"), ("label", .string "Models"), ("models", .array []),
      ("remaining_fraction", .null)] [("seen", .null)] ?_ (by simp)
    exact .cons ⟨rfl, hexact _ (by simp)⟩ <| .cons ⟨rfl, hexact _ (by simp)⟩ <|
      .cons ⟨rfl, array Antigravity.Model.rendering, by simp, .mk .nil⟩ <|
      .cons ⟨rfl, hexact _ (by simp)⟩ .nil
  · refine .reversed [("model_id", .string "m"), ("token_type", .string "REQUESTS"),
      ("remaining_fraction", .null), ("remaining_amount", .null),
      ("model_ids", .array [.string "m"])] [] ?_ (by simp)
    exact .cons ⟨rfl, hexact _ (by simp)⟩ <| .cons ⟨rfl, hexact _ (by simp)⟩ <|
      .cons ⟨rfl, hexact _ (by simp)⟩ <| .cons ⟨rfl, hexact _ (by simp)⟩ <|
      .cons ⟨rfl, array exact, by simp, .mk <| .cons rfl .nil⟩ .nil

end QuotaBoard
