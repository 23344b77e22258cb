import QuotaBoard.Credential
import QuotaBoard.Proofs.FirstFound
import QuotaBoard.Proofs.IdTokens

/-!
# Where the account of a Codex credential is found

A credential may keep an id token in six places: among its fields, in their metadata and in their
attributes, under two spellings of its key each.  A place holds an account if it has claims, as a
token or as an object, and these tell one (`Place.Holds`).

Within a scope the second spelling is not looked at as soon as there is anything but `null` under
the first one, of use or not (`Place.isHidden`).  So the account of a credential is that of the
first place that holds one and is not hidden (`accountId?_findsFirst`), which need not be the first
that holds one (`accountId?_hidden`).
-/

namespace QuotaBoard

/-! ## 1. What claims tell -/

namespace Json

/-- What a value says: a text, without the blanks around it and only if it is not blank, or the
text that is written for a number. -/
inductive Says : Json → String → Prop where
  | text {s : String} (h : ¬ Text.Blank s) : Says (.string s) (Text.trim s)
  | number (n : Number) : Says (.number n) n.text

theorem asText?_eq_some_iff {v : Json} {said : String} : v.asText? = some said ↔ v.Says said := by
  constructor
  · intro h
    cases v with
    | string s =>
      rw [asText?, Text.trimmed?_eq_some_iff] at h
      obtain ⟨hblank, rfl⟩ := h
      exact .text hblank
    | number n =>
      obtain rfl := Option.some.inj h
      exact .number n
    | _ => cases h
  · rintro (hblank | n)
    · rw [asText?, Text.trimmed?_eq_some_iff]
      exact ⟨hblank, rfl⟩
    · rfl

/-- What the field of a value says. -/
def SaysAt (v : Json) (key said : String) : Prop :=
  ∃ field, v.get? key = some field ∧ field.Says said

theorem bind_asText?_eq_some_iff {v : Json} {key said : String} :
    (v.get? key).bind asText? = some said ↔ v.SaysAt key said := by
  simp only [Option.bind_eq_some_iff, asText?_eq_some_iff, SaysAt]

/-- What is read in the object of a key with one spelling is read in its field, if there is nothing
to read in what is no object. -/
theorem bind_objectAt? {α : Type} {key : String} (hkey : camelCase key = key)
    {read : Json → Option α} (hread : ∀ field, field.isObject = false → read field = none)
    (v : Json) : (v.objectAt? key).bind read = (v.get? key).bind read := by
  rw [objectAt?, probe?, hkey, Option.or_self]
  cases v.get? key with
  | none => rfl
  | some field =>
    cases hobject : field.isObject with
    | true => simp [hobject]
    | false => simp [hobject, hread field hobject]

end Json

/-- The claims of a value: those that it carries as a token, or the value itself as an object. -/
inductive IdToken.ClaimsOf : Json → Json → Prop where
  | token {token : String} {claims : Json} (h : Carries token claims) :
      ClaimsOf (.string token) claims
  | object (members : List (String × Json)) : ClaimsOf (.object members) (.object members)

theorem IdToken.claims?_eq_some_iff {value claims : Json} :
    claims? value = some claims ↔ ClaimsOf value claims := by
  constructor
  · intro h
    cases value with
    | string token => exact .token (decode?_eq_some_iff.mp h)
    | object members =>
      obtain rfl := Option.some.inj h
      exact .object members
    | _ => cases h
  · rintro (hcarries | members)
    · exact decode?_eq_some_iff.mpr hcarries
    · rfl

namespace Credential

/-- What claims tell under a key: what the account's claim says, or, if it says nothing, what the
claims themselves do. -/
inductive Tells (claims : Json) (key said : String) : Prop where
  | account {auth : Json} (hauth : claims.get? authClaim = some auth) (h : auth.SaysAt key said)
  | top (hauth : ∀ auth, claims.get? authClaim = some auth → ∀ other, ¬ auth.SaysAt key other)
      (h : claims.SaysAt key said)

theorem claim?_eq_some_iff {key said : String} {claims : Json} :
    claim? key claims = some said ↔ Tells claims key said := by
  have haccount : ∀ said,
      ((claims.get? authClaim).bind (·.get? key)).bind Json.asText? = some said ↔
        ∃ auth, claims.get? authClaim = some auth ∧ auth.SaysAt key said := by
    intro said
    simp only [Option.bind_assoc, Option.bind_eq_some_iff, ← Json.bind_asText?_eq_some_iff]
  rw [claim?, Option.or_eq_some_iff, haccount, Option.eq_none_iff_forall_ne_some,
    Json.bind_asText?_eq_some_iff]
  constructor
  · rintro (⟨auth, hauth, h⟩ | ⟨hnone, h⟩)
    · exact .account hauth h
    · refine .top (fun auth hauth other hother => ?_) h
      exact hnone other ((haccount other).mpr ⟨auth, hauth, hother⟩)
  · rintro (⟨hauth, h⟩ | ⟨hauth, h⟩)
    · exact .inl ⟨_, hauth, h⟩
    · refine .inr ⟨fun other hother => ?_, h⟩
      obtain ⟨auth, hauth', hsays⟩ := (haccount other).mp hother
      exact hauth auth hauth' other hsays

/-! ## 2. The places for an id token -/

/-- The objects in which a credential may keep an id token: its fields, and two of them. -/
inductive Scope where
  | fields
  | metadata
  | attributes

namespace Scope

def all : List Scope := [fields, metadata, attributes]

def value? (values : Json) : Scope → Option Json
  | fields => some values
  | metadata => values.get? "metadata"
  | attributes => values.get? "attributes"

end Scope

/-- A place for an id token: a scope, and which of the two spellings its key has there. -/
structure Place where
  scope : Scope
  camel : Bool

namespace Place

/-- The places of a scope. -/
def within (scope : Scope) : List Place := [⟨scope, false⟩, ⟨scope, true⟩]

/-- All six places, in the order in which they count: scope by scope, and within each the key as it
is before its other spelling. -/
def all : List Place := Scope.all.flatMap within

def key (p : Place) : String := if p.camel then "idToken" else "id_token"

/-- What there is in a place. -/
def value? (fields : Json) (p : Place) : Option Json := (p.scope.value? fields).bind (·.get? p.key)

/-- A place holds an account: it has claims, which tell it. -/
def Holds (fields : Json) (p : Place) (account : String) : Prop :=
  ∃ value claims, p.value? fields = some value ∧ IdToken.ClaimsOf value claims ∧
    Tells claims "chatgpt_account_id" account

/-- A place is hidden if its key has the second spelling while the first one has a value in its
scope. -/
def isHidden (fields : Json) (p : Place) : Bool :=
  p.camel && (value? fields ⟨p.scope, false⟩).any (!·.isNull)

/-- The places that are not hidden. -/
def shown (fields : Json) : List Place := all.filter (!isHidden fields ·)

/-- The first of some places that hold an account. -/
def IsFirst (fields : Json) (places : List Place) (p : Place) (account : String) : Prop :=
  ∃ before after, places = before ++ p :: after ∧ p.Holds fields account ∧
    ∀ q ∈ before, ∀ other, ¬ q.Holds fields other

/-- The account that is read in a place. -/
def account? (fields : Json) (p : Place) : Option String :=
  ((p.value? fields).bind IdToken.claims?).bind (claim? "chatgpt_account_id")

variable {fields : Json} {places : List Place} {p : Place} {account : String}

theorem account?_eq_some_iff : p.account? fields = some account ↔ p.Holds fields account := by
  simp only [account?, Option.bind_assoc, Option.bind_eq_some_iff, IdToken.claims?_eq_some_iff,
    claim?_eq_some_iff, Holds, exists_and_left]

theorem account?_eq_none_iff :
    p.account? fields = none ↔ ∀ account, ¬ p.Holds fields account := by
  simp only [Option.eq_none_iff_forall_ne_some, ne_eq, account?_eq_some_iff]

theorem findSome?_account?_eq_some_iff :
    places.findSome? (account? fields) = some account ↔ ∃ p, IsFirst fields places p account := by
  simp only [List.findSome?_eq_some_iff, account?_eq_some_iff, account?_eq_none_iff, IsFirst]
  constructor
  · rintro ⟨before, p, after, h⟩
    exact ⟨p, before, after, h⟩
  · rintro ⟨p, before, after, h⟩
    exact ⟨before, p, after, h⟩

theorem findSome?_account?_eq_none_iff :
    places.findSome? (account? fields) = none ↔
      ∀ p ∈ places, ∀ account, ¬ p.Holds fields account := by
  simp only [List.findSome?_eq_none_iff, account?_eq_none_iff]

end Place

/-! ## 3. The account -/

/-- The account that is read in an object. -/
def accountIn? (scope : Json) : Option String :=
  ((scope.present? "id_token").bind IdToken.claims?).bind (claim? "chatgpt_account_id")

/-- The value under the first spelling counts if there is one that is not `null`. -/
theorem present?_idToken (scope : Json) :
    scope.present? "id_token" =
      if (scope.get? "id_token").any (!·.isNull) then scope.get? "id_token"
      else (scope.get? "idToken").filter (!·.isNull) := by
  have hcamel : Json.camelCase "id_token" = "idToken" := by decide +kernel
  have hread : ∀ field : Option Json,
      (field.bind fun v => if v.isNull then none else some v) = field.filter (!·.isNull) := by
    rintro (_ | v)
    · rfl
    · cases v <;> rfl
  rw [Json.present?, Json.probe?, hcamel, hread, hread]
  cases scope.get? "id_token" with
  | none => rfl
  | some v => cases v <;> rfl

/-- No claims are read in `null`. -/
theorem bind_claims?_eq_none {field : Option Json} (h : field.any (!·.isNull) = false) :
    field.bind IdToken.claims? = none := by
  cases field with
  | none => rfl
  | some v =>
    cases v with
    | null => rfl
    | _ => cases h

theorem bind_claims?_filter (field : Option Json) :
    (field.filter (!·.isNull)).bind IdToken.claims? = field.bind IdToken.claims? := by
  cases field with
  | none => rfl
  | some v => cases v <;> rfl

/-- The account of a scope is that of the first of its places that is not hidden. -/
theorem bind_accountIn?_eq (fields : Json) (scope : Scope) :
    (scope.value? fields).bind accountIn? =
      ((Place.within scope).filter (!Place.isHidden fields ·)).findSome?
        (Place.account? fields) := by
  have hvalue : ∀ camel, Place.value? fields ⟨scope, camel⟩ =
      (scope.value? fields).bind (·.get? (Place.key ⟨scope, camel⟩)) := fun _ => rfl
  have hhidden : Place.isHidden fields ⟨scope, true⟩ =
      (Place.value? fields ⟨scope, false⟩).any (!·.isNull) := rfl
  rw [Place.within, List.filter_cons_of_pos rfl, List.filter_singleton, hhidden]
  cases hscope : scope.value? fields with
  | none => simp [Place.account?, hvalue, hscope]
  | some object =>
    have hfirst : Place.value? fields ⟨scope, false⟩ = object.get? "id_token" := by
      rw [hvalue, hscope]
      rfl
    have hsecond : Place.value? fields ⟨scope, true⟩ = object.get? "idToken" := by
      rw [hvalue, hscope]
      rfl
    rw [Option.bind_some, accountIn?, present?_idToken, hfirst]
    cases hnull : (object.get? "id_token").any (!·.isNull) with
    | true => simp [Place.account?, hfirst]
    | false =>
      -- The first place is looked at, too, but there is nothing or `null` in it.
      simp [Place.account?, hfirst, hsecond, bind_claims?_eq_none hnull, bind_claims?_filter]

theorem accountId?_eq (c : Credential) :
    c.accountId? = (Place.shown c.fields).findSome? (Place.account? c.fields) := by
  have hobject : ∀ key, Json.camelCase key = key →
      (c.fields.objectAt? key).bind accountIn? = (c.fields.get? key).bind accountIn? := by
    refine fun key hkey => Json.bind_objectAt? hkey (fun field hfield => ?_) c.fields
    cases field <;> first | rfl | cases hfield
  have hscopes : tokenScopes c.fields =
      [some c.fields, c.fields.objectAt? "metadata", c.fields.objectAt? "attributes"].filterMap
        id := rfl
  calc c.accountId?
      = (tokenScopes c.fields).findSome? accountIn? := findSome?_filterMap ..
    _ = Scope.all.findSome? fun scope => (scope.value? c.fields).bind accountIn? := by
      rw [hscopes, findSome?_filterMap]
      simp only [Scope.all, Scope.value?, List.findSome?_cons, List.findSome?_nil, id,
        hobject "metadata" (by decide +kernel), hobject "attributes" (by decide +kernel)]
    _ = (Place.shown c.fields).findSome? (Place.account? c.fields) := by
      simp only [Place.shown, Place.all, List.filter_flatMap, findSome?_flatMap, bind_accountIn?_eq]

/-- The account of a credential is that of the first of some places that hold one, and it has none
only if none of them does. -/
def FindsFirst (c : Credential) (places : List Place) : Prop :=
  (∀ account, c.accountId? = some account ↔ ∃ p, Place.IsFirst c.fields places p account) ∧
    (c.accountId? = none ↔ ∀ p ∈ places, ∀ account, ¬ p.Holds c.fields account)

theorem findsFirst_iff {c : Credential} {places : List Place} :
    FindsFirst c places ↔ c.accountId? = places.findSome? (Place.account? c.fields) := by
  simp only [FindsFirst, ← Place.findSome?_account?_eq_some_iff,
    ← Place.findSome?_account?_eq_none_iff]
  constructor
  · rintro ⟨hsome, -⟩
    exact Option.ext hsome
  · intro h
    simp only [h, implies_true, and_self]

theorem Place.IsFirst.shown {fields : Json} {p : Place} {account : String}
    (h : IsFirst fields all p account) (hp : p.isHidden fields = false) :
    IsFirst fields (Place.shown fields) p account := by
  obtain ⟨before, after, hall, hholds, hbefore⟩ := h
  refine ⟨before.filter (!isHidden fields ·), after.filter (!isHidden fields ·), ?_, hholds,
    fun q hq => hbefore q (List.mem_of_mem_filter hq)⟩
  rw [Place.shown, hall, List.filter_append, List.filter_cons_of_pos (by rw [hp]; rfl)]

/-- **The account is that of the first place that holds one, among those that are not hidden.**  It
is that of the first of all places just if this one is not hidden, or else the first one that is not
hidden has the same account. -/
theorem accountId?_findsFirst (c : Credential) :
    FindsFirst c (Place.shown c.fields) ∧
      (FindsFirst c Place.all ↔ ∀ p account, Place.IsFirst c.fields Place.all p account →
        p.isHidden c.fields = true →
          ∃ q, Place.IsFirst c.fields (Place.shown c.fields) q account) := by
  refine ⟨findsFirst_iff.mpr (accountId?_eq c), ?_⟩
  rw [findsFirst_iff, accountId?_eq]
  simp only [← Place.findSome?_account?_eq_some_iff]
  constructor
  · intro heq p account hfirst _
    rw [heq]
    exact Place.findSome?_account?_eq_some_iff.mpr ⟨p, hfirst⟩
  · intro h
    cases hall : Place.all.findSome? (Place.account? c.fields) with
    | none => exact List.filter_sublist.findSome?_eq_none hall
    | some account =>
      obtain ⟨p, hfirst⟩ := Place.findSome?_account?_eq_some_iff.mp hall
      cases hp : p.isHidden c.fields with
      | true => exact h p account hfirst hp
      | false => exact Place.findSome?_account?_eq_some_iff.mpr ⟨p, hfirst.shown hp⟩

/-- A text that is no token hides the claims that the other spelling has next to it. -/
theorem accountId?_hidden :
    ∃ c : Credential,
      ofEntry? (.object
        [("idToken", .object [("chatgpt_account_id", .string "acc")]),
          ("id_token", .string "garbage"), ("name", .string "c.json"),
          ("provider", .string "codex")]) = some c ∧
      c.accountId? = none ∧ Place.IsFirst c.fields Place.all ⟨.fields, true⟩ "acc" ∧
      ¬ FindsFirst c Place.all := by
  let c : Credential := ⟨"c.json", "codex", none, false, false, .object
    [("idToken", .object [("chatgpt_account_id", .string "acc")]),
      ("id_token", .string "garbage"), ("name", .string "c.json"), ("provider", .string "codex")]⟩
  have hnone : c.accountId? = none := by decide +kernel
  have hfirst : Place.IsFirst c.fields Place.all ⟨.fields, true⟩ "acc" := by
    refine ⟨[⟨.fields, false⟩], _, rfl, Place.account?_eq_some_iff.mp (by decide +kernel), ?_⟩
    rintro _ (_ | ⟨_, ⟨⟩⟩)
    exact Place.account?_eq_none_iff.mp (by decide +kernel)
  refine ⟨c, rfl, hnone, hfirst, fun hfinds => ?_⟩
  have hsome : c.accountId? = some "acc" := (hfinds.1 "acc").mpr ⟨_, hfirst⟩
  rw [hnone] at hsome
  cases hsome

end Credential

end QuotaBoard
