import QuotaBoard.IdToken
import QuotaBoard.Json.Loose
import QuotaBoard.Json.Record
import QuotaBoard.Provider

/-!
# Stored credentials

A catalog lists the credentials that are stored; each has a name, which is its key on the board,
and the fields of its catalog entry.  What a provider needs to know about a credential (account,
plan, project) is found in those fields by the `…?` functions below.
-/

namespace QuotaBoard

/-- A stored credential. -/
structure Credential where
  name : String
  /-- The provider as the catalog names it, in lower case. -/
  provider : String
  /-- The index under which calls are made on its behalf. -/
  authIndex : Option String
  disabled : Bool
  /-- Whether it exists only in memory, without a file. -/
  runtimeOnly : Bool
  /-- The whole catalog entry. -/
  fields : Json

namespace Credential

/-- The credential of a catalog entry; an entry without a usable name has none. -/
def ofEntry? (entry : Json) : Option Credential := do
  let name ← (entry.textAt? "name").or (entry.textAt? "id")
  let provider := ((entry.textAt? "provider").or (entry.textAt? "type")).getD ""
  some
    { name
      provider := Text.lower provider
      authIndex := entry.probe? "auth_index" Json.asIndex?
      disabled := (entry.flagAt? "disabled").getD false
      runtimeOnly := (entry.flagAt? "runtime_only").getD false
      fields := entry }

/-! ## What a credential is -/

/-- The provider whose quota the credential has. -/
def provider? (c : Credential) : Option Provider := Provider.ofName? c.provider

/-- Whether the credential belongs to a provider. -/
def isOf (c : Credential) (p : Provider) : Bool := c.provider? = some p

/-- The usable index of a credential. -/
def authIndex? (c : Credential) : Option String :=
  c.authIndex.bind fun index => (Json.string index).asIndex?

/-! ## Codex accounts -/

/-- The claim under which a vendor keeps what it says about the account. -/
def authClaim : String := "https://api.openai.com/auth"

/-- The places that may hold an id token: the fields, their metadata, their attributes. -/
def tokenScopes (fields : Json) : List Json :=
  fields :: [fields.objectAt? "metadata", fields.objectAt? "attributes"].filterMap id

/-- The claims of all id tokens of a credential that can be read. -/
def tokenClaims (fields : Json) : List Json :=
  (tokenScopes fields).filterMap fun scope =>
    (scope.present? "id_token").bind IdToken.claims?

/-- A text among some claims: that of the account's claim, or else one of the top level. -/
def claim? (key : String) (claims : Json) : Option String :=
  (((claims.get? authClaim).bind (·.get? key)).bind Json.asText?).or
    ((claims.get? key).bind Json.asText?)

/-- The account id of a Codex credential. -/
def accountId? (c : Credential) : Option String :=
  (tokenClaims c.fields).findSome? (claim? "chatgpt_account_id")

/-- The plan that is stored with a Codex credential: that of its id token, else of its fields,
else of their metadata. -/
def planType? (c : Credential) : Option String :=
  let fromToken := (tokenClaims c.fields).findSome? (claim? "chatgpt_plan_type")
  (fromToken.bind fun plan => (Json.string plan).asPlan?).or
    ((c.fields.probe? "plan_type" Json.asPlan?).or
      ((c.fields.objectAt? "metadata").bind (·.probe? "plan_type" Json.asPlan?)))

/-! ## Gemini CLI projects -/

/-- The project that an account label ends with, in parentheses. -/
def projectOfAccount? (account : String) : Option String :=
  match (Text.trimEndList account.toList).reverse with
  | ')' :: rest =>
    if rest.contains '(' then
      Text.trimmed? (String.ofList (rest.takeWhile (· ≠ '(')).reverse)
    else none
  | _ => none

/-- The project of a Gemini CLI credential: that of its fields, else of their metadata, else the
one its account label ends with. -/
def projectId? (c : Credential) : Option String :=
  (c.fields.textAt? "project_id").or
    (((c.fields.objectAt? "metadata").bind (·.textAt? "project_id")).or
      ((c.fields.textAt? "account").bind projectOfAccount?))

/-! ## Which credentials are fetched -/

/-- Whether a credential belongs to a provider and is in use and stored. -/
def isStored (c : Credential) (p : Provider) : Bool :=
  c.isOf p && !c.disabled && !c.runtimeOnly

/-- Whether a provider fetches the quota of a credential.  A Gemini CLI credential that exists
only in memory counts if its project is known. -/
def isFetchedBy (c : Credential) : Provider → Bool
  | .geminiCli =>
    c.isOf .geminiCli && !c.disabled && (!c.runtimeOnly || c.projectId?.isSome)
  | p => c.isStored p

theorem isFetchedBy_antigravity (c : Credential) :
    c.isFetchedBy .antigravity = c.isStored .antigravity := rfl

theorem isFetchedBy_codex (c : Credential) : c.isFetchedBy .codex = c.isStored .codex := rfl

theorem isFetchedBy_geminiCli (c : Credential) :
    c.isFetchedBy .geminiCli =
      (c.isOf .geminiCli && !c.disabled && (!c.runtimeOnly || c.projectId?.isSome)) := rfl

/-- What a provider fetches belongs to it. -/
theorem isOf_of_isFetchedBy {c : Credential} {p : Provider} (h : c.isFetchedBy p = true) :
    c.isOf p = true := by
  cases p <;> simp only [isFetchedBy_antigravity, isFetchedBy_codex, isFetchedBy_geminiCli,
    isStored, Bool.and_eq_true] at h <;> exact h.1.1

/-- What a provider fetches is in use. -/
theorem not_disabled_of_isFetchedBy {c : Credential} {p : Provider}
    (h : c.isFetchedBy p = true) : c.disabled = false := by
  cases p <;> simp only [isFetchedBy_antigravity, isFetchedBy_codex, isFetchedBy_geminiCli,
    isStored, Bool.and_eq_true, Bool.not_eq_true'] at h <;> exact h.1.2

/-- The provider that fetches the quota of a credential. -/
def fetchedBy? (c : Credential) : Option Provider := Provider.all.find? c.isFetchedBy

/-- No two providers fetch the same credential. -/
theorem isFetchedBy_unique {c : Credential} {p q : Provider} (hp : c.isFetchedBy p = true)
    (hq : c.isFetchedBy q = true) : p = q := by
  have h : some p = some q :=
    (of_decide_eq_true (isOf_of_isFetchedBy hp)).symm.trans
      (of_decide_eq_true (isOf_of_isFetchedBy hq))
  exact Option.some.inj h

theorem fetchedBy?_eq_some_iff {c : Credential} {p : Provider} :
    c.fetchedBy? = some p ↔ c.isFetchedBy p = true := by
  constructor
  · exact List.find?_some
  · intro h
    obtain ⟨q, hq⟩ : ∃ q, c.fetchedBy? = some q := by
      rw [← Option.isSome_iff_exists, fetchedBy?, List.find?_isSome]
      exact ⟨p, by cases p <;> decide, h⟩
    rw [hq, isFetchedBy_unique (List.find?_some hq) h]

/-! ## In JSON -/

/-- The credential as a value. -/
def toJson (c : Credential) : Json :=
  .object ([("name", .string c.name), ("provider", .string c.provider)] ++
    Json.memberIfAny "auth_index" .string c.authIndex ++
    [("disabled", .bool c.disabled), ("runtime_only", .bool c.runtimeOnly), ("fields", c.fields)])

/-- The credential that a document describes. -/
def ofDocument? (d : Document) : Option Credential := do
  let r ← Record.of? 6 d
  some
    { name := ← r.required? 0 ["name"] Document.text?
      provider := ← r.required? 1 ["provider"] Document.text?
      authIndex := ← r.optional? 2 ["auth_index"] Document.text?
      disabled := ← r.withDefault? 3 ["disabled"] Document.bool? false
      runtimeOnly := ← r.withDefault? 4 ["runtime_only"] Document.bool? false
      fields := ← r.withDefault? 5 ["fields"] Document.value? .null }

end Credential

end QuotaBoard
