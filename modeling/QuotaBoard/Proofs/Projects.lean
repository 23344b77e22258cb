import QuotaBoard.Antigravity.Fetch
import QuotaBoard.Proofs.FieldTexts

/-!
# Where the project of a credential is found

A Gemini CLI credential names its project among its fields, in their metadata or at the end of its
account label, in parentheses.  The label is read from its end: up to the last opening parenthesis,
if there is a closing one at the very end.  Told without the reading, the label is some text and
then a project in parentheses, whatever parentheses there are in front of the project or inside it
as long as none of them opens (`EndsWithProject`, `projectOfAccount?_eq_some_iff`).

A source that says nothing of use is passed over, so the project is that of the first of the three
sources that has one, and there is none if none has (`projectId?_finds`).

An Antigravity credential has a token file instead, which names its project in one of three places,
and there is a default for one that does not (`Settings.project_eq_iff`).
-/

namespace QuotaBoard

namespace Credential

variable {account project : String}

/-! ## 1. Account labels -/

/-- A label ends with a project in parentheses, of which none opens inside. -/
def EndsWithProject (account project : String) : Prop :=
  ∃ label inner, account = label ++ "(" ++ inner ++ ")" ∧ '(' ∉ inner.toList ∧
    Text.trim inner = project ∧ project ≠ ""

/-- A label with a closing parenthesis at its end and an opening one in front of it, seen from its
end. -/
theorem reverse_label (label inner : String) :
    (label ++ "(" ++ inner ++ ")").toList.reverse =
      ')' :: (inner.toList.reverse ++ '(' :: label.toList.reverse) := by
  simp

/-- **The project of a label**, read from the end, is the one that it ends with. -/
theorem projectOfAccount?_eq_some_iff (htrim : Text.trim account = account) :
    projectOfAccount? account = some project ↔ EndsWithProject account project := by
  have hend : Text.trimEndList account.toList = account.toList := by
    have hlast := (Text.ends_trimList account.toList).2
    rw [Text.trimList_of_trim_eq htrim] at hlast
    exact List.rdropWhile_eq_self_iff.mpr fun hne => by
      simp [hlast _ (List.getLast?_eq_some_getLast hne)]
  unfold projectOfAccount?
  rw [hend]
  constructor
  · intro h
    split at h
    · rename_i rest hrest
      split at h
      · rename_i hopen
        obtain ⟨htrimmed, hproject⟩ := Text.trimmed?_eq_some_iff_trim_eq.mp h
        obtain ⟨label, hcut⟩ := exists_cut (List.contains_iff_mem.mp hopen)
        refine ⟨String.ofList label.reverse, _, ?_, ?_, htrimmed, hproject⟩
        · rw [← String.toList_inj, ← List.reverse_inj, reverse_label, hrest]
          simpa using hcut
        · rw [String.toList_ofList, List.mem_reverse]
          exact fun hmem => by simpa using List.mem_takeWhile_imp hmem
      · cases h
    · cases h
  · rintro ⟨label, inner, rfl, hinner, htrimmed, hproject⟩
    have hstop : (inner.toList.reverse ++ '(' :: label.toList.reverse).takeWhile (· ≠ '(') =
        inner.toList.reverse := by
      rw [takeWhile_append_of_head (by decide), takeWhile_ne_of_not_mem (by simpa using hinner)]
    rw [reverse_label]
    simp only [hstop]
    simp [Text.trimmed?_eq_some_iff_trim_eq, htrimmed, hproject]

/-! ## 2. The three sources -/

/-- The project of the first source that has one. -/
inductive FindsProject (fields : Json) (project : String) : Prop where
  | fields (h : fields.SaysUnder "project_id" project)
  | metadata (hfields : ∀ s, ¬ fields.SaysUnder "project_id" s) {metadata : Json}
      (hmetadata : fields.get? "metadata" = some metadata)
      (h : metadata.SaysUnder "project_id" project)
  | account (hfields : ∀ s, ¬ fields.SaysUnder "project_id" s)
      (hmetadata : ∀ metadata, fields.get? "metadata" = some metadata →
        ∀ s, ¬ metadata.SaysUnder "project_id" s)
      {account : String} (haccount : fields.SaysAt "account" account)
      (h : EndsWithProject account project)

theorem bind_account_eq_some_iff {fields : Json} :
    (fields.textAt? "account").bind projectOfAccount? = some project ↔
      ∃ account, fields.SaysAt "account" account ∧ EndsWithProject account project := by
  have hkey : Json.camelCase "account" = "account" := by decide +kernel
  simp only [Option.bind_eq_some_iff, Json.textAt?_eq_some_iff,
    Json.saysUnder_iff_of_camelCase_eq hkey]
  refine exists_congr fun account => and_congr_right fun hsays => ?_
  obtain ⟨field, -, hfield⟩ := hsays
  exact projectOfAccount?_eq_some_iff hfield.trim_eq

/-- **The project of a credential** is that of the first source that has one. -/
theorem projectId?_eq_some_iff {c : Credential} :
    c.projectId? = some project ↔ FindsProject c.fields project := by
  have hpart : Json.camelCase "metadata" = "metadata" := by decide +kernel
  rw [projectId?, Option.or_eq_some_iff, Option.or_eq_some_iff, Json.textAt?_eq_none_iff,
    Json.bind_textAt?_eq_none_iff hpart, Json.textAt?_eq_some_iff,
    Json.bind_textAt?_eq_some_iff hpart, bind_account_eq_some_iff]
  constructor
  · rintro (h | ⟨hfields, ⟨metadata, hmetadata, h⟩ | ⟨hmetadata, account, haccount, h⟩⟩)
    · exact .fields h
    · exact .metadata hfields hmetadata h
    · exact .account hfields hmetadata haccount h
  · rintro (h | ⟨hfields, hmetadata, h⟩ | ⟨hfields, hmetadata, haccount, h⟩)
    · exact .inl h
    · exact .inr ⟨hfields, .inl ⟨_, hmetadata, h⟩⟩
    · exact .inr ⟨hfields, .inr ⟨hmetadata, _, haccount, h⟩⟩

/-- Nothing but the account label of a credential can name its project. -/
structure OnlyLabel (fields : Json) (account : String) : Prop where
  noField : ∀ s, ¬ fields.SaysUnder "project_id" s
  noMetadata : ∀ metadata, fields.get? "metadata" = some metadata →
    ∀ s, ¬ metadata.SaysUnder "project_id" s
  label : fields.get? "account" = some (.string account)

/-- A label with a project behind it ends with the project, also when it is trimmed. -/
theorem endsWithProject_trim (user : String) (htrim : Text.trim project = project)
    (hproject : project ≠ "") (hopen : '(' ∉ project.toList) :
    EndsWithProject (Text.trim (user ++ " (" ++ project ++ ")")) project := by
  refine ⟨String.ofList (Text.trimStartList (user ++ " ").toList), project, ?_, hopen, htrim,
    hproject⟩
  have hlabel : (user ++ " (" ++ project ++ ")").toList =
      (user ++ " ").toList ++ '(' :: (project.toList ++ [')']) := by simp
  have hend : Text.trimEndList (project.toList ++ [')']) = project.toList ++ [')'] :=
    List.rdropWhile_concat_neg _ _ _ (by decide)
  rw [Text.trim, hlabel, Text.trimList_append_cons (by decide), hend, ← String.toList_inj]
  simp

theorem not_blank_label (user project : String) :
    ¬ Text.Blank (user ++ " (" ++ project ++ ")") := by
  intro hblank
  exact absurd (hblank ')' (by simp)) (by decide)

/-- **Where the project of a credential is found**: in the first of the three sources that has one,
and nowhere if none has.  A label with a project behind it in parentheses is such a source, whatever
the label says. -/
theorem projectId?_finds (c : Credential) :
    (∀ project, c.projectId? = some project ↔ FindsProject c.fields project) ∧
      ∀ user project, Text.trim project = project → project ≠ "" → '(' ∉ project.toList →
        OnlyLabel c.fields (user ++ " (" ++ project ++ ")") → c.projectId? = some project := by
  refine ⟨fun project => projectId?_eq_some_iff, fun user project htrim hproject hopen honly => ?_⟩
  exact projectId?_eq_some_iff.mpr (.account honly.noField honly.noMetadata
    ⟨_, honly.label, .text (not_blank_label user project)⟩
    (endsWithProject_trim user htrim hproject hopen))

/-- A credential whose account label has parentheses of its own, and whose project closes one that
it has not opened. -/
def sampleLabelled : Credential where
  name := "a.json"
  provider := "gemini-cli"
  authIndex := some "7"
  disabled := false
  runtimeOnly := true
  fields := .object [("account", .string "me (old) ( (p) 7)"),
    ("metadata", .object [("projectId", .string "  ")])]

theorem projectId?_finds_labelled :
    sampleLabelled.projectId? = some "p) 7" ∧
      (sampleLabelled.projectId? = some "p" ↔ FindsProject sampleLabelled.fields "p") := by
  obtain ⟨hfinds, hlabel⟩ := projectId?_finds sampleLabelled
  have honly : OnlyLabel sampleLabelled.fields ("me (old) (" ++ " (" ++ "p) 7" ++ ")") := {
    noField := Json.textAt?_eq_none_iff.mp (by decide +kernel)
    noMetadata := by
      intro metadata hmetadata
      obtain rfl : .object [("projectId", .string "  ")] = metadata := Option.some.inj hmetadata
      exact Json.textAt?_eq_none_iff.mp (by decide +kernel)
    label := rfl }
  exact ⟨hlabel "me (old) (" "p) 7" (by decide) (by decide) (by decide) honly, hfinds "p"⟩

end Credential

/-! ## 3. Token files -/

namespace Antigravity

/-- The project that a token file names: at its top or, if there is none, in its `installed` part
or, if there is none either, in its `web` part. -/
inductive FileNames (file : Json) (project : String) : Prop where
  | top (h : file.SaysUnder "project_id" project)
  | installed (htop : ∀ s, ¬ file.SaysUnder "project_id" s) {part : Json}
      (hpart : file.get? "installed" = some part) (h : part.SaysUnder "project_id" project)
  | web (htop : ∀ s, ¬ file.SaysUnder "project_id" s)
      (hinstalled : ∀ part, file.get? "installed" = some part →
        ∀ s, ¬ part.SaysUnder "project_id" s)
      {part : Json} (hpart : file.get? "web" = some part) (h : part.SaysUnder "project_id" project)

theorem projectOfTokenFile?_eq_some_iff {content project : String} :
    projectOfTokenFile? content = some project ↔
      ∃ file, Json.ofBody? content = some file ∧ FileNames file project := by
  have hinstalled : Json.camelCase "installed" = "installed" := by decide +kernel
  have hweb : Json.camelCase "web" = "web" := by decide +kernel
  have hparts : ∀ file : Json,
      (file :: [file.objectAt? "installed", file.objectAt? "web"].filterMap id).findSome?
          (·.textAt? "project_id") =
        (file.textAt? "project_id").or
          (((file.objectAt? "installed").bind (·.textAt? "project_id")).or
            ((file.objectAt? "web").bind (·.textAt? "project_id"))) := by
    intro file
    simp only [findSome?_filterMap, findSome?_cons_eq_or, List.findSome?_nil, Option.or_none, id]
  simp only [projectOfTokenFile?, Option.bind_eq_bind, Option.bind_eq_some_iff, hparts]
  refine exists_congr fun file => and_congr_right fun _ => ?_
  rw [Option.or_eq_some_iff, Option.or_eq_some_iff, Json.textAt?_eq_none_iff,
    Json.bind_textAt?_eq_none_iff hinstalled, Json.textAt?_eq_some_iff,
    Json.bind_textAt?_eq_some_iff hinstalled, Json.bind_textAt?_eq_some_iff hweb]
  constructor
  · rintro (h | ⟨htop, ⟨part, hpart, h⟩ | ⟨hnone, part, hpart, h⟩⟩)
    · exact .top h
    · exact .installed htop hpart h
    · exact .web htop hnone hpart h
  · rintro (h | ⟨htop, hpart, h⟩ | ⟨htop, hnone, hpart, h⟩)
    · exact .inl h
    · exact .inr ⟨htop, .inl ⟨_, hpart, h⟩⟩
    · exact .inr ⟨htop, .inr ⟨hnone, _, hpart, h⟩⟩

/-- The project that a call for the quota is made for: that of the token file, if it can be read as
one and names one, and the default one otherwise. -/
inductive Settings.CallsFor (s : Settings) (content : Option String) : String → Prop where
  | named {text project : String} {file : Json} (htext : content = some text)
      (hfile : Json.ofBody? text = some file) (h : FileNames file project) :
      CallsFor s content project
  | unnamed (hnone : ∀ text file, content = some text → Json.ofBody? text = some file →
      ∀ project, ¬ FileNames file project) : CallsFor s content s.defaultProject

/-- **The project of a call is the one that the token file names, or else the default one.** -/
theorem Settings.project_eq_iff {s : Settings} {content : Option String} {project : String} :
    s.project content = project ↔ s.CallsFor content project := by
  have hnamed : ∀ p, content.bind projectOfTokenFile? = some p ↔
      ∃ text file, content = some text ∧ Json.ofBody? text = some file ∧ FileNames file p := by
    intro p
    simp only [Option.bind_eq_some_iff, projectOfTokenFile?_eq_some_iff, exists_and_left]
  constructor
  · rintro rfl
    unfold Settings.project
    cases hfound : content.bind projectOfTokenFile? with
    | some p =>
      obtain ⟨text, file, htext, hfile, h⟩ := (hnamed p).mp hfound
      exact .named htext hfile h
    | none =>
      refine .unnamed fun text file htext hfile p h => ?_
      rw [(hnamed p).mpr ⟨text, file, htext, hfile, h⟩] at hfound
      cases hfound
  · unfold Settings.project
    rintro (⟨htext, hfile, h⟩ | hnone)
    · rw [(hnamed project).mpr ⟨_, _, htext, hfile, h⟩, Option.getD_some]
    · have hfound : content.bind projectOfTokenFile? = none := by
        rw [Option.eq_none_iff_forall_ne_some]
        intro p hp
        obtain ⟨text, file, htext, hfile, h⟩ := (hnamed p).mp hp
        exact hnone text file htext hfile p h
      rw [hfound, Option.getD_none]

end Antigravity

end QuotaBoard
