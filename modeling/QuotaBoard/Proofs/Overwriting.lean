import QuotaBoard.Proofs.Settings

/-!
# Changing a settings file that holds no settings

A change reads the settings file first, and a text that is no JSON object counts there as no
settings at all: what is made of it is what is made of a missing file (`updated_of_noObject`).  So a
slip in a file that somebody edits by hand costs them the whole file.

Only what is no text stops a change.  `turnsDown_iff` says so for every file system that lets the
file be written, and says what is left of a text that holds no object: nothing.
-/

namespace QuotaBoard

/-! ## 1. Texts that hold no object -/

namespace Json

/-- A text that is no JSON text, or that of another value than an object. -/
def NoObject (text : String) : Prop := ∀ members, ofText? text ≠ some (.object members)

theorem noObject_iff {text : String} :
    NoObject text ↔ (ofText? text).bind members? = none := by
  rw [NoObject]
  cases ofText? text with
  | none => simp
  | some v => cases v <;> simp [members?]

instance (text : String) : Decidable (NoObject text) :=
  decidable_of_iff ((ofText? text).bind members?).isNone
    (by rw [noObject_iff, Option.isNone_iff_eq_none])

/-- A comma too many, a comment, a byte order mark, and a list. -/
example : ∀ text ∈ ["\x7b\"theme\": \"dark\",\x7d", "\x7b\x7d // later", "\uFEFF\x7b\x7d", "[]"],
    NoObject text := by decide +kernel

end Json

namespace ModelMapping

/-- A text that holds no object counts as a missing file. -/
theorem settingsOf_of_noObject {text : String} (h : Json.NoObject text) :
    settingsOf (.text text) = settingsOf .missing := by
  have hread : settingsOf (.text text) = .ok (((Json.ofText? text).bind Json.members?).getD []) :=
    rfl
  rw [hread, Json.noObject_iff.mp h]
  rfl

theorem updated_of_noObject {text : String} (h : Json.NoObject text) (m : ModelMapping) :
    m.updated (.text text) = m.updated .missing := by
  rw [updated, settingsOf_of_noObject h, updated]

/-- Any text can be changed. -/
theorem exists_updated_text (m : ModelMapping) (text : String) :
    ∃ text', m.updated (.text text) = .ok text' := ⟨_, rfl⟩

/-! ## 2. Changes that are turned down -/

variable {σ : Type} {files : Files (StateM σ)} {content : σ → String → FileContent}
  {path : String} {m : ModelMapping} {s : σ}

/-- The change fails, and what is at the path stays as it is. -/
def TurnsDown (files : Files (StateM σ)) (content : σ → String → FileContent) (path : String)
    (m : ModelMapping) (s : σ) : Prop :=
  ∃ e s', (write files path m).run s = (.error e, s') ∧ content s' path = content s path

/-- The file system lets any text be written at the path. -/
def Accepts (files : Files (StateM σ)) (path : String) (s : σ) : Prop :=
  ∃ s₁, (files.makeDirectory (Path.parent path)).run s = (.ok (), s₁) ∧
    ∀ text, ∃ s₂, (files.write path text).run s₁ = (.ok (), s₂)

/-- Where it may be written, a text is changed. -/
theorem write_run_text (hfiles : files.Lawful content) (haccepts : Accepts files path s)
    {text : String} (htext : content s path = .text text) :
    ∃ s' text', (write files path m).run s = (.ok (), s') ∧
      m.updated (.text text) = .ok text' ∧ content s' path = .text text' := by
  obtain ⟨s₁, hmade, hwrites⟩ := haccepts
  have hsame : content s₁ path = .text text := by
    rcases hfiles.makeDirectory_run _ path _ _ _ hmade with hsame | ⟨hmissing, -⟩
    · rw [hsame, htext]
    · rw [htext] at hmissing
      cases hmissing
  obtain ⟨text', hupdated⟩ := m.exists_updated_text text
  obtain ⟨s', hwritten⟩ := hwrites text'
  refine ⟨s', text', ?_, hupdated, hfiles.write_run path text' s₁ s' hwritten⟩
  rw [write_run_made hfiles hmade, hsame, hupdated, store_run, hwritten]
  rfl

/-- What is made of a missing file holds the models that are set, and nothing else. -/
theorem updated_missing (m : ModelMapping) :
    ∃ text left, m.updated .missing = .ok text ∧ Json.ofText? text = some (.object left) ∧
      ∀ key, left.lookup key =
        (m.entries.lookup key).bind fun model => (Text.trimmed? model).map .string := by
  refine ⟨_, m.intoSettings [], Holds.missing.updated_eq m, (Holds.missing.after m).ofText?_eq,
    fun key => ?_⟩
  rw [lookup_intoSettings]
  cases m.entries.lookup key <;> rfl

/-- **Of the files that are there, a change turns down those that are no text and no others.**  Of a
text that holds no object, nothing is left: afterwards the file is as if none had been there, and
holds the models that are set and nothing else. -/
theorem turnsDown_iff (hfiles : files.Lawful content) (path : String) (m : ModelMapping) (s : σ)
    (haccepts : ∀ text, content s path = .text text → Accepts files path s)
    (hthere : (∃ text, content s path = .text text) ∨
      ∃ message, content s path = .unreadable message) :
    (TurnsDown files content path m s ↔ ∃ message, content s path = .unreadable message) ∧
      ∀ text, content s path = .text text → Json.NoObject text →
        ∃ s' text' left, (write files path m).run s = (.ok (), s') ∧
          content s' path = .text text' ∧ m.updated .missing = .ok text' ∧
          Json.ofText? text' = some (.object left) ∧
          ∀ key, left.lookup key =
            (m.entries.lookup key).bind fun model => (Text.trimmed? model).map .string := by
  refine ⟨⟨?_, ?_⟩, ?_⟩
  · rintro ⟨e, s', hrefused, -⟩
    refine hthere.resolve_left ?_
    rintro ⟨text, htext⟩
    obtain ⟨_, _, hwritten, -⟩ := write_run_text hfiles (haccepts text htext) htext
    rw [hwritten] at hrefused
    cases hrefused
  · rintro ⟨message, hmessage⟩
    obtain ⟨message', s', hrefused, hsame⟩ := write_run_unreadable hfiles hmessage
    exact ⟨_, s', hrefused, hsame⟩
  · intro text htext hnone
    obtain ⟨s', text', hwritten, hupdated, htext'⟩ :=
      write_run_text hfiles (haccepts text htext) htext
    rw [updated_of_noObject hnone] at hupdated
    obtain ⟨_, left, hmissing, hleft, hlookup⟩ := m.updated_missing
    obtain rfl := Except.ok.inj (hupdated.symm.trans hmissing)
    exact ⟨s', _, left, hwritten, htext', hupdated, hleft, hlookup⟩

/-- A file with some text in its directory, and nothing else. -/
def aloneAt (file text path : String) : FileContent :=
  if path = file then .text text
  else if path = Path.parent file then .unreadable "Is a directory"
  else .missing

/-- In memory such a file can be written, whatever it holds. -/
theorem kept_accepts {file : String} (text : String) (hparent : Path.parent file ≠ file) :
    Accepts .kept file (aloneAt file text) := by
  have hdirectory : aloneAt file text (Path.parent file) = .unreadable "Is a directory" := by
    rw [aloneAt, if_neg hparent, if_pos rfl]
  refine ⟨aloneAt file text, ?_, fun text' => ?_⟩
  · rw [Files.kept_makeDirectory_run, hdirectory]
  · rw [Files.kept_write_run, aloneAt, if_pos rfl]
    exact ⟨_, rfl⟩

/-- A settings file with a comma too many. -/
def slippedFiles : String → FileContent :=
  aloneAt ".claude/settings.json" "\x7b\"theme\": \"dark\",\x7d"

/-- The file with the slip is changed, and its directory, taken for a file, is not. -/
theorem turnsDown_iff_slipped :
    Json.NoObject "\x7b\"theme\": \"dark\",\x7d" ∧
    (∃ s', (write .kept ".claude/settings.json" ⟨"opus", "", ""⟩).run slippedFiles =
      (.ok (), s')) ∧
    TurnsDown .kept (fun s path => s path) ".claude" ⟨"opus", "", ""⟩ slippedFiles := by
  have hnone : Json.NoObject "\x7b\"theme\": \"dark\",\x7d" := by decide +kernel
  have hfile := turnsDown_iff Files.lawful_kept ".claude/settings.json" ⟨"opus", "", ""⟩
    slippedFiles (fun _ _ => kept_accepts _ (by decide)) (.inl ⟨_, rfl⟩)
  have hdirectory := turnsDown_iff Files.lawful_kept ".claude" ⟨"opus", "", ""⟩
    slippedFiles (fun _ h => nomatch h) (.inr ⟨_, rfl⟩)
  obtain ⟨s', _, _, hwritten, -⟩ := hfile.2 _ rfl hnone
  exact ⟨hnone, ⟨s', hwritten⟩, hdirectory.1.mpr ⟨_, rfl⟩⟩

/-- **A comma too many costs the other settings**: the change goes through, and nothing is left of
them. -/
theorem write_loses_slipped :
    slippedFiles ".claude/settings.json" = .text "\x7b\"theme\": \"dark\",\x7d" ∧
    (∃ s', (write .kept ".claude/settings.json" ⟨"opus", "", ""⟩).run slippedFiles = (.ok (), s') ∧
      s' ".claude/settings.json" = .text "\x7b\n  \"opus_model\": \"opus\"\n\x7d") ∧
    ¬ TurnsDown .kept (fun s path => s path) ".claude/settings.json" ⟨"opus", "", ""⟩
      slippedFiles := by
  have haccepts : Accepts .kept ".claude/settings.json" slippedFiles :=
    kept_accepts _ (by decide)
  obtain ⟨s', text, hwritten, hupdated, htext⟩ :=
    write_run_text (m := ⟨"opus", "", ""⟩) Files.lawful_kept haccepts rfl
  have hexpected : updated ⟨"opus", "", ""⟩ (.text "\x7b\"theme\": \"dark\",\x7d") =
      .ok "\x7b\n  \"opus_model\": \"opus\"\n\x7d" := by
    have hnone : Json.NoObject "\x7b\"theme\": \"dark\",\x7d" := by decide +kernel
    rw [updated_of_noObject hnone]
    exact congrArg Except.ok (by decide +kernel)
  obtain rfl := Except.ok.inj (hupdated.symm.trans hexpected)
  refine ⟨rfl, ⟨s', hwritten, htext⟩, ?_⟩
  rintro ⟨e, _, hrefused, -⟩
  rw [hwritten] at hrefused
  cases hrefused

end ModelMapping

end QuotaBoard
