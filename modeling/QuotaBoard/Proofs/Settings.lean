import QuotaBoard.ModelMapping
import QuotaBoard.Proofs.Canonical

/-!
# Writing and reading the model mapping

The settings file belongs to another tool; three of its fields are read and written here.  A change
goes through all of the file: it is read, parsed, changed, printed and written.  The laws of such a
change (`write_laws`) are put together from three parts:

* on the settings themselves, where a change decides its three fields and no others
  (`lookup_intoSettings`), so that an earlier change leaves no trace (`intoSettings_intoSettings`);
* on the text, which holds the changed settings again (`Holds.after`);
* on the file, where a change that succeeds has read what was there and written what it made of it
  (`content_of_write`), and one that could not read it has written nothing (`write_run_unreadable`).

Of the file system no more is used than `Files.Lawful` says.
-/

namespace QuotaBoard

namespace ModelMapping

open Json (Canonical NestsUpTo HasNumber Ascending)

/-! ## 1. Settings -/

theorem lookup_setTier (settings : List (String × Json)) (tier model key : String) :
    (setTier settings tier model).lookup key =
      if key = tier then (Text.trimmed? model).map .string else settings.lookup key := by
  unfold setTier
  split
  · rename_i model heq
    rw [heq]
    by_cases hkey : key = tier
    · rw [hkey, Json.lookup_insertMember_self, if_pos rfl, Option.map_some]
    · rw [Json.lookup_insertMember_of_ne hkey, if_neg hkey]
  · rename_i heq
    rw [heq, Json.lookup_eraseMember, Option.map_none]

theorem lookup_intoSettings (m : ModelMapping) (settings : List (String × Json)) (key : String) :
    (m.intoSettings settings).lookup key =
      match m.entries.lookup key with
      | some model => (Text.trimmed? model).map .string
      | none => settings.lookup key := by
  have hfold : ∀ (entries : List (String × String)) (settings : List (String × Json)),
      (entries.map (·.1)).Nodup →
      (entries.foldl (fun settings e => setTier settings e.1 e.2) settings).lookup key =
        match entries.lookup key with
        | some model => (Text.trimmed? model).map .string
        | none => settings.lookup key := by
    intro entries
    induction entries with
    | nil => intro settings _; rfl
    | cons e entries ih =>
      obtain ⟨tier, model⟩ := e
      intro settings hnodup
      obtain ⟨hfresh, hrest⟩ := List.nodup_cons.mp hnodup
      rw [List.foldl_cons, ih _ hrest, Json.lookup_cons_ite]
      by_cases hkey : key = tier
      · have hnone : entries.lookup key = none := by
          rw [List.lookup_eq_none_iff]
          intro e he
          rw [bne_iff_ne]
          intro heq
          exact hfresh (List.mem_map.mpr ⟨e, he, heq.symm.trans hkey⟩)
        rw [hnone, if_pos hkey]
        exact (lookup_setTier ..).trans (if_pos hkey)
      · rw [if_neg hkey]
        split
        · rfl
        · exact (lookup_setTier ..).trans (if_neg hkey)
  exact hfold m.entries settings (by simp [entries])

theorem ascending_intoSettings (m : ModelMapping) {settings : List (String × Json)}
    (h : Ascending settings) : Ascending (m.intoSettings settings) := by
  have hset : ∀ settings (tier model : String), Ascending settings →
      Ascending (setTier settings tier model) := by
    intro settings tier model h
    unfold setTier
    split
    · exact h.insertMember tier _
    · exact h.eraseMember tier
  have hfold : ∀ (entries : List (String × String)) settings, Ascending settings →
      Ascending (entries.foldl (fun settings e => setTier settings e.1 e.2) settings) := by
    intro entries
    induction entries with
    | nil => exact fun _ h => h
    | cons e entries ih => exact fun settings h => ih _ (hset settings e.1 e.2 h)
  exact hfold m.entries settings h

/-- What holds of all values in the settings and of every text holds of all values afterwards. -/
theorem forall_mem_intoSettings (m : ModelMapping) {p : Json → Prop}
    {settings : List (String × Json)} (hsettings : Ascending settings)
    (htext : ∀ s, p (.string s)) (h : ∀ m ∈ settings, p m.2) :
    ∀ n ∈ m.intoSettings settings, p n.2 := by
  rintro ⟨key, value⟩ hn
  rw [← (m.ascending_intoSettings hsettings).lookup_eq_some_iff, lookup_intoSettings] at hn
  split at hn
  · obtain ⟨s, -, rfl⟩ := Option.map_eq_some_iff.mp hn
    exact htext s
  · exact h (key, value) (hsettings.lookup_eq_some_iff.mp hn)

/-- All mappings have the same fields. -/
theorem lookup_entries_eq_none_iff {m : ModelMapping} {key : String} :
    m.entries.lookup key = none ↔
      key ≠ "opus_model" ∧ key ≠ "sonnet_model" ∧ key ≠ "haiku_model" := by
  simp [entries, List.lookup_eq_none_iff]

/-- A change decides its three fields, so an earlier one leaves no trace. -/
theorem intoSettings_intoSettings (m₁ m₂ : ModelMapping) {settings : List (String × Json)}
    (h : Ascending settings) :
    m₂.intoSettings (m₁.intoSettings settings) = m₂.intoSettings settings := by
  refine (m₂.ascending_intoSettings (m₁.ascending_intoSettings h)).ext
    (m₂.ascending_intoSettings h) fun key => ?_
  rw [lookup_intoSettings, lookup_intoSettings, lookup_intoSettings]
  cases h₂ : m₂.entries.lookup key with
  | some model => rfl
  | none =>
    have h₁ : m₁.entries.lookup key = none := lookup_entries_eq_none_iff.mpr
      (lookup_entries_eq_none_iff.mp h₂)
    rw [h₁]

/-- The models as they are written. -/
def trimmed (m : ModelMapping) : ModelMapping :=
  ⟨Text.trim m.opus, Text.trim m.sonnet, Text.trim m.haiku⟩

theorem ofSettings_intoSettings (m : ModelMapping) (settings : List (String × Json)) :
    ofSettings (m.intoSettings settings) = m.trimmed := by
  have hmodel : ∀ key model, m.entries.lookup key = some model →
      (((m.intoSettings settings).lookup key).bind Json.text?).getD "" = Text.trim model := by
    intro key model h
    rw [lookup_intoSettings, h]
    by_cases hempty : (Text.trim model).isEmpty
    · simp [Text.trimmed?, String.isEmpty_iff.mp hempty]
    · simp [Text.trimmed?, hempty, Json.text?]
  have hopus := hmodel "opus_model" m.opus rfl
  have hsonnet := hmodel "sonnet_model" m.sonnet rfl
  have hhaiku := hmodel "haiku_model" m.haiku rfl
  simp only [ofSettings, trimmed, hopus, hsonnet, hhaiku]

/-! ## 2. The text of the settings -/

/-- What a settings file holds: nothing yet, or an object whose numbers survive. -/
inductive Holds : FileContent → List (String × Json) → Prop where
  | missing : Holds .missing []
  | text {content : String} {settings : List (String × Json)}
      (hread : Json.ofText? content = some (.object settings))
      (hnumbers : ∀ n, HasNumber n (.object settings) → n.Survives) :
      Holds (.text content) settings

theorem Holds.settingsOf {content : FileContent} {settings : List (String × Json)}
    (h : Holds content settings) : settingsOf content = .ok settings := by
  cases h with
  | missing => rfl
  | text hread _ => rw [ModelMapping.settingsOf, hread]; rfl

theorem Holds.ofText?_eq {text : String} {settings : List (String × Json)}
    (h : Holds (.text text) settings) : Json.ofText? text = some (.object settings) := by
  cases h with
  | text hread _ => exact hread

theorem Holds.canonical {content : FileContent} {settings : List (String × Json)}
    (h : Holds content settings) :
    Canonical (.object settings) ∧ NestsUpTo Document.nestingLimit (.object settings) ∧
      ∀ n, HasNumber n (.object settings) → n.Survives := by
  cases h with
  | missing => exact ⟨.object [] .nil nofun, .object nofun, by simp⟩
  | text hread hnumbers =>
    obtain ⟨hcanonical, hlevels⟩ := Json.canonical_of_ofText? hread
    exact ⟨hcanonical, hlevels, hnumbers⟩

theorem Holds.updated_eq {content : FileContent} {settings : List (String × Json)}
    (h : Holds content settings) (m : ModelMapping) :
    m.updated content = .ok (Json.object (m.intoSettings settings)).pretty := by
  rw [ModelMapping.updated, h.settingsOf]
  rfl

/-- The text that is written holds the settings after the change. -/
theorem Holds.after {content : FileContent} {settings : List (String × Json)}
    (h : Holds content settings) (m : ModelMapping) :
    Holds (.text (Json.object (m.intoSettings settings)).pretty) (m.intoSettings settings) := by
  obtain ⟨hcanonical, hlevels, hnumbers⟩ := h.canonical
  cases hcanonical with
  | object _ hsorted hvalues =>
  cases hlevels with
  | object hnested =>
  have hcanonical' : Canonical (.object (m.intoSettings settings)) :=
    .object _ (m.ascending_intoSettings hsorted)
      (m.forall_mem_intoSettings hsorted .string hvalues)
  have hlevels' : NestsUpTo Document.nestingLimit (.object (m.intoSettings settings)) :=
    .object (m.forall_mem_intoSettings hsorted (.string _) hnested)
  have hnumbers' : ∀ n, HasNumber n (.object (m.intoSettings settings)) → n.Survives := by
    intro n hn
    obtain ⟨e, he, hn⟩ := (Json.hasNumber_object _).mp hn
    exact m.forall_mem_intoSettings hsorted (p := fun v => HasNumber n v → n.Survives)
      (fun s hs => absurd hs (Json.not_hasNumber_string s))
      (fun e he hn => hnumbers n (.member he hn)) e he hn
  exact .text (Json.ofText?_pretty hcanonical' hlevels' hnumbers') hnumbers'

end ModelMapping

/-! ## 3. The settings file -/

/-- What is relied on of a file system: reading changes nothing, a text that was written is there,
and where directories are made, nothing but directories appears and nothing is lost. -/
structure Files.Lawful {σ : Type} (files : Files (StateM σ)) (content : σ → String → FileContent) :
    Prop where
  read_run : ∀ path s, (files.read path).run s = (content s path, s)
  write_run : ∀ path text s s',
    (files.write path text).run s = (.ok (), s') → content s' path = .text text
  makeDirectory_run : ∀ directory path s result s',
    (files.makeDirectory directory).run s = (result, s') →
      content s' path = content s path ∨
        content s path = .missing ∧ ∃ message, content s' path = .unreadable message

namespace ModelMapping

variable {σ : Type} {files : Files (StateM σ)} {content : σ → String → FileContent}
  {path : String} {m : ModelMapping} {s s' : σ}

theorem read_run (hfiles : files.Lawful content) :
    (read files path).run s = ((settingsOf (content s path)).map ofSettings, s) := by
  have hread : (read files path).run s =
      ((settingsOf ((files.read path).run s).1).map ofSettings, ((files.read path).run s).2) := rfl
  rw [hread, hfiles.read_run]

/-- The end of a change: the text that was made up is written. -/
def store (files : Files (StateM σ)) (path : String) :
    Except Failure String → StateM σ (Except Failure Unit)
  | .error e => pure (.error e)
  | .ok text => do return (← files.write path text).mapError .io

theorem store_run (text : String) :
    (store files path (.ok text)).run s = (((files.write path text).run s).1.mapError .io,
      ((files.write path text).run s).2) := rfl

theorem write_run_unmade {message : String}
    (hmade : (files.makeDirectory (Path.parent path)).run s = (.error message, s')) :
    (write files path m).run s = (.error (.io message), s') := by
  rw [write, StateT.run_bind, hmade]
  rfl

theorem write_run_made (hfiles : files.Lawful content)
    (hmade : (files.makeDirectory (Path.parent path)).run s = (.ok (), s')) :
    (write files path m).run s = (store files path (m.updated (content s' path))).run s' := by
  have hread : (files.read path).run s' = (content s' path, s') := hfiles.read_run path s'
  rw [write, StateT.run_bind, hmade]
  dsimp only [bind, StateT.bind, StateT.run] at hread ⊢
  rw [hread]
  dsimp only
  cases m.updated (content s' path) <;> rfl

/-- Where settings are held, a change fails only if the file system does. -/
theorem write_run_held (hfiles : files.Lawful content) {settings : List (String × Json)}
    (hmade : (files.makeDirectory (Path.parent path)).run s = (.ok (), s'))
    (hholds : Holds (content s' path) settings) :
    (write files path m).run s =
      (((files.write path (Json.object (m.intoSettings settings)).pretty).run s').1.mapError .io,
        ((files.write path (Json.object (m.intoSettings settings)).pretty).run s').2) := by
  rw [write_run_made hfiles hmade, hholds.updated_eq, store_run]

/-- **A change that succeeds leaves the text made up from what was there before.** -/
theorem content_of_write (hfiles : files.Lawful content)
    (h : (write files path m).run s = (.ok (), s')) :
    ∃ text, m.updated (content s path) = .ok text ∧ content s' path = .text text := by
  obtain ⟨⟨result, s₁⟩, hmade⟩ :
      ∃ made, (files.makeDirectory (Path.parent path)).run s = made := ⟨_, rfl⟩
  cases result with
  | error message =>
    rw [write_run_unmade hmade] at h
    cases h
  | ok _ =>
    rw [write_run_made hfiles hmade] at h
    -- if the path itself has become a directory, it cannot be read and the change fails
    rcases hfiles.makeDirectory_run _ path _ _ _ hmade with hsame | ⟨-, message, hdirectory⟩
    · rw [hsame] at h
      cases hupdated : m.updated (content s path) with
      | error e =>
        rw [hupdated] at h
        cases h
      | ok text =>
        obtain ⟨⟨result, s₂⟩, hwritten⟩ : ∃ written, (files.write path text).run s₁ = written :=
          ⟨_, rfl⟩
        rw [hupdated, store_run, hwritten] at h
        obtain ⟨hresult, rfl⟩ := Prod.mk.inj h
        cases result with
        | error message => cases hresult
        | ok _ => exact ⟨text, rfl, hfiles.write_run _ _ _ _ hwritten⟩
    · rw [hdirectory] at h
      cases h

/-- **What cannot be read is not written over.** -/
theorem write_run_unreadable (hfiles : files.Lawful content) {message : String}
    (h : content s path = .unreadable message) :
    ∃ message' s', (write files path m).run s = (.error (.io message'), s') ∧
      content s' path = content s path := by
  obtain ⟨⟨result, s₁⟩, hmade⟩ :
      ∃ made, (files.makeDirectory (Path.parent path)).run s = made := ⟨_, rfl⟩
  have hsame : content s₁ path = content s path := by
    refine (hfiles.makeDirectory_run _ path _ _ _ hmade).resolve_right ?_
    rintro ⟨hmissing, -⟩
    rw [h] at hmissing
    cases hmissing
  cases result with
  | error message' => exact ⟨message', s₁, write_run_unmade hmade, hsame⟩
  | ok _ =>
    refine ⟨message, s₁, ?_, hsame⟩
    rw [write_run_made hfiles hmade, hsame, h]
    rfl

/-- **Writing the mapping and reading it again, and what becomes of everything else.** -/
theorem write_laws (hfiles : files.Lawful content) (path : String) :
    (∀ m s s' settings, Holds (content s path) settings →
      (write files path m).run s = (.ok (), s') →
        (read files path).run s' = (.ok m.trimmed, s') ∧
        ∃ text settings', content s' path = .text text ∧
          Json.ofText? text = some (.object settings') ∧
          ∀ key, settings'.lookup key =
            match m.entries.lookup key with
            | some model => (Text.trimmed? model).map .string
            | none => settings.lookup key) ∧
    (∀ m₁ m₂ s s₁ s₂ s₂' settings, Holds (content s path) settings →
      (write files path m₁).run s = (.ok (), s₁) → (write files path m₂).run s₁ = (.ok (), s₂) →
      (write files path m₂).run s = (.ok (), s₂') → content s₂ path = content s₂' path) ∧
    ∀ m s message, content s path = .unreadable message →
      (read files path).run s = (.error (.io message), s) ∧
      ∃ message' s', (write files path m).run s = (.error (.io message'), s') ∧
        content s' path = content s path := by
  refine ⟨fun m s s' settings hholds h => ?_,
    fun m₁ m₂ s s₁ s₂ s₂' settings hholds h₁ h₂ h₂' => ?_, fun m s message h => ?_⟩
  · obtain ⟨text, hupdated, htext⟩ := content_of_write hfiles h
    obtain rfl := Except.ok.inj (hupdated.symm.trans (hholds.updated_eq m))
    have hafter := hholds.after m
    refine ⟨?_, _, m.intoSettings settings, htext, hafter.ofText?_eq,
      m.lookup_intoSettings settings⟩
    rw [read_run hfiles, htext, hafter.settingsOf, Except.map, m.ofSettings_intoSettings]
  · have hsorted : Json.Ascending settings := by
      cases hholds.canonical.1 with
      | object _ hsorted _ => exact hsorted
    obtain ⟨text₁, hupdated₁, htext₁⟩ := content_of_write hfiles h₁
    obtain ⟨text₂, hupdated₂, htext₂⟩ := content_of_write hfiles h₂
    obtain ⟨text₂', hupdated₂', htext₂'⟩ := content_of_write hfiles h₂'
    obtain rfl := Except.ok.inj (hupdated₁.symm.trans (hholds.updated_eq m₁))
    rw [htext₁, (hholds.after m₁).updated_eq m₂, m₁.intoSettings_intoSettings m₂ hsorted,
      ← hholds.updated_eq m₂, hupdated₂'] at hupdated₂
    rw [htext₂, htext₂', Except.ok.inj hupdated₂]
  · refine ⟨?_, write_run_unreadable hfiles h⟩
    rw [read_run hfiles, h]
    rfl

end ModelMapping

/-! ## 4. Files in memory -/

/-- Files in memory: what is found at each path. -/
def Files.kept : Files (StateM (String → FileContent)) where
  read path := fun s => (s path, s)
  write path text := fun s =>
    match s path with
    | .unreadable message | .blocked message => (.error message, s)
    | _ => (.ok (), fun p => if p = path then .text text else s p)
  makeDirectory directory := fun s =>
    match s directory with
    | .missing => (.ok (), fun p => if p = directory then .unreadable "Is a directory" else s p)
    | .unreadable _ => (.ok (), s)
    | _ => (.error "Not a directory", s)

namespace Files

theorem kept_write_run (path text : String) (s : String → FileContent) :
    (kept.write path text).run s = match s path with
      | .unreadable message | .blocked message => (.error message, s)
      | _ => (.ok (), fun p => if p = path then .text text else s p) := rfl

theorem kept_makeDirectory_run (directory : String) (s : String → FileContent) :
    (kept.makeDirectory directory).run s = match s directory with
      | .missing => (.ok (), fun p => if p = directory then .unreadable "Is a directory" else s p)
      | .unreadable _ => (.ok (), s)
      | _ => (.error "Not a directory", s) := rfl

theorem lawful_kept : kept.Lawful fun s path => s path where
  read_run _ _ := rfl
  write_run path text s s' h := by
    rw [kept_write_run] at h
    split at h
    · cases h
    · cases h
    · obtain rfl := (Prod.mk.inj h).2
      exact if_pos rfl
  makeDirectory_run directory path s result s' h := by
    rw [kept_makeDirectory_run] at h
    split at h
    · rename_i hmissing
      obtain rfl := (Prod.mk.inj h).2
      by_cases hpath : path = directory
      · exact .inr ⟨hpath ▸ hmissing, _, if_pos hpath⟩
      · exact .inl (if_neg hpath)
    · obtain rfl := (Prod.mk.inj h).2
      exact .inl rfl
    · obtain rfl := (Prod.mk.inj h).2
      exact .inl rfl

end Files

namespace ModelMapping

/-- In memory a change of a file goes through if its directory is there, and no other path is
touched. -/
theorem write_run_kept {path text message : String} {s : String → FileContent}
    {settings : List (String × Json)} (htext : s path = .text text)
    (hholds : Holds (.text text) settings) (hdirectory : s (Path.parent path) = .unreadable message)
    (m : ModelMapping) :
    ∃ s', (write .kept path m).run s = (.ok (), s') ∧
      s' path = .text (Json.object (m.intoSettings settings)).pretty ∧
      ∀ other ≠ path, s' other = s other := by
  have hmade : (Files.kept.makeDirectory (Path.parent path)).run s = (.ok (), s) := by
    rw [Files.kept_makeDirectory_run, hdirectory]
  have hwrite : (write .kept path m).run s = (.ok (), fun p =>
      if p = path then .text (Json.object (m.intoSettings settings)).pretty else s p) := by
    rw [write_run_held Files.lawful_kept hmade (htext ▸ hholds), Files.kept_write_run, htext]
    rfl
  exact ⟨_, hwrite, if_pos rfl, fun other hother => if_neg hother⟩

/-- The settings of another tool, with a field that is not this library's. -/
def sampleSettings : List (String × Json) :=
  [("env", .object [("RETRIES", .ofInt 3)]), ("opus_model", .string "opus-4")]

/-- A directory with these settings in it, and nothing else. -/
def sampleFiles (path : String) : FileContent :=
  if path = ".claude/settings.json" then .text (Json.object sampleSettings).pretty
  else if path = ".claude" then .unreadable "Is a directory"
  else .missing

theorem sampleFiles_holds : Holds (sampleFiles ".claude/settings.json") sampleSettings := by
  have hsorted : Json.Ascending sampleSettings :=
    List.pairwise_cons.mpr ⟨List.forall_mem_singleton.mpr (by decide), List.pairwise_singleton ..⟩
  have hcanonical : (Json.object sampleSettings).Canonical := by
    refine .object _ hsorted ?_
    refine List.forall_mem_cons.mpr ⟨.object _ (List.pairwise_singleton ..) ?_,
      List.forall_mem_singleton.mpr (.string _)⟩
    exact List.forall_mem_singleton.mpr (.integer 3 (by decide))
  have hlevels : (Json.object sampleSettings).NestsUpTo Document.nestingLimit := by
    refine .object (List.forall_mem_cons.mpr ⟨.object ?_, ?_⟩)
    · exact List.forall_mem_singleton.mpr (.number _ _)
    · exact List.forall_mem_singleton.mpr (.string _ _)
  have hnumbers : ∀ n, (Json.object sampleSettings).HasNumber n → n.Survives := by
    intro n hn
    obtain rfl : n = .integer 3 := by simpa [sampleSettings, Json.ofInt] using hn
    exact Json.Number.survives_integer (by decide)
  exact .text (Json.ofText?_pretty hcanonical hlevels hnumbers) hnumbers

/-- Two changes of these settings, and what becomes of the directory if it is taken for a file. -/
theorem write_laws_sample :
    ∃ s₁ s₂ s₂' text settings',
      (write .kept ".claude/settings.json" ⟨" ", " sonnet-4 ", "haiku"⟩).run sampleFiles =
        (.ok (), s₁) ∧
      (write .kept ".claude/settings.json" ⟨"opus", "", ""⟩).run s₁ = (.ok (), s₂) ∧
      (write .kept ".claude/settings.json" ⟨"opus", "", ""⟩).run sampleFiles = (.ok (), s₂') ∧
      (read .kept ".claude/settings.json").run s₁ = (.ok ⟨"", "sonnet-4", "haiku"⟩, s₁) ∧
      s₁ ".claude/settings.json" = .text text ∧
      Json.ofText? text = some (.object settings') ∧
      settings'.lookup "opus_model" = none ∧
      settings'.lookup "env" = some (.object [("RETRIES", .ofInt 3)]) ∧
      s₂ ".claude/settings.json" = s₂' ".claude/settings.json" ∧
      (read .kept ".claude").run sampleFiles = (.error (.io "Is a directory"), sampleFiles) := by
  have htext : sampleFiles ".claude/settings.json" = .text (Json.object sampleSettings).pretty :=
    rfl
  have hdirectory : sampleFiles (Path.parent ".claude/settings.json") =
      .unreadable "Is a directory" := rfl
  obtain ⟨s₁, hwrite₁, htext₁, hothers⟩ := write_run_kept htext sampleFiles_holds hdirectory
    ⟨" ", " sonnet-4 ", "haiku"⟩
  have hdirectory₁ := (hothers _ (by decide)).trans hdirectory
  obtain ⟨s₂, hwrite₂, -⟩ := write_run_kept htext₁ (sampleFiles_holds.after _) hdirectory₁
    ⟨"opus", "", ""⟩
  obtain ⟨s₂', hwrite₂', -⟩ := write_run_kept htext sampleFiles_holds hdirectory ⟨"opus", "", ""⟩
  obtain ⟨hread, text, settings', htext', hof, hlookup⟩ :=
    (write_laws Files.lawful_kept ".claude/settings.json").1 _ _ _ _ sampleFiles_holds hwrite₁
  have hagain := (write_laws Files.lawful_kept ".claude/settings.json").2.1 _ _ _ _ _ _ _
    sampleFiles_holds hwrite₁ hwrite₂ hwrite₂'
  have hfolder :=
    ((write_laws Files.lawful_kept ".claude").2.2 ⟨"opus", "", ""⟩ sampleFiles _ rfl).1
  refine ⟨s₁, s₂, s₂', text, settings', hwrite₁, hwrite₂, hwrite₂', hread, htext', hof, ?_, ?_,
    hagain, hfolder⟩
  · rw [hlookup]
    rfl
  · rw [hlookup]
    rfl

end ModelMapping

end QuotaBoard
