import QuotaBoard.CommandLine.Run
import QuotaBoard.Proofs.Overwriting

/-!
# Changing some tiers of the model mapping

The command takes a model for each tier that it is to change.  It reads the mapping, puts the given
models into it and writes all of it, so the tiers that were not given go through the mapping as
well.  The mapping knows texts only and trims what it writes: `lookup_replace` says what becomes of
each field, and `carriedOver_eq_iff` when a field that was not given is kept.

`setMapping_tiers` puts this together for every run of the command that succeeds.
-/

namespace QuotaBoard

/-! ## 1. Tiers -/

/-- A tier that has a model. -/
inductive Tier where
  | opus
  | sonnet
  | haiku
deriving DecidableEq

namespace Tier

/-- The field of the settings that holds the tier's model. -/
def key : Tier → String
  | opus => "opus_model"
  | sonnet => "sonnet_model"
  | haiku => "haiku_model"

/-- The tier's own of three. -/
def among {α : Type} (ofOpus ofSonnet ofHaiku : α) : Tier → α
  | opus => ofOpus
  | sonnet => ofSonnet
  | haiku => ofHaiku

end Tier

namespace ModelMapping

/-- What is carried over of a field that is read and written without being given: a text without the
blanks around it, unless nothing is left. -/
def carriedOver (field : Option Json) : Option Json :=
  ((field.bind Json.text?).bind Text.trimmed?).map .string

/-- A field is missing, or it is a text that is not empty and blank at neither end. -/
inductive IsPlain : Option Json → Prop where
  | missing : IsPlain none
  | text {model : String} (h : Text.trimmed? model = some model) : IsPlain (some (.string model))

/-- **A field is carried over unchanged exactly if it is plain.** -/
theorem carriedOver_eq_iff {field : Option Json} : carriedOver field = field ↔ IsPlain field := by
  constructor
  · intro h
    cases field with
    | none => exact .missing
    | some v =>
      obtain ⟨model, hmodel, rfl⟩ := Option.map_eq_some_iff.mp h
      rw [Option.bind_some, Json.text?, Option.bind_some] at hmodel
      exact .text hmodel
  · rintro (_ | h)
    · rfl
    · rw [carriedOver, Option.bind_some, Json.text?, Option.bind_some, h, Option.map_some]

theorem map_trimmed?_text (field : Option Json) :
    (Text.trimmed? ((field.bind Json.text?).getD "")).map Json.string = carriedOver field := by
  cases h : field.bind Json.text? with
  | none =>
    rw [carriedOver, h]
    rfl
  | some model => rw [carriedOver, h, Option.getD_some, Option.bind_some]

/-- **What becomes of the field of each tier.** -/
theorem lookup_replace (settings : List (String × Json)) (opus sonnet haiku : Option String)
    (tier : Tier) :
    (((ofSettings settings).replace opus sonnet haiku).intoSettings settings).lookup tier.key =
      match tier.among opus sonnet haiku with
      | some model => (Text.trimmed? model).map .string
      | none => carriedOver (settings.lookup tier.key) := by
  have hentry : ((ofSettings settings).replace opus sonnet haiku).entries.lookup tier.key =
      some ((tier.among opus sonnet haiku).getD
        (((settings.lookup tier.key).bind Json.text?).getD "")) := by
    cases tier <;> rfl
  rw [lookup_intoSettings, hentry]
  dsimp only
  cases tier.among opus sonnet haiku with
  | some model => rfl
  | none => exact map_trimmed?_text _

end ModelMapping

/-! ## 2. Runs of the command -/

namespace CommandLine

open ModelMapping (Holds IsPlain carriedOver)

variable {σ : Type} {content : σ → String → FileContent} {s s' : σ}

/-- A step and what follows it give a value exactly if the step succeeds and the rest, from what it
gave, does. -/
theorem run_orSay_bind_eq_ok_iff {α β : Type} {message : String}
    {step : StateM σ (Except Failure α)} {next : α → Action (StateM σ) β} {b : β} :
    (orSay message step >>= next).run.run s = (.ok b, s') ↔
      ∃ a s₁, step.run s = (.ok a, s₁) ∧ (next a).run.run s₁ = (.ok b, s') := by
  have hbind : (orSay message step >>= next).run.run s =
      (ExceptT.bindCont next ((step.run s).1.mapError fun f => ⟨message, some f.message⟩)).run
        (step.run s).2 := rfl
  rw [hbind]
  obtain ⟨⟨result, s₁⟩, hstep⟩ : ∃ ended, step.run s = ended := ⟨_, rfl⟩
  rw [hstep]
  constructor
  · intro h
    cases result with
    | error f => cases h
    | ok a => exact ⟨a, s₁, rfl, h⟩
  · rintro ⟨a, s₂, hended, h⟩
    obtain ⟨rfl, rfl⟩ := Prod.mk.inj hended
    exact h

namespace Surroundings

variable {surroundings : Surroundings (StateM σ)} {path : String}
  {opus sonnet haiku : Option String} {output : String}

/-- **The command succeeds exactly if a tier is given, the mapping is read and the changed one is
written.** -/
theorem run_setMapping_eq_ok_iff (hpath : surroundings.settingsPath = .ok path) :
    (surroundings.setMapping opus sonnet haiku).run.run s = (.ok output, s') ↔
      ¬ (opus.isNone ∧ sonnet.isNone ∧ haiku.isNone) ∧
      output = Output.mappingChanged surroundings.inColour ∧
      ∃ current s₁, (ModelMapping.read surroundings.files path).run s = (.ok current, s₁) ∧
        (ModelMapping.write surroundings.files path (current.replace opus sonnet haiku)).run s₁ =
          (.ok (), s') := by
  have hread : surroundings.readMapping = ModelMapping.read surroundings.files path := by
    rw [readMapping, hpath]
  have hwrite : ∀ m,
      surroundings.writeMapping m = ModelMapping.write surroundings.files path m := by
    intro m
    rw [writeMapping, hpath]
  rw [setMapping, hread]
  by_cases hgiven : opus.isNone ∧ sonnet.isNone ∧ haiku.isNone
  · rw [if_pos hgiven]
    constructor
    · intro h
      cases h
    · exact fun h => absurd hgiven h.1
  · rw [if_neg hgiven]
    simp only [hwrite]
    constructor
    · intro h
      obtain ⟨current, s₁, hcurrent, h⟩ := run_orSay_bind_eq_ok_iff.mp h
      obtain ⟨_, _, hwritten, h⟩ := run_orSay_bind_eq_ok_iff.mp h
      obtain ⟨houtput, rfl⟩ := Prod.mk.inj h
      exact ⟨hgiven, (Except.ok.inj houtput).symm, current, s₁, hcurrent, hwritten⟩
    · rintro ⟨-, rfl, current, s₁, hcurrent, hwritten⟩
      exact run_orSay_bind_eq_ok_iff.mpr
        ⟨current, s₁, hcurrent, run_orSay_bind_eq_ok_iff.mpr ⟨(), s', hwritten, rfl⟩⟩

/-- What a command that succeeds leaves of a text that holds an object. -/
theorem content_of_setMapping (hfiles : surroundings.files.Lawful content)
    (hpath : surroundings.settingsPath = .ok path) {text : String} {settings : List (String × Json)}
    (htext : content s path = .text text) (hread : Json.ofText? text = some (.object settings))
    (h : (surroundings.setMapping opus sonnet haiku).run.run s = (.ok output, s')) :
    content s' path = .text (Json.object
      (((ModelMapping.ofSettings settings).replace opus sonnet haiku).intoSettings
        settings)).pretty := by
  obtain ⟨-, -, current, s₁, hcurrent, hwrite⟩ := (run_setMapping_eq_ok_iff hpath).mp h
  have hsettings : ModelMapping.settingsOf (content s path) = .ok settings := by
    rw [htext, ModelMapping.settingsOf, hread]
    rfl
  rw [ModelMapping.read_run hfiles, hsettings] at hcurrent
  obtain ⟨hmapping, rfl⟩ := Prod.mk.inj hcurrent
  obtain rfl := Except.ok.inj hmapping
  obtain ⟨_, hupdated, htext'⟩ := ModelMapping.content_of_write hfiles hwrite
  rw [ModelMapping.updated, hsettings] at hupdated
  obtain rfl := Except.ok.inj hupdated
  exact htext'

/-- **What a change of some tiers makes of all of them.**  A text that holds an object holds one
afterwards.  A given model is set, or its field removed if it is blank; a tier that was not given is
carried over, which leaves its field as it was exactly if that was plain.  All other fields stay. -/
theorem setMapping_tiers (hfiles : surroundings.files.Lawful content)
    (hpath : surroundings.settingsPath = .ok path) {text : String} {settings : List (String × Json)}
    (htext : content s path = .text text) (hread : Json.ofText? text = some (.object settings))
    (h : (surroundings.setMapping opus sonnet haiku).run.run s = (.ok output, s')) :
    ∃ settings', content s' path = .text (Json.object settings').pretty ∧
      ((∀ n, (Json.object settings).HasNumber n → n.Survives) →
        Json.ofText? (Json.object settings').pretty = some (.object settings')) ∧
      (∀ tier : Tier, ∀ model, tier.among opus sonnet haiku = some model →
        settings'.lookup tier.key = (Text.trimmed? model).map .string) ∧
      (∀ tier : Tier, tier.among opus sonnet haiku = none →
        settings'.lookup tier.key = carriedOver (settings.lookup tier.key) ∧
        (settings'.lookup tier.key = settings.lookup tier.key ↔
          IsPlain (settings.lookup tier.key))) ∧
      ∀ key, (∀ tier : Tier, key ≠ tier.key) → settings'.lookup key = settings.lookup key := by
  refine ⟨_, content_of_setMapping hfiles hpath htext hread h, fun hnumbers => ?_,
    fun tier model hgiven => ?_, fun tier hgiven => ?_, fun key hkey => ?_⟩
  · exact ((Holds.text hread hnumbers).after _).ofText?_eq
  · rw [ModelMapping.lookup_replace, hgiven]
  · have hlookup := ModelMapping.lookup_replace settings opus sonnet haiku tier
    rw [hgiven] at hlookup
    refine ⟨hlookup, ?_⟩
    rw [hlookup]
    exact ModelMapping.carriedOver_eq_iff
  · rw [ModelMapping.lookup_intoSettings, ModelMapping.lookup_entries_eq_none_iff.mpr
      ⟨hkey .opus, hkey .sonnet, hkey .haiku⟩]

/-- A command that finds a home and the files in memory, and reaches nobody. -/
def inMemory : Surroundings (StateM (String → FileContent)) where
  lookup name := if name = "HOME" then some "/home" else none
  accountHome := none
  isTerminal := false
  files := .kept
  send _ := return .error .unbuildable
  clock := return 0

/-- A home with a settings file in it, and nothing else. -/
def homeFiles (settings : String) : String → FileContent :=
  ModelMapping.aloneAt "/home/.claude/settings.json" settings

/-- In memory the command goes through, whatever the settings file holds. -/
theorem run_setMapping_inMemory (settings : String) (opus sonnet haiku : Option String)
    (hgiven : ¬ (opus.isNone ∧ sonnet.isNone ∧ haiku.isNone)) :
    ∃ s', (inMemory.setMapping opus sonnet haiku).run.run (homeFiles settings) =
      (.ok (Output.mappingChanged inMemory.inColour), s') := by
  have hread : (ModelMapping.read .kept "/home/.claude/settings.json").run (homeFiles settings) =
      _ := ModelMapping.read_run Files.lawful_kept
  have haccepts : ModelMapping.Accepts .kept "/home/.claude/settings.json" (homeFiles settings) :=
    ModelMapping.kept_accepts settings (by decide)
  obtain ⟨s', _, hwritten, -⟩ := ModelMapping.write_run_text Files.lawful_kept haccepts rfl
  exact ⟨s', (run_setMapping_eq_ok_iff rfl).mpr ⟨hgiven, rfl, _, _, hread, hwritten⟩⟩

/-- Settings with a number, blanks around a text, and a plain text. -/
def mixedSettings : List (String × Json) :=
  [("haiku_model", .ofInt 7), ("opus_model", .string " opus "), ("sonnet_model", .string "sonnet")]

theorem mixedSettings_holds : Holds (.text (Json.object mixedSettings).pretty) mixedSettings := by
  have hsorted : Json.Ascending mixedSettings := by
    rw [Json.Ascending]
    decide
  have hcanonical : (Json.object mixedSettings).Canonical :=
    .object _ hsorted (List.forall_mem_cons.mpr ⟨.integer 7 (by decide),
      List.forall_mem_cons.mpr ⟨.string _, List.forall_mem_singleton.mpr (.string _)⟩⟩)
  have hlevels : (Json.object mixedSettings).NestsUpTo Document.nestingLimit :=
    .object (List.forall_mem_cons.mpr ⟨.number _ _,
      List.forall_mem_cons.mpr ⟨.string _ _, List.forall_mem_singleton.mpr (.string _ _)⟩⟩)
  have hnumbers : ∀ n, (Json.object mixedSettings).HasNumber n → n.Survives := by
    intro n hn
    obtain rfl : n = .integer 7 := by simpa [mixedSettings, Json.ofInt] using hn
    exact Json.Number.survives_integer (by decide)
  exact .text (Json.ofText?_pretty hcanonical hlevels hnumbers) hnumbers

/-- Of the tiers that are not given, the one with a plain text stays and the one with blanks around
its text does not. -/
theorem setMapping_tiers_mixed :
    ∃ s' settings',
      (inMemory.setMapping none none (some "haiku")).run.run
        (homeFiles (Json.object mixedSettings).pretty) =
          (.ok (Output.mappingChanged false), s') ∧
      s' "/home/.claude/settings.json" = .text (Json.object settings').pretty ∧
      settings'.lookup "haiku_model" = some (.string "haiku") ∧
      settings'.lookup "sonnet_model" = some (.string "sonnet") ∧
      settings'.lookup "opus_model" ≠ some (.string " opus ") := by
  obtain ⟨s', hrun⟩ := run_setMapping_inMemory (Json.object mixedSettings).pretty none none
    (some "haiku") (by decide)
  obtain ⟨settings', htext, -, hgiven, hkept, -⟩ :=
    setMapping_tiers Files.lawful_kept rfl rfl mixedSettings_holds.ofText?_eq hrun
  refine ⟨s', settings', hrun, htext, hgiven .haiku "haiku" rfl, ?_, ?_⟩
  · exact (hkept .sonnet rfl).2.mpr (.text rfl)
  · intro hsame
    obtain ⟨-, -⟩ | ⟨hplain⟩ := (hkept .opus rfl).2.mp hsame
    revert hplain
    decide

/-- **A tier that was not given is lost** if its field is no text, and blanks around a text are lost
with it. -/
theorem setMapping_loses_tiers :
    ∃ s' settings',
      (inMemory.setMapping none (some "sonnet") none).run.run
        (homeFiles (Json.object mixedSettings).pretty) =
          (.ok (Output.mappingChanged false), s') ∧
      s' "/home/.claude/settings.json" = .text (Json.object settings').pretty ∧
      Json.ofText? (Json.object settings').pretty = some (.object settings') ∧
      mixedSettings.lookup "haiku_model" = some (.ofInt 7) ∧
      settings'.lookup "haiku_model" = none ∧
      mixedSettings.lookup "opus_model" = some (.string " opus ") ∧
      settings'.lookup "opus_model" = some (.string "opus") := by
  obtain ⟨s', hrun⟩ := run_setMapping_inMemory (Json.object mixedSettings).pretty none
    (some "sonnet") none (by decide)
  have htext := content_of_setMapping Files.lawful_kept rfl rfl mixedSettings_holds.ofText?_eq hrun
  have hcarried := ModelMapping.lookup_replace mixedSettings none (some "sonnet") none
  have htrimmed : Text.trimmed? " opus " = some "opus" := rfl
  exact ⟨s', _, hrun, htext, (mixedSettings_holds.after _).ofText?_eq, rfl, hcarried .haiku, rfl,
    (hcarried .opus).trans (congrArg (Option.map Json.string) htrimmed)⟩

end Surroundings

end CommandLine

end QuotaBoard
