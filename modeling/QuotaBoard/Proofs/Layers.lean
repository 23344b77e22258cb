import QuotaBoard.Config.Layers
import QuotaBoard.Proofs.Numerals
import QuotaBoard.Proofs.Scanning

/-!
# What the layers of the configuration make of it

Two fields have three layers each, and a layer counts if it gives a value: an address of a web
server, or a key that is not blank.  `Layered` is that choice without the functions that make it
(`layered_iff`).  A given address is never blank (`GivesAddress.not_blank`): its scheme starts with
a letter, and no letter is taken off with the slashes at its end.  So a layer that gives one repairs
a blank file.

The requirements are looked at after the choice, one after the other; `Verdict` is what becomes of a
configuration (`validate_verdict`).
-/

namespace QuotaBoard

/-! ## 1. Addresses -/

namespace Text

theorem isBlank_of_isAlpha {c : Char} (h : c.isAlpha = true) : isBlank c = false := by
  have hcodes : (65 ≤ c.toNat ∧ c.toNat ≤ 90) ∨ (97 ≤ c.toNat ∧ c.toNat ≤ 122) := by
    have hranges : (decide ('A'.val ≤ c.val ∧ c.val ≤ 'Z'.val) ||
        (decide ('a'.val ≤ c.val) && decide (c.val ≤ 'z'.val))) = true := h
    rw [Bool.or_eq_true, Bool.and_eq_true, decide_eq_true_eq, decide_eq_true_eq,
      decide_eq_true_eq] at hranges
    exact hranges
  exact isBlank_of_toNat (by omega) (by omega)

theorem mem_dropTrailingSlashes {s : String} {c : Char} (h : c ∈ s.toList) (hc : c ≠ '/') :
    c ∈ (dropTrailingSlashes s).toList := by
  rw [dropTrailingSlashes, String.toList_ofList, List.mem_reverse]
  have hmem : c ∈ s.toList.reverse.takeWhile (· = '/') ++ s.toList.reverse.dropWhile (· = '/') := by
    rw [List.takeWhile_append_dropWhile]
    exact List.mem_reverse.mpr h
  refine (List.mem_append.mp hmem).resolve_left fun hslash => hc ?_
  simpa using List.mem_takeWhile_imp hslash

end Text

namespace Url

theorem mem_of_mem_clean {cs : List Char} {c : Char} (h : c ∈ clean cs) : c ∈ cs := by
  have hmem := List.mem_of_mem_filter h
  rw [List.mem_reverse] at hmem
  have hinner := (List.dropWhile_suffix _).subset hmem
  rw [List.mem_reverse] at hinner
  exact (List.dropWhile_suffix _).subset hinner

/-- A web address has a letter in it: its scheme starts with one. -/
theorem exists_isAlpha_of_isWebAddress {s : String} (h : isWebAddress s = true) :
    ∃ c ∈ s.toList, c.isAlpha = true := by
  unfold isWebAddress parse at h
  cases hscheme : splitScheme? (clean s.toList) with
  | none => simp [hscheme] at h
  | some p =>
    unfold splitScheme? at hscheme
    split at hscheme
    · rename_i c rest hclean
      split at hscheme
      · rename_i halpha
        exact ⟨c, mem_of_mem_clean (hclean ▸ List.mem_cons_self), halpha⟩
      · cases hscheme
    · cases hscheme

/-- Nothing blank is a web address, and it stays so without the slashes at its end. -/
theorem not_blank_dropTrailingSlashes {s : String} (h : isWebAddress s = true) :
    ¬ Text.Blank (Text.dropTrailingSlashes s) := by
  obtain ⟨c, hc, halpha⟩ := exists_isAlpha_of_isWebAddress h
  have hslash : c ≠ '/' := by
    rintro rfl
    exact absurd halpha (by decide)
  intro hblank
  have hc' := hblank c (Text.mem_dropTrailingSlashes hc hslash)
  exact absurd ((Text.isBlank_of_isAlpha halpha).symm.trans hc') (by decide)

end Url

namespace Config

open Text (Blank)

/-! ## 2. What a layer says -/

/-- What is said is the address of a web server; it is kept without slashes at its end. -/
def GivesAddress (said address : String) : Prop :=
  ¬ Blank said ∧ Url.isWebAddress (Text.trim said) = true ∧
    address = Text.dropTrailingSlashes (Text.trim said)

/-- What is said is a key; it is kept without the blanks around it. -/
def GivesKey (said key : String) : Prop := ¬ Blank said ∧ key = Text.trim said

theorem usableUrl?_eq_some_iff {said address : String} :
    usableUrl? said = some address ↔ GivesAddress said address := by
  rw [usableUrl?, Option.bind_eq_some_iff, GivesAddress]
  constructor
  · rintro ⟨url, hurl, h⟩
    obtain ⟨hblank, rfl⟩ := Text.trimmed?_eq_some_iff.mp hurl
    split at h
    · rename_i hweb
      exact ⟨hblank, hweb, (Option.some.inj h).symm⟩
    · cases h
  · rintro ⟨hblank, hweb, rfl⟩
    exact ⟨_, Text.trimmed?_eq_some_iff.mpr ⟨hblank, rfl⟩, if_pos hweb⟩

theorem GivesAddress.not_blank {said address : String} (h : GivesAddress said address) :
    ¬ Blank address := by
  obtain ⟨-, hweb, rfl⟩ := h
  exact Url.not_blank_dropTrailingSlashes hweb

/-- The value of a field in three layers: the uppermost layer that gives one counts,
and the lowest one has a value in any case. -/
inductive Layered (gives : String → String → Prop) (file : String) :
    (explicit environment : Option String) → (value : String) → Prop where
  | explicit {said value : String} {environment : Option String} (h : gives said value) :
      Layered gives file (some said) environment value
  | environment {explicit : Option String} {said value : String}
      (hexplicit : ∀ said ∈ explicit, ∀ value, ¬ gives said value) (h : gives said value) :
      Layered gives file explicit (some said) value
  | file {explicit environment : Option String}
      (hexplicit : ∀ said ∈ explicit, ∀ value, ¬ gives said value)
      (henvironment : ∀ said ∈ environment, ∀ value, ¬ gives said value) :
      Layered gives file explicit environment file

theorem layered_iff {gives : String → String → Prop} {take : String → Option String}
    (htake : ∀ said value, take said = some value ↔ gives said value) {file value : String}
    {explicit environment : Option String} :
    Layered gives file explicit environment value ↔
      (explicit.bind take).getD ((environment.bind take).getD file) = value := by
  have hnone : ∀ layer : Option String,
      layer.bind take = none ↔ ∀ said ∈ layer, ∀ value, ¬ gives said value := by
    intro layer
    cases layer with
    | none => simp
    | some said => simp [Option.eq_none_iff_forall_ne_some, htake]
  constructor
  · rintro (h | ⟨hexplicit, h⟩ | ⟨hexplicit, henvironment⟩)
    · rw [Option.bind_some, (htake _ _).mpr h, Option.getD_some]
    · rw [(hnone _).mpr hexplicit, Option.getD_none, Option.bind_some, (htake _ _).mpr h,
        Option.getD_some]
    · rw [(hnone _).mpr hexplicit, (hnone _).mpr henvironment, Option.getD_none, Option.getD_none]
  · rintro rfl
    cases hexplicit : explicit.bind take with
    | some value =>
      obtain ⟨said, rfl, h⟩ := Option.bind_eq_some_iff.mp hexplicit
      exact .explicit ((htake _ _).mp h)
    | none =>
      cases henvironment : environment.bind take with
      | some value =>
        obtain ⟨said, rfl, h⟩ := Option.bind_eq_some_iff.mp henvironment
        exact .environment ((hnone _).mp hexplicit) ((htake _ _).mp h)
      | none => exact .file ((hnone _).mp hexplicit) ((hnone _).mp henvironment)

/-- Under two layers the address and the key are replaced, each by its own choice. -/
theorem override_override (c : Config) (environment explicit : Overrides) :
    (c.override environment).override explicit =
      { c with management :=
        { c.management with
          baseUrl := (explicit.baseUrl.bind usableUrl?).getD
            ((environment.baseUrl.bind usableUrl?).getD c.management.baseUrl)
          key := (explicit.key.bind Text.trimmed?).getD
            ((environment.key.bind Text.trimmed?).getD c.management.key) } } := rfl

/-- A layer that gives an address repairs what is below it. -/
theorem Layered.not_blank {file baseUrl said address : String}
    {explicit environment : Option String}
    (h : Layered GivesAddress file explicit environment baseUrl)
    (hsaid : explicit = some said ∨ environment = some said) (hgives : GivesAddress said address) :
    ¬ Blank baseUrl := by
  cases h with
  | explicit h => exact h.not_blank
  | environment _ h => exact h.not_blank
  | file hexplicit henvironment =>
    rcases hsaid with rfl | rfl
    · exact absurd hgives (hexplicit said rfl address)
    · exact absurd hgives (henvironment said rfl address)

/-! ## 3. What a configuration must have -/

/-- What becomes of a configuration: the error of the first thing that it lacks, or itself. -/
inductive Verdict (c : Config) : Except ConfigError Config → Prop where
  | noBaseUrl (h : Blank c.management.baseUrl) :
      Verdict c (.error (.invalid "management.base_url" "must not be empty"))
  | noTimeout (hurl : ¬ Blank c.management.baseUrl) (h : c.management.timeoutSecs = 0) :
      Verdict c (.error (.invalid "management.timeout_secs" "must be greater than zero"))
  | noQuotaUrls (hurl : ¬ Blank c.management.baseUrl) (htimeout : 0 < c.management.timeoutSecs)
      (h : c.endpoints.antigravityQuotaUrls = []) :
      Verdict c (.error (.invalid "endpoints.antigravity_quota_urls" "must list at least one URL"))
  | noTierUrls (hurl : ¬ Blank c.management.baseUrl) (htimeout : 0 < c.management.timeoutSecs)
      (hquota : c.endpoints.antigravityQuotaUrls ≠ [])
      (h : c.endpoints.antigravityTierUrls = []) :
      Verdict c (.error (.invalid "endpoints.antigravity_tier_urls" "must list at least one URL"))
  | noProject (hurl : ¬ Blank c.management.baseUrl) (htimeout : 0 < c.management.timeoutSecs)
      (hquota : c.endpoints.antigravityQuotaUrls ≠ [])
      (htier : c.endpoints.antigravityTierUrls ≠ []) (h : Blank c.defaultProjectId) :
      Verdict c (.error (.invalid "default_project_id" "must not be empty"))
  | accepted (hurl : ¬ Blank c.management.baseUrl) (htimeout : 0 < c.management.timeoutSecs)
      (hquota : c.endpoints.antigravityQuotaUrls ≠ [])
      (htier : c.endpoints.antigravityTierUrls ≠ []) (hproject : ¬ Blank c.defaultProjectId) :
      Verdict c (.ok c)

/-- The requirements are looked at in this order. -/
theorem validate_verdict (c : Config) : Verdict c c.validate := by
  have hfilled : ∀ s, (Text.trimmed? s).isSome = !decide (Blank s) := by
    intro s
    by_cases h : Blank s
    · simp [Text.trimmed?_eq_none_iff.mpr h, h]
    · simp [Text.trimmed?_eq_some_iff.mpr ⟨h, rfl⟩, h]
  unfold validate requirements
  simp only [List.find?_cons, hfilled]
  -- in the order of the list: a requirement is the first that is not met, or it is met
  by_cases hurl : Blank c.management.baseUrl
  · simpa [hurl] using Verdict.noBaseUrl hurl
  by_cases htimeout : c.management.timeoutSecs = 0
  · simpa [hurl, htimeout] using Verdict.noTimeout hurl htimeout
  have hpos : 0 < c.management.timeoutSecs := UInt64.pos_iff_ne_zero.mpr htimeout
  by_cases hquota : c.endpoints.antigravityQuotaUrls = []
  · simpa [hurl, htimeout, hquota] using Verdict.noQuotaUrls hurl hpos hquota
  have hquota' : c.endpoints.antigravityQuotaUrls.isEmpty = false :=
    List.isEmpty_eq_false_iff.mpr hquota
  by_cases htier : c.endpoints.antigravityTierUrls = []
  · simpa [hurl, htimeout, hquota', htier] using Verdict.noTierUrls hurl hpos hquota htier
  have htier' : c.endpoints.antigravityTierUrls.isEmpty = false :=
    List.isEmpty_eq_false_iff.mpr htier
  by_cases hproject : Blank c.defaultProjectId
  · simpa [hurl, htimeout, hquota', htier', hproject] using
      Verdict.noProject hurl hpos hquota htier hproject
  · simpa [hurl, htimeout, hquota', htier', hproject] using
      Verdict.accepted hurl hpos hquota htier hproject

/-- What is made of a file that was read. -/
theorem load_of_ok {path : String} {content : FileContent} {c : Config}
    (h : ofFile path content = .ok c) (environment explicit : Overrides) :
    load path content environment explicit =
      ((c.override environment).override explicit).validate.mapError .config := by
  rw [load, h]
  dsimp only [bind, Except.bind]

/-- **The configuration in use, layer by layer**: what is wrong with the file is reported whatever
the other layers say, and otherwise the requirements decide about the file's configuration with the
address and the key that its layers choose. -/
theorem load_layers (path : String) (content : FileContent) (environment explicit : Overrides) :
    (content = .missing ∨ (∃ message, content = .blocked message) →
      ofFile path content = .ok default) ∧
    (∀ e, ofFile path content = .error e →
      load path content environment explicit = .error e) ∧
    ∀ c, ofFile path content = .ok c → ∃ baseUrl key,
      Layered GivesAddress c.management.baseUrl explicit.baseUrl environment.baseUrl baseUrl ∧
      Layered GivesKey c.management.key explicit.key environment.key key ∧
      (∃ verdict, Verdict { c with management := { c.management with baseUrl, key } } verdict ∧
        load path content environment explicit = verdict.mapError .config) ∧
      ((∃ said address, (explicit.baseUrl = some said ∨ environment.baseUrl = some said) ∧
        GivesAddress said address) → ¬ Blank baseUrl) := by
  refine ⟨?_, fun e he => ?_, fun c hc => ?_⟩
  · rintro (rfl | ⟨message, rfl⟩) <;> rfl
  · rw [load, he]
    rfl
  · have hurl := (layered_iff fun _ _ => usableUrl?_eq_some_iff).mpr
      (rfl : (explicit.baseUrl.bind usableUrl?).getD
        ((environment.baseUrl.bind usableUrl?).getD c.management.baseUrl) = _)
    have hkey := (layered_iff fun _ _ => Text.trimmed?_eq_some_iff).mpr
      (rfl : (explicit.key.bind Text.trimmed?).getD
        ((environment.key.bind Text.trimmed?).getD c.management.key) = _)
    refine ⟨_, _, hurl, hkey, ⟨_, validate_verdict _, ?_⟩, ?_⟩
    · rw [load_of_ok hc, override_override]
    · rintro ⟨said, address, hsaid, h⟩
      exact hurl.not_blank hsaid h

/-- The configuration of a file with a blank address. -/
def sampleBlank : Config :=
  { default with management := { Management.default with baseUrl := " " } }

/-- A blank address under two layers, of which only the environment gives one. -/
theorem load_layers_repaired :
    ofFile "config.json" (.text "\x7b\"management\":\x7b\"base_url\":\" \"\x7d\x7d") =
      .ok sampleBlank ∧
    ∃ baseUrl key,
      Layered GivesAddress " " (some "ftp://proxy") (some " http://10.0.0.2:8317/ ") baseUrl ∧
      Layered GivesKey "" (some " ") none key ∧
      (∃ verdict,
        Verdict { sampleBlank with management := { sampleBlank.management with baseUrl, key } }
          verdict ∧
        load "config.json" (.text "\x7b\"management\":\x7b\"base_url\":\" \"\x7d\x7d")
          ⟨some " http://10.0.0.2:8317/ ", none⟩ ⟨some "ftp://proxy", some " "⟩ =
            verdict.mapError .config) ∧
      ¬ Blank baseUrl := by
  have hfile : ofFile "config.json"
      (.text "\x7b\"management\":\x7b\"base_url\":\" \"\x7d\x7d") = .ok sampleBlank := by
    decide +kernel
  have hgives : GivesAddress " http://10.0.0.2:8317/ " "http://10.0.0.2:8317" := by
    refine ⟨by decide +kernel, by decide +kernel, by decide +kernel⟩
  obtain ⟨baseUrl, key, hurl, hkey, hverdict, hblank⟩ :=
    (load_layers "config.json" _ ⟨some " http://10.0.0.2:8317/ ", none⟩
      ⟨some "ftp://proxy", some " "⟩).2.2 _ hfile
  exact ⟨hfile, baseUrl, key, hurl, hkey, hverdict, hblank ⟨_, _, .inr rfl, hgives⟩⟩

end Config

end QuotaBoard
