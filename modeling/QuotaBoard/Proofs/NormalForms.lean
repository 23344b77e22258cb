import QuotaBoard.Proofs.FieldTexts
import QuotaBoard.Proofs.LowerCase
import QuotaBoard.Proofs.Ranges
import QuotaBoard.Proofs.SchemaDrift
import QuotaBoard.Proofs.Windows

/-!
# What was read is read again

A reader takes a value for a text, a number or a flag.  What it finds is kept in records, records
are written as values, and values are read by the same readers, so nothing may change on the way.
Two facts about each reader make sure of that (`Normalizes.of`): it finds normal forms only, and it
takes a normal form, written as a value, for itself.

* Texts are trimmed and not empty (`Text.IsTrimmed`), whether they were sent as texts or are the
  digits of a number.  An index is such a text.
* A plan is such a text in lower case.  Blanks are removed before letters are changed, so this rests
  on two facts about lower case: it is settled, and it makes no blanks (`IsTrimmed.lower`).
* Any number and any flag is a normal form, a fraction one between zero and one, and a percentage
  one between zero and a hundred, where moving it changes nothing (`clamp_of_mem`).

The index of a credential is read twice, from its catalog entry and before each use.  The second
reading changes nothing (`authIndex?_of_ofEntry?`).
-/

namespace QuotaBoard

/-! ## 1. Normal forms -/

namespace Text

variable {s : String}

/-- The text is not empty and has a blank at neither end. -/
structure IsTrimmed (s : String) : Prop where
  nonempty : s ≠ ""
  first : ∀ c ∈ s.toList.head?, isBlank c = false
  last : ∀ c ∈ s.toList.getLast?, isBlank c = false

theorem isTrimmed_iff : IsTrimmed s ↔ trim s = s ∧ s ≠ "" := by
  constructor
  · intro h
    refine ⟨?_, h.nonempty⟩
    rw [trim, trimList_of_ends h.first h.last, String.ofList_toList]
  · rintro ⟨htrim, hne⟩
    obtain ⟨hfirst, hlast⟩ := ends_trimList s.toList
    rw [trimList_of_trim_eq htrim] at hfirst hlast
    exact ⟨hne, hfirst, hlast⟩

/-- A trimmed text is trimmed in lower case, too. -/
theorem IsTrimmed.lower (h : IsTrimmed s) : IsTrimmed (lower s) := by
  have hchars : (Text.lower s).toList = lowerList [] s.toList := String.toList_ofList
  refine ⟨?_, ?_, ?_⟩
  · rw [ne_eq, ← String.toList_inj, hchars]
    exact lowerList_ne_nil (fun hnil => h.nonempty (String.toList_inj.mp hnil)) []
  · rw [hchars]
    exact head?_lowerList [] h.first
  · rw [hchars]
    exact getLast?_lowerList [] h.last

end Text

namespace Double

variable {x lo hi : Double}

/-- A number that lies in the range already is not moved. -/
theorem clamp_of_mem (hlow : lo ≤ x) (hhigh : x ≤ hi) : x.clamp lo hi = x := by
  have hlow' : ¬ x < lo := Int.not_lt.mpr hlow
  have hhigh' : ¬ hi < x := Int.not_lt.mpr hhigh
  rw [clamp, if_neg hlow', if_neg hhigh']

/-- A number that is moved into the percentages lies among them. -/
theorem clamp_mem (x : Double) : 0 ≤ x.clamp 0 100 ∧ x.clamp 0 100 ≤ 100 := by
  have hends : (0 : Double) ≤ 100 := by decide +kernel
  generalize hmoved : x.clamp 0 100 = y
  have hy : x.MovedToPercent y := hmoved ▸ x.movedToPercent_clamp
  cases hy with
  | below => exact ⟨Int.le_refl _, hends⟩
  | inside hlow hhigh => exact ⟨hlow, hhigh⟩
  | above => exact ⟨hends, Int.le_refl _⟩

end Double

/-! ## 2. Readers -/

namespace Json

/-- What a reader finds it finds again once it is written as a value, and what it finds at all are
the normal forms. -/
structure Normalizes {α : Type} (read : Json → Option α) (write : α → Json) (Normal : α → Prop) :
    Prop where
  again : ∀ v r, read v = some r → read (write r) = some r
  found_iff : ∀ r, (∃ v, read v = some r) ↔ Normal r

/-- A reader that finds normal forms only and takes each of them for itself. -/
theorem Normalizes.of {α : Type} {read : Json → Option α} {write : α → Json} {Normal : α → Prop}
    (hnormal : ∀ v r, read v = some r → Normal r)
    (hkeeps : ∀ r, Normal r → read (write r) = some r) : Normalizes read write Normal where
  again v r h := hkeeps r (hnormal v r h)
  found_iff r := ⟨fun ⟨v, h⟩ => hnormal v r h, fun h => ⟨write r, hkeeps r h⟩⟩

theorem isTrimmed_of_asText? {v : Json} {s : String} (h : v.asText? = some s) :
    Text.IsTrimmed s := by
  have hsaid := asText?_eq_some_iff.mp h
  refine Text.isTrimmed_iff.mpr ⟨hsaid.trim_eq, ?_⟩
  rintro rfl
  exact hsaid.not_blank (Text.trim_eq_empty_iff.mp rfl)

theorem asText?_of_isTrimmed {s : String} (h : Text.IsTrimmed s) :
    asText? (.string s) = some s := by
  rw [asText?]
  exact Text.trimmed?_eq_some_iff_trim_eq.mpr (Text.isTrimmed_iff.mp h)

theorem normalizes_asText? : Normalizes asText? .string Text.IsTrimmed :=
  .of (fun _ _ => isTrimmed_of_asText?) fun _ => asText?_of_isTrimmed

/-- An index is read as a text would be, or not at all. -/
theorem asText?_of_asIndex? {v : Json} {s : String} (h : v.asIndex? = some s) :
    v.asText? = some s := by
  unfold asIndex? at h
  split at h
  · rw [asText?]
    exact h
  · cases h
  · exact h

theorem normalizes_asIndex? : Normalizes asIndex? .string Text.IsTrimmed := by
  refine .of (fun v s h => isTrimmed_of_asText? (asText?_of_asIndex? h)) fun s hs => ?_
  have hstring : asIndex? (.string s) = asText? (.string s) := by simp [asIndex?]
  rw [hstring, asText?_of_isTrimmed hs]

/-- A plan is trimmed and in lower case, letter by letter. -/
theorem normalizes_asPlan? :
    Normalizes asPlan? .string fun s =>
      Text.IsTrimmed s ∧ ∀ c ∈ s.toList, Text.lowerOf c = [c] := by
  refine .of (fun v s h => ?_) fun s ⟨htrimmed, hlower⟩ => ?_
  · obtain ⟨t, ht, rfl⟩ := Option.map_eq_some_iff.mp h
    exact ⟨(isTrimmed_of_asText? ht).lower, Text.lower_eq_self_iff.mp (Text.lower_lower t)⟩
  · rw [asPlan?, asText?_of_isTrimmed htrimmed, Option.map_some, Text.lower_eq_self_iff.mpr hlower]

theorem asNumber?_ofDouble (x : Double) : (ofDouble x).asNumber? = some x := rfl

theorem normalizes_asNumber? : Normalizes asNumber? ofDouble fun _ => True :=
  .of (fun _ _ _ => trivial) fun x _ => asNumber?_ofDouble x

theorem normalizes_asFraction? : Normalizes asFraction? ofDouble fun x => 0 ≤ x ∧ x ≤ 1 := by
  refine .of (fun v x h => ?_) fun x hx => ?_
  · exact of_decide_eq_true (Option.filter_eq_some_iff.mp h).2
  · exact Option.filter_eq_some_iff.mpr ⟨asNumber?_ofDouble x, decide_eq_true hx⟩

theorem normalizes_asPercent? : Normalizes asPercent? ofDouble fun x => 0 ≤ x ∧ x ≤ 100 := by
  refine .of (fun v x h => ?_) fun x ⟨hlow, hhigh⟩ => ?_
  · obtain ⟨y, -, rfl⟩ := Option.map_eq_some_iff.mp h
    exact y.clamp_mem
  · rw [asPercent?, asNumber?_ofDouble, Option.map_some, Double.clamp_of_mem hlow hhigh]

theorem normalizes_asFlag? : Normalizes asFlag? .bool fun _ => True :=
  .of (fun _ _ _ => trivial) fun _ _ => rfl

end Json

/-! ## 3. The index of a credential -/

/-- The index of a stored credential is one that was read. -/
theorem Credential.exists_asIndex?_of_ofEntry? {entry : Json} {c : Credential} {index : String}
    (hc : ofEntry? entry = some c) (hindex : c.authIndex = some index) :
    ∃ v : Json, v.asIndex? = some index := by
  rw [ofEntry?_eq] at hc
  obtain ⟨name, -, rfl⟩ := Option.map_eq_some_iff.mp hc
  have hread : ∀ v : Json, ∀ s ∈ v.asIndex?, ∃ v : Json, v.asIndex? = some s :=
    fun v s hs => ⟨v, hs⟩
  exact Json.of_mem_probe? hread index hindex

theorem Credential.authIndex?_of_ofEntry? {entry : Json} {c : Credential}
    (hc : ofEntry? entry = some c) : c.authIndex? = c.authIndex := by
  rw [authIndex?]
  cases hindex : c.authIndex with
  | none => rfl
  | some index =>
    obtain ⟨v, hv⟩ := exists_asIndex?_of_ofEntry? hc hindex
    rw [Option.bind_some, Json.normalizes_asIndex?.again v index hv]

/-- **What was read is read again**: each reader takes what it found, written as a value, for
itself, and the usable index of a credential is the one that is stored. -/
theorem readers_normalize :
    Json.Normalizes Json.asText? .string Text.IsTrimmed ∧
      Json.Normalizes Json.asNumber? Json.ofDouble (fun _ => True) ∧
      Json.Normalizes Json.asFraction? Json.ofDouble (fun x => 0 ≤ x ∧ x ≤ 1) ∧
      Json.Normalizes Json.asPercent? Json.ofDouble (fun x => 0 ≤ x ∧ x ≤ 100) ∧
      Json.Normalizes Json.asPlan? .string
        (fun s => Text.IsTrimmed s ∧ ∀ c ∈ s.toList, Text.lowerOf c = [c]) ∧
      Json.Normalizes Json.asIndex? .string Text.IsTrimmed ∧
      Json.Normalizes Json.asFlag? .bool (fun _ => True) ∧
      ∀ entry c, Credential.ofEntry? entry = some c → c.authIndex? = c.authIndex :=
  ⟨Json.normalizes_asText?, Json.normalizes_asNumber?, Json.normalizes_asFraction?,
    Json.normalizes_asPercent?, Json.normalizes_asPlan?, Json.normalizes_asIndex?,
    Json.normalizes_asFlag?, fun _ _ => Credential.authIndex?_of_ofEntry?⟩

/-- The catalog entry of a credential whose index is a number. -/
def sampleIndexed : Json :=
  .object [("auth_index", .string "\u2003"), ("authIndex", .ofInt (-12)),
    ("name", .string "a.json")]

/-- A number that is written with an exponent, negative zero, both ends of their ranges, and a plan
with a capital of two small characters and a sigma at its end. -/
theorem readers_normalize_sample :
    (Json.asText? (.ofDouble (.ofInt 10000000000000000000000)) = some "1e+22" ∧
      Json.asText? (.string "1e+22") = some "1e+22") ∧
    (Json.asNumber? (.string " -.0e5 ") = some ⟨true, 0, by decide⟩ ∧
      Json.asNumber? (.ofDouble ⟨true, 0, by decide⟩) = some ⟨true, 0, by decide⟩) ∧
    (Json.asFraction? (.string "+1.") = some 1 ∧ Json.asFraction? (.ofDouble 1) = some 1) ∧
    (Json.asPercent? (.string "100.4") = some 100 ∧ Json.asPercent? (.ofDouble 100) = some 100) ∧
    (Json.asPlan? (.string "\u2003\u0130 ΟΔΟΣ\u00A0") = some "i\u0307 οδος" ∧
      Json.asPlan? (.string "i\u0307 οδος") = some "i\u0307 οδος") ∧
    (Json.asIndex? (.ofInt (-12)) = some "-12" ∧ Json.asIndex? (.string "-12") = some "-12") ∧
    (Json.asFlag? (.string " YES ") = some true ∧ Json.asFlag? (.bool true) = some true) ∧
    ∃ c, Credential.ofEntry? sampleIndexed = some c ∧ c.authIndex = some "-12" ∧
      c.authIndex? = c.authIndex := by
  obtain ⟨htexts, hnumbers, hfractions, hpercents, hplans, hindices, hflags, hcredentials⟩ :=
    readers_normalize
  have htext : Json.asText? (.ofDouble (.ofInt 10000000000000000000000)) = some "1e+22" := by
    decide +kernel
  have hnumber : Json.asNumber? (.string " -.0e5 ") = some ⟨true, 0, by decide⟩ := by
    decide +kernel
  have hfraction : Json.asFraction? (.string "+1.") = some 1 := by decide +kernel
  have hpercent : Json.asPercent? (.string "100.4") = some 100 := by decide +kernel
  have hplan : Json.asPlan? (.string "\u2003\u0130 ΟΔΟΣ\u00A0") = some "i\u0307 οδος" := by
    decide +kernel
  have hindex : Json.asIndex? (.ofInt (-12)) = some "-12" := by decide +kernel
  have hflag : Json.asFlag? (.string " YES ") = some true := by decide +kernel
  refine ⟨⟨htext, htexts.again _ _ htext⟩, ⟨hnumber, hnumbers.again _ _ hnumber⟩,
    ⟨hfraction, hfractions.again _ _ hfraction⟩, ⟨hpercent, hpercents.again _ _ hpercent⟩,
    ⟨hplan, hplans.again _ _ hplan⟩, ⟨hindex, hindices.again _ _ hindex⟩,
    ⟨hflag, hflags.again _ _ hflag⟩, ?_⟩
  have hcredential : (Credential.ofEntry? sampleIndexed).map (·.authIndex) = some (some "-12") := by
    decide +kernel
  obtain ⟨c, hc, hauth⟩ := Option.map_eq_some_iff.mp hcredential
  exact ⟨c, hc, hauth, hcredentials _ c hc⟩

end QuotaBoard
