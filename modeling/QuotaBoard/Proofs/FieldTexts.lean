import QuotaBoard.Proofs.Accounts
import QuotaBoard.Proofs.Replies

/-!
# The text of a field

What the field of a value says is looked for under the two spellings of its key, and the second one
is looked at only if there is nothing of use under the first (`textAt?_eq_some_iff`).  Whatever is
found is fit to be shown: there are no blanks around it, and it does not consist of blanks
(`Says.trim_eq`, `Says.not_blank`).
-/

namespace QuotaBoard

namespace Text

theorem trim_eq_empty_iff {s : String} : trim s = "" ↔ Blank s := by
  rw [Blank, ← trimList_eq_nil_iff, ← String.toList_inj, trim, String.toList_ofList]
  rfl

/-- What a text is trimmed to, if anything. -/
theorem trimmed?_eq_some_iff_trim_eq {s t : String} :
    trimmed? s = some t ↔ trim s = t ∧ t ≠ "" := by
  rw [trimmed?_eq_some_iff, ← trim_eq_empty_iff]
  constructor
  · rintro ⟨hne, rfl⟩
    exact ⟨rfl, hne⟩
  · rintro ⟨rfl, hne⟩
    exact ⟨hne, rfl⟩

/-- What is trimmed neither starts nor ends with a blank. -/
theorem ends_trimList (cs : List Char) :
    (∀ c ∈ (trimList cs).head?, isBlank c = false) ∧
      ∀ c ∈ (trimList cs).getLast?, isBlank c = false := by
  have hend : trimList cs = (trimStartList cs).rdropWhile isBlank := rfl
  constructor
  · intro c hc
    -- the first character is the first of the text without the blanks at its start
    obtain ⟨after, hafter⟩ := List.rdropWhile_prefix isBlank (l := trimStartList cs)
    have hfirst : (trimStartList cs).head? = some c := by
      rw [← hafter, ← hend, List.head?_append, hc, Option.some_or]
    have hnot := List.head?_dropWhile_not isBlank cs
    rw [trimStartList] at hfirst
    simpa [hfirst] using hnot
  · intro c hc
    have hne : (trimStartList cs).rdropWhile isBlank ≠ [] := by
      rintro hnil
      rw [hend, hnil] at hc
      cases hc
    have hlast := List.rdropWhile_last_not isBlank _ hne
    rw [hend, List.getLast?_eq_some_getLast hne] at hc
    obtain rfl := Option.some.inj hc
    simpa using hlast

/-- To trim twice is to trim once. -/
theorem trim_trim (s : String) : trim (trim s) = trim s := by
  obtain ⟨hfirst, hlast⟩ := ends_trimList s.toList
  rw [trim, trim, String.toList_ofList, trimList_of_ends hfirst hlast]

end Text

namespace Json

variable {v : Json} {key said : String}

/-! ## 1. Both spellings of a key -/

/-- What a value says under a key or, if it says nothing there, under the other spelling. -/
inductive SaysUnder (v : Json) (key said : String) : Prop where
  | own (h : v.SaysAt key said)
  | other (hown : ∀ s, ¬ v.SaysAt key s) (h : v.SaysAt (camelCase key) said)

theorem textAt?_eq_some_iff : v.textAt? key = some said ↔ v.SaysUnder key said := by
  rw [textAt?, probe?, Option.or_eq_some_iff, Option.eq_none_iff_forall_ne_some]
  simp only [ne_eq, bind_asText?_eq_some_iff]
  constructor
  · rintro (h | ⟨hown, h⟩)
    · exact .own h
    · exact .other hown h
  · rintro (h | ⟨hown, h⟩)
    · exact .inl h
    · exact .inr ⟨hown, h⟩

theorem textAt?_eq_none_iff : v.textAt? key = none ↔ ∀ s, ¬ v.SaysUnder key s := by
  simp only [Option.eq_none_iff_forall_ne_some, ne_eq, textAt?_eq_some_iff]

/-- A key that has only one spelling. -/
theorem saysUnder_iff_of_camelCase_eq (h : camelCase key = key) :
    v.SaysUnder key said ↔ v.SaysAt key said := by
  constructor
  · rintro (hown | ⟨-, hother⟩)
    · exact hown
    · exact h ▸ hother
  · exact .own

/-- What the object under a key with one spelling says is what its field says. -/
theorem bind_textAt?_eq_some_iff {part : String} (hpart : camelCase part = part) :
    (v.objectAt? part).bind (·.textAt? key) = some said ↔
      ∃ field, v.get? part = some field ∧ field.SaysUnder key said := by
  have hread : ∀ field : Json, field.isObject = false → field.textAt? key = none := by
    intro field hfield
    cases field <;> first | rfl | cases hfield
  rw [bind_objectAt? hpart hread]
  simp only [Option.bind_eq_some_iff, textAt?_eq_some_iff]

theorem bind_textAt?_eq_none_iff {part : String} (hpart : camelCase part = part) :
    (v.objectAt? part).bind (·.textAt? key) = none ↔
      ∀ field, v.get? part = some field → ∀ s, ¬ field.SaysUnder key s := by
  simp only [Option.eq_none_iff_forall_ne_some, ne_eq, bind_textAt?_eq_some_iff hpart]
  grind

/-! ## 2. What is fit to be shown -/

theorem Number.chars_ne_nil (n : Number) : n.chars ≠ [] := by
  match n with
  | .integer (.ofNat n) => exact Nat.toDigits_ne_nil
  | .integer (.negSucc n) => exact List.cons_ne_nil _ _
  | .double x =>
    have hwrite : ∀ d : Decimal, Double.Layout.plain.write d ≠ [] := by
      intro d
      unfold Double.Layout.write Double.pointed
      dsimp only
      split_ifs <;> simp
    rw [Number.chars, Double.chars]
    split_ifs <;> simp [hwrite]

theorem Says.trim_eq (h : v.Says said) : Text.trim said = said := by
  cases h with
  | text hblank => exact Text.trim_trim _
  | number n => exact trim_text (.number n)

theorem Says.not_blank (h : v.Says said) : ¬ Text.Blank said := by
  cases h with
  | text hblank => exact Text.not_blank_trim hblank
  | number n =>
    intro hblank
    obtain ⟨c, hc⟩ := List.exists_mem_of_ne_nil _ n.chars_ne_nil
    have hnumeral := not_blank_of_isNumeral (n.isNumeral_of_mem_chars c hc)
    have hc' := hblank c (by rwa [Number.text, String.toList_ofList])
    rw [hnumeral] at hc'
    cases hc'

end Json

end QuotaBoard
