import Mathlib.Data.List.DropRight
import Mathlib.Data.List.TakeWhile
import QuotaBoard.Text.Blank

/-!
# Scanning up to a character

A scan that stops at a character does not depend on what is written after it.  So what is found in
front of the first character of a kind, and what is left from it on, is known of a text of which
only the rest is not; and blanks are removed from the two sides of a character one by one.
-/

namespace QuotaBoard

/-! ## 1. Up to the first character of a kind -/

theorem takeWhile_append_of_head {p : Char → Bool} {d : Char} (hd : p d = false)
    (cs tail : List Char) : (cs ++ d :: tail).takeWhile p = cs.takeWhile p := by
  rw [List.takeWhile_append, List.takeWhile_cons, hd]
  split
  · rename_i hlength
    simpa using ((List.takeWhile_prefix p).eq_of_length hlength).symm
  · rfl

theorem dropWhile_append_of_head {p : Char → Bool} {d : Char} (hd : p d = false)
    (cs tail : List Char) : (cs ++ d :: tail).dropWhile p = cs.dropWhile p ++ d :: tail := by
  rw [List.dropWhile_append, List.dropWhile_cons, hd]
  split
  · rename_i hempty
    simp [List.isEmpty_iff.mp hempty]
  · rfl

theorem takeWhile_append_of_mem {p : Char → Bool} {cs : List Char} {d : Char} (h : d ∈ cs)
    (hd : p d = false) (tail : List Char) : (cs ++ tail).takeWhile p = cs.takeWhile p := by
  obtain ⟨before, after, rfl⟩ := List.append_of_mem h
  rw [List.append_assoc, List.cons_append, takeWhile_append_of_head hd, takeWhile_append_of_head hd]

theorem mem_dropWhile_of_mem {p : Char → Bool} {cs : List Char} {c : Char} (h : c ∈ cs)
    (hc : p c = false) : c ∈ cs.dropWhile p := by
  rw [← List.takeWhile_append_dropWhile (p := p) (l := cs), List.mem_append] at h
  exact h.resolve_left fun htake => by simp [List.mem_takeWhile_imp htake] at hc

theorem takeWhile_ne_of_not_mem {d : Char} {cs : List Char} (h : d ∉ cs) :
    cs.takeWhile (· ≠ d) = cs := by
  rw [List.takeWhile_eq_self_iff]
  exact fun c hc => decide_eq_true (ne_of_mem_of_not_mem hc h)

theorem dropWhile_ne_of_not_mem {d : Char} {cs : List Char} (h : d ∉ cs) :
    cs.dropWhile (· ≠ d) = [] := by
  rw [List.dropWhile_eq_nil_iff]
  exact fun c hc => decide_eq_true (ne_of_mem_of_not_mem hc h)

/-- A text is cut at the first of the characters of one kind that it has. -/
theorem exists_cut {d : Char} {cs : List Char} (h : d ∈ cs) :
    ∃ tail, cs = cs.takeWhile (· ≠ d) ++ d :: tail := by
  have hmem : d ∈ cs.dropWhile (· ≠ d) := mem_dropWhile_of_mem h (by simp)
  obtain ⟨c, tail, hdrop⟩ := List.exists_cons_of_ne_nil (List.ne_nil_of_mem hmem)
  have hhead := List.head?_dropWhile_not (· ≠ d) cs
  rw [hdrop] at hhead
  obtain rfl : c = d := by simpa using hhead
  exact ⟨tail, by rw [← hdrop, List.takeWhile_append_dropWhile]⟩

/-! ## 2. Blanks and separators -/

namespace Text

theorem trimList_append_cons {c : Char} (hc : isBlank c = false) (before after : List Char) :
    trimList (before ++ c :: after) = trimStartList before ++ c :: trimEndList after := by
  rw [trimList, trimStartList, trimEndList, dropWhile_append_of_head hc, List.reverse_append,
    List.reverse_cons, List.append_assoc, List.singleton_append, dropWhile_append_of_head hc]
  simp [trimStartList, trimEndList]

theorem splitOnChar_ne_nil (separator : Char) (cs : List Char) : splitOnChar separator cs ≠ [] := by
  cases cs with
  | nil => exact List.cons_ne_nil _ _
  | cons c rest =>
    rw [splitOnChar]
    split
    · exact List.cons_ne_nil _ _
    · split <;> exact List.cons_ne_nil _ _

/-- The first part of a text ends at the first separator. -/
theorem splitOnChar_append_cons {separator : Char} {cs : List Char} (h : separator ∉ cs)
    (rest : List Char) :
    splitOnChar separator (cs ++ separator :: rest) = cs :: splitOnChar separator rest := by
  induction cs with
  | nil =>
    obtain ⟨part, parts, hparts⟩ := List.exists_cons_of_ne_nil (splitOnChar_ne_nil separator rest)
    rw [List.nil_append, splitOnChar, hparts]
    simp
  | cons c cs ih =>
    obtain ⟨hc, hcs⟩ := List.ne_and_not_mem_of_not_mem_cons h
    rw [List.cons_append, splitOnChar, ih hcs]
    simp [hc.symm]

/-! ## 3. Blank texts -/

/-- There is nothing in the text but blanks. -/
def Blank (s : String) : Prop := ∀ c ∈ s.toList, isBlank c = true

instance (s : String) : Decidable (Blank s) :=
  List.decidableBAll (fun c => isBlank c = true) s.toList

theorem trimEndList_eq_nil_iff {cs : List Char} :
    trimEndList cs = [] ↔ ∀ c ∈ cs, isBlank c = true := List.rdropWhile_eq_nil_iff

/-- Nothing is left of a text that is trimmed exactly if it is blank. -/
theorem trimList_eq_nil_iff {cs : List Char} :
    trimList cs = [] ↔ ∀ c ∈ cs, isBlank c = true := by
  rw [trimList, trimEndList_eq_nil_iff, trimStartList, ← List.dropWhile_eq_nil_iff,
    List.dropWhile_idempotent, List.dropWhile_eq_nil_iff]

/-- What is left of a text that is trimmed is not blank. -/
theorem trimList_eq_nil_of_blank {cs : List Char} (h : ∀ c ∈ trimList cs, isBlank c = true) :
    trimList cs = [] := by
  rw [← trimEndList_eq_nil_iff] at h
  have hidem : trimEndList (trimList cs) = trimList cs := List.rdropWhile_idempotent _ _
  rw [← hidem, h]

theorem trimmed?_eq_none_iff {s : String} : trimmed? s = none ↔ Blank s := by
  rw [Blank, ← trimList_eq_nil_iff]
  simp [trimmed?, trim]

theorem trimmed?_eq_some_iff {s t : String} : trimmed? s = some t ↔ ¬ Blank s ∧ t = trim s := by
  rw [← trimmed?_eq_none_iff]
  cases h : (trim s).isEmpty <;> simp [trimmed?, h, eq_comm]

theorem not_blank_trim {s : String} (h : ¬ Blank s) : ¬ Blank (trim s) := by
  intro hblank
  have hnil : trimList s.toList = [] :=
    trimList_eq_nil_of_blank fun c hc => hblank c (by simpa [trim] using hc)
  exact h (trimList_eq_nil_iff.mp hnil)

end Text

end QuotaBoard
