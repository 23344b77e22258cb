import Mathlib.Data.List.Forall2
import Mathlib.Data.List.TakeWhile
import Mathlib.Data.Option.Basic
import Mathlib.Data.String.Basic
import QuotaBoard.Text.Base64

/-!
# Bytes and their base64 digits

Reading digits undoes writing them and accepts nothing else, in three steps.  A character of either
alphabet becomes a digit of one value at most (`digitValue?_standardDigit_iff`).  Bytes are
determined by the values of their digits, and the other way around (`ofSextets?_sextets`,
`eq_sextets_of_ofSextets?`).  So digits are read as some bytes just if they are the digits of these
bytes, each in either alphabet (`ofDigits?_map_eq_some_iff`).

How much padding fills the last group of the digits depends on the number of bytes alone
(`paddingOf_length_sextets`), and what is put back is exactly what is missing, unless there is too
much already (`add_paddingOf_iff`).
-/

namespace QuotaBoard.Base64

/-! ## 1. Digits -/

/-- A character is a digit of a value: that of the alphabet that is safe in URLs or, where they
differ, that of the standard one. -/
def IsDigit (c : Char) (value : Nat) : Prop :=
  value < 64 ∧ (c = urlDigit value ∨ value = 62 ∧ c = '+' ∨ value = 63 ∧ c = '/')

theorem isDigit_of_digitValue? {c : Char} {value : Nat} (h : digitValue? c = some value) :
    IsDigit c value := by
  have hcode : ∀ n, n = c.toNat → c = Char.ofNat n := by
    rintro n rfl
    exact (Char.ofNat_toNat c).symm
  revert h
  fun_cases digitValue? c with
  | case1 hupper =>
    rintro ⟨⟩
    have hlow : 65 ≤ c.toNat := hupper.1
    have hhigh : c.toNat ≤ 90 := hupper.2
    refine ⟨by omega, .inl ?_⟩
    rw [urlDigit, if_pos (by omega)]
    exact hcode _ (by omega)
  | case2 _ hlower =>
    rintro ⟨⟩
    have hlow : 97 ≤ c.toNat := hlower.1
    have hhigh : c.toNat ≤ 122 := hlower.2
    refine ⟨by omega, .inl ?_⟩
    rw [urlDigit, if_neg (by omega), if_pos (by omega)]
    exact hcode _ (by omega)
  | case3 _ _ hfigure =>
    rintro ⟨⟩
    have hlow : 48 ≤ c.toNat := hfigure.1
    have hhigh : c.toNat ≤ 57 := hfigure.2
    refine ⟨by omega, .inl ?_⟩
    rw [urlDigit, if_neg (by omega), if_neg (by omega), if_pos (by omega)]
    exact hcode _ (by omega)
  | case4 _ _ _ hplus =>
    rintro ⟨⟩
    exact ⟨by decide, .inr (.inl ⟨rfl, hplus⟩)⟩
  | case5 _ _ _ _ hslash =>
    rintro ⟨⟩
    exact ⟨by decide, .inr (.inr ⟨rfl, hslash⟩)⟩
  | case6 =>
    intro h
    cases h

theorem digitValue?_standardDigit_urlDigit {value : Nat} (h : value < 64) :
    digitValue? (standardDigit (urlDigit value)) = some value := by
  revert value
  decide

/-- **A character of either alphabet has the value of its digit.** -/
theorem digitValue?_standardDigit_iff {c : Char} {value : Nat} :
    digitValue? (standardDigit c) = some value ↔ IsDigit c value := by
  constructor
  · unfold standardDigit
    split_ifs with hminus hline
    · rintro ⟨⟩
      exact ⟨by decide, .inl hminus⟩
    · rintro ⟨⟩
      exact ⟨by decide, .inl hline⟩
    · exact isDigit_of_digitValue?
  · rintro ⟨hvalue, rfl | ⟨rfl, rfl⟩ | ⟨rfl, rfl⟩⟩
    · exact digitValue?_standardDigit_urlDigit hvalue
    · rfl
    · rfl

theorem mapM_digitValue?_eq_some_iff {digits : List Char} {values : List Nat} :
    (digits.map standardDigit).mapM digitValue? = some values ↔
      List.Forall₂ IsDigit digits values := by
  induction digits generalizing values with
  | nil => simp [eq_comm]
  | cons c rest ih =>
    simp only [List.map_cons, List.mapM_cons, Option.bind_eq_bind, Option.bind_eq_some_iff,
      List.forall₂_cons_left_iff, ← ih, ← digitValue?_standardDigit_iff]
    grind

/-- A digit is written in one byte. -/
theorem IsDigit.utf8Size_standardDigit {c : Char} {value : Nat} (h : IsDigit c value) :
    (standardDigit c).utf8Size = 1 := by
  have hurl : ∀ value < 64, (standardDigit (urlDigit value)).utf8Size = 1 := by decide
  obtain ⟨hvalue, rfl | ⟨-, rfl⟩ | ⟨-, rfl⟩⟩ := h
  · exact hurl value hvalue
  · rfl
  · rfl

/-- Padding is left as it is, and nothing else becomes padding. -/
theorem standardDigit_eq_iff {c : Char} : standardDigit c = '=' ↔ c = '=' := by
  unfold standardDigit
  split_ifs with hminus hline
  · simp [hminus]
  · simp [hline]
  · rfl

/-- What is no digit is not among digits. -/
theorem not_mem_digits {digits : List Char} {values : List Nat} {d : Char}
    (h : List.Forall₂ IsDigit digits values) (hd : digitValue? (standardDigit d) = none) :
    d ∉ digits := by
  have hvalue : ∀ c ∈ digits, digitValue? (standardDigit c) ≠ none :=
    ((List.forall₂_and_left _ _).mp (h.imp fun c value hc =>
      ⟨by rw [digitValue?_standardDigit_iff.mpr hc]; exact Option.some_ne_none _, hc⟩)).1
  exact fun hmem => hvalue d hmem hd

/-! ## 2. Bytes -/

/-- A byte is put together again from the parts that its digits hold. -/
theorem ofNat_eq {n : Nat} {a : UInt8} (h : n = a.toNat) : UInt8.ofNat n = a := by
  rw [h, UInt8.ofNat_toNat]

theorem ofSextets?_sextets (bytes : List UInt8) : ofSextets? (sextets bytes) = some bytes := by
  fun_induction sextets bytes with
  | case1 => rfl
  | case2 a =>
    have ha := a.toNat_lt
    rw [ofSextets?, if_pos (by omega), ofNat_eq (a := a) (by omega)]
  | case3 a b =>
    have ha := a.toNat_lt
    have hb := b.toNat_lt
    rw [ofSextets?, if_pos (by omega), ofNat_eq (a := a) (by omega), ofNat_eq (a := b) (by omega)]
  | case4 a b c rest ih =>
    have ha := a.toNat_lt
    have hb := b.toNat_lt
    have hc := c.toNat_lt
    simp only [List.cons_append, List.nil_append, ofSextets?, ih, Option.bind_eq_bind,
      Option.bind_some]
    rw [ofNat_eq (a := a) (by omega), ofNat_eq (a := b) (by omega), ofNat_eq (a := c) (by omega)]

theorem eq_sextets_of_ofSextets? {values : List Nat} {bytes : List UInt8}
    (hvalues : ∀ value ∈ values, value < 64) (h : ofSextets? values = some bytes) :
    values = sextets bytes := by
  fun_induction ofSextets? values generalizing bytes with
  | case1 =>
    obtain rfl := Option.some.inj h
    rfl
  | case2 => cases h
  | case3 a b hspare =>
    obtain rfl := Option.some.inj h
    simp only [List.mem_cons, List.not_mem_nil, or_false, forall_eq_or_imp, forall_eq] at hvalues
    simp only [sextets, UInt8.toNat_ofNat', List.cons.injEq, and_true]
    omega
  | case4 => cases h
  | case5 a b c hspare =>
    obtain rfl := Option.some.inj h
    simp only [List.mem_cons, List.not_mem_nil, or_false, forall_eq_or_imp, forall_eq] at hvalues
    simp only [sextets, UInt8.toNat_ofNat', List.cons.injEq, and_true]
    omega
  | case6 => cases h
  | case7 a b c d rest ih =>
    obtain ⟨bytes', hrest, hbytes⟩ := Option.bind_eq_some_iff.mp h
    obtain rfl := Option.some.inj hbytes
    simp only [List.forall_mem_cons] at hvalues
    have hvalues' := ih hvalues.2.2.2.2 hrest
    simp only [List.cons_append, List.nil_append, sextets, UInt8.toNat_ofNat', ← hvalues',
      List.cons.injEq, and_true]
    omega

theorem lt_of_mem_sextets {bytes : List UInt8} {value : Nat} (h : value ∈ sextets bytes) :
    value < 64 := by
  fun_induction sextets bytes with
  | case1 => cases h
  | case2 a =>
    have ha := a.toNat_lt
    simp at h
    omega
  | case3 a b =>
    have ha := a.toNat_lt
    have hb := b.toNat_lt
    simp at h
    omega
  | case4 a b c rest ih =>
    have ha := a.toNat_lt
    have hb := b.toNat_lt
    have hc := c.toNat_lt
    rcases List.mem_append.mp h with h | h
    · simp at h
      omega
    · exact ih h

/-- **Digits are read as the bytes whose digits they are.** -/
theorem ofDigits?_map_eq_some_iff {digits : List Char} {bytes : List UInt8} :
    ofDigits? (digits.map standardDigit) = some bytes ↔
      List.Forall₂ IsDigit digits (sextets bytes) := by
  simp only [ofDigits?, Option.bind_eq_bind, Option.bind_eq_some_iff, mapM_digitValue?_eq_some_iff]
  constructor
  · rintro ⟨values, hdigits, hbytes⟩
    have hvalues : ∀ value ∈ values, value < 64 :=
      ((List.forall₂_and_left _ _).mp (hdigits.flip.imp fun _ _ h => ⟨h.1, h⟩)).1
    rwa [← eq_sextets_of_ofSextets? hvalues hbytes]
  · exact fun h => ⟨_, h, ofSextets?_sextets bytes⟩

/-- Bytes that are written are made of digits of the alphabet that is safe in URLs. -/
theorem forall₂_isDigit_encodeUrl (bytes : List UInt8) :
    List.Forall₂ IsDigit (encodeUrl bytes) (sextets bytes) := by
  rw [encodeUrl, List.forall₂_map_left_iff, List.forall₂_same]
  exact fun value h => ⟨lt_of_mem_sextets h, .inl rfl⟩

/-! ## 3. Padding -/

/-- The padding that fills the last group of the digits of some bytes. -/
theorem paddingOf_length_sextets (bytes : List UInt8) :
    paddingOf (sextets bytes).length = (3 - bytes.length % 3) % 3 := by
  fun_induction sextets bytes with
  | case1 => rfl
  | case2 a => rfl
  | case3 a b => rfl
  | case4 a b c rest ih =>
    simp only [paddingOf, List.length_append, List.length_cons, List.length_nil] at ih ⊢
    omega

/-- What is put back completes the padding, unless there is too much of it. -/
theorem add_paddingOf_iff {digits padding : Nat} :
    padding + paddingOf (digits + padding) = paddingOf digits ↔ padding ≤ paddingOf digits := by
  unfold paddingOf
  omega

theorem decode?_eq_some_iff {cs : List Char} {bytes : List UInt8} :
    decode? cs = some bytes ↔
      ∃ digits, cs = digits ++ List.replicate (paddingOf digits.length) '=' ∧ '=' ∉ digits ∧
        ofDigits? digits = some bytes := by
  simp only [decode?, Option.bind_eq_bind, Option.bind_eq_some_iff, Option.guard_eq_some',
    exists_const]
  constructor
  · rintro ⟨hpadding, hbytes⟩
    refine ⟨_, ?_, fun hmem => by simpa using List.mem_takeWhile_imp hmem, hbytes⟩
    rw [← hpadding, List.takeWhile_append_dropWhile]
  · rintro ⟨digits, rfl, hnone, hbytes⟩
    have hne : ∀ c ∈ digits, decide (c ≠ '=') = true :=
      fun c hc => decide_eq_true (ne_of_mem_of_not_mem hc hnone)
    rw [List.takeWhile_append_of_pos hne, List.dropWhile_append_of_pos hne,
      List.takeWhile_replicate, List.dropWhile_replicate, if_neg (by simp), if_neg (by simp),
      List.append_nil]
    exact ⟨rfl, hbytes⟩

/-- Characters of one byte each. -/
theorem utf8ByteSize_ofList_of_single {cs : List Char} (h : ∀ c ∈ cs, c.utf8Size = 1) :
    (String.ofList cs).utf8ByteSize = cs.length := by
  rw [String.utf8ByteSize_ofList]
  induction cs with
  | nil => rfl
  | cons c cs ih =>
    rw [List.forall_mem_cons] at h
    rw [String.utf8Len_cons, ih h.2, h.1, List.length_cons]

/-- Digits with some padding, after the rest of it is put back. -/
theorem fill_map_standardDigit {digits : List Char} {values : List Nat}
    (h : List.Forall₂ IsDigit digits values) (padding : Nat) :
    fill ((digits ++ List.replicate padding '=').map standardDigit) =
      digits.map standardDigit ++
        List.replicate (padding + paddingOf (digits.length + padding)) '=' := by
  have hdigits : ∀ c ∈ digits.map standardDigit, c.utf8Size = 1 := by
    rw [List.forall_mem_map]
    exact ((List.forall₂_and_left _ _).mp (h.imp fun c value hc =>
      ⟨hc.utf8Size_standardDigit, hc⟩)).1
  have hpadding : (List.replicate padding '=').map standardDigit = List.replicate padding '=' :=
    List.map_replicate
  have hsize : ∀ c ∈ digits.map standardDigit ++ List.replicate padding '=', c.utf8Size = 1 := by
    intro c hc
    rcases List.mem_append.mp hc with hc | hc
    · exact hdigits c hc
    · obtain rfl := List.eq_of_mem_replicate hc
      rfl
  rw [List.map_append, hpadding, fill, utf8ByteSize_ofList_of_single hsize, List.length_append,
    List.length_map, List.length_replicate, List.append_assoc, List.replicate_append_replicate]

/-- Characters that end in padding once the rest of it is put back are digits and padding. -/
theorem exists_of_fill_eq {cs standard : List Char} {count : Nat} (hnone : '=' ∉ standard)
    (h : fill (cs.map standardDigit) = standard ++ List.replicate count '=') :
    ∃ digits padding, cs = digits ++ List.replicate padding '=' ∧
      digits.map standardDigit = standard := by
  rcases List.append_eq_append_iff.mp h with ⟨others, rfl, hothers⟩ | ⟨own, hcs, hown⟩
  · -- nothing of the digits is put back
    have hnil : others = [] := by
      rw [List.eq_nil_iff_forall_not_mem]
      intro c hc
      obtain rfl := List.eq_of_mem_replicate (hothers ▸ List.mem_append_left _ hc)
      exact hnone (List.mem_append_right _ hc)
    exact ⟨cs, 0, by simp, by rw [hnil, List.append_nil]⟩
  · obtain ⟨digits, pads, rfl, hdigits, rfl⟩ := List.map_eq_append_iff.mp hcs
    have hpads : ∀ c ∈ pads, c = '=' := by
      intro c hc
      have hmem : standardDigit c ∈ List.replicate count '=' :=
        hown ▸ List.mem_append_left _ (List.mem_map_of_mem hc)
      exact standardDigit_eq_iff.mp (List.eq_of_mem_replicate hmem)
    exact ⟨digits, pads.length, by rw [← List.eq_replicate_of_mem hpads], hdigits⟩

end QuotaBoard.Base64
