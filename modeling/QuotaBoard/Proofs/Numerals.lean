import Mathlib.Data.List.TakeWhile
import Mathlib.Data.Option.Basic
import QuotaBoard.IdToken
import QuotaBoard.Json.Loose

/-!
# A whole number and its digits are read alike

A vendor that sends `85` today may send `"85"` tomorrow.  Every reader but the one for flags takes
the digits of a whole number for what it takes the number for.  For texts this is a matter of
trimming (`asText?_toString`); as a number the text is taken apart, parsed and rounded, while the
number is only rounded, and the two have to meet (`asNumber?_toString`).

The numbers are those that a JSON value holds exactly, up to `2 ^ 64` on either side of zero.
-/

namespace QuotaBoard

/-! ## 1. Trimming -/

namespace Text

theorem toNat_of_isDigit {c : Char} (h : c.isDigit = true) : 48 ≤ c.toNat ∧ c.toNat ≤ 57 := by
  simpa [Char.isDigit, Char.le_def, UInt32.le_iff_toNat_le] using h

/-- No character from the exclamation mark to the tilde is a blank. -/
theorem isBlank_of_toNat {c : Char} (hlow : 33 ≤ c.toNat) (hhigh : c.toNat ≤ 126) :
    isBlank c = false := by
  have hall : ∀ n < 127, 33 ≤ n → isBlank (Char.ofNat n) = false := by decide
  have hblank := hall c.toNat (by omega) hlow
  rwa [Char.ofNat_toNat] at hblank

theorem isBlank_of_isDigit {c : Char} (h : c.isDigit = true) : isBlank c = false := by
  obtain ⟨hlow, hhigh⟩ := toNat_of_isDigit h
  exact isBlank_of_toNat (by omega) (by omega)

/-- A text without blanks is trimmed already. -/
theorem trim_of_not_blank {s : String} (h : ∀ c ∈ s.toList, isBlank c = false) : trim s = s := by
  have hstart : trimStartList s.toList = s.toList := by
    unfold trimStartList
    cases hs : s.toList with
    | nil => rfl
    | cons c rest => simp [h c (by simp [hs])]
  have hend : trimEndList s.toList = s.toList := by
    unfold trimEndList
    cases hs : s.toList.reverse with
    | nil => simpa using hs
    | cons c rest =>
      have hc : c ∈ s.toList := by
        rw [← List.mem_reverse, hs]
        exact List.mem_cons_self
      rw [List.dropWhile_cons_of_neg (by simp [h c hc]), ← hs, List.reverse_reverse]
  rw [trim, trimList, hstart, hend, String.ofList_toList]

/-- The characters of a text that is trimmed already. -/
theorem trimList_of_trim_eq {s : String} (h : trim s = s) : trimList s.toList = s.toList := by
  have hlist := congrArg String.toList h
  rwa [trim, String.toList_ofList] at hlist

end Text

/-! ## 2. The digits of a whole number -/

/-- The characters of a whole number: a minus sign in front of a negative one, and digits. -/
theorem toList_toString (n : Int) :
    (toString n).toList =
      (if n < 0 then ['-'] else []) ++ Nat.toDigits 10 n.natAbs := by
  cases n with
  | ofNat m => simp [toString, Int.repr]
  | negSucc m => simp [toString, Int.repr, Int.negSucc_lt_zero]

theorem isBlank_toString {n : Int} : ∀ c ∈ (toString n).toList, Text.isBlank c = false := by
  intro c hc
  rw [toList_toString, List.mem_append] at hc
  rcases hc with hsign | hdigit
  · have hminus : c = '-' := by
      split at hsign
      · exact List.mem_singleton.mp hsign
      · cases hsign
    rw [hminus]
    decide
  · exact Text.isBlank_of_isDigit (Nat.isDigit_of_mem_toDigits (by decide) (by decide) hdigit)

theorem Text.trim_toString (n : Int) : trim (toString n) = toString n :=
  trim_of_not_blank isBlank_toString

theorem toString_ne_empty (n : Int) : toString n ≠ "" := by
  intro h
  have hlist := congrArg String.toList h
  rw [toList_toString] at hlist
  exact Nat.toDigits_ne_nil (List.append_eq_nil_iff.mp hlist).2

theorem Text.trimmed?_toString (n : Int) : trimmed? (toString n) = some (toString n) := by
  have hnonempty : (toString n).isEmpty = false := by
    rw [Bool.eq_false_iff]
    exact fun h => toString_ne_empty n (String.isEmpty_iff.mp h)
  simp only [trimmed?, trim_toString, hnonempty, Bool.false_eq_true, if_false]

/-- A whole number is written with its digits. -/
theorem Json.Number.text_integer (n : Int) : (Number.integer n).text = toString n := by
  refine String.toList_inj.mp ?_
  rw [toList_toString, Number.text, String.toList_ofList]
  cases n with
  | ofNat m => simp [Number.chars]
  | negSucc m => simp [Number.chars, Int.negSucc_lt_zero]

/-! ## 3. Rounding -/

namespace Double

theorem roundHalfEven_le (num den : Nat) : roundHalfEven num den ≤ num / den + 1 := by
  unfold roundHalfEven
  dsimp only
  split_ifs <;> omega

/-- What has few enough bits has a finite double. -/
theorem nearestRank_lt {num k : Nat} (h : num < Nat.pow 2 k) (hk : k ≤ 2000) :
    nearestRank num 1 < rankLimit := by
  have hlog : num.log2 - 52 ≤ 1948 := by
    by_cases hzero : num = 0
    · simp [hzero]
    · have hlt := (Nat.log2_lt hzero).mpr h
      omega
  have hquotient : num / (1 * Nat.pow 2 (num.log2 - 52)) < 2 * binade := by
    refine Nat.div_lt_of_lt_mul ?_
    calc num < Nat.pow 2 (num.log2 + 1) := Nat.lt_log2_self
      _ ≤ Nat.pow 2 (num.log2 - 52 + 53) := Nat.pow_le_pow_right (by decide) (by omega)
      _ = Nat.pow 2 (num.log2 - 52) * Nat.pow 2 53 := Nat.pow_add 2 _ 53
      _ = 1 * Nat.pow 2 (num.log2 - 52) * (2 * binade) := by
        rw [Nat.one_mul, show 2 * binade = Nat.pow 2 53 from rfl]
  have hround := roundHalfEven_le num (1 * Nat.pow 2 (num.log2 - 52))
  have hbinade : 0 < binade := by decide
  have hsteps : (num.log2 - 52) * binade ≤ 1948 * binade := Nat.mul_le_mul_right binade hlog
  rw [nearestRank, Nat.div_one, rankLimit]
  omega

/-- How many bits one has. -/
theorem exists_one_eq : ∃ k ≤ 1074, one = Nat.pow 2 k :=
  ⟨1074, Nat.le_refl _, by decide +kernel⟩

/-- A whole number that a JSON value can hold is far from the end of the format. -/
theorem nearestRank_whole_lt {m : Nat} (h : m ≤ Nat.pow 2 64) :
    nearestRank (m * one) 1 < rankLimit := by
  obtain ⟨k, hk, hone⟩ := exists_one_eq
  have hlt : m < Nat.pow 2 65 := Nat.lt_of_le_of_lt h (by decide)
  have hbits : m * one < Nat.pow 2 (65 + k) := by
    rw [hone]
    calc m * Nat.pow 2 k < Nat.pow 2 65 * Nat.pow 2 k :=
          Nat.mul_lt_mul_of_pos_right hlt (Nat.pow_pos (by decide))
      _ = Nat.pow 2 (65 + k) := (Nat.pow_add 2 65 k).symm
  exact nearestRank_lt hbits (by omega)

/-- A whole number read from decimals is the number rounded. -/
theorem ofDecimal?_whole {m : Nat} (h : m ≤ Nat.pow 2 64) {negative : Bool}
    (hsign : m = 0 → negative = false) :
    ofDecimal? negative m 0 = some (ofRank negative (nearestRank (m * one) 1)) := by
  by_cases hzero : m = 0
  · subst hzero
    obtain rfl := hsign rfl
    decide +kernel
  · have hsize : (Nat.toDigits 10 m).length ≤ 20 := by
      rw [Nat.length_toDigits_le_iff (by decide) (by decide)]
      exact Nat.lt_of_le_of_lt h (by decide)
    have hrank := nearestRank_whole_lt h
    unfold ofDecimal?
    rw [if_neg (by omega), if_neg (by omega)]
    change ofRank? negative (nearestRank (m * Nat.pow 10 0 * one) 1) = _
    rw [show m * Nat.pow 10 0 = m from Nat.mul_one m, ofRank?, dif_pos hrank, ofRank]
    congr 2
    omega

end Double

/-! ## 4. Readers -/

namespace Json

open Document (Numeral digitsValue readExponent?)

theorem digitsValue_toDigits (m : Nat) : digitsValue (Nat.toDigits 10 m) = m :=
  Nat.ofDigitChars_toDigits (by decide) (by decide)

/-- **The digits of a whole number are parsed and rounded to the number rounded.** -/
theorem numberOfText?_toString {n : Int} (h : n.natAbs ≤ Nat.pow 2 64) :
    numberOfText? (toString n) = some (.ofInt n) := by
  have hdigit : ∀ c ∈ Nat.toDigits 10 n.natAbs, c.isDigit = true :=
    fun c hc => Nat.isDigit_of_mem_toDigits (by decide) (by decide) hc
  have hvalue : Numeral.toDouble? ⟨decide (n < 0), Nat.toDigits 10 n.natAbs, [], 0⟩ =
      some (.ofInt n) := by
    have hsign : n.natAbs = 0 → decide (n < 0) = false := by
      intro hzero
      rw [decide_eq_false_iff_not]
      omega
    rw [Numeral.toDouble?, List.append_nil, digitsValue_toDigits]
    exact Double.ofDecimal?_whole h hsign
  have hwhole : (Nat.toDigits 10 n.natAbs).takeWhile Char.isDigit = Nat.toDigits 10 n.natAbs :=
    List.takeWhile_eq_self_iff.mpr hdigit
  have hrest : (Nat.toDigits 10 n.natAbs).dropWhile Char.isDigit = [] :=
    List.dropWhile_eq_nil_iff.mpr hdigit
  have hdigits : Nat.toDigits 10 n.natAbs ≠ [] := Nat.toDigits_ne_nil
  have hguard : ∀ [Decidable True], (guard True : Option Unit) = some () := if_pos trivial
  unfold numberOfText?
  rw [toList_toString]
  generalize Nat.toDigits 10 n.natAbs = ds at *
  by_cases hneg : n < 0
  · rw [decide_eq_true hneg] at hvalue
    simp [hneg, hwhole, hrest, readExponent?, hdigits, hvalue, hguard]
  · rw [decide_eq_false hneg] at hvalue
    -- the first character is a digit and not a sign
    have hminus : ∀ rest, ds ≠ '-' :: rest := by
      rintro rest rfl
      exact absurd (hdigit '-' List.mem_cons_self) (by decide)
    have hplus : ∀ rest, ds ≠ '+' :: rest := by
      rintro rest rfl
      exact absurd (hdigit '+' List.mem_cons_self) (by decide)
    simp [hneg, hwhole, hrest, readExponent?, hdigits, hvalue, hguard]

/-- The digits of a whole number count as the same text as the number. -/
theorem asText?_toString (n : Int) :
    asText? (.string (toString n)) = asText? (.number (.integer n)) := by
  rw [asText?, asText?, Number.text_integer, Text.trimmed?_toString]

/-- The digits of a whole number count as the same index as the number. -/
theorem asIndex?_toString (n : Int) :
    asIndex? (.string (toString n)) = asIndex? (.number (.integer n)) := by
  simp only [asIndex?, asText?, Number.text_integer, Text.trimmed?_toString]

/-- **The digits of a whole number count as the same number.** -/
theorem asNumber?_toString {n : Int} (h : n.natAbs ≤ Nat.pow 2 64) :
    asNumber? (.string (toString n)) = asNumber? (.number (.integer n)) := by
  rw [asNumber?, asNumber?, Text.trim_toString, numberOfText?_toString h, Number.toDouble]

end Json

/-- A text without the separator has a single part. -/
theorem Text.splitOnChar_of_not_mem {separator : Char} {cs : List Char} (h : separator ∉ cs) :
    splitOnChar separator cs = [cs] := by
  induction cs with
  | nil => rfl
  | cons c rest ih =>
    have hrest : separator ∉ rest := fun hmem => h (List.mem_cons_of_mem c hmem)
    have hc : c ≠ separator := fun hc => h (hc ▸ List.mem_cons_self)
    rw [splitOnChar, ih hrest]
    simp [hc]

/-- Neither a number nor its digits are an id token: there is no second segment. -/
theorem IdToken.claims?_toString (n : Int) :
    claims? (.string (toString n)) = claims? (.number (.integer n)) := by
  have hpoint : '.' ∉ Text.trimList (toString n).toList := by
    rw [Text.trimList_of_trim_eq (Text.trim_toString n), toList_toString]
    intro hmem
    rcases List.mem_append.mp hmem with hsign | hdigit
    · split at hsign
      · exact absurd (List.mem_singleton.mp hsign) (by decide)
      · cases hsign
    · exact absurd (Nat.isDigit_of_mem_toDigits (by decide) (by decide) hdigit) (by decide)
  calc claims? (.string (toString n)) = decode? (toString n) := by rw [claims?]
    _ = none := by rw [decode?, Text.splitOnChar_of_not_mem hpoint]; rfl
    _ = claims? (.number (.integer n)) := rfl

end QuotaBoard
