import Mathlib.Data.List.Basic
import QuotaBoard.Text.Blank
import QuotaBoard.Text.LetterCase

/-!
# Lower case is a fixed point

Beyond ASCII, lower case is a table: runs of letters, each with the distance to its partners.
Nothing in the form of the table keeps a partner from being a member of another run, and then lower
case would have a lower case of its own.  That it has none is checked run against run: the partners
of a run lie before another run, behind it, or in the gaps between its members (`Run.misses`).  The
same check keeps them away from the blanks.  So what a character turns into is its own lower case,
and it is blank only if the character was (`LowersTo`, `lowersTo_of_mem_lowerOf`).

A text is lowered character by character, and what the neighbours decide is only which of two small
sigmas stands for a capital one; both are settled.  Hence a text is lower case exactly if each of
its characters is (`lower_eq_self_iff`), lowering twice is lowering once (`lower_lower`), and no
blanks appear at the ends of a text (`head?_lowerList`, `getLast?_lowerList`).
-/

namespace QuotaBoard.Text

/-! ## 1. Runs and the places of their partners -/

namespace Run

variable {r r' : Run} {c d : Char}

theorem covers_iff :
    r.covers c = true ↔
      r.first ≤ c.toNat ∧ c.toNat ≤ r.last ∧ r.step ∣ c.toNat - r.first := by
  simp [covers, and_assoc, Nat.dvd_iff_mod_eq_zero]

/-- The code point that lies as far from another as the partners of the run from its members. -/
def partnerCode (r : Run) (n : Nat) : Nat := ((n : Int) + r.shift).toNat

/-- The partners of the run are characters. -/
def Lands (r : Run) : Prop :=
  0 ≤ r.first + r.shift ∧ (r.partnerCode r.last < 0xD800 ∨
    0xDFFF < r.partnerCode r.first ∧ r.partnerCode r.last < 0x110000)

instance : Decidable r.Lands := inferInstanceAs (Decidable (_ ∧ _))

theorem toNat_partner (hlands : r.Lands) (hc : r.covers c = true) :
    ((Char.ofNat (r.partnerCode c.toNat)).toNat : Int) = c.toNat + r.shift := by
  obtain ⟨hfirst, hlast, -⟩ := covers_iff.mp hc
  obtain ⟨hpositive, hplace⟩ := hlands
  have hvalid : (r.partnerCode c.toNat).isValidChar := by
    unfold partnerCode at *
    unfold Nat.isValidChar
    omega
  have hcode : (Char.ofNat (r.partnerCode c.toNat)).toNat = r.partnerCode c.toNat := by
    rw [Char.ofNat, dif_pos hvalid]
    rfl
  rw [hcode, partnerCode]
  omega

/-- No partner of the run belongs to another one: the partners lie before it, or behind it, or they
are all in one class of residues and its members in another. -/
def misses (r r' : Run) : Bool :=
  (r.partnerCode r.last).blt r'.first || r'.last.blt (r.partnerCode r.first) ||
    decide ((r'.step ∣ r.step ∨ r.first = r.last) ∧
      ¬ (r'.step : Int) ∣ r.first + r.shift - r'.first)

theorem not_covers_of_misses (hmisses : r.misses r' = true) (hc : r.covers c = true)
    (hd : (d.toNat : Int) = c.toNat + r.shift) : r'.covers d = false := by
  obtain ⟨hfirst, hlast, hstep⟩ := covers_iff.mp hc
  rw [Bool.eq_false_iff]
  intro hcovers
  obtain ⟨hfirst', hlast', hstep'⟩ := covers_iff.mp hcovers
  simp only [misses, partnerCode, Bool.or_eq_true, Nat.blt_eq, decide_eq_true_iff] at hmisses
  rcases hmisses with (hbefore | hbehind) | ⟨hsteps, hapart⟩
  · omega
  · omega
  · refine hapart ?_
    -- both the member and its partner would be as far from the first ones as steps allow
    have hmember : (r'.step : Int) ∣ c.toNat - r.first := by
      rw [← Int.ofNat_sub hfirst]
      rcases hsteps with hdvd | hsingle
      · exact Int.natCast_dvd_natCast.mpr (Nat.dvd_trans hdvd hstep)
      · rw [show c.toNat - r.first = 0 by omega]
        exact Int.dvd_zero _
    have hpartner : (r'.step : Int) ∣ d.toNat - r'.first := by
      rw [← Int.ofNat_sub hfirst']
      exact Int.natCast_dvd_natCast.mpr hstep'
    have hdiff : (r.first : Int) + r.shift - r'.first =
        d.toNat - r'.first - (c.toNat - r.first) := by omega
    rw [hdiff]
    exact Int.dvd_sub hpartner hmember

end Run

theorem partner?_eq_some {runs : List Run} {c d : Char} (h : partner? runs c = some d) :
    ∃ r ∈ runs, r.covers c = true ∧ d = Char.ofNat (r.partnerCode c.toNat) := by
  obtain ⟨r, hr, rfl⟩ := Option.map_eq_some_iff.mp h
  have hcovers := List.find?_some hr
  exact ⟨r, List.mem_of_find?_eq_some hr, hcovers, rfl⟩

/-! ## 2. The lower case of a character -/

namespace LetterCase

/-- The letters whose lower case is one other character: those of ASCII and those of the table. -/
def capitals : List Run := ⟨0x41, 0x5A, 1, 32⟩ :: lowerRuns

/-- The one letter whose lower case is two characters. -/
def dottedCapital : Run := ⟨0x130, 0x130, 1, 0⟩

/-- The blanks, as runs. -/
def blanks : List Run :=
  [⟨0x09, 0x0D, 1, 0⟩, ⟨0x20, 0x20, 1, 0⟩, ⟨0x85, 0x85, 1, 0⟩, ⟨0xA0, 0xA0, 1, 0⟩,
    ⟨0x1680, 0x1680, 1, 0⟩, ⟨0x2000, 0x200A, 1, 0⟩, ⟨0x2028, 0x2029, 1, 0⟩,
    ⟨0x202F, 0x202F, 1, 0⟩, ⟨0x205F, 0x205F, 1, 0⟩, ⟨0x3000, 0x3000, 1, 0⟩]

theorem capitals_land : ∀ r ∈ capitals, r.Lands := by decide +kernel

/-- **No partner has a lower case of its own, and none is blank.** -/
theorem capitals_miss :
    ∀ r ∈ capitals, ∀ r' ∈ dottedCapital :: capitals ++ blanks, r.misses r' = true := by
  have hall : (capitals.all fun r => (dottedCapital :: capitals ++ blanks).all r.misses) = true :=
    by decide +kernel
  simpa only [List.all_eq_true] using hall

end LetterCase

open LetterCase

theorem exists_covers_of_isBlank {c : Char} (h : isBlank c = true) :
    ∃ r ∈ blanks, r.covers c = true := by
  have hle : ∀ a b : Char, a ≤ b ↔ a.toNat ≤ b.toNat := fun _ _ => UInt32.le_iff_toNat_le
  simp only [isBlank, Bool.or_eq_true, Bool.and_eq_true, decide_eq_true_eq, hle,
    ← Char.toNat_inj, Char.reduceToNat] at h
  simp only [blanks, List.mem_cons, List.not_mem_nil, or_false, Run.covers_iff,
    exists_eq_or_imp, Nat.one_dvd, and_true, exists_eq_left]
  omega

/-- The lower case of a character is itself, or two characters, or the partner in a run. -/
theorem lowerOf_cases (c : Char) :
    lowerOf c = [c] ∨ c = '\u0130' ∨
      ∃ r ∈ capitals, r.covers c = true ∧
        lowerOf c = [Char.ofNat (r.partnerCode c.toNat)] := by
  have htable : ∀ n < 128, (Char.ofNat n).toLower = Char.ofNat n ∨
      0x41 ≤ n ∧ n ≤ 0x5A ∧ (Char.ofNat n).toLower = Char.ofNat (n + 32) := by decide
  unfold lowerOf
  split
  · rename_i hascii
    have hlower := htable c.toNat hascii
    rw [Char.ofNat_toNat] at hlower
    rcases hlower with hself | ⟨hfirst, hlast, hlower⟩
    · exact .inl (by rw [hself])
    · have hc : Run.covers ⟨0x41, 0x5A, 1, 32⟩ c = true :=
        Run.covers_iff.mpr ⟨hfirst, hlast, Nat.one_dvd _⟩
      have hcode : Run.partnerCode ⟨0x41, 0x5A, 1, 32⟩ c.toNat = c.toNat + 32 :=
        Int.toNat_natCast (c.toNat + 32)
      exact .inr (.inr ⟨_, List.mem_cons_self, hc, by rw [hlower, hcode]⟩)
  · split
    · rename_i hdotted
      exact .inr (.inl hdotted)
    · cases hpartner : partner? lowerRuns c with
      | none => exact .inl rfl
      | some d =>
        obtain ⟨r, hr, hc, rfl⟩ := partner?_eq_some hpartner
        exact .inr (.inr ⟨r, List.mem_cons_of_mem _ hr, hc, rfl⟩)

/-- A character that no run moves is its own lower case. -/
theorem lowerOf_of_not_covers {c : Char}
    (h : ∀ r ∈ dottedCapital :: capitals, r.covers c = false) : lowerOf c = [c] := by
  rcases lowerOf_cases c with hself | rfl | ⟨r, hr, hc, -⟩
  · exact hself
  · exact absurd (h dottedCapital List.mem_cons_self) (by decide)
  · rw [h r (List.mem_cons_of_mem _ hr)] at hc
    cases hc

theorem lowerOf_ne_nil (c : Char) : lowerOf c ≠ [] := by
  rcases lowerOf_cases c with hself | rfl | ⟨r, -, -, hlower⟩
  · simp [hself]
  · decide
  · simp [hlower]

/-- What a character may turn into: its own lower case, and blank only if the character was. -/
structure LowersTo (c d : Char) : Prop where
  settled : lowerOf d = [d]
  notBlank : isBlank c = false → isBlank d = false

/-- The partner in a run is settled: no other run moves it, and it is no blank. -/
theorem lowersTo_partner {r : Run} {c : Char} (hr : r ∈ capitals) (hc : r.covers c = true) :
    LowersTo c (Char.ofNat (r.partnerCode c.toNat)) := by
  have hcode := Run.toNat_partner (capitals_land r hr) hc
  have hmiss : ∀ r' ∈ dottedCapital :: capitals ++ blanks,
      r'.covers (Char.ofNat (r.partnerCode c.toNat)) = false :=
    fun r' hr' => Run.not_covers_of_misses (capitals_miss r hr r' hr') hc hcode
  obtain ⟨hletters, hblanks⟩ := List.forall_mem_append.mp hmiss
  refine ⟨lowerOf_of_not_covers hletters, fun _ => ?_⟩
  rw [Bool.eq_false_iff]
  intro hblank
  obtain ⟨r', hr', hcovers⟩ := exists_covers_of_isBlank hblank
  rw [hblanks r' hr'] at hcovers
  cases hcovers

/-- **What a character turns into is settled.** -/
theorem lowersTo_of_mem_lowerOf {c d : Char} (hd : d ∈ lowerOf c) : LowersTo c d := by
  rcases lowerOf_cases c with hself | rfl | ⟨r, hr, hc, hlower⟩
  · rw [hself, List.mem_singleton] at hd
    subst hd
    exact ⟨hself, id⟩
  · have hletter : LowersTo '\u0130' 'i' := ⟨by decide, fun _ => by decide⟩
    have hdot : LowersTo '\u0130' '\u0307' := ⟨by decide +kernel, fun _ => by decide⟩
    exact List.forall_mem_cons.mpr ⟨hletter, List.forall_mem_singleton.mpr hdot⟩ d hd
  · rw [hlower, List.mem_singleton] at hd
    subst hd
    exact lowersTo_partner hr hc

/-! ## 3. The lower case of a text -/

/-- One step of lowering: what a character turns into is settled, wherever it stands. -/
theorem lowerList_cons (before : List Char) (c : Char) (cs : List Char) :
    ∃ part, lowerList before (c :: cs) = part ++ lowerList (c :: before) cs ∧ part ≠ [] ∧
      ∀ d ∈ part, LowersTo c d := by
  rw [lowerList]
  split
  · have hsigma : LowersTo c 'ς' := ⟨by decide +kernel, fun _ => by decide⟩
    exact ⟨_, rfl, List.cons_ne_nil _ _, List.forall_mem_singleton.mpr hsigma⟩
  · exact ⟨_, rfl, lowerOf_ne_nil c, fun _ => lowersTo_of_mem_lowerOf⟩

/-- **Every character of a text in lower case is settled.** -/
theorem settled_of_mem_lowerList {cs before : List Char} {d : Char}
    (hd : d ∈ lowerList before cs) : lowerOf d = [d] := by
  induction cs generalizing before with
  | nil => cases hd
  | cons c cs ih =>
    obtain ⟨part, hpart, -, hsettled⟩ := lowerList_cons before c cs
    rw [hpart] at hd
    rcases List.mem_append.mp hd with hhere | hlater
    · exact (hsettled d hhere).settled
    · exact ih hlater

/-- Settled characters stay as they are.  A capital sigma is not settled, so none is among them. -/
theorem lowerList_of_settled {cs : List Char} (h : ∀ c ∈ cs, lowerOf c = [c])
    (before : List Char) : lowerList before cs = cs := by
  induction cs generalizing before with
  | nil => rfl
  | cons c cs ih =>
    obtain ⟨hc, hcs⟩ := List.forall_mem_cons.mp h
    have hsigma : c ≠ 'Σ' := by
      rintro rfl
      exact absurd hc (by decide +kernel)
    rw [lowerList, ih hcs, hc]
    simp [hsigma]

/-- **A text is its own lower case exactly if each of its characters is.** -/
theorem lower_eq_self_iff {s : String} : lower s = s ↔ ∀ c ∈ s.toList, lowerOf c = [c] := by
  rw [← String.toList_inj, lower, String.toList_ofList]
  constructor
  · intro h c hc
    rw [← h] at hc
    exact settled_of_mem_lowerList hc
  · exact fun h => lowerList_of_settled h []

/-- **To lower twice is to lower once.** -/
theorem lower_lower (s : String) : lower (lower s) = lower s := by
  rw [lower_eq_self_iff, lower, String.toList_ofList]
  exact fun c hc => settled_of_mem_lowerList hc

theorem lowerList_ne_nil {cs : List Char} (h : cs ≠ []) (before : List Char) :
    lowerList before cs ≠ [] := by
  cases cs with
  | nil => exact absurd rfl h
  | cons c cs =>
    obtain ⟨part, hpart, hne, -⟩ := lowerList_cons before c cs
    rw [hpart]
    exact List.append_ne_nil_of_left_ne_nil hne _

/-- Lowering puts no blank in front of a text. -/
theorem head?_lowerList {cs : List Char} (before : List Char)
    (h : ∀ c ∈ cs.head?, isBlank c = false) :
    ∀ d ∈ (lowerList before cs).head?, isBlank d = false := by
  cases cs with
  | nil => exact h
  | cons c cs =>
    obtain ⟨part, hpart, hne, hsettled⟩ := lowerList_cons before c cs
    rw [hpart, List.head?_append_of_ne_nil _ hne]
    exact fun d hd => (hsettled d (List.mem_of_head? hd)).notBlank (h c rfl)

/-- Lowering puts no blank behind a text. -/
theorem getLast?_lowerList {cs : List Char} (before : List Char)
    (h : ∀ c ∈ cs.getLast?, isBlank c = false) :
    ∀ d ∈ (lowerList before cs).getLast?, isBlank d = false := by
  induction cs generalizing before with
  | nil => exact h
  | cons c cs ih =>
    obtain ⟨part, hpart, -, hsettled⟩ := lowerList_cons before c cs
    rw [hpart]
    cases cs with
    | nil =>
      rw [lowerList, List.append_nil]
      exact fun d hd => (hsettled d (List.mem_of_getLast? hd)).notBlank (h c rfl)
    | cons c' cs =>
      rw [List.getLast?_append_of_ne_nil _ (lowerList_ne_nil (List.cons_ne_nil c' cs) _)]
      exact ih _ h

end QuotaBoard.Text
