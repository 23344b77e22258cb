import QuotaBoard.Proofs.Numerals
import QuotaBoard.Proofs.Ranges

/-!
# Rounding keeps the order

A percentage is rounded twice on its way from the fraction that was sent, and a second is rounded
when it is read.  Neither can turn an order around, and neither changes what has a double of its
own.

* The magnitudes of the format stand in the order of their ranks (`units_le_units`): from one rank
  to the next the value grows by one step of its binade (`units_succ`).
* Rounding to the nearest double multiplies a rounded quotient by the step again
  (`units_nearestRank`).  It never turns an order around (`nearestRank_le`), and a multiple of the
  step is left as it is (`units_nearestRank_of_dvd`).
* So a percentage is one of the hundred and one whole numbers up to a hundred
  (`percentOfOne_whole`), and a lesser fraction never has the greater percentage
  (`percentOfOne_le`).
-/

namespace QuotaBoard.Double

/-! ## 1. Ranks and values -/

theorem binade_pos : 0 < binade := by decide

/-- The value of a rank that is told by a number of doublings and a number of steps. -/
theorem units_add {s q : Nat} (hlow : s = 0 ∨ binade ≤ q) (hhigh : q ≤ 2 * binade) :
    units (s * binade + q) = q * Nat.pow 2 s := by
  have hpos := binade_pos
  have hquotient : (s * binade + q) / binade = s + q / binade := by
    rw [Nat.add_comm, Nat.add_mul_div_right _ _ hpos, Nat.add_comm]
  rcases Nat.lt_or_ge q (2 * binade) with hlt | hge
  · have hdoublings : doublings (s * binade + q) = s := by
      rw [doublings, hquotient]
      rcases hlow with rfl | hlow
      · have hq : q / binade < 2 := Nat.div_lt_of_lt_mul (by rwa [Nat.mul_comm])
        omega
      · have hq : q / binade = 1 := Nat.div_eq_of_lt_le (by omega) (by omega)
        omega
    rw [units, hdoublings, Nat.add_sub_cancel_left]
  · -- the carry into the next binade
    obtain rfl : q = 2 * binade := Nat.le_antisymm hhigh hge
    have hdoublings : doublings (s * binade + 2 * binade) = s + 1 := by
      rw [doublings, hquotient, Nat.mul_div_cancel _ hpos]
      rfl
    have hsteps : s * binade + 2 * binade - (s + 1) * binade = binade := by
      rw [Nat.succ_mul s]
      omega
    have hpow : Nat.pow 2 (s + 1) = 2 * Nat.pow 2 s := Nat.pow_succ'
    rw [units, hdoublings, hsteps, hpow, Nat.mul_left_comm, ← Nat.mul_assoc]

/-- How many steps of its binade a rank has. -/
theorem steps_of_rank (rank : Nat) :
    doublings rank * binade + (rank - doublings rank * binade) = rank ∧
      (doublings rank = 0 ∨ binade ≤ rank - doublings rank * binade) := by
  have hpos := binade_pos
  have hsplit := Nat.div_add_mod rank binade
  rw [Nat.mul_comm] at hsplit
  unfold doublings
  cases hq : rank / binade with
  | zero => omega
  | succ k =>
    rw [hq, Nat.succ_mul] at hsplit
    simp only [Nat.add_sub_cancel]
    omega

/-- From one rank to the next the value grows by a step of its binade. -/
theorem units_succ (rank : Nat) : units (rank + 1) = units rank + Nat.pow 2 (doublings rank) := by
  obtain ⟨hsplit, hlow⟩ := steps_of_rank rank
  have hhigh := sub_doublings_lt rank
  calc units (rank + 1)
      = units (doublings rank * binade + (rank - doublings rank * binade + 1)) := by
        rw [← Nat.add_assoc, hsplit]
    _ = (rank - doublings rank * binade + 1) * Nat.pow 2 (doublings rank) :=
        units_add (hlow.imp_right Nat.le_succ_of_le) hhigh
    _ = units rank + Nat.pow 2 (doublings rank) := by rw [Nat.succ_mul, units]

/-- **Magnitudes are in the order of their ranks.** -/
theorem units_le_units {r r' : Nat} (h : r ≤ r') : units r ≤ units r' := by
  induction h with
  | refl => exact Nat.le_refl _
  | step _ ih => exact Nat.le_trans ih (units_succ _ ▸ Nat.le_add_right _ _)

/-! ## 2. The nearest whole number -/

theorem roundHalfEven_eq_or (num den : Nat) :
    roundHalfEven num den = num / den ∨
      roundHalfEven num den = num / den + 1 ∧ den ≤ 2 * (num % den) := by
  unfold roundHalfEven
  dsimp only
  split_ifs with hlow hhigh heven
  · exact .inl rfl
  · exact .inr ⟨rfl, by omega⟩
  · exact .inl rfl
  · exact .inr ⟨rfl, by omega⟩

/-- A multiple of the divisor is not rounded. -/
theorem roundHalfEven_of_dvd {num den : Nat} (hden : 0 < den) (h : den ∣ num) :
    roundHalfEven num den = num / den := by
  rcases roundHalfEven_eq_or num den with heq | ⟨-, hhalf⟩
  · exact heq
  · rw [Nat.mod_eq_zero_of_dvd h] at hhalf
    omega

theorem roundHalfEven_mono {num num' : Nat} (den : Nat) (h : num ≤ num') :
    roundHalfEven num den ≤ roundHalfEven num' den := by
  rcases Nat.lt_or_ge (num / den) (num' / den) with hlt | hge
  · -- the quotients differ: rounding up the one does not go beyond the other
    have hup := roundHalfEven_le num den
    have hdown : num' / den ≤ roundHalfEven num' den := by
      rcases roundHalfEven_eq_or num' den with heq | ⟨heq, -⟩ <;> omega
    omega
  · have hquotient : num / den = num' / den := Nat.le_antisymm (Nat.div_le_div_right h) hge
    have hrest : num % den ≤ num' % den := by
      have hsplit := Nat.div_add_mod num den
      have hsplit' := Nat.div_add_mod num' den
      rw [hquotient] at hsplit
      omega
    unfold roundHalfEven
    rw [hquotient]
    dsimp only
    split_ifs <;> omega

theorem roundHalfUp_mono {num num' : Nat} (den : Nat) (h : num ≤ num') :
    roundHalfUp num den ≤ roundHalfUp num' den :=
  Nat.div_le_div_right (by omega)

/-! ## 3. The nearest double -/

/-- How often the step has doubled where a magnitude of so many units lies. -/
def doublingsFor (num : Nat) : Nat := num.log2 - 52

theorem nearestRank_eq (num : Nat) :
    nearestRank num 1 =
      doublingsFor num * binade + roundHalfEven num (Nat.pow 2 (doublingsFor num)) := by
  rw [nearestRank, Nat.div_one, Nat.one_mul, doublingsFor]

/-- A magnitude has at most two binades of steps, and a binade of them unless the steps are the
smallest ones. -/
theorem steps_bounds (num : Nat) :
    (doublingsFor num = 0 ∨ binade ≤ roundHalfEven num (Nat.pow 2 (doublingsFor num))) ∧
      roundHalfEven num (Nat.pow 2 (doublingsFor num)) ≤ 2 * binade := by
  have hpow : 0 < Nat.pow 2 (doublingsFor num) := Nat.pow_pos (by decide)
  have hhigh : num / Nat.pow 2 (doublingsFor num) < 2 * binade := by
    refine Nat.div_lt_of_lt_mul ?_
    calc num < Nat.pow 2 (num.log2 + 1) := Nat.lt_log2_self
      _ ≤ Nat.pow 2 (doublingsFor num + 53) :=
          Nat.pow_le_pow_right (by decide) (by unfold doublingsFor; omega)
      _ = Nat.pow 2 (doublingsFor num) * (2 * binade) := Nat.pow_add 2 _ 53
  refine ⟨?_, Nat.le_trans (roundHalfEven_le _ _) hhigh⟩
  by_cases hzero : doublingsFor num = 0
  · exact .inl hzero
  · right
    have hnum : num ≠ 0 := by
      rintro rfl
      exact hzero rfl
    have hlow : binade ≤ num / Nat.pow 2 (doublingsFor num) := by
      rw [Nat.le_div_iff_mul_le hpow]
      calc binade * Nat.pow 2 (doublingsFor num)
          = Nat.pow 2 (52 + doublingsFor num) := (Nat.pow_add 2 52 _).symm
        _ ≤ Nat.pow 2 num.log2 :=
            Nat.pow_le_pow_right (by decide) (by unfold doublingsFor at hzero ⊢; omega)
        _ ≤ num := Nat.log2_self_le hnum
    rcases roundHalfEven_eq_or num (Nat.pow 2 (doublingsFor num)) with heq | ⟨heq, -⟩ <;> omega

/-- **The value of the nearest double** is the rounded quotient by the step, times the step. -/
theorem units_nearestRank (num : Nat) :
    units (nearestRank num 1) =
      roundHalfEven num (Nat.pow 2 (doublingsFor num)) * Nat.pow 2 (doublingsFor num) := by
  rw [nearestRank_eq]
  exact units_add (steps_bounds num).1 (steps_bounds num).2

/-- **A multiple of the step has a double of its own.** -/
theorem units_nearestRank_of_dvd {num : Nat} (h : Nat.pow 2 (doublingsFor num) ∣ num) :
    units (nearestRank num 1) = num := by
  have hpow : 0 < Nat.pow 2 (doublingsFor num) := Nat.pow_pos (by decide)
  rw [units_nearestRank, roundHalfEven_of_dvd hpow h]
  exact Nat.div_mul_cancel h

theorem doublingsFor_le {num num' : Nat} (h : num ≤ num') :
    doublingsFor num ≤ doublingsFor num' := by
  refine Nat.sub_le_sub_right ?_ 52
  by_cases hzero : num = 0
  · rw [hzero]
    exact Nat.zero_le _
  · rw [Nat.le_log2 (by omega)]
    exact Nat.le_trans (Nat.log2_self_le hzero) h

/-- **Rounding to the nearest double turns no order around.** -/
theorem nearestRank_le {num num' : Nat} (h : num ≤ num') :
    nearestRank num 1 ≤ nearestRank num' 1 := by
  rw [nearestRank_eq, nearestRank_eq]
  rcases Nat.eq_or_lt_of_le (doublingsFor_le h) with heq | hlt
  · rw [heq]
    exact Nat.add_le_add_left (roundHalfEven_mono _ h) _
  · -- the greater one lies in a later binade: what the less one carries over reaches its start
    have hhigh := (steps_bounds num).2
    have hlow := (steps_bounds num').1.resolve_left (Nat.ne_zero_of_lt hlt)
    have hsteps : (doublingsFor num + 1) * binade ≤ doublingsFor num' * binade :=
      Nat.mul_le_mul_right binade hlt
    rw [Nat.succ_mul] at hsteps
    omega

/-! ## 4. Whole numbers -/

/-- **A whole number of at most 53 bits has a double of its own.** -/
theorem units_nearestRank_whole {m : Nat} (h : m < Nat.pow 2 53) :
    units (nearestRank (m * one) 1) = m * one := by
  obtain ⟨k, -, hone⟩ := exists_one_eq
  refine units_nearestRank_of_dvd ?_
  by_cases hzero : m * one = 0
  · rw [hzero]
    exact Nat.dvd_zero _
  · -- the step of a number of so many bits is at most one
    have hbits : (m * one).log2 < 53 + k := by
      rw [Nat.log2_lt hzero, hone]
      calc m * Nat.pow 2 k < Nat.pow 2 53 * Nat.pow 2 k :=
            Nat.mul_lt_mul_of_pos_right h (Nat.pow_pos (by decide))
        _ = Nat.pow 2 (53 + k) := (Nat.pow_add 2 53 k).symm
    have hdoublings : doublingsFor (m * one) ≤ k := by
      unfold doublingsFor
      omega
    have hstep : Nat.pow 2 (doublingsFor (m * one)) ∣ Nat.pow 2 k := Nat.pow_dvd_pow 2 hdoublings
    rw [← hone] at hstep
    exact Nat.dvd_mul_left_of_dvd hstep m

theorem rank_ofRank {rank : Nat} (h : rank < rankLimit) (negative : Bool) :
    (ofRank negative rank).rank = rank := by
  change min rank (rankLimit - 1) = rank
  omega

theorem negative_ofRank (negative : Bool) (rank : Nat) :
    (ofRank negative rank).negative = negative := rfl

/-- A number that is not negative has the value of its magnitude; negative zero is one. -/
theorem scaled_eq_units {x : Double} (h : 0 ≤ x.scaled) : x.scaled = units x.rank := by
  unfold scaled at h ⊢
  by_cases hsign : x.negative = true
  · rw [if_pos hsign] at h ⊢
    omega
  · rw [if_neg hsign]

theorem scaled_ofInt_nonneg {n : Int} (h : 0 ≤ n) :
    (ofInt n).scaled = units (ofInt n).rank := by
  have hsign : (ofInt n).negative = false := decide_eq_false (Int.not_lt.mpr h)
  rw [scaled, hsign]
  rfl

/-- It is not rounded when it is read. -/
theorem scaled_ofInt {m : Nat} (h : m < Nat.pow 2 53) : (ofInt m).scaled = (m * one : Nat) := by
  have hrank : nearestRank (m * one) 1 < rankLimit :=
    nearestRank_whole_lt (Nat.le_trans (Nat.le_of_lt h) (by decide))
  have hread : (ofInt m).rank = nearestRank (m * one) 1 := rank_ofRank hrank _
  rw [scaled_ofInt_nonneg (Int.natCast_nonneg m), hread, units_nearestRank_whole h]

/-- **Reading whole numbers turns no order around.** -/
theorem scaled_ofInt_le {m n : Nat} (h : m ≤ n) : (ofInt m).scaled ≤ (ofInt n).scaled := by
  rw [scaled_ofInt_nonneg (Int.natCast_nonneg m), scaled_ofInt_nonneg (Int.natCast_nonneg n)]
  have hrank : nearestRank (m * one) 1 ≤ nearestRank (n * one) 1 :=
    nearestRank_le (Nat.mul_le_mul_right one h)
  have hranks : (ofInt m).rank ≤ (ofInt n).rank := by
    change min (nearestRank (m * one) 1) _ ≤ min (nearestRank (n * one) 1) _
    omega
  exact_mod_cast units_le_units hranks

theorem ofInt_pos {n : Int} (h : 0 < n) : 0 < ofInt n := by
  obtain ⟨m, rfl⟩ := Int.eq_ofNat_of_zero_le (Int.le_of_lt h)
  have hone : (0 : Double).scaled < (ofInt (1 : Nat)).scaled := by decide +kernel
  exact Int.lt_of_lt_of_le hone (scaled_ofInt_le (by omega))

theorem ofInt_nonneg {n : Int} (h : 0 ≤ n) : 0 ≤ ofInt n := by
  obtain ⟨m, rfl⟩ := Int.eq_ofNat_of_zero_le h
  exact scaled_ofInt_le (Nat.zero_le m)

/-- The whole part of a whole number of at most 53 bits is the number itself. -/
theorem truncate_ofInt {m : Nat} (h : m < Nat.pow 2 53) : (ofInt m).truncate = m := by
  have hone : 0 < one := by decide +kernel
  rw [truncate, scaled_ofInt h, ← Int.ofNat_tdiv, Nat.mul_div_cancel _ hone]

/-- The whole part of a number is not less than any such number below it. -/
theorem le_truncate_ofInt {m n : Nat} (hm : m < Nat.pow 2 53) (h : m ≤ n) :
    m ≤ (ofInt n).truncate := by
  have hone : 0 < one := by decide +kernel
  have hle : (ofInt m).scaled ≤ (ofInt n).scaled := scaled_ofInt_le h
  rw [scaled_ofInt hm, Int.natCast_mul] at hle
  rw [truncate]
  generalize one = step at hone hle ⊢
  have hstart : 0 ≤ (m : Int) * step := Int.mul_nonneg (by omega) (by omega)
  rw [Int.tdiv_eq_ediv_of_nonneg (by omega), Int.le_ediv_iff_mul_le (by omega)]
  exact hle

/-! ## 5. Percentages -/

/-- The whole percentage of a magnitude. -/
def percentOfUnits (u : Nat) : Nat := roundHalfUp (units (nearestRank (u * 100) 1)) one

theorem percentOfUnits_mono {u u' : Nat} (h : u ≤ u') : percentOfUnits u ≤ percentOfUnits u' :=
  roundHalfUp_mono one (units_le_units (nearestRank_le (Nat.mul_le_mul_right 100 h)))

theorem percentOfUnits_le {u : Nat} (h : u ≤ one) : percentOfUnits u ≤ 100 := by
  have hone : percentOfUnits one = 100 := by decide +kernel
  exact hone ▸ percentOfUnits_mono h

/-- The value of what is moved between zero and one. -/
theorem scaled_clamp (x : Double) : (x.clamp 0 1).scaled = max 0 (min x.scaled one) := by
  have hzero : (0 : Double).scaled = 0 := by decide +kernel
  have hone : (1 : Double).scaled = (one : Int) := by decide +kernel
  unfold clamp
  split_ifs with hlow hhigh
  · change x.scaled < (0 : Double).scaled at hlow
    omega
  · change (1 : Double).scaled < x.scaled at hhigh
    omega
  · change ¬ x.scaled < (0 : Double).scaled at hlow
    change ¬ (1 : Double).scaled < x.scaled at hhigh
    omega

theorem rank_hundredfold {x : Double} (h : units x.rank ≤ one) :
    x.hundredfold.rank = nearestRank (units x.rank * 100) 1 := by
  have hlimit : nearestRank (one * 100) 1 < rankLimit := by decide +kernel
  exact rank_ofRank (Nat.lt_of_le_of_lt (nearestRank_le (Nat.mul_le_mul_right 100 h)) hlimit) _

/-- The magnitude of a percentage. -/
theorem units_roundToWhole {x : Double} (h : units x.rank ≤ one) :
    units x.hundredfold.roundToWhole.rank = percentOfUnits (units x.rank) * one := by
  have hbound := percentOfUnits_le h
  have hwhole : roundHalfUp (units x.hundredfold.rank) one = percentOfUnits (units x.rank) := by
    rw [rank_hundredfold h, percentOfUnits]
  have hfinite : nearestRank (percentOfUnits (units x.rank) * one) 1 < rankLimit :=
    nearestRank_whole_lt (Nat.le_trans hbound (by decide))
  rw [roundToWhole, hwhole, rank_ofRank hfinite,
    units_nearestRank_whole (Nat.lt_of_le_of_lt hbound (by decide))]

/-- **The value of a percentage.** -/
theorem scaled_percentOfOne (x : Double) :
    x.percentOfOne.scaled = (percentOfUnits (x.clamp 0 1).scaled.toNat * one : Nat) := by
  have hclamp := x.scaled_clamp
  have hlow : 0 ≤ (x.clamp 0 1).scaled := hclamp ▸ Int.le_max_left ..
  have hunits := scaled_eq_units hlow
  have hu : (x.clamp 0 1).scaled.toNat = units (x.clamp 0 1).rank := by omega
  have hmagnitude := units_roundToWhole (x := x.clamp 0 1) (by omega)
  have hsign : (x.clamp 0 1).hundredfold.roundToWhole.negative = (x.clamp 0 1).negative := by
    rw [roundToWhole, negative_ofRank, hundredfold, negative_ofRank]
  rw [hu, percentOfOne, scaled, hmagnitude, hsign]
  by_cases hnegative : (x.clamp 0 1).negative = true
  · -- of the negative numbers only zero is left
    have hzero : units (x.clamp 0 1).rank = 0 := by
      rw [scaled, if_pos hnegative] at hlow
      omega
    have hnone : percentOfUnits 0 = 0 := by decide +kernel
    rw [if_pos hnegative, hzero, hnone, Nat.zero_mul]
    rfl
  · rw [if_neg hnegative]

/-- **A percentage is a whole number up to a hundred.** -/
theorem percentOfOne_whole (x : Double) :
    ∃ n ≤ 100, x.percentOfOne.scaled = (n * one : Nat) := by
  have hclamp := x.scaled_clamp
  exact ⟨_, percentOfUnits_le (by omega), x.scaled_percentOfOne⟩

/-- **A lesser fraction never has the greater percentage.** -/
theorem percentOfOne_le {x y : Double} (h : x ≤ y) : x.percentOfOne ≤ y.percentOfOne := by
  change x.percentOfOne.scaled ≤ y.percentOfOne.scaled
  rw [scaled_percentOfOne, scaled_percentOfOne, scaled_clamp, scaled_clamp]
  change x.scaled ≤ y.scaled at h
  exact_mod_cast Nat.mul_le_mul_right one (percentOfUnits_mono (by omega))

end QuotaBoard.Double
