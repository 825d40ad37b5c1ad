import Mathlib.Algebra.Group.Int.Defs
import Mathlib.Algebra.Group.Nat.Defs

set_option autoImplicit false

namespace Sortie.Scalar

open Float.Model.UnpackedFloat (Accuracy ExtendedMantissa accuracyOfFraction)

/-- The whole number that is nearest to a fraction, the even one of two. -/
def nearest (num den : Nat) : Nat :=
  (accuracyOfFraction (num % den) den).roundToNearestEven (num / den)

theorem nearest_eq (num den : Nat) :
    nearest num den =
      if den < 2 * (num % den) ∨ 2 * (num % den) = den ∧ num / den % 2 = 1 then num / den + 1
      else num / den := by
  unfold nearest accuracyOfFraction
  split
  · rename_i whole
    rw [whole, if_neg]
    · rfl
    · rintro (above | ⟨none_, odd⟩)
      · omega
      · rw [← none_, Nat.mul_zero, Nat.div_zero] at odd
        cases odd
  · rename_i inexact
    rcases order : compare (2 * (num % den)) den with _ | _ | _
    · have below := Nat.compare_eq_lt.mp order
      rw [if_neg (by omega)]
      rfl
    · have half := Nat.compare_eq_eq.mp order
      show num / den + num / den % 2 = _
      split <;> omega
    · have above := Nat.compare_eq_gt.mp order
      rw [if_pos (by omega)]
      rfl

theorem div_le_nearest (num den : Nat) : num / den ≤ nearest num den := by
  rw [nearest_eq]
  split <;> omega

theorem nearest_le (num den : Nat) : nearest num den ≤ num / den + 1 := by
  rw [nearest_eq]
  split <;> omega

/-- A fraction is rounded up by a half at most. -/
theorem nearest_mul_le (num den : Nat) : 2 * (nearest num den * den) ≤ 2 * num + den := by
  have whole := Nat.div_add_mod' num den
  rw [nearest_eq]
  split
  · rename_i up
    rw [Nat.add_mul, Nat.one_mul]
    omega
  · omega

theorem nearest_of_dvd {num den : Nat} (divides : den ∣ num) : nearest num den = num / den := by
  rw [nearest, Nat.mod_eq_zero_of_dvd divides]
  rfl

/-- Rounding follows the order of fractions. -/
theorem nearest_mono {num den num' den' : Nat} (positive : 0 < den) (positive' : 0 < den')
    (order : num * den' ≤ num' * den) : nearest num den ≤ nearest num' den' := by
  have whole := Nat.div_add_mod num den
  have whole' := Nat.div_add_mod num' den'
  have wholes : num / den ≤ num' / den' := by
    rw [Nat.le_div_iff_mul_le positive']
    refine Nat.le_of_mul_le_mul_right ?_ positive
    calc num / den * den' * den = num / den * den * den' := Nat.mul_right_comm _ _ _
      _ ≤ num * den' := Nat.mul_le_mul_right _ (Nat.div_mul_le_self num den)
      _ ≤ num' * den := order
  rcases Nat.lt_or_eq_of_le wholes with less | same
  · exact Nat.le_trans (nearest_le num den) (Nat.le_trans less (div_le_nearest num' den'))
  · -- The same whole part: what is left over decides.
    have rests : num % den * den' ≤ num' % den' * den := by
      have left : num * den' = num / den * (den * den') + num % den * den' := by
        conv => lhs; rw [← whole]
        rw [Nat.add_mul, Nat.mul_assoc, Nat.mul_left_comm]
      have right : num' * den = num / den * (den * den') + num' % den' * den := by
        conv => lhs; rw [← whole', ← same]
        rw [Nat.add_mul, Nat.mul_comm den' _, Nat.mul_assoc, Nat.mul_comm den' den]
      omega
    rw [nearest_eq, nearest_eq, ← same]
    by_cases up : den < 2 * (num % den) ∨ 2 * (num % den) = den ∧ num / den % 2 = 1
    · have reaches : den ≤ 2 * (num % den) := by omega
      have product : den' * den ≤ 2 * (num' % den') * den := by
        calc den' * den = den * den' := Nat.mul_comm _ _
          _ ≤ 2 * (num % den) * den' := Nat.mul_le_mul_right _ reaches
          _ = 2 * (num % den * den') := Nat.mul_assoc _ _ _
          _ ≤ 2 * (num' % den' * den) := Nat.mul_le_mul_left _ rests
          _ = 2 * (num' % den') * den := (Nat.mul_assoc _ _ _).symm
      have up' : den' < 2 * (num' % den') ∨ 2 * (num' % den') = den' ∧ num / den % 2 = 1 := by
        rcases up with above | ⟨half, odd⟩
        · left
          have strict : den' * den < 2 * (num' % den') * den := by
            calc den' * den = den * den' := Nat.mul_comm _ _
              _ < 2 * (num % den) * den' := Nat.mul_lt_mul_of_pos_right above positive'
              _ = 2 * (num % den * den') := Nat.mul_assoc _ _ _
              _ ≤ 2 * (num' % den' * den) := Nat.mul_le_mul_left _ rests
              _ = 2 * (num' % den') * den := (Nat.mul_assoc _ _ _).symm
          exact Nat.lt_of_mul_lt_mul_right strict
        · have reached := Nat.le_of_mul_le_mul_right product positive
          omega
      exact Nat.le_of_eq (by rw [if_pos up, if_pos up'])
    · rw [if_neg up]
      split <;> omega

/-- Equal fractions are rounded to the same whole number. -/
theorem nearest_congr {num den num' den' : Nat} (positive : 0 < den) (positive' : 0 < den')
    (equal : num * den' = num' * den) : nearest num den = nearest num' den' :=
  Nat.le_antisymm (nearest_mono positive positive' (Nat.le_of_eq equal))
    (nearest_mono positive' positive (Nat.le_of_eq equal.symm))

/-- How many bits of the whole part of a fraction stand below the 24 that are kept. -/
def surplus (num den : Nat) : Nat := (num / den).log2 - 23

/-- The number of 24 significant bits that is nearest to a fraction, the even one of two. -/
def rounded (num den : Nat) : Nat :=
  nearest num (den * 2 ^ surplus num den) * 2 ^ surplus num den

/-- The whole part of a fraction has 24 bits above `extra` ones, or fewer if there are no extra
ones. -/
structure Spread (num den extra : Nat) : Prop where
  below : num < den * 2 ^ (extra + 24)
  above : extra = 0 ∨ den * 2 ^ (extra + 23) ≤ num

theorem surplus_spread (num : Nat) {den : Nat} (positive : 0 < den) :
    Spread num den (surplus num den) := by
  refine ⟨?_, ?_⟩
  · have high : num / den < 2 ^ (surplus num den + 24) :=
      Nat.lt_of_lt_of_le Nat.lt_log2_self
        (Nat.pow_le_pow_right (by decide) (by unfold surplus; omega))
    rwa [Nat.div_lt_iff_lt_mul positive, Nat.mul_comm] at high
  · rcases Nat.eq_zero_or_pos (surplus num den) with none_ | some_
    · exact .inl none_
    · right
      have exponent : surplus num den + 23 = (num / den).log2 := by
        unfold surplus at some_ ⊢
        omega
      have large : num / den ≠ 0 := by
        intro zero
        rw [surplus, zero] at some_
        exact absurd some_ (by decide)
      have low := Nat.log2_self_le large
      rw [← exponent, Nat.le_div_iff_mul_le positive, Nat.mul_comm] at low
      exact low

/-- The greater fraction has at least as many extra bits. -/
theorem Spread.mono {num den num' den' extra extra' : Nat} (spread : Spread num den extra)
    (spread' : Spread num' den' extra') (order : num * den' ≤ num' * den) : extra ≤ extra' := by
  refine Nat.le_of_not_lt fun less => ?_
  rcases spread.above with none_ | above
  · omega
  · have smaller : den' * 2 ^ (extra' + 24) ≤ den' * 2 ^ (extra + 23) :=
      Nat.mul_le_mul_left _ (Nat.pow_le_pow_right (by decide) (by omega))
    have short : num' < den' * 2 ^ (extra + 23) := Nat.lt_of_lt_of_le spread'.below smaller
    have positive : 0 < den := Nat.pos_of_ne_zero fun zero => by
      have below := spread.below
      rw [zero, Nat.zero_mul] at below
      omega
    have strict : num' * den < num * den' := by
      calc num' * den < den' * 2 ^ (extra + 23) * den := Nat.mul_lt_mul_of_pos_right short positive
        _ = den * 2 ^ (extra + 23) * den' := by
          rw [Nat.mul_comm den' _, Nat.mul_comm den _, Nat.mul_right_comm]
        _ ≤ num * den' := Nat.mul_le_mul_right _ above
    omega

theorem rounded_of_spread {num den extra : Nat} (positive : 0 < den)
    (spread : Spread num den extra) :
    rounded num den = nearest num (den * 2 ^ extra) * 2 ^ extra := by
  have same : surplus num den = extra := Nat.le_antisymm
    ((surplus_spread num positive).mono spread (Nat.le_refl _))
    (spread.mono (surplus_spread num positive) (Nat.le_refl _))
  rw [rounded, same]

theorem Spread.nearest_le {num den extra : Nat} (positive : 0 < den)
    (spread : Spread num den extra) : nearest num (den * 2 ^ extra) ≤ 2 ^ 24 := by
  have short : num / (den * 2 ^ extra) < 2 ^ 24 := by
    rw [Nat.div_lt_iff_lt_mul (Nat.mul_pos positive (Nat.two_pow_pos extra))]
    have below := spread.below
    rw [Nat.pow_add, ← Nat.mul_assoc, Nat.mul_comm _ (2 ^ 24)] at below
    exact below
  exact Nat.le_trans (Scalar.nearest_le _ _) short

theorem Spread.le_nearest {num den extra : Nat} (positive : 0 < den)
    (above : den * 2 ^ (extra + 23) ≤ num) : 2 ^ 23 ≤ nearest num (den * 2 ^ extra) := by
  refine Nat.le_trans ?_ (div_le_nearest _ _)
  rw [Nat.le_div_iff_mul_le (Nat.mul_pos positive (Nat.two_pow_pos extra))]
  rw [Nat.pow_add, ← Nat.mul_assoc, Nat.mul_comm _ (2 ^ 23)] at above
  exact above

/-- Rounding to 24 bits follows the order of fractions. -/
theorem rounded_mono {num den num' den' : Nat} (positive : 0 < den) (positive' : 0 < den')
    (order : num * den' ≤ num' * den) : rounded num den ≤ rounded num' den' := by
  have spread := surplus_spread num positive
  have spread' := surplus_spread num' positive'
  rcases Nat.lt_or_eq_of_le (spread.mono spread' order) with less | same
  · -- The greater one has more bits: a power of two lies between both.
    have above := spread'.above.resolve_left (by omega)
    calc rounded num den ≤ 2 ^ 24 * 2 ^ surplus num den :=
          Nat.mul_le_mul_right _ (spread.nearest_le positive)
      _ ≤ 2 ^ 23 * 2 ^ surplus num' den' := by
          rw [← Nat.pow_add, ← Nat.pow_add]
          exact Nat.pow_le_pow_right (by decide) (by omega)
      _ ≤ rounded num' den' := Nat.mul_le_mul_right _ (Spread.le_nearest positive' above)
  · unfold rounded
    rw [← same]
    refine Nat.mul_le_mul_right _ (nearest_mono ?_ ?_ ?_)
    · exact Nat.mul_pos positive (Nat.two_pow_pos _)
    · exact Nat.mul_pos positive' (Nat.two_pow_pos _)
    · rw [← Nat.mul_assoc, ← Nat.mul_assoc]
      exact Nat.mul_le_mul_right _ order

/-- Equal fractions are rounded to the same number. -/
theorem rounded_congr {num den num' den' : Nat} (positive : 0 < den) (positive' : 0 < den')
    (equal : num * den' = num' * den) : rounded num den = rounded num' den' :=
  Nat.le_antisymm (rounded_mono positive positive' (Nat.le_of_eq equal))
    (rounded_mono positive' positive (Nat.le_of_eq equal.symm))

/-- A number of 24 significant bits is not rounded. -/
theorem rounded_one {significand power : Nat} (short : significand < 2 ^ 24) :
    rounded (significand * 2 ^ power) 1 = significand * 2 ^ power := by
  have spread := surplus_spread (significand * 2 ^ power) Nat.one_pos
  generalize surplus (significand * 2 ^ power) 1 = extra at spread
  have divides : 2 ^ extra ∣ significand * 2 ^ power := by
    rcases spread.above with rfl | above
    · exact Nat.one_dvd _
    · refine Nat.dvd_trans (Nat.pow_dvd_pow 2 ?_) (Nat.dvd_mul_left _ _)
      have less : 2 ^ (extra + 23) < 2 ^ (24 + power) := by
        rw [Nat.one_mul] at above
        rw [Nat.pow_add 2 24]
        exact Nat.lt_of_le_of_lt above (Nat.mul_lt_mul_of_pos_right short (Nat.two_pow_pos _))
      have exponents := (Nat.pow_lt_pow_iff_right (by decide)).mp less
      omega
  rw [rounded_of_spread (by decide) spread, Nat.one_mul, nearest_of_dvd divides,
    Nat.div_mul_cancel divides]

/-- The whole part of a fraction, with the bits that say what is left over. -/
def represent (num den : Nat) : ExtendedMantissa :=
  .ofMantissaAndAccuracy (num / den) (accuracyOfFraction (num % den) den)

theorem roundedMantissa_represent (num den : Nat) :
    (represent num den).roundedMantissa = nearest num den := by
  unfold represent nearest ExtendedMantissa.roundedMantissa
  rcases accuracyOfFraction (num % den) den with _ | _ | _ | _ <;> rfl

theorem accuracyOfFraction_zero (den : Nat) : accuracyOfFraction 0 den = .exact := rfl

theorem accuracyOfFraction_of_pos {num : Nat} (positive : 0 < num) (den : Nat) :
    accuracyOfFraction num den = .inexact (compare (2 * num) den) :=
  if_neg (Nat.ne_of_gt positive)

/-- Dropping the last bit halves the fraction. -/
theorem shiftRightOne_represent (num : Nat) {den : Nat} (positive : 0 < den) :
    (represent num den).shiftRightOne = represent num (den * 2) := by
  have half : num / (den * 2) = num / den / 2 := (Nat.div_div_eq_div_mul num den 2).symm
  have rest : num % (den * 2) = num % den + den * (num / den % 2) := Nat.mod_mul
  have small := Nat.mod_lt num positive
  unfold represent
  rw [half, rest]
  generalize num / den = whole
  generalize num % den = left at small ⊢
  rcases Nat.mod_two_eq_zero_or_one whole with bit | bit
  · rw [bit, Nat.mul_zero, Nat.add_zero]
    rcases Nat.eq_zero_or_pos left with rfl | some_
    · simp [accuracyOfFraction_zero, ExtendedMantissa.ofMantissaAndAccuracy,
        ExtendedMantissa.shiftRightOne, bit]
    · have less : compare (2 * left) (den * 2) = .lt := Nat.compare_eq_lt.mpr (by omega)
      rw [accuracyOfFraction_of_pos some_, accuracyOfFraction_of_pos some_, less]
      rcases compare (2 * left) den with _ | _ | _ <;>
        simp [ExtendedMantissa.ofMantissaAndAccuracy, ExtendedMantissa.shiftRightOne, bit]
  · rw [bit, Nat.mul_one, accuracyOfFraction_of_pos (Nat.add_pos_right left positive)]
    rcases Nat.eq_zero_or_pos left with rfl | some_
    · have same : compare (2 * (0 + den)) (den * 2) = .eq := Nat.compare_eq_eq.mpr (by omega)
      rw [same]
      simp [accuracyOfFraction_zero, ExtendedMantissa.ofMantissaAndAccuracy,
        ExtendedMantissa.shiftRightOne, bit]
    · have greater : compare (2 * (left + den)) (den * 2) = .gt :=
        Nat.compare_eq_gt.mpr (by omega)
      rw [greater, accuracyOfFraction_of_pos some_]
      rcases compare (2 * left) den with _ | _ | _ <;>
        simp [ExtendedMantissa.ofMantissaAndAccuracy, ExtendedMantissa.shiftRightOne, bit]

theorem shiftRight_represent (num : Nat) {den : Nat} (positive : 0 < den) (count : Nat) :
    represent num den >>> count = represent num (den * 2 ^ count) := by
  show count.repeat ExtendedMantissa.shiftRightOne (represent num den) = _
  induction count with
  | zero => rw [Nat.pow_zero, Nat.mul_one]; rfl
  | succ count ih =>
    rw [Nat.repeat, ih, shiftRightOne_represent num (Nat.mul_pos positive (Nat.two_pow_pos count)),
      Nat.pow_succ, Nat.mul_assoc]

end Sortie.Scalar
