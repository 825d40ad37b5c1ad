import Sortie.Proofs.Units

set_option autoImplicit false

namespace Sortie.Scalar

open Float.Model (UnpackedFloat Format totalExponent)
open Float.Model.UnpackedFloat

theorem targetExponent_eq (total : Int) :
    Format.binary32.targetExponent total = Max.max (total - 24) (-149) := by
  have count : (Format.binary32.mantissaBits : Int) = 24 := by decide
  have least : Format.binary32.minExponent = -149 := by decide
  rw [Format.targetExponent, count, least]

theorem shiftToTargetExponent_short {significand : Nat} {power : Int}
    (short : significand < 2 ^ 24) (low : -149 ≤ power) :
    shiftToTargetExponent Format.binary32 significand power .exact =
      (⟨significand, false, false⟩, power) := by
  have bits : significand.log2 ≤ 23 := by
    rcases Nat.eq_zero_or_pos significand with rfl | positive
    · decide
    · have := (Nat.log2_lt (Nat.ne_of_gt positive)).mpr short
      omega
  have none_ : (Format.binary32.targetExponent (totalExponent significand power) -
      power).toNat = 0 := by
    rw [targetExponent_eq, totalExponent]
    omega
  unfold shiftToTargetExponent shiftToExponent
  dsimp only
  rw [none_]
  exact Prod.ext rfl (Int.add_zero power)

theorem shiftToTargetExponent_over {power : Int} (low : -149 ≤ power) :
    shiftToTargetExponent Format.binary32 (2 ^ 24) power .exact =
      (⟨2 ^ 23, false, false⟩, power + 1) := by
  have one : (Format.binary32.targetExponent (totalExponent (2 ^ 24) power) - power).toNat = 1 := by
    rw [targetExponent_eq, totalExponent, Nat.log2_two_pow]
    omega
  unfold shiftToTargetExponent shiftToExponent
  dsimp only
  rw [one]
  rfl

/-- A rounded significand, which may have one bit too many, as a number. -/
theorem settled {sign : Sign} {significand : Nat} {power : Int} (most : significand ≤ 2 ^ 24)
    (low : -149 ≤ power) (full : power = -149 ∨ 2 ^ 23 ≤ significand) :
    let shifted := shiftToTargetExponent Format.binary32 significand power .exact
    let result : UnpackedFloat := if positive : shifted.1.mantissa = 0 then .zero sign
      else .finite sign shifted.1.mantissa shifted.2 (Nat.pos_of_ne_zero positive)
    Canonical result ∧ units result = some (sign.apply (magnitude significand power)) := by
  rcases Nat.lt_or_eq_of_le most with short | large
  · rw [shiftToTargetExponent_short short low]
    dsimp only
    split
    · rename_i zero
      rw [zero]
      refine ⟨trivial, ?_⟩
      cases sign <;> simp [units, magnitude, Sign.apply]
    · exact ⟨⟨short, low, full⟩, rfl⟩
  · subst large
    rw [shiftToTargetExponent_over low]
    have exponents : 23 + (power + 1 + 149).toNat = 24 + (power + 149).toNat := by omega
    have same : magnitude (2 ^ 23) (power + 1) = magnitude (2 ^ 24) power := by
      rw [magnitude, magnitude, ← Nat.pow_add, ← Nat.pow_add, exponents]
    have half : 2 ^ 23 < 2 ^ 24 := by decide
    refine ⟨⟨half, by omega, .inr (Nat.le_refl _)⟩, ?_⟩
    rw [← same]
    rfl

section

variable (num : Nat) {den count up extra down : Nat} (positive : 0 < den)
  (exponents : count + up = extra + down)

include positive exponents

/-- A fraction whose whole part has 24 bits above `count` ones, in smaller units. -/
theorem spread_of_bits (most : (num / den).log2 < count + 24)
    (least : extra = 0 ∨ num / den ≠ 0 ∧ count + 23 ≤ (num / den).log2) :
    Spread (num * 2 ^ up) (den * 2 ^ down) extra := by
  refine ⟨?_, ?_⟩
  · have bits : num / den < 2 ^ (count + 24) :=
      Nat.lt_of_lt_of_le Nat.lt_log2_self (Nat.pow_le_pow_right (by decide) most)
    rw [Nat.div_lt_iff_lt_mul positive, Nat.mul_comm] at bits
    calc num * 2 ^ up < den * 2 ^ (count + 24) * 2 ^ up :=
          Nat.mul_lt_mul_of_pos_right bits (Nat.two_pow_pos up)
      _ = den * 2 ^ down * 2 ^ (extra + 24) := by
          rw [Nat.mul_assoc, Nat.mul_assoc, ← Nat.pow_add, ← Nat.pow_add]
          congr 2
          omega
  · refine least.imp_right fun ⟨some_, full⟩ => ?_
    have bits : 2 ^ (count + 23) ≤ num / den := (Nat.le_log2 some_).mp full
    rw [Nat.le_div_iff_mul_le positive, Nat.mul_comm] at bits
    calc den * 2 ^ down * 2 ^ (extra + 23) = den * 2 ^ (count + 23) * 2 ^ up := by
          rw [Nat.mul_assoc, Nat.mul_assoc, ← Nat.pow_add, ← Nat.pow_add]
          congr 2
          omega
      _ ≤ num * 2 ^ up := Nat.mul_le_mul_right _ bits

theorem nearest_scaled :
    nearest (num * 2 ^ up) (den * 2 ^ down * 2 ^ extra) = nearest num (den * 2 ^ count) := by
  have scaled := Nat.mul_pos (Nat.mul_pos positive (Nat.two_pow_pos down)) (Nat.two_pow_pos extra)
  refine nearest_congr scaled (Nat.mul_pos positive (Nat.two_pow_pos count)) ?_
  calc num * 2 ^ up * (den * 2 ^ count) = num * (den * 2 ^ (count + up)) := by
        rw [Nat.mul_assoc, Nat.mul_left_comm (2 ^ up), ← Nat.pow_add, Nat.add_comm]
    _ = num * (den * 2 ^ down * 2 ^ extra) := by
        rw [exponents, Nat.mul_assoc, ← Nat.pow_add, Nat.add_comm]

end

/-- The first shift of a rounding reaches the power at which 24 bits are left, or the lowest one. -/
theorem shiftToTargetExponent_represent (num : Nat) {den : Nat} (positive : 0 < den) {power : Int}
    (fits : power ≤ Format.binary32.targetExponent (totalExponent (num / den) power)) :
    shiftToTargetExponent Format.binary32 (num / den) power (accuracyOfFraction (num % den) den) =
      (represent num (den * 2 ^ (Format.binary32.targetExponent
        (totalExponent (num / den) power) - power).toNat),
        Format.binary32.targetExponent (totalExponent (num / den) power)) := by
  unfold shiftToTargetExponent shiftToExponent
  dsimp only
  refine Prod.ext (shiftRight_represent num positive _) ?_
  show power + ((_ - power).toNat : Int) = _
  omega

/-- Rounding a significand with what is left over rounds the exact fraction. -/
theorem roundWithAccuracy_units (sign : Sign) {num den : Nat} (positive : 0 < den) {power : Int}
    (fits : power ≤ Format.binary32.targetExponent (totalExponent (num / den) power))
    {up down : Nat} (scale : power + 149 = up - down) :
    let result := roundWithAccuracy Format.binary32 sign (num / den) power
      (accuracyOfFraction (num % den) den)
    Canonical result ∧
      units result = some (sign.apply (rounded (num * 2 ^ up) (den * 2 ^ down))) := by
  have target := targetExponent_eq (totalExponent (num / den) power)
  have shifted := shiftToTargetExponent_represent num positive fits
  rw [totalExponent] at target shifted fits
  generalize Format.binary32.targetExponent ((num / den).log2 + 1 + power) = goal
    at fits target shifted
  obtain ⟨count, counted⟩ := Int.eq_ofNat_of_zero_le (Int.sub_nonneg.mpr fits)
  obtain ⟨extra, extras⟩ : ∃ extra : Nat, goal + 149 = extra :=
    Int.eq_ofNat_of_zero_le (by omega)
  have exponents : count + up = extra + down := by omega
  have least : extra = 0 ∨ num / den ≠ 0 ∧ count + 23 ≤ (num / den).log2 := by
    rcases Nat.eq_zero_or_pos extra with none_ | some_
    · exact .inl none_
    · refine .inr ⟨fun zero => ?_, by omega⟩
      rw [zero, Nat.log2_zero] at target
      omega
  have spread : Spread (num * 2 ^ up) (den * 2 ^ down) extra :=
    spread_of_bits num positive exponents (by omega) least
  have scaled : 0 < den * 2 ^ down := Nat.mul_pos positive (Nat.two_pow_pos down)
  have same := nearest_scaled num positive exponents
  have value : rounded (num * 2 ^ up) (den * 2 ^ down) =
      magnitude (nearest num (den * 2 ^ count)) goal := by
    rw [rounded_of_spread scaled spread, same, magnitude, extras, Int.toNat_natCast]
  have most := spread.nearest_le scaled
  have full : goal = -149 ∨ 2 ^ 23 ≤ nearest num (den * 2 ^ count) := by
    rw [← same]
    exact spread.above.imp (fun none_ => by omega) (Spread.le_nearest scaled)
  rw [same] at most
  rw [value]
  unfold roundWithAccuracy
  rw [shifted, counted, Int.toNat_natCast]
  dsimp only
  rw [roundedMantissa_represent]
  exact settled most (by omega) full

theorem round_units (sign : Sign) {significand : Nat} (positive : 0 < significand) {power : Int}
    (low : -149 ≤ power) :
    let result := UnpackedFloat.round Format.binary32 sign significand power
    Canonical result ∧
      units result = some (sign.apply (rounded (magnitude significand power) 1)) := by
  unfold UnpackedFloat.round decreaseExponent
  dsimp only
  have target := targetExponent_eq (totalExponent significand power)
  rw [totalExponent] at target ⊢
  generalize Format.binary32.targetExponent (significand.log2 + 1 + power) = goal at target ⊢
  obtain ⟨count, counted⟩ : ∃ count, (power - goal).toNat = count := ⟨_, rfl⟩
  rw [counted, Nat.shiftLeft_eq]
  have fits : power - count ≤ Format.binary32.targetExponent
      (totalExponent (significand * 2 ^ count / 1) (power - count)) := by
    have bits : (significand * 2 ^ count).log2 = significand.log2 + count := by
      have some_ := Nat.ne_of_gt (Nat.mul_pos positive (Nat.two_pow_pos count))
      rw [Nat.log2_eq_iff some_, Nat.add_right_comm, Nat.pow_add, Nat.pow_add _ (_ + 1)]
      exact ⟨Nat.mul_le_mul_right _ (Nat.log2_self_le (Nat.ne_of_gt positive)),
        Nat.mul_lt_mul_of_pos_right Nat.lt_log2_self (Nat.two_pow_pos count)⟩
    rw [targetExponent_eq, totalExponent, Nat.div_one, bits]
    omega
  have scale : power - count + 149 = ((power - count + 149).toNat : Nat) - (0 : Nat) := by omega
  have result := roundWithAccuracy_units sign (by decide) fits scale
  rw [Nat.div_one, Nat.mod_one, accuracyOfFraction_zero, Nat.pow_zero, Nat.one_mul, Nat.mul_assoc,
    ← Nat.pow_add] at result
  have exponents : count + (power - count + 149).toNat = (power + 149).toNat := by omega
  rw [exponents] at result
  exact result

/-- A whole number of units, rounded to 24 significant bits. -/
def roundedSum (value : Int) : Int := value.sign * rounded value.natAbs 1

theorem roundedSum_natCast (value : Nat) : roundedSum value = rounded value 1 := by
  rcases Nat.eq_zero_or_pos value with rfl | positive
  · rfl
  · rw [roundedSum, Int.sign_eq_one_of_pos (by omega), Int.one_mul, Int.natAbs_natCast]

theorem roundedSum_neg (value : Int) : roundedSum (-value) = -roundedSum value := by
  rw [roundedSum, roundedSum, Int.sign_neg, Int.natAbs_neg, Int.neg_mul]

theorem roundedSum_mono {one other : Int} (order : one ≤ other) :
    roundedSum one ≤ roundedSum other := by
  have natural (one other : Nat) (order : one ≤ other) : rounded one 1 ≤ rounded other 1 :=
    rounded_mono (by decide) (by decide) (Nat.mul_le_mul_right 1 order)
  rcases Int.eq_nat_or_neg one with ⟨small, rfl | rfl⟩ <;>
    rcases Int.eq_nat_or_neg other with ⟨large, rfl | rfl⟩
  · rw [roundedSum_natCast, roundedSum_natCast]
    exact Int.ofNat_le.mpr (natural small large (by omega))
  · obtain rfl : small = 0 := by omega
    obtain rfl : large = 0 := by omega
    exact Int.le_refl _
  · rw [roundedSum_neg, roundedSum_natCast, roundedSum_natCast]
    omega
  · rw [roundedSum_neg, roundedSum_neg, roundedSum_natCast, roundedSum_natCast]
    have sizes := natural large small (by omega)
    omega

/-- The value of a number is not rounded. -/
theorem roundedSum_units {x : UnpackedFloat} (canonical : Canonical x) (finite : x.isFinite = true)
    {value : Int} (found : units x = some value) : roundedSum value = value := by
  cases x with
  | notANumber | infinity _ => cases finite
  | zero sign =>
    cases found
    rfl
  | finite sign significand power positive =>
    cases found
    have exact_ : rounded (magnitude significand power) 1 = magnitude significand power :=
      rounded_one canonical.short
    cases sign
    · show roundedSum (-(magnitude significand power : Int)) = -(magnitude significand power : Int)
      rw [roundedSum_neg, roundedSum_natCast, exact_]
    · show roundedSum (magnitude significand power : Int) = (magnitude significand power : Int)
      rw [roundedSum_natCast, exact_]

theorem natCast_magnitude (significand : Nat) (power : Int) :
    (magnitude significand power : Int) = significand * 2 ^ (power + 149).toNat := by
  rw [magnitude, Int.natCast_mul, Int.natCast_pow]
  rfl

theorem normalize_units (value : Int) {power : Int} (low : -149 ≤ power) (zeroSign : Sign) :
    let result := UnpackedFloat.normalize Format.binary32 value power zeroSign
    Canonical result ∧ units result = some (roundedSum (value * 2 ^ (power + 149).toNat)) := by
  unfold UnpackedFloat.normalize
  split
  · rename_i order
    have negative := Int.compare_eq_lt.mp order
    obtain ⟨size, rfl⟩ : ∃ size : Nat, value = -size := ⟨value.natAbs, by omega⟩
    rw [Int.neg_neg, Int.toNat_natCast]
    have some_ : 0 < size := by omega
    obtain ⟨canonical, found⟩ := round_units .negative some_ low
    refine ⟨canonical, found.trans ?_⟩
    rw [Int.neg_mul, roundedSum_neg, ← natCast_magnitude, roundedSum_natCast]
    rfl
  · rename_i order
    rw [Int.compare_eq_eq.mp order]
    refine ⟨trivial, ?_⟩
    rw [Int.zero_mul]
    rfl
  · rename_i order
    have positive := Int.compare_eq_gt.mp order
    obtain ⟨size, rfl⟩ : ∃ size : Nat, value = size := ⟨value.natAbs, by omega⟩
    rw [Int.toNat_natCast]
    have some_ : 0 < size := by omega
    obtain ⟨canonical, found⟩ := round_units .positive some_ low
    refine ⟨canonical, found.trans ?_⟩
    rw [← natCast_magnitude, roundedSum_natCast]
    rfl

/-- The same value at a lower power. -/
theorem magnitude_lowered (significand : Nat) {power level : Int} (low : -149 ≤ level)
    (below : level ≤ power) :
    magnitude (significand * 2 ^ (power - level).toNat) level = magnitude significand power := by
  have exponents : (power - level).toNat + (level + 149).toNat = (power + 149).toNat := by omega
  rw [magnitude, magnitude, Nat.mul_assoc, ← Nat.pow_add, exponents]

/-- Two finite numbers are brought to the lower power of both before they are added. -/
theorem lowered (sign : Sign) (significand : Nat) {power lower : Int} (below : lower ≤ power)
    (low : -149 ≤ lower) :
    sign.apply (decreaseExponent significand power lower).1 * 2 ^ (lower + 149).toNat =
      sign.apply (magnitude significand power) := by
  have same : significand <<< (power - lower).toNat * 2 ^ (lower + 149).toNat =
      magnitude significand power := by
    rw [Nat.shiftLeft_eq]
    exact magnitude_lowered significand low below
  have cast : ((significand <<< (power - lower).toNat : Nat) : Int) * 2 ^ (lower + 149).toNat =
      (magnitude significand power : Int) := by
    rw [← same, Int.natCast_mul, Int.natCast_pow]
    rfl
  cases sign
  · show -((significand <<< (power - lower).toNat : Nat) : Int) * _ = -(_ : Int)
    rw [Int.neg_mul, cast]
  · exact cast

section

variable {x y : UnpackedFloat} (canonical : Canonical x) (canonical' : Canonical y)
  (finite : x.isFinite = true) (finite' : y.isFinite = true) {a b : Int}
  (found : units x = some a) (found' : units y = some b)

include canonical canonical' finite finite' found found'

theorem add_units :
    Canonical (add Format.binary32 x y) ∧
      units (add Format.binary32 x y) = some (roundedSum (a + b)) := by
  cases x with
  | notANumber | infinity _ => cases finite
  | zero sign =>
    cases found
    cases y with
    | notANumber | infinity _ => cases finite'
    | zero sign' =>
      cases found'
      cases sign <;> cases sign' <;> exact ⟨trivial, rfl⟩
    | finite sign' significand' power' positive' =>
      rw [Int.zero_add, roundedSum_units canonical' finite' found']
      exact ⟨canonical', found'⟩
  | finite sign significand power positive =>
    cases y with
    | notANumber | infinity _ => cases finite'
    | zero sign' =>
      cases found'
      rw [Int.add_zero, roundedSum_units canonical finite found]
      exact ⟨canonical, found⟩
    | finite sign' significand' power' positive' =>
      cases found
      cases found'
      have low := canonical.low
      have low' := canonical'.low
      have lower : -149 ≤ Min.min power power' := by omega
      rw [← lowered sign significand (Int.min_le_left power power') lower,
        ← lowered sign' significand' (Int.min_le_right power power') lower, ← Int.add_mul]
      exact normalize_units _ lower .positive

theorem sub_units :
    Canonical (sub Format.binary32 x y) ∧
      units (sub Format.binary32 x y) = some (roundedSum (a - b)) := by
  cases x with
  | notANumber | infinity _ => cases finite
  | zero sign =>
    cases found
    cases y with
    | notANumber | infinity _ => cases finite'
    | zero sign' =>
      cases found'
      cases sign <;> cases sign' <;> exact ⟨trivial, rfl⟩
    | finite sign' significand' power' positive' =>
      rw [Int.zero_sub, roundedSum_neg, roundedSum_units canonical' finite' found']
      cases found'
      refine ⟨canonical', congrArg some ?_⟩
      cases sign'
      · exact (Int.neg_neg _).symm
      · rfl
  | finite sign significand power positive =>
    cases y with
    | notANumber | infinity _ => cases finite'
    | zero sign' =>
      cases found'
      rw [Int.sub_zero, roundedSum_units canonical finite found]
      exact ⟨canonical, found⟩
    | finite sign' significand' power' positive' =>
      cases found
      cases found'
      have low := canonical.low
      have low' := canonical'.low
      have lower : -149 ≤ Min.min power power' := by omega
      rw [← lowered sign significand (Int.min_le_left power power') lower,
        ← lowered sign' significand' (Int.min_le_right power power') lower, ← Int.sub_mul]
      exact normalize_units _ lower .positive

end

/-- The units of one. -/
def unit : Nat := 2 ^ 149

theorem Normal.level {significand : Nat} {power : Int} (normal : Normal significand power) :
    power = -149 ∨ 23 ≤ significand.log2 := by
  rcases normal.full with low | full
  · exact .inl low
  · have some_ : significand ≠ 0 := by omega
    exact .inr ((Nat.le_log2 some_).mpr full)

/-- The product of two finite numbers that are not zero. -/
theorem mul_units (sign sign' : Sign) {one other : Nat} {power power' : Int}
    (positive : 0 < one) (positive' : 0 < other) (normal : Normal one power)
    (normal' : Normal other power') :
    let result := mul Format.binary32 (.finite sign one power positive)
      (.finite sign' other power' positive')
    Canonical result ∧ units result = some ((sign * sign').apply
      (rounded (magnitude one power * magnitude other power') unit)) := by
  have fits : power + power' ≤ Format.binary32.targetExponent
      (totalExponent (one * other / 1) (power + power')) := by
    have product := Nat.mul_pos positive positive'
    have left : one.log2 ≤ (one * other).log2 := by
      rw [Nat.le_log2 (Nat.ne_of_gt product)]
      exact Nat.le_trans (Nat.log2_self_le (Nat.ne_of_gt positive))
        (Nat.le_mul_of_pos_right _ positive')
    have right : other.log2 ≤ (one * other).log2 := by
      rw [Nat.le_log2 (Nat.ne_of_gt product)]
      exact Nat.le_trans (Nat.log2_self_le (Nat.ne_of_gt positive'))
        (Nat.le_mul_of_pos_left _ positive)
    rw [targetExponent_eq, totalExponent, Nat.div_one]
    rcases normal.level with low | full
    · rcases normal'.level with low' | full'
      · omega
      · omega
    · omega
  have low := normal.low
  have low' := normal'.low
  have scale : power + power' + 149 =
      (((power + 149).toNat + (power' + 149).toNat : Nat) : Int) - (149 : Nat) := by omega
  have result := roundWithAccuracy_units (sign * sign') (by decide) fits scale
  rw [Nat.div_one, Nat.mod_one, accuracyOfFraction_zero, Nat.one_mul, Nat.pow_add] at result
  have value : one * other * (2 ^ (power + 149).toNat * 2 ^ (power' + 149).toNat) =
      magnitude one power * magnitude other power' := Nat.mul_mul_mul_comm _ _ _ _
  rw [value] at result
  exact result

/-- The quotient of two finite numbers that are not zero. -/
theorem div_units (sign sign' : Sign) {one other : Nat} {power power' : Int}
    (positive : 0 < one) (positive' : 0 < other) (normal : Normal one power)
    (normal' : Normal other power') :
    let result := div Format.binary32 (.finite sign one power positive)
      (.finite sign' other power' positive')
    Canonical result ∧ units result = some ((sign / sign').apply
      (rounded (magnitude one power * unit) (magnitude other power'))) := by
  have low := normal.low
  have low' := normal'.low
  have target := targetExponent_eq (totalExponent one power - totalExponent other power')
  rw [totalExponent, totalExponent] at target
  unfold div divCore
  dsimp only
  rw [totalExponent, totalExponent]
  generalize Format.binary32.targetExponent (one.log2 + 1 + power - (other.log2 + 1 + power')) =
    goal at target ⊢
  obtain ⟨lower, least⟩ : ∃ lower, Min.min (power - power') goal = lower := ⟨_, rfl⟩
  obtain ⟨count, counted⟩ : ∃ count, (power - power' - lower).toNat = count := ⟨_, rfl⟩
  rw [least, counted, Nat.shiftLeft_eq]
  have fits : lower ≤ Format.binary32.targetExponent
      (totalExponent (one * 2 ^ count / other) lower) := by
    rw [targetExponent_eq, totalExponent]
    -- Unless the lowest power is reached, the divisor goes into the dividend often enough.
    by_cases bottom : lower ≤ -149
    · omega
    · have many : 2 ^ 23 ≤ one * 2 ^ count / other := by
        rw [Nat.le_div_iff_mul_le positive']
        have exponents : 23 + (other.log2 + 1) ≤ one.log2 + count := by omega
        calc 2 ^ 23 * other ≤ 2 ^ 23 * 2 ^ (other.log2 + 1) :=
              Nat.mul_le_mul_left _ (Nat.le_of_lt Nat.lt_log2_self)
          _ ≤ 2 ^ one.log2 * 2 ^ count := by
              rw [← Nat.pow_add, ← Nat.pow_add]
              exact Nat.pow_le_pow_right (by decide) exponents
          _ ≤ one * 2 ^ count :=
              Nat.mul_le_mul_right _ (Nat.log2_self_le (Nat.ne_of_gt positive))
      have bits : 23 ≤ (one * 2 ^ count / other).log2 :=
        (Nat.le_log2 (by omega)).mpr many
      omega
  have scale : lower + 149 = ((lower + 149).toNat : Nat) - ((-(lower + 149)).toNat : Nat) := by
    omega
  obtain ⟨canonical, found⟩ := roundWithAccuracy_units (sign / sign') positive' fits scale
  refine ⟨canonical, found.trans (congrArg (fun size : Nat => some ((sign / sign').apply size)) ?_)⟩
  refine rounded_congr (Nat.mul_pos positive' (Nat.two_pow_pos _))
    (magnitude_pos positive' power') ?_
  have exponents : count + (lower + 149).toNat + (power' + 149).toNat =
      (power + 149).toNat + 149 + (-(lower + 149)).toNat := by omega
  calc one * 2 ^ count * 2 ^ (lower + 149).toNat * magnitude other power' =
        one * other * 2 ^ (count + (lower + 149).toNat + (power' + 149).toNat) := by
        rw [magnitude, Nat.pow_add, Nat.pow_add]
        ac_rfl
    _ = magnitude one power * unit * (other * 2 ^ (-(lower + 149)).toNat) := by
        rw [exponents, magnitude, unit, Nat.pow_add, Nat.pow_add]
        ac_rfl

end Sortie.Scalar
