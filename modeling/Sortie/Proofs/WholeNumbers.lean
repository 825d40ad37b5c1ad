import Sortie.Proofs.Decoding

set_option autoImplicit false

namespace Sortie.Scalar

open Float.Model (UnpackedFloat)
open Float.Model.UnpackedFloat

/-- The number is the whole number `n`; zero may have a sign. -/
structure IsWhole (x : Scalar) (n : Nat) : Prop where
  finite : x.isFinite = true
  value : value? x = some ((n * unit : Nat) : Int)

instance (x : Scalar) (n : Nat) : Decidable (IsWhole x n) :=
  decidable_of_iff (x.isFinite = true ∧ value? x = some ((n * unit : Nat) : Int))
    ⟨fun whole => ⟨whole.1, whole.2⟩, fun whole => ⟨whole.finite, whole.value⟩⟩

theorem unit_pos : 0 < unit := Nat.two_pow_pos 149

theorem rounded_whole {n : Nat} (short : n ≤ 2 ^ 24) : rounded (n * unit) 1 = n * unit := by
  rcases Nat.lt_or_eq_of_le short with less | rfl
  · exact rounded_one less
  · have same : 2 ^ 24 * unit = 2 ^ 23 * 2 ^ 150 := by rw [unit, ← Nat.pow_add, ← Nat.pow_add]
    rw [same]
    exact rounded_one (by decide)

theorem whole_lt_limit {n : Nat} (short : n ≤ 2 ^ 24) : n * unit < limit :=
  Nat.lt_of_le_of_lt (Nat.mul_le_mul_right unit short) (by decide)

/-- A whole number below `2 ^ 24` is stored as it is. -/
theorem bounded_whole {n : Nat} (short : n ≤ 2 ^ 24) :
    bounded (roundedSum (n * unit : Nat)) = (n * unit : Nat) := by
  have small := whole_lt_limit short
  rw [roundedSum_natCast, rounded_whole short]
  exact bounded_of_le (by omega) (by omega)

theorem isWhole_of_value {x : Scalar} {n : Nat} (short : n ≤ 2 ^ 24)
    (found : value? x = some ((n * unit : Nat) : Int)) : IsWhole x n :=
  ⟨isFinite_of_value found (by have := limit_pos; omega)
    (Int.ofNat_lt.mpr (whole_lt_limit short)), found⟩

section

variable {x y : Scalar} {m n : Nat} (whole : IsWhole x m) (whole' : IsWhole y n)

include whole whole'

theorem IsWhole.add (short : m + n < 2 ^ 24) : IsWhole (x + y) (m + n) := by
  refine isWhole_of_value (Nat.le_of_lt short) ?_
  rw [value?_add whole.finite whole'.finite whole.value whole'.value, ← Int.natCast_add,
    ← Nat.add_mul, bounded_whole (Nat.le_of_lt short)]

theorem IsWhole.lt_iff : x < y ↔ m < n := by
  have scale : (m * unit : Nat) < (n * unit : Nat) ↔ m < n := Nat.mul_lt_mul_right unit_pos
  rw [Scalar.lt_iff, whole.value, whole'.value, ← scale]
  constructor
  · rintro ⟨_, _, same, same', less⟩
    cases same
    cases same'
    exact Int.ofNat_lt.mp less
  · exact fun less => ⟨_, _, rfl, rfl, Int.ofNat_lt.mpr less⟩

end

/-- Below `2 ^ 24`, the comparison with a count is not disturbed by its rounding. -/
theorem IsWhole.lt_ofCount {x : Scalar} {k : Nat} (whole : IsWhole x k) (short : k < 2 ^ 24)
    {n : Nat} (small : n < UInt64.size) : x < ofCount n ↔ k < n := by
  have found := value?_ofCount small
  rw [← Int.natCast_mul] at found
  rcases Nat.lt_or_ge n (2 ^ 24) with few | many
  · rw [bounded_whole (Nat.le_of_lt few)] at found
    exact whole.lt_iff (isWhole_of_value (Nat.le_of_lt few) found)
  · refine ⟨fun _ => Nat.lt_of_lt_of_le short many, fun _ => ?_⟩
    have most : ((2 ^ 24 * unit : Nat) : Int) ≤ (n * unit : Nat) :=
      Int.ofNat_le.mpr (Nat.mul_le_mul_right unit many)
    have high := bounded_mono (roundedSum_mono most)
    rw [bounded_whole (Nat.le_refl _)] at high
    have less : k * unit < 2 ^ 24 * unit := Nat.mul_lt_mul_of_pos_right short unit_pos
    exact Scalar.lt_iff.mpr ⟨_, _, whole.value, found,
      Int.lt_of_lt_of_le (Int.ofNat_lt.mpr less) high⟩

/-- The bits that a shift to the units drops. -/
theorem roundToInt_positive {significand : Nat} {power : Int} (low : -149 ≤ power) :
    roundToInt .positive significand power = (magnitude significand power / unit : Nat) := by
  have units : magnitude significand power / unit =
      significand <<< power.toNat / 2 ^ (-power).toNat := by
    rw [Nat.shiftLeft_eq, magnitude, unit]
    rcases Int.le_total 0 power with whole | fraction
    · have exponents : (power + 149).toNat = power.toNat + 149 := by omega
      have none_ : (-power).toNat = 0 := by omega
      rw [exponents, none_, Nat.pow_add, ← Nat.mul_assoc,
        Nat.mul_div_cancel _ (Nat.two_pow_pos 149), Nat.pow_zero, Nat.div_one]
    · have exponents : 149 = (power + 149).toNat + (-power).toNat := by omega
      have none_ : power.toNat = 0 := by omega
      rw [none_, Nat.pow_zero, Nat.mul_one]
      conv => lhs; rhs; rw [exponents, Nat.pow_add, Nat.mul_comm]
      rw [Nat.mul_div_mul_right _ _ (Nat.two_pow_pos _)]
  have shift : (0 - (power - (power - 0).toNat)).toNat = (-power).toNat := by omega
  have exact_ : represent (significand <<< power.toNat) 1 =
      ExtendedMantissa.ofMantissaAndAccuracy (significand <<< power.toNat) .exact := by
    rw [represent, Nat.div_one, Nat.mod_one]
    rfl
  unfold roundToInt decreaseExponent shiftToExponent
  dsimp only
  rw [shift, Int.sub_zero, ← exact_, shiftRight_represent _ Nat.one_pos, Nat.one_mul, units]
  generalize significand <<< power.toNat = num
  generalize 2 ^ (-power).toNat = den
  unfold represent ExtendedMantissa.ofMantissaAndAccuracy
  rcases accuracyOfFraction (num % den) den with _ | _ | _ | _ <;> rfl

/-- A number that is not negative is cut to a count of 32 bits. -/
theorem wholeCount_eq {x : Scalar} (finite : x.isFinite = true) {a : Nat}
    (found : value? x = some (a : Int)) :
    x.wholeCount = Min.min (a / unit) (UInt32.size - 1) := by
  have number : x.wholeCount = (x.unpacked.toUInt32).toNat := rfl
  have integer : x.unpacked.toInt 0 (UInt32.size - 1) = (a / unit : Nat) := by
    rcases unpacked_of_nonneg finite found with ⟨sign, zero, rfl⟩ |
      ⟨significand, power, positive, parts, normal, rfl⟩
    · rw [zero, Nat.zero_div]
      rfl
    · rw [parts]
      exact roundToInt_positive normal.low
  rw [number, UnpackedFloat.toUInt32, integer, Int.toNat_natCast]
  unfold UInt32.ofNatClamp
  split
  · rename_i small
    rw [Nat.min_eq_left (by omega)]
    rfl
  · rename_i large
    rw [Nat.min_eq_right (by omega)]
    rfl

theorem IsWhole.wholeCount {x : Scalar} {n : Nat} (whole : IsWhole x n)
    (small : n < UInt32.size) : x.wholeCount = n := by
  rw [wholeCount_eq whole.finite whole.value, Nat.mul_div_cancel n unit_pos]
  omega

section

variable {m n : Nat} (short : m < 2 ^ 24) (some_ : 0 < n)

include short some_

/-- A quotient is not rounded below its whole part. -/
theorem le_rounded_div : m / n * unit ≤ rounded (m * unit) n := by
  have few : m / n < 2 ^ 24 := Nat.lt_of_le_of_lt (Nat.div_le_self m n) short
  have order : m / n * unit * n ≤ m * unit * 1 := by
    rw [Nat.mul_one, Nat.mul_right_comm]
    exact Nat.mul_le_mul_right unit (Nat.div_mul_le_self m n)
  calc m / n * unit = rounded (m / n * unit) 1 := (rounded_whole (Nat.le_of_lt few)).symm
    _ ≤ rounded (m * unit) n := rounded_mono Nat.one_pos some_ order

/-- A quotient is not rounded up to the next whole number: half a step is less than what is missing
there. -/
theorem rounded_div_lt (small : n < unit) : rounded (m * unit) n < (m / n + 1) * unit := by
  have spread := surplus_spread (m * unit) some_
  generalize surplus (m * unit) n = extra at spread
  have half := nearest_mul_le (m * unit) (n * 2 ^ extra)
  have step : n * 2 ^ extra < 2 * unit := by
    rcases spread.above with rfl | above
    · omega
    · have bits : n * 2 ^ extra * 2 ^ 23 < 2 * unit * 2 ^ 23 := by
        calc n * 2 ^ extra * 2 ^ 23 = n * 2 ^ (extra + 23) := by rw [Nat.mul_assoc, ← Nat.pow_add]
          _ ≤ m * unit := above
          _ < 2 ^ 24 * unit := Nat.mul_lt_mul_of_pos_right short unit_pos
          _ = 2 * unit * 2 ^ 23 := by omega
      exact Nat.lt_of_mul_lt_mul_right bits
  have missing : (m + 1) * unit ≤ (m / n + 1) * n * unit :=
    Nat.mul_le_mul_right unit (Nat.lt_div_mul_add some_ |>.trans_eq (by ring))
  rw [rounded_of_spread some_ spread]
  refine Nat.lt_of_not_le fun reached => ?_
  have product := Nat.mul_le_mul_right n reached
  have left : (m / n + 1) * unit * n = (m / n + 1) * n * unit := Nat.mul_right_comm _ _ _
  have right : nearest (m * unit) (n * 2 ^ extra) * 2 ^ extra * n =
      nearest (m * unit) (n * 2 ^ extra) * (n * 2 ^ extra) := by
    rw [Nat.mul_assoc, Nat.mul_comm n]
  rw [left, right] at product
  rw [Nat.add_mul, Nat.one_mul] at missing
  omega

end

section

variable {x y : Scalar} {m n : Nat} (whole : IsWhole x m) (whole' : IsWhole y n) (some_ : 0 < n)
  (short : m < 2 ^ 24)

include whole whole' some_ short

/-- The rounding of a quotient does not change its whole part. -/
theorem IsWhole.floor_div : IsWhole (x / y).floor (m / n) := by
  have least : 0 < n * unit := Nat.mul_pos some_ unit_pos
  have small : n < unit := by
    obtain ⟨_, same, _, high⟩ := exists_value whole'.finite
    rw [whole'.value] at same
    cases same
    have bound : n * unit < unit * unit :=
      Nat.lt_trans (Int.ofNat_lt.mp high) (by decide)
    exact Nat.lt_of_mul_lt_mul_right bound
  have low := le_rounded_div short some_
  have high := rounded_div_lt short some_ small
  have few : m / n + 1 ≤ 2 ^ 24 := Nat.lt_of_le_of_lt (Nat.div_le_self m n) short
  have fits := whole_lt_limit few
  have same : rounded (m * unit * unit) (n * unit) = rounded (m * unit) n :=
    rounded_congr least some_ (by ring)
  have found := value?_div whole.finite whole.value whole'.finite whole'.value least
  rw [same, bounded_of_le (by omega) (by omega)] at found
  have finite := isFinite_of_value found (by omega) (by omega)
  have part : rounded (m * unit) n / unit = m / n :=
    Nat.div_eq_of_lt_le low high
  refine isWhole_of_value (by omega) ?_
  rw [value?_floor finite found, part]

theorem IsWhole.wrap : IsWhole (x.wrap y) (m % n) := by
  have least : 0 < n * unit := Nat.mul_pos some_ unit_pos
  have few : m % n ≤ 2 ^ 24 := Nat.le_trans (Nat.mod_le m n) (Nat.le_of_lt short)
  refine isWhole_of_value few ?_
  rw [value?_wrap whole.finite whole.value whole'.finite whole'.value least, Nat.mul_mod_mul_right]

end

end Sortie.Scalar
