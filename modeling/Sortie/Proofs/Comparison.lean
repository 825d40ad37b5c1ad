import Sortie.Proofs.ScalarOrder

set_option autoImplicit false

namespace Sortie.Scalar

open Float.Model
open UnpackedFloat (Sign)

/-- A number, finite or not. -/
def Comparable (x : Scalar) : Prop := ∃ a, value? x = some a

theorem Comparable.of_finite {x : Scalar} (finite : x.isFinite = true) : Comparable x :=
  let ⟨a, found, _⟩ := exists_value finite
  ⟨a, found⟩

theorem comparable_of_le {x y : Scalar} (order : x ≤ y) : Comparable x ∧ Comparable y := by
  obtain ⟨a, b, found, found', _⟩ := le_iff.mp order
  exact ⟨⟨a, found⟩, ⟨b, found'⟩⟩

theorem Comparable.le_refl {x : Scalar} (number : Comparable x) : x ≤ x :=
  let ⟨_, found⟩ := number
  le_refl_of_value found

theorem le_trans {x y z : Scalar} (first : x ≤ y) (second : y ≤ z) : x ≤ z := by
  obtain ⟨a, b, found, found', order⟩ := le_iff.mp first
  obtain ⟨b', c, same, found'', order'⟩ := le_iff.mp second
  rw [found'] at same
  cases same
  exact le_iff.mpr ⟨a, c, found, found'', Int.le_trans order order'⟩

theorem lt_of_le_of_lt {x y z : Scalar} (first : x ≤ y) (second : y < z) : x < z := by
  obtain ⟨a, b, found, found', order⟩ := le_iff.mp first
  obtain ⟨b', c, same, found'', less⟩ := lt_iff.mp second
  rw [found'] at same
  cases same
  exact lt_iff.mpr ⟨a, c, found, found'', Int.lt_of_le_of_lt order less⟩

theorem lt_trans {x y z : Scalar} (first : x < y) (second : y < z) : x < z :=
  lt_of_le_of_lt (le_of_lt first) second

theorem lt_irrefl (x : Scalar) : ¬ x < x := fun less => not_lt_of_le (le_of_lt less) less

theorem Comparable.lt_or_le {x y : Scalar} (number : Comparable x) (number' : Comparable y) :
    x < y ∨ y ≤ x := by
  obtain ⟨a, found⟩ := number
  obtain ⟨b, found'⟩ := number'
  rcases Int.lt_or_le a b with less | order
  · exact .inl (lt_iff.mpr ⟨a, b, found, found', less⟩)
  · exact .inr (le_iff.mpr ⟨b, a, found', found, order⟩)

/-- A number is finite or beyond all finite ones on its side. -/
theorem finite_or_endless {x : Scalar} {a : Int} (found : value? x = some a) :
    x.isFinite = true ∨
      ∃ sign : Sign, x.unpacked = .infinity sign ∧ a = sign.apply limit := by
  cases ends : x.isFinite with
  | true => exact .inl rfl
  | false =>
    unfold value? at found
    rcases unpacked_of_not_isFinite ends with none_ | ⟨sign, endless⟩
    · rw [none_] at found
      cases found
    · rw [endless] at found
      cases found
      exact .inr ⟨sign, endless, rfl⟩

/-- A sum with a finite number is a number, even if it is too large. -/
theorem Comparable.add {x y : Scalar} (number : Comparable x) (finite : y.isFinite = true) :
    Comparable (x + y) := by
  obtain ⟨a, found⟩ := number
  obtain ⟨b, found', _⟩ := exists_value finite
  rcases finite_or_endless found with ends | ⟨sign, endless, _⟩
  · exact ⟨_, value?_add ends finite found found'⟩
  · have sum : UnpackedFloat.add Format.binary32 x.unpacked y.unpacked = .infinity sign := by
      rw [isFinite_iff] at finite
      rw [endless]
      cases other : y.unpacked with
      | notANumber | infinity _ =>
        rw [other] at finite
        cases finite
      | zero _ | finite _ _ _ _ => rfl
    refine ⟨sign.apply limit, ?_⟩
    rw [value?, unpacked_add, sum, stored_infinity]
    rfl

/-- A share of a finite whole that is not zero is a number. -/
theorem Comparable.div {x y : Scalar} (number : Comparable x) (finite : y.isFinite = true)
    {b : Int} (found' : value? y = some b) (some_ : b ≠ 0) : Comparable (x / y) := by
  obtain ⟨a, found⟩ := number
  have normal := (unpacked_storable x).canonical
  have normal' := (unpacked_storable y).canonical
  rw [isFinite_iff] at finite
  unfold value? at found found'
  rw [Comparable, value?, unpacked_div]
  cases divisor : y.unpacked with
  | notANumber | infinity _ =>
    rw [divisor] at finite
    cases finite
  | zero _ =>
    rw [divisor] at found'
    cases found'
    exact absurd rfl some_
  | finite sign' other power' positive' =>
    cases dividend : x.unpacked with
    | notANumber =>
      rw [dividend] at found
      cases found
    | infinity sign =>
      refine ⟨(sign / sign').apply limit, ?_⟩
      rw [UnpackedFloat.div, stored_infinity]
      rfl
    | zero sign =>
      refine ⟨0, ?_⟩
      rw [UnpackedFloat.div, stored_zero]
      rfl
    | finite sign one power positive =>
      rw [dividend] at normal
      rw [divisor] at normal'
      obtain ⟨canonical, quotient⟩ := div_units sign sign' positive positive' normal normal'
      exact ⟨_, (units_stored canonical).trans (congrArg _ quotient)⟩

/-- A count that fits the machine, rounded to the nearest number. -/
theorem value?_ofCount {count : Nat} (small : count < UInt64.size) :
    value? (ofCount count) = some (bounded (roundedSum (count * unit))) := by
  have whole : (count.toUInt64.toNat : Int) = count :=
    congrArg Int.ofNat (Nat.mod_eq_of_lt small)
  obtain ⟨canonical, found⟩ := @normalize_units count 0 (by decide) .positive
  have number : unpacked (ofCount count) =
      stored (UnpackedFloat.normalize Format.binary32 count 0 .positive) := by
    rw [← whole]
    rfl
  rw [value?, number, units_stored canonical, found]
  rfl

/-- It is a finite number, and positive unless nothing is counted. -/
theorem ofCount_finite {count : Nat} (some_ : 0 < count) (small : count < UInt64.size) :
    ∃ c : Int, value? (ofCount count) = some c ∧ 0 < c ∧ c < limit := by
  refine ⟨_, value?_ofCount small, ?_, ?_⟩
  · have least : bounded (roundedSum (unit : Int)) = unit := bounded_roundedSum rfl value?_one
    have one : (unit : Int) ≤ count * unit :=
      le_mul_of_one_le_left (Int.natCast_nonneg unit) (by omega)
    have low := bounded_mono (roundedSum_mono one)
    rw [least] at low
    exact Int.lt_of_lt_of_le (by decide) low
  · have most : value? (18446744073709551616 : Scalar) = some ((2 : Int) ^ 64 * unit) := by decide
    have greatest := bounded_roundedSum rfl most
    have all : (count * unit : Int) ≤ 2 ^ 64 * unit :=
      Int.mul_le_mul_of_nonneg_right (Int.ofNat_le.mpr (Nat.le_of_lt small))
        (Int.natCast_nonneg unit)
    have high := bounded_mono (roundedSum_mono all)
    rw [greatest] at high
    exact Int.lt_of_le_of_lt high (by decide)

/-- The smaller of two numbers that can be compared is below both. -/
theorem smaller_le {x y : Scalar} (number : Comparable x) (number' : Comparable y) :
    (if x < y then x else y) ≤ x ∧ (if x < y then x else y) ≤ y := by
  split
  · rename_i less
    exact ⟨number.le_refl, le_of_lt less⟩
  · rename_i order
    exact ⟨(number.lt_or_le number').resolve_left order, number'.le_refl⟩

/-- The larger of two numbers that can be compared is above both. -/
theorem le_larger {x y : Scalar} (number : Comparable x) (number' : Comparable y) :
    x ≤ (if y < x then x else y) ∧ y ≤ (if y < x then x else y) := by
  split
  · rename_i less
    exact ⟨number.le_refl, le_of_lt less⟩
  · rename_i order
    exact ⟨(number'.lt_or_le number).resolve_left order, number'.le_refl⟩

/-- Two ranges that touch are both in the upper half from a number on, or both reach below it. -/
theorem common_side {low high low' high' middle : Scalar} (number : Comparable middle)
    (order : low ≤ high) (order' : low' ≤ high') (touch : low ≤ high') (touch' : low' ≤ high) :
    middle ≤ high ∧ middle ≤ high' ∨ low < middle ∧ low' < middle := by
  have top := (comparable_of_le order).2
  have top' := (comparable_of_le order').2
  rcases top.lt_or_le number with under | above
  · exact .inr ⟨lt_of_le_of_lt order under, lt_of_le_of_lt touch' under⟩
  · rcases top'.lt_or_le number with under' | above'
    · exact .inr ⟨lt_of_le_of_lt touch under', lt_of_le_of_lt order' under'⟩
    · exact .inl ⟨above, above'⟩

theorem value?_bounded {x : Scalar} {a : Int} (found : value? x = some a) :
    -limit ≤ a ∧ a ≤ limit := by
  have top := limit_pos
  rcases finite_or_endless found with finite | ⟨sign, _, rfl⟩
  · obtain ⟨b, same, low, high⟩ := exists_value finite
    rw [found] at same
    cases same
    exact ⟨Int.le_of_lt low, Int.le_of_lt high⟩
  · cases sign <;> simp only [Sign.apply] <;> omega

/-- A number that is not negative is finite or beyond all others. -/
theorem finite_or_infinite {x : Scalar} (nonneg : 0 ≤ x) :
    x.isFinite = true ∨ x.unpacked = .infinity .positive := by
  have top := limit_pos
  obtain ⟨_, b, zero, found, positive⟩ := le_iff.mp nonneg
  rw [value?_zero] at zero
  cases zero
  rcases finite_or_endless found with finite | ⟨sign, endless, rfl⟩
  · exact .inl finite
  · cases sign with
    | negative => simp only [Sign.apply] at positive; omega
    | positive => exact .inr endless

theorem unpacked_sub_infinity (x : Scalar) {y : Scalar}
    (endless : y.unpacked = .infinity .positive) :
    (x - y).unpacked = .notANumber ∨ (x - y).unpacked = .infinity .negative := by
  rw [unpacked_sub, endless]
  cases x.unpacked with
  | notANumber => exact .inl stored_notANumber
  | infinity sign =>
    cases sign with
    | negative => exact .inr (stored_infinity .negative)
    | positive => exact .inl stored_notANumber
  | zero _ | finite _ _ _ _ => exact .inr (stored_infinity .negative)

theorem unpacked_add_infinity (x : Scalar) {y : Scalar}
    (endless : y.unpacked = .infinity .positive) :
    (x + y).unpacked = .notANumber ∨ (x + y).unpacked = .infinity .positive := by
  rw [unpacked_add, endless]
  cases x.unpacked with
  | notANumber => exact .inl stored_notANumber
  | infinity sign =>
    cases sign with
    | negative => exact .inl stored_notANumber
    | positive => exact .inr (stored_infinity .positive)
  | zero _ | finite _ _ _ _ => exact .inr (stored_infinity .positive)

/-- What is not negative leaves no more when it is taken away, if it leaves a number. -/
theorem sub_le_self {x y : Scalar} (nonneg : 0 ≤ y) (number : Comparable (x - y)) : x - y ≤ x := by
  obtain ⟨c, difference⟩ := number
  obtain ⟨a, found⟩ := exists_value_of_sub difference
  refine le_iff.mpr ⟨c, a, difference, found, ?_⟩
  rcases finite_or_infinite nonneg with finite' | endless
  · obtain ⟨_, b, zero, found', positive⟩ := le_iff.mp nonneg
    rw [value?_zero] at zero
    cases zero
    cases ends : x.isFinite with
    | true =>
      rw [value?_sub ends finite' found found'] at difference
      cases difference
      have shrunk := bounded_mono (roundedSum_mono (Int.sub_le_self a positive))
      rwa [bounded_roundedSum ends found] at shrunk
    | false =>
      unfold value? at found difference
      rcases unpacked_sub_of_not_isFinite y ends with kept | none_
      · rw [kept, found] at difference
        cases difference
        exact Int.le_refl c
      · rw [none_] at difference
        cases difference
  · have least := (value?_bounded found).1
    unfold value? at difference
    rcases unpacked_sub_infinity x endless with none_ | bottom
    · rw [none_] at difference
      cases difference
    · rw [bottom] at difference
      cases difference
      exact least

/-- What is not negative makes no less when it is added, if it makes a number. -/
theorem le_add_self {x y : Scalar} (nonneg : 0 ≤ y) (number : Comparable x)
    (number' : Comparable (x + y)) : x ≤ x + y := by
  obtain ⟨a, found⟩ := number
  rcases finite_or_infinite nonneg with finite' | endless
  · exact le_add (le_refl_of_value found) finite' (not_lt_of_le nonneg)
  · obtain ⟨c, sum⟩ := number'
    refine le_iff.mpr ⟨a, c, found, sum, ?_⟩
    have most := (value?_bounded found).2
    unfold value? at sum
    rcases unpacked_add_infinity x endless with none_ | top
    · rw [none_] at sum
      cases sum
    · rw [top] at sum
      cases sum
      exact most

/-- The smaller of two numbers is at most the larger, if both choices end at a number. -/
theorem smaller_le_larger {x y : Scalar} (number : Comparable (if x < y then x else y)) :
    (if x < y then x else y) ≤ (if y < x then x else y) := by
  by_cases less : x < y
  · rw [if_pos less, if_neg fun more => not_lt_of_le (le_of_lt less) more]
    exact le_of_lt less
  · rw [if_neg less] at number ⊢
    by_cases more : y < x
    · rw [if_pos more]
      exact le_of_lt more
    · rw [if_neg more]
      exact number.le_refl

/-- The sides of a range that is widened by what is not negative keep their order. -/
theorem sub_le_add {low high pad : Scalar} (order : Comparable low → low ≤ high)
    (nonneg : 0 ≤ pad) (number : Comparable (low - pad)) (number' : Comparable (high + pad)) :
    low - pad ≤ high + pad := by
  have lower := sub_le_self nonneg number
  have middle := order (comparable_of_le lower).2
  exact le_trans (le_trans lower middle)
    (le_add_self nonneg (comparable_of_le middle).2 number')

end Sortie.Scalar
