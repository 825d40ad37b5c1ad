import Mathlib
import Sortie.Proofs.Nearest
import Sortie.Proofs.Scalars

set_option autoImplicit false

namespace Sortie.Scalar

open Float.Model (UnpackedFloat Format totalExponent)
open Float.Model.UnpackedFloat (Sign accuracyOfFraction)

/-- The first value that no finite number has: one bit above 24 bits at the highest power. -/
def limit : Nat := 2 ^ 24 * 2 ^ 253

/-- The value of a significand at a power, which is at least -149. -/
def magnitude (significand : Nat) (power : Int) : Nat := significand * 2 ^ (power + 149).toNat

/-- The value in units of `2 ^ -149`; that of an infinity is beyond all others. -/
def units : UnpackedFloat → Option Int
  | .notANumber => none
  | .infinity sign => some (sign.apply limit)
  | .zero _ => some 0
  | .finite sign significand power _ => some (sign.apply (magnitude significand power))

/-- The significand has 24 bits, or fewer at the lowest power. -/
structure Normal (significand : Nat) (power : Int) : Prop where
  short : significand < 2 ^ 24
  low : -149 ≤ power
  full : power = -149 ∨ 2 ^ 23 ≤ significand

/-- A number as operations leave it, which may be too large to be stored. -/
def Canonical : UnpackedFloat → Prop
  | .finite _ significand power _ => Normal significand power
  | _ => True

/-- A number as it is stored. -/
def Storable : UnpackedFloat → Prop
  | .finite _ significand power _ => Normal significand power ∧ power ≤ 104
  | _ => True

theorem Storable.canonical {x : UnpackedFloat} (storable : Storable x) : Canonical x := by
  cases x with
  | finite sign significand power positive => exact storable.1
  | _ => trivial

section

open Float.Model.UnpackedFloat

/-- A significand of 24 bits is its first bit and the others. -/
theorem toNat_append (mantissa : BitVec 23) :
    (1#1 ++ mantissa).toNat = 2 ^ 23 + mantissa.toNat := by
  have whole := Nat.two_pow_add_eq_or_of_lt mantissa.isLt 1
  rw [BitVec.toNat_append, BitVec.toNat_ofNat, Nat.shiftLeft_eq, ← whole, Nat.mul_one]

theorem unpack_storable (bits : BitVec Format.binary32.numBits) :
    Storable (unpack Format.binary32 bits) := by
  have short : (unpackMantissa bits).toNat < 2 ^ 23 := (unpackMantissa bits).isLt
  have small : (unpackExponent bits).toNat < 2 ^ 8 := (unpackExponent bits).isLt
  have bias : (Format.binary32.exponentBias : Int) = 127 := by decide
  unfold unpack
  dsimp only
  split
  · split <;> trivial
  · rename_i finite
    have below : (unpackExponent bits).toNat ≠ 255 := fun same =>
      finite (BitVec.eq_of_toNat_eq same)
    split
    · rename_i zero
      have none_ : (unpackExponent bits).toNat = 0 := by rw [zero]; rfl
      split
      · trivial
      · refine ⟨⟨?_, ?_, .inl ?_⟩, ?_⟩ <;> omega
    · rename_i normal
      have some_ : (unpackExponent bits).toNat ≠ 0 := fun same =>
        normal (BitVec.eq_of_toNat_eq same)
      have whole := toNat_append (unpackMantissa bits)
      refine ⟨⟨?_, ?_, .inr ?_⟩, ?_⟩ <;> omega

theorem unpacked_storable (x : Scalar) : Storable x.unpacked := unpack_storable _

theorem stored_eq (x : UnpackedFloat) :
    stored x = unpack Format.binary32 (pack Format.binary32 x) := rfl

/-- Finite numbers are equal if their parts are. -/
theorem finite_congr {sign : Sign} {one other : Nat} {power power' : Int} (positive : 0 < one)
    (positive' : 0 < other) (same : one = other) (level : power = power') :
    UnpackedFloat.finite sign one power positive = .finite sign other power' positive' := by
  subst same level
  rfl

/-- A canonical number that is not too large comes back as it was stored. -/
theorem stored_finite (sign : Sign) {significand : Nat} {power : Int} (positive : 0 < significand)
    (normal : Normal significand power) (small : power ≤ 104) :
    stored (.finite sign significand power positive) = .finite sign significand power positive := by
  have bias : (Format.binary32.exponentBias : Int) = 127 := by decide
  have count : Format.binary32.mantissaBits = 24 := by decide
  have short := normal.short
  have low := normal.low
  have biased : power + 127 + ((23 : Nat) : Int) = power + 150 := by omega
  rw [stored_eq]
  unfold pack
  dsimp only
  rw [bias, biased, if_neg (by omega)]
  split
  · rename_i full
    have bits : significand.log2 = 23 := by omega
    have least : 2 ^ 23 ≤ significand := bits ▸ Nat.log2_self_le (by omega)
    have exponent : (BitVec.ofNat 8 (power + 150).toNat).toNat = (power + 150).toNat := by
      rw [BitVec.toNat_ofNat, Nat.mod_eq_of_lt (by omega)]
    have mantissa : (BitVec.ofNat 23 significand).toNat = significand - 2 ^ 23 := by
      rw [BitVec.toNat_ofNat]
      omega
    unfold unpack
    simp only [unpackExponent_packComponents, unpackMantissa_packComponents,
      unpackSign_packComponents, Sign.ofBitVec_toBitVec]
    rw [if_neg, if_neg]
    · refine finite_congr _ _ ?_ ?_
      · rw [toNat_append, mantissa]
        omega
      · rw [exponent, bias]
        omega
    · intro zero
      have none_ := congrArg BitVec.toNat zero
      rw [exponent, BitVec.toNat_ofNat] at none_
      omega
    · intro top
      have all := congrArg BitVec.toNat top
      rw [exponent] at all
      have most : (-1#8 : BitVec 8).toNat = 255 := by decide
      omega
  · rename_i partial_
    have bits : significand < 2 ^ 23 := by
      refine Nat.lt_of_not_le fun least => partial_ ?_
      have low : 23 ≤ significand.log2 := (Nat.le_log2 (by omega)).mpr least
      have high : significand.log2 < 24 := (Nat.log2_lt (by omega)).mpr short
      omega
    have level : power = -149 := normal.full.resolve_right (by omega)
    have mantissa : (BitVec.ofNat 23 significand).toNat = significand := by
      rw [BitVec.toNat_ofNat, Nat.mod_eq_of_lt bits]
    have some_ : BitVec.ofNat 23 significand ≠ 0#23 := by
      intro zero
      rw [zero] at mantissa
      exact absurd mantissa (Nat.ne_of_lt positive)
    unfold unpack
    simp only [unpackExponent_packComponents, unpackMantissa_packComponents,
      unpackSign_packComponents, Sign.ofBitVec_toBitVec]
    rw [if_neg (by decide), if_pos trivial, dif_neg some_]
    refine finite_congr _ _ mantissa ?_
    rw [bias, level]
    rfl

/-- A canonical number that is too large is stored as an infinity. -/
theorem stored_large (sign : Sign) {significand : Nat} {power : Int} (positive : 0 < significand)
    (large : 104 < power) :
    stored (.finite sign significand power positive) = .infinity sign := by
  have bias : (Format.binary32.exponentBias : Int) = 127 := by decide
  rw [stored_eq]
  unfold pack
  dsimp only
  rw [bias, if_pos (by omega)]
  exact stored_infinity sign

end

theorem magnitude_pos {significand : Nat} (positive : 0 < significand) (power : Int) :
    0 < magnitude significand power :=
  Nat.mul_pos positive (Nat.two_pow_pos _)

theorem Normal.lt_limit {significand : Nat} {power : Int} (normal : Normal significand power)
    (small : power ≤ 104) : magnitude significand power < limit := by
  have most : 2 ^ (power + 149).toNat ≤ 2 ^ 253 := Nat.pow_le_pow_right (by decide) (by omega)
  calc magnitude significand power < 2 ^ 24 * 2 ^ (power + 149).toNat :=
        Nat.mul_lt_mul_of_pos_right normal.short (Nat.two_pow_pos _)
    _ ≤ limit := Nat.mul_le_mul_left _ most

theorem Normal.limit_le {significand : Nat} {power : Int} (normal : Normal significand power)
    (large : 104 < power) : limit ≤ magnitude significand power := by
  have least : 2 ^ 254 ≤ 2 ^ (power + 149).toNat := Nat.pow_le_pow_right (by decide) (by omega)
  calc limit = 2 ^ 23 * 2 ^ 254 := rfl
    _ ≤ magnitude significand power :=
        Nat.mul_le_mul (normal.full.resolve_left (by omega)) least

theorem Normal.lt_of_power {one other : Nat} {power power' : Int} (normal : Normal one power)
    (normal' : Normal other power') (less : power < power') :
    magnitude one power < magnitude other power' := by
  have low := normal.low
  have exponents : 24 + (power + 149).toNat ≤ 23 + (power' + 149).toNat := by omega
  calc magnitude one power < 2 ^ 24 * 2 ^ (power + 149).toNat :=
        Nat.mul_lt_mul_of_pos_right normal.short (Nat.two_pow_pos _)
    _ ≤ 2 ^ 23 * 2 ^ (power' + 149).toNat := by
        rw [← Nat.pow_add, ← Nat.pow_add]
        exact Nat.pow_le_pow_right (by decide) exponents
    _ ≤ magnitude other power' :=
        Nat.mul_le_mul_right _ (normal'.full.resolve_left (by omega))

/-- Canonical numbers compare by power first. -/
theorem Normal.compare_eq {one other : Nat} {power power' : Int} (normal : Normal one power)
    (normal' : Normal other power') :
    (compare power power').then (compare one other) =
      compare (magnitude one power) (magnitude other power') := by
  rcases order : compare power power' with _ | _ | _
  · exact (Nat.compare_eq_lt.mpr (normal.lt_of_power normal' (Int.compare_eq_lt.mp order))).symm
  · rw [Int.compare_eq_eq.mp order]
    show compare one other = _
    have positive := Nat.two_pow_pos (power' + 149).toNat
    rcases digits : compare one other with _ | _ | _
    · exact (Nat.compare_eq_lt.mpr
        (Nat.mul_lt_mul_of_pos_right (Nat.compare_eq_lt.mp digits) positive)).symm
    · rw [Nat.compare_eq_eq.mp digits]
      exact (Nat.compare_eq_eq.mpr rfl).symm
    · exact (Nat.compare_eq_gt.mpr
        (Nat.mul_lt_mul_of_pos_right (Nat.compare_eq_gt.mp digits) positive)).symm
  · exact (Nat.compare_eq_gt.mpr (normal'.lt_of_power normal (Int.compare_eq_gt.mp order))).symm

theorem compare_natCast (one other : Nat) :
    compare (one : Int) (other : Int) = compare one other := by
  rcases order : compare one other with _ | _ | _
  · exact Int.compare_eq_lt.mpr (by have := Nat.compare_eq_lt.mp order; omega)
  · exact Int.compare_eq_eq.mpr (by have := Nat.compare_eq_eq.mp order; omega)
  · exact Int.compare_eq_gt.mpr (by have := Nat.compare_eq_gt.mp order; omega)

theorem compare_neg (one other : Nat) :
    compare (-one : Int) (-other : Int) = (compare one other).swap := by
  rcases order : compare one other with _ | _ | _
  · exact Int.compare_eq_gt.mpr (by have := Nat.compare_eq_lt.mp order; omega)
  · exact Int.compare_eq_eq.mpr (by have := Nat.compare_eq_eq.mp order; omega)
  · exact Int.compare_eq_lt.mpr (by have := Nat.compare_eq_gt.mp order; omega)

theorem limit_pos : 0 < limit := Nat.mul_pos (Nat.two_pow_pos 24) (Nat.two_pow_pos 253)

/-- The value of a stored number that is finite and not zero, without its sign. -/
theorem Storable.magnitude {sign : Sign} {significand : Nat} {power : Int}
    {positive : 0 < significand} (storable : Storable (.finite sign significand power positive)) :
    0 < magnitude significand power ∧ magnitude significand power < limit :=
  ⟨magnitude_pos positive power, storable.1.lt_limit storable.2⟩

/-- Stored numbers compare as their values do. -/
theorem compare_units {x y : UnpackedFloat} (storable : Storable x) (storable' : Storable y) :
    x.compare y = (units x).bind fun a => (units y).map fun b => compare a b := by
  have top := limit_pos
  have less {a b : Int} (order : a < b) : some Ordering.lt = some (compare a b) :=
    congrArg some (Int.compare_eq_lt.mpr order).symm
  have more {a b : Int} (order : b < a) : some Ordering.gt = some (compare a b) :=
    congrArg some (Int.compare_eq_gt.mpr order).symm
  have same (a : Int) : some Ordering.eq = some (compare a a) :=
    congrArg some (Int.compare_eq_eq.mpr rfl).symm
  cases x with
  | notANumber => rfl
  | infinity sign =>
    cases y with
    | notANumber => rfl
    | infinity sign' =>
      cases sign <;> cases sign'
      · exact same _
      · exact less (by simp only [Sign.apply]; omega)
      · exact more (by simp only [Sign.apply]; omega)
      · exact same _
    | zero sign' =>
      cases sign
      · exact less (by simp only [Sign.apply]; omega)
      · exact more (by simp only [Sign.apply]; omega)
    | finite sign' significand' power' positive' =>
      have bounds' := storable'.magnitude
      cases sign
      · exact less (by cases sign' <;> simp only [Sign.apply] <;> omega)
      · exact more (by cases sign' <;> simp only [Sign.apply] <;> omega)
  | zero sign =>
    cases y with
    | notANumber => rfl
    | infinity sign' =>
      cases sign'
      · exact more (by simp only [Sign.apply]; omega)
      · exact less (by simp only [Sign.apply]; omega)
    | zero sign' => rfl
    | finite sign' significand' power' positive' =>
      have bounds' := storable'.magnitude
      cases sign'
      · exact more (by simp only [Sign.apply]; omega)
      · exact less (by simp only [Sign.apply]; omega)
  | finite sign significand power positive =>
    have bounds := storable.magnitude
    cases y with
    | notANumber => rfl
    | infinity sign' =>
      cases sign'
      · exact more (by cases sign <;> simp only [Sign.apply] <;> omega)
      · exact less (by cases sign <;> simp only [Sign.apply] <;> omega)
    | zero sign' =>
      cases sign
      · exact less (by simp only [Sign.apply]; omega)
      · exact more (by simp only [Sign.apply]; omega)
    | finite sign' significand' power' positive' =>
      have bounds' := storable'.magnitude
      have sizes := storable.1.compare_eq storable'.1
      cases sign <;> cases sign'
      · exact congrArg some ((congrArg Ordering.swap sizes).trans (compare_neg _ _).symm)
      · exact less (by simp only [Sign.apply]; omega)
      · exact more (by simp only [Sign.apply]; omega)
      · exact congrArg some (sizes.trans (compare_natCast _ _).symm)

end Sortie.Scalar
