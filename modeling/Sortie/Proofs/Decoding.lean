import Sortie.Proofs.Comparison

set_option autoImplicit false

namespace Sortie.Scalar

open Float.Model (UnpackedFloat Format)
open Float.Model.UnpackedFloat
open Sortie.Number (Value)

/-- Whether a sign is that of a negative number. -/
def isMinus : Sign → Bool
  | .negative => true
  | .positive => false

/-- What an unpacked number is decoded to. A zero has the lowest power. -/
def asValue : UnpackedFloat → Value
  | .notANumber => .nan
  | .infinity sign => .infinite (isMinus sign)
  | .zero sign => .finite (isMinus sign) 0 (-149)
  | .finite sign significand power _ => .finite (isMinus sign) significand power

section

variable (bits : BitVec Format.binary32.numBits)

theorem toNat_unpackMantissa : (unpackMantissa bits).toNat = bits.toNat % 2 ^ 23 := by
  unfold unpackMantissa
  rw [BitVec.toNat_cast, BitVec.extractLsb_toNat, Nat.shiftRight_zero]
  rfl

theorem toNat_unpackExponent : (unpackExponent bits).toNat = bits.toNat >>> 23 % 2 ^ 8 := by
  unfold unpackExponent
  rw [BitVec.toNat_cast, BitVec.extractLsb_toNat]
  rfl

theorem isMinus_unpackSign :
    isMinus (Sign.ofBitVec (unpackSign bits)) = bits.toNat.testBit 31 := by
  have sign : (unpackSign bits).toNat = bits.toNat / 2 ^ 31 % 2 := by
    unfold unpackSign
    rw [BitVec.toNat_cast, BitVec.extractLsb_toNat, Nat.shiftRight_eq_div_pow]
    rfl
  rw [Nat.testBit_eq_decide_div_mod_eq, ← sign]
  unfold Sign.ofBitVec
  split
  · rename_i zero
    rw [zero]
    rfl
  · rename_i one
    have bit : (unpackSign bits).toNat ≠ 0 := fun zero => one (BitVec.eq_of_toNat_eq zero)
    exact (decide_eq_true (by omega)).symm

/-- Decoding by the sign, the exponent and the fraction of a bit pattern. -/
theorem decode_single (pattern : Nat) :
    Number.Format.single.decode pattern =
      if pattern >>> 23 % 2 ^ 8 = 255 then
        if pattern % 2 ^ 23 = 0 then .infinite (pattern.testBit 31) else .nan
      else if pattern >>> 23 % 2 ^ 8 = 0 then
        .finite (pattern.testBit 31) (pattern % 2 ^ 23) (-149)
      else
        .finite (pattern.testBit 31) (2 ^ 23 + pattern % 2 ^ 23)
          (-149 + (pattern >>> 23 % 2 ^ 8 : Nat) - 1) := rfl

/-- A bit pattern is decoded as it is unpacked. -/
theorem asValue_unpack :
    asValue (unpack Format.binary32 bits) = Number.Format.single.decode bits.toNat := by
  have mantissa := toNat_unpackMantissa bits
  have exponent := toNat_unpackExponent bits
  have bias : (Format.binary32.exponentBias : Int) = 127 := by decide
  have all : unpackExponent bits = -1#8 ↔ bits.toNat >>> 23 % 2 ^ 8 = 255 := by
    rw [← exponent]
    exact ⟨congrArg BitVec.toNat, fun same => BitVec.eq_of_toNat_eq same⟩
  have none_ : unpackExponent bits = 0#8 ↔ bits.toNat >>> 23 % 2 ^ 8 = 0 := by
    rw [← exponent]
    exact ⟨congrArg BitVec.toNat, fun same => BitVec.eq_of_toNat_eq same⟩
  have blank : unpackMantissa bits = 0#23 ↔ bits.toNat % 2 ^ 23 = 0 := by
    rw [← mantissa]
    exact ⟨congrArg BitVec.toNat, fun same => BitVec.eq_of_toNat_eq same⟩
  rw [decode_single, ← isMinus_unpackSign]
  unfold unpack
  dsimp only
  by_cases top : unpackExponent bits = -1#8
  · rw [if_pos top, if_pos (all.mp top)]
    by_cases zero : unpackMantissa bits = 0#23
    · rw [if_pos zero, if_pos (blank.mp zero)]
      rfl
    · rw [if_neg zero, if_neg (mt blank.mpr zero)]
      rfl
  · rw [if_neg top, if_neg (mt all.mpr top)]
    by_cases low : unpackExponent bits = 0#8
    · rw [if_pos low, if_pos (none_.mp low)]
      by_cases zero : unpackMantissa bits = 0#23
      · rw [dif_pos zero, blank.mp zero]
        rfl
      · rw [dif_neg zero, ← mantissa]
        refine congrArg (Value.finite _ _) ?_
        rw [exponent, none_.mp low, bias]
        rfl
    · rw [if_neg low, if_neg (mt none_.mpr low)]
      show Value.finite _ _ _ = _
      rw [toNat_append, mantissa, exponent, bias]
      refine congrArg (Value.finite _ _) ?_
      show (_ : Int) - (127 + 23) = _
      omega

end

theorem decode_eq (x : Scalar) : x.decode = asValue x.unpacked :=
  (asValue_unpack x.toBits.toBitVec).symm

/-- The value of a number that is decoded to an exact one. -/
theorem value?_of_decode {x : Scalar} {negative : Bool} {significand : Nat} {power : Int}
    (decoded : x.decode = .finite negative significand power) :
    value? x = some (if negative then -(magnitude significand power : Int)
      else magnitude significand power) := by
  rw [decode_eq] at decoded
  unfold value?
  cases number : x.unpacked with
  | notANumber | infinity _ =>
    rw [number] at decoded
    cases decoded
  | zero sign =>
    rw [number] at decoded
    cases decoded
    cases sign <;> rfl
  | finite sign _ _ _ =>
    rw [number] at decoded
    cases decoded
    cases sign <;> rfl

/-- A finite number that is not negative is decoded to its value; that of a zero may have a sign. -/
theorem exists_decode {x : Scalar} (finite : x.isFinite = true) {a : Nat}
    (found : value? x = some (a : Int)) :
    ∃ negative significand power, x.decode = .finite negative significand power ∧
      significand < 2 ^ 24 ∧ -149 ≤ power ∧ magnitude significand power = a ∧
      (negative = true → significand = 0) := by
  rw [decode_eq]
  rcases unpacked_of_nonneg finite found with ⟨sign, number, rfl⟩ |
    ⟨significand, power, positive, number, normal, size⟩
  · rw [number]
    exact ⟨_, _, _, rfl, by decide, by decide, Nat.zero_mul _, fun _ => rfl⟩
  · rw [number]
    exact ⟨_, _, _, rfl, normal.short, normal.low, size, nofun⟩

theorem stored_unpack (bits : BitVec Format.binary32.numBits) :
    stored (unpack Format.binary32 bits) = unpack Format.binary32 bits := by
  have storable := unpack_storable bits
  cases number : unpack Format.binary32 bits with
  | notANumber => exact stored_notANumber
  | infinity sign => exact stored_infinity sign
  | zero sign => exact stored_zero sign
  | finite sign significand power positive =>
    rw [number] at storable
    exact stored_finite sign positive storable.1 storable.2

theorem decode_ofBits (bits : UInt32) :
    decode (Float32.ofBits bits) = Number.Format.single.decode bits.toNat := by
  have number : unpacked (Float32.ofBits bits) = stored (unpack Format.binary32 bits.toBitVec) :=
    rfl
  rw [decode_eq, number, stored_unpack, asValue_unpack]
  rfl

/-- A significand at its level: shifted until it has 24 bits or the lowest power is reached. -/
theorem exists_level {significand : Nat} {power : Int} (some_ : significand ≠ 0)
    (short : significand < 2 ^ 24) (low : -149 ≤ power) :
    ∃ level count : Nat, power + 149 = level + count ∧
      Max.max (-149) (power + significand.log2 - (23 : Nat)) = level - 149 ∧
      significand * 2 ^ count < 2 ^ 24 ∧ (level = 0 ∨ 2 ^ 23 ≤ significand * 2 ^ count) := by
  have bits : significand.log2 < 24 := (Nat.log2_lt some_).mpr short
  obtain ⟨level, aligned⟩ : ∃ level : Nat,
      Max.max (-149) (power + significand.log2 - 23) + 149 = level :=
    Int.eq_ofNat_of_zero_le (by omega)
  obtain ⟨count, counted⟩ : ∃ count : Nat, power + 149 - level = count :=
    Int.eq_ofNat_of_zero_le (by omega)
  refine ⟨level, count, by omega, by omega, ?_, ?_⟩
  · have room : significand.log2 + 1 + count ≤ 24 := by omega
    calc significand * 2 ^ count < 2 ^ (significand.log2 + 1) * 2 ^ count :=
          Nat.mul_lt_mul_of_pos_right Nat.lt_log2_self (Nat.two_pow_pos count)
      _ ≤ 2 ^ 24 := by
          rw [← Nat.pow_add]
          exact Nat.pow_le_pow_right (by decide) room
  · refine (Nat.eq_zero_or_pos level).imp_right fun some_level => ?_
    have filled : significand.log2 + count = 23 := by omega
    calc 2 ^ 23 = 2 ^ significand.log2 * 2 ^ count := by rw [← Nat.pow_add, filled]
      _ ≤ significand * 2 ^ count := Nat.mul_le_mul_right _ (Nat.log2_self_le some_)

/-- The pattern of a value of 24 significant bits: its level, and its digits at this level. -/
theorem exists_pattern {significand : Nat} {power : Int} (short : significand < 2 ^ 24)
    (low : -149 ≤ power) (small : magnitude significand power < limit) :
    ∃ level digits : Nat,
      Number.Format.single.nearest significand power = level * 2 ^ 23 + digits ∧
      digits < 2 ^ 24 ∧ (level = 0 ∨ 2 ^ 23 ≤ digits) ∧ level ≤ 253 ∧
      digits * 2 ^ level = magnitude significand power := by
  unfold Number.Format.nearest
  split
  · rename_i none_
    refine ⟨0, 0, by decide, by decide, .inl rfl, by decide, ?_⟩
    rw [none_, magnitude, Nat.zero_mul, Nat.zero_mul]
  · rename_i some_
    obtain ⟨level, count, exponents, aligned, digits, full⟩ := exists_level some_ short low
    have value : significand * 2 ^ count * 2 ^ level = magnitude significand power := by
      have exponent : (power + 149).toNat = count + level := by omega
      rw [magnitude, exponent, Nat.pow_add, Nat.mul_assoc]
    have bound : level ≤ 253 := by
      refine Nat.le_of_not_lt fun large => Nat.not_le_of_lt small ?_
      calc limit = 2 ^ 23 * 2 ^ 254 := rfl
        _ ≤ significand * 2 ^ count * 2 ^ level :=
            Nat.mul_le_mul (full.resolve_left (by omega)) (Nat.pow_le_pow_right (by decide) large)
        _ = magnitude significand power := value
    refine ⟨level, significand * 2 ^ count, ?_, digits, full, bound, value⟩
    have lowest : Number.Format.single.lowestPower = -149 := by decide
    have top : Number.Format.single.infinityBits = 255 * 2 ^ 23 := by decide
    have width : Number.Format.single.fractionBits = 23 := rfl
    have first : (level - 149 - -149 : Int).toNat = level := by omega
    have second : (power - (level - 149)).toNat = count := by omega
    dsimp only
    rw [lowest, top, width, aligned, if_pos (by omega), first, second, Nat.shiftLeft_eq,
      Nat.shiftLeft_eq]
    refine Nat.min_eq_left (Nat.le_of_lt ?_)
    calc level * 2 ^ 23 + significand * 2 ^ count < level * 2 ^ 23 + 2 ^ 24 :=
          Nat.add_lt_add_left digits _
      _ ≤ 255 * 2 ^ 23 := by omega

/-- The sign is the bit above the others. -/
theorem withSign_eq (negative : Bool) (pattern : Nat) :
    Number.Format.single.withSign negative pattern = negative.toNat * 2 ^ 31 + pattern := by
  cases negative
  · exact (Nat.zero_add pattern).symm
  · rfl

/-- A pattern is decoded to its digits at its level. -/
theorem decode_pattern {level digits : Nat} (short : digits < 2 ^ 24)
    (full : level = 0 ∨ 2 ^ 23 ≤ digits) (bound : level ≤ 253) (negative : Bool) :
    Number.Format.single.decode
      (Number.Format.single.withSign negative (level * 2 ^ 23 + digits)) =
        .finite negative digits (level - 149) := by
  have bit := negative.toNat_le
  have sign : (Number.Format.single.withSign negative (level * 2 ^ 23 + digits)).testBit 31 =
      negative := by
    have top : (negative.toNat * 2 ^ 31 + (level * 2 ^ 23 + digits)) / 2 ^ 31 % 2 =
        negative.toNat := by omega
    rw [Nat.testBit_eq_decide_div_mod_eq, withSign_eq, top]
    cases negative <;> rfl
  rw [decode_single, sign, withSign_eq, Nat.shiftRight_eq_div_pow]
  by_cases few : digits < 2 ^ 23
  · have zero : level = 0 := by omega
    have exponent : (negative.toNat * 2 ^ 31 + (level * 2 ^ 23 + digits)) / 2 ^ 23 % 2 ^ 8 = 0 := by
      omega
    have fraction : (negative.toNat * 2 ^ 31 + (level * 2 ^ 23 + digits)) % 2 ^ 23 = digits := by
      omega
    rw [exponent, fraction, zero]
    rfl
  · have exponent : (negative.toNat * 2 ^ 31 + (level * 2 ^ 23 + digits)) / 2 ^ 23 % 2 ^ 8 =
        level + 1 := by omega
    have fraction : 2 ^ 23 + (negative.toNat * 2 ^ 31 + (level * 2 ^ 23 + digits)) % 2 ^ 23 =
        digits := by omega
    rw [exponent, fraction, if_neg (by omega), if_neg (by omega)]
    refine congrArg (Value.finite _ _) ?_
    omega

/-- A value of 24 significant bits is encoded as it is. -/
theorem value?_ofValue {significand : Nat} {power : Int} (short : significand < 2 ^ 24)
    (low : -149 ≤ power) (small : magnitude significand power < limit) {negative : Bool}
    (unsigned : negative = true → significand = 0) :
    value? (ofValue (.finite negative significand power)) =
      some (magnitude significand power : Int) := by
  obtain ⟨level, digits, pattern, few, full, bound, value⟩ := exists_pattern short low small
  have bit := negative.toNat_le
  have fits : negative.toNat * 2 ^ 31 + (level * 2 ^ 23 + digits) < 2 ^ 32 := by omega
  rw [← withSign_eq] at fits
  have word : (Number.Format.single.withSign negative (level * 2 ^ 23 + digits)).toUInt32.toNat =
      Number.Format.single.withSign negative (level * 2 ^ 23 + digits) := Nat.mod_eq_of_lt fits
  have decoded : decode (ofValue (.finite negative significand power)) =
      .finite negative digits (level - 149) := by
    rw [ofValue, decode_ofBits, Number.Format.encode, pattern, word]
    exact decode_pattern few full bound negative
  have same : magnitude digits (level - 149) = magnitude significand power := by
    have exponent : (level - 149 + 149 : Int).toNat = level := by omega
    rw [← value, magnitude, exponent]
  rw [value?_of_decode decoded, same]
  cases negative with
  | false => rfl
  | true =>
    rw [unsigned rfl, magnitude, Nat.zero_mul]
    rfl

/-- The whole part is exact. -/
theorem value?_floor {x : Scalar} (finite : x.isFinite = true) {a : Nat}
    (found : value? x = some (a : Int)) : value? x.floor = some ((a / unit * unit : Nat) : Int) := by
  obtain ⟨negative, significand, power, decoded, short, low, size, unsigned⟩ :=
    exists_decode finite found
  obtain ⟨_, same, _, small⟩ := exists_value finite
  rw [found] at same
  cases same
  unfold floor
  rw [decoded]
  dsimp only
  split
  · rename_i whole
    have divides : unit ∣ a := by
      rw [← size, magnitude]
      exact Nat.dvd_mul_left_of_dvd (Nat.pow_dvd_pow 2 (by omega)) significand
    rw [found, Nat.div_mul_cancel divides]
  · rename_i fraction
    generalize shifted : (-power).toNat = shift
    have below : magnitude (significand >>> shift) 0 = a / unit * unit := by
      have exponents : 2 ^ (power + 149).toNat * 2 ^ shift = unit := by
        rw [unit, ← Nat.pow_add]
        congr 1
        omega
      rw [Nat.shiftRight_eq_div_pow, ← size, magnitude, magnitude, ← exponents,
        Nat.mul_comm significand, Nat.mul_div_mul_left _ _ (Nat.two_pow_pos _), exponents]
      rfl
    have whole : ¬ (negative = true ∧ significand >>> shift <<< shift ≠ significand) := by
      rintro ⟨minus, rest⟩
      rw [unsigned minus, Nat.zero_shiftRight, Nat.zero_shiftLeft] at rest
      exact rest rfl
    have less : significand >>> shift ≤ significand := Nat.shiftRight_le significand shift
    rw [if_neg whole, ← below]
    refine value?_ofValue (Nat.lt_of_le_of_lt less short) (by decide) ?_ fun minus => ?_
    · rw [below]
      exact Nat.lt_of_le_of_lt (Nat.div_mul_le_self a unit) (Int.ofNat_lt.mp small)
    · rw [unsigned minus, Nat.zero_shiftRight]

/-- The remainder of two significands that were brought to the lower of their powers is as short as
the one that was there. -/
theorem mod_lowered_lt {left right : Nat} (short : left < 2 ^ 24) (short' : right < 2 ^ 24)
    (divisor : right ≠ 0) (power scale : Int) :
    left * 2 ^ (power - Min.min power scale).toNat %
      (right * 2 ^ (scale - Min.min power scale).toNat) < 2 ^ 24 := by
  rcases Int.le_total power scale with below | above
  · have none_ : (power - Min.min power scale).toNat = 0 := by omega
    rw [none_, Nat.pow_zero, Nat.mul_one]
    exact Nat.lt_of_le_of_lt (Nat.mod_le _ _) short
  · have none_ : (scale - Min.min power scale).toNat = 0 := by omega
    rw [none_, Nat.pow_zero, Nat.mul_one]
    exact Nat.lt_trans (Nat.mod_lt _ (Nat.pos_of_ne_zero divisor)) short'

theorem not_lt_zero_of_value {x : Scalar} {a : Nat} (found : value? x = some (a : Int)) :
    ¬ x < 0 := by
  intro negative
  obtain ⟨value, zero, same, none_, less⟩ := lt_iff.mp negative
  rw [found] at same
  rw [value?_zero] at none_
  cases same
  cases none_
  omega

/-- The remainder is exact. -/
theorem value?_wrap {x y : Scalar} (finite : x.isFinite = true) {a : Nat}
    (found : value? x = some (a : Int)) (finite' : y.isFinite = true) {c : Nat}
    (found' : value? y = some (c : Int)) (some_ : 0 < c) :
    value? (x.wrap y) = some ((a % c : Nat) : Int) := by
  obtain ⟨negative, left, power, decoded, short, low, size, unsigned⟩ :=
    exists_decode finite found
  obtain ⟨_, right, scale, decoded', short', low', size', _⟩ := exists_decode finite' found'
  obtain ⟨_, same, _, small⟩ := exists_value finite
  rw [found] at same
  cases same
  have divisor : right ≠ 0 := by
    rintro rfl
    rw [magnitude, Nat.zero_mul] at size'
    omega
  have few := mod_lowered_lt short short' divisor power scale
  unfold wrap
  rw [decoded, decoded']
  dsimp only
  rw [if_neg divisor, Nat.shiftLeft_eq, Nat.shiftLeft_eq]
  have lowest : -149 ≤ Min.min power scale := Int.le_min.mpr ⟨low, low'⟩
  have first := magnitude_lowered left lowest (Int.min_le_left power scale)
  have second := magnitude_lowered right lowest (Int.min_le_right power scale)
  rw [size] at first
  rw [size'] at second
  generalize dividend : left * 2 ^ (power - Min.min power scale).toNat = one at *
  generalize right * 2 ^ (scale - Min.min power scale).toNat = other at *
  have rest : magnitude (one % other) (Min.min power scale) = a % c := by
    rw [← first, ← second, magnitude, magnitude, magnitude, Nat.mul_mod_mul_right]
  have fits : magnitude (one % other) (Min.min power scale) < limit := by
    rw [rest]
    exact Nat.lt_of_le_of_lt (Nat.mod_le a c) (Int.ofNat_lt.mp small)
  have blank : negative = true → one % other = 0 := fun minus => by
    rw [← dividend, unsigned minus, Nat.zero_mul, Nat.zero_mod]
  have remainder := value?_ofValue few lowest fits blank
  rw [rest] at remainder
  rw [if_neg (not_lt_zero_of_value remainder), remainder]

end Sortie.Scalar
