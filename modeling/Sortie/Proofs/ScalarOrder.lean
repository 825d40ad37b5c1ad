import Sortie.Proofs.Arithmetic

set_option autoImplicit false

namespace Sortie.Scalar

open Float.Model (UnpackedFloat Format)
open Float.Model.UnpackedFloat (Sign)

/-- The value in units of the least positive number; none of what is no number. -/
def value? (x : Scalar) : Option Int := units x.unpacked

/-- A value as it is stored: cut to those of the infinities. -/
def bounded (value : Int) : Int := Max.max (-limit) (Min.min limit value)

theorem bounded_mono {one other : Int} (order : one ≤ other) : bounded one ≤ bounded other := by
  unfold bounded
  omega

theorem bounded_nonneg {value : Int} (positive : 0 ≤ value) : 0 ≤ bounded value := by
  unfold bounded
  omega

theorem bounded_of_le {value : Int} (low : -limit ≤ value) (high : value ≤ limit) :
    bounded value = value := by
  unfold bounded
  omega

theorem units_stored {x : UnpackedFloat} (canonical : Canonical x) :
    units (stored x) = (units x).map bounded := by
  have top := limit_pos
  cases x with
  | notANumber => rw [stored_notANumber]; rfl
  | infinity sign =>
    rw [stored_infinity]
    refine congrArg some (bounded_of_le ?_ ?_).symm <;> cases sign <;>
      simp only [Sign.apply] <;> omega
  | zero sign =>
    rw [stored_zero]
    exact congrArg some (bounded_of_le (by omega) (by omega)).symm
  | finite sign significand power positive =>
    by_cases small : power ≤ 104
    · have size := canonical.lt_limit small
      rw [stored_finite sign positive canonical small]
      refine congrArg some (bounded_of_le ?_ ?_).symm <;> cases sign <;>
        simp only [Sign.apply] <;> omega
    · have size := canonical.limit_le (by omega)
      rw [stored_large sign positive (by omega)]
      refine congrArg some ?_
      cases sign <;> simp only [Sign.apply, bounded] <;> omega

theorem le_iff {x y : Scalar} :
    x ≤ y ↔ ∃ a b, value? x = some a ∧ value? y = some b ∧ a ≤ b := by
  have compared := compare_units (unpacked_storable x) (unpacked_storable y)
  have meaning : x ≤ y ↔ x.unpacked.le y.unpacked = true := decide_eq_true_iff
  rw [meaning, UnpackedFloat.le, compared]
  unfold value?
  cases units x.unpacked with
  | none => simp
  | some a =>
    cases units y.unpacked with
    | none => simp
    | some b => simp [Std.isLE_compare]

theorem lt_iff {x y : Scalar} :
    x < y ↔ ∃ a b, value? x = some a ∧ value? y = some b ∧ a < b := by
  have compared := compare_units (unpacked_storable x) (unpacked_storable y)
  have meaning : x < y ↔ x.unpacked.lt y.unpacked = true := decide_eq_true_iff
  rw [meaning, UnpackedFloat.lt, compared]
  unfold value?
  cases units x.unpacked with
  | none => simp
  | some a =>
    cases units y.unpacked with
    | none => simp
    | some b => simp [Int.compare_eq_lt]

theorem value?_zero : value? 0 = some 0 := rfl

theorem value?_one : value? 1 = some unit := by
  decide

/-- The units of a hundred. -/
def hundred : Nat := 13107200 * 2 ^ 132

theorem value?_hundred : value? 100 = some hundred := by
  decide

theorem not_lt_of_le {x y : Scalar} (order : x ≤ y) : ¬ y < x := by
  intro less
  obtain ⟨a, b, found, found', sizes⟩ := le_iff.mp order
  obtain ⟨b', a', same', same, strict⟩ := lt_iff.mp less
  rw [found] at same
  rw [found'] at same'
  cases same
  cases same'
  omega

theorem not_le_of_lt {x y : Scalar} (less : x < y) : ¬ y ≤ x := fun order =>
  not_lt_of_le order less

theorem le_of_not_lt {x y : Scalar} {a b : Int} (found : value? x = some a)
    (found' : value? y = some b) (order : ¬ x < y) : b ≤ a := by
  refine Int.not_lt.mp fun less => order (lt_iff.mpr ⟨a, b, found, found', less⟩)

theorem isNaN_iff {x : Scalar} : x.isNaN = true ↔ value? x = none := by
  show x.unpacked.isNaN = true ↔ units x.unpacked = none
  cases x.unpacked <;> simp [UnpackedFloat.isNaN, units]

/-- The value of a finite number. -/
theorem exists_value {x : Scalar} (finite : x.isFinite = true) :
    ∃ a, value? x = some a ∧ -limit < a ∧ a < limit := by
  have storable := unpacked_storable x
  have top := limit_pos
  rw [isFinite_iff] at finite
  unfold value?
  cases number : x.unpacked with
  | notANumber | infinity _ =>
    rw [number] at finite
    cases finite
  | zero sign => exact ⟨0, rfl, by omega, by omega⟩
  | finite sign significand power positive =>
    rw [number] at storable
    have size := storable.magnitude
    refine ⟨_, rfl, ?_⟩
    cases sign <;> simp only [Sign.apply] <;> omega

theorem unpacked_of_none {x : Scalar} (none_ : value? x = none) : x.unpacked = .notANumber := by
  unfold value? at none_
  cases number : x.unpacked with
  | notANumber => rfl
  | infinity _ | zero _ | finite _ _ _ _ =>
    rw [number] at none_
    cases none_

theorem le_refl_of_value {x : Scalar} {a : Int} (found : value? x = some a) : x ≤ x :=
  le_iff.mpr ⟨a, a, found, found, Int.le_refl a⟩

theorem le_of_lt {x y : Scalar} (less : x < y) : x ≤ y := by
  obtain ⟨a, b, found, found', order⟩ := lt_iff.mp less
  exact le_iff.mpr ⟨a, b, found, found', Int.le_of_lt order⟩

theorem min_le {x : Scalar} (y : Scalar) {a : Int} (found : value? x = some a) : x.min y ≤ x := by
  have number : ¬ x.isNaN = true := by
    rw [isNaN_iff, found]
    exact nofun
  unfold Scalar.min
  rw [if_neg number]
  split
  · rename_i less
    exact le_of_lt less
  · exact le_refl_of_value found

/-- The numbers that are not finite. -/
theorem unpacked_of_not_isFinite {x : Scalar} (endless : x.isFinite = false) :
    x.unpacked = .notANumber ∨ ∃ sign, x.unpacked = .infinity sign := by
  rw [isFinite_iff] at endless
  cases number : x.unpacked with
  | notANumber => exact .inl rfl
  | infinity sign => exact .inr ⟨sign, rfl⟩
  | zero _ | finite _ _ _ _ =>
    rw [number] at endless
    cases endless

/-- What lies between the infinities is finite. -/
theorem isFinite_of_value {x : Scalar} {a : Int} (found : value? x = some a) (low : -limit < a)
    (high : a < limit) : x.isFinite = true := by
  cases ends : x.isFinite with
  | true => rfl
  | false =>
    unfold value? at found
    rcases unpacked_of_not_isFinite ends with number | ⟨sign, number⟩
    · rw [number] at found
      cases found
    · rw [number] at found
      cases found
      cases sign <;> simp only [Sign.apply] at low high <;> omega

theorem unpacked_add (x y : Scalar) :
    unpacked (x + y) = stored (UnpackedFloat.add Format.binary32 x.unpacked y.unpacked) := rfl

/-- A number comes back with the opposite sign. -/
theorem unpacked_neg (x : Scalar) : unpacked (-x) = x.unpacked.neg := by
  show stored x.unpacked.neg = _
  have storable := unpacked_storable x
  cases number : x.unpacked with
  | notANumber => exact stored_notANumber
  | infinity sign => exact stored_infinity (-sign)
  | zero sign => exact stored_zero (-sign)
  | finite sign significand power positive =>
    rw [number] at storable
    exact stored_finite (-sign) positive storable.1 storable.2

/-- A finite number and its opposite cancel. -/
theorem add_neg_self {x : Scalar} (finite : x.isFinite = true) : x + -x = 0 := by
  rw [isFinite_iff] at finite
  have cancelled : UnpackedFloat.add Format.binary32 x.unpacked (unpacked (-x)) =
      .zero .positive := by
    rw [unpacked_neg]
    cases number : x.unpacked with
    | notANumber | infinity _ =>
      rw [number] at finite
      cases finite
    | zero sign => cases sign <;> rfl
    | finite sign significand power positive =>
      have opposite (value : Nat) : sign.apply value + (-sign).apply value = 0 := by
        cases sign with
        | positive => exact Int.add_right_neg _
        | negative => exact Int.add_left_neg _
      show UnpackedFloat.normalize Format.binary32 (sign.apply _ + (-sign).apply _) _ .positive = _
      rw [opposite]
      rfl
  show Float32.ofModel (.pack (UnpackedFloat.add Format.binary32 x.unpacked (unpacked (-x)))) = 0
  rw [cancelled]
  rfl

theorem value?_add {x y : Scalar} (finite : x.isFinite = true) (finite' : y.isFinite = true)
    {a b : Int} (found : value? x = some a) (found' : value? y = some b) :
    value? (x + y) = some (bounded (roundedSum (a + b))) := by
  obtain ⟨canonical, sum⟩ := add_units (unpacked_storable x).canonical
    (unpacked_storable y).canonical finite finite' found found'
  rw [value?, unpacked_add, units_stored canonical, sum]
  rfl

theorem value?_sub {x y : Scalar} (finite : x.isFinite = true) (finite' : y.isFinite = true)
    {a b : Int} (found : value? x = some a) (found' : value? y = some b) :
    value? (x - y) = some (bounded (roundedSum (a - b))) := by
  obtain ⟨canonical, difference⟩ := sub_units (unpacked_storable x).canonical
    (unpacked_storable y).canonical finite finite' found found'
  rw [value?, unpacked_sub, units_stored canonical, difference]
  rfl

/-- The values of finite numbers are stored as they are. -/
theorem bounded_roundedSum {x : Scalar} (finite : x.isFinite = true) {a : Int}
    (found : value? x = some a) : bounded (roundedSum a) = a := by
  obtain ⟨_, same, low, high⟩ := exists_value finite
  rw [found] at same
  cases same
  rw [roundedSum_units (unpacked_storable x).canonical finite found]
  exact bounded_of_le (by omega) (by omega)

/-- A clock never goes back. -/
theorem le_add {bound x dt : Scalar} (reached : bound ≤ x) (finite : dt.isFinite = true)
    (forward : ¬ dt < 0) : bound ≤ x + dt := by
  obtain ⟨a, b, found, found', order⟩ := le_iff.mp reached
  obtain ⟨d, length, _, _⟩ := exists_value finite
  have later := le_of_not_lt length value?_zero forward
  cases ends : x.isFinite with
  | true =>
    refine le_iff.mpr ⟨a, _, found, value?_add ends finite found' length, ?_⟩
    have kept := bounded_roundedSum ends found'
    have grown := bounded_mono (roundedSum_mono (Int.le_add_of_nonneg_right (a := b) later))
    omega
  | false =>
    have same : value? (x + dt) = value? x := by
      rw [value?, value?, unpacked_add]
      rw [isFinite_iff] at finite
      rcases unpacked_of_not_isFinite ends with number | ⟨sign, number⟩
      · rw [number, UnpackedFloat.add, stored_notANumber]
      · rw [number]
        cases step : dt.unpacked with
        | notANumber | infinity _ =>
          rw [step] at finite
          cases finite
        | zero _ | finite _ _ _ _ =>
          show units (stored (.infinity sign)) = _
          rw [stored_infinity]
    exact le_iff.mpr ⟨a, b, found, same.trans found', order⟩

/-- A difference with an infinity, the greater number first: infinite upward, or no number. -/
theorem sub_infinite {x y : UnpackedFloat} (storable : Storable x) (storable' : Storable y)
    {a b : Int} (above : units x = some a) (below : units y = some b) (order : b ≤ a)
    (endless : x.isFinite = false ∨ y.isFinite = false) :
    UnpackedFloat.sub Format.binary32 x y = .infinity .positive ∨
      UnpackedFloat.sub Format.binary32 x y = .notANumber := by
  have top := limit_pos
  cases x with
  | notANumber => cases above
  | infinity sign =>
    cases above
    cases y with
    | notANumber => cases below
    | infinity sign' =>
      cases below
      cases sign <;> cases sign'
      · exact .inr rfl
      · simp only [Sign.apply] at order; omega
      · exact .inl rfl
      · exact .inr rfl
    | zero sign' =>
      cases below
      cases sign
      · simp only [Sign.apply] at order; omega
      · exact .inl rfl
    | finite sign' significand' power' positive' =>
      have bounds := storable'.magnitude
      cases below
      cases sign
      · cases sign' <;> simp only [Sign.apply] at order <;> omega
      · exact .inl rfl
  | zero sign =>
    cases above
    cases y with
    | notANumber => cases below
    | infinity sign' =>
      cases below
      cases sign'
      · exact .inl rfl
      · simp only [Sign.apply] at order; omega
    | zero sign' | finite sign' significand' power' positive' =>
      rcases endless with not_ | not_ <;> cases not_
  | finite sign significand power positive =>
    have bounds := storable.magnitude
    cases above
    cases y with
    | notANumber => cases below
    | infinity sign' =>
      cases below
      cases sign'
      · exact .inl rfl
      · cases sign <;> simp only [Sign.apply] at order <;> omega
    | zero sign' | finite sign' significand' power' positive' =>
      rcases endless with not_ | not_ <;> cases not_

/-- What is left of a number after one that is not greater is not negative. -/
theorem sub_nonneg {x y : Scalar} (order : y ≤ x) {c : Int} (found : value? (x - y) = some c) :
    0 ≤ c := by
  obtain ⟨b, a, below, above, sizes⟩ := le_iff.mp order
  by_cases both : x.isFinite = true ∧ y.isFinite = true
  · rw [value?_sub both.1 both.2 above below] at found
    cases found
    exact bounded_nonneg (roundedSum_mono (Int.sub_nonneg.mpr sizes))
  · have endless : x.unpacked.isFinite = false ∨ y.unpacked.isFinite = false := by
      rw [isFinite_iff, isFinite_iff] at both
      cases first : x.unpacked.isFinite with
      | false => exact .inl rfl
      | true => exact .inr (Bool.eq_false_iff.mpr fun second => both ⟨first, second⟩)
    rw [value?, unpacked_sub] at found
    rcases sub_infinite (unpacked_storable x) (unpacked_storable y) above below sizes endless with
      large | none_
    · rw [large, stored_infinity] at found
      cases found
      have top := limit_pos
      simp only [Sign.apply]
      omega
    · rw [none_, stored_notANumber] at found
      cases found

/-- What is taken away from a number that is not smaller leaves something between zero and it. -/
theorem sub_between {x d : Scalar} (finite : x.isFinite = true) {a b : Int}
    (found : value? x = some a) (found' : value? d = some b) (low : 0 ≤ b) (high : b ≤ a) :
    ∃ c, value? (x - d) = some c ∧ 0 ≤ c ∧ c ≤ a := by
  have finite' : d.isFinite = true := by
    obtain ⟨_, same, _, small⟩ := exists_value finite
    rw [found] at same
    cases same
    exact isFinite_of_value found' (by omega) (by omega)
  have kept := bounded_roundedSum finite found
  refine ⟨_, value?_sub finite finite' found found', ?_, ?_⟩
  · exact bounded_nonneg (roundedSum_mono (Int.sub_nonneg.mpr high))
  · have shrunk := bounded_mono (roundedSum_mono (Int.sub_le_self a low))
    omega

/-- A number that is not finite stays as it is, or is no number, whatever is taken away. -/
theorem unpacked_sub_of_not_isFinite {x : Scalar} (d : Scalar) (endless : x.isFinite = false) :
    (x - d).unpacked = x.unpacked ∨ (x - d).unpacked = .notANumber := by
  rw [unpacked_sub]
  rcases unpacked_of_not_isFinite endless with number | ⟨sign, number⟩
  · rw [number]
    exact .inr stored_notANumber
  · rw [number]
    cases d.unpacked with
    | notANumber => exact .inr stored_notANumber
    | infinity sign' =>
      cases sign <;> cases sign'
      · exact .inr stored_notANumber
      · exact .inl (stored_infinity _)
      · exact .inl (stored_infinity _)
      · exact .inr stored_notANumber
    | zero _ | finite _ _ _ _ => exact .inl (stored_infinity sign)

/-- There is no difference of what is no number. -/
theorem exists_value_of_sub {x y : Scalar} {c : Int} (found : value? (x - y) = some c) :
    ∃ a, value? x = some a := by
  cases none_ : value? x with
  | some a => exact ⟨a, rfl⟩
  | none =>
    rw [value?, unpacked_sub, unpacked_of_none none_, UnpackedFloat.sub, stored_notANumber] at found
    cases found

/-- A number reaches no bound that another one does not reach. -/
def Within (x y : Scalar) : Prop := ∀ a, value? x = some a → ∃ b, value? y = some b ∧ a ≤ b

theorem Within.of_none {x y : Scalar} (none_ : value? x = none) : Within x y := by
  intro a found
  rw [none_] at found
  cases found

theorem Within.of_le {x y : Scalar} {a b : Int} (found : value? x = some a)
    (found' : value? y = some b) (order : a ≤ b) : Within x y := by
  intro a' same
  rw [found] at same
  cases same
  exact ⟨b, found', order⟩

theorem Within.le {x y bound : Scalar} (within : Within x y) (reached : bound ≤ x) : bound ≤ y := by
  obtain ⟨c, a, found, found', order⟩ := le_iff.mp reached
  obtain ⟨b, above, sizes⟩ := within a found'
  exact le_iff.mpr ⟨c, b, found, above, Int.le_trans order sizes⟩

theorem unpacked_div (x y : Scalar) :
    unpacked (x / y) = stored (UnpackedFloat.div Format.binary32 x.unpacked y.unpacked) := rfl

theorem unpacked_mul (x y : Scalar) :
    unpacked (x * y) = stored (UnpackedFloat.mul Format.binary32 x.unpacked y.unpacked) := rfl

theorem rounded_zero (den : Nat) : rounded 0 den = 0 := by
  rw [rounded, nearest_of_dvd (Nat.dvd_zero _), Nat.zero_div, Nat.zero_mul]

/-- The parts of a finite number that is not negative. -/
theorem unpacked_of_nonneg {x : Scalar} (finite : x.isFinite = true) {a : Nat}
    (found : value? x = some (a : Int)) :
    (∃ sign, x.unpacked = .zero sign ∧ a = 0) ∨
      ∃ significand power positive, x.unpacked = .finite .positive significand power positive ∧
        Normal significand power ∧ magnitude significand power = a := by
  have storable := unpacked_storable x
  rw [isFinite_iff] at finite
  unfold value? at found
  cases number : x.unpacked with
  | notANumber | infinity _ =>
    rw [number] at finite
    cases finite
  | zero sign =>
    rw [number] at found
    have size := Option.some.inj found
    exact .inl ⟨sign, rfl, by omega⟩
  | finite sign significand power positive =>
    rw [number] at found storable
    have bounds := storable.magnitude
    have size := Option.some.inj found
    cases sign
    · simp only [Sign.apply] at size
      omega
    · simp only [Sign.apply] at size
      exact .inr ⟨significand, power, positive, rfl, storable.1, by omega⟩

section

variable {x y : Scalar} (finite : x.isFinite = true) {a c : Nat}
  (found : value? x = some (a : Int)) (finite' : y.isFinite = true)
  (found' : value? y = some (c : Int)) (some_ : 0 < c)

include finite found finite' found' some_

/-- The quotient of a finite number that is not negative by one that is positive. -/
theorem value?_div : value? (x / y) = some (bounded (rounded (a * unit) c)) := by
  rw [value?, unpacked_div]
  rcases unpacked_of_nonneg finite' found' with ⟨_, _, none_⟩ |
    ⟨n, power', positive', number', normal', rfl⟩
  · omega
  · rw [number']
    rcases unpacked_of_nonneg finite found with ⟨sign, number, rfl⟩ |
      ⟨m, power, positive, number, normal, rfl⟩
    · rw [number, UnpackedFloat.div, stored_zero, Nat.zero_mul, rounded_zero]
      rfl
    · rw [number]
      obtain ⟨canonical, value⟩ := div_units .positive .positive positive positive' normal normal'
      rw [units_stored canonical, value]
      rfl

/-- The product of a finite number that is not negative and one that is positive. -/
theorem value?_mul : value? (x * y) = some (bounded (rounded (a * c) unit)) := by
  rw [value?, unpacked_mul]
  rcases unpacked_of_nonneg finite' found' with ⟨_, _, none_⟩ |
    ⟨n, power', positive', number', normal', rfl⟩
  · omega
  · rw [number']
    rcases unpacked_of_nonneg finite found with ⟨sign, number, rfl⟩ |
      ⟨m, power, positive, number, normal, rfl⟩
    · rw [number, UnpackedFloat.mul, stored_zero, Nat.zero_mul, rounded_zero]
      rfl
    · rw [number]
      obtain ⟨canonical, value⟩ := mul_units .positive .positive positive positive' normal normal'
      rw [units_stored canonical, value]
      rfl

end

/-- Of what is finite, an infinite number goes into nothing. -/
theorem value?_div_infinity {x whole : Scalar} (finite : x.isFinite = true) {sign : Sign}
    (endless : whole.unpacked = .infinity sign) : value? (x / whole) = some 0 := by
  rw [isFinite_iff] at finite
  rw [value?, unpacked_div, endless]
  cases number : x.unpacked with
  | notANumber | infinity _ =>
    rw [number] at finite
    cases finite
  | zero _ | finite _ _ _ _ =>
    rw [UnpackedFloat.div, stored_zero]
    rfl

theorem value?_pos {x : Scalar} (positive : ¬ x ≤ 0) {a : Int} (found : value? x = some a) :
    0 < a :=
  Int.not_le.mp fun low => positive (le_iff.mpr ⟨a, 0, found, value?_zero, low⟩)

/-- Of two parts of a positive whole, the greater one is the greater share. -/
theorem within_div {x y : Scalar} (finite : x.isFinite = true) (finite' : y.isFinite = true)
    {a b : Nat} (found : value? x = some (a : Int)) (found' : value? y = some (b : Int))
    (order : a ≤ b) {whole : Scalar} (positive : ¬ whole ≤ 0) :
    Within (x / whole) (y / whole) := by
  cases ends : whole.isFinite with
  | true =>
    obtain ⟨c, size, _, _⟩ := exists_value ends
    have some_ := value?_pos positive size
    obtain ⟨c, rfl⟩ := Int.eq_ofNat_of_zero_le (Int.le_of_lt some_)
    have least : 0 < c := by omega
    refine .of_le (value?_div finite found ends size least)
      (value?_div finite' found' ends size least) (bounded_mono (Int.ofNat_le.mpr ?_))
    exact rounded_mono least least (Nat.mul_le_mul_right _ (Nat.mul_le_mul_right _ order))
  | false =>
    rcases unpacked_of_not_isFinite ends with number | ⟨sign, number⟩
    · refine .of_none ?_
      rw [value?, unpacked_div, number]
      cases x.unpacked <;> rw [UnpackedFloat.div, stored_notANumber] <;> first | rfl | exact nofun
    · exact .of_le (value?_div_infinity finite number) (value?_div_infinity finite' number)
        (Int.le_refl 0)

/-- The share that is cut to those between nothing and all. -/
theorem value?_clampUnit (x : Scalar) :
    value? x.clampUnit = (value? x).map fun a : Int => Max.max 0 (Min.min a unit) := by
  have one : (0 : Int) < unit := by decide
  unfold clampUnit
  split
  · rename_i negative
    obtain ⟨a, b, found, zero, less⟩ := lt_iff.mp negative
    rw [value?_zero] at zero ⊢
    cases zero
    rw [found, Option.map_some]
    exact congrArg some (by omega)
  · rename_i positive
    split
    · rename_i large
      obtain ⟨b, a, unit_, found, more⟩ := lt_iff.mp large
      rw [value?_one] at unit_ ⊢
      cases unit_
      rw [found, Option.map_some]
      exact congrArg some (by omega)
    · rename_i small
      cases found : value? x with
      | none => rfl
      | some a =>
        have low := le_of_not_lt found value?_zero positive
        have high := le_of_not_lt value?_one found small
        rw [Option.map_some]
        exact congrArg some (by omega)

/-- The percentage that a share is. -/
theorem value?_percentage (x : Scalar) :
    value? (x.clampUnit * 100) = (value? x).map fun a : Int =>
      bounded (rounded ((Max.max 0 (Min.min a unit)).toNat * hundred) unit) := by
  have clamped := value?_clampUnit x
  cases found : value? x with
  | none =>
    rw [found, Option.map_none] at clamped
    rw [Option.map_none, value?, unpacked_mul, unpacked_of_none clamped, UnpackedFloat.mul,
      stored_notANumber]
    rfl
  | some a =>
    have one : (unit : Int) < limit := by decide
    rw [found, Option.map_some, ← Int.toNat_of_nonneg (Int.le_max_left 0 _)] at clamped
    have finite := isFinite_of_value clamped (by omega) (by omega)
    exact value?_mul finite clamped (by decide) value?_hundred (by decide)

/-- No smaller share is a larger percentage. -/
theorem Within.percentage {x y : Scalar} (within : Within x y) :
    Within (x.clampUnit * 100) (y.clampUnit * 100) := by
  intro p percent
  rw [value?_percentage] at percent ⊢
  obtain ⟨a, found, rfl⟩ := Option.map_eq_some_iff.mp percent
  obtain ⟨b, found', order⟩ := within a found
  rw [found', Option.map_some]
  refine ⟨_, rfl, bounded_mono (Int.ofNat_le.mpr (rounded_mono (by decide) (by decide) ?_))⟩
  exact Nat.mul_le_mul_right _ (Nat.mul_le_mul_right _ (by omega))

theorem percentage_nonneg {x : Scalar} {p : Int} (percent : value? (x.clampUnit * 100) = some p) :
    0 ≤ p := by
  rw [value?_percentage] at percent
  obtain ⟨a, _, rfl⟩ := Option.map_eq_some_iff.mp percent
  exact bounded_nonneg (Int.natCast_nonneg _)

/-- What a shield leaves of some damage is not negative. -/
theorem rest_nonneg {amount part : Scalar} (harm : ¬ amount ≤ 0)
    (taken : (∃ shield, part = amount.min shield) ∨ part = 0) {rest : Int}
    (left : value? (amount - part) = some rest) : 0 ≤ rest := by
  obtain ⟨a, found⟩ := exists_value_of_sub left
  refine sub_nonneg ?_ left
  rcases taken with ⟨shield, rfl⟩ | rfl
  · exact min_le shield found
  · exact le_iff.mpr ⟨0, a, value?_zero, found, Int.le_of_lt (value?_pos harm found)⟩

/-- If something is left after as much was taken away as there is, it is no larger a share. -/
theorem within_damaged {hull rest whole : Scalar} (positive : ¬ whole ≤ 0)
    (nonneg : ∀ value, value? rest = some value → 0 ≤ value) (left : ¬ hull - rest.min hull ≤ 0) :
    Within ((hull - rest.min hull) / whole) (hull / whole) := by
  cases ends : hull.isFinite with
  | false =>
    rcases unpacked_sub_of_not_isFinite (rest.min hull) ends with kept | none_
    · intro a found
      rw [value?, unpacked_div, kept, ← unpacked_div] at found
      exact ⟨a, found, Int.le_refl a⟩
    · refine .of_none ?_
      rw [value?, unpacked_div, none_, UnpackedFloat.div, stored_notANumber]
      rfl
  | true =>
    have spent : ¬ hull - hull ≤ 0 → False := fun some_ => some_ (sub_self_le_zero hull ends)
    obtain ⟨h, size, low, high⟩ := exists_value ends
    cases found : value? rest with
    | none =>
      have all : rest.min hull = hull := by
        rw [Scalar.min, if_pos (isNaN_iff.mpr found)]
      rw [all] at left
      exact absurd left spent
    | some v =>
      have number : ¬ rest.isNaN = true := by
        rw [isNaN_iff, found]
        exact nofun
      unfold Scalar.min at left ⊢
      rw [if_neg number] at left ⊢
      split at left
      · exact absurd left spent
      · rename_i fits
        have bound := le_of_not_lt size found fits
        rw [if_neg fits]
        obtain ⟨c, below, nonneg_, less⟩ := sub_between ends size found (nonneg v found) bound
        have finite := isFinite_of_value below (by omega) (by omega)
        obtain ⟨c, rfl⟩ := Int.eq_ofNat_of_zero_le nonneg_
        obtain ⟨h, rfl⟩ := Int.eq_ofNat_of_zero_le (Int.le_trans nonneg_ less)
        exact within_div finite ends below size (Int.ofNat_le.mp less) positive

end Sortie.Scalar
