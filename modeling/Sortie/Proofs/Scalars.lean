import Sortie.Scalar

set_option autoImplicit false

namespace Sortie.Scalar

open Float.Model (UnpackedFloat Format)
open Float.Model.UnpackedFloat (Sign)

/-- The number as sign, significand and power, or as one of the special values. -/
def unpacked (x : Scalar) : UnpackedFloat := x.toModel.unpack

/-- A number that has been stored in its bits. -/
def stored (x : UnpackedFloat) : UnpackedFloat := (Float32.Model.pack x).unpack

theorem unpacked_sub (x y : Scalar) :
    unpacked (x - y) = stored (UnpackedFloat.sub Format.binary32 x.unpacked y.unpacked) := rfl

theorem unpacked_zero : unpacked 0 = .zero .positive := by rfl

theorem stored_zero (sign : Sign) : stored (.zero sign) = .zero sign := by
  cases sign <;> rfl

theorem stored_infinity (sign : Sign) : stored (.infinity sign) = .infinity sign := by
  cases sign <;> rfl

theorem stored_notANumber : stored .notANumber = .notANumber := by rfl

theorem isFinite_iff (x : Scalar) : x.isFinite = x.unpacked.isFinite := rfl

theorem le_zero_iff (x : Scalar) :
    x ≤ 0 ↔ x.unpacked.le (.zero .positive) = true := by
  rw [← unpacked_zero]
  exact decide_eq_true_iff

theorem lt_zero_iff (x : Scalar) :
    x < 0 ↔ x.unpacked.lt (.zero .positive) = true := by
  rw [← unpacked_zero]
  exact decide_eq_true_iff

theorem zero_lt_iff (x : Scalar) :
    0 < x ↔ (UnpackedFloat.zero .positive).lt x.unpacked = true := by
  rw [← unpacked_zero]
  exact decide_eq_true_iff

theorem not_lt_zero (x : Scalar) (positive : ¬ x ≤ 0) : ¬ x < 0 := by
  rw [le_zero_iff] at positive
  rw [lt_zero_iff]
  intro below
  simp only [UnpackedFloat.lt, UnpackedFloat.le] at below positive
  rw [eq_of_beq below] at positive
  exact positive rfl

theorem not_le_zero_of_pos (x : Scalar) (positive : 0 < x) : ¬ x ≤ 0 := by
  rw [zero_lt_iff] at positive
  rw [le_zero_iff]
  intro below
  cases number : x.unpacked with
  | notANumber =>
    rw [number] at positive
    cases positive
  | zero sign =>
    rw [number] at positive
    cases positive
  | infinity sign | finite sign _ _ _ =>
    rw [number] at positive below
    cases sign with
    | positive => cases below
    | negative => cases positive

/-- A finite countdown ends in one step of its own length. -/
theorem sub_self_le_zero (x : Scalar) (finite : x.isFinite = true) : x - x ≤ 0 := by
  rw [isFinite_iff] at finite
  rw [le_zero_iff, unpacked_sub]
  cases number : x.unpacked with
  | notANumber | infinity _ =>
    rw [number] at finite
    cases finite
  | zero sign =>
    cases sign <;> rfl
  | finite sign significand power positive =>
    have cancelled : UnpackedFloat.sub Format.binary32 (.finite sign significand power positive)
        (.finite sign significand power positive) = .zero .positive := by
      show UnpackedFloat.normalize Format.binary32 (sign.apply _ - sign.apply _) _ .positive = _
      rw [Int.sub_self]
      rfl
    rw [cancelled, stored_zero]
    rfl

/-- A countdown that is not finite stays so and does not end in steps of finite length. -/
theorem infinite_sub (x dt : Scalar) (endless : x.isFinite = false) (positive : ¬ x ≤ 0)
    (finite : dt.isFinite = true) : (x - dt).isFinite = false ∧ ¬ x - dt ≤ 0 := by
  rw [isFinite_iff] at endless finite
  rw [le_zero_iff] at positive
  rw [isFinite_iff, le_zero_iff, unpacked_sub]
  have kept : UnpackedFloat.sub Format.binary32 x.unpacked dt.unpacked = x.unpacked := by
    cases number : x.unpacked with
    | notANumber => rfl
    | infinity sign =>
      cases length : dt.unpacked with
      | notANumber | infinity _ =>
        rw [length] at finite
        cases finite
      | zero _ | finite _ _ _ _ => rfl
    | zero _ | finite _ _ _ _ =>
      rw [number] at endless
      cases endless
  have same : stored x.unpacked = x.unpacked := by
    cases number : x.unpacked with
    | notANumber => exact stored_notANumber
    | infinity sign => exact stored_infinity sign
    | zero _ | finite _ _ _ _ =>
      rw [number] at endless
      cases endless
  rw [kept, same]
  exact ⟨endless, positive⟩

end Sortie.Scalar
