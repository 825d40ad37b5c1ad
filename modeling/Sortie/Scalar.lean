import Sortie.Number.Layout

namespace Sortie

/-- A single-precision number of the simulation. Each operation rounds on its own. Comparisons with
what is no number are false, which decides the branches below. -/
abbrev Scalar := Float32

/-- A double-precision number, used where time accumulates over a whole mission. -/
abbrev LongTime := Float

namespace Scalar

open Number

def decode (x : Scalar) : Value := Format.single.decode x.toBits.toNat

def ofValue (value : Value) : Scalar := Float32.ofBits (Format.single.encode value).toUInt32

/-- The nearest single-precision number. -/
def ofLong (x : LongTime) : Scalar := ofValue (Format.double.decode x.toBits.toNat)

/-- The same number in double precision. -/
def toLong (x : Scalar) : LongTime :=
  Float.ofBits (Format.double.encode x.decode).toUInt64

/-- The nearest number to a count below `2 ^ 64`. -/
def ofCount (count : Nat) : Scalar := count.toUInt64.toFloat32

def notANumber : Scalar := ofValue .nan

/-- The largest finite number. -/
def largest : Scalar := Float32.ofBits 0x7f7fffff

/-- The distance from one to the next larger number. -/
def epsilon : Scalar := Float32.ofBits 0x34000000

/-- The ratio of a circle's circumference to its diameter. -/
def pi : Scalar := Float32.ofBits 0x40490fdb

/-- The smaller of two numbers; an operand that is no number is ignored. -/
def min (x y : Scalar) : Scalar := if x.isNaN then y else if y < x then y else x

/-- The number itself if positive, else zero. -/
def orZero (x : Scalar) : Scalar := if 0 < x then x else 0

/-- The nearest number between zero and one; what is no number stays so. -/
def clampUnit (x : Scalar) : Scalar := if x < 0 then 0 else if 1 < x then 1 else x

/-- The largest whole number not above `x`. -/
def floor (x : Scalar) : Scalar :=
  match x.decode with
  | .finite negative significand power =>
    if 0 ≤ power then x
    else
      let shift := (-power).toNat
      let below := significand >>> shift
      let whole := if negative ∧ below <<< shift ≠ significand then below + 1 else below
      ofValue (.finite negative whole 0)
  | _ => x

/-- The remainder of `x` by `y` that is not negative, up to the rounding of the last addition. -/
def wrap (x y : Scalar) : Scalar :=
  match x.decode, y.decode with
  | .finite negative left power, .finite _ right scale =>
    if right = 0 then notANumber
    else
      let unit := Min.min power scale
      let rest := (left <<< (power - unit).toNat) % (right <<< (scale - unit).toNat)
      let remainder := ofValue (.finite negative rest unit)
      if remainder < 0 then remainder + y.abs else remainder
  | .finite .., .infinite _ => if x < 0 then x + y.abs else x
  | _, _ => notANumber

/-- The whole number nearest to `x`, a half rounded up, cut to the range of 64-bit counts. -/
def roundCount (x : Scalar) : Nat :=
  let limit := UInt64.size - 1
  match x.decode with
  | .nan => 0
  | .infinite negative => if negative then 0 else limit
  | .finite negative significand power =>
    if negative then 0
    else if 0 ≤ power then Min.min (significand <<< power.toNat) limit
    else
      let shift := (-power).toNat
      (2 * significand + (1 <<< shift)) >>> (shift + 1)

/-- The whole part of a number that is not negative, cut to the range of 32-bit counts. -/
def wholeCount (x : Scalar) : Nat := x.toUInt32.toNat

/-- The order of numbers in which every two are comparable: by sign and magnitude bits. -/
def orderKey (x : Scalar) : Int :=
  let bits := x.toBits.toNat
  let limit := Format.single.signBit
  if bits < limit then bits else (limit : Int) - 1 - bits

/-- The digits that read back, without an exponent. -/
def text (x : Scalar) : String := x.decode.text .single .plain

/-- The text with a fixed number of decimal places. -/
def fixed (x : Scalar) (places : Nat) : String := x.decode.fixed places

/-- Milliseconds to seconds. -/
def seconds (milliseconds : Scalar) : Scalar := milliseconds * 0.001

end Scalar

namespace LongTime

def text (x : LongTime) : String :=
  (Number.Format.double.decode x.toBits.toNat).text .double .plain

/-- The text with a fixed number of decimal places. -/
def fixed (x : LongTime) (places : Nat) : String :=
  (Number.Format.double.decode x.toBits.toNat).fixed places

end LongTime

end Sortie
