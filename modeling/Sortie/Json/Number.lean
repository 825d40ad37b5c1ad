import Sortie.Scalar

namespace Sortie.Json

/-- A number of a data file. Whole numbers in the range of 64 bits are exact. All others are double
precision, computed from the first digits that fit into 64 bits and one power of ten, so that the
last digit may differ from the nearest number's. Numbers in single precision are only written. -/
inductive Number where
  | natural (value : Nat)
  | negative (magnitude : Nat)
  | real (value : Float)
  | single (value : Float32)

namespace Number

def naturalLimit : Nat := UInt64.size - 1
def negativeLimit : Nat := 1 <<< 63
def exponentLimit : Nat := (1 <<< 31) - 1

/-- A count as a double-precision number. -/
def countReal (count : Nat) : Float := count.toUInt64.toFloat

/-- The nearest double-precision number to a power of ten. -/
def tenPower (exponent : Nat) : Float :=
  Float.ofBits (Sortie.Number.Format.double.encode (.finite false (Nat.pow 10 exponent) 0)).toUInt64

/-- The nearest double-precision number, for those who look into a value from outside. -/
def toReal : Number → Float
  | natural value => countReal value
  | negative magnitude => -countReal magnitude
  | real value => value
  | single value => Scalar.toLong value

/-- The nearest single-precision number. -/
def toSingle : Number → Float32
  | natural value => value.toUInt64.toFloat32
  | negative magnitude => -magnitude.toUInt64.toFloat32
  | real value => Scalar.ofLong value
  | single value => value

/-- The text in data files. -/
def text : Number → String
  | natural value => toString value
  | negative magnitude => "-" ++ toString magnitude
  | real value =>
    (Sortie.Number.Format.double.decode value.toBits.toNat).text .double .data
  | single value =>
    (Sortie.Number.Format.single.decode value.toBits.toNat).text .single .singleData

/-- The parts of a written number. -/
structure Parts where
  negative : Bool
  whole : List Char
  /-- The digits after the point, if there is one. -/
  fraction : Option (List Char)
  /-- The sign and digits of the exponent, if there is one. -/
  exponent : Option (Bool × List Char)

def digitValue (digit : Char) : Nat := digit.toNat - '0'.toNat

/-- Takes in digits while the value fits into 64 bits; the digits that do not fit remain. -/
def gather (value : Nat) : List Char → Nat × List Char
  | [] => (value, [])
  | digit :: rest =>
    let next := 10 * value + digitValue digit
    if naturalLimit < next then (value, digit :: rest) else gather next rest

/-- The exponent's magnitude, or none if it does not fit. -/
def gatherExponent (value : Nat) : List Char → Option Nat
  | [] => some value
  | digit :: rest =>
    let next := 10 * value + digitValue digit
    if exponentLimit < next then none else gatherExponent next rest

/-- The exponent of the largest power of ten in range. -/
def topExponent : Nat := 308

/-- Divides by a power of ten in steps that stay in range. -/
def shrink (value : Float) (exponent : Nat) : Float :=
  if topExponent < exponent then
    if value == 0 then value else shrink (value / tenPower topExponent) (exponent - topExponent)
  else value / tenPower exponent
termination_by exponent
decreasing_by
  have positive : 0 < topExponent := by decide
  omega

/-- A count times a power of ten; none if it is out of range. -/
def scaled (significand : Nat) (exponent : Int) : Option Float :=
  let value := countReal significand
  if exponent < 0 then some (shrink value (-exponent).toNat)
  else if (topExponent : Int) < exponent then if value == 0 then some value else none
  else
    let product := value * tenPower exponent.toNat
    if product.isInf then none else some product

/-- The number that digits and an exponent stand for. -/
def ofDigits (significand : Nat) (places : Int) (exponent : Option (Bool × List Char)) :
    Option Float :=
  match exponent with
  | none => scaled significand places
  | some (down, digits) =>
    match gatherExponent 0 digits with
    | none => if significand = 0 ∨ down then some 0 else none
    | some magnitude =>
      let sum := if down then places - (magnitude : Int) else places + (magnitude : Int)
      scaled significand sum

/-- The value of a written number; none if it is out of range. -/
def ofParts (parts : Parts) : Option Number :=
  let signed (value : Float) : Number := real (if parts.negative then -value else value)
  let (significand, beyond) := gather 0 parts.whole
  match parts.fraction, parts.exponent with
  | none, none =>
    if ¬ beyond.isEmpty then (scaled significand beyond.length).map signed
    else if ¬ parts.negative then some (natural significand)
    else if 0 < significand ∧ significand ≤ negativeLimit then some (negative significand)
    else some (signed (countReal significand))
  | none, exponent => (ofDigits significand beyond.length exponent).map signed
  | some fraction, exponent =>
    let (total, ignored) := gather significand fraction
    let places : Int := (beyond.length : Int) - ((fraction.length - ignored.length : Nat) : Int)
    (ofDigits total places exponent).map signed

end Number

end Sortie.Json
