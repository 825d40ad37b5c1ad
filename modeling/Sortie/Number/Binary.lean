namespace Sortie.Number

/-- A binary interchange format: the widths of the stored fraction and of the exponent field. A bit
pattern stands for an exact value `significand * 2 ^ power`; an exact value is rounded to the
nearest pattern, with ties to even. -/
structure Format where
  fractionBits : Nat
  exponentBits : Nat
  deriving DecidableEq, Repr

/-- What a bit pattern stands for. The sign of a zero is kept. -/
inductive Value where
  | nan
  | infinite (negative : Bool)
  | finite (negative : Bool) (significand : Nat) (power : Int)
  deriving DecidableEq, Repr

/-- `significand / 2 ^ shift` to the nearest whole number, a half going to the even neighbour. -/
def halfEvenShift (significand shift : Nat) : Nat :=
  let low := significand >>> shift
  let rest := significand - (low <<< shift)
  let half := 2 * rest
  let unit := 1 <<< shift
  if unit < half ∨ (half = unit ∧ low % 2 = 1) then low + 1 else low

namespace Format

def single : Format := ⟨23, 8⟩
def double : Format := ⟨52, 11⟩

/-- The exponent field of infinities and of values that are no numbers. -/
def topExponent (format : Format) : Nat := (1 <<< format.exponentBits) - 1

def infinityBits (format : Format) : Nat := format.topExponent <<< format.fractionBits

def signBit (format : Format) : Nat := 1 <<< (format.fractionBits + format.exponentBits)

/-- The power of two that the smallest positive value stands for. -/
def lowestPower (format : Format) : Int :=
  2 - (1 <<< (format.exponentBits - 1) : Nat) - (format.fractionBits : Nat)

/-- The exact value of a bit pattern. -/
def decode (format : Format) (bits : Nat) : Value :=
  let negative := bits.testBit (format.fractionBits + format.exponentBits)
  let exponent := (bits >>> format.fractionBits) % (1 <<< format.exponentBits)
  let fraction := bits % (1 <<< format.fractionBits)
  if exponent = format.topExponent then
    if fraction = 0 then .infinite negative else .nan
  else if exponent = 0 then .finite negative fraction format.lowestPower
  else .finite negative ((1 <<< format.fractionBits) + fraction)
    (format.lowestPower + (exponent : Int) - 1)

/-- The magnitude bits nearest to `significand * 2 ^ power`; beyond the range, infinity. -/
def nearest (format : Format) (significand : Nat) (power : Int) : Nat :=
  if significand = 0 then 0
  else
    let leading := power + (significand.log2 : Int)
    let unit := max format.lowestPower (leading - (format.fractionBits : Nat))
    let rounded :=
      if unit ≤ power then significand <<< (power - unit).toNat
      else halfEvenShift significand (unit - power).toNat
    let bits := ((unit - format.lowestPower).toNat <<< format.fractionBits) + rounded
    min bits format.infinityBits

def withSign (format : Format) (negative : Bool) (magnitude : Nat) : Nat :=
  if negative then format.signBit + magnitude else magnitude

/-- The pattern nearest to a value. -/
def encode (format : Format) : Value → Nat
  | .nan => format.infinityBits + 1 <<< (format.fractionBits - 1)
  | .infinite negative => format.withSign negative format.infinityBits
  | .finite negative significand power =>
    format.withSign negative (format.nearest significand power)

end Format

end Sortie.Number
