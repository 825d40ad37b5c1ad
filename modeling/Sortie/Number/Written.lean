import Sortie.Number.Binary

namespace Sortie.Number

/-- A written decimal: its digits as a whole number, and the power of ten they are multiplied by. It
stands for the nearest number of a format. -/
structure Written where
  negative : Bool
  digits : Nat
  exponent : Int
  deriving DecidableEq, Repr

namespace Written

/-- The digits at the start of a text, and the rest. -/
def takeDigits (text : List Char) : List Char × List Char :=
  (text.takeWhile Char.isDigit, text.dropWhile Char.isDigit)

def valueOfDigits (digits : List Char) : Nat :=
  digits.foldl (fun value digit => 10 * value + (digit.toNat - '0'.toNat)) 0

/-- The sign at the start of a text, if there is one: whether it is a minus, and the rest. -/
def takeSign : List Char → Bool × List Char
  | '-' :: rest => (true, rest)
  | '+' :: rest => (false, rest)
  | text => (false, text)

/-- The power of ten that ends a text; zero if there is none. -/
def exponentOf? : List Char → Option Int
  | [] => some 0
  | mark :: rest =>
    if mark = 'e' ∨ mark = 'E' then
      let (negative, digits) := takeSign rest
      if digits.isEmpty ∨ ¬ digits.all Char.isDigit then none
      else
        let value : Int := valueOfDigits digits
        some (if negative then -value else value)
    else none

/-- The fraction at the start of a text, and the rest. -/
def takeFraction : List Char → List Char × List Char
  | '.' :: rest => takeDigits rest
  | text => ([], text)

/-- The decimal that a text writes after its sign. -/
def ofUnsigned? (negative : Bool) (text : List Char) : Option Written := do
  let (whole, rest) := takeDigits text
  let (fraction, rest) := takeFraction rest
  if whole.isEmpty ∧ fraction.isEmpty then none
  let exponent ← exponentOf? rest
  return ⟨negative, valueOfDigits (whole ++ fraction), exponent - (fraction.length : Int)⟩

/-- Beyond this power of ten of the first digit, no format has finite numbers. -/
def exponentLimit : Int := 400

/-- The nearest value; far out of range, zero or infinity. Of a quotient with ample bits, an odd
last bit stands for whatever is below it. -/
def bits (format : Format) (written : Written) : Nat :=
  let digits := written.digits
  let top := written.exponent + ((Nat.toDigits 10 digits).length : Int)
  if digits = 0 ∨ top < -exponentLimit then format.encode (.finite written.negative 0 0)
  else if exponentLimit < top then format.encode (.infinite written.negative)
  else if 0 ≤ written.exponent then
    format.encode (.finite written.negative (digits * Nat.pow 10 written.exponent.toNat) 0)
  else
    let divisor := Nat.pow 10 (-written.exponent).toNat
    let shift := divisor.log2 + 2 * format.fractionBits
    let quotient := (digits <<< shift) / divisor
    let rest := (digits <<< shift) % divisor
    let odd := 2 * quotient + (if rest = 0 then 0 else 1)
    format.encode (.finite written.negative odd (-(shift : Int) - 1))

end Written

namespace Format

/-- The number that a text writes, or an infinity or what is no number by their names. -/
def ofText? (format : Format) (text : String) : Option Nat :=
  let (negative, rest) := Written.takeSign text.toList
  let name := String.ofList (rest.map Char.toLower)
  if name = "inf" ∨ name = "infinity" then some (format.encode (.infinite negative))
  else if name = "nan" then some (format.encode .nan)
  else (Written.ofUnsigned? negative rest).map (Written.bits format)

end Format

end Sortie.Number
