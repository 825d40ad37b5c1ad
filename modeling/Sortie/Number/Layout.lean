import Sortie.Number.Shortest

namespace Sortie.Number

/-- How a shortest decimal is written out. -/
structure Layout where
  /-- Which of two equally near decimals is taken. -/
  tie : Tie
  /-- Whether a whole number ends in a point and a zero. -/
  keepPoint : Bool
  /-- The places of the decimal point, counted from the first digit, that are written out. -/
  positional : Option (Int × Int)
  notANumber : String
  infinite : String
  negativeInfinite : String

namespace Layout

/-- Numbers in reports have no exponent and no needless point. -/
def plain : Layout := ⟨.away, false, none, "NaN", "inf", "-inf"⟩

/-- Numbers in data files always have a point or an exponent. Double precision has the latter below
1e-5 and from 1e16 on. What is no number is written as a missing value. -/
def data : Layout := ⟨.even, true, some (-4, 16), "null", "null", "null"⟩

/-- Single precision has an exponent below 1e-6 and from 1e13 on. -/
def singleData : Layout := { data with positional := some (-5, 13) }

end Layout

def zeros (count : Nat) : String := "".pushn '0' count

/-- The digits with the decimal point after `point` of them. -/
def positional (digits : String) (point : Int) (keepPoint : Bool) : String :=
  let length : Int := digits.length
  if length ≤ point then
    digits ++ zeros (point - length).toNat ++ (if keepPoint then ".0" else "")
  else if 0 < point then
    let cut := point.toNat
    String.ofList (digits.toList.take cut) ++ "." ++ String.ofList (digits.toList.drop cut)
  else "0." ++ zeros (-point).toNat ++ digits

/-- One digit before the point, and the exponent with its sign. -/
def scientific (digits : String) (point : Int) : String :=
  let power := point - 1
  let exponent := (if power < 0 then "e-" else "e+") ++ toString power.natAbs
  match digits.toList with
  | [] => ""
  | [only] => String.singleton only ++ exponent
  | first :: rest => String.singleton first ++ "." ++ String.ofList rest ++ exponent

/-- The text of a decimal that is not negative. -/
def Decimal.text (layout : Layout) (decimal : Decimal) : String :=
  if decimal.digits = 0 then (if layout.keepPoint then "0.0" else "0")
  else
    let digits := toString decimal.digits
    let point := decimal.exponent + (digits.length : Int)
    match layout.positional with
    | none => positional digits point layout.keepPoint
    | some (first, last) =>
      if first ≤ point ∧ point ≤ last then positional digits point layout.keepPoint
      else scientific digits point

/-- The text of a value with the fewest digits that read back as it. -/
def Value.text (format : Format) (layout : Layout) : Value → String
  | .nan => layout.notANumber
  | .infinite negative => if negative then layout.negativeInfinite else layout.infinite
  | .finite negative significand power =>
    (if negative then "-" else "") ++ (shortest format layout.tie significand power).text layout

/-- The value with a fixed number of decimal places, a half going to the even neighbour. -/
def Value.fixed (places : Nat) : Value → String
  | .nan => "NaN"
  | .infinite negative => if negative then "-inf" else "inf"
  | .finite negative significand power =>
    let scaled := significand * Nat.pow 10 places
    let units :=
      if 0 ≤ power then scaled <<< power.toNat else halfEvenShift scaled (-power).toNat
    let digits := toString units
    let padded := zeros (places + 1 - digits.length) ++ digits
    let point : Int := (padded.length : Int) - (places : Int)
    (if negative then "-" else "") ++ positional padded point false

end Sortie.Number
