import Sortie.Text.Blank

namespace Sortie

/-- A squad's name and a member's number, written as "alpha 2". A bare name is member one. -/
structure Squad where
  name : String
  index : Nat
  deriving DecidableEq, Repr

namespace Squad

def text (squad : Squad) : String := squad.name ++ " " ++ toString squad.index

/-- The largest number of a member. -/
def largestIndex : Nat := UInt32.size - 1

/-- The number that a non-empty run of decimal digits stands for. -/
def digitsValue? : List Char → Option Nat
  | [] => none
  | digits =>
    if digits.all Char.isDigit then
      some (digits.foldl (fun total digit => 10 * total + (digit.toNat - '0'.toNat)) 0)
    else none

/-- A member's number, which may have a plus sign and must be in range. -/
def index? (digits : List Char) : Option Nat :=
  let unsigned := match digits with
    | '+' :: rest => rest
    | _ => digits
  match digitsValue? unsigned with
  | some index => if index ≤ largestIndex then some index else none
  | none => none

/-- The text before the last space and the text after it. -/
def splitLast? : List Char → Option (List Char × List Char)
  | [] => none
  | first :: rest =>
    match splitLast? rest with
    | some (before, after) => some (first :: before, after)
    | none => if first = ' ' then some ([], rest) else none

def parse (text : String) : Squad :=
  let trimmed := Text.trim text.toList
  let bare : Squad := ⟨String.ofList trimmed, 1⟩
  match splitLast? trimmed with
  | none => bare
  | some (name, digits) =>
    match index? digits with
    | some index => ⟨String.ofList (Text.trim name), index⟩
    | none => bare

end Squad

end Sortie
