import Sortie.Json.Outline

namespace Sortie.Json

/-- A piece of a quoted text: a character, or a code unit that was written as an escape. A code unit
that is half of a surrogate pair must stand beside its other half. -/
inductive Piece where
  | character (value : Char)
  | unit (code : Nat)

namespace Piece

def isLeading (code : Nat) : Bool := 0xd800 ≤ code && code ≤ 0xdbff
def isTrailing (code : Nat) : Bool := 0xdc00 ≤ code && code ≤ 0xdfff

/-- The character of a surrogate pair. -/
def joined (leading trailing : Nat) : Char :=
  Char.ofNat (0x10000 + (leading - 0xd800) * 0x400 + (trailing - 0xdc00))

/-- The text of the pieces, or how a lone surrogate among them shows: as a fault, or as the end of
the pieces after a leading one. -/
def decode : List Piece → List Char → Except (Option Fault) (List Char)
  | [], done => .ok done.reverse
  | character value :: rest, done => decode rest (value :: done)
  | [unit code], done =>
    if isLeading code then .error none
    else if isTrailing code then .error (some .malformed)
    else .ok (Char.ofNat code :: done).reverse
  | unit code :: character value :: rest, done =>
    if isLeading code ∨ isTrailing code then .error (some .malformed)
    else decode rest (value :: Char.ofNat code :: done)
  | unit code :: unit next :: rest, done =>
    if isLeading code then
      if isTrailing next then decode rest (joined code next :: done)
      else .error (some .malformed)
    else if isTrailing code then .error (some .malformed)
    else decode (unit next :: rest) (Char.ofNat code :: done)

/-- The text of a quotation that was closed. -/
def close (pieces : List Piece) : Option String :=
  match decode pieces [] with
  | .ok characters => some (String.ofList characters)
  | .error _ => none

/-- What the reader of a quotation finds that was cut by a fault. -/
def cut (pieces : List Piece) (fault : Fault) : Fault :=
  match decode pieces [] with
  | .error (some first) => first
  | .error none | .ok _ => fault

end Piece

end Sortie.Json
