import Sortie.Json.Number
import Sortie.Table
import Sortie.Vec

namespace Sortie.Json

/-- A value of a data file. The members of an object are written in the order in which they stand;
those that were read stand in the order of their keys. -/
inductive Value where
  | null
  | bool (value : Bool)
  | number (value : Number)
  | text (value : String)
  | list (items : List Value)
  | object (members : List (String × Value))

namespace Value

def ofNat (value : Nat) : Value := number (.natural value)

def ofScalar (value : Scalar) : Value := number (.single value)

def ofVec (value : Vec) : Value :=
  list [ofScalar value.x, ofScalar value.y, ofScalar value.z]

def ofOption {α : Type} (write : α → Value) : Option α → Value
  | none => null
  | some value => write value

/-- The escape of a character inside quotes, if it needs one. -/
def escape? (character : Char) : Option String :=
  let code := character.toNat
  let hex (digit : Nat) : String := String.ofList (Nat.toDigits 16 digit)
  match character with
  | '"' => some "\\\""
  | '\\' => some "\\\\"
  | '\n' => some "\\n"
  | '\r' => some "\\r"
  | '\t' => some "\\t"
  | '\x08' => some "\\b"
  | '\x0c' => some "\\f"
  | _ => if code < 0x20 then some ("\\u00" ++ hex (code / 16) ++ hex (code % 16)) else none

def quoted (text : String) : String :=
  let body := text.foldl (fun done character =>
    match escape? character with
    | some escape => done ++ escape
    | none => done.push character) "\""
  body.push '"'

/-- How containers are laid out. -/
structure Style where
  /-- What stands before an item at a depth. -/
  lineBreak : Nat → String
  colon : String

namespace Style

def compact : Style := ⟨fun _ => "", ":"⟩

/-- Each item stands on a line of its own, indented by two blanks for each level. -/
def indented : Style := ⟨fun depth => "\n" ++ "".pushn ' ' (2 * depth), ": "⟩

end Style

mutual

/-- Appends the text of a value that stands at a depth. -/
def write (style : Style) (depth : Nat) (done : String) : Value → String
  | null => done ++ "null"
  | bool value => done ++ (if value then "true" else "false")
  | number value => done ++ value.text
  | text value => done ++ quoted value
  | list [] => done ++ "[]"
  | list (item :: items) =>
    let first := write style (depth + 1) (done ++ "[" ++ style.lineBreak (depth + 1)) item
    writeItems style (depth + 1) first items ++ style.lineBreak depth ++ "]"
  | object [] => done ++ "\x7b\x7d"
  | object ((key, value) :: members) =>
    let head := done ++ "\x7b" ++ style.lineBreak (depth + 1) ++ quoted key ++ style.colon
    let first := write style (depth + 1) head value
    writeMembers style (depth + 1) first members ++ style.lineBreak depth ++ "\x7d"

def writeItems (style : Style) (depth : Nat) (done : String) : List Value → String
  | [] => done
  | item :: items =>
    writeItems style depth (write style depth (done ++ "," ++ style.lineBreak depth) item) items

def writeMembers (style : Style) (depth : Nat) (done : String) :
    List (String × Value) → String
  | [] => done
  | (key, value) :: members =>
    let head := done ++ "," ++ style.lineBreak depth ++ quoted key ++ style.colon
    writeMembers style depth (write style depth head value) members

end

/-- The text on one line. -/
def compact (value : Value) : String := write .compact 0 "" value

/-- The text with one item on each line. -/
def indented (value : Value) : String := write .indented 0 "" value

end Value

end Sortie.Json
