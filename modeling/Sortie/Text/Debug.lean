import Sortie.Text.Printable

namespace Sortie.Text

def hexCode (code : Nat) : String := String.ofList (Nat.toDigits 16 code)

/-- How a character is shown in quotes. -/
def shown (character : Char) : String :=
  match character with
  | '"' => "\\\""
  | '\\' => "\\\\"
  | '\n' => "\\n"
  | '\r' => "\\r"
  | '\t' => "\\t"
  | '\x00' => "\\0"
  | _ =>
    if isVisible character then String.singleton character
    else "\\u\x7b" ++ hexCode character.toNat ++ "\x7d"

/-- The text of a string in a report: in quotes, with escapes for what cannot be seen. -/
def inQuotes (text : String) : String :=
  "\"" ++ String.join (text.toList.map shown) ++ "\""

end Sortie.Text
