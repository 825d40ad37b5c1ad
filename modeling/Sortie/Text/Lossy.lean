namespace Sortie.Text

/-- What the first byte of a character promises: how many bytes follow, the bits it holds, and the
range of the byte after it. -/
structure LeadByte where
  following : Nat
  bits : Nat
  low : Nat := 0x80
  high : Nat := 0xbf

namespace LeadByte

/-- The promise of a byte. Ranges are narrowed where a shorter form exists, where the code is no
character, and at the largest code. -/
def ofByte? (byte : Nat) : Option LeadByte :=
  if byte < 0x80 then some { following := 0, bits := byte }
  else if byte < 0xc2 then none
  else if byte < 0xe0 then some { following := 1, bits := byte % 0x20 }
  else if byte < 0xf0 then
    some
      { following := 2
        bits := byte % 0x10
        low := if byte = 0xe0 then 0xa0 else 0x80
        high := if byte = 0xed then 0x9f else 0xbf }
  else if byte < 0xf5 then
    some
      { following := 3
        bits := byte % 8
        low := if byte = 0xf0 then 0x90 else 0x80
        high := if byte = 0xf4 then 0x8f else 0xbf }
  else none

end LeadByte

def replacement : Char := '\ufffd'

/-- Finishes a character that still needs `following` bytes, of which the first lies in a range.
What remains is at most as long. -/
def finish (code low high : Nat) :
    Nat → (bytes : List UInt8) → Char × { rest : List UInt8 // rest.length ≤ bytes.length }
  | 0, bytes => (Char.ofNat code, ⟨bytes, Nat.le_refl _⟩)
  | _ + 1, [] => (replacement, ⟨[], Nat.le_refl _⟩)
  | following + 1, byte :: bytes =>
    if low ≤ byte.toNat ∧ byte.toNat ≤ high then
      let (character, rest) := finish (code * 64 + byte.toNat % 64) 0x80 0xbf following bytes
      (character, ⟨rest.1, Nat.le_succ_of_le rest.2⟩)
    else (replacement, ⟨byte :: bytes, Nat.le_refl _⟩)

/-- The characters that bytes are shown as. Each longest stretch that starts a character but does
not finish it, and each byte that starts none, is shown as one replacement character. -/
def lossyCharacters : List UInt8 → List Char
  | [] => []
  | byte :: bytes =>
    match LeadByte.ofByte? byte.toNat with
    | none => replacement :: lossyCharacters bytes
    | some lead =>
      let (character, rest) := finish lead.bits lead.low lead.high lead.following bytes
      character :: lossyCharacters rest.1
termination_by bytes => bytes.length
decreasing_by
  · exact Nat.lt_succ_self _
  · exact Nat.lt_succ_of_le rest.2

/-- The text that bytes are shown as. The program shows none; it is for those who look at files from
outside. -/
def lossy (bytes : ByteArray) : String := String.ofList (lossyCharacters bytes.toList)

end Sortie.Text
