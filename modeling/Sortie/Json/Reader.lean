import Sortie.Json.Quotation

namespace Sortie.Json

/-- Where the reader of a number is. -/
inductive NumberPlace where
  | sign
  | zero
  | whole
  | point
  | fraction
  | mark
  | markSign
  | exponent
  deriving DecidableEq, Repr

namespace NumberPlace

/-- Whether the number may end here. -/
def complete : NumberPlace → Bool
  | zero | whole | fraction | exponent => true
  | sign | point | mark | markSign => false

/-- Where the next character leads, if it belongs to the number. -/
def next? (place : NumberPlace) (character : Char) : Option NumberPlace :=
  let digit := character.isDigit
  let mark := character == 'e' || character == 'E'
  match place with
  | .sign => if character == '0' then some zero else if digit then some whole else none
  | .zero => if character == '.' then some point else if mark then some .mark else none
  | .whole =>
    if digit then some whole
    else if character == '.' then some point
    else if mark then some .mark
    else none
  | .point => if digit then some fraction else none
  | .fraction => if digit then some fraction else if mark then some .mark else none
  | .mark =>
    if digit then some exponent
    else if character == '+' || character == '-' then some markSign
    else none
  | .markSign => if digit then some exponent else none
  | .exponent => if digit then some exponent else none

end NumberPlace

/-- The parts of a number written in full. -/
def numberParts (characters : List Char) : Number.Parts :=
  let (negative, unsigned) := match characters with
    | '-' :: rest => (true, rest)
    | _ => (false, characters)
  let whole := unsigned.takeWhile Char.isDigit
  let rest := unsigned.dropWhile Char.isDigit
  let (fraction, rest) := match rest with
    | '.' :: rest => (some (rest.takeWhile Char.isDigit), rest.dropWhile Char.isDigit)
    | _ => (none, rest)
  let exponent := match rest with
    | _ :: '-' :: digits => some (true, digits)
    | _ :: '+' :: digits => some (false, digits)
    | _ :: digits => some (false, digits)
    | [] => none
  ⟨negative, whole, fraction, exponent⟩

/-- A container part way through. -/
inductive Frame where
  | list (items : List Node)
  | object (members : Members) (key : String)
  /-- A key with a lone surrogate. -/
  | lone (members : Members)

/-- What the reader of a text expects next. -/
inductive Mode where
  | value
  | firstItem
  | firstKey
  | nextKey (members : Members)
  | colon (members : Members) (key : Option String)
  /-- A comma or the end of a list or an object. -/
  | listRest (items : List Node)
  | objectRest (members : Members)
  | word (rest : List Char) (node : Node)
  | quote (key : Option (Members)) (pieces : List Piece)
  | escape (key : Option (Members)) (pieces : List Piece)
  | hex (key : Option (Members)) (pieces : List Piece)
    (digits : List Char)
  | number (place : NumberPlace) (characters : List Char)
  /-- The document is read; only blanks may follow. -/
  | done (root : Node) (trailing : Bool)

/-- A reader between two characters: the open containers and what comes next. The containers are
kept on a stack, so that no depth of nesting is too deep. -/
structure Reader where
  stack : List Frame
  mode : Mode

namespace Reader

/-- Puts a value that is cut by a fault into the open containers. -/
def cutAll (node : Node) (fault : Fault) : List Frame → Node
  | [] => node
  | .list items :: stack => cutAll (.list (node :: items).reverse (.cut fault false)) fault stack
  | .object members key :: stack =>
    cutAll (.object ((.ok key, node) :: members).reverse (.cut fault false)) fault stack
  | .lone members :: stack =>
    cutAll (.object ((.error .malformed, node) :: members).reverse (.cut fault false)) fault stack

/-- Stops at a value that is cut by a fault. -/
def stop (stack : List Frame) (node : Node) : Reader :=
  ⟨[], .done (cutAll node ((node.skipFault?).getD .malformed) stack) false⟩

/-- Stops at a fault that one who keeps and one who skips see alike. -/
def fail (stack : List Frame) (fault : Fault) : Reader := stop stack (.broken fault fault fault)

/-- Puts a complete value into the innermost container. -/
def finish (stack : List Frame) (node : Node) : Reader :=
  match stack with
  | [] => ⟨[], .done node false⟩
  | .list items :: stack => ⟨stack, .listRest (node :: items)⟩
  | .object members key :: stack => ⟨stack, .objectRest ((.ok key, node) :: members)⟩
  | .lone members :: stack => ⟨stack, .objectRest ((.error .malformed, node) :: members)⟩

def isSpace (character : Char) : Bool :=
  character == ' ' || character == '\n' || character == '\t' || character == '\r'

/-- Starts a value. -/
def start (stack : List Frame) (character : Char) : Reader :=
  match character with
  | 'n' => ⟨stack, .word "ull".toList .null⟩
  | 't' => ⟨stack, .word "rue".toList (.bool true)⟩
  | 'f' => ⟨stack, .word "alse".toList (.bool false)⟩
  | '"' => ⟨stack, .quote none []⟩
  | '-' => ⟨stack, .number .sign ['-']⟩
  | '0' => ⟨stack, .number .zero ['0']⟩
  | '[' => ⟨stack, .firstItem⟩
  | '{' => ⟨stack, .firstKey⟩
  | _ =>
    if character.isDigit then ⟨stack, .number .whole [character]⟩ else fail stack .malformed

/-- Ends a quotation: of a value, or of the key after these members. -/
def closeQuote (stack : List Frame) (key : Option (Members))
    (pieces : List Piece) : Reader :=
  let text := Piece.close pieces.reverse
  match key with
  | none => finish stack (.text text)
  | some members => ⟨stack, .colon members text⟩

/-- Stops inside a quotation. -/
def cutQuote (stack : List Frame) (key : Option (Members))
    (pieces : List Piece) (fault : Fault) : Reader :=
  let kept := Piece.cut pieces.reverse fault
  match key with
  | none => stop stack (.broken kept kept fault)
  | some members =>
    stop stack
      (.object ((.error kept, .broken kept kept fault) :: members).reverse (.cut fault false))

/-- A key as its reader sees it; one without a text holds a lone surrogate. -/
def keyName : Option String → Except Fault String
  | some key => .ok key
  | none => .error .malformed

/-- Stops inside an object. -/
def cutObject (stack : List Frame) (members : Members) (fault : Fault)
    (afterComma : Bool) : Reader :=
  stop stack (.object members.reverse (.cut fault afterComma))

def cutList (stack : List Frame) (items : List Node) (fault : Fault) (afterComma : Bool) :
    Reader :=
  stop stack (.list items.reverse (.cut fault afterComma))

/-- The character that a short escape stands for. -/
def shortEscape? : Char → Option Char
  | '"' => some '"'
  | '\\' => some '\\'
  | '/' => some '/'
  | 'b' => some '\x08'
  | 'f' => some '\x0c'
  | 'n' => some '\n'
  | 'r' => some '\r'
  | 't' => some '\t'
  | _ => none

def hexDigit? (character : Char) : Option Nat :=
  if character.isDigit then some (character.toNat - '0'.toNat)
  else if 'a' ≤ character ∧ character ≤ 'f' then some (character.toNat - 'a'.toNat + 10)
  else if 'A' ≤ character ∧ character ≤ 'F' then some (character.toNat - 'A'.toNat + 10)
  else none

/-- The code unit of four digits, written in reverse. -/
def hexUnit? (digits : List Char) : Option Nat :=
  match digits.reverse.mapM hexDigit? with
  | some [a, b, c, d] => some (((a * 16 + b) * 16 + c) * 16 + d)
  | _ => none

/-- The end of a number, before the character that follows. -/
def finishNumber (stack : List Frame) (characters : List Char) : Reader :=
  finish stack (.number (Number.ofParts (numberParts characters.reverse)))

/-- Reads a character after a value. -/
def after (reader : Reader) (character : Char) : Reader :=
  if isSpace character then reader
  else match reader.mode with
    | .listRest items =>
      match character with
      | ',' => ⟨.list items :: reader.stack, .value⟩
      | ']' => finish reader.stack (.list items.reverse .closed)
      | _ => cutList reader.stack items .malformed false
    | .objectRest members =>
      match character with
      | ',' => ⟨reader.stack, .nextKey members⟩
      | '}' => finish reader.stack (.object members.reverse .closed)
      | _ => cutObject reader.stack members .malformed false
    | .done root _ => ⟨reader.stack, .done root true⟩
    | _ => reader

/-- Reads one character. -/
def step (reader : Reader) (character : Char) : Reader :=
  let stack := reader.stack
  match reader.mode with
  | .value =>
    if isSpace character then reader
    else match character, stack with
      | ']', .list items :: outer => cutList outer items .malformed true
      | _, _ => start stack character
  | .firstItem =>
    if isSpace character then reader
    else if character = ']' then finish stack (.list [] .closed)
    else start (.list [] :: stack) character
  | .firstKey =>
    if isSpace character then reader
    else match character with
      | '"' => ⟨stack, .quote (some []) []⟩
      | '}' => finish stack (.object [] .closed)
      | _ => cutObject stack [] .malformed false
  | .nextKey members =>
    if isSpace character then reader
    else if character = '"' then ⟨stack, .quote (some members) []⟩
    else cutObject stack members .malformed true
  | .colon members key =>
    if isSpace character then reader
    else if character = ':' then
      match key with
      | some key => ⟨.object members key :: stack, .value⟩
      | none => ⟨.lone members :: stack, .value⟩
    else
      let cut := (keyName key, Node.broken .malformed .malformed .malformed)
      cutObject stack (cut :: members) .malformed false
  | .listRest _ | .objectRest _ | .done _ _ => reader.after character
  | .word rest node =>
    match rest with
    | [] => fail stack .malformed
    | expected :: rest =>
      if character = expected then
        if rest.isEmpty then finish stack node else ⟨stack, .word rest node⟩
      else fail stack .malformed
  | .quote key pieces =>
    if character = '"' then closeQuote stack key pieces
    else if character = '\\' then ⟨stack, .escape key pieces⟩
    else if character.toNat < 0x20 then cutQuote stack key pieces .malformed
    else ⟨stack, .quote key (.character character :: pieces)⟩
  | .escape key pieces =>
    if character = 'u' then ⟨stack, .hex key pieces []⟩
    else match shortEscape? character with
      | some plain => ⟨stack, .quote key (.character plain :: pieces)⟩
      | none => cutQuote stack key pieces .malformed
  | .hex key pieces digits =>
    let digits := character :: digits
    let bytes := digits.foldl (fun total digit => total + digit.utf8Size) 0
    if bytes < 4 then ⟨stack, .hex key pieces digits⟩
    else match hexUnit? digits with
      | some code => ⟨stack, .quote key (.unit code :: pieces)⟩
      | none => cutQuote stack key pieces .malformed
  | .number place characters =>
    match place.next? character with
    | some place => ⟨stack, .number place (character :: characters)⟩
    | none =>
      if place = .zero ∧ character.isDigit ∨ ¬ place.complete then fail stack .malformed
      else (finishNumber stack characters).after character

/-- What the text held, at its end. -/
def close (reader : Reader) : Node × Bool :=
  let stack := reader.stack
  let stopped := match reader.mode with
    | .value =>
      match stack with
      | .list items :: outer => cutList outer items .truncated true
      | _ => fail stack .truncated
    | .firstItem => cutList stack [] .truncated false
    | .firstKey => cutObject stack [] .truncated false
    | .nextKey members => cutObject stack members .truncated true
    | .colon members key =>
      let cut := (keyName key, Node.broken .truncated .truncated .truncated)
      cutObject stack (cut :: members) .truncated false
    | .listRest items => cutList stack items .truncated false
    | .objectRest members => cutObject stack members .truncated false
    | .word _ _ => stop stack (.broken .truncated .malformed .truncated)
    | .quote key pieces | .escape key pieces | .hex key pieces _ =>
      cutQuote stack key pieces .truncated
    | .number place characters =>
      if place.complete then
        let finished := finishNumber stack characters
        match finished.mode with
        | .listRest items => cutList finished.stack items .truncated false
        | .objectRest members => cutObject finished.stack members .truncated false
        | _ => finished
      else stop stack (.broken .truncated .malformed .malformed)
    | .done root trailing => ⟨[], .done root trailing⟩
  match stopped.mode with
  | .done root trailing => (root, trailing)
  | _ => (.broken .malformed .malformed .malformed, false)

end Reader

/-- The outline of a text, and whether something other than blanks follows the document. -/
def outline (text : String) : Node × Bool :=
  (text.foldl Reader.step ⟨[], .value⟩).close

end Sortie.Json
