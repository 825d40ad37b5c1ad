import Sortie.Json.Value
import Sortie.Team
import Sortie.Text.Debug

namespace Sortie.Json

/-- The text between the marks that quote a name in a report. -/
def ticked (text : String) : String := "`" ++ text ++ "`"

namespace Value

/-- What a report calls the value. -/
def describe : Value → String
  | null => "null"
  | bool value => "boolean " ++ ticked (if value then "true" else "false")
  | number (.natural value) => "integer " ++ ticked (toString value)
  | number (.negative magnitude) => "integer " ++ ticked ("-" ++ toString magnitude)
  | number value => "floating point " ++ ticked value.text
  | text value => "string " ++ Text.inQuotes value
  | list _ => "sequence"
  | object _ => "map"

end Value

/-- Reads a value that is in memory, or says in words what is wrong with it. -/
abbrev Reading (α : Type) := Value → Except String α

namespace Reading

variable {α σ : Type}

def wrongType (value : Value) (expected : String) : Except String α :=
  .error ("invalid type: " ++ value.describe ++ ", expected " ++ expected)

def wrongValue (description expected : String) : Except String α :=
  .error ("invalid value: " ++ description ++ ", expected " ++ expected)

def wrongLength (length : Nat) (expected : String) : Except String α :=
  .error ("invalid length " ++ toString length ++ ", expected " ++ expected)

def missingField (name : String) : Except String α :=
  .error ("missing field " ++ ticked name)

def string : Reading String
  | .text value => .ok value
  | other => wrongType other "a string"

def bool : Reading Bool
  | .bool value => .ok value
  | other => wrongType other "a boolean"

def scalar : Reading Scalar
  | .number value => .ok value.toSingle
  | other => wrongType other "f32"

/-- A whole number up to a limit. -/
def natural (limit : Nat) (expected : String) : Reading Nat
  | .number (.natural value) =>
    if value ≤ limit then .ok value
    else wrongValue (Value.describe (.ofNat value)) expected
  | .number (.negative magnitude) =>
    wrongValue (Value.describe (.number (.negative magnitude))) expected
  | other => wrongType other expected

def count32 : Reading Nat := natural (UInt32.size - 1) "u32"
def count64 : Reading Nat := natural (UInt64.size - 1) "usize"

def optional (read : Reading α) : Reading (Option α)
  | .null => .ok none
  | value => (read value).map some

def list (read : Reading α) : Reading (List α)
  | .list items => items.mapM read
  | other => wrongType other "a sequence"

def color : Reading Color
  | .list [red, green, blue, alpha] => do
    return ⟨← scalar red, ← scalar green, ← scalar blue, ← scalar alpha⟩
  | .list items => do
    let _ ← (items.take 4).mapM scalar
    if items.length < 4 then wrongLength items.length "an array of length 4"
    else wrongLength items.length "fewer elements in array"
  | other => wrongType other "an array of length 4"

/-- The names in a report that says which were possible. -/
def alternatives : List String → String
  | [only] => ticked only
  | [first, second] => ticked first ++ " or " ++ ticked second
  | names => "one of " ++ ", ".intercalate (names.map ticked)

/-- The alternative of a name. -/
def named (choices : List (String × α)) (name : String) : Except String α :=
  match choices.find? fun choice => choice.1 == name with
  | some choice => .ok choice.2
  | none =>
    .error ("unknown variant " ++ ticked name ++ ", expected " ++
      alternatives (choices.map Prod.fst))

/-- A name, or an object with the name as its only key and an empty value. -/
def choice (isEmpty : Value → Bool) (choices : List (String × α)) : Reading α
  | .text name => named choices name
  | .object [(name, value)] => do
    let found ← named choices name
    if isEmpty value then return found else wrongType value "unit"
  | .object _ => wrongValue "map" "map with a single key"
  | other => wrongType other "string or map"

/-- Only a missing value is empty. -/
def isNull : Value → Bool
  | .null => true
  | _ => false

/-- An object without members is empty too. -/
def isNullOrEmpty : Value → Bool
  | .null | .object [] => true
  | _ => false

/-- What becomes of a field that is missing. -/
inductive Absence where
  | refused
  /-- Its default is taken. -/
  | allowed
  /-- Its default is taken in objects, but it is refused in lists. -/
  | allowedInObjects
  deriving DecidableEq, Repr

/-- A field of an object. The members of an object are read in the order of their keys; a field that
is missing is noticed after that. -/
structure Field (σ : Type) where
  name : String
  absence : Absence
  read : Value → σ → Except String σ

def field (name : String) (absence : Absence) (read : Reading α) (put : α → σ → σ) : Field σ :=
  ⟨name, absence, fun value record => (read value).map (put · record)⟩

/-- How many items a record has, in words. -/
def elements (count : Nat) : String :=
  toString count ++ (if count = 1 then " element" else " elements")

def fromMembers (fields : List (Field σ)) (record : σ) :
    List (String × Value) → Except String σ
  | [] => .ok record
  | (key, value) :: rest =>
    match fields.find? fun field => field.name == key with
    | some field => do
      let record ← field.read value record
      fromMembers fields record rest
    | none => fromMembers fields record rest

/-- Refuses the first field that has no default and is missing. -/
def checkPresent (fields : List (Field σ)) (members : List (String × Value)) :
    Except String Unit :=
  let absent := fields.find? fun field =>
    field.absence = .refused && !members.any fun member => member.1 == field.name
  match absent with
  | some field => missingField field.name
  | none => .ok ()

/-- Reads the fields in turn, from the item of an index on. What is too short lacks the first field
that must be there. -/
def fromItems (title : String) (index : Nat) (record : σ) :
    List (Field σ) → List Value → Except String σ
  | [], _ => .ok record
  | field :: fields, [] =>
    if field.absence = .allowed then fromItems title (index + 1) record fields []
    else wrongLength index title
  | field :: fields, value :: rest => do
    let record ← field.read value record
    fromItems title (index + 1) record fields rest

/-- A record written as an object, or as a list of its fields, of which `tooMany` says what is wrong
if it is too long. -/
def recordWith (title : String) (tooMany : Nat → Nat → Except String Unit)
    (fields : List (Field σ)) (record : σ) : Reading σ
  | .object members => do
    let result ← fromMembers fields record members
    checkPresent fields members
    return result
  | .list items => do
    let full := title ++ " with " ++ elements fields.length
    let result ← fromItems full 0 record fields items
    if fields.length < items.length then tooMany items.length fields.length
    return result
  | other => wrongType other title

def record (title : String) (fields : List (Field σ)) (record : σ) : Reading σ :=
  recordWith title (fun length _ => wrongLength length "fewer elements in array") fields record

/-- As `record`, for a record that stands beside the tag that chose it. -/
def taggedRecord (title : String) (fields : List (Field σ)) (record : σ) : Reading σ :=
  recordWith title
    (fun length expected => wrongLength length (elements expected ++ " in sequence")) fields record

/-- A tag and what stands beside it: an object with the tag as a member, or a list that starts with
it. -/
def tagged (title tag : String) (choices : List (String × Reading α)) : Reading α
  | .object members => do
    match Table.find? tag members with
    | none => missingField tag
    | some name =>
      let read ← identifier name
      read (.object (members.filter fun member => member.1 != tag))
  | .list [] => missingField tag
  | .list (name :: rest) => do
    let read ← identifier name
    read (.list rest)
  | other => wrongType other title
where
  identifier : Value → Except String (Reading α)
    | .text name => named choices name
    | other => wrongType other "variant identifier"

end Reading

end Sortie.Json
