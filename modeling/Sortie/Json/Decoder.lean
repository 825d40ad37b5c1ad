import Sortie.Json.Reader
import Sortie.Json.Value
import Sortie.Vec
import Sortie.Team

namespace Sortie.Json

/-- Why a text was refused: it is not well formed, ends too early, or has the wrong shape. -/
inductive Problem where
  | malformed
  | truncated
  | wrongShape
  deriving DecidableEq, Repr

def Fault.problem : Fault → Problem
  | malformed => .malformed
  | truncated => .truncated

/-- Reads a value inside a number of open containers. A decoder walks the outline of a text in its
order and reports the first problem. -/
abbrev Decoder (α : Type) := Nat → Node → Except Problem α

/-- The most containers that may be open at once. -/
def depthLimit : Nat := 127

/-- The problem of a reader that wants another kind of value. -/
def Node.refuse : Node → Problem
  | null | bool _ | number (some _) | text (some _) | list _ _ | object _ _ => .wrongShape
  | number none | text none => .malformed
  | broken kept _ _ => kept.problem

/-- What remains to be checked when a container's reader wants no more items. -/
def Ending.check : Ending → Except Problem Unit
  | closed => .ok ()
  | cut fault _ => .error fault.problem

/-- As `check`, for a reader that has all it wants: a comma is already too much. -/
def Ending.checkFull : Ending → Except Problem Unit
  | closed => .ok ()
  | cut _ true => .error .malformed
  | cut fault false => .error fault.problem

namespace Decoder

variable {α σ : Type}

/-- Runs inside one more container. -/
def enter (depth : Nat) (inside : Nat → Except Problem α) : Except Problem α :=
  if depthLimit ≤ depth then .error .malformed else inside (depth + 1)

def bool : Decoder Bool
  | _, .bool value => .ok value
  | _, node => .error node.refuse

def string : Decoder String
  | _, .text (some value) => .ok value
  | _, node => .error node.refuse

def scalar : Decoder Scalar
  | _, .number (some value) => .ok value.toSingle
  | _, node => .error node.refuse

/-- A whole number up to a limit. -/
def natural (limit : Nat) : Decoder Nat
  | _, .number (some (.natural value)) => if value ≤ limit then .ok value else .error .wrongShape
  | _, node => .error node.refuse

/-- A whole number of 32 bits. -/
def count32 : Decoder Nat := natural (UInt32.size - 1)

/-- A whole number of 64 bits. -/
def count64 : Decoder Nat := natural (UInt64.size - 1)

def optional (decode : Decoder α) : Decoder (Option α)
  | _, .null => .ok none
  | depth, node => (decode depth node).map some

def items (decode : Decoder α) (depth : Nat) (ending : Ending) :
    List Node → Except Problem (List α)
  | [] => do
    ending.check
    return []
  | node :: rest => do
    let first ← decode depth node
    let others ← items decode depth ending rest
    return first :: others

def list (decode : Decoder α) : Decoder (List α)
  | depth, .list nodes ending => enter depth fun depth => items decode depth ending nodes
  | _, node => .error node.refuse

/-- The first `count` items of a list that has no more. -/
def exactly (decode : Decoder α) (depth : Nat) (ending : Ending) :
    Nat → List Node → Except Problem (List α)
  | 0, [] => do
    ending.checkFull
    return []
  | 0, _ :: _ => .error .malformed
  | _ + 1, [] => do
    ending.check
    .error .wrongShape
  | count + 1, node :: rest => do
    let first ← decode depth node
    let others ← exactly decode depth ending count rest
    return first :: others

/-- A list of a fixed length. -/
def array (decode : Decoder α) (count : Nat) : Decoder (List α)
  | depth, .list nodes ending => enter depth fun depth => exactly decode depth ending count nodes
  | _, node => .error node.refuse

def vec : Decoder Vec := fun depth node => do
  match ← array scalar 3 depth node with
  | [x, y, z] => return ⟨x, y, z⟩
  | _ => .error .wrongShape

def color : Decoder Color := fun depth node => do
  match ← array scalar 4 depth node with
  | [red, green, blue, alpha] => return ⟨red, green, blue, alpha⟩
  | _ => .error .wrongShape

def entries (decode : Decoder α) (depth : Nat) (ending : Ending) (table : Table α) :
    Members → Except Problem (Table α)
  | [] => do
    ending.check
    return table
  | (.error fault, _) :: _ => .error fault.problem
  | (.ok key, node) :: rest => do
    let value ← decode depth node
    entries decode depth ending (Table.put key value table) rest

/-- An object with any keys; of a repeated key the last value counts. -/
def table (decode : Decoder α) : Decoder (Table α)
  | depth, .object members ending =>
    enter depth fun depth => entries decode depth ending [] members
  | _, node => .error node.refuse

/-- The rest of an object that stands for a name, after its only member. -/
def closeName (ending : Ending) : Members → Except Problem Unit
  | [] => ending.checkFull
  | _ :: _ => .error .malformed

/-- A name, or an object with the name as its only key and nothing in it. -/
def choice (find : String → Option α) : Decoder α
  | _, .text (some name) =>
    match find name with
    | some value => .ok value
    | none => .error .wrongShape
  | _, .text none => .error .malformed
  | depth, .object members ending =>
    enter depth fun _ =>
      match members with
      | [] => do
        ending.check
        .error .malformed
      | (.error fault, _) :: _ => .error fault.problem
      | (.ok name, node) :: rest =>
        match find name with
        | none => .error .wrongShape
        | some value =>
          match node with
          | .null => do
            closeName ending rest
            return value
          | other => .error other.refuse
  | _, .broken _ named _ => .error named.problem
  | _, .null | _, .bool _ | _, .number _ | _, .list _ _ => .error .malformed

/-- A field of a record and how its value changes the record. A record is written as an object, or
as a list of its fields; fields it does not know are skipped. -/
structure Field (σ : Type) where
  name : String
  /-- Whether there is no default. -/
  required : Bool
  read : Nat → Node → σ → Except Problem σ

def field (name : String) (decode : Decoder α) (put : α → σ → σ) : Field σ :=
  ⟨name, false, fun depth node record => (decode depth node).map (put · record)⟩

def required (name : String) (decode : Decoder α) (put : α → σ → σ) : Field σ :=
  { field name decode put with required := true }

/-- The record of an object's members. -/
def fromMembers (fields : List (Field σ)) (depth : Nat) (ending : Ending) (seen : List String)
    (record : σ) : Members → Except Problem σ
  | [] => do
    ending.check
    if fields.all fun field => !field.required || seen.contains field.name then return record
    else .error .wrongShape
  | (.error fault, _) :: _ => .error fault.problem
  | (.ok name, node) :: rest =>
    match fields.find? fun field => field.name == name with
    | some field =>
      if seen.contains name then .error .wrongShape
      else do
        let record ← field.read depth node record
        fromMembers fields depth ending (name :: seen) record rest
    | none =>
      match node.skipFault? with
      | some fault => .error fault.problem
      | none => fromMembers fields depth ending seen record rest

/-- The record of a list of its fields; those at the end may be left out if they have defaults. -/
def fromItems (depth : Nat) (ending : Ending) (record : σ) :
    List (Field σ) → List Node → Except Problem σ
  | [], [] => do
    ending.checkFull
    return record
  | [], _ :: _ => .error .malformed
  | field :: fields, [] => do
    ending.check
    if (field :: fields).any Field.required then .error .wrongShape else return record
  | field :: fields, node :: rest => do
    let record ← field.read depth node record
    fromItems depth ending record fields rest

/-- A record written as an object. -/
def object (fields : List (Field σ)) (record : σ) : Decoder σ
  | depth, .object members ending =>
    enter depth fun depth => fromMembers fields depth ending [] record members
  | _, node => .error node.refuse

/-- A record written as an object or as a list. -/
def record (fields : List (Field σ)) (record : σ) : Decoder σ
  | depth, .list nodes ending =>
    enter depth fun depth => fromItems depth ending record fields nodes
  | depth, node => object fields record depth node

mutual

/-- Any value. All of it must be usable. -/
def value (depth : Nat) : Node → Except Problem Value
  | .null => .ok .null
  | .bool value => .ok (.bool value)
  | .number (some value) => .ok (.number value)
  | .text (some value) => .ok (.text value)
  | .number none | .text none => .error .malformed
  | .broken kept _ _ => .error kept.problem
  | .list nodes ending =>
    if depthLimit ≤ depth then .error .malformed
    else do
      let values ← valueItems (depth + 1) ending nodes
      return .list values
  | .object members ending =>
    if depthLimit ≤ depth then .error .malformed
    else do
      let values ← valueMembers (depth + 1) ending [] members
      return .object values

def valueItems (depth : Nat) (ending : Ending) : List Node → Except Problem (List Value)
  | [] => do
    ending.check
    return []
  | node :: rest => do
    let first ← value depth node
    let others ← valueItems depth ending rest
    return first :: others

def valueMembers (depth : Nat) (ending : Ending) (table : List (String × Value)) :
    List (Except Fault String × Node) → Except Problem (List (String × Value))
  | [] => do
    ending.check
    return table
  | (.error fault, _) :: _ => .error fault.problem
  | (.ok key, node) :: rest => do
    let value ← value depth node
    valueMembers depth ending (Table.put key value table) rest

end

/-- The first of several shapes that fits. All of the value must be usable, whichever it is. -/
def firstOf (shapes : List (Decoder α)) : Decoder α := fun depth node => do
  let _ ← value depth node
  match shapes.findSome? fun decode => (decode depth node).toOption with
  | some found => return found
  | none => .error .wrongShape

/-- Reads a whole document. -/
def run (decode : Decoder α) (text : String) : Except Problem α := do
  let (root, trailing) := outline text
  let result ← decode 0 root
  if trailing then .error .malformed else return result

end Decoder

/-- The value that a text stands for. -/
def parse (text : String) : Except Problem Value := Decoder.run Decoder.value text

end Sortie.Json
