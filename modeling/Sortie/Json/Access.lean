import Sortie.Json.Value

namespace Sortie.Json.Value

/-- The text that a value is. This and what follows is for those who look into a value from outside;
the program itself reads values by decoders. -/
def toText? : Value → Option String
  | text value => some value
  | _ => none

def toBool? : Value → Option Bool
  | bool value => some value
  | _ => none

def toNat? : Value → Option Nat
  | number (.natural value) => some value
  | _ => none

def toInt? : Value → Option Int
  | number (.natural value) => some value
  | number (.negative magnitude) => some (-(magnitude : Int))
  | _ => none

/-- The items of a list; anything else has none. -/
def toItems : Value → List Value
  | list items => items
  | _ => []

/-- The members of an object; anything else has none. -/
def toMembers : Value → List (String × Value)
  | object members => members
  | _ => []

/-- What stands under a key; null if nothing does. -/
def get (value : Value) (key : String) : Value := (Table.find? key value.toMembers).getD null

/-- Whether nothing but null stands under a key. -/
def lacks (value : Value) (key : String) : Bool :=
  match value.get key with
  | null => true
  | _ => false

end Sortie.Json.Value
