import Sortie.Json.Number

namespace Sortie.Json

/-- Why a text is not well formed: something is wrong, or it ends too early. -/
inductive Fault where
  | malformed
  | truncated
  deriving DecidableEq, Repr

/-- How the text of a container ends. -/
inductive Ending where
  | closed
  /-- It is cut by a fault, possibly after a comma. -/
  | cut (fault : Fault) (afterComma : Bool)

/-- The outline of a data file: what its text holds up to the first place at which it is not well
formed. A reader that knows which shape it wants walks the outline in the order of the text, so that
of two problems the first one is found first. -/
inductive Node where
  | null
  | bool (value : Bool)
  /-- None is out of range. -/
  | number (value : Option Number)
  /-- None holds a lone surrogate. -/
  | text (value : Option String)
  | list (items : List Node) (ending : Ending)
  | object (members : List (Except Fault String × Node)) (ending : Ending)
  /-- A value that is cut by a fault, as one sees it who reads the value, who takes nothing but a
  name, and who skips it. -/
  | broken (kept named skipped : Fault)

namespace Node

/-- The fault that one finds who skips the value. To skip it, a lone surrogate and a number out of
range are no problem, and a number that is cut off at the end of the text counts as malformed. -/
def skipFault? : Node → Option Fault
  | null | bool _ | number _ | text _ => none
  | list _ .closed | object _ .closed => none
  | list _ (.cut fault _) | object _ (.cut fault _) => some fault
  | broken _ _ skipped => some skipped

end Node

/-- The members of an object part way through, in reverse. -/
abbrev Members := List (Except Fault String × Node)

end Sortie.Json
