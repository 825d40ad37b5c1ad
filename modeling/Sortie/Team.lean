import Sortie.Scalar

namespace Sortie

structure Color where
  red : Scalar
  green : Scalar
  blue : Scalar
  alpha : Scalar

namespace Color

def white : Color := ⟨1, 1, 1, 1⟩

def toList (color : Color) : List Scalar := [color.red, color.green, color.blue, color.alpha]

end Color

/-- A team: an id, a name and a display color. -/
structure Team where
  id : String
  name : String
  color : Color

namespace Team

/-- The team that is known only by its id. -/
def ofId (id : String) : Team := ⟨id, id, Color.white⟩

end Team

end Sortie
