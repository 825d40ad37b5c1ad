import Sortie.Vec

namespace Sortie

/-- A box along the axes. Two boxes that only touch overlap. -/
structure Box where
  low : Vec
  high : Vec

namespace Box

/-- The smallest box around a sphere. -/
def ofSphere (center : Vec) (radius : Scalar) : Box :=
  ⟨center - Vec.splat radius, center + Vec.splat radius⟩

/-- Each component of `a` is at most that of `b`. -/
def below (a b : Vec) : Bool := a.x ≤ b.x && a.y ≤ b.y && a.z ≤ b.z

def overlaps (a b : Box) : Bool := below a.low b.high && below b.low a.high

end Box

end Sortie
