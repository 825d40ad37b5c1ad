import Sortie.Box

namespace Sortie

/-- How two spheres overlap. The normal points from the second toward the first. -/
structure Contact where
  hit : Bool
  point : Vec
  normal : Vec
  penetration : Scalar

/-- The place and motion of a body. -/
structure Motion where
  position : Vec
  velocity : Vec

namespace Contact

def miss : Contact := ⟨false, .zero, .zero, 0⟩

/-- The contact of two spheres; those that only touch do not overlap. -/
def ofSpheres (first : Vec) (firstRadius : Scalar) (second : Vec) (secondRadius : Scalar) :
    Contact :=
  let offset := first - second
  let squared := offset.lengthSquared
  let reach := firstRadius + secondRadius
  if reach * reach ≤ squared then miss
  else
    let distance := squared.sqrt
    let normal := if 1e-6 < distance then offset / distance else Vec.up
    ⟨true, second + normal * secondRadius, normal, reach - distance⟩

/-- Both bodies pushed apart, with equal momentum exchanged along the normal, and the speed at
which they closed before. -/
def resolve (contact : Contact) (first second : Motion) (restitution : Scalar) :
    Scalar × Motion × Motion :=
  if ¬ contact.hit then (0, first, second)
  else
    let half := contact.normal * (contact.penetration * 0.5)
    let first := { first with position := first.position + half }
    let second := { second with position := second.position - half }
    let closing := (second.velocity - first.velocity).dot contact.normal
    if closing ≤ 0 then (0, first, second)
    else
      let impulse := contact.normal * closing * (1 + restitution) * (0.5 : Scalar)
      (closing, { first with velocity := first.velocity + impulse },
        { second with velocity := second.velocity - impulse })

end Contact

/-- The path of a moving point in one step. A shot moves far in one step, so it is tested as the
segment it sweeps. -/
structure Segment where
  start : Vec
  finish : Vec

namespace Segment

/-- The part of the segment before it enters the sphere; zero if it starts inside. -/
def impact? (segment : Segment) (center : Vec) (radius : Scalar) : Option Scalar :=
  let along := segment.finish - segment.start
  let offset := segment.start - center
  let outside := offset.lengthSquared - radius * radius
  if outside ≤ 0 then some 0
  else
    let squared := along.lengthSquared
    if squared < 1e-12 then none
    else
      let approach := offset.dot along
      if 0 < approach then none
      else
        let discriminant := approach * approach - squared * outside
        if discriminant < 0 then none
        else
          let part := (-approach - discriminant.sqrt) / squared
          if 0 ≤ part ∧ part ≤ 1 then some part else none

end Segment

end Sortie
