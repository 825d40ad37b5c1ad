import Sortie.Scalar

namespace Sortie

/-- A vector of space. Products and sums round in the order that the definitions below spell out. -/
structure Vec where
  x : Scalar
  y : Scalar
  z : Scalar

namespace Vec

def zero : Vec := ⟨0, 0, 0⟩
def up : Vec := ⟨0, 1, 0⟩
def ahead : Vec := ⟨0, 0, -1⟩

def splat (value : Scalar) : Vec := ⟨value, value, value⟩

def add (a b : Vec) : Vec := ⟨a.x + b.x, a.y + b.y, a.z + b.z⟩
def sub (a b : Vec) : Vec := ⟨a.x - b.x, a.y - b.y, a.z - b.z⟩
def neg (a : Vec) : Vec := ⟨-a.x, -a.y, -a.z⟩
def scale (a : Vec) (factor : Scalar) : Vec := ⟨a.x * factor, a.y * factor, a.z * factor⟩
def divide (a : Vec) (divisor : Scalar) : Vec := ⟨a.x / divisor, a.y / divisor, a.z / divisor⟩

instance : Add Vec := ⟨add⟩
instance : Sub Vec := ⟨sub⟩
instance : Neg Vec := ⟨neg⟩
instance : HMul Vec Scalar Vec := ⟨scale⟩
instance : HDiv Vec Scalar Vec := ⟨divide⟩
instance : Inhabited Vec := ⟨zero⟩

/-- Equality of numbers in each component, so that the two zeros are equal. -/
def same (a b : Vec) : Bool := a.x == b.x && a.y == b.y && a.z == b.z

def isZero (a : Vec) : Bool := a.same zero

def dot (a b : Vec) : Scalar := a.x * b.x + a.y * b.y + a.z * b.z

def lengthSquared (a : Vec) : Scalar := a.dot a
def length (a : Vec) : Scalar := a.lengthSquared.sqrt
def distanceSquared (a b : Vec) : Scalar := (a - b).lengthSquared
def distance (a b : Vec) : Scalar := (a - b).length

/-- The vector of length one in the same direction, if its length has a usable inverse. -/
def unit? (a : Vec) : Option Vec :=
  let inverse := 1 / a.length
  if inverse.isFinite ∧ 0 < inverse then some (a * inverse) else none

def unitOrZero (a : Vec) : Vec := a.unit?.getD zero

/-- The vector shortened to a length if it is longer. -/
def limitLength (a : Vec) (limit : Scalar) : Vec :=
  let squared := a.lengthSquared
  if limit * limit < squared then (a / squared.sqrt) * limit else a

/-- The point that lies the part `t` of the way from `a` to `b`. -/
def mix (a b : Vec) (t : Scalar) : Vec := a * (1 - t) + b * t

def min (a b : Vec) : Vec :=
  ⟨if a.x < b.x then a.x else b.x, if a.y < b.y then a.y else b.y, if a.z < b.z then a.z else b.z⟩

def max (a b : Vec) : Vec :=
  ⟨if b.x < a.x then a.x else b.x, if b.y < a.y then a.y else b.y, if b.z < a.z then a.z else b.z⟩

/-- The sum from left to right. -/
def sum (vectors : List Vec) : Vec := vectors.foldl add zero

/-- A polynomial for the arc cosine, exact to seven digits between minus one and one. -/
def arcCosine (cosine : Scalar) : Scalar :=
  let x := cosine.abs
  let rest := 1 - x
  let root := (if rest < 0 then 0 else rest : Scalar).sqrt
  let coefficients : List Scalar :=
    [0.00667009, -0.017088126, 0.03089188, -0.050174303, 0.08897899, -0.2145988, 1.5707963]
  let sum := coefficients.foldl (fun total coefficient => total * x + coefficient) (-0.0012624911)
  let angle := sum * root
  if 0 ≤ cosine then angle else Scalar.pi - angle

/-- The angle between two directions. -/
def angle (a b : Vec) : Scalar :=
  arcCosine (a.dot b / (a.lengthSquared * b.lengthSquared).sqrt)

end Vec

end Sortie
