import Sortie.Vec

namespace Sortie

structure EnvironmentBody where
  name : String := ""
  position : Vec := .zero
  velocity : Vec := .zero
  cameraRelative : Bool := false

/-- The backdrop of a mission: bodies that drift. Bodies fixed to the camera do not move with the
origin. -/
structure Environment where
  name : String
  bodies : List EnvironmentBody := []
  /-- The time simulated so far, in milliseconds. -/
  time : LongTime := 0

namespace Environment

def simulate (environment : Environment) (dt : Scalar) : Environment :=
  { environment with
    time := environment.time + dt.toLong
    bodies := environment.bodies.map fun body =>
      { body with position := body.position + body.velocity * dt.seconds } }

/-- Shifts the bodies that are not fixed to the camera. -/
def translate (environment : Environment) (offset : Vec) : Environment :=
  { environment with
    bodies := environment.bodies.map fun body =>
      if body.cameraRelative then body else { body with position := body.position + offset } }

end Environment

end Sortie
