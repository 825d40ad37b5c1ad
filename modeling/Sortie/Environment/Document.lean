import Sortie.Environment
import Sortie.Json.Decoder

namespace Sortie

open Json Json.Decoder

/-- An environment that a mission describes in place. -/
structure EnvironmentDescriptor where
  name : String := ""
  bodies : List EnvironmentBody := []

namespace EnvironmentBody

def decoder : Decoder EnvironmentBody :=
  Decoder.record
    [field "name" string fun name b => { b with name },
      field "position" vec fun position b => { b with position },
      field "velocity" vec fun velocity b => { b with velocity },
      field "cameraRelative" bool fun cameraRelative b => { b with cameraRelative }]
    {}

def toValue (body : EnvironmentBody) : Value :=
  .object
    [("name", .text body.name), ("position", .ofVec body.position),
      ("velocity", .ofVec body.velocity), ("cameraRelative", .bool body.cameraRelative)]

end EnvironmentBody

namespace EnvironmentDescriptor

def decoder : Decoder EnvironmentDescriptor :=
  Decoder.record
    [field "name" string fun name e => { e with name },
      field "bodies" (list EnvironmentBody.decoder) fun bodies e => { e with bodies }]
    {}

def toValue (descriptor : EnvironmentDescriptor) : Value :=
  .object
    [("name", .text descriptor.name),
      ("bodies", .list (descriptor.bodies.map EnvironmentBody.toValue))]

/-- The environment at the start of a mission. -/
def environment (descriptor : EnvironmentDescriptor) : Environment :=
  { name := descriptor.name, bodies := descriptor.bodies }

end EnvironmentDescriptor

end Sortie
