import Sortie.Json.Decoder
import Sortie.Settings

namespace Sortie

open Json Json.Decoder

namespace Quality

/-- The quality of an exact name. -/
def ofName? : String → Option Quality
  | "Low" => some low
  | "Medium" => some medium
  | "High" => some high
  | _ => none

end Quality

namespace Difficulty

/-- The difficulty of an exact name. -/
def ofName? : String → Option Difficulty
  | "easy" => some easy
  | "normal" => some normal
  | "hard" => some hard
  | _ => none

end Difficulty

namespace Settings

def decoder : Decoder Settings :=
  Decoder.record
    [field "quality" (choice Quality.ofName?) fun quality s => { s with quality },
      field "difficulty" (choice Difficulty.ofName?) fun difficulty s => { s with difficulty },
      field "octree_max_depth" count32 fun octreeMaxDepth s => { s with octreeMaxDepth },
      field "octree_max_objects" count64 fun octreeMaxObjects s => { s with octreeMaxObjects },
      field "origin_recenter_distance" scalar fun originRecenterDistance s =>
        { s with originRecenterDistance },
      field "multi_actor" bool fun multiActor s => { s with multiActor },
      field "particles" bool fun particles s => { s with particles }]
    {}

def toValue (settings : Settings) : Value :=
  .object
    [("quality", .text settings.quality.name),
      ("difficulty", .text settings.difficulty.name),
      ("octree_max_depth", .ofNat settings.octreeMaxDepth),
      ("octree_max_objects", .ofNat settings.octreeMaxObjects),
      ("origin_recenter_distance", .ofScalar settings.originRecenterDistance),
      ("multi_actor", .bool settings.multiActor),
      ("particles", .bool settings.particles)]

end Settings

namespace PoolSizes

def decoder : Decoder PoolSizes :=
  Decoder.record
    [required "particles" count64 fun particles s => { s with particles },
      required "projectiles" count64 fun projectiles s => { s with projectiles },
      required "missiles" count64 fun missiles s => { s with missiles },
      required "explosions" count64 fun explosions s => { s with explosions },
      required "trails" count64 fun trails s => { s with trails }]
    ⟨0, 0, 0, 0, 0⟩

end PoolSizes

end Sortie
