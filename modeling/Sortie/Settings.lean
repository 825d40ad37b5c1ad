import Sortie.Effects.Pools
import Sortie.Text.Blank

namespace Sortie

inductive Quality where
  | low
  | medium
  | high
  deriving DecidableEq, Repr

namespace Quality

def name : Quality → String
  | low => "Low"
  | medium => "Medium"
  | high => "High"

/-- The quality of a name in any case. -/
def ofText? (text : String) : Option Quality :=
  match Text.lower text with
  | "low" => some low
  | "medium" | "med" => some medium
  | "high" => some high
  | _ => none

/-- The sparks of one explosion. -/
def sparks : Quality → Nat
  | low => 4
  | medium => 12
  | high => 24

/-- The pool capacities filled before a mission starts. -/
def poolSizes : Quality → PoolSizes
  | low => ⟨100, 128, 16, 16, 32⟩
  | medium => ⟨500, 256, 32, 32, 96⟩
  | high => ⟨2000, 512, 64, 64, 256⟩

end Quality

inductive Difficulty where
  | easy
  | normal
  | hard
  deriving DecidableEq, Repr

namespace Difficulty

def name : Difficulty → String
  | easy => "easy"
  | normal => "normal"
  | hard => "hard"

/-- The difficulty of a name in any case. -/
def ofText? (text : String) : Option Difficulty :=
  match Text.lower text with
  | "easy" => some easy
  | "normal" => some normal
  | "hard" => some hard
  | _ => none

/-- The factor on damage to the piloted spacecraft. -/
def damageTaken : Difficulty → Scalar
  | easy => 0.5
  | normal => 1
  | hard => 1.5

/-- Whether shots of teammates harm the piloted spacecraft. -/
def friendlyFire : Difficulty → Bool
  | hard => true
  | easy | normal => false

end Difficulty

/-- The settings of a simulation: graphics quality, difficulty and the budgets of the spatial index.
-/
structure Settings where
  quality : Quality := .medium
  difficulty : Difficulty := .normal
  octreeMaxDepth : Nat := 5
  octreeMaxObjects : Nat := 4
  /-- The distance of the camera from the origin beyond which the origin is moved. -/
  originRecenterDistance : Scalar := 5000
  /-- Destroyed spacecraft stay listed, so that all participants number them alike. -/
  multiActor : Bool := false
  /-- Whether explosions throw sparks. -/
  particles : Bool := true

namespace Settings

/-- The settings of a quality, all else as usual, for those who set up a mission by hand. -/
def ofQuality (quality : Quality) : Settings := { quality }

def poolSizes (settings : Settings) : PoolSizes :=
  let sizes := settings.quality.poolSizes
  { sizes with particles := if settings.particles then sizes.particles else 0 }

/-- The sparks of one explosion. -/
def sparks (settings : Settings) : Nat := if settings.particles then settings.quality.sparks else 0

end Settings

end Sortie
