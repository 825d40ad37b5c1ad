import Sortie.Spacecraft.Design
import Sortie.Collision
import Sortie.Pool
import Sortie.Team

namespace Sortie

/-- A spark of an explosion. Times are in milliseconds, here and in all that comes and goes during a
mission. -/
structure Particle where
  position : Vec := .zero
  velocity : Vec := .zero
  size : Scalar := 0
  color : Color := ⟨0, 0, 0, 0⟩
  timeLeft : Scalar := 0
  duration : Scalar := 0

namespace Particle

/-- A new spark in place of whatever the particle was: glowing, and opaque. -/
def reset (stale : Particle) (position velocity : Vec) (size duration : Scalar) : Particle :=
  { stale with
    position, velocity, size
    color := ⟨1, 0.8, 0.4, 1⟩
    timeLeft := duration
    duration }

/-- A spark on its own. A mission only renews the sparks of its pools; this one is for those who set
up a scene by hand. -/
def spawn (position velocity : Vec) (size duration : Scalar) : Particle :=
  reset {} position velocity size duration

/-- One when new, zero when spent. -/
def life (particle : Particle) : Scalar :=
  if particle.duration ≤ 0 then 0 else (particle.timeLeft / particle.duration).clampUnit

/-- How opaque the particle is, for those who draw it. -/
def alpha (particle : Particle) : Scalar := particle.color.alpha

/-- Moves for one step and fades: only the opacity of the color changes. -/
def simulate (dt : Scalar) (particle : Particle) : Particle × SlotFate :=
  let moved :=
    { particle with
      position := particle.position + particle.velocity * dt.seconds
      velocity := particle.velocity * (0.98 : Scalar)
      timeLeft := particle.timeLeft - dt }
  let faded := { moved with color := { moved.color with alpha := moved.life } }
  (faded, if faded.timeLeft ≤ 0 then .release else .keep)

end Particle

/-- A shot of a primary weapon, fired by the spacecraft `origin`. -/
structure Projectile where
  origin : Nat := 0
  position : Vec := .zero
  velocity : Vec := .zero
  damage : Scalar := 0
  timeLeft : Scalar := 0

namespace Projectile

/-- A new shot in place of whatever the projectile was. -/
def reset (stale : Projectile) (origin : Nat) (position velocity : Vec)
    (damage lifetime : Scalar) : Projectile :=
  { stale with origin, position, velocity, damage, timeLeft := lifetime }

/-- Moves for one step along the segment that it returns. -/
def advance (projectile : Projectile) (dt : Scalar) : Segment × Projectile :=
  let position := projectile.position + projectile.velocity * dt.seconds
  (⟨projectile.position, position⟩,
    { projectile with position, timeLeft := projectile.timeLeft - dt })

def expired (projectile : Projectile) : Bool := projectile.timeLeft ≤ 0

end Projectile

/-- A homing missile. `trail` is the slot of the trail segment that it lays. -/
structure Missile where
  origin : Nat := 0
  target : Option Nat := none
  position : Vec := .zero
  velocity : Vec := .zero
  speed : Scalar := 0
  turnRate : Scalar := 0
  damage : Scalar := 0
  radius : Scalar := 0
  timeLeft : Scalar := 0
  trail : Option Nat := none
  /-- Until the next point of the trail. -/
  trailTimer : Scalar := 0

namespace Missile

/-- A new missile in place of whatever the missile was. -/
def reset (stale : Missile) (origin : Nat) (target : Option Nat) (position direction : Vec)
    (missileClass : MissileClass) : Missile :=
  { stale with
    origin, target, position
    velocity := direction.unitOrZero * missileClass.speed
    speed := missileClass.speed
    turnRate := missileClass.turnRate
    damage := missileClass.damage
    radius := missileClass.radius
    timeLeft := missileClass.lifetime
    trail := none
    trailTimer := 0 }

/-- A missile on its own, for those who set up a scene by hand. -/
def launch (origin : Nat) (target : Option Nat) (position direction : Vec)
    (missileClass : MissileClass) : Missile :=
  reset {} origin target position direction missileClass

/-- The velocity after a turn toward a point, at most as far as the turn rate allows. -/
def turn (missile : Missile) (aim : Vec) (seconds : Scalar) : Vec :=
  let heading := missile.velocity.unitOrZero
  let wanted := (aim - missile.position).unitOrZero
  if heading.isZero ∨ wanted.isZero then missile.velocity
  else
    let angle := heading.angle wanted
    let most := missile.turnRate * seconds
    let part := if angle ≤ most ∨ angle ≤ Scalar.epsilon then 1 else most / angle
    let direction := (heading.mix wanted part).unitOrZero
    if direction.isZero then missile.velocity else direction * missile.speed

/-- Turns toward the aim and moves for one step along the segment that it returns. -/
def advance (missile : Missile) (aim : Option Vec) (dt : Scalar) : Segment × Missile :=
  let seconds := dt.seconds
  let velocity := match aim with
    | some aim => missile.turn aim seconds
    | none => missile.velocity
  let position := missile.position + velocity * seconds
  (⟨missile.position, position⟩,
    { missile with position, velocity, timeLeft := missile.timeLeft - dt })

def expired (missile : Missile) : Bool := missile.timeLeft ≤ 0

end Missile

/-- The flash of a hit or of a destruction. -/
structure Explosion where
  position : Vec := .zero
  velocity : Vec := .zero
  radius : Scalar := 0
  timeLeft : Scalar := 0
  duration : Scalar := 0

namespace Explosion

/-- How long an explosion lasts. -/
def fullDuration : Scalar := 1200

/-- A new explosion in place of whatever the explosion was. -/
def reset (stale : Explosion) (position velocity : Vec) (radius duration : Scalar) : Explosion :=
  { stale with position, velocity, radius, timeLeft := duration, duration }

def simulate (dt : Scalar) (explosion : Explosion) : Explosion × SlotFate :=
  let moved :=
    { explosion with
      position := explosion.position + explosion.velocity * dt.seconds
      timeLeft := explosion.timeLeft - dt }
  (moved, if moved.timeLeft ≤ 0 then .release else .keep)

end Explosion

/-- A piece of smoke trail. It fades once no missile extends it any more. -/
structure Trail where
  points : Array Vec := #[]
  growing : Bool := false
  timeLeft : Scalar := 0

namespace Trail

/-- The points of a piece before a new one is started. -/
def pointLimit : Nat := 16

/-- How long a piece lasts after it stopped growing. -/
def fullDuration : Scalar := 600

/-- The time between two points. -/
def pointInterval : Scalar := 50

/-- A new piece that starts at a point, in place of whatever the trail was. -/
def reset (stale : Trail) (position : Vec) : Trail :=
  { stale with points := #[position], growing := true, timeLeft := fullDuration }

/-- A piece on its own, for those who set up a scene by hand. -/
def start (position : Vec) : Trail := reset {} position

def extend (trail : Trail) (position : Vec) : Trail :=
  { trail with points := trail.points.push position }

def stop (trail : Trail) : Trail := { trail with growing := false }

def isFull (trail : Trail) : Bool := pointLimit ≤ trail.points.size

def simulate (dt : Scalar) (trail : Trail) : Trail × SlotFate :=
  if trail.growing then (trail, .keep)
  else
    let faded := { trail with timeLeft := trail.timeLeft - dt }
    (faded, if faded.timeLeft ≤ 0 then .release else .keep)

def translate (trail : Trail) (offset : Vec) : Trail :=
  { trail with points := trail.points.map (· + offset) }

end Trail

end Sortie
