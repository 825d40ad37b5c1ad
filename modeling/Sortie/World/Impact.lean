import Sortie.Octree
import Sortie.World.Combat

namespace Sortie

/-- The spacecraft in space, as they are indexed anew in every step. `owners` names the spacecraft
of each sphere. -/
structure Targets where
  owners : Array Nat
  tree : Octree

namespace Targets

/-- The index of some spacecraft and their spheres. -/
def ofBalls (entries : List (Nat × Ball)) (depth capacity : Nat) : Targets :=
  ⟨(entries.map Prod.fst).toArray,
    Octree.build (entries.map Prod.snd).toArray depth capacity⟩

/-- The place of a spacecraft, if it is indexed. -/
def position? (targets : Targets) (craft : Nat) : Option Vec :=
  match targets.owners.findIdx? (· == craft) with
  | none => none
  | some slot => targets.tree.balls[slot]?.map Ball.position

/-- Where on its way a segment enters the sphere of a slot, grown by `reach`. -/
def impact? (targets : Targets) (segment : Segment) (reach : Scalar) (slot : Nat) :
    Option Scalar :=
  match targets.tree.balls[slot]? with
  | none => none
  | some ball => segment.impact? ball.position (ball.radius + reach)

/-- The nearer of what was hit so far and what a slot holds. The first of equals counts. -/
def nearer (targets : Targets) (segment : Segment) (reach : Scalar) (shooter : Nat)
    (nearest : Option (Nat × Scalar)) (slot : Nat) : Option (Nat × Scalar) :=
  match targets.owners[slot]? with
  | none => nearest
  | some craft =>
    if craft = shooter then nearest
    else
      match targets.impact? segment reach slot with
      | none => nearest
      | some part =>
        match nearest with
        | none => some (craft, part)
        | some (_, best) => if part < best then some (craft, part) else nearest

/-- The box around the way of something that reaches as far as `reach`. -/
def sweptBox (segment : Segment) (reach : Scalar) : Box :=
  let pad := Vec.splat reach
  ⟨segment.start.min segment.finish - pad, segment.start.max segment.finish + pad⟩

/-- The spacecraft that is hit first, other than the shooter, and where on the way. -/
def firstHit? (targets : Targets) (segment : Segment) (reach : Scalar) (shooter : Nat) :
    Option (Nat × Scalar) :=
  let visitor (nearest : Option (Nat × Scalar)) (slot : Nat) : Visit (Option (Nat × Scalar)) :=
    .next (targets.nearer segment reach shooter nearest slot)
  (targets.tree.visit (sweptBox segment reach) visitor none).state

end Targets

/-- A projectile or missile that struck a spacecraft. -/
structure Impact where
  target : Nat
  origin : Nat
  damage : Scalar
  point : Vec
  /-- A hit of a primary weapon, which counts for the hit ratio. -/
  fromWeapon : Bool

namespace Missile

/-- Lays a point of smoke behind the missile when one is due, in a new piece of trail if the present
one is full. -/
def layTrail (missile : Missile) (trails : Pool Trail) (dt : Scalar) : Missile × Pool Trail :=
  let missile := { missile with trailTimer := missile.trailTimer - dt }
  if 0 < missile.trailTimer then (missile, trails)
  else
    let missile := { missile with trailTimer := Trail.pointInterval }
    let start (trails : Pool Trail) : Missile × Pool Trail :=
      let (slot, trails) := trails.renew {} (·.reset missile.position)
      ({ missile with trail := some slot }, trails)
    match missile.trail with
    | none => start trails
    | some slot =>
      match trails.get? slot with
      | none => start trails
      | some trail =>
        if trail.isFull then start (trails.set slot trail.stop)
        else (missile, trails.set slot (trail.extend missile.position))

/-- Ends the trail of a missile that is gone. -/
def dropTrail (missile : Missile) (trails : Pool Trail) : Missile × Pool Trail :=
  ({ missile with trail := none },
    match missile.trail with
    | none => trails
    | some slot => trails.modify slot Trail.stop)

end Missile

namespace World

/-- Two different spacecraft. -/
def pair? (world : World) (first second : Nat) : Option (Spacecraft × Spacecraft) :=
  if first = second then none
  else
    match world.craft? first, world.craft? second with
    | some one, some other => some (one, other)
    | _, _ => none

/-- How much of its closing speed a collision gives back. -/
def bounce : Scalar := 0.3

/-- The damage of a collision for each metre per second. -/
def crashDamage : Scalar := 0.5

/-- Pushes two spacecraft apart that overlap; both take damage if they were closing. -/
def collide (world : World) (first second : Nat) : World :=
  match world.pair? first second with
  | none => world
  | some (one, other) =>
    let contact := Contact.ofSpheres one.position one.radius other.position other.radius
    if ¬ one.isPresent ∨ ¬ other.isPresent ∨ ¬ contact.hit then world
    else
      let (closing, oneMotion, otherMotion) :=
        contact.resolve ⟨one.position, one.velocity⟩ ⟨other.position, other.velocity⟩ bounce
      let moved (craft : Spacecraft) (motion : Motion) : Spacecraft :=
        { craft with position := motion.position, velocity := motion.velocity }
      let world := (world.setCraft first (moved one oneMotion)).setCraft second
        (moved other otherMotion)
      if 0 < closing then
        let damage := closing * crashDamage
        let world := (world.applyDamage first damage (some second)).2
        (world.applyDamage second damage (some first)).2
      else world

/-- Each two of some indices, in order. -/
def pairs : List Nat → List (Nat × Nat)
  | [] => []
  | first :: rest => rest.map (first, ·) ++ pairs rest

def resolveCollisions (world : World) : World :=
  (pairs world.hitObjects).foldl (fun world (first, second) => world.collide first second) world

/-- The index of the spacecraft that can be hit. -/
def targets (world : World) : Targets :=
  let entries := world.hitObjects.filterMap fun index =>
    ((world.craft? index).filter Spacecraft.isPresent).map fun craft =>
      (index, (⟨craft.position, craft.radius⟩ : Ball))
  .ofBalls entries world.settings.octreeMaxDepth world.settings.octreeMaxObjects

/-- One step of a projectile among the targets. -/
def flyProjectile (targets : Targets) (dt : Scalar) (impacts : Array Impact) (_slot : Nat)
    (projectile : Projectile) : Array Impact × Projectile × SlotFate :=
  let (segment, projectile) := projectile.advance dt
  match targets.firstHit? segment 0 projectile.origin with
  | some (target, part) =>
    let point := segment.start.mix segment.finish part
    (impacts.push ⟨target, projectile.origin, projectile.damage, point, true⟩, projectile,
      .release)
  | none => (impacts, projectile, if projectile.expired then .release else .keep)

/-- One step of a missile among the targets. It follows its target as long as that can be hit. -/
def flyMissile (targets : Targets) (dt : Scalar) (gathered : Array Impact × Pool Trail)
    (_slot : Nat) (missile : Missile) : (Array Impact × Pool Trail) × Missile × SlotFate :=
  let (impacts, trails) := gathered
  let (segment, missile) := missile.advance (missile.target.bind targets.position?) dt
  let (missile, trails) := missile.layTrail trails dt
  match targets.firstHit? segment missile.radius missile.origin with
  | some (target, part) =>
    let point := segment.start.mix segment.finish part
    let (missile, trails) := missile.dropTrail trails
    ((impacts.push ⟨target, missile.origin, missile.damage, point, false⟩, trails), missile,
      .release)
  | none =>
    if missile.expired then
      let (missile, trails) := missile.dropTrail trails
      ((impacts, trails), missile, .release)
    else ((impacts, trails), missile, .keep)

/-- Moves all projectiles and then all missiles, and gathers their impacts. -/
def flyShots (world : World) (dt : Scalar) : Array Impact × World :=
  let targets := world.targets
  let pools := world.pools
  let (impacts, projectiles) := pools.projectiles.sweep (flyProjectile targets dt) #[]
  let ((impacts, trails), missiles) :=
    pools.missiles.sweep (flyMissile targets dt) (impacts, pools.trails)
  (impacts, { world with pools := { pools with projectiles, missiles, trails } })

/-- The radius of the flash where a shot lands. -/
def flashRadius : Scalar := 2

/-- Counts a hit of the pilot's primary weapon on a hostile. -/
def countHit (world : World) (impact : Impact) (hostile : Bool) : World :=
  if impact.fromWeapon ∧ hostile ∧ world.piloted = some impact.origin then
    match world.craft? impact.origin with
    | none => world
    | some pilot =>
      let stats := { pilot.stats with hits := pilot.stats.hits + 1 }
      world.setCraft impact.origin { pilot with stats }
  else world

/-- Does the damage of an impact. A shot that does not destroy its target leaves a flash. -/
def strike (world : World) (impact : Impact) : World :=
  let hostile := world.isHostileAttack (some impact.origin) impact.target false
  match world.applyDamage impact.target impact.damage (some impact.origin) with
  | (none, world) => world
  | (some outcome, world) =>
    let world := world.countHit impact hostile
    if outcome.destroyed then world
    else { world with pools := world.pools.explode impact.point .zero flashRadius 0 }

/-- One step of all projectiles and missiles. -/
def simulateWeapons (world : World) (dt : Scalar) : World :=
  let (impacts, world) := world.flyShots dt
  impacts.foldl strike world

end World

end Sortie
