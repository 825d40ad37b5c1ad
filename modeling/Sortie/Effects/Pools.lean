import Sortie.Effects.Basic

namespace Sortie

/-- The capacities that are filled in advance. -/
structure PoolSizes where
  particles : Nat
  projectiles : Nat
  missiles : Nat
  explosions : Nat
  trails : Nat
  deriving DecidableEq, Repr

/-- The pools of all transient things. They outlive a mission: only their slots cycle between locked
and free. -/
structure Pools where
  particles : Pool Particle := .empty "particles"
  projectiles : Pool Projectile := .empty "projectiles"
  missiles : Pool Missile := .empty "missiles"
  explosions : Pool Explosion := .empty "explosions"
  trails : Pool Trail := .empty "trails"

namespace Pools

def prefill (pools : Pools) (sizes : PoolSizes) : Pools where
  particles := pools.particles.prefill sizes.particles {}
  projectiles := pools.projectiles.prefill sizes.projectiles {}
  missiles := pools.missiles.prefill sizes.missiles {}
  explosions := pools.explosions.prefill sizes.explosions {}
  trails := pools.trails.prefill sizes.trails {}

def releaseAll (pools : Pools) : Pools where
  particles := pools.particles.releaseAll
  projectiles := pools.projectiles.releaseAll
  missiles := pools.missiles.releaseAll
  explosions := pools.explosions.releaseAll
  trails := pools.trails.releaseAll

/-- Locked and total slots of every kind. -/
def telemetry (pools : Pools) : String :=
  ", ".intercalate
    [pools.particles.telemetry, pools.projectiles.telemetry, pools.missiles.telemetry,
      pools.explosions.telemetry, pools.trails.telemetry]

/-- Shifts everything that is live. -/
def translate (pools : Pools) (offset : Vec) : Pools where
  particles := pools.particles.mapLocked fun p => { p with position := p.position + offset }
  projectiles := pools.projectiles.mapLocked fun p => { p with position := p.position + offset }
  missiles := pools.missiles.mapLocked fun m => { m with position := m.position + offset }
  explosions := pools.explosions.mapLocked fun e => { e with position := e.position + offset }
  trails := pools.trails.mapLocked (·.translate offset)

def renewProjectile (pools : Pools) (reset : Projectile → Projectile) : Nat × Pools :=
  let (index, projectiles) := pools.projectiles.renew {} reset
  (index, { pools with projectiles })

def renewMissile (pools : Pools) (reset : Missile → Missile) : Nat × Pools :=
  let (index, missiles) := pools.missiles.renew {} reset
  (index, { pools with missiles })

def renewParticle (pools : Pools) (reset : Particle → Particle) : Nat × Pools :=
  let (index, particles) := pools.particles.renew {} reset
  (index, { pools with particles })

def renewExplosion (pools : Pools) (reset : Explosion → Explosion) : Nat × Pools :=
  let (index, explosions) := pools.explosions.renew {} reset
  (index, { pools with explosions })

/-- A mission renews its trails in their own pool; this is for those who hold all pools. -/
def renewTrail (pools : Pools) (reset : Trail → Trail) : Nat × Pools :=
  let (index, trails) := pools.trails.renew {} reset
  (index, { pools with trails })

/-- Adds an object as it is, for those who set up a scene by hand, as the three functions below do.
In a mission the object that is left in the slot is renewed. -/
def addProjectile (pools : Pools) (projectile : Projectile) : Nat × Pools :=
  pools.renewProjectile fun _ => projectile

def addMissile (pools : Pools) (missile : Missile) : Nat × Pools :=
  pools.renewMissile fun _ => missile

def addParticle (pools : Pools) (particle : Particle) : Nat × Pools :=
  pools.renewParticle fun _ => particle

def addTrail (pools : Pools) (trail : Trail) : Nat × Pools :=
  pools.renewTrail fun _ => trail

/-- The angle between two turns that spreads points evenly: a circle in golden section. -/
def goldenAngle : Scalar := Scalar.pi * (3 - Float32.sqrt 5)

/-- The direction of one spark of many, spread evenly over a sphere. -/
def sparkDirection (index count : Nat) : Vec :=
  let y := 1 - (Scalar.ofCount index + 0.5) / Scalar.ofCount count * 2
  let ring := (Scalar.orZero (1 - y * y)).sqrt
  let theta := goldenAngle * Scalar.ofCount index
  ⟨theta.cos * ring, y, theta.sin * ring⟩

/-- An explosion with sparks that fly off evenly to all sides. -/
def explode (pools : Pools) (position velocity : Vec) (radius : Scalar) (sparks : Nat) : Pools :=
  let pools :=
    (pools.renewExplosion (·.reset position velocity radius Explosion.fullDuration)).2
  (List.range sparks).foldl (fun pools index =>
    let direction := sparkDirection index sparks
    let fling (stale : Particle) : Particle :=
      stale.reset position (velocity + direction * radius * (2 : Scalar)) (radius * 0.1)
        (Explosion.fullDuration * 0.75)
    (pools.renewParticle fling).2) pools

/-- Explosions, particles and trails run for one step. -/
def simulateEffects (pools : Pools) (dt : Scalar) : Pools :=
  { pools with
    explosions := pools.explosions.update (Explosion.simulate dt)
    particles := pools.particles.update (Particle.simulate dt)
    trails := pools.trails.update (Trail.simulate dt) }

end Pools

end Sortie
