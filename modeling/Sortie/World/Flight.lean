import Sortie.World.Combat

namespace Sortie.World

/-- Fires the primary weapon, if there is one and it is ready. -/
def fireWeapon (world : World) (index : Nat) : World :=
  match world.craft? index with
  | none => world
  | some craft =>
    match craft.craftClass.weapon with
    | none => world
    | some weapon =>
      if ¬ craft.isPresent ∨ 0 < craft.weaponCooldown then world
      else
        let stats := { craft.stats with shotsFired := craft.stats.shotsFired + 1 }
        let world := world.setCraft index { craft with weaponCooldown := weapon.cooldown, stats }
        let position := craft.position + craft.forward * (craft.radius + 1)
        let velocity := craft.velocity + craft.forward * weapon.projectileSpeed
        let shoot (stale : Projectile) : Projectile :=
          stale.reset index position velocity weapon.damage weapon.projectileLifetime
        { world with pools := (world.pools.renewProjectile shoot).2 }

/-- Launches a missile at the target, if there are both and the launcher is ready. -/
def launchMissile (world : World) (index : Nat) : World :=
  match world.craft? index with
  | none => world
  | some craft =>
    match craft.craftClass.missile, craft.target with
    | some missileClass, some target =>
      if ¬ craft.isPresent ∨ craft.missiles = 0 ∨ 0 < craft.missileCooldown then world
      else
        let world := world.setCraft index
          { craft with
            missiles := craft.missiles - 1
            missileCooldown := missileClass.cooldown }
        let position := craft.position + craft.forward * (craft.radius + missileClass.radius + 1)
        let launch (stale : Missile) : Missile :=
          stale.reset index (some target) position craft.forward missileClass
        { world with pools := (world.pools.renewMissile launch).2 }
    | _, _ => world

/-- Steers a spacecraft as its pilot intends. -/
def steer (world : World) (index : Nat) (intent : Intent) (dt : Scalar) : World :=
  match world.craft? index with
  | none => world
  | some craft => world.setCraft index (craft.steer intent dt)

/-- Does what a pilot intends: target, steer, fire and launch, in this order. -/
def carryOut (world : World) (dt : Scalar) (index : Nat) (intent : Intent) : World :=
  let world := if intent.target.isSome then world.setTarget index intent.target else world
  let world := world.steer index intent dt
  let world := if intent.fire then world.fireWeapon index else world
  if intent.launchMissile then world.launchMissile index else world

/-- One step of a spacecraft, and the way of a jump that it completed. -/
def simulateCraft (world : World) (dt : Scalar) (index : Nat) : Option JumpWay × World :=
  match world.craft? index with
  | none => (none, world)
  | some craft =>
    let (completed, craft) := craft.simulate dt
    (completed, world.setCraft index craft)

/-- One step of some spacecraft in turn, and the way of the jump that each of them completed. -/
def simulateEach (dt : Scalar) : List Nat → World → List (Option JumpWay) × World
  | [], world => ([], world)
  | index :: rest, world =>
    let (completed, world) := world.simulateCraft dt index
    let (others, world) := simulateEach dt rest world
    (completed :: others, world)

/-- One step of all that take part. Those that jumped in can be hit from now on. -/
def simulateCrafts (world : World) (dt : Scalar) : World :=
  let (completed, after) := simulateEach dt world.listed world
  let arrived := (world.listed.zip completed).filter fun craft => craft.2 == some .inward
  ((arrived.map Prod.fst).foldl addHitObject after).prune

end Sortie.World
