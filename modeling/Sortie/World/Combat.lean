import Sortie.World.Basic

namespace Sortie.World

/-- Changes a spacecraft's target, with a notice if it now has another one. -/
def setTarget (world : World) (index : Nat) (target : Option Nat) : World :=
  match world.craft? index with
  | none => world
  | some craft =>
    let (changed, craft) := craft.setTarget target
    let world := world.setCraft index craft
    match target with
    | some target => if changed then world.notify (.targeted target index) else world
    | none => world

/-- Delivers a command to a spacecraft. -/
def dispatch (world : World) (index : Nat) (command : Command) : World :=
  match world.craft? index with
  | none => world
  | some craft =>
    let (target, craft) := craft.obey command
    let world := world.setCraft index craft
    let world := match target with
      | some target => world.notify (.targeted target index)
      | none => world
    world.observe (.command index command)

/-- Whether an attacker is hostile to a victim; `unknown` if one of them is missing. -/
def isHostileAttack (world : World) (attacker : Option Nat) (victim : Nat) (unknown : Bool) :
    Bool :=
  match attacker.bind world.craft?, world.craft? victim with
  | some attacker, some victim => attacker.isHostileTo victim
  | _, _ => unknown

/-- Credits the pilot with damage done to a hostile. -/
def creditDamage (world : World) (attacker : Option Nat) (hostile : Bool)
    (outcome : DamageOutcome) : World :=
  if attacker.isSome ∧ attacker = world.piloted ∧ hostile then
    match attacker with
    | none => world
    | some index =>
      match world.craft? index with
      | none => world
      | some pilot =>
        let stats := pilot.stats
        world.setCraft index
          { pilot with
            stats :=
              { stats with
                damageDealt := stats.damageDealt + (outcome.shieldDamage + outcome.hullDamage)
                kills := if outcome.destroyed then stats.kills + 1 else stats.kills } }
  else world

/-- Whether an attack does nothing: teammates do not harm the pilot unless the difficulty lets
them. -/
def isSpared (world : World) (victim : Spacecraft) (attacker : Option Nat) (hostile : Bool) :
    Bool :=
  victim.piloted && attacker.isSome && !hostile && !world.settings.difficulty.friendlyFire

/-- Damages a spacecraft; it explodes if it is destroyed. The pilot takes damage according to the
difficulty. Nothing happens to the dead and the spared. -/
def applyDamage (world : World) (target : Nat) (amount : Scalar) (attacker : Option Nat) :
    Option DamageOutcome × World :=
  match world.craft? target with
  | none => (none, world)
  | some victim =>
    let hostile := world.isHostileAttack attacker target true
    if ¬ victim.alive ∨ world.isSpared victim attacker hostile then (none, world)
    else
      let amount :=
        if victim.piloted then amount * world.settings.difficulty.damageTaken else amount
      let (outcome, harmed) := victim.damage amount
      let world := (world.setCraft target harmed).notify (.hit target attacker)
      let world := world.creditDamage attacker hostile outcome
      (some outcome,
        if outcome.destroyed then
          { world with
            pools := world.pools.explode victim.position victim.velocity victim.radius
              world.settings.sparks }
        else world)

/-- Shifts the whole scene. -/
def translate (world : World) (offset : Vec) : World :=
  { world with
    crafts := world.crafts.map (·.translate offset)
    pools := world.pools.translate offset
    environment := world.environment.translate offset }

end Sortie.World
