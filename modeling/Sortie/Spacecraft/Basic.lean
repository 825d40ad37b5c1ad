import Sortie.Spacecraft.Design
import Sortie.Squad
import Sortie.Team
import Sortie.Vec

namespace Sortie

/-- Where a spacecraft is in the jump sequence. The timers are in milliseconds. -/
inductive JumpState where
  | present
  | leaving (remaining : Scalar)
  | away
  | arriving (remaining : Scalar)

inductive JumpWay where
  | inward
  | outward
  deriving DecidableEq, Repr

/-- The order to keep a distance to another spacecraft. -/
structure DistanceGoal where
  target : Nat
  least : Option Scalar
  most : Option Scalar

inductive Command where
  | jump (way : JumpWay)
  | target (single : Option Nat) (list : List Nat) (priority : Bool)
  | reachDistance (goal : DistanceGoal)

/-- What the score counts. -/
structure CombatStats where
  damageDealt : Scalar := 0
  kills : Nat := 0
  shotsFired : Nat := 0
  hits : Nat := 0

namespace CombatStats

def hitRatio (stats : CombatStats) : Scalar :=
  if stats.shotsFired = 0 then 0
  else Scalar.ofCount stats.hits / Scalar.ofCount stats.shotsFired

end CombatStats

/-- What a hit did. -/
structure DamageOutcome where
  shieldDamage : Scalar
  hullDamage : Scalar
  destroyed : Bool

/-- What a pilot wants in one step. Thrust has at most length one; a zero facing follows the
velocity. -/
structure Intent where
  thrust : Vec := .zero
  facing : Vec := .zero
  target : Option Nat := none
  fire : Bool := false
  launchMissile : Bool := false

/-- A spacecraft of a mission: what it is, where it is, and what it has gone through. Spacecraft are
referred to by their index in the arena, which never changes. -/
structure Spacecraft where
  id : String
  name : Option String := none
  squad : Option Squad := none
  team : Option String := none
  craftClass : CraftClass
  position : Vec := .zero
  velocity : Vec := .zero
  /-- A direction of length one. -/
  forward : Vec := .ahead
  piloted : Bool := false
  hull : Scalar
  shield : Scalar
  hasShield : Bool
  /-- Milliseconds until the shield recharges. -/
  shieldWait : Scalar := 0
  alive : Bool := true
  jump : JumpState := .present
  /-- Whether the last jump that completed led out. -/
  departed : Bool := false
  target : Option Nat := none
  targetList : List Nat := []
  priorityTargets : Bool := false
  distanceGoal : Option DistanceGoal := none
  missiles : Nat
  weaponCooldown : Scalar := 0
  missileCooldown : Scalar := 0
  stats : CombatStats := {}

namespace Spacecraft

/-- Milliseconds that a jump out takes. -/
def jumpOutDuration : Scalar := 1500

/-- Milliseconds that a jump in takes. -/
def jumpInDuration : Scalar := 1000

/-- A spacecraft as it leaves the dock. -/
def ofClass (id : String) (craftClass : CraftClass) (loadout : Loadout) : Spacecraft :=
  let fitted := if loadout.shield then craftClass.shield else none
  { id, craftClass
    hull := craftClass.hull
    shield := (fitted.map ShieldClass.capacity).getD 0
    hasShield := fitted.isSome
    missiles := loadout.missiles }

/-- The name on displays: its own, that of its squad, or its id. -/
def displayName (craft : Spacecraft) : String :=
  match craft.name, craft.squad with
  | some name, _ => name
  | none, some squad => squad.text
  | none, none => craft.id

def radius (craft : Spacecraft) : Scalar := craft.craftClass.radius

/-- The part of the hull that is left, from zero to one. -/
def hullIntegrity (craft : Spacecraft) : Scalar :=
  if craft.craftClass.hull ≤ 0 then 0 else (craft.hull / craft.craftClass.hull).clampUnit

/-- The part of the shield that is left, from zero to one. -/
def shieldIntegrity (craft : Spacecraft) : Scalar :=
  match craft.craftClass.shield with
  | some shield =>
    if craft.hasShield ∧ 0 < shield.capacity then (craft.shield / shield.capacity).clampUnit else 0
  | none => 0

/-- Outside the battle space. One that is still jumping out is not away yet. -/
def isAway (craft : Spacecraft) : Bool :=
  match craft.jump with
  | .away | .arriving _ => true
  | .present | .leaving _ => false

/-- Alive and in the battle space. -/
def isPresent (craft : Spacecraft) : Bool := craft.alive && !craft.isAway

/-- Two spacecraft are friendly only if both are on the same team. -/
def isHostileTo (craft other : Spacecraft) : Bool :=
  match craft.team, other.team with
  | some team, some otherTeam => team != otherTeam
  | _, _ => true

def setAway (craft : Spacecraft) : Spacecraft := { craft with jump := .away }

def translate (craft : Spacecraft) (offset : Vec) : Spacecraft :=
  { craft with position := craft.position + offset }

/-- Damage to the shield first, then to the hull. The dead take none. -/
def damage (craft : Spacecraft) (amount : Scalar) : DamageOutcome × Spacecraft :=
  if ¬ craft.alive ∨ amount ≤ 0 then (⟨0, 0, false⟩, craft)
  else
    let shieldDamage := if craft.hasShield then amount.min craft.shield else 0
    let hullDamage := (amount - shieldDamage).min craft.hull
    let hull := craft.hull - hullDamage
    let destroyed : Bool := hull ≤ 0
    let wait := match craft.craftClass.shield with
      | some shield => shield.rechargeDelay
      | none => craft.shieldWait
    (⟨shieldDamage, hullDamage, destroyed⟩,
      { craft with
        shield := craft.shield - shieldDamage
        shieldWait := wait
        hull
        alive := !destroyed
        velocity := if destroyed then .zero else craft.velocity })

/-- A new target, if that differs from the present one. -/
def setTarget (craft : Spacecraft) (target : Option Nat) : Bool × Spacecraft :=
  if craft.target = target then (false, craft) else (true, { craft with target })

/-- Carries out a command. The answer is the target if it changed to one. -/
def obey (craft : Spacecraft) : Command → Option Nat × Spacecraft
  | .jump .outward =>
    match craft.jump with
    | .present =>
      (none, if craft.alive then { craft with jump := .leaving jumpOutDuration } else craft)
    | _ => (none, craft)
  | .jump .inward =>
    match craft.jump with
    | .away => (none, if craft.alive then { craft with jump := .arriving jumpInDuration } else craft)
    | _ => (none, craft)
  | .target single list priority =>
    let craft := { craft with targetList := list, priorityTargets := priority }
    match single.or list.head? with
    | none => (none, craft)
    | some next =>
      let (changed, craft) := craft.setTarget (some next)
      (if changed then some next else none, craft)
  | .reachDistance goal => (none, { craft with distanceGoal := some goal })

/-- Steers for one step. Only a spacecraft in the battle space does. -/
def steer (craft : Spacecraft) (intent : Intent) (dt : Scalar) : Spacecraft :=
  if ¬ craft.isPresent then craft
  else
    let thrust := intent.thrust.limitLength 1
    let velocity := craft.velocity + thrust * craft.craftClass.acceleration * dt.seconds
    let velocity := velocity.limitLength craft.craftClass.maxSpeed
    let forward := (intent.facing.unit?.or velocity.unit?).getD craft.forward
    { craft with velocity, forward }

/-- The jump after `dt` milliseconds, and the way of the jump if it completed. -/
def advanceJump (craft : Spacecraft) (dt : Scalar) : Option JumpWay × Spacecraft :=
  match craft.jump with
  | .leaving remaining =>
    if remaining - dt ≤ 0 then (some .outward, { craft with jump := .away, departed := true })
    else (none, { craft with jump := .leaving (remaining - dt) })
  | .arriving remaining =>
    if remaining - dt ≤ 0 then (some .inward, { craft with jump := .present, departed := false })
    else (none, { craft with jump := .arriving (remaining - dt) })
  | .present | .away => (none, craft)

/-- The shield after `dt` milliseconds: first the delay runs out, then it recharges. -/
def recharge (craft : Spacecraft) (dt : Scalar) : Spacecraft :=
  match craft.craftClass.shield with
  | some shield =>
    if ¬ craft.hasShield then craft
    else if 0 < craft.shieldWait then
      { craft with shieldWait := (craft.shieldWait - dt).orZero }
    else
      { craft with
        shield := (craft.shield + shield.rechargeRate * dt.seconds).min shield.capacity }
  | none => craft

/-- Timers and motion of one step, and the way of a jump that completed in it. The dead stay as
they are. -/
def simulate (craft : Spacecraft) (dt : Scalar) : Option JumpWay × Spacecraft :=
  if ¬ craft.alive then (none, craft)
  else
    let craft :=
      { craft with
        weaponCooldown := (craft.weaponCooldown - dt).orZero
        missileCooldown := (craft.missileCooldown - dt).orZero }
    let (completed, craft) := (craft.recharge dt).advanceJump dt
    (completed,
      if craft.isPresent then
        { craft with position := craft.position + craft.velocity * dt.seconds }
      else craft)

end Spacecraft

end Sortie
