import Sortie.Pilot.Basic
import Sortie.Random

namespace Sortie

/-- A pilot that chases the nearest hostile and shoots when lined up. An order to keep a distance
comes before the chase. -/
structure Pursuit where
  random : Random
  /-- The cosine of the widest angle off the facing at which it fires. -/
  fireCone : Scalar := 0.97
  /-- The size of random deviations of the thrust. -/
  jitter : Scalar := 0.1

namespace Pursuit

def ofSeed (seed : UInt64) : Pursuit := { random := .ofSeed seed }

/-- Whether an index names a spacecraft that `craft` may hunt. -/
def huntable (crafts : Array Spacecraft) (craft : Spacecraft) (index : Nat) : Bool :=
  match crafts[index]? with
  | some other => other.isPresent && other.isHostileTo craft
  | none => false

/-- The first of the indices whose spacecraft is nearest. -/
def nearest? (crafts : Array Spacecraft) (place : Vec) (indices : List Nat) : Option Nat :=
  let distances := indices.filterMap fun index =>
    crafts[index]?.map fun other => (index, other.position.distanceSquared place)
  match distances with
  | [] => none
  | first :: rest =>
    let best := rest.foldl (fun best entry => if entry.2 < best.2 then entry else best) first
    some best.1

/-- Listed targets come first if they have priority, then the present one, then the nearest. -/
def pickTarget? (crafts : Array Spacecraft) (self : Nat) (craft : Spacecraft) : Option Nat :=
  let listed :=
    if craft.priorityTargets then craft.targetList.find? (huntable crafts craft) else none
  let present := craft.target.filter (huntable crafts craft)
  let others := (List.range crafts.size).filter fun index =>
    index != self && huntable crafts craft index
  (listed.or present).or (nearest? crafts craft.position others)

/-- The thrust that keeps a distance: away from, toward or along with the anchor. -/
def keepDistance (craft anchor : Spacecraft) (goal : DistanceGoal) : Vec :=
  let offset := anchor.position - craft.position
  let distance := offset.length
  let tooNear := match goal.least with
    | some least => decide (distance < least)
    | none => false
  let tooFar := match goal.most with
    | some most => decide (most < distance)
    | none => false
  if tooNear then -offset.unitOrZero
  else if tooFar then offset.unitOrZero
  else (anchor.velocity - craft.velocity).unitOrZero

/-- Three random components. -/
def noise (random : Random) : Vec × Random :=
  let (x, random) := random.signedUnit
  let (y, random) := random.signedUnit
  let (z, random) := random.signedUnit
  (⟨x, y, z⟩, random)

/-- Chases a target. -/
def chase (pursuit : Pursuit) (craft target : Spacecraft) (index : Nat) : Intent × Pursuit :=
  let offset := target.position - craft.position
  let distance := offset.length
  let direction := offset.unitOrZero
  let wanted := direction * craft.craftClass.maxSpeed
  let thrust := (wanted - craft.velocity).unitOrZero
  let (thrust, random) :=
    if 0 < pursuit.jitter then
      let (noise, random) := noise pursuit.random
      ((thrust + noise * pursuit.jitter).limitLength 1, random)
    else (thrust, pursuit.random)
  let aligned : Bool := pursuit.fireCone ≤ craft.forward.dot direction
  let fire := match craft.craftClass.weapon with
    | some weapon => decide (distance ≤ weapon.range) && aligned && decide (craft.weaponCooldown ≤ 0)
    | none => false
  let launchMissile := match craft.craftClass.missile with
    | some missile =>
      decide (0 < craft.missiles) && decide (craft.missileCooldown ≤ 0) &&
        decide (distance ≤ missile.range * 0.8)
    | none => false
  ({ thrust, facing := direction, target := some index, fire, launchMissile },
    { pursuit with random })

/-- The spacecraft that a distance order names, if it is present. -/
def anchor? (crafts : Array Spacecraft) (craft : Spacecraft) : Option (DistanceGoal × Spacecraft) :=
  match craft.distanceGoal with
  | some goal => (crafts[goal.target]?.filter Spacecraft.isPresent).map (goal, ·)
  | none => none

/-- What spacecraft `self` of the arena does next. -/
def control (pursuit : Pursuit) (self : Nat) (crafts : Array Spacecraft) : Intent × Pursuit :=
  match crafts[self]?.filter Spacecraft.isPresent with
  | none => ({}, pursuit)
  | some craft =>
    match anchor? crafts craft with
    | some (goal, anchor) => ({ thrust := keepDistance craft anchor goal }, pursuit)
    | none =>
      match pickTarget? crafts self craft with
      | none => ({ thrust := -craft.velocity.unitOrZero }, pursuit)
      | some index =>
        match crafts[index]? with
        | some target => pursuit.chase craft target index
        | none => ({}, pursuit)

instance : Pilot Pursuit where
  control pursuit self crafts _ := pursuit.control self crafts

end Pursuit

end Sortie
