import Sortie.Table
import Sortie.ConfigError
import Sortie.Scalar

namespace Sortie

structure WeaponClass where
  damage : Scalar := 10
  /-- In metres per second. -/
  projectileSpeed : Scalar := 800
  /-- Milliseconds between shots. -/
  cooldown : Scalar := 250
  /-- Milliseconds that a projectile lives. -/
  projectileLifetime : Scalar := 1500

namespace WeaponClass

/-- How far a projectile flies. -/
def range (weapon : WeaponClass) : Scalar :=
  weapon.projectileSpeed * weapon.projectileLifetime.seconds

end WeaponClass

structure MissileClass where
  damage : Scalar := 60
  /-- In metres per second. -/
  speed : Scalar := 300
  /-- In radians per second. -/
  turnRate : Scalar := 2
  /-- In milliseconds. -/
  lifetime : Scalar := 8000
  /-- Milliseconds between launches. -/
  cooldown : Scalar := 2000
  /-- How near a missile must come to go off. -/
  radius : Scalar := 2

namespace MissileClass

/-- How far a missile flies. -/
def range (missile : MissileClass) : Scalar := missile.speed * missile.lifetime.seconds

end MissileClass

structure ShieldClass where
  capacity : Scalar := 50
  /-- Points per second. -/
  rechargeRate : Scalar := 10
  /-- Milliseconds after a hit before recharging starts. -/
  rechargeDelay : Scalar := 2000

/-- A named variant of equipment. A shield is fitted only if the class has one too. -/
structure Loadout where
  missiles : Nat := 0
  shield : Bool := false

/-- The static description of a kind of spacecraft: its hull, drive, shield, weapons and the named
loadouts it can start with. -/
structure CraftClass where
  name : String := "generic"
  hull : Scalar := 100
  radius : Scalar := 10
  /-- In metres per second. -/
  maxSpeed : Scalar := 100
  /-- In metres per second squared. -/
  acceleration : Scalar := 60
  shield : Option ShieldClass := none
  weapon : Option WeaponClass := some {}
  missile : Option MissileClass := none
  loadouts : Table Loadout := []
  defaultLoadout : Option String := none

namespace CraftClass

/-- The loadout of a name, or of the class's default; without either, whatever the class has. -/
def loadout (craftClass : CraftClass) (name : Option String) : Except ConfigError Loadout :=
  match name.or craftClass.defaultLoadout with
  | none => .ok { missiles := 0, shield := craftClass.shield.isSome }
  | some name =>
    match Table.find? name craftClass.loadouts with
    | some loadout => .ok loadout
    | none => .error (.unknownLoadout craftClass.name name)

end CraftClass

/-- The classes a mission can use, by name. -/
structure Catalog where
  classes : Table CraftClass := []

namespace Catalog

def get (catalog : Catalog) (name : String) : Except ConfigError CraftClass :=
  match Table.find? name catalog.classes with
  | some craftClass => .ok craftClass
  | none => .error (.unknownClass name)

def fighter : CraftClass where
  name := "fighter"
  hull := 100
  radius := 8
  maxSpeed := 150
  acceleration := 80
  shield := some {}
  weapon := some {}
  missile := some {}
  loadouts := Table.ofEntries
    [("strike", { missiles := 4, shield := true }), ("light", { missiles := 0, shield := false })]
  defaultLoadout := some "strike"

def interceptor : CraftClass where
  name := "interceptor"
  hull := 60
  radius := 6
  maxSpeed := 220
  acceleration := 120
  weapon := some { damage := 6, cooldown := 150 }

def frigate : CraftClass where
  name := "frigate"
  hull := 2000
  radius := 60
  maxSpeed := 30
  acceleration := 5
  shield := some { capacity := 500, rechargeRate := 25, rechargeDelay := 4000 }
  weapon := some
    { damage := 25, projectileSpeed := 600, cooldown := 600, projectileLifetime := 3000 }

/-- Two fighters and a capital ship. -/
def standard : Catalog where
  classes := Table.ofEntries
    [("fighter", fighter), ("interceptor", interceptor), ("frigate", frigate)]

/-- Each class takes the name under which the catalog lists it. -/
def named (catalog : Catalog) : Catalog where
  classes := catalog.classes.map fun entry => (entry.1, { entry.2 with name := entry.1 })

end Catalog

end Sortie
