import Sortie.Json.Decoder
import Sortie.Spacecraft.Design

namespace Sortie

open Json Json.Decoder

namespace WeaponClass

def decoder : Decoder WeaponClass :=
  Decoder.record
    [field "damage" scalar fun damage w => { w with damage },
      field "projectileSpeed" scalar fun projectileSpeed w => { w with projectileSpeed },
      field "cooldown" scalar fun cooldown w => { w with cooldown },
      field "projectileLifetime" scalar fun projectileLifetime w => { w with projectileLifetime }]
    {}

end WeaponClass

namespace MissileClass

def decoder : Decoder MissileClass :=
  Decoder.record
    [field "damage" scalar fun damage m => { m with damage },
      field "speed" scalar fun speed m => { m with speed },
      field "turnRate" scalar fun turnRate m => { m with turnRate },
      field "lifetime" scalar fun lifetime m => { m with lifetime },
      field "cooldown" scalar fun cooldown m => { m with cooldown },
      field "radius" scalar fun radius m => { m with radius }]
    {}

end MissileClass

namespace ShieldClass

def decoder : Decoder ShieldClass :=
  Decoder.record
    [field "capacity" scalar fun capacity s => { s with capacity },
      field "rechargeRate" scalar fun rechargeRate s => { s with rechargeRate },
      field "rechargeDelay" scalar fun rechargeDelay s => { s with rechargeDelay }]
    {}

end ShieldClass

namespace Loadout

def decoder : Decoder Loadout :=
  Decoder.record
    [field "missiles" count32 fun missiles l => { l with missiles },
      field "shield" bool fun shield l => { l with shield }]
    {}

end Loadout

namespace CraftClass

def decoder : Decoder CraftClass :=
  Decoder.record
    [field "name" string fun name c => { c with name },
      field "hull" scalar fun hull c => { c with hull },
      field "radius" scalar fun radius c => { c with radius },
      field "maxSpeed" scalar fun maxSpeed c => { c with maxSpeed },
      field "acceleration" scalar fun acceleration c => { c with acceleration },
      field "shield" (optional ShieldClass.decoder) fun shield c => { c with shield },
      field "weapon" (optional WeaponClass.decoder) fun weapon c => { c with weapon },
      field "missile" (optional MissileClass.decoder) fun missile c => { c with missile },
      field "loadouts" (table Loadout.decoder) fun loadouts c => { c with loadouts },
      field "defaultLoadout" (optional string) fun defaultLoadout c => { c with defaultLoadout }]
    {}

end CraftClass

namespace Catalog

def decoder : Decoder Catalog :=
  Decoder.record [required "classes" (table CraftClass.decoder) fun classes c => { c with classes }]
    {}

/-- The catalog of a text, each class under the name that lists it. -/
def ofText (text : String) : Except Problem Catalog := (Decoder.run decoder text).map named

end Catalog

end Sortie
