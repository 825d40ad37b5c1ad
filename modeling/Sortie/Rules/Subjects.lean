import Sortie.Descriptor.Rules
import Sortie.World.Basic

namespace Sortie

/-- A group of spacecraft that a rule is about. It is resolved among the listed spacecraft when it
is first needed and keeps its members from then on, also those that are destroyed or leave. -/
structure SubjectGroup where
  descriptor : SubjectDescriptor := {}
  /-- The members, once they are resolved. -/
  resolved : Option (List Nat) := none

namespace SubjectGroup

/-- Whether the description fits a spacecraft. -/
def describes (descriptor : SubjectDescriptor) (craft : Spacecraft) : Bool :=
  descriptor.spacecrafts.contains craft.id ||
    (craft.squad.any fun squad => descriptor.squads.contains squad.name) ||
    craft.team.any fun team => descriptor.teams.contains team

def has (group : SubjectGroup) (craft : Spacecraft) : Bool := describes group.descriptor craft

/-- Whether an index names a spacecraft of the group. -/
def hasIndex (group : SubjectGroup) (world : World) (index : Nat) : Bool :=
  (world.craft? index).any group.has

def isEmpty (group : SubjectGroup) : Bool := group.descriptor.isEmpty

/-- The listed spacecraft of the group as they are now. -/
def current (group : SubjectGroup) (world : World) : List Nat :=
  world.listed.filter (group.hasIndex world)

/-- Resolves the group anew. -/
def reload (group : SubjectGroup) (world : World) : SubjectGroup :=
  { group with resolved := some (group.current world) }

/-- Resolves the group unless it is resolved. -/
def resolve (group : SubjectGroup) (world : World) : SubjectGroup :=
  match group.resolved with
  | some _ => group
  | none => group.reload world

/-- The members; none before the group is resolved. -/
def members (group : SubjectGroup) : List Nat := group.resolved.getD []

/-- The members as spacecraft. -/
def crafts (group : SubjectGroup) (world : World) : List Spacecraft :=
  group.members.filterMap world.craft?

/-- How many members are alive and have not left by jumping out. -/
def liveCount (group : SubjectGroup) (world : World) : Nat :=
  (group.crafts world).countP fun craft => craft.alive && !craft.departed

/-- How many members are destroyed. -/
def destroyedCount (group : SubjectGroup) (world : World) : Nat :=
  (group.crafts world).countP fun craft => !craft.alive

/-- The first team of a description that does not exist. -/
def unknownTeam? (descriptor : SubjectDescriptor) (world : World) : Option String :=
  descriptor.teams.find? fun team => (world.team? team).isNone

/-- A group all of whose teams exist. -/
def validated (descriptor : SubjectDescriptor) (world : World) : Except ConfigError SubjectGroup :=
  match unknownTeam? descriptor world with
  | some team => .error (.unknownTeam team)
  | none => .ok { descriptor }

/-- The group in words: teams and squads as such, spacecraft by their names. -/
def text (group : SubjectGroup) (world : World) : String :=
  let team (id : String) : String := "team " ++ ((world.team? id).map Team.name).getD id
  let craft (id : String) : String :=
    (((world.findCraft? id).bind world.craft?).map Spacecraft.displayName).getD id
  ", ".intercalate
    (group.descriptor.teams.map team ++ group.descriptor.squads.map ("squad " ++ ·) ++
      group.descriptor.spacecrafts.map craft)

end SubjectGroup

end Sortie
