import Sortie.Rules.Subjects

namespace Sortie

/-- The names that rules use. They are looked up once, when the rules are built. -/
structure Names where
  /-- The world with all spacecraft and teams of the mission. -/
  world : World
  /-- The names of the events, of which the first one counts. -/
  events : List String

namespace Names

def craft (names : Names) (id : String) : Except ConfigError Nat :=
  match names.world.findCraft? id with
  | some index => .ok index
  | none => .error (.unknownSpacecraft id)

def team (names : Names) (id : String) : Except ConfigError Team :=
  match names.world.team? id with
  | some team => .ok team
  | none => .error (.unknownTeam id)

def event (names : Names) (name : String) : Except ConfigError Nat :=
  match names.events.findIdx? (· == name) with
  | some index => .ok index
  | none => .error (.unknownEvent name)

/-- The first spacecraft of a description that does not exist. -/
def unknownCraft? (names : Names) (descriptor : SubjectDescriptor) : Option String :=
  descriptor.spacecrafts.find? fun id => (names.world.findCraft? id).isNone

/-- The group of a description that must not be empty, and whose spacecraft and teams must exist. -/
def subjects (names : Names) (kind : String) (descriptor : SubjectDescriptor) :
    Except ConfigError SubjectGroup :=
  if descriptor.isEmpty then .error (.invalidParams kind "no subjects given")
  else
    match names.unknownCraft? descriptor with
    | some id => .error (.unknownSpacecraft id)
    | none => SubjectGroup.validated descriptor names.world

end Names

end Sortie
