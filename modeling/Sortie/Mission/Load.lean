import Sortie.Descriptor.Mission
import Sortie.Rules.Build

namespace Sortie

/-- A mission before it starts. No problem stops the loading: what cannot be built is left out or
replaced, and reported. -/
structure LoadedMission where
  world : World
  events : List Event
  diagnostics : Diagnostics

namespace LoadedMission

/-- The class of a name; an unknown one is generic but for the name. -/
def classOf (catalog : Catalog) (name : String) : CraftClass × Diagnostics :=
  match catalog.get name with
  | .ok craftClass => (craftClass, [])
  | .error error => ({ name }, [error])

/-- The loadout of a name; instead of an unknown one, the default, if that is known. -/
def loadoutOf (craftClass : CraftClass) (name : Option String) : Loadout × Diagnostics :=
  match craftClass.loadout name with
  | .ok loadout => (loadout, [])
  | .error error =>
    match craftClass.loadout none with
    | .ok loadout => (loadout, [error])
    | .error _ => ({}, [error])

/-- The team that a spacecraft joins. If the mission lists no teams, a new one is added to the
world; otherwise an unknown team is not joined. -/
def teamOf (implicitTeams : Bool) (world : World) :
    Option String → Option String × World × Diagnostics
  | none => (none, world, [])
  | some team =>
    if (world.team? team).isSome then (some team, world, [])
    else if implicitTeams then (some team, world.addTeam (.ofId team), [])
    else (none, world, [.unknownTeam team])

/-- Whether a spacecraft with this id is the pilot's. Only the first that asks for it is. -/
def pilotedOf (world : World) (id : String) (asked : Bool) : Bool × Diagnostics :=
  if ¬ asked then (false, [])
  else if world.piloted.isSome then (false, [.multiplePiloted id])
  else (true, [])

/-- Adds a described spacecraft to the world. It faces where it flies. -/
def recruit (catalog : Catalog) (implicitTeams : Bool) (world : World)
    (descriptor : CraftDescriptor) : World × Diagnostics :=
  let (craftClass, classProblems) := classOf catalog descriptor.craftClass
  let (loadout, loadoutProblems) := loadoutOf craftClass descriptor.loadout
  let id := descriptor.label.getD ("spacecraft " ++ toString world.crafts.size)
  let (team, world, teamProblems) := teamOf implicitTeams world descriptor.team
  let (piloted, pilotProblems) := pilotedOf world id descriptor.piloted
  let docked := Spacecraft.ofClass id craftClass loadout
  let craft :=
    { docked with
      name := descriptor.name
      squad := descriptor.squad.map Squad.parse
      team
      position := descriptor.position.getD .zero
      velocity := descriptor.velocity
      forward := descriptor.velocity.unit?.getD docked.forward
      piloted }
  let craft := if descriptor.away then craft.setAway else craft
  (world.addCraft craft, classProblems ++ loadoutProblems ++ teamProblems ++ pilotProblems)

def recruitAll (catalog : Catalog) (implicitTeams : Bool) :
    World → List CraftDescriptor → World × Diagnostics
  | world, [] => (world, [])
  | world, descriptor :: rest =>
    let (world, problems) := recruit catalog implicitTeams world descriptor
    let (world, others) := recruitAll catalog implicitTeams world rest
    (world, problems ++ others)

/-- The names of the events; those without a name are called by their index. -/
def eventNames (events : List EventDescriptor) : List String :=
  events.mapIdx fun index event => event.name.getD ("event " ++ toString index)

/-- The reports on names that an earlier event has. -/
def duplicates (earlier : List String) : List String → Diagnostics
  | [] => []
  | name :: rest =>
    (if earlier.contains name then [.duplicateEvent name] else []) ++
      duplicates (name :: earlier) rest

def buildEvents (names : Names) : List String → List EventDescriptor → List Event × Diagnostics
  | name :: others, descriptor :: rest =>
    let (event, problems) := Event.ofDescriptor names name descriptor
    let (events, reports) := buildEvents names others rest
    (event :: events, problems ++ reports)
  | _, _ => ([], [])

/-- The world with the listed teams, but without spacecraft. -/
def emptyWorld (mission : MissionDescriptor) (settings : Settings) (pools : Pools) : World :=
  let world : World := { settings, environment := mission.environment.environment, pools }
  (mission.teams.map TeamDescriptor.team).foldl World.addTeam world

/-- Builds a mission. -/
def ofDescriptor (mission : MissionDescriptor) (catalog : Catalog) (settings : Settings)
    (pools : Pools) : LoadedMission :=
  let entryProblems := CraftEntry.problemsOfAll mission.spacecrafts
  let (world, craftProblems) := recruitAll catalog mission.teams.isEmpty
    (emptyWorld mission settings pools) (CraftEntry.expandAll mission.spacecrafts)
  let names := eventNames mission.events
  let world := world.resetFires mission.events.length
  let (events, eventProblems) := buildEvents ⟨world, names⟩ names mission.events
  ⟨world, events, entryProblems ++ craftProblems ++ duplicates [] names ++ eventProblems⟩

end LoadedMission

end Sortie
