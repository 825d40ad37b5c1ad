import Sortie.Environment
import Sortie.Settings
import Sortie.World.Notice
import Sortie.World.Observation

namespace Sortie

/-- Where an action stands: its event and its place among the event's actions. -/
structure ActionPlace where
  event : Nat
  action : Nat
  deriving DecidableEq, Repr

/-- An action that waits. -/
structure QueuedAction where
  place : ActionPlace
  /-- In milliseconds. -/
  remaining : Scalar

/-- The world of a mission: all that its rules read and its actions change. Spacecraft are never
removed from the arena, so an index stays valid; the lists of those that take part and of those that
can be hit are pruned. -/
structure World where
  crafts : Array Spacecraft := #[]
  /-- The spacecraft that take part. -/
  listed : List Nat := []
  /-- The spacecraft that can be hit. -/
  hitObjects : List Nat := []
  teams : List Team := []
  piloted : Option Nat := none
  state : MissionState := .idle
  notices : NoticeLog := {}
  /-- How often each event has fired. -/
  fires : Array Nat := #[]
  queue : List QueuedAction := []
  observations : Array Observation := #[]
  settings : Settings
  environment : Environment
  pools : Pools
  /-- Milliseconds since the mission started. -/
  elapsed : LongTime := 0

namespace World

def team? (world : World) (id : String) : Option Team := world.teams.find? (·.id == id)

/-- Adds a team unless there is one of its id. -/
def addTeam (world : World) (team : Team) : World :=
  if (world.team? team.id).isSome then world
  else { world with teams := world.teams ++ [team] }

def craft? (world : World) (index : Nat) : Option Spacecraft := world.crafts[index]?

def setCraft (world : World) (index : Nat) (craft : Spacecraft) : World :=
  { world with crafts := world.crafts.setIfInBounds index craft }

/-- Adds a spacecraft to the arena and the lists. The first piloted one is the pilot's. -/
def addCraft (world : World) (craft : Spacecraft) : World :=
  let index := world.crafts.size
  { world with
    crafts := world.crafts.push craft
    listed := world.listed ++ [index]
    hitObjects := if craft.isPresent then world.hitObjects ++ [index] else world.hitObjects
    piloted := if craft.piloted && world.piloted.isNone then some index else world.piloted }

def pilotedCraft? (world : World) : Option Spacecraft := world.piloted.bind world.craft?

/-- The first spacecraft of an id. -/
def findCraft? (world : World) (id : String) : Option Nat :=
  world.crafts.findIdx? fun craft => craft.id == id

/-- The listed spacecraft that are present, with their indices. -/
def present (world : World) : List (Nat × Spacecraft) :=
  world.listed.filterMap fun index =>
    ((world.craft? index).filter Spacecraft.isPresent).map (index, ·)

/-- How many present spacecraft are hostile to one. -/
def hostileCount (world : World) (index : Nat) : Nat :=
  match world.craft? index with
  | none => 0
  | some craft =>
    world.present.countP fun (other, candidate) =>
      other != index && candidate.isHostileTo craft

/-- Whether any two present spacecraft are hostile to each other. -/
def hasMutualHostiles (world : World) : Bool :=
  let present := world.present
  present.any fun (index, craft) =>
    present.any fun (other, candidate) => index != other && craft.isHostileTo candidate

/-- Whether nobody is left to fight: no hostile of the pilot or, without a pilot, no two hostiles.
-/
def isCleared (world : World) : Bool :=
  match world.piloted with
  | some piloted => world.hostileCount piloted == 0
  | none => !world.hasMutualHostiles

/-- Drops those from the lists that cannot be hit or, unless all participants number alike, do not
take part any more. -/
def prune (world : World) : World :=
  let hittable (index : Nat) : Bool := (world.craft? index).any Spacecraft.isPresent
  let takesPart (index : Nat) : Bool :=
    (world.craft? index).any fun craft => craft.alive && !craft.departed
  { world with
    hitObjects := world.hitObjects.filter hittable
    listed := if world.settings.multiActor then world.listed else world.listed.filter takesPart }

/-- A spacecraft that jumped in can be hit. -/
def addHitObject (world : World) (index : Nat) : World :=
  if world.hitObjects.contains index then world
  else { world with hitObjects := world.hitObjects ++ [index] }

def observe (world : World) (observation : Observation) : World :=
  { world with observations := world.observations.push observation }

/-- Changes the state and tells of it, if it is another one. -/
def setState (world : World) (state : MissionState) : World :=
  if world.state = state then world
  else { world.observe (.state world.state state) with state }

/-- Accepts a win while objectives are pending. -/
def win (world : World) : World :=
  if world.state = .inProgress then world.setState .completed else world

/-- Whether the pilot has left by jumping out. -/
def pilotDeparted (world : World) : Bool := world.pilotedCraft?.any Spacecraft.departed

/-- Accepts a loss, even after a win, but not once the pilot has left. -/
def lose (world : World) : World :=
  if world.pilotDeparted then world
  else if world.state = .inProgress ∨ world.state = .completed then world.setState .failed
  else world

def advanceClock (world : World) (dt : Scalar) : World :=
  { world with elapsed := world.elapsed + dt.toLong }

def resetFires (world : World) (events : Nat) : World :=
  { world with fires := Array.replicate events 0 }

def recordFire (world : World) (event : Nat) : World :=
  { world with fires := world.fires.modify event (· + 1) }

def fireCount (world : World) (event : Nat) : Nat := world.fires.getD event 0

def enqueue (world : World) (place : ActionPlace) (delay : Scalar) : World :=
  { world with queue := world.queue ++ [⟨place, delay⟩] }

/-- Counts the waiting actions down. Those that are due leave the queue, in its order. -/
def takeDue (world : World) (dt : Scalar) : List ActionPlace × World :=
  let counted := world.queue.map fun queued =>
    { queued with remaining := queued.remaining - dt }
  let isDue (queued : QueuedAction) : Bool := queued.remaining ≤ 0
  ((counted.filter isDue).map QueuedAction.place,
    { world with queue := counted.filter fun queued => !isDue queued })

def notify (world : World) (notice : Notice) : World :=
  { world with notices := world.notices.push notice }

def retireNotices (world : World) (before : Nat) : World :=
  { world with notices := world.notices.retire before }

end World

end Sortie
