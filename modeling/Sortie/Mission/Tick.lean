import Sortie.Mission.Basic
import Sortie.World.Flight
import Sortie.World.Impact

namespace Sortie.Mission

variable {π : Type} [Pilot π]

def advanceTime (mission : Mission π) (dt : Scalar) : Mission π :=
  let world := mission.world.advanceClock dt
  { mission with
    ticks := mission.ticks + 1
    world := { world with environment := world.environment.simulate dt } }

/-- Carries out waiting actions in turn. -/
def executeAll : List ActionPlace → List Event → World → List Event × World
  | [], events, world => (events, world)
  | place :: rest, events, world =>
    let (events, world) := Event.executeAt events place world
    executeAll rest events world

/-- Carries out the waiting actions that are due. -/
def runDueActions (mission : Mission π) (dt : Scalar) : Mission π :=
  if mission.authority then
    let (due, world) := mission.world.takeDue dt
    let (events, world) := executeAll due mission.events world
    { mission with events, world }
  else mission

/-- One step of the events. After it, every condition has read the notices from before it. -/
def runEvents (mission : Mission π) (dt : Scalar) : Mission π :=
  let consumed := mission.world.notices.finish
  let (events, world) :=
    if mission.authority then Event.simulateAll dt 0 mission.events mission.world
    else (mission.events, mission.world)
  { mission with events, world := world.retireNotices consumed }

/-- What one spacecraft is to do, if anyone flies it. -/
def intentFor (mission : Mission π) (pilot : Option π) (index : Nat) (dt : Scalar) :
    Option Intent × Option π :=
  if mission.world.piloted = some index ∧ ¬ mission.autopilot then (mission.pilotIntent, pilot)
  else
    match pilot with
    | none => (none, none)
    | some pilot =>
      let (intent, pilot) := Pilot.control pilot index mission.world.crafts dt
      (some intent, some pilot)

/-- What the present ones of some spacecraft are to do. -/
def intents (mission : Mission π) (dt : Scalar) :
    Option π → List Nat → List (Nat × Intent) × Option π
  | pilot, [] => ([], pilot)
  | pilot, index :: rest =>
    if (mission.world.craft? index).any Spacecraft.isPresent then
      let (intent, pilot) := mission.intentFor pilot index dt
      let (others, pilot) := mission.intents dt pilot rest
      (match intent with
        | some intent => (index, intent) :: others
        | none => others, pilot)
    else mission.intents dt pilot rest

/-- Asks for all intents before the first one is carried out. -/
def controlCrafts (mission : Mission π) (dt : Scalar) : Mission π :=
  let (intents, pilot) := mission.intents dt mission.pilot mission.world.listed
  let world := intents.foldl (fun world (index, intent) => world.carryOut dt index intent)
    mission.world
  { mission with pilot, world }

def simulateCrafts (mission : Mission π) (dt : Scalar) : Mission π :=
  { mission with world := mission.world.simulateCrafts dt }

def resolveCollisions (mission : Mission π) : Mission π :=
  { mission with world := mission.world.resolveCollisions }

def simulateWeapons (mission : Mission π) (dt : Scalar) : Mission π :=
  { mission with world := mission.world.simulateWeapons dt }

def simulateEffects (mission : Mission π) (dt : Scalar) : Mission π :=
  { mission with
    world := { mission.world with pools := mission.world.pools.simulateEffects dt } }

/-- The point that should stay near the origin. -/
def viewpoint? (mission : Mission π) : Option Vec :=
  mission.camera.or
    ((mission.world.pilotedCraft?.filter Spacecraft.isPresent).map Spacecraft.position)

/-- Moves the origin to the viewpoint once that is too far away. -/
def recenterOrigin (mission : Mission π) : Mission π :=
  match mission.viewpoint? with
  | none => mission
  | some viewpoint =>
    if viewpoint.length ≤ mission.world.settings.originRecenterDistance then mission
    else
      let offset := -viewpoint
      { mission with
        world := mission.world.translate offset
        camera := mission.camera.map (· + offset) }

/-- Evaluates the objectives that are not settled, in turn. -/
def evaluateAll (world : World) :
    List TrackedObjective → List Event → List TrackedObjective × List Event
  | [], events => ([], events)
  | tracked :: rest, events =>
    let (tracked, events) :=
      if tracked.standing.settled then (tracked, events)
      else
        let (standing, events) := tracked.objective.evaluate world events
        ({ tracked with standing }, events)
    let (others, events) := evaluateAll world rest events
    (tracked :: others, events)

def evaluateObjectives (mission : Mission π) : Mission π :=
  let (objectives, events) := evaluateAll mission.world mission.objectives mission.events
  { mission with objectives, events }

/-- Whether an objective has failed. A loss does not count once the pilot has left. -/
def hasFailed (mission : Mission π) : Bool :=
  mission.objectives.any fun tracked =>
    tracked.status == .failed &&
      !(mission.world.pilotDeparted && tracked.objective.role == .lose)

/-- Whether all objectives that can be completed are, and at least one. -/
def hasCompleted (mission : Mission π) : Bool :=
  (mission.objectives.all fun tracked =>
    tracked.status == .completed || tracked.objective.inactive) &&
    mission.objectives.any fun tracked => tracked.status == .completed

/-- The state that follows from how the objectives stand. -/
def nextState (mission : Mission π) : MissionState :=
  let world := mission.world
  if world.pilotedCraft?.any fun pilot => !pilot.alive then .defeat
  else
    match world.state with
    | .battle =>
      if world.isCleared then (if world.piloted.isSome then .completed else .ended) else .battle
    | .inProgress =>
      if mission.hasFailed then .failed
      else if mission.hasCompleted then .completed
      else .inProgress
    | other => other

def updateState (mission : Mission π) : Mission π :=
  let mission := mission.evaluateObjectives
  { mission with world := mission.world.setState mission.nextState }

/-- Whether a step can take so many milliseconds. -/
def accepts (dt : Scalar) : Bool := dt.isFinite && !decide (dt < 0)

/-- One step of `dt` milliseconds, in phases of a fixed order. The events are looked at before
anything flies, so conditions see what the step before has left. -/
def tick (mission : Mission π) (dt : Scalar) : Mission π :=
  if accepts dt then
    let mission := ((mission.advanceTime dt).runDueActions dt).runEvents dt
    let mission := (mission.controlCrafts dt).simulateCrafts dt
    let mission := (mission.resolveCollisions.simulateWeapons dt).simulateEffects dt
    mission.recenterOrigin.updateState
  else mission

/-- Steps until the mission is finished, at most `limit`. -/
def run (mission : Mission π) (dt : Scalar) : Nat → Mission π
  | 0 => mission
  | limit + 1 =>
    let mission := mission.tick dt
    if mission.isFinished then mission else mission.run dt limit

end Sortie.Mission
