import Sortie.Mission.Load
import Sortie.Pilot.Basic
import Sortie.Rules.Objective
import Sortie.Score

namespace Sortie

/-- An objective, and how it stood at its latest evaluation. -/
structure TrackedObjective where
  objective : Objective
  standing : Standing := {}

namespace TrackedObjective

def status (tracked : TrackedObjective) : ObjectiveStatus := tracked.standing.status

end TrackedObjective

/-- A mission whose pilot, apart from the human one, is of type `π`. -/
structure Mission (π : Type) where
  name : String
  title : Option String
  world : World
  events : List Event
  objectives : List TrackedObjective
  diagnostics : Diagnostics
  /-- Flies the spacecraft; without it they drift. -/
  pilot : Option π := none
  /-- What the human pilot intends, until it is replaced. -/
  pilotIntent : Option Intent := none
  /-- Lets the other pilot fly the piloted spacecraft too. -/
  autopilot : Bool := false
  /-- Whether events and waiting actions run here. A guest of a shared session leaves them to the
  host. -/
  authority : Bool := true
  /-- Where the camera is, if not at the piloted spacecraft. -/
  camera : Option Vec := none
  /-- The best score that can be reached. -/
  reference : Scalar
  /-- The steps so far. -/
  ticks : Nat := 0

namespace Mission

variable {π : Type}

/-- The state in which a mission starts. -/
def initialState (loaded : LoadedMission) : MissionState :=
  if loaded.events.any fun event => event.hasWin || event.hasLose then .inProgress
  else if loaded.world.listed.isEmpty then .idle
  else .battle

/-- A described mission before its first step. The pools are filled in advance as the settings
say. -/
def ofDescriptor (descriptor : MissionDescriptor) (catalog : Catalog) (settings : Settings)
    (pools : Pools) : Mission π :=
  let loaded := LoadedMission.ofDescriptor descriptor catalog settings
    (pools.prefill settings.poolSizes)
  let world := loaded.world.setState (initialState loaded)
  { name := descriptor.name
    title := descriptor.title
    world
    events := loaded.events
    objectives := (Objective.collect loaded.events).map fun objective => { objective }
    diagnostics := loaded.diagnostics
    reference := Score.referenceOf world.crafts world.piloted }

/-- The pools, with every slot free, after the mission. -/
def destroy (mission : Mission π) : Pools := mission.world.pools.releaseAll

def state (mission : Mission π) : MissionState := mission.world.state

def isFinished (mission : Mission π) : Bool := mission.state.isOver

/-- What there was to observe since the last time, for those who show a mission; no step of it asks.
-/
def takeObservations (mission : Mission π) : List Observation × Mission π :=
  (mission.world.observations.toList,
    { mission with world := { mission.world with observations := #[] } })

/-- Reports on objectives in turn; the reports on conditions without words come with them. -/
def reportAll (world : World) :
    List TrackedObjective → List Event → List ObjectiveReport × Diagnostics × List Event
  | [], events => ([], [], events)
  | tracked :: rest, events =>
    let (report, problems, events) := tracked.objective.report tracked.status world events
    let (reports, others, events) := reportAll world rest events
    (report :: reports, problems ++ others, events)

/-- The objectives for the display. -/
def objectiveReports (mission : Mission π) : List ObjectiveReport × Mission π :=
  let (reports, problems, events) := reportAll mission.world mission.objectives mission.events
  (reports, { mission with events, diagnostics := mission.diagnostics ++ problems })

/-- The spacecraft of open objectives of the win, with repetitions. -/
def targetsOfAll (world : World) : List TrackedObjective → List Event → List Nat × List Event
  | [], events => ([], events)
  | tracked :: rest, events =>
    if tracked.objective.role = .win ∧ tracked.status = .inProgress then
      let (targets, events) := tracked.objective.targets world events
      let (others, events) := targetsOfAll world rest events
      (targets ++ others, events)
    else targetsOfAll world rest events

/-- The spacecraft that the display should mark as targets, in ascending order. -/
def objectiveTargets (mission : Mission π) : List Nat × Mission π :=
  let (targets, events) := targetsOfAll mission.world mission.objectives mission.events
  ((targets.mergeSort (· ≤ ·)).eraseReps, { mission with events })

/-- The pilot's score. -/
def score (mission : Mission π) : Score :=
  match mission.world.pilotedCraft? with
  | some pilot =>
    .ofStats pilot.stats pilot.hullIntegrity (mission.state == .completed) mission.reference
  | none => .ofStats {} 0 false mission.reference

/-- Time, state, and how many spacecraft, waiting actions and pooled objects there are. -/
def telemetry (mission : Mission π) : String :=
  let world := mission.world
  let seconds := (world.elapsed / 1000).fixed 1
  let state := world.state.name
  let listed := world.listed.length
  let total := world.crafts.size
  let hitObjects := world.hitObjects.length
  let queued := world.queue.length
  let pools := world.pools.telemetry
  s!"t={seconds}s state={state} spacecraft={listed}/{total} hit objects={hitObjects} " ++
    s!"queued actions={queued} | {pools}"

end Mission

end Sortie
