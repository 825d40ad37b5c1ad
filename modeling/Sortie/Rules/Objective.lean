import Sortie.Rules.Event
import Sortie.Rules.Wording

namespace Sortie

inductive ObjectiveStatus where
  | inProgress
  | completed
  | failed
  deriving DecidableEq, Repr

namespace ObjectiveStatus

def name : ObjectiveStatus → String
  | inProgress => "inProgress"
  | completed => "completed"
  | failed => "failed"

end ObjectiveStatus

inductive ObjectiveSource where
  | destroyAll
  /-- The condition with index `place` of the event with index `event`. -/
  | condition (event place : Nat)
  deriving DecidableEq, Repr

/-- What the pilot is told to do. Each condition that can be put in words and belongs to an event
that wins or loses the mission is an objective. If no event wins and no loss can be averted for
good, the objective is to destroy all enemies. -/
structure Objective where
  role : ObjectiveRole
  source : ObjectiveSource
  /-- Can fail the mission but never be completed, because the loss cannot be averted for good. -/
  inactive : Bool
  deriving DecidableEq, Repr

/-- What an evaluation finds. -/
structure Standing where
  status : ObjectiveStatus := .inProgress
  /-- Cannot change any more. -/
  settled : Bool := false
  deriving DecidableEq, Repr

/-- An objective on the pilot's display. -/
structure ObjectiveReport where
  text : String
  stateText : Option String
  status : ObjectiveStatus
  role : ObjectiveRole

namespace Event

/-- Asks a condition of an event, which may change by the question. -/
def askCondition {α : Type} (events : List Event) (event place : Nat)
    (question : Condition → α × Condition) : Option α × List Event :=
  match events[event]? with
  | none => (none, events)
  | some found =>
    match found.trigger.conditions[place]? with
    | none => (none, events)
    | some condition =>
      let (answer, condition) := question condition
      let conditions := found.trigger.conditions.set place condition
      (some answer, events.set event { found with trigger := { found.trigger with conditions } })

/-- Asks the trigger of an event. -/
def askTrigger {α : Type} (events : List Event) (event : Nat)
    (question : Trigger → α × Trigger) : Option α × List Event :=
  match events[event]? with
  | none => (none, events)
  | some found =>
    let (answer, trigger) := question found.trigger
    (some answer, events.set event { found with trigger })

/-- The objectives of a role that the conditions of an event are. -/
def objectives (event : Event) (index : Nat) (role : ObjectiveRole) (inactive : Bool) :
    List Objective :=
  let places := (List.range event.trigger.conditions.length).filter fun place =>
    (event.trigger.conditions[place]?).any Condition.isObjective
  places.map fun place => ⟨role, .condition index place, inactive⟩

/-- The objectives of the event with index `index`. -/
def allObjectives (event : Event) (index : Nat) : List Objective :=
  (if event.hasWin then event.objectives index .win false else []) ++
    if event.hasLose then event.objectives index .lose (!event.trigger.canBeImpossible) else []

/-- Whether the event loses the mission, but may become unable to. -/
def canBeAverted (event : Event) : Bool := event.hasLose && event.trigger.canBeImpossible

end Event

namespace Objective

/-- The objectives of the events, the first of which has index `index`. -/
def declared (index : Nat) : List Event → List Objective
  | [] => []
  | event :: rest => event.allObjectives index ++ declared (index + 1) rest

def destroyAll : Objective := ⟨.win, .destroyAll, false⟩

/-- The objectives of a mission. -/
def collect (events : List Event) : List Objective :=
  let implicit : Bool := !events.any Event.hasWin && !events.any Event.canBeAverted
  declared 0 events ++ if implicit then [destroyAll] else []

/-- How a condition to be met stands, whose event has not fired. -/
def standingOfGoal (world : World) (condition : Condition) : Standing × Condition :=
  let (impossible, condition) := condition.checkImpossible world
  (if impossible then ⟨.failed, true⟩
    else if condition.lastSatisfied then ⟨.completed, false⟩
    else ⟨.inProgress, false⟩, condition)

/-- How a loss to be averted stands, whose event has not fired. -/
def standingOfThreat (world : World) (trigger : Trigger) : Standing × Trigger :=
  let (impossible, trigger) := trigger.checkImpossible world
  (if impossible then ⟨.completed, true⟩ else ⟨.inProgress, false⟩, trigger)

/-- How the objective stands after this step's looks at the conditions. -/
def evaluate (objective : Objective) (world : World) (events : List Event) :
    Standing × List Event :=
  match objective.source with
  | .destroyAll => (⟨if world.isCleared then .completed else .inProgress, false⟩, events)
  | .condition event place =>
    if (events[event]?).isNone then ({}, events)
    else
      let fired : Bool := 0 < world.fireCount event
      match objective.role with
      | .win =>
        if fired then (⟨.completed, true⟩, events)
        else
          let (standing, events) := Event.askCondition events event place (standingOfGoal world)
          (standing.getD {}, events)
      | .lose =>
        if fired then (⟨.failed, true⟩, events)
        else
          let (standing, events) := Event.askTrigger events event (standingOfThreat world)
          (standing.getD {}, events)

/-- Both texts of a condition. -/
def texts (world : World) (role : ObjectiveRole) (condition : Condition) :
    (Except ConfigError String × Option String) × Condition :=
  let text := condition.objectiveText world role
  let (state, condition) := condition.stateText world
  ((text, state), condition)

/-- The objective in words, the reports on a condition that has none, and the events after the
question. -/
def report (objective : Objective) (status : ObjectiveStatus) (world : World)
    (events : List Event) : ObjectiveReport × Diagnostics × List Event :=
  let role := objective.role
  match objective.source with
  | .destroyAll =>
    let left := world.piloted.map fun piloted => toString (world.hostileCount piloted) ++ " left"
    (⟨"Destroy all enemies", left, status, role⟩, [], events)
  | .condition event place =>
    match Event.askCondition events event place (texts world role) with
    | (none, events) => (⟨"", none, status, role⟩, [], events)
    | (some (.ok text, state), events) => (⟨text, state, status, role⟩, [], events)
    | (some (.error error, state), events) => (⟨"", state, status, role⟩, [error], events)

/-- The spacecraft that the objective is about, and the events after the question. -/
def targets (objective : Objective) (world : World) (events : List Event) :
    List Nat × List Event :=
  match objective.source with
  | .destroyAll =>
    let hostile (pilot : Spacecraft) (index : Nat) : Bool :=
      world.piloted != some index &&
        (world.craft? index).any fun craft => craft.isPresent && craft.isHostileTo pilot
    match world.pilotedCraft? with
    | none => ([], events)
    | some pilot => (world.listed.filter (hostile pilot), events)
  | .condition event place =>
    let (crafts, events) := Event.askCondition events event place fun condition =>
      condition.subjectCrafts world
    (crafts.getD [], events)

end Objective

end Sortie
