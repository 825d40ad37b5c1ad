import Sortie.Rules.Action
import Sortie.Rules.Trigger

namespace Sortie

/-- A trigger, and the actions that follow when it fires. -/
structure Event where
  name : String
  trigger : Trigger
  actions : List Action

namespace Event

def hasWin (event : Event) : Bool := event.actions.any Action.isWin

def hasLose (event : Event) : Bool := event.actions.any Action.isLose

/-- Carries out the actions that are not delayed, in order, and enqueues the others. The first of
the actions has the place `place`. -/
def runActions (place : ActionPlace) : List Action → World → List Action × World
  | [], world => ([], world)
  | action :: rest, world =>
    let (action, world) :=
      if action.isDelayed then (action, world.enqueue place action.delay)
      else action.execute world
    let (rest, world) := runActions { place with action := place.action + 1 } rest world
    (action :: rest, world)

/-- One step of the event with index `index`. -/
def simulate (event : Event) (index : Nat) (world : World) (dt : Scalar) : Event × World :=
  let (fires, trigger) := event.trigger.simulate world dt
  let event := { event with trigger }
  if fires then
    let (actions, world) := runActions ⟨index, 0⟩ event.actions (world.recordFire index)
    ({ event with actions }, world)
  else (event, world)

/-- One step of all events in turn, the first of which has index `index`. -/
def simulateAll (dt : Scalar) (index : Nat) : List Event → World → List Event × World
  | [], world => ([], world)
  | event :: rest, world =>
    let (event, world) := event.simulate index world dt
    let (rest, world) := simulateAll dt (index + 1) rest world
    (event :: rest, world)

/-- Carries out the action of a place, if there is one. -/
def executeAt (events : List Event) (place : ActionPlace) (world : World) : List Event × World :=
  match events[place.event]? with
  | none => (events, world)
  | some event =>
    match event.actions[place.action]? with
    | none => (events, world)
    | some action =>
      let (action, world) := action.execute world
      let event := { event with actions := event.actions.set place.action action }
      (events.set place.event event, world)

end Event

end Sortie
