import Sortie.Rules.Subjects
import Sortie.World.Combat

namespace Sortie

/-- What an event does: win or lose the mission, talk to the pilot, or command spacecraft. -/
inductive ActionKind where
  /-- Completes the mission while objectives are pending. -/
  | win
  /-- Fails the mission, even after a win. -/
  | lose
  | message (message : HudMessage)
  | clearMessages
  /-- A command to each of the subjects. -/
  | command (command : Command)
  | hud (change : HudChange)

structure Action where
  kind : ActionKind
  /-- Milliseconds between the event and the action. -/
  delay : Scalar := 0
  subjects : SubjectGroup := {}

namespace Action

def typeName (action : Action) : String :=
  match action.kind with
  | .win => "win"
  | .lose => "lose"
  | .message _ => "message"
  | .clearMessages => "clearMessages"
  | .command _ => "command"
  | .hud _ => "hud"

def isWin (action : Action) : Bool :=
  match action.kind with
  | .win => true
  | _ => false

def isLose (action : Action) : Bool :=
  match action.kind with
  | .lose => true
  | _ => false

/-- Whether the action waits after its event has fired. -/
def isDelayed (action : Action) : Bool := 0 < action.delay

/-- Whether the pilot is to see the messages of the action: one without subjects is for everyone. -/
def addressesPilot (action : Action) (world : World) : Bool :=
  action.subjects.isEmpty || world.pilotedCraft?.any action.subjects.has

/-- Carries out the action. A command goes to the subjects as they are now. -/
def execute (action : Action) (world : World) : Action × World :=
  match action.kind with
  | .win => (action, world.win)
  | .lose => (action, world.lose)
  | .message message =>
    (action, if action.addressesPilot world then world.observe (.message message) else world)
  | .clearMessages => (action, world.observe .clearMessages)
  | .command command =>
    let subjects := action.subjects.reload world
    ({ action with subjects },
      subjects.members.foldl (fun world craft => world.dispatch craft command) world)
  | .hud change => (action, world.observe (.hud change))

end Action

end Sortie
