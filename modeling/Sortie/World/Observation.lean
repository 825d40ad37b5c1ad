import Sortie.MissionState
import Sortie.Spacecraft.Basic

namespace Sortie

/-- A message for the pilot's display. -/
structure HudMessage where
  text : String
  /-- In milliseconds. -/
  duration : Scalar
  /-- Stays until it is cleared. -/
  permanent : Bool
  urgent : Bool
  color : Option Color
  /-- The spacecraft that speaks. -/
  source : Option Nat

inductive HudSectionState where
  | visible
  | hidden
  | highlighted
  deriving DecidableEq, Repr

namespace HudSectionState

def name : HudSectionState → String
  | visible => "visible"
  | hidden => "hidden"
  | highlighted => "highlighted"

end HudSectionState

/-- A change of a section of the display. -/
structure HudChange where
  sectionName : String
  state : HudSectionState
  deriving DecidableEq, Repr

/-- What a mission tells the outside: messages and changes of the display, commands, and changes of
the mission's state. -/
inductive Observation where
  | message (message : HudMessage)
  | clearMessages
  | hud (change : HudChange)
  | command (craft : Nat) (command : Command)
  | state (old new : MissionState)

end Sortie
