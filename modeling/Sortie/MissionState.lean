namespace Sortie

/-- The overall state of a mission. -/
inductive MissionState where
  /-- Nothing to fight over. -/
  | idle
  /-- A free fight without declared objectives. -/
  | battle
  /-- Declared objectives are pending. -/
  | inProgress
  | completed
  | failed
  /-- The piloted spacecraft was destroyed. -/
  | defeat
  /-- A battle without a piloted spacecraft ran out of hostilities. -/
  | ended
  deriving DecidableEq, Repr

namespace MissionState

def name : MissionState → String
  | idle => "none"
  | battle => "battle"
  | inProgress => "inProgress"
  | completed => "completed"
  | failed => "failed"
  | defeat => "defeat"
  | ended => "ended"

def all : List MissionState := [idle, battle, inProgress, completed, failed, defeat, ended]

def ofName? (text : String) : Option MissionState := all.find? fun state => state.name == text

/-- Whether the mission has an outcome. -/
def isOver : MissionState → Bool
  | completed | failed | defeat | ended => true
  | idle | battle | inProgress => false

end MissionState

end Sortie
