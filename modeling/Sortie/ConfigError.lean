namespace Sortie

/-- A problem that a mission's description can have. None of them stops a mission from loading: they
are reported, and the construct at fault is left out or replaced by a safe default. -/
inductive ConfigError where
  | unknownConditionType (name : String)
  | unknownActionType (name : String)
  | invalidParams (kind message : String)
  | unknownTeam (name : String)
  | unknownEvent (name : String)
  | unknownSpacecraft (name : String)
  | unknownClass (name : String)
  | unknownLoadout (craftClass loadout : String)
  | duplicateEvent (name : String)
  | invalidTrigger (event reason : String)
  | notObjective (kind : String)
  | unsupportedObjectiveRelation (relation : String)
  | positionOverridesFormation (label : String)
  | multiplePiloted (label : String)
  deriving DecidableEq, Repr

namespace ConfigError

def quoted (text : String) : String := "'" ++ text ++ "'"

def message : ConfigError → String
  | unknownConditionType name => "unknown condition type " ++ quoted name
  | unknownActionType name => "unknown action type " ++ quoted name
  | invalidParams kind message => "invalid parameters for " ++ kind ++ ": " ++ message
  | unknownTeam name => "unknown team " ++ quoted name
  | unknownEvent name => "unknown event " ++ quoted name
  | unknownSpacecraft name => "unknown spacecraft " ++ quoted name
  | unknownClass name => "unknown spacecraft class " ++ quoted name
  | unknownLoadout craftClass loadout =>
    "unknown loadout " ++ quoted loadout ++ " for class " ++ quoted craftClass
  | duplicateEvent name => "duplicate event name " ++ quoted name
  | invalidTrigger event reason =>
    "invalid trigger in event " ++ quoted event ++ ": " ++ reason
  | notObjective kind => kind ++ " conditions cannot be used as objectives"
  | unsupportedObjectiveRelation relation =>
    "count condition with relation " ++ quoted relation ++ " cannot be used as an objective"
  | positionOverridesFormation label =>
    "spacecraft " ++ quoted label ++ " has both position and formation, using position"
  | multiplePiloted label =>
    "more than one piloted spacecraft (" ++ quoted label ++ "), keeping the first"

end ConfigError

/-- The reports of a mission in the order in which they came up. -/
abbrev Diagnostics := List ConfigError

end Sortie
