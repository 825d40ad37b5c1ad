import Sortie.Json.Params
import Sortie.Rules.Condition

namespace Sortie.Parameters

open Json Json.Reading

/-- Reads parameters. Missing ones are an empty object. -/
def read {α : Type} (kind : String) (reading : Reading α) (params : Value) :
    Except ConfigError α :=
  let params := match params with
    | .null => .object []
    | other => other
  (reading params).mapError (.invalidParams kind)

def quantity : Reading Quantity := choice isNull [("all", .all), ("any", .any)]

structure MissionStates where
  states : List MissionState := []

def missionStates : Reading MissionStates :=
  let state := choice isNull (MissionState.all.map fun state => (state.name, state))
  record "struct MissionStateParams"
    [field "missionStates" .refused (list state) fun states p => { p with states }]
    {}

structure Destroyed where
  count : Option Nat := none

def destroyed : Reading Destroyed :=
  record "struct DestroyedParams"
    [field "count" .allowedInObjects (optional count64) fun count p => { p with count }]
    {}

structure Count where
  count : Nat := 0
  relation : CountRelation := .below

def count : Reading Count :=
  let relation := choice isNull [("below", .below), ("above", .above), ("equals", .equals)]
  record "struct CountParams"
    [field "count" .refused count64 fun count p => { p with count },
      field "relation" .allowed relation fun relation p => { p with relation }]
    {}

structure Integrity where
  least : Option Scalar := none
  most : Option Scalar := none
  which : Quantity := .all

def integrity : Reading Integrity :=
  record "struct IntegrityParams"
    [field "minIntegrity" .allowedInObjects (optional scalar) fun least p => { p with least },
      field "maxIntegrity" .allowedInObjects (optional scalar) fun most p => { p with most },
      field "which" .allowed quantity fun which p => { p with which }]
    {}

structure Distance where
  target : String := ""
  least : Option Scalar := none
  most : Option Scalar := none
  which : Quantity := .all

def distance : Reading Distance :=
  record "struct DistanceParams"
    [field "target" .refused string fun target p => { p with target },
      field "minDistance" .allowedInObjects (optional scalar) fun least p => { p with least },
      field "maxDistance" .allowedInObjects (optional scalar) fun most p => { p with most },
      field "which" .allowed quantity fun which p => { p with which }]
    {}

structure Away where
  which : Quantity := .all

def away : Reading Away :=
  record "struct AwayParams" [field "which" .allowed quantity fun which p => { p with which }] {}

structure OnTeam where
  team : String := ""

def onTeam : Reading OnTeam :=
  record "struct OnTeamParams" [field "team" .refused string fun team p => { p with team }] {}

structure Time where
  time : Scalar := 0
  when : TimeWhen := .after
  maxCount : Option Nat := none
  startOffset : Scalar := 0
  start : Option String := none

def time : Reading Time :=
  let timeWhen := choice isNull
    [("before", .before), ("after", .after), ("once", .once), ("repeat", .repeating)]
  record "struct TimeParams"
    [field "time" .refused scalar fun time p => { p with time },
      field "when" .allowed timeWhen fun when p => { p with when },
      field "maxCount" .allowedInObjects (optional count32) fun maxCount p => { p with maxCount },
      field "startOffset" .allowed scalar fun startOffset p => { p with startOffset },
      field "start" .allowedInObjects (optional string) fun start p => { p with start }]
    {}

def subjects : Reading SubjectDescriptor :=
  record "struct SubjectDescriptor"
    [field "spacecrafts" .allowed (list string) fun spacecrafts s => { s with spacecrafts },
      field "squads" .allowed (list string) fun squads s => { s with squads },
      field "teams" .allowed (list string) fun teams s => { s with teams }]
    {}

structure Source where
  source : Option SubjectDescriptor := none

def source : Reading Source :=
  record "struct ByParams"
    [field "by" .allowedInObjects (optional subjects) fun source p => { p with source }]
    {}

structure Message where
  text : String := ""
  duration : Option Scalar := none
  permanent : Bool := false
  urgent : Bool := false
  color : Option Color := none
  source : Option String := none

def message : Reading Message :=
  record "struct MessageParams"
    [field "text" .refused string fun text p => { p with text },
      field "duration" .allowedInObjects (optional scalar) fun duration p => { p with duration },
      field "permanent" .allowed bool fun permanent p => { p with permanent },
      field "urgent" .allowed bool fun urgent p => { p with urgent },
      field "color" .allowedInObjects (optional color) fun color p => { p with color },
      field "source" .allowedInObjects (optional string) fun source p => { p with source }]
    {}

def hud : Reading HudChange :=
  let state := choice isNull
    [("visible", .visible), ("hidden", .hidden), ("highlighted", .highlighted)]
  record "struct HudAction"
    [field "section" .refused string fun sectionName p => { p with sectionName },
      field "state" .refused state fun state p => { p with state }]
    ⟨"", .visible⟩

/-- A command whose spacecraft are still names. -/
inductive Order where
  | jump (way : JumpWay)
  | target (single : Option String) (list : List String) (priority : Bool)
  | reachDistance (target : String) (least most : Option Scalar)

structure Target where
  single : Option String := none
  list : List String := []
  priority : Bool := false

def orderTarget : Reading Target :=
  taggedRecord "struct variant CommandParams::Target"
    [field "single" .allowedInObjects (optional string) fun single p => { p with single },
      field "list" .allowed (list string) fun list p => { p with list },
      field "priority" .allowed bool fun priority p => { p with priority }]
    {}

def orderDistance : Reading Distance :=
  taggedRecord "struct variant CommandParams::ReachDistance"
    [field "target" .refused string fun target p => { p with target },
      field "minDistance" .allowedInObjects (optional scalar) fun least p => { p with least },
      field "maxDistance" .allowedInObjects (optional scalar) fun most p => { p with most }]
    {}

def orderWay : Reading JumpWay :=
  taggedRecord "struct variant CommandParams::Jump"
    [field "way" .refused (choice isNullOrEmpty [("in", .inward), ("out", .outward)])
      fun way _ => way]
    .inward

def order : Reading Order :=
  tagged "internally tagged enum CommandParams" "command"
    [("jump", fun value => (orderWay value).map .jump),
      ("target", fun value => (orderTarget value).map fun p =>
        .target p.single p.list p.priority),
      ("reachDistance", fun value => (orderDistance value).map fun p =>
        .reachDistance p.target p.least p.most)]

end Sortie.Parameters
