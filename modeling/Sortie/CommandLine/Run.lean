import Sortie.CommandLine.Options
import Sortie.Mission.Tick
import Sortie.Pilot.Pursuit
import Sortie.Records.Document
import Sortie.Settings.Document
import Sortie.Spacecraft.Document
import Sortie.Storage.Document

namespace Sortie.CommandLine

open Json

def settingsFile : Path := ["mission-core", "settings.json"]

def recordsFile : Path := ["mission-core", "records.json"]

/-- What makes the pilot's random deviations. -/
def pilotSeed : UInt64 := 0x5eed

/-- How the program ends. -/
inductive Ending where
  | success
  /-- A file cannot be read or written. -/
  | failure
  /-- The arguments are misused. -/
  | usage
  deriving DecidableEq, Repr

namespace Ending

def exitCode : Ending → Nat
  | success => 0
  | failure => 1
  | usage => 2

end Ending

/-- What the program leaves behind. -/
structure Outcome where
  ending : Ending
  /-- What it prints. -/
  lines : List String := []
  /-- The operations on files that it attempts, in order; it stops at the first that fails. -/
  operations : List FileOperation := []

/-- The settings of the settings file, with what the arguments put in their place. -/
def settingsFor (options : Options) (storage : Storage) : Settings :=
  let settings := storage.loadOr Settings.decoder settingsFile {}
  { settings with
    quality := options.quality.getD settings.quality
    difficulty := options.difficulty.getD settings.difficulty }

/-- The text of a file. -/
def textOf? (storage : Storage) (file : String) : Option String :=
  match storage.read (Path.ofText file) with
  | .ok content => String.fromUTF8? content
  | .error _ => none

def catalogFor? (options : Options) (storage : Storage) : Option Catalog :=
  match options.catalog with
  | none => some .standard
  | some file => (textOf? storage file).bind fun text => (Catalog.ofText text).toOption

def missionFor? (options : Options) (storage : Storage) : Option MissionDescriptor :=
  (textOf? storage options.mission).bind fun text => (MissionDescriptor.ofText text).toOption

/-- The mission that the arguments ask for, before its first step. -/
def launch? (options : Options) (storage : Storage) : Option (Mission Pursuit) := do
  let settings := settingsFor options storage
  let catalog ← catalogFor? options storage
  let descriptor ← missionFor? options storage
  let mission : Mission Pursuit := .ofDescriptor descriptor catalog settings {}
  return { mission with pilot := some (.ofSeed pilotSeed), autopilot := true }

/-- What is printed of a mission after its last step. -/
def summary (mission : Mission Pursuit) : List String :=
  let title := mission.title.getD mission.name
  let state := mission.state.name
  let ticks := mission.ticks
  let total := mission.score.total
  let performance := mission.score.performance.name
  [s!"Mission: {title}", s!"State: {state} after {ticks} ticks",
    s!"Score: {total} ({performance})", mission.telemetry]

/-- Records a finished mission. -/
def record (mission : Mission Pursuit) (storage : Storage) : Outcome :=
  let records := storage.loadOr MissionRecords.decoder recordsFile {}
  let (best, records) :=
    records.add mission.name mission.world.settings.difficulty mission.state mission.score
  let operations := Storage.saveOperations recordsFile records.toValue.indented
  let (fault, _) := FileOperation.runAll operations storage
  { ending := if fault.isNone then .success else .failure
    lines := if best then ["New best score!"] else []
    operations }

/-- Flies a mission without a display: a pilot flies all spacecraft, the piloted one included, until
the mission is finished or the steps are used up. A finished mission is recorded. -/
def fly (options : Options) (mission : Mission Pursuit) (storage : Storage) : Outcome :=
  let (reports, mission) := mission.objectiveReports
  let objectives := reports.map fun report => "Objective: " ++ report.text
  let mission := mission.run options.dt options.ticks
  let printed := objectives ++ summary mission
  if mission.isFinished then
    let recorded := record mission storage
    { recorded with lines := printed ++ recorded.lines }
  else { ending := .success, lines := printed }

/-- The program with some arguments, among some files. -/
def run (arguments : List String) (storage : Storage) : Outcome :=
  match Options.ofArguments? arguments with
  | none => { ending := .usage }
  | some options =>
    match launch? options storage with
    | none => { ending := .failure }
    | some mission => fly options mission storage

end Sortie.CommandLine
