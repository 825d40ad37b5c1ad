import Sortie.MissionState
import Sortie.Score
import Sortie.Settings

namespace Sortie

/-- The records of one mission at one difficulty. The counters start anew after their largest
value. -/
structure MissionRecord where
  bestScore : Nat := 0
  bestPerformance : Option Performance := none
  wins : UInt32 := 0
  losses : UInt32 := 0
  deriving DecidableEq, Repr

namespace MissionRecord

/-- Whether a tier is better than the best one so far. -/
def isBetter (performance : Performance) : Option Performance → Bool
  | none => true
  | some best => performance.rank < best.rank

/-- A completed mission, and whether its score is the best one so far. -/
def addWin (record : MissionRecord) (score : Score) : Bool × MissionRecord :=
  let total := score.total
  let performance := score.performance
  (record.bestScore < total,
    { record with
      bestScore := max record.bestScore total
      bestPerformance :=
        if isBetter performance record.bestPerformance then some performance
        else record.bestPerformance
      wins := record.wins + 1 })

/-- The end of a mission, and whether it brought a new best score. -/
def add (record : MissionRecord) (state : MissionState) (score : Score) : Bool × MissionRecord :=
  match state with
  | .completed => record.addWin score
  | .failed | .defeat => (false, { record with losses := record.losses + 1 })
  | .idle | .battle | .inProgress | .ended => (false, record)

end MissionRecord

/-- The records of all missions, by the names of mission and difficulty. -/
structure MissionRecords where
  records : Table MissionRecord := []
  deriving DecidableEq, Repr

namespace MissionRecords

def key (mission : String) (difficulty : Difficulty) : String :=
  mission ++ "/" ++ difficulty.name

def get? (records : MissionRecords) (mission : String) (difficulty : Difficulty) :
    Option MissionRecord :=
  Table.find? (key mission difficulty) records.records

/-- Records how a mission ended, and whether that brought a new best score. -/
def add (records : MissionRecords) (mission : String) (difficulty : Difficulty)
    (state : MissionState) (score : Score) : Bool × MissionRecords :=
  let record := (records.get? mission difficulty).getD {}
  let (best, record) := record.add state score
  (best, ⟨Table.put (key mission difficulty) record records.records⟩)

end MissionRecords

end Sortie
