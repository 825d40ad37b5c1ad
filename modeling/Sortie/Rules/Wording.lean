import Sortie.Rules.Condition

namespace Sortie

/-- Whether an objective leads to a win or to a loss. -/
inductive ObjectiveRole where
  | win
  | lose
  deriving DecidableEq, Repr

namespace ObjectiveRole

def name : ObjectiveRole → String
  | win => "win"
  | lose => "lose"

end ObjectiveRole

namespace Condition

/-- Whether the condition can be an objective. -/
def isObjective (condition : Condition) : Bool :=
  match condition.kind with
  | .destroyed _ | .distance _ _ _ | .away _ | .integrity .hull _ _ => true
  | .count _ relation => relation == .below
  | .time timer => timer.isObjective
  | .integrity .shield _ _ | .hit _ _ | .onTeam _ | .missionState _ | .getsTargeted _ _
  | .isTargeted _ => false

def destroyedText (count : Option Nat) (who : String) : ObjectiveRole → String
  | .win =>
    match count with
    | none => s!"Destroy {who}"
    | some count => s!"Destroy {count} of {who}"
  | .lose =>
    match count with
    | none => s!"Do not let all of {who} be destroyed"
    | some 1 => s!"Protect {who}"
    | some count => s!"Do not let {count} of {who} be destroyed"

def countText (threshold : Nat) (who : String) : ObjectiveRole → String
  | .win => s!"Reduce {who} to {threshold}"
  | .lose => s!"Keep more than {threshold} of {who} alive"

def timeText (time : Scalar) (role : ObjectiveRole) : String :=
  let seconds := time.seconds.fixed 0
  match role with
  | .win => s!"Survive for {seconds} seconds"
  | .lose => s!"Finish within {seconds} seconds"

/-- The upper bound comes before the lower one. -/
def integrityText (measure : IntegrityMeasure) (band : Band) (who : String)
    (role : ObjectiveRole) : String :=
  let part := measure.name
  match role, band.most.map Scalar.text, band.least.map Scalar.text with
  | .win, some most, _ => s!"Damage {who} to {most}% {part}"
  | .win, none, some least => s!"Keep {who} above {least}% {part}"
  | .lose, some most, _ => s!"Keep {who} above {most}% {part}"
  | .lose, none, some least => s!"Keep {who} below {least}% {part}"
  | _, none, none => who

/-- The upper bound comes before the lower one. -/
def distanceText (band : Band) (who target : String) (role : ObjectiveRole) : String :=
  match role, band.most.map Scalar.text, band.least.map Scalar.text with
  | .win, some most, _ => s!"Bring {who} within {most} m of {target}"
  | .win, none, some least => s!"Move {who} {least} m away from {target}"
  | .lose, some most, _ => s!"Keep {who} farther than {most} m from {target}"
  | .lose, none, some least => s!"Keep {who} within {least} m of {target}"
  | _, none, none => who

def awayText (who : String) : ObjectiveRole → String
  | .win => s!"Get {who} to jump out"
  | .lose => s!"Prevent {who} from jumping out"

/-- The condition as an objective, in words. -/
def objectiveText (condition : Condition) (world : World) (role : ObjectiveRole) :
    Except ConfigError String :=
  let who := condition.subjects.text world
  match condition.kind with
  | .destroyed count => .ok (destroyedText count who role)
  | .count threshold relation =>
    if relation = .below then .ok (countText threshold who role)
    else .error (.unsupportedObjectiveRelation relation.name)
  | .time timer =>
    if timer.isObjective then .ok (timeText timer.plan.time role)
    else .error (.notObjective condition.typeName)
  | .integrity .hull band _ => .ok (integrityText .hull band who role)
  | .distance target band _ =>
    let name := ((world.craft? target).map Spacecraft.displayName).getD ""
    .ok (distanceText band who name role)
  | .away _ => .ok (awayText who role)
  | .integrity .shield _ _ | .hit _ _ | .onTeam _ | .missionState _ | .getsTargeted _ _
  | .isTargeted _ => .error (.notObjective condition.typeName)

/-- The least of some percentages, and zero of none. -/
def lowest : List Scalar → Scalar
  | [] => 0
  | first :: rest => rest.foldl Scalar.min first

/-- The first of the numbers that no other one precedes in the order of all numbers. -/
def nearest? : List Scalar → Option Scalar
  | [] => none
  | first :: rest =>
    some <| rest.foldl
      (fun best x => if Scalar.orderKey x < Scalar.orderKey best then x else best) first

/-- The state of the condition in words, if there are any, and the condition after the question. -/
def stateText (condition : Condition) (world : World) : Option String × Condition :=
  match condition.kind with
  | .destroyed count =>
    let condition := condition.resolve world
    let needed := needed count condition.subjects
    let destroyed := min (condition.subjects.destroyedCount world) needed
    (some s!"{destroyed}/{needed}", condition)
  | .count _ _ =>
    let condition := condition.resolve world
    let live := condition.subjects.liveCount world
    (some s!"{live} left", condition)
  | .time timer => (timer.stateText?, condition)
  | .integrity .hull _ _ =>
    let condition := condition.resolve world
    let left := (lowest ((condition.subjects.crafts world).map (percent .hull))).fixed 0
    (some s!"{left}%", condition)
  | .distance target _ _ =>
    match world.craft? target with
    | none => (none, condition)
    | some target =>
      let condition := condition.resolve world
      let present := (condition.subjects.crafts world).filter Spacecraft.isPresent
      let distances := present.map fun craft => craft.position.distance target.position
      ((nearest? distances).map (·.fixed 0 ++ " m"), condition)
  | .integrity .shield _ _ | .away _ | .hit _ _ | .onTeam _ | .missionState _
  | .getsTargeted _ _ | .isTargeted _ => (none, condition)

end Condition

end Sortie
