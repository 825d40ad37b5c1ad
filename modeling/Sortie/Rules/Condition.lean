import Sortie.Rules.Subjects
import Sortie.Rules.Timer

namespace Sortie

/-- How the number of live subjects compares to a threshold. -/
inductive CountRelation where
  /-- At most as many. -/
  | below
  /-- At least as many. -/
  | above
  | equals
  deriving DecidableEq, Repr

namespace CountRelation

def name : CountRelation → String
  | below => "below"
  | above => "above"
  | equals => "equals"

def holds (relation : CountRelation) (live threshold : Nat) : Bool :=
  match relation with
  | below => live ≤ threshold
  | above => threshold ≤ live
  | equals => live == threshold

end CountRelation

inductive IntegrityMeasure where
  | hull
  | shield
  deriving DecidableEq, Repr

namespace IntegrityMeasure

def name : IntegrityMeasure → String
  | hull => "hull"
  | shield => "shield"

end IntegrityMeasure

/-- Bounds of a number, either of which may be missing. -/
structure Band where
  least : Option Scalar
  most : Option Scalar

namespace Band

def contains (band : Band) (x : Scalar) : Bool :=
  band.least.all (fun least => decide (least ≤ x)) &&
    band.most.all fun most => decide (x ≤ most)

end Band

/-- The notices that have not been read, and whether one of those read is still to be reported. -/
structure NoticeEdge where
  cursor : Nat := 0
  pending : Bool := false

namespace NoticeEdge

/-- Reads the new notices. A report is used up only if time has passed. -/
def update (edge : NoticeEdge) (log : NoticeLog) (dt : Scalar) (fits : Notice → Bool) :
    Bool × NoticeEdge :=
  let satisfied := (log.since edge.cursor).any fits || edge.pending
  (satisfied, ⟨log.finish, satisfied && !decide (0 < dt)⟩)

end NoticeEdge

inductive ConditionKind where
  /-- All subjects, or as many as `count`, are destroyed. -/
  | destroyed (count : Option Nat)
  | count (threshold : Nat) (relation : CountRelation)
  | time (timer : Timer)
  /-- The percentage of what is left lies in a band. -/
  | integrity (measure : IntegrityMeasure) (band : Band) (which : Quantity)
  /-- The distance to a spacecraft lies in a band. -/
  | distance (target : Nat) (band : Band) (which : Quantity)
  /-- A subject was hit, by one of a group if there is one. -/
  | hit (source : Option SubjectDescriptor) (edge : NoticeEdge)
  | away (which : Quantity)
  | onTeam (team : String)
  | missionState (states : List MissionState)
  /-- A subject became the target of someone, of one of a group if there is one. -/
  | getsTargeted (source : Option SubjectDescriptor) (edge : NoticeEdge)
  /-- A present subject is the target of someone present. -/
  | isTargeted (source : Option SubjectDescriptor)

/-- A condition of a trigger. It is looked at once in each step. Once it can never hold again it
stays impossible, and is not evaluated any more. -/
structure Condition where
  kind : ConditionKind
  subjects : SubjectGroup := {}
  /-- The result of the latest look. -/
  lastSatisfied : Bool := false
  /-- Whether it was found that the condition can never hold again. -/
  impossible : Bool := false

namespace Condition

def typeName (condition : Condition) : String :=
  match condition.kind with
  | .destroyed _ => "destroyed"
  | .count _ _ => "count"
  | .time _ => "time"
  | .integrity .hull _ _ => "hullIntegrity"
  | .integrity .shield _ _ => "shieldIntegrity"
  | .distance _ _ _ => "distance"
  | .hit _ _ => "hit"
  | .away _ => "away"
  | .onTeam _ => "onTeam"
  | .missionState _ => "missionState"
  | .getsTargeted _ _ => "getsTargeted"
  | .isTargeted _ => "isTargeted"

def resolve (condition : Condition) (world : World) : Condition :=
  { condition with subjects := condition.subjects.resolve world }

/-- How many subjects must be destroyed. -/
def needed (count : Option Nat) (subjects : SubjectGroup) : Nat :=
  let total := subjects.members.length
  match count with
  | some count => min count total
  | none => total

/-- The percentage that is left of a spacecraft's hull or shield. -/
def percent (measure : IntegrityMeasure) (craft : Spacecraft) : Scalar :=
  if ¬ craft.alive then 0
  else match measure with
    | .hull => craft.hullIntegrity * 100
    | .shield => craft.shieldIntegrity * 100

/-- Destroyed or gone for good. -/
def isGone (craft : Spacecraft) : Bool := !craft.alive || craft.departed

/-- Whether a group that may be missing describes the spacecraft of an index. -/
def isSource (source : Option SubjectDescriptor) (world : World) (index : Nat) : Bool :=
  match source with
  | none => true
  | some descriptor => (world.craft? index).any (SubjectGroup.describes descriptor)

/-- A notice that a subject was hit. -/
def fitsHit (subjects : SubjectGroup) (source : Option SubjectDescriptor) (world : World) :
    Notice → Bool
  | .hit target attacker =>
    subjects.hasIndex world target &&
      (source.isNone || attacker.any (isSource source world))
  | .targeted _ _ => false

/-- A notice that a subject became a target. -/
def fitsTargeted (subjects : SubjectGroup) (source : Option SubjectDescriptor) (world : World) :
    Notice → Bool
  | .targeted target by_ => subjects.hasIndex world target && isSource source world by_
  | .hit _ _ => false

/-- Whether someone present targets a present subject. -/
def someoneTargets (subjects : SubjectGroup) (source : Option SubjectDescriptor) (world : World) :
    Bool :=
  world.present.any fun (_, craft) =>
    (source.all fun descriptor => SubjectGroup.describes descriptor craft) &&
      (craft.target.bind world.craft?).any fun target => target.isPresent && subjects.has target

/-- The present spacecraft that distances are measured to. -/
def presentTarget? (world : World) (target : Nat) : Option Spacecraft :=
  (world.craft? target).filter Spacecraft.isPresent

/-- Whether a subject is present and as far from the target as it should be. -/
def inBand (band : Band) (target craft : Spacecraft) : Bool :=
  craft.isPresent && band.contains (craft.position.distance target.position)

/-- Whether the condition's kind holds now, and the condition after this look. -/
def evaluate (condition : Condition) (world : World) (dt : Scalar) : Bool × Condition :=
  match condition.kind with
  | .destroyed count =>
    let condition := condition.resolve world
    let needed := needed count condition.subjects
    (decide (0 < needed) && decide (needed ≤ condition.subjects.destroyedCount world), condition)
  | .count threshold relation =>
    let condition := condition.resolve world
    (relation.holds (condition.subjects.liveCount world) threshold, condition)
  | .time timer =>
    let (satisfied, timer) := timer.evaluate world dt
    (satisfied, { condition with kind := .time timer })
  | .integrity measure band which =>
    let condition := condition.resolve world
    (which.holdsOfSome ((condition.subjects.crafts world).map fun craft =>
      band.contains (percent measure craft)), condition)
  | .distance target band which =>
    match presentTarget? world target with
    | none => (false, condition)
    | some target =>
      let condition := condition.resolve world
      (which.holdsOfSome ((condition.subjects.crafts world).map (inBand band target)), condition)
  | .hit source edge =>
    let (satisfied, edge) := edge.update world.notices dt (fitsHit condition.subjects source world)
    (satisfied, { condition with kind := .hit source edge })
  | .away which =>
    let condition := condition.resolve world
    (which.holdsOfSome ((condition.subjects.crafts world).map fun craft =>
      craft.alive && craft.isAway), condition)
  | .onTeam team =>
    let condition := condition.resolve world
    (Quantity.all.holdsOfSome ((condition.subjects.crafts world).map fun craft =>
      craft.team == some team), condition)
  | .missionState states => (states.contains world.state, condition)
  | .getsTargeted source edge =>
    let (satisfied, edge) :=
      edge.update world.notices dt (fitsTargeted condition.subjects source world)
    (satisfied, { condition with kind := .getsTargeted source edge })
  | .isTargeted source => (someoneTargets condition.subjects source world, condition)

/-- Whether the condition is of a kind that can become impossible. -/
def canBeImpossible (condition : Condition) : Bool :=
  match condition.kind with
  | .destroyed _ | .distance _ _ _ | .away _ => true
  | .count _ relation => relation != .below
  | .time timer => timer.canBeImpossible
  | .integrity measure band _ => measure == .hull && band.least.isSome
  | .hit _ _ | .onTeam _ | .missionState _ | .getsTargeted _ _ | .isTargeted _ => false

/-- Whether the condition's kind can never hold again, and the condition after this look. -/
def judgeImpossible (condition : Condition) (world : World) : Bool × Condition :=
  match condition.kind with
  | .destroyed count =>
    let condition := condition.resolve world
    let subjects := condition.subjects
    (decide (subjects.destroyedCount world + subjects.liveCount world < needed count subjects),
      condition)
  | .count threshold _ =>
    let condition := condition.resolve world
    (decide (condition.subjects.liveCount world < threshold), condition)
  | .time timer => (timer.isImpossible, condition)
  | .integrity measure band which =>
    match band.least with
    | none => (false, condition)
    | some least =>
      let condition := condition.resolve world
      let below := (condition.subjects.crafts world).map fun craft =>
        decide (percent measure craft < least)
      (match which with
        | .all => below.any id
        | .any => Quantity.all.holdsOfSome below, condition)
  | .distance target _ which =>
    if (world.craft? target).all isGone then (true, condition)
    else
      let condition := condition.resolve world
      let gone := (condition.subjects.crafts world).map isGone
      (match which with
        | .all => gone.any id
        | .any => gone.all id, condition)
  | .away which =>
    let condition := condition.resolve world
    let dead := (condition.subjects.crafts world).map fun craft => !craft.alive
    (match which with
      | .all => dead.any id
      | .any => dead.all id, condition)
  | .hit _ _ | .onTeam _ | .missionState _ | .getsTargeted _ _ | .isTargeted _ =>
    (false, condition)

/-- Whether the condition can never hold again. What is found impossible stays so. -/
def checkImpossible (condition : Condition) (world : World) : Bool × Condition :=
  if condition.impossible then (true, condition)
  else if ¬ condition.canBeImpossible then (false, condition)
  else
    let (impossible, condition) := condition.judgeImpossible world
    (impossible, { condition with impossible })

/-- The look of one step. The impossible does not hold. Whether it is impossible from now on is
found after the evaluation, so that what happens once is still reported. -/
def look (condition : Condition) (world : World) (dt : Scalar) : Bool × Condition :=
  if condition.impossible then (false, { condition with lastSatisfied := false })
  else
    let (satisfied, condition) := condition.evaluate world dt
    (satisfied, ({ condition with lastSatisfied := satisfied }.checkImpossible world).2)

/-- The spacecraft that the condition is about, and the condition after the question. -/
def subjectCrafts (condition : Condition) (world : World) : List Nat × Condition :=
  match condition.kind with
  | .time _ | .missionState _ => ([], condition)
  | _ =>
    let condition := condition.resolve world
    (condition.subjects.members, condition)

end Condition

end Sortie
