import Sortie.World.Basic

namespace Sortie

inductive TimeWhen where
  /-- Until the time is up. -/
  | before
  /-- From the moment on at which the time is up. -/
  | after
  /-- Only at that moment. -/
  | once
  /-- Each time another period is up. -/
  | repeating
  deriving DecidableEq, Repr

/-- What a timer waits for. -/
structure TimerPlan where
  /-- In milliseconds. -/
  time : Scalar
  when : TimeWhen
  maxCount : Option Nat
  /-- Milliseconds that are on the clock when it starts. -/
  startOffset : Scalar
  /-- The event whose first firing starts the clock. -/
  startEvent : Option Nat

/-- A timer and how far it has come. -/
structure Timer where
  plan : TimerPlan
  running : Bool := false
  /-- Milliseconds on the clock; of a repeating timer, since the last full period. -/
  elapsed : Scalar := 0
  /-- The periods that are up. -/
  count : Nat := 0
  fired : Bool := false

namespace Timer

def countLimit : Nat := UInt32.size - 1

/-- Whether the clock may run. -/
def isStarted (plan : TimerPlan) (world : World) : Bool :=
  match plan.startEvent with
  | none => true
  | some event => 0 < world.fireCount event

/-- The clock after `dt` milliseconds. -/
def advance (timer : Timer) (dt : Scalar) : Timer :=
  let elapsed := if timer.running then timer.elapsed else timer.plan.startOffset
  { timer with running := true, elapsed := elapsed + dt }

/-- The periods that may still be counted. -/
def countsLeft (timer : Timer) : Nat :=
  match timer.plan.maxCount with
  | some most => most - timer.count
  | none => countLimit

/-- Counts every full period on the clock, of which there may be several. -/
def countPeriods (timer : Timer) : Bool × Timer :=
  let left := timer.countsLeft
  if left = 0 ∨ timer.elapsed < timer.plan.time then (false, timer)
  else
    let periods := (timer.elapsed / timer.plan.time).floor
    let crossed := if periods < Scalar.ofCount left then periods.wholeCount else left
    (true,
      { timer with
        count := min (timer.count + crossed) countLimit
        elapsed := timer.elapsed.wrap timer.plan.time })

/-- Whether the timer's condition holds after the clock was advanced. -/
def judge (timer : Timer) : Bool × Timer :=
  match timer.plan.when with
  | .before => (timer.elapsed < timer.plan.time, timer)
  | .after => (timer.plan.time ≤ timer.elapsed, timer)
  | .once =>
    if ¬ timer.fired ∧ timer.plan.time ≤ timer.elapsed then (true, { timer with fired := true })
    else (false, timer)
  | .repeating => timer.countPeriods

/-- One look at the timer, `dt` milliseconds after the last one. -/
def evaluate (timer : Timer) (world : World) (dt : Scalar) : Bool × Timer :=
  if timer.running ∨ isStarted timer.plan world then (timer.advance dt).judge
  else (false, timer)

def canBeImpossible (timer : Timer) : Bool :=
  match timer.plan.when with
  | .before | .once => true
  | .after => false
  | .repeating => timer.plan.maxCount.isSome

/-- Whether the condition can never hold again. -/
def isImpossible (timer : Timer) : Bool :=
  match timer.plan.when with
  | .before => timer.running && timer.plan.time ≤ timer.elapsed
  | .once => timer.fired
  | .after => false
  | .repeating => timer.plan.maxCount.any fun most => most ≤ timer.count

/-- Whether the timer can be an objective. -/
def isObjective (timer : Timer) : Bool :=
  match timer.plan.when with
  | .after | .once => true
  | .before | .repeating => false

/-- The seconds that are left, while there is something to wait for. -/
def stateText? (timer : Timer) : Option String :=
  if ¬ timer.running ∨ timer.fired ∨ ¬ timer.isObjective then none
  else some ((Scalar.seconds (timer.plan.time - timer.elapsed).orZero).fixed 0 ++ " s")

end Timer

end Sortie
