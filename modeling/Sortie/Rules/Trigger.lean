import Sortie.Rules.Condition

namespace Sortie

namespace FireWhen

/-- Whether a trigger decides to fire, by the present and the previous value of its conditions. -/
def decides (policy : FireWhen) (first current previous : Bool) : Bool :=
  match policy with
  | missionStarts => first
  | isTrue => current
  | isFalse => !current
  | change => current != previous
  | changeToTrue => current && !previous
  | changeToFalse => !current && previous

end FireWhen

/-- How far a one-shot trigger has come. -/
inductive OneShot where
  | armed
  /-- Decided; fires when the milliseconds are over. -/
  | counting (remaining : Scalar)
  | fired

/-- When an event fires. A trigger looks at all its conditions in every step, combines the results
and decides by its policy. A one-shot trigger may wait between the decision and the firing, and does
not look any more once it has decided. -/
structure Trigger where
  conditions : List Condition := []
  required : Quantity := .all
  policy : FireWhen := .changeToTrue
  /-- Missing in a trigger that can fire again and again. -/
  oneShot : Option OneShot := none
  /-- Milliseconds between the decision and the firing. -/
  delay : Scalar := 0
  /-- The value of the conditions at the latest look. -/
  previous : Bool := false
  started : Bool := false
  /-- A trigger that is not built right never fires. -/
  disabled : Bool := false

namespace Trigger

/-- A trigger that never fires. -/
def off : Trigger := { oneShot := some .armed, disabled := true }

/-- The looks of all conditions, none of which is left out even if the result is clear. -/
def looks (trigger : Trigger) (world : World) (dt : Scalar) : List (Bool × Condition) :=
  trigger.conditions.map fun condition => condition.look world dt

/-- The decision of one step. -/
def judge (trigger : Trigger) (world : World) (dt : Scalar) : Bool × Trigger :=
  let first := !trigger.started
  let trigger := { trigger with started := true }
  if trigger.policy = .missionStarts then (first, trigger)
  else
    let looks := trigger.looks world dt
    let current := trigger.required.holds (looks.map Prod.fst)
    (trigger.policy.decides first current trigger.previous,
      { trigger with conditions := looks.map Prod.snd, previous := current })

/-- What a trigger does that has decided to fire. -/
def commit (trigger : Trigger) : Bool × Trigger :=
  match trigger.oneShot with
  | none => (true, trigger)
  | some _ =>
    if 0 < trigger.delay then (false, { trigger with oneShot := some (.counting trigger.delay) })
    else (true, { trigger with oneShot := some .fired })

/-- Looks at the conditions and fires or starts to wait, if it decides so. -/
def consider (trigger : Trigger) (world : World) (dt : Scalar) : Bool × Trigger :=
  let (decided, trigger) := trigger.judge world dt
  if decided then trigger.commit else (false, trigger)

/-- One step, and whether the trigger fires in it. -/
def simulate (trigger : Trigger) (world : World) (dt : Scalar) : Bool × Trigger :=
  if trigger.disabled then (false, trigger)
  else
    match trigger.oneShot with
    | some .fired => (false, trigger)
    | some (.counting remaining) =>
      let remaining := remaining - dt
      if remaining ≤ 0 then (true, { trigger with oneShot := some .fired })
      else (false, { trigger with oneShot := some (.counting remaining) })
    | some .armed => trigger.consider world dt
    | none => trigger.consider world dt

/-- Whether the trigger's conditions are of kinds that can become impossible together. -/
def canBeImpossible (trigger : Trigger) : Bool :=
  if trigger.disabled || trigger.conditions.isEmpty then false
  else
    match trigger.required with
    | .all => trigger.conditions.any Condition.canBeImpossible
    | .any => trigger.conditions.all Condition.canBeImpossible

/-- Asks conditions in turn whether they are impossible, up to the first whose answer is `verdict`.
If there is none, the answer is the opposite. -/
def askUntil (verdict : Bool) (world : World) : List Condition → Bool × List Condition
  | [] => (!verdict, [])
  | condition :: rest =>
    let (impossible, condition) := condition.checkImpossible world
    if impossible = verdict then (verdict, condition :: rest)
    else
      let (answer, rest) := askUntil verdict world rest
      (answer, condition :: rest)

/-- Whether the conditions can never hold again as required, and the trigger after the question. -/
def checkImpossible (trigger : Trigger) (world : World) : Bool × Trigger :=
  if trigger.disabled || trigger.conditions.isEmpty then (false, trigger)
  else
    let (impossible, conditions) := askUntil (trigger.required == .all) world trigger.conditions
    (impossible, { trigger with conditions })

end Trigger

end Sortie
