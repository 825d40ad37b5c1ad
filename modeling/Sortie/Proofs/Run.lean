import Sortie.Mission.Tick

set_option autoImplicit false

namespace Sortie.Mission

variable {π : Type} [Pilot π]

/-- What happens to a mission from outside. -/
inductive Input (π : Type) where
  /-- One step of so many milliseconds. -/
  | tick (dt : Scalar)
  | authority (on : Bool)
  | pilot (pilot : Option π)
  | autopilot (on : Bool)
  | intent (intent : Option Intent)
  | camera (place : Option Vec)
  /-- The display asks for the objectives. -/
  | reports
  /-- The display asks for the targets. -/
  | targets

def take (mission : Mission π) : Input π → Mission π
  | .tick dt => mission.tick dt
  | .authority on => { mission with authority := on }
  | .pilot pilot => { mission with pilot }
  | .autopilot on => { mission with autopilot := on }
  | .intent intent => { mission with pilotIntent := intent }
  | .camera place => { mission with camera := place }
  | .reports => mission.objectiveReports.2
  | .targets => mission.objectiveTargets.2

def play (mission : Mission π) (inputs : List (Input π)) : Mission π := inputs.foldl take mission

@[simp] theorem play_nil (mission : Mission π) : mission.play [] = mission := rfl

@[simp] theorem play_cons (mission : Mission π) (input : Input π) (rest : List (Input π)) :
    mission.play (input :: rest) = (mission.take input).play rest := rfl

theorem play_append (mission : Mission π) (first second : List (Input π)) :
    mission.play (first ++ second) = (mission.play first).play second := by
  simp only [play, List.foldl_append]

/-- What every input keeps, every run keeps. -/
theorem play_keeps (invariant : Mission π → Prop)
    (kept : ∀ mission input, invariant mission → invariant (mission.take input))
    (mission : Mission π) (inputs : List (Input π)) (initial : invariant mission) :
    invariant (mission.play inputs) := by
  induction inputs generalizing mission with
  | nil => exact initial
  | cons input rest ih => exact ih (mission.take input) (kept mission input initial)

/-- The part of a step in which rules act: time, waiting actions and events. -/
def runRules (mission : Mission π) (dt : Scalar) : Mission π :=
  ((mission.advanceTime dt).runDueActions dt).runEvents dt

/-- The part of a step in which spacecraft fly, collide and shoot. -/
def runCrafts (mission : Mission π) (dt : Scalar) : Mission π :=
  let mission := (mission.controlCrafts dt).simulateCrafts dt
  let mission := (mission.resolveCollisions.simulateWeapons dt).simulateEffects dt
  mission.recenterOrigin

/-- A step up to the point where the mission's state follows from what has happened. -/
def advance (mission : Mission π) (dt : Scalar) : Mission π := (mission.runRules dt).runCrafts dt

theorem intents_withEvents (mission : Mission π) (events : List Event) (dt : Scalar)
    (pilot : Option π) (indices : List Nat) :
    ({ mission with events } : Mission π).intents dt pilot indices =
      mission.intents dt pilot indices := by
  induction indices generalizing pilot with
  | nil => rfl
  | cons index rest ih =>
    simp only [intents, ih]
    rfl

/-- Spacecraft neither see nor change the events. -/
theorem runCrafts_withEvents (mission : Mission π) (events : List Event) (dt : Scalar) :
    ({ mission with events } : Mission π).runCrafts dt = { mission.runCrafts dt with events } := by
  have controlled : ({ mission with events } : Mission π).controlCrafts dt =
      { mission.controlCrafts dt with events } := by
    unfold controlCrafts
    rw [intents_withEvents]
  have flown (mission : Mission π) : ({ mission with events } : Mission π).simulateCrafts dt =
      { mission.simulateCrafts dt with events } := rfl
  have collided (mission : Mission π) : ({ mission with events } : Mission π).resolveCollisions =
      { mission.resolveCollisions with events } := rfl
  have shot (mission : Mission π) : ({ mission with events } : Mission π).simulateWeapons dt =
      { mission.simulateWeapons dt with events } := rfl
  have faded (mission : Mission π) : ({ mission with events } : Mission π).simulateEffects dt =
      { mission.simulateEffects dt with events } := rfl
  have recentered (mission : Mission π) :
      ({ mission with events } : Mission π).recenterOrigin =
        { mission.recenterOrigin with events } := by
    unfold recenterOrigin
    rw [show ({ mission with events } : Mission π).viewpoint? = mission.viewpoint? from rfl]
    cases mission.viewpoint? with
    | none => rfl
    | some viewpoint =>
      dsimp only
      by_cases near : viewpoint.length ≤ mission.world.settings.originRecenterDistance
      · rw [if_pos near, if_pos near]
      · rw [if_neg near, if_neg near]
  simp only [runCrafts, controlled, flown, collided, shot, faded, recentered]

/-- The steps that are taken. -/
theorem finite_of_accepts {dt : Scalar} (accepted : accepts dt = true) :
    dt.isFinite = true ∧ ¬ dt < 0 := by
  simpa only [accepts, Bool.and_eq_true, Bool.not_eq_true', decide_eq_false_iff_not] using accepted

theorem tick_of_accepts (mission : Mission π) (dt : Scalar) (accepted : accepts dt = true) :
    mission.tick dt = (mission.advance dt).updateState := by
  simp only [tick, accepted, ↓reduceIte, advance, runRules, runCrafts]

/-- The mission when its state is decided, at the end of a step. -/
def decided (mission : Mission π) (dt : Scalar) : Mission π :=
  (mission.advance dt).evaluateObjectives

theorem tick_world (mission : Mission π) (dt : Scalar) (accepted : accepts dt = true) :
    (mission.tick dt).world =
      (mission.decided dt).world.setState (mission.decided dt).nextState := by
  rw [mission.tick_of_accepts dt accepted]
  rfl

theorem tick_objectives_eq_decided (mission : Mission π) (dt : Scalar)
    (accepted : accepts dt = true) :
    (mission.tick dt).objectives = (mission.decided dt).objectives := by
  rw [mission.tick_of_accepts dt accepted]
  rfl

theorem tick_of_not_accepts (mission : Mission π) (dt : Scalar)
    (refused : accepts dt = false) : mission.tick dt = mission := by
  simp only [tick, refused, Bool.false_eq_true, ↓reduceIte]

end Sortie.Mission
