import Sortie.Proofs.Course
import Sortie.Proofs.Loaded
import Sortie.Proofs.StateHistory

set_option autoImplicit false

namespace Sortie

open World (Changes)
open World.ChangeKind (firing ruling)

namespace Event

/-- In a step of all events, each is stepped in the world that those before it leave. -/
theorem simulateAll_sight (dt : Scalar) (index : Nat) (events : List Event) (world : World)
    {place : Nat} {event : Event} (found : events[place]? = some event) :
    (simulateAll dt index events world).1[place]? =
      some (event.simulate (index + place)
        (simulateAll dt index (events.take place) world).2 dt).1 := by
  induction events generalizing index world place with
  | nil => cases found
  | cons first rest ih =>
    cases place with
    | zero =>
      rw [List.getElem?_cons_zero] at found
      cases found
      rfl
    | succ place =>
      rw [List.getElem?_cons_succ] at found
      have shifted : index + 1 + place = index + (place + 1) := by omega
      have later := ih (index + 1) (first.simulate index world dt).2 found
      rw [shifted] at later
      simpa only [simulateAll, List.take_succ_cons, List.getElem?_cons_succ] using later

/-- A step of all events is a step of the first ones and then of the others. -/
theorem simulateAll_append (dt : Scalar) (index : Nat) (first second : List Event)
    (world : World) :
    (simulateAll dt index (first ++ second) world).2 =
      (simulateAll dt (index + first.length) second (simulateAll dt index first world).2).2 := by
  induction first generalizing index world with
  | nil => rfl
  | cons event rest ih =>
    have shifted : index + 1 + rest.length = index + (rest.length + 1) := by omega
    simp only [List.cons_append, simulateAll, ih, shifted, List.length_cons]

end Event

namespace Mission

variable {π : Type}

/-- The mission in which the events of a step begin. -/
def waited (mission : Mission π) (dt : Scalar) : Mission π :=
  (mission.advanceTime dt).runDueActions dt

/-- The world that the conditions of an event see in a step. -/
def sight (mission : Mission π) (dt : Scalar) (index : Nat) : World :=
  let due := mission.waited dt
  if mission.authority then (Event.simulateAll dt 0 (due.events.take index) due.world).2
  else due.world

theorem waited_authority (mission : Mission π) (dt : Scalar) :
    (mission.waited dt).authority = mission.authority :=
  runDueActions_authority _ dt

theorem waited_trigger? (mission : Mission π) (dt : Scalar) (index : Nat) :
    (mission.waited dt).trigger? index = mission.trigger? index :=
  trigger?_of_triggers ((mission.advanceTime dt).runDueActions_triggers dt) index

theorem waited_changes (mission : Mission π) (dt : Scalar) :
    Changes ruling mission.world (mission.waited dt).world :=
  mission.advanceTime_runDueActions_changes dt

/-- What the events before an event do in the same step. -/
theorem waited_sight_changes (mission : Mission π) (dt : Scalar) (index : Nat) :
    Changes firing (mission.waited dt).world (mission.sight dt index) :=
  .ite _ (Event.simulateAll_changes dt 0 _ _) (.refl _)

/-- From the start of a step to what an event sees in it. -/
theorem sight_changes (mission : Mission π) (dt : Scalar) (index : Nat) :
    Changes ruling mission.world (mission.sight dt index) :=
  (mission.waited_changes dt).trans ((mission.waited_sight_changes dt index).mono (by decide))

/-- What the events after an event do in the same step. -/
theorem sight_ruled_changes (mission : Mission π) (dt : Scalar) (index : Nat) :
    Changes firing (mission.sight dt index) ((mission.waited dt).ruled dt) := by
  unfold sight ruled
  rw [mission.waited_authority dt]
  split
  · have parts := Event.simulateAll_append dt 0 ((mission.waited dt).events.take index)
      ((mission.waited dt).events.drop index) (mission.waited dt).world
    rw [List.take_append_drop] at parts
    rw [parts]
    exact Event.simulateAll_changes dt _ _ _
  · exact .refl _

/-- From the start of a step to the end of its events. -/
theorem waited_ruled_changes (mission : Mission π) (dt : Scalar) :
    Changes ruling mission.world ((mission.waited dt).ruled dt) :=
  (mission.waited_changes dt).trans ((ruled_changes _ dt).mono (by decide))

/-- Where events run, the rules step each trigger in the world that it sees. -/
theorem runRules_sight (mission : Mission π) (dt : Scalar) (host : mission.authority = true)
    {index : Nat} {trigger : Trigger} (found : mission.trigger? index = some trigger) :
    (mission.runRules dt).trigger? index =
      some (trigger.simulate (mission.sight dt index) dt).2 := by
  obtain ⟨event, there, rfl⟩ := trigger?_eq_some.mp ((mission.waited_trigger? dt index).trans found)
  have stepped := Event.simulateAll_sight dt 0 _ (mission.waited dt).world there
  refine trigger?_eq_some.mpr ⟨_, ?_, event.simulate_trigger (0 + index) _ dt⟩
  simp only [runRules, runEvents, mission.runRules_authority dt, sight, host, ↓reduceIte]
  exact stepped

variable [Pilot π]

/-- From the look of an event to the end of the step, spacecraft age. -/
theorem sight_tick_ages (mission : Mission π) {dt : Scalar} (accepted : accepts dt = true)
    (index : Nat) : (mission.sight dt index).Ages (mission.tick dt).world := by
  have ruled : (mission.sight dt index).Ages (mission.runRules dt).world := by
    rw [runRules, runEvents_world]
    exact (mission.sight_ruled_changes dt index).ages.trans (.of_same rfl rfl)
  have flown := ((mission.runRules dt).runCrafts_passive dt).world.toAges
  rw [mission.tick_of_accepts dt accepted]
  exact (ruled.trans flown).trans (updateState_changes _).ages

theorem play_ages (mission : Mission π) (inputs : List (Input π)) :
    mission.world.Ages (mission.play inputs).world := by
  induction inputs generalizing mission with
  | nil => exact .refl _
  | cons input rest ih =>
    refine World.Ages.trans ?_ (ih (mission.take input))
    rcases mission.take_cases input with ⟨dt, rfl, accepted⟩ | ⟨world, _, _⟩
    · exact (mission.sight_changes dt 0).ages.trans (mission.sight_tick_ages accepted 0)
    · rw [world]
      exact .refl _

/-- Where events run, an accepted step steps each trigger in the world that it sees, and may ask it
after that. -/
theorem tick_sight (mission : Mission π) {dt : Scalar} (accepted : accepts dt = true)
    (host : mission.authority = true) {index : Nat} {trigger : Trigger}
    (found : mission.trigger? index = some trigger) :
    ∃ later, (mission.tick dt).trigger? index = some later ∧
      (trigger.simulate (mission.sight dt index) dt).2.Asked later := by
  have flown : (mission.advance dt).trigger? index =
      some (trigger.simulate (mission.sight dt index) dt).2 := by
    rw [← mission.runRules_sight dt host found]
    exact trigger?_of_triggers (by rw [advance, (runCrafts_passive _ dt).events]) index
  obtain ⟨later, here, asked⟩ := trigger?_of_rests (updateState_rests (mission.advance dt)) flown
  rw [mission.tick_of_accepts dt accepted]
  exact ⟨later, here, asked⟩

end Mission

end Sortie
