import Sortie.Proofs.Loaded
import Sortie.Proofs.StateGraph

set_option autoImplicit false

namespace Sortie

open MissionState (changes Leads Linked)

namespace Event

/-- The states after each of the actions of an event that fires. -/
def statesOfActions (place : ActionPlace) : List Action → World → List MissionState
  | [], _ => []
  | action :: rest, world =>
    let world := (runActions place [action] world).2
    world.state :: statesOfActions { place with action := place.action + 1 } rest world

/-- The states after each action in a step of all events. -/
def statesOfAll (dt : Scalar) (index : Nat) : List Event → World → List MissionState
  | [], _ => []
  | event :: rest, world =>
    (if (event.trigger.simulate world dt).1 then
      statesOfActions ⟨index, 0⟩ event.actions (world.recordFire index) else []) ++
      statesOfAll dt (index + 1) rest (event.simulate index world dt).2

end Event

namespace Mission

variable {π : Type}

/-- The states after each of the actions that are due. -/
def statesOfDue : List ActionPlace → List Event → World → List MissionState
  | [], _, _ => []
  | place :: rest, events, world =>
    let done := Event.executeAt events place world
    done.2.state :: statesOfDue rest done.1 done.2

def statesOfDueActions (mission : Mission π) (dt : Scalar) : List MissionState :=
  if mission.authority then
    statesOfDue (mission.world.takeDue dt).1 mission.events (mission.world.takeDue dt).2
  else []

def statesOfEvents (mission : Mission π) (dt : Scalar) : List MissionState :=
  if mission.authority then Event.statesOfAll dt 0 mission.events mission.world else []

variable [Pilot π]

/-- The states after each phase and each action of a step, up to the last phase. -/
def statesOfAdvance (mission : Mission π) (dt : Scalar) : List MissionState :=
  let timed := mission.advanceTime dt
  let due := timed.runDueActions dt
  let ruled := due.runEvents dt
  let controlled := ruled.controlCrafts dt
  let flown := controlled.simulateCrafts dt
  let parted := flown.resolveCollisions
  let shot := parted.simulateWeapons dt
  let faded := shot.simulateEffects dt
  let centred := faded.recenterOrigin
  [timed.state] ++ timed.statesOfDueActions dt ++ due.statesOfEvents dt ++
    [ruled.state, controlled.state, flown.state, parted.state, shot.state, faded.state,
      centred.state]

/-- The states that a mission goes through while it takes an input. -/
def statesOf (mission : Mission π) : Input π → List MissionState
  | .tick dt =>
    if accepts dt then mission.statesOfAdvance dt ++ [(mission.tick dt).state] else []
  | input => [(mission.take input).state]

/-- The states that a mission goes through in a run. -/
def history (mission : Mission π) : List (Input π) → List MissionState
  | [] => []
  | input :: rest => mission.statesOf input ++ (mission.take input).history rest

theorem history_append (mission : Mission π) (first second : List (Input π)) :
    mission.history (first ++ second) =
      mission.history first ++ (mission.play first).history second := by
  induction first generalizing mission with
  | nil => rfl
  | cons input rest ih =>
    simp only [List.cons_append, history, ih, List.append_assoc, play_cons]

end Mission

namespace Event

/-- Whether any event wins or loses the mission. -/
def declares (events : List Event) : Bool := events.any fun event => event.hasWin || event.hasLose

theorem declares_of_same {before after : List Event}
    (same : after.map pristine = before.map pristine) : declares after = declares before := by
  have both := congrArg declares same
  simpa only [declares, List.any_map, Function.comp_def, hasWin_pristine, hasLose_pristine]
    using both

end Event

namespace World

/-- What holds between the phases of every run: without anything to fight over there is no pilot, a
defeated pilot is dead, and only a mission that declares a win or a loss has one pending. -/
structure Sane (declared : Bool) (world : World) : Prop where
  unpiloted : world.state = .idle ∨ world.state = .ended → world.piloted = none
  defeated : world.state = .defeat → world.pilotDown = true
  pending : world.state = .inProgress → declared = true

/-- A world passes through some states to another world, and tells of every change. -/
structure Passes (declared : Bool) (before : World) (states : List MissionState)
    (after : World) : Prop extends before.Ages after where
  told : after.told = before.told ++ changes before.state states
  last : after.state = states.getLastD before.state
  path : (before.state :: states).IsChain (Leads declared)
  sane : before.Sane declared → after.Sane declared

theorem piloted_of_pilotDown {world : World} (down : world.pilotDown = true) :
    world.piloted ≠ none := by
  intro unpiloted
  simp [pilotDown, pilotedCraft?, unpiloted] at down

theorem pilotDown_iff (world : World) :
    world.pilotDown = true ↔
      ∃ pilot, world.pilotedCraft? = some pilot ∧ pilot.alive = false := by
  simp only [pilotDown, Option.any_eq_true, Bool.not_eq_true']

theorem pilotDown_setState (world : World) (state : MissionState) :
    (world.setState state).pilotDown = world.pilotDown := by
  unfold setState
  split
  · rfl
  · rfl

theorem Sane.of_same {declared : Bool} {before after : World} (sane : before.Sane declared)
    (ages : before.Ages after) (state : after.state = before.state) : after.Sane declared := by
  refine ⟨?_, ?_, ?_⟩
  · intro peace
    rw [state] at peace
    exact ages.piloted.trans (sane.unpiloted peace)
  · intro lost
    rw [state] at lost
    exact ages.pilotDown (sane.defeated lost)
  · intro open_
    rw [state] at open_
    exact sane.pending open_

theorem Sane.of_outcome {declared : Bool} {world : World}
    (outcome : world.state = .completed ∨ world.state = .failed) : world.Sane declared := by
  rcases outcome with completed | failed
  · refine ⟨?_, ?_, ?_⟩ <;> simp [completed]
  · refine ⟨?_, ?_, ?_⟩ <;> simp [failed]

variable {declared : Bool}

theorem Passes.nil_of_same {before after : World} (ages : before.Ages after)
    (state : after.state = before.state) (told : after.told = before.told) :
    Passes declared before [] after := by
  refine ⟨ages, ?_, state, List.isChain_singleton _, fun sane => sane.of_same ages state⟩
  rw [told, changes, List.append_nil]

theorem Passes.append {first second third : World} {early late : List MissionState}
    (passes : Passes declared first early second) (others : Passes declared second late third) :
    Passes declared first (early ++ late) third := by
  refine ⟨passes.toAges.trans others.toAges, ?_, ?_, ?_, fun sane => others.sane (passes.sane sane)⟩
  · rw [others.told, passes.told, passes.last, MissionState.changes_append, List.append_assoc]
  · rw [others.last, passes.last, MissionState.getLastD_append]
  · have path := others.path
    rw [passes.last] at path
    exact MissionState.isChain_append passes.path path

theorem state_setState (world : World) (state : MissionState) :
    (world.setState state).state = state := by
  unfold setState
  split
  · rename_i same
    exact same
  · rfl

/-- A world that only changes its state and says so. -/
theorem Passes.of_setState {world : World} {state : MissionState}
    (leads : Leads declared world.state state)
    (sane : world.Sane declared → (world.setState state).Sane declared) :
    Passes declared world [state] (world.setState state) := by
  refine ⟨(world.setState_changes state).ages, ?_, state_setState world state, ?_, sane⟩
  · unfold setState
    split
    · rename_i same
      simp only [changes, same, ↓reduceIte, List.append_nil]
    · rename_i differs
      simp only [changes, Ne.symm differs, ↓reduceIte]
      exact told_observe world _
  · exact List.isChain_cons_cons.mpr ⟨leads, List.isChain_singleton state⟩

theorem Passes.of_same {before after : World} (ages : before.Ages after)
    (state : after.state = before.state) (told : after.told = before.told) :
    Passes declared before [after.state] after := by
  refine ⟨ages, ?_, rfl, ?_, fun sane => sane.of_same ages state⟩
  · rw [told, state]
    simp only [changes, ↓reduceIte, List.append_nil]
  · rw [state]
    exact List.isChain_cons_cons.mpr ⟨.refl declared before.state, List.isChain_singleton _⟩

theorem Passes.of_quiet {before after : World} (quiet : before.Quiet after) :
    Passes declared before [after.state] after :=
  .of_same quiet.toAges quiet.state quiet.told

theorem win_passes (world : World) : Passes declared world [world.win.state] world.win := by
  unfold win
  split
  · rename_i open_
    have leads : Leads declared world.state .completed := by
      rw [open_]
      exact .inr ⟨by decide, by simp⟩
    have passes := Passes.of_setState leads fun _ => .of_outcome (.inl (state_setState world _))
    rw [state_setState]
    exact passes
  · exact .of_quiet (.refl world)

theorem lose_passes (world : World) (mayFail : declared = true) :
    Passes declared world [world.lose.state] world.lose := by
  unfold lose
  split
  · exact .of_quiet (.refl world)
  · split
    · rename_i open_
      have leads : Leads declared world.state .failed := by
        rcases open_ with pending | completed
        · rw [pending]
          exact .inr ⟨by decide, fun _ => mayFail⟩
        · rw [completed]
          exact .inr ⟨by decide, fun _ => mayFail⟩
      have passes := Passes.of_setState leads fun _ => .of_outcome (.inr (state_setState world _))
      rw [state_setState]
      exact passes
    · exact .of_quiet (.refl world)

end World

variable {declared : Bool}

theorem Action.execute_passes (action : Action) (world : World)
    (mayFail : action.isLose = true → declared = true) :
    World.Passes declared world [(action.execute world).2.state] (action.execute world).2 := by
  cases won : action.isWin with
  | true =>
    rw [action.execute_of_isWin world won]
    exact world.win_passes
  | false =>
    cases lost : action.isLose with
    | true =>
      rw [action.execute_of_isLose world lost]
      exact world.lose_passes (mayFail lost)
    | false => exact .of_quiet (action.execute_quiet world won lost)

namespace Event

theorem runActions_cons (place : ActionPlace) (action : Action) (rest : List Action)
    (world : World) :
    (runActions place (action :: rest) world).2 =
      (runActions { place with action := place.action + 1 } rest
        (runActions place [action] world).2).2 := rfl

theorem runActions_single_passes (place : ActionPlace) (action : Action) (world : World)
    (mayFail : action.isLose = true → declared = true) :
    World.Passes declared world [(runActions place [action] world).2.state]
      (runActions place [action] world).2 := by
  simp only [runActions]
  split
  · exact .of_same (.of_same rfl rfl) rfl rfl
  · exact action.execute_passes world mayFail

theorem runActions_passes (place : ActionPlace) (actions : List Action) (world : World)
    (mayFail : actions.any Action.isLose = true → declared = true) :
    World.Passes declared world (statesOfActions place actions world)
      (runActions place actions world).2 := by
  induction actions generalizing place world with
  | nil => exact .nil_of_same (.refl world) rfl rfl
  | cons action rest ih =>
    rw [List.any_cons, Bool.or_eq_true] at mayFail
    rw [runActions_cons]
    exact (runActions_single_passes place action world fun lost => mayFail (.inl lost)).append
      (ih _ _ fun lost => mayFail (.inr lost))

theorem declares_of_mem {events : List Event} {event : Event} (member : event ∈ events)
    (lost : event.hasLose = true) : declares events = true := by
  refine List.any_eq_true.mpr ⟨event, member, ?_⟩
  rw [lost, Bool.or_true]

theorem simulate_passes (event : Event) (index : Nat) (world : World) (dt : Scalar)
    (mayFail : event.hasLose = true → declared = true) :
    World.Passes declared world
      (if (event.trigger.simulate world dt).1 then
        statesOfActions ⟨index, 0⟩ event.actions (world.recordFire index) else [])
      (event.simulate index world dt).2 := by
  unfold simulate
  dsimp only
  split
  · have recorded : World.Passes declared world [] (world.recordFire index) :=
      .nil_of_same (.of_same rfl rfl) rfl rfl
    exact recorded.append (runActions_passes _ _ _ mayFail)
  · exact .nil_of_same (.refl world) rfl rfl

theorem simulateAll_passes (dt : Scalar) (index : Nat) (events : List Event) (world : World)
    (mayFail : declares events = true → declared = true) :
    World.Passes declared world (statesOfAll dt index events world)
      (simulateAll dt index events world).2 := by
  induction events generalizing index world with
  | nil => exact .nil_of_same (.refl world) rfl rfl
  | cons event rest ih =>
    have first := event.simulate_passes index world dt fun lost =>
      mayFail (declares_of_mem List.mem_cons_self lost)
    have others := ih (index + 1) (event.simulate index world dt).2 fun some_ => mayFail (by
      rw [declares, List.any_cons]
      exact Bool.or_eq_true_iff.mpr (.inr some_))
    exact first.append others

theorem executeAt_passes (events : List Event) (place : ActionPlace) (world : World)
    (mayFail : declares events = true → declared = true) :
    World.Passes declared world [(executeAt events place world).2.state]
      (executeAt events place world).2 := by
  unfold executeAt
  split
  · exact .of_quiet (.refl world)
  · rename_i event present
    split
    · exact .of_quiet (.refl world)
    · rename_i action found
      refine action.execute_passes world fun lost => mayFail ?_
      exact declares_of_mem (List.mem_of_getElem? present)
        (List.any_eq_true.mpr ⟨action, List.mem_of_getElem? found, lost⟩)

end Event

namespace Mission

theorem executeAll_passes (due : List ActionPlace) (events : List Event) (world : World)
    (mayFail : Event.declares events = true → declared = true) :
    World.Passes declared world (statesOfDue due events world)
      (executeAll due events world).2 := by
  induction due generalizing events world with
  | nil => exact .nil_of_same (.refl world) rfl rfl
  | cons place rest ih =>
    have rests := Event.executeAt_rests events place world
    have others := ih (Event.executeAt events place world).1 (Event.executeAt events place world).2
      fun some_ => mayFail (by rwa [Event.declares_of_same rests.same] at some_)
    exact (Event.executeAt_passes events place world mayFail).append others

variable {π : Type}

theorem runDueActions_passes (mission : Mission π) (dt : Scalar)
    (mayFail : Event.declares mission.events = true → declared = true) :
    World.Passes declared mission.world (mission.statesOfDueActions dt)
      (mission.runDueActions dt).world := by
  unfold statesOfDueActions runDueActions
  split
  · have taken : World.Passes declared mission.world [] (mission.world.takeDue dt).2 :=
      .nil_of_same (.of_same rfl rfl) rfl rfl
    exact taken.append (executeAll_passes _ _ _ mayFail)
  · exact .nil_of_same (.refl _) rfl rfl

theorem runEvents_passes (mission : Mission π) (dt : Scalar)
    (mayFail : Event.declares mission.events = true → declared = true) :
    World.Passes declared mission.world
      (mission.statesOfEvents dt ++ [(mission.runEvents dt).state])
      (mission.runEvents dt).world := by
  cases authority : mission.authority with
  | true =>
    simp only [statesOfEvents, state, runEvents, authority, ↓reduceIte]
    exact (Event.simulateAll_passes dt 0 mission.events mission.world mayFail).append
      (.of_same (.of_same rfl rfl) rfl rfl)
  | false =>
    simp only [statesOfEvents, state, runEvents, authority, Bool.false_eq_true, ↓reduceIte]
    exact .of_same (.of_same rfl rfl) rfl rfl

theorem Passive.passes {before after : Mission π} (passive : before.Passive after) :
    World.Passes declared before.world [after.state] after.world :=
  .of_quiet passive.world

theorem nextState_of_down (mission : Mission π) (down : mission.world.pilotDown = true) :
    mission.nextState = .defeat := by
  unfold World.pilotDown at down
  simp only [nextState, down, ↓reduceIte]

theorem nextState_of_battle (mission : Mission π) (up : mission.world.pilotDown = false)
    (battle : mission.world.state = .battle) :
    mission.nextState =
      if mission.world.isCleared then
        (if mission.world.piloted.isSome then .completed else .ended) else .battle := by
  unfold World.pilotDown at up
  simp only [nextState, up, battle, Bool.false_eq_true, ↓reduceIte]

theorem nextState_of_inProgress (mission : Mission π) (up : mission.world.pilotDown = false)
    (pending : mission.world.state = .inProgress) :
    mission.nextState =
      if mission.hasFailed then .failed
      else if mission.hasCompleted then .completed else .inProgress := by
  unfold World.pilotDown at up
  simp only [nextState, up, pending, Bool.false_eq_true, ↓reduceIte]

/-- A state that is neither a battle nor pending only changes with the death of the pilot. -/
theorem nextState_of_other (mission : Mission π) (up : mission.world.pilotDown = false)
    (battle : mission.world.state ≠ .battle) (pending : mission.world.state ≠ .inProgress) :
    mission.nextState = mission.world.state := by
  unfold World.pilotDown at up
  unfold nextState
  simp only [up, Bool.false_eq_true, ↓reduceIte]

/-- What a mission's state can become, by the pilot and by the state before. -/
theorem nextState_cases (mission : Mission π) :
    mission.world.pilotDown = true ∧ mission.nextState = .defeat ∨
      mission.world.pilotDown = false ∧ mission.nextState = mission.world.state ∨
      mission.world.pilotDown = false ∧ mission.world.state = .battle ∧
        (mission.nextState = .completed ∨
          mission.nextState = .ended ∧ mission.world.piloted = none) ∨
      mission.world.pilotDown = false ∧ mission.world.state = .inProgress ∧
        (mission.nextState = .failed ∨ mission.nextState = .completed) := by
  cases down : mission.world.pilotDown with
  | true => exact .inl ⟨rfl, mission.nextState_of_down down⟩
  | false =>
    right
    by_cases battle : mission.world.state = .battle
    · rw [mission.nextState_of_battle down battle, battle]
      by_cases cleared : mission.world.isCleared
      · rw [if_pos cleared]
        refine .inr (.inl ⟨rfl, rfl, ?_⟩)
        cases piloted : mission.world.piloted with
        | none => exact .inr ⟨rfl, rfl⟩
        | some index => exact .inl rfl
      · rw [if_neg cleared]
        exact .inl ⟨rfl, rfl⟩
    · by_cases pending : mission.world.state = .inProgress
      · rw [mission.nextState_of_inProgress down pending, pending]
        split
        · exact .inr (.inr ⟨rfl, rfl, .inl rfl⟩)
        · split
          · exact .inr (.inr ⟨rfl, rfl, .inr rfl⟩)
          · exact .inl ⟨rfl, rfl⟩
      · exact .inl ⟨rfl, mission.nextState_of_other down battle pending⟩

theorem nextState_leads (mission : Mission π) (sane : mission.world.Sane declared) :
    Leads declared mission.world.state mission.nextState := by
  rcases mission.nextState_cases with ⟨down, lost⟩ | ⟨_, same⟩ | ⟨_, battle, next⟩ |
    ⟨_, pending, next⟩
  · have manned := World.piloted_of_pilotDown down
    rw [lost]
    cases state : mission.world.state with
    | idle => exact absurd (sane.unpiloted (.inl state)) manned
    | ended => exact absurd (sane.unpiloted (.inr state)) manned
    | defeat => exact .inl rfl
    | battle | inProgress | completed | failed => exact .inr ⟨by decide, by simp⟩
  · exact .inl same
  · rw [battle]
    rcases next with completed | ⟨ended, _⟩
    · rw [completed]
      exact .inr ⟨by decide, by simp⟩
    · rw [ended]
      exact .inr ⟨by decide, by simp⟩
  · have declares := sane.pending pending
    rw [pending]
    rcases next with failed | completed
    · rw [failed]
      exact .inr ⟨by decide, fun _ => declares⟩
    · rw [completed]
      exact .inr ⟨by decide, fun _ => declares⟩

/-- The state becomes a defeat exactly when the pilot is dead. -/
theorem nextState_eq_defeat (mission : Mission π) (sane : mission.world.Sane declared) :
    mission.nextState = .defeat ↔ mission.world.pilotDown = true := by
  refine ⟨?_, mission.nextState_of_down⟩
  intro lost
  rcases mission.nextState_cases with ⟨down, _⟩ | ⟨_, same⟩ | ⟨_, _, completed | ⟨ended, _⟩⟩ |
    ⟨_, _, failed | completed⟩
  · exact down
  · exact sane.defeated (same.symm.trans lost)
  · cases completed.symm.trans lost
  · cases ended.symm.trans lost
  · cases failed.symm.trans lost
  · cases completed.symm.trans lost

theorem nextState_unpiloted (mission : Mission π) (sane : mission.world.Sane declared)
    (peace : mission.nextState = .idle ∨ mission.nextState = .ended) :
    mission.world.piloted = none := by
  rcases mission.nextState_cases with ⟨_, lost⟩ | ⟨_, same⟩ | ⟨_, _, completed | ⟨_, unpiloted⟩⟩ |
    ⟨_, _, failed | completed⟩
  · simp [lost] at peace
  · rw [same] at peace
    exact sane.unpiloted peace
  · simp [completed] at peace
  · exact unpiloted
  · simp [failed] at peace
  · simp [completed] at peace

theorem nextState_pending (mission : Mission π) (sane : mission.world.Sane declared)
    (pending : mission.nextState = .inProgress) : declared = true := by
  rcases nextState_leads mission sane with same | ⟨next, _⟩
  · exact sane.pending (same.symm.trans pending)
  · rw [pending] at next
    exact absurd next (MissionState.inProgress_not_mem_successors _)

theorem updateState_passes (mission : Mission π) (sane : mission.world.Sane declared) :
    World.Passes declared mission.world [mission.updateState.state] mission.updateState.world := by
  have judged : mission.evaluateObjectives.world.Sane declared := sane
  have moved : mission.updateState.state = mission.evaluateObjectives.nextState :=
    World.state_setState mission.world _
  rw [moved]
  apply World.Passes.of_setState (nextState_leads mission.evaluateObjectives judged)
  intro _
  have ages := (World.setState_changes mission.world mission.evaluateObjectives.nextState).ages
  refine ⟨?_, ?_, ?_⟩ <;> rw [World.state_setState]
  · intro peace
    exact ages.piloted.trans (nextState_unpiloted mission.evaluateObjectives judged peace)
  · intro lost
    exact ages.pilotDown ((nextState_eq_defeat mission.evaluateObjectives judged).mp lost)
  · exact nextState_pending mission.evaluateObjectives judged

variable [Pilot π]

theorem advance_passes (mission : Mission π) (dt : Scalar)
    (mayFail : Event.declares mission.events = true → declared = true) :
    World.Passes declared mission.world (mission.statesOfAdvance dt)
      (mission.advance dt).world := by
  have timed : World.Passes declared mission.world _ _ := (mission.advanceTime_passive dt).passes
  have due := timed.append ((mission.advanceTime dt).runDueActions_passes dt mayFail)
  have ruled := due.append (((mission.advanceTime dt).runDueActions dt).runEvents_passes dt
    fun some_ => mayFail (by
      rwa [Event.declares_of_same ((mission.advanceTime dt).runDueActions_rests dt).same] at some_))
  have controlled := ruled.append (controlCrafts_passive _ dt).passes
  have flown := controlled.append (simulateCrafts_passive _ dt).passes
  have parted := flown.append (resolveCollisions_passive _).passes
  have shot := parted.append (simulateWeapons_passive _ dt).passes
  have faded := shot.append (simulateEffects_passive _ dt).passes
  have centred := faded.append (recenterOrigin_passive _).passes
  simpa only [statesOfAdvance, advance, runRules, runCrafts, List.append_assoc, List.cons_append,
    List.nil_append] using centred

theorem tick_passes (mission : Mission π) (dt : Scalar) (accepted : accepts dt = true)
    (mayFail : Event.declares mission.events = true → declared = true)
    (sane : mission.world.Sane declared) :
    World.Passes declared mission.world (mission.statesOfAdvance dt ++ [(mission.tick dt).state])
      (mission.tick dt).world := by
  have advanced := mission.advance_passes dt mayFail
  rw [mission.tick_of_accepts dt accepted]
  exact advanced.append (updateState_passes _ (advanced.sane sane))

theorem statesOf_passes (mission : Mission π) (input : Input π)
    (mayFail : Event.declares mission.events = true → declared = true)
    (sane : mission.world.Sane declared) :
    World.Passes declared mission.world (mission.statesOf input) (mission.take input).world := by
  cases input with
  | tick dt =>
    cases accepted : accepts dt with
    | true =>
      simp only [statesOf, accepted, ↓reduceIte]
      exact mission.tick_passes dt accepted mayFail sane
    | false =>
      simp only [statesOf, take, accepted, mission.tick_of_not_accepts dt accepted,
        Bool.false_eq_true, ↓reduceIte]
      exact .nil_of_same (.refl _) rfl rfl
  | authority on => exact .of_quiet (.refl mission.world)
  | pilot pilot => exact .of_quiet (.refl mission.world)
  | autopilot on => exact .of_quiet (.refl mission.world)
  | intent intent => exact .of_quiet (.refl mission.world)
  | camera place => exact .of_quiet (.refl mission.world)
  | reports => exact .of_quiet (.refl mission.world)
  | targets => exact .of_quiet (.refl mission.world)

theorem history_passes (mission : Mission π) (inputs : List (Input π))
    (mayFail : Event.declares mission.events = true → declared = true)
    (sane : mission.world.Sane declared) :
    World.Passes declared mission.world (mission.history inputs) (mission.play inputs).world := by
  induction inputs generalizing mission with
  | nil => exact .nil_of_same (.refl mission.world) rfl rfl
  | cons input rest ih =>
    have taken := mission.statesOf_passes input mayFail sane
    -- An input leaves the rules as they are built, and with them what may fail the mission.
    have same := Event.declares_of_same (mission.take_pristine input)
    exact taken.append (ih (mission.take input) (fun some_ => mayFail (same ▸ some_))
      (taken.sane sane))

omit [Pilot π] in
theorem ofDescriptor_sane (descriptor : MissionDescriptor) (catalog : Catalog)
    (settings : Settings) (pools : Pools) :
    (ofDescriptor (π := π) descriptor catalog settings pools).world.Sane
      (Event.declares (ofDescriptor (π := π) descriptor catalog settings pools).events) := by
  have loaded := LoadedMission.ofDescriptor_manned descriptor catalog settings
    (pools.prefill settings.poolSizes)
  dsimp only [ofDescriptor]
  generalize LoadedMission.ofDescriptor descriptor catalog settings
    (pools.prefill settings.poolSizes) = mission at loaded ⊢
  refine ⟨?_, ?_, ?_⟩ <;> rw [World.state_setState]
  · intro peace
    rw [(World.setState_changes mission.world _).ages.piloted]
    cases piloted : mission.world.piloted with
    | none => rfl
    | some index =>
      have listed := loaded (by rw [piloted, Option.isSome_some])
      have occupied : mission.world.listed.isEmpty = false := by simpa using listed
      revert peace
      simp only [initialState, occupied]
      split <;> simp
  · intro lost
    revert lost
    unfold initialState
    repeat' split
    all_goals simp
  · intro pending
    revert pending
    unfold initialState
    split
    · rename_i declared
      intro _
      exact declared
    · split <;> simp

omit [Pilot π] in
theorem declares_of_battle (descriptor : MissionDescriptor) (catalog : Catalog)
    (settings : Settings) (pools : Pools)
    (battle : (ofDescriptor (π := π) descriptor catalog settings pools).state = .battle) :
    Event.declares (ofDescriptor (π := π) descriptor catalog settings pools).events = false := by
  rw [state, ofDescriptor, World.state_setState] at battle
  revert battle
  unfold initialState
  split
  · simp
  · rename_i undeclared
    intro _
    exact Bool.eq_false_iff.mpr undeclared

/-- After an accepted step, the mission is a defeat exactly if the pilot is dead. -/
theorem tick_eq_defeat (mission : Mission π) (dt : Scalar) (accepted : accepts dt = true)
    (sane : mission.world.Sane (Event.declares mission.events)) :
    (mission.tick dt).state = .defeat ↔
      ∃ pilot, (mission.tick dt).world.pilotedCraft? = some pilot ∧ pilot.alive = false := by
  have judged : (mission.advance dt).evaluateObjectives.world.Sane
    (Event.declares mission.events) := (mission.advance_passes dt fun some_ => some_).sane sane
  have down := nextState_eq_defeat _ judged
  rw [← World.pilotDown_iff, mission.tick_of_accepts dt accepted]
  have moved : (mission.advance dt).updateState.state =
    (mission.advance dt).evaluateObjectives.nextState := World.state_setState _ _
  rw [moved, down]
  exact (World.pilotDown_setState (mission.advance dt).world _).symm ▸ Iff.rfl

/-- Every run of a mission follows the graph of states, a battle never fails, and at most three
changes happen. An observer hears of each change once and in order, from the state in which it was
attached. -/
theorem run_follows_graph_and_is_observed (descriptor : MissionDescriptor) (catalog : Catalog)
    (settings : Settings) (pools : Pools) (before after : List (Input π)) :
    let start : Mission π := ofDescriptor descriptor catalog settings pools
    let attached := start.play before
    let observed := attached.play after
    let heard := changes attached.state (attached.history after)
    (start.state :: start.history (before ++ after)).IsChain
        (fun old new => new = old ∨ new ∈ old.successors) ∧
      (start.state = .battle → .failed ∉ start.history (before ++ after)) ∧
      (changes start.state (start.history (before ++ after))).length ≤ 3 ∧
      observed.state = (attached.history after).getLastD attached.state ∧
      observed.world.told = attached.world.told ++ heard ∧
      Linked attached.state heard ∧
      ∀ dt, accepts dt = true →
        ((observed.tick dt).state = .defeat ↔
          ∃ pilot, (observed.tick dt).world.pilotedCraft? = some pilot ∧ pilot.alive = false) := by
  intro start attached observed heard
  have sane : start.world.Sane (Event.declares start.events) := ofDescriptor_sane _ _ _ _
  have early := start.history_passes before (fun some_ => some_) sane
  have rules := Event.declares_of_same (start.play_pristine before)
  have late := attached.history_passes after (fun some_ => rules ▸ some_) (early.sane sane)
  have whole := early.append late
  rw [← history_append] at whole
  have few := Nat.le_of_add_right_le (MissionState.changes_length whole.path)
  refine ⟨?_, ?_, few, late.last, late.told, MissionState.changes_linked _ _, ?_⟩
  · exact whole.path.imp fun _ _ leads => leads.imp_right And.left
  · intro battle
    have undeclared : Event.declares start.events = false := declares_of_battle _ _ _ _ battle
    have path := whole.path
    rw [undeclared] at path
    apply MissionState.failed_not_mem path
    show start.state ≠ .failed
    rw [battle]
    decide
  · intro dt accepted
    apply observed.tick_eq_defeat dt accepted
    rw [Event.declares_of_same (attached.play_pristine after), rules]
    exact late.sane (early.sane sane)

/-- A battle of one spacecraft ends and does not fail. -/
theorem lonely_battle_ends :
    let start : Mission Pursuit := ofDescriptor
      { spacecrafts := [.single { craftClass := "fighter" }] } .standard
      { quality := .low, particles := false } {}
    start.state = .battle ∧ (start.tick 1000).state = .ended ∧
      .failed ∉ start.history [.tick 1000] := by
  have battle : (ofDescriptor (π := Pursuit)
      { spacecrafts := [.single { craftClass := "fighter" }] } .standard
      { quality := .low, particles := false } {}).state = .battle := by decide +kernel
  refine ⟨battle, by decide +kernel, ?_⟩
  exact (run_follows_graph_and_is_observed _ _ _ _ [] [.tick 1000]).2.1 battle

end Mission

end Sortie
