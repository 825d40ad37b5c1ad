import Sortie.Proofs.DelayedActions

set_option autoImplicit false

namespace Sortie

theorem Trigger.simulate_of_disabled {trigger : Trigger} (disabled : trigger.disabled = true)
    (world : World) (dt : Scalar) : trigger.simulate world dt = (false, trigger) := by
  rw [simulate, if_pos disabled]

theorem Event.simulate_of_disabled {event : Event} (disabled : event.trigger.disabled = true)
    (index : Nat) (world : World) (dt : Scalar) :
    event.simulate index world dt = (event, world) := by
  rw [simulate, Trigger.simulate_of_disabled disabled]
  rfl

/-- No turn of a disabled trigger fires it or enables it. -/
theorem Trigger.Turn.of_disabled {trigger later : Trigger} {fires : Bool}
    (turn : trigger.Turn fires later) (disabled : trigger.disabled = true) :
    fires = false ∧ later.disabled = true := by
  have kept (asked : trigger.Asked later) : later.disabled = true := by
    rw [asked.rest]
    exact disabled
  cases turn with
  | asked asked => exact ⟨rfl, kept asked⟩
  | stepped _ asked =>
    rw [simulate_of_disabled disabled] at asked ⊢
    exact ⟨rfl, kept asked⟩

namespace Event

/-- The event in place `place`, which has other actions if that is `index`. -/
def refitAt (index : Nat) (actions : List Action) (place : Nat) (event : Event) : Event :=
  if place = index then { event with actions } else event

/-- The events, of which the one with an index has other actions. -/
def refit (index : Nat) (actions : List Action) (events : List Event) : List Event :=
  events.mapIdx (refitAt index actions)

section

variable (index : Nat) (actions : List Action) (place : Nat) (event : Event)

@[simp] theorem refitAt_trigger :
    (refitAt index actions place event).trigger = event.trigger := by
  unfold refitAt
  split
  · rfl
  · rfl

theorem refitAt_withTrigger (trigger : Trigger) :
    { refitAt index actions place event with trigger } =
      refitAt index actions place { event with trigger } := by
  unfold refitAt
  split
  · rfl
  · rfl

end

variable {index : Nat} {actions : List Action}

theorem refitAt_other {place : Nat} (apart : place ≠ index) (event : Event) :
    refitAt index actions place event = event := if_neg apart

theorem refit_getElem? (events : List Event) (place : Nat) :
    (refit index actions events)[place]? =
      events[place]?.map (refitAt index actions place) := List.getElem?_mapIdx

theorem refit_set (events : List Event) (place : Nat) (event : Event) :
    (refit index actions events).set place (refitAt index actions place event) =
      refit index actions (events.set place event) := List.mapIdx_set.symm

/-- A step of an event that cannot fire, if it is the one with other actions, is the same. -/
theorem simulate_refitAt {event : Event} {place : Nat}
    (disabled : place = index → event.trigger.disabled = true) (world : World) (dt : Scalar) :
    (refitAt index actions place event).simulate place world dt =
      Prod.map (refitAt index actions place) id (event.simulate place world dt) := by
  by_cases here : place = index
  · have off : (refitAt index actions place event).trigger.disabled = true := by
      rw [refitAt_trigger]
      exact disabled here
    rw [simulate_of_disabled off, simulate_of_disabled (disabled here)]
    rfl
  · rw [refitAt_other here, Prod.map, refitAt_other here]
    rfl

/-- What commutes with the step of each event commutes with a step of all. -/
theorem simulateAll_mapIdx (dt : Scalar) (first : Nat) (change : Nat → Event → Event)
    (events : List Event) (world : World)
    (commutes : ∀ place event, events[place]? = some event → ∀ world,
      (change place event).simulate (first + place) world dt =
        Prod.map (change place) id (event.simulate (first + place) world dt)) :
    simulateAll dt first (events.mapIdx change) world =
      Prod.map (List.mapIdx change) id (simulateAll dt first events world) := by
  induction events generalizing first change world with
  | nil => rfl
  | cons event rest ih =>
    have here := commutes 0 event rfl world
    have later := ih (first + 1) (fun place => change (place + 1))
      (event.simulate first world dt).2 fun place other found world => by
        have shifted : first + 1 + place = first + (place + 1) := by omega
        rw [shifted]
        exact commutes (place + 1) other found world
    rw [List.mapIdx_cons, simulateAll, simulateAll]
    rw [Nat.add_zero] at here
    rw [here]
    dsimp only [Prod.map, id] at later ⊢
    rw [later, List.mapIdx_cons]

/-- A step of all events goes the same whatever the actions of one that cannot fire. -/
theorem simulateAll_refit (dt : Scalar) (events : List Event) (world : World)
    (disabled : ∀ event, events[index]? = some event → event.trigger.disabled = true) :
    simulateAll dt 0 (refit index actions events) world =
      Prod.map (refit index actions) id (simulateAll dt 0 events world) := by
  refine simulateAll_mapIdx dt 0 _ events world fun place event found world => ?_
  rw [Nat.zero_add]
  refine simulate_refitAt (fun here => ?_) world dt
  exact disabled event (here ▸ found)

/-- To carry out an action of another event is not to see the event. -/
theorem executeAt_refit (events : List Event) {place : ActionPlace} (apart : place.event ≠ index)
    (world : World) :
    executeAt (refit index actions events) place world =
      Prod.map (refit index actions) id (executeAt events place world) := by
  unfold executeAt
  rw [refit_getElem?]
  cases events[place.event]? with
  | none => rfl
  | some event =>
    rw [Option.map_some, refitAt_other apart]
    dsimp only
    cases event.actions[place.action]? with
    | none => rfl
    | some action =>
      dsimp only [Prod.map]
      rw [← refit_set, refitAt_other apart]
      rfl

theorem executeAll_refit {due : List ActionPlace} (apart : ∀ place ∈ due, place.event ≠ index)
    (events : List Event) (world : World) :
    Mission.executeAll due (refit index actions events) world =
      Prod.map (refit index actions) id (Mission.executeAll due events world) := by
  induction due generalizing events world with
  | nil => rfl
  | cons place rest ih =>
    rw [Mission.executeAll, Mission.executeAll,
      executeAt_refit events (apart place List.mem_cons_self)]
    exact ih (fun other member => apart other (List.mem_cons_of_mem place member)) _ _

theorem askCondition_refit {α : Type} (events : List Event) (event place : Nat)
    (question : Condition → α × Condition) :
    askCondition (refit index actions events) event place question =
      Prod.map id (refit index actions) (askCondition events event place question) := by
  unfold askCondition
  rw [refit_getElem?]
  cases events[event]? with
  | none => rfl
  | some found =>
    simp only [Option.map_some, refitAt_trigger]
    cases found.trigger.conditions[place]? with
    | none => rfl
    | some condition => simp only [refitAt_withTrigger, refit_set, Prod.map, id]

theorem askTrigger_refit {α : Type} (events : List Event) (event : Nat)
    (question : Trigger → α × Trigger) :
    askTrigger (refit index actions events) event question =
      Prod.map id (refit index actions) (askTrigger events event question) := by
  unfold askTrigger
  rw [refit_getElem?]
  cases events[event]? with
  | none => rfl
  | some found =>
    simp only [Option.map_some, refitAt_trigger, refitAt_withTrigger, refit_set, Prod.map, id]

end Event

namespace Objective

variable {index : Nat} {actions : List Action}

theorem evaluate_refit (objective : Objective) (world : World) (events : List Event) :
    objective.evaluate world (Event.refit index actions events) =
      Prod.map id (Event.refit index actions) (objective.evaluate world events) := by
  unfold evaluate
  cases objective.source with
  | destroyAll => rfl
  | condition event place =>
    dsimp only
    rw [Event.askCondition_refit, Event.askTrigger_refit, Event.refit_getElem?, Option.isNone_map,
      apply_ite (Prod.map id (Event.refit index actions))]
    cases objective.role with
    | win =>
      dsimp only
      rw [apply_ite (Prod.map id (Event.refit index actions))]
      rfl
    | lose =>
      dsimp only
      rw [apply_ite (Prod.map id (Event.refit index actions))]
      rfl

theorem report_refit (objective : Objective) (status : ObjectiveStatus) (world : World)
    (events : List Event) :
    objective.report status world (Event.refit index actions events) =
      Prod.map id (Prod.map id (Event.refit index actions))
        (objective.report status world events) := by
  unfold report
  cases objective.source with
  | destroyAll => rfl
  | condition event place =>
    dsimp only
    rw [Event.askCondition_refit]
    obtain ⟨answer, later⟩ := Event.askCondition events event place (texts world objective.role)
    rcases answer with _ | ⟨text | text, state⟩
    · rfl
    · rfl
    · rfl

theorem targets_refit (objective : Objective) (world : World) (events : List Event) :
    objective.targets world (Event.refit index actions events) =
      Prod.map id (Event.refit index actions) (objective.targets world events) := by
  unfold targets
  cases objective.source with
  | destroyAll =>
    dsimp only
    cases world.pilotedCraft? with
    | none => rfl
    | some pilot => rfl
  | condition event place =>
    dsimp only
    rw [Event.askCondition_refit]
    rfl

end Objective

namespace Mission

variable {π : Type} {index : Nat} {actions : List Action}

theorem evaluateAll_refit (world : World) (objectives : List TrackedObjective)
    (events : List Event) :
    evaluateAll world objectives (Event.refit index actions events) =
      Prod.map id (Event.refit index actions) (evaluateAll world objectives events) := by
  induction objectives generalizing events with
  | nil => rfl
  | cons tracked rest ih =>
    simp only [evaluateAll, tracked.objective.evaluate_refit]
    split
    · rw [ih]
      rfl
    · dsimp only [Prod.map, id]
      rw [ih]
      rfl

theorem reportAll_refit (world : World) (objectives : List TrackedObjective)
    (events : List Event) :
    reportAll world objectives (Event.refit index actions events) =
      Prod.map id (Prod.map id (Event.refit index actions))
        (reportAll world objectives events) := by
  induction objectives generalizing events with
  | nil => rfl
  | cons tracked rest ih =>
    rw [reportAll, reportAll, tracked.objective.report_refit]
    dsimp only [Prod.map, id]
    rw [ih]
    rfl

theorem targetsOfAll_refit (world : World) (objectives : List TrackedObjective)
    (events : List Event) :
    targetsOfAll world objectives (Event.refit index actions events) =
      Prod.map id (Event.refit index actions) (targetsOfAll world objectives events) := by
  induction objectives generalizing events with
  | nil => rfl
  | cons tracked rest ih =>
    simp only [targetsOfAll, tracked.objective.targets_refit]
    split
    · dsimp only [Prod.map, id]
      rw [ih]
      rfl
    · exact ih events

/-- The mission in which the event with an index has other actions. -/
def refit (index : Nat) (actions : List Action) (mission : Mission π) : Mission π :=
  { mission with events := Event.refit index actions mission.events }

theorem runDueActions_refit (mission : Mission π) (dt : Scalar)
    (apart : ∀ place ∈ (mission.world.takeDue dt).1, place.event ≠ index) :
    (mission.refit index actions).runDueActions dt =
      (mission.runDueActions dt).refit index actions := by
  have acted := @Event.executeAll_refit index actions _ apart mission.events
    (mission.world.takeDue dt).2
  unfold runDueActions
  rw [apply_ite (refit index actions)]
  dsimp only [refit]
  rw [acted]
  rfl

theorem runEvents_refit (mission : Mission π) (dt : Scalar)
    (disabled : ∀ event, mission.events[index]? = some event → event.trigger.disabled = true) :
    (mission.refit index actions).runEvents dt = (mission.runEvents dt).refit index actions := by
  have stepped := @Event.simulateAll_refit index actions dt mission.events mission.world
    disabled
  cases host : mission.authority with
  | true =>
    simp only [runEvents, refit, host, stepped, ↓reduceIte]
    rfl
  | false => simp only [runEvents, refit, host, Bool.false_eq_true, ↓reduceIte]

theorem updateState_refit (mission : Mission π) :
    (mission.refit index actions).updateState = mission.updateState.refit index actions := by
  have evaluated : (mission.refit index actions).evaluateObjectives =
      mission.evaluateObjectives.refit index actions := by
    unfold evaluateObjectives
    dsimp only [refit]
    rw [evaluateAll_refit]
    rfl
  unfold updateState
  rw [evaluated]
  rfl

/-- Whether the event with an index can never do anything: its trigger is disabled, it has not
fired, and nothing of it waits. -/
structure Silent (index : Nat) (mission : Mission π) : Prop where
  sized : mission.Sized
  disabled : ∃ trigger, mission.trigger? index = some trigger ∧ trigger.disabled = true
  unfired : mission.world.fireCount index = 0
  idle : ∀ queued ∈ mission.world.queue, queued.place.event ≠ index

/-- Nothing silent is due. -/
theorem Silent.due {mission : Mission π} (silent : mission.Silent index) (dt : Scalar) :
    ∀ place ∈ mission.duePlaces dt, place.event ≠ index := by
  intro place member
  obtain ⟨later, due, rfl⟩ := List.mem_map.mp member
  obtain ⟨queued, waiting, rfl⟩ := List.mem_map.mp (List.mem_filter.mp due).1
  exact silent.idle queued waiting

theorem Silent.fires {mission : Mission π} (silent : mission.Silent index) (dt : Scalar) :
    mission.fires dt index = false := by
  obtain ⟨trigger, found, disabled⟩ := silent.disabled
  rw [Mission.fires, found, Option.any_some, Trigger.simulate_of_disabled disabled]

theorem Silent.event {mission : Mission π} (silent : mission.Silent index) {event : Event}
    (found : mission.events[index]? = some event) : event.trigger.disabled = true := by
  obtain ⟨trigger, there, disabled⟩ := silent.disabled
  rw [trigger?_eq_some.mpr ⟨event, found, rfl⟩] at there
  cases there
  exact disabled

/-- What waits after the rules of a step has waited before it or belongs to an event that fires. -/
theorem mem_ruled_queue {mission : Mission π} {dt : Scalar} (host : mission.authority = true)
    {queued : QueuedAction} (member : queued ∈ ((mission.waited dt).ruled dt).queue) :
    (∃ before ∈ mission.world.queue, before.place = queued.place) ∨
      mission.fires dt queued.place.event = true := by
  rw [mission.ruled_queue dt host, mission.waited_queue dt host] at member
  rcases List.mem_append.mp member with waiting | begun
  · obtain ⟨before, known, rfl⟩ := List.mem_map.mp (List.mem_filter.mp waiting).1
    exact .inl ⟨before, known, rfl⟩
  · obtain ⟨waits, here, inside⟩ := List.mem_flatten.mp begun
    obtain ⟨place, bound, rfl⟩ := List.mem_mapIdx.mp here
    split at inside
    · rename_i fires
      obtain ⟨entry, _, rfl⟩ := List.mem_map.mp inside
      exact .inr fires
    · cases inside

variable [Pilot π]

/-- A step does the same whatever the actions of a silent event. -/
theorem Silent.tick_refit {mission : Mission π} (silent : mission.Silent index)
    (actions : List Action) (dt : Scalar) :
    (mission.refit index actions).tick dt = (mission.tick dt).refit index actions := by
  cases accepted : accepts dt with
  | false => rw [tick_of_not_accepts _ dt accepted, tick_of_not_accepts _ dt accepted]
  | true =>
    have apart : ∀ place ∈ ((mission.advanceTime dt).world.takeDue dt).1, place.event ≠ index := by
      rw [takeDue_advanceTime]
      exact silent.due dt
    have waited : (mission.refit index actions).waited dt =
        (mission.waited dt).refit index actions :=
      runDueActions_refit (mission.advanceTime dt) dt apart
    have disabled : ∀ event, (mission.waited dt).events[index]? = some event →
        event.trigger.disabled = true := by
      intro event found
      have there := mission.waited_trigger? dt index
      rw [trigger?_eq_some.mpr ⟨event, found, rfl⟩] at there
      obtain ⟨before, known, same⟩ := trigger?_eq_some.mp there.symm
      rw [← same]
      exact silent.event known
    have ruled : (mission.refit index actions).runRules dt =
        (mission.runRules dt).refit index actions :=
      (congrArg (runEvents · dt) waited).trans ((mission.waited dt).runEvents_refit dt disabled)
    have flown : (mission.refit index actions).advance dt =
        (mission.advance dt).refit index actions := by
      rw [advance, ruled, refit, runCrafts_withEvents, refit, advance,
        ((mission.runRules dt).runCrafts_passive dt).events]
    rw [tick_of_accepts _ dt accepted, tick_of_accepts _ dt accepted, flown, updateState_refit]

theorem Silent.take_refit {mission : Mission π} (silent : mission.Silent index)
    (actions : List Action) (input : Input π) :
    (mission.refit index actions).take input = (mission.take input).refit index actions := by
  cases input with
  | tick dt => exact silent.tick_refit actions dt
  | reports =>
    simp only [take, objectiveReports, refit, reportAll_refit]
    rfl
  | targets =>
    simp only [take, objectiveTargets, refit, targetsOfAll_refit]
    rfl
  | authority _ | pilot _ | autopilot _ | intent _ | camera _ => rfl

/-- What is silent stays silent. -/
theorem Silent.take {mission : Mission π} (silent : mission.Silent index) (input : Input π) :
    (mission.take input).Silent index := by
  obtain ⟨trigger, found, disabled⟩ := silent.disabled
  obtain ⟨fires, later, there, turn, counted⟩ := mission.take_turn input silent.sized found
  obtain ⟨never, off⟩ := turn.of_disabled disabled
  refine ⟨mission.take_sized input silent.sized, ⟨later, there, off⟩, ?_, ?_⟩
  · rw [counted, silent.unfired, never]
    rfl
  · rcases mission.take_cases input with ⟨dt, rfl, accepted⟩ | ⟨world, _, _⟩
    · cases host : mission.authority with
      | true =>
        intro queued member here
        rw [Mission.take, mission.tick_queue accepted] at member
        rcases mem_ruled_queue host member with ⟨before, known, same⟩ | fired
        · exact silent.idle before known (same ▸ here)
        · rw [here, silent.fires] at fired
          cases fired
      | false =>
        rw [Mission.take, mission.guest_queue accepted host]
        exact silent.idle
    · rw [world]
      exact silent.idle

theorem Silent.play {mission : Mission π} (silent : mission.Silent index)
    (inputs : List (Input π)) : (mission.play inputs).Silent index :=
  mission.play_keeps (Silent index) (fun _ input silent => silent.take input) inputs silent

/-- A run goes the same whatever the actions of a silent event. -/
theorem Silent.play_refit {mission : Mission π} (silent : mission.Silent index)
    (actions : List Action) (inputs : List (Input π)) :
    (mission.refit index actions).play inputs = (mission.play inputs).refit index actions := by
  induction inputs generalizing mission with
  | nil => rfl
  | cons input rest ih =>
    rw [play_cons, play_cons, silent.take_refit actions input]
    exact ih (silent.take input)

omit [Pilot π] in
/-- Before the first step, an event that cannot fire is silent. -/
theorem ofDescriptor_silent (descriptor : MissionDescriptor) (catalog : Catalog)
    (settings : Settings) (pools : Pools) {event : Event}
    (found : (ofDescriptor (π := π) descriptor catalog settings pools).events[index]? = some event)
    (disabled : event.trigger.disabled = true) :
    (ofDescriptor (π := π) descriptor catalog settings pools).Silent index where
  sized := ofDescriptor_sized descriptor catalog settings pools
  disabled := ⟨event.trigger, trigger?_eq_some.mpr ⟨event, found, rfl⟩, disabled⟩
  unfired := by
    rw [World.fireCount, ofDescriptor_fires, Array.getD_eq_getD_getElem?, Array.getElem?_replicate]
    split
    · rfl
    · rfl
  idle := by
    intro queued member
    rw [ofDescriptor_queue] at member
    exact absurd member List.not_mem_nil

end Mission

end Sortie
