import Sortie.Proofs.Sight

set_option autoImplicit false

namespace Sortie

namespace Scalar

/-- What is left of some milliseconds after some steps. -/
def countdown (delay : Scalar) (steps : List Scalar) : Scalar := steps.foldl (· - ·) delay

/-- Something is left after each of some steps. -/
def Outlasts (delay : Scalar) (steps : List Scalar) : Prop :=
  ∀ count < steps.length, ¬ countdown delay (steps.take (count + 1)) ≤ 0

instance (delay : Scalar) (steps : List Scalar) : Decidable (Outlasts delay steps) :=
  inferInstanceAs (Decidable (∀ count < steps.length, ¬ _ ≤ (0 : Scalar)))

/-- After some earlier steps, nothing is left for the first time after one of `dt`. -/
def EndsIn (delay : Scalar) (earlier : List Scalar) (dt : Scalar) : Prop :=
  Outlasts delay earlier ∧ countdown delay (earlier ++ [dt]) ≤ 0

instance (delay : Scalar) (earlier : List Scalar) (dt : Scalar) :
    Decidable (EndsIn delay earlier dt) :=
  inferInstanceAs (Decidable (_ ∧ _))

theorem countdown_concat (delay : Scalar) (steps : List Scalar) (dt : Scalar) :
    countdown delay (steps ++ [dt]) = countdown delay steps - dt := by
  simp only [countdown, List.foldl_append, List.foldl_cons, List.foldl_nil]

theorem outlasts_concat (delay : Scalar) (steps : List Scalar) (dt : Scalar) :
    Outlasts delay (steps ++ [dt]) ↔
      Outlasts delay steps ∧ ¬ countdown delay (steps ++ [dt]) ≤ 0 := by
  have early {count : Nat} (inside : count < steps.length) :
      (steps ++ [dt]).take (count + 1) = steps.take (count + 1) :=
    List.take_append_of_le_length inside
  have whole : (steps ++ [dt]).take (steps.length + 1) = steps ++ [dt] :=
    List.take_of_length_le (by simp)
  constructor
  · intro lasts
    refine ⟨fun count inside => ?_, ?_⟩
    · rw [← early inside]
      exact lasts count (by simp; omega)
    · rw [← whole]
      exact lasts steps.length (by simp)
  · rintro ⟨lasts, last⟩ count inside
    rw [List.length_append, List.length_singleton] at inside
    rcases Nat.lt_succ_iff_lt_or_eq.mp inside with before | rfl
    · rw [early before]
      exact lasts count before
    · rw [whole]
      exact last

/-- A countdown ends once. -/
theorem EndsIn.once {delay : Scalar} {earlier : List Scalar} {dt : Scalar}
    (ends : EndsIn delay earlier dt) (later : List Scalar) :
    ¬ Outlasts delay (earlier ++ dt :: later) := by
  intro lasts
  refine lasts earlier.length (by simp) ?_
  rw [List.take_length_add_append]
  exact ends.2

end Scalar

namespace Action

/-- What an action does hangs only on how it was built. -/
theorem execute_pristine_world (action : Action) (world : World) :
    (action.pristine.execute world).2 = (action.execute world).2 := by
  unfold execute
  cases kind : action.kind <;> simp only [pristine, kind] <;> rfl

end Action

namespace World

variable (world : World) (queue : List QueuedAction)

theorem setState_withQueue (state : MissionState) :
    ({ world with queue } : World).setState state = { world.setState state with queue } := by
  unfold setState
  dsimp only
  split
  · rfl
  · rfl

theorem dispatch_withQueue (index : Nat) (command : Command) :
    ({ world with queue } : World).dispatch index command =
      { world.dispatch index command with queue } := by
  unfold dispatch
  have same : ({ world with queue } : World).craft? index = world.craft? index := rfl
  rw [same]
  split
  · rfl
  · dsimp only
    split
    · rfl
    · rfl

theorem dispatchAll_withQueue (command : Command) (crafts : List Nat) :
    crafts.foldl (fun world craft => world.dispatch craft command) { world with queue } =
      { crafts.foldl (fun world craft => world.dispatch craft command) world with queue } := by
  induction crafts generalizing world with
  | nil => rfl
  | cons craft rest ih => rw [List.foldl_cons, dispatch_withQueue, ih, List.foldl_cons]

end World

namespace Action

/-- Actions neither see nor change what waits. -/
theorem execute_withQueue (action : Action) (world : World) (queue : List QueuedAction) :
    (action.execute { world with queue }).2 = { (action.execute world).2 with queue } := by
  unfold execute
  cases action.kind with
  | win =>
    show World.win _ = _
    unfold World.win
    dsimp only
    split
    · exact world.setState_withQueue queue .completed
    · rfl
  | lose =>
    show World.lose _ = _
    unfold World.lose
    have same : ({ world with queue } : World).pilotDeparted = world.pilotDeparted := rfl
    rw [same]
    dsimp only
    split
    · rfl
    · split
      · exact world.setState_withQueue queue .failed
      · rfl
  | message message =>
    have same : action.addressesPilot { world with queue } = action.addressesPilot world := rfl
    dsimp only
    rw [same]
    split
    · rfl
    · rfl
  | clearMessages => rfl
  | command command => exact world.dispatchAll_withQueue queue command _
  | hud change => rfl

/-- The world after some actions, carried out in order. -/
def executeEach (actions : List Action) (world : World) : World :=
  actions.foldl (fun world action => (action.execute world).2) world

@[simp] theorem executeEach_nil (world : World) : executeEach [] world = world := rfl

@[simp] theorem executeEach_cons (action : Action) (rest : List Action) (world : World) :
    executeEach (action :: rest) world = executeEach rest (action.execute world).2 := rfl

theorem executeEach_withQueue (actions : List Action) (world : World)
    (queue : List QueuedAction) :
    executeEach actions { world with queue } = { executeEach actions world with queue } := by
  induction actions generalizing world with
  | nil => rfl
  | cons action rest ih => rw [executeEach_cons, execute_withQueue, ih, executeEach_cons]

theorem executeEach_queue (actions : List Action) (world : World) :
    (executeEach actions world).queue = world.queue := by
  have same := congrArg World.queue (executeEach_withQueue actions world world.queue)
  exact same

end Action

namespace Event

/-- The action that a place denotes, as it was built. -/
def actionAt? (events : List Event) (place : ActionPlace) : Option Action :=
  events[place.event]?.bind fun event => event.actions[place.action]?.map Action.pristine

theorem actionAt?_pristine (events : List Event) (place : ActionPlace) :
    actionAt? events place =
      (events.map pristine)[place.event]?.bind fun event => event.actions[place.action]? := by
  simp only [actionAt?, List.getElem?_map]
  cases events[place.event]? with
  | none => rfl
  | some event => simp only [Option.map_some, Option.bind_some, pristine, List.getElem?_map]

/-- Places denote the same actions as long as the rules stay as they are built. -/
theorem actionAt?_of_same {before after : List Event}
    (same : after.map pristine = before.map pristine) (place : ActionPlace) :
    actionAt? after place = actionAt? before place := by
  rw [actionAt?_pristine, actionAt?_pristine, same]

theorem executeAt_world {events : List Event} {place : ActionPlace} {action : Action}
    (found : actionAt? events place = some action) (world : World) :
    (executeAt events place world).2 = (action.execute world).2 := by
  unfold actionAt? at found
  unfold executeAt
  obtain ⟨event, present, there⟩ := Option.bind_eq_some_iff.mp found
  obtain ⟨current, here, rfl⟩ := Option.map_eq_some_iff.mp there
  rw [present]
  dsimp only
  rw [here]
  exact (current.execute_pristine_world world).symm

/-- To carry out what some places denote is to carry out those actions. -/
theorem executeAll_world {places : List ActionPlace} {actions : List Action}
    {events : List Event} (found : places.map (actionAt? events) = actions.map some)
    (world : World) :
    (Mission.executeAll places events world).2 = Action.executeEach actions world := by
  induction places generalizing actions events world with
  | nil =>
    obtain rfl := List.map_eq_nil_iff.mp found.symm
    rfl
  | cons place rest ih =>
    cases actions with
    | nil => cases found
    | cons action others =>
      rw [List.map_cons, List.map_cons, List.cons.injEq] at found
      obtain ⟨here, later⟩ := found
      have kept := funext (actionAt?_of_same (executeAt_rests events place world).same)
      rw [← kept] at later
      simp only [Mission.executeAll]
      rw [ih later, executeAt_world here, Action.executeEach_cons]

/-- The actions that follow at once when an event fires. -/
def prompt (event : Event) : List Action := event.actions.filter fun action => !action.isDelayed

/-- The actions that wait after an event has fired, as they were built. -/
def delayed (event : Event) : List Action :=
  (event.actions.filter Action.isDelayed).map Action.pristine

/-- What waits after the event with an index has fired: the places of its delayed actions. -/
def waits (event : Event) (index : Nat) : List QueuedAction :=
  (event.actions.zipIdx.filter fun entry => entry.1.isDelayed).map fun entry =>
    ⟨⟨index, entry.2⟩, entry.1.delay⟩

/-- Some actions of an event: those that are not delayed are carried out, and the others wait. -/
theorem runActions_world (place : ActionPlace) (actions : List Action) (world : World) :
    (runActions place actions world).2 =
      { Action.executeEach (actions.filter fun action => !action.isDelayed) world with
        queue := world.queue ++
          ((actions.zipIdx place.action).filter fun entry => entry.1.isDelayed).map fun entry =>
            ⟨⟨place.event, entry.2⟩, entry.1.delay⟩ } := by
  induction actions generalizing place world with
  | nil => simp [runActions]
  | cons action rest ih =>
    simp only [runActions, List.zipIdx_cons]
    rw [ih]
    cases waiting : action.isDelayed with
    | true =>
      simp only [↓reduceIte, waiting, Bool.not_true, Bool.false_eq_true, not_false_eq_true,
        List.filter_cons_of_neg, List.filter_cons_of_pos, List.map_cons, World.enqueue,
        Action.executeEach_withQueue, List.append_assoc, List.singleton_append]
    | false =>
      have still := Action.executeEach_queue [action] world
      simp only [Action.executeEach_cons, Action.executeEach_nil] at still
      simp only [Bool.false_eq_true, ↓reduceIte, waiting, Bool.not_false, not_false_eq_true,
        List.filter_cons_of_neg, List.filter_cons_of_pos, Action.executeEach_cons, still]

/-- A step of an event that fires carries out its prompt actions in order, and the delayed ones
begin to wait behind all others. -/
theorem simulate_world (event : Event) (index : Nat) (world : World) (dt : Scalar) :
    (event.simulate index world dt).2 =
      if (event.trigger.simulate world dt).1 then
        { Action.executeEach event.prompt (world.recordFire index) with
          queue := world.queue ++ event.waits index }
      else world := by
  unfold simulate
  dsimp only
  split
  · exact runActions_world ⟨index, 0⟩ event.actions (world.recordFire index)
  · rfl

theorem simulate_queue (event : Event) (index : Nat) (world : World) (dt : Scalar) :
    (event.simulate index world dt).2.queue = world.queue ++
      if (event.trigger.simulate world dt).1 then event.waits index else [] := by
  rw [simulate_world]
  split
  · rfl
  · rw [List.append_nil]

/-- In a step of all events, those that fire let their delayed actions wait, in turn. -/
theorem simulateAll_queue (dt : Scalar) (index : Nat) (events : List Event) (world : World) :
    (simulateAll dt index events world).2.queue = world.queue ++
      (events.mapIdx fun place event =>
        if (event.trigger.simulate (simulateAll dt index (events.take place) world).2 dt).1 then
          event.waits (index + place) else []).flatten := by
  induction events generalizing index world with
  | nil => simp [simulateAll]
  | cons event rest ih =>
    have shifted (place : Nat) : index + 1 + place = index + (place + 1) := by omega
    simp only [simulateAll, ih, simulate_queue, List.mapIdx_cons, List.flatten_cons,
      List.append_assoc, List.take_zero, List.take_succ_cons, Nat.add_zero, shifted]

/-- What waits after an event has fired, read through its places. -/
theorem waits_actions {events : List Event} {index : Nat} {event : Event}
    (found : events[index]? = some event) :
    (event.waits index).map (fun queued => (actionAt? events queued.place, queued.remaining)) =
      event.delayed.map fun action => (some action, action.delay) := by
  have denotes (entry : Action × Nat) (member : entry ∈ event.actions.zipIdx) :
      actionAt? events ⟨index, entry.2⟩ = some entry.1.pristine := by
    have here : event.actions[entry.2]? = some entry.1 := List.mem_zipIdx_iff_getElem?.mp member
    simp only [actionAt?, found, Option.bind_some, here, Option.map_some]
  calc (event.waits index).map (fun queued => (actionAt? events queued.place, queued.remaining))
      = (event.actions.zipIdx.filter fun entry => entry.1.isDelayed).map fun entry =>
          (some entry.1.pristine, entry.1.delay) := by
        rw [waits, List.map_map]
        refine List.map_congr_left fun entry member => ?_
        simp only [Function.comp_apply, denotes entry (List.mem_filter.mp member).1]
    _ = ((event.actions.zipIdx.map Prod.fst).filter Action.isDelayed).map fun action =>
          (some action.pristine, action.delay) := by
        rw [List.filter_map, List.map_map]
        rfl
    _ = event.delayed.map fun action => (some action, action.delay) := by
        rw [List.zipIdx_map_fst, delayed, List.map_map]
        rfl

end Event

/-- A step in which the rules act, as far as waiting actions go. -/
structure Round where
  dt : Scalar
  /-- The delayed actions of the events that fire in it, in order. -/
  begun : List Action

namespace Round

open Scalar (Outlasts EndsIn countdown)

/-- The actions that wait after some rounds, in the order in which they began to, and what is left
of their delays. -/
def waiting : List Round → List (Action × Scalar)
  | [] => []
  | round :: later =>
    (round.begun.filter fun action => Outlasts action.delay (later.map dt)).map (fun action =>
      (action, countdown action.delay (later.map dt))) ++ waiting later

/-- The actions whose delays end, after some rounds, in a step of `dt`, in the order in which they
began to wait. -/
def due : List Round → Scalar → List Action
  | [], _ => []
  | round :: later, dt =>
    (round.begun.filter fun action => EndsIn action.delay (later.map Round.dt) dt) ++ due later dt

/-- What waits after one more round: what has waited and goes on, and what begins. -/
theorem waiting_concat (rounds : List Round) (round : Round) :
    waiting (rounds ++ [round]) =
      ((waiting rounds).map fun item => (item.1, item.2 - round.dt)).filter
        (fun item => ¬ item.2 ≤ 0) ++
      round.begun.map fun action => (action, action.delay) := by
  induction rounds with
  | nil =>
    have all (action : Action) : Outlasts action.delay [] := nofun
    simp [waiting, all, countdown]
  | cons first later ih =>
    simp only [List.cons_append, waiting, ih, List.map_append, List.map_cons, List.map_nil,
      List.filter_append, List.append_assoc, List.append_cancel_right_eq, List.map_map,
      List.filter_map, List.filter_filter, Scalar.outlasts_concat, Scalar.countdown_concat]
    congr 2
    funext action
    simp [Bool.and_comm]

/-- The actions that are due are those that wait and have no time left after the step. -/
theorem due_eq (rounds : List Round) (dt : Scalar) :
    due rounds dt =
      ((waiting rounds).filter fun item => item.2 - dt ≤ 0).map Prod.fst := by
  induction rounds with
  | nil => rfl
  | cons first later ih =>
    simp only [due, waiting, ih, List.filter_append, List.map_append, List.filter_map,
      List.map_map, List.filter_filter, EndsIn, Scalar.countdown_concat]
    congr 1
    rw [List.map_id'']
    · refine List.filter_congr fun action _ => ?_
      simp [Bool.and_comm]
    · exact fun _ => rfl

end Round

namespace Mission

variable {π : Type}

/-- Whether an event fires in a step in which the rules act. -/
def fires (mission : Mission π) (dt : Scalar) (index : Nat) : Bool :=
  (mission.trigger? index).any fun trigger => (trigger.simulate (mission.sight dt index) dt).1

/-- The delayed actions that begin to wait in a step in which the rules act, in order. -/
def begun (mission : Mission π) (dt : Scalar) : List Action :=
  ((mission.waited dt).events.mapIdx fun index event =>
    if mission.fires dt index then event.delayed else []).flatten

/-- What waits, read through its places, and what is left of its delays. -/
def agenda (mission : Mission π) : List (Option Action × Scalar) :=
  mission.world.queue.map fun queued =>
    (Event.actionAt? mission.events queued.place, queued.remaining)

/-- The round that an input is, if it is a step in which the rules act. -/
def roundsOf (mission : Mission π) : Input π → List Round
  | .tick dt => if accepts dt && mission.authority then [⟨dt, mission.begun dt⟩] else []
  | _ => []

/-- The rounds of a run. -/
def rounds [Pilot π] (mission : Mission π) : List (Input π) → List Round
  | [] => []
  | input :: rest => mission.roundsOf input ++ (mission.take input).rounds rest

/-- What waits is what some rounds have left waiting. -/
def Awaits (mission : Mission π) (rounds : List Round) : Prop :=
  mission.agenda = (Round.waiting rounds).map fun item => (some item.1, item.2)

theorem Awaits.of_same {before after : Mission π} {rounds : List Round}
    (awaits : before.Awaits rounds) (queue : after.world.queue = before.world.queue)
    (same : after.events.map Event.pristine = before.events.map Event.pristine) :
    after.Awaits rounds := by
  have places := funext (Event.actionAt?_of_same same)
  rw [Awaits, agenda, queue, places]
  exact awaits

section

variable (mission : Mission π) (dt : Scalar)

/-- What waits while the events of a step look: what has waited, less what is due. -/
def left : List QueuedAction :=
  (mission.world.queue.map fun queued =>
    { queued with remaining := queued.remaining - dt }).filter fun queued => ¬ queued.remaining ≤ 0

/-- The places of what is due in a step. -/
def duePlaces : List ActionPlace :=
  ((mission.world.queue.map fun queued =>
    { queued with remaining := queued.remaining - dt }).filter fun queued =>
      queued.remaining ≤ 0).map QueuedAction.place

end

theorem takeDue_advanceTime (mission : Mission π) (dt : Scalar) :
    (mission.advanceTime dt).world.takeDue dt =
      (mission.duePlaces dt, { (mission.advanceTime dt).world with queue := mission.left dt }) := by
  unfold World.takeDue duePlaces left advanceTime
  simp only [decide_not]
  rfl

/-- What is due is what the rounds before let end in the step. -/
theorem Awaits.due {mission : Mission π} {rounds : List Round} (awaits : mission.Awaits rounds)
    (dt : Scalar) :
    (mission.duePlaces dt).map (Event.actionAt? mission.events) =
      (Round.due rounds dt).map some := by
  have read : (mission.duePlaces dt).map (Event.actionAt? mission.events) =
      (mission.agenda.filter fun item => item.2 - dt ≤ 0).map Prod.fst := by
    simp only [duePlaces, agenda, List.filter_map, List.map_map]
    rfl
  rw [read, awaits, Round.due_eq]
  simp only [List.filter_map, List.map_map]
  rfl

/-- Waiting actions that are due are carried out as they were built, in order. -/
theorem Awaits.waited_world {mission : Mission π} {rounds : List Round}
    (awaits : mission.Awaits rounds) (dt : Scalar) (host : mission.authority = true) :
    (mission.waited dt).world = Action.executeEach (Round.due rounds dt)
      { (mission.advanceTime dt).world with queue := mission.left dt } := by
  have still : (mission.advanceTime dt).authority = true := host
  unfold waited runDueActions
  rw [if_pos still, takeDue_advanceTime]
  exact Event.executeAll_world (awaits.due dt) _

theorem waited_queue (mission : Mission π) (dt : Scalar) (host : mission.authority = true) :
    (mission.waited dt).world.queue = mission.left dt := by
  have still : (mission.advanceTime dt).authority = true := host
  rw [waited, runDueActions, if_pos still, takeDue_advanceTime]
  -- While waiting actions are carried out, none begins to wait.
  exact (executeAll_changes _ _ _).queue (by decide)

theorem fires_of_waited {mission : Mission π} {dt : Scalar} {index : Nat} {event : Event}
    (found : (mission.waited dt).events[index]? = some event) :
    mission.fires dt index = (event.trigger.simulate (mission.sight dt index) dt).1 := by
  have known := mission.waited_trigger? dt index
  rw [trigger?_eq_some.mpr ⟨event, found, rfl⟩] at known
  rw [fires, ← known, Option.any_some]

/-- The next event of a step sees what the one before it leaves: its prompt actions are carried out
if it fires, and its delayed ones wait. -/
theorem sight_succ (mission : Mission π) (dt : Scalar) (host : mission.authority = true)
    {index : Nat} {event : Event} (found : (mission.waited dt).events[index]? = some event) :
    mission.sight dt (index + 1) =
      if mission.fires dt index then
        { Action.executeEach event.prompt ((mission.sight dt index).recordFire index) with
          queue := (mission.sight dt index).queue ++ event.waits index }
      else mission.sight dt index := by
  have inside := (List.getElem?_eq_some_iff.mp found).1
  have parts : (mission.waited dt).events.take (index + 1) =
      (mission.waited dt).events.take index ++ [event] := by
    rw [List.take_add_one, found]
    rfl
  have length : ((mission.waited dt).events.take index).length = index :=
    List.length_take_of_le (Nat.le_of_lt inside)
  rw [fires_of_waited found, ← Event.simulate_world]
  simp only [sight, host, ↓reduceIte, parts, Event.simulateAll_append, length, Nat.zero_add]
  rfl

theorem sight_zero (mission : Mission π) (dt : Scalar) :
    mission.sight dt 0 = (mission.waited dt).world := by
  unfold sight
  split
  · rfl
  · rfl

/-- The events of a step let wait what begins in it. -/
theorem ruled_queue (mission : Mission π) (dt : Scalar) (host : mission.authority = true) :
    ((mission.waited dt).ruled dt).queue = (mission.waited dt).world.queue ++
      ((mission.waited dt).events.mapIdx fun index event =>
        if mission.fires dt index then event.waits index else []).flatten := by
  have still := (mission.waited_authority dt).trans host
  rw [ruled, if_pos still, Event.simulateAll_queue]
  congr 2
  refine List.mapIdx_eq_mapIdx_iff.mpr fun index inside => ?_
  have found := List.getElem?_eq_getElem inside
  rw [fires_of_waited found]
  simp only [sight, host, ↓reduceIte, Nat.zero_add]

theorem waited_pristine (mission : Mission π) (dt : Scalar) :
    (mission.waited dt).events.map Event.pristine = mission.events.map Event.pristine :=
  ((mission.advanceTime dt).runDueActions_rests dt).same

/-- What begins to wait in a step, read through its places. -/
theorem begun_actions (mission : Mission π) (dt : Scalar) :
    (((mission.waited dt).events.mapIdx fun index event =>
      if mission.fires dt index then event.waits index else []).flatten).map (fun queued =>
        (Event.actionAt? mission.events queued.place, queued.remaining)) =
      (mission.begun dt).map fun action => (some action, action.delay) := by
  have places := funext (Event.actionAt?_of_same (mission.waited_pristine dt))
  rw [begun, List.map_flatten, List.map_flatten, ← places]
  congr 1
  refine List.ext_getElem? fun index => ?_
  simp only [List.getElem?_map, List.getElem?_mapIdx]
  cases found : (mission.waited dt).events[index]? with
  | none => rfl
  | some event =>
    simp only [Option.map_some]
    split
    · rw [Event.waits_actions found]
    · rfl

theorem left_actions (mission : Mission π) (dt : Scalar) :
    (mission.left dt).map (fun queued =>
      (Event.actionAt? mission.events queued.place, queued.remaining)) =
      (mission.agenda.map fun item => (item.1, item.2 - dt)).filter fun item => ¬ item.2 ≤ 0 := by
  simp only [left, agenda, List.filter_map, List.map_map]
  rfl

/-- After the last event of a step, the notices that it has read are gone. -/
theorem runEvents_sight (mission : Mission π) (dt : Scalar) :
    ((mission.waited dt).runEvents dt).world =
      (mission.sight dt mission.events.length).retireNotices
        (mission.waited dt).world.notices.finish := by
  have length := congrArg List.length (mission.waited_pristine dt)
  rw [List.length_map, List.length_map] at length
  rw [runEvents_world, ruled, sight, mission.waited_authority dt, ← length, List.take_length]

/-- A guest neither carries out what waits nor looks at events. -/
theorem guest_sight (mission : Mission π) (dt : Scalar) (guest : mission.authority = false) :
    (mission.waited dt).world = (mission.advanceTime dt).world ∧
      ∀ index, mission.sight dt index = (mission.waited dt).world := by
  have still : ¬ (mission.advanceTime dt).authority = true := by
    rw [show (mission.advanceTime dt).authority = mission.authority from rfl, guest]
    exact Bool.false_ne_true
  refine ⟨?_, fun index => ?_⟩
  · rw [waited, runDueActions, if_neg still]
  · simp only [sight, guest, Bool.false_eq_true, ↓reduceIte]

variable [Pilot π]

/-- After the events of a step, nothing begins or ends to wait. -/
theorem tick_queue (mission : Mission π) {dt : Scalar} (accepted : accepts dt = true) :
    (mission.tick dt).world.queue = ((mission.waited dt).ruled dt).queue := by
  rw [mission.tick_of_accepts dt accepted, (updateState_changes _).queue (by decide), advance,
    (runCrafts_passive _ dt).world.queue, runRules, runEvents_world]
  rfl

theorem tick_awaits {mission : Mission π} {rounds : List Round} (awaits : mission.Awaits rounds)
    {dt : Scalar} (accepted : accepts dt = true) (host : mission.authority = true) :
    (mission.tick dt).Awaits (rounds ++ [⟨dt, mission.begun dt⟩]) := by
  have places := funext (Event.actionAt?_of_same (mission.take_pristine (.tick dt)))
  calc (mission.tick dt).agenda
      = (mission.tick dt).world.queue.map fun queued =>
          (Event.actionAt? mission.events queued.place, queued.remaining) := by
        rw [agenda, ← places]
        rfl
    _ = ((mission.agenda.map fun item => (item.1, item.2 - dt)).filter fun item => ¬ item.2 ≤ 0) ++
          (mission.begun dt).map fun action => (some action, action.delay) := by
        rw [mission.tick_queue accepted, mission.ruled_queue dt host,
          mission.waited_queue dt host, List.map_append, left_actions, begun_actions]
    _ = (Round.waiting (rounds ++ [⟨dt, mission.begun dt⟩])).map fun item =>
          (some item.1, item.2) := by
        rw [awaits, Round.waiting_concat]
        simp only [List.map_append, List.map_map, List.filter_map]
        rfl

/-- A step of a guest leaves waiting what waits. -/
theorem guest_queue (mission : Mission π) {dt : Scalar} (accepted : accepts dt = true)
    (guest : mission.authority = false) : (mission.tick dt).world.queue = mission.world.queue := by
  rw [mission.tick_queue accepted]
  simp only [ruled, waited, runDueActions, advanceTime, guest, Bool.false_eq_true, ↓reduceIte]
  rfl

theorem take_awaits {mission : Mission π} {rounds : List Round} (awaits : mission.Awaits rounds)
    (input : Input π) : (mission.take input).Awaits (rounds ++ mission.roundsOf input) := by
  by_cases step : ∃ dt, input = .tick dt ∧ accepts dt = true
  · obtain ⟨dt, rfl, accepted⟩ := step
    cases authority : mission.authority with
    | true =>
      simp only [roundsOf, accepted, authority, Bool.and_self, ↓reduceIte]
      exact tick_awaits awaits accepted authority
    | false =>
      simp only [roundsOf, authority, Bool.and_false, Bool.false_eq_true, ↓reduceIte,
        List.append_nil]
      exact awaits.of_same (mission.guest_queue accepted authority)
        (mission.take_pristine (.tick dt))
  · have idle : mission.roundsOf input = [] := by
      cases input with
      | tick dt =>
        have refused : accepts dt ≠ true := fun accepted => step ⟨dt, rfl, accepted⟩
        simp [roundsOf, refused]
      | _ => rfl
    rcases mission.take_cases input with passing | ⟨world, _, rests⟩
    · exact absurd passing step
    · rw [idle, List.append_nil]
      exact awaits.of_same (by rw [world]) rests.same

theorem play_awaits {mission : Mission π} {rounds : List Round} (awaits : mission.Awaits rounds)
    (inputs : List (Input π)) : (mission.play inputs).Awaits (rounds ++ mission.rounds inputs) := by
  induction inputs generalizing mission rounds with
  | nil =>
    rw [Mission.rounds, List.append_nil]
    exact awaits
  | cons input rest ih =>
    rw [Mission.rounds, ← List.append_assoc]
    exact ih (take_awaits awaits input)

omit [Pilot π] in
/-- Nothing waits before the mission starts. -/
theorem ofDescriptor_queue (descriptor : MissionDescriptor) (catalog : Catalog)
    (settings : Settings) (pools : Pools) :
    (ofDescriptor (π := π) descriptor catalog settings pools).world.queue = [] := by
  obtain ⟨_, _, _, _, _, _, loaded⟩ :=
    LoadedMission.ofDescriptor_same descriptor catalog settings (pools.prefill settings.poolSizes)
  exact ((World.setState_changes _ _).queue (by decide)).trans (congrArg World.queue loaded)

omit [Pilot π] in
theorem ofDescriptor_awaits (descriptor : MissionDescriptor) (catalog : Catalog)
    (settings : Settings) (pools : Pools) :
    (ofDescriptor (π := π) descriptor catalog settings pools).Awaits [] := by
  rw [Awaits, agenda, ofDescriptor_queue]
  rfl

/-- Only steps carry out actions. -/
theorem take_world_of_idle (mission : Mission π) {input : Input π}
    (idle : ∀ dt, input = .tick dt → accepts dt = false) :
    (mission.take input).world = mission.world := by
  rcases mission.take_cases input with ⟨dt, passing, accepted⟩ | ⟨world, _⟩
  · rw [idle dt passing] at accepted
    cases accepted
  · exact world

/-- Whatever has happened to a mission, what waits are the delayed actions of the events that have
fired in a step with authority, less those whose delays such steps have ended since. The next such
step carries out, before its first event looks, exactly those whose delays it ends, in the order in
which they began to wait. Then the events look in turn, and one that fires carries out its other
actions at once, in their order, and lets the delayed ones wait. A step without authority does
nothing of this, and no other input touches the world. As a countdown ends only once, no action is
carried out twice. -/
theorem delayed_actions_run_once_and_on_time (descriptor : MissionDescriptor) (catalog : Catalog)
    (settings : Settings) (pools : Pools) (before : List (Input π)) :
    let start := ofDescriptor descriptor catalog settings pools
    let mission := start.play before
    let rounds := start.rounds before
    mission.agenda = (Round.waiting rounds).map (fun item => (some item.1, item.2)) ∧
    (∀ dt, accepts dt = true →
      mission.tick dt = (((mission.waited dt).runEvents dt).runCrafts dt).updateState ∧
      mission.sight dt 0 = (mission.waited dt).world ∧
      ((mission.waited dt).runEvents dt).world =
        (mission.sight dt mission.events.length).retireNotices
          (mission.waited dt).world.notices.finish ∧
      (mission.authority = true →
        (mission.waited dt).world = Action.executeEach (Round.due rounds dt)
          { (mission.advanceTime dt).world with queue := mission.left dt } ∧
        ∀ index event, (mission.waited dt).events[index]? = some event →
          mission.sight dt (index + 1) =
            if mission.fires dt index then
              { Action.executeEach event.prompt
                  ((mission.sight dt index).recordFire index) with
                queue := (mission.sight dt index).queue ++ event.waits index }
            else mission.sight dt index) ∧
      (mission.authority = false →
        (mission.waited dt).world = (mission.advanceTime dt).world ∧
          ∀ index, mission.sight dt index = (mission.waited dt).world)) ∧
    (∀ input, (∀ dt, input = .tick dt → accepts dt = false) →
      (mission.take input).world = mission.world) ∧
    ∀ delay earlier dt later last, Scalar.EndsIn delay earlier dt →
      ¬ Scalar.EndsIn delay (earlier ++ dt :: later) last := by
  intro start mission rounds
  have awaits : mission.Awaits rounds := by
    have played := play_awaits (ofDescriptor_awaits descriptor catalog settings pools) before
    rwa [List.nil_append] at played
  refine ⟨awaits, ?_, fun input idle => mission.take_world_of_idle idle, ?_⟩
  · intro dt accepted
    refine ⟨mission.tick_of_accepts dt accepted, mission.sight_zero dt,
      mission.runEvents_sight dt, ?_, mission.guest_sight dt⟩
    intro host
    exact ⟨awaits.waited_world dt host, fun index event found => mission.sight_succ dt host found⟩
  · intro delay earlier dt later last ends again
    exact ends.once later again.1

/-- One event, of three messages of which two wait. -/
def broadcasting : MissionDescriptor :=
  let moment : ConditionDescriptor :=
    { kind := "time"
      params := .object [("time", .number (.natural 10)), ("when", .text "once")] }
  let message (delay : Scalar) (text : String) : ActionDescriptor :=
    { kind := "message", delay, params := .object [("text", .text text)] }
  { events :=
      [{ trigger := { conditions := [moment] }
         actions := [message 100 "early", message 0 "now", message 60 "late"] }] }

def broadcast : Mission Pursuit :=
  ofDescriptor broadcasting .standard { quality := .low, particles := false } {}

/-- The messages to the pilot, in order. -/
def spoken (world : World) : List String :=
  world.observations.toList.filterMap fun
    | .message message => some message.text
    | _ => none

/-- A step without authority counts for no delay. The two messages that wait are due in one step
after it, and the one that began to wait first comes first although less was left of the other. -/
theorem broadcast_after_pause :
    let before : List (Input Pursuit) :=
      [.tick 16, .authority false, .tick 90, .authority true, .tick 50]
    let mission := broadcast.play before
    accepts 50 = true ∧ mission.authority = true ∧
      mission.agenda.map Prod.snd = [50, 10] ∧
      spoken mission.world = ["now"] ∧
      spoken (mission.waited 50).world = ["now", "early", "late"] ∧
      (mission.tick 50).world.queue = [] := by
  intro before mission
  obtain ⟨accepted, host⟩ : accepts 50 = true ∧ mission.authority = true := by decide +kernel
  obtain ⟨waiting, steps, _⟩ : mission.agenda =
      (Round.waiting (broadcast.rounds before)).map (fun item => (some item.1, item.2)) ∧ _ :=
    delayed_actions_run_once_and_on_time broadcasting .standard
      { quality := .low, particles := false } {} before
  obtain ⟨_, _, _, hosted, _⟩ := steps 50 accepted
  have carried : (mission.waited 50).world =
      Action.executeEach (Round.due (broadcast.rounds before) 50)
        { (mission.advanceTime 50).world with queue := mission.left 50 } := (hosted host).1
  refine ⟨accepted, host, ?_, by decide +kernel, ?_, by decide +kernel⟩
  · rw [waiting]
    decide +kernel
  · rw [carried]
    decide +kernel

end Mission

end Sortie
