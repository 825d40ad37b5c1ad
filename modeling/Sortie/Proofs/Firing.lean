import Sortie.Proofs.Phases

set_option autoImplicit false

namespace Sortie

namespace Condition

theorem look_pristine (condition : Condition) (world : World) (dt : Scalar) :
    (condition.look world dt).2.pristine = condition.pristine := by
  unfold look
  split
  · rfl
  · have asked := ({ (condition.evaluate world dt).2 with
        lastSatisfied := (condition.evaluate world dt).1 } : Condition).checkImpossible_asked world
    rw [asked.pristine]
    exact condition.evaluate_pristine world dt

end Condition

namespace Trigger

theorem judge_pristine (trigger : Trigger) (world : World) (dt : Scalar) :
    (trigger.judge world dt).2.pristine = trigger.pristine := by
  unfold judge
  dsimp only
  split
  · rfl
  · simp only [pristine, looks, List.map_map]
    congr 1
    apply List.map_congr_left
    intro condition _
    exact condition.look_pristine world dt

theorem commit_pristine (trigger : Trigger) : trigger.commit.2.pristine = trigger.pristine := by
  unfold commit
  split
  · rfl
  · rename_i oneShot
    split
    · simp only [pristine, oneShot, Option.map_some]
    · simp only [pristine, oneShot, Option.map_some]

theorem consider_pristine (trigger : Trigger) (world : World) (dt : Scalar) :
    (trigger.consider world dt).2.pristine = trigger.pristine := by
  have judged := trigger.judge_pristine world dt
  unfold consider
  dsimp only
  split
  · rw [commit_pristine, judged]
  · exact judged

theorem simulate_pristine (trigger : Trigger) (world : World) (dt : Scalar) :
    (trigger.simulate world dt).2.pristine = trigger.pristine := by
  unfold simulate
  split
  · rfl
  · split
    · rfl
    · rename_i remaining counting
      dsimp only
      split
      · simp only [pristine, counting, Option.map_some]
      · simp only [pristine, counting, Option.map_some]
    · exact consider_pristine trigger world dt
    · exact consider_pristine trigger world dt

end Trigger

namespace Event

theorem runActions_pristine (place : ActionPlace) (actions : List Action) (world : World) :
    (runActions place actions world).1.map Action.pristine = actions.map Action.pristine := by
  induction actions generalizing place world with
  | nil => rfl
  | cons action rest ih =>
    simp only [runActions, List.map_cons, ih]
    split
    · rfl
    · rw [Action.execute_pristine]

theorem simulate_trigger (event : Event) (index : Nat) (world : World) (dt : Scalar) :
    (event.simulate index world dt).1.trigger = (event.trigger.simulate world dt).2 := by
  unfold simulate
  dsimp only
  split
  · rfl
  · rfl

theorem simulate_pristine (event : Event) (index : Nat) (world : World) (dt : Scalar) :
    (event.simulate index world dt).1.pristine = event.pristine := by
  unfold simulate
  dsimp only
  split
  · simp only [pristine, Trigger.simulate_pristine, runActions_pristine]
  · simp only [pristine, Trigger.simulate_pristine]

theorem simulate_fires (event : Event) (index : Nat) (world : World) (dt : Scalar) :
    (event.simulate index world dt).2.fires =
      if (event.trigger.simulate world dt).1 then (world.recordFire index).fires
      else world.fires := by
  unfold simulate
  dsimp only
  split
  · exact (runActions_changes _ _ _).fires (by decide)
  · rfl

theorem simulateAll_pristine (dt : Scalar) (index : Nat) (events : List Event) (world : World) :
    (simulateAll dt index events world).1.map pristine = events.map pristine := by
  induction events generalizing index world with
  | nil => rfl
  | cons event rest ih => simp only [simulateAll, List.map_cons, simulate_pristine, ih]

end Event

namespace World

theorem recordFire_size (world : World) (event : Nat) :
    (world.recordFire event).fires.size = world.fires.size := by
  simp only [recordFire, Array.size_modify]

theorem recordFire_self (world : World) (event : Nat) (inside : event < world.fires.size) :
    (world.recordFire event).fireCount event = world.fireCount event + 1 := by
  simp only [fireCount, recordFire, Array.getD_eq_getD_getElem?, Array.getElem?_modify]
  simp [inside]

theorem recordFire_other (world : World) {event other : Nat} (apart : event ≠ other) :
    (world.recordFire event).fireCount other = world.fireCount other := by
  simp only [fireCount, recordFire, Array.getD_eq_getD_getElem?, Array.getElem?_modify,
    if_neg apart]

theorem fireCount_le_recordFire (world : World) (event other : Nat) :
    world.fireCount other ≤ (world.recordFire event).fireCount other := by
  by_cases same : event = other
  · subst same
    by_cases inside : event < world.fires.size
    · rw [world.recordFire_self event inside]
      omega
    · simp [fireCount, Array.getD_eq_getD_getElem?, inside]
  · exact Nat.le_of_eq (world.recordFire_other same).symm

theorem fireCount_of_fires {before after : World} (same : after.fires = before.fires)
    (event : Nat) : after.fireCount event = before.fireCount event := by
  simp only [fireCount, same]

end World

namespace Event

theorem simulate_size (event : Event) (index : Nat) (world : World) (dt : Scalar) :
    (event.simulate index world dt).2.fires.size = world.fires.size := by
  rw [simulate_fires]
  split
  · exact world.recordFire_size index
  · rfl

theorem simulate_fireCount (event : Event) (index : Nat) (world : World) (dt : Scalar)
    (inside : index < world.fires.size) :
    (event.simulate index world dt).2.fireCount index =
      world.fireCount index + (event.trigger.simulate world dt).1.toNat := by
  have fires := event.simulate_fires index world dt
  cases fired : (event.trigger.simulate world dt).1 with
  | true =>
    rw [fired, if_pos rfl] at fires
    rw [World.fireCount_of_fires fires, world.recordFire_self index inside, Bool.toNat_true]
  | false =>
    rw [fired, if_neg Bool.false_ne_true] at fires
    rw [World.fireCount_of_fires fires, Bool.toNat_false, Nat.add_zero]

theorem simulate_fireCount_other (event : Event) {index other : Nat} (world : World) (dt : Scalar)
    (apart : index ≠ other) :
    (event.simulate index world dt).2.fireCount other = world.fireCount other := by
  have fires := event.simulate_fires index world dt
  split at fires
  · rw [World.fireCount_of_fires fires, world.recordFire_other apart]
  · exact World.fireCount_of_fires fires other

theorem simulateAll_size (dt : Scalar) (index : Nat) (events : List Event) (world : World) :
    (simulateAll dt index events world).2.fires.size = world.fires.size := by
  induction events generalizing index world with
  | nil => rfl
  | cons event rest ih => simp only [simulateAll, ih, simulate_size]

theorem simulateAll_fireCount_before (dt : Scalar) (index : Nat) (events : List Event)
    (world : World) (other : Nat) (before : other < index) :
    (simulateAll dt index events world).2.fireCount other = world.fireCount other := by
  induction events generalizing index world with
  | nil => rfl
  | cons event rest ih =>
    simp only [simulateAll]
    rw [ih (index + 1) _ (by omega), event.simulate_fireCount_other world dt (by omega)]

theorem fireCount_le_simulateAll (dt : Scalar) (index : Nat) (events : List Event)
    (world : World) (other : Nat) :
    world.fireCount other ≤ (simulateAll dt index events world).2.fireCount other := by
  induction events generalizing index world with
  | nil => exact Nat.le_refl _
  | cons event rest ih =>
    have first : world.fireCount other ≤
        (event.simulate index world dt).2.fireCount other := by
      have fires := event.simulate_fires index world dt
      split at fires
      · rw [World.fireCount_of_fires fires]
        exact world.fireCount_le_recordFire index other
      · exact Nat.le_of_eq (World.fireCount_of_fires fires other).symm
    exact Nat.le_trans first (ih (index + 1) (event.simulate index world dt).2)

/-- In a step of all events, each trigger is stepped once, and counted if it fires. -/
theorem simulateAll_trigger (dt : Scalar) (index : Nat) (events : List Event) (world : World)
    {place : Nat} {event : Event} (found : events[place]? = some event)
    (inside : index + place < world.fires.size) :
    ∃ now later, (simulateAll dt index events world).1[place]? = some later ∧
      later.trigger = (event.trigger.simulate now dt).2 ∧
      (simulateAll dt index events world).2.fireCount (index + place) =
        world.fireCount (index + place) + (event.trigger.simulate now dt).1.toNat := by
  -- Events before this one only change the world it sees, and those after it leave its count alone.
  induction events generalizing index world place with
  | nil => cases found
  | cons first rest ih =>
    simp only [simulateAll]
    cases place with
    | zero =>
      rw [List.getElem?_cons_zero] at found
      cases found
      refine ⟨world, _, rfl, event.simulate_trigger index world dt, ?_⟩
      rw [Nat.add_zero, simulateAll_fireCount_before _ _ _ _ _ (by omega)]
      exact event.simulate_fireCount index world dt (by omega)
    | succ place =>
      rw [List.getElem?_cons_succ] at found
      have shifted : index + 1 + place = index + (place + 1) := by omega
      have room : index + 1 + place < (first.simulate index world dt).2.fires.size := by
        rw [first.simulate_size]
        omega
      obtain ⟨now, later, there, stepped, counted⟩ :=
        ih (index + 1) (first.simulate index world dt).2 found room
      rw [shifted, first.simulate_fireCount_other world dt (by omega)] at counted
      exact ⟨now, later, there, stepped, counted⟩

end Event

namespace Mission

variable {π : Type}

/-- The trigger of the event with an index. -/
def trigger? (mission : Mission π) (index : Nat) : Option Trigger :=
  (mission.events.map Event.trigger)[index]?

/-- Every event has a fire count. -/
def Sized (mission : Mission π) : Prop := mission.world.fires.size = mission.events.length

theorem trigger?_of_triggers {before after : Mission π}
    (same : after.events.map Event.trigger = before.events.map Event.trigger) (index : Nat) :
    after.trigger? index = before.trigger? index := by
  simp only [trigger?, same]

theorem trigger?_eq_some {mission : Mission π} {index : Nat} {trigger : Trigger} :
    mission.trigger? index = some trigger ↔
      ∃ event, mission.events[index]? = some event ∧ event.trigger = trigger := by
  simp only [trigger?, List.getElem?_map, Option.map_eq_some_iff]

theorem trigger?_of_rests {before after : Mission π}
    (rests : Event.AllRest before.events after.events) {index : Nat} {trigger : Trigger}
    (found : before.trigger? index = some trigger) :
    ∃ later, after.trigger? index = some later ∧ trigger.Asked later := by
  obtain ⟨event, there, rfl⟩ := trigger?_eq_some.mp found
  obtain ⟨later, here, related⟩ := each_getElem? rests there
  exact ⟨later.trigger, trigger?_eq_some.mpr ⟨later, here, rfl⟩, related.trigger⟩

theorem trigger?_of_length {before after : Mission π}
    (same : after.events.length = before.events.length) {index : Nat} {later : Trigger}
    (found : after.trigger? index = some later) :
    ∃ trigger, before.trigger? index = some trigger := by
  obtain ⟨event, there, _⟩ := trigger?_eq_some.mp found
  have inside := (List.getElem?_eq_some_iff.mp there).1
  rw [same] at inside
  exact ⟨_, trigger?_eq_some.mpr ⟨_, List.getElem?_eq_getElem inside, rfl⟩⟩

theorem runRules_authority (mission : Mission π) (dt : Scalar) :
    ((mission.advanceTime dt).runDueActions dt).authority = mission.authority :=
  runDueActions_authority _ dt

theorem runRules_guest (mission : Mission π) (dt : Scalar) (guest : mission.authority = false) :
    (mission.runRules dt).events = mission.events ∧
      (mission.runRules dt).world.fires = mission.world.fires := by
  simp only [runRules, runEvents, runDueActions, advanceTime, guest, Bool.false_eq_true,
    ↓reduceIte]
  exact ⟨trivial, rfl⟩

theorem runRules_host (mission : Mission π) (dt : Scalar) (host : mission.authority = true) :
    ∃ world, world.fires = mission.world.fires ∧
      let stepped := Event.simulateAll dt 0 ((mission.advanceTime dt).runDueActions dt).events world
      (mission.runRules dt).events = stepped.1 ∧
        (mission.runRules dt).world.fires = stepped.2.fires := by
  refine ⟨((mission.advanceTime dt).runDueActions dt).world,
    (runDueActions_changes _ dt).fires (by decide), ?_⟩
  have still := (mission.runRules_authority dt).trans host
  simp only [runRules, runEvents, still, ↓reduceIte]
  exact ⟨trivial, rfl⟩

theorem runRules_pristine (mission : Mission π) (dt : Scalar) :
    (mission.runRules dt).events.map Event.pristine = mission.events.map Event.pristine := by
  cases authority : mission.authority with
  | true =>
    obtain ⟨world, _, events, _⟩ := mission.runRules_host dt authority
    rw [events, Event.simulateAll_pristine]
    exact ((mission.advanceTime dt).runDueActions_rests dt).same
  | false => rw [(mission.runRules_guest dt authority).1]

theorem runRules_size (mission : Mission π) (dt : Scalar) :
    (mission.runRules dt).world.fires.size = mission.world.fires.size := by
  cases authority : mission.authority with
  | true =>
    obtain ⟨world, fires, _, counts⟩ := mission.runRules_host dt authority
    rw [counts, Event.simulateAll_size, fires]
  | false => rw [(mission.runRules_guest dt authority).2]

/-- Where events run, a step steps each trigger once and counts it if it fires. -/
theorem runRules_trigger (mission : Mission π) (dt : Scalar) (host : mission.authority = true)
    (sized : mission.Sized) {index : Nat} {trigger : Trigger}
    (found : mission.trigger? index = some trigger) :
    ∃ now, (mission.runRules dt).trigger? index = some (trigger.simulate now dt).2 ∧
      (mission.runRules dt).world.fireCount index =
        mission.world.fireCount index + (trigger.simulate now dt).1.toNat := by
  obtain ⟨world, fires, events, counts⟩ := mission.runRules_host dt host
  have waited := trigger?_of_triggers ((mission.advanceTime dt).runDueActions_triggers dt) index
  obtain ⟨event, there, rfl⟩ := trigger?_eq_some.mp (waited.trans found)
  have inside : 0 + index < world.fires.size := by
    obtain ⟨old, present, _⟩ := trigger?_eq_some.mp found
    have bound := (List.getElem?_eq_some_iff.mp present).1
    rw [fires, sized]
    omega
  obtain ⟨now, later, here, stepped, counted⟩ :=
    Event.simulateAll_trigger dt 0 _ world there inside
  refine ⟨now, trigger?_eq_some.mpr ⟨later, by rw [events]; exact here, stepped⟩, ?_⟩
  rw [World.fireCount_of_fires counts]
  rw [Nat.zero_add] at counted
  rw [counted, World.fireCount_of_fires fires]

variable [Pilot π]

theorem advance_pristine (mission : Mission π) (dt : Scalar) :
    (mission.advance dt).events.map Event.pristine = mission.events.map Event.pristine := by
  rw [advance, (runCrafts_passive _ dt).events]
  exact mission.runRules_pristine dt

/-- The rules stay as they are built. -/
theorem take_pristine (mission : Mission π) (input : Input π) :
    (mission.take input).events.map Event.pristine = mission.events.map Event.pristine := by
  rcases mission.take_cases input with ⟨dt, rfl, accepted⟩ | ⟨_, _, rests⟩
  · rw [take, mission.tick_of_accepts dt accepted, (updateState_rests _).same]
    exact mission.advance_pristine dt
  · exact rests.same

theorem play_pristine (mission : Mission π) (inputs : List (Input π)) :
    (mission.play inputs).events.map Event.pristine = mission.events.map Event.pristine :=
  mission.play_keeps (fun now => now.events.map Event.pristine = mission.events.map Event.pristine)
    (fun now input same => (now.take_pristine input).trans same) inputs rfl

theorem fireCount_le_advance (mission : Mission π) (dt : Scalar) (index : Nat) :
    mission.world.fireCount index ≤ (mission.advance dt).world.fireCount index := by
  rw [advance, World.fireCount_of_fires ((mission.runRules dt).runCrafts_passive dt).world.fires]
  cases authority : mission.authority with
  | true =>
    obtain ⟨world, fires, _, counts⟩ := mission.runRules_host dt authority
    rw [World.fireCount_of_fires counts, ← World.fireCount_of_fires fires]
    exact Event.fireCount_le_simulateAll dt 0 _ world index
  | false =>
    exact Nat.le_of_eq (World.fireCount_of_fires (mission.runRules_guest dt authority).2 index).symm

theorem tick_fireCount (mission : Mission π) {dt : Scalar} (accepted : accepts dt = true)
    (index : Nat) :
    (mission.tick dt).world.fireCount index = (mission.advance dt).world.fireCount index := by
  rw [mission.tick_of_accepts dt accepted]
  exact World.fireCount_of_fires ((updateState_changes _).fires (by decide)) index

theorem tick_authority (mission : Mission π) (dt : Scalar) :
    (mission.tick dt).authority = mission.authority := by
  cases accepted : accepts dt with
  | true =>
    rw [mission.tick_of_accepts dt accepted]
    exact ((mission.runRules dt).runCrafts_passive dt).authority.trans
      (mission.runRules_authority dt)
  | false => rw [mission.tick_of_not_accepts dt accepted]

theorem take_size (mission : Mission π) (input : Input π) :
    (mission.take input).world.fires.size = mission.world.fires.size := by
  rcases mission.take_cases input with ⟨dt, rfl, accepted⟩ | ⟨world, _, _⟩
  · rw [take, mission.tick_of_accepts dt accepted, (updateState_changes _).fires (by decide),
      advance, (runCrafts_passive _ dt).world.fires, runRules_size]
  · rw [world]

theorem take_sized (mission : Mission π) (input : Input π) (sized : mission.Sized) :
    (mission.take input).Sized := by
  have events := congrArg List.length (mission.take_pristine input)
  rw [List.length_map, List.length_map] at events
  rw [Sized, mission.take_size input, events]
  exact sized

theorem play_sized (mission : Mission π) (inputs : List (Input π)) (sized : mission.Sized) :
    (mission.play inputs).Sized :=
  play_keeps Sized take_sized mission inputs sized

/-- Where events run, an accepted step steps each trigger once, counts it if it fires, and may ask
it after that. -/
theorem tick_trigger (mission : Mission π) (dt : Scalar) (accepted : accepts dt = true)
    (host : mission.authority = true) (sized : mission.Sized) {index : Nat} {trigger : Trigger}
    (found : mission.trigger? index = some trigger) :
    ∃ now later, (mission.tick dt).trigger? index = some later ∧
      (trigger.simulate now dt).2.Asked later ∧
      (mission.tick dt).world.fireCount index =
        mission.world.fireCount index + (trigger.simulate now dt).1.toNat := by
  obtain ⟨now, stepped, counted⟩ := mission.runRules_trigger dt host sized found
  have flown : (mission.advance dt).trigger? index = some (trigger.simulate now dt).2 := by
    rw [← stepped]
    exact trigger?_of_triggers (by rw [advance, (runCrafts_passive _ dt).events]) index
  obtain ⟨later, here, asked⟩ := trigger?_of_rests (updateState_rests (mission.advance dt)) flown
  rw [mission.tick_of_accepts dt accepted]
  refine ⟨now, later, here, asked, ?_⟩
  rw [World.fireCount_of_fires ((updateState_changes _).fires (by decide)), ← counted]
  exact World.fireCount_of_fires (runCrafts_passive _ dt).world.fires index

end Mission

/-- One turn of a trigger in a run, and whether it fires: it is asked, or stepped and then asked. -/
inductive Trigger.Turn (trigger : Trigger) : Bool → Trigger → Prop where
  | asked {later : Trigger} : trigger.Asked later → Turn trigger false later
  | stepped {now : World} {dt : Scalar} {later : Trigger} : Mission.accepts dt = true →
      (trigger.simulate now dt).2.Asked later → Turn trigger (trigger.simulate now dt).1 later

namespace Trigger

/-- What a look at the conditions keeps of a trigger, whatever becomes of its delay, the step keeps.
-/
theorem simulate_keeps {holds : Trigger → Prop} {world : World} {dt : Scalar}
    (judged : ∀ trigger : Trigger, holds trigger → holds (trigger.judge world dt).2)
    (shot : ∀ (trigger : Trigger) (oneShot : Option OneShot),
      holds trigger → holds { trigger with oneShot })
    {trigger : Trigger} (held : holds trigger) : holds (trigger.simulate world dt).2 := by
  have committed (trigger : Trigger) (held : holds trigger) : holds trigger.commit.2 := by
    unfold commit
    split
    · exact held
    · split
      · exact shot trigger _ held
      · exact shot trigger _ held
  have considered : holds (trigger.consider world dt).2 := by
    unfold consider
    dsimp only
    split
    · exact committed _ (judged trigger held)
    · exact judged trigger held
  unfold simulate
  split
  · exact held
  · split
    · exact held
    · dsimp only
      split
      · exact shot trigger _ held
      · exact shot trigger _ held
    · exact considered
    · exact considered

theorem Turn.keeps {holds : Trigger → Prop}
    (judged : ∀ (trigger : Trigger) (world : World) (dt : Scalar),
      holds trigger → holds (trigger.judge world dt).2)
    (shot : ∀ (trigger : Trigger) (oneShot : Option OneShot),
      holds trigger → holds { trigger with oneShot })
    (answered : ∀ before after : Trigger, holds before → before.Asked after → holds after)
    {trigger later : Trigger} {fires : Bool} (turn : trigger.Turn fires later)
    (held : holds trigger) : holds later := by
  cases turn with
  | asked asked => exact answered trigger later held asked
  | stepped _ asked =>
    exact answered _ later (simulate_keeps (fun trigger => judged trigger _ _) shot held) asked

end Trigger

namespace Mission

variable {π : Type} [Pilot π]

theorem tick_guest (mission : Mission π) (dt : Scalar) (accepted : accepts dt = true)
    (guest : mission.authority = false) :
    Event.AllRest mission.events (mission.tick dt).events ∧
      (mission.tick dt).world.fires = mission.world.fires := by
  have rules := mission.runRules_guest dt guest
  have crafts := (mission.runRules dt).runCrafts_passive dt
  rw [mission.tick_of_accepts dt accepted]
  have rests := updateState_rests (mission.advance dt)
  rw [advance, crafts.events, rules.1] at rests
  exact ⟨rests, ((updateState_changes _).fires (by decide)).trans
    (crafts.world.fires.trans rules.2)⟩

/-- Every input is a turn of every trigger, and counts it as fired exactly if it fires in it. -/
theorem take_turn (mission : Mission π) (input : Input π) (sized : mission.Sized) {index : Nat}
    {trigger : Trigger} (found : mission.trigger? index = some trigger) :
    ∃ fires later, (mission.take input).trigger? index = some later ∧
      trigger.Turn fires later ∧
      (mission.take input).world.fireCount index =
        mission.world.fireCount index + fires.toNat := by
  have resting (rests : Event.AllRest mission.events (mission.take input).events)
      (fires : (mission.take input).world.fires = mission.world.fires) :
      ∃ fires later, (mission.take input).trigger? index = some later ∧
        trigger.Turn fires later ∧
        (mission.take input).world.fireCount index =
          mission.world.fireCount index + fires.toNat := by
    obtain ⟨later, here, asked⟩ := trigger?_of_rests rests found
    exact ⟨false, later, here, .asked asked, World.fireCount_of_fires fires index⟩
  rcases mission.take_cases input with ⟨dt, rfl, accepted⟩ | ⟨world, _, rests⟩
  · cases authority : mission.authority with
    | true =>
      obtain ⟨now, later, here, asked, counted⟩ :=
        mission.tick_trigger dt accepted authority sized found
      exact ⟨_, later, here, .stepped accepted asked, counted⟩
    | false =>
      obtain ⟨rests, fires⟩ := mission.tick_guest dt accepted authority
      exact resting rests fires
  · exact resting rests (by rw [world])

/-- What every turn keeps of a trigger, every run keeps. -/
theorem play_trigger (holds : Trigger → Prop)
    (kept : ∀ trigger fires later, holds trigger → trigger.Turn fires later → holds later)
    (mission : Mission π) (inputs : List (Input π)) (sized : mission.Sized) {index : Nat}
    {trigger : Trigger} (found : mission.trigger? index = some trigger) (held : holds trigger) :
    ∃ later, (mission.play inputs).trigger? index = some later ∧ holds later := by
  induction inputs generalizing mission trigger with
  | nil => exact ⟨trigger, found, held⟩
  | cons input rest ih =>
    obtain ⟨fires, now, there, turn, _⟩ := mission.take_turn input sized found
    apply ih (mission.take input) (mission.take_sized input sized) there
    exact kept trigger fires now held turn

/-- What holds of all triggers and is kept by every turn holds of all of them after every run. -/
theorem play_triggers (holds : Trigger → Prop)
    (kept : ∀ trigger fires later, holds trigger → trigger.Turn fires later → holds later)
    (mission : Mission π) (inputs : List (Input π)) (sized : mission.Sized)
    (initial : ∀ index trigger, mission.trigger? index = some trigger → holds trigger) :
    ∀ index trigger, (mission.play inputs).trigger? index = some trigger → holds trigger := by
  intro index later found
  have length := congrArg List.length (mission.play_pristine inputs)
  rw [List.length_map, List.length_map] at length
  obtain ⟨trigger, before⟩ := trigger?_of_length length found
  obtain ⟨same, there, held⟩ :=
    mission.play_trigger holds kept inputs sized before (initial index trigger before)
  rw [found] at there
  cases there
  exact held

end Mission

end Sortie
