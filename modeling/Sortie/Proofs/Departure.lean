import Sortie.Proofs.Decline
import Sortie.Proofs.Deeds

set_option autoImplicit false

namespace Sortie

open MissionState (changes)

namespace MissionState

/-- A change leads from a state of the sequence to another one of it. -/
theorem of_mem_changes {first : MissionState} {states : List MissionState}
    {change : MissionState × MissionState} (member : change ∈ changes first states) :
    change.1 ∈ first :: states ∧ change.2 ∈ states ∧ change.2 ≠ change.1 := by
  induction states generalizing first with
  | nil => cases member
  | cons new rest ih =>
    rw [changes] at member
    split at member
    · obtain ⟨old, later, differs⟩ := ih member
      refine ⟨?_, List.mem_cons_of_mem _ later, differs⟩
      rcases List.mem_cons.mp old with here | there
      · exact List.mem_cons.mpr (.inl here)
      · exact List.mem_cons_of_mem _ (List.mem_cons_of_mem _ there)
    · rename_i differs
      rcases List.mem_cons.mp member with rfl | later
      · exact ⟨List.mem_cons_self, List.mem_cons_self, differs⟩
      · obtain ⟨old, new, differs⟩ := ih later
        exact ⟨List.mem_cons_of_mem _ old, List.mem_cons_of_mem _ new, differs⟩

end MissionState

namespace World

/-- An action takes nobody out of the battle space or into it. -/
theorem pilotDeparted_execute (action : Action) (world : World) :
    (action.execute world).2.pilotDeparted = world.pilotDeparted := by
  have passes : Passes true world _ _ := action.execute_passes world fun _ => rfl
  have proceeds := (action.execute_changes world).proceeds Spacecraft.mild_spans (by decide)
  unfold pilotDeparted pilotedCraft?
  rw [passes.piloted]
  cases piloted : world.piloted with
  | none => rfl
  | some index =>
    rw [Option.bind_some, Option.bind_some]
    cases found : world.craft? index with
    | none =>
      cases there : (action.execute world).2.craft? index with
      | none => rfl
      | some later =>
        obtain ⟨craft, known, _⟩ := proceeds.before there
        rw [found] at known
        cases known
    | some craft =>
      obtain ⟨later, there, mild⟩ := proceeds.crafts index craft found
      rw [there, Option.any_some, Option.any_some, mild.departed]

/-- Once the pilot has left, a loss changes nothing. -/
theorem lose_of_departed {world : World} (departed : world.pilotDeparted = true) :
    world.lose = world := by
  rw [lose, if_pos departed]

/-- The pilot has left, and a mission in some state is still in it or has been won. -/
structure Away (start : MissionState) (world : World) : Prop where
  departed : world.pilotDeparted = true
  state : world.state = start ∨ start = .inProgress ∧ world.state = .completed

theorem away_kept (start : MissionState) : Kept (Away start) where
  same {before after} held state crafts piloted _ _ _ := by
    have same : after.craft? = before.craft? := funext fun index => by rw [craft?, crafts, craft?]
    refine ⟨?_, ?_⟩
    · rw [← held.departed, pilotDeparted, pilotedCraft?, piloted, same]
      rfl
    · rw [state]
      exact held.state
  executed action world held := by
    refine ⟨(pilotDeparted_execute action world).trans held.departed, ?_⟩
    cases won : action.isWin with
    | true =>
      rw [action.execute_of_isWin world won, win]
      split
      · rename_i pending
        rw [state_setState]
        rcases held.state with same | ⟨_, completed⟩
        · exact .inr ⟨same.symm.trans pending, rfl⟩
        · cases pending.symm.trans completed
      · exact held.state
    | false =>
      cases lost : action.isLose with
      | true =>
        rw [action.execute_of_isLose world lost, lose_of_departed held.departed]
        exact held.state
      | false =>
        rw [(action.execute_quiet world won lost).state]
        exact held.state

theorem pilotDeparted_iff {world : World} :
    world.pilotDeparted = true ↔
      ∃ index craft, world.piloted = some index ∧ world.craft? index = some craft ∧
        craft.departed = true := by
  simp only [pilotDeparted, pilotedCraft?, Option.any_eq_true, Option.bind_eq_some_iff]
  constructor
  · rintro ⟨craft, ⟨index, piloted, found⟩, gone⟩
    exact ⟨index, craft, piloted, found, gone⟩
  · rintro ⟨index, craft, piloted, found, gone⟩
    exact ⟨craft, ⟨index, piloted, found⟩, gone⟩

/-- Who left is alive, and so is no reason for a defeat. -/
theorem pilotDown_of_departed {world : World} (sheltered : world.Sheltered)
    (departed : world.pilotDeparted = true) : world.pilotDown = false := by
  obtain ⟨index, craft, piloted, found, gone⟩ := pilotDeparted_iff.mp departed
  obtain ⟨_, alive⟩ := sheltered index craft found gone
  rw [pilotDown, pilotedCraft?, piloted, Option.bind_some, found, Option.any_some, alive]
  rfl

theorem pilotDeparted_setState (world : World) (state : MissionState) :
    (world.setState state).pilotDeparted = world.pilotDeparted := by
  unfold setState
  split
  · rfl
  · rfl

end World

namespace Mission

variable {π : Type} [Pilot π]

/-- A pilot who has left does not come back. -/
theorem tick_departed {mission : Mission π} (parted : mission.world.Parted) {dt : Scalar}
    (accepted : accepts dt = true) (departed : mission.world.pilotDeparted = true) :
    (mission.tick dt).world.pilotDeparted = true := by
  obtain ⟨index, craft, piloted, found, gone⟩ := World.pilotDeparted_iff.mp departed
  have ages := (mission.sight_changes dt 0).ages.trans (mission.sight_tick_ages accepted 0)
  have declines := (sight_declines parted dt 0).trans (sight_tick_declines accepted parted 0)
  obtain ⟨later, there, declined⟩ := declines.crafts index craft found
  exact World.pilotDeparted_iff.mpr
    ⟨index, later, ages.piloted.trans piloted, there, declined.departed gone⟩

/-- After the rules of a step, its state stays until the end. -/
theorem mem_statesOfAdvance {mission : Mission π} {dt : Scalar} {state : MissionState}
    (member : state ∈ mission.statesOfAdvance dt) :
    state ∈ [(mission.advanceTime dt).state] ++ (mission.advanceTime dt).statesOfDueActions dt ++
      (((mission.advanceTime dt).runDueActions dt).statesOfEvents dt ++
        [(mission.runRules dt).state]) := by
  unfold statesOfAdvance at member
  unfold runRules
  dsimp only at member
  generalize ((mission.advanceTime dt).runDueActions dt).runEvents dt = ruled at member ⊢
  have controlled := ruled.controlCrafts_passive dt
  have flown := controlled.trans (simulateCrafts_passive _ dt)
  have parted := flown.trans (resolveCollisions_passive _)
  have shot := parted.trans (simulateWeapons_passive _ dt)
  have faded := shot.trans (simulateEffects_passive _ dt)
  have centred := faded.trans (recenterOrigin_passive _)
  have still {later : Mission π} (passive : ruled.Passive later) : later.state = ruled.state :=
    passive.world.state
  rw [still controlled, still flown, still parted, still shot, still faded, still centred] at member
  simp only [List.mem_append, List.mem_cons, List.not_mem_nil, or_false, or_self, or_assoc]
    at member ⊢
  exact member

/-- Before the last phase, a step of a mission whose pilot has left changes the state only by a
win. -/
theorem statesOfAdvance_departed {mission : Mission π}
    (departed : mission.world.pilotDeparted = true) {dt : Scalar} {state : MissionState}
    (member : state ∈ mission.statesOfAdvance dt) :
    state = mission.state ∨ mission.state = .inProgress ∧ state = .completed := by
  have through := runRules_through (World.away_kept mission.state) mission dt ⟨departed, .inl rfl⟩
  obtain ⟨world, away, rfl⟩ := through.states state (mem_statesOfAdvance member)
  exact away.state

theorem changes_departed {mission : Mission π} (departed : mission.world.pilotDeparted = true)
    {dt : Scalar} {change : MissionState × MissionState}
    (member : change ∈ changes mission.state (mission.statesOfAdvance dt)) :
    change.2 = .inProgress ∨ change.2 = .completed := by
  obtain ⟨old, new, differs⟩ := MissionState.of_mem_changes member
  rcases statesOfAdvance_departed departed new with same | ⟨_, completed⟩
  · rcases List.mem_cons.mp old with first | later
    · exact absurd (same.trans first.symm) differs
    · rcases statesOfAdvance_departed departed later with also | ⟨pending, _⟩
      · exact absurd (same.trans also.symm) differs
      · exact .inl (same.trans pending)
  · exact .inr completed

omit [Pilot π] in
/-- With the pilot gone, the end of a step fails the mission only for a goal that has failed. -/
theorem nextState_departed {mission : Mission π} (up : mission.world.pilotDown = false)
    (departed : mission.world.pilotDeparted = true)
    (changed : mission.nextState ≠ mission.world.state) :
    mission.nextState ≠ .defeat ∧
      (mission.nextState = .failed → mission.world.state = .inProgress ∧
        ∃ tracked ∈ mission.objectives,
          tracked.objective.role = .win ∧ tracked.status = .failed) := by
  rcases mission.nextState_cases with ⟨down, _⟩ | ⟨_, same⟩ | ⟨_, _, completed | ⟨ended, _⟩⟩ |
    ⟨_, pending, _⟩
  · rw [up] at down
    cases down
  · exact absurd same changed
  · rw [completed]
    exact ⟨by decide, fun failed => absurd failed (by decide)⟩
  · rw [ended]
    exact ⟨by decide, fun failed => absurd failed (by decide)⟩
  · have next := mission.nextState_of_inProgress up pending
    by_cases failing : mission.hasFailed = true
    · rw [next, if_pos failing]
      refine ⟨by decide, fun _ => ⟨pending, ?_⟩⟩
      simp only [hasFailed, departed, Bool.true_and, List.any_eq_true, Bool.and_eq_true,
        beq_iff_eq, Bool.not_eq_true', beq_eq_false_iff_ne] at failing
      obtain ⟨tracked, member, status, role⟩ := failing
      refine ⟨tracked, member, ?_, status⟩
      cases known : tracked.objective.role with
      | win => rfl
      | lose => exact absurd known role
    · rw [next, if_neg failing]
      split
      · exact ⟨by decide, fun failed => absurd failed (by decide)⟩
      · exact ⟨by decide, fun failed => absurd failed (by decide)⟩

/-- The state of a step is changed on the way, or as it is decided at the end. -/
theorem mem_changes_tick {mission : Mission π} {dt : Scalar} (accepted : accepts dt = true)
    {change : MissionState × MissionState}
    (member : change ∈ changes mission.state (mission.statesOf (.tick dt))) :
    change ∈ changes mission.state (mission.statesOfAdvance dt) ∨
      change = ((mission.decided dt).world.state, (mission.decided dt).nextState) ∧
        change.2 ≠ change.1 := by
  have passes : World.Passes true mission.world _ _ := mission.advance_passes dt fun _ => rfl
  have last : (mission.statesOfAdvance dt).getLastD mission.state =
      (mission.decided dt).world.state := passes.last.symm
  have after : (mission.tick dt).state = (mission.decided dt).nextState := by
    rw [state, mission.tick_world dt accepted, World.state_setState]
  rw [statesOf, if_pos accepted, MissionState.changes_append, List.mem_append, last, after]
    at member
  rcases member with early | late
  · exact .inl early
  · obtain ⟨old, new, differs⟩ := MissionState.of_mem_changes late
    rw [List.mem_singleton] at new
    rcases List.mem_cons.mp old with first | second
    · exact .inr ⟨Prod.ext first new, differs⟩
    · exact absurd (new.trans (List.mem_singleton.mp second).symm) differs

/-- With the pilot gone, a step decides on no defeat, and on a failure only for a goal that has
failed and if the mission was in progress all along. -/
theorem decided_departed {mission : Mission π} (reachable : mission.Reachable)
    (parted : mission.world.Parted) (departed : mission.world.pilotDeparted = true) {dt : Scalar}
    (accepted : accepts dt = true)
    (changed : (mission.decided dt).nextState ≠ (mission.decided dt).world.state) :
    (mission.decided dt).nextState ≠ .defeat ∧
      ((mission.decided dt).nextState = .failed →
        (mission.decided dt).world.state = .inProgress ∧ mission.state = .inProgress ∧
          ∃ tracked ∈ (mission.tick dt).objectives,
            tracked.objective.role = .win ∧ tracked.status = .failed) := by
  -- The end of the step neither moves the pilot nor harms anyone.
  have gone := tick_departed parted accepted departed
  have up := World.pilotDown_of_departed (reachable.take (.tick dt)).sheltered gone
  rw [take, mission.tick_world dt accepted, World.pilotDown_setState] at up
  rw [mission.tick_world dt accepted, World.pilotDeparted_setState] at gone
  obtain ⟨undefeated, failing⟩ := nextState_departed up gone changed
  refine ⟨undefeated, fun failed => ?_⟩
  obtain ⟨pending, goal⟩ := failing failed
  rw [mission.tick_objectives_eq_decided dt accepted]
  refine ⟨pending, ?_, goal⟩
  have through := runRules_through (World.away_kept mission.state) mission dt ⟨departed, .inl rfl⟩
  have ruled : (mission.decided dt).world.state = (mission.runRules dt).world.state :=
    ((mission.runRules dt).runCrafts_passive dt).world.state
  rcases through.after.state with same | ⟨started, _⟩
  · exact same.symm.trans (ruled.symm.trans pending)
  · exact started

/-- In every step of a mission of one pilot who has left, the pilot stays away, an action that loses
the mission changes nothing, the mission is no defeat, and it fails only from being in progress and
for a goal that has failed. -/
theorem losses_ignored_after_departure (mission : Mission π) (reachable : mission.Reachable)
    (single : mission.world.settings.multiActor = false)
    (departed : mission.world.pilotDeparted = true) (dt : Scalar) :
    (mission.tick dt).world.pilotDeparted = true ∧
      (∀ deed ∈ mission.deeds dt, deed.1.isLose = true → (deed.1.execute deed.2).2 = deed.2) ∧
      ∀ change ∈ changes mission.state (mission.statesOf (.tick dt)),
        change.2 ≠ .defeat ∧
          (change.2 = .failed →
            change.1 = .inProgress ∧ mission.state = .inProgress ∧
              ∃ tracked ∈ (mission.tick dt).objectives,
                tracked.objective.role = .win ∧ tracked.status = .failed) := by
  have parted := reachable.parted single
  have through := runRules_through (World.away_kept mission.state) mission dt ⟨departed, .inl rfl⟩
  have ignored : ∀ deed ∈ mission.deeds dt, deed.1.isLose = true →
      (deed.1.execute deed.2).2 = deed.2 := by
    intro deed member lost
    rw [deed.1.execute_of_isLose deed.2 lost]
    exact World.lose_of_departed (through.deeds deed member).departed
  cases accepted : accepts dt with
  | false =>
    rw [statesOf, accepted, mission.tick_of_not_accepts dt accepted]
    exact ⟨departed, ignored, fun change none_ => absurd none_ List.not_mem_nil⟩
  | true =>
    refine ⟨tick_departed parted accepted departed, ignored, fun change member => ?_⟩
    rcases mem_changes_tick accepted member with early | ⟨rfl, differs⟩
    · rcases changes_departed departed early with pending | completed
      · rw [pending]
        exact ⟨by decide, fun failed => absurd failed (by decide)⟩
      · rw [completed]
        exact ⟨by decide, fun failed => absurd failed (by decide)⟩
    · exact decided_departed reachable parted departed accepted differs

/-- A pilot who jumps out as soon as the mission starts, and a loss after two seconds. -/
def deserter : Mission Pursuit :=
  let leave : ActionDescriptor :=
    { kind := "command"
      subjects := { spacecrafts := ["deserter"] }
      params := .object [("command", .text "jump"), ("way", .text "out")] }
  let late : ConditionDescriptor :=
    { kind := "time"
      params := .object [("time", .number (.natural 2000)), ("when", .text "once")] }
  ofDescriptor
    { spacecrafts :=
        [.single { id := some "deserter", craftClass := "interceptor", piloted := true }]
      events :=
        [{ trigger := { fireWhen := .missionStarts, oneShot := true }, actions := [leave] },
          { trigger := { conditions := [late], oneShot := true }
            actions := [{ kind := "lose" }] }] }
    .standard { quality := .low, particles := false } {}

/-- In the second step the loss is carried out, the pilot being gone, and changes nothing. -/
theorem deserter_not_punished :
    let mission := deserter.take (.tick 1600)
    mission.Reachable ∧ mission.world.settings.multiActor = false ∧
      mission.world.pilotDeparted = true ∧
      (∃ deed ∈ mission.deeds 500, deed.1.isLose = true ∧
        (deed.1.execute deed.2).2.state = .inProgress) ∧
      (mission.tick 500).state = .inProgress := by
  intro mission
  have reachable : mission.Reachable := ⟨_, _, _, _, [.tick 1600], rfl⟩
  obtain ⟨single, departed, loses, after⟩ : mission.world.settings.multiActor = false ∧
      mission.world.pilotDeparted = true ∧
      ((mission.deeds 500).any fun deed =>
        deed.1.isLose && deed.2.state == .inProgress) = true ∧
      (mission.tick 500).state = .inProgress := by decide +kernel
  obtain ⟨deed, member, found⟩ := List.any_eq_true.mp loses
  rw [Bool.and_eq_true, beq_iff_eq] at found
  obtain ⟨lost, pending⟩ := found
  refine ⟨reachable, single, departed, ⟨deed, member, lost, ?_⟩, after⟩
  have ignored := losses_ignored_after_departure mission reachable single departed 500
  rw [ignored.2.1 deed member lost]
  exact pending

end Mission

end Sortie
