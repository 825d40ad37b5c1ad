import Sortie.Proofs.Conditions
import Sortie.Proofs.Roster

set_option autoImplicit false

namespace Sortie

/-- A condition of which at most the named subjects and the latch have changed. -/
def Condition.Idles (before after : Condition) : Prop :=
  after = { before with
    subjects := { before.subjects with resolved := after.subjects.resolved }
    impossible := after.impossible }

theorem Condition.Asked.idles {before after : Condition} (asked : before.Asked after) :
    before.Idles after := by
  have pristine := congrArg SubjectGroup.descriptor asked.subjects
  have descriptor : after.subjects.descriptor = before.subjects.descriptor := pristine
  rw [Idles, ← asked.kind, ← asked.lastSatisfied]
  dsimp only
  rw [← descriptor]

theorem Event.AllAlter.idle {before after : List Event}
    (asked : AllAlter Condition.Asked before after) : AllAlter Condition.Idles before after :=
  asked.imp fun _ _ altered =>
    ⟨altered.rest, altered.trigger.rest, altered.trigger.conditions.imp fun _ _ each => each.idles⟩

namespace World

/-- Whoever flies, collides and shoots says nothing. -/
theorem Change.silent {kind : ChangeKind} {before after : World} (change : Change kind before after)
    (mute : kind ∉ [.observe, .state]) : after.observations = before.observations := by
  cases change with
  | observe | state => exact absurd (by decide) mute
  | _ => rfl

theorem Changes.silent {kinds : List ChangeKind} {before after : World}
    (changes : Changes kinds before after) (mute : ∀ kind ∈ kinds, kind ∉ [.observe, .state]) :
    after.observations = before.observations :=
  changes.keeps World.observations fun kind member _ _ change => change.silent (mute kind member)

/-- A command that reaches a spacecraft is told to the observer. -/
theorem dispatch_observations (world : World) (index : Nat) (command : Command) :
    (world.dispatch index command).observations =
      if (world.craft? index).isSome then world.observations.push (.command index command)
      else world.observations := by
  unfold dispatch
  cases found : world.craft? index with
  | none => rfl
  | some craft =>
    dsimp only
    split
    · rfl
    · rfl

end World

namespace Mission

variable {π : Type}

/-- The part of a step in which rules act leaves a guest's world alone but for the time, the
surroundings and old notices. -/
theorem runRules_guest_world (mission : Mission π) (dt : Scalar)
    (guest : mission.authority = false) :
    ∃ elapsed environment notices, (mission.runRules dt).world =
      { mission.world with elapsed, environment, notices } := by
  simp only [runRules, runEvents, runDueActions, advanceTime, guest, Bool.false_eq_true,
    ↓reduceIte]
  exact ⟨_, _, _, rfl⟩

variable [Pilot π]

/-- Until its state is decided, a guest's step tells nothing. -/
theorem advance_guest (mission : Mission π) (dt : Scalar) (guest : mission.authority = false) :
    (mission.advance dt).world.state = mission.world.state ∧
      (mission.advance dt).world.queue = mission.world.queue ∧
      (mission.advance dt).world.fires = mission.world.fires ∧
      (mission.advance dt).world.observations = mission.world.observations := by
  obtain ⟨elapsed, environment, notices, ruled⟩ := mission.runRules_guest_world dt guest
  have moved := (mission.runRules dt).runCrafts_changes dt
  have quiet := moved.quiet (by decide)
  have silent := moved.silent (by decide)
  rw [ruled] at quiet silent
  exact ⟨quiet.state, quiet.queue, quiet.fires, silent⟩

/-- A step of a guest leaves the queue of waiting actions and all fire counts alone. Of the events
only conditions change, and of these only the named subjects and the latch. The observer is told of
nothing but a change of the mission's state; in particular no command is dispatched. -/
theorem guest_leaves_rules_alone (mission : Mission π) (guest : mission.authority = false)
    (dt : Scalar) :
    (mission.tick dt).world.queue = mission.world.queue ∧
      (mission.tick dt).world.fires = mission.world.fires ∧
      Event.AllAlter Condition.Idles mission.events (mission.tick dt).events ∧
      (mission.tick dt).world.observations =
        if mission.state = (mission.tick dt).state then mission.world.observations
        else mission.world.observations.push (.state mission.state (mission.tick dt).state) := by
  cases accepted : accepts dt with
  | false =>
    rw [mission.tick_of_not_accepts dt accepted, if_pos rfl]
    exact ⟨rfl, rfl, (Event.AllAlter.refl Condition.asked_spans _).idle, rfl⟩
  | true =>
    obtain ⟨state, queue, fires, observations⟩ := mission.advance_guest dt guest
    have decided := World.setState_eq (mission.advance dt).world
      (mission.decided dt).nextState
    have world : (mission.tick dt).world = (mission.advance dt).world.setState
      (mission.decided dt).nextState := mission.tick_world dt accepted
    rw [decided] at world
    have events : Event.AllAlter Condition.Asked mission.events (mission.tick dt).events := by
      have asked := evaluateAll_alters Condition.asked_spans (fun condition =>
        condition.checkImpossible_asked (mission.advance dt).world)
        (mission.advance dt).objectives (mission.advance dt).events
      have still : (mission.advance dt).events = mission.events :=
        (runCrafts_passive _ dt).events.trans (mission.runRules_guest dt guest).1
      rw [mission.tick_of_accepts dt accepted, ← still]
      exact asked
    have outcome : (mission.tick dt).state = (mission.decided dt).nextState := by
      rw [Mission.state, world]
    refine ⟨?_, ?_, events.idle, ?_⟩
    · rw [world]
      exact queue
    · rw [world]
      exact fires
    · rw [outcome, world, state, observations]
      rfl

/-- A mission that is handed over to a host while an action waits and a deadline runs. -/
def handedOver : Mission Pursuit :=
  let deadline : ConditionDescriptor :=
    { kind := "time"
      params := .object [("time", .number (.natural 300)), ("when", .text "before")] }
  let mission : Mission Pursuit := ofDescriptor
    { events :=
        [{ trigger := { fireWhen := .missionStarts, oneShot := true }
           actions := [{ kind := "clearMessages", delay := 500 }] },
          { trigger := { conditions := [deadline], fireWhen := .changeToFalse }
            actions := [{ kind := "lose" }] }] }
    .standard { quality := .low, particles := false } {}
  mission.play [.tick 100, .authority false]

/-- A guest's long step neither carries out what is due nor counts the time towards the deadline. -/
theorem handed_over_waits :
    let later := handedOver.tick 1000
    handedOver.authority = false ∧
      handedOver.world.queue.map QueuedAction.remaining = [500] ∧
      later.world.queue = handedOver.world.queue ∧ later.world.fires = handedOver.world.fires ∧
      later.world.fires = #[1, 0] ∧
      Event.AllAlter Condition.Idles handedOver.events later.events ∧
      later.state = handedOver.state ∧
      later.world.observations = handedOver.world.observations := by
  intro later
  have guest : handedOver.authority = false := by decide +kernel
  obtain ⟨queue, fires, events, told⟩ := guest_leaves_rules_alone handedOver guest 1000
  have state : later.state = handedOver.state := by decide +kernel
  rw [if_pos state.symm] at told
  exact ⟨guest, by decide +kernel, queue, fires, by decide +kernel, events, state, told⟩

end Mission

end Sortie
