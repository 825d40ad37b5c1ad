import Sortie.Proofs.Frame
import Sortie.Proofs.Questions
import Sortie.Proofs.Run

set_option autoImplicit false

namespace Sortie.Mission

open World (Changes)
open World.ChangeKind

variable {π : Type}

/-- A phase that touches neither rules nor objectives, and only quietly the world. -/
structure Passive (before after : Mission π) : Prop where
  world : before.world.Quiet after.world
  events : after.events = before.events
  objectives : after.objectives = before.objectives
  authority : after.authority = before.authority

theorem Passive.trans {first second third : Mission π} (early : first.Passive second)
    (late : second.Passive third) : first.Passive third :=
  ⟨early.world.trans late.world, late.events.trans early.events,
    late.objectives.trans early.objectives, late.authority.trans early.authority⟩

theorem advanceTime_passive (mission : Mission π) (dt : Scalar) :
    mission.Passive (mission.advanceTime dt) :=
  ⟨⟨.of_same rfl rfl, rfl, rfl, rfl, rfl⟩, rfl, rfl, rfl⟩

theorem controlCrafts_passive [Pilot π] (mission : Mission π) (dt : Scalar) :
    mission.Passive (mission.controlCrafts dt) :=
  ⟨(mission.controlCrafts_changes dt).quiet (by decide), rfl, rfl, rfl⟩

theorem simulateCrafts_passive (mission : Mission π) (dt : Scalar) :
    mission.Passive (mission.simulateCrafts dt) :=
  ⟨(mission.world.simulateCrafts_changes dt).quiet (by decide), rfl, rfl, rfl⟩

theorem resolveCollisions_passive (mission : Mission π) :
    mission.Passive mission.resolveCollisions :=
  ⟨mission.world.resolveCollisions_changes.quiet (by decide), rfl, rfl, rfl⟩

theorem simulateWeapons_passive (mission : Mission π) (dt : Scalar) :
    mission.Passive (mission.simulateWeapons dt) :=
  ⟨(mission.world.simulateWeapons_changes dt).quiet (by decide), rfl, rfl, rfl⟩

theorem simulateEffects_passive (mission : Mission π) (dt : Scalar) :
    mission.Passive (mission.simulateEffects dt) :=
  ⟨(mission.simulateEffects_changes dt).quiet (by decide), rfl, rfl, rfl⟩

theorem recenterOrigin_passive (mission : Mission π) :
    mission.Passive mission.recenterOrigin := by
  have rest : mission.recenterOrigin.events = mission.events ∧
      mission.recenterOrigin.objectives = mission.objectives ∧
      mission.recenterOrigin.authority = mission.authority := by
    unfold recenterOrigin
    repeat' split
    all_goals exact ⟨rfl, rfl, rfl⟩
  obtain ⟨events, objectives, authority⟩ := rest
  exact ⟨mission.recenterOrigin_changes.quiet (by decide), events, objectives, authority⟩

theorem runCrafts_passive [Pilot π] (mission : Mission π) (dt : Scalar) :
    mission.Passive (mission.runCrafts dt) := by
  have flown := (mission.controlCrafts_passive dt).trans (simulateCrafts_passive _ dt)
  have shot := (flown.trans (resolveCollisions_passive _)).trans (simulateWeapons_passive _ dt)
  exact (shot.trans (simulateEffects_passive _ dt)).trans (recenterOrigin_passive _)

theorem runCrafts_changes [Pilot π] (mission : Mission π) (dt : Scalar) :
    Changes (moving ++ fighting ++ [.fade, .shift]) mission.world
      (mission.runCrafts dt).world := by
  have flown : Changes moving mission.world
      ((mission.controlCrafts dt).simulateCrafts dt).world :=
    ((mission.controlCrafts_changes dt).mono (by decide)).trans
      ((World.simulateCrafts_changes _ dt).mono (by decide))
  have fought : Changes (moving ++ fighting) mission.world
      (((mission.controlCrafts dt).simulateCrafts dt).resolveCollisions.simulateWeapons dt).world :=
    (flown.mono (by decide)).trans ((fight_changes _ dt).mono (by decide))
  exact ((fought.mono (by decide)).trans ((simulateEffects_changes _ dt).mono (by decide))).trans
    ((recenterOrigin_changes _).mono (by decide))

/-- What a step changes before its events. -/
theorem advanceTime_runDueActions_changes (mission : Mission π) (dt : Scalar) :
    Changes ruling mission.world ((mission.advanceTime dt).runDueActions dt).world :=
  ((mission.advanceTime_changes dt).mono (by decide)).trans
    ((runDueActions_changes _ dt).mono (by decide))

theorem runRules_changes (mission : Mission π) (dt : Scalar) :
    Changes (.retire :: ruling) mission.world (mission.runRules dt).world :=
  ((mission.advanceTime_runDueActions_changes dt).mono (by decide)).trans (runEvents_changes _ dt)

theorem runDueActions_rests (mission : Mission π) (dt : Scalar) :
    Event.AllRest mission.events (mission.runDueActions dt).events := by
  unfold runDueActions
  split
  · exact executeAll_rests _ _ _
  · exact .refl mission.events

theorem runDueActions_objectives (mission : Mission π) (dt : Scalar) :
    (mission.runDueActions dt).objectives = mission.objectives := by
  unfold runDueActions
  split
  · rfl
  · rfl

theorem runDueActions_authority (mission : Mission π) (dt : Scalar) :
    (mission.runDueActions dt).authority = mission.authority := by
  unfold runDueActions
  split
  · rfl
  · rfl

theorem executeAt_triggers (events : List Event) (place : ActionPlace) (world : World) :
    (Event.executeAt events place world).1.map Event.trigger = events.map Event.trigger := by
  unfold Event.executeAt
  split
  · rfl
  · rename_i event present
    split
    · rfl
    · rename_i action found
      let acted : Event := { event with
        actions := event.actions.set place.action (action.execute world).1 }
      have kept : acted.trigger = event.trigger := rfl
      have each := each_set (R := fun a b : Event => b.trigger = a.trigger) (fun _ => rfl) present
        kept
      exact each_map_eq (fun _ _ same => same) each

theorem executeAll_triggers (due : List ActionPlace) (events : List Event) (world : World) :
    (executeAll due events world).1.map Event.trigger = events.map Event.trigger := by
  induction due generalizing events world with
  | nil => rfl
  | cons place rest ih => simp only [executeAll, ih, executeAt_triggers]

theorem runDueActions_triggers (mission : Mission π) (dt : Scalar) :
    (mission.runDueActions dt).events.map Event.trigger = mission.events.map Event.trigger := by
  unfold runDueActions
  split
  · exact executeAll_triggers _ _ _
  · rfl

theorem updateState_rests (mission : Mission π) :
    Event.AllRest mission.events mission.updateState.events :=
  evaluateAll_rests mission.world mission.objectives mission.events

/-- An input is an accepted step, or it leaves the world and the objectives as they are and at most
asks the rules. -/
theorem take_cases [Pilot π] (mission : Mission π) (input : Input π) :
    (∃ dt, input = .tick dt ∧ accepts dt = true) ∨
      (mission.take input).world = mission.world ∧
        (mission.take input).objectives = mission.objectives ∧
        Event.AllRest mission.events (mission.take input).events := by
  cases input with
  | tick dt =>
    cases accepted : accepts dt with
    | true => exact .inl ⟨dt, rfl, accepted⟩
    | false =>
      right
      rw [take, mission.tick_of_not_accepts dt accepted]
      exact ⟨rfl, rfl, .refl mission.events⟩
  | authority on => exact .inr ⟨rfl, rfl, .refl mission.events⟩
  | pilot pilot => exact .inr ⟨rfl, rfl, .refl mission.events⟩
  | autopilot on => exact .inr ⟨rfl, rfl, .refl mission.events⟩
  | intent intent => exact .inr ⟨rfl, rfl, .refl mission.events⟩
  | camera place => exact .inr ⟨rfl, rfl, .refl mission.events⟩
  | reports =>
    exact .inr ⟨rfl, rfl, reportAll_rests mission.world mission.objectives mission.events⟩
  | targets =>
    exact .inr ⟨rfl, rfl, targetsOfAll_rests mission.world mission.objectives mission.events⟩

end Sortie.Mission
