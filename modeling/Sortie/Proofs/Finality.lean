import Sortie.Proofs.Doom
import Sortie.Proofs.Evidence

set_option autoImplicit false

namespace Sortie

namespace Condition

theorem doomed_lasting (world : World) : Lasting fun condition => condition.Doomed world :=
  ⟨fun doomed => doomed.of_same, fun seen doomed => doomed.resolve seen⟩

theorem settles_doomed {world later : World} (declines : world.Declines later) :
    Settles (fun condition => condition.Doomed later) world :=
  fun _ able found => (judgeImpossible_doomed able found).declines declines

end Condition

namespace Mission

variable {π : Type}

/-- Who left does not come back, and conditions are latched only if they are lost for good. -/
structure Final (mission : Mission π) : Prop where
  parted : mission.world.Parted
  sound : Event.AllBacked mission.events fun condition => condition.Doomed mission.world

theorem ofDescriptor_final (descriptor : MissionDescriptor) (catalog : Catalog)
    {settings : Settings} (single : settings.multiActor = false) (pools : Pools) :
    (ofDescriptor (π := π) descriptor catalog settings pools).Final :=
  ⟨ofDescriptor_parted descriptor catalog single pools,
    ofDescriptor_backed descriptor catalog settings pools _⟩

variable [Pilot π]

theorem take_declines {mission : Mission π} (parted : mission.world.Parted) (input : Input π) :
    mission.world.Declines (mission.take input).world := by
  rcases mission.take_cases input with ⟨dt, rfl, accepted⟩ | ⟨world, _, _⟩
  · exact (sight_declines parted dt 0).trans (sight_tick_declines accepted parted 0)
  · rw [world]
    exact .refl _

theorem play_declines {mission : Mission π} (parted : mission.world.Parted)
    (inputs : List (Input π)) : mission.world.Declines (mission.play inputs).world := by
  induction inputs generalizing mission with
  | nil => exact .refl _
  | cons input rest ih =>
    exact (take_declines parted input).trans (ih (mission.take_parted input parted))

theorem Moment.declines {mission : Mission π} {inputs : List (Input π)} {world : World}
    (moment : Moment mission inputs world) (parted : mission.world.Parted) :
    world.Declines (mission.play inputs).world := by
  induction moment with
  | @seen mission dt rest event accepted =>
    have after := mission.take_parted (.tick dt) parted
    exact (sight_tick_declines accepted parted event).trans (play_declines after rest)
  | @moved mission dt rest accepted =>
    have after := mission.take_parted (.tick dt) parted
    -- The last change of a step is that of the mission's state, which moves no spacecraft.
    have still : (mission.tick dt).world.crafts = (mission.advance dt).world.crafts := by
      rw [mission.tick_of_accepts dt accepted]
      exact World.setState_crafts _ _
    exact (World.Declines.of_same still).trans (play_declines after rest)
  | @later mission input _ _ _ ih => exact ih (mission.take_parted input parted)

theorem take_final (mission : Mission π) (input : Input π) (final : mission.Final) :
    (mission.take input).Final := by
  refine ⟨mission.take_parted input final.parted, ?_⟩
  have known := final.sound.mono fun _ doomed =>
    doomed.declines (take_declines final.parted input)
  exact mission.take_backed input (Condition.doomed_lasting _) known fun _ moment =>
    Condition.settles_doomed (moment.declines final.parted)

/-- What becomes in a run of a condition of an event that is never latched: in each step it may be
evaluated on what the event sees, and questions may name its subjects. -/
inductive Unlatched (event : Nat) : Mission π → List (Input π) → Condition → Condition → Prop where
  | here {mission : Mission π} {condition : Condition} :
      Unlatched event mission [] condition condition
  | passed {mission : Mission π} {input : Input π} {rest : List (Input π)}
      {condition later : Condition} :
      Unlatched event (mission.take input) rest condition later →
      Unlatched event mission (input :: rest) condition later
  | evaluated {mission : Mission π} {dt : Scalar} {rest : List (Input π)}
      {condition later : Condition} : accepts dt = true →
      Unlatched event (mission.tick dt) rest
        (condition.evaluate (mission.sight dt event) dt).2 later →
      Unlatched event mission (.tick dt :: rest) condition later
  | asked {mission : Mission π} {inputs : List (Input π)} {condition later : Condition} :
      Unlatched event mission inputs (condition.resolve mission.world) later →
      Unlatched event mission inputs condition later

/-- What is lost for good stays so, evaluated or not. -/
theorem Unlatched.doomed {event : Nat} {mission : Mission π} {inputs : List (Input π)}
    {condition later : Condition} (course : Unlatched event mission inputs condition later)
    (parted : mission.world.Parted) (doomed : condition.Doomed mission.world) :
    later.Doomed (mission.play inputs).world := by
  induction course with
  | here => exact doomed
  | @passed mission input rest condition later _ ih =>
    exact ih (mission.take_parted input parted) (doomed.declines (take_declines parted input))
  | @evaluated mission dt rest condition later accepted _ ih =>
    have seen := doomed.declines (sight_declines parted dt event)
    have after := (seen.evaluate (sight_parted parted dt event) accepted).2
    exact ih (mission.take_parted (.tick dt) parted)
      (after.declines (sight_tick_declines accepted parted event))
  | asked _ ih => exact ih parted (doomed.resolve _)

/-- Where the lists are pruned, a condition that is found impossible would never hold again: in
every later step of every run, in whichever steps it is evaluated on instead of being left alone,
its evaluation on what its event sees is false. -/
theorem impossible_never_holds_again (descriptor : MissionDescriptor) (catalog : Catalog)
    (settings : Settings) (pools : Pools) (before after : List (Input π)) (event place : Nat)
    (trigger : Trigger) (condition later : Condition) (dt : Scalar) :
    let mission : Mission π := (ofDescriptor descriptor catalog settings pools).play before
    settings.multiActor = false → mission.trigger? event = some trigger →
      trigger.conditions[place]? = some condition → condition.impossible = true →
      Unlatched event mission after condition later → accepts dt = true →
        (later.evaluate ((mission.play after).sight dt event) dt).1 = false := by
  intro mission single found there latched course accepted
  have final : mission.Final := play_keeps Final take_final _ before
    (ofDescriptor_final descriptor catalog single pools)
  obtain ⟨owner, known, rfl⟩ := trigger?_eq_some.mp found
  have doomed := final.sound owner (List.mem_of_getElem? known) condition
    (List.mem_of_getElem? there) latched
  have parted : (mission.play after).world.Parted :=
    play_keeps (fun mission => mission.world.Parted) take_parted mission after final.parted
  have lost := (course.doomed final.parted doomed).declines (sight_declines parted dt event)
  exact (lost.evaluate (sight_parted parted dt event) accepted).1

/-- A raider that jumps out as soon as the mission starts, and an event that waits for its end. -/
def getaway : Mission Pursuit :=
  let raider : SubjectDescriptor := { spacecrafts := ["raider"] }
  let leave : ActionDescriptor :=
    { kind := "command"
      subjects := raider
      params := .object [("command", .text "jump"), ("way", .text "out")] }
  let destroyed : ConditionDescriptor := { kind := "destroyed", subjects := raider }
  ofDescriptor
    { spacecrafts := [.single { id := some "raider", craftClass := "interceptor" }]
      events :=
        [{ trigger := { fireWhen := .missionStarts, oneShot := true }, actions := [leave] },
          { trigger := { conditions := [destroyed] } }] }
    .standard { quality := .low, particles := false } {}

/-- In the third step the raider is gone for good, and in none after it is it found destroyed. -/
theorem getaway_stays_unpunished :
    let mission := getaway.play [.tick 16, .tick 1600, .tick 16]
    ∃ trigger condition, mission.trigger? 1 = some trigger ∧
      trigger.conditions[0]? = some condition ∧ condition.impossible = true ∧
      ((condition.evaluate (mission.sight 16 1) 16).2.evaluate
        ((mission.tick 16).sight 16 1) 16).1 = false := by
  intro mission
  obtain ⟨trigger, found⟩ : ∃ trigger, mission.trigger? 1 = some trigger :=
    Option.isSome_iff_exists.mp (by decide +kernel)
  obtain ⟨condition, there⟩ : ∃ condition,
      (mission.trigger? 1).bind (fun trigger => trigger.conditions[0]?) = some condition :=
    Option.isSome_iff_exists.mp (by decide +kernel)
  have latched : ((mission.trigger? 1).bind (fun trigger => trigger.conditions[0]?)).all
      (fun condition => condition.impossible) = true := by decide +kernel
  rw [there, Option.all_some] at latched
  rw [found, Option.bind_some] at there
  have accepted : accepts 16 = true := by decide +kernel
  exact ⟨trigger, condition, found, there, latched,
    impossible_never_holds_again _ _ _ _ [.tick 16, .tick 1600, .tick 16] [.tick 16] 1 0 trigger
      condition _ 16 rfl found there latched (.evaluated accepted .here) accepted⟩

end Mission

end Sortie
