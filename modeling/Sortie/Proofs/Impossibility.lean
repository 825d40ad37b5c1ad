import Sortie.Proofs.Completion
import Sortie.Proofs.Conditions

set_option autoImplicit false

namespace Sortie

namespace Condition

/-- Only a condition of a kind that can become impossible is found to be so. -/
def Honest (condition : Condition) : Prop :=
  condition.impossible = true → condition.canBeImpossible = true

theorem Honest.of_asked {before after : Condition} (honest : before.Honest)
    (asked : before.Asked after) : after.Honest := by
  intro latched
  rw [canBeImpossible_of_kind asked.kind]
  rcases asked.latched latched with earlier | able
  · exact honest earlier
  · exact able

theorem Honest.look {condition : Condition} (honest : condition.Honest) (world : World)
    (dt : Scalar) : (condition.look world dt).2.Honest := by
  unfold Condition.look
  split
  · exact honest
  · rename_i possible
    let looked := { (condition.evaluate world dt).2 with
      lastSatisfied := (condition.evaluate world dt).1 }
    have open_ : looked.Honest := by
      intro latched
      exact absurd ((condition.evaluate_impossible world dt).symm.trans latched) possible
    exact open_.of_asked (looked.checkImpossible_asked world)

end Condition

namespace Trigger

/-- Only conditions of kinds that can become impossible are found to be so. -/
def Honest (trigger : Trigger) : Prop := ∀ condition ∈ trigger.conditions, condition.Honest

theorem honest_pristine (trigger : Trigger) : trigger.pristine.Honest := by
  intro condition member
  obtain ⟨_, _, rfl⟩ := List.mem_map.mp member
  intro latched
  cases latched

theorem Honest.of_asked {before after : Trigger} (honest : before.Honest)
    (asked : before.Asked after) : after.Honest := by
  intro condition member
  obtain ⟨old, there, related⟩ := each_mem asked.conditions member
  exact (honest old there).of_asked related

theorem Honest.turn {trigger later : Trigger} {fires : Bool} (honest : trigger.Honest)
    (turn : trigger.Turn fires later) : later.Honest := by
  refine turn.keeps (fun before world dt held => ?_) (fun _ _ held => held)
    (fun _ _ held asked => held.of_asked asked) honest
  have judged := before.judge_each (Condition.keeps_spans Condition.Honest)
    fun condition known => known.look world dt
  intro condition member
  obtain ⟨old, there, kept⟩ := each_mem judged member
  exact kept (held old there)

/-- A trigger that is exhausted is one whose conditions can become impossible together. -/
theorem Honest.canBeImpossible {trigger : Trigger} (honest : trigger.Honest)
    (exhausted : trigger.Exhausted) (enabled : trigger.disabled = false) :
    trigger.canBeImpossible = true := by
  obtain ⟨some_, latched⟩ := exhausted
  have filled : trigger.conditions.isEmpty = false := by simpa using some_
  simp only [Trigger.canBeImpossible, enabled, filled, Bool.or_self, Bool.false_eq_true,
    ↓reduceIte]
  cases quantity : trigger.required with
  | all =>
    rw [quantity] at latched
    obtain ⟨condition, member, impossible⟩ := latched
    exact List.any_eq_true.mpr ⟨condition, member, honest condition member impossible⟩
  | any =>
    rw [quantity] at latched
    exact List.all_eq_true.mpr fun condition member =>
      honest condition member (latched condition member)

/-- No turn changes whether the conditions can become impossible. -/
theorem Turn.canBeImpossible {trigger later : Trigger} {fires : Bool}
    (turn : trigger.Turn fires later) : later.canBeImpossible = trigger.canBeImpossible := by
  rw [← later.canBeImpossible_pristine, ← trigger.canBeImpossible_pristine]
  cases turn with
  | asked asked => rw [asked.pristine]
  | stepped _ asked => rw [asked.pristine, simulate_pristine]

theorem checkImpossible_of_disabled {trigger : Trigger} (disabled : trigger.disabled = true)
    (world : World) : trigger.checkImpossible world = (false, trigger) := by
  simp only [checkImpossible, disabled, Bool.true_or, ↓reduceIte]

/-- If the conditions cannot become impossible together, the answer to the question is never that
they are. -/
theorem Honest.checkImpossible {trigger : Trigger} (honest : trigger.Honest)
    (unable : trigger.canBeImpossible = false) (world : World) :
    (trigger.checkImpossible world).1 = false := by
  cases disabled : trigger.disabled with
  | true => rw [checkImpossible_of_disabled disabled world]
  | false =>
    rw [← Bool.not_eq_true]
    intro impossible
    have asked := trigger.checkImpossible_asked world
    have enabled : (trigger.checkImpossible world).2.disabled = false := by
      rw [asked.rest]
      exact disabled
    have able := (honest.of_asked asked).canBeImpossible
      (checkImpossible_exhausted impossible) enabled
    rw [(Turn.asked asked).canBeImpossible, unable] at able
    cases able

end Trigger

namespace Objective

/-- An objective that cannot be completed is part of a loss that cannot be averted for good. -/
theorem inactive_of_mem_collect {events : List Event} {objective : Objective}
    (member : objective ∈ collect events) (inactive : objective.inactive = true) :
    objective.role = .lose ∧ ∃ index place, objective.source = .condition index place ∧
      ∀ event, events[index]? = some event → event.trigger.canBeImpossible = false := by
  rcases List.mem_append.mp member with stated | implicit
  · obtain ⟨index, event, present, owned⟩ := mem_declared.mp stated
    rw [Nat.zero_add, Event.allObjectives] at owned
    rcases List.mem_append.mp owned with won | lost
    · split at won
      · obtain ⟨place, condition, _, _, rfl⟩ := Event.mem_objectives.mp won
        cases inactive
      · cases won
    · split at lost
      · obtain ⟨place, condition, _, _, rfl⟩ := Event.mem_objectives.mp lost
        refine ⟨rfl, index, place, rfl, fun other there => ?_⟩
        rw [present] at there
        cases there
        simpa using inactive
      · cases lost
  · split at implicit
    · rw [List.mem_singleton.mp implicit] at inactive
      cases inactive
    · cases implicit

/-- A loss is completed only by being averted. -/
theorem evaluate_lose_completed {objective : Objective} {world : World} {events : List Event}
    (role : objective.role = .lose) {index place : Nat}
    (source : objective.source = .condition index place)
    (completed : (objective.evaluate world events).1.status = .completed) :
    (objective.evaluate world events).1 = ⟨.completed, true⟩ := by
  rcases evaluate_lose world events role source with absent | ⟨_, failed⟩ | ⟨_, asked⟩
  · rw [absent] at completed
    cases completed
  · rw [failed] at completed
    cases completed
  · rw [asked] at completed ⊢
    dsimp only at completed ⊢
    cases answer : (Event.askTrigger events index (standingOfThreat world)).1 with
    | none =>
      rw [answer] at completed
      cases completed
    | some standing =>
      rw [answer, Option.getD_some] at completed
      obtain ⟨trigger, event, rfl, _⟩ := Event.askTrigger_some answer
      rw [Option.getD_some]
      unfold standingOfThreat at completed ⊢
      dsimp only at completed ⊢
      split at completed
      · rename_i impossible
        rw [if_pos impossible]
      · cases completed

end Objective

namespace Mission

variable {π : Type}

theorem ofDescriptor_status (descriptor : MissionDescriptor) (catalog : Catalog)
    (settings : Settings) (pools : Pools) :
    ∀ tracked ∈ (ofDescriptor (π := π) descriptor catalog settings pools).objectives,
      tracked.status = .inProgress := by
  intro tracked member
  obtain ⟨objective, _, rfl⟩ := List.mem_map.mp member
  rfl

variable [Pilot π]

theorem Reachable.honest {mission : Mission π} (reachable : mission.Reachable) {index : Nat}
    {trigger : Trigger} (found : mission.trigger? index = some trigger) : trigger.Honest :=
  reachable.triggers Trigger.Honest Trigger.honest_pristine (fun _ _ _ held turn => held.turn turn)
    found

/-- A step does not complete an objective that cannot be completed. -/
theorem tick_inactive {mission : Mission π} (reachable : mission.Reachable) {dt : Scalar}
    (accepted : accepts dt = true)
    (open_ : ∀ tracked ∈ mission.objectives, tracked.objective.inactive = true →
      tracked.status ≠ .completed) :
    ∀ tracked ∈ (mission.tick dt).objectives, tracked.objective.inactive = true →
      tracked.status ≠ .completed := by
  intro tracked member inactive completed
  rcases mission.tick_tracked accepted member with ⟨before, _⟩ | ⟨asked, standing, rests⟩
  · exact open_ tracked before inactive completed
  · have reached : (mission.tick dt).Reachable := reachable.take (.tick dt)
    have listed : tracked.objective ∈ Objective.collect (mission.tick dt).events := by
      rw [← reached.collected]
      exact List.mem_map_of_mem member
    obtain ⟨role, index, place, source, unable⟩ :=
      Objective.inactive_of_mem_collect listed inactive
    have averted := Objective.evaluate_lose_completed role source
      (by rw [← standing]; exact completed)
    -- Its trigger would have to be exhausted, which it cannot be.
    obtain ⟨_, _, event, same, _, present, exhausted⟩ := Objective.evaluate_averted role averted
    rw [source] at same
    cases same
    obtain ⟨last, there, related⟩ := each_getElem? rests present
    have ended := exhausted.of_asked related.trigger
    have honest := reached.honest (trigger?_eq_some.mpr ⟨last, there, rfl⟩)
    have enabled : last.trigger.disabled = false := by
      rw [← Bool.not_eq_true]
      exact fun disabled => ended.1
        (reached.conditions_of_disabled (List.mem_of_getElem? there) disabled)
    have able := honest.canBeImpossible ended enabled
    rw [unable last there] at able
    cases able

/-- No run completes an objective that cannot be completed. -/
theorem play_inactive {mission : Mission π} (reachable : mission.Reachable)
    (open_ : ∀ tracked ∈ mission.objectives, tracked.objective.inactive = true →
      tracked.status ≠ .completed) (inputs : List (Input π)) :
    ∀ tracked ∈ (mission.play inputs).objectives, tracked.objective.inactive = true →
      tracked.status ≠ .completed := by
  induction inputs generalizing mission with
  | nil => exact open_
  | cons input rest ih =>
    refine ih (reachable.take input) ?_
    rcases mission.take_cases input with ⟨dt, rfl, accepted⟩ | ⟨_, objectives, _⟩
    · exact tick_inactive reachable accepted open_
    · rw [objectives]
      exact open_

/-- Whether the conditions of a trigger can become impossible is settled when the mission is loaded.
If they cannot, then nowhere in a run the answer is that they are, at whatever stage of a step the
trigger is asked and in whatever world. The objectives stay those collected at the start, and those
that cannot be completed never are. -/
theorem impossibility_settled_at_load (descriptor : MissionDescriptor) (catalog : Catalog)
    (settings : Settings) (pools : Pools) (inputs : List (Input π)) :
    let loaded : Mission π := ofDescriptor descriptor catalog settings pools
    let mission := loaded.play inputs
    mission.events.map (·.trigger.canBeImpossible) =
        loaded.events.map (·.trigger.canBeImpossible) ∧
      (∀ index trigger, mission.trigger? index = some trigger →
        trigger.canBeImpossible = false → ∀ fires later, trigger.Turn fires later →
          later.canBeImpossible = false ∧
            ∀ world, (later.checkImpossible world).1 = false) ∧
      mission.objectives.map TrackedObjective.objective = Objective.collect loaded.events ∧
      ∀ tracked ∈ mission.objectives, tracked.objective.inactive = true →
        tracked.objective.role = .lose ∧ tracked.status ≠ .completed := by
  intro loaded mission
  have fresh : loaded.Reachable := ⟨descriptor, catalog, settings, pools, [], rfl⟩
  have reachable : mission.Reachable := ⟨descriptor, catalog, settings, pools, inputs, rfl⟩
  have built := loaded.play_pristine inputs
  refine ⟨?_, ?_, ?_, ?_⟩
  · have able := congrArg (List.map (·.trigger.canBeImpossible)) built
    simpa only [List.map_map, Function.comp_def, Event.pristine,
      Trigger.canBeImpossible_pristine] using able
  · intro index trigger found unable fires later turn
    have still : later.canBeImpossible = false := turn.canBeImpossible.trans unable
    exact ⟨still, ((reachable.honest found).turn turn).checkImpossible still⟩
  · exact reachable.collected.trans (Objective.collect_of_same built)
  · intro tracked member inactive
    have listed : tracked.objective ∈ Objective.collect mission.events := by
      rw [← reachable.collected]
      exact List.mem_map_of_mem member
    refine ⟨(Objective.inactive_of_mem_collect listed inactive).1, ?_⟩
    refine play_inactive fresh (fun one known _ completed => ?_) inputs tracked member inactive
    rw [ofDescriptor_status descriptor catalog settings pools one known] at completed
    cases completed

/-- Lost when the tanker is destroyed or has hardly any shield left. Once the tanker is away it can
no longer be destroyed, but what is said of shields is never found impossible. -/
def tankerGuard : MissionDescriptor :=
  let tanker : SubjectDescriptor := { spacecrafts := ["tanker"] }
  let drained : ConditionDescriptor :=
    { kind := "shieldIntegrity"
      subjects := tanker
      params := .object [("maxIntegrity", .number (.natural 10))] }
  { name := "tanker guard"
    spacecrafts :=
      [.single { id := some "pilot", craftClass := "interceptor", team := some "a", piloted := true },
        .single
          { id := some "tanker", craftClass := "interceptor", team := some "a"
            position := some ⟨0, 0, -500⟩ }]
    events :=
      [{ name := some "exposed"
         trigger :=
           { conditions := [{ kind := "destroyed", subjects := tanker }, drained]
             conditionsRequired := .any }
         actions := [{ kind := "lose" }] }] }

/-- To keep the tanker alive is an objective of that mission, and never a completed one. -/
theorem tankerGuard_never_completed :
    let start : Mission Pursuit :=
      ofDescriptor tankerGuard .standard { quality := .low, particles := false } {}
    (∃ tracked ∈ start.objectives, tracked.objective.inactive = true) ∧
      (start.trigger? 0).map Trigger.canBeImpossible = some false ∧
      ∀ inputs : List (Input Pursuit),
        (∀ trigger, (start.play inputs).trigger? 0 = some trigger →
          trigger.canBeImpossible = false →
            ∀ world, (trigger.checkImpossible world).1 = false) ∧
          ∀ tracked ∈ (start.play inputs).objectives, tracked.objective.inactive = true →
            tracked.status ≠ .completed := by
  intro start
  have inactive : start.objectives.any (·.objective.inactive) = true := by decide +kernel
  refine ⟨List.any_eq_true.mp inactive, by decide +kernel, fun inputs => ?_⟩
  obtain ⟨_, never, _, open_⟩ := impossibility_settled_at_load tankerGuard .standard
    { quality := .low, particles := false } {} inputs
  refine ⟨fun trigger found unable => ?_, fun tracked member unable => ?_⟩
  · exact (never 0 trigger found unable false trigger (.asked (.refl trigger))).2
  · exact (open_ tracked member unable).2

end Mission

end Sortie
