import Sortie.Proofs.Deeds
import Sortie.Proofs.Impossibility

set_option autoImplicit false

namespace Sortie

namespace Objective

theorem mem_declared_of_unwon {events : List Event} (unwon : events.any Event.hasWin = false)
    {objective : Objective} :
    objective ∈ declared 0 events ↔
      ∃ (index : Nat) (event : Event) (place : Nat) (condition : Condition),
        events[index]? = some event ∧ event.hasLose = true ∧
          event.trigger.conditions[place]? = some condition ∧ condition.isObjective = true ∧
          objective = ⟨.lose, .condition index place, !event.trigger.canBeImpossible⟩ := by
  rw [mem_declared]
  constructor
  · rintro ⟨index, event, present, owned⟩
    have won := List.any_eq_false.mp unwon event (List.mem_of_getElem? present)
    rw [Nat.zero_add, Event.allObjectives, if_neg won, List.nil_append] at owned
    split at owned
    · rename_i loses
      obtain ⟨place, condition, found, able, rfl⟩ := Event.mem_objectives.mp owned
      exact ⟨index, event, place, condition, present, loses, found, able, rfl⟩
    · cases owned
  · rintro ⟨index, event, place, condition, present, loses, found, able, rfl⟩
    refine ⟨index, event, present, List.mem_append_right _ ?_⟩
    rw [Nat.zero_add, if_pos loses]
    exact Event.mem_objectives.mpr ⟨place, condition, found, able, rfl⟩

/-- Without events that win, there is an objective that can be completed exactly if no loss can be
averted for good or one of those that can is put in words. -/
theorem exists_active_iff {events : List Event} (unwon : events.any Event.hasWin = false) :
    (∃ objective ∈ collect events, objective.inactive = false) ↔
      (∀ event ∈ events, event.canBeAverted = false) ∨
        ∃ event ∈ events, event.canBeAverted = true ∧
          ∃ condition ∈ event.trigger.conditions, condition.isObjective = true := by
  have stated : (∃ objective ∈ declared 0 events, objective.inactive = false) ↔
      ∃ event ∈ events, event.canBeAverted = true ∧
        ∃ condition ∈ event.trigger.conditions, condition.isObjective = true := by
    constructor
    · rintro ⟨objective, member, active⟩
      obtain ⟨index, event, place, condition, present, loses, found, able, rfl⟩ :=
        (mem_declared_of_unwon unwon).mp member
      refine ⟨event, List.mem_of_getElem? present, ?_, condition, List.mem_of_getElem? found, able⟩
      rw [Event.canBeAverted, loses, Bool.true_and]
      simpa using active
    · rintro ⟨event, member, averted, condition, there, able⟩
      obtain ⟨index, present⟩ := List.mem_iff_getElem?.mp member
      obtain ⟨place, found⟩ := List.mem_iff_getElem?.mp there
      obtain ⟨loses, ends⟩ := Bool.and_eq_true_iff.mp averted
      refine ⟨_, (mem_declared_of_unwon unwon).mpr
        ⟨index, event, place, condition, present, loses, found, able, rfl⟩, ?_⟩
      rw [ends]
      rfl
  cases averted : events.any Event.canBeAverted with
  | true =>
    obtain ⟨event, member, able⟩ := List.any_eq_true.mp averted
    have some_ : ¬ ∀ other ∈ events, other.canBeAverted = false := by
      intro none_
      rw [none_ event member] at able
      cases able
    simp only [collect, unwon, averted, Bool.not_false, Bool.not_true, Bool.and_false,
      Bool.false_eq_true, ↓reduceIte, List.append_nil, some_, false_or]
    exact stated
  | false =>
    refine iff_of_true ⟨destroyAll, ?_, rfl⟩ (.inl fun event member => ?_)
    · simp only [collect, unwon, averted, Bool.not_false, Bool.and_self, ↓reduceIte, List.mem_append,
        List.mem_singleton, or_true]
    · exact Bool.eq_false_iff.mpr (List.any_eq_false.mp averted event member)

end Objective

/-- Whether neither a win nor a battle is on. -/
def MissionState.Unwon (state : MissionState) : Prop := state ≠ .completed ∧ state ≠ .battle

theorem Action.execute_unwon {action : Action} (unwon : action.isWin = false) (world : World)
    (open_ : world.state.Unwon) : (action.execute world).2.state.Unwon := by
  cases lost : action.isLose with
  | true =>
    rw [action.execute_of_isLose world lost]
    unfold World.lose
    split
    · exact open_
    · split
      · rw [World.state_setState]
        exact ⟨by decide, by decide⟩
      · exact open_
  | false =>
    rw [(action.execute_quiet world unwon lost).state]
    exact open_

namespace Mission

variable {π : Type}

/-- A mission whose events do not win and whose objectives cannot be completed. -/
structure Hopeless (mission : Mission π) : Prop where
  unwon : mission.events.any Event.hasWin = false
  inactive : ∀ tracked ∈ mission.objectives, tracked.objective.inactive = true

theorem hasWin_of_same {before after : List Event}
    (same : after.map Event.pristine = before.map Event.pristine) :
    after.any Event.hasWin = before.any Event.hasWin := by
  have won := congrArg (List.any · Event.hasWin) same
  simpa only [List.any_map, Function.comp_def, Event.hasWin_pristine] using won

/-- The rules of a step do not win such a mission. -/
theorem Hopeless.runRules {mission : Mission π} (hopeless : mission.Hopeless) (dt : Scalar)
    (open_ : mission.state.Unwon) : (mission.runRules dt).state.Unwon := by
  refine (mission.deeds_lead dt).keeps (fun deed member held => ?_) open_
  obtain ⟨event, there, owned⟩ := mem_deeds member
  obtain ⟨source, known, rfl⟩ := List.mem_map.mp there
  obtain ⟨action, listed, same⟩ := List.mem_map.mp owned
  have lacks : ¬ source.hasWin = true := List.any_eq_false.mp hopeless.unwon source known
  refine Action.execute_unwon ?_ deed.2 held
  rw [← Bool.not_eq_true]
  intro won
  rw [← deed.1.isWin_pristine, ← same, action.isWin_pristine] at won
  exact lacks (List.any_eq_true.mpr ⟨action, listed, won⟩)

variable [Pilot π]

theorem Hopeless.take {mission : Mission π} (hopeless : mission.Hopeless) (input : Input π) :
    (mission.take input).Hopeless where
  unwon := by
    rw [hasWin_of_same (mission.take_pristine input)]
    exact hopeless.unwon
  inactive tracked member := by
    have listed : tracked.objective ∈ mission.objectives.map TrackedObjective.objective := by
      rw [← mission.take_objectives input]
      exact List.mem_map_of_mem member
    obtain ⟨former, known, same⟩ := List.mem_map.mp listed
    rw [← same]
    exact hopeless.inactive former known

/-- No objective of such a mission is ever completed. -/
theorem Hopeless.tick_status {mission : Mission π} (hopeless : mission.Hopeless)
    (reachable : mission.Reachable) {dt : Scalar} (accepted : accepts dt = true)
    (open_ : ∀ tracked ∈ mission.objectives, tracked.status ≠ .completed) :
    ∀ tracked ∈ (mission.tick dt).objectives, tracked.status ≠ .completed := by
  intro tracked member
  have later : (mission.tick dt).Hopeless := hopeless.take (.tick dt)
  exact tick_inactive reachable accepted (fun one known _ => open_ one known) tracked member
    (later.inactive tracked member)

/-- The end of a step does not win such a mission. -/
theorem Hopeless.tick_state {mission : Mission π} (hopeless : mission.Hopeless) {dt : Scalar}
    (accepted : accepts dt = true) (pending : mission.state.Unwon)
    (open_ : ∀ tracked ∈ (mission.tick dt).objectives, tracked.status ≠ .completed) :
    (mission.tick dt).state.Unwon := by
  have ruled := hopeless.runRules dt pending
  have flown : (mission.advance dt).state = (mission.runRules dt).state :=
    (runCrafts_passive _ dt).world.state
  have after : (mission.tick dt).state = (mission.decided dt).nextState := by
    rw [state, mission.tick_world dt accepted, World.state_setState]
  rw [← flown] at ruled
  rw [after]
  rcases (mission.decided dt).nextState_cases with ⟨_, defeat⟩ | ⟨_, same⟩ | ⟨_, battle, _⟩ |
    ⟨_, started, failed | completed⟩
  · rw [defeat]
    exact ⟨by decide, by decide⟩
  · rw [same]
    exact ruled
  · exact absurd battle ruled.2
  · rw [failed]
    exact ⟨by decide, by decide⟩
  · have met := mission.tick_hasCompleted accepted started (after.trans completed)
    obtain ⟨tracked, member, done⟩ := List.any_eq_true.mp (Bool.and_eq_true_iff.mp met).2
    exact absurd (eq_of_beq done) (open_ tracked member)

theorem Hopeless.play {mission : Mission π} (hopeless : mission.Hopeless)
    (reachable : mission.Reachable) (pending : mission.state.Unwon)
    (open_ : ∀ tracked ∈ mission.objectives, tracked.status ≠ .completed)
    (inputs : List (Input π)) : (mission.play inputs).state.Unwon := by
  induction inputs generalizing mission with
  | nil => exact pending
  | cons input rest ih =>
    have next : (mission.take input).state.Unwon ∧
        ∀ tracked ∈ (mission.take input).objectives, tracked.status ≠ .completed := by
      rcases mission.take_cases input with ⟨dt, rfl, accepted⟩ | ⟨world, objectives, _⟩
      · have status := hopeless.tick_status reachable accepted open_
        exact ⟨hopeless.tick_state accepted pending status, status⟩
      · rw [state, world, objectives]
        exact ⟨pending, open_⟩
    exact ih (hopeless.take input) (reachable.take input) next.1 next.2

/-- A mission whose events do not win starts with an objective that can be completed exactly if none
of its losses can be averted for good, or one that can has a condition that is put in words. If all
its objectives are inactive, no run completes it. -/
theorem prospects_without_win (descriptor : MissionDescriptor) (catalog : Catalog)
    (settings : Settings) (pools : Pools)
    (unwon : (ofDescriptor (π := π) descriptor catalog settings pools).events.any
      Event.hasWin = false) :
    let loaded : Mission π := ofDescriptor descriptor catalog settings pools
    ((∃ tracked ∈ loaded.objectives, tracked.objective.inactive = false) ↔
      (∀ event ∈ loaded.events, event.canBeAverted = false) ∨
        ∃ event ∈ loaded.events, event.canBeAverted = true ∧
          ∃ condition ∈ event.trigger.conditions, condition.isObjective = true) ∧
      ((∀ tracked ∈ loaded.objectives, tracked.objective.inactive = true) →
        ∀ inputs : List (Input π), (loaded.play inputs).state ≠ .completed) := by
  intro loaded
  have collected : loaded.Collected := ofDescriptor_collected descriptor catalog settings pools
  have tracked : (∃ tracked ∈ loaded.objectives, tracked.objective.inactive = false) ↔
      ∃ objective ∈ Objective.collect loaded.events, objective.inactive = false := by
    rw [← collected]
    simp only [List.mem_map, exists_exists_and_eq_and]
  refine ⟨tracked.trans (Objective.exists_active_iff unwon), fun inactive inputs => ?_⟩
  -- Without the objective to destroy all enemies some event loses, so no battle is on at the start.
  have loses : ∃ event ∈ loaded.events, event.hasLose = true := by
    by_contra none_
    have idle : ∀ event ∈ loaded.events, event.canBeAverted = false := by
      intro event member
      rw [Event.canBeAverted, Bool.and_eq_false_iff]
      left
      rw [← Bool.not_eq_true]
      exact fun lost => none_ ⟨event, member, lost⟩
    obtain ⟨one, member, active⟩ :=
      tracked.mpr ((Objective.exists_active_iff unwon).mpr (.inl idle))
    rw [inactive one member] at active
    cases active
  have started : loaded.state = .inProgress := by
    obtain ⟨event, member, lost⟩ := loses
    have declared : loaded.events.any (fun event => event.hasWin || event.hasLose) = true :=
      List.any_eq_true.mpr ⟨event, member, by rw [lost, Bool.or_true]⟩
    exact (World.state_setState _ _).trans (if_pos declared)
  have fresh : ∀ tracked ∈ loaded.objectives, tracked.status ≠ .completed := by
    intro one member completed
    obtain ⟨objective, _, rfl⟩ := List.mem_map.mp member
    cases completed
  have hopeless : loaded.Hopeless := ⟨unwon, inactive⟩
  refine (hopeless.play ⟨_, _, _, _, [], rfl⟩ ?_ fresh inputs).1
  rw [started]
  exact ⟨by decide, by decide⟩

/-- A raider is to be destroyed within a minute; only that the time runs out is stated. -/
def ultimatum : MissionDescriptor :=
  let deadline : ConditionDescriptor :=
    { kind := "time"
      params := .object [("time", .number (.natural 60000)), ("when", .text "before")] }
  { name := "ultimatum"
    spacecrafts :=
      [.single { id := some "pilot", craftClass := "interceptor", team := some "a", piloted := true },
        .single
          { id := some "raider", craftClass := "interceptor", team := some "b"
            position := some ⟨0, 0, -500⟩ }]
    events :=
      [{ name := some "late"
         trigger := { conditions := [deadline], fireWhen := .changeToFalse }
         actions := [{ kind := "lose" }] }] }

/-- The loss can be averted, since the deadline can become impossible, but a deadline is not put in
words: the mission starts without objectives, also without the one to destroy all enemies. -/
theorem ultimatum_without_objective :
    let start : Mission Pursuit :=
      ofDescriptor ultimatum .standard { quality := .low, particles := false } {}
    start.state = .inProgress ∧ start.events.any Event.hasLose = true ∧
      start.events.any Event.hasWin = false ∧
      ¬ ∃ tracked ∈ start.objectives, tracked.objective.inactive = false := by
  intro start
  have none_ : start.objectives.length = 0 := by decide +kernel
  refine ⟨by decide +kernel, by decide +kernel, by decide +kernel, ?_⟩
  rintro ⟨tracked, member, _⟩
  rw [List.length_eq_zero_iff.mp none_] at member
  cases member

/-- Whatever the pilot does, that mission is never completed. -/
theorem ultimatum_never_completed :
    let start : Mission Pursuit :=
      ofDescriptor ultimatum .standard { quality := .low, particles := false } {}
    start.events.any Event.hasWin = false ∧
      start.events.map Event.canBeAverted = [true] ∧
      (¬ ∃ event ∈ start.events, event.canBeAverted = true ∧
        ∃ condition ∈ event.trigger.conditions, condition.isObjective = true) ∧
      ∀ inputs : List (Input Pursuit), (start.play inputs).state ≠ .completed := by
  intro start
  have unwon : start.events.any Event.hasWin = false := by decide +kernel
  have averted : start.events.map Event.canBeAverted = [true] := by decide +kernel
  have none_ : start.objectives.length = 0 := by decide +kernel
  have empty := List.length_eq_zero_iff.mp none_
  obtain ⟨active, never⟩ := prospects_without_win ultimatum .standard
    { quality := .low, particles := false } {} unwon
  refine ⟨unwon, averted, fun stated => ?_, never fun tracked member => ?_⟩
  · obtain ⟨tracked, member, _⟩ := active.mpr (.inr stated)
    rw [empty] at member
    cases member
  · rw [empty] at member
    cases member

end Mission

end Sortie
