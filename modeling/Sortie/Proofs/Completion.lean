import Sortie.Proofs.StateHistory
import Sortie.Proofs.Standings

set_option autoImplicit false

namespace Sortie

namespace Event

theorem objectives_pristine (event : Event) (index : Nat) (role : ObjectiveRole)
    (inactive : Bool) :
    event.pristine.objectives index role inactive = event.objectives index role inactive := by
  simp only [objectives, pristine, Trigger.pristine, List.length_map, List.getElem?_map,
    Option.any_map, Condition.isObjective_pristine]

theorem allObjectives_pristine (event : Event) (index : Nat) :
    event.pristine.allObjectives index = event.allObjectives index := by
  have trigger : event.pristine.trigger.canBeImpossible = event.trigger.canBeImpossible :=
    event.trigger.canBeImpossible_pristine
  simp only [allObjectives, hasWin_pristine, hasLose_pristine, objectives_pristine, trigger]

theorem canBeAverted_pristine (event : Event) :
    event.pristine.canBeAverted = event.canBeAverted := by
  have trigger : event.pristine.trigger.canBeImpossible = event.trigger.canBeImpossible :=
    event.trigger.canBeImpossible_pristine
  simp only [canBeAverted, hasLose_pristine, trigger]

/-- The conditions that are objectives of an event. -/
theorem mem_objectives {event : Event} {index : Nat} {role : ObjectiveRole} {inactive : Bool}
    {objective : Objective} :
    objective ∈ event.objectives index role inactive ↔
      ∃ place condition, event.trigger.conditions[place]? = some condition ∧
        condition.isObjective = true ∧ objective = ⟨role, .condition index place, inactive⟩ := by
  simp only [objectives, List.mem_map, List.mem_filter, List.mem_range, Option.any_eq_true]
  constructor
  · rintro ⟨place, ⟨_, condition, found, able⟩, rfl⟩
    exact ⟨place, condition, found, able, rfl⟩
  · rintro ⟨place, condition, found, able, rfl⟩
    exact ⟨place, ⟨(List.getElem?_eq_some_iff.mp found).1, condition, found, able⟩, rfl⟩

end Event

namespace Objective

theorem declared_pristine (index : Nat) (events : List Event) :
    declared index (events.map Event.pristine) = declared index events := by
  induction events generalizing index with
  | nil => rfl
  | cons event rest ih =>
    rw [List.map_cons, declared, declared, Event.allObjectives_pristine, ih]

theorem collect_pristine (events : List Event) :
    collect (events.map Event.pristine) = collect events := by
  simp only [collect, declared_pristine, List.any_map, Function.comp_def, Event.hasWin_pristine,
    Event.canBeAverted_pristine]

theorem collect_of_same {before after : List Event}
    (same : after.map Event.pristine = before.map Event.pristine) :
    collect after = collect before := by
  rw [← collect_pristine after, same, collect_pristine]

theorem mem_declared {first : Nat} {events : List Event} {objective : Objective} :
    objective ∈ declared first events ↔
      ∃ (place : Nat) (event : Event), events[place]? = some event ∧
        objective ∈ event.allObjectives (first + place) := by
  induction events generalizing first with
  | nil => simp [declared]
  | cons head rest ih =>
    rw [declared, List.mem_append, ih]
    constructor
    · rintro (here | ⟨place, event, found, member⟩)
      · exact ⟨0, head, rfl, here⟩
      · refine ⟨place + 1, event, found, ?_⟩
        have shifted : first + (place + 1) = first + 1 + place := by omega
        rw [shifted]
        exact member
    · rintro ⟨place, event, found, member⟩
      cases place with
      | zero =>
        rw [List.getElem?_cons_zero] at found
        cases found
        exact .inl member
      | succ place =>
        rw [List.getElem?_cons_succ] at found
        have shifted : first + (place + 1) = first + 1 + place := by omega
        rw [shifted] at member
        exact .inr ⟨place, event, found, member⟩

/-- Each condition that can be an objective is one of the win if its event wins. -/
theorem win_mem_collect {events : List Event} {index place : Nat} {event : Event}
    {condition : Condition} (present : events[index]? = some event)
    (wins : event.hasWin = true) (found : event.trigger.conditions[place]? = some condition)
    (able : condition.isObjective = true) :
    ⟨.win, .condition index place, false⟩ ∈ collect events := by
  refine List.mem_append_left _ (mem_declared.mpr ⟨index, event, present, ?_⟩)
  rw [Nat.zero_add, Event.allObjectives, wins, if_pos rfl]
  exact List.mem_append_left _ (Event.mem_objectives.mpr ⟨place, condition, found, able, rfl⟩)

/-- An objective that is a condition of an event has a condition that can be one. -/
theorem able_of_mem_collect {events : List Event} {objective : Objective} {index place : Nat}
    (member : objective ∈ collect events) (source : objective.source = .condition index place) :
    ∃ event condition, events[index]? = some event ∧
      event.trigger.conditions[place]? = some condition ∧ condition.isObjective = true := by
  rcases List.mem_append.mp member with stated | implicit
  · obtain ⟨at_, event, present, owned⟩ := mem_declared.mp stated
    rw [Nat.zero_add, Event.allObjectives] at owned
    have either : ∃ role inactive, objective ∈ event.objectives at_ role inactive := by
      rcases List.mem_append.mp owned with won | lost
      · split at won
        · exact ⟨_, _, won⟩
        · cases won
      · split at lost
        · exact ⟨_, _, lost⟩
        · cases lost
    obtain ⟨role, inactive, mine⟩ := either
    obtain ⟨part, condition, found, able, rfl⟩ := Event.mem_objectives.mp mine
    cases source
    exact ⟨event, condition, present, found, able⟩
  · split at implicit
    · rw [List.mem_singleton] at implicit
      rw [implicit] at source
      cases source
    · cases implicit

end Objective

namespace Trigger

/-- The previous value of a trigger's conditions is made of their latest results. -/
def Recalls (trigger : Trigger) : Prop :=
  trigger.conditions ≠ [] →
    trigger.previous = trigger.required.holds (trigger.conditions.map Condition.lastSatisfied)

theorem recalls_pristine (trigger : Trigger) : trigger.pristine.Recalls := by
  intro some_
  have results : trigger.pristine.conditions.map Condition.lastSatisfied =
      trigger.conditions.map fun _ => false := by
    simp only [pristine, List.map_map]
    rfl
  have present : trigger.conditions ≠ [] := by simpa [pristine] using some_
  obtain ⟨first, rest, split_⟩ := List.exists_cons_of_ne_nil present
  rw [results, split_]
  cases quantity : trigger.pristine.required with
  | all => simp [Quantity.holds, pristine]
  | any => simp [Quantity.holds, pristine]

theorem Recalls.of_asked {before after : Trigger} (recalls : before.Recalls)
    (asked : before.Asked after) : after.Recalls := by
  intro some_
  have length := asked.conditions.length_eq
  have present : before.conditions ≠ [] := by
    intro empty
    rw [empty, List.length_nil] at length
    exact some_ (List.length_eq_zero_iff.mp length.symm)
  have results := each_map_eq (R := Condition.Asked) (fun _ _ asked => asked.lastSatisfied)
    asked.conditions
  have previous : after.previous = before.previous := by rw [asked.rest]
  have required : after.required = before.required := by rw [asked.rest]
  rw [previous, required, results]
  exact recalls present

theorem Recalls.judge {trigger : Trigger} (recalls : trigger.Recalls) (world : World)
    (dt : Scalar) : (trigger.judge world dt).2.Recalls := by
  by_cases policy : trigger.policy = .missionStarts
  · simp only [Trigger.judge, policy, ↓reduceIte]
    exact recalls
  · rw [judge_of_looks policy]
    intro _
    have results : ((trigger.looks world dt).map Prod.snd).map Condition.lastSatisfied =
        (trigger.looks world dt).map Prod.fst := by
      simp only [looks, List.map_map]
      exact List.map_congr_left fun condition _ => condition.look_lastSatisfied world dt
    dsimp only
    rw [results]

theorem Recalls.turn {trigger later : Trigger} {fires : Bool} (recalls : trigger.Recalls)
    (turn : trigger.Turn fires later) : later.Recalls :=
  turn.keeps (fun _ world dt recalls => recalls.judge world dt) (fun _ _ recalls => recalls)
    (fun _ _ recalls asked => recalls.of_asked asked) recalls

/-- With all that can be objectives met, what is left of the value is a matter of the others. -/
theorem Recalls.value {trigger : Trigger} (recalls : trigger.Recalls)
    (met : ∀ condition ∈ trigger.conditions, condition.isObjective = true →
      condition.lastSatisfied = true)
    (able : ∃ condition ∈ trigger.conditions, condition.isObjective = true) :
    trigger.previous = true ↔
      trigger.required = .any ∨ ∀ condition ∈ trigger.conditions,
        condition.isObjective = false → condition.lastSatisfied = true := by
  obtain ⟨one, member, capable⟩ := able
  rw [recalls (List.ne_nil_of_mem member)]
  cases quantity : trigger.required with
  | all =>
    simp only [Quantity.holds_all_map, reduceCtorEq, false_or]
    constructor
    · intro every condition there _
      exact every condition there
    · intro others condition there
      cases kind : condition.isObjective with
      | true => exact met condition there kind
      | false => exact others condition there kind
  | any =>
    simp only [Quantity.holds_any_map, true_or, iff_true]
    exact ⟨one, member, met one member capable⟩

end Trigger

namespace Mission

variable {π : Type}

/-- Goals that are settled as completed belong to events that have fired. -/
def WonByFiring (mission : Mission π) : Prop :=
  ∀ tracked ∈ mission.objectives, tracked.objective.role = .win →
    tracked.standing = ⟨.completed, true⟩ → ∀ index place,
      tracked.objective.source = .condition index place → 0 < mission.world.fireCount index

/-- The objectives of a mission are those of its rules. -/
def Collected (mission : Mission π) : Prop :=
  mission.objectives.map TrackedObjective.objective = Objective.collect mission.events

theorem ofDescriptor_collected (descriptor : MissionDescriptor) (catalog : Catalog)
    (settings : Settings) (pools : Pools) :
    (ofDescriptor (π := π) descriptor catalog settings pools).Collected := by
  unfold Collected ofDescriptor
  dsimp only
  rw [List.map_map]
  exact List.map_id _

theorem ofDescriptor_wonByFiring (descriptor : MissionDescriptor) (catalog : Catalog)
    (settings : Settings) (pools : Pools) :
    (ofDescriptor (π := π) descriptor catalog settings pools).WonByFiring := by
  intro tracked member _ completed
  obtain ⟨objective, _, rfl⟩ := List.mem_map.mp member
  cases completed

variable [Pilot π]

theorem tick_objectives (mission : Mission π) (dt : Scalar) :
    (mission.tick dt).objectives.map TrackedObjective.objective =
      mission.objectives.map TrackedObjective.objective := by
  cases accepted : accepts dt with
  | true =>
    rw [mission.tick_of_accepts dt accepted, ← mission.advance_objectives dt]
    exact evaluateAll_objectives _ _ _
  | false => rw [mission.tick_of_not_accepts dt accepted]

theorem take_objectives (mission : Mission π) (input : Input π) :
    (mission.take input).objectives.map TrackedObjective.objective =
      mission.objectives.map TrackedObjective.objective := by
  rcases mission.take_cases input with ⟨dt, rfl, _⟩ | ⟨_, objectives, _⟩
  · exact mission.tick_objectives dt
  · rw [objectives]

theorem take_collected (mission : Mission π) (input : Input π) (collected : mission.Collected) :
    (mission.take input).Collected := by
  have rules := Objective.collect_of_same (mission.take_pristine input)
  unfold Collected
  rw [rules, ← collected, mission.take_objectives input]

/-- Where an objective of the latest step comes from: it was settled before, or evaluated in it. -/
theorem tick_tracked (mission : Mission π) {dt : Scalar} (accepted : accepts dt = true)
    {after : TrackedObjective} (member : after ∈ (mission.tick dt).objectives) :
    after ∈ mission.objectives ∧ after.standing.settled = true ∨
      ∃ asked, after.standing =
          (after.objective.evaluate (mission.advance dt).world asked).1 ∧
        Event.AllRest (after.objective.evaluate (mission.advance dt).world asked).2
          (mission.tick dt).events := by
  obtain ⟨place, found⟩ := List.mem_iff_getElem?.mp member
  have length := congrArg List.length (mission.tick_objectives dt)
  rw [List.length_map, List.length_map] at length
  have inside := (List.getElem?_eq_some_iff.mp found).1
  rw [length] at inside
  have present := List.getElem?_eq_getElem inside
  cases settled : mission.objectives[place].standing.settled with
  | true =>
    left
    have still : (mission.advance dt).objectives[place]? = some mission.objectives[place] := by
      rw [mission.advance_objectives dt]
      exact present
    have kept := evaluateAll_settled (mission.advance dt).world (mission.advance dt).events still
      settled
    rw [mission.tick_of_accepts dt accepted] at found
    have same : some after = some mission.objectives[place] := found.symm.trans kept
    rw [Option.some.inj same]
    exact ⟨List.getElem_mem inside, settled⟩
  | false =>
    right
    obtain ⟨asked, rfl, rests⟩ := mission.tick_settles accepted ⟨present, settled⟩ found
    exact ⟨asked, rfl, rests⟩

theorem tick_wonByFiring (mission : Mission π) {dt : Scalar} (accepted : accepts dt = true)
    (won : mission.WonByFiring) : (mission.tick dt).WonByFiring := by
  intro after member role completed index place source
  have grown := mission.fireCount_le_advance dt index
  rw [mission.tick_fireCount accepted]
  rcases mission.tick_tracked accepted member with ⟨before, _⟩ | ⟨asked, standing, _⟩
  · exact Nat.lt_of_lt_of_le (won after before role completed index place source) grown
  · rw [completed] at standing
    rcases Objective.evaluate_met role source (by rw [← standing]) with fired | ⟨open_, _⟩
    · exact fired
    · rw [← standing] at open_
      cases open_

theorem take_wonByFiring (mission : Mission π) (input : Input π) (won : mission.WonByFiring) :
    (mission.take input).WonByFiring := by
  rcases mission.take_cases input with ⟨dt, rfl, accepted⟩ | ⟨world, objectives, _⟩
  · exact mission.tick_wonByFiring accepted won
  · rw [WonByFiring, world, objectives]
    exact won

theorem Reachable.collected {mission : Mission π} (reachable : mission.Reachable) :
    mission.Collected := by
  obtain ⟨descriptor, catalog, settings, pools, inputs, rfl⟩ := reachable
  exact play_keeps Collected take_collected _ inputs (ofDescriptor_collected _ _ _ _)

theorem Reachable.wonByFiring {mission : Mission π} (reachable : mission.Reachable) :
    mission.WonByFiring := by
  obtain ⟨descriptor, catalog, settings, pools, inputs, rfl⟩ := reachable
  exact play_keeps WonByFiring take_wonByFiring _ inputs (ofDescriptor_wonByFiring _ _ _ _)

/-- When the state becomes completed by the objectives, all that can be completed are. -/
theorem tick_hasCompleted (mission : Mission π) {dt : Scalar} (accepted : accepts dt = true)
    (pending : (mission.advance dt).state = .inProgress)
    (completed : (mission.tick dt).state = .completed) : (mission.tick dt).hasCompleted = true := by
  rw [mission.tick_of_accepts dt accepted] at completed ⊢
  have moved : (mission.advance dt).updateState.state =
    (mission.advance dt).evaluateObjectives.nextState := World.state_setState _ _
  rw [moved] at completed
  show (mission.advance dt).evaluateObjectives.hasCompleted = true
  cases down : (mission.advance dt).world.pilotDown with
  | true =>
    rw [nextState_of_down (mission.advance dt).evaluateObjectives down] at completed
    cases completed
  | false =>
    rw [nextState_of_inProgress (mission.advance dt).evaluateObjectives down pending] at completed
    revert completed
    split
    · intro failed
      cases failed
    · split
      · intro _
        assumption
      · intro open_
        cases open_

/-- A completed goal of a step: its event has fired, or its condition was satisfied. -/
theorem tick_met (mission : Mission π) (won : mission.WonByFiring) {dt : Scalar}
    (accepted : accepts dt = true) {tracked : TrackedObjective}
    (member : tracked ∈ (mission.tick dt).objectives) (role : tracked.objective.role = .win)
    (completed : tracked.status = .completed) {index place : Nat}
    (source : tracked.objective.source = .condition index place) {event : Event}
    (present : (mission.tick dt).events[index]? = some event) :
    0 < (mission.tick dt).world.fireCount index ∨
      ∃ condition, event.trigger.conditions[place]? = some condition ∧
        condition.lastSatisfied = true := by
  rw [mission.tick_fireCount accepted]
  rcases mission.tick_tracked accepted member with ⟨before, settled⟩ | ⟨asked, standing, rests⟩
  · left
    have stands : tracked.standing = ⟨.completed, true⟩ := by
      rw [← completed, ← settled]
      rfl
    exact Nat.lt_of_lt_of_le (won tracked before role stands index place source)
      (mission.fireCount_le_advance dt index)
  · rcases Objective.evaluate_met role source (by rw [← standing]; exact completed) with
      fired | ⟨_, old, condition, there, found, satisfied⟩
    · exact .inl fired
    · right
      obtain ⟨later, here, related⟩ := each_getElem? rests there
      rw [present] at here
      cases here
      obtain ⟨last, where_, grown⟩ := each_getElem? related.trigger.conditions found
      exact ⟨last, where_, grown.lastSatisfied.trans satisfied⟩

/-- When objectives complete a pending mission, each event that wins and has an objective has fired,
or all its conditions that can be objectives held at their latest look. The value of its whole
trigger then held as well if any condition is enough, and otherwise exactly if the other conditions
held too. -/
theorem completed_by_objectives (mission : Mission π) (reachable : mission.Reachable) {dt : Scalar}
    (accepted : accepts dt = true) (pending : (mission.advance dt).state = .inProgress)
    (completed : (mission.tick dt).state = .completed) :
    ∀ index event, (mission.tick dt).events[index]? = some event → event.hasWin = true →
      (∃ tracked ∈ (mission.tick dt).objectives, ∃ place,
        tracked.objective.source = .condition index place) →
      0 < (mission.tick dt).world.fireCount index ∨
        (∀ condition ∈ event.trigger.conditions, condition.isObjective = true →
          condition.lastSatisfied = true) ∧
        (event.trigger.previous = true ↔
          event.trigger.required = .any ∨ ∀ condition ∈ event.trigger.conditions,
            condition.isObjective = false → condition.lastSatisfied = true) := by
  intro index event present wins ⟨owned, member, part, source⟩
  have reached : (mission.tick dt).Reachable := reachable.take (.tick dt)
  have collected : (mission.tick dt).objectives.map TrackedObjective.objective =
    Objective.collect (mission.tick dt).events := reached.collected
  have all := (Bool.and_eq_true_iff.mp (mission.tick_hasCompleted accepted pending completed)).1
  rw [or_iff_not_imp_left]
  intro unfired
  -- Each such condition is an objective of the win, and one that is never inactive.
  have met : ∀ condition ∈ event.trigger.conditions, condition.isObjective = true →
      condition.lastSatisfied = true := by
    intro condition there able
    obtain ⟨place, found⟩ := List.mem_iff_getElem?.mp there
    have goal := Objective.win_mem_collect present wins found able
    rw [← collected] at goal
    obtain ⟨tracked, listed, objective⟩ := List.mem_map.mp goal
    have done := List.all_eq_true.mp all tracked listed
    rw [objective, Bool.or_false, beq_iff_eq] at done
    rcases mission.tick_met reachable.wonByFiring accepted listed (by rw [objective]) done
      (by rw [objective]) present with fired | ⟨same, here, satisfied⟩
    · exact absurd fired unfired
    · rw [found] at here
      cases here
      exact satisfied
  refine ⟨met, ?_⟩
  have recalls : event.trigger.Recalls :=
    reached.triggers Trigger.Recalls Trigger.recalls_pristine
      (fun _ _ _ recalls turn => recalls.turn turn)
      (trigger?_eq_some.mpr ⟨event, present, rfl⟩)
  apply recalls.value met
  have listed : owned.objective ∈ Objective.collect (mission.tick dt).events := by
    rw [← collected]
    exact List.mem_map_of_mem member
  obtain ⟨same, condition, there, found, able⟩ := Objective.able_of_mem_collect listed source
  rw [present] at there
  cases there
  exact ⟨condition, List.mem_of_getElem? found, able⟩

/-- A goal that is met completes the mission although the rest of its trigger is past. -/
theorem completed_without_value :
    let start := timed "win" 0 [("after", 1000), ("before", 500)]
    let won := start.tick 1000
    (start.advance 1000).state = .inProgress ∧ won.state = .completed ∧
      won.world.fireCount 0 = 0 ∧ won.events.map Event.hasWin = [true] ∧
      won.objectives.map TrackedObjective.objective = [⟨.win, .condition 0 0, false⟩] ∧
      (won.trigger? 0).map Trigger.previous = some false := by
  decide +kernel

/-- The goal of that mission held at its latest look, and its deadline did not. -/
theorem completed_by_met_goal :
    let won := (timed "win" 0 [("after", 1000), ("before", 500)]).tick 1000
    (won.trigger? 0).any (fun trigger => trigger.conditions.all fun condition =>
      condition.isObjective == condition.lastSatisfied) = true ∧
      ∃ event, won.events[0]? = some event ∧ (event.trigger.previous = true ↔
        event.trigger.required = .any ∨ ∀ condition ∈ event.trigger.conditions,
          condition.isObjective = false → condition.lastSatisfied = true) := by
  let start := timed "win" 0 [("after", 1000), ("before", 500)]
  have facts : (start.advance 1000).state = .inProgress ∧ (start.tick 1000).state = .completed ∧
      ((start.tick 1000).events[0]?.any Event.hasWin) = true ∧
      ((start.tick 1000).objectives[0]?.any fun tracked =>
        tracked.objective.source == .condition 0 0) = true ∧
      (start.tick 1000).world.fireCount 0 = 0 ∧
      ((start.tick 1000).trigger? 0).any (fun trigger => trigger.conditions.all fun condition =>
        condition.isObjective == condition.lastSatisfied) = true := by
    decide +kernel
  obtain ⟨pending, completed, wins, owns, unfired, looks⟩ := facts
  obtain ⟨event, present, won⟩ := (Option.any_eq_true _ _).mp wins
  obtain ⟨tracked, found, source⟩ := (Option.any_eq_true _ _).mp owns
  have stands := completed_by_objectives start (timed_reachable _ _ _) (by decide +kernel)
    pending completed 0 event present won
    ⟨tracked, List.mem_of_getElem? found, 0, eq_of_beq source⟩
  rcases stands with fired | ⟨_, value⟩
  · rw [unfired] at fired
    cases fired
  · exact ⟨looks, event, present, value⟩

end Mission

end Sortie
