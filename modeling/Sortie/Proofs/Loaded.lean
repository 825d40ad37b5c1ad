import Sortie.Pilot.Pursuit
import Sortie.Proofs.Firing

set_option autoImplicit false

namespace Sortie

theorem SubjectGroup.validated_pristine {descriptor : SubjectDescriptor} {world : World}
    {group : SubjectGroup} (built : validated descriptor world = .ok group) :
    group.pristine = group := by
  unfold validated at built
  split at built
  · cases built
  · cases built
    rfl

theorem Names.subjects_pristine {names : Names} {kind : String} {descriptor : SubjectDescriptor}
    {group : SubjectGroup} (built : names.subjects kind descriptor = .ok group) :
    group.pristine = group := by
  unfold subjects at built
  split at built
  · cases built
  · split at built
    · cases built
    · exact SubjectGroup.validated_pristine built

/-- What a computation binds, when it succeeds. -/
theorem bind_eq_ok {ε α β : Type} {first : Except ε α} {next : α → Except ε β}
    {result : β} (built : (first >>= next) = .ok result) :
    ∃ value, first = .ok value ∧ next value = .ok result := by
  cases first with
  | error problem => cases built
  | ok value => exact ⟨value, rfl, built⟩

theorem map_eq_ok {ε α β : Type} {first : Except ε α} {f : α → β} {result : β}
    (built : first.map f = .ok result) : ∃ value, first = .ok value ∧ f value = result := by
  cases first with
  | error problem => cases built
  | ok value =>
    cases built
    exact ⟨value, rfl, rfl⟩

theorem mapM_mem {α β : Type} {f : α → Except ConfigError β} {items : List α} {results : List β}
    (built : items.mapM f = .ok results) :
    ∀ result ∈ results, ∃ item ∈ items, f item = .ok result := by
  induction items generalizing results with
  | nil =>
    cases built
    intro result member
    cases member
  | cons item rest ih =>
    rw [List.mapM_cons] at built
    obtain ⟨first, head, built⟩ := bind_eq_ok built
    obtain ⟨others, tail, built⟩ := bind_eq_ok built
    cases built
    intro result member
    rcases List.mem_cons.mp member with rfl | member
    · exact ⟨item, List.mem_cons_self, head⟩
    · obtain ⟨other, there, made⟩ := ih tail result member
      exact ⟨other, List.mem_cons_of_mem item there, made⟩

namespace Condition

theorem alone_pristine {kind : Except ConfigError ConditionKind} {condition : Condition}
    (built : alone kind = .ok condition)
    (fresh : ∀ value, kind = .ok value → value.pristine = value) :
    condition.pristine = condition := by
  obtain ⟨value, made, rfl⟩ := map_eq_ok built
  simp only [pristine, fresh value made, SubjectGroup.pristine]

theorem about_pristine {subjects : Except ConfigError SubjectGroup}
    {kind : Except ConfigError ConditionKind} {condition : Condition}
    (built : about subjects kind = .ok condition)
    (group : ∀ value, subjects = .ok value → value.pristine = value)
    (fresh : ∀ value, kind = .ok value → value.pristine = value) :
    condition.pristine = condition := by
  obtain ⟨members, found, built⟩ := bind_eq_ok built
  obtain ⟨value, made, built⟩ := bind_eq_ok built
  cases built
  simp only [pristine, fresh value made, group members found]

theorem destroyedOfParams_pristine {params : Json.Value} {kind : ConditionKind}
    (built : destroyedOfParams params = .ok kind) : kind.pristine = kind := by
  obtain ⟨p, _, built⟩ := bind_eq_ok built
  dsimp only at built
  split at built
  · cases built
  · cases built
    rfl

theorem countOfParams_pristine {params : Json.Value} {kind : ConditionKind}
    (built : countOfParams params = .ok kind) : kind.pristine = kind := by
  obtain ⟨p, _, built⟩ := bind_eq_ok built
  cases built
  rfl

theorem integrityOfParams_pristine {measure : IntegrityMeasure} {name : String}
    {params : Json.Value} {kind : ConditionKind}
    (built : integrityOfParams measure name params = .ok kind) : kind.pristine = kind := by
  obtain ⟨p, _, built⟩ := bind_eq_ok built
  dsimp only at built
  split at built
  · cases built
  · cases built
    rfl

theorem distanceOfParams_pristine {names : Names} {params : Json.Value} {kind : ConditionKind}
    (built : distanceOfParams names params = .ok kind) : kind.pristine = kind := by
  obtain ⟨p, _, built⟩ := bind_eq_ok built
  dsimp only at built
  split at built
  · cases built
  · obtain ⟨target, _, built⟩ := bind_eq_ok built
    cases built
    rfl

theorem onTeamOfParams_pristine {names : Names} {params : Json.Value} {kind : ConditionKind}
    (built : onTeamOfParams names params = .ok kind) : kind.pristine = kind := by
  obtain ⟨p, _, built⟩ := bind_eq_ok built
  obtain ⟨team, _, built⟩ := bind_eq_ok built
  cases built
  rfl

theorem missionStateOfParams_pristine {params : Json.Value} {kind : ConditionKind}
    (built : missionStateOfParams params = .ok kind) : kind.pristine = kind := by
  obtain ⟨p, _, built⟩ := bind_eq_ok built
  dsimp only at built
  split at built
  · cases built
  · cases built
    rfl

theorem timer_pristine {names : Names} {params : Json.Value} {kind : ConditionKind}
    (built : (Timer.ofParams names params).map .time = .ok kind) : kind.pristine = kind := by
  obtain ⟨timer, made, rfl⟩ := map_eq_ok built
  obtain ⟨p, _, made⟩ := bind_eq_ok made
  dsimp only at made
  repeat' split at made
  all_goals first
    | cases made
    | obtain ⟨start, _, made⟩ := bind_eq_ok made
      cases made
      rfl

/-- What a description of a condition builds. -/
theorem ofDescriptor_pristine {names : Names} {descriptor : ConditionDescriptor}
    {condition : Condition} (built : ofDescriptor names descriptor = .ok condition) :
    condition.pristine = condition := by
  have group : ∀ value, names.subjects "condition" descriptor.subjects = .ok value →
      value.pristine = value := fun _ found => Names.subjects_pristine found
  unfold ofDescriptor at built
  dsimp only at built
  split at built
  · exact about_pristine built group fun _ => destroyedOfParams_pristine
  · exact about_pristine built group fun _ => countOfParams_pristine
  · exact alone_pristine built fun _ => timer_pristine
  · exact about_pristine built group fun _ => integrityOfParams_pristine
  · exact about_pristine built group fun _ => integrityOfParams_pristine
  · exact about_pristine built group fun _ => distanceOfParams_pristine
  · refine about_pristine built group fun _ made => ?_
    obtain ⟨source, _, rfl⟩ := map_eq_ok made
    rfl
  · refine about_pristine built group fun _ made => ?_
    obtain ⟨p, _, rfl⟩ := map_eq_ok made
    rfl
  · exact about_pristine built group fun _ => onTeamOfParams_pristine
  · exact alone_pristine built fun _ => missionStateOfParams_pristine
  · refine about_pristine built group fun _ made => ?_
    obtain ⟨source, _, rfl⟩ := map_eq_ok made
    rfl
  · refine about_pristine built group fun _ made => ?_
    obtain ⟨source, _, rfl⟩ := map_eq_ok made
    rfl
  · cases built

end Condition

theorem Action.ofDescriptor_pristine {names : Names} {descriptor : ActionDescriptor}
    {action : Action} (built : ofDescriptor names descriptor = .ok action) :
    action.pristine = action := by
  obtain ⟨kind, _, built⟩ := bind_eq_ok built
  split at built
  · obtain ⟨subjects, found, built⟩ := bind_eq_ok built
    cases found
    cases built
    rfl
  · obtain ⟨subjects, found, built⟩ := bind_eq_ok built
    cases built
    simp only [pristine, Names.subjects_pristine found]

theorem Trigger.ofDescriptor_pristine (names : Names) (event : String)
    (descriptor : TriggerDescriptor) :
    (ofDescriptor names event descriptor).1.pristine = (ofDescriptor names event descriptor).1 := by
  unfold ofDescriptor
  split
  · rfl
  · split
    · rfl
    · rename_i conditions built
      have fresh : conditions.map Condition.pristine = conditions := by
        refine (List.map_congr_left fun condition member => ?_).trans (List.map_id _)
        obtain ⟨_, _, made⟩ := mapM_mem built condition member
        exact Condition.ofDescriptor_pristine made
      dsimp only [pristine]
      rw [fresh]
      cases descriptor.oneShot <;> rfl

/-- A trigger that is not built right has no conditions. -/
theorem Trigger.ofDescriptor_disabled (names : Names) (event : String)
    (descriptor : TriggerDescriptor)
    (disabled : (ofDescriptor names event descriptor).1.disabled = true) :
    (ofDescriptor names event descriptor).1.conditions = [] := by
  unfold ofDescriptor at disabled ⊢
  split
  · rfl
  · rename_i enough
    rw [if_neg enough] at disabled
    split
    · rfl
    · rename_i conditions built
      rw [built] at disabled
      cases disabled

namespace Event

theorem sortOut_mem {α : Type} {results : List (Except ConfigError α)} {value : α}
    (member : value ∈ (sortOut results).1) : .ok value ∈ results := by
  induction results with
  | nil => cases member
  | cons result rest ih =>
    cases result with
    | error problem => exact List.mem_cons_of_mem _ (ih member)
    | ok first =>
      rcases List.mem_cons.mp member with rfl | later
      · exact List.mem_cons_self
      · exact List.mem_cons_of_mem _ (ih later)

theorem ofDescriptor_pristine (names : Names) (name : String) (descriptor : EventDescriptor) :
    (ofDescriptor names name descriptor).1.pristine = (ofDescriptor names name descriptor).1 := by
  have actions : (sortOut (descriptor.actions.map (Action.ofDescriptor names))).1.map
      Action.pristine = (sortOut (descriptor.actions.map (Action.ofDescriptor names))).1 := by
    refine (List.map_congr_left fun action member => ?_).trans (List.map_id _)
    obtain ⟨_, _, made⟩ := List.mem_map.mp (sortOut_mem member)
    exact Action.ofDescriptor_pristine made
  simp only [ofDescriptor, pristine, Trigger.ofDescriptor_pristine, actions]

end Event

namespace World

theorem addTeam_same (world : World) (team : Team) :
    ∃ teams, world.addTeam team = { world with teams } := by
  unfold addTeam
  split
  · exact ⟨world.teams, rfl⟩
  · exact ⟨_, rfl⟩

end World

/-- Who has neither fired, nor hit anyone, nor left, nor been hit. -/
structure Spacecraft.Untried (craft : Spacecraft) : Prop where
  stats : craft.stats = {}
  departed : craft.departed = false
  alive : craft.alive = true
  hull : craft.hull = craft.craftClass.hull

namespace LoadedMission

/-- Every event of a mission is built from its description. -/
theorem mem_buildEvents {names : Names} {labels : List String}
    {descriptors : List EventDescriptor} {event : Event}
    (member : event ∈ (buildEvents names labels descriptors).1) :
    ∃ label descriptor, event = (Event.ofDescriptor names label descriptor).1 := by
  induction labels generalizing descriptors with
  | nil => cases member
  | cons label rest ih =>
    cases descriptors with
    | nil => cases member
    | cons descriptor others =>
      rcases List.mem_cons.mp member with rfl | later
      · exact ⟨label, descriptor, rfl⟩
      · exact ih later

theorem buildEvents_pristine (names : Names) (labels : List String)
    (descriptors : List EventDescriptor) :
    (buildEvents names labels descriptors).1.map Event.pristine =
      (buildEvents names labels descriptors).1 := by
  induction labels generalizing descriptors with
  | nil => rfl
  | cons label rest ih =>
    cases descriptors with
    | nil => rfl
    | cons descriptor others =>
      simp only [buildEvents, List.map_cons, Event.ofDescriptor_pristine, ih]

theorem buildEvents_length (names : Names) (labels : List String)
    (descriptors : List EventDescriptor) (even : labels.length = descriptors.length) :
    (buildEvents names labels descriptors).1.length = descriptors.length := by
  induction labels generalizing descriptors with
  | nil => exact even
  | cons label rest ih =>
    cases descriptors with
    | nil => cases even
    | cons descriptor others =>
      simp only [List.length_cons, Nat.add_right_cancel_iff] at even
      simp only [buildEvents, List.length_cons, ih others even]

/-- A pilot is among those that take part. -/
def Manned (world : World) : Prop := world.piloted.isSome = true → world.listed ≠ []

/-- Loading gives a world teams, and nothing else before there are spacecraft. -/
theorem emptyWorld_same (mission : MissionDescriptor) (settings : Settings) (pools : Pools) :
    ∃ teams, emptyWorld mission settings pools =
      { settings, environment := mission.environment.environment, pools, teams } := by
  have adding (teams : List Team) (world : World) :
      ∃ all, teams.foldl World.addTeam world = { world with teams := all } := by
    induction teams generalizing world with
    | nil => exact ⟨world.teams, rfl⟩
    | cons team rest ih =>
      obtain ⟨some_, added⟩ := world.addTeam_same team
      obtain ⟨all, others⟩ := ih { world with teams := some_ }
      exact ⟨all, by rw [List.foldl_cons, added, others]⟩
  exact adding _ _

theorem teamOf_same (implicitTeams : Bool) (world : World) (team : Option String) :
    ∃ teams, (teamOf implicitTeams world team).2.1 = { world with teams } := by
  unfold teamOf
  repeat' split
  · exact ⟨world.teams, rfl⟩
  · exact ⟨world.teams, rfl⟩
  · exact world.addTeam_same _
  · exact ⟨world.teams, rfl⟩

/-- Spacecraft change a world by themselves, the lists of them and their teams. -/
theorem recruitAll_same (catalog : Catalog) (implicitTeams : Bool) (world : World)
    (descriptors : List CraftDescriptor) :
    ∃ crafts listed hitObjects teams piloted,
      (recruitAll catalog implicitTeams world descriptors).1 =
        { world with crafts, listed, hitObjects, teams, piloted } := by
  induction descriptors generalizing world with
  | nil => exact ⟨_, _, _, _, _, rfl⟩
  | cons descriptor rest ih =>
    obtain ⟨teams, joined⟩ := teamOf_same implicitTeams world descriptor.team
    obtain ⟨crafts, listed, hitObjects, all, piloted, others⟩ :=
      ih (recruit catalog implicitTeams world descriptor).1
    refine ⟨crafts, listed, hitObjects, all, piloted, others.trans ?_⟩
    simp only [recruit, joined]
    rfl

/-- In a loaded world nothing has happened yet. -/
theorem ofDescriptor_same (mission : MissionDescriptor) (catalog : Catalog)
    (settings : Settings) (pools : Pools) :
    ∃ crafts listed hitObjects teams piloted fires,
      (ofDescriptor mission catalog settings pools).world =
        { settings, environment := mission.environment.environment, pools
          crafts, listed, hitObjects, teams, piloted, fires } := by
  obtain ⟨joined, empty⟩ := emptyWorld_same mission settings pools
  obtain ⟨crafts, listed, hitObjects, teams, piloted, recruited⟩ := recruitAll_same catalog
    mission.teams.isEmpty (emptyWorld mission settings pools)
    (CraftEntry.expandAll mission.spacecrafts)
  refine ⟨crafts, listed, hitObjects, teams, piloted,
    Array.replicate mission.events.length 0, ?_⟩
  unfold ofDescriptor
  dsimp only
  rw [recruited, empty]
  rfl

theorem recruit_crafts (catalog : Catalog) (implicitTeams : Bool) (world : World)
    (descriptor : CraftDescriptor) :
    ∃ craft, (recruit catalog implicitTeams world descriptor).1.crafts = world.crafts.push craft ∧
      craft.Untried := by
  obtain ⟨teams, joined⟩ := teamOf_same implicitTeams world descriptor.team
  unfold recruit
  dsimp only
  rw [joined]
  refine ⟨_, rfl, ?_⟩
  split
  · exact ⟨rfl, rfl, rfl, rfl⟩
  · exact ⟨rfl, rfl, rfl, rfl⟩

theorem recruitAll_untried (catalog : Catalog) (implicitTeams : Bool) {world : World}
    (untried : ∀ index craft, world.craft? index = some craft → craft.Untried)
    (descriptors : List CraftDescriptor) :
    ∀ index craft, (recruitAll catalog implicitTeams world descriptors).1.craft? index =
      some craft → craft.Untried := by
  induction descriptors generalizing world with
  | nil => exact untried
  | cons descriptor rest ih =>
    have next : ∀ index craft,
        (recruit catalog implicitTeams world descriptor).1.craft? index = some craft →
          craft.Untried := by
      intro index craft found
      obtain ⟨recruited, crafts, docked⟩ := recruit_crafts catalog implicitTeams world descriptor
      rw [World.craft?, crafts, Array.getElem?_push] at found
      split at found
      · cases found
        exact docked
      · exact untried index craft found
    exact ih next

theorem recruitAll_manned (catalog : Catalog) (implicitTeams : Bool) (world : World)
    (descriptors : List CraftDescriptor) (manned : Manned world) :
    Manned (recruitAll catalog implicitTeams world descriptors).1 := by
  induction descriptors generalizing world with
  | nil => exact manned
  | cons descriptor rest ih =>
    apply ih (recruit catalog implicitTeams world descriptor).1
    intro _
    exact List.append_ne_nil_of_right_ne_nil _ (List.cons_ne_nil _ _)

theorem ofDescriptor_manned (mission : MissionDescriptor) (catalog : Catalog)
    (settings : Settings) (pools : Pools) :
    Manned (ofDescriptor mission catalog settings pools).world := by
  apply recruitAll_manned catalog mission.teams.isEmpty
  intro piloted
  obtain ⟨teams, empty⟩ := emptyWorld_same mission settings pools
  rw [empty] at piloted
  cases piloted

end LoadedMission

namespace Mission

variable {π : Type}

theorem ofDescriptor_pristine (descriptor : MissionDescriptor) (catalog : Catalog)
    (settings : Settings) (pools : Pools) :
    (ofDescriptor (π := π) descriptor catalog settings pools).events.map Event.pristine =
      (ofDescriptor (π := π) descriptor catalog settings pools).events :=
  LoadedMission.buildEvents_pristine _ _ _

/-- A trigger is pristine at the start. -/
theorem ofDescriptor_trigger (descriptor : MissionDescriptor) (catalog : Catalog)
    (settings : Settings) (pools : Pools) {index : Nat} {trigger : Trigger}
    (found : (ofDescriptor (π := π) descriptor catalog settings pools).trigger? index =
      some trigger) : trigger.pristine = trigger := by
  obtain ⟨event, present, rfl⟩ := trigger?_eq_some.mp found
  have built := congrArg (fun events : List Event => events[index]?)
    (ofDescriptor_pristine (π := π) descriptor catalog settings pools)
  rw [List.getElem?_map, present, Option.map_some, Option.some.injEq] at built
  exact congrArg Event.trigger built

/-- No event has fired before the mission starts. -/
theorem ofDescriptor_fires (descriptor : MissionDescriptor) (catalog : Catalog)
    (settings : Settings) (pools : Pools) :
    (ofDescriptor (π := π) descriptor catalog settings pools).world.fires =
      Array.replicate descriptor.events.length 0 := (World.setState_changes _ _).fires (by decide)

theorem ofDescriptor_sized (descriptor : MissionDescriptor) (catalog : Catalog)
    (settings : Settings) (pools : Pools) :
    (ofDescriptor (π := π) descriptor catalog settings pools).Sized := by
  have events : (ofDescriptor (π := π) descriptor catalog settings pools).events.length =
      descriptor.events.length :=
    LoadedMission.buildEvents_length _ _ _ (by simp [LoadedMission.eventNames])
  rw [Sized, ofDescriptor_fires, events, Array.size_replicate]

/-- Nobody has fired, hit, left or been destroyed before the mission starts. -/
theorem ofDescriptor_untried (descriptor : MissionDescriptor) (catalog : Catalog)
    (settings : Settings) (pools : Pools) {index : Nat} {craft : Spacecraft}
    (found : (ofDescriptor (π := π) descriptor catalog settings pools).world.craft? index =
      some craft) : craft.Untried := by
  have nobody : ∀ index craft, (LoadedMission.emptyWorld descriptor settings
      (pools.prefill settings.poolSizes)).craft? index = some craft → craft.Untried := by
    intro index craft found
    obtain ⟨_, empty⟩ := LoadedMission.emptyWorld_same descriptor settings
      (pools.prefill settings.poolSizes)
    rw [empty] at found
    cases found
  refine LoadedMission.recruitAll_untried catalog descriptor.teams.isEmpty nobody
    (CraftEntry.expandAll descriptor.spacecrafts) index craft ?_
  rw [World.craft?, ofDescriptor, World.setState_crafts] at found
  exact found

/-- A mission to which a run of a described mission leads. -/
def Reachable [Pilot π] (mission : Mission π) : Prop :=
  ∃ descriptor catalog settings pools inputs,
    mission = (ofDescriptor descriptor catalog settings pools).play inputs

/-- A mission of one event, which waits for moments and acts once after a delay. -/
def timed (action : String) (delay : Scalar) (moments : List (String × Nat)) : Mission Pursuit :=
  let condition (moment : String × Nat) : ConditionDescriptor :=
    { kind := "time"
      params := .object [("time", .number (.natural moment.2)), ("when", .text moment.1)] }
  let trigger : TriggerDescriptor :=
    { conditions := moments.map condition, oneShot := true, delay }
  ofDescriptor { events := [{ trigger, actions := [{ kind := action }] }] } .standard
    { quality := .low, particles := false } {}

theorem timed_reachable (action : String) (delay : Scalar) (moments : List (String × Nat)) :
    (timed action delay moments).Reachable :=
  ⟨_, _, _, _, [], rfl⟩

variable [Pilot π]

theorem Reachable.take {mission : Mission π} (reachable : mission.Reachable) (input : Input π) :
    (mission.take input).Reachable := by
  obtain ⟨descriptor, catalog, settings, pools, inputs, rfl⟩ := reachable
  refine ⟨descriptor, catalog, settings, pools, inputs ++ [input], ?_⟩
  rw [play_append, play_cons, play_nil]

theorem Reachable.sized {mission : Mission π} (reachable : mission.Reachable) : mission.Sized := by
  obtain ⟨descriptor, catalog, settings, pools, inputs, rfl⟩ := reachable
  exact play_sized _ inputs (ofDescriptor_sized _ _ _ _)

/-- A trigger that is not built right has no conditions. -/
theorem Reachable.conditions_of_disabled {mission : Mission π} (reachable : mission.Reachable)
    {event : Event} (member : event ∈ mission.events) (disabled : event.trigger.disabled = true) :
    event.trigger.conditions = [] := by
  obtain ⟨descriptor, catalog, settings, pools, inputs, rfl⟩ := reachable
  have built : event.pristine ∈ (ofDescriptor (π := π) descriptor catalog settings
      pools).events.map Event.pristine := by
    rw [← play_pristine _ inputs]
    exact List.mem_map_of_mem member
  obtain ⟨old, known, same⟩ := List.mem_map.mp built
  obtain ⟨label, described, rfl⟩ := LoadedMission.mem_buildEvents known
  have triggers := congrArg Event.trigger same
  have off : (Trigger.ofDescriptor _ label described.trigger).1.disabled = true :=
    (congrArg Trigger.disabled triggers).trans disabled
  have empty : (Event.ofDescriptor _ label described).1.trigger.conditions = [] :=
    Trigger.ofDescriptor_disabled _ label described.trigger off
  have conditions := congrArg Trigger.conditions triggers
  dsimp only [Event.pristine, Trigger.pristine] at conditions
  rw [empty, List.map_nil] at conditions
  exact List.map_eq_nil_iff.mp conditions.symm

/-- What holds of every pristine trigger and is kept by every turn holds of every trigger of a
reachable mission. -/
theorem Reachable.triggers {mission : Mission π} (reachable : mission.Reachable)
    (holds : Trigger → Prop) (initial : ∀ trigger : Trigger, holds trigger.pristine)
    (kept : ∀ trigger fires later, holds trigger → trigger.Turn fires later → holds later)
    {index : Nat} {trigger : Trigger} (found : mission.trigger? index = some trigger) :
    holds trigger := by
  obtain ⟨descriptor, catalog, settings, pools, inputs, rfl⟩ := reachable
  refine play_triggers holds kept _ inputs (ofDescriptor_sized _ _ _ _) ?_ index trigger found
  intro place fresh there
  rw [← ofDescriptor_trigger _ _ _ _ there]
  exact initial fresh

end Mission

end Sortie
