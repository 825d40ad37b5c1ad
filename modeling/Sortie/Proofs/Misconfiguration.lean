import Sortie.Proofs.Silence

set_option autoImplicit false

namespace Sortie

section

variable {α β : Type}

/-- The error of a computation that fails. -/
def failure? : Except ConfigError α → Option ConfigError
  | .ok _ => none
  | .error error => some error

/-- A traversal that succeeds succeeds at every item. -/
theorem mapM_all_ok {f : α → Except ConfigError β} {items : List α} {results : List β}
    (built : items.mapM f = .ok results) : ∀ item ∈ items, ∃ value, f item = .ok value := by
  induction items generalizing results with
  | nil => exact nofun
  | cons item rest ih =>
    rw [List.mapM_cons] at built
    obtain ⟨first, head, built⟩ := bind_eq_ok built
    obtain ⟨others, tail, _⟩ := bind_eq_ok built
    intro other member
    rcases List.mem_cons.mp member with rfl | later
    · exact ⟨first, head⟩
    · exact ih tail other later

/-- A traversal that fails does so at the first item that fails, with its error. -/
theorem mapM_first_error {f : α → Except ConfigError β} {items : List α} {error : ConfigError}
    (failed : items.mapM f = .error error) :
    ∃ before item after, items = before ++ item :: after ∧
      (∀ other ∈ before, ∃ value, f other = .ok value) ∧ f item = .error error := by
  induction items with
  | nil => cases failed
  | cons item rest ih =>
    rw [List.mapM_cons] at failed
    cases head : f item with
    | error problem =>
      rw [head] at failed
      cases failed
      exact ⟨[], item, rest, rfl, nofun, head⟩
    | ok first =>
      cases tail : rest.mapM f with
      | ok others =>
        rw [head, tail] at failed
        cases failed
      | error problem =>
        rw [head, tail] at failed
        cases failed
        obtain ⟨before, bad, after, rfl, built, broken⟩ := ih tail
        refine ⟨item :: before, bad, after, rfl, fun other member => ?_, broken⟩
        rcases List.mem_cons.mp member with rfl | earlier
        · exact ⟨first, head⟩
        · exact built other earlier

/-- Results are sorted out by what they are, and keep their order. -/
theorem Event.sortOut_eq (results : List (Except ConfigError α)) :
    sortOut results = (results.filterMap Except.toOption, results.filterMap failure?) := by
  induction results with
  | nil => rfl
  | cons result rest ih =>
    cases result with
    | ok value =>
      rw [sortOut, ih]
      rfl
    | error error =>
      rw [sortOut, ih]
      rfl

end

/-- Whether a description of a condition can be built. -/
def ConditionDescriptor.Builds (names : Names) (descriptor : ConditionDescriptor) : Prop :=
  ∃ condition, Condition.ofDescriptor names descriptor = .ok condition

namespace TriggerDescriptor

/-- Whether there are no conditions although only a one-shot trigger at the start of the mission can
do without. -/
def Lacking (descriptor : TriggerDescriptor) : Prop :=
  descriptor.conditions = [] ∧ ¬ (descriptor.fireWhen = .missionStarts ∧ descriptor.oneShot = true)

/-- What becomes of the trigger of the event called `event`: whether it is disabled, and the reports
on it. -/
inductive Outcome (names : Names) (event : String) (descriptor : TriggerDescriptor) :
    Bool → Diagnostics → Prop where
  | lacking : descriptor.Lacking → Outcome names event descriptor true
      [.invalidTrigger event "a trigger without conditions must be a one-shot missionStarts trigger"]
  /-- The first condition that cannot be built hides all that follow. -/
  | invalid {before after : List ConditionDescriptor} {bad : ConditionDescriptor}
      {error : ConfigError} : descriptor.conditions = before ++ bad :: after →
      (∀ condition ∈ before, condition.Builds names) →
      Condition.ofDescriptor names bad = .error error →
      Outcome names event descriptor true [error, .invalidTrigger event "invalid condition"]
  | undelayed : ¬ descriptor.Lacking →
      (∀ condition ∈ descriptor.conditions, condition.Builds names) →
      0 < descriptor.delay → descriptor.oneShot = false →
      Outcome names event descriptor false
        [.invalidTrigger event "delay requires oneShot, ignoring it"]
  | sound : ¬ descriptor.Lacking →
      (∀ condition ∈ descriptor.conditions, condition.Builds names) →
      (0 < descriptor.delay → descriptor.oneShot = true) → Outcome names event descriptor false []

theorem lacksConditions_iff (descriptor : TriggerDescriptor) :
    Trigger.lacksConditions descriptor = true ↔ descriptor.Lacking := by
  simp only [Trigger.lacksConditions, Lacking, Bool.and_eq_true, List.isEmpty_iff,
    Bool.not_eq_true', Bool.and_eq_false_iff, beq_eq_false_iff_ne, not_and_or, ne_eq,
    Bool.not_eq_true]

theorem ignoresDelay_iff (descriptor : TriggerDescriptor) :
    Trigger.ignoresDelay descriptor = true ↔ 0 < descriptor.delay ∧ descriptor.oneShot = false := by
  simp only [Trigger.ignoresDelay, Bool.and_eq_true, decide_eq_true_eq, Bool.not_eq_true']

theorem outcome (names : Names) (event : String) (descriptor : TriggerDescriptor) :
    descriptor.Outcome names event (Trigger.ofDescriptor names event descriptor).1.disabled
      (Trigger.ofDescriptor names event descriptor).2 := by
  unfold Trigger.ofDescriptor
  split
  · rename_i lacks
    exact .lacking (descriptor.lacksConditions_iff.mp lacks)
  · rename_i lacks
    have enough : ¬ descriptor.Lacking := fun lacking =>
      lacks (descriptor.lacksConditions_iff.mpr lacking)
    cases built : descriptor.conditions.mapM (Condition.ofDescriptor names) with
    | error error =>
      obtain ⟨before, bad, after, conditions, earlier, broken⟩ := mapM_first_error built
      exact .invalid conditions earlier broken
    | ok conditions =>
      have all := mapM_all_ok built
      dsimp only
      split
      · rename_i ignored
        obtain ⟨delayed, repeats⟩ := descriptor.ignoresDelay_iff.mp ignored
        exact .undelayed enough all delayed repeats
      · rename_i counts
        refine .sound enough all fun delayed => ?_
        by_contra repeats
        exact counts (descriptor.ignoresDelay_iff.mpr ⟨delayed, by simpa using repeats⟩)

theorem Outcome.disabled_iff {names : Names} {event : String} {descriptor : TriggerDescriptor}
    {disabled : Bool} {reports : Diagnostics}
    (outcome : descriptor.Outcome names event disabled reports) :
    disabled = true ↔ descriptor.Lacking ∨
      ∃ condition ∈ descriptor.conditions, ¬ condition.Builds names := by
  have intact (enough : ¬ descriptor.Lacking)
      (all : ∀ condition ∈ descriptor.conditions, condition.Builds names) :
      false = true ↔ descriptor.Lacking ∨
        ∃ condition ∈ descriptor.conditions, ¬ condition.Builds names := by
    refine ⟨nofun, ?_⟩
    rintro (lacking | ⟨condition, member, broken⟩)
    · exact absurd lacking enough
    · exact absurd (all condition member) broken
  cases outcome with
  | lacking lacking => exact ⟨fun _ => .inl lacking, fun _ => rfl⟩
  | @invalid _ _ bad _ conditions _ broken =>
    refine ⟨fun _ => .inr ⟨bad, ?_, ?_⟩, fun _ => rfl⟩
    · rw [conditions]
      exact List.mem_append_right _ List.mem_cons_self
    · rintro ⟨condition, built⟩
      rw [broken] at built
      cases built
  | undelayed enough all => exact intact enough all
  | sound enough all => exact intact enough all

end TriggerDescriptor

/-- What becomes of the description of the event with an index, and the reports on it. -/
structure EventDescriptor.Yields (names : Names) (index : Nat) (descriptor : EventDescriptor)
    (event : Event) (reports : Diagnostics) : Prop where
  name : event.name = descriptor.name.getD ("event " ++ toString index)
  disabled : event.trigger.disabled = true ↔ descriptor.trigger.Lacking ∨
    ∃ condition ∈ descriptor.trigger.conditions, ¬ condition.Builds names
  actions : event.actions =
    descriptor.actions.filterMap fun action => (Action.ofDescriptor names action).toOption
  reports : ∃ problems,
    descriptor.trigger.Outcome names event.name event.trigger.disabled problems ∧
      reports = problems ++
        descriptor.actions.filterMap fun action => failure? (Action.ofDescriptor names action)

theorem EventDescriptor.yields (names : Names) (index : Nat) (descriptor : EventDescriptor) :
    let built := Event.ofDescriptor names (descriptor.name.getD ("event " ++ toString index))
      descriptor
    descriptor.Yields names index built.1 built.2 := by
  have outcome := descriptor.trigger.outcome names
    (descriptor.name.getD ("event " ++ toString index))
  refine ⟨rfl, outcome.disabled_iff, ?_, _, outcome, ?_⟩
  · simp only [Event.ofDescriptor, Event.sortOut_eq, List.filterMap_map]
    rfl
  · simp only [Event.ofDescriptor, Event.sortOut_eq, List.filterMap_map]
    rfl

namespace LoadedMission

/-- A report for each name that stands earlier in the list too, in order. -/
def repeated (labels : List String) : Diagnostics :=
  (labels.zipIdx.filter fun entry => entry.1 ∈ labels.take entry.2).map fun entry =>
    .duplicateEvent entry.1

/-- The names before the others are known latest first. -/
theorem duplicates_eq (earlier labels : List String) :
    duplicates earlier labels =
      ((labels.zipIdx earlier.length).filter fun entry =>
        entry.1 ∈ (earlier.reverse ++ labels).take entry.2).map fun entry =>
          .duplicateEvent entry.1 := by
  induction labels generalizing earlier with
  | nil => rfl
  | cons label rest ih =>
    have known : label ∈ (earlier.reverse ++ label :: rest).take earlier.length ↔
        label ∈ earlier := by
      rw [← List.length_reverse, List.take_left, List.mem_reverse]
    have later := ih (label :: earlier)
    rw [List.reverse_cons, List.append_assoc, List.singleton_append, List.length_cons] at later
    rw [duplicates, later, List.zipIdx_cons, List.filter_cons]
    simp only [known, List.contains_iff_mem, decide_eq_true_eq]
    split
    · rfl
    · rfl

theorem duplicates_nil (labels : List String) : duplicates [] labels = repeated labels :=
  duplicates_eq [] labels

/-- The event that a description with an index yields, and the reports on it. -/
def buildAt (names : Names) (index : Nat) (descriptor : EventDescriptor) : Event × Diagnostics :=
  Event.ofDescriptor names (descriptor.name.getD ("event " ++ toString index)) descriptor

/-- Each event is built from its own name and description. -/
theorem buildEvents_zipWith (names : Names) (labels : List String)
    (descriptors : List EventDescriptor) :
    let built := List.zipWith (Event.ofDescriptor names) labels descriptors
    buildEvents names labels descriptors = (built.map Prod.fst, (built.map Prod.snd).flatten) := by
  induction labels generalizing descriptors with
  | nil => rfl
  | cons label others ih =>
    cases descriptors with
    | nil => rfl
    | cons descriptor rest =>
      dsimp only at ih ⊢
      rw [buildEvents, ih rest]
      rfl

theorem buildEvents_mapIdx (names : Names) (descriptors : List EventDescriptor) :
    let built := descriptors.mapIdx (buildAt names)
    buildEvents names (eventNames descriptors) descriptors =
      (built.map Prod.fst, (built.map Prod.snd).flatten) := by
  have each : List.zipWith (Event.ofDescriptor names) (eventNames descriptors) descriptors =
      descriptors.mapIdx (buildAt names) := by
    refine List.ext_getElem? fun index => ?_
    rw [List.getElem?_zipWith, eventNames, List.getElem?_mapIdx, List.getElem?_mapIdx]
    cases descriptors[index]? with
    | none => rfl
    | some descriptor => rfl
  dsimp only
  rw [buildEvents_zipWith, each]

/-- Whatever the rules name is looked up in the loaded world and among the names of the loaded events.
-/
theorem ofDescriptor_built (descriptor : MissionDescriptor) (catalog : Catalog)
    (settings : Settings) (pools : Pools) :
    let loaded := ofDescriptor descriptor catalog settings pools
    let built := descriptor.events.mapIdx
      (buildAt ⟨loaded.world, loaded.events.map Event.name⟩)
    loaded.events = built.map Prod.fst ∧
      loaded.diagnostics =
        (ofDescriptor { descriptor with events := [] } catalog settings pools).diagnostics ++
          repeated (loaded.events.map Event.name) ++ (built.map Prod.snd).flatten := by
  intro loaded built
  have made := buildEvents_mapIdx ⟨loaded.world, eventNames descriptor.events⟩ descriptor.events
  have events : loaded.events = (descriptor.events.mapIdx
      (buildAt ⟨loaded.world, eventNames descriptor.events⟩)).map Prod.fst :=
    congrArg Prod.fst made
  have reports : loaded.diagnostics =
      (ofDescriptor { descriptor with events := [] } catalog settings pools).diagnostics ++
        repeated (eventNames descriptor.events) ++ ((descriptor.events.mapIdx
          (buildAt ⟨loaded.world, eventNames descriptor.events⟩)).map Prod.snd).flatten := by
    have others := congrArg Prod.snd made
    dsimp only at others
    rw [← others, ← duplicates_nil]
    simp only [ofDescriptor, eventNames, List.mapIdx_nil, duplicates, buildEvents, List.append_nil]
    rfl
  have called : loaded.events.map Event.name = eventNames descriptor.events := by
    rw [events, eventNames, List.map_map]
    refine List.ext_getElem? fun index => ?_
    simp only [List.getElem?_map, List.getElem?_mapIdx, Option.map_map]
    rfl
  dsimp only [built]
  rw [called]
  exact ⟨events, reports⟩

end LoadedMission

namespace Mission

variable {π : Type} [Pilot π]

/-- Each description of an event yields an event, in order, with the actions that can be built and a
trigger that is disabled exactly if it lacks conditions or one of them cannot be built. After what
is reported on spacecraft, which is all that is reported without the events, the repeated names are
reported, and then what is wrong with each event in turn. A mission starts with what is so loaded,
its pools filled in advance. In no run of it does an event whose trigger is disabled ever fire, and
nothing of it is ever due or waits; whatever its actions are, the run goes the same. -/
theorem bad_rules_stay_contained (descriptor : MissionDescriptor) (catalog : Catalog)
    (settings : Settings) (pools : Pools) :
    let loaded := LoadedMission.ofDescriptor descriptor catalog settings pools
    let names : Names := ⟨loaded.world, loaded.events.map Event.name⟩
    let crafts := LoadedMission.ofDescriptor { descriptor with events := [] } catalog settings pools
    let filled := LoadedMission.ofDescriptor descriptor catalog settings
      (pools.prefill settings.poolSizes)
    let start : Mission π := ofDescriptor descriptor catalog settings pools
    (∃ reports : List Diagnostics,
      loaded.events.length = descriptor.events.length ∧
      reports.length = descriptor.events.length ∧
      (∀ index (described : EventDescriptor), descriptor.events[index]? = some described →
        ∃ event own, loaded.events[index]? = some event ∧ reports[index]? = some own ∧
          described.Yields names index event own) ∧
      loaded.diagnostics =
        crafts.diagnostics ++ LoadedMission.repeated names.events ++ reports.flatten) ∧
    (start.events = filled.events ∧ start.diagnostics = filled.diagnostics) ∧
    ∀ index event, start.events[index]? = some event → event.trigger.disabled = true →
      ∀ inputs,
        let mission := start.play inputs
        mission.world.fireCount index = 0 ∧
        (∀ dt, mission.fires dt index = false ∧
          ∀ place ∈ mission.duePlaces dt, place.event ≠ index) ∧
        (∀ queued ∈ mission.world.queue, queued.place.event ≠ index) ∧
        ∀ actions, (start.refit index actions).play inputs = mission.refit index actions := by
  intro loaded names crafts filled start
  refine ⟨?_, ⟨rfl, rfl⟩, ?_⟩
  · obtain ⟨events, reports⟩ :=
      LoadedMission.ofDescriptor_built descriptor catalog settings pools
    refine ⟨_, ?_, ?_, fun index described found => ?_, reports⟩
    · rw [events, List.length_map, List.length_mapIdx]
    · rw [List.length_map, List.length_mapIdx]
    · refine ⟨_, _, ?_, ?_, described.yields names index⟩
      · rw [events, List.getElem?_map, List.getElem?_mapIdx, found]
        rfl
      · rw [List.getElem?_map, List.getElem?_mapIdx, found]
        rfl
  · intro index event found disabled inputs mission
    have quiet : start.Silent index :=
      ofDescriptor_silent descriptor catalog settings pools found disabled
    have silent : mission.Silent index := quiet.play inputs
    exact ⟨silent.unfired, fun dt => ⟨silent.fires dt, silent.due dt⟩, silent.idle,
      fun actions => quiet.play_refit actions inputs⟩

/-- A win that hangs on a condition of an unknown type, a loss without conditions under the same
name, and a message every ten milliseconds with an idle delay and an action of an unknown type. -/
def mishaps : MissionDescriptor where
  name := "mishaps"
  events :=
    [{ name := some "end"
       trigger := { conditions := [{ kind := "teleported" }, { kind := "abducted" }] }
       actions := [{ kind := "win", delay := 5 }] },
      { name := some "end", actions := [{ kind := "lose" }] },
      { trigger :=
          { conditions :=
              [{ kind := "time"
                 params := .object [("time", .number (.natural 10)), ("when", .text "repeat")] }]
            fireWhen := .isTrue
            delay := 5 }
        actions :=
          [{ kind := "dance" },
            { kind := "message", params := .object [("text", .text "on and on")] }] }]

def mishap : Mission Pursuit :=
  ofDescriptor mishaps .standard { quality := .low, particles := false } {}

/-- The first of the bad conditions hides the second. The third event goes on with what is left of
it; neither of the others ends the mission, whatever they would do. -/
theorem mishaps_contained :
    let loaded := LoadedMission.ofDescriptor mishaps .standard
      { quality := .low, particles := false } {}
    let inputs : List (Input Pursuit) := [.tick 16, .reports, .tick 16]
    let mission := mishap.play inputs
    (∃ described event own, mishaps.events[0]? = some described ∧
      loaded.events[0]? = some event ∧
      described.Yields ⟨loaded.world, loaded.events.map Event.name⟩ 0 event own) ∧
    loaded.diagnostics =
      [.duplicateEvent "end", .unknownConditionType "teleported",
        .invalidTrigger "end" "invalid condition",
        .invalidTrigger "end"
          "a trigger without conditions must be a one-shot missionStarts trigger",
        .invalidTrigger "event 2" "delay requires oneShot, ignoring it",
        .unknownActionType "dance"] ∧
    mishap.events.map (fun event => event.actions.map Action.typeName) =
      [["win"], ["lose"], ["message"]] ∧
    (∃ event, mishap.events[0]? = some event ∧ event.trigger.disabled = true) ∧
    mission.world.fireCount 0 = 0 ∧ mission.world.fireCount 2 = 2 ∧
    mission.state = .inProgress ∧
    (mishap.refit 0 []).play inputs = mission.refit 0 [] := by
  intro loaded inputs mission
  obtain ⟨⟨reports, _, _, yields, _⟩, _, silent⟩ := bad_rules_stay_contained (π := Pursuit) mishaps
    .standard { quality := .low, particles := false } {}
  have off : (mishap.events[0]?).any (fun event => event.trigger.disabled) = true := by
    decide +kernel
  obtain ⟨event, found, disabled⟩ := (Option.any_eq_true _ _).mp off
  obtain ⟨unfired, _, _, same⟩ := silent 0 event found disabled inputs
  have open_ : mission.world.fireCount 2 = 2 ∧ mission.state = .inProgress := by decide +kernel
  obtain ⟨first, own, there, _, yielded⟩ := yields 0 _ rfl
  exact ⟨⟨_, first, own, rfl, there, yielded⟩, by decide +kernel, by decide +kernel,
    ⟨event, found, disabled⟩, unfired, open_.1, open_.2, same []⟩

end Mission

end Sortie
