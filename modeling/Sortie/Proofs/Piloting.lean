import Sortie.Proofs.Loaded

set_option autoImplicit false

namespace Sortie

/-- Whether the report is on a further spacecraft that asks for the pilot. -/
def ConfigError.contestsPilot : ConfigError → Bool
  | multiplePiloted _ => true
  | _ => false

/-- A computation that does not fail over who is piloted. -/
def Impartial {α : Type} (result : Except ConfigError α) : Prop :=
  ∀ error, result = .error error → error.contestsPilot = false

section Impartial

variable {α β : Type}

theorem impartial_ok (value : α) : Impartial (.ok value : Except ConfigError α) := nofun

theorem impartial_error {error : ConfigError} (other : error.contestsPilot = false) :
    Impartial (.error error : Except ConfigError α) := by
  intro _ same
  cases same
  exact other

theorem Impartial.bind {first : Except ConfigError α} {next : α → Except ConfigError β}
    (impartial : Impartial first) (rest : ∀ value, Impartial (next value)) :
    Impartial (first >>= next) := by
  cases first with
  | error error => exact impartial_error (impartial error rfl)
  | ok value => exact rest value

theorem Impartial.map {first : Except ConfigError α} (impartial : Impartial first) (f : α → β) :
    Impartial (first.map f) := by
  cases first with
  | error error => exact impartial_error (impartial error rfl)
  | ok value => exact impartial_ok (f value)

theorem impartial_mapM {f : α → Except ConfigError β} (each : ∀ item, Impartial (f item))
    (items : List α) : Impartial (items.mapM f) := by
  induction items with
  | nil => exact impartial_ok []
  | cons item rest ih =>
    rw [List.mapM_cons]
    exact (each item).bind fun first => ih.bind fun others => impartial_ok (first :: others)

/-- A check that may refuse to go on. -/
theorem Impartial.check {wrong : Prop} [Decidable wrong] {kind message : String}
    {next : α → Except ConfigError β} {rest : Except ConfigError β} (impartial : Impartial rest) :
    Impartial (if wrong then refuse kind message >>= next else rest) := by
  split
  · exact impartial_error rfl
  · exact impartial

theorem impartial_lookUp {find : α → Except ConfigError β} (each : ∀ name, Impartial (find name))
    (name : Option α) : Impartial (lookUp find name) := by
  cases name with
  | none => exact impartial_ok none
  | some name => exact (each name).map some

theorem impartial_read (kind : String) (reading : Json.Reading α) (params : Json.Value) :
    Impartial (Parameters.read kind reading params) := by
  unfold Parameters.read
  dsimp only
  generalize reading _ = result
  cases result with
  | error message => exact impartial_error rfl
  | ok value => exact impartial_ok value

end Impartial

namespace Names

variable (names : Names)

theorem craft_impartial (id : String) : Impartial (names.craft id) := by
  unfold craft
  split
  · exact impartial_ok _
  · exact impartial_error rfl

theorem team_impartial (id : String) : Impartial (names.team id) := by
  unfold team
  split
  · exact impartial_ok _
  · exact impartial_error rfl

theorem event_impartial (name : String) : Impartial (names.event name) := by
  unfold event
  split
  · exact impartial_ok _
  · exact impartial_error rfl

theorem subjects_impartial (kind : String) (descriptor : SubjectDescriptor) :
    Impartial (names.subjects kind descriptor) := by
  unfold subjects
  split
  · exact impartial_error rfl
  · split
    · exact impartial_error rfl
    · unfold SubjectGroup.validated
      split
      · exact impartial_error rfl
      · exact impartial_ok _

end Names

theorem Timer.ofParams_impartial (names : Names) (params : Json.Value) :
    Impartial (ofParams names params) := by
  refine (impartial_read _ _ _).bind fun p => .check (.check (.check (.check ?_)))
  exact (impartial_lookUp names.event_impartial p.start).bind fun _ => impartial_ok _

namespace Condition

theorem destroyedOfParams_impartial (params : Json.Value) :
    Impartial (destroyedOfParams params) :=
  (impartial_read _ _ _).bind fun _ => .check (impartial_ok _)

theorem countOfParams_impartial (params : Json.Value) : Impartial (countOfParams params) :=
  (impartial_read _ _ _).bind fun _ => impartial_ok _

theorem integrityOfParams_impartial (measure : IntegrityMeasure) (kind : String)
    (params : Json.Value) : Impartial (integrityOfParams measure kind params) :=
  (impartial_read _ _ _).bind fun _ => .check (impartial_ok _)

theorem distanceOfParams_impartial (names : Names) (params : Json.Value) :
    Impartial (distanceOfParams names params) :=
  (impartial_read _ _ _).bind fun p =>
    .check ((names.craft_impartial p.target).bind fun _ => impartial_ok _)

theorem sourceOfParams_impartial (names : Names) (kind : String) (params : Json.Value) :
    Impartial (sourceOfParams names kind params) :=
  (impartial_read _ _ _).bind fun p =>
    impartial_lookUp (fun _ => (names.subjects_impartial kind _).map _) p.source

theorem onTeamOfParams_impartial (names : Names) (params : Json.Value) :
    Impartial (onTeamOfParams names params) :=
  (impartial_read _ _ _).bind fun p => (names.team_impartial p.team).bind fun _ => impartial_ok _

theorem missionStateOfParams_impartial (params : Json.Value) :
    Impartial (missionStateOfParams params) :=
  (impartial_read _ _ _).bind fun _ => .check (impartial_ok _)

theorem ofDescriptor_impartial (names : Names) (descriptor : ConditionDescriptor) :
    Impartial (ofDescriptor names descriptor) := by
  have group := names.subjects_impartial "condition" descriptor.subjects
  have about {kind : Except ConfigError ConditionKind} (impartial : Impartial kind) :
      Impartial (about (names.subjects "condition" descriptor.subjects) kind) :=
    group.bind fun _ => impartial.bind fun _ => impartial_ok _
  have alone {kind : Except ConfigError ConditionKind} (impartial : Impartial kind) :
      Impartial (alone kind) := impartial.map _
  unfold ofDescriptor
  dsimp only
  split
  · exact about (destroyedOfParams_impartial _)
  · exact about (countOfParams_impartial _)
  · exact alone ((Timer.ofParams_impartial names _).map _)
  · exact about (integrityOfParams_impartial _ _ _)
  · exact about (integrityOfParams_impartial _ _ _)
  · exact about (distanceOfParams_impartial names _)
  · exact about ((sourceOfParams_impartial names _ _).map _)
  · exact about ((impartial_read _ _ _).map _)
  · exact about (onTeamOfParams_impartial names _)
  · exact alone (missionStateOfParams_impartial _)
  · exact about ((sourceOfParams_impartial names _ _).map _)
  · exact about ((sourceOfParams_impartial names _ _).map _)
  · exact impartial_error rfl

end Condition

namespace Action

theorem messageOfParams_impartial (names : Names) (params : Json.Value) :
    Impartial (messageOfParams names params) :=
  (impartial_read _ _ _).bind fun p =>
    (impartial_lookUp names.craft_impartial p.source).bind fun _ => impartial_ok _

theorem commandOfParams_impartial (names : Names) (params : Json.Value) :
    Impartial (commandOfParams names params) := by
  refine (impartial_read _ _ _).bind fun order => ?_
  cases order with
  | jump way => exact impartial_ok _
  | target single list priority =>
    exact (impartial_lookUp names.craft_impartial single).bind fun _ =>
      (impartial_mapM names.craft_impartial list).bind fun _ => impartial_ok _
  | reachDistance target least most =>
    exact .check ((names.craft_impartial target).bind fun _ => impartial_ok _)

theorem kindOfDescriptor_impartial (names : Names) (descriptor : ActionDescriptor) :
    Impartial (kindOfDescriptor names descriptor) := by
  unfold kindOfDescriptor
  dsimp only
  split
  · exact impartial_ok _
  · exact impartial_ok _
  · exact messageOfParams_impartial names _
  · exact impartial_ok _
  · split
    · exact impartial_error rfl
    · exact commandOfParams_impartial names _
  · exact (impartial_read _ _ _).map _
  · exact impartial_error rfl

theorem ofDescriptor_impartial (names : Names) (descriptor : ActionDescriptor) :
    Impartial (ofDescriptor names descriptor) := by
  refine (kindOfDescriptor_impartial names descriptor).bind fun kind => ?_
  split
  · exact impartial_ok _
  · exact (names.subjects_impartial _ _).bind fun _ => impartial_ok _

end Action

/-- The reports on further spacecraft that ask for the pilot. -/
def pilotReports (reports : Diagnostics) : Diagnostics := reports.filter ConfigError.contestsPilot

theorem pilotReports_append (first second : Diagnostics) :
    pilotReports (first ++ second) = pilotReports first ++ pilotReports second :=
  List.filter_append ..

theorem Impartial.pilotReports {α : Type} {result : Except ConfigError α}
    (impartial : Impartial result) {error : ConfigError} (failed : result = .error error)
    (others : Diagnostics) : pilotReports (error :: others) = Sortie.pilotReports others :=
  List.filter_cons_of_neg (by rw [impartial error failed]; decide)

theorem Trigger.ofDescriptor_reports (names : Names) (event : String)
    (descriptor : TriggerDescriptor) :
    pilotReports (ofDescriptor names event descriptor).2 = [] := by
  unfold ofDescriptor
  split
  · rfl
  · have impartial := impartial_mapM (Condition.ofDescriptor_impartial names) descriptor.conditions
    split
    · rename_i failed
      exact impartial.pilotReports failed _
    · dsimp only
      split
      · rfl
      · rfl

namespace Event

theorem sortOut_reports {α : Type} {results : List (Except ConfigError α)}
    (impartial : ∀ result ∈ results, Impartial result) :
    pilotReports (sortOut results).2 = [] := by
  induction results with
  | nil => rfl
  | cons result rest ih =>
    have others := ih fun result member => impartial result (List.mem_cons_of_mem _ member)
    cases result with
    | error error =>
      exact ((impartial _ List.mem_cons_self).pilotReports rfl _).trans others
    | ok value => exact others

theorem ofDescriptor_reports (names : Names) (name : String) (descriptor : EventDescriptor) :
    pilotReports (ofDescriptor names name descriptor).2 = [] := by
  have actions : pilotReports
      (sortOut (descriptor.actions.map (Action.ofDescriptor names))).2 = [] := by
    refine sortOut_reports fun result member => ?_
    obtain ⟨action, _, rfl⟩ := List.mem_map.mp member
    exact Action.ofDescriptor_impartial names action
  simp only [ofDescriptor, pilotReports_append, Trigger.ofDescriptor_reports, actions,
    List.append_nil]

end Event

theorem CraftEntry.problemsOfAll_reports (entries : List CraftEntry) :
    pilotReports (problemsOfAll entries) = [] := by
  induction entries with
  | nil => rfl
  | cons entry rest ih =>
    have own : pilotReports entry.problems = [] := by
      unfold problems
      split
      · split
        · rfl
        · rfl
      · split
        · rfl
        · rfl
    rw [problemsOfAll, List.flatMap_cons, pilotReports_append, own, List.nil_append]
    exact ih

namespace LoadedMission

theorem duplicates_reports (earlier names : List String) :
    pilotReports (duplicates earlier names) = [] := by
  induction names generalizing earlier with
  | nil => rfl
  | cons name rest ih =>
    rw [duplicates, pilotReports_append, ih, List.append_nil]
    split
    · rfl
    · rfl

theorem buildEvents_reports (names : Names) (labels : List String)
    (descriptors : List EventDescriptor) :
    pilotReports (buildEvents names labels descriptors).2 = [] := by
  induction labels generalizing descriptors with
  | nil => rfl
  | cons label rest ih =>
    cases descriptors with
    | nil => rfl
    | cons descriptor others =>
      simp only [buildEvents, pilotReports_append, Event.ofDescriptor_reports, ih,
        List.append_nil]

theorem classOf_reports (catalog : Catalog) (name : String) :
    pilotReports (classOf catalog name).2 = [] := by
  have impartial : Impartial (catalog.get name) := by
    unfold Catalog.get
    split
    · exact impartial_ok _
    · exact impartial_error rfl
  unfold classOf
  split
  · rfl
  · rename_i failed
    exact impartial.pilotReports failed []

theorem loadoutOf_reports (craftClass : CraftClass) (name : Option String) :
    pilotReports (loadoutOf craftClass name).2 = [] := by
  have impartial : Impartial (craftClass.loadout name) := by
    unfold CraftClass.loadout
    split
    · exact impartial_ok _
    · split
      · exact impartial_ok _
      · exact impartial_error rfl
  unfold loadoutOf
  split
  · rfl
  · rename_i failed
    split
    · exact impartial.pilotReports failed []
    · exact impartial.pilotReports failed []

theorem teamOf_reports (implicitTeams : Bool) (world : World) (team : Option String) :
    pilotReports (teamOf implicitTeams world team).2.2 = [] := by
  unfold teamOf
  repeat' split
  all_goals rfl

end LoadedMission

/-- What a described spacecraft is called by if it is the one of that index. -/
def CraftDescriptor.idAt (descriptor : CraftDescriptor) (index : Nat) : String :=
  descriptor.label.getD ("spacecraft " ++ toString index)

namespace LoadedMission

/-- One spacecraft is added, by its label or its index, and is piloted if it asks to be and is the
first. -/
theorem recruit_eq (catalog : Catalog) (implicitTeams : Bool) (world : World)
    (descriptor : CraftDescriptor) :
    ∃ teams craft, (recruit catalog implicitTeams world descriptor).1 =
        { world with teams }.addCraft craft ∧
      craft.id = descriptor.idAt world.crafts.size ∧
      craft.piloted = (descriptor.piloted && world.piloted.isNone) := by
  obtain ⟨teams, joined⟩ := teamOf_same implicitTeams world descriptor.team
  unfold recruit
  dsimp only
  rw [joined]
  refine ⟨teams, _, rfl, ?_, ?_⟩
  · split
    · rfl
    · rfl
  · have piloted (id : String) : (pilotedOf { world with teams } id descriptor.piloted).1 =
        (descriptor.piloted && world.piloted.isNone) := by
      unfold pilotedOf
      cases descriptor.piloted <;> cases world.piloted <;> rfl
    split
    · exact piloted _
    · exact piloted _

theorem recruit_reports (catalog : Catalog) (implicitTeams : Bool) (world : World)
    (descriptor : CraftDescriptor) :
    pilotReports (recruit catalog implicitTeams world descriptor).2 =
      if descriptor.piloted && world.piloted.isSome then
        [.multiplePiloted (descriptor.idAt world.crafts.size)]
      else [] := by
  obtain ⟨teams, joined⟩ := teamOf_same implicitTeams world descriptor.team
  unfold recruit
  dsimp only
  rw [joined, pilotReports_append, pilotReports_append, pilotReports_append, classOf_reports,
    loadoutOf_reports, teamOf_reports]
  unfold pilotedOf
  cases descriptor.piloted <;> cases world.piloted <;> rfl

theorem recruit_size (catalog : Catalog) (implicitTeams : Bool) (world : World)
    (descriptor : CraftDescriptor) :
    (recruit catalog implicitTeams world descriptor).1.crafts.size = world.crafts.size + 1 := by
  obtain ⟨teams, craft, same, _⟩ := recruit_eq catalog implicitTeams world descriptor
  rw [same]
  exact Array.size_push craft

theorem recruit_piloted (catalog : Catalog) (implicitTeams : Bool) (world : World)
    (descriptor : CraftDescriptor) :
    (recruit catalog implicitTeams world descriptor).1.piloted =
      world.piloted.or (if descriptor.piloted then some world.crafts.size else none) := by
  obtain ⟨teams, craft, same, _, piloted⟩ := recruit_eq catalog implicitTeams world descriptor
  rw [same]
  show (if craft.piloted && world.piloted.isNone then some world.crafts.size
    else world.piloted) = _
  rw [piloted]
  cases descriptor.piloted <;> cases world.piloted <;> rfl

/-- A world whose spacecraft are those described, in order, and whose pilot flies the first that
asks for it. -/
structure Crewed (world : World) (described : List CraftDescriptor) : Prop where
  size : world.crafts.size = described.length
  first : world.piloted = described.findIdx? (·.piloted)
  crafts : ∀ index craft, world.craft? index = some craft →
    ∃ descriptor, described[index]? = some descriptor ∧ craft.id = descriptor.idAt index ∧
      (craft.piloted = true ↔ world.piloted = some index)

theorem Crewed.piloted_lt {world : World} {described : List CraftDescriptor}
    (crewed : Crewed world described) {index : Nat} (piloted : world.piloted = some index) :
    index < described.length := by
  rw [crewed.first] at piloted
  exact (List.findIdx?_eq_some_iff_getElem.mp piloted).1

theorem Crewed.recruit {world : World} {described : List CraftDescriptor}
    (crewed : Crewed world described) (catalog : Catalog) (implicitTeams : Bool)
    (descriptor : CraftDescriptor) :
    Crewed (recruit catalog implicitTeams world descriptor).1 (described ++ [descriptor]) := by
  have flown := recruit_piloted catalog implicitTeams world descriptor
  refine ⟨?_, ?_, fun index craft found => ?_⟩
  · rw [recruit_size, crewed.size, List.length_append, List.length_singleton]
  · rw [flown, crewed.first, crewed.size, List.findIdx?_append]
    cases asked : descriptor.piloted <;> simp [asked]
  · obtain ⟨teams, fresh, same, id, piloted⟩ :=
      recruit_eq catalog implicitTeams world descriptor
    rw [same] at found
    have pushed : (world.crafts.push fresh)[index]? = some craft := found
    rw [Array.getElem?_push] at pushed
    split at pushed
    · rename_i last
      cases pushed
      refine ⟨descriptor, ?_, last ▸ id, ?_⟩
      · rw [last, crewed.size, List.getElem?_concat_length]
      · rw [flown, piloted, last]
        cases earlier : world.piloted with
        | none => cases descriptor.piloted <;> simp
        | some other =>
          have below := crewed.piloted_lt earlier
          have inside := crewed.size
          simp only [Option.isNone_some, Bool.and_false, Bool.false_eq_true, Option.some_or,
            Option.some.injEq, false_iff]
          omega
    · rename_i earlier
      obtain ⟨old, there, known, agrees⟩ := crewed.crafts index craft pushed
      have inside := (List.getElem?_eq_some_iff.mp there).1
      refine ⟨old, ?_, known, ?_⟩
      · rw [List.getElem?_append_left inside]
        exact there
      · rw [agrees, flown]
        cases world.piloted with
        | none => cases descriptor.piloted <;> simp [Ne.symm earlier]
        | some other => rfl

theorem Crewed.recruitAll {world : World} {described : List CraftDescriptor}
    (crewed : Crewed world described) (catalog : Catalog) (implicitTeams : Bool)
    (descriptors : List CraftDescriptor) :
    Crewed (recruitAll catalog implicitTeams world descriptors).1 (described ++ descriptors) := by
  induction descriptors generalizing world described with
  | nil => rwa [List.append_nil]
  | cons descriptor rest ih =>
    have next := ih (crewed.recruit catalog implicitTeams descriptor)
    rwa [List.append_assoc] at next

/-- The described spacecraft that ask for the pilot, with their indices. -/
def askers (start : Nat) (descriptors : List CraftDescriptor) : List (CraftDescriptor × Nat) :=
  (descriptors.zipIdx start).filter fun entry => entry.1.piloted

/-- While nobody is piloted the first that asks is not reported. -/
theorem recruitAll_reports (catalog : Catalog) (implicitTeams : Bool) (world : World)
    (descriptors : List CraftDescriptor) :
    pilotReports (recruitAll catalog implicitTeams world descriptors).2 =
      ((askers world.crafts.size descriptors).drop (if world.piloted.isSome then 0 else 1)).map
        fun entry => .multiplePiloted (entry.1.idAt entry.2) := by
  induction descriptors generalizing world with
  | nil => simp [recruitAll, askers, pilotReports]
  | cons descriptor rest ih =>
    have next := ih (recruit catalog implicitTeams world descriptor).1
    rw [recruit_size, recruit_piloted] at next
    simp only [recruitAll, pilotReports_append, recruit_reports, next, askers, List.zipIdx_cons,
      List.filter_cons]
    cases descriptor.piloted <;> cases world.piloted <;> simp

theorem length_askers (start : Nat) (descriptors : List CraftDescriptor) :
    (askers start descriptors).length = descriptors.countP (·.piloted) := by
  have named : descriptors.countP (·.piloted) =
      (descriptors.zipIdx start).countP (CraftDescriptor.piloted ∘ Prod.fst) := by
    rw [← List.countP_map, List.zipIdx_map_fst]
  rw [named, List.countP_eq_length_filter]
  rfl

end LoadedMission

namespace CraftEntry

/-- Whether an entry asks for the pilot: for its one spacecraft, or for a member that it has. -/
def asks : CraftEntry → Bool
  | group descriptor => descriptor.pilotedIndex.any fun index => decide (index < descriptor.count)
  | single craft => craft.piloted

/-- However many spacecraft an entry stands for, it asks at most once. -/
theorem expand_asks (entry : CraftEntry) :
    entry.expand.countP (·.piloted) = entry.asks.toNat := by
  cases entry with
  | single craft =>
    have kept : craft.resolve.piloted = craft.piloted := by
      unfold CraftDescriptor.resolve
      split
      · rfl
      · rfl
    rw [expand, asks, List.countP_singleton, kept]
    cases craft.piloted <;> rfl
  | group descriptor =>
    rw [expand, asks, List.countP_map]
    have flags : CraftDescriptor.piloted ∘ descriptor.member =
        fun index => descriptor.pilotedIndex == some index := rfl
    rw [flags]
    cases descriptor.pilotedIndex with
    | none => simp
    | some piloted =>
      have once : (List.range descriptor.count).countP (fun index => some piloted == some index) =
          (List.range descriptor.count).count piloted := by
        refine List.countP_congr fun index _ => ?_
        rw [beq_iff_eq, beq_iff_eq, Option.some.injEq]
        exact eq_comm
      rw [once, List.nodup_range.count]
      by_cases inside : piloted < descriptor.count <;> simp [inside]

theorem expandAll_asks (entries : List CraftEntry) :
    (expandAll entries).countP (·.piloted) = entries.countP asks := by
  induction entries with
  | nil => rfl
  | cons entry rest ih =>
    rw [expandAll, List.flatMap_cons, List.countP_append, expand_asks, List.countP_cons]
    rw [expandAll] at ih
    rw [ih]
    cases entry.asks <;> simp [Nat.add_comm]

end CraftEntry

namespace LoadedMission

theorem emptyWorld_crewed (mission : MissionDescriptor) (settings : Settings) (pools : Pools) :
    Crewed (emptyWorld mission settings pools) [] := by
  obtain ⟨teams, empty⟩ := emptyWorld_same mission settings pools
  rw [empty]
  refine ⟨rfl, rfl, fun index craft found => ?_⟩
  cases found

theorem Crewed.resetFires {world : World} {described : List CraftDescriptor}
    (crewed : Crewed world described) (events : Nat) : Crewed (world.resetFires events) described :=
  ⟨crewed.size, crewed.first, crewed.crafts⟩

theorem ofDescriptor_crewed (mission : MissionDescriptor) (catalog : Catalog)
    (settings : Settings) (pools : Pools) :
    Crewed (ofDescriptor mission catalog settings pools).world
      (CraftEntry.expandAll mission.spacecrafts) := by
  have crewed := (emptyWorld_crewed mission settings pools).recruitAll catalog
    mission.teams.isEmpty (CraftEntry.expandAll mission.spacecrafts)
  rw [List.nil_append] at crewed
  have world : (ofDescriptor mission catalog settings pools).world =
      (recruitAll catalog mission.teams.isEmpty (emptyWorld mission settings pools)
        (CraftEntry.expandAll mission.spacecrafts)).1.resetFires mission.events.length := by
    simp only [ofDescriptor]
  rw [world]
  exact crewed.resetFires mission.events.length

/-- Only the recruiting of spacecraft reports that more than one asks for the pilot. -/
theorem ofDescriptor_reports (mission : MissionDescriptor) (catalog : Catalog)
    (settings : Settings) (pools : Pools) :
    pilotReports (ofDescriptor mission catalog settings pools).diagnostics =
      ((askers 0 (CraftEntry.expandAll mission.spacecrafts)).drop 1).map
        fun entry => .multiplePiloted (entry.1.idAt entry.2) := by
  have empty := emptyWorld_crewed mission settings pools
  have recruited := recruitAll_reports catalog mission.teams.isEmpty
    (emptyWorld mission settings pools) (CraftEntry.expandAll mission.spacecrafts)
  rw [empty.size, empty.first] at recruited
  simp only [ofDescriptor, pilotReports_append, CraftEntry.problemsOfAll_reports,
    duplicates_reports, buildEvents_reports, List.nil_append, List.append_nil]
  exact recruited

/-- Of the described spacecraft the first that asks for the pilot is the only one that is piloted,
in the arena as in the world; every further one is reported by what it is called, in order, and so
there are as many such reports as entries that ask, but for one. -/
theorem first_asker_is_piloted (mission : MissionDescriptor) (catalog : Catalog)
    (settings : Settings) (pools : Pools) :
    let crafts := CraftEntry.expandAll mission.spacecrafts
    let loaded := ofDescriptor mission catalog settings pools
    loaded.world.crafts.size = crafts.length ∧
      loaded.world.piloted = crafts.findIdx? (·.piloted) ∧
      (∀ index craft, loaded.world.craft? index = some craft →
        ∃ descriptor, crafts[index]? = some descriptor ∧ craft.id = descriptor.idAt index ∧
          (craft.piloted = true ↔ loaded.world.piloted = some index)) ∧
      (∀ index place craft other, loaded.world.craft? index = some craft →
        loaded.world.craft? place = some other → craft.piloted = true → other.piloted = true →
          place = index) ∧
      pilotReports loaded.diagnostics =
        ((askers 0 crafts).drop 1).map (fun entry => .multiplePiloted (entry.1.idAt entry.2)) ∧
      (pilotReports loaded.diagnostics).length = mission.spacecrafts.countP CraftEntry.asks - 1 := by
  intro crafts loaded
  have crewed := ofDescriptor_crewed mission catalog settings pools
  have reports := ofDescriptor_reports mission catalog settings pools
  refine ⟨crewed.size, crewed.first, crewed.crafts,
    fun index place craft other found there flown also => ?_, reports, ?_⟩
  · obtain ⟨_, _, _, one⟩ := crewed.crafts index craft found
    obtain ⟨_, _, _, another⟩ := crewed.crafts place other there
    exact Option.some.inj ((another.mp also).symm.trans (one.mp flown))
  · rw [reports, List.length_map, List.length_drop, length_askers, CraftEntry.expandAll_asks]

/-- A pair of which the second is to be piloted, and two more that ask; one is of no known class. -/
def contest : MissionDescriptor where
  name := "contest"
  spacecrafts :=
    [.group { count := 2, squad := some "alpha", craftClass := "interceptor", pilotedIndex := some 1 },
      .single { craftClass := "nonesuch", piloted := true },
      .single { id := some "ace", craftClass := "interceptor", piloted := true }]

/-- The second of the pair is piloted; the others are reported by index and by name. -/
theorem contest_decided :
    let loaded := ofDescriptor contest .standard { quality := .low, particles := false } {}
    loaded.world.piloted = some 1 ∧
      (∀ craft, loaded.world.craft? 1 = some craft → craft.piloted = true) ∧
      pilotReports loaded.diagnostics =
        [.multiplePiloted "spacecraft 2", .multiplePiloted "ace"] := by
  intro loaded
  obtain ⟨_, first, crafts, _, reports, _⟩ := first_asker_is_piloted contest .standard
    { quality := .low, particles := false } {}
  have second : loaded.world.piloted = some 1 := first.trans (by decide +kernel)
  refine ⟨second, fun craft found => ?_, reports.trans (by decide +kernel)⟩
  obtain ⟨_, _, _, agrees⟩ := crafts 1 craft found
  exact agrees.mpr second

end LoadedMission

end Sortie
