import Sortie.Proofs.Conditions
import Sortie.Proofs.NoticeHistory

set_option autoImplicit false

namespace Sortie

namespace SubjectGroup

/-- The spacecraft of the group in the order of the arena, listed or not. -/
def roster (group : SubjectGroup) (world : World) : List Nat :=
  (List.range world.crafts.size).filter (group.hasIndex world)

/-- The group with the roster as its members. -/
def enrol (group : SubjectGroup) (world : World) : SubjectGroup :=
  { group with resolved := some (group.roster world) }

theorem roster_of_ages (group : SubjectGroup) {before after : World} (ages : before.Ages after) :
    group.roster after = group.roster before := by
  have same (index : Nat) : group.hasIndex after index = group.hasIndex before index :=
    ages.any_craft (fun _ _ grown => describes_of_ages grown _) index
  rw [roster, roster, ages.size, funext same]

end SubjectGroup

namespace World

/-- Whether all spacecraft of the arena are listed. -/
def Whole (world : World) : Prop := world.listed = List.range world.crafts.size

/-- A later world in which all are still listed. -/
structure Shows (home world : World) : Prop where
  ages : home.Ages world
  whole : world.Whole

theorem Shows.later {home before after : World} (shows_ : home.Shows before)
    (ages : before.Ages after) (listed : after.listed = before.listed) : home.Shows after := by
  refine ⟨shows_.ages.trans ages, ?_⟩
  rw [Whole, listed, ages.size]
  exact shows_.whole

/-- Where all are listed, a group is resolved to its roster. -/
theorem Shows.resolve {home world : World} (shows_ : home.Shows world) {group : SubjectGroup}
    (unknown : group.resolved = none) : group.resolve world = group.enrol home := by
  have listed : world.listed = List.range world.crafts.size := shows_.whole
  simp only [SubjectGroup.resolve, unknown, SubjectGroup.reload, SubjectGroup.current, listed]
  rw [SubjectGroup.enrol, ← group.roster_of_ages shows_.ages]
  rfl

end World

namespace Condition

/-- Whether the condition names its subjects when it is looked at. -/
def isRostered (condition : Condition) : Bool :=
  match condition.kind with
  | .destroyed _ | .count _ _ | .integrity _ _ _ | .distance _ _ _ | .away _ | .onTeam _ => true
  | .time _ | .hit _ _ | .missionState _ | .getsTargeted _ _ | .isTargeted _ => false

theorem isRostered_pristine (condition : Condition) :
    condition.pristine.isRostered = condition.isRostered := by
  cases condition with
  | mk kind subjects lastSatisfied impossible => cases kind <;> rfl

theorem isRostered_of_pristine {before after : Condition}
    (same : after.pristine = before.pristine) : after.isRostered = before.isRostered := by
  rw [← after.isRostered_pristine, same, before.isRostered_pristine]

/-- What a look or a question does to the subjects. -/
def Musters (world : World) (before after : Condition) : Prop :=
  after.subjects = before.subjects ∨ after.subjects = before.subjects.resolve world

theorem Musters.trans {world : World} {first second third : Condition}
    (early : first.Musters world second) (late : second.Musters world third) :
    first.Musters world third := by
  rcases early with same | resolved
  · rcases late with still | later
    · exact .inl (still.trans same)
    · exact .inr (by rw [later, same])
  · rcases late with still | later
    · exact .inr (still.trans resolved)
    · exact .inr (by rw [later, resolved, SubjectGroup.resolve_resolve])

theorem evaluate_musters (condition : Condition) (world : World) (dt : Scalar) :
    condition.Musters world (condition.evaluate world dt).2 := by
  unfold evaluate
  split
  case h_5 =>
    split
    · exact .inl rfl
    · exact .inr rfl
  all_goals first | exact .inl rfl | exact .inr rfl

theorem judgeImpossible_musters (condition : Condition) (world : World) :
    condition.Musters world (condition.judgeImpossible world).2 := by
  unfold judgeImpossible
  split
  case h_4 =>
    split
    · exact .inl rfl
    · exact .inr rfl
  case h_5 =>
    split
    · exact .inl rfl
    · exact .inr rfl
  all_goals first | exact .inl rfl | exact .inr rfl

theorem checkImpossible_musters (condition : Condition) (world : World) :
    condition.Musters world (condition.checkImpossible world).2 := by
  unfold checkImpossible
  split
  · exact .inl rfl
  · split
    · exact .inl rfl
    · exact condition.judgeImpossible_musters world

theorem look_musters (condition : Condition) (world : World) (dt : Scalar) :
    condition.Musters world (condition.look world dt).2 := by
  unfold look
  split
  · exact .inl rfl
  · let looked := { (condition.evaluate world dt).2 with
      lastSatisfied := (condition.evaluate world dt).1 }
    have evaluated : condition.Musters world looked := condition.evaluate_musters world dt
    exact evaluated.trans (looked.checkImpossible_musters world)

/-- Whether the condition is a distance to something. -/
def Measures (condition : Condition) (target : Nat) : Prop :=
  ∃ band which, condition.kind = .distance target band which

theorem evaluate_resolves {condition : Condition} (rostered : condition.isRostered = true)
    (apart : ∀ target, ¬ condition.Measures target) (world : World) (dt : Scalar) :
    (condition.evaluate world dt).2 = condition.resolve world := by
  unfold isRostered at rostered
  unfold evaluate
  cases kind : condition.kind with
  | destroyed count => rfl
  | count threshold relation => rfl
  | integrity measure band which => rfl
  | away which => rfl
  | onTeam team => rfl
  | distance target band which => exact absurd ⟨band, which, kind⟩ (apart target)
  | time timer => simp only [kind, Bool.false_eq_true] at rostered
  | hit source edge => simp only [kind, Bool.false_eq_true] at rostered
  | missionState states => simp only [kind, Bool.false_eq_true] at rostered
  | getsTargeted source edge => simp only [kind, Bool.false_eq_true] at rostered
  | isTargeted source => simp only [kind, Bool.false_eq_true] at rostered

/-- A distance to a target that is not gone for good is judged among its subjects. -/
theorem checkImpossible_resolves {condition : Condition} {target : Nat}
    (measures : condition.Measures target) (possible : condition.impossible = false)
    {world : World} (lasting : (world.craft? target).all isGone = false) :
    (condition.checkImpossible world).2.subjects = condition.subjects.resolve world := by
  obtain ⟨band, which, kind⟩ := measures
  simp only [checkImpossible, canBeImpossible, judgeImpossible, kind, possible, lasting,
    Bool.false_eq_true, not_true_eq_false, ↓reduceIte]
  rfl

/-- The first look at a condition names its subjects, even those of a distance to a target that is
not in space yet. -/
theorem look_resolves {condition : Condition} (rostered : condition.isRostered = true)
    (possible : condition.impossible = false) {world : World} (dt : Scalar)
    (lasting : ∀ target, condition.Measures target → (world.craft? target).all isGone = false) :
    (condition.look world dt).2.subjects = condition.subjects.resolve world := by
  let looked := { (condition.evaluate world dt).2 with
    lastSatisfied := (condition.evaluate world dt).1 }
  have last : (condition.look world dt).2 = (looked.checkImpossible world).2 := by
    simp only [look, possible, Bool.false_eq_true, ↓reduceIte]
    rfl
  rw [last]
  by_cases measures : ∃ target, condition.Measures target
  · obtain ⟨target, band, which, kind⟩ := measures
    have still : looked.impossible = false :=
      (condition.evaluate_impossible world dt).trans possible
    have kept : looked.kind = .distance target band which := by
      show (condition.evaluate world dt).2.kind = _
      simp only [evaluate, kind]
      split
      · exact kind
      · exact kind
    rw [checkImpossible_resolves ⟨band, which, kept⟩ still (lasting target ⟨band, which, kind⟩)]
    rcases condition.evaluate_musters world dt with same | resolved
    · exact congrArg (SubjectGroup.resolve · world) same
    · exact (congrArg (SubjectGroup.resolve · world) resolved).trans
        (SubjectGroup.resolve_resolve _ _ _)
  · have evaluated : looked.subjects = condition.subjects.resolve world :=
      congrArg Condition.subjects (evaluate_resolves rostered
        (fun target measured => measures ⟨target, measured⟩) world dt)
    rcases looked.checkImpossible_musters world with same | again
    · exact same.trans evaluated
    · rw [again, evaluated, SubjectGroup.resolve_resolve]

/-- The subjects are named by the roster, or not named yet, and that only if they may be so. -/
def Faithful (home : World) (open_ : Prop) (condition : Condition) : Prop :=
  condition.isRostered = true →
    condition.subjects.resolved = some (condition.subjects.roster home) ∨
      condition.subjects.resolved = none ∧ open_

variable {home world : World} {open_ : Prop}

theorem Faithful.of_musters {before after : Condition} (faithful : before.Faithful home open_)
    (shows_ : open_ → home.Shows world) (musters : before.Musters world after)
    (same : after.pristine = before.pristine) : after.Faithful home open_ := by
  intro rostered
  rw [isRostered_of_pristine same] at rostered
  rcases faithful rostered with known | ⟨unknown, still⟩
  · left
    have kept : after.subjects = before.subjects := by
      rcases musters with same | resolved
      · exact same
      · have settled := Option.isSome_of_eq_some known
        exact resolved.trans (SubjectGroup.resolve_of_isSome settled world)
    rw [kept]
    exact known
  · rcases musters with same | resolved
    · right
      rw [same]
      exact ⟨unknown, still⟩
    · left
      rw [resolved, (shows_ still).resolve unknown]
      rfl

theorem Faithful.resolve {condition : Condition} (faithful : condition.Faithful home open_)
    (shows_ : open_ → home.Shows world) : (condition.resolve world).Faithful home open_ :=
  faithful.of_musters shows_ (.inr rfl) (condition.resolve_pristine world)

theorem Faithful.checkImpossible {condition : Condition}
    (faithful : condition.Faithful home open_) (shows_ : open_ → home.Shows world) :
    (condition.checkImpossible world).2.Faithful home open_ :=
  faithful.of_musters shows_ (condition.checkImpossible_musters world)
    (condition.checkImpossible_asked world).pristine

theorem Faithful.look {condition : Condition} (faithful : condition.Faithful home open_)
    (shows_ : open_ → home.Shows world) (dt : Scalar) :
    (condition.look world dt).2.Faithful home open_ :=
  faithful.of_musters shows_ (condition.look_musters world dt) (condition.look_pristine world dt)

/-- A condition that was never looked at, in a mission whose spacecraft are all there. -/
structure Fresh (home : World) (condition : Condition) : Prop where
  faithful : condition.Faithful home True
  possible : condition.impossible = false
  aims : ∀ target, condition.Measures target → target < home.crafts.size

theorem Fresh.resolve {condition : Condition} (fresh : condition.Fresh home)
    (shows_ : home.Shows world) : (condition.resolve world).Fresh home :=
  ⟨fresh.faithful.resolve fun _ => shows_, fresh.possible, fresh.aims⟩

/-- The first look leaves no condition without its roster. -/
theorem Fresh.look {condition : Condition} (fresh : condition.Fresh home)
    (shows_ : home.Shows world)
    (lasting : ∀ index < home.crafts.size, (world.craft? index).all isGone = false) (dt : Scalar) :
    (condition.look world dt).2.Faithful home False := by
  intro rostered
  rw [isRostered_of_pristine (condition.look_pristine world dt)] at rostered
  left
  rw [look_resolves rostered fresh.possible dt fun target measures =>
    lasting target (fresh.aims target measures)]
  rcases fresh.faithful rostered with known | ⟨unknown, _⟩
  · rw [SubjectGroup.resolve_of_isSome (Option.isSome_of_eq_some known)]
    exact known
  · rw [shows_.resolve unknown]
    rfl

end Condition

namespace Trigger

/-- Whether the trigger looks at its conditions at all. -/
def Watches (trigger : Trigger) : Prop :=
  trigger.disabled = false ∧ trigger.policy ≠ .missionStarts

theorem Watches.of_pristine {before after : Trigger} (watches : after.Watches)
    (same : after.pristine = before.pristine) : before.Watches := by
  have disabled := congrArg Trigger.disabled same
  have policy := congrArg Trigger.policy same
  simp only [pristine] at disabled policy
  rw [Watches, ← disabled, ← policy]
  exact watches

/-- Whether the trigger has not decided yet, or may decide again and again. -/
def Unspent (trigger : Trigger) : Prop :=
  trigger.oneShot = none ∨ trigger.oneShot = some .armed

theorem commit_conditions (trigger : Trigger) : trigger.commit.2.conditions = trigger.conditions := by
  unfold commit
  split
  · rfl
  · split
    · rfl
    · rfl

/-- A step of an unspent trigger that watches its conditions looks at all of them. -/
theorem simulate_conditions {trigger : Trigger} (watches : trigger.Watches)
    (unspent : trigger.Unspent) (world : World) (dt : Scalar) :
    (trigger.simulate world dt).2.conditions = (trigger.looks world dt).map Prod.snd := by
  have considered : (trigger.consider world dt).2.conditions =
      (trigger.looks world dt).map Prod.snd := by
    rw [consider, judge_of_looks watches.2]
    dsimp only
    split
    · rw [commit_conditions]
    · rfl
  rcases unspent with repeating | armed
  · simp only [simulate, watches.1, repeating, Bool.false_eq_true, ↓reduceIte]
    exact considered
  · simp only [simulate, watches.1, armed, Bool.false_eq_true, ↓reduceIte]
    exact considered

end Trigger

theorem Names.craft_lt {names : Names} {id : String} {index : Nat}
    (found : names.craft id = .ok index) : index < names.world.crafts.size := by
  unfold Names.craft at found
  split at found
  · rename_i place there
    cases found
    exact (Array.findIdx?_eq_some_iff_getElem.mp there).1
  · cases found

namespace Condition

theorem about_kind {subjects : Except ConfigError SubjectGroup}
    {kind : Except ConfigError ConditionKind} {condition : Condition}
    (built : about subjects kind = .ok condition) : kind = .ok condition.kind := by
  obtain ⟨members, _, built⟩ := bind_eq_ok built
  obtain ⟨value, made, built⟩ := bind_eq_ok built
  cases built
  exact made

theorem alone_kind {kind : Except ConfigError ConditionKind} {condition : Condition}
    (built : alone kind = .ok condition) : kind = .ok condition.kind := by
  obtain ⟨value, made, rfl⟩ := map_eq_ok built
  exact made

/-- Distances are measured to spacecraft of the mission. -/
theorem ofDescriptor_measures {names : Names} {descriptor : ConditionDescriptor}
    {condition : Condition} (built : ofDescriptor names descriptor = .ok condition) {target : Nat}
    (measures : condition.Measures target) : target < names.world.crafts.size := by
  obtain ⟨band, which, kind⟩ := measures
  unfold ofDescriptor at built
  dsimp only at built
  split at built
  case h_6 =>
    have made := about_kind built
    rw [kind] at made
    obtain ⟨p, _, made⟩ := bind_eq_ok made
    dsimp only at made
    split at made
    · cases made
    · obtain ⟨index, found, made⟩ := bind_eq_ok made
      cases made
      exact Names.craft_lt found
  case h_1 | h_4 | h_5 =>
    have made := about_kind built
    rw [kind] at made
    obtain ⟨p, _, made⟩ := bind_eq_ok made
    dsimp only at made
    split at made <;> cases made
  case h_2 =>
    have made := about_kind built
    rw [kind] at made
    obtain ⟨p, _, made⟩ := bind_eq_ok made
    cases made
  case h_3 =>
    have made := alone_kind built
    rw [kind] at made
    obtain ⟨timer, _, made⟩ := map_eq_ok made
    cases made
  case h_7 | h_8 | h_11 | h_12 =>
    have made := about_kind built
    rw [kind] at made
    obtain ⟨value, _, made⟩ := map_eq_ok made
    cases made
  case h_9 =>
    have made := about_kind built
    rw [kind] at made
    obtain ⟨p, _, made⟩ := bind_eq_ok made
    obtain ⟨team, _, made⟩ := bind_eq_ok made
    cases made
  case h_10 =>
    have made := alone_kind built
    rw [kind] at made
    obtain ⟨p, _, made⟩ := bind_eq_ok made
    dsimp only at made
    split at made <;> cases made
  case h_13 => cases built

end Condition

theorem Trigger.ofDescriptor_measures (names : Names) (event : String)
    (descriptor : TriggerDescriptor) {condition : Condition}
    (member : condition ∈ (ofDescriptor names event descriptor).1.conditions) {target : Nat}
    (measures : condition.Measures target) : target < names.world.crafts.size := by
  unfold ofDescriptor at member
  split at member
  · cases member
  · split at member
    · cases member
    · rename_i conditions built
      obtain ⟨_, _, made⟩ := mapM_mem built condition member
      exact Condition.ofDescriptor_measures made measures

namespace LoadedMission

theorem recruitAll_whole (catalog : Catalog) (implicitTeams : Bool) {world : World}
    (whole : world.Whole) (descriptors : List CraftDescriptor) :
    (recruitAll catalog implicitTeams world descriptors).1.Whole := by
  induction descriptors generalizing world with
  | nil => exact whole
  | cons descriptor rest ih =>
    have next : (recruit catalog implicitTeams world descriptor).1.Whole := by
      obtain ⟨teams, joined⟩ := teamOf_same implicitTeams world descriptor.team
      unfold recruit
      dsimp only
      rw [joined]
      unfold World.Whole World.addCraft
      dsimp only
      rw [Array.size_push, List.range_succ, whole]
    exact ih next

end LoadedMission

namespace Mission

variable {π : Type}

section

variable (descriptor : MissionDescriptor) (catalog : Catalog) (settings : Settings) (pools : Pools)

/-- A mission starts with all its spacecraft listed. -/
theorem ofDescriptor_whole :
    (ofDescriptor (π := π) descriptor catalog settings pools).world.Whole := by
  have recruited : (LoadedMission.recruitAll catalog descriptor.teams.isEmpty
      (LoadedMission.emptyWorld descriptor settings (pools.prefill settings.poolSizes))
      (CraftEntry.expandAll descriptor.spacecrafts)).1.Whole := by
    apply LoadedMission.recruitAll_whole
    obtain ⟨teams, empty⟩ := LoadedMission.emptyWorld_same descriptor settings
      (pools.prefill settings.poolSizes)
    rw [empty]
    rfl
  let loaded := LoadedMission.ofDescriptor descriptor catalog settings
    (pools.prefill settings.poolSizes)
  have kept := (loaded.world.setState_changes (initialState loaded)).proceeds
    Spacecraft.mild_spans (by decide)
  have listed : (ofDescriptor (π := π) descriptor catalog settings pools).world.listed = _ :=
    kept.listed
  have size : (ofDescriptor (π := π) descriptor catalog settings pools).world.crafts.size = _ :=
    kept.size
  rw [World.Whole, listed, size]
  exact recruited

/-- No condition was looked at before a mission starts, and each distance has its target. -/
theorem ofDescriptor_fresh :
    ∀ event ∈ (ofDescriptor (π := π) descriptor catalog settings pools).events,
      ∀ condition ∈ event.trigger.conditions,
        condition.Fresh (ofDescriptor (π := π) descriptor catalog settings pools).world := by
  intro event member condition there
  obtain ⟨index, found⟩ := List.mem_iff_getElem?.mp member
  have fresh := ofDescriptor_trigger (π := π) descriptor catalog settings pools
    (trigger?_eq_some.mpr ⟨event, found, rfl⟩)
  have built := there
  rw [← fresh] at there
  obtain ⟨_, _, rfl⟩ := List.mem_map.mp there
  refine ⟨fun _ => .inr ⟨rfl, trivial⟩, rfl, ?_⟩
  intro target measures
  obtain ⟨label, described, rfl⟩ := LoadedMission.mem_buildEvents member
  have inside := Trigger.ofDescriptor_measures _ label described.trigger built measures
  show target < (World.setState _ _).crafts.size
  rw [World.setState_crafts]
  exact inside

theorem ofDescriptor_unspent {index : Nat} {trigger : Trigger}
    (found : (ofDescriptor (π := π) descriptor catalog settings pools).trigger? index =
      some trigger) : trigger.Unspent := by
  rw [← ofDescriptor_trigger descriptor catalog settings pools found]
  cases shot : trigger.oneShot with
  | none => exact .inl (by simp only [Trigger.pristine, shot, Option.map_none])
  | some state => exact .inr (by simp only [Trigger.pristine, shot, Option.map_some])

end

/-- A mission in which no step was accepted so far. -/
structure Unstarted (loaded mission : Mission π) : Prop where
  world : mission.world = loaded.world
  events : Event.AllAlter (fun old new => old.Fresh loaded.world → new.Fresh loaded.world)
    loaded.events mission.events

/-- Nobody is struck from the list before the events of a step. -/
theorem sight_shows {home : World} {mission : Mission π} (shows_ : home.Shows mission.world)
    (dt : Scalar) (index : Nat) : home.Shows (mission.sight dt index) := by
  have proceeds := (mission.sight_changes dt index).proceeds Spacecraft.mild_spans (by decide)
  exact shows_.later (mission.sight_changes dt index).ages proceeds.listed

/-- Whether the spacecraft of a world are neither destroyed nor gone for good. -/
def Lasting (home world : World) : Prop :=
  ∀ index < home.crafts.size, (world.craft? index).all Condition.isGone = false

theorem Lasting.proceeds {home before after : World} (lasting : Lasting home before)
    (proceeds : World.Proceeds Spacecraft.Mild before after) : Lasting home after := by
  intro index inside
  have still := lasting index inside
  cases found : before.craft? index with
  | none =>
    rw [found] at still
    cases still
  | some craft =>
    obtain ⟨later, there, mild⟩ := proceeds.crafts index craft found
    rw [found, Option.all_some] at still
    rw [there, Option.all_some, Condition.isGone, mild.alive, mild.departed]
    exact still

theorem ofDescriptor_lasting (descriptor : MissionDescriptor) (catalog : Catalog)
    (settings : Settings) (pools : Pools) :
    let home := (ofDescriptor (π := π) descriptor catalog settings pools).world
    Lasting home home := by
  intro home index inside
  have found : home.craft? index = some home.crafts[index] := Array.getElem?_eq_getElem inside
  have untried := ofDescriptor_untried (π := π) descriptor catalog settings pools found
  rw [found, Option.all_some, Condition.isGone, untried.alive, untried.departed]
  rfl

/-- All triggers that watch their conditions have named the rosters of these. -/
def Enrolled (home : World) (mission : Mission π) : Prop :=
  ∀ index trigger, mission.trigger? index = some trigger → trigger.Watches →
    ∀ condition ∈ trigger.conditions, condition.Faithful home False

/-- The first step in which events run names all rosters. -/
theorem Unstarted.runRules {descriptor : MissionDescriptor} {catalog : Catalog}
    {settings : Settings} {pools : Pools} {mission : Mission π}
    (unstarted : (ofDescriptor descriptor catalog settings pools).Unstarted mission)
    (host : mission.authority = true) (dt : Scalar) :
    (mission.runRules dt).Enrolled
      (ofDescriptor (π := π) descriptor catalog settings pools).world := by
  let loaded : Mission π := ofDescriptor descriptor catalog settings pools
  intro index later found watches
  obtain ⟨trigger, there⟩ : ∃ trigger, mission.trigger? index = some trigger := by
    have same := congrArg List.length (mission.runRules_pristine dt)
    rw [List.length_map, List.length_map] at same
    exact trigger?_of_length same found
  have stepped := mission.runRules_sight dt host there
  rw [found, Option.some.injEq] at stepped
  obtain ⟨event, present, rfl⟩ := trigger?_eq_some.mp there
  obtain ⟨old, known, altered⟩ := each_getElem? unstarted.events.flip present
  -- Until now the trigger was only asked: it is as it was built but for its conditions.
  have unspent : event.trigger.Unspent := by
    have built := ofDescriptor_unspent (π := π) descriptor catalog settings pools
      (trigger?_eq_some.mpr ⟨old, known, rfl⟩)
    rw [altered.trigger.rest]
    exact built
  have watching : event.trigger.Watches := by
    have pristine := event.trigger.simulate_pristine (mission.sight dt index) dt
    rw [← stepped] at pristine
    exact watches.of_pristine pristine
  have proceeds := (mission.sight_changes dt index).proceeds Spacecraft.mild_spans (by decide)
  have lasting : Lasting loaded.world (mission.sight dt index) := by
    have start := ofDescriptor_lasting (π := π) descriptor catalog settings pools
    rw [unstarted.world] at proceeds
    exact Lasting.proceeds start proceeds
  have shows_ : loaded.world.Shows (mission.sight dt index) := by
    have start : loaded.world.Shows mission.world := by
      rw [unstarted.world]
      exact ⟨.refl _, ofDescriptor_whole descriptor catalog settings pools⟩
    exact sight_shows start dt index
  intro condition member
  rw [stepped, Trigger.simulate_conditions watching unspent, Trigger.looks, List.map_map] at member
  obtain ⟨before, held, rfl⟩ := List.mem_map.mp member
  obtain ⟨first, built, kept⟩ := each_mem altered.trigger.conditions held
  have fresh := kept (ofDescriptor_fresh descriptor catalog settings pools old
    (List.mem_of_getElem? known) first built)
  exact fresh.look shows_ lasting dt

/-- Rosters that are named are never changed. -/
theorem Enrolled.develop {home : World} {before after : Mission π} (enrolled : before.Enrolled home)
    (developed : Event.AllDevelop
      (fun old new => old.Faithful home False → new.Faithful home False) before.events after.events)
    (same : after.events.map Event.pristine = before.events.map Event.pristine) :
    after.Enrolled home := by
  intro index later found watches
  obtain ⟨event, there, rfl⟩ := trigger?_eq_some.mp found
  obtain ⟨old, known, kept⟩ := each_getElem? developed.flip there
  have pristine : event.trigger.pristine = old.trigger.pristine := by
    have built := congrArg (fun events : List Event => events[index]?) same
    rw [List.getElem?_map, List.getElem?_map, there, known, Option.map_some, Option.map_some,
      Option.some.injEq] at built
    exact congrArg Event.trigger built
  intro condition member
  obtain ⟨former, held, change⟩ := each_mem kept member
  exact change (enrolled index old.trigger (trigger?_eq_some.mpr ⟨old, known, rfl⟩)
    (watches.of_pristine pristine) former held)

theorem Enrolled.runRules {home : World} {mission : Mission π} (enrolled : mission.Enrolled home)
    (dt : Scalar) : (mission.runRules dt).Enrolled home := by
  refine enrolled.develop ?_ (mission.runRules_pristine dt)
  exact mission.runRules_develop (Condition.keeps_spans _) dt
    fun _ _ faithful => faithful.look False.elim dt

/-- Each condition with subjects of each trigger that looks at its conditions has named its
subjects, and these are all spacecraft of the arena that its description fits, in order. -/
def NamesRosters (mission : Mission π) : Prop :=
  ∀ index trigger, mission.trigger? index = some trigger → trigger.disabled = false →
    trigger.policy ≠ .missionStarts → ∀ condition ∈ trigger.conditions,
      condition.isRostered = true →
        condition.subjects.resolved = some (condition.subjects.roster mission.world)

theorem Enrolled.namesRosters {home : World} {mission : Mission π}
    (enrolled : mission.Enrolled home) (ages : home.Ages mission.world) :
    mission.NamesRosters := by
  intro index trigger found enabled policy condition member rostered
  rcases enrolled index trigger found ⟨enabled, policy⟩ condition member rostered with known | lost
  · rw [condition.subjects.roster_of_ages ages]
    exact known
  · exact lost.2.elim

variable [Pilot π]

theorem Unstarted.take {loaded mission : Mission π} (unstarted : loaded.Unstarted mission)
    (whole : loaded.world.Whole) (input : Input π)
    (early : ∀ dt, input = .tick dt → accepts dt = false) :
    loaded.Unstarted (mission.take input) := by
  have spans := Condition.keeps_spans (Condition.Fresh loaded.world)
  have shows_ : loaded.world.Shows mission.world := by
    rw [unstarted.world]
    exact ⟨.refl _, whole⟩
  have named {condition : Condition} (fresh : condition.Fresh loaded.world) :
      (condition.resolve mission.world).Fresh loaded.world := fresh.resolve shows_
  cases input with
  | tick dt =>
    rw [Mission.take, mission.tick_of_not_accepts dt (early dt rfl)]
    exact unstarted
  | reports =>
    have stated := reportAll_alters spans (fun _ => spans.stateText named) mission.objectives
      mission.events
    exact ⟨unstarted.world, unstarted.events.trans spans stated⟩
  | targets =>
    have sought := targetsOfAll_alters spans (fun _ => spans.subjectCrafts named)
      mission.objectives mission.events
    exact ⟨unstarted.world, unstarted.events.trans spans sought⟩
  | authority _ | pilot _ | autopilot _ | intent _ | camera _ =>
    exact ⟨unstarted.world, unstarted.events⟩

theorem Unstarted.play {loaded mission : Mission π} (unstarted : loaded.Unstarted mission)
    (whole : loaded.world.Whole) (inputs : List (Input π))
    (early : ∀ dt, .tick dt ∈ inputs → accepts dt = false) :
    loaded.Unstarted (mission.play inputs) := by
  induction inputs generalizing mission with
  | nil => exact unstarted
  | cons input rest ih =>
    have first := unstarted.take whole input fun dt same => early dt (same ▸ List.mem_cons_self)
    exact ih first fun dt member => early dt (List.mem_cons_of_mem input member)

theorem Enrolled.take {home : World} {mission : Mission π} (enrolled : mission.Enrolled home)
    (input : Input π) : (mission.take input).Enrolled home := by
  refine enrolled.develop ?_ (mission.take_pristine input)
  exact mission.take_develop (Condition.keeps_spans _) input
    (fun dt _ _ faithful => faithful.look False.elim dt)
    (fun _ _ _ faithful => faithful.checkImpossible False.elim)
    (fun _ faithful => faithful.resolve False.elim)

theorem Enrolled.play {home : World} {mission : Mission π} (enrolled : mission.Enrolled home)
    (inputs : List (Input π)) : (mission.play inputs).Enrolled home :=
  play_keeps (Enrolled home) (fun _ input enrolled => enrolled.take input) mission inputs enrolled

/-- The part of a step that follows the rules only asks conditions. -/
theorem Enrolled.tick {home : World} {mission : Mission π} {dt : Scalar}
    (enrolled : (mission.runRules dt).Enrolled home) (accepted : accepts dt = true) :
    (mission.tick dt).Enrolled home := by
  rw [mission.tick_of_accepts dt accepted]
  have advanced : (mission.advance dt).Enrolled home := by
    intro index trigger found
    rw [trigger?, advance, (runCrafts_passive _ dt).events] at found
    exact enrolled index trigger found
  refine advanced.develop ?_ (updateState_rests _).same
  exact (evaluateAll_alters (Condition.keeps_spans _)
    (fun _ faithful => faithful.checkImpossible False.elim) _ _).develop

/-- If events run in the first step that is accepted, then from the end of its events on, in every
run, all rosters are named and complete: they hold whoever was destroyed, has left or was struck
from the list of those that take part. -/
theorem rosters_complete_and_frozen (descriptor : MissionDescriptor) (catalog : Catalog)
    (settings : Settings) (pools : Pools) (before after : List (Input π)) (dt : Scalar)
    (early : ∀ other, .tick other ∈ before → accepts other = false) (accepted : accepts dt = true) :
    let mission : Mission π := (ofDescriptor descriptor catalog settings pools).play before
    mission.authority = true →
      (mission.runRules dt).NamesRosters ∧ ((mission.tick dt).play after).NamesRosters ∧
        ∀ next, (((mission.tick dt).play after).runRules next).NamesRosters := by
  intro mission host
  let loaded : Mission π := ofDescriptor descriptor catalog settings pools
  have start : loaded.Unstarted loaded :=
    ⟨rfl, Event.AllAlter.refl (Condition.keeps_spans _) _⟩
  have unstarted : loaded.Unstarted mission :=
    start.play (ofDescriptor_whole descriptor catalog settings pools) before early
  have ruled : (mission.runRules dt).Enrolled loaded.world := unstarted.runRules host dt
  have played := (ruled.tick accepted).play after
  have young : loaded.world.Ages mission.world := loaded.play_ages before
  have ages : loaded.world.Ages ((mission.tick dt).play after).world :=
    (young.trans (mission.play_ages [.tick dt])).trans ((mission.tick dt).play_ages after)
  have aged := young.trans (mission.runRules_changes dt).ages
  refine ⟨ruled.namesRosters aged, played.namesRosters ages, ?_⟩
  intro next
  exact (played.runRules next).namesRosters (ages.trans (runRules_changes _ next).ages)

/-- A raider jumps out as soon as the mission starts, while an event watches its distance to a base
that is not in space. -/
def vigil : MissionDescriptor :=
  let raider : SubjectDescriptor := { spacecrafts := ["raider"] }
  let leave : ActionDescriptor :=
    { kind := "command"
      subjects := raider
      params := .object [("command", .text "jump"), ("way", .text "out")] }
  let near : ConditionDescriptor :=
    { kind := "distance"
      subjects := raider
      params := .object [("target", .text "base"), ("maxDistance", .number (.natural 500))] }
  { spacecrafts :=
      [.single { id := some "raider", craftClass := "interceptor" },
        .single { id := some "base", craftClass := "interceptor", away := true }]
    events :=
      [{ trigger := { fireWhen := .missionStarts, oneShot := true }, actions := [leave] },
        { trigger := { conditions := [near] } }] }

/-- The raider is struck from the list when it has left, and is still named by the watch. -/
theorem vigil_keeps_roster :
    let start : Mission Pursuit :=
      ofDescriptor vigil .standard { quality := .low, particles := false } {}
    let mission := (start.tick 16).play [.tick 1600, .tick 16]
    accepts 16 = true ∧ start.authority = true ∧ mission.world.listed = [1] ∧
      mission.NamesRosters ∧
      ((mission.trigger? 1).any fun trigger => trigger.conditions.all fun condition =>
        condition.isRostered && condition.subjects.resolved == some [0]) = true := by
  intro start mission
  have accepted : accepts 16 = true := by decide +kernel
  have host : start.authority = true := by decide +kernel
  have early : ∀ other, (.tick other : Input Pursuit) ∈ [] → accepts other = false := by
    intro other member
    cases member
  obtain ⟨_, kept, _⟩ := rosters_complete_and_frozen vigil .standard
    { quality := .low, particles := false } {} [] [.tick 1600, .tick 16] 16 early accepted host
  exact ⟨accepted, host, by decide +kernel, kept, by decide +kernel⟩

end Mission

end Sortie
