import Sortie.Proofs.Completion
import Sortie.Proofs.Decline
import Sortie.Proofs.Enrolment

set_option autoImplicit false

namespace Sortie

variable {home world : World} {open_ : Prop}

theorem Condition.resolve_enrol (home : World) (condition : Condition) (world : World) :
    (condition.resolve world).enrol home = condition.enrol home := by
  unfold Condition.resolve SubjectGroup.resolve
  split
  · rfl
  · rfl

/-- A change that does not show once the rosters are named. -/
def Condition.Tells (home : World) (before after : Condition) : Prop :=
  after.enrol home = before.enrol home

theorem Condition.tells_spans (home : World) : Condition.Spans (Condition.Tells home) :=
  ⟨fun _ => rfl, fun _ _ _ early late => late.trans early⟩

theorem Event.AllAlter.enrol {before after : List Event}
    (altered : AllAlter (Condition.Tells home) before after) :
    after.map (Event.enrol home) = before.map (Event.enrol home) := by
  refine each_map_eq (fun old new alters => ?_) altered
  have conditions := each_map_eq (fun _ _ tells => tells) alters.trigger.conditions
  rw [alters.rest, alters.trigger.rest]
  simp only [Event.enrol, Trigger.enrol, conditions]

/-- Whether the trigger looks at its conditions, if it has some. -/
def Trigger.Attentive (trigger : Trigger) : Prop := trigger.conditions ≠ [] → trigger.Watches

theorem Trigger.Attentive.of_pristine {before after : Trigger} (attentive : before.Attentive)
    (same : after.pristine = before.pristine) : after.Attentive := by
  intro some_
  have conditions := congrArg (fun trigger : Trigger => trigger.conditions.length) same
  dsimp only [pristine] at conditions
  rw [List.length_map, List.length_map] at conditions
  have present : before.conditions ≠ [] := by
    rw [← List.length_pos_iff_ne_nil] at some_ ⊢
    omega
  exact (attentive present).of_pristine same.symm

namespace Mission

variable {π : Type}

/-- The mission with the rosters of all conditions named. -/
def enrol (home : World) (mission : Mission π) : Mission π :=
  { mission with events := mission.events.map (Event.enrol home) }

/-- Missions that are the same once the rosters are named differ in their events at most. -/
theorem eq_of_enrol {first second : Mission π} (same : second.enrol home = first.enrol home) :
    second = { first with events := second.events } :=
  congrArg (fun mission : Mission π => { mission with events := second.events }) same

/-- Whether whoever names subjects now can only name the roster. -/
def Informed (home : World) (mission : Mission π) : Prop :=
  ∃ open_, Event.AllFaithful home open_ mission.events ∧ (open_ → home.Shows mission.world)

theorem Collected.able {mission : Mission π} (collected : mission.Collected) :
    ∀ tracked ∈ mission.objectives, tracked.objective.Able mission.events := by
  intro tracked member index place source found condition present there
  have listed : tracked.objective ∈ Objective.collect mission.events := by
    rw [← collected]
    exact List.mem_map_of_mem member
  obtain ⟨_, _, known, built, able⟩ := Objective.able_of_mem_collect listed source
  rw [present] at known
  cases known
  rw [there] at built
  cases built
  exact able

theorem executeAll_enrol (home : World) (due : List ActionPlace) (events : List Event)
    (world : World) :
    executeAll due (events.map (Event.enrol home)) world =
      Prod.map (List.map (Event.enrol home)) id (executeAll due events world) := by
  induction due generalizing events world with
  | nil => rfl
  | cons place rest ih =>
    rw [executeAll, executeAll, Event.executeAt_enrol]
    exact ih _ _

theorem runDueActions_enrol (home : World) (mission : Mission π) (dt : Scalar) :
    (mission.enrol home).runDueActions dt = (mission.runDueActions dt).enrol home := by
  have acted := executeAll_enrol home (mission.world.takeDue dt).1 mission.events
    (mission.world.takeDue dt).2
  unfold runDueActions
  rw [apply_ite (enrol home)]
  dsimp only [enrol]
  rw [acted]
  rfl

theorem Informed.waited {mission : Mission π} (informed : mission.Informed home) (dt : Scalar) :
    (mission.waited dt).Informed home := by
  obtain ⟨open_, faithful, shows_⟩ := informed
  refine ⟨open_, ?_, fun still => ?_⟩
  · exact (Event.AllDevelop.of_triggers (Condition.keeps_spans _)
      ((mission.advanceTime dt).runDueActions_triggers dt)).holds faithful
  · exact (shows_ still).later (mission.waited_changes dt).ages
      ((mission.waited_changes dt).proceeds Spacecraft.mild_spans (by decide)).listed

theorem Informed.runEvents_enrol {mission : Mission π} (informed : mission.Informed home)
    (dt : Scalar) : (mission.enrol home).runEvents dt = (mission.runEvents dt).enrol home := by
  obtain ⟨open_, faithful, shows_⟩ := informed
  have stepped := Event.simulateAll_enrol dt 0 mission.events faithful shows_
  cases host : mission.authority with
  | true =>
    simp only [runEvents, enrol, host, stepped, ↓reduceIte]
    rfl
  | false =>
    simp only [runEvents, enrol, host, Bool.false_eq_true, ↓reduceIte]

theorem Informed.runRules_enrol {mission : Mission π} (informed : mission.Informed home)
    (dt : Scalar) : (mission.enrol home).runRules dt = (mission.runRules dt).enrol home := by
  have waited : (mission.enrol home).waited dt = (mission.waited dt).enrol home :=
    runDueActions_enrol home (mission.advanceTime dt) dt
  exact (congrArg (runEvents · dt) waited).trans ((informed.waited dt).runEvents_enrol dt)

theorem Informed.updateState_enrol {mission : Mission π} (informed : mission.Informed home) :
    (mission.enrol home).updateState = mission.updateState.enrol home := by
  obtain ⟨open_, faithful, shows_⟩ := informed
  have evaluated : (mission.enrol home).evaluateObjectives =
      mission.evaluateObjectives.enrol home := by
    unfold evaluateObjectives
    dsimp only [enrol]
    rw [evaluateAll_enrol mission.objectives faithful shows_]
    rfl
  unfold updateState
  rw [evaluated]
  rfl

/-- The display gets the same answers whoever has named the rosters. -/
theorem Informed.objectiveReports_enrol {mission : Mission π} (informed : mission.Informed home) :
    (mission.enrol home).objectiveReports.1 = mission.objectiveReports.1 := by
  obtain ⟨open_, faithful, shows_⟩ := informed
  unfold objectiveReports
  dsimp only [enrol]
  rw [reportAll_enrol mission.objectives faithful shows_]
  rfl

theorem Informed.objectiveTargets_enrol {mission : Mission π} (informed : mission.Informed home)
    (collected : mission.Collected) :
    (mission.enrol home).objectiveTargets.1 = mission.objectiveTargets.1 := by
  obtain ⟨open_, faithful, shows_⟩ := informed
  unfold objectiveTargets
  dsimp only [enrol]
  rw [targetsOfAll_enrol mission.objectives collected.able faithful shows_]
  rfl

/-- Whether the input is more than a question of the display. -/
def Input.acts : Input π → Bool
  | .reports | .targets => false
  | .tick _ | .authority _ | .pilot _ | .autopilot _ | .intent _ | .camera _ => true

/-- A mission in which all participants number alike, and whatever subjects are known are rosters.
-/
structure Attending (home : World) (mission : Mission π) : Prop where
  faithful : Event.AllFaithful home True mission.events
  rostered : mission.world.Rostered
  everyone : mission.world.settings.multiActor = true
  ages : home.Ages mission.world

theorem Attending.shows_ {mission : Mission π} (attending : mission.Attending home) :
    home.Shows mission.world :=
  ⟨attending.ages, attending.rostered.everyone attending.everyone⟩

theorem Attending.informed {mission : Mission π} (attending : mission.Attending home) :
    mission.Informed home :=
  ⟨True, attending.faithful, fun _ => attending.shows_⟩

/-- Whether events run in the first step that is accepted, if there is one. -/
def firstStepHosted : Bool → List (Input π) → Bool
  | _, [] => true
  | host, .tick dt :: rest => if accepts dt then host else firstStepHosted host rest
  | _, .authority on :: rest => firstStepHosted on rest
  | host, _ :: rest => firstStepHosted host rest

/-- Questions do not count. -/
theorem firstStepHosted_filter (host : Bool) (inputs : List (Input π)) :
    firstStepHosted host (inputs.filter Input.acts) = firstStepHosted host inputs := by
  induction inputs generalizing host with
  | nil => rfl
  | cons input rest ih =>
    cases input with
    | tick dt =>
      rw [List.filter_cons_of_pos rfl, firstStepHosted, firstStepHosted, ih]
    | authority on | pilot _ | autopilot _ | intent _ | camera _ =>
      rw [List.filter_cons_of_pos rfl]
      exact ih _
    | reports | targets => exact ih host

theorem attentive_of_same {before after : Mission π}
    (attentive : ∀ event ∈ before.events, event.trigger.Attentive)
    (same : after.events.map Event.pristine = before.events.map Event.pristine) :
    ∀ event ∈ after.events, event.trigger.Attentive := by
  intro event member
  have present : event.pristine ∈ before.events.map Event.pristine := by
    rw [← same]
    exact List.mem_map_of_mem member
  obtain ⟨old, known, pristine⟩ := List.mem_map.mp present
  exact (attentive old known).of_pristine (congrArg Event.trigger pristine).symm

/-- A mission in which no trigger that only waits for the start has conditions is attentive. -/
theorem ofDescriptor_attentive (descriptor : MissionDescriptor) (catalog : Catalog)
    (settings : Settings) (pools : Pools)
    (idle : ∀ event ∈ (ofDescriptor (π := π) descriptor catalog settings pools).events,
      event.trigger.policy = .missionStarts → event.trigger.conditions = []) :
    ∀ event ∈ (ofDescriptor (π := π) descriptor catalog settings pools).events,
      event.trigger.Attentive := by
  intro event member some_
  refine ⟨?_, fun policy => some_ (idle event member policy)⟩
  obtain ⟨label, described, rfl⟩ := LoadedMission.mem_buildEvents member
  rw [← Bool.not_eq_true]
  exact fun disabled => some_ (Trigger.ofDescriptor_disabled _ label described.trigger disabled)

theorem Enrolled.faithful {mission : Mission π} (enrolled : mission.Enrolled home)
    (attentive : ∀ event ∈ mission.events, event.trigger.Attentive) :
    Event.AllFaithful home False mission.events := by
  intro event member condition there
  obtain ⟨index, found⟩ := List.mem_iff_getElem?.mp member
  exact enrolled index event.trigger (trigger?_eq_some.mpr ⟨event, found, rfl⟩)
    (attentive event member (List.ne_nil_of_mem there)) condition there

section

variable {descriptor : MissionDescriptor} {catalog : Catalog} {settings : Settings} {pools : Pools}

theorem ofDescriptor_attending (everyone : settings.multiActor = true) :
    (ofDescriptor (π := π) descriptor catalog settings pools).Attending
      (ofDescriptor (π := π) descriptor catalog settings pools).world where
  faithful event member condition there :=
    (ofDescriptor_fresh descriptor catalog settings pools event member condition there).faithful
  rostered := ofDescriptor_rostered descriptor catalog settings pools
  everyone := by
    rw [ofDescriptor_settings]
    exact everyone
  ages := .refl _

theorem Unstarted.informed {mission : Mission π}
    (unstarted : (ofDescriptor descriptor catalog settings pools).Unstarted mission) :
    mission.Informed (ofDescriptor (π := π) descriptor catalog settings pools).world := by
  refine ⟨True, ?_, fun _ => ?_⟩
  · intro event member condition there
    obtain ⟨old, known, altered⟩ := each_mem unstarted.events member
    obtain ⟨first, built, kept⟩ := each_mem altered.trigger.conditions there
    exact (kept (ofDescriptor_fresh descriptor catalog settings pools old known first
      built)).faithful
  · rw [unstarted.world]
    exact ⟨.refl _, ofDescriptor_whole descriptor catalog settings pools⟩

end

variable [Pilot π]

/-- No spacecraft minds the conditions. -/
theorem runCrafts_enrol (home : World) (mission : Mission π) (dt : Scalar) :
    (mission.enrol home).runCrafts dt = (mission.runCrafts dt).enrol home := by
  rw [enrol, enrol, runCrafts_withEvents, (mission.runCrafts_passive dt).events]

/-- Where rosters are named whenever names are, a step does the same whoever has named them. -/
theorem Informed.tick_enrol {mission : Mission π} {dt : Scalar} (accepted : accepts dt = true)
    (before : mission.Informed home) (after : (mission.advance dt).Informed home) :
    (mission.enrol home).tick dt = (mission.tick dt).enrol home := by
  rw [tick_of_accepts _ dt accepted, tick_of_accepts _ dt accepted, ← after.updateState_enrol,
    advance, before.runRules_enrol, runCrafts_enrol]
  rfl

/-- A question changes nothing that shows once the rosters are named. -/
theorem take_question_enrol (home : World) {mission : Mission π} (collected : mission.Collected)
    {input : Input π} (question : input.acts = false) :
    (mission.take input).enrol home = mission.enrol home := by
  have spans := Condition.tells_spans home
  have resolved (condition : Condition) := condition.resolve_enrol home mission.world
  cases input with
  | reports =>
    have stated := (reportAll_alters spans (fun condition => spans.stateText (resolved condition))
      mission.objectives mission.events).enrol
    have problems := reportAll_problems mission.world mission.objectives collected.able
    simp only [take, objectiveReports, enrol, stated, problems, List.append_nil]
  | targets =>
    have named := (targetsOfAll_alters spans
      (fun condition => spans.subjectCrafts (resolved condition)) mission.objectives
      mission.events).enrol
    simp only [take, objectiveTargets, enrol, named]
  | tick _ | authority _ | pilot _ | autopilot _ | intent _ | camera _ => cases question

theorem Informed.take_enrol {mission : Mission π} (informed : mission.Informed home)
    {input : Input π} (acts : input.acts = true)
    (flown : ∀ dt, input = .tick dt → accepts dt = true → (mission.advance dt).Informed home) :
    (mission.enrol home).take input = (mission.take input).enrol home := by
  cases input with
  | tick dt =>
    rw [take, take]
    cases accepted : accepts dt with
    | true => exact informed.tick_enrol accepted (flown dt rfl accepted)
    | false => rw [tick_of_not_accepts _ dt accepted, tick_of_not_accepts _ dt accepted]
  | reports | targets => cases acts
  | authority _ | pilot _ | autopilot _ | intent _ | camera _ => rfl

/-- Whether whoever names subjects in a run can only name the roster, whenever that is. -/
def StaysInformed (home : World) (mission : Mission π) : List (Input π) → Prop
  | [] => mission.Informed home
  | input :: rest =>
    mission.Informed home ∧
      (∀ dt, input = .tick dt → accepts dt = true → (mission.advance dt).Informed home) ∧
      (mission.take input).StaysInformed home rest

theorem StaysInformed.informed {mission : Mission π} {inputs : List (Input π)}
    (informed : mission.StaysInformed home inputs) : (mission.play inputs).Informed home := by
  induction inputs generalizing mission with
  | nil => exact informed
  | cons input rest ih => exact ih informed.2.2

/-- With the rosters named, a run goes as it does without its questions. -/
theorem StaysInformed.play_enrol {mission : Mission π} {inputs : List (Input π)}
    (informed : mission.StaysInformed home inputs) (collected : mission.Collected) :
    (mission.play inputs).enrol home = (mission.enrol home).play (inputs.filter Input.acts) := by
  induction inputs generalizing mission with
  | nil => rfl
  | cons input rest ih =>
    obtain ⟨now, flown, later⟩ := informed
    have next := ih later (mission.take_collected input collected)
    cases acts : input.acts with
    | true =>
      rw [List.filter_cons_of_pos acts, play_cons, play_cons, next, now.take_enrol acts flown]
    | false =>
      have question : ¬ input.acts = true := by rw [acts]; exact Bool.false_ne_true
      rw [List.filter_cons_of_neg question, play_cons, next,
        take_question_enrol home collected acts]

theorem advance_faithful {mission : Mission π}
    (faithful : Event.AllFaithful home open_ mission.events) (dt : Scalar)
    (seen : ∀ event, open_ → home.Shows (mission.sight dt event)) :
    Event.AllFaithful home open_ (mission.advance dt).events := by
  rw [advance, (runCrafts_passive _ dt).events]
  exact (mission.runRules_develop (Condition.keeps_spans _) dt
    fun event _ known => known.look (seen event) dt).holds faithful

/-- Before the state is decided, the world shows who it shows after that. -/
theorem shows_advance {mission : Mission π} {dt : Scalar} (accepted : accepts dt = true)
    (shows_ : home.Shows (mission.tick dt).world) : home.Shows (mission.advance dt).world := by
  rw [mission.tick_world dt accepted, World.setState_eq] at shows_
  exact shows_.later (.of_same rfl rfl) rfl

theorem Attending.later {mission : Mission π} (attending : mission.Attending home)
    (input : Input π) : home.Shows (mission.take input).world := by
  refine ⟨attending.ages.trans (mission.play_ages [input]), ?_⟩
  refine (mission.take_rostered input attending.rostered).everyone ?_
  rw [mission.take_settings input]
  exact attending.everyone

theorem Attending.advance {mission : Mission π} (attending : mission.Attending home) {dt : Scalar}
    (accepted : accepts dt = true) : home.Shows (mission.advance dt).world :=
  shows_advance accepted (attending.later (.tick dt))

theorem Attending.take {mission : Mission π} (attending : mission.Attending home)
    (input : Input π) : (mission.take input).Attending home where
  faithful := by
    have spans := Condition.keeps_spans (Condition.Faithful home True)
    have developed := mission.take_develop spans input
      (fun dt event _ known => known.look (fun _ => sight_shows attending.shows_ dt event) dt)
      (fun _ accepted _ known => known.checkImpossible fun _ => attending.advance accepted)
      (fun _ known => known.resolve fun _ => attending.shows_)
    exact developed.holds attending.faithful
  rostered := mission.take_rostered input attending.rostered
  everyone := by
    rw [mission.take_settings input]
    exact attending.everyone
  ages := attending.ages.trans (mission.play_ages [input])

theorem Attending.staysInformed {mission : Mission π} (attending : mission.Attending home)
    (inputs : List (Input π)) : mission.StaysInformed home inputs := by
  induction inputs generalizing mission with
  | nil => exact attending.informed
  | cons input rest ih =>
    refine ⟨attending.informed, fun dt _ accepted => ?_, ih (attending.take input)⟩
    exact ⟨True, advance_faithful attending.faithful dt fun event _ =>
      sight_shows attending.shows_ dt event, fun _ => attending.advance accepted⟩

theorem named_take {mission : Mission π}
    (named : Event.AllFaithful home False mission.events) (input : Input π) :
    Event.AllFaithful home False (mission.take input).events := by
  have spans := Condition.keeps_spans (Condition.Faithful home False)
  have developed := mission.take_develop spans input
    (fun dt _ _ known => known.look False.elim dt)
    (fun _ _ _ known => known.checkImpossible False.elim)
    (fun _ known => known.resolve False.elim)
  exact developed.holds named

theorem staysInformed_of_named {mission : Mission π}
    (named : Event.AllFaithful home False mission.events) (inputs : List (Input π)) :
    mission.StaysInformed home inputs := by
  induction inputs generalizing mission with
  | nil => exact ⟨False, named, False.elim⟩
  | cons input rest ih =>
    refine ⟨⟨False, named, False.elim⟩, fun dt _ _ => ?_, ih (named_take named input)⟩
    exact ⟨False, advance_faithful named dt fun _ => False.elim, False.elim⟩

theorem firstStepHosted_take (mission : Mission π) {input : Input π} (rest : List (Input π))
    (early : ∀ dt, input = .tick dt → accepts dt = false) :
    firstStepHosted (mission.take input).authority rest =
      firstStepHosted mission.authority (input :: rest) := by
  cases input with
  | tick dt =>
    rw [take, mission.tick_of_not_accepts dt (early dt rfl), firstStepHosted, early dt rfl]
    rfl
  | authority _ | pilot _ | autopilot _ | intent _ | camera _ | reports | targets => rfl

variable {descriptor : MissionDescriptor} {catalog : Catalog} {settings : Settings} {pools : Pools}

theorem Unstarted.staysInformed {mission : Mission π} {inputs : List (Input π)}
    (unstarted : (ofDescriptor descriptor catalog settings pools).Unstarted mission)
    (attentive : ∀ event ∈ mission.events, event.trigger.Attentive)
    (hosted : firstStepHosted mission.authority inputs = true) :
    mission.StaysInformed (ofDescriptor (π := π) descriptor catalog settings pools).world
      inputs := by
  induction inputs generalizing mission with
  | nil => exact unstarted.informed
  | cons input rest ih =>
    by_cases step : ∃ dt, input = .tick dt ∧ accepts dt = true
    · obtain ⟨dt, rfl, accepted⟩ := step
      have host : mission.authority = true := by
        rw [firstStepHosted, accepted] at hosted
        exact hosted
      have ruled := unstarted.runRules host dt
      have named := ruled.faithful (attentive_of_same attentive (mission.runRules_pristine dt))
      have advanced := (mission.runRules dt).runCrafts_passive dt
      have flown : (mission.advance dt).events = (mission.runRules dt).events := advanced.events
      rw [← flown] at named
      refine ⟨unstarted.informed, fun other same _ => ?_, staysInformed_of_named ?_ rest⟩
      · cases same
        exact ⟨False, named, False.elim⟩
      · rw [Mission.take, mission.tick_of_accepts dt accepted]
        exact (evaluateAll_alters (Condition.keeps_spans (Condition.Faithful _ False))
          (fun _ known => known.checkImpossible False.elim) _ _).develop.holds named
    · have early (dt : Scalar) (same : input = .tick dt) : accepts dt = false := by
        rw [← Bool.not_eq_true]
        exact fun accepted => step ⟨dt, same, accepted⟩
      refine ⟨unstarted.informed, fun dt same accepted => absurd ⟨dt, same, accepted⟩ step, ?_⟩
      refine ih ?_ (attentive_of_same attentive (mission.take_pristine input)) ?_
      · exact unstarted.take (ofDescriptor_whole descriptor catalog settings pools) input early
      · rw [mission.firstStepHosted_take rest early]
        exact hosted

omit [Pilot π] in
theorem runRules_diagnostics (mission : Mission π) (dt : Scalar) :
    (mission.runRules dt).diagnostics = mission.diagnostics := by
  have due : ((mission.advanceTime dt).runDueActions dt).diagnostics = mission.diagnostics := by
    unfold runDueActions
    split
    · rfl
    · rfl
  exact due

theorem runCrafts_diagnostics (mission : Mission π) (dt : Scalar) :
    (mission.runCrafts dt).diagnostics = mission.diagnostics := by
  have recentered (mission : Mission π) :
      mission.recenterOrigin.diagnostics = mission.diagnostics := by
    unfold recenterOrigin
    split
    · rfl
    · split
      · rfl
      · rfl
  simp only [runCrafts, recentered, simulateEffects, simulateWeapons, resolveCollisions,
    simulateCrafts]
  rfl

theorem take_diagnostics {mission : Mission π} (collected : mission.Collected) (input : Input π) :
    (mission.take input).diagnostics = mission.diagnostics := by
  cases input with
  | tick dt =>
    rw [take]
    cases accepted : accepts dt with
    | true =>
      have flown : (mission.advance dt).diagnostics = mission.diagnostics := by
        rw [advance, runCrafts_diagnostics, runRules_diagnostics]
      rw [mission.tick_of_accepts dt accepted]
      exact flown
    | false => rw [mission.tick_of_not_accepts dt accepted]
  | reports =>
    have problems := reportAll_problems mission.world mission.objectives collected.able
    simp only [take, objectiveReports, problems, List.append_nil]
  | targets => rfl
  | authority _ | pilot _ | autopilot _ | intent _ | camera _ => rfl

theorem play_diagnostics {mission : Mission π} (collected : mission.Collected)
    (inputs : List (Input π)) : (mission.play inputs).diagnostics = mission.diagnostics := by
  induction inputs generalizing mission with
  | nil => rfl
  | cons input rest ih =>
    exact (ih (mission.take_collected input collected)).trans (take_diagnostics collected input)

/-- The roster is what is named in every run of a mission for many, and in every run in which events
run in the first step, if no trigger that only waits for the start has conditions. -/
theorem ofDescriptor_staysInformed {inputs : List (Input π)}
    (steady : settings.multiActor = true ∨ firstStepHosted true inputs = true ∧
      ∀ event ∈ (ofDescriptor (π := π) descriptor catalog settings pools).events,
        event.trigger.policy = .missionStarts → event.trigger.conditions = []) :
    (ofDescriptor (π := π) descriptor catalog settings pools).StaysInformed
      (ofDescriptor (π := π) descriptor catalog settings pools).world inputs := by
  rcases steady with everyone | ⟨hosted, idle⟩
  · exact (ofDescriptor_attending everyone).staysInformed inputs
  · have unstarted : (ofDescriptor (π := π) descriptor catalog settings pools).Unstarted
        (ofDescriptor descriptor catalog settings pools) :=
      ⟨rfl, Event.AllAlter.refl (Condition.keeps_spans _) _⟩
    exact unstarted.staysInformed
      (ofDescriptor_attentive descriptor catalog settings pools idle) hosted

/-- Two runs that differ in nothing but the questions of the display end alike: the missions differ
at most in which rosters are named, and the display gets the same answers. No question is reported
as a problem. The mission is one for many, or one in which events run in the first step and no
trigger that only waits for the start has conditions. -/
theorem display_leaves_no_trace (descriptor : MissionDescriptor) (catalog : Catalog)
    (settings : Settings) (pools : Pools) (one two : List (Input π))
    (same : two.filter Input.acts = one.filter Input.acts)
    (steady : settings.multiActor = true ∨ firstStepHosted true one = true ∧
      ∀ event ∈ (ofDescriptor (π := π) descriptor catalog settings pools).events,
        event.trigger.policy = .missionStarts → event.trigger.conditions = []) :
    let loaded : Mission π := ofDescriptor descriptor catalog settings pools
    let first := loaded.play one
    let second := loaded.play two
    second = { first with events := second.events } ∧
      second.events.map (Event.enrol loaded.world) = first.events.map (Event.enrol loaded.world) ∧
      second.objectiveReports.1 = first.objectiveReports.1 ∧
      second.objectiveTargets.1 = first.objectiveTargets.1 ∧
      second.score = first.score ∧ second.telemetry = first.telemetry ∧
      second.diagnostics = loaded.diagnostics := by
  intro loaded first second
  have collected : loaded.Collected := ofDescriptor_collected descriptor catalog settings pools
  have hosting : firstStepHosted true two = firstStepHosted true one := by
    rw [← firstStepHosted_filter, same, firstStepHosted_filter]
  have early : loaded.StaysInformed loaded.world one := ofDescriptor_staysInformed steady
  have late : loaded.StaysInformed loaded.world two :=
    ofDescriptor_staysInformed (by rw [hosting]; exact steady)
  have enrolled : second.enrol loaded.world = first.enrol loaded.world := by
    rw [late.play_enrol collected, early.play_enrol collected, same]
  have whole (inputs : List (Input π)) : (loaded.play inputs).Collected :=
    loaded.play_keeps Collected take_collected inputs collected
  have reports : second.objectiveReports.1 = first.objectiveReports.1 := by
    rw [← late.informed.objectiveReports_enrol, enrolled, early.informed.objectiveReports_enrol]
  have targets : second.objectiveTargets.1 = first.objectiveTargets.1 := by
    rw [← late.informed.objectiveTargets_enrol (whole two), enrolled,
      early.informed.objectiveTargets_enrol (whole one)]
  have diagnostics : second.diagnostics = loaded.diagnostics := play_diagnostics collected two
  -- The runs themselves do not matter any more, only that their ends agree.
  clear_value first second
  have equal := eq_of_enrol enrolled
  refine ⟨equal, congrArg Mission.events enrolled, reports, targets, ?_, ?_, diagnostics⟩
  · rw [equal]
    rfl
  · rw [equal]
    rfl

/-- The mission is won when a raider is destroyed, which jumps out as soon as the mission starts. -/
def escape : MissionDescriptor :=
  let raider : SubjectDescriptor := { spacecrafts := ["raider"] }
  let leave : ActionDescriptor :=
    { kind := "command"
      subjects := raider
      params := .object [("command", .text "jump"), ("way", .text "out")] }
  { spacecrafts := [.single { id := some "raider", craftClass := "interceptor" }]
    events :=
      [{ trigger := { fireWhen := .missionStarts, oneShot := true }, actions := [leave] },
        { trigger := { conditions := [{ kind := "destroyed", subjects := raider }] }
          actions := [{ kind := "win" }] }] }

/-- Whether or not the display asks for the raider before it has left, it is told the same when
nobody is listed any more. -/
theorem escape_displayed :
    let settings : Settings := { quality := .low, particles := false }
    let start : Mission Pursuit := ofDescriptor escape .standard settings {}
    let quiet : List (Input Pursuit) := [.tick 16, .tick 1600, .tick 16]
    let curious : List (Input Pursuit) := [.reports, .targets, .tick 16, .tick 1600, .reports,
      .tick 16]
    let first := start.play quiet
    let second := start.play curious
    curious.filter Input.acts = quiet.filter Input.acts ∧ firstStepHosted true quiet = true ∧
      (∀ event ∈ start.events,
        event.trigger.policy = .missionStarts → event.trigger.conditions = []) ∧
      first.world.listed = [] ∧
      first.objectiveReports.1.map ObjectiveReport.stateText = [some "0/1"] ∧
      second.objectiveReports.1 = first.objectiveReports.1 ∧
      second = { first with events := second.events } := by
  intro settings start quiet curious first second
  have hosted : firstStepHosted true quiet = true := by decide +kernel
  have idle : ∀ event ∈ start.events,
      event.trigger.policy = .missionStarts → event.trigger.conditions = [] := by
    intro event member
    have built : start.events.all (fun event =>
        event.trigger.policy != .missionStarts || event.trigger.conditions.isEmpty) = true := by
      decide +kernel
    have known := List.all_eq_true.mp built event member
    intro policy
    simpa [policy] using known
  obtain ⟨equal, _, reports, _⟩ := display_leaves_no_trace escape .standard settings {} quiet
    curious rfl (.inr ⟨hosted, idle⟩)
  exact ⟨rfl, hosted, idle, by decide +kernel, by decide +kernel, reports, equal⟩

end Mission

end Sortie
