import Sortie.Proofs.Rosters

set_option autoImplicit false

namespace Sortie

namespace Condition

/-- The condition with its roster named. -/
def enrol (home : World) (condition : Condition) : Condition :=
  { condition with subjects := condition.subjects.enrol home }

variable {home world : World} {open_ : Prop} {condition : Condition}

/-- Whoever names the subjects of a faithful condition names its roster. -/
theorem Faithful.resolve_eq (faithful : condition.Faithful home open_)
    (shows_ : open_ → home.Shows world) (rostered : condition.isRostered = true) :
    condition.resolve world = condition.enrol home := by
  have subjects : condition.subjects.resolve world = condition.subjects.enrol home := by
    rcases faithful rostered with known | ⟨unknown, still⟩
    · rw [SubjectGroup.resolve_of_isSome (Option.isSome_of_eq_some known), SubjectGroup.enrol,
        ← known]
    · exact (shows_ still).resolve unknown
  rw [Condition.resolve, subjects]
  rfl

/-- The same answer, and the condition with its roster named. -/
abbrev enrolling {α : Type} (home : World) (answer : α × Condition) : α × Condition :=
  Prod.map id (enrol home) answer

theorem Faithful.evaluate_enrol (faithful : condition.Faithful home open_)
    (shows_ : open_ → home.Shows world) (dt : Scalar) :
    (condition.enrol home).evaluate world dt = enrolling home (condition.evaluate world dt) := by
  have same := faithful.resolve_eq shows_
  unfold isRostered at same
  unfold evaluate
  rw [show (condition.enrol home).kind = condition.kind from rfl]
  cases kind : condition.kind with
  | destroyed count | count threshold relation | integrity measure band which | away which
  | onTeam team =>
    rw [kind] at same
    dsimp only
    rw [same rfl]
    rfl
  | distance target band which =>
    rw [kind] at same
    dsimp only
    cases presentTarget? world target with
    | none => rfl
    | some other =>
      dsimp only
      rw [same rfl]
      rfl
  | time timer => rfl
  | hit source edge => rfl
  | missionState states => rfl
  | getsTargeted source edge => rfl
  | isTargeted source => rfl

theorem Faithful.judgeImpossible_enrol (faithful : condition.Faithful home open_)
    (shows_ : open_ → home.Shows world) :
    (condition.enrol home).judgeImpossible world =
      enrolling home (condition.judgeImpossible world) := by
  have same := faithful.resolve_eq shows_
  unfold isRostered at same
  unfold judgeImpossible
  rw [show (condition.enrol home).kind = condition.kind from rfl]
  cases kind : condition.kind with
  | destroyed count | count threshold relation | away which =>
    rw [kind] at same
    dsimp only
    rw [same rfl]
    rfl
  | integrity measure band which =>
    rw [kind] at same
    dsimp only
    cases band.least with
    | none => rfl
    | some least =>
      dsimp only
      rw [same rfl]
      rfl
  | distance target band which =>
    rw [kind] at same
    dsimp only
    rw [same rfl, apply_ite (enrolling home)]
    rfl
  | time timer => rfl
  | hit source edge => rfl
  | onTeam team => rfl
  | missionState states => rfl
  | getsTargeted source edge => rfl
  | isTargeted source => rfl

theorem Faithful.checkImpossible_enrol (faithful : condition.Faithful home open_)
    (shows_ : open_ → home.Shows world) :
    (condition.enrol home).checkImpossible world =
      enrolling home (condition.checkImpossible world) := by
  unfold Condition.checkImpossible
  rw [faithful.judgeImpossible_enrol shows_, apply_ite (enrolling home),
    apply_ite (enrolling home)]
  rfl

theorem Faithful.look_enrol (faithful : condition.Faithful home open_)
    (shows_ : open_ → home.Shows world) (dt : Scalar) :
    (condition.enrol home).look world dt = enrolling home (condition.look world dt) := by
  let looked := { (condition.evaluate world dt).2 with
    lastSatisfied := (condition.evaluate world dt).1 }
  have known : looked.Faithful home open_ :=
    faithful.of_musters shows_ (condition.evaluate_musters world dt)
      (condition.evaluate_pristine world dt)
  have checked : ((looked.enrol home).checkImpossible world).2 =
      (looked.checkImpossible world).2.enrol home :=
    congrArg Prod.snd (known.checkImpossible_enrol shows_)
  unfold Condition.look
  rw [faithful.evaluate_enrol shows_, apply_ite (enrolling home)]
  exact congrArg (ite _ _) (Prod.ext rfl checked)

theorem Faithful.stateText_enrol (faithful : condition.Faithful home open_)
    (shows_ : open_ → home.Shows world) :
    (condition.enrol home).stateText world = enrolling home (condition.stateText world) := by
  have same := faithful.resolve_eq shows_
  unfold isRostered at same
  unfold stateText
  rw [show (condition.enrol home).kind = condition.kind from rfl]
  cases kind : condition.kind with
  | destroyed count | count threshold relation =>
    rw [kind] at same
    dsimp only
    rw [same rfl]
    rfl
  | integrity measure band which =>
    cases measure with
    | hull =>
      rw [kind] at same
      dsimp only
      rw [same rfl]
      rfl
    | shield => rfl
  | distance target band which =>
    rw [kind] at same
    dsimp only
    cases world.craft? target with
    | none => rfl
    | some other =>
      dsimp only
      rw [same rfl]
      rfl
  | time timer => rfl
  | away which => rfl
  | hit source edge => rfl
  | onTeam team => rfl
  | missionState states => rfl
  | getsTargeted source edge => rfl
  | isTargeted source => rfl

theorem Faithful.texts_enrol (faithful : condition.Faithful home open_)
    (shows_ : open_ → home.Shows world) (role : ObjectiveRole) :
    Objective.texts world role (condition.enrol home) =
      enrolling home (Objective.texts world role condition) := by
  unfold Objective.texts
  rw [faithful.stateText_enrol shows_]
  rfl

/-- Of what can be an objective, all that has subjects names its roster. -/
theorem isRostered_of_isObjective (able : condition.isObjective = true) :
    condition.isRostered = true ∨ ∃ timer, condition.kind = .time timer := by
  unfold isObjective at able
  unfold isRostered
  cases kind : condition.kind with
  | time timer => exact .inr ⟨timer, rfl⟩
  | destroyed count | count threshold relation | integrity measure band which
  | distance target band which | away which | onTeam team => exact .inl rfl
  | hit source edge | missionState states | getsTargeted source edge | isTargeted source =>
    rw [kind] at able
    cases able

theorem Faithful.subjectCrafts_enrol (faithful : condition.Faithful home open_)
    (shows_ : open_ → home.Shows world) (able : condition.isObjective = true) :
    (condition.enrol home).subjectCrafts world =
      enrolling home (condition.subjectCrafts world) := by
  have same := faithful.resolve_eq shows_
  unfold subjectCrafts
  rw [show (condition.enrol home).kind = condition.kind from rfl]
  rcases isRostered_of_isObjective able with rostered | ⟨timer, kind⟩
  · rw [same rostered]
    split
    · rfl
    · rfl
    · rfl
  · rw [kind]
    rfl

end Condition

open Condition (enrolling)

variable {home world : World} {open_ : Prop}

namespace Trigger

/-- The trigger with the rosters of its conditions named. -/
def enrol (home : World) (trigger : Trigger) : Trigger :=
  { trigger with conditions := trigger.conditions.map (Condition.enrol home) }

/-- Whether all conditions of the trigger are faithful. -/
def Faithful (home : World) (open_ : Prop) (trigger : Trigger) : Prop :=
  ∀ condition ∈ trigger.conditions, condition.Faithful home open_

variable {trigger : Trigger}

theorem Faithful.judge_enrol (faithful : trigger.Faithful home open_)
    (shows_ : open_ → home.Shows world) (dt : Scalar) :
    (trigger.enrol home).judge world dt = Prod.map id (enrol home) (trigger.judge world dt) := by
  by_cases policy : trigger.policy = .missionStarts
  · simp only [judge, policy, ↓reduceIte, enrol]
    rfl
  · have looks : (trigger.enrol home).looks world dt =
        (trigger.looks world dt).map (enrolling home) := by
      simp only [Trigger.looks, enrol, List.map_map]
      exact List.map_congr_left fun condition member =>
        (faithful condition member).look_enrol shows_ dt
    have answers : ((trigger.looks world dt).map (enrolling home)).map Prod.fst =
        (trigger.looks world dt).map Prod.fst := List.map_map
    have conditions : ((trigger.looks world dt).map (enrolling home)).map Prod.snd =
        ((trigger.looks world dt).map Prod.snd).map (Condition.enrol home) := by
      rw [List.map_map, List.map_map]
      rfl
    have steady : (trigger.enrol home).policy ≠ .missionStarts := policy
    rw [judge_of_looks policy, judge_of_looks steady, looks, answers, conditions]
    rfl

theorem commit_enrol (home : World) (trigger : Trigger) :
    (trigger.enrol home).commit = Prod.map id (enrol home) trigger.commit := by
  unfold commit
  rw [show (trigger.enrol home).oneShot = trigger.oneShot from rfl]
  cases trigger.oneShot with
  | none => rfl
  | some shot =>
    dsimp only
    rw [apply_ite (Prod.map id (enrol home))]
    rfl

theorem Faithful.simulate_enrol (faithful : trigger.Faithful home open_)
    (shows_ : open_ → home.Shows world) (dt : Scalar) :
    (trigger.enrol home).simulate world dt =
      Prod.map id (enrol home) (trigger.simulate world dt) := by
  have considered : (trigger.enrol home).consider world dt =
      Prod.map id (enrol home) (trigger.consider world dt) := by
    unfold consider
    rw [faithful.judge_enrol shows_, apply_ite (Prod.map id (enrol home)), ← commit_enrol]
    rfl
  unfold simulate
  rw [show (trigger.enrol home).oneShot = trigger.oneShot from rfl,
    apply_ite (Prod.map id (enrol home))]
  refine congrArg (ite _ _) ?_
  cases trigger.oneShot with
  | none => exact considered
  | some shot =>
    cases shot with
    | armed => exact considered
    | fired => rfl
    | counting remaining =>
      dsimp only
      rw [apply_ite (Prod.map id (enrol home))]
      rfl

theorem askUntil_enrol (verdict : Bool) (shows_ : open_ → home.Shows world)
    (conditions : List Condition)
    (faithful : ∀ condition ∈ conditions, condition.Faithful home open_) :
    askUntil verdict world (conditions.map (Condition.enrol home)) =
      Prod.map id (List.map (Condition.enrol home)) (askUntil verdict world conditions) := by
  induction conditions with
  | nil => rfl
  | cons condition rest ih =>
    have later := ih fun other member => faithful other (List.mem_cons_of_mem condition member)
    rw [List.map_cons, askUntil, askUntil,
      (faithful condition List.mem_cons_self).checkImpossible_enrol shows_, later,
      apply_ite (Prod.map id (List.map (Condition.enrol home)))]
    rfl

theorem Faithful.checkImpossible_enrol (faithful : trigger.Faithful home open_)
    (shows_ : open_ → home.Shows world) :
    (trigger.enrol home).checkImpossible world =
      Prod.map id (enrol home) (trigger.checkImpossible world) := by
  have asked := askUntil_enrol (trigger.required == .all) shows_ trigger.conditions faithful
  unfold Trigger.checkImpossible
  rw [show (trigger.enrol home).conditions = trigger.conditions.map (Condition.enrol home) from rfl,
    show (trigger.enrol home).required = trigger.required from rfl, asked, List.isEmpty_map,
    apply_ite (Prod.map id (enrol home))]
  rfl

end Trigger

namespace Event

/-- The event with the rosters of its conditions named. -/
def enrol (home : World) (event : Event) : Event :=
  { event with trigger := event.trigger.enrol home }

/-- Whether all conditions of the events are faithful. -/
def AllFaithful (home : World) (open_ : Prop) (events : List Event) : Prop :=
  ∀ event ∈ events, event.trigger.Faithful home open_

theorem simulate_enrol {event : Event} (faithful : event.trigger.Faithful home open_)
    (shows_ : open_ → home.Shows world) (index : Nat) (dt : Scalar) :
    (event.enrol home).simulate index world dt =
      Prod.map (enrol home) id (event.simulate index world dt) := by
  unfold simulate
  rw [show (event.enrol home).trigger = event.trigger.enrol home from rfl,
    faithful.simulate_enrol shows_, apply_ite (Prod.map (enrol home) id)]
  rfl

theorem simulateAll_enrol (dt : Scalar) (index : Nat) (events : List Event)
    (faithful : AllFaithful home open_ events) (shows_ : open_ → home.Shows world) :
    simulateAll dt index (events.map (enrol home)) world =
      Prod.map (List.map (enrol home)) id (simulateAll dt index events world) := by
  induction events generalizing index world with
  | nil => rfl
  | cons event rest ih =>
    have next (still : open_) : home.Shows (event.simulate index world dt).2 :=
      (shows_ still).later (simulateAll_changes dt index [event] world).ages
        ((event.simulate_changes index world dt).proceeds Spacecraft.mild_spans (by decide)).listed
    have later := ih (index + 1)
      (fun other member => faithful other (List.mem_cons_of_mem event member)) next
    rw [List.map_cons, simulateAll, simulateAll,
      simulate_enrol (faithful event List.mem_cons_self) shows_]
    dsimp only [Prod.map, id]
    rw [later]
    rfl

/-- What actions do does not depend on conditions. -/
theorem executeAt_enrol (home : World) (events : List Event) (place : ActionPlace)
    (world : World) :
    executeAt (events.map (enrol home)) place world =
      Prod.map (List.map (enrol home)) id (executeAt events place world) := by
  unfold executeAt
  rw [List.getElem?_map]
  cases events[place.event]? with
  | none => rfl
  | some event =>
    dsimp only [Option.map_some]
    rw [show (event.enrol home).actions = event.actions from rfl]
    cases event.actions[place.action]? with
    | none => rfl
    | some action =>
      dsimp only [Prod.map]
      rw [List.map_set]
      rfl

theorem askCondition_enrol {α : Type} (events : List Event) (event place : Nat)
    (question : Condition → α × Condition)
    (asked : ∀ found condition, events[event]? = some found →
      found.trigger.conditions[place]? = some condition →
        question (condition.enrol home) = enrolling home (question condition)) :
    askCondition (events.map (enrol home)) event place question =
      Prod.map id (List.map (enrol home)) (askCondition events event place question) := by
  unfold askCondition
  rw [List.getElem?_map]
  cases present : events[event]? with
  | none => rfl
  | some found =>
    dsimp only [Option.map_some]
    rw [show (found.enrol home).trigger.conditions =
      found.trigger.conditions.map (Condition.enrol home) from rfl, List.getElem?_map]
    cases there : found.trigger.conditions[place]? with
    | none => rfl
    | some condition =>
      dsimp only [Option.map_some]
      have conditions : (found.trigger.conditions.map (Condition.enrol home)).set place
          (enrolling home (question condition)).2 =
          (found.trigger.conditions.set place (question condition).2).map
            (Condition.enrol home) := List.map_set.symm
      rw [asked found condition present there]
      dsimp only [Prod.map]
      rw [List.map_set, conditions]
      rfl

theorem askTrigger_enrol {α : Type} (events : List Event) (event : Nat)
    (question : Trigger → α × Trigger)
    (asked : ∀ found, events[event]? = some found →
      question (found.trigger.enrol home) =
        Prod.map id (Trigger.enrol home) (question found.trigger)) :
    askTrigger (events.map (enrol home)) event question =
      Prod.map id (List.map (enrol home)) (askTrigger events event question) := by
  unfold askTrigger
  rw [List.getElem?_map]
  cases present : events[event]? with
  | none => rfl
  | some found =>
    dsimp only [Option.map_some]
    rw [show (found.enrol home).trigger = found.trigger.enrol home from rfl, asked found present]
    dsimp only [Prod.map]
    rw [List.map_set]
    rfl

end Event

namespace Objective

variable {events : List Event}

theorem evaluate_enrol (objective : Objective) (faithful : Event.AllFaithful home open_ events)
    (shows_ : open_ → home.Shows world) :
    objective.evaluate world (events.map (Event.enrol home)) =
      Prod.map id (List.map (Event.enrol home)) (objective.evaluate world events) := by
  unfold evaluate
  cases objective.source with
  | destroyAll => rfl
  | condition event place =>
    have goal := Event.askCondition_enrol events event place (standingOfGoal world)
      fun found condition present there => by
        have known := faithful found (List.mem_of_getElem? present) condition
          (List.mem_of_getElem? there)
        rw [standingOfGoal, known.checkImpossible_enrol shows_]
        rfl
    have threat := Event.askTrigger_enrol events event (standingOfThreat world)
      fun found present => by
        have known := faithful found (List.mem_of_getElem? present)
        rw [standingOfThreat, known.checkImpossible_enrol shows_]
        rfl
    dsimp only
    rw [goal, threat, List.getElem?_map, Option.isNone_map,
      apply_ite (Prod.map id (List.map (Event.enrol home)))]
    cases objective.role with
    | win =>
      dsimp only
      rw [apply_ite (Prod.map id (List.map (Event.enrol home)))]
      rfl
    | lose =>
      dsimp only
      rw [apply_ite (Prod.map id (List.map (Event.enrol home)))]
      rfl

theorem report_enrol (objective : Objective) (status : ObjectiveStatus)
    (faithful : Event.AllFaithful home open_ events) (shows_ : open_ → home.Shows world) :
    objective.report status world (events.map (Event.enrol home)) =
      Prod.map id (Prod.map id (List.map (Event.enrol home)))
        (objective.report status world events) := by
  unfold report
  cases objective.source with
  | destroyAll => rfl
  | condition event place =>
    have asked := Event.askCondition_enrol events event place (texts world objective.role)
      fun found condition present there =>
        (faithful found (List.mem_of_getElem? present) condition
          (List.mem_of_getElem? there)).texts_enrol shows_ objective.role
    dsimp only
    rw [asked]
    obtain ⟨answer, later⟩ := Event.askCondition events event place (texts world objective.role)
    rcases answer with _ | ⟨text | text, state⟩
    · rfl
    · rfl
    · rfl

/-- Whether the condition that the objective is, if it is one, can be put in words. -/
def Able (events : List Event) (objective : Objective) : Prop :=
  ∀ event place, objective.source = .condition event place →
    ∀ found condition, events[event]? = some found →
      found.trigger.conditions[place]? = some condition → condition.isObjective = true

theorem Able.of_rest {objective : Objective} {before after : List Event}
    (able : objective.Able before) (rest : Event.AllRest before after) : objective.Able after := by
  intro event place source later condition present there
  obtain ⟨found, known, rests⟩ := each_getElem? (R := fun new old => Event.Rests old new) rest.flip
    present
  obtain ⟨former, built, asked⟩ := each_getElem? (R := fun new old => Condition.Asked old new)
    rests.trigger.conditions.flip there
  rw [← condition.isObjective_pristine, asked.pristine, former.isObjective_pristine]
  exact able event place source found former known built

theorem targets_enrol {objective : Objective} (able : objective.Able events)
    (faithful : Event.AllFaithful home open_ events) (shows_ : open_ → home.Shows world) :
    objective.targets world (events.map (Event.enrol home)) =
      Prod.map id (List.map (Event.enrol home)) (objective.targets world events) := by
  unfold targets
  cases source : objective.source with
  | destroyAll =>
    dsimp only
    cases world.pilotedCraft? with
    | none => rfl
    | some pilot => rfl
  | condition event place =>
    have asked := Event.askCondition_enrol events event place
      (fun condition => condition.subjectCrafts world) fun found condition present there =>
        (faithful found (List.mem_of_getElem? present) condition
          (List.mem_of_getElem? there)).subjectCrafts_enrol shows_
            (able event place source found condition present there)
    dsimp only
    rw [asked]
    rfl

/-- There are words for all that can be an objective. -/
theorem objectiveText_of_isObjective {condition : Condition} (able : condition.isObjective = true)
    (world : World) (role : ObjectiveRole) :
    ∃ text, condition.objectiveText world role = .ok text := by
  unfold Condition.isObjective at able
  unfold Condition.objectiveText
  cases kind : condition.kind with
  | destroyed count | distance target band which | away which => exact ⟨_, rfl⟩
  | count threshold relation =>
    rw [kind] at able
    exact ⟨_, if_pos (eq_of_beq able)⟩
  | time timer =>
    rw [kind] at able
    exact ⟨_, if_pos able⟩
  | integrity measure band which =>
    cases measure with
    | hull => exact ⟨_, rfl⟩
    | shield =>
      rw [kind] at able
      cases able
  | hit source edge | onTeam team | missionState states | getsTargeted source edge
  | isTargeted source =>
    rw [kind] at able
    cases able

/-- A report on an objective finds no problem. -/
theorem report_problems {objective : Objective} (able : objective.Able events)
    (status : ObjectiveStatus) (world : World) :
    (objective.report status world events).2.1 = [] := by
  unfold report
  cases source : objective.source with
  | destroyAll => rfl
  | condition event place =>
    dsimp only
    unfold Event.askCondition
    cases present : events[event]? with
    | none => rfl
    | some found =>
      dsimp only
      cases there : found.trigger.conditions[place]? with
      | none => rfl
      | some condition =>
        obtain ⟨text, known⟩ := objectiveText_of_isObjective
          (able event place source found condition present there) world objective.role
        simp only [texts, known]

end Objective

namespace Mission

variable {events : List Event}

theorem evaluateAll_enrol (objectives : List TrackedObjective)
    (faithful : Event.AllFaithful home open_ events) (shows_ : open_ → home.Shows world) :
    evaluateAll world objectives (events.map (Event.enrol home)) =
      Prod.map id (List.map (Event.enrol home)) (evaluateAll world objectives events) := by
  induction objectives generalizing events with
  | nil => rfl
  | cons tracked rest ih =>
    have asked : Event.AllFaithful home open_ (tracked.objective.evaluate world events).2 :=
      (tracked.objective.evaluate_alters (Condition.keeps_spans _)
        (fun _ known => known.checkImpossible shows_) events).develop.holds faithful
    simp only [evaluateAll]
    rw [tracked.objective.evaluate_enrol faithful shows_]
    split
    · rw [ih faithful]
      rfl
    · dsimp only [Prod.map, id]
      rw [ih asked]
      rfl

theorem reportAll_enrol (objectives : List TrackedObjective)
    (faithful : Event.AllFaithful home open_ events) (shows_ : open_ → home.Shows world) :
    reportAll world objectives (events.map (Event.enrol home)) =
      Prod.map id (Prod.map id (List.map (Event.enrol home)))
        (reportAll world objectives events) := by
  induction objectives generalizing events with
  | nil => rfl
  | cons tracked rest ih =>
    have asked : Event.AllFaithful home open_
        (tracked.objective.report tracked.status world events).2.2 :=
      (tracked.objective.report_alters (Condition.keeps_spans _)
        (fun _ => (Condition.keeps_spans _).stateText fun known => known.resolve shows_)
        tracked.status events).develop.holds faithful
    rw [reportAll, reportAll, tracked.objective.report_enrol _ faithful shows_]
    dsimp only [Prod.map, id]
    rw [ih asked]
    rfl

theorem targetsOfAll_enrol (objectives : List TrackedObjective)
    (able : ∀ tracked ∈ objectives, tracked.objective.Able events)
    (faithful : Event.AllFaithful home open_ events) (shows_ : open_ → home.Shows world) :
    targetsOfAll world objectives (events.map (Event.enrol home)) =
      Prod.map id (List.map (Event.enrol home)) (targetsOfAll world objectives events) := by
  induction objectives generalizing events with
  | nil => rfl
  | cons tracked rest ih =>
    have others : ∀ other ∈ rest, other.objective.Able events :=
      fun other member => able other (List.mem_cons_of_mem tracked member)
    have asked : Event.AllFaithful home open_ (tracked.objective.targets world events).2 :=
      (tracked.objective.targets_alters (Condition.keeps_spans _)
        (fun _ => (Condition.keeps_spans _).subjectCrafts fun known => known.resolve shows_)
        events).develop.holds faithful
    have rests : Event.AllRest events (tracked.objective.targets world events).2 :=
      (tracked.objective.targets_alters Condition.asked_spans
        (fun condition => condition.subjectCrafts_asked world) events).rest
    simp only [targetsOfAll]
    rw [Objective.targets_enrol (able tracked List.mem_cons_self) faithful shows_]
    split
    · dsimp only [Prod.map, id]
      rw [ih (fun other member => (others other member).of_rest rests) asked]
      rfl
    · exact ih others faithful

/-- A report on objectives finds no problem. -/
theorem reportAll_problems (world : World) (objectives : List TrackedObjective)
    (able : ∀ tracked ∈ objectives, tracked.objective.Able events) :
    (reportAll world objectives events).2.1 = [] := by
  induction objectives generalizing events with
  | nil => rfl
  | cons tracked rest ih =>
    have rests : Event.AllRest events
        (tracked.objective.report tracked.status world events).2.2 :=
      (tracked.objective.report_alters Condition.asked_spans
        (fun condition => condition.stateText_asked world) tracked.status events).rest
    have first := Objective.report_problems (able tracked List.mem_cons_self) tracked.status world
    have later := ih fun other member =>
      (able other (List.mem_cons_of_mem tracked member)).of_rest rests
    simp only [reportAll, first, later, List.append_nil]

end Mission

end Sortie
