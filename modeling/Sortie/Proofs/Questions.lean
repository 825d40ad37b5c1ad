import Mathlib.Data.List.Forall2
import Sortie.Mission.Tick
import Sortie.Proofs.Pristine

set_option autoImplicit false

namespace Sortie

section Each

variable {α : Type} {R : α → α → Prop}

theorem each_refl (reflexive : ∀ a, R a a) (items : List α) : List.Forall₂ R items items :=
  List.forall₂_same.mpr fun item _ => reflexive item

theorem each_trans (transitive : ∀ a b c, R a b → R b c → R a c) {first second third : List α}
    (early : List.Forall₂ R first second) (late : List.Forall₂ R second third) :
    List.Forall₂ R first third := by
  induction early generalizing third with
  | nil => exact late
  | cons related rest ih =>
    cases late with
    | cons further others => exact .cons (transitive _ _ _ related further) (ih others)

theorem each_set (reflexive : ∀ a, R a a) {items : List α} {place : Nat} {old new : α}
    (found : items[place]? = some old) (related : R old new) :
    List.Forall₂ R items (items.set place new) := by
  induction items generalizing place with
  | nil => exact .nil
  | cons item rest ih =>
    cases place with
    | zero =>
      rw [List.getElem?_cons_zero] at found
      cases found
      exact .cons related (each_refl reflexive rest)
    | succ place =>
      rw [List.getElem?_cons_succ] at found
      exact .cons (reflexive item) (ih found)

theorem each_getElem? {before after : List α} (each : List.Forall₂ R before after) {place : Nat}
    {item : α} (found : before[place]? = some item) :
    ∃ later, after[place]? = some later ∧ R item later := by
  induction each generalizing place with
  | nil => cases found
  | cons related rest ih =>
    cases place with
    | zero =>
      rw [List.getElem?_cons_zero] at found
      cases found
      exact ⟨_, rfl, related⟩
    | succ place =>
      rw [List.getElem?_cons_succ] at found
      exact ih found

theorem each_mem {before after : List α} (each : List.Forall₂ R before after) {later : α}
    (member : later ∈ after) : ∃ item ∈ before, R item later := by
  obtain ⟨place, found⟩ := List.mem_iff_getElem?.mp member
  obtain ⟨item, there, related⟩ := each_getElem? each.flip found
  exact ⟨item, List.mem_of_getElem? there, related⟩

theorem each_map_eq {β : Type} {f : α → β} (same : ∀ a b, R a b → f b = f a)
    {before after : List α} (each : List.Forall₂ R before after) : after.map f = before.map f := by
  induction each with
  | nil => rfl
  | cons related rest ih => rw [List.map_cons, List.map_cons, same _ _ related, ih]

end Each

namespace SubjectGroup

theorem resolve_isSome (group : SubjectGroup) (world : World) :
    (group.resolve world).resolved.isSome = true := by
  unfold resolve
  split
  · rename_i members found
    rw [found]
    rfl
  · rfl

theorem resolve_of_isSome {group : SubjectGroup} (settled : group.resolved.isSome = true)
    (world : World) : group.resolve world = group := by
  obtain ⟨members, found⟩ := Option.isSome_iff_exists.mp settled
  simp only [resolve, found]

theorem resolve_resolve (group : SubjectGroup) (first second : World) :
    (group.resolve first).resolve second = group.resolve first :=
  resolve_of_isSome (group.resolve_isSome first) second

end SubjectGroup

namespace Condition

/-- What a question leaves of a condition. -/
structure Asked (before after : Condition) : Prop where
  kind : after.kind = before.kind
  subjects : after.subjects.pristine = before.subjects.pristine
  lastSatisfied : after.lastSatisfied = before.lastSatisfied
  impossible : before.impossible = true → after.impossible = true
  latched : after.impossible = true → before.impossible = true ∨ before.canBeImpossible = true

theorem canBeImpossible_of_kind {before after : Condition} (same : after.kind = before.kind) :
    after.canBeImpossible = before.canBeImpossible := by
  simp only [canBeImpossible, same]

theorem Asked.refl (condition : Condition) : condition.Asked condition :=
  ⟨rfl, rfl, rfl, fun latched => latched, fun latched => .inl latched⟩

theorem Asked.trans {first second third : Condition} (early : first.Asked second)
    (late : second.Asked third) : first.Asked third := by
  refine ⟨late.kind.trans early.kind, late.subjects.trans early.subjects,
    late.lastSatisfied.trans early.lastSatisfied,
    fun latched => late.impossible (early.impossible latched), ?_⟩
  intro latched
  rcases late.latched latched with before | able
  · exact early.latched before
  · exact .inr ((canBeImpossible_of_kind early.kind).symm.trans able)

theorem Asked.pristine {before after : Condition} (asked : before.Asked after) :
    after.pristine = before.pristine := by
  simp only [Condition.pristine, asked.kind, asked.subjects]

theorem resolve_asked (condition : Condition) (world : World) :
    condition.Asked (condition.resolve world) :=
  ⟨rfl, SubjectGroup.resolve_pristine _ world, rfl, fun latched => latched,
    fun latched => .inl latched⟩

theorem judgeImpossible_asked (condition : Condition) (world : World) :
    condition.Asked (condition.judgeImpossible world).2 := by
  unfold judgeImpossible
  split
  case h_4 =>
    split
    · exact .refl condition
    · exact resolve_asked condition world
  case h_5 =>
    split
    · exact .refl condition
    · exact resolve_asked condition world
  all_goals first | exact .refl condition | exact resolve_asked condition world

theorem checkImpossible_asked (condition : Condition) (world : World) :
    condition.Asked (condition.checkImpossible world).2 := by
  unfold checkImpossible
  split
  · exact .refl condition
  · split
    · exact .refl condition
    · rename_i open_ able
      have judged := judgeImpossible_asked condition world
      exact ⟨judged.kind, judged.subjects, judged.lastSatisfied,
        fun latched => absurd latched open_, fun _ => .inr (Decidable.not_not.mp able)⟩

/-- Asking tells whether the condition is impossible after the question. -/
theorem checkImpossible_impossible (condition : Condition) (world : World) :
    (condition.checkImpossible world).1 = true →
      (condition.checkImpossible world).2.impossible = true := by
  unfold checkImpossible
  split
  · rename_i latched
    intro _
    exact latched
  · split
    · intro yes
      cases yes
    · intro yes
      exact yes

/-- A question for the subjects at most resolves them. -/
theorem subjectCrafts_cases (condition : Condition) (world : World) :
    (condition.subjectCrafts world).2 = condition ∨
      (condition.subjectCrafts world).2 = condition.resolve world := by
  unfold subjectCrafts
  split
  · exact .inl rfl
  · exact .inl rfl
  · exact .inr rfl

/-- A question for the state in words at most resolves the subjects. -/
theorem stateText_cases (condition : Condition) (world : World) :
    (condition.stateText world).2 = condition ∨
      (condition.stateText world).2 = condition.resolve world := by
  unfold stateText
  split
  case h_5 =>
    split
    · exact .inl rfl
    · exact .inr rfl
  all_goals first | exact .inl rfl | exact .inr rfl

end Condition

/-- A relation between conditions that spans any number of changes. -/
structure Condition.Spans (R : Condition → Condition → Prop) : Prop where
  refl : ∀ condition, R condition condition
  trans : ∀ first second third, R first second → R second third → R first third

section

variable {R : Condition → Condition → Prop} {condition : Condition} {world : World}

theorem Condition.Spans.subjectCrafts (spans : Condition.Spans R)
    (resolved : R condition (condition.resolve world)) :
    R condition (condition.subjectCrafts world).2 := by
  rcases condition.subjectCrafts_cases world with same | answer
  · rw [same]
    exact spans.refl condition
  · rw [answer]
    exact resolved

theorem Condition.Spans.stateText (spans : Condition.Spans R)
    (resolved : R condition (condition.resolve world)) :
    R condition (condition.stateText world).2 := by
  rcases condition.stateText_cases world with same | answer
  · rw [same]
    exact spans.refl condition
  · rw [answer]
    exact resolved

end

theorem Condition.keeps_spans (P : Condition → Prop) :
    Condition.Spans fun before after => P before → P after :=
  ⟨fun _ held => held, fun _ _ _ early late held => late (early held)⟩

theorem Condition.asked_spans : Condition.Spans Condition.Asked :=
  ⟨Condition.Asked.refl, fun _ _ _ early late => early.trans late⟩

theorem Condition.subjectCrafts_asked (condition : Condition) (world : World) :
    condition.Asked (condition.subjectCrafts world).2 :=
  asked_spans.subjectCrafts (condition.resolve_asked world)

theorem Condition.stateText_asked (condition : Condition) (world : World) :
    condition.Asked (condition.stateText world).2 :=
  asked_spans.stateText (condition.resolve_asked world)

section Alters

variable {R : Condition → Condition → Prop} {world : World}

namespace Trigger

/-- A change of nothing but the conditions of a trigger, each of which is related to what becomes of
it. -/
structure Alters (R : Condition → Condition → Prop) (before after : Trigger) : Prop where
  rest : after = { before with conditions := after.conditions }
  conditions : List.Forall₂ R before.conditions after.conditions

theorem Alters.refl (spans : Condition.Spans R) (trigger : Trigger) : trigger.Alters R trigger :=
  ⟨rfl, each_refl spans.refl _⟩

theorem Alters.trans (spans : Condition.Spans R) {first second third : Trigger}
    (early : first.Alters R second) (late : second.Alters R third) : first.Alters R third := by
  refine ⟨?_, each_trans spans.trans early.conditions late.conditions⟩
  rw [late.rest, early.rest]

theorem withConditions_alters (trigger : Trigger) {conditions : List Condition}
    (each : List.Forall₂ R trigger.conditions conditions) :
    trigger.Alters R { trigger with conditions } :=
  ⟨rfl, each⟩

theorem askUntil_each (spans : Condition.Spans R)
    (asked : ∀ condition : Condition, R condition (condition.checkImpossible world).2)
    (verdict : Bool) (conditions : List Condition) :
    List.Forall₂ R conditions (askUntil verdict world conditions).2 := by
  induction conditions with
  | nil => exact .nil
  | cons condition rest ih =>
    simp only [askUntil]
    split
    · exact .cons (asked condition) (each_refl spans.refl rest)
    · exact .cons (asked condition) ih

theorem checkImpossible_alters (spans : Condition.Spans R)
    (asked : ∀ condition : Condition, R condition (condition.checkImpossible world).2)
    (trigger : Trigger) : trigger.Alters R (trigger.checkImpossible world).2 := by
  unfold checkImpossible
  split
  · exact .refl spans trigger
  · exact trigger.withConditions_alters (askUntil_each spans asked _ _)

end Trigger

namespace Event

/-- A change of nothing but the conditions of an event. -/
structure Alters (R : Condition → Condition → Prop) (before after : Event) : Prop where
  rest : after = { before with trigger := after.trigger }
  trigger : before.trigger.Alters R after.trigger

theorem Alters.refl (spans : Condition.Spans R) (event : Event) : event.Alters R event :=
  ⟨rfl, .refl spans event.trigger⟩

theorem Alters.trans (spans : Condition.Spans R) {first second third : Event}
    (early : first.Alters R second) (late : second.Alters R third) : first.Alters R third := by
  refine ⟨?_, early.trigger.trans spans late.trigger⟩
  rw [late.rest, early.rest]

theorem withTrigger_alters (event : Event) {trigger : Trigger}
    (altered : event.trigger.Alters R trigger) : event.Alters R { event with trigger } :=
  ⟨rfl, altered⟩

/-- A change of nothing but the conditions of events. -/
abbrev AllAlter (R : Condition → Condition → Prop) (before after : List Event) : Prop :=
  List.Forall₂ (Alters R) before after

theorem AllAlter.refl (spans : Condition.Spans R) (events : List Event) :
    AllAlter R events events :=
  each_refl (Alters.refl spans) events

theorem AllAlter.trans (spans : Condition.Spans R) {first second third : List Event}
    (early : AllAlter R first second) (late : AllAlter R second third) :
    AllAlter R first third :=
  each_trans (R := Alters R) (fun _ _ _ one other => one.trans spans other) early late

theorem askCondition_alters (spans : Condition.Spans R) {α : Type} (events : List Event)
    (event place : Nat) (question : Condition → α × Condition)
    (asked : ∀ condition : Condition, R condition (question condition).2) :
    AllAlter R events (askCondition events event place question).2 := by
  unfold askCondition
  split
  · exact .refl spans events
  · rename_i found present
    split
    · exact .refl spans events
    · rename_i condition there
      apply each_set (Alters.refl spans) present (found.withTrigger_alters _)
      exact found.trigger.withConditions_alters (each_set spans.refl there (asked condition))

theorem askTrigger_alters (spans : Condition.Spans R) {α : Type} (events : List Event)
    (event : Nat) (question : Trigger → α × Trigger)
    (asked : ∀ trigger : Trigger, trigger.Alters R (question trigger).2) :
    AllAlter R events (askTrigger events event question).2 := by
  unfold askTrigger
  split
  · exact .refl spans events
  · rename_i found present
    exact each_set (Alters.refl spans) present (found.withTrigger_alters (asked found.trigger))

end Event

namespace Objective

theorem evaluate_alters (spans : Condition.Spans R)
    (asked : ∀ condition : Condition, R condition (condition.checkImpossible world).2)
    (objective : Objective) (events : List Event) :
    Event.AllAlter R events (objective.evaluate world events).2 := by
  unfold evaluate
  split
  · exact .refl spans events
  · rename_i event place _
    split
    · exact .refl spans events
    · dsimp only
      split
      · split
        · exact .refl spans events
        · exact Event.askCondition_alters spans events event place _ asked
      · split
        · exact .refl spans events
        · exact Event.askTrigger_alters spans events event _
            (Trigger.checkImpossible_alters spans asked)

theorem report_alters (spans : Condition.Spans R)
    (asked : ∀ condition : Condition, R condition (condition.stateText world).2)
    (objective : Objective) (status : ObjectiveStatus) (events : List Event) :
    Event.AllAlter R events (objective.report status world events).2.2 := by
  unfold report
  dsimp only
  split
  · exact .refl spans events
  · rename_i event place _
    have altered := Event.askCondition_alters spans events event place (texts world objective.role)
      asked
    split
    all_goals
      rename_i answer
      rw [answer] at altered
      exact altered

theorem targets_alters (spans : Condition.Spans R)
    (asked : ∀ condition : Condition, R condition (condition.subjectCrafts world).2)
    (objective : Objective) (events : List Event) :
    Event.AllAlter R events (objective.targets world events).2 := by
  unfold targets
  split
  · dsimp only
    split
    · exact .refl spans events
    · exact .refl spans events
  · rename_i event place _
    exact Event.askCondition_alters spans events event place _ asked

end Objective

namespace Mission

/-- An evaluation of objectives only asks conditions whether they are impossible. -/
theorem evaluateAll_alters (spans : Condition.Spans R)
    (asked : ∀ condition : Condition, R condition (condition.checkImpossible world).2)
    (objectives : List TrackedObjective) (events : List Event) :
    Event.AllAlter R events (evaluateAll world objectives events).2 := by
  induction objectives generalizing events with
  | nil => exact .refl spans events
  | cons tracked rest ih =>
    simp only [evaluateAll]
    split
    · exact ih events
    · exact (tracked.objective.evaluate_alters spans asked events).trans spans (ih _)

/-- Reports only ask conditions how far they are. -/
theorem reportAll_alters (spans : Condition.Spans R)
    (asked : ∀ condition : Condition, R condition (condition.stateText world).2)
    (objectives : List TrackedObjective) (events : List Event) :
    Event.AllAlter R events (reportAll world objectives events).2.2 := by
  induction objectives generalizing events with
  | nil => exact .refl spans events
  | cons tracked rest ih =>
    exact (tracked.objective.report_alters spans asked tracked.status events).trans spans (ih _)

/-- The search for targets only asks conditions for their subjects. -/
theorem targetsOfAll_alters (spans : Condition.Spans R)
    (asked : ∀ condition : Condition, R condition (condition.subjectCrafts world).2)
    (objectives : List TrackedObjective) (events : List Event) :
    Event.AllAlter R events (targetsOfAll world objectives events).2 := by
  induction objectives generalizing events with
  | nil => exact .refl spans events
  | cons tracked rest ih =>
    simp only [targetsOfAll]
    split
    · exact (tracked.objective.targets_alters spans asked events).trans spans (ih _)
    · exact ih events

end Mission

end Alters

namespace Trigger

/-- What questions to its conditions leave of a trigger. -/
structure Asked (before after : Trigger) : Prop where
  rest : after = { before with conditions := after.conditions }
  conditions : List.Forall₂ Condition.Asked before.conditions after.conditions

theorem Asked.refl (trigger : Trigger) : trigger.Asked trigger :=
  ⟨rfl, each_refl Condition.Asked.refl _⟩

theorem Asked.trans {first second third : Trigger} (early : first.Asked second)
    (late : second.Asked third) : first.Asked third := by
  refine ⟨?_, each_trans (R := Condition.Asked) (fun _ _ _ first second => first.trans second)
    early.conditions late.conditions⟩
  rw [late.rest, early.rest]

theorem Asked.pristine {before after : Trigger} (asked : before.Asked after) :
    after.pristine = before.pristine := by
  have same := each_map_eq (R := Condition.Asked) (fun _ _ asked => asked.pristine) asked.conditions
  rw [asked.rest]
  simp only [Trigger.pristine, same]

theorem Alters.asked {before after : Trigger} (altered : before.Alters Condition.Asked after) :
    before.Asked after :=
  ⟨altered.rest, altered.conditions⟩

theorem checkImpossible_asked (trigger : Trigger) (world : World) :
    trigger.Asked (trigger.checkImpossible world).2 :=
  (checkImpossible_alters Condition.asked_spans (fun condition =>
    condition.checkImpossible_asked world) trigger).asked

end Trigger

namespace Event

/-- What becomes of an event between two steps of its trigger. -/
structure Rests (before after : Event) : Prop where
  same : after.pristine = before.pristine
  trigger : before.trigger.Asked after.trigger

theorem Rests.refl (event : Event) : event.Rests event := ⟨rfl, .refl event.trigger⟩

theorem Rests.trans {first second third : Event} (early : first.Rests second)
    (late : second.Rests third) : first.Rests third :=
  ⟨late.same.trans early.same, early.trigger.trans late.trigger⟩

theorem Alters.rests {before after : Event} (altered : before.Alters Condition.Asked after) :
    before.Rests after := by
  refine ⟨?_, altered.trigger.asked⟩
  rw [altered.rest]
  simp only [pristine, altered.trigger.asked.pristine]

theorem withAction_rests (event : Event) {place : Nat} {old new : Action}
    (found : event.actions[place]? = some old) (same : new.pristine = old.pristine) :
    event.Rests { event with actions := event.actions.set place new } := by
  refine ⟨?_, .refl event.trigger⟩
  have each := each_set (R := fun a b : Action => b.pristine = a.pristine) (fun _ => rfl) found same
  simp only [pristine, each_map_eq (fun _ _ same => same) each]

/-- What becomes of events between two steps of their triggers. -/
abbrev AllRest (before after : List Event) : Prop := List.Forall₂ Rests before after

theorem AllRest.refl (events : List Event) : AllRest events events := each_refl Rests.refl events

theorem AllRest.trans {first second third : List Event} (early : AllRest first second)
    (late : AllRest second third) : AllRest first third :=
  each_trans (R := Rests) (fun _ _ _ first second => first.trans second) early late

theorem AllRest.same {before after : List Event} (rest : AllRest before after) :
    after.map pristine = before.map pristine :=
  each_map_eq (R := Rests) (fun _ _ rests => rests.same) rest

theorem AllAlter.rest {before after : List Event}
    (altered : AllAlter Condition.Asked before after) : AllRest before after :=
  altered.imp fun _ _ each => each.rests

theorem executeAt_rests (events : List Event) (place : ActionPlace) (world : World) :
    AllRest events (executeAt events place world).1 := by
  unfold executeAt
  split
  · exact .refl events
  · rename_i event present
    split
    · exact .refl events
    · rename_i action found
      exact each_set Rests.refl present
        (event.withAction_rests found (action.execute_pristine world))

end Event

namespace Objective

theorem standingOfGoal_asked (world : World) (condition : Condition) :
    condition.Asked (standingOfGoal world condition).2 :=
  condition.checkImpossible_asked world

theorem evaluate_rests (objective : Objective) (world : World) (events : List Event) :
    Event.AllRest events (objective.evaluate world events).2 :=
  (objective.evaluate_alters Condition.asked_spans (standingOfGoal_asked world) events).rest

end Objective

namespace Mission

variable {π : Type}

theorem evaluateAll_rests (world : World) (objectives : List TrackedObjective)
    (events : List Event) : Event.AllRest events (evaluateAll world objectives events).2 :=
  (evaluateAll_alters Condition.asked_spans (fun condition =>
    condition.checkImpossible_asked world) objectives events).rest

theorem reportAll_rests (world : World) (objectives : List TrackedObjective)
    (events : List Event) : Event.AllRest events (reportAll world objectives events).2.2 :=
  (reportAll_alters Condition.asked_spans (fun condition =>
    condition.stateText_asked world) objectives events).rest

theorem targetsOfAll_rests (world : World) (objectives : List TrackedObjective)
    (events : List Event) : Event.AllRest events (targetsOfAll world objectives events).2 :=
  (targetsOfAll_alters Condition.asked_spans (fun condition =>
    condition.subjectCrafts_asked world) objectives events).rest

theorem executeAll_rests (due : List ActionPlace) (events : List Event) (world : World) :
    Event.AllRest events (executeAll due events world).1 := by
  induction due generalizing events world with
  | nil => exact .refl events
  | cons place rest ih => exact (Event.executeAt_rests events place world).trans (ih _ _)

end Mission

end Sortie
