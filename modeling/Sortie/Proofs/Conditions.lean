import Sortie.Proofs.Sight

set_option autoImplicit false

namespace Sortie

theorem Condition.evaluate_impossible (condition : Condition) (world : World) (dt : Scalar) :
    (condition.evaluate world dt).2.impossible = condition.impossible := by
  unfold evaluate
  split
  case h_5 =>
    split
    · rfl
    · rfl
  all_goals rfl

variable {R : Condition → Condition → Prop}

namespace Trigger

theorem judge_each (spans : Condition.Spans R) {world : World} {dt : Scalar}
    (looked : ∀ condition : Condition, R condition (condition.look world dt).2)
    (trigger : Trigger) :
    List.Forall₂ R trigger.conditions (trigger.judge world dt).2.conditions := by
  unfold judge
  dsimp only
  split
  · exact each_refl spans.refl _
  · simp only [looks, List.map_map]
    exact List.forall₂_map_right_iff.mpr (List.forall₂_same.mpr fun condition _ => looked condition)

theorem simulate_each (spans : Condition.Spans R) {world : World} {dt : Scalar}
    (looked : ∀ condition : Condition, R condition (condition.look world dt).2)
    (trigger : Trigger) :
    List.Forall₂ R trigger.conditions (trigger.simulate world dt).2.conditions := by
  let holds (later : Trigger) : Prop := List.Forall₂ R trigger.conditions later.conditions
  have judged (later : Trigger) (held : holds later) : holds (later.judge world dt).2 :=
    each_trans spans.trans held (judge_each spans looked later)
  have start : holds trigger := each_refl spans.refl _
  exact simulate_keeps judged (fun _ _ held => held) start

end Trigger

namespace Event

/-- A change of an event that relates each of its conditions to what becomes of it. -/
def Develops (R : Condition → Condition → Prop) (before after : Event) : Prop :=
  List.Forall₂ R before.trigger.conditions after.trigger.conditions

/-- A change of events that relates each of their conditions to what becomes of it. -/
abbrev AllDevelop (R : Condition → Condition → Prop) (before after : List Event) : Prop :=
  List.Forall₂ (Develops R) before after

theorem AllDevelop.trans (spans : Condition.Spans R) {first second third : List Event}
    (early : AllDevelop R first second) (late : AllDevelop R second third) :
    AllDevelop R first third :=
  each_trans (R := Develops R) (fun _ _ _ one other => each_trans spans.trans one other) early late

theorem AllDevelop.of_triggers (spans : Condition.Spans R) {before after : List Event}
    (same : after.map trigger = before.map trigger) : AllDevelop R before after := by
  induction before generalizing after with
  | nil =>
    rw [List.map_nil, List.map_eq_nil_iff] at same
    rw [same]
    exact .nil
  | cons event rest ih =>
    obtain ⟨later, others, rfl, head, tail⟩ := List.map_eq_cons_iff.mp same
    refine .cons ?_ (ih tail)
    rw [Develops, head]
    exact each_refl spans.refl _

theorem AllAlter.develop {before after : List Event} (altered : AllAlter R before after) :
    AllDevelop R before after :=
  altered.imp fun _ _ each => each.trigger.conditions

/-- What the changes keep of a condition holds of all of them in the end. -/
theorem AllDevelop.holds {P : Condition → Prop} {before after : List Event}
    (developed : AllDevelop (fun old new => P old → P new) before after)
    (held : ∀ event ∈ before, ∀ condition ∈ event.trigger.conditions, P condition) :
    ∀ event ∈ after, ∀ condition ∈ event.trigger.conditions, P condition := by
  intro event member condition there
  obtain ⟨old, known, change⟩ := each_mem developed member
  obtain ⟨former, present, kept⟩ := each_mem change there
  exact kept (held old known former present)

/-- In a step of all events, the conditions of each are looked at in the world that those before it
leave. -/
theorem simulateAll_develop (spans : Condition.Spans R) (dt : Scalar) (index : Nat)
    (events : List Event) (world : World)
    (looked : ∀ place (condition : Condition),
      R condition (condition.look (simulateAll dt index (events.take place) world).2 dt).2) :
    AllDevelop R events (simulateAll dt index events world).1 := by
  induction events generalizing index world with
  | nil => exact .nil
  | cons event rest ih =>
    have first : event.Develops R (event.simulate index world dt).1 := by
      rw [Develops, event.simulate_trigger index world dt]
      exact Trigger.simulate_each spans (looked 0) event.trigger
    exact .cons first (ih (index + 1) _ fun place => looked (place + 1))

end Event

namespace Mission

variable {π : Type}

theorem runRules_develop (spans : Condition.Spans R) (mission : Mission π) (dt : Scalar)
    (looked : ∀ event (condition : Condition),
      R condition (condition.look (mission.sight dt event) dt).2) :
    Event.AllDevelop R mission.events (mission.runRules dt).events := by
  have waited : Event.AllDevelop R mission.events (mission.waited dt).events :=
    .of_triggers spans ((mission.advanceTime dt).runDueActions_triggers dt)
  show Event.AllDevelop R mission.events ((mission.waited dt).runEvents dt).events
  unfold sight at looked
  unfold runEvents
  rw [mission.waited_authority dt]
  cases host : mission.authority with
  | true =>
    simp only [host, ↓reduceIte] at looked ⊢
    exact waited.trans spans (Event.simulateAll_develop spans dt 0 _ _ looked)
  | false => exact waited

variable [Pilot π]

/-- What the looks and the questions of an input keep of a condition, the input keeps. -/
theorem take_develop (spans : Condition.Spans R) (mission : Mission π) (input : Input π)
    (looked : ∀ dt event (condition : Condition),
      R condition (condition.look (mission.sight dt event) dt).2)
    (checked : ∀ dt, accepts dt = true → ∀ condition : Condition,
      R condition (condition.checkImpossible (mission.advance dt).world).2)
    (resolved : ∀ condition : Condition, R condition (condition.resolve mission.world)) :
    Event.AllDevelop R mission.events (mission.take input).events := by
  cases input with
  | tick dt =>
    rw [take]
    cases accepted : accepts dt with
    | true =>
      have ruled := mission.runRules_develop spans dt (looked dt)
      rw [← (runCrafts_passive (mission.runRules dt) dt).events] at ruled
      rw [mission.tick_of_accepts dt accepted]
      exact ruled.trans spans (evaluateAll_alters spans (checked dt accepted) _ _).develop
    | false =>
      rw [mission.tick_of_not_accepts dt accepted]
      exact (Event.AllAlter.refl spans _).develop
  | reports =>
    have stated (condition : Condition) := spans.stateText (resolved condition)
    exact (reportAll_alters spans stated _ _).develop
  | targets =>
    have named (condition : Condition) := spans.subjectCrafts (resolved condition)
    exact (targetsOfAll_alters spans named _ _).develop
  | authority _ | pilot _ | autopilot _ | intent _ | camera _ =>
    exact (Event.AllAlter.refl spans _).develop

end Mission

end Sortie
