import Sortie.Mission.Load
import Sortie.Rules.Objective

set_option autoImplicit false

namespace Sortie

namespace SubjectGroup

/-- The group before it is resolved. -/
def pristine (group : SubjectGroup) : SubjectGroup := { descriptor := group.descriptor }

@[simp] theorem resolve_pristine (group : SubjectGroup) (world : World) :
    (group.resolve world).pristine = group.pristine := by
  unfold resolve
  split
  · rfl
  · rfl

end SubjectGroup

namespace ConditionKind

/-- The kind before the first look. -/
def pristine : ConditionKind → ConditionKind
  | .time timer => .time { plan := timer.plan }
  | .hit source _ => .hit source {}
  | .getsTargeted source _ => .getsTargeted source {}
  | other => other

end ConditionKind

namespace Condition

/-- The condition before the first look. -/
def pristine (condition : Condition) : Condition :=
  { kind := condition.kind.pristine, subjects := condition.subjects.pristine }

@[simp] theorem resolve_pristine (condition : Condition) (world : World) :
    (condition.resolve world).pristine = condition.pristine := by
  simp only [pristine, resolve, SubjectGroup.resolve_pristine]

theorem isObjective_pristine (condition : Condition) :
    condition.pristine.isObjective = condition.isObjective := by
  cases condition with
  | mk kind subjects lastSatisfied impossible => cases kind <;> rfl

theorem canBeImpossible_pristine (condition : Condition) :
    condition.pristine.canBeImpossible = condition.canBeImpossible := by
  cases condition with
  | mk kind subjects lastSatisfied impossible => cases kind <;> rfl

end Condition

namespace Timer

theorem advance_plan (timer : Timer) (dt : Scalar) : (timer.advance dt).plan = timer.plan := rfl

theorem countPeriods_plan (timer : Timer) : timer.countPeriods.2.plan = timer.plan := by
  unfold countPeriods
  dsimp only
  split
  · rfl
  · rfl

theorem judge_plan (timer : Timer) : timer.judge.2.plan = timer.plan := by
  unfold judge
  split
  · rfl
  · rfl
  · split
    · rfl
    · rfl
  · exact countPeriods_plan timer

theorem evaluate_plan (timer : Timer) (world : World) (dt : Scalar) :
    (timer.evaluate world dt).2.plan = timer.plan := by
  unfold evaluate
  split
  · rw [judge_plan, advance_plan]
  · rfl

end Timer

namespace Condition

theorem evaluate_pristine (condition : Condition) (world : World) (dt : Scalar) :
    (condition.evaluate world dt).2.pristine = condition.pristine := by
  unfold evaluate
  split
  case h_3 timer kind =>
    simp only [pristine, ConditionKind.pristine, kind, Timer.evaluate_plan]
  case h_5 =>
    split
    · rfl
    · exact resolve_pristine condition world
  case h_6 source edge kind => simp only [pristine, ConditionKind.pristine, kind]
  case h_10 source edge kind => simp only [pristine, ConditionKind.pristine, kind]
  all_goals first | rfl | exact resolve_pristine condition world

end Condition

namespace Trigger

/-- The trigger as it was built. -/
def pristine (trigger : Trigger) : Trigger :=
  { conditions := trigger.conditions.map Condition.pristine
    required := trigger.required
    policy := trigger.policy
    oneShot := trigger.oneShot.map fun _ => .armed
    delay := trigger.delay
    disabled := trigger.disabled }

theorem canBeImpossible_pristine (trigger : Trigger) :
    trigger.pristine.canBeImpossible = trigger.canBeImpossible := by
  simp only [canBeImpossible, pristine, List.isEmpty_map, List.any_map, List.all_map,
    Function.comp_def, Condition.canBeImpossible_pristine]

end Trigger

namespace Action

/-- The action as it was built. -/
def pristine (action : Action) : Action := { action with subjects := action.subjects.pristine }

theorem execute_pristine (action : Action) (world : World) :
    (action.execute world).1.pristine = action.pristine := by
  unfold execute
  split <;> rfl

theorem isWin_pristine (action : Action) : action.pristine.isWin = action.isWin := rfl

theorem isLose_pristine (action : Action) : action.pristine.isLose = action.isLose := rfl

end Action

namespace Event

/-- The event as it was built. -/
def pristine (event : Event) : Event :=
  { name := event.name
    trigger := event.trigger.pristine
    actions := event.actions.map Action.pristine }

theorem hasWin_pristine (event : Event) : event.pristine.hasWin = event.hasWin := by
  simp only [pristine, hasWin, List.any_map, Function.comp_def, Action.isWin_pristine]

theorem hasLose_pristine (event : Event) : event.pristine.hasLose = event.hasLose := by
  simp only [pristine, hasLose, List.any_map, Function.comp_def, Action.isLose_pristine]

end Event

end Sortie
