import Sortie.Proofs.DelayedActions
import Sortie.Proofs.Latch

set_option autoImplicit false

namespace Sortie

/-- A call of a trigger: the world that it sees, and the milliseconds since the call before. -/
structure Call where
  world : World
  dt : Scalar

/-- The condition after one look in each of some calls. -/
def Condition.lookedAt (condition : Condition) (calls : List Call) : Condition :=
  calls.foldl (fun condition call => (condition.look call.world call.dt).2) condition

theorem Condition.lookedAt_concat (condition : Condition) (calls : List Call) (call : Call) :
    condition.lookedAt (calls ++ [call]) =
      ((condition.lookedAt calls).look call.world call.dt).2 := by
  simp only [lookedAt, List.foldl_append, List.foldl_cons, List.foldl_nil]

namespace Trigger

/-- The combined value of the conditions at a call, if each was looked at once in every earlier
call. -/
def valueAt (trigger : Trigger) (earlier : List Call) (call : Call) : Bool :=
  trigger.required.holds (trigger.conditions.map fun condition =>
    ((condition.lookedAt earlier).look call.world call.dt).1)

/-- All or any of the conditions hold when they are looked at in the call. -/
theorem valueAt_iff {trigger : Trigger} {earlier : List Call} {call : Call} :
    trigger.valueAt earlier call = true ↔
      match trigger.required with
      | .all => ∀ condition ∈ trigger.conditions,
          ((condition.lookedAt earlier).look call.world call.dt).1 = true
      | .any => ∃ condition ∈ trigger.conditions,
          ((condition.lookedAt earlier).look call.world call.dt).1 = true := by
  rw [valueAt]
  cases trigger.required with
  | all => exact Quantity.holds_all_map
  | any => exact Quantity.holds_any_map

/-- The value at the last of some calls; false before the first one. -/
def valueAfter (trigger : Trigger) (calls : List Call) : Bool :=
  match calls.getLast? with
  | none => false
  | some call => trigger.valueAt calls.dropLast call

/-- Whether the policy holds at a call. -/
def Due (trigger : Trigger) (earlier : List Call) (call : Call) : Prop :=
  match trigger.policy with
  | .missionStarts => earlier = []
  | .isTrue => trigger.valueAt earlier call = true
  | .isFalse => trigger.valueAt earlier call = false
  | .change => trigger.valueAt earlier call ≠ trigger.valueAfter earlier
  | .changeToTrue => trigger.valueAt earlier call = true ∧ trigger.valueAfter earlier = false
  | .changeToFalse => trigger.valueAt earlier call = false ∧ trigger.valueAfter earlier = true

/-- The policy holds at none of some calls. -/
def Undecided (trigger : Trigger) (calls : List Call) : Prop :=
  ∀ before call after, calls = before ++ call :: after → ¬ trigger.Due before call

/-- The policy holds at a call for the first time. -/
def FirstDue (trigger : Trigger) (earlier : List Call) (call : Call) : Prop :=
  trigger.Undecided earlier ∧ trigger.Due earlier call

/-- What some calls leave of the conditions, if each is looked at once in every call: that the
mission starts does not hang on them. -/
def looked (trigger : Trigger) (calls : List Call) : List Condition :=
  if trigger.policy = .missionStarts then trigger.conditions
  else trigger.conditions.map fun condition => condition.lookedAt calls

/-- The trigger after some calls. -/
def called (trigger : Trigger) (calls : List Call) : Trigger :=
  calls.foldl (fun trigger call => (trigger.simulate call.world call.dt).2) trigger

/-- Whether the trigger fires at a call. -/
def firesAt (trigger : Trigger) (earlier : List Call) (call : Call) : Bool :=
  ((trigger.called earlier).simulate call.world call.dt).1

theorem called_concat (trigger : Trigger) (calls : List Call) (call : Call) :
    trigger.called (calls ++ [call]) =
      ((trigger.called calls).simulate call.world call.dt).2 := by
  simp only [called, List.foldl_append, List.foldl_cons, List.foldl_nil]

/-- The trigger after it has considered its conditions in each of some calls. -/
def considered (trigger : Trigger) (calls : List Call) : Trigger :=
  { trigger with
    conditions := trigger.looked calls
    previous := trigger.policy != .missionStarts && trigger.valueAfter calls
    started := !calls.isEmpty }

theorem valueAfter_concat (trigger : Trigger) (earlier : List Call) (call : Call) :
    trigger.valueAfter (earlier ++ [call]) = trigger.valueAt earlier call := by
  simp only [valueAfter, List.getLast?_append, List.getLast?_singleton, Option.some_or,
    List.dropLast_concat]

theorem considered_looks {trigger : Trigger} (policy : trigger.policy ≠ .missionStarts)
    (earlier : List Call) (call : Call) :
    trigger.required.holds
        (((trigger.considered earlier).looks call.world call.dt).map Prod.fst) =
        trigger.valueAt earlier call ∧
      ((trigger.considered earlier).looks call.world call.dt).map Prod.snd =
        trigger.looked (earlier ++ [call]) := by
  simp only [looks, considered, looked, policy, ↓reduceIte, List.map_map, valueAt]
  refine ⟨rfl, List.map_congr_left fun condition _ => ?_⟩
  exact (condition.lookedAt_concat earlier call).symm

/-- A decision is by the policy, on the value at this call and the one before. -/
theorem judge_considered (trigger : Trigger) (earlier : List Call) (call : Call) :
    (((trigger.considered earlier).judge call.world call.dt).1 = true ↔
        trigger.Due earlier call) ∧
      ((trigger.considered earlier).judge call.world call.dt).2 =
        trigger.considered (earlier ++ [call]) := by
  have begun : (!(earlier ++ [call]).isEmpty) = true := by simp
  by_cases policy : trigger.policy = .missionStarts
  · simp only [judge, considered, looked, policy, begun, ↓reduceIte, Bool.not_not, Due,
      List.isEmpty_iff, bne_self_eq_false, Bool.false_and, and_self]
  · obtain ⟨value, left⟩ := considered_looks policy earlier call
    have policyStill : (trigger.considered earlier).policy ≠ .missionStarts := policy
    have required : (trigger.considered earlier).required = trigger.required := rfl
    have asks : (trigger.policy != .missionStarts) = true := bne_iff_ne.mpr policy
    rw [judge_of_looks policyStill, required, value, left]
    refine ⟨?_, ?_⟩
    · simp only [considered, asks, Bool.true_and, Due]
      cases kind : trigger.policy <;>
        simp only [FireWhen.decides, bne_iff_ne, Bool.and_eq_true, Bool.not_eq_true', ne_eq]
      exact absurd kind policy
    · simp only [considered, begun, asks, Bool.true_and, valueAfter_concat]

theorem undecided_concat (trigger : Trigger) (calls : List Call) (call : Call) :
    trigger.Undecided (calls ++ [call]) ↔
      trigger.Undecided calls ∧ ¬ trigger.Due calls call := by
  constructor
  · intro undecided
    refine ⟨?_, undecided calls call [] rfl⟩
    rintro before other after rfl
    exact undecided before other (after ++ [call]) (by simp)
  · rintro ⟨undecided, undue⟩ before other after same
    rcases List.eq_nil_or_concat' after with rfl | ⟨rest, last, rfl⟩
    · obtain ⟨rfl, ⟨⟩⟩ := List.append_inj' same rfl
      exact undue
    · rw [← List.cons_append, ← List.append_assoc] at same
      exact undecided before other rest (List.append_inj' same rfl).1

/-- If the policy holds at any of some calls, it holds at one of them for the first time. -/
theorem exists_firstDue {trigger : Trigger} {calls : List Call}
    (decided : ¬ trigger.Undecided calls) :
    ∃ before decisive after, calls = before ++ decisive :: after ∧
      trigger.FirstDue before decisive := by
  induction calls using List.reverseRecOn with
  | nil => exact absurd (fun before call after same => by simp at same) decided
  | append_singleton calls call ih =>
    by_cases undecided : trigger.Undecided calls
    · have due : trigger.Due calls call := by
        refine Classical.byContradiction fun undue => decided ?_
        exact (trigger.undecided_concat calls call).mpr ⟨undecided, undue⟩
      exact ⟨calls, call, [], rfl, undecided, due⟩
    · obtain ⟨before, decisive, after, rfl, first⟩ := ih undecided
      exact ⟨before, decisive, after ++ [call], by simp, first⟩

/-- The call at which the policy holds for the first time is one call. -/
theorem FirstDue.unique {trigger : Trigger} {before other after rest : List Call}
    {decisive call : Call} (first : trigger.FirstDue before decisive)
    (second : trigger.FirstDue other call)
    (same : before ++ decisive :: after = other ++ call :: rest) :
    before = other ∧ decisive = call ∧ after = rest := by
  rcases List.append_eq_append_iff.mp same with ⟨more, longer, rest_⟩ | ⟨more, longer, rest_⟩
  · cases more with
    | nil =>
      cases rest_
      exact ⟨by rw [longer, List.append_nil], rfl, rfl⟩
    | cons head tail =>
      cases rest_
      exact absurd first.2 (second.1 before decisive tail longer)
  · cases more with
    | nil =>
      cases rest_
      exact ⟨by rw [longer, List.append_nil], rfl, rfl⟩
    | cons head tail =>
      cases rest_
      exact absurd second.2 (first.1 other call tail longer)

/-- A trigger that was not called yet. -/
structure Fresh (trigger : Trigger) : Prop where
  active : trigger.disabled = false
  start : trigger.considered [] = trigger

theorem simulate_waiting {trigger : Trigger} (active : trigger.disabled = false)
    (waiting : trigger.oneShot = none ∨ trigger.oneShot = some .armed) (world : World)
    (dt : Scalar) : trigger.simulate world dt = trigger.consider world dt := by
  rcases waiting with shape | shape
  · simp only [simulate, active, shape, Bool.false_eq_true, ↓reduceIte]
  · simp only [simulate, active, shape, Bool.false_eq_true, ↓reduceIte]

theorem commit_repeating {trigger : Trigger} (repeating : trigger.oneShot = none) :
    trigger.commit = (true, trigger) := by
  simp only [commit, repeating]

/-- A trigger that fires again and again fires whenever its policy holds. -/
theorem simulate_repeating {trigger : Trigger} (fresh : trigger.Fresh)
    (repeating : trigger.oneShot = none) (earlier : List Call) (call : Call) :
    (trigger.considered earlier).simulate call.world call.dt =
      (trigger.considered earlier).judge call.world call.dt := by
  obtain ⟨_, judged⟩ := trigger.judge_considered earlier call
  have active : (trigger.considered earlier).disabled = false := fresh.active
  rw [simulate_waiting active (.inl repeating), consider]
  dsimp only
  rw [judged]
  have still : (trigger.considered (earlier ++ [call])).oneShot = none := repeating
  rw [commit_repeating still]
  cases decided : ((trigger.considered earlier).judge call.world call.dt).1 with
  | true => rw [if_pos rfl, ← decided, ← judged]
  | false => rw [if_neg Bool.false_ne_true, ← decided, ← judged]

theorem called_repeating {trigger : Trigger} (fresh : trigger.Fresh)
    (repeating : trigger.oneShot = none) (calls : List Call) :
    trigger.called calls = trigger.considered calls := by
  induction calls using List.reverseRecOn with
  | nil => exact fresh.start.symm
  | append_singleton calls call ih =>
    rw [called_concat, ih, simulate_repeating fresh repeating]
    exact (trigger.judge_considered calls call).2

section

variable {trigger : Trigger} (fresh : trigger.Fresh) (armed : trigger.oneShot = some .armed)

include fresh armed

/-- A one-shot trigger that has not decided yet considers its conditions. -/
theorem simulate_undecided (earlier : List Call) (call : Call) :
    (¬ trigger.Due earlier call →
      (trigger.considered earlier).simulate call.world call.dt =
        (false, trigger.considered (earlier ++ [call]))) ∧
    (trigger.Due earlier call →
      (trigger.considered earlier).simulate call.world call.dt =
        (trigger.considered (earlier ++ [call])).commit) := by
  obtain ⟨decision, judged⟩ := trigger.judge_considered earlier call
  have active : (trigger.considered earlier).disabled = false := fresh.active
  rw [simulate_waiting active (.inr armed), consider]
  dsimp only
  rw [judged]
  exact ⟨fun undue => if_neg (mt decision.mp undue), fun due => if_pos (decision.mpr due)⟩

theorem called_undecided {calls : List Call} (undecided : trigger.Undecided calls) :
    trigger.called calls = trigger.considered calls := by
  induction calls using List.reverseRecOn with
  | nil => exact fresh.start.symm
  | append_singleton calls call ih =>
    obtain ⟨before, undue⟩ := (trigger.undecided_concat calls call).mp undecided
    rw [called_concat, ih before, (simulate_undecided fresh armed calls call).1 undue]

theorem firesAt_undecided {earlier : List Call} (undecided : trigger.Undecided earlier)
    (call : Call) :
    trigger.firesAt earlier call = true ↔ ¬ 0 < trigger.delay ∧ trigger.Due earlier call := by
  obtain ⟨silent, decided⟩ := simulate_undecided fresh armed earlier call
  have still : (trigger.considered (earlier ++ [call])).oneShot = some .armed := armed
  have delay : (trigger.considered (earlier ++ [call])).delay = trigger.delay := rfl
  rw [firesAt, called_undecided fresh armed undecided]
  by_cases due : trigger.Due earlier call
  · rw [decided due]
    simp only [commit, still, delay, due, and_true]
    split
    · rename_i delayed
      simp only [delayed, not_true_eq_false, Bool.false_eq_true]
    · rename_i prompt
      simp only [prompt, not_false_eq_true]
  · rw [silent due]
    simp only [due, and_false, Bool.false_eq_true]

end

/-- How far a one-shot trigger has come some steps after it has decided. -/
def stage (delay : Scalar) (steps : List Scalar) : OneShot :=
  if 0 < delay ∧ Scalar.Outlasts delay steps then .counting (Scalar.countdown delay steps)
  else .fired

theorem commit_armed {trigger : Trigger} (armed : trigger.oneShot = some .armed) :
    trigger.commit.2 = { trigger with oneShot := some (stage trigger.delay []) } := by
  have none_ : Scalar.Outlasts trigger.delay [] := fun _ inside => absurd inside (Nat.not_lt_zero _)
  simp only [commit, armed, stage, none_, and_true]
  split
  · rfl
  · rfl

/-- After its decision a one-shot trigger only counts down. -/
theorem simulate_stage {trigger : Trigger} (active : trigger.disabled = false) (delay : Scalar)
    (steps : List Scalar) (world : World) (dt : Scalar) :
    let decided : Trigger := { trigger with oneShot := some (stage delay steps) }
    ((decided.simulate world dt).1 = true ↔ 0 < delay ∧ Scalar.EndsIn delay steps dt) ∧
      (decided.simulate world dt).2 =
        { trigger with oneShot := some (stage delay (steps ++ [dt])) } := by
  simp only [simulate, active, Bool.false_eq_true, ↓reduceIte]
  by_cases counting : 0 < delay ∧ Scalar.Outlasts delay steps
  · have still (left : ¬ Scalar.countdown delay (steps ++ [dt]) ≤ 0) :
        stage delay (steps ++ [dt]) = .counting (Scalar.countdown delay (steps ++ [dt])) :=
      if_pos ⟨counting.1, (Scalar.outlasts_concat delay steps dt).mpr ⟨counting.2, left⟩⟩
    have ended (spent : Scalar.countdown delay (steps ++ [dt]) ≤ 0) :
        stage delay (steps ++ [dt]) = .fired :=
      if_neg fun counts => ((Scalar.outlasts_concat delay steps dt).mp counts.2).2 spent
    have now : stage delay steps = .counting (Scalar.countdown delay steps) := if_pos counting
    rw [now]
    dsimp only
    rw [← Scalar.countdown_concat]
    simp only [Scalar.EndsIn, counting.1, counting.2, true_and]
    split
    · rename_i spent
      rw [ended spent]
      exact ⟨by simp only [spent], rfl⟩
    · rename_i left
      rw [still left]
      exact ⟨by simp only [left, Bool.false_eq_true], rfl⟩
  · have fired : stage delay steps = .fired := if_neg counting
    have stays : stage delay (steps ++ [dt]) = .fired := if_neg fun counts =>
      counting ⟨counts.1, ((Scalar.outlasts_concat delay steps dt).mp counts.2).1⟩
    rw [fired, stays]
    refine ⟨?_, rfl⟩
    simp only [Bool.false_eq_true, false_iff]
    exact fun ends => counting ⟨ends.1, ends.2.1⟩

section

variable {trigger : Trigger} (fresh : trigger.Fresh) (armed : trigger.oneShot = some .armed)

include fresh armed

/-- What the calls after the decision leave of a trigger: its conditions are left alone. -/
theorem called_decided {before : List Call} {decisive : Call}
    (first : trigger.FirstDue before decisive) (after : List Call) :
    trigger.called (before ++ decisive :: after) =
      { trigger.considered (before ++ [decisive]) with
        oneShot := some (stage trigger.delay (after.map Call.dt)) } := by
  induction after using List.reverseRecOn with
  | nil =>
    have still : (trigger.considered (before ++ [decisive])).oneShot = some .armed := armed
    rw [called_concat, called_undecided fresh armed first.1,
      (simulate_undecided fresh armed before decisive).2 first.2, commit_armed still]
    rfl
  | append_singleton after call ih =>
    have active : (trigger.considered (before ++ [decisive])).disabled = false := fresh.active
    rw [← List.cons_append, ← List.append_assoc, called_concat, ih, List.map_append]
    exact (simulate_stage active trigger.delay (after.map Call.dt) call.world call.dt).2

theorem firesAt_decided {before : List Call} {decisive : Call}
    (first : trigger.FirstDue before decisive) (after : List Call) (call : Call) :
    trigger.firesAt (before ++ decisive :: after) call = true ↔
      0 < trigger.delay ∧ Scalar.EndsIn trigger.delay (after.map Call.dt) call.dt := by
  have active : (trigger.considered (before ++ [decisive])).disabled = false := fresh.active
  rw [firesAt, called_decided fresh armed first]
  exact (simulate_stage active trigger.delay (after.map Call.dt) call.world call.dt).1

/-- The only call at which a one-shot trigger fires. -/
theorem firesAt_iff (earlier : List Call) (call : Call) :
    trigger.firesAt earlier call = true ↔
      if 0 < trigger.delay then
        ∃ before decisive between, earlier = before ++ decisive :: between ∧
          trigger.FirstDue before decisive ∧
          Scalar.EndsIn trigger.delay (between.map Call.dt) call.dt
      else trigger.FirstDue earlier call := by
  by_cases undecided : trigger.Undecided earlier
  · rw [firesAt_undecided fresh armed undecided]
    split
    · rename_i delayed
      refine ⟨fun prompt => absurd delayed prompt.1, ?_⟩
      rintro ⟨before, decisive, between, rfl, first, _⟩
      exact absurd first.2 (undecided before decisive between rfl)
    · rename_i prompt
      exact ⟨fun due => ⟨undecided, due.2⟩, fun first => ⟨prompt, first.2⟩⟩
  · obtain ⟨before, decisive, between, rfl, first⟩ := exists_firstDue undecided
    rw [firesAt_decided fresh armed first]
    split
    · rename_i delayed
      refine ⟨fun ends => ⟨before, decisive, between, rfl, first, ends.2⟩, ?_⟩
      rintro ⟨other, decided, rest, same, again, ends⟩
      obtain ⟨rfl, rfl, rfl⟩ := first.unique again same
      exact ⟨delayed, ends⟩
    · rename_i prompt
      exact ⟨fun ends => absurd ends.1 prompt, fun again => absurd again.1 undecided⟩

/-- A one-shot trigger fires at most once. -/
theorem firesAt_once {earlier : List Call} {call : Call}
    (fires : trigger.firesAt earlier call = true) (later : List Call) (next : Call) :
    trigger.firesAt (earlier ++ call :: later) next = false := by
  rw [← Bool.not_eq_true]
  by_cases undecided : trigger.Undecided earlier
  · obtain ⟨prompt, due⟩ := (firesAt_undecided fresh armed undecided call).mp fires
    rw [firesAt_decided fresh armed ⟨undecided, due⟩]
    exact fun again => prompt again.1
  · obtain ⟨before, decisive, between, rfl, first⟩ := exists_firstDue undecided
    obtain ⟨_, ends⟩ := (firesAt_decided fresh armed first between call).mp fires
    rw [List.append_assoc, List.cons_append, firesAt_decided fresh armed first, List.map_append,
      List.map_cons]
    exact fun again => ends.once (later.map Call.dt) again.2.1

end

/-- When a trigger fires is determined by its policy and the values of its conditions, which are all
looked at once in each call. One that can fire again and again fires just when its policy holds. A
one-shot trigger fires at most once: when its policy holds for the first time or, if it has a
positive delay, when the calls after that have used up the delay; and from the decision on it leaves
its conditions alone. -/
theorem firing_follows_policy (conditions : List Condition) (required : Quantity)
    (policy : FireWhen) (delay : Scalar) (earlier : List Call) (call : Call) :
    let repeating : Trigger := { conditions, required, policy, delay }
    let single : Trigger := { conditions, required, policy, delay, oneShot := some .armed }
    (repeating.firesAt earlier call = true ↔ repeating.Due earlier call) ∧
      (repeating.called earlier).conditions = repeating.looked earlier ∧
      (single.firesAt earlier call = true ↔
        if 0 < delay then
          ∃ before decisive between, earlier = before ++ decisive :: between ∧
            single.FirstDue before decisive ∧
            Scalar.EndsIn delay (between.map Call.dt) call.dt
        else single.FirstDue earlier call) ∧
      (single.firesAt earlier call = true → ∀ later next,
        single.firesAt (earlier ++ call :: later) next = false) ∧
      (single.Undecided earlier → (single.called earlier).conditions = single.looked earlier) ∧
      ∀ before decisive after, earlier = before ++ decisive :: after →
        single.FirstDue before decisive →
          (single.called earlier).conditions = single.looked (before ++ [decisive]) := by
  intro repeating single
  have begins (oneShot : Option OneShot) :
      Fresh { conditions, required, policy, delay, oneShot } := by
    refine ⟨rfl, ?_⟩
    have unlooked : looked { conditions, required, policy, delay, oneShot } [] = conditions := by
      unfold looked
      split
      · rfl
      · exact List.map_id' conditions
    simp only [considered, unlooked, valueAfter, List.getLast?_nil, Bool.and_false,
      List.isEmpty_nil, Bool.not_true]
  have fresh : repeating.Fresh := begins none
  have freshSingle : single.Fresh := begins (some .armed)
  refine ⟨?_, ?_, firesAt_iff freshSingle rfl earlier call,
    fun fires => firesAt_once freshSingle rfl fires, ?_, ?_⟩
  · rw [firesAt, called_repeating fresh rfl, simulate_repeating fresh rfl]
    exact (repeating.judge_considered earlier call).1
  · rw [called_repeating fresh rfl]
    rfl
  · intro undecided
    rw [called_undecided freshSingle rfl undecided]
    rfl
  · rintro before decisive after rfl first
    rw [called_decided freshSingle rfl first]
    rfl

/-- A call in a world of some state. -/
def callIn (state : MissionState) : Call where
  world := { state, settings := {}, environment := { name := "arena" }, pools := {} }
  dt := 16

/-- What fires a bell as the mission comes into one of two states. -/
def bell : Trigger where
  conditions := [{ kind := .missionState [.inProgress] }, { kind := .missionState [.battle] }]
  required := .any
  policy := .changeToTrue

theorem bell_rings_once :
    bell.firesAt [callIn .idle] (callIn .battle) = true ∧
      bell.firesAt [callIn .idle, callIn .battle] (callIn .inProgress) = false := by
  have due (earlier : List Call) (call : Call) :
      bell.firesAt earlier call = true ↔ bell.Due earlier call :=
    (firing_follows_policy bell.conditions .any .changeToTrue 0 earlier call).1
  refine ⟨(due _ _).mpr ⟨valueAt_iff.mpr ?_, rfl⟩, ?_⟩
  · exact ⟨_, List.mem_cons_of_mem _ List.mem_cons_self, rfl⟩
  · rw [← Bool.not_eq_true, due]
    rintro ⟨_, still⟩
    cases still

end Trigger

end Sortie
