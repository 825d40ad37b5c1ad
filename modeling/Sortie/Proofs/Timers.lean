import Sortie.Proofs.Doom
import Sortie.Proofs.FiringPolicy
import Sortie.Proofs.Loaded

set_option autoImplicit false

namespace Sortie

namespace Json.Reading

variable {α σ : Type}

theorem natural_le {limit value : Nat} {expected : String} {json : Value}
    (read : natural limit expected json = .ok value) : value ≤ limit := by
  unfold natural at read
  split at read
  · split at read
    · cases read
      assumption
    · cases read
  · cases read
  · cases read

theorem optional_some {reading : Reading α} {json : Value} {value : α}
    (read : optional reading json = .ok (some value)) : reading json = .ok value := by
  unfold optional at read
  split at read
  · cases read
  · obtain ⟨made, found, same⟩ := map_eq_ok read
    cases same
    exact found

/-- A property of records that the reading of a field does not spoil. -/
def Field.Keeps (P : σ → Prop) (field : Field σ) : Prop :=
  ∀ value record result, P record → field.read value record = .ok result → P result

theorem field_keeps {P : σ → Prop} {name : String} {absence : Absence} {reading : Reading α}
    {put : α → σ → σ}
    (kept : ∀ json value record, reading json = .ok value → P record → P (put value record)) :
    (field name absence reading put).Keeps P := by
  intro json record result before read
  obtain ⟨value, made, rfl⟩ := map_eq_ok read
  exact kept json value record made before

section

variable {P : σ → Prop} {fields : List (Field σ)} (keeps : ∀ field ∈ fields, field.Keeps P)

include keeps

theorem fromMembers_keeps {members : List (String × Value)} {record result : σ} (before : P record)
    (read : fromMembers fields record members = .ok result) : P result := by
  induction members generalizing record with
  | nil =>
    cases read
    exact before
  | cons member rest ih =>
    obtain ⟨key, value⟩ := member
    unfold fromMembers at read
    split at read
    · rename_i field found
      obtain ⟨next, made, read⟩ := bind_eq_ok read
      exact ih (keeps field (List.mem_of_find?_eq_some found) _ _ _ before made) read
    · exact ih before read

theorem fromItems_keeps {title : String} {index : Nat} {items : List Value} {record result : σ}
    (before : P record) (read : fromItems title index record fields items = .ok result) :
    P result := by
  induction fields generalizing index items record with
  | nil =>
    cases read
    exact before
  | cons field fields ih =>
    obtain ⟨first, others⟩ := List.forall_mem_cons.mp keeps
    cases items with
    | nil =>
      unfold fromItems at read
      split at read
      · exact ih others before read
      · cases read
    | cons value rest =>
      obtain ⟨next, made, read⟩ := bind_eq_ok read
      exact ih others (first _ _ _ before made) read

/-- What holds of the defaults and is kept by every field holds of each record that is read. -/
theorem record_keeps {title : String} {record result : σ} {json : Value} (before : P record)
    (read : Reading.record title fields record json = .ok result) : P result := by
  unfold Reading.record recordWith at read
  split at read
  · obtain ⟨made, found, read⟩ := bind_eq_ok read
    obtain ⟨_, _, read⟩ := bind_eq_ok read
    cases read
    exact fromMembers_keeps keeps before found
  · obtain ⟨made, found, read⟩ := bind_eq_ok read
    dsimp only at read
    split at read
    · cases read
    · cases read
      exact fromItems_keeps keeps before found
  · cases read

end

end Json.Reading

namespace Parameters

theorem mapError_eq_ok {ε ε' α : Type} {first : Except ε α} {f : ε → ε'} {value : α}
    (found : first.mapError f = .ok value) : first = .ok value := by
  cases first with
  | error problem => cases found
  | ok made =>
    cases found
    rfl

theorem read_eq_ok {α : Type} {kind : String} {reading : Json.Reading α} {params : Json.Value}
    {value : α} (found : Parameters.read kind reading params = .ok value) :
    ∃ json, reading json = .ok value := ⟨_, mapError_eq_ok found⟩

/-- The number of periods has 32 bits. -/
def Time.Small (p : Time) : Prop := ∀ most ∈ p.maxCount, most < UInt32.size

theorem time_small {json : Json.Value} {p : Time} (read : Parameters.time json = .ok p) :
    p.Small := by
  have start : Time.Small {} := fun _ same => by cases same
  refine Json.Reading.record_keeps ?_ start read
  simp only [List.forall_mem_cons, List.not_mem_nil, false_implies, implies_true, and_true]
  refine ⟨?time, ?when, ?maxCount, ?startOffset, ?start⟩
  case maxCount =>
    refine Json.Reading.field_keeps fun _ value _ read _ most same => ?_
    cases same
    have bound := Json.Reading.natural_le (Json.Reading.optional_some read)
    exact Nat.lt_of_le_of_lt bound (by decide)
  all_goals exact Json.Reading.field_keeps fun _ _ _ _ kept => kept

end Parameters

/-- A timer that the builder makes of a description. -/
def Timer.IsBuilt (timer : Timer) : Prop :=
  ∃ names params, Timer.ofParams names params = .ok timer

/-- What the builder accepts. -/
structure TimerPlan.Accepted (plan : TimerPlan) : Prop where
  time_finite : plan.time.isFinite = true
  time_forward : ¬ plan.time < 0
  offset_finite : plan.startOffset.isFinite = true
  offset_forward : ¬ plan.startOffset < 0
  period : plan.when = .repeating → ¬ plan.time ≤ 0
  count : ∀ most ∈ plan.maxCount, 0 < most ∧ most < UInt32.size

namespace Timer

theorem accepted_of_ofParams {names : Names} {params : Json.Value} {timer : Timer}
    (built : ofParams names params = .ok timer) :
    timer = { plan := timer.plan } ∧ timer.plan.Accepted := by
  obtain ⟨p, read, built⟩ := bind_eq_ok built
  obtain ⟨_, read⟩ := Parameters.read_eq_ok read
  have count := Parameters.time_small read
  dsimp only at built
  split at built
  · cases built
  rename_i time
  split at built
  · cases built
  rename_i period
  split at built
  · cases built
  rename_i offset
  split at built
  · cases built
  rename_i some_
  obtain ⟨start, _, built⟩ := bind_eq_ok built
  cases built
  simp only [not_or, Decidable.not_not] at time offset
  refine ⟨rfl, time.1, time.2, offset.1, offset.2, fun repeating none_ => ?_, fun most same => ?_⟩
  · exact period ⟨repeating, none_⟩
  · refine ⟨Nat.pos_of_ne_zero ?_, count most same⟩
    rintro rfl
    exact some_ same

section

variable {timer : Timer} (built : timer.IsBuilt)

include built

theorem IsBuilt.fresh : timer = { plan := timer.plan } := by
  obtain ⟨_, _, built⟩ := built
  exact (accepted_of_ofParams built).1

theorem IsBuilt.accepted : timer.plan.Accepted := by
  obtain ⟨_, _, built⟩ := built
  exact (accepted_of_ofParams built).2

end

/-- The timer after some calls. -/
def called (timer : Timer) (calls : List Call) : Timer :=
  calls.foldl (fun timer call => (timer.evaluate call.world call.dt).2) timer

/-- Whether the timer's time has come at a call, if it was called in each earlier one. -/
def answer (timer : Timer) (earlier : List Call) (call : Call) : Bool :=
  ((timer.called earlier).evaluate call.world call.dt).1

/-- The condition that the timer's time has come. -/
def condition (timer : Timer) : Condition := { kind := .time timer }

theorem called_concat (timer : Timer) (calls : List Call) (call : Call) :
    timer.called (calls ++ [call]) =
      ((timer.called calls).evaluate call.world call.dt).2 := by
  simp only [called, List.foldl_append, List.foldl_cons, List.foldl_nil]

theorem canBeImpossible_of_isImpossible {timer : Timer} (ended : timer.isImpossible = true) :
    timer.canBeImpossible = true := by
  cases when_ : timer.plan.when with
  | before | once => simp only [canBeImpossible, when_]
  | after => simp only [isImpossible, when_, Bool.false_eq_true] at ended
  | repeating =>
    simp only [isImpossible, when_, Option.any_eq_true] at ended
    obtain ⟨most, bound, _⟩ := ended
    simp only [canBeImpossible, when_, bound, Option.isSome_some]

end Timer

/-- A world in which the first event has fired some times. -/
def World.afterFires (count : Nat) : World :=
  { fires := #[count], settings := {}, environment := { name := "arena" }, pools := {} }

/-- Steps that a mission takes: of finite lengths that are not negative. -/
def Call.AllAccepted (calls : List Call) : Prop :=
  ∀ call ∈ calls, Mission.accepts call.dt = true

theorem Call.allAccepted_concat {earlier : List Call} {call : Call} :
    AllAccepted (earlier ++ [call]) ↔
      AllAccepted earlier ∧ Mission.accepts call.dt = true := by
  rw [AllAccepted, List.forall_mem_append, List.forall_mem_singleton, AllAccepted]

theorem Call.AllAccepted.upTo {earlier later : List Call} {call : Call}
    (steady : AllAccepted (earlier ++ call :: later)) : AllAccepted (earlier ++ [call]) := by
  rw [← List.singleton_append, ← List.append_assoc] at steady
  exact (List.forall_mem_append.mp steady).1

namespace Condition

/-- Whether the condition holds at a call, if it was looked at in each earlier one. -/
def answer (condition : Condition) (earlier : List Call) (call : Call) : Bool :=
  ((condition.lookedAt earlier).look call.world call.dt).1

/-- A condition that holds a timer, or that needs it no more. -/
inductive Heeds (condition : Condition) (timer : Timer) : Prop
  | asks (possible : condition.impossible = false) (kind : condition.kind = .time timer)
  | latched (impossible : condition.impossible = true) (ended : timer.isImpossible = true)

/-- A look at a condition on a timer is one at the timer. -/
theorem look_of_time {condition : Condition} {timer : Timer}
    (possible : condition.impossible = false) (kind : condition.kind = .time timer) (world : World)
    (dt : Scalar) :
    condition.look world dt =
      ((timer.evaluate world dt).1,
        { condition with
          kind := .time (timer.evaluate world dt).2
          lastSatisfied := (timer.evaluate world dt).1
          impossible := (timer.evaluate world dt).2.isImpossible }) := by
  cases ended : (timer.evaluate world dt).2.isImpossible with
  | true =>
    simp only [look, possible, evaluate, kind, checkImpossible, canBeImpossible, judgeImpossible,
      Timer.canBeImpossible_of_isImpossible ended, ended, Bool.false_eq_true, not_true_eq_false,
      ↓reduceIte]
  | false =>
    simp only [look, possible, evaluate, kind, checkImpossible, canBeImpossible, judgeImpossible,
      ended, Bool.false_eq_true, ↓reduceIte]
    split <;> rfl

/-- A look answers as the timer does. -/
theorem Heeds.look {condition : Condition} {timer : Timer} (heeds : condition.Heeds timer)
    (world : World) {dt : Scalar} (accepted : Mission.accepts dt = true) :
    (condition.look world dt).1 = (timer.evaluate world dt).1 ∧
      (condition.look world dt).2.Heeds (timer.evaluate world dt).2 := by
  cases heeds with
  | asks possible kind =>
    rw [look_of_time possible kind]
    refine ⟨rfl, ?_⟩
    cases ended : (timer.evaluate world dt).2.isImpossible with
    | true => exact .latched rfl ended
    | false => exact .asks rfl rfl
  | latched impossible ended =>
    obtain ⟨late, still⟩ := Timer.evaluate_of_isImpossible ended world accepted
    rw [look_of_impossible world dt impossible, late]
    exact ⟨rfl, .latched impossible still⟩

theorem Heeds.lookedAt {condition : Condition} {timer : Timer}
    (heeds : condition.Heeds timer) {calls : List Call} (accepted : Call.AllAccepted calls) :
    (condition.lookedAt calls).Heeds (timer.called calls) := by
  induction calls generalizing condition timer with
  | nil => exact heeds
  | cons call rest ih =>
    obtain ⟨first, others⟩ := List.forall_mem_cons.mp accepted
    exact ih (heeds.look call.world first).2 others

end Condition

/-- What is found impossible cuts off no answer. -/
theorem Timer.condition_answer (timer : Timer) {earlier : List Call} {call : Call}
    (accepted : Call.AllAccepted (earlier ++ [call])) :
    timer.condition.answer earlier call = timer.answer earlier call := by
  obtain ⟨before, last⟩ := Call.allAccepted_concat.mp accepted
  have start : timer.condition.Heeds timer := .asks rfl rfl
  exact ((start.lookedAt before).look call.world last).1

end Sortie
