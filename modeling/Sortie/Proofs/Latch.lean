import Mathlib.Data.List.InsertIdx
import Sortie.Proofs.Firing
import Sortie.Proofs.Scalars

set_option autoImplicit false

namespace Sortie

namespace Condition

theorem look_of_impossible {condition : Condition} (world : World) (dt : Scalar)
    (latched : condition.impossible = true) :
    condition.look world dt = (false, { condition with lastSatisfied := false }) := by
  simp only [look, latched, ↓reduceIte]

theorem look_impossible {condition : Condition} (world : World) (dt : Scalar)
    (latched : condition.impossible = true) :
    (condition.look world dt).2.impossible = true := by
  rw [look_of_impossible world dt latched]
  exact latched

theorem look_lastSatisfied (condition : Condition) (world : World) (dt : Scalar) :
    (condition.look world dt).2.lastSatisfied = (condition.look world dt).1 := by
  unfold look
  split
  · rfl
  · exact (checkImpossible_asked _ world).lastSatisfied

end Condition

namespace Trigger

/-- Enough conditions are found impossible that they never hold again as required. -/
def Exhausted (trigger : Trigger) : Prop :=
  trigger.conditions ≠ [] ∧
    match trigger.required with
    | .all => ∃ condition ∈ trigger.conditions, condition.impossible = true
    | .any => ∀ condition ∈ trigger.conditions, condition.impossible = true

/-- Whether a trigger with exhausted conditions decides to fire at its next look. -/
def decidesOnce (trigger : Trigger) : Bool :=
  trigger.policy.decides (!trigger.started) false trigger.previous

/-- Whether a trigger with exhausted conditions can still fire: it decides at its next look and any
delay is finite, or it has decided and what remains of the delay is finite. -/
def stillFires (trigger : Trigger) : Bool :=
  !trigger.disabled &&
    match trigger.oneShot with
    | none => trigger.decidesOnce
    | some .armed => trigger.decidesOnce && (!decide (0 < trigger.delay) || trigger.delay.isFinite)
    | some (.counting remaining) => remaining.isFinite
    | some .fired => false

/-- What remains of a delay that has begun is not over. -/
def Waiting (trigger : Trigger) : Prop :=
  ∀ remaining, trigger.oneShot = some (.counting remaining) → ¬ remaining ≤ 0

theorem Exhausted.of_asked {before after : Trigger} (exhausted : before.Exhausted)
    (asked : before.Asked after) : after.Exhausted := by
  have required : after.required = before.required := by rw [asked.rest]
  refine ⟨?_, ?_⟩
  · intro empty
    have length := asked.conditions.length_eq
    rw [empty, List.length_nil, List.length_eq_zero_iff] at length
    exact exhausted.1 length
  · rw [required]
    have latched := exhausted.2
    cases quantity : before.required with
    | all =>
      rw [quantity] at latched
      obtain ⟨condition, member, impossible⟩ := latched
      obtain ⟨place, found⟩ := List.mem_iff_getElem?.mp member
      obtain ⟨later, there, related⟩ := each_getElem? asked.conditions found
      exact ⟨later, List.mem_of_getElem? there, related.impossible impossible⟩
    | any =>
      rw [quantity] at latched
      intro later member
      obtain ⟨place, found⟩ := List.mem_iff_getElem?.mp member
      obtain ⟨condition, there, related⟩ := each_getElem? asked.conditions.flip found
      exact related.impossible (latched condition (List.mem_of_getElem? there))

theorem Exhausted.value {trigger : Trigger} (exhausted : trigger.Exhausted) (world : World)
    (dt : Scalar) : trigger.required.holds ((trigger.looks world dt).map Prod.fst) = false := by
  have latched := exhausted.2
  simp only [looks, List.map_map]
  cases quantity : trigger.required with
  | all =>
    rw [quantity] at latched
    obtain ⟨condition, member, impossible⟩ := latched
    refine List.all_eq_false.mpr ⟨false, ?_, by simp⟩
    refine List.mem_map.mpr ⟨condition, member, ?_⟩
    rw [Function.comp_apply, Condition.look_of_impossible world dt impossible]
  | any =>
    rw [quantity] at latched
    refine List.any_eq_false.mpr fun answer member => ?_
    obtain ⟨condition, there, rfl⟩ := List.mem_map.mp member
    rw [Function.comp_apply, Condition.look_of_impossible world dt (latched condition there)]
    simp

/-- A decision that depends on the conditions. -/
theorem judge_of_looks {trigger : Trigger} (policy : trigger.policy ≠ .missionStarts)
    (world : World) (dt : Scalar) :
    trigger.judge world dt =
      (trigger.policy.decides (!trigger.started)
          (trigger.required.holds ((trigger.looks world dt).map Prod.fst)) trigger.previous,
        { trigger with
          conditions := (trigger.looks world dt).map Prod.snd
          previous := trigger.required.holds ((trigger.looks world dt).map Prod.fst)
          started := true }) := by
  simp only [judge, policy, ↓reduceIte]
  rfl

/-- What a look leaves of an exhausted trigger. -/
def lookedInVain (trigger : Trigger) (world : World) (dt : Scalar) : Trigger :=
  if trigger.policy = .missionStarts then { trigger with started := true }
  else
    { trigger with
      conditions := (trigger.looks world dt).map Prod.snd
      started := true
      previous := false }

/-- An exhausted trigger decides by its policy alone. -/
theorem Exhausted.judge_eq {trigger : Trigger} (exhausted : trigger.Exhausted) (world : World)
    (dt : Scalar) :
    trigger.judge world dt = (trigger.decidesOnce, trigger.lookedInVain world dt) := by
  unfold decidesOnce lookedInVain
  by_cases policy : trigger.policy = .missionStarts
  · simp only [judge, policy, ↓reduceIte, FireWhen.decides]
  · rw [judge_of_looks policy, exhausted.value world dt, if_neg policy]

theorem Exhausted.lookedInVain {trigger : Trigger} (exhausted : trigger.Exhausted) (world : World)
    (dt : Scalar) : (trigger.lookedInVain world dt).Exhausted := by
  unfold Trigger.lookedInVain
  split
  · exact exhausted
  · simp only [looks, List.map_map]
    refine ⟨by simpa using exhausted.1, ?_⟩
    have latched := exhausted.2
    dsimp only
    cases quantity : trigger.required with
    | all =>
      rw [quantity] at latched
      obtain ⟨condition, member, impossible⟩ := latched
      exact ⟨_, List.mem_map_of_mem member, Condition.look_impossible world dt impossible⟩
    | any =>
      rw [quantity] at latched
      intro later member
      obtain ⟨condition, there, rfl⟩ := List.mem_map.mp member
      exact Condition.look_impossible world dt (latched condition there)

theorem lookedInVain_rest (trigger : Trigger) (world : World) (dt : Scalar) :
    (trigger.lookedInVain world dt).oneShot = trigger.oneShot ∧
      (trigger.lookedInVain world dt).delay = trigger.delay ∧
      (trigger.lookedInVain world dt).disabled = trigger.disabled := by
  unfold lookedInVain
  split
  · exact ⟨rfl, rfl, rfl⟩
  · exact ⟨rfl, rfl, rfl⟩

/-- What has not decided once the conditions are exhausted never does. -/
theorem decidesOnce_lookedInVain {trigger : Trigger} (world : World) (dt : Scalar)
    (undecided : trigger.decidesOnce = false) :
    (trigger.lookedInVain world dt).decidesOnce = false := by
  unfold decidesOnce at undecided ⊢
  unfold lookedInVain
  cases policy : trigger.policy <;> rw [policy] at undecided <;>
    simp_all [FireWhen.decides]

theorem Exhausted.turn {trigger later : Trigger} {fires : Bool} (exhausted : trigger.Exhausted)
    (turn : trigger.Turn fires later) : later.Exhausted := by
  apply turn.keeps _ (fun _ _ exhausted => exhausted)
    (fun _ _ exhausted asked => exhausted.of_asked asked) exhausted
  intro trigger world dt exhausted
  rw [exhausted.judge_eq world dt]
  exact exhausted.lookedInVain world dt

theorem Waiting.of_asked {before after : Trigger} (waiting : before.Waiting)
    (asked : before.Asked after) : after.Waiting := by
  rw [asked.rest]
  exact waiting

theorem judge_oneShot (trigger : Trigger) (world : World) (dt : Scalar) :
    (trigger.judge world dt).2.oneShot = trigger.oneShot := by
  unfold judge
  dsimp only
  split
  · rfl
  · rfl

theorem Waiting.commit {trigger : Trigger} (waiting : trigger.Waiting) :
    trigger.commit.2.Waiting := by
  unfold Trigger.commit
  split
  · exact waiting
  · split
    · rename_i delayed
      intro remaining counting
      cases counting
      exact Scalar.not_le_zero_of_pos _ delayed
    · intro remaining counting
      cases counting

theorem Waiting.consider {trigger : Trigger} (waiting : trigger.Waiting) (world : World)
    (dt : Scalar) : (trigger.consider world dt).2.Waiting := by
  have judged : (trigger.judge world dt).2.Waiting := by
    intro remaining counting
    rw [judge_oneShot] at counting
    exact waiting remaining counting
  unfold Trigger.consider
  dsimp only
  split
  · exact judged.commit
  · exact judged

theorem Waiting.simulate {trigger : Trigger} (waiting : trigger.Waiting) (world : World)
    (dt : Scalar) : (trigger.simulate world dt).2.Waiting := by
  unfold Trigger.simulate
  split
  · exact waiting
  · split
    · exact waiting
    · dsimp only
      split
      · intro remaining counting
        cases counting
      · rename_i left
        intro remaining counting
        cases counting
        exact left
    · exact waiting.consider world dt
    · exact waiting.consider world dt

theorem Waiting.turn {trigger later : Trigger} {fires : Bool} (waiting : trigger.Waiting)
    (turn : trigger.Turn fires later) : later.Waiting := by
  cases turn with
  | asked asked => exact waiting.of_asked asked
  | stepped _ asked => exact (waiting.simulate _ _).of_asked asked

theorem stillFires_of_asked {before after : Trigger} (asked : before.Asked after) :
    after.stillFires = before.stillFires := by
  rw [asked.rest]
  rfl

theorem stillFires_of_active {trigger : Trigger} (active : trigger.disabled = false) :
    trigger.stillFires =
      match trigger.oneShot with
      | none => trigger.decidesOnce
      | some .armed =>
        trigger.decidesOnce && (!decide (0 < trigger.delay) || trigger.delay.isFinite)
      | some (.counting remaining) => remaining.isFinite
      | some .fired => false := by
  simp only [stillFires, active, Bool.not_false, Bool.true_and]

theorem stillFires_lookedInVain {trigger : Trigger} (world : World) (dt : Scalar)
    (undecided : trigger.decidesOnce = false)
    (uncounted : trigger.oneShot = none ∨ trigger.oneShot = some .armed) :
    (trigger.lookedInVain world dt).stillFires = false := by
  have rest := trigger.lookedInVain_rest world dt
  unfold stillFires
  rw [rest.1, decidesOnce_lookedInVain world dt undecided]
  rcases uncounted with none_ | armed
  · rw [none_, Bool.and_false]
  · rw [armed, Bool.false_and, Bool.and_false]

theorem Exhausted.consider_undecided {trigger : Trigger} (exhausted : trigger.Exhausted)
    (world : World) (dt : Scalar) (undecided : trigger.decidesOnce = false) :
    trigger.consider world dt = (false, trigger.lookedInVain world dt) := by
  unfold Trigger.consider
  rw [exhausted.judge_eq world dt, undecided]
  simp only [Bool.false_eq_true, ↓reduceIte]

theorem Exhausted.consider_decided {trigger : Trigger} (exhausted : trigger.Exhausted)
    (world : World) (dt : Scalar) (decided : trigger.decidesOnce = true) :
    trigger.consider world dt = (trigger.lookedInVain world dt).commit := by
  unfold Trigger.consider
  rw [exhausted.judge_eq world dt, decided]
  simp only [↓reduceIte]

theorem commit_delayed {trigger : Trigger} (armed : trigger.oneShot = some .armed)
    (delayed : 0 < trigger.delay) :
    trigger.commit = (false, { trigger with oneShot := some (.counting trigger.delay) }) := by
  simp only [commit, armed, delayed, ↓reduceIte]

theorem commit_prompt {trigger : Trigger}
    (prompt : trigger.oneShot = none ∨ ¬ 0 < trigger.delay) : trigger.commit.1 = true := by
  unfold commit
  split
  · rfl
  · rename_i oneShot
    have short : ¬ 0 < trigger.delay := prompt.resolve_left (by rw [oneShot]; exact nofun)
    rw [if_neg short]

/-- A step leaves an exhausted trigger silent that cannot fire any more. -/
theorem Exhausted.simulate_silent {trigger : Trigger} (exhausted : trigger.Exhausted)
    (waiting : trigger.Waiting) (silent : trigger.stillFires = false) (world : World)
    {dt : Scalar} (finite : dt.isFinite = true) :
    (trigger.simulate world dt).1 = false ∧ (trigger.simulate world dt).2.stillFires = false := by
  cases active : trigger.disabled with
  | true =>
    simp only [Trigger.simulate, active, ↓reduceIte]
    exact ⟨trivial, silent⟩
  | false =>
    rw [stillFires_of_active active] at silent
    simp only [Trigger.simulate, active, Bool.false_eq_true, ↓reduceIte]
    cases oneShot : trigger.oneShot with
    | none =>
      rw [oneShot] at silent
      dsimp only
      rw [exhausted.consider_undecided world dt silent]
      exact ⟨rfl, stillFires_lookedInVain world dt silent (.inl oneShot)⟩
    | some stage =>
      cases stage with
      | fired => exact ⟨rfl, by simp only [stillFires, oneShot, Bool.and_false]⟩
      | counting remaining =>
        rw [oneShot] at silent
        -- Only what is infinite or no number is counted down for ever.
        obtain ⟨endless, left⟩ :=
          Scalar.infinite_sub remaining dt silent (waiting remaining oneShot) finite
        dsimp only
        rw [if_neg left]
        exact ⟨rfl, by simp only [stillFires, endless, Bool.and_false]⟩
      | armed =>
        rw [oneShot] at silent
        dsimp only at silent ⊢
        cases decided : trigger.decidesOnce with
        | false =>
          rw [exhausted.consider_undecided world dt decided]
          exact ⟨rfl, stillFires_lookedInVain world dt decided (.inr oneShot)⟩
        | true =>
          rw [decided, Bool.true_and, Bool.or_eq_false_iff, Bool.not_eq_false',
            decide_eq_true_iff] at silent
          -- The trigger decides, but into a delay without end.
          obtain ⟨shape, delay, _⟩ := trigger.lookedInVain_rest world dt
          rw [exhausted.consider_decided world dt decided,
            commit_delayed (shape.trans oneShot) (by rw [delay]; exact silent.1)]
          refine ⟨rfl, ?_⟩
          simp only [stillFires, delay, silent.2, Bool.and_false]

theorem Exhausted.turn_silent {trigger later : Trigger} {fires : Bool}
    (exhausted : trigger.Exhausted) (waiting : trigger.Waiting)
    (silent : trigger.stillFires = false) (turn : trigger.Turn fires later) :
    fires = false ∧ later.Exhausted ∧ later.stillFires = false := by
  have still := exhausted.turn turn
  cases turn with
  | asked asked => exact ⟨rfl, still, (stillFires_of_asked asked).trans silent⟩
  | @stepped now dt later accepted asked =>
    have finite := (Mission.finite_of_accepts accepted).1
    obtain ⟨quiet, silentStill⟩ := exhausted.simulate_silent waiting silent now finite
    exact ⟨quiet, still, (stillFires_of_asked asked).trans silentStill⟩

theorem simulate_counting {trigger : Trigger} (active : trigger.disabled = false)
    {remaining : Scalar} (counting : trigger.oneShot = some (.counting remaining))
    (finite : remaining.isFinite = true) (world : World) :
    (trigger.simulate world remaining).1 = true := by
  have spent := Scalar.sub_self_le_zero remaining finite
  simp only [simulate, active, counting, spent, Bool.false_eq_true, ↓reduceIte]

theorem Exhausted.simulate_prompt {trigger : Trigger} (exhausted : trigger.Exhausted)
    (active : trigger.disabled = false) (decided : trigger.decidesOnce = true)
    (prompt : trigger.oneShot = none ∨ trigger.oneShot = some .armed ∧ ¬ 0 < trigger.delay)
    (world : World) (dt : Scalar) : (trigger.simulate world dt).1 = true := by
  obtain ⟨shape, delay, _⟩ := trigger.lookedInVain_rest world dt
  simp only [Trigger.simulate, active, Bool.false_eq_true, ↓reduceIte]
  rcases prompt with always | ⟨armed, short⟩
  · simp only [always]
    rw [exhausted.consider_decided world dt decided]
    exact commit_prompt (.inl (shape.trans always))
  · simp only [armed]
    rw [exhausted.consider_decided world dt decided]
    exact commit_prompt (.inr (by rw [delay]; exact short))

theorem Exhausted.simulate_delayed {trigger : Trigger} (exhausted : trigger.Exhausted)
    (active : trigger.disabled = false) (decided : trigger.decidesOnce = true)
    (armed : trigger.oneShot = some .armed) (delayed : 0 < trigger.delay)
    (world : World) (dt : Scalar) :
    (trigger.simulate world dt).1 = false ∧
      (trigger.simulate world dt).2.oneShot = some (.counting trigger.delay) ∧
      (trigger.simulate world dt).2.disabled = false := by
  obtain ⟨shape, delay, enabled⟩ := trigger.lookedInVain_rest world dt
  simp only [Trigger.simulate, active, armed, Bool.false_eq_true, ↓reduceIte]
  rw [exhausted.consider_decided world dt decided,
    commit_delayed (shape.trans armed) (by rw [delay]; exact delayed)]
  exact ⟨rfl, by rw [delay], enabled.trans active⟩

/-- The trigger without one of its conditions. -/
def without (trigger : Trigger) (place : Nat) : Trigger :=
  { trigger with conditions := trigger.conditions.eraseIdx place }

/-- Any condition is enough, and the one at a place is impossible. -/
def Dispensable (place : Nat) (trigger : Trigger) : Prop :=
  trigger.required = .any ∧
    ∃ condition, trigger.conditions[place]? = some condition ∧ condition.impossible = true

theorem Dispensable.of_asked {place : Nat} {before after : Trigger}
    (dispensable : before.Dispensable place) (asked : before.Asked after) :
    after.Dispensable place := by
  obtain ⟨any, condition, found, impossible⟩ := dispensable
  obtain ⟨later, there, related⟩ := each_getElem? asked.conditions found
  refine ⟨?_, later, there, related.impossible impossible⟩
  rw [asked.rest]
  exact any

theorem Dispensable.judge {place : Nat} {trigger : Trigger}
    (dispensable : trigger.Dispensable place) (world : World) (dt : Scalar) :
    (trigger.judge world dt).2.Dispensable place := by
  by_cases policy : trigger.policy = .missionStarts
  · simp only [Trigger.judge, policy, ↓reduceIte]
    exact dispensable
  · rw [judge_of_looks policy]
    obtain ⟨any, condition, found, impossible⟩ := dispensable
    refine ⟨any, (condition.look world dt).2, ?_, Condition.look_impossible world dt impossible⟩
    simp only [looks, List.getElem?_map, found, Option.map_some]

theorem Dispensable.turn {place : Nat} {trigger later : Trigger} {fires : Bool}
    (dispensable : trigger.Dispensable place) (turn : trigger.Turn fires later) :
    later.Dispensable place :=
  turn.keeps (fun _ world dt dispensable => dispensable.judge world dt)
    (fun _ _ dispensable => dispensable)
    (fun _ _ dispensable asked => dispensable.of_asked asked) dispensable

theorem any_eraseIdx {answers : List Bool} {place : Nat} (no : answers[place]? = some false) :
    (answers.eraseIdx place).any id = answers.any id := by
  induction answers generalizing place with
  | nil => rfl
  | cons answer rest ih =>
    cases place with
    | zero =>
      rw [List.getElem?_cons_zero, Option.some.injEq] at no
      rw [List.eraseIdx_cons_zero, List.any_cons, no, id, Bool.false_or]
    | succ place =>
      rw [List.getElem?_cons_succ] at no
      rw [List.eraseIdx_cons_succ, List.any_cons, List.any_cons, ih no]

theorem looks_without (trigger : Trigger) (place : Nat) (world : World) (dt : Scalar) :
    (trigger.without place).looks world dt = (trigger.looks world dt).eraseIdx place := by
  simp only [looks, without, List.eraseIdx_map]

theorem judge_without {trigger : Trigger} {place : Nat} (dispensable : trigger.Dispensable place)
    (world : World) (dt : Scalar) :
    (trigger.without place).judge world dt =
      ((trigger.judge world dt).1, (trigger.judge world dt).2.without place) := by
  obtain ⟨any, condition, found, impossible⟩ := dispensable
  have value : (trigger.without place).required.holds
      (((trigger.without place).looks world dt).map Prod.fst) =
        trigger.required.holds ((trigger.looks world dt).map Prod.fst) := by
    have no : ((trigger.looks world dt).map Prod.fst)[place]? = some false := by
      simp only [looks, List.getElem?_map, found, Option.map_some,
        Condition.look_of_impossible world dt impossible]
    have same : (trigger.without place).required = .any := any
    rw [looks_without, ← List.eraseIdx_map, any, same]
    exact any_eraseIdx no
  have left : ((trigger.without place).looks world dt).map Prod.snd =
      ((trigger.looks world dt).map Prod.snd).eraseIdx place := by
    rw [looks_without, List.eraseIdx_map]
  by_cases policy : trigger.policy = .missionStarts
  · have same : (trigger.without place).policy = .missionStarts := policy
    simp only [judge, policy, same, ↓reduceIte]
    rfl
  · have other : (trigger.without place).policy ≠ .missionStarts := policy
    rw [judge_of_looks policy, judge_of_looks other, value, left]
    rfl

theorem commit_without (trigger : Trigger) (place : Nat) :
    (trigger.without place).commit = (trigger.commit.1, trigger.commit.2.without place) := by
  have oneShot : (trigger.without place).oneShot = trigger.oneShot := rfl
  have delay : (trigger.without place).delay = trigger.delay := rfl
  unfold commit
  rw [oneShot, delay]
  split
  · rfl
  · split
    · rfl
    · rfl

theorem consider_without {trigger : Trigger} {place : Nat}
    (dispensable : trigger.Dispensable place) (world : World) (dt : Scalar) :
    (trigger.without place).consider world dt =
      ((trigger.consider world dt).1, (trigger.consider world dt).2.without place) := by
  unfold consider
  rw [judge_without dispensable world dt]
  dsimp only
  split
  · exact commit_without _ place
  · rfl

/-- Where any condition is enough, a trigger does the same without an impossible one. -/
theorem simulate_without {trigger : Trigger} {place : Nat}
    (dispensable : trigger.Dispensable place) (world : World) (dt : Scalar) :
    (trigger.without place).simulate world dt =
      ((trigger.simulate world dt).1, (trigger.simulate world dt).2.without place) := by
  have considered := consider_without dispensable world dt
  have disabled : (trigger.without place).disabled = trigger.disabled := rfl
  have oneShot : (trigger.without place).oneShot = trigger.oneShot := rfl
  unfold simulate
  rw [disabled, oneShot]
  split
  · rfl
  · split
    · rfl
    · dsimp only
      split
      · rfl
      · rfl
    · exact considered
    · exact considered

end Trigger

end Sortie
