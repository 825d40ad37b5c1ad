import Sortie.Proofs.Timers
import Sortie.Proofs.WholeNumbers

set_option autoImplicit false

namespace Sortie

open Scalar (IsWhole)

/-- A number of periods, no more than are to be counted. -/
def TimerPlan.capped (plan : TimerPlan) (periods : Nat) : Nat :=
  match plan.maxCount with
  | some most => Min.min periods most
  | none => periods

theorem TimerPlan.capped_cases (plan : TimerPlan) (periods : Nat) :
    (plan.capped periods = periods ∧ ∀ most ∈ plan.maxCount, periods < most) ∨
      ∃ most, plan.maxCount = some most ∧ plan.capped periods = most ∧ most ≤ periods := by
  unfold capped
  cases bound : plan.maxCount with
  | none => exact .inl ⟨rfl, nofun⟩
  | some most =>
    rcases Nat.lt_or_ge periods most with less | reached
    · refine .inl ⟨Nat.min_eq_left (Nat.le_of_lt less), fun other same => ?_⟩
      cases same
      exact less
    · exact .inr ⟨most, rfl, Nat.min_eq_right reached, reached⟩

namespace Timer

section

variable (timer : Timer) {period shown : Nat} (time : IsWhole timer.plan.time period)
  (some_ : 0 < period) (clock : IsWhole timer.elapsed shown) (short : shown < 2 ^ 24)
  (open_ : 0 < timer.countsLeft) (room : timer.countsLeft < UInt64.size)

include time some_ clock short open_ room

/-- Every full period on the clock is counted, as far as there are counts left. -/
theorem countPeriods_eq (small : timer.count + shown / period ≤ countLimit) :
    ∃ rest, IsWhole rest (shown % period) ∧
      timer.countPeriods =
        (decide (period ≤ shown),
          { timer with
            count := timer.count + Min.min (shown / period) timer.countsLeft
            elapsed := rest }) := by
  have quotient := clock.floor_div time some_ short
  have few : shown / period < 2 ^ 24 := Nat.lt_of_le_of_lt (Nat.div_le_self shown period) short
  unfold countPeriods
  dsimp only
  by_cases early : shown < period
  · rw [if_pos (.inr ((clock.lt_iff time).mpr early)), decide_eq_false (Nat.not_le_of_lt early),
      Nat.div_eq_of_lt early, Nat.mod_eq_of_lt early, Nat.zero_min, Nat.add_zero]
    exact ⟨timer.elapsed, clock, rfl⟩
  · have late : ¬ (timer.countsLeft = 0 ∨ timer.elapsed < timer.plan.time) := by
      rintro (none_ | less)
      · omega
      · exact early ((clock.lt_iff time).mp less)
    -- The counts that are left may be rounded, but not across a number below 2 ^ 24.
    have crossed : (if (timer.elapsed / timer.plan.time).floor < Scalar.ofCount timer.countsLeft
        then (timer.elapsed / timer.plan.time).floor.wholeCount else timer.countsLeft) =
          Min.min (shown / period) timer.countsLeft := by
      have counts := quotient.lt_ofCount few room
      split
      · rename_i less
        rw [quotient.wholeCount (Nat.lt_trans few (by decide)),
          Nat.min_eq_left (Nat.le_of_lt (counts.mp less))]
      · rename_i most
        rw [Nat.min_eq_right (Nat.le_of_not_lt (mt counts.mpr most))]
    have least : timer.count + Min.min (shown / period) timer.countsLeft ≤ countLimit := by omega
    rw [if_neg late, crossed, Nat.min_eq_left least, decide_eq_true (Nat.le_of_not_lt early)]
    exact ⟨_, clock.wrap time some_ short, rfl⟩

end

/-- What is on the clock before the next step. -/
def shown (timer : Timer) : Scalar :=
  if timer.running then timer.elapsed else timer.plan.startOffset

theorem advance_elapsed (timer : Timer) (dt : Scalar) :
    (timer.advance dt).elapsed = timer.shown + dt := rfl

theorem evaluate_repeating {timer : Timer} (repeating : timer.plan.when = .repeating)
    (free : timer.plan.startEvent = none) (world : World) (dt : Scalar) :
    timer.evaluate world dt = (timer.advance dt).countPeriods := by
  have started : isStarted timer.plan world = true := by rw [isStarted, free]
  rw [evaluate, if_pos (.inr started), judge, advance_plan, repeating]

/-- The counts that are left bound the periods that are counted. -/
theorem add_min_countsLeft {timer : Timer} {periods : Nat}
    (open_ : ∀ most ∈ timer.plan.maxCount, timer.count < most) (few : periods ≤ countLimit) :
    timer.count + Min.min periods timer.countsLeft =
      timer.plan.capped (timer.count + periods) := by
  cases bound : timer.plan.maxCount with
  | none => simp only [countsLeft, TimerPlan.capped, bound, Nat.min_eq_left few]
  | some most =>
    have below := open_ most bound
    simp only [countsLeft, TimerPlan.capped, bound]
    omega

theorem countsLeft_bounds {timer : Timer} (accepted : timer.plan.Accepted)
    (open_ : ∀ most ∈ timer.plan.maxCount, timer.count < most) :
    0 < timer.countsLeft ∧ timer.countsLeft ≤ countLimit := by
  cases bound : timer.plan.maxCount with
  | none =>
    simp only [countsLeft, bound]
    decide
  | some most =>
    have below := open_ most bound
    have small : most < UInt32.size := (accepted.count most bound).2
    simp only [countsLeft, countLimit, bound]
    omega

/-- What is on the clock counts from the last full period, so a step carries over. -/
theorem add_div_mod {count period before total : Nat} (step : Nat) (some_ : 0 < period)
    (sum : count * period + before = total) :
    (total + step) / period = count + (before + step) / period ∧
      (total + step) % period = (before + step) % period := by
  have later : total + step = period * count + (before + step) := by
    rw [← sum, Nat.mul_comm, Nat.add_assoc]
  rw [later, Nat.mul_add_div some_, Nat.mul_add_mod]
  exact ⟨rfl, rfl⟩

/-- The timer has counted the periods of some time: with what is left on the clock they make up all
of it, or no more are to be counted. -/
inductive Tallies (timer : Timer) (period total : Nat) : Prop
  | counting (rest : Nat) (clock : IsWhole timer.shown rest)
      (open_ : ∀ most ∈ timer.plan.maxCount, timer.count < most)
      (sum : timer.count * period + rest = total)
  | full (most : Nat) (bound : timer.plan.maxCount = some most) (spent : timer.count = most)
      (enough : most * period ≤ total)

section

variable {timer : Timer} {period total : Nat} (accepted : timer.plan.Accepted)
  (repeating : timer.plan.when = .repeating) (free : timer.plan.startEvent = none)
  (time : IsWhole timer.plan.time period)

include accepted repeating time in
theorem period_pos : 0 < period := by
  refine Nat.pos_of_ne_zero fun zero => accepted.period repeating ?_
  have value := time.value
  rw [zero, Nat.zero_mul] at value
  exact Scalar.le_iff.mpr ⟨0, 0, value, Scalar.value?_zero, Int.le_refl 0⟩

include repeating free in
/-- With no counts left, only the clock goes on. -/
theorem evaluate_full {most : Nat} (bound : timer.plan.maxCount = some most)
    (spent : timer.count = most) (world : World) (dt : Scalar) :
    timer.evaluate world dt = (false, timer.advance dt) := by
  have none_ : (timer.advance dt).countsLeft = 0 := by
    simp only [countsLeft, advance, bound, spent, Nat.sub_self]
  rw [evaluate_repeating repeating free, countPeriods, if_pos (.inl none_)]

include accepted repeating free time in
/-- With counts left, a step adds the periods that it completes, and leaves the remainder. -/
theorem evaluate_counting {before : Nat} (clock : IsWhole timer.shown before)
    (open_ : ∀ most ∈ timer.plan.maxCount, timer.count < most)
    (sum : timer.count * period + before = total) {dt : Scalar} {step : Nat}
    (whole : IsWhole dt step) (short : total + step < 2 ^ 24) (world : World) :
    ∃ rest, IsWhole rest ((total + step) % period) ∧
      timer.evaluate world dt =
        (decide (timer.count < timer.plan.capped ((total + step) / period)),
          { timer.advance dt with
            count := timer.plan.capped ((total + step) / period)
            elapsed := rest }) := by
  have some_ := period_pos accepted repeating time
  obtain ⟨counted, remainder⟩ := add_div_mod step some_ sum
  have few : (total + step) / period < 2 ^ 24 :=
    Nat.lt_of_le_of_lt (Nat.div_le_self _ _) short
  have limits : 2 ^ 24 < countLimit ∧ countLimit < UInt64.size := by decide
  obtain ⟨left, most⟩ := countsLeft_bounds accepted open_
  have count : timer.count + Min.min ((before + step) / period) timer.countsLeft =
      timer.plan.capped ((total + step) / period) := by
    rw [counted]
    exact add_min_countsLeft open_ (by omega)
  have clock' : IsWhole (timer.advance dt).elapsed (before + step) := by
    rw [advance_elapsed]
    exact clock.add whole (by omega)
  have small : timer.count + (before + step) / period ≤ countLimit := by omega
  obtain ⟨rest, last, judged⟩ := countPeriods_eq (timer.advance dt) time some_ clock' (by omega)
    left (Nat.lt_of_le_of_lt most limits.2) small
  refine ⟨rest, remainder ▸ last, ?_⟩
  have crossed : period ≤ before + step ↔
      timer.count < timer.plan.capped ((total + step) / period) := by
    have full : 0 < (before + step) / period ↔ period ≤ before + step := Nat.div_pos_iff.trans
      ⟨And.right, fun enough => ⟨some_, enough⟩⟩
    rw [← count, ← full]
    omega
  have total_ : (timer.advance dt).count +
      Min.min ((before + step) / period) (timer.advance dt).countsLeft =
        timer.plan.capped ((total + step) / period) := count
  rw [evaluate_repeating repeating free, judged, decide_eq_decide.mpr crossed, total_]

include accepted repeating free time in
/-- A tally stays one. -/
theorem Tallies.evaluate (tallies : timer.Tallies period total) {dt : Scalar} {step : Nat}
    (whole : IsWhole dt step) (short : total + step < 2 ^ 24) (world : World) :
    (timer.evaluate world dt).2.Tallies period (total + step) := by
  cases tallies with
  | full most bound spent enough =>
    rw [evaluate_full repeating free bound spent]
    exact .full most bound spent (Nat.le_add_right_of_le enough)
  | counting before clock open_ sum =>
    obtain ⟨rest, last, judged⟩ := evaluate_counting accepted repeating free time clock open_ sum
      whole short world
    rw [judged]
    rcases timer.plan.capped_cases ((total + step) / period) with ⟨uncut, room⟩ |
      ⟨most, bound, cut, reached⟩
    · rw [uncut]
      exact .counting _ last room (Nat.div_add_mod' (total + step) period)
    · rw [cut]
      have enough := (Nat.le_div_iff_mul_le (period_pos accepted repeating time)).mp reached
      exact .full most bound rfl enough

include accepted repeating free time in
theorem Tallies.called (tallies : timer.Tallies period total) {calls : List Call}
    {steps : List Nat} (whole : List.Forall₂ (fun call step => IsWhole call.dt step) calls steps)
    (short : total + steps.sum < 2 ^ 24) :
    (timer.called calls).Tallies period (total + steps.sum) ∧
      (timer.called calls).plan = timer.plan := by
  induction whole generalizing timer total with
  | nil => exact ⟨tallies, rfl⟩
  | @cons call step calls steps whole _ ih =>
    rw [List.sum_cons, ← Nat.add_assoc] at short ⊢
    have plan := timer.evaluate_plan call.world call.dt
    have next := tallies.evaluate accepted repeating free time whole (by omega) call.world
    -- What is assumed of the plan holds after the call, which does not change it.
    rw [← plan] at accepted repeating free time ⊢
    exact ih accepted repeating free time next short

end

/-- After each call of a repeating timer that waits for nothing, all full periods are counted that
have passed, as far as they are to be counted. The answer says whether some were added by this call.
Until the last one was counted, the clock shows what has passed of the next period. -/
theorem repeating_counts_periods {timer : Timer} (built : timer.IsBuilt)
    (repeating : timer.plan.when = .repeating) (free : timer.plan.startEvent = none)
    {period offset : Nat} (time : IsWhole timer.plan.time period)
    (start : IsWhole timer.plan.startOffset offset) {earlier : List Call} {steps : List Nat}
    (whole : List.Forall₂ (fun call step => IsWhole call.dt step) earlier steps) {call : Call}
    {step : Nat} (last : IsWhole call.dt step) (short : offset + steps.sum + step < 2 ^ 24) :
    let total := offset + steps.sum + step
    let before := timer.called earlier
    let after := timer.called (earlier ++ [call])
    after.count = timer.plan.capped (total / period) ∧
      (timer.answer earlier call = true ↔ before.count < after.count) ∧
      ((∀ most ∈ timer.plan.maxCount, before.count < most) →
        IsWhole after.elapsed (total % period)) := by
  intro total before after
  have accepted := built.accepted
  have fresh := built.fresh
  have begins : timer.Tallies period offset := by
    rw [fresh]
    refine .counting offset start (fun most bound => (accepted.count most bound).1) ?_
    rw [Nat.zero_mul, Nat.zero_add]
  obtain ⟨tallies, plan⟩ := begins.called accepted repeating free time whole (by omega)
  have evaluated : after = (before.evaluate call.world call.dt).2 := timer.called_concat earlier call
  rw [evaluated, answer, ← plan]
  rw [← plan] at accepted repeating free time
  have some_ := period_pos accepted repeating time
  cases tallies with
  | full most bound spent enough =>
    rw [evaluate_full repeating free bound spent]
    have reached : most ≤ total / period :=
      (Nat.le_div_iff_mul_le some_).mpr (Nat.le_add_right_of_le enough)
    refine ⟨?_, ⟨nofun, fun more => absurd more (Nat.lt_irrefl before.count)⟩, fun open_ => ?_⟩
    · rw [TimerPlan.capped, bound]
      exact spent.trans (Nat.min_eq_right reached).symm
    · exact absurd (open_ most bound) (spent ▸ Nat.lt_irrefl most)
  | counting rest clock open_ sum =>
    obtain ⟨rest, clock, judged⟩ := evaluate_counting accepted repeating free time clock open_ sum
      last short call.world
    rw [judged]
    exact ⟨rfl, decide_eq_true_iff, fun _ => clock⟩

/-- A timer that counts three seconds, with half a second on its clock at the start. -/
def metronome : Timer := { plan := ⟨1000, .repeating, some 3, 500, none⟩ }

theorem metronome_isBuilt : metronome.IsBuilt := by
  let params : Json.Value :=
    .object [("time", .ofNat 1000), ("when", .text "repeat"), ("maxCount", .ofNat 3),
      ("startOffset", .ofNat 500)]
  exact ⟨⟨.afterFires 0, []⟩, params, rfl⟩

/-- The last step completes four seconds, of which two are still counted. -/
theorem metronome_counts_to_three :
    let step (dt : Scalar) : Call := ⟨.afterFires 0, dt⟩
    let after := metronome.called [step 1000, step 3600]
    after.count = 3 ∧ metronome.answer [step 1000] (step 3600) = true ∧
      IsWhole after.elapsed 100 := by
  intro step after
  have period : IsWhole metronome.plan.time 1000 := by decide +kernel
  have offset : IsWhole metronome.plan.startOffset 500 := by decide +kernel
  have first : IsWhole (step 1000).dt 1000 := by decide +kernel
  have last : IsWhole (step 3600).dt 3600 := by decide +kernel
  obtain ⟨count, answer, clock⟩ := repeating_counts_periods metronome_isBuilt rfl rfl period offset
    (.cons first .nil) last (by decide)
  have before : (metronome.called [step 1000]).count = 1 := by decide +kernel
  have three : after.count = 3 := count
  refine ⟨three, answer.mpr ?_, clock fun most bound => ?_⟩
  · rw [before]
    exact Nat.lt_of_lt_of_eq (by decide) three.symm
  · cases bound
    rw [before]
    decide

end Timer

end Sortie
