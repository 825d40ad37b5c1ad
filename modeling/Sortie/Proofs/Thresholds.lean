import Sortie.Proofs.Comparison
import Sortie.Proofs.Timers

set_option autoImplicit false

namespace Sortie

namespace TimerPlan

/-- The clock at the next call; it is started at the first one at which it may run. -/
def clockStep (plan : TimerPlan) (clock : Option Scalar) (call : Call) : Option Scalar :=
  match clock with
  | some elapsed => some (elapsed + call.dt)
  | none => if Timer.isStarted plan call.world then some (plan.startOffset + call.dt) else none

/-- The milliseconds on the clock after some calls, if it was started. -/
def clock (plan : TimerPlan) (calls : List Call) : Option Scalar :=
  calls.foldl plan.clockStep none

/-- Whether the time is up after some calls. -/
def reached (plan : TimerPlan) (calls : List Call) : Bool :=
  (plan.clock calls).any fun elapsed => plan.time ≤ elapsed

theorem clock_concat (plan : TimerPlan) (calls : List Call) (call : Call) :
    plan.clock (calls ++ [call]) = plan.clockStep (plan.clock calls) call := by
  simp only [clock, List.foldl_append, List.foldl_cons, List.foldl_nil]

/-- The clock stands still for as long as nothing has started it. -/
theorem clock_eq_none_iff (plan : TimerPlan) (calls : List Call) :
    plan.clock calls = none ↔ ∀ call ∈ calls, Timer.isStarted plan call.world = false := by
  induction calls using List.reverseRecOn with
  | nil => simp only [clock, List.foldl_nil, List.not_mem_nil, false_implies, implies_true]
  | append_singleton earlier call ih =>
    rw [clock_concat, List.forall_mem_append, List.forall_mem_singleton, ← ih]
    cases plan.clock earlier with
    | some elapsed => simp only [clockStep, reduceCtorEq, false_and]
    | none => simp only [clockStep, ite_eq_right_iff, reduceCtorEq, imp_false, Bool.not_eq_true,
        true_and]

section

variable {plan : TimerPlan} (accepted : plan.Accepted)

include accepted

/-- What is on the clock can be compared, also when it is infinite. -/
theorem clock_comparable {calls : List Call} (steady : Call.AllAccepted calls) :
    ∀ elapsed ∈ plan.clock calls, Scalar.Comparable elapsed := by
  induction calls using List.reverseRecOn with
  | nil => exact fun _ none_ => by cases none_
  | append_singleton earlier call ih =>
    obtain ⟨before, last⟩ := Call.allAccepted_concat.mp steady
    have finite := (Mission.finite_of_accepts last).1
    intro elapsed found
    rw [clock_concat] at found
    cases clock : plan.clock earlier with
    | some shown =>
      rw [clock] at found
      cases found
      exact (ih before shown clock).add finite
    | none =>
      simp only [clock, clockStep, Option.mem_def, Option.ite_none_right_eq_some] at found
      obtain ⟨_, same⟩ := found
      cases same
      exact (Scalar.Comparable.of_finite accepted.offset_finite).add finite

/-- Before the time is up and not before it exclude each other. -/
theorem lt_time_eq_not_reached {calls : List Call} (steady : Call.AllAccepted calls)
    {elapsed : Scalar} (clock : plan.clock calls = some elapsed) :
    decide (elapsed < plan.time) = !plan.reached calls := by
  have number := clock_comparable accepted steady elapsed clock
  have order := number.lt_or_le (Scalar.Comparable.of_finite accepted.time_finite)
  rw [reached, clock, Option.any_some]
  rcases order with less | most
  · rw [decide_eq_true less, decide_eq_false (Scalar.not_le_of_lt less)]
    rfl
  · rw [decide_eq_false (Scalar.not_lt_of_le most), decide_eq_true most]
    rfl

end

/-- The time stays up: a step does not put the clock back. -/
theorem reached_concat {plan : TimerPlan} {calls : List Call} (up : plan.reached calls = true)
    {call : Call} (accepted : Mission.accepts call.dt = true) :
    plan.reached (calls ++ [call]) = true := by
  obtain ⟨finite, forward⟩ := Mission.finite_of_accepts accepted
  obtain ⟨elapsed, clock, order⟩ := (Option.any_eq_true _ _).mp up
  have later := Scalar.le_add (of_decide_eq_true order) finite forward
  rw [reached, clock_concat, clock]
  exact decide_eq_true later

theorem reached_append {plan : TimerPlan} {calls later : List Call}
    (up : plan.reached calls = true) (steady : Call.AllAccepted later) :
    plan.reached (calls ++ later) = true := by
  induction later using List.reverseRecOn with
  | nil => rwa [List.append_nil]
  | append_singleton earlier call ih =>
    obtain ⟨before, last⟩ := Call.allAccepted_concat.mp steady
    rw [← List.append_assoc]
    exact reached_concat (ih before) last

/-- The time is not up if and only if it never was. -/
theorem reached_eq_false_iff {plan : TimerPlan} {calls : List Call}
    (steady : Call.AllAccepted calls) :
    plan.reached calls = false ↔
      ∀ before first later, calls = before ++ first :: later →
        plan.reached (before ++ [first]) = false := by
  constructor
  · rintro never before first later rfl
    rw [← List.singleton_append, ← List.append_assoc] at never steady
    refine Bool.eq_false_iff.mpr fun up => ?_
    rw [reached_append up (List.forall_mem_append.mp steady).2] at never
    cases never
  · intro never
    rcases List.eq_nil_or_concat calls with rfl | ⟨before, last, same⟩
    · rfl
    · rw [List.concat_eq_append] at same
      rw [same]
      exact never before last [] same

/-- Plans with the same time, offset and start. -/
structure SharesClock (plan other : TimerPlan) : Prop where
  time : plan.time = other.time
  startOffset : plan.startOffset = other.startOffset
  startEvent : plan.startEvent = other.startEvent

section

variable {plan other : TimerPlan} (shared : plan.SharesClock other)

include shared

theorem SharesClock.isStarted (world : World) :
    Timer.isStarted plan world = Timer.isStarted other world := by
  rw [Timer.isStarted, Timer.isStarted, shared.startEvent]

theorem SharesClock.clock (calls : List Call) : plan.clock calls = other.clock calls := by
  have step : plan.clockStep = other.clockStep := by
    funext clock call
    simp only [clockStep, shared.isStarted, shared.startOffset]
  rw [TimerPlan.clock, TimerPlan.clock, step]

theorem SharesClock.reached (calls : List Call) : plan.reached calls = other.reached calls := by
  rw [TimerPlan.reached, TimerPlan.reached, shared.clock, shared.time]

end

end TimerPlan

/-- A timer that fires once fires when the time is up and it has not fired yet. -/
theorem Timer.judge_once {timer : Timer} (once : timer.plan.when = .once) :
    timer.judge =
      (decide (timer.plan.time ≤ timer.elapsed) && !timer.fired,
        { timer with fired := timer.fired || decide (timer.plan.time ≤ timer.elapsed) }) := by
  obtain ⟨plan, running, elapsed, count, fired⟩ := timer
  dsimp only at once
  cases fired with
  | true => simp [judge, once]
  | false => by_cases order : plan.time ≤ elapsed <;> simp [judge, once, order]

namespace TimerPlan

/-- The timer that shows the clock after some calls. -/
def timerAt (plan : TimerPlan) (calls : List Call) : Timer where
  plan
  running := (plan.clock calls).isSome
  elapsed := (plan.clock calls).getD 0
  fired := decide (plan.when = .once) && plan.reached calls

/-- What it answers at the next call. -/
def verdict (plan : TimerPlan) (earlier : List Call) (call : Call) : Bool :=
  match plan.when with
  | .before => (plan.clock (earlier ++ [call])).any fun elapsed => elapsed < plan.time
  | .after => plan.reached (earlier ++ [call])
  | .once => plan.reached (earlier ++ [call]) && !plan.reached earlier
  | .repeating => false

section

variable {plan : TimerPlan} (threshold : plan.when ≠ .repeating)

include threshold

/-- The judgement on a clock that runs. -/
theorem judge_running {earlier : List Call} {call : Call} {elapsed : Scalar}
    (clock : plan.clock (earlier ++ [call]) = some elapsed)
    (lasting : plan.reached earlier = true → plan.reached (earlier ++ [call]) = true) :
    ({ plan, running := true, elapsed,
       fired := decide (plan.when = .once) && plan.reached earlier } : Timer).judge =
      (plan.verdict earlier call, plan.timerAt (earlier ++ [call])) := by
  have up : plan.reached (earlier ++ [call]) = decide (plan.time ≤ elapsed) := by
    rw [reached, clock, Option.any_some]
  cases when_ : plan.when with
  | before =>
    simp only [Timer.judge, timerAt, verdict, when_, clock, Option.any_some, Option.isSome_some,
      Option.getD_some, reduceCtorEq, decide_false, Bool.false_and]
  | after =>
    simp only [Timer.judge, timerAt, verdict, when_, clock, up, Option.isSome_some,
      Option.getD_some, reduceCtorEq, decide_false, Bool.false_and]
  | once =>
    have kept : (plan.reached earlier || plan.reached (earlier ++ [call])) =
        plan.reached (earlier ++ [call]) := by
      cases old : plan.reached earlier with
      | true => exact (lasting old).symm
      | false => rfl
    rw [Timer.judge_once when_]
    simp only [timerAt, verdict, when_, clock, ← up, kept, decide_true, Bool.true_and,
      Option.isSome_some, Option.getD_some]
  | repeating => exact absurd when_ threshold

/-- One call of a timer that shows the clock. -/
theorem evaluate_timerAt {earlier : List Call} {call : Call}
    (accepted : Mission.accepts call.dt = true) :
    (plan.timerAt earlier).evaluate call.world call.dt =
      (plan.verdict earlier call, plan.timerAt (earlier ++ [call])) := by
  have step := plan.clock_concat earlier call
  have lasting : plan.reached earlier = true → plan.reached (earlier ++ [call]) = true :=
    fun up => reached_concat up accepted
  cases clock : plan.clock earlier with
  | some elapsed =>
    rw [clock] at step
    rw [← judge_running threshold step lasting]
    simp only [Timer.evaluate, timerAt, clock, Timer.advance, Option.isSome_some, true_or,
      ↓reduceIte, Option.getD_some]
  | none =>
    rw [clock] at step
    by_cases started : Timer.isStarted plan call.world = true
    · rw [clockStep, if_pos started] at step
      rw [← judge_running threshold step lasting]
      simp only [Timer.evaluate, timerAt, clock, started, Timer.advance, Option.isSome_none, or_true,
        Bool.false_eq_true, ↓reduceIte]
    · rw [clockStep, if_neg started] at step
      have same : plan.timerAt (earlier ++ [call]) = plan.timerAt earlier := by
        rw [timerAt, timerAt, reached, reached, step, clock]
      have nothing : plan.verdict earlier call = false := by
        rw [verdict, reached, step]
        split <;> rfl
      rw [same, nothing, Timer.evaluate, if_neg]
      rintro (running | begun)
      · rw [timerAt, clock] at running
        cases running
      · exact started begun

end

end TimerPlan

namespace Timer

section

variable {timer : Timer} (built : timer.IsBuilt) (threshold : timer.plan.when ≠ .repeating)

include built threshold

/-- A timer with a threshold shows the clock. -/
theorem called_eq_timerAt {calls : List Call} (steady : Call.AllAccepted calls) :
    timer.called calls = timer.plan.timerAt calls := by
  induction calls using List.reverseRecOn with
  | nil =>
    rw [built.fresh]
    simp only [called, List.foldl_nil, TimerPlan.timerAt, TimerPlan.reached, TimerPlan.clock,
      Option.isSome_none, Option.getD_none, Option.any_none, Bool.and_false]
  | append_singleton earlier call ih =>
    obtain ⟨before, last⟩ := Call.allAccepted_concat.mp steady
    rw [called_concat, ih before,
      TimerPlan.evaluate_timerAt threshold last]

theorem answer_eq_verdict {earlier : List Call} {call : Call}
    (steady : Call.AllAccepted (earlier ++ [call])) :
    timer.answer earlier call = timer.plan.verdict earlier call := by
  obtain ⟨before, last⟩ := Call.allAccepted_concat.mp steady
  rw [answer, called_eq_timerAt built threshold before,
    TimerPlan.evaluate_timerAt threshold last]

end

end Timer

/-- What three answers have to do with each other that are given at every call: that the time is not
up yet, that it is up, and that it is reached now. -/
structure Thresholds (starts : World → Bool) (before after once : List Call → Call → Bool) :
    Prop where
  /-- As long as nothing has started the clock, none is given. -/
  waiting : ∀ earlier call, Call.AllAccepted (earlier ++ [call]) →
    (∀ each ∈ earlier ++ [call], starts each.world = false) →
    before earlier call = false ∧ after earlier call = false ∧ once earlier call = false
  /-- From the start on, either the first or the second is given. -/
  opposite : ∀ earlier call, Call.AllAccepted (earlier ++ [call]) →
    (∃ each ∈ earlier ++ [call], starts each.world = true) →
    before earlier call = !after earlier call
  /-- The second is never taken back. -/
  lasting : ∀ earlier call later next, Call.AllAccepted (earlier ++ call :: later ++ [next]) →
    after earlier call = true → after (earlier ++ call :: later) next = true
  /-- The third is given with the first of the second. -/
  first : ∀ earlier call, Call.AllAccepted (earlier ++ [call]) →
    (once earlier call = true ↔ after earlier call = true ∧
      ∀ former each later, earlier = former ++ each :: later → after former each = false)

/-- Only the answers to steps that a mission takes matter. -/
theorem Thresholds.congr {starts : World → Bool} {before after once : List Call → Call → Bool}
    (thresholds : Thresholds starts before after once) {before' after' once' : List Call → Call → Bool}
    (same : ∀ earlier call, Call.AllAccepted (earlier ++ [call]) →
      before' earlier call = before earlier call ∧ after' earlier call = after earlier call ∧
        once' earlier call = once earlier call) :
    Thresholds starts before' after' once' where
  waiting earlier call steady idle := by
    obtain ⟨one, two, three⟩ := same earlier call steady
    rw [one, two, three]
    exact thresholds.waiting earlier call steady idle
  opposite earlier call steady begun := by
    obtain ⟨one, two, _⟩ := same earlier call steady
    rw [one, two]
    exact thresholds.opposite earlier call steady begun
  lasting earlier call later next steady up := by
    have whole := steady
    rw [List.append_assoc, List.cons_append] at whole
    rw [(same earlier call whole.upTo).2.1] at up
    rw [(same _ next steady).2.1]
    exact thresholds.lasting earlier call later next steady up
  first earlier call steady := by
    obtain ⟨_, two, three⟩ := same earlier call steady
    rw [two, three, thresholds.first earlier call steady]
    have before : ∀ former each later, earlier = former ++ each :: later →
        after' former each = after former each := by
      rintro former each later rfl
      exact (same former each (Call.allAccepted_concat.mp steady).1.upTo).2.1
    refine and_congr_right fun _ => forall₄_congr fun former each later split => ?_
    rw [before former each later split]

/-- The clock of an accepted plan decides all three. -/
theorem TimerPlan.Accepted.thresholds {plan : TimerPlan} (accepted : plan.Accepted) :
    Thresholds (Timer.isStarted plan)
      (fun earlier call =>
        (plan.clock (earlier ++ [call])).any fun elapsed => elapsed < plan.time)
      (fun earlier call => plan.reached (earlier ++ [call]))
      (fun earlier call => plan.reached (earlier ++ [call]) && !plan.reached earlier) where
  waiting earlier call _ idle := by
    have none_ := (plan.clock_eq_none_iff _).mpr idle
    simp only [reached, none_, Option.any_none, Bool.false_and, and_self]
  opposite earlier call steady begun := by
    cases clock : plan.clock (earlier ++ [call]) with
    | none =>
      obtain ⟨each, member, started⟩ := begun
      rw [(plan.clock_eq_none_iff _).mp clock each member] at started
      cases started
    | some elapsed => exact lt_time_eq_not_reached accepted steady clock
  lasting earlier call later next steady up := by
    have split : earlier ++ call :: later ++ [next] = (earlier ++ [call]) ++ (later ++ [next]) := by
      simp only [List.append_assoc, List.cons_append, List.nil_append]
    rw [split] at steady ⊢
    exact reached_append up (List.forall_mem_append.mp steady).2
  first earlier call steady := by
    rw [Bool.and_eq_true, Bool.not_eq_true',
      reached_eq_false_iff (Call.allAccepted_concat.mp steady).1]

/-- The three timers with one threshold agree at every call, alone and as conditions that are given
up when they can never hold again. -/
theorem Timer.thresholds_agree {before after once : Timer} (built : before.IsBuilt)
    (built' : after.IsBuilt) (built'' : once.IsBuilt) (below : before.plan.when = .before)
    (above : after.plan.when = .after) (moment : once.plan.when = .once)
    (shared : before.plan.SharesClock after.plan) (shared' : once.plan.SharesClock after.plan) :
    Thresholds (isStarted after.plan) before.answer after.answer once.answer ∧
      Thresholds (isStarted after.plan) before.condition.answer after.condition.answer
        once.condition.answer := by
  have timers : Thresholds (isStarted after.plan) before.answer after.answer once.answer := by
    refine built'.accepted.thresholds.congr fun earlier call steady => ⟨?_, ?_, ?_⟩
    · rw [answer_eq_verdict built (by rw [below]; decide) steady]
      simp only [TimerPlan.verdict, below, shared.clock, shared.time]
    · rw [answer_eq_verdict built' (by rw [above]; decide) steady]
      simp only [TimerPlan.verdict, above]
    · rw [answer_eq_verdict built'' (by rw [moment]; decide) steady]
      simp only [TimerPlan.verdict, moment, shared'.reached]
  exact ⟨timers, timers.congr fun earlier call steady =>
    ⟨before.condition_answer steady, after.condition_answer steady, once.condition_answer steady⟩⟩

/-- A timer of 250 ms from the first event on, of which 100 ms are taken as over. -/
def Timer.countdown (when : TimeWhen) : Timer := { plan := ⟨250, when, none, 100, some 0⟩ }

theorem Timer.countdown_isBuilt (when : TimeWhen) : (countdown when).IsBuilt := by
  let params (name : String) : Json.Value :=
    .object [("time", .ofNat 250), ("when", .text name), ("startOffset", .ofNat 100),
      ("start", .text "intro")]
  let names : Names := ⟨.afterFires 0, ["intro"]⟩
  cases when with
  | before => exact ⟨names, params "before", rfl⟩
  | after => exact ⟨names, params "after", rfl⟩
  | once => exact ⟨names, params "once", rfl⟩
  | repeating => exact ⟨names, params "repeat", rfl⟩

/-- The first step is not counted, since the event has not fired; at the third, the time is up. -/
theorem Timer.countdowns_agree :
    let idle : Call := ⟨.afterFires 0, 500⟩
    let step (dt : Scalar) : Call := ⟨.afterFires 1, dt⟩
    Thresholds (isStarted (countdown .after).plan) (countdown .before).answer
        (countdown .after).answer (countdown .once).answer ∧
      Thresholds (isStarted (countdown .after).plan) (countdown .before).condition.answer
        (countdown .after).condition.answer (countdown .once).condition.answer ∧
      (countdown .before).condition.answer [idle] (step 100) = true ∧
      (countdown .once).condition.answer [idle, step 100] (step 50) = true ∧
      (countdown .once).condition.answer [idle, step 100, step 50] (step 50) = false ∧
      (countdown .after).condition.answer [idle, step 100, step 50] (step 50) = true := by
  intro idle step
  obtain ⟨timers, conditions⟩ := thresholds_agree (countdown_isBuilt .before)
    (countdown_isBuilt .after) (countdown_isBuilt .once) rfl rfl rfl ⟨rfl, rfl, rfl⟩
    ⟨rfl, rfl, rfl⟩
  exact ⟨timers, conditions, by decide +kernel⟩

end Sortie
