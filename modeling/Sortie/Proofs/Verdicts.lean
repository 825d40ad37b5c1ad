import Sortie.Proofs.Loaded
import Sortie.Proofs.Standings

set_option autoImplicit false

namespace Sortie

namespace Mission

variable {π : Type} [Pilot π]

/-- An event whose trigger is exhausted and cannot fire any more stays silent. -/
theorem play_silent (mission : Mission π) (rest : List (Input π)) (sized : mission.Sized)
    {index : Nat} {trigger : Trigger} (found : mission.trigger? index = some trigger)
    (exhausted : trigger.Exhausted) (waiting : trigger.Waiting)
    (silent : trigger.stillFires = false) :
    (mission.play rest).world.fireCount index = mission.world.fireCount index := by
  -- A turn keeps the trigger exhausted, waiting and unable to fire, so no input counts it.
  induction rest generalizing mission trigger with
  | nil => rfl
  | cons input rest ih =>
    obtain ⟨fires, later, here, turn, counted⟩ := mission.take_turn input sized found
    obtain ⟨quiet, still, silentStill⟩ := exhausted.turn_silent waiting silent turn
    rw [play_cons, ih (mission.take input) (mission.take_sized input sized) here still
      (waiting.turn turn) silentStill, counted, quiet, Bool.toNat_false, Nat.add_zero]

theorem accepts_of_finite {dt : Scalar} (finite : dt.isFinite = true) (positive : ¬ dt ≤ 0) :
    accepts dt = true := by
  have above := Scalar.not_lt_zero dt positive
  simp only [accepts, finite, above, decide_false, Bool.not_false, Bool.and_self]

theorem accepts_zero : accepts 0 = true := by decide +kernel

/-- A delay that has begun and is finite ends in one step, where events run. -/
theorem tick_counting (mission : Mission π) (host : mission.authority = true)
    (sized : mission.Sized) {index : Nat} {trigger : Trigger}
    (found : mission.trigger? index = some trigger) (active : trigger.disabled = false)
    {remaining : Scalar} (counting : trigger.oneShot = some (.counting remaining))
    (waiting : trigger.Waiting) (finite : remaining.isFinite = true) :
    (mission.tick remaining).world.fireCount index = mission.world.fireCount index + 1 := by
  have accepted := accepts_of_finite finite (waiting remaining counting)
  obtain ⟨now, later, _, _, counted⟩ :=
    mission.tick_trigger remaining accepted host sized found
  rw [counted, Trigger.simulate_counting active counting finite now, Bool.toNat_true]

/-- An exhausted trigger that can still fire does so within two steps, once events run. -/
theorem play_fires (mission : Mission π) (sized : mission.Sized) {index : Nat} {trigger : Trigger}
    (found : mission.trigger? index = some trigger) (exhausted : trigger.Exhausted)
    (waiting : trigger.Waiting) (ready : trigger.stillFires = true) :
    ∃ rest : List (Input π),
      (mission.play rest).world.fireCount index = mission.world.fireCount index + 1 := by
  -- The mission may have no authority, and triggers are not stepped then.
  let hosted := mission.take (.authority true)
  have host : hosted.authority = true := rfl
  have active : trigger.disabled = false := by
    have both := (Bool.and_eq_true_iff.mp ready).1
    simpa using both
  rw [Trigger.stillFires_of_active active] at ready
  cases oneShot : trigger.oneShot with
  | none =>
    rw [oneShot] at ready
    refine ⟨[.authority true, .tick 0], ?_⟩
    obtain ⟨now, later, _, _, counted⟩ := hosted.tick_trigger 0 accepts_zero host sized found
    rw [exhausted.simulate_prompt active ready (.inl oneShot) now 0] at counted
    exact counted
  | some stage =>
    cases stage with
    | fired =>
      rw [oneShot] at ready
      cases ready
    | counting remaining =>
      rw [oneShot] at ready
      refine ⟨[.authority true, .tick remaining], ?_⟩
      exact hosted.tick_counting host sized found active oneShot waiting ready
    | armed =>
      rw [oneShot] at ready
      dsimp only at ready
      obtain ⟨decided, prompt⟩ := Bool.and_eq_true_iff.mp ready
      by_cases delayed : 0 < trigger.delay
      · have finite : trigger.delay.isFinite = true := by simpa [delayed] using prompt
        refine ⟨[.authority true, .tick 0, .tick trigger.delay], ?_⟩
        obtain ⟨now, later, here, asked, counted⟩ :=
          hosted.tick_trigger 0 accepts_zero host sized found
        obtain ⟨silent, counting, enabled⟩ :=
          exhausted.simulate_delayed active decided oneShot delayed now 0
        rw [silent, Bool.toNat_false, Nat.add_zero] at counted
        have waits := (waiting.simulate now 0).of_asked asked
        have same : later.oneShot = some (.counting trigger.delay) := by
          rw [asked.rest]
          exact counting
        have still : later.disabled = false := by
          rw [asked.rest]
          exact enabled
        have hosting := (hosted.tick_authority 0).trans host
        have fired := (hosted.tick 0).tick_counting hosting (hosted.take_sized (.tick 0) sized) here
          still same waits finite
        rw [counted] at fired
        exact fired
      · refine ⟨[.authority true, .tick 0], ?_⟩
        obtain ⟨now, later, _, _, counted⟩ := hosted.tick_trigger 0 accepts_zero host sized found
        rw [exhausted.simulate_prompt active decided (.inr ⟨oneShot, delayed⟩) now 0] at counted
        exact counted

/-- An event with an exhausted trigger never fires exactly if the trigger cannot any more. -/
theorem never_fires_iff (mission : Mission π) (sized : mission.Sized) {index : Nat}
    {trigger : Trigger} (found : mission.trigger? index = some trigger)
    (exhausted : trigger.Exhausted) (waiting : trigger.Waiting) :
    (∀ rest : List (Input π),
      (mission.play rest).world.fireCount index = mission.world.fireCount index) ↔
      trigger.stillFires = false := by
  constructor
  · intro never
    by_contra ready
    obtain ⟨rest, fired⟩ :=
      mission.play_fires sized found exhausted waiting (Bool.of_not_eq_false ready)
    rw [never rest] at fired
    omega
  · intro silent rest
    exact mission.play_silent rest sized found exhausted waiting silent

theorem Reachable.waiting {mission : Mission π} (reachable : mission.Reachable) {index : Nat}
    {trigger : Trigger} (found : mission.trigger? index = some trigger) : trigger.Waiting := by
  refine reachable.triggers Trigger.Waiting ?_ (fun _ _ _ waiting turn => waiting.turn turn) found
  intro fresh remaining counting
  simp [Trigger.pristine, Option.map_eq_some_iff] at counting

/-- A loss that a step settles as averted belongs to an event that has not fired and whose trigger
is exhausted. The event never fires exactly if the trigger cannot fire any more. -/
theorem averted_loss_never_fires_iff (mission : Mission π) (reachable : mission.Reachable)
    {dt : Scalar} (accepted : accepts dt = true) {place : Nat} {before after : TrackedObjective}
    (open_ : mission.objectives[place]? = some before ∧ before.standing.settled = false)
    (settled : (mission.tick dt).objectives[place]? = some after)
    (role : after.objective.role = .lose) (averted : after.standing = ⟨.completed, true⟩) :
    ∃ index part trigger, after.objective.source = .condition index part ∧
      (mission.tick dt).trigger? index = some trigger ∧ trigger.Exhausted ∧
      (mission.tick dt).world.fireCount index = 0 ∧
      ((∀ rest : List (Input π), ((mission.tick dt).play rest).world.fireCount index = 0) ↔
        trigger.stillFires = false) := by
  obtain ⟨asked, rfl, rests⟩ := mission.tick_settles accepted open_ settled
  obtain ⟨index, part, event, source, unfired, present, exhausted⟩ :=
    Objective.evaluate_averted role averted
  obtain ⟨later, there, related⟩ := each_getElem? rests present
  have found : (mission.tick dt).trigger? index = some later.trigger :=
    trigger?_eq_some.mpr ⟨later, there, rfl⟩
  have still := exhausted.of_asked related.trigger
  have reached := reachable.take (.tick dt)
  have count : (mission.tick dt).world.fireCount index = 0 :=
    (mission.tick_fireCount accepted index).trans unfired
  have never := (mission.tick dt).never_fires_iff reached.sized found still
    (reached.waiting found)
  rw [count] at never
  exact ⟨index, part, later.trigger, source, found, still, count, never⟩

/-- A loss at two moments that exclude each other is averted for good once the first is over. -/
theorem averted_loss_by_exclusion :
    let averted := (timed "lose" 0 [("once", 1000), ("before", 500)]).tick 1000
    averted.state = .completed ∧
      ∀ rest : List (Input Pursuit), (averted.play rest).world.fireCount 0 = 0 := by
  let start := timed "lose" 0 [("once", 1000), ("before", 500)]
  have early : (start.objectives[0]?.any fun tracked => !tracked.standing.settled) = true := by
    decide +kernel
  have late : (start.tick 1000).state = .completed ∧
      ((start.tick 1000).objectives[0]?.any fun tracked =>
        tracked.objective == ⟨.lose, .condition 0 0, false⟩ &&
          tracked.standing == ⟨.completed, true⟩) = true ∧
      ((start.tick 1000).trigger? 0).any (fun trigger => !trigger.stillFires) = true := by
    decide +kernel
  obtain ⟨completed, objective, silent⟩ := late
  obtain ⟨before, found, open_⟩ := (Option.any_eq_true _ _).mp early
  obtain ⟨after, settled, shape⟩ := (Option.any_eq_true _ _).mp objective
  obtain ⟨trigger, stepped, quiet⟩ := (Option.any_eq_true _ _).mp silent
  obtain ⟨same, standing⟩ := Bool.and_eq_true_iff.mp shape
  have role : after.objective.role = .lose := by rw [eq_of_beq same]
  obtain ⟨index, part, other, source, there, _, _, never⟩ :=
    averted_loss_never_fires_iff start (timed_reachable _ _ _) (by decide +kernel)
      ⟨found, by simpa using open_⟩ settled role (eq_of_beq standing)
  rw [eq_of_beq same] at source
  cases source
  rw [stepped] at there
  cases there
  exact ⟨completed, never.mpr (by simpa using quiet)⟩

/-- A loss that waits for its delay when it is averted comes all the same. -/
theorem averted_loss_fires_after_delay :
    let start := timed "lose" 500 [("once", 1000)]
    let averted := start.tick 1000
    start.objectives.map TrackedObjective.standing = [{}] ∧
      averted.objectives.map TrackedObjective.objective = [⟨.lose, .condition 0 0, false⟩] ∧
      averted.objectives.map TrackedObjective.standing = [⟨.completed, true⟩] ∧
      averted.state = .completed ∧ averted.world.fireCount 0 = 0 ∧
      (averted.tick 500).world.fireCount 0 = 1 ∧ (averted.tick 500).state = .failed := by
  decide +kernel

/-- A goal that a step settles as failed belongs to an event that has not fired, and its condition
is impossible. If all conditions are required, the trigger is exhausted; an exhausted trigger never
fires exactly if it cannot any more; and if any condition is enough, the trigger steps for ever just
as it would without this one. -/
theorem abandoned_goal_never_fires_iff (mission : Mission π) (reachable : mission.Reachable)
    {dt : Scalar} (accepted : accepts dt = true) {place : Nat} {before after : TrackedObjective}
    (open_ : mission.objectives[place]? = some before ∧ before.standing.settled = false)
    (settled : (mission.tick dt).objectives[place]? = some after)
    (role : after.objective.role = .win) (abandoned : after.standing = ⟨.failed, true⟩) :
    ∃ index part trigger, after.objective.source = .condition index part ∧
      (mission.tick dt).trigger? index = some trigger ∧
      (∃ condition, trigger.conditions[part]? = some condition ∧ condition.impossible = true) ∧
      (mission.tick dt).world.fireCount index = 0 ∧
      (trigger.required = .all → trigger.Exhausted) ∧
      (trigger.Exhausted →
        ((∀ rest : List (Input π), ((mission.tick dt).play rest).world.fireCount index = 0) ↔
          trigger.stillFires = false)) ∧
      (trigger.required = .any → ∀ (rest : List (Input π)) later,
        ((mission.tick dt).play rest).trigger? index = some later → ∀ now step,
          (later.without part).simulate now step =
            ((later.simulate now step).1, (later.simulate now step).2.without part)) := by
  obtain ⟨asked, rfl, rests⟩ := mission.tick_settles accepted open_ settled
  obtain ⟨index, part, event, condition, source, unfired, present, member, impossible⟩ :=
    Objective.evaluate_abandoned role abandoned
  obtain ⟨later, there, related⟩ := each_getElem? rests present
  obtain ⟨last, here, latched⟩ := each_getElem? related.trigger.conditions member
  have found : (mission.tick dt).trigger? index = some later.trigger :=
    trigger?_eq_some.mpr ⟨later, there, rfl⟩
  have reached := reachable.take (.tick dt)
  have count : (mission.tick dt).world.fireCount index = 0 :=
    (mission.tick_fireCount accepted index).trans unfired
  refine ⟨index, part, later.trigger, source, found, ⟨last, here, latched.impossible impossible⟩,
    count, ?_, ?_, ?_⟩
  · intro all
    refine ⟨List.ne_nil_of_mem (List.mem_of_getElem? here), ?_⟩
    rw [all]
    exact ⟨last, List.mem_of_getElem? here, latched.impossible impossible⟩
  · intro exhausted
    have never := (mission.tick dt).never_fires_iff reached.sized found exhausted
      (reached.waiting found)
    rw [count] at never
    exact never
  · intro any rest final there
    have dispensable : later.trigger.Dispensable part :=
      ⟨any, last, here, latched.impossible impossible⟩
    obtain ⟨same, now, still⟩ := (mission.tick dt).play_trigger (Trigger.Dispensable part)
      (fun _ _ _ dispensable turn => dispensable.turn turn) rest reached.sized found dispensable
    rw [there] at now
    cases now
    exact Trigger.simulate_without still

/-- A goal of two moments that exclude each other is lost for good once the first is over. -/
theorem abandoned_goal_by_exclusion :
    let failed := (timed "win" 0 [("once", 1000), ("before", 500)]).tick 1000
    failed.state = .failed ∧
      ∀ rest : List (Input Pursuit), (failed.play rest).world.fireCount 0 = 0 := by
  let start := timed "win" 0 [("once", 1000), ("before", 500)]
  have early : (start.objectives[0]?.any fun tracked => !tracked.standing.settled) = true := by
    decide +kernel
  have late : (start.tick 1000).state = .failed ∧
      ((start.tick 1000).objectives[0]?.any fun tracked =>
        tracked.objective == ⟨.win, .condition 0 0, false⟩ &&
          tracked.standing == ⟨.failed, true⟩) = true ∧
      ((start.tick 1000).trigger? 0).any (fun trigger =>
        trigger.required == .all && !trigger.stillFires) = true := by
    decide +kernel
  obtain ⟨lost, objective, silent⟩ := late
  obtain ⟨before, found, open_⟩ := (Option.any_eq_true _ _).mp early
  obtain ⟨after, settled, shape⟩ := (Option.any_eq_true _ _).mp objective
  obtain ⟨trigger, stepped, quiet⟩ := (Option.any_eq_true _ _).mp silent
  obtain ⟨same, standing⟩ := Bool.and_eq_true_iff.mp shape
  obtain ⟨all, past⟩ := Bool.and_eq_true_iff.mp quiet
  have role : after.objective.role = .win := by rw [eq_of_beq same]
  obtain ⟨index, part, other, source, there, _, _, exhausted, never, _⟩ :=
    abandoned_goal_never_fires_iff start (timed_reachable _ _ _) (by decide +kernel)
      ⟨found, by simpa using open_⟩ settled role (eq_of_beq standing)
  rw [eq_of_beq same] at source
  cases source
  rw [stepped] at there
  cases there
  exact ⟨lost, (never (exhausted (eq_of_beq all))).mpr (by simpa using past)⟩

/-- A win that waits for its delay when its goal is given up comes all the same. -/
theorem abandoned_goal_fires_after_delay :
    let start := timed "win" 500 [("once", 1000)]
    let failed := start.tick 1000
    start.objectives.map TrackedObjective.standing = [{}] ∧
      failed.objectives.map TrackedObjective.objective = [⟨.win, .condition 0 0, false⟩] ∧
      failed.objectives.map TrackedObjective.standing = [⟨.failed, true⟩] ∧
      failed.state = .failed ∧ failed.world.fireCount 0 = 0 ∧
      (failed.tick 500).world.fireCount 0 = 1 := by
  decide +kernel

end Mission

end Sortie
