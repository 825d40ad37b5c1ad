import Sortie.Proofs.Latch

set_option autoImplicit false

namespace Sortie

namespace Trigger

theorem askUntil_all {world : World} {conditions : List Condition}
    (yes : (askUntil true world conditions).1 = true) :
    ∃ condition ∈ (askUntil true world conditions).2, condition.impossible = true := by
  induction conditions with
  | nil => cases yes
  | cons condition rest ih =>
    simp only [askUntil] at yes ⊢
    split at yes
    · rename_i answered
      rw [if_pos answered]
      exact ⟨_, List.mem_cons_self, condition.checkImpossible_impossible world answered⟩
    · rename_i unanswered
      rw [if_neg unanswered]
      obtain ⟨latched, member, impossible⟩ := ih yes
      exact ⟨latched, List.mem_cons_of_mem _ member, impossible⟩

theorem askUntil_any {world : World} {conditions : List Condition}
    (yes : (askUntil false world conditions).1 = true) :
    ∀ condition ∈ (askUntil false world conditions).2, condition.impossible = true := by
  induction conditions with
  | nil =>
    intro condition member
    cases member
  | cons condition rest ih =>
    simp only [askUntil] at yes ⊢
    split at yes
    · cases yes
    · rename_i answered
      rw [if_neg answered]
      intro latched member
      rcases List.mem_cons.mp member with rfl | later
      · exact condition.checkImpossible_impossible world (Bool.of_not_eq_false answered)
      · exact ih yes latched later

/-- A trigger that answers that it is impossible is exhausted from then on. -/
theorem checkImpossible_exhausted {trigger : Trigger} {world : World}
    (yes : (trigger.checkImpossible world).1 = true) :
    (trigger.checkImpossible world).2.Exhausted := by
  have asked := trigger.checkImpossible_asked world
  revert yes asked
  unfold checkImpossible
  split
  · intro yes
    cases yes
  · rename_i unable
    intro yes asked
    refine ⟨?_, ?_⟩
    · intro empty
      have length := asked.conditions.length_eq
      rw [empty, List.length_nil, List.length_eq_zero_iff] at length
      exact unable (by rw [length, List.isEmpty_nil, Bool.or_true])
    · dsimp only at yes ⊢
      cases quantity : trigger.required with
      | all =>
        rw [quantity] at yes
        exact askUntil_all yes
      | any =>
        rw [quantity] at yes
        exact askUntil_any yes

end Trigger

namespace Event

theorem askCondition_some {α : Type} {events : List Event} {index place : Nat}
    {question : Condition → α × Condition} {answer : α}
    (answered : (askCondition events index place question).1 = some answer) :
    ∃ condition event, answer = (question condition).1 ∧
      (askCondition events index place question).2[index]? = some event ∧
      event.trigger.conditions[place]? = some (question condition).2 := by
  unfold askCondition at answered ⊢
  cases found : events[index]? with
  | none =>
    rw [found] at answered
    cases answered
  | some event =>
    simp only [found] at answered ⊢
    cases there : event.trigger.conditions[place]? with
    | none =>
      rw [there] at answered
      cases answered
    | some condition =>
      simp only [there, Option.some.injEq] at answered ⊢
      refine ⟨condition, _, answered.symm,
        List.getElem?_set_self (List.getElem?_eq_some_iff.mp found).1, ?_⟩
      exact List.getElem?_set_self (List.getElem?_eq_some_iff.mp there).1

theorem askTrigger_some {α : Type} {events : List Event} {index : Nat}
    {question : Trigger → α × Trigger} {answer : α}
    (answered : (askTrigger events index question).1 = some answer) :
    ∃ trigger event, answer = (question trigger).1 ∧
      (askTrigger events index question).2[index]? = some event ∧
      event.trigger = (question trigger).2 := by
  unfold askTrigger at answered ⊢
  cases found : events[index]? with
  | none =>
    rw [found] at answered
    cases answered
  | some event =>
    simp only [found, Option.some.injEq] at answered ⊢
    exact ⟨event.trigger, _, answered.symm,
      List.getElem?_set_self (List.getElem?_eq_some_iff.mp found).1, rfl⟩

end Event

namespace Objective

theorem evaluate_destroyAll {objective : Objective} (world : World) (events : List Event)
    (source : objective.source = .destroyAll) :
    (objective.evaluate world events).1.settled = false := by
  simp only [evaluate, source]

/-- How an objective of the win comes to stand: by its event, or else by its condition. -/
theorem evaluate_win {objective : Objective} (world : World) (events : List Event)
    {index place : Nat} (role : objective.role = .win)
    (source : objective.source = .condition index place) :
    objective.evaluate world events = ({}, events) ∨
      0 < world.fireCount index ∧ objective.evaluate world events = (⟨.completed, true⟩, events) ∨
      world.fireCount index = 0 ∧ objective.evaluate world events =
        ((Event.askCondition events index place (standingOfGoal world)).1.getD {},
          (Event.askCondition events index place (standingOfGoal world)).2) := by
  simp only [evaluate, source, role, decide_eq_true_eq]
  split
  · exact .inl rfl
  · split
    · rename_i fired
      exact .inr (.inl ⟨fired, rfl⟩)
    · rename_i unfired
      exact .inr (.inr ⟨Nat.eq_zero_of_not_pos unfired, rfl⟩)

/-- How an objective of a loss comes to stand: by its event, or else by its whole trigger. -/
theorem evaluate_lose {objective : Objective} (world : World) (events : List Event)
    {index place : Nat} (role : objective.role = .lose)
    (source : objective.source = .condition index place) :
    objective.evaluate world events = ({}, events) ∨
      0 < world.fireCount index ∧ objective.evaluate world events = (⟨.failed, true⟩, events) ∨
      world.fireCount index = 0 ∧ objective.evaluate world events =
        ((Event.askTrigger events index (standingOfThreat world)).1.getD {},
          (Event.askTrigger events index (standingOfThreat world)).2) := by
  simp only [evaluate, source, role, decide_eq_true_eq]
  split
  · exact .inl rfl
  · split
    · rename_i fired
      exact .inr (.inl ⟨fired, rfl⟩)
    · rename_i unfired
      exact .inr (.inr ⟨Nat.eq_zero_of_not_pos unfired, rfl⟩)

theorem standingOfGoal_failed {world : World} {condition : Condition}
    (failed : (standingOfGoal world condition).1.status = .failed) :
    (standingOfGoal world condition).2.impossible = true := by
  unfold standingOfGoal at failed
  dsimp only at failed
  split at failed
  · rename_i impossible
    exact condition.checkImpossible_impossible world impossible
  · split at failed <;> cases failed

theorem standingOfGoal_completed {world : World} {condition : Condition}
    (completed : (standingOfGoal world condition).1.status = .completed) :
    (standingOfGoal world condition).1.settled = false ∧
      (standingOfGoal world condition).2.lastSatisfied = true := by
  have asked := standingOfGoal_asked world condition
  unfold standingOfGoal at completed asked ⊢
  dsimp only at completed asked ⊢
  split at completed
  · cases completed
  · rename_i possible
    rw [if_neg possible]
    split at completed
    · rename_i satisfied
      exact ⟨by rw [if_pos satisfied], satisfied⟩
    · cases completed

theorem standingOfThreat_settled {world : World} {trigger : Trigger}
    (settled : (standingOfThreat world trigger).1.settled = true) :
    (standingOfThreat world trigger).2.Exhausted := by
  unfold standingOfThreat at settled
  dsimp only at settled
  split at settled
  · rename_i impossible
    exact Trigger.checkImpossible_exhausted impossible
  · cases settled

/-- A loss to be averted is settled as averted only before its event fires, and with an exhausted
trigger. -/
theorem evaluate_averted {objective : Objective} {world : World} {events : List Event}
    (role : objective.role = .lose)
    (averted : (objective.evaluate world events).1 = ⟨.completed, true⟩) :
    ∃ index place event, objective.source = .condition index place ∧
      world.fireCount index = 0 ∧ (objective.evaluate world events).2[index]? = some event ∧
      event.trigger.Exhausted := by
  cases source : objective.source with
  | destroyAll =>
    have unsettled := evaluate_destroyAll world events source
    rw [averted] at unsettled
    cases unsettled
  | condition index place =>
    rcases evaluate_lose world events role source with absent | ⟨_, failed⟩ | ⟨unfired, asked⟩
    · rw [absent] at averted
      cases averted
    · rw [failed] at averted
      cases averted
    · rw [asked] at averted ⊢
      dsimp only at averted ⊢
      cases answer : (Event.askTrigger events index (standingOfThreat world)).1 with
      | none =>
        rw [answer] at averted
        cases averted
      | some standing =>
        rw [answer, Option.getD_some] at averted
        obtain ⟨trigger, event, rfl, present, same⟩ := Event.askTrigger_some answer
        refine ⟨index, place, event, rfl, unfired, present, ?_⟩
        rw [same]
        exact standingOfThreat_settled (by rw [averted])

/-- A goal is settled as failed only before its event fires, and with an impossible condition. -/
theorem evaluate_abandoned {objective : Objective} {world : World} {events : List Event}
    (role : objective.role = .win)
    (abandoned : (objective.evaluate world events).1 = ⟨.failed, true⟩) :
    ∃ index place event condition, objective.source = .condition index place ∧
      world.fireCount index = 0 ∧ (objective.evaluate world events).2[index]? = some event ∧
      event.trigger.conditions[place]? = some condition ∧ condition.impossible = true := by
  cases source : objective.source with
  | destroyAll =>
    have unsettled := evaluate_destroyAll world events source
    rw [abandoned] at unsettled
    cases unsettled
  | condition index place =>
    rcases evaluate_win world events role source with absent | ⟨_, won⟩ | ⟨unfired, asked⟩
    · rw [absent] at abandoned
      cases abandoned
    · rw [won] at abandoned
      cases abandoned
    · rw [asked] at abandoned ⊢
      dsimp only at abandoned ⊢
      cases answer : (Event.askCondition events index place (standingOfGoal world)).1 with
      | none =>
        rw [answer] at abandoned
        cases abandoned
      | some standing =>
        rw [answer, Option.getD_some] at abandoned
        obtain ⟨condition, event, rfl, present, there⟩ := Event.askCondition_some answer
        exact ⟨index, place, event, _, rfl, unfired, present, there,
          standingOfGoal_failed (by rw [abandoned])⟩

/-- A goal is completed by its event for good, or by its condition at the latest look. -/
theorem evaluate_met {objective : Objective} {world : World} {events : List Event}
    {index place : Nat} (role : objective.role = .win)
    (source : objective.source = .condition index place)
    (completed : (objective.evaluate world events).1.status = .completed) :
    0 < world.fireCount index ∨
      (objective.evaluate world events).1.settled = false ∧
      ∃ event condition, (objective.evaluate world events).2[index]? = some event ∧
        event.trigger.conditions[place]? = some condition ∧ condition.lastSatisfied = true := by
  rcases evaluate_win world events role source with absent | ⟨fired, _⟩ | ⟨_, asked⟩
  · rw [absent] at completed
    cases completed
  · exact .inl fired
  · right
    rw [asked] at completed ⊢
    dsimp only at completed ⊢
    cases answer : (Event.askCondition events index place (standingOfGoal world)).1 with
    | none =>
      rw [answer] at completed
      cases completed
    | some standing =>
      rw [answer, Option.getD_some] at completed
      obtain ⟨condition, event, rfl, present, there⟩ := Event.askCondition_some answer
      obtain ⟨unsettled, satisfied⟩ := standingOfGoal_completed completed
      exact ⟨unsettled, event, _, present, there, satisfied⟩

end Objective

namespace Mission

/-- What is settled stays as it stands. -/
theorem evaluateAll_settled (world : World) {objectives : List TrackedObjective}
    (events : List Event) {place : Nat} {tracked : TrackedObjective}
    (found : objectives[place]? = some tracked) (settled : tracked.standing.settled = true) :
    (evaluateAll world objectives events).1[place]? = some tracked := by
  induction objectives generalizing events place with
  | nil => cases found
  | cons first rest ih =>
    cases place with
    | zero =>
      rw [List.getElem?_cons_zero] at found
      cases found
      simp only [evaluateAll, settled, ↓reduceIte, List.getElem?_cons_zero]
    | succ place =>
      rw [List.getElem?_cons_succ] at found
      simp only [evaluateAll]
      split
      · exact ih events found
      · exact ih _ found

/-- What is not settled is evaluated once, between questions to other conditions. -/
theorem evaluateAll_open (world : World) {objectives : List TrackedObjective}
    (events : List Event) {place : Nat} {tracked : TrackedObjective}
    (found : objectives[place]? = some tracked) (unsettled : tracked.standing.settled = false) :
    ∃ asked, Event.AllRest events asked ∧
      (evaluateAll world objectives events).1[place]? =
        some { tracked with standing := (tracked.objective.evaluate world asked).1 } ∧
      Event.AllRest (tracked.objective.evaluate world asked).2
        (evaluateAll world objectives events).2 := by
  induction objectives generalizing events place with
  | nil => cases found
  | cons first rest ih =>
    cases place with
    | zero =>
      rw [List.getElem?_cons_zero] at found
      cases found
      refine ⟨events, .refl events, ?_, ?_⟩
      · simp only [evaluateAll, unsettled, Bool.false_eq_true, ↓reduceIte,
          List.getElem?_cons_zero]
      · simp only [evaluateAll, unsettled, Bool.false_eq_true, ↓reduceIte]
        exact evaluateAll_rests world rest _
    | succ place =>
      rw [List.getElem?_cons_succ] at found
      simp only [evaluateAll]
      split
      · exact ih events found
      · obtain ⟨asked, early, standing, late⟩ := ih (first.objective.evaluate world events).2 found
        exact ⟨asked, (first.objective.evaluate_rests world events).trans early, standing, late⟩

theorem evaluateAll_objectives (world : World) (objectives : List TrackedObjective)
    (events : List Event) :
    (evaluateAll world objectives events).1.map TrackedObjective.objective =
      objectives.map TrackedObjective.objective := by
  induction objectives generalizing events with
  | nil => rfl
  | cons first rest ih =>
    simp only [evaluateAll]
    split
    · simp only [List.map_cons, ih]
    · simp only [List.map_cons, ih]

variable {π : Type} [Pilot π]

theorem advance_objectives (mission : Mission π) (dt : Scalar) :
    (mission.advance dt).objectives = mission.objectives :=
  (runCrafts_passive _ dt).objectives.trans (runDueActions_objectives _ dt)

/-- An objective that a step settles was evaluated once in it, between questions to others. -/
theorem tick_settles (mission : Mission π) {dt : Scalar} (accepted : accepts dt = true)
    {place : Nat} {before after : TrackedObjective}
    (unsettled : mission.objectives[place]? = some before ∧ before.standing.settled = false)
    (settled : (mission.tick dt).objectives[place]? = some after) :
    ∃ asked, after = { before with
        standing := (before.objective.evaluate (mission.advance dt).world asked).1 } ∧
      Event.AllRest (before.objective.evaluate (mission.advance dt).world asked).2
        (mission.tick dt).events := by
  rw [mission.tick_of_accepts dt accepted] at settled ⊢
  have present := unsettled.1
  rw [← mission.advance_objectives dt] at present
  obtain ⟨asked, _, standing, rests⟩ := evaluateAll_open (mission.advance dt).world
    (mission.advance dt).events present unsettled.2
  have same : some after = some _ := settled.symm.trans standing
  exact ⟨asked, Option.some.inj same, rests⟩

end Mission

end Sortie
