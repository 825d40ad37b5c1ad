import Sortie.Proofs.Conditions

set_option autoImplicit false

namespace Sortie

variable {world : World} {evidence : Condition → Prop}

namespace Condition

/-- What is known of a condition by its kind and its subjects, and stays known when these are
named. -/
structure Lasting (evidence : Condition → Prop) : Prop where
  of_same : ∀ {condition other : Condition}, evidence condition → other.kind = condition.kind →
    other.subjects = condition.subjects → evidence other
  resolve : ∀ {condition : Condition} (seen : World), evidence condition →
    evidence (condition.resolve seen)

/-- What is known of every condition that is judged impossible in a world. -/
def Settles (evidence : Condition → Prop) (world : World) : Prop :=
  ∀ condition : Condition, condition.canBeImpossible = true →
    (condition.judgeImpossible world).1 = true → evidence (condition.judgeImpossible world).2

/-- The condition is latched only on evidence. -/
def Backed (condition : Condition) (evidence : Condition → Prop) : Prop :=
  condition.impossible = true → evidence condition

theorem Backed.resolve {condition : Condition} (backed : condition.Backed evidence)
    (lasting : Lasting evidence) (seen : World) : (condition.resolve seen).Backed evidence :=
  fun latched => lasting.resolve seen (backed latched)

theorem Backed.checkImpossible {condition : Condition} (backed : condition.Backed evidence)
    (lasting : Lasting evidence) (settles : Settles evidence world) :
    (condition.checkImpossible world).2.Backed evidence := by
  unfold Condition.checkImpossible
  split
  · exact backed
  · split
    · exact backed
    · rename_i able
      intro found
      exact lasting.of_same (settles condition (Decidable.not_not.mp able) found) rfl rfl

theorem Backed.look {condition : Condition} (backed : condition.Backed evidence)
    (lasting : Lasting evidence) (settles : Settles evidence world) (dt : Scalar) :
    (condition.look world dt).2.Backed evidence := by
  unfold Condition.look
  split
  · exact fun latched => lasting.of_same (backed latched) rfl rfl
  · rename_i open_
    refine Backed.checkImpossible (fun latched => ?_) lasting settles
    exact absurd ((condition.evaluate_impossible world dt).symm.trans latched) open_

theorem Backed.subjectCrafts {condition : Condition} (backed : condition.Backed evidence)
    (lasting : Lasting evidence) : (condition.subjectCrafts world).2.Backed evidence := by
  rcases condition.subjectCrafts_cases world with same | answer
  · rw [same]
    exact backed
  · rw [answer]
    exact backed.resolve lasting world

theorem Backed.stateText {condition : Condition} (backed : condition.Backed evidence)
    (lasting : Lasting evidence) : (condition.stateText world).2.Backed evidence := by
  rcases condition.stateText_cases world with same | answer
  · rw [same]
    exact backed
  · rw [answer]
    exact backed.resolve lasting world

end Condition

open Condition (Lasting Settles)

/-- Each condition is latched only on evidence. -/
def Trigger.Backed (trigger : Trigger) (evidence : Condition → Prop) : Prop :=
  ∀ condition ∈ trigger.conditions, condition.Backed evidence

namespace Event

/-- All conditions of some events are latched only on evidence. -/
def AllBacked (events : List Event) (evidence : Condition → Prop) : Prop :=
  ∀ event ∈ events, event.trigger.Backed evidence

variable {events : List Event}

theorem AllBacked.mono {other : Condition → Prop} (backed : AllBacked events evidence)
    (weaker : ∀ condition, evidence condition → other condition) : AllBacked events other :=
  fun event member condition there latched =>
    weaker condition (backed event member condition there latched)

end Event

namespace Mission

variable {π : Type}

section

variable {events : List Event}

theorem evaluateAll_backed (objectives : List TrackedObjective) (lasting : Lasting evidence)
    (settles : Settles evidence world) (backed : Event.AllBacked events evidence) :
    Event.AllBacked (evaluateAll world objectives events).2 evidence := by
  have kept (condition : Condition) (known : condition.Backed evidence) :
      (condition.checkImpossible world).2.Backed evidence := known.checkImpossible lasting settles
  have altered := evaluateAll_alters (Condition.keeps_spans (Condition.Backed · evidence)) kept
    objectives events
  exact altered.develop.holds backed

theorem reportAll_backed (objectives : List TrackedObjective) (lasting : Lasting evidence)
    (backed : Event.AllBacked events evidence) :
    Event.AllBacked (reportAll world objectives events).2.2 evidence := by
  have kept (condition : Condition) (known : condition.Backed evidence) :
      (condition.stateText world).2.Backed evidence := known.stateText lasting
  have altered := reportAll_alters (Condition.keeps_spans (Condition.Backed · evidence)) kept
    objectives events
  exact altered.develop.holds backed

theorem targetsOfAll_backed (objectives : List TrackedObjective) (lasting : Lasting evidence)
    (backed : Event.AllBacked events evidence) :
    Event.AllBacked (targetsOfAll world objectives events).2 evidence := by
  have kept (condition : Condition) (known : condition.Backed evidence) :
      (condition.subjectCrafts world).2.Backed evidence := known.subjectCrafts lasting
  have altered := targetsOfAll_alters (Condition.keeps_spans (Condition.Backed · evidence)) kept
    objectives events
  exact altered.develop.holds backed

end

/-- No condition is latched before the mission starts. -/
theorem ofDescriptor_backed (descriptor : MissionDescriptor) (catalog : Catalog)
    (settings : Settings) (pools : Pools) (evidence : Condition → Prop) :
    Event.AllBacked (ofDescriptor (π := π) descriptor catalog settings pools).events evidence := by
  intro event member condition there latched
  obtain ⟨index, found⟩ := List.mem_iff_getElem?.mp member
  have fresh := ofDescriptor_trigger (π := π) descriptor catalog settings pools
    (trigger?_eq_some.mpr ⟨event, found, rfl⟩)
  rw [← fresh] at there
  obtain ⟨_, _, rfl⟩ := List.mem_map.mp there
  cases latched

theorem runRules_backed {mission : Mission π} (dt : Scalar) (lasting : Lasting evidence)
    (backed : Event.AllBacked mission.events evidence)
    (settles : ∀ event, Settles evidence (mission.sight dt event)) :
    Event.AllBacked (mission.runRules dt).events evidence := by
  have kept (event : Nat) (condition : Condition) (known : condition.Backed evidence) :
      (condition.look (mission.sight dt event) dt).2.Backed evidence :=
    known.look lasting (settles event) dt
  have developed := mission.runRules_develop (Condition.keeps_spans (Condition.Backed · evidence))
    dt kept
  exact developed.holds backed

variable [Pilot π]

/-- The worlds by which conditions are judged in a run: in each step what an event sees, and what
the objectives see when all has moved. -/
inductive Moment : Mission π → List (Input π) → World → Prop where
  | seen {mission : Mission π} {dt : Scalar} {rest : List (Input π)} (event : Nat) :
      accepts dt = true → Moment mission (.tick dt :: rest) (mission.sight dt event)
  | moved {mission : Mission π} {dt : Scalar} {rest : List (Input π)} :
      accepts dt = true → Moment mission (.tick dt :: rest) (mission.advance dt).world
  | later {mission : Mission π} {input : Input π} {rest : List (Input π)} {world : World} :
      Moment (mission.take input) rest world → Moment mission (input :: rest) world

/-- What is known of whatever is judged impossible in an input is known of what is latched by
then. -/
theorem take_backed (mission : Mission π) (input : Input π) (lasting : Lasting evidence)
    (backed : Event.AllBacked mission.events evidence)
    (settles : ∀ world, Moment mission [input] world → Settles evidence world) :
    Event.AllBacked (mission.take input).events evidence := by
  cases input with
  | tick dt =>
    rw [take]
    cases accepted : accepts dt with
    | true =>
      have ruled := runRules_backed dt lasting backed fun event =>
        settles _ (.seen event accepted)
      have advanced : Event.AllBacked (mission.advance dt).events evidence := by
        rw [advance, (runCrafts_passive _ dt).events]
        exact ruled
      rw [mission.tick_of_accepts dt accepted]
      exact evaluateAll_backed _ lasting (settles _ (.moved accepted)) advanced
    | false =>
      rw [mission.tick_of_not_accepts dt accepted]
      exact backed
  | authority _ | pilot _ | autopilot _ | intent _ | camera _ => exact backed
  | reports => exact reportAll_backed mission.objectives lasting backed
  | targets => exact targetsOfAll_backed mission.objectives lasting backed

/-- What is known of whatever is judged impossible in a run is known of what is latched at its
end. -/
theorem play_backed (mission : Mission π) (inputs : List (Input π)) (lasting : Lasting evidence)
    (backed : Event.AllBacked mission.events evidence)
    (settles : ∀ world, Moment mission inputs world → Settles evidence world) :
    Event.AllBacked (mission.play inputs).events evidence := by
  induction inputs generalizing mission with
  | nil => exact backed
  | cons input rest ih =>
    have first : ∀ world, Moment mission [input] world → Settles evidence world := by
      intro world moment
      refine settles world ?_
      cases moment with
      | seen event accepted => exact .seen event accepted
      | moved accepted => exact .moved accepted
      | later moment => cases moment
    exact ih (mission.take input) (mission.take_backed input lasting backed first)
      fun world moment => settles world moment.later

end Mission

end Sortie
