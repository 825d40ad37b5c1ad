import Sortie.Json.Decoder

namespace Sortie

open Json Json.Decoder

/-- Spacecraft named by their id, squad or team. -/
structure SubjectDescriptor where
  spacecrafts : List String := []
  squads : List String := []
  teams : List String := []
  deriving DecidableEq, Repr

namespace SubjectDescriptor

def isEmpty (subjects : SubjectDescriptor) : Bool :=
  subjects.spacecrafts.isEmpty && subjects.squads.isEmpty && subjects.teams.isEmpty

def decoder : Decoder SubjectDescriptor :=
  Decoder.record
    [field "spacecrafts" (list string) fun spacecrafts s => { s with spacecrafts },
      field "squads" (list string) fun squads s => { s with squads },
      field "teams" (list string) fun teams s => { s with teams }]
    {}

def texts (texts : List String) : Value := .list (texts.map .text)

def toValue (subjects : SubjectDescriptor) : Value :=
  .object
    [("spacecrafts", texts subjects.spacecrafts), ("squads", texts subjects.squads),
      ("teams", texts subjects.teams)]

end SubjectDescriptor

/-- A condition as its file describes it. What it needs beyond its type and subjects stands in its
parameters, which are looked at only when the rules are built. -/
structure ConditionDescriptor where
  kind : String := ""
  subjects : SubjectDescriptor := {}
  params : Value := .null

namespace ConditionDescriptor

def decoder : Decoder ConditionDescriptor :=
  Decoder.record
    [required "type" string fun kind c => { c with kind },
      field "subjects" SubjectDescriptor.decoder fun subjects c => { c with subjects },
      field "params" value fun params c => { c with params }]
    {}

def toValue (condition : ConditionDescriptor) : Value :=
  .object
    [("type", .text condition.kind), ("subjects", condition.subjects.toValue),
      ("params", condition.params)]

end ConditionDescriptor

structure ActionDescriptor where
  kind : String := ""
  subjects : SubjectDescriptor := {}
  /-- Milliseconds between the event and the action. -/
  delay : Scalar := 0
  params : Value := .null

namespace ActionDescriptor

def decoder : Decoder ActionDescriptor :=
  Decoder.record
    [required "type" string fun kind a => { a with kind },
      field "subjects" SubjectDescriptor.decoder fun subjects a => { a with subjects },
      field "delay" scalar fun delay a => { a with delay },
      field "params" value fun params a => { a with params }]
    {}

def toValue (action : ActionDescriptor) : Value :=
  .object
    [("type", .text action.kind), ("subjects", action.subjects.toValue),
      ("delay", .ofScalar action.delay), ("params", action.params)]

end ActionDescriptor

/-- Whether all or any of several things must hold. -/
inductive Quantity where
  | all
  | any
  deriving DecidableEq, Repr

namespace Quantity

def name : Quantity → String
  | all => "all"
  | any => "any"

def ofName? : String → Option Quantity
  | "all" => some all
  | "any" => some any
  | _ => none

/-- Whether all or any of the results hold. Of none, all hold and any does not. -/
def holds (quantity : Quantity) (results : List Bool) : Bool :=
  match quantity with
  | all => results.all id
  | any => results.any id

theorem holds_all_map {α : Type} {items : List α} {test : α → Bool} :
    all.holds (items.map test) = true ↔ ∀ item ∈ items, test item = true := by
  simp only [holds, List.all_map, List.all_eq_true, Function.comp_apply, id_eq]

theorem holds_any_map {α : Type} {items : List α} {test : α → Bool} :
    any.holds (items.map test) = true ↔ ∃ item ∈ items, test item = true := by
  simp only [holds, List.any_map, List.any_eq_true, Function.comp_apply, id_eq]

/-- As `holds`, but nothing holds of no results. -/
def holdsOfSome (quantity : Quantity) (results : List Bool) : Bool :=
  !results.isEmpty && quantity.holds results

end Quantity

/-- At which values of its conditions a trigger fires. -/
inductive FireWhen where
  /-- At its first look, whatever the conditions. -/
  | missionStarts
  /-- Whenever they hold. -/
  | isTrue
  /-- Whenever they do not hold. -/
  | isFalse
  /-- Whenever they change. -/
  | change
  | changeToTrue
  | changeToFalse
  deriving DecidableEq, Repr

namespace FireWhen

def name : FireWhen → String
  | missionStarts => "missionStarts"
  | isTrue => "true"
  | isFalse => "false"
  | change => "change"
  | changeToTrue => "changeToTrue"
  | changeToFalse => "changeToFalse"

def ofName? : String → Option FireWhen
  | "missionStarts" => some missionStarts
  | "true" => some isTrue
  | "false" => some isFalse
  | "change" => some change
  | "changeToTrue" => some changeToTrue
  | "changeToFalse" => some changeToFalse
  | _ => none

end FireWhen

structure TriggerDescriptor where
  conditions : List ConditionDescriptor := []
  conditionsRequired : Quantity := .all
  fireWhen : FireWhen := .changeToTrue
  oneShot : Bool := false
  /-- Milliseconds between the decision and the firing of a one-shot trigger. -/
  delay : Scalar := 0

namespace TriggerDescriptor

def decoder : Decoder TriggerDescriptor :=
  Decoder.record
    [field "conditions" (list ConditionDescriptor.decoder) fun conditions t =>
        { t with conditions },
      field "conditionsRequired" (choice Quantity.ofName?) fun conditionsRequired t =>
        { t with conditionsRequired },
      field "fireWhen" (choice FireWhen.ofName?) fun fireWhen t => { t with fireWhen },
      field "oneShot" bool fun oneShot t => { t with oneShot },
      field "delay" scalar fun delay t => { t with delay }]
    {}

def toValue (trigger : TriggerDescriptor) : Value :=
  .object
    [("conditions", .list (trigger.conditions.map ConditionDescriptor.toValue)),
      ("conditionsRequired", .text trigger.conditionsRequired.name),
      ("fireWhen", .text trigger.fireWhen.name), ("oneShot", .bool trigger.oneShot),
      ("delay", .ofScalar trigger.delay)]

end TriggerDescriptor

structure EventDescriptor where
  name : Option String := none
  trigger : TriggerDescriptor := {}
  actions : List ActionDescriptor := []

namespace EventDescriptor

def decoder : Decoder EventDescriptor :=
  Decoder.record
    [field "name" (optional string) fun name e => { e with name },
      field "trigger" TriggerDescriptor.decoder fun trigger e => { e with trigger },
      field "actions" (list ActionDescriptor.decoder) fun actions e => { e with actions }]
    {}

def toValue (event : EventDescriptor) : Value :=
  .object
    [("name", .ofOption .text event.name), ("trigger", event.trigger.toValue),
      ("actions", .list (event.actions.map ActionDescriptor.toValue))]

end EventDescriptor

end Sortie
