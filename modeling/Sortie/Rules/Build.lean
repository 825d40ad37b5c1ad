import Sortie.Rules.Event
import Sortie.Rules.Names
import Sortie.Rules.Parameters

namespace Sortie

/-- Fails with a report on the parameters of a rule. -/
def refuse {α : Type} (kind message : String) : Except ConfigError α :=
  .error (.invalidParams kind message)

/-- The value of a lookup of what may not be named at all. -/
def lookUp {α β : Type} (find : α → Except ConfigError β) :
    Option α → Except ConfigError (Option β)
  | none => .ok none
  | some name => (find name).map some

namespace Timer

def ofParams (names : Names) (params : Json.Value) : Except ConfigError Timer := do
  let p ← Parameters.read "time" Parameters.time params
  if ¬ p.time.isFinite ∨ p.time < 0 then
    refuse "time" "time must be a non-negative number of ms"
  if p.when = .repeating ∧ p.time ≤ 0 then refuse "time" "repeat period must be positive"
  if ¬ p.startOffset.isFinite ∨ p.startOffset < 0 then
    refuse "time" "startOffset must be a non-negative number of ms"
  if p.maxCount = some 0 then refuse "time" "maxCount must be positive"
  let startEvent ← lookUp names.event p.start
  return { plan := ⟨p.time, p.when, p.maxCount, p.startOffset, startEvent⟩ }

end Timer

namespace Condition

def destroyedOfParams (params : Json.Value) : Except ConfigError ConditionKind := do
  let p ← Parameters.read "destroyed" Parameters.destroyed params
  if p.count = some 0 then refuse "destroyed" "count must be positive"
  return .destroyed p.count

def countOfParams (params : Json.Value) : Except ConfigError ConditionKind := do
  let p ← Parameters.read "count" Parameters.count params
  return .count p.count p.relation

def integrityOfParams (measure : IntegrityMeasure) (kind : String) (params : Json.Value) :
    Except ConfigError ConditionKind := do
  let p ← Parameters.read kind Parameters.integrity params
  if p.least.isNone ∧ p.most.isNone then refuse kind "minIntegrity or maxIntegrity required"
  return .integrity measure ⟨p.least, p.most⟩ p.which

def distanceOfParams (names : Names) (params : Json.Value) : Except ConfigError ConditionKind := do
  let p ← Parameters.read "distance" Parameters.distance params
  if p.least.isNone ∧ p.most.isNone then refuse "distance" "minDistance or maxDistance required"
  let target ← names.craft p.target
  return .distance target ⟨p.least, p.most⟩ p.which

/-- The group of which the source of a notice must be. -/
def sourceOfParams (names : Names) (kind : String) (params : Json.Value) :
    Except ConfigError (Option SubjectDescriptor) := do
  let p ← Parameters.read kind Parameters.source params
  lookUp (fun descriptor => (names.subjects kind descriptor).map SubjectGroup.descriptor) p.source

def onTeamOfParams (names : Names) (params : Json.Value) : Except ConfigError ConditionKind := do
  let p ← Parameters.read "onTeam" Parameters.onTeam params
  let _ ← names.team p.team
  return .onTeam p.team

def missionStateOfParams (params : Json.Value) : Except ConfigError ConditionKind := do
  let p ← Parameters.read "missionState" Parameters.missionStates params
  if p.states.isEmpty then refuse "missionState" "missionStates is empty"
  return .missionState p.states

/-- A condition without subjects. -/
def alone (kind : Except ConfigError ConditionKind) : Except ConfigError Condition :=
  kind.map fun kind => { kind }

/-- A condition of subjects, which are looked up before the parameters are read. -/
def about (subjects : Except ConfigError SubjectGroup) (kind : Except ConfigError ConditionKind) :
    Except ConfigError Condition := do
  let subjects ← subjects
  let kind ← kind
  return { kind, subjects }

def ofDescriptor (names : Names) (descriptor : ConditionDescriptor) :
    Except ConfigError Condition :=
  let subjects := names.subjects "condition" descriptor.subjects
  let params := descriptor.params
  match descriptor.kind with
  | "destroyed" => about subjects (destroyedOfParams params)
  | "count" => about subjects (countOfParams params)
  | "time" => alone ((Timer.ofParams names params).map .time)
  | "hullIntegrity" => about subjects (integrityOfParams .hull "hullIntegrity" params)
  | "shieldIntegrity" => about subjects (integrityOfParams .shield "shieldIntegrity" params)
  | "distance" => about subjects (distanceOfParams names params)
  | "hit" => about subjects ((sourceOfParams names "hit" params).map (.hit · {}))
  | "away" =>
    about subjects ((Parameters.read "away" Parameters.away params).map fun p => .away p.which)
  | "onTeam" => about subjects (onTeamOfParams names params)
  | "missionState" => alone (missionStateOfParams params)
  | "getsTargeted" =>
    about subjects ((sourceOfParams names "getsTargeted" params).map (.getsTargeted · {}))
  | "isTargeted" => about subjects ((sourceOfParams names "isTargeted" params).map .isTargeted)
  | other => .error (.unknownConditionType other)

end Condition

namespace Action

/-- How long a message is shown that does not say so. -/
def readingTime (text : String) : Scalar := 2000 + Scalar.ofCount text.length * 50

def messageOfParams (names : Names) (params : Json.Value) : Except ConfigError ActionKind := do
  let p ← Parameters.read "message" Parameters.message params
  let source ← lookUp names.craft p.source
  return .message
    { text := p.text
      duration := p.duration.getD (readingTime p.text)
      permanent := p.permanent
      urgent := p.urgent
      color := p.color
      source }

def commandOfParams (names : Names) (params : Json.Value) : Except ConfigError ActionKind := do
  let order ← Parameters.read "command" Parameters.order params
  match order with
  | .jump way => return .command (.jump way)
  | .target single list priority =>
    let single ← lookUp names.craft single
    let list ← list.mapM names.craft
    return .command (.target single list priority)
  | .reachDistance target least most =>
    if least.isNone ∧ most.isNone then refuse "command" "minDistance or maxDistance required"
    let target ← names.craft target
    return .command (.reachDistance ⟨target, least, most⟩)

def kindOfDescriptor (names : Names) (descriptor : ActionDescriptor) :
    Except ConfigError ActionKind :=
  let params := descriptor.params
  match descriptor.kind with
  | "win" => .ok .win
  | "lose" => .ok .lose
  | "message" => messageOfParams names params
  | "clearMessages" => .ok .clearMessages
  | "command" =>
    if descriptor.subjects.isEmpty then refuse "command" "a command needs subjects"
    else commandOfParams names params
  | "hud" => (Parameters.read "hud" Parameters.hud params).map .hud
  | other => .error (.unknownActionType other)

def ofDescriptor (names : Names) (descriptor : ActionDescriptor) : Except ConfigError Action := do
  let kind ← kindOfDescriptor names descriptor
  let subjects ←
    if descriptor.subjects.isEmpty then pure {} else names.subjects "action" descriptor.subjects
  return { kind, delay := descriptor.delay.orZero, subjects }

end Action

namespace Trigger

/-- Whether a description without conditions is one of a trigger that cannot fire. -/
def lacksConditions (descriptor : TriggerDescriptor) : Bool :=
  descriptor.conditions.isEmpty &&
    !(descriptor.fireWhen == .missionStarts && descriptor.oneShot)

/-- Whether a description gives a delay that does not count. -/
def ignoresDelay (descriptor : TriggerDescriptor) : Bool :=
  decide (0 < descriptor.delay) && !descriptor.oneShot

/-- The trigger of the event named `event`, and the reports on it. -/
def ofDescriptor (names : Names) (event : String) (descriptor : TriggerDescriptor) :
    Trigger × Diagnostics :=
  if lacksConditions descriptor then
    (off, [.invalidTrigger event
      "a trigger without conditions must be a one-shot missionStarts trigger"])
  else
    match descriptor.conditions.mapM (Condition.ofDescriptor names) with
    | .error error => (off, [error, .invalidTrigger event "invalid condition"])
    | .ok conditions =>
      let trigger : Trigger :=
        { conditions
          required := descriptor.conditionsRequired
          policy := descriptor.fireWhen
          oneShot := if descriptor.oneShot then some .armed else none
          delay := if ignoresDelay descriptor then 0 else descriptor.delay.orZero }
      (trigger,
        if ignoresDelay descriptor then
          [.invalidTrigger event "delay requires oneShot, ignoring it"]
        else [])

end Trigger

namespace Event

/-- The values and the errors of some results, each in order. -/
def sortOut {α : Type} : List (Except ConfigError α) → List α × Diagnostics
  | [] => ([], [])
  | .ok value :: rest => let (values, errors) := sortOut rest; (value :: values, errors)
  | .error error :: rest => let (values, errors) := sortOut rest; (values, error :: errors)

/-- The event of a name, and the reports on it. -/
def ofDescriptor (names : Names) (name : String) (descriptor : EventDescriptor) :
    Event × Diagnostics :=
  let (trigger, problems) := Trigger.ofDescriptor names name descriptor.trigger
  let (actions, errors) := sortOut (descriptor.actions.map (Action.ofDescriptor names))
  (⟨name, trigger, actions⟩, problems ++ errors)

end Event

end Sortie
