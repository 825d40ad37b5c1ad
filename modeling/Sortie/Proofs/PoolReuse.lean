import Sortie.Pilot.Pursuit
import Sortie.Proofs.Twins

set_option autoImplicit false

namespace Sortie

open World (Agree)

variable {sparkling : Prop} {world other : World}

theorem Condition.checkImpossible_twin (twin : world.Twin sparkling other) (condition : Condition) :
    condition.checkImpossible other = condition.checkImpossible world := by
  cases twin
  rfl

theorem Trigger.askUntil_twin (twin : world.Twin sparkling other) (verdict : Bool)
    (conditions : List Condition) :
    askUntil verdict other conditions = askUntil verdict world conditions := by
  induction conditions with
  | nil => rfl
  | cons condition rest ih =>
    rw [askUntil, askUntil, ih, condition.checkImpossible_twin twin]

theorem Trigger.checkImpossible_twin (twin : world.Twin sparkling other) (trigger : Trigger) :
    trigger.checkImpossible other = trigger.checkImpossible world := by
  rw [checkImpossible, checkImpossible, askUntil_twin twin]

theorem Trigger.simulate_twin (twin : world.Twin sparkling other) (trigger : Trigger)
    (dt : Scalar) :
    trigger.simulate other dt = trigger.simulate world dt := by
  cases twin
  rfl

theorem World.Twin.execute (twin : world.Twin sparkling other) (action : Action) :
    Agree sparkling (action.execute world) (action.execute other) := by
  have reloaded : action.subjects.reload other = action.subjects.reload world := by
    cases twin
    rfl
  unfold Action.execute
  cases action.kind with
  | win =>
    refine ⟨rfl, ?_⟩
    obtain ⟨alike, drawn⟩ := twin
    exact .ite _ (World.Twin.setState (.mk alike drawn) _) (.mk alike drawn)
  | lose =>
    refine ⟨rfl, ?_⟩
    obtain ⟨alike, drawn⟩ := twin
    exact .ite _ (.mk alike drawn)
      (.ite _ (World.Twin.setState (.mk alike drawn) _) (.mk alike drawn))
  | message message =>
    refine ⟨rfl, ?_⟩
    obtain ⟨alike, drawn⟩ := twin
    exact .ite _ (.mk alike drawn) (.mk alike drawn)
  | clearMessages => exact ⟨rfl, twin.observe _⟩
  | command command =>
    dsimp only
    rw [reloaded]
    exact ⟨rfl, .foldl (fun _ _ craft twin => twin.dispatch craft command) _ twin⟩
  | hud change => exact ⟨rfl, twin.observe _⟩

namespace Event

theorem runActions_twin (place : ActionPlace) (actions : List Action)
    (twin : world.Twin sparkling other) :
    Agree sparkling (runActions place actions world) (runActions place actions other) := by
  induction actions generalizing place world other with
  | nil => exact ⟨rfl, twin⟩
  | cons action rest ih =>
    have first : Agree sparkling
        (if action.isDelayed then (action, world.enqueue place action.delay)
          else action.execute world)
        (if action.isDelayed then (action, other.enqueue place action.delay)
          else action.execute other) := by
      refine .ite _ ⟨rfl, ?_⟩ (twin.execute action)
      obtain ⟨alike, drawn⟩ := twin
      exact .mk alike drawn
    have later := ih { place with action := place.action + 1 } first.worlds
    refine ⟨?_, later.worlds⟩
    simp only [runActions, first.answer, later.answer]

theorem simulate_twin (event : Event) (index : Nat) (dt : Scalar)
    (twin : world.Twin sparkling other) :
    Agree sparkling (event.simulate index world dt) (event.simulate index other dt) := by
  unfold simulate
  rw [event.trigger.simulate_twin twin]
  refine .ite _ ?_ ⟨rfl, twin⟩
  have recorded : (world.recordFire index).Twin sparkling (other.recordFire index) := by
    obtain ⟨alike, drawn⟩ := twin
    exact .mk alike drawn
  obtain ⟨actions, worlds⟩ := runActions_twin ⟨index, 0⟩ event.actions recorded
  exact ⟨by dsimp only; rw [actions], worlds⟩

theorem simulateAll_twin (dt : Scalar) (index : Nat) (events : List Event)
    (twin : world.Twin sparkling other) :
    Agree sparkling (simulateAll dt index events world) (simulateAll dt index events other) := by
  induction events generalizing index world other with
  | nil => exact ⟨rfl, twin⟩
  | cons event rest ih =>
    have first := event.simulate_twin index dt twin
    have later := ih (index + 1) first.worlds
    refine ⟨?_, later.worlds⟩
    simp only [simulateAll, first.answer, later.answer]

theorem executeAt_twin (events : List Event) (place : ActionPlace)
    (twin : world.Twin sparkling other) :
    Agree sparkling (executeAt events place world) (executeAt events place other) := by
  unfold executeAt
  cases events[place.event]? with
  | none => exact ⟨rfl, twin⟩
  | some event =>
    dsimp only
    cases event.actions[place.action]? with
    | none => exact ⟨rfl, twin⟩
    | some action =>
      obtain ⟨answer, worlds⟩ := twin.execute action
      exact ⟨by dsimp only; rw [answer], worlds⟩

end Event

theorem Objective.evaluate_twin (twin : world.Twin sparkling other) (objective : Objective)
    (events : List Event) :
    objective.evaluate other events = objective.evaluate world events := by
  have threat (trigger : Trigger) :
      standingOfThreat other trigger = standingOfThreat world trigger := by
    rw [standingOfThreat, standingOfThreat, trigger.checkImpossible_twin twin]
  have threats : standingOfThreat other = standingOfThreat world := funext threat
  unfold evaluate
  rw [threats]
  cases twin
  rfl

theorem Objective.report_twin (twin : world.Twin sparkling other) (objective : Objective)
    (status : ObjectiveStatus) (events : List Event) :
    objective.report status other events = objective.report status world events := by
  cases twin
  rfl

theorem Objective.targets_twin (twin : world.Twin sparkling other) (objective : Objective)
    (events : List Event) : objective.targets other events = objective.targets world events := by
  cases twin
  rfl

namespace Mission

theorem executeAll_twin (due : List ActionPlace) (events : List Event)
    (twin : world.Twin sparkling other) :
    Agree sparkling (executeAll due events world) (executeAll due events other) := by
  induction due generalizing events world other with
  | nil => exact ⟨rfl, twin⟩
  | cons place rest ih =>
    have first := Event.executeAt_twin events place twin
    have later := ih (Event.executeAt events place world).1 first.worlds
    simp only [executeAll, first.answer]
    exact later

theorem evaluateAll_twin (twin : world.Twin sparkling other) (objectives : List TrackedObjective)
    (events : List Event) :
    evaluateAll other objectives events = evaluateAll world objectives events := by
  induction objectives generalizing events with
  | nil => rfl
  | cons tracked rest ih => simp only [evaluateAll, tracked.objective.evaluate_twin twin, ih]

theorem reportAll_twin (twin : world.Twin sparkling other) (objectives : List TrackedObjective)
    (events : List Event) :
    reportAll other objectives events = reportAll world objectives events := by
  induction objectives generalizing events with
  | nil => rfl
  | cons tracked rest ih => simp only [reportAll, tracked.objective.report_twin twin, ih]

theorem targetsOfAll_twin (twin : world.Twin sparkling other) (objectives : List TrackedObjective)
    (events : List Event) :
    targetsOfAll other objectives events = targetsOfAll world objectives events := by
  induction objectives generalizing events with
  | nil => rfl
  | cons tracked rest ih => simp only [targetsOfAll, tracked.objective.targets_twin twin, ih]

variable {π : Type}

/-- Two missions that differ at most in their worlds, which are twins. -/
inductive Twin (sparkling : Prop) (mission : Mission π) : Mission π → Prop where
  | mk {world : World} (twin : mission.world.Twin sparkling world) :
      Twin sparkling mission { mission with world }

section

variable {mission counterpart : Mission π} (twin : mission.Twin sparkling counterpart)

include twin

theorem Twin.advanceTime (dt : Scalar) :
    (mission.advanceTime dt).Twin sparkling (counterpart.advanceTime dt) := by
  obtain ⟨⟨alike, drawn⟩⟩ := twin
  exact .mk (.mk alike drawn)

theorem Twin.runDueActions (dt : Scalar) :
    (mission.runDueActions dt).Twin sparkling (counterpart.runDueActions dt) := by
  obtain @⟨world, twin⟩ := twin
  have taken : Agree sparkling (mission.world.takeDue dt) (world.takeDue dt) := by
    obtain ⟨alike, drawn⟩ := twin
    exact ⟨rfl, .mk alike drawn⟩
  have done := executeAll_twin (mission.world.takeDue dt).1 mission.events taken.worlds
  unfold Mission.runDueActions
  dsimp only
  rw [taken.answer, done.answer]
  split
  · exact .mk done.worlds
  · exact .mk twin

theorem Twin.runEvents (dt : Scalar) :
    (mission.runEvents dt).Twin sparkling (counterpart.runEvents dt) := by
  obtain @⟨world, twin⟩ := twin
  have retired (log : NoticeLog) {one other : World} (twin : one.Twin sparkling other) :
      (one.retireNotices log.finish).Twin sparkling (other.retireNotices log.finish) := by
    obtain ⟨alike, drawn⟩ := twin
    exact .mk alike drawn
  have notices : world.notices = mission.world.notices := by
    cases twin
    rfl
  have looked := Event.simulateAll_twin dt 0 mission.events twin
  unfold Mission.runEvents
  cases mission.authority with
  | false =>
    simp only [Bool.false_eq_true, ↓reduceIte, notices]
    exact .mk (retired _ twin)
  | true =>
    simp only [↓reduceIte, notices, looked.answer]
    exact .mk (retired _ looked.worlds)

theorem Twin.controlCrafts [Pilot π] (dt : Scalar) :
    (mission.controlCrafts dt).Twin sparkling (counterpart.controlCrafts dt) := by
  obtain @⟨world, twin⟩ := twin
  have intended (pilot : Option π) (indices : List Nat) :
      intents { mission with world } dt pilot indices = mission.intents dt pilot indices := by
    obtain ⟨alike, drawn⟩ := twin
    induction indices generalizing pilot with
    | nil => rfl
    | cons index rest ih =>
      simp only [intents, ih]
      rfl
  unfold Mission.controlCrafts
  dsimp only
  rw [twin.listed, intended]
  exact .mk (.foldl (fun _ _ craft twin => twin.carryOut dt craft.1 craft.2) _ twin)

theorem Twin.simulateCrafts (dt : Scalar) :
    (mission.simulateCrafts dt).Twin sparkling (counterpart.simulateCrafts dt) := by
  obtain ⟨twin⟩ := twin
  exact .mk (twin.simulateCrafts dt)

theorem Twin.resolveCollisions :
    mission.resolveCollisions.Twin sparkling counterpart.resolveCollisions := by
  obtain ⟨twin⟩ := twin
  exact .mk twin.resolveCollisions

theorem Twin.simulateWeapons (dt : Scalar) :
    (mission.simulateWeapons dt).Twin sparkling (counterpart.simulateWeapons dt) := by
  obtain ⟨twin⟩ := twin
  exact .mk (twin.simulateWeapons dt)

theorem Twin.simulateEffects (dt : Scalar) :
    (mission.simulateEffects dt).Twin sparkling (counterpart.simulateEffects dt) := by
  obtain ⟨⟨alike, drawn⟩⟩ := twin
  exact .mk (.mk (alike.simulateEffects dt) drawn)

theorem Twin.recenterOrigin : mission.recenterOrigin.Twin sparkling counterpart.recenterOrigin := by
  obtain @⟨world, twin⟩ := twin
  have viewpoint : viewpoint? { mission with world } = mission.viewpoint? := by
    cases twin
    rfl
  unfold Mission.recenterOrigin
  rw [viewpoint]
  cases mission.viewpoint? with
  | none => exact .mk twin
  | some viewpoint =>
    have limit : world.settings.originRecenterDistance =
        mission.world.settings.originRecenterDistance := by
      cases twin
      rfl
    dsimp only
    rw [limit]
    split
    · exact .mk twin
    · exact .mk (twin.translate _)

theorem Twin.updateState : mission.updateState.Twin sparkling counterpart.updateState := by
  obtain @⟨world, twin⟩ := twin
  have evaluated : evaluateObjectives { mission with world } =
      { mission.evaluateObjectives with world } := by
    simp only [evaluateObjectives, evaluateAll_twin twin]
  have next : nextState { mission.evaluateObjectives with world } =
      mission.evaluateObjectives.nextState := by
    cases twin
    rfl
  unfold Mission.updateState
  dsimp only
  rw [evaluated, next]
  exact .mk (twin.setState _)

theorem Twin.tick [Pilot π] (dt : Scalar) :
    (mission.tick dt).Twin sparkling (counterpart.tick dt) := by
  unfold Mission.tick
  split
  · have ruled := ((twin.advanceTime dt).runDueActions dt).runEvents dt
    have flown := (ruled.controlCrafts dt).simulateCrafts dt
    have faded := (flown.resolveCollisions.simulateWeapons dt).simulateEffects dt
    exact faded.recenterOrigin.updateState
  · exact twin

theorem Twin.take [Pilot π] (input : Input π) :
    (mission.take input).Twin sparkling (counterpart.take input) := by
  cases input with
  | tick dt => exact twin.tick dt
  | reports =>
    obtain @⟨world, twin⟩ := twin
    simp only [Mission.take, objectiveReports, reportAll_twin twin]
    exact .mk twin
  | targets =>
    obtain @⟨world, twin⟩ := twin
    simp only [Mission.take, objectiveTargets, targetsOfAll_twin twin]
    exact .mk twin
  | authority on =>
    obtain ⟨twin⟩ := twin
    exact .mk twin
  | pilot pilot =>
    obtain ⟨twin⟩ := twin
    exact .mk twin
  | autopilot on =>
    obtain ⟨twin⟩ := twin
    exact .mk twin
  | intent intent =>
    obtain ⟨twin⟩ := twin
    exact .mk twin
  | camera place =>
    obtain ⟨twin⟩ := twin
    exact .mk twin

omit twin in
theorem Twin.play [Pilot π] (inputs : List (Input π)) {mission counterpart : Mission π}
    (twin : mission.Twin sparkling counterpart) :
    (mission.play inputs).Twin sparkling (counterpart.play inputs) := by
  induction inputs generalizing mission counterpart with
  | nil => exact twin
  | cons input rest ih => exact ih (twin.take input)

end

end Mission

theorem Event.ofDescriptor_twin (twin : world.Twin sparkling other) (names : List String)
    (name : String) (descriptor : EventDescriptor) :
    Event.ofDescriptor ⟨other, names⟩ name descriptor =
      Event.ofDescriptor ⟨world, names⟩ name descriptor := by
  cases twin
  rfl

namespace LoadedMission

theorem buildEvents_twin (twin : world.Twin sparkling other) (names : List String)
    (called : List String) (descriptors : List EventDescriptor) :
    buildEvents ⟨other, names⟩ called descriptors =
      buildEvents ⟨world, names⟩ called descriptors := by
  induction called generalizing descriptors with
  | nil => rfl
  | cons name rest ih =>
    cases descriptors with
    | nil => rfl
    | cons descriptor descriptors =>
      simp only [buildEvents, ih, Event.ofDescriptor_twin twin]

theorem addTeam_twin (team : Team) (twin : world.Twin sparkling other) :
    (world.addTeam team).Twin sparkling (other.addTeam team) := by
  obtain ⟨alike, drawn⟩ := twin
  exact .ite _ (.mk alike drawn) (.mk alike drawn)

theorem teamOf_twin (implicitTeams : Bool) (team : Option String)
    (twin : world.Twin sparkling other) :
    (teamOf implicitTeams other team).1 = (teamOf implicitTeams world team).1 ∧
      (teamOf implicitTeams world team).2.1.Twin sparkling (teamOf implicitTeams other team).2.1 ∧
      (teamOf implicitTeams other team).2.2 = (teamOf implicitTeams world team).2.2 := by
  have known (id : String) : other.team? id = world.team? id := by
    cases twin
    rfl
  cases team with
  | none => exact ⟨rfl, twin, rfl⟩
  | some id =>
    unfold teamOf
    dsimp only
    rw [known]
    split
    · exact ⟨rfl, twin, rfl⟩
    · split
      · exact ⟨rfl, addTeam_twin _ twin, rfl⟩
      · exact ⟨rfl, twin, rfl⟩

theorem recruit_twin (catalog : Catalog) (implicitTeams : Bool) (descriptor : CraftDescriptor)
    (twin : world.Twin sparkling other) :
    (recruit catalog implicitTeams world descriptor).1.Twin sparkling
        (recruit catalog implicitTeams other descriptor).1 ∧
      (recruit catalog implicitTeams other descriptor).2 =
        (recruit catalog implicitTeams world descriptor).2 := by
  have size : other.crafts.size = world.crafts.size := by
    cases twin
    rfl
  have added (craft : Spacecraft) {one other : World} (twin : one.Twin sparkling other) :
      (one.addCraft craft).Twin sparkling (other.addCraft craft) := by
    obtain ⟨alike, drawn⟩ := twin
    exact .mk alike drawn
  have piloted {one other : World} (twin : one.Twin sparkling other) (id : String) (asked : Bool) :
      pilotedOf other id asked = pilotedOf one id asked := by
    cases twin
    rfl
  obtain ⟨team, joined, problems⟩ := teamOf_twin implicitTeams descriptor.team twin
  unfold recruit
  dsimp only
  rw [size, team, problems, piloted joined]
  exact ⟨added _ joined, rfl⟩

theorem recruitAll_twin (catalog : Catalog) (implicitTeams : Bool)
    (descriptors : List CraftDescriptor) (twin : world.Twin sparkling other) :
    (recruitAll catalog implicitTeams world descriptors).1.Twin sparkling
        (recruitAll catalog implicitTeams other descriptors).1 ∧
      (recruitAll catalog implicitTeams other descriptors).2 =
        (recruitAll catalog implicitTeams world descriptors).2 := by
  induction descriptors generalizing world other with
  | nil => exact ⟨twin, rfl⟩
  | cons descriptor rest ih =>
    obtain ⟨recruited, problems⟩ := recruit_twin catalog implicitTeams descriptor twin
    obtain ⟨others, reports⟩ := ih recruited
    exact ⟨others, by simp only [recruitAll, problems, reports]⟩

section

variable {settings : Settings} {quality : Quality} {particles : Bool}
  (drawn : sparkling → quality = settings.quality ∧ particles = settings.particles)
  {one other : Pools} (alike : one.Alike sparkling other)

include drawn alike

theorem emptyWorld_twin (mission : MissionDescriptor) :
    (emptyWorld mission settings one).Twin sparkling
      (emptyWorld mission { settings with quality, particles } other) :=
  .foldl (fun _ _ team twin => addTeam_twin team twin) _ (.mk alike drawn)

theorem ofDescriptor_twin (mission : MissionDescriptor) (catalog : Catalog) :
    let first := ofDescriptor mission catalog settings one
    let second := ofDescriptor mission catalog { settings with quality, particles } other
    first.world.Twin sparkling second.world ∧ second.events = first.events ∧
      second.diagnostics = first.diagnostics := by
  obtain ⟨manned, problems⟩ := recruitAll_twin catalog mission.teams.isEmpty
    (CraftEntry.expandAll mission.spacecrafts) (emptyWorld_twin drawn alike mission)
  have reset {one other : World} (twin : one.Twin sparkling other) :
      (one.resetFires mission.events.length).Twin sparkling
        (other.resetFires mission.events.length) := by
    obtain ⟨alike, drawn⟩ := twin
    exact .mk alike drawn
  have built := buildEvents_twin (reset manned) (eventNames mission.events)
    (eventNames mission.events) mission.events
  unfold ofDescriptor
  dsimp only
  rw [built, problems]
  exact ⟨reset manned, rfl, rfl⟩

end

end LoadedMission

namespace Pools

/-- The pool of one kind that some mission handed back, whatever became of the mission. -/
def HandedBack {α : Type} (kind : Pools → Pool α) (pool : Pool α) : Prop :=
  ∃ (π : Type) (mission : Mission π), kind mission.destroy = pool

/-- Pools as users come by them: each is new or was handed back by a mission, and may have been used
since. -/
structure Attained (pools : Pools) : Prop where
  particles : pools.particles.Attained (HandedBack Pools.particles)
  projectiles : pools.projectiles.Attained (HandedBack Pools.projectiles)
  missiles : pools.missiles.Attained (HandedBack Pools.missiles)
  explosions : pools.explosions.Attained (HandedBack Pools.explosions)
  trails : pools.trails.Attained (HandedBack Pools.trails)

/-- No slot is locked. -/
structure Spare (pools : Pools) : Prop where
  particles : pools.particles.locked = []
  projectiles : pools.projectiles.locked = []
  missiles : pools.missiles.locked = []
  explosions : pools.explosions.locked = []
  trails : pools.trails.locked = []

theorem HandedBack.tight {α : Type} {kind : Pools → Pool α}
    (kept : ∀ pools, kind pools.releaseAll = (kind pools).releaseAll) {pool : Pool α}
    (handed : HandedBack kind pool) : pool.Tight := by
  obtain ⟨π, mission, rfl⟩ := handed
  rw [Mission.destroy, kept]
  exact Pool.releaseAll_tight _

/-- No slot is handed out while a lesser one is free. -/
structure Tight (pools : Pools) : Prop where
  particles : pools.particles.Tight
  projectiles : pools.projectiles.Tight
  missiles : pools.missiles.Tight
  explosions : pools.explosions.Tight
  trails : pools.trails.Tight

theorem Attained.tight {pools : Pools} (attained : pools.Attained) : pools.Tight where
  particles := attained.particles.tight fun _ => HandedBack.tight fun _ => rfl
  projectiles := attained.projectiles.tight fun _ => HandedBack.tight fun _ => rfl
  missiles := attained.missiles.tight fun _ => HandedBack.tight fun _ => rfl
  explosions := attained.explosions.tight fun _ => HandedBack.tight fun _ => rfl
  trails := attained.trails.tight fun _ => HandedBack.tight fun _ => rfl

theorem Attained.alike {one other : Pools} (attained : one.Attained)
    (attainedOther : other.Attained) (spare : one.Spare) (spareOther : other.Spare) :
    one.Alike True other where
  particles _ := .of_locked_eq_nil attained.tight.particles attainedOther.tight.particles
    spare.particles spareOther.particles
  projectiles := .of_locked_eq_nil attained.tight.projectiles attainedOther.tight.projectiles
    spare.projectiles spareOther.projectiles
  missiles := .of_locked_eq_nil attained.tight.missiles attainedOther.tight.missiles
    spare.missiles spareOther.missiles
  explosions := .of_locked_eq_nil attained.tight.explosions attainedOther.tight.explosions
    spare.explosions spareOther.explosions
  trails := .of_locked_eq_nil attained.tight.trails attainedOther.tight.trails
    spare.trails spareOther.trails

theorem fresh_attained : Attained {} :=
  ⟨.fresh _, .fresh _, .fresh _, .fresh _, .fresh _⟩

theorem fresh_spare : Spare {} := ⟨rfl, rfl, rfl, rfl, rfl⟩

end Pools

namespace Mission

variable {π : Type}

theorem destroy_attained (mission : Mission π) : mission.destroy.Attained :=
  ⟨.handed ⟨π, mission, rfl⟩, .handed ⟨π, mission, rfl⟩, .handed ⟨π, mission, rfl⟩,
    .handed ⟨π, mission, rfl⟩, .handed ⟨π, mission, rfl⟩⟩

theorem destroy_spare (mission : Mission π) : mission.destroy.Spare :=
  ⟨Pool.releaseAll_locked _, Pool.releaseAll_locked _, Pool.releaseAll_locked _,
    Pool.releaseAll_locked _, Pool.releaseAll_locked _⟩

/-- Missions that are built with alike pools, and with the same graphics if the sparks count, are
twins. -/
theorem ofDescriptor_twin {sparkling : Prop} (descriptor : MissionDescriptor) (catalog : Catalog)
    {settings : Settings} {quality : Quality} {particles : Bool}
    (drawn : sparkling → quality = settings.quality ∧ particles = settings.particles)
    {one other : Pools} (alike : one.Alike sparkling other) :
    (ofDescriptor descriptor catalog settings one : Mission π).Twin sparkling
      (ofDescriptor descriptor catalog { settings with quality, particles } other) := by
  obtain ⟨world, events, diagnostics⟩ := LoadedMission.ofDescriptor_twin drawn
    (alike.prefill settings.poolSizes (Settings.poolSizes { settings with quality, particles }))
    descriptor catalog
  have reference {one other : World} (twin : one.Twin sparkling other) :
      Score.referenceOf other.crafts other.piloted =
        Score.referenceOf one.crafts one.piloted := by
    cases twin
    rfl
  unfold ofDescriptor initialState
  dsimp only
  rw [events, diagnostics, world.listed, reference (world.setState _)]
  exact .mk (world.setState _)

variable [Pilot π]

/-- A mission that is built with any pools without a locked slot runs as one that is built with any
others: at every moment everything but the pools is the same, and in these the locked slots. -/
theorem spare_pools_leave_no_trace (descriptor : MissionDescriptor) (catalog : Catalog)
    (settings : Settings) {one other : Pools} (attained : one.Attained)
    (attainedOther : other.Attained) (spare : one.Spare) (spareOther : other.Spare)
    (inputs : List (Input π)) :
    let first := (ofDescriptor descriptor catalog settings one).play inputs
    let second := (ofDescriptor descriptor catalog settings other).play inputs
    second = { first with world := { first.world with pools := second.world.pools } } ∧
      second.score = first.score ∧
      second.world.pools.particles.locked = first.world.pools.particles.locked ∧
      second.world.pools.projectiles.locked = first.world.pools.projectiles.locked ∧
      second.world.pools.missiles.locked = first.world.pools.missiles.locked ∧
      second.world.pools.explosions.locked = first.world.pools.explosions.locked ∧
      second.world.pools.trails.locked = first.world.pools.trails.locked := by
  have twin : Twin True ((ofDescriptor descriptor catalog settings one).play inputs)
      ((ofDescriptor descriptor catalog settings other).play inputs) :=
    (ofDescriptor_twin descriptor catalog (fun _ => ⟨rfl, rfl⟩)
      (attained.alike attainedOther spare spareOther)).play inputs
  dsimp only
  generalize (ofDescriptor descriptor catalog settings one).play inputs = first at twin ⊢
  generalize (ofDescriptor descriptor catalog settings other).play inputs = second at twin ⊢
  obtain ⟨⟨alike, drawn⟩⟩ := twin
  obtain ⟨rfl, rfl⟩ := drawn trivial
  exact ⟨rfl, rfl, (alike.particles trivial).locked, alike.projectiles.locked,
    alike.missiles.locked, alike.explosions.locked, alike.trails.locked⟩

/-- A pilot on patrol who fires one shot. -/
def patrol (pools : Pools) : Mission Pursuit :=
  ofDescriptor
    { spacecrafts := [.single { craftClass := "interceptor", piloted := true }] }
    .standard { quality := .low, particles := false } pools

/-- A shot of the pilot, and some time to see it fly. -/
def shot : List (Input Pursuit) := [.intent (some { fire := true }), .tick 16, .tick 16]

/-- The next patrol fires into the slot that still holds the shot of the one before. -/
theorem patrol_repeats :
    let used := ((patrol {}).play shot).destroy
    (used.projectiles.slots[0]?.any fun slot => !slot.locked && slot.object.timeLeft != 0) ∧
      ((patrol used).play shot).world.pools.projectiles.locked =
        ((patrol {}).play shot).world.pools.projectiles.locked ∧
      ((patrol used).play shot).world.pools.projectiles.locked.length = 1 := by
  refine ⟨by decide +kernel, ?_, by decide +kernel⟩
  exact (spare_pools_leave_no_trace _ _ _ Pools.fresh_attained (destroy_attained _)
    Pools.fresh_spare (destroy_spare _) shot).2.2.2.1

end Mission

end Sortie
