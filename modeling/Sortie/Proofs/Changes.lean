import Mathlib.Logic.Relation
import Sortie.Mission.Tick
import Sortie.Proofs.DamageCases

set_option autoImplicit false

namespace Sortie

/-- The change of state that an observation tells of. -/
def Observation.change? : Observation → Option (MissionState × MissionState)
  | .state old new => some (old, new)
  | .message _ | .clearMessages | .hud _ | .command _ _ => none

namespace World

theorem craft?_setCraft (world : World) (index other : Nat) (craft : Spacecraft) :
    (world.setCraft index craft).craft? other =
      if index = other then (world.craft? index).map fun _ => craft else world.craft? other := by
  simp only [craft?, setCraft, Array.getElem?_setIfInBounds]
  by_cases same : index = other
  · subst same
    by_cases inside : index < world.crafts.size
    · simp [inside]
    · simp [inside]
  · simp [same]

theorem craft?_setCraft_other (world : World) {index other : Nat} (apart : index ≠ other)
    (craft : Spacecraft) : (world.setCraft index craft).craft? other = world.craft? other := by
  rw [craft?_setCraft, if_neg apart]

theorem pair?_some {world : World} {first second : Nat} {one other : Spacecraft}
    (found : world.pair? first second = some (one, other)) :
    first ≠ second ∧ world.craft? first = some one ∧ world.craft? second = some other := by
  unfold pair? at found
  split at found
  · cases found
  · rename_i apart
    split at found
    · rename_i there here
      cases found
      exact ⟨apart, there, here⟩
    · cases found

/-- What is the least that changes in a world at once. -/
inductive ChangeKind where
  | aim | steer | fire | launch
  | obey | sight | observe | state | clock | record | await | retire
  | fly | arrive | prune
  | push | harm | hit | credit | explode
  | shoot | count
  | fade | shift
  deriving DecidableEq

/-- The least changes of a world, by their kind. All that a step does to a world is made up of
them, so a relation between worlds that holds for each of some kinds holds for all that is done by
changes of these kinds. -/
inductive Change : ChangeKind → World → World → Prop
  /-- A spacecraft takes another target, or none. -/
  | aim {world : World} {index : Nat} {craft : Spacecraft} (target : Option Nat)
      (found : world.craft? index = some craft) :
      Change .aim world (world.setCraft index (craft.setTarget target).2)
  | steer {world : World} {index : Nat} {craft : Spacecraft} (intent : Intent) (dt : Scalar)
      (found : world.craft? index = some craft) :
      Change .steer world (world.setCraft index (craft.steer intent dt))
  /-- A spacecraft fires its primary weapon. -/
  | fire {world : World} {index : Nat} {craft : Spacecraft} (cooldown : Scalar)
      (position velocity : Vec) (damage lifetime : Scalar)
      (found : world.craft? index = some craft) :
      Change .fire world
        { world.setCraft index
            { craft with
              weaponCooldown := cooldown
              stats := { craft.stats with shotsFired := craft.stats.shotsFired + 1 } } with
          pools := (world.pools.renewProjectile fun stale =>
            stale.reset index position velocity damage lifetime).2 }
  /-- A spacecraft launches one of its missiles. -/
  | launch {world : World} {index : Nat} {craft : Spacecraft} (cooldown : Scalar)
      (target : Option Nat) (position direction : Vec) (missileClass : MissileClass)
      (found : world.craft? index = some craft) (loaded : craft.missiles ≠ 0) :
      Change .launch world
        { world.setCraft index
            { craft with missiles := craft.missiles - 1, missileCooldown := cooldown } with
          pools := (world.pools.renewMissile fun stale =>
            stale.reset index target position direction missileClass).2 }
  /-- A spacecraft obeys a command. -/
  | obey {world : World} {index : Nat} {craft : Spacecraft} (command : Command)
      (found : world.craft? index = some craft) :
      Change .obey world (world.setCraft index (craft.obey command).2)
  /-- A notice that somebody is targeted. -/
  | sight {world : World} (target source : Nat) :
      Change .sight world (world.notify (.targeted target source))
  /-- An observation of anything but the state. -/
  | observe {world : World} {observation : Observation} (plain : observation.change? = none) :
      Change .observe world (world.observe observation)
  /-- The mission has another state, of which the observer is told. -/
  | state {world : World} (state : MissionState) :
      Change .state world { world.observe (.state world.state state) with state }
  /-- Time passes, and with it the surroundings turn. -/
  | clock {world : World} (elapsed : LongTime) (environment : Environment) :
      Change .clock world { world with elapsed, environment }
  /-- An event has fired. -/
  | record {world : World} (event : Nat) : Change .record world (world.recordFire event)
  /-- Other actions wait. -/
  | await {world : World} (queue : List QueuedAction) : Change .await world { world with queue }
  /-- Notices that all have read are dropped. -/
  | retire {world : World} (before : Nat) : Change .retire world (world.retireNotices before)
  /-- One step of the flight of a spacecraft. -/
  | fly {world : World} {index : Nat} {craft : Spacecraft} (dt : Scalar)
      (found : world.craft? index = some craft) :
      Change .fly world (world.setCraft index (craft.simulate dt).2)
  /-- A spacecraft can be hit. -/
  | arrive {world : World} (index : Nat) :
      Change .arrive world { world with hitObjects := world.hitObjects ++ [index] }
  | prune {world : World} : Change .prune world world.prune
  /-- A collision pushes a spacecraft. -/
  | push {world : World} {index : Nat} {craft : Spacecraft} (position velocity : Vec)
      (found : world.craft? index = some craft) :
      Change .push world (world.setCraft index { craft with position, velocity })
  | harm {world : World} {index : Nat} {craft : Spacecraft} (amount : Scalar)
      (found : world.craft? index = some craft) :
      Change .harm world (world.setCraft index (craft.damage amount).2)
  /-- A notice that somebody is hit. -/
  | hit {world : World} (target : Nat) (attacker : Option Nat) :
      Change .hit world (world.notify (.hit target attacker))
  /-- The pilot is credited with damage. -/
  | credit {world : World} {index : Nat} {craft : Spacecraft} (outcome : DamageOutcome)
      (found : world.craft? index = some craft) :
      Change .credit world (world.setCraft index (craft.credit outcome))
  | explode {world : World} (position velocity : Vec) (radius : Scalar) (sparks : Nat) :
      Change .explode world
        { world with pools := world.pools.explode position velocity radius sparks }
  /-- All shots fly. -/
  | shoot {world : World} (dt : Scalar) : Change .shoot world (world.flyShots dt).2
  /-- A hit of the primary weapon counts. -/
  | count {world : World} {index : Nat} {craft : Spacecraft}
      (found : world.craft? index = some craft) :
      Change .count world
        (world.setCraft index
          { craft with stats := { craft.stats with hits := craft.stats.hits + 1 } })
  /-- Explosions, sparks and smoke fade. -/
  | fade {world : World} (dt : Scalar) :
      Change .fade world { world with pools := world.pools.simulateEffects dt }
  /-- The whole scene is shifted. -/
  | shift {world : World} (offset : Vec) : Change .shift world (world.translate offset)

/-- A way from one world to another by changes of some kinds. -/
def Changes (kinds : List ChangeKind) : World → World → Prop :=
  Relation.ReflTransGen fun before after => ∃ kind ∈ kinds, Change kind before after

variable {kinds : List ChangeKind} {before after : World}

theorem Changes.refl (world : World) : Changes kinds world world := Relation.ReflTransGen.refl

theorem Changes.trans {first second third : World} (early : Changes kinds first second)
    (late : Changes kinds second third) : Changes kinds first third :=
  Relation.ReflTransGen.trans early late

theorem Change.changes {kind : ChangeKind} (change : Change kind before after)
    (among : kind ∈ kinds) : Changes kinds before after :=
  Relation.ReflTransGen.single ⟨kind, among, change⟩

theorem Changes.mono {others : List ChangeKind} (changes : Changes kinds before after)
    (among : kinds ⊆ others) : Changes others before after :=
  Relation.ReflTransGen.mono (fun _ _ ⟨kind, member, change⟩ => ⟨kind, among member, change⟩) _ _
    changes

theorem Changes.ite {first second : World} (condition : Prop) [Decidable condition]
    (yes : Changes kinds before first) (no : Changes kinds before second) :
    Changes kinds before (if condition then first else second) := by
  split
  · exact yes
  · exact no

theorem foldl_changes {α : Type} {step : World → α → World}
    (changes : ∀ (world : World) (item : α), Changes kinds world (step world item))
    (items : List α) (world : World) : Changes kinds world (items.foldl step world) := by
  induction items generalizing world with
  | nil => exact .refl world
  | cons item rest ih => exact (changes world item).trans (ih (step world item))

/-- What every change of some kinds relates, all of them together do. -/
theorem Changes.lift {R : World → World → Prop} (reflexive : ∀ world, R world world)
    (transitive : ∀ first second third, R first second → R second third → R first third)
    (each : ∀ kind ∈ kinds, ∀ before after, Change kind before after → R before after)
    (changes : Changes kinds before after) : R before after := by
  induction changes with
  | refl => exact reflexive before
  | tail _ last ih =>
    obtain ⟨kind, member, change⟩ := last
    exact transitive _ _ _ ih (each kind member _ _ change)

/-- What every change of some kinds leaves as it is, all of them together do. -/
theorem Changes.keeps {α : Type} (part : World → α)
    (each : ∀ kind ∈ kinds, ∀ before after, Change kind before after → part after = part before)
    (changes : Changes kinds before after) : part after = part before :=
  changes.lift (R := fun before after => part after = part before) (fun _ => rfl)
    (fun _ _ _ early late => late.trans early) each

/-- What is still so after every change of some kinds is so after all of them together. -/
theorem Changes.preserves {P : World → Prop}
    (each : ∀ kind ∈ kinds, ∀ before after, Change kind before after → P before → P after)
    (changes : Changes kinds before after) (held : P before) : P after :=
  changes.lift (R := fun before after => P before → P after) (fun _ held => held)
    (fun _ _ _ early late held => late (early held)) each held

theorem Change.settings {kind : ChangeKind} (change : Change kind before after) :
    after.settings = before.settings := by
  cases change <;> rfl

theorem Changes.settings (changes : Changes kinds before after) :
    after.settings = before.settings :=
  changes.keeps World.settings fun _ _ _ _ change => change.settings

theorem Change.fires {kind : ChangeKind} (change : Change kind before after)
    (unrecorded : kind ≠ .record) : after.fires = before.fires := by
  cases change with
  | record => exact absurd rfl unrecorded
  | _ => rfl

theorem Changes.fires (changes : Changes kinds before after) (unrecorded : .record ∉ kinds) :
    after.fires = before.fires :=
  changes.keeps World.fires fun _ member _ _ change =>
    change.fires (ne_of_mem_of_not_mem member unrecorded)

theorem Change.queue {kind : ChangeKind} (change : Change kind before after)
    (prompt : kind ≠ .await) : after.queue = before.queue := by
  cases change with
  | await => exact absurd rfl prompt
  | _ => rfl

theorem Changes.queue (changes : Changes kinds before after) (prompt : .await ∉ kinds) :
    after.queue = before.queue :=
  changes.keeps World.queue fun _ member _ _ change =>
    change.queue (ne_of_mem_of_not_mem member prompt)

namespace ChangeKind

/-- What pilots change. -/
def piloting : List ChangeKind := [.aim, .sight, .steer, .fire, .launch]

/-- What actions change that neither win nor lose. -/
def acting : List ChangeKind := [.obey, .sight, .observe]

/-- What actions change when they are carried out. -/
def executing : List ChangeKind := .state :: acting

/-- What actions change that may wait. -/
def deferring : List ChangeKind := .await :: executing

/-- What events change. -/
def firing : List ChangeKind := .record :: deferring

/-- What the rules change before they drop any notice. -/
def ruling : List ChangeKind := .clock :: firing

/-- What flight changes. -/
def flying : List ChangeKind := [.fly, .arrive, .prune]

/-- What damage changes. -/
def damaging : List ChangeKind := [.harm, .hit, .credit, .explode]

/-- What collisions change. -/
def colliding : List ChangeKind := [.push, .harm, .hit, .credit, .explode]

/-- What the impact of a shot changes. -/
def striking : List ChangeKind := [.harm, .hit, .credit, .explode, .count]

/-- What changes in a fight besides the damage. -/
def calming : List ChangeKind := [.push, .explode, .shoot, .count]

/-- What collisions and shots change. -/
def fighting : List ChangeKind := [.push, .harm, .hit, .credit, .explode, .shoot, .count]

/-- What the end of a step changes. -/
def settling : List ChangeKind := [.fade, .shift, .state]

/-- What pilots and flight change. -/
def moving : List ChangeKind := piloting ++ flying

/-- What a step changes. -/
def all : List ChangeKind := .retire :: ruling ++ moving ++ fighting ++ settling

end ChangeKind

open ChangeKind

theorem setState_changes (world : World) (state : MissionState) :
    Changes [.state] world (world.setState state) := by
  unfold setState
  split
  · exact .refl world
  · exact (Change.state state).changes (by decide)

theorem setTarget_changes (world : World) (index : Nat) (target : Option Nat) :
    Changes [.aim, .sight] world (world.setTarget index target) := by
  unfold setTarget
  split
  · exact .refl world
  · rename_i craft found
    have aimed : Changes [.aim, .sight] world (world.setCraft index (craft.setTarget target).2) :=
      (Change.aim target found).changes (by decide)
    dsimp only
    split
    · exact .ite _ (aimed.trans ((Change.sight _ index).changes (by decide))) aimed
    · exact aimed

theorem dispatch_changes (world : World) (index : Nat) (command : Command) :
    Changes acting world (world.dispatch index command) := by
  unfold dispatch
  split
  · exact .refl world
  · rename_i craft found
    have obeyed : Changes acting world (world.setCraft index (craft.obey command).2) :=
      (Change.obey command found).changes (by decide)
    have told (world : World) : Changes acting world (world.observe (.command index command)) :=
      (Change.observe rfl).changes (by decide)
    dsimp only
    split
    · exact (obeyed.trans ((Change.sight _ index).changes (by decide))).trans (told _)
    · exact obeyed.trans (told _)

theorem steer_changes (world : World) (index : Nat) (intent : Intent) (dt : Scalar) :
    Changes [.steer] world (world.steer index intent dt) := by
  unfold steer
  split
  · exact .refl world
  · rename_i craft found
    exact (Change.steer intent dt found).changes (by decide)

theorem fireWeapon_changes (world : World) (index : Nat) :
    Changes [.fire] world (world.fireWeapon index) := by
  unfold fireWeapon
  split
  · exact .refl world
  · rename_i craft found
    split
    · exact .refl world
    · exact .ite _ (.refl world) ((Change.fire _ _ _ _ _ found).changes (by decide))

theorem launchMissile_changes (world : World) (index : Nat) :
    Changes [.launch] world (world.launchMissile index) := by
  unfold launchMissile
  split
  · exact .refl world
  · rename_i craft found
    split
    · split
      · exact .refl world
      · rename_i ready
        simp only [not_or] at ready
        exact (Change.launch _ _ _ _ _ found ready.2.1).changes (by decide)
    · exact .refl world

theorem carryOut_changes (world : World) (dt : Scalar) (index : Nat) (intent : Intent) :
    Changes piloting world (world.carryOut dt index intent) := by
  unfold carryOut
  have aimed : Changes piloting world
      (if intent.target.isSome then world.setTarget index intent.target else world) :=
    .ite _ ((setTarget_changes world index intent.target).mono (by decide)) (.refl world)
  have steered := aimed.trans ((steer_changes _ index intent dt).mono (by decide))
  have fired := Changes.ite (intent.fire = true)
    (steered.trans ((fireWeapon_changes _ index).mono (by decide))) steered
  exact .ite _ (fired.trans ((launchMissile_changes _ index).mono (by decide))) fired

theorem simulateCraft_changes (world : World) (dt : Scalar) (index : Nat) :
    Changes flying world (world.simulateCraft dt index).2 := by
  unfold simulateCraft
  split
  · exact .refl world
  · rename_i craft found
    exact (Change.fly dt found).changes (by decide)

theorem simulateEach_changes (dt : Scalar) (indices : List Nat) (world : World) :
    Changes flying world (simulateEach dt indices world).2 := by
  induction indices generalizing world with
  | nil => exact .refl world
  | cons index rest ih => exact (simulateCraft_changes world dt index).trans (ih _)

theorem simulateCrafts_changes (world : World) (dt : Scalar) :
    Changes flying world (world.simulateCrafts dt) := by
  have arrived (world : World) (index : Nat) : Changes flying world (world.addHitObject index) :=
    .ite _ (.refl world) ((Change.arrive index).changes (by decide))
  exact ((simulateEach_changes dt world.listed world).trans (foldl_changes arrived _ _)).trans
    (Change.prune.changes (by decide))

theorem creditDamage_changes (world : World) (attacker : Option Nat) (hostile : Bool)
    (outcome : DamageOutcome) :
    Changes [.credit] world (world.creditDamage attacker hostile outcome) := by
  rcases world.creditDamage_cases attacker hostile outcome with
    idle | ⟨index, pilot, _, _, _, found, credited⟩
  · rw [idle]
    exact .refl world
  · rw [credited]
    exact (Change.credit outcome found).changes (by decide)

theorem applyDamage_changes (world : World) (target : Nat) (amount : Scalar)
    (attacker : Option Nat) :
    Changes damaging world (world.applyDamage target amount attacker).2 := by
  rcases world.applyDamage_cases target amount attacker with
    idle | ⟨victim, scaled, found, _, done⟩
  · rw [idle]
    exact .refl world
  · have harmed : Changes damaging world (world.setCraft target (victim.damage scaled).2) :=
      (Change.harm scaled found).changes (by decide)
    have told := harmed.trans ((Change.hit target attacker).changes (by decide))
    have struck : Changes damaging world (world.struck target attacker (victim.damage scaled)) :=
      told.trans ((creditDamage_changes _ attacker _ _).mono (by decide))
    rw [done]
    exact .ite _ (struck.trans ((Change.explode _ _ _ _).changes (by decide))) struck

theorem push_both_changes {world : World} {first second : Nat} {one other : Spacecraft}
    (found : world.pair? first second = some (one, other)) (oneMotion otherMotion : Motion) :
    Changes [.push] world ((world.setCraft first
      { one with position := oneMotion.position, velocity := oneMotion.velocity }).setCraft
        second { other with
          position := otherMotion.position, velocity := otherMotion.velocity }) := by
  obtain ⟨apart, there, here⟩ := pair?_some found
  have still (fresh : Spacecraft) : (world.setCraft first fresh).craft? second = some other :=
    (world.craft?_setCraft_other apart fresh).trans here
  exact ((Change.push _ _ there).changes (by decide)).trans
    ((Change.push _ _ (still _)).changes (by decide))

theorem collide_changes (world : World) (first second : Nat) :
    Changes colliding world (world.collide first second) := by
  unfold collide
  split
  · exact .refl world
  · rename_i one other found
    have moved (oneMotion otherMotion : Motion) : Changes colliding world _ :=
      (push_both_changes found oneMotion otherMotion).mono (by decide)
    have hurt (world : World) (target : Nat) (amount : Scalar) (attacker : Option Nat) :
        Changes colliding world (world.applyDamage target amount attacker).2 :=
      (applyDamage_changes world target amount attacker).mono (by decide)
    exact .ite _ (.refl world)
      (.ite _ (((moved _ _).trans (hurt _ _ _ _)).trans (hurt _ _ _ _)) (moved _ _))

theorem resolveCollisions_changes (world : World) :
    Changes colliding world world.resolveCollisions :=
  foldl_changes (fun world (pair : Nat × Nat) => collide_changes world pair.1 pair.2) _ world

theorem countHit_changes (world : World) (impact : Impact) (hostile : Bool) :
    Changes [.count] world (world.countHit impact hostile) := by
  unfold countHit
  split
  · split
    · exact .refl world
    · rename_i found
      exact (Change.count found).changes (by decide)
  · exact .refl world

theorem strike_changes (world : World) (impact : Impact) :
    Changes striking world (world.strike impact) := by
  have damaged : Changes striking world _ :=
    (applyDamage_changes world impact.target impact.damage (some impact.origin)).mono (by decide)
  unfold strike
  dsimp only
  split
  · rename_i result
    rw [result] at damaged
    exact damaged
  · rename_i result
    rw [result] at damaged
    have counted := damaged.trans ((countHit_changes _ impact
      (world.isHostileAttack (some impact.origin) impact.target false)).mono (by decide))
    exact .ite _ counted (counted.trans ((Change.explode _ _ _ _).changes (by decide)))

theorem strikeAll_changes (impacts : Array Impact) (world : World) :
    Changes striking world (impacts.foldl strike world) := by
  rw [← Array.foldl_toList]
  exact foldl_changes strike_changes _ world

theorem simulateWeapons_changes (world : World) (dt : Scalar) :
    Changes (.shoot :: striking) world (world.simulateWeapons dt) :=
  ((Change.shoot dt).changes (by decide)).trans
    ((strikeAll_changes _ _).mono (by decide))

end World

open World (Changes Change)
open World.ChangeKind

namespace Action

/-- An action that neither wins nor loses acts on spacecraft and talks. -/
theorem execute_acts (action : Action) (world : World) (notWin : action.isWin = false)
    (notLose : action.isLose = false) : Changes acting world (action.execute world).2 := by
  have told (observation : Observation) (plain : observation.change? = none) :
      Changes acting world (world.observe observation) :=
    (Change.observe plain).changes (by decide)
  unfold execute
  split
  case h_1 kind => simp [isWin, kind] at notWin
  case h_2 kind => simp [isLose, kind] at notLose
  case h_3 => exact .ite _ (told _ rfl) (.refl world)
  case h_4 => exact told _ rfl
  case h_5 command _ =>
    exact World.foldl_changes (fun world craft => world.dispatch_changes craft command) _ world
  case h_6 => exact told _ rfl

theorem execute_of_isWin (action : Action) (world : World) (isWin : action.isWin = true) :
    (action.execute world).2 = world.win := by
  unfold execute
  cases kind : action.kind <;> simp [Action.isWin, kind] at isWin ⊢

theorem execute_of_isLose (action : Action) (world : World) (isLose : action.isLose = true) :
    (action.execute world).2 = world.lose := by
  unfold execute
  cases kind : action.kind <;> simp [Action.isLose, kind] at isLose ⊢

theorem execute_changes (action : Action) (world : World) :
    Changes executing world (action.execute world).2 := by
  have stated (state : MissionState) : Changes executing world (world.setState state) :=
    (world.setState_changes state).mono (by decide)
  cases won : action.isWin with
  | true =>
    rw [action.execute_of_isWin world won]
    exact .ite _ (stated _) (.refl world)
  | false =>
    cases lost : action.isLose with
    | true =>
      rw [action.execute_of_isLose world lost]
      exact .ite _ (.refl world) (.ite _ (stated _) (.refl world))
    | false => exact (action.execute_acts world won lost).mono (by decide)

end Action

namespace Event

theorem runActions_changes (place : ActionPlace) (actions : List Action) (world : World) :
    Changes deferring world (runActions place actions world).2 := by
  induction actions generalizing place world with
  | nil => exact .refl world
  | cons action rest ih =>
    have first : Changes deferring world
        (if action.isDelayed then (action, world.enqueue place action.delay)
          else action.execute world).2 := by
      split
      · exact (Change.await _).changes (by decide)
      · exact (action.execute_changes world).mono (by decide)
    exact first.trans (ih _ _)

theorem simulate_changes (event : Event) (index : Nat) (world : World) (dt : Scalar) :
    Changes firing world (event.simulate index world dt).2 := by
  unfold simulate
  dsimp only
  split
  · have recorded : Changes firing world (world.recordFire index) :=
      (Change.record index).changes (by decide)
    exact recorded.trans ((runActions_changes _ _ _).mono (by decide))
  · exact .refl world

theorem simulateAll_changes (dt : Scalar) (index : Nat) (events : List Event) (world : World) :
    Changes firing world (simulateAll dt index events world).2 := by
  induction events generalizing index world with
  | nil => exact .refl world
  | cons event rest ih => exact (event.simulate_changes index world dt).trans (ih _ _)

theorem executeAt_changes (events : List Event) (place : ActionPlace) (world : World) :
    Changes executing world (executeAt events place world).2 := by
  unfold executeAt
  split
  · exact .refl world
  · split
    · exact .refl world
    · rename_i action _
      exact action.execute_changes world

end Event

namespace Mission

theorem executeAll_changes (due : List ActionPlace) (events : List Event) (world : World) :
    Changes executing world (executeAll due events world).2 := by
  induction due generalizing events world with
  | nil => exact .refl world
  | cons place rest ih => exact (Event.executeAt_changes events place world).trans (ih _ _)

variable {π : Type} (mission : Mission π) (dt : Scalar)

theorem advanceTime_changes : Changes [.clock] mission.world (mission.advanceTime dt).world :=
  (Change.clock _ _).changes (by decide)

theorem runDueActions_changes :
    Changes deferring mission.world (mission.runDueActions dt).world := by
  unfold runDueActions
  split
  · have taken : Changes deferring mission.world (mission.world.takeDue dt).2 :=
      (Change.await _).changes (by decide)
    exact taken.trans ((executeAll_changes _ _ _).mono (by decide))
  · exact .refl _

/-- The world that the events of a step leave, before old notices are retired. -/
def ruled : World :=
  if mission.authority then (Event.simulateAll dt 0 mission.events mission.world).2
  else mission.world

theorem runEvents_world :
    (mission.runEvents dt).world =
      (mission.ruled dt).retireNotices mission.world.notices.finish := by
  unfold runEvents ruled
  cases authority : mission.authority with
  | true => simp only [↓reduceIte]
  | false => simp only [Bool.false_eq_true, ↓reduceIte]

theorem ruled_changes : Changes firing mission.world (mission.ruled dt) :=
  .ite _ (Event.simulateAll_changes dt 0 _ _) (.refl _)

theorem runEvents_changes :
    Changes (.retire :: ruling) mission.world (mission.runEvents dt).world := by
  rw [runEvents_world]
  exact ((mission.ruled_changes dt).mono (by decide)).trans ((Change.retire _).changes (by decide))

theorem simulateEffects_changes :
    Changes [.fade] mission.world (mission.simulateEffects dt).world :=
  (Change.fade dt).changes (by decide)

theorem recenterOrigin_changes : Changes [.shift] mission.world mission.recenterOrigin.world := by
  unfold recenterOrigin
  split
  · exact .refl _
  · split
    · exact .refl _
    · exact (Change.shift _).changes (by decide)

theorem updateState_changes : Changes [.state] mission.world mission.updateState.world :=
  World.setState_changes mission.world _

theorem fight_changes :
    Changes fighting mission.world (mission.resolveCollisions.simulateWeapons dt).world :=
  (mission.world.resolveCollisions_changes.mono (by decide)).trans
    ((World.simulateWeapons_changes _ dt).mono (by decide))

/-- What follows the fight in a step. -/
theorem settle_changes :
    Changes settling mission.world
      (mission.simulateEffects dt).recenterOrigin.updateState.world :=
  (((mission.simulateEffects_changes dt).mono (by decide)).trans
    ((recenterOrigin_changes _).mono (by decide))).trans ((updateState_changes _).mono (by decide))

theorem controlCrafts_changes [Pilot π] :
    Changes piloting mission.world (mission.controlCrafts dt).world :=
  World.foldl_changes (fun world (craft : Nat × Intent) =>
    world.carryOut_changes dt craft.1 craft.2) _ mission.world

end Mission

end Sortie
