import Sortie.Proofs.Hunting
import Sortie.Proofs.Roster
import Sortie.Proofs.StrictSlots

set_option autoImplicit false

namespace Sortie.Strict

/-- Steps that never fail are plain steps. -/
theorem foldlM_eq_foldl {α β : Type} {step : β → α → Option β} {plain : β → α → β}
    (safe : ∀ state x, step state x = some (plain state x)) (xs : List α) (state : β) :
    xs.foldlM step state = some (xs.foldl plain state) := by
  have same : step = fun state x => pure (plain state x) :=
    funext fun state => funext fun x => safe state x
  rw [same]
  exact List.foldlM_pure

/-- A spark of an explosion. -/
def fling (position velocity : Vec) (radius : Scalar) (index count : Nat) (stale : Particle) :
    Particle :=
  stale.reset position (velocity + Pools.sparkDirection index count * radius * (2 : Scalar))
    (radius * 0.1) (Explosion.fullDuration * 0.75)

def explode (pools : Pools) (position velocity : Vec) (radius : Scalar) (sparks : Nat) :
    Option Pools := do
  let (_, explosions) ← renew pools.explosions {}
    (·.reset position velocity radius Explosion.fullDuration)
  (List.range sparks).foldlM (fun (pools : Pools) index => do
    let (_, particles) ← renew pools.particles {} (fling position velocity radius index sparks)
    some { pools with particles }) { pools with explosions }

def simulateEffects (pools : Pools) (dt : Scalar) : Option Pools := do
  let explosions ← update pools.explosions (Explosion.simulate dt)
  let particles ← update pools.particles (Particle.simulate dt)
  let trails ← update pools.trails (Trail.simulate dt)
  some { pools with explosions, particles, trails }

def translatePools (pools : Pools) (offset : Vec) : Option Pools := do
  let particles ← mapLocked pools.particles fun p => { p with position := p.position + offset }
  let projectiles ← mapLocked pools.projectiles fun p =>
    { p with position := p.position + offset }
  let missiles ← mapLocked pools.missiles fun m => { m with position := m.position + offset }
  let explosions ← mapLocked pools.explosions fun e => { e with position := e.position + offset }
  let trails ← mapLocked pools.trails (·.translate offset)
  some { particles, projectiles, missiles, explosions, trails }

theorem explode_eq (pools : Pools) (position velocity : Vec) (radius : Scalar) (sparks : Nat) :
    explode pools position velocity radius sparks =
      some (pools.explode position velocity radius sparks) := by
  unfold explode
  rw [renew_eq]
  exact foldlM_eq_foldl (fun pools index => by rw [renew_eq]; rfl) _ _

theorem simulateEffects_eq (pools : Pools) (dt : Scalar) :
    simulateEffects pools dt = some (pools.simulateEffects dt) := by
  simp only [simulateEffects, update_eq, Option.bind_eq_bind, Option.bind_some,
    Pools.simulateEffects]

theorem translatePools_eq (pools : Pools) (offset : Vec) :
    translatePools pools offset = some (pools.translate offset) := by
  simp only [translatePools, mapLocked_eq, Option.bind_eq_bind, Option.bind_some, Pools.translate]

/-- What a pursuing pilot does. The target that it has picked is looked up in the arena. -/
def control (pursuit : Pursuit) (self : Nat) (crafts : Array Spacecraft) :
    Option (Intent × Pursuit) :=
  match crafts[self]?.filter Spacecraft.isPresent with
  | none => some ({}, pursuit)
  | some craft =>
    match Pursuit.anchor? crafts craft with
    | some (goal, anchor) =>
      some ({ thrust := Pursuit.keepDistance craft anchor goal }, pursuit)
    | none =>
      match Pursuit.pickTarget? crafts self craft with
      | none => some ({ thrust := -craft.velocity.unitOrZero }, pursuit)
      | some index => do
        let target ← crafts[index]?
        some (pursuit.chase craft target index)

def fireWeapon (world : World) (index : Nat) : Option World :=
  match world.craft? index with
  | none => some world
  | some craft =>
    match craft.craftClass.weapon with
    | none => some world
    | some weapon =>
      if ¬ craft.isPresent ∨ 0 < craft.weaponCooldown then some world
      else do
        let stats := { craft.stats with shotsFired := craft.stats.shotsFired + 1 }
        let world := world.setCraft index { craft with weaponCooldown := weapon.cooldown, stats }
        let position := craft.position + craft.forward * (craft.radius + 1)
        let velocity := craft.velocity + craft.forward * weapon.projectileSpeed
        let (_, projectiles) ← renew world.pools.projectiles {} fun stale =>
          stale.reset index position velocity weapon.damage weapon.projectileLifetime
        some { world with pools := { world.pools with projectiles } }

def launchMissile (world : World) (index : Nat) : Option World :=
  match world.craft? index with
  | none => some world
  | some craft =>
    match craft.craftClass.missile, craft.target with
    | some missileClass, some target =>
      if ¬ craft.isPresent ∨ craft.missiles = 0 ∨ 0 < craft.missileCooldown then some world
      else do
        let world := world.setCraft index
          { craft with
            missiles := craft.missiles - 1
            missileCooldown := missileClass.cooldown }
        let position := craft.position + craft.forward * (craft.radius + missileClass.radius + 1)
        let (_, missiles) ← renew world.pools.missiles {} fun stale =>
          stale.reset index (some target) position craft.forward missileClass
        some { world with pools := { world.pools with missiles } }
    | _, _ => some world

def carryOut (dt : Scalar) (world : World) (order : Nat × Intent) : Option World := do
  let (index, intent) := order
  let world := if intent.target.isSome then world.setTarget index intent.target else world
  let world := world.steer index intent dt
  let world ← if intent.fire then fireWeapon world index else some world
  if intent.launchMissile then launchMissile world index else some world

theorem control_eq (pursuit : Pursuit) (self : Nat) (crafts : Array Spacecraft) :
    control pursuit self crafts = some (pursuit.control self crafts) := by
  unfold control Pursuit.control
  cases crafts[self]?.filter Spacecraft.isPresent with
  | none => rfl
  | some craft =>
    dsimp only
    cases Pursuit.anchor? crafts craft with
    | some order => rfl
    | none =>
      dsimp only
      cases picked : Pursuit.pickTarget? crafts self craft with
      | none => rfl
      | some index =>
        have hunted := Pursuit.huntable_of_pickTarget? picked
        obtain ⟨target, found⟩ := Pursuit.exists_of_huntable hunted
        dsimp only
        rw [found]
        rfl

theorem fireWeapon_eq (world : World) (index : Nat) :
    fireWeapon world index = some (world.fireWeapon index) := by
  unfold fireWeapon World.fireWeapon
  cases world.craft? index with
  | none => rfl
  | some craft =>
    dsimp only
    cases craft.craftClass.weapon with
    | none => rfl
    | some weapon =>
      dsimp only
      rw [renew_eq]
      split
      · rfl
      · rfl

theorem launchMissile_eq (world : World) (index : Nat) :
    launchMissile world index = some (world.launchMissile index) := by
  unfold launchMissile World.launchMissile
  cases world.craft? index with
  | none => rfl
  | some craft =>
    dsimp only
    cases craft.craftClass.missile with
    | none => rfl
    | some missileClass =>
      cases craft.target with
      | none => rfl
      | some target =>
        dsimp only
        rw [renew_eq]
        split
        · rfl
        · rfl

theorem carryOut_eq (dt : Scalar) (world : World) (order : Nat × Intent) :
    carryOut dt world order = some (world.carryOut dt order.1 order.2) := by
  unfold carryOut World.carryOut
  simp only [fireWeapon_eq, launchMissile_eq]
  cases order.2.fire with
  | true => cases order.2.launchMissile <;> rfl
  | false => cases order.2.launchMissile <;> rfl

/-- One step of the listed spacecraft from a place in the list on. Gives those that jumped in. -/
def simulateFrom (dt : Scalar) (world : World) (place : Nat) : Nat → Option (List Nat × World)
  | 0 => some ([], world)
  | remaining + 1 => do
    let index ← world.listed[place]?
    let (completed, world) := world.simulateCraft dt index
    let (arrived, world) ← simulateFrom dt world (place + 1) remaining
    some (if completed == some .inward then index :: arrived else arrived, world)

/-- The indices that are kept, as each of them is looked up. -/
def retain (keeps : Nat → Option Bool) : List Nat → Option (List Nat)
  | [] => some []
  | index :: rest => do
    let kept ← keeps index
    let others ← retain keeps rest
    some (if kept then index :: others else others)

def prune (world : World) : Option World := do
  let hitObjects ← retain (fun index => world.crafts[index]?.map Spacecraft.isPresent)
    world.hitObjects
  let listed ← if world.settings.multiActor then some world.listed
    else retain (fun index => world.crafts[index]?.map Spacecraft.takesPart) world.listed
  some { world with hitObjects, listed }

def simulateCrafts (world : World) (dt : Scalar) : Option World := do
  let (arrived, world) ← simulateFrom dt world 0 world.listed.length
  prune (arrived.foldl World.addHitObject world)

/-- The list stays as it is while its spacecraft fly, so each place in it is there. -/
theorem simulateFrom_eq (dt : Scalar) {indices : List Nat} {world : World} {place : Nat}
    (ahead : world.listed.drop place = indices) :
    simulateFrom dt world place indices.length =
      let (completed, after) := World.simulateEach dt indices world
      some (((indices.zip completed).filter fun craft => craft.2 == some .inward).map Prod.fst,
        after) := by
  induction indices generalizing world place with
  | nil => rfl
  | cons index rest ih =>
    have here : world.listed[place]? = some index := by
      rw [← Nat.add_zero place, ← List.getElem?_drop, ahead]
      rfl
    obtain ⟨crafts, flown, _⟩ := world.simulateCraft_same dt index
    have later : (world.simulateCraft dt index).2.listed.drop (place + 1) = rest := by
      rw [flown, ← List.drop_drop, ahead]
      rfl
    rw [List.length_cons, simulateFrom, here, World.simulateEach]
    simp only [Option.bind_eq_bind, Option.bind_some, ih later, List.zip_cons_cons,
      List.filter_cons]
    split
    · rfl
    · rfl

theorem retain_eq {crafts : Array Spacecraft} (keeps : Spacecraft → Bool) {indices : List Nat}
    (inside : ∀ index ∈ indices, index < crafts.size) :
    retain (fun index => crafts[index]?.map keeps) indices =
      some (indices.filter fun index => crafts[index]?.any keeps) := by
  induction indices with
  | nil => rfl
  | cons index rest ih =>
    rw [retain, Array.getElem?_eq_getElem (inside index List.mem_cons_self),
      ih fun index member => inside index (List.mem_cons_of_mem _ member), List.filter_cons,
      Array.getElem?_eq_getElem (inside index List.mem_cons_self)]
    rfl

theorem prune_eq {world : World} (rostered : world.Rostered) : prune world = some world.prune := by
  unfold prune World.prune
  rw [retain_eq _ rostered.hittable, retain_eq _ fun index member =>
    List.mem_range.mp (rostered.listed.subset member)]
  cases world.settings.multiActor with
  | true => rfl
  | false => rfl

/-- An index that names no spacecraft is an error. -/
example (world : World) : prune { world with crafts := #[], hitObjects := [0] } = none := rfl

theorem simulateCrafts_eq {world : World} (rostered : world.Rostered) (dt : Scalar) :
    simulateCrafts world dt = some (world.simulateCrafts dt) := by
  unfold simulateCrafts
  have all : world.listed.drop 0 = world.listed := rfl
  rw [simulateFrom_eq dt all]
  exact prune_eq (World.flyAll_rostered rostered dt)

/-- What is destroyed is looked up once more, to tell of it. -/
def applyDamage (world : World) (target : Nat) (amount : Scalar) (attacker : Option Nat) :
    Option (Option DamageOutcome × World) :=
  match world.craft? target with
  | none => some (none, world)
  | some victim =>
    let hostile := world.isHostileAttack attacker target true
    if ¬ victim.alive ∨ world.isSpared victim attacker hostile then some (none, world)
    else
      let amount :=
        if victim.piloted then amount * world.settings.difficulty.damageTaken else amount
      let (outcome, harmed) := victim.damage amount
      let world := (world.setCraft target harmed).notify (.hit target attacker)
      let world := world.creditDamage attacker hostile outcome
      if outcome.destroyed then do
        let _ ← world.crafts[target]?
        let pools ← explode world.pools victim.position victim.velocity victim.radius
          world.settings.sparks
        some (some outcome, { world with pools })
      else some (some outcome, world)

/-- Two different spacecraft, each looked up in its part of the arena, which is cut before the later
one. -/
def pair? (world : World) (first second : Nat) : Option (Option (Spacecraft × Spacecraft)) :=
  let crafts := world.crafts
  if first = second ∨ crafts.size ≤ first ∨ crafts.size ≤ second then some none
  else if first < second then do
    let one ← (crafts.extract 0 second)[first]?
    let other ← (crafts.extract second crafts.size)[0]?
    some (some (one, other))
  else do
    let one ← (crafts.extract first crafts.size)[0]?
    let other ← (crafts.extract 0 first)[second]?
    some (some (one, other))

def collide (world : World) (first second : Nat) : Option World := do
  match ← pair? world first second with
  | none => some world
  | some (one, other) =>
    let contact := Contact.ofSpheres one.position one.radius other.position other.radius
    if ¬ one.isPresent ∨ ¬ other.isPresent ∨ ¬ contact.hit then some world
    else
      let (closing, oneMotion, otherMotion) :=
        contact.resolve ⟨one.position, one.velocity⟩ ⟨other.position, other.velocity⟩ World.bounce
      let moved (craft : Spacecraft) (motion : Motion) : Spacecraft :=
        { craft with position := motion.position, velocity := motion.velocity }
      let world := (world.setCraft first (moved one oneMotion)).setCraft second
        (moved other otherMotion)
      if 0 < closing then
        let damage := closing * World.crashDamage
        let (_, world) ← applyDamage world first damage (some second)
        let (_, world) ← applyDamage world second damage (some first)
        some world
      else some world

def resolveCollisions (world : World) : Option World :=
  (World.pairs world.hitObjects).foldlM (fun world (first, second) => collide world first second)
    world

theorem applyDamage_eq (world : World) (target : Nat) (amount : Scalar) (attacker : Option Nat) :
    applyDamage world target amount attacker =
      some (world.applyDamage target amount attacker) := by
  unfold applyDamage World.applyDamage
  cases found : world.craft? target with
  | none => rfl
  | some victim =>
    -- Neither the damage nor the credit for it changes how many spacecraft there are.
    have there (harmed : Spacecraft) (hostile : Bool) (outcome : DamageOutcome) :
        ∃ craft, (((world.setCraft target harmed).notify (.hit target attacker)).creditDamage
          attacker hostile outcome).crafts[target]? = some craft := by
      obtain ⟨crafts, credited, size⟩ := ((world.setCraft target harmed).notify
        (.hit target attacker)).creditDamage_same attacker hostile outcome
      have inside : target < crafts.size := by
        rw [size]
        exact lt_of_lt_of_eq (Array.getElem?_eq_some_iff.mp found).1
          Array.size_setIfInBounds.symm
      rw [credited]
      exact ⟨_, Array.getElem?_eq_getElem inside⟩
    dsimp only
    split
    · rfl
    · generalize victim.damage _ = damaged
      obtain ⟨outcome, harmed⟩ := damaged
      dsimp only
      cases outcome.destroyed with
      | false => rfl
      | true =>
        obtain ⟨craft, found⟩ := there harmed (world.isHostileAttack attacker target true) outcome
        simp only [if_true, found, explode_eq, Option.bind_eq_bind, Option.bind_some]

theorem pair?_eq (world : World) (first second : Nat) :
    pair? world first second = some (world.pair? first second) := by
  unfold pair? World.pair? World.craft?
  dsimp only
  by_cases same : first = second
  · rw [if_pos (.inl same), if_pos same]
  rw [if_neg same]
  by_cases inside : first < world.crafts.size ∧ second < world.crafts.size
  · obtain ⟨one, other⟩ := inside
    rw [if_neg (by omega), Array.getElem?_eq_getElem one, Array.getElem?_eq_getElem other]
    by_cases order : first < second
    · rw [if_pos order]
      have left : (world.crafts.extract 0 second)[first]? = world.crafts[first]? := by grind
      have right : (world.crafts.extract second world.crafts.size)[0]? = world.crafts[second]? := by
        grind
      rw [left, right, Array.getElem?_eq_getElem one, Array.getElem?_eq_getElem other]
      rfl
    · rw [if_neg order]
      have left : (world.crafts.extract first world.crafts.size)[0]? = world.crafts[first]? := by
        grind
      have right : (world.crafts.extract 0 first)[second]? = world.crafts[second]? := by grind
      rw [left, right, Array.getElem?_eq_getElem one, Array.getElem?_eq_getElem other]
      rfl
  · rw [if_pos (by omega)]
    by_cases one : first < world.crafts.size
    · rw [Array.getElem?_eq_none (by omega : world.crafts.size ≤ second)]
      cases world.crafts[first]? <;> rfl
    · rw [Array.getElem?_eq_none (Nat.le_of_not_lt one)]

theorem collide_eq (world : World) (first second : Nat) :
    collide world first second = some (world.collide first second) := by
  unfold collide World.collide
  rw [pair?_eq]
  simp only [applyDamage_eq]
  cases world.pair? first second with
  | none => rfl
  | some pair =>
    obtain ⟨one, other⟩ := pair
    simp only [Option.bind_eq_bind, Option.bind_some]
    split
    · rfl
    · split
      · rfl
      · rfl

theorem resolveCollisions_eq (world : World) :
    resolveCollisions world = some world.resolveCollisions :=
  foldlM_eq_foldl (fun (world : World) (pair : Nat × Nat) => collide_eq world pair.1 pair.2) _ _

/-- The nearer of what was hit so far and an indexed spacecraft. The first of equals counts. -/
def nearer (segment : Segment) (reach : Scalar) (shooter : Nat) (nearest : Option (Nat × Scalar))
    (entry : Nat × Ball) : Option (Nat × Scalar) :=
  if entry.1 = shooter then nearest
  else
    match segment.impact? entry.2.position (entry.2.radius + reach) with
    | none => nearest
    | some part =>
      match nearest with
      | none => some (entry.1, part)
      | some (_, best) => if part < best then some (entry.1, part) else nearest

/-- The spacecraft in space with their spheres, as they are indexed. -/
def entries (world : World) : List (Nat × Ball) :=
  world.hitObjects.filterMap fun index =>
    ((world.craft? index).filter Spacecraft.isPresent).map fun craft =>
      (index, ⟨craft.position, craft.radius⟩)

section

variable (objects : Array (Nat × Ball)) (targets : Targets)

def firstHit? (segment : Segment) (reach : Scalar) (shooter : Nat) :
    Option (Option (Nat × Scalar)) := do
  let visited ← visit objects
    (fun nearest _ entry => .next (nearer segment reach shooter nearest entry)) targets.tree
    (Targets.sweptBox segment reach) none
  some visited.state

def flyProjectile (dt : Scalar) (impacts : Array Impact) (_slot : Nat) (projectile : Projectile) :
    Option (Array Impact × Projectile × SlotFate) := do
  let (segment, projectile) := projectile.advance dt
  match ← firstHit? objects targets segment 0 projectile.origin with
  | some (target, part) =>
    let point := segment.start.mix segment.finish part
    some (impacts.push ⟨target, projectile.origin, projectile.damage, point, true⟩, projectile,
      .release)
  | none => some (impacts, projectile, if projectile.expired then .release else .keep)

def layTrail (missile : Missile) (trails : Pool Trail) (dt : Scalar) :
    Option (Missile × Pool Trail) :=
  let missile := { missile with trailTimer := missile.trailTimer - dt }
  if 0 < missile.trailTimer then some (missile, trails)
  else
    let missile := { missile with trailTimer := Trail.pointInterval }
    let start (trails : Pool Trail) : Option (Missile × Pool Trail) := do
      let (slot, trails) ← renew trails {} (·.reset missile.position)
      some ({ missile with trail := some slot }, trails)
    match missile.trail with
    | none => start trails
    | some slot =>
      match trails.get? slot with
      | none => start trails
      | some trail =>
        if trail.isFull then start (trails.set slot trail.stop)
        else some (missile, trails.set slot (trail.extend missile.position))

def flyMissile (dt : Scalar) (gathered : Array Impact × Pool Trail) (_slot : Nat)
    (missile : Missile) : Option ((Array Impact × Pool Trail) × Missile × SlotFate) := do
  let (impacts, trails) := gathered
  let (segment, missile) := missile.advance (missile.target.bind targets.position?) dt
  let (missile, trails) ← layTrail missile trails dt
  match ← firstHit? objects targets segment missile.radius missile.origin with
  | some (target, part) =>
    let point := segment.start.mix segment.finish part
    let (missile, trails) := missile.dropTrail trails
    some ((impacts.push ⟨target, missile.origin, missile.damage, point, false⟩, trails), missile,
      .release)
  | none =>
    if missile.expired then
      let (missile, trails) := missile.dropTrail trails
      some ((impacts, trails), missile, .release)
    else some ((impacts, trails), missile, .keep)

end

def flyShots (world : World) (dt : Scalar) : Option (Array Impact × World) := do
  let objects := (entries world).toArray
  let tree ← octree ((entries world).map Prod.snd).toArray world.settings.octreeMaxDepth
    world.settings.octreeMaxObjects
  let targets : Targets := ⟨((entries world).map Prod.fst).toArray, tree⟩
  let pools := world.pools
  let (impacts, projectiles) ← sweep pools.projectiles (flyProjectile objects targets dt) #[]
  let ((impacts, trails), missiles) ←
    sweep pools.missiles (flyMissile objects targets dt) (impacts, pools.trails)
  some (impacts, { world with pools := { pools with projectiles, missiles, trails } })

def strike (world : World) (impact : Impact) : Option World := do
  let hostile := world.isHostileAttack (some impact.origin) impact.target false
  match ← applyDamage world impact.target impact.damage (some impact.origin) with
  | (none, world) => some world
  | (some outcome, world) =>
    let world := world.countHit impact hostile
    if outcome.destroyed then some world
    else
      let pools ← explode world.pools impact.point .zero World.flashRadius 0
      some { world with pools }

def simulateWeapons (world : World) (dt : Scalar) : Option World := do
  let (impacts, world) ← flyShots world dt
  impacts.toList.foldlM strike world

/-- What the index holds under a number is the spacecraft with this number and its sphere. -/
theorem nearer_follows (entries : List (Nat × Ball)) (depth capacity : Nat) (segment : Segment)
    (reach : Scalar) (shooter : Nat) :
    Follows entries.toArray
      (fun nearest _ entry => .next (nearer segment reach shooter nearest entry))
      (fun nearest slot => .next
        ((Targets.ofBalls entries depth capacity).nearer segment reach shooter nearest slot)) := by
  intro nearest slot entry found
  rw [List.getElem?_toArray] at found
  have owner : (Targets.ofBalls entries depth capacity).owners[slot]? = some entry.1 := by
    rw [Targets.ofBalls, List.getElem?_toArray, List.getElem?_map, found, Option.map_some]
  have ball : (Targets.ofBalls entries depth capacity).tree.balls[slot]? = some entry.2 := by
    rw [Targets.ofBalls, Octree.build, List.getElem?_toArray, List.getElem?_map, found,
      Option.map_some]
  have impact : (Targets.ofBalls entries depth capacity).impact? segment reach slot =
      segment.impact? entry.2.position (entry.2.radius + reach) := by
    simp only [Targets.impact?, ball]
  refine congrArg Visit.next (Eq.symm ?_)
  unfold Targets.nearer
  simp only [owner, impact]
  rfl

theorem firstHit?_eq (entries : List (Nat × Ball)) (depth capacity : Nat) (segment : Segment)
    (reach : Scalar) (shooter : Nat) :
    firstHit? entries.toArray (.ofBalls entries depth capacity) segment reach shooter =
      some ((Targets.ofBalls entries depth capacity).firstHit? segment reach shooter) := by
  unfold firstHit?
  rw [Targets.ofBalls, visit_eq (nearer_follows entries depth capacity segment reach shooter)
    (by simp)]
  rfl

theorem layTrail_eq (missile : Missile) (trails : Pool Trail) (dt : Scalar) :
    layTrail missile trails dt = some (missile.layTrail trails dt) := by
  unfold layTrail Missile.layTrail
  simp only [renew_eq, Option.bind_eq_bind, Option.bind_some]
  split
  · rfl
  · cases missile.trail with
    | none => rfl
    | some slot =>
      dsimp only
      cases trails.get? slot with
      | none => rfl
      | some trail =>
        dsimp only
        split
        · rfl
        · rfl

section

variable (entries : List (Nat × Ball)) (depth capacity : Nat) (dt : Scalar)

theorem flyProjectile_eq (impacts : Array Impact) (slot : Nat) (projectile : Projectile) :
    flyProjectile entries.toArray (.ofBalls entries depth capacity) dt impacts slot projectile =
      some (World.flyProjectile (.ofBalls entries depth capacity) dt impacts slot projectile) := by
  unfold flyProjectile World.flyProjectile
  simp only [firstHit?_eq, Option.bind_eq_bind, Option.bind_some]
  generalize Targets.firstHit? _ _ _ _ = hit
  cases hit with
  | none => rfl
  | some hit => rfl

theorem flyMissile_eq (gathered : Array Impact × Pool Trail) (slot : Nat) (missile : Missile) :
    flyMissile entries.toArray (.ofBalls entries depth capacity) dt gathered slot missile =
      some (World.flyMissile (.ofBalls entries depth capacity) dt gathered slot missile) := by
  unfold flyMissile World.flyMissile
  simp only [layTrail_eq, firstHit?_eq, Option.bind_eq_bind, Option.bind_some]
  generalize Targets.firstHit? _ _ _ _ = hit
  cases hit with
  | some hit => rfl
  | none =>
    dsimp only
    split
    · rfl
    · rfl

end

theorem flyShots_eq (world : World) (dt : Scalar) :
    flyShots world dt = some (world.flyShots dt) := by
  unfold flyShots
  rw [octree_eq]
  simp only [Option.bind_eq_bind, Option.bind_some]
  have projectiles := sweep_eq (flyProjectile_eq (entries world) world.settings.octreeMaxDepth
    world.settings.octreeMaxObjects dt) world.pools.projectiles #[]
  have missiles (impacts : Array Impact) := sweep_eq (flyMissile_eq (entries world)
    world.settings.octreeMaxDepth world.settings.octreeMaxObjects dt) world.pools.missiles
    (impacts, world.pools.trails)
  rw [Targets.ofBalls] at projectiles missiles
  rw [projectiles]
  simp only [Option.bind_some, missiles]
  rfl

theorem strike_eq (world : World) (impact : Impact) :
    strike world impact = some (world.strike impact) := by
  unfold strike World.strike
  simp only [applyDamage_eq, explode_eq, Option.bind_eq_bind, Option.bind_some]
  generalize world.applyDamage _ _ _ = struck
  obtain ⟨outcome, after⟩ := struck
  cases outcome with
  | none => rfl
  | some outcome =>
    dsimp only
    split
    · rfl
    · rfl

theorem simulateWeapons_eq (world : World) (dt : Scalar) :
    simulateWeapons world dt = some (world.simulateWeapons dt) := by
  unfold simulateWeapons World.simulateWeapons
  rw [flyShots_eq]
  simp only [Option.bind_eq_bind, Option.bind_some]
  rw [foldlM_eq_foldl strike_eq, ← Array.foldl_toList]

section

variable {π : Type}

/-- The origin, moved with all that is live. -/
def recenterOrigin (mission : Mission π) : Option (Mission π) :=
  match mission.viewpoint? with
  | none => some mission
  | some viewpoint =>
    if viewpoint.length ≤ mission.world.settings.originRecenterDistance then some mission
    else do
      let offset := -viewpoint
      let pools ← translatePools mission.world.pools offset
      some
        { mission with
          world := { mission.world.translate offset with pools }
          camera := mission.camera.map (· + offset) }

theorem recenterOrigin_eq (mission : Mission π) :
    recenterOrigin mission = some mission.recenterOrigin := by
  unfold recenterOrigin Mission.recenterOrigin
  simp only [translatePools_eq, Option.bind_eq_bind, Option.bind_some]
  cases mission.viewpoint? with
  | none => rfl
  | some viewpoint =>
    dsimp only
    split
    · rfl
    · rfl

variable [Pilot π]

def controlCrafts (mission : Mission π) (dt : Scalar) : Option (Mission π) := do
  let (intents, pilot) := mission.intents dt mission.pilot mission.world.listed
  let world ← intents.foldlM (carryOut dt) mission.world
  some { mission with pilot, world }

/-- One step. Time, rules and the mission's state check every index that they look up. -/
def tick (mission : Mission π) (dt : Scalar) : Option (Mission π) :=
  if Mission.accepts dt then do
    let mission ← controlCrafts (mission.runRules dt) dt
    let world ← simulateCrafts mission.world dt
    let world ← resolveCollisions world
    let world ← simulateWeapons world dt
    let pools ← simulateEffects world.pools dt
    let mission ← recenterOrigin { mission with world := { world with pools } }
    some mission.updateState
  else some mission

def take (mission : Mission π) : Mission.Input π → Option (Mission π)
  | .tick dt => tick mission dt
  | input => some (mission.take input)

def play (mission : Mission π) (inputs : List (Mission.Input π)) : Option (Mission π) :=
  inputs.foldlM take mission

theorem controlCrafts_eq (mission : Mission π) (dt : Scalar) :
    controlCrafts mission dt = some (mission.controlCrafts dt) := by
  unfold controlCrafts
  dsimp only
  rw [foldlM_eq_foldl (carryOut_eq dt)]
  rfl

theorem tick_eq {mission : Mission π} (rostered : mission.world.Rostered) (dt : Scalar) :
    tick mission dt = some (mission.tick dt) := by
  cases accepted : Mission.accepts dt with
  | false =>
    rw [mission.tick_of_not_accepts dt accepted, tick, accepted]
    rfl
  | true =>
    have steered : ((mission.runRules dt).controlCrafts dt).world.Rostered :=
      (mission.runRules_rostered dt rostered).proceeds
        ((Mission.controlCrafts_changes _ dt).proceeds Spacecraft.fares_bears.toSpans (by decide))
    unfold tick
    rw [if_pos accepted, mission.tick_of_accepts dt accepted, controlCrafts_eq]
    simp only [Option.bind_eq_bind, Option.bind_some, simulateCrafts_eq steered,
      resolveCollisions_eq, simulateWeapons_eq, simulateEffects_eq, recenterOrigin_eq]
    rfl

theorem take_eq {mission : Mission π} (rostered : mission.world.Rostered)
    (input : Mission.Input π) : take mission input = some (mission.take input) := by
  cases input with
  | tick dt => exact tick_eq rostered dt
  | _ => rfl

theorem play_eq {mission : Mission π} (rostered : mission.world.Rostered)
    (inputs : List (Mission.Input π)) : play mission inputs = some (mission.play inputs) := by
  induction inputs generalizing mission with
  | nil => rfl
  | cons input rest ih =>
    rw [play, List.foldlM_cons, take_eq rostered]
    exact ih (mission.take_rostered input rostered)

end

/-- No look-up of any run of any mission is out of range, whatever the pilots aim at: with all
indices looked up as they are, the run comes to the same end. Nor is one out of range when a
pursuing pilot is asked, about any spacecraft of any arena. -/
theorem no_index_out_of_range {π : Type} [Pilot π] (descriptor : MissionDescriptor)
    (catalog : Catalog) (settings : Settings) (pools : Pools)
    (inputs : List (Mission.Input π)) :
    play (Mission.ofDescriptor descriptor catalog settings pools) inputs =
        some ((Mission.ofDescriptor descriptor catalog settings pools).play inputs) ∧
      ∀ (pursuit : Pursuit) (self : Nat) (crafts : Array Spacecraft),
        control pursuit self crafts = some (pursuit.control self crafts) :=
  ⟨play_eq (Mission.ofDescriptor_rostered descriptor catalog settings pools) inputs, control_eq⟩

end Sortie.Strict
