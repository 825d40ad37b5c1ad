import Sortie.Proofs.PoolSlots
import Sortie.Proofs.Run

set_option autoImplicit false

namespace Sortie

theorem Particle.reset_overwrites (position velocity : Vec) (size duration : Scalar) :
    Pool.Overwrites fun stale : Particle => stale.reset position velocity size duration :=
  fun _ _ => rfl

theorem Projectile.reset_overwrites (origin : Nat) (position velocity : Vec)
    (damage lifetime : Scalar) :
    Pool.Overwrites fun stale : Projectile =>
      stale.reset origin position velocity damage lifetime :=
  fun _ _ => rfl

theorem Missile.reset_overwrites (origin : Nat) (target : Option Nat) (position direction : Vec)
    (missileClass : MissileClass) :
    Pool.Overwrites fun stale : Missile =>
      stale.reset origin target position direction missileClass :=
  fun _ _ => rfl

theorem Explosion.reset_overwrites (position velocity : Vec) (radius duration : Scalar) :
    Pool.Overwrites fun stale : Explosion => stale.reset position velocity radius duration :=
  fun _ _ => rfl

theorem Trail.reset_overwrites (position : Vec) :
    Pool.Overwrites fun stale : Trail => stale.reset position :=
  fun _ _ => rfl

namespace Pools

/-- To what does not see particles, an explosion is its flash. -/
theorem explode_hides {β : Type} (seen : Pools → β)
    (hidden : ∀ pools particles, seen { pools with particles } = seen pools) (pools : Pools)
    (position velocity : Vec) (radius : Scalar) (sparks : Nat) :
    seen (pools.explode position velocity radius sparks) =
      seen (pools.renewExplosion
        (·.reset position velocity radius Explosion.fullDuration)).2 := by
  have flung (reset : Nat → Particle → Particle) (indices : List Nat) (pools : Pools) :
      seen (indices.foldl (fun pools index => (pools.renewParticle (reset index)).2) pools) =
        seen pools := by
    induction indices generalizing pools with
    | nil => rfl
    | cons index rest ih => exact (ih _).trans (hidden pools _)
  exact flung _ (List.range sparks) _

theorem explode_projectiles (pools : Pools) (position velocity : Vec) (radius : Scalar)
    (sparks : Nat) :
    (pools.explode position velocity radius sparks).projectiles = pools.projectiles :=
  pools.explode_hides Pools.projectiles (fun _ _ => rfl) position velocity radius sparks

theorem explode_missiles (pools : Pools) (position velocity : Vec) (radius : Scalar)
    (sparks : Nat) : (pools.explode position velocity radius sparks).missiles = pools.missiles :=
  pools.explode_hides Pools.missiles (fun _ _ => rfl) position velocity radius sparks

/-- The same objects in the same locked slots of every kind. Of sparks that is asked only if they
count. -/
structure Alike (sparkling : Prop) (one other : Pools) : Prop where
  particles : sparkling → one.particles.Alike other.particles
  projectiles : one.projectiles.Alike other.projectiles
  missiles : one.missiles.Alike other.missiles
  explosions : one.explosions.Alike other.explosions
  trails : one.trails.Alike other.trails

section

variable {sparkling : Prop} {one other : Pools} (alike : one.Alike sparkling other)

include alike

theorem Alike.prefill (sizes sizesOther : PoolSizes) :
    (one.prefill sizes).Alike sparkling (other.prefill sizesOther) where
  particles counted := (alike.particles counted).prefill _ _ _
  projectiles := alike.projectiles.prefill _ _ _
  missiles := alike.missiles.prefill _ _ _
  explosions := alike.explosions.prefill _ _ _
  trails := alike.trails.prefill _ _ _

theorem Alike.translate (offset : Vec) :
    (one.translate offset).Alike sparkling (other.translate offset) := by
  refine ⟨fun counted => ?_, ?_, ?_, ?_, ?_⟩
  · exact (alike.particles counted).mapLocked fun p => { p with position := p.position + offset }
  · exact alike.projectiles.mapLocked fun p => { p with position := p.position + offset }
  · exact alike.missiles.mapLocked fun m => { m with position := m.position + offset }
  · exact alike.explosions.mapLocked fun e => { e with position := e.position + offset }
  · exact alike.trails.mapLocked (·.translate offset)

theorem Alike.simulateEffects (dt : Scalar) :
    (one.simulateEffects dt).Alike sparkling (other.simulateEffects dt) :=
  { alike with
    explosions := alike.explosions.update _
    particles := fun counted => (alike.particles counted).update _
    trails := alike.trails.update _ }

theorem Alike.renewProjectile {reset : Projectile → Projectile}
    (overwrites : Pool.Overwrites reset) :
    (one.renewProjectile reset).2.Alike sparkling (other.renewProjectile reset).2 :=
  { alike with projectiles := (alike.projectiles.renew {} overwrites).2 }

theorem Alike.renewMissile {reset : Missile → Missile}
    (overwrites : Pool.Overwrites reset) :
    (one.renewMissile reset).2.Alike sparkling (other.renewMissile reset).2 :=
  { alike with missiles := (alike.missiles.renew {} overwrites).2 }

/-- The flash and every spark of an explosion overwrite what was left in their slots. How many
sparks fly matters only where they count. -/
theorem Alike.explode (position velocity : Vec) (radius : Scalar) {sparks sparksOther : Nat}
    (same : sparkling → sparksOther = sparks) :
    (one.explode position velocity radius sparks).Alike sparkling
      (other.explode position velocity radius sparksOther) where
  particles counted := by
    have flung (indices : List Nat) (reset : Nat → Particle → Particle)
        (overwrites : ∀ index, Pool.Overwrites (reset index)) (one other : Pools)
        (alike : one.particles.Alike other.particles) :
        (indices.foldl (fun pools index => (pools.renewParticle (reset index)).2)
          one).particles.Alike
            (indices.foldl (fun pools index => (pools.renewParticle (reset index)).2)
              other).particles := by
      induction indices generalizing one other with
      | nil => exact alike
      | cons index rest ih => exact ih _ _ (alike.renew {} (overwrites index)).2
    rw [same counted]
    exact flung _ _ (fun _ => Particle.reset_overwrites _ _ _ _) _ _ (alike.particles counted)
  projectiles := by
    rw [explode_projectiles, explode_projectiles]
    exact alike.projectiles
  missiles := by
    rw [explode_missiles, explode_missiles]
    exact alike.missiles
  explosions := by
    rw [explode_hides Pools.explosions fun _ _ => rfl,
      explode_hides Pools.explosions fun _ _ => rfl]
    exact (alike.explosions.renew {} (Explosion.reset_overwrites _ _ _ _)).2
  trails := by
    rw [explode_hides Pools.trails fun _ _ => rfl, explode_hides Pools.trails fun _ _ => rfl]
    exact alike.trails

end

end Pools

namespace Missile

section

variable {one other : Pool Trail} (alike : one.Alike other) (missile : Missile)

include alike

theorem layTrail_alike (dt : Scalar) :
    (missile.layTrail other dt).1 = (missile.layTrail one dt).1 ∧
      (missile.layTrail one dt).2.Alike (missile.layTrail other dt).2 := by
  have started (one other : Pool Trail) (alike : one.Alike other) (position : Vec) :=
    alike.renew {} (Trail.reset_overwrites position)
  unfold layTrail
  dsimp only
  split
  · exact ⟨rfl, alike⟩
  · cases missile.trail with
    | none =>
      obtain ⟨slot, laid⟩ := started one other alike missile.position
      exact ⟨by rw [slot], laid⟩
    | some slot =>
      dsimp only
      rw [alike.same]
      cases one.get? slot with
      | none =>
        obtain ⟨slot, laid⟩ := started one other alike missile.position
        exact ⟨by rw [slot], laid⟩
      | some trail =>
        dsimp only
        split
        · obtain ⟨slot, laid⟩ := started _ _ (alike.set slot trail.stop) missile.position
          exact ⟨by rw [slot], laid⟩
        · exact ⟨rfl, alike.set slot _⟩

theorem dropTrail_alike :
    (missile.dropTrail other).1 = (missile.dropTrail one).1 ∧
      (missile.dropTrail one).2.Alike (missile.dropTrail other).2 := by
  unfold dropTrail
  cases missile.trail with
  | none => exact ⟨rfl, alike⟩
  | some slot => exact ⟨rfl, alike.modify slot _⟩

end

end Missile

namespace World

/-- The same impacts so far, and alike trails. -/
structure Harvest (one other : Array Impact × Pool Trail) : Prop where
  impacts : other.1 = one.1
  trails : one.2.Alike other.2

/-- A missile flies the same way over alike trails. -/
theorem flyMissile_agrees (targets : Targets) (dt : Scalar) (one other : Array Impact × Pool Trail)
    (slot : Nat) (missile : Missile) (same : Harvest one other) :
    Harvest (flyMissile targets dt one slot missile).1
        (flyMissile targets dt other slot missile).1 ∧
      (flyMissile targets dt other slot missile).2 =
        (flyMissile targets dt one slot missile).2 := by
  obtain ⟨impacts, trails⟩ := one
  obtain ⟨impactsOther, trailsOther⟩ := other
  obtain ⟨⟨⟩, alike⟩ := same
  unfold flyMissile
  generalize missile.advance (missile.target.bind targets.position?) dt = advanced
  obtain ⟨segment, missile⟩ := advanced
  obtain ⟨laid, alike⟩ := missile.layTrail_alike alike dt
  dsimp only at alike laid ⊢
  rw [laid]
  generalize (missile.layTrail trails dt).1 = missile
  obtain ⟨dropped, faded⟩ := missile.dropTrail_alike alike
  cases targets.firstHit? segment missile.radius missile.origin with
  | some hit =>
    dsimp only
    rw [dropped]
    exact ⟨⟨rfl, faded⟩, rfl⟩
  | none =>
    dsimp only
    split
    · exact ⟨⟨rfl, faded⟩, dropped ▸ rfl⟩
    · exact ⟨⟨rfl, alike⟩, rfl⟩

/-- Two worlds that differ at most in their pools, which are alike, and in the graphics, unless the
sparks count. -/
inductive Twin (sparkling : Prop) (world : World) : World → Prop where
  | mk {pools : Pools} {quality : Quality} {particles : Bool}
      (alike : world.pools.Alike sparkling pools)
      (drawn : sparkling →
        quality = world.settings.quality ∧ particles = world.settings.particles) :
      Twin sparkling world
        { world with pools, settings := { world.settings with quality, particles } }

/-- The same answer and twin worlds. -/
structure Agree {α : Type} (sparkling : Prop) (one other : α × World) : Prop where
  answer : other.1 = one.1
  worlds : one.2.Twin sparkling other.2

variable {sparkling : Prop}

theorem Twin.ite {one other third fourth : World} (condition : Prop) [Decidable condition]
    (yes : one.Twin sparkling other) (no : third.Twin sparkling fourth) :
    (if condition then one else third).Twin sparkling (if condition then other else fourth) := by
  split
  · exact yes
  · exact no

theorem Agree.ite {α : Type} {one other third fourth : α × World} (condition : Prop)
    [Decidable condition] (yes : Agree sparkling one other) (no : Agree sparkling third fourth) :
    Agree sparkling (if condition then one else third) (if condition then other else fourth) := by
  split
  · exact yes
  · exact no

theorem Twin.foldl {α : Type} {step : World → α → World}
    (steps : ∀ (world other : World) (item : α), world.Twin sparkling other →
      (step world item).Twin sparkling (step other item)) (items : List α) {world other : World}
    (twin : world.Twin sparkling other) :
    (items.foldl step world).Twin sparkling (items.foldl step other) := by
  induction items generalizing world other with
  | nil => exact twin
  | cons item rest ih => exact ih (steps world other item twin)

section

variable {world other : World} (twin : world.Twin sparkling other)

include twin

theorem Twin.craft? (index : Nat) : other.craft? index = world.craft? index := by
  cases twin
  rfl

theorem Twin.crafts : other.crafts = world.crafts := by
  cases twin
  rfl

theorem Twin.listed : other.listed = world.listed := by
  cases twin
  rfl

theorem Twin.hitObjects : other.hitObjects = world.hitObjects := by
  cases twin
  rfl

theorem Twin.piloted : other.piloted = world.piloted := by
  cases twin
  rfl

theorem Twin.difficulty : other.settings.difficulty = world.settings.difficulty := by
  cases twin
  rfl

theorem Twin.sparks (counted : sparkling) : other.settings.sparks = world.settings.sparks := by
  obtain ⟨alike, drawn⟩ := twin
  obtain ⟨rfl, rfl⟩ := drawn counted
  rfl

theorem Twin.isHostileAttack (attacker : Option Nat) (victim : Nat) (unknown : Bool) :
    other.isHostileAttack attacker victim unknown =
      world.isHostileAttack attacker victim unknown := by
  cases twin
  rfl

theorem Twin.setCraft (index : Nat) (craft : Spacecraft) :
    (world.setCraft index craft).Twin sparkling (other.setCraft index craft) := by
  obtain ⟨alike, drawn⟩ := twin
  exact .mk alike drawn

theorem Twin.notify (notice : Notice) :
    (world.notify notice).Twin sparkling (other.notify notice) := by
  obtain ⟨alike, drawn⟩ := twin
  exact .mk alike drawn

theorem Twin.observe (observation : Observation) :
    (world.observe observation).Twin sparkling (other.observe observation) := by
  obtain ⟨alike, drawn⟩ := twin
  exact .mk alike drawn

theorem Twin.setState (state : MissionState) :
    (world.setState state).Twin sparkling (other.setState state) := by
  obtain ⟨alike, drawn⟩ := twin
  exact .ite _ (.mk alike drawn) (.mk alike drawn)

theorem Twin.setTarget (index : Nat) (target : Option Nat) :
    (world.setTarget index target).Twin sparkling (other.setTarget index target) := by
  unfold World.setTarget
  rw [twin.craft?]
  cases world.craft? index with
  | none => exact twin
  | some craft =>
    cases target with
    | none => exact twin.setCraft _ _
    | some target => exact .ite _ ((twin.setCraft _ _).notify _) (twin.setCraft _ _)

theorem Twin.dispatch (index : Nat) (command : Command) :
    (world.dispatch index command).Twin sparkling (other.dispatch index command) := by
  unfold World.dispatch
  rw [twin.craft?]
  cases world.craft? index with
  | none => exact twin
  | some craft =>
    dsimp only
    split
    · exact ((twin.setCraft _ _).notify _).observe _
    · exact (twin.setCraft _ _).observe _

theorem Twin.steer (index : Nat) (intent : Intent) (dt : Scalar) :
    (world.steer index intent dt).Twin sparkling (other.steer index intent dt) := by
  unfold World.steer
  rw [twin.craft?]
  cases world.craft? index with
  | none => exact twin
  | some craft => exact twin.setCraft _ _

theorem Twin.fireWeapon (index : Nat) :
    (world.fireWeapon index).Twin sparkling (other.fireWeapon index) := by
  unfold World.fireWeapon
  rw [twin.craft?]
  cases world.craft? index with
  | none => exact twin
  | some craft =>
    dsimp only
    cases craft.craftClass.weapon with
    | none => exact twin
    | some weapon =>
      obtain ⟨alike, drawn⟩ := twin
      exact .ite _ (.mk alike drawn)
        (.mk (alike.renewProjectile (Projectile.reset_overwrites _ _ _ _ _)) drawn)

theorem Twin.launchMissile (index : Nat) :
    (world.launchMissile index).Twin sparkling (other.launchMissile index) := by
  unfold World.launchMissile
  rw [twin.craft?]
  cases world.craft? index with
  | none => exact twin
  | some craft =>
    dsimp only
    cases craft.craftClass.missile with
    | none => exact twin
    | some missileClass =>
      cases craft.target with
      | none => exact twin
      | some target =>
        obtain ⟨alike, drawn⟩ := twin
        exact .ite _ (.mk alike drawn)
          (.mk (alike.renewMissile (Missile.reset_overwrites _ _ _ _ _)) drawn)

theorem Twin.carryOut (dt : Scalar) (index : Nat) (intent : Intent) :
    (world.carryOut dt index intent).Twin sparkling (other.carryOut dt index intent) := by
  unfold World.carryOut
  have aimed := Twin.ite (intent.target.isSome = true) (twin.setTarget index intent.target) twin
  have steered := aimed.steer index intent dt
  have fired := Twin.ite (intent.fire = true) (steered.fireWeapon index) steered
  exact .ite (intent.launchMissile = true) (fired.launchMissile index) fired

theorem Twin.simulateCraft (dt : Scalar) (index : Nat) :
    Agree sparkling (world.simulateCraft dt index) (other.simulateCraft dt index) := by
  unfold World.simulateCraft
  rw [twin.craft?]
  cases world.craft? index with
  | none => exact ⟨rfl, twin⟩
  | some craft => exact ⟨rfl, twin.setCraft _ _⟩

omit twin in
theorem Twin.simulateEach (dt : Scalar) (indices : List Nat) {world other : World}
    (twin : world.Twin sparkling other) :
    Agree sparkling (World.simulateEach dt indices world)
        (World.simulateEach dt indices other) := by
  induction indices generalizing world other with
  | nil => exact ⟨rfl, twin⟩
  | cons index rest ih =>
    have first := twin.simulateCraft dt index
    have later := ih first.worlds
    refine ⟨?_, later.worlds⟩
    simp only [World.simulateEach, first.answer, later.answer]

theorem Twin.addHitObject (index : Nat) :
    (world.addHitObject index).Twin sparkling (other.addHitObject index) := by
  obtain ⟨alike, drawn⟩ := twin
  exact .ite _ (.mk alike drawn) (.mk alike drawn)

theorem Twin.prune : world.prune.Twin sparkling other.prune := by
  obtain ⟨alike, drawn⟩ := twin
  exact .mk alike drawn

theorem Twin.simulateCrafts (dt : Scalar) :
    (world.simulateCrafts dt).Twin sparkling (other.simulateCrafts dt) := by
  have flown := twin.simulateEach dt world.listed
  unfold World.simulateCrafts
  dsimp only
  rw [twin.listed, flown.answer]
  exact (Twin.foldl (fun _ _ index twin => twin.addHitObject index) _ flown.worlds).prune

theorem Twin.creditDamage (attacker : Option Nat) (hostile : Bool) (outcome : DamageOutcome) :
    (world.creditDamage attacker hostile outcome).Twin sparkling
      (other.creditDamage attacker hostile outcome) := by
  unfold World.creditDamage
  rw [twin.piloted]
  refine .ite _ ?_ twin
  cases attacker with
  | none => exact twin
  | some index =>
    dsimp only
    rw [twin.craft?]
    cases world.craft? index with
    | none => exact twin
    | some pilot => exact twin.setCraft _ _

theorem Twin.explode (position velocity : Vec) (radius : Scalar) {sparks sparksOther : Nat}
    (same : sparkling → sparksOther = sparks) :
    Twin sparkling { world with pools := world.pools.explode position velocity radius sparks }
      { other with pools := other.pools.explode position velocity radius sparksOther } := by
  obtain ⟨alike, drawn⟩ := twin
  exact .mk (alike.explode position velocity radius same) drawn

theorem Twin.applyDamage (target : Nat) (amount : Scalar) (attacker : Option Nat) :
    Agree sparkling (world.applyDamage target amount attacker)
      (other.applyDamage target amount attacker) := by
  unfold World.applyDamage
  rw [twin.craft?]
  cases world.craft? target with
  | none => exact ⟨rfl, twin⟩
  | some victim =>
    simp only [isSpared, twin.difficulty, twin.isHostileAttack]
    refine .ite _ ⟨rfl, twin⟩ ⟨rfl, ?_⟩
    have credited := ((twin.setCraft target (victim.damage
      (if victim.piloted then amount * world.settings.difficulty.damageTaken else amount)).2).notify
        (.hit target attacker)).creditDamage attacker
        (world.isHostileAttack attacker target true) (victim.damage
      (if victim.piloted then amount * world.settings.difficulty.damageTaken else amount)).1
    exact .ite _ (credited.explode _ _ _ credited.sparks) credited

theorem Twin.translate (offset : Vec) :
    (world.translate offset).Twin sparkling (other.translate offset) := by
  obtain ⟨alike, drawn⟩ := twin
  exact .mk (alike.translate offset) drawn

theorem Twin.collide (first second : Nat) :
    (world.collide first second).Twin sparkling (other.collide first second) := by
  have pair : other.pair? first second = world.pair? first second := by
    cases twin
    rfl
  unfold World.collide
  rw [pair]
  cases world.pair? first second with
  | none => exact twin
  | some both =>
    refine .ite _ twin ?_
    have parted (one other : Spacecraft) := (twin.setCraft first one).setCraft second other
    exact .ite _ (((parted _ _).applyDamage _ _ _).worlds.applyDamage _ _ _).worlds (parted _ _)

theorem Twin.resolveCollisions :
    world.resolveCollisions.Twin sparkling other.resolveCollisions := by
  unfold World.resolveCollisions
  rw [twin.hitObjects]
  exact .foldl (fun _ _ pair twin => twin.collide pair.1 pair.2) _ twin

theorem Twin.flyShots (dt : Scalar) : Agree sparkling (world.flyShots dt) (other.flyShots dt) := by
  obtain @⟨pools, _, _, alike, drawn⟩ := twin
  let shots (pools : Pools) := pools.projectiles.sweep (flyProjectile world.targets dt) #[]
  obtain ⟨impacts, projectiles⟩ : (shots pools).1 = (shots world.pools).1 ∧
      (shots world.pools).2.Alike (shots pools).2 := alike.projectiles.sweep_same _ _
  have start :
      Harvest ((shots world.pools).1, world.pools.trails) ((shots pools).1, pools.trails) :=
    ⟨impacts, alike.trails⟩
  obtain ⟨⟨sameImpacts, trails⟩, missiles⟩ :=
    alike.missiles.sweep (flyMissile_agrees world.targets dt) start
  exact ⟨sameImpacts, .mk { alike with projectiles, missiles, trails } drawn⟩

theorem Twin.countHit (impact : Impact) (hostile : Bool) :
    (world.countHit impact hostile).Twin sparkling (other.countHit impact hostile) := by
  unfold World.countHit
  rw [twin.piloted, twin.craft?]
  refine .ite _ ?_ twin
  cases world.craft? impact.origin with
  | none => exact twin
  | some pilot => exact twin.setCraft _ _

theorem Twin.strike (impact : Impact) :
    (world.strike impact).Twin sparkling (other.strike impact) := by
  obtain ⟨answer, worlds⟩ := twin.applyDamage impact.target impact.damage (some impact.origin)
  unfold World.strike
  dsimp only
  rw [twin.isHostileAttack]
  generalize world.applyDamage impact.target impact.damage (some impact.origin) = result
    at answer worlds ⊢
  generalize other.applyDamage impact.target impact.damage (some impact.origin) = resultOther
    at answer worlds ⊢
  obtain ⟨outcome, struck⟩ := result
  obtain ⟨outcomeOther, struckOther⟩ := resultOther
  cases answer
  cases outcome with
  | none => exact worlds
  | some outcome =>
    have counted := worlds.countHit impact
      (world.isHostileAttack (some impact.origin) impact.target false)
    exact .ite _ counted (counted.explode _ _ _ fun _ => rfl)

theorem Twin.simulateWeapons (dt : Scalar) :
    (world.simulateWeapons dt).Twin sparkling (other.simulateWeapons dt) := by
  obtain ⟨impacts, flown⟩ := twin.flyShots dt
  unfold World.simulateWeapons
  dsimp only
  rw [impacts, ← Array.foldl_toList, ← Array.foldl_toList]
  exact .foldl (fun _ _ impact twin => twin.strike impact) _ flown

end

end World

end Sortie
