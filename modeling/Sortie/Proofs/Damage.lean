import Sortie.Proofs.Destruction
import Sortie.Proofs.PoolOperations

set_option autoImplicit false

namespace Sortie

namespace Pool

variable {α : Type}

/-- A change of a pool that locks so many slots more, none of which was locked, and touches none
that was. -/
structure Gains (before after : Pool α) (count : Nat) : Prop where
  kind : after.kind = before.kind
  kept : ∀ index object, before.get? index = some object → after.get? index = some object
  locked : after.locked.length = before.locked.length + count
  counted : after.lockedCount = before.lockedCount + count

theorem Gains.refl (pool : Pool α) : pool.Gains pool 0 :=
  ⟨rfl, fun _ _ found => found, rfl, rfl⟩

theorem Gains.trans {first second third : Pool α} {early late : Nat}
    (one : first.Gains second early) (other : second.Gains third late) :
    first.Gains third (early + late) where
  kind := other.kind.trans one.kind
  kept index object found := other.kept index object (one.kept index object found)
  locked := by rw [other.locked, one.locked, Nat.add_assoc]
  counted := by rw [other.counted, one.counted, Nat.add_assoc]

theorem renew_kind (pool : Pool α) (fresh : α) (reset : α → α) :
    (pool.renew fresh reset).2.kind = pool.kind := by
  show (pool.acquire fresh).2.2.kind = pool.kind
  unfold acquire
  split
  · rfl
  · rfl

theorem renew_lockedCount (pool : Pool α) (fresh : α) (reset : α → α) :
    (pool.renew fresh reset).2.lockedCount = pool.lockedCount + 1 := by
  show (pool.acquire fresh).2.2.lockedCount = pool.lockedCount + 1
  unfold acquire
  split
  · rfl
  · rfl

theorem renew_gains (pool : Pool α) (fresh : α) (reset : α → α) :
    pool.Gains (pool.renew fresh reset).2 1 where
  kind := pool.renew_kind fresh reset
  kept index object found := by
    rw [get?_renew, if_neg]
    · exact found
    · intro same
      rw [same, pool.renew_free fresh reset] at found
      cases found
  locked := by
    have grown : (pool.renew fresh reset).2.tally (fun _ => true) =
        pool.tally (fun _ => true) + if True then 1 else 0 := pool.tally_renew fresh fun _ => rfl
    rw [if_pos trivial] at grown
    rw [length_locked, length_locked]
    exact grown
  counted := pool.renew_lockedCount fresh reset

end Pool

namespace Pools

/-- A change of the pools by one explosion that throws off sparks. -/
structure Exploded (before after : Pools) (sparks : Nat) : Prop where
  rest : after = { before with explosions := after.explosions, particles := after.particles }
  explosions : before.explosions.Gains after.explosions 1
  particles : before.particles.Gains after.particles sparks

theorem Exploded.spark {before after : Pools} {sparks : Nat}
    (exploded : before.Exploded after sparks) (reset : Particle → Particle) :
    before.Exploded (after.renewParticle reset).2 (sparks + 1) where
  rest := by
    conv_lhs => rw [exploded.rest]
    rfl
  explosions := exploded.explosions
  particles := exploded.particles.trans (after.particles.renew_gains {} reset)

theorem explode_exploded (pools : Pools) (position velocity : Vec) (radius : Scalar)
    (sparks : Nat) : pools.Exploded (pools.explode position velocity radius sparks) sparks := by
  let flash := (pools.renewExplosion
    (·.reset position velocity radius Explosion.fullDuration)).2
  have flashed : pools.Exploded flash 0 :=
    ⟨rfl,
      pools.explosions.renew_gains {} (·.reset position velocity radius Explosion.fullDuration),
      .refl pools.particles⟩
  have flung (reset : Nat → Particle → Particle) (indices : List Nat) (now : Pools) (flying : Nat)
      (exploded : pools.Exploded now flying) :
      pools.Exploded (indices.foldl (fun now index => (now.renewParticle (reset index)).2) now)
        (flying + indices.length) := by
    induction indices generalizing now flying with
    | nil => exact exploded
    | cons index rest ih =>
      have next := ih _ _ (exploded.spark (reset index))
      rw [List.length_cons, Nat.add_comm rest.length 1, ← Nat.add_assoc]
      exact next
  have thrown : pools.Exploded (pools.explode position velocity radius sparks)
      (0 + (List.range sparks).length) := flung _ (List.range sparks) flash 0 flashed
  rwa [List.length_range, Nat.zero_add] at thrown

theorem Exploded.changes {before after : Pools} {sparks : Nat}
    (exploded : before.Exploded after sparks) : after ≠ before := by
  intro same
  have more := exploded.explosions.counted
  rw [same] at more
  omega

end Pools

namespace Spacecraft

/-- A change by damage, which may destroy. -/
structure Harmed (before after : Spacecraft) (destroyed : Bool) : Prop where
  rest : after =
    { before with
      hull := after.hull
      shield := after.shield
      shieldWait := after.shieldWait
      alive := after.alive
      velocity := after.velocity }
  alive : after.alive = !destroyed
  velocity : destroyed = false → after.velocity = before.velocity

theorem damage_harmed {craft : Spacecraft} (alive : craft.alive = true) (amount : Scalar) :
    craft.Harmed (craft.damage amount).2 (craft.damage amount).1.destroyed := by
  unfold damage
  split
  · exact ⟨rfl, alive, fun _ => rfl⟩
  · refine ⟨rfl, rfl, fun intact => ?_⟩
    dsimp only at intact ⊢
    rw [intact]
    rfl

end Spacecraft

namespace World

/-- Whether damage to `target` is to the credit of a spacecraft: the pilot's, if it is the attacker
and hostile to the target. -/
def Credits (world : World) (target : Nat) (attacker : Option Nat) (index : Nat) : Prop :=
  attacker = some index ∧ world.piloted = some index ∧
    world.isHostileAttack attacker target true = true

/-- What damage leaves of a world if it does something, whatever explodes. -/
structure Damaged (before after : World) (target : Nat) (attacker : Option Nat)
    (destroyed : Bool) : Prop where
  rest : after =
    { before with
      crafts := after.crafts
      notices := before.notices.push (.hit target attacker)
      pools := after.pools }
  size : after.crafts.size = before.crafts.size
  victim : ∃ victim harmed stats, before.craft? target = some victim ∧ victim.alive = true ∧
    victim.Harmed harmed destroyed ∧ after.craft? target = some { harmed with stats } ∧
    (stats = victim.stats ∨ before.Credits target attacker target)
  others : ∀ index ≠ target, after.craft? index = before.craft? index ∨
    before.Credits target attacker index ∧ ∃ pilot stats, before.craft? index = some pilot ∧
      after.craft? index = some { pilot with stats }

/-- The credit for damage changes nothing but the statistics of the pilot's spacecraft. -/
theorem craft?_creditDamage_cases (world : World) (attacker : Option Nat) (hostile : Bool)
    (outcome : DamageOutcome) (index : Nat) :
    (world.creditDamage attacker hostile outcome).craft? index = world.craft? index ∨
      (attacker = some index ∧ world.piloted = some index ∧ hostile = true) ∧
        (world.creditDamage attacker hostile outcome).craft? index =
          (world.craft? index).map (·.credit outcome) := by
  rcases world.creditDamage_cases attacker hostile outcome with
    idle | ⟨origin, pilot, attacks, piloted, enemy, found, credited⟩
  · left
    rw [idle]
  · rw [credited, craft?_setCraft]
    split
    · rename_i same
      subst same
      rw [found]
      exact .inr ⟨⟨attacks, piloted, enemy⟩, rfl⟩
    · exact .inl rfl

/-- Who is struck is harmed, and who is credited has other statistics. -/
theorem struck_cases (world : World) (target : Nat) (attacker : Option Nat)
    (harm : DamageOutcome × Spacecraft) (index : Nat) :
    (world.struck target attacker harm).craft? index =
        (world.setCraft target harm.2).craft? index ∨
      world.Credits target attacker index ∧
        (world.struck target attacker harm).craft? index =
          ((world.setCraft target harm.2).craft? index).map (·.credit harm.1) :=
  craft?_creditDamage_cases ((world.setCraft target harm.2).notify (.hit target attacker)) attacker
    (world.isHostileAttack attacker target true) harm.1 index

theorem struck_damaged {world : World} {target : Nat} {victim : Spacecraft}
    (found : world.craft? target = some victim) (alive : victim.alive = true)
    (attacker : Option Nat) (amount : Scalar) (pools : Pools) :
    world.Damaged { world.struck target attacker (victim.damage amount) with pools } target attacker
      (victim.damage amount).1.destroyed := by
  let harm := victim.damage amount
  obtain ⟨crafts, same, size⟩ := world.struck_same target attacker harm
  have set (index : Nat) := world.craft?_setCraft target index harm.2
  refine ⟨?_, ?_, ?_, fun index other => ?_⟩
  · rw [same]
  · rw [same]
    exact size
  · have harmed := victim.damage_harmed alive amount
    have put : (world.setCraft target harm.2).craft? target = some harm.2 := by
      rw [set, if_pos rfl, found, Option.map_some]
    rcases world.struck_cases target attacker harm target with there | ⟨due, there⟩
    · rw [put] at there
      exact ⟨victim, harm.2, harm.2.stats, found, alive, harmed, there,
        .inl (victim.damage_stats amount)⟩
    · rw [put] at there
      exact ⟨victim, harm.2, (harm.2.credit harm.1).stats, found, alive, harmed, there, .inr due⟩
  · rcases world.struck_cases target attacker harm index with there | ⟨due, there⟩
    · rw [set, if_neg (Ne.symm other)] at there
      exact .inl there
    · rw [set, if_neg (Ne.symm other)] at there
      cases known : world.craft? index with
      | none =>
        rw [known] at there
        exact .inl there
      | some pilot =>
        rw [known] at there
        exact .inr ⟨due, pilot, (pilot.credit harm.1).stats, rfl, there⟩

/-- Damage is all or nothing. Without an outcome the world is as before. With one, a living victim
is harmed and one hit is told of; the statistics of the pilot's spacecraft change only if it is the
attacker and hostile to the victim; and the pools change exactly if the victim is destroyed, by one
explosion with its sparks. Nothing else changes. -/
theorem damage_all_or_nothing (world : World) (target : Nat) (amount : Scalar)
    (attacker : Option Nat) :
    let after := (world.applyDamage target amount attacker).2
    ((world.applyDamage target amount attacker).1 = none → after = world) ∧
      ∀ outcome, (world.applyDamage target amount attacker).1 = some outcome →
        world.Damaged after target attacker outcome.destroyed ∧
          (after.pools ≠ world.pools ↔ outcome.destroyed = true) ∧
          (outcome.destroyed = true →
            world.pools.Exploded after.pools world.settings.sparks) := by
  rcases world.applyDamage_cases target amount attacker with
    idle | ⟨victim, scaled, found, alive, done⟩
  · rw [idle]
    exact ⟨fun _ => rfl, nofun⟩
  · rw [done]
    refine ⟨nofun, fun outcome known => ?_⟩
    cases known
    let struck := world.struck target attacker (victim.damage scaled)
    obtain ⟨_, same, _⟩ := world.struck_same target attacker (victim.damage scaled)
    have kept : struck.pools = world.pools := by rw [show struck = _ from same]
    have settings : struck.settings = world.settings := by rw [show struck = _ from same]
    cases destroyed : (victim.damage scaled).1.destroyed with
    | false =>
      have damaged := struck_damaged found alive attacker scaled struck.pools
      rw [destroyed] at damaged
      exact ⟨damaged, ⟨fun other => absurd kept other, nofun⟩, nofun⟩
    | true =>
      let flung := struck.pools.explode victim.position victim.velocity victim.radius
        struck.settings.sparks
      have exploded : world.pools.Exploded flung world.settings.sparks := by
        rw [← kept, ← settings]
        exact struck.pools.explode_exploded _ _ _ _
      have damaged := struck_damaged found alive attacker scaled flung
      rw [destroyed] at damaged
      exact ⟨damaged, ⟨fun _ => rfl, fun _ => exploded.changes⟩, fun _ => exploded⟩

/-- A pilot without a team, and a raider. -/
def loner : MissionDescriptor where
  name := "loner"
  spacecrafts :=
    [.single { id := some "loner", craftClass := "interceptor", piloted := true },
      .single
        { id := some "raider", craftClass := "interceptor", team := some "b"
          position := some ⟨0, 0, -500⟩ }]

/-- The loner destroys the raider: a kill, an explosion and its four sparks. -/
theorem loner_destroys_raider :
    let world := (LoadedMission.ofDescriptor loner .standard
      { quality := .low, particles := true } {}).world
    let after := (world.applyDamage 1 1000 (some 0)).2
    ∃ outcome, (world.applyDamage 1 1000 (some 0)).1 = some outcome ∧ outcome.destroyed = true ∧
      world.Damaged after 1 (some 0) true ∧ world.pools.Exploded after.pools world.settings.sparks := by
  intro world after
  have destroyed : (world.applyDamage 1 1000 (some 0)).1.any DamageOutcome.destroyed = true := by
    decide +kernel
  obtain ⟨outcome, known, gone⟩ := (Option.any_eq_true ..).mp destroyed
  obtain ⟨_, something⟩ := damage_all_or_nothing world 1 1000 (some 0)
  obtain ⟨damaged, _, exploded⟩ := something outcome known
  rw [gone] at damaged
  exact ⟨outcome, known, gone, damaged, exploded gone⟩

/-- Without a team the pilot is hostile to itself: damage that it does to itself is to its credit,
so that not only the state of the target changes, but its statistics too. -/
theorem loner_credits_itself :
    let world := (LoadedMission.ofDescriptor loner .standard
      { quality := .low, particles := true } {}).world
    let after := (world.applyDamage 0 10 (some 0)).2
    (world.applyDamage 0 10 (some 0)).1.isSome = true ∧
      ¬ ∀ victim harmed, world.craft? 0 = some victim → after.craft? 0 = some harmed →
        harmed =
          { victim with
            hull := harmed.hull
            shield := harmed.shield
            shieldWait := harmed.shieldWait
            alive := harmed.alive
            velocity := harmed.velocity } := by
  intro world after
  refine ⟨by decide +kernel, fun only => ?_⟩
  have there : (world.craft? 0).isSome = true := by decide +kernel
  have later : (after.craft? 0).isSome = true := by decide +kernel
  obtain ⟨victim, found⟩ := Option.isSome_iff_exists.mp there
  obtain ⟨harmed, left⟩ := Option.isSome_iff_exists.mp later
  have same : harmed.stats = victim.stats := by rw [only victim harmed found left]
  have changed : (after.craft? 0).map (·.stats.damageDealt) ≠
      (world.craft? 0).map (·.stats.damageDealt) := by decide +kernel
  rw [found, left, Option.map_some, Option.map_some, same] at changed
  exact changed rfl

end World

end Sortie
