import Sortie.World.Combat

set_option autoImplicit false

namespace Sortie

/-- The pilot's spacecraft with the credit for a blow. -/
def Spacecraft.credit (craft : Spacecraft) (outcome : DamageOutcome) : Spacecraft :=
  let stats := craft.stats
  { craft with
    stats :=
      { stats with
        damageDealt := stats.damageDealt + (outcome.shieldDamage + outcome.hullDamage)
        kills := if outcome.destroyed then stats.kills + 1 else stats.kills } }

namespace World

/-- Nobody is credited, or it is the pilot, who has attacked a hostile. -/
theorem creditDamage_cases (world : World) (attacker : Option Nat) (hostile : Bool)
    (outcome : DamageOutcome) :
    world.creditDamage attacker hostile outcome = world ∨
      ∃ index pilot, attacker = some index ∧ world.piloted = some index ∧ hostile = true ∧
        world.craft? index = some pilot ∧
        world.creditDamage attacker hostile outcome =
          world.setCraft index (pilot.credit outcome) := by
  by_cases due : attacker.isSome ∧ attacker = world.piloted ∧ hostile
  · obtain ⟨there, piloted, enemy⟩ := due
    obtain ⟨index, rfl⟩ := Option.isSome_iff_exists.mp there
    unfold creditDamage
    rw [if_pos ⟨there, piloted, enemy⟩]
    dsimp only
    cases found : world.craft? index with
    | none => exact .inl rfl
    | some pilot => exact .inr ⟨index, pilot, rfl, piloted.symm, enemy, found, rfl⟩
  · left
    unfold creditDamage
    rw [if_neg due]

theorem creditDamage_same (world : World) (attacker : Option Nat) (hostile : Bool)
    (outcome : DamageOutcome) :
    ∃ crafts, world.creditDamage attacker hostile outcome = { world with crafts } ∧
      crafts.size = world.crafts.size := by
  rcases world.creditDamage_cases attacker hostile outcome with
    idle | ⟨index, pilot, _, _, _, _, credited⟩
  · exact ⟨world.crafts, idle, rfl⟩
  · exact ⟨_, credited, Array.size_setIfInBounds⟩

/-- The world in which a victim is harmed, and that is told of and credited, before anything
explodes. -/
def struck (world : World) (target : Nat) (attacker : Option Nat)
    (harm : DamageOutcome × Spacecraft) : World :=
  ((world.setCraft target harm.2).notify (.hit target attacker)).creditDamage attacker
    (world.isHostileAttack attacker target true) harm.1

theorem struck_same (world : World) (target : Nat) (attacker : Option Nat)
    (harm : DamageOutcome × Spacecraft) :
    ∃ crafts, world.struck target attacker harm =
        { world with crafts, notices := world.notices.push (.hit target attacker) } ∧
      crafts.size = world.crafts.size := by
  obtain ⟨crafts, credited, size⟩ :=
    ((world.setCraft target harm.2).notify (.hit target attacker)).creditDamage_same attacker
      (world.isHostileAttack attacker target true) harm.1
  exact ⟨crafts, credited, size.trans Array.size_setIfInBounds⟩

/-- Damage does nothing, or it strikes a living victim, and lets it explode if that is destroyed. -/
theorem applyDamage_cases (world : World) (target : Nat) (amount : Scalar)
    (attacker : Option Nat) :
    world.applyDamage target amount attacker = (none, world) ∨
      ∃ victim scaled, world.craft? target = some victim ∧ victim.alive = true ∧
        let harm := victim.damage scaled
        let struck := world.struck target attacker harm
        world.applyDamage target amount attacker =
          (some harm.1,
            if harm.1.destroyed then
              { struck with
                pools := struck.pools.explode victim.position victim.velocity victim.radius
                  struck.settings.sparks }
            else struck) := by
  cases found : world.craft? target with
  | none =>
    left
    simp only [applyDamage, found]
  | some victim =>
    by_cases idle : ¬ victim.alive ∨ world.isSpared victim attacker
        (world.isHostileAttack attacker target true)
    · left
      simp only [applyDamage, found, if_pos idle]
    · right
      refine ⟨victim,
        if victim.piloted then amount * world.settings.difficulty.damageTaken else amount, rfl,
        Decidable.not_not.mp fun dead => idle (.inl dead), ?_⟩
      simp only [applyDamage, found, if_neg idle]
      rfl

end World

end Sortie
