import Sortie.Proofs.PoolReuse

set_option autoImplicit false

namespace Sortie

/-- The settings with the least graphics. -/
def Settings.plain (settings : Settings) : Settings :=
  { settings with quality := .low, particles := false }

/-- Pools are alike to themselves. -/
theorem Pools.Tight.alike {pools : Pools} (tight : pools.Tight) : pools.Alike False pools where
  particles counted := counted.elim
  projectiles := ⟨tight.projectiles, tight.projectiles, fun _ => rfl⟩
  missiles := ⟨tight.missiles, tight.missiles, fun _ => rfl⟩
  explosions := ⟨tight.explosions, tight.explosions, fun _ => rfl⟩
  trails := ⟨tight.trails, tight.trails, fun _ => rfl⟩

namespace Mission

variable {π : Type} [Pilot π]

/-- Missions that are built with settings that differ in nothing but the graphics run in the same
way: at every moment they differ at most in these settings and in the pools, and there only in the
sparks and in free slots. -/
theorem graphics_leave_no_trace (descriptor : MissionDescriptor) (catalog : Catalog)
    (settings : Settings) (quality : Quality) (particles : Bool) {pools : Pools}
    (attained : pools.Attained) (inputs : List (Input π)) :
    let other := { settings with quality, particles }
    let first := (ofDescriptor descriptor catalog settings pools).play inputs
    let second := (ofDescriptor descriptor catalog other pools).play inputs
    second =
        { first with
          world :=
            { first.world with
              settings := second.world.settings
              pools := second.world.pools } } ∧
      second.world.settings.plain = first.world.settings.plain ∧
      second.score = first.score ∧
      second.world.pools.projectiles.locked = first.world.pools.projectiles.locked ∧
      second.world.pools.missiles.locked = first.world.pools.missiles.locked ∧
      second.world.pools.explosions.locked = first.world.pools.explosions.locked ∧
      second.world.pools.trails.locked = first.world.pools.trails.locked := by
  have twin : Twin False ((ofDescriptor descriptor catalog settings pools).play inputs)
      ((ofDescriptor descriptor catalog { settings with quality, particles } pools).play inputs) :=
    (ofDescriptor_twin descriptor catalog False.elim attained.tight.alike).play inputs
  dsimp only
  generalize (ofDescriptor descriptor catalog settings pools).play inputs = first at twin ⊢
  generalize (ofDescriptor descriptor catalog _ pools).play inputs = second at twin ⊢
  obtain ⟨⟨alike, _⟩⟩ := twin
  exact ⟨rfl, rfl, rfl, alike.projectiles.locked, alike.missiles.locked, alike.explosions.locked,
    alike.trails.locked⟩

/-- Two interceptors on a collision course. -/
def joust : MissionDescriptor where
  spacecrafts :=
    [.single { craftClass := "interceptor", velocity := ⟨0, 0, 100⟩, piloted := true },
      .single
        { craftClass := "interceptor"
          position := some ⟨0, 0, 5⟩
          velocity := ⟨0, 0, -100⟩ }]

/-- Whatever the graphics, the crash leaves two explosions in the first two slots. -/
theorem joust_explodes :
    let sober : Settings := { quality := .low, particles := false }
    let sparkling : Settings := { sober with quality := .high, particles := true }
    let first : Mission Pursuit := (ofDescriptor joust .standard sober {}).play [.tick 16]
    let second : Mission Pursuit := (ofDescriptor joust .standard sparkling {}).play [.tick 16]
    Pools.Attained {} ∧
      first.world.pools.explosions.locked.map Prod.fst = [0, 1] ∧
      second.world.pools.explosions.locked = first.world.pools.explosions.locked := by
  refine ⟨Pools.fresh_attained, by decide +kernel, ?_⟩
  exact (graphics_leave_no_trace joust .standard _ .high true Pools.fresh_attained
    [.tick 16]).2.2.2.2.2.1

end Mission

end Sortie
