import Sortie.Mission.Tick
import Sortie.Pilot.Pursuit
import Sortie.Proofs.OctreeReach

set_option autoImplicit false

namespace Sortie

theorem Vec.add_neg_self {v : Vec} (finite : v.Finite) : v + -v = .zero := by
  show (⟨v.x + -v.x, v.y + -v.y, v.z + -v.z⟩ : Vec) = _
  rw [Scalar.add_neg_self finite.x, Scalar.add_neg_self finite.y, Scalar.add_neg_self finite.z]
  rfl

theorem Vec.length_zero : Vec.zero.length = 0 := by rfl

/-- A change of the objects in the locked slots of a pool, and of nothing else. -/
structure Pool.Maps {α : Type} (change : α → α) (before after : Pool α) : Prop where
  kind : after.kind = before.kind
  lockedCount : after.lockedCount = before.lockedCount
  firstFree : after.firstFree = before.firstFree
  size : after.slots.size = before.slots.size
  free : ∀ (index : Nat) (slot : Slot α), before.slots[index]? = some slot → slot.locked = false →
    after.slots[index]? = some slot
  locked : ∀ (index : Nat) (slot : Slot α), before.slots[index]? = some slot → slot.locked = true →
    after.slots[index]? = some ⟨change slot.object, true⟩

theorem Pool.mapLocked_maps {α : Type} (pool : Pool α) (change : α → α) :
    pool.Maps change (pool.mapLocked change) where
  kind := rfl
  lockedCount := rfl
  firstFree := rfl
  size := Array.size_map
  free index slot found free := by
    simp only [mapLocked, Array.getElem?_map, found, Option.map_some, free, Bool.false_eq_true,
      ↓reduceIte]
  locked index slot found locked := by
    simp only [mapLocked, Array.getElem?_map, found, Option.map_some, locked, ↓reduceIte]

namespace Mission

variable {π : Type}

/-- A shift of all that has a place in the scene by one offset, and of nothing else. -/
structure Shifted (offset : Vec) (before after : Mission π) : Prop where
  rest : after =
    { before with
      world :=
        { before.world with
          crafts := after.world.crafts
          pools := after.world.pools
          environment :=
            { before.world.environment with bodies := after.world.environment.bodies } }
      camera := after.camera }
  crafts : after.world.crafts =
    before.world.crafts.map fun craft => { craft with position := craft.position + offset }
  projectiles : before.world.pools.projectiles.Maps
    (fun projectile => { projectile with position := projectile.position + offset })
    after.world.pools.projectiles
  missiles : before.world.pools.missiles.Maps
    (fun missile => { missile with position := missile.position + offset })
    after.world.pools.missiles
  explosions : before.world.pools.explosions.Maps
    (fun explosion => { explosion with position := explosion.position + offset })
    after.world.pools.explosions
  particles : before.world.pools.particles.Maps
    (fun particle => { particle with position := particle.position + offset })
    after.world.pools.particles
  trails : before.world.pools.trails.Maps
    (fun trail => { trail with points := trail.points.map (· + offset) }) after.world.pools.trails
  bodies : after.world.environment.bodies =
    before.world.environment.bodies.map fun body =>
      if body.cameraRelative then body else { body with position := body.position + offset }
  camera : after.camera = before.camera.map (· + offset)

/-- The mission with its scene shifted. -/
def shift (mission : Mission π) (offset : Vec) : Mission π :=
  { mission with
    world := mission.world.translate offset
    camera := mission.camera.map (· + offset) }

theorem shift_shifted (mission : Mission π) (offset : Vec) :
    mission.Shifted offset (mission.shift offset) where
  rest := rfl
  crafts := rfl
  projectiles := Pool.mapLocked_maps _ _
  missiles := Pool.mapLocked_maps _ _
  explosions := Pool.mapLocked_maps _ _
  particles := Pool.mapLocked_maps _ _
  trails := Pool.mapLocked_maps _ _
  bodies := rfl
  camera := rfl

/-- The point that should stay near the origin: the camera, or without one the piloted spacecraft
while it is present. -/
def Views (mission : Mission π) (viewpoint : Vec) : Prop :=
  mission.camera = some viewpoint ∨
    mission.camera = none ∧ ∃ pilot, mission.world.pilotedCraft? = some pilot ∧
      pilot.isPresent = true ∧ pilot.position = viewpoint

theorem viewpoint?_eq_some_iff {mission : Mission π} {viewpoint : Vec} :
    mission.viewpoint? = some viewpoint ↔ mission.Views viewpoint := by
  unfold viewpoint? Views
  cases mission.camera with
  | some camera => simp
  | none =>
    simp only [Option.none_or, Option.map_eq_some_iff, Option.filter_eq_some_iff, reduceCtorEq,
      false_or, true_and, and_assoc]

theorem viewpoint?_shift (mission : Mission π) (offset : Vec) :
    (mission.shift offset).viewpoint? = mission.viewpoint?.map (· + offset) := by
  have piloted : (mission.world.translate offset).pilotedCraft? =
      mission.world.pilotedCraft?.map (·.translate offset) := by
    simp only [World.pilotedCraft?, World.translate, Option.map_bind]
    refine congrArg mission.world.piloted.bind (funext fun index => ?_)
    exact Array.getElem?_map
  show (mission.camera.map _).or ((((mission.world.translate offset).pilotedCraft?).filter _).map _) = _
  unfold viewpoint?
  rw [piloted]
  cases mission.camera with
  | some camera => rfl
  | none =>
    cases mission.world.pilotedCraft? with
    | none => rfl
    | some pilot =>
      have present : (pilot.translate offset).isPresent = pilot.isPresent := rfl
      simp only [Option.map_some, Option.map_none, Option.none_or, Option.filter_some, present]
      split
      · rfl
      · rfl

theorem recenterOrigin_of_near {mission : Mission π} {viewpoint : Vec}
    (views : mission.viewpoint? = some viewpoint)
    (near : viewpoint.length ≤ mission.world.settings.originRecenterDistance) :
    mission.recenterOrigin = mission := by
  simp only [recenterOrigin, views, near, ↓reduceIte]

/-- The origin is moved only from too far away, and then to the viewpoint. -/
theorem recenterOrigin_cases (mission : Mission π) :
    mission.recenterOrigin = mission ∨
      ∃ viewpoint, mission.viewpoint? = some viewpoint ∧
        mission.recenterOrigin = mission.shift (-viewpoint) := by
  unfold recenterOrigin
  split
  · exact .inl rfl
  · rename_i viewpoint views
    split
    · exact .inl rfl
    · exact .inr ⟨viewpoint, views, rfl⟩

/-- Moving the origin changes nothing, or shifts the whole scene by the opposite of the viewpoint
and changes nothing else. If the viewpoint is finite and no negative distance is asked for, moving
it a second time changes nothing. -/
theorem recentering_shifts_all (mission : Mission π) :
    (mission.recenterOrigin = mission ∨
        ∃ viewpoint, mission.Views viewpoint ∧
          mission.Shifted (-viewpoint) mission.recenterOrigin) ∧
      ∀ viewpoint, mission.Views viewpoint → viewpoint.Finite →
        0 ≤ mission.world.settings.originRecenterDistance →
          mission.recenterOrigin.recenterOrigin = mission.recenterOrigin := by
  refine ⟨?_, fun viewpoint views finite far => ?_⟩
  · rcases mission.recenterOrigin_cases with same | ⟨viewpoint, views, shifted⟩
    · exact .inl same
    · right
      rw [shifted]
      exact ⟨viewpoint, viewpoint?_eq_some_iff.mp views, mission.shift_shifted _⟩
  · rcases mission.recenterOrigin_cases with same | ⟨other, there, shifted⟩
    · rw [same, same]
    · rw [viewpoint?_eq_some_iff.mpr views] at there
      cases there
      have centered : (mission.shift (-viewpoint)).viewpoint? = some .zero := by
        rw [viewpoint?_shift, viewpoint?_eq_some_iff.mpr views, Option.map_some,
          Vec.add_neg_self finite]
      rw [shifted]
      refine recenterOrigin_of_near centered ?_
      rw [Vec.length_zero]
      exact far

/-- A scout at the origin. -/
def outpost : MissionDescriptor where
  name := "outpost"
  spacecrafts := [.single { id := some "scout", craftClass := "interceptor", piloted := true }]

/-- A camera that is far away is moved to the origin, and the scout away from it; the second time
nothing moves. -/
theorem far_camera_recenters_once :
    let loaded : Mission Pursuit :=
      ofDescriptor outpost .standard { quality := .low, particles := false } {}
    let mission := { loaded with camera := some ⟨6000, 0, 0⟩ }
    mission.Views ⟨6000, 0, 0⟩ ∧ (⟨6000, 0, 0⟩ : Vec).Finite ∧
      0 ≤ mission.world.settings.originRecenterDistance ∧
      (mission.recenterOrigin.world.craft? 0).map (·.position.x) = some (-6000) ∧
      mission.recenterOrigin.recenterOrigin = mission.recenterOrigin := by
  intro loaded mission
  have views : mission.Views ⟨6000, 0, 0⟩ := .inl rfl
  have finite : (⟨6000, 0, 0⟩ : Vec).Finite := by decide +kernel
  have far : 0 ≤ mission.world.settings.originRecenterDistance := by decide +kernel
  exact ⟨views, finite, far, by decide +kernel,
    (recentering_shifts_all mission).2 _ views finite far⟩

end Mission

end Sortie
