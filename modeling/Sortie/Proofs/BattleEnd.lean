import Sortie.Proofs.Decline
import Sortie.Proofs.Deeds

set_option autoImplicit false

namespace Sortie

namespace World

/-- Another spacecraft of the arena is present and hostile to one. -/
def Challenged (world : World) (index : Nat) : Prop :=
  ∃ craft other rival, world.craft? index = some craft ∧ other ≠ index ∧
    world.craft? other = some rival ∧ rival.isPresent = true ∧ rival.isHostileTo craft = true

/-- Two spacecraft of the arena are present and hostile to each other. -/
def Divided (world : World) : Prop :=
  ∃ index other craft rival, index ≠ other ∧
    world.craft? index = some craft ∧ craft.isPresent = true ∧
    world.craft? other = some rival ∧ rival.isPresent = true ∧ craft.isHostileTo rival = true

variable {world : World}

/-- The list of those that are present leaves nobody out. -/
theorem mem_present (rostered : world.Rostered) (sheltered : world.Sheltered) {index : Nat}
    {craft : Spacecraft} :
    (index, craft) ∈ world.present ↔
      world.craft? index = some craft ∧ craft.isPresent = true := by
  simp only [present, List.mem_filterMap, Option.map_eq_some_iff, Option.filter_eq_some_iff,
    Prod.mk.injEq]
  constructor
  · rintro ⟨_, _, _, ⟨found, here⟩, rfl, rfl⟩
    exact ⟨found, here⟩
  · rintro ⟨found, here⟩
    have stays := (sheltered index craft found).not_departed (.inl here)
    have alive := (Bool.and_eq_true_iff.mp here).1
    have fights : craft.takesPart = true := by
      rw [Spacecraft.takesPart, alive, stays]
      rfl
    exact ⟨index, rostered.fighting index craft found fights, craft, ⟨found, here⟩, rfl, rfl⟩

theorem hostileCount_eq_zero (rostered : world.Rostered) (sheltered : world.Sheltered)
    {index : Nat} {craft : Spacecraft} (found : world.craft? index = some craft) :
    world.hostileCount index = 0 ↔ ¬world.Challenged index := by
  simp only [hostileCount, found, List.countP_eq_zero, Prod.forall, Bool.and_eq_true, bne_iff_ne]
  constructor
  · rintro nobody ⟨same, other, rival, there, apart, here, present, hostile⟩
    rw [found] at there
    cases there
    exact nobody other rival ((mem_present rostered sheltered).mpr ⟨here, present⟩)
      ⟨apart, hostile⟩
  · rintro alone other rival member ⟨apart, hostile⟩
    obtain ⟨here, present⟩ := (mem_present rostered sheltered).mp member
    exact alone ⟨craft, other, rival, found, apart, here, present, hostile⟩

theorem hasMutualHostiles_iff (rostered : world.Rostered) (sheltered : world.Sheltered) :
    world.hasMutualHostiles = true ↔ world.Divided := by
  simp only [hasMutualHostiles, List.any_eq_true, Prod.exists, Bool.and_eq_true, bne_iff_ne]
  constructor
  · rintro ⟨index, craft, one, other, rival, two, apart, hostile⟩
    obtain ⟨found, present⟩ := (mem_present rostered sheltered).mp one
    obtain ⟨there, here⟩ := (mem_present rostered sheltered).mp two
    exact ⟨index, other, craft, rival, apart, found, present, there, here, hostile⟩
  · rintro ⟨index, other, craft, rival, apart, found, present, there, here, hostile⟩
    exact ⟨index, craft, (mem_present rostered sheltered).mpr ⟨found, present⟩, other, rival,
      (mem_present rostered sheltered).mpr ⟨there, here⟩, apart, hostile⟩

theorem isCleared_setState (world : World) (state : MissionState) :
    (world.setState state).isCleared = world.isCleared := by
  unfold setState
  split
  · rfl
  · rfl

/-- The pilot's spacecraft is in the arena. -/
def Aboard (world : World) : Prop :=
  ∀ index, world.piloted = some index → ∃ craft, world.craft? index = some craft

theorem Aboard.ages {before after : World} (aboard : before.Aboard) (ages : before.Ages after) :
    after.Aboard := by
  intro index piloted
  obtain ⟨craft, found⟩ := aboard index (ages.piloted.symm.trans piloted)
  obtain ⟨later, there, _⟩ := ages.crafts index craft found
  exact ⟨later, there⟩

theorem Aboard.addCraft (aboard : world.Aboard) (craft : Spacecraft) :
    (world.addCraft craft).Aboard := by
  intro index piloted
  simp only [World.addCraft, craft?, Array.getElem?_push] at piloted ⊢
  split at piloted
  · cases piloted
    exact ⟨craft, if_pos rfl⟩
  · obtain ⟨known, found⟩ := aboard index piloted
    have inside := (Array.getElem?_eq_some_iff.mp found).1
    rw [if_neg (Nat.ne_of_lt inside)]
    exact ⟨known, found⟩

end World

namespace LoadedMission

theorem recruitAll_aboard (catalog : Catalog) (implicitTeams : Bool) {world : World}
    (aboard : world.Aboard) (descriptors : List CraftDescriptor) :
    (recruitAll catalog implicitTeams world descriptors).1.Aboard := by
  induction descriptors generalizing world with
  | nil => exact aboard
  | cons descriptor rest ih =>
    obtain ⟨teams, joined⟩ := teamOf_same implicitTeams world descriptor.team
    have teamed : (teamOf implicitTeams world descriptor.team).2.1.Aboard := by
      rw [joined]
      exact aboard
    exact ih (teamed.addCraft _)

end LoadedMission

/-- No action changes the state of a battle. -/
theorem World.battle_kept : World.Kept fun world => world.state = .battle where
  same held state _ _ _ _ _ := state.trans held
  executed action world battle := by
    cases won : action.isWin with
    | true =>
      rw [action.execute_of_isWin world won, World.win, battle]
      exact battle
    | false =>
      cases lost : action.isLose with
      | true =>
        rw [action.execute_of_isLose world lost, World.lose, battle]
        split
        · exact battle
        · exact battle
      | false => exact (action.execute_quiet world won lost).state.trans battle

namespace Mission

variable {π : Type}

theorem ofDescriptor_aboard (descriptor : MissionDescriptor) (catalog : Catalog)
    (settings : Settings) (pools : Pools) :
    (ofDescriptor (π := π) descriptor catalog settings pools).world.Aboard := by
  obtain ⟨teams, empty⟩ := LoadedMission.emptyWorld_same descriptor settings
    (pools.prefill settings.poolSizes)
  have nobody : (LoadedMission.emptyWorld descriptor settings
      (pools.prefill settings.poolSizes)).Aboard := by
    intro index piloted
    rw [empty] at piloted
    cases piloted
  have loaded : (LoadedMission.ofDescriptor descriptor catalog settings
      (pools.prefill settings.poolSizes)).world.Aboard :=
    LoadedMission.recruitAll_aboard catalog descriptor.teams.isEmpty nobody
      (CraftEntry.expandAll descriptor.spacecrafts)
  exact loaded.ages (World.setState_changes _ _).ages

variable [Pilot π]

theorem Reachable.aboard {mission : Mission π} (reachable : mission.Reachable) :
    mission.world.Aboard := by
  obtain ⟨descriptor, catalog, settings, pools, inputs, rfl⟩ := reachable
  exact (ofDescriptor_aboard descriptor catalog settings pools).ages (play_ages _ inputs)

/-- A battle is still one when the state of a step is decided. -/
theorem advance_battle {mission : Mission π} (battle : mission.state = .battle) (dt : Scalar) :
    (mission.advance dt).state = .battle := by
  have ruled := (runRules_through World.battle_kept mission dt battle).after
  exact ((mission.runRules dt).runCrafts_passive dt).world.state.trans ruled

/-- What becomes of a battle in a step, by the pilot and those who are left to fight. -/
theorem tick_battle {mission : Mission π} (battle : mission.state = .battle) {dt : Scalar}
    (accepted : accepts dt = true) :
    (mission.tick dt).state =
      if (mission.tick dt).world.pilotDown then .defeat
      else if (mission.tick dt).world.isCleared then
        (if (mission.tick dt).world.piloted.isSome then .completed else .ended)
      else .battle := by
  have still : (mission.decided dt).world.state = .battle := advance_battle battle dt
  have piloted (world : World) (next : MissionState) :
      (world.setState next).piloted = world.piloted := (world.setState_changes next).ages.piloted
  rw [state, mission.tick_world dt accepted, World.state_setState, World.pilotDown_setState,
    World.isCleared_setState, piloted]
  cases down : (mission.decided dt).world.pilotDown with
  | true => exact (mission.decided dt).nextState_of_down down
  | false => exact (mission.decided dt).nextState_of_battle down still

/-- After every accepted step of a battle, a mission with a pilot is lost if the pilot is dead, won
if nobody else in the arena is present and hostile to the pilot, and goes on otherwise; a mission
without one is over if no two spacecraft of the arena are present and hostile to each other, and
goes on otherwise. -/
theorem battle_ends_exactly (mission : Mission π) (reachable : mission.Reachable)
    (battle : mission.state = .battle) (dt : Scalar) (accepted : accepts dt = true) :
    let later := mission.tick dt
    (∀ index, later.world.piloted = some index →
      ∃ pilot, later.world.craft? index = some pilot ∧
        (pilot.alive = false ∧ later.state = .defeat ∨
          pilot.alive = true ∧ ¬later.world.Challenged index ∧ later.state = .completed ∨
          pilot.alive = true ∧ later.world.Challenged index ∧ later.state = .battle)) ∧
      (later.world.piloted = none →
        ¬later.world.Divided ∧ later.state = .ended ∨
          later.world.Divided ∧ later.state = .battle) := by
  intro later
  have after : later.Reachable := reachable.take (.tick dt)
  have rostered := after.rostered
  have sheltered := after.sheltered
  have decided : later.state = _ := tick_battle battle accepted
  constructor
  · intro index piloted
    obtain ⟨pilot, found⟩ := after.aboard index piloted
    refine ⟨pilot, found, ?_⟩
    have manned : later.world.pilotedCraft? = some pilot := by
      rw [World.pilotedCraft?, piloted]
      exact found
    have down : later.world.pilotDown = !pilot.alive := by
      rw [World.pilotDown, manned, Option.any_some]
    have cleared : later.world.isCleared = true ↔ ¬later.world.Challenged index := by
      rw [World.isCleared, piloted]
      exact beq_iff_eq.trans (World.hostileCount_eq_zero rostered sheltered found)
    rw [down, piloted] at decided
    cases alive : pilot.alive with
    | false =>
      rw [alive] at decided
      exact .inl ⟨rfl, decided⟩
    | true =>
      rw [alive] at decided
      by_cases challenged : later.world.Challenged index
      · rw [if_neg (by decide), if_neg (fun clear => cleared.mp clear challenged)] at decided
        exact .inr (.inr ⟨rfl, challenged, decided⟩)
      · rw [if_neg (by decide), if_pos (cleared.mpr challenged)] at decided
        exact .inr (.inl ⟨rfl, challenged, decided⟩)
  · intro unpiloted
    have down : later.world.pilotDown = false := by
      rw [World.pilotDown, World.pilotedCraft?, unpiloted]
      rfl
    have cleared : later.world.isCleared = true ↔ ¬later.world.Divided := by
      rw [World.isCleared, unpiloted, ← World.hasMutualHostiles_iff rostered sheltered,
        Bool.not_eq_true', Bool.not_eq_true]
    rw [down, unpiloted] at decided
    by_cases divided : later.world.Divided
    · rw [if_neg (by decide), if_neg (fun clear => cleared.mp clear divided)] at decided
      exact .inr ⟨divided, decided⟩
    · rw [if_neg (by decide), if_pos (cleared.mpr divided)] at decided
      exact .inl ⟨divided, decided⟩

/-- A pilot watches two raiders run into each other. -/
def spectacle : Mission Pursuit :=
  ofDescriptor
    { spacecrafts :=
        [.single
            { craftClass := "fighter"
              position := some ⟨0, 0, 1000⟩
              piloted := true },
          .single { craftClass := "interceptor", velocity := ⟨0, 0, 100⟩ },
          .single
            { craftClass := "interceptor"
              position := some ⟨0, 0, 5⟩
              velocity := ⟨0, 0, -100⟩ }] }
    .standard { quality := .low, particles := false } {}

/-- With both of them destroyed in the collisions of a step, the pilot has won in that step. -/
theorem spectacle_completed :
    spectacle.Reachable ∧ spectacle.state = .battle ∧ accepts 16 = true ∧
      ¬(spectacle.tick 16).world.Challenged 0 ∧ (spectacle.tick 16).state = .completed := by
  have reachable : spectacle.Reachable := ⟨_, _, _, _, [], rfl⟩
  have battle : spectacle.state = .battle := by decide +kernel
  have accepted : accepts 16 = true := by decide +kernel
  have piloted : (spectacle.tick 16).world.piloted = some 0 := by decide +kernel
  have won : (spectacle.tick 16).state = .completed := by decide +kernel
  refine ⟨reachable, battle, accepted, ?_, won⟩
  obtain ⟨pilot, _, lost | clear | fight⟩ :=
    (battle_ends_exactly spectacle reachable battle 16 accepted).1 0 piloted
  · exact absurd (won.symm.trans lost.2) (by decide)
  · exact clear.2.1
  · exact absurd (won.symm.trans fight.2.2) (by decide)

end Mission

end Sortie
