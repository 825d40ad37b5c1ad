import Sortie.Proofs.Changes

set_option autoImplicit false

namespace Sortie

namespace Spacecraft

/-- What becomes of a spacecraft: it stays who it is, and once dead it stays dead. -/
structure Ages (before after : Spacecraft) : Prop where
  id : after.id = before.id
  squad : after.squad = before.squad
  team : after.team = before.team
  dead : before.alive = false → after.alive = false

/-- Who a spacecraft is, and whether it is alive. -/
def lot (craft : Spacecraft) : String × Option Squad × Option String × Bool :=
  (craft.id, craft.squad, craft.team, craft.alive)

theorem Ages.of_lot {before after : Spacecraft} (same : after.lot = before.lot) :
    before.Ages after := by
  simp only [lot, Prod.mk.injEq] at same
  obtain ⟨id, squad, team, alive⟩ := same
  exact ⟨id, squad, team, fun dead => alive.trans dead⟩

theorem Ages.refl (craft : Spacecraft) : craft.Ages craft := .of_lot rfl

theorem Ages.trans {first second third : Spacecraft} (early : first.Ages second)
    (late : second.Ages third) : first.Ages third :=
  ⟨late.id.trans early.id, late.squad.trans early.squad, late.team.trans early.team,
    fun dead => late.dead (early.dead dead)⟩

theorem setTarget_ages (craft : Spacecraft) (target : Option Nat) :
    craft.Ages (craft.setTarget target).2 := by
  unfold setTarget
  split
  · exact Ages.refl craft
  · exact .of_lot rfl

theorem obey_ages (craft : Spacecraft) (command : Command) : craft.Ages (craft.obey command).2 := by
  cases command with
  | jump way =>
    cases way <;> cases jump : craft.jump <;> simp only [obey, jump] <;>
      first | exact Ages.refl craft | (split <;> exact .of_lot rfl)
  | target single list priority =>
    have listed : craft.Ages { craft with targetList := list, priorityTargets := priority } :=
      .of_lot rfl
    simp only [obey]
    split
    · exact listed
    · exact listed.trans (setTarget_ages _ _)
  | reachDistance goal => exact .of_lot rfl

theorem steer_ages (craft : Spacecraft) (intent : Intent) (dt : Scalar) :
    craft.Ages (craft.steer intent dt) := by
  unfold steer
  split
  · exact Ages.refl craft
  · exact .of_lot rfl

theorem damage_ages (craft : Spacecraft) (amount : Scalar) :
    craft.Ages (craft.damage amount).2 := by
  unfold damage
  split
  · exact Ages.refl craft
  · rename_i struck
    refine ⟨rfl, rfl, rfl, ?_⟩
    intro dead
    simp [dead] at struck

theorem recharge_ages (craft : Spacecraft) (dt : Scalar) : craft.Ages (craft.recharge dt) := by
  unfold recharge
  repeat' split
  all_goals exact .of_lot rfl

theorem advanceJump_ages (craft : Spacecraft) (dt : Scalar) :
    craft.Ages (craft.advanceJump dt).2 := by
  unfold advanceJump
  repeat' split
  all_goals exact .of_lot rfl

theorem simulate_ages (craft : Spacecraft) (dt : Scalar) : craft.Ages (craft.simulate dt).2 := by
  unfold simulate
  split
  · exact Ages.refl craft
  · have cooled : craft.Ages
        { craft with
          weaponCooldown := (craft.weaponCooldown - dt).orZero
          missileCooldown := (craft.missileCooldown - dt).orZero } := .of_lot rfl
    have jumped := (cooled.trans (recharge_ages _ dt)).trans (advanceJump_ages _ dt)
    dsimp only
    split
    · exact jumped.trans (.of_lot rfl)
    · exact jumped

end Spacecraft

namespace World

/-- If none is added and each is related to what becomes of it, everyone there later was there
before. -/
theorem craft?_before {R : Spacecraft → Spacecraft → Prop} {before after : World}
    (size : after.crafts.size = before.crafts.size)
    (crafts : ∀ index craft, before.craft? index = some craft →
      ∃ later, after.craft? index = some later ∧ R craft later)
    {index : Nat} {later : Spacecraft} (found : after.craft? index = some later) :
    ∃ craft, before.craft? index = some craft ∧ R craft later := by
  have inside : index < before.crafts.size := by
    rw [← size]
    exact (Array.getElem?_eq_some_iff.mp found).1
  have there : before.craft? index = some before.crafts[index] := Array.getElem?_eq_getElem inside
  obtain ⟨same, here, related⟩ := crafts index _ there
  rw [found] at here
  cases here
  exact ⟨_, there, related⟩

/-- What becomes of the spacecraft of a world: none is added or removed, and each of them ages. -/
structure Ages (before after : World) : Prop where
  piloted : after.piloted = before.piloted
  size : after.crafts.size = before.crafts.size
  crafts : ∀ index craft, before.craft? index = some craft →
    ∃ later, after.craft? index = some later ∧ craft.Ages later

theorem Ages.refl (world : World) : world.Ages world :=
  ⟨rfl, rfl, fun _ craft found => ⟨craft, found, .refl craft⟩⟩

theorem Ages.trans {first second third : World} (early : first.Ages second)
    (late : second.Ages third) : first.Ages third := by
  refine ⟨late.piloted.trans early.piloted, late.size.trans early.size, ?_⟩
  intro index craft found
  obtain ⟨middle, there, grown⟩ := early.crafts index craft found
  obtain ⟨last, here, older⟩ := late.crafts index middle there
  exact ⟨last, here, grown.trans older⟩

/-- Worlds with the same spacecraft, apart from all else. -/
theorem Ages.of_same {before after : World} (piloted : after.piloted = before.piloted)
    (crafts : after.crafts = before.crafts) : before.Ages after := by
  refine ⟨piloted, by rw [crafts], ?_⟩
  intro index craft found
  exact ⟨craft, by simpa only [craft?, crafts] using found, .refl craft⟩

/-- Whether there is a piloted spacecraft and it is destroyed. -/
def pilotDown (world : World) : Bool := world.pilotedCraft?.any fun pilot => !pilot.alive

theorem Ages.pilotDown {before after : World} (ages : before.Ages after)
    (down : before.pilotDown = true) : after.pilotDown = true := by
  simp only [World.pilotDown, pilotedCraft?, Option.any_eq_true, Option.bind_eq_some_iff] at down ⊢
  obtain ⟨pilot, ⟨index, piloted, found⟩, dead⟩ := down
  obtain ⟨later, here, grown⟩ := ages.crafts index pilot found
  refine ⟨later, ⟨index, ages.piloted.trans piloted, here⟩, ?_⟩
  simpa using grown.dead (by simpa using dead)

theorem setCraft_ages {world : World} {index : Nat} {craft fresh : Spacecraft}
    (found : world.craft? index = some craft) (grown : craft.Ages fresh) :
    world.Ages (world.setCraft index fresh) := by
  refine ⟨rfl, by simp [setCraft], ?_⟩
  intro other old present
  rw [craft?_setCraft]
  by_cases same : index = other
  · subst same
    rw [found] at present
    cases present
    exact ⟨fresh, by simp [found], grown⟩
  · exact ⟨old, by simp [same, present], .refl old⟩

theorem Ages.withPools {before after : World} (ages : before.Ages after) (pools : Pools) :
    before.Ages { after with pools } :=
  ages.trans (.of_same rfl rfl)

theorem translate_ages (world : World) (offset : Vec) : world.Ages (world.translate offset) := by
  refine ⟨rfl, by simp [translate], ?_⟩
  intro index craft found
  refine ⟨craft.translate offset, ?_, .of_lot rfl⟩
  simp only [craft?, translate, Array.getElem?_map] at found ⊢
  rw [found, Option.map_some]

variable {kind : ChangeKind} {kinds : List ChangeKind} {before after : World}

/-- Whatever changes, spacecraft age. -/
theorem Change.ages (change : Change kind before after) : before.Ages after := by
  cases change with
  | aim target found => exact setCraft_ages found (Spacecraft.setTarget_ages _ target)
  | steer intent dt found => exact setCraft_ages found (Spacecraft.steer_ages _ intent dt)
  | fire _ _ _ _ _ found =>
    apply Ages.withPools
    exact setCraft_ages found (.of_lot rfl)
  | launch _ _ _ _ _ found =>
    apply Ages.withPools
    exact setCraft_ages found (.of_lot rfl)
  | obey command found => exact setCraft_ages found (Spacecraft.obey_ages _ command)
  | fly dt found => exact setCraft_ages found (Spacecraft.simulate_ages _ dt)
  | push _ _ found => exact setCraft_ages found (.of_lot rfl)
  | harm amount found => exact setCraft_ages found (Spacecraft.damage_ages _ amount)
  | credit _ found => exact setCraft_ages found (.of_lot rfl)
  | count found => exact setCraft_ages found (.of_lot rfl)
  | shift offset => exact translate_ages _ offset
  | _ => exact .of_same rfl rfl

theorem Changes.ages (changes : Changes kinds before after) : before.Ages after :=
  changes.lift .refl (fun _ _ _ early late => early.trans late) fun _ _ _ _ change => change.ages

/-- The changes of state that a world has told of, in order. -/
def told (world : World) : List (MissionState × MissionState) :=
  world.observations.toList.filterMap Observation.change?

theorem told_observe (world : World) (observation : Observation) :
    (world.observe observation).told = world.told ++ observation.change?.toList := by
  simp only [told, observe, Array.toList_push, List.filterMap_append]
  cases change : observation.change? with
  | none => simp [change]
  | some pair => simp [change]

/-- A change that is none of the mission's state, nor of what has fired or waits. -/
structure Quiet (before after : World) : Prop extends before.Ages after where
  state : after.state = before.state
  told : after.told = before.told
  fires : after.fires = before.fires
  queue : after.queue = before.queue

theorem Quiet.refl (world : World) : world.Quiet world := ⟨.refl world, rfl, rfl, rfl, rfl⟩

theorem Quiet.trans {first second third : World} (early : first.Quiet second)
    (late : second.Quiet third) : first.Quiet third :=
  ⟨early.toAges.trans late.toAges, late.state.trans early.state,
    late.told.trans early.told, late.fires.trans early.fires, late.queue.trans early.queue⟩

theorem Change.quiet (change : Change kind before after)
    (plain : kind ∉ [.state, .record, .await]) : before.Quiet after := by
  have ages := change.ages
  cases change with
  | state | record | await => exact absurd (by decide) plain
  | observe untold =>
    refine ⟨ages, rfl, ?_, rfl, rfl⟩
    rw [told_observe, untold, Option.toList_none, List.append_nil]
  | _ => exact ⟨ages, rfl, rfl, rfl, rfl⟩

/-- All that is done without a change of state and of what has fired or waits is quiet. -/
theorem Changes.quiet (changes : Changes kinds before after)
    (plain : ∀ kind ∈ kinds, kind ∉ [.state, .record, .await]) : before.Quiet after :=
  changes.lift .refl (fun _ _ _ early late => early.trans late) fun kind member _ _ change =>
    change.quiet (plain kind member)

/-- A change of the mission's state changes nothing else, and is told. -/
theorem setState_eq (world : World) (state : MissionState) :
    world.setState state = { world with
      state
      observations :=
        if world.state = state then world.observations
        else world.observations.push (.state world.state state) } := by
  unfold setState
  split
  · rename_i same
    rw [← same]
  · rfl

theorem setState_crafts (world : World) (state : MissionState) :
    (world.setState state).crafts = world.crafts := by
  rw [setState_eq]

end World

namespace Action

/-- Only a win and a loss are more than a quiet change. -/
theorem execute_quiet (action : Action) (world : World) (notWin : action.isWin = false)
    (notLose : action.isLose = false) : world.Quiet (action.execute world).2 :=
  (action.execute_acts world notWin notLose).quiet (by decide)

end Action

end Sortie
