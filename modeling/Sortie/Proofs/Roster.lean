import Sortie.Proofs.Blows
import Sortie.Proofs.Loaded

set_option autoImplicit false

namespace Sortie

namespace Spacecraft

/-- Alive and not gone for good. -/
def takesPart (craft : Spacecraft) : Bool := craft.alive && !craft.departed

/-- What commands and damage leave of a spacecraft: its place in the jump sequence, and death. -/
structure Fares (before after : Spacecraft) : Prop where
  isAway : after.isAway = before.isAway
  departed : after.departed = before.departed
  dead : before.alive = false → after.alive = false

theorem Fares.isPresent {before after : Spacecraft} (fares : before.Fares after)
    (present : after.isPresent = true) : before.isPresent = true := by
  simp only [Spacecraft.isPresent, Bool.and_eq_true, Bool.not_eq_true', fares.isAway] at present ⊢
  refine ⟨?_, present.2⟩
  cases alive : before.alive with
  | true => rfl
  | false => rw [fares.dead alive] at present; exact present.1

theorem Fares.takesPart {before after : Spacecraft} (fares : before.Fares after)
    (fighting : after.takesPart = true) : before.takesPart = true := by
  simp only [Spacecraft.takesPart, Bool.and_eq_true, Bool.not_eq_true', fares.departed]
    at fighting ⊢
  refine ⟨?_, fighting.2⟩
  cases alive : before.alive with
  | true => rfl
  | false => rw [fares.dead alive] at fighting; exact fighting.1

theorem fares_bears : Bears Fares where
  mild _ _ mild := ⟨mild.isAway, mild.departed, fun dead => mild.alive.trans dead⟩
  trans _ _ _ early late :=
    ⟨late.isAway.trans early.isAway, late.departed.trans early.departed,
      fun dead => late.dead (early.dead dead)⟩
  isAway _ _ fares := fares.isAway
  damaged craft amount _ :=
    ⟨craft.damage_isAway amount, craft.damage_departed amount, (craft.damage_ages amount).dead⟩
  credited _ _ := ⟨rfl, rfl, fun dead => dead⟩

/-- What one step of flight does to a spacecraft, by the jump that completed in it. -/
inductive Flies (before after : Spacecraft) : Option JumpWay → Prop where
  | on : after.isAway = before.isAway → after.departed = before.departed → Flies before after none
  | out : before.isAway = false → after.isAway = true → after.departed = true →
      Flies before after (some .outward)
  | back : before.isAway = true → after.isAway = false → after.departed = false →
      Flies before after (some .inward)

theorem advanceJump_flies (craft : Spacecraft) (dt : Scalar) :
    craft.Flies (craft.advanceJump dt).2 (craft.advanceJump dt).1 := by
  unfold advanceJump
  cases jump : craft.jump with
  | present => exact .on rfl rfl
  | away => exact .on rfl rfl
  | leaving remaining =>
    dsimp only
    split
    · exact .out (by simp only [isAway, jump]) rfl rfl
    · exact .on (by simp only [isAway, jump]) rfl
  | arriving remaining =>
    dsimp only
    split
    · exact .back (by simp only [isAway, jump]) rfl rfl
    · exact .on (by simp only [isAway, jump]) rfl

theorem recharge_same (craft : Spacecraft) (dt : Scalar) :
    ∃ shield shieldWait, craft.recharge dt = { craft with shield, shieldWait } := by
  unfold recharge
  repeat' split
  all_goals exact ⟨_, _, rfl⟩

theorem advanceJump_same (craft : Spacecraft) (dt : Scalar) :
    ∃ jump departed, (craft.advanceJump dt).2 = { craft with jump, departed } := by
  unfold advanceJump
  repeat' split
  all_goals exact ⟨_, _, rfl⟩

/-- Flight leaves all but motion, timers, shield and jump alone. -/
theorem simulate_same (craft : Spacecraft) (dt : Scalar) :
    ∃ weaponCooldown missileCooldown shield shieldWait jump departed position,
      (craft.simulate dt).2 =
        { craft with
          weaponCooldown, missileCooldown, shield, shieldWait, jump, departed, position } := by
  unfold simulate
  split
  · exact ⟨_, _, _, _, _, _, _, rfl⟩
  · let cooled : Spacecraft :=
      { craft with
        weaponCooldown := (craft.weaponCooldown - dt).orZero
        missileCooldown := (craft.missileCooldown - dt).orZero }
    obtain ⟨shield, shieldWait, charged⟩ := cooled.recharge_same dt
    obtain ⟨jump, departed, jumped⟩ := (cooled.recharge dt).advanceJump_same dt
    rw [charged] at jumped
    dsimp only
    split
    · exact ⟨_, _, _, _, _, _, _, by rw [charged, jumped]⟩
    · exact ⟨_, _, _, _, _, _, _, by rw [charged, jumped]⟩

/-- Flight leaves life, hull and class alone. -/
theorem simulate_lasting (craft : Spacecraft) (dt : Scalar) :
    (craft.simulate dt).2.alive = craft.alive ∧ (craft.simulate dt).2.hull = craft.hull ∧
      (craft.simulate dt).2.craftClass = craft.craftClass := by
  obtain ⟨_, _, _, _, _, _, _, flown⟩ := craft.simulate_same dt
  rw [flown]
  exact ⟨rfl, rfl, rfl⟩

/-- A step of flight is seen by the jump alone. -/
theorem Flies.of_jump {first second third fourth : Spacecraft} {way : Option JumpWay}
    (early : second.jump = first.jump ∧ second.departed = first.departed)
    (flies : second.Flies third way)
    (late : fourth.jump = third.jump ∧ fourth.departed = third.departed) :
    first.Flies fourth way := by
  have before : second.isAway = first.isAway := by rw [isAway, early.1]; rfl
  have after : fourth.isAway = third.isAway := by rw [isAway, late.1]; rfl
  cases flies with
  | on away gone =>
    exact .on ((after.trans away).trans before) ((late.2.trans gone).trans early.2)
  | out here away gone => exact .out (before.symm.trans here) (after.trans away) (late.2.trans gone)
  | back away here kept =>
    exact .back (before.symm.trans away) (after.trans here) (late.2.trans kept)

theorem simulate_flies (craft : Spacecraft) (dt : Scalar) :
    craft.Flies (craft.simulate dt).2 (craft.simulate dt).1 := by
  unfold simulate
  split
  · exact .on rfl rfl
  · let cooled : Spacecraft :=
      { craft with
        weaponCooldown := (craft.weaponCooldown - dt).orZero
        missileCooldown := (craft.missileCooldown - dt).orZero }
    obtain ⟨shield, shieldWait, charged⟩ := cooled.recharge_same dt
    have still : (cooled.recharge dt).jump = craft.jump ∧
        (cooled.recharge dt).departed = craft.departed := by
      rw [charged]
      exact ⟨rfl, rfl⟩
    have jumped := advanceJump_flies (cooled.recharge dt) dt
    dsimp only
    split
    · exact .of_jump still jumped ⟨rfl, rfl⟩
    · exact .of_jump still jumped ⟨rfl, rfl⟩

/-- Only who jumped in is present after a step of flight without having been so before. -/
theorem simulate_isPresent (craft : Spacecraft) (dt : Scalar)
    (present : (craft.simulate dt).2.isPresent = true) :
    craft.isPresent = true ∨ (craft.simulate dt).1 = some .inward := by
  have flies := craft.simulate_flies dt
  simp only [isPresent, Bool.and_eq_true, Bool.not_eq_true', (craft.simulate_lasting dt).1]
    at present ⊢
  generalize (craft.simulate dt).1 = way at flies
  cases flies with
  | on away _ => exact .inl ⟨present.1, away.symm.trans present.2⟩
  | out here _ _ => exact .inl ⟨present.1, here⟩
  | back _ _ _ => exact .inr rfl

end Spacecraft

namespace World

theorem simulateCraft_same (world : World) (dt : Scalar) (index : Nat) :
    ∃ crafts, (world.simulateCraft dt index).2 = { world with crafts } ∧
      crafts.size = world.crafts.size := by
  unfold simulateCraft
  split
  · exact ⟨world.crafts, rfl, rfl⟩
  · exact ⟨_, rfl, by simp⟩

/-- Flight changes nothing but the spacecraft. -/
theorem simulateEach_same (dt : Scalar) (indices : List Nat) (world : World) :
    ∃ crafts, (simulateEach dt indices world).2 = { world with crafts } ∧
      crafts.size = world.crafts.size := by
  induction indices generalizing world with
  | nil => exact ⟨world.crafts, rfl, rfl⟩
  | cons index rest ih =>
    obtain ⟨first, one, size⟩ := world.simulateCraft_same dt index
    obtain ⟨crafts, all, sizes⟩ := ih (world.simulateCraft dt index).2
    refine ⟨crafts, ?_, ?_⟩
    · rw [simulateEach]
      dsimp only
      rw [all, one]
    · rw [sizes, one]
      exact size

theorem craft?_simulateCraft (world : World) (dt : Scalar) (index other : Nat) :
    (world.simulateCraft dt index).2.craft? other =
      if index = other then (world.craft? index).map fun craft => (craft.simulate dt).2
      else world.craft? other := by
  unfold simulateCraft
  split
  · rename_i missing
    split
    · rename_i same
      rw [← same, missing, Option.map_none]
    · rfl
  · rename_i craft found
    dsimp only
    rw [craft?_setCraft, found, Option.map_some, Option.map_some]

/-- Who does not fly stays as it is. -/
theorem simulateEach_other (dt : Scalar) (indices : List Nat) (world : World) {other : Nat}
    (resting : other ∉ indices) :
    (simulateEach dt indices world).2.craft? other = world.craft? other := by
  induction indices generalizing world with
  | nil => rfl
  | cons index rest ih =>
    obtain ⟨apart, others⟩ := List.ne_and_not_mem_of_not_mem_cons resting
    rw [simulateEach]
    dsimp only
    rw [ih _ others, craft?_simulateCraft, if_neg apart.symm]

/-- A relation that flight keeps holds between every spacecraft and what flight makes of it. -/
theorem simulateEach_crafts {R : Spacecraft → Spacecraft → Prop}
    (reflexive : ∀ craft, R craft craft)
    (transitive : ∀ first second third, R first second → R second third → R first third)
    (dt : Scalar) (flown : ∀ craft : Spacecraft, R craft (craft.simulate dt).2)
    (indices : List Nat) (world : World) {other : Nat} {craft : Spacecraft}
    (found : world.craft? other = some craft) :
    ∃ later, (simulateEach dt indices world).2.craft? other = some later ∧ R craft later := by
  induction indices generalizing world craft with
  | nil => exact ⟨craft, found, reflexive craft⟩
  | cons index rest ih =>
    have moved := craft?_simulateCraft world dt index other
    rw [simulateEach]
    dsimp only
    split at moved
    · rename_i same
      subst same
      rw [found, Option.map_some] at moved
      obtain ⟨later, there, related⟩ := ih _ moved
      exact ⟨later, there, transitive _ _ _ (flown craft) related⟩
    · rw [found] at moved
      exact ih _ moved

/-- Who is present after the flight was so before, or jumped in. -/
theorem simulateEach_isPresent (dt : Scalar) (indices : List Nat) (world : World) {other : Nat}
    {craft later : Spacecraft} (found : world.craft? other = some craft)
    (flown : (simulateEach dt indices world).2.craft? other = some later)
    (present : later.isPresent = true) :
    craft.isPresent = true ∨
      (other, some JumpWay.inward) ∈ indices.zip (simulateEach dt indices world).1 := by
  induction indices generalizing world craft with
  | nil =>
    rw [simulateEach] at flown
    dsimp only at flown
    rw [found] at flown
    cases flown
    exact .inl present
  | cons index rest ih =>
    have moved := craft?_simulateCraft world dt index other
    rw [simulateEach] at flown ⊢
    dsimp only at flown ⊢
    rw [List.zip_cons_cons, List.mem_cons]
    split at moved
    · rename_i same
      subst same
      rw [found, Option.map_some] at moved
      rcases ih _ moved flown with before | arrived
      · rcases craft.simulate_isPresent dt before with still | inward
        · exact .inl still
        · refine .inr (.inl ?_)
          simp only [simulateCraft, found, inward]
      · exact .inr (.inr arrived)
    · rw [found] at moved
      rcases ih _ moved flown with before | arrived
      · exact .inl before
      · exact .inr (.inr arrived)

theorem addHitObject_same (world : World) (index : Nat) :
    ∃ hitObjects, world.addHitObject index = { world with hitObjects } := by
  unfold addHitObject
  split
  · exact ⟨world.hitObjects, rfl⟩
  · exact ⟨_, rfl⟩

theorem mem_addHitObject (world : World) (index other : Nat) :
    other ∈ (world.addHitObject index).hitObjects ↔ other ∈ world.hitObjects ∨ other = index := by
  unfold addHitObject
  split
  · rename_i known
    rw [List.contains_iff_mem] at known
    constructor
    · exact .inl
    · rintro (there | rfl)
      · exact there
      · exact known
  · simp only [List.mem_append, List.mem_singleton]

theorem addHitObject_nodup (world : World) (index : Nat) (once : world.hitObjects.Nodup) :
    (world.addHitObject index).hitObjects.Nodup := by
  unfold addHitObject
  split
  · exact once
  · rename_i fresh
    rw [List.contains_iff_mem] at fresh
    refine List.nodup_append.mpr ⟨once, List.pairwise_singleton _ index, ?_⟩
    intro known there other new same
    rw [List.mem_singleton] at new
    rw [same, new] at there
    exact fresh there

/-- Arrivals only change who can be hit: they are added, each once. -/
theorem foldl_addHitObject (world : World) (indices : List Nat) :
    ∃ hitObjects, indices.foldl addHitObject world = { world with hitObjects } ∧
      (∀ other, other ∈ hitObjects ↔ other ∈ world.hitObjects ∨ other ∈ indices) ∧
      (world.hitObjects.Nodup → hitObjects.Nodup) := by
  induction indices generalizing world with
  | nil => exact ⟨world.hitObjects, rfl, by simp, id⟩
  | cons index rest ih =>
    obtain ⟨first, one⟩ := world.addHitObject_same index
    obtain ⟨hitObjects, all, members, once⟩ := ih (world.addHitObject index)
    refine ⟨hitObjects, ?_, ?_, ?_⟩
    · rw [List.foldl_cons, all, one]
    · intro other
      rw [members, mem_addHitObject, List.mem_cons, or_assoc]
    · exact fun before => once (world.addHitObject_nodup index before)

/-- The lists may hold more than they have to, but in order and nothing twice. -/
structure Rostered (world : World) : Prop where
  once : world.hitObjects.Nodup
  hittable : ∀ index ∈ world.hitObjects, index < world.crafts.size
  present : ∀ index craft, world.craft? index = some craft → craft.isPresent = true →
    index ∈ world.hitObjects
  listed : world.listed.Sublist (List.range world.crafts.size)
  fighting : ∀ index craft, world.craft? index = some craft → craft.takesPart = true →
    index ∈ world.listed
  everyone : world.settings.multiActor = true → world.listed = List.range world.crafts.size

/-- Each present spacecraft can be hit, once, and nothing else can; those that take part are listed
in ascending order or, where all participants number alike, the whole arena is. -/
structure Exact (world : World) : Prop where
  once : world.hitObjects.Nodup
  hittable : ∀ index,
    index ∈ world.hitObjects ↔ ∃ craft, world.craft? index = some craft ∧ craft.isPresent = true
  listed : world.listed = (List.range world.crafts.size).filter fun index =>
    world.settings.multiActor ||
      (world.craft? index).any fun craft => craft.alive && !craft.departed

theorem Rostered.proceeds {before after : World} (rostered : before.Rostered)
    (proceeds : Proceeds Spacecraft.Fares before after) : after.Rostered where
  once := by rw [proceeds.hitObjects]; exact rostered.once
  hittable := by rw [proceeds.hitObjects, proceeds.size]; exact rostered.hittable
  present index later found present := by
    obtain ⟨craft, there, fares⟩ := proceeds.before found
    rw [proceeds.hitObjects]
    exact rostered.present index craft there (fares.isPresent present)
  listed := by rw [proceeds.listed, proceeds.size]; exact rostered.listed
  fighting index later found fighting := by
    obtain ⟨craft, there, fares⟩ := proceeds.before found
    rw [proceeds.listed]
    exact rostered.fighting index craft there (fares.takesPart fighting)
  everyone := by rw [proceeds.settings, proceeds.listed, proceeds.size]; exact rostered.everyone

theorem Exact.rostered {world : World} (exact : world.Exact) : world.Rostered where
  once := exact.once
  hittable index member := by
    obtain ⟨craft, found, _⟩ := (exact.hittable index).mp member
    exact (Array.getElem?_eq_some_iff.mp found).1
  present index craft found present := (exact.hittable index).mpr ⟨craft, found, present⟩
  listed := by rw [exact.listed]; exact List.filter_sublist
  fighting index craft found fighting := by
    rw [exact.listed, List.mem_filter, List.mem_range]
    refine ⟨(Array.getElem?_eq_some_iff.mp found).1, ?_⟩
    rw [found]
    exact Bool.or_eq_true_iff.mpr (.inr fighting)
  everyone multi := by
    rw [exact.listed, multi]
    exact List.filter_true _

/-- Pruning makes the lists exact. -/
theorem prune_exact {world : World} (rostered : world.Rostered) : world.prune.Exact where
  once := rostered.once.filter _
  hittable index := by
    simp only [prune, List.mem_filter, Option.any_eq_true]
    constructor
    · rintro ⟨_, craft, found, present⟩
      exact ⟨craft, found, present⟩
    · rintro ⟨craft, found, present⟩
      exact ⟨rostered.present index craft found present, craft, found, present⟩
  listed := by
    unfold prune
    dsimp only
    cases multi : world.settings.multiActor with
    | true =>
      rw [if_pos rfl, rostered.everyone multi]
      exact (List.filter_true _).symm
    | false =>
      -- The list is a part of the arena in order, and filtered down to all that take part.
      rw [if_neg Bool.false_ne_true]
      simp only [Bool.false_or]
      refine (rostered.listed.filter _).eq_of_length (List.Perm.length_eq ?_)
      refine (List.perm_ext_iff_of_nodup ?_ (List.nodup_range.filter _)).mpr fun index => ?_
      · exact (List.nodup_range.sublist rostered.listed).filter _
      · simp only [List.mem_filter, Option.any_eq_true]
        constructor
        · rintro ⟨member, fighting⟩
          exact ⟨rostered.listed.subset member, fighting⟩
        · rintro ⟨_, craft, found, fighting⟩
          exact ⟨rostered.fighting index craft found fighting, craft, found, fighting⟩

/-- The world after the flight of a step, before its lists are pruned. -/
def flyAll (world : World) (dt : Scalar) : World :=
  let (completed, after) := simulateEach dt world.listed world
  let arrived := (world.listed.zip completed).filter fun craft => craft.2 == some .inward
  (arrived.map Prod.fst).foldl addHitObject after

theorem simulateCrafts_eq_prune (world : World) (dt : Scalar) :
    world.simulateCrafts dt = (world.flyAll dt).prune := rfl

/-- Flight and arrivals keep the lists up. -/
theorem flyAll_rostered {world : World} (rostered : world.Rostered) (dt : Scalar) :
    (world.flyAll dt).Rostered := by
  unfold flyAll
  dsimp only
  obtain ⟨crafts, flown, size⟩ := simulateEach_same dt world.listed world
  generalize arrivals : ((world.listed.zip (simulateEach dt world.listed world).1).filter
    fun craft => craft.2 == some JumpWay.inward) = arrived
  obtain ⟨hitObjects, added, members, once⟩ :=
    foldl_addHitObject (simulateEach dt world.listed world).2 (arrived.map Prod.fst)
  rw [added]
  have before {index : Nat} {later : Spacecraft}
      (found : (simulateEach dt world.listed world).2.craft? index = some later) :
      ∃ craft, world.craft? index = some craft := by
    have inside := (Array.getElem?_eq_some_iff.mp found).1
    rw [flown, size] at inside
    exact ⟨_, Array.getElem?_eq_getElem inside⟩
  refine ⟨?_, ?_, ?_, ?_, ?_, ?_⟩
  · refine once ?_
    rw [flown]
    exact rostered.once
  · intro index member
    simp only [flown, size]
    rcases (members index).mp member with known | new
    · rw [flown] at known
      exact rostered.hittable index known
    · simp only [← arrivals, List.mem_map, List.mem_filter] at new
      obtain ⟨⟨flier, way⟩, ⟨flying, _⟩, rfl⟩ := new
      exact List.mem_range.mp (rostered.listed.subset (List.of_mem_zip flying).1)
  · intro index later found present
    obtain ⟨craft, there⟩ := before found
    refine (members index).mpr ?_
    rcases simulateEach_isPresent dt world.listed world there found present with still | arrived
    · left
      rw [flown]
      exact rostered.present index craft there still
    · right
      simp only [← arrivals, List.mem_map, List.mem_filter]
      exact ⟨_, ⟨arrived, rfl⟩, rfl⟩
  · simp only [flown, size]
    exact rostered.listed
  · intro index later found fighting
    show index ∈ (simulateEach dt world.listed world).2.listed
    rw [flown]
    -- Who is not listed does not fly, and so takes part only if it did before.
    by_cases resting : index ∈ world.listed
    · exact resting
    · have same := simulateEach_other dt world.listed world resting
      exact rostered.fighting index later (same.symm.trans found) fighting
  · simp only [flown, size]
    exact rostered.everyone

/-- The flight of a step makes the lists exact. -/
theorem simulateCrafts_exact {world : World} (rostered : world.Rostered) (dt : Scalar) :
    (world.simulateCrafts dt).Exact := by
  rw [simulateCrafts_eq_prune]
  exact prune_exact (flyAll_rostered rostered dt)

end World

namespace World

theorem Rostered.addTeam {world : World} (rostered : world.Rostered) (team : Team) :
    (world.addTeam team).Rostered := by
  obtain ⟨teams, added⟩ := world.addTeam_same team
  rw [added]
  exact ⟨rostered.once, rostered.hittable, rostered.present, rostered.listed, rostered.fighting,
    rostered.everyone⟩

theorem Rostered.addCraft {world : World} (rostered : world.Rostered) (craft : Spacecraft) :
    (world.addCraft craft).Rostered where
  once := by
    unfold World.addCraft
    dsimp only
    split
    · refine List.nodup_append.mpr ⟨rostered.once, List.pairwise_singleton _ _, ?_⟩
      intro known there other new same
      rw [List.mem_singleton] at new
      have inside := rostered.hittable known there
      omega
    · exact rostered.once
  hittable index member := by
    simp only [World.addCraft, Array.size_push] at member ⊢
    split at member
    · rcases List.mem_append.mp member with known | new
      · exact Nat.lt_succ_of_lt (rostered.hittable index known)
      · rw [List.mem_singleton.mp new]
        exact Nat.lt_succ_self _
    · exact Nat.lt_succ_of_lt (rostered.hittable index member)
  present index later found present := by
    simp only [World.addCraft, craft?, Array.getElem?_push] at found ⊢
    split at found
    · rename_i last
      cases found
      rw [if_pos present, last]
      exact List.mem_append_right _ (List.mem_singleton_self _)
    · have known := rostered.present index later found present
      split
      · exact List.mem_append_left _ known
      · exact known
  listed := by
    simp only [World.addCraft, Array.size_push, List.range_succ]
    exact rostered.listed.append (List.Sublist.refl _)
  fighting index later found fighting := by
    simp only [World.addCraft, craft?, Array.getElem?_push] at found ⊢
    split at found
    · rename_i last
      rw [last]
      exact List.mem_append_right _ (List.mem_singleton_self _)
    · exact List.mem_append_left _ (rostered.fighting index later found fighting)
  everyone multi := by
    simp only [World.addCraft, Array.size_push, List.range_succ]
    rw [rostered.everyone multi]

end World

namespace LoadedMission

theorem emptyWorld_rostered (mission : MissionDescriptor) (settings : Settings) (pools : Pools) :
    (emptyWorld mission settings pools).Rostered := by
  have adding (teams : List Team) (world : World) (rostered : world.Rostered) :
      (teams.foldl World.addTeam world).Rostered := by
    induction teams generalizing world with
    | nil => exact rostered
    | cons team rest ih => exact ih _ (rostered.addTeam team)
  refine adding _ _ ⟨List.nodup_nil, ?_, ?_, ?_, ?_, fun _ => rfl⟩
  · intro index member
    cases member
  · intro index craft found
    cases found
  · exact List.Sublist.refl _
  · intro index craft found
    cases found

theorem teamOf_rostered (implicitTeams : Bool) {world : World} (rostered : world.Rostered)
    (team : Option String) : (teamOf implicitTeams world team).2.1.Rostered := by
  unfold teamOf
  repeat' split
  · exact rostered
  · exact rostered
  · exact rostered.addTeam _
  · exact rostered

theorem recruitAll_rostered (catalog : Catalog) (implicitTeams : Bool) {world : World}
    (rostered : world.Rostered) (descriptors : List CraftDescriptor) :
    (recruitAll catalog implicitTeams world descriptors).1.Rostered := by
  induction descriptors generalizing world with
  | nil => exact rostered
  | cons descriptor rest ih =>
    exact ih ((teamOf_rostered implicitTeams rostered descriptor.team).addCraft _)

end LoadedMission

open World (Changes)
open World.ChangeKind (settling moving)

namespace Mission

variable {π : Type}

theorem ofDescriptor_rostered (descriptor : MissionDescriptor) (catalog : Catalog)
    (settings : Settings) (pools : Pools) :
    (ofDescriptor (π := π) descriptor catalog settings pools).world.Rostered := by
  have recruited := LoadedMission.recruitAll_rostered catalog descriptor.teams.isEmpty
    (LoadedMission.emptyWorld_rostered descriptor settings (pools.prefill settings.poolSizes))
    (CraftEntry.expandAll descriptor.spacecrafts)
  refine World.Rostered.proceeds ?_
    ((World.setState_changes _ _).proceeds Spacecraft.fares_bears.toSpans (by decide))
  exact ⟨recruited.once, recruited.hittable, recruited.present, recruited.listed,
    recruited.fighting, recruited.everyone⟩

theorem runRules_rostered (mission : Mission π) (dt : Scalar)
    (rostered : mission.world.Rostered) : (mission.runRules dt).world.Rostered := by
  have changes := (mission.advanceTime_runDueActions_changes dt).trans
    ((ruled_changes _ dt).mono (by decide))
  have ruled := rostered.proceeds (changes.proceeds Spacecraft.fares_bears.toSpans (by decide))
  rw [runRules, runEvents_world]
  exact ⟨ruled.once, ruled.hittable, ruled.present, ruled.listed, ruled.fighting, ruled.everyone⟩

variable [Pilot π]

/-- The mission after the flight of a step. -/
def flown (mission : Mission π) (dt : Scalar) : Mission π :=
  ((mission.runRules dt).controlCrafts dt).simulateCrafts dt

/-- The mission after the collisions and shots of a step. -/
def fought (mission : Mission π) (dt : Scalar) : Mission π :=
  (mission.flown dt).resolveCollisions.simulateWeapons dt

theorem tick_eq_settle (mission : Mission π) (dt : Scalar) (accepted : accepts dt = true) :
    mission.tick dt =
      (((mission.fought dt).simulateEffects dt).recenterOrigin).updateState :=
  mission.tick_of_accepts dt accepted

theorem flown_exact (mission : Mission π) (dt : Scalar) (rostered : mission.world.Rostered) :
    (mission.flown dt).world.Exact :=
  World.simulateCrafts_exact ((mission.runRules_rostered dt rostered).proceeds
    ((controlCrafts_changes _ dt).proceeds Spacecraft.fares_bears.toSpans (by decide))) dt

theorem fought_tick_changes (mission : Mission π) {dt : Scalar} (accepted : accepts dt = true) :
    Changes settling (mission.fought dt).world (mission.tick dt).world := by
  rw [mission.tick_eq_settle dt accepted]
  exact settle_changes _ dt

theorem flown_changes (mission : Mission π) (dt : Scalar) :
    Changes moving (mission.runRules dt).world (mission.flown dt).world :=
  ((controlCrafts_changes _ dt).mono (by decide)).trans
    ((World.simulateCrafts_changes _ dt).mono (by decide))

theorem tick_changes (mission : Mission π) {dt : Scalar} (accepted : accepts dt = true) :
    Changes World.ChangeKind.all mission.world (mission.tick dt).world := by
  have flown : Changes World.ChangeKind.all mission.world (mission.flown dt).world :=
    ((mission.runRules_changes dt).mono (by decide)).trans
      ((mission.flown_changes dt).mono (by decide))
  exact (flown.trans ((fight_changes _ dt).mono (by decide))).trans
    ((mission.fought_tick_changes accepted).mono (by decide))

theorem take_rostered (mission : Mission π) (input : Input π)
    (rostered : mission.world.Rostered) : (mission.take input).world.Rostered := by
  rcases mission.take_cases input with ⟨dt, rfl, accepted⟩ | ⟨world, _, _⟩
  · have exact := mission.flown_exact dt rostered
    exact (exact.rostered.proceeds (fight_proceeds Spacecraft.fares_bears _ dt)).proceeds
      ((mission.fought_tick_changes accepted).proceeds Spacecraft.fares_bears.toSpans (by decide))
  · rw [world]
    exact rostered

theorem Reachable.rostered {mission : Mission π} (reachable : mission.Reachable) :
    mission.world.Rostered := by
  obtain ⟨descriptor, catalog, settings, pools, inputs, rfl⟩ := reachable
  exact play_keeps (fun mission => mission.world.Rostered) take_rostered _ inputs
    (ofDescriptor_rostered _ _ _ _)

/-- In every step of every run the lists are exact after the flight; at the end of the step each
present spacecraft can still be hit, once, and whatever else is listed as such was present after the
flight and was destroyed by the collisions and shots of this step. -/
theorem lists_exact_in_every_step (mission : Mission π) (reachable : mission.Reachable)
    (dt : Scalar) (accepted : accepts dt = true) :
    (mission.flown dt).world.Exact ∧
      (mission.tick dt).world.hitObjects.Nodup ∧
      (∀ index craft, (mission.tick dt).world.craft? index = some craft →
        craft.isPresent = true → index ∈ (mission.tick dt).world.hitObjects) ∧
      ∀ index ∈ (mission.tick dt).world.hitObjects, ∃ craft,
        (mission.tick dt).world.craft? index = some craft ∧
          (craft.isPresent = true ∨
            ∃ before after, (mission.flown dt).world.craft? index = some before ∧
              before.alive = true ∧ (mission.fought dt).world.craft? index = some after ∧
              after.alive = false) := by
  have exact := mission.flown_exact dt reachable.rostered
  have fight : World.Proceeds Spacecraft.Fares (mission.flown dt).world
      (mission.fought dt).world := fight_proceeds Spacecraft.fares_bears _ dt
  have rest := (mission.fought_tick_changes accepted).proceeds Spacecraft.mild_spans (by decide)
  have final := (exact.rostered.proceeds fight).proceeds
    ((mission.fought_tick_changes accepted).proceeds Spacecraft.fares_bears.toSpans (by decide))
  refine ⟨exact, final.once, final.present, ?_⟩
  intro index member
  rw [rest.hitObjects, fight.hitObjects] at member
  obtain ⟨before, there, present⟩ := (exact.hittable index).mp member
  obtain ⟨after, struck, fares⟩ := fight.crafts index before there
  obtain ⟨last, here, mild⟩ := rest.crafts index after struck
  refine ⟨last, here, ?_⟩
  simp only [Spacecraft.isPresent, Bool.and_eq_true, Bool.not_eq_true', mild.isAway, mild.alive,
    fares.isAway] at present ⊢
  cases alive : after.alive with
  | true => exact .inl ⟨rfl, present.2⟩
  | false => exact .inr ⟨before, after, there, present.1, struck, alive⟩

/-- Two spacecraft that run into each other. -/
def crash : Mission Pursuit :=
  ofDescriptor
    { spacecrafts :=
        [.single { craftClass := "interceptor", velocity := ⟨0, 0, 100⟩ },
          .single
            { craftClass := "interceptor"
              position := some ⟨0, 0, 5⟩
              velocity := ⟨0, 0, -100⟩ }] }
    .standard { quality := .low, particles := false } {}

/-- Both are destroyed, and can be hit until the flight of the next step. -/
theorem wrecks_stay_listed :
    accepts 16 = true ∧ (crash.flown 16).world.Exact ∧
      (crash.tick 16).world.hitObjects = [0, 1] ∧
      ((crash.tick 16).world.crafts.map fun craft => craft.alive) = #[false, false] := by
  have accepted : accepts 16 = true := by decide +kernel
  have reachable : crash.Reachable := ⟨_, _, _, _, [], rfl⟩
  refine ⟨accepted, ?_, by decide +kernel, by decide +kernel⟩
  exact (lists_exact_in_every_step crash reachable 16 accepted).1

end Mission

end Sortie
